/-
  SyncFleet/Proofs/Metrics/Throttle.lean
  ======================================
  **A worker is scanned by one scan at a time, more than a minute apart.**

  From a log one reads when the scans of a worker began and how they ended.
  `Timeline` ties these lists to the state of the worker's scans; the beginning
  of a scan and its end keep it.  The counts and the size that is shown are those
  of all workers whose names have one key (`Metering.KeepsSeries`).  Every action
  keeps both, so that they hold after every run (`Run.keepsTime`,
  `Run.keepsSeries`).
-/
import SyncFleet.Proofs.Metrics.Metering

namespace SyncFleet

/-! ### The scans of one worker -/

/-- When the scans of a worker began and how they ended, as the state of its scans, the number of
    those under way and the clock have it. -/
structure Timeline (scan : Option Scan) (underWay now : Nat) (begun : List Nat)
    (ended : List ScanEnd) : Prop where
  state : (scan = none ∧ underWay = 0 ∧ begun = [] ∧ ended = []) ∨
    (scan = some .underWay ∧ underWay = 1 ∧ begun.length = ended.length + 1) ∨
    (underWay = 0 ∧ begun.length = ended.length ∧
      ∃ e : ScanEnd, scan = some (.ended e.time) ∧ ended.getLast? = some e)
  begunBefore : ∀ b ∈ begun, b ≤ now
  endedBefore : ∀ e ∈ ended, e.time ≤ now
  /-- the scan that ended last did so after all others -/
  latest : ∀ e ∈ ended, ∀ last ∈ ended.getLast?, e.time ≤ last.time
  /-- a scan ends after it has begun -/
  lasting : ∀ (k : Nat) (e : ScanEnd), ended[k]? = some e → ∃ b, begun[k]? = some b ∧ b ≤ e.time
  /-- a scan begins more than the throttle after each of those before it has ended -/
  spaced : ∀ (k l b : Nat), k < l → begun[l]? = some b →
    ∃ e : ScanEnd, ended[k]? = some e ∧ e.time + Exporter.throttle < b

namespace Timeline

variable {scan : Option Scan} {underWay now now' : Nat} {begun : List Nat} {ended : List ScanEnd}

theorem fresh (now : Nat) : Timeline none 0 now [] [] where
  state := Or.inl ⟨rfl, rfl, rfl, rfl⟩
  begunBefore := by simp
  endedBefore := by simp
  latest := by simp
  lasting := by simp
  spaced := by simp

theorem later (h : Timeline scan underWay now begun ended) (hle : now ≤ now') :
    Timeline scan underWay now' begun ended where
  state := h.state
  begunBefore b hb := Nat.le_trans (h.begunBefore b hb) hle
  endedBefore e he := Nat.le_trans (h.endedBefore e he) hle
  latest := h.latest
  lasting := h.lasting
  spaced := h.spaced

theorem underWay_le (h : Timeline scan underWay now begun ended) : underWay ≤ 1 := by
  rcases h.state with ⟨_, h, _⟩ | ⟨_, h, _⟩ | ⟨h, _⟩ <;> omega

theorem length_begun (h : Timeline scan underWay now begun ended) :
    begun.length = ended.length + underWay := by
  rcases h.state with ⟨_, hn, hbegun, hended⟩ | ⟨_, hn, hlength⟩ | ⟨hn, hlength, _⟩
  · simp [hn, hbegun, hended]
  · rw [hn, hlength]
  · rw [hn, hlength, Nat.add_zero]

/-- A scan may begin if none is under way and more than the throttle has passed since the last one
    ended. -/
theorem permits_iff (h : Timeline scan underWay now begun ended) :
    permits scan now = true ↔
      underWay = 0 ∧ ∀ e ∈ ended.getLast?, e.time + Exporter.throttle < now := by
  unfold permits
  rcases h.state with ⟨hscan, hn, _, hended⟩ | ⟨hscan, hn, _⟩ | ⟨hn, _, e, hscan, hlast⟩
  · simp [hscan, hn, hended]
  · simp [hscan, hn]
  · have hle := h.endedBefore e (List.mem_of_getLast? hlast)
    simp only [hscan, hn, hlast, decide_eq_true_eq, Option.mem_def, Option.some.injEq,
      forall_eq', true_and]
    omega

theorem begin (h : Timeline scan underWay now begun ended) (hn : underWay = 0)
    (hdue : ∀ e ∈ ended.getLast?, e.time + Exporter.throttle < now) :
    Timeline (some .underWay) 1 now (begun ++ [now]) ended where
  state := by
    refine Or.inr (Or.inl ⟨rfl, rfl, ?_⟩)
    rw [List.length_append, h.length_begun, hn]
    rfl
  begunBefore b hb := by
    rcases List.mem_append.mp hb with hb | hb
    · exact h.begunBefore b hb
    · exact Nat.le_of_eq (List.mem_singleton.mp hb)
  endedBefore := h.endedBefore
  latest := h.latest
  lasting k e he := by
    obtain ⟨b, hb, hle⟩ := h.lasting k e he
    exact ⟨b, getElem?_snoc_of_some hb, hle⟩
  spaced k l b hlt hb := by
    rcases getElem?_snoc_cases hb with hb | ⟨hl, hnow⟩
    · exact h.spaced k l b hlt hb
    · -- all scans before the new one have ended, none of them after the last one to end
      have hk : k < ended.length := by
        have hlength := h.length_begun
        omega
      have hne : ended ≠ [] := List.ne_nil_of_length_pos (Nat.zero_lt_of_lt hk)
      obtain ⟨last, hlast⟩ : ∃ last, ended.getLast? = some last :=
        ⟨_, List.getLast?_eq_some_getLast hne⟩
      have hmem : ended[k] ∈ ended := List.getElem_mem hk
      have hle := h.latest _ hmem last hlast
      have hlt' := hdue last hlast
      exact ⟨ended[k], List.getElem?_eq_getElem hk, by omega⟩

theorem finish (h : Timeline scan 1 now begun ended) (size : Option Nat) :
    Timeline (some (.ended now)) 0 now begun (ended ++ [⟨now, size⟩]) where
  state := by
    refine Or.inr (Or.inr ⟨rfl, ?_, ⟨now, size⟩, rfl, List.getLast?_concat⟩)
    rw [List.length_append, h.length_begun]
    rfl
  begunBefore := h.begunBefore
  endedBefore e he := by
    rcases List.mem_append.mp he with he | he
    · exact h.endedBefore e he
    · exact List.mem_singleton.mp he ▸ Nat.le_refl now
  latest e he last hlast := by
    rw [List.getLast?_concat] at hlast
    cases hlast
    rcases List.mem_append.mp he with he | he
    · exact h.endedBefore e he
    · exact Nat.le_of_eq (congrArg ScanEnd.time (List.mem_singleton.mp he))
  lasting k e he := by
    rcases getElem?_snoc_cases he with he | ⟨hk, rfl⟩
    · exact h.lasting k e he
    · -- the scan under way began last, so its number is that of the scans that have ended
      have hb : k < begun.length := by
        have hlength := h.length_begun
        omega
      exact ⟨begun[k], List.getElem?_eq_getElem hb, h.begunBefore _ (List.getElem_mem hb)⟩
  spaced k l b hlt hb := by
    obtain ⟨e, he, hspaced⟩ := h.spaced k l b hlt hb
    exact ⟨e, getElem?_snoc_of_some he, hspaced⟩

/-- Of two scans the first ends after it has begun, and longer than the throttle before the second
    one begins. -/
theorem spaced_between (h : Timeline scan underWay now begun ended) {k l b b' : Nat} (hlt : k < l)
    (hb : begun[k]? = some b) (hb' : begun[l]? = some b') :
    ∃ e : ScanEnd, ended[k]? = some e ∧ b ≤ e.time ∧ e.time + Exporter.throttle < b' := by
  obtain ⟨e, he, hspaced⟩ := h.spaced k l b' hlt hb'
  obtain ⟨b₀, hb₀, hle⟩ := h.lasting k e he
  cases hb.symm.trans hb₀
  exact ⟨e, he, hle, hspaced⟩

end Timeline

/-! ### One action -/

namespace Metering

variable {keyOf : String → UInt64} {m m' : Metering keyOf} {a : MeterAction} {w : String}
  {log : List (MeterEntry keyOf)}

/-- The state of a worker's scans is as the log has it. -/
def KeepsTime (w : String) (log : List (MeterEntry keyOf)) (m : Metering keyOf) : Prop :=
  Timeline (m.exporter.scans.get? w) (m.scanning.count w) m.clock (begunScans w log)
    (endedScans (· == w) log)

namespace KeepsTime

/-- What begins and ends no scan of the worker changes nothing. -/
theorem quiet (h : KeepsTime w log m) (hclock : m.clock ≤ m'.clock)
    (hscan : m'.exporter.scans.get? w = m.exporter.scans.get? w)
    (hscanning : m'.scanning.count w = m.scanning.count w)
    (hbegun : (⟨a, m⟩ : MeterEntry keyOf).began? w = none)
    (hended : (⟨a, m⟩ : MeterEntry keyOf).ended? (· == w) = none) :
    KeepsTime w (log ++ [⟨a, m⟩]) m' := by
  unfold KeepsTime
  rw [hscan, hscanning, begunScans_snoc, hbegun, endedScans_snoc, hended, Option.toList_none,
    Option.toList_none, List.append_nil, List.append_nil]
  exact h.later hclock

theorem turned_down (h : KeepsTime w log m) (hact : m.act? a = some m')
    (ha : a = .request w ∨ a = .requestInVain w)
    (hmay : permits (m.exporter.scans.get? w) m.clock = false) :
    KeepsTime w (log ++ [⟨a, m⟩]) m' := by
  have hnot : m.accepts a = false := by
    rw [← Bool.not_eq_true]
    exact fun hacc => by simp [((accepts_iff m a w).mp ⟨ha, hacc⟩).2] at hmay
  have hscan : m'.exporter.scans.get? w = m.exporter.scans.get? w := by
    rw [scan_act? hact]
    rcases ha with rfl | rfl <;> simp [MeterAction.worker?, scanAfter, hmay]
  have hscanning : m'.scanning = m.scanning ∧ m'.clock = m.clock := by
    rcases ha with rfl | rfl
    · have hm' := Option.some.inj hact
      exact hm' ▸ ⟨if_neg (Bool.eq_false_iff.mp hnot), rfl⟩
    · have hm' := Option.some.inj hact
      exact hm' ▸ ⟨rfl, rfl⟩
  refine h.quiet (Nat.le_of_eq hscanning.2.symm) hscan (by rw [hscanning.1]) ?_ ?_
  · simp [MeterEntry.began?, hnot]
  · rcases ha with rfl | rfl <;> simp [MeterEntry.ended?, hnot]

theorem launch (h : KeepsTime w log m) (hact : m.act? (.request w) = some m')
    (hmay : permits (m.exporter.scans.get? w) m.clock = true) :
    KeepsTime w (log ++ [⟨.request w, m⟩]) m' := by
  obtain ⟨hn, hdue⟩ := h.permits_iff.mp hmay
  have hscan : m'.exporter.scans.get? w = some .underWay := by
    rw [scan_act? hact]
    simp [MeterAction.worker?, scanAfter, hmay]
  have hand := (accepts_iff m (.request w) w).mpr ⟨Or.inl rfl, hmay⟩
  have hscanning : m'.scanning = m.scanning ++ [w] ∧ m'.clock = m.clock := by
    have hm' := Option.some.inj hact
    exact hm' ▸ ⟨if_pos hand.2, rfl⟩
  have hended : (⟨.request w, m⟩ : MeterEntry keyOf).ended? (· == w) = none := rfl
  unfold KeepsTime
  rw [hscan, hscanning.1, hscanning.2, begunScans_snoc, MeterEntry.began?, if_pos hand,
    Option.toList_some, endedScans_snoc, hended, Option.toList_none, List.append_nil,
    List.count_append, hn, List.count_singleton_self]
  exact h.begin hn hdue

/-- A request that is accepted in vain begins a scan that fails at once. -/
theorem fail_at_once (h : KeepsTime w log m) (hact : m.act? (.requestInVain w) = some m')
    (hmay : permits (m.exporter.scans.get? w) m.clock = true) :
    KeepsTime w (log ++ [⟨.requestInVain w, m⟩]) m' := by
  obtain ⟨hn, hdue⟩ := h.permits_iff.mp hmay
  have hscan : m'.exporter.scans.get? w = some (.ended m.clock) := by
    rw [scan_act? hact]
    simp [MeterAction.worker?, scanAfter, hmay]
  have hand := (accepts_iff m (.requestInVain w) w).mpr ⟨Or.inr rfl, hmay⟩
  have hscanning : m'.scanning = m.scanning ∧ m'.clock = m.clock := by
    have hm' := Option.some.inj hact
    exact hm' ▸ ⟨rfl, rfl⟩
  have hended : (⟨.requestInVain w, m⟩ : MeterEntry keyOf).ended? (· == w) =
      some ⟨m.clock, none⟩ := if_pos ⟨beq_self_eq_true w, hand.2⟩
  unfold KeepsTime
  rw [hscan, hscanning.1, hscanning.2, begunScans_snoc, MeterEntry.began?, if_pos hand,
    Option.toList_some, endedScans_snoc, hended, Option.toList_some, hn]
  exact (h.begin hn hdue).finish none

theorem conclude {size : Option Nat} (h : KeepsTime w log m)
    (hact : m.act? (.finish w size) = some m') :
    KeepsTime w (log ++ [⟨.finish w size, m⟩]) m' := by
  have hscan : m'.exporter.scans.get? w = some (.ended m.clock) := by
    rw [scan_act? hact]
    exact if_pos rfl
  obtain ⟨hmem, hm'⟩ := act?_finish hact
  have hscanning : m'.scanning = m.scanning.erase w ∧ m'.clock = m.clock := hm' ▸ ⟨rfl, rfl⟩
  -- only a scan that is under way ends, and there is one at most
  have hone : m.scanning.count w = 1 :=
    Nat.le_antisymm h.underWay_le (List.count_pos_iff.mpr hmem)
  have hbegun : (⟨.finish w size, m⟩ : MeterEntry keyOf).began? w = none :=
    if_neg (by simp)
  have hended : (⟨.finish w size, m⟩ : MeterEntry keyOf).ended? (· == w) =
      some ⟨m.clock, size⟩ := if_pos (beq_self_eq_true w)
  unfold KeepsTime at h ⊢
  rw [hone] at h
  rw [hscan, hscanning.1, hscanning.2, begunScans_snoc, hbegun, Option.toList_none,
    List.append_nil, endedScans_snoc, hended, Option.toList_some, List.count_erase_self, hone]
  exact h.finish size

theorem act? (h : KeepsTime w log m) (hact : m.act? a = some m') :
    KeepsTime w (log ++ [⟨a, m⟩]) m' := by
  have hclock := clock_act? hact
  by_cases hw : a.worker? = some w
  · cases a with
    | report v succeeded | ask v succeeded =>
      cases succeeded <;> cases hact <;>
        exact h.quiet (Nat.le_refl _) rfl rfl (if_neg (by simp)) rfl
    | request v =>
      cases hw
      cases hmay : permits (m.exporter.scans.get? w) m.clock with
      | true => exact h.launch hact hmay
      | false => exact h.turned_down hact (Or.inl rfl) hmay
    | requestInVain v =>
      cases hw
      cases hmay : permits (m.exporter.scans.get? w) m.clock with
      | true => exact h.fail_at_once hact hmay
      | false => exact h.turned_down hact (Or.inr rfl) hmay
    | finish v size =>
      cases hw
      exact h.conclude hact
    | advance nanos => cases hw
  · refine h.quiet hclock (by rw [scan_act? hact, if_neg hw]) (scanning_act?_of_ne hact hw)
      (MeterEntry.began?_of_ne hw) (MeterEntry.ended?_of_forall_ne fun v hv => ?_)
    exact beq_false_of_ne fun heq => hw (heq ▸ hv)

end KeepsTime

/-- What is kept under the key of a worker's name, and whether the worker has been measured, is as
    the log has it. -/
structure KeepsSeries (w : String) (log : List (MeterEntry keyOf)) (m : Metering keyOf) :
    Prop where
  counts : ∀ succeeded, Exporter.countOf (m.exporter.counts succeeded) w =
    reportCount (sharing keyOf w) succeeded log
  usage : m.exporter.diskUsage.value? w = sizeShown (endedScans (sharing keyOf w) log)
  measured : w ∈ m.exporter.measured ↔ ∃ e ∈ endedScans (· == w) log, e.size.isSome

/-- The size of the scan that an action ends, if it found one, is the one that the action shows. -/
theorem size_ended? (a : MeterAction) (m : Metering keyOf) (who : String → Bool) :
    (((⟨a, m⟩ : MeterEntry keyOf).ended? who).bind ScanEnd.size).map
      (fun bytes => min bytes (Nat.pow 2 63 - 1)) = a.found? who := by
  cases a with
  | report | ask | request | advance => rfl
  | requestInVain v =>
    simp only [MeterEntry.ended?, MeterAction.found?]
    split <;> rfl
  | finish v size =>
    cases size <;> cases hv : who v <;>
      simp [MeterEntry.ended?, MeterAction.found?, hv, Exporter.greatestSize]

/-- A worker is measured by an action that ends a scan of it which found a size. -/
theorem measures_iff (a : MeterAction) (m : Metering keyOf) (w : String) :
    (∃ e ∈ ((⟨a, m⟩ : MeterEntry keyOf).ended? (· == w)).toList, e.size.isSome) ↔
      ∃ bytes, a = .finish w (some bytes) := by
  cases a with
  | report | ask | request | advance => simp [MeterEntry.ended?]
  | requestInVain v =>
    simp only [MeterEntry.ended?, reduceCtorEq, exists_false, iff_false]
    split <;> simp
  | finish v size =>
    by_cases hv : v = w
    · subst hv
      simp [MeterEntry.ended?, Option.isSome_iff_exists]
    · simp [MeterEntry.ended?, hv]

theorem KeepsSeries.act? (h : KeepsSeries w log m) (hact : m.act? a = some m') :
    KeepsSeries w (log ++ [⟨a, m⟩]) m' where
  counts succeeded := by rw [counts_act? hact, h.counts, reportCount_snoc]
  usage := by rw [usage_act? hact, h.usage, endedScans_snoc, sizeShown_append, size_ended?]
  measured := by
    simp only [measured_act? hact, h.measured, ← measures_iff a m, endedScans_snoc,
      List.mem_append, or_and_right, exists_or]

/-! ### Runs -/

theorem Run.keepsTime {start : Nat} (h : Run start log m) (w : String) : KeepsTime w log m := by
  induction h with
  | nil => exact Timeline.fresh start
  | snoc _ hact ih => exact ih.act? hact

theorem Run.keepsSeries {start : Nat} (h : Run start log m) (w : String) :
    KeepsSeries w log m := by
  induction h with
  | nil =>
    refine ⟨fun succeeded => ?_, rfl, by simp [Exporter.empty, endedScans]⟩
    cases succeeded <;> rfl
  | snoc _ hact ih => exact ih.act? hact

/-- Workers whose names have a key of their own share nothing. -/
theorem unshared {who who' : String → Bool} (succeeded : Bool)
    (h : ∀ e ∈ log, ∀ v, e.action.worker? = some v → who v = who' v) :
    endedScans who log = endedScans who' log ∧
      reportCount who succeeded log = reportCount who' succeeded log := by
  constructor
  · refine List.filterMap_congr fun e he => ?_
    have hsame := h e he
    cases ha : e.action with
    | finish v _ | requestInVain v => simp [MeterEntry.ended?, ha, hsame v (by rw [ha]; rfl)]
    | report | ask | request | advance => simp [MeterEntry.ended?, ha]
  · refine List.countP_congr fun e he => ?_
    have hsame := h e he
    cases ha : e.action with
    | report v _ => simp [MeterAction.reports, hsame v (by rw [ha]; rfl)]
    | finish | requestInVain | ask | request | advance => simp [MeterAction.reports]

/-- As long as no scan of the worker has found a size, none is shown. -/
theorem KeepsSeries.unmeasured (h : KeepsSeries w log m)
    (hnone : ∀ e ∈ endedScans (· == w) log, e.size = none) : m.exporter.measured? w = none := by
  refine if_neg fun hmem => ?_
  obtain ⟨e, he, hsize⟩ := h.measured.mp hmem
  rw [hnone e he] at hsize
  cases hsize

theorem KeepsSeries.measured?_eq (h : KeepsSeries w log m)
    (hfound : ∃ e ∈ endedScans (· == w) log, e.size ≠ none) :
    m.exporter.measured? w = sizeShown (endedScans (sharing keyOf w) log) := by
  obtain ⟨e, he, hsize⟩ := hfound
  rw [← h.usage]
  exact if_pos (h.measured.mpr ⟨e, he, Option.isSome_iff_ne_none.mpr hsize⟩)

/-- What is shown of a worker is its own where no other name has the key. -/
theorem KeepsSeries.of_unshared (h : KeepsSeries w log m)
    (halone : ∀ e ∈ log, ∀ v, e.action.worker? = some v → keyOf v = keyOf w → v = w) :
    m.exporter.measured? w = sizeShown (endedScans (· == w) log) ∧
      ∀ succeeded, Exporter.countOf (m.exporter.counts succeeded) w =
        reportCount (· == w) succeeded log := by
  have hsame : ∀ e ∈ log, ∀ v, e.action.worker? = some v → sharing keyOf w v = (v == w) := by
    intro e he v hv
    rw [sharing, Bool.eq_iff_iff, beq_iff_eq, beq_iff_eq]
    exact ⟨halone e he v hv, congrArg keyOf⟩
  refine ⟨?_, fun succeeded => (h.counts succeeded).trans (unshared succeeded hsame).2⟩
  by_cases hnone : ∀ e ∈ endedScans (· == w) log, e.size = none
  · rw [h.unmeasured hnone, sizeShown, List.filterMap_eq_nil_iff.mpr hnone]
    rfl
  · push Not at hnone
    rw [h.measured?_eq hnone, (unshared true hsame).1]

/-- Only a scan that finds a size changes the size that is shown, and only for those who share the
    key of its worker's name. -/
theorem measured?_act? (hact : m.act? a = some m')
    (ha : ∀ v bytes, keyOf v = keyOf w → a ≠ .finish v (some bytes)) :
    m'.exporter.measured? w = m.exporter.measured? w := by
  have hfound : a.found? (sharing keyOf w) = none := by
    cases a with
    | report | request | requestInVain | ask | advance => rfl
    | finish v size =>
      cases size with
      | none => rfl
      | some bytes => exact if_neg fun hkey => ha v bytes (beq_iff_eq.mp hkey) rfl
  have hmeasured : w ∈ m'.exporter.measured ↔ w ∈ m.exporter.measured := by
    rw [measured_act? hact, or_iff_left]
    rintro ⟨bytes, hfinish⟩
    exact ha w bytes rfl hfinish
  simp only [Exporter.measured?, usage_act? hact, hfound, Option.none_or, hmeasured]

theorem accepts_act?_of_ne {v : String} (hact : m.act? a = some m') (ha : a.worker? = some v)
    (hne : v ≠ w) {b : MeterAction} (hb : b = .request w ∨ b = .requestInVain w) :
    m'.accepts b = m.accepts b := by
  have hscan : m'.exporter.scans.get? w = m.exporter.scans.get? w := by
    rw [scan_act? hact, if_neg fun hw => hne (Option.some.inj (ha.symm.trans hw))]
  have hiff := (accepts_iff m' b w).trans
    (hscan ▸ clock_act?_of_worker hact ha ▸ (accepts_iff m b w).symm)
  simpa only [hb, true_and, ← Bool.eq_iff_iff] using hiff

theorem reads_of_seriesOf {x y : Exporter keyOf} (h : y.seriesOf w = x.seriesOf w) :
    (y.readSuccesses w).1 = (x.readSuccesses w).1 ∧
      (y.readFailures w).1 = (x.readFailures w).1 := by
  simp only [Exporter.seriesOf, List.cons.injEq] at h
  simp only [Exporter.readSuccesses, Exporter.readFailures, Exporter.countOf, SeriesTable.value?, h,
    and_self]

/-- **Scans of a worker never overlap and keep their distance, and what the exporter answers is what
    the log says of the workers that share the key of the worker's name.**  A request is accepted
    just when no scan of the worker is under way and the last one, if there is any, ended more than a
    minute ago.  The scan that began as the k-th one is the k-th one to end, more than a minute
    before the next one begins.  Once a scan of the worker has succeeded, the size that is shown is
    that of the last scan that did so, and the counts are those of the reports, of all workers whose
    names have the same key.  Where no other name has the key these are the scans and the reports of
    the worker.  Actions about names with other keys change no answer about this one. -/
theorem Run.scans_throttled {start : Nat} (hrun : Run start log m) (w : String) :
    (m.scanning.count w ≤ 1 ∧
      (begunScans w log).length = (endedScans (· == w) log).length + m.scanning.count w) ∧
    (∀ a, a = .request w ∨ a = .requestInVain w →
      (m.accepts a = true ↔ w ∉ m.scanning ∧
        ∀ e ∈ (endedScans (· == w) log).getLast?, e.time + 60 * 1000000000 < m.clock)) ∧
    (∀ k l b b' : Nat, k < l → (begunScans w log)[k]? = some b → (begunScans w log)[l]? = some b' →
      ∃ e, (endedScans (· == w) log)[k]? = some e ∧ b ≤ e.time ∧
        e.time + 60 * 1000000000 < b') ∧
    (((∀ e ∈ endedScans (· == w) log, e.size = none) → m.exporter.measured? w = none) ∧
      ((∃ e ∈ endedScans (· == w) log, e.size ≠ none) →
        m.exporter.measured? w = sizeShown (endedScans (sharing keyOf w) log))) ∧
    ((m.exporter.readSuccesses w).1 = reportCount (sharing keyOf w) true log ∧
      (m.exporter.readFailures w).1 = reportCount (sharing keyOf w) false log) ∧
    ((∀ e ∈ log, ∀ v, e.action.worker? = some v → keyOf v = keyOf w → v = w) →
      m.exporter.measured? w = sizeShown (endedScans (· == w) log) ∧
      (m.exporter.readSuccesses w).1 = reportCount (· == w) true log ∧
      (m.exporter.readFailures w).1 = reportCount (· == w) false log) ∧
    ∀ a m', m.act? a = some m' →
      ((∀ v bytes, keyOf v = keyOf w → a ≠ .finish v (some bytes)) →
        m'.exporter.measured? w = m.exporter.measured? w) ∧
      ∀ v, a.worker? = some v → v ≠ w →
        (m'.accepts (.request w) = m.accepts (.request w) ∧
          m'.accepts (.requestInVain w) = m.accepts (.requestInVain w)) ∧
        (keyOf v ≠ keyOf w →
          (m'.exporter.readSuccesses w).1 = (m.exporter.readSuccesses w).1 ∧
          (m'.exporter.readFailures w).1 = (m.exporter.readFailures w).1 ∧
          m'.exporter.measured? w = m.exporter.measured? w ∧
          m'.exporter.seriesOf w = m.exporter.seriesOf w) := by
  have htime := hrun.keepsTime w
  have hseries := hrun.keepsSeries w
  refine ⟨⟨htime.underWay_le, htime.length_begun⟩, fun a ha => ?_,
    fun k l b b' hlt hb hb' => htime.spaced_between hlt hb hb',
    ⟨hseries.unmeasured, hseries.measured?_eq⟩, ⟨hseries.counts true, hseries.counts false⟩,
    fun halone => ?_, fun a m' hact => ⟨measured?_act? hact, fun v hv hne =>
      ⟨⟨accepts_act?_of_ne hact hv hne (Or.inl rfl), accepts_act?_of_ne hact hv hne (Or.inr rfl)⟩,
        fun hkey => ?_⟩⟩⟩
  · rw [← List.count_eq_zero]
    have hiff := accepts_iff m a w
    simp only [ha, true_and] at hiff
    exact hiff.trans htime.permits_iff
  · obtain ⟨hmeasured, hcounts⟩ := hseries.of_unshared halone
    exact ⟨hmeasured, hcounts true, hcounts false⟩
  · have hsame := series_act?_of_ne hact hv hkey
    obtain ⟨hsuccesses, hfailures⟩ := reads_of_seriesOf hsame
    refine ⟨hsuccesses, hfailures, measured?_act? hact fun u bytes hu hfinish => ?_, hsame⟩
    subst hfinish
    cases hv
    exact hkey hu

/-! ### Runs of two workers -/

/-- The first scan of the one finds a size too great to be shown, and no scan is accepted before it
    has ended, nor until a minute has passed; the second one cannot be carried out. -/
def metered : List MeterAction :=
  [.report "mirror" true, .request "mirror", .request "mirror", .request "backup", .advance 5,
    .finish "mirror" (some (Nat.pow 2 63 + 1)), .requestInVain "mirror", .advance (60 * 1000000000),
    .request "mirror", .finish "backup" none, .advance 1, .requestInVain "mirror",
    .report "mirror" false, .request "mirror"]

theorem metered_scans_throttled :
    ∃ (log : List (MeterEntry labelKey)) (m : Metering labelKey), Run 0 log m ∧
      begunScans "mirror" log = [0, 60 * 1000000000 + 6] ∧
      endedScans (· == "mirror") log =
        [⟨5, some (Nat.pow 2 63 + 1)⟩, ⟨60 * 1000000000 + 6, none⟩] ∧
      m.scanning = [] ∧ m.exporter.measured? "mirror" = some (Nat.pow 2 63 - 1) ∧
      m.accepts (.request "mirror") = false ∧ (m.exporter.readSuccesses "mirror").1 = 1 ∧
      (m.exporter.readFailures "mirror").1 = 1 := by
  have hplayed : ((⟨.empty, 0, []⟩ : Metering labelKey).play? metered).isSome := by decide +kernel
  have hrun := Run.nil.play? (Option.some_get hplayed).symm
  obtain ⟨_, haccepts, _, ⟨_, husage⟩, ⟨hsuccesses, hfailures⟩, _⟩ :=
    hrun.scans_throttled "mirror"
  refine ⟨_, _, hrun, by decide +kernel, by decide +kernel, by decide +kernel,
    (husage (by decide +kernel)).trans (by decide +kernel), ?_,
    hsuccesses.trans (by decide +kernel), hfailures.trans (by decide +kernel)⟩
  rw [← Bool.not_eq_true, haccepts _ (Or.inl rfl)]
  decide +kernel

/-- Two names that have one key. -/
def namesakes : String × String := ("8yn0iYCKYHlIj4-BwPqk", "GReLUrM4wMqfg9yzV3KQ")

/-- A success of the one worker is counted for the other one as well, of which none was
    reported. -/
theorem namesakes_counted_together :
    namesakes.1 ≠ namesakes.2 ∧
      ∃ (log : List (MeterEntry labelKey)) (m : Metering labelKey), Run 0 log m ∧
        log.map MeterEntry.action = [.report namesakes.1 true] ∧
        reportCount (· == namesakes.2) true log = 0 ∧
        (m.exporter.readSuccesses namesakes.2).1 = 1 := by
  have hplayed : ((⟨.empty, 0, []⟩ : Metering labelKey).play?
      [.report namesakes.1 true]).isSome := by decide
  have hrun := Run.nil.play? (Option.some_get hplayed).symm
  exact ⟨by decide, _, _, hrun, rfl, by decide +kernel, by decide +kernel⟩

end Metering

end SyncFleet
