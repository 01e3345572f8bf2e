/-
  SyncFleet/Proofs/Metrics/Metering.lean
  ======================================
  **An exporter in use: reports, requests and scans, one action after another.**

  A `Metering` is an exporter with its clock and the scans that were launched
  and have not ended.  A request that is accepted launches a scan, which ends
  at any later time and in any order with others, with a size or in failure.
  A request that nothing can carry out ends its scan itself; where other
  actions come in between, it is a request followed by a scan that fails.

  Scans are kept by worker, so that they change by actions about the worker
  alone (`scan_act?`).  Counts and sizes are kept by the key of the worker's
  name: an action about any worker whose name has the same key is an action on
  the same series (`counts_act?`, `usage_act?`).
-/
import SyncFleet.Metrics.Exposition
import SyncFleet.Proofs.KeyMap
import SyncFleet.Proofs.List

namespace SyncFleet

variable {keyOf : String → UInt64}

/-! ### Actions -/

/-- What can happen to an exporter. -/
inductive MeterAction where
  | report (worker : String) (succeeded : Bool)
  /-- a scan is requested, and launched if it is accepted -/
  | request (worker : String)
  /-- a scan is requested where nothing can carry it out -/
  | requestInVain (worker : String)
  /-- a scan that was launched ends, with a size or in failure -/
  | finish (worker : String) (size : Option Nat)
  /-- somebody asks how many executions succeeded or failed -/
  | ask (worker : String) (succeeded : Bool)
  | advance (nanos : Nat)
deriving DecidableEq

def MeterAction.worker? : MeterAction → Option String
  | .report w _ | .request w | .requestInVain w | .finish w _ | .ask w _ => some w
  | .advance _ => none

/-- Whether the action reports a success or a failure of one of some workers. -/
def MeterAction.reports (who : String → Bool) (succeeded : Bool) : MeterAction → Bool
  | .report v s => who v && s == succeeded
  | _ => false

/-- The size that the action shows for one of some workers, if it ends a scan that found one. -/
def MeterAction.found? (who : String → Bool) : MeterAction → Option Nat
  | .finish v (some bytes) => if who v then some (min bytes Exporter.greatestSize) else none
  | _ => none

/-- An exporter, what its clock shows, and the workers of the scans that were launched and have not
    ended. -/
structure Metering (keyOf : String → UInt64) where
  exporter : Exporter keyOf
  clock : Nat
  scanning : List String

namespace Metering

/-- The exporter after an action, if the action can be taken: a scan ends only once. -/
def act? (m : Metering keyOf) : MeterAction → Option (Metering keyOf)
  | .report w true => some { m with exporter := m.exporter.success w }
  | .report w false => some { m with exporter := m.exporter.failure w }
  | .request w =>
    some { m with
      exporter := (m.exporter.requestAt w m.clock).1
      scanning := if (m.exporter.requestAt w m.clock).2 then m.scanning ++ [w] else m.scanning }
  | .requestInVain w => some { m with exporter := (m.exporter.requestInVainAt w m.clock).1 }
  | .finish w size =>
    if w ∈ m.scanning then
      some { m with
        exporter := m.exporter.finishScanAt w size m.clock
        scanning := m.scanning.erase w }
    else none
  | .ask w true => some { m with exporter := (m.exporter.readSuccesses w).2 }
  | .ask w false => some { m with exporter := (m.exporter.readFailures w).2 }
  | .advance nanos => some { m with clock := m.clock + nanos }

/-- Whether the action is a request that is accepted. -/
def accepts (m : Metering keyOf) : MeterAction → Bool
  | .request w => (m.exporter.requestAt w m.clock).2
  | .requestInVain w => (m.exporter.requestInVainAt w m.clock).2
  | _ => false

end Metering

/-! ### Logs -/

/-- An action that was taken, and what it met. -/
structure MeterEntry (keyOf : String → UInt64) where
  action : MeterAction
  before : Metering keyOf

/-- How a scan ended: when, and with which size if it succeeded. -/
structure ScanEnd where
  time : Nat
  size : Option Nat
deriving DecidableEq

/-- When the entry begins a scan of a worker, if it does. -/
def MeterEntry.began? (w : String) (e : MeterEntry keyOf) : Option Nat :=
  if (e.action = .request w ∨ e.action = .requestInVain w) ∧ e.before.accepts e.action = true then
    some e.before.clock
  else none

/-- How a scan of one of some workers ends with the entry, if one does. -/
def MeterEntry.ended? (who : String → Bool) (e : MeterEntry keyOf) : Option ScanEnd :=
  match e.action with
  | .finish v size => if who v then some ⟨e.before.clock, size⟩ else none
  | .requestInVain v =>
    if who v ∧ e.before.accepts e.action = true then some ⟨e.before.clock, none⟩ else none
  | _ => none

/-- The size that the last successful scan found, as it is shown. -/
def sizeShown (ended : List ScanEnd) : Option Nat :=
  (ended.filterMap ScanEnd.size).getLast?.map fun bytes => min bytes (Nat.pow 2 63 - 1)

/-- When the scans of a worker began, in order. -/
def begunScans (w : String) (log : List (MeterEntry keyOf)) : List Nat :=
  log.filterMap (MeterEntry.began? w)

/-- How the scans of some workers ended, in order. -/
def endedScans (who : String → Bool) (log : List (MeterEntry keyOf)) : List ScanEnd :=
  log.filterMap (MeterEntry.ended? who)

/-- How many successful or failed executions of some workers were reported. -/
def reportCount (who : String → Bool) (succeeded : Bool) (log : List (MeterEntry keyOf)) : Nat :=
  log.countP fun e => e.action.reports who succeeded

/-- Whether names have one key, so that workers of these names share their series. -/
def sharing (keyOf : String → UInt64) (w v : String) : Bool := keyOf v == keyOf w

/-- The runs of an exporter whose clock shows a time at first. -/
inductive Metering.Run (start : Nat) : List (MeterEntry keyOf) → Metering keyOf → Prop where
  | nil : Run start [] ⟨.empty, start, []⟩
  | snoc {log : List (MeterEntry keyOf)} {m m' : Metering keyOf} {a : MeterAction} :
      Run start log m → m.act? a = some m' → Run start (log ++ [⟨a, m⟩]) m'

/-! ### Tables of series -/

/-- A series that is given a value keeps its label. -/
theorem lookup_setSeries (key key' : UInt64) (label : String) (value : Nat)
    (l : List (UInt64 × Series)) :
    (setSeries key label value l).lookup key' =
      if key' = key then some ⟨((l.lookup key).map Series.label).getD label, value⟩
      else l.lookup key' := by
  have hmiss {k k' : UInt64} (hne : k ≠ k') (s : Series) (rest : List (UInt64 × Series)) :
      ((k', s) :: rest).lookup k = rest.lookup k := by
    rw [List.lookup_cons, beq_false_of_ne hne]
  induction l with
  | nil =>
    by_cases hkey : key' = key
    · simp [setSeries, hkey]
    · rw [setSeries, hmiss hkey, if_neg hkey]
  | cons e rest ih =>
    obtain ⟨k, s⟩ := e
    by_cases hk : key = k
    · subst hk
      rw [setSeries, if_pos rfl]
      by_cases hkey : key' = key
      · simp [hkey]
      · rw [hmiss hkey, hmiss hkey, if_neg hkey]
    · rw [setSeries, if_neg hk, hmiss hk]
      by_cases hkey : key' = k
      · simp [hkey, Ne.symm hk]
      · rw [hmiss hkey, hmiss hkey, ih]

namespace SeriesTable

@[simp]
theorem find?_set (t : SeriesTable keyOf) (v w : String) (n : Nat) :
    (t.set v n).find? w =
      if keyOf w = keyOf v then some ⟨((t.find? v).map Series.label).getD v, n⟩
      else t.find? w :=
  lookup_setSeries (keyOf v) (keyOf w) v n t.series

/-- A label has the value that was given last to a label with its key. -/
@[simp]
theorem value?_set (t : SeriesTable keyOf) (v w : String) (n : Nat) :
    (t.set v n).value? w = if keyOf w = keyOf v then some n else t.value? w := by
  rw [value?, find?_set]
  split <;> rfl

/-- Labels with one key have one value. -/
theorem value?_congr (t : SeriesTable keyOf) {v w : String} (h : keyOf v = keyOf w) :
    t.value? v = t.value? w := by
  rw [value?, find?, h]
  rfl

end SeriesTable

/-- A count that grows does so for all who share it. -/
theorem Exporter.countOf_set_add (t : SeriesTable keyOf) (v w : String) (k : Nat) :
    countOf (t.set v (countOf t v + k)) w = countOf t w + if sharing keyOf w v then k else 0 := by
  unfold countOf sharing
  rw [t.value?_set]
  by_cases hkey : keyOf v = keyOf w
  · rw [if_pos hkey.symm, if_pos (beq_iff_eq.mpr hkey), t.value?_congr hkey]
    rfl
  · rw [if_neg (Ne.symm hkey), if_neg (mt beq_iff_eq.mp hkey), Nat.add_zero]

/-! ### The scans of a worker -/

/-- Whether a scan may begin, by the state of the worker's scans. -/
def permits (scan : Option Scan) (now : Nat) : Bool :=
  match scan with
  | none => true
  | some .underWay => false
  | some (.ended time) => Exporter.throttle < now - time

/-- The state of a worker's scans after an action about the worker. -/
def scanAfter (scan : Option Scan) (now : Nat) : MeterAction → Option Scan
  | .request _ => if permits scan now then some .underWay else scan
  | .requestInVain _ => if permits scan now then some (.ended now) else scan
  | .finish _ _ => some (.ended now)
  | .report _ _ | .ask _ _ | .advance _ => scan

namespace Exporter

/-- The counts of successes, or those of failures. -/
def counts (x : Exporter keyOf) : Bool → SeriesTable keyOf
  | true => x.successes
  | false => x.failures

/-- All series that a worker has a part in, with the labels under which a collector finds them. -/
def seriesOf (x : Exporter keyOf) (w : String) : List (Option Series) :=
  [x.failures.find? w, x.diskUsage.find? w, x.successes.find? w]

variable (x : Exporter keyOf) (v w : String) (size : Option Nat) (now : Nat)

@[simp]
theorem requestAt_snd : (x.requestAt v now).2 = permits (x.scans.get? v) now := by
  have hpermits : permits (x.scans.get? v) now = x.mayScan v now := rfl
  rw [hpermits, requestAt]
  split <;> simp_all

/-- A request that nothing can carry out is, if it is accepted, followed by the end of its scan. -/
theorem requestInVainAt_eq :
    x.requestInVainAt v now =
      if permits (x.scans.get? v) now then ((x.requestAt v now).1.finishScanAt v none now, true)
      else ((x.requestAt v now).1, false) := by
  rw [← requestAt_snd, requestInVainAt]
  rcases x.requestAt v now with ⟨y, accepted⟩
  cases accepted <;> rfl

@[simp]
theorem requestInVainAt_snd : (x.requestInVainAt v now).2 = permits (x.scans.get? v) now := by
  rw [requestInVainAt_eq]
  split <;> simp_all

/-- A request changes nothing but the state of scans. -/
theorem requestAt_frame :
    (x.requestAt v now).1 = { x with scans := (x.requestAt v now).1.scans } := by
  unfold requestAt
  split <;> rfl

theorem requestInVainAt_frame :
    (x.requestInVainAt v now).1 = { x with scans := (x.requestInVainAt v now).1.scans } := by
  rw [requestInVainAt_eq, requestAt_frame]
  split <;> rfl

@[simp]
theorem scans_finishScanAt :
    (x.finishScanAt v size now).scans = x.scans.insert v (.ended now) := by
  cases size <;> rfl

theorem scan_requestAt :
    (x.requestAt v now).1.scans.get? w =
      if v = w then scanAfter (x.scans.get? w) now (.request v) else x.scans.get? w := by
  have hpermits : x.mayScan v now = permits (x.scans.get? v) now := rfl
  rw [requestAt, hpermits]
  by_cases hw : v = w
  · subst hw
    rw [if_pos rfl, scanAfter]
    split <;> simp [KeyMap.get?_insert]
  · rw [if_neg hw]
    split <;> simp [KeyMap.get?_insert, Ne.symm hw]

theorem scan_finishScanAt :
    (x.finishScanAt v size now).scans.get? w =
      if v = w then scanAfter (x.scans.get? w) now (.finish v size) else x.scans.get? w := by
  simp [KeyMap.get?_insert, scanAfter, eq_comm]

theorem scan_requestInVainAt :
    (x.requestInVainAt v now).1.scans.get? w =
      if v = w then scanAfter (x.scans.get? w) now (.requestInVain v) else x.scans.get? w := by
  rw [requestInVainAt_eq]
  by_cases hw : v = w
  · subst hw
    rw [if_pos rfl, scanAfter]
    split
    · rw [scan_finishScanAt, if_pos rfl]
      rfl
    · rename_i hmay
      rw [scan_requestAt, if_pos rfl, scanAfter, if_neg hmay]
  · rw [if_neg hw]
    split
    · rw [scan_finishScanAt, if_neg hw, scan_requestAt, if_neg hw]
    · rw [scan_requestAt, if_neg hw]

end Exporter

/-! ### Logs that grow -/

section Snoc

variable (w : String) (who : String → Bool) (succeeded : Bool) (log : List (MeterEntry keyOf))
  (e : MeterEntry keyOf)

@[simp]
theorem begunScans_snoc : begunScans w (log ++ [e]) = begunScans w log ++ (e.began? w).toList := by
  rw [begunScans, filterMap_append_singleton]
  rfl

@[simp] theorem endedScans_snoc :
    endedScans who (log ++ [e]) = endedScans who log ++ (e.ended? who).toList := by
  rw [endedScans, filterMap_append_singleton]
  rfl

theorem reportCount_snoc :
    reportCount who succeeded (log ++ [e]) =
      reportCount who succeeded log + if e.action.reports who succeeded then 1 else 0 := by
  rw [reportCount, List.countP_append, List.countP_singleton]
  rfl

end Snoc

theorem sizeShown_append (ended : List ScanEnd) (e : Option ScanEnd) :
    sizeShown (ended ++ e.toList) =
      ((e.bind ScanEnd.size).map fun bytes => min bytes (Nat.pow 2 63 - 1)).or
        (sizeShown ended) := by
  rw [sizeShown, List.filterMap_append]
  cases e with
  | none => simp [sizeShown]
  | some e => cases h : e.size <;> simp [sizeShown, h]

theorem MeterEntry.began?_of_ne {e : MeterEntry keyOf} {w : String}
    (h : e.action.worker? ≠ some w) : e.began? w = none := by
  refine if_neg fun hand => ?_
  rcases hand.1 with ha | ha <;> exact h (by rw [ha]; rfl)

theorem MeterEntry.ended?_of_forall_ne {e : MeterEntry keyOf} {who : String → Bool}
    (h : ∀ v, e.action.worker? = some v → who v = false) : e.ended? who = none := by
  unfold ended?
  split
  · rename_i v size ha
    exact if_neg (by rw [h v (by rw [ha]; rfl)]; nofun)
  · rename_i v ha
    exact if_neg (by rw [h v (by rw [ha]; rfl)]; nofun)
  · rfl

/-! ### One action -/

namespace Metering

variable {m m' : Metering keyOf} {a : MeterAction} {w : String}

/-- A scan that ends was under way. -/
theorem act?_finish {size : Option Nat} (h : m.act? (.finish w size) = some m') :
    w ∈ m.scanning ∧ m' = { m with
      exporter := m.exporter.finishScanAt w size m.clock
      scanning := m.scanning.erase w } := by
  simp only [act?] at h
  split at h
  · rename_i hmem
    exact ⟨hmem, (Option.some.inj h).symm⟩
  · cases h

/-- An action changes the state of the scans of its own worker, and of no other one. -/
theorem scan_act? (h : m.act? a = some m') (w : String) :
    m'.exporter.scans.get? w =
      if a.worker? = some w then scanAfter (m.exporter.scans.get? w) m.clock a
      else m.exporter.scans.get? w := by
  cases a with
  | report v succeeded | ask v succeeded =>
    cases succeeded <;> cases h <;> exact (ite_self _).symm
  | request v =>
    cases h
    simpa only [MeterAction.worker?, Option.some.injEq] using
      m.exporter.scan_requestAt v w m.clock
  | requestInVain v =>
    cases h
    simpa only [MeterAction.worker?, Option.some.injEq] using
      m.exporter.scan_requestInVainAt v w m.clock
  | finish v size =>
    obtain ⟨_, rfl⟩ := act?_finish h
    simpa only [MeterAction.worker?, Option.some.injEq] using
      m.exporter.scan_finishScanAt v w size m.clock
  | advance nanos =>
    cases h
    rfl

/-- Reports count for all whose names have the key of the worker's name, and nothing else does. -/
theorem counts_act? (h : m.act? a = some m') (succeeded : Bool) (w : String) :
    Exporter.countOf (m'.exporter.counts succeeded) w =
      Exporter.countOf (m.exporter.counts succeeded) w +
        if a.reports (sharing keyOf w) succeeded then 1 else 0 := by
  cases a with
  | report v s =>
    cases succeeded <;> cases s <;> cases h <;>
      simp [Exporter.counts, Exporter.success, Exporter.failure, Exporter.countOf_set_add,
        MeterAction.reports]
  | ask v s =>
    have hread (t : SeriesTable keyOf) :
        Exporter.countOf (t.set v (Exporter.countOf t v)) w = Exporter.countOf t w := by
      simpa using Exporter.countOf_set_add t v w 0
    cases succeeded <;> cases s <;> cases h <;>
      simp [Exporter.counts, Exporter.readSuccesses, Exporter.readFailures, hread,
        MeterAction.reports]
  | request v =>
    cases h
    rw [Exporter.requestAt_frame]
    cases succeeded <;> rfl
  | requestInVain v =>
    cases h
    rw [Exporter.requestInVainAt_frame]
    cases succeeded <;> rfl
  | finish v size =>
    obtain ⟨_, rfl⟩ := act?_finish h
    cases succeeded <;> cases size <;> rfl
  | advance nanos =>
    cases h
    cases succeeded <;> rfl

/-- A size that a scan finds is shown for all whose names have the key of the worker's name, and
    nothing else changes a size. -/
theorem usage_act? (h : m.act? a = some m') (w : String) :
    m'.exporter.diskUsage.value? w =
      (a.found? (sharing keyOf w)).or (m.exporter.diskUsage.value? w) := by
  cases a with
  | report v s | ask v s => cases s <;> cases h <;> rfl
  | request v =>
    cases h
    rw [Exporter.requestAt_frame]
    rfl
  | requestInVain v =>
    cases h
    rw [Exporter.requestInVainAt_frame]
    rfl
  | finish v size =>
    obtain ⟨_, rfl⟩ := act?_finish h
    cases size with
    | none => rfl
    | some bytes =>
      rw [Exporter.finishScanAt, SeriesTable.value?_set]
      by_cases hkey : keyOf v = keyOf w
      · rw [if_pos hkey.symm]
        simp [MeterAction.found?, sharing, hkey]
      · rw [if_neg (Ne.symm hkey)]
        simp [MeterAction.found?, sharing, hkey]
  | advance nanos =>
    cases h
    rfl

/-- A worker is measured from its first scan on that finds a size. -/
theorem measured_act? (h : m.act? a = some m') (w : String) :
    w ∈ m'.exporter.measured ↔
      w ∈ m.exporter.measured ∨ ∃ bytes, a = .finish w (some bytes) := by
  cases a with
  | report v s | ask v s => cases s <;> cases h <;> simp [Exporter.success, Exporter.failure,
      Exporter.readSuccesses, Exporter.readFailures]
  | request v =>
    cases h
    rw [Exporter.requestAt_frame]
    simp
  | requestInVain v =>
    cases h
    rw [Exporter.requestInVainAt_frame]
    simp
  | finish v size =>
    obtain ⟨_, rfl⟩ := act?_finish h
    cases size <;> simp [Exporter.finishScanAt, or_comm, eq_comm]
  | advance nanos =>
    cases h
    simp

/-- An action about a worker leaves the series of all keys alone but that of its name. -/
theorem series_act?_of_ne {v : String} (h : m.act? a = some m') (ha : a.worker? = some v)
    (hkey : keyOf v ≠ keyOf w) : m'.exporter.seriesOf w = m.exporter.seriesOf w := by
  have hset (t : SeriesTable keyOf) (n : Nat) : (t.set v n).find? w = t.find? w := by
    rw [t.find?_set, if_neg (Ne.symm hkey)]
  cases a with
  | report _ s | ask _ s =>
    cases ha
    cases s <;> cases h <;>
      simp [Exporter.seriesOf, Exporter.success, Exporter.failure, Exporter.readSuccesses,
        Exporter.readFailures, hset]
  | request _ =>
    cases h
    rw [Exporter.requestAt_frame]
    rfl
  | requestInVain _ =>
    cases h
    rw [Exporter.requestInVainAt_frame]
    rfl
  | finish _ size =>
    cases ha
    obtain ⟨_, rfl⟩ := act?_finish h
    cases size <;> simp [Exporter.seriesOf, Exporter.finishScanAt, hset]
  | advance _ => cases ha

/-- Whether a request is accepted hangs on the state of the worker's scans. -/
theorem accepts_iff (m : Metering keyOf) (a : MeterAction) (w : String) :
    (a = .request w ∨ a = .requestInVain w) ∧ m.accepts a = true ↔
      (a = .request w ∨ a = .requestInVain w) ∧
        permits (m.exporter.scans.get? w) m.clock = true := by
  refine and_congr_right fun ha => ?_
  rcases ha with rfl | rfl
  · rw [accepts, Exporter.requestAt_snd]
  · rw [accepts, Exporter.requestInVainAt_snd]

theorem clock_act?_of_worker {v : String} (h : m.act? a = some m') (ha : a.worker? = some v) :
    m'.clock = m.clock := by
  cases a with
  | report v succeeded | ask v succeeded => cases succeeded <;> cases h <;> rfl
  | request v | requestInVain v => cases h; rfl
  | finish v size =>
    obtain ⟨_, rfl⟩ := act?_finish h
    rfl
  | advance nanos => cases ha

theorem clock_act? (h : m.act? a = some m') : m.clock ≤ m'.clock := by
  cases ha : a.worker? with
  | some v => exact Nat.le_of_eq (clock_act?_of_worker h ha).symm
  | none =>
    cases a with
    | advance nanos =>
      cases h
      exact Nat.le_add_right _ _
    | report | request | requestInVain | finish | ask => cases ha

theorem scanning_act?_of_ne (h : m.act? a = some m') (ha : a.worker? ≠ some w) :
    m'.scanning.count w = m.scanning.count w := by
  cases a with
  | report v succeeded | ask v succeeded => cases succeeded <;> cases h <;> rfl
  | requestInVain v | advance nanos => cases h; rfl
  | request v =>
    have hv : v ≠ w := fun hv => ha (congrArg some hv)
    cases h
    dsimp only
    split
    · rw [List.count_append, List.count_singleton, beq_false_of_ne hv]
      rfl
    · rfl
  | finish v size =>
    have hv : v ≠ w := fun hv => ha (congrArg some hv)
    obtain ⟨_, rfl⟩ := act?_finish h
    exact List.count_erase_of_ne (Ne.symm hv)

/-! ### Playing a run -/

/-- Some actions one after the other. -/
def play? (m : Metering keyOf) :
    List MeterAction → Option (List (MeterEntry keyOf) × Metering keyOf)
  | [] => some ([], m)
  | a :: rest => (m.act? a).bind fun m' => (m'.play? rest).map fun r => (⟨a, m⟩ :: r.1, r.2)

theorem Run.play? {start : Nat} {log more : List (MeterEntry keyOf)} {as : List MeterAction}
    (hrun : Run start log m) (h : m.play? as = some (more, m')) : Run start (log ++ more) m' := by
  induction as generalizing log m more with
  | nil =>
    cases h
    rwa [List.append_nil]
  | cons a rest ih =>
    simp only [Metering.play?, Option.bind_eq_some_iff, Option.map_eq_some_iff] at h
    obtain ⟨m₁, hact, ⟨_, _⟩, hrest, heq⟩ := h
    cases heq
    rw [List.append_cons]
    exact ih (hrun.snoc hact) hrest

end Metering

end SyncFleet
