/-
  SyncFleet/Proofs/Attempt/Rehearsal.lean
  =======================================
  **Rehearsals and probes count right, however calls overlap.**

  Clones of a rehearsal share its counters, and all of them report to one probe.
  A call goes through the same steps through whichever clone it is made: the
  probe counts it and learns how many are under way, and the rehearsal takes it
  down under the next number, which settles whether it fails (`Scene.Step`).
  Nothing else can happen in between unless calls run on several threads.

  What the counters say is one invariant of a scene and the numbers of calls
  that have been under way so far (`Scene.Counts`), with a lemma for each step.
  A call that has been counted and not reported may be one that the peak does
  not know of; when all calls are taken down there is none (`Scene.Settled`).
-/
import SyncFleet.Attempt.Rehearsal

namespace SyncFleet.Rehearsal

/-! ### One call after the other -/

/-- Which calls of a rehearsal fail: the first ones, or all of them. -/
def Fails (failures : UInt32) (number : Nat) : Prop :=
  number ≤ failures.toNat ∨ failures = always

instance (failures : UInt32) (number : Nat) : Decidable (Fails failures number) :=
  inferInstanceAs (Decidable (_ ∨ _))

/-- What a rehearsal still has to do of the failures it began with. -/
structure Owes (failures : UInt32) (r : Rehearsal) : Prop where
  always : failures = always → r.failuresLeft = always
  rest : failures ≠ Rehearsal.always → r.failuresLeft.toNat = failures.toNat - r.calls

section Call

variable {failures : UInt32} {r : Rehearsal}

theorem owes_new (failures : UInt32) (output : Output) (delay : Nat) :
    Owes failures (new failures output delay) :=
  ⟨id, fun _ => (Nat.sub_zero _).symm⟩

theorem toNat_lt_always (h : failures ≠ always) : failures.toNat < always.toNat := by
  refine Nat.lt_of_le_of_ne (Nat.le_of_lt_succ failures.toNat_lt) fun heq => h ?_
  exact UInt32.toNat_inj.mp heq

/-- A call fails if failures are left. -/
theorem Owes.fails_call (h : Owes failures r) :
    r.call.2 = decide (Fails failures (r.calls + 1)) := by
  show decide (0 < r.failuresLeft) = _
  rw [decide_eq_decide, Fails, UInt32.lt_iff_toNat_lt]
  by_cases halways : failures = Rehearsal.always
  · rw [h.always halways]
    exact iff_of_true (by decide) (Or.inr halways)
  · rw [h.rest halways, or_iff_left halways, UInt32.toNat_zero]
    omega

theorem Owes.call (h : Owes failures r) : Owes failures r.call.1 := by
  refine ⟨fun halways => ?_, fun halways => ?_⟩
  · rw [Rehearsal.call, h.always halways]
    rfl
  · have hleft := h.rest halways
    have hnot : r.failuresLeft ≠ Rehearsal.always := by
      intro heq
      have hlt := toNat_lt_always halways
      rw [← heq, hleft] at hlt
      omega
    have hcall : r.call.1.failuresLeft =
        if 0 < r.failuresLeft then r.failuresLeft - 1 else r.failuresLeft := by
      simp [Rehearsal.call, hnot]
    rw [hcall, calls_call]
    split
    · rename_i hsome
      rw [UInt32.toNat_sub_of_le _ _ hsome, hleft]
      exact Nat.sub_sub ..
    · rename_i hnone
      rw [UInt32.lt_iff_toNat_lt, UInt32.toNat_zero] at hnone
      omega

end Call

/-! ### Calls that overlap -/

/-- How far a call has come. -/
inductive Progress where
  /-- the probe has counted it, and the number then under way is still to be reported -/
  | counted (underWay : Nat)
  | reported
  /-- the rehearsal has taken it down under a number and settled whether it fails -/
  | recorded (number : Nat) (fails : Bool)
  /-- it has ended, without a result if nobody waited for it -/
  | ended (number : Nat) (result : Option AttemptResult)

/-- A call that is made through a clone, which has an output of its own. -/
structure Call where
  output : Output
  progress : Progress

namespace Call

/-- The number that the rehearsal has taken a call down under. -/
def number? (c : Call) : Option Nat :=
  match c.progress with
  | .recorded number _ | .ended number _ => some number
  | _ => none

/-- The number that a call still has to report. -/
def pending? (c : Call) : Option Nat :=
  match c.progress with
  | .counted underWay => some underWay
  | _ => none

/-- Whether a call has begun and not ended. -/
def isOpen (c : Call) : Bool :=
  match c.progress with
  | .ended .. => false
  | _ => true

end Call

/-- A rehearsal and a probe that clones share, and the calls that were made. -/
structure Scene where
  rehearsal : Rehearsal
  probe : Probe
  calls : List Call

namespace Scene

/-- The numbers of the calls that the rehearsal has taken down. -/
def numbers (s : Scene) : List Nat := s.calls.filterMap Call.number?

/-- The numbers that are still to be reported. -/
def pending (s : Scene) : List Nat := s.calls.filterMap Call.pending?

/-- No call has been made. -/
def opening (failures : UInt32) : Scene := ⟨new failures .none 0, .initial, []⟩

/-- What can happen to calls.  Only calls on different threads begin in several steps, between which
    others may do something; on one thread a call begins all at once. -/
inductive Step (parallel : Bool) : Scene → Scene → Prop where
  | start {r p calls} (output : Output) :
      Step parallel ⟨r, p, calls⟩
        ⟨r.call.1, p.enter, calls ++ [⟨output, .recorded r.call.1.calls r.call.2⟩]⟩
  | count {r p calls} (output : Output) (h : parallel = true) :
      Step parallel ⟨r, p, calls⟩
        ⟨r, p.count, calls ++ [⟨output, .counted p.count.current⟩]⟩
  | report {r p before output underWay after} (h : parallel = true) :
      Step parallel ⟨r, p, before ++ ⟨output, .counted underWay⟩ :: after⟩
        ⟨r, p.report underWay, before ++ ⟨output, .reported⟩ :: after⟩
  | record {r p before output after} (h : parallel = true) :
      Step parallel ⟨r, p, before ++ ⟨output, .reported⟩ :: after⟩
        ⟨r.call.1, p, before ++ ⟨output, .recorded r.call.1.calls r.call.2⟩ :: after⟩
  | finish {r p before output number fails after} :
      Step parallel ⟨r, p, before ++ ⟨output, .recorded number fails⟩ :: after⟩
        ⟨r, p.leave,
          before ++ ⟨output, .ended number (some ({ r with output }.result fails))⟩ :: after⟩
  | abandon {r p before output number fails after} :
      Step parallel ⟨r, p, before ++ ⟨output, .recorded number fails⟩ :: after⟩
        ⟨r, p.leave, before ++ ⟨output, .ended number none⟩ :: after⟩

/-- The runs of a scene, with all scenes that there have been, the present one first. -/
inductive Run (parallel : Bool) (failures : UInt32) : List Scene → Scene → Prop where
  | nil : Run parallel failures [opening failures] (opening failures)
  | cons {past s s'} (h : Run parallel failures past s) (hstep : Step parallel s s') :
      Run parallel failures (s' :: past) s'

/-- Every call that has begun is taken down. -/
def Settled (s : Scene) : Prop := ∀ c ∈ s.calls, c.number?.isSome

end Scene

/-! ### What the counters say -/

/-- A call is settled as its number demands. -/
def Call.Agrees (failures : UInt32) (c : Call) : Prop :=
  match c.progress with
  | .recorded number fails => fails = decide (Fails failures number)
  | .ended number (some result) =>
    result = if Fails failures number then .error (.commandFailed (some 1) c.output)
      else .ok c.output
  | _ => True

/-- The counters of a scene are right, where so many calls have been under way at one time or
    another. -/
structure Scene.Counts (failures : UInt32) (seen : List Nat) (s : Scene) : Prop where
  owes : s.rehearsal.Owes failures
  agrees : ∀ c ∈ s.calls, c.Agrees failures
  numbers : s.numbers.Perm (List.range' 1 s.rehearsal.calls)
  current : s.probe.current = s.calls.countP Call.isOpen
  now : s.probe.current ∈ seen
  peak : s.probe.peak ∈ seen
  /-- whatever is above the peak is yet to be reported -/
  below : ∀ n ∈ seen, n ≤ s.probe.peak ∨ ∃ m ∈ s.pending, n ≤ m
  pending : ∀ n ∈ s.pending, n ∈ seen

namespace Scene.Counts

variable {failures : UInt32} {seen : List Nat} {s : Scene} {r : Rehearsal} {p : Probe}
  {output : Output} {calls before after : List Call} {c c' : Call}

theorem opening (failures : UInt32) : Counts failures [0] (Scene.opening failures) where
  owes := owes_new failures .none 0
  agrees := nofun
  numbers := .nil
  current := rfl
  now := List.mem_singleton_self 0
  peak := List.mem_singleton_self 0
  below _ hn := Or.inl (Nat.le_of_eq (List.mem_singleton.mp hn))
  pending := nofun

theorem seen_again (h : Counts failures seen s) : Counts failures (s.probe.current :: seen) s where
  owes := h.owes
  agrees := h.agrees
  numbers := h.numbers
  current := h.current
  now := List.mem_cons_self
  peak := List.mem_cons_of_mem _ h.peak
  below := List.forall_mem_cons.mpr ⟨h.below _ h.now, h.below⟩
  pending n hn := List.mem_cons_of_mem _ (h.pending n hn)

theorem forall_mem_replaced {P : Call → Prop} (h : ∀ x ∈ before ++ c :: after, P x) (hc : P c') :
    ∀ x ∈ before ++ c' :: after, P x := by
  rw [List.forall_mem_append, List.forall_mem_cons] at h ⊢
  exact ⟨h.1, hc, h.2.2⟩

theorem filterMap_replaced {f : Call → Option Nat} (h : f c = f c') :
    (before ++ c :: after).filterMap f = (before ++ c' :: after).filterMap f := by
  rw [List.filterMap_append, List.filterMap_append, List.filterMap_cons, List.filterMap_cons, h]

theorem countP_replaced {f : Call → Bool} (h : f c = f c') :
    (before ++ c :: after).countP f = (before ++ c' :: after).countP f := by
  rw [List.countP_append, List.countP_append, List.countP_cons, List.countP_cons, h]

theorem count (h : Counts failures seen ⟨r, p, calls⟩) (output : Output) :
    Counts failures (p.count.current :: seen)
      ⟨r, p.count, calls ++ [⟨output, .counted p.count.current⟩]⟩ := by
  have hnumbers : Scene.numbers ⟨r, p.count, calls ++ [⟨output, .counted p.count.current⟩]⟩ =
      Scene.numbers ⟨r, p, calls⟩ := by
    rw [Scene.numbers, List.filterMap_append]
    exact List.append_nil _
  have hpending : Scene.pending ⟨r, p.count, calls ++ [⟨output, .counted p.count.current⟩]⟩ =
      Scene.pending ⟨r, p, calls⟩ ++ [p.count.current] := List.filterMap_append
  exact {
    owes := h.owes
    agrees := List.forall_mem_append.mpr ⟨h.agrees, List.forall_mem_singleton.mpr trivial⟩
    numbers := hnumbers ▸ h.numbers
    current := by
      rw [List.countP_append, ← h.current]
      rfl
    now := List.mem_cons_self
    peak := List.mem_cons_of_mem _ h.peak
    below := by
      intro n hn
      rw [hpending]
      rcases List.mem_cons.mp hn with rfl | hn
      -- the number that is new is what the call itself has to report
      · exact Or.inr ⟨_, List.mem_append_right _ List.mem_cons_self, Nat.le_refl _⟩
      · rcases h.below n hn with hle | ⟨m, hm, hle⟩
        · exact Or.inl hle
        · exact Or.inr ⟨m, List.mem_append_left _ hm, hle⟩
    pending := by
      rw [hpending, List.forall_mem_append]
      exact ⟨fun n hn => List.mem_cons_of_mem _ (h.pending n hn),
        List.forall_mem_singleton.mpr List.mem_cons_self⟩ }

theorem report {underWay : Nat}
    (h : Counts failures seen ⟨r, p, before ++ ⟨output, .counted underWay⟩ :: after⟩) :
    Counts failures seen ⟨r, p.report underWay, before ++ ⟨output, .reported⟩ :: after⟩ := by
  have hnumbers : Scene.numbers ⟨r, p, before ++ ⟨output, .counted underWay⟩ :: after⟩ =
      Scene.numbers ⟨r, p.report underWay, before ++ ⟨output, .reported⟩ :: after⟩ :=
    filterMap_replaced rfl
  have hbefore : Scene.pending ⟨r, p, before ++ ⟨output, .counted underWay⟩ :: after⟩ =
      before.filterMap Call.pending? ++ underWay :: after.filterMap Call.pending? :=
    List.filterMap_append
  have hafter : Scene.pending ⟨r, p.report underWay, before ++ ⟨output, .reported⟩ :: after⟩ =
      before.filterMap Call.pending? ++ after.filterMap Call.pending? :=
    List.filterMap_append
  have hbelow := h.below
  have hpending := h.pending
  rw [hbefore] at hbelow hpending
  rw [List.forall_mem_append, List.forall_mem_cons] at hpending
  exact {
    owes := h.owes
    agrees := forall_mem_replaced h.agrees trivial
    numbers := hnumbers ▸ h.numbers
    current := h.current.trans (countP_replaced rfl)
    now := h.now
    peak := by
      rw [Probe.peak_report]
      rcases Nat.le_total p.peak underWay with hle | hle
      · rw [Nat.max_eq_right hle]
        exact hpending.2.1
      · rw [Nat.max_eq_left hle]
        exact h.peak
    below := by
      intro n hn
      rw [hafter, Probe.peak_report]
      rcases hbelow n hn with hle | ⟨m, hm, hle⟩
      · exact Or.inl (Nat.le_trans hle (Nat.le_max_left _ _))
      · rw [List.mem_append, List.mem_cons] at hm
        rcases hm with hm | rfl | hm
        · exact Or.inr ⟨m, List.mem_append_left _ hm, hle⟩
        · exact Or.inl (Nat.le_trans hle (Nat.le_max_right _ _))
        · exact Or.inr ⟨m, List.mem_append_right _ hm, hle⟩
    pending := by
      rw [hafter, List.forall_mem_append]
      exact ⟨hpending.1, hpending.2.2⟩ }

theorem record (h : Counts failures seen ⟨r, p, before ++ ⟨output, .reported⟩ :: after⟩) :
    Counts failures seen
      ⟨r.call.1, p, before ++ ⟨output, .recorded r.call.1.calls r.call.2⟩ :: after⟩ := by
  have hnumbers : (before.filterMap Call.number? ++ after.filterMap Call.number?).Perm
      (List.range' 1 r.calls) := by
    have hperm := h.numbers
    rw [Scene.numbers, List.filterMap_append] at hperm
    exact hperm
  have hpending : Scene.pending ⟨r, p, before ++ ⟨output, .reported⟩ :: after⟩ =
      Scene.pending ⟨r.call.1, p,
        before ++ ⟨output, .recorded r.call.1.calls r.call.2⟩ :: after⟩ :=
    filterMap_replaced rfl
  exact {
    owes := h.owes.call
    agrees := forall_mem_replaced h.agrees h.owes.fails_call
    numbers := by
      rw [Scene.numbers, List.filterMap_append, calls_call, List.range'_1_concat, Nat.add_comm 1]
      refine List.perm_middle.trans ?_
      exact (hnumbers.cons _).trans (List.perm_append_singleton _ _).symm
    current := h.current.trans (countP_replaced rfl)
    now := h.now
    peak := h.peak
    below := hpending ▸ h.below
    pending := hpending ▸ h.pending }

/-- A call that is taken down can end, and whatever result it has then is the one it should. -/
theorem leave {number : Nat} {fails : Bool} {result : Option AttemptResult}
    (h : Counts failures seen ⟨r, p, before ++ ⟨output, .recorded number fails⟩ :: after⟩)
    (hresult : result = none ∨ result = some ({ r with output }.result fails)) :
    Counts failures (p.leave.current :: seen)
      ⟨r, p.leave, before ++ ⟨output, .ended number result⟩ :: after⟩ := by
  have hfails : fails = decide (Fails failures number) :=
    h.agrees _ (List.mem_append_right _ List.mem_cons_self)
  have hcurrent : p.current = before.countP Call.isOpen + (after.countP Call.isOpen + 1) := by
    have hcount := h.current
    rw [List.countP_append, List.countP_cons_of_pos rfl] at hcount
    exact hcount
  have hnumbers : Scene.numbers ⟨r, p, before ++ ⟨output, .recorded number fails⟩ :: after⟩ =
      Scene.numbers ⟨r, p.leave, before ++ ⟨output, .ended number result⟩ :: after⟩ :=
    filterMap_replaced rfl
  have hpending : Scene.pending ⟨r, p, before ++ ⟨output, .recorded number fails⟩ :: after⟩ =
      Scene.pending ⟨r, p.leave, before ++ ⟨output, .ended number result⟩ :: after⟩ :=
    filterMap_replaced rfl
  exact {
    owes := h.owes
    agrees := by
      refine forall_mem_replaced h.agrees ?_
      rcases hresult with rfl | rfl
      · trivial
      · show Rehearsal.result _ fails = _
        rw [hfails]
        simp [Rehearsal.result]
    numbers := hnumbers ▸ h.numbers
    current := by
      rw [List.countP_append, List.countP_cons_of_neg Bool.false_ne_true, Probe.current_leave]
      omega
    now := List.mem_cons_self
    peak := List.mem_cons_of_mem _ h.peak
    below := by
      intro n hn
      rw [← hpending]
      rcases List.mem_cons.mp hn with rfl | hn
      -- there were more under way before, and that was seen
      · rcases h.below p.current h.now with hle | ⟨m, hm, hle⟩
        · exact Or.inl (Nat.le_trans (Nat.sub_le _ _) hle)
        · exact Or.inr ⟨m, hm, Nat.le_trans (Nat.sub_le _ _) hle⟩
      · exact h.below n hn
    pending := hpending ▸ fun n hn => List.mem_cons_of_mem _ (h.pending n hn) }

theorem step {parallel : Bool} {s' : Scene} (h : Counts failures seen s)
    (hstep : Step parallel s s') : Counts failures (s'.probe.current :: seen) s' := by
  cases hstep with
  | start output => exact (h.count output).report.record
  | count output _ => exact h.count output
  | report _ => exact h.report.seen_again
  | record _ => exact h.record.seen_again
  | finish => exact h.leave (Or.inr rfl)
  | abandon => exact h.leave (Or.inl rfl)

end Scene.Counts

namespace Scene

section Run

variable {parallel : Bool} {failures : UInt32} {past : List Scene} {s s' : Scene}

theorem Run.counts (h : Run parallel failures past s) :
    Counts failures (past.map fun t => t.probe.current) s := by
  induction h with
  | nil => exact .opening failures
  | cons _ hstep ih => exact ih.step hstep

/-- Calls that begin all at once are taken down in the order in which they begin. -/
theorem Run.numbers_eq (h : Run false failures past s) :
    s.calls.map Call.number? = (List.range' 1 s.rehearsal.calls).map some := by
  induction h with
  | nil => rfl
  | cons _ hstep ih =>
    cases hstep with
    | @start r p calls output =>
      show (calls ++ [_]).map Call.number? = (List.range' 1 (r.calls + 1)).map some
      rw [List.map_append, ih, List.range'_1_concat, List.map_append, Nat.add_comm 1]
      rfl
    | finish | abandon =>
      rw [← ih, List.map_append, List.map_append]
      rfl
    | count _ h | report h | record h => cases h

/-- A call that is taken down has a number, and the numbers are those of the calls made. -/
theorem Settled.calls_eq (hsettled : s.Settled) (h : Run parallel failures past s) :
    s.rehearsal.calls = s.calls.length :=
  calc s.rehearsal.calls
    _ = s.numbers.length := by rw [h.counts.numbers.length_eq, List.length_range']
    _ = s.calls.countP (fun c => c.number?.isSome) := List.length_filterMap_eq_countP
    _ = s.calls.length := List.countP_eq_length.mpr hsettled

theorem Settled.pending_eq_nil (hsettled : s.Settled) : s.pending = [] := by
  refine List.filterMap_eq_nil_iff.mpr fun c hc => ?_
  have hnumber := hsettled c hc
  cases hprogress : c.progress with
  | counted _ =>
    rw [Call.number?, hprogress] at hnumber
    cases hnumber
  | reported | recorded _ _ | ended _ _ => rw [Call.pending?, hprogress]

/-- **The counters after any run.**  The calls that are taken down bear the numbers from one up to
    the count of calls, each another one.  A call fails if its number is among the failures, or
    always.  The probe counts the calls that have begun and not ended, so whenever one ends there
    is one to take away; and the peak was reached at some time.  Once all calls that have begun are
    taken down they are as many as the count says, and never were more under way than the peak.
    Without threads that is so at all times, and calls are numbered as they begin. -/
theorem Run.counters_exact (h : Run parallel failures past s) :
    s.numbers.Perm (List.range' 1 s.rehearsal.calls) ∧
    (∀ c ∈ s.calls, ∀ number result, c.progress = .ended number (some result) →
      result = if number ≤ failures.toNat ∨ failures = always
        then .error (.commandFailed (some 1) c.output) else .ok c.output) ∧
    s.probe.current = s.calls.countP Call.isOpen ∧
    (∀ c ∈ s.calls, ∀ number fails, c.progress = .recorded number fails → 0 < s.probe.current) ∧
    (∃ t ∈ past, t.probe.current = s.probe.peak) ∧
    (s.Settled → s.rehearsal.calls = s.calls.length ∧
      ∀ t ∈ past, t.probe.current ≤ s.probe.peak) ∧
    (parallel = false → s.Settled ∧
      ∀ i c, s.calls[i]? = some c → c.number? = some (i + 1)) := by
  have hcounts := h.counts
  refine ⟨hcounts.numbers, ?_, hcounts.current, ?_, List.mem_map.mp hcounts.peak,
    fun hsettled => ⟨hsettled.calls_eq h, ?_⟩, ?_⟩
  · intro c hc number result hended
    have hagrees := hcounts.agrees c hc
    rw [Call.Agrees, hended] at hagrees
    exact hagrees
  · intro c hc number fails hrecorded
    rw [hcounts.current, List.countP_pos_iff]
    exact ⟨c, hc, by rw [Call.isOpen, hrecorded]⟩
  · intro t ht
    rcases hcounts.below _ (List.mem_map_of_mem ht) with hle | ⟨m, hm, -⟩
    · exact hle
    · rw [hsettled.pending_eq_nil] at hm
      cases hm
  · rintro rfl
    have hnumbers := h.numbers_eq
    constructor
    · intro c hc
      have hmem : c.number? ∈ s.calls.map Call.number? := List.mem_map_of_mem hc
      rw [hnumbers] at hmem
      obtain ⟨n, -, hn⟩ := List.mem_map.mp hmem
      rw [← hn]
      rfl
    · intro i c hi
      have hlt : i < s.rehearsal.calls := by
        have hlength := congrArg List.length hnumbers
        rw [List.length_map, List.length_map, List.length_range'] at hlength
        exact hlength ▸ (List.getElem?_eq_some_iff.mp hi).1
      have hat : (s.calls.map Call.number?)[i]? = some c.number? := by
        rw [List.getElem?_map, hi, Option.map_some]
      rw [hnumbers, List.getElem?_map, List.getElem?_range' hlt, Option.map_some] at hat
      rw [← Option.some.inj hat, Nat.one_mul, Nat.add_comm]

end Run

/-- Threads get ahead of the counters.  A call that has begun is under way before the peak knows of
    it and before the rehearsal has taken it down; and of two calls the one that begins later can be
    taken down first, so that it is the one that fails. -/
theorem threads_overtake :
    (∃ past s, Run true 1 past s ∧ s.calls.length = 1 ∧ s.rehearsal.calls = 0 ∧
      s.probe.current = 1 ∧ s.probe.peak = 0) ∧
    ∃ past s, Run true 1 past s ∧
      s.calls.map Call.progress = [.recorded 2 false, .recorded 1 true] := by
  have hfirst : Run true 1 _ _ := .cons .nil (.count ⟨"a", ""⟩ rfl)
  have hboth := Run.cons hfirst (.count ⟨"b", ""⟩ rfl)
  have hone := Run.cons hboth (.report rfl : Step true ⟨_, _, [] ++ _ :: _⟩ _)
  have htwo := Run.cons hone (.report rfl : Step true ⟨_, _, [_] ++ _ :: _⟩ _)
  -- the second call is taken down first
  have hlate := Run.cons htwo (.record rfl : Step true ⟨_, _, [_] ++ _ :: _⟩ _)
  have hend := Run.cons hlate (.record rfl : Step true ⟨_, _, [] ++ _ :: _⟩ _)
  exact ⟨⟨_, _, hfirst, rfl, rfl, rfl, rfl⟩, _, _, hend, rfl⟩

/-- Two calls overlap, the first of which is to fail; they end one after the other. -/
theorem duet_counters_exact :
    ∃ past s, Run false 1 past s ∧ s.Settled ∧ s.probe = ⟨0, 2⟩ ∧ s.rehearsal.calls = 2 ∧
      s.rehearsal.calls = s.calls.length ∧ (∀ t ∈ past, t.probe.current ≤ 2) ∧
      s.calls.map Call.progress =
        [.ended 1 (some (.error (.commandFailed (some 1) ⟨"a", ""⟩))),
          .ended 2 (some (.ok ⟨"b", ""⟩))] := by
  have hfirst : Run false 1 _ _ := .cons .nil (.start ⟨"a", ""⟩)
  have hboth := Run.cons hfirst (.start ⟨"b", ""⟩)
  have hone := Run.cons hboth .finish
  have hend := Run.cons hone (Step.finish : Step false ⟨_, _, [] ++ _ :: _⟩ _)
  obtain ⟨-, -, -, -, -, hcounted, horder⟩ := hend.counters_exact
  have hsettled := (horder rfl).1
  obtain ⟨hcalls, hpeak⟩ := hcounted hsettled
  exact ⟨_, _, hend, hsettled, rfl, rfl, hcalls, hpeak, rfl⟩

end Scene

end SyncFleet.Rehearsal
