/-
  SyncFleet/Proofs/Fleet/AtOnce.lean
  ==================================
  **With a place for every job nobody ever waits.**

  A scheduler without limit and queue starts every job at once that is idle
  and due: `Fleet.tickAtOnce`.  A tick differs from it only if it finds more
  such jobs than the limit leaves room for.  Jobs that are busy and jobs that
  are to start are different ones of those that the fleet runs itself
  (`busyCount_add_length_due_le`), whoever has made them busy.  So a limit
  that is no less than the number of these jobs leaves room for all of them,
  the queue is empty again after each tick, and the two schedulers do the same
  (`tick_eq_tickAtOnce`), in whole runs too (`run_iff_runAtOnce`).
-/
import Mathlib.Data.List.Sort
import SyncFleet.Proofs.Calendar.Elapsed
import SyncFleet.Proofs.Fleet.Queue
import SyncFleet.Proofs.List

namespace SyncFleet

open Calendar Control

/-! ### The scheduler without a queue -/

/-- Whether the job is idle, run here, and was started longer ago than its interval. -/
def Slot.startsAtOnce (s : Slot) (now : Instant) : Bool :=
  s.job.isIdle && !s.job.spec.external &&
    decide ((s.job.spec.interval : Int) * nanosPerSecond < now.nanosSince s.lastInvoke)

namespace Fleet

def due (f : Fleet) (now : Instant) : List Nat :=
  (List.range f.slots.length).filter fun i => (f.slots[i]?).any fun s => s.startsAtOnce now

/-- A tick of a scheduler that starts all of them at once. -/
def tickAtOnce (f : Fleet) (now : Instant) : Fleet × Tick :=
  ({ f with slots := f.slots.map fun s => if s.startsAtOnce now then s.admission now else s },
    ⟨f.busyCount, f.due now, f.due now, 0⟩)

end Fleet

namespace Manager

def tickAtOnce? (m : Manager) (now : Instant) : Option (Manager × Option Tick) :=
  match m.loop, m.desk.mode with
  | .waiting, .running =>
    let (fleet, t) := m.fleet.tickAtOnce now
    let loop := if t.changed then .saving (fleet.checkpoint now) else .waiting
    some ({ m with fleet, loop }, some t)
  | .waiting, .stopped => some (m, none)
  | _, _ => none

/-- The manager with that scheduler after an action; all but the ticks are the same. -/
def actAtOnce? (m : Manager) : Action → Option (Manager × Option Tick)
  | .tick now => m.tickAtOnce? now
  | a => m.act? a

/-- The runs of a manager with that scheduler. -/
inductive RunAtOnce (m₀ : Manager) : List Event → Manager → Prop where
  | nil : RunAtOnce m₀ [] m₀
  | snoc {es : List Event} {m m' : Manager} {a : Action} {t : Option Tick} :
      RunAtOnce m₀ es m → m.actAtOnce? a = some (m', t) →
        RunAtOnce m₀ (es ++ [⟨a, m.fleet, t⟩]) m'

end Manager

namespace Fleet

variable {a : Action} {f f' : Fleet} {now : Instant} {i : Nat}

theorem joins_eq_startsAtOnce (s : Slot) (now : Instant) : s.joins now = s.startsAtOnce now := by
  have hdue : s.isDue now =
      decide ((s.job.spec.interval : Int) * nanosPerSecond < now.nanosSince s.lastInvoke) := by
    rw [Bool.eq_iff_iff, decide_eq_true_iff]
    exact Instant.exceeds_iff
  rw [Slot.joins, Slot.startsAtOnce, hdue]

theorem mem_due : i ∈ f.due now ↔ ∃ s, f.slots[i]? = some s ∧ s.startsAtOnce now = true := by
  rw [due, List.mem_filter, List.mem_range, Option.any_eq_true]
  constructor
  · rintro ⟨_, s, hs, hstarts⟩
    exact ⟨s, hs, hstarts⟩
  · rintro ⟨s, hs, hstarts⟩
    exact ⟨(List.getElem?_eq_some_iff.mp hs).1, s, hs, hstarts⟩

theorem due_sorted (f : Fleet) (now : Instant) : (f.due now).Pairwise (· < ·) :=
  List.pairwise_lt_range.sublist List.filter_sublist

/-- As long as nobody waits, the jobs that are to start are those that join the queue. -/
theorem joining_eq_due (hempty : f.pending = []) : f.joining now = f.due now := by
  refine (joining_sorted f now).eq_of_mem_iff (due_sorted f now) fun i => ?_
  rw [mem_joining, mem_due]
  simp only [joins_eq_startsAtOnce, hempty, List.not_mem_nil, not_false_eq_true, and_true]

/-! ### Counting -/

/-- The number of jobs that the fleet runs itself. -/
def ownCount (f : Fleet) : Nat := f.specs.countP fun spec => !spec.external

/-- The busy jobs and those that are to start are different jobs that are run here. -/
theorem busyCount_add_length_due_le (f : Fleet) (now : Instant) :
    f.busyCount + (f.due now).length ≤ f.ownCount := by
  have hdue : (f.due now).length = f.slots.countP fun s => s.startsAtOnce now := by
    rw [due, ← List.countP_eq_length_filter]
    exact (countP_eq_countP_range _ f.slots).symm
  have hown : f.ownCount = f.slots.countP fun s => !s.job.spec.external := by
    rw [ownCount, specs, List.countP_map]
    rfl
  rw [hdue, hown, busyCount]
  refine countP_add_countP_le (fun s hbusy => ?_) fun s hstarts => ?_
  · rw [Bool.not_eq_true'] at hbusy
    rw [Bool.not_eq_true', Slot.startsAtOnce, hbusy, Bool.false_and, Bool.false_and]
    exact ⟨(Bool.or_eq_false_iff.mp hbusy).1, rfl⟩
  · rw [Slot.startsAtOnce, Bool.and_eq_true, Bool.and_eq_true] at hstarts
    exact hstarts.1.2

/-! ### One tick -/

/-- Nobody waits, and the limit is no less than the number of jobs that are run here. -/
structure Roomy (f : Fleet) : Prop where
  empty : f.pending = []
  fits : f.ownCount ≤ f.limit

/-- A limit with a place for every job makes no difference. -/
theorem Roomy.tick_eq_tickAtOnce (h : f.Roomy) (now : Instant) : f.tick now = f.tickAtOnce now := by
  have hjoining : f.joining now = f.due now := joining_eq_due h.empty
  have hroom : (f.due now).length ≤ f.budget := by
    have hcount := busyCount_add_length_due_le f now
    have hfits := h.fits
    rw [budget]
    omega
  have hadmitted : (f.tick now).2.admitted = f.due now := by
    rw [tick_admitted, h.empty, hjoining, List.nil_append, List.take_of_length_le hroom]
  have hpending : (f.tick now).1.pending = [] := by
    rw [tick_pending, h.empty, hjoining, List.nil_append, List.drop_eq_nil_iff.mpr hroom]
  have hslots : (f.tick now).1.slots = (f.tickAtOnce now).1.slots := by
    apply List.ext_getElem?
    intro i
    rw [getElem?_tick_slots, hadmitted, tickAtOnce, List.getElem?_map]
    cases hs : f.slots[i]? with
    | none => rfl
    | some s =>
      have hstarts : i ∈ f.due now ↔ s.startsAtOnce now = true := by
        rw [mem_due, hs]
        simp
      simp only [Option.map_some, hstarts]
  calc
    f.tick now = (⟨f.limit, (f.tick now).1.slots, (f.tick now).1.pending⟩,
        ⟨f.busyCount, f.joining now, (f.tick now).2.admitted, (f.tick now).1.pending.length⟩) := rfl
    _ = (⟨f.limit, (f.tickAtOnce now).1.slots, f.pending⟩,
        ⟨f.busyCount, f.due now, f.due now, 0⟩) := by
      rw [hslots, hpending, hjoining, hadmitted, h.empty, List.length_nil]
    _ = f.tickAtOnce now := rfl

theorem Roomy.tick (h : f.Roomy) (now : Instant) : (f.tick now).1.Roomy where
  empty := by
    rw [h.tick_eq_tickAtOnce]
    exact h.empty
  fits := by
    rw [ownCount, tick_specs]
    exact h.fits

theorem Roomy.moved (h : f.Roomy) (hmove : Moved a f f') : f'.Roomy where
  empty := hmove.pending.trans h.empty
  fits := by
    rw [ownCount, hmove.specs, hmove.limit]
    exact h.fits

theorem roomy_restored {limit : Nat} {specs : List JobSpec}
    (hlimit : (specs.countP fun spec => !spec.external) ≤ limit) (c : Checkpoint) (now : Instant) :
    (restored limit specs c now).Roomy where
  empty := rfl
  fits := by
    rw [ownCount, restored_specs]
    exact hlimit

end Fleet

/-! ### Whole runs -/

namespace Manager

open Fleet

variable {m₀ m m' : Manager} {es : List Event}

theorem Run.roomy (hrun : m₀.Run es m) (h : m₀.fleet.Roomy) : m.fleet.Roomy :=
  hrun.invariant h (fun _ _ _ hmove h => h.moved hmove) fun _ now h => h.tick now

theorem act?_eq_actAtOnce? (h : m.fleet.Roomy) (a : Action) : m.act? a = m.actAtOnce? a := by
  cases a with
  | tick now =>
    have htick := h.tick_eq_tickAtOnce now
    show m.tick? now = m.tickAtOnce? now
    unfold tick? tickAtOnce?
    cases m.loop with
    | waiting => cases m.desk.mode <;> simp only [htick]
    | unstarted | saving | ended => rfl
  | _ => rfl

/-- The two schedulers have the same runs. -/
theorem run_iff_runAtOnce (h : m₀.fleet.Roomy) : m₀.Run es m ↔ m₀.RunAtOnce es m := by
  constructor
  · intro hrun
    induction hrun with
    | nil => exact .nil
    | snoc hrun hact ih => exact ih.snoc (act?_eq_actAtOnce? (hrun.roomy h) _ ▸ hact)
  · intro hrun
    induction hrun with
    | nil => exact .nil
    | snoc _ hact ih => exact ih.snoc (act?_eq_actAtOnce? (ih.roomy h) _ ▸ hact)

section NewManager

variable {limit : Nat} {specs : List JobSpec} {c : Checkpoint} {now : Instant}
  {store : Storage.MemoryStore}

/-- **With a place for every job the queue is invisible.**  If the limit is no less than the number
    of jobs that are run here, nobody ever waits between two actions, whatever is triggered by
    hand.  A tick that is taken while jobs are admitted admits just those that are idle, run here
    and were admitted longer ago than their interval, in the order of places, and notes its time for
    these and no others.  All runs are those of the scheduler that starts such jobs at once. -/
theorem Run.queue_invisible (hlimit : (specs.countP fun spec => !spec.external) ≤ limit) :
    ((ofFleet (.restored limit specs c now) store).Run es m ↔
      (ofFleet (.restored limit specs c now) store).RunAtOnce es m) ∧
    ((ofFleet (.restored limit specs c now) store).Run es m →
      m.fleet.pending = [] ∧
      ∀ time m' t, m.act? (.tick time) = some (m', t) → m.desk.mode = .running →
        ∃ tick, t = some tick ∧ tick.queued = tick.admitted ∧ tick.admitted.Pairwise (· < ·) ∧
          (∀ i, i ∈ tick.admitted ↔ ∃ s, m.fleet.slots[i]? = some s ∧ s.job.isIdle = true ∧
            s.job.spec.external = false ∧
            (s.job.spec.interval : Int) * nanosPerSecond < time.nanosSince s.lastInvoke) ∧
          ∀ i, m'.fleet.slots[i]? = (m.fleet.slots[i]?).map fun s =>
            if i ∈ tick.admitted then ⟨s.job.trigger, time⟩ else s) := by
  have hroomy := roomy_restored hlimit c now
  refine ⟨run_iff_runAtOnce hroomy, fun hrun => ⟨(hrun.roomy hroomy).empty, ?_⟩⟩
  intro time m' t hact hmode
  have hsame := (hrun.roomy hroomy).tick_eq_tickAtOnce time
  obtain ⟨_, ⟨_, rfl, hfleet, _⟩ | ⟨hstopped, _, _⟩⟩ := tick?_cases hact
  · have hadmitted : (m.fleet.tick time).2.admitted = m.fleet.due time := by
      rw [hsame]
      rfl
    refine ⟨_, rfl, by rw [hsame]; rfl, hadmitted ▸ due_sorted m.fleet time, fun i => ?_,
      fun i => ?_⟩
    · rw [hadmitted, mem_due]
      simp only [Slot.startsAtOnce, Bool.and_eq_true, Bool.not_eq_true', decide_eq_true_eq,
        and_assoc]
    · rw [hfleet]
      exact getElem?_tick_slots m.fleet time i
  · rw [hmode] at hstopped
    cases hstopped

end NewManager

/-! ### Two places for two jobs and a third -/

/-- Two jobs and between them one that is looked after elsewhere, and a place for each of the
    two. -/
def spacious : Manager :=
  let spec (name : String) (interval : Int64) (external : Bool) : JobSpec :=
    ⟨name, ⟨KeyMap.empty.insert Key.interval (.int interval)⟩, external, .once⟩
  ofFleet (.restored 2 [spec "a" 3600 false, spec "b" 1 true, spec "c" 1 false] .empty .epoch)
    (.holding none)

/-- Both jobs are admitted.  The second one has finished and is due again, and the first one is
    triggered by hand when it has finished too. -/
def spaciousActions : List Action :=
  let second (n : Nat) : Instant := .addMillis .epoch (1000 * n)
  [.start .epoch, .endSave true, .tick (second 1), .endSave true,
    .job 0 .receive, .job 0 (.finishAttempt (.ok .none)), .job 0 (.record (second 2)),
    .job 2 .receive, .job 2 (.finishAttempt (.ok .none)), .job 2 (.record (second 2)),
    .job 0 .trigger]

/-- The job that is due is admitted although the other one was triggered by hand. -/
theorem spacious_queue_invisible :
    let r := (spacious.play? spaciousActions).get rfl
    spacious.RunAtOnce r.1 r.2 ∧ r.2.fleet.pending = [] ∧ r.2.fleet.isBusyAt 0 = true ∧
      ∃ m' t, r.2.act? (.tick (.addMillis .epoch 3000)) = some (m', some t) ∧ t.admitted = [2] ∧
        t.queued = t.admitted := by
  intro r
  have hrun : spacious.Run r.1 r.2 := run_played rfl
  have hsame : spacious.RunAtOnce r.1 r.2 := (Run.queue_invisible (by decide)).1.mp hrun
  obtain ⟨hempty, htick⟩ := (Run.queue_invisible (by decide)).2 hrun
  obtain ⟨t, ht, hqueued, _⟩ := htick (.addMillis .epoch 3000) _ _ rfl rfl
  cases ht
  exact ⟨hsame, hempty, rfl, _, _, rfl, by decide, hqueued⟩

end Manager

end SyncFleet
