/-
  SyncFleet/Proofs/Fleet/Queue.lean
  =================================
  **The pending queue loses nobody, doubles nobody and lets nobody overtake.**

  `Fleet.WellQueued` is the shape of a queue: no place twice, and each place
  that of a job which this fleet runs itself.  It holds of a new fleet, moves
  of jobs leave the queue alone, and a tick keeps it because it appends only
  idle jobs that do not wait yet and takes jobs from the front.

  The main statement is `Run.queue_conserved`: after any run, all that ever
  joined the queue is all that was ever admitted, followed by what still
  waits.  Stopping and starting the manager leaves no trace in this equation.
-/
import Mathlib.Data.List.Basic
import SyncFleet.Proofs.Fleet.Run

namespace SyncFleet

open Calendar Control

/-! ### The shape of the queue -/

/-- No place waits twice, and every waiting place holds a job that is not looked after
    elsewhere. -/
structure Fleet.WellQueued (f : Fleet) : Prop where
  nodup : f.pending.Nodup
  job : ∀ i ∈ f.pending, ∃ spec, f.specs[i]? = some spec ∧ spec.external = false

namespace Fleet

variable {a : Action} {f f' : Fleet} {now : Instant} {i : Nat}

theorem slot_of_spec {spec : JobSpec} (h : f.specs[i]? = some spec) :
    ∃ s, f.slots[i]? = some s ∧ s.job.spec = spec := by
  rw [getElem?_specs] at h
  exact Option.map_eq_some_iff.mp h

theorem spec_of_slot {s : Slot} (h : f.slots[i]? = some s) : f.specs[i]? = some s.job.spec := by
  rw [getElem?_specs, h, Option.map_some]

theorem spec_eq_of_slot {s : Slot} {spec : JobSpec} (hs : f.slots[i]? = some s)
    (hspec : f.specs[i]? = some spec) : s.job.spec = spec :=
  Option.some.inj ((spec_of_slot hs).symm.trans hspec)

/-- A job joins the queue only if it is idle, run here and due. -/
theorem joins_iff {s : Slot} :
    s.joins now = true ↔
      s.job.isIdle = true ∧ s.job.spec.external = false ∧ s.isDue now = true := by
  simp [Slot.joins, and_assoc]

/-- Who joins the queue is idle. -/
theorem isBusyAt_of_joining (hi : i ∈ f.joining now) : f.isBusyAt i = false := by
  obtain ⟨s, hs, hjoins, _⟩ := mem_joining.mp hi
  rw [isBusyAt_of_slot hs, (joins_iff.mp hjoins).1]
  rfl

theorem WellQueued.moved (h : f.WellQueued) (hmove : Moved a f f') : f'.WellQueued := by
  refine ⟨hmove.pending ▸ h.nodup, fun i hi => ?_⟩
  rw [hmove.specs]
  exact h.job i (hmove.pending ▸ hi)

/-- The places from which a tick admits are as well queued as those that wait. -/
theorem WellQueued.candidates (h : f.WellQueued) (now : Instant) :
    (f.pending ++ f.joining now).Nodup ∧
      ∀ i ∈ f.pending ++ f.joining now, ∃ spec, f.specs[i]? = some spec ∧ spec.external = false := by
  constructor
  · refine List.nodup_append.mpr ⟨h.nodup, joining_nodup f now, ?_⟩
    intro i hi k hk hik
    obtain ⟨_, _, _, hwaits⟩ := mem_joining.mp hk
    exact hwaits (hik ▸ hi)
  · intro i hi
    rcases List.mem_append.mp hi with hi | hi
    · exact h.job i hi
    · obtain ⟨s, hs, hjoins, _⟩ := mem_joining.mp hi
      exact ⟨s.job.spec, spec_of_slot hs, (joins_iff.mp hjoins).2.1⟩

theorem WellQueued.admitted (h : f.WellQueued) (now : Instant) :
    (f.tick now).2.admitted.Nodup ∧
      ∀ i ∈ (f.tick now).2.admitted, ∃ s, f.slots[i]? = some s ∧ s.job.spec.external = false := by
  obtain ⟨hnodup, hjob⟩ := h.candidates now
  rw [tick_admitted]
  refine ⟨hnodup.sublist (List.take_sublist _ _), fun i hi => ?_⟩
  obtain ⟨spec, hspec, hext⟩ := hjob i (List.mem_of_mem_take hi)
  obtain ⟨s, hs, rfl⟩ := slot_of_spec hspec
  exact ⟨s, hs, hext⟩

theorem WellQueued.tick (h : f.WellQueued) (now : Instant) : (f.tick now).1.WellQueued := by
  obtain ⟨hnodup, hjob⟩ := h.candidates now
  constructor
  · rw [tick_pending]
    exact hnodup.sublist (List.drop_sublist _ _)
  · intro i hi
    rw [tick_pending] at hi
    rw [tick_specs]
    exact hjob i (List.mem_of_mem_drop hi)

/-- Who goes on waiting is not admitted, since nobody waits twice. -/
theorem WellQueued.not_admitted (h : f.WellQueued) (hi : i ∈ (f.tick now).1.pending) :
    i ∉ (f.tick now).2.admitted := by
  intro hadm
  rw [tick_admitted] at hadm
  rw [tick_pending] at hi
  exact List.disjoint_take_drop (h.candidates now).1 (Nat.le_refl _) hadm hi

/-- A tick does nothing to the jobs that it leaves waiting. -/
theorem WellQueued.slot_tick (h : f.WellQueued) (hi : i ∈ (f.tick now).1.pending) :
    (f.tick now).1.slots[i]? = f.slots[i]? := by
  rw [getElem?_tick_slots]
  simp only [if_neg (h.not_admitted hi), Option.map_id']

theorem WellQueued.isBusyAt_tick (h : f.WellQueued) (hi : i ∈ (f.tick now).1.pending) :
    (f.tick now).1.isBusyAt i = f.isBusyAt i := by
  simp only [isBusyAt, job?, h.slot_tick hi]

theorem wellQueued_restored (limit : Nat) (specs : List JobSpec) (c : Checkpoint) (now : Instant) :
    (restored limit specs c now).WellQueued :=
  ⟨List.nodup_nil, fun _ hi => absurd hi List.not_mem_nil⟩

/-- What is kept of a job is what it reports. -/
theorem exists_ofJob_job (c : Checkpoint) (now : Instant) (job : Job) :
    ∃ finished result, (Slot.ofJob c now job).job = job.restore finished result := by
  unfold Slot.ofJob
  split <;> exact ⟨_, _, rfl⟩

@[simp] theorem spec_ofJob (c : Checkpoint) (now : Instant) (job : Job) :
    (Slot.ofJob c now job).job.spec = job.spec := by
  obtain ⟨finished, result, heq⟩ := exists_ofJob_job c now job
  rw [heq, Job.spec_restore]

@[simp] theorem specs_around (limit : Nat) (jobs : List Job) (c : Checkpoint) (now : Instant) :
    (around limit jobs c now).specs = jobs.map Job.spec := by
  simp [Fleet.specs, around, Function.comp_def]

/-- A new fleet of some jobs is one of jobs that have just been made. -/
theorem restored_eq_around (limit : Nat) (specs : List JobSpec) (c : Checkpoint) (now : Instant) :
    restored limit specs c now = around limit (specs.map (Job.new · now)) c now := by
  rw [restored, around, List.map_map]
  rfl

@[simp]
theorem restored_specs (limit : Nat) (specs : List JobSpec) (c : Checkpoint) (now : Instant) :
    (restored limit specs c now).specs = specs := by
  rw [restored_eq_around, specs_around, List.map_map]
  exact List.map_id specs

end Fleet

/-! ### Runs -/

namespace Manager

open Fleet

variable {m₀ m : Manager} {es : List Event}

theorem Run.wellQueued (hrun : m₀.Run es m) (h : m₀.fleet.WellQueued) : m.fleet.WellQueued :=
  hrun.invariant h (fun _ _ _ hmove hq => hq.moved hmove) (fun _ now hq => hq.tick now)

/-- What joined the queue is what was admitted and what waits, in this order. -/
theorem Run.queued_eq (hrun : m₀.Run es m) (hempty : m₀.fleet.pending = []) :
    es.flatMap Event.queued = es.flatMap Event.admitted ++ m.fleet.pending := by
  induction hrun with
  | nil => rw [hempty]; rfl
  | @snoc es m m' a t _ hact ih =>
    rw [List.flatMap_append, List.flatMap_append, List.flatMap_singleton, List.flatMap_singleton, ih]
    rcases act?_cases hact with ⟨rfl, hmove⟩ | ⟨now, _, _, _, rfl, hfleet⟩
    · rw [hmove.pending]
      simp [Event.queued, Event.admitted]
    · rw [hfleet, List.append_assoc, List.append_assoc]
      exact congrArg _ (tick_admitted_append_pending m.fleet now).symm

/-- A tick reports the names that its jobs have at all times. -/
theorem Run.before_nameAt (hrun : m₀.Run es m) :
    ∀ e ∈ es, e.before.nameAt = m.fleet.nameAt := by
  induction hrun with
  | nil => intro e he; cases he
  | @snoc es m m' a t hrun hact ih =>
    have hsame : m'.fleet.nameAt = m.fleet.nameAt := by
      funext i
      rw [(hrun.snoc hact).nameAt i, hrun.nameAt i]
    intro e he
    rw [hsame]
    rcases List.mem_append.mp he with hmem | hmem
    · exact ih e hmem
    · rw [List.mem_singleton.mp hmem]

theorem Run.queuedNames_eq (hrun : m₀.Run es m) :
    es.flatMap Event.queuedNames = (es.flatMap Event.queued).map m.fleet.nameAt := by
  rw [List.map_flatMap]
  refine List.flatMap_congr fun e he => ?_
  rw [Event.queuedNames, hrun.before_nameAt e he]

theorem Run.admittedNames_eq (hrun : m₀.Run es m) :
    es.flatMap Event.admittedNames = (es.flatMap Event.admitted).map m.fleet.nameAt := by
  rw [List.map_flatMap]
  refine List.flatMap_congr fun e he => ?_
  rw [Event.admittedNames, hrun.before_nameAt e he]

/-- Whatever a tick queues or admits is the place of a job, and it queues in the order of
    places. -/
theorem Run.event_places (hrun : m₀.Run es m) (h : m₀.fleet.WellQueued) :
    ∀ e ∈ es, e.queued.Pairwise (· < ·) ∧
      ∀ i ∈ e.queued ++ e.admitted, i < e.before.slots.length := by
  intro e he
  cases htick : e.tick with
  | none => simp [Event.queued, Event.admitted, htick]
  | some t =>
    obtain ⟨now, pre, m₁, _, hpre, hbefore, rfl⟩ := hrun.tick_event e he t htick
    simp only [Event.queued, Event.admitted, htick, Option.map_some, Option.getD_some, hbefore]
    refine ⟨joining_sorted m₁.fleet now, fun i hi => ?_⟩
    have hcand : i ∈ m₁.fleet.pending ++ m₁.fleet.joining now := by
      rcases List.mem_append.mp hi with hi | hi
      · exact List.mem_append_right _ hi
      · exact List.mem_of_mem_take hi
    obtain ⟨spec, hspec, _⟩ := ((hpre.wellQueued h).candidates now).2 i hcand
    obtain ⟨s, hs, _⟩ := slot_of_spec hspec
    exact (List.getElem?_eq_some_iff.mp hs).1

/-- **The queue is conserved.**  Over any run of a new manager, the jobs that joined the queue are
    the jobs that were admitted, followed by those that wait, by name as well as by place.  A tick
    queues in the order of places.  No place ever waits twice, each is the place of a job that is
    not looked after elsewhere, and every place that a tick looks up is there. -/
theorem Run.queue_conserved {limit : Nat} {specs : List JobSpec} {c : Checkpoint} {now : Instant}
    {store : Storage.MemoryStore}
    (hrun : (ofFleet (.restored limit specs c now) store).Run es m) :
    es.flatMap Event.queuedNames =
        es.flatMap Event.admittedNames ++ m.fleet.pending.map m.fleet.nameAt ∧
      es.flatMap Event.queued = es.flatMap Event.admitted ++ m.fleet.pending ∧
      (∀ e ∈ es, e.queued.Pairwise (· < ·)) ∧
      m.fleet.pending.Nodup ∧
      (∀ i ∈ m.fleet.pending,
        ∃ h : i < m.fleet.slots.length, (m.fleet.slots[i]).job.spec.external = false) ∧
      ∀ e ∈ es, ∀ i ∈ e.queued ++ e.admitted, i < e.before.slots.length := by
  have hinit := wellQueued_restored limit specs c now
  have hqueue := hrun.wellQueued hinit
  have hplaces := hrun.queued_eq rfl
  refine ⟨?_, hplaces, fun e he => (hrun.event_places hinit e he).1, hqueue.nodup, fun i hi => ?_,
    fun e he => (hrun.event_places hinit e he).2⟩
  · rw [hrun.queuedNames_eq, hrun.admittedNames_eq, hplaces, List.map_append]
  · obtain ⟨spec, hspec, hext⟩ := hqueue.job i hi
    obtain ⟨s, hs, rfl⟩ := slot_of_spec hspec
    obtain ⟨hlt, hget⟩ := List.getElem?_eq_some_iff.mp hs
    exact ⟨hlt, hget ▸ hext⟩

/-! ### A queue under contention -/

/-- Four jobs of which two may be busy at once. -/
def quartet : Manager :=
  let spec (name : String) : JobSpec := ⟨name, ⟨.empty⟩, false, .once⟩
  ofFleet (.restored 2 [spec "a", spec "b", spec "c", spec "d"] .empty .epoch) (.holding none)

/-- The first and the second tick of the quartet.  The first one admits two jobs and leaves two
    waiting; then the manager is stopped and started again, a tick between them does nothing, one
    job finishes, and the second tick admits one more. -/
def quartetActions : List Action :=
  let second (n : Nat) : Instant := .addMillis .epoch (1000 * n)
  [.start .epoch, .endSave true, .tick (second 1), .endSave true,
    .call .stop, .post 0, .serve, .tick (second 2), .call .start, .post 1, .serve,
    .job 0 .receive, .job 0 (.finishAttempt (.ok .none)), .job 0 (.record (second 3)),
    .job 0 .publish, .tick (second 4)]

/-- One of four jobs still waits after three were admitted in turn. -/
theorem quartet_queue_conserved :
    let r := (quartet.play? quartetActions).get rfl
    quartet.Run r.1 r.2 ∧
      r.1.flatMap Event.queuedNames = ["a", "b", "c", "d"] ∧ r.2.fleet.pending = [3] ∧
      r.1.flatMap Event.queuedNames =
        r.1.flatMap Event.admittedNames ++ r.2.fleet.pending.map r.2.fleet.nameAt := by
  intro r
  have hrun : quartet.Run r.1 r.2 := run_played rfl
  exact ⟨hrun, by decide, by decide, hrun.queue_conserved.1⟩

end Manager

end SyncFleet
