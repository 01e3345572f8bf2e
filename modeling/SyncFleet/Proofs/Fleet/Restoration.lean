/-
  SyncFleet/Proofs/Fleet/Restoration.lean
  =======================================
  **What a fleet knows of earlier lives, and what its first tick makes of it.**

  A new fleet has for each job what the store kept under its name, and nothing
  else of the store: the time of the last admission, or of a year ago where
  nothing is kept (`keptInvoke`), and the status to report.  As long as nobody
  triggers a job, before the fleet is made or after, all are idle and these
  times stay, so the first tick queues the jobs whose interval has elapsed since
  then (`names_first_joining`), and nobody stands in the way of their admission.

  Time elapses as `Instant.nanosSince` counts it: between two instants that a
  clock shows that is the difference of the two, but a leap second in what is
  kept is forgotten at midnight (`firstTick_lost_to_leapSecond`).
-/
import SyncFleet.Proofs.Calendar.Days
import SyncFleet.Proofs.Fleet.Construction
import SyncFleet.Proofs.Fleet.Restart

namespace SyncFleet

open Calendar Storage

/-! ### What is kept -/

/-- What came of loading a store has under a name: nothing if it could not be loaded. -/
def keptRecord? (loaded : Except StoreFault Checkpoint) (name : String) : Option CheckpointEntry :=
  match loaded with
  | .ok c => c.jobs.get? name
  | .error _ => none

/-- The last admission of the job of a name: the one that is kept, or else a year ago. -/
def keptInvoke (loaded : Except StoreFault Checkpoint) (now : Instant) (name : String) : Instant :=
  match keptRecord? loaded name with
  | some e => e.lastInvoke
  | none => now.daysBefore 365

/-- The last completion to report: the one that is kept, or else the last admission. -/
def keptFinish (loaded : Except StoreFault Checkpoint) (now : Instant) (name : String) : Instant :=
  ((keptRecord? loaded name).bind CheckpointEntry.lastFinished).getD (keptInvoke loaded now name)

/-- The last result to report: the one that is kept, or else success. -/
def keptResult (loaded : Except StoreFault Checkpoint) (name : String) : Bool :=
  ((keptRecord? loaded name).bind CheckpointEntry.result).getD true

@[simp] theorem get?_restorable (loaded : Except StoreFault Checkpoint) (name : String) :
    (restorable loaded).jobs.get? name = keptRecord? loaded name := by
  cases loaded <;> rfl

variable {limit : Nat} {jobs : List Job} {loaded : Except StoreFault Checkpoint}
  {now t : Instant} {job : Job}

/-- A job of a fleet has what is kept under its name. -/
theorem ofJob_eq (loaded : Except StoreFault Checkpoint) (now : Instant) (job : Job) :
    Slot.ofJob (restorable loaded) now job =
      ⟨job.restore (keptFinish loaded now job.name) (keptResult loaded job.name),
        keptInvoke loaded now job.name⟩ := by
  rw [Slot.ofJob, get?_restorable, keptFinish, keptResult, keptInvoke]
  cases keptRecord? loaded job.name with
  | none => rfl
  | some e => rfl

namespace Fleet

theorem getElem?_around (limit : Nat) (jobs : List Job) (loaded : Except StoreFault Checkpoint)
    (now : Instant) (i : Nat) :
    (around limit jobs (restorable loaded) now).slots[i]? = jobs[i]?.map fun job =>
      ⟨job.restore (keptFinish loaded now job.name) (keptResult loaded job.name),
        keptInvoke loaded now job.name⟩ := by
  rw [around, List.getElem?_map]
  exact congrArg (Option.map · _) (funext (ofJob_eq loaded now))

/-- Jobs of different names make a fleet, whatever came of loading the store. -/
theorem ofJobs_eq_ok (limit : Nat) (loaded : Except StoreFault Checkpoint) (now : Instant)
    (hnodup : (jobs.map Job.name).Nodup) :
    ofJobs limit jobs loaded now = .ok (around limit jobs (restorable loaded) now) := by
  rw [ofJobs, firstRepeated?_of_nodup hnodup fun _ _ => List.not_mem_nil]

/-- Descriptors make the fleet of the new jobs that they describe. -/
theorem ofDescriptors_eq (limit : Nat) (ds : List Descriptor)
    (loaded : Except StoreFault Checkpoint) (now : Instant) :
    ofDescriptors limit ds loaded now =
      jobsOfDescriptors ds >>= fun specs => ofJobs limit (specs.map (Job.new · now)) loaded now := by
  rw [ofDescriptors]
  cases hspecs : jobsOfDescriptors ds with
  | error e => rfl
  | ok specs =>
    have hnodup : (specs.map JobSpec.name).Nodup := by
      rw [jobsOfDescriptors_eq] at hspecs
      obtain ⟨read, -, hdistinct⟩ := bind_eq_ok.mp hspecs
      obtain ⟨rfl, hnodup⟩ := distinctJobs_nodup hdistinct
      exact hnodup
    have hnames : ((specs.map (Job.new · now)).map Job.name).Nodup := by
      rwa [List.map_map]
    have haround := restored_eq_around limit specs (restorable loaded) now
    exact (congrArg Except.ok haround).trans (ofJobs_eq_ok limit loaded now hnames).symm

/-- With nobody waiting, the jobs that join are those that a tick would queue by themselves. -/
theorem names_joining {f : Fleet} (hempty : f.pending = []) (t : Instant) :
    (f.joining t).map f.nameAt = (f.slots.filter fun s => s.joins t).map fun s => s.job.name := by
  have hname : ∀ p ∈ f.slots.zipIdx.filter fun p => p.1.joins t,
      (f.nameAt ∘ Prod.snd) p = p.1.job.name := by
    intro p hp
    have hslot := List.mem_zipIdx_iff_getElem?.mp (List.mem_of_mem_filter hp)
    rw [Function.comp_apply, nameAt, job?, hslot]
    rfl
  have hjoining : f.joining t = (f.slots.zipIdx.filter fun p => p.1.joins t).map Prod.snd := by
    simp [joining, hempty]
  have hslots : ((f.slots.zipIdx.filter fun p => p.1.joins t).map Prod.fst) =
      f.slots.filter fun s => s.joins t := by
    have hall := List.zipIdx_map_fst 0 f.slots
    exact List.filter_map.symm.trans (congrArg (List.filter fun s => s.joins t) hall)
  rw [hjoining, List.map_map, List.map_congr_left hname, ← hslots, List.map_map]
  rfl

end Fleet

namespace Manager

open Fleet

/-! ### The first tick -/

/-- The jobs that are run here and whose interval has elapsed since what is kept of them. -/
def dueJobs (loaded : Except StoreFault Checkpoint) (now t : Instant) (jobs : List Job) :
    List Job :=
  jobs.filter fun job => job.spec.external = false ∧
    (job.spec.interval : Int) * nanosPerSecond < t.nanosSince (keptInvoke loaded now job.name)

section FirstTick

variable {store : MemoryStore} {es : List Event} {m m' : Manager} {tick : Tick}
  (hrun : (ofFleet (.around limit jobs (restorable loaded) now) store).Run es m)
  (hnone : ∀ e ∈ es, e.tick = none)

include hrun hnone

/-- Before the first tick each slot has the time that is kept for its job. -/
theorem Run.invoked_before_first {i : Nat} {s : Slot} (hs : m.fleet.slots[i]? = some s) :
    s.lastInvoke = keptInvoke loaded now s.job.spec.name := by
  have hspec := spec_of_slot hs
  rw [hrun.specs.1, fleet_ofFleet, specs_around, List.getElem?_map] at hspec
  obtain ⟨job, hjob, hsame⟩ := Option.map_eq_some_iff.mp hspec
  have hinvoked := (hrun.untouched hnone).2.1 i
  rw [fleet_ofFleet, invokedAt?, invokedAt?, hs, getElem?_around, hjob] at hinvoked
  rw [Option.some.inj hinvoked, ← hsame]
  rfl

variable (hrest : ∀ job ∈ jobs, job.AtRest) (hun : ∀ i, Unprompted i es)

include hrest hun

/-- Before the first tick all jobs are idle that were at rest and have not been triggered. -/
theorem Run.idle_before_tick {s : Slot} (hs : s ∈ m.fleet.slots) : s.job.isIdle = true := by
  obtain ⟨i, hi⟩ := List.mem_iff_getElem?.mp hs
  obtain ⟨hcalm, hidle⟩ : (Fleet.around limit jobs (restorable loaded) now).CalmAt i ∧ _ :=
    calmAt_of_atRest (fun _ => atRest_around hrest) i
  have hidle := ((hrun.untouched hnone).2.2 i hcalm hidle (hun i)).2
  rwa [isBusyAt_of_slot hi, Bool.not_eq_false'] at hidle

/-- The jobs that join at the first tick are those that are due by what is kept of them. -/
theorem Run.names_first_joining (t : Instant) :
    (m.fleet.joining t).map m.fleet.nameAt = (dueJobs loaded now t jobs).map Job.name := by
  have hspecs : m.fleet.slots.map (fun s => s.job.spec) = jobs.map Job.spec :=
    hrun.specs.1.trans (specs_around limit jobs (restorable loaded) now)
  have hjoins : ∀ s ∈ m.fleet.slots, s.joins t = (decide (s.job.spec.external = false ∧
      (s.job.spec.interval : Int) * nanosPerSecond <
        t.nanosSince (keptInvoke loaded now s.job.spec.name))) := by
    intro s hs
    have hidle := hrun.idle_before_tick hnone hrest hun hs
    obtain ⟨i, hi⟩ := List.mem_iff_getElem?.mp hs
    rw [Bool.eq_iff_iff, decide_eq_true_iff, joins_iff, Slot.isDue,
      hrun.invoked_before_first hnone hi, Instant.exceeds_iff]
    exact and_iff_right hidle
  -- which jobs are due depends on what is fixed about them alone
  have hdue := congrArg (List.filter fun spec : JobSpec => spec.external = false ∧
    (spec.interval : Int) * nanosPerSecond < t.nanosSince (keptInvoke loaded now spec.name)) hspecs
  rw [List.filter_map, List.filter_map] at hdue
  rw [names_joining (hrun.untouched hnone).1, List.filter_congr hjoins]
  have hnames := congrArg (List.map JobSpec.name) hdue
  rw [List.map_map, List.map_map] at hnames
  exact hnames

theorem Run.busyCount_before_first : m.fleet.busyCount = 0 := by
  rw [busyCount, List.countP_eq_zero]
  intro s hs
  rw [hrun.idle_before_tick hnone hrest hun hs]
  exact Bool.false_ne_true

/-- The first tick queues the jobs that are due and admits as many of them as the limit allows. -/
theorem Run.first_tick (htick : m.act? (.tick t) = some (m', some tick)) :
    tick.queued.map m.fleet.nameAt = (dueJobs loaded now t jobs).map Job.name ∧
      tick.admitted.map m.fleet.nameAt =
        ((dueJobs loaded now t jobs).take limit).map Job.name := by
  have hnames := hrun.names_first_joining hnone hrest hun t
  rcases act?_cases htick with ⟨hnot, _⟩ | ⟨t', heq, _, _, hfleet, _⟩
  · cases hnot
  cases heq
  cases hfleet
  have hlimit : m.fleet.limit = limit := hrun.specs.2
  rw [tick_queued, tick_admitted, budget, hrun.busyCount_before_first hnone hrest hun,
    Nat.sub_zero, hlimit, (hrun.untouched hnone).1]
  refine ⟨hnames, ?_⟩
  rw [List.map_take, List.map_take, ← hnames]
  rfl

end FirstTick

/-- A job is not due at a time that is no later than that of its last admission, unless it has no
    interval at all and the time lies in a leap second. -/
theorem not_mem_dueJobs (hle : t.le (keptInvoke loaded now job.name) = true)
    (ht : 0 < job.spec.interval ∨ t.isClockReading = true) : job ∉ dueJobs loaded now t jobs := by
  intro hmem
  have hdue := (of_decide_eq_true (List.mem_filter.mp hmem).2).2
  rcases ht with hinterval | hclock
  · have hlt := Instant.nanosSince_lt_second hle
    simp only [nanosPerSecond] at hdue hlt
    omega
  · have hnonpos := Instant.nanosSince_nonpos hle hclock
    simp only [nanosPerSecond] at hdue
    omega

/-- **A fleet is restored from whatever loading the store gave.**  Jobs of different names always
    make a fleet.  It has the kept time of admission of every job, or that of a year ago; its jobs
    report what is kept of them, and to be idle unless they were triggered before; and what is kept
    under other names plays no part.  The first tick, if nobody was triggered before it, queues the
    jobs that are run here and due by what is kept, in their order, and admits as many of them as
    the limit allows.  No job is due at a time that a clock shows and that is no later than that of
    its last admission; one with an interval is not even due at such a time in a leap second.
    Between instants that a clock shows, what has elapsed is what they differ by. -/
theorem ofJobs_restores (limit : Nat) (jobs : List Job) (loaded : Except StoreFault Checkpoint)
    (now : Instant) (hnodup : (jobs.map Job.name).Nodup) :
    ∃ fleet, Fleet.ofJobs limit jobs loaded now = .ok fleet ∧
      (∀ job ∈ jobs, fleet.lastInvoke? job.name = some (keptInvoke loaded now job.name)) ∧
      (minYear < now.date.year → ∀ name, keptRecord? loaded name = none →
        (keptInvoke loaded now name).sinceEpoch =
          now.sinceEpoch - 365 * 86400 * nanosPerSecond) ∧
      (∀ i job, jobs[i]? = some job → job.spec.external = false →
        ∃ job', fleet.job? i = some job' ∧ job'.spec = job.spec ∧ job'.isIdle = job.isIdle ∧
          (job.AtRest → job'.isIdle = true) ∧
          ∀ t, (job'.report t).toJobSummary =
            ⟨keptResult loaded job.name, keptFinish loaded now job.name, job.isIdle⟩) ∧
      (∀ loaded', (∀ job ∈ jobs, keptRecord? loaded' job.name = keptRecord? loaded job.name) →
        Fleet.ofJobs limit jobs loaded' now = .ok fleet) ∧
      (∀ store es m t m' tick, (∀ job ∈ jobs, job.AtRest) → (ofFleet fleet store).Run es m →
        (∀ e ∈ es, e.tick = none) → (∀ i, Unprompted i es) →
        m.act? (.tick t) = some (m', some tick) →
          tick.queued.map m.fleet.nameAt = (dueJobs loaded now t jobs).map Job.name ∧
          tick.admitted.map m.fleet.nameAt =
            ((dueJobs loaded now t jobs).take limit).map Job.name) ∧
      (∀ t job, t.le (keptInvoke loaded now job.name) = true →
        0 < job.spec.interval ∨ t.isClockReading = true → job ∉ dueJobs loaded now t jobs) ∧
      ∀ (t : Instant) name, t.isClockReading = true →
        (keptInvoke loaded now name).isClockReading = true →
        t.nanosSince (keptInvoke loaded now name) =
          t.sinceEpoch - (keptInvoke loaded now name).sinceEpoch := by
  have hspecs := specs_around limit jobs (restorable loaded) now
  have hnames : ((around limit jobs (restorable loaded) now).specs.map JobSpec.name).Nodup := by
    rwa [hspecs, List.map_map]
  refine ⟨_, ofJobs_eq_ok limit loaded now hnodup, ?_, ?_, ?_, ?_, ?_,
    fun t job => not_mem_dueJobs, fun t name => Instant.nanosSince_eq_sub⟩
  · intro job hmem
    obtain ⟨i, hi⟩ := List.mem_iff_getElem?.mp hmem
    have hspec : (around limit jobs (restorable loaded) now).specs[i]? = some job.spec := by
      rw [hspecs, List.getElem?_map, hi, Option.map_some]
    rw [Job.name, lastInvoke?_of_spec hnames hspec, invokedAt?, getElem?_around, hi]
    rfl
  · intro hyear name hnone
    rw [keptInvoke, hnone]
    exact (Instant.daysBefore_spec (by decide) (Date.firstDay_add_le hyear)).1
  · intro i job hjob hext
    refine ⟨job.restore (keptFinish loaded now job.name) (keptResult loaded job.name),
      by rw [job?, getElem?_around, hjob]; rfl, rfl, rfl, fun hrest => hrest.idle, fun t => ?_⟩
    rw [Job.report, if_neg (by simp [hext]), Job.isIdle, hext]
    rfl
  · intro loaded' hsame
    rw [ofJobs_eq_ok limit loaded' now hnodup]
    refine congrArg (fun slots => Except.ok (Fleet.mk limit slots [])) (List.map_congr_left ?_)
    intro job hmem
    rw [ofJob_eq, ofJob_eq]
    simp only [keptFinish, keptResult, keptInvoke, hsame job hmem]
  · intro store es m t m' tick hrest hrun hnone hun
    exact hrun.first_tick hnone hrest hun

/-! ### Two fleets -/

/-- A job of one name and an interval, made at noon. -/
def lone (interval : Int64) : Job :=
  .new ⟨"a", ⟨KeyMap.empty.insert Key.interval (.int interval)⟩, false, .once⟩ noon

/-- The places that the first tick queues in the fleet of one job whose last admission is kept. -/
def queuedFirst (job : Job) (last t : Instant) : Except FleetError (List Nat) :=
  (Fleet.ofJobs 1 [job] (.ok ⟨.ofList [("a", ⟨last, none, none⟩)]⟩) noon).map fun fleet =>
    (fleet.tick t).2.queued

/-- Leap seconds and early triggers count for the first tick.  The job that was last admitted in
    the leap second of noon is due before midnight and no longer due at midnight.  A job without an
    interval is due in a leap second before the time of its last admission.  And a job that was
    triggered before the fleet was made is busy in it. -/
theorem firstTick_lost_to_leapSecond :
    beforeMidnight.le midnight = true ∧
      queuedFirst (lone 43140) noonLeap beforeMidnight = .ok [0] ∧
      queuedFirst (lone 43140) noonLeap midnight = .ok [] ∧
      midnightLeap.le midnight = true ∧
      queuedFirst (lone 0) midnight midnightLeap = .ok [0] ∧
      (Fleet.ofJobs 1 [(lone 0).trigger] (.ok .empty) noon).map (·.isBusyAt 0) = .ok true := by
  decide +kernel

/-- Of two jobs one was admitted eleven seconds ago and failed, and nothing is kept of the other. -/
theorem pair_ofJobs_restores :
    let loaded : Except StoreFault Checkpoint := .ok ⟨.ofList
      [("a", ⟨noon, none, some false⟩), ("nobody", ⟨.epoch, none, none⟩)]⟩
    let t := noon.addMillis 11000
    let jobs := (pair 10 3600).map (Job.new · noon)
    ∃ fleet, Fleet.ofJobs 1 jobs loaded noon = .ok fleet ∧
      fleet.lastInvoke? "a" = some noon ∧
      ∃ es m m' tick, (ofFleet fleet (.holding none)).Run es m ∧
        m.act? (.tick t) = some (m', some tick) ∧ tick.queued.map m.fleet.nameAt = ["a", "b"] ∧
        tick.admitted.map m.fleet.nameAt = ["a"] := by
  intro loaded t jobs
  obtain ⟨fleet, hfleet, hinvoked, -, -, -, hticks, -⟩ :=
    ofJobs_restores 1 jobs loaded noon (by decide)
  obtain ⟨es, m, hrun, hnone, hun, hloop, hmode⟩ : ∃ es m,
      (ofFleet fleet (.holding none)).Run es m ∧ (∀ e ∈ es, e.tick = none) ∧
        (∀ i, Unprompted i es) ∧ m.loop = .waiting ∧ m.desk.mode = .running :=
    ⟨_, _, (Run.nil.snoc (a := .start noon) rfl).snoc (a := .endSave true) rfl, by simp,
      by simp [Unprompted], rfl, rfl⟩
  obtain ⟨m', htick⟩ : ∃ m', m.act? (.tick t) = some (m', some (m.fleet.tick t).2) := by
    rw [act?, tick?, hloop, hmode]
    exact ⟨_, rfl⟩
  have hrest : ∀ job ∈ jobs, job.AtRest :=
    List.forall_mem_map.mpr fun spec _ => Job.atRest_new spec noon
  obtain ⟨hqueued, hadmitted⟩ := hticks _ _ _ t m' _ hrest hrun hnone hun htick
  have hdue : (dueJobs loaded noon t jobs).map Job.name = ["a", "b"] := by
    decide +kernel
  have hkept : keptInvoke loaded noon "a" = noon := by decide +kernel
  have hlast : fleet.lastInvoke? "a" = some (keptInvoke loaded noon "a") :=
    hinvoked _ List.mem_cons_self
  refine ⟨fleet, hfleet, hlast.trans (congrArg some hkept), es, m, m', _, hrun, htick,
    hqueued.trans hdue, hadmitted.trans ?_⟩
  rw [List.map_take, hdue]
  rfl

end Manager

end SyncFleet
