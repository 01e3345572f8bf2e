/-
  SyncFleet/Proofs/Fleet/Run.lean
  ===============================
  **Runs: a manager, its jobs and its callers, one action after another.**

  An `Action` is whatever happens next: a tick of the decision loop at any
  time, the end of a save, a command that a caller sends or the loop takes, or
  something that happens to one job.  Nothing else changes a manager, and any
  action may follow any other as long as it can be taken, so a `Manager.Run`
  is an arbitrary interleaving.  A manual trigger is the action `trigger` of a
  job; a request to run a job and wait for it is a `spawn` followed by a
  `trigger`, between which other actions may come.

  What an action does to the fleet is said once, in `Manager.act?_cases`:
  it ticks, or it lets jobs move on and leaves the queue and the times of
  admission alone.  Every invariant of a fleet is proved from these two cases.
-/
import SyncFleet.Fleet.Manager
import SyncFleet.Proofs.Fleet.Tick

namespace SyncFleet

open Calendar Control

/-! ### Actions -/

/-- What can happen to a manager. -/
inductive Action where
  /-- the manager is started -/
  | start (now : Instant)
  /-- the save under way ends -/
  | endSave (succeeds : Bool)
  /-- the decision loop ticks -/
  | tick (now : Instant)
  /-- the decision loop takes the next command -/
  | serve
  /-- the decision loop finds that nobody can call it any more -/
  | abandon
  /-- somebody begins a call -/
  | call (c : ControlCommand)
  /-- a call sends its next command -/
  | post (call : Nat)
  /-- something happens to the job at a place -/
  | job (place : Nat) (a : JobAction)

/-- The fleet after an action of the job at a place. -/
def Fleet.actAt? (f : Fleet) (i : Nat) (a : JobAction) : Option Fleet :=
  ((f.job? i).bind fun j => j.act? a).map fun j => f.update i fun _ => j

namespace Manager

/-- The manager after an action, and what the tick did if the action is one, provided that the
    action can be taken. -/
def act? (m : Manager) : Action → Option (Manager × Option Tick)
  | .start now =>
    match m.loop with
    | .unstarted => some (m.start now, none)
    | _ => none
  | .endSave succeeds => (m.finishSave? succeeds).map fun m => (m, none)
  | .tick now => m.tick? now
  | .serve => m.serve?.map fun r => (r.1, none)
  | .abandon => m.abandon?.map fun m => (m, none)
  | .call c => some ({ m with desk := (m.desk.call c).1 }, none)
  | .post k => (m.desk.post? k).map fun desk => ({ m with desk }, none)
  | .job i a => (m.fleet.actAt? i a).map fun fleet => ({ m with fleet }, none)

end Manager

/-- An action that was taken: the fleet that it met, and what the tick did if it was one. -/
structure Event where
  action : Action
  before : Fleet
  tick : Option Tick

namespace Event

/-- The places that joined the queue. -/
def queued (e : Event) : List Nat := (e.tick.map Tick.queued).getD []

/-- The places that were admitted. -/
def admitted (e : Event) : List Nat := (e.tick.map Tick.admitted).getD []

/-- The names of the jobs that joined the queue, as the tick reports them. -/
def queuedNames (e : Event) : List String := e.queued.map e.before.nameAt

/-- The names of the jobs that were admitted, as the tick reports them. -/
def admittedNames (e : Event) : List String := e.admitted.map e.before.nameAt

end Event

/-- The runs of a manager: what happened, in order, and the manager after it. -/
inductive Manager.Run (m₀ : Manager) : List Event → Manager → Prop where
  | nil : Run m₀ [] m₀
  | snoc {es : List Event} {m m' : Manager} {a : Action} {t : Option Tick} :
      Run m₀ es m → m.act? a = some (m', t) → Run m₀ (es ++ [⟨a, m.fleet, t⟩]) m'

/-- Whether nobody triggers the job at a place by hand. -/
def Unprompted (i : Nat) (es : List Event) : Prop := ∀ e ∈ es, e.action ≠ .job i .trigger

/-! ### What an action does to the fleet -/

/-- A fleet whose jobs may have moved on by an action, with queue and times of admission as they
    were. -/
structure Fleet.Moved (a : Action) (f f' : Fleet) : Prop where
  limit : f'.limit = f.limit
  pending : f'.pending = f.pending
  slot : ∀ i : Nat, (f'.slots[i]? = f.slots[i]?) ∨ ∃ s j' b,
    f.slots[i]? = some s ∧ s.job.act? b = some j' ∧ (b = .spawn ∨ a = .job i b) ∧
      f'.slots[i]? = some { s with job := j' }

namespace Fleet

variable {a : Action} {f f' : Fleet}

/-- A job moves by a spawn or by the action itself, and so by no other action. -/
theorem moved_ne {i : Nat} {b c : JobAction} (hb : b = .spawn ∨ a = .job i b) (hc : c ≠ .spawn)
    (ha : a ≠ .job i c) : b ≠ c := by
  rintro rfl
  exact hb.elim hc ha

theorem Moved.refl (a : Action) (f : Fleet) : Moved a f f := ⟨rfl, rfl, fun _ => Or.inl rfl⟩

theorem getElem?_update_slots (f : Fleet) (i k : Nat) (step : Job → Job) :
    (f.update i step).slots[k]? =
      (f.slots[k]?).map fun s => if i = k then { s with job := step s.job } else s := by
  rw [update, List.getElem?_modify]
  cases f.slots[k]? with
  | none => rfl
  | some s => rfl

/-- The action of one job changes that job only. -/
theorem actAt?_eq_some {i : Nat} {b : JobAction} (h : f.actAt? i b = some f') :
    f'.limit = f.limit ∧ f'.pending = f.pending ∧
      (∃ s j', f.slots[i]? = some s ∧ s.job.act? b = some j' ∧
        f'.slots[i]? = some { s with job := j' }) ∧
      ∀ k, k ≠ i → f'.slots[k]? = f.slots[k]? := by
  obtain ⟨j', hj', rfl⟩ := Option.map_eq_some_iff.mp h
  obtain ⟨j, hj, hact⟩ := Option.bind_eq_some_iff.mp hj'
  obtain ⟨s, hs, rfl⟩ := job?_eq_some hj
  refine ⟨rfl, rfl, ⟨s, j', hs, hact, ?_⟩, fun k hk => ?_⟩
  · rw [getElem?_update_slots, hs, Option.map_some, if_pos rfl]
  · rw [getElem?_update_slots]
    simp only [if_neg (Ne.symm hk), Option.map_id']

theorem moved_of_actAt? {i : Nat} {b : JobAction} (h : f.actAt? i b = some f') :
    Moved (.job i b) f f' := by
  obtain ⟨hlimit, hpending, ⟨s, j', hs, hact, hs'⟩, hother⟩ := actAt?_eq_some h
  refine ⟨hlimit, hpending, fun k => ?_⟩
  by_cases hk : k = i
  · subst hk
    exact Or.inr ⟨s, j', b, hs, hact, Or.inr rfl, hs'⟩
  · exact Or.inl (hother k hk)

theorem Moved.specs (h : Moved a f f') : f'.specs = f.specs := by
  apply List.ext_getElem?
  intro i
  rw [getElem?_specs, getElem?_specs]
  rcases h.slot i with heq | ⟨s, j', b, hs, hact, _, hs'⟩
  · rw [heq]
  · rw [hs, hs', Option.map_some, Option.map_some, Job.spec_act? hact]

end Fleet

namespace Manager

open Fleet

variable {m₀ m m' : Manager} {a : Action} {t : Option Tick} {es : List Event}

/-- Starting a manager spawns its jobs. -/
theorem moved_start (m : Manager) (now : Instant) : Moved a m.fleet (m.start now).fleet := by
  refine ⟨rfl, rfl, fun i => ?_⟩
  simp only [start, List.getElem?_map]
  cases hs : m.fleet.slots[i]? with
  | none => exact Or.inl rfl
  | some s => exact Or.inr ⟨s, s.job.spawn.1, .spawn, rfl, rfl, Or.inl rfl, rfl⟩

/-- A tick that is taken finds the loop waiting.  While jobs are admitted it is a tick of the
    fleet, and a save follows if it changed anything; otherwise it does nothing. -/
theorem tick?_cases {now : Instant} (h : m.tick? now = some (m', t)) :
    m.loop = .waiting ∧
      ((m.desk.mode = .running ∧ t = some (m.fleet.tick now).2 ∧ m'.fleet = (m.fleet.tick now).1 ∧
        m'.store = m.store ∧ m'.desk = m.desk ∧
        m'.loop = if (m.fleet.tick now).2.changed then
          .saving ((m.fleet.tick now).1.checkpoint now) else .waiting) ∨
      (m.desk.mode = .stopped ∧ t = none ∧ m' = m)) := by
  unfold tick? at h
  split at h
  · rename_i hloop hmode
    cases h
    exact ⟨hloop, Or.inl ⟨hmode, rfl, rfl, rfl, rfl, rfl⟩⟩
  · rename_i hloop hmode
    cases h
    exact ⟨hloop, Or.inr ⟨hmode, rfl, rfl⟩⟩
  · cases h

/-- The loop takes a command without looking at the jobs. -/
theorem serve?_fleet {c : ControlCommand} (h : m.serve? = some (m', c)) :
    m'.fleet = m.fleet ∧ m'.store = m.store ∧ m.loop = .waiting ∧
      (m'.loop = .waiting ∨ m'.loop = .ended) := by
  unfold serve? at h
  split at h
  · rename_i hloop
    obtain ⟨⟨desk, c'⟩, _, heq⟩ := Option.map_eq_some_iff.mp h
    cases heq
    refine ⟨rfl, rfl, hloop, ?_⟩
    by_cases hexit : c = .exit
    · exact Or.inr (if_pos hexit)
    · exact Or.inl (if_neg hexit)
  · cases h

/-- An action ticks, or it lets jobs move on. -/
theorem act?_cases (h : m.act? a = some (m', t)) :
    (t = none ∧ Moved a m.fleet m'.fleet) ∨
      ∃ now, a = .tick now ∧ m.loop = .waiting ∧ m.desk.mode = .running ∧
        t = some (m.fleet.tick now).2 ∧ m'.fleet = (m.fleet.tick now).1 := by
  cases a with
  | start now =>
    simp only [act?] at h
    split at h
    · cases h
      exact Or.inl ⟨rfl, moved_start m now⟩
    · cases h
  | endSave succeeds =>
    obtain ⟨m₁, hsave, heq⟩ := Option.map_eq_some_iff.mp h
    cases heq
    unfold finishSave? at hsave
    split at hsave
    · cases hsave
      exact Or.inl ⟨rfl, .refl _ _⟩
    · cases hsave
  | tick now =>
    obtain ⟨hloop, ⟨hmode, ht, hfleet, _⟩ | ⟨_, ht, rfl⟩⟩ := tick?_cases h
    · exact Or.inr ⟨now, rfl, hloop, hmode, ht, hfleet⟩
    · exact Or.inl ⟨ht, .refl _ _⟩
  | serve =>
    obtain ⟨⟨m₁, c⟩, hserve, heq⟩ := Option.map_eq_some_iff.mp h
    cases heq
    have hfleet := (serve?_fleet hserve).1
    exact Or.inl ⟨rfl, hfleet ▸ .refl _ _⟩
  | abandon =>
    obtain ⟨m₁, habandon, heq⟩ := Option.map_eq_some_iff.mp h
    cases heq
    unfold abandon? at habandon
    split at habandon
    · cases habandon
      exact Or.inl ⟨rfl, .refl _ _⟩
    · cases habandon
  | call c =>
    cases h
    exact Or.inl ⟨rfl, .refl _ _⟩
  | post k =>
    obtain ⟨desk, _, heq⟩ := Option.map_eq_some_iff.mp h
    cases heq
    exact Or.inl ⟨rfl, .refl _ _⟩
  | job i b =>
    obtain ⟨fleet, hact, heq⟩ := Option.map_eq_some_iff.mp h
    cases heq
    exact Or.inl ⟨rfl, moved_of_actAt? hact⟩

/-! ### Inductions over runs -/

/-- What holds at first and is kept by moves and ticks holds after every run. -/
theorem Run.invariant {I : Fleet → Prop} (hrun : m₀.Run es m) (hinit : I m₀.fleet)
    (hmoved : ∀ a f f', Moved a f f' → I f → I f') (htick : ∀ f now, I f → I (f.tick now).1) :
    I m.fleet := by
  induction hrun with
  | nil => exact hinit
  | snoc _ hact ih =>
    rcases act?_cases hact with ⟨_, hmove⟩ | ⟨now, _, _, _, _, hfleet⟩
    · exact hmoved _ _ _ hmove ih
    · exact hfleet ▸ htick _ now ih

/-- Every run has the same jobs at the same places, under the same limit. -/
theorem Run.specs (hrun : m₀.Run es m) :
    m.fleet.specs = m₀.fleet.specs ∧ m.fleet.limit = m₀.fleet.limit :=
  hrun.invariant (I := fun f => f.specs = m₀.fleet.specs ∧ f.limit = m₀.fleet.limit) ⟨rfl, rfl⟩
    (fun _ _ _ hmove h => ⟨hmove.specs.trans h.1, hmove.limit.trans h.2⟩)
    (fun f now h => ⟨(tick_specs f now).trans h.1, h.2⟩)

theorem nameAt_eq (f : Fleet) (i : Nat) : f.nameAt i = ((f.specs[i]?).map JobSpec.name).getD "" := by
  rw [getElem?_specs, nameAt, job?, Option.map_map, Option.map_map]
  rfl

/-- The jobs keep their names. -/
theorem Run.nameAt (hrun : m₀.Run es m) (i : Nat) : m.fleet.nameAt i = m₀.fleet.nameAt i := by
  rw [nameAt_eq, nameAt_eq, hrun.specs.1]

/-- What a tick of a run did is what the tick of the fleet that it met does. -/
theorem Run.tick_event (hrun : m₀.Run es m) :
    ∀ e ∈ es, ∀ t, e.tick = some t → ∃ now pre m₁, e.action = .tick now ∧ m₀.Run pre m₁ ∧
      e.before = m₁.fleet ∧ t = (m₁.fleet.tick now).2 := by
  induction hrun with
  | nil => intro e he; cases he
  | @snoc es m₁ m' a t' hrun hact ih =>
    intro e he t ht
    rcases List.mem_append.mp he with hmem | hmem
    · exact ih e hmem t ht
    · obtain rfl := List.mem_singleton.mp hmem
      rcases act?_cases hact with ⟨rfl, _⟩ | ⟨now, rfl, _, _, rfl, _⟩
      · cases ht
      · exact ⟨now, es, m₁, rfl, hrun, rfl, (Option.some.inj ht).symm⟩

theorem unprompted_append {i : Nat} {es fs : List Event} :
    Unprompted i (es ++ fs) ↔ Unprompted i es ∧ Unprompted i fs := by
  simp only [Unprompted, List.mem_append]
  constructor
  · intro h
    exact ⟨fun e he => h e (Or.inl he), fun e he => h e (Or.inr he)⟩
  · rintro ⟨hes, hfs⟩ e (he | he)
    · exact hes e he
    · exact hfs e he

/-! ### Playing a run -/

/-- Take the actions of a list in order: what happened, and the manager after it. -/
def play? (m : Manager) : List Action → Option (List Event × Manager)
  | [] => some ([], m)
  | a :: rest =>
    match m.act? a with
    | none => none
    | some (m', t) => (m'.play? rest).map fun r => (⟨a, m.fleet, t⟩ :: r.1, r.2)

/-- What was played is what happened. -/
theorem map_action_play? {as : List Action} (h : m.play? as = some (es, m')) :
    es.map Event.action = as := by
  induction as generalizing m es with
  | nil =>
    cases h
    rfl
  | cons a rest ih =>
    unfold Manager.play? at h
    split at h
    · cases h
    · obtain ⟨⟨fs, m₂⟩, hplay, heq⟩ := Option.map_eq_some_iff.mp h
      cases heq
      exact congrArg (a :: ·) (ih hplay)

theorem Run.play? {as : List Action} {fs : List Event} (hrun : m₀.Run es m)
    (h : m.play? as = some (fs, m')) : m₀.Run (es ++ fs) m' := by
  induction as generalizing m es fs with
  | nil =>
    cases h
    rw [List.append_nil]
    exact hrun
  | cons a rest ih =>
    unfold Manager.play? at h
    split at h
    · cases h
    · rename_i m₁ t hact
      obtain ⟨⟨gs, m₂⟩, hplay, heq⟩ := Option.map_eq_some_iff.mp h
      cases heq
      rw [List.append_cons]
      exact ih (hrun.snoc hact) hplay

/-- The actions that were played make a run. -/
theorem run_of_play? {as : List Action} (h : m.play? as = some (es, m')) : m.Run es m' := by
  simpa using Run.nil.play? h

theorem play?_snoc {as : List Action} (h : m₀.play? as = some (es, m))
    (hact : m.act? a = some (m', t)) :
    m₀.play? (as ++ [a]) = some (es ++ [⟨a, m.fleet, t⟩], m') := by
  induction as generalizing m₀ es with
  | nil =>
    cases h
    simp [Manager.play?, hact]
  | cons b rest ih =>
    unfold Manager.play? at h
    split at h
    · cases h
    · rename_i m₁ u hfirst
      obtain ⟨⟨fs, m₂⟩, hplay, heq⟩ := Option.map_eq_some_iff.mp h
      cases heq
      rw [List.cons_append, Manager.play?]
      simp only [hfirst, ih hplay, Option.map_some, List.cons_append]

/-- A run is what playing its actions leads to. -/
theorem play?_of_run (h : m₀.Run es m) : m₀.play? (es.map Event.action) = some (es, m) := by
  induction h with
  | nil => rfl
  | snoc _ hact ih =>
    rw [List.map_append]
    exact play?_snoc ih hact

theorem run_played {as : List Action} (h : (m.play? as).isSome) :
    m.Run ((m.play? as).get h).1 ((m.play? as).get h).2 :=
  run_of_play? (Option.some_get h).symm

/-- Actions that can be played are those of a run. -/
theorem exists_run_of_play? {as : List Action} (h : (m.play? as).isSome) :
    ∃ es m', m.Run es m' ∧ es.map Event.action = as := by
  obtain ⟨⟨es, m'⟩, hplay⟩ := Option.isSome_iff_exists.mp h
  exact ⟨es, m', run_of_play? hplay, map_action_play? hplay⟩

end Manager

end SyncFleet
