/-
  SyncFleet/Proofs/Fleet/Lives.lean
  =================================
  **Lives: a manager that is built again and again from one store.**

  A life of a manager is a run from its construction.  While the decision loop
  waits, or after it has ended, the manager may be dropped and built again from
  the same store for the same jobs, possibly under another limit; nothing but
  the store passes from one life to the next.  `Manager.Lives` is any number of
  lives, each a run of any length, in which every save succeeds.

  What happened is one list over all lives; `tickTimes` and `admissionsAt` are
  the times at which ticks came and at which a job was admitted.
-/
import SyncFleet.Proofs.Fleet.Checkpoint

namespace SyncFleet

open Calendar Storage

/-! ### Times in a history -/

/-- The time of an event, if it is a tick. -/
def Event.time? (e : Event) : Option Instant :=
  match e.action with
  | .tick now => some now
  | _ => none

/-- When the event admits the job at a place, if it does. -/
def Event.admissionAt? (i : Nat) (e : Event) : Option Instant :=
  if i ∈ e.admitted then e.time? else none

/-- The times at which ticks came, those during a stop included. -/
def tickTimes (es : List Event) : List Instant := es.filterMap Event.time?

/-- The times at which the job at a place was admitted. -/
def admissionsAt (i : Nat) (es : List Event) : List Instant := es.filterMap (Event.admissionAt? i)

theorem tickTimes_append (es fs : List Event) :
    tickTimes (es ++ fs) = tickTimes es ++ tickTimes fs := List.filterMap_append

theorem admissionsAt_append (i : Nat) (es fs : List Event) :
    admissionsAt i (es ++ fs) = admissionsAt i es ++ admissionsAt i fs := List.filterMap_append

/-- Jobs are admitted by ticks. -/
theorem mem_tickTimes_of_admission {i : Nat} {es : List Event} {t : Instant}
    (h : t ∈ admissionsAt i es) : t ∈ tickTimes es := by
  obtain ⟨e, he, heq⟩ := List.mem_filterMap.mp h
  unfold Event.admissionAt? at heq
  split at heq
  · exact List.mem_filterMap.mpr ⟨e, he, heq⟩
  · cases heq

namespace Manager

open Fleet

/-! ### Lives -/

/-- A new manager for some jobs, restored from what a store holds. -/
def opened (limit : Nat) (specs : List JobSpec) (store : MemoryStore) (now : Instant) : Manager :=
  ofFleet (.restored limit specs (restorable store.load) now) store

/-- The lives of a manager that is built for some jobs from a store, and built again any number of
    times: what happened so far, and the present manager. -/
inductive Lives (specs : List JobSpec) (store : MemoryStore) : List Event → Manager → Prop where
  | first (limit : Nat) (now : Instant) : Lives specs store [] (opened limit specs store now)
  | act {es : List Event} {m m' : Manager} {a : Action} {t : Option Tick} :
      Lives specs store es m → m.act? a = some (m', t) → a ≠ .endSave false →
        Lives specs store (es ++ [⟨a, m.fleet, t⟩]) m'
  | again {es : List Event} {m : Manager} (limit : Nat) (now : Instant) :
      Lives specs store es m → m.loop = .waiting ∨ m.loop = .ended →
        Lives specs store es (opened limit specs m.store now)

variable {specs : List JobSpec} {store : MemoryStore} {es : List Event} {m : Manager}

/-- The present life is a run of a new manager. -/
theorem Lives.run (h : Lives specs store es m) :
    ∃ limit store' now es', (opened limit specs store' now).Run es' m := by
  induction h with
  | first limit now => exact ⟨limit, store, now, [], .nil⟩
  | act _ hact _ ih =>
    obtain ⟨limit, store', now, es', hrun⟩ := ih
    exact ⟨limit, store', now, _, hrun.snoc hact⟩
  | again limit now _ _ _ => exact ⟨limit, _, now, [], .nil⟩

theorem Lives.fleet_specs (h : Lives specs store es m) : m.fleet.specs = specs := by
  obtain ⟨limit, store', now, es', hrun⟩ := h.run
  rw [hrun.specs.1]
  exact restored_specs limit specs _ now

/-- Actions that are played go on with the present life. -/
theorem Lives.play? {as : List Action} {fs : List Event} {m' : Manager}
    (h : Lives specs store es m) (hplay : m.play? as = some (fs, m'))
    (hsaves : Action.endSave false ∉ as) : Lives specs store (es ++ fs) m' := by
  have hactions := map_action_play? hplay
  have hrun := run_of_play? hplay
  clear hplay
  induction hrun generalizing as with
  | nil =>
    rw [List.append_nil]
    exact h
  | @snoc fs m₁ m' a t _ hact ih =>
    subst hactions
    rw [List.map_append, List.mem_append, not_or] at hsaves
    rw [← List.append_assoc]
    refine (ih hsaves.1 rfl).act hact fun ha => hsaves.2 ?_
    rw [ha]
    exact List.mem_singleton.mpr rfl

theorem Lives.played (h : Lives specs store es m) (as : List Action)
    (hplay : (m.play? as).isSome) (hsaves : Action.endSave false ∉ as) :
    Lives specs store (es ++ ((m.play? as).get hplay).1) ((m.play? as).get hplay).2 :=
  h.play? (Option.some_get hplay).symm hsaves

end Manager

end SyncFleet
