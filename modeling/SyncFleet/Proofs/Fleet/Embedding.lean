/-
  SyncFleet/Proofs/Fleet/Embedding.lean
  =====================================
  **One fleet inside another, whose further jobs are looked after elsewhere.**

  `Fleet.Embedded` relates two fleets by an embedding of the places of the one
  into those of the other.  Jobs at places that belong together are the same,
  the places that wait belong together one by one, and all places that are left
  over hold jobs to which nothing ever happens.

  The order of places is all that a tick uses of them.  So the two fleets do
  the same by a tick, each at its own places (`Embedded.tick`), and managers
  around them do the same by every action (`Manager.Embedded.act?`).
-/
import Mathlib.Data.List.Sort
import Mathlib.Order.Hom.Basic
import SyncFleet.Proofs.Fleet.Run

namespace SyncFleet

open Calendar Control

/-! ### Jobs to which nothing happens -/

/-- A job that is looked after elsewhere, and whose loop nobody has started. -/
structure Job.Inert (j : Job) : Prop where
  external : j.spec.external = true
  dormant : j.phase = .dormant

namespace Job.Inert

variable {j j' : Job} {a : JobAction}

theorem spawn (h : j.Inert) : j.spawn.1 = j := by
  rw [Job.spawn, if_pos h.external]

/-- Such a job can be spawned and triggered, and nothing else. -/
theorem act?_eq_some_iff (h : j.Inert) :
    j.act? a = some j' ↔ (a = .spawn ∨ a = .trigger) ∧ j' = j := by
  have hphase := h.dormant
  cases a with
  | spawn => simp [act?, h.spawn, eq_comm]
  | trigger => simp [act?, trigger_of_external h.external, eq_comm]
  | receive => simp [act?, receive?, hphase]
  | finishAttempt r => simp [act?, finishAttempt?, hphase]
  | resume => simp [act?, resume?, hphase]
  | record now => simp [act?, record?, hphase]
  | publish => simp [act?, publish?, hphase]

end Job.Inert

/-! ### Renaming -/

/-- What a tick did, at other places. -/
def Tick.renamed (ρ : Nat → Nat) (t : Tick) : Tick :=
  { t with queued := t.queued.map ρ, admitted := t.admitted.map ρ }

/-- An action of a job, at another place. -/
def Action.renamed (ρ : Nat → Nat) : Action → Action
  | .job i b => .job (ρ i) b
  | a => a

theorem Tick.changed_renamed (ρ : Nat → Nat) (t : Tick) : (t.renamed ρ).changed = t.changed := by
  simp [Tick.changed, Tick.renamed]

/-! ### Fleets -/

namespace Fleet

variable {ρ : Nat ↪o Nat} {f f' : Fleet} {i k : Nat} {b : JobAction}

/-- The one fleet inside the other. -/
structure Embedded (ρ : Nat ↪o Nat) (f f' : Fleet) : Prop where
  limit : f'.limit = f.limit
  pending : f'.pending = f.pending.map ρ
  slot : ∀ i : Nat, f'.slots[ρ i]? = f.slots[i]?
  /-- a place of the other fleet alone -/
  other : ∀ k : Nat, k ∉ Set.range ρ → ∃ s, f'.slots[k]? = some s ∧ s.job.Inert

namespace Embedded

theorem joining (h : Embedded ρ f f') (now : Instant) :
    f'.joining now = (f.joining now).map ρ := by
  -- both lists ascend, so that it is enough to compare their members
  have hsorted : ((f.joining now).map ρ).Pairwise (· < ·) :=
    (joining_sorted f now).map ρ fun _ _ hlt => ρ.strictMono hlt
  refine (joining_sorted f' now).eq_of_mem_iff hsorted fun k => ?_
  by_cases hk : k ∈ Set.range ρ
  · obtain ⟨i, rfl⟩ := hk
    rw [List.mem_map_of_injective ρ.injective, mem_joining, mem_joining, h.slot, h.pending,
      List.mem_map_of_injective ρ.injective]
  · constructor
    · intro hjoins
      obtain ⟨s, hs, hinert⟩ := h.other k hk
      obtain ⟨s₁, hs₁, hjoins, _⟩ := mem_joining.mp hjoins
      cases hs.symm.trans hs₁
      simp [Slot.joins, hinert.external] at hjoins
    · intro hmem
      obtain ⟨i, _, rfl⟩ := List.mem_map.mp hmem
      exact absurd ⟨i, rfl⟩ hk

/-- Only jobs of the inner fleet are ever busy. -/
theorem busyPlaces (h : Embedded ρ f f') :
    f'.busyPlaces = f.busyPlaces.map ρ.toEmbedding := by
  ext k
  rw [Finset.mem_map, mem_busyPlaces]
  constructor
  · intro hbusy
    by_cases hk : k ∈ Set.range ρ
    · obtain ⟨i, rfl⟩ := hk
      refine ⟨i, ?_, rfl⟩
      rw [mem_busyPlaces, ← hbusy, isBusyAt, isBusyAt, job?, job?, h.slot]
    · -- a job that is looked after elsewhere reports to be idle
      obtain ⟨s, hs, hinert⟩ := h.other k hk
      rw [isBusyAt_of_slot hs, Job.isIdle, hinert.external] at hbusy
      cases hbusy
  · rintro ⟨i, hi, rfl⟩
    rw [← mem_busyPlaces.mp hi, isBusyAt, isBusyAt, job?, job?]
    exact congrArg (fun s => (Option.map Slot.job s).any fun j => !j.isIdle) (h.slot i)

theorem budget (h : Embedded ρ f f') : f'.budget = f.budget := by
  rw [Fleet.budget, Fleet.budget, h.limit, busyCount_eq_card, busyCount_eq_card, h.busyPlaces,
    Finset.card_map]

theorem tick_admitted (h : Embedded ρ f f') (now : Instant) :
    (f'.tick now).2.admitted = (f.tick now).2.admitted.map ρ := by
  rw [Fleet.tick_admitted, Fleet.tick_admitted, h.joining, h.pending, h.budget, List.map_take,
    List.map_append]

theorem tick_pending (h : Embedded ρ f f') (now : Instant) :
    (f'.tick now).1.pending = (f.tick now).1.pending.map ρ := by
  rw [Fleet.tick_pending, Fleet.tick_pending, h.joining, h.pending, h.budget, List.map_drop,
    List.map_append]

theorem tick (h : Embedded ρ f f') (now : Instant) :
    Embedded ρ (f.tick now).1 (f'.tick now).1 where
  limit := h.limit
  pending := h.tick_pending now
  slot i := by
    rw [getElem?_tick_slots, getElem?_tick_slots, h.slot, h.tick_admitted]
    simp only [List.mem_map_of_injective ρ.injective]
  other k hk := by
    obtain ⟨s, hs, hinert⟩ := h.other k hk
    have hnot : k ∉ (f'.tick now).2.admitted := by
      rw [h.tick_admitted]
      intro hmem
      obtain ⟨i, _, rfl⟩ := List.mem_map.mp hmem
      exact hk ⟨i, rfl⟩
    exact ⟨s, by rw [getElem?_tick_slots, hs, Option.map_some, if_neg hnot], hinert⟩

/-- A tick finds and does the same in both fleets. -/
theorem tick_snd (h : Embedded ρ f f') (now : Instant) :
    (f'.tick now).2 = (f.tick now).2.renamed ρ := by
  have hrunning : (f'.tick now).2.running = (f.tick now).2.running := by
    show f'.busyCount = f.busyCount
    rw [busyCount_eq_card, busyCount_eq_card, h.busyPlaces, Finset.card_map]
  have hwaiting : (f'.tick now).2.waiting = (f.tick now).2.waiting := by
    show (f'.tick now).1.pending.length = (f.tick now).1.pending.length
    rw [h.tick_pending, List.length_map]
  calc
    (f'.tick now).2 = ⟨(f'.tick now).2.running, f'.joining now, (f'.tick now).2.admitted,
        (f'.tick now).2.waiting⟩ := rfl
    _ = (f.tick now).2.renamed ρ := by
      rw [hrunning, h.joining, h.tick_admitted, hwaiting]
      rfl

theorem job? (h : Embedded ρ f f') (i : Nat) : f'.job? (ρ i) = f.job? i := by
  rw [Fleet.job?, Fleet.job?, h.slot]

theorem update (h : Embedded ρ f f') (i : Nat) (step : Job → Job) :
    Embedded ρ (f.update i step) (f'.update (ρ i) step) where
  limit := h.limit
  pending := h.pending
  slot k := by
    rw [getElem?_update_slots, getElem?_update_slots, h.slot]
    simp only [ρ.injective.eq_iff]
  other k hk := by
    obtain ⟨s, hs, hinert⟩ := h.other k hk
    have hne : ρ i ≠ k := fun heq => hk ⟨i, heq⟩
    exact ⟨s, by rw [getElem?_update_slots, hs, Option.map_some, if_neg hne], hinert⟩

theorem actAt? (h : Embedded ρ f f') (i : Nat) (b : JobAction) :
    Option.Rel (Embedded ρ) (f.actAt? i b) (f'.actAt? (ρ i) b) := by
  rw [Fleet.actAt?, Fleet.actAt?, h.job?]
  cases (f.job? i).bind fun j => j.act? b with
  | none => exact .none
  | some j => exact .some (h.update i fun _ => j)

/-- An action of a job of the other fleet alone changes nothing. -/
theorem actAt?_other (h : Embedded ρ f f') (hk : k ∉ Set.range ρ) {f₁ : Fleet} :
    f'.actAt? k b = some f₁ ↔ (b = .spawn ∨ b = .trigger) ∧ f₁ = f' := by
  obtain ⟨s, hs, hinert⟩ := h.other k hk
  have hsame : f'.update k (fun _ => s.job) = f' := by
    have hslots : (f'.update k fun _ => s.job).slots = f'.slots := by
      apply List.ext_getElem?
      intro l
      rw [getElem?_update_slots]
      by_cases hl : k = l
      · subst hl
        rw [hs, Option.map_some, if_pos rfl]
      · simp only [if_neg hl, Option.map_id']
    calc
      f'.update k (fun _ => s.job) =
          { f' with slots := (f'.update k fun _ => s.job).slots } := rfl
      _ = f' := by rw [hslots]
  have hjob : f'.job? k = some s.job := by
    rw [Fleet.job?, hs, Option.map_some]
  rw [Fleet.actAt?, hjob, Option.bind_some, Option.map_eq_some_iff]
  constructor
  · rintro ⟨j', hact, rfl⟩
    obtain ⟨hb, rfl⟩ := hinert.act?_eq_some_iff.mp hact
    exact ⟨hb, hsame⟩
  · rintro ⟨hb, rfl⟩
    exact ⟨s.job, hinert.act?_eq_some_iff.mpr ⟨hb, rfl⟩, hsame⟩

theorem spawned (h : Embedded ρ f f') :
    Embedded ρ { f with slots := f.slots.map fun s => { s with job := s.job.spawn.1 } }
      { f' with slots := f'.slots.map fun s => { s with job := s.job.spawn.1 } } where
  limit := h.limit
  pending := h.pending
  slot i := by rw [List.getElem?_map, List.getElem?_map, h.slot]
  other k hk := by
    obtain ⟨s, hs, hinert⟩ := h.other k hk
    refine ⟨s, ?_, hinert⟩
    rw [List.getElem?_map, hs, Option.map_some, hinert.spawn]

end Embedded

end Fleet

/-! ### Managers -/

theorem rel_map {α β α' β' : Type} {R : α → β → Prop} {S : α' → β' → Prop} {g : α → α'}
    {g' : β → β'} {x : Option α} {y : Option β} (h : Option.Rel R x y)
    (hmap : ∀ a b, R a b → S (g a) (g' b)) : Option.Rel S (x.map g) (y.map g') := by
  cases h with
  | none => exact .none
  | some hab => exact .some (hmap _ _ hab)

theorem isSome_eq_of_rel {α β : Type} {R : α → β → Prop} {x : Option α} {y : Option β}
    (h : Option.Rel R x y) : x.isSome = y.isSome := by
  cases h <;> rfl

/-- The loops stand at the same point, whatever the checkpoint is that they save. -/
inductive LoopPhase.Alike : LoopPhase → LoopPhase → Prop where
  | unstarted : Alike .unstarted .unstarted
  | saving (c c' : Checkpoint) : Alike (.saving c) (.saving c')
  | waiting : Alike .waiting .waiting
  | ended : Alike .ended .ended

namespace Manager

/-- The one manager around a fleet inside that of the other. -/
structure Embedded (ρ : Nat ↪o Nat) (m m' : Manager) : Prop where
  fleet : m.fleet.Embedded ρ m'.fleet
  desk : m'.desk = m.desk
  loop : m.loop.Alike m'.loop

/-- Two managers after one action, and what it did as a tick. -/
def Agree (ρ : Nat ↪o Nat) (r r' : Manager × Option Tick) : Prop :=
  Embedded ρ r.1 r'.1 ∧ r'.2 = r.2.map (Tick.renamed ρ)

variable {ρ : Nat ↪o Nat} {m m' : Manager}

namespace Embedded

theorem start (h : Embedded ρ m m') (now : Instant) : Embedded ρ (m.start now) (m'.start now) :=
  ⟨h.fleet.spawned, h.desk, .saving _ _⟩

theorem finishSave? (h : Embedded ρ m m') (succeeds : Bool) :
    Option.Rel (Embedded ρ) (m.finishSave? succeeds) (m'.finishSave? succeeds) := by
  unfold Manager.finishSave?
  have hloop := h.loop
  generalize m.loop = loop, m'.loop = loop' at hloop
  cases hloop with
  | saving c c' => exact .some ⟨h.fleet, h.desk, .waiting⟩
  | unstarted | waiting | ended => exact .none

theorem tick? (h : Embedded ρ m m') (now : Instant) :
    Option.Rel (Agree ρ) (m.tick? now) (m'.tick? now) := by
  unfold Manager.tick?
  rw [h.desk]
  have hloop := h.loop
  generalize m.loop = loop, m'.loop = loop' at hloop
  cases hloop with
  | unstarted | saving | ended => exact .none
  | waiting =>
    cases m.desk.mode with
    | stopped => exact .some ⟨h, rfl⟩
    | running =>
      have htick := h.fleet.tick_snd now
      refine .some ⟨⟨h.fleet.tick now, rfl, ?_⟩, congrArg some htick⟩
      show LoopPhase.Alike
        (if (m.fleet.tick now).2.changed then .saving _ else .waiting)
        (if (m'.fleet.tick now).2.changed then .saving _ else .waiting)
      rw [htick, Tick.changed_renamed]
      split
      · exact .saving _ _
      · exact .waiting

theorem serve? (h : Embedded ρ m m') :
    Option.Rel (fun r r' => Embedded ρ r.1 r'.1 ∧ r'.2 = r.2) m.serve? m'.serve? := by
  unfold Manager.serve?
  rw [h.desk]
  have hloop := h.loop
  generalize m.loop = loop, m'.loop = loop' at hloop
  cases hloop with
  | unstarted | saving | ended => exact .none
  | waiting =>
    cases m.desk.serve? with
    | none => exact .none
    | some served =>
      refine .some ⟨⟨h.fleet, rfl, ?_⟩, rfl⟩
      simp only
      split
      · exact .ended
      · exact .waiting

theorem abandon? (h : Embedded ρ m m') :
    Option.Rel (Embedded ρ) m.abandon? m'.abandon? := by
  unfold Manager.abandon?
  rw [h.desk]
  have hloop := h.loop
  generalize m.loop = loop, m'.loop = loop' at hloop
  cases hloop with
  | unstarted | saving | ended => exact .none
  | waiting => exact .some ⟨h.fleet, rfl, .ended⟩

/-- **Every action does the same to both managers**, or can be taken in neither. -/
theorem act? (h : Embedded ρ m m') (a : Action) :
    Option.Rel (Agree ρ) (m.act? a) (m'.act? (a.renamed ρ)) := by
  cases a with
  | start now =>
    unfold Manager.act? Action.renamed
    have hloop := h.loop
    generalize m.loop = loop, m'.loop = loop' at hloop
    cases hloop with
    | unstarted => exact .some ⟨h.start now, rfl⟩
    | saving | waiting | ended => exact .none
  | endSave succeeds => exact rel_map (h.finishSave? succeeds) fun _ _ hm => ⟨hm, rfl⟩
  | tick now => exact h.tick? now
  | serve => exact rel_map h.serve? fun _ _ hm => ⟨hm.1, rfl⟩
  | abandon => exact rel_map h.abandon? fun _ _ hm => ⟨hm, rfl⟩
  | call c =>
    refine .some ⟨⟨h.fleet, ?_, h.loop⟩, rfl⟩
    simp only [h.desk]
  | post k =>
    show Option.Rel _ ((m.desk.post? k).map _) ((m'.desk.post? k).map _)
    rw [h.desk]
    cases m.desk.post? k with
    | none => exact .none
    | some desk => exact .some ⟨⟨h.fleet, rfl, h.loop⟩, rfl⟩
  | job i b => exact rel_map (h.fleet.actAt? i b) fun _ _ hfleet => ⟨⟨hfleet, h.desk, h.loop⟩, rfl⟩

/-- An action of a job of the other manager alone changes nothing. -/
theorem act?_other (h : Embedded ρ m m') {k : Nat} (hk : k ∉ Set.range ρ) {b : JobAction}
    {r : Manager × Option Tick} :
    m'.act? (.job k b) = some r ↔ (b = .spawn ∨ b = .trigger) ∧ r = (m', none) := by
  show (m'.fleet.actAt? k b).map _ = some r ↔ _
  rw [Option.map_eq_some_iff]
  constructor
  · rintro ⟨f, hact, rfl⟩
    obtain ⟨hb, rfl⟩ := (h.fleet.actAt?_other hk).mp hact
    exact ⟨hb, rfl⟩
  · rintro ⟨hb, rfl⟩
    exact ⟨m'.fleet, (h.fleet.actAt?_other hk).mpr ⟨hb, rfl⟩, rfl⟩

end Embedded

end Manager

end SyncFleet
