/-
  SyncFleet/Proofs/Fleet/Saves.lean
  =================================
  **What is on disk is in step with the fleet.**

  The decision loop saves after a tick if the tick queued or admitted anybody,
  and does not compare states.  `WellQueued.changed_iff` says that this is no
  worse: such a tick changes the queue or the flag of a job, and any other one
  changes nothing at all.

  A history tells which checkpoints were built to be saved and how each save
  ended.  Saves never overlap, so the ends belong to the checkpoints one by
  one, and `savedCheckpoints` are those whose save succeeded.  `SavedUp` is the
  invariant: the store holds the last of them, and one more save is under way
  or none.  Together with what is kept for a restart it gives the main
  statement, `Run.checkpoint_in_step`.
-/
import SyncFleet.Proofs.Fleet.Checkpoint

namespace SyncFleet

open Calendar Control Storage

namespace Fleet

variable {f : Fleet} {now : Instant} {i : Nat}

/-! ### Ticks that change something -/

/-- Whoever a tick admits is busy afterwards. -/
theorem WellQueued.isBusyAt_of_admitted (h : f.WellQueued) (hi : i ∈ (f.tick now).2.admitted) :
    (f.tick now).1.isBusyAt i = true := by
  rw [← mem_busyPlaces, busyPlaces_tick (h.admitted now).2, Finset.mem_union, List.mem_toFinset]
  exact Or.inr hi

/-- A tick that queues or admits anybody changes the queue or makes somebody busy: whoever waits
    on was not admitted, and whoever just joined was idle. -/
theorem WellQueued.changed_iff (h : f.WellQueued) (now : Instant) :
    (f.tick now).2.changed = false ↔ (f.tick now).1.pending = f.pending ∧
      (∀ i, (f.tick now).1.invokedAt? i = f.invokedAt? i) ∧
      ∀ i, (f.tick now).1.isBusyAt i = f.isBusyAt i := by
  constructor
  · intro hsame
    rw [tick_of_unchanged hsame]
    exact ⟨rfl, fun _ => rfl, fun _ => rfl⟩
  · rintro ⟨hpending, _, hbusy⟩
    have hadmitted : (f.tick now).2.admitted = [] := by
      refine List.eq_nil_iff_forall_not_mem.mpr fun i hi => ?_
      rcases List.mem_append.mp (List.mem_of_mem_take hi) with hold | hnew
      · exact h.not_admitted (hpending ▸ hold) hi
      · have hafter := h.isBusyAt_of_admitted hi
        rw [hbusy, isBusyAt_of_joining hnew] at hafter
        cases hafter
    have hall := tick_admitted_append_pending f now
    rw [hadmitted, List.nil_append, hpending] at hall
    exact changed_eq_false_iff.mpr ⟨List.self_eq_append_right.mp hall, hadmitted⟩

end Fleet

/-- Starting the loops of jobs changes nothing that a checkpoint keeps. -/
theorem Manager.checkpoint_start (m : Manager) (now : Instant) :
    (m.start now).fleet.checkpoint now = m.fleet.checkpoint now := by
  rw [Fleet.checkpoint_eq, Fleet.checkpoint_eq, start, List.map_map]
  refine congrArg (fun l => Checkpoint.mk (.ofList l)) (List.map_congr_left fun s _ => ?_)
  rcases Job.spawn_eq s.job with heq | ⟨_, _, heq⟩ <;> rw [Function.comp_apply, heq]
  rfl

/-! ### Saves in a history -/

namespace Event

/-- Whether the event is a tick that queued or admitted anybody. -/
def changed (e : Event) : Bool := e.tick.any Tick.changed

/-- The checkpoint that the event builds to save it, if it does: the start of a manager does, and
    every tick that changed something. -/
def built? (e : Event) : Option Checkpoint :=
  match e.action with
  | .start now => some (e.before.checkpoint now)
  | .tick now => if e.changed then some ((e.before.tick now).1.checkpoint now) else none
  | _ => none

/-- Whether the save that the event ends succeeded, if it ends one. -/
def saveEnd? (e : Event) : Option Bool :=
  match e.action with
  | .endSave succeeds => some succeeds
  | _ => none

end Event

/-- The checkpoints that were built, in order. -/
def builtCheckpoints (es : List Event) : List Checkpoint := es.filterMap Event.built?

/-- How the saves ended, in order. -/
def saveEnds (es : List Event) : List Bool := es.filterMap Event.saveEnd?

/-- The checkpoints whose save succeeded, in order. -/
def savedCheckpoints (es : List Event) : List Checkpoint :=
  (((builtCheckpoints es).zip (saveEnds es)).filter Prod.snd).map Prod.fst

/-- The number of ticks that changed something. -/
def changedTicks (es : List Event) : Nat := es.countP Event.changed

section Append

variable {es : List Event} {e : Event}

@[simp] theorem builtCheckpoints_append :
    builtCheckpoints (es ++ [e]) = builtCheckpoints es ++ e.built?.toList :=
  filterMap_append_singleton _ _ _

@[simp] theorem saveEnds_append : saveEnds (es ++ [e]) = saveEnds es ++ e.saveEnd?.toList :=
  filterMap_append_singleton _ _ _

@[simp] theorem changedTicks_append :
    changedTicks (es ++ [e]) = changedTicks es + if e.changed then 1 else 0 := by
  rw [changedTicks, List.countP_append, List.countP_singleton, changedTicks]

/-- A checkpoint whose save has not ended does not count. -/
theorem savedCheckpoints_of_built {done more : List Checkpoint}
    (hbuilt : builtCheckpoints es = done ++ more) (hdone : done.length = (saveEnds es).length) :
    savedCheckpoints es = ((done.zip (saveEnds es)).filter Prod.snd).map Prod.fst := by
  have hzip : (done ++ more).zip (saveEnds es ++ []) = done.zip (saveEnds es) ++ more.zip [] :=
    List.zip_append hdone
  rw [List.append_nil, List.zip_nil_right, List.append_nil] at hzip
  rw [savedCheckpoints, hbuilt, hzip]

/-- A save that begins adds nothing yet. -/
theorem savedCheckpoints_begun {done : List Checkpoint} (hbuilt : builtCheckpoints es = done)
    (hdone : done.length = (saveEnds es).length) (he : e.saveEnd? = none) :
    savedCheckpoints (es ++ [e]) = savedCheckpoints es := by
  have hends : saveEnds (es ++ [e]) = saveEnds es := by
    rw [saveEnds_append, he, Option.toList_none, List.append_nil]
  have hbuilt' : builtCheckpoints (es ++ [e]) = done ++ e.built?.toList := by
    rw [builtCheckpoints_append, hbuilt]
  rw [savedCheckpoints_of_built hbuilt' (hends ▸ hdone), hends, savedCheckpoints, hbuilt]

/-- A save that ends well adds its checkpoint. -/
theorem savedCheckpoints_ended {done : List Checkpoint} {c : Checkpoint} {succeeds : Bool}
    (hbuilt : builtCheckpoints es = done ++ [c]) (hdone : done.length = (saveEnds es).length)
    (hb : e.built? = none) (he : e.saveEnd? = some succeeds) :
    savedCheckpoints (es ++ [e]) = savedCheckpoints es ++ if succeeds then [c] else [] := by
  have hsaved := savedCheckpoints_of_built hbuilt hdone
  rw [savedCheckpoints, builtCheckpoints_append, saveEnds_append, hb, he, hbuilt,
    Option.toList_none, List.append_nil, Option.toList_some, List.zip_append hdone,
    List.filter_append, List.map_append, ← hsaved]
  cases succeeds <;> rfl

end Append

namespace Manager

open Fleet

variable {m₀ m m' : Manager} {es : List Event} {a : Action} {t : Option Tick}

/-! ### What an action saves -/

/-- The checkpoint that is being saved, if one is. -/
def underway (m : Manager) : List Checkpoint :=
  match m.loop with
  | .saving c => [c]
  | _ => []

theorem underway_of_saving {c : Checkpoint} (h : m.loop = .saving c) : m.underway = [c] := by
  rw [underway, h]

theorem underway_eq_nil (h : ∀ c, m.loop ≠ .saving c) : m.underway = [] := by
  unfold underway
  split
  · rename_i c hloop
    exact absurd hloop (h c)
  · rfl

/-- An action builds a checkpoint and begins to save it, or it ends the save under way, or it has
    nothing to do with saves. -/
theorem underway_act? (h : m.act? a = some (m', t)) :
    (∃ c, (Event.mk a m.fleet t).built? = some c ∧ (Event.mk a m.fleet t).saveEnd? = none ∧
      m.underway = [] ∧ m'.underway = [c] ∧ m'.store = m.store ∧ m'.loop ≠ .unstarted ∧
      (m.loop = .unstarted ↔ (Event.mk a m.fleet t).changed = false)) ∨
    (∃ succeeds c, (Event.mk a m.fleet t).built? = none ∧
      (Event.mk a m.fleet t).saveEnd? = some succeeds ∧ (Event.mk a m.fleet t).changed = false ∧
      m.underway = [c] ∧ m'.underway = [] ∧ m.loop ≠ .unstarted ∧ m'.loop ≠ .unstarted ∧
      m'.store = if succeeds then m.store.save c else m.store) ∨
    ((Event.mk a m.fleet t).built? = none ∧ (Event.mk a m.fleet t).saveEnd? = none ∧
      (Event.mk a m.fleet t).changed = false ∧ m'.underway = m.underway ∧ m'.store = m.store ∧
      (m'.loop = .unstarted ↔ m.loop = .unstarted)) := by
  rcases act?_saves h with ⟨now, hloop', hstore, hbegins⟩ | ⟨succeeds, c, rfl, rfl, hloop, rfl⟩ |
    ⟨hstart, hend, hsame, hstore, hloop, _⟩
  · refine Or.inl ⟨m'.fleet.checkpoint now, ?_⟩
    rcases hbegins with ⟨rfl, hloop, rfl, rfl⟩ | ⟨rfl, hloop, rfl, hchanged, hfleet⟩
    · exact ⟨congrArg some (m.checkpoint_start now).symm, rfl,
        underway_eq_nil (by simp [hloop]), underway_of_saving hloop', hstore, by simp [hloop'],
        by simp [hloop, Event.changed]⟩
    · exact ⟨by simp [Event.built?, Event.changed, hchanged, hfleet], rfl,
        underway_eq_nil (by simp [hloop]), underway_of_saving hloop', hstore, by simp [hloop'],
        by simp [hloop, Event.changed, hchanged]⟩
  · exact Or.inr (Or.inl ⟨succeeds, c, rfl, rfl, rfl, underway_of_saving hloop, rfl,
      by simp [hloop], by simp, rfl⟩)
  · have hchanged : (Event.mk a m.fleet t).changed = false := by
      cases t with
      | none => rfl
      | some u => exact hsame u rfl
    refine Or.inr (Or.inr ⟨?_, ?_, hchanged, ?_, hstore, ?_⟩)
    · cases a with
      | start now => exact absurd rfl (hstart now)
      | tick now => simp [Event.built?, hchanged]
      | _ => rfl
    · cases a with
      | endSave succeeds => exact absurd rfl (hend succeeds)
      | _ => rfl
    · rcases hloop with heq | ⟨hwaits, hends⟩
      · rw [underway, underway, heq]
      · rw [underway, underway, hwaits, hends]
    · rcases hloop with heq | ⟨hwaits, hends⟩
      · rw [heq]
      · simp [hwaits, hends]

/-! ### What a run has saved -/

/-- What a manager has on disk and under way agrees with what its history has built, when it began
    with a given store: all that was built has been saved, well or badly, but for the save under
    way; and something was built at the start and by every tick that changed anything. -/
structure SavedUp (store : MemoryStore) (es : List Event) (m : Manager) : Prop where
  built : ∃ done, builtCheckpoints es = done ++ m.underway ∧ done.length = (saveEnds es).length
  current : m.store.current = (savedCheckpoints es).getLast?.or store.current
  saves : m.store.saves = store.saves + (savedCheckpoints es).length
  count : (builtCheckpoints es).length =
    (if m.loop = .unstarted then 0 else 1) + changedTicks es

theorem savedUp_new (h : m.loop = .unstarted) : SavedUp m.store [] m where
  built := ⟨[], by rw [underway, h]; rfl, rfl⟩
  current := rfl
  saves := rfl
  count := by rw [if_pos h]; rfl

section Append

variable {store : MemoryStore} {e : Event} {c : Checkpoint}

/-- A checkpoint is built, and its save begins. -/
theorem SavedUp.begun (hs : SavedUp store es m) (hb : e.built? = some c) (he : e.saveEnd? = none)
    (hnone : m.underway = []) (hunder : m'.underway = [c]) (hstore : m'.store = m.store)
    (hloop' : m'.loop ≠ .unstarted) (hloop : m.loop = .unstarted ↔ e.changed = false) :
    SavedUp store (es ++ [e]) m' := by
  obtain ⟨done, hbuilt, hdone⟩ := hs.built
  rw [hnone, List.append_nil] at hbuilt
  refine ⟨⟨done, ?_, ?_⟩, ?_, ?_, ?_⟩
  · rw [builtCheckpoints_append, hbuilt, hb, hunder, Option.toList_some]
  · rw [saveEnds_append, he, Option.toList_none, List.append_nil, hdone]
  · rw [hstore, savedCheckpoints_begun hbuilt hdone he, hs.current]
  · rw [hstore, savedCheckpoints_begun hbuilt hdone he, hs.saves]
  · rw [builtCheckpoints_append, hb, changedTicks_append, if_neg hloop', Option.toList_some,
      List.length_append, List.length_singleton, hs.count]
    by_cases hnew : m.loop = .unstarted
    · rw [if_pos hnew, hloop.mp hnew, if_neg Bool.false_ne_true]
      omega
    · have hchanged : e.changed = true :=
        Bool.eq_true_of_not_eq_false fun hsame => hnew (hloop.mpr hsame)
      rw [if_neg hnew, hchanged, if_pos rfl]
      omega

/-- The save under way ends, well or badly. -/
theorem SavedUp.ended {succeeds : Bool} (hs : SavedUp store es m) (hb : e.built? = none)
    (he : e.saveEnd? = some succeeds) (hsame : e.changed = false) (hone : m.underway = [c])
    (hunder : m'.underway = []) (hloop : m.loop ≠ .unstarted) (hloop' : m'.loop ≠ .unstarted)
    (hstore : m'.store = if succeeds then m.store.save c else m.store) :
    SavedUp store (es ++ [e]) m' := by
  obtain ⟨done, hbuilt, hdone⟩ := hs.built
  rw [hone] at hbuilt
  have hsaved := savedCheckpoints_ended hbuilt hdone hb he
  refine ⟨⟨done ++ [c], ?_, ?_⟩, ?_, ?_, ?_⟩
  · rw [builtCheckpoints_append, hbuilt, hb, hunder, Option.toList_none]
  · rw [saveEnds_append, he, Option.toList_some, List.length_append, List.length_append, hdone,
      List.length_singleton, List.length_singleton]
  · rw [hsaved, hstore]
    cases succeeds with
    | false => exact (List.append_nil _).symm ▸ hs.current
    | true => simp [MemoryStore.save]
  · rw [hsaved, hstore]
    cases succeeds with
    | false => exact (List.append_nil _).symm ▸ hs.saves
    | true =>
      rw [if_pos rfl, if_pos rfl, List.length_append, ← Nat.add_assoc, ← hs.saves]
      rfl
  · rw [builtCheckpoints_append, hb, changedTicks_append, hsame, if_neg hloop', Option.toList_none,
      List.append_nil, hs.count, if_neg hloop, if_neg Bool.false_ne_true, Nat.add_zero]

/-- Nothing happens to saves. -/
theorem SavedUp.aside (hs : SavedUp store es m) (hb : e.built? = none) (he : e.saveEnd? = none)
    (hsame : e.changed = false) (hunder : m'.underway = m.underway) (hstore : m'.store = m.store)
    (hloop : m'.loop = .unstarted ↔ m.loop = .unstarted) : SavedUp store (es ++ [e]) m' := by
  obtain ⟨done, hbuilt, hdone⟩ := hs.built
  have hbuilt' : builtCheckpoints (es ++ [e]) = builtCheckpoints es := by
    rw [builtCheckpoints_append, hb, Option.toList_none, List.append_nil]
  have hends' : saveEnds (es ++ [e]) = saveEnds es := by
    rw [saveEnds_append, he, Option.toList_none, List.append_nil]
  have hsaved' : savedCheckpoints (es ++ [e]) = savedCheckpoints es := by
    rw [savedCheckpoints, hbuilt', hends', savedCheckpoints]
  refine ⟨⟨done, ?_, ?_⟩, ?_, ?_, ?_⟩
  · rw [hbuilt', hunder, hbuilt]
  · rw [hends', hdone]
  · rw [hstore, hsaved', hs.current]
  · rw [hstore, hsaved', hs.saves]
  · simp only [hbuilt', changedTicks_append, hsame, hloop, hs.count, if_neg Bool.false_ne_true,
      Nat.add_zero]

/-- Every action keeps disk and history in agreement. -/
theorem SavedUp.act? (hs : SavedUp store es m) (h : m.act? a = some (m', t)) :
    SavedUp store (es ++ [⟨a, m.fleet, t⟩]) m' := by
  rcases underway_act? h with ⟨c, hb, he, hnone, hunder, hstore, hloop', hloop⟩ |
    ⟨succeeds, c, hb, he, hsame, hone, hunder, hloop, hloop', hstore⟩ |
    ⟨hb, he, hsame, hunder, hstore, hloop⟩
  · exact hs.begun hb he hnone hunder hstore hloop' hloop
  · exact hs.ended hb he hsame hone hunder hloop hloop' hstore
  · exact hs.aside hb he hsame hunder hstore hloop

end Append

theorem Run.savedUp (hrun : m₀.Run es m) (h : m₀.loop = .unstarted) : SavedUp m₀.store es m := by
  induction hrun with
  | nil => exact savedUp_new h
  | snoc _ hact ih => exact ih.act? hact

/-- As long as no save fails, what would be restored is a checkpoint of a fleet with the present
    jobs and their times of admission. -/
theorem Run.kept_eq (hrun : m₀.Run es m) (h : m₀.loop = .unstarted)
    (hsaves : ∀ e ∈ es, e.action ≠ .endSave false) (hloop : m.loop ≠ .unstarted) :
    ∃ f now, m.kept = Fleet.checkpoint f now ∧ f.specs = m.fleet.specs ∧
      ∀ i, f.invokedAt? i = m.fleet.invokedAt? i := by
  induction hrun with
  | nil => exact absurd h hloop
  | @snoc es m m' a t hrun hact ih =>
    have ha : a ≠ .endSave false := hsaves ⟨a, m.fleet, t⟩ (by simp)
    rcases kept_act? hact ha with ⟨now, hkept⟩ | ⟨hkept, hnew, hinvoked⟩
    · exact ⟨m'.fleet, now, hkept, rfl, fun _ => rfl⟩
    · obtain ⟨f, now, hf, hspecs, hsame⟩ :=
        ih (fun e he => hsaves e (List.mem_append_left _ he)) fun hloop' => hloop (hnew hloop')
      refine ⟨f, now, hkept.trans hf, ?_, fun i => (hsame i).trans (hinvoked i).symm⟩
      rw [hspecs, hrun.specs.1, (hrun.snoc hact).specs.1]

/-- If all saves that have ended succeeded and none is under way, all that was built is saved. -/
theorem savedCheckpoints_of_succeeded
    (hlength : (builtCheckpoints es).length = (saveEnds es).length)
    (hsaves : ∀ e ∈ es, e.action ≠ .endSave false) : savedCheckpoints es = builtCheckpoints es := by
  have hall : ∀ p ∈ (builtCheckpoints es).zip (saveEnds es), p.2 = true := by
    rintro ⟨c, succeeds⟩ hp
    obtain ⟨e, he, hend⟩ := List.mem_filterMap.mp (List.of_mem_zip hp).2
    refine Bool.eq_true_of_not_eq_false fun hfails => hsaves e he ?_
    unfold Event.saveEnd? at hend
    split at hend
    · rename_i heq
      cases hend
      exact heq.trans (congrArg Action.endSave hfails)
    · cases hend
  rw [savedCheckpoints, List.filter_eq_self.mpr hall, List.map_fst_zip (Nat.le_of_eq hlength)]

/-- A loop that waits has ended every save that it has begun. -/
theorem SavedUp.length_eq {store : MemoryStore} (hs : SavedUp store es m)
    (hloop : m.loop = .waiting) : (builtCheckpoints es).length = (saveEnds es).length := by
  obtain ⟨done, hbuilt, hdone⟩ := hs.built
  rw [underway_eq_nil (by simp [hloop]), List.append_nil] at hbuilt
  rw [hbuilt, hdone]

/-- If no save failed, a loop that waits has the last checkpoint in its store. -/
theorem Run.current_of_succeeded (hrun : m₀.Run es m) (h : m₀.loop = .unstarted)
    (hloop : m.loop = .waiting) (hsaves : ∀ e ∈ es, e.action ≠ .endSave false) :
    m.store.current = some m.kept ∧ m.store.saves = m₀.store.saves + 1 + changedTicks es := by
  have hs := hrun.savedUp h
  have hsaved := savedCheckpoints_of_succeeded (hs.length_eq hloop) hsaves
  have hcount := hs.count
  rw [if_neg (ne_unstarted_of_waiting hloop)] at hcount
  constructor
  · have hne : builtCheckpoints es ≠ [] := by
      refine List.ne_nil_of_length_pos ?_
      omega
    have hcurrent := hs.current
    rw [hsaved, List.getLast?_eq_some_getLast hne, Option.some_or] at hcurrent
    rw [kept_of_waiting hloop, MemoryStore.load, hcurrent]
    rfl
  · rw [hs.saves, hsaved, hcount, Nat.add_assoc]

/-- **The checkpoint is in step with the fleet.**  A tick counts as having changed nothing exactly
    if it leaves the queue, all times of admission and all flags as they were, and then it leaves
    everything as it was.  A tick during a stop does nothing.  Whenever the decision loop of a new
    manager waits, every save has ended, there was one at the start and one after each tick that
    changed something, and the store holds the checkpoint that was saved last with success, after
    as many saves as succeeded.  If all of them did, this checkpoint has one entry for each job and
    no other, with the job's time of admission.  The end of a save touches no job, and a save that
    fails does not touch the store either. -/
theorem Run.checkpoint_in_step {limit : Nat} {specs : List JobSpec} {c : Checkpoint} {now : Instant}
    {store : MemoryStore} (hrun : (ofFleet (.restored limit specs c now) store).Run es m)
    (hspecs : distinctJobs specs = .ok specs) :
    (∀ time, ((m.fleet.tick time).2.changed = false ↔
        (m.fleet.tick time).1.pending = m.fleet.pending ∧
        (∀ i, (m.fleet.tick time).1.invokedAt? i = m.fleet.invokedAt? i) ∧
        ∀ i, (m.fleet.tick time).1.isBusyAt i = m.fleet.isBusyAt i) ∧
      ((m.fleet.tick time).2.changed = false → (m.fleet.tick time).1 = m.fleet)) ∧
    (∀ time m', m.act? (.tick time) = some (m', none) → m' = m) ∧
    (m.loop = .waiting →
      (saveEnds es).length = 1 + changedTicks es ∧
      (builtCheckpoints es).length = 1 + changedTicks es ∧
      m.store = ⟨(savedCheckpoints es).getLast?.or store.current,
        store.saves + (savedCheckpoints es).length⟩ ∧
      ((∀ e ∈ es, e.action ≠ .endSave false) → ∃ kept, m.store.current = some kept ∧
        kept.jobs.keys.Perm m.fleet.names ∧
        (∀ name, kept.lastInvoke? name = m.fleet.lastInvoke? name) ∧
        m.store.saves = store.saves + 1 + changedTicks es)) ∧
    ∀ succeeds m' u, m.act? (.endSave succeeds) = some (m', u) →
      m'.fleet = m.fleet ∧ (succeeds = false → m'.store = m.store) := by
  have hq := hrun.wellQueued (wellQueued_restored limit specs c now)
  refine ⟨fun time => ⟨hq.changed_iff time, tick_of_unchanged⟩, fun time m' hact => ?_,
    fun hloop => ?_, fun succeeds m' u hact => ?_⟩
  · obtain ⟨_, ⟨_, hsome, _⟩ | ⟨_, _, hsame⟩⟩ := tick?_cases hact
    · cases hsome
    · exact hsame
  · have hs := hrun.savedUp rfl
    have hcount := hs.count
    rw [if_neg (ne_unstarted_of_waiting hloop)] at hcount
    refine ⟨(hs.length_eq hloop).symm.trans hcount, hcount, ?_, fun hsaves => ?_⟩
    · exact congrArg₂ MemoryStore.mk hs.current hs.saves
    · obtain ⟨hcurrent, hsaved⟩ := hrun.current_of_succeeded rfl hloop hsaves
      obtain ⟨f, built, hkept, hsame, hinvoked⟩ :=
        hrun.kept_eq rfl hsaves (ne_unstarted_of_waiting hloop)
      have hnodup : (m.fleet.specs.map JobSpec.name).Nodup := by
        rw [hrun.specs.1, fleet_ofFleet, restored_specs]
        exact (distinctJobs_nodup hspecs).2
      have hnodup' : (f.specs.map JobSpec.name).Nodup := hsame ▸ hnodup
      refine ⟨m.kept, hcurrent, ?_, fun name => ?_, hsaved⟩
      · rw [hkept, names_eq, ← hsame, ← names_eq]
        exact keys_checkpoint_perm hnodup' built
      · rw [hkept, lastInvoke?_checkpoint_name hnodup']
        refine lastInvoke?_congr hnodup (hsame ▸ .refl _) (fun i k spec hi hk => ?_) name
        rw [hinvoked, ← lastInvoke?_of_spec hnodup hi, lastInvoke?_of_spec hnodup (hsame ▸ hk)]
  · rcases act?_saves hact with ⟨_, _, _, ⟨ha, _⟩ | ⟨ha, _⟩⟩ | ⟨succeeds', saved, ha, _, _, rfl⟩ |
      ⟨_, hend, _⟩
    · cases ha
    · cases ha
    · cases ha
      exact ⟨rfl, fun hfails => by rw [hfails, if_neg Bool.false_ne_true]⟩
    · exact absurd rfl (hend succeeds)

/-- Two ticks of the quartet change something, so that it saves three times. -/
theorem quartet_checkpoint_in_step :
    let r := (quartet.play? (quartetActions ++ [.endSave true])).get rfl
    quartet.Run r.1 r.2 ∧ r.2.loop = .waiting ∧ changedTicks r.1 = 2 ∧
      ∃ kept, r.2.store.current = some kept ∧ kept.jobs.keys.Perm ["a", "b", "c", "d"] ∧
        kept.lastInvoke? "c" = r.2.fleet.lastInvoke? "c" ∧ r.2.store.saves = 3 := by
  intro r
  have hrun : quartet.Run r.1 r.2 := run_played rfl
  have hactions : r.1.map Event.action = quartetActions ++ [.endSave true] := rfl
  have hsaves : ∀ e ∈ r.1, e.action ≠ .endSave false := by
    intro e he ha
    have hmem : Action.endSave false ∈ quartetActions ++ [.endSave true] :=
      hactions ▸ ha ▸ List.mem_map_of_mem he
    simp [quartetActions] at hmem
  obtain ⟨_, _, hwaits, _⟩ := hrun.checkpoint_in_step rfl
  obtain ⟨_, _, _, hsucceeded⟩ := hwaits rfl
  obtain ⟨kept, hcurrent, hkeys, hinvoked, hcount⟩ := hsucceeded hsaves
  exact ⟨hrun, rfl, by decide, kept, hcurrent, hkeys, hinvoked "c", hcount⟩

end Manager

end SyncFleet
