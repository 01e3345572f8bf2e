/-
  SyncFleet/Proofs/Fleet/Checkpoint.lean
  ======================================
  **A checkpoint keeps the times of admission, and a restoration brings them back.**

  Checkpoints know jobs by name, and a fleet knows them by place.  No two jobs
  of a fleet have one name (`distinctJobs_nodup`), so that the checkpoint of a
  fleet has for each job the time at its place (`lastInvoke?_checkpoint`), and
  a fleet restored from a checkpoint has at each place the time that is kept
  for its job (`invokedAt?_restored`).

  `Manager.kept` is the checkpoint from which a manager would be built again
  once no save is under way.  No action changes it but the beginning of a save
  (`kept_act?`).
-/
import SyncFleet.Proofs.KeyMap
import SyncFleet.Proofs.Fleet.Queue
import SyncFleet.Proofs.List

namespace SyncFleet

open Calendar Control Storage

/-- When the job of a name was last admitted, as a checkpoint has it. -/
def Checkpoint.lastInvoke? (c : Checkpoint) (name : String) : Option Instant :=
  (c.jobs.get? name).map CheckpointEntry.lastInvoke

/-- What a checkpoint keeps of a job. -/
def Slot.entry (s : Slot) (now : Instant) : CheckpointEntry :=
  ⟨s.lastInvoke, some (s.job.report now).lastFinished, some (s.job.report now).result⟩

/-! ### Names -/

theorem nodup_of_firstRepeated? {seen names : List String} (h : firstRepeated? seen names = none) :
    names.Nodup ∧ ∀ n ∈ names, n ∉ seen := by
  induction names generalizing seen with
  | nil => exact ⟨List.nodup_nil, fun n hn => by cases hn⟩
  | cons name rest ih =>
    unfold firstRepeated? at h
    split at h
    · cases h
    · rename_i hfresh
      obtain ⟨hnodup, hrest⟩ := ih h
      refine ⟨List.nodup_cons.mpr ⟨fun hmem => hrest name hmem List.mem_cons_self, hnodup⟩, ?_⟩
      intro n hn hseen
      rcases List.mem_cons.mp hn with rfl | hn
      · exact hfresh (List.contains_iff_mem.mpr hseen)
      · exact hrest n hn (List.mem_cons_of_mem _ hseen)

/-- No two jobs of a fleet have one name. -/
theorem distinctJobs_nodup {specs specs' : List JobSpec} (h : distinctJobs specs = .ok specs') :
    specs' = specs ∧ (specs.map JobSpec.name).Nodup := by
  unfold distinctJobs at h
  split at h
  · cases h
  · rename_i hnone
    cases h
    exact ⟨rfl, (nodup_of_firstRepeated? hnone).1⟩

theorem firstRepeated?_of_nodup {seen names : List String} (hnodup : names.Nodup)
    (hfresh : ∀ n ∈ names, n ∉ seen) : firstRepeated? seen names = none := by
  induction names generalizing seen with
  | nil => rfl
  | cons name rest ih =>
    obtain ⟨hname, hrest⟩ := List.nodup_cons.mp hnodup
    unfold firstRepeated?
    rw [if_neg fun hseen => hfresh name List.mem_cons_self (List.contains_iff_mem.mp hseen)]
    refine ih hrest fun n hn hseen => ?_
    rcases List.mem_cons.mp hseen with rfl | hseen
    · exact hname hn
    · exact hfresh n (List.mem_cons_of_mem _ hn) hseen

/-- Jobs of different names make a fleet. -/
theorem distinctJobs_of_nodup {specs : List JobSpec} (h : (specs.map JobSpec.name).Nodup) :
    distinctJobs specs = .ok specs := by
  unfold distinctJobs
  rw [firstRepeated?_of_nodup h fun n _ => List.not_mem_nil]

namespace Fleet

variable {a : Action} {f f' : Fleet} {now : Instant} {i : Nat}

/-! ### Times of admission, by place -/

/-- When the job at a place was last admitted. -/
def invokedAt? (f : Fleet) (i : Nat) : Option Instant := (f.slots[i]?).map Slot.lastInvoke

theorem Moved.invokedAt? (h : Moved a f f') (i : Nat) : f'.invokedAt? i = f.invokedAt? i := by
  rcases h.slot i with hsame | ⟨s, j', b, hs, _, _, hs'⟩
  · rw [Fleet.invokedAt?, hsame, Fleet.invokedAt?]
  · rw [Fleet.invokedAt?, hs', Fleet.invokedAt?, hs]
    rfl

/-- A tick notes its own time for the jobs that it admits. -/
@[simp] theorem invokedAt?_tick (f : Fleet) (now : Instant) (i : Nat) :
    (f.tick now).1.invokedAt? i =
      (f.invokedAt? i).map fun t => if i ∈ (f.tick now).2.admitted then now else t := by
  rw [invokedAt?, getElem?_tick_slots, invokedAt?, Option.map_map, Option.map_map]
  congr 1
  funext s
  simp only [Function.comp_apply]
  split <;> rfl

theorem invokedAt?_of_spec {spec : JobSpec} (hspec : f.specs[i]? = some spec) :
    ∃ t, f.invokedAt? i = some t := by
  obtain ⟨s, hs, _⟩ := slot_of_spec hspec
  exact ⟨s.lastInvoke, by rw [invokedAt?, hs, Option.map_some]⟩

/-- Who joins the queue is idle, run here, not in it yet, and was admitted longer ago than its
    interval. -/
theorem mem_joining_iff {spec : JobSpec} (hspec : f.specs[i]? = some spec) :
    i ∈ f.joining now ↔ f.isBusyAt i = false ∧ spec.external = false ∧ i ∉ f.pending ∧
      ∃ t, f.invokedAt? i = some t ∧ now.exceeds t spec.interval = true := by
  obtain ⟨s, hs, rfl⟩ := slot_of_spec hspec
  rw [mem_joining, isBusyAt_of_slot hs, invokedAt?, hs, Bool.not_eq_false']
  constructor
  · rintro ⟨s₁, hs₁, hjoins, hwaits⟩
    cases hs₁
    obtain ⟨hidle, hext, hdue⟩ := joins_iff.mp hjoins
    exact ⟨hidle, hext, hwaits, s.lastInvoke, rfl, hdue⟩
  · rintro ⟨hidle, hext, hwaits, t, ht, hdue⟩
    cases ht
    exact ⟨s, rfl, joins_iff.mpr ⟨hidle, hext, hdue⟩, hwaits⟩

theorem exceeds_of_joining {spec : JobSpec} (hspec : f.specs[i]? = some spec)
    (hi : i ∈ f.joining now) :
    ∃ t, f.invokedAt? i = some t ∧ now.exceeds t spec.interval = true :=
  ((mem_joining_iff hspec).mp hi).2.2.2

/-! ### Times of admission, by name -/

/-- The time of a job by name is the time at its place. -/
theorem lastInvoke?_of_spec {spec : JobSpec} (hnodup : (f.specs.map JobSpec.name).Nodup)
    (hspec : f.specs[i]? = some spec) : f.lastInvoke? spec.name = f.invokedAt? i := by
  obtain ⟨s, hs, rfl⟩ := slot_of_spec hspec
  have hnames : (f.slots.map fun s => s.job.name).Nodup := by
    simpa [specs, List.map_map, Function.comp_def, Job.name] using hnodup
  have hfind := find?_of_nodup (fun s : Slot => s.job.name) hnames (List.mem_of_getElem? hs)
  rw [invokedAt?, hs]
  exact congrArg (Option.map Slot.lastInvoke) hfind

/-- No time is noted under a name that no job has. -/
theorem lastInvoke?_of_not_mem {name : String} (h : name ∉ f.specs.map JobSpec.name) :
    f.lastInvoke? name = none := by
  rw [lastInvoke?, Option.map_eq_none_iff, List.find?_eq_none]
  intro s hs hname
  refine h (List.mem_map.mpr ⟨s.job.spec, List.mem_map_of_mem hs, eq_of_beq hname⟩)

/-- Fleets that have their jobs in different orders have the same times by name if they have the
    same times at corresponding places. -/
theorem lastInvoke?_congr (hnodup : (f.specs.map JobSpec.name).Nodup)
    (hperm : f'.specs.Perm f.specs)
    (hsame : ∀ i k spec, f.specs[i]? = some spec → f'.specs[k]? = some spec →
      f'.invokedAt? k = f.invokedAt? i) (name : String) :
    f'.lastInvoke? name = f.lastInvoke? name := by
  have hnames := hperm.map JobSpec.name
  by_cases hname : name ∈ f.specs.map JobSpec.name
  · obtain ⟨spec, hmem, rfl⟩ := List.mem_map.mp hname
    obtain ⟨i, hi⟩ := List.mem_iff_getElem?.mp hmem
    obtain ⟨k, hk⟩ := List.mem_iff_getElem?.mp (hperm.mem_iff.mpr hmem)
    rw [lastInvoke?_of_spec hnodup hi, lastInvoke?_of_spec (hnames.nodup_iff.mpr hnodup) hk]
    exact hsame i k spec hi hk
  · rw [lastInvoke?_of_not_mem hname,
      lastInvoke?_of_not_mem fun hmem => hname (hnames.mem_iff.mp hmem)]

/-! ### Saving and restoring -/

theorem checkpoint_eq (f : Fleet) (now : Instant) :
    f.checkpoint now = ⟨.ofList (f.slots.map fun s => (s.job.name, s.entry now))⟩ := rfl

/-- The checkpoint of a fleet has for each job the time at its place. -/
theorem lastInvoke?_checkpoint {spec : JobSpec} (hnodup : (f.specs.map JobSpec.name).Nodup)
    (hspec : f.specs[i]? = some spec) (now : Instant) :
    (f.checkpoint now).lastInvoke? spec.name = f.invokedAt? i := by
  obtain ⟨s, hs, rfl⟩ := slot_of_spec hspec
  have hkeys : ((f.slots.map fun s => (s.job.name, s.entry now)).map Prod.fst).Nodup := by
    simpa [specs, List.map_map, Function.comp_def, Job.name] using hnodup
  have hmem : (s.job.name, s.entry now) ∈ f.slots.map fun s => (s.job.name, s.entry now) :=
    List.mem_map.mpr ⟨s, List.mem_of_getElem? hs, rfl⟩
  have hget : (f.checkpoint now).jobs.get? s.job.name = some (s.entry now) := by
    rw [checkpoint_eq]
    exact KeyMap.get?_ofList hkeys hmem
  rw [invokedAt?, hs]
  exact congrArg (Option.map CheckpointEntry.lastInvoke) hget

/-- The checkpoint of a fleet has under each name what the fleet has, and nothing else. -/
theorem lastInvoke?_checkpoint_name (hnodup : (f.specs.map JobSpec.name).Nodup) (now : Instant)
    (name : String) : (f.checkpoint now).lastInvoke? name = f.lastInvoke? name := by
  by_cases hname : name ∈ f.specs.map JobSpec.name
  · obtain ⟨spec, hspec, rfl⟩ := List.mem_map.mp hname
    obtain ⟨i, hi⟩ := List.mem_iff_getElem?.mp hspec
    rw [lastInvoke?_checkpoint hnodup hi, lastInvoke?_of_spec hnodup hi]
  · have hkeys : name ∉ (f.slots.map fun s => (s.job.name, s.entry now)).map Prod.fst := by
      simpa [specs, List.map_map, Function.comp_def, Job.name] using hname
    have hget : (f.checkpoint now).jobs.get? name = none := by
      rw [checkpoint_eq]
      exact KeyMap.get?_foldl_insert hkeys .empty
    rw [Checkpoint.lastInvoke?, hget, lastInvoke?_of_not_mem hname, Option.map_none]

theorem names_eq (f : Fleet) : f.names = f.specs.map JobSpec.name := by
  simp [names, specs, List.map_map, Function.comp_def, Job.name]

/-- The checkpoint of a fleet has one entry for each job. -/
theorem keys_checkpoint_perm (hnodup : (f.specs.map JobSpec.name).Nodup) (now : Instant) :
    (f.checkpoint now).jobs.keys.Perm f.names := by
  have hkeys : (f.slots.map fun s => (s.job.name, s.entry now)).map Prod.fst = f.names := by
    rw [List.map_map]
    rfl
  rw [checkpoint_eq, ← hkeys]
  exact KeyMap.keys_ofList_perm (hkeys ▸ names_eq f ▸ hnodup)

/-- A restored fleet has at each place the time that is kept for its job. -/
theorem invokedAt?_restored {limit : Nat} {specs : List JobSpec} {c : Checkpoint} {spec : JobSpec}
    {t : Instant} (hspec : specs[i]? = some spec) (hkept : c.lastInvoke? spec.name = some t) :
    (restored limit specs c now).invokedAt? i = some t := by
  obtain ⟨e, he, rfl⟩ := Option.map_eq_some_iff.mp hkept
  simp only [invokedAt?, restored, List.getElem?_map, hspec, Option.map_some, Slot.restored,
    Slot.ofJob, Job.name, Job.new, he]

end Fleet

/-! ### What a restart would find -/

namespace Manager

open Fleet

variable {m m' : Manager} {a : Action} {t : Option Tick}

/-- The checkpoint that is being saved, or else the one that the store has. -/
def kept (m : Manager) : Checkpoint :=
  match m.loop with
  | .saving c => c
  | _ => restorable m.store.load

theorem ne_unstarted_of_waiting (h : m.loop = .waiting) : m.loop ≠ .unstarted := by
  rw [h]
  exact LoopPhase.noConfusion

theorem kept_of_waiting (h : m.loop = .waiting) : m.kept = restorable m.store.load := by
  rw [kept, h]

theorem kept_of_ended (h : m.loop = .ended) : m.kept = restorable m.store.load := by
  rw [kept, h]

theorem kept_of_saving {c : Checkpoint} (h : m.loop = .saving c) : m.kept = c := by
  rw [kept, h]

/-- An action begins a save, of the checkpoint of the fleet that it leaves behind; or it ends one;
    or it does neither, and then it changes no time of admission. -/
theorem act?_saves (h : m.act? a = some (m', t)) :
    (∃ now, m'.loop = .saving (m'.fleet.checkpoint now) ∧ m'.store = m.store ∧
      ((a = .start now ∧ m.loop = .unstarted ∧ t = none ∧ m' = m.start now) ∨
        (a = .tick now ∧ m.loop = .waiting ∧ t = some (m.fleet.tick now).2 ∧
          (m.fleet.tick now).2.changed = true ∧ m'.fleet = (m.fleet.tick now).1))) ∨
    (∃ succeeds c, a = .endSave succeeds ∧ t = none ∧ m.loop = .saving c ∧
      m' = { m with loop := .waiting, store := if succeeds then m.store.save c else m.store }) ∨
    ((∀ now, a ≠ .start now) ∧ (∀ succeeds, a ≠ .endSave succeeds) ∧
      (∀ u ∈ t, u.changed = false) ∧ m'.store = m.store ∧
      (m'.loop = m.loop ∨ (m.loop = .waiting ∧ m'.loop = .ended)) ∧
      ∀ i, m'.fleet.invokedAt? i = m.fleet.invokedAt? i) := by
  cases a with
  | start now =>
    simp only [act?] at h
    split at h
    · rename_i hloop
      cases h
      exact Or.inl ⟨now, rfl, rfl, Or.inl ⟨rfl, hloop, rfl, rfl⟩⟩
    · cases h
  | endSave succeeds =>
    obtain ⟨m₁, hsave, heq⟩ := Option.map_eq_some_iff.mp h
    cases heq
    unfold finishSave? at hsave
    split at hsave
    · rename_i c hloop
      cases hsave
      exact Or.inr (Or.inl ⟨succeeds, c, rfl, rfl, hloop, rfl⟩)
    · cases hsave
  | tick now =>
    obtain ⟨hloop, ⟨_, rfl, hfleet, hstore, _, hloop'⟩ | ⟨_, rfl, rfl⟩⟩ := tick?_cases h
    · split at hloop'
      · rename_i hchanged
        rw [← hfleet] at hloop'
        exact Or.inl ⟨now, hloop', hstore, Or.inr ⟨rfl, hloop, rfl, hchanged, hfleet⟩⟩
      · rename_i hsame
        rw [Bool.not_eq_true] at hsame
        refine Or.inr (Or.inr ⟨by simp, by simp, by simpa using hsame, hstore,
          Or.inl (hloop'.trans hloop.symm), fun i => ?_⟩)
        rw [hfleet, tick_of_unchanged hsame]
    · exact Or.inr (Or.inr ⟨by simp, by simp, by simp, rfl, Or.inl rfl, fun _ => rfl⟩)
  | serve =>
    obtain ⟨⟨m₁, c⟩, hserve, heq⟩ := Option.map_eq_some_iff.mp h
    cases heq
    obtain ⟨hfleet, hstore, hloop, hloop'⟩ := serve?_fleet hserve
    refine Or.inr (Or.inr ⟨by simp, by simp, by simp, hstore, ?_, fun i => by rw [hfleet]⟩)
    exact hloop'.imp (fun hwaits => hwaits.trans hloop.symm) (fun hends => ⟨hloop, hends⟩)
  | abandon =>
    obtain ⟨m₁, habandon, heq⟩ := Option.map_eq_some_iff.mp h
    cases heq
    unfold abandon? at habandon
    split at habandon
    · rename_i hloop
      cases habandon
      exact Or.inr (Or.inr ⟨by simp, by simp, by simp, rfl, Or.inr ⟨hloop, rfl⟩, fun _ => rfl⟩)
    · cases habandon
  | call c =>
    cases h
    exact Or.inr (Or.inr ⟨by simp, by simp, by simp, rfl, Or.inl rfl, fun _ => rfl⟩)
  | post k =>
    obtain ⟨desk, _, heq⟩ := Option.map_eq_some_iff.mp h
    cases heq
    exact Or.inr (Or.inr ⟨by simp, by simp, by simp, rfl, Or.inl rfl, fun _ => rfl⟩)
  | job i b =>
    obtain ⟨fleet, hact, heq⟩ := Option.map_eq_some_iff.mp h
    cases heq
    exact Or.inr (Or.inr ⟨by simp, by simp, by simp, rfl, Or.inl rfl,
      fun k => (moved_of_actAt? hact).invokedAt? k⟩)

/-- An action begins to save the checkpoint of the fleet that it leaves behind, or it changes
    neither what is kept nor any time of admission.  A save under way must not fail. -/
theorem kept_act? (h : m.act? a = some (m', t)) (ha : a ≠ .endSave false) :
    (∃ now, m'.kept = m'.fleet.checkpoint now) ∨
      (m'.kept = m.kept ∧ (m.loop = .unstarted → m'.loop = .unstarted) ∧
        ∀ i, m'.fleet.invokedAt? i = m.fleet.invokedAt? i) := by
  rcases act?_saves h with ⟨now, hloop, _⟩ | ⟨succeeds, c, rfl, _, hloop, rfl⟩ |
    ⟨_, _, _, hstore, hloop, hinvoked⟩
  · exact Or.inl ⟨now, kept_of_saving hloop⟩
  · cases succeeds with
    | false => exact absurd rfl ha
    | true =>
      refine Or.inr ⟨?_, fun hnew => ?_, fun _ => rfl⟩
      · rw [kept_of_saving hloop]
        rfl
      · rw [hloop] at hnew
        cases hnew
  · rcases hloop with hsame | ⟨hwaits, hends⟩
    · exact Or.inr ⟨by rw [kept, kept, hsame, hstore], hsame.trans, hinvoked⟩
    · refine Or.inr ⟨?_, fun hnew => absurd hnew (ne_unstarted_of_waiting hwaits), hinvoked⟩
      rw [kept_of_ended hends, kept_of_waiting hwaits, hstore]

end Manager

end SyncFleet
