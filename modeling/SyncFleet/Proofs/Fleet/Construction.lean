/-
  SyncFleet/Proofs/Fleet/Construction.lean
  ========================================
  **Which lists of descriptors make a fleet, and what is wrong with the others.**

  The enabled descriptors of a list are read in order up to the first fault, and
  if there is none their names are compared.  `FirstFault` has a rule for each
  of the two ways to fail; the main statement is `Fleet.built_from_wellFormed`.
  Neither the disabled descriptors nor what the store holds have a part in it.
-/
import SyncFleet.Proofs.Descriptor.WellFormed
import SyncFleet.Proofs.Fleet.Checkpoint
import SyncFleet.Proofs.Result

namespace SyncFleet

open Calendar Storage

/-! ### The first name that repeats an earlier one -/

theorem firstRepeated?_eq_some_iff {seen names : List String} {n : String} :
    firstRepeated? seen names = some n ↔
      ∃ pre post, names = pre ++ n :: post ∧ pre.Nodup ∧ (∀ m ∈ pre, m ∉ seen) ∧
        (n ∈ pre ∨ n ∈ seen) := by
  induction names generalizing seen with
  | nil => simp [firstRepeated?]
  | cons name rest ih =>
    unfold firstRepeated?
    by_cases hseen : name ∈ seen
    · rw [if_pos (List.contains_iff_mem.mpr hseen)]
      constructor
      · rintro ⟨⟩
        exact ⟨[], rest, rfl, List.nodup_nil, fun _ h => absurd h List.not_mem_nil, Or.inr hseen⟩
      · rintro ⟨pre, post, hnames, hnodup, hfresh, hn⟩
        cases pre with
        | nil => exact congrArg some (List.cons.inj hnames).1
        | cons m pre =>
          obtain ⟨rfl, _⟩ := List.cons.inj hnames
          exact absurd hseen (hfresh _ List.mem_cons_self)
    · rw [if_neg fun h => hseen (List.contains_iff_mem.mp h), ih]
      constructor
      · rintro ⟨pre, post, rfl, hnodup, hfresh, hn⟩
        refine ⟨name :: pre, post, rfl, List.nodup_cons.mpr ⟨fun hmem =>
          hfresh name hmem List.mem_cons_self, hnodup⟩, List.forall_mem_cons.mpr ⟨hseen,
            fun m hm hin => hfresh m hm (List.mem_cons_of_mem _ hin)⟩, ?_⟩
        rcases hn with hn | hn
        · exact Or.inl (List.mem_cons_of_mem _ hn)
        · rcases List.mem_cons.mp hn with rfl | hn
          · exact Or.inl List.mem_cons_self
          · exact Or.inr hn
      · rintro ⟨pre, post, hnames, hnodup, hfresh, hn⟩
        cases pre with
        | nil =>
          obtain ⟨rfl, _⟩ := List.cons.inj hnames
          exact absurd (hn.resolve_left List.not_mem_nil) hseen
        | cons m pre =>
          obtain ⟨rfl, rfl⟩ := List.cons.inj hnames
          obtain ⟨hm, hnodup⟩ := List.nodup_cons.mp hnodup
          obtain ⟨_, hfresh⟩ := List.forall_mem_cons.mp hfresh
          refine ⟨pre, post, rfl, hnodup, fun x hx hin => ?_, ?_⟩
          · rcases List.mem_cons.mp hin with rfl | hin
            · exact hm hx
            · exact hfresh x hx hin
          · rcases hn with hn | hn
            · rcases List.mem_cons.mp hn with rfl | hn
              · exact Or.inr List.mem_cons_self
              · exact Or.inl hn
            · exact Or.inr (List.mem_cons_of_mem _ hn)

/-! ### The enabled descriptors -/

namespace Descriptor

variable {ds : List Descriptor}

/-- The descriptors of a list that are not disabled: `disabled` is absent or not true. -/
def enabled (ds : List Descriptor) : List Descriptor :=
  ds.filter fun d => d.get? Key.disabled ≠ some (.bool true)

/-- Whether no two descriptors of a list have one name. -/
def DifferentNames (ds : List Descriptor) : Prop :=
  ds.Pairwise fun d d' => ∀ job, d.Named job → ¬ d'.Named job

theorem isDisabled_iff (d : Descriptor) :
    d.isDisabled = true ↔ d.get? Key.disabled = some (.bool true) := by
  unfold isDisabled bool?
  split
  · rename_i b hb
    simp [hb]
  · rename_i hno
    exact ⟨nofun, fun h => absurd h (hno true)⟩

theorem filter_isDisabled (ds : List Descriptor) :
    (ds.filter fun d => !d.isDisabled) = enabled ds := by
  refine List.filter_congr fun d _ => ?_
  rw [Bool.eq_iff_iff, Bool.not_eq_true', decide_eq_true_iff, ← Bool.not_eq_true, ne_eq,
    isDisabled_iff]

theorem named_label {d : Descriptor} (h : d.WellFormed) : d.Named d.label := by
  obtain ⟨job, hjob⟩ := h.named
  exact hjob.name_eq.2 ▸ hjob

theorem differentNames_iff (h : ∀ d ∈ ds, d.WellFormed) :
    DifferentNames ds ↔ (ds.map label).Nodup := by
  rw [List.Nodup, List.pairwise_map]
  refine List.Pairwise.iff_of_mem fun {d d'} hd hd' => ?_
  constructor
  · intro hdiff heq
    exact hdiff _ (named_label (h d hd)) (heq ▸ named_label (h d' hd'))
  · intro hne job hjob hjob'
    exact hne (hjob.name_eq.2.trans hjob'.name_eq.2.symm)

end Descriptor

/-! ### Jobs of descriptors -/

section Jobs

open Descriptor

variable {ds : List Descriptor} {specs : List JobSpec}

/-- Reading the enabled descriptors, before names are compared. -/
def readEnabled (ds : List Descriptor) : Except FleetError (List JobSpec) :=
  (enabled ds).mapM fun d => (JobSpec.ofDescriptor d).mapError .descriptor

theorem jobsOfDescriptors_eq (ds : List Descriptor) :
    jobsOfDescriptors ds = readEnabled ds >>= distinctJobs := by
  rw [jobsOfDescriptors, filter_isDisabled]
  rfl

theorem exists_readEnabled_iff :
    (∃ specs, readEnabled ds = .ok specs) ↔ ∀ d ∈ enabled ds, d.WellFormed := by
  rw [readEnabled, exists_mapM_eq_ok_iff]
  simp only [mapError_eq_ok_iff, JobSpec.wellFormed_iff]

/-- The jobs that are read are those that the enabled descriptors describe. -/
theorem describes_of_readEnabled (h : readEnabled ds = .ok specs) :
    List.Forall₂ Descriptor.Describes (enabled ds) specs :=
  (mapM_eq_ok_iff.mp h).imp fun _ _ hread =>
    JobSpec.describes_of_ok (mapError_eq_ok_iff.mp hread)

theorem map_name_of_describes {ds : List Descriptor}
    (h : List.Forall₂ Descriptor.Describes ds specs) :
    specs.map JobSpec.name = ds.map label := by
  induction h with
  | nil => rfl
  | cons hs _ ih => rw [List.map_cons, List.map_cons, ih, hs.name.name_eq.2]

/-- The names of the jobs that are read are different if those of the descriptors are. -/
theorem nodup_of_readEnabled (h : readEnabled ds = .ok specs) :
    (specs.map JobSpec.name).Nodup ↔ DifferentNames (enabled ds) := by
  rw [map_name_of_describes (describes_of_readEnabled h),
    differentNames_iff (exists_readEnabled_iff.mp ⟨specs, h⟩)]

/-- What is wrong with a list of enabled descriptors: the fault of the first one that has one, or
    if none has, the first name that repeats an earlier one. -/
inductive FirstFault (ds : List Descriptor) : FleetError → Prop where
  | descriptor {pre post : List Descriptor} {d : Descriptor} {fault : DescriptorError} :
      ds = pre ++ d :: post → (∀ e ∈ pre, e.WellFormed) → d.Blames fault →
      FirstFault ds (.descriptor fault)
  | duplicate {pre post : List Descriptor} {d : Descriptor} {job : String} :
      (∀ e ∈ ds, e.WellFormed) → ds = pre ++ d :: post → DifferentNames pre →
      d.Named job → (∃ e ∈ pre, e.Named job) → FirstFault ds (.duplicateJob job)

theorem distinctJobs_eq_error_iff {e : FleetError} :
    distinctJobs specs = .error e ↔
      ∃ job, firstRepeated? [] (specs.map JobSpec.name) = some job ∧ e = .duplicateJob job := by
  unfold distinctJobs
  split
  · rename_i name hname
    simp [hname, eq_comm]
  · rename_i hnone
    simp [hnone]

/-- Names of well-formed descriptors: the first that repeats an earlier one. -/
theorem firstRepeated?_label_iff {ds : List Descriptor} {job : String}
    (h : ∀ d ∈ ds, d.WellFormed) :
    firstRepeated? [] (ds.map label) = some job ↔
      ∃ pre d post, ds = pre ++ d :: post ∧ DifferentNames pre ∧ d.Named job ∧
        ∃ e ∈ pre, e.Named job := by
  rw [firstRepeated?_eq_some_iff]
  constructor
  · rintro ⟨names, rest, heq, hnodup, _, hmem⟩
    obtain ⟨pre, tail, rfl, rfl, htail⟩ := List.map_eq_append_iff.mp heq
    obtain ⟨d, post, rfl, rfl, _⟩ := List.map_eq_cons_iff.mp htail
    have hpre : ∀ e ∈ pre, e.WellFormed := fun e he => h e (List.mem_append_left _ he)
    have hd : d.WellFormed := h d (List.mem_append_right _ List.mem_cons_self)
    obtain ⟨e, he, hlabel⟩ := List.mem_map.mp (hmem.resolve_right List.not_mem_nil)
    exact ⟨pre, d, post, rfl, (differentNames_iff hpre).mpr hnodup, named_label hd, e, he,
      hlabel ▸ named_label (hpre e he)⟩
  · rintro ⟨pre, d, post, rfl, hdiff, hjob, e, he, hjob'⟩
    have hpre : ∀ e ∈ pre, e.WellFormed := fun e he => h e (List.mem_append_left _ he)
    refine ⟨pre.map label, post.map label, ?_, (differentNames_iff hpre).mp hdiff,
      fun _ _ => List.not_mem_nil, Or.inl (List.mem_map.mpr ⟨e, he, hjob'.name_eq.2⟩)⟩
    rw [List.map_append, List.map_cons, hjob.name_eq.2]

theorem jobsOfDescriptors_eq_ok_iff :
    jobsOfDescriptors ds = .ok specs ↔ readEnabled ds = .ok specs ∧ DifferentNames (enabled ds) := by
  rw [jobsOfDescriptors_eq, bind_eq_ok]
  constructor
  · rintro ⟨specs', hread, hdistinct⟩
    obtain ⟨rfl, hnodup⟩ := distinctJobs_nodup hdistinct
    exact ⟨hread, (nodup_of_readEnabled hread).mp hnodup⟩
  · rintro ⟨hread, hdiff⟩
    exact ⟨specs, hread, distinctJobs_of_nodup ((nodup_of_readEnabled hread).mpr hdiff)⟩

theorem jobsOfDescriptors_eq_error_iff {e : FleetError} :
    jobsOfDescriptors ds = .error e ↔ FirstFault (enabled ds) e := by
  rw [jobsOfDescriptors_eq, bind_eq_error]
  constructor
  · rintro (hread | ⟨specs, hread, hdistinct⟩)
    · obtain ⟨pre, d, post, hds, hpre, hd⟩ := mapM_eq_error_iff.mp hread
      obtain ⟨fault, hfault, rfl⟩ := mapError_eq_error_iff.mp hd
      refine .descriptor hds (fun x hx => ?_) (JobSpec.ofDescriptor_eq_error_iff.mp hfault)
      obtain ⟨s, hs⟩ := hpre x hx
      exact JobSpec.wellFormed_iff.mpr ⟨s, mapError_eq_ok_iff.mp hs⟩
    · have hwell := exists_readEnabled_iff.mp ⟨specs, hread⟩
      obtain ⟨job, hrepeated, rfl⟩ := distinctJobs_eq_error_iff.mp hdistinct
      rw [map_name_of_describes (describes_of_readEnabled hread)] at hrepeated
      obtain ⟨pre, d, post, hds, hdiff, hjob, hearlier⟩ :=
        (firstRepeated?_label_iff hwell).mp hrepeated
      exact .duplicate hwell hds hdiff hjob hearlier
  · rintro (⟨hds, hpre, hfault⟩ | ⟨hwell, hds, hdiff, hjob, hearlier⟩)
    · refine Or.inl (mapM_eq_error_iff.mpr ⟨_, _, _, hds, fun x hx => ?_,
        mapError_eq_error_iff.mpr ⟨_, JobSpec.ofDescriptor_eq_error_iff.mpr hfault, rfl⟩⟩)
      obtain ⟨s, hs⟩ := JobSpec.wellFormed_iff.mp (hpre x hx)
      exact ⟨s, mapError_eq_ok_iff.mpr hs⟩
    · obtain ⟨specs, hread⟩ := exists_readEnabled_iff.mpr hwell
      refine Or.inr ⟨specs, hread, distinctJobs_eq_error_iff.mpr ⟨_, ?_, rfl⟩⟩
      rw [map_name_of_describes (describes_of_readEnabled hread)]
      exact (firstRepeated?_label_iff hwell).mpr ⟨_, _, _, hds, hdiff, hjob, hearlier⟩

end Jobs

/-! ### Fleets of descriptors -/

namespace Fleet

variable {limit : Nat} {ds : List Descriptor} {loaded : Except StoreFault Checkpoint}
  {now : Instant}

theorem ofDescriptors_eq_ok {f : Fleet} (h : ofDescriptors limit ds loaded now = .ok f) :
    ∃ specs, jobsOfDescriptors ds = .ok specs ∧
      f = restored limit specs (restorable loaded) now := by
  obtain ⟨specs, hspecs, hf⟩ := bind_eq_ok.mp h
  exact ⟨specs, hspecs, (Except.ok.inj hf).symm⟩

/-- Building a fleet succeeds and fails with its jobs, whatever is stored. -/
theorem specs_ofDescriptors (limit : Nat) (ds : List Descriptor)
    (loaded : Except StoreFault Checkpoint) (now : Instant) :
    (ofDescriptors limit ds loaded now).map Fleet.specs = jobsOfDescriptors ds := by
  unfold ofDescriptors
  cases jobsOfDescriptors ds with
  | error e => rfl
  | ok specs => exact congrArg Except.ok (restored_specs limit specs (restorable loaded) now)

theorem ofDescriptors_eq_error_iff {e : FleetError} :
    ofDescriptors limit ds loaded now = .error e ↔ jobsOfDescriptors ds = .error e := by
  rw [← specs_ofDescriptors limit ds loaded now]
  cases ofDescriptors limit ds loaded now <;> simp [Except.map]

/-- A fleet is built exactly if the enabled descriptors are well-formed and have different names.
    Its jobs are those that they describe, in order.  Otherwise the error is the fault of the first
    enabled descriptor that has one, and only if none has, the first name that repeats an earlier
    one.  Neither the disabled descriptors nor the store have an influence on any of it. -/
theorem built_from_wellFormed (limit : Nat) (ds : List Descriptor)
    (loaded : Except StoreFault Checkpoint) (now : Instant) :
    ((∃ f, ofDescriptors limit ds loaded now = .ok f) ↔
      (∀ d ∈ Descriptor.enabled ds, d.WellFormed) ∧
        Descriptor.DifferentNames (Descriptor.enabled ds)) ∧
    (∀ f, ofDescriptors limit ds loaded now = .ok f →
      List.Forall₂ Descriptor.Describes (Descriptor.enabled ds) f.specs) ∧
    (∀ e, ofDescriptors limit ds loaded now = .error e ↔ FirstFault (Descriptor.enabled ds) e) ∧
    ∀ (limit' : Nat) (ds' : List Descriptor) (loaded' : Except StoreFault Checkpoint)
      (now' : Instant), Descriptor.enabled ds' = Descriptor.enabled ds →
      (ofDescriptors limit' ds' loaded' now').map Fleet.specs =
        (ofDescriptors limit ds loaded now).map Fleet.specs := by
  have hspecs : ∀ f, ofDescriptors limit ds loaded now = .ok f →
      jobsOfDescriptors ds = .ok f.specs := fun f hf => by
    rw [← specs_ofDescriptors limit ds loaded now, hf]
    rfl
  refine ⟨⟨?_, ?_⟩, ?_, ?_, ?_⟩
  · rintro ⟨f, hf⟩
    obtain ⟨hread, hdiff⟩ := jobsOfDescriptors_eq_ok_iff.mp (hspecs f hf)
    exact ⟨exists_readEnabled_iff.mp ⟨_, hread⟩, hdiff⟩
  · rintro ⟨hwell, hdiff⟩
    obtain ⟨specs, hread⟩ := exists_readEnabled_iff.mpr hwell
    exact ⟨_, bind_eq_ok.mpr ⟨specs, jobsOfDescriptors_eq_ok_iff.mpr ⟨hread, hdiff⟩, rfl⟩⟩
  · intro f hf
    exact describes_of_readEnabled (jobsOfDescriptors_eq_ok_iff.mp (hspecs f hf)).1
  · intro e
    rw [ofDescriptors_eq_error_iff, jobsOfDescriptors_eq_error_iff]
  · intro limit' ds' loaded' now' hsame
    rw [specs_ofDescriptors, specs_ofDescriptors, jobsOfDescriptors_eq, jobsOfDescriptors_eq,
      readEnabled, readEnabled, hsame]

/-! ### Descriptors with faults -/

/-- The descriptor of a script with some number of attempts. -/
def scriptTried (name : String) (attempts : Int64) : Descriptor :=
  ⟨.ofList [(Key.name, .string name), (Key.type, .string "shell_script"),
    (Key.script, .string "sync"), (Key.retry, .int attempts)]⟩

/-- A descriptor that is disabled and has no name. -/
def nameless : Descriptor := ⟨.ofList [(Key.disabled, .bool true)]⟩

theorem scriptTried_wellFormed : (scriptTried "a" 5).WellFormed where
  named := ⟨"a", rfl⟩
  work := Or.inr ⟨rfl, "sync", rfl⟩
  retry := Or.inr ⟨5, rfl, by decide, by decide⟩
  retryInterval := Or.inl rfl

/-- A list with a second `a` after a `b` that is never tried: the error is about `b`, and without it
    about the second `a`.  A disabled descriptor without a name does no harm. -/
theorem scriptTried_built_from_wellFormed :
    let a := scriptTried "a" 5
    let b := scriptTried "b" 0
    (∃ f, ofDescriptors 5 [nameless, a] (.ok .empty) .epoch = .ok f ∧
      f.specs.map JobSpec.name = ["a"]) ∧
    ofDescriptors 5 [nameless, a, b, a] (.ok .empty) .epoch =
      .error (.descriptor (.invalidValue "b" "retry" "must be at least 1")) ∧
    ofDescriptors 5 [nameless, a, a] (.ok .empty) .epoch = .error (.duplicateJob "a") := by
  intro a b
  have ha : ∀ d ∈ [a], d.WellFormed := List.forall_mem_singleton.mpr scriptTried_wellFormed
  refine ⟨?_, ?_, ?_⟩
  · have hbuilt := built_from_wellFormed 5 [nameless, a] (.ok .empty) .epoch
    obtain ⟨f, hf⟩ := hbuilt.1.mpr ⟨ha, List.pairwise_singleton _ _⟩
    exact ⟨f, hf, map_name_of_describes (hbuilt.2.1 f hf)⟩
  · have hfault : b.Blames (.invalidValue "b" "retry" "must be at least 1") :=
      .retryLow rfl (Or.inr ⟨rfl, "sync", rfl⟩) rfl (by decide)
    have hsplit : Descriptor.enabled [nameless, a, b, a] = [a] ++ b :: [a] := rfl
    exact ((built_from_wellFormed 5 _ (.ok .empty) .epoch).2.2.1 _).mpr
      (.descriptor hsplit ha hfault)
  · have hsplit : Descriptor.enabled [nameless, a, a] = [a] ++ a :: [] := rfl
    exact ((built_from_wellFormed 5 _ (.ok .empty) .epoch).2.2.1 _).mpr
      (.duplicate (List.forall_mem_cons.mpr ⟨scriptTried_wellFormed, ha⟩) hsplit
        (List.pairwise_singleton _ _) rfl ⟨a, List.mem_singleton_self a, rfl⟩)

end Fleet

end SyncFleet
