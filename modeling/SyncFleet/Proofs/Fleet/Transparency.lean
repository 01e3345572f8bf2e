/-
  SyncFleet/Proofs/Fleet/Transparency.lean
  ========================================
  **Disabled descriptors and jobs looked after elsewhere leave the schedule alone.**

  Descriptors of either kind may be put between others anywhere.  The disabled
  ones describe no job at all, well-formed or not; the others describe jobs
  that are looked after elsewhere, which take places among the jobs and shift
  those behind them.  `Interspersed` follows such descriptors into the list of
  jobs and yields the embedding of places (`Interspersed.places`).

  What happens to a manager of the longer list is what happens to one of the
  shorter list, with starts and triggers of the further jobs in between
  (`Interleaved`).  By the embedding the two agree after each action, and so
  they do in whole runs.
-/
import SyncFleet.Proofs.Fleet.Construction
import SyncFleet.Proofs.Fleet.Embedding

namespace SyncFleet

open Calendar Control Storage

/-! ### Lists with further elements -/

/-- A list, and the same list with further elements in between, which have a property. -/
inductive Interspersed {α : Type} (p : α → Prop) : List α → List α → Prop where
  | nil : Interspersed p [] []
  | keep (a : α) {l l' : List α} : Interspersed p l l' → Interspersed p (a :: l) (a :: l')
  | insert {a : α} {l l' : List α} : p a → Interspersed p l l' → Interspersed p l (a :: l')

/-- The embedding of places behind a first one that is kept. -/
def behindKept (ρ : Nat ↪o Nat) : Nat ↪o Nat :=
  OrderEmbedding.ofStrictMono (fun | 0 => 0 | i + 1 => ρ i + 1) <| by
    refine strictMono_nat_of_lt_succ fun i => ?_
    cases i with
    | zero => exact Nat.succ_pos _
    | succ i => exact Nat.succ_lt_succ (ρ.strictMono (Nat.lt_succ_self i))

/-- The embedding of places behind a first one that is left over. -/
def behindFurther (ρ : Nat ↪o Nat) : Nat ↪o Nat :=
  OrderEmbedding.ofStrictMono (fun i => ρ i + 1) fun _ _ hlt => Nat.succ_lt_succ (ρ.strictMono hlt)

namespace Interspersed

variable {α β ε : Type} {p : α → Prop} {q : β → Prop} {l l' : List α}

/-- The elements of a list have places of their own among the further ones. -/
theorem places (h : Interspersed p l l') :
    ∃ ρ : Nat ↪o Nat, (∀ i : Nat, l'[ρ i]? = l[i]?) ∧
      ∀ k : Nat, k ∉ Set.range ρ → ∃ a, l'[k]? = some a ∧ p a := by
  induction h with
  | nil => exact ⟨RelEmbedding.refl _, fun _ => rfl, fun k hk => absurd ⟨k, rfl⟩ hk⟩
  | keep a _ ih =>
    obtain ⟨ρ, hplace, hother⟩ := ih
    refine ⟨behindKept ρ, fun i => ?_, fun k hk => ?_⟩
    · cases i with
      | zero => rfl
      | succ i => exact hplace i
    · cases k with
      | zero => exact absurd ⟨0, rfl⟩ hk
      | succ k => exact hother k fun ⟨i, hi⟩ => hk ⟨i + 1, congrArg Nat.succ hi⟩
  | insert hp _ ih =>
    obtain ⟨ρ, hplace, hother⟩ := ih
    refine ⟨behindFurther ρ, hplace, fun k hk => ?_⟩
    cases k with
    | zero => exact ⟨_, rfl, hp⟩
    | succ k => exact hother k fun ⟨i, hi⟩ => hk ⟨i, congrArg Nat.succ hi⟩

theorem filter (keep : α → Bool) (h : Interspersed p l l') :
    Interspersed (fun a => p a ∧ keep a = true) (l.filter keep) (l'.filter keep) := by
  induction h with
  | nil => exact .nil
  | keep a _ ih =>
    cases ha : keep a with
    | true =>
      rw [List.filter_cons_of_pos ha, List.filter_cons_of_pos ha]
      exact .keep a ih
    | false =>
      rw [List.filter_cons_of_neg (Bool.eq_false_iff.mp ha),
        List.filter_cons_of_neg (Bool.eq_false_iff.mp ha)]
      exact ih
  | @insert a _ _ hp _ ih =>
    cases ha : keep a with
    | true =>
      rw [List.filter_cons_of_pos ha]
      exact .insert ⟨hp, ha⟩ ih
    | false =>
      rw [List.filter_cons_of_neg (Bool.eq_false_iff.mp ha)]
      exact ih

/-- What the elements of a list yield stands among what the further ones yield. -/
theorem mapM {g : α → Except ε β} (h : Interspersed p l l')
    (hg : ∀ a b, p a → g a = .ok b → q b) {bs bs' : List β} (hl : l.mapM g = .ok bs)
    (hl' : l'.mapM g = .ok bs') : Interspersed q bs bs' := by
  induction h generalizing bs bs' with
  | nil =>
    cases hl
    cases hl'
    exact .nil
  | keep a _ ih =>
    obtain ⟨b, rest, hb, hrest, rfl⟩ := mapM_cons_eq_ok.mp hl
    obtain ⟨b', rest', hb', hrest', rfl⟩ := mapM_cons_eq_ok.mp hl'
    cases hb.symm.trans hb'
    exact .keep b (ih hrest hrest')
  | insert hp _ ih =>
    obtain ⟨b', rest', hb', hrest', rfl⟩ := mapM_cons_eq_ok.mp hl'
    exact .insert (hg _ _ hp hb') (ih hl hrest')

end Interspersed

/-! ### Descriptors -/

/-- A descriptor that is disabled, or that describes a job looked after elsewhere. -/
def Descriptor.Unscheduled (d : Descriptor) : Prop :=
  d.isDisabled = true ∨ d.work = .ok .external

theorem JobSpec.external_of_work {d : Descriptor} {spec : JobSpec}
    (h : JobSpec.ofDescriptor d = .ok spec) (hwork : d.work = .ok .external) :
    spec.external = true := by
  rw [JobSpec.ofDescriptor, bind_eq_ok] at h
  obtain ⟨work, hwork', h⟩ := h
  obtain ⟨spec₀, _, h⟩ := bind_eq_ok.mp h
  cases hwork.symm.trans hwork'
  cases h
  rfl

/-- Descriptors that are not scheduled describe jobs that are looked after elsewhere, if any. -/
theorem Interspersed.jobs {ds ds' : List Descriptor} {specs specs' : List JobSpec}
    (h : Interspersed Descriptor.Unscheduled ds ds') (hds : jobsOfDescriptors ds = .ok specs)
    (hds' : jobsOfDescriptors ds' = .ok specs') :
    Interspersed (fun spec => spec.external = true) specs specs' := by
  obtain ⟨specs₁, hmap, hdistinct⟩ := bind_eq_ok.mp hds
  obtain ⟨specs₁', hmap', hdistinct'⟩ := bind_eq_ok.mp hds'
  obtain ⟨rfl, _⟩ := distinctJobs_nodup hdistinct
  obtain ⟨rfl, _⟩ := distinctJobs_nodup hdistinct'
  refine (h.filter fun d => !d.isDisabled).mapM (fun d spec hd hspec => ?_) hmap hmap'
  -- the disabled ones have been filtered out
  have hwork : d.work = .ok .external :=
    hd.1.resolve_left fun hdisabled => by simp [hdisabled] at hd
  cases hjob : JobSpec.ofDescriptor d with
  | error fault =>
    rw [hjob] at hspec
    cases hspec
  | ok spec₁ =>
    rw [hjob] at hspec
    cases hspec
    exact JobSpec.external_of_work hjob hwork

namespace Fleet

theorem inert_restored {spec : JobSpec} (hext : spec.external = true) (c : Checkpoint)
    (now : Instant) : (Slot.restored c now spec).job.Inert := by
  obtain ⟨finished, result, heq⟩ := exists_ofJob_job c now (.new spec now)
  rw [Slot.restored, heq]
  exact ⟨hext, rfl⟩

/-- A new fleet of some jobs is inside that of the same and further jobs. -/
theorem embedded_restored {specs specs' : List JobSpec} {ρ : Nat ↪o Nat}
    (hplace : ∀ i : Nat, specs'[ρ i]? = specs[i]?)
    (hother : ∀ k : Nat, k ∉ Set.range ρ → ∃ spec, specs'[k]? = some spec ∧ spec.external = true)
    (limit : Nat) (c : Checkpoint) (now : Instant) :
    Embedded ρ (restored limit specs c now) (restored limit specs' c now) where
  limit := rfl
  pending := rfl
  slot i := by
    simp only [restored, List.getElem?_map, hplace]
  other k hk := by
    obtain ⟨spec, hspec, hext⟩ := hother k hk
    refine ⟨Slot.restored c now spec, ?_, inert_restored hext c now⟩
    simp only [restored, List.getElem?_map, hspec, Option.map_some]

theorem Embedded.nameAt {ρ : Nat ↪o Nat} {f f' : Fleet} (h : Embedded ρ f f') (i : Nat) :
    f'.nameAt (ρ i) = f.nameAt i := by
  rw [Fleet.nameAt, Fleet.nameAt, h.job?]

end Fleet

/-! ### Runs -/

/-- What a tick reports: who joined the queue and who was admitted, by name. -/
structure TickOutcome where
  queued : List String
  admitted : List String
deriving DecidableEq

/-- What the event reports, if it is a tick that was not idle. -/
def Event.outcome? (e : Event) : Option TickOutcome :=
  e.tick.map fun _ => ⟨e.queuedNames, e.admittedNames⟩

def tickOutcomes (es : List Event) : List TickOutcome := es.filterMap Event.outcome?

@[simp] theorem tickOutcomes_cons (e : Event) (es : List Event) :
    tickOutcomes (e :: es) = e.outcome?.toList ++ tickOutcomes es := by
  rw [tickOutcomes, List.filterMap_cons]
  cases e.outcome? <;> rfl

/-- The actions of a manager, and those of one with further jobs: the same at the places of the
    shared jobs, and in between any starts and triggers of the others. -/
inductive Interleaved (ρ : Nat ↪o Nat) : List Action → List Action → Prop where
  | nil : Interleaved ρ [] []
  | shared (a : Action) {as as' : List Action} :
      Interleaved ρ as as' → Interleaved ρ (a :: as) (a.renamed ρ :: as')
  | other {k : Nat} {b : JobAction} {as as' : List Action} :
      k ∉ Set.range ρ → b = .spawn ∨ b = .trigger → Interleaved ρ as as' →
        Interleaved ρ as (.job k b :: as')

theorem Action.renamed_or_other (ρ : Nat ↪o Nat) (a' : Action) :
    (∃ a : Action, a' = a.renamed ρ) ∨ ∃ k b, a' = .job k b ∧ k ∉ Set.range ρ := by
  cases a' with
  | job k b =>
    by_cases hk : k ∈ Set.range ρ
    · obtain ⟨i, rfl⟩ := hk
      exact Or.inl ⟨.job i b, rfl⟩
    · exact Or.inr ⟨k, b, rfl, hk⟩
  | start now => exact Or.inl ⟨.start now, rfl⟩
  | endSave succeeds => exact Or.inl ⟨.endSave succeeds, rfl⟩
  | tick now => exact Or.inl ⟨.tick now, rfl⟩
  | serve => exact Or.inl ⟨.serve, rfl⟩
  | abandon => exact Or.inl ⟨.abandon, rfl⟩
  | call c => exact Or.inl ⟨.call c, rfl⟩
  | post k => exact Or.inl ⟨.post k, rfl⟩

namespace Manager

variable {ρ : Nat ↪o Nat} {m m' : Manager} {as as' : List Action} {es es' : List Event}

/-- Two histories with the managers after them. -/
def SameOutcomes (ρ : Nat ↪o Nat) (r r' : List Event × Manager) : Prop :=
  tickOutcomes r'.1 = tickOutcomes r.1 ∧ Embedded ρ r.2 r'.2

theorem Embedded.outcome? (h : Embedded ρ m m') (a : Action) (t : Option Tick) :
    Event.outcome? ⟨a.renamed ρ, m'.fleet, t.map (Tick.renamed ρ)⟩ =
      Event.outcome? ⟨a, m.fleet, t⟩ := by
  cases t with
  | none => rfl
  | some t =>
    simp [Event.outcome?, Event.queuedNames, Event.admittedNames, Event.queued, Event.admitted,
      Tick.renamed, Function.comp_def, h.fleet.nameAt]

/-- Actions that belong together can be taken in both managers or in neither. -/
theorem Embedded.play? (h : Embedded ρ m m') (has : Interleaved ρ as as') :
    Option.Rel (SameOutcomes ρ) (m.play? as) (m'.play? as') := by
  induction has generalizing m m' with
  | nil => exact .some ⟨rfl, h⟩
  | shared a _ ih =>
    unfold Manager.play?
    have hagree := h.act? a
    generalize m.act? a = r, m'.act? (a.renamed ρ) = r' at hagree
    cases hagree with
    | none => exact .none
    | @some r r' hagree =>
      obtain ⟨m₁, t⟩ := r
      obtain ⟨m₁', t'⟩ := r'
      obtain ⟨hembedded, rfl⟩ := hagree
      refine rel_map (ih hembedded) fun _ _ hsame => ⟨?_, hsame.2⟩
      rw [tickOutcomes_cons, tickOutcomes_cons, h.outcome? a t, hsame.1]
  | @other k b as as' hk hb _ ih =>
    -- the inner manager has no part in this action, and the outer one is as it was
    have hact : m'.act? (.job k b) = some (m', none) := (h.act?_other hk).mpr ⟨hb, rfl⟩
    have hrest := ih h
    have hplay : m'.play? (.job k b :: as') =
        (m'.play? as').map fun r => (⟨.job k b, m'.fleet, none⟩ :: r.1, r.2) := by
      rw [Manager.play?]
      simp only [hact]
    rw [hplay]
    generalize m.play? as = r, m'.play? as' = r' at hrest
    cases hrest with
    | none => exact .none
    | some hsame => exact .some hsame

theorem isSome_play?_cons {a : Action} :
    (m.play? (a :: as)).isSome ↔ ∃ m₁ t, m.act? a = some (m₁, t) ∧ (m₁.play? as).isSome := by
  rw [Manager.play?]
  cases m.act? a with
  | none => simp
  | some r =>
    obtain ⟨m₁, t⟩ := r
    simp

/-- What happens to the outer manager is what happens to the inner one, and starts and triggers of
    further jobs. -/
theorem Embedded.interleaved (h : Embedded ρ m m') (hplay : (m'.play? as').isSome) :
    ∃ as, Interleaved ρ as as' := by
  induction as' generalizing m m' with
  | nil => exact ⟨[], .nil⟩
  | cons a' as' ih =>
    obtain ⟨m₁', t', hact, hrest⟩ := isSome_play?_cons.mp hplay
    rcases Action.renamed_or_other ρ a' with ⟨a, rfl⟩ | ⟨k, b, rfl, hk⟩
    · have hagree := h.act? a
      rw [hact] at hagree
      generalize m.act? a = r at hagree
      cases hagree with
      | some hagree =>
        obtain ⟨as, has⟩ := ih hagree.1 hrest
        exact ⟨a :: as, .shared a has⟩
    · obtain ⟨hb, heq⟩ := (h.act?_other hk).mp hact
      cases heq
      obtain ⟨as, has⟩ := ih h hrest
      exact ⟨as, .other hk hb has⟩

section NewManager

variable {ds ds' : List Descriptor} {limit : Nat} {loaded : Except StoreFault Checkpoint}
  {now : Instant} {f f' : Fleet}

/-- **Disabled descriptors and jobs looked after elsewhere are transparent to the schedule.**  Put
    between other descriptors, they move the shared jobs to other places, and the jobs at all other
    places are looked after elsewhere.  Whatever happens to the two managers, if it is the same but
    for starts and triggers of those jobs, then the ticks queue and admit the same jobs by name, and
    each shared job has the same status and time of admission; so it is after each action, since
    the beginning of a run is a run.  Whatever can happen to the one manager can happen to the
    other. -/
theorem Run.schedule_transparent (store : MemoryStore)
    (hds : Interspersed Descriptor.Unscheduled ds ds')
    (hf : Fleet.ofDescriptors limit ds loaded now = .ok f)
    (hf' : Fleet.ofDescriptors limit ds' loaded now = .ok f') :
    ∃ ρ : Nat ↪o Nat, (∀ i : Nat, f'.specs[ρ i]? = f.specs[i]?) ∧
      (∀ k : Nat, k ∉ Set.range ρ → ∃ spec, f'.specs[k]? = some spec ∧ spec.external = true) ∧
      (∀ es m es' m', (ofFleet f store).Run es m → (ofFleet f' store).Run es' m' →
        Interleaved ρ (es.map Event.action) (es'.map Event.action) →
        tickOutcomes es' = tickOutcomes es ∧
          ∀ i : Nat, m'.fleet.slots[ρ i]? = m.fleet.slots[i]?) ∧
      (∀ es m as', (ofFleet f store).Run es m → Interleaved ρ (es.map Event.action) as' →
        ∃ es' m', (ofFleet f' store).Run es' m' ∧ es'.map Event.action = as') ∧
      ∀ es' m', (ofFleet f' store).Run es' m' →
        ∃ es m, (ofFleet f store).Run es m ∧
          Interleaved ρ (es.map Event.action) (es'.map Event.action) := by
  obtain ⟨specs, hspecs, rfl⟩ := Fleet.ofDescriptors_eq_ok hf
  obtain ⟨specs', hspecs', rfl⟩ := Fleet.ofDescriptors_eq_ok hf'
  obtain ⟨ρ, hplace, hother⟩ := (hds.jobs hspecs hspecs').places
  have hembedded : Embedded ρ (ofFleet (.restored limit specs (restorable loaded) now) store)
      (ofFleet (.restored limit specs' (restorable loaded) now) store) :=
    ⟨Fleet.embedded_restored hplace hother limit _ now, rfl, .unstarted⟩
  simp only [Fleet.restored_specs]
  refine ⟨ρ, hplace, hother, fun es m es' m' hrun hrun' hsame => ?_, fun es m as' hrun hsame => ?_,
    fun es' m' hrun' => ?_⟩
  · have hrel := hembedded.play? hsame
    rw [play?_of_run hrun, play?_of_run hrun'] at hrel
    obtain ⟨houtcomes, hend⟩ := Option.rel_some_some.mp hrel
    exact ⟨houtcomes, hend.fleet.slot⟩
  · have hplays := isSome_eq_of_rel (hembedded.play? hsame)
    rw [play?_of_run hrun] at hplays
    exact exists_run_of_play? hplays.symm
  · have hplay := play?_of_run hrun'
    obtain ⟨as, has⟩ := hembedded.interleaved (by rw [hplay]; rfl)
    have hplays := isSome_eq_of_rel (hembedded.play? has)
    rw [hplay] at hplays
    obtain ⟨es, m, hrun, hactions⟩ := exists_run_of_play? hplays
    exact ⟨es, m, hrun, hactions.symm ▸ has⟩

end NewManager

/-! ### Two jobs among others -/

def described (name kind : String) (disabled : Bool) : Descriptor :=
  ⟨(((KeyMap.empty.insert Key.name (.string name)).insert Key.type (.string kind)).insert
    Key.script (.string "sync")).insert Key.disabled (.bool disabled)⟩

def describedJob (name kind : String) (external : Bool) : JobSpec :=
  ⟨name, described name kind false, external, .fixed 3 3000⟩

def scripts : List Descriptor :=
  [described "a" "shell_script" false, described "b" "shell_script" false]

/-- The same scripts among jobs that are looked after elsewhere, a disabled one of the same name,
    and a disabled descriptor of no job at all. -/
def scriptsAmongOthers : List Descriptor :=
  [⟨KeyMap.empty.insert Key.disabled (.bool true)⟩, described "x" "external" false,
    described "a" "shell_script" false, described "b" "shell_script" true,
    described "y" "external" false, described "b" "shell_script" false]

/-- A new manager of some jobs, one of which may be busy at a time. -/
def oneAtATime (specs : List JobSpec) : Manager :=
  ofFleet (.restored 1 specs .empty .epoch) (.holding none)

def scriptJobs : List JobSpec :=
  [describedJob "a" "shell_script" false, describedJob "b" "shell_script" false]

def jobsAmongOthers : List JobSpec :=
  [describedJob "x" "external" true, describedJob "a" "shell_script" false,
    describedJob "y" "external" true, describedJob "b" "shell_script" false]

/-- The second script waits while the first one runs.  Meanwhile the jobs between them are
    triggered. -/
def actionsAmongOthers : List Action :=
  let second (n : Nat) : Instant := .addMillis .epoch (1000 * n)
  [.start .epoch, .endSave true, .job 0 .trigger, .tick (second 1), .endSave true, .job 2 .trigger,
    .job 1 .receive, .job 1 (.finishAttempt (.ok .none)), .job 1 (.record (second 2)),
    .job 0 .spawn, .job 1 .publish, .tick (second 3)]

/-- The scripts by themselves have a run in which the ticks do the same. -/
theorem scripts_schedule_transparent :
    let r := ((oneAtATime jobsAmongOthers).play? actionsAmongOthers).get rfl
    ∃ es m, (oneAtATime scriptJobs).Run es m ∧
      tickOutcomes r.1 = [⟨["a", "b"], ["a"]⟩, ⟨[], ["b"]⟩] ∧
      tickOutcomes es = tickOutcomes r.1 := by
  intro r
  have hrun' : (oneAtATime jobsAmongOthers).Run r.1 r.2 := run_played rfl
  have hds : Interspersed Descriptor.Unscheduled scripts scriptsAmongOthers :=
    .insert (Or.inl rfl) (.insert (Or.inr rfl) (.keep _ (.insert (Or.inl rfl)
      (.insert (Or.inr rfl) (.keep _ .nil)))))
  have hf : Fleet.ofDescriptors 1 scripts (.ok .empty) .epoch =
      .ok (oneAtATime scriptJobs).fleet := rfl
  have hf' : Fleet.ofDescriptors 1 scriptsAmongOthers (.ok .empty) .epoch =
      .ok (oneAtATime jobsAmongOthers).fleet := rfl
  obtain ⟨ρ, _, _, hsame, _, hinner⟩ := Run.schedule_transparent (.holding none) hds hf hf'
  obtain ⟨es, m, hrun, hactions⟩ := hinner r.1 r.2 hrun'
  exact ⟨es, m, hrun, by decide, (hsame es m r.1 r.2 hrun hrun' hactions).1.symm⟩

end Manager

end SyncFleet
