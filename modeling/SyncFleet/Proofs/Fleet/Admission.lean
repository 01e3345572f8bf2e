/-
  SyncFleet/Proofs/Fleet/Admission.lean
  =====================================
  **Which jobs are busy when they are admitted.**

  A tick looks at the flag of a job when the job joins the queue, and not
  again when it is admitted, possibly many ticks later.  In between the job
  can be triggered by hand, or take a ticket that an earlier trigger has left
  in its inbox.  `Roused` says of a history that this happened and that the
  execution has not been recorded since.

  The flag of a waiting job follows its history (`Run.isBusyAt_of_roused`,
  `Run.roused_of_isBusyAt`): a move that rouses the job sets it, only a record
  clears it, and a tick does nothing to a job that it leaves waiting.  So a
  tick admits a busy job exactly when the job was roused
  (`Run.admitted_busy_iff`).
-/
import SyncFleet.Proofs.Fleet.Concurrency

namespace SyncFleet

open Calendar Control

/-! ### Roused jobs -/

/-- Whether the place of a job waits while somebody triggers the job, or while the job takes a
    ticket. -/
def Event.Rouses (e : Event) (i : Nat) : Prop :=
  i ∈ e.before.pending ∧ (e.action = .job i .trigger ∨ e.action = .job i .receive)

/-- Whether something roused the job at a place and no execution of it was recorded since. -/
def Roused (i : Nat) (es : List Event) : Prop :=
  ∃ pre e post, es = pre ++ e :: post ∧ e.Rouses i ∧
    ∀ e' ∈ post, ∀ now, e'.action ≠ .job i (.record now)

theorem roused_append {i : Nat} {es : List Event} {e : Event} :
    Roused i (es ++ [e]) ↔
      e.Rouses i ∨ (Roused i es ∧ ∀ now, e.action ≠ .job i (.record now)) := by
  constructor
  · rintro ⟨pre, e₁, post, heq, hrouses, hpost⟩
    rcases List.eq_nil_or_concat post with rfl | ⟨post', e₂, rfl⟩
    · obtain ⟨_, hlast⟩ := List.append_inj' heq rfl
      cases hlast
      exact Or.inl hrouses
    · have heq' : es ++ [e] = (pre ++ e₁ :: post') ++ [e₂] := by
        simpa [List.concat_eq_append] using heq
      obtain ⟨hes, hlast⟩ := List.append_inj' heq' rfl
      cases hlast
      refine Or.inr ⟨⟨pre, e₁, post', hes, hrouses, fun e' he' => hpost e' ?_⟩, hpost e ?_⟩
      · simp [he']
      · simp
  · rintro (hrouses | ⟨⟨pre, e₁, post, rfl, hrouses, hpost⟩, hlast⟩)
    · exact ⟨es, e, [], rfl, hrouses, fun e' he' => absurd he' List.not_mem_nil⟩
    · refine ⟨pre, e₁, post ++ [e], by simp, hrouses, fun e' he' => ?_⟩
      rcases List.mem_append.mp he' with he' | he'
      · exact hpost e' he'
      · exact List.mem_singleton.mp he' ▸ hlast

/-! ### The flag of one place -/

namespace Fleet

variable {a : Action} {f f' : Fleet} {now : Instant} {i : Nat}

/-- A move makes a job busy only by a trigger, or by letting it take a ticket. -/
theorem Moved.isBusyAt_of_after (h : Moved a f f') (htrigger : a ≠ .job i .trigger)
    (hreceive : a ≠ .job i .receive) (hbusy : f'.isBusyAt i = true) : f.isBusyAt i = true := by
  rcases h.slot i with hsame | ⟨s, j', b, hs, hact, hb, hs'⟩
  · rwa [isBusyAt, job?, hsame] at hbusy
  · have hnot₁ : b ≠ .trigger := moved_ne hb (by simp) htrigger
    have hnot₂ : b ≠ .receive := moved_ne hb (by simp) hreceive
    rw [isBusyAt_of_slot hs', Bool.not_eq_true'] at hbusy
    rw [isBusyAt_of_slot hs, Bool.not_eq_true']
    refine Bool.eq_false_iff.mpr fun hidle => ?_
    have hidle' := Job.isIdle_act? hact hnot₁ hnot₂ hidle
    rw [hbusy] at hidle'
    cases hidle'

/-- A busy job is busy after every move that does not record its execution. -/
theorem Moved.isBusyAt_of_before (h : Moved a f f')
    (hrecord : ∀ now, a ≠ .job i (.record now)) (hbusy : f.isBusyAt i = true) :
    f'.isBusyAt i = true := by
  rcases h.slot i with hsame | ⟨s, j', b, hs, hact, hb, hs'⟩
  · rwa [isBusyAt, job?, hsame]
  · have hnot : ∀ now, b ≠ .record now := fun now => moved_ne hb (by simp) (hrecord now)
    rw [isBusyAt_of_slot hs, Bool.not_eq_true'] at hbusy
    rw [isBusyAt_of_slot hs', Bool.not_eq_true']
    exact Job.isBusy_act? hact hnot hbusy

/-- A job that this fleet runs is busy once it was triggered or took a ticket. -/
theorem isBusyAt_of_actAt? {b : JobAction} {spec : JobSpec} (h : f.actAt? i b = some f')
    (hb : b = .trigger ∨ b = .receive) (hspec : f.specs[i]? = some spec)
    (hext : spec.external = false) : f'.isBusyAt i = true := by
  obtain ⟨_, _, ⟨s, j', hs, hact, hs'⟩, _⟩ := actAt?_eq_some h
  obtain rfl := spec_eq_of_slot hs hspec
  rw [isBusyAt_of_slot hs', Bool.not_eq_true']
  rcases hb with rfl | rfl
  · cases hact
    exact Job.isBusy_trigger hext
  · exact Job.isBusy_receive? hact hext

/-- A job whose execution was just recorded is idle. -/
theorem isBusyAt_record (h : f.actAt? i (.record now) = some f') : f'.isBusyAt i = false := by
  obtain ⟨_, _, ⟨s, j', hs, hact, hs'⟩, _⟩ := actAt?_eq_some h
  rw [isBusyAt_of_slot hs', Bool.not_eq_false']
  exact Job.isIdle_record? hact

/-- No tick makes a busy job idle. -/
theorem isBusyAt_tick_of_before (hbusy : f.isBusyAt i = true) : (f.tick now).1.isBusyAt i = true := by
  obtain ⟨s, hs, hjob⟩ := isBusyAt_iff.mp hbusy
  refine isBusyAt_iff.mpr ⟨_, by rw [getElem?_tick_slots, hs, Option.map_some], ?_⟩
  split
  · exact Job.isBusy_trigger (Bool.or_eq_false_iff.mp hjob).1
  · exact hjob

end Fleet

/-! ### Histories -/

namespace Manager

open Fleet

variable {m₀ m m' : Manager} {es : List Event} {i : Nat}

/-- A roused job is busy. -/
theorem Run.isBusyAt_of_roused (hrun : m₀.Run es m) (hq : m₀.fleet.WellQueued)
    (h : Roused i es) : m.fleet.isBusyAt i = true := by
  induction hrun with
  | nil =>
    obtain ⟨pre, e, post, heq, _⟩ := h
    simp at heq
  | @snoc es m m' a t hrun hact ih =>
    rcases roused_append.mp h with ⟨hwaits, hrouses⟩ | ⟨hroused, hrecord⟩
    · obtain ⟨b, rfl, hb⟩ : ∃ b, a = .job i b ∧ (b = .trigger ∨ b = .receive) := by
        rcases hrouses with ha | ha
        · exact ⟨_, ha, Or.inl rfl⟩
        · exact ⟨_, ha, Or.inr rfl⟩
      obtain ⟨fleet, hact', heq⟩ := Option.map_eq_some_iff.mp hact
      cases heq
      obtain ⟨spec, hspec, hext⟩ := (hrun.wellQueued hq).job i hwaits
      exact isBusyAt_of_actAt? hact' hb hspec hext
    · rcases act?_cases hact with ⟨_, hmove⟩ | ⟨now, _, _, _, _, hfleet⟩
      · exact hmove.isBusyAt_of_before hrecord (ih hroused)
      · exact hfleet ▸ isBusyAt_tick_of_before (ih hroused)

/-- A waiting job that is busy was roused, since it was idle when it joined the queue. -/
theorem Run.roused_of_isBusyAt (hrun : m₀.Run es m) (hempty : m₀.fleet.pending = [])
    (hq : m₀.fleet.WellQueued) (hwaits : i ∈ m.fleet.pending) (hbusy : m.fleet.isBusyAt i = true) :
    Roused i es := by
  induction hrun with
  | nil =>
    rw [hempty] at hwaits
    cases hwaits
  | @snoc es m m' a t hrun hact ih =>
    rw [roused_append]
    rcases act?_cases hact with ⟨_, hmove⟩ | ⟨now, rfl, _, _, _, hfleet⟩
    · rw [hmove.pending] at hwaits
      by_cases htrigger : a = .job i .trigger
      · exact Or.inl ⟨hwaits, Or.inl htrigger⟩
      by_cases hreceive : a = .job i .receive
      · exact Or.inl ⟨hwaits, Or.inr hreceive⟩
      refine Or.inr ⟨ih hwaits (hmove.isBusyAt_of_after htrigger hreceive hbusy), ?_⟩
      rintro now rfl
      obtain ⟨fleet, hrecord, heq⟩ := Option.map_eq_some_iff.mp hact
      cases heq
      rw [isBusyAt_record hrecord] at hbusy
      cases hbusy
    · rw [hfleet] at hwaits hbusy
      rw [(hrun.wellQueued hq).isBusyAt_tick hwaits] at hbusy
      rw [tick_pending] at hwaits
      rcases List.mem_append.mp (List.mem_of_mem_drop hwaits) with hold | hnew
      · exact Or.inr ⟨ih hold hbusy, fun now ha => by cases ha⟩
      · rw [isBusyAt_of_joining hnew] at hbusy
        cases hbusy

/-- A job is roused only if somebody has triggered it by hand. -/
theorem Run.triggered_of_roused (hrun : m₀.Run es m) (hq : m₀.fleet.WellQueued)
    (hcalm : m₀.fleet.CalmAt i) (hwaits : i ∈ m.fleet.pending) (h : Roused i es) :
    ∃ e ∈ es, e.action = .job i .trigger := by
  have hbusy := hrun.isBusyAt_of_roused hq h
  refine Classical.not_forall_not.mp fun hnone => ?_
  have hun : Unprompted i es := fun e he ha => hnone e ⟨he, ha⟩
  rw [(hrun.calmAt hq hcalm hun).waits hwaits] at hbusy
  cases hbusy

section NewManager

variable {limit : Nat} {specs : List JobSpec} {c : Checkpoint} {now time : Instant}
  {store : Storage.MemoryStore} {t : Tick}

/-- **Who is admitted while busy.**  A job that a tick admits is busy exactly when it was roused:
    while it waited it was triggered, or took a ticket left over, and no execution of it was
    recorded since.  Such a job has been triggered by hand, and has joined the queue before this
    tick.  If no such job waits, a tick admits idle jobs only. -/
theorem Run.admitted_busy_iff (hrun : (ofFleet (.restored limit specs c now) store).Run es m)
    (hact : m.act? (.tick time) = some (m', some t)) :
    ∀ i ∈ t.admitted, (m.fleet.isBusyAt i = true ↔ Roused i es) ∧
      (Roused i es → i ∈ m.fleet.pending ∧ ∃ e ∈ es, e.action = .job i .trigger) := by
  have hq := wellQueued_restored limit specs c now
  have hcalm := calmAt_restored limit specs c now
  obtain ⟨_, ⟨_, ht, _⟩ | ⟨_, ht, _⟩⟩ := tick?_cases hact
  · cases ht
    intro i hi
    have hcandidate : i ∈ m.fleet.pending ++ m.fleet.joining time := List.mem_of_mem_take hi
    have hwaits : m.fleet.isBusyAt i = true → i ∈ m.fleet.pending := by
      intro hbusy
      refine (List.mem_append.mp hcandidate).resolve_right fun hjoins => ?_
      rw [isBusyAt_of_joining hjoins] at hbusy
      cases hbusy
    refine ⟨⟨fun hbusy => hrun.roused_of_isBusyAt rfl hq (hwaits hbusy) hbusy,
      hrun.isBusyAt_of_roused hq⟩, fun hroused => ?_⟩
    have hold := hwaits (hrun.isBusyAt_of_roused hq hroused)
    exact ⟨hold, hrun.triggered_of_roused hq (hcalm i) hold hroused⟩
  · cases ht

end NewManager

/-! ### A job that is triggered while it waits -/

/-- The first tick of the quartet leaves two jobs waiting, the first of which is then triggered by
    hand.  It has not even taken its ticket when the jobs that were admitted are done. -/
def promptedActions : List Action :=
  let second (n : Nat) : Instant := .addMillis .epoch (1000 * n)
  [.start .epoch, .endSave true, .tick (second 1), .endSave true, .job 2 .trigger,
    .job 0 .receive, .job 0 (.finishAttempt (.ok .none)), .job 0 (.record (second 2)),
    .job 1 .receive, .job 1 (.finishAttempt (.ok .none)), .job 1 (.record (second 2))]

/-- A tick can admit a busy job. -/
theorem busy_job_admitted :
    ¬ ∀ (limit : Nat) (specs : List JobSpec) (c : Checkpoint) (now time : Instant)
        (store : Storage.MemoryStore) (es : List Event) (m m' : Manager) (t : Tick),
      (ofFleet (.restored limit specs c now) store).Run es m →
        m.act? (.tick time) = some (m', some t) →
          ∀ i ∈ t.admitted, m.fleet.isBusyAt i = false := by
  intro hidle
  have hrun : quartet.Run ((quartet.play? promptedActions).get rfl).1 _ := run_played rfl
  have hbusy := hidle 2 _ _ _ (.addMillis .epoch 3000) _ _ _ _ _ hrun rfl 2 (by decide)
  exact absurd hbusy (by decide)

/-- The job that was triggered while it waited is the next one to be admitted. -/
theorem quartet_admitted_busy_iff :
    let r := (quartet.play? promptedActions).get rfl
    quartet.Run r.1 r.2 ∧ ∃ m' t, r.2.act? (.tick (.addMillis .epoch 3000)) = some (m', some t) ∧
      2 ∈ t.admitted ∧ (r.2.fleet.isBusyAt 2 = true ↔ Roused 2 r.1) := by
  intro r
  have hrun : quartet.Run r.1 r.2 := run_played rfl
  have hadm : 2 ∈ (r.2.fleet.tick (.addMillis .epoch 3000)).2.admitted := by decide
  exact ⟨hrun, _, _, rfl, hadm, (hrun.admitted_busy_iff rfl 2 hadm).1⟩

end Manager

end SyncFleet
