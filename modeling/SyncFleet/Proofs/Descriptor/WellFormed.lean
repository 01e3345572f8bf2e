/-
  SyncFleet/Proofs/Descriptor/WellFormed.lean
  ===========================================
  **Which descriptors describe a job, and what is wrong with the others.**

  `Descriptor.WellFormed` says which values a descriptor needs under its
  reserved keys, and `Descriptor.Describes` which job it then describes.
  `Descriptor.Blames` has one rule for each fault, and a fault counts only where
  the keys that are checked before are in order.

  A descriptor is well-formed or has a fault (`Descriptor.wellFormed_or_blames`),
  and reading it yields the job or the fault
  (`JobSpec.ofDescriptor_of_wellFormed`, `JobSpec.ofDescriptor_of_blames`).
-/
import Mathlib.Data.List.Basic
import SyncFleet.Job.Spec

namespace SyncFleet

/-! ### What a descriptor needs -/

namespace Descriptor

/-- Whether the descriptor has a name. -/
def Named (d : Descriptor) (job : String) : Prop := d.get? Key.name = some (.string job)

/-- Whether the descriptor says what is to be done: nothing here, or to run a script. -/
def HasWork (d : Descriptor) : Prop :=
  d.get? Key.type = some (.string "external") ∨
    (d.get? Key.type = some (.string "shell_script") ∧
      ∃ script, d.get? Key.script = some (.string script))

/-- Whether the number of attempts is left open, or an integer from 1 to 2^32 - 1. -/
def HasRetry (d : Descriptor) : Prop :=
  d.get? Key.retry = none ∨
    ∃ n, d.get? Key.retry = some (.int n) ∧ 1 ≤ n.toInt ∧ n.toInt ≤ 0xffffffff

/-- Whether the delay between attempts is left open, or an integer that is not negative. -/
def HasRetryInterval (d : Descriptor) : Prop :=
  d.get? Key.retryInterval = none ∨ ∃ n, d.get? Key.retryInterval = some (.int n) ∧ 0 ≤ n.toInt

/-- What a descriptor needs to describe a job. -/
structure WellFormed (d : Descriptor) : Prop where
  named : ∃ job, d.Named job
  work : d.HasWork
  retry : d.HasRetry
  retryInterval : d.HasRetryInterval

/-- The integer under a key, or a default. -/
def intOr (d : Descriptor) (key : String) (default : Int) : Int :=
  match d.get? key with
  | some (.int n) => n.toInt
  | _ => default

/-- The job that a descriptor describes: by default it makes three attempts, three seconds apart,
    and runs once a year. -/
structure Describes (d : Descriptor) (s : JobSpec) : Prop where
  name : d.Named s.name
  descriptor : s.descriptor = d
  external : s.external = true ↔ d.get? Key.type = some (.string "external")
  attempts : (s.policy.maxAttempts.toNat : Int) = d.intOr Key.retry 3
  delay : (s.policy.delay : Int) = 1000 * d.intOr Key.retryInterval 3
  interval : (s.interval : Int) =
    if 0 ≤ d.intOr Key.interval 31536000 then d.intOr Key.interval 31536000 else 31536000

/-- What is wrong with a descriptor.  Its name is checked first, then its type, the script of a
    `shell_script`, the number of attempts and the delay between them. -/
inductive Blames (d : Descriptor) : DescriptorError → Prop where
  | name : (∀ job, ¬ d.Named job) → Blames d .missingName
  | noType {job : String} : d.Named job → d.get? Key.type = none →
      Blames d (.missingKey job "type")
  | typeNoString {job : String} {v : Scalar} : d.Named job → d.get? Key.type = some v →
      (∀ kind, v ≠ .string kind) → Blames d (.invalidType job "type" "a string")
  | unsupported {job kind : String} : d.Named job → d.get? Key.type = some (.string kind) →
      kind ≠ "external" → kind ≠ "shell_script" → Blames d (.unsupportedType job
        (if kind = "rsync" then "rsync (use a shell_script job running rsync instead)" else kind))
  | noScript {job : String} : d.Named job → d.get? Key.type = some (.string "shell_script") →
      d.get? Key.script = none → Blames d (.missingKey job "script")
  | scriptNoString {job : String} {v : Scalar} : d.Named job →
      d.get? Key.type = some (.string "shell_script") → d.get? Key.script = some v →
      (∀ script, v ≠ .string script) → Blames d (.invalidType job "script" "a string")
  | retryNoInt {job : String} {v : Scalar} : d.Named job → d.HasWork →
      d.get? Key.retry = some v → (∀ n, v ≠ .int n) →
      Blames d (.invalidType job "retry" "an integer")
  | retryLow {job : String} {n : Int64} : d.Named job → d.HasWork →
      d.get? Key.retry = some (.int n) → n.toInt < 1 →
      Blames d (.invalidValue job "retry" "must be at least 1")
  | retryHigh {job : String} {n : Int64} : d.Named job → d.HasWork →
      d.get? Key.retry = some (.int n) → 0xffffffff < n.toInt →
      Blames d (.invalidValue job "retry" "too large")
  | retryIntervalNoInt {job : String} {v : Scalar} : d.Named job → d.HasWork → d.HasRetry →
      d.get? Key.retryInterval = some v → (∀ n, v ≠ .int n) →
      Blames d (.invalidType job "retry_interval" "an integer")
  | retryIntervalLow {job : String} {n : Int64} : d.Named job → d.HasWork → d.HasRetry →
      d.get? Key.retryInterval = some (.int n) → n.toInt < 0 →
      Blames d (.invalidValue job "retry_interval" "must not be negative")

variable {d : Descriptor} {job : String}

/-! ### The checks, one by one -/

theorem string?_eq_some_iff {key text : String} :
    d.string? key = some text ↔ d.get? key = some (.string text) := by
  unfold string?
  cases d.get? key with
  | none => simp
  | some v => cases v <;> simp

theorem Named.name_eq (h : d.Named job) : d.name = .ok job ∧ d.label = job := by
  have hname : d.string? Key.name = some job := string?_eq_some_iff.mpr h
  simp [name, label, hname]

theorem name_of_not_named (h : ∀ job, ¬ d.Named job) : d.name = .error .missingName := by
  unfold name
  cases hname : d.string? Key.name with
  | none => rfl
  | some job => exact absurd (string?_eq_some_iff.mp hname) (h job)

/-- A descriptor that says what is to be done is understood. -/
theorem HasWork.work_eq (h : d.HasWork) (hname : d.Named job) :
    ∃ w, d.work = .ok w ∧
      (w.isExternal = true ↔ d.get? Key.type = some (.string "external")) := by
  rcases h with htype | ⟨htype, script, hscript⟩
  · exact ⟨.external, by simp [work, hname.name_eq, htype, bind, Except.bind, pure, Except.pure],
      by simp [Work.isExternal, htype]⟩
  · refine ⟨.script script, ?_, by simp [Work.isExternal, htype]⟩
    simp [work, hname.name_eq, htype, require, hscript, bind, Except.bind, pure, Except.pure]

theorem HasRetry.retry_eq (h : d.HasRetry) :
    ∃ n, d.retry = .ok n ∧ (n.toNat : Int) = d.intOr Key.retry 3 ∧ 1 ≤ n := by
  rcases h with hnone | ⟨n, hn, hlow, hhigh⟩
  · exact ⟨3, by simp [retry, hnone], by simp [intOr, hnone], by decide⟩
  · have hsize : n.toInt.toNat < UInt32.size := by
      simp only [UInt32.size]
      omega
    have hvalue : (UInt32.ofNat n.toInt.toNat).toNat = n.toInt.toNat :=
      UInt32.toNat_ofNat_of_lt' hsize
    refine ⟨UInt32.ofNat n.toInt.toNat, ?_, ?_, ?_⟩
    · simp only [retry, hn]
      rw [if_neg (by omega), if_pos (by simp only [UInt32.size]; omega)]
    · simp only [intOr, hn, hvalue]
      omega
    · rw [UInt32.le_iff_toNat_le, hvalue, UInt32.toNat_one]
      omega

theorem HasRetryInterval.retryInterval_eq (h : d.HasRetryInterval) :
    ∃ n : Nat, d.retryInterval = .ok n ∧ (n : Int) = d.intOr Key.retryInterval 3 := by
  rcases h with hnone | ⟨n, hn, hlow⟩
  · exact ⟨3, by simp [Descriptor.retryInterval, hnone], by simp [intOr, hnone]⟩
  · refine ⟨n.toInt.toNat, ?_, ?_⟩
    · simp only [Descriptor.retryInterval, hn]
      rw [if_pos hlow]
    · simp only [intOr, hn]
      omega

theorem intOr_eq (d : Descriptor) (key : String) (default : Int) :
    d.intOr key default = ((d.int? key).map Int64.toInt).getD default := by
  unfold intOr int?
  cases d.get? key with
  | none => rfl
  | some v => cases v <;> rfl

theorem interval_eq (d : Descriptor) : (d.interval : Int) =
    if 0 ≤ d.intOr Key.interval 31536000 then d.intOr Key.interval 31536000 else 31536000 := by
  rw [intOr_eq, interval]
  cases d.int? Key.interval with
  | none => rfl
  | some n =>
    simp only [Option.map_some, Option.getD_some]
    split
    · omega
    · rfl

/-! ### Reading a descriptor -/

/-- A descriptor is well-formed or has a fault. -/
theorem wellFormed_or_blames (d : Descriptor) : d.WellFormed ∨ ∃ e, d.Blames e := by
  by_cases hnamed : ∃ job, d.Named job
  swap
  · exact Or.inr ⟨_, .name fun job hjob => hnamed ⟨job, hjob⟩⟩
  obtain ⟨job, hjob⟩ := hnamed
  by_cases hwork : d.HasWork
  swap
  · right
    cases htype : d.get? Key.type with
    | none => exact ⟨_, .noType hjob htype⟩
    | some v =>
      cases v with
      | null | bool _ | int _ | float _ => exact ⟨_, .typeNoString hjob htype nofun⟩
      | string kind =>
        by_cases hshell : kind = "shell_script"
        swap
        · refine ⟨_, .unsupported hjob htype ?_ hshell⟩
          rintro rfl
          exact hwork (Or.inl htype)
        subst hshell
        cases hscript : d.get? Key.script with
        | none => exact ⟨_, .noScript hjob htype hscript⟩
        | some v =>
          refine ⟨_, .scriptNoString hjob htype hscript ?_⟩
          rintro script rfl
          exact hwork (Or.inr ⟨htype, script, hscript⟩)
  by_cases hretry : d.HasRetry
  swap
  · right
    cases hvalue : d.get? Key.retry with
    | none => exact absurd (Or.inl hvalue) hretry
    | some v =>
      cases v with
      | null | bool _ | string _ | float _ => exact ⟨_, .retryNoInt hjob hwork hvalue nofun⟩
      | int n =>
        by_cases hlow : n.toInt < 1
        · exact ⟨_, .retryLow hjob hwork hvalue hlow⟩
        · refine ⟨_, .retryHigh hjob hwork hvalue ?_⟩
          by_contra hhigh
          exact hretry (Or.inr ⟨n, hvalue, by omega, by omega⟩)
  by_cases hinterval : d.HasRetryInterval
  · exact Or.inl ⟨⟨job, hjob⟩, hwork, hretry, hinterval⟩
  · right
    cases hvalue : d.get? Key.retryInterval with
    | none => exact absurd (Or.inl hvalue) hinterval
    | some v =>
      cases v with
      | null | bool _ | string _ | float _ =>
        exact ⟨_, .retryIntervalNoInt hjob hwork hretry hvalue nofun⟩
      | int n =>
        refine ⟨_, .retryIntervalLow hjob hwork hretry hvalue ?_⟩
        by_contra hlow
        exact hinterval (Or.inr ⟨n, hvalue, by omega⟩)

end Descriptor

namespace JobSpec

variable {d : Descriptor}

/-- The steps of reading a descriptor, in order. -/
theorem ofDescriptor_eq (d : Descriptor) :
    ofDescriptor d = d.work >>= fun w => d.name >>= fun name => d.retry >>= fun attempts =>
      d.retryInterval >>= fun seconds =>
        .ok ⟨name, d, w.isExternal, .fixed attempts (1000 * seconds)⟩ := by
  simp only [ofDescriptor, ofSettings, Descriptor.retryPolicy, bind, Except.bind, pure, Except.pure]
  cases d.work <;> cases d.name <;> cases d.retry <;> cases d.retryInterval <;> rfl

/-- A well-formed descriptor yields the job that it describes. -/
theorem ofDescriptor_of_wellFormed (h : d.WellFormed) :
    ∃ s, ofDescriptor d = .ok s ∧ d.Describes s := by
  obtain ⟨job, hjob⟩ := h.named
  obtain ⟨w, hw, hexternal⟩ := h.work.work_eq hjob
  obtain ⟨attempts, hretry, hattempts, hpos⟩ := h.retry.retry_eq
  obtain ⟨seconds, hinterval, hseconds⟩ := h.retryInterval.retryInterval_eq
  refine ⟨⟨job, d, w.isExternal, .fixed attempts (1000 * seconds)⟩, ?_, ?_⟩
  · rw [ofDescriptor_eq, hw, hjob.name_eq.1, hretry, hinterval]
    rfl
  · have hmax : max 1 attempts = attempts := if_pos hpos
    exact {
      name := hjob
      descriptor := rfl
      external := hexternal
      attempts := by rw [RetryPolicy.fixed, hmax]; exact hattempts
      delay := by simp only [RetryPolicy.fixed]; omega
      interval := d.interval_eq }

/-- A fault in what is to be done is found before the keys for retrying are read. -/
theorem ofDescriptor_of_work_error {e : DescriptorError} (h : d.work = .error e) :
    ofDescriptor d = .error e := by
  rw [ofDescriptor_eq, h]
  rfl

theorem ofDescriptor_of_retry_error {job : String} {e : DescriptorError} (hjob : d.Named job)
    (hwork : d.HasWork) (h : d.retry = .error e) : ofDescriptor d = .error e := by
  obtain ⟨w, hw, _⟩ := hwork.work_eq hjob
  rw [ofDescriptor_eq, hw, hjob.name_eq.1, h]
  rfl

theorem ofDescriptor_of_retryInterval_error {job : String} {e : DescriptorError}
    (hjob : d.Named job) (hwork : d.HasWork) (hretry : d.HasRetry)
    (h : d.retryInterval = .error e) : ofDescriptor d = .error e := by
  obtain ⟨w, hw, _⟩ := hwork.work_eq hjob
  obtain ⟨attempts, hattempts, _⟩ := hretry.retry_eq
  rw [ofDescriptor_eq, hw, hjob.name_eq.1, hattempts, h]
  rfl

/-- A descriptor with a fault yields the fault. -/
theorem ofDescriptor_of_blames {e : DescriptorError} (h : d.Blames e) :
    ofDescriptor d = .error e := by
  cases h with
  | name hnone =>
    exact ofDescriptor_of_work_error (by
      simp [Descriptor.work, Descriptor.name_of_not_named hnone, bind, Except.bind])
  | noType hjob htype =>
    exact ofDescriptor_of_work_error (by
      rw [Descriptor.work, hjob.name_eq.1, htype]
      rfl)
  | @typeNoString job v hjob htype hno =>
    refine ofDescriptor_of_work_error ?_
    rw [Descriptor.work, hjob.name_eq.1, htype, hjob.name_eq.2]
    cases v with
    | string kind => exact absurd rfl (hno kind)
    | null | bool _ | int _ | float _ => rfl
  | @unsupported job kind hjob htype hext hshell =>
    refine ofDescriptor_of_work_error ?_
    rw [Descriptor.work, hjob.name_eq.1, htype]
    by_cases hrsync : kind = "rsync"
    · subst hrsync
      rfl
    · simp [hrsync, bind, Except.bind, throw, throwThe, MonadExceptOf.throw]
  | noScript hjob htype hscript =>
    refine ofDescriptor_of_work_error ?_
    simp only [Descriptor.work, Descriptor.require, hjob.name_eq, htype, hscript]
    rfl
  | @scriptNoString job v hjob htype hscript hno =>
    refine ofDescriptor_of_work_error ?_
    simp only [Descriptor.work, Descriptor.require, hjob.name_eq, htype, hscript]
    cases v with
    | string script => exact absurd rfl (hno script)
    | null | bool _ | int _ | float _ => rfl
  | @retryNoInt job v hjob hwork hvalue hno =>
    refine ofDescriptor_of_retry_error hjob hwork ?_
    rw [Descriptor.retry, hvalue, hjob.name_eq.2]
    cases v with
    | int n => exact absurd rfl (hno n)
    | null | bool _ | string _ | float _ => rfl
  | retryLow hjob hwork hvalue hlow =>
    refine ofDescriptor_of_retry_error hjob hwork ?_
    simp only [Descriptor.retry, hvalue, hjob.name_eq.2]
    exact if_pos hlow
  | retryHigh hjob hwork hvalue hhigh =>
    refine ofDescriptor_of_retry_error hjob hwork ?_
    simp only [Descriptor.retry, hvalue, hjob.name_eq.2]
    rw [if_neg (by omega), if_neg (by simp only [UInt32.size]; omega)]
    rfl
  | @retryIntervalNoInt job v hjob hwork hretry hvalue hno =>
    refine ofDescriptor_of_retryInterval_error hjob hwork hretry ?_
    rw [Descriptor.retryInterval, hvalue, hjob.name_eq.2]
    cases v with
    | int n => exact absurd rfl (hno n)
    | null | bool _ | string _ | float _ => rfl
  | retryIntervalLow hjob hwork hretry hvalue hlow =>
    refine ofDescriptor_of_retryInterval_error hjob hwork hretry ?_
    simp only [Descriptor.retryInterval, hvalue, hjob.name_eq.2]
    exact if_neg (by omega)

/-- Reading a descriptor finds the fault that it has. -/
theorem ofDescriptor_eq_error_iff {e : DescriptorError} :
    ofDescriptor d = .error e ↔ d.Blames e := by
  refine ⟨fun h => ?_, ofDescriptor_of_blames⟩
  rcases d.wellFormed_or_blames with hwell | ⟨e', hblames⟩
  · obtain ⟨s, hs, _⟩ := ofDescriptor_of_wellFormed hwell
    cases hs.symm.trans h
  · cases (ofDescriptor_of_blames hblames).symm.trans h
    exact hblames

theorem wellFormed_iff : d.WellFormed ↔ ∃ s, ofDescriptor d = .ok s := by
  constructor
  · intro hwell
    obtain ⟨s, hs, _⟩ := ofDescriptor_of_wellFormed hwell
    exact ⟨s, hs⟩
  · rintro ⟨s, hs⟩
    refine d.wellFormed_or_blames.resolve_right ?_
    rintro ⟨e, hblames⟩
    cases hs.symm.trans (ofDescriptor_of_blames hblames)

theorem describes_of_ok {s : JobSpec} (h : ofDescriptor d = .ok s) : d.Describes s := by
  obtain ⟨s', hs', hdescribes⟩ := ofDescriptor_of_wellFormed (wellFormed_iff.mpr ⟨s, h⟩)
  cases hs'.symm.trans h
  exact hdescribes

end JobSpec

end SyncFleet
