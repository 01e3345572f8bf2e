/-
  SyncFleet/Proofs/Config/Reading.lean
  ====================================
  **What a text can be refused for as a configuration.**

  A repo that is read from a text is a mapping, since no entry is added whose
  key is there already (`repos_of_ofText?`).  So a text is accepted if and only
  if it writes a valid configuration, and refused for being malformed or for
  the first fault of what it writes.
-/
import SyncFleet.Config.Reading
import SyncFleet.Proofs.Config.Validation

namespace SyncFleet

open Yaml (Document Node NodeReader Value)

namespace Yaml

/-! ### What a reader gives -/

/-- Whether everything that a reader can give has a property. -/
def Gives {α : Type} (r : NodeReader α) (P : α → Prop) : Prop :=
  ∀ s out, r.run s = some out → P out.1

namespace Gives

variable {α β : Type} {P : α → Prop}

theorem pure {a : α} (h : P a) : Gives (return a) P := by
  intro s out hout
  cases hout
  exact h

theorem failure : Gives Alternative.failure P := by
  intro s out hout
  cases hout

theorem bind {r : NodeReader β} {Q : β → Prop} {f : β → NodeReader α} (hr : Gives r Q)
    (hf : ∀ b, Q b → Gives (f b) P) : Gives (r >>= f) P := by
  intro s out hout
  rw [StateT.run_bind, Option.bind_eq_bind, Option.bind_eq_some_iff] at hout
  obtain ⟨⟨b, s'⟩, hb, hout⟩ := hout
  exact hf b (hr s _ hb) s' out hout

/-- Nothing needs to be known of what is read on the way. -/
theorem after {r : NodeReader β} {f : β → NodeReader α} (hf : ∀ b, Gives (f b) P) :
    Gives (r >>= f) P :=
  bind (Q := fun _ => True) (fun _ _ _ => trivial) fun b _ => hf b

/-- A test at which reading fails does not matter to what is read behind it. -/
theorem guarded {c : Prop} [Decidable c] {f : Unit → NodeReader α} (hf : Gives (f ()) P) :
    Gives (if c then Alternative.failure >>= f else f ()) P := by
  split
  · exact after fun _ => hf
  · exact hf

theorem mapM {l : List β} {f : β → NodeReader α} (hf : ∀ b ∈ l, Gives (f b) P) :
    Gives (l.mapM f) fun as => ∀ a ∈ as, P a := by
  induction l with
  | nil =>
    rw [List.mapM_nil]
    exact pure (List.forall_mem_nil P)
  | cons b l ih =>
    obtain ⟨hb, hl⟩ := List.forall_mem_cons.mp hf
    rw [List.mapM_cons]
    exact (hb : Gives (f b) P).bind fun a ha => (ih hl).bind fun as has =>
      pure (List.forall_mem_cons.mpr ⟨ha, has⟩)

end Gives

end Yaml

open Yaml (Gives)

/-! ### Repos are mappings -/

namespace WrittenRepo

theorem isMapping_addEntry {repo repo' : WrittenRepo} {e : Value × Value} (h : IsMapping repo)
    (hadd : Document.addEntry repo e = some repo') : IsMapping repo' := by
  rw [Document.addEntry] at hadd
  split at hadd
  · cases hadd
  · rename_i hnew
    cases hadd
    refine List.pairwise_append.mpr ⟨h, List.pairwise_singleton _ _, ?_⟩
    intro e' he' e'' he''
    obtain rfl := List.mem_singleton.mp he''
    refine Bool.eq_false_iff.mpr fun hsame => hnew ?_
    exact List.any_eq_true.mpr ⟨e', he', hsame⟩

theorem isMapping_addEntries {entries : List (Value × Value)} {repo repo' : WrittenRepo}
    (h : IsMapping repo) (hadd : entries.foldlM Document.addEntry repo = some repo') :
    IsMapping repo' := by
  induction entries generalizing repo with
  | nil =>
    cases hadd
    exact h
  | cons e entries ih =>
    rw [List.foldlM_cons, Option.bind_eq_bind, Option.bind_eq_some_iff] at hadd
    obtain ⟨next, hnext, hrest⟩ := hadd
    exact ih (isMapping_addEntry h hnext) hrest

end WrittenRepo

namespace WrittenConfig

open WrittenRepo (IsMapping)

theorem gives_readRepo (d : Document) (n : Node) : Gives (readRepo d n) IsMapping := by
  unfold readRepo
  refine .after fun nodes => .after fun entries => ?_
  split
  · rename_i repo hrepo
    exact .pure (WrittenRepo.isMapping_addEntries List.Pairwise.nil hrepo)
  · exact .failure

theorem gives_field {α : Type} {P : α → Prop} {fields : List (String × Node)} {name : String}
    {absent : α} {reader : Node → NodeReader α} (habsent : P absent)
    (hreader : ∀ n, Gives (reader n) P) : Gives (field fields name absent reader) P := by
  unfold field
  split
  · exact hreader _
  · exact .pure habsent

theorem gives_read (d : Document) (n : Node) :
    Gives (read d n) fun w => ∀ repo ∈ w.repos, IsMapping repo := by
  have hrepos (n : Node) : Gives (do (← d.items n).mapM (readRepo d))
      fun repos => ∀ repo ∈ repos, IsMapping repo :=
    .after fun nodes => .mapM fun n _ => gives_readRepo d n
  unfold read
  refine .after fun fields => .guarded ?_
  refine .after fun _ => .after fun _ => .guarded ?_
  refine .after fun _ => ?_
  split
  · exact .failure
  · refine .after fun _ => .after fun _ => .after fun _ => .after fun _ => ?_
    exact (gives_field (List.forall_mem_nil _) hrepos).bind fun repos hrepos => .pure hrepos

/-- The repos of a configuration that is read are mappings. -/
theorem repos_of_ofText? {text : String} {w : WrittenConfig} (h : ofText? text = some w) :
    ∀ repo ∈ w.repos, IsMapping repo := by
  rw [ofText?, Option.bind_eq_bind, Option.bind_eq_some_iff] at h
  obtain ⟨d, -, hd⟩ := h
  rw [Document.read?, Option.map_eq_some_iff] at hd
  obtain ⟨out, hout, rfl⟩ := hd
  exact gives_read d d.root _ out hout

end WrittenConfig

/-! ### Texts -/

namespace Config

/-- A text is accepted if and only if it writes a valid configuration. -/
theorem exists_ofText_iff {text : String} :
    (∃ c, ofText text = .ok c) ↔ ∃ w, WrittenConfig.ofText? text = some w ∧ w.Valid := by
  unfold ofText
  cases hread : WrittenConfig.ofText? text with
  | none => simp
  | some w => simp [WrittenConfig.exists_validate_iff]

/-- A text is refused for being malformed or for the first fault of what it writes. -/
theorem ofText_eq_error_iff {text : String} {fault : ConfigError} :
    ofText text = .error fault ↔
      (WrittenConfig.ofText? text = none ∧ fault = .malformed) ∨
      ∃ w, WrittenConfig.ofText? text = some w ∧ w.FirstFault fault := by
  unfold ofText
  cases hread : WrittenConfig.ofText? text with
  | none => simp [eq_comm]
  | some w =>
    have hfirst : w.validate = .error fault ↔ w.FirstFault fault :=
      WrittenConfig.validate_eq_error_iff (WrittenConfig.repos_of_ofText? hread)
    simp [hfirst]

end Config

end SyncFleet
