/-
  SyncFleet/Proofs/Result.lean
  ============================
  **Results in sequence: all of them, or the first error.**

  A computation that reads a list item by item yields what each item yields
  (`mapM_eq_ok_iff`), and succeeds if each does (`exists_mapM_eq_ok_iff`).
  Otherwise it fails as the first item does that fails (`mapM_eq_error_iff`).
  Errors can be passed through a function (`mapError_eq_error_iff`).
-/
import SyncFleet.Proofs.List

namespace SyncFleet

variable {α β ε : Type} {g : α → Except ε β}

theorem bind_eq_ok {x : Except ε α} {b : β} :
    (x >>= g) = .ok b ↔ ∃ a, x = .ok a ∧ g a = .ok b := by
  cases x <;> simp [bind, Except.bind]

theorem bind_eq_error {x : Except ε α} {e : ε} :
    (x >>= g) = .error e ↔ x = .error e ∨ ∃ a, x = .ok a ∧ g a = .error e := by
  cases x <;> simp [bind, Except.bind]

theorem mapError_eq_ok_iff {δ : Type} {f : ε → δ} {x : Except ε α} {a : α} :
    x.mapError f = .ok a ↔ x = .ok a := by
  cases x with
  | ok b => exact ⟨fun h => congrArg Except.ok (Except.ok.inj h), fun h => by rw [h]; rfl⟩
  | error e => exact ⟨nofun, nofun⟩

theorem mapError_eq_error_iff {δ : Type} {f : ε → δ} {x : Except ε α} {e : δ} :
    x.mapError f = .error e ↔ ∃ fault, x = .error fault ∧ e = f fault := by
  cases x with
  | ok a => exact ⟨nofun, fun ⟨_, h, _⟩ => nomatch h⟩
  | error fault =>
    refine ⟨fun h => ⟨fault, rfl, (Except.error.inj h).symm⟩, ?_⟩
    rintro ⟨_, ⟨⟩, rfl⟩
    rfl

theorem mapM_cons_eq_ok {a : α} {l : List α} {bs : List β} :
    (a :: l).mapM g = .ok bs ↔ ∃ b rest, g a = .ok b ∧ l.mapM g = .ok rest ∧ bs = b :: rest := by
  simp only [List.mapM_cons, bind_eq_ok, pure, Except.pure, Except.ok.injEq]
  constructor
  · rintro ⟨b, hb, rest, hrest, rfl⟩
    exact ⟨b, rest, hb, hrest, rfl⟩
  · rintro ⟨b, rest, hb, hrest, rfl⟩
    exact ⟨b, hb, rest, hrest, rfl⟩

theorem mapM_cons_eq_error {a : α} {l : List α} {e : ε} :
    (a :: l).mapM g = .error e ↔
      g a = .error e ∨ (∃ b, g a = .ok b) ∧ l.mapM g = .error e := by
  rw [List.mapM_cons, bind_eq_error]
  refine or_congr_right ?_
  constructor
  · rintro ⟨b, hb, hrest⟩
    obtain hrest | ⟨_, _, hnone⟩ := bind_eq_error.mp hrest
    · exact ⟨⟨b, hb⟩, hrest⟩
    · cases hnone
  · rintro ⟨⟨b, hb⟩, hrest⟩
    exact ⟨b, hb, bind_eq_error.mpr (Or.inl hrest)⟩

/-- Results one by one: all of them. -/
theorem mapM_eq_ok_iff {l : List α} {bs : List β} :
    l.mapM g = .ok bs ↔ List.Forall₂ (fun a b => g a = .ok b) l bs := by
  induction l generalizing bs with
  | nil =>
    rw [List.mapM_nil, List.forall₂_nil_left_iff]
    exact ⟨fun h => (Except.ok.inj h).symm, fun h => h ▸ rfl⟩
  | cons a l ih =>
    rw [mapM_cons_eq_ok, List.forall₂_cons_left_iff]
    constructor
    · rintro ⟨b, rest, hb, hrest, rfl⟩
      exact ⟨b, rest, hb, ih.mp hrest, rfl⟩
    · rintro ⟨b, rest, hb, hrest, rfl⟩
      exact ⟨b, rest, hb, ih.mpr hrest, rfl⟩

theorem exists_mapM_eq_ok_iff {l : List α} :
    (∃ bs, l.mapM g = .ok bs) ↔ ∀ a ∈ l, ∃ b, g a = .ok b := by
  induction l with
  | nil => exact ⟨fun _ _ h => absurd h List.not_mem_nil, fun _ => ⟨[], rfl⟩⟩
  | cons a l ih =>
    rw [List.forall_mem_cons, ← ih]
    constructor
    · rintro ⟨bs, hbs⟩
      obtain ⟨b, rest, hb, hrest, _⟩ := mapM_cons_eq_ok.mp hbs
      exact ⟨⟨b, hb⟩, rest, hrest⟩
    · rintro ⟨⟨b, hb⟩, rest, hrest⟩
      exact ⟨b :: rest, mapM_cons_eq_ok.mpr ⟨b, rest, hb, hrest, rfl⟩⟩

/-- Results one by one: up to the first error. -/
theorem mapM_eq_error_iff {l : List α} {e : ε} :
    l.mapM g = .error e ↔
      ∃ pre a post, l = pre ++ a :: post ∧ (∀ x ∈ pre, ∃ b, g x = .ok b) ∧ g a = .error e := by
  induction l with
  | nil =>
    constructor
    · intro h
      cases h
    · rintro ⟨pre, a, post, hl, _⟩
      exact absurd hl.symm (by simp)
  | cons a l ih =>
    rw [mapM_cons_eq_error, ih]
    constructor
    · rintro (ha | ⟨ha, pre, x, post, rfl, hpre, hx⟩)
      · exact ⟨[], a, l, rfl, fun _ h => absurd h List.not_mem_nil, ha⟩
      · exact ⟨a :: pre, x, post, rfl, List.forall_mem_cons.mpr ⟨ha, hpre⟩, hx⟩
    · rintro ⟨pre, x, post, hl, hpre, hx⟩
      cases pre with
      | nil =>
        obtain ⟨rfl, rfl⟩ := List.cons.inj hl
        exact Or.inl hx
      | cons y pre =>
        obtain ⟨rfl, rfl⟩ := List.cons.inj hl
        obtain ⟨hy, hpre⟩ := List.forall_mem_cons.mp hpre
        exact Or.inr ⟨hy, pre, x, post, rfl, hpre, hx⟩

end SyncFleet
