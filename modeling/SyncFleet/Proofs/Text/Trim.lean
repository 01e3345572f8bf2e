/-
  SyncFleet/Proofs/Text/Trim.lean
  ===============================
  **What is left of a text when the blanks at its ends are taken away.**

  A text is its trimmed form between two runs of blanks (`exists_trim`), and
  the trimmed form neither begins nor ends with a blank (`tight_trim`).  There
  is no other form of that kind but the empty one (`trim_append`), so a text of
  blanks alone is trimmed to nothing, and no other text is (`trim_eq_nil_iff`).
-/
import SyncFleet.Text.Blank

namespace SyncFleet.Text

/-- A run of characters of one kind ends in front of a character of another kind. -/
theorem takeWhile_and_dropWhile {kind : Char → Bool} {run rest : List Char}
    (hrun : ∀ c ∈ run, kind c = true) (hrest : ∀ c ∈ rest.head?, kind c = false) :
    (run ++ rest).takeWhile kind = run ∧ (run ++ rest).dropWhile kind = rest := by
  rw [List.takeWhile_append_of_pos hrun, List.dropWhile_append_of_pos hrun]
  cases rest with
  | nil => exact ⟨List.append_nil _, rfl⟩
  | cons c rest =>
    have hc : ¬ kind c = true := by
      rw [hrest c rfl]
      exact Bool.false_ne_true
    rw [List.takeWhile_cons_of_neg hc, List.dropWhile_cons_of_neg hc, List.append_nil]
    exact ⟨rfl, rfl⟩

theorem isBlank_of_isDigit {c : Char} (h : c.isDigit = true) : isBlank c = false := by
  rw [Char.isDigit_iff_toNat] at h
  simp only [Char.reduceToNat] at h
  simp only [isBlank, Bool.or_eq_false_iff, Bool.and_eq_false_iff, decide_eq_false_iff_not,
    beq_eq_false_iff_ne]
  omega

variable {cs : List Char}

/-- Whether a text consists of blanks. -/
def Blanks (cs : List Char) : Prop := ∀ c ∈ cs, isBlank c = true

/-- Whether a text neither begins nor ends with a blank. -/
structure Tight (cs : List Char) : Prop where
  head : ∀ c ∈ cs.head?, isBlank c = false
  last : ∀ c ∈ cs.getLast?, isBlank c = false

theorem blanks_append {as bs : List Char} : Blanks (as ++ bs) ↔ Blanks as ∧ Blanks bs :=
  List.forall_mem_append

theorem blanks_takeWhile (cs : List Char) : Blanks (cs.takeWhile isBlank) :=
  fun c hc => List.all_eq_true.mp List.all_takeWhile c hc

theorem blanks_reverse : Blanks cs.reverse ↔ Blanks cs := by
  simp only [Blanks, List.mem_reverse]

/-- What begins with another character is no blank from there on. -/
theorem dropWhile_isBlank (h : ∀ c ∈ cs.head?, isBlank c = false) : cs.dropWhile isBlank = cs := by
  cases cs with
  | nil => rfl
  | cons c cs =>
    have hc := h c rfl
    rw [List.dropWhile_cons_of_neg]
    rw [hc]
    exact Bool.false_ne_true

theorem head?_dropWhile_isBlank (cs : List Char) :
    ∀ c ∈ (cs.dropWhile isBlank).head?, isBlank c = false := by
  intro c hc
  have hne := List.head?_dropWhile_not isBlank cs
  rw [hc] at hne
  simpa using hne

/-- A text is its trimmed form between two runs of blanks. -/
theorem exists_trim (cs : List Char) :
    ∃ before after, Blanks before ∧ Blanks after ∧ cs = before ++ trim cs ++ after := by
  refine ⟨cs.takeWhile isBlank, ((cs.dropWhile isBlank).reverse.takeWhile isBlank).reverse,
    blanks_takeWhile _, blanks_reverse.mpr (blanks_takeWhile _), ?_⟩
  rw [trim, List.append_assoc, ← List.reverse_append, List.takeWhile_append_dropWhile,
    List.reverse_reverse, List.takeWhile_append_dropWhile]

theorem tight_trim (cs : List Char) : Tight (trim cs) := by
  constructor
  · intro c hc
    -- a trimmed form begins as the text behind its first blanks does
    have hsuffix := List.dropWhile_suffix isBlank (l := (cs.dropWhile isBlank).reverse)
    obtain ⟨after, hafter⟩ := hsuffix
    have hwhole : cs.dropWhile isBlank = trim cs ++ after.reverse := by
      rw [trim, ← List.reverse_append, hafter, List.reverse_reverse]
    refine head?_dropWhile_isBlank cs c ?_
    rw [hwhole, List.head?_append, hc]
    rfl
  · intro c hc
    refine head?_dropWhile_isBlank (cs.dropWhile isBlank).reverse c ?_
    rwa [trim, List.getLast?_reverse] at hc

/-- Blanks around a text that has none at its ends are what is taken away. -/
theorem trim_append {before text after : List Char} (hbefore : Blanks before)
    (hafter : Blanks after) (htext : Tight text) : trim (before ++ text ++ after) = text := by
  rw [trim, List.append_assoc, List.dropWhile_append_of_pos hbefore]
  cases text with
  | nil =>
    have hnil : after.dropWhile isBlank = [] := by
      rw [← List.append_nil after, List.dropWhile_append_of_pos hafter]
      rfl
    rw [List.nil_append, hnil]
    rfl
  | cons c cs =>
    have hhead : ∀ d ∈ (c :: cs ++ after).head?, isBlank d = false := htext.head
    have hlast : ∀ d ∈ (c :: cs).reverse.head?, isBlank d = false := by
      rw [List.head?_reverse]
      exact htext.last
    rw [dropWhile_isBlank hhead, List.reverse_append,
      List.dropWhile_append_of_pos (blanks_reverse.mpr hafter), dropWhile_isBlank hlast,
      List.reverse_reverse]

/-- Only blanks are trimmed to nothing. -/
theorem trim_eq_nil_iff : trim cs = [] ↔ Blanks cs := by
  constructor
  · intro h
    obtain ⟨before, after, hbefore, hafter, hcs⟩ := exists_trim cs
    rw [h, List.append_nil] at hcs
    rw [hcs]
    exact blanks_append.mpr ⟨hbefore, hafter⟩
  · intro h
    have hnil : Tight [] := ⟨nofun, nofun⟩
    have htrim := trim_append h (fun c hc => absurd hc List.not_mem_nil) hnil
    rwa [List.append_nil, List.append_nil] at htrim

end SyncFleet.Text
