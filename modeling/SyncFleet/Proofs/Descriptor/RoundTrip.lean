/-
  SyncFleet/Proofs/Descriptor/RoundTrip.lean
  ==========================================
  **A descriptor is read back from its JSON text.**

  An integer is spelled by digits alone, without a zero in front, so it is a
  JSON number, and the reader finds the same integer in it
  (`numeralOfText?_intText`).  It is in range because it was a 64-bit integer
  before, and zero has no minus sign.  Every other value carries its type on its
  face: a string stands in quotes whatever it holds.  So each value that is no
  float is read back (`Scalar.ofJson?_toJson`), and with the values the
  descriptor (`Descriptor.ofText?_render`).
-/
import SyncFleet.Descriptor.Basic
import SyncFleet.Proofs.Decimal.Numeral
import SyncFleet.Proofs.Json.RoundTrip
import SyncFleet.Proofs.KeyMap
import SyncFleet.Proofs.Text.Trim

namespace SyncFleet

open Decimal

/-! ### Integers -/

namespace Json

theorem filterMap_digitVal? {ds : List Char} (h : ∀ c ∈ ds, c.isDigit = true) :
    ds.filterMap digitVal? = values ds := by
  induction ds with
  | nil => rfl
  | cons c ds ih =>
    obtain ⟨hc, hds⟩ := List.forall_mem_cons.mp h
    rw [List.filterMap_cons, digitVal?_eq_some hc, ih hds]
    rfl

/-- The digits of a natural number are a numeral without point and exponent. -/
theorem unsignedOfText?_natText (negative : Bool) (n : Nat) :
    unsignedOfText? negative (natText n) =
      some { negative, whole := values (natText n), fraction := none, exponent := none } := by
  have hdigits : ∀ c ∈ natText n, c.isDigit = true := fun c => isDigit_of_mem_natText
  have hend : ∀ c ∈ ([] : List Char).head?, c.isDigit = false := nofun
  obtain ⟨htake, hdrop⟩ := Text.takeWhile_and_dropWhile hdigits hend
  rw [List.append_nil] at htake hdrop
  have hwhole : ¬ ((natText n).isEmpty = true ∨
      ((natText n).head? = some '0' ∧ (natText n).length ≠ 1)) := by
    rintro (hempty | ⟨hzero, hlength⟩)
    · exact natText_ne_nil n (List.isEmpty_iff.mp hempty)
    · exact hlength (length_natText_of_zero hzero)
  rw [unsignedOfText?]
  dsimp only
  rw [htake, hdrop, if_neg hwhole, filterMap_digitVal? hdigits]
  rfl

/-- A numeral that does not begin with a minus sign is an unsigned one. -/
theorem numeralOfText?_of_head {cs : List Char} (h : cs.head? ≠ some '-') :
    numeralOfText? cs = unsignedOfText? false cs := by
  unfold numeralOfText?
  split
  rename_i heq
  split at heq
  · exact absurd rfl h
  · cases heq
    rfl

/-- The text of an integer is a numeral of its sign and its magnitude. -/
theorem numeralOfText?_intText (z : Int) :
    numeralOfText? (intText z) =
      some { negative := z < 0, whole := values (natText z.natAbs), fraction := none,
             exponent := none } := by
  cases z with
  | ofNat n =>
    have hpositive : decide (Int.ofNat n < 0) = false := by simp
    have hhead : (natText n).head? ≠ some '-' := by
      intro hminus
      have hdigit := isDigit_of_mem_natText (List.mem_of_mem_head? hminus)
      exact absurd hdigit (by decide)
    rw [hpositive]
    exact (numeralOfText?_of_head hhead).trans (unsignedOfText?_natText false n)
  | negSucc n =>
    have hnegative : decide (Int.negSucc n < 0) = true := decide_eq_true (Int.negSucc_lt_zero n)
    rw [hnegative]
    exact unsignedOfText?_natText true (n + 1)

/-- The JSON number of an integer. -/
theorem legible_int (z : Int) : Legible (int z) := by
  refine .number ?_
  rw [String.toList_ofList, numeralOfText?_intText]
  rfl

end Json

/-! ### Values -/

namespace Scalar

/-- Whether a value is no float. -/
def IsExact : Scalar → Prop
  | .float _ => False
  | _ => True

theorem ofNumeral?_int (n : Int64) :
    ofNumeral? { negative := n.toInt < 0, whole := values (natText n.toInt.natAbs),
                 fraction := none, exponent := none } = some (.int n) := by
  have hfits : fitsInt64 n.toInt = true := by
    have hle := n.le_toInt
    have hlt := n.toInt_lt
    simp only [fitsInt64, Bool.and_eq_true, decide_eq_true_eq]
    omega
  unfold ofNumeral?
  simp only [ofDigits_values_natText]
  have hvalue : (if n.toInt < 0 then -(n.toInt.natAbs : Int) else n.toInt.natAbs) = n.toInt := by
    split <;> omega
  have hzero : (decide (n.toInt < 0) && n.toInt == 0) = false := by
    by_cases hneg : n.toInt < 0
    · have hne : (n.toInt == 0) = false := by
        rw [beq_eq_false_iff_ne]
        omega
      rw [hne, Bool.and_false]
    · rw [decide_eq_false hneg, Bool.false_and]
  simp only [decide_eq_true_eq, hvalue, hzero, hfits]
  exact congrArg (some ∘ int) n.ofInt_toInt

theorem ofJson?_toJson {v : Scalar} (h : v.IsExact) : ofJson? v.toJson = some v := by
  cases v with
  | null | bool _ | string _ => rfl
  | int n =>
    rw [toJson, Json.int, ofJson?, String.toList_ofList, Json.numeralOfText?_intText,
      Option.bind_some, ofNumeral?_int]
  | float x => exact absurd h id

theorem legible_toJson {v : Scalar} (h : v.IsExact) : v.toJson.Legible := by
  cases v with
  | null => exact .null
  | bool b => exact .bool b
  | int n => exact Json.legible_int n.toInt
  | float x => exact absurd h id
  | string s => exact .string s

end Scalar

/-! ### Descriptors -/

namespace Descriptor

/-- Whether no value of a descriptor is a float. -/
def IsExact (d : Descriptor) : Prop := ∀ e ∈ d.values.entries, e.2.IsExact

variable {d : Descriptor}

theorem mapM_ofJson?_toJson {entries : List (String × Scalar)}
    (h : ∀ e ∈ entries, e.2.IsExact) :
    (entries.map fun e => (e.1, e.2.toJson)).mapM
      (fun f => (Scalar.ofJson? f.2).map fun v => (f.1, v)) = some entries := by
  induction entries with
  | nil => rfl
  | cons e entries ih =>
    obtain ⟨he, hentries⟩ := List.forall_mem_cons.mp h
    rw [List.map_cons, List.mapM_cons, Scalar.ofJson?_toJson he, ih hentries]
    rfl

theorem ofJson?_toJson (h : d.IsExact) : ofJson? d.toJson = some d := by
  rw [toJson, ofJson?, mapM_ofJson?_toJson h, Option.bind_eq_bind, Option.bind_some,
    KeyMap.ofList_entries]
  rfl

theorem legible_toJson (h : d.IsExact) : d.toJson.Legible := by
  refine .object ?_
  intro f hf
  obtain ⟨e, he, rfl⟩ := List.mem_map.mp hf
  exact Scalar.legible_toJson (h e he)

/-- A descriptor without floats is read back from its JSON text. -/
theorem ofText?_render (h : d.IsExact) :
    (Json.ofText? d.toJson.render).bind ofJson? = some d := by
  rw [(legible_toJson h).ofText?_render, Option.bind_some, ofJson?_toJson h]

end Descriptor

end SyncFleet
