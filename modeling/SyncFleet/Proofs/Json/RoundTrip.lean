/-
  SyncFleet/Proofs/Json/RoundTrip.lean
  ====================================
  **Reading back the text of a value.**

  The reader takes the tokens of a value for that value, wherever a value is
  awaited and whatever is still open around it (`Legible.read_tokens`).  With
  what the scanner finds, every legible value is read back from its text
  (`Legible.ofText?_render`), so two legible values never have one text.
-/
import SyncFleet.Json.Reader
import SyncFleet.Proofs.Json.Tokens

namespace SyncFleet.Json

variable {stack : List Frame} {rest : List Token}

theorem readAll?_cons (awaited : Awaited) (t : Token) :
    readAll? stack awaited (t :: rest) =
      (read? stack awaited t).bind fun r => readAll? r.1 r.2 rest := by
  rw [readAll?]
  · cases read? stack awaited t <;> rfl

theorem readAll?_step {stack' : List Frame} {awaited awaited' : Awaited} {t : Token}
    (h : read? stack awaited t = some (stack', awaited')) :
    readAll? stack awaited (t :: rest) = readAll? stack' awaited' rest := by
  rw [readAll?_cons, h, Option.bind_some]

/-- Whether a value may stand next. -/
def Awaited.TakesValue : Awaited → Prop
  | .value | .firstItem => True
  | _ => False

theorem takesValue_value : Awaited.TakesValue .value := trivial

/-- The tokens of a value are read as that value wherever one may stand. -/
def Reads (v : Json) : Prop :=
  ∀ {stack : List Frame} {awaited : Awaited} {rest : List Token}, awaited.TakesValue →
    readAll? stack awaited (v.tokens ++ rest) = readAll? stack (.more v) rest

/-- A token that begins a value is read alike wherever a value may stand. -/
theorem readAll?_begin {awaited next : Awaited} {stack' : List Frame} {t : Token}
    (hawaited : awaited.TakesValue) (h : read? stack .value t = some (stack', next))
    (hfirst : read? stack .firstItem t = some (stack', next)) :
    readAll? stack awaited (t :: rest) = readAll? stack' next rest := by
  cases awaited with
  | value => exact readAll?_step h
  | firstItem => exact readAll?_step hfirst
  | key _ | firstKey | colon _ _ | more _ => exact absurd hawaited id

/-! ### Arrays -/

theorem read_items {v : Json} {items : List Json} (each : ∀ w ∈ v :: items, Reads w)
    {reversed : List Json} {awaited : Awaited} (hawaited : awaited.TakesValue) :
    readAll? (.items reversed :: stack) awaited
        (itemTokens (v :: items) ++ .closeArray :: rest) =
      readAll? stack (.more (.array (reversed.reverse ++ v :: items))) rest := by
  induction items generalizing v reversed awaited with
  | nil =>
    rw [itemTokens, each v List.mem_cons_self hawaited]
    refine (readAll?_step rfl).trans ?_
    rw [List.reverse_cons]
  | cons w items ih =>
    obtain ⟨hv, hitems⟩ := List.forall_mem_cons.mp each
    rw [itemTokens, List.append_assoc, List.cons_append, hv hawaited]
    refine (readAll?_step rfl).trans ((ih hitems takesValue_value).trans ?_)
    rw [List.reverse_cons, List.append_assoc, List.singleton_append]

/-! ### Objects -/

/-- Whether a key may stand next, behind the given fields in reverse order. -/
def Awaited.TakesKey (reversed : List (Option String × Json)) : Awaited → Prop
  | .key fields => fields = reversed
  | .firstKey => reversed = []
  | _ => False

theorem read_key {reversed : List (Option String × Json)} {awaited : Awaited}
    (hawaited : awaited.TakesKey reversed) {k : String} {v : Json} (hv : Reads v) :
    readAll? stack awaited (.string (some k) :: .colon :: v.tokens ++ rest) =
      readAll? (.fields reversed (some k) :: stack) (.more v) rest := by
  have hkey : read? stack awaited (.string (some k)) = some (stack, .colon reversed (some k)) := by
    cases awaited with
    | key fields => exact hawaited ▸ rfl
    | firstKey =>
      obtain rfl : reversed = [] := hawaited
      rfl
    | value | firstItem | colon _ _ | more _ => exact absurd hawaited id
  rw [List.cons_append, readAll?_step hkey]
  exact (readAll?_step rfl).trans (hv takesValue_value)

/-- Fields as the reader keeps them. -/
def keyed (fields : List (String × Json)) : List (Option String × Json) :=
  fields.map fun f => (some f.1, f.2)

theorem objectOf_reverse_keyed (fields : List (String × Json)) :
    objectOf (keyed fields).reverse = .object fields := by
  have hall : ((keyed fields).mapM fun f => f.1.map fun k => (k, f.2)) = some fields := by
    induction fields with
    | nil => rfl
    | cons f fields ih =>
      rw [keyed, List.map_cons, List.mapM_cons, ← keyed, ih]
      rfl
  rw [objectOf, List.reverse_reverse, hall]

theorem read_fields {f : String × Json} {fields : List (String × Json)}
    (each : ∀ g ∈ f :: fields, Reads g.2) {reversed : List (Option String × Json)}
    {awaited : Awaited} (hawaited : awaited.TakesKey reversed) :
    readAll? stack awaited (fieldTokens (f :: fields) ++ .closeObject :: rest) =
      readAll? stack (.more (objectOf ((keyed (f :: fields)).reverse ++ reversed))) rest := by
  induction fields generalizing f reversed awaited with
  | nil =>
    obtain ⟨k, v⟩ := f
    rw [fieldTokens, read_key hawaited (each _ List.mem_cons_self)]
    exact readAll?_step rfl
  | cons g fields ih =>
    obtain ⟨k, v⟩ := f
    obtain ⟨hv, hfields⟩ := List.forall_mem_cons.mp each
    have htail : Awaited.TakesKey ((some k, v) :: reversed) (.key ((some k, v) :: reversed)) := rfl
    rw [fieldTokens, List.append_assoc, List.cons_append]
    refine (read_key hawaited hv).trans ((readAll?_step rfl).trans ((ih hfields htail).trans ?_))
    simp only [keyed, List.map_cons, List.reverse_cons, List.append_assoc, List.cons_append,
      List.nil_append]

/-! ### Values -/

/-- The tokens of a legible value are read as that value. -/
theorem Legible.read_tokens {v : Json} (h : Legible v) : Reads v := by
  induction h with
  | null | bool _ | number _ | string _ => exact fun hawaited => readAll?_begin hawaited rfl rfl
  | array each ih =>
    rename_i items
    intro stack awaited rest hawaited
    rw [tokens, List.append_assoc, List.cons_append, List.singleton_append]
    refine (readAll?_begin hawaited rfl rfl).trans ?_
    cases items with
    | nil => exact readAll?_step rfl
    | cons v items => exact read_items ih trivial
  | object each ih =>
    rename_i fields
    intro stack awaited rest hawaited
    rw [tokens, List.append_assoc, List.cons_append, List.singleton_append]
    refine (readAll?_begin hawaited rfl rfl).trans ?_
    cases fields with
    | nil => exact readAll?_step rfl
    | cons f fields =>
      have hfirst : Awaited.TakesKey [] .firstKey := rfl
      rw [read_fields ih hfirst, List.append_nil, objectOf_reverse_keyed]

/-- Every legible value is read back from its text. -/
theorem Legible.ofText?_render {v : Json} (h : Legible v) : ofText? v.render = some v := by
  have htokens : tokens? (v.chars.map some) = some v.tokens := by
    have hscan := h.scan_chars ends_nil
    rw [List.append_nil, scan_nil] at hscan
    rw [tokens?, hscan]
    exact congrArg some (List.append_nil _)
  rw [ofText?, render, String.toList_ofList, ofChars?, htokens]
  have hread : readAll? [] .value (v.tokens ++ []) = readAll? [] (.more v) [] :=
    h.read_tokens takesValue_value
  rw [List.append_nil] at hread
  exact hread

end SyncFleet.Json
