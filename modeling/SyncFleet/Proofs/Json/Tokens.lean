/-
  SyncFleet/Proofs/Json/Tokens.lean
  =================================
  **The scanner finds the tokens that the printer wrote.**

  A printed string is scanned back to its text, each escape to the character it
  stands for (`scan_quote`); a printed number or word ends where the next comma
  or bracket stands (`scan_finish`).  So the text of a value, in front of
  whatever may follow a value, is scanned into the tokens of the value
  (`Legible.scan_chars`).
-/
import SyncFleet.Json.Printer
import SyncFleet.Json.Token
import SyncFleet.Proofs.Decimal.Numeral

namespace SyncFleet.Json

open Decimal

variable {acc rest : List (Option Char)}

/-! ### Strings -/

theorem scan_closing : scan (.inString acc) (some '\x22' :: rest) =
    (scan .between rest).map (.string (textOf? acc) :: ·) := by
  rw [scan]
  cases scan .between rest <;> rfl

theorem scan_letter {e c : Char} (he : e ≠ 'u') (hc : letterEscape? e = some c) :
    scan (.inString acc) (some '\\' :: some e :: rest) = scan (.inString (some c :: acc)) rest := by
  rw [scan, hc]
  · rfl
  · exact fun _ _ _ _ _ _ heq => he heq

theorem scan_unit (a b c d : Option Char) :
    scan (.inString acc) (some '\\' :: some 'u' :: a :: b :: c :: d :: rest) =
      (unitOfHex? a b c d).bind fun n => scan (afterUnit acc n) rest := by
  rw [scan]
  rfl

theorem scan_plain {c : Char} (hquote : c ≠ '\x22') (hslash : c ≠ '\\') (hc : 0x20 ≤ c.toNat) :
    scan (.inString acc) (some c :: rest) = scan (.inString (some c :: acc)) rest := by
  have hkept : ¬(some c = some '\\' ∨ (some c).any (·.toNat < 0x20) = true) := by
    simpa [hslash] using hc
  rw [scan, if_neg hkept]
  · exact fun heq => hquote (Option.some.inj heq)
  · exact fun _ _ _ _ _ heq _ => hslash (Option.some.inj heq)
  · exact fun _ _ heq _ => hslash (Option.some.inj heq)

theorem unitOfHex?_control : ∀ n < 0x20,
    unitOfHex? (some '0') (some '0') (some (Nat.digitChar (n / 16)))
      (some (Nat.digitChar (n % 16))) = some n := by
  decide

theorem afterUnit_control : ∀ n < 0x20,
    afterUnit acc n = .inString (some (Char.ofNat n) :: acc) := by
  intro n hn
  have hhigh : isHighSurrogate n = false := by
    simp only [isHighSurrogate, Bool.and_eq_false_iff, decide_eq_false_iff_not]
    omega
  have hlow : isLowSurrogate n = false := by
    simp only [isLowSurrogate, Bool.and_eq_false_iff, decide_eq_false_iff_not]
    omega
  rw [afterUnit, hhigh, hlow]
  rfl

/-- An escaped character is scanned as that character. -/
theorem scan_escapeChar (c : Char) :
    scan (.inString acc) ((escapeChar c).map some ++ rest) =
      scan (.inString (some c :: acc)) rest := by
  rw [escapeChar]
  split
  · rename_i h
    subst h
    exact scan_letter (by decide) rfl
  rename_i hquote
  split
  · rename_i h
    subst h
    exact scan_letter (by decide) rfl
  rename_i hslash
  split
  · rename_i h
    exact scan_plain hquote hslash h
  rename_i hcontrol
  -- five control characters have a letter of their own, the others are written by number
  iterate 5
    split
    · rename_i h
      subst h
      exact scan_letter (by decide) rfl
  have hlt : c.toNat < 0x20 := Nat.not_le.mp hcontrol
  refine (scan_unit _ _ _ _).trans ?_
  rw [unitOfHex?_control _ hlt, Option.bind_some, afterUnit_control _ hlt, Char.ofNat_toNat]
  rfl

theorem scan_flatMap_escapeChar (cs : List Char) :
    scan (.inString acc) ((cs.flatMap escapeChar).map some ++ rest) =
      scan (.inString ((cs.map some).reverse ++ acc)) rest := by
  induction cs generalizing acc with
  | nil => rfl
  | cons c cs ih =>
    rw [List.flatMap_cons, List.map_append, List.append_assoc, scan_escapeChar, ih, List.map_cons,
      List.reverse_cons, List.append_assoc]
    rfl

@[simp] theorem textOf?_reverse (cs : List Char) :
    textOf? (cs.map some).reverse = some (String.ofList cs) := by
  have hall : (cs.map some).mapM id = some cs := by
    induction cs with
    | nil => rfl
    | cons c cs ih => rw [List.map_cons, List.mapM_cons, ih]; rfl
  rw [textOf?, List.reverse_reverse, hall, Option.map_some]

/-! ### Between tokens -/

/-- The places at which a character is looked at by itself. -/
def Place.IsOutside : Place → Prop
  | .between | .inNumber _ | .inWord _ => True
  | .inString _ | .inPair _ _ => False

@[simp] theorem scan_nil (p : Place) : scan p [] = p.finish? := by
  cases p <;> rw [scan]

theorem scan_outside {p : Place} (hp : p.IsOutside) (c : Char) :
    scan p (some c :: rest) =
      (outside? p c).bind fun r => (scan r.2 rest).map (r.1 ++ ·) := by
  have hbind : ∀ (r : List Token × Place) (o : Option (List Token)),
      (do return r.1 ++ (← o)) = o.map (r.1 ++ ·) := by
    intro r o
    cases o <;> rfl
  cases p with
  | between | inNumber _ | inWord _ =>
    rw [scan] <;> first | exact congrArg _ (funext fun r => hbind r _) | nofun
  | inString _ => exact absurd hp id
  | inPair _ _ => exact absurd hp id

@[simp] theorem scan_quote (s : String) :
    scan .between ((quote s).map some ++ rest) =
      (scan .between rest).map (.string (some s) :: ·) := by
  have hopen : outside? .between '\x22' = some ([], .inString []) := rfl
  rw [quote, List.map_append, List.map_cons, List.append_assoc, List.cons_append,
    scan_outside (p := .between) trivial, hopen, Option.bind_some,
    scan_flatMap_escapeChar, List.append_nil]
  refine (congrArg (Option.map _) scan_closing).trans ?_
  rw [textOf?_reverse, String.ofList_toList, Option.map_map]
  rfl

/-- What may follow a value: nothing, a comma, or the end of an array or object. -/
def Ends (rest : List (Option Char)) : Prop :=
  ∀ c ∈ rest.head?, c = some ',' ∨ c = some ']' ∨ c = some '\x7d'

/-- A comma or the end of an array or object is one token, behind those that end with it. -/
theorem outside?_of_ends {c : Char} (hc : c = ',' ∨ c = ']' ∨ c = '\x7d') :
    ∃ t, ∀ p : Place, p.IsOutside → ∀ ts, p.finish? = some ts →
      outside? p c = some (ts ++ [t], .between) := by
  obtain ⟨t, hbegin, hnumber, hword⟩ :
      ∃ t, begin? c = some ([t], .between) ∧ isNumberChar c = false ∧ c.isAlpha = false := by
    rcases hc with rfl | rfl | rfl <;> exact ⟨_, rfl, rfl, rfl⟩
  refine ⟨t, fun p hp ts h => ?_⟩
  cases p with
  | between =>
    obtain rfl : [] = ts := Option.some.inj h
    exact hbegin
  | inNumber _ =>
    rw [outside?, hnumber, hbegin, h]
    rfl
  | inWord _ =>
    rw [outside?, hword, hbegin, h]
    rfl
  | inString _ => exact absurd hp id
  | inPair _ _ => exact absurd hp id

/-- A number or a word ends where something follows that may follow a value. -/
theorem scan_finish {p : Place} (hp : p.IsOutside) {ts : List Token} (h : p.finish? = some ts)
    (hend : Ends rest) : scan p rest = (scan .between rest).map (ts ++ ·) := by
  cases rest with
  | nil =>
    rw [scan_nil, scan_nil, h]
    exact congrArg some (List.append_nil ts).symm
  | cons c rest =>
    obtain ⟨d, hd, rfl⟩ : ∃ d : Char, (d = ',' ∨ d = ']' ∨ d = '\x7d') ∧ c = some d := by
      rcases hend c rfl with rfl | rfl | rfl <;> exact ⟨_, by decide, rfl⟩
    obtain ⟨t, ht⟩ := outside?_of_ends hd
    rw [scan_outside hp, scan_outside (p := .between) trivial, ht p hp ts h,
      ht .between trivial [] rfl, Option.bind_some, Option.bind_some, Option.map_map]
    exact congrArg (Option.map · _) (funext fun us => List.append_assoc ts [t] us)

/-- Characters that continue a number or a word are scanned into it. -/
theorem scan_run (place : List Char → Place) (hplace : ∀ acc, (place acc).IsOutside)
    {cs : List Char}
    (hcs : ∀ c ∈ cs, ∀ acc, outside? (place acc) c = some ([], place (c :: acc)))
    (acc : List Char) :
    scan (place acc) (cs.map some ++ rest) = scan (place (cs.reverse ++ acc)) rest := by
  induction cs generalizing acc with
  | nil => rfl
  | cons c cs ih =>
    rw [List.map_cons, List.cons_append, scan_outside (hplace acc), hcs c List.mem_cons_self,
      Option.bind_some, ih (fun d hd => hcs d (List.mem_cons_of_mem c hd)), List.reverse_cons,
      List.append_assoc]
    exact Option.map_id'

/-! ### Numbers and words -/

/-- A number or a word is scanned into its token: the place that its first character opens takes
    in all others, and the token ends there. -/
theorem scan_token (place : List Char → Place) (hplace : ∀ acc, (place acc).IsOutside)
    {c : Char} {cs : List Char} (hopen : begin? c = some ([], place [c]))
    (hcs : ∀ d ∈ cs, ∀ acc, outside? (place acc) d = some ([], place (d :: acc))) {t : Token}
    (ht : (place (c :: cs).reverse).finish? = some [t]) (hend : Ends rest) :
    scan .between ((c :: cs).map some ++ rest) = (scan .between rest).map (t :: ·) := by
  have hbegin : outside? .between c = some ([], place [c]) := hopen
  rw [List.map_cons, List.cons_append, scan_outside (p := .between) trivial, hbegin,
    Option.bind_some, scan_run place hplace hcs, ← List.reverse_cons, scan_finish (hplace _) ht hend]
  exact Option.map_id'

theorem scan_word (c : Char) (cs : List Char) {t : Token}
    (hopen : begin? c = some ([], .inWord [c])) (hcs : cs.all Char.isAlpha = true)
    (ht : wordToken? (c :: cs) = some t) (hend : Ends rest) :
    scan .between ((c :: cs).map some ++ rest) = (scan .between rest).map (t :: ·) := by
  refine scan_token .inWord (fun _ => trivial) hopen (fun d hd acc => ?_) ?_ hend
  · rw [outside?, List.all_eq_true.mp hcs d hd]
    rfl
  · rw [Place.finish?, List.reverse_reverse, ht]
    rfl

theorem isNumberChar_of_isDigit {c : Char} (h : c.isDigit = true) : isNumberChar c = true := by
  simp only [isNumberChar, h, Bool.true_or]

theorem isNumberChar_of_exponentOfText? {cs : List Char} {e : Option Int}
    (h : exponentOfText? cs = some e) : ∀ c ∈ cs, isNumberChar c = true := by
  have hdigits : ∀ {ds : List Char} {f : Int → Option Int},
      ((natOfText? ds).bind fun n => some (n : Int)).map f = some e →
        ∀ c ∈ ds, isNumberChar c = true := by
    intro ds f hds c hc
    obtain ⟨i, hi, -⟩ := Option.map_eq_some_iff.mp hds
    obtain ⟨n, hn, -⟩ := Option.bind_eq_some_iff.mp hi
    exact isNumberChar_of_isDigit (isDigit_of_natOfText? hn c hc)
  unfold exponentOfText? at h
  split at h
  · exact fun c hc => absurd hc List.not_mem_nil
  split at h
  · rename_i c rest hc
    refine List.forall_mem_cons.mpr ⟨by rcases hc with rfl | rfl <;> rfl, ?_⟩
    split at h
    · exact List.forall_mem_cons.mpr ⟨rfl, hdigits h⟩
    · exact List.forall_mem_cons.mpr ⟨rfl, hdigits h⟩
    · exact hdigits h
  · cases h

/-- A numeral behind its sign. -/
def unsignedOfText? (negative : Bool) (cs : List Char) : Option Numeral := do
  let (whole, cs) := (cs.takeWhile Char.isDigit, cs.dropWhile Char.isDigit)
  if whole.isEmpty ∨ (whole.head? = some '0' ∧ whole.length ≠ 1) then none
  let (fraction, cs) ← match cs with
    | '.' :: r =>
      let ds := r.takeWhile Char.isDigit
      if ds.isEmpty then none else some (some ds, r.dropWhile Char.isDigit)
    | _ => some (none, cs)
  let exponent ← exponentOfText? cs
  return {
    negative
    whole := whole.filterMap digitVal?
    fraction := fraction.map (·.filterMap digitVal?)
    exponent }

/-- A numeral is an unsigned one, alone or behind a minus sign. -/
theorem unsigned_of_numeralOfText? {cs : List Char} {n : Numeral}
    (h : numeralOfText? cs = some n) :
    ∃ negative body, (cs = body ∨ cs = '-' :: body) ∧ unsignedOfText? negative body = some n := by
  unfold numeralOfText? at h
  split at h
  rename_i heq
  split at heq
  · cases heq
    exact ⟨true, _, Or.inr rfl, h⟩
  · cases heq
    exact ⟨false, _, Or.inl rfl, h⟩

/-- An unsigned numeral begins with a digit and is made of the characters of numbers. -/
theorem isNumberChar_of_unsignedOfText? {negative : Bool} {cs : List Char} {n : Numeral}
    (h : unsignedOfText? negative cs = some n) :
    (∃ c rest, cs = c :: rest ∧ c.isDigit = true) ∧ ∀ c ∈ cs, isNumberChar c = true := by
  have hdigits : ∀ {ds : List Char}, ∀ c ∈ ds.takeWhile Char.isDigit, isNumberChar c = true :=
    fun c hc => isNumberChar_of_isDigit (List.all_eq_true.mp List.all_takeWhile c hc)
  have hsplit : ∀ {ds : List Char}, (∀ c ∈ ds.dropWhile Char.isDigit, isNumberChar c = true) →
      ∀ c ∈ ds, isNumberChar c = true := by
    intro ds hrest
    rw [← List.takeWhile_append_dropWhile (p := Char.isDigit) (l := ds), List.forall_mem_append]
    exact ⟨hdigits, hrest⟩
  rw [unsignedOfText?] at h
  dsimp only at h
  split at h
  · cases h
  rename_i hwhole
  constructor
  · cases cs with
    | nil => exact absurd (Or.inl rfl) hwhole
    | cons c rest =>
      refine ⟨c, rest, rfl, Decidable.byContradiction fun hc => ?_⟩
      rw [List.takeWhile_cons_of_neg hc] at hwhole
      exact hwhole (Or.inl rfl)
  · refine hsplit ?_
    split at h
    · rename_i r heq
      split at h
      · cases h
      rw [Option.bind_eq_bind, Option.bind_some] at h
      obtain ⟨e, he, -⟩ := Option.bind_eq_some_iff.mp h
      rw [heq]
      exact List.forall_mem_cons.mpr ⟨rfl, hsplit (isNumberChar_of_exponentOfText? he)⟩
    · rw [Option.bind_eq_bind, Option.bind_some] at h
      obtain ⟨e, he, -⟩ := Option.bind_eq_some_iff.mp h
      exact isNumberChar_of_exponentOfText? he

theorem begin?_number {c : Char} (h : c.isDigit = true ∨ c = '-') :
    begin? c = some ([], .inNumber [c]) := by
  have hgap : isGap c = false ∧ c ≠ '\x22' := by
    rcases h with h | rfl
    · have hne : ∀ {d : Char}, d.isDigit = false → c ≠ d := by
        rintro _ hd rfl
        exact Bool.false_ne_true (hd.symm.trans h)
      refine ⟨?_, hne rfl⟩
      simp only [isGap, Bool.or_eq_false_iff, beq_eq_false_iff_ne]
      exact ⟨⟨⟨hne rfl, hne rfl⟩, hne rfl⟩, hne rfl⟩
    · decide
  rw [begin?, hgap.1, if_neg Bool.false_ne_true, if_neg hgap.2, if_pos h]

/-- A well-formed number is scanned into its token. -/
theorem scan_number {s : String} (h : (numeralOfText? s.toList).isSome = true)
    (hend : Ends rest) :
    scan .between (s.toList.map some ++ rest) = (scan .between rest).map (.number s :: ·) := by
  obtain ⟨n, hn⟩ := Option.isSome_iff_exists.mp h
  obtain ⟨negative, body, hbody, hunsigned⟩ := unsigned_of_numeralOfText? hn
  obtain ⟨⟨d, ds, rfl, hd⟩, hall⟩ := isNumberChar_of_unsignedOfText? hunsigned
  obtain ⟨c, cs, hcs, hc, hrest⟩ : ∃ c cs, s.toList = c :: cs ∧ (c.isDigit = true ∨ c = '-') ∧
      ∀ d ∈ cs, isNumberChar d = true := by
    rcases hbody with hbody | hbody
    · exact ⟨d, ds, hbody, Or.inl hd, (List.forall_mem_cons.mp hall).2⟩
    · exact ⟨'-', d :: ds, hbody, Or.inr rfl, hall⟩
  have htoken : (Place.inNumber (c :: cs).reverse).finish? = some [.number s] := by
    rw [Place.finish?, List.reverse_reverse, numberToken?, ← hcs, hn, Option.map_some,
      String.ofList_toList]
    rfl
  rw [hcs]
  refine scan_token .inNumber (fun _ => trivial) (begin?_number hc)
    (fun e he acc => ?_) htoken hend
  rw [outside?, hrest e he]
  rfl

/-! ### Values -/

/-- The values that have a text: no unreadable value in them, and every number spelled by the
    grammar. -/
inductive Legible : Json → Prop where
  | null : Legible .null
  | bool (b : Bool) : Legible (.bool b)
  | number {s : String} (spelled : (numeralOfText? s.toList).isSome = true) : Legible (.number s)
  | string (s : String) : Legible (.string s)
  | array {items : List Json} (each : ∀ v ∈ items, Legible v) : Legible (.array items)
  | object {fields : List (String × Json)} (each : ∀ f ∈ fields, Legible f.2) :
      Legible (.object fields)

mutual

/-- The tokens of a value. -/
def tokens : Json → List Token
  | .null => [.null]
  | .bool b => [.bool b]
  | .number s => [.number s]
  | .string s => [.string (some s)]
  | .array items => .openArray :: itemTokens items ++ [.closeArray]
  | .object fields => .openObject :: fieldTokens fields ++ [.closeObject]
  | .unreadable => [.null]

/-- The tokens of the items of an array. -/
def itemTokens : List Json → List Token
  | [] => []
  | [v] => tokens v
  | v :: w :: rest => tokens v ++ .comma :: itemTokens (w :: rest)

/-- The tokens of the fields of an object. -/
def fieldTokens : List (String × Json) → List Token
  | [] => []
  | [(k, v)] => .string (some k) :: .colon :: tokens v
  | (k, v) :: f :: rest =>
    .string (some k) :: .colon :: tokens v ++ .comma :: fieldTokens (f :: rest)

end

/-- The text of a value is scanned into its tokens, whatever may follow. -/
def Scanned (v : Json) : Prop :=
  ∀ {rest : List (Option Char)}, Ends rest →
    scan .between (v.chars.map some ++ rest) = (scan .between rest).map (v.tokens ++ ·)

theorem scan_punctuation {c : Char} {t : Token} (h : begin? c = some ([t], .between)) :
    scan .between (some c :: rest) = (scan .between rest).map (t :: ·) := by
  have houtside : outside? .between c = some ([t], .between) := h
  rw [scan_outside (p := .between) trivial, houtside]
  rfl

theorem ends_nil : Ends [] := fun _ h => nomatch h

theorem ends_comma : Ends (some ',' :: rest) := fun _ h => Or.inl (Option.some.inj h).symm

theorem ends_closeArray : Ends (some ']' :: rest) :=
  fun _ h => Or.inr (Or.inl (Option.some.inj h).symm)

theorem ends_closeObject : Ends (some '\x7d' :: rest) :=
  fun _ h => Or.inr (Or.inr (Option.some.inj h).symm)

theorem scan_itemChars {items : List Json} (each : ∀ v ∈ items, Scanned v) (hend : Ends rest) :
    scan .between ((itemChars items).map some ++ rest) =
      (scan .between rest).map (itemTokens items ++ ·) := by
  induction items with
  | nil => exact Option.map_id'.symm
  | cons v items ih =>
    obtain ⟨hv, hrest⟩ := List.forall_mem_cons.mp each
    cases items with
    | nil => exact hv hend
    | cons w rest =>
      rw [itemChars, List.map_append, List.append_assoc, List.map_cons, List.cons_append,
        hv ends_comma, scan_punctuation (c := ',') rfl, ih hrest, Option.map_map, Option.map_map]
      refine congrArg (Option.map · _) (funext fun ts => ?_)
      simp only [Function.comp_apply, itemTokens, List.append_assoc, List.cons_append]

theorem scan_field {k : String} {v : Json} (hv : Scanned v) (hend : Ends rest) :
    scan .between ((quote k ++ ':' :: chars v).map some ++ rest) =
      (scan .between rest).map ((.string (some k) :: .colon :: tokens v) ++ ·) := by
  rw [List.map_append, List.append_assoc, List.map_cons, List.cons_append, scan_quote,
    scan_punctuation (c := ':') rfl, hv hend, Option.map_map, Option.map_map]
  rfl

theorem scan_fieldChars {fields : List (String × Json)} (each : ∀ f ∈ fields, Scanned f.2)
    (hend : Ends rest) :
    scan .between ((fieldChars fields).map some ++ rest) =
      (scan .between rest).map (fieldTokens fields ++ ·) := by
  induction fields with
  | nil => exact Option.map_id'.symm
  | cons f fields ih =>
    obtain ⟨k, v⟩ := f
    obtain ⟨hv, hrest⟩ := List.forall_mem_cons.mp each
    cases fields with
    | nil => exact scan_field hv hend
    | cons g rest =>
      rw [fieldChars, List.map_append, List.append_assoc, List.map_cons, List.cons_append,
        scan_field hv ends_comma, scan_punctuation (c := ',') rfl, ih hrest, Option.map_map,
        Option.map_map]
      refine congrArg (Option.map · _) (funext fun ts => ?_)
      simp only [Function.comp_apply, fieldTokens, List.append_assoc, List.cons_append]

/-- The text of a legible value is scanned into the tokens of the value. -/
theorem Legible.scan_chars {v : Json} (h : Legible v) : Scanned v := by
  intro rest hend
  induction h generalizing rest with
  | null => exact scan_word 'n' ['u', 'l', 'l'] rfl rfl rfl hend
  | bool b =>
    cases b with
    | true => exact scan_word 't' ['r', 'u', 'e'] rfl rfl rfl hend
    | false => exact scan_word 'f' ['a', 'l', 's', 'e'] rfl rfl rfl hend
  | number spelled => exact scan_number spelled hend
  | string s => exact scan_quote s
  | array each ih =>
    rw [chars, List.map_append, List.append_assoc, List.map_cons, List.cons_append,
      scan_punctuation (c := '[') rfl]
    refine (congrArg (Option.map _) (scan_itemChars ih ends_closeArray)).trans ?_
    rw [scan_punctuation (c := ']') rfl, Option.map_map, Option.map_map]
    refine congrArg (Option.map · _) (funext fun ts => ?_)
    simp only [Function.comp_apply, tokens, List.append_assoc, List.cons_append, List.nil_append]
  | object each ih =>
    rw [chars, List.map_append, List.append_assoc, List.map_cons, List.cons_append,
      scan_punctuation (c := '\x7b') rfl]
    refine (congrArg (Option.map _) (scan_fieldChars ih ends_closeObject)).trans ?_
    rw [scan_punctuation (c := '\x7d') rfl, Option.map_map, Option.map_map]
    refine congrArg (Option.map · _) (funext fun ts => ?_)
    simp only [Function.comp_apply, tokens, List.append_assoc, List.cons_append, List.nil_append]

end SyncFleet.Json
