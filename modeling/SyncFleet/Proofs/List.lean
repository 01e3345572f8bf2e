/-
  SyncFleet/Proofs/List.lean
  ==========================
  **General facts about lists.**

  What stands in a list to which an element has been added at its end, what is
  found under a key, how counts compare, and what pairs of lists have in common
  whose items are related one by one.
-/
import Mathlib.Data.List.Basic
import Mathlib.Data.List.Forall2
import Mathlib.Data.List.Nodup

namespace SyncFleet

variable {α β : Type}

/-! ### One more element -/

theorem filterMap_append_singleton (f : α → Option β) (l : List α) (a : α) :
    (l ++ [a]).filterMap f = l.filterMap f ++ (f a).toList := by
  rw [List.filterMap_append]
  cases ha : f a <;> simp [ha]

/-- What stands in a list with one more element is an old element, or the new one at its place. -/
theorem getElem?_snoc_cases {l : List α} {x y : α} {k : Nat} (h : (l ++ [x])[k]? = some y) :
    l[k]? = some y ∨ (k = l.length ∧ y = x) := by
  by_cases hold : k < l.length
  · rw [List.getElem?_append_left hold] at h
    exact Or.inl h
  · have hlt := (List.getElem?_eq_some_iff.mp h).1
    rw [List.length_append, List.length_singleton] at hlt
    have hk : k = l.length := by omega
    rw [hk, List.getElem?_append_right (Nat.le_refl _), Nat.sub_self] at h
    exact Or.inr ⟨hk, (Option.some.inj h).symm⟩

theorem getElem?_snoc_of_some {l : List α} {x y : α} {k : Nat} (h : l[k]? = some y) :
    (l ++ [x])[k]? = some y := by
  rw [List.getElem?_append_left (List.getElem?_eq_some_iff.mp h).1, h]

/-! ### Keys -/

section Keys

variable [BEq α] [LawfulBEq α] {l : List (α × β)} {key : α} {value : β}

@[simp] theorem lookup_filter (l : List (α × β)) (r s : α) [Decidable (s = r)] :
    (l.filter (·.1 != r)).lookup s = if s = r then none else l.lookup s := by
  induction l with
  | nil => rw [List.filter_nil, List.lookup_nil, ite_self]
  | cons e l ih =>
    obtain ⟨t, e⟩ := e
    by_cases ht : t = r
    · rw [List.filter_cons_of_neg (by simpa using ht), ih, List.lookup_cons]
      by_cases hs : s = r
      · rw [if_pos hs, if_pos hs]
      · rw [if_neg hs, if_neg hs, beq_false_of_ne fun heq => hs (heq.trans ht)]
    · rw [List.filter_cons_of_pos (by simpa using ht), List.lookup_cons, List.lookup_cons, ih]
      by_cases hs : s = r
      · rw [if_pos hs, if_pos hs, beq_false_of_ne fun heq => ht (heq.symm.trans hs)]
      · rw [if_neg hs, if_neg hs]

theorem lookup_eq_some_iff_mem (hnodup : (l.map Prod.fst).Nodup) :
    l.lookup key = some value ↔ (key, value) ∈ l := by
  rw [List.lookup_eq_some_iff]
  constructor
  · rintro ⟨before, after, rfl, -⟩
    exact List.mem_append_right _ List.mem_cons_self
  · intro hmem
    obtain ⟨before, after, rfl⟩ := List.append_of_mem hmem
    refine ⟨before, after, rfl, fun e he => ?_⟩
    rw [List.map_append, List.nodup_append] at hnodup
    rw [bne_iff_ne, ne_comm]
    exact hnodup.2.2 _ (List.mem_map_of_mem he) _ (List.mem_map_of_mem List.mem_cons_self)

end Keys

/-- The entry of a key is found where no two entries have one key. -/
theorem find?_of_nodup (key : α → String) {l : List α} {x : α} (hnodup : (l.map key).Nodup)
    (hx : x ∈ l) : l.find? (fun y => key y == key x) = some x := by
  obtain ⟨pre, post, rfl⟩ := List.append_of_mem hx
  rw [List.map_append, List.nodup_append] at hnodup
  have hpre : ∀ y ∈ pre, ¬ (key y == key x) = true := fun y hy hkey =>
    hnodup.2.2 (key y) (List.mem_map_of_mem hy) (key x) (by simp) (eq_of_beq hkey)
  rw [List.find?_append, List.find?_eq_none.mpr hpre, Option.none_or,
    List.find?_cons_of_pos (by simp)]

/-! ### Counts -/

/-- Counting along a list is counting its places. -/
theorem countP_eq_countP_range (p : α → Bool) (l : List α) :
    l.countP p = (List.range l.length).countP fun i => (l[i]?).any p := by
  induction l with
  | nil => rfl
  | cons a l ih =>
    rw [List.length_cons, List.range_succ_eq_map, List.countP_cons, List.countP_cons, ih,
      List.countP_map]
    simp [Function.comp_def]

/-- What two conditions that exclude each other select is at most what follows from both. -/
theorem countP_add_countP_le {p q r : α → Bool} {l : List α}
    (hp : ∀ x, p x = true → r x = true ∧ q x = false) (hq : ∀ x, q x = true → r x = true) :
    l.countP p + l.countP q ≤ l.countP r := by
  induction l with
  | nil => exact Nat.le_refl 0
  | cons x l ih =>
    rw [List.countP_cons, List.countP_cons, List.countP_cons]
    cases hpx : p x with
    | true =>
      obtain ⟨hrx, hqx⟩ := hp x hpx
      simp only [hrx, hqx, Bool.false_eq_true, if_true, if_false]
      omega
    | false =>
      cases hqx : q x with
      | true =>
        simp only [hq x hqx, Bool.false_eq_true, if_true, if_false]
        omega
      | false =>
        simp only [Bool.false_eq_true, if_false]
        omega

/-! ### Pairs of items -/

section Pairs

variable {R : α → β → Prop} {l : List α} {bs : List β}

theorem exists_left_of_mem (h : List.Forall₂ R l bs) {b : β} (hb : b ∈ bs) :
    ∃ a ∈ l, R a b := by
  induction h with
  | nil => cases hb
  | cons hr _ ih =>
    rcases List.mem_cons.mp hb with rfl | hb
    · exact ⟨_, List.mem_cons_self, hr⟩
    · obtain ⟨a, ha, hr⟩ := ih hb
      exact ⟨a, List.mem_cons_of_mem _ ha, hr⟩

theorem exists_right_of_mem (h : List.Forall₂ R l bs) {a : α} (ha : a ∈ l) :
    ∃ b ∈ bs, R a b := by
  obtain ⟨b, hb, hr⟩ := exists_left_of_mem h.flip ha
  exact ⟨b, hb, hr⟩

end Pairs

end SyncFleet
