/-
  SyncFleet/Proofs/KeyMap.lean
  ============================
  **Looking up what was put into a map.**

  A map answers with the value that was put in last under a key
  (`KeyMap.get?_insert`), so the map of a list whose keys are distinct answers
  with the entries of the list (`KeyMap.get?_ofList`), its keys are the keys of
  the list (`KeyMap.keys_ofList_perm`), and its entries those of the list
  (`KeyMap.mem_entries_ofList_iff`).  The map of its own entries is the map
  itself (`KeyMap.ofList_entries`).
-/
import SyncFleet.KeyMap

namespace SyncFleet

variable {α : Type}

theorem lookup_cons_eq_ite (key k : String) (value : α) (entries : List (String × α)) :
    ((key, value) :: entries).lookup k = if k = key then some value else entries.lookup k := by
  by_cases hk : k = key
  · rw [if_pos hk, hk, List.lookup_cons_self]
  · rw [if_neg hk, List.lookup_cons, beq_false_of_ne hk]

theorem lookup_insertEntry (key k : String) (value : α) (entries : List (String × α)) :
    (insertEntry key value entries).lookup k =
      if k = key then some value else entries.lookup k := by
  induction entries with
  | nil => exact lookup_cons_eq_ite key k value []
  | cons e rest ih =>
    unfold insertEntry
    split
    · exact lookup_cons_eq_ite key k value (e :: rest)
    · split
      · rename_i heq
        rw [lookup_cons_eq_ite, lookup_cons_eq_ite, ← heq]
        by_cases hk : k = key
        · rw [if_pos hk, if_pos hk]
        · rw [if_neg hk, if_neg hk, if_neg hk]
      · rename_i hne
        rw [lookup_cons_eq_ite, lookup_cons_eq_ite, ih]
        by_cases hk : k = e.1
        · rw [if_pos hk, if_pos hk, if_neg fun heq : k = key => hne (heq.symm.trans hk)]
        · rw [if_neg hk, if_neg hk]

namespace KeyMap

@[simp] theorem get?_insert (m : KeyMap α) (key k : String) (value : α) :
    (m.insert key value).get? k = if k = key then some value else m.get? k :=
  lookup_insertEntry key k value m.entries

/-- Entries of other keys do not change what a map answers. -/
theorem get?_foldl_insert {k : String} {l : List (String × α)} (h : k ∉ l.map Prod.fst)
    (m : KeyMap α) : (l.foldl (fun m e => m.insert e.1 e.2) m).get? k = m.get? k := by
  induction l generalizing m with
  | nil => rfl
  | cons e rest ih =>
    rw [List.map_cons, List.mem_cons, not_or] at h
    rw [List.foldl_cons, ih h.2, get?_insert, if_neg h.1]

/-- The map of a list with distinct keys has the entries of the list. -/
theorem get?_ofList {k : String} {v : α} {l : List (String × α)}
    (hnodup : (l.map Prod.fst).Nodup) (h : (k, v) ∈ l) : (ofList l).get? k = some v := by
  obtain ⟨pre, post, rfl⟩ := List.append_of_mem h
  have hpost : k ∉ post.map Prod.fst := by
    rw [List.map_append, List.map_cons] at hnodup
    exact (List.nodup_cons.mp (List.nodup_append.mp hnodup).2.1).1
  rw [ofList, List.foldl_append, List.foldl_cons, get?_foldl_insert hpost, get?_insert, if_pos rfl]

/-! ### Keys -/

theorem mem_keys_insertEntry_iff {key k : String} {value : α} {entries : List (String × α)} :
    k ∈ (insertEntry key value entries).map Prod.fst ↔ k = key ∨ k ∈ entries.map Prod.fst := by
  refine ⟨mem_keys_insertEntry, fun h => ?_⟩
  induction entries with
  | nil => simpa [insertEntry] using h
  | cons e rest ih =>
    rw [List.map_cons, List.mem_cons] at h
    unfold insertEntry
    split
    · rwa [List.map_cons, List.map_cons, List.mem_cons, List.mem_cons]
    · split
      · rename_i heq
        rw [List.map_cons, List.mem_cons]
        rcases h with h | h | h
        · exact Or.inl h
        · exact Or.inl (h.trans heq.symm)
        · exact Or.inr h
      · rw [List.map_cons, List.mem_cons]
        rcases h with h | h | h
        · exact Or.inr (ih (Or.inl h))
        · exact Or.inl h
        · exact Or.inr (ih (Or.inr h))

theorem mem_keys_insert {m : KeyMap α} {key k : String} {value : α} :
    k ∈ (m.insert key value).keys ↔ k = key ∨ k ∈ m.keys := mem_keys_insertEntry_iff

theorem mem_keys_foldl_insert {k : String} {l : List (String × α)} {m : KeyMap α} :
    k ∈ (l.foldl (fun m e => m.insert e.1 e.2) m).keys ↔ k ∈ m.keys ∨ k ∈ l.map Prod.fst := by
  induction l generalizing m with
  | nil => simp
  | cons e rest ih =>
    rw [List.foldl_cons, ih, mem_keys_insert, List.map_cons, List.mem_cons, or_assoc, or_left_comm]

/-- No key occurs twice in a map. -/
theorem keys_nodup (m : KeyMap α) : m.keys.Nodup := by
  refine List.Pairwise.imp ?_ m.ascending
  rintro a _ hlt rfl
  exact String.lt_irrefl a hlt

/-- The map of a list with distinct keys has the keys of the list. -/
theorem keys_ofList_perm {l : List (String × α)} (hnodup : (l.map Prod.fst).Nodup) :
    (ofList l).keys.Perm (l.map Prod.fst) := by
  refine (List.perm_ext_iff_of_nodup (keys_nodup _) hnodup).mpr fun k => ?_
  rw [ofList, mem_keys_foldl_insert]
  exact or_iff_right List.not_mem_nil

/-! ### Entries -/

/-- A key behind all others is put at the end. -/
theorem insertEntry_of_lt {key : String} {entries : List (String × α)}
    (h : ∀ k ∈ entries.map Prod.fst, k < key) (value : α) :
    insertEntry key value entries = entries ++ [(key, value)] := by
  induction entries with
  | nil => rfl
  | cons e entries ih =>
    obtain ⟨he, hrest⟩ := List.forall_mem_cons.mp h
    rw [insertEntry, if_neg (String.lt_asymm he), if_neg (fun heq => ?_), ih hrest]
    · rfl
    · exact String.lt_irrefl key (heq ▸ he)

theorem entries_foldl_insert {l : List (String × α)} {m : KeyMap α}
    (h : Ascending (m.entries ++ l)) :
    (l.foldl (fun m e => m.insert e.1 e.2) m).entries = m.entries ++ l := by
  induction l generalizing m with
  | nil => exact (List.append_nil _).symm
  | cons e l ih =>
    have hlast : (m.insert e.1 e.2).entries = m.entries ++ [e] := by
      refine insertEntry_of_lt (fun k hk => ?_) e.2
      rw [Ascending, List.map_append, List.pairwise_append] at h
      exact h.2.2 k hk e.1 List.mem_cons_self
    rw [List.foldl_cons, ih, hlast, List.append_assoc, List.singleton_append]
    rwa [hlast, List.append_assoc, List.singleton_append]

/-- A map is made again from its entries. -/
@[simp] theorem ofList_entries (m : KeyMap α) : ofList m.entries = m := by
  have h : (ofList m.entries).entries = m.entries := entries_foldl_insert m.ascending
  generalize ofList m.entries = made at h
  cases made
  cases m
  exact (KeyMap.mk.injEq ..).mpr h

theorem get?_eq_some_iff {m : KeyMap α} {k : String} {v : α} :
    m.get? k = some v ↔ (k, v) ∈ m.entries := by
  constructor
  · intro h
    obtain ⟨pre, post, hentries, _⟩ := List.lookup_eq_some_iff.mp h
    rw [hentries]
    exact List.mem_append_right _ List.mem_cons_self
  · intro h
    rw [← ofList_entries m]
    exact get?_ofList m.keys_nodup h

/-- The map of a list with distinct keys has the entries of the list. -/
theorem mem_entries_ofList_iff {l : List (String × α)} (hnodup : (l.map Prod.fst).Nodup)
    {k : String} {v : α} : (k, v) ∈ (ofList l).entries ↔ (k, v) ∈ l := by
  rw [← get?_eq_some_iff]
  constructor
  · intro h
    have hkey : k ∈ (ofList l).keys := List.mem_map.mpr ⟨_, get?_eq_some_iff.mp h, rfl⟩
    obtain ⟨⟨k', v'⟩, hmem, rfl⟩ :=
      List.mem_map.mp ((keys_ofList_perm hnodup).mem_iff.mp hkey)
    rw [get?_ofList hnodup hmem] at h
    exact Option.some.inj h ▸ hmem
  · exact get?_ofList hnodup

end KeyMap

end SyncFleet
