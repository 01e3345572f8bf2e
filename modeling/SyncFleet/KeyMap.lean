/-
  SyncFleet/KeyMap.lean
  =====================
  **Finite maps from names to values, listed in the order of their names.**

  Descriptors, environments and checkpoints are listed key by key in the order
  of their texts, code point by code point.  A `KeyMap` is that list: strictly
  ascending keys, so there is one list for one map and equality of maps is
  equality of lists.
-/

namespace SyncFleet

/-- Put a value under a key in an ascending list, over the value that was there. -/
def insertEntry {α : Type} (key : String) (value : α) :
    List (String × α) → List (String × α)
  | [] => [(key, value)]
  | e :: rest =>
    if key < e.1 then (key, value) :: e :: rest
    else if key = e.1 then (key, value) :: rest
    else e :: insertEntry key value rest

/-- The keys of a list of entries ascend strictly. -/
def Ascending {α : Type} (entries : List (String × α)) : Prop :=
  (entries.map Prod.fst).Pairwise (· < ·)

theorem mem_keys_insertEntry {α : Type} {key k : String} {value : α}
    {entries : List (String × α)} (h : k ∈ (insertEntry key value entries).map Prod.fst) :
    k = key ∨ k ∈ entries.map Prod.fst := by
  induction entries with
  | nil => simpa [insertEntry] using h
  | cons e rest ih =>
    unfold insertEntry at h
    split at h
    · simpa using h
    · split at h
      · rename_i heq
        simp only [List.map_cons, List.mem_cons] at h ⊢
        rcases h with h | h
        · exact .inl h
        · exact .inr (.inr h)
      · simp only [List.map_cons, List.mem_cons] at h ⊢
        rcases h with h | h
        · exact .inr (.inl h)
        · rcases ih h with h | h
          · exact .inl h
          · exact .inr (.inr h)

theorem Ascending.insertEntry {α : Type} {entries : List (String × α)} (h : Ascending entries)
    (key : String) (value : α) : Ascending (insertEntry key value entries) := by
  induction entries with
  | nil => simp [Ascending, SyncFleet.insertEntry]
  | cons e rest ih =>
    have hrest : Ascending rest := (List.pairwise_cons.1 h).2
    have hhead : ∀ k ∈ rest.map Prod.fst, e.1 < k := (List.pairwise_cons.1 h).1
    unfold SyncFleet.insertEntry
    split
    · rename_i hlt
      refine List.pairwise_cons.2 ⟨fun k hk => ?_, h⟩
      rcases List.mem_cons.1 hk with hk | hk
      · exact hk ▸ hlt
      · exact String.lt_trans hlt (hhead k hk)
    · split
      · rename_i heq
        exact List.pairwise_cons.2 ⟨fun k hk => heq ▸ hhead k hk, hrest⟩
      · rename_i hlt hne
        refine List.pairwise_cons.2 ⟨fun k hk => ?_, ih hrest⟩
        rcases mem_keys_insertEntry hk with hk | hk
        · subst hk
          exact Std.lt_of_le_of_ne (String.not_lt.1 hlt) (Ne.symm hne)
        · exact hhead k hk

/-- A finite map from names to values, in the order of its names. -/
structure KeyMap (α : Type) where
  entries : List (String × α)
  ascending : Ascending entries
deriving DecidableEq

namespace KeyMap

variable {α : Type}

/-- The map without entries. -/
def empty : KeyMap α := ⟨[], .nil⟩

instance : Inhabited (KeyMap α) := ⟨empty⟩

/-- The map with a value under a key, over the value that was there. -/
def insert (m : KeyMap α) (key : String) (value : α) : KeyMap α :=
  ⟨insertEntry key value m.entries, m.ascending.insertEntry key value⟩

/-- The value under a key. -/
def get? (m : KeyMap α) (key : String) : Option α := m.entries.lookup key

/-- Whether a key has a value. -/
def contains (m : KeyMap α) (key : String) : Bool := (m.get? key).isSome

/-- The number of keys. -/
def size (m : KeyMap α) : Nat := m.entries.length

/-- Whether the map has no keys. -/
def isEmpty (m : KeyMap α) : Bool := m.entries.isEmpty

/-- The keys, ascending. -/
def keys (m : KeyMap α) : List String := m.entries.map Prod.fst

/-- The map of a list of entries, of which a later one wins over an earlier one of its key. -/
def ofList (entries : List (String × α)) : KeyMap α :=
  entries.foldl (fun m e => m.insert e.1 e.2) empty

/-- The same keys with the values passed through a function. -/
def map {β : Type} (f : α → β) (m : KeyMap α) : KeyMap β :=
  ⟨m.entries.map fun e => (e.1, f e.2), by
    have h := m.ascending
    simpa [Ascending, List.map_map, Function.comp_def] using h⟩

end KeyMap

end SyncFleet
