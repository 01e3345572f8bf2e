/-
  SyncFleet/OutputBuffer.lean
  ===========================
  **A window over the newest entries of a stream.**

  A buffer keeps the last entries pushed into it, oldest first, and never more
  than its capacity; capacity zero keeps nothing.  The bound is part of the
  type.
-/

namespace SyncFleet

/-- The newest entries of a stream, oldest first, at most `capacity` of them. -/
structure OutputBuffer where
  capacity : Nat
  entries : List String
  bounded : entries.length ≤ capacity
deriving DecidableEq

namespace OutputBuffer

/-- The capacity of the buffers that a job keeps for its two output streams. -/
def jobCapacity : Nat := 20

/-- A buffer without entries. -/
def empty (capacity : Nat) : OutputBuffer := ⟨capacity, [], Nat.zero_le _⟩

/-- The entries that are left when the oldest ones go until there are not too many. -/
def evict (capacity : Nat) : List String → List String
  | [] => []
  | oldest :: newer =>
    if capacity < (oldest :: newer).length then evict capacity newer else oldest :: newer

theorem evict_eq_drop (capacity : Nat) (entries : List String) :
    evict capacity entries = entries.drop (entries.length - capacity) := by
  induction entries with
  | nil => rw [evict, List.drop_nil]
  | cons oldest newer ih =>
    rw [evict]
    split
    · rename_i hmany
      rw [List.length_cons] at hmany ⊢
      rw [ih, Nat.sub_add_comm (Nat.le_of_lt_succ hmany), List.drop_succ_cons]
    · rename_i hfits
      rw [Nat.sub_eq_zero_of_le (Nat.not_lt.mp hfits), List.drop_zero]

theorem length_evict_le (capacity : Nat) (entries : List String) :
    (evict capacity entries).length ≤ capacity := by
  rw [evict_eq_drop, List.length_drop]
  omega

/-- Append an entry; when there are too many, the oldest ones go.  A buffer without capacity is
    left as it is. -/
def push (b : OutputBuffer) (entry : String) : OutputBuffer :=
  if b.capacity = 0 then b
  else ⟨b.capacity, evict b.capacity (b.entries ++ [entry]), length_evict_le _ _⟩

/-- The buffer after pushing the entries one by one, the first one first (`from_entries`). -/
def ofList (entries : List String) (capacity : Nat) : OutputBuffer :=
  entries.foldl push (empty capacity)

/-- The number of entries. -/
def size (b : OutputBuffer) : Nat := b.entries.length

/-! ### What a buffer holds of a stream -/

/-- Whether the entries are the newest ones of a stream, as many of them as the capacity admits. -/
def Holds (b : OutputBuffer) (stream : List String) : Prop :=
  b.entries = stream.drop (stream.length - b.capacity)

theorem holds_empty (capacity : Nat) : (empty capacity).Holds [] := List.drop_nil.symm

@[simp] theorem capacity_push (b : OutputBuffer) (entry : String) :
    (b.push entry).capacity = b.capacity := by
  rw [push]
  split <;> rfl

/-- A buffer without capacity has no entries, so that the general rule holds of it as well. -/
theorem entries_push (b : OutputBuffer) (entry : String) :
    (b.push entry).entries = (b.entries ++ [entry]).drop (b.entries.length + 1 - b.capacity) := by
  have hbounded := b.bounded
  rw [push]
  split
  · rename_i hzero
    have hempty : b.entries = [] := List.eq_nil_of_length_eq_zero (by omega)
    rw [hempty, hzero]
    rfl
  · show evict b.capacity (b.entries ++ [entry]) = _
    rw [evict_eq_drop, List.length_append, List.length_singleton]

/-- What is pushed is the newest entry of the stream from then on. -/
theorem Holds.push {b : OutputBuffer} {stream : List String} (h : b.Holds stream)
    (entry : String) : (b.push entry).Holds (stream ++ [entry]) := by
  have hlength : b.entries.length = stream.length - (stream.length - b.capacity) := by
    rw [h, List.length_drop]
  have hdropped : stream.length - b.capacity + (b.entries.length + 1 - b.capacity) =
      (stream ++ [entry]).length - b.capacity := by
    rw [hlength, List.length_append, List.length_singleton]
    omega
  calc
    (b.push entry).entries = (b.entries ++ [entry]).drop (b.entries.length + 1 - b.capacity) :=
      b.entries_push entry
    _ = ((stream ++ [entry]).drop (stream.length - b.capacity)).drop
        (b.entries.length + 1 - b.capacity) := by
      rw [List.drop_append_of_le_length (Nat.sub_le _ _), ← h]
    _ = (stream ++ [entry]).drop ((stream ++ [entry]).length - (b.push entry).capacity) := by
      rw [List.drop_drop, hdropped, capacity_push]

end OutputBuffer

end SyncFleet
