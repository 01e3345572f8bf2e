/-
  SyncFleet/Proofs/OutputBuffer.lean
  ==================================
  **A buffer is a window over the end of a stream.**

  One push keeps the newest entries of a stream that has one entry more
  (`Holds.push`), so a buffer that began without entries holds the newest ones
  of all that was pushed (`holds_foldl_push`).  Without capacity nothing is ever
  pushed, and no entries are the newest none of any stream.
-/
import SyncFleet.OutputBuffer

namespace SyncFleet.OutputBuffer

variable {b : OutputBuffer} {stream : List String}

/-! ### Runs of pushes -/

@[simp] theorem capacity_foldl_push (entries : List String) (b : OutputBuffer) :
    (entries.foldl push b).capacity = b.capacity := by
  induction entries generalizing b with
  | nil => rfl
  | cons entry rest ih => rw [List.foldl_cons, ih, capacity_push]

theorem Holds.foldl_push (h : b.Holds stream) (entries : List String) :
    (entries.foldl OutputBuffer.push b).Holds (stream ++ entries) := by
  induction entries generalizing b stream with
  | nil => rwa [List.append_nil]
  | cons entry rest ih =>
    rw [List.append_cons]
    exact ih (h.push entry)

theorem holds_foldl_push (capacity : Nat) (stream : List String) :
    (stream.foldl push (empty capacity)).Holds stream :=
  (holds_empty capacity).foldl_push stream

/-! ### The window -/

theorem Holds.isSuffix (h : b.Holds stream) : b.entries <:+ stream := by
  rw [h]
  exact List.drop_suffix _ _

theorem Holds.size_eq (h : b.Holds stream) : b.size = min b.capacity stream.length := by
  rw [size, h, List.length_drop]
  omega

@[simp] theorem size_foldl_push (capacity : Nat) (stream : List String) :
    (stream.foldl push (empty capacity)).size = min capacity stream.length := by
  rw [(holds_foldl_push capacity stream).size_eq, capacity_foldl_push]
  rfl

/-- A buffer that is seeded with entries is one into which they were pushed before all others. -/
theorem foldl_push_ofList (capacity : Nat) (seed pushed : List String) :
    pushed.foldl push (ofList seed capacity) = (seed ++ pushed).foldl push (empty capacity) := by
  rw [ofList, List.foldl_append]

/-- **The newest window.**  A buffer that was seeded and then pushed into is one into which the seed
    was pushed as well.  It has the last entries of all these in their order, as many as there are
    and the capacity admits.  It is so at any time in between, for what has been pushed until then:
    there are never more entries than the capacity, which stays what it was. -/
theorem ofList_window (capacity : Nat) (seed pushed : List String) :
    pushed.foldl push (ofList seed capacity) = (seed ++ pushed).foldl push (empty capacity) ∧
      (pushed.foldl push (ofList seed capacity)).entries <:+ seed ++ pushed ∧
      (pushed.foldl push (ofList seed capacity)).size = min capacity (seed ++ pushed).length ∧
      ∀ k, (((seed ++ pushed).take k).foldl push (empty capacity)).entries <:+
            (seed ++ pushed).take k ∧
        (((seed ++ pushed).take k).foldl push (empty capacity)).size =
            min capacity ((seed ++ pushed).take k).length ∧
        (((seed ++ pushed).take k).foldl push (empty capacity)).size ≤ capacity ∧
        (((seed ++ pushed).take k).foldl push (empty capacity)).capacity = capacity := by
  rw [foldl_push_ofList]
  refine ⟨rfl, (holds_foldl_push capacity _).isSuffix, size_foldl_push capacity _, fun k => ?_⟩
  have hsize := size_foldl_push capacity ((seed ++ pushed).take k)
  refine ⟨(holds_foldl_push capacity _).isSuffix, hsize, ?_, capacity_foldl_push _ _⟩
  rw [hsize]
  exact Nat.min_le_left _ _

example : (["c", "d"].foldl push (ofList ["a", "b"] 3)).entries = ["b", "c", "d"] := rfl

end SyncFleet.OutputBuffer
