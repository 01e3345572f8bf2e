/-
  SyncFleet/Storage/MemoryStore.lean
  ==================================
  **Keeping the checkpoint in memory.**
-/
import SyncFleet.Storage.FileStore

namespace SyncFleet.Storage

/-- A checkpoint in memory and the number of successful saves. -/
structure MemoryStore where
  current : Option Checkpoint
  saves : Nat
deriving DecidableEq

namespace MemoryStore

/-- A store that holds a checkpoint, or none yet. -/
def holding (c : Option Checkpoint) : MemoryStore := ⟨c, 0⟩

/-- Where the checkpoint is kept, as messages say it. -/
def location : String := "in-memory checkpoint"

/-- Replace the checkpoint. -/
def save (s : MemoryStore) (c : Checkpoint) : MemoryStore := ⟨some c, s.saves + 1⟩

/-- The checkpoint that was saved last. -/
def load (s : MemoryStore) : Except StoreFault Checkpoint :=
  match s.current with
  | some c => .ok c
  | none => .error (.notFound location)

end MemoryStore

end SyncFleet.Storage
