/-
  SyncFleet/Job/Spec.lean
  =======================
  **What is fixed about a job: its name, settings and retry policy.**

  A job of the fleet comes from a descriptor alone, which then has to name
  supported work.  A job around an attempt of its own takes any type.
-/
import SyncFleet.Descriptor.Basic

namespace SyncFleet

/-- What is fixed about a job. -/
structure JobSpec where
  name : String
  descriptor : Descriptor
  /-- looked after elsewhere: never triggered, always idle -/
  external : Bool
  policy : RetryPolicy
deriving DecidableEq

namespace JobSpec

/-- The job of a descriptor whose type is not looked at (`new`). -/
def ofSettings (d : Descriptor) : Except DescriptorError JobSpec := do
  let name ← d.name
  let policy ← d.retryPolicy
  return ⟨name, d, false, policy⟩

/-- The job that a descriptor describes (`from_descriptor`). -/
def ofDescriptor (d : Descriptor) : Except DescriptorError JobSpec := do
  let work ← d.work
  let spec ← ofSettings d
  return { spec with external := work.isExternal }

/-- Seconds between two scheduled runs. -/
def interval (s : JobSpec) : Nat := s.descriptor.interval

/-- Whether the job is left out of status reports. -/
def isHidden (s : JobSpec) : Bool := s.descriptor.isHidden

end JobSpec

end SyncFleet
