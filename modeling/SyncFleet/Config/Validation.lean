/-
  SyncFleet/Config/Validation.lean
  ================================
  **From a configuration as it is written to a valid one.**

  A written configuration has its fields but may ask for the impossible.
  Validation looks at the numbers, then at the address, then at the repos in
  their order, and names the first fault.  Of a repo only the shape is looked
  at: its keys have to be strings and its values scalars.
-/
import SyncFleet.Fleet.Construction
import SyncFleet.Storage.FileSystem
import SyncFleet.Text.Blank
import SyncFleet.Yaml.Value

namespace SyncFleet

open Yaml (Value)

/-! ### Valid configurations -/

/-- A valid configuration. -/
structure Config where
  /-- seconds between two ticks of the decision loop -/
  interval : Nat
  /-- how many jobs may be busy at once -/
  concurrentLimit : Nat
  /-- the file of the checkpoint -/
  checkpoint : String
  /-- how much is logged, if the configuration says so -/
  logLevel : Option String
  /-- where the control interface listens -/
  address : String
  /-- the descriptors of the jobs, in the order of the file -/
  repos : List Descriptor
deriving DecidableEq

namespace Config

/-! ### Defaults -/

def defaultConcurrentLimit : Int64 := 5
def defaultCheckpoint : String := "checkpoint.json"
def defaultAddress : String := "127.0.0.1:7001"

/-! ### What follows from a configuration -/

/-- Seconds between two ticks, at least one. -/
def pollSeconds (c : Config) : Nat := max c.interval 1

/-- How the fleet is run. -/
def fleetConfig (c : Config) : FleetConfig := ⟨1000 * c.pollSeconds, c.concurrentLimit⟩

end Config

/-- The address to listen on.  A port alone, behind a colon, is a port of every interface. -/
def bindAddress (address : String) : String :=
  match address.toList with
  | ':' :: _ => "0.0.0.0" ++ address
  | _ => address

/-! ### Configurations as they are written -/

/-- A repo as it is written: the entries of a mapping. -/
abbrev WrittenRepo := List (Value × Value)

/-- A configuration as it is written, with defaults for what is not. -/
structure WrittenConfig where
  interval : Int64
  concurrentLimit : Int64
  checkpoint : String
  logLevel : Option String
  address : String
  repos : List WrittenRepo
deriving Repr

/-! ### Faults -/

/-- Why there is no valid configuration. -/
inductive ConfigError where
  /-- the file cannot be read -/
  | unreadable (fault : Storage.FileFault)
  /-- the file is no text -/
  | notText
  /-- the text is no configuration -/
  | malformed
  /-- there cannot be less than no time between two ticks -/
  | negativeInterval (seconds : Int64)
  /-- at least one job has to be allowed at once -/
  | limitNotPositive (limit : Int64)
  /-- the control interface has no address -/
  | emptyAddress
  /-- a key of a repo is no string -/
  | keyNotString (job : String) (key : Value)
  /-- a value of a repo is no scalar -/
  | nestedValue (job key : String)
deriving Repr

/-- The wording of a fault. -/
def ConfigError.message : ConfigError → String
  | .unreadable fault => "cannot read the file: " ++ fault.message
  | .notText => "cannot read the file: it is no text"
  | .malformed => "the text is no configuration"
  | .negativeInterval n =>
    "invalid configuration: interval must not be negative, got "
      ++ String.ofList (Decimal.intText n.toInt)
  | .limitNotPositive n =>
    "invalid configuration: concurrent_limit must be positive, got "
      ++ String.ofList (Decimal.intText n.toInt)
  | .emptyAddress => "invalid configuration: json_api.address cannot be empty"
  | .keyNotString job key =>
    "invalid configuration: repo '" ++ job ++ "': keys must be strings, got " ++ key.shown
  | .nestedValue job key => "repo '" ++ job ++ "': value of '" ++ key ++ "' must be a scalar"

/-! ### Repos -/

/-- The scalar that a value is.  A number that does not fit into 64 signed bits is a
    floating-point number. -/
def Scalar.ofValue? : Value → Option Scalar
  | .null => some .null
  | .bool b => some (.bool b)
  | .int n =>
    if Scalar.fitsInt64 n then some (.int (Int64.ofInt n))
    else some (.float (Decimal.Binary64.ofInt n))
  | .float x => some (.float x)
  | .string s => some (.string s)
  | .sequence _ | .mapping _ | .tagged _ _ => none

namespace WrittenRepo

/-- The name by which messages call the repo at an index. -/
def label (index : Nat) (repo : WrittenRepo) : String :=
  match Value.lookup? Key.name repo with
  | some (.string name) => name
  | _ => "repos[" ++ String.ofList (Decimal.natText index) ++ "]"

/-- One entry of a repo as a setting. -/
def setting (job : String) (e : Value × Value) : Except ConfigError (String × Scalar) :=
  match e with
  | (.string key, v) =>
    match Scalar.ofValue? v with
    | some s => .ok (key, s)
    | none => .error (.nestedValue job key)
  | (key, _) => .error (.keyNotString job key)

/-- The descriptor that the repo at an index is. -/
def descriptor (index : Nat) (repo : WrittenRepo) : Except ConfigError Descriptor := do
  return ⟨.ofList (← repo.mapM (setting (label index repo)))⟩

end WrittenRepo

/-! ### Validation -/

/-- The valid configuration that a written one is (`validate`). -/
def WrittenConfig.validate (w : WrittenConfig) : Except ConfigError Config := do
  if w.interval < 0 then throw (.negativeInterval w.interval)
  if w.concurrentLimit ≤ 0 then throw (.limitNotPositive w.concurrentLimit)
  if (Text.trim w.address.toList).isEmpty then throw .emptyAddress
  let repos ← w.repos.zipIdx.mapM fun (repo, index) => WrittenRepo.descriptor index repo
  return {
    interval := w.interval.toInt.toNat
    concurrentLimit := w.concurrentLimit.toInt.toNat
    checkpoint := w.checkpoint
    logLevel := w.logLevel
    address := w.address
    repos }

end SyncFleet
