/-
  SyncFleet/Descriptor/Basic.lean
  ===============================
  **Job descriptors: the open record of settings that describes one job.**

  A handful of keys are reserved and read here; every other key is passed on
  to the sync command untouched.  No reader assumes a key to be present or of
  one type: each says what it makes of an absent key and of a wrong type.
-/
import SyncFleet.Json.Token
import SyncFleet.KeyMap

namespace SyncFleet

open Decimal

/-! ### Values: scalars, and nothing nested

A number in a JSON text is an integer when it is spelled as one and fits
into 64 signed bits.  Any other number is a binary floating-point number,
negative zero among them. -/

/-- A value of a descriptor (`DescriptorValue`). -/
inductive Scalar where
  | null
  | bool (value : Bool)
  | int (value : Int64)
  | float (value : Binary64)
  | string (text : String)
deriving DecidableEq, Repr

namespace Scalar

/-- The name of a value's type, as messages give it. -/
def typeName : Scalar → String
  | .null => "null"
  | .bool _ => "a boolean"
  | .int _ => "an integer"
  | .float _ => "a float"
  | .string _ => "a string"

/-- The plain text of a value; nothing for null. -/
def text : Scalar → String
  | .null => ""
  | .bool true => "true"
  | .bool false => "false"
  | .int n => String.ofList (intText n.toInt)
  | .float x => String.ofList (Layout.plain.write x)
  | .string s => s

/-- Whether an integer fits into 64 signed bits. -/
def fitsInt64 (n : Int) : Bool := -0x8000000000000000 ≤ n && n < 0x8000000000000000

/-- The value of a numeral: an integer if it is spelled as one and fits, but not `-0`. -/
def ofNumeral? (n : Numeral) : Option Scalar :=
  let magnitude : Int := (ofDigits n.whole : Nat)
  let value := if n.negative then -magnitude else magnitude
  if n.isWhole && fitsInt64 value && !(n.negative && value == 0) then
    some (.int (Int64.ofInt value))
  else n.stepwise.map .float

/-- The value as JSON. -/
def toJson : Scalar → Json
  | .null => .null
  | .bool b => .bool b
  | .int n => .int n.toInt
  | .float x => .float x
  | .string s => .string s

/-- Read a value from JSON; arrays and objects are none. -/
def ofJson? : Json → Option Scalar
  | .null => some .null
  | .bool b => some (.bool b)
  | .number s => (Json.numeralOfText? s.toList).bind ofNumeral?
  | .string s => some (.string s)
  | .array _ | .object _ | .unreadable => none

end Scalar

/-! ### Settings -/

/-- The settings of one job (`JobDescriptor`). -/
structure Descriptor where
  values : KeyMap Scalar
deriving DecidableEq

/-! ### Reserved keys -/

namespace Key

def name : String := "name"
def type : String := "type"
def script : String := "script"
def interval : String := "interval"
def retry : String := "retry"
def retryInterval : String := "retry_interval"
def disabled : String := "disabled"
def hidden : String := "hidden"
def path : String := "path"
def memoryLimit : String := "rlimit_mem"

end Key

/-! ### Faults -/

/-- Why a descriptor describes no job. -/
inductive DescriptorError where
  /-- there is no string under `name` -/
  | missingName
  /-- a key that the job needs is absent -/
  | missingKey (job key : String)
  /-- a key has a value of the wrong type -/
  | invalidType (job key expected : String)
  /-- a key has a value of the right type that cannot be used -/
  | invalidValue (job key reason : String)
  /-- the type names no kind of job -/
  | unsupportedType (job kind : String)
deriving DecidableEq, Repr

/-- The wording of a fault. -/
def DescriptorError.message : DescriptorError → String
  | .missingName => "job descriptor has no name"
  | .missingKey job key => "job '" ++ job ++ "': missing required key '" ++ key ++ "'"
  | .invalidType job key expected =>
    "job '" ++ job ++ "': '" ++ key ++ "' should be " ++ expected ++ " when present"
  | .invalidValue job key reason =>
    "job '" ++ job ++ "': invalid value for '" ++ key ++ "': " ++ reason
  | .unsupportedType job kind => "job '" ++ job ++ "': unsupported job type '" ++ kind ++ "'"

/-! ### Attempts

There is no backoff: the delay between two attempts is fixed, and a job that
has used up its attempts waits for its next turn. -/

/-- The attempts of one trigger. -/
structure RetryPolicy where
  /-- the number of attempts, the first one included -/
  maxAttempts : UInt32
  /-- milliseconds between a failed attempt and the next one -/
  delay : Nat
deriving DecidableEq, Repr

namespace RetryPolicy

/-- At most the given number of attempts, but at least one. -/
def fixed (maxAttempts : UInt32) (delay : Nat) : RetryPolicy := ⟨max 1 maxAttempts, delay⟩

/-- A single attempt. -/
def once : RetryPolicy := ⟨1, 0⟩

/-- Three attempts, three seconds apart. -/
def default : RetryPolicy := fixed 3 3000

/-- Whether another attempt follows after the given number of failed ones (`should_retry`). -/
def allows (p : RetryPolicy) (failed : UInt32) : Bool := failed < p.maxAttempts

end RetryPolicy

namespace Descriptor

/-! ### Looking up values -/

/-- The value under a key. -/
def get? (d : Descriptor) (key : String) : Option Scalar := d.values.get? key

/-- The value under a key if it is a string. -/
def string? (d : Descriptor) (key : String) : Option String :=
  match d.get? key with
  | some (.string s) => some s
  | _ => none

/-- The value under a key if it is an integer. -/
def int? (d : Descriptor) (key : String) : Option Int64 :=
  match d.get? key with
  | some (.int n) => some n
  | _ => none

/-- The value under a key if it is a truth value. -/
def bool? (d : Descriptor) (key : String) : Option Bool :=
  match d.get? key with
  | some (.bool b) => some b
  | _ => none

/-- The name that messages use: the job's own, or a stand-in. -/
def label (d : Descriptor) : String := (d.string? Key.name).getD "<unnamed>"

/-- The string under a key that has to be there (`require_str`). -/
def require (d : Descriptor) (key : String) : Except DescriptorError String :=
  match d.get? key with
  | some (.string s) => .ok s
  | some _ => .error (.invalidType d.label key "a string")
  | none => .error (.missingKey d.label key)

/-! ### Reserved keys, read -/

/-- The job's name. -/
def name (d : Descriptor) : Except DescriptorError String :=
  match d.string? Key.name with
  | some s => .ok s
  | none => .error .missingName

/-- The kind of job, if it is a string. -/
def kind? (d : Descriptor) : Option String := d.string? Key.type

/-- Seconds between two runs when the descriptor does not say: a year. -/
def defaultInterval : Nat := 31536000

/-- Seconds between two scheduled runs.  What is absent, no integer or negative counts as a
    year. -/
def interval (d : Descriptor) : Nat :=
  match d.int? Key.interval with
  | some n => if 0 ≤ n.toInt then n.toInt.toNat else defaultInterval
  | none => defaultInterval

/-- Whether `interval` is present but cannot be used. -/
def hasInvalidInterval (d : Descriptor) : Bool :=
  match d.get? Key.interval with
  | none => false
  | some (.int n) => n.toInt < 0
  | some _ => true

/-- Attempts per trigger: three when absent, otherwise an integer from 1 to 2^32 - 1. -/
def retry (d : Descriptor) : Except DescriptorError UInt32 :=
  match d.get? Key.retry with
  | none => .ok 3
  | some (.int n) =>
    if n.toInt < 1 then .error (.invalidValue d.label Key.retry "must be at least 1")
    else if n.toInt < UInt32.size then .ok (UInt32.ofNat n.toInt.toNat)
    else .error (.invalidValue d.label Key.retry "too large")
  | some _ => .error (.invalidType d.label Key.retry "an integer")

/-- Seconds between failed attempts: three when absent, otherwise an integer that is not
    negative. -/
def retryInterval (d : Descriptor) : Except DescriptorError Nat :=
  match d.get? Key.retryInterval with
  | none => .ok 3
  | some (.int n) =>
    if 0 ≤ n.toInt then .ok n.toInt.toNat
    else .error (.invalidValue d.label Key.retryInterval "must not be negative")
  | some _ => .error (.invalidType d.label Key.retryInterval "an integer")

/-- The retry policy that the descriptor asks for. -/
def retryPolicy (d : Descriptor) : Except DescriptorError RetryPolicy := do
  let attempts ← d.retry
  let seconds ← d.retryInterval
  return .fixed attempts (1000 * seconds)

/-- Whether the job is left out of the fleet. -/
def isDisabled (d : Descriptor) : Bool := (d.bool? Key.disabled).getD false

/-- Whether the job is left out of status reports. -/
def isHidden (d : Descriptor) : Bool := (d.bool? Key.hidden).getD false

/-- The directory whose disk usage is reported. -/
def path? (d : Descriptor) : Option String := d.string? Key.path

/-! ### JSON -/

/-- The descriptor as a JSON object, keys ascending. -/
def toJson (d : Descriptor) : Json :=
  .object (d.values.entries.map fun e => (e.1, e.2.toJson))

/-- Read a descriptor from a JSON object of scalars; of two fields with one key the later
    counts. -/
def ofJson? : Json → Option Descriptor
  | .object fields => do
    let entries ← fields.mapM fun f => (Scalar.ofJson? f.2).map fun v => (f.1, v)
    return ⟨.ofList entries⟩
  | _ => none

end Descriptor

/-! ### What a descriptor asks to be done: run a script, or nothing at all

The `type` of a descriptor selects the work.  A job of type `shell_script`
runs its `script`; a job of type `external` is looked after elsewhere and
never runs anything here. -/

/-- The work of a job. -/
inductive Work where
  | script (text : String)
  | external
deriving DecidableEq, Repr

/-- Whether the job is looked after elsewhere. -/
def Work.isExternal : Work → Bool
  | .external => true
  | .script _ => false

/-- The work that a descriptor asks for (`ExecutorKind`).  Its name is checked before its type. -/
def Descriptor.work (d : Descriptor) : Except DescriptorError Work := do
  let job ← d.name
  match d.get? Key.type with
  | some (.string "shell_script") => return .script (← d.require Key.script)
  | some (.string "external") => return .external
  | some (.string "rsync") =>
    throw (.unsupportedType job "rsync (use a shell_script job running rsync instead)")
  | some (.string other) => throw (.unsupportedType job other)
  | some _ => throw (.invalidType d.label Key.type "a string")
  | none => throw (.missingKey job Key.type)

end SyncFleet
