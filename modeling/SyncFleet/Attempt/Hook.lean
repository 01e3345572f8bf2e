/-
  SyncFleet/Attempt/Hook.lean
  ===========================
  **Hooks: what is done before and after every attempt.**

  A hook may change the command before it starts and look at the outcome after
  it ended.  A hook that fails is reported, and the attempt goes ahead: the
  command that reaches the next hook is whatever the failing one left.  The
  one standard hook limits the command's address space to the size under
  `rlimit_mem`.
-/
import SyncFleet.Attempt.Outcome
import SyncFleet.ByteSize
import SyncFleet.Environment
import SyncFleet.Text.Printable

namespace SyncFleet

/-- A command that is about to start: a script, the variables added to its environment, and a
    limit on its address space in bytes. -/
structure Command where
  script : String
  environment : Environment
  memoryLimit : Option Nat
deriving DecidableEq

/-- Why a hook failed. -/
inductive HookError where
  /-- its setting cannot be used -/
  | invalidConfig (key reason : String)
  /-- it is not available here -/
  | unsupported (what : String)
deriving DecidableEq, Repr

/-- The wording of a hook's failure. -/
def HookError.message : HookError → String
  | .invalidConfig key reason => "invalid " ++ key ++ ": " ++ reason
  | .unsupported what => what ++ " is not supported on this platform"

/-- Something done around every attempt (`ExecutionHook`). -/
structure Hook where
  name : String
  /-- the command as the hook leaves it, and whether the hook succeeded -/
  before : Descriptor → Command → Command × Except HookError Unit
  /-- called with whether the attempt succeeded -/
  after : Descriptor → Bool → Except HookError Unit

/-- One call of a hook, and its failure if it failed. -/
structure HookCall where
  hook : String
  failure : Option HookError
deriving DecidableEq, Repr

namespace Hook

/-- The failure of a hook's call, if any. -/
def failure? : Except HookError Unit → Option HookError
  | .ok _ => none
  | .error e => some e

/-- Call every hook before the command starts, in order. -/
def prepare (hooks : List Hook) (d : Descriptor) (command : Command) :
    Command × List HookCall :=
  match hooks with
  | [] => (command, [])
  | h :: rest =>
    let (command, result) := h.before d command
    let (command, calls) := prepare rest d command
    (command, ⟨h.name, failure? result⟩ :: calls)

/-- Call every hook after the command ended, in order. -/
def finish (hooks : List Hook) (d : Descriptor) (succeeded : Bool) : List HookCall :=
  hooks.map fun h => ⟨h.name, failure? (h.after d succeeded)⟩

/-- The names of the hooks as a quoted list. -/
def names (hooks : List Hook) : String :=
  "[" ++ String.intercalate ", " (hooks.map fun h => Text.quoted h.name) ++ "]"

/-! ### The memory limit -/

/-- The limit that a descriptor asks for: an integer that is not negative, or a size.  Absent
    and null ask for none. -/
def memoryLimit (d : Descriptor) : Except HookError (Option Nat) :=
  let wrongType (v : Scalar) : Except HookError (Option Nat) :=
    .error (.invalidConfig Key.memoryLimit ("expected a size, got " ++ v.typeName))
  match d.get? Key.memoryLimit with
  | none | some .null => .ok none
  | some (.int n) => if 0 ≤ n.toInt then .ok (some n.toInt.toNat) else wrongType (.int n)
  | some (.string s) =>
    match ByteSize.parse s with
    | .ok bytes => .ok (some bytes)
    | .error fault =>
      .error (.invalidConfig Key.memoryLimit
        (fault.message ++ " (" ++ Text.quoted s ++ ")"))
  | some v => wrongType v

/-- The hook that limits the address space of the command (`RlimitHook`). -/
def rlimit : Hook where
  name := "rlimit"
  before := fun d command =>
    match memoryLimit d with
    | .ok none => (command, .ok ())
    | .ok (some bytes) => ({ command with memoryLimit := some bytes }, .ok ())
    | .error e => (command, .error e)
  after := fun _ _ => .ok ()

/-- The hooks of every job. -/
def standard : List Hook := [rlimit]

end Hook

end SyncFleet
