/-
  SyncFleet/Attempt/Script.lean
  =============================
  **One attempt of a script job: hooks, command, hooks.**

  What the machine makes of a command is a parameter, `Ending`s by command.
  The attempt prepares the command's environment and would end there if it
  could not.  It then calls every hook before the command, runs the command,
  and calls every hook again with whether it succeeded; `AttemptEvent` lists
  what happened in order.
-/
import SyncFleet.Attempt.Hook
import SyncFleet.Descriptor.Basic
import SyncFleet.Text.Utf8

namespace SyncFleet

/-- How a command ended. -/
inductive Ending where
  /-- it was never started -/
  | notStarted (reason : String)
  /-- it exited by itself -/
  | exited (code : Nat) (stdout stderr : ByteArray)
  /-- a signal ended it -/
  | killed (stdout stderr : ByteArray)

/-- What happens in the course of an attempt. -/
inductive AttemptEvent where
  | before (call : HookCall)
  | command
  | after (call : HookCall) (succeeded : Bool)
deriving DecidableEq, Repr

namespace Ending

/-- The captured streams as text. -/
def outputOf (stdout stderr : ByteArray) : Output :=
  ⟨Text.Utf8.decodeLossy stdout, Text.Utf8.decodeLossy stderr⟩

/-- The result that an ending means: only exit code zero is a success. -/
def result : Ending → AttemptResult
  | .notStarted reason => .error (.spawnFailed reason)
  | .exited 0 stdout stderr => .ok (outputOf stdout stderr)
  | .exited code stdout stderr => .error (.commandFailed (some code) (outputOf stdout stderr))
  | .killed stdout stderr => .error (.commandFailed none (outputOf stdout stderr))

end Ending

/-- One attempt at a script on a machine that says how each command ends (`run_once`). -/
def runScript (machine : Command → Ending) (hooks : List Hook) (d : Descriptor)
    (script : String) : AttemptResult × List AttemptEvent :=
  match Environment.prepare d with
  | .error fault => (.error (.environment fault.message), [])
  | .ok environment =>
    let (command, before) := Hook.prepare hooks d ⟨script, environment, none⟩
    let result := (machine command).result
    let after := Hook.finish hooks d result.succeeded
    (result, before.map .before ++ .command :: after.map (.after · result.succeeded))

/-- One attempt at the work of a job; external work succeeds at once and without output. -/
def Work.attempt (machine : Command → Ending) (hooks : List Hook) (d : Descriptor) :
    Work → AttemptResult
  | .script text => (runScript machine hooks d text).1
  | .external => .ok .none

end SyncFleet
