/-
  SyncFleet/Attempt/Outcome.lean
  ==============================
  **What one attempt of a job yields: its output, or why it failed.**
-/
import SyncFleet.Decimal.Numeral

namespace SyncFleet

/-- What an attempt has written to its two output streams. -/
structure Output where
  stdout : String
  stderr : String
deriving DecidableEq, Repr

/-- No output at all. -/
def Output.none : Output := ⟨"", ""⟩

/-- Why an attempt failed. -/
inductive AttemptError where
  /-- the command could not be started -/
  | spawnFailed (reason : String)
  /-- the command ended without success; no exit code when a signal ended it -/
  | commandFailed (code : Option Int) (output : Output)
  /-- the command's environment could not be prepared -/
  | environment (reason : String)
  /-- any other failure -/
  | failed (reason : String)
deriving DecidableEq, Repr

namespace AttemptError

/-- The wording of a failure. -/
def message : AttemptError → String
  | .spawnFailed reason => "execution cannot start: " ++ reason
  | .commandFailed (some code) _ =>
    "execution failed: exit code " ++ String.ofList (Decimal.intText code)
  | .commandFailed none _ => "execution failed: terminated by signal"
  | .environment reason => "cannot prepare environment: " ++ reason
  | .failed reason => "execution failed: " ++ reason

/-- The exit code, where there is one. -/
def code? : AttemptError → Option Int
  | .commandFailed code _ => code
  | _ => none

/-- The output captured before the failure; only a command that ran has any. -/
def output : AttemptError → Output
  | .commandFailed _ out => out
  | _ => .none

end AttemptError

/-- The outcome of an attempt. -/
abbrev AttemptResult := Except AttemptError Output

/-- The output of an attempt, whatever its outcome. -/
def AttemptResult.output : AttemptResult → Output
  | .ok out => out
  | .error e => e.output

/-- Whether an attempt succeeded. -/
def AttemptResult.succeeded : AttemptResult → Bool
  | .ok _ => true
  | .error _ => false

end SyncFleet
