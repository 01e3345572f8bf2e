/-
  SyncFleet/Proofs/Attempt/Script.lean
  ====================================
  **Hooks stand around every attempt and do not decide it.**

  The environment of a descriptor can always be prepared
  (`Environment.prepare_eq_ok`), so no attempt ends before its hooks are called.
  Every hook is called in its turn with the command that the ones before it left
  (`prepare_eq`), whether they failed or not.  The machine gets the command that
  the last one left, and what it makes of that is the result.
-/
import Mathlib.Data.List.Forall2
import SyncFleet.Attempt.Script

namespace SyncFleet

/-! ### Calling hooks -/

namespace Hook

/-- The command that hooks leave, each of which is given what the one before it left. -/
def left (hooks : List Hook) (d : Descriptor) (command : Command) : Command :=
  hooks.foldl (fun command h => (h.before d command).1) command

/-- One call of every hook in order, the i-th with the command that the hooks before it left. -/
def callsBefore (hooks : List Hook) (d : Descriptor) (command : Command) : List HookCall :=
  hooks.mapIdx fun i h => ⟨h.name, failure? (h.before d (left (hooks.take i) d command)).2⟩

/-- One call of every hook in order, each with whether the attempt succeeded. -/
def callsAfter (hooks : List Hook) (d : Descriptor) (succeeded : Bool) : List HookCall :=
  hooks.map fun h => ⟨h.name, failure? (h.after d succeeded)⟩

/-- Two hooks that do the same to every command, whether they fail at that or not. -/
def SameEffect (d : Descriptor) (h h' : Hook) : Prop :=
  ∀ command, (h.before d command).1 = (h'.before d command).1

theorem prepare_eq (hooks : List Hook) (d : Descriptor) (command : Command) :
    prepare hooks d command = (left hooks d command, callsBefore hooks d command) := by
  induction hooks generalizing command with
  | nil => rfl
  | cons h rest ih =>
    rw [prepare]
    simp only [ih, callsBefore, List.mapIdx_cons]
    rfl

theorem left_congr {hooks hooks' : List Hook} {d : Descriptor}
    (h : List.Forall₂ (SameEffect d) hooks hooks') (command : Command) :
    left hooks d command = left hooks' d command := by
  induction h generalizing command with
  | nil => rfl
  | cons hsame _ ih =>
    rw [left, List.foldl_cons, hsame command]
    exact ih _

end Hook

/-! ### One attempt -/

theorem Ending.result_ne_environment (ending : Ending) (reason : String) :
    ending.result ≠ .error (.environment reason) := by
  fun_cases Ending.result ending <;> nofun

theorem AttemptResult.succeeded_iff (r : AttemptResult) :
    r.succeeded = true ↔ ∃ out, r = .ok out := by
  cases r with
  | ok out => exact ⟨fun _ => ⟨out, rfl⟩, fun _ => rfl⟩
  | error e => exact ⟨nofun, nofun⟩

/-- The command of a script before any hook has seen it. -/
def Command.ofScript (d : Descriptor) (script : String) : Command :=
  ⟨script, .ofDescriptor d, none⟩

section Attempt

variable (machine : Command → Ending) (hooks : List Hook) (d : Descriptor) (script : String)

theorem runScript_eq :
    runScript machine hooks d script =
      let command := Command.ofScript d script
      let result := (machine (Hook.left hooks d command)).result
      (result, (Hook.callsBefore hooks d command).map .before ++ .command ::
        (Hook.callsAfter hooks d result.succeeded).map (.after · result.succeeded)) := by
  rw [runScript, Environment.prepare_eq_ok]
  simp only [Hook.prepare_eq]
  rfl

/-- **Hooks surround an attempt.**  Whatever the machine makes of commands, and however hooks fail:
    the environment is prepared, every hook is called once before the command, in order, and once
    after it, in order, with whether the attempt succeeded.  The result is what the machine makes of
    the command that the hooks left.  Hooks that do the same to every command lead to the same
    result, whichever of their calls fail. -/
theorem runScript_surrounded :
    Environment.prepare d = .ok (.ofDescriptor d) ∧
    (∀ reason, (runScript machine hooks d script).1 ≠ .error (.environment reason)) ∧
    (∃ succeeded : Bool,
      (runScript machine hooks d script).2 =
        (Hook.callsBefore hooks d (.ofScript d script)).map .before ++ .command ::
          (Hook.callsAfter hooks d succeeded).map (.after · succeeded) ∧
      (succeeded = true ↔ ∃ out, (runScript machine hooks d script).1 = .ok out)) ∧
    (runScript machine hooks d script).1 =
      (machine (Hook.left hooks d (.ofScript d script))).result ∧
    ∀ hooks', List.Forall₂ (Hook.SameEffect d) hooks hooks' →
      (runScript machine hooks' d script).1 = (runScript machine hooks d script).1 := by
  simp only [runScript_eq]
  refine ⟨Environment.prepare_eq_ok d, Ending.result_ne_environment _,
    ⟨_, rfl, AttemptResult.succeeded_iff _⟩, trivial, fun hooks' h => ?_⟩
  rw [Hook.left_congr h]

end Attempt

/-- A hook that fails whenever it is called. -/
def Hook.refusing : Hook where
  name := "refusing"
  before := fun _ command => (command, .error (.unsupported "quota"))
  after := fun _ _ => .error (.unsupported "quota")

/-- A hook that does nothing. -/
def Hook.idle : Hook where
  name := "idle"
  before := fun _ command => (command, .ok ())
  after := fun _ _ => .ok ()

/-- A machine on which a command with a limit does not get far. -/
def tightMachine (command : Command) : Ending :=
  if command.memoryLimit.isSome then .killed .empty .empty else .exited 0 .empty .empty

/-- A descriptor that sets a limit. -/
def limited : Descriptor := ⟨.ofList [(Key.memoryLimit, .int 64)]⟩

/-- The second hook sets a limit and the command fails for it, whether the first one fails. -/
theorem refusing_runScript_surrounded :
    List.Forall₂ (Hook.SameEffect limited) [.refusing, .rlimit] [.idle, .rlimit] ∧
      (runScript tightMachine [.refusing, .rlimit] limited "sync").2 =
        [.before ⟨"refusing", some (.unsupported "quota")⟩, .before ⟨"rlimit", none⟩, .command,
          .after ⟨"refusing", some (.unsupported "quota")⟩ false, .after ⟨"rlimit", none⟩ false] ∧
      (runScript tightMachine [.refusing, .rlimit] limited "sync").1 =
        .error (.commandFailed none .none) ∧
      (runScript tightMachine [.idle, .rlimit] limited "sync").1 =
        .error (.commandFailed none .none) := by
  have hsame : List.Forall₂ (Hook.SameEffect limited) [.refusing, .rlimit] [.idle, .rlimit] :=
    .cons (fun _ => rfl) (.cons (fun _ => rfl) .nil)
  obtain ⟨-, -, ⟨succeeded, hevents, hsucceeded⟩, hresult, hindependent⟩ :=
    runScript_surrounded tightMachine [.refusing, .rlimit] limited "sync"
  have hkilled : (runScript tightMachine [.refusing, .rlimit] limited "sync").1 =
      .error (.commandFailed none .none) := hresult.trans rfl
  have hfailed : succeeded = false := by
    rw [Bool.eq_false_iff, Ne, hsucceeded, hkilled]
    nofun
  refine ⟨hsame, ?_, hkilled, (hindependent _ hsame).trans hkilled⟩
  rw [hevents, hfailed]
  rfl

end SyncFleet
