/-
  SyncFleet/Utility/Process/Waiting.lean
  ======================================
  **Programs that let time pass, and do not let too much of it pass.**
-/
import SyncFleet.Unix.Floating
import SyncFleet.Utility.Process.Starting

namespace SyncFleet.Utility.Process

open Unix Tool

/-- A time in nanoseconds that nobody waits for. -/
def endless : Nat := 0x7fffffffffffffff * 1000000000

/-- The seconds of a unit. -/
def unitSeconds? : Bytes → Option Nat
  | [] | ['s'] => some 1
  | ['m'] => some 60
  | ['h'] => some 3600
  | ['d'] => some 86400
  | _ => none

/-- A number of units, each of which has some nanoseconds, rounded up. -/
def nanosOf (x : Floating) (unit : Nat) : Option Nat :=
  match x.magnitude with
  | .finite whole power =>
    if x.isNegative && whole ≠ 0 then none
    else
      let n := whole * unit
      if 64 < power then some endless
      else if power < -200 then some (if whole = 0 then 0 else 1)
      else if 0 ≤ power then some (min endless (n * Nat.pow 2 power.toNat))
      else
        let d := Nat.pow 2 (-power).toNat
        some ((n + d - 1) / d)
  | .infinite => if x.isNegative then none else some endless
  | .notANumber => none

/-- The time in nanoseconds that a text spells. -/
def durationOf? (text : Bytes) : Option Nat := do
  let (x, left, _) := Floating.read doubleFormat text
  if left.length = text.length then none
  let unit ← unitSeconds? left
  nanosOf x (unit * 1000000000)

/-- Do nothing for some time. -/
def sleep (arguments _environment : List Bytes) : Tool Unit := do
  let (_, operands) ← options [] arguments
  if operands.isEmpty then missOperand
  let mut duration := 0
  let mut isWell := true
  for text in operands do
    match durationOf? text with
    | some d => duration := duration + d
    | none =>
      warn ("invalid time interval ".toList ++ quoted text)
      isWell := false
  if !isWell then pointToHelp
  sys (Sys.sleep duration)

/-! ### Limits -/

/-- What a watcher of a process notices. -/
inductive Event where
  | ended
  | signal (n : Signal)

/-- Wait until a process has ended, a signal comes or a moment is there. -/
def nextEvent (child : Nat) (moment : Option Nat) : Sys (Option Event) :=
  Sys.waitUntil moment fun s =>
    let isOver := match s.taskOfNumber? child with
      | some t => (s.taskOf t).fate.isSome
      | none => true
    if isOver then (s, some .ended)
    else match s.task.pending with
      | n :: rest => (s.modifyTask fun t => { t with pending := rest }, some (.signal n))
      | [] => (s, none)

/-- How a process is watched. -/
structure Watching where
  command : Bytes
  signal : Signal
  killAfter : Option Nat
  /-- only the process itself gets signals, and not those that it starts -/
  inForeground : Bool
  isLoud : Bool

/-- Send a signal to a watched process and to all that it has started; the signal that nobody can
    escape ends the watcher too. -/
def Watching.send (w : Watching) (child : Nat) (n : Signal) : Tool Unit :=
  sys (Sys.change fun s =>
    let reached := match s.taskOfNumber? child with
      | some t => if w.inForeground then [t] else t :: s.liveUnder s.current
      | none => []
    let s := reached.eraseDups.foldl (fun s t => s.signal t n) s
    ((), if n = Signal.kill && !w.inForeground then s.signal s.current n else s))

/-- Watch a process through at most `fuel` events; whether it has taken too long. -/
def Watching.watch (w : Watching) (child : Nat) :
    Nat → Signal → Option Nat → Option Nat → Bool → Tool Bool
  | 0, _, _, _, isLate => return isLate
  | fuel + 1, signal, deadline, killAfter, isLate => do
    let sendOff := fun (n : Signal) (isLate : Bool) => do
      if w.isLoud then
        warn (("sending signal " ++ (Signal.name? n).getD "" ++ " to command ").toList
          ++ quoted w.command)
      w.send child n
      match killAfter with
      | some d =>
        let now ← look fun s => s.now
        watch w child fuel Signal.kill (some (now + d)) none isLate
      | none => watch w child fuel signal none none isLate
    match ← sys (nextEvent child deadline) with
    | some .ended => return isLate
    | some (.signal n) => sendOff n isLate
    | none => sendOff signal true

/-- The statuses of a command that has taken too long. -/
def lateStatus : Nat := 124

/-- How many events a watcher takes notice of. -/
def mostEvents : Nat := 1000000

/-- Run a command, and end it if it takes too long. -/
def timeout (executor : Executor) (arguments environment : List Bytes) : Tool Unit := do
  let (c, operands) ← leadingOptions ["foreground", "k|kill-after=", "preserve-status",
    "s|signal=", "v|verbose"] arguments
  let durationOf := fun (text : Bytes) => match durationOf? text with
    | some d => pure d
    | none => misuse ("invalid time interval ".toList ++ quoted text)
  let killAfter ← (c.value? "k").mapM durationOf
  let signal ← match c.value? "s" with
    | none => pure Signal.terminate
    | some name => signalOf name
  match operands with
  | text :: name :: rest => do
    let duration ← durationOf text
    let w : Watching := ⟨name, signal, killAfter, c.has "foreground", c.has "v"⟩
    flush
    let program := (← get).name
    sys (Sys.change fun s => ((), s.modifyTask fun t => { t with
      caught := [Signal.hangup, Signal.interrupt, Signal.quit, Signal.terminate] }))
    let start : Sys Unit := do
      let e ← executeByName executor name (name :: rest) environment
      let _ ← Sys.write 2 (program ++ ": failed to run command ".toList ++ quoted name
        ++ (": " ++ e.message ++ "\n").toList)
      Sys.finish (.exited (startStatus e))
    let child ← sys (Sys.fork (start fun _ => .ended (.exited 0)))
    let now ← look fun s => s.now
    let deadline := if duration = 0 then none else some (now + duration)
    let isLate ← w.watch child mostEvents signal deadline (killAfter.filter (· ≠ 0)) false
    match ← sys (Sys.waitFor child) with
    | .exited status =>
      stop (if isLate && !c.has "preserve-status" then lateStatus else status)
    | .killed n =>
      if !isLate then sys (Sys.finish (.killed n))
      stop (if n = Signal.kill || c.has "preserve-status" then n + 128 else lateStatus)
  | _ => pointToHelp

end SyncFleet.Utility.Process
