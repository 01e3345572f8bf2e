/-
  SyncFleet/Fleet/Control.lean
  ============================
  **Starting, stopping and ending the decision loop from outside.**

  Callers put commands into a mailbox of bounded size; the decision loop takes
  them out one at a time and answers each one.  A call to start or to stop is
  one command; a call to exit is a stop followed by an exit.  When the loop
  ends, commands that still wait in the mailbox are never answered, and later
  ones are refused.  Every action of a caller or of the loop is one function,
  so an interleaving of several callers is a sequence of them.
-/

namespace SyncFleet

/-- Whether due jobs are queued and admitted. -/
inductive Mode where
  | running
  | stopped
deriving DecidableEq, Repr

/-- A command to the decision loop. -/
inductive ControlCommand where
  /-- admit jobs again -/
  | start
  /-- admit no more jobs; executions under way continue -/
  | stop
  /-- end the decision loop -/
  | exit
deriving DecidableEq, Repr

namespace Control

/-- The word for a command. -/
def word : ControlCommand → String
  | .start => "start"
  | .stop => "stop"
  | .exit => "exit"

/-- Why a call failed: the decision loop has ended. -/
inductive ChannelFault where
  /-- before the command could be sent -/
  | unsent (command : ControlCommand)
  /-- before the command was answered -/
  | unanswered (command : ControlCommand)
deriving DecidableEq, Repr

/-- The wording of a failed call. -/
def ChannelFault.message : ChannelFault → String
  | .unsent c => "failed to send " ++ word c ++ " command"
  | .unanswered c => "failed to receive " ++ word c ++ " response"

/-- A call: the commands it has still to get through, whether the first of them has been sent,
    and how the call ended. -/
structure Call where
  remaining : List ControlCommand
  awaiting : Bool
  outcome : Option (Except ChannelFault Unit)
deriving Repr

/-- The commands of a call. -/
def commandsOf : ControlCommand → List ControlCommand
  | .exit => [.stop, .exit]
  | c => [c]

/-- The call ends in failure. -/
def Call.fail (c : Call) (fault : ChannelFault) : Call :=
  ⟨c.remaining, false, some (.error fault)⟩

@[simp] theorem Call.awaiting_fail (c : Call) (fault : ChannelFault) :
    (c.fail fault).awaiting = false := rfl

@[simp] theorem Call.outcome_fail (c : Call) (fault : ChannelFault) :
    (c.fail fault).outcome = some (.error fault) := rfl

/-- The command that was sent has been answered; after the last one the call has succeeded. -/
def Call.answered (c : Call) : Call :=
  match c.remaining with
  | _ :: next :: rest => ⟨next :: rest, false, none⟩
  | _ => ⟨[], false, some (.ok ())⟩

@[simp] theorem Call.answered_last (c : ControlCommand) (awaiting : Bool)
    (outcome : Option (Except ChannelFault Unit)) :
    Call.answered ⟨[c], awaiting, outcome⟩ = ⟨[], false, some (.ok ())⟩ := rfl

@[simp] theorem Call.answered_next (c next : ControlCommand) (rest : List ControlCommand)
    (awaiting : Bool) (outcome : Option (Except ChannelFault Unit)) :
    Call.answered ⟨c :: next :: rest, awaiting, outcome⟩ = ⟨next :: rest, false, none⟩ := rfl

/-- The mode of the loop, its mailbox, and the calls made so far. -/
structure Desk where
  mode : Mode
  /-- whether the decision loop still takes commands -/
  isOpen : Bool
  /-- commands with the number of their call, in the order in which they were sent -/
  mailbox : List (Nat × ControlCommand)
  calls : List Call
deriving Repr

namespace Desk

/-- The number of commands that the mailbox holds at most. -/
def capacity : Nat := 32

/-- Nobody has called yet; jobs are admitted. -/
def initial : Desk := ⟨.running, true, [], []⟩

/-- Begin a call; its number is that of the calls before it. -/
def call (d : Desk) (c : ControlCommand) : Desk × Nat :=
  ({ d with calls := d.calls ++ [⟨commandsOf c, false, none⟩] }, d.calls.length)

/-- How a call ended, if it has. -/
def outcome? (d : Desk) (k : Nat) : Option (Except ChannelFault Unit) :=
  (d.calls[k]?).bind Call.outcome

/-- Send the next command of a call, if there is one to send and the mailbox has room
    (`send_unit_command`). -/
def post? (d : Desk) (k : Nat) : Option Desk :=
  match d.calls[k]? with
  | some ⟨c :: _, false, none⟩ =>
    if !d.isOpen then some { d with calls := d.calls.modify k (·.fail (.unsent c)) }
    else if d.mailbox.length < capacity then
      some { d with
        mailbox := d.mailbox ++ [(k, c)]
        calls := d.calls.modify k fun call => { call with awaiting := true } }
    else none
  | _ => none

/-- The loop ends: whatever waits in the mailbox is lost. -/
def close (d : Desk) : Desk :=
  { d with
    isOpen := false
    mailbox := []
    calls :=
      d.mailbox.foldl (fun calls (k, c) => calls.modify k (·.fail (.unanswered c))) d.calls }

@[simp] theorem isOpen_close (d : Desk) : d.close.isOpen = false := rfl

@[simp] theorem mailbox_close (d : Desk) : d.close.mailbox = [] := rfl

/-- The effect of a command on the mode. -/
def modeAfter (mode : Mode) : ControlCommand → Mode
  | .start => .running
  | .stop => .stopped
  | .exit => mode

/-- The loop takes the first command, applies it and answers it. -/
def serve? (d : Desk) : Option (Desk × ControlCommand) :=
  match d.mailbox with
  | [] => none
  | (k, c) :: rest =>
    let served : Desk := { d with
      mode := modeAfter d.mode c
      mailbox := rest
      calls := d.calls.modify k Call.answered }
    some (if c = .exit then served.close else served, c)

end Desk

end Control

end SyncFleet
