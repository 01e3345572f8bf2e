/-
  SyncFleet/Unix/Schedule.lean
  ============================
  **Running processes side by side.**

  Processes take turns: one runs until it has to wait, has ended or has used
  up its turn.  Time passes with the steps that are taken.  When every process
  waits, it jumps to the first moment at which one of them wants to go on.
-/
import SyncFleet.Unix.Routine

namespace SyncFleet.Unix

/-- A process that has not ended, with what it does next. -/
abbrev Active := Nat × Routine

/-- How long a step takes. -/
def stepTime : Nat := 2000

/-- How long it takes to start a process. -/
def forkTime : Nat := 300000

/-- How many steps a turn has. -/
def turnLength : Nat := 5000

/-- How a turn has gone. -/
structure Turn where
  system : System
  /-- what the process does next, if it has not ended -/
  next : Option Routine
  /-- whether a step has been taken -/
  moved : Bool
  /-- the processes that have been started, the last one first -/
  born : List Active

/-- A process that is started by the running one. -/
def System.child (s : System) : Task :=
  { s.task with parent := s.current, pending := [], wakes := none, fate := none, reaped := false }

/-- Let the running process take steps, at most `fuel`. -/
def turn : Nat → Routine → System → Bool → List Active → Turn
  | 0, r, s, moved, born => ⟨s, some r, moved, born⟩
  | fuel + 1, r, s, moved, born =>
    if s.task.fate.isSome then ⟨s, none, true, born⟩
    else match r with
      | .ended fate =>
        let t := s.current
        ⟨s.endTask t fate, none, true, born⟩
      | .step next =>
        match next s with
        | (s, none) => ⟨s, some r, moved, born⟩
        | (s, some r) => turn fuel r { s with now := s.now + stepTime } true born
      | .fork child next =>
        let t := s.tasks.size
        let task := s.child
        let s := { s with
          tasks := s.tasks.push task, live := s.live ++ [t], now := s.now + forkTime }
        turn fuel (next (System.numberOf t)) s true ((t, child) :: born)

/-- How a round of turns has gone: the system, the processes and whether one has moved. -/
abbrev Round := System × List Active × Bool

/-- Give every process a turn; those that still run come in reverse. -/
def round : List Active → System → List Active → Bool → Round
  | [], s, done, moved => (s, done.reverse, moved)
  | (t, r) :: rest, s, done, moved =>
    let went := turn turnLength r { s with current := t } false []
    let done := match went.next with
      | some r => (t, r) :: done
      | none => done
    round rest went.system (went.born ++ done) (moved || went.moved)

/-- The first moment at which a process wants to go on. -/
def System.nextWake (s : System) : Option Nat :=
  s.live.foldl (fun first t =>
    match first, (s.taskOf t).wakes with
    | some a, some b => some (min a b)
    | none, b => b
    | a, none => a) none

/-- Give turns, at most `fuel` rounds, until nothing more can happen or `isOver` says so. -/
def runRounds (isOver : System → Bool) : Nat → List Active → System → System
  | 0, _, s => s
  | fuel + 1, active, s =>
    if active.isEmpty || isOver s then s
    else match round active s [] false with
      | (s, active, true) => runRounds isOver fuel active s
      | (s, active, false) =>
        match s.nextWake with
        | some moment => runRounds isOver fuel active { s with now := max s.now moment }
        | none => s

/-- How many rounds there are at most. -/
def mostRounds : Nat := 100000

end SyncFleet.Unix
