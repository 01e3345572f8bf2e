/-
  SyncFleet/Attempt/Rehearsal.lean
  ================================
  **Attempts that are rehearsed instead of run, and a probe that counts them.**

  A rehearsal fails a given number of times before it succeeds, or always; it
  counts the calls made of it, and every call takes the same time and carries
  the same output.  A probe counts how many attempts are under way at once.
-/
import SyncFleet.Attempt.Outcome

namespace SyncFleet

/-- How many attempts are under way, and how many there were at most (`ConcurrencyProbe`). -/
structure Probe where
  current : Nat
  peak : Nat
deriving DecidableEq, Repr

namespace Probe

/-- Nothing has been under way yet. -/
def initial : Probe := ⟨0, 0⟩

/-- Count an attempt that begins. -/
def count (p : Probe) : Probe := { p with current := p.current + 1 }

/-- Report how many attempts were under way when one was counted. -/
def report (p : Probe) (underWay : Nat) : Probe := { p with peak := max p.peak underWay }

/-- An attempt begins: it is counted, and what was counted is reported. -/
def enter (p : Probe) : Probe := p.count.report p.count.current

/-- An attempt ends. -/
def leave (p : Probe) : Probe := { p with current := p.current - 1 }

@[simp] theorem peak_report (p : Probe) (underWay : Nat) :
    (p.report underWay).peak = max p.peak underWay := rfl

@[simp] theorem current_leave (p : Probe) : p.leave.current = p.current - 1 := rfl

end Probe

/-- An attempt that fails a number of times and then succeeds (`ScriptedExecutor`). -/
structure Rehearsal where
  /-- failures still to come; the greatest number stands for failing always -/
  failuresLeft : UInt32
  /-- the number of calls made -/
  calls : Nat
  output : Output
  /-- milliseconds that a call takes -/
  delay : Nat
deriving DecidableEq, Repr

namespace Rehearsal

/-- The number of failures that never runs out. -/
def always : UInt32 := 4294967295

/-- A rehearsal that has not been called. -/
def new (failures : UInt32) (output : Output) (delay : Nat) : Rehearsal :=
  ⟨failures, 0, output, delay⟩

/-- A call begins; whether it is to fail is settled there and then. -/
def call (r : Rehearsal) : Rehearsal × Bool :=
  let fails := 0 < r.failuresLeft
  let left := if fails && r.failuresLeft != always then r.failuresLeft - 1 else r.failuresLeft
  ({ r with failuresLeft := left, calls := r.calls + 1 }, fails)

@[simp] theorem calls_call (r : Rehearsal) : r.call.1.calls = r.calls + 1 := rfl

/-- The result of a call that is to fail or not. -/
def result (r : Rehearsal) (fails : Bool) : AttemptResult :=
  if fails then .error (.commandFailed (some 1) r.output) else .ok r.output

end Rehearsal

/-- Where a simulated job's attempts come from. -/
inductive AttemptSource where
  /-- nowhere; there are none -/
  | none
  | rehearsal (r : Rehearsal)
  /-- from a list of results and the milliseconds that they take, the last one again and again,
      of which some have been used -/
  | listed (attempts : List (AttemptResult × Nat)) (used : Nat)

namespace AttemptSource

/-- The next attempt: its result and the milliseconds that it takes. -/
def next : AttemptSource → AttemptSource × AttemptResult × Nat
  | .none => (.none, .ok .none, 0)
  | .rehearsal r =>
    let (r, fails) := r.call
    (.rehearsal r, r.result fails, r.delay)
  | .listed attempts used =>
    let (result, millis) := (attempts[min used (attempts.length - 1)]?).getD (.ok .none, 0)
    (.listed attempts (used + 1), result, millis)

/-- The number of calls made of a rehearsal. -/
def calls? : AttemptSource → Option Nat
  | .rehearsal r => some r.calls
  | _ => Option.none

end AttemptSource

end SyncFleet
