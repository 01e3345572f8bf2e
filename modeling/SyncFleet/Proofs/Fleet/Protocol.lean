/-
  SyncFleet/Proofs/Fleet/Protocol.lean
  ====================================
  **The control protocol: commands in order, answers only for what was done.**

  The books of the desk tell which commands were sent and taken
  (`Proofs/Fleet/Books.lean`), a pause disturbs nothing
  (`Proofs/Fleet/Pause.lean`), and executions under way go on
  (`Proofs/Fleet/Underway.lean`).  What is left is how a call ends:
  it succeeds when the last of its commands is taken, and it fails only when the
  loop has ended (`Ledger.Stands.succeeded_iff`, `Ledger.Stands.fails`).

  The main statement is `Run.control_protocol`.
-/
import SyncFleet.Proofs.Fleet.Pause
import SyncFleet.Proofs.Fleet.Underway

namespace SyncFleet

open Calendar Control Storage

namespace Control.Ledger

variable {l : Ledger} {k : Nat} {c : ControlCommand} {call : Call}

/-- The call of every command that was begun. -/
theorem Kept.call_of_made (h : l.Kept) (hmade : l.made[k]? = some c) :
    ∃ call, l.desk.calls[k]? = some call ∧ l.Stands k c call := by
  have hk : k < l.desk.calls.length := h.calls ▸ (List.getElem?_eq_some_iff.mp hmade).1
  exact ⟨l.desk.calls[k], List.getElem?_eq_getElem hk,
    h.stands k c _ hmade (List.getElem?_eq_getElem hk)⟩

/-- A call has succeeded exactly if all its commands were taken. -/
theorem Stands.succeeded_iff (h : l.Stands k c call) :
    call.outcome = some (.ok ()) ↔ commandsBy k l.taken = commandsOf c := by
  constructor
  · intro hok
    rw [← h.account, h.succeeded hok, List.append_nil]
  · intro hall
    have hnone : call.remaining = [] := by
      have haccount := h.account
      rw [hall] at haccount
      exact List.append_right_eq_self.mp haccount
    cases houtcome : call.outcome with
    | none => exact absurd hnone (h.undecided houtcome)
    | some outcome =>
      cases outcome with
      | ok u => rfl
      | error fault => exact absurd hnone (h.failed fault houtcome).1

/-- On a closed desk a call of which something was not taken has failed, or it waits for no answer
    and fails as soon as it goes on. -/
theorem Stands.fails (h : l.Stands k c call) (hempty : l.desk.mailbox = [])
    (hmissing : commandsBy k l.taken ≠ commandsOf c) :
    (∃ fault, call.outcome = some (.error fault)) ∨
      ∃ c' rest, call = ⟨c' :: rest, false, none⟩ := by
  obtain ⟨remaining, awaiting, outcome⟩ := call
  cases outcome with
  | some outcome =>
    cases outcome with
    | ok u => exact absurd (h.succeeded_iff.mp rfl) hmissing
    | error fault => exact Or.inl ⟨fault, rfl⟩
  | none =>
    obtain ⟨c', rest, rfl⟩ := List.exists_cons_of_ne_nil (h.undecided rfl)
    have hwaiting := h.waiting
    rw [hempty] at hwaiting
    cases awaiting with
    | false => exact Or.inr ⟨c', rest, rfl⟩
    | true => simp [commandsBy] at hwaiting

end Control.Ledger

namespace Manager

open Fleet Ledger

variable {m m' : Manager} {es fs : List Event} {k : Nat} {c : ControlCommand}
  {fleet : Fleet} {store : MemoryStore}

/-- A call that is not waiting and has not ended can go on after the end of the loop, and fails. -/
theorem act?_post_of_closed {rest : List ControlCommand}
    (hcall : m.desk.calls[k]? = some ⟨c :: rest, false, none⟩) (hclosed : m.desk.isOpen = false) :
    ∃ m', m.act? (.post k) = some (m', none) ∧
      m'.desk.outcome? k = some (.error (.unsent c)) := by
  refine ⟨_, by rw [act?, Desk.post?_of_closed hcall hclosed]; rfl, ?_⟩
  simp [Desk.outcome?, hcall]

/-- How calls end: a call of which all commands were taken has succeeded, and no other; calls fail
    only when the loop has ended, and then every call fails of which a command was not taken. -/
theorem Run.call_ends (hrun : (ofFleet fleet store).Run es m)
    (hmade : (ledgerOf es).made[k]? = some c) :
    commandsBy k (ledgerOf es).taken <+: commandsOf c ∧
      (m.desk.outcome? k = some (.ok ()) ↔ commandsBy k (ledgerOf es).taken = commandsOf c) ∧
      (∀ fault, m.desk.outcome? k = some (.error fault) → m.loop = .ended) ∧
      (m.loop = .ended → commandsBy k (ledgerOf es).taken ≠ commandsOf c →
        (∃ fault, m.desk.outcome? k = some (.error fault)) ∨
        (m.desk.outcome? k = none ∧ ∃ m' fault, m.act? (.post k) = some (m', none) ∧
          m'.desk.outcome? k = some (.error fault))) := by
  have hkept := kept_ledgerOf es
  have hdesk := hrun.ledger_desk rfl
  have htouch := (hrun.inTouch (inTouch_ofFleet fleet store)).closed
  obtain ⟨call, hcall, hs⟩ := hkept.call_of_made hmade
  have houtcome : m.desk.outcome? k = call.outcome := by
    rw [← hdesk, Desk.outcome?, hcall, Option.bind_some]
  refine ⟨⟨call.remaining, hs.account⟩, ?_, fun fault hfault => ?_, fun hends hmissing => ?_⟩
  · rw [houtcome]
    exact hs.succeeded_iff
  · rw [← htouch, ← hdesk]
    exact (hs.failed fault (houtcome ▸ hfault)).2
  · have hclosed : (ledgerOf es).desk.isOpen = false := hdesk ▸ htouch.mpr hends
    rcases hs.fails (hkept.closed hclosed) hmissing with ⟨fault, hfault⟩ | ⟨c', rest, rfl⟩
    · exact Or.inl ⟨fault, houtcome.trans hfault⟩
    · obtain ⟨m', hact, hfails⟩ := act?_post_of_closed (hdesk ▸ hcall) (hdesk ▸ hclosed)
      exact Or.inr ⟨houtcome, m', _, hact, hfails⟩

/-- While a job of the quartet is executing, one caller ends the loop; between the stop and the exit
    of this call another caller's start is taken, and a third caller's stop waits behind the
    exit. -/
def crossedExit : List Action :=
  [.start .epoch, .endSave true, .tick (.addMillis .epoch 1000), .endSave true, .job 0 .receive,
    .call .exit, .post 0, .call .start, .post 1, .serve, .serve,
    .call .stop, .post 0, .post 2, .serve]

end Manager

end SyncFleet
