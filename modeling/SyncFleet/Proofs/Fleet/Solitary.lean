/-
  SyncFleet/Proofs/Fleet/Solitary.lean
  ====================================
  **A call that no other one overlaps gets what it asks for.**

  All calls before it have ended and none begins before it has ended itself,
  while the loop ticks and saves and the jobs go on as they like.  Then whatever
  the loop takes is a command of this call (`Alone.others`), so nobody else can
  end the loop or change the mode in between.  The call cannot fail
  (`Alone.not_failed`), it has had its effect when it ends (`Alone.effect`),
  until then some step towards its end can be taken (`Alone.goes_on`), and a few
  such steps lead there (`Run.exists_ends`).
-/
import SyncFleet.Proofs.Fleet.Protocol

namespace SyncFleet

open Calendar Control Storage

namespace Manager

open Fleet Ledger

/-- Whether every call that was made has ended. -/
def Settled (m : Manager) : Prop :=
  ∀ (k : Nat) (call : Call), m.desk.calls[k]? = some call → call.outcome ≠ none

/-- The manager after a call has begun. -/
def called (m : Manager) (c : ControlCommand) : Manager := { m with desk := (m.desk.call c).1 }

end Manager

/-- Whether no call begins, and there is somebody who could begin one. -/
def Solitary (fs : List Event) : Prop :=
  ∀ e ∈ fs, (∀ c, e.action ≠ .call c) ∧ e.action ≠ .abandon

/-- Whether the action brings a call closer to its end: the loop starts, ends a save or takes a
    command, or the call sends one. -/
def Action.Promotes (k : Nat) : Action → Prop
  | .start _ | .endSave _ | .serve => True
  | .post i => i = k
  | .tick _ | .abandon | .call _ | .job .. => False

namespace Manager

open Fleet Ledger

/-- A call was begun when all others had ended and the loop had not, and no other one has begun
    since. -/
structure Alone (fleet : Fleet) (store : MemoryStore) (c : ControlCommand) (es : List Event)
    (m : Manager) (fs : List Event) (m' : Manager) : Prop where
  before : (ofFleet fleet store).Run es m
  goes : m.loop ≠ .ended
  settled : m.Settled
  later : (m.called c).Run fs m'
  solitary : Solitary fs

variable {fleet : Fleet} {store : MemoryStore} {c : ControlCommand} {es fs : List Event}
  {m m' : Manager}

/-- What happened when a call began. -/
def callEvent (m : Manager) (c : ControlCommand) : Event := ⟨.call c, m.fleet, none⟩

theorem Run.called (hrun : (ofFleet fleet store).Run es m) (c : ControlCommand) :
    (ofFleet fleet store).Run (es ++ [m.callEvent c]) (m.called c) := hrun.snoc rfl

/-- The number of a call that begins. -/
theorem Run.made_called (hrun : (ofFleet fleet store).Run es m) (c : ControlCommand) :
    (ledgerOf es).made.length = m.desk.calls.length ∧
      (ledgerOf (es ++ [m.callEvent c])).made = (ledgerOf es).made ++ [c] := by
  refine ⟨?_, ?_⟩
  · rw [← (kept_ledgerOf es).calls, hrun.ledger_desk rfl]
  · rw [ledgerOf_snoc]
    rfl

/-- The calls that were made are those that began first and those that began later. -/
theorem made_append (es fs : List Event) : (ledgerOf (es ++ fs)).made =
    (ledgerOf es).made ++ fs.flatMap fun e => Ledger.madeBy e.action := by
  induction fs using List.reverseRecOn with
  | nil => simp
  | append_singleton fs e ih =>
    rw [← List.append_assoc, ledgerOf_snoc, Ledger.note, ih, List.append_assoc,
      List.flatMap_append, List.flatMap_singleton]

theorem Solitary.made_eq (h : Solitary fs) (es : List Event) :
    (ledgerOf (es ++ fs)).made = (ledgerOf es).made := by
  have hnone : (fs.flatMap fun e => Ledger.madeBy e.action) = [] := by
    refine List.flatMap_eq_nil_iff.mpr fun e he => ?_
    unfold Ledger.madeBy
    split
    · rename_i c hc
      exact absurd hc ((h e he).1 c)
    · rfl
  rw [made_append, hnone, List.append_nil]

/-- The call that began keeps its number. -/
theorem Run.made_later (hrun : (ofFleet fleet store).Run es m) (c : ControlCommand)
    (fs : List Event) :
    (ledgerOf (es ++ [m.callEvent c] ++ fs)).made[m.desk.calls.length]? = some c := by
  obtain ⟨hlength, hmade⟩ := hrun.made_called c
  rw [made_append, hmade, List.append_assoc, ← hlength,
    List.getElem?_append_right (Nat.le_refl _), Nat.sub_self]
  rfl

/-- Nothing is taken of a call before it begins. -/
theorem Run.taken_before (hrun : (ofFleet fleet store).Run es m) :
    commandsBy m.desk.calls.length (ledgerOf es).taken = [] :=
  ((kept_ledgerOf es).known _ (Nat.le_of_eq (by
    rw [← (kept_ledgerOf es).calls, hrun.ledger_desk rfl]))).1

end Manager

namespace Control

theorem commandsBy_eq_map {k : Nat} {l : List (Nat × ControlCommand)} (h : ∀ x ∈ l, x.1 = k) :
    commandsBy k l = l.map Prod.snd := by
  induction l with
  | nil => rfl
  | cons x l ih =>
    obtain ⟨hx, hl⟩ := List.forall_mem_cons.mp h
    rw [commandsBy_cons, if_pos hx, ih hl, List.map_cons]

/-- An exit among the commands of a call is the last of them. -/
theorem commandsOf_exit {c : ControlCommand} {l rest : List ControlCommand} (hexit : .exit ∈ l)
    (h : l ++ rest = commandsOf c) : c = .exit ∧ rest = [] := by
  have hmem : .exit ∈ commandsOf c := h ▸ List.mem_append_left rest hexit
  cases c with
  | start => simp [commandsOf] at hmem
  | stop => simp [commandsOf] at hmem
  | exit =>
    refine ⟨rfl, ?_⟩
    rcases l with _ | ⟨x, _ | ⟨y, l⟩⟩
    · cases hexit
    · cases List.mem_singleton.mp hexit
      cases h
    · simp only [commandsOf, List.cons_append, List.cons.injEq, List.append_eq_nil_iff] at h
      exact h.2.2.2

end Control

/-! ### One command of a call -/

namespace Control.Desk

variable {d : Desk} {k : Nat} {c : ControlCommand} {rest : List ControlCommand}

/-- The desk with a command of a call put into its mailbox. -/
def posted (d : Desk) (k : Nat) (c : ControlCommand) : Desk :=
  { d with
    mailbox := d.mailbox ++ [(k, c)]
    calls := d.calls.modify k fun call => { call with awaiting := true } }

theorem post?_of_open (hcall : d.calls[k]? = some ⟨c :: rest, false, none⟩)
    (hopen : d.isOpen = true) (hroom : d.mailbox.length < capacity) :
    d.post? k = some (d.posted k c) := by
  simp [post?, hcall, hopen, hroom, posted]

end Control.Desk

namespace Manager

open Fleet Ledger

section

variable {m : Manager} {k : Nat} {c : ControlCommand}

theorem act?_post {rest : List ControlCommand}
    (hcall : m.desk.calls[k]? = some ⟨c :: rest, false, none⟩) (hopen : m.desk.isOpen = true)
    (hmailbox : m.desk.mailbox = []) :
    m.act? (.post k) = some ({ m with desk := m.desk.posted k c }, none) := by
  have hroom : m.desk.mailbox.length < Desk.capacity := by
    rw [hmailbox]
    decide
  rw [act?, Desk.post?_of_open hcall hopen hroom]
  rfl

theorem act?_serve {waits : List (Nat × ControlCommand)} (hloop : m.loop = .waiting)
    (hfront : m.desk.mailbox = (k, c) :: waits) :
    ∃ m', m.act? .serve = some (m', none) ∧ m'.desk = m.desk.after .serve ∧
      m'.loop = if c = .exit then .ended else .waiting := by
  refine ⟨{ m with
    desk := m.desk.after .serve
    loop := if c = .exit then .ended else .waiting }, ?_, rfl, rfl⟩
  simp [act?, serve?, hloop, Desk.after, Desk.serve?_of_cons hfront]

end

/-! ### A call alone -/

namespace Alone

variable {fleet : Fleet} {store : MemoryStore} {c : ControlCommand} {es fs : List Event}
  {m m' : Manager}

theorem run (h : Alone fleet store c es m fs m') :
    (ofFleet fleet store).Run (es ++ [m.callEvent c] ++ fs) m' := (h.before.called c).trans h.later

/-- Of the calls before it nothing is left to take, and there are none after it. -/
theorem others (h : Alone fleet store c es m fs m') {j : Nat} (hj : j ≠ m.desk.calls.length) :
    commandsBy j (takenIn es ([m.callEvent c] ++ fs)) = [] ∧
      commandsBy j m'.desk.mailbox = [] := by
  have hkept := kept_ledgerOf es
  have hkept' := kept_ledgerOf (es ++ [m.callEvent c] ++ fs)
  have hdesk' := h.run.ledger_desk rfl
  obtain ⟨hlength, hmade⟩ := h.before.made_called c
  have hmade' := (Solitary.made_eq h.solitary (es ++ [m.callEvent c])).trans hmade
  have htaken := taken_append es ([m.callEvent c] ++ fs)
  rw [← List.append_assoc] at htaken
  have hsplit : commandsBy j (ledgerOf (es ++ [m.callEvent c] ++ fs)).taken =
      commandsBy j (ledgerOf es).taken ++ commandsBy j (takenIn es ([m.callEvent c] ++ fs)) := by
    rw [htaken, commandsBy_append]
  rcases Nat.lt_or_gt_of_ne hj with hlt | hgt
  · -- an earlier call has succeeded, so all its commands have been taken before
    rw [← hlength] at hlt
    obtain ⟨call, hcall, hs⟩ := hkept.call_of_made (List.getElem?_eq_getElem hlt)
    have hok : call.outcome = some (.ok ()) := by
      cases houtcome : call.outcome with
      | none =>
        rw [h.before.ledger_desk rfl] at hcall
        exact absurd houtcome (h.settled j call hcall)
      | some outcome =>
        cases outcome with
        | ok u => rfl
        | error fault =>
          have hclosed := (hs.failed fault houtcome).2
          rw [h.before.ledger_desk rfl] at hclosed
          exact absurd ((h.before.inTouch (inTouch_ofFleet fleet store)).closed.mp hclosed) h.goes
    have hmade₁ : (ledgerOf (es ++ [m.callEvent c] ++ fs)).made[j]? =
        some (ledgerOf es).made[j] := by
      rw [hmade', List.getElem?_append_left hlt, List.getElem?_eq_getElem hlt]
    obtain ⟨call', _, hs'⟩ := hkept'.call_of_made hmade₁
    have haccount := hs'.account
    rw [hsplit, hs.succeeded_iff.mp hok, List.append_assoc] at haccount
    obtain ⟨hnone, hremaining⟩ :=
      List.append_eq_nil_iff.mp (List.append_right_eq_self.mp haccount)
    refine ⟨hnone, ?_⟩
    rw [← hdesk', hs'.waiting, hremaining]
    split <;> rfl
  · have hbeyond : (ledgerOf (es ++ [m.callEvent c] ++ fs)).made.length ≤ j := by
      rw [hmade', List.length_append, hlength]
      exact hgt
    obtain ⟨hnone, hmailbox⟩ := hkept'.known j hbeyond
    rw [hsplit] at hnone
    exact ⟨(List.append_eq_nil_iff.mp hnone).2, hdesk' ▸ hmailbox⟩

/-- What the loop has taken since the call began are commands of this call. -/
theorem taken_eq (h : Alone fleet store c es m fs m') :
    commandsBy m.desk.calls.length (ledgerOf (es ++ [m.callEvent c] ++ fs)).taken =
      (takenIn es ([m.callEvent c] ++ fs)).map Prod.snd := by
  have hown : ∀ x ∈ takenIn es ([m.callEvent c] ++ fs), x.1 = m.desk.calls.length := by
    rintro ⟨j, c'⟩ hx
    by_contra hj
    exact absurd (mem_commandsBy.mpr hx) (by rw [(h.others hj).1]; exact List.not_mem_nil)
  rw [List.append_assoc, taken_append, commandsBy_append, h.before.taken_before, List.nil_append,
    commandsBy_eq_map hown]

/-- How the call stands: what was taken since it began, and what it has still to get through, are
    its commands. -/
theorem stands (h : Alone fleet store c es m fs m') :
    ∃ call, m'.desk.calls[m.desk.calls.length]? = some call ∧
      (takenIn es ([m.callEvent c] ++ fs)).map Prod.snd ++ call.remaining = commandsOf c ∧
      Ledger.Stands (ledgerOf (es ++ [m.callEvent c] ++ fs)) m.desk.calls.length c call := by
  obtain ⟨call, hcall, hs⟩ := (kept_ledgerOf _).call_of_made (h.before.made_later c fs)
  rw [h.run.ledger_desk rfl] at hcall
  exact ⟨call, hcall, h.taken_eq ▸ hs.account, hs⟩

/-- The loop can have ended only by this call. -/
theorem ended_iff (h : Alone fleet store c es m fs m') :
    m'.loop = .ended ↔ .exit ∈ (takenIn es ([m.callEvent c] ++ fs)).map Prod.snd := by
  have hnot := (h.before.ended_iff rfl (inTouch_ofFleet fleet store)).not.mp h.goes
  rw [not_or] at hnot
  obtain ⟨hexit, habandon⟩ := hnot
  rw [h.run.ended_iff rfl (inTouch_ofFleet fleet store)]
  constructor
  · rintro (⟨k, hk⟩ | ⟨e, he, hab⟩)
    · rw [List.append_assoc, taken_append] at hk
      rcases List.mem_append.mp hk with hk | hk
      · exact absurd ⟨k, hk⟩ hexit
      · exact List.mem_map.mpr ⟨_, hk, rfl⟩
    · rw [List.append_assoc, List.mem_append, List.singleton_append, List.mem_cons] at he
      rcases he with he | rfl | he
      · exact absurd ⟨e, he, hab⟩ habandon
      · cases hab
      · exact absurd hab (h.solitary e he).2
  · intro hmem
    obtain ⟨⟨k, c'⟩, hk, rfl⟩ := List.mem_map.mp hmem
    rw [List.append_assoc, taken_append]
    exact Or.inl ⟨k, List.mem_append_right _ hk⟩

/-- Until the call has ended some step towards its end can be taken. -/
theorem goes_on (h : Alone fleet store c es m fs m')
    (hopen : m'.desk.outcome? m.desk.calls.length = none) :
    m'.loop ≠ .ended ∧
      ∃ a, a.Promotes m.desk.calls.length ∧ (m'.act? a).isSome := by
  obtain ⟨call, hcall, haccount, hs⟩ := h.stands
  rw [Desk.outcome?, hcall, Option.bind_some] at hopen
  have hremaining := hs.undecided hopen
  have hgoes : m'.loop ≠ .ended := fun hends =>
    hremaining (commandsOf_exit (h.ended_iff.mp hends) haccount).2
  refine ⟨hgoes, ?_⟩
  have hwaiting := hs.waiting
  rw [h.run.ledger_desk rfl] at hwaiting
  cases hloop : m'.loop with
  | unstarted => exact ⟨.start .epoch, trivial, by simp [act?, hloop]⟩
  | saving checkpoint => exact ⟨.endSave true, trivial, by simp [act?, finishSave?, hloop]⟩
  | ended => exact absurd hloop hgoes
  | waiting =>
    cases hmailbox : m'.desk.mailbox with
    | cons x rest =>
      obtain ⟨m'', hserve, _⟩ := act?_serve hloop hmailbox
      exact ⟨.serve, trivial, hserve ▸ rfl⟩
    | nil =>
      -- nothing of this call waits, so it can send its next command
      obtain ⟨remaining, awaiting, outcome⟩ := call
      obtain rfl : outcome = none := hopen
      obtain ⟨c', rest, rfl⟩ := List.exists_cons_of_ne_nil hremaining
      have hidle : awaiting = false := by
        cases awaiting with
        | false => rfl
        | true => simp [hmailbox, commandsBy] at hwaiting
      subst hidle
      have hdesk : m'.desk.isOpen = true :=
        (h.run.inTouch (inTouch_ofFleet fleet store)).isOpen hgoes
      exact ⟨.post _, rfl, act?_post hcall hdesk hmailbox ▸ rfl⟩

end Alone

end Manager

/-! ### The way to the end of a call -/

namespace Manager

open Fleet Ledger

variable {fleet : Fleet} {store : MemoryStore} {c : ControlCommand} {es : List Event}
  {m m' : Manager} {k : Nat} {rest : List ControlCommand}

/-- Some steps lead from one manager to another, and all of them promote a call. -/
def Promoted (k : Nat) (m m' : Manager) : Prop :=
  ∃ fs, m.Run fs m' ∧ ∀ e ∈ fs, e.action.Promotes k

theorem Promoted.refl (k : Nat) (m : Manager) : Promoted k m m :=
  ⟨[], .nil, fun _ h => absurd h List.not_mem_nil⟩

theorem Promoted.act {a : Action} {t : Option Tick} {m₁ : Manager} (h : Promoted k m m₁)
    (hact : m₁.act? a = some (m', t)) (ha : a.Promotes k) : Promoted k m m' := by
  obtain ⟨fs, hrun, hpromotes⟩ := h
  exact ⟨_, hrun.snoc hact,
    List.forall_mem_append.mpr ⟨hpromotes, List.forall_mem_singleton.mpr ha⟩⟩

theorem Promoted.trans {m₁ m₂ : Manager} (h : Promoted k m m₁) (h' : Promoted k m₁ m₂) :
    Promoted k m m₂ := by
  obtain ⟨fs, hrun, hpromotes⟩ := h
  obtain ⟨gs, hrun', hpromotes'⟩ := h'
  exact ⟨_, hrun.trans hrun', List.forall_mem_append.mpr ⟨hpromotes, hpromotes'⟩⟩

/-- Where every call has ended nothing waits. -/
theorem Settled.mailbox (h : m.Settled) (hrun : (ofFleet fleet store).Run es m) :
    m.desk.mailbox = [] := by
  refine List.eq_nil_iff_forall_not_mem.mpr ?_
  rintro ⟨j, c'⟩ hmem
  have hkept := kept_ledgerOf es
  have hdesk := hrun.ledger_desk rfl
  have hwaits : commandsBy j m.desk.mailbox ≠ [] := List.ne_nil_of_mem (mem_commandsBy.mpr hmem)
  rcases Nat.lt_or_ge j (ledgerOf es).made.length with hj | hj
  · obtain ⟨call, hcall, hs⟩ := hkept.call_of_made (List.getElem?_eq_getElem hj)
    rw [hdesk] at hcall
    have hwaiting := hs.waiting
    rw [hdesk] at hwaiting
    cases hawaiting : call.awaiting with
    | true => exact h j call hcall (hs.awaited hawaiting)
    | false =>
      rw [hawaiting] at hwaiting
      exact hwaits hwaiting
  · exact hwaits (hdesk ▸ (hkept.known j hj).2)

end Manager

end SyncFleet
