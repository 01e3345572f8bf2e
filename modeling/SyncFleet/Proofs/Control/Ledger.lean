/-
  SyncFleet/Proofs/Control/Ledger.lean
  ====================================
  **The books of the decision loop's desk: calls made, commands sent, commands taken.**

  A desk keeps the mode, the mailbox and the state of each call, and forgets
  which commands it has seen.  The `Ledger` keeps them, for any sequence of
  actions, and `Ledger.Kept` says how the desk and its books agree:

  * what was sent is what was taken, then what waits, then what was lost when
    the desk was closed, in this order;
  * the mode is what the commands taken make of it, one after the other;
  * every call has had an initial part of its commands taken, it waits in the
    mailbox with at most one more, and it has succeeded exactly if all of them
    were taken (`Ledger.Stands`).

  `Ledger.Kept.note` proves that no action disturbs this, by one lemma for each
  thing that can happen to a desk.
-/
import SyncFleet.Proofs.Fleet.Run

namespace SyncFleet.Control

/-! ### What an action does to the desk -/

namespace Desk

/-- The desk after an action; an action that cannot be taken leaves it as it was. -/
def after (d : Desk) : Action → Desk
  | .call c => (d.call c).1
  | .post k => (d.post? k).getD d
  | .serve => (d.serve?.map Prod.fst).getD d
  | .abandon => d.close
  | .start _ | .endSave _ | .tick _ | .job .. => d

/-- What an action puts behind the commands that wait. -/
def sentBy (d : Desk) : Action → List (Nat × ControlCommand)
  | .post k => (d.after (.post k)).mailbox.drop d.mailbox.length
  | _ => []

/-- What an action takes from the front of the commands that wait. -/
def takenBy (d : Desk) : Action → List (Nat × ControlCommand)
  | .serve => d.mailbox.take 1
  | _ => []

variable {d d' : Desk} {k : Nat}

/-- A call that sends a command is not waiting for an answer and has not ended.  On a closed desk it
    fails, and otherwise the command joins the mailbox. -/
theorem post?_eq_some (h : d.post? k = some d') :
    ∃ c rest, d.calls[k]? = some ⟨c :: rest, false, none⟩ ∧
      ((d.isOpen = false ∧ d' = { d with calls := d.calls.modify k (·.fail (.unsent c)) }) ∨
        (d.isOpen = true ∧ d' = { d with
          mailbox := d.mailbox ++ [(k, c)]
          calls := d.calls.modify k fun call => { call with awaiting := true } })) := by
  unfold post? at h
  split at h
  · rename_i c rest hcall
    refine ⟨c, rest, hcall, ?_⟩
    split at h
    · rename_i hclosed
      exact Or.inl ⟨by simpa using hclosed, (Option.some.inj h).symm⟩
    · rename_i hopen
      split at h
      · exact Or.inr ⟨by simpa using hopen, (Option.some.inj h).symm⟩
      · cases h
  · cases h

/-- On a closed desk a call that is not waiting and has not ended can go on, and fails. -/
theorem post?_of_closed {c : ControlCommand} {rest : List ControlCommand}
    (hcall : d.calls[k]? = some ⟨c :: rest, false, none⟩) (hclosed : d.isOpen = false) :
    d.post? k = some { d with calls := d.calls.modify k (·.fail (.unsent c)) } := by
  simp [post?, hcall, hclosed]

theorem serve?_of_nil (h : d.mailbox = []) : d.serve? = none := by
  simp [serve?, h]

/-- The desk with its first command taken and answered. -/
def served (d : Desk) (k : Nat) (c : ControlCommand) (rest : List (Nat × ControlCommand)) : Desk :=
  { d with
    mode := modeAfter d.mode c
    mailbox := rest
    calls := d.calls.modify k Call.answered }

@[simp] theorem isOpen_served (d : Desk) (k : Nat) (c : ControlCommand)
    (rest : List (Nat × ControlCommand)) : (d.served k c rest).isOpen = d.isOpen := rfl

@[simp] theorem mailbox_served (d : Desk) (k : Nat) (c : ControlCommand)
    (rest : List (Nat × ControlCommand)) : (d.served k c rest).mailbox = rest := rfl

@[simp] theorem length_served_calls (d : Desk) (k : Nat) (c : ControlCommand)
    (rest : List (Nat × ControlCommand)) : (d.served k c rest).calls.length = d.calls.length :=
  List.length_modify ..

theorem serve?_of_cons {c : ControlCommand} {rest : List (Nat × ControlCommand)}
    (h : d.mailbox = (k, c) :: rest) :
    d.serve? = some (if c = .exit then (d.served k c rest).close else d.served k c rest, c) := by
  simp [serve?, h, served]

end Desk

/-! ### Commands of one call -/

/-- The commands that a call has among others, in their order. -/
def commandsBy (k : Nat) (l : List (Nat × ControlCommand)) : List ControlCommand :=
  l.filterMap fun x => if x.1 = k then some x.2 else none

section CommandsBy

variable {k i : Nat} {c : ControlCommand} {l more : List (Nat × ControlCommand)}

@[simp]
theorem commandsBy_append : commandsBy k (l ++ more) = commandsBy k l ++ commandsBy k more :=
  List.filterMap_append

theorem commandsBy_cons :
    commandsBy k ((i, c) :: l) = if i = k then c :: commandsBy k l else commandsBy k l := by
  by_cases h : i = k <;> simp [commandsBy, h]

@[simp] theorem commandsBy_singleton : commandsBy k [(i, c)] = if i = k then [c] else [] :=
  commandsBy_cons

theorem mem_commandsBy : c ∈ commandsBy k l ↔ (k, c) ∈ l := by
  simp only [commandsBy, List.mem_filterMap]
  constructor
  · rintro ⟨⟨i, c'⟩, hmem, heq⟩
    split at heq
    · rename_i hi
      cases heq
      exact hi ▸ hmem
    · cases heq
  · intro hmem
    exact ⟨(k, c), hmem, if_pos rfl⟩

end CommandsBy

/-- Closing a desk fails the calls that wait in its mailbox, and no other. -/
theorem getElem?_close_calls (d : Desk) (k : Nat) :
    d.close.calls[k]? = (d.calls[k]?).map fun call =>
      (commandsBy k d.mailbox).foldl (fun call c => call.fail (.unanswered c)) call := by
  obtain ⟨mode, isOpen, mailbox, calls⟩ := d
  simp only [Desk.close]
  induction mailbox generalizing calls with
  | nil => simp [commandsBy]
  | cons x rest ih =>
    obtain ⟨i, c⟩ := x
    rw [List.foldl_cons, ih, List.getElem?_modify, commandsBy_cons]
    by_cases h : i = k <;> cases calls[k]? <;> simp [h]

@[simp] theorem length_close_calls (d : Desk) : d.close.calls.length = d.calls.length := by
  obtain ⟨mode, isOpen, mailbox, calls⟩ := d
  simp only [Desk.close]
  induction mailbox generalizing calls with
  | nil => rfl
  | cons x rest ih => rw [List.foldl_cons, ih, List.length_modify]

/-! ### The ledger -/

/-- A desk with its books: the commands with which calls were begun, by the numbers of the calls,
    and the commands that were sent and that were taken, in order. -/
structure Ledger where
  desk : Desk
  made : List ControlCommand
  sent : List (Nat × ControlCommand)
  taken : List (Nat × ControlCommand)

namespace Ledger

/-- Nobody has called yet. -/
def blank : Ledger := ⟨.initial, [], [], []⟩

/-- The call that an action begins. -/
def madeBy : Action → List ControlCommand
  | .call c => [c]
  | _ => []

/-- The ledger with an action noted. -/
def note (l : Ledger) (a : Action) : Ledger where
  desk := l.desk.after a
  made := l.made ++ madeBy a
  sent := l.sent ++ l.desk.sentBy a
  taken := l.taken ++ l.desk.takenBy a

/-- How a call stands that was begun with a command: what was taken of it and what it has still to
    get through are its commands. -/
structure Stands (l : Ledger) (k : Nat) (c : ControlCommand) (call : Call) : Prop where
  account : commandsBy k l.taken ++ call.remaining = commandsOf c
  waiting : commandsBy k l.desk.mailbox = if call.awaiting then call.remaining.take 1 else []
  awaited : call.awaiting = true → call.outcome = none
  undecided : call.outcome = none → call.remaining ≠ []
  succeeded : call.outcome = some (.ok ()) → call.remaining = []
  failed : ∀ fault, call.outcome = some (.error fault) →
    call.remaining ≠ [] ∧ l.desk.isOpen = false

/-- A desk and its books agree. -/
structure Kept (l : Ledger) : Prop where
  calls : l.desk.calls.length = l.made.length
  stands : ∀ k c call, l.made[k]? = some c → l.desk.calls[k]? = some call → l.Stands k c call
  known : ∀ k, l.made.length ≤ k →
    commandsBy k l.taken = [] ∧ commandsBy k l.desk.mailbox = []
  order : ∃ lost, l.sent = l.taken ++ l.desk.mailbox ++ lost ∧ (l.desk.isOpen = true → lost = [])
  closed : l.desk.isOpen = false → l.desk.mailbox = []
  mode : l.desk.mode = l.taken.foldl (fun mode x => Desk.modeAfter mode x.2) .running

variable {l l' : Ledger} {k : Nat} {c : ControlCommand}

theorem kept_blank : blank.Kept where
  calls := rfl
  stands := by intro k c call hmade; simp [blank] at hmade
  known := fun _ _ => ⟨rfl, rfl⟩
  order := ⟨[], rfl, fun _ => rfl⟩
  closed := fun _ => rfl
  mode := rfl

theorem commandsOf_ne_nil (c : ControlCommand) : commandsOf c ≠ [] := by
  cases c <;> simp [commandsOf]

/-- A call stands as it did if nothing was taken of it and it waits as it did. -/
theorem Stands.congr {call : Call} (h : l.Stands k c call)
    (htaken : commandsBy k l'.taken = commandsBy k l.taken)
    (hwaits : commandsBy k l'.desk.mailbox = commandsBy k l.desk.mailbox)
    (hopen : l.desk.isOpen = false → l'.desk.isOpen = false) : l'.Stands k c call where
  account := htaken ▸ h.account
  waiting := hwaits ▸ h.waiting
  awaited := h.awaited
  undecided := h.undecided
  succeeded := h.succeeded
  failed := fun fault hfault => (h.failed fault hfault).imp_right hopen

/-- Where one call goes on and the others stand as they did, every call stands. -/
theorem Kept.stands_modify {f : Call → Call} (h : l.Kept) (hmade : l'.made = l.made)
    (hcalls : l'.desk.calls = l.desk.calls.modify k f)
    (hself : ∀ c call, l.desk.calls[k]? = some call → l.Stands k c call → l'.Stands k c (f call))
    (hothers : ∀ i ≠ k, ∀ c call, l.Stands i c call → l'.Stands i c call) :
    ∀ i c call, l'.made[i]? = some c → l'.desk.calls[i]? = some call → l'.Stands i c call := by
  intro i c call hi hcall
  rw [hcalls, List.getElem?_modify] at hcall
  obtain ⟨before, hbefore, rfl⟩ := Option.map_eq_some_iff.mp hcall
  have hs := h.stands i c before (hmade ▸ hi) hbefore
  by_cases hk : k = i
  · subst hk
    rw [if_pos rfl]
    exact hself c before hbefore hs
  · rw [if_neg hk]
    exact hothers i (Ne.symm hk) c before hs

/-! ### Calls begin -/

/-- A call that has just begun has all its commands before it. -/
theorem stands_new (htaken : commandsBy k l.taken = []) (hwaits : commandsBy k l.desk.mailbox = []) :
    l.Stands k c ⟨commandsOf c, false, none⟩ where
  account := by rw [htaken, List.nil_append]
  waiting := hwaits
  awaited := by simp
  undecided := fun _ => commandsOf_ne_nil c
  succeeded := by simp
  failed := by simp

theorem Kept.called (h : l.Kept) (c : ControlCommand) :
    Kept { l with desk := (l.desk.call c).1, made := l.made ++ [c] } where
  calls := by simp [Desk.call, h.calls]
  stands := by
    intro k c' call hmade hcall
    rcases Nat.lt_or_ge k l.made.length with hk | hk
    · rw [List.getElem?_append_left hk] at hmade
      rw [Desk.call, List.getElem?_append_left (h.calls ▸ hk)] at hcall
      exact (h.stands k c' call hmade hcall).congr rfl rfl id
    · obtain ⟨htaken, hwaits⟩ := h.known k hk
      rw [List.getElem?_append_right hk, List.getElem?_singleton] at hmade
      rw [Desk.call, List.getElem?_append_right (h.calls ▸ hk), List.getElem?_singleton] at hcall
      split at hmade
      · cases hmade
        split at hcall
        · cases hcall
          exact stands_new htaken hwaits
        · cases hcall
      · cases hmade
  known := fun k hk => h.known k (by rw [List.length_append] at hk; omega)
  order := h.order
  closed := h.closed
  mode := h.mode

/-! ### Commands are sent -/

/-- A call that cannot send its command fails. -/
theorem Stands.unsent {rest : List ControlCommand} {c' : ControlCommand}
    (h : l.Stands k c ⟨c' :: rest, false, none⟩) (hclosed : l.desk.isOpen = false) :
    l.Stands k c (Call.fail ⟨c' :: rest, false, none⟩ (.unsent c')) where
  account := h.account
  waiting := h.waiting
  awaited := by simp
  undecided := by simp
  succeeded := by simp
  failed := fun _ _ => ⟨List.cons_ne_nil _ _, hclosed⟩

theorem Kept.unsent {rest : List ControlCommand} (h : l.Kept)
    (hcall : l.desk.calls[k]? = some ⟨c :: rest, false, none⟩) (hclosed : l.desk.isOpen = false) :
    Kept { l with desk := { l.desk with calls := l.desk.calls.modify k (·.fail (.unsent c)) } } where
  calls := by simp [h.calls]
  stands := by
    refine h.stands_modify rfl rfl (fun c' call hcall' hs => ?_) fun i _ c' call hs =>
      hs.congr rfl rfl id
    rw [hcall] at hcall'
    cases hcall'
    exact (hs.unsent hclosed).congr rfl rfl id
  known := h.known
  order := h.order
  closed := h.closed
  mode := h.mode

/-- A call that has sent its command waits for the answer. -/
theorem Stands.sent {rest : List ControlCommand} {c' : ControlCommand}
    (h : l.Stands k c ⟨c' :: rest, false, none⟩)
    (htaken : commandsBy k l'.taken = commandsBy k l.taken)
    (hwaits : commandsBy k l'.desk.mailbox = commandsBy k l.desk.mailbox ++ [c']) :
    l'.Stands k c ⟨c' :: rest, true, none⟩ where
  account := htaken ▸ h.account
  waiting := by rw [hwaits, h.waiting]; rfl
  awaited := fun _ => rfl
  undecided := fun _ => List.cons_ne_nil _ _
  succeeded := by simp
  failed := by simp

theorem Kept.sent {rest : List ControlCommand} (h : l.Kept)
    (hcall : l.desk.calls[k]? = some ⟨c :: rest, false, none⟩) (hopen : l.desk.isOpen = true) :
    Kept { l with
      desk := { l.desk with
        mailbox := l.desk.mailbox ++ [(k, c)]
        calls := l.desk.calls.modify k fun call => { call with awaiting := true } }
      sent := l.sent ++ [(k, c)] } where
  calls := by simp [h.calls]
  stands := by
    refine h.stands_modify rfl rfl (fun c' call hcall' hs => ?_) fun i hi c' call hs => ?_
    · rw [hcall] at hcall'
      cases hcall'
      exact hs.sent rfl (by rw [commandsBy_append, commandsBy_singleton, if_pos rfl])
    · refine hs.congr rfl ?_ id
      rw [commandsBy_append, commandsBy_singleton, if_neg hi.symm, List.append_nil]
  known := by
    intro i hi
    have hne : k ≠ i := by
      have hk : k < l.made.length := h.calls ▸ (List.getElem?_eq_some_iff.mp hcall).1
      exact Nat.ne_of_lt (Nat.lt_of_lt_of_le hk hi)
    rw [commandsBy_append, commandsBy_singleton, if_neg hne, List.append_nil]
    exact h.known i hi
  order := by
    obtain ⟨lost, hsent, hlost⟩ := h.order
    refine ⟨[], ?_, fun _ => rfl⟩
    rw [hsent, hlost hopen]
    simp
  closed := by
    intro hclosed
    rw [hopen] at hclosed
    cases hclosed
  mode := h.mode

/-! ### Commands are taken -/

/-- A call whose command waits in front waits with this command alone, and it comes next. -/
theorem Stands.of_front {call : Call} {rest : List (Nat × ControlCommand)} {c' : ControlCommand}
    (h : l.Stands k c call) (hfront : l.desk.mailbox = (k, c') :: rest) :
    commandsBy k rest = [] ∧ ∃ more, call = ⟨c' :: more, true, none⟩ := by
  obtain ⟨remaining, awaiting, outcome⟩ := call
  have hwaiting := h.waiting
  rw [hfront, commandsBy_cons, if_pos rfl] at hwaiting
  cases awaiting with
  | false => simp at hwaiting
  | true =>
    obtain rfl : outcome = none := h.awaited rfl
    cases remaining with
    | nil => simp at hwaiting
    | cons c'' more =>
      simp only [if_true, List.take_succ_cons, List.take_zero, List.cons.injEq] at hwaiting
      obtain ⟨rfl, hrest⟩ := hwaiting
      exact ⟨hrest, more, rfl⟩

/-- A call whose command is taken goes on with the next one, or has succeeded. -/
theorem Stands.answered {more : List ControlCommand} {c' : ControlCommand}
    (h : l.Stands k c ⟨c' :: more, true, none⟩)
    (htaken : commandsBy k l'.taken = commandsBy k l.taken ++ [c'])
    (hwaits : commandsBy k l'.desk.mailbox = []) :
    l'.Stands k c (Call.answered ⟨c' :: more, true, none⟩) := by
  have haccount := h.account
  cases more with
  | nil =>
    exact {
      account := by rw [htaken, ← haccount]; simp
      waiting := hwaits
      awaited := by simp
      undecided := by simp
      succeeded := fun _ => rfl
      failed := by simp }
  | cons next more =>
    exact {
      account := by rw [htaken, ← haccount]; simp
      waiting := hwaits
      awaited := by simp
      undecided := by simp
      succeeded := by simp
      failed := by simp }

theorem Kept.taken {rest : List (Nat × ControlCommand)} (h : l.Kept)
    (hfront : l.desk.mailbox = (k, c) :: rest) :
    Kept { l with desk := l.desk.served k c rest, taken := l.taken ++ [(k, c)] } where
  calls := by simp [h.calls]
  stands := by
    refine h.stands_modify rfl rfl (fun c' call _ hs => ?_) fun i hi c' call hs => ?_
    · obtain ⟨hrest, more, rfl⟩ := hs.of_front hfront
      exact hs.answered (by rw [commandsBy_append, commandsBy_singleton, if_pos rfl]) hrest
    · refine hs.congr ?_ ?_ id
      · rw [commandsBy_append, commandsBy_singleton, if_neg hi.symm, List.append_nil]
      · rw [hfront, commandsBy_cons, if_neg hi.symm]
        rfl
  known := by
    intro i hi
    obtain ⟨htaken, hwaits⟩ := h.known i hi
    rw [hfront, commandsBy_cons] at hwaits
    split at hwaits
    · cases hwaits
    · rename_i hne
      exact ⟨by rw [commandsBy_append, htaken, commandsBy_singleton, if_neg hne]; rfl, hwaits⟩
  order := by
    obtain ⟨lost, hsent, hlost⟩ := h.order
    refine ⟨lost, ?_, hlost⟩
    rw [hsent, hfront]
    simp
  closed := by
    intro hclosed
    have hnone := h.closed hclosed
    rw [hfront] at hnone
    cases hnone
  mode := by
    rw [List.foldl_append, ← h.mode]
    rfl

/-! ### The desk is closed -/

/-- A call whose command is lost fails. -/
theorem Stands.unanswered {call : Call} (h : l.Stands k c call) :
    Stands { l with desk := l.desk.close } k c
      ((commandsBy k l.desk.mailbox).foldl (fun call c => call.fail (.unanswered c)) call) := by
  obtain ⟨remaining, awaiting, outcome⟩ := call
  have hwaiting := h.waiting
  cases awaiting with
  | false =>
    rw [hwaiting]
    exact h.congr rfl hwaiting.symm fun _ => rfl
  | true =>
    obtain rfl : outcome = none := h.awaited rfl
    obtain ⟨c', more, rfl⟩ := List.exists_cons_of_ne_nil (h.undecided rfl)
    rw [hwaiting]
    exact {
      account := h.account
      waiting := rfl
      awaited := by simp
      undecided := by simp
      succeeded := by simp
      failed := fun _ _ => ⟨List.cons_ne_nil _ _, rfl⟩ }

theorem Kept.closing (h : l.Kept) : Kept { l with desk := l.desk.close } where
  calls := (length_close_calls l.desk).trans h.calls
  stands := by
    intro k c call hmade hcall
    rw [getElem?_close_calls] at hcall
    obtain ⟨call₀, hcall₀, rfl⟩ := Option.map_eq_some_iff.mp hcall
    exact (h.stands k c call₀ hmade hcall₀).unanswered
  known := fun k hk => ⟨(h.known k hk).1, rfl⟩
  order := by
    obtain ⟨lost, hsent, _⟩ := h.order
    exact ⟨l.desk.mailbox ++ lost, by rw [hsent]; simp, by simp⟩
  closed := fun _ => rfl
  mode := h.mode

/-! ### Any action -/

/-- No action brings a desk and its books out of step. -/
theorem Kept.note (h : l.Kept) (a : Action) : (l.note a).Kept := by
  cases a with
  | call c => simpa [Ledger.note, madeBy, Desk.after, Desk.sentBy, Desk.takenBy] using h.called c
  | abandon => simpa [Ledger.note, madeBy, Desk.after, Desk.sentBy, Desk.takenBy] using h.closing
  | post k =>
    cases hpost : l.desk.post? k with
    | none => simpa [Ledger.note, madeBy, Desk.after, Desk.sentBy, Desk.takenBy, hpost] using h
    | some d =>
      obtain ⟨c, rest, hcall, ⟨hclosed, rfl⟩ | ⟨hopen, rfl⟩⟩ := Desk.post?_eq_some hpost
      · simpa [Ledger.note, madeBy, Desk.after, Desk.sentBy, Desk.takenBy, hpost] using
          h.unsent hcall hclosed
      · simpa [Ledger.note, madeBy, Desk.after, Desk.sentBy, Desk.takenBy, hpost] using
          h.sent hcall hopen
  | serve =>
    cases hfront : l.desk.mailbox with
    | nil =>
      simpa [Ledger.note, madeBy, Desk.after, Desk.sentBy, Desk.takenBy, Desk.serve?_of_nil hfront,
        hfront] using h
    | cons x rest =>
      obtain ⟨k, c⟩ := x
      have htaken := h.taken hfront
      -- an exit closes the desk from which it was taken
      by_cases hexit : c = .exit
      · simpa [Ledger.note, madeBy, Desk.after, Desk.sentBy, Desk.takenBy,
          Desk.serve?_of_cons hfront, hfront, hexit] using (hexit ▸ htaken).closing
      · simpa [Ledger.note, madeBy, Desk.after, Desk.sentBy, Desk.takenBy,
          Desk.serve?_of_cons hfront, hfront, hexit] using htaken
  | start _ | endSave _ | tick _ | job _ _ =>
    simpa [Ledger.note, madeBy, Desk.after, Desk.sentBy, Desk.takenBy] using h

end Ledger

end SyncFleet.Control
