/-
  SyncFleet/Proofs/Fleet/Books.lean
  =================================
  **The books of the desk, kept along a run.**

  `ledgerOf` notes the actions of a history, so that in every state of a run one
  can tell which calls were made and which of their commands the decision loop
  has taken, and `takenIn` is what it took during the later part of a history.
  The books are those of the manager's desk (`Run.ledger_desk`).

  How the loop stands to its desk is `Manager.InTouch`.  The loop ends by an exit
  that it takes, or when it finds itself abandoned (`Run.ended_iff`), and an exit
  is the last command that it takes (`exit_last`).
-/
import SyncFleet.Proofs.Control.Ledger
import SyncFleet.Proofs.Fleet.Saves

namespace SyncFleet

open Calendar Control Storage

/-- The books of the desk after what happened. -/
def ledgerOf (es : List Event) : Ledger := es.foldl (fun l e => l.note e.action) .blank

theorem ledgerOf_append (es fs : List Event) :
    ledgerOf (es ++ fs) = fs.foldl (fun l e => l.note e.action) (ledgerOf es) :=
  List.foldl_append

theorem ledgerOf_snoc (es : List Event) (e : Event) :
    ledgerOf (es ++ [e]) = (ledgerOf es).note e.action := ledgerOf_append es [e]

/-- The commands that were taken later on, after what happened first. -/
def takenIn (es fs : List Event) : List (Nat × ControlCommand) :=
  (ledgerOf (es ++ fs)).taken.drop (ledgerOf es).taken.length

theorem taken_append (es fs : List Event) :
    (ledgerOf (es ++ fs)).taken = (ledgerOf es).taken ++ takenIn es fs := by
  have hprefix : (ledgerOf es).taken <+: (ledgerOf (es ++ fs)).taken := by
    induction fs using List.reverseRecOn with
    | nil => rw [List.append_nil]
    | append_singleton fs e ih =>
      rw [← List.append_assoc, ledgerOf_snoc]
      exact ih.trans (List.prefix_append _ _)
  exact (List.prefix_iff_eq_append.mp hprefix).symm

theorem takenIn_snoc (es fs : List Event) (e : Event) :
    takenIn es (fs ++ [e]) = takenIn es fs ++ (ledgerOf (es ++ fs)).desk.takenBy e.action := by
  apply (List.append_right_inj (ledgerOf es).taken).mp
  rw [← taken_append, ← List.append_assoc, ledgerOf_snoc, ← List.append_assoc, ← taken_append]
  rfl

theorem kept_ledgerOf (es : List Event) : (ledgerOf es).Kept := by
  induction es using List.reverseRecOn with
  | nil => exact Ledger.kept_blank
  | append_singleton es e ih =>
    rw [ledgerOf_snoc]
    exact ih.note e.action

namespace Manager

open Fleet

variable {m₀ m m' : Manager} {es fs : List Event} {a : Action} {t : Option Tick} {k : Nat}

theorem Run.trans (hrun : m₀.Run es m) (hlater : m.Run fs m') : m₀.Run (es ++ fs) m' := by
  induction hlater with
  | nil =>
    rw [List.append_nil]
    exact hrun
  | snoc _ hact ih =>
    rw [← List.append_assoc]
    exact ih.snoc hact

/-! ### The desk of a run -/

theorem desk_act? (h : m.act? a = some (m', t)) : m'.desk = m.desk.after a := by
  cases a with
  | start now =>
    simp only [act?] at h
    split at h
    · cases h
      rfl
    · cases h
  | endSave succeeds =>
    obtain ⟨m₁, hsave, heq⟩ := Option.map_eq_some_iff.mp h
    cases heq
    unfold finishSave? at hsave
    split at hsave
    · cases hsave
      rfl
    · cases hsave
  | tick now =>
    obtain ⟨_, ⟨_, _, _, _, hdesk, _⟩ | ⟨_, _, rfl⟩⟩ := tick?_cases h
    · exact hdesk
    · rfl
  | serve =>
    obtain ⟨⟨m₁, c⟩, hserve, heq⟩ := Option.map_eq_some_iff.mp h
    cases heq
    unfold serve? at hserve
    split at hserve
    · obtain ⟨⟨desk, c'⟩, hdesk, heq⟩ := Option.map_eq_some_iff.mp hserve
      cases heq
      simp [Desk.after, hdesk]
    · cases hserve
  | abandon =>
    obtain ⟨m₁, habandon, heq⟩ := Option.map_eq_some_iff.mp h
    cases heq
    unfold abandon? at habandon
    split at habandon
    · cases habandon
      rfl
    · cases habandon
  | call c =>
    cases h
    rfl
  | post k =>
    obtain ⟨desk, hpost, heq⟩ := Option.map_eq_some_iff.mp h
    cases heq
    simp [Desk.after, hpost]
  | job i b =>
    obtain ⟨fleet, _, heq⟩ := Option.map_eq_some_iff.mp h
    cases heq
    rfl

/-- The books are those of the desk. -/
theorem Run.ledger_desk (hrun : m₀.Run es m) (h : m₀.desk = .initial) :
    (ledgerOf es).desk = m.desk := by
  induction hrun with
  | nil => exact h.symm
  | snoc _ hact ih => rw [ledgerOf_snoc, Ledger.note, ih, desk_act? hact]

/-- Taking a command finds the loop waiting, and ends it if it is an exit. -/
theorem serve_cases (h : m.act? .serve = some (m', t)) :
    m.loop = .waiting ∧ t = none ∧ ∃ k c rest, m.desk.mailbox = (k, c) :: rest ∧
      m'.loop = if c = .exit then .ended else .waiting := by
  obtain ⟨⟨m₁, c⟩, hserve, heq⟩ := Option.map_eq_some_iff.mp h
  cases heq
  unfold serve? at hserve
  split at hserve
  · rename_i hloop
    refine ⟨hloop, rfl, ?_⟩
    cases hfront : m.desk.mailbox with
    | nil =>
      rw [Desk.serve?_of_nil hfront] at hserve
      cases hserve
    | cons x rest =>
      obtain ⟨k, c'⟩ := x
      rw [Desk.serve?_of_cons hfront] at hserve
      cases hserve
      exact ⟨k, c, rest, rfl, rfl⟩
  · cases hserve

/-- An action that is not a command being taken leaves the mode. -/
theorem mode_act? (h : m.act? a = some (m', t)) (ha : a ≠ .serve) :
    m'.desk.mode = m.desk.mode := by
  rw [desk_act? h]
  cases a with
  | serve => exact absurd rfl ha
  | call c => rfl
  | post k =>
    obtain ⟨desk, hpost, _⟩ := Option.map_eq_some_iff.mp h
    obtain ⟨_, _, _, ⟨_, rfl⟩ | ⟨_, rfl⟩⟩ := Desk.post?_eq_some hpost <;>
      simp [Desk.after, hpost]
  | abandon | start _ | endSave _ | tick _ | job _ _ => rfl

/-! ### The loop and its desk -/

/-- How the loop of a run stands to its desk: the desk is closed when the loop has ended, and jobs
    are admitted until the loop takes its first command. -/
structure InTouch (m : Manager) : Prop where
  closed : m.desk.isOpen = false ↔ m.loop = .ended
  unstarted : m.loop = .unstarted → m.desk.mode = .running
  saving : ∀ c, m.loop = .saving c → m.desk.mode = .running

theorem inTouch_ofFleet (fleet : Fleet) (store : MemoryStore) : (ofFleet fleet store).InTouch where
  closed := by simp [ofFleet, Desk.initial]
  unstarted := fun _ => rfl
  saving := fun _ _ => rfl

theorem InTouch.isOpen (h : m.InTouch) (hloop : m.loop ≠ .ended) : m.desk.isOpen = true :=
  Bool.eq_true_of_not_eq_false fun hclosed => hloop (h.closed.mp hclosed)

theorem InTouch.act? (h : m.InTouch) (hact : m.act? a = some (m', t)) : m'.InTouch := by
  cases a with
  | start now =>
    simp only [Manager.act?] at hact
    split at hact
    · rename_i hloop
      cases hact
      have hopen : m.desk.isOpen = true := h.isOpen (by simp [hloop])
      exact ⟨by simpa [Manager.start] using hopen, by simp [Manager.start],
        fun _ _ => h.unstarted hloop⟩
    · cases hact
  | endSave succeeds =>
    obtain ⟨m₁, hsave, heq⟩ := Option.map_eq_some_iff.mp hact
    cases heq
    unfold finishSave? at hsave
    split at hsave
    · rename_i c hloop
      cases hsave
      have hopen : m.desk.isOpen = true := h.isOpen (by simp [hloop])
      exact ⟨by simpa using hopen, by simp, by simp⟩
    · cases hsave
  | tick now =>
    obtain ⟨hloop, ⟨hmode, _, _, _, hdesk, hloop'⟩ | ⟨_, _, rfl⟩⟩ := tick?_cases hact
    · have hopen : m.desk.isOpen = true := h.isOpen (by simp [hloop])
      refine ⟨?_, fun _ => hdesk ▸ hmode, fun _ _ => hdesk ▸ hmode⟩
      rw [hdesk, hloop']
      split <;> simpa using hopen
    · exact h
  | serve =>
    obtain ⟨hloop, _, k, c, rest, hfront, hloop'⟩ := serve_cases hact
    have hopen : m.desk.isOpen = true := h.isOpen (by simp [hloop])
    refine ⟨?_, ?_, ?_⟩
    · rw [desk_act? hact, hloop']
      by_cases hexit : c = .exit
      · simp [Desk.after, Desk.serve?_of_cons hfront, hexit]
      · simpa [Desk.after, Desk.serve?_of_cons hfront, hexit] using hopen
    · rw [hloop']
      split <;> simp
    · rw [hloop']
      split <;> simp
  | abandon =>
    obtain ⟨m₁, habandon, heq⟩ := Option.map_eq_some_iff.mp hact
    cases heq
    unfold abandon? at habandon
    split at habandon
    · cases habandon
      exact ⟨by simp, by simp, by simp⟩
    · cases habandon
  | call c =>
    cases hact
    exact ⟨h.closed, h.unstarted, h.saving⟩
  | post k =>
    obtain ⟨desk, hpost, heq⟩ := Option.map_eq_some_iff.mp hact
    cases heq
    obtain ⟨_, _, _, ⟨_, rfl⟩ | ⟨_, rfl⟩⟩ := Desk.post?_eq_some hpost
    · exact ⟨h.closed, h.unstarted, h.saving⟩
    · exact ⟨h.closed, h.unstarted, h.saving⟩
  | job i b =>
    obtain ⟨fleet, _, heq⟩ := Option.map_eq_some_iff.mp hact
    cases heq
    exact ⟨h.closed, h.unstarted, h.saving⟩

theorem Run.inTouch (hrun : m₀.Run es m) (h : m₀.InTouch) : m.InTouch := by
  induction hrun with
  | nil => exact h
  | snoc _ hact ih => exact ih.act? hact

/-! ### The end of the loop -/

/-- A desk is closed by an exit that is taken from it, or by being abandoned. -/
theorem isOpen_after (d : Desk) (a : Action) : (d.after a).isOpen = false ↔
    d.isOpen = false ∨ (∃ k, (k, .exit) ∈ d.takenBy a) ∨ a = .abandon := by
  cases a with
  | serve =>
    cases hfront : d.mailbox with
    | nil => simp [Desk.after, Desk.takenBy, Desk.serve?_of_nil hfront, hfront]
    | cons x rest =>
      obtain ⟨k, c⟩ := x
      by_cases hexit : c = .exit
      · simp [Desk.after, Desk.takenBy, Desk.serve?_of_cons hfront, hfront, hexit]
      · simp [Desk.after, Desk.takenBy, Desk.serve?_of_cons hfront, hfront, hexit,
          Ne.symm hexit]
  | post k =>
    cases hpost : d.post? k with
    | none => simp [Desk.after, Desk.takenBy, hpost]
    | some d' =>
      obtain ⟨_, _, _, ⟨_, rfl⟩ | ⟨_, rfl⟩⟩ := Desk.post?_eq_some hpost <;>
        simp [Desk.after, Desk.takenBy, hpost]
  | call c => simp [Desk.after, Desk.takenBy, Desk.call]
  | abandon => simp [Desk.after]
  | start _ | endSave _ | tick _ | job _ _ => simp [Desk.after, Desk.takenBy]

theorem closed_iff (es : List Event) : (ledgerOf es).desk.isOpen = false ↔
    (∃ k, (k, .exit) ∈ (ledgerOf es).taken) ∨ ∃ e ∈ es, e.action = .abandon := by
  induction es using List.reverseRecOn with
  | nil => simp [ledgerOf, Ledger.blank, Desk.initial]
  | append_singleton es e ih =>
    rw [ledgerOf_snoc, Ledger.note, isOpen_after, ih]
    simp only [List.mem_append, List.mem_singleton, exists_or, or_and_right, exists_eq_left]
    exact or_or_or_comm

/-- An exit is the last command that is taken. -/
theorem exit_last {es : List Event} (h : (k, .exit) ∈ (ledgerOf es).taken) :
    ∃ pre, (ledgerOf es).taken = pre ++ [(k, .exit)] ∧ ∀ x ∈ pre, x.2 ≠ .exit := by
  induction es using List.reverseRecOn with
  | nil => simp [ledgerOf, Ledger.blank] at h
  | append_singleton es e ih =>
    rw [ledgerOf_snoc, Ledger.note] at h ⊢
    by_cases hclosed : (ledgerOf es).desk.isOpen = false
    · -- a closed desk has nothing to take
      have hnone : (ledgerOf es).desk.takenBy e.action = [] := by
        unfold Desk.takenBy
        split
        · rw [(kept_ledgerOf es).closed hclosed]
          rfl
        · rfl
      rw [hnone, List.append_nil] at h ⊢
      exact ih h
    · have hfresh : ∀ x ∈ (ledgerOf es).taken, x.2 ≠ .exit := fun x hx hexit =>
        hclosed ((closed_iff es).mpr (Or.inl ⟨x.1, hexit ▸ hx⟩))
      refine ⟨(ledgerOf es).taken, ?_, hfresh⟩
      have hmem : (k, .exit) ∈ (ledgerOf es).desk.takenBy e.action :=
        (List.mem_append.mp h).resolve_left fun hold => hfresh _ hold rfl
      refine congrArg ((ledgerOf es).taken ++ ·) ?_
      unfold Desk.takenBy at hmem ⊢
      split at hmem
      · cases hfront : (ledgerOf es).desk.mailbox with
        | nil => simp [hfront] at hmem
        | cons x rest =>
          rw [hfront, List.take_succ_cons, List.take_zero, List.mem_singleton] at hmem
          rw [hmem]
          rfl
      · cases hmem

theorem Run.ended_iff (hrun : m₀.Run es m) (hdesk : m₀.desk = .initial) (h : m₀.InTouch) :
    m.loop = .ended ↔
      (∃ k, (k, .exit) ∈ (ledgerOf es).taken) ∨ ∃ e ∈ es, e.action = .abandon := by
  rw [← (hrun.inTouch h).closed, ← hrun.ledger_desk hdesk]
  exact closed_iff es

end Manager

end SyncFleet
