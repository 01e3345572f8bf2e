/-
  SyncFleet/Proofs/Fleet/Exit.lean
  ================================
  **What a manager reports after a call to exit has succeeded.**

  A call to exit is a stop followed by an exit, and an exit does not touch the
  mode.  So what is reported from then on is what the commands make of it that
  were taken between the two: the loop has ended, but if the last of them that
  starts or stops is a start, the manager reports for good to be running
  (`reports_running_after_exit`).

  The main statement is `Run.running_after_exit_iff`.
-/
import SyncFleet.Proofs.Fleet.Protocol

namespace SyncFleet

open Calendar Control Storage

namespace Control

/-- Whether jobs are admitted after some commands that begin while they are not: a start is among
    the commands, and no stop behind it. -/
def EndsStarted (l : List (Nat × ControlCommand)) : Prop :=
  ∃ pre k post, l = pre ++ (k, .start) :: post ∧ ∀ x ∈ post, x.2 ≠ .stop

theorem endsStarted_snoc (l : List (Nat × ControlCommand)) (k : Nat) (c : ControlCommand) :
    EndsStarted (l ++ [(k, c)]) ↔ c = .start ∨ (c ≠ .stop ∧ EndsStarted l) := by
  constructor
  · rintro ⟨pre, i, post, heq, hpost⟩
    rcases List.eq_nil_or_concat post with rfl | ⟨post, x, rfl⟩
    · obtain ⟨_, hlast⟩ := List.append_inj' heq rfl
      cases hlast
      exact Or.inl rfl
    · rw [List.concat_eq_append, ← List.cons_append, ← List.append_assoc] at heq
      obtain ⟨rfl, hlast⟩ := List.append_inj' heq rfl
      cases hlast
      refine Or.inr ⟨?_, pre, i, post, rfl, fun x hx => ?_⟩
      · exact hpost (k, c) (by simp)
      · exact hpost x (by simp [hx])
  · rintro (rfl | ⟨hc, pre, i, post, rfl, hpost⟩)
    · exact ⟨l, k, [], rfl, fun x hx => absurd hx List.not_mem_nil⟩
    · refine ⟨pre, i, post ++ [(k, c)], by simp, fun x hx => ?_⟩
      rcases List.mem_append.mp hx with hx | hx
      · exact hpost x hx
      · exact List.mem_singleton.mp hx ▸ hc

theorem foldl_modeAfter_eq_running_iff (l : List (Nat × ControlCommand)) :
    l.foldl (fun mode x => Desk.modeAfter mode x.2) .stopped = .running ↔ EndsStarted l := by
  induction l using List.reverseRecOn with
  | nil => simp [EndsStarted]
  | append_singleton l x ih =>
    obtain ⟨k, c⟩ := x
    rw [endsStarted_snoc, List.foldl_append, ← ih]
    cases c <;> simp [Desk.modeAfter]

/-- Two commands of one call among others, where the call has no more and the second one is the
    last of all. -/
theorem split_of_commandsBy {k : Nat} {c c' : ControlCommand} {l : List (Nat × ControlCommand)}
    (h : commandsBy k (l ++ [(k, c')]) = [c, c']) :
    ∃ pre post, l = pre ++ (k, c) :: post ∧ commandsBy k pre = [] ∧ commandsBy k post = [] := by
  rw [commandsBy_append, commandsBy_singleton, if_pos rfl] at h
  have hl : commandsBy k l = [c] := (List.append_left_inj [c']).mp h
  obtain ⟨pre, post, rfl⟩ := List.append_of_mem
    (mem_commandsBy.mp (hl ▸ List.mem_singleton.mpr rfl : c ∈ commandsBy k l))
  rw [commandsBy_append, commandsBy_cons, if_pos rfl] at hl
  refine ⟨pre, post, rfl, ?_⟩
  cases hpre : commandsBy k pre with
  | nil => exact ⟨rfl, by simpa [hpre] using hl⟩
  | cons x rest => simp [hpre] at hl

end Control

namespace Manager

open Fleet

variable {m m' : Manager} {es fs : List Event} {k : Nat} {fleet : Fleet} {store : MemoryStore}

theorem isRunning_iff : m.isRunning = true ↔ m.desk.mode = .running := by
  simp [isRunning]

/-- What the two status reports say of the mode. -/
theorem reports_isRunning (m : Manager) (now : Instant) :
    (m.statusJson now).field? "running" = some (.bool m.isRunning) ∧
      (m.summaryJson now).field? "running" = some (.bool m.isRunning) := ⟨rfl, rfl⟩

/-- **What is reported after a successful exit.**  If a call to exit has succeeded, the loop has
    ended, its exit is the last command that was taken, and from now on every report says that the
    manager is running exactly if among the commands taken between the stop and the exit of this
    call there is a start without a stop behind it. -/
theorem Run.running_after_exit_iff (hrun : (ofFleet fleet store).Run es m)
    (hmade : (ledgerOf es).made[k]? = some .exit) (hok : m.desk.outcome? k = some (.ok ())) :
    ∃ pre between, (ledgerOf es).taken = pre ++ (k, .stop) :: between ++ [(k, .exit)] ∧
      commandsBy k between = [] ∧
      ∀ fs m', m.Run fs m' → m'.loop = .ended ∧ (m'.isRunning = true ↔ EndsStarted between) ∧
        ∀ now, (m'.statusJson now).field? "running" = some (.bool m'.isRunning) ∧
          (m'.summaryJson now).field? "running" = some (.bool m'.isRunning) := by
  have hall : commandsBy k (ledgerOf es).taken = [.stop, .exit] :=
    (hrun.call_ends hmade).2.1.mp hok
  have hexit : (k, .exit) ∈ (ledgerOf es).taken := mem_commandsBy.mp (by simp [hall])
  obtain ⟨before, htaken, _⟩ := exit_last hexit
  obtain ⟨pre, between, rfl, _, hbetween⟩ := split_of_commandsBy (htaken ▸ hall)
  refine ⟨pre, between, htaken, hbetween, fun fs m' hlater => ?_⟩
  have hends : m.loop = .ended :=
    (hrun.ended_iff rfl (inTouch_ofFleet fleet store)).mpr (Or.inl ⟨k, hexit⟩)
  obtain ⟨hends', _, hmode, _⟩ := hlater.ended hends
  refine ⟨hends', ?_, reports_isRunning m'⟩
  -- the stop of the call sets the mode, whatever came before it, and the exit leaves it
  have hmode₀ := (kept_ledgerOf es).mode
  rw [hrun.ledger_desk rfl, htaken, List.foldl_append, List.foldl_append, List.foldl_cons] at hmode₀
  rw [isRunning_iff, hmode, hmode₀]
  exact foldl_modeAfter_eq_running_iff between

/-- A manager can report to be running for good after a call to exit has succeeded. -/
theorem reports_running_after_exit :
    ¬ ∀ (fleet : Fleet) (store : MemoryStore) (es : List Event) (m : Manager) (k : Nat),
      (ofFleet fleet store).Run es m → (ledgerOf es).made[k]? = some .exit →
        m.desk.outcome? k = some (.ok ()) → m.isRunning = false := by
  intro hstopped
  have hrun : quartet.Run ((quartet.play? crossedExit).get rfl).1 _ := run_played rfl
  have hreports := hstopped _ _ _ _ 0 hrun rfl rfl
  exact absurd hreports (by decide)

/-- The start of the second caller is all that is taken between the stop and the exit of the
    first. -/
theorem crossed_running_after_exit_iff :
    let r := (quartet.play? crossedExit).get rfl
    quartet.Run r.1 r.2 ∧ (ledgerOf r.1).made[0]? = some .exit ∧
      r.2.desk.outcome? 0 = some (.ok ()) ∧
      ∃ pre between, [(0, .stop), (1, .start), (0, .exit)] =
          pre ++ (0, .stop) :: between ++ [(0, .exit)] ∧
        (r.2.isRunning = true ↔ EndsStarted between) := by
  intro r
  have hrun : quartet.Run r.1 r.2 := run_played rfl
  obtain ⟨pre, between, htaken, _, hlater⟩ := hrun.running_after_exit_iff (k := 0) rfl rfl
  exact ⟨hrun, rfl, rfl, pre, between, htaken, (hlater [] r.2 .nil).2.1⟩

end Manager

end SyncFleet
