/-
  SyncFleet/Proofs/Job/Retry.lean
  ===============================
  **Attempts until one succeeds or the policy runs out.**

  An execution is a run of attempts, numbered from one, of which each but the
  last has failed (`RetryPolicy.EndsAt`).  Where the outcomes of all attempts
  are given, `Run.of_eq_fromAttempt` says how far a run has got when an attempt
  begins: every earlier attempt has been made once and is followed by one pause.
  So the numbers of attempts and pauses, the outcome, the output and the time
  that it takes can be read off the last attempt (`Run.of_eq`).

  A job's loop takes the same way.  `Retrying` says where it stands when it has
  taken some of the steps of an execution, whatever others do meanwhile, and
  every step keeps it so (`Retrying.step?`).

  The main statement is `Run.retries_until_success`.
-/
import Mathlib.Data.Nat.Find
import SyncFleet.Proofs.Job.Busy
import SyncFleet.Proofs.Job.History

namespace SyncFleet

/-! ### The last attempt -/

namespace RetryPolicy

/-- The number of attempts that a policy makes at most; it makes at least one. -/
def most (p : RetryPolicy) : Nat := max 1 p.maxAttempts.toNat

/-- Whether an execution ends with an attempt of a number: all before it have failed, and either it
    succeeds or no further one is made.  The outcomes of the attempts are given by number. -/
structure EndsAt (p : RetryPolicy) (results : Nat → AttemptResult) (k : Nat) : Prop where
  first : 1 ≤ k
  most : k ≤ p.most
  failed : ∀ n, 1 ≤ n → n < k → (results n).succeeded = false
  last : (results k).succeeded = true ∨ k = p.most

variable {p : RetryPolicy} {results : Nat → AttemptResult} {k : Nat}

/-- Every execution ends. -/
theorem exists_endsAt (p : RetryPolicy) (results : Nat → AttemptResult) :
    ∃ k, p.EndsAt results k := by
  have hsome : ∃ n, 1 ≤ n ∧ ((results n).succeeded = true ∨ n = p.most) :=
    ⟨p.most, Nat.le_max_left _ _, Or.inr rfl⟩
  refine ⟨Nat.find hsome, (Nat.find_spec hsome).1, ?_, fun n hn hlt => ?_, (Nat.find_spec hsome).2⟩
  · exact Nat.find_min' hsome ⟨Nat.le_max_left _ _, Or.inr rfl⟩
  · have hnot := Nat.find_min hsome hlt
    rw [not_and, not_or, Bool.not_eq_true] at hnot
    exact (hnot hn).1

theorem most_le (p : RetryPolicy) : p.most < UInt32.size := by
  have hlt := p.maxAttempts.toNat_lt
  simp only [most, UInt32.size]
  omega

theorem EndsAt.toNat_ofNat (h : p.EndsAt results k) {n : Nat} (hn : n ≤ k) :
    (UInt32.ofNat n).toNat = n :=
  UInt32.toNat_ofNat_of_lt' (Nat.lt_of_le_of_lt (Nat.le_trans hn h.most) p.most_le)

/-- Before its last attempt an execution goes on. -/
theorem EndsAt.goes_on (h : p.EndsAt results k) {n : Nat} (hone : 1 ≤ n) (hn : n < k) :
    (∃ e, results n = .error e) ∧ n < p.maxAttempts.toNat := by
  have hmost := h.most
  have hfailed := h.failed n hone hn
  simp only [RetryPolicy.most] at hmost
  refine ⟨?_, by omega⟩
  cases hr : results n with
  | ok out => simp [hr, AttemptResult.succeeded] at hfailed
  | error e => exact ⟨e, rfl⟩

/-- The first success within the limit is the last attempt. -/
theorem EndsAt.succeeded_iff (h : p.EndsAt results k) :
    (results k).succeeded = true ↔ ∃ n, 1 ≤ n ∧ n ≤ p.most ∧ (results n).succeeded = true := by
  constructor
  · exact fun hk => ⟨k, h.first, h.most, hk⟩
  · rintro ⟨n, hone, hmost, hn⟩
    rcases h.last with hk | hk
    · exact hk
    · rcases Nat.lt_or_ge n k with hlt | hge
      · rw [h.failed n hone hlt] at hn
        cases hn
      · have heq : n = k := by omega
        exact heq ▸ hn

end RetryPolicy

/-! ### A run of attempts -/

namespace Run

variable {p : RetryPolicy} {attempts : Nat → AttemptResult × Nat} {k : Nat}

/-- The milliseconds that the first attempts take by themselves. -/
def millisOf (attempts : Nat → AttemptResult × Nat) : Nat → Nat
  | 0 => 0
  | n + 1 => millisOf attempts n + (attempts (n + 1)).2

/-- When an attempt begins, each of those before it has been made and has been followed by one
    pause. -/
theorem of_eq_fromAttempt (h : p.EndsAt (fun n => (attempts n).1) k) {m : Nat} (hm : m < k) :
    Run.of p (fun n => attempts n.toNat) =
      Run.fromAttempt p (fun n => attempts n.toNat) (UInt32.ofNat (m + 1)) m
        (millisOf attempts m + m * p.delay) := by
  induction m with
  | zero => simp [Run.of, millisOf]
  | succ m ih =>
    obtain ⟨⟨e, he⟩, hlt⟩ := h.goes_on (n := m + 1) (by omega) hm
    have hnumber := h.toNat_ofNat (n := m + 1) (by omega)
    have hgoes : UInt32.ofNat (m + 1) < p.maxAttempts := by
      rw [UInt32.lt_iff_toNat_lt, hnumber]
      exact hlt
    have hnext : UInt32.ofNat (m + 1) + 1 = UInt32.ofNat (m + 1 + 1) := by
      rw [UInt32.ofNat_add (m + 1) 1]
      rfl
    rw [ih (by omega), Run.fromAttempt, hnumber]
    rcases hattempt : attempts (m + 1) with ⟨result, millis⟩
    simp only [hattempt] at he
    subst he
    simp only [if_pos hgoes, hnext, millisOf, hattempt]
    congr 1
    rw [Nat.succ_mul]
    omega

/-- All that a run comes to, by its last attempt. -/
theorem of_eq (h : p.EndsAt (fun n => (attempts n).1) k) :
    Run.of p (fun n => attempts n.toNat) =
      ⟨⟨(attempts k).1.succeeded, UInt32.ofNat k, AttemptResult.output (attempts k).1⟩, k - 1,
        millisOf attempts k + (k - 1) * p.delay⟩ := by
  obtain ⟨m, rfl⟩ := Nat.exists_eq_add_of_le' h.first
  have hnumber := h.toNat_ofNat (n := m + 1) (Nat.le_refl _)
  have hlast := h.last
  rw [of_eq_fromAttempt h (Nat.lt_succ_self m), Run.fromAttempt, hnumber, millisOf]
  rcases hattempt : attempts (m + 1) with ⟨result, millis⟩
  simp only [hattempt] at hlast ⊢
  cases result with
  | ok out =>
    simp only [AttemptResult.succeeded, AttemptResult.output, Nat.add_sub_cancel]
    congr 1
    omega
  | error e =>
    have hends : ¬ UInt32.ofNat (m + 1) < p.maxAttempts := by
      rw [UInt32.lt_iff_toNat_lt, hnumber]
      simp only [AttemptResult.succeeded, RetryPolicy.most, Bool.false_eq_true, false_or] at hlast
      omega
    simp only [AttemptResult.succeeded, AttemptResult.output, if_neg hends, Nat.add_sub_cancel]
    congr 1
    omega

end Run

/-! ### The way of a job's loop -/

/-- Whether a step is one of the job's loop. -/
def JobStep.isOwn : JobStep → Bool
  | .call _ => false
  | .loop .. => true

/-- The steps of the loop that a log holds, without the calls between them. -/
def ownSteps (log : List LogEntry) : List JobStep := (log.map LogEntry.step).filter JobStep.isOwn

theorem ownSteps_snoc (log : List LogEntry) (e : LogEntry) :
    ownSteps (log ++ [e]) = ownSteps log ++ if e.step.isOwn then [e.step] else [] := by
  simp [ownSteps, List.filter_append, List.filter_cons]

/-- The steps of the loop up to a number of failed attempts and the pauses behind them. -/
def failures (results : Nat → AttemptResult) (n : Nat) : List JobStep :=
  (List.range' 1 n).flatMap fun i => [.finish (results i), .resume]

theorem failures_succ (results : Nat → AttemptResult) (n : Nat) :
    failures results (n + 1) = failures results n ++ [.finish (results (n + 1)), .resume] := by
  simp [failures, List.range'_concat, Nat.add_comm 1 n]

/-- The steps of the loop in an execution that ends with an attempt of a number. -/
def course (results : Nat → AttemptResult) (k : Nat) : List JobStep :=
  failures results (k - 1) ++ [.finish (results k)]

theorem failures_prefix (results : Nat → AttemptResult) {m n : Nat} (h : m ≤ n) :
    failures results m <+: failures results n := by
  obtain ⟨d, rfl⟩ := Nat.exists_eq_add_of_le h
  rw [failures, failures, ← List.range'_append_1, List.flatMap_append]
  exact List.prefix_append _ _

/-- Where the loop stands in an execution that ends with an attempt of a number, by the steps that it
    has taken. -/
inductive Retrying (results : Nat → AttemptResult) (k ticket : Nat) (x : Execution) :
    List JobStep → Phase → Prop where
  | attempting {n : UInt32} {m : Nat} : n.toNat = m + 1 → m < k →
      Retrying results k ticket x (failures results m) (.attempting ticket n)
  | resting {n : UInt32} {m : Nat} : n.toNat = m + 1 → m + 1 < k →
      Retrying results k ticket x (failures results m ++ [.finish (results (m + 1))])
        (.resting ticket n)
  | concluded : Retrying results k ticket x (course results k) (.concluded ticket x)

/-- Whether the outcomes of attempts are the given ones, if the entry is the end of an attempt. -/
def LogEntry.follows (results : Nat → AttemptResult) (e : LogEntry) : Bool :=
  match e.step, e.before.phase with
  | .loop (.finishAttempt r) _, .attempting _ n => r = results n.toNat
  | _, _ => true

section Retrying

variable {results : Nat → AttemptResult} {k ticket : Nat} {x : Execution} {p : RetryPolicy}
  {steps : List JobStep} {phase : Phase}

/-- The policy concludes an execution with the attempt with which it ends, and with no other. -/
theorem RetryPolicy.EndsAt.conclude? (h : p.EndsAt results k) {n : UInt32} {m : Nat}
    (hn : n.toNat = m + 1) (hm : m < k) :
    p.conclude? n (results (m + 1)) =
      if m + 1 = k then
        some ⟨(results k).succeeded, UInt32.ofNat k, AttemptResult.output (results k)⟩
      else none := by
  by_cases hk : m + 1 = k
  · subst hk
    have hnumber : n = UInt32.ofNat (m + 1) := by
      rw [← hn, UInt32.ofNat_toNat]
    have hlast := h.last
    rw [if_pos rfl]
    cases hr : results (m + 1) with
    | ok out => simp [RetryPolicy.conclude?, AttemptResult.succeeded, AttemptResult.output, hnumber]
    | error e =>
      have hends : p.allows n = false := by
        simp only [hr, AttemptResult.succeeded, Bool.false_eq_true, false_or, RetryPolicy.most]
          at hlast
        simp only [RetryPolicy.allows, decide_eq_false_iff_not, UInt32.lt_iff_toNat_lt, hn]
        omega
      simp [RetryPolicy.conclude?, hends, AttemptResult.succeeded, AttemptResult.output, ← hnumber]
  · obtain ⟨⟨e, he⟩, hlt⟩ := h.goes_on (n := m + 1) (by omega) (by omega)
    have hallows : p.allows n = true := by
      simpa [RetryPolicy.allows, UInt32.lt_iff_toNat_lt, hn] using hlt
    rw [if_neg hk, he]
    simp [RetryPolicy.conclude?, hallows]

/-- Where steps are left, the next of them can be taken. -/
theorem Retrying.ahead (h : Retrying results k ticket x steps phase) :
    (steps = course results k ∧ phase = .concluded ticket x) ∨
      ∃ s rest, course results k = steps ++ s :: rest ∧
        ∀ j : Job, j.phase = phase → (j.step? s).isSome := by
  -- behind the failures comes the end of the last attempt, or of one more that fails
  have hcourse : ∀ m, m + 1 < k → ∃ rest, course results k =
      failures results m ++ .finish (results (m + 1)) :: .resume :: rest := by
    intro m hm
    obtain ⟨more, hmore⟩ := failures_prefix results (m := m + 1) (n := k - 1) (by omega)
    refine ⟨more ++ [.finish (results k)], ?_⟩
    rw [course, ← hmore, failures_succ]
    simp
  have hfinish : ∀ (j : Job) (n : UInt32) (r : AttemptResult), j.phase = .attempting ticket n →
      (j.step? (.finish r)).isSome := by
    intro j n r hphase
    simp only [Job.step?, JobStep.finish, Job.act?, Job.finishAttempt?, hphase]
    split <;> rfl
  cases h with
  | @attempting n m hn hm =>
    refine Or.inr ⟨.finish (results (m + 1)), ?_⟩
    by_cases hk : m + 1 = k
    · subst hk
      exact ⟨[], rfl, fun j => hfinish j n _⟩
    · obtain ⟨rest, hrest⟩ := hcourse m (by omega)
      exact ⟨.resume :: rest, hrest, fun j => hfinish j n _⟩
  | @resting n m hn hm =>
    obtain ⟨rest, hrest⟩ := hcourse m hm
    refine Or.inr ⟨.resume, rest, by rw [hrest]; simp, fun j hphase => ?_⟩
    simp [Job.step?, JobStep.resume, Job.act?, Job.resume?, hphase]
  | concluded => exact Or.inl ⟨rfl, rfl⟩

namespace Job

variable {j₀ j j' : Job} {s : JobStep} {log : List LogEntry}

/-- Until the execution is recorded, no step leads off the way. -/
theorem Retrying.step? (h : p.EndsAt results k) (hpolicy : j.spec.policy = p)
    (hway : Retrying results k ticket
      ⟨(results k).succeeded, UInt32.ofNat k, AttemptResult.output (results k)⟩ steps j.phase)
    (hstep : j.step? s = some j') (hrecord : ∀ now, s ≠ .record now)
    (hfollows : LogEntry.follows results ⟨s, j, j'⟩ = true) :
    Retrying results k ticket
      ⟨(results k).succeeded, UInt32.ofNat k, AttemptResult.output (results k)⟩
      (steps ++ if s.isOwn then [s] else []) j'.phase := by
  cases s with
  | call c =>
    cases hstep
    rw [JobStep.isOwn, if_neg Bool.false_ne_true, List.append_nil]
    rcases phase_call c j with hsame | ⟨hdormant, _⟩
    · rwa [hsame]
    · rw [hdormant] at hway
      cases hway
  | loop a own =>
    rw [JobStep.isOwn, if_pos rfl]
    cases a with
    | spawn => cases own
    | trigger => cases own
    | receive =>
      obtain ⟨_, _, hphase, _⟩ := receive?_eq_some hstep
      rw [hphase] at hway
      cases hway
    | finishAttempt r =>
      obtain ⟨ticket', n, hphase, hends⟩ := finishAttempt?_eq_some hstep
      rw [hphase] at hway
      cases hway with
      | @attempting _ m hn hm =>
        obtain rfl : r = results (m + 1) := by
          simpa [LogEntry.follows, hphase, hn] using hfollows
        rw [hpolicy, h.conclude? hn hm] at hends
        by_cases hk : m + 1 = k
        · rw [if_pos hk] at hends
          obtain ⟨e, he, rfl⟩ | ⟨hnone, _⟩ := hends
          · cases he
            subst hk
            exact .concluded
          · cases hnone
        · rw [if_neg hk] at hends
          obtain ⟨e, he, _⟩ | ⟨_, rfl⟩ := hends
          · cases he
          · exact .resting hn (by omega)
    | resume =>
      obtain ⟨ticket', n, hphase, rfl⟩ := resume?_eq_some hstep
      rw [hphase] at hway
      cases hway with
      | @resting _ m hn hm =>
        have hnext : (n + 1).toNat = m + 1 + 1 := by
          have hlt := p.most_le
          have hle := h.most
          rw [UInt32.toNat_add, hn]
          simp only [UInt32.toNat_one, UInt32.size] at hlt ⊢
          omega
        have hsteps : failures results m ++ [.finish (results (m + 1))] ++ [.loop .resume own] =
            failures results (m + 1) := by
          rw [failures_succ, List.append_assoc]
          rfl
        rw [hsteps]
        exact .attempting hnext hm
    | record now => exact absurd rfl (hrecord now)
    | publish =>
      obtain ⟨_, hphase, _⟩ := publish?_eq_some hstep
      rw [hphase] at hway
      cases hway

/-- From its first attempt on, the loop goes the way of the execution until it is recorded. -/
theorem Life.retrying (h : p.EndsAt results k) (hpolicy : j₀.spec.policy = p)
    (hphase : j₀.phase = .attempting ticket 1) (hlife : j₀.Life log j)
    (hrecord : ∀ e ∈ log, e.records = false) (hfollows : ∀ e ∈ log, e.follows results = true) :
    Retrying results k ticket
      ⟨(results k).succeeded, UInt32.ofNat k, AttemptResult.output (results k)⟩
      (ownSteps log) j.phase := by
  induction hlife with
  | nil =>
    rw [hphase]
    exact .attempting (m := 0) rfl h.first
  | @snoc log j j' s hbefore hstep ih =>
    rw [List.forall_mem_append, List.forall_mem_singleton] at hrecord hfollows
    rw [ownSteps_snoc]
    refine Retrying.step? h (hbefore.spec ▸ hpolicy) (ih hrecord.1 hfollows.1) hstep ?_ hfollows.2
    rintro now rfl
    cases hrecord.2

end Job

end Retrying

/-! ### Whole executions -/

/-- **Attempts until one succeeds or the policy runs out.**  Whatever the attempts yield, a run ends
    with an attempt before which all have failed and which succeeds or is the last one that the
    policy allows, at least one.  It reports the number of this attempt, which has not wrapped
    around, its output (of the failures only a command that has run leaves any), and success exactly
    if one of the attempts that the policy allows succeeds.  Each attempt but the last is made once
    and followed by one pause of the policy's delay, and the next attempt begins when the pause is
    over.  The loop of a job with this policy takes exactly these steps from its first attempt until
    the execution is recorded, whatever calls come in between, and comes to the same result. -/
theorem Run.retries_until_success (p : RetryPolicy) (attempts : Nat → AttemptResult × Nat) :
    let results := fun n => (attempts n).1
    let run := Run.of p fun n => attempts n.toNat
    ∃ k, p.EndsAt results k ∧ run.execution.attempts.toNat = k ∧
      (run.execution.succeeded = true ↔
        ∃ n, 1 ≤ n ∧ n ≤ p.most ∧ (results n).succeeded = true) ∧
      run.execution.output = (match results k with
        | .ok out | .error (.commandFailed _ out) => out
        | .error (.spawnFailed _) | .error (.environment _) | .error (.failed _) => ⟨"", ""⟩) ∧
      run.pauses = k - 1 ∧
      run.duration = Run.millisOf attempts k + (k - 1) * p.delay ∧
      (∀ m < k, run = Run.fromAttempt p (fun n => attempts n.toNat) (UInt32.ofNat (m + 1)) m
        (Run.millisOf attempts m + m * p.delay)) ∧
      ∀ (j : Job) (ticket : Nat), j.spec.policy = p → j.phase = .attempting ticket 1 →
        ∀ log j', j.Life log j' → (∀ e ∈ log, e.records = false) →
          (∀ e ∈ log, e.follows results = true) →
          (ownSteps log = course results k ∧ j'.phase = .concluded ticket run.execution) ∨
            ∃ s rest, course results k = ownSteps log ++ s :: rest ∧ (j'.step? s).isSome := by
  intro results run
  obtain ⟨k, hends⟩ := p.exists_endsAt results
  have hrun : run = _ := Run.of_eq hends
  refine ⟨k, hends, ?_, ?_, ?_, ?_, ?_, fun m => Run.of_eq_fromAttempt hends, ?_⟩
  · rw [hrun]
    exact hends.toNat_ofNat (Nat.le_refl k)
  · rw [hrun]
    exact hends.succeeded_iff
  · rw [hrun]
    show AttemptResult.output (results k) = _
    cases results k with
    | ok out => rfl
    | error e => cases e <;> rfl
  · rw [hrun]
  · rw [hrun]
  · intro j ticket hpolicy hphase log j' hlife hrecord hfollows
    have hway := Job.Life.retrying hends hpolicy hphase hlife hrecord hfollows
    rw [hrun]
    rcases hway.ahead with hdone | ⟨s, rest, hcourse, hnext⟩
    · exact Or.inl hdone
    · exact Or.inr ⟨s, rest, hcourse, hnext j' rfl⟩

/-! ### An execution with one failure -/

/-- The first attempt fails after 200 milliseconds, and every later one takes 500 and succeeds. -/
def relapse (n : Nat) : AttemptResult × Nat :=
  if n = 1 then (.error (.commandFailed (some 1) ⟨"partial", "broken pipe"⟩), 200)
  else (.ok ⟨"done", ""⟩, 500)

/-- A job that may be attempted three times, and whose first attempt has just begun. -/
def relapsing : Job := ⟨⟨"a", ⟨.empty⟩, false, .default⟩, .fresh .epoch, 1, [], .attempting 1 1, 0⟩

/-- The job is triggered again while it waits for its second attempt. -/
def relapseSteps : List JobStep :=
  [.finish (relapse 1).1, .call .trigger, .resume, .finish (relapse 2).1]

/-- With three attempts, three seconds apart, the second one is the last, and nothing is left of the
    output of the first. -/
theorem relapse_retries_until_success :
    let run := Run.of .default fun n => relapse n.toNat
    let r := (relapsing.play? relapseSteps).get rfl
    run.execution = ⟨true, 2, ⟨"done", ""⟩⟩ ∧ run.pauses = 1 ∧ run.duration = 3700 ∧
      relapsing.Life r.1 r.2 ∧ r.2.phase = .concluded 1 run.execution := by
  intro run r
  obtain ⟨k, hends, hattempts, hsucceeded, houtput, hpauses, hduration, _, hloop⟩ :=
    Run.retries_until_success .default relapse
  have hk : k = 2 := by
    have hlast := hends.last
    have hfirst := hends.first
    rcases Nat.lt_trichotomy k 2 with hlt | heq | hgt
    · obtain rfl : k = 1 := by omega
      exact absurd hlast (by decide)
    · exact heq
    · exact absurd (hends.failed 2 (by decide) hgt) (by decide)
  subst hk
  have hsuccess : run.execution.succeeded = true := hsucceeded.mpr ⟨2, by decide, by decide, rfl⟩
  have hnumber : run.execution.attempts = 2 := UInt32.toNat_inj.mp hattempts
  have hlife : relapsing.Life r.1 r.2 := Job.life_played rfl
  refine ⟨?_, hpauses, hduration.trans (by decide), hlife, ?_⟩
  · calc
      run.execution = ⟨run.execution.succeeded, run.execution.attempts, run.execution.output⟩ := rfl
      _ = ⟨true, 2, ⟨"done", ""⟩⟩ := by rw [hsuccess, hnumber, houtput]; rfl
  · rcases hloop relapsing 1 rfl rfl r.1 r.2 hlife (by decide) (by decide) with
      ⟨_, hphase⟩ | ⟨s, rest, hcourse, _⟩
    · exact hphase
    · -- the three steps of the loop are all that the execution takes
      have hlength := congrArg List.length hcourse
      rw [List.length_append, List.length_cons] at hlength
      have hthree : (ownSteps r.1).length = 3 := rfl
      have hall : (course (fun n => (relapse n).1) 2).length = 3 := rfl
      omega

end SyncFleet
