/-
  SyncFleet/Proofs/Storage/Session.lean
  =====================================
  **Saves one after the other, among whatever others do to the files.**

  A `Session` is a file system with the save that is under way, if there is one,
  and what is known of the object at the checkpoint's place.  In a `Run` saves
  begin, go on step by step, fail or end, each text written in any pieces, and
  between any two steps others write files, make directories and remove either:
  anywhere but at the checkpoint's place, and while a save is under way not at
  its temporary file's either.  Loading changes nothing, so it is no event; what
  it answers is said of every state.

  A write that fails is noticed when the next piece is to be written, and behind
  the last one not at all: waiting for the disk passes over it.  Of the text that
  such a save then installs nothing is said (`Standing.torn`).

  `Sound` is what every run keeps.  `Session.Run.saves_are_atomic` puts it
  together with what each piece of a save may do: at every moment the
  checkpoint's place holds the text of the checkpoint saved last, whole, or what
  it held at the start.
-/
import SyncFleet.Proofs.Storage.Steps

namespace SyncFleet.Storage

open FileSystem

/-! ### What others do to the files -/

/-- What others do to the files. -/
inductive Change where
  | write (bytes : ByteArray)
  | makeDirectory
  | remove
  | removeDirectory

def Change.run (q : Path) (fs : FileSystem) : Change → Except FileFault FileSystem
  | .write bytes => fs.write q bytes
  | .makeDirectory => fs.makeDirectory q
  | .remove => fs.remove q
  | .removeDirectory => fs.removeDirectory q

theorem Change.elsewhere {k : Change} {q : Path} {fs fs' : FileSystem} (h : k.run q fs = .ok fs')
    {r : Place} (hr : r ≠ q.place) : fs'.get? r = fs.get? r := by
  have hout : r ∉ [q.place] := fun hmem => hr (List.mem_singleton.mp hmem)
  cases k with
  | write bytes => exact (alters_write h).elsewhere r hout
  | makeDirectory => exact (alters_makeDirectory h).elsewhere r hout
  | remove => exact (alters_remove h).elsewhere r hout
  | removeDirectory =>
    obtain ⟨hroot, rfl⟩ := removeDirectory_eq_ok h
    rw [get?_erase hroot, if_neg hr]

/-! ### Sessions -/

/-- A save that is under way. -/
structure Saving where
  checkpoint : Checkpoint
  /-- the steps before it -/
  remaining : List SaveStep
  /-- whether it goes on although its last write has failed -/
  torn : Bool

/-- What is known of the object at the checkpoint's place. -/
inductive Standing where
  /-- what stood there at the start -/
  | origin
  /-- the text of the checkpoint that was saved last -/
  | saved (c : Checkpoint)
  /-- what a save put there although its last write had failed -/
  | torn

/-- Whether a place can hold an entry now that held another one at the start. -/
def Standing.Allows (first now : Option Entry) : Standing → Prop
  | .origin => now = first
  | .saved c => now = some (.file (whole c))
  | .torn => True

structure Session where
  fs : FileSystem
  saving : Option Saving
  standing : Standing

/-- What happens in a session. -/
inductive Event where
  /-- a save begins that will write its text in the given pieces -/
  | begin (c : Checkpoint) (pieces : List ByteArray)
  /-- the save runs its next step -/
  | step
  /-- the save's next step fails, whatever the files are like; a write has written so many bytes -/
  | fault (kept : Nat) (fault : FileFault)
  /-- others change the files at a path, or fail to -/
  | change (q : Path) (k : Change)

namespace Session

/-- The save that is under way runs its next step. -/
def step (p : Path) (s : Session) : Session × Option (Except StoreFault Unit) :=
  match s.saving with
  | some ⟨c, next :: rest, torn⟩ =>
    match next.run p s.fs, rest with
    | .error fault, _ => ({ s with saving := none }, some (.error (.io fault)))
    | .ok fs, [] => (⟨fs, none, if torn then .torn else .saved c⟩, some (.ok ()))
    | .ok fs, rest => (⟨fs, some ⟨c, rest, torn⟩, s.standing⟩, none)
  | _ => (s, none)

/-- The next step of the save that is under way fails. -/
def fail (p : Path) (kept : Nat) (fault : FileFault) (s : Session) :
    Session × Option (Except StoreFault Unit) :=
  match s.saving with
  | some ⟨c, .write bytes :: rest, _⟩ =>
    let fs := (s.fs.extend (temporary p).place (bytes.extract 0 kept)).toOption.getD s.fs
    match rest with
    -- the next write notices, waiting for the disk does not
    | .write _ :: _ => (⟨fs, none, s.standing⟩, some (.error (.io fault)))
    | rest => (⟨fs, some ⟨c, rest, true⟩, s.standing⟩, none)
  | some _ => ({ s with saving := none }, some (.error (.io fault)))
  | none => (s, none)

/-- The session after an event, and what a save returns that ends with it. -/
def act (p : Path) (s : Session) : Event → Session × Option (Except StoreFault Unit)
  | .begin c pieces => ({ s with saving := some ⟨c, saveSteps pieces, false⟩ }, none)
  | .step => s.step p
  | .fault kept fault => s.fail p kept fault
  | .change q k => ({ s with fs := (k.run q s.fs).toOption.getD s.fs }, none)

end Session

namespace Event

/-- Whether an event can happen: saves do not overlap and write the whole text of their checkpoint,
    and what others change is neither the checkpoint nor the temporary file of a save that is under
    way. -/
def Allowed (p : Path) (s : Session) : Event → Prop
  | .begin c pieces => s.saving = none ∧ joined .empty pieces = whole c
  | .step | .fault .. => s.saving ≠ none
  | .change q _ => q.place ≠ p.place ∧ (s.saving ≠ none → q.place ≠ (temporary p).place)

/-- The save that an event belongs to. -/
def saves? (s : Session) : Event → Option Saving
  | .begin c pieces => some ⟨c, saveSteps pieces, false⟩
  | .step | .fault .. => s.saving
  | .change .. => none

end Event

namespace Session

inductive Run (p : Path) (first : Session) : Session → Prop where
  | start : Run p first first
  | next {s : Session} {e : Event} (run : Run p first s) (allowed : e.Allowed p s) :
      Run p first (s.act p e).1

/-- A save is prepared for its steps, and if no write of it has failed the text that it will install
    is its checkpoint's. -/
def Ready (p : Path) (fs : FileSystem) (w : Saving) (text : ByteArray) : Prop :=
  (w.torn = false → text = whole w.checkpoint) ∧ Prepared p fs text w.remaining

/-- What every run keeps. -/
structure Sound (p : Path) (origin : FileSystem) (s : Session) : Prop where
  object : s.standing.Allows (origin.get? p.place) (s.fs.get? p.place)
  /-- where a checkpoint has been saved, the path can be read -/
  plain : ∀ c, s.standing = .saved c → check p = .ok () ∧ p.endsInSlash = false
  ready : ∀ w, s.saving = some w → ∃ text, Ready p s.fs w text

variable {p : Path} {origin : FileSystem} {s : Session}

/-! ### Steps -/

/-- The save under way runs a step: the step is atomic, the object is the new one if the save ends
    with success and still known as before if not, and unless it ends the save is ready to go on. -/
theorem step_spec {w : Saving} {text : ByteArray} (hsaving : s.saving = some w)
    (h : Ready p s.fs w text) :
    Atomic p text s.fs (s.step p).1.fs (s.step p).2
      ∧ ((s.step p).2 = some (.ok ()) →
          (s.step p).1.standing = if w.torn then .torn else .saved w.checkpoint)
      ∧ ((s.step p).2 ≠ some (.ok ()) → (s.step p).1.standing = s.standing)
      ∧ ∀ w', (s.step p).1.saving = some w' → Ready p (s.step p).1.fs w' text := by
  obtain ⟨c, steps, torn⟩ := w
  obtain ⟨htext, hprepared⟩ := h
  dsimp only at htext hprepared ⊢
  cases steps with
  | nil => exact absurd rfl hprepared.ne_nil
  | cons next rest =>
    rw [step, hsaving]
    dsimp only
    cases hrun : next.run p s.fs with
    | error fault => exact ⟨.refl nofun, nofun, fun _ => rfl, nofun⟩
    | ok fs =>
      rcases hprepared.run rfl hrun with ⟨rfl, hlast⟩ | ⟨hrest, hafter, hstep⟩
      · exact ⟨hlast, fun _ => rfl, fun hne => absurd rfl hne, nofun⟩
      · cases rest with
        | nil => exact absurd rfl hrest
        | cons after rest =>
          exact ⟨hstep, nofun, fun _ => rfl, fun w' hw' => Option.some.inj hw' ▸ ⟨htext, hafter⟩⟩

/-- A write that fails leaves a part of its piece in the temporary file.  The save is over if
    another piece follows, and goes on if not. -/
theorem fail_write {c : Checkpoint} {piece written : ByteArray} {rest : List SaveStep}
    {torn : Bool} (there : s.fs.get? (temporary p).place = some (.file written)) (kept : Nat)
    (fault : FileFault) : s.saving = some ⟨c, .write piece :: rest, torn⟩ →
    s.fail p kept fault =
      let fs := s.fs.put (temporary p).place (.file (written ++ piece.extract 0 kept))
      match rest with
      | .write _ :: _ => (⟨fs, none, s.standing⟩, some (.error (.io fault)))
      | rest => (⟨fs, some ⟨c, rest, true⟩, s.standing⟩, none) := by
  intro hsaving
  simp only [fail, hsaving, extend_of_file (piece.extract 0 kept) there]
  rfl

/-- The next step of the save under way fails: nothing is installed, nothing but the temporary file
    changes, and unless the fault ends the save it is ready to install what was written. -/
theorem fail_spec {kept : Nat} {fault : FileFault} {w : Saving} {text : ByteArray}
    (hsaving : s.saving = some w) (h : Ready p s.fs w text) :
    Atomic p text s.fs (s.fail p kept fault).1.fs (s.fail p kept fault).2
      ∧ (s.fail p kept fault).2 ≠ some (.ok ())
      ∧ (s.fail p kept fault).1.standing = s.standing
      ∧ ∀ w', (s.fail p kept fault).1.saving = some w' →
          ∃ text', Ready p (s.fail p kept fault).1.fs w' text' := by
  obtain ⟨c, steps, torn⟩ := w
  obtain ⟨-, hprepared⟩ := h
  cases hprepared with
  | fresh _ | written _ =>
    rw [fail, hsaving]
    exact ⟨.refl nofun, nofun, rfl, nofun⟩
  | @writing written pieces there apart _ =>
    cases pieces with
    | nil =>
      rw [fail, hsaving]
      exact ⟨.refl nofun, nofun, rfl, nofun⟩
    | cons piece pieces =>
      have hextended := alters_extend (extend_of_file (piece.extract 0 kept) there)
      have hpart := get?_extend there (extend_of_file (piece.extract 0 kept) there)
      cases pieces with
      | nil =>
        have hfail : s.fail p kept fault =
            (⟨s.fs.put (temporary p).place (.file (written ++ piece.extract 0 kept)),
              some ⟨c, [.flush, .rename], true⟩, s.standing⟩, none) :=
          fail_write there kept fault hsaving
        rw [hfail]
        refine ⟨.of_temporary hextended apart nofun, nofun, rfl, fun w' hw' => ?_⟩
        -- the save goes on to install what there is
        obtain rfl := Option.some.inj hw'
        have hrest : Prepared p _ (written ++ piece.extract 0 kept)
            (([] : List ByteArray).map .write ++ [.flush, .rename]) :=
          .writing hpart apart rfl
        exact ⟨_, nofun, hrest⟩
      | cons next pieces =>
        have hfail : s.fail p kept fault =
            (⟨s.fs.put (temporary p).place (.file (written ++ piece.extract 0 kept)),
              none, s.standing⟩, some (.error (.io fault))) :=
          fail_write there kept fault hsaving
        rw [hfail]
        exact ⟨.of_temporary hextended apart nofun, nofun, rfl, nofun⟩

/-! ### Runs -/

namespace Sound

theorem begin {c : Checkpoint} {pieces : List ByteArray} (h : Sound p origin s)
    (complete : joined .empty pieces = whole c) : Sound p origin (s.act p (.begin c pieces)).1 :=
  { h with ready := fun _ hw => ⟨whole c, Option.some.inj hw ▸ ⟨fun _ => rfl, .fresh complete⟩⟩ }

/-- What is known of an object that an atomic piece of a save has left where it was is known of it
    still. -/
theorem of_kept {s' : Session} (h : Sound p origin s)
    (hobject : s'.fs.get? p.place = s.fs.get? p.place) (hstanding : s'.standing = s.standing)
    (hready : ∀ w, s'.saving = some w → ∃ text, Ready p s'.fs w text) : Sound p origin s' where
  object := by rw [hobject, hstanding]; exact h.object
  plain c hc := h.plain c (hstanding ▸ hc)
  ready := hready

theorem change {q : Path} {k : Change} (h : Sound p origin s) (hplace : q.place ≠ p.place)
    (htemporary : s.saving ≠ none → q.place ≠ (temporary p).place) :
    Sound p origin (s.act p (.change q k)).1 := by
  cases hrun : k.run q s.fs with
  | error fault =>
    have hsame : (s.act p (.change q k)).1 = s := by
      rw [act, hrun]
      rfl
    rwa [hsame]
  | ok fs =>
    have hafter : (s.act p (.change q k)).1 = { s with fs } := by
      rw [act, hrun]
      rfl
    rw [hafter]
    refine h.of_kept (Change.elsewhere hrun hplace.symm) rfl fun w hw => ?_
    obtain ⟨text, htext, hprepared⟩ := h.ready w hw
    refine ⟨text, htext, hprepared.of_same (Change.elsewhere hrun ?_)⟩
    exact (htemporary fun hnone => absurd (hw.symm.trans hnone) nofun).symm

theorem step {w : Saving} (h : Sound p origin s) (hsaving : s.saving = some w) :
    Sound p origin (s.act p .step).1 := by
  obtain ⟨text, hready⟩ := h.ready w hsaving
  obtain ⟨hatomic, hnew, hold, hafter⟩ := step_spec hsaving hready
  have hgoes : ∀ w', (s.step p).1.saving = some w' → ∃ text, Ready p (s.step p).1.fs w' text :=
    fun w' hw' => ⟨text, hafter w' hw'⟩
  rw [act]
  -- the step installs the new text, or the last object is still there
  by_cases hok : (s.step p).2 = some (.ok ())
  · obtain ⟨hobject, hload, -⟩ := hatomic.installed hok
    cases htorn : w.torn with
    | true =>
      rw [htorn] at hnew
      exact {
        object := by rw [hnew hok]; trivial
        plain := fun c hc => absurd ((hnew hok).symm.trans hc) nofun
        ready := hgoes }
    | false =>
      rw [htorn] at hnew
      have htext := hready.1 htorn
      obtain ⟨bytes, hfinds⟩ := finds_of_load (hload w.checkpoint htext)
      exact {
        object := by rw [hnew hok, hobject, htext]; rfl
        plain := fun _ _ => ⟨hfinds.checked, hfinds.asked bytes rfl⟩
        ready := hgoes }
  · exact h.of_kept (hatomic.kept hok).1 (hold hok) hgoes

theorem fault {kept : Nat} {f : FileFault} {w : Saving} (h : Sound p origin s)
    (hsaving : s.saving = some w) : Sound p origin (s.act p (.fault kept f)).1 := by
  obtain ⟨text, hready⟩ := h.ready w hsaving
  obtain ⟨hatomic, hfails, hstanding, hafter⟩ := fail_spec hsaving hready
  exact h.of_kept (hatomic.kept hfails).1 hstanding hafter

theorem act {e : Event} (h : Sound p origin s) (allowed : e.Allowed p s) :
    Sound p origin (s.act p e).1 := by
  cases e with
  | begin c pieces => exact h.begin allowed.2
  | step =>
    obtain ⟨w, hw⟩ := Option.ne_none_iff_exists'.mp allowed
    exact h.step hw
  | fault kept f =>
    obtain ⟨w, hw⟩ := Option.ne_none_iff_exists'.mp allowed
    exact h.fault hw
  | change q k => exact h.change allowed.1 allowed.2

/-- Where a checkpoint was saved last and the way to it is open, it is loaded. -/
theorem load_eq {c : Checkpoint} (h : Sound p origin s) (hc : s.standing = .saved c)
    (hway : s.fs.walk [] p.names = .ok p.place) : load p s.fs = .ok c.told := by
  have hobject := h.object
  obtain ⟨hchecked, hslash⟩ := h.plain c hc
  rw [hc] at hobject
  exact load_of_finds ⟨hchecked, hway, hobject, fun _ _ => hslash⟩

/-- What an event does to the files that belongs to a save is atomic. -/
theorem atomic_act {e : Event} {w : Saving} (h : Sound p origin s) (allowed : e.Allowed p s)
    (hsaves : e.saves? s = some w) :
    ∃ text, (w.torn = false → text = whole w.checkpoint)
      ∧ Atomic p text s.fs (s.act p e).1.fs (s.act p e).2 := by
  cases e with
  | begin c pieces =>
    cases hsaves
    exact ⟨whole c, fun _ => rfl, .refl nofun⟩
  | step =>
    obtain ⟨text, hready⟩ := h.ready w hsaves
    exact ⟨text, hready.1, (step_spec hsaves hready).1⟩
  | fault kept f =>
    obtain ⟨text, hready⟩ := h.ready w hsaves
    exact ⟨text, hready.1, (fail_spec hsaves hready).1⟩
  | change q k => cases hsaves

end Sound

theorem Run.sound {first s : Session} (run : Run p first s) (idle : first.saving = none)
    (new : first.standing = .origin) : Sound p first.fs s := by
  induction run with
  | start =>
    exact {
      object := by rw [new]; rfl
      plain := fun c hc => absurd (new.symm.trans hc) nofun
      ready := fun w hw => absurd (idle.symm.trans hw) nofun }
  | next _ allowed ih => exact ih.act allowed

/-- **Saves are atomic.**  In every session, after any saves that succeeded or failed among whatever
    others did elsewhere, the checkpoint's place holds the whole text of the checkpoint saved last,
    which is loaded as long as the path leads there, or what it held at the start; only where the
    last write of that save had failed nothing is said.  Each step of a save, and each fault in it,
    leaves the object there and what is loaded as they are or, where the save returns with success,
    installs the new text and takes the temporary file away; it changes nothing at any other place
    but the temporary file's.  So does a save as a whole, and each state on its way shows the old
    object or the whole new one.  What stands at the temporary file's place does not matter to what
    is loaded unless the checkpoint's path leads through it, and only one that steps back does. -/
theorem Run.saves_are_atomic {first s : Session} (run : Run p first s)
    (idle : first.saving = none) (new : first.standing = .origin) :
    s.standing.Allows (first.fs.get? p.place) (s.fs.get? p.place)
      ∧ (∀ c, s.standing = .saved c → s.fs.walk [] p.names = .ok p.place →
          load p s.fs = .ok c.told)
      ∧ (s.standing = .origin → s.fs.walk [] p.names = first.fs.walk [] p.names →
          load p s.fs = load p first.fs)
      ∧ (∀ e w, e.Allowed p s → e.saves? s = some w →
          ∃ text, (w.torn = false → text = whole w.checkpoint)
            ∧ Atomic p text s.fs (s.act p e).1.fs (s.act p e).2)
      ∧ (∀ c, Atomic p (whole c) s.fs (save p s.fs c).2 (some (save p s.fs c).1))
      ∧ (∀ c pieces, joined .empty pieces = whole c → ∀ fs ∈ states p s.fs (saveSteps pieces),
          fs.get? p.place = s.fs.get? p.place ∨ fs.get? p.place = some (.file (whole c)))
      ∧ (¬p.LeadsThrough (temporary p).place →
          ∀ fs, (∀ r ≠ (temporary p).place, fs.get? r = s.fs.get? r) → load p fs = load p s.fs)
      ∧ (".." ∉ p.names → ¬p.LeadsThrough (temporary p).place) := by
  have hsound := run.sound idle new
  have hunmoved (horigin : s.standing = .origin)
      (hway : s.fs.walk [] p.names = first.fs.walk [] p.names) :
      load p s.fs = load p first.fs := by
    have hobject := hsound.object
    rw [horigin] at hobject
    exact load_congr (lookup_congr hway hobject)
  refine ⟨hsound.object, fun c => hsound.load_eq, hunmoved, fun e w => hsound.atomic_act,
    atomic_save p s.fs, fun c pieces complete fs => (Prepared.fresh complete).states,
    fun apart fs => load_of_apart apart, apart_of_no_step_back⟩

/-! ### A run -/

/-- The session after some events. -/
def after (p : Path) (s : Session) (events : List Event) : Session :=
  events.foldl (fun s e => (s.act p e).1) s

/-- Whether each of some events can happen when its turn comes. -/
def AllAllowed (p : Path) : Session → List Event → Prop
  | _, [] => True
  | s, e :: events => e.Allowed p s ∧ AllAllowed p (s.act p e).1 events

theorem Run.after {first : Session} {events : List Event} (run : Run p first s)
    (h : AllAllowed p s events) : Run p first (s.after p events) := by
  induction events generalizing s with
  | nil => exact run
  | cons e events ih => exact ih (.next run h.1) h.2

def orphanPath : Path := ⟨["state", "checkpoint.json"], false⟩

def orphanCheckpoint : Checkpoint := ⟨.ofList [("debian", ⟨.epoch, none, some true⟩)]⟩

/-- The checkpoint's directory is not there at first.  The first save fails for want of it, and
    somebody then makes it.  The second save writes over garbage, and the third one flushes and
    renames although its only write failed; the last one succeeds.  Meanwhile somebody makes a
    directory elsewhere, writes a file and removes the directory again. -/
def orphanEvents : List Event :=
  [.begin .empty [whole .empty], .step,
    .change ⟨["state"], false⟩ .makeDirectory,
    .change (temporary orphanPath) (.write ⟨#[0x7b, 0x22]⟩),
    .begin orphanCheckpoint [.empty, whole orphanCheckpoint], .step, .fault 0 .nameTooLong,
    .change ⟨["attic"], false⟩ .makeDirectory,
    .begin .empty [whole .empty], .step, .change ⟨["notes"], false⟩ (.write ⟨#[0x2e]⟩),
    .fault 1 .busy, .step, .change ⟨["attic"], false⟩ .removeDirectory, .step,
    .begin orphanCheckpoint [whole orphanCheckpoint], .step, .step, .step, .step]

theorem allAllowed_orphanEvents : AllAllowed orphanPath ⟨.empty, none, .origin⟩ orphanEvents := by
  refine ⟨⟨rfl, rfl⟩, nofun, ⟨by decide, nofun⟩, ⟨by decide, ?_⟩, ⟨rfl, rfl⟩, nofun, nofun,
    ⟨by decide, nofun⟩, ⟨rfl, rfl⟩, nofun, ⟨by decide, fun _ => by decide⟩, nofun, nofun,
    ⟨by decide, fun _ => by decide⟩, nofun, ⟨rfl, rfl⟩, nofun, nofun, nofun, nofun, trivial⟩
  exact fun h => absurd rfl h

theorem orphan_saves_are_atomic :
    let s := Session.after orphanPath ⟨.empty, none, .origin⟩ orphanEvents
    s.fs.get? ["state", "checkpoint.json"] = some (.file (whole orphanCheckpoint))
      ∧ load orphanPath s.fs = .ok orphanCheckpoint := by
  have hrun := Run.start.after allAllowed_orphanEvents
  have hatomic := hrun.saves_are_atomic rfl rfl
  exact ⟨hatomic.1, hatomic.2.1 orphanCheckpoint rfl rfl⟩

end Session

end SyncFleet.Storage
