/-
  SyncFleet/Proofs/Storage/Steps.lean
  ===================================
  **What a step of a save may do.**

  Whatever the path of a checkpoint, the temporary file has another place
  (`place_temporary_ne`), and once it has been made the way to the checkpoint
  does not lead through that place (`apart_of_create`).  What is loaded depends
  on the way to the checkpoint and on its place alone, so from then on it does
  not depend on the temporary file (`load_of_apart`).

  `Prepared` says what a save has reached when some steps are still before it:
  the temporary file holds what has been written, and what is still to be
  written completes the text that the save will install.  `Atomic` says what a
  piece of a save may do: unless it makes the save succeed, the object at the
  checkpoint's place and what is loaded stay as they are; if it does, the object
  is that text, and the temporary file is gone.  Every step is atomic
  (`Prepared.run`), and so is a whole save (`atomic_save`), of which every state
  in between shows the old object or the whole new one (`Prepared.states`).
-/
import SyncFleet.Proofs.Checkpoint.RoundTrip
import SyncFleet.Proofs.Storage.FileSystem
import SyncFleet.Storage.FileStore

namespace SyncFleet.Storage

open FileSystem

variable {fs fs' : FileSystem} {p : Path} {c : Checkpoint} {text : ByteArray}

/-! ### The place of the temporary file -/

/-- The temporary file's name takes the last name's place, or comes behind all of them. -/
theorem names_temporary (p : Path) :
    (∃ above name, p.names = above ++ [name]
        ∧ (temporary p).names = above ++ [temporaryName name])
      ∨ (temporary p).names = p.names ++ [temporaryName ""] := by
  rw [temporary]
  split
  · rename_i name _ hlast
    obtain ⟨above, habove⟩ := List.getLast?_eq_some_iff.mp hlast
    refine Or.inl ⟨above, name, habove, ?_⟩
    rw [habove, List.dropLast_concat]
  · exact Or.inr rfl

theorem length_temporaryName (name : String) :
    (temporaryName name).length = name.length + 4 := by
  rw [temporaryName, String.length_append]
  rfl

/-- A temporary name is a name, and no step. -/
theorem temporaryName_ne (name : String) :
    temporaryName name ≠ "." ∧ temporaryName name ≠ ".." := by
  have hlong : ∀ step : String, step.length < 4 → temporaryName name ≠ step := by
    intro step hstep heq
    have hlen := congrArg String.length heq
    rw [length_temporaryName] at hlen
    omega
  exact ⟨hlong "." (by decide), hlong ".." (by decide)⟩

theorem follow_temporaryName (here : Place) (name : String) :
    follow here (temporaryName name) = here ++ [temporaryName name] := by
  rw [follow, if_neg (temporaryName_ne name).1, if_neg (temporaryName_ne name).2]

/-- A name never leads to where its temporary name leads. -/
theorem follow_ne (here : Place) (name : String) :
    follow here name ≠ here ++ [temporaryName name] := by
  have hlonger : here.length < (here ++ [temporaryName name]).length := by
    rw [List.length_append]
    exact Nat.lt_succ_self _
  rw [follow]
  split
  · exact fun heq => absurd (congrArg List.length heq) (Nat.ne_of_lt hlonger)
  split
  · refine fun heq => absurd (congrArg List.length heq) (Nat.ne_of_lt ?_)
    exact Nat.lt_of_le_of_lt (List.length_dropLast ▸ Nat.sub_le _ _) hlonger
  · intro heq
    have hname : name = temporaryName name := List.singleton_inj.mp (List.append_cancel_left heq)
    have hlen := congrArg String.length hname
    rw [length_temporaryName] at hlen
    omega

/-- The temporary file has a place of its own. -/
theorem place_temporary_ne (p : Path) : (temporary p).place ≠ p.place := by
  rcases names_temporary p with ⟨above, name, hnames, htemporary⟩ | htemporary
  · rw [Path.place, Path.place, hnames, htemporary, List.foldl_append, List.foldl_append]
    exact fun heq => follow_ne _ name ((follow_temporaryName _ name).symm.trans heq).symm
  · rw [Path.place, Path.place, htemporary, List.foldl_append, List.foldl_cons, List.foldl_nil,
      follow_temporaryName]
    exact fun heq => List.cons_ne_nil _ _ (List.append_right_eq_self.mp heq)

/-- Where the way to the temporary file is open, the way to the checkpoint is open too. -/
theorem walk_of_temporary {place : Place} (h : fs.walk [] (temporary p).names = .ok place) :
    fs.walk [] p.names = .ok p.place := by
  rcases names_temporary p with ⟨above, name, hnames, htemporary⟩ | htemporary
  · -- both lie in one directory, and a name is shorter than its temporary name
    rw [htemporary] at h
    obtain ⟨directory, habove, hname⟩ := walk_append_ok h
    obtain ⟨hdir, -, hshort⟩ := walk_cons hname
    have hfits : name.utf8ByteSize ≤ mostNameBytes := by
      have hsize := (hshort.resolve_left (temporaryName_ne name).1).resolve_left
        (temporaryName_ne name).2
      rw [temporaryName, String.utf8ByteSize_append] at hsize
      exact Nat.le_trans (Nat.le_add_right _ _) hsize
    have hopen : fs.walk [] p.names = .ok (follow directory name) := by
      rw [hnames, walk_append, habove]
      exact walk_cons_of hdir (Or.inr (Or.inr hfits))
    exact walk_eq_place hopen ▸ hopen
  · rw [htemporary] at h
    obtain ⟨there, hthere, -⟩ := walk_append_ok h
    exact walk_eq_place hthere ▸ hthere

/-! ### Paths apart from their temporary file -/

/-- Without a step back, names only lead further down. -/
theorem length_le_foldl_follow {names : List String} (h : ".." ∉ names) (here : Place) :
    here.length ≤ (names.foldl follow here).length := by
  induction names generalizing here with
  | nil => exact Nat.le_refl _
  | cons name names ih =>
    obtain ⟨hname, hnames⟩ := not_or.mp (List.mem_cons.not.mp h)
    refine Nat.le_trans ?_ (ih hnames (follow here name))
    rw [follow, if_neg (Ne.symm hname)]
    split
    · exact Nat.le_refl _
    · rw [List.length_append]
      exact Nat.le_add_right _ _

/-- Only a path that steps back can lead through the place of its temporary file. -/
theorem apart_of_no_step_back (h : ".." ∉ p.names) :
    ¬p.LeadsThrough (temporary p).place := by
  rintro ⟨above, below, hnames, hbelow, hplace⟩
  -- the temporary file lies further down than every place on the way to its directory
  have hdeeper : ∀ rest name, ".." ∉ rest →
      (temporary p).names ≠ (above ++ rest) ++ [temporaryName name] := by
    intro rest name hrest htemporary
    have hle := length_le_foldl_follow hrest (above.foldl follow [])
    have hlength := congrArg List.length hplace
    rw [Path.place, htemporary, List.foldl_append, List.foldl_cons, List.foldl_nil,
      follow_temporaryName, List.length_append, List.foldl_append, List.length_singleton] at hlength
    omega
  rcases names_temporary p with ⟨directory, name, hlast, htemporary⟩ | htemporary
  · obtain ⟨rest, last, rfl⟩ := (List.eq_nil_or_concat below).resolve_left hbelow
    have hdirectory : directory = above ++ rest := by
      have heq := hlast.symm.trans hnames
      rw [List.concat_eq_append, ← List.append_assoc] at heq
      exact (List.append_inj' heq rfl).1
    exact hdeeper rest name (fun hmem => h (by simp [hnames, hmem])) (hdirectory ▸ htemporary)
  · exact hdeeper below "" (fun hmem => h (by simp [hnames, hmem])) (hnames ▸ htemporary)

/-- A path whose temporary file was made does not lead through its place, where no directory was. -/
theorem apart_of_create (h : fs.create (temporary p) = .ok fs') :
    ¬p.LeadsThrough (temporary p).place := by
  obtain ⟨found, hfinds, hdir, -⟩ := create_eq_ok h
  intro hthrough
  have hthere := directory_of_walk (walk_of_temporary hfinds.way) hthrough
  exact hdir (hfinds.stands.symm.trans hthere)

/-! ### Loading -/

theorem load_congr (h : fs'.lookup p = fs.lookup p) : load p fs' = load p fs := by
  rw [load, load, FileSystem.read, FileSystem.read, h]

/-- **A stale temporary file is never loaded.**  Anything may stand in the temporary file's place, or
    nothing: as long as the checkpoint's path does not lead through it, what is loaded is the
    same. -/
theorem load_of_apart (h : ¬p.LeadsThrough (temporary p).place)
    (hsame : ∀ r ≠ (temporary p).place, fs'.get? r = fs.get? r) : load p fs' = load p fs := by
  refine load_congr (lookup_congr (walk_congr fun above below hnames hbelow => ?_) ?_)
  · exact hsame _ fun heq => h ⟨above, below, hnames, hbelow, heq⟩
  · exact hsame _ (place_temporary_ne p).symm

/-- The bytes of a checkpoint's text. -/
def whole (c : Checkpoint) : ByteArray := c.encode.toUTF8

/-- Where the text of a checkpoint is found, what it tells is loaded. -/
theorem load_of_finds (h : fs.Finds p (some (.file (whole c)))) : load p fs = .ok c.told := by
  rw [load, FileSystem.read, lookup_eq_ok_iff.mpr ⟨rfl, h⟩]
  dsimp only [bind, Except.bind, pure, Except.pure]
  rw [whole, c.decodeBytes?_toUTF8]

/-- What is loaded was found. -/
theorem finds_of_load (h : load p fs = .ok c) :
    ∃ bytes, fs.Finds p (some (.file bytes)) := by
  rw [load] at h
  split at h
  · cases h
  · cases h
  · rename_i bytes hread
    obtain ⟨found, hfinds, hfound⟩ := lookup_bind hread
    split at hfound
    · cases hfound
    · cases hfound
    · rename_i content heq
      cases heq
      exact ⟨content, hfinds⟩

/-- The path of a checkpoint beside which the temporary file has the name that the path leads
    through. -/
def throughTemporary : Path := ⟨["a.tmp", "..", "a"], false⟩

/-- What stands in the temporary file's place matters to a path that leads through it: nothing is
    found behind nothing, a file is in the way, and a directory opens it. -/
theorem load_through_temporary :
    let fs := FileSystem.empty.put ["a"] (.file (whole .empty))
    (temporary throughTemporary).place = ["a.tmp"]
      ∧ load throughTemporary fs = .error (.notFound "a.tmp/../a")
      ∧ load throughTemporary (fs.put ["a.tmp"] (.file "garbage".toUTF8)) =
          .error (.io .notADirectory)
      ∧ load throughTemporary (fs.put ["a.tmp"] .directory) = .ok .empty := by
  refine ⟨by decide, rfl, rfl, ?_⟩
  exact load_of_finds (p := throughTemporary) (c := .empty) ⟨rfl, rfl, rfl, fun _ _ => rfl⟩

/-! ### Steps -/

/-- What has been written when pieces follow what was there. -/
def joined (written : ByteArray) (pieces : List ByteArray) : ByteArray :=
  pieces.foldl (· ++ ·) written

/-- What a save has reached that will install a text when it has run the given steps. -/
inductive Prepared (p : Path) (fs : FileSystem) (text : ByteArray) : List SaveStep → Prop where
  /-- nothing has been done -/
  | fresh {pieces : List ByteArray} (complete : joined .empty pieces = text) :
      Prepared p fs text (saveSteps pieces)
  /-- the temporary file holds what was written, and the pieces complete the text -/
  | writing {written : ByteArray} {pieces : List ByteArray}
      (there : fs.get? (temporary p).place = some (.file written))
      (apart : ¬p.LeadsThrough (temporary p).place) (complete : joined written pieces = text) :
      Prepared p fs text (pieces.map .write ++ [.flush, .rename])
  /-- the temporary file holds the whole text -/
  | written (there : fs.get? (temporary p).place = some (.file text)) :
      Prepared p fs text [.rename]

theorem closing_ne_nil (pieces : List ByteArray) :
    pieces.map SaveStep.write ++ [.flush, .rename] ≠ [] :=
  List.append_ne_nil_of_right_ne_nil _ (List.cons_ne_nil _ _)

theorem Prepared.ne_nil {steps : List SaveStep} (h : Prepared p fs text steps) : steps ≠ [] := by
  cases h with
  | fresh => exact List.cons_ne_nil _ _
  | writing => exact closing_ne_nil _
  | written => exact List.cons_ne_nil _ _

/-- A change that leaves the temporary file alone leaves a save prepared. -/
theorem Prepared.of_same {steps : List SaveStep} (h : Prepared p fs text steps)
    (hsame : fs'.get? (temporary p).place = fs.get? (temporary p).place) :
    Prepared p fs' text steps := by
  cases h with
  | fresh complete => exact .fresh complete
  | writing there apart complete => exact .writing (hsame.trans there) apart complete
  | written there => exact .written (hsame.trans there)

/-- What a piece of a save that is to install a text may do to the files, `returned` being what the
    save returns if it ends there. -/
structure Atomic (p : Path) (text : ByteArray) (fs fs' : FileSystem)
    (returned : Option (Except StoreFault Unit)) : Prop where
  elsewhere : ∀ r, r ≠ (temporary p).place → r ≠ p.place → fs'.get? r = fs.get? r
  kept : returned ≠ some (.ok ()) →
    fs'.get? p.place = fs.get? p.place ∧ load p fs' = load p fs
  installed : returned = some (.ok ()) →
    fs'.get? p.place = some (.file text) ∧ (∀ c, text = whole c → load p fs' = .ok c.told)
      ∧ fs'.get? (temporary p).place = none

namespace Atomic

variable {returned : Option (Except StoreFault Unit)}

theorem refl (h : returned ≠ some (.ok ())) : Atomic p text fs fs returned :=
  ⟨fun _ _ _ => rfl, fun _ => ⟨rfl, rfl⟩, fun hok => absurd hok h⟩

/-- A piece that does not end the save, then the others. -/
theorem trans {fs'' : FileSystem} (h : Atomic p text fs fs' none)
    (h' : Atomic p text fs' fs'' returned) : Atomic p text fs fs'' returned := by
  obtain ⟨hobject, hload⟩ := h.kept nofun
  refine ⟨fun r htemporary hplace => ?_, fun hreturned => ?_, h'.installed⟩
  · exact (h'.elsewhere r htemporary hplace).trans (h.elsewhere r htemporary hplace)
  · obtain ⟨hobject', hload'⟩ := h'.kept hreturned
    exact ⟨hobject'.trans hobject, hload'.trans hload⟩

/-- Work on the temporary file alone is atomic where the checkpoint's path does not lead through its
    place. -/
theorem of_temporary (h : Alters fs [(temporary p).place] fs')
    (apart : ¬p.LeadsThrough (temporary p).place) (hreturned : returned ≠ some (.ok ())) :
    Atomic p text fs fs' returned := by
  have hsame : ∀ r ≠ (temporary p).place, fs'.get? r = fs.get? r :=
    fun r hr => h.elsewhere r fun hmem => hr (List.mem_singleton.mp hmem)
  exact ⟨fun r hr _ => hsame r hr,
    fun _ => ⟨hsame _ (place_temporary_ne p).symm, load_of_apart apart hsame⟩,
    fun hok => absurd hok hreturned⟩

end Atomic

/-- Renaming the temporary file over the checkpoint installs what it holds. -/
theorem atomic_rename (hthere : fs.get? (temporary p).place = some (.file text))
    (h : fs.rename (temporary p) p = .ok fs') : Atomic p text fs fs' (some (.ok ())) := by
  have halters := alters_rename h
  obtain ⟨content, there, htemporary, htarget, hdir, hslash, rfl⟩ := rename_eq_ok h
  obtain rfl : text = content :=
    Entry.file.inj (Option.some.inj (hthere.symm.trans htemporary.stands))
  have hgone : (temporary p).place ≠ [] := ne_nil_of_get? (by rw [hthere]; nofun)
  have hplace : p.place ≠ [] := ne_nil_of_get? (htarget.stands ▸ hdir)
  have hobject : ((fs.erase (temporary p).place).put p.place (.file text)).get? p.place =
      some (.file text) := by
    rw [get?_put hplace, if_pos rfl]
  refine ⟨fun r hr hr' => halters.elsewhere r ?_, fun hne => absurd rfl hne,
    fun _ => ⟨hobject, ?_, ?_⟩⟩
  · exact fun hmem => (List.mem_cons.mp hmem).elim hr fun hmem => hr' (List.mem_singleton.mp hmem)
  · rintro c rfl
    exact load_of_finds
      ⟨htarget.checked, halters.walk htarget.way, hobject, fun _ _ => hslash⟩
  · rw [get?_put hplace, if_neg (place_temporary_ne p), get?_erase hgone, if_pos rfl]

/-- Making the temporary file is atomic, and nothing has been written then. -/
theorem prepared_create {pieces : List ByteArray} (complete : joined .empty pieces = text)
    (h : fs.create (temporary p) = .ok fs') :
    Prepared p fs' text (pieces.map .write ++ [.flush, .rename])
      ∧ Atomic p text fs fs' none := by
  have halters := alters_create h
  have apart := apart_of_create h
  obtain ⟨found, hfinds, hdir, rfl⟩ := create_eq_ok h
  refine ⟨.writing ?_ apart complete, .of_temporary halters apart nofun⟩
  rw [get?_put (ne_nil_of_get? (hfinds.stands ▸ hdir)), if_pos rfl]

/-- After a write the temporary file holds the bytes behind what it held. -/
theorem get?_extend {written bytes : ByteArray}
    (there : fs.get? (temporary p).place = some (.file written))
    (h : fs.extend (temporary p).place bytes = .ok fs') :
    fs'.get? (temporary p).place = some (.file (written ++ bytes)) := by
  obtain ⟨content, hfile, rfl⟩ := extend_eq_ok h
  obtain rfl : written = content :=
    Entry.file.inj (Option.some.inj (there.symm.trans hfile))
  rw [get?_put (ne_nil_of_get? (by rw [there]; nofun)), if_pos rfl]

/-- A step of a save that has come this far is atomic.  Either it ends the save with success, or it
    leaves the save prepared for the steps that remain. -/
theorem Prepared.run {steps rest : List SaveStep} {next : SaveStep}
    (h : Prepared p fs text steps) (hsteps : steps = next :: rest)
    (hrun : next.run p fs = .ok fs') :
    (rest = [] ∧ Atomic p text fs fs' (some (.ok ())))
      ∨ (rest ≠ [] ∧ Prepared p fs' text rest ∧ Atomic p text fs fs' none) := by
  cases h with
  | fresh complete =>
    cases hsteps
    exact Or.inr ⟨closing_ne_nil _, prepared_create complete hrun⟩
  | @writing written pieces there apart complete =>
    cases pieces with
    | nil =>
      -- flushing comes when no piece is left, and changes nothing that can be read
      cases hsteps
      obtain rfl : fs = fs' := Except.ok.inj hrun
      exact Or.inr ⟨List.cons_ne_nil _ _,
        .written (there.trans (congrArg _ (congrArg _ complete))), .refl nofun⟩
    | cons piece pieces =>
      cases hsteps
      exact Or.inr ⟨closing_ne_nil _, .writing (get?_extend there hrun) apart complete,
        .of_temporary (alters_extend hrun) apart nofun⟩
  | written there =>
    cases hsteps
    exact Or.inl ⟨rfl, atomic_rename there hrun⟩

/-! ### Whole saves -/

/-- All steps that remain, one after the other, are atomic together. -/
theorem Prepared.runSteps {steps : List SaveStep} (h : Prepared p fs text steps) :
    Atomic p text fs (runSteps p fs steps).2
      (some ((runSteps p fs steps).1.mapError StoreFault.io)) := by
  induction steps generalizing fs with
  | nil => exact absurd rfl h.ne_nil
  | cons next rest ih =>
    rw [Storage.runSteps]
    cases hrun : next.run p fs with
    | error fault => exact .refl nofun
    | ok between =>
      rcases h.run rfl hrun with ⟨rfl, hlast⟩ | ⟨-, hprepared, hstep⟩
      · exact hlast
      · exact hstep.trans (ih hprepared)

/-- Every state that the steps pass through shows the old object or the whole new one. -/
theorem Prepared.states {steps : List SaveStep} (h : Prepared p fs text steps)
    (hfs : fs' ∈ states p fs steps) :
    fs'.get? p.place = fs.get? p.place ∨ fs'.get? p.place = some (.file text) := by
  induction steps generalizing fs with
  | nil => exact absurd rfl h.ne_nil
  | cons next rest ih =>
    rw [Storage.states] at hfs
    cases hrun : next.run p fs with
    | error fault =>
      rw [hrun] at hfs
      exact Or.inl (congrArg (·.get? p.place) (List.mem_singleton.mp hfs))
    | ok between =>
      rw [hrun] at hfs
      rcases List.mem_cons.mp hfs with rfl | hfs
      · exact Or.inl rfl
      rcases h.run rfl hrun with ⟨rfl, hlast⟩ | ⟨-, hprepared, hstep⟩
      · obtain rfl : fs' = between := List.mem_singleton.mp hfs
        exact Or.inr (hlast.installed rfl).1
      · exact (ih hprepared hfs).imp_left fun heq => heq.trans (hstep.kept nofun).1

theorem atomic_save (p : Path) (fs : FileSystem) (c : Checkpoint) :
    Atomic p (whole c) fs (save p fs c).2 (some (save p fs c).1) := by
  have hprepared : Prepared p fs (whole c) (saveSteps [c.encode.toUTF8]) := .fresh rfl
  exact hprepared.runSteps

end SyncFleet.Storage
