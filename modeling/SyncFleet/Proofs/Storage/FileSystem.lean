/-
  SyncFleet/Proofs/Storage/FileSystem.lean
  ========================================
  **What an operation on files can change.**

  Names lead to one place, whatever stands on the way (`Path.place`); the way
  only decides whether they lead there at all, and it depends on nothing but
  what stands at the places that it leads through (`walk_congr`).  A successful
  operation on files changes what stands at the places of its paths and at no
  other, and it never puts anything in the place of a directory (`Alters`), so a
  way that was open stays open (`Alters.walk`).  What is found at a path changes
  only where its way or its place did (`lookup_congr`).
-/
import SyncFleet.Proofs.List
import SyncFleet.Storage.FileSystem

namespace SyncFleet.Storage

/-! ### Places -/

/-- Whether a path leads through a place, where a directory has to be then. -/
def Path.LeadsThrough (p : Path) (r : Place) : Prop :=
  ∃ above below, p.names = above ++ below ∧ below ≠ [] ∧ above.foldl follow [] = r

namespace FileSystem

variable {fs fs' : FileSystem} {p q : Path} {here place : Place} {names : List String}

theorem walk_cons {name : String} (h : fs.walk here (name :: names) = .ok place) :
    fs.get? here = some .directory ∧ fs.walk (follow here name) names = .ok place
      ∧ (name = "." ∨ name = ".." ∨ name.utf8ByteSize ≤ mostNameBytes) := by
  rw [walk] at h
  split at h
  · cases h
  · cases h
  rename_i hdir
  refine ⟨hdir, ?_⟩
  split at h
  · rename_i hdot
    exact ⟨by rwa [follow, if_pos hdot], Or.inl hdot⟩
  rename_i hdot
  split at h
  · rename_i hup
    exact ⟨by rwa [follow, if_neg hdot, if_pos hup], Or.inr (Or.inl hup)⟩
  rename_i hup
  split at h
  · cases h
  · rename_i hlen
    exact ⟨by rwa [follow, if_neg hdot, if_neg hup], Or.inr (Or.inr (Nat.not_lt.mp hlen))⟩

theorem walk_cons_of {name : String} (hdir : fs.get? here = some .directory)
    (hname : name = "." ∨ name = ".." ∨ name.utf8ByteSize ≤ mostNameBytes) :
    fs.walk here (name :: names) = fs.walk (follow here name) names := by
  rw [walk, hdir, follow]
  dsimp only
  split
  · rfl
  rename_i hdot
  split
  · rfl
  rename_i hup
  rw [if_neg]
  exact Nat.not_lt.mpr ((hname.resolve_left hdot).resolve_left hup)

/-- Names that lead somewhere lead to their place. -/
theorem walk_eq_foldl (h : fs.walk here names = .ok place) :
    place = names.foldl follow here := by
  induction names generalizing here with
  | nil => exact (Except.ok.inj h).symm
  | cons name names ih => exact ih (walk_cons h).2.1

theorem walk_eq_place (h : fs.walk [] p.names = .ok place) : place = p.place := walk_eq_foldl h

theorem walk_append {more : List String} :
    fs.walk here (names ++ more) = (fs.walk here names).bind fun there => fs.walk there more := by
  induction names generalizing here with
  | nil => rfl
  | cons name names ih =>
    rw [List.cons_append, walk, walk]
    split
    · rfl
    · rfl
    split
    · exact ih
    split
    · exact ih
    split
    · rfl
    · exact ih

theorem walk_append_ok {more : List String} (h : fs.walk here (names ++ more) = .ok place) :
    ∃ there, fs.walk here names = .ok there ∧ fs.walk there more = .ok place := by
  rw [walk_append] at h
  cases hfirst : fs.walk here names with
  | error fault => rw [hfirst] at h; cases h
  | ok there => rw [hfirst] at h; exact ⟨there, rfl, h⟩

/-- A way that is open leads through directories. -/
theorem directory_of_walk {r : Place} (h : fs.walk [] p.names = .ok place)
    (hthrough : p.LeadsThrough r) : fs.get? r = some .directory := by
  obtain ⟨above, below, hnames, hbelow, rfl⟩ := hthrough
  rw [hnames] at h
  obtain ⟨there, habove, hrest⟩ := walk_append_ok h
  obtain ⟨name, rest, rfl⟩ := List.exists_cons_of_ne_nil hbelow
  rw [← walk_eq_foldl habove]
  exact (walk_cons hrest).1

/-- A way depends on what stands at the places that it leads through. -/
theorem walk_congr (h : ∀ above below, names = above ++ below → below ≠ [] →
      fs'.get? (above.foldl follow here) = fs.get? (above.foldl follow here)) :
    fs'.walk here names = fs.walk here names := by
  induction names generalizing here with
  | nil => rfl
  | cons name names ih =>
    have hhere : fs'.get? here = fs.get? here := h [] (name :: names) rfl (List.cons_ne_nil _ _)
    have hrest : fs'.walk (follow here name) names = fs.walk (follow here name) names := by
      refine ih fun above below hnames hbelow => h (name :: above) below ?_ hbelow
      rw [hnames, List.cons_append]
    rw [walk, walk, hhere]
    rw [follow] at hrest
    split
    · rfl
    · rfl
    split
    · rename_i hdot
      rwa [if_pos hdot] at hrest
    rename_i hdot
    rw [if_neg hdot] at hrest
    split
    · rename_i hup
      rwa [if_pos hup] at hrest
    rename_i hup
    rw [if_neg hup] at hrest
    split
    · rfl
    · exact hrest

/-! ### What stands at a place -/

theorem get?_nil : fs.get? [] = some .directory := if_pos rfl

theorem ne_nil_of_get? {r : Place} (hr : fs.get? r ≠ some .directory) : r ≠ [] := by
  rintro rfl
  exact hr get?_nil

theorem get?_put {r : Place} (hr : r ≠ []) (e : Entry) (s : Place) :
    (fs.put r e).get? s = if s = r then some e else fs.get? s := by
  rw [get?, put, List.lookup_cons, lookup_filter]
  by_cases hs : s = r
  · subst hs
    rw [if_neg hr, beq_self_eq_true]
    exact (if_pos rfl).symm
  · rw [if_neg hs, if_neg hs, beq_false_of_ne hs, get?]

theorem get?_erase {r : Place} (hr : r ≠ []) (s : Place) :
    (fs.erase r).get? s = if s = r then none else fs.get? s := by
  rw [get?, erase, lookup_filter]
  by_cases hs : s = r
  · subst hs
    rw [if_neg hr, if_pos rfl, if_pos rfl]
  · rw [if_neg hs, if_neg hs, get?]

/-! ### Changes -/

/-- The second file system differs from the first only at the given places, and every directory
    of the first is still there. -/
structure Alters (fs : FileSystem) (at_ : List Place) (fs' : FileSystem) : Prop where
  elsewhere : ∀ r ∉ at_, fs'.get? r = fs.get? r
  directories : ∀ r, fs.get? r = some .directory → fs'.get? r = some .directory

namespace Alters

variable {at_ : List Place} {r : Place}

theorem refl (fs : FileSystem) (at_ : List Place) : Alters fs at_ fs :=
  ⟨fun _ _ => rfl, fun _ h => h⟩

theorem trans {fs'' : FileSystem} (h : Alters fs at_ fs') (h' : Alters fs' at_ fs'') :
    Alters fs at_ fs'' :=
  ⟨fun r hr => (h'.elsewhere r hr).trans (h.elsewhere r hr),
    fun r hr => h'.directories r (h.directories r hr)⟩

theorem mono {more : List Place} (h : Alters fs at_ fs') (hsub : ∀ r ∈ at_, r ∈ more) :
    Alters fs more fs' :=
  ⟨fun r hr => h.elsewhere r fun hmem => hr (hsub r hmem), h.directories⟩

theorem put (hr : fs.get? r ≠ some .directory) (e : Entry) : Alters fs [r] (fs.put r e) := by
  refine ⟨fun s hs => ?_, fun s hs => ?_⟩
  · rw [get?_put (ne_nil_of_get? hr), if_neg fun heq => hs (List.mem_singleton.mpr heq)]
  · rw [get?_put (ne_nil_of_get? hr), if_neg (by rintro rfl; exact hr hs), hs]

theorem erase (hr : fs.get? r ≠ some .directory) : Alters fs [r] (fs.erase r) := by
  refine ⟨fun s hs => ?_, fun s hs => ?_⟩
  · rw [get?_erase (ne_nil_of_get? hr), if_neg fun heq => hs (List.mem_singleton.mpr heq)]
  · rw [get?_erase (ne_nil_of_get? hr), if_neg (by rintro rfl; exact hr hs), hs]

/-- A way that was open is still open. -/
theorem walk (h : Alters fs at_ fs') (hwalk : fs.walk [] p.names = .ok place) :
    fs'.walk [] p.names = .ok place := by
  rw [walk_congr fun above below hnames hbelow => ?_, hwalk]
  have hdir := directory_of_walk hwalk ⟨above, below, hnames, hbelow, rfl⟩
  rw [h.directories _ hdir, hdir]

end Alters

/-! ### Operations -/

/-- A path that is found can be handed over, its way is open, and what is found is what stands at
    its place: no file if the path asks for a directory. -/
structure Finds (fs : FileSystem) (p : Path) (found : Option Entry) : Prop where
  checked : check p = .ok ()
  way : fs.walk [] p.names = .ok p.place
  stands : fs.get? p.place = found
  asked : ∀ content, found = some (.file content) → p.endsInSlash = false

theorem lookup_eq_ok_iff {found : Option Entry} :
    fs.lookup p = .ok (place, found) ↔ place = p.place ∧ fs.Finds p found := by
  constructor
  · intro h
    rw [lookup] at h
    cases hcheck : check p with
    | error fault => rw [hcheck] at h; cases h
    | ok _ =>
    cases hwalk : fs.walk [] p.names with
    | error fault => rw [hcheck, hwalk] at h; cases h
    | ok there =>
    obtain rfl : there = p.place := walk_eq_place hwalk
    rw [hcheck, hwalk] at h
    dsimp only [bind, Except.bind] at h
    split at h
    · cases h
    · rename_i hasked
      cases h
      refine ⟨rfl, hcheck, hwalk, rfl, fun content hfile => ?_⟩
      exact Bool.eq_false_iff.mpr fun hslash => hasked content hfile hslash
  · rintro ⟨rfl, hcheck, hwalk, rfl, hasked⟩
    rw [lookup, hcheck, hwalk]
    dsimp only [bind, Except.bind]
    split
    · rename_i content hfile hslash
      exact absurd (hasked content hfile) (by rw [hslash]; exact Bool.noConfusion)
    · rfl

/-- What is found at a path depends on its way and on what stands at its place. -/
theorem lookup_congr (hway : fs'.walk [] p.names = fs.walk [] p.names)
    (hplace : fs'.get? p.place = fs.get? p.place) : fs'.lookup p = fs.lookup p := by
  rw [lookup, lookup, hway]
  cases hwalk : fs.walk [] p.names with
  | error fault => rfl
  | ok there =>
    obtain rfl : there = p.place := walk_eq_place hwalk
    dsimp only [bind, Except.bind]
    rw [hplace]

/-- What follows a lookup follows from what it finds. -/
theorem lookup_bind {α : Type} {f : Place × Option Entry → Except FileFault α} {a : α}
    (h : (fs.lookup p >>= f) = .ok a) : ∃ found, fs.Finds p found ∧ f (p.place, found) = .ok a := by
  cases hlookup : fs.lookup p with
  | error fault => rw [hlookup] at h; cases h
  | ok r =>
    obtain ⟨place, found⟩ := r
    obtain ⟨rfl, hfinds⟩ := lookup_eq_ok_iff.mp hlookup
    rw [hlookup] at h
    exact ⟨found, hfinds, h⟩

theorem create_eq_ok (h : fs.create p = .ok fs') :
    ∃ found, fs.Finds p found ∧ found ≠ some .directory
      ∧ fs' = fs.put p.place (.file .empty) := by
  obtain ⟨found, hfinds, h⟩ := lookup_bind h
  refine ⟨found, hfinds, ?_⟩
  split at h
  · cases h
  · rename_i hdir heq
    cases heq
    split at h
    · cases h
    · exact ⟨hdir, (Except.ok.inj h).symm⟩

theorem extend_eq_ok {bytes : ByteArray} (h : fs.extend place bytes = .ok fs') :
    ∃ content, fs.get? place = some (.file content)
      ∧ fs' = fs.put place (.file (content ++ bytes)) := by
  rw [extend] at h
  split at h
  · cases h
  · cases h
  · rename_i content hfile
    exact ⟨content, hfile, (Except.ok.inj h).symm⟩

theorem extend_of_file {content : ByteArray} (bytes : ByteArray)
    (h : fs.get? place = some (.file content)) :
    fs.extend place bytes = .ok (fs.put place (.file (content ++ bytes))) := by
  rw [extend, h]

theorem rename_eq_ok (h : fs.rename p q = .ok fs') :
    ∃ content there, fs.Finds p (some (.file content)) ∧ fs.Finds q there
      ∧ there ≠ some .directory ∧ q.endsInSlash = false
      ∧ fs' = (fs.erase p.place).put q.place (.file content) := by
  obtain ⟨found, hfinds, hsource⟩ := lookup_bind h
  obtain ⟨there, hthere, htarget⟩ := lookup_bind hsource
  dsimp only at htarget
  split at htarget
  · cases htarget
  split at htarget
  · cases htarget
  · cases htarget
  · rename_i content
    split at htarget
    · cases htarget
    rename_i hslash
    split at htarget
    · cases htarget
    · rename_i hdir
      exact ⟨content, there, hfinds, hthere, hdir, Bool.eq_false_iff.mpr hslash,
        (Except.ok.inj htarget).symm⟩

theorem makeDirectory_eq_ok (h : fs.makeDirectory p = .ok fs') :
    fs.get? p.place = none ∧ fs' = fs.put p.place .directory := by
  obtain ⟨found, hfinds, h⟩ := lookup_bind h
  split at h
  · cases h
  · rename_i heq
    cases heq
    exact ⟨hfinds.stands, (Except.ok.inj h).symm⟩

theorem remove_eq_ok (h : fs.remove p = .ok fs') :
    ∃ content, fs.get? p.place = some (.file content) ∧ fs' = fs.erase p.place := by
  obtain ⟨found, hfinds, h⟩ := lookup_bind h
  split at h
  · cases h
  · cases h
  · rename_i content heq
    cases heq
    exact ⟨content, hfinds.stands, (Except.ok.inj h).symm⟩

theorem removeDirectory_eq_ok (h : fs.removeDirectory p = .ok fs') :
    p.place ≠ [] ∧ fs' = fs.erase p.place := by
  obtain ⟨found, hfinds, h⟩ := lookup_bind h
  split at h
  · cases h
  · cases h
  · rename_i heq
    cases heq
    split at h
    · cases h
    · rename_i hfree
      exact ⟨fun hroot => hfree (Or.inl hroot), (Except.ok.inj h).symm⟩

/-! ### What operations change -/

theorem alters_create (h : fs.create p = .ok fs') : Alters fs [p.place] fs' := by
  obtain ⟨found, hfinds, hdir, rfl⟩ := create_eq_ok h
  exact .put (hfinds.stands ▸ hdir) _

theorem alters_extend {bytes : ByteArray} (h : fs.extend place bytes = .ok fs') :
    Alters fs [place] fs' := by
  obtain ⟨content, hfile, rfl⟩ := extend_eq_ok h
  exact .put (by rw [hfile]; nofun) _

theorem alters_write {bytes : ByteArray} (h : fs.write p bytes = .ok fs') :
    Alters fs [p.place] fs' := by
  rw [write] at h
  cases hcreate : fs.create p with
  | error fault => rw [hcreate] at h; cases h
  | ok between =>
    rw [hcreate] at h
    exact (alters_create hcreate).trans (alters_extend h)

theorem alters_makeDirectory (h : fs.makeDirectory p = .ok fs') : Alters fs [p.place] fs' := by
  obtain ⟨hnone, rfl⟩ := makeDirectory_eq_ok h
  exact .put (by rw [hnone]; nofun) _

theorem alters_remove (h : fs.remove p = .ok fs') : Alters fs [p.place] fs' := by
  obtain ⟨content, hfile, rfl⟩ := remove_eq_ok h
  exact .erase (by rw [hfile]; nofun)

theorem alters_rename (h : fs.rename p q = .ok fs') : Alters fs [p.place, q.place] fs' := by
  obtain ⟨content, there, hfinds, hthere, hdir, -, rfl⟩ := rename_eq_ok h
  have herase : Alters fs [p.place] (fs.erase p.place) := .erase (by rw [hfinds.stands]; nofun)
  have hput : (fs.erase p.place).get? q.place ≠ some .directory := by
    rw [get?_erase (ne_nil_of_get? (by rw [hfinds.stands]; nofun))]
    split
    · nofun
    · rwa [hthere.stands]
  exact (herase.mono (by simp)).trans ((Alters.put hput _).mono (by simp))

end FileSystem

end SyncFleet.Storage
