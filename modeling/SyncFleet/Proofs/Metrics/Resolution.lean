/-
  SyncFleet/Proofs/Metrics/Resolution.lean
  ========================================
  **Where a path leads.**

  Names lead from a place to a place: each is looked up in the directory that
  the ones before it have led to, and where a link stands the names of its
  target come in its stead (`Leads`).  This relation knows no bound; the
  resolver finds the place if no more links stand on the way than it may follow
  (`resolve_eq_ok_iff`).

  The path of a directory with the name of an entry behind it leads to that
  entry (`Reaches.entry`), so what is found on the way down is opened again by
  its own path, unless that path is too long or too many directories are open
  (`openDirectory_eq_ok_iff`).
-/
import SyncFleet.Metrics.DiskUsage
import SyncFleet.Proofs.Result

namespace SyncFleet.Tree

/-! ### The names of a path -/

theorem partsOf_ne_nil (cs : List Char) : Text.partsOf cs ≠ [] := by
  fun_cases Text.partsOf cs <;> exact List.cons_ne_nil _ _

theorem partsOf_slash (front back : List Char) :
    Text.partsOf (front ++ '/' :: back) = Text.partsOf front ++ Text.partsOf back := by
  induction front with
  | nil => rfl
  | cons c front ih =>
    by_cases hc : c = '/'
    · subst hc
      rw [List.cons_append, Text.partsOf, ih, Text.partsOf, List.cons_append]
    · rw [List.cons_append, Text.partsOf, ih, Text.partsOf]
      · cases hfront : Text.partsOf front with
        | nil => exact absurd hfront (partsOf_ne_nil front)
        | cons part more => rfl
      · exact hc
      · exact hc

theorem partsOf_name {name : List Char} (h : '/' ∉ name) : Text.partsOf name = [name] := by
  induction name with
  | nil => rfl
  | cons c name ih =>
    rw [List.mem_cons, not_or] at h
    rw [Text.partsOf, ih h.2]
    exact fun heq => h.1 heq.symm

/-- Slashes at the end of a path add only parts that are empty. -/
theorem filter_partsOf_append_slashes (front : List Char) (n : Nat) :
    (Text.partsOf (front ++ List.replicate n '/')).filter (!·.isEmpty) =
      (Text.partsOf front).filter (!·.isEmpty) := by
  induction n generalizing front with
  | zero => rw [List.replicate_zero, List.append_nil]
  | succ n ih =>
    have hslashes : (Text.partsOf (List.replicate n '/')).filter (!·.isEmpty) = [] := ih []
    rw [List.replicate_succ, partsOf_slash, List.filter_append, hslashes, List.append_nil]

/-- What the name of an entry is: a step in itself that can be written in a path. -/
structure IsName (name : String) : Prop where
  ne_empty : name ≠ ""
  ne_self : name ≠ "."
  ne_parent : name ≠ ".."
  no_slash : '/' ∉ name.toList
  no_null : '\x00' ∉ name.toList
  short : name.utf8ByteSize ≤ Storage.mostNameBytes

instance (name : String) : Decidable (IsName name) :=
  decidable_of_iff (name ≠ "" ∧ name ≠ "." ∧ name ≠ ".." ∧ '/' ∉ name.toList ∧
      '\x00' ∉ name.toList ∧ name.utf8ByteSize ≤ Storage.mostNameBytes)
    ⟨fun ⟨h₁, h₂, h₃, h₄, h₅, h₆⟩ => ⟨h₁, h₂, h₃, h₄, h₅, h₆⟩,
      fun ⟨h₁, h₂, h₃, h₄, h₅, h₆⟩ => ⟨h₁, h₂, h₃, h₄, h₅, h₆⟩⟩

section EntryPath

variable {path name : String}

/-- However the path of a directory ends, one slash or more stands before the name of an entry. -/
theorem toList_entryPath (path name : String) :
    (∃ front, path.toList = front ++ ['/'] ∧
        (entryPath path name).toList = front ++ '/' :: name.toList) ∨
      (entryPath path name).toList = path.toList ++ '/' :: name.toList := by
  rw [entryPath]
  split
  · rename_i hslash
    obtain ⟨front, hfront⟩ := List.getLast?_eq_some_iff.mp hslash
    refine Or.inl ⟨front, hfront, ?_⟩
    rw [String.toList_append, hfront, List.append_assoc, List.singleton_append]
  · right
    rw [String.toList_append, String.toList_append, List.append_assoc]
    rfl

theorem entryPath_ne_empty (path name : String) : entryPath path name ≠ "" := by
  intro hempty
  have hchars := toList_entryPath path name
  rw [hempty] at hchars
  rcases hchars with ⟨front, -, hfront⟩ | hpath
  · exact absurd hfront.symm (List.append_ne_nil_of_right_ne_nil _ (List.cons_ne_nil _ _))
  · exact absurd hpath.symm (List.append_ne_nil_of_right_ne_nil _ (List.cons_ne_nil _ _))

theorem no_null_entryPath (hpath : '\x00' ∉ path.toList) (hname : IsName name) :
    '\x00' ∉ (entryPath path name).toList := by
  have hslash : '\x00' ∉ '/' :: name.toList := by
    rw [List.mem_cons, not_or]
    exact ⟨by decide, hname.no_null⟩
  rcases toList_entryPath path name with ⟨front, hfront, hchars⟩ | hchars
  · rw [hfront, List.mem_append, not_or] at hpath
    rw [hchars, List.mem_append, not_or]
    exact ⟨hpath.1, hslash⟩
  · rw [hchars, List.mem_append, not_or]
    exact ⟨hpath, hslash⟩

theorem startOf_append (hpath : path ≠ "") (here : List String) (more : String) :
    startOf here (path ++ more) = startOf here path := by
  have hhead : (path ++ more).toList.head? = path.toList.head? := by
    obtain ⟨c, rest, hchars⟩ := List.exists_cons_of_ne_nil (mt String.toList_eq_nil_iff.mp hpath)
    rw [String.toList_append, hchars]
    rfl
  rw [startOf, startOf, isAbsolute, isAbsolute, hhead]

theorem startOf_entryPath (hpath : path ≠ "") (here : List String) :
    startOf here (entryPath path name) = startOf here path := by
  rw [entryPath]
  split
  · exact startOf_append hpath here name
  · rw [String.append_assoc]
    exact startOf_append hpath here ("/" ++ name)

theorem namesOf_entryPath (hname : IsName name) :
    namesOf (entryPath path name) = namesOf path ++ [name] := by
  have hparts : ∀ parts : List (List Char),
      ((parts ++ [name.toList]).filter (!·.isEmpty)).map String.ofList =
        (parts.filter (!·.isEmpty)).map String.ofList ++ [name] := by
    intro parts
    have hkeeps : name.toList.isEmpty = false := by
      rw [List.isEmpty_eq_false_iff, Ne, String.toList_eq_nil_iff]
      exact hname.ne_empty
    simp [hkeeps]
  rw [namesOf, namesOf]
  rcases toList_entryPath path name with ⟨front, hfront, hchars⟩ | hchars
  · -- the empty part behind the last slash of the path is no name
    have hempty : Text.partsOf path.toList = Text.partsOf front ++ [[]] := by
      rw [hfront, partsOf_slash, Text.partsOf]
    rw [hchars, partsOf_slash, partsOf_name hname.no_slash, hparts, hempty]
    simp
  · rw [hchars, partsOf_slash, partsOf_name hname.no_slash, hparts]

theorem utf8ByteSize_entryPath (path name : String) :
    path.utf8ByteSize + name.utf8ByteSize ≤ (entryPath path name).utf8ByteSize := by
  rw [entryPath]
  split
  · exact Nat.le_of_eq (String.utf8ByteSize_append ..).symm
  · rw [String.utf8ByteSize_append, String.utf8ByteSize_append]
    exact Nat.add_le_add_right (Nat.le_add_right _ _) _

theorem lt_utf8ByteSize_entryPath (path : String) (hname : IsName name) :
    path.utf8ByteSize < (entryPath path name).utf8ByteSize := by
  have hpos : 0 < name.utf8ByteSize :=
    Nat.pos_of_ne_zero (mt String.utf8ByteSize_eq_zero_iff.mp hname.ne_empty)
  exact Nat.lt_of_lt_of_le (Nat.lt_add_of_pos_right hpos) (utf8ByteSize_entryPath path name)

end EntryPath

/-! ### Places -/

section Places

variable {t : Tree} {place : List String}

theorem at?_append (place below : List String) (t : Tree) :
    t.at? (place ++ below) = (t.at? place).bind (at? below) := by
  induction place generalizing t with
  | nil => rfl
  | cons name place ih =>
    rw [List.cons_append, at?, at?, Option.bind_assoc]
    congr 1
    funext child
    exact ih child

theorem kindAt?_eq_directory_iff :
    t.kindAt? place = some .directory ↔ ∃ children, t.at? place = some (.directory children) := by
  rw [kindAt?, Option.map_eq_some_iff]
  constructor
  · rintro ⟨child, hat, hkind⟩
    cases child with
    | directory children => exact ⟨children, hat⟩
    | file _ | link _ => cases hkind
  · rintro ⟨children, hat⟩
    exact ⟨_, hat, rfl⟩

end Places

/-! ### Where names lead -/

/-- Names lead from a place to a place, and so many links are followed on the way. -/
inductive Leads (root : Tree) : Nat → List String → List String → List String → Prop where
  | stay {place} : Leads root 0 place [] place
  | self {links place rest goal} (hdir : root.kindAt? place = some .directory)
      (hrest : Leads root links place rest goal) : Leads root links place ("." :: rest) goal
  | parent {links place rest goal} (hdir : root.kindAt? place = some .directory)
      (hrest : Leads root links place.dropLast rest goal) :
      Leads root links place (".." :: rest) goal
  | entry {links place name rest goal kind} (hdir : root.kindAt? place = some .directory)
      (hself : name ≠ ".") (hparent : name ≠ "..")
      (hshort : name.utf8ByteSize ≤ Storage.mostNameBytes)
      (hentry : root.kindAt? (place ++ [name]) = some kind)
      (hkind : ∀ target, kind ≠ .link target)
      (hrest : Leads root links (place ++ [name]) rest goal) :
      Leads root links place (name :: rest) goal
  | link {links place name rest goal target} (hdir : root.kindAt? place = some .directory)
      (hself : name ≠ ".") (hparent : name ≠ "..")
      (hshort : name.utf8ByteSize ≤ Storage.mostNameBytes)
      (hlink : root.kindAt? (place ++ [name]) = some (.link target))
      (hrest : Leads root links (startOf place target) (namesOf target ++ rest) goal) :
      Leads root (links + 1) place (name :: rest) goal

section Resolve

variable {root : Tree} {links n m : Nat} {place mid goal names more : List String}

theorem Leads.append (h : root.Leads n place names mid) (hmore : root.Leads m mid more goal) :
    root.Leads (n + m) place (names ++ more) goal := by
  induction h with
  | stay => rwa [Nat.zero_add, List.nil_append]
  | self hdir _ ih => exact .self hdir (ih hmore)
  | parent hdir _ ih => exact .parent hdir (ih hmore)
  | entry hdir hself hparent hshort hentry hkind _ ih =>
    exact .entry hdir hself hparent hshort hentry hkind (ih hmore)
  | @link links place name rest _ target hdir hself hparent hshort hlink _ ih =>
    rw [Nat.add_right_comm]
    refine .link hdir hself hparent hshort hlink ?_
    exact List.append_assoc .. ▸ ih hmore

theorem leads_of_resolve (h : resolve root.kindAt? links place names = .ok goal) :
    ∃ n ≤ links, root.Leads n place names goal := by
  fun_induction resolve root.kindAt? links place names with
  | case1 links place =>
    cases h
    exact ⟨0, Nat.zero_le _, .stay⟩
  | case2 links place rest hdir ih =>
    obtain ⟨n, hn, hleads⟩ := ih h
    exact ⟨n, hn, .self hdir hleads⟩
  | case3 links place rest hdir _ ih =>
    obtain ⟨n, hn, hleads⟩ := ih h
    exact ⟨n, hn, .parent hdir hleads⟩
  | case7 place name rest hdir hself hparent hlong target hlink links ih =>
    obtain ⟨n, hn, hleads⟩ := ih h
    exact ⟨n + 1, Nat.succ_le_succ hn,
      .link hdir hself hparent (Nat.not_lt.mp hlong) hlink hleads⟩
  | case8 links place name rest hdir hself hparent hlong kind hentry hkind ih =>
    obtain ⟨n, hn, hleads⟩ := ih h
    exact ⟨n, hn, .entry hdir hself hparent (Nat.not_lt.mp hlong) hkind hentry hleads⟩
  | case4 | case5 | case6 | case9 | case10 => cases h

theorem Leads.resolve (h : root.Leads n place names goal) (hn : n ≤ links) :
    resolve root.kindAt? links place names = .ok goal := by
  induction h generalizing links with
  | stay => rw [Tree.resolve]
  | self hdir _ ih =>
    rw [Tree.resolve, hdir]
    exact ih hn
  | parent hdir _ ih =>
    rw [Tree.resolve, hdir]
    exact ih hn
  | entry hdir hself hparent hshort hentry hkind _ ih =>
    rw [Tree.resolve, hdir]
    simp only [if_neg hself, if_neg hparent, if_neg (Nat.not_lt.mpr hshort), hentry]
    exact ih hn
  | link hdir hself hparent hshort hlink _ ih =>
    obtain ⟨links, rfl⟩ := Nat.exists_eq_succ_of_ne_zero (Nat.ne_zero_of_lt hn)
    rw [Tree.resolve, hdir]
    simp only [if_neg hself, if_neg hparent, if_neg (Nat.not_lt.mpr hshort), hlink]
    exact ih (Nat.le_of_succ_le_succ hn)

/-- The resolver finds the place that names lead to, unless too many links stand on the way. -/
theorem resolve_eq_ok_iff :
    resolve root.kindAt? links place names = .ok goal ↔
      ∃ n ≤ links, root.Leads n place names goal :=
  ⟨leads_of_resolve, fun ⟨_, hn, hleads⟩ => hleads.resolve hn⟩

end Resolve

/-! ### Where paths lead -/

/-- A path that is read at a place leads to a place, through no more links than a path may lead
    through.  It may still be too long to be opened. -/
structure Reaches (root : Tree) (here : List String) (path : String) (place : List String) :
    Prop where
  text : '\x00' ∉ path.toList
  ne_empty : path ≠ ""
  leads : ∃ n ≤ linkLimit, root.Leads n (startOf here path) (namesOf path) place

section Reaches

variable {root : Tree} {here place place' : List String} {path name : String}

theorem Reaches.resolve (h : root.Reaches here path place) :
    Tree.resolve root.kindAt? linkLimit (startOf here path) (namesOf path) = .ok place :=
  resolve_eq_ok_iff.mpr h.leads

theorem Reaches.unique (h : root.Reaches here path place) (h' : root.Reaches here path place') :
    place = place' :=
  Except.ok.inj (h.resolve.symm.trans h'.resolve)

/-- However many slashes stand at its end, a path leads to the same place. -/
theorem Reaches.append_slashes (h : root.Reaches here path place) (n : Nat) :
    root.Reaches here (path ++ String.ofList (List.replicate n '/')) place := by
  obtain ⟨links, hlinks, hleads⟩ := h.leads
  have hchars : (path ++ String.ofList (List.replicate n '/')).toList =
      path.toList ++ List.replicate n '/' := by
    rw [String.toList_append, String.toList_ofList]
  have hnames : namesOf (path ++ String.ofList (List.replicate n '/')) = namesOf path := by
    rw [namesOf, namesOf, hchars, filter_partsOf_append_slashes]
  refine ⟨?_, ?_, links, hlinks, ?_⟩
  · rw [hchars, List.mem_append, not_or]
    exact ⟨h.text, fun hmem => absurd (List.eq_of_mem_replicate hmem) (by decide)⟩
  · rw [Ne, ← String.toList_eq_nil_iff, hchars]
    exact List.append_ne_nil_of_left_ne_nil (mt String.toList_eq_nil_iff.mp h.ne_empty) _
  · rwa [startOf_append h.ne_empty, hnames]

/-- The path of an entry leads to the entry, unless that is a link. -/
theorem Reaches.entry (h : root.Reaches here path place)
    (hdir : root.kindAt? place = some .directory) (hname : IsName name)
    (hentry : root.kindAt? (place ++ [name]) = some .directory) :
    root.Reaches here (entryPath path name) (place ++ [name]) := by
  obtain ⟨n, hn, hleads⟩ := h.leads
  refine ⟨no_null_entryPath h.text hname, entryPath_ne_empty path name, n, hn, ?_⟩
  rw [startOf_entryPath h.ne_empty, namesOf_entryPath hname]
  exact hleads.append
    (.entry hdir hname.ne_self hname.ne_parent hname.short hentry (fun _ => nofun) .stay)

/-- A directory is found at the end of a path that leads there, unless the path is too long. -/
theorem Reaches.findDirectory_eq (h : root.Reaches here path place)
    (hdir : root.kindAt? place = some .directory) :
    findDirectory root.kindAt? here path =
      if path.utf8ByteSize ≤ Storage.mostPathBytes then .ok place else .error .nameTooLong := by
  rw [findDirectory, if_neg h.text, if_neg h.ne_empty]
  by_cases hshort : path.utf8ByteSize ≤ Storage.mostPathBytes
  · simp only [if_neg (Nat.not_lt.mpr hshort), if_pos hshort, h.resolve, hdir]
  · rw [if_pos (Nat.not_le.mp hshort), if_neg hshort]

theorem findDirectory_eq_ok (h : findDirectory root.kindAt? here path = .ok place) :
    root.Reaches here path place ∧ root.kindAt? place = some .directory := by
  rw [findDirectory] at h
  split at h
  · cases h
  rename_i hnull
  split at h
  · cases h
  rename_i hempty
  split at h
  · cases h
  split at h
  · cases h
  rename_i found hfound
  split at h
  · rename_i hdir
    cases h
    exact ⟨⟨hnull, hempty, resolve_eq_ok_iff.mp hfound⟩, hdir⟩
  · cases h
  · cases h

theorem openDirectory_eq_ok {streams : Nat} :
    openDirectory root.kindAt? here streams path = .ok place ↔
      0 < streams ∧ findDirectory root.kindAt? here path = .ok place := by
  rw [openDirectory]
  split
  · rename_i hnone
    exact iff_of_false nofun fun h => Nat.ne_of_gt h.1 hnone
  · rename_i hsome
    rw [and_iff_right (Nat.pos_of_ne_zero hsome), mapError_eq_ok_iff]

/-- The directory at the end of a path can be opened if another one may be open and the path is
    not too long. -/
theorem openDirectory_eq_ok_iff {streams : Nat} :
    openDirectory root.kindAt? here streams path = .ok place ↔
      (root.Reaches here path place ∧ root.kindAt? place = some .directory) ∧
        0 < streams ∧ path.utf8ByteSize ≤ Storage.mostPathBytes := by
  rw [openDirectory_eq_ok]
  constructor
  · rintro ⟨hstreams, hfound⟩
    obtain ⟨hreaches, hdir⟩ := findDirectory_eq_ok hfound
    rw [hreaches.findDirectory_eq hdir] at hfound
    split at hfound
    · exact ⟨⟨hreaches, hdir⟩, hstreams, ‹_›⟩
    · cases hfound
  · rintro ⟨⟨hreaches, hdir⟩, hstreams, hshort⟩
    rw [hreaches.findDirectory_eq hdir, if_pos hshort]
    exact ⟨hstreams, rfl⟩

end Reaches

end SyncFleet.Tree
