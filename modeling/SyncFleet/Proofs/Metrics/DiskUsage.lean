/-
  SyncFleet/Proofs/Metrics/DiskUsage.lean
  =======================================
  **What a walk below a directory counts.**

  The regular files of a well-formed tree are those that stand at its places,
  each at one place (`mem_files_iff`, `nodup_files`).  A walk that begins at a
  place opens every directory below by its own path, and keeps it open until it
  is done with all that the directory holds.  All these paths lead where they
  should, so the walk fails exactly when one of them is too long or too many
  directories are open at once (`Fits`), and otherwise adds up the sizes of the
  files (`entryUsage_eq_ok_iff`).  Where as many may be open as the longest path
  has bytes, only the paths matter (`usageAt_eq_ok_of_le`).

  What is found and what is counted depends on what stands at which place.  The
  order in which the entries of a directory are listed is no part of that.
-/
import Mathlib.Algebra.BigOperators.Group.List.Basic
import Mathlib.Algebra.Ring.Nat
import SyncFleet.Proofs.List
import SyncFleet.Proofs.Metrics.Resolution
import SyncFleet.Proofs.Result

namespace SyncFleet.Tree

/-- Induction over a tree: what holds of all entries of a directory holds of the directory. -/
@[elab_as_elim, induction_eliminator]
theorem induction {motive : Tree → Prop} (file : ∀ size, motive (.file size))
    (link : ∀ target, motive (.link target))
    (directory : ∀ children, (∀ e ∈ children, motive e.2) → motive (.directory children))
    (t : Tree) : motive t := by
  refine @Tree.rec motive (fun children => ∀ e ∈ children, motive e.2) (fun e => motive e.2)
    file link directory nofun ?_ (fun _ _ h => h) t
  intro e children he hchildren
  exact List.forall_mem_cons.mpr ⟨he, hchildren⟩

/-! ### Well-formed trees -/

/-- In every directory the entries have distinct names, which are names of entries. -/
def WellFormed (t : Tree) : Prop :=
  ∀ place children, t.at? place = some (.directory children) →
    (children.map Prod.fst).Nodup ∧ ∀ e ∈ children, IsName e.1

section WellFormed

variable {t : Tree} {name : String} {place : List String} {children : List (String × Tree)}

theorem WellFormed.at? {child : Tree} (h : t.WellFormed) (hat : t.at? place = some child) :
    child.WellFormed := by
  intro below children hbelow
  refine h (place ++ below) children ?_
  rw [at?_append, hat]
  exact hbelow

theorem at?_cons_eq_some_iff {found : Tree} {below : List String} :
    (directory children).at? (name :: below) = some found ↔
      ∃ t, children.lookup name = some t ∧ t.at? below = some found :=
  Option.bind_eq_some_iff

/-- What stands below a directory stands in one of its entries. -/
theorem WellFormed.at?_entry_iff (h : (directory children).WellFormed) {found : Tree}
    {below : List String} :
    (directory children).at? (name :: below) = some found ↔
      ∃ t, (name, t) ∈ children ∧ t.at? below = some found := by
  have hnodup := (h [] children rfl).1
  simp only [at?_cons_eq_some_iff, lookup_eq_some_iff_mem hnodup]

theorem WellFormed.at?_name (h : (directory children).WellFormed) (hmem : (name, t) ∈ children) :
    (directory children).at? [name] = some t :=
  h.at?_entry_iff.mpr ⟨t, hmem, rfl⟩

theorem WellFormed.kindAt?_entry_iff (h : (directory children).WellFormed) {kind : Kind}
    {below : List String} :
    (directory children).kindAt? (name :: below) = some kind ↔
      ∃ t, (name, t) ∈ children ∧ t.kindAt? below = some kind := by
  simp only [kindAt?, Option.map_eq_some_iff, h.at?_entry_iff]
  constructor
  · rintro ⟨found, ⟨t, hmem, hat⟩, hkind⟩
    exact ⟨t, hmem, found, hat, hkind⟩
  · rintro ⟨t, hmem, found, hat, hkind⟩
    exact ⟨found, ⟨t, hmem, hat⟩, hkind⟩

theorem WellFormed.entry (h : (directory children).WellFormed) (hmem : (name, t) ∈ children) :
    t.WellFormed := h.at? (h.at?_name hmem)

theorem wellFormed_of_kind_ne (h : t.kind ≠ .directory) : t.WellFormed := by
  intro place children hat
  cases t with
  | directory _ => exact absurd rfl h
  | file _ | link _ => cases place <;> cases hat

/-- A directory is well-formed if its entries are and bear distinct names. -/
theorem wellFormed_directory (hnodup : (children.map Prod.fst).Nodup)
    (hnames : ∀ e ∈ children, IsName e.1) (hentries : ∀ e ∈ children, e.2.WellFormed) :
    (directory children).WellFormed := by
  intro place found hat
  cases place with
  | nil =>
    cases hat
    exact ⟨hnodup, hnames⟩
  | cons name below =>
    obtain ⟨t, hlookup, hat⟩ := at?_cons_eq_some_iff.mp hat
    exact hentries _ ((lookup_eq_some_iff_mem hnodup).mp hlookup) below found hat

end WellFormed

/-! ### The files of a tree -/

mutual

/-- The regular files of a tree, with their places and sizes. -/
def files : Tree → List (List String × Nat)
  | .file size => [([], size)]
  | .link _ => []
  | .directory children => entryFiles children

/-- The regular files of the entries of a directory. -/
def entryFiles : List (String × Tree) → List (List String × Nat)
  | [] => []
  | (name, t) :: rest => t.files.map (fun f => (name :: f.1, f.2)) ++ entryFiles rest

end

/-- The bytes of all regular files of a tree. -/
def size (t : Tree) : Nat := (t.files.map Prod.snd).sum

section Files

variable {t : Tree} {place : List String} {bytes : Nat} {children : List (String × Tree)}

theorem mem_entryFiles_iff :
    (place, bytes) ∈ entryFiles children ↔
      ∃ name t below, (name, t) ∈ children ∧ (below, bytes) ∈ t.files ∧ place = name :: below := by
  induction children with
  | nil => simp [entryFiles]
  | cons e rest ih =>
    obtain ⟨name, t⟩ := e
    rw [entryFiles, List.mem_append, ih, List.mem_map]
    constructor
    · rintro (⟨f, hf, heq⟩ | ⟨name', t', below, hmem, hf, hplace⟩)
      · cases heq
        exact ⟨name, t, f.1, List.mem_cons_self, hf, rfl⟩
      · exact ⟨name', t', below, List.mem_cons_of_mem _ hmem, hf, hplace⟩
    · rintro ⟨name', t', below, hmem, hf, rfl⟩
      rcases List.mem_cons.mp hmem with heq | hmem
      · cases heq
        exact Or.inl ⟨_, hf, rfl⟩
      · exact Or.inr ⟨name', t', below, hmem, hf, rfl⟩

/-- The files of a tree are what stands at its places and is a file. -/
theorem mem_files_iff (h : t.WellFormed) :
    (place, bytes) ∈ t.files ↔ t.kindAt? place = some (.file bytes) := by
  induction t generalizing place with
  | file size =>
    rw [files, List.mem_singleton]
    cases place with
    | nil => simp [kindAt?, at?, kind, eq_comm]
    | cons name below => simp [kindAt?, at?, child?]
  | link target =>
    rw [files]
    cases place with
    | nil => simp [kindAt?, at?, kind]
    | cons name below => simp [kindAt?, at?, child?]
  | directory children ih =>
    rw [files, mem_entryFiles_iff]
    cases place with
    | nil => simp [kindAt?, at?, kind]
    | cons name below =>
      rw [h.kindAt?_entry_iff]
      constructor
      · rintro ⟨_, t, _, hmem, hfile, heq⟩
        cases heq
        exact ⟨t, hmem, (ih _ hmem (h.entry hmem)).mp hfile⟩
      · rintro ⟨t, hmem, hfile⟩
        exact ⟨name, t, below, hmem, (ih _ hmem (h.entry hmem)).mpr hfile, rfl⟩

theorem nodup_entryFiles (hnodup : (children.map Prod.fst).Nodup)
    (hfiles : ∀ e ∈ children, (e.2.files.map Prod.fst).Nodup) :
    ((entryFiles children).map Prod.fst).Nodup := by
  induction children with
  | nil => exact List.nodup_nil
  | cons e rest ih =>
    obtain ⟨name, t⟩ := e
    rw [List.map_cons, List.nodup_cons] at hnodup
    obtain ⟨hfirst, hrest⟩ := List.forall_mem_cons.mp hfiles
    rw [entryFiles, List.map_append, List.nodup_append]
    refine ⟨?_, ih hnodup.2 hrest, ?_⟩
    · have hplaces : (t.files.map fun f => (name :: f.1, f.2)).map Prod.fst =
          (t.files.map Prod.fst).map (name :: ·) := by
        rw [List.map_map, List.map_map]
        rfl
      rw [hplaces]
      exact hfirst.map List.cons_injective
    · intro p hp q hq heq
      subst heq
      obtain ⟨_, hf, rfl⟩ := List.mem_map.mp hp
      obtain ⟨f, -, rfl⟩ := List.mem_map.mp hf
      obtain ⟨⟨_, bytes⟩, hg, heq⟩ := List.mem_map.mp hq
      obtain ⟨name', t', below, hmem, -, rfl⟩ := mem_entryFiles_iff.mp hg
      cases heq
      exact hnodup.1 (List.mem_map.mpr ⟨_, hmem, rfl⟩)

/-- Every file of a tree stands at one place. -/
theorem nodup_files (h : t.WellFormed) : (t.files.map Prod.fst).Nodup := by
  induction t with
  | file size => exact List.nodup_singleton _
  | link target => exact List.nodup_nil
  | directory children ih =>
    exact nodup_entryFiles (h [] children rfl).1 fun e he => ih e he (h.entry he)

/-- The size of a tree is what the files at its places have together, in whatever order. -/
theorem sum_eq_size (h : t.WellFormed) {listed : List (List String × Nat)}
    (hnodup : (listed.map Prod.fst).Nodup)
    (hlisted : ∀ place bytes, (place, bytes) ∈ listed ↔ t.kindAt? place = some (.file bytes)) :
    (listed.map Prod.snd).sum = t.size := by
  have hperm : listed.Perm t.files := by
    refine (List.perm_ext_iff_of_nodup (.of_map _ hnodup) (.of_map _ (nodup_files h))).mpr ?_
    rintro ⟨place, bytes⟩
    rw [hlisted, mem_files_iff h]
  exact (hperm.map Prod.snd).sum_eq

theorem size_entries (name : String) (t : Tree) (rest : List (String × Tree)) :
    (directory ((name, t) :: rest)).size = t.size + (directory rest).size := by
  simp only [size, files, entryFiles, List.map_append, List.sum_append, List.map_map]
  rfl

end Files

/-! ### The walk -/

/-- The path of a directory and those of all directories below are no longer than a path can be, and
    no more of them lie in one another than may be open at once. -/
def Fits (t : Tree) (streams : Nat) (path : String) : Prop :=
  ∀ below, t.kindAt? below = some .directory →
    below.length < streams ∧ (below.foldl entryPath path).utf8ByteSize ≤ Storage.mostPathBytes

section Walk

variable {root t : Tree} {streams : Nat} {here place : List String} {path : String}
  {children entries : List (String × Tree)} {size : UInt64}

theorem fits_of_kind_ne (h : t.kind ≠ .directory) (streams : Nat) (path : String) :
    t.Fits streams path := by
  intro below hdir
  obtain ⟨children, hat⟩ := kindAt?_eq_directory_iff.mp hdir
  cases below with
  | nil =>
    cases hat
    exact absurd rfl h
  | cons name below =>
    cases t with
    | file _ | link _ => cases hat
    | directory _ => exact absurd rfl h

theorem fits_directory_iff (h : (directory children).WellFormed) :
    (directory children).Fits streams path ↔
      (0 < streams ∧ path.utf8ByteSize ≤ Storage.mostPathBytes) ∧
        ∀ e ∈ children, e.2.Fits (streams - 1) (entryPath path e.1) := by
  constructor
  · intro hfits
    refine ⟨hfits [] rfl, fun e he below hdir => ?_⟩
    obtain ⟨hdepth, hshort⟩ :=
      hfits (e.1 :: below) (h.kindAt?_entry_iff.mpr ⟨e.2, he, hdir⟩)
    exact ⟨Nat.lt_sub_of_add_lt hdepth, hshort⟩
  · rintro ⟨hpath, hentries⟩ below hdir
    cases below with
    | nil => exact hpath
    | cons name below =>
      obtain ⟨t, hmem, hdir⟩ := h.kindAt?_entry_iff.mp hdir
      obtain ⟨hdepth, hshort⟩ := hentries _ hmem below hdir
      exact ⟨Nat.add_lt_of_lt_sub hdepth, hshort⟩

/-- The walk over some entries goes as the walks over each of them go. -/
theorem entriesUsage_eq_ok_iff
    (h : ∀ e ∈ entries, ∀ size, entryUsage root.kindAt? here streams (entryPath path e.1) e.2 =
      .ok size ↔ e.2.Fits streams (entryPath path e.1) ∧ size = .ofNat e.2.size) :
    entriesUsage root.kindAt? here streams path entries = .ok size ↔
      (∀ e ∈ entries, e.2.Fits streams (entryPath path e.1)) ∧
        size = .ofNat (directory entries).size := by
  induction entries generalizing size with
  | nil =>
    rw [entriesUsage]
    exact ⟨fun hok => ⟨nofun, (Except.ok.inj hok).symm⟩, fun hsize => hsize.2 ▸ rfl⟩
  | cons e rest ih =>
    obtain ⟨name, t⟩ := e
    obtain ⟨hfirst, hrest⟩ := List.forall_mem_cons.mp h
    rw [entriesUsage, bind_eq_ok, size_entries, List.forall_mem_cons]
    simp only [hfirst, bind_eq_ok, ih hrest]
    constructor
    · rintro ⟨_, ⟨hfits, rfl⟩, _, ⟨hothers, rfl⟩, hsum⟩
      exact ⟨⟨hfits, hothers⟩, (Except.ok.inj hsum).symm.trans (UInt64.ofNat_add ..).symm⟩
    · rintro ⟨⟨hfits, hothers⟩, rfl⟩
      exact ⟨_, ⟨hfits, rfl⟩, _, ⟨hothers, rfl⟩, congrArg Except.ok (UInt64.ofNat_add ..).symm⟩

/-- The walk over an entry adds up its files, and ends if every directory can be opened. -/
theorem entryUsage_eq_ok_iff (hroot : root.WellFormed) (hat : root.at? place = some t)
    (hway : t.kind = .directory → root.Reaches here path place) :
    entryUsage root.kindAt? here streams path t = .ok size ↔
      t.Fits streams path ∧ size = .ofNat t.size := by
  induction t generalizing streams path place size with
  | file bytes =>
    rw [and_iff_right (fits_of_kind_ne (by simp [kind]) streams path), entryUsage]
    simp [Tree.size, files, pure, Except.pure, eq_comm]
  | link target =>
    rw [and_iff_right (fits_of_kind_ne (by simp [kind]) streams path), entryUsage]
    exact ⟨fun hok => (Except.ok.inj hok).symm, fun hsize => hsize ▸ rfl⟩
  | directory children ih =>
    have hdirectory := hroot.at? hat
    have hdir : root.kindAt? place = some .directory := kindAt?_eq_directory_iff.mpr ⟨_, hat⟩
    have hopens : (∃ place', openDirectory root.kindAt? here streams path = .ok place') ↔
        0 < streams ∧ path.utf8ByteSize ≤ Storage.mostPathBytes := by
      simp only [openDirectory_eq_ok_iff]
      exact ⟨fun ⟨_, _, hfits⟩ => hfits, fun hfits => ⟨place, ⟨hway rfl, hdir⟩, hfits⟩⟩
    have hwalks : ∀ e ∈ children, ∀ size,
        entryUsage root.kindAt? here (streams - 1) (entryPath path e.1) e.2 = .ok size ↔
          e.2.Fits (streams - 1) (entryPath path e.1) ∧ size = .ofNat e.2.size := by
      intro e he size
      have hentry : root.at? (place ++ [e.1]) = some e.2 := by
        rw [at?_append, hat]
        exact hdirectory.at?_name he
      -- the path of the entry leads to it, so that a directory is opened where it stands
      refine ih e he hentry fun hkind => ?_
      refine (hway rfl).entry hdir ((hdirectory [] children rfl).2 e he) ?_
      rw [kindAt?, hentry, Option.map_some, hkind]
    rw [entryUsage, bind_eq_ok, fits_directory_iff hdirectory, ← hopens]
    simp only [entriesUsage_eq_ok_iff hwalks, exists_and_right, and_assoc]

theorem kindAt?_append (hat : root.at? place = some t) (below : List String) :
    root.kindAt? (place ++ below) = t.kindAt? below := by
  rw [kindAt?, at?_append, hat]
  rfl

/-- To measure a path is to walk over the directory that it leads to. -/
theorem usageAt_eq (hreaches : root.Reaches here path place)
    (hat : root.at? place = some (directory children)) :
    root.usageAt streams here path =
      entryUsage root.kindAt? here streams path (directory children) := by
  rw [usageAt, entryUsage]
  cases hopen : openDirectory root.kindAt? here streams path with
  | error fault => rfl
  | ok place' =>
    obtain ⟨⟨hreaches', -⟩, -⟩ := openDirectory_eq_ok_iff.mp hopen
    cases hreaches.unique hreaches'
    show entriesUsage root.kindAt? here (streams - 1) path (root.entriesAt place) = _
    rw [entriesAt, hat]
    rfl

theorem usageAt_eq_ok_iff (hroot : root.WellFormed) :
    root.usageAt streams here path = .ok size ↔
      ∃ place children, root.Reaches here path place ∧
        root.at? place = some (directory children) ∧ (directory children).Fits streams path ∧
        size = .ofNat (directory children).size := by
  constructor
  · intro h
    obtain ⟨place, hopen, -⟩ := bind_eq_ok.mp h
    obtain ⟨⟨hreaches, hdir⟩, -⟩ := openDirectory_eq_ok_iff.mp hopen
    obtain ⟨children, hat⟩ := kindAt?_eq_directory_iff.mp hdir
    rw [usageAt_eq hreaches hat, entryUsage_eq_ok_iff hroot hat fun _ => hreaches] at h
    exact ⟨place, children, hreaches, hat, h⟩
  · rintro ⟨place, children, hreaches, hat, hfits⟩
    rw [usageAt_eq hreaches hat, entryUsage_eq_ok_iff hroot hat fun _ => hreaches]
    exact hfits

/-- What is measured depends on what stands at which place. -/
theorem usageAt_eq_ok_of_same {root' : Tree} (hroot : root.WellFormed) (hroot' : root'.WellFormed)
    (hsame : root'.kindAt? = root.kindAt?) (h : root.usageAt streams here path = .ok size) :
    root'.usageAt streams here path = .ok size := by
  obtain ⟨place, children, hreaches, hat, hfits, rfl⟩ := (usageAt_eq_ok_iff hroot).mp h
  have hdir : root'.kindAt? place = some .directory :=
    hsame ▸ kindAt?_eq_directory_iff.mpr ⟨children, hat⟩
  obtain ⟨children', hat'⟩ := kindAt?_eq_directory_iff.mp hdir
  have hbelow : (directory children').kindAt? = (directory children).kindAt? := by
    funext below
    rw [← kindAt?_append hat, ← kindAt?_append hat', hsame]
  -- what the two list at the same place is the same, so their files are, up to the order
  have hsize : (directory children).size = (directory children').size := by
    refine sum_eq_size (hroot'.at? hat') (nodup_files (hroot.at? hat)) fun place bytes => ?_
    rw [mem_files_iff (hroot.at? hat), hbelow]
  have hreaches' : root'.Reaches here path place :=
    ⟨hreaches.text, hreaches.ne_empty, resolve_eq_ok_iff.mp (hsame ▸ hreaches.resolve)⟩
  refine (usageAt_eq_ok_iff hroot').mpr ⟨place, children', hreaches', hat', ?_, ?_⟩
  · rwa [Fits, hbelow]
  · rw [hsize]

/-! ### As many open directories as a path has bytes -/

/-- A path grows with each name on the way to what stands below it. -/
theorem WellFormed.length_below_le {below : List String} (h : t.WellFormed)
    (hdir : t.kindAt? below = some .directory) (path : String) :
    path.utf8ByteSize + below.length ≤ (below.foldl entryPath path).utf8ByteSize := by
  induction below generalizing t path with
  | nil => exact Nat.le_refl _
  | cons name below ih =>
    cases t with
    | file _ | link _ => cases hdir
    | directory children =>
      obtain ⟨t, hmem, hdir⟩ := h.kindAt?_entry_iff.mp hdir
      have hname : IsName name := (h [] children rfl).2 _ hmem
      have hgrows := lt_utf8ByteSize_entryPath path hname
      have hrest := ih (h.entry hmem) hdir (entryPath path name)
      rw [List.foldl_cons, List.length_cons]
      omega

/-- Where as many directories may be open as the longest path has bytes, only the paths matter. -/
theorem WellFormed.fits_iff (h : t.WellFormed) (hpath : path ≠ "")
    (hstreams : Storage.mostPathBytes ≤ streams) :
    t.Fits streams path ↔ ∀ below, t.kindAt? below = some .directory →
      (below.foldl entryPath path).utf8ByteSize ≤ Storage.mostPathBytes := by
  refine forall₂_congr fun below hdir => and_iff_right_of_imp fun hshort => ?_
  have hpos : 0 < path.utf8ByteSize :=
    Nat.pos_of_ne_zero (mt String.utf8ByteSize_eq_zero_iff.mp hpath)
  have hlength := h.length_below_le hdir path
  omega

/-- More of them change no result. -/
theorem usageAt_eq_ok_of_le (hroot : root.WellFormed)
    (hstreams : Storage.mostPathBytes ≤ streams) :
    root.usageAt streams here path = .ok size ↔
      root.usageAt Storage.mostPathBytes here path = .ok size := by
  rw [usageAt_eq_ok_iff hroot, usageAt_eq_ok_iff hroot]
  refine exists₂_congr fun place children => and_congr_right fun hreaches =>
    and_congr_right fun hat => and_congr_left' ?_
  have hdirectory := hroot.at? hat
  rw [hdirectory.fits_iff hreaches.ne_empty hstreams,
    hdirectory.fits_iff hreaches.ne_empty (Nat.le_refl _)]

end Walk

/-- **What a directory measures.**  When so many directories may be open at once, a path is measured
    if it leads to a directory, neither it nor the path of a directory below is too long, and no
    more directories than that lie in one another.  The result is the sum of the sizes of all regular
    files below, each listed with the one place where it stands; links and directories add nothing,
    and what a link below leads to is not looked at.  Trees with the same things at the same places,
    which list them in any order, measure the same. -/
theorem usageAt_exact {root : Tree} (hroot : root.WellFormed) (streams : Nat) (here : List String)
    (path : String) :
    ((∃ size, root.usageAt streams here path = .ok size) ↔
      ∃ place, root.Reaches here path place ∧ root.kindAt? place = some .directory ∧
        ∀ below, root.kindAt? (place ++ below) = some .directory → below.length < streams ∧
          (below.foldl entryPath path).utf8ByteSize ≤ Storage.mostPathBytes) ∧
    (∀ place size, root.Reaches here path place → root.usageAt streams here path = .ok size →
      ∃ listed : List (List String × Nat), (listed.map Prod.fst).Nodup ∧
        (∀ below bytes, (below, bytes) ∈ listed ↔
          root.kindAt? (place ++ below) = some (.file bytes)) ∧
        ((listed.map Prod.snd).sum < UInt64.size → size.toNat = (listed.map Prod.snd).sum)) ∧
    ∀ root' : Tree, root'.WellFormed → (∀ place, root'.kindAt? place = root.kindAt? place) →
      ∀ size, root'.usageAt streams here path = .ok size ↔
        root.usageAt streams here path = .ok size := by
  refine ⟨⟨?_, ?_⟩, ?_, ?_⟩
  · rintro ⟨size, hsize⟩
    obtain ⟨place, children, hreaches, hat, hfits, -⟩ := (usageAt_eq_ok_iff hroot).mp hsize
    refine ⟨place, hreaches, kindAt?_eq_directory_iff.mpr ⟨_, hat⟩, fun below hdir => ?_⟩
    exact hfits below (kindAt?_append hat below ▸ hdir)
  · rintro ⟨place, hreaches, hdir, hfits⟩
    obtain ⟨children, hat⟩ := kindAt?_eq_directory_iff.mp hdir
    refine ⟨_, (usageAt_eq_ok_iff hroot).mpr ⟨place, children, hreaches, hat, ?_, rfl⟩⟩
    intro below hdir
    exact hfits below ((kindAt?_append hat below).trans hdir)
  · intro place size hreaches hsize
    obtain ⟨place', children, hreaches', hat, -, rfl⟩ := (usageAt_eq_ok_iff hroot).mp hsize
    cases hreaches.unique hreaches'
    have hdirectory := hroot.at? hat
    refine ⟨(directory children).files, nodup_files hdirectory, fun below bytes => ?_,
      fun hsum => ?_⟩
    · rw [mem_files_iff hdirectory, kindAt?_append hat]
    · exact UInt64.toNat_ofNat_of_lt' hsum
  · intro root' hroot' hsame size
    exact ⟨usageAt_eq_ok_of_same hroot' hroot (funext hsame).symm,
      usageAt_eq_ok_of_same hroot hroot' (funext hsame)⟩

/-- A directory with files and with links to nothing, to themselves and to an ancestor. -/
def measured : Tree :=
  .directory [("a", .file 100), ("gone", .link "nowhere"), ("me", .link "me"),
    ("sub", .directory [("b", .file 50), ("up", .link "../..")])]

/-- That directory, and a link that leads to it by way of the link to the ancestor. -/
def linkedTree : Tree := .directory [("m", measured), ("lm", .link "/m/sub/up/m")]

theorem wellFormed_measured : measured.WellFormed := by
  refine wellFormed_directory (by decide) (by decide) ?_
  refine List.forall_mem_cons.mpr ⟨wellFormed_of_kind_ne (by decide), ?_⟩
  refine List.forall_mem_cons.mpr ⟨wellFormed_of_kind_ne (by decide), ?_⟩
  refine List.forall_mem_cons.mpr ⟨wellFormed_of_kind_ne (by decide), ?_⟩
  refine List.forall_mem_cons.mpr ⟨wellFormed_directory (by decide) (by decide) ?_, nofun⟩
  exact fun e he => wellFormed_of_kind_ne (by revert e he; decide)

theorem wellFormed_linkedTree : linkedTree.WellFormed := by
  refine wellFormed_directory (by decide) (by decide) ?_
  refine List.forall_mem_cons.mpr ⟨wellFormed_measured, ?_⟩
  exact List.forall_mem_cons.mpr ⟨wellFormed_of_kind_ne (by decide), nofun⟩

theorem reaches_measured : linkedTree.Reaches [] "lm" ["m"] := by
  have hup : linkedTree.Leads 1 ["m", "sub"] ["up", "m"] ["m"] :=
    .link (by decide) (by decide) (by decide) (by decide) rfl
      (.parent (by decide) (.parent (by decide)
        (.entry (by decide) (by decide) (by decide) (by decide) rfl nofun .stay)))
  have htarget : linkedTree.Leads 1 [] ["m", "sub", "up", "m"] ["m"] :=
    .entry (by decide) (by decide) (by decide) (by decide) rfl nofun
      (.entry (by decide) (by decide) (by decide) (by decide) rfl nofun hup)
  exact ⟨by decide, by decide, 2, by decide,
    .link (by decide) (by decide) (by decide) (by decide) rfl htarget⟩

theorem fits_measured : measured.Fits 2 "lm" := by
  refine (fits_directory_iff wellFormed_measured).mpr ⟨by decide, ?_⟩
  refine List.forall_mem_cons.mpr ⟨fits_of_kind_ne (by decide) _ _, ?_⟩
  refine List.forall_mem_cons.mpr ⟨fits_of_kind_ne (by decide) _ _, ?_⟩
  refine List.forall_mem_cons.mpr ⟨fits_of_kind_ne (by decide) _ _, ?_⟩
  refine List.forall_mem_cons.mpr ⟨?_, nofun⟩
  have hsub := wellFormed_measured.entry (List.getLast_mem (by decide))
  exact (fits_directory_iff hsub).mpr
    ⟨by decide, fun e he => fits_of_kind_ne (by revert e he; decide) _ _⟩

/-- Behind two links, one of them to an ancestor, lie two files of 150 bytes. -/
theorem linkedTree_usageAt_exact :
    linkedTree.WellFormed ∧ linkedTree.Reaches [] "lm" ["m"] ∧
      ∃ size, linkedTree.usageAt 2 [] "lm" = .ok size ∧ size.toNat = 150 := by
  obtain ⟨hsuccess, hvalue, -⟩ := usageAt_exact wellFormed_linkedTree 2 [] "lm"
  obtain ⟨size, hsize⟩ := hsuccess.mpr ⟨["m"], reaches_measured, rfl, fits_measured⟩
  obtain ⟨listed, hnodup, hlisted, hsum⟩ := hvalue ["m"] size reaches_measured hsize
  have htotal : (listed.map Prod.snd).sum = 150 := by
    rw [sum_eq_size wellFormed_measured hnodup hlisted]
    rfl
  refine ⟨wellFormed_linkedTree, reaches_measured, size, hsize, ?_⟩
  rw [hsum (by rw [htotal]; decide), htotal]

/-! ### Paths that become too long -/

/-- A name of two hundred characters. -/
def longName : String := String.ofList (List.replicate 200 'n')

/-- A directory with a directory of that name, which holds a file of three bytes. -/
def longNamed : Tree := .directory [("d", .directory [(longName, .directory [("f", .file 3)])])]

/-- The path of the outer directory, with many slashes at its end. -/
def slashedPath : String := "d" ++ String.ofList (List.replicate 3950 '/')

theorem toList_longName : longName.toList = List.replicate 200 'n' := String.toList_ofList

theorem isName_longName : IsName longName := by
  have hmem (c : Char) (h : c ∈ longName.toList) : c = 'n' :=
    List.eq_of_mem_replicate (toList_longName ▸ h)
  refine ⟨by decide +kernel, by decide +kernel, by decide +kernel, ?_, ?_, by decide +kernel⟩
  · exact fun h => absurd (hmem _ h) (by decide)
  · exact fun h => absurd (hmem _ h) (by decide)

theorem wellFormed_longNamed : longNamed.WellFormed := by
  have hinner : (directory [("f", .file 3)]).WellFormed :=
    wellFormed_directory (by decide) (by decide)
      (List.forall_mem_singleton.mpr (wellFormed_of_kind_ne (by decide)))
  refine wellFormed_directory (by decide) (by decide) (List.forall_mem_singleton.mpr ?_)
  exact wellFormed_directory (List.nodup_singleton _) (List.forall_mem_singleton.mpr isName_longName)
    (List.forall_mem_singleton.mpr hinner)

theorem reaches_slashedPath : longNamed.Reaches [] slashedPath ["d"] := by
  have hleads : longNamed.Leads 0 [] ["d"] ["d"] :=
    .entry (by decide) (by decide) (by decide) (by decide) rfl nofun .stay
  have hd : longNamed.Reaches [] "d" ["d"] := ⟨by decide, by decide, 0, by decide, hleads⟩
  exact hd.append_slashes 3950

theorem utf8ByteSize_replicate (c : Char) (n : Nat) :
    (String.ofList (List.replicate n c)).utf8ByteSize = n * c.utf8Size := by
  induction n with
  | zero => rw [Nat.zero_mul]; rfl
  | succ n ih =>
    rw [List.replicate_succ', String.ofList_append, String.utf8ByteSize_append, ih, Nat.succ_mul,
      ← String.singleton_eq_ofList, String.utf8ByteSize_singleton]

theorem utf8ByteSize_slashedPath : slashedPath.utf8ByteSize = 3951 := by
  rw [slashedPath, String.utf8ByteSize_append, utf8ByteSize_replicate]
  rfl

theorem kindAt?_longName : longNamed.kindAt? ["d", longName] = some .directory :=
  wellFormed_longNamed.kindAt?_entry_iff.mpr ⟨_, List.mem_singleton_self _,
    (wellFormed_longNamed.entry (List.mem_singleton_self _)).kindAt?_entry_iff.mpr
      ⟨_, List.mem_singleton_self _, rfl⟩⟩

/-- The outer directory is not measured, however many may be open: the path of the one in it is too
    long. -/
theorem usageAt_slashedPath (streams : Nat) :
    longNamed.usageAt (streams + 2) [] slashedPath = .error (.path .nameTooLong) := by
  have houter : openDirectory longNamed.kindAt? [] (streams + 2) slashedPath = .ok ["d"] := by
    refine openDirectory_eq_ok_iff.mpr ⟨⟨reaches_slashedPath, rfl⟩, Nat.succ_pos _, ?_⟩
    rw [utf8ByteSize_slashedPath]
    decide
  have hreaches : longNamed.Reaches [] (entryPath slashedPath longName) ["d", longName] :=
    reaches_slashedPath.entry rfl isName_longName kindAt?_longName
  have hinner : openDirectory longNamed.kindAt? [] (streams + 1) (entryPath slashedPath longName) =
      .error (.path .nameTooLong) := by
    rw [openDirectory, if_neg (Nat.succ_ne_zero streams), hreaches.findDirectory_eq kindAt?_longName,
      if_neg]
    · rfl
    intro hshort
    have hname : longName.utf8ByteSize = 200 := utf8ByteSize_replicate 'n' 200
    have hlong := Nat.le_trans (utf8ByteSize_entryPath slashedPath longName) hshort
    rw [utf8ByteSize_slashedPath, hname] at hlong
    exact absurd hlong (by decide)
  rw [usageAt_eq reaches_slashedPath rfl, entryUsage]
  refine bind_eq_error.mpr (Or.inr ⟨["d"], houter, ?_⟩)
  rw [entriesUsage, entryUsage]
  exact bind_eq_error.mpr (Or.inl (bind_eq_error.mpr (Or.inl hinner)))

/-! ### Directories in one another -/

/-- So many directories in one another. -/
def nested : Nat → Tree
  | 0 => .directory []
  | n + 1 => .directory [("d", nested n)]

@[simp] theorem kind_nested (n : Nat) : (nested n).kind = .directory := by
  cases n <;> rfl

theorem wellFormed_nested (n : Nat) : (nested n).WellFormed := by
  have hname : IsName "d" := ⟨by decide, by decide, by decide, by decide, by decide, by decide⟩
  induction n with
  | zero => exact wellFormed_directory List.nodup_nil nofun nofun
  | succ n ih =>
    exact wellFormed_directory (List.nodup_singleton _) (List.forall_mem_singleton.mpr hname)
      (List.forall_mem_singleton.mpr ih)

@[simp] theorem size_nested (n : Nat) : (nested n).size = 0 := by
  induction n with
  | zero => rfl
  | succ n ih => rw [nested, size_entries, ih]; rfl

theorem kindAt?_nested (n : Nat) :
    (nested n).kindAt? (List.replicate n "d") = some .directory := by
  induction n with
  | zero => rfl
  | succ n ih =>
    exact (wellFormed_nested (n + 1)).kindAt?_entry_iff.mpr ⟨_, List.mem_singleton_self _, ih⟩

theorem kindAt?_nested_outer (n : Nat) : (nested (n + 1)).kindAt? ["d"] = some .directory :=
  congrArg some (kind_nested n)

theorem reaches_nested (n : Nat) : (nested (n + 1)).Reaches [] "d" ["d"] :=
  ⟨by decide, by decide, 0, Nat.zero_le _,
    .entry rfl (by decide) (by decide) (by decide) (kindAt?_nested_outer n)
      nofun .stay⟩

/-- With one more of them than may be open none is measured. -/
theorem usageAt_nested (streams : Nat) (size : UInt64) :
    (nested (streams + 1)).usageAt streams [] "d" ≠ .ok size := by
  intro hok
  obtain ⟨place, children, hreaches, hat, hfits, -⟩ :=
    (usageAt_eq_ok_iff (wellFormed_nested _)).mp hok
  cases hreaches.unique (reaches_nested streams)
  have hdepth := (hfits (List.replicate streams "d") ?_).1
  · rw [List.length_replicate] at hdepth
    exact Nat.lt_irrefl _ hdepth
  · rw [← kindAt?_append hat]
    exact kindAt?_nested (streams + 1)

/-- Paths that are short enough lead to directories, and the directories are not measured: the path
    of a directory below is too long, or more directories than may be open lie in one another. -/
theorem slashedPath_unmeasured :
    (longNamed.WellFormed ∧ longNamed.size < UInt64.size ∧
      (∃ place, longNamed.Reaches [] slashedPath place ∧
        longNamed.kindAt? place = some .directory) ∧
      slashedPath.utf8ByteSize ≤ Storage.mostPathBytes ∧
      longNamed.usageAt 1024 [] slashedPath = .error (.path .nameTooLong)) ∧
    (nested 1025).WellFormed ∧ (nested 1025).size < UInt64.size ∧
      (nested 1025).Reaches [] "d" ["d"] ∧ (nested 1025).kindAt? ["d"] = some .directory ∧
      ∀ size, (nested 1025).usageAt 1024 [] "d" ≠ .ok size := by
  refine ⟨⟨wellFormed_longNamed, by decide, ⟨["d"], reaches_slashedPath, rfl⟩, ?_,
    usageAt_slashedPath 1022⟩, wellFormed_nested _, ?_, reaches_nested 1024,
    kindAt?_nested_outer 1024, usageAt_nested 1024⟩
  · rw [utf8ByteSize_slashedPath]
    decide
  · rw [size_nested]
    decide

end SyncFleet.Tree
