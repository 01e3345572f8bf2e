/-
  SyncFleet/Proofs/Config/Validation.lean
  =======================================
  **Which written configurations are valid, and what is wrong with the others.**

  Every repo of a configuration is a mapping of a document, whose keys are
  different values (`IsMapping`).  An entry of it is a setting if its key is a
  string and its value a scalar (`WrittenRepo.WellFormed`), and it is then the
  setting of that key and that value (`WrittenRepo.SettingsOf`).
  `WrittenRepo.Blames` has a rule for each way in which the first entry that is
  no setting can be at fault, and `WrittenConfig.FirstFault` one for each check
  of a configuration, which counts only where those before it are passed.
-/
import SyncFleet.Config.Validation
import SyncFleet.Proofs.Decimal.Nearest
import SyncFleet.Proofs.KeyMap
import SyncFleet.Proofs.Result
import SyncFleet.Proofs.Text.Trim

namespace SyncFleet

open Yaml (Value)

/-! ### Values -/

namespace Yaml.Value

/-- Whether a value is a scalar without a tag. -/
def IsScalar : Value → Prop
  | .null | .bool _ | .int _ | .float _ | .string _ => True
  | .sequence _ | .mapping _ | .tagged _ _ => False

/-- The value of a setting that a value means.  An integer of 64 bits stays one, and any other
    number is a float: an integer the one that is nearest to it. -/
inductive Means : Value → Scalar → Prop where
  | null : Means .null .null
  | bool (b : Bool) : Means (.bool b) (.bool b)
  | int (n : Int64) : Means (.int n.toInt) (.int n)
  | wide {n : Int} {x : Decimal.Binary64} (hwide : ∀ k : Int64, k.toInt ≠ n)
      (hx : Decimal.Binary64.Rounds n x) : Means (.int n) (.float x)
  | float (x : Decimal.Binary64) : Means (.float x) (.float x)
  | string (s : String) : Means (.string s) (.string s)

end Yaml.Value

namespace Scalar

theorem fitsInt64_iff {n : Int} : fitsInt64 n = true ↔ ∃ k : Int64, k.toInt = n := by
  simp only [fitsInt64, Bool.and_eq_true, decide_eq_true_eq]
  constructor
  · rintro ⟨hle, hlt⟩
    exact ⟨.ofInt n, Int64.toInt_ofInt_of_le hle (by simpa using hlt)⟩
  · rintro ⟨k, rfl⟩
    exact ⟨k.le_toInt, k.toInt_lt⟩

theorem ofValue?_eq_some_iff {v : Value} {s : Scalar} : ofValue? v = some s ↔ v.Means s := by
  constructor
  · intro h
    cases v with
    | null =>
      cases h
      exact .null
    | bool b =>
      cases h
      exact .bool b
    | int n =>
      simp only [ofValue?] at h
      split at h
      · rename_i hfits
        obtain ⟨k, rfl⟩ := fitsInt64_iff.mp hfits
        rw [k.ofInt_toInt] at h
        cases h
        exact .int k
      · rename_i hwide
        cases h
        exact .wide (fun k hk => hwide (fitsInt64_iff.mpr ⟨k, hk⟩)) (.ofInt n)
    | float x =>
      cases h
      exact .float x
    | string s =>
      cases h
      exact .string s
    | sequence _ | mapping _ | tagged _ _ => cases h
  · intro h
    cases h with
    | null | bool _ | float _ | string _ => rfl
    | int n =>
      simp only [ofValue?]
      rw [if_pos (fitsInt64_iff.mpr ⟨n, rfl⟩), n.ofInt_toInt]
    | wide hwide hx =>
      simp only [ofValue?]
      rw [if_neg, hx.eq_ofInt]
      intro hfits
      obtain ⟨k, hk⟩ := fitsInt64_iff.mp hfits
      exact hwide k hk

theorem exists_means_iff {v : Value} : (∃ s, v.Means s) ↔ v.IsScalar := by
  simp only [← ofValue?_eq_some_iff]
  cases v with
  | null | bool _ | float _ | string _ => exact ⟨fun _ => trivial, fun _ => ⟨_, rfl⟩⟩
  | int n =>
    refine ⟨fun _ => trivial, fun _ => ?_⟩
    simp only [ofValue?]
    split <;> exact ⟨_, rfl⟩
  | sequence _ | mapping _ | tagged _ _ =>
    refine ⟨?_, fun h => absurd h id⟩
    rintro ⟨_, h⟩
    cases h

end Scalar

/-! ### Repos -/

namespace WrittenRepo

/-- Whether no two entries have one key. -/
def IsMapping (repo : WrittenRepo) : Prop := repo.Pairwise fun e e' => e.1.same e'.1 = false

/-- Whether every entry is a setting: its key is a string and its value a scalar. -/
def WellFormed (repo : WrittenRepo) : Prop :=
  ∀ e ∈ repo, (∃ key, e.1 = .string key) ∧ e.2.IsScalar

/-- What messages call the repo at an index: by its name, if that is a string. -/
inductive Called (index : Nat) (repo : WrittenRepo) : String → Prop where
  | name {job : String} : (.string "name", .string job) ∈ repo → Called index repo job
  | index : (∀ job, (.string "name", .string job) ∉ repo) →
      Called index repo ("repos[" ++ toString index ++ "]")

/-- What is wrong with the first entry that is no setting. -/
inductive Blames (index : Nat) (repo : WrittenRepo) : ConfigError → Prop where
  | key {before after : WrittenRepo} {key value : Value} {job : String} :
      repo = before ++ (key, value) :: after → WellFormed before → (∀ s, key ≠ .string s) →
      Called index repo job → Blames index repo (.keyNotString job key)
  | value {before after : WrittenRepo} {key job : String} {value : Value} :
      repo = before ++ (.string key, value) :: after → WellFormed before → ¬ value.IsScalar →
      Called index repo job → Blames index repo (.nestedValue job key)

/-- Whether a descriptor has exactly the keys of a repo, with the same values. -/
def SettingsOf (repo : WrittenRepo) (d : Descriptor) : Prop :=
  ∀ key s, d.get? key = some s ↔ ∃ value, (.string key, value) ∈ repo ∧ value.Means s

variable {repo : WrittenRepo}

theorem same_string_iff {v : Value} {s : String} : v.same (.string s) = true ↔ v = .string s := by
  cases v <;> simp [Value.same]

theorem lookup?_eq_some_iff (h : IsMapping repo) {key : String} {value : Value} :
    Value.lookup? key repo = some value ↔ (.string key, value) ∈ repo := by
  rw [Value.lookup?, Option.map_eq_some_iff]
  constructor
  · rintro ⟨⟨k, v⟩, hfind, rfl⟩
    have hsame := List.find?_some hfind
    obtain rfl := same_string_iff.mp hsame
    exact List.mem_of_find?_eq_some hfind
  · intro hmem
    obtain ⟨before, after, rfl⟩ := List.append_of_mem hmem
    refine ⟨(.string key, value), ?_, rfl⟩
    rw [List.find?_eq_some_iff_append]
    refine ⟨same_string_iff.mpr rfl, before, after, rfl, ?_⟩
    intro e he
    rw [(List.pairwise_append.mp h).2.2 e he _ List.mem_cons_self]
    rfl

theorem called_iff (h : IsMapping repo) {index : Nat} {job : String} :
    Called index repo job ↔ job = label index repo := by
  unfold label
  split
  · rename_i name hname
    have hmem := (lookup?_eq_some_iff h).mp hname
    constructor
    · intro hcalled
      cases hcalled with
      | name hjob =>
        rw [Key.name, (lookup?_eq_some_iff h).mpr hjob] at hname
        cases hname
        rfl
      | index hnone => exact absurd hmem (hnone name)
    · rintro rfl
      exact .name hmem
  · rename_i hother
    have hnone : ∀ job, (.string "name", .string job) ∉ repo := by
      intro job hjob
      exact hother job ((lookup?_eq_some_iff h).mpr hjob)
    constructor
    · intro hcalled
      cases hcalled with
      | name hjob => exact absurd hjob (hnone job)
      | index _ => rfl
    · rintro rfl
      exact .index hnone

/-! ### Entries -/

theorem setting_eq_ok_iff {job : String} {e : Value × Value} {s : String × Scalar} :
    setting job e = .ok s ↔ e.1 = .string s.1 ∧ e.2.Means s.2 := by
  obtain ⟨key, value⟩ := e
  obtain ⟨k, s⟩ := s
  rw [← Scalar.ofValue?_eq_some_iff]
  cases key with
  | string key =>
    simp only [setting, Value.string.injEq]
    cases Scalar.ofValue? value <;> simp
  | null | bool _ | int _ | float _ | sequence _ | mapping _ | tagged _ _ => simp [setting]

theorem exists_setting_iff {job : String} {e : Value × Value} :
    (∃ s, setting job e = .ok s) ↔ (∃ key, e.1 = .string key) ∧ e.2.IsScalar := by
  rw [← Scalar.exists_means_iff]
  constructor
  · rintro ⟨s, hs⟩
    obtain ⟨hkey, hvalue⟩ := setting_eq_ok_iff.mp hs
    exact ⟨⟨s.1, hkey⟩, s.2, hvalue⟩
  · rintro ⟨⟨key, hkey⟩, s, hvalue⟩
    exact ⟨(key, s), setting_eq_ok_iff.mpr ⟨hkey, hvalue⟩⟩

theorem setting_eq_error_iff {job : String} {e : Value × Value} {fault : ConfigError} :
    setting job e = .error fault ↔
      ((∀ s, e.1 ≠ .string s) ∧ fault = .keyNotString job e.1) ∨
      ∃ key, e.1 = .string key ∧ ¬ e.2.IsScalar ∧ fault = .nestedValue job key := by
  obtain ⟨key, value⟩ := e
  rw [← Scalar.exists_means_iff]
  simp only [← Scalar.ofValue?_eq_some_iff]
  cases key with
  | string key =>
    simp only [setting]
    cases Scalar.ofValue? value <;> simp [eq_comm]
  | null | bool _ | int _ | float _ | sequence _ | mapping _ | tagged _ _ =>
    simp [setting, eq_comm]

/-- The settings that are read from a mapping have different keys, as its entries have. -/
theorem nodup_settings (h : IsMapping repo) {settings : List (String × Scalar)}
    (hread : List.Forall₂ (fun e s => e.1 = .string s.1 ∧ e.2.Means s.2) repo settings) :
    (settings.map Prod.fst).Nodup := by
  induction hread with
  | nil => exact List.nodup_nil
  | @cons e s repo settings hs hrest ih =>
    obtain ⟨hne, hmapping⟩ := List.pairwise_cons.mp h
    refine List.nodup_cons.mpr ⟨?_, ih hmapping⟩
    intro hmem
    obtain ⟨s', hs', heq⟩ := List.mem_map.mp hmem
    obtain ⟨e', he', hkey, -⟩ := exists_left_of_mem hrest hs'
    have hsame := hne e' he'
    rw [hs.1, hkey, heq, same_string_iff.mpr rfl] at hsame
    cases hsame

theorem settingsOf_of_descriptor (h : IsMapping repo) {index : Nat} {d : Descriptor}
    (hd : descriptor index repo = .ok d) : SettingsOf repo d := by
  obtain ⟨settings, hread, hd⟩ := bind_eq_ok.mp hd
  cases hd
  have hread := (mapM_eq_ok_iff.mp hread).imp fun _ _ => setting_eq_ok_iff.mp
  intro key s
  rw [Descriptor.get?, KeyMap.get?_eq_some_iff,
    KeyMap.mem_entries_ofList_iff (nodup_settings h hread)]
  constructor
  · intro hmem
    obtain ⟨⟨k, value⟩, he, rfl, hmeans⟩ := exists_left_of_mem hread hmem
    exact ⟨value, he, hmeans⟩
  · rintro ⟨value, he, hmeans⟩
    obtain ⟨⟨k, s'⟩, hmem, hkey, hmeans'⟩ := exists_right_of_mem hread he
    cases hkey
    rw [← Scalar.ofValue?_eq_some_iff] at hmeans hmeans'
    rw [hmeans] at hmeans'
    cases hmeans'
    exact hmem

theorem exists_descriptor_iff {index : Nat} :
    (∃ d, descriptor index repo = .ok d) ↔ WellFormed repo := by
  have hread := exists_mapM_eq_ok_iff (g := setting (label index repo)) (l := repo)
  simp only [exists_setting_iff] at hread
  rw [WellFormed, ← hread]
  constructor
  · rintro ⟨d, hd⟩
    obtain ⟨settings, hsettings, -⟩ := bind_eq_ok.mp hd
    exact ⟨settings, hsettings⟩
  · rintro ⟨settings, hsettings⟩
    exact ⟨_, bind_eq_ok.mpr ⟨settings, hsettings, rfl⟩⟩

/-- A repo that is no descriptor has the fault that it is blamed for. -/
theorem descriptor_eq_error_iff (h : IsMapping repo) {index : Nat} {fault : ConfigError} :
    descriptor index repo = .error fault ↔ Blames index repo fault := by
  have hread : descriptor index repo = .error fault ↔
      repo.mapM (setting (label index repo)) = .error fault := by
    rw [descriptor, bind_eq_error]
    refine or_iff_left ?_
    rintro ⟨_, _, hnone⟩
    cases hnone
  have hcalled : Called index repo (label index repo) := (called_iff h).mpr rfl
  rw [hread, mapM_eq_error_iff]
  simp only [exists_setting_iff, setting_eq_error_iff]
  constructor
  · rintro ⟨before, ⟨key, value⟩, after, hrepo, hbefore, ⟨hkey, rfl⟩ | ⟨k, rfl, hvalue, rfl⟩⟩
    · exact .key hrepo hbefore hkey hcalled
    · exact .value hrepo hbefore hvalue hcalled
  · intro hblames
    cases hblames with
    | key hrepo hbefore hkey hjob =>
      obtain rfl := (called_iff h).mp hjob
      exact ⟨_, _, _, hrepo, hbefore, Or.inl ⟨hkey, rfl⟩⟩
    | value hrepo hbefore hvalue hjob =>
      obtain rfl := (called_iff h).mp hjob
      exact ⟨_, _, _, hrepo, hbefore, Or.inr ⟨_, rfl, hvalue, rfl⟩⟩

end WrittenRepo

/-! ### Configurations -/

namespace WrittenConfig

open WrittenRepo (IsMapping WellFormed Blames SettingsOf)

variable {w : WrittenConfig}

/-- What a written configuration needs to be valid. -/
structure Valid (w : WrittenConfig) : Prop where
  interval : 0 ≤ w.interval
  limit : 0 < w.concurrentLimit
  address : ¬ Text.Blanks w.address.toList
  repos : ∀ repo ∈ w.repos, WellFormed repo

/-- The first fault of a written configuration: that of its interval, of its limit, of its
    address, or of the first repo that has one. -/
inductive FirstFault (w : WrittenConfig) : ConfigError → Prop where
  | interval : w.interval < 0 → FirstFault w (.negativeInterval w.interval)
  | limit : 0 ≤ w.interval → w.concurrentLimit ≤ 0 →
      FirstFault w (.limitNotPositive w.concurrentLimit)
  | address : 0 ≤ w.interval → 0 < w.concurrentLimit → Text.Blanks w.address.toList →
      FirstFault w .emptyAddress
  | repo {before after : List WrittenRepo} {repo : WrittenRepo} {fault : ConfigError} :
      0 ≤ w.interval → 0 < w.concurrentLimit → ¬ Text.Blanks w.address.toList →
      w.repos = before ++ repo :: after → (∀ r ∈ before, WellFormed r) →
      Blames before.length repo fault → FirstFault w fault

/-- The descriptors of the repos. -/
def readRepos (w : WrittenConfig) : Except ConfigError (List Descriptor) :=
  w.repos.zipIdx.mapM fun (repo, index) => WrittenRepo.descriptor index repo

theorem forall_mem_zipIdx {repos : List WrittenRepo} {P : WrittenRepo → Prop} :
    (∀ p ∈ repos.zipIdx, P p.1) ↔ ∀ repo ∈ repos, P repo := by
  rw [← List.forall_mem_map (P := P), List.zipIdx_map_fst]

theorem settingsOf_of_readRepos (h : ∀ repo ∈ w.repos, IsMapping repo) {ds : List Descriptor}
    (hread : w.readRepos = .ok ds) : List.Forall₂ SettingsOf w.repos ds := by
  have hpairs := (List.forall₂_and_left _ _).mpr
    ⟨forall_mem_zipIdx.mpr h, mapM_eq_ok_iff.mp hread⟩
  rw [← List.zipIdx_map_fst 0 w.repos, List.forall₂_map_left_iff]
  refine hpairs.imp ?_
  rintro p d ⟨hp, hd⟩
  exact WrittenRepo.settingsOf_of_descriptor hp hd

theorem exists_readRepos_iff :
    (∃ ds, w.readRepos = .ok ds) ↔ ∀ repo ∈ w.repos, WellFormed repo := by
  rw [readRepos, exists_mapM_eq_ok_iff, ← forall_mem_zipIdx]
  simp only [WrittenRepo.exists_descriptor_iff]

theorem readRepos_eq_error_iff (h : ∀ repo ∈ w.repos, IsMapping repo) {fault : ConfigError} :
    w.readRepos = .error fault ↔
      ∃ before repo after, w.repos = before ++ repo :: after ∧ (∀ r ∈ before, WellFormed r) ∧
        Blames before.length repo fault := by
  rw [readRepos, mapM_eq_error_iff]
  simp only [WrittenRepo.exists_descriptor_iff]
  constructor
  · rintro ⟨pre, ⟨repo, index⟩, post, hzip, hpre, hfault⟩
    obtain ⟨before, rest, hrepos, rfl, hrest⟩ := List.zipIdx_eq_append_iff.mp hzip
    obtain ⟨repo, after, rfl, heq, rfl⟩ := List.zipIdx_eq_cons_iff.mp hrest.symm
    cases heq
    have hrepo := h repo (hrepos ▸ List.mem_append_right _ List.mem_cons_self)
    have hblames := (WrittenRepo.descriptor_eq_error_iff hrepo).mp hfault
    rw [Nat.zero_add] at hblames
    exact ⟨before, repo, after, hrepos, forall_mem_zipIdx.mp hpre, hblames⟩
  · rintro ⟨before, repo, after, hrepos, hbefore, hblames⟩
    have hrepo := h repo (hrepos ▸ List.mem_append_right _ List.mem_cons_self)
    refine ⟨before.zipIdx, (repo, before.length), after.zipIdx (before.length + 1), ?_,
      forall_mem_zipIdx.mpr hbefore, (WrittenRepo.descriptor_eq_error_iff hrepo).mpr hblames⟩
    rw [hrepos, List.zipIdx_append, List.zipIdx_cons, Nat.zero_add]

/-- The valid configuration, given the descriptors of the repos. -/
def accepted (w : WrittenConfig) (repos : List Descriptor) : Config where
  interval := w.interval.toInt.toNat
  concurrentLimit := w.concurrentLimit.toInt.toNat
  checkpoint := w.checkpoint
  logLevel := w.logLevel
  address := w.address
  repos := repos

/-- A configuration is validated check by check. -/
theorem validate_cases (w : WrittenConfig) :
    (w.interval < 0 ∧ w.validate = .error (.negativeInterval w.interval)) ∨
    (0 ≤ w.interval ∧ w.concurrentLimit ≤ 0 ∧
      w.validate = .error (.limitNotPositive w.concurrentLimit)) ∨
    (0 ≤ w.interval ∧ 0 < w.concurrentLimit ∧ Text.Blanks w.address.toList ∧
      w.validate = .error .emptyAddress) ∨
    (0 ≤ w.interval ∧ 0 < w.concurrentLimit ∧ ¬ Text.Blanks w.address.toList ∧
      w.validate = w.readRepos.map w.accepted) := by
  unfold validate
  by_cases hinterval : w.interval < 0
  · left
    rw [if_pos hinterval]
    exact ⟨hinterval, rfl⟩
  right
  rw [if_neg hinterval]
  have hinterval := Int64.not_lt.mp hinterval
  by_cases hlimit : w.concurrentLimit ≤ 0
  · left
    rw [if_pos hlimit]
    exact ⟨hinterval, hlimit, rfl⟩
  right
  rw [if_neg hlimit]
  have hlimit := Int64.not_le.mp hlimit
  have hblanks : (Text.trim w.address.toList).isEmpty = true ↔ Text.Blanks w.address.toList := by
    rw [List.isEmpty_iff, Text.trim_eq_nil_iff]
  by_cases haddress : Text.Blanks w.address.toList
  · left
    rw [if_pos (hblanks.mpr haddress)]
    exact ⟨hinterval, hlimit, haddress, rfl⟩
  right
  rw [if_neg fun h => haddress (hblanks.mp h)]
  exact ⟨hinterval, hlimit, haddress, rfl⟩

theorem validate_eq_ok_iff {c : Config} :
    w.validate = .ok c ↔ 0 ≤ w.interval ∧ 0 < w.concurrentLimit ∧
      ¬ Text.Blanks w.address.toList ∧ ∃ ds, w.readRepos = .ok ds ∧ w.accepted ds = c := by
  rcases validate_cases w with ⟨hinterval, heq⟩ | ⟨-, hlimit, heq⟩ | ⟨-, -, haddress, heq⟩ |
    ⟨hinterval, hlimit, haddress, heq⟩
  · exact iff_of_false (by simp [heq]) fun h => Int64.not_le.mpr hinterval h.1
  · exact iff_of_false (by simp [heq]) fun h => Int64.not_lt.mpr hlimit h.2.1
  · exact iff_of_false (by simp [heq]) fun h => h.2.2.1 haddress
  · rw [heq]
    cases w.readRepos <;> simp [Except.map, hinterval, hlimit, haddress]

theorem exists_validate_iff : (∃ c, w.validate = .ok c) ↔ w.Valid := by
  simp only [validate_eq_ok_iff]
  constructor
  · rintro ⟨_, hinterval, hlimit, haddress, ds, hread, -⟩
    exact ⟨hinterval, hlimit, haddress, exists_readRepos_iff.mp ⟨ds, hread⟩⟩
  · intro hvalid
    obtain ⟨ds, hread⟩ := exists_readRepos_iff.mpr hvalid.repos
    exact ⟨_, hvalid.interval, hvalid.limit, hvalid.address, ds, hread, rfl⟩

theorem validate_eq_error_iff (h : ∀ repo ∈ w.repos, IsMapping repo) {fault : ConfigError} :
    w.validate = .error fault ↔ w.FirstFault fault := by
  have hnot : ∀ {n : Int64}, 0 ≤ n → n < 0 → False := fun hle => Int64.not_lt.mpr hle
  have hnot' : ∀ {n : Int64}, 0 < n → n ≤ 0 → False := fun hlt => Int64.not_le.mpr hlt
  rcases validate_cases w with ⟨hinterval, heq⟩ | ⟨hinterval, hlimit, heq⟩ |
    ⟨hinterval, hlimit, haddress, heq⟩ | ⟨hinterval, hlimit, haddress, heq⟩
  · rw [heq]
    constructor
    · rintro ⟨⟩
      exact .interval hinterval
    · intro hfault
      cases hfault with
      | interval _ => rfl
      | limit hle _ | address hle _ _ | repo hle _ _ _ _ _ => exact absurd hinterval (hnot hle)
  · rw [heq]
    constructor
    · rintro ⟨⟩
      exact .limit hinterval hlimit
    · intro hfault
      cases hfault with
      | interval hlt => exact absurd hlt (hnot hinterval)
      | limit _ _ => rfl
      | address _ hlt _ | repo _ hlt _ _ _ _ => exact absurd hlimit (hnot' hlt)
  · rw [heq]
    constructor
    · rintro ⟨⟩
      exact .address hinterval hlimit haddress
    · intro hfault
      cases hfault with
      | interval hlt => exact absurd hlt (hnot hinterval)
      | limit _ hle => exact absurd hle (hnot' hlimit)
      | address _ _ _ => rfl
      | repo _ _ hsome _ _ _ => exact absurd haddress hsome
  · have hread : w.validate = .error fault ↔ w.readRepos = .error fault := by
      rw [heq]
      cases w.readRepos <;> simp [Except.map]
    rw [hread, readRepos_eq_error_iff h]
    constructor
    · rintro ⟨before, repo, after, hrepos, hbefore, hblames⟩
      exact .repo hinterval hlimit haddress hrepos hbefore hblames
    · intro hfault
      cases hfault with
      | interval hlt => exact absurd hlt (hnot hinterval)
      | limit _ hle => exact absurd hle (hnot' hlimit)
      | address _ _ hblanks => exact absurd hblanks haddress
      | repo _ _ _ hrepos hbefore hblames => exact ⟨_, _, _, hrepos, hbefore, hblames⟩

/-- What a valid configuration keeps of the written one. -/
theorem of_validate (h : ∀ repo ∈ w.repos, IsMapping repo) {c : Config}
    (hc : w.validate = .ok c) :
    List.Forall₂ SettingsOf w.repos c.repos ∧
      c.fleetConfig.pollMillis = 1000 * max w.interval.toInt 1 ∧
      c.fleetConfig.limit = w.concurrentLimit.toInt ∧ 1 ≤ c.fleetConfig.limit := by
  obtain ⟨hinterval, hlimit, -, ds, hread, rfl⟩ := validate_eq_ok_iff.mp hc
  have hinterval : 0 ≤ w.interval.toInt := Int64.le_iff_toInt_le.mp hinterval
  have hlimit : 0 < w.concurrentLimit.toInt := Int64.lt_iff_toInt_lt.mp hlimit
  refine ⟨settingsOf_of_readRepos h hread, ?_, ?_, ?_⟩
  · simp only [accepted, Config.fleetConfig, Config.pollSeconds]
    omega
  · exact Int.toNat_of_nonneg (Int.le_of_lt hlimit)
  · simp only [accepted, Config.fleetConfig]
    omega

/-- Validation accepts the valid configurations, whose descriptors have the keys and values of
    the repos in their order, whose poll interval is at least a second and whose limit at least
    one.  It rejects every other one for its first fault. -/
theorem validate_exact (w : WrittenConfig) (h : ∀ repo ∈ w.repos, IsMapping repo) :
    ((∃ c, w.validate = .ok c) ↔ w.Valid) ∧
    (∀ c, w.validate = .ok c →
      List.Forall₂ SettingsOf w.repos c.repos ∧
      c.fleetConfig.pollMillis = 1000 * max w.interval.toInt 1 ∧
      c.fleetConfig.limit = w.concurrentLimit.toInt ∧ 1 ≤ c.fleetConfig.limit) ∧
    ∀ fault, w.validate = .error fault ↔ w.FirstFault fault :=
  ⟨exists_validate_iff, fun _ => of_validate h, fun _ => validate_eq_error_iff h⟩

theorem validate_exact_second_repo :
    let first : WrittenRepo := [(.string "name", .string "a")]
    let second : WrittenRepo := [(.string "name", .int 5), (.string "k", .sequence [])]
    let w : WrittenConfig :=
      { interval := 0, concurrentLimit := 1, checkpoint := "", logLevel := none, address := ":80"
        repos := [first, second] }
    (∀ repo ∈ w.repos, IsMapping repo) ∧ ¬ w.Valid ∧
      w.validate = .error (.nestedValue "repos[1]" "k") ∧
      ∃ c, ({ w with repos := [first] } : WrittenConfig).validate = .ok c ∧
        c.fleetConfig.pollMillis = 1000 := by
  intro first second w
  have hfirst : IsMapping first := List.pairwise_singleton _ _
  have hmappings : ∀ repo ∈ w.repos, IsMapping repo := by
    simp [w, first, second, IsMapping, Value.same]
  have haddress : ¬ Text.Blanks ":80".toList := by
    simp [Text.Blanks, Text.isBlank]
  obtain ⟨haccepted, -, hrejected⟩ := validate_exact w hmappings
  have hcalled : WrittenRepo.Called 1 second ("repos[" ++ toString 1 ++ "]") :=
    .index (by simp [second])
  have herror : w.validate = .error (.nestedValue "repos[1]" "k") := by
    have hrepos : w.repos = [first] ++ second :: [] := rfl
    have hentries : second = [(.string "name", .int 5)] ++ (.string "k", .sequence []) :: [] := rfl
    refine (hrejected _).mpr (.repo (by decide) (by decide) haddress hrepos ?_
      (.value hentries ?_ id hcalled))
    · simp [first, WrittenRepo.WellFormed, Value.IsScalar]
    · simp [WrittenRepo.WellFormed, Value.IsScalar]
  obtain ⟨haccepted', hkept, -⟩ := validate_exact { w with repos := [first] }
    (List.forall_mem_singleton.mpr hfirst)
  obtain ⟨c, hc⟩ := haccepted'.mpr ⟨by decide, by decide, haddress, by
    simp [first, WrittenRepo.WellFormed, Value.IsScalar]⟩
  refine ⟨hmappings, ?_, herror, c, hc, Int.ofNat_inj.mp (hkept c hc).2.1⟩
  intro hvalid
  obtain ⟨c, hc⟩ := haccepted.mpr hvalid
  rw [herror] at hc
  cases hc

end WrittenConfig

end SyncFleet
