/-
  SyncFleet/Proofs/Fleet/Tick.lean
  ================================
  **What one tick of the decision loop does to each job and to the queue.**

  The lemmas here say all there is to say about `Fleet.tick`: who joins the
  queue, who is admitted, what becomes of the job at each place, and how many
  jobs are busy afterwards.  Busy jobs are counted as a set of places, so that
  the jobs admitted by a tick can be added to those found busy.
-/
import Mathlib.Data.Finset.Card
import Mathlib.Data.Finset.Range
import SyncFleet.Fleet.Basic
import SyncFleet.Proofs.Job.Step
import SyncFleet.Proofs.List

namespace SyncFleet

open Calendar

namespace Fleet

variable {f : Fleet} {now : Instant} {i : Nat}

/-! ### The queue -/

/-- How many jobs a tick admits at most. -/
def budget (f : Fleet) : Nat := f.limit - f.busyCount

@[simp] theorem tick_limit (f : Fleet) (now : Instant) : (f.tick now).1.limit = f.limit := rfl

@[simp]
theorem tick_queued (f : Fleet) (now : Instant) : (f.tick now).2.queued = f.joining now := rfl

theorem tick_admitted (f : Fleet) (now : Instant) :
    (f.tick now).2.admitted = (f.pending ++ f.joining now).take f.budget := rfl

theorem tick_pending (f : Fleet) (now : Instant) :
    (f.tick now).1.pending = (f.pending ++ f.joining now).drop f.budget := rfl

/-- Whoever waits or joins is admitted or goes on waiting, in the same order. -/
theorem tick_admitted_append_pending (f : Fleet) (now : Instant) :
    (f.tick now).2.admitted ++ (f.tick now).1.pending = f.pending ++ (f.tick now).2.queued := by
  rw [tick_admitted, tick_pending, tick_queued]
  exact List.take_append_drop _ _

theorem length_tick_admitted_le (f : Fleet) (now : Instant) :
    (f.tick now).2.admitted.length ≤ f.budget := by
  rw [tick_admitted]
  exact List.length_take_le _ _

theorem mem_joining :
    i ∈ f.joining now ↔ ∃ s, f.slots[i]? = some s ∧ s.joins now = true ∧ i ∉ f.pending := by
  simp only [joining, List.mem_map, List.mem_filter, Bool.and_eq_true, Bool.not_eq_true',
    List.contains_eq_mem, decide_eq_false_iff_not]
  constructor
  · rintro ⟨⟨s, k⟩, ⟨hmem, hjoins, hwaits⟩, rfl⟩
    exact ⟨s, List.mem_zipIdx_iff_getElem?.mp hmem, hjoins, hwaits⟩
  · rintro ⟨s, hs, hjoins, hwaits⟩
    exact ⟨(s, i), ⟨List.mem_zipIdx_iff_getElem?.mpr hs, hjoins, hwaits⟩, rfl⟩

/-- Jobs join the queue in the order of their places. -/
theorem joining_sorted (f : Fleet) (now : Instant) : (f.joining now).Pairwise (· < ·) := by
  have hall : (f.slots.zipIdx.map Prod.snd).Pairwise (· < ·) := by
    rw [List.zipIdx_map_snd]
    exact List.pairwise_lt_range'
  exact hall.sublist (List.filter_sublist.map Prod.snd)

theorem joining_nodup (f : Fleet) (now : Instant) : (f.joining now).Nodup :=
  (f.joining_sorted now).imp fun hlt => Nat.ne_of_lt hlt

/-! ### The job at each place -/

theorem job?_eq_some {j : Job} (h : f.job? i = some j) :
    ∃ s, f.slots[i]? = some s ∧ s.job = j := by
  simpa [job?, Option.map_eq_some_iff] using h

/-- Whether the job at a place reports to be busy. -/
def isBusyAt (f : Fleet) (i : Nat) : Bool := (f.job? i).any fun j => !j.isIdle

theorem isBusyAt_of_slot {s : Slot} (h : f.slots[i]? = some s) : f.isBusyAt i = !s.job.isIdle := by
  simp [isBusyAt, job?, h]

theorem isBusyAt_iff : f.isBusyAt i = true ↔ ∃ s, f.slots[i]? = some s ∧ s.job.isIdle = false := by
  cases hs : f.slots[i]? with
  | none => simp [isBusyAt, job?, hs]
  | some s => simp [isBusyAt_of_slot hs]

@[simp] theorem getElem?_tick_slots (f : Fleet) (now : Instant) (i : Nat) :
    (f.tick now).1.slots[i]? = (f.slots[i]?).map fun s =>
      if i ∈ (f.tick now).2.admitted then s.admission now else s := by
  simp [tick, List.getElem?_mapIdx, List.contains_eq_mem]

/-- What is fixed about the jobs, in the order of their places. -/
def specs (f : Fleet) : List JobSpec := f.slots.map fun s => s.job.spec

@[simp] theorem getElem?_specs (f : Fleet) (i : Nat) :
    f.specs[i]? = (f.slots[i]?).map fun s => s.job.spec := by
  simp [specs]

@[simp] theorem tick_specs (f : Fleet) (now : Instant) : (f.tick now).1.specs = f.specs := by
  apply List.ext_getElem?
  intro i
  rw [getElem?_specs, getElem?_specs, getElem?_tick_slots]
  cases f.slots[i]? with
  | none => rfl
  | some s =>
    simp only [Option.map_some, Option.some.injEq]
    split
    · exact Job.spec_trigger s.job
    · rfl

/-! ### Ticks that change nothing -/

theorem changed_eq_false_iff {t : Tick} : t.changed = false ↔ t.queued = [] ∧ t.admitted = [] := by
  simp [Tick.changed]

/-- A tick that queues and admits nobody leaves the fleet as it was. -/
theorem tick_of_unchanged (h : (f.tick now).2.changed = false) : (f.tick now).1 = f := by
  obtain ⟨hqueued, hadmitted⟩ := changed_eq_false_iff.mp h
  have hslots : (f.tick now).1.slots = f.slots := by
    apply List.ext_getElem?
    intro i
    rw [getElem?_tick_slots, hadmitted]
    simp
  have hpending : (f.tick now).1.pending = f.pending := by
    have hall := tick_admitted_append_pending f now
    rwa [hqueued, hadmitted, List.nil_append, List.append_nil] at hall
  calc
    (f.tick now).1 = ⟨f.limit, (f.tick now).1.slots, (f.tick now).1.pending⟩ := rfl
    _ = f := by rw [hslots, hpending]

/-! ### Counting busy jobs -/

/-- The places of the busy jobs. -/
def busyPlaces (f : Fleet) : Finset Nat :=
  (Finset.range f.slots.length).filter fun i => f.isBusyAt i = true

theorem mem_busyPlaces : i ∈ f.busyPlaces ↔ f.isBusyAt i = true := by
  simp only [busyPlaces, Finset.mem_filter, Finset.mem_range, and_iff_right_iff_imp]
  intro hbusy
  obtain ⟨s, hs, _⟩ := isBusyAt_iff.mp hbusy
  exact (List.getElem?_eq_some_iff.mp hs).1

theorem busyCount_eq_card (f : Fleet) : f.busyCount = f.busyPlaces.card := by
  rw [busyCount, countP_eq_countP_range, List.countP_eq_length_filter, busyPlaces]
  have hany : ∀ i, ((f.slots[i]?).any fun s => !s.job.isIdle) = f.isBusyAt i := by
    intro i
    cases hs : f.slots[i]? with
    | none => simp [isBusyAt, job?, hs]
    | some s => rw [isBusyAt_of_slot hs]; rfl
  simp only [hany]
  rw [Finset.card_def, Finset.filter_val, Finset.range_val, Multiset.range]
  simp [Multiset.filter_coe]

/-- Nobody but the jobs it admits is made busy by a tick. -/
theorem busyPlaces_tick_subset (f : Fleet) (now : Instant) :
    (f.tick now).1.busyPlaces ⊆ f.busyPlaces ∪ (f.tick now).2.admitted.toFinset := by
  intro i hi
  obtain ⟨s', hs', hbusy⟩ := isBusyAt_iff.mp (mem_busyPlaces.mp hi)
  rw [getElem?_tick_slots] at hs'
  obtain ⟨s, hs, heq⟩ := Option.map_eq_some_iff.mp hs'
  rw [Finset.mem_union, List.mem_toFinset, mem_busyPlaces]
  by_cases hadm : i ∈ (f.tick now).2.admitted
  · exact Or.inr hadm
  · rw [if_neg hadm] at heq
    exact Or.inl (isBusyAt_iff.mpr ⟨s, hs, heq ▸ hbusy⟩)

/-- A tick leaves no more jobs busy than the limit, or than there were. -/
theorem busyCount_tick_le (f : Fleet) (now : Instant) :
    (f.tick now).1.busyCount ≤ max f.limit f.busyCount := by
  have hadm := length_tick_admitted_le f now
  rw [budget] at hadm
  have hcard := calc
    (f.tick now).1.busyCount = (f.tick now).1.busyPlaces.card := busyCount_eq_card _
    _ ≤ (f.busyPlaces ∪ (f.tick now).2.admitted.toFinset).card :=
      Finset.card_le_card (busyPlaces_tick_subset f now)
    _ ≤ f.busyPlaces.card + (f.tick now).2.admitted.toFinset.card := Finset.card_union_le _ _
    _ ≤ f.busyCount + (f.tick now).2.admitted.length :=
      Nat.add_le_add (busyCount_eq_card f).ge (List.toFinset_card_le _)
  omega

/-- The jobs that a tick admits are busy afterwards, if none of them is looked after elsewhere. -/
theorem busyPlaces_tick (hadm : ∀ i ∈ (f.tick now).2.admitted,
      ∃ s, f.slots[i]? = some s ∧ s.job.spec.external = false) :
    (f.tick now).1.busyPlaces = f.busyPlaces ∪ (f.tick now).2.admitted.toFinset := by
  refine Finset.Subset.antisymm (busyPlaces_tick_subset f now) ?_
  intro i hi
  rw [Finset.mem_union, List.mem_toFinset, mem_busyPlaces] at hi
  rw [mem_busyPlaces, isBusyAt_iff]
  by_cases hmem : i ∈ (f.tick now).2.admitted
  · obtain ⟨s, hs, hext⟩ := hadm i hmem
    refine ⟨s.admission now, ?_, Job.isBusy_trigger hext⟩
    rw [getElem?_tick_slots, hs, Option.map_some, if_pos hmem]
  · obtain ⟨s, hs, hbusy⟩ := isBusyAt_iff.mp (hi.resolve_right hmem)
    refine ⟨s, ?_, hbusy⟩
    rw [getElem?_tick_slots, hs, Option.map_some, if_neg hmem]

/-- Where a tick admits idle jobs only, each of them once, it adds as many busy jobs as it
    admits. -/
theorem busyCount_tick (hadm : ∀ i ∈ (f.tick now).2.admitted,
      ∃ s, f.slots[i]? = some s ∧ s.job.spec.external = false)
    (hidle : ∀ i ∈ (f.tick now).2.admitted, f.isBusyAt i = false)
    (hnodup : (f.tick now).2.admitted.Nodup) :
    (f.tick now).1.busyCount = f.busyCount + (f.tick now).2.admitted.length := by
  have hdisjoint : Disjoint f.busyPlaces (f.tick now).2.admitted.toFinset := by
    rw [Finset.disjoint_right]
    intro i hi hbusy
    rw [mem_busyPlaces, hidle i (List.mem_toFinset.mp hi)] at hbusy
    cases hbusy
  rw [busyCount_eq_card, busyCount_eq_card, busyPlaces_tick hadm,
    Finset.card_union_of_disjoint hdisjoint, List.toFinset_card_of_nodup hnodup]

end Fleet

end SyncFleet
