/-
  SyncFleet/Proofs/Checkpoint/RoundTrip.lean
  ==========================================
  **A checkpoint is read back from its text.**

  The writer makes a legible JSON value (`Checkpoint.legible_toJson`), which is
  read back as that value; each record of it is read field by field, a field
  that was left out as one without a value (`CheckpointEntry.ofJson?_toJson`);
  and the entries, written in the order of their names, make the same map
  (`KeyMap.ofList_entries`).  So decoding gives what the text tells, for texts
  and for bytes (`Checkpoint.decode?_encode`, `Checkpoint.decodeBytes?_toUTF8`).
  That is the checkpoint itself unless one of its times lies in a leap second
  that does not end a minute (`Checkpoint.told_eq_self_iff`).
-/
import SyncFleet.Checkpoint.Codec
import SyncFleet.Proofs.Calendar.Timestamp
import SyncFleet.Proofs.Json.RoundTrip
import SyncFleet.Proofs.KeyMap

namespace SyncFleet

open Calendar

/-! ### Writing is legible -/

theorem legible_instantJson (t : Instant) : (instantJson t).Legible := .string t.text

theorem legible_optionalField {α : Type} {encode : α → Json} (h : ∀ a, (encode a).Legible)
    (key : String) (o : Option α) : ∀ f ∈ optionalField key encode o, f.2.Legible := by
  cases o with
  | none => exact fun f hf => absurd hf List.not_mem_nil
  | some a => exact List.forall_mem_singleton.mpr (h a)

theorem CheckpointEntry.legible_toJson (e : CheckpointEntry) : e.toJson.Legible := by
  refine .object (List.forall_mem_cons.mpr ⟨legible_instantJson _, ?_⟩)
  exact List.forall_mem_append.mpr ⟨legible_optionalField legible_instantJson _ _,
    legible_optionalField .bool _ _⟩

theorem Checkpoint.legible_toJson (c : Checkpoint) : c.toJson.Legible := by
  refine .object (List.forall_mem_singleton.mpr (.object fun f hf => ?_))
  obtain ⟨e, -, rfl⟩ := List.mem_map.mp hf
  exact e.2.legible_toJson

/-! ### What a text tells -/

/-- The entry that is told by the text of an entry. -/
def CheckpointEntry.told (e : CheckpointEntry) : CheckpointEntry :=
  ⟨e.lastInvoke.told, e.lastFinished.map Instant.told, e.result⟩

/-- Whether timestamps can tell the times of an entry. -/
def CheckpointEntry.Legible (e : CheckpointEntry) : Prop :=
  e.lastInvoke.Legible ∧ ∀ t ∈ e.lastFinished, t.Legible

theorem CheckpointEntry.told_eq_self_iff {e : CheckpointEntry} : e.told = e ↔ e.Legible := by
  obtain ⟨invoke, finished, result⟩ := e
  cases finished <;> simp [told, Legible, Instant.told_eq_self_iff]

/-- An entry and the one that its text tells have one JSON form. -/
@[simp] theorem CheckpointEntry.toJson_told (e : CheckpointEntry) : e.told.toJson = e.toJson := by
  obtain ⟨invoke, finished, result⟩ := e
  cases finished <;> simp [told, toJson, optionalField, instantJson, Instant.text_told]

namespace Checkpoint

/-- The checkpoint that is told by the text of a checkpoint. -/
def told (c : Checkpoint) : Checkpoint := ⟨c.jobs.map CheckpointEntry.told⟩

/-- Whether timestamps can tell all times of a checkpoint. -/
def Legible (c : Checkpoint) : Prop := ∀ e ∈ c.jobs.entries, e.2.Legible

@[simp] theorem entries_told (c : Checkpoint) :
    c.told.jobs.entries = c.jobs.entries.map fun e => (e.1, e.2.told) := rfl

theorem told_eq_self_iff {c : Checkpoint} : c.told = c ↔ c.Legible := by
  have hentries : c.told = c ↔ c.told.jobs.entries = c.jobs.entries := by
    refine ⟨fun h => congrArg (fun c => c.jobs.entries) h, fun h => ?_⟩
    obtain ⟨⟨entries, ascending⟩⟩ := c
    exact congrArg mk ((KeyMap.mk.injEq ..).mpr h)
  have hself := List.map_inj_left (l := c.jobs.entries) (f := fun e => (e.1, e.2.told)) (g := id)
  rw [List.map_id] at hself
  rw [hentries, entries_told, hself]
  refine forall_congr' fun e => imp_congr_right fun _ => ?_
  rw [← CheckpointEntry.told_eq_self_iff, Prod.ext_iff]
  exact and_iff_right rfl

@[simp] theorem encode_told (c : Checkpoint) : c.told.encode = c.encode := by
  rw [encode, encode, toJson, toJson, entries_told, List.map_map]
  simp only [Function.comp_def, CheckpointEntry.toJson_told]

end Checkpoint

/-! ### Records -/

@[simp] theorem instantOfJson?_instantJson (t : Instant) :
    instantOfJson? (instantJson t) = some t.told :=
  t.ofText?_text

theorem instantJson_ne_null (t : Instant) : instantJson t ≠ .null := by
  rw [instantJson]
  exact Json.noConfusion

theorem optionalOf?_map {α : Type} (encode : α → Json) (decode : Json → Option α) (told : α → α)
    (h : ∀ a, decode (encode a) = some (told a)) (hnull : ∀ a, encode a ≠ .null) (o : Option α) :
    optionalOf? decode (o.map encode) = some (o.map told) := by
  cases o with
  | none => rfl
  | some a =>
    rw [Option.map_some, optionalOf?, h, Option.map_some, Option.map_some]
    exact hnull a

/-- The fields that were written are found under their keys, and no others. -/
theorem CheckpointEntry.recordFields?_toJson (e : CheckpointEntry) :
    recordFields? ["last_invoke_time", "last_finished", "result"] e.toJson =
      some [some (instantJson e.lastInvoke), e.lastFinished.map instantJson,
        e.result.map .bool] := by
  obtain ⟨invoke, finished, result⟩ := e
  cases finished <;> cases result <;> simp [recordFields?, toJson, optionalField]

/-- From an entry's JSON form the entry is read that it tells, what it does not hold included. -/
@[simp] theorem CheckpointEntry.ofJson?_toJson (e : CheckpointEntry) :
    CheckpointEntry.ofJson? e.toJson = some e.told := by
  have hfinished : optionalOf? instantOfJson? (e.lastFinished.map instantJson) =
      some (e.lastFinished.map Instant.told) :=
    optionalOf?_map _ _ _ instantOfJson?_instantJson instantJson_ne_null e.lastFinished
  have hresult : optionalOf? boolOfJson? (e.result.map .bool) = some (e.result.map id) :=
    optionalOf?_map .bool boolOfJson? id (fun _ => rfl) (fun _ => Json.noConfusion) e.result
  rw [CheckpointEntry.ofJson?, e.recordFields?_toJson, Option.bind_eq_bind, Option.bind_some]
  dsimp only
  rw [instantOfJson?_instantJson, hfinished, hresult, Option.map_id]
  rfl

/-! ### Whole checkpoints -/

namespace Checkpoint

/-- From a checkpoint's JSON form the checkpoint is read that it tells. -/
@[simp] theorem ofJson?_toJson (c : Checkpoint) : ofJson? c.toJson = some c.told := by
  have hentries : (c.jobs.entries.map fun e => (e.1, e.2.toJson)).mapM
      (fun f => (CheckpointEntry.ofJson? f.2).map fun e => (f.1, e)) =
        some c.told.jobs.entries := by
    rw [entries_told]
    induction c.jobs.entries with
    | nil => rfl
    | cons e entries ih =>
      rw [List.map_cons, List.mapM_cons, e.2.ofJson?_toJson, ih]
      rfl
  have hfields : recordFields? ["worker_info"] c.toJson =
      some [some (.object (c.jobs.entries.map fun e => (e.1, e.2.toJson)))] := by
    simp [recordFields?, toJson]
  rw [ofJson?, hfields, Option.bind_eq_bind, Option.bind_some]
  dsimp only
  rw [hentries, Option.bind_eq_bind, Option.bind_some, KeyMap.ofList_entries]
  rfl

@[simp] theorem decode?_encode (c : Checkpoint) : decode? c.encode = some c.told := by
  rw [decode?, encode, c.legible_toJson.ofText?_render, Option.bind_some, c.ofJson?_toJson]

/-- Text is read from its bytes as it is. -/
theorem decode_toUTF8 (s : String) : Text.Utf8.decode s.toUTF8 = s.toList.map some := by
  have htext : String.fromUTF8? s.toUTF8 = some s := dif_pos s.isValidUTF8
  rw [Text.Utf8.decode, htext]

@[simp]
theorem decodeBytes?_toUTF8 (c : Checkpoint) : decodeBytes? c.encode.toUTF8 = some c.told := by
  rw [decodeBytes?, decode_toUTF8]
  exact c.decode?_encode

/-- **What the checkpoint format keeps.**  From the text of any checkpoint, whatever its names,
    instants and absent fields, and from the bytes of its text the checkpoint is read that the text
    tells.  That is the checkpoint itself just when none of its times lies in a leap second that
    does not end a minute.  Two checkpoints have one text only if they tell the same, so two
    legible checkpoints never do. -/
theorem format_round_trips :
    (∀ c : Checkpoint, decode? c.encode = some c.told ∧ decodeBytes? c.encode.toUTF8 = some c.told)
      ∧ (∀ c : Checkpoint, c.told = c ↔ c.Legible)
      ∧ (∀ c c' : Checkpoint, c.encode = c'.encode ↔ c.told = c'.told)
      ∧ ∀ c c' : Checkpoint, c.Legible → c'.Legible → (c.encode = c'.encode ↔ c = c') := by
  have htext : ∀ c c' : Checkpoint, c.encode = c'.encode ↔ c.told = c'.told := by
    refine fun c c' => ⟨fun htext => ?_, fun htold => ?_⟩
    · have h : decode? c.encode = some c'.told := htext ▸ c'.decode?_encode
      exact Option.some.inj (c.decode?_encode.symm.trans h)
    · rw [← c.encode_told, htold, c'.encode_told]
  refine ⟨fun c => ⟨c.decode?_encode, c.decodeBytes?_toUTF8⟩, fun c => told_eq_self_iff, htext,
    fun c c' hc hc' => ?_⟩
  rw [htext, told_eq_self_iff.mpr hc, told_eq_self_iff.mpr hc']

/-- The checkpoint of one job that was last admitted on New Year's Day 2024. -/
def newYear (second nano : Nat) (h : isTimeOfDay second nano = true) : Checkpoint :=
  ⟨.ofList [("debian", ⟨⟨⟨2024, 1, 1, rfl⟩, second, nano, h⟩, none, none⟩)]⟩

/-- A leap second that does not end a minute is lost: the checkpoint has the text of the one that
    holds the second which comes next, and that is the one which is read. -/
theorem leapSecond_not_read_back :
    let c := newYear 43230 1500000000 rfl
    let next := newYear 43231 500000000 rfl
    c ≠ next ∧ c.encode = next.encode ∧ decode? c.encode = some next := by
  have htold : (newYear 43230 1500000000 rfl).told = newYear 43231 500000000 rfl := rfl
  refine ⟨by decide, ?_, ?_⟩
  · rw [← encode_told, htold]
  · rw [decode?_encode, htold]

/-- The leap second at the end of the first minute past noon is kept, and no other checkpoint has its
    text. -/
theorem legible_texts_differ :
    let c := newYear 43259 1500000000 rfl
    let plain := newYear 43260 500000000 rfl
    decode? c.encode = some c ∧ c.encode ≠ plain.encode := by
  intro c plain
  obtain ⟨hread, hlegible, -, hdiffer⟩ := format_round_trips
  have hc : c.told = c := rfl
  have hplain : plain.told = plain := rfl
  refine ⟨hc ▸ (hread c).1, fun htext => ?_⟩
  have heq := (hdiffer c plain ((hlegible c).mp hc) ((hlegible plain).mp hplain)).mp htext
  exact absurd heq (by decide)

end Checkpoint

end SyncFleet
