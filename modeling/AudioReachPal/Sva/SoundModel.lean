import AudioReachPal.Sva.Defs
import AudioReachPal.Lib.Region

/-!
# Taking in a sound model

`StreamSoundTrigger::UpdateSoundModel` copies the client's sound model, and
`SVAInterface::ParseSoundModel` splits its data into the models of the stages. Both work on the bytes
of the sound model. The copy is as large as the structure and the data together, but the data goes to
the client's offset in it; the parser believes the table in the data.
-/

namespace AudioReachPal.Sva

open AudioReachPal.Lib

/-! ### Bytes of a sound model -/

/-! `pal_st_sound_model` and `pal_st_phrase_sound_model` are aligned to 8 bytes. -/

def sizeof_pal_st_sound_model : ℕ := 48
def sizeof_pal_st_phrase_sound_model : ℕ := 1296

def PAL_SOUND_MODEL_TYPE_KEYPHRASE : ℕ := 0
def PAL_SOUND_MODEL_TYPE_GENERIC : ℕ := 1
def PAL_RECOGNITION_MODE_VOICE_TRIGGER : ℕ := 0x1
def PAL_RECOGNITION_MODE_USER_IDENTIFICATION : ℕ := 0x2

/-- The 32-bit field at `p`. -/
def field (bytes : List UInt8) (p : ℕ) : ℕ := (readLE bytes 4 p).getD 0

/-- The memory of a `pal_st_sound_model` that a client passes: the structure of its type, and the
data where the structure says. -/
structure pal_st_sound_model where
  bytes : List UInt8
  struct_inside : sizeof_pal_st_sound_model ≤ bytes.length
  phrase_inside : field bytes 0 = PAL_SOUND_MODEL_TYPE_KEYPHRASE →
    sizeof_pal_st_phrase_sound_model ≤ bytes.length
  data_inside : field bytes 40 + field bytes 36 ≤ bytes.length

namespace pal_st_sound_model

def type (sm : pal_st_sound_model) : ℕ := field sm.bytes 0
def data_size (sm : pal_st_sound_model) : ℕ := field sm.bytes 36
def data_offset (sm : pal_st_sound_model) : ℕ := field sm.bytes 40
def num_phrases (sm : pal_st_sound_model) : ℕ := field sm.bytes 48

/-- `phrases[0].recognition_mode` -/
def recognition_mode (sm : pal_st_sound_model) : ℕ := field sm.bytes 56

/-- The size of the structure of the type. -/
def sizeof (sm : pal_st_sound_model) : ℕ :=
  if sm.type = PAL_SOUND_MODEL_TYPE_KEYPHRASE then sizeof_pal_st_phrase_sound_model
  else sizeof_pal_st_sound_model

/-- The opaque data. -/
def payload (sm : pal_st_sound_model) : List UInt8 :=
  (sm.bytes.drop sm.data_offset).take sm.data_size

/-- The checks of `updateSoundModel`. -/
def Admitted (sm : pal_st_sound_model) : Prop :=
  if sm.type = PAL_SOUND_MODEL_TYPE_KEYPHRASE then
    ¬ (sm.data_offset < sizeof_pal_st_phrase_sound_model ∨ sm.data_size = 0 ∨ sm.num_phrases = 0)
  else if sm.type = PAL_SOUND_MODEL_TYPE_GENERIC then
    ¬ (sm.data_size = 0 ∨ sm.data_offset < sizeof_pal_st_sound_model)
  else False

instance (sm : pal_st_sound_model) : Decidable sm.Admitted := by
  unfold Admitted
  infer_instance

end pal_st_sound_model

/-! ### The cached copy -/

/-- The fields of a `StreamSoundTrigger` that `updateSoundModel` changes, the stream config as
whether there is one. -/
structure StreamSoundTrigger where
  sound_model_type_ : ℕ
  sm_config_ : Option (List UInt8)
  recognition_mode_ : ℕ
  sm_cfg_ : Bool
  deriving DecidableEq, Repr

/-- What is outside: whether the memory is there, and whether the platform has a config for the
vendor's uuid. -/
structure IntakeEnv where
  calloc : Bool
  getStreamConfig : Bool

/-- `calloc(1, sm_size)`: a negative size is larger than any memory. -/
def callocModel (env : IntakeEnv) (sm_size : ℤ) : Option (List UInt8) :=
  if env.calloc ∧ 0 ≤ sm_size then some (List.replicate sm_size.toNat 0) else none

/-- The size of the copy, an `int32_t`. -/
def pal_st_sound_model.sm_size (sm : pal_st_sound_model) : ℤ := int32 (sm.sizeof + sm.data_size : ℕ)

/-- The two copies into the allocation; `none` is a copy that leaves it. -/
def pal_st_sound_model.copyInto (sm : pal_st_sound_model) (sm_config_ : List UInt8) :
    Option (List UInt8) :=
  (slice sm.bytes 0 sm.sizeof).bind fun hdr =>
    (patch sm_config_ 0 hdr).bind fun sm_config_ =>
      (slice sm.bytes sm.data_offset sm.data_size).bind fun data =>
        patch sm_config_ sm.data_offset data

/-- `updateSoundModel`; `cached` says that the sound model is the cached one itself. -/
def updateSoundModel (env : IntakeEnv) (st : StreamSoundTrigger)
    (sound_model : Option pal_st_sound_model) (cached : Bool) : Option (StreamSoundTrigger × ℤ) :=
  match sound_model with
  | none => some (st, - EINVAL)
  | some sm =>
    let st := { st with sound_model_type_ := sm.type }
    let lookup (st : StreamSoundTrigger) : StreamSoundTrigger × ℤ :=
      ({ st with sm_cfg_ := env.getStreamConfig }, if env.getStreamConfig then 0 else - EINVAL)
    if ¬ sm.Admitted then some (st, - EINVAL)
    else if cached then some (lookup st)
    else match callocModel env sm.sm_size with
      | none => some ({ st with sm_config_ := none }, - ENOMEM)
      | some mem =>
        (sm.copyInto mem).map fun mem =>
          lookup { st with
            sm_config_ := some mem
            recognition_mode_ :=
              if sm.type = PAL_SOUND_MODEL_TYPE_KEYPHRASE then sm.recognition_mode
              else PAL_RECOGNITION_MODE_VOICE_TRIGGER }

/-! ### Splitting the data -/

def SML_GLOBAL_HEADER_MAGIC_NUMBER : ℕ := 0x00180cc8
def sizeof_SML_GlobalHeaderType : ℕ := 4 + 4 + 4
def sizeof_SML_HeaderTypeV3 : ℕ := 4 + 4 + 4 + 200 + 200
def sizeof_SML_BigSoundModelTypeV3 : ℕ := 2 + 2 + 4 + 4 + 4

def SML_ID_SVA_S_STAGE_UBM : ℕ := 0x0010
def SML_ID_SVA_F_STAGE_INTERNAL : ℕ := 0x0020
def ST_SM_ID_SVA_S_STAGE_CTIUV : ℕ := 0x0080
def ST_MODULE_TYPE_MMA : ℕ := 200

/-- A row of the table of models. -/
structure SML_BigSoundModelTypeV3 where
  versionMajor : ℕ
  versionMinor : ℕ
  offset : ℕ
  size : ℕ
  type : ℕ
  deriving DecidableEq, Repr

/-- Row `i` of the table, as the loop reads it. -/
def readRow (payload : List UInt8) (i : ℕ) : Option SML_BigSoundModelTypeV3 :=
  let p := sizeof_SML_GlobalHeaderType + sizeof_SML_HeaderTypeV3 + i * sizeof_SML_BigSoundModelTypeV3
  (slice payload p sizeof_SML_BigSoundModelTypeV3).map fun row =>
    { versionMajor := ofBytes (row.take 2)
      versionMinor := ofBytes ((row.drop 2).take 2)
      offset := field row 4
      size := field row 8
      type := field row 12 }

/-- The row's model is one that is copied. -/
def SML_BigSoundModelTypeV3.copied (big_sm : SML_BigSoundModelTypeV3) (sm : pal_st_sound_model) :
    Bool :=
  big_sm.type == ST_SM_ID_SVA_F_STAGE_GMM ||
    (big_sm.type != SML_ID_SVA_S_STAGE_UBM && big_sm.type != SML_ID_SVA_F_STAGE_INTERNAL &&
      !(sm.type == PAL_SOUND_MODEL_TYPE_KEYPHRASE &&
        (big_sm.type == ST_SM_ID_SVA_S_STAGE_USER || big_sm.type == ST_SM_ID_SVA_S_STAGE_CTIUV) &&
        !hasBits sm.recognition_mode PAL_RECOGNITION_MODE_USER_IDENTIFICATION))

/-- Where the data of the row's model begins. -/
def SML_BigSoundModelTypeV3.ptr (big_sm : SML_BigSoundModelTypeV3) (numModels : ℕ) : ℕ :=
  sizeof_SML_GlobalHeaderType + sizeof_SML_HeaderTypeV3 +
    numModels * sizeof_SML_BigSoundModelTypeV3 + big_sm.offset

/-- `allocateSMData` for `sm_size` bytes at `ptr`, with the `int32_t` that the size becomes:
`some none` is memory that is not there. -/
def allocateSMData (alloc : Bool) (payload : List UInt8) (sm_size ptr type : ℕ) :
    Option (Option (sound_model_data_t (List UInt8))) :=
  if alloc = false ∨ int32 sm_size < 0 then some none
  else (slice payload ptr sm_size).map fun data => some ⟨type, data, sm_size⟩

/-- What `parseSoundModel` leaves. -/
structure ParsedModel where
  first_stage_type : ℕ
  model_list : List (sound_model_data_t (List UInt8))
  status : ℤ
  deriving DecidableEq, Repr

/-- `allocateSMData` and what follows it: the list gets the model or, at `error_exit`, is cleared. -/
def ParsedModel.add (m : ParsedModel) (alloc : Bool) (payload : List UInt8)
    (sm_size ptr type : ℕ) : Option ParsedModel :=
  (allocateSMData alloc payload sm_size ptr type).map fun
    | none => { m with model_list := [], status := - ENOMEM }
    | some model_data => { m with model_list := m.model_list ++ [model_data] }

/-- The loop over the table, with `n` rows left from row `i` on. `alloc` says which allocations
succeed. -/
def parseRows (alloc : ℕ → Bool) (sm : pal_st_sound_model) (numModels : ℕ) :
    (n i : ℕ) → ParsedModel → Option ParsedModel
  | 0, _, m => some m
  | n + 1, i, m =>
    (readRow sm.payload i).bind fun big_sm =>
      let m :=
        if big_sm.type = ST_SM_ID_SVA_F_STAGE_GMM then
          { m with first_stage_type := big_sm.versionMajor % 2 ^ 8 }
        else m
      if big_sm.copied sm then
        (m.add (alloc i) sm.payload big_sm.size (big_sm.ptr numModels) big_sm.type).bind fun m =>
          if m.status ≠ 0 then some m else parseRows alloc sm numModels n (i + 1) m
      else parseRows alloc sm numModels n (i + 1) m

/-- `parseSoundModel`, with an empty list. `none` is a read outside the data. -/
def parseSoundModel (alloc : ℕ → Bool) (sm : pal_st_sound_model) (first_stage_type : ℕ) :
    Option ParsedModel :=
  let m : ParsedModel := ⟨first_stage_type, [], 0⟩
  (readLE sm.payload 4 0).bind fun magicNumber =>
    if magicNumber = SML_GLOBAL_HEADER_MAGIC_NUMBER then
      (readLE sm.payload 4 sizeof_SML_GlobalHeaderType).bind fun numModels =>
        (parseRows alloc sm numModels numModels 0 m).bind fun m =>
          if m.status ≠ 0 then some m
          -- the mode bits of the combined model are the last four bytes
          else if m.first_stage_type = ST_MODULE_TYPE_MMA then
            m.add (alloc numModels) sm.payload 4 (sm.data_size - 4) ST_SM_ID_SVA_F_STAGE_GMM
          else some m
    else m.add (alloc 0) sm.payload sm.data_size 0 ST_SM_ID_SVA_F_STAGE_GMM

/-! ### The copy is right -/

/-- `updateSoundModel` stays in its allocation, and where it accepts the model the cached copy reads
back as its structure and its data. -/
def Cached (env : IntakeEnv) (st : StreamSoundTrigger) (sm : pal_st_sound_model) (cached : Bool) :
    Prop :=
  ∃ st' status, updateSoundModel env st (some sm) cached = some (st', status) ∧
    (status = 0 → ∃ sm_config_, st'.sm_config_ = some sm_config_ ∧
      slice sm_config_ 0 sm.sizeof = slice sm.bytes 0 sm.sizeof ∧
      slice sm_config_ sm.data_offset sm.data_size = slice sm.bytes sm.data_offset sm.data_size)

theorem sizeof_le (sm : pal_st_sound_model) : sm.sizeof ≤ sm.bytes.length := by
  have hstruct := sm.struct_inside
  have hphrase := sm.phrase_inside
  unfold pal_st_sound_model.sizeof
  split_ifs with htype
  · exact hphrase htype
  · exact hstruct

theorem admitted_offset {sm : pal_st_sound_model} (h : sm.Admitted) :
    sm.sizeof ≤ sm.data_offset := by
  unfold pal_st_sound_model.Admitted at h
  unfold pal_st_sound_model.sizeof
  split_ifs at h ⊢ <;> omega

theorem field_lt (bytes : List UInt8) (p : ℕ) : field bytes p < 2 ^ 32 := by
  unfold field
  rcases hread : readLE bytes 4 p with _ | k
  · exact Nat.two_pow_pos 32
  · exact readLE_lt hread

theorem field_of_read {bytes : List UInt8} {p k : ℕ} (h : readLE bytes 4 p = some k) :
    field bytes p = k := by
  rw [field, h]
  rfl

theorem readLE_field {bytes : List UInt8} {p : ℕ} (h : p + 4 ≤ bytes.length) :
    readLE bytes 4 p = some (field bytes p) := by
  obtain ⟨k, hk⟩ := readLE_of_le h
  rw [field_of_read hk]
  exact hk

/-- **The two copies** fit an allocation exactly where the structure and the data do. -/
theorem copyInto_isSome (sm : pal_st_sound_model) (mem : List UInt8) :
    (sm.copyInto mem).isSome ↔
      sm.sizeof ≤ mem.length ∧ sm.data_offset + sm.data_size ≤ mem.length := by
  obtain ⟨hdr, hhdr⟩ := Option.isSome_iff_exists.mp (slice_isSome.mpr
    (show 0 + sm.sizeof ≤ sm.bytes.length by have := sizeof_le sm; omega))
  obtain ⟨data, hdata⟩ := Option.isSome_iff_exists.mp (slice_isSome.mpr sm.data_inside)
  have hhdrlen := length_of_slice hhdr
  have hdatalen := length_of_slice hdata
  have hread : sm.copyInto mem = (patch mem 0 hdr).bind fun mem => patch mem sm.data_offset data := by
    unfold pal_st_sound_model.copyInto
    rw [hhdr, Option.bind_some]
    refine congrArg _ (funext fun mem => ?_)
    show (slice sm.bytes (field sm.bytes 40) (field sm.bytes 36)).bind _ = _
    rw [hdata, Option.bind_some]
  rw [hread]
  rcases hfirst : patch mem 0 hdr with _ | mem'
  · have hout : ¬ 0 + hdr.length ≤ mem.length := by
      rw [← patch_isSome, hfirst]
      decide
    refine iff_of_false (by simp) ?_
    omega
  · have hin := patch_isSome.mp (Option.isSome_iff_exists.mpr ⟨mem', hfirst⟩)
    have hlen := length_of_patch hfirst
    rw [Option.bind_some, patch_isSome, hlen]
    show field sm.bytes 40 + data.length ≤ _ ↔ _ ∧ field sm.bytes 40 + field sm.bytes 36 ≤ _
    omega

/-- **The copy reads back** where the data begins behind the structure. -/
theorem copyInto_reads {sm : pal_st_sound_model} (hoffset : sm.sizeof ≤ sm.data_offset)
    {mem copy : List UInt8} (h : sm.copyInto mem = some copy) :
    slice copy 0 sm.sizeof = slice sm.bytes 0 sm.sizeof ∧
      slice copy sm.data_offset sm.data_size = slice sm.bytes sm.data_offset sm.data_size := by
  obtain ⟨hdr, hhdr, h⟩ := Option.bind_eq_some_iff.mp h
  obtain ⟨mem', hfirst, h⟩ := Option.bind_eq_some_iff.mp h
  obtain ⟨data, hdata, h⟩ := Option.bind_eq_some_iff.mp h
  have hhdrlen := length_of_slice hhdr
  have hdatalen := length_of_slice hdata
  have hstruct := slice_patch_self hfirst
  have hbehind := slice_patch_self h
  rw [hhdrlen] at hstruct
  rw [hdatalen] at hbehind
  refine ⟨?_, hbehind.trans hdata.symm⟩
  rw [slice_patch_front h (by omega), hstruct, hhdr]

/-- The copy is as large as it should be and the data has its place right behind the structure. -/
def pal_st_sound_model.Compact (sm : pal_st_sound_model) : Prop :=
  sm.data_offset = sm.sizeof ∧ sm.sizeof + sm.data_size < 2 ^ 31

theorem cached_iff (env : IntakeEnv) (st : StreamSoundTrigger) (sm : pal_st_sound_model)
    (cached : Bool) (hcached : cached = true → st.sm_config_ = some sm.bytes) :
    Cached env st sm cached ↔ ¬ sm.Admitted ∨ cached = true ∨ env.calloc = false ∨
      sm.sm_size < 0 ∨ sm.Compact := by
  unfold Cached updateSoundModel
  dsimp only
  by_cases hadm : sm.Admitted
  swap
  · rw [if_pos hadm]
    exact iff_of_true ⟨_, _, rfl, fun h => absurd h (by decide)⟩ (Or.inl hadm)
  rw [if_neg (not_not.mpr hadm)]
  rcases hc : cached with _ | _
  swap
  · exact iff_of_true ⟨_, _, rfl, fun _ => ⟨_, hcached hc, rfl, rfl⟩⟩ (Or.inr (Or.inl rfl))
  have hoffset := admitted_offset hadm
  have hsize : sm.sizeof ≤ 1296 := by
    unfold pal_st_sound_model.sizeof sizeof_pal_st_phrase_sound_model sizeof_pal_st_sound_model
    split_ifs <;> omega
  have hdata : sm.data_size < 2 ^ 32 := field_lt _ _
  simp only [Bool.false_eq_true, if_false, false_or]
  unfold callocModel
  by_cases hmem : env.calloc = true ∧ 0 ≤ sm.sm_size
  swap
  · rw [if_neg hmem]
    refine iff_of_true ⟨_, _, rfl, fun h => absurd h (by decide)⟩ ?_
    rcases hcalloc : env.calloc with _ | _
    · exact Or.inr (Or.inl rfl)
    · have hneg : sm.sm_size < 0 := by
        by_contra hnonneg
        exact hmem ⟨hcalloc, by omega⟩
      exact Or.inr (Or.inr (Or.inl hneg))
  rw [if_pos hmem]
  dsimp only
  obtain ⟨hcalloc, hnonneg⟩ := hmem
  -- the copy fits exactly where its size did not wrap and the data is right behind the structure
  have hfits : (sm.copyInto (List.replicate sm.sm_size.toNat 0)).isSome ↔ sm.Compact := by
    rw [copyInto_isSome, List.length_replicate]
    unfold pal_st_sound_model.Compact
    unfold pal_st_sound_model.sm_size int32 at hnonneg ⊢
    omega
  rcases hcopy : sm.copyInto (List.replicate sm.sm_size.toNat 0) with _ | copy
  · rw [hcopy] at hfits
    refine iff_of_false (by simp) ?_
    rintro (h | h | h | h)
    · exact h hadm
    · rw [hcalloc] at h
      exact Bool.noConfusion h
    · omega
    · exact absurd (hfits.mpr h) (by decide)
  · rw [hcopy] at hfits
    refine iff_of_true ⟨_, _, rfl, fun _ => ⟨copy, rfl, copyInto_reads hoffset hcopy⟩⟩ ?_
    exact Or.inr (Or.inr (Or.inr (hfits.mp rfl)))

/-! ### The models come from the data -/

/-- `parseSoundModel` reads only the data: every model it lists is a piece of it, and a failure
leaves an empty list. -/
def Parsed (alloc : ℕ → Bool) (sm : pal_st_sound_model) (first_stage_type : ℕ) : Prop :=
  ∃ m, parseSoundModel alloc sm first_stage_type = some m ∧ (m.status ≠ 0 → m.model_list = []) ∧
    ∀ model_data ∈ m.model_list, ∃ ptr,
      slice sm.payload ptr model_data.size = some model_data.data

/-- What holds of the list at each row. -/
def ParsedModel.Good (m : ParsedModel) (payload : List UInt8) : Prop :=
  (m.status ≠ 0 → m.model_list = []) ∧
    ∀ model_data ∈ m.model_list, ∃ ptr, slice payload ptr model_data.size = some model_data.data

/-- The allocation of the row's model fails. -/
def Refused (alloc : ℕ → Bool) (sm : pal_st_sound_model) (i : ℕ) : Prop :=
  ∃ big_sm, readRow sm.payload i = some big_sm ∧ big_sm.copied sm ∧
    (alloc i = false ∨ 2 ^ 31 ≤ big_sm.size)

/-- The row lies in the data and, if its model is copied, the model does. -/
def RowInside (alloc : ℕ → Bool) (sm : pal_st_sound_model) (numModels i : ℕ) : Prop :=
  ∃ big_sm, readRow sm.payload i = some big_sm ∧
    (big_sm.copied sm → ¬ Refused alloc sm i →
      big_sm.ptr numModels + big_sm.size ≤ sm.payload.length)

theorem int32_neg_iff {n : ℕ} (h : n < 2 ^ 32) : int32 n < 0 ↔ 2 ^ 31 ≤ n := by
  unfold int32
  omega

/-- **One allocation.** -/
theorem ParsedModel.add_spec {m : ParsedModel} {payload : List UInt8} (h : m.Good payload)
    (hstatus : m.status = 0) (alloc : Bool) {sm_size : ℕ} (hsize : sm_size < 2 ^ 32)
    (ptr type : ℕ) :
    ((m.add alloc payload sm_size ptr type).isSome ↔
      (alloc = false ∨ 2 ^ 31 ≤ sm_size) ∨ ptr + sm_size ≤ payload.length) ∧
    ∀ m', m.add alloc payload sm_size ptr type = some m' → m'.Good payload ∧
      (m'.status ≠ 0 ↔ alloc = false ∨ 2 ^ 31 ≤ sm_size) := by
  have hneg := or_congr_right (a := alloc = false) (int32_neg_iff hsize)
  unfold ParsedModel.add allocateSMData
  by_cases hrefused : alloc = false ∨ 2 ^ 31 ≤ sm_size
  · have hnomem : - ENOMEM ≠ 0 := by decide
    rw [if_pos (hneg.mpr hrefused)]
    refine ⟨iff_of_true rfl (Or.inl hrefused), ?_⟩
    rintro m' hm'
    obtain rfl := Option.some.inj hm'
    exact ⟨⟨fun _ => rfl, fun model_data hmem => absurd hmem (by simp)⟩,
      iff_of_true hnomem hrefused⟩
  · rw [if_neg (mt hneg.mp hrefused), or_iff_right hrefused]
    refine ⟨by rw [Option.isSome_map, Option.isSome_map]; exact slice_isSome, ?_⟩
    intro m' hm'
    obtain ⟨found, hfound, rfl⟩ := Option.map_eq_some_iff.mp hm'
    obtain ⟨data, hdata, rfl⟩ := Option.map_eq_some_iff.mp hfound
    refine ⟨⟨fun hfailed => absurd hstatus hfailed, ?_⟩,
      iff_of_false (not_not.mpr hstatus) hrefused⟩
    intro model_data hmem
    rcases List.mem_append.mp hmem with hmem | hmem
    · exact h.2 model_data hmem
    · obtain rfl := List.mem_singleton.mp hmem
      exact ⟨ptr, hdata⟩

/-- **The loop over the table** reads inside the data exactly where each row that is reached does. -/
theorem parseRows_spec (alloc : ℕ → Bool) (sm : pal_st_sound_model) (numModels n : ℕ) :
    ∀ (i : ℕ) {m : ParsedModel}, m.Good sm.payload → m.status = 0 →
      ((parseRows alloc sm numModels n i m).isSome ↔
        ∀ k < n, (∀ j < k, ¬ Refused alloc sm (i + j)) → RowInside alloc sm numModels (i + k)) ∧
      ∀ m', parseRows alloc sm numModels n i m = some m' → m'.Good sm.payload := by
  induction n with
  | zero =>
    intro i m hgood _
    refine ⟨iff_of_true rfl (by simp), ?_⟩
    rintro m' hm'
    obtain rfl := Option.some.inj hm'
    exact hgood
  | succ n ih =>
    intro i m hgood hstatus
    -- the rows from `i` on are row `i` and, where it is not refused, those behind it
    have hrows : (∀ k < n + 1, (∀ j < k, ¬ Refused alloc sm (i + j)) →
        RowInside alloc sm numModels (i + k)) ↔
          RowInside alloc sm numModels i ∧ (¬ Refused alloc sm i →
            ∀ k < n, (∀ j < k, ¬ Refused alloc sm (i + 1 + j)) →
              RowInside alloc sm numModels (i + 1 + k)) := by
      constructor
      · intro h
        refine ⟨h 0 (by omega) (by simp), fun hrow k hk hbefore => ?_⟩
        have hnext := h (k + 1) (by omega) ?_
        · rwa [Nat.add_assoc, Nat.add_comm 1 k]
        · intro j hj
          rcases j with _ | j
          · exact hrow
          · rw [← Nat.add_assoc, Nat.add_right_comm]
            exact hbefore j (by omega)
      · rintro ⟨hrow, hrest⟩ k hk hbefore
        rcases k with _ | k
        · exact hrow
        · have hnext := hrest (hbefore 0 (by omega)) k (by omega) fun j hj => ?_
          · rwa [Nat.add_assoc, Nat.add_comm 1 k] at hnext
          · have hj' := hbefore (j + 1) (by omega)
            rwa [← Nat.add_assoc, Nat.add_right_comm] at hj'
    rw [hrows]
    unfold parseRows
    rcases hread : readRow sm.payload i with _ | big_sm
    · refine ⟨iff_of_false (by simp) ?_, by simp⟩
      rintro ⟨⟨big_sm, hsome, -⟩, -⟩
      rw [hread] at hsome
      exact Option.some_ne_none _ hsome.symm
    rw [Option.bind_some]
    dsimp only
    obtain ⟨m₀, hm₀⟩ : ∃ m₀ : ParsedModel, (if big_sm.type = ST_SM_ID_SVA_F_STAGE_GMM then
        { m with first_stage_type := big_sm.versionMajor % 2 ^ 8 } else m) = m₀ := ⟨_, rfl⟩
    have hgood₀ : m₀.Good sm.payload ∧ m₀.status = 0 := by
      rw [← hm₀]
      split_ifs
      · exact ⟨hgood, hstatus⟩
      · exact ⟨hgood, hstatus⟩
    rw [hm₀]
    have hsize : big_sm.size < 2 ^ 32 := by
      obtain ⟨row, -, rfl⟩ := Option.map_eq_some_iff.mp hread
      exact field_lt row 8
    have hrefused : Refused alloc sm i ↔
        big_sm.copied sm ∧ (alloc i = false ∨ 2 ^ 31 ≤ big_sm.size) := by
      unfold Refused
      rw [hread]
      simp
    have hinside : RowInside alloc sm numModels i ↔ (big_sm.copied sm → ¬ Refused alloc sm i →
        big_sm.ptr numModels + big_sm.size ≤ sm.payload.length) := by
      unfold RowInside
      rw [hread]
      simp
    rw [hinside, hrefused]
    by_cases hcopied : big_sm.copied sm
    · rw [if_pos hcopied]
      obtain ⟨hsome, hspec⟩ := ParsedModel.add_spec hgood₀.1 hgood₀.2 (alloc i) hsize
        (big_sm.ptr numModels) big_sm.type
      rcases hadd : m₀.add (alloc i) sm.payload big_sm.size (big_sm.ptr numModels) big_sm.type
        with _ | m₁
      · rw [hadd] at hsome
        have hout := mt hsome.mpr (by decide)
        refine ⟨iff_of_false (by simp) ?_, by simp⟩
        rintro ⟨hin, -⟩
        exact hout (or_iff_not_imp_left.mpr fun hno => hin hcopied fun hyes => hno hyes.2)
      · obtain ⟨hgood₁, hstatus₁⟩ := hspec m₁ hadd
        rw [Option.bind_some]
        have hin := hsome.mp (by rw [hadd]; rfl)
        by_cases hno : alloc i = false ∨ 2 ^ 31 ≤ big_sm.size
        · rw [if_pos (hstatus₁.mpr hno)]
          refine ⟨iff_of_true rfl ⟨fun _ h => absurd ⟨hcopied, hno⟩ h,
            fun h => absurd ⟨hcopied, hno⟩ h⟩, ?_⟩
          rintro m' hm'
          obtain rfl := Option.some.inj hm'
          exact hgood₁
        · rw [if_neg (mt hstatus₁.mp hno)]
          obtain ⟨hrest, hgoodRest⟩ := ih (i + 1) hgood₁ (not_not.mp (mt hstatus₁.mp hno))
          refine ⟨?_, hgoodRest⟩
          rw [hrest]
          constructor
          · exact fun h => ⟨fun _ _ => hin.resolve_left hno, fun _ => h⟩
          · exact fun h => h.2 fun hyes => hno hyes.2
    · rw [if_neg hcopied]
      obtain ⟨hrest, hgoodRest⟩ := ih (i + 1) hgood₀.1 hgood₀.2
      refine ⟨?_, hgoodRest⟩
      rw [hrest]
      constructor
      · exact fun h => ⟨fun hyes => absurd hyes hcopied, fun _ => h⟩
      · exact fun h => h.2 fun hyes => hcopied hyes.1

theorem payload_eq (sm : pal_st_sound_model) :
    slice sm.bytes sm.data_offset sm.data_size = some sm.payload := slice_eq_some sm.data_inside

theorem payload_length (sm : pal_st_sound_model) : sm.payload.length = sm.data_size :=
  length_of_slice (payload_eq sm)

/-- The data is what it says it is: there is room for its magic number, and in a combined model for
its header, and for each row of its table and each model that is copied, as far as the memory for
them is there. -/
def pal_st_sound_model.DataInside (sm : pal_st_sound_model) (alloc : ℕ → Bool) : Prop :=
  4 ≤ sm.data_size ∧ (field sm.payload 0 = SML_GLOBAL_HEADER_MAGIC_NUMBER →
    sizeof_SML_GlobalHeaderType + 4 ≤ sm.data_size ∧
      ∀ i < field sm.payload sizeof_SML_GlobalHeaderType, (∀ j < i, ¬ Refused alloc sm j) →
        RowInside alloc sm (field sm.payload sizeof_SML_GlobalHeaderType) i)

theorem parsed_of_good {alloc : ℕ → Bool} {sm : pal_st_sound_model} {first_stage_type : ℕ}
    (h : (parseSoundModel alloc sm first_stage_type).isSome)
    (hgood : ∀ m, parseSoundModel alloc sm first_stage_type = some m → m.Good sm.payload) :
    Parsed alloc sm first_stage_type := by
  obtain ⟨m, hm⟩ := Option.isSome_iff_exists.mp h
  exact ⟨m, hm, hgood m hm⟩

theorem parsed_iff (alloc : ℕ → Bool) (sm : pal_st_sound_model) (first_stage_type : ℕ) :
    Parsed alloc sm first_stage_type ↔ sm.DataInside alloc := by
  have hlen := payload_length sm
  have hsize : sm.data_size < 2 ^ 32 := field_lt _ _
  have hstart : (ParsedModel.mk first_stage_type [] 0).Good sm.payload :=
    ⟨fun h => absurd rfl h, by simp⟩
  unfold pal_st_sound_model.DataInside
  by_cases hmagic : 4 ≤ sm.data_size
  swap
  · refine iff_of_false ?_ fun h => hmagic h.1
    rintro ⟨m, hm, -⟩
    obtain ⟨k, hk, -⟩ := Option.bind_eq_some_iff.mp hm
    have hle := le_of_readLE hk
    omega
  have hread : readLE sm.payload 4 0 = some (field sm.payload 0) := readLE_field (by omega)
  by_cases hsml : field sm.payload 0 = SML_GLOBAL_HEADER_MAGIC_NUMBER
  swap
  · have hrun : parseSoundModel alloc sm first_stage_type =
        (ParsedModel.mk first_stage_type [] 0).add (alloc 0) sm.payload sm.data_size 0
          ST_SM_ID_SVA_F_STAGE_GMM := by
      unfold parseSoundModel
      rw [hread, Option.bind_some, if_neg hsml]
    obtain ⟨hsome, hspec⟩ := ParsedModel.add_spec hstart rfl (alloc 0) hsize 0
      ST_SM_ID_SVA_F_STAGE_GMM
    refine iff_of_true (parsed_of_good ?_ ?_) ⟨hmagic, fun h => absurd h hsml⟩
    · rw [hrun, hsome]
      omega
    · intro m hm
      exact (hspec m (hrun.symm.trans hm)).1
  by_cases hheader : sizeof_SML_GlobalHeaderType + 4 ≤ sm.data_size
  swap
  · refine iff_of_false ?_ fun h => hheader (h.2 hsml).1
    rintro ⟨m, hm, -⟩
    unfold parseSoundModel at hm
    rw [hread, Option.bind_some, if_pos hsml] at hm
    obtain ⟨k, hk, -⟩ := Option.bind_eq_some_iff.mp hm
    have hle := le_of_readLE hk
    omega
  have hnum : readLE sm.payload 4 sizeof_SML_GlobalHeaderType =
      some (field sm.payload sizeof_SML_GlobalHeaderType) := readLE_field (by omega)
  obtain ⟨numModels, hnumModels⟩ : ∃ n, field sm.payload sizeof_SML_GlobalHeaderType = n := ⟨_, rfl⟩
  rw [hnumModels] at hnum ⊢
  obtain ⟨hrows, hgood⟩ := parseRows_spec alloc sm numModels numModels 0 hstart rfl
  simp only [Nat.zero_add] at hrows
  have hcond : (4 ≤ sm.data_size ∧ (field sm.payload 0 = SML_GLOBAL_HEADER_MAGIC_NUMBER →
      sizeof_SML_GlobalHeaderType + 4 ≤ sm.data_size ∧ ∀ i < numModels,
        (∀ j < i, ¬ Refused alloc sm j) → RowInside alloc sm numModels i)) ↔
          (parseRows alloc sm numModels numModels 0 ⟨first_stage_type, [], 0⟩).isSome := by
    rw [hrows]
    exact ⟨fun h => (h.2 hsml).2, fun h => ⟨hmagic, fun _ => ⟨hheader, h⟩⟩⟩
  rw [hcond]
  rcases hloop : parseRows alloc sm numModels numModels 0 ⟨first_stage_type, [], 0⟩ with _ | m
  · refine iff_of_false ?_ (by decide)
    rintro ⟨m, hm, -⟩
    unfold parseSoundModel at hm
    rw [hread, Option.bind_some, if_pos hsml, hnum, Option.bind_some, hloop] at hm
    exact Option.some_ne_none _ hm.symm
  have hgoodLoop := hgood m hloop
  refine iff_of_true ?_ rfl
  have hrun : parseSoundModel alloc sm first_stage_type =
      if m.status ≠ 0 then some m
      else if m.first_stage_type = ST_MODULE_TYPE_MMA then
        m.add (alloc numModels) sm.payload 4 (sm.data_size - 4) ST_SM_ID_SVA_F_STAGE_GMM
      else some m := by
    unfold parseSoundModel
    rw [hread, Option.bind_some, if_pos hsml, hnum, Option.bind_some, hloop, Option.bind_some]
  by_cases hstatus : m.status ≠ 0
  · rw [if_pos hstatus] at hrun
    exact ⟨m, hrun, hgoodLoop⟩
  rw [if_neg hstatus] at hrun
  by_cases hmma : m.first_stage_type = ST_MODULE_TYPE_MMA
  · rw [if_pos hmma] at hrun
    -- the last four bytes are there, since the header was
    obtain ⟨hsome, hspec⟩ := ParsedModel.add_spec hgoodLoop (not_not.mp hstatus) (alloc numModels)
      (show 4 < 2 ^ 32 by decide) (sm.data_size - 4) ST_SM_ID_SVA_F_STAGE_GMM
    refine parsed_of_good ?_ fun m' hm' => (hspec m' (hrun.symm.trans hm')).1
    rw [hrun, hsome]
    omega
  · rw [if_neg hmma] at hrun
    exact ⟨m, hrun, hgoodLoop⟩

/-! ### Intake -/

/-- **Intake.** The copy of a sound model and its models are right exactly where the data begins right
behind the structure, the size of both is an `int32_t`, and the table in the data leads nowhere else;
a model that is refused, or whose memory is not there, is not copied. -/
theorem soundModel_intake_iff (env : IntakeEnv) (st : StreamSoundTrigger) (sm : pal_st_sound_model)
    (cached : Bool) (hcached : cached = true → st.sm_config_ = some sm.bytes) (alloc : ℕ → Bool)
    (first_stage_type : ℕ) :
    Cached env st sm cached ∧ (sm.Admitted → Parsed alloc sm first_stage_type) ↔
      (¬ sm.Admitted ∨ cached = true ∨ env.calloc = false ∨ sm.sm_size < 0 ∨ sm.Compact) ∧
        (sm.Admitted → sm.DataInside alloc) := by
  rw [cached_iff env st sm cached hcached, parsed_iff]

/-- A generic sound model: the fields of its structure, and what follows it. -/
def genericBytes (data_size data_offset : ℕ) (behind : List UInt8) : List UInt8 :=
  toBytes 4 PAL_SOUND_MODEL_TYPE_GENERIC ++ List.replicate 32 0 ++ toBytes 4 data_size ++
    toBytes 4 data_offset ++ List.replicate 4 0 ++ behind

/-- Four bytes of data, eight bytes behind the structure. -/
def gapModel : pal_st_sound_model :=
  ⟨genericBytes 4 56 (List.replicate 12 7), by decide, by decide, by decide⟩

/-- Data that is no more than the magic number. -/
def magicModel : pal_st_sound_model :=
  ⟨genericBytes 4 48 (toBytes 4 SML_GLOBAL_HEADER_MAGIC_NUMBER), by decide, by decide, by decide⟩

/-- A row of the table of models, with the minor version 0. -/
def rowBytes (versionMajor offset size type : ℕ) : List UInt8 :=
  toBytes 2 versionMajor ++ toBytes 2 0 ++ toBytes 4 offset ++ toBytes 4 size ++ toBytes 4 type

/-- A combined model: one of the first stage, one of the second stage, and one that is not copied and
is not in the data. -/
def combinedBytes : List UInt8 :=
  toBytes 4 SML_GLOBAL_HEADER_MAGIC_NUMBER ++ List.replicate 8 0 ++ toBytes 4 3 ++
    List.replicate 408 0 ++ rowBytes 3 0 4 ST_SM_ID_SVA_F_STAGE_GMM ++
    rowBytes 1 4 8 ST_SM_ID_SVA_S_STAGE_KWD ++ rowBytes 1 500 8 SML_ID_SVA_S_STAGE_UBM ++
    List.replicate 4 7 ++ List.replicate 8 9

def combinedModel : pal_st_sound_model :=
  ⟨genericBytes 484 48 combinedBytes, by decide +kernel, by decide +kernel, by decide +kernel⟩

/-- Data with a gap in front of it is copied behind the allocation, and a header that is cut off is
read behind the data. -/
theorem soundModel_intake_outside :
    (gapModel.Admitted ∧ updateSoundModel ⟨true, true⟩ ⟨0, none, 0, false⟩ (some gapModel) false =
      none ∧ ¬ Cached ⟨true, true⟩ ⟨0, none, 0, false⟩ gapModel false) ∧
    magicModel.Admitted ∧ parseSoundModel (fun _ => true) magicModel 3 = none ∧
      ¬ Parsed (fun _ => true) magicModel 3 := by
  have hcopy : updateSoundModel ⟨true, true⟩ ⟨0, none, 0, false⟩ (some gapModel) false = none := by
    decide
  have hparse : parseSoundModel (fun _ => true) magicModel 3 = none := by decide
  refine ⟨⟨by decide, hcopy, ?_⟩, by decide, hparse, ?_⟩
  · rintro ⟨st', status, hrun, -⟩
    rw [hcopy] at hrun
    exact Option.some_ne_none _ hrun.symm
  · rintro ⟨m, hrun, -⟩
    rw [hparse] at hrun
    exact Option.some_ne_none _ hrun.symm

theorem combinedModel_inside : combinedModel.DataInside fun _ => true := by
  have hnum : field combinedModel.payload sizeof_SML_GlobalHeaderType = 3 := by decide +kernel
  refine ⟨by decide +kernel, fun _ => ⟨by decide +kernel, fun i hi _ => ?_⟩⟩
  rw [hnum] at hi ⊢
  obtain rfl | rfl | rfl : i = 0 ∨ i = 1 ∨ i = 2 := by omega
  · exact ⟨⟨3, 0, 0, 4, ST_SM_ID_SVA_F_STAGE_GMM⟩, by decide +kernel, fun _ _ => by decide +kernel⟩
  · exact ⟨⟨1, 0, 4, 8, ST_SM_ID_SVA_S_STAGE_KWD⟩, by decide +kernel, fun _ _ => by decide +kernel⟩
  · refine ⟨⟨1, 0, 500, 8, SML_ID_SVA_S_STAGE_UBM⟩, by decide +kernel, fun hcopied => ?_⟩
    exact absurd hcopied (by decide +kernel)

/-- Two of the three models are listed. -/
theorem soundModel_intake_combined :
    Cached ⟨true, true⟩ ⟨0, none, 0, false⟩ combinedModel false ∧
      (combinedModel.Admitted → Parsed (fun _ => true) combinedModel 3) ∧
      (parseSoundModel (fun _ => true) combinedModel 3).map (fun m =>
        m.model_list.map fun model_data => (model_data.type, model_data.data)) =
          some [(ST_SM_ID_SVA_F_STAGE_GMM, List.replicate 4 7),
            (ST_SM_ID_SVA_S_STAGE_KWD, List.replicate 8 9)] := by
  obtain ⟨hcached, hparsed⟩ :=
    (soundModel_intake_iff ⟨true, true⟩ ⟨0, none, 0, false⟩ combinedModel false (by decide)
      (fun _ => true) 3).mpr
        ⟨Or.inr (Or.inr (Or.inr (Or.inr ⟨by decide +kernel, by decide +kernel⟩))),
          fun _ => combinedModel_inside⟩
  exact ⟨hcached, hparsed, by decide +kernel⟩

end AudioReachPal.Sva
