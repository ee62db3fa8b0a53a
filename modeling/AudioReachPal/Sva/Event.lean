import AudioReachPal.Sva.Defs
import AudioReachPal.Lib.Tlv

/-!
# Building a detection event

`generateCallbackEvent` and what it calls, as the records they write into the opaque data of the
event. Sizes and records come from different functions: `getExtendedPayloadSize` and the formulas in
`generateCallbackEvent` give the size, `packDetectionOpaqueData` and `fillExtendedDetectionPayload`
write. A record's offset is that of the write pointer from the start of the opaque data.
-/

namespace AudioReachPal.Sva

open AudioReachPal.Lib

/-! ### Keys and sizes -/

def ST_PARAM_KEY_CONFIDENCE_LEVELS : ℕ := 0x0
def ST_PARAM_KEY_KEYWORD_INDICES : ℕ := 0x2
def ST_PARAM_KEY_TIMESTAMP : ℕ := 0x3
def ST_PARAM_KEY_MMA_DETECTION_RESULT : ℕ := 0x9
def ST_PARAM_KEY_MMAP_READ_INDEX : ℕ := 0xD
def ST_PARAM_KEY_KEYWORD_BUFFER : ℕ := 0x10001
def ST_PARAM_KEY_SSTAGE_KW_ENGINE_INFO : ℕ := 0x10002
def ST_PARAM_KEY_SSTAGE_UV_ENGINE_INFO : ℕ := 0x10003
def ST_PARAM_KEY_IS_BARGEIN : ℕ := 0x10004

/-! The structures are packed: a size is the sum of the sizes of the fields. -/

def sizeof_st_param_header : ℕ := 4 + 4
def sizeof_st_user_levels : ℕ := 4 + 1
def sizeof_st_keyword_levels : ℕ := 1 + 4 + ST_MAX_USERS * sizeof_st_user_levels
def sizeof_st_sound_model_conf_levels : ℕ := 4 + 4 + ST_MAX_KEYWORDS * sizeof_st_keyword_levels
def sizeof_st_confidence_levels_info : ℕ :=
  4 + 4 + ST_MAX_SOUND_MODELS * sizeof_st_sound_model_conf_levels
def sizeof_st_user_levels_v2 : ℕ := 4 + 4
def sizeof_st_keyword_levels_v2 : ℕ := 4 + 4 + ST_MAX_USERS * sizeof_st_user_levels_v2
def sizeof_st_sound_model_conf_levels_v2 : ℕ :=
  4 + 4 + ST_MAX_KEYWORDS * sizeof_st_keyword_levels_v2
def sizeof_st_confidence_levels_info_v2 : ℕ :=
  4 + 4 + ST_MAX_SOUND_MODELS * sizeof_st_sound_model_conf_levels_v2
def sizeof_st_keyword_indices_info : ℕ := 4 + 4 + 4
def sizeof_st_timestamp_info : ℕ := 4 + 8 + 8
def sizeof_st_det_perf_mode_info : ℕ := 4 + 4
def sizeof_st_det_engine_stats : ℕ := 4 + 4 + 4 + 4 + 4 + 4
def sizeof_st_mmap_index_info : ℕ := 4 + 4
def sizeof_tiuv_detection_result : ℕ := 4 + 4

/-- The size of the confidence levels of `version`. -/
def confLevelsSize (version : ℕ) : ℕ :=
  if version ≠ CONF_LEVELS_INTF_VERSION_0002 then sizeof_st_confidence_levels_info
  else sizeof_st_confidence_levels_info_v2

/-- What the platform decides: the sizes of structures that other headers declare or that the
compiler pads, whether the event can be allocated, and the byte behind the detection levels. -/
structure EventEnv where
  sizeof_event_id_mma_detection_event_t : ℕ
  sizeof_pal_st_phrase_recognition_event : ℕ
  sizeof_pal_st_generic_recognition_event : ℕ
  calloc : Bool
  past_det_cf_levels : ℕ

/-! ### What is written -/

inductive Payload where
  | conf_levels (c : st_confidence_levels_info)
  | keyword_indices (version start_index end_index : ℕ)
  | timestamp (version first_stage_det_event_time : ℕ)
  | mma_event (bytes : List ℕ)
  | mmap_index (start_position bytes_to_read : ℕ)
  | keyword_buffer (data : List UInt8)
  | engine_stats (stats : st_det_engine_stats)
  | perf_mode (version mode : ℕ)
  deriving DecidableEq, Repr

/-- A record of the opaque data. -/
abbrev Record := Tlv ℕ Payload

/-- `pal_st_recognition_event`, with the phrases of a `pal_st_phrase_recognition_event` and the
records of the opaque data. -/
structure pal_st_recognition_event where
  status : ℕ
  type : pal_st_sound_model_type_t
  capture_available : Bool
  media_config : pal_media_config
  data_size : ℕ
  data_offset : ℕ
  phrase_extras : List pal_st_phrase_recognition_extra
  opaque_data : List Record
  deriving DecidableEq, Repr

/-! ### Extended payload -/

namespace SVAInterface

variable {M : Type}

/-- `setDetectionPropList`: the properties are added to those the stream already has, less those
of a second stage that its model lacks. -/
def setDetectionPropList (I : SVAInterface M) (s : StreamId) (prop_list : List ℕ) :
    SVAInterface M × ℤ :=
  match I.sm_info_map_[s]? with
  | none => (I, - EINVAL)
  | some sm_info =>
    let is_kw_model_exist :=
      sm_info.model_list.any fun model_data => hasBits model_data.type ST_SM_ID_SVA_S_STAGE_KWD
    let is_uv_model_exist :=
      sm_info.model_list.any fun model_data => hasBits model_data.type ST_SM_ID_SVA_S_STAGE_USER
    let skipped prop :=
      (prop == ST_PARAM_KEY_SSTAGE_KW_ENGINE_INFO && !is_kw_model_exist) ||
        (prop == ST_PARAM_KEY_SSTAGE_UV_ENGINE_INFO && !is_uv_model_exist)
    (I.setInfo s { sm_info with
      det_prop_list := sm_info.det_prop_list ++ prop_list.filter fun prop => !skipped prop }, 0)

/-- `updateFtrtData`; `realloc` says whether the memory is there. A `realloc` that fails loses
the data and keeps its size. -/
def updateFtrtData (I : SVAInterface M) (realloc : Bool) (s : StreamId) (data : List UInt8) :
    SVAInterface M :=
  if data.length = 0 then I
  else match I.sm_info_map_[s]? with
    | none => I
    | some sm_info =>
      if realloc then
        I.setInfo s { sm_info with ftrt_data_ := some data, ftrt_data_size_ := data.length }
      else I.setInfo s { sm_info with ftrt_data_ := none }

end SVAInterface

variable {M : Type}

/-- What one property adds to the size in `getExtendedPayloadSize`. -/
def sound_model_info.propSize (sm_info : sound_model_info M) (prop : ℕ) : ℕ :=
  if prop = ST_PARAM_KEY_KEYWORD_BUFFER then
    if sm_info.ftrt_data_size_ ≠ 0 then sizeof_st_param_header + sm_info.ftrt_data_size_ else 0
  else if prop = ST_PARAM_KEY_SSTAGE_KW_ENGINE_INFO ∨ prop = ST_PARAM_KEY_SSTAGE_UV_ENGINE_INFO then
    sizeof_st_param_header + sizeof_st_det_engine_stats
  else if prop = ST_PARAM_KEY_IS_BARGEIN then
    sizeof_st_param_header + sizeof_st_det_perf_mode_info
  else 0

/-- What the fill loop leaves: the stream's info, its records, and the write pointer. -/
structure Filled (M : Type) where
  sm_info : sound_model_info M
  records : List Record
  ptr : ℕ

/-- Writes a record with a payload of `payload_size` bytes at the write pointer. -/
def Filled.put (f : Filled M) (key_id payload_size : ℕ) (payload : Payload) : Filled M :=
  { f with
    records := f.records ++ [⟨f.ptr, key_id, payload_size, payload⟩]
    ptr := f.ptr + (sizeof_st_param_header + payload_size) }

/-- What `fillExtendedDetectionPayload` does for one property. -/
def Filled.prop (perf_mode_ : Bool) (f : Filled M) (prop : ℕ) : Filled M :=
  if prop = ST_PARAM_KEY_KEYWORD_BUFFER then
    match f.sm_info.ftrt_data_ with
    | none => f
    | some ftrt_data_ =>
      let f :=
        if f.sm_info.ftrt_data_size_ ≠ 0 then
          f.put ST_PARAM_KEY_KEYWORD_BUFFER f.sm_info.ftrt_data_size_
            (.keyword_buffer (ftrt_data_.take f.sm_info.ftrt_data_size_))
        else f
      -- the buffer is freed once it is written
      { f with sm_info := { f.sm_info with ftrt_data_ := none, ftrt_data_size_ := 0 } }
  else if prop = ST_PARAM_KEY_SSTAGE_KW_ENGINE_INFO then
    f.put prop sizeof_st_det_engine_stats (.engine_stats f.sm_info.sec_kw_det_info)
  else if prop = ST_PARAM_KEY_SSTAGE_UV_ENGINE_INFO then
    f.put prop sizeof_st_det_engine_stats (.engine_stats f.sm_info.sec_uv_det_info)
  else if prop = ST_PARAM_KEY_IS_BARGEIN then
    f.put prop sizeof_st_det_perf_mode_info (.perf_mode 0x1 perf_mode_.toNat)
  else f

namespace SVAInterface

def getExtendedPayloadSize (I : SVAInterface M) (s : StreamId) : ℕ :=
  match I.sm_info_map_[s]? with
  | none => 0
  | some sm_info =>
    sm_info.det_prop_list.foldl (fun size prop => word32 (size + sm_info.propSize prop)) 0

/-- `fillExtendedDetectionPayload`, with the write pointer at `data`: the records and where they
end. -/
def fillExtendedDetectionPayload (I : SVAInterface M) (s : StreamId) (data size : ℕ) :
    SVAInterface M × List Record × ℕ :=
  if size = 0 then (I, [], data)
  else match I.sm_info_map_[s]? with
    | none => (I, [], data)
    | some sm_info =>
      let f := sm_info.det_prop_list.foldl (Filled.prop I.perf_mode_) ⟨sm_info, [], data⟩
      (I.setInfo s f.sm_info, f.records, f.ptr)

end SVAInterface

/-! ### Confidence levels of an event -/

def st_keyword_levels.ids (kw : st_keyword_levels) : st_keyword_levels :=
  { kw_level := 0
    num_user_levels := kw.num_user_levels
    user_levels := kw.user_levels.mapIdx fun k user =>
      if k < kw.num_user_levels then ⟨user.user_id, 0⟩ else .zero }

def st_sound_model_conf_levels.ids (sm : st_sound_model_conf_levels) :
    st_sound_model_conf_levels :=
  { sm_id := sm.sm_id
    num_kw_levels := sm.num_kw_levels
    kw_levels := sm.kw_levels.mapIdx fun j kw => if j < sm.num_kw_levels then kw.ids else .zero }

/-- What the loops of `initCallbackConfLevels` copy: the ids and the counts, as far as the counts
reach. -/
def st_confidence_levels_info.ids (c : st_confidence_levels_info) : st_confidence_levels_info :=
  { version := 0
    num_sound_models := c.num_sound_models
    conf_levels := c.conf_levels.mapIdx fun i sm =>
      if i < c.num_sound_models then sm.ids else .zero }

/-- The models in use. -/
def st_confidence_levels_info.used (c : st_confidence_levels_info) :
    List st_sound_model_conf_levels :=
  c.conf_levels.toList.take c.num_sound_models

/-- A loop over the models in use that changes each of them. -/
def st_confidence_levels_info.updateModels (c : st_confidence_levels_info)
    (f : st_sound_model_conf_levels → st_sound_model_conf_levels) : st_confidence_levels_info :=
  { c with conf_levels := c.conf_levels.mapIdx fun i sm => if i < c.num_sound_models then f sm else sm }

/-- `kw_levels[0].kw_level` and `kw_levels[0].user_levels[0].level` of a second stage model. -/
def st_sound_model_conf_levels.setFirst (sm : st_sound_model_conf_levels) (kw_level level : ℤ) :
    st_sound_model_conf_levels :=
  { sm with
    kw_levels := sm.kw_levels.mapIdx fun j kw =>
      if j = 0 then
        { kw with
          kw_level
          user_levels := kw.user_levels.mapIdx fun k user =>
            if k = 0 then { user with level } else user }
      else kw }

/-- `info->GetDetConfLevels()[j]`, behind the check `j <= info->GetConfLevelsSize()`, which lets
one index past the array through. -/
def SoundModelInfo.detLevel (info : SoundModelInfo M) (past j : ℕ) : Option ℕ :=
  if j ≤ info.cf_levels_size_ then some (info.det_cf_levels_[j]?.getD past) else none

/-- The branch of `packEventConfLevels` for the first stage. -/
def st_sound_model_conf_levels.packFirstStage (sm : st_sound_model_conf_levels) (version past : ℕ)
    (info : SoundModelInfo M) : st_sound_model_conf_levels :=
  { sm with
    kw_levels := sm.kw_levels.mapIdx fun j kw =>
      if j < sm.num_kw_levels then
        { kw with
          kw_level :=
            match info.detLevel past j with
            | some level => storedLevel version level
            | none => kw.kw_level
          user_levels := kw.user_levels.mapIdx fun k user =>
            if k < kw.num_user_levels then
              match info.detLevel past user.user_id with
              | some level => { user with level := storedLevel version level }
              | none => user
            else user }
      else kw }

/-- The branch of `packEventConfLevels` for the second stage. The two versions compare the type of
a user level with different things. -/
def st_sound_model_conf_levels.packSecondStage (sm : st_sound_model_conf_levels) (version : ℕ)
    (sec_det_level : List (ℕ × ℤ)) : st_sound_model_conf_levels :=
  sec_det_level.foldl
    (fun sm (type, level) =>
      if hasBits sm.sm_id ST_SM_ID_SVA_S_STAGE_KWD && hasBits type ST_SM_ID_SVA_S_STAGE_KWD then
        sm.setFirst (storedLevel version level) 0
      else if hasBits sm.sm_id ST_SM_ID_SVA_S_STAGE_USER &&
          type == (if version ≠ CONF_LEVELS_INTF_VERSION_0002 then sm.sm_id
            else ST_SM_ID_SVA_S_STAGE_USER) then
        sm.setFirst (storedLevel version level) (storedLevel version level)
      else sm) sm

/-- The branches of `fillCallbackConfLevels` for the second stage. -/
def st_sound_model_conf_levels.fillSecondStage (sm : st_sound_model_conf_levels) (version : ℕ)
    (sec_det_level : List (ℕ × ℤ)) : st_sound_model_conf_levels :=
  if hasBits sm.sm_id ST_SM_ID_SVA_S_STAGE_KWD then
    sec_det_level.foldl
      (fun sm (type, level) =>
        if hasBits type ST_SM_ID_SVA_S_STAGE_KWD then sm.setFirst (storedLevel version level) 0
        else sm) sm
  else if hasBits sm.sm_id ST_SM_ID_SVA_S_STAGE_USER then
    sec_det_level.foldl
      (fun sm (type, level) =>
        if hasBits type ST_SM_ID_SVA_S_STAGE_USER then
          sm.setFirst (storedLevel version level) (storedLevel version level)
        else sm) sm
  else sm

/-- `kw_levels[det_keyword_id]` of a first stage model. -/
def st_sound_model_conf_levels.setDetected (sm : st_sound_model_conf_levels)
    (det_keyword_id : ℕ) (kw_level : ℤ) : st_sound_model_conf_levels :=
  { sm with
    kw_levels := sm.kw_levels.mapIdx fun j kw =>
      if j = det_keyword_id then
        { kw with
          kw_level
          user_levels := kw.user_levels.mapIdx fun k user =>
            if k = 0 then { user with level := 0 } else user }
      else kw }

namespace SVAInterface

/-- `initCallbackConfLevels`: the cached levels without the levels, or zeros where none are
cached. The loops run as far as the cached counts say. -/
def initCallbackConfLevels (I : SVAInterface M) (version : ℕ) : Option st_confidence_levels_info :=
  match I.template version with
  | none => some .zero
  | some st_conf_levels_ => if st_conf_levels_.Fits then some st_conf_levels_.ids else none

end SVAInterface

/-- The first stage models in use that have keywords: the ones for which `packEventConfLevels`
reads the detection levels. -/
def st_confidence_levels_info.readsDetLevels (c : st_confidence_levels_info) : Bool :=
  c.used.any fun sm => sm.sm_id == ST_SM_ID_SVA_F_STAGE_GMM && sm.num_kw_levels != 0

/-- `packEventConfLevels`: the levels of a GMM detection. -/
def packEventConfLevels (past : ℕ) (sm_info : sound_model_info M)
    (opaque_data : st_confidence_levels_info) : Option st_confidence_levels_info :=
  let version := sm_info.conf_levels_intf_version
  match sm_info.info with
  | none =>
    if opaque_data.readsDetLevels then none
    else some (opaque_data.updateModels fun sm =>
      if sm.sm_id = ST_SM_ID_SVA_F_STAGE_GMM then sm
      else sm.packSecondStage version sm_info.sec_det_level)
  | some info =>
    if opaque_data.readsDetLevels && info.det_cf_levels_.isEmpty then none
    else some (opaque_data.updateModels fun sm =>
      if sm.sm_id = ST_SM_ID_SVA_F_STAGE_GMM then sm.packFirstStage version past info
      else sm.packSecondStage version sm_info.sec_det_level)

/-- `fillCallbackConfLevels`: the levels of a PDK detection. The keyword id is the DSP's. -/
def fillCallbackConfLevels (sm_info : sound_model_info M) (opaque_data : st_confidence_levels_info)
    (det_keyword_id best_conf_level : ℕ) : Option st_confidence_levels_info :=
  let version := sm_info.conf_levels_intf_version
  if opaque_data.used.any (fun sm => sm.sm_id == ST_SM_ID_SVA_F_STAGE_GMM) &&
      ST_MAX_KEYWORDS ≤ det_keyword_id then none
  else some (opaque_data.updateModels fun sm =>
    if sm.sm_id = ST_SM_ID_SVA_F_STAGE_GMM then
      sm.setDetected det_keyword_id (storedLevel version best_conf_level)
    else sm.fillSecondStage version sm_info.sec_det_level)

/-! ### The event -/

/-- The statistics of the stream's model in a PDK detection: the loop over the detected models
stops at the first with its id. -/
def detection_event_info_pdk.find (det_ev_info : detection_event_info_pdk) (model_id : ℕ) :
    List ℕ → Option (Option model_stats)
  | [] => some none
  | i :: is =>
    match det_ev_info.detected_model_stats[i]? with
    | none => none
    | some det_model_stat =>
      if det_model_stat.detected_model_id = model_id then some (some det_model_stat)
      else det_ev_info.find model_id is

/-- The confidence levels of the event and the time of the detection, in the part of
`packDetectionOpaqueData` that follows `initCallbackConfLevels`. -/
def packConfLevels (env : EventEnv) (sm_info : sound_model_info M) (info : DetectionInfo)
    (opaque_data : st_confidence_levels_info) : Option (st_confidence_levels_info × ℕ × ℕ) :=
  if 0 < sm_info.model_id then
    match info with
    | .pdk_event_info_ det_ev_info =>
      (det_ev_info.find sm_info.model_id (List.range det_ev_info.num_detected_models)).bind
        fun det_model_stat =>
          let stat := det_model_stat.getD ⟨0, 0, 0, 0, 0⟩
          (fillCallbackConfLevels sm_info opaque_data stat.detected_keyword_id
            stat.best_confidence_level).map fun c =>
              (c, stat.detection_timestamp_lsw, stat.detection_timestamp_msw)
    | _ => none
  else
    match info with
    | .event_info_ det_ev_info =>
      (packEventConfLevels env.past_det_cf_levels sm_info opaque_data).map fun c =>
        (c, det_ev_info.detection_timestamp_lsw, det_ev_info.detection_timestamp_msw)
    | _ => none

/-- What `generateCallbackEvent` returns, with the interface after it; `size` is `none` where the
caller's size is left as it was. -/
structure EventOut (M : Type) where
  intf : SVAInterface M
  status : ℤ
  event : Option pal_st_recognition_event
  size : Option ℕ

namespace SVAInterface

/-- The records of `packDetectionOpaqueData` for a GMM or a PDK detection, whose levels and time
are packed. -/
def packRecords (I : SVAInterface M) (s : StreamId) (sm_info : sound_model_info M)
    (det_event : detection_event) (ext_payload_size : ℕ) :
    st_confidence_levels_info × ℕ × ℕ → SVAInterface M × ℤ × List Record
  | (conf_levels, lsw, msw) =>
    let size := confLevelsSize sm_info.conf_levels_intf_version
    let kw_at := sizeof_st_param_header + size
    let time_at := kw_at + (sizeof_st_param_header + sizeof_st_keyword_indices_info)
    let ext_at := time_at + (sizeof_st_param_header + sizeof_st_timestamp_info)
    let captured := sm_info.rec_config.any fun config => config.capture_requested
    let offset := if captured && I.origin_hist_buf_duration_ s == 0 then det_event.end_index_ else 0
    let J := { I with readOffsets_ := fun t => if t = s then offset else I.readOffsets_ t }
    let filled := J.fillExtendedDetectionPayload s ext_at ext_payload_size
    (filled.1, 0,
      ⟨0, ST_PARAM_KEY_CONFIDENCE_LEVELS, size, .conf_levels conf_levels⟩ ::
      ⟨kw_at, ST_PARAM_KEY_KEYWORD_INDICES, sizeof_st_keyword_indices_info,
        .keyword_indices 0x1 det_event.start_index_ det_event.end_index_⟩ ::
      ⟨time_at, ST_PARAM_KEY_TIMESTAMP, sizeof_st_timestamp_info,
        .timestamp 0x1 (size64 (1000 * (lsw + msw * 2 ^ 32)))⟩ :: filled.2.1)

/-- `packDetectionOpaqueData`, with the write pointer at the start of the opaque data. -/
def packDetectionOpaqueData (env : EventEnv) (I : SVAInterface M) (s : StreamId)
    (ext_payload_size : ℕ) : Option (SVAInterface M × ℤ × List Record) :=
  if I.module_type_ = .ST_MODULE_TYPE_MMA then
    match I.det_event_info_ s with
    | none => some (I, - EINVAL, [])
    | some { info := .mma_event_info_ det_ev_info_mma, .. } =>
      let size := env.sizeof_event_id_mma_detection_event_t
      let result : Record :=
        ⟨0, ST_PARAM_KEY_MMA_DETECTION_RESULT, size, .mma_event det_ev_info_mma⟩
      let filled :=
        I.fillExtendedDetectionPayload s (sizeof_st_param_header + size) ext_payload_size
      some (filled.1, 0, result :: filled.2.1)
    | some _ => none
  else if I.module_type_ = .ST_MODULE_TYPE_HIST_CAP then
    some (I, 0, [⟨0, ST_PARAM_KEY_MMAP_READ_INDEX, sizeof_st_mmap_index_info,
      .mmap_index I.start_position_ I.bytes_to_read_⟩])
  else
    match I.sm_info_map_[s]?, I.det_event_info_ s with
    | none, _ => none
    | some _, none => some (I, - EINVAL, [])
    | some sm_info, some det_event =>
      ((I.initCallbackConfLevels sm_info.conf_levels_intf_version).bind
        (packConfLevels env sm_info det_event.info)).map
          (I.packRecords s sm_info det_event ext_payload_size)

/-- The opaque size of a keyphrase event, as `generateCallbackEvent` computes it. -/
def keyphraseSize (env : EventEnv) (I : SVAInterface M) (version ext_payload_size : ℕ) : ℕ :=
  if I.module_type_ ≠ .ST_MODULE_TYPE_MMA then
    3 * sizeof_st_param_header + sizeof_st_timestamp_info + sizeof_st_keyword_indices_info +
      confLevelsSize version + ext_payload_size
  else
    2 * sizeof_st_param_header + env.sizeof_event_id_mma_detection_event_t +
      sizeof_tiuv_detection_result + ext_payload_size

/-- The extended and the opaque size of a generic event, as `generateCallbackEvent` computes them. -/
def genericSize (env : EventEnv) (I : SVAInterface M) (s : StreamId) : ℕ × ℕ :=
  if I.module_type_ = .ST_MODULE_TYPE_MMA then
    let ext_payload_size := I.getExtendedPayloadSize s
    (ext_payload_size, sizeof_st_param_header + env.sizeof_event_id_mma_detection_event_t +
      ext_payload_size)
  else if I.module_type_ = .ST_MODULE_TYPE_HIST_CAP then
    (0, sizeof_st_param_header + sizeof_st_mmap_index_info)
  else (0, 0)

/-- The event of a keyphrase model. -/
def keyphraseEvent (env : EventEnv) (I : SVAInterface M) (sm_info : sound_model_info M)
    (rec_config : pal_st_recognition_config) (opaque_size : ℕ) (records : List Record) :
    pal_st_recognition_event :=
  { status := sm_info.det_result
    type := sm_info.type
    capture_available := rec_config.capture_requested
    media_config := I.in_media_config
    data_size := word32 opaque_size
    data_offset := env.sizeof_pal_st_phrase_recognition_event
    phrase_extras := rec_config.phrases
    opaque_data := records }

/-- The event of a generic model. -/
def genericEvent (env : EventEnv) (I : SVAInterface M) (sm_info : sound_model_info M)
    (rec_config : pal_st_recognition_config) (opaque_size : ℕ) (records : List Record) :
    pal_st_recognition_event :=
  { status := 0
    type := sm_info.type
    capture_available := rec_config.capture_requested
    media_config := I.in_media_config
    data_size := word32 opaque_size
    data_offset := env.sizeof_pal_st_generic_recognition_event
    phrase_extras := []
    opaque_data := records }

/-- `generateCallbackEvent` -/
def generateCallbackEvent (env : EventEnv) (I : SVAInterface M) (s : StreamId) :
    Option (EventOut M) :=
  match I.sm_info_map_[s]? with
  | none => some ⟨I, - EINVAL, none, none⟩
  | some sm_info =>
    match sm_info.type with
    | .PAL_SOUND_MODEL_TYPE_KEYPHRASE =>
      let ext_payload_size := I.getExtendedPayloadSize s
      let opaque_size := I.keyphraseSize env sm_info.conf_levels_intf_version ext_payload_size
      let event_size := env.sizeof_pal_st_phrase_recognition_event + opaque_size
      if !env.calloc then some ⟨I, - ENOMEM, none, none⟩
      else match sm_info.rec_config with
        | none => some ⟨I, - EINVAL, none, none⟩
        | some rec_config =>
          (I.packDetectionOpaqueData env s ext_payload_size).map fun packed =>
            ⟨packed.1, packed.2.1,
              some (I.keyphraseEvent env sm_info rec_config opaque_size packed.2.2),
              some (word32 event_size)⟩
    | .PAL_SOUND_MODEL_TYPE_GENERIC =>
      let ext_payload_size := (I.genericSize env s).1
      let opaque_size := (I.genericSize env s).2
      let event_size := env.sizeof_pal_st_generic_recognition_event + opaque_size
      if !env.calloc then some ⟨I, - ENOMEM, none, none⟩
      else match sm_info.rec_config with
        | none => none
        | some rec_config =>
          (if opaque_size ≠ 0 then I.packDetectionOpaqueData env s ext_payload_size
            else some (I, 0, [])).map fun packed =>
            ⟨packed.1, packed.2.1,
              some (I.genericEvent env sm_info rec_config opaque_size packed.2.2),
              some (word32 event_size)⟩
    | .PAL_SOUND_MODEL_TYPE_UNKNOWN => some ⟨I, 0, none, some 0⟩

end SVAInterface

end AudioReachPal.Sva
