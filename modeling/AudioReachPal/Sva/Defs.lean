import AudioReachPal.Types
import AudioReachPal.Lib.MachineInt
import Std.Data.TreeMap

/-!
# The sound model interface

The data of `SVAInterface`: what it knows of each stream that is registered with it, the engine's
own model, the confidence levels it caches for detection events, and the last detection of each
stream. Arrays have the source's size and a count beside them that says how much of one is in use;
nothing ties the two, and what would follow a count out of its array is undefined, which is the
`none` of the functions that do. `M` is the type of the sound model data, which only the sound
model library looks into.
-/

namespace AudioReachPal.Sva

/-! ### Sound models -/

inductive pal_st_sound_model_type_t where
  | PAL_SOUND_MODEL_TYPE_UNKNOWN
  | PAL_SOUND_MODEL_TYPE_KEYPHRASE
  | PAL_SOUND_MODEL_TYPE_GENERIC
  deriving DecidableEq, Repr

/-! `listen_model_indicator_enum` is a set of bits. -/

def ST_SM_ID_SVA_F_STAGE_GMM : ℕ := 0x0001
def ST_SM_ID_SVA_S_STAGE_USER : ℕ := 0x0004
def ST_SM_ID_SVA_S_STAGE_KWD : ℕ := 0x004A

/-- `type & bits` as a condition. -/
def hasBits (type bits : ℕ) : Bool := type &&& bits != 0

/-- `sound_model_data_t`: the part of a sound model that one stage loads. -/
structure sound_model_data_t (M : Type) where
  type : ℕ
  data : M
  size : ℕ
  deriving DecidableEq, Repr

def MAX_CONF_LEVEL_VALUE : ℕ := 100
def ST_MAX_FSTAGE_CONF_LEVEL : ℤ := 100

/-! ### Confidence levels -/

def ST_MAX_SOUND_MODELS : ℕ := 10
def ST_MAX_KEYWORDS : ℕ := 10
def ST_MAX_USERS : ℕ := 10

def CONF_LEVELS_INTF_VERSION_0002 : ℕ := 0x02

/-! The structures of the two versions differ only in the width of a level. -/

structure st_user_levels where
  user_id : ℕ
  level : ℤ
  deriving DecidableEq, Repr

structure st_keyword_levels where
  kw_level : ℤ
  num_user_levels : ℕ
  user_levels : Vector st_user_levels ST_MAX_USERS
  deriving DecidableEq, Repr

structure st_sound_model_conf_levels where
  sm_id : ℕ
  num_kw_levels : ℕ
  kw_levels : Vector st_keyword_levels ST_MAX_KEYWORDS
  deriving DecidableEq, Repr

structure st_confidence_levels_info where
  version : ℕ
  num_sound_models : ℕ
  conf_levels : Vector st_sound_model_conf_levels ST_MAX_SOUND_MODELS
  deriving DecidableEq, Repr

/-- A level as the structure of `version` stores it: `uint8_t`, or `int32_t` from version 2 on. -/
def storedLevel (version : ℕ) (level : ℤ) : ℤ :=
  if version ≠ CONF_LEVELS_INTF_VERSION_0002 then level % 2 ^ 8 else Lib.int32 level

/-! What `memset` to zero leaves. -/

def st_user_levels.zero : st_user_levels := ⟨0, 0⟩

def st_keyword_levels.zero : st_keyword_levels := ⟨0, 0, Vector.replicate _ .zero⟩

def st_sound_model_conf_levels.zero : st_sound_model_conf_levels :=
  ⟨0, 0, Vector.replicate _ .zero⟩

def st_confidence_levels_info.zero : st_confidence_levels_info :=
  ⟨0, 0, Vector.replicate _ .zero⟩

/-- The counts stay inside their arrays, for the models and the keywords that are in use. -/
def st_sound_model_conf_levels.Fits (sm : st_sound_model_conf_levels) : Prop :=
  sm.num_kw_levels ≤ ST_MAX_KEYWORDS ∧
    ∀ kw ∈ sm.kw_levels.toList.take sm.num_kw_levels, kw.num_user_levels ≤ ST_MAX_USERS

instance (sm : st_sound_model_conf_levels) : Decidable sm.Fits :=
  inferInstanceAs (Decidable (_ ∧ _))

def st_confidence_levels_info.Fits (c : st_confidence_levels_info) : Prop :=
  c.num_sound_models ≤ ST_MAX_SOUND_MODELS ∧
    ∀ sm ∈ c.conf_levels.toList.take c.num_sound_models, sm.Fits

instance (c : st_confidence_levels_info) : Decidable c.Fits :=
  inferInstanceAs (Decidable (_ ∧ _))

/-! ### Recognition configs -/

structure pal_st_confidence_level where
  user_id : ℕ
  level : ℕ
  deriving DecidableEq, Repr

/-- `pal_st_phrase_recognition_extra`; the level array as far as `num_levels` reaches. -/
structure pal_st_phrase_recognition_extra where
  id : ℕ
  confidence_level : ℕ
  levels : List pal_st_confidence_level
  deriving DecidableEq, Repr

/-- `pal_st_recognition_config`; the opaque data is the `data_size` bytes at `data_offset`. -/
structure pal_st_recognition_config where
  capture_requested : Bool
  phrases : List pal_st_phrase_recognition_extra
  data_size : ℕ
  opaqueData : List UInt8
  data_size_eq : opaqueData.length = data_size
  data_size_lt : data_size < 2 ^ 32
  deriving DecidableEq, Repr

structure buffer_config where
  hist_buffer_duration : ℕ
  pre_roll_duration : ℕ
  deriving DecidableEq, Repr

/-! ### Detections -/

/-- `detection_event_info`: a GMM detection. -/
structure detection_event_info where
  num_confidence_levels : ℕ
  confidence_levels : Vector ℕ 20
  detection_timestamp_lsw : ℕ
  detection_timestamp_msw : ℕ
  deriving DecidableEq, Repr

structure model_stats where
  detected_model_id : ℕ
  detected_keyword_id : ℕ
  best_confidence_level : ℕ
  detection_timestamp_lsw : ℕ
  detection_timestamp_msw : ℕ
  deriving DecidableEq, Repr

def MAX_MODELS_SUPPORTED : ℕ := 8

/-- `detection_event_info_pdk`: a PDK detection. -/
structure detection_event_info_pdk where
  num_detected_models : ℕ
  detected_model_stats : Vector model_stats MAX_MODELS_SUPPORTED
  deriving DecidableEq, Repr

/-- The union in `detection_event`, as the member that was written last. -/
inductive DetectionInfo where
  | event_info_ (info : detection_event_info)
  | pdk_event_info_ (info : detection_event_info_pdk)
  | mma_event_info_ (info : List ℕ)
  deriving DecidableEq, Repr

structure detection_event where
  info : DetectionInfo
  start_index_ : ℕ
  end_index_ : ℕ
  deriving DecidableEq, Repr

structure st_det_engine_stats where
  version : ℕ
  detection_state : ℤ
  processed_length : ℕ
  total_process_duration : ℕ
  total_capi_process_duration : ℕ
  total_capi_get_param_duration : ℕ
  deriving DecidableEq, Repr

/-! ### The interface -/

/-- `SoundModelInfo`: the data of a model with the names and the levels of its entries, the
keyphrases first and then the pairs of a user and a keyphrase. -/
structure SoundModelInfo (M : Type) where
  sm_data_ : Option M
  sm_size_ : ℕ
  keyphrases_ : List String
  users_ : List String
  cf_levels_kw_users_ : List String
  cf_levels_ : List ℕ
  det_cf_levels_ : List ℕ
  cf_levels_size_ : ℕ
  deriving DecidableEq, Repr

/-- `sound_model_info`: what the interface keeps for one stream. -/
structure sound_model_info (M : Type) where
  type : pal_st_sound_model_type_t
  recognition_mode : ℕ
  model_id : ℕ
  model_list : List (sound_model_data_t M)
  model_phrases : ℕ
  rec_config : Option pal_st_recognition_config
  wakeup_config : Option (List ℕ)
  wakeup_config_size : ℕ
  conf_levels_intf_version : ℕ
  buf_config : buffer_config
  sec_threshold : List (ℕ × ℤ)
  sec_det_level : List (ℕ × ℤ)
  sec_kw_det_info : st_det_engine_stats
  sec_uv_det_info : st_det_engine_stats
  det_prop_list : List ℕ
  det_result : ℕ
  info : Option (SoundModelInfo M)
  state : Bool
  ftrt_data_ : Option (List UInt8)
  ftrt_data_size_ : ℕ
  deriving DecidableEq, Repr

/-- `detection_engine_config_voice_wakeup`, the arrays as far as `num_active_models` reaches. -/
structure detection_engine_config_voice_wakeup where
  mode : ℕ
  num_active_models : ℕ
  confidence_levels : List ℕ
  keyword_user_enables : List ℕ
  deriving DecidableEq, Repr

structure pal_media_config where
  sample_rate : ℕ
  bit_width : ℕ
  channels : ℕ
  deriving DecidableEq, Repr

/-- The state of an `SVAInterface`. -/
structure SVAInterface (M : Type) where
  module_type_ : st_module_type_t
  sm_info_map_ : Std.TreeMap StreamId (sound_model_info M)
  in_media_config : pal_media_config
  sound_model_info_ : SoundModelInfo M
  perf_mode_ : Bool
  st_conf_levels_ : Option st_confidence_levels_info
  st_conf_levels_v2_ : Option st_confidence_levels_info
  default_buf_config_ : buffer_config
  wakeup_config_ : detection_engine_config_voice_wakeup
  tiuv_threshold_config_ : List ℕ
  hist_cap_mode_config_ : List ℕ
  start_position_ : ℕ
  bytes_to_read_ : ℕ
  sm_merged_ : Bool
  det_event_info_ : StreamId → Option detection_event
  readOffsets_ : StreamId → ℕ
  origin_hist_buf_duration_ : StreamId → ℕ

namespace SVAInterface

variable {M : Type}

/-- `sm_info_map_[s]->… = …` for a stream that is registered. -/
def setInfo (I : SVAInterface M) (s : StreamId) (i : sound_model_info M) : SVAInterface M :=
  { I with sm_info_map_ := I.sm_info_map_.insert s i }

/-- The template of the levels that `initCallbackConfLevels` copies for `version`. -/
def template (I : SVAInterface M) (version : ℕ) : Option st_confidence_levels_info :=
  if version ≠ CONF_LEVELS_INTF_VERSION_0002 then I.st_conf_levels_ else I.st_conf_levels_v2_

@[simp] theorem setInfo_getElem?_self (I : SVAInterface M) (s : StreamId)
    (i : sound_model_info M) : (I.setInfo s i).sm_info_map_[s]? = some i := by
  simp [setInfo]

theorem setInfo_getElem?_of_ne (I : SVAInterface M) {s o : StreamId} (h : o ≠ s)
    (i : sound_model_info M) : (I.setInfo o i).sm_info_map_[s]? = I.sm_info_map_[s]? := by
  simp [setInfo, Std.TreeMap.getElem?_insert, h]

@[simp] theorem template_setInfo (I : SVAInterface M) (s : StreamId) (i : sound_model_info M)
    (version : ℕ) : (I.setInfo s i).template version = I.template version := rfl

end SVAInterface

end AudioReachPal.Sva
