import AudioReachPal.Sva.Names

/-!
# The merged sound model

A GMM engine runs one sound model for all its streams, the model in `sound_model_info_`.
`SVAInterface::AddSoundModel` merges the model of a stream into it and `deleteSoundModel` takes its
keyphrases out again. Which streams have a model is told by the model data that is kept for each of
them: adding sets it, deleting leaves it, and `detachStream` drops it with the stream.

The sound model library is taken as exact: a model is a set of keyphrases without users, merging is
the union, deleting takes out one keyphrase, and neither fails. The memory is there.
-/

namespace AudioReachPal.Sva

def PAL_SOUND_TRIGGER_MAX_USERS : ℕ := 10

/-! ### The sound model library -/

/-- `SoundModelLib` over models that are sets of keyphrases. The sizes are what the checks of the
interface expect: a model with more keyphrases is larger. -/
structure SoundModelLib (M : Type) where
  GetKeywordPhrases_ : M → List String
  size : M → ℕ
  MergeModels_ : M → M → M
  DeleteFromModel_ : M → String → M
  mem_merge : ∀ m m' kw, kw ∈ GetKeywordPhrases_ (MergeModels_ m m') ↔
    kw ∈ GetKeywordPhrases_ m ∨ kw ∈ GetKeywordPhrases_ m'
  mem_delete : ∀ m kw' kw, kw ∈ GetKeywordPhrases_ (DeleteFromModel_ m kw') ↔
    kw ∈ GetKeywordPhrases_ m ∧ kw ≠ kw'
  size_le : ∀ m m', GetKeywordPhrases_ m ⊆ GetKeywordPhrases_ m' → size m ≤ size m'
  size_lt : ∀ m m', GetKeywordPhrases_ m ⊆ GetKeywordPhrases_ m' →
    ¬ GetKeywordPhrases_ m' ⊆ GetKeywordPhrases_ m → size m < size m'

variable {M : Type} (sml : SoundModelLib M)

/-! ### The info of a model -/

namespace SoundModelInfo

/-- The constructor. -/
def new : SoundModelInfo M where
  sm_data_ := none
  sm_size_ := 0
  keyphrases_ := []
  users_ := []
  cf_levels_kw_users_ := []
  cf_levels_ := []
  det_cf_levels_ := []
  cf_levels_size_ := 0

def setModelData (info : SoundModelInfo M) (data : M) (size : ℕ) : SoundModelInfo M :=
  { info with
    sm_data_ := if size = 0 then none else some data
    sm_size_ := size }

def updateConfLevel (info : SoundModelInfo M) (index conf_level : ℕ) : SoundModelInfo M :=
  if index < info.cf_levels_size_ then
    { info with cf_levels_ := info.cf_levels_.set index conf_level }
  else info

end SoundModelInfo

/-- `querySoundModel`: a model without users has no pairs. -/
def querySoundModel (sm_info : SoundModelInfo M) (data : M) : Option (SoundModelInfo M × ℤ) :=
  let keyphrases_ := sml.GetKeywordPhrases_ data
  if keyphrases_.length = 0 then some (sm_info, - EINVAL)
  else
    { sm_info with keyphrases_, users_ := [] }.setConfLevels ⟨true, true⟩ ⟨0, none, fun _ _ => 0⟩

/-- `mergeSoundModels` of two models, with the size of the result; `none` is `-EINVAL`. -/
def mergeSoundModels (in_model in_model' : M) : Option (M × ℕ) :=
  let out_model := sml.MergeModels_ in_model in_model'
  if sml.size out_model = 0 then none else some (out_model, sml.size out_model)

/-- The loop of `deleteFromMergedModel`, where `merge_model` is what is left of `in_model`. -/
def deleteKeyphrases (in_model : M) : List String → (merge_model : M) → Option M
  | [], merge_model => some merge_model
  | kw :: keyphrases, merge_model =>
    let out_model := sml.DeleteFromModel_ merge_model kw
    if sml.size in_model ≤ sml.size out_model then none
    else deleteKeyphrases in_model keyphrases out_model

/-- `deleteFromMergedModel`. No keyphrases leave no model, which the query behind it refuses. -/
def deleteFromMergedModel (keyphrases : List String) (in_model : M) : Option M :=
  if keyphrases = [] then none else deleteKeyphrases sml in_model keyphrases in_model

/-- What `calloc` leaves of a `sound_model_info`. -/
def sound_model_info.zero : sound_model_info M where
  type := .PAL_SOUND_MODEL_TYPE_KEYPHRASE
  recognition_mode := 0
  model_id := 0
  model_list := []
  model_phrases := 0
  rec_config := none
  wakeup_config := none
  wakeup_config_size := 0
  conf_levels_intf_version := 0
  buf_config := ⟨0, 0⟩
  sec_threshold := []
  sec_det_level := []
  sec_kw_det_info := ⟨0, 0, 0, 0, 0, 0⟩
  sec_uv_det_info := ⟨0, 0, 0, 0, 0, 0⟩
  det_prop_list := []
  det_result := 0
  info := none
  state := false
  ftrt_data_ := none
  ftrt_data_size_ := 0

namespace SVAInterface

variable (I : SVAInterface M)

/-! ### Confidence levels -/

/-- The loops of `updateMergeConfLevelsPayload` over the entries of the stream and of the engine. -/
def mergeLevels (src_sm_info : SoundModelInfo M) (set : Bool) (eng : SoundModelInfo M) :
    SoundModelInfo M :=
  ((src_sm_info.cf_levels_kw_users_.zip src_sm_info.cf_levels_).take
      src_sm_info.cf_levels_size_).foldl
    (fun eng (name, level) => (eng.cf_levels_kw_users_.zipIdx.take eng.cf_levels_size_).foldl
      (fun eng (engName, j) =>
        if engName = name then eng.updateConfLevel j (if set then level else MAX_CONF_LEVEL_VALUE)
        else eng) eng) eng

def updateMergeConfLevelsPayload (src_sm_info : SoundModelInfo M) (set : Bool) :
    SVAInterface M × ℤ :=
  if !I.sm_merged_ then
    ({ I with
      sound_model_info_ :=
        if set then src_sm_info
        else (List.range src_sm_info.cf_levels_size_).foldl
          (fun eng i => eng.updateConfLevel i MAX_CONF_LEVEL_VALUE) src_sm_info }, 0)
  else if src_sm_info.cf_levels_size_ > I.sound_model_info_.cf_levels_size_ then (I, - EINVAL)
  else ({ I with sound_model_info_ := mergeLevels src_sm_info set I.sound_model_info_ }, 0)

/-- The loop of `updateMergeConfLevelsWithActiveStreams`. -/
def updateActive : List (StreamId × sound_model_info M) → SVAInterface M → SVAInterface M × ℤ
  | [], I => (I, 0)
  | (_, i) :: streams, I =>
    if i.state then
      match i.info with
      | none => (I, - EINVAL)
      | some info =>
        match I.updateMergeConfLevelsPayload info true with
        | (I, status) => if status ≠ 0 then (I, status) else updateActive streams I
    else updateActive streams I

def updateMergeConfLevelsWithActiveStreams : SVAInterface M × ℤ :=
  updateActive I.sm_info_map_.toList I

/-! ### Streams -/

/-- `getSoundModelInfo` of a stream. -/
def getSoundModelInfo (s : StreamId) : Option (SoundModelInfo M) :=
  I.sm_info_map_[s]?.bind (·.info)

/-- What is changed through the pointer that `getSoundModelInfo` gives. -/
def setModelInfo (s : StreamId) (info : SoundModelInfo M) : SVAInterface M :=
  { I with sm_info_map_ := I.sm_info_map_.modify s fun i => { i with info := some info } }

/-- `registerModel` of a GMM interface. -/
def registerModel (s : StreamId) (type : pal_st_sound_model_type_t)
    (model_list : List (sound_model_data_t M)) : SVAInterface M :=
  let i := I.sm_info_map_[s]?.getD sound_model_info.zero
  I.setInfo s { i with info := some .new, model_list, type }

def deregisterModel (s : StreamId) : SVAInterface M :=
  { I with
    sm_info_map_ := I.sm_info_map_.erase s
    origin_hist_buf_duration_ := fun t => if t = s then 0 else I.origin_hist_buf_duration_ t }

/-- `detachStream`, as far as the interface goes: one without streams is also dropped from the map
of interfaces. -/
def detachStream (s : StreamId) : SVAInterface M := I.deregisterModel s

/-- The other streams that have model data, in the order of the map. -/
def othersWithModel (s : StreamId) : List (StreamId × SoundModelInfo M) :=
  I.sm_info_map_.toList.filterMap fun (t, i) =>
    if t = s then none else (i.info.filter (·.sm_data_.isSome)).map fun info => (t, info)

/-! ### The engine model -/

/-- `addSoundModel`. A stream without an info is undefined, and so is a merged model without data. -/
def addSoundModel (s : StreamId) (data : M) : Option (SVAInterface M × ℤ) :=
  (I.getSoundModelInfo s).bind fun info =>
    if info.sm_data_.isSome then some (I, 0)
    else (querySoundModel sml info data).bind fun (info, status) =>
      if status ≠ 0 then some (I.setModelInfo s info, status)
      else
        let info := info.setModelData data (sml.size data)
        let I := I.setModelInfo s info
        let num_models := (I.othersWithModel s).length
        if num_models = 0 then
          some ({ I with sound_model_info_ := info, sm_merged_ := false }, 0)
        else
          match I.sound_model_info_.sm_data_ with
          | none => if num_models = 1 ∨ I.sm_merged_ = false then some (I, - EINVAL) else none
          | some in_model =>
            match mergeSoundModels sml in_model data with
            | none => some (I, - EINVAL)
            | some (out_model, out_model_sz) =>
              let sm_info := SoundModelInfo.new.setModelData out_model out_model_sz
              (querySoundModel sml sm_info out_model).map fun (sm_info, status) =>
                if status ≠ 0 then (I, status)
                else if out_model_sz < I.sound_model_info_.sm_size_ then (I, - EINVAL)
                else
                  { I with sound_model_info_ := sm_info, sm_merged_ := true
                    }.updateMergeConfLevelsWithActiveStreams

/-- What `deleteSoundModel` makes of the wakeup config where one stream is left; more levels than
the config has are written behind it. -/
def reuseWakeupConfig (sound_model_info_ : SoundModelInfo M) :
    Option detection_engine_config_voice_wakeup :=
  if sound_model_info_.cf_levels_size_ ≤ PAL_SOUND_TRIGGER_MAX_USERS then
    let confidence_levels :=
      sound_model_info_.cf_levels_.take sound_model_info_.cf_levels_size_
    some { I.wakeup_config_ with
      num_active_models := sound_model_info_.cf_levels_size_
      confidence_levels
      keyword_user_enables := confidence_levels.map fun level => if level = 100 then 0 else 1 }
  else none

/-- `deleteSoundModel`, where the keyphrases of the stream are deleted from a merged model. -/
def deleteMerged (keyphrases : List String) (in_model : M) : Option (SVAInterface M × ℤ) :=
  match deleteFromMergedModel sml keyphrases in_model with
  | none => some (I, - EINVAL)
  | some out_model =>
    let sm_info := SoundModelInfo.new.setModelData out_model (sml.size out_model)
    (querySoundModel sml sm_info out_model).map fun (sm_info, status) =>
      if status ≠ 0 then (I, status)
      else if sml.size out_model > I.sound_model_info_.sm_size_ then (I, - EINVAL)
      else
        { I with sound_model_info_ := sm_info, sm_merged_ := true
          }.updateMergeConfLevelsWithActiveStreams

/-- `deleteSoundModel`. Without a merged model there is nothing to delete from, which is logged and
no error. -/
def deleteSoundModel (s : StreamId) : Option (SVAInterface M × ℤ) :=
  (I.getSoundModelInfo s).bind fun info =>
    if info.sm_data_.isNone then some (I, 0)
    else
      match I.othersWithModel s with
      | [] => some (I, 0)
      | [(_, rem_st)] =>
        (I.reuseWakeupConfig rem_st).map fun wakeup_config_ =>
          ({ I with sound_model_info_ := rem_st, wakeup_config_, sm_merged_ := false }, 0)
      | _ :: _ :: _ =>
        match I.sm_merged_, I.sound_model_info_.sm_data_ with
        | true, some in_model => I.deleteMerged sml info.keyphrases_ in_model
        | _, _ => some (I, 0)

/-- `updateEngineModel`, where data is a model to add. -/
def updateEngineModel (s : StreamId) (data : Option M) : Option (SVAInterface M × ℤ) :=
  match data with
  | some data => I.addSoundModel sml s data
  | none => I.deleteSoundModel sml s

/-- `SetParameter` with `PARAM_FSTAGE_SOUND_MODEL_ADD` or `PARAM_FSTAGE_SOUND_MODEL_DELETE`. -/
def setEngineModel (s : StreamId) (data : Option M) : Option (SVAInterface M × ℤ) :=
  if I.module_type_ = .ST_MODULE_TYPE_GMM then I.updateEngineModel sml s data else some (I, 0)

end SVAInterface

end AudioReachPal.Sva
