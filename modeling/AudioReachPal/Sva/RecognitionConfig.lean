import AudioReachPal.Sva.ConfLevels
import AudioReachPal.Sva.Event
import AudioReachPal.Sva.SoundModel
import AudioReachPal.Lib.Walk

/-!
# Parsing a recognition config

`parseRecognitionConfig` walks over the parameters in the opaque data of a config and stores what they
say. The durations and the levels for the engine are collected and stored at the end; the thresholds
of the second stage and the templates of the levels are stored as a parameter is met, and a failure
frees the templates. `none` is a read outside the opaque data or outside an array in it.
-/

namespace AudioReachPal.Sva

open AudioReachPal.Lib

/-! ### Parameters -/

def ST_PARAM_KEY_HISTORY_BUFFER_CONFIG : ℕ := 0x1
def ST_PARAM_KEY_DETECTION_PERF_MODE : ℕ := 0x4
def ST_PARAM_KEY_MMA_THRESHOLD_CONFIG : ℕ := 0x8
def ST_PARAM_KEY_TIUV_THRESHOLD_CONFIG : ℕ := 0xA
def ST_PARAM_KEY_HIST_CAPTURE_MODE : ℕ := 0xC

def sizeof_st_hist_buffer_info : ℕ := 4 + 4 + 4
def sizeof_tiuv_threshold_config : ℕ := 18 * 4

def CUSTOM_CONFIG_OPAQUE_DATA_SIZE : ℕ := 12

/-- `st_param_header` -/
def st_param_header : RecordHeader := ⟨sizeof_st_param_header, 0, 4, by decide, by decide⟩

/-- What is outside. Allocations are told apart by the payload and the sound model they are made for;
the history buffer mode is declared by the DSP's headers; and the log of a performance mode takes it
for the address of a string, which is `log_mode` where that reads no memory. -/
structure ConfigEnv where
  realloc : (ptr : ℕ) → Bool
  calloc : (ptr : ℕ) → Bool
  opaqueLevels : (ptr i : ℕ) → Callocs
  phraseLevels : Callocs
  sizeof_param_id_history_buffer_mode_t : ℕ
  log_mode : (mode : ℕ) → Bool

/-! ### Levels in memory -/

/-- The level at `p`, as wide as in `version`. -/
def levelAt (version : ℕ) (bytes : List UInt8) (p : ℕ) : ℤ :=
  if version ≠ CONF_LEVELS_INTF_VERSION_0002 then ((readLE bytes 1 p).getD 0 : ℕ)
  else int32 (field bytes p)

def levelSize (version : ℕ) : ℕ := if version ≠ CONF_LEVELS_INTF_VERSION_0002 then 1 else 4

def userLevelsSize (version : ℕ) : ℕ :=
  if version ≠ CONF_LEVELS_INTF_VERSION_0002 then sizeof_st_user_levels
  else sizeof_st_user_levels_v2

def keywordLevelsSize (version : ℕ) : ℕ :=
  if version ≠ CONF_LEVELS_INTF_VERSION_0002 then sizeof_st_keyword_levels
  else sizeof_st_keyword_levels_v2

def soundModelLevelsSize (version : ℕ) : ℕ :=
  if version ≠ CONF_LEVELS_INTF_VERSION_0002 then sizeof_st_sound_model_conf_levels
  else sizeof_st_sound_model_conf_levels_v2

def st_user_levels.read (version : ℕ) (bytes : List UInt8) (p : ℕ) : st_user_levels where
  user_id := field bytes p
  level := levelAt version bytes (p + 4)

def st_keyword_levels.read (version : ℕ) (bytes : List UInt8) (p : ℕ) : st_keyword_levels where
  kw_level := levelAt version bytes p
  num_user_levels := field bytes (p + levelSize version)
  user_levels := Vector.ofFn fun j =>
    .read version bytes (p + levelSize version + 4 + j * userLevelsSize version)

def st_sound_model_conf_levels.read (version : ℕ) (bytes : List UInt8) (p : ℕ) :
    st_sound_model_conf_levels where
  sm_id := field bytes p
  num_kw_levels := field bytes (p + 4)
  kw_levels := Vector.ofFn fun i => .read version bytes (p + 8 + i * keywordLevelsSize version)

/-- The levels in a payload of `version`. -/
def st_confidence_levels_info.read (version : ℕ) (payload : List UInt8) :
    st_confidence_levels_info where
  version := field payload 0
  num_sound_models := field payload 4
  conf_levels := Vector.ofFn fun i => .read version payload (8 + i * soundModelLevelsSize version)

/-! ### Levels of the sound models -/

/-- What the loop over the sound models changes. -/
structure OpaqueLevels where
  sec_threshold : List (ℕ × ℤ)
  out : ConfLevelsOut
  gmm_conf_found : Bool
  status : ℤ

instance : NeZero ST_MAX_KEYWORDS := ⟨by decide⟩

instance : NeZero ST_MAX_USERS := ⟨by decide⟩

/-- The threshold of a second stage model: the level of `kw_levels[0]`, or of its `user_levels[0]`. -/
def st_sound_model_conf_levels.threshold (sm : st_sound_model_conf_levels) : Option (ℕ × ℤ) :=
  if sm.sm_id = ST_SM_ID_SVA_F_STAGE_GMM then none
  else if hasBits sm.sm_id ST_SM_ID_SVA_S_STAGE_KWD then
    some (ST_SM_ID_SVA_S_STAGE_KWD, sm.kw_levels.head.kw_level)
  else if hasBits sm.sm_id ST_SM_ID_SVA_S_STAGE_USER then
    some (ST_SM_ID_SVA_S_STAGE_USER, sm.kw_levels.head.user_levels.head.level)
  else none

/-- One round of the loop. A later first stage model overwrites the status of the one before. -/
def OpaqueLevels.visit (mem : Callocs) (model_id version : ℕ) (sm : st_sound_model_conf_levels)
    (o : OpaqueLevels) : Option OpaqueLevels :=
  if sm.sm_id = ST_SM_ID_SVA_F_STAGE_GMM then
    (fillOpaqueConfLevels mem model_id (some sm) version o.out).map fun (out, status) =>
      { o with gmm_conf_found := true, out := out, status := status }
  else some { o with sec_threshold := o.sec_threshold ++ sm.threshold.toList }

/-- The loop over the sound models in use, whose number nothing bounds. -/
def st_confidence_levels_info.visitModels (c : st_confidence_levels_info) (mem : ℕ → Callocs)
    (model_id version : ℕ) (o : OpaqueLevels) : Option OpaqueLevels :=
  (List.range c.num_sound_models).foldlM
    (fun o i => c.conf_levels[i]?.bind fun sm => o.visit (mem i) model_id version sm) o

/-! ### The parser -/

/-- The interface, the information of the stream and the local variables of the parser. -/
structure Parsing (M : Type) where
  I : SVAInterface M
  sm_info : sound_model_info M
  hist_buffer_duration : ℕ
  pre_roll_duration : ℕ
  out : ConfLevelsOut

namespace Parsing

variable {M : Type}

/-- `st_conf_levels_` or `st_conf_levels_v2_` is replaced. -/
def cache (st : Parsing M) (version : ℕ) (conf_levels : Option st_confidence_levels_info) :
    Parsing M :=
  if version ≠ CONF_LEVELS_INTF_VERSION_0002 then
    { st with I := { st.I with st_conf_levels_ := conf_levels } }
  else { st with I := { st.I with st_conf_levels_v2_ := conf_levels } }

/-- `parseOpaqueConfLevels` for the payload at `ptr`; a `realloc` that fails loses the template. -/
def parseOpaqueConfLevels (env : ConfigEnv) (data : List UInt8) (ptr version : ℕ)
    (st : Parsing M) : Option (Parsing M × ℤ) :=
  if env.realloc ptr then
    (slice data ptr (confLevelsSize version)).bind fun payload =>
      let conf_levels := st_confidence_levels_info.read version payload
      let st := st.cache version (some conf_levels)
      (conf_levels.visitModels (env.opaqueLevels ptr) st.sm_info.model_id version
        ⟨st.sm_info.sec_threshold, st.out, false, 0⟩).map fun o =>
          ({ st with sm_info := { st.sm_info with sec_threshold := o.sec_threshold }, out := o.out },
            if o.gmm_conf_found = false ∨ o.status ≠ 0 then - EINVAL else 0)
  else some (st.cache version none, - ENOMEM)

/-- The `switch` over the key of a parameter, whose payload is at `ptr` behind its header. -/
def parseParam (env : ConfigEnv) (data : List UInt8) (st : Parsing M) (key_id ptr : ℕ) :
    Option (Visit (Parsing M) (Parsing M × ℤ)) :=
  let payload_size := field data (ptr - 4)
  if key_id = ST_PARAM_KEY_CONFIDENCE_LEVELS then
    (readLE data 4 ptr).bind fun version =>
      let st := { st with sm_info := { st.sm_info with conf_levels_intf_version := version } }
      if payload_size ≠ confLevelsSize version then some (.fail (st, - EINVAL))
      else (st.parseOpaqueConfLevels env data ptr version).map fun (st, status) =>
        if status ≠ 0 then .fail (st, status) else .next st
  else if key_id = ST_PARAM_KEY_HISTORY_BUFFER_CONFIG then
    if payload_size ≠ sizeof_st_hist_buffer_info then some (.fail (st, - EINVAL))
    else (readLE data 4 (ptr + 4)).bind fun hist_buffer_duration =>
      (readLE data 4 (ptr + 8)).map fun pre_roll_duration =>
        .next { st with
          hist_buffer_duration := hist_buffer_duration
          pre_roll_duration := pre_roll_duration }
  else if key_id = ST_PARAM_KEY_DETECTION_PERF_MODE then
    if payload_size ≠ sizeof_st_det_perf_mode_info then some (.fail (st, - EINVAL))
    else (readLE data 4 (ptr + 4)).bind fun mode =>
      if env.log_mode mode then some (.next st) else none
  else if key_id = ST_PARAM_KEY_MMA_THRESHOLD_CONFIG then
    if env.calloc ptr then
      (slice data ptr payload_size).map fun payload =>
        .next { st with out := ⟨some (payload.map UInt8.toNat), payload_size⟩ }
    else some (.fail ({ st with out := { st.out with conf_levels := none } }, - ENOMEM))
  else if key_id = ST_PARAM_KEY_TIUV_THRESHOLD_CONFIG then
    if payload_size ≠ sizeof_tiuv_threshold_config then some (.fail (st, - EINVAL))
    else (slice data ptr payload_size).map fun payload =>
      .next { st with I := { st.I with tiuv_threshold_config_ := payload.map UInt8.toNat } }
  else if key_id = ST_PARAM_KEY_HIST_CAPTURE_MODE then
    if payload_size ≠ env.sizeof_param_id_history_buffer_mode_t then some (.fail (st, - EINVAL))
    else (slice data ptr payload_size).map fun payload =>
      .next { st with I := { st.I with hist_cap_mode_config_ := payload.map UInt8.toNat } }
  else some (.fail (st, - EINVAL))

/-- The end of the function where all was parsed. -/
def finish (st : Parsing M) (s : StreamId) : SVAInterface M :=
  let default_buf_config_ := st.I.default_buf_config_
  { st.I.setInfo s { st.sm_info with
      buf_config :=
        { hist_buffer_duration :=
            if st.hist_buffer_duration = 0 then default_buf_config_.hist_buffer_duration
            else st.hist_buffer_duration
          pre_roll_duration :=
            if st.pre_roll_duration = 0 then default_buf_config_.pre_roll_duration
            else st.pre_roll_duration }
      wakeup_config := st.out.conf_levels
      wakeup_config_size := st.out.num_conf_levels } with
    origin_hist_buf_duration_ :=
      Function.update st.I.origin_hist_buf_duration_ s st.hist_buffer_duration }

/-- `error_exit` -/
def errorExit (st : Parsing M) (s : StreamId) : SVAInterface M :=
  { st.I.setInfo s st.sm_info with st_conf_levels_ := none, st_conf_levels_v2_ := none }

/-- What a walk over the parameters ends with. -/
def exit (s : StreamId) : Except (Parsing M × ℤ) (Parsing M) → SVAInterface M × ℤ
  | .ok st => (st.finish s, 0)
  | .error (st, status) => (st.errorExit s, status)

end Parsing

namespace SVAInterface

variable {M : Type}

/-- `parseRecognitionConfig`. A parameter takes at least the bytes of its header, so that the walk
has ended after as many parameters as there are bytes. -/
def parseRecognitionConfig (I : SVAInterface M) (env : ConfigEnv) (s : StreamId)
    (config : Option pal_st_recognition_config) : Option (SVAInterface M × ℤ) :=
  match I.sm_info_map_[s]? with
  | none => some (I, - EINVAL)
  | some sm_info =>
    let sm_info := { sm_info with rec_config := config }
    match config with
    | none => some (I.setInfo s sm_info, - EINVAL)
    | some config =>
      let st : Parsing M := ⟨I, sm_info, 0, 0, ⟨none, 0⟩⟩
      if config.data_size > CUSTOM_CONFIG_OPAQUE_DATA_SIZE then
        (walk st_param_header config.opaqueData (Parsing.parseParam env config.opaqueData)
          (config.data_size + 1) st 0 0).map (Parsing.exit s)
      else if sm_info.type = .PAL_SOUND_MODEL_TYPE_KEYPHRASE then
        let (out, status) := fillConfLevels env.phraseLevels sm_info.model_id
          (some sm_info.model_phrases) (some config.phrases) st.out
        let st := { st with out := out }
        if status ≠ 0 then some (st.errorExit s, status) else some (st.finish s, 0)
      else some (st.finish s, 0)

end SVAInterface

/-! ### What the levels of a parameter ask for -/

theorem fillOpaqueConfLevels_isSome (mem : Callocs) (model_id : ℕ) (sm : st_sound_model_conf_levels)
    (version : ℕ) (out : ConfLevelsOut) :
    (fillOpaqueConfLevels mem model_id (some sm) version out).isSome ↔
      (checkLevels badLevel (sm.keywords version)).isSome := by
  unfold fillOpaqueConfLevels
  dsimp only
  rw [Option.isSome_map]

/-- The status does not depend on the caller's variables. -/
theorem fillOpaqueConfLevels_status (mem : Callocs) (model_id : ℕ) (sm : st_sound_model_conf_levels)
    (version : ℕ) (out out' : ConfLevelsOut) :
    (fillOpaqueConfLevels mem model_id (some sm) version out).map Prod.snd =
      (fillOpaqueConfLevels mem model_id (some sm) version out').map Prod.snd := by
  unfold fillOpaqueConfLevels
  dsimp only
  rcases checkLevels badLevel (sm.keywords version) with _ | _ | kws
  · rfl
  · rfl
  · simp only [Option.map_some]
    split_ifs <;> rfl

/-- The status of `fillOpaqueConfLevels` for a sound model. -/
def st_sound_model_conf_levels.fillStatus (mem : Callocs) (model_id version : ℕ)
    (sm : st_sound_model_conf_levels) : Option ℤ :=
  (fillOpaqueConfLevels mem model_id (some sm) version ⟨none, 0⟩).map Prod.snd

namespace OpaqueLevels

variable {mem : Callocs} {model_id version : ℕ} {sm : st_sound_model_conf_levels}
  {o o' : OpaqueLevels}

theorem visit_isSome : (o.visit mem model_id version sm).isSome ↔
    (sm.sm_id = ST_SM_ID_SVA_F_STAGE_GMM →
      (checkLevels badLevel (sm.keywords version)).isSome) := by
  unfold visit
  split_ifs with hgmm
  · rw [Option.isSome_map, fillOpaqueConfLevels_isSome]
    exact ⟨fun h _ => h, fun h => h hgmm⟩
  · exact iff_of_true rfl fun h => absurd h hgmm

theorem visit_sec_threshold (h : o.visit mem model_id version sm = some o') :
    o'.sec_threshold = o.sec_threshold ++ sm.threshold.toList := by
  unfold visit at h
  split_ifs at h with hgmm
  · obtain ⟨r, -, rfl⟩ := Option.map_eq_some_iff.mp h
    unfold st_sound_model_conf_levels.threshold
    rw [if_pos hgmm, Option.toList_none, List.append_nil]
  · rw [← Option.some.inj h]

theorem visit_status (h : o.visit mem model_id version sm = some o') :
    (o'.gmm_conf_found, some o'.status) =
      if sm.sm_id = ST_SM_ID_SVA_F_STAGE_GMM then (true, sm.fillStatus mem model_id version)
      else (o.gmm_conf_found, some o.status) := by
  unfold visit at h
  split_ifs at h with hgmm
  · obtain ⟨r, hr, rfl⟩ := Option.map_eq_some_iff.mp h
    have hstatus := fillOpaqueConfLevels_status mem model_id sm version o.out ⟨none, 0⟩
    rw [hr] at hstatus
    rw [if_pos hgmm]
    exact congrArg (Prod.mk true) hstatus
  · rw [if_neg hgmm, ← Option.some.inj h]

end OpaqueLevels

namespace st_confidence_levels_info

variable {c : st_confidence_levels_info} {mem : ℕ → Callocs} {model_id version : ℕ}
  {o o' : OpaqueLevels}

/-- The sound model at `i` is a first stage model. -/
def IsGMM (c : st_confidence_levels_info) (i : ℕ) : Prop :=
  ∃ sm, c.conf_levels[i]? = some sm ∧ sm.sm_id = ST_SM_ID_SVA_F_STAGE_GMM

instance (c : st_confidence_levels_info) : DecidablePred c.IsGMM := fun i =>
  decidable_of_iff (c.conf_levels[i]?.any fun sm => sm.sm_id = ST_SM_ID_SVA_F_STAGE_GMM) (by
    unfold IsGMM
    simp [Option.any_eq_true])

/-- The counts stay inside the arrays as far as the parser follows them: the number of sound models,
and, in first stage models, the numbers of keywords and of users up to the first bad level. -/
def CountsInside (c : st_confidence_levels_info) (version : ℕ) : Prop :=
  ∀ i < c.num_sound_models, ∃ sm, c.conf_levels[i]? = some sm ∧
    (sm.sm_id = ST_SM_ID_SVA_F_STAGE_GMM → (checkLevels badLevel (sm.keywords version)).isSome)

/-- There is a first stage model, and the levels of the last one are taken. -/
def LevelsTaken (c : st_confidence_levels_info) (mem : ℕ → Callocs) (model_id version : ℕ) : Prop :=
  ∃ i sm, ((List.range c.num_sound_models).filter fun i => c.IsGMM i).getLast? = some i ∧
    c.conf_levels[i]? = some sm ∧ sm.fillStatus (mem i) model_id version = some 0

/-- The thresholds of the second stage models in use. -/
def thresholds (c : st_confidence_levels_info) : List (ℕ × ℤ) :=
  (List.range c.num_sound_models).flatMap fun i =>
    (c.conf_levels[i]?.bind st_sound_model_conf_levels.threshold).toList

theorem visitModels_isSome :
    (c.visitModels mem model_id version o).isSome ↔ c.CountsInside version := by
  unfold visitModels CountsInside
  rw [foldlM_isSome_iff (P := fun i => ∃ sm, c.conf_levels[i]? = some sm ∧
    (sm.sm_id = ST_SM_ID_SVA_F_STAGE_GMM → (checkLevels badLevel (sm.keywords version)).isSome))]
  · simp only [List.mem_range]
  · intro o i
    rcases c.conf_levels[i]? with _ | sm
    · simp
    · simp [OpaqueLevels.visit_isSome]

theorem visitModels_sec_threshold (h : c.visitModels mem model_id version o = some o') :
    o'.sec_threshold = o.sec_threshold ++ c.thresholds := by
  unfold visitModels at h
  unfold thresholds
  obtain ⟨l, hl⟩ : ∃ l, List.range c.num_sound_models = l := ⟨_, rfl⟩
  rw [hl] at h ⊢
  clear hl
  induction l generalizing o with
  | nil =>
    cases h
    exact (List.append_nil _).symm
  | cons i l ih =>
    rw [List.foldlM_cons] at h
    obtain ⟨o₁, hfirst, hrest⟩ := Option.bind_eq_some_iff.mp h
    obtain ⟨sm, hsm, hvisit⟩ := Option.bind_eq_some_iff.mp hfirst
    rw [ih hrest, OpaqueLevels.visit_sec_threshold hvisit, List.flatMap_cons, hsm, Option.bind_some,
      List.append_assoc]

/-- **The status of the loop** is that of the last first stage model. -/
theorem visitModels_status (hfound : o.gmm_conf_found = false) (hstatus : o.status = 0)
    (h : c.visitModels mem model_id version o = some o') :
    ¬ (o'.gmm_conf_found = false ∨ o'.status ≠ 0) ↔ c.LevelsTaken mem model_id version := by
  have hlast : (o'.gmm_conf_found, some o'.status) =
      (((List.range c.num_sound_models).filter fun i => c.IsGMM i).getLast?.map fun i =>
        (true, c.conf_levels[i]?.bind fun sm => sm.fillStatus (mem i) model_id version)).getD
          (o.gmm_conf_found, some o.status) := by
    refine last_of_foldlM (g := fun o : OpaqueLevels => (o.gmm_conf_found, some o.status))
      (fun i _ t t' ht => ?_) h
    obtain ⟨sm, hsm, hvisit⟩ := Option.bind_eq_some_iff.mp ht
    have hround := OpaqueLevels.visit_status hvisit
    have hgmm : c.IsGMM i ↔ sm.sm_id = ST_SM_ID_SVA_F_STAGE_GMM := by simp [IsGMM, hsm]
    simp only [hround, hgmm, hsm, Option.bind_some]
  unfold LevelsTaken
  rcases hgmm : ((List.range c.num_sound_models).filter fun i => c.IsGMM i).getLast? with _ | i
  · rw [hgmm, hfound, hstatus] at hlast
    simp [(Prod.mk.inj hlast).1]
  · rw [hgmm] at hlast
    obtain ⟨hfound', hstatus'⟩ := Prod.mk.inj hlast
    have hmem := List.mem_of_getLast? hgmm
    obtain ⟨sm, hsm, -⟩ : c.IsGMM i := by simpa using (List.mem_filter.mp hmem).2
    rw [hsm, Option.bind_some] at hstatus'
    simp [hfound', hsm, ← hstatus']

end st_confidence_levels_info

/-! ### What a parameter asks for -/

/-- The size of the parameters that have one. -/
def ConfigEnv.paramSize (env : ConfigEnv) (key_id : ℕ) : Option ℕ :=
  if key_id = ST_PARAM_KEY_HISTORY_BUFFER_CONFIG then some sizeof_st_hist_buffer_info
  else if key_id = ST_PARAM_KEY_DETECTION_PERF_MODE then some sizeof_st_det_perf_mode_info
  else if key_id = ST_PARAM_KEY_TIUV_THRESHOLD_CONFIG then some sizeof_tiuv_threshold_config
  else if key_id = ST_PARAM_KEY_HIST_CAPTURE_MODE then
    some env.sizeof_param_id_history_buffer_mode_t
  else none

/-- The confidence levels in the payload at `ptr`. -/
def paramLevels (data : List UInt8) (ptr : ℕ) : st_confidence_levels_info :=
  .read (field data ptr) ((data.drop ptr).take (confLevelsSize (field data ptr)))

/-- The payload at `ptr` has the size of the confidence levels of its version. -/
def LevelsSized (data : List UInt8) (ptr : ℕ) : Prop :=
  field data (ptr - 4) = confLevelsSize (field data ptr)

instance (data : List UInt8) (ptr : ℕ) : Decidable (LevelsSized data ptr) :=
  inferInstanceAs (Decidable (_ = _))

/-- What the parser reads of the parameter lies in the data: its version, and the payload if it comes
to that. -/
def ParamInside (env : ConfigEnv) (data : List UInt8) (key_id ptr : ℕ) : Prop :=
  if key_id = ST_PARAM_KEY_CONFIDENCE_LEVELS then
    ptr + 4 ≤ data.length ∧ (LevelsSized data ptr → env.realloc ptr →
      ptr + field data (ptr - 4) ≤ data.length ∧
        (paramLevels data ptr).CountsInside (field data ptr))
  else if key_id = ST_PARAM_KEY_MMA_THRESHOLD_CONFIG then
    env.calloc ptr → ptr + field data (ptr - 4) ≤ data.length
  else env.paramSize key_id = some (field data (ptr - 4)) →
    ptr + field data (ptr - 4) ≤ data.length ∧
      (key_id = ST_PARAM_KEY_DETECTION_PERF_MODE → env.log_mode (field data (ptr + 4)))

/-- The parameter is accepted. -/
def ParamPasses (env : ConfigEnv) (data : List UInt8) (model_id key_id ptr : ℕ) : Prop :=
  if key_id = ST_PARAM_KEY_CONFIDENCE_LEVELS then
    LevelsSized data ptr ∧ env.realloc ptr ∧
      (paramLevels data ptr).LevelsTaken (env.opaqueLevels ptr) model_id (field data ptr)
  else if key_id = ST_PARAM_KEY_MMA_THRESHOLD_CONFIG then env.calloc ptr = true
  else env.paramSize key_id = some (field data (ptr - 4))

/-- The thresholds that the parameter stores, whether it is accepted or not. -/
def paramThresholds (env : ConfigEnv) (data : List UInt8) (key_id ptr : ℕ) : List (ℕ × ℤ) :=
  if key_id = ST_PARAM_KEY_CONFIDENCE_LEVELS ∧ LevelsSized data ptr ∧ env.realloc ptr then
    (paramLevels data ptr).thresholds
  else []

namespace Parsing

variable {M : Type} {env : ConfigEnv} {data : List UInt8} {st st' st₁ : Parsing M}
  {key_id ptr : ℕ} {pushed pushed' : List (ℕ × ℤ)}

/-- What parameters keep of the stream, and the thresholds that they store. -/
structure Step (st st' : Parsing M) (pushed : List (ℕ × ℤ)) : Prop where
  model_id : st'.sm_info.model_id = st.sm_info.model_id
  wakeup_config : st'.sm_info.wakeup_config = st.sm_info.wakeup_config
  wakeup_config_size : st'.sm_info.wakeup_config_size = st.sm_info.wakeup_config_size
  buf_config : st'.sm_info.buf_config = st.sm_info.buf_config
  sec_threshold : st'.sm_info.sec_threshold = st.sm_info.sec_threshold ++ pushed

theorem step_of_sm_info (h : st'.sm_info = st.sm_info) : Step st st' [] := by
  constructor <;> simp [h]

theorem Step.trans (h : Step st st₁ pushed) (h' : Step st₁ st' pushed') :
    Step st st' (pushed ++ pushed') where
  model_id := h'.model_id.trans h.model_id
  wakeup_config := h'.wakeup_config.trans h.wakeup_config
  wakeup_config_size := h'.wakeup_config_size.trans h.wakeup_config_size
  buf_config := h'.buf_config.trans h.buf_config
  sec_threshold := by rw [h'.sec_threshold, h.sec_threshold, List.append_assoc]

@[simp] theorem cache_sm_info (version : ℕ) (conf_levels : Option st_confidence_levels_info) :
    (st.cache version conf_levels).sm_info = st.sm_info := by
  unfold cache
  split_ifs <;> rfl

theorem step_cache (version : ℕ) (conf_levels : Option st_confidence_levels_info) :
    Step st (st.cache version conf_levels) [] :=
  step_of_sm_info (cache_sm_info version conf_levels)

/-- **The levels of a parameter.** They are followed where the counts stay inside, their thresholds
are stored, and they are accepted where the levels of the last first stage model are. -/
theorem parseOpaqueConfLevels_spec (env : ConfigEnv) (data : List UInt8) (ptr : ℕ)
    (st : Parsing M) :
    ((st.parseOpaqueConfLevels env data ptr (field data ptr)).isSome ↔ (env.realloc ptr →
      ptr + confLevelsSize (field data ptr) ≤ data.length ∧
        (paramLevels data ptr).CountsInside (field data ptr))) ∧
    ∀ st' status, st.parseOpaqueConfLevels env data ptr (field data ptr) = some (st', status) →
      Step st st' (if env.realloc ptr then (paramLevels data ptr).thresholds else []) ∧
        (status = 0 ↔ env.realloc ptr ∧ (paramLevels data ptr).LevelsTaken (env.opaqueLevels ptr)
          st.sm_info.model_id (field data ptr)) := by
  unfold parseOpaqueConfLevels
  by_cases hrealloc : env.realloc ptr = true
  · rw [if_pos hrealloc, if_pos hrealloc]
    rcases hslice : slice data ptr (confLevelsSize (field data ptr)) with _ | payload
    · have hout := slice_eq_none_iff.mp hslice
      refine ⟨iff_of_false (by simp) fun h => ?_, fun _ _ h => by cases h⟩
      have hin := (h hrealloc).1
      omega
    have hin := le_of_slice hslice
    rw [slice_eq_some hin] at hslice
    have hlevels : st_confidence_levels_info.read (field data ptr) payload =
        paramLevels data ptr := by
      unfold paramLevels
      rw [Option.some.inj hslice]
    rw [Option.bind_some, hlevels]
    dsimp only
    rw [cache_sm_info]
    constructor
    · rw [Option.isSome_map, st_confidence_levels_info.visitModels_isSome]
      exact ⟨fun h _ => ⟨hin, h⟩, fun h => (h hrealloc).2⟩
    · intro st' status h
      obtain ⟨o, ho, heq⟩ := Option.map_eq_some_iff.mp h
      cases heq
      have hpushed := st_confidence_levels_info.visitModels_sec_threshold ho
      have hstatus := st_confidence_levels_info.visitModels_status rfl rfl ho
      refine ⟨⟨rfl, rfl, rfl, rfl, hpushed⟩, ?_⟩
      rw [← hstatus, and_iff_right hrealloc]
      split_ifs with hbad
      · exact iff_of_false (by decide) (not_not_intro hbad)
      · exact iff_of_true rfl hbad
  · rw [if_neg hrealloc, if_neg hrealloc]
    refine ⟨iff_of_true rfl fun h => absurd h hrealloc, fun st' status h => ?_⟩
    cases h
    exact ⟨step_cache _ _, iff_of_false (by decide) fun h => hrealloc h.1⟩

/-- What the `switch` makes of a parameter. -/
def Outcome (env : ConfigEnv) (data : List UInt8) (st : Parsing M) (key_id ptr : ℕ) :
    Option (Visit (Parsing M) (Parsing M × ℤ)) → Prop
  | none => ¬ ParamInside env data key_id ptr
  | some (.next st') =>
    ParamInside env data key_id ptr ∧ ParamPasses env data st.sm_info.model_id key_id ptr ∧
      Step st st' (paramThresholds env data key_id ptr)
  | some (.last _) => False
  | some (.fail (st', status)) =>
    ParamInside env data key_id ptr ∧ ¬ ParamPasses env data st.sm_info.model_id key_id ptr ∧
      Step st st' (paramThresholds env data key_id ptr) ∧ status ≠ 0

theorem paramInside_other (hlevels : key_id ≠ ST_PARAM_KEY_CONFIDENCE_LEVELS)
    (hmma : key_id ≠ ST_PARAM_KEY_MMA_THRESHOLD_CONFIG) : ParamInside env data key_id ptr ↔
      (env.paramSize key_id = some (field data (ptr - 4)) →
        ptr + field data (ptr - 4) ≤ data.length ∧
          (key_id = ST_PARAM_KEY_DETECTION_PERF_MODE → env.log_mode (field data (ptr + 4)))) := by
  unfold ParamInside
  rw [if_neg hlevels, if_neg hmma]

theorem paramPasses_other {model_id : ℕ} (hlevels : key_id ≠ ST_PARAM_KEY_CONFIDENCE_LEVELS)
    (hmma : key_id ≠ ST_PARAM_KEY_MMA_THRESHOLD_CONFIG) :
    ParamPasses env data model_id key_id ptr ↔
      env.paramSize key_id = some (field data (ptr - 4)) := by
  unfold ParamPasses
  rw [if_neg hlevels, if_neg hmma]

theorem paramThresholds_other (hlevels : key_id ≠ ST_PARAM_KEY_CONFIDENCE_LEVELS) :
    paramThresholds env data key_id ptr = [] := by
  unfold paramThresholds
  rw [if_neg fun h => hlevels h.1]

/-- A parameter that has not the size of its key is refused. -/
theorem outcome_badSize (hlevels : key_id ≠ ST_PARAM_KEY_CONFIDENCE_LEVELS)
    (hmma : key_id ≠ ST_PARAM_KEY_MMA_THRESHOLD_CONFIG)
    (hsize : env.paramSize key_id ≠ some (field data (ptr - 4))) :
    Outcome env data st key_id ptr (some (.fail (st, - EINVAL))) := by
  refine ⟨(paramInside_other hlevels hmma).mpr fun h => absurd h hsize,
    mt (paramPasses_other hlevels hmma).mp hsize, ?_, by decide⟩
  rw [paramThresholds_other hlevels]
  exact step_of_sm_info rfl

/-- **A parameter whose key has a size** is refused where it has another one, and else it is read. -/
theorem outcome_sized {α : Type} {n : ℕ} {read : Option α} {f : α → Parsing M}
    (hlevels : key_id ≠ ST_PARAM_KEY_CONFIDENCE_LEVELS)
    (hmma : key_id ≠ ST_PARAM_KEY_MMA_THRESHOLD_CONFIG) (hkey : env.paramSize key_id = some n)
    (hread : field data (ptr - 4) = n → (read.isSome ↔ ptr + n ≤ data.length ∧
      (key_id = ST_PARAM_KEY_DETECTION_PERF_MODE → env.log_mode (field data (ptr + 4)))))
    (hf : ∀ a, Step st (f a) []) :
    Outcome env data st key_id ptr (if field data (ptr - 4) ≠ n then some (.fail (st, - EINVAL))
      else read.map fun a => .next (f a)) := by
  split_ifs with hsize
  · exact outcome_badSize hlevels hmma fun h => hsize (Option.some.inj (h.symm.trans hkey))
  have hsize' := not_not.mp hsize
  have hkey' : env.paramSize key_id = some (field data (ptr - 4)) := by rw [hkey, hsize']
  have hinside : ParamInside env data key_id ptr ↔ _ := paramInside_other hlevels hmma
  rw [hsize'] at hinside
  rcases read with _ | a
  · have hnot := mt (hread hsize').mpr (by simp)
    exact fun h => hnot (hinside.mp h hkey)
  · refine ⟨hinside.mpr fun _ => (hread hsize').mp rfl, (paramPasses_other hlevels hmma).mpr hkey', ?_⟩
    rw [paramThresholds_other hlevels]
    exact hf a

/-- The confidence levels. -/
theorem outcome_levels : Outcome env data st ST_PARAM_KEY_CONFIDENCE_LEVELS ptr
    (parseParam env data st ST_PARAM_KEY_CONFIDENCE_LEVELS ptr) := by
  have hinside : ParamInside env data ST_PARAM_KEY_CONFIDENCE_LEVELS ptr ↔
      ptr + 4 ≤ data.length ∧ (LevelsSized data ptr → env.realloc ptr →
        ptr + field data (ptr - 4) ≤ data.length ∧
          (paramLevels data ptr).CountsInside (field data ptr)) := by
    unfold ParamInside
    rw [if_pos rfl]
  have hpasses : ParamPasses env data st.sm_info.model_id ST_PARAM_KEY_CONFIDENCE_LEVELS ptr ↔
      LevelsSized data ptr ∧ env.realloc ptr ∧ (paramLevels data ptr).LevelsTaken
        (env.opaqueLevels ptr) st.sm_info.model_id (field data ptr) := by
    unfold ParamPasses
    rw [if_pos rfl]
  unfold parseParam
  dsimp only
  rw [if_pos rfl]
  rcases hread : readLE data 4 ptr with _ | version
  · have hout := readLE_eq_none_iff.mp hread
    intro h
    have hin := (hinside.mp h).1
    omega
  obtain rfl : version = field data ptr := (field_of_read hread).symm
  have hin := le_of_readLE hread
  rw [Option.bind_some]
  obtain ⟨st₁, hst₁⟩ : ∃ st₁ : Parsing M,
    { st with sm_info := { st.sm_info with conf_levels_intf_version := field data ptr } } = st₁ :=
      ⟨_, rfl⟩
  have hstep : Step st st₁ [] := by
    rw [← hst₁]
    exact ⟨rfl, rfl, rfl, rfl, (List.append_nil _).symm⟩
  rw [hst₁]
  by_cases hsized : LevelsSized data ptr
  · have hsize : field data (ptr - 4) = confLevelsSize (field data ptr) := hsized
    have hthresholds : paramThresholds env data ST_PARAM_KEY_CONFIDENCE_LEVELS ptr =
        if env.realloc ptr then (paramLevels data ptr).thresholds else [] := by
      simp [paramThresholds, hsized]
    have hinside' := hinside.trans (and_iff_right hin) |>.trans (forall_prop_of_true hsized)
    obtain ⟨hdefined, hspec⟩ := parseOpaqueConfLevels_spec env data ptr st₁
    rw [← hsize] at hdefined
    rw [if_neg (not_not_intro hsize)]
    rcases hparse : st₁.parseOpaqueConfLevels env data ptr (field data ptr) with _ | ⟨st', status⟩
    · rw [hparse] at hdefined
      intro h
      exact absurd (hdefined.mpr (hinside'.mp h)) (by simp)
    · rw [hparse] at hdefined
      obtain ⟨hstep', hstatus⟩ := hspec st' status hparse
      have hall := hstep.trans hstep'
      rw [List.nil_append, ← hthresholds] at hall
      rw [hstep.model_id] at hstatus
      have hin' := hinside'.mpr (hdefined.mp rfl)
      show Outcome env data st _ ptr (some (if status ≠ 0 then .fail (st', status) else .next st'))
      split_ifs with hzero
      · exact ⟨hin', fun h => hzero (hstatus.mpr (hpasses.mp h).2), hall, hzero⟩
      · exact ⟨hin', hpasses.mpr ⟨hsized, hstatus.mp (not_not.mp hzero)⟩, hall⟩
  · have hthresholds : paramThresholds env data ST_PARAM_KEY_CONFIDENCE_LEVELS ptr = [] := by
      simp [paramThresholds, hsized]
    rw [if_pos (show field data (ptr - 4) ≠ confLevelsSize (field data ptr) from hsized)]
    refine ⟨hinside.mpr ⟨hin, fun h => absurd h hsized⟩, fun h => hsized (hpasses.mp h).1, ?_,
      by decide⟩
    rw [hthresholds]
    exact hstep

/-- The thresholds of an engine of another kind, whose payload is copied as it is. -/
theorem outcome_mma : Outcome env data st ST_PARAM_KEY_MMA_THRESHOLD_CONFIG ptr
    (parseParam env data st ST_PARAM_KEY_MMA_THRESHOLD_CONFIG ptr) := by
  have hkey : ST_PARAM_KEY_MMA_THRESHOLD_CONFIG ≠ ST_PARAM_KEY_CONFIDENCE_LEVELS := by decide
  have hinside : ParamInside env data ST_PARAM_KEY_MMA_THRESHOLD_CONFIG ptr ↔
      (env.calloc ptr → ptr + field data (ptr - 4) ≤ data.length) := by
    unfold ParamInside
    rw [if_neg hkey, if_pos rfl]
  have hpasses : ParamPasses env data st.sm_info.model_id ST_PARAM_KEY_MMA_THRESHOLD_CONFIG ptr ↔
      env.calloc ptr := by
    unfold ParamPasses
    rw [if_neg hkey, if_pos rfl]
  show Outcome env data st _ ptr (if env.calloc ptr then _ else _)
  split_ifs with hcalloc
  · rcases hslice : slice data ptr (field data (ptr - 4)) with _ | payload
    · have hout := slice_eq_none_iff.mp hslice
      intro h
      have hin := hinside.mp h hcalloc
      omega
    · refine ⟨hinside.mpr fun _ => le_of_slice hslice, hpasses.mpr hcalloc, ?_⟩
      rw [paramThresholds_other hkey]
      exact step_of_sm_info rfl
  · refine ⟨hinside.mpr fun h => absurd h hcalloc, mt hpasses.mp hcalloc, ?_, by decide⟩
    rw [paramThresholds_other hkey]
    exact step_of_sm_info rfl

/-- The durations. -/
theorem outcome_hist_buffer : Outcome env data st ST_PARAM_KEY_HISTORY_BUFFER_CONFIG ptr
    (parseParam env data st ST_PARAM_KEY_HISTORY_BUFFER_CONFIG ptr) := by
  have hread : Outcome env data st ST_PARAM_KEY_HISTORY_BUFFER_CONFIG ptr
      (if field data (ptr - 4) ≠ sizeof_st_hist_buffer_info then some (.fail (st, - EINVAL)) else
        ((readLE data 4 (ptr + 4)).bind fun hist => (readLE data 4 (ptr + 8)).map (hist, ·)).map
          fun d => .next { st with hist_buffer_duration := d.1, pre_roll_duration := d.2 }) := by
    refine outcome_sized (by decide) (by decide) rfl (fun _ => ?_) fun _ => step_of_sm_info rfl
    have hlast : (readLE data 4 (ptr + 8)).isSome ↔ ptr + 8 + 4 ≤ data.length := readLE_isSome
    rcases hfirst : readLE data 4 (ptr + 4) with _ | hist
    · have hout := readLE_eq_none_iff.mp hfirst
      refine iff_of_false (by simp) fun h => ?_
      have hin := h.1
      unfold sizeof_st_hist_buffer_info at hin
      omega
    · rw [Option.bind_some, Option.isSome_map, hlast]
      exact ⟨fun h => ⟨h, fun hmode => absurd hmode (by decide)⟩, fun h => h.1⟩
  rw [Option.map_bind] at hread
  simp only [Function.comp_def, Option.map_map] at hread
  exact hread

/-- The performance mode, which goes into the log. -/
theorem outcome_perf_mode : Outcome env data st ST_PARAM_KEY_DETECTION_PERF_MODE ptr
    (parseParam env data st ST_PARAM_KEY_DETECTION_PERF_MODE ptr) := by
  have hread : Outcome env data st ST_PARAM_KEY_DETECTION_PERF_MODE ptr
      (if field data (ptr - 4) ≠ sizeof_st_det_perf_mode_info then some (.fail (st, - EINVAL)) else
        ((readLE data 4 (ptr + 4)).bind fun mode =>
          if env.log_mode mode then some () else none).map fun _ => .next st) := by
    refine outcome_sized (by decide) (by decide) rfl (fun _ => ?_) fun _ => step_of_sm_info rfl
    rcases hfirst : readLE data 4 (ptr + 4) with _ | mode
    · have hout := readLE_eq_none_iff.mp hfirst
      refine iff_of_false (by simp) fun h => ?_
      have hin := h.1
      unfold sizeof_st_det_perf_mode_info at hin
      omega
    · have hlast := le_of_readLE hfirst
      have hin : ptr + sizeof_st_det_perf_mode_info ≤ data.length := hlast
      rw [Option.bind_some, field_of_read hfirst, forall_prop_of_true rfl, and_iff_right hin]
      split_ifs with hlog
      · exact iff_of_true rfl hlog
      · exact iff_of_false (by simp) hlog
  rw [Option.map_bind] at hread
  simp only [Function.comp_def, apply_ite (Option.map _), Option.map_some, Option.map_none] at hread
  exact hread

/-- **The step.** What the `switch` makes of any parameter is what the parameter asks for. -/
theorem parseParam_outcome (env : ConfigEnv) (data : List UInt8) (st : Parsing M) (key_id ptr : ℕ) :
    Outcome env data st key_id ptr (parseParam env data st key_id ptr) := by
  by_cases hlevels : key_id = ST_PARAM_KEY_CONFIDENCE_LEVELS
  · subst hlevels
    exact outcome_levels
  by_cases hhist : key_id = ST_PARAM_KEY_HISTORY_BUFFER_CONFIG
  · subst hhist
    exact outcome_hist_buffer
  by_cases hperf : key_id = ST_PARAM_KEY_DETECTION_PERF_MODE
  · subst hperf
    exact outcome_perf_mode
  by_cases hmma : key_id = ST_PARAM_KEY_MMA_THRESHOLD_CONFIG
  · subst hmma
    exact outcome_mma
  have hslice : ∀ n, field data (ptr - 4) = n → ((slice data ptr (field data (ptr - 4))).isSome ↔
      ptr + n ≤ data.length ∧
        (key_id = ST_PARAM_KEY_DETECTION_PERF_MODE → env.log_mode (field data (ptr + 4)))) := by
    rintro n rfl
    rw [slice_isSome]
    exact (and_iff_left fun h => absurd h hperf).symm
  have hkey : env.paramSize key_id =
      if key_id = ST_PARAM_KEY_TIUV_THRESHOLD_CONFIG then some sizeof_tiuv_threshold_config
      else if key_id = ST_PARAM_KEY_HIST_CAPTURE_MODE then
        some env.sizeof_param_id_history_buffer_mode_t
      else none := by
    unfold ConfigEnv.paramSize
    rw [if_neg hhist, if_neg hperf]
  unfold parseParam
  dsimp only
  rw [if_neg hlevels, if_neg hhist, if_neg hperf, if_neg hmma]
  by_cases htiuv : key_id = ST_PARAM_KEY_TIUV_THRESHOLD_CONFIG
  · rw [if_pos htiuv] at hkey ⊢
    exact outcome_sized hlevels hmma hkey (hslice _) fun _ => step_of_sm_info rfl
  rw [if_neg htiuv] at hkey ⊢
  by_cases hcap : key_id = ST_PARAM_KEY_HIST_CAPTURE_MODE
  · rw [if_pos hcap] at hkey ⊢
    exact outcome_sized hlevels hmma hkey (hslice _) fun _ => step_of_sm_info rfl
  · rw [if_neg hcap] at hkey ⊢
    exact outcome_badSize hlevels hmma (by simp [hkey])

/-- Exactly the parameters that are read inside and accepted lead to the next one. -/
theorem parseParam_next_iff : (∃ st', parseParam env data st key_id ptr = some (.next st')) ↔
    ParamInside env data key_id ptr ∧ ParamPasses env data st.sm_info.model_id key_id ptr := by
  have h := parseParam_outcome env data st key_id ptr
  obtain ⟨v, hv⟩ : ∃ v, parseParam env data st key_id ptr = v := ⟨_, rfl⟩
  rw [hv] at h ⊢
  rcases v with _ | (st' | st' | ⟨st', status⟩)
  · exact iff_of_false (by simp) fun hin => h hin.1
  · exact iff_of_true ⟨st', rfl⟩ ⟨h.1, h.2.1⟩
  · exact h.elim
  · exact iff_of_false (by simp) fun hin => h.2.1 hin.2

/-- Exactly the parameters that are read inside and not accepted are refused. -/
theorem parseParam_fail_iff : (∃ e, parseParam env data st key_id ptr = some (.fail e)) ↔
    ParamInside env data key_id ptr ∧ ¬ ParamPasses env data st.sm_info.model_id key_id ptr := by
  have h := parseParam_outcome env data st key_id ptr
  obtain ⟨v, hv⟩ : ∃ v, parseParam env data st key_id ptr = v := ⟨_, rfl⟩
  rw [hv] at h ⊢
  rcases v with _ | (st' | st' | ⟨st', status⟩)
  · exact iff_of_false (by simp) fun hin => h hin.1
  · exact iff_of_false (by simp) fun hin => hin.2 h.2.1
  · exact h.elim
  · exact iff_of_true ⟨(st', status), rfl⟩ ⟨h.1, h.2.1⟩

end Parsing

end AudioReachPal.Sva
