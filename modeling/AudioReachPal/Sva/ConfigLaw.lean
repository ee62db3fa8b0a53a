import AudioReachPal.Sva.RecognitionConfig
import AudioReachPal.Sva.EventFormat

/-!
# Refusing a recognition config

A config is parsed atomically where the parser reads nothing outside the opaque data, succeeds only on
records that fill the data, and, where it refuses, leaves what the stream and the templates were. What
one parameter does (`Parsing.parseParam_outcome`) gives what a run over parameters does, and from it
the configs for which all of that holds (`configLaw_iff`).
-/

namespace AudioReachPal.Sva

open AudioReachPal.Lib

/-! ### Runs over parameters -/

/-- A parameter that is accepted lies inside the data. -/
theorem inside_of_passes {env : ConfigEnv} {data : List UInt8} {model_id key_id ptr : ℕ}
    (hinside : ParamInside env data key_id ptr)
    (hpasses : ParamPasses env data model_id key_id ptr) :
    ptr + field data (ptr - 4) ≤ data.length := by
  unfold ParamInside at hinside
  unfold ParamPasses at hpasses
  split_ifs at hinside hpasses with hlevels hmma
  · exact (hinside.2 hpasses.1 hpasses.2.1).1
  · exact hinside hpasses
  · exact (hinside hpasses).1

/-- The parameter of a record is read inside and accepted. -/
def RecordPasses (env : ConfigEnv) (data : List UInt8) (model_id : ℕ) (r : Tlv ℕ Unit) : Prop :=
  ParamInside env data r.key_id (r.offset + sizeof_st_param_header) ∧
    ParamPasses env data model_id r.key_id (r.offset + sizeof_st_param_header)

/-- The thresholds of a record. -/
def recordThresholds (env : ConfigEnv) (data : List UInt8) (r : Tlv ℕ Unit) : List (ℕ × ℤ) :=
  paramThresholds env data r.key_id (r.offset + sizeof_st_param_header)

namespace Parsing

variable {M : Type} {env : ConfigEnv} {data : List UInt8} {st st' : Parsing M}
  {rs : List (Tlv ℕ Unit)}

theorem contained_parseParam (env : ConfigEnv) (data : List UInt8) :
    Contained st_param_header data (parseParam (M := M) env data) where
  inside {st st' r p} hr hvisit := by
    obtain ⟨hinside, hpasses⟩ := parseParam_next_iff.mp ⟨st', hvisit⟩
    have hin := inside_of_passes hinside hpasses
    have hsize : field data (p + 4) = r.payload_size := field_of_read hr.payload_size
    have hheader : p + st_param_header.size - 4 = p + 4 := rfl
    rw [hheader, hsize] at hin
    unfold Tlv.size
    omega
  not_last st st' key_id ptr h := by
    have houtcome := parseParam_outcome env data st key_id ptr
    rw [h] at houtcome
    exact houtcome

/-- **The run.** Over records whose parameters are accepted the parser keeps what every step keeps, and
it has stored all their thresholds. -/
theorem step_of_visited (h : Visited st_param_header (parseParam env data) st rs st') :
    (∀ r ∈ rs, RecordPasses env data st.sm_info.model_id r) ∧
      Step st st' (rs.flatMap (recordThresholds env data)) := by
  induction h with
  | nil st => exact ⟨by simp, step_of_sm_info rfl⟩
  | @cons st st₁ st' r rs hvisit hrest ih =>
    have houtcome := parseParam_outcome env data st r.key_id (r.offset + sizeof_st_param_header)
    rw [show parseParam env data st r.key_id (r.offset + sizeof_st_param_header) = _ from hvisit]
      at houtcome
    obtain ⟨hinside, hpasses, hstep⟩ := houtcome
    rw [hstep.model_id] at ih
    refine ⟨List.forall_mem_cons.mpr ⟨⟨hinside, hpasses⟩, ih.1⟩, ?_⟩
    rw [List.flatMap_cons]
    exact hstep.trans ih.2

/-- Records whose parameters are accepted are gone over. -/
theorem visited_of_passes (st : Parsing M)
    (h : ∀ r ∈ rs, RecordPasses env data st.sm_info.model_id r) :
    ∃ st', Visited st_param_header (parseParam env data) st rs st' := by
  induction rs generalizing st with
  | nil => exact ⟨st, .nil st⟩
  | cons r rs ih =>
    obtain ⟨hfirst, hrest⟩ := List.forall_mem_cons.mp h
    obtain ⟨st₁, hvisit⟩ := parseParam_next_iff.mpr hfirst
    have hone := step_of_visited (Visited.cons (H := st_param_header) hvisit (.nil st₁))
    rw [← hone.2.model_id] at hrest
    obtain ⟨st', hvisited⟩ := ih st₁ hrest
    exact ⟨st', .cons hvisit hvisited⟩

end Parsing

/-! ### Bounded, exact and atomic -/

section Law

variable {M : Type} {I I' : SVAInterface M} {env : ConfigEnv} {s : StreamId}
  {i : sound_model_info M} {config : pal_st_recognition_config} {st : Parsing M}
  {pushed : List (ℕ × ℤ)}

/-- What a config that is refused leaves as it was: the levels for the engine, the durations and the
thresholds of the stream, and both templates. -/
structure Kept (s : StreamId) (I I' : SVAInterface M) : Prop where
  wakeup_config : I'.sm_info_map_[s]?.map (·.wakeup_config) = I.sm_info_map_[s]?.map (·.wakeup_config)
  wakeup_config_size :
    I'.sm_info_map_[s]?.map (·.wakeup_config_size) = I.sm_info_map_[s]?.map (·.wakeup_config_size)
  buf_config : I'.sm_info_map_[s]?.map (·.buf_config) = I.sm_info_map_[s]?.map (·.buf_config)
  sec_threshold :
    I'.sm_info_map_[s]?.map (·.sec_threshold) = I.sm_info_map_[s]?.map (·.sec_threshold)
  st_conf_levels_ : I'.st_conf_levels_ = I.st_conf_levels_
  st_conf_levels_v2_ : I'.st_conf_levels_v2_ = I.st_conf_levels_v2_

/-- The parser returns without a read outside the opaque data, with success only where records fill
the data, and otherwise it has changed nothing that is `Kept`. -/
def ConfigLaw (I : SVAInterface M) (env : ConfigEnv) (s : StreamId)
    (config : Option pal_st_recognition_config) : Prop :=
  ∃ I' status, I.parseRecognitionConfig env s config = some (I', status) ∧
    (status = 0 → ∃ c rs, config = some c ∧ Laid st_param_header c.opaqueData 0 rs) ∧
    (status ≠ 0 → Kept s I I')

/-- No levels are cached. -/
def SVAInterface.NoTemplates (I : SVAInterface M) : Prop :=
  I.st_conf_levels_ = none ∧ I.st_conf_levels_v2_ = none

/-- Records fill the data, and all their parameters are accepted. -/
def AllPass (env : ConfigEnv) (data : List UInt8) (model_id : ℕ) : Prop :=
  ∃ rs, Laid st_param_header data 0 rs ∧ ∀ r ∈ rs, RecordPasses env data model_id r

/-- Behind records that are accepted comes one whose parameter is read inside and refused, and there
is no threshold up to its end. -/
def RefusedUntouched (env : ConfigEnv) (data : List UInt8) (model_id : ℕ) : Prop :=
  ∃ rs q r, LaidTo st_param_header data 0 rs q ∧ q < data.length ∧
    HeaderAt st_param_header data q r ∧ (∀ r ∈ rs, RecordPasses env data model_id r) ∧
    ParamInside env data r.key_id (q + sizeof_st_param_header) ∧
    ¬ ParamPasses env data model_id r.key_id (q + sizeof_st_param_header) ∧
    rs.flatMap (recordThresholds env data) ++ recordThresholds env data r = []

/-- The levels of the phrases are taken; only a keyphrase model has them read. -/
def PhrasesTaken (env : ConfigEnv) (i : sound_model_info M) (config : pal_st_recognition_config) :
    Prop :=
  i.type = .PAL_SOUND_MODEL_TYPE_KEYPHRASE →
    (fillConfLevels env.phraseLevels i.model_id (some i.model_phrases) (some config.phrases)
      ⟨none, 0⟩).2 = 0

/-- The configs for which the parser keeps the law, in the state before the call. -/
def ConfigSettled (I : SVAInterface M) (env : ConfigEnv) (s : StreamId)
    (config : Option pal_st_recognition_config) : Prop :=
  ∀ i c, I.sm_info_map_[s]? = some i → config = some c →
    if c.data_size > CUSTOM_CONFIG_OPAQUE_DATA_SIZE then
      AllPass env c.opaqueData i.model_id ∨
        (I.NoTemplates ∧ RefusedUntouched env c.opaqueData i.model_id)
    else (PhrasesTaken env i c → ∃ rs, Laid st_param_header c.opaqueData 0 rs) ∧
      (¬ PhrasesTaken env i c → I.NoTemplates)

/-- The state in which the parser begins. -/
def Parsing.begin (I : SVAInterface M) (i : sound_model_info M)
    (config : pal_st_recognition_config) : Parsing M :=
  ⟨I, { i with rec_config := some config }, 0, 0, ⟨none, 0⟩⟩

theorem parseRecognitionConfig_some (env : ConfigEnv) (config : pal_st_recognition_config)
    (hi : I.sm_info_map_[s]? = some i) :
    I.parseRecognitionConfig env s (some config) =
      if config.data_size > CUSTOM_CONFIG_OPAQUE_DATA_SIZE then
        (walk st_param_header config.opaqueData (Parsing.parseParam env config.opaqueData)
          (config.data_size + 1) (Parsing.begin I i config) 0 0).map (Parsing.exit s)
      else if i.type = .PAL_SOUND_MODEL_TYPE_KEYPHRASE then
        let (out, status) := fillConfLevels env.phraseLevels i.model_id (some i.model_phrases)
          (some config.phrases) ⟨none, 0⟩
        let st := { Parsing.begin I i config with out := out }
        if status ≠ 0 then some (st.errorExit s, status) else some (st.finish s, 0)
      else some ((Parsing.begin I i config).finish s, 0) := by
  unfold SVAInterface.parseRecognitionConfig
  rw [hi]
  rfl

/-- **The error exit.** What it frees was not there, and no threshold was stored. -/
theorem kept_errorExit_iff (hi : I.sm_info_map_[s]? = some i)
    (h : Parsing.Step (Parsing.begin I i config) st pushed) :
    Kept s I (st.errorExit s) ↔ I.NoTemplates ∧ pushed = [] := by
  have hinfo : (st.errorExit s).sm_info_map_[s]? = some st.sm_info :=
    SVAInterface.setInfo_getElem?_self st.I s st.sm_info
  constructor
  · intro hkept
    have hthreshold := hkept.sec_threshold
    rw [hinfo, hi, Option.map_some, Option.map_some, h.sec_threshold] at hthreshold
    exact ⟨⟨hkept.st_conf_levels_.symm, hkept.st_conf_levels_v2_.symm⟩,
      List.append_right_eq_self.mp (Option.some.inj hthreshold)⟩
  · rintro ⟨⟨hlevels, hlevels_v2⟩, rfl⟩
    have hthreshold := h.sec_threshold
    rw [List.append_nil] at hthreshold
    constructor
    · rw [hinfo, hi]
      exact congrArg some h.wakeup_config
    · rw [hinfo, hi]
      exact congrArg some h.wakeup_config_size
    · rw [hinfo, hi]
      exact congrArg some h.buf_config
    · rw [hinfo, hi]
      exact congrArg some hthreshold
    · exact hlevels.symm
    · exact hlevels_v2.symm

/-- A record that is refused behind a run. -/
theorem refused_of_visited {data : List UInt8} {st₀ st₁ : Parsing M} {rs : List (Tlv ℕ Unit)}
    {r : Tlv ℕ Unit} {status : ℤ}
    (hvisited : Visited st_param_header (Parsing.parseParam env data) st₀ rs st₁)
    (hfail : Parsing.parseParam env data st₁ r.key_id (r.offset + sizeof_st_param_header) =
      some (.fail (st, status))) :
    (∀ r ∈ rs, RecordPasses env data st₀.sm_info.model_id r) ∧
      ParamInside env data r.key_id (r.offset + sizeof_st_param_header) ∧
      ¬ ParamPasses env data st₀.sm_info.model_id r.key_id (r.offset + sizeof_st_param_header) ∧
      Parsing.Step st₀ st (rs.flatMap (recordThresholds env data) ++ recordThresholds env data r) ∧
      status ≠ 0 := by
  obtain ⟨hpass, hrun⟩ := Parsing.step_of_visited hvisited
  have houtcome := Parsing.parseParam_outcome env data st₁ r.key_id
    (r.offset + sizeof_st_param_header)
  rw [hfail] at houtcome
  obtain ⟨hinside, hrefused, hstep, hstatus⟩ := houtcome
  rw [hrun.model_id] at hrefused
  exact ⟨hpass, hinside, hrefused, hrun.trans hstep, hstatus⟩

/-- **The walk** succeeds on records that are accepted and fill the data, and keeps the stream where it
comes to a record that is refused before a threshold, with no template to free. -/
theorem walk_parseParam_iff (hi : I.sm_info_map_[s]? = some i) :
    (∃ end_, walk st_param_header config.opaqueData (Parsing.parseParam env config.opaqueData)
        (config.data_size + 1) (Parsing.begin I i config) 0 0 = some end_ ∧
      ((Parsing.exit s end_).2 = 0 → ∃ rs, Laid st_param_header config.opaqueData 0 rs) ∧
      ((Parsing.exit s end_).2 ≠ 0 → Kept s I (Parsing.exit s end_).1)) ↔
    (AllPass env config.opaqueData i.model_id ∨
      (I.NoTemplates ∧ RefusedUntouched env config.opaqueData i.model_id)) := by
  have hb : config.opaqueData.length < 2 ^ 32 := by
    rw [config.data_size_eq]
    exact config.data_size_lt
  have hfuel : config.opaqueData.length < config.data_size + 1 := by
    rw [config.data_size_eq]
    omega
  have hc := Parsing.contained_parseParam (M := M) env config.opaqueData
  constructor
  · rintro ⟨st | st, hwalk, -, hkept⟩
    · obtain ⟨rs, q, r, st₁, hlaid, hvisited, hq, hr, hfail⟩ := (walk_error_iff hb hc hfuel).mp hwalk
      have hoffset : q = r.offset := hr.offset.symm
      subst hoffset
      obtain ⟨hpass, hinside, hrefused, hstep, hstatus⟩ := refused_of_visited hvisited hfail
      obtain ⟨hnone, huntouched⟩ := (kept_errorExit_iff hi hstep).mp (hkept hstatus)
      exact Or.inr ⟨hnone, rs, r.offset, r, hlaid, hq, hr, hpass, hinside, hrefused, huntouched⟩
    · obtain ⟨rs, hlaid, hvisited⟩ := (walk_ok_iff hb hc hfuel).mp hwalk
      exact Or.inl ⟨rs, hlaid, (Parsing.step_of_visited hvisited).1⟩
  · rintro (⟨rs, hlaid, hpass⟩ |
      ⟨hnone, rs, q, r, hlaid, hq, hr, hpass, hinside, hrefused, huntouched⟩)
    · obtain ⟨st, hvisited⟩ := Parsing.visited_of_passes (Parsing.begin I i config) hpass
      exact ⟨_, (walk_ok_iff hb hc hfuel).mpr ⟨rs, hlaid, hvisited⟩, fun _ => ⟨rs, hlaid⟩,
        fun h => absurd rfl h⟩
    · have hoffset : q = r.offset := hr.offset.symm
      subst hoffset
      obtain ⟨st₁, hvisited⟩ := Parsing.visited_of_passes (Parsing.begin I i config) hpass
      have hmodel := (Parsing.step_of_visited hvisited).2.model_id
      have hrefused' : ¬ ParamPasses env config.opaqueData st₁.sm_info.model_id r.key_id
          (r.offset + sizeof_st_param_header) := by
        rw [hmodel]
        exact hrefused
      obtain ⟨⟨st, status⟩, hfail⟩ := Parsing.parseParam_fail_iff.mpr ⟨hinside, hrefused'⟩
      obtain ⟨-, -, -, hstep, hstatus⟩ := refused_of_visited hvisited hfail
      exact ⟨_, (walk_error_iff hb hc hfuel).mpr ⟨rs, r.offset, r, st₁, hlaid, hvisited, hq, hr, hfail⟩,
        fun h => absurd h hstatus, fun _ => (kept_errorExit_iff hi hstep).mpr ⟨hnone, huntouched⟩⟩

/-- A call that succeeds keeps the law where records fill the data. -/
theorem configLaw_of_finish
    (h : I.parseRecognitionConfig env s (some config) = some (I', 0)) :
    ConfigLaw I env s (some config) ↔ ∃ rs, Laid st_param_header config.opaqueData 0 rs := by
  constructor
  · rintro ⟨_, _, hparse, hzero, -⟩
    rw [h] at hparse
    cases hparse
    obtain ⟨_, rs, heq, hlaid⟩ := hzero rfl
    cases heq
    exact ⟨rs, hlaid⟩
  · rintro ⟨rs, hlaid⟩
    exact ⟨I', 0, h, fun _ => ⟨config, rs, rfl, hlaid⟩, fun h => absurd rfl h⟩

/-- A call that fails keeps the law where it leaves everything as it was. -/
theorem configLaw_of_fail {config : Option pal_st_recognition_config} {status : ℤ}
    (h : I.parseRecognitionConfig env s config = some (I', status)) (hstatus : status ≠ 0) :
    ConfigLaw I env s config ↔ Kept s I I' := by
  constructor
  · rintro ⟨_, _, hparse, -, hkept⟩
    rw [h] at hparse
    cases hparse
    exact hkept hstatus
  · exact fun hkept => ⟨I', status, h, fun hzero => absurd hzero hstatus, fun _ => hkept⟩

/-- Without records, the config is that of the phrases. -/
theorem configLaw_phrases (hi : I.sm_info_map_[s]? = some i)
    (hsize : ¬ config.data_size > CUSTOM_CONFIG_OPAQUE_DATA_SIZE) :
    ConfigLaw I env s (some config) ↔
      (PhrasesTaken env i config → ∃ rs, Laid st_param_header config.opaqueData 0 rs) ∧
        (¬ PhrasesTaken env i config → I.NoTemplates) := by
  have hparse := parseRecognitionConfig_some env config hi
  rw [if_neg hsize] at hparse
  by_cases htype : i.type = .PAL_SOUND_MODEL_TYPE_KEYPHRASE
  · rw [if_pos htype] at hparse
    dsimp only at hparse
    unfold PhrasesTaken
    rw [forall_prop_of_true htype]
    obtain ⟨⟨out, status⟩, hfill⟩ : ∃ r, fillConfLevels env.phraseLevels i.model_id
        (some i.model_phrases) (some config.phrases) ⟨none, 0⟩ = r := ⟨_, rfl⟩
    rw [hfill] at hparse ⊢
    have hstep : Parsing.Step (Parsing.begin I i config)
        { Parsing.begin I i config with out := out } [] := Parsing.step_of_sm_info rfl
    split_ifs at hparse with hstatus
    · rw [configLaw_of_fail hparse hstatus, kept_errorExit_iff hi hstep, and_iff_left rfl]
      exact ⟨fun h => ⟨fun htaken => absurd htaken hstatus, fun _ => h⟩, fun h => h.2 hstatus⟩
    · rw [configLaw_of_finish hparse]
      exact ⟨fun h => ⟨fun _ => h, fun hnot => absurd hnot hstatus⟩, fun h => h.1 (not_not.mp hstatus)⟩
  · rw [if_neg htype] at hparse
    have htaken : PhrasesTaken env i config := fun h => absurd h htype
    rw [configLaw_of_finish hparse]
    exact ⟨fun h => ⟨fun _ => h, fun hnot => absurd htaken hnot⟩, fun h => h.1 htaken⟩

theorem configLaw_records (hi : I.sm_info_map_[s]? = some i)
    (hsize : config.data_size > CUSTOM_CONFIG_OPAQUE_DATA_SIZE) :
    ConfigLaw I env s (some config) ↔ (AllPass env config.opaqueData i.model_id ∨
      (I.NoTemplates ∧ RefusedUntouched env config.opaqueData i.model_id)) := by
  have hparse := parseRecognitionConfig_some env config hi
  rw [if_pos hsize] at hparse
  rw [← walk_parseParam_iff hi]
  constructor
  · rintro ⟨I', status, hlaw, hzero, hkept⟩
    rw [hparse] at hlaw
    obtain ⟨end_, hwalk, heq⟩ := Option.map_eq_some_iff.mp hlaw
    refine ⟨end_, hwalk, ?_⟩
    rw [heq]
    refine ⟨fun h => ?_, hkept⟩
    obtain ⟨_, rs, hsome, hlaid⟩ := hzero h
    cases hsome
    exact ⟨rs, hlaid⟩
  · rintro ⟨end_, hwalk, hzero, hkept⟩
    rw [hwalk, Option.map_some] at hparse
    refine ⟨_, _, hparse, fun h => ?_, hkept⟩
    obtain ⟨rs, hlaid⟩ := hzero h
    exact ⟨config, rs, rfl, hlaid⟩

/-- **A config is parsed atomically** exactly where its records are accepted up to the end of the data,
or the first one that is refused is read inside the data, comes before any threshold and meets no
template; and without records, where the levels of the phrases are taken over data that records fill,
or refused with no template. -/
theorem configLaw_iff (I : SVAInterface M) (env : ConfigEnv) (s : StreamId)
    (config : Option pal_st_recognition_config) :
    ConfigLaw I env s config ↔ ConfigSettled I env s config := by
  unfold ConfigSettled
  rcases hi : I.sm_info_map_[s]? with _ | i
  · have hparse : I.parseRecognitionConfig env s config = some (I, - EINVAL) := by
      unfold SVAInterface.parseRecognitionConfig
      rw [hi]
    rw [configLaw_of_fail hparse (by decide)]
    exact iff_of_true ⟨rfl, rfl, rfl, rfl, rfl, rfl⟩ (by simp)
  rcases config with _ | config
  · have hparse : I.parseRecognitionConfig env s none =
        some (I.setInfo s { i with rec_config := none }, - EINVAL) := by
      unfold SVAInterface.parseRecognitionConfig
      rw [hi]
    rw [configLaw_of_fail hparse (by decide)]
    refine iff_of_true ?_ (by simp)
    constructor <;> simp [hi, SVAInterface.setInfo]
  have hlaw : ConfigLaw I env s (some config) ↔
      if config.data_size > CUSTOM_CONFIG_OPAQUE_DATA_SIZE then
        AllPass env config.opaqueData i.model_id ∨
          (I.NoTemplates ∧ RefusedUntouched env config.opaqueData i.model_id)
      else (PhrasesTaken env i config → ∃ rs, Laid st_param_header config.opaqueData 0 rs) ∧
        (¬ PhrasesTaken env i config → I.NoTemplates) := by
    split_ifs with hsize
    · exact configLaw_records hi hsize
    · exact configLaw_phrases hi hsize
  rw [hlaw]
  refine ⟨fun h _ _ heq heq' => ?_, fun h => h i config rfl rfl⟩
  cases heq
  cases heq'
  exact h

end Law

/-! ### A key that is not known -/

/-- A record of 8 bytes with the key of a context event, which is not for a config. -/
def strayConfig : pal_st_recognition_config where
  capture_requested := false
  phrases := []
  data_size := 16
  opaqueData := [6, 0, 0, 0, 8, 0, 0, 0, 0, 0, 0, 0, 0, 0, 0, 0]
  data_size_eq := rfl
  data_size_lt := by decide

/-- Everything is there that a call allocates. -/
def plainEnv : ConfigEnv := ⟨fun _ => true, fun _ => true, fun _ _ => ⟨true, true⟩, ⟨true, true⟩, 8,
  fun mode => mode = 0⟩

/-- The refused config frees the levels that were cached for detection events. -/
theorem not_configLaw_stray :
    ¬ ConfigLaw { pdkInterface with st_conf_levels_ := some .zero } plainEnv 1 (some strayConfig) := by
  rintro ⟨I', status, hparse, -, hkept⟩
  have hresult : (SVAInterface.parseRecognitionConfig
      { pdkInterface with st_conf_levels_ := some .zero } plainEnv 1 (some strayConfig)).map
        (fun r => (r.1.st_conf_levels_, r.2)) = some (none, - EINVAL) := by
    rfl
  rw [hparse] at hresult
  obtain ⟨hlevels, rfl⟩ := Prod.mk.inj (Option.some.inj hresult)
  have hsame := (hkept (by decide)).st_conf_levels_
  rw [hlevels] at hsame
  cases hsame

end AudioReachPal.Sva
