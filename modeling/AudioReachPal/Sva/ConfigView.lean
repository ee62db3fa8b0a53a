import AudioReachPal.Lib.Observed
import AudioReachPal.Sva.EventView

/-!
# What a config does to what is seen

What a recognition config of a stream does to what is seen for the stream depends on nothing else: a
walk over parameters looks alike on interfaces that look alike, and both ends of the parser do.
-/

namespace AudioReachPal.Sva

open AudioReachPal.Lib

/-! ### Both ends of the parser -/

/-- The versions have their levels in the same template. -/
def SameTemplate (version version' : ℕ) : Prop :=
  version = CONF_LEVELS_INTF_VERSION_0002 ↔ version' = CONF_LEVELS_INTF_VERSION_0002

instance : DecidableRel SameTemplate := fun _ _ => inferInstanceAs (Decidable (_ ↔ _))

theorem SameTemplate.refl (version : ℕ) : SameTemplate version version := Iff.rfl

section Store

variable {M : Type} {I J : SVAInterface M} {s : StreamId}

/-- What is seen where all was parsed. -/
theorem seen_finished (i : sound_model_info M) (hist : ℕ) :
    SVAInterface.seen { I.setInfo s i with
        origin_hist_buf_duration_ := Function.update I.origin_hist_buf_duration_ s hist } s =
      ({ I.rest s with info := some i, origin_hist_buf_duration_ := hist }, I.startLevels i) := by
  have hseen := seen_setInfo (I := { I with
    origin_hist_buf_duration_ := Function.update I.origin_hist_buf_duration_ s hist }) (s := s) i
  have horigin : Function.update I.origin_hist_buf_duration_ s hist s = hist := by
    rw [Function.update_self]
  unfold SVAInterface.rest at hseen
  dsimp only at hseen
  rw [horigin] at hseen
  exact hseen

/-- The templates are gone. -/
def SVAInterface.freed (I : SVAInterface M) : SVAInterface M :=
  { I with st_conf_levels_ := none, st_conf_levels_v2_ := none }

theorem template_freed (I : SVAInterface M) (version : ℕ) : I.freed.template version = none := by
  unfold SVAInterface.template
  exact ite_self _

theorem startLevels_freed (hmodule : I.module_type_ = J.module_type_) (i : sound_model_info M) :
    I.freed.startLevels i = J.freed.startLevels i :=
  startLevels_congr hmodule rfl (by rw [template_freed, template_freed])

end Store

namespace Parsing

variable {M : Type} {s : StreamId} {st st' : Parsing M} {env : ConfigEnv} {data : List UInt8}

/-- What is seen of the parser, and of what it fails with. -/
def seen (s : StreamId) (st : Parsing M) : View M × sound_model_info M ×
    Option (Option st_confidence_levels_info) × ℕ × ℕ × ConfLevelsOut :=
  (st.I.rest s, st.sm_info, st.I.startLevels st.sm_info,
    st.hist_buffer_duration, st.pre_roll_duration, st.out)

def seenFail (s : StreamId) (r : Parsing M × ℤ) : View M × sound_model_info M × ℤ :=
  (r.1.I.rest s, r.1.sm_info, r.2)

theorem rest_cache (version : ℕ) (conf_levels : Option st_confidence_levels_info) :
    (st.cache version conf_levels).I.rest s = st.I.rest s := by
  unfold cache
  split_ifs <;> rfl

/-- The template of a version is replaced for the versions that share it. -/
theorem template_cache (version v : ℕ) (conf_levels : Option st_confidence_levels_info) :
    (st.cache version conf_levels).I.template v =
      if SameTemplate version v then conf_levels else st.I.template v := by
  unfold cache SVAInterface.template
  by_cases hversion : version = CONF_LEVELS_INTF_VERSION_0002
  · by_cases hv : v = CONF_LEVELS_INTF_VERSION_0002
    · simp [SameTemplate, hversion, hv]
    · simp [SameTemplate, hversion, hv]
  · by_cases hv : v = CONF_LEVELS_INTF_VERSION_0002
    · simp [SameTemplate, hversion, hv]
    · simp [SameTemplate, hversion, hv]

/-- The parsers differ only in what is not seen, and in the template. -/
structure Alike (s : StreamId) (st st' : Parsing M) : Prop where
  rest : st.I.rest s = st'.I.rest s
  sm_info : st.sm_info = st'.sm_info
  hist_buffer_duration : st.hist_buffer_duration = st'.hist_buffer_duration
  pre_roll_duration : st.pre_roll_duration = st'.pre_roll_duration
  out : st.out = st'.out

theorem seen_eq_iff : seen s st = seen s st' ↔ Alike s st st' ∧
    st.I.startLevels st.sm_info = st'.I.startLevels st'.sm_info := by
  unfold seen
  simp only [Prod.mk.injEq]
  constructor
  · rintro ⟨hrest, hinfo, hlevels, hhist, hpre, hout⟩
    exact ⟨⟨hrest, hinfo, hhist, hpre, hout⟩, hlevels⟩
  · rintro ⟨⟨hrest, hinfo, hhist, hpre, hout⟩, hlevels⟩
    exact ⟨hrest, hinfo, hlevels, hhist, hpre, hout⟩

theorem Alike.cache (h : Alike s st st') (version : ℕ)
    (conf_levels : Option st_confidence_levels_info) :
    Alike s (st.cache version conf_levels) (st'.cache version conf_levels) where
  rest := by rw [rest_cache, rest_cache, h.rest]
  sm_info := by rw [cache_sm_info, cache_sm_info, h.sm_info]
  hist_buffer_duration := by
    unfold Parsing.cache
    split_ifs
    · exact h.hist_buffer_duration
    · exact h.hist_buffer_duration
  pre_roll_duration := by
    unfold Parsing.cache
    split_ifs
    · exact h.pre_roll_duration
    · exact h.pre_roll_duration
  out := by
    unfold Parsing.cache
    split_ifs
    · exact h.out
    · exact h.out

/-- Levels are cached for the version that they are read with, whatever was cached. -/
theorem parseOpaqueConfLevels_congr (h : Alike s st st') (ptr : ℕ) :
    (st.parseOpaqueConfLevels env data ptr st.sm_info.conf_levels_intf_version).map
        (fun r => (seen s r.1, r.2)) =
      (st'.parseOpaqueConfLevels env data ptr st.sm_info.conf_levels_intf_version).map
        fun r => (seen s r.1, r.2) := by
  obtain ⟨version, hversion⟩ : ∃ version, st.sm_info.conf_levels_intf_version = version := ⟨_, rfl⟩
  have hcached : ∀ (c : Option st_confidence_levels_info) (sec_threshold : List (ℕ × ℤ)),
      (st.cache version c).I.startLevels { st.sm_info with sec_threshold := sec_threshold } =
        (st'.cache version c).I.startLevels { st'.sm_info with sec_threshold := sec_threshold } := by
    intro c sec_threshold
    have hmodule : (st.cache version c).I.module_type_ = (st'.cache version c).I.module_type_ :=
      congrArg View.module_type_ (h.cache version c).rest
    have htemplate : (st.cache version c).I.template version =
        (st'.cache version c).I.template version := by
      rw [template_cache, template_cache, if_pos (SameTemplate.refl version),
        if_pos (SameTemplate.refl version)]
    rw [← h.sm_info]
    exact startLevels_congr hmodule rfl (by dsimp only; rw [hversion, htemplate])
  unfold parseOpaqueConfLevels
  rw [hversion]
  split_ifs
  · rcases slice data ptr (confLevelsSize version) with _ | payload
    · rfl
    · have halike := h.cache version (some (st_confidence_levels_info.read version payload))
      dsimp only [Option.bind_some]
      rw [halike.sm_info, halike.out, Option.map_map, Option.map_map]
      refine Option.map_congr fun o _ => Prod.ext (seen_eq_iff.mpr ⟨⟨halike.rest, rfl,
        halike.hist_buffer_duration, halike.pre_roll_duration, rfl⟩, ?_⟩) rfl
      have hlevels := hcached (some (st_confidence_levels_info.read version payload)) o.sec_threshold
      rw [h.sm_info] at hlevels
      dsimp only
      rw [cache_sm_info]
      exact hlevels
  · refine congrArg some (Prod.ext (seen_eq_iff.mpr ⟨h.cache version none, ?_⟩) rfl)
    rw [cache_sm_info, cache_sm_info]
    exact hcached none st.sm_info.sec_threshold

/-- What is seen of a parameter. -/
abbrev seenVisit (s : StreamId) (v : Visit (Parsing M) (Parsing M × ℤ)) :=
  v.seen (seen s) (seenFail s)

theorem seenFail_congr (h : Alike s st st') (status : ℤ) :
    seenFail s (st, status) = seenFail s (st', status) := by
  unfold seenFail
  rw [h.rest, h.sm_info]

theorem fail_congr (h : Alike s st st') (status : ℤ) :
    seenVisit s (.fail (st, status)) = seenVisit s (.fail (st', status)) :=
  congrArg Visit.fail (seenFail_congr h status)

theorem next_congr (h : seen s st = seen s st') :
    seenVisit s (.next st) = seenVisit s (.next st') :=
  congrArg Visit.next h

/-- What is seen of levels that were parsed, by what was seen of the parser. -/
theorem levels_congr {x x' : Option (Parsing M × ℤ)}
    (h : x.map (fun r => (seen s r.1, r.2)) = x'.map fun r => (seen s r.1, r.2)) :
    (x.map fun r => if r.2 ≠ 0 then Visit.fail r else .next r.1).map (seenVisit s) =
      (x'.map fun r => if r.2 ≠ 0 then Visit.fail r else .next r.1).map (seenVisit s) := by
  rw [Option.map_map, Option.map_map]
  refine map_eq_of_map_eq (fun r r' hseen => ?_) h
  obtain ⟨hst, hstatus⟩ := Prod.mk.inj hseen
  have halike := (seen_eq_iff.mp hst).1
  dsimp only [Function.comp]
  rw [← hstatus]
  split_ifs
  · have hfail := fail_congr halike r.2
    rw [Prod.mk.eta, hstatus, Prod.mk.eta] at hfail
    exact hfail
  · exact next_congr hst

/-- One parameter. -/
theorem parseParam_congr (env : ConfigEnv) (data : List UInt8) (key_id ptr : ℕ)
    (h : seen s st = seen s st') :
    (parseParam env data st key_id ptr).map (seenVisit s) =
      (parseParam env data st' key_id ptr).map (seenVisit s) := by
  obtain ⟨halike, hlevels⟩ := seen_eq_iff.mp h
  unfold parseParam
  dsimp only
  by_cases hconf : key_id = ST_PARAM_KEY_CONFIDENCE_LEVELS
  · rw [if_pos hconf, if_pos hconf]
    rcases readLE data 4 ptr with _ | version
    · rfl
    have hversion : Alike s
        { st with sm_info := { st.sm_info with conf_levels_intf_version := version } }
        { st' with sm_info := { st'.sm_info with conf_levels_intf_version := version } } :=
      { halike with sm_info := by rw [halike.sm_info] }
    dsimp only [Option.bind_some]
    split_ifs
    · exact congrArg some (fail_congr hversion _)
    · exact levels_congr (parseOpaqueConfLevels_congr hversion ptr)
  rw [if_neg hconf, if_neg hconf]
  by_cases hhist : key_id = ST_PARAM_KEY_HISTORY_BUFFER_CONFIG
  · rw [if_pos hhist, if_pos hhist]
    split_ifs
    · exact congrArg some (fail_congr halike _)
    · rcases readLE data 4 (ptr + 4) with _ | hist
      · rfl
      rcases readLE data 4 (ptr + 8) with _ | pre
      · rfl
      exact congrArg some <| next_congr <|
        seen_eq_iff.mpr ⟨⟨halike.rest, halike.sm_info, rfl, rfl, halike.out⟩, hlevels⟩
  rw [if_neg hhist, if_neg hhist]
  by_cases hmode : key_id = ST_PARAM_KEY_DETECTION_PERF_MODE
  · rw [if_pos hmode, if_pos hmode]
    split_ifs
    · exact congrArg some (fail_congr halike _)
    · rcases readLE data 4 (ptr + 4) with _ | mode
      · rfl
      dsimp only [Option.bind_some]
      split_ifs
      · exact congrArg some (next_congr h)
      · rfl
  rw [if_neg hmode, if_neg hmode]
  by_cases hmma : key_id = ST_PARAM_KEY_MMA_THRESHOLD_CONFIG
  · rw [if_pos hmma, if_pos hmma]
    split_ifs
    · rcases slice data ptr (field data (ptr - 4)) with _ | payload
      · rfl
      exact congrArg some (next_congr <| seen_eq_iff.mpr ⟨{ halike with out := rfl }, hlevels⟩)
    · exact congrArg some (fail_congr { halike with out := by rw [halike.out] } _)
  rw [if_neg hmma, if_neg hmma]
  by_cases htiuv : key_id = ST_PARAM_KEY_TIUV_THRESHOLD_CONFIG
  · rw [if_pos htiuv, if_pos htiuv]
    split_ifs
    · exact congrArg some (fail_congr halike _)
    · rcases slice data ptr (field data (ptr - 4)) with _ | payload
      · rfl
      exact congrArg some (next_congr <| seen_eq_iff.mpr ⟨{ halike with }, hlevels⟩)
  rw [if_neg htiuv, if_neg htiuv]
  by_cases hcap : key_id = ST_PARAM_KEY_HIST_CAPTURE_MODE
  · rw [if_pos hcap, if_pos hcap]
    split_ifs
    · exact congrArg some (fail_congr halike _)
    · rcases slice data ptr (field data (ptr - 4)) with _ | payload
      · rfl
      exact congrArg some (next_congr <| seen_eq_iff.mpr ⟨{ halike with }, hlevels⟩)
  rw [if_neg hcap, if_neg hcap]
  exact congrArg some (fail_congr halike _)

theorem finish_congr (h : seen s st = seen s st') :
    (st.finish s).seen s = (st'.finish s).seen s := by
  obtain ⟨halike, hlevels⟩ := seen_eq_iff.mp h
  have hdefault : st.I.default_buf_config_ = st'.I.default_buf_config_ :=
    congrArg View.default_buf_config_ halike.rest
  unfold finish
  dsimp only
  rw [seen_finished, seen_finished, hdefault, halike.rest, halike.sm_info,
    halike.hist_buffer_duration, halike.pre_roll_duration, halike.out]
  rw [halike.sm_info] at hlevels
  exact congrArg (Prod.mk _) hlevels

/-- Where the parser failed, the templates are gone. -/
theorem seen_errorExit (st : Parsing M) :
    (st.errorExit s).seen s =
      ({ st.I.rest s with info := some st.sm_info }, st.I.freed.startLevels st.sm_info) :=
  seen_setInfo (I := st.I.freed) st.sm_info

/-- **The end of the parser.** -/
theorem exit_congr {e f : Except (Parsing M × ℤ) (Parsing M)}
    (h : seenEnd (seen s) (seenFail s) e = seenEnd (seen s) (seenFail s) f) :
    ((exit s e).1.seen s, (exit s e).2) = ((exit s f).1.seen s, (exit s f).2) := by
  cases e with
  | ok st =>
    cases f with
    | ok st' => exact congrArg (fun x => (x, (0 : ℤ))) (finish_congr (Except.ok.inj h))
    | error _ => cases h
  | error r =>
    cases f with
    | ok _ => cases h
    | error r' =>
      obtain ⟨hrest, hinfo, hstatus⟩ : r.1.I.rest s = r'.1.I.rest s ∧
          r.1.sm_info = r'.1.sm_info ∧ r.2 = r'.2 := by
        have heq := Except.error.inj h
        exact ⟨congrArg Prod.fst heq, congrArg (fun x => x.2.1) heq, congrArg (fun x => x.2.2) heq⟩
      have hmodule : r.1.I.module_type_ = r'.1.I.module_type_ := congrArg View.module_type_ hrest
      unfold exit
      dsimp only
      rw [seen_errorExit, seen_errorExit, hrest, hinfo, hstatus, startLevels_freed hmodule]

end Parsing

section OwnConfig

variable {M : Type} {I J : SVAInterface M} {s : StreamId}

theorem seen_begin (h : I.seen s = J.seen s) {i : sound_model_info M}
    (hi : J.sm_info_map_[s]? = some i) (config : pal_st_recognition_config) (out : ConfLevelsOut) :
    Parsing.seen s { Parsing.begin I i config with out := out } =
      Parsing.seen s { Parsing.begin J i config with out := out } := by
  have hlevels := startLevels_of_seen h hi
  exact Parsing.seen_eq_iff.mpr ⟨⟨view_rest (Prod.mk.inj h).1, rfl, rfl, rfl, rfl⟩, hlevels⟩

/-- **A config of the stream.** What it does to what is seen depends on what is seen. -/
theorem parseRecognitionConfig_congr (h : I.seen s = J.seen s) (env : ConfigEnv)
    (config : Option pal_st_recognition_config) :
    (I.parseRecognitionConfig env s config).map (fun r => (r.1.seen s, r.2)) =
      (J.parseRecognitionConfig env s config).map fun r => (r.1.seen s, r.2) := by
  have hview := (Prod.mk.inj h).1
  have hinfo := view_info hview
  cases hi : J.sm_info_map_[s]? with
  | none =>
    unfold SVAInterface.parseRecognitionConfig
    rw [hinfo, hi]
    exact congrArg (fun x => some (x, - EINVAL)) h
  | some i =>
    cases config with
    | none =>
      unfold SVAInterface.parseRecognitionConfig
      rw [hinfo, hi]
      dsimp only
      have hlevels := startLevels_of_seen h hi
      rw [Option.map_some, Option.map_some, seen_setInfo, seen_setInfo, view_rest hview]
      exact congrArg (fun x => some ((_, x), - EINVAL)) hlevels
    | some config =>
      have hbegin := seen_begin h hi config
      rw [parseRecognitionConfig_some env config (hinfo.trans hi),
        parseRecognitionConfig_some env config hi]
      split_ifs with hsize htype
      · have hwalk := walk_seen_eq (H := st_param_header) (b := config.opaqueData)
          (Parsing.parseParam_congr env config.opaqueData) (config.data_size + 1) 0 0
          (hbegin ⟨none, 0⟩)
        rw [Option.map_map, Option.map_map]
        exact map_eq_of_map_eq (fun _ _ => Parsing.exit_congr) hwalk
      · obtain ⟨⟨out, status⟩, hfill⟩ : ∃ r, fillConfLevels env.phraseLevels i.model_id
            (some i.model_phrases) (some config.phrases) ⟨none, 0⟩ = r := ⟨_, rfl⟩
        rw [hfill]
        dsimp only
        split_ifs with hstatus
        · have halike := (Parsing.seen_eq_iff.mp (hbegin out)).1
          exact congrArg some <| Parsing.exit_congr (e := .error (_, _)) (f := .error (_, _)) <|
            congrArg Except.error (Parsing.seenFail_congr halike _)
        · exact congrArg (fun x => some (x, (0 : ℤ))) (Parsing.finish_congr (hbegin _))
      · exact congrArg (fun x => some (x, (0 : ℤ))) (Parsing.finish_congr (hbegin ⟨none, 0⟩))

end OwnConfig

end AudioReachPal.Sva
