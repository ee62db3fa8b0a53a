import AudioReachPal.Sva.EventView

/-!
# The ids in an event

The levels in an event have the ids and the counts of the levels that it starts from: what is packed
over them are levels only.
-/

namespace AudioReachPal.Sva

open AudioReachPal.Lib

/-! ### Levels with the same ids -/

namespace st_keyword_levels

variable {kw kw' : st_keyword_levels}

/-- The users in use have the same ids. -/
theorem ids_congr (hnum : kw'.num_user_levels = kw.num_user_levels)
    (husers : ∀ (k : ℕ) (hk : k < ST_MAX_USERS), k < kw.num_user_levels →
      kw'.user_levels[k].user_id = kw.user_levels[k].user_id) : kw'.ids = kw.ids := by
  unfold ids
  rw [hnum]
  congr 1
  refine Vector.ext fun k hk => ?_
  rw [Vector.getElem_mapIdx, Vector.getElem_mapIdx]
  split_ifs with hused
  · rw [husers k hk hused]
  · rfl

theorem ids_ids (kw : st_keyword_levels) : kw.ids.ids = kw.ids := by
  refine ids_congr rfl fun k hk hused => ?_
  unfold ids
  rw [Vector.getElem_mapIdx, if_pos hused]

/-- Levels are written over the users. -/
theorem ids_of_levels (kw_level : ℤ) {f : ℕ → st_user_levels → st_user_levels}
    (hf : ∀ k user, (f k user).user_id = user.user_id) :
    ids { kw with kw_level := kw_level, user_levels := kw.user_levels.mapIdx f } = kw.ids := by
  refine ids_congr rfl fun k hk _ => ?_
  rw [Vector.getElem_mapIdx]
  exact hf k _

end st_keyword_levels

namespace st_sound_model_conf_levels

variable {sm sm' : st_sound_model_conf_levels}

theorem ids_congr (hid : sm'.sm_id = sm.sm_id) (hnum : sm'.num_kw_levels = sm.num_kw_levels)
    (hkws : ∀ (j : ℕ) (hj : j < ST_MAX_KEYWORDS), j < sm.num_kw_levels →
      sm'.kw_levels[j].ids = sm.kw_levels[j].ids) : sm'.ids = sm.ids := by
  unfold ids
  rw [hid, hnum]
  congr 1
  refine Vector.ext fun j hj => ?_
  rw [Vector.getElem_mapIdx, Vector.getElem_mapIdx]
  split_ifs with hused
  · exact hkws j hj hused
  · rfl

theorem ids_ids (sm : st_sound_model_conf_levels) : sm.ids.ids = sm.ids := by
  refine ids_congr rfl rfl fun j hj hused => ?_
  unfold ids
  rw [Vector.getElem_mapIdx, if_pos hused]
  exact st_keyword_levels.ids_ids _

/-- Levels are written over the keywords. -/
theorem ids_of_levels {f : ℕ → st_keyword_levels → st_keyword_levels}
    (hf : ∀ j kw, (f j kw).ids = kw.ids) :
    ids { sm with kw_levels := sm.kw_levels.mapIdx f } = sm.ids := by
  refine ids_congr rfl rfl fun j hj _ => ?_
  rw [Vector.getElem_mapIdx]
  exact hf j _

theorem ids_packFirstStage {M : Type} (sm : st_sound_model_conf_levels) (version past : ℕ)
    (info : SoundModelInfo M) : (sm.packFirstStage version past info).ids = sm.ids := by
  refine ids_of_levels fun j kw => ?_
  split_ifs
  · refine st_keyword_levels.ids_of_levels _ fun k user => ?_
    split_ifs
    · rcases info.detLevel past user.user_id with _ | level <;> rfl
    · rfl
  · rfl

theorem ids_setFirst (sm : st_sound_model_conf_levels) (kw_level level : ℤ) :
    (sm.setFirst kw_level level).ids = sm.ids := by
  refine ids_of_levels fun j kw => ?_
  split_ifs
  · refine st_keyword_levels.ids_of_levels _ fun k user => ?_
    split_ifs <;> rfl
  · rfl

theorem ids_setDetected (sm : st_sound_model_conf_levels) (det_keyword_id : ℕ) (kw_level : ℤ) :
    (sm.setDetected det_keyword_id kw_level).ids = sm.ids := by
  refine ids_of_levels fun j kw => ?_
  split_ifs
  · refine st_keyword_levels.ids_of_levels _ fun k user => ?_
    split_ifs <;> rfl
  · rfl

/-- A loop whose rounds write levels. -/
theorem ids_foldl {α : Type} {f : st_sound_model_conf_levels → α → st_sound_model_conf_levels}
    (hf : ∀ sm a, (f sm a).ids = sm.ids) (as : List α) (sm : st_sound_model_conf_levels) :
    (as.foldl f sm).ids = sm.ids := by
  induction as generalizing sm with
  | nil => rfl
  | cons a as ih => rw [List.foldl_cons, ih, hf]

theorem ids_packSecondStage (sm : st_sound_model_conf_levels) (version : ℕ)
    (sec_det_level : List (ℕ × ℤ)) : (sm.packSecondStage version sec_det_level).ids = sm.ids := by
  refine ids_foldl (fun sm a => ?_) _ _
  obtain ⟨type, level⟩ := a
  dsimp only
  split_ifs
  · exact ids_setFirst _ _ _
  · exact ids_setFirst _ _ _
  · rfl
  · exact ids_setFirst _ _ _
  · rfl

theorem ids_fillSecondStage (sm : st_sound_model_conf_levels) (version : ℕ)
    (sec_det_level : List (ℕ × ℤ)) : (sm.fillSecondStage version sec_det_level).ids = sm.ids := by
  unfold fillSecondStage
  split_ifs
  · refine ids_foldl (fun sm a => ?_) _ _
    obtain ⟨type, level⟩ := a
    dsimp only
    split_ifs
    · exact ids_setFirst _ _ _
    · rfl
  · refine ids_foldl (fun sm a => ?_) _ _
    obtain ⟨type, level⟩ := a
    dsimp only
    split_ifs
    · exact ids_setFirst _ _ _
    · rfl
  · rfl

end st_sound_model_conf_levels

namespace st_confidence_levels_info

variable {c c' : st_confidence_levels_info}

theorem ids_congr (hnum : c'.num_sound_models = c.num_sound_models)
    (hmodels : ∀ (i : ℕ) (hi : i < ST_MAX_SOUND_MODELS), i < c.num_sound_models →
      c'.conf_levels[i].ids = c.conf_levels[i].ids) : c'.ids = c.ids := by
  unfold ids
  rw [hnum]
  congr 1
  refine Vector.ext fun i hi => ?_
  rw [Vector.getElem_mapIdx, Vector.getElem_mapIdx]
  split_ifs with hused
  · exact hmodels i hi hused
  · rfl

theorem ids_ids (c : st_confidence_levels_info) : c.ids.ids = c.ids := by
  refine ids_congr rfl fun i hi hused => ?_
  unfold ids
  rw [Vector.getElem_mapIdx, if_pos hused]
  exact st_sound_model_conf_levels.ids_ids _

/-- Levels are written over the models in use. -/
theorem ids_updateModels {f : st_sound_model_conf_levels → st_sound_model_conf_levels}
    (hf : ∀ sm, (f sm).ids = sm.ids) : (c.updateModels f).ids = c.ids := by
  refine ids_congr rfl fun i hi hused => ?_
  unfold updateModels
  rw [Vector.getElem_mapIdx, if_pos hused]
  exact hf _

end st_confidence_levels_info

/-! ### The levels that are packed -/

section Packed

variable {M : Type} {I : SVAInterface M} {s : StreamId} {i : sound_model_info M} {env : EventEnv}

theorem ids_packEventConfLevels {past : ℕ} {c c' : st_confidence_levels_info}
    (h : packEventConfLevels past i c = some c') : c'.ids = c.ids := by
  unfold packEventConfLevels at h
  dsimp only at h
  cases hinfo : i.info with
  | none =>
    rw [hinfo] at h
    dsimp only at h
    split_ifs at h
    cases h
    refine st_confidence_levels_info.ids_updateModels fun sm => ?_
    split_ifs
    · rfl
    · exact st_sound_model_conf_levels.ids_packSecondStage sm _ _
  | some info =>
    rw [hinfo] at h
    dsimp only at h
    split_ifs at h
    cases h
    refine st_confidence_levels_info.ids_updateModels fun sm => ?_
    split_ifs
    · exact st_sound_model_conf_levels.ids_packFirstStage sm _ _ _
    · exact st_sound_model_conf_levels.ids_packSecondStage sm _ _

theorem ids_fillCallbackConfLevels {c c' : st_confidence_levels_info} {keyword level : ℕ}
    (h : fillCallbackConfLevels i c keyword level = some c') : c'.ids = c.ids := by
  unfold fillCallbackConfLevels at h
  dsimp only at h
  split_ifs at h
  cases h
  refine st_confidence_levels_info.ids_updateModels fun sm => ?_
  split_ifs
  · exact st_sound_model_conf_levels.ids_setDetected sm _ _
  · exact st_sound_model_conf_levels.ids_fillSecondStage sm _ _

theorem ids_packConfLevels {info : DetectionInfo} {c : st_confidence_levels_info}
    {packed : st_confidence_levels_info × ℕ × ℕ} (h : packConfLevels env i info c = some packed) :
    packed.1.ids = c.ids := by
  unfold packConfLevels at h
  split_ifs at h
  · cases info with
    | pdk_event_info_ det_ev_info =>
      obtain ⟨det_model_stat, -, h⟩ := Option.bind_eq_some_iff.mp h
      obtain ⟨c', hfill, rfl⟩ := Option.map_eq_some_iff.mp h
      exact ids_fillCallbackConfLevels hfill
    | event_info_ _ => cases h
    | mma_event_info_ _ => cases h
  · cases info with
    | event_info_ det_ev_info =>
      obtain ⟨c', hpack, rfl⟩ := Option.map_eq_some_iff.mp h
      exact ids_packEventConfLevels hpack
    | pdk_event_info_ _ => cases h
    | mma_event_info_ _ => cases h

/-- The record has levels with the ids of `start`. -/
def Record.HasIds (start : st_confidence_levels_info) (r : Record) : Prop :=
  ∀ c, r.payload = .conf_levels c → c.ids = start.ids

theorem hasIds_prop {start : st_confidence_levels_info} (perf_mode_ : Bool) (f : Filled M) (prop : ℕ)
    (hf : ∀ r ∈ f.records, Record.HasIds start r) :
    ∀ r ∈ (f.prop perf_mode_ prop).records, Record.HasIds start r := by
  have hput : ∀ (key_id size : ℕ) (payload : Payload), (∀ c, payload ≠ .conf_levels c) →
      ∀ r ∈ (f.put key_id size payload).records, Record.HasIds start r := by
    intro key_id size payload hpayload r hr
    rcases List.mem_append.mp hr with hr | hr
    · exact hf r hr
    · rw [List.mem_singleton.mp hr]
      exact fun c hc => absurd hc (hpayload c)
  unfold Filled.prop
  split_ifs
  · rcases f.sm_info.ftrt_data_ with _ | data
    · exact hf
    · exact hput _ _ _ (by simp)
  · rcases f.sm_info.ftrt_data_ with _ | data <;> exact hf
  · exact hput _ _ _ (by simp)
  · exact hput _ _ _ (by simp)
  · exact hput _ _ _ (by simp)
  · exact hf

/-- The extended payload has no levels. -/
theorem hasIds_fillExtended (start : st_confidence_levels_info) (data size : ℕ) :
    ∀ r ∈ (I.fillExtendedDetectionPayload s data size).2.1, Record.HasIds start r := by
  have hfill : ∀ (props : List ℕ) (f : Filled M), (∀ r ∈ f.records, Record.HasIds start r) →
      ∀ r ∈ (props.foldl (Filled.prop I.perf_mode_) f).records, Record.HasIds start r := by
    intro props
    induction props with
    | nil => exact fun f hf => hf
    | cons prop props ih => exact fun f hf => ih _ (hasIds_prop _ f prop hf)
  unfold SVAInterface.fillExtendedDetectionPayload
  split_ifs
  · simp
  · rcases I.sm_info_map_[s]? with _ | i
    · simp
    · exact hfill _ _ (by simp)

/-- The records of an event whose levels start from `start`. -/
theorem hasIds_packRecords {start : st_confidence_levels_info} (det_event : detection_event) (n : ℕ)
    {packed : st_confidence_levels_info × ℕ × ℕ} (hpacked : packed.1.ids = start.ids) :
    ∀ r ∈ (I.packRecords s i det_event n packed).2.2, Record.HasIds start r := by
  obtain ⟨conf_levels, lsw, msw⟩ := packed
  unfold SVAInterface.packRecords
  refine List.forall_mem_cons.mpr ⟨fun c hc => ?_, List.forall_mem_cons.mpr ⟨fun c hc => ?_,
    List.forall_mem_cons.mpr ⟨fun c hc => ?_, hasIds_fillExtended start _ _⟩⟩⟩
  · cases hc
    exact hpacked
  · cases hc
  · cases hc

/-- **The ids in what is packed** are those of the levels that the stream starts from. -/
theorem hasIds_packDetectionOpaqueData {start : st_confidence_levels_info}
    (htype : ∀ j, I.sm_info_map_[s]? = some j → I.module_type_ ≠ .ST_MODULE_TYPE_MMA →
      I.module_type_ ≠ .ST_MODULE_TYPE_HIST_CAP → j.type = .PAL_SOUND_MODEL_TYPE_KEYPHRASE)
    (hstart : ∀ x, I.ownLevels s = some (some x) → x.ids = start.ids) {n : ℕ}
    {packed : SVAInterface M × ℤ × List Record}
    (h : I.packDetectionOpaqueData env s n = some packed) :
    ∀ r ∈ packed.2.2, Record.HasIds start r := by
  unfold SVAInterface.packDetectionOpaqueData at h
  split_ifs at h with hmma hhist
  · cases hdet : I.det_event_info_ s with
    | none =>
      rw [hdet] at h
      cases h
      simp
    | some det_event =>
      rw [hdet] at h
      obtain ⟨info, start_index, end_index⟩ := det_event
      cases info with
      | mma_event_info_ bytes =>
        cases h
        exact List.forall_mem_cons.mpr ⟨fun c hc => (by cases hc), hasIds_fillExtended start _ _⟩
      | event_info_ _ => cases h
      | pdk_event_info_ _ => cases h
  · cases h
    exact List.forall_mem_cons.mpr ⟨fun c hc => (by cases hc), by simp⟩
  · cases hi : I.sm_info_map_[s]? with
    | none =>
      rw [hi] at h
      cases h
    | some i =>
      cases hdet : I.det_event_info_ s with
      | none =>
        rw [hi, hdet] at h
        cases h
        simp
      | some det_event =>
        rw [hi, hdet] at h
        obtain ⟨levels, hlevels, rfl⟩ := Option.map_eq_some_iff.mp h
        obtain ⟨x, hx, hpack⟩ := Option.bind_eq_some_iff.mp hlevels
        rw [initCallbackConfLevels_eq] at hx
        have hown : I.ownLevels s = some (some x) := by
          unfold SVAInterface.ownLevels SVAInterface.startLevels
          rw [hi, Option.bind_some, if_pos ⟨htype i hi hmma hhist, hmma, hhist⟩, hx]
        exact hasIds_packRecords det_event n ((ids_packConfLevels hpack).trans (hstart x hown))

/-- **The ids in an event** are those of the levels that the stream starts from. -/
theorem hasIds_generateCallbackEvent {start : st_confidence_levels_info}
    (hstart : ∀ x, I.ownLevels s = some (some x) → x.ids = start.ids) {out : EventOut M}
    (h : I.generateCallbackEvent env s = some out) {event : pal_st_recognition_event}
    (hevent : out.event = some event) : ∀ r ∈ event.opaque_data, Record.HasIds start r := by
  unfold SVAInterface.generateCallbackEvent at h
  cases hi : I.sm_info_map_[s]? with
  | none =>
    rw [hi] at h
    cases h
    cases hevent
  | some i =>
    rw [hi] at h
    dsimp only at h
    cases htype : i.type with
    | PAL_SOUND_MODEL_TYPE_KEYPHRASE =>
      rw [htype] at h
      dsimp only at h
      split_ifs at h
      · cases h
        cases hevent
      · cases hconfig : i.rec_config with
        | none =>
          rw [hconfig] at h
          cases h
          cases hevent
        | some rec_config =>
          rw [hconfig] at h
          obtain ⟨packed, hpacked, rfl⟩ := Option.map_eq_some_iff.mp h
          cases hevent
          exact hasIds_packDetectionOpaqueData
            (fun j hj _ _ => by rw [← Option.some.inj (hi.symm.trans hj), htype]) hstart hpacked
    | PAL_SOUND_MODEL_TYPE_GENERIC =>
      rw [htype] at h
      dsimp only at h
      split_ifs at h with hcalloc hopaque
      · cases h
        cases hevent
      · cases hconfig : i.rec_config with
        | none =>
          rw [hconfig] at h
          cases h
        | some rec_config =>
          rw [hconfig] at h
          obtain ⟨packed, hpacked, rfl⟩ := Option.map_eq_some_iff.mp h
          cases hevent
          exact hasIds_packDetectionOpaqueData
            (fun _ _ hmma hhist => (genericSize_reads hopaque hmma hhist).elim) hstart hpacked
      · cases hconfig : i.rec_config with
        | none =>
          rw [hconfig] at h
          cases h
        | some rec_config =>
          rw [hconfig] at h
          cases h
          cases hevent
          exact List.forall_mem_nil _
    | PAL_SOUND_MODEL_TYPE_UNKNOWN =>
      rw [htype] at h
      cases h
      cases hevent

end Packed

end AudioReachPal.Sva
