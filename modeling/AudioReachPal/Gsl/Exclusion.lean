import AudioReachPal.Gsl.Detection
import Mathlib.Algebra.Ring.Nat

/-!
# Exclusion of detections between the engines

At most one engine has a count, in every run. That an engine which is neither detecting nor
buffering has none, so that it blocks no other engine, needs more: the handlers that leave the
detection must lower the count as often as it was raised. Here is, for each handler, the exact
condition, and the runs it gives.
-/

namespace AudioReachPal.Gsl.Detection

open AudioReachPal.Lib

open eng_state_t st_module_type_t st_param_id_type_t

/-- `updateSessionPayload(.., ENGINE_RESET)` comes to its end. -/
def EngineConfig.Executes (cfg : EngineConfig) (a : PayloadAnswers) : Prop :=
  (cfg.payloadIds ENGINE_RESET).1 ≠ 0 ∧ (cfg.payloadIds ENGINE_RESET).2 ≠ 0 ∧ a.getMIID = 0 ∧
    a.getParameter = 0 ∧ a.payloadConfig = 0 ∧ a.payload = true

instance (cfg : EngineConfig) (a : PayloadAnswers) : Decidable (cfg.Executes a) :=
  inferInstanceAs (Decidable (_ ∧ _))

/-- By how much a reset lowers the count. -/
def EngineConfig.resets (cfg : EngineConfig) (a : PayloadAnswers) : ℕ :=
  if cfg.Executes a then 1 else 0

namespace Engine

/-- The engine is neither detecting nor buffering. -/
def Quiet (eng : Engine) : Prop := eng.eng_state_ ≠ ENG_DETECTED ∧ eng.eng_state_ ≠ ENG_BUFFERING

/-- A quiet engine has no count. -/
def Free (eng : Engine) : Prop := eng.Quiet → eng.eng_det_stat = 0

variable {eng : Engine}

theorem free_iff_of_quiet (h : eng.Quiet) : eng.Free ↔ eng.eng_det_stat = 0 :=
  ⟨fun hf => hf h, fun hz _ => hz⟩

theorem free_of_not_quiet (h : ¬eng.Quiet) : eng.Free := fun hq => absurd hq h

theorem quiet_of_not_active (h : eng.isEngineActive = false) : eng.Quiet := by
  unfold isEngineActive at h
  unfold Quiet
  cases hs : eng.eng_state_ <;> simp_all

/-! ### Payloads -/

theorem updateSessionPayload_reset (eng : Engine) (a : PayloadAnswers) :
    (eng.updateSessionPayload false ENGINE_RESET a).2 =
      { eng with eng_det_stat := eng.eng_det_stat - eng.resets a } := by
  have hzero : { eng with eng_det_stat := eng.eng_det_stat - 0 } = eng := rfl
  unfold updateSessionPayload EngineConfig.resets
  by_cases hids : (eng.payloadIds ENGINE_RESET).1 = 0 ∨ (eng.payloadIds ENGINE_RESET).2 = 0
  · have hnot : ¬eng.Executes a := by
      rintro ⟨h1, h2, -⟩
      exact hids.elim h1 h2
    rw [if_pos hids, if_neg hnot, hzero]
  rw [if_neg hids]
  by_cases hmiid : a.getMIID ≠ 0
  · rw [if_pos hmiid, if_neg (fun h => hmiid h.2.2.1), hzero]
  rw [if_neg hmiid]
  by_cases hget : a.getParameter ≠ 0
  · rw [if_neg (fun h : eng.Executes a => hget h.2.2.2.1), hzero]
    simp [interfacePayload, hget]
  by_cases hcfg : a.payloadConfig ≠ 0 ∨ a.payload = false
  · have hnot : ¬eng.Executes a := by
      rintro ⟨-, -, -, -, h1, h2⟩
      rcases hcfg with h | h
      · exact h h1
      · simp [h] at h2
    rw [if_neg hnot, hzero]
    simp [interfacePayload, hget, hcfg]
  · have hex : eng.Executes a := by
      push Not at hids hmiid hget hcfg
      exact ⟨hids.1, hids.2, hmiid, hget, hcfg.1, by simpa using hcfg.2⟩
    rw [if_pos hex]
    simp only [interfacePayload, hget, hcfg, updateGlobalDetectionStatus]
    by_cases hcount : eng.eng_det_stat = 0
    · simp [hcount]
      simp [← hcount]
    · simp [hcount]

/-- The state and the count are the same. -/
def Keeps (eng eng' : Engine) : Prop :=
  eng'.eng_state_ = eng.eng_state_ ∧ eng'.eng_det_stat = eng.eng_det_stat

theorem Keeps.refl (eng : Engine) : eng.Keeps eng := ⟨rfl, rfl⟩

theorem Keeps.trans {eng eng' eng'' : Engine} (h : eng.Keeps eng') (h' : eng'.Keeps eng'') :
    eng.Keeps eng'' := ⟨h'.1.trans h.1, h'.2.trans h.2⟩

theorem Keeps.quiet {eng' : Engine} (h : eng.Keeps eng') (hq : eng.Quiet) : eng'.Quiet := by
  unfold Quiet
  rw [h.1]
  exact hq

theorem interfacePayload_keeps {param : st_param_id_type_t} {a : PayloadAnswers} {eng' : Engine}
    (h : eng.interfacePayload param a = .ok eng') : eng.Keeps eng' := by
  unfold interfacePayload at h
  cases param <;> simp only at h <;> (try split_ifs at h) <;> cases h <;> exact ⟨rfl, rfl⟩

/-- The other payloads leave the state and the count. -/
theorem updateSessionPayload_keeps {param : st_param_id_type_t} (hp : param ≠ ENGINE_RESET)
    (eng : Engine) (a : PayloadAnswers) :
    eng.Keeps (eng.updateSessionPayload false param a).2 := by
  unfold updateSessionPayload
  by_cases hids : (eng.payloadIds param).1 = 0 ∨ (eng.payloadIds param).2 = 0
  · rw [if_pos hids]
    exact .refl eng
  rw [if_neg hids]
  by_cases hmiid : a.getMIID ≠ 0
  · rw [if_pos hmiid]
    exact .refl eng
  rw [if_neg hmiid]
  cases hi : eng.interfacePayload param a with
  | error status => exact .refl eng
  | ok eng' =>
    simp only [hp, false_and, if_false]
    split_ifs <;> exact interfacePayload_keeps hi

theorem resetLowerConfidence_eq (as : List PayloadAnswers) :
    ∀ eng : Engine, ∃ k, eng.resetLowerConfidence false as =
      { eng with eng_det_stat := eng.eng_det_stat - k } := by
  induction as with
  | nil => exact fun eng => ⟨0, rfl⟩
  | cons a as ih =>
    intro eng
    obtain ⟨k, hk⟩ := ih (eng.updateSessionPayload false ENGINE_RESET a).2
    refine ⟨eng.resets a + k, ?_⟩
    rw [resetLowerConfidence, hk, updateSessionPayload_reset]
    simp [Nat.sub_sub]

/-! ### Stops and starts -/

theorem processStopRecognition_spec (eng : Engine) (a : StopAnswers) :
    (eng.processStopRecognition false a).2.Quiet ∧
      (eng.processStopRecognition false a).2.eng_det_stat =
        eng.eng_det_stat - eng.resets a.reset := by
  simp [processStopRecognition, updateSessionPayload_reset, updateState, Quiet]

theorem updateConfigsToSession_keeps (eng : Engine) (a : StartAnswers) :
    eng.Keeps (eng.updateConfigsToSession false a).2 := by
  have hbuf : ∀ e : Engine,
      e.Keeps (e.updateSessionPayload false BUFFERING_CONFIG a.bufferingConfig).2 :=
    fun e => updateSessionPayload_keeps (by decide) e _
  have hcfg : ∀ p ∈ [WAKEUP_CONFIG, BUFFERING_MODE_CONFIG, CUSTOM_CONFIG],
      eng.Keeps (eng.updateSessionPayload false p a.config).2 := by
    intro p hp
    refine updateSessionPayload_keeps ?_ eng _
    rintro rfl
    simp at hp
  unfold updateConfigsToSession
  simp only
  split_ifs
  · exact hcfg _ (by simp)
  · exact (hcfg _ (by simp)).trans (hbuf _)
  · exact hcfg _ (by simp)
  · exact (hcfg _ (by simp)).trans (hbuf _)
  · exact hcfg _ (by simp)
  · exact (hcfg _ (by simp)).trans (hbuf _)
  · exact .refl eng
  · exact hbuf eng

/-- A start leaves a quiet engine quiet, with its count. -/
theorem processStartRecognition_spec (a : StartAnswers) (hq : eng.Quiet) :
    (eng.processStartRecognition false a).2.Quiet ∧
      (eng.processStartRecognition false a).2.eng_det_stat = eng.eng_det_stat := by
  have hkeep := updateConfigsToSession_keeps eng a
  have hq' := hkeep.quiet hq
  unfold processStartRecognition
  simp only
  split_ifs
  all_goals first
    | exact ⟨hq', hkeep.2⟩
    | exact ⟨by simp [updateState, Quiet], hkeep.2⟩

theorem stopIfActive_spec (eng : Engine) (a : StopAnswers) :
    (eng.stopIfActive false a).Quiet ∧ (eng.stopIfActive false a).eng_det_stat =
      if eng.isEngineActive then eng.eng_det_stat - eng.resets a.reset else eng.eng_det_stat := by
  unfold stopIfActive
  cases hact : eng.isEngineActive with
  | true => simpa using processStopRecognition_spec eng a
  | false => simpa using quiet_of_not_active hact

/-- The stop of an active engine lowers its count to 0. -/
def StopReleases (eng : Engine) (a : StopAnswers) : Prop :=
  eng.isEngineActive = true → eng.eng_det_stat ≤ eng.resets a.reset

theorem stopIfActive_eq_zero_iff (h : eng.Free) (a : StopAnswers) :
    (eng.stopIfActive false a).eng_det_stat = 0 ↔ eng.StopReleases a := by
  rw [(stopIfActive_spec eng a).2]
  unfold StopReleases
  cases hact : eng.isEngineActive with
  | true => simp [Nat.sub_eq_zero_iff_le]
  | false => simpa using h (quiet_of_not_active hact)

theorem free_startRecognition_iff (h : eng.Free) (d : Bool) (stop : StopAnswers)
    (start : StartAnswers) (online : Bool) :
    (eng.startRecognition false d stop start online).2.Free ↔ (d = false → eng.StopReleases stop) := by
  unfold startRecognition
  cases d with
  | true => simpa using h
  | false =>
    obtain ⟨hq, hcount⟩ := processStartRecognition_spec start (stopIfActive_spec eng stop).1
    have hfree := free_iff_of_quiet hq
    rw [hcount, stopIfActive_eq_zero_iff h] at hfree
    simpa using hfree

theorem free_stopRecognition_iff (h : eng.Free) (stop : StopAnswers) (other : Bool)
    (start : StartAnswers) (online : Bool) :
    (eng.stopRecognition false stop other start online).2.Free ↔ eng.StopReleases stop := by
  unfold stopRecognition StopReleases
  cases hact : eng.isEngineActive with
  | false => simpa using h
  | true =>
    obtain ⟨hq, hcount⟩ := processStopRecognition_spec eng stop
    obtain ⟨hq', hcount'⟩ := processStartRecognition_spec start hq
    have hzero : eng.eng_det_stat - eng.resets stop.reset = 0 ↔
        eng.eng_det_stat ≤ eng.resets stop.reset := Nat.sub_eq_zero_iff_le
    simp only [if_true, forall_const]
    split_ifs
    · rw [free_iff_of_quiet hq', hcount', hcount, hzero]
    · rw [free_iff_of_quiet hq, hcount, hzero]

/-! ### Loads and unloads -/

theorem quiet_updateState {state : eng_state_t} (h : state = ENG_IDLE ∨ state = ENG_LOADED)
    (eng : Engine) : (eng.updateState state).Quiet := by
  rcases h with rfl | rfl <;> simp [updateState, Quiet]

theorem handleMultiStreamLoad_spec (eng : Engine) (a : ModelAnswers) :
    (eng.handleMultiStreamLoad false a).2.Quiet ∧
      (eng.handleMultiStreamLoad false a).2.eng_det_stat =
        (eng.stopIfActive false a.stop).eng_det_stat := by
  obtain ⟨hq, -⟩ := stopIfActive_spec eng a.stop
  unfold handleMultiStreamLoad
  simp only
  -- the engine that is stopped, and idle if its session is opened again
  have hidle : ∃ e : Engine, (if (eng.stopIfActive false a.stop).is_multi_model_supported_ = true
        then eng.stopIfActive false a.stop
        else (eng.stopIfActive false a.stop).updateState ENG_IDLE) = e ∧ e.Quiet ∧
      e.eng_det_stat = (eng.stopIfActive false a.stop).eng_det_stat := by
    refine ⟨_, rfl, ?_⟩
    split_ifs
    · exact ⟨hq, rfl⟩
    · exact ⟨quiet_updateState (.inl rfl) _, rfl⟩
  obtain ⟨e, he, hqe, hcount⟩ := hidle
  rw [he, ← hcount]
  have hkeep := updateSessionPayload_keeps (show LOAD_SOUND_MODEL ≠ ENGINE_RESET by decide) e a.payload
  have hloaded := quiet_updateState (.inr rfl)
    (e.updateSessionPayload false LOAD_SOUND_MODEL a.payload).2
  split_ifs
  · exact ⟨hqe, rfl⟩
  · exact ⟨hqe, rfl⟩
  · exact ⟨hkeep.quiet hqe, hkeep.2⟩
  · obtain ⟨h1, h2⟩ := processStartRecognition_spec a.start hloaded
    exact ⟨h1, h2.trans hkeep.2⟩
  · exact ⟨hloaded, hkeep.2⟩

theorem handleMultiStreamUnload_spec (eng : Engine) (a : ModelAnswers) :
    (eng.handleMultiStreamUnload false a).2.Quiet ∧
      (eng.handleMultiStreamUnload false a).2.eng_det_stat =
        (eng.stopIfActive false a.stop).eng_det_stat := by
  obtain ⟨hq, -⟩ := stopIfActive_spec eng a.stop
  have hunload := updateSessionPayload_keeps (show UNLOAD_SOUND_MODEL ≠ ENGINE_RESET by decide)
    (eng.stopIfActive false a.stop) a.payload
  have hidle := quiet_updateState (.inl rfl) (eng.stopIfActive false a.stop)
  have hload := updateSessionPayload_keeps (show LOAD_SOUND_MODEL ≠ ENGINE_RESET by decide)
    ((eng.stopIfActive false a.stop).updateState ENG_IDLE) a.payload
  have hloaded := quiet_updateState (.inr rfl) (((eng.stopIfActive false a.stop).updateState
    ENG_IDLE).updateSessionPayload false LOAD_SOUND_MODEL a.payload).2
  unfold handleMultiStreamUnload
  simp only
  split_ifs
  · obtain ⟨h1, h2⟩ := processStartRecognition_spec a.start (hunload.quiet hq)
    exact ⟨h1, h2.trans hunload.2⟩
  · exact ⟨hunload.quiet hq, hunload.2⟩
  · exact ⟨hidle, rfl⟩
  · exact ⟨hidle, rfl⟩
  · exact ⟨hload.quiet hidle, hload.2⟩
  · obtain ⟨h1, h2⟩ := processStartRecognition_spec a.start hloaded
    exact ⟨h1, h2.trans hload.2⟩
  · exact ⟨hloaded, hload.2⟩

theorem loadPayloads_keeps (eng : Engine) (a : ModelAnswers) :
    eng.Keeps (eng.loadPayloads false a).2 := by
  have hload : ∀ e : Engine, e.Keeps (e.updateSessionPayload false LOAD_SOUND_MODEL a.payload).2 :=
    fun e => updateSessionPayload_keeps (by decide) e _
  have hmma := updateSessionPayload_keeps (show MMA_MODE_BIT_CONFIG ≠ ENGINE_RESET by decide) eng a.modeBit
  unfold loadPayloads
  simp only
  split_ifs
  · exact hmma
  · exact hmma.trans (hload _)
  · exact hmma
  · exact hload eng
  · exact .refl eng

/-- A load that leaves the detection has a count of 0, or lowers it to 0. -/
def LoadReleases (eng : Engine) (a : ModelAnswers) : Prop :=
  if a.otherStreamsAttached then eng.StopReleases a.stop
  else a.opened = 0 → a.setModel = 0 → (eng.loadPayloads false a).1 = 0 → eng.eng_det_stat = 0

theorem free_loadSoundModel_iff (h : eng.Free) (a : ModelAnswers) :
    (eng.loadSoundModel false a).2.Free ↔ eng.LoadReleases a := by
  unfold loadSoundModel LoadReleases
  simp only
  by_cases hatt : a.otherStreamsAttached = true
  · obtain ⟨hq, hcount⟩ := handleMultiStreamLoad_spec eng a
    rw [if_pos hatt, if_pos hatt, free_iff_of_quiet hq, hcount, stopIfActive_eq_zero_iff h]
  rw [if_neg hatt, if_neg hatt]
  by_cases hopen : a.opened ≠ 0
  · simp [hopen, h]
  by_cases hset : a.setModel ≠ 0
  · simp [hopen, hset, h]
  have hkeep := loadPayloads_keeps eng a
  by_cases hload : (eng.loadPayloads false a).1 ≠ 0
  · have hfree : (eng.loadPayloads false a).2.Free := by
      unfold Free Quiet
      rw [hkeep.1, hkeep.2]
      exact h
    simp [hopen, hset, hload, hfree]
  · have hq := quiet_updateState (.inr rfl) (eng.loadPayloads false a).2
    have hcount : ((eng.loadPayloads false a).2.updateState ENG_LOADED).eng_det_stat =
      eng.eng_det_stat := hkeep.2
    rw [if_neg hopen, if_neg hset, if_neg hload, free_iff_of_quiet hq, hcount]
    push Not at hopen hset hload
    simp [hopen, hset, hload]

/-- An unload that leaves the detection has a count of 0, or lowers it to 0. -/
def UnloadReleases (eng : Engine) (a : ModelAnswers) : Prop :=
  if a.otherStreamsAttached then eng.StopReleases a.stop
  else a.setModel = 0 → eng.eng_det_stat = 0

theorem free_unloadSoundModel_iff (h : eng.Free) (a : ModelAnswers) :
    (eng.unloadSoundModel false a).2.Free ↔ eng.UnloadReleases a := by
  unfold unloadSoundModel UnloadReleases
  simp only
  by_cases hatt : a.otherStreamsAttached = true
  · obtain ⟨hq, hcount⟩ := handleMultiStreamUnload_spec eng a
    rw [if_pos hatt, if_pos hatt, free_iff_of_quiet hq, hcount, stopIfActive_eq_zero_iff h]
  rw [if_neg hatt, if_neg hatt]
  by_cases hset : a.setModel ≠ 0
  · simp [hset, h]
  · have hq := quiet_updateState (.inl rfl) eng
    rw [if_neg hset, free_iff_of_quiet hq]
    push Not at hset
    simp [hset, updateState]

theorem free_reconfigureDetectionGraph_iff (h : eng.Free) (detached : Bool) (setModel : ℤ)
    (online : Bool) : (eng.reconfigureDetectionGraph detached setModel online).2.Free ↔
      (detached = true → eng.eng_det_stat = 0) := by
  unfold reconfigureDetectionGraph
  cases detached with
  | false => simpa using h
  | true => simpa [updateState] using free_iff_of_quiet (quiet_updateState (.inl rfl) eng)

theorem free_forceRecognition (h : eng.Free) (s : StreamId) (a : PayloadAnswers) :
    (eng.forceRecognition false s a).2.Free := by
  unfold forceRecognition
  split_ifs
  · exact free_of_not_quiet (by simp [pushFakeDetection, updateState, Quiet])
  · have hkeep := updateSessionPayload_keeps (show TRIGGER_DETECTION_CONFIG ≠ ENGINE_RESET by decide) eng a
    unfold Free Quiet
    rw [hkeep.1, hkeep.2]
    exact h

/-! ### Detections -/

/-- A detection taken by an active engine is taken back when its payload cannot be parsed. -/
def DetectionReleases (eng : Engine) (others : Bool) (a : DetectionAnswers) : Prop :=
  eng.eng_state_ = ENG_ACTIVE → others = false → a.stream.isSome = true → a.parse ≠ 0 →
    eng.Executes a.reset

/-- The resets of the models of lower confidence only lower the count. -/
theorem lowerConfidence_spec (eng : Engine) (as : List PayloadAnswers) :
    ∃ e, (if IS_MODULE_TYPE_PDK eng.module_type_ then eng.resetLowerConfidence false as else eng) =
        e ∧ e.toEngineConfig = eng.toEngineConfig ∧ e.eng_state_ = eng.eng_state_ ∧
      e.eng_det_stat ≤ eng.eng_det_stat := by
  refine ⟨_, rfl, ?_⟩
  split_ifs
  · obtain ⟨k, hk⟩ := resetLowerConfidence_eq as eng
    rw [hk]
    exact ⟨rfl, rfl, Nat.sub_le _ _⟩
  · exact ⟨rfl, rfl, le_rfl⟩

/-- An engine that is detecting or buffering when a detection comes stays so. -/
theorem not_quiet_handleSessionEvent (h : ¬eng.Quiet) (others : Bool) (a : DetectionAnswers) :
    ¬(eng.handleSessionEvent false others a).Quiet := by
  have hnot : eng.eng_state_ ≠ ENG_LOADED := by
    intro hs
    simp [Quiet, hs] at h
  obtain ⟨e, he, -, hstate, -⟩ := lowerConfidence_spec eng a.lowerConfidence
  have hsame : ∀ e' : Engine, e'.eng_state_ = e.eng_state_ → ¬e'.Quiet := by
    intro e' h' hq
    unfold Quiet at h hq
    rw [h', hstate] at hq
    exact h hq
  unfold handleSessionEvent
  simp only [he]
  rw [if_neg hnot]
  by_cases hcond : ¬(eng.eng_state_ = ENG_ACTIVE ∨
        (eng.module_type_ = ST_MODULE_TYPE_HIST_CAP ∧ eng.eng_state_ = ENG_DETECTED)) ∧
      ¬(eng.enableIntraConcurrentDetection = true ∧
        (eng.eng_state_ = ENG_BUFFERING ∨ eng.eng_state_ = ENG_DETECTED))
  · rw [if_pos hcond]
    exact h
  rw [if_neg hcond]
  cases a.stream with
  | none => exact hsame e rfl
  | some s =>
    cases others with
    | true => exact hsame _ (by simp [updateGlobalDetectionStatus, updateSessionPayload_reset])
    | false =>
      simp only [updateGlobalDetectionStatus, updateSessionPayload_reset, Bool.false_eq_true,
        if_true, if_false, reduceCtorEq]
      split_ifs
      · exact hsame _ rfl
      · simp [updateState, Quiet]
      · exact hsame _ rfl

theorem free_handleSessionEvent_iff (h : eng.Free) (others : Bool) (a : DetectionAnswers) :
    (eng.handleSessionEvent false others a).Free ↔ eng.DetectionReleases others a := by
  by_cases hq : eng.Quiet
  swap
  · -- detecting or buffering: the engine stays so
    have hnot := free_of_not_quiet (not_quiet_handleSessionEvent hq others a)
    refine ⟨fun _ hact => absurd ?_ hq, fun _ => hnot⟩
    simp [Quiet, hact]
  have hzero := h hq
  obtain ⟨e, he, hcfg, hstate, hcount⟩ := lowerConfidence_spec eng a.lowerConfidence
  rw [hzero, Nat.le_zero] at hcount
  unfold handleSessionEvent DetectionReleases
  simp only [he]
  cases hs : eng.eng_state_ with
  | ENG_DETECTED => exact absurd hs hq.1
  | ENG_BUFFERING => exact absurd hs hq.2
  | ENG_IDLE => simpa using h
  | ENG_LOADED => simp [updateSessionPayload_reset, Free, hzero]
  | ENG_ACTIVE =>
    rw [hs] at hstate
    cases hstream : a.stream with
    | none => simp [Free, hcount]
    | some s =>
      cases others with
      | true => simp [updateGlobalDetectionStatus, updateSessionPayload_reset, Free, hcount]
      | false =>
        by_cases hparse : a.parse = 0
        · simp [updateGlobalDetectionStatus, hparse, Free, Quiet, updateState]
        · -- the count is 1 after the raise; the reset must take it back
          simp only [updateGlobalDetectionStatus, updateSessionPayload_reset, hcfg, hcount]
          by_cases hex : eng.Executes a.reset
          · simp [hparse, hex, EngineConfig.resets, Free]
          · simp [hparse, hex, EngineConfig.resets, Free, Quiet, hstate]

/-! ### Restarts -/

/-- A restart of an active engine ends the detection, unless other streams still use it. -/
def Completes (eng : Engine) (r : List StreamId × RestartAnswers) : Prop :=
  eng.batch_mode_ = true ∨
    ¬(eng.enableIntraConcurrentDetection = true ∧
      (r.1 ≠ [] ∨ r.2.otherStreamsBuffering = true))

instance (eng : Engine) (r : List StreamId × RestartAnswers) : Decidable (eng.Completes r) :=
  inferInstanceAs (Decidable (_ ∨ _))

/-- By how much a restart of an active engine lowers the count: not at all in batch mode. -/
def restartResets (eng : Engine) (r : List StreamId × RestartAnswers) : ℕ :=
  if eng.batch_mode_ then 0 else eng.resets r.2.reset

theorem restartRecognition_l_of_active (q : List StreamId) (hact : eng.isEngineActive = true)
    (a : RestartAnswers) :
    ({ eng with det_streams_q_ := q }.restartRecognitionL false a).2 =
      { eng with
        det_streams_q_ := q
        eng_state_ := if eng.Completes (q, a) then ENG_ACTIVE else eng.eng_state_
        eng_det_stat := eng.eng_det_stat - eng.restartResets (q, a) } := by
  have hact' : { eng with det_streams_q_ := q }.isEngineActive = true := hact
  unfold restartRecognitionL Completes restartResets
  rw [hact']
  by_cases hbatch : eng.batch_mode_ = true
  · simp [hbatch, updateState]
  · simp only [hbatch, updateSessionPayload_reset]
    by_cases hother : eng.enableIntraConcurrentDetection = true ∧
        (q ≠ [] ∨ a.otherStreamsBuffering = true)
    · simp [hother, updateSessionPayload_reset]
    · have hguard : (eng.enableIntraConcurrentDetection &&
          (!q.isEmpty || a.otherStreamsBuffering)) = false := by
        cases hintra : eng.enableIntraConcurrentDetection with
        | false => rfl
        | true =>
          have hnot : ¬(q ≠ [] ∨ a.otherStreamsBuffering = true) := fun h => hother ⟨hintra, h⟩
          push Not at hnot
          simp [hnot]
      simp only [hother, hguard]
      simp [updateState]

theorem restartRecognition_l_of_not_active (hact : eng.isEngineActive = false)
    (q : List StreamId) (a : RestartAnswers) :
    ({ eng with det_streams_q_ := q }.restartRecognitionL false a).2 =
      { eng with det_streams_q_ := q } := by
  have hact' : { eng with det_streams_q_ := q }.isEngineActive = false := hact
  unfold restartRecognitionL
  simp [hact']

/-- The queue that restarts leave. -/
def lastQueue (q : List StreamId) (rs : List (List StreamId × RestartAnswers)) : List StreamId :=
  rs.foldl (fun _ r => r.1) q

theorem restartAll_of_active (rs : List (List StreamId × RestartAnswers)) :
    ∀ {eng : Engine}, eng.isEngineActive = true → eng.restartAll false rs =
      { eng with
        det_streams_q_ := lastQueue eng.det_streams_q_ rs
        eng_state_ := if ∃ r ∈ rs, eng.Completes r then ENG_ACTIVE else eng.eng_state_
        eng_det_stat := eng.eng_det_stat - (rs.map eng.restartResets).sum } := by
  induction rs with
  | nil =>
    intro eng _
    simp [restartAll, lastQueue]
  | cons r rs ih =>
    intro eng hact
    have hstep := restartRecognition_l_of_active (r.1) hact r.2
    have hact' : ∀ state : eng_state_t, state = ENG_ACTIVE ∨ state = eng.eng_state_ →
        { eng with
          det_streams_q_ := r.1
          eng_state_ := state
          eng_det_stat := eng.eng_det_stat - eng.restartResets r }.isEngineActive = true := by
      rintro _ (rfl | rfl)
      · rfl
      · exact hact
    have hstate : ∀ P Q : Prop, [Decidable P] → [Decidable Q] → [Decidable (Q ∨ P)] →
        (if P then ENG_ACTIVE else if Q then ENG_ACTIVE else eng.eng_state_) =
          if Q ∨ P then ENG_ACTIVE else eng.eng_state_ := by
      intro P Q _ _ _
      by_cases hP : P <;> by_cases hQ : Q <;> simp [hP, hQ]
    calc eng.restartAll false (r :: rs)
        = restartAll false { eng with
            det_streams_q_ := r.1
            eng_state_ := if eng.Completes r then ENG_ACTIVE else eng.eng_state_
            eng_det_stat := eng.eng_det_stat - eng.restartResets r } rs := by
          rw [← hstep]
          rfl
      _ = _ := ih (hact' _ (by split_ifs <;> simp))
      _ = _ := by
          simp only [List.mem_cons, exists_eq_or_imp, List.map_cons, List.sum_cons, Nat.sub_add_eq]
          congr 1
          exact hstate _ _

theorem restartAll_of_not_active (rs : List (List StreamId × RestartAnswers)) :
    ∀ {eng : Engine}, eng.isEngineActive = false → eng.restartAll false rs =
      { eng with det_streams_q_ := lastQueue eng.det_streams_q_ rs } := by
  induction rs with
  | nil => exact fun _ => rfl
  | cons r rs ih =>
    intro eng hact
    have hact' : { eng with det_streams_q_ := r.1 }.isEngineActive = false := hact
    have hstep := restartRecognition_l_of_not_active hact r.1 r.2
    calc eng.restartAll false (r :: rs)
        = ({ eng with det_streams_q_ := r.1 }).restartAll false rs := by
          rw [← hstep]
          rfl
      _ = _ := ih hact'

/-! ### The passes of the event thread -/

/-- A pass that makes the restarts `rs` has lowered the count to 0 when it leaves the detection:
when it ends with `ended`, or a restart completes. -/
def PassReleases (eng : Engine) (rs : List (List StreamId × RestartAnswers)) (ended : Prop) : Prop :=
  eng.isEngineActive = true → (ended ∨ ∃ r ∈ rs, eng.Completes r) →
    eng.eng_det_stat ≤ (rs.map eng.restartResets).sum

theorem free_endPass_iff (eng : Engine) (other : Bool) :
    (eng.endPass other).Free ↔
      if other = true ∧ eng.det_streams_q_ = [] then eng.eng_det_stat = 0 else eng.Free := by
  unfold endPass
  cases other with
  | false => simp [Free, Quiet]
  | true =>
    cases hq : eng.det_streams_q_ with
    | nil => simp [Free, Quiet, updateState]
    | cons s q => simp [Free, Quiet]

theorem free_restartAll_iff (h : eng.Free) (rs : List (List StreamId × RestartAnswers)) :
    (eng.restartAll false rs).Free ↔ eng.PassReleases rs False := by
  unfold PassReleases
  cases hact : eng.isEngineActive with
  | false =>
    rw [restartAll_of_not_active rs hact]
    simpa [Free] using fun _ => h (quiet_of_not_active hact)
  | true =>
    rw [restartAll_of_active rs hact]
    by_cases hdone : ∃ r ∈ rs, eng.Completes r
    · simp [hdone, Free, Quiet, Nat.sub_eq_zero_iff_le]
    · simp only [hdone, Free, Quiet, if_false, false_or, forall_const, false_imp_iff, iff_true]
      intro hq
      rw [h hq, Nat.zero_sub]

theorem free_restartAll_endPass_iff (h : eng.Free) (rs : List (List StreamId × RestartAnswers))
    (other : Bool) : ((eng.restartAll false rs).endPass other).Free ↔
      eng.PassReleases rs (other = true ∧ lastQueue eng.det_streams_q_ rs = []) := by
  rw [free_endPass_iff]
  have hrestart := free_restartAll_iff h rs
  by_cases hend : other = true ∧ lastQueue eng.det_streams_q_ rs = []
  · have hqueue : (eng.restartAll false rs).det_streams_q_ = [] := by
      cases hact : eng.isEngineActive with
      | false => rw [restartAll_of_not_active rs hact]; exact hend.2
      | true => rw [restartAll_of_active rs hact]; exact hend.2
    rw [if_pos ⟨hend.1, hqueue⟩]
    unfold PassReleases
    cases hact : eng.isEngineActive with
    | false =>
      rw [restartAll_of_not_active rs hact]
      simpa using h (quiet_of_not_active hact)
    | true =>
      rw [restartAll_of_active rs hact]
      simp [hend, Nat.sub_eq_zero_iff_le]
  · have hqueue : ¬(other = true ∧ (eng.restartAll false rs).det_streams_q_ = []) := by
      cases hact : eng.isEngineActive with
      | false => rw [restartAll_of_not_active rs hact]; exact hend
      | true => rw [restartAll_of_active rs hact]; exact hend
    rw [if_neg hqueue, hrestart]
    simp [PassReleases, hend]

theorem lastQueue_exitRestarts (q : List StreamId) (status : ℤ) (a : ExitAnswers) :
    lastQueue q (exitRestarts q status a) = if status ≠ 0 then [] else q := by
  have hbuffering : ∀ rs : List RestartAnswers,
      lastQueue [] (rs.map fun r => ([], r)) = [] := by
    intro rs
    induction rs with
    | nil => rfl
    | cons r rs ih => exact ih
  have hqueued : ∀ q : List StreamId,
      lastQueue q (queuedRestarts a.queued q ++ a.buffering.map fun r => ([], r)) = [] := by
    intro q
    induction q with
    | nil => exact hbuffering _
    | cons s q ih => exact ih
  unfold exitRestarts
  split_ifs
  · exact hqueued q
  · rfl

/-- The end of the read loop with `status`, and with the queue `q`, leaves no count behind. -/
def ExitReleases (eng : Engine) (q : List StreamId) (status : ℤ) (a : ExitAnswers) : Prop :=
  eng.PassReleases (exitRestarts q status a)
    (a.otherActiveStream = true ∧ (status ≠ 0 ∨ q = []))

theorem free_exitReading_iff (h : eng.Free) (status : ℤ) (a : ExitAnswers) :
    (eng.exitReading false status a).Free ↔ eng.ExitReleases eng.det_streams_q_ status a := by
  unfold exitReading ExitReleases
  rw [free_restartAll_endPass_iff h, lastQueue_exitRestarts]
  by_cases hs : status = 0 <;> simp [hs]

theorem restart_eq_restartAll (eng : Engine) (a : RestartAnswers) :
    (eng.restartRecognitionL false a).2 = eng.restartAll false [(eng.det_streams_q_, a)] := rfl

/-- A restart of the stream alone leaves no count behind. -/
def RestartReleases (eng : Engine) (a : RestartAnswers) : Prop :=
  eng.PassReleases [(eng.det_streams_q_, a)] False

theorem free_restartRecognition_l_iff (h : eng.Free) (a : RestartAnswers) :
    (eng.restartRecognitionL false a).2.Free ↔ eng.RestartReleases a := by
  rw [restart_eq_restartAll]
  exact free_restartAll_iff h _

/-- The handling of a queued detection leaves no count behind. -/
def WakeReleases (eng : Engine) (a : WakeAnswers) : Prop :=
  match eng.det_streams_q_ with
  | [] => True
  | _ :: q =>
    eng.eng_state_ = ENG_DETECTED → eng.capture_requested_ = true →
      if eng.module_type_ = ST_MODULE_TYPE_HIST_CAP ∧ eng.batch_mode_ = true then
        a.bytesToRead ≠ 0 → eng.PassReleases [(q, a.restart)] False
      else a.allocated = false → eng.ExitReleases q (-ENOMEM) a.exit

theorem free_wake_iff (h : eng.Free) (a : WakeAnswers) :
    (eng.wake false a).Free ↔ eng.WakeReleases a := by
  unfold wake WakeReleases
  cases hq : eng.det_streams_q_ with
  | nil => simpa using h
  | cons str q =>
    have hpop : { eng with det_streams_q_ := q }.Free := h
    by_cases hdet : eng.eng_state_ = ENG_DETECTED
    swap
    · simpa [hdet] using hpop
    by_cases hcap : eng.capture_requested_ = true
    swap
    · simp [hdet, hcap, updateSessionPayload_reset, Free, Quiet]
    dsimp only
    rw [forall_prop_of_true hdet, forall_prop_of_true hcap]
    rw [if_neg (not_not.mpr hdet), if_pos hcap]
    by_cases hbatch : eng.module_type_ = ST_MODULE_TYPE_HIST_CAP ∧ eng.batch_mode_ = true
    · rw [if_pos hbatch, if_pos hbatch]
      by_cases hread : a.bytesToRead ≠ 0
      · rw [if_pos hread, forall_prop_of_true hread]
        exact free_restartRecognition_l_iff hpop a.restart
      · rw [if_neg hread]
        simp [hread, Free, Quiet, hdet]
    · rw [if_neg hbatch, if_neg hbatch]
      have hbuf : ({ eng with det_streams_q_ := q }.updateState ENG_BUFFERING).Free :=
        free_of_not_quiet (by simp [updateState, Quiet])
      cases halloc : a.allocated with
      | true => simp [Free, Quiet, updateState]
      | false =>
        -- the engine is active before and after the change to buffering
        have hact : eng.isEngineActive = true := by simp [isEngineActive, hdet]
        have hexit : _ ↔ (true = true → _) := free_exitReading_iff hbuf (-ENOMEM) a.exit
        rw [if_neg (by simp), forall_prop_of_true rfl, hexit]
        unfold ExitReleases PassReleases
        rw [hact]
        exact Iff.rfl

/-- A pass of the read loop leaves no count behind. -/
def ReadReleases (eng : Engine) (event_notified : Bool) (last : ℤ) (r : ReadAnswer)
    (a : ExitAnswers) : Prop :=
  if r = .left ∨ eng.eng_state_ ≠ ENG_BUFFERING then eng.ExitReleases eng.det_streams_q_ last a
  else match r with
    | .failed status =>
      eng.ExitReleases (if event_notified then eng.det_streams_q_.tail else eng.det_streams_q_)
        status a
    | _ => True

theorem nextStream_eq (eng : Engine) (s : StreamId) (event_notified : Bool) :
    (eng.nextStream s event_notified).2.2 = { eng with det_streams_q_ :=
      if event_notified then eng.det_streams_q_.tail else eng.det_streams_q_ } := by
  unfold nextStream
  cases event_notified with
  | false => rfl
  | true =>
    obtain ⟨cfg, state, count, batch, capture, mma, q, task⟩ := eng
    cases q <;> rfl

theorem free_readPass_iff (h : eng.Free) (s : StreamId) (event_notified : Bool) (last : ℤ)
    (r : ReadAnswer) (a : ExitAnswers) :
    (eng.readPass false s event_notified last r a).Free ↔ eng.ReadReleases event_notified last r a := by
  unfold readPass ReadReleases
  by_cases hleft : r = .left ∨ eng.eng_state_ ≠ ENG_BUFFERING
  · rw [if_pos hleft, if_pos hleft]
    exact free_exitReading_iff h last a
  rw [if_neg hleft, if_neg hleft]
  push Not at hleft
  have hnot : ∀ e : Engine, e.eng_state_ = eng.eng_state_ → e.Free := by
    intro e he
    exact free_of_not_quiet (by simp [Quiet, he, hleft.2])
  have hnext := nextStream_eq eng s event_notified
  have hstate : (eng.nextStream s event_notified).2.2.eng_state_ = eng.eng_state_ := by rw [hnext]
  cases r with
  | left => exact absurd rfl hleft.1
  | failed status =>
    have hexit := free_exitReading_iff (hnot _ hstate) status a
    rw [hnext] at hexit
    dsimp only
    rw [hnext]
    exact hexit
  | again => exact iff_of_true (hnot _ hstate) trivial
  | data transferred ftrtRead =>
    refine iff_of_true ?_ trivial
    dsimp only
    split_ifs
    all_goals exact hnot _ hstate

/-- The thread leaves no count behind when it goes on after it released the mutex. -/
def ResumeReleases (eng : Engine) (status : ℤ) (r : ReadAnswer) (restart : RestartAnswers)
    (a : ExitAnswers) : Prop :=
  match eng.task with
  | .waiting => True
  | .thresholdReached _ => eng.RestartReleases restart
  | .gmmDetected _ =>
    if status < 0 then
      eng.PassReleases [(eng.det_streams_q_, restart)]
        (a.otherActiveStream = true ∧ eng.det_streams_q_ = [])
    else a.otherActiveStream = true → eng.det_streams_q_ = [] →
      eng.eng_det_stat ≤ eng.resets restart.reset
  | .reading _ event_notified last => eng.ReadReleases event_notified last r a
  | .notifying _ =>
    status < 0 →
      if eng.det_streams_q_ ≠ [] ∨ restart.otherStreamsBuffering = true then
        eng.RestartReleases restart
      else eng.ExitReleases eng.det_streams_q_ status a

theorem free_resume_iff (h : eng.Free) (status : ℤ) (r : ReadAnswer) (restart : RestartAnswers)
    (a : ExitAnswers) :
    (eng.resume false status r restart a).Free ↔ eng.ResumeReleases status r restart a := by
  have hrestart := free_restartRecognition_l_iff h restart
  unfold resume ResumeReleases
  cases eng.task with
  | waiting => simpa using h
  | thresholdReached str => exact hrestart
  | gmmDetected str =>
    by_cases hneg : status < 0
    · simp only [hneg, if_true]
      exact free_restartAll_endPass_iff h [(eng.det_streams_q_, restart)] a.otherActiveStream
    · simp only [hneg, if_false, updateSessionPayload_reset, free_endPass_iff]
      by_cases hend : a.otherActiveStream = true ∧ eng.det_streams_q_ = []
      · simp [hend, Nat.sub_eq_zero_iff_le]
      · have hfree : Free { eng with
            eng_det_stat := eng.eng_det_stat - eng.resets restart.reset } := by
          intro hq
          simp [h hq]
        simp only [hend, if_false, hfree, true_iff]
        exact fun h1 h2 => absurd ⟨h1, h2⟩ hend
  | reading s event_notified last => exact free_readPass_iff h s event_notified last r a
  | notifying s =>
    by_cases hneg : status < 0
    swap
    · dsimp only
      rw [if_neg hneg]
      exact iff_of_true h fun hlt => absurd hlt hneg
    simp only [hneg, if_true, forall_const]
    by_cases hother : eng.det_streams_q_ ≠ [] ∨ restart.otherStreamsBuffering = true
    · have hguard : (!eng.det_streams_q_.isEmpty || restart.otherStreamsBuffering) = true := by
        simpa using hother
      rw [if_pos hguard, if_pos hother]
      exact hrestart
    · have hguard : ¬(!eng.det_streams_q_.isEmpty || restart.otherStreamsBuffering) = true := by
        simpa using hother
      rw [if_neg hguard, if_neg hother]
      exact free_exitReading_iff h status a

/-! ### Only a detection raises the count -/

theorem processStartRecognition_count (eng : Engine) (a : StartAnswers) :
    (eng.processStartRecognition false a).2.eng_det_stat = eng.eng_det_stat := by
  have hkeep := updateConfigsToSession_keeps eng a
  unfold processStartRecognition
  dsimp only
  split_ifs
  all_goals exact hkeep.2

theorem stopIfActive_le (eng : Engine) (a : StopAnswers) :
    (eng.stopIfActive false a).eng_det_stat ≤ eng.eng_det_stat := by
  rw [(stopIfActive_spec eng a).2]
  split_ifs
  · exact Nat.sub_le _ _
  · exact le_rfl

theorem startRecognition_le (eng : Engine) (d : Bool) (stop : StopAnswers) (start : StartAnswers)
    (online : Bool) :
    (eng.startRecognition false d stop start online).2.eng_det_stat ≤ eng.eng_det_stat := by
  unfold startRecognition
  cases d with
  | true => exact le_rfl
  | false => exact (processStartRecognition_count _ start).trans_le (stopIfActive_le eng stop)

theorem stopRecognition_le (eng : Engine) (stop : StopAnswers) (other : Bool)
    (start : StartAnswers) (online : Bool) :
    (eng.stopRecognition false stop other start online).2.eng_det_stat ≤ eng.eng_det_stat := by
  have hstop : (eng.processStopRecognition false stop).2.eng_det_stat ≤ eng.eng_det_stat := by
    rw [(processStopRecognition_spec eng stop).2]
    exact Nat.sub_le _ _
  unfold stopRecognition
  dsimp only
  split_ifs
  · exact (processStartRecognition_count _ start).trans_le hstop
  · exact hstop
  · exact le_rfl

theorem loadSoundModel_le (eng : Engine) (a : ModelAnswers) :
    (eng.loadSoundModel false a).2.eng_det_stat ≤ eng.eng_det_stat := by
  have hload := loadPayloads_keeps eng a
  unfold loadSoundModel
  dsimp only
  split_ifs
  · rw [(handleMultiStreamLoad_spec eng a).2]
    exact stopIfActive_le eng a.stop
  · exact le_rfl
  · exact le_rfl
  · exact hload.2.le
  · exact hload.2.le

theorem unloadSoundModel_le (eng : Engine) (a : ModelAnswers) :
    (eng.unloadSoundModel false a).2.eng_det_stat ≤ eng.eng_det_stat := by
  unfold unloadSoundModel
  dsimp only
  split_ifs
  · rw [(handleMultiStreamUnload_spec eng a).2]
    exact stopIfActive_le eng a.stop
  · exact le_rfl
  · exact le_rfl

theorem reset_le (eng : Engine) (a : PayloadAnswers) :
    (eng.updateSessionPayload false ENGINE_RESET a).2.eng_det_stat ≤ eng.eng_det_stat := by
  rw [updateSessionPayload_reset]
  exact Nat.sub_le _ _

theorem forceRecognition_le (eng : Engine) (s : StreamId) (a : PayloadAnswers) :
    (eng.forceRecognition false s a).2.eng_det_stat ≤ eng.eng_det_stat := by
  unfold forceRecognition
  split_ifs
  · exact le_rfl
  · exact (updateSessionPayload_keeps (by decide) eng a).2.le

/-- A detection is discarded while another engine has a count. -/
theorem handleSessionEvent_le (eng : Engine) (a : DetectionAnswers) :
    (eng.handleSessionEvent false true a).eng_det_stat ≤ eng.eng_det_stat := by
  obtain ⟨e, he, -, -, hle⟩ := lowerConfidence_spec eng a.lowerConfidence
  unfold handleSessionEvent
  simp only [he]
  by_cases hloaded : eng.eng_state_ = ENG_LOADED
  · rw [if_pos hloaded]
    exact reset_le eng a.reset
  rw [if_neg hloaded]
  by_cases hcond : ¬(eng.eng_state_ = ENG_ACTIVE ∨
        (eng.module_type_ = ST_MODULE_TYPE_HIST_CAP ∧ eng.eng_state_ = ENG_DETECTED)) ∧
      ¬(eng.enableIntraConcurrentDetection = true ∧
        (eng.eng_state_ = ENG_BUFFERING ∨ eng.eng_state_ = ENG_DETECTED))
  · rw [if_pos hcond]
  rw [if_neg hcond]
  cases a.stream with
  | none => exact hle
  | some s => exact (reset_le e a.reset).trans hle

theorem restartAll_le (eng : Engine) (rs : List (List StreamId × RestartAnswers)) :
    (eng.restartAll false rs).eng_det_stat ≤ eng.eng_det_stat := by
  cases hact : eng.isEngineActive with
  | false => rw [restartAll_of_not_active rs hact]
  | true =>
    rw [restartAll_of_active rs hact]
    exact Nat.sub_le _ _

theorem endPass_count (eng : Engine) (other : Bool) :
    (eng.endPass other).eng_det_stat = eng.eng_det_stat := by
  unfold endPass
  dsimp only
  split_ifs <;> rfl

theorem exitReading_le (eng : Engine) (status : ℤ) (a : ExitAnswers) :
    (eng.exitReading false status a).eng_det_stat ≤ eng.eng_det_stat :=
  (endPass_count _ _).trans_le (restartAll_le eng _)

theorem wake_le (eng : Engine) (a : WakeAnswers) :
    (eng.wake false a).eng_det_stat ≤ eng.eng_det_stat := by
  unfold wake
  cases eng.det_streams_q_ with
  | nil => exact le_rfl
  | cons str q =>
    dsimp only
    split_ifs
    · exact le_rfl
    · exact restartAll_le _ [(q, a.restart)]
    · exact le_rfl
    · exact le_rfl
    · exact exitReading_le _ _ _
    · exact reset_le _ a.reset

theorem readPass_le (eng : Engine) (s : StreamId) (event_notified : Bool) (last : ℤ)
    (r : ReadAnswer) (a : ExitAnswers) :
    (eng.readPass false s event_notified last r a).eng_det_stat ≤ eng.eng_det_stat := by
  have hnext : (eng.nextStream s event_notified).2.2.eng_det_stat = eng.eng_det_stat := by
    rw [nextStream_eq]
  unfold readPass
  by_cases hleft : r = .left ∨ eng.eng_state_ ≠ ENG_BUFFERING
  · rw [if_pos hleft]
    exact exitReading_le eng last a
  rw [if_neg hleft]
  cases r with
  | left => exact hnext.le
  | failed status => exact (exitReading_le _ status a).trans hnext.le
  | again => exact hnext.le
  | data transferred ftrtRead =>
    dsimp only
    split_ifs
    all_goals exact hnext.le

theorem resume_le (eng : Engine) (status : ℤ) (r : ReadAnswer) (restart : RestartAnswers)
    (a : ExitAnswers) :
    (eng.resume false status r restart a).eng_det_stat ≤ eng.eng_det_stat := by
  have hrestart : (eng.restartRecognitionL false restart).2.eng_det_stat ≤ eng.eng_det_stat :=
    restartAll_le eng [(eng.det_streams_q_, restart)]
  unfold resume
  cases eng.task with
  | waiting => exact le_rfl
  | thresholdReached str => exact hrestart
  | gmmDetected str =>
    dsimp only
    split_ifs
    · exact (endPass_count _ _).trans_le hrestart
    · exact (endPass_count _ _).trans_le (reset_le eng restart.reset)
  | reading s event_notified last => exact readPass_le eng s event_notified last r a
  | notifying s =>
    dsimp only
    split_ifs
    · exact hrestart
    · exact exitReading_le eng status a
    · exact le_rfl

theorem handle_le {eng' : Engine} {event : Event} (h : eng.handle false true event = some eng') :
    eng'.eng_det_stat ≤ eng.eng_det_stat := by
  cases event with
  | construct cfg => cases h; exact le_rfl
  | destroy => cases h
  | captureRequested b => cases h; exact le_rfl
  | loadSoundModel a => cases h; exact loadSoundModel_le eng a
  | unloadSoundModel a => cases h; exact unloadSoundModel_le eng a
  | startRecognition d stop start online => cases h; exact startRecognition_le eng d stop start online
  | stopRecognition stop other start online =>
    cases h
    exact stopRecognition_le eng stop other start online
  | restartRecognition a => cases h; exact restartAll_le eng [(eng.det_streams_q_, a)]
  | reconfigureDetectionGraph d set online =>
    cases h
    unfold reconfigureDetectionGraph
    cases d <;> exact le_rfl
  | forceRecognition s a => cases h; exact forceRecognition_le eng s a
  | handleSessionEvent a => cases h; exact handleSessionEvent_le eng a
  | wake a =>
    cases h
    split_ifs
    · exact wake_le eng a
    · exact le_rfl
  | resume status r restart a => cases h; exact resume_le eng status r restart a

/-! ### Events -/

/-- The events whose handler leaves no count behind. -/
def Releases (eng : Engine) (others : Bool) : Event → Prop
  | .construct _ | .destroy | .captureRequested _ | .forceRecognition _ _ => True
  | .loadSoundModel a => eng.LoadReleases a
  | .unloadSoundModel a => eng.UnloadReleases a
  | .startRecognition d stop _ _ => d = false → eng.StopReleases stop
  | .stopRecognition stop _ _ _ => eng.StopReleases stop
  | .restartRecognition a => eng.RestartReleases a
  | .reconfigureDetectionGraph d _ _ => d = true → eng.eng_det_stat = 0
  | .handleSessionEvent a => eng.DetectionReleases others a
  | .wake a => eng.task = .waiting → eng.WakeReleases a
  | .resume status r restart a => eng.ResumeReleases status r restart a

theorem free_handle_iff (h : eng.Free) (others : Bool) (event : Event) :
    (∀ eng', eng.handle false others event = some eng' → eng'.Free) ↔
      eng.Releases others event := by
  cases event with
  | construct cfg => simpa [handle, Releases] using h
  | destroy => simp [handle, Releases]
  | captureRequested b =>
    refine ⟨fun _ => trivial, ?_⟩
    rintro _ _ ⟨⟩
    exact h
  | loadSoundModel a => simpa [handle, Releases] using free_loadSoundModel_iff h a
  | unloadSoundModel a => simpa [handle, Releases] using free_unloadSoundModel_iff h a
  | startRecognition d stop start online =>
    simpa [handle, Releases] using free_startRecognition_iff h d stop start online
  | stopRecognition stop other start online =>
    simpa [handle, Releases] using free_stopRecognition_iff h stop other start online
  | restartRecognition a => simpa [handle, Releases] using free_restartRecognition_l_iff h a
  | reconfigureDetectionGraph d set online =>
    simpa [handle, Releases] using free_reconfigureDetectionGraph_iff h d set online
  | forceRecognition s a => simpa [handle, Releases] using free_forceRecognition h s a
  | handleSessionEvent a =>
    simpa [handle, Releases] using free_handleSessionEvent_iff h others a
  | wake a =>
    have hwake := free_wake_iff h a
    by_cases hwait : eng.task = .waiting
    · simpa [handle, Releases, hwait] using hwake
    · simpa [handle, Releases, hwait] using h
  | resume status r restart a =>
    simpa [handle, Releases] using free_resume_iff h status r restart a

end Engine

section Runs

variable {E : Type*} [Fintype E] [DecidableEq E]

/-- At most one engine has a count. -/
def Exclusive (engines : E → Option Engine) : Prop :=
  ∀ e e', detStat engines e ≠ 0 → detStat engines e' ≠ 0 → e = e'

/-- No engine that is neither detecting nor buffering has a count. -/
def AllFree (engines : E → Option Engine) : Prop :=
  ∀ e eng, engines e = some eng → eng.Free

/-- The event leaves no count behind, at the engine it is for. -/
def EventReleases (engines : E → Option Engine) (ev : E × Event) : Prop :=
  ∀ eng, engines ev.1 = some eng → eng.Releases (othersDetecting engines ev.1) ev.2

omit [Fintype E] in
theorem detStat_update (engines : E → Option Engine) (e : E) (eng : Option Engine) (e' : E) :
    detStat (Function.update engines e eng) e' =
      if e' = e then eng.elim 0 Engine.eng_det_stat else detStat engines e' := by
  unfold detStat
  by_cases h : e' = e
  · rw [if_pos h, h, Function.update_self]
  · rw [if_neg h, Function.update_of_ne h]

/-- A step changes the count of its engine only, and raises it only while no other engine has
one. -/
theorem detStat_engineStep (engines : E → Option Engine) (ev : E × Event) (e' : E) :
    (e' ≠ ev.1 → detStat (engineStep false engines ev) e' = detStat engines e') ∧
      (othersDetecting engines ev.1 = true →
        detStat (engineStep false engines ev) ev.1 ≤ detStat engines ev.1) := by
  unfold engineStep
  constructor
  · intro hne
    rw [detStat_update, if_neg hne]
  · intro hothers
    rw [detStat_update, if_pos rfl, hothers]
    cases he : engines ev.1 with
    | none =>
      cases ev.2 <;> exact Nat.zero_le _
    | some eng =>
      have hstat : detStat engines ev.1 = eng.eng_det_stat := by simp [detStat, he]
      rw [hstat]
      cases hh : eng.handle false true ev.2 with
      | none => simp [hh]
      | some eng' => simpa [hh] using Engine.handle_le hh

theorem exclusive_engineStep {engines : E → Option Engine} (h : Exclusive engines)
    (ev : E × Event) : Exclusive (engineStep false engines ev) := by
  -- the engine of the event, against another one that has a count
  have hone : ∀ e', detStat (engineStep false engines ev) ev.1 ≠ 0 →
      detStat (engineStep false engines ev) e' ≠ 0 → e' = ev.1 := by
    intro e' hev he'
    by_contra hne
    rw [(detStat_engineStep engines ev e').1 hne] at he'
    have hothers : othersDetecting engines ev.1 = true := decide_eq_true ⟨e', hne, he'⟩
    have hle := (detStat_engineStep engines ev e').2 hothers
    exact hne (h e' ev.1 he' (by omega))
  intro e e' he he'
  by_cases h1 : e = ev.1
  · subst h1
    exact (hone e' he he').symm
  by_cases h2 : e' = ev.1
  · subst h2
    exact hone e he' he
  rw [(detStat_engineStep engines ev e).1 h1] at he
  rw [(detStat_engineStep engines ev e').1 h2] at he'
  exact h e e' he he'

theorem allFree_engineStep_iff {engines : E → Option Engine} (h : AllFree engines)
    (ev : E × Event) : AllFree (engineStep false engines ev) ↔ EventReleases engines ev := by
  unfold engineStep
  cases he : engines ev.1 with
  | none =>
    refine iff_of_true ?_ (by simp [EventReleases, he])
    intro e eng heng
    by_cases hev : e = ev.1
    · subst hev
      rw [Function.update_self] at heng
      cases hevent : ev.2 <;> rw [hevent] at heng <;> cases heng
      exact fun _ => rfl
    · rw [Function.update_of_ne hev] at heng
      exact h e eng heng
  | some eng =>
    have hfree := Engine.free_handle_iff (h ev.1 eng he) (othersDetecting engines ev.1) ev.2
    have hevent : EventReleases engines ev ↔
        eng.Releases (othersDetecting engines ev.1) ev.2 := by simp [EventReleases, he]
    rw [hevent, ← hfree]
    constructor
    · intro hall eng' heng'
      exact hall ev.1 eng' (by rw [Function.update_self]; exact heng')
    · intro hall e eng' heng'
      by_cases hev : e = ev.1
      · subst hev
        rw [Function.update_self] at heng'
        exact hall eng' heng'
      · rw [Function.update_of_ne hev] at heng'
        exact h e eng' heng'

/-- A run of the engines, from the time when none is constructed. -/
def engineRun (events : List (E × Event)) : Option (E → Option Engine) :=
  run (fun engines ev => some (engineStep false engines ev)) (fun _ => none) events

/-- **Exclusion along runs.** At most one engine has a count and no engine that is quiet has one,
all along a run, exactly when each event leaves no count behind where it happens. -/
theorem exclusion_along_iff (events : List (E × Event)) :
    (∀ done engines, done <+: events → engineRun done = some engines →
        Exclusive engines ∧ AllFree engines) ↔
      Meets (fun engines ev => some (engineStep false engines ev)) EventReleases (fun _ => none)
        events := by
  refine invariant_prefixes_iff_meets ?_ ⟨?_, ?_⟩
  · rintro engines ev - ⟨hexcl, hfree⟩
    rw [← allFree_engineStep_iff hfree ev]
    simp [exclusive_engineStep hexcl ev]
  · intro e e' he
    exact absurd rfl he
  · rintro e eng ⟨⟩

end Runs

/-! ### A detection in batch mode -/

section Batch

local instance neZero_two : NeZero 2 := inferInstance

/-- A payload update that succeeds. -/
def payloadDone : PayloadAnswers := ⟨0, 0, 0, 0, 0, true, 0⟩

/-- A restart that succeeds, of the only stream of the engine. -/
def restartDone : RestartAnswers := ⟨false, payloadDone, none, true⟩

/-- The end of a pass, with no other stream. -/
def exitDone : ExitAnswers := ⟨restartDone, fun _ => restartDone, [], false⟩

/-- A history capture engine in batch mode that detects once: loaded, started, a detection, the
reading of its history by the event thread, and the restart. -/
def batchDetection : List (Fin 2 × Event) :=
  [(0, .construct ⟨ST_MODULE_TYPE_HIST_CAP, fun _ => 1, fun _ => 1, true, false, false⟩),
    (0, .captureRequested true),
    (0, .loadSoundModel ⟨false, ⟨payloadDone, 0⟩, 0, 0, 0, payloadDone, payloadDone, false,
      ⟨payloadDone, payloadDone, 0, 0, true, 0, 0⟩, true⟩),
    (0, .startRecognition false ⟨payloadDone, 0⟩ ⟨payloadDone, payloadDone, 0, 0, true, 0, 0⟩ true),
    (0, .handleSessionEvent ⟨[], some 7, 0, payloadDone⟩),
    (0, .wake ⟨0, restartDone, payloadDone, true, exitDone⟩),
    (0, .resume 0 .left restartDone exitDone)]

/-- After it the engine is active again and still has its count, although every call succeeds. -/
theorem batchDetection_stat :
    ((engineRun batchDetection).bind fun engines => engines 0).map
      (fun eng => (eng.eng_state_, eng.eng_det_stat)) = some (ENG_ACTIVE, 1) := by
  decide

theorem not_exclusion_batch :
    ¬∀ (events done : List (Fin 2 × Event)) (engines : Fin 2 → Option Engine),
      done <+: events → engineRun done = some engines → Exclusive engines ∧ AllFree engines := by
  intro h
  have hstat := batchDetection_stat
  cases hrun : engineRun batchDetection with
  | none => simp [hrun] at hstat
  | some engines =>
    obtain ⟨-, hfree⟩ := h batchDetection batchDetection engines (List.prefix_refl _) hrun
    rw [hrun] at hstat
    cases heng : engines 0 with
    | none => simp [heng] at hstat
    | some eng =>
      simp only [Option.bind_some, heng, Option.map_some, Option.some.injEq, Prod.mk.injEq] at hstat
      have hzero := hfree 0 eng heng (by simp [Engine.Quiet, hstat.1])
      omega

end Batch

end AudioReachPal.Gsl.Detection
