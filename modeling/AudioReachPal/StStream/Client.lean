import AudioReachPal.StStream.Attached
import AudioReachPal.StStream.Total

/-!
# Calls of the client

Which calls of the client a sound trigger stream withstands. A call reads through the stream config,
the recognition config, the reader and the first stage engine, which other calls set and clear. In
the states that a run reaches a loaded stream has its stream config; `callLaw_iff` says for every
such state and every call exactly when nothing else that is read through is null, and when a start
that reports success has started something.
-/

namespace AudioReachPal.StStream

open AudioReachPal.Lib

open st_state_id_t st_module_type_t stream_state_t StEvent StreamSoundTrigger

/-! ### The law -/

/-- The calls of the client. -/
def StreamCall.isClient : StreamCall → Bool
  | .setParameters _ | .start | .stop | .close | .read _ => true
  | _ => false

/-- The start waits for the switch to NLPI. -/
def Env.startDeferred (e : Env) : Bool := !e.StreamLPIFlag && e.deferredSwitch

/-- What a start from `s` to `t` may report as success: the stream is active, or was, or will be when
the sound card is back. -/
def StartCounts (s t : StreamSoundTrigger) : Prop :=
  t.cur_state_ = ST_STATE_ACTIVE ∨ s.cur_state_ = ST_STATE_ACTIVE ∨
    (s.cur_state_ = ST_STATE_SSR ∧ t.state_for_restore_ = some ST_STATE_ACTIVE)

/-- **The law of the client's calls.** A call reads through no null pointer, and a start that returns
zero has started something. -/
def CallLaw (s : StreamSoundTrigger) (i : StreamInput) : Prop :=
  i.2.isClient = true → Returns (i.2.proc i.1 (processEvent i.1)) s fun status t =>
    i.2 = .start → status = 0 → i.1.startDeferred = true ∨ StartCounts s t

/-! ### The conditions -/

/-- The checks of `updateSoundModel`. -/
def pal_st_sound_model.admitted (model : pal_st_sound_model) : Bool :=
  match model.type with
  | .PAL_SOUND_MODEL_TYPE_KEYPHRASE =>
    decide (sizeofPhraseSoundModel ≤ model.data_offset ∧ model.data_size ≠ 0 ∧
      model.num_phrases ≠ 0)
  | .PAL_SOUND_MODEL_TYPE_GENERIC =>
    decide (model.data_size ≠ 0 ∧ sizeofSoundModel ≤ model.data_offset)
  | .PAL_SOUND_MODEL_TYPE_UNKNOWN => false

/-- The load of a model gets as far as the attributes of the stream. -/
def ReachesAttributes (e : Env) (model : pal_st_sound_model) : Prop :=
  model.admitted = true ∧ e.allocated = true ∧ e.getStreamConfig = true ∧ e.getVUIInterface = 0 ∧
    e.vui_interface = true ∧ e.getSoundModelType = 0 ∧ e.setDetectionPropertyList = 0

/-- The stream config is there: the stream is loaded, or has kept its config. -/
def HasConfig (s : StreamSoundTrigger) : Prop := Engaged s.cur_state_ ∨ s.sm_cfg_ = true

/-- A config that is sent as far as the first stage engine finds it. -/
def ConfigOk (e : Env) (s : StreamSoundTrigger) : Prop :=
  s.vui_intf_ = true → e.allocated = true → e.sendBufferConfig = 0 → s.gsl_engine_ = true

theorem hasConfig_iff {s : StreamSoundTrigger} (hs : Attached s) :
    HasConfig s ↔ s.sm_cfg_ = true := by
  unfold HasConfig
  constructor
  · rintro (hengaged | hcfg)
    · exact hs hengaged
    · exact hcfg
  · exact Or.inr

section Calls

variable {e : Env} {s : StreamSoundTrigger}

/-! ### Loading a model -/

theorem returns_updateSoundModel (model : pal_st_sound_model) (s : StreamSoundTrigger)
    (Q : ℤ → StreamSoundTrigger → Prop) :
    Returns (updateSoundModel e model) s Q ↔
      if model.admitted = false then Q (-EINVAL) s
      else if e.allocated = false then Q (-ENOMEM) { s with sm_config_ := none }
      else Q (if e.getStreamConfig then 0 else -EINVAL)
        { s with sm_config_ := some model, sm_cfg_ := e.getStreamConfig } := by
  have hadmitted : updateSoundModel e model = (do
      if !model.admitted then return -EINVAL
      modify fun s => { s with sm_config_ := none }
      if !e.allocated then return -ENOMEM
      modify fun s => { s with sm_config_ := some model, sm_cfg_ := e.getStreamConfig }
      if !e.getStreamConfig then return -EINVAL
      return 0) := rfl
  rw [hadmitted]
  cases model.admitted <;> cases e.allocated <;> cases hcfg : e.getStreamConfig <;> simp

theorem returns_loadEngines (model : pal_st_sound_model) (engines : List ModelEngine)
    (s : StreamSoundTrigger) : Returns (loadEngines model engines) s fun _ _ => True := by
  induction engines generalizing s with
  | nil => simp [loadEngines]
  | cons eng engines ih =>
    unfold loadEngines handleEngineLoad
    simp [ih]

theorem returns_loadExit (failed : Bool) (status : ℤ) (s : StreamSoundTrigger) :
    Returns (loadExit failed status) s fun _ _ => True := by
  cases failed <;> simp [loadExit]

theorem returns_loadSoundModel (model : pal_st_sound_model) (s : StreamSoundTrigger) :
    Returns (loadSoundModel e model) s (fun _ _ => True) ↔
      (ReachesAttributes e model → s.cap_prof_.isSome = true) := by
  have hexit : ∀ failed st t, Returns (loadExit failed st) t (fun _ _ => True) :=
    returns_loadExit
  unfold loadSoundModel ReachesAttributes
  rw [returns_bind, returns_updateSoundModel]
  cases hadm : model.admitted
  · simp [hexit, EINVAL]
  cases halloc : e.allocated
  · simp [hexit, ENOMEM]
  cases hcfg : e.getStreamConfig
  · simp [hexit, EINVAL]
  simp [hexit, returns_loadEngines]

/-- Without a capture profile the attributes of the stream cannot be set. -/
theorem returns_idle_load (model : pal_st_sound_model) (s : StreamSoundTrigger) :
    Returns (StIdle.loadModel e model) s (fun _ _ => True) ↔
      (ReachesAttributes e model → e.getCurrentCaptureProfile.isSome = true) := by
  unfold StIdle.loadModel updateDeviceConfig
  cases hcfg : e.getStreamConfig
  · simp [ReachesAttributes, hcfg]
  cases hprof : e.getCurrentCaptureProfile with
  | none => simp [returns_loadSoundModel]
  | some prof =>
    cases hdev : s.mDevices <;> cases hcap : e.captureDevice <;>
      simp [hdev, EINVAL, returns_loadSoundModel]

theorem returns_load (model : pal_st_sound_model) (s : StreamSoundTrigger) :
    Returns (processEvent e (ST_EV_LOAD_SOUND_MODEL model)) s (fun _ _ => True) ↔
      (s.cur_state_ = ST_STATE_IDLE → ReachesAttributes e model →
        e.getCurrentCaptureProfile.isSome = true) := by
  unfold processEvent
  rw [returns_bind, returns_get]
  cases hcur : s.cur_state_
  case ST_STATE_IDLE =>
    simpa [StIdle.processEvent] using returns_idle_load model s
  all_goals simp [StLoaded.processEvent, StActive.processEvent, StDetected.processEvent,
    StBuffering.processEvent, StSSR.processEvent, StSSR.loadModel, StSSR.clientCommand,
    StSSR.restoreTo, returns_updateSoundModel]

/-! ### Sending a config -/

theorem returns_assignReaders (engines : List EngineId) (i : ℕ) (s : StreamSoundTrigger) :
    Returns (assignReaders e engines i) s fun _ _ => True := by
  induction engines generalizing i s with
  | nil => simp [assignReaders]
  | cons id engines ih =>
    unfold assignReaders
    simp [ih]

theorem returns_sendRecognitionConfig (config : pal_st_recognition_config)
    (hcfg : s.sm_cfg_ = true) :
    Returns (sendRecognitionConfig e config) s (fun _ _ => True) ↔ ConfigOk e s := by
  unfold sendRecognitionConfig updateRecognitionConfig sendConfig ConfigOk
  by_cases hvui : s.vui_intf_ = true <;> cases halloc : e.allocated <;>
    simp [hvui, hcfg, ENOMEM, returns_assignReaders]

theorem configOk_congr {t : StreamSoundTrigger} (h : StopFrame s t) :
    ConfigOk e t ↔ ConfigOk e s := by
  unfold ConfigOk
  rw [h.vui_intf_, h.gsl_engine_]

/-- A config is sent from a loaded stream, and from a later state if it is another one. -/
def SendsConfig (s : StreamSoundTrigger) (config : pal_st_recognition_config) : Prop :=
  s.cur_state_ = ST_STATE_LOADED ∨ ((s.cur_state_ = ST_STATE_ACTIVE ∨
    s.cur_state_ = ST_STATE_DETECTED ∨ s.cur_state_ = ST_STATE_BUFFERING) ∧
      s.rec_config_ ≠ some config)

theorem returns_configDetection (config : pal_st_recognition_config) (hcfg : s.sm_cfg_ = true) :
    Returns (configDetection e config) s (fun _ _ => True) ↔ ConfigOk e s := by
  have hframe : StopFrame s { s with pending_stop_ := false } := by
    simp
  unfold configDetection
  simp only [returns_bind, cancelDelayedStop, returns_modify]
  refine (returns_haltStream e _ 0).iff ?_
  rintro st t ⟨-, ht, -⟩
  rw [← configOk_congr (hframe.trans ht),
    ← returns_sendRecognitionConfig config (ht.sm_cfg_.trans hcfg)]
  simp [releaseWakeLock]

theorem returns_config (config : pal_st_recognition_config) (hs : Attached s) :
    Returns (processEvent e (ST_EV_RECOGNITION_CONFIG config)) s (fun _ _ => True) ↔
      (SendsConfig s config → ConfigOk e s) := by
  unfold processEvent SendsConfig
  rw [returns_bind, returns_get]
  cases hcur : s.cur_state_
  case ST_STATE_LOADED =>
    have hcfg : s.sm_cfg_ = true := hs (by simp [Engaged, hcur])
    simpa [StLoaded.processEvent] using returns_sendRecognitionConfig config hcfg
  case ST_STATE_ACTIVE =>
    have hcfg : s.sm_cfg_ = true := hs (by simp [Engaged, hcur])
    by_cases hsame : s.rec_config_ = some config
    · simp [StActive.processEvent, StActive.recognitionConfig, hsame]
    simp [StActive.processEvent, StActive.recognitionConfig, hsame]
    refine (returns_haltStream e s 0).iff ?_
    rintro st t ⟨-, ht, -⟩
    rw [returns_sendRecognitionConfig config (ht.sm_cfg_.trans hcfg), configOk_congr ht]
  case ST_STATE_DETECTED =>
    have hcfg : s.sm_cfg_ = true := hs (by simp [Engaged, hcur])
    by_cases hsame : s.rec_config_ = some config
    · simp [StDetected.processEvent, hsame]
    simpa [StDetected.processEvent, hsame] using returns_configDetection (e := e) config hcfg
  case ST_STATE_BUFFERING =>
    have hcfg : s.sm_cfg_ = true := hs (by simp [Engaged, hcur])
    by_cases hsame : s.rec_config_ = some config
    · simp [StBuffering.processEvent, hsame]
    simp [StBuffering.processEvent, dropNlpiVote, hsame]
    exact returns_configDetection (s := { s with force_nlpi_vote := false }) config hcfg
  all_goals simp [StIdle.processEvent, StSSR.processEvent, StSSR.clientCommand,
    updateRecognitionConfig]

/-! ### Stopping a stream -/

theorem returns_unloadSoundModel (s : StreamSoundTrigger) :
    Returns (unloadSoundModel e) s fun _ _ => True := by
  unfold unloadSoundModel
  cases hopen : s.device_opened_ <;> cases hdev : s.mDevices <;> simp [hopen, hdev]

theorem returns_stopRecognition (isPause : Bool) (s : StreamSoundTrigger) :
    Returns (StActive.stopRecognition e isPause) s fun _ _ => True := by
  unfold StActive.stopRecognition
  simp only [returns_bind, returns_get]
  exact (returns_haltStream e s _).mono fun _ _ _ => by simp

theorem returns_stopDetection (s : StreamSoundTrigger) :
    Returns (stopDetection e) s fun _ _ => True := by
  unfold stopDetection
  simp only [returns_bind, cancelDelayedStop, returns_modify]
  exact (returns_haltStream e _ 0).mono fun _ _ _ => by simp [releaseWakeLock]

theorem returns_unloadDetection (s : StreamSoundTrigger) :
    Returns (unloadDetection e) s fun _ _ => True := by
  unfold unloadDetection StLoaded.unloadModel
  simp only [returns_bind, cancelDelayedStop, returns_modify]
  refine (returns_haltStream e _ 0).mono fun _ t _ => ?_
  exact (returns_unloadSoundModel t).mono fun _ _ _ => by simp [releaseWakeLock]

theorem returns_unload (s : StreamSoundTrigger) :
    Returns (processEvent e ST_EV_UNLOAD_SOUND_MODEL) s fun _ _ => True := by
  unfold processEvent
  rw [returns_bind, returns_get]
  cases hcur : s.cur_state_
  case ST_STATE_ACTIVE =>
    simp only [StActive.processEvent, StLoaded.unloadModel, returns_bind]
    refine (returns_stopRecognition false s).mono fun _ t _ => ?_
    exact (returns_unloadSoundModel t).mono fun _ _ _ => by simp
  all_goals simp [StIdle.processEvent, StIdle.unloadModel, StLoaded.processEvent,
    StLoaded.unloadModel, StDetected.processEvent, StBuffering.processEvent, dropNlpiVote,
    StSSR.processEvent, StSSR.clientCommand, StSSR.restoreTo, returns_unloadSoundModel,
    returns_unloadDetection]

theorem returns_stop_event (s : StreamSoundTrigger) :
    Returns (processEvent e ST_EV_STOP_RECOGNITION) s fun _ _ => True := by
  unfold processEvent
  rw [returns_bind, returns_get]
  cases hcur : s.cur_state_
  all_goals simp [StIdle.processEvent, StLoaded.processEvent, StActive.processEvent,
    StDetected.processEvent, StBuffering.processEvent, dropNlpiVote, StSSR.processEvent,
    StSSR.clientCommand, StSSR.restoreTo, returns_stopRecognition, returns_stopDetection]

theorem returns_stop (hs : Attached s) :
    Returns (stop e (processEvent e)) s (fun _ _ => True) ↔
      HasConfig s ∧ (e.StreamLPIFlag = true → s.rec_config_ ≠ none) := by
  rw [hasConfig_iff hs]
  unfold stop updateCaptureHandleInfo
  cases hlpi : e.StreamLPIFlag <;>
    simp [returns_stop_event, Option.isSome_iff_ne_none]

/-! ### Reading -/

/-- What a read finds, and that it faults without a first stage engine in its first turn. -/
theorem returns_readBuffer (s : StreamSoundTrigger) (Q : ℤ → StreamSoundTrigger → Prop) :
    Returns (StBuffering.readBuffer e) s Q ↔
      if s.reader_ = false then Q (-EINVAL) s
      else (s.batchModeReadDone_ = false → s.gsl_engine_ = true) ∧
        Q e.read { s with batchModeReadDone_ := true } := by
  unfold StBuffering.readBuffer
  cases hreader : s.reader_ <;> cases hdone : s.batchModeReadDone_ <;> simp [hreader, hdone]

/-- A read of a stream that buffers nothing. -/
theorem returns_read_unbuffered (hcur : s.cur_state_ ≠ ST_STATE_BUFFERING)
    (Q : ℤ → StreamSoundTrigger → Prop) :
    Returns (processEvent e ST_EV_READ_BUFFER) s Q ↔
      Q (if s.cur_state_ = ST_STATE_DETECTED then 0 else - EIO) s := by
  unfold processEvent
  rw [returns_bind, returns_get]
  cases hstate : s.cur_state_
  case ST_STATE_BUFFERING => exact absurd hstate hcur
  all_goals simp [StIdle.processEvent, StLoaded.processEvent, StActive.processEvent,
    StDetected.processEvent, StSSR.processEvent]

/-- What a read reads through: before its event, in it and after it. -/
def ReadOk (e : Env) (s : StreamSoundTrigger) : Prop :=
  if s.cur_state_ = ST_STATE_BUFFERING then
    (s.force_nlpi_vote = false →
      s.vui_intf_ = true ∧ (e.readOffset ≠ 0 → s.reader_ = true)) ∧
    (s.reader_ = true → (s.batchModeReadDone_ = false → s.gsl_engine_ = true) ∧
      (0 < e.read → s.vui_intf_ = true))
  else HasConfig s

/-- After a read that returned `size`. -/
theorem returns_pace (size : ℤ) (s : StreamSoundTrigger) :
    Returns (pace e size) s (fun _ _ => True) ↔
      (0 < size → s.vui_intf_ = true ∧ s.reader_ = true) ∧
        (size ≤ 0 ∨ e.unreadSizeShort = true → s.sm_cfg_ = true) := by
  unfold pace
  by_cases hsize : 0 < size
  · have hpos : ¬size ≤ 0 := by omega
    cases hshort : e.unreadSizeShort <;> simp [hsize, hpos, and_assoc]
  · have hnonpos : size ≤ 0 := by omega
    simp [hsize, hnonpos]

theorem returns_holdForRead (s : StreamSoundTrigger) (Q : Unit → StreamSoundTrigger → Prop) :
    Returns (holdForRead e) s Q ↔
      if s.cur_state_ = ST_STATE_BUFFERING ∧ s.force_nlpi_vote = false then
        (s.vui_intf_ = true ∧ (e.readOffset ≠ 0 → s.reader_ = true)) ∧
          Q () { s with pending_stop_ := false, force_nlpi_vote := true }
      else Q () s := by
  unfold holdForRead
  by_cases hheld : s.cur_state_ = ST_STATE_BUFFERING ∧ s.force_nlpi_vote = false
  · by_cases hoffset : e.readOffset = 0 <;>
      simp [hheld.1, hheld.2, hoffset, cancelDelayedStop, and_assoc]
  · have hnot : ¬(s.cur_state_ = ST_STATE_BUFFERING ∧ (!s.force_nlpi_vote) = true) := by
      simpa using hheld
    simp only [returns_bind, returns_get, if_neg hnot, if_neg hheld, returns_pure]

/-- The read of a stream that buffers, once it is held. -/
theorem returns_read_buffered (hcur : s.cur_state_ = ST_STATE_BUFFERING)
    (hcfg : s.sm_cfg_ = true) :
    Returns (processEvent e ST_EV_READ_BUFFER) s
        (fun size t => Returns (pace e size) t fun _ _ => True) ↔
      (s.reader_ = true → (s.batchModeReadDone_ = false → s.gsl_engine_ = true) ∧
        (0 < e.read → s.vui_intf_ = true)) := by
  unfold processEvent
  rw [returns_bind, returns_get, hcur]
  refine (returns_readBuffer s _).trans ?_
  by_cases hreader : s.reader_ = true
  · simp [hreader, hcfg, returns_pace]
  · simp [hreader, hcfg, returns_pace, EINVAL]

theorem returns_read (buf : Bool) (hs : Attached s) :
    Returns (StreamSoundTrigger.read e (processEvent e) buf) s (fun _ _ => True) ↔
      (buf = true → ReadOk e s) := by
  unfold StreamSoundTrigger.read ReadOk
  cases buf
  · simp
  simp only [Bool.not_true, Bool.false_eq_true, if_false, true_imp_iff, returns_bind,
    returns_holdForRead, returns_pure]
  by_cases hcur : s.cur_state_ = ST_STATE_BUFFERING
  · have hcfg : s.sm_cfg_ = true := hs (by simp [Engaged, hcur])
    rw [if_pos hcur]
    by_cases hvote : s.force_nlpi_vote = false
    · rw [if_pos ⟨hcur, hvote⟩]
      refine and_congr (by simp [hvote]) ?_
      exact returns_read_buffered (s := { s with pending_stop_ := false, force_nlpi_vote := true })
        hcur hcfg
    · rw [if_neg fun h => hvote h.2, returns_read_buffered hcur hcfg]
      simp [hvote]
  · rw [if_neg hcur, if_neg fun h => hcur h.1, returns_read_unbuffered hcur, returns_pace,
      hasConfig_iff hs]
    by_cases hdetected : s.cur_state_ = ST_STATE_DETECTED <;> simp [hdetected, EIO]

/-! ### Starting -/

/-- A start that succeeds updates the capture handle, from the recognition config. -/
theorem returns_startL (s : StreamSoundTrigger) (Q : StreamSoundTrigger → Prop) :
    Returns (startL (processEvent e)) s (fun status t => status = 0 → Q t) ↔
      Returns (processEvent e ST_EV_START_RECOGNITION)
        { s with currentState := STREAM_STARTED, rejection_notified_ := false } fun status t =>
          status = 0 → t.rec_config_ ≠ none ∧ Q t := by
  have hend : ∀ (status : ℤ) (t : StreamSoundTrigger), Returns (do
      if status ≠ 0 then modify fun t => { t with currentState := s.currentState }
      else updateCaptureHandleInfo
      return status) t (fun status t => status = 0 → Q t) ↔
        (status = 0 → t.rec_config_ ≠ none ∧ Q t) := by
    intro status t
    by_cases hstatus : status = 0
    · simp [hstatus, updateCaptureHandleInfo, Option.isSome_iff_ne_none]
    · simp [hstatus]
  unfold startL
  simp only [returns_bind, returns_get, returns_modify]
  simp only [← hend]

/-- The status that the start of a loaded stream has got from the other streams. -/
def switchStatus (e : Env) (s : StreamSoundTrigger) : ℤ :=
  if !s.is_backend_shared_ && !s.common_cp_update_disable_ && e.updateSoundTriggerCaptureProfile then
    e.startOtherDetectionStreams
  else 0

/-- Where a start reads through no null pointer, and starts what it says. -/
def StartOk (e : Env) (s : StreamSoundTrigger) : Prop :=
  match s.cur_state_ with
  | ST_STATE_IDLE => False
  | ST_STATE_LOADED => s.paused_ = true ∨ s.rec_config_ = none ∨ s.mDevices = none ∨
      (s.is_backend_shared_ = false ∧
        (e.getSoundTriggerCaptureProfile = true ∨ switchStatus e s ≠ 0))
  | ST_STATE_ACTIVE => s.rec_config_ ≠ none
  | ST_STATE_DETECTED | ST_STATE_BUFFERING =>
    firstFailure (engineAnswers s.engines_ (restartEngine e)) = none → s.rec_config_ ≠ none
  | ST_STATE_SSR => True

theorem returns_loaded_engines {status : ℤ} (hrec : s.rec_config_ ≠ none) :
    Returns (StLoaded.startEngines e status) s fun st t =>
      st = 0 → t.rec_config_ ≠ none ∧ t.cur_state_ = ST_STATE_ACTIVE := by
  unfold StLoaded.startEngines StLoaded.startFailed
  cases hfailed : firstFailure (engineAnswers s.engines_ e.startRecognition) with
  | none => simp [hfailed, hrec]
  | some st =>
    have hst : st ≠ 0 := firstFailure_ne_zero hfailed
    simp only [returns_bind, returns_get, hfailed, returns_pure]
    exact (returns_stopAndCloseDevice s 0).mono fun _ _ _ h => absurd h hst

/-- What a start leaves: with success, an active stream. -/
def StartsActive (status : ℤ) (t : StreamSoundTrigger) : Prop :=
  status = 0 → t.rec_config_ ≠ none ∧ t.cur_state_ = ST_STATE_ACTIVE

theorem returns_start_loaded (hcur : s.cur_state_ = ST_STATE_LOADED) :
    Returns (StLoaded.startRecognition e true) s StartsActive ↔
      (s.paused_ = true ∨ s.rec_config_ = none ∨ s.mDevices = none ∨
        (s.is_backend_shared_ = false ∧
          (e.getSoundTriggerCaptureProfile = true ∨ switchStatus e s ≠ 0))) := by
  unfold StLoaded.startRecognition
  simp only [returns_bind, returns_get]
  by_cases hpaused : s.paused_ = true
  · simp [hpaused, StartsActive, EBUSY]
  by_cases hrec : s.rec_config_ = none
  · simp [hpaused, hrec, StartsActive, EINVAL]
  have hengines : ∀ (t : StreamSoundTrigger) status, t.rec_config_ = s.rec_config_ →
      Returns (StLoaded.startEngines e status) t StartsActive :=
    fun t status ht => returns_loaded_engines (ht ▸ hrec)
  cases hdev : s.mDevices with
  | none => simp [hpaused, hrec, hengines]
  | some dev =>
    by_cases hshared : s.is_backend_shared_ = true
    · simp [hpaused, hrec, hshared]
    cases hprof : e.getSoundTriggerCaptureProfile with
    | true =>
      by_cases hopen : e.deviceOpen = 0 <;> by_cases hstart : e.deviceStart = 0 <;>
        cases hopened : s.device_opened_ <;>
        simp [hpaused, hrec, hshared, hopen, hstart, hengines, StartsActive]
    | false =>
      -- the start fails, with the status that the other streams have left
      have hstatus : (if !s.is_backend_shared_ && !s.common_cp_update_disable_ && true &&
          e.updateSoundTriggerCaptureProfile then e.startOtherDetectionStreams else 0) =
            switchStatus e s := by
        simp [switchStatus]
      simp only [hstatus]
      simp [hpaused, hrec, hshared, StLoaded.startFailed]
      refine (returns_stopAndCloseDevice s 0).iff fun st t ht => ?_
      have hcur' : t.cur_state_ = ST_STATE_LOADED := ht.2.2.trans hcur
      simp [StartsActive, hcur']

theorem returns_restartRecognition (s : StreamSoundTrigger) :
    Returns (restartRecognition e) s StartsActive ↔
      (firstFailure (engineAnswers s.engines_ (restartEngine e)) = none → s.rec_config_ ≠ none) := by
  unfold restartRecognition cancelDelayedStop
  cases hfailed : firstFailure (engineAnswers s.engines_ (restartEngine e)) with
  | none => simp [hfailed, releaseWakeLock, StartsActive]
  | some st =>
    have hst : st ≠ 0 := firstFailure_ne_zero hfailed
    simp [hfailed, hst, releaseWakeLock, StartsActive]

theorem returns_start_event (s : StreamSoundTrigger) :
    Returns (processEvent e ST_EV_START_RECOGNITION) s
        (fun status t => status = 0 → t.rec_config_ ≠ none ∧ StartCounts s t) ↔ StartOk e s := by
  unfold processEvent StartOk
  rw [returns_bind, returns_get]
  -- in four states only an active stream counts
  have hcounts : s.cur_state_ ≠ ST_STATE_ACTIVE → s.cur_state_ ≠ ST_STATE_SSR →
      (fun (status : ℤ) t => status = 0 → t.rec_config_ ≠ none ∧ StartCounts s t) =
        StartsActive := by
    intro hactive hssr
    funext status t
    simp [StartsActive, StartCounts, hactive, hssr]
  cases hcur : s.cur_state_
  case ST_STATE_IDLE =>
    rw [hcounts (by simp [hcur]) (by simp [hcur])]
    simp [StIdle.processEvent, StartsActive, hcur]
  case ST_STATE_LOADED =>
    rw [hcounts (by simp [hcur]) (by simp [hcur])]
    exact returns_start_loaded hcur
  case ST_STATE_ACTIVE =>
    simp [StActive.processEvent, StartCounts, hcur]
  case ST_STATE_DETECTED =>
    rw [hcounts (by simp [hcur]) (by simp [hcur])]
    exact returns_restartRecognition s
  case ST_STATE_BUFFERING =>
    rw [hcounts (by simp [hcur]) (by simp [hcur])]
    simpa [StBuffering.processEvent, dropNlpiVote] using
      returns_restartRecognition (e := e) { s with force_nlpi_vote := false }
  case ST_STATE_SSR =>
    simp [StSSR.processEvent, StSSR.startRecognition, StSSR.clientCommand, StSSR.restoreTo,
      StartCounts, hcur, EINVAL]

theorem startOk_l (s : StreamSoundTrigger) : StartOk e
    { s with currentState := STREAM_STARTED, rejection_notified_ := false } ↔ StartOk e s :=
  Iff.rfl

theorem returns_start (hs : Attached s) :
    Returns (start e (processEvent e)) s
        (fun status t => status = 0 → e.startDeferred = true ∨ StartCounts s t) ↔
      HasConfig s ∧ (e.startDeferred = true ∨ StartOk e s) := by
  rw [hasConfig_iff hs]
  unfold start
  simp only [returns_bind, returns_get, returns_deref]
  refine and_congr Iff.rfl ?_
  by_cases hdeferred : e.startDeferred = true
  · have hwaits : (!e.StreamLPIFlag && e.deferredSwitch) = true := hdeferred
    simp [hwaits, hdeferred]
  · have hgoes : ¬(!e.StreamLPIFlag && e.deferredSwitch) = true := hdeferred
    simp only [if_neg hgoes, hdeferred, Bool.false_eq_true, false_or]
    rw [returns_startL, ← startOk_l]
    exact returns_start_event _

/-! ### The other calls -/

theorem returns_stop_buffering (s : StreamSoundTrigger) :
    Returns (processEvent e ST_EV_STOP_BUFFERING) s fun _ _ => True := by
  unfold processEvent
  rw [returns_bind, returns_get]
  cases hcur : s.cur_state_
  all_goals simp [StIdle.processEvent, StLoaded.processEvent, StActive.processEvent,
    StDetected.processEvent, StBuffering.processEvent, StSSR.processEvent, dropNlpiVote,
    postDelayedStop]

theorem returns_force (s : StreamSoundTrigger) :
    Returns (processEvent e ST_EV_FORCE_RECOGNITION) s (fun _ _ => True) ↔
      (s.cur_state_ = ST_STATE_ACTIVE ∨ s.cur_state_ = ST_STATE_BUFFERING →
        s.gsl_engine_ = true) := by
  unfold processEvent
  rw [returns_bind, returns_get]
  cases hcur : s.cur_state_
  all_goals simp [StIdle.processEvent, StLoaded.processEvent, StActive.processEvent,
    StDetected.processEvent, StBuffering.processEvent, StSSR.processEvent]

theorem returns_close (s : StreamSoundTrigger) :
    Returns (close (processEvent e)) s fun _ _ => True := by
  unfold close
  exact (returns_unload s).bind fun status t _ => by simp

theorem returns_setParameters (param : StParam) (hs : Attached s) :
    Returns (setParameters (processEvent e) param) s (fun _ _ => True) ↔
      match param with
      | .LOAD_SOUND_MODEL payload => s.cur_state_ = ST_STATE_IDLE → ReachesAttributes e payload →
          e.getCurrentCaptureProfile.isSome = true
      | .RECOGNITION_CONFIG payload => SendsConfig s payload → ConfigOk e s
      | .STOP_BUFFERING => True
      | .FORCE_RECOGNITION =>
          s.cur_state_ = ST_STATE_ACTIVE ∨ s.cur_state_ = ST_STATE_BUFFERING →
            s.gsl_engine_ = true := by
  cases param with
  | LOAD_SOUND_MODEL payload =>
    have hopened : ∀ (status : ℤ) (t : StreamSoundTrigger), Returns (do
        if status = 0 then modify fun s => { s with currentState := STREAM_OPENED }
        return status : StProc ℤ) t fun _ _ => True := by
      intro status t
      by_cases hstatus : status = 0 <;> simp [hstatus]
    unfold setParameters
    rw [returns_bind]
    simp only [hopened]
    exact returns_load payload s
  | RECOGNITION_CONFIG payload => exact returns_config payload hs
  | STOP_BUFFERING => exact iff_true_intro (returns_stop_buffering s)
  | FORCE_RECOGNITION => exact returns_force s

end Calls

/-! ### The law, exactly -/

/-- Where a call of the client reads through no null pointer, and a start that reports success has
started something. -/
def CallOk (s : StreamSoundTrigger) (i : StreamInput) : Prop :=
  match i.2 with
  | .setParameters (.LOAD_SOUND_MODEL payload) =>
    s.cur_state_ = ST_STATE_IDLE → ReachesAttributes i.1 payload →
      i.1.getCurrentCaptureProfile.isSome = true
  | .setParameters (.RECOGNITION_CONFIG payload) => SendsConfig s payload → ConfigOk i.1 s
  | .setParameters .FORCE_RECOGNITION =>
    s.cur_state_ = ST_STATE_ACTIVE ∨ s.cur_state_ = ST_STATE_BUFFERING → s.gsl_engine_ = true
  | .start => HasConfig s ∧ (i.1.startDeferred = true ∨ StartOk i.1 s)
  | .stop => HasConfig s ∧ (i.1.StreamLPIFlag = true → s.rec_config_ ≠ none)
  | .read buf => buf = true → ReadOk i.1 s
  | _ => True

theorem callLaw_iff {s : StreamSoundTrigger} (hs : Attached s) (i : StreamInput) :
    CallLaw s i ↔ CallOk s i := by
  obtain ⟨e, c⟩ := i
  unfold CallLaw CallOk
  cases c with
  | setParameters param =>
    have hparam := returns_setParameters (e := e) param hs
    cases param <;> simpa [StreamCall.isClient, StreamCall.proc] using hparam
  | start => simpa [StreamCall.isClient, StreamCall.proc] using returns_start (e := e) hs
  | stop => simpa [StreamCall.isClient, StreamCall.proc] using returns_stop (e := e) hs
  | close => simpa [StreamCall.isClient, StreamCall.proc] using returns_close (e := e) s
  | read buf => simpa [StreamCall.isClient, StreamCall.proc] using returns_read (e := e) buf hs
  | _ => simp [StreamCall.isClient]

/-- **Client calls, exactly.** Along a run every call of the client keeps the law if and only if every
call of the client meets the condition in the state it arrives in. -/
theorem callLaw_along_iff (online paused : Bool) (is : List StreamInput) :
    Meets step CallLaw (.init online paused) is ↔ Meets step CallOk (.init online paused) is :=
  meets_congr (fun _ _ _ => step_attached) (fun _ i hs => callLaw_iff hs i)
    (attached_init online paused)

/-- A platform whose microphone has a backend that other streams use too. -/
def Env.sharedBackend : Env :=
  { Env.smooth with
    getCurrentCaptureProfile := some ⟨1, PAL_DEVICE_IN_HANDSET_MIC⟩
    newCaptureProfile := some ⟨1, PAL_DEVICE_IN_HANDSET_MIC⟩
    captureDevice := some PAL_DEVICE_IN_HANDSET_MIC }

/-- The start after a load and a config reads the capture profile, which was not asked for. -/
theorem not_callLaw_sharedBackend :
    ¬Meets step CallLaw (.init true false) (startCalls Env.sharedBackend true) := by
  rintro ⟨-, hload⟩
  obtain ⟨-, hconfig⟩ := hload _ rfl
  obtain ⟨hstart, -⟩ := hconfig _ rfl
  obtain ⟨status, t, hrun, -⟩ := hstart rfl
  cases hrun

end AudioReachPal.StStream
