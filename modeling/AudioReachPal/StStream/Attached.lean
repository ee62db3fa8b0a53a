import AudioReachPal.StStream.Frames
import AudioReachPal.Lib.Runs

/-!
# The stream config of a loaded stream

A stream past `ST_STATE_IDLE` has its stream config: a model is only loaded with one, the first stage
is only loaded again while it is there, and it is given up only on the way back to `ST_STATE_IDLE`
or while the sound card is away.
-/

namespace AudioReachPal.StStream

open AudioReachPal.Lib

open st_state_id_t st_module_type_t stream_state_t StEvent StreamSoundTrigger

/-- The states in which a model is loaded. -/
def Engaged (state : st_state_id_t) : Prop :=
  state ≠ ST_STATE_IDLE ∧ state ≠ ST_STATE_SSR

/-- **The invariant.** A loaded stream has its stream config. -/
def Attached (s : StreamSoundTrigger) : Prop := Engaged s.cur_state_ → s.sm_cfg_ = true

/-- The stream config is not given up, and a deferred stop is neither posted nor cancelled. -/
@[mk_iff]
structure Calm (s t : StreamSoundTrigger) : Prop where
  sm_cfg_ : s.sm_cfg_ = true → t.sm_cfg_ = true
  pending_stop_ : t.pending_stop_ = s.pending_stop_

instance : IsPreorder StreamSoundTrigger Calm where
  refl _ := ⟨id, rfl⟩
  trans _ _ _ h h' := ⟨h'.1 ∘ h.1, h'.2.trans h.2⟩

/-- A change of the other fields. -/
@[simp] theorem calm_mk (s t : StreamSoundTrigger) {st rs c p md o sh cc cp sm mt id gm g v en n d r rd
    ss rj nv br sk calls} :
    Calm s ⟨st, rs, c, p, md, o, sh, cc, cp, t.sm_cfg_, sm, mt, id, gm, g, v, en, n, d, r, rd, ss, rj,
      t.pending_stop_, nv, br, sk, calls⟩ ↔ Calm s t := by
  simp only [calm_iff]

@[simp] theorem calm_refl (s : StreamSoundTrigger) : Calm s s := refl s

/-- The stream config is not given up. -/
def ConfigKept (s t : StreamSoundTrigger) : Prop := s.sm_cfg_ = true → t.sm_cfg_ = true

instance : IsPreorder StreamSoundTrigger ConfigKept where
  refl _ := id
  trans _ _ _ h h' := h' ∘ h

/-- A change of the other fields. -/
@[simp] theorem configKept_mk (s t : StreamSoundTrigger) {st rs c p md o sh cc cp sm mt id gm g v en n
    d r rd ss rj ps nv br sk calls} :
    ConfigKept s ⟨st, rs, c, p, md, o, sh, cc, cp, t.sm_cfg_, sm, mt, id, gm, g, v, en, n, d, r, rd,
      ss, rj, ps, nv, br, sk, calls⟩ ↔ ConfigKept s t :=
  Iff.rfl

@[simp] theorem configKept_refl (s : StreamSoundTrigger) : ConfigKept s s := id

@[simp] theorem attached_mk (s : StreamSoundTrigger) {rs c p md o sh cc cp sm mt id gm g v en n d r rd
    ss rj ps nv br sk calls} :
    Attached ⟨s.cur_state_, rs, c, p, md, o, sh, cc, cp, s.sm_cfg_, sm, mt, id, gm, g, v, en, n, d, r,
      rd, ss, rj, ps, nv, br, sk, calls⟩ ↔ Attached s :=
  Iff.rfl

theorem config_of_calm {α : Type} {m : StProc α} (h : Respects Calm m) : Respects ConfigKept m :=
  h.mono fun _ _ hst => hst.sm_cfg_

theorem attached_of_config {s : StreamSoundTrigger} (h : s.sm_cfg_ = true) : Attached s :=
  fun _ => h

theorem attached_idle {s : StreamSoundTrigger} (h : s.cur_state_ = ST_STATE_IDLE) :
    Attached s :=
  fun hs => absurd h hs.1

theorem attached_ssr {s : StreamSoundTrigger} (h : s.cur_state_ = ST_STATE_SSR) : Attached s :=
  fun hs => absurd h hs.2

/-! ### The procedures that keep both -/

section Procedures

variable (e : Env)

theorem updateDeviceConfig_calm : Respects Calm (updateDeviceConfig e) := by
  intro s
  simp [ensures_updateDeviceConfig, configured]

theorem stopAndCloseDevice_calm (status : ℤ) : Respects Calm (stopAndCloseDevice status) := by
  intro s
  unfold stopAndCloseDevice
  cases hdev : s.mDevices <;> simp [hdev]

theorem handleEngineLoad_calm (model : pal_st_sound_model) (eng : ModelEngine) :
    Respects Calm (handleEngineLoad model eng) := by
  intro s
  simp [handleEngineLoad]

theorem loadEngines_calm (model : pal_st_sound_model) (engines : List ModelEngine) :
    Respects Calm (loadEngines model engines) := by
  induction engines with
  | nil => exact respects_pure true
  | cons eng engines ih =>
    unfold loadEngines
    apply (handleEngineLoad_calm model eng).bind
    intro loaded s
    cases loaded <;> simp [ih.after]

theorem loadExit_calm (failed : Bool) (status : ℤ) :
    Respects Calm (loadExit failed status) := by
  intro s
  cases failed <;> simp [loadExit]

theorem unloadSoundModel_calm : Respects Calm (unloadSoundModel e) := by
  intro s
  unfold unloadSoundModel
  cases hopen : s.device_opened_ <;> cases hdev : s.mDevices <;> simp [hopen, hdev]

theorem fstageUnload_calm : Respects Calm (fstageUnload e) := by
  intro s
  unfold fstageUnload
  cases hopen : s.device_opened_ <;> cases hdev : s.mDevices <;> simp [hopen, hdev]

theorem assignReaders_calm (engines : List EngineId) (i : ℕ) :
    Respects Calm (assignReaders e engines i) := by
  induction engines generalizing i with
  | nil => exact respects_pure 0
  | cons id engines ih =>
    intro s
    unfold assignReaders
    simp [(ih (i + 1)).after]

theorem sendConfig_calm (status : ℤ) : Respects Calm (sendConfig e status) :=
  respects_sendConfig e (fun engines => assignReaders_calm e engines 0) (fun s => by simp) status

theorem updateRecognitionConfig_calm (config : pal_st_recognition_config) :
    Respects Calm (updateRecognitionConfig e config) := by
  intro s
  simp [updateRecognitionConfig]

theorem sendRecognitionConfig_calm (config : pal_st_recognition_config) :
    Respects Calm (sendRecognitionConfig e config) := by
  unfold sendRecognitionConfig
  apply respects_get.bind
  intro s
  apply Respects.ite
  · exact respects_pure _
  · exact (updateRecognitionConfig_calm e config).bind fun status => sendConfig_calm e status

theorem sendCachedRecognitionConfig_calm :
    Respects Calm (sendCachedRecognitionConfig e) := by
  unfold sendCachedRecognitionConfig
  apply respects_get.bind
  intro s
  apply Respects.ite
  · exact respects_pure _
  · exact sendConfig_calm e 0

theorem haltStream_calm (status : ℤ) : Respects Calm (haltStream e status) := by
  intro s
  unfold haltStream
  simp +contextual [(stopAndCloseDevice_calm _).through (s := s)]

theorem connectDevice_calm (start : Bool) : Respects Calm (connectDevice e start) := by
  unfold connectDevice
  apply respects_get.bind
  intro s
  apply Respects.ite
  · exact respects_pure _
  · apply (updateDeviceConfig_calm e).bind
    intro status t
    cases hdev : t.mDevices <;> cases start <;> simp [hdev]

theorem connectEvent_calm : Respects Calm (connectEvent e) := by
  unfold connectEvent
  apply (connectDevice_calm e true).bind
  intro connected s
  cases connected with
  | error status => simp
  | ok dev =>
    cases hfail : firstFailure (engineAnswers s.engines_ e.startRecognition) <;>
      simp [hfail, (stopAndCloseDevice_calm _).after]

theorem notifyAbort_calm : Respects Calm (notifyAbort e) := by
  intro s
  simp [notifyAbort]

/-! ### The handlers of a loaded stream -/

theorem startFailed_calm (status : ℤ) : Respects Calm (StLoaded.startFailed status) := by
  unfold StLoaded.startFailed
  exact (stopAndCloseDevice_calm 0).bind fun _ => respects_pure status

theorem startEngines_calm (status : ℤ) : Respects Calm (StLoaded.startEngines e status) := by
  intro s
  unfold StLoaded.startEngines
  cases hfail : firstFailure (engineAnswers s.engines_ e.startRecognition) <;>
    simp [hfail, (startFailed_calm _).after]

theorem startRecognition_calm (isStart : Bool) :
    Respects Calm (StLoaded.startRecognition e isStart) := by
  intro s
  unfold StLoaded.startRecognition
  cases hdev : s.mDevices <;>
    simp [hdev, (startFailed_calm _).after, (startEngines_calm e _).after]

theorem unloadModel_calm : Respects Calm (StLoaded.unloadModel e) := by
  unfold StLoaded.unloadModel
  apply (unloadSoundModel_calm e).bind
  intro status s
  simp

theorem unloadFstage_calm : Respects Calm (StLoaded.unloadFstage e) := by
  unfold StLoaded.unloadFstage
  apply (fstageUnload_calm e).bind
  intro status s
  simp

theorem internalResume_calm : Respects Calm (StLoaded.internalResume e) := by
  intro s
  simp +contextual [StLoaded.internalResume, (startRecognition_calm e false).after,
    (sendCachedRecognitionConfig_calm e).through (s := s)]

theorem loaded_deviceDisconnected_calm (dev_id : pal_device_id_t) :
    Respects Calm (StLoaded.deviceDisconnected dev_id) := by
  intro s
  unfold StLoaded.deviceDisconnected
  cases hdev : s.mDevices <;> simp [hdev]

theorem loaded_deviceConnected_calm : Respects Calm (StLoaded.deviceConnected e) := by
  unfold StLoaded.deviceConnected
  apply respects_get.bind
  intro s
  apply (connectDevice_calm e _).bind
  intro connected t
  cases connected with
  | error status => simp
  | ok dev =>
    dsimp only
    cases firstFailure (StLoaded.connectAnswers e s.engines_ (s.isActive && !s.paused_)) <;>
      simp [(startFailed_calm _).after]

theorem loaded_concurrentStream_calm (is_active : Bool) :
    Respects Calm (StLoaded.concurrentStream e is_active) := by
  intro s
  simp +contextual [StLoaded.concurrentStream, (fstageUnload_calm e).through (s := s)]

theorem stopRecognition_calm (isPause : Bool) :
    Respects Calm (StActive.stopRecognition e isPause) := by
  intro s
  simp +contextual [StActive.stopRecognition, (haltStream_calm e _).through (s := s)]

theorem StLoaded.processEvent_calm (ev : StEvent) :
    Respects Calm (StLoaded.processEvent e ev) := by
  cases ev with
  | ST_EV_UNLOAD_SOUND_MODEL => exact unloadModel_calm e
  | ST_EV_RECOGNITION_CONFIG config => exact sendRecognitionConfig_calm e config
  | ST_EV_START_RECOGNITION => exact startRecognition_calm e true
  | ST_EV_INTERNAL_RESUME => exact internalResume_calm e
  | ST_EV_DEVICE_DISCONNECTED dev_id => exact loaded_deviceDisconnected_calm dev_id
  | ST_EV_DEVICE_CONNECTED => exact loaded_deviceConnected_calm e
  | ST_EV_CONCURRENT_STREAM is_active => exact loaded_concurrentStream_calm e is_active
  | ST_EV_FSTAGE_UNLOAD => exact unloadFstage_calm e
  | ST_EV_SSR_OFFLINE =>
    intro s
    simp +contextual [StLoaded.processEvent, StLoaded.ssrOffline,
      (unloadFstage_calm e).through (s := s)]
  | _ => intro s; simp [StLoaded.processEvent, ecRef]

/-- In `ST_STATE_ACTIVE` a detection is left out: the client may be notified of it. -/
theorem StActive.processEvent_calm {ev : StEvent} (hdet : ∀ det_type, ev ≠ ST_EV_DETECTED det_type) :
    Respects Calm (StActive.processEvent e ev) := by
  intro s
  have hstop : ∀ isPause, Ensures (StActive.stopRecognition e isPause) s fun _ t => Calm s t :=
    fun isPause => stopRecognition_calm e isPause s
  cases ev with
  | ST_EV_DETECTED det_type => exact absurd rfl (hdet det_type)
  | ST_EV_RECOGNITION_CONFIG config =>
    simp +contextual [StActive.processEvent, StActive.recognitionConfig,
      (haltStream_calm e _).through (s := s), (sendRecognitionConfig_calm e config).after]
  | ST_EV_STOP_RECOGNITION => exact hstop false
  | ST_EV_DEVICE_DISCONNECTED dev_id =>
    cases hdev : s.mDevices <;>
      simp +contextual [StActive.processEvent, StActive.deviceDisconnected, hdev,
        (stopAndCloseDevice_calm _).through (s := s)]
  | ST_EV_DEVICE_CONNECTED =>
    refine (connectDevice_calm e true s).bind fun connected t ht => ?_
    cases connected <;> simpa using ht
  | ST_EV_CONCURRENT_STREAM is_active =>
    simp +contextual [StActive.processEvent, StActive.concurrentStream,
      (stopRecognition_calm e false).through (s := s), (loaded_concurrentStream_calm e _).after]
  | ST_EV_PAUSE =>
    simp +contextual [StActive.processEvent, (stopRecognition_calm e true).through (s := s),
      (notifyAbort_calm e).after]
  | ST_EV_INTERNAL_PAUSE =>
    simp [StActive.processEvent, (stopRecognition_calm e true).after]
  | ST_EV_UNLOAD_SOUND_MODEL =>
    refine (hstop false).bind fun status t ht => ?_
    exact (unloadModel_calm e).after ht
  | ST_EV_SSR_OFFLINE =>
    simp +contextual [StActive.processEvent, StActive.ssrOffline,
      (stopRecognition_calm e false).through (s := s), (unloadFstage_calm e).through (s := s)]
  | _ => simp [StActive.processEvent, ecRef]

/-- A notification of the client posts a deferred stop. -/
theorem notifyDetection_posts (s : StreamSoundTrigger) :
    Ensures (notifyDetection e) s fun _ t =>
      (s.sm_cfg_ = true → t.sm_cfg_ = true) ∧ t.pending_stop_ = true ∧
        t.cur_state_ = s.cur_state_ := by
  simp [notifyDetection, postDelayedStop]

theorem notifyDetection_config : Respects ConfigKept (notifyDetection e) :=
  fun s => (notifyDetection_posts e s).mono fun _ _ ht => ht.1

theorem transitTo_calm (state : st_state_id_t) : Respects Calm (transitTo state) := by
  intro s
  simp

theorem StActive.detected_config (det_type : ℕ) :
    Respects ConfigKept (StActive.detected e det_type) := by
  have hto : ∀ state, Respects ConfigKept (transitTo state) :=
    fun state => config_of_calm (transitTo_calm state)
  refine respects_get.bind fun s => ?_
  have hend : Respects ConfigKept (do
      if s.engines_.length = 1 then let _ ← notifyDetection e
      return 0 : StProc ℤ) :=
    Respects.ite ((notifyDetection_config e).bind fun _ => respects_pure 0) (respects_pure 0)
  refine (respects_pure 0).ite (Respects.ite ?_ ((respects_deref _).bind fun _ => ?_))
  · refine Respects.bind ?_ fun _ => (hto _).bind fun _ => hend
    exact (respects_modify _).mpr fun s => by simp
  · refine ((hto _).bind fun _ => hend).ite (Respects.ite ?_ ((hto _).bind fun _ => hend))
    refine Respects.bind ?_ fun _ => (hto _).bind fun _ => hend
    exact (respects_modify _).mpr fun s => by simp

theorem StActive.processEvent_config (ev : StEvent) :
    Respects ConfigKept (StActive.processEvent e ev) := by
  by_cases hdet : ∃ det_type, ev = ST_EV_DETECTED det_type
  · obtain ⟨det_type, rfl⟩ := hdet
    exact StActive.detected_config e det_type
  · exact config_of_calm (StActive.processEvent_calm e (not_exists.mp hdet))

/-! ### The handlers of a stream that has detected -/

theorem restartRecognition_config : Respects ConfigKept (restartRecognition e) := by
  intro s
  simp [restartRecognition, cancelDelayedStop, releaseWakeLock]

theorem haltStream_config (status : ℤ) : Respects ConfigKept (haltStream e status) :=
  config_of_calm (haltStream_calm e status)

theorem disconnectEvent_config (session : Bool) :
    Respects ConfigKept (disconnectEvent e session) := by
  intro s
  cases session <;> simp [disconnectEvent, cancelDelayedStop,
    (config_of_calm (stopAndCloseDevice_calm _)).after]

theorem stopDetection_config : Respects ConfigKept (stopDetection e) := by
  intro s
  simp +contextual [stopDetection, cancelDelayedStop, releaseWakeLock,
    (haltStream_config e _).through (s := s)]

theorem pauseDetection_config : Respects ConfigKept (pauseDetection e) := by
  intro s
  simp +contextual [pauseDetection, cancelDelayedStop, releaseWakeLock,
    (haltStream_config e _).through (s := s),
    (config_of_calm (notifyAbort_calm e)).through (s := s)]

theorem unloadDetection_config : Respects ConfigKept (unloadDetection e) := by
  intro s
  simp +contextual [unloadDetection, cancelDelayedStop, releaseWakeLock,
    (haltStream_config e _).through (s := s),
    (config_of_calm (unloadModel_calm e)).through (s := s)]

theorem configDetection_config (config : pal_st_recognition_config) :
    Respects ConfigKept (configDetection e config) := by
  intro s
  simp +contextual [configDetection, cancelDelayedStop, releaseWakeLock,
    (haltStream_config e _).through (s := s),
    (config_of_calm (sendRecognitionConfig_calm e config)).through (s := s)]

theorem concurrentDetection_config (is_active : Bool) :
    Respects ConfigKept (concurrentDetection e is_active) := by
  intro s
  simp +contextual [concurrentDetection, releaseWakeLock,
    (disconnectEvent_config e _).through (s := s),
    (config_of_calm (loaded_concurrentStream_calm e _)).through (s := s)]

theorem ssrOfflineDetection_config : Respects ConfigKept (ssrOfflineDetection e) := by
  intro s
  simp +contextual [ssrOfflineDetection, (stopDetection_config e).through (s := s),
    (config_of_calm (unloadFstage_calm e)).through (s := s)]

theorem StDetected.processEvent_config (ev : StEvent) :
    Respects ConfigKept (StDetected.processEvent e ev) := by
  intro s
  cases ev with
  | ST_EV_START_RECOGNITION => exact restartRecognition_config e s
  | ST_EV_UNLOAD_SOUND_MODEL => exact unloadDetection_config e s
  | ST_EV_STOP_RECOGNITION => exact stopDetection_config e s
  | ST_EV_CONCURRENT_STREAM is_active => exact concurrentDetection_config e is_active s
  | ST_EV_DEVICE_DISCONNECTED dev_id => exact disconnectEvent_config e true s
  | ST_EV_DEVICE_CONNECTED => exact config_of_calm (connectEvent_calm e) s
  | _ =>
    simp [StDetected.processEvent, ecRef, (pauseDetection_config e).after,
      (stopDetection_config e).after, (configDetection_config e _).after,
      (ssrOfflineDetection_config e).after]

theorem rejected_config (det_type : ℕ) : Respects ConfigKept (StBuffering.rejected e det_type) := by
  intro s
  simp +contextual [StBuffering.rejected, releaseWakeLock,
    (notifyDetection_config e).through (s := s)]

theorem StBuffering.detected_config (det_type : ℕ) :
    Respects ConfigKept (StBuffering.detected e det_type) := by
  have hend : Respects ConfigKept (do
      let _ ← notifyDetection e
      return 0 : StProc ℤ) := (notifyDetection_config e).bind fun _ => respects_pure 0
  have hnotify : Respects ConfigKept (do
      let s ← get
      if s.detection_state_ = s.notification_state_ then
        modify fun s =>
          { s with second_stage_processing_ := false, detection_state_ := ENGINE_IDLE }
        deref s.rec_config_.isSome
        if s.rec_config_.all (!·.capture_requested) then transitTo ST_STATE_DETECTED
        let _ ← notifyDetection e
      return 0 : StProc ℤ) := by
    refine respects_get.bind fun s => Respects.ite (Respects.bind ?_ fun _ => ?_) (respects_pure 0)
    · exact (respects_modify _).mpr fun s => by simp
    · refine (respects_deref _).bind fun _ => Respects.ite ?_ hend
      exact (config_of_calm (transitTo_calm _)).bind fun _ => hend
  refine (respects_pure 0).ite ((rejected_config e det_type).ite (Respects.ite ?_ hnotify))
  refine Respects.bind ?_ fun _ => hnotify
  exact (respects_modify _).mpr fun s => by simp

theorem StBuffering.processEvent_config (ev : StEvent) :
    Respects ConfigKept (StBuffering.processEvent e ev) := by
  intro s
  cases ev with
  | ST_EV_DETECTED det_type => exact StBuffering.detected_config e det_type s
  | ST_EV_DEVICE_CONNECTED =>
    simp +contextual [StBuffering.processEvent, StBuffering.deviceConnected,
      (config_of_calm (connectEvent_calm e)).through (s := s)]
  | ST_EV_READ_BUFFER => simp [StBuffering.processEvent, StBuffering.readBuffer]
  | _ =>
    simp [StBuffering.processEvent, ecRef, dropNlpiVote, postDelayedStop,
      (restartRecognition_config e).after, (unloadDetection_config e).after,
      (concurrentDetection_config e _).after, (disconnectEvent_config e _).after,
      (pauseDetection_config e).after, (stopDetection_config e).after,
      (configDetection_config e _).after, (ssrOfflineDetection_config e).after]

/-! ### The way to a loaded stream -/

theorem updateSoundModel_attached (model : pal_st_sound_model) (s : StreamSoundTrigger) :
    Ensures (updateSoundModel e model) s fun status t => status = 0 → t.sm_cfg_ = true := by
  cases hm : model.type <;> simp [updateSoundModel, hm, EINVAL, ENOMEM]

/-- A model is loaded with the stream config. -/
theorem loadSoundModel_attached (model : pal_st_sound_model) (s : StreamSoundTrigger) :
    Ensures (loadSoundModel e model) s fun status t => status = 0 → t.sm_cfg_ = true := by
  unfold loadSoundModel
  refine (updateSoundModel_attached e model s).bind fun status t ht => ?_
  by_cases hstatus : status = 0
  · have hcfg : t.sm_cfg_ = true := ht hstatus
    have hexit : ∀ failed st u, ConfigKept t u →
        Ensures (loadExit failed st) u fun st v => st = 0 → v.sm_cfg_ = true :=
      fun failed st u hu =>
        ((config_of_calm (loadExit_calm failed st)).after hu).mono fun _ v hv _ => hv hcfg
    simp [hstatus, hexit]
    intros
    refine ((config_of_calm (loadEngines_calm model e.modelEngines)).after
      ((configKept_mk t t).mpr (refl t))).mono ?_
    intro loaded u hu
    exact ⟨fun _ => hexit _ _ _ hu, fun _ => hexit _ _ _ hu⟩
  · simp [hstatus, loadExit]

/-- The first stage is loaded again with the stream config. -/
theorem fstageLoad_attached (s : StreamSoundTrigger) :
    Ensures (fstageLoad e) s fun status t => status = 0 → t.sm_cfg_ = true := by
  unfold fstageLoad
  rw [ensures_bind]
  intro status t _
  by_cases hstatus : status = 0
  · simp +contextual [hstatus]
  · simp [hstatus]

theorem StIdle.loadModel_attached (model : pal_st_sound_model) {s : StreamSoundTrigger}
    (hcur : s.cur_state_ = ST_STATE_IDLE) :
    Ensures (StIdle.loadModel e model) s fun _ t => Attached t := by
  unfold StIdle.loadModel
  rw [ensures_bind, ensures_modify]
  refine (ensures_ite _ _ _ _ _).mpr ⟨fun _ => ?_, fun _ => ?_⟩
  · rw [ensures_pure]
    exact attached_idle hcur
  refine (updateDeviceConfig_device e _).bind fun status t ht => ?_
  have hcur' : t.cur_state_ = ST_STATE_IDLE := ht.cur_state_.trans hcur
  refine (ensures_ite _ _ _ _ _).mpr ⟨fun _ => ?_, fun _ => ?_⟩
  · rw [ensures_pure]
    exact attached_idle hcur'
  refine ((loadSoundModel_attached e model t).and (loadSoundModel_frame e model t)).bind ?_
  rintro status u ⟨hcfg, hu⟩
  by_cases hstatus : status = 0
  · simp [hstatus, attached_of_config, hcfg hstatus]
  · simp [hstatus, attached_idle (hu.cur_state_.trans hcur')]

theorem StIdle.loadFstage_attached {s : StreamSoundTrigger} (hcur : s.cur_state_ = ST_STATE_IDLE) :
    Ensures (StIdle.loadFstage e) s fun status t =>
      Attached t ∧ (status = 0 → t.sm_cfg_ = true) := by
  unfold StIdle.loadFstage
  refine ((fstageLoad_attached e s).and (fstageLoad_device e s)).bind ?_
  rintro status t ⟨hcfg, ht⟩
  by_cases hstatus : status = 0
  · simp [hstatus, attached_of_config, hcfg hstatus]
  · simp [hstatus, attached_idle (ht.cur_state_.trans hcur)]

theorem StIdle.concurrentStream_attached {s : StreamSoundTrigger}
    (hcur : s.cur_state_ = ST_STATE_IDLE) (is_active : Bool) :
    Ensures (StIdle.concurrentStream e is_active) s fun _ t => Attached t := by
  have hs : Attached s := attached_idle hcur
  unfold StIdle.concurrentStream
  rw [ensures_bind, ensures_get]
  refine (ensures_ite _ _ _ _ _).mpr ⟨fun _ => (ensures_pure _ _ _).mpr hs, fun _ => ?_⟩
  refine (ensures_ite _ _ _ _ _).mpr ⟨fun _ => (ensures_pure _ _ _).mpr hs, fun _ => ?_⟩
  refine (ensures_ite _ _ _ _ _).mpr ⟨fun _ => (ensures_pure _ _ _).mpr hs, fun _ => ?_⟩
  refine ((fstageLoad_attached e s).and (fstageLoad_device e s)).bind ?_
  rintro status t ⟨hcfg, ht⟩
  by_cases hstatus : status = 0
  · have hstart : ∀ u, u.sm_cfg_ = true →
        Ensures (StLoaded.startRecognition e true) u fun _ v => Attached v :=
      fun u hu => (startRecognition_calm e true u).mono fun _ v hv => attached_of_config (hv.1 hu)
    simp [hstatus, attached_of_config, hcfg hstatus, hstart]
  · simp [hstatus, attached_idle (ht.cur_state_.trans hcur)]

theorem StIdle.processEvent_attached {s : StreamSoundTrigger} (hcur : s.cur_state_ = ST_STATE_IDLE)
    (ev : StEvent) : Ensures (StIdle.processEvent e ev) s fun _ t => Attached t := by
  have hs : Attached s := attached_idle hcur
  cases ev with
  | ST_EV_LOAD_SOUND_MODEL model => exact StIdle.loadModel_attached e model hcur
  | ST_EV_UNLOAD_SOUND_MODEL =>
    have hunload := unloadSoundModel_device e s
    simp [StIdle.processEvent, StIdle.unloadModel, hs]
    exact fun _ => hunload.mono fun _ t ht => attached_idle (ht.cur_state_.trans hcur)
  | ST_EV_DEVICE_DISCONNECTED dev_id =>
    cases hdev : s.mDevices <;>
      simp [StIdle.processEvent, StIdle.deviceDisconnected, hdev, attached_idle, hcur]
  | ST_EV_DEVICE_CONNECTED =>
    have hdevice := updateDeviceConfig_device e s
    simp [StIdle.processEvent, StIdle.deviceConnected, hs]
    exact fun _ _ => hdevice.mono fun _ t ht => attached_idle (ht.cur_state_.trans hcur)
  | ST_EV_CONCURRENT_STREAM is_active => exact StIdle.concurrentStream_attached e hcur is_active
  | ST_EV_FSTAGE_LOAD => 
    exact (StIdle.loadFstage_attached e hcur).mono fun _ _ => And.left
  | ST_EV_SSR_OFFLINE => simp [StIdle.processEvent, StIdle.ssrOffline, attached_ssr]
  | _ => simp [StIdle.processEvent, attached_idle, hcur]

theorem StSSR.restoreLoaded_attached {s : StreamSoundTrigger} (hcur : s.cur_state_ = ST_STATE_IDLE) :
    Ensures (StSSR.restoreLoaded e) s fun status t =>
      Attached t ∧ (status = 0 → t.sm_cfg_ = true) := by
  unfold StSSR.restoreLoaded
  refine (StIdle.loadFstage_attached e hcur).bind ?_
  rintro status t ⟨ht, hcfg⟩
  by_cases hstatus : status = 0
  · have hcfg' : t.sm_cfg_ = true := hcfg hstatus
    have hsend : Ensures (sendCachedRecognitionConfig e) t fun st u =>
        Attached u ∧ (st = 0 → u.sm_cfg_ = true) := by
      refine (sendCachedRecognitionConfig_calm e t).mono fun st u hu => ?_
      exact ⟨attached_of_config (hu.1 hcfg'), fun _ => hu.1 hcfg'⟩
    simp [hstatus, hsend, ht, hcfg']
  · simp [hstatus, ht]

theorem StSSR.ssrOnline_attached (s : StreamSoundTrigger) :
    Ensures (StSSR.ssrOnline e) s fun _ t => Attached t := by
  unfold StSSR.ssrOnline
  simp only [ensures_bind, ensures_transitTo, ensures_get]
  refine (ensures_ite _ _ _ _ _).mpr ⟨fun _ => ?_, fun _ => ?_⟩
  · rw [ensures_pure]
    exact attached_idle rfl
  have hrestore : ∀ (rs : Option st_state_id_t) (Q : ℤ → StreamSoundTrigger → Prop),
      (∀ st t, Attached t → (st = 0 → t.sm_cfg_ = true) → Q st t) → Ensures (StSSR.restoreLoaded e)
        { s with cur_state_ := ST_STATE_IDLE, state_for_restore_ := rs } Q :=
    fun rs Q hQ => (StSSR.restoreLoaded_attached e rfl).mono fun st t ht => hQ st t ht.1 ht.2
  have hstart : ∀ t, t.sm_cfg_ = true → Ensures (StLoaded.startRecognition e true) t
      fun _ u => Attached u :=
    fun t ht => (startRecognition_calm e true t).mono fun _ u hu => attached_of_config (hu.1 ht)
  generalize StSSR.restoreState { s with cur_state_ := ST_STATE_IDLE } = restore
  simp
  refine ⟨fun _ => hrestore restore _ fun st t ht hcfg => ?_, fun _ hne => ⟨?_, ?_⟩⟩
  · exact ⟨fun hst => ⟨fun _ => hstart t (hcfg hst), fun _ => ht⟩, fun _ => ht⟩
  · exact fun hactive => absurd hactive hne
  · exact fun _ => attached_idle rfl

theorem StSSR.processEvent_attached {s : StreamSoundTrigger} (hcur : s.cur_state_ = ST_STATE_SSR)
    (ev : StEvent) : Ensures (StSSR.processEvent e ev) s fun _ t => Attached t := by
  have hs : Attached s := attached_ssr hcur
  have hmodel : ∀ model, Ensures (updateSoundModel e model) s fun _ t => t.cur_state_ = ST_STATE_SSR :=
    fun model => (updateSoundModel_frame e model s).mono fun _ _ ht => ht.cur_state_.trans hcur
  cases ev with
  | ST_EV_SSR_ONLINE => exact StSSR.ssrOnline_attached e s
  | ST_EV_LOAD_SOUND_MODEL model =>
    simp [StSSR.processEvent, StSSR.loadModel, StSSR.clientCommand, StSSR.restoreTo, hs]
    exact fun _ => (hmodel model).mono fun _ t ht => by simp [attached_ssr, ht]
  | _ =>
    simp [StSSR.processEvent, StSSR.clientCommand, StSSR.restoreTo, StSSR.startRecognition,
      StSSR.resume, updateRecognitionConfig, notifyAbort, attached_ssr, hcur]

end Procedures

/-! ### The invariant -/

theorem event_attached (e : Env) (ev : StEvent) {s : StreamSoundTrigger} (hs : Attached s) :
    Ensures (processEvent e ev) s fun _ t => Attached t := by
  unfold processEvent
  rw [ensures_bind, ensures_get]
  have hengaged : ∀ m : StProc ℤ, Respects ConfigKept m → Engaged s.cur_state_ →
      Ensures m s fun _ t => Attached t :=
    fun m hm hcur => (hm s).mono fun _ t ht => attached_of_config (ht (hs hcur))
  cases hcur : s.cur_state_
  case ST_STATE_IDLE => exact StIdle.processEvent_attached e hcur ev
  case ST_STATE_SSR => exact StSSR.processEvent_attached e hcur ev
  case ST_STATE_LOADED =>
    exact hengaged _ (config_of_calm (StLoaded.processEvent_calm e ev)) (by simp [Engaged, hcur])
  case ST_STATE_ACTIVE =>
    exact hengaged _ (StActive.processEvent_config e ev) (by simp [Engaged, hcur])
  case ST_STATE_DETECTED =>
    exact hengaged _ (StDetected.processEvent_config e ev) (by simp [Engaged, hcur])
  case ST_STATE_BUFFERING =>
    exact hengaged _ (StBuffering.processEvent_config e ev) (by simp [Engaged, hcur])

/-- What is outside the state machine leaves the stream config and the state alone. -/
theorem Attached.frame {s t : StreamSoundTrigger} (hst : CallFrame s t) (hs : Attached s) :
    Attached t := by
  unfold Attached
  rw [hst.frame.cur_state_, hst.sm_cfg_]
  exact hs

theorem step_attached {s t : StreamSoundTrigger} {i : StreamInput} (hs : Attached s)
    (ht : step s i = some t) : Attached t := by
  have hall : Admits (fun _ _ _ => true) s i := by
    have hguard : guarded (fun _ _ _ => true) i.1 = processEvent i.1 := rfl
    unfold Admits
    rw [hguard]
    rfl
  refine inv_of_admits hall ht (call_keeps (fun _ _ => Attached.frame) ?_ ?_ i.1 i.2 hs)
  · exact fun e ev s _ _ hs => event_attached e ev hs
  · intro e det_type s _ _ hs
    exact event_attached e _ ((attached_mk s).mpr hs)

theorem attached_init (online paused : Bool) : Attached (.init online paused) := by
  cases online
  · exact attached_ssr rfl
  · exact attached_idle rfl

end AudioReachPal.StStream
