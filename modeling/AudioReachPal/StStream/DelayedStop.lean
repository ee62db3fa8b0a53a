import AudioReachPal.StStream.Attached

/-!
# The deferred stop of a sound trigger stream

A stream posts a deferred stop when it has notified the client of a detection, and again when the
client stops buffering; every way out of a detection cancels it. `callOps` lists what a call posts
and cancels, in order, and `pending_of_step` says that `pending_stop_` is what the last of them left.
The exceptions, which leave a detection with the stop pending, are the events that `stopOk` refuses.
-/

namespace AudioReachPal.StStream

open AudioReachPal.Lib

open st_state_id_t st_module_type_t stream_state_t StEvent StreamSoundTrigger

/-- What is done about the deferred stop. -/
inductive TimerOp where
  | postDelayedStop
  | cancelDelayedStop
  deriving DecidableEq, Repr

/-- `pending_stop_` after the operation. -/
def TimerOp.pending : TimerOp → Bool
  | .postDelayedStop => true
  | .cancelDelayedStop => false

/-- `pending_stop_` after the operations, taken in order. -/
def pendingAfter (pending : Bool) (ops : List TimerOp) : Bool :=
  ops.foldl (fun _ op => op.pending) pending

@[simp] theorem pendingAfter_nil (pending : Bool) : pendingAfter pending [] = pending := rfl

@[simp] theorem pendingAfter_cons (pending : Bool) (op : TimerOp) (ops : List TimerOp) :
    pendingAfter pending (op :: ops) = pendingAfter op.pending ops := rfl

@[simp] theorem pending_post : TimerOp.postDelayedStop.pending = true := rfl

@[simp] theorem pending_cancel : TimerOp.cancelDelayedStop.pending = false := rfl

/-! ### What the events post and cancel -/

/-- The detection state after a detection of the second stage. -/
def detectionAfter (s : StreamSoundTrigger) (det_type : ℕ) : ℕ :=
  if det_type = KEYWORD_DETECTION_SUCCESS ∨ det_type = USER_VERIFICATION_SUCCESS then
    s.detection_state_ ||| det_type
  else s.detection_state_

/-- A rejection by the second stage. -/
def IsReject (det_type : ℕ) : Prop :=
  det_type = KEYWORD_DETECTION_REJECT ∨ det_type = USER_VERIFICATION_REJECT

instance (det_type : ℕ) : Decidable (IsReject det_type) := by
  unfold IsReject
  infer_instance

/-- Whether the client is notified of a detection that arrives in `ST_STATE_BUFFERING`. -/
def notifiesBuffering (e : Env) (s : StreamSoundTrigger) (det_type : ℕ) : Bool :=
  if det_type = GMM_DETECTED then false
  else if IsReject det_type then !s.rejection_notified_ && e.getNotifySecondStageFailure
  else detectionAfter s det_type == s.notification_state_

/-- Whether the client is notified of a detection that arrives in `ST_STATE_ACTIVE`. -/
def notifiesActive (s : StreamSoundTrigger) (det_type : ℕ) : Bool :=
  (det_type == GMM_DETECTED || det_type == THRESHOLD_REACHED) && s.engines_.length == 1

/-- What an event posts and cancels, by the state it arrives in. -/
def eventOps (e : Env) (s : StreamSoundTrigger) (ev : StEvent) : List TimerOp :=
  match s.cur_state_, ev with
  | ST_STATE_ACTIVE, ST_EV_DETECTED det_type =>
    if notifiesActive s det_type then [.postDelayedStop] else []
  | ST_STATE_BUFFERING, ST_EV_DETECTED det_type =>
    if notifiesBuffering e s det_type then [.postDelayedStop] else []
  | ST_STATE_BUFFERING, ST_EV_STOP_BUFFERING => [.postDelayedStop]
  -- the pause cancels, and falls through to the stop, which cancels again
  | ST_STATE_DETECTED, ST_EV_PAUSE | ST_STATE_DETECTED, ST_EV_INTERNAL_PAUSE =>
    [.cancelDelayedStop, .cancelDelayedStop]
  | ST_STATE_BUFFERING, ST_EV_PAUSE | ST_STATE_BUFFERING, ST_EV_INTERNAL_PAUSE
  | ST_STATE_DETECTED, ST_EV_START_RECOGNITION | ST_STATE_BUFFERING, ST_EV_START_RECOGNITION
  | ST_STATE_DETECTED, ST_EV_STOP_RECOGNITION | ST_STATE_BUFFERING, ST_EV_STOP_RECOGNITION
  | ST_STATE_DETECTED, ST_EV_UNLOAD_SOUND_MODEL | ST_STATE_BUFFERING, ST_EV_UNLOAD_SOUND_MODEL
  | ST_STATE_DETECTED, ST_EV_SSR_OFFLINE | ST_STATE_BUFFERING, ST_EV_SSR_OFFLINE =>
    [.cancelDelayedStop]
  | ST_STATE_DETECTED, ST_EV_RECOGNITION_CONFIG config
  | ST_STATE_BUFFERING, ST_EV_RECOGNITION_CONFIG config =>
    if s.rec_config_ = some config then [] else [.cancelDelayedStop]
  | ST_STATE_DETECTED, ST_EV_DEVICE_DISCONNECTED _ | ST_STATE_BUFFERING, ST_EV_DEVICE_DISCONNECTED _
  | ST_STATE_DETECTED, ST_EV_CONCURRENT_STREAM _ | ST_STATE_BUFFERING, ST_EV_CONCURRENT_STREAM _ =>
    if s.mDevices.isNone then [] else [.cancelDelayedStop]
  | _, _ => []

/-- What a call posts and cancels. -/
def callOps (e : Env) (s : StreamSoundTrigger) : StreamCall → List TimerOp
  | .setParameters (.LOAD_SOUND_MODEL payload) => eventOps e s (ST_EV_LOAD_SOUND_MODEL payload)
  | .setParameters (.RECOGNITION_CONFIG payload) => eventOps e s (ST_EV_RECOGNITION_CONFIG payload)
  | .setParameters .STOP_BUFFERING => eventOps e s ST_EV_STOP_BUFFERING
  | .setParameters .FORCE_RECOGNITION => eventOps e s ST_EV_FORCE_RECOGNITION
  | .start =>
    if !e.StreamLPIFlag && e.deferredSwitch then [] else eventOps e s ST_EV_START_RECOGNITION
  | .startL => eventOps e s ST_EV_START_RECOGNITION
  | .stop => if !e.StreamLPIFlag then [] else eventOps e s ST_EV_STOP_RECOGNITION
  | .close => eventOps e s ST_EV_UNLOAD_SOUND_MODEL
  | .read buf =>
    if buf ∧ s.cur_state_ = ST_STATE_BUFFERING ∧ !s.force_nlpi_vote then [.cancelDelayedStop] else []
  | .setEngineDetectionState det_type =>
    if det_type &&& DETECTION_TYPE_ALL = 0 then []
    else if (det_type = GMM_DETECTED ∨ det_type = THRESHOLD_REACHED) ∧
      s.cur_state_ ≠ ST_STATE_ACTIVE then []
    else if det_type &&& DETECTION_TYPE_SS ≠ 0 ∧ s.cur_state_ ≠ ST_STATE_BUFFERING then []
    else eventOps e s (ST_EV_DETECTED det_type)
  | .internalStopRecognition => if s.pending_stop_ then eventOps e s ST_EV_STOP_RECOGNITION else []
  | .handleConcurrentStream active =>
    if s.cap_prof_ = newCaptureProfile e s then []
    else (switchEvent e s active).elim [] (eventOps e s)
  | .setECRef => eventOps e s ST_EV_EC_REF
  | .disconnectDevice device_id =>
    if s.is_backend_shared_ && e.isTxConcurrencyActive then []
    else eventOps e s (ST_EV_DEVICE_DISCONNECTED device_id)
  | .connectDevice => eventOps e s ST_EV_DEVICE_CONNECTED
  | .disconnectStreamDeviceL dev_id => eventOps e s (ST_EV_DEVICE_DISCONNECTED dev_id)
  | .connectStreamDeviceL _ => eventOps e s ST_EV_DEVICE_CONNECTED
  | .pause is_internal => eventOps e s (if is_internal then ST_EV_INTERNAL_PAUSE else ST_EV_PAUSE)
  | .resume _ => eventOps e s ST_EV_FSTAGE_LOAD
  | .ssrDownHandler => if !e.isSsrDownFeasible then [] else eventOps e s ST_EV_SSR_OFFLINE
  | .ssrUpHandler => eventOps e s ST_EV_SSR_ONLINE

/-! ### The events leave what they post and cancel -/

section Events

variable (e : Env)

/-- What is calm keeps a stop cancelled. -/
theorem ensures_cancelled {α : Type} {m : StProc α} (hm : Respects Calm m) {s : StreamSoundTrigger}
    (hs : s.pending_stop_ = false) {Q : α → StreamSoundTrigger → Prop}
    (hQ : ∀ a t, t.pending_stop_ = false → Q a t) : Ensures m s Q :=
  (hm s).mono fun a t ht => hQ a t (ht.pending_stop_.trans hs)

theorem restartRecognition_cancels (s : StreamSoundTrigger) :
    Ensures (restartRecognition e) s fun _ t => t.pending_stop_ = false := by
  simp [restartRecognition, cancelDelayedStop, releaseWakeLock]

theorem stopDetection_cancels (s : StreamSoundTrigger) :
    Ensures (stopDetection e) s fun _ t => t.pending_stop_ = false := by
  simp +contextual [stopDetection, cancelDelayedStop, releaseWakeLock,
    ensures_cancelled (haltStream_calm e _)]

theorem pauseDetection_cancels (s : StreamSoundTrigger) :
    Ensures (pauseDetection e) s fun _ t => t.pending_stop_ = false := by
  simp +contextual [pauseDetection, cancelDelayedStop, releaseWakeLock,
    ensures_cancelled (haltStream_calm e _), ensures_cancelled (notifyAbort_calm e)]

theorem unloadDetection_cancels (s : StreamSoundTrigger) :
    Ensures (unloadDetection e) s fun _ t => t.pending_stop_ = false := by
  simp +contextual [unloadDetection, cancelDelayedStop, releaseWakeLock,
    ensures_cancelled (haltStream_calm e _), ensures_cancelled (unloadModel_calm e)]

theorem configDetection_cancels (config : pal_st_recognition_config) (s : StreamSoundTrigger) :
    Ensures (configDetection e config) s fun _ t => t.pending_stop_ = false := by
  simp +contextual [configDetection, cancelDelayedStop, releaseWakeLock,
    ensures_cancelled (haltStream_calm e _), ensures_cancelled (sendRecognitionConfig_calm e config)]

theorem ssrOfflineDetection_cancels (s : StreamSoundTrigger) :
    Ensures (ssrOfflineDetection e) s fun _ t => t.pending_stop_ = false := by
  unfold ssrOfflineDetection
  refine (stopDetection_cancels e s).bind fun _ t ht => ?_
  simp +contextual [ensures_cancelled (unloadFstage_calm e) ht]

theorem disconnectEvent_pending (session : Bool) (s : StreamSoundTrigger) :
    Ensures (disconnectEvent e session) s fun _ t =>
      t.pending_stop_ = (s.pending_stop_ && s.mDevices.isNone) ∧ t.cur_state_ = s.cur_state_ := by
  by_cases hdev : s.mDevices = none
  · simp [disconnectEvent, hdev]
  have hsome : s.mDevices.isNone = false :=
    Bool.eq_false_iff.mpr fun h => hdev (Option.isNone_iff_eq_none.mp h)
  rw [hsome, Bool.and_false]
  have hstop : ∀ st u, u.pending_stop_ = false → u.cur_state_ = s.cur_state_ →
      Ensures (stopAndCloseDevice st) u fun _ t =>
        t.pending_stop_ = false ∧ t.cur_state_ = s.cur_state_ := by
    intro st u hpending hcur
    refine ((stopAndCloseDevice_calm st u).and (stopAndCloseDevice_device st u)).mono ?_
    rintro _ t ⟨ht, htcur⟩
    exact ⟨ht.pending_stop_.trans hpending, htcur.cur_state_.trans hcur⟩
  cases session <;> simp [disconnectEvent, cancelDelayedStop, hdev, hstop]

theorem concurrentDetection_pending (is_active : Bool) (s : StreamSoundTrigger) :
    Ensures (concurrentDetection e is_active) s fun _ t =>
      t.pending_stop_ = (s.pending_stop_ && s.mDevices.isNone) := by
  unfold concurrentDetection
  refine (disconnectEvent_pending e false s).bind ?_
  rintro _ t ⟨ht, -⟩
  rw [← ht]
  simp only [ensures_bind, ensures_transitTo]
  refine (loaded_concurrentStream_calm e is_active _).mono fun status u hu => ?_
  simpa [releaseWakeLock] using hu.pending_stop_

theorem ensures_posted {s : StreamSoundTrigger} {Q : ℤ → StreamSoundTrigger → Prop}
    (hQ : ∀ a t, t.pending_stop_ = true → Q a t) : Ensures (notifyDetection e) s Q :=
  (notifyDetection_posts e s).mono fun a t ht => hQ a t ht.2.1

theorem StActive.detected_pending (det_type : ℕ) (s : StreamSoundTrigger) :
    Ensures (StActive.detected e det_type) s fun _ t =>
      t.pending_stop_ = (s.pending_stop_ || notifiesActive s det_type) := by
  unfold StActive.detected notifiesActive
  by_cases hgmm : det_type = GMM_DETECTED
  · by_cases hone : s.engines_.length = 1
    · simp [hgmm, hone, ensures_posted, GMM_DETECTED, THRESHOLD_REACHED]
    · simp [hgmm, hone, GMM_DETECTED, THRESHOLD_REACHED]
  · by_cases hthreshold : det_type = THRESHOLD_REACHED
    · by_cases hone : s.engines_.length = 1 <;> simp [hthreshold, hone, ensures_posted]
    · simp [hgmm, hthreshold]

theorem StDetected.processEvent_pending (ev : StEvent) {s : StreamSoundTrigger}
    (hcur : s.cur_state_ = ST_STATE_DETECTED) :
    Ensures (StDetected.processEvent e ev) s fun _ t =>
      t.pending_stop_ = pendingAfter s.pending_stop_ (eventOps e s ev) := by
  cases ev with
  | ST_EV_START_RECOGNITION =>
    simpa [StDetected.processEvent, eventOps, hcur] using restartRecognition_cancels e s
  | ST_EV_UNLOAD_SOUND_MODEL =>
    simpa [StDetected.processEvent, eventOps, hcur] using unloadDetection_cancels e s
  | ST_EV_STOP_RECOGNITION =>
    simpa [StDetected.processEvent, eventOps, hcur] using stopDetection_cancels e s
  | ST_EV_PAUSE =>
    simpa [StDetected.processEvent, eventOps, hcur] using pauseDetection_cancels e _
  | ST_EV_INTERNAL_PAUSE =>
    simpa [StDetected.processEvent, eventOps, hcur] using stopDetection_cancels e _
  | ST_EV_SSR_OFFLINE =>
    simpa [StDetected.processEvent, eventOps, hcur] using ssrOfflineDetection_cancels e _
  | ST_EV_RECOGNITION_CONFIG config =>
    by_cases hsame : s.rec_config_ = some config
    · simp [StDetected.processEvent, eventOps, hcur, hsame]
    · simpa [StDetected.processEvent, eventOps, hcur, hsame] using configDetection_cancels e config s
  | ST_EV_CONCURRENT_STREAM is_active =>
    refine (concurrentDetection_pending e is_active s).mono fun _ t ht => ?_
    cases hdev : s.mDevices <;> simp [ht, eventOps, hcur, hdev]
  | ST_EV_DEVICE_DISCONNECTED dev_id =>
    refine (disconnectEvent_pending e true s).mono fun _ t ht => ?_
    cases hdev : s.mDevices <;> simp [ht.1, eventOps, hcur, hdev]
  | ST_EV_DEVICE_CONNECTED =>
    refine (connectEvent_calm e s).mono fun _ t ht => ?_
    simpa [eventOps, hcur] using ht.pending_stop_
  | _ => simp [StDetected.processEvent, ecRef, eventOps, hcur]

theorem StBuffering.rejected_pending (det_type : ℕ) (s : StreamSoundTrigger) :
    Ensures (StBuffering.rejected e det_type) s fun _ t =>
      t.pending_stop_ =
        (s.pending_stop_ || (!s.rejection_notified_ && e.getNotifySecondStageFailure)) := by
  unfold StBuffering.rejected
  by_cases hnotified : s.rejection_notified_ = true
  · simp [hnotified]
  · cases hnotify : e.getNotifySecondStageFailure <;>
      simp +contextual [hnotified, releaseWakeLock, ensures_posted]

theorem StBuffering.detected_pending (det_type : ℕ) (s : StreamSoundTrigger) :
    Ensures (StBuffering.detected e det_type) s fun _ t =>
      t.pending_stop_ = (s.pending_stop_ || notifiesBuffering e s det_type) := by
  unfold StBuffering.detected notifiesBuffering detectionAfter
  by_cases hgmm : det_type = GMM_DETECTED
  · simp [hgmm]
  by_cases hreject : IsReject det_type
  · have hreject' : det_type = KEYWORD_DETECTION_REJECT ∨ det_type = USER_VERIFICATION_REJECT :=
      hreject
    simpa [hgmm, hreject, hreject'] using StBuffering.rejected_pending e det_type s
  · have hreject' : ¬(det_type = KEYWORD_DETECTION_REJECT ∨ det_type = USER_VERIFICATION_REJECT) :=
      hreject
    simp +contextual only [hgmm, ↓reduceIte, hreject', bind_pure_comp, hreject, ensures_ite,
      ensures_bind, ensures_map, ensures_transitTo, Bool.not_eq_true, ensures_deref, ensures_modify,
      ensures_pure, ensures_get, BEq.rfl, Bool.or_true, implies_true, ensures_posted, and_self,
      Bool.eq_self_or, beq_iff_eq, IsEmpty.forall_iff, not_or, or_self]

theorem StBuffering.processEvent_pending (ev : StEvent) {s : StreamSoundTrigger}
    (hcur : s.cur_state_ = ST_STATE_BUFFERING) :
    Ensures (StBuffering.processEvent e ev) s fun _ t =>
      t.pending_stop_ = pendingAfter s.pending_stop_ (eventOps e s ev) := by
  cases ev with
  | ST_EV_START_RECOGNITION =>
    simpa [StBuffering.processEvent, dropNlpiVote, eventOps, hcur] using restartRecognition_cancels e _
  | ST_EV_UNLOAD_SOUND_MODEL =>
    simpa [StBuffering.processEvent, dropNlpiVote, eventOps, hcur] using unloadDetection_cancels e _
  | ST_EV_STOP_RECOGNITION =>
    simpa [StBuffering.processEvent, dropNlpiVote, eventOps, hcur] using stopDetection_cancels e _
  | ST_EV_PAUSE =>
    simpa [StBuffering.processEvent, dropNlpiVote, eventOps, hcur] using pauseDetection_cancels e _
  | ST_EV_INTERNAL_PAUSE =>
    simpa [StBuffering.processEvent, dropNlpiVote, eventOps, hcur] using stopDetection_cancels e _
  | ST_EV_SSR_OFFLINE =>
    simpa [StBuffering.processEvent, dropNlpiVote, eventOps, hcur] using ssrOfflineDetection_cancels e _
  | ST_EV_RECOGNITION_CONFIG config =>
    by_cases hsame : s.rec_config_ = some config
    · simp [StBuffering.processEvent, eventOps, hcur, hsame]
    · simpa [StBuffering.processEvent, dropNlpiVote, eventOps, hcur, hsame] using
        configDetection_cancels e config _
  | ST_EV_CONCURRENT_STREAM is_active =>
    simp only [StBuffering.processEvent, dropNlpiVote, ensures_bind, ensures_modify]
    refine (concurrentDetection_pending e is_active _).mono fun _ t ht => ?_
    cases hdev : s.mDevices <;> simp [ht, eventOps, hcur, hdev]
  | ST_EV_DEVICE_DISCONNECTED dev_id =>
    simp only [StBuffering.processEvent, dropNlpiVote, ensures_bind, ensures_modify]
    refine (disconnectEvent_pending e true _).mono fun _ t ht => ?_
    cases hdev : s.mDevices <;> simp [ht.1, eventOps, hcur, hdev]
  | ST_EV_DEVICE_CONNECTED =>
    refine (connectEvent_calm e s).bind fun status t ht => ?_
    simp [eventOps, hcur, ht.pending_stop_]
  | ST_EV_DETECTED det_type =>
    refine (StBuffering.detected_pending e det_type s).mono fun _ t ht => ?_
    cases hnotifies : notifiesBuffering e s det_type <;> simp [ht, eventOps, hcur, hnotifies]
  | ST_EV_READ_BUFFER => simp [StBuffering.processEvent, StBuffering.readBuffer, eventOps, hcur]
  | _ =>
    simp [StBuffering.processEvent, dropNlpiVote, postDelayedStop, ecRef, eventOps, hcur]

theorem StActive.processEvent_pending (ev : StEvent) {s : StreamSoundTrigger}
    (hcur : s.cur_state_ = ST_STATE_ACTIVE) :
    Ensures (StActive.processEvent e ev) s fun _ t =>
      t.pending_stop_ = pendingAfter s.pending_stop_ (eventOps e s ev) := by
  by_cases hdet : ∃ det_type, ev = ST_EV_DETECTED det_type
  · obtain ⟨det_type, rfl⟩ := hdet
    refine (StActive.detected_pending e det_type s).mono fun _ t ht => ?_
    cases hnotifies : notifiesActive s det_type <;> simp [ht, eventOps, hcur, hnotifies]
  · refine (StActive.processEvent_calm e (not_exists.mp hdet) s).mono fun _ t ht => ?_
    cases ev with
    | ST_EV_DETECTED det_type => exact absurd ⟨det_type, rfl⟩ hdet
    | _ => simp [ht.pending_stop_, eventOps, hcur]

/-! ### The events outside a detection -/

/-- A deferred stop is neither posted nor cancelled. -/
def StopKept (s t : StreamSoundTrigger) : Prop := t.pending_stop_ = s.pending_stop_

instance : IsPreorder StreamSoundTrigger StopKept where
  refl _ := rfl
  trans _ _ _ h h' := h'.trans h

/-- A change of the other fields. -/
@[simp] theorem stopKept_mk (s t : StreamSoundTrigger) {st rs c p md o sh cc cp sc sm mt id gm g v en n
    d r rd ss rj nv br sk calls} :
    StopKept s ⟨st, rs, c, p, md, o, sh, cc, cp, sc, sm, mt, id, gm, g, v, en, n, d, r, rd, ss, rj,
      t.pending_stop_, nv, br, sk, calls⟩ ↔ StopKept s t :=
  Iff.rfl

@[simp] theorem stopKept_refl (s : StreamSoundTrigger) : StopKept s s := rfl

theorem stop_of_calm {α : Type} {m : StProc α} (h : Respects Calm m) : Respects StopKept m :=
  h.mono fun _ _ hst => hst.pending_stop_

theorem updateSoundModel_stop (model : pal_st_sound_model) :
    Respects StopKept (updateSoundModel e model) := by
  intro s
  cases hm : model.type <;> simp [updateSoundModel, hm]

theorem loadSoundModel_stop (model : pal_st_sound_model) :
    Respects StopKept (loadSoundModel e model) := by
  unfold loadSoundModel
  apply (updateSoundModel_stop e model).bind
  intro status s
  have hexit : ∀ failed st t, StopKept s t → Ensures (loadExit failed st) t fun _ u => StopKept s u :=
    fun failed st _ => (stop_of_calm (loadExit_calm failed st)).after
  simp [hexit]
  intros
  refine ((stop_of_calm (loadEngines_calm model e.modelEngines)).after
    ((stopKept_mk s s).mpr (refl s))).mono ?_
  intro loaded u hu
  exact ⟨fun _ => hexit _ _ _ hu, fun _ => hexit _ _ _ hu⟩

theorem StIdle.loadModel_stop (model : pal_st_sound_model) :
    Respects StopKept (StIdle.loadModel e model) := by
  unfold StIdle.loadModel
  apply (respects_modify _).mpr (fun s => by simp) |>.bind
  intro _
  apply Respects.ite
  · exact respects_pure _
  · apply (stop_of_calm (updateDeviceConfig_calm e)).bind
    intro status s
    simp +contextual [(loadSoundModel_stop e model).through (s := s)]

theorem StSSR.loadModel_stop (model : pal_st_sound_model) :
    Respects StopKept (StSSR.loadModel e model) := by
  intro s
  simp +contextual [StSSR.loadModel, StSSR.clientCommand, StSSR.restoreTo,
    (updateSoundModel_stop e model).through (s := s)]

theorem fstageLoad_calm : Respects Calm (fstageLoad e) := by
  unfold fstageLoad
  apply (updateDeviceConfig_calm e).bind
  intro status s
  simp

theorem StIdle.loadFstage_calm : Respects Calm (StIdle.loadFstage e) := by
  intro s
  simp +contextual [StIdle.loadFstage, (fstageLoad_calm e).through (s := s)]

theorem StIdle.concurrentStream_calm (is_active : Bool) :
    Respects Calm (StIdle.concurrentStream e is_active) := by
  unfold StIdle.concurrentStream
  apply respects_get.bind
  intro s
  apply (respects_pure 0).ite
  apply (respects_pure _).ite
  apply (respects_pure 0).ite
  apply (fstageLoad_calm e).bind
  intro status t
  simp [(startRecognition_calm e true).after]

/-- In `ST_STATE_IDLE` a load is left out: it replaces the stream config. -/
theorem StIdle.processEvent_calm {ev : StEvent} (hload : ∀ model, ev ≠ ST_EV_LOAD_SOUND_MODEL model) :
    Respects Calm (StIdle.processEvent e ev) := by
  intro s
  cases ev with
  | ST_EV_LOAD_SOUND_MODEL model => exact absurd rfl (hload model)
  | ST_EV_UNLOAD_SOUND_MODEL =>
    simp [StIdle.processEvent, StIdle.unloadModel, (unloadSoundModel_calm e).after]
  | ST_EV_DEVICE_DISCONNECTED dev_id =>
    cases hdev : s.mDevices <;> simp [StIdle.processEvent, StIdle.deviceDisconnected, hdev]
  | ST_EV_DEVICE_CONNECTED =>
    simp [StIdle.processEvent, StIdle.deviceConnected, (updateDeviceConfig_calm e).after]
  | ST_EV_CONCURRENT_STREAM is_active => exact StIdle.concurrentStream_calm e is_active s
  | ST_EV_FSTAGE_LOAD => exact StIdle.loadFstage_calm e s
  | _ => simp [StIdle.processEvent, StIdle.ssrOffline]

theorem StSSR.restoreLoaded_calm : Respects Calm (StSSR.restoreLoaded e) := by
  intro s
  simp +contextual [StSSR.restoreLoaded, (StIdle.loadFstage_calm e).through (s := s),
    (sendCachedRecognitionConfig_calm e).after]

theorem StSSR.ssrOnline_calm : Respects Calm (StSSR.ssrOnline e) := by
  have hclear : Respects Calm (do
      modify fun s => { s with state_for_restore_ := none }
      return 0 : StProc ℤ) :=
    Respects.bind ((respects_modify _).mpr fun s => by simp) fun _ => respects_pure 0
  have hstart : ∀ restore, Respects Calm (do
      if restore = some ST_STATE_ACTIVE then
        let status ← StLoaded.startRecognition e true
        if status ≠ 0 then return status
      modify fun s => { s with state_for_restore_ := none }
      return 0 : StProc ℤ) := fun restore =>
    Respects.ite ((startRecognition_calm e true).bind fun status =>
      (respects_pure status).ite hclear) hclear
  refine (transitTo_calm _).bind fun _ => respects_get.bind fun s => (respects_pure 0).ite ?_
  refine Respects.bind ((respects_modify _).mpr fun s => by simp) fun _ => Respects.ite ?_ (hstart _)
  exact (StSSR.restoreLoaded_calm e).bind fun status => (respects_pure status).ite (hstart _)

/-- In `ST_STATE_SSR` a load is left out: it replaces the stream config. -/
theorem StSSR.processEvent_calm {ev : StEvent} (hload : ∀ model, ev ≠ ST_EV_LOAD_SOUND_MODEL model) :
    Respects Calm (StSSR.processEvent e ev) := by
  intro s
  cases ev with
  | ST_EV_LOAD_SOUND_MODEL model => exact absurd rfl (hload model)
  | ST_EV_SSR_ONLINE => exact StSSR.ssrOnline_calm e s
  | ST_EV_PAUSE => simp [StSSR.processEvent, (notifyAbort_calm e).after]
  | _ =>
    simp [StSSR.processEvent, StSSR.clientCommand, StSSR.restoreTo, StSSR.startRecognition,
      StSSR.resume, updateRecognitionConfig]

/-- **What an event posts and cancels.** -/
theorem event_pending (ev : StEvent) (s : StreamSoundTrigger) :
    Ensures (processEvent e ev) s fun _ t =>
      t.pending_stop_ = pendingAfter s.pending_stop_ (eventOps e s ev) := by
  have hkept : ∀ m : StProc ℤ, Respects StopKept m → eventOps e s ev = [] →
      Ensures m s fun _ t => t.pending_stop_ = pendingAfter s.pending_stop_ (eventOps e s ev) := by
    intro m hm hops
    rw [hops]
    exact hm s
  unfold processEvent
  rw [ensures_bind, ensures_get]
  cases hcur : s.cur_state_
  case ST_STATE_IDLE =>
    refine hkept _ ?_ (by simp [eventOps, hcur])
    by_cases hload : ∃ model, ev = ST_EV_LOAD_SOUND_MODEL model
    · obtain ⟨model, rfl⟩ := hload
      exact StIdle.loadModel_stop e model
    · exact stop_of_calm (StIdle.processEvent_calm e (not_exists.mp hload))
  case ST_STATE_SSR =>
    refine hkept _ ?_ (by simp [eventOps, hcur])
    by_cases hload : ∃ model, ev = ST_EV_LOAD_SOUND_MODEL model
    · obtain ⟨model, rfl⟩ := hload
      exact StSSR.loadModel_stop e model
    · exact stop_of_calm (StSSR.processEvent_calm e (not_exists.mp hload))
  case ST_STATE_LOADED =>
    exact hkept _ (stop_of_calm (StLoaded.processEvent_calm e ev)) (by simp [eventOps, hcur])
  case ST_STATE_ACTIVE => exact StActive.processEvent_pending e ev hcur
  case ST_STATE_DETECTED => exact StDetected.processEvent_pending e ev hcur
  case ST_STATE_BUFFERING => exact StBuffering.processEvent_pending e ev hcur

/-! ### The calls leave what they post and cancel -/

/-- A change of the other fields. -/
@[simp] theorem eventOps_mk (t : StreamSoundTrigger) {rs c p o sh cc cp sc sm mt id gm g v rd ss ps nv
    br sk calls} (ev : StEvent) :
    eventOps e ⟨t.cur_state_, rs, c, p, t.mDevices, o, sh, cc, cp, sc, sm, mt, id, gm, g, v,
      t.engines_, t.notification_state_, t.detection_state_, t.rec_config_, rd, ss,
      t.rejection_notified_, ps, nv, br, sk, calls⟩ ev = eventOps e t ev :=
  rfl

theorem eventOps_start (s : StreamSoundTrigger) : eventOps e
    { s with currentState := STREAM_STARTED, rejection_notified_ := false }
      ST_EV_START_RECOGNITION = eventOps e s ST_EV_START_RECOGNITION := by
  cases hcur : s.cur_state_ <;> simp [eventOps, hcur]

theorem eventOps_eq_nil {ev : StEvent} (s : StreamSoundTrigger)
    (hev : ev = ST_EV_FSTAGE_UNLOAD ∨ ev = ST_EV_RESUME ∨ ev = ST_EV_INTERNAL_RESUME ∨
      ev = ST_EV_READ_BUFFER ∨ ev = ST_EV_DEVICE_CONNECTED ∨ ev = ST_EV_EC_REF ∨
      ev = ST_EV_SSR_ONLINE) : eventOps e s ev = [] := by
  rcases hev with rfl | rfl | rfl | rfl | rfl | rfl | rfl <;> cases hcur : s.cur_state_ <;> simp [eventOps, hcur]

/-- **What a call posts and cancels.** -/
theorem call_pending (c : StreamCall) (s : StreamSoundTrigger) :
    Ensures (c.proc e (processEvent e)) s fun _ t =>
      t.pending_stop_ = pendingAfter s.pending_stop_ (callOps e s c) := by
  have hnil : ∀ (ev : StEvent) (u : StreamSoundTrigger) (pending : Bool), eventOps e u ev = [] →
      u.pending_stop_ = pending →
      Ensures (processEvent e ev) u fun _ t => t.pending_stop_ = pending := by
    intro ev u pending hops hu
    refine (event_pending e ev u).mono fun st t ht => ?_
    rw [ht, hops, ← hu]
    rfl
  have hstart : Ensures (startL (processEvent e)) s fun _ t =>
      t.pending_stop_ = pendingAfter s.pending_stop_ (eventOps e s ST_EV_START_RECOGNITION) := by
    simp only [startL, ensures_bind, ensures_get, ensures_modify]
    refine (event_pending e _ _).mono fun status t ht => ?_
    rw [eventOps_start] at ht
    by_cases hstatus : status = 0 <;> simp [hstatus, ht, updateCaptureHandleInfo]
  cases c with
  | setParameters param =>
    cases param with
    | LOAD_SOUND_MODEL payload =>
      refine (event_pending e _ s).bind fun status t ht => ?_
      by_cases hstatus : status = 0 <;> simp [hstatus, ht, callOps]
    | _ => exact event_pending e _ s
  | startL => exact hstart
  | start =>
    simp only [StreamCall.proc, start, callOps, ensures_bind, ensures_get, ensures_deref]
    by_cases hdeferred : (!e.StreamLPIFlag && e.deferredSwitch) = true
    · simp [hdeferred]
    · rw [if_neg hdeferred, if_neg hdeferred]
      exact fun _ => hstart
  | stop =>
    simp only [StreamCall.proc, stop, callOps, updateCaptureHandleInfo, ensures_bind, ensures_get,
      ensures_deref]
    cases hlpi : e.StreamLPIFlag
    · simp
    · simp only [Bool.not_true, Bool.false_eq_true, if_false, ensures_bind, ensures_get,
        ensures_deref, ensures_modify]
      exact fun _ _ => event_pending e _ _
  | close =>
    refine (event_pending e _ s).bind fun status t ht => ?_
    simpa [callOps] using ht
  | read buf =>
    cases buf
    · simp [StreamCall.proc, StreamSoundTrigger.read, callOps]
    have hheld : Ensures (holdForRead e) s fun _ t =>
        t.pending_stop_ = pendingAfter s.pending_stop_ (callOps e s (.read true)) := by
      by_cases hcur : s.cur_state_ = ST_STATE_BUFFERING <;> by_cases hvote : s.force_nlpi_vote <;>
        simp [holdForRead, callOps, cancelDelayedStop, hcur, hvote]
    refine hheld.bind fun _ t ht => ?_
    refine (hnil _ t _ (eventOps_eq_nil e t (by simp)) ht).bind fun size u hu => ?_
    simp [pace, hu]
  | setEngineDetectionState det_type =>
    simp only [StreamCall.proc, setEngineDetectionState, callOps, ensures_bind, ensures_get]
    split_ifs with hall hstate hsecond hfirst
    · simp
    · simp
    · simp
    · simpa [acquireWakeLock, record] using event_pending e (ST_EV_DETECTED det_type)
        { s with calls := .acquireWakeLock :: s.calls }
    · exact event_pending e _ s
  | internalStopRecognition =>
    simp only [StreamCall.proc, internalStopRecognition, callOps, ensures_bind, ensures_get]
    cases hpending : s.pending_stop_
    · simp [hpending]
    · simpa [hpending] using event_pending e ST_EV_STOP_RECOGNITION s
  | handleConcurrentStream active =>
    have hswitch : ∀ u, u.pending_stop_ = s.pending_stop_ → callOps e u (.handleConcurrentStream active) =
        callOps e s (.handleConcurrentStream active) →
        Ensures (switchProfile e (processEvent e) active) u fun _ t => t.pending_stop_ =
          pendingAfter s.pending_stop_ (callOps e s (.handleConcurrentStream active)) := by
      intro u hu hops
      rw [← hops, ← hu]
      unfold switchProfile callOps
      rw [ensures_bind, ensures_get]
      by_cases hprof : u.cap_prof_ = newCaptureProfile e u
      · simp [hprof]
      · cases hev : switchEvent e u active with
        | none => simp [hprof]
        | some ev => simpa [hprof, hev] using event_pending e ev u
    have hdone := hswitch s rfl rfl
    cases active
    · simpa [StreamCall.proc, handleConcurrentStream] using
        hswitch { s with common_cp_update_disable_ := true } rfl rfl
    · simpa [StreamCall.proc, handleConcurrentStream] using hdone
  | setECRef =>
    simp only [StreamCall.proc, StreamSoundTrigger.setECRef, callOps, ensures_bind, ensures_get,
      ensures_ite, ensures_pure]
    rw [eventOps_eq_nil e s (by simp)]
    exact ⟨fun _ => rfl, fun _ => hnil _ s _ (eventOps_eq_nil e s (by simp)) rfl⟩
  | disconnectDevice device_id =>
    simp only [StreamCall.proc, disconnectDevice, callOps, ensures_bind, ensures_get]
    by_cases hshared : (s.is_backend_shared_ && e.isTxConcurrencyActive) = true
    · simp [hshared]
    · rw [if_neg hshared, if_neg hshared]
      exact event_pending e _ s
  | connectDevice =>
    simp only [StreamCall.proc, StreamSoundTrigger.connectDevice, callOps, ensures_bind, ensures_get,
      ensures_ite, ensures_pure]
    rw [eventOps_eq_nil e s (by simp)]
    exact ⟨fun _ => rfl, fun _ => hnil _ s _ (eventOps_eq_nil e s (by simp)) rfl⟩
  | disconnectStreamDeviceL dev_id => exact event_pending e _ s
  | connectStreamDeviceL dattr =>
    simp only [StreamCall.proc, connectStreamDeviceL, callOps, ensures_ite, ensures_pure]
    rw [eventOps_eq_nil e s (by simp)]
    exact ⟨fun _ => rfl, fun _ => hnil _ s _ (eventOps_eq_nil e s (by simp)) rfl⟩
  | pause is_internal =>
    refine (event_pending e _ s).bind fun _ t ht => ?_
    exact hnil _ t _ (eventOps_eq_nil e t (Or.inl rfl)) ht
  | resume is_internal =>
    refine (event_pending e _ s).bind fun _ t ht => ?_
    exact hnil _ t _ (eventOps_eq_nil e t (by cases is_internal <;> simp)) ht
  | ssrDownHandler =>
    simp only [StreamCall.proc, ssrDownHandler, callOps]
    cases hfeasible : e.isSsrDownFeasible
    · simp
    · simp only [Bool.not_true, Bool.false_eq_true, if_false, ensures_bind, ensures_modify]
      refine (event_pending e _ _).mono fun _ t ht => ?_
      simpa using ht
  | ssrUpHandler =>
    simp only [StreamCall.proc, ssrUpHandler, callOps, ensures_bind, ensures_get, ensures_ite,
      ensures_modify, ensures_pure]
    rw [eventOps_eq_nil e s (by simp)]
    exact ⟨fun _ => rfl, fun _ => hnil _ _ _ (eventOps_eq_nil e _ (by simp)) rfl⟩

/-! ### A pending stop belongs to a detection -/

/-- The connection of a device ends the second stage: the stream is active again. -/
def connectsActive (e : Env) (s : StreamSoundTrigger) : Bool :=
  ((connectEvent e).run s).elim false fun p => decide (p.1 = 0) && p.2.second_stage_processing_

/-- The event does not leave a detection with the stop pending. -/
def stopOk : EventCond := fun e s ev =>
  !s.pending_stop_ || match s.cur_state_, ev with
    | ST_STATE_DETECTED, ST_EV_CONCURRENT_STREAM _ | ST_STATE_BUFFERING, ST_EV_CONCURRENT_STREAM _ =>
      s.mDevices.isSome
    | ST_STATE_BUFFERING, ST_EV_DETECTED det_type =>
      !decide (IsReject det_type) || s.rejection_notified_ || e.getNotifySecondStageFailure
    | ST_STATE_BUFFERING, ST_EV_DEVICE_CONNECTED => !connectsActive e s
    | _, _ => true

/-- **The invariant.** A stop is only pending while a detection is handled. -/
def StopDetecting (s : StreamSoundTrigger) : Prop :=
  s.pending_stop_ = true → Detecting s.cur_state_

@[simp] theorem detecting_detected : Detecting ST_STATE_DETECTED := Or.inl rfl

@[simp] theorem detecting_buffering : Detecting ST_STATE_BUFFERING := Or.inr rfl

theorem ensures_notified {s : StreamSoundTrigger} {Q : ℤ → StreamSoundTrigger → Prop}
    (hs : Detecting s.cur_state_) (hQ : ∀ a t, Detecting t.cur_state_ → Q a t) :
    Ensures (notifyDetection e) s Q := by
  refine (notifyDetection_posts e s).mono fun a t ht => hQ a t ?_
  rw [ht.2.2]
  exact hs

theorem StActive.detected_detecting (det_type : ℕ) (s : StreamSoundTrigger)
    (hnotifies : notifiesActive s det_type = true) :
    Ensures (StActive.detected e det_type) s fun _ t => Detecting t.cur_state_ := by
  simp only [notifiesActive, Bool.and_eq_true, Bool.or_eq_true, beq_iff_eq] at hnotifies
  obtain ⟨rfl | rfl, -⟩ := hnotifies <;>
    simp +contextual [StActive.detected, ensures_notified, GMM_DETECTED, THRESHOLD_REACHED]

theorem StBuffering.detected_detecting (det_type : ℕ) {s : StreamSoundTrigger}
    (hcur : s.cur_state_ = ST_STATE_BUFFERING)
    (hok : (!decide (IsReject det_type) || s.rejection_notified_ || e.getNotifySecondStageFailure) =
      true) :
    Ensures (StBuffering.detected e det_type) s fun _ t => Detecting t.cur_state_ := by
  have hs : Detecting s.cur_state_ := Or.inr hcur
  unfold StBuffering.detected
  by_cases hgmm : det_type = GMM_DETECTED
  · simp [hgmm, hs]
  by_cases hreject : IsReject det_type
  · have hreject' : det_type = KEYWORD_DETECTION_REJECT ∨ det_type = USER_VERIFICATION_REJECT :=
      hreject
    by_cases hnotified : s.rejection_notified_ = true
    · simp [hgmm, hreject', StBuffering.rejected, hnotified, hs]
    · have hnotify : e.getNotifySecondStageFailure = true := by
        simpa [hreject, hnotified] using hok
      simp +contextual [hgmm, hreject', StBuffering.rejected, hnotified, hnotify, hs,
        ensures_notified, releaseWakeLock]
  · have hreject' : ¬(det_type = KEYWORD_DETECTION_REJECT ∨ det_type = USER_VERIFICATION_REJECT) :=
      hreject
    simp +contextual [hgmm, hreject', hs, ensures_notified]

/-- What keeps the stop pending in `ST_STATE_DETECTED` keeps the detection. -/
theorem StDetected.processEvent_detecting (ev : StEvent) {s : StreamSoundTrigger}
    (hcur : s.cur_state_ = ST_STATE_DETECTED) (hpending : s.pending_stop_ = true)
    (hok : stopOk e s ev = true) (hops : pendingAfter s.pending_stop_ (eventOps e s ev) = true) :
    Ensures (StDetected.processEvent e ev) s fun _ t => Detecting t.cur_state_ := by
  have hs : Detecting s.cur_state_ := Or.inl hcur
  cases ev with
  | ST_EV_RECOGNITION_CONFIG config =>
    by_cases hsame : s.rec_config_ = some config
    · simp [StDetected.processEvent, hsame, hs]
    · simp [eventOps, hcur, hsame] at hops
  | ST_EV_CONCURRENT_STREAM is_active =>
    cases hdev : s.mDevices <;> simp [stopOk, eventOps, hcur, hdev, hpending] at hok hops
  | ST_EV_DEVICE_DISCONNECTED dev_id =>
    refine (disconnectEvent_pending e true s).mono fun _ t ht => ?_
    rw [ht.2]
    exact hs
  | ST_EV_DEVICE_CONNECTED =>
    refine (connectEvent_device e s).mono fun _ t ht => ?_
    rw [ht.cur_state_]
    exact hs
  | ST_EV_START_RECOGNITION | ST_EV_UNLOAD_SOUND_MODEL | ST_EV_STOP_RECOGNITION | ST_EV_PAUSE
  | ST_EV_INTERNAL_PAUSE | ST_EV_SSR_OFFLINE =>
    simp [eventOps, hcur] at hops
  | _ => simp [StDetected.processEvent, ecRef, hs]

theorem StBuffering.processEvent_detecting (ev : StEvent) {s : StreamSoundTrigger}
    (hcur : s.cur_state_ = ST_STATE_BUFFERING) (hpending : s.pending_stop_ = true)
    (hok : stopOk e s ev = true) (hops : pendingAfter s.pending_stop_ (eventOps e s ev) = true) :
    Ensures (StBuffering.processEvent e ev) s fun _ t => Detecting t.cur_state_ := by
  have hs : Detecting s.cur_state_ := Or.inr hcur
  cases ev with
  | ST_EV_RECOGNITION_CONFIG config =>
    by_cases hsame : s.rec_config_ = some config
    · simp [StBuffering.processEvent, hsame, hs]
    · simp [eventOps, hcur, hsame] at hops
  | ST_EV_CONCURRENT_STREAM is_active =>
    cases hdev : s.mDevices <;> simp [stopOk, eventOps, hcur, hdev, hpending] at hok hops
  | ST_EV_DEVICE_DISCONNECTED dev_id =>
    simp only [StBuffering.processEvent, dropNlpiVote, ensures_bind, ensures_modify]
    refine (disconnectEvent_pending e true _).mono fun _ t ht => ?_
    rw [ht.2]
    exact hs
  | ST_EV_DEVICE_CONNECTED =>
    have hstays : connectsActive e s = false := by
      simpa [stopOk, hcur, hpending] using hok
    simp only [StBuffering.processEvent, StBuffering.deviceConnected]
    rw [ensures_bind]
    intro status t hrun
    have ht : Detecting t.cur_state_ := by
      rw [(connectEvent_device e s status t hrun).cur_state_]
      exact hs
    have hnot : status = 0 → t.second_stage_processing_ = false := by
      simpa [connectsActive, hrun] using hstays
    simp +contextual [hnot, ht]
  | ST_EV_DETECTED det_type =>
    refine StBuffering.detected_detecting e det_type hcur ?_
    simpa [stopOk, hcur, hpending] using hok
  | ST_EV_START_RECOGNITION | ST_EV_UNLOAD_SOUND_MODEL | ST_EV_STOP_RECOGNITION | ST_EV_PAUSE
  | ST_EV_INTERNAL_PAUSE | ST_EV_SSR_OFFLINE =>
    simp [eventOps, hcur] at hops
  | ST_EV_READ_BUFFER => simp [StBuffering.processEvent, StBuffering.readBuffer, hs]
  | _ => simp [StBuffering.processEvent, dropNlpiVote, postDelayedStop, ecRef, hs]

/-- A stop is posted where a detection is handled. -/
theorem event_posts (ev : StEvent) {s : StreamSoundTrigger} (hpending : s.pending_stop_ = false)
    (hops : pendingAfter s.pending_stop_ (eventOps e s ev) = true) :
    Ensures (processEvent e ev) s fun _ t => Detecting t.cur_state_ := by
  unfold processEvent
  rw [ensures_bind, ensures_get]
  rw [hpending] at hops
  cases hcur : s.cur_state_
  case ST_STATE_ACTIVE =>
    cases ev with
    | ST_EV_DETECTED det_type =>
      refine StActive.detected_detecting e det_type s ?_
      cases hnotifies : notifiesActive s det_type <;> simp [eventOps, hcur, hnotifies] at hops ⊢
    | _ => simp [eventOps, hcur] at hops
  case ST_STATE_BUFFERING =>
    cases ev with
    | ST_EV_DETECTED det_type =>
      refine StBuffering.detected_detecting e det_type hcur ?_
      cases hnotifies : notifiesBuffering e s det_type with
      | false => simp [eventOps, hcur, hnotifies] at hops
      | true =>
        by_cases hreject : IsReject det_type
        · simp [notifiesBuffering, hreject] at hnotifies
          simp [hnotifies.2.2]
        · simp [hreject]
    | ST_EV_STOP_BUFFERING =>
      simp [StBuffering.processEvent, dropNlpiVote, postDelayedStop, hcur]
    | ST_EV_RECOGNITION_CONFIG config =>
      by_cases hsame : s.rec_config_ = some config <;> simp [eventOps, hcur, hsame] at hops
    | ST_EV_CONCURRENT_STREAM is_active =>
      cases hdev : s.mDevices <;> simp [eventOps, hcur, hdev] at hops
    | ST_EV_DEVICE_DISCONNECTED dev_id =>
      cases hdev : s.mDevices <;> simp [eventOps, hcur, hdev] at hops
    | _ => simp [eventOps, hcur] at hops
  case ST_STATE_DETECTED =>
    cases ev with
    | ST_EV_RECOGNITION_CONFIG config =>
      by_cases hsame : s.rec_config_ = some config <;> simp [eventOps, hcur, hsame] at hops
    | ST_EV_CONCURRENT_STREAM is_active =>
      cases hdev : s.mDevices <;> simp [eventOps, hcur, hdev] at hops
    | ST_EV_DEVICE_DISCONNECTED dev_id =>
      cases hdev : s.mDevices <;> simp [eventOps, hcur, hdev] at hops
    | _ => simp [eventOps, hcur] at hops
  all_goals simp [eventOps, hcur] at hops

/-- An event keeps the invariant, unless it leaves a detection with the stop pending. -/
theorem event_stopDetecting (ev : StEvent) {s : StreamSoundTrigger} (hs : StopDetecting s)
    (hok : stopOk e s ev = true) :
    Ensures (processEvent e ev) s fun _ t => StopDetecting t := by
  by_cases hops : pendingAfter s.pending_stop_ (eventOps e s ev) = true
  · refine Ensures.mono ?_ fun _ t (ht : Detecting t.cur_state_) _ => ht
    cases hpending : s.pending_stop_ with
    | true =>
      unfold processEvent
      rw [ensures_bind, ensures_get]
      obtain hcur | hcur := hs hpending
      · rw [hcur]
        exact StDetected.processEvent_detecting e ev hcur hpending hok hops
      · rw [hcur]
        exact StBuffering.processEvent_detecting e ev hcur hpending hok hops
    | false => exact event_posts e ev hpending hops
  · refine (event_pending e ev s).mono fun _ t ht hpending => absurd ?_ hops
    rw [← ht]
    exact hpending

end Events

theorem StopDetecting.frame {s t : StreamSoundTrigger} (hst : CallFrame s t) (hs : StopDetecting s) :
    StopDetecting t := by
  intro ht
  rw [hst.frame.cur_state_]
  exact hs (hst.pending_stop_ ht)

theorem stopDetecting_of_admits {s t : StreamSoundTrigger} {i : StreamInput}
    (hok : Admits stopOk s i) (hs : StopDetecting s) (ht : step s i = some t) : StopDetecting t := by
  refine inv_of_admits hok ht (call_keeps (fun _ _ => StopDetecting.frame) ?_ ?_ i.1 i.2 hs)
  · exact fun e ev s _ hok hs => event_stopDetecting e ev hs hok
  · intro e det_type s _ hcur hs
    refine event_stopDetecting e _ (s := { s with calls := .acquireWakeLock :: s.calls }) hs ?_
    simp [stopOk, hcur]

/-- The stop that the timer calls is never refused. -/
theorem stopDetecting_internalStop (e : Env) {s t : StreamSoundTrigger} (hs : StopDetecting s)
    (ht : step s (e, .internalStopRecognition) = some t) : StopDetecting t := by
  have hstop : stopOk e s ST_EV_STOP_RECOGNITION = true := by
    cases hcur : s.cur_state_ <;> simp [stopOk, hcur]
  have hall : Ensures (internalStopRecognition (processEvent e)) s fun _ t => StopDetecting t := by
    unfold internalStopRecognition
    rw [ensures_bind, ensures_get, ensures_ite]
    refine ⟨fun _ => event_stopDetecting e _ hs hstop, fun _ => ?_⟩
    rw [ensures_pure]
    exact hs
  obtain ⟨⟨status, u⟩, hu, rfl⟩ := Option.map_eq_some_iff.mp ht
  exact hall status u hu

theorem stopDetecting_init (online paused : Bool) : StopDetecting (.init online paused) := by
  intro hpending
  cases hpending

theorem pending_of_step {s t : StreamSoundTrigger} {i : StreamInput} (ht : step s i = some t) :
    t.pending_stop_ = pendingAfter s.pending_stop_ (callOps i.1 s i.2) := by
  obtain ⟨⟨status, u⟩, hu, rfl⟩ := Option.map_eq_some_iff.mp ht
  exact call_pending i.1 i.2 s status u hu

end AudioReachPal.StStream
