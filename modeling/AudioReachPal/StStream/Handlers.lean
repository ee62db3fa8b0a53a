import AudioReachPal.StStream.Defs

/-!
# The state handlers of a sound trigger stream

`processEvent` of the six states, in an order in which an event that a handler passes on
(`ProcessInternalEvent`) goes to a state defined before it: such an event always goes to a state
that the handler knows, its own or the one it has just changed to. Then the functions of the
stream that the client, the resource manager, the engines and the timer call, and the step they
are for a run.
-/

namespace AudioReachPal.StStream

open AudioReachPal.Lib

open st_state_id_t st_module_type_t stream_state_t

inductive StEvent where
  | ST_EV_LOAD_SOUND_MODEL (data : pal_st_sound_model)
  | ST_EV_UNLOAD_SOUND_MODEL
  | ST_EV_RECOGNITION_CONFIG (data : pal_st_recognition_config)
  | ST_EV_START_RECOGNITION
  | ST_EV_STOP_RECOGNITION
  | ST_EV_DETECTED (det_type : ℕ)
  | ST_EV_READ_BUFFER
  | ST_EV_STOP_BUFFERING
  | ST_EV_PAUSE
  | ST_EV_RESUME
  | ST_EV_DEVICE_CONNECTED
  | ST_EV_DEVICE_DISCONNECTED (dev_id : pal_device_id_t)
  | ST_EV_SSR_OFFLINE
  | ST_EV_SSR_ONLINE
  | ST_EV_CONCURRENT_STREAM (is_active : Bool)
  | ST_EV_EC_REF
  | ST_EV_INTERNAL_PAUSE
  | ST_EV_INTERNAL_RESUME
  | ST_EV_FORCE_RECOGNITION
  | ST_EV_FSTAGE_LOAD
  | ST_EV_FSTAGE_UNLOAD
  deriving DecidableEq, Repr

open StEvent

/-- `restartRecognition` of an engine that is not active. -/
def RESTART_IGNORED : ℤ := 1

section Handlers

variable (e : Env)

/-! ### Connecting and disconnecting a device -/

/-- The part that `ST_EV_DEVICE_CONNECTED` has in all states with a session: a device is chosen,
set up, opened, started if `start` says so, and connected. An error is the status of the event;
after it the handlers do nothing more. -/
def connectDevice (start : Bool) : StProc (Except ℤ pal_device_id_t) := do
  let s ← get
  if s.mDevices.isSome then return .error (-EINVAL)
  let status ← updateDeviceConfig e
  let s ← get
  match s.mDevices with
  | none => return .error status
  | some dev =>
    updateStreamAttributes
    deref s.gsl_engine_
    if e.setupSessionDevice ≠ 0 then
      modify fun s => { s with mDevices := none }
      return .error e.setupSessionDevice
    if !s.device_opened_ then
      let status ← openDevice e dev
      if status ≠ 0 then return .error status
      setDeviceOpened true
    if start then
      let status ← startDevice e dev
      if status ≠ 0 then
        let _ ← closeDevice dev
        setDeviceOpened false
        return .error status
    if e.connectSessionDevice ≠ 0 then
      modify fun s => { s with mDevices := none }
      let _ ← closeDevice dev
      setDeviceOpened false
      return .error e.connectSessionDevice
    return .ok dev

/-- `connectEvent` -/
def connectEvent : StProc ℤ := do
  match ← connectDevice e true with
  | .error status => return status
  | .ok _ =>
    let s ← get
    if s.cur_state_ = ST_STATE_BUFFERING then
      if s.second_stage_processing_ then
        match firstFailure (engineAnswers s.engines_ e.startRecognition) with
        | some status =>
          let _ ← stopAndCloseDevice 0
          return status
        | none => return 0
      else return 0
    else
      modify fun s => { s with second_stage_processing_ := false }
      return 0

/-- `disconnectEvent`; `session` tells that the session is disconnected from the device. -/
def disconnectEvent (session : Bool) : StProc ℤ := do
  let s ← get
  if s.mDevices.isNone then return 0
  cancelDelayedStop
  let status ← stopEngines e 0
  if session then deref s.gsl_engine_
  let status ← stopAndCloseDevice status
  modify fun s => { s with mDevices := none }
  return status

/-- The stop of the engines and of the device that leads to `ST_STATE_LOADED`. -/
def haltStream (status : ℤ) : StProc ℤ := do
  let status ← stopEngines e status
  let status ← stopAndCloseDevice status
  transitTo ST_STATE_LOADED
  return status

/-- `setECRef` of the engine. -/
def ecRef : StProc ℤ := do
  let s ← get
  deref s.gsl_engine_
  return e.setECRef

/-- The capture profile for a concurrency event. -/
def newCaptureProfile (s : StreamSoundTrigger) : Option CaptureProfile :=
  if s.sm_cfg_ then e.newCaptureProfile else none

/-! ### `ST_STATE_LOADED` -/

namespace StLoaded

/-- The end of a start that failed after the device was started. -/
def startFailed (status : ℤ) : StProc ℤ := do
  let _ ← stopAndCloseDevice 0
  return status

/-- The start of the engines. -/
def startEngines (status : ℤ) : StProc ℤ := do
  let s ← get
  match firstFailure (engineAnswers s.engines_ e.startRecognition) with
  | some status => startFailed status
  | none =>
    transitTo ST_STATE_ACTIVE
    return if s.engines_.isEmpty then status else 0

/-- `ST_EV_START_RECOGNITION`, to which an internal resume falls through. -/
def startRecognition (isStart : Bool) : StProc ℤ := do
  let s ← get
  if s.paused_ then return -EBUSY
  if s.rec_config_.isNone then
    -- the message reads the data of the event; a resume has none
    deref isStart
    return -EINVAL
  let backend_update := !s.is_backend_shared_ && !s.common_cp_update_disable_ && isStart &&
    e.updateSoundTriggerCaptureProfile
  let status := if backend_update then e.startOtherDetectionStreams else 0
  match s.mDevices with
  | none => startEngines e status
  | some dev =>
    -- the capture profile is read only if the backend is not shared
    deref (!s.is_backend_shared_)
    if !e.getSoundTriggerCaptureProfile then
      startFailed status
    else
      if !s.device_opened_ then
        let status ← openDevice e dev
        if status ≠ 0 then return status
        setDeviceOpened true
      let status ← startDevice e dev
      if status ≠ 0 then
        let _ ← closeDevice dev
        setDeviceOpened false
        return status
      startEngines e status

def unloadModel : StProc ℤ := do
  let status ← unloadSoundModel e
  transitTo ST_STATE_IDLE
  return status

def unloadFstage : StProc ℤ := do
  let status ← fstageUnload e
  transitTo ST_STATE_IDLE
  return status

def internalResume : StProc ℤ := do
  modify fun s => { s with paused_ := false }
  let s ← get
  if !s.isActive then return 0
  if s.rec_config_.isSome then
    let status ← sendCachedRecognitionConfig e
    if status ≠ 0 then return status
  startRecognition e false

def deviceDisconnected (dev_id : pal_device_id_t) : StProc ℤ := do
  let s ← get
  match s.mDevices with
  | none => return 0
  | some dev =>
    if !isSameDeviceType s.is_backend_shared_ dev_id dev then return 0
    deref s.gsl_engine_
    if s.device_opened_ then
      let _ ← closeDevice dev
      setDeviceOpened false
    modify fun s => { s with mDevices := none }
    return 0

/-- What the engines answer when a device is connected: the first stage starts if it waited for
the device. -/
def connectAnswers (engines : List EngineId) (active : Bool) : List ℤ :=
  engines.mapIdx fun i id =>
    if id = ST_SM_ID_SVA_F_STAGE_GMM then e.checkForStartRecognition
    else if active then e.startRecognition i else 0

def deviceConnected : StProc ℤ := do
  let s ← get
  let active := s.isActive && !s.paused_
  match ← connectDevice e active with
  | .error status => return status
  | .ok _ =>
    match firstFailure (connectAnswers e s.engines_ active) with
    | some status => startFailed status
    | none =>
      modify fun s => { s with second_stage_processing_ := false }
      if active then transitTo ST_STATE_ACTIVE
      return 0

def concurrentStream (is_active : Bool) : StProc ℤ := do
  let s ← get
  if (newCaptureProfile e s).isNone then return -EINVAL
  if is_active then return -EINVAL
  let status ← fstageUnload e
  if status = 0 then transitTo ST_STATE_IDLE
  return status

def ssrOffline : StProc ℤ := do
  modify fun s => { s with
    state_for_restore_ := some (s.state_for_restore_.getD ST_STATE_LOADED) }
  let status ← unloadFstage e
  transitTo ST_STATE_SSR
  return status

def processEvent : StEvent → StProc ℤ
  | ST_EV_UNLOAD_SOUND_MODEL => unloadModel e
  | ST_EV_RECOGNITION_CONFIG config => sendRecognitionConfig e config
  | ST_EV_RESUME => do
    modify fun s => { s with paused_ := false }
    return 0
  | ST_EV_INTERNAL_RESUME => internalResume e
  | ST_EV_START_RECOGNITION => startRecognition e true
  | ST_EV_PAUSE | ST_EV_INTERNAL_PAUSE => do
    modify fun s => { s with paused_ := true }
    return 0
  | ST_EV_READ_BUFFER => return - EIO
  | ST_EV_DEVICE_DISCONNECTED dev_id => deviceDisconnected dev_id
  | ST_EV_DEVICE_CONNECTED => deviceConnected e
  | ST_EV_CONCURRENT_STREAM is_active => concurrentStream e is_active
  | ST_EV_SSR_OFFLINE => ssrOffline e
  | ST_EV_EC_REF => ecRef e
  | ST_EV_DETECTED _ => stopEngines e 0
  | ST_EV_FSTAGE_UNLOAD => unloadFstage e
  | _ => return 0

end StLoaded

/-! ### `ST_STATE_IDLE` -/

namespace StIdle

def loadModel (model : pal_st_sound_model) : StProc ℤ := do
  modify fun s => { s with sm_cfg_ := e.getStreamConfig }
  if !e.getStreamConfig then return -EINVAL
  let status ← updateDeviceConfig e
  if status ≠ 0 then return status
  let status ← loadSoundModel e model
  if status ≠ 0 then return status
  transitTo ST_STATE_LOADED
  return 0

def unloadModel : StProc ℤ := do
  let s ← get
  if s.mInstanceID = 0 then return 0
  unloadSoundModel e

def deviceDisconnected (dev_id : pal_device_id_t) : StProc ℤ := do
  let s ← get
  match s.mDevices with
  | none => return 0
  | some dev =>
    if !isSameDeviceType s.is_backend_shared_ dev_id dev then return 0
    modify fun s => { s with mDevices := none }
    return 0

def deviceConnected : StProc ℤ := do
  let s ← get
  if s.mDevices.isSome then return -EINVAL
  if !s.sm_cfg_ then return 0
  updateDeviceConfig e

def loadFstage : StProc ℤ := do
  let status ← fstageLoad e
  if status = 0 then transitTo ST_STATE_LOADED
  return status

def concurrentStream (is_active : Bool) : StProc ℤ := do
  let s ← get
  if s.gsl_engine_model_.isNone then return 0
  if (newCaptureProfile e s).isNone then return -EINVAL
  if !is_active then return 0
  let status ← fstageLoad e
  if status ≠ 0 then return status
  transitTo ST_STATE_LOADED
  if (← get).isActive then StLoaded.startRecognition e true else return 0

def ssrOffline : StProc ℤ := do
  modify fun s => { s with
    state_for_restore_ := some (s.state_for_restore_.getD ST_STATE_IDLE) }
  transitTo ST_STATE_SSR
  return 0

def processEvent : StEvent → StProc ℤ
  | ST_EV_LOAD_SOUND_MODEL model => loadModel e model
  | ST_EV_UNLOAD_SOUND_MODEL => unloadModel e
  | ST_EV_PAUSE | ST_EV_INTERNAL_PAUSE => do
    modify fun s => { s with paused_ := true }
    return 0
  | ST_EV_RESUME | ST_EV_INTERNAL_RESUME => do
    modify fun s => { s with paused_ := false }
    return 0
  | ST_EV_READ_BUFFER => return - EIO
  | ST_EV_DEVICE_DISCONNECTED dev_id => deviceDisconnected dev_id
  | ST_EV_DEVICE_CONNECTED => deviceConnected e
  | ST_EV_CONCURRENT_STREAM is_active => concurrentStream e is_active
  | ST_EV_SSR_OFFLINE => ssrOffline
  | ST_EV_FSTAGE_LOAD => loadFstage e
  | _ => return 0

end StIdle

/-! ### `ST_STATE_ACTIVE` -/

namespace StActive

def detected (det_type : ℕ) : StProc ℤ := do
  let s ← get
  if det_type ≠ GMM_DETECTED ∧ det_type ≠ THRESHOLD_REACHED then return 0
  if det_type = THRESHOLD_REACHED then
    modify fun s => { s with batchModeReadDone_ := false }
    transitTo ST_STATE_BUFFERING
  else
    deref s.rec_config_.isSome
    if s.rec_config_.all (!·.capture_requested) && s.engines_.length == 1 then
      transitTo ST_STATE_DETECTED
    else
      if 1 < s.engines_.length then
        modify fun s => { s with second_stage_processing_ := true }
      transitTo ST_STATE_BUFFERING
  if s.engines_.length = 1 then
    let _ ← notifyDetection e
  return 0

/-- The stop; a pause does not update the capture profile. -/
def stopRecognition (isPause : Bool) : StProc ℤ := do
  let s ← get
  let backend_update := !s.is_backend_shared_ && !s.common_cp_update_disable_ && !isPause &&
    e.updateSoundTriggerCaptureProfile
  let status ← haltStream e (if backend_update then e.stopOtherDetectionStreams else 0)
  return if backend_update then e.startOtherDetectionStreams else status

def recognitionConfig (config : pal_st_recognition_config) : StProc ℤ := do
  let s ← get
  -- `compareRecognitionConfig`
  if s.rec_config_ = some config then return 0
  let _ ← haltStream e 0
  sendRecognitionConfig e config

def deviceDisconnected (dev_id : pal_device_id_t) : StProc ℤ := do
  let s ← get
  match s.mDevices with
  | none => return 0
  | some dev =>
    if !isSameDeviceType s.is_backend_shared_ dev_id dev then return 0
    deref s.gsl_engine_
    let status ← stopAndCloseDevice 0
    modify fun s => { s with mDevices := none }
    return status

def deviceConnected : StProc ℤ := do
  match ← connectDevice e true with
  | .error status => return status
  | .ok _ => return 0

def concurrentStream (is_active : Bool) : StProc ℤ := do
  let s ← get
  if (newCaptureProfile e s).isNone then return -EINVAL
  if is_active then return -EINVAL
  let status ← stopRecognition e false
  if status ≠ 0 then return status
  StLoaded.concurrentStream e is_active

def ssrOffline : StProc ℤ := do
  modify fun s => { s with
    state_for_restore_ := some (s.state_for_restore_.getD ST_STATE_ACTIVE) }
  let _ ← stopRecognition e false
  let status ← StLoaded.unloadFstage e
  transitTo ST_STATE_SSR
  return status

def processEvent : StEvent → StProc ℤ
  | ST_EV_DETECTED det_type => detected e det_type
  | ST_EV_PAUSE => do
    modify fun s => { s with paused_ := true }
    let _ ← stopRecognition e true
    notifyAbort e
  | ST_EV_INTERNAL_PAUSE => do
    modify fun s => { s with paused_ := true }
    stopRecognition e true
  | ST_EV_UNLOAD_SOUND_MODEL => do
    let _ ← stopRecognition e false
    StLoaded.unloadModel e
  | ST_EV_STOP_RECOGNITION => stopRecognition e false
  | ST_EV_RECOGNITION_CONFIG config => recognitionConfig e config
  | ST_EV_EC_REF => ecRef e
  | ST_EV_READ_BUFFER => return - EIO
  | ST_EV_DEVICE_DISCONNECTED dev_id => deviceDisconnected dev_id
  | ST_EV_DEVICE_CONNECTED => deviceConnected e
  | ST_EV_CONCURRENT_STREAM is_active => concurrentStream e is_active
  | ST_EV_SSR_OFFLINE => ssrOffline e
  | ST_EV_FORCE_RECOGNITION => do
    let s ← get
    deref s.gsl_engine_
    return e.forceRecognition
  | _ => return 0

end StActive

/-! ### `ST_STATE_DETECTED` -/

/-- `restartRecognition` of an engine, or its start if it was not active. -/
def restartEngine (i : ℕ) : ℤ :=
  if e.restartRecognition i = RESTART_IGNORED then e.startRecognition i
  else e.restartRecognition i

/-- The client starts the next recognition: the engines are restarted, and the detection is over.
The device is kept as it is. -/
def restartRecognition : StProc ℤ := do
  cancelDelayedStop
  let s ← get
  let status := (firstFailure (engineAnswers s.engines_ (restartEngine e))).getD 0
  transitTo (if status = 0 then ST_STATE_ACTIVE else ST_STATE_LOADED)
  releaseWakeLock
  return status

/-- The stop of a stream that has detected. -/
def stopDetection : StProc ℤ := do
  cancelDelayedStop
  let status ← haltStream e 0
  releaseWakeLock
  return status

/-- A pause is a stop, of which the client is told. -/
def pauseDetection : StProc ℤ := do
  cancelDelayedStop
  let _ ← haltStream e 0
  let status ← notifyAbort e
  releaseWakeLock
  return status

def unloadDetection : StProc ℤ := do
  cancelDelayedStop
  let _ ← haltStream e 0
  let status ← StLoaded.unloadModel e
  releaseWakeLock
  return status

/-- A new config; the client sends the start later. -/
def configDetection (config : pal_st_recognition_config) : StProc ℤ := do
  cancelDelayedStop
  let _ ← haltStream e 0
  let status ← sendRecognitionConfig e config
  releaseWakeLock
  return status

def concurrentDetection (is_active : Bool) : StProc ℤ := do
  let _ ← disconnectEvent e false
  transitTo ST_STATE_LOADED
  let status ← StLoaded.concurrentStream e is_active
  releaseWakeLock
  return status

/-- The events that `ST_STATE_DETECTED` and `ST_STATE_BUFFERING` stop the stream with when the
sound card goes offline. -/
def ssrOfflineDetection : StProc ℤ := do
  let _ ← stopDetection e
  let status ← StLoaded.unloadFstage e
  transitTo ST_STATE_SSR
  return status

namespace StDetected

def processEvent : StEvent → StProc ℤ
  | ST_EV_START_RECOGNITION => restartRecognition e
  | ST_EV_PAUSE => do
    modify fun s => { s with paused_ := true }
    pauseDetection e
  | ST_EV_INTERNAL_PAUSE => do
    modify fun s => { s with paused_ := true }
    stopDetection e
  | ST_EV_UNLOAD_SOUND_MODEL => unloadDetection e
  | ST_EV_STOP_RECOGNITION => stopDetection e
  | ST_EV_RECOGNITION_CONFIG config => do
    if (← get).rec_config_ = some config then return 0
    configDetection e config
  | ST_EV_RESUME | ST_EV_INTERNAL_RESUME => do
    modify fun s => { s with paused_ := false }
    return 0
  | ST_EV_CONCURRENT_STREAM is_active => concurrentDetection e is_active
  | ST_EV_DEVICE_DISCONNECTED _ => disconnectEvent e true
  | ST_EV_DEVICE_CONNECTED => connectEvent e
  | ST_EV_SSR_OFFLINE => do
    modify fun s => { s with
      state_for_restore_ := some (s.state_for_restore_.getD ST_STATE_LOADED) }
    ssrOfflineDetection e
  | ST_EV_EC_REF => ecRef e
  | _ => return 0

end StDetected

/-! ### `ST_STATE_BUFFERING` -/

namespace StBuffering

def readBuffer : StProc ℤ := do
  let s ← get
  if !s.reader_ then return -EINVAL
  if !s.batchModeReadDone_ then deref s.gsl_engine_
  modify fun s => { s with batchModeReadDone_ := true }
  return e.read

/-- The engines that a rejection stops: those of the other stage. -/
def rejectionStops (det_type : ℕ) (id : EngineId) : Bool :=
  (det_type = USER_VERIFICATION_REJECT && id &&& ST_SM_ID_SVA_S_STAGE_KWD ≠ 0) ||
    (det_type = KEYWORD_DETECTION_REJECT &&
      (id &&& ST_SM_ID_SVA_S_STAGE_USER ≠ 0 || id &&& ST_SM_ID_SVA_S_STAGE_CTIUV ≠ 0))

/-- The answers of the engines that a rejection stops. -/
def rejectionAnswers (engines : List EngineId) (det_type : ℕ) : List ℤ :=
  (engines.mapIdx fun i id => if rejectionStops det_type id then [e.stopRecognition i] else []).flatten

/-- The second stage rejects: the client is notified and goes on, or the recognition is
restarted. -/
def rejected (det_type : ℕ) : StProc ℤ := do
  let s ← get
  if s.rejection_notified_ then return 0
  let status := lastStatus 0 (rejectionAnswers e s.engines_ det_type)
  modify fun s => { s with second_stage_processing_ := false, detection_state_ := ENGINE_IDLE }
  if e.getNotifySecondStageFailure then
    modify fun s => { s with rejection_notified_ := true }
    let _ ← notifyDetection e
    releaseWakeLock
    return status
  else
    let restarted := engineAnswers s.engines_ e.restartRecognition
    let status := (firstFailure restarted).getD (if restarted.isEmpty then status else 0)
    transitTo (if status = 0 then ST_STATE_ACTIVE else ST_STATE_LOADED)
    releaseWakeLock
    return status

def detected (det_type : ℕ) : StProc ℤ := do
  if det_type = GMM_DETECTED then return 0
  if det_type = KEYWORD_DETECTION_REJECT ∨ det_type = USER_VERIFICATION_REJECT then
    return ← rejected e det_type
  if det_type = KEYWORD_DETECTION_SUCCESS ∨ det_type = USER_VERIFICATION_SUCCESS then
    modify fun s => { s with detection_state_ := s.detection_state_ ||| det_type }
  let s ← get
  if s.detection_state_ = s.notification_state_ then
    modify fun s => { s with second_stage_processing_ := false, detection_state_ := ENGINE_IDLE }
    deref s.rec_config_.isSome
    if s.rec_config_.all (!·.capture_requested) then transitTo ST_STATE_DETECTED
    let _ ← notifyDetection e
  return 0

/-- With the device back, a second stage that was interrupted gives way to a new recognition. -/
def deviceConnected : StProc ℤ := do
  let status ← connectEvent e
  let s ← get
  if status = 0 ∧ s.second_stage_processing_ then
    transitTo ST_STATE_ACTIVE
    modify fun s => { s with second_stage_processing_ := false }
  return status

def processEvent : StEvent → StProc ℤ
  | ST_EV_READ_BUFFER => readBuffer e
  | ST_EV_STOP_BUFFERING => do
    dropNlpiVote
    modify fun s => { s with batchModeReadDone_ := false }
    postDelayedStop
    return 0
  | ST_EV_START_RECOGNITION => do
    dropNlpiVote
    restartRecognition e
  | ST_EV_RECOGNITION_CONFIG config => do
    if (← get).rec_config_ = some config then return 0
    dropNlpiVote
    configDetection e config
  | ST_EV_PAUSE => do
    modify fun s => { s with paused_ := true }
    dropNlpiVote
    pauseDetection e
  | ST_EV_INTERNAL_PAUSE => do
    modify fun s => { s with paused_ := true }
    dropNlpiVote
    stopDetection e
  | ST_EV_UNLOAD_SOUND_MODEL => do
    dropNlpiVote
    unloadDetection e
  | ST_EV_STOP_RECOGNITION => do
    dropNlpiVote
    stopDetection e
  | ST_EV_DETECTED det_type => detected e det_type
  | ST_EV_CONCURRENT_STREAM is_active => do
    dropNlpiVote
    concurrentDetection e is_active
  | ST_EV_DEVICE_DISCONNECTED _ => do
    dropNlpiVote
    disconnectEvent e true
  | ST_EV_DEVICE_CONNECTED => deviceConnected e
  | ST_EV_SSR_OFFLINE => do
    modify fun s => { s with
      state_for_restore_ := some (s.state_for_restore_.getD
        (if s.second_stage_processing_ then ST_STATE_ACTIVE else ST_STATE_LOADED)) }
    dropNlpiVote
    ssrOfflineDetection e
  | ST_EV_EC_REF => ecRef e
  | ST_EV_FORCE_RECOGNITION => do
    let s ← get
    deref s.gsl_engine_
    return 0
  | _ => return 0

end StBuffering

/-! ### `ST_STATE_SSR` -/

namespace StSSR

/-- The state to restore: after a concurrency event that failed it is the client's own. -/
def restoreState (s : StreamSoundTrigger) : Option st_state_id_t :=
  if s.state_for_restore_ = some ST_STATE_IDLE then
    match s.currentState with
    | STREAM_STARTED => some ST_STATE_ACTIVE
    | STREAM_OPENED | STREAM_STOPPED => some ST_STATE_LOADED
    | _ => some ST_STATE_IDLE
  else s.state_for_restore_

/-- The first stage and the recognition config go back to the engine. -/
def restoreLoaded : StProc ℤ := do
  let status ← StIdle.loadFstage e
  if status ≠ 0 then return status
  if (← get).rec_config_.isSome then sendCachedRecognitionConfig e else return 0

/-- `ST_EV_SSR_ONLINE` -/
def ssrOnline : StProc ℤ := do
  transitTo ST_STATE_IDLE
  let s ← get
  if s.gsl_engine_model_.isNone then return 0
  let restore := restoreState s
  modify fun s => { s with state_for_restore_ := restore }
  if restore = some ST_STATE_LOADED ∨ restore = some ST_STATE_ACTIVE then
    let status ← restoreLoaded e
    if status ≠ 0 then return status
  if restore = some ST_STATE_ACTIVE then
    let status ← StLoaded.startRecognition e true
    if status ≠ 0 then return status
  modify fun s => { s with state_for_restore_ := none }
  return 0

/-- A command of the client is admitted in the state `required` of the client; what it changes is
restored later. -/
def clientCommand (required : st_state_id_t) (command : StProc ℤ) : StProc ℤ := do
  if (← get).state_for_restore_ ≠ some required then return -EINVAL
  command

/-- The state to restore after a command. -/
def restoreTo (state : st_state_id_t) : StProc ℤ := do
  modify fun s => { s with state_for_restore_ := some state }
  return 0

def loadModel (model : pal_st_sound_model) : StProc ℤ :=
  clientCommand ST_STATE_IDLE do
    let status ← updateSoundModel e model
    if status ≠ 0 then return status
    restoreTo ST_STATE_LOADED

def startRecognition : StProc ℤ :=
  clientCommand ST_STATE_LOADED do
    if (← get).rec_config_.isNone then return -EINVAL
    restoreTo ST_STATE_ACTIVE

def resume : StProc ℤ := do
  let s ← get
  if s.paused_ then
    if s.currentState = STREAM_STARTED then
      modify fun s => { s with state_for_restore_ := some ST_STATE_ACTIVE }
    modify fun s => { s with paused_ := false }
  return 0

def processEvent : StEvent → StProc ℤ
  | ST_EV_SSR_ONLINE => ssrOnline e
  | ST_EV_LOAD_SOUND_MODEL model => loadModel e model
  | ST_EV_UNLOAD_SOUND_MODEL => clientCommand ST_STATE_LOADED (restoreTo ST_STATE_IDLE)
  | ST_EV_RECOGNITION_CONFIG config => clientCommand ST_STATE_LOADED (updateRecognitionConfig e config)
  | ST_EV_START_RECOGNITION => startRecognition
  | ST_EV_STOP_RECOGNITION => clientCommand ST_STATE_ACTIVE (restoreTo ST_STATE_LOADED)
  | ST_EV_PAUSE => do
    modify fun s => { s with paused_ := true }
    notifyAbort e
  | ST_EV_INTERNAL_PAUSE => do
    modify fun s => { s with paused_ := true }
    return 0
  | ST_EV_RESUME | ST_EV_INTERNAL_RESUME => resume
  | ST_EV_READ_BUFFER => return - EIO
  | _ => return 0

end StSSR

/-- `cur_state_->processEvent` -/
def processEvent (ev : StEvent) : StProc ℤ := do
  match (← get).cur_state_ with
  | ST_STATE_IDLE => StIdle.processEvent e ev
  | ST_STATE_LOADED => StLoaded.processEvent e ev
  | ST_STATE_ACTIVE => StActive.processEvent e ev
  | ST_STATE_DETECTED => StDetected.processEvent e ev
  | ST_STATE_BUFFERING => StBuffering.processEvent e ev
  | ST_STATE_SSR => StSSR.processEvent e ev

end Handlers

end AudioReachPal.StStream
