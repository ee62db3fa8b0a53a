import AudioReachPal.Lib.Hoare
import AudioReachPal.Types

/-!
# The state of a sound trigger stream

What a `StreamSoundTrigger` keeps between two events, and the procedures its state handlers share.
A procedure faults where the source reads through a null pointer. What the code around the stream
answers (the resource manager, the platform configuration, the engines, the devices) comes with
each event as an `Env`; the calls that claims are counted on are recorded in `calls`.
-/

namespace AudioReachPal.StStream

open AudioReachPal.Lib

open st_state_id_t st_module_type_t

/-! ### Devices and capture profiles -/

/-- A device, by its id: `Device::getInstance` returns the same object for the same id. -/
abbrev pal_device_id_t := ℕ

def PAL_DEVICE_IN_MIN : pal_device_id_t := 30
def PAL_DEVICE_IN_HANDSET_MIC : pal_device_id_t := PAL_DEVICE_IN_MIN + 1
def PAL_DEVICE_IN_SPEAKER_MIC : pal_device_id_t := PAL_DEVICE_IN_MIN + 2
def PAL_DEVICE_IN_WIRED_HEADSET : pal_device_id_t := PAL_DEVICE_IN_MIN + 4
def PAL_DEVICE_IN_HANDSET_VA_MIC : pal_device_id_t := PAL_DEVICE_IN_MIN + 14
def PAL_DEVICE_IN_HEADSET_VA_MIC : pal_device_id_t := PAL_DEVICE_IN_MIN + 16

/-- A capture profile; `id` is the pointer. -/
structure CaptureProfile where
  id : ℕ
  DevId : pal_device_id_t
  deriving DecidableEq, Repr

/-- The devices whose backend other streams use too. -/
def CaptureProfile.isBackendShared (prof : CaptureProfile) : Bool :=
  prof.DevId == PAL_DEVICE_IN_HANDSET_MIC || prof.DevId == PAL_DEVICE_IN_SPEAKER_MIC ||
    prof.DevId == PAL_DEVICE_IN_WIRED_HEADSET

/-! ### Sound models and recognition configs -/

inductive pal_st_sound_model_type_t where
  | PAL_SOUND_MODEL_TYPE_UNKNOWN
  | PAL_SOUND_MODEL_TYPE_KEYPHRASE
  | PAL_SOUND_MODEL_TYPE_GENERIC
  deriving DecidableEq, Repr

/-- A sound model of the client; `id` stands for its data. -/
structure pal_st_sound_model where
  id : ℕ
  type : pal_st_sound_model_type_t
  data_size : ℕ
  data_offset : ℕ
  num_phrases : ℕ
  deriving DecidableEq, Repr

/-- `sizeof(struct pal_st_sound_model)` -/
def sizeofSoundModel : ℕ := 48

/-- `sizeof(struct pal_st_phrase_sound_model)` -/
def sizeofPhraseSoundModel : ℕ := 1296

/-- A recognition config; `id` stands for what `compareRecognitionConfig` reads besides
`capture_requested`. -/
structure pal_st_recognition_config where
  id : ℕ
  capture_requested : Bool
  deriving DecidableEq, Repr

/-- `listen_model_indicator_enum`, a set of bits. -/
abbrev EngineId := ℕ

def ST_SM_ID_SVA_F_STAGE_GMM : EngineId := 0x0001
def ST_SM_ID_SVA_S_STAGE_USER : EngineId := 0x0004
def ST_SM_ID_SVA_S_STAGE_KWD : EngineId := 0x004A
def ST_SM_ID_SVA_S_STAGE_CTIUV : EngineId := 0x0080

/-! ### Detection types -/

def ENGINE_IDLE : ℕ := 0x0
def GMM_DETECTED : ℕ := 0x1
def KEYWORD_DETECTION_SUCCESS : ℕ := 0x2
def KEYWORD_DETECTION_REJECT : ℕ := 0x4
def USER_VERIFICATION_SUCCESS : ℕ := 0x8
def USER_VERIFICATION_REJECT : ℕ := 0x10
def DETECTION_TYPE_SS : ℕ := 0x1E
def DETECTION_TYPE_ALL : ℕ := 0x11F
def THRESHOLD_REACHED : ℕ := 0x100

inductive stream_state_t where
  | STREAM_IDLE
  | STREAM_INIT
  | STREAM_OPENED
  | STREAM_STARTED
  | STREAM_PAUSED
  | STREAM_SUSPENDED
  | STREAM_STOPPED
  deriving DecidableEq, Repr

open stream_state_t

/-- The calls that are counted. The status is recorded where the call can fail. -/
inductive Call where
  | open (dev : pal_device_id_t) (status : ℤ)
  | close (dev : pal_device_id_t)
  | start (dev : pal_device_id_t) (status : ℤ)
  | stop (dev : pal_device_id_t)
  | acquireWakeLock
  | releaseWakeLock
  deriving DecidableEq, Repr

/-- What a stream keeps. A pointer that is only tested for null, or read through, is a `Bool`.
`mDevices` is only filled when it is empty, so it holds at most one device. -/
structure StreamSoundTrigger where
  cur_state_ : st_state_id_t
  state_for_restore_ : Option st_state_id_t
  currentState : stream_state_t
  paused_ : Bool
  mDevices : Option pal_device_id_t
  device_opened_ : Bool
  is_backend_shared_ : Bool
  common_cp_update_disable_ : Bool
  cap_prof_ : Option CaptureProfile
  sm_cfg_ : Bool
  sm_config_ : Option pal_st_sound_model
  model_type_ : st_module_type_t
  mInstanceID : ℕ
  gsl_engine_model_ : Option pal_st_sound_model
  gsl_engine_ : Bool
  vui_intf_ : Bool
  engines_ : List EngineId
  notification_state_ : ℕ
  detection_state_ : ℕ
  rec_config_ : Option pal_st_recognition_config
  reader_ : Bool
  second_stage_processing_ : Bool
  rejection_notified_ : Bool
  pending_stop_ : Bool
  force_nlpi_vote : Bool
  batchModeReadDone_ : Bool
  skipSSRHandling : Bool
  calls : List Call

/-- An engine of a sound model, and what its creation and its load answer. -/
structure ModelEngine where
  type : EngineId
  created : Bool
  interfaceMatches : Bool
  loadSoundModel : ℤ

/-- What the code around the stream answers while an event is handled. An answer of an engine is
for its position in `engines_`. `ecRefRequired` is what `setECRef` and `setECRefL` ask the platform
configuration; `unreadSizeShort` says that less data is left than the client's buffer holds. -/
structure Env where
  -- platform and resource manager
  getStreamConfig : Bool
  getCurrentCaptureProfile : Option CaptureProfile
  newCaptureProfile : Option CaptureProfile
  captureDevice : Option pal_device_id_t
  getSoundTriggerCaptureProfile : Bool
  updateSoundTriggerCaptureProfile : Bool
  stopOtherDetectionStreams : ℤ
  startOtherDetectionStreams : ℤ
  StreamLPIFlag : Bool
  deferredSwitch : Bool
  isTxConcurrencyActive : Bool
  isSsrDownFeasible : Bool
  getNotifySecondStageFailure : Bool
  keywordBufferSupported : Bool
  VUIModuleType : st_module_type_t
  streamInstanceID : ℕ
  allocated : Bool
  callback : Bool
  -- voice UI interface
  getVUIInterface : ℤ
  vui_interface : Bool
  getSoundModelType : ℤ
  soundModelType : st_module_type_t
  setDetectionPropertyList : ℤ
  getSoundModelList : ℤ
  setDetectionResult : ℤ
  getDetectionEvent : ℤ
  detectionEvent : Bool
  readOffset : ℕ
  -- recognition config
  sendBufferConfig : ℤ
  updateBufConfig : ℤ
  createBuffer : ℤ
  setBufferReader : ℕ → ℤ
  -- devices
  deviceOpen : ℤ
  deviceStart : ℤ
  -- engines
  modelEngines : List ModelEngine
  unloadSoundModel : ℕ → ℤ
  startRecognition : ℕ → ℤ
  stopRecognition : ℕ → ℤ
  restartRecognition : ℕ → ℤ
  checkForStartRecognition : ℤ
  gslLoadSoundModel : ℤ
  reconfigureDetectionGraph : ℤ
  setupSessionDevice : ℤ
  connectSessionDevice : ℤ
  setECRef : ℤ
  forceRecognition : ℤ
  read : ℤ
  unreadSizeShort : Bool
  ecRefRequired : Bool

/-- A procedure of a stream. -/
abbrev StProc := Proc StreamSoundTrigger

/-! ### Calls -/

def record (c : Call) : StProc Unit := modify fun s => { s with calls := c :: s.calls }

def transitTo (state : st_state_id_t) : StProc Unit := modify fun s => { s with cur_state_ := state }

/-- Reading through a pointer, which faults when it is null. -/
def deref (ptr : Bool) : StProc Unit := if ptr then pure () else failure

/-- `Device::close` -/
def closeDevice (dev : pal_device_id_t) : StProc ℤ := do
  record (.close dev)
  return 0

/-- `Device::stop` -/
def stopDevice (dev : pal_device_id_t) : StProc ℤ := do
  record (.stop dev)
  return 0

def acquireWakeLock : StProc Unit := record .acquireWakeLock

def releaseWakeLock : StProc Unit := record .releaseWakeLock

def setDeviceOpened (opened : Bool) : StProc Unit :=
  modify fun s => { s with device_opened_ := opened }

def postDelayedStop : StProc Unit := modify fun s => { s with pending_stop_ := true }

def cancelDelayedStop : StProc Unit := modify fun s => { s with pending_stop_ := false }

/-- `voteSleepMonitor(&st_stream_, false, true)` if `force_nlpi_vote` is set. -/
def dropNlpiVote : StProc Unit := modify fun s => { s with force_nlpi_vote := false }

/-- The answers of the engines, in order. -/
def engineAnswers (engines : List EngineId) (answer : ℕ → ℤ) : List ℤ :=
  engines.mapIdx fun i _ => answer i

/-- The status after a loop that calls every engine. -/
def lastStatus (status : ℤ) (answers : List ℤ) : ℤ := answers.getLast?.getD status

/-- The status after a loop that stops at the first engine that fails. -/
def firstFailure (answers : List ℤ) : Option ℤ := answers.find? fun st => st ≠ 0

section Procedures

variable (e : Env)

/-- `Device::open` -/
def openDevice (dev : pal_device_id_t) : StProc ℤ := do
  record (.open dev e.deviceOpen)
  return e.deviceOpen

/-- `Device::start` -/
def startDevice (dev : pal_device_id_t) : StProc ℤ := do
  record (.start dev e.deviceStart)
  return e.deviceStart

/-- `stopRecognition` of all engines. -/
def stopEngines (status : ℤ) : StProc ℤ := do
  let s ← get
  return lastStatus status (engineAnswers s.engines_ e.stopRecognition)

/-- The device part of a stop: the device is stopped and closed, whatever its state. -/
def stopAndCloseDevice (status : ℤ) : StProc ℤ := do
  let s ← get
  match s.mDevices with
  | none => return status
  | some dev =>
    let _ ← stopDevice dev
    let status ← closeDevice dev
    setDeviceOpened false
    return status

/-- `isSameDeviceType` -/
def isSameDeviceType (is_backend_shared : Bool) (dev_id curr_dev_id : pal_device_id_t) : Bool :=
  dev_id == curr_dev_id || (is_backend_shared &&
    (([PAL_DEVICE_IN_HANDSET_VA_MIC, PAL_DEVICE_IN_SPEAKER_MIC,
        PAL_DEVICE_IN_HANDSET_MIC].contains dev_id &&
      [PAL_DEVICE_IN_HANDSET_VA_MIC, PAL_DEVICE_IN_SPEAKER_MIC,
        PAL_DEVICE_IN_HANDSET_MIC].contains curr_dev_id) ||
    ([PAL_DEVICE_IN_HEADSET_VA_MIC, PAL_DEVICE_IN_WIRED_HEADSET].contains dev_id &&
      [PAL_DEVICE_IN_HEADSET_VA_MIC, PAL_DEVICE_IN_WIRED_HEADSET].contains curr_dev_id)))

/-- `isActive` -/
def StreamSoundTrigger.isActive (s : StreamSoundTrigger) : Bool :=
  s.currentState == STREAM_STARTED || s.cur_state_ == ST_STATE_BUFFERING ||
    s.cur_state_ == ST_STATE_DETECTED

/-- `updateStreamAttributes` reads through the capture profile, the stream config and the voice UI
interface. -/
def updateStreamAttributes : StProc Unit := do
  let s ← get
  deref (s.cap_prof_.isSome && s.sm_cfg_ && s.vui_intf_)

/-- `updateDeviceConfig`: the capture profile, and a device if the stream has none. -/
def updateDeviceConfig : StProc ℤ := do
  let s ← get
  let cap_prof := if s.sm_cfg_ then e.getCurrentCaptureProfile else none
  modify fun s => { s with cap_prof_ := cap_prof }
  match cap_prof with
  | none => return 0
  | some prof =>
    modify fun s => { s with is_backend_shared_ := prof.isBackendShared }
    match s.mDevices, e.captureDevice with
    | some _, _ => return 0
    | none, none => return -EINVAL
    | none, some dev =>
      modify fun s => { s with mDevices := some dev }
      return 0

/-- `updateSoundModel`: the checks of the model, and its copy. -/
def updateSoundModel (model : pal_st_sound_model) : StProc ℤ := do
  let admitted := match model.type with
    | .PAL_SOUND_MODEL_TYPE_KEYPHRASE =>
      decide (sizeofPhraseSoundModel ≤ model.data_offset ∧ model.data_size ≠ 0 ∧
        model.num_phrases ≠ 0)
    | .PAL_SOUND_MODEL_TYPE_GENERIC =>
      decide (model.data_size ≠ 0 ∧ sizeofSoundModel ≤ model.data_offset)
    | .PAL_SOUND_MODEL_TYPE_UNKNOWN => false
  if !admitted then return -EINVAL
  modify fun s => { s with sm_config_ := none }
  if !e.allocated then return -ENOMEM
  modify fun s => { s with sm_config_ := some model, sm_cfg_ := e.getStreamConfig }
  if !e.getStreamConfig then return -EINVAL
  return 0

/-- `handleEngineLoad`, whether it returns the engine. -/
def handleEngineLoad (model : pal_st_sound_model) (eng : ModelEngine) : StProc Bool := do
  if !eng.created then return false
  if eng.type = ST_SM_ID_SVA_F_STAGE_GMM then
    modify fun s => { s with gsl_engine_model_ := some model }
    if !eng.interfaceMatches then return false
  return eng.loadSoundModel == 0

/-- The loop of `loadSoundModel` over the models of its list. -/
def loadEngines (model : pal_st_sound_model) : List ModelEngine → StProc Bool
  | [] => return true
  | eng :: engines => do
    let loaded ← handleEngineLoad model eng
    if !loaded then return false
    modify fun s => { s with engines_ := s.engines_ ++ [eng.type] }
    if eng.type = ST_SM_ID_SVA_F_STAGE_GMM then
      modify fun s => { s with gsl_engine_ := true }
    else if eng.type &&& ST_SM_ID_SVA_S_STAGE_KWD ≠ 0 then
      modify fun s => { s with
        notification_state_ := s.notification_state_ ||| KEYWORD_DETECTION_SUCCESS }
    else if eng.type = ST_SM_ID_SVA_S_STAGE_USER ∨ eng.type = ST_SM_ID_SVA_S_STAGE_CTIUV then
      modify fun s => { s with
        notification_state_ := s.notification_state_ ||| USER_VERIFICATION_SUCCESS }
    loadEngines model engines

/-- The end of `loadSoundModel`; the copy of the model is freed in any case. -/
def loadExit (failed : Bool) (status : ℤ) : StProc ℤ := do
  if failed then
    modify fun s => { s with engines_ := [], gsl_engine_ := false, vui_intf_ := false }
  modify fun s => { s with sm_config_ := none }
  return status

/-- `StreamSoundTrigger::LoadSoundModel` -/
def loadSoundModel (model : pal_st_sound_model) : StProc ℤ := do
  let status ← updateSoundModel e model
  if status ≠ 0 then return ← loadExit true status
  modify fun s => { s with model_type_ := e.VUIModuleType }
  if e.getVUIInterface ≠ 0 ∨ e.vui_interface = false then
    return ← loadExit true e.getVUIInterface
  modify fun s => { s with vui_intf_ := true, model_type_ := e.soundModelType }
  if e.getSoundModelType ≠ 0 then return ← loadExit true e.getSoundModelType
  if e.setDetectionPropertyList ≠ 0 then return ← loadExit true e.setDetectionPropertyList
  updateStreamAttributes
  modify fun s => { s with mInstanceID := e.streamInstanceID }
  let loaded ← loadEngines model e.modelEngines
  if loaded then loadExit false e.getSoundModelList else loadExit true (-EINVAL)

/-- `StreamSoundTrigger::UnloadSoundModel` -/
def unloadSoundModel : StProc ℤ := do
  let s ← get
  let status := lastStatus 0 (engineAnswers s.engines_ e.unloadSoundModel)
  let status ← match s.device_opened_, s.mDevices with
    | true, some dev => do
      let status ← closeDevice dev
      setDeviceOpened false
      pure status
    | _, _ => pure status
  modify fun s => { s with
    mDevices := none, engines_ := [], gsl_engine_ := false, vui_intf_ := false, reader_ := false,
    notification_state_ := ENGINE_IDLE }
  return status

/-- `updateRecognitionConfig`, for a config other than the one the stream keeps. -/
def updateRecognitionConfig (config : pal_st_recognition_config) : StProc ℤ := do
  if e.allocated then
    modify fun s => { s with rec_config_ := some config }
    return 0
  else
    modify fun s => { s with rec_config_ := none }
    return -ENOMEM

/-- The readers are given to the engines; the one of the first stage is the stream's. -/
def assignReaders : List EngineId → ℕ → StProc ℤ
  | [], _ => return 0
  | id :: engines, i => do
    if id = ST_SM_ID_SVA_F_STAGE_GMM then
      modify fun s => { s with reader_ := true }
      assignReaders engines (i + 1)
    else if e.setBufferReader i ≠ 0 then return e.setBufferReader i
    else assignReaders engines (i + 1)

/-- `sendRecognitionConfig` after its `updateRecognitionConfig` answered `status`. -/
def sendConfig (status : ℤ) : StProc ℤ := do
  let s ← get
  let status ←
    if status ≠ 0 then pure status
    else do
      deref s.sm_cfg_
      if e.sendBufferConfig ≠ 0 then pure e.sendBufferConfig
      else do
        deref s.gsl_engine_
        if e.updateBufConfig ≠ 0 then pure e.updateBufConfig
        else if e.createBuffer ≠ 0 then pure e.createBuffer
        else assignReaders e s.engines_ 0
  if status ≠ 0 then modify fun s => { s with rec_config_ := none }
  return status

/-- `sendRecognitionConfig` of a config of the client. -/
def sendRecognitionConfig (config : pal_st_recognition_config) : StProc ℤ := do
  let s ← get
  if !s.vui_intf_ then return -EINVAL
  let status ← updateRecognitionConfig e config
  sendConfig e status

/-- `sendRecognitionConfig(st_stream_.rec_config_)`: the config is kept. -/
def sendCachedRecognitionConfig : StProc ℤ := do
  let s ← get
  if !s.vui_intf_ then return -EINVAL
  sendConfig e 0

/-- `fstageLoad` -/
def fstageLoad : StProc ℤ := do
  let status ← updateDeviceConfig e
  if status ≠ 0 then return status
  updateStreamAttributes
  let s ← get
  deref s.gsl_engine_
  return e.gslLoadSoundModel

/-- `fstageUnload` -/
def fstageUnload : StProc ℤ := do
  let s ← get
  match s.device_opened_, s.mDevices with
  | true, some dev => do
    let _ ← closeDevice dev
    setDeviceOpened false
  | _, _ => pure ()
  modify fun s => { s with mDevices := none }
  deref s.gsl_engine_
  return e.reconfigureDetectionGraph

/-- `notifyClient(PAL_RECOGNITION_STATUS_ABORT)`. The client's calls from inside the callback are
taken after the event. -/
def notifyAbort : StProc ℤ := do
  let s ← get
  if s.sm_config_.isNone then return -ENOMEM
  if e.callback then modify fun s => { s with currentState := STREAM_STOPPED }
  return 0

/-- `notifyClient` of a detection. The client's calls from inside the callback are taken after the
event. -/
def notifyDetection : StProc ℤ := do
  postDelayedStop
  let s ← get
  deref s.sm_cfg_
  if e.keywordBufferSupported then
    deref s.rec_config_.isSome
    if (s.rec_config_.elim false (·.capture_requested)) || decide (1 < s.engines_.length) then
      deref s.reader_
  deref s.vui_intf_
  if e.setDetectionResult ≠ 0 then return e.setDetectionResult
  if e.getDetectionEvent ≠ 0 ∨ e.detectionEvent = false then return e.getDetectionEvent
  if e.callback then
    modify fun s => { s with currentState := STREAM_STOPPED }
    deref s.gsl_engine_
  return 0

end Procedures

end AudioReachPal.StStream
