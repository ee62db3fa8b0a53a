import AudioReachPal.StStream.Handlers

/-!
# The functions of a sound trigger stream

What the client, the resource manager, the engines and the timer call, over the state machine: a
function prepares the stream, hands its event to `cur_state_->processEvent`, and acts on the status.
The state machine is a parameter `process` of them. With `processEvent` they are the source's; with
`guarded ok` they stop at an event that does not meet `ok`, and so tell which events a call delivers.
-/

namespace AudioReachPal.StStream

open AudioReachPal.Lib

open st_state_id_t st_module_type_t stream_state_t StEvent

/-- The parameters that a client sets. -/
inductive StParam where
  | LOAD_SOUND_MODEL (payload : pal_st_sound_model)
  | RECOGNITION_CONFIG (payload : pal_st_recognition_config)
  | STOP_BUFFERING
  | FORCE_RECOGNITION
  deriving DecidableEq, Repr

namespace StreamSoundTrigger

section Functions

variable (e : Env) (process : StEvent → StProc ℤ)

/-! ### The client -/

def setParameters : StParam → StProc ℤ
  | .LOAD_SOUND_MODEL payload => do
    let status ← process (ST_EV_LOAD_SOUND_MODEL payload)
    if status = 0 then modify fun s => { s with currentState := STREAM_OPENED }
    return status
  | .RECOGNITION_CONFIG payload => process (ST_EV_RECOGNITION_CONFIG payload)
  | .STOP_BUFFERING => process ST_EV_STOP_BUFFERING
  | .FORCE_RECOGNITION => process ST_EV_FORCE_RECOGNITION

/-- `updateCaptureHandleInfo` reads the recognition config. -/
def updateCaptureHandleInfo : StProc Unit := do
  let s ← get
  deref s.rec_config_.isSome

def startL : StProc ℤ := do
  let prev_state := (← get).currentState
  modify fun s => { s with currentState := STREAM_STARTED, rejection_notified_ := false }
  let status ← process ST_EV_START_RECOGNITION
  if status ≠ 0 then modify fun s => { s with currentState := prev_state }
  else updateCaptureHandleInfo
  return status

/-- A stream that runs in NLPI is not started while the switch to NLPI is deferred. -/
def start : StProc ℤ := do
  let s ← get
  deref s.sm_cfg_
  if !e.StreamLPIFlag && e.deferredSwitch then return 0
  startL process

def stop : StProc ℤ := do
  let s ← get
  deref s.sm_cfg_
  if !e.StreamLPIFlag then return 0
  updateCaptureHandleInfo
  modify fun s => { s with currentState := STREAM_STOPPED }
  process ST_EV_STOP_RECOGNITION

def close : StProc ℤ := do
  let status ← process ST_EV_UNLOAD_SOUND_MODEL
  modify fun s => { s with sm_config_ := none, currentState := STREAM_IDLE }
  return status

/-- What `read` does before its event: the first read of a detection holds the system awake. -/
def holdForRead : StProc Unit := do
  let s ← get
  if s.cur_state_ = ST_STATE_BUFFERING ∧ !s.force_nlpi_vote then
    cancelDelayedStop
    modify fun s => { s with force_nlpi_vote := true }
    deref s.vui_intf_
    if e.readOffset ≠ 0 then deref s.reader_

/-- What `read` does after its event: the data is processed, and the client waits for more. -/
def pace (size : ℤ) : StProc Unit := do
  let s ← get
  if 0 < size then
    deref s.vui_intf_
    -- the unread size is only asked for when something was read
    deref s.reader_
  if size ≤ 0 ∨ e.unreadSizeShort then deref s.sm_cfg_

/-- `read`; `buf` is the client's buffer. -/
def read (buf : Bool) : StProc ℤ := do
  if !buf then return -EINVAL
  holdForRead e
  let size ← process ST_EV_READ_BUFFER
  pace e size
  return size

/-! ### The engines and the timer -/

def setEngineDetectionState (det_type : ℕ) : StProc ℤ := do
  let s ← get
  if det_type &&& DETECTION_TYPE_ALL = 0 then return -EINVAL
  let first_stage := det_type = GMM_DETECTED ∨ det_type = THRESHOLD_REACHED
  if first_stage ∧ s.cur_state_ ≠ ST_STATE_ACTIVE then return -EINVAL
  if det_type &&& DETECTION_TYPE_SS ≠ 0 ∧ s.cur_state_ ≠ ST_STATE_BUFFERING then return -EINVAL
  if first_stage then acquireWakeLock
  process (ST_EV_DETECTED det_type)

def internalStopRecognition : StProc ℤ := do
  let s ← get
  if s.pending_stop_ then process ST_EV_STOP_RECOGNITION else return 0

/-! ### The resource manager -/

/-- The event of a switch between LPI and NLPI; a stream without an engine switches its device. -/
def switchEvent (s : StreamSoundTrigger) (active : Bool) : Option StEvent :=
  if s.model_type_ ≠ ST_MODULE_TYPE_HIST_CAP then some (ST_EV_CONCURRENT_STREAM active)
  else if active then (newCaptureProfile e s).map fun _ => ST_EV_DEVICE_CONNECTED
  else s.cap_prof_.map fun prof => ST_EV_DEVICE_DISCONNECTED prof.DevId

/-- The stream switches when the capture profile has changed. -/
def switchProfile (active : Bool) : StProc ℤ := do
  let s ← get
  if s.cap_prof_ = newCaptureProfile e s then return 0
  match switchEvent e s active with
  | some ev => process ev
  | none => failure

def handleConcurrentStream (active : Bool) : StProc ℤ := do
  if !active then modify fun s => { s with common_cp_update_disable_ := true }
  let status ← switchProfile e process active
  if active then modify fun s => { s with common_cp_update_disable_ := false }
  return status

def setECRef : StProc ℤ := do
  let s ← get
  if s.cap_prof_.isNone || !e.ecRefRequired then return 0
  process ST_EV_EC_REF

def disconnectDevice (device_id : pal_device_id_t) : StProc ℤ := do
  let s ← get
  if s.is_backend_shared_ && e.isTxConcurrencyActive then return 0
  process (ST_EV_DEVICE_DISCONNECTED device_id)

def connectDevice : StProc ℤ := do
  let s ← get
  if s.is_backend_shared_ && e.isTxConcurrencyActive then return 0
  process ST_EV_DEVICE_CONNECTED

def disconnectStreamDeviceL (dev_id : pal_device_id_t) : StProc ℤ :=
  process (ST_EV_DEVICE_DISCONNECTED dev_id)

/-- `connectStreamDeviceL`; `dattr` are the attributes of the device. -/
def connectStreamDeviceL (dattr : Bool) : StProc ℤ := do
  if !dattr then return -EINVAL
  process ST_EV_DEVICE_CONNECTED

def pause (is_internal : Bool) : StProc ℤ := do
  let _ ← process (if is_internal then ST_EV_INTERNAL_PAUSE else ST_EV_PAUSE)
  process ST_EV_FSTAGE_UNLOAD

def resume (is_internal : Bool) : StProc ℤ := do
  let _ ← process ST_EV_FSTAGE_LOAD
  process (if is_internal then ST_EV_INTERNAL_RESUME else ST_EV_RESUME)

def ssrDownHandler : StProc ℤ := do
  if !e.isSsrDownFeasible then
    modify fun s => { s with skipSSRHandling := true }
    return 0
  modify fun s => { s with common_cp_update_disable_ := true }
  let status ← process ST_EV_SSR_OFFLINE
  modify fun s => { s with common_cp_update_disable_ := false }
  return status

def ssrUpHandler : StProc ℤ := do
  let s ← get
  if s.skipSSRHandling then
    modify fun s => { s with skipSSRHandling := false }
    return 0
  modify fun s => { s with common_cp_update_disable_ := true }
  let status ← process ST_EV_SSR_ONLINE
  modify fun s => { s with common_cp_update_disable_ := false }
  return status

end Functions

end StreamSoundTrigger

/-! ### Runs -/

/-- A call of a function of the stream. -/
inductive StreamCall where
  | setParameters (param : StParam)
  | start
  | startL
  | stop
  | close
  | read (buf : Bool)
  | setEngineDetectionState (det_type : ℕ)
  | internalStopRecognition
  | handleConcurrentStream (active : Bool)
  | setECRef
  | disconnectDevice (device_id : pal_device_id_t)
  | connectDevice
  | disconnectStreamDeviceL (dev_id : pal_device_id_t)
  | connectStreamDeviceL (dattr : Bool)
  | pause (is_internal : Bool)
  | resume (is_internal : Bool)
  | ssrDownHandler
  | ssrUpHandler
  deriving DecidableEq, Repr

/-- The function of a call. -/
def StreamCall.proc (e : Env) (process : StEvent → StProc ℤ) : StreamCall → StProc ℤ
  | .setParameters param => StreamSoundTrigger.setParameters process param
  | .start => StreamSoundTrigger.start e process
  | .startL => StreamSoundTrigger.startL process
  | .stop => StreamSoundTrigger.stop e process
  | .close => StreamSoundTrigger.close process
  | .read buf => StreamSoundTrigger.read e process buf
  | .setEngineDetectionState det_type => StreamSoundTrigger.setEngineDetectionState process det_type
  | .internalStopRecognition => StreamSoundTrigger.internalStopRecognition process
  | .handleConcurrentStream active => StreamSoundTrigger.handleConcurrentStream e process active
  | .setECRef => StreamSoundTrigger.setECRef e process
  | .disconnectDevice device_id => StreamSoundTrigger.disconnectDevice e process device_id
  | .connectDevice => StreamSoundTrigger.connectDevice e process
  | .disconnectStreamDeviceL dev_id => StreamSoundTrigger.disconnectStreamDeviceL process dev_id
  | .connectStreamDeviceL dattr => StreamSoundTrigger.connectStreamDeviceL process dattr
  | .pause is_internal => StreamSoundTrigger.pause process is_internal
  | .resume is_internal => StreamSoundTrigger.resume process is_internal
  | .ssrDownHandler => StreamSoundTrigger.ssrDownHandler e process
  | .ssrUpHandler => StreamSoundTrigger.ssrUpHandler process

/-- A call, with what the code around the stream answers meanwhile. -/
abbrev StreamInput := Env × StreamCall

/-- The stream after a call. A call that reads through a null pointer has no state after it. -/
def step (s : StreamSoundTrigger) (i : StreamInput) : Option StreamSoundTrigger :=
  ((i.2.proc i.1 (processEvent i.1)).run s).map Prod.snd

/-- The stream that the constructor leaves: it starts paused under a concurrency that does not
allow it, and waits for the sound card if that is offline. -/
def StreamSoundTrigger.init (online paused : Bool) : StreamSoundTrigger where
  cur_state_ := if online then ST_STATE_IDLE else ST_STATE_SSR
  state_for_restore_ := if online then none else some ST_STATE_IDLE
  currentState := STREAM_IDLE
  paused_ := paused
  mDevices := none
  device_opened_ := false
  is_backend_shared_ := false
  common_cp_update_disable_ := false
  cap_prof_ := none
  sm_cfg_ := false
  sm_config_ := none
  model_type_ := ST_MODULE_TYPE_NONE
  mInstanceID := 0
  gsl_engine_model_ := none
  gsl_engine_ := false
  vui_intf_ := false
  engines_ := []
  notification_state_ := ENGINE_IDLE
  detection_state_ := ENGINE_IDLE
  rec_config_ := none
  reader_ := false
  second_stage_processing_ := false
  rejection_notified_ := false
  pending_stop_ := false
  force_nlpi_vote := false
  batchModeReadDone_ := false
  skipSSRHandling := false
  calls := []

/-- A platform on which everything succeeds: one capture profile, for a microphone whose backend is
not shared, and a sound model with a first stage and a keyword stage. -/
def Env.smooth : Env where
  getStreamConfig := true
  getCurrentCaptureProfile := some ⟨1, PAL_DEVICE_IN_HANDSET_VA_MIC⟩
  newCaptureProfile := some ⟨1, PAL_DEVICE_IN_HANDSET_VA_MIC⟩
  captureDevice := some PAL_DEVICE_IN_HANDSET_VA_MIC
  getSoundTriggerCaptureProfile := true
  updateSoundTriggerCaptureProfile := false
  stopOtherDetectionStreams := 0
  startOtherDetectionStreams := 0
  StreamLPIFlag := true
  deferredSwitch := false
  isTxConcurrencyActive := false
  isSsrDownFeasible := true
  getNotifySecondStageFailure := false
  keywordBufferSupported := true
  VUIModuleType := ST_MODULE_TYPE_PDK
  streamInstanceID := 1
  allocated := true
  callback := true
  getVUIInterface := 0
  vui_interface := true
  getSoundModelType := 0
  soundModelType := ST_MODULE_TYPE_PDK
  setDetectionPropertyList := 0
  getSoundModelList := 0
  setDetectionResult := 0
  getDetectionEvent := 0
  detectionEvent := true
  readOffset := 0
  sendBufferConfig := 0
  updateBufConfig := 0
  createBuffer := 0
  setBufferReader _ := 0
  deviceOpen := 0
  deviceStart := 0
  modelEngines := [⟨ST_SM_ID_SVA_F_STAGE_GMM, true, true, 0⟩, ⟨ST_SM_ID_SVA_S_STAGE_KWD, true, true, 0⟩]
  unloadSoundModel _ := 0
  startRecognition _ := 0
  stopRecognition _ := 0
  restartRecognition _ := 0
  checkForStartRecognition := 0
  gslLoadSoundModel := 0
  reconfigureDetectionGraph := 0
  setupSessionDevice := 0
  connectSessionDevice := 0
  setECRef := 0
  forceRecognition := 0
  read := 0
  unreadSizeShort := false
  ecRefRequired := false

/-- A generic sound model. -/
def genericModel (id : ℕ) : pal_st_sound_model where
  id := id
  type := .PAL_SOUND_MODEL_TYPE_GENERIC
  data_size := 100
  data_offset := 48
  num_phrases := 0

/-- The calls that start a recognition. -/
def startCalls (e : Env) (capture_requested : Bool) : List StreamInput :=
  [(e, .setParameters (.LOAD_SOUND_MODEL (genericModel 1))),
    (e, .setParameters (.RECOGNITION_CONFIG ⟨1, capture_requested⟩)), (e, .start)]

/-! ### The events of a call -/

/-- A condition on the events that reach the state machine. -/
abbrev EventCond := Env → StreamSoundTrigger → StEvent → Bool

/-- The state machine, stopped at an event that does not meet `ok`. -/
def guarded (ok : EventCond) (e : Env) (ev : StEvent) : StProc ℤ := do
  if ok e (← get) ev then processEvent e ev else failure

/-- Every event that the call delivers meets `ok` in the state it arrives in: the guard stops
nothing. -/
def Admits (ok : EventCond) (s : StreamSoundTrigger) (i : StreamInput) : Prop :=
  step s i = ((i.2.proc i.1 (guarded ok i.1)).run s).map Prod.snd

@[simp] theorem ensures_guarded {ok : EventCond} {e : Env} {ev : StEvent} {s : StreamSoundTrigger}
    {Q : ℤ → StreamSoundTrigger → Prop} :
    Ensures (guarded ok e ev) s Q ↔ (ok e s ev = true → Ensures (processEvent e ev) s Q) := by
  unfold guarded
  simp

/-- What the call ensures with the guard it ensures where it admits `ok`. -/
theorem inv_of_admits {ok : EventCond} {Inv : StreamSoundTrigger → Prop} {s t : StreamSoundTrigger}
    {i : StreamInput} (hok : Admits ok s i) (ht : step s i = some t)
    (h : Ensures (i.2.proc i.1 (guarded ok i.1)) s fun _ t => Inv t) : Inv t := by
  rw [hok] at ht
  obtain ⟨⟨status, u⟩, hu, rfl⟩ := Option.map_eq_some_iff.mp ht
  exact h status u hu

end AudioReachPal.StStream
