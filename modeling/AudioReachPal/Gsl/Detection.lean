import AudioReachPal.Lib.Runs
import AudioReachPal.Types
import Mathlib.Data.Fintype.Basic

/-!
# Detections of the first stage engines

Each engine follows the detections of its session with `eng_state_`. With inter-concurrent
detection disabled, the engines also share a map of counts, and an engine takes a detection only
when the counts of all others are zero. The count of an engine is raised when its session detects
and lowered at the end of `updateSessionPayload(.., ENGINE_RESET)`, which has several exits before
that end.

An answer of the session, of the voice UI interface or of a stream is a field of the record that
comes with each call. The event thread of an engine releases the mutex while a stream handles the
detection, so a pass of the thread is cut there into steps.
-/

namespace AudioReachPal.Gsl.Detection

open AudioReachPal.Lib

inductive eng_state_t where
  | ENG_IDLE
  | ENG_LOADED
  | ENG_ACTIVE
  | ENG_BUFFERING
  | ENG_DETECTED
  deriving DecidableEq, Repr

open eng_state_t

open st_module_type_t

inductive st_param_id_type_t where
  | LOAD_SOUND_MODEL
  | UNLOAD_SOUND_MODEL
  | WAKEUP_CONFIG
  | BUFFERING_CONFIG
  | ENGINE_RESET
  | ENGINE_PER_MODEL_RESET
  | MODULE_VERSION
  | CUSTOM_CONFIG
  | MMA_MODE_BIT_CONFIG
  | TRIGGER_DETECTION_CONFIG
  | BUFFERING_MODE_CONFIG
  deriving DecidableEq, Repr

open st_param_id_type_t

/-- Where `ProcessEventTask` stands when it has released the mutex: it waits for a detection, it
runs `setEngineDetectionState` of a stream, or it is between two passes of the read loop of
`startBuffering`, with the status of the last one. -/
inductive EventTask where
  | waiting
  | thresholdReached (str : StreamId)
  | gmmDetected (str : StreamId)
  | reading (s : StreamId) (event_notified : Bool) (status : ℤ)
  | notifying (s : StreamId)
  deriving DecidableEq, Repr

/-- What is fixed when an engine is constructed. -/
structure EngineConfig where
  module_type_ : st_module_type_t
  module_tag_ids_ : st_param_id_type_t → ℕ
  param_ids_ : st_param_id_type_t → ℕ
  is_qc_wakeup_config_ : Bool
  is_multi_model_supported_ : Bool
  enableIntraConcurrentDetection : Bool

/-- A first stage engine. `eng_det_stat` is its entry of `eng_det_stat_map_`. -/
structure Engine extends EngineConfig where
  eng_state_ : eng_state_t
  eng_det_stat : ℕ
  batch_mode_ : Bool
  capture_requested_ : Bool
  mma_mode_bit_ : ℕ
  det_streams_q_ : List StreamId
  task : EventTask

/-! ### The answers to a call -/

/-- What the calls of `updateSessionPayload` answer; `getMIID` is 0 when the instance id is known
already. -/
structure PayloadAnswers where
  getMIID : ℤ
  setParameter : ℤ
  getParameter : ℤ
  mode_bit : ℕ
  payloadConfig : ℤ
  payload : Bool
  setParamWithTag : ℤ

/-- For `restartRecognitionL`; `resetMmap` is what `ResetMmapBuffer` answers, `none` without a
mmap buffer. -/
structure RestartAnswers where
  otherStreamsBuffering : Bool
  reset : PayloadAnswers
  resetMmap : Option ℤ
  soundCardOnline : Bool

/-- For `processStopRecognition`. -/
structure StopAnswers where
  reset : PayloadAnswers
  stop : ℤ

/-- For `processStartRecognition`; `createMmapBuffer` is 0 when there is none to create, and
`position` is the status of reading the mmap position after the start. -/
structure StartAnswers where
  config : PayloadAnswers
  bufferingConfig : PayloadAnswers
  prepare : ℤ
  createMmapBuffer : ℤ
  batching : Bool
  start : ℤ
  position : ℤ

/-- For `loadSoundModel`, `unloadSoundModel` and the multi-stream versions. -/
structure ModelAnswers where
  otherStreamsAttached : Bool
  stop : StopAnswers
  close : ℤ
  setModel : ℤ
  opened : ℤ
  modeBit : PayloadAnswers
  payload : PayloadAnswers
  otherActiveStream : Bool
  start : StartAnswers
  soundCardOnline : Bool

/-- For `handleSessionEvent`: the payloads that reset the models of lower confidence (of a PDK
module), the detected stream, and whether the detection payload can be parsed. -/
structure DetectionAnswers where
  lowerConfidence : List PayloadAnswers
  stream : Option StreamId
  parse : ℤ
  reset : PayloadAnswers

/-- For the end of a pass of the thread: the restarts at the end of `startBuffering`, of the stream
read, of each queued stream and of the other streams that are buffering, and whether another stream
of the engine is active. -/
structure ExitAnswers where
  restart : RestartAnswers
  queued : ℕ → RestartAnswers
  buffering : List RestartAnswers
  otherActiveStream : Bool

/-- For the handling of a queued detection. -/
structure WakeAnswers where
  bytesToRead : ℤ
  restart : RestartAnswers
  reset : PayloadAnswers
  allocated : Bool
  exit : ExitAnswers

/-- What a pass of the read loop meets: the loop is to be left (`exit_buffering_`, or the client
reads by itself), the read fails, nothing is there to read, or data. -/
inductive ReadAnswer where
  | left
  | failed (status : ℤ)
  | again
  | data (transferred ftrtRead : Bool)
  deriving DecidableEq, Repr

namespace Engine

variable (enableInterConcurrentDetection : Bool) (eng : Engine)

/-! ### The handlers of an engine -/

def updateState (state : eng_state_t) : Engine := { eng with eng_state_ := state }

def isEngineActive : Bool :=
  match eng.eng_state_ with
  | ENG_ACTIVE | ENG_BUFFERING | ENG_DETECTED => true
  | ENG_IDLE | ENG_LOADED => false

/-- `updateGlobalDetectionStatus`; `others` tells whether some other entry of the map is not 0. -/
def updateGlobalDetectionStatus (is_active others : Bool) : Bool × Engine :=
  if is_active then
    if others then (false, eng)
    else (true, { eng with eng_det_stat := eng.eng_det_stat + 1 })
  else if eng.eng_det_stat ≠ 0 then (true, { eng with eng_det_stat := eng.eng_det_stat - 1 })
  else (true, eng)

end Engine

namespace EngineConfig

/-- The tag and the parameter id of a payload; a PDK module that has a reset of its own for each
model uses it for `ENGINE_RESET`. -/
def payloadIds (cfg : EngineConfig) (param : st_param_id_type_t) : ℕ × ℕ :=
  if param = ENGINE_RESET ∧ IS_MODULE_TYPE_PDK cfg.module_type_ = true ∧
      cfg.param_ids_ ENGINE_PER_MODEL_RESET ≠ 0 then
    (cfg.module_tag_ids_ ENGINE_PER_MODEL_RESET, cfg.param_ids_ ENGINE_PER_MODEL_RESET)
  else (cfg.module_tag_ids_ param, cfg.param_ids_ param)

end EngineConfig

namespace Engine

variable (enableInterConcurrentDetection : Bool) (eng : Engine)

/-- The switch of `updateSessionPayload`, up to the test of the status it leaves: an error is the
status returned there. -/
def interfacePayload (param : st_param_id_type_t) (a : PayloadAnswers) : Except ℤ Engine :=
  match param with
  | ENGINE_PER_MODEL_RESET | MODULE_VERSION => .error (-EINVAL)
  | TRIGGER_DETECTION_CONFIG => .ok eng
  | BUFFERING_MODE_CONFIG =>
    if a.setParameter ≠ 0 ∨ a.getParameter ≠ 0 then .error (-EINVAL) else .ok eng
  | MMA_MODE_BIT_CONFIG =>
    if eng.mma_mode_bit_ ≠ 0 then .ok eng
    else if a.getParameter ≠ 0 then .error 0
    else .ok { eng with mma_mode_bit_ := a.mode_bit }
  | LOAD_SOUND_MODEL | UNLOAD_SOUND_MODEL | WAKEUP_CONFIG | BUFFERING_CONFIG | ENGINE_RESET
  | CUSTOM_CONFIG => if a.getParameter ≠ 0 then .error a.getParameter else .ok eng

def updateSessionPayload (param : st_param_id_type_t) (a : PayloadAnswers) : ℤ × Engine :=
  if (eng.payloadIds param).1 = 0 ∨ (eng.payloadIds param).2 = 0 then (-EINVAL, eng)
  else if a.getMIID ≠ 0 then (a.getMIID, eng)
  else match eng.interfacePayload param a with
    | .error status => (status, eng)
    | .ok eng =>
      if a.payloadConfig ≠ 0 ∨ a.payload = false then (-ENOMEM, eng)
      else if param = ENGINE_RESET ∧ enableInterConcurrentDetection = false then
        (a.setParamWithTag, (eng.updateGlobalDetectionStatus false false).2)
      else (a.setParamWithTag, eng)

/-- The status of a call while the sound card is going down. -/
def ssrStatus (soundCardOnline : Bool) (status : ℤ) : ℤ :=
  if status = -ENETRESET ∨ soundCardOnline = false then 0 else status

def RESTART_IGNORED : ℤ := 1

def restartRecognitionL (a : RestartAnswers) : ℤ × Engine :=
  if !eng.isEngineActive then (RESTART_IGNORED, eng)
  else if eng.batch_mode_ then (0, eng.updateState ENG_ACTIVE)
  else
    let res := eng.updateSessionPayload enableInterConcurrentDetection ENGINE_RESET a.reset
    if eng.enableIntraConcurrentDetection &&
        (!eng.det_streams_q_.isEmpty || a.otherStreamsBuffering) then res
    else (ssrStatus a.soundCardOnline (a.resetMmap.getD res.1), res.2.updateState ENG_ACTIVE)

def processStopRecognition (a : StopAnswers) : ℤ × Engine :=
  let res := eng.updateSessionPayload enableInterConcurrentDetection ENGINE_RESET a.reset
  (a.stop, res.2.updateState ENG_LOADED)

def updateConfigsToSession (a : StartAnswers) : ℤ × Engine :=
  let update := fun (eng : Engine) => eng.updateSessionPayload enableInterConcurrentDetection
  let res :=
    if eng.is_qc_wakeup_config_ then
      if eng.module_type_ ≠ ST_MODULE_TYPE_HIST_CAP then update eng WAKEUP_CONFIG a.config
      else update eng BUFFERING_MODE_CONFIG a.config
    else if eng.module_tag_ids_ CUSTOM_CONFIG ≠ 0 ∧ eng.param_ids_ CUSTOM_CONFIG ≠ 0 then
      update eng CUSTOM_CONFIG a.config
    else (0, eng)
  if res.1 ≠ 0 then res else update res.2 BUFFERING_CONFIG a.bufferingConfig

def processStartRecognition (a : StartAnswers) : ℤ × Engine :=
  let res := eng.updateConfigsToSession enableInterConcurrentDetection a
  if res.1 ≠ 0 then res
  else if a.prepare ≠ 0 then (a.prepare, res.2)
  else if a.createMmapBuffer ≠ 0 then (a.createMmapBuffer, res.2)
  else
    let eng := if res.2.module_type_ = ST_MODULE_TYPE_HIST_CAP then
      { res.2 with batch_mode_ := a.batching } else res.2
    if a.start ≠ 0 then (a.start, eng)
    else (a.position, eng.updateState ENG_ACTIVE)

/-- The stop of an active engine with which a start, a load or an unload begins. -/
def stopIfActive (a : StopAnswers) : Engine :=
  if eng.isEngineActive then (eng.processStopRecognition enableInterConcurrentDetection a).2
  else eng

/-- `startRecognition`; `dev_disconnect` tells that a device switch of other streams is in
progress. -/
def startRecognition (dev_disconnect : Bool) (stop : StopAnswers) (start : StartAnswers)
    (soundCardOnline : Bool) : ℤ × Engine :=
  if dev_disconnect then (0, eng)
  else
    let res := (eng.stopIfActive enableInterConcurrentDetection stop).processStartRecognition
      enableInterConcurrentDetection start
    (if res.1 ≠ 0 then ssrStatus soundCardOnline res.1 else 0, res.2)

def stopRecognition (stop : StopAnswers) (otherActiveStream : Bool) (start : StartAnswers)
    (soundCardOnline : Bool) : ℤ × Engine :=
  if eng.isEngineActive then
    let res := eng.processStopRecognition enableInterConcurrentDetection stop
    let res :=
      if res.1 = 0 ∧ otherActiveStream = true then
        res.2.processStartRecognition enableInterConcurrentDetection start
      else res
    (ssrStatus soundCardOnline res.1, res.2)
  else (ssrStatus soundCardOnline 0, eng)

def handleMultiStreamLoad (a : ModelAnswers) : ℤ × Engine :=
  let restore_eng_state := eng.isEngineActive
  let eng := eng.stopIfActive enableInterConcurrentDetection a.stop
  let eng := if eng.is_multi_model_supported_ then eng else eng.updateState ENG_IDLE
  if eng.is_multi_model_supported_ = false ∧ a.setModel ≠ 0 then (a.setModel, eng)
  else if eng.is_multi_model_supported_ = false ∧ a.opened ≠ 0 then (a.opened, eng)
  else
    let res := eng.updateSessionPayload enableInterConcurrentDetection LOAD_SOUND_MODEL a.payload
    if res.1 ≠ 0 then res
    else
      let eng := res.2.updateState ENG_LOADED
      if restore_eng_state then eng.processStartRecognition enableInterConcurrentDetection a.start
      else (0, eng)

def handleMultiStreamUnload (a : ModelAnswers) : ℤ × Engine :=
  let restore_eng_state := eng.isEngineActive
  let restore := fun (res : ℤ × Engine) =>
    if restore_eng_state && a.otherActiveStream then
      res.2.processStartRecognition enableInterConcurrentDetection a.start
    else res
  let eng := eng.stopIfActive enableInterConcurrentDetection a.stop
  if eng.is_multi_model_supported_ then
    restore (eng.updateSessionPayload enableInterConcurrentDetection UNLOAD_SOUND_MODEL a.payload)
  else
    let eng := eng.updateState ENG_IDLE
    if a.setModel ≠ 0 then (a.setModel, eng)
    else if a.opened ≠ 0 then (a.opened, eng)
    else
      let res := eng.updateSessionPayload enableInterConcurrentDetection LOAD_SOUND_MODEL a.payload
      if res.1 ≠ 0 then res else restore (0, res.2.updateState ENG_LOADED)

/-- The payloads with which `loadSoundModel` loads a model into a session of its own. -/
def loadPayloads (a : ModelAnswers) : ℤ × Engine :=
  let load := fun (eng : Engine) =>
    eng.updateSessionPayload enableInterConcurrentDetection LOAD_SOUND_MODEL a.payload
  if eng.module_type_ = ST_MODULE_TYPE_MMA then
    let res := eng.updateSessionPayload enableInterConcurrentDetection MMA_MODE_BIT_CONFIG a.modeBit
    if res.1 ≠ 0 then res else if res.2.mma_mode_bit_ = 0 then load res.2 else res
  else if eng.module_type_ ≠ ST_MODULE_TYPE_HIST_CAP then load eng
  else (0, eng)

def loadSoundModel (a : ModelAnswers) : ℤ × Engine :=
  let res :=
    if a.otherStreamsAttached then eng.handleMultiStreamLoad enableInterConcurrentDetection a
    else if a.opened ≠ 0 then (a.opened, eng)
    else if a.setModel ≠ 0 then (a.setModel, eng)
    else
      let res := eng.loadPayloads enableInterConcurrentDetection a
      if res.1 ≠ 0 then res else (0, res.2.updateState ENG_LOADED)
  (ssrStatus a.soundCardOnline res.1, res.2)

def unloadSoundModel (a : ModelAnswers) : ℤ × Engine :=
  let res :=
    if a.otherStreamsAttached then eng.handleMultiStreamUnload enableInterConcurrentDetection a
    else if a.setModel ≠ 0 then (a.setModel, eng)
    else (a.close, eng.updateState ENG_IDLE)
  (ssrStatus a.soundCardOnline res.1, res.2)

/-- `reconfigureDetectionGraph`; `detached` tells that no stream is left. -/
def reconfigureDetectionGraph (detached : Bool) (setModel : ℤ) (soundCardOnline : Bool) :
    ℤ × Engine :=
  (ssrStatus soundCardOnline setModel, if detached then eng.updateState ENG_IDLE else eng)

def pushFakeDetection (s : StreamId) : Engine :=
  { eng with det_streams_q_ := eng.det_streams_q_ ++ [s] }.updateState ENG_DETECTED

def forceRecognition (s : StreamId) (a : PayloadAnswers) : ℤ × Engine :=
  if eng.batch_mode_ then (0, eng.pushFakeDetection s)
  else eng.updateSessionPayload enableInterConcurrentDetection TRIGGER_DETECTION_CONFIG a

/-- The resets of the models of lower confidence in a detection of a PDK module. -/
def resetLowerConfidence (eng : Engine) : List PayloadAnswers → Engine
  | [] => eng
  | a :: as =>
    resetLowerConfidence
      (eng.updateSessionPayload enableInterConcurrentDetection ENGINE_RESET a).2 as

def handleSessionEvent (others : Bool) (a : DetectionAnswers) : Engine :=
  let reset := fun (eng : Engine) =>
    (eng.updateSessionPayload enableInterConcurrentDetection ENGINE_RESET a.reset).2
  let first := eng.eng_state_ = ENG_ACTIVE ∨
    (eng.module_type_ = ST_MODULE_TYPE_HIST_CAP ∧ eng.eng_state_ = ENG_DETECTED)
  if eng.eng_state_ = ENG_LOADED then reset eng
  else if ¬first ∧ ¬(eng.enableIntraConcurrentDetection = true ∧
      (eng.eng_state_ = ENG_BUFFERING ∨ eng.eng_state_ = ENG_DETECTED)) then eng
  else
    let eng := if IS_MODULE_TYPE_PDK eng.module_type_ then
      eng.resetLowerConfidence enableInterConcurrentDetection a.lowerConfidence else eng
    match a.stream with
    | none => eng
    | some s =>
      let det := if enableInterConcurrentDetection then (true, eng)
        else eng.updateGlobalDetectionStatus true others
      if det.1 = false then reset det.2
      else if a.parse ≠ 0 then reset det.2
      else if first then { det.2 with det_streams_q_ := [s] }.updateState ENG_DETECTED
      else { det.2 with det_streams_q_ := det.2.det_streams_q_ ++ [s] }

/-! ### The event thread -/

/-- Restarts, each with the queue that is left when it is made. -/
def restartAll : Engine → List (List StreamId × RestartAnswers) → Engine :=
  List.foldl fun eng r =>
    ({ eng with det_streams_q_ := r.1 }.restartRecognitionL enableInterConcurrentDetection r.2).2

/-- The restarts of the queued streams: a stream is popped and restarted. -/
def queuedRestarts (a : ℕ → RestartAnswers) :
    List StreamId → List (List StreamId × RestartAnswers)
  | [] => []
  | _ :: q => (q, a q.length) :: queuedRestarts a q

/-- The restarts with which `startBuffering` ends when its status is not 0. -/
def exitRestarts (q : List StreamId) (status : ℤ) (a : ExitAnswers) :
    List (List StreamId × RestartAnswers) :=
  if status ≠ 0 then
    (q, a.restart) :: (queuedRestarts a.queued q ++ a.buffering.map fun r => ([], r))
  else []

/-- The end of a pass of `ProcessEventTask`. -/
def endPass (otherActiveStream : Bool) : Engine :=
  let eng := { eng with task := .waiting }
  if otherActiveStream && eng.det_streams_q_.isEmpty then eng.updateState ENG_ACTIVE else eng

/-- The end of `startBuffering`, and of the pass. -/
def exitReading (status : ℤ) (a : ExitAnswers) : Engine :=
  (eng.restartAll enableInterConcurrentDetection
    (exitRestarts eng.det_streams_q_ status a)).endPass a.otherActiveStream

/-- `ProcessEventTask` from the wait to the first release of the mutex. -/
def wake (a : WakeAnswers) : Engine :=
  match eng.det_streams_q_ with
  | [] => eng
  | str :: q =>
    let eng := { eng with det_streams_q_ := q }
    if eng.eng_state_ ≠ ENG_DETECTED then eng
    else if eng.capture_requested_ then
      if eng.module_type_ = ST_MODULE_TYPE_HIST_CAP ∧ eng.batch_mode_ = true then
        if a.bytesToRead ≠ 0 then
          (eng.restartRecognitionL enableInterConcurrentDetection a.restart).2
        else { eng with task := .thresholdReached str }
      else
        let eng := eng.updateState ENG_BUFFERING
        if a.allocated then { eng with task := .reading str false 0 }
        else eng.exitReading enableInterConcurrentDetection (-ENOMEM) a.exit
    else
      { (eng.updateSessionPayload enableInterConcurrentDetection ENGINE_RESET a.reset).2 with
        task := .gmmDetected str }

/-- The stream to read for: the next one of the queue once the last one was notified. -/
def nextStream (s : StreamId) (event_notified : Bool) : StreamId × Bool × Engine :=
  match event_notified, eng.det_streams_q_ with
  | true, s' :: q => (s', false, { eng with det_streams_q_ := q })
  | _, _ => (s, event_notified, eng)

/-- A pass of the read loop of `startBuffering`. -/
def readPass (s : StreamId) (event_notified : Bool) (status : ℤ) (r : ReadAnswer)
    (a : ExitAnswers) : Engine :=
  if r = .left ∨ eng.eng_state_ ≠ ENG_BUFFERING then
    eng.exitReading enableInterConcurrentDetection status a
  else
    let next := eng.nextStream s event_notified
    match r with
    | .left => next.2.2
    | .failed status => next.2.2.exitReading enableInterConcurrentDetection status a
    | .again => { next.2.2 with task := .reading next.1 next.2.1 0 }
    | .data transferred ftrtRead =>
      if ftrtRead && !next.2.1 then { next.2.2 with task := .notifying next.1 }
      else { next.2.2 with task := .reading next.1 next.2.1 (if transferred then 0 else status) }

/-- The thread takes the mutex again; `status` is what `setEngineDetectionState` of the stream
answered, or what the read loop meets. -/
def resume (status : ℤ) (r : ReadAnswer) (restart : RestartAnswers) (a : ExitAnswers) : Engine :=
  let restarted :=
    (eng.restartRecognitionL enableInterConcurrentDetection restart).2
  match eng.task with
  | .waiting => eng
  | .thresholdReached _ => { restarted with task := .waiting }
  | .gmmDetected _ =>
    if status < 0 then restarted.endPass a.otherActiveStream
    else (eng.updateSessionPayload enableInterConcurrentDetection ENGINE_RESET restart.reset).2.endPass
      a.otherActiveStream
  | .reading s event_notified last =>
    eng.readPass enableInterConcurrentDetection s event_notified last r a
  | .notifying s =>
    if status < 0 then
      if !eng.det_streams_q_.isEmpty || restart.otherStreamsBuffering then
        { restarted with task := .reading s true 0 }
      else eng.exitReading enableInterConcurrentDetection status a
    else { eng with task := .reading s true status }

end Engine

/-! ### The engines -/

/-- What happens to an engine. -/
inductive Event where
  | construct (cfg : EngineConfig)
  | destroy
  | captureRequested (capture_requested : Bool)
  | loadSoundModel (a : ModelAnswers)
  | unloadSoundModel (a : ModelAnswers)
  | startRecognition (dev_disconnect : Bool) (stop : StopAnswers) (start : StartAnswers)
      (soundCardOnline : Bool)
  | stopRecognition (stop : StopAnswers) (otherActiveStream : Bool) (start : StartAnswers)
      (soundCardOnline : Bool)
  | restartRecognition (a : RestartAnswers)
  | reconfigureDetectionGraph (detached : Bool) (setModel : ℤ) (soundCardOnline : Bool)
  | forceRecognition (s : StreamId) (a : PayloadAnswers)
  | handleSessionEvent (a : DetectionAnswers)
  | wake (a : WakeAnswers)
  | resume (status : ℤ) (r : ReadAnswer) (restart : RestartAnswers) (a : ExitAnswers)

/-- The engine a constructor leaves. -/
def constructed (cfg : EngineConfig) : Engine :=
  { cfg with
    eng_state_ := ENG_IDLE, eng_det_stat := 0, batch_mode_ := false, capture_requested_ := false,
    mma_mode_bit_ := 0, det_streams_q_ := [], task := .waiting }

/-- A live engine handles an event; `others` tells whether some other engine has a count. -/
def Engine.handle (enableInterConcurrentDetection : Bool) (eng : Engine) (others : Bool) :
    Event → Option Engine
  | .construct _ => some eng
  | .destroy => none
  | .captureRequested b => some { eng with capture_requested_ := b }
  | .loadSoundModel a => some (eng.loadSoundModel enableInterConcurrentDetection a).2
  | .unloadSoundModel a => some (eng.unloadSoundModel enableInterConcurrentDetection a).2
  | .startRecognition d stop start online =>
    some (eng.startRecognition enableInterConcurrentDetection d stop start online).2
  | .stopRecognition stop other start online =>
    some (eng.stopRecognition enableInterConcurrentDetection stop other start online).2
  | .restartRecognition a => some (eng.restartRecognitionL enableInterConcurrentDetection a).2
  | .reconfigureDetectionGraph d set online => some (eng.reconfigureDetectionGraph d set online).2
  | .forceRecognition s a => some (eng.forceRecognition enableInterConcurrentDetection s a).2
  | .handleSessionEvent a => some (eng.handleSessionEvent enableInterConcurrentDetection others a)
  | .wake a =>
    some (if eng.task = .waiting then eng.wake enableInterConcurrentDetection a else eng)
  | .resume status r restart a =>
    some (eng.resume enableInterConcurrentDetection status r restart a)

section Engines

variable {E : Type*} [Fintype E] [DecidableEq E]

/-- The entry of `eng_det_stat_map_`; an engine that is not there has none. -/
def detStat (engines : E → Option Engine) (e : E) : ℕ :=
  (engines e).elim 0 Engine.eng_det_stat

/-- Whether `updateGlobalDetectionStatus` finds the entry of another engine not 0. -/
def othersDetecting (engines : E → Option Engine) (e : E) : Bool :=
  decide (∃ e', e' ≠ e ∧ detStat engines e' ≠ 0)

/-- An engine handles an event, or is constructed. -/
def engineStep (enableInterConcurrentDetection : Bool) (engines : E → Option Engine)
    (ev : E × Event) : E → Option Engine :=
  Function.update engines ev.1 <|
    match engines ev.1, ev.2 with
    | none, .construct cfg => some (constructed cfg)
    | none, _ => none
    | some eng, event =>
      eng.handle enableInterConcurrentDetection (othersDetecting engines ev.1) event

end Engines

end AudioReachPal.Gsl.Detection
