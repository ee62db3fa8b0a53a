import AudioReachPal.Types
import AudioReachPal.Lib.Runs
import Mathlib.Data.Finset.Insert
import Mathlib.Data.Finset.Erase
import Mathlib.Logic.Function.Basic

/-!
# Concurrency of the detection streams

The globals of `STUtils.cpp` that say whether detection runs in low power (LPI) or not (NLPI), and
how often each type of detection stream is disabled, with the handlers that change them. Every
handler runs under the mutex of the active streams, so that a run is a sequence of their calls. What
a switch between LPI and NLPI does to the streams is the stream's own `handleConcurrentStream`; here
it leaves no trace.
-/

namespace AudioReachPal.STUtils

open AudioReachPal.Lib

/-! ### Streams -/

/-- The stream types that the handlers tell apart. -/
inductive pal_stream_type_t where
  | PAL_STREAM_LOW_LATENCY
  | PAL_STREAM_VOIP_TX
  | PAL_STREAM_VOICE_CALL
  | PAL_STREAM_LOOPBACK
  | PAL_STREAM_VOICE_UI
  | PAL_STREAM_PROXY
  | PAL_STREAM_HAPTICS
  | PAL_STREAM_ACD
  | PAL_STREAM_CONTEXT_PROXY
  | PAL_STREAM_SENSOR_PCM_DATA
  | PAL_STREAM_SENSOR_PCM_RENDERER
  | PAL_STREAM_ASR
  | other (value : ℕ)
  deriving DecidableEq, Repr

inductive pal_stream_direction_t where
  | PAL_AUDIO_OUTPUT
  | PAL_AUDIO_INPUT
  | PAL_AUDIO_INPUT_OUTPUT
  deriving DecidableEq, Repr

inductive defer_switch_state_t where
  | NO_DEFER
  | DEFER_LPI_NLPI_SWITCH
  | DEFER_NLPI_LPI_SWITCH
  deriving DecidableEq, Repr

open pal_stream_type_t pal_stream_direction_t defer_switch_state_t

structure pal_stream_attributes where
  type : pal_stream_type_t
  direction : pal_stream_direction_t
  deriving DecidableEq, Repr

/-- A stream that is notified as active or inactive, with what it answers. -/
structure Stream where
  id : StreamId
  getStreamAttributes : Option pal_stream_attributes
  configSupportLPI : Bool
  deriving DecidableEq, Repr

/-- A detection stream that is registered. `paused_` is what the last `pause` or `resume` left. -/
structure DetectionStream where
  id : StreamId
  type : pal_stream_type_t
  isStreamInBuffering : Bool
  paused_ : Bool
  /-- The sound card is down for the stream. -/
  inSSR : Bool := false
  /-- The device that is available can be connected. -/
  connects : Bool := true
  deriving DecidableEq, Repr

/-- What the platform supports: its configuration, and during a CRS call voice calls too. -/
structure Platform where
  isVoiceCallConcurrencySupported : Bool
  isVoipConcurrencySupported : Bool
  isLowLatencyBargeinSupported : Bool
  isAudioCaptureConcurrencySupported : Bool
  isNLPISwitchSupported : Bool
  isTransitToNonLPIOnChargingSupported : Bool

/-- The globals. The four disable counters are one function of the type. -/
structure Globals where
  TxconcurrencyEnableCount : ℤ
  disableCount : pal_stream_type_t → ℤ
  deferredSwitchState : defer_switch_state_t
  deferred_switch_cnt_ : ℤ
  mNLPIStreams : Finset Stream
  use_lpi_ : Bool
  charging_state_ : Bool
  mActiveStreams : List DetectionStream

/-- The types of detection streams, in the order in which they are handled. -/
def stTypes : List pal_stream_type_t :=
  [PAL_STREAM_VOICE_UI, PAL_STREAM_ACD, PAL_STREAM_ASR, PAL_STREAM_SENSOR_PCM_DATA]

def NLPI_LPI_SWITCH_DELAY_SEC : ℤ := 5

namespace Globals

/-- `getActiveStreamByTypeL` -/
def getActiveStreamByTypeL (g : Globals) (type : pal_stream_type_t) : List DetectionStream :=
  g.mActiveStreams.filter fun str => str.type = type

def isAnyStreamBuffering (g : Globals) : Bool :=
  g.mActiveStreams.any fun str => str.isStreamInBuffering

/-- A detection stream changes by itself. -/
def setStream (id : StreamId) (f : DetectionStream → DetectionStream) (g : Globals) : Globals :=
  { g with mActiveStreams := g.mActiveStreams.map fun str => if str.id = id then f str else str }

/-- The mode that a handler starts from: a deferred switch counts as done. -/
def use_lpi_temp (g : Globals) : Bool :=
  match g.deferredSwitchState with
  | DEFER_LPI_NLPI_SWITCH => false
  | DEFER_NLPI_LPI_SWITCH => true
  | NO_DEFER => g.use_lpi_

@[simp] theorem use_lpi_temp_mk (g : Globals) {tx dis cnt nlpi charging active} :
    use_lpi_temp ⟨tx, dis, g.deferredSwitchState, cnt, nlpi, g.use_lpi_, charging, active⟩ =
      g.use_lpi_temp :=
  rfl

@[simp] theorem getActiveStreamByTypeL_mk (g : Globals) {tx dis deferred cnt nlpi lpi charging}
    (type : pal_stream_type_t) :
    getActiveStreamByTypeL ⟨tx, dis, deferred, cnt, nlpi, lpi, charging, g.mActiveStreams⟩ type =
      g.getActiveStreamByTypeL type :=
  rfl

end Globals

/-! ### Pausing and resuming -/

/-- The actions on detection streams that pause or resume them. -/
inductive st_action where
  | ST_PAUSE
  | ST_RESUME
  | ST_INTERNAL_PAUSE
  | ST_INTERNAL_RESUME
  deriving DecidableEq, Repr

open st_action

/-- An ACD stream has no case for a pause while the sound card is down. -/
def DetectionStream.ignoresPause (str : DetectionStream) : Bool :=
  str.type == PAL_STREAM_ACD && str.inSSR

/-- Before it resumes an ACD stream connects its device, which it does not do in SSR. -/
def DetectionStream.failsResume (str : DetectionStream) : Bool :=
  str.type == PAL_STREAM_ACD && !str.inSSR && !str.connects

/-- `pause` and `resume` of a stream. -/
def DetectionStream.act (action : st_action) (str : DetectionStream) : DetectionStream :=
  match action with
  | ST_PAUSE | ST_INTERNAL_PAUSE => if str.ignoresPause then str else { str with paused_ := true }
  | ST_RESUME | ST_INTERNAL_RESUME =>
    if str.failsResume then str else { str with paused_ := false }

@[simp] theorem DetectionStream.act_type (action : st_action) (str : DetectionStream) :
    (str.act action).type = str.type := by
  unfold DetectionStream.act
  cases action <;> dsimp only <;> split_ifs <;> rfl

@[simp] theorem DetectionStream.act_id (action : st_action) (str : DetectionStream) :
    (str.act action).id = str.id := by
  unfold DetectionStream.act
  cases action <;> dsimp only <;> split_ifs <;> rfl

/-- The action reaches all streams of the type but `data`. -/
def handleDetectionStreamAction (type : pal_stream_type_t) (action : st_action)
    (data : Option StreamId) (g : Globals) : Globals :=
  { g with
    mActiveStreams := g.mActiveStreams.map fun str =>
      if str.type = type ∧ some str.id ≠ data then str.act action else str }

def stopOtherDetectionStreams (st : StreamId) (g : Globals) : Globals :=
  g |> handleDetectionStreamAction PAL_STREAM_VOICE_UI ST_INTERNAL_PAUSE (some st)
    |> handleDetectionStreamAction PAL_STREAM_ACD ST_PAUSE (some st)
    |> handleDetectionStreamAction PAL_STREAM_ASR ST_INTERNAL_PAUSE (some st)
    |> handleDetectionStreamAction PAL_STREAM_SENSOR_PCM_DATA ST_PAUSE (some st)

def startOtherDetectionStreams (st : StreamId) (g : Globals) : Globals :=
  g |> handleDetectionStreamAction PAL_STREAM_VOICE_UI ST_INTERNAL_RESUME (some st)
    |> handleDetectionStreamAction PAL_STREAM_ACD ST_RESUME (some st)
    |> handleDetectionStreamAction PAL_STREAM_ASR ST_INTERNAL_RESUME (some st)
    |> handleDetectionStreamAction PAL_STREAM_SENSOR_PCM_DATA ST_RESUME (some st)

def Globals.setDisableCount (type : pal_stream_type_t) (count : ℤ) (g : Globals) : Globals :=
  { g with disableCount := Function.update g.disableCount type count }

def handleStreamPauseResume (st_type : pal_stream_type_t) (active : Bool) (g : Globals) : Globals :=
  if st_type ∉ stTypes then g
  else if active then
    let g := g.setDisableCount st_type (g.disableCount st_type + 1)
    if g.disableCount st_type = 1 then handleDetectionStreamAction st_type ST_PAUSE none g else g
  else if g.disableCount st_type < 0 then g.setDisableCount st_type 0
  else if g.disableCount st_type > 0 then
    let g := g.setDisableCount st_type (g.disableCount st_type - 1)
    if g.disableCount st_type = 0 then handleDetectionStreamAction st_type ST_RESUME none g else g
  else g

/-! ### Switching between LPI and NLPI -/

section Handlers

variable (p : Platform)

/-- Whether the switch that a handler wants is deferred, or cancels a deferred one. -/
def checkAndUpdateDeferSwitchState (stream_active : Bool) (g : Globals) : Bool × Globals :=
  let cancelled : Globals := { g with
    deferredSwitchState := NO_DEFER
    deferred_switch_cnt_ := if p.isLowLatencyBargeinSupported then -1 else g.deferred_switch_cnt_ }
  if !stream_active then
    if g.deferredSwitchState = DEFER_LPI_NLPI_SWITCH then (true, cancelled)
    else if p.isLowLatencyBargeinSupported ∧ g.getActiveStreamByTypeL PAL_STREAM_VOICE_UI ≠ [] then
      (true, { g with
        deferredSwitchState := DEFER_NLPI_LPI_SWITCH
        deferred_switch_cnt_ := NLPI_LPI_SWITCH_DELAY_SEC })
    else if g.isAnyStreamBuffering then
      (true, { g with deferredSwitchState := DEFER_NLPI_LPI_SWITCH })
    else (false, g)
  else
    if g.deferredSwitchState = DEFER_NLPI_LPI_SWITCH then (true, cancelled)
    else if g.isAnyStreamBuffering then
      (true, { g with deferredSwitchState := DEFER_LPI_NLPI_SWITCH })
    else (false, g)

/-- The end of a handler that wants `use_lpi`: now, or deferred. -/
def switchOrDefer (use_lpi : Bool) (g : Globals) : Globals :=
  match checkAndUpdateDeferSwitchState p (!use_lpi) g with
  | (true, g) => g
  | (false, g) => { g with use_lpi_ := use_lpi }

/-- What a stream means for detection. -/
structure ConcurrencyInfo where
  rx_conc : Bool
  tx_conc : Bool
  conc_en : Bool
  deriving DecidableEq, Repr

def getConcurrencyInfo (s : Stream) : ConcurrencyInfo :=
  match s.getStreamAttributes with
  | none => ⟨false, false, true⟩
  | some sAttr =>
    let rx_conc := sAttr.direction == PAL_AUDIO_OUTPUT &&
      !(sAttr.type == PAL_STREAM_LOW_LATENCY && !p.isLowLatencyBargeinSupported) &&
      !(sAttr.type == PAL_STREAM_SENSOR_PCM_RENDERER) && !(sAttr.type == PAL_STREAM_HAPTICS)
    match sAttr.type with
    | PAL_STREAM_VOICE_CALL =>
      ⟨true, true, p.isAudioCaptureConcurrencySupported && p.isVoiceCallConcurrencySupported⟩
    | PAL_STREAM_VOIP_TX =>
      ⟨rx_conc, true, p.isAudioCaptureConcurrencySupported && p.isVoipConcurrencySupported⟩
    | PAL_STREAM_ACD | PAL_STREAM_SENSOR_PCM_DATA | PAL_STREAM_VOICE_UI | PAL_STREAM_ASR =>
      ⟨rx_conc, !s.configSupportLPI, true⟩
    | type =>
      if sAttr.direction = PAL_AUDIO_INPUT ∧ type ≠ PAL_STREAM_CONTEXT_PROXY then
        ⟨rx_conc, true, p.isAudioCaptureConcurrencySupported || type == PAL_STREAM_PROXY⟩
      else if type = PAL_STREAM_LOOPBACK then ⟨true, true, p.isAudioCaptureConcurrencySupported⟩
      else ⟨rx_conc, false, true⟩

/-- Voice UI streams keep detection out of LPI while the battery is charged. -/
def checkForForcedTransitToNonLPI (g : Globals) : Bool :=
  p.isTransitToNonLPIOnChargingSupported && g.charging_state_

/-- The concurrencies that allow detection move it between LPI and NLPI. -/
def handleNLPIStream (s : Stream) (active : Bool) (g : Globals) : Globals :=
  if !p.isNLPISwitchSupported then g
  else if active then
    let g := { g with mNLPIStreams := insert s g.mNLPIStreams }
    if g.use_lpi_temp then switchOrDefer p false g else g
  else
    let g := { g with mNLPIStreams := g.mNLPIStreams.erase s }
    if g.mNLPIStreams = ∅ ∧ ¬(g.getActiveStreamByTypeL PAL_STREAM_VOICE_UI ≠ [] ∧
        checkForForcedTransitToNonLPI p g = true) then
      switchOrDefer p true g
    else g

/-- The number of TX concurrencies after a stream got active or inactive. -/
def txConcurrencyCount (tx_conc active : Bool) (count : ℤ) : ℤ :=
  if !tx_conc then count
  else if active then count + 1
  else if count > 0 then count - 1
  else count

/-- A stream gets active or inactive. -/
def handleConcurrencyForSoundTriggerStreams (s : Stream) (active : Bool) (g : Globals) : Globals :=
  let info := getConcurrencyInfo p s
  let g := { g with
    TxconcurrencyEnableCount := txConcurrencyCount info.tx_conc active g.TxconcurrencyEnableCount }
  if !info.conc_en then
    stTypes.foldl (fun g st_stream_type => handleStreamPauseResume st_stream_type active g) g
  else if info.rx_conc || info.tx_conc then handleNLPIStream p s active g
  else g

def onChargingStateChange (g : Globals) : Globals :=
  if g.getActiveStreamByTypeL PAL_STREAM_VOICE_UI = [] then g
  else if g.charging_state_ && g.use_lpi_temp then switchOrDefer p false g
  else if !g.charging_state_ && !g.use_lpi_temp && decide (g.mNLPIStreams = ∅) then
    switchOrDefer p true g
  else g

/-- `setSTParameter` of `PAL_PARAM_ID_CHARGING_STATE` -/
def setChargingState (charging_state : Bool) (g : Globals) : Globals :=
  if !p.isTransitToNonLPIOnChargingSupported || g.charging_state_ == charging_state then g
  else onChargingStateChange p { g with charging_state_ := charging_state }

def onVUIStreamRegistered (g : Globals) : Globals :=
  if !checkForForcedTransitToNonLPI p g then g else { g with use_lpi_ := false }

def onVUIStreamDeregistered (g : Globals) : Globals :=
  if !checkForForcedTransitToNonLPI p g then g
  else if g.mNLPIStreams = ∅ then { g with use_lpi_ := true }
  else g

/-- A new detection stream is registered. The first voice UI stream counts for the mode; a stream
starts paused while its type is disabled, but the constructor of an ASR stream leaves the flag as it
finds it in `memory`. -/
def registerStream (id : StreamId) (type : pal_stream_type_t) (memory : Bool) (g : Globals) :
    Globals :=
  let paused := if type = PAL_STREAM_ASR then memory else decide (g.disableCount type ≠ 0)
  let str : DetectionStream := { id, type, isStreamInBuffering := false, paused_ := paused }
  let g := { g with mActiveStreams := g.mActiveStreams ++ [str] }
  if type = PAL_STREAM_VOICE_UI ∧ (g.getActiveStreamByTypeL PAL_STREAM_VOICE_UI).length = 1 then
    onVUIStreamRegistered p g
  else g

def deregisterStream (str : DetectionStream) (g : Globals) : Globals :=
  let g := { g with mActiveStreams := g.mActiveStreams.erase str }
  if str.type = PAL_STREAM_VOICE_UI ∧ g.getActiveStreamByTypeL PAL_STREAM_VOICE_UI = [] then
    onVUIStreamDeregistered p g
  else g

/-- The deferred switch is made, unless a stream still buffers. -/
def stHandleDeferredSwitch (online : Bool) (g : Globals) : Globals :=
  if !online || g.isAnyStreamBuffering then g
  else match g.deferredSwitchState with
    | NO_DEFER => g
    | DEFER_LPI_NLPI_SWITCH => { g with use_lpi_ := false, deferredSwitchState := NO_DEFER }
    | DEFER_NLPI_LPI_SWITCH => { g with use_lpi_ := true, deferredSwitchState := NO_DEFER }

/-! ### Runs -/

/-- What happens to the detection streams. -/
inductive STEvent where
  | concurrency (s : Stream) (active : Bool)
  | chargingState (charging_state : Bool)
  | register (id : StreamId) (type : pal_stream_type_t) (memory : Bool)
  | deregister (id : StreamId)
  | buffering (id : StreamId) (inBuffering : Bool)
  | ssr (id : StreamId) (inSSR : Bool)
  | device (id : StreamId) (connects : Bool)
  | deferredSwitch (online : Bool)
  | stopOtherDetectionStreams (st : StreamId)
  | startOtherDetectionStreams (st : StreamId)

/-- The globals, with the streams that were notified last as active. -/
structure System where
  globals : Globals
  notified : Finset Stream

def System.init : System where
  globals := {
    TxconcurrencyEnableCount := 0, disableCount := fun _ => 0, deferredSwitchState := NO_DEFER,
    deferred_switch_cnt_ := -1, mNLPIStreams := ∅, use_lpi_ := true, charging_state_ := false,
    mActiveStreams := [] }
  notified := ∅

/-- One event. A stream is notified as inactive after it was as active; only a detection stream,
which never disables the others, is notified as active again before. -/
def step (sys : System) : STEvent → Option System
  | .concurrency s true =>
    if s ∈ sys.notified ∧ (getConcurrencyInfo p s).conc_en = false then none
    else some ⟨handleConcurrencyForSoundTriggerStreams p s true sys.globals, insert s sys.notified⟩
  | .concurrency s false =>
    if s ∈ sys.notified then
      some ⟨handleConcurrencyForSoundTriggerStreams p s false sys.globals, sys.notified.erase s⟩
    else none
  | .chargingState charging_state =>
    some { sys with globals := setChargingState p charging_state sys.globals }
  | .register id type memory =>
    if type ∈ stTypes ∧ ∀ str ∈ sys.globals.mActiveStreams, str.id ≠ id then
      some { sys with globals := registerStream p id type memory sys.globals }
    else none
  | .deregister id =>
    (sys.globals.mActiveStreams.find? fun str => str.id = id).map fun str =>
      { sys with globals := deregisterStream p str sys.globals }
  | .buffering id inBuffering =>
    some { sys with
      globals := sys.globals.setStream id fun str => { str with isStreamInBuffering := inBuffering } }
  | .ssr id inSSR =>
    some { sys with globals := sys.globals.setStream id fun str => { str with inSSR } }
  | .device id connects =>
    some { sys with globals := sys.globals.setStream id fun str => { str with connects } }
  | .deferredSwitch online =>
    some { sys with globals := stHandleDeferredSwitch online sys.globals }
  | .stopOtherDetectionStreams st =>
    some { sys with globals := STUtils.stopOtherDetectionStreams st sys.globals }
  | .startOtherDetectionStreams st =>
    some { sys with globals := STUtils.startOtherDetectionStreams st sys.globals }

end Handlers

/-- A platform that supports everything. -/
def Platform.full : Platform where
  isVoiceCallConcurrencySupported := true
  isVoipConcurrencySupported := true
  isLowLatencyBargeinSupported := true
  isAudioCaptureConcurrencySupported := true
  isNLPISwitchSupported := true
  isTransitToNonLPIOnChargingSupported := true

/-- A playback stream. -/
def playback (id : StreamId) : Stream where
  id := id
  getStreamAttributes := some ⟨PAL_STREAM_LOW_LATENCY, PAL_AUDIO_OUTPUT⟩
  configSupportLPI := true

end AudioReachPal.STUtils
