import AudioReachPal.StStream.Defs
import Mathlib.Data.Rat.Defs

/-!
# Streams on devices and a session

The base class `Stream`: the devices a stream plays on or records from, its session, its two states
(`currentState`, and `cachedState` while the sound card is down) and its volume. A stream keeps a
log of the calls that it makes. The answers to these calls, and what the resource manager says, come
with every request in an `Env`. The loops over the devices of a stream are of two kinds: one that is
left at the first failure (`reached`, `firstFailure`), and one that goes on and keeps the last
status (`lastStatus`).
-/

namespace AudioReachPal.Streams

open AudioReachPal.StStream (stream_state_t)

open AudioReachPal.StStream.stream_state_t

/-! ### Devices -/

/-- There is one `Device` for each id. -/
abbrev pal_device_id_t := ℕ

def PAL_DEVICE_OUT_MIN : pal_device_id_t := 0
def PAL_DEVICE_OUT_SPEAKER : pal_device_id_t := 3
def PAL_DEVICE_OUT_BLUETOOTH_SCO : pal_device_id_t := 7
def PAL_DEVICE_OUT_BLUETOOTH_A2DP : pal_device_id_t := 8
def PAL_DEVICE_OUT_BLUETOOTH_BLE : pal_device_id_t := 22
def PAL_DEVICE_OUT_BLUETOOTH_BLE_BROADCAST : pal_device_id_t := 23
def PAL_DEVICE_OUT_MAX : pal_device_id_t := 30
def PAL_DEVICE_IN_MIN : pal_device_id_t := PAL_DEVICE_OUT_MAX
def PAL_DEVICE_IN_BLUETOOTH_SCO_HEADSET : pal_device_id_t := PAL_DEVICE_IN_MIN + 3
def PAL_DEVICE_IN_BLUETOOTH_A2DP : pal_device_id_t := PAL_DEVICE_IN_MIN + 15
def PAL_DEVICE_IN_BLUETOOTH_BLE : pal_device_id_t := PAL_DEVICE_IN_MIN + 23
def PAL_DEVICE_IN_MAX : pal_device_id_t := PAL_DEVICE_IN_MIN + 31

def isBtDevice (d : pal_device_id_t) : Bool :=
  d ∈ [PAL_DEVICE_OUT_BLUETOOTH_A2DP, PAL_DEVICE_IN_BLUETOOTH_A2DP, PAL_DEVICE_OUT_BLUETOOTH_SCO,
    PAL_DEVICE_IN_BLUETOOTH_SCO_HEADSET, PAL_DEVICE_OUT_BLUETOOTH_BLE,
    PAL_DEVICE_OUT_BLUETOOTH_BLE_BROADCAST, PAL_DEVICE_IN_BLUETOOTH_BLE]

def isOutDevice (d : pal_device_id_t) : Bool := PAL_DEVICE_OUT_MIN < d ∧ d < PAL_DEVICE_OUT_MAX

def isInDevice (d : pal_device_id_t) : Bool := PAL_DEVICE_IN_MIN < d ∧ d < PAL_DEVICE_IN_MAX

/-- The devices that a memory mapped stream starts before it starts itself. -/
def isEarlyDevice (d : pal_device_id_t) : Bool := isBtDevice d || d == PAL_DEVICE_OUT_SPEAKER

/-! ### Streams -/

/-- `PAL_AUDIO_INPUT_OUTPUT` is `PAL_AUDIO_OUTPUT | PAL_AUDIO_INPUT`; any other number a client may
pass is `unsupported`. -/
inductive pal_stream_direction_t where
  | PAL_AUDIO_OUTPUT
  | PAL_AUDIO_INPUT
  | PAL_AUDIO_INPUT_OUTPUT
  | unsupported
  deriving DecidableEq, Repr

/-- The `vol` of every volume pair. -/
abbrev pal_volume_data := List ℚ

/-- The calls that a stream makes. The status is recorded where the call can fail and what follows
depends on it. -/
inductive Call where
  | openDevice (d : pal_device_id_t) (status : ℤ)
  | closeDevice (d : pal_device_id_t)
  | startDevice (d : pal_device_id_t) (status : ℤ)
  | stopDevice (d : pal_device_id_t)
  | registerDevice (d : pal_device_id_t)
  | deregisterDevice (d : pal_device_id_t)
  | disconnectSessionDevice (d : pal_device_id_t)
  | sessionOpen (status : ℤ)
  | sessionClose
  | sessionPrepare (status : ℤ)
  | sessionStart (status : ℤ)
  | sessionStop
  | sessionPause (status : ℤ)
  | sessionResume (status : ℤ)
  | sessionWrite (status : ℤ)
  | sessionSetVolume
  | sessionSetParameters
  | sessionMute (state : Bool)
  | sessionCreateMmapBuffer (status : ℤ)
  deriving DecidableEq, Repr

/-- What a stream keeps. `calls` and `startedEarly` are not in the source: the calls made so far,
and the devices that `createMmapBuffer` started since the stream was opened. -/
structure Stream where
  direction : pal_stream_direction_t
  mDevices : List pal_device_id_t
  currentState : stream_state_t := STREAM_IDLE
  cachedState : stream_state_t := STREAM_IDLE
  isPaused : Bool := false
  isMMap : Bool := false
  skipSSRHandling : Bool := false
  a2dpMuted : Bool := false
  a2dpPaused : Bool := false
  unMutePending : Bool := false
  mVolumeData : Option pal_volume_data := some [1]
  calls : List Call := []
  startedEarly : List pal_device_id_t := []

/-- A stream as its constructor leaves it. -/
def createStream (direction : pal_stream_direction_t) (devices : List pal_device_id_t) :
    Stream where
  direction := direction
  mDevices := devices

/-- What the resource manager does to a stream that starts on a Bluetooth device that is not ready:
the devices it leaves the stream, and the calls it makes for that. -/
structure BtRoute where
  status : ℤ := 0
  a2dpSuspend : Bool := false
  mDevices : List pal_device_id_t
  calls : List Call := []

/-- The answers that a request meets. -/
structure Env where
  /-- `PAL_CARD_STATUS_UP(rm->getSoundCardState())` -/
  cardOnline : Bool := true
  isSsrDownFeasible : Bool := true
  isDeviceAvailable : pal_device_id_t → Bool := fun _ => true
  isDeviceReady : pal_device_id_t → Bool := fun _ => true
  /-- Of `handleBTDeviceNotReady`, or `handleBTDeviceNotReadyToDummy`. -/
  handleBTDeviceNotReady : Stream → BtRoute := fun s => { mDevices := s.mDevices }
  openDevice : pal_device_id_t → ℤ := fun _ => 0
  closeDevice : pal_device_id_t → ℤ := fun _ => 0
  startDevice : pal_device_id_t → ℤ := fun _ => 0
  stopDevice : pal_device_id_t → ℤ := fun _ => 0
  sessionOpen : ℤ := 0
  sessionClose : ℤ := 0
  sessionPrepare : ℤ := 0
  sessionStart : ℤ := 0
  sessionStop : ℤ := 0
  sessionPause : ℤ := 0
  sessionResume : ℤ := 0
  sessionWrite : ℤ := 0
  sessionSetVolume : ℤ := 0
  sessionSetParameters : ℤ := 0
  sessionMute : ℤ := 0
  sessionCreateMmapBuffer : ℤ := 0
  /-- After the start, or the write, of the session. -/
  errno : ℤ := 0
  /-- The `calloc` of `resumeL`. -/
  allocVolData : Bool := true
  /-- The `calloc` of `setVolume`. -/
  allocVolume : Bool := true
  isVolumeUsingSetParam : Bool := false
  isStreamAvail : Bool := false
  /-- Neither the frame size nor the sample rate of the stream is zero. -/
  mediaConfigValid : Bool := true

namespace Stream

def log (s : Stream) (new : List Call) : Stream := { s with calls := s.calls ++ new }

section

variable (s : Stream) (new : List Call)

@[simp] theorem log_direction : (s.log new).direction = s.direction := rfl
@[simp] theorem log_mDevices : (s.log new).mDevices = s.mDevices := rfl
@[simp] theorem log_currentState : (s.log new).currentState = s.currentState := rfl
@[simp] theorem log_cachedState : (s.log new).cachedState = s.cachedState := rfl
@[simp] theorem log_isPaused : (s.log new).isPaused = s.isPaused := rfl
@[simp] theorem log_isMMap : (s.log new).isMMap = s.isMMap := rfl
@[simp] theorem log_mVolumeData : (s.log new).mVolumeData = s.mVolumeData := rfl
@[simp] theorem log_a2dpMuted : (s.log new).a2dpMuted = s.a2dpMuted := rfl
@[simp] theorem log_calls : (s.log new).calls = s.calls ++ new := rfl
@[simp] theorem log_startedEarly : (s.log new).startedEarly = s.startedEarly := rfl

theorem log_log (more : List Call) : (s.log new).log more = s.log (new ++ more) := by
  unfold log
  rw [List.append_assoc]

end

/-- Started, or paused. -/
def playing (s : Stream) : Bool :=
  s.currentState == STREAM_STARTED || s.currentState == STREAM_PAUSED

/-- A memory mapped stream has started this device already. -/
def skips (s : Stream) (d : pal_device_id_t) : Bool := isEarlyDevice d && s.isMMap

end Stream

/-! ### Loops over devices -/

section Loops

variable {α : Type} (f : α → ℤ)

/-- The devices that a loop reaches which is left at the first failure, that one included. -/
def reached : List α → List α
  | [] => []
  | d :: ds => if f d = 0 then d :: reached ds else [d]

/-- The status that such a loop leaves. -/
def firstFailure : List α → ℤ
  | [] => 0
  | d :: ds => if f d = 0 then firstFailure ds else f d

/-- The status of the last call, `status` when there is none. -/
def lastStatus (status : ℤ) (ds : List α) : ℤ := ds.foldl (fun _ d => f d) status

/-- The status of the last failure, `status` when there is none. -/
def lastFailure (status : ℤ) (ds : List α) : ℤ :=
  ds.foldl (fun status d => if f d = 0 then status else f d) status

end Loops

/-! ### Opening and closing -/

section

variable (e : Env) (s : Stream)

/-- A Bluetooth device of the stream is not connected, or the only one and not ready. -/
def btNotConnected : Bool :=
  s.mDevices.any fun d => isBtDevice d &&
    (!e.isDeviceAvailable d || (!e.isDeviceReady d && s.mDevices.length == 1))

/-- The two classes open alike. -/
def openStream : ℤ × Stream :=
  if !e.cardOnline then (- EIO, s)
  else if btNotConnected e s then (-ENODEV, s)
  else match s.currentState with
    | STREAM_IDLE =>
      let opened := s.log
        ((reached e.openDevice s.mDevices).map fun d => .openDevice d (e.openDevice d))
      if firstFailure e.openDevice s.mDevices ≠ 0 then
        (firstFailure e.openDevice s.mDevices, opened)
      else if e.sessionOpen ≠ 0 then
        -- closeDevice: the status of the last close replaces the one of the session
        (lastStatus e.closeDevice e.sessionOpen s.mDevices,
          opened.log (.sessionOpen e.sessionOpen :: s.mDevices.map .closeDevice))
      else (0, { opened.log [.sessionOpen 0] with currentState := STREAM_INIT })
    | STREAM_INIT => (0, s)
    | _ => (-EINVAL, s)

/-- The end of a close. -/
def closeSession : ℤ × Stream :=
  (lastStatus e.closeDevice e.sessionClose s.mDevices,
    { s.log (.sessionClose :: s.mDevices.map .closeDevice) with
      currentState := STREAM_IDLE
      startedEarly := [] })

/-! ### Starting -/

/-- A device that does not start is disconnected, closed and given up, unless it is skipped. -/
def startOutput (skips : pal_device_id_t → Bool) (d : pal_device_id_t) : List Call :=
  if skips d then []
  else if e.startDevice d = 0 then [.startDevice d 0]
  else [.startDevice d (e.startDevice d), .disconnectSessionDevice d, .closeDevice d]

/-- The loop over the output devices. The devices left are the ones that are started. -/
def startOutputs (skips : pal_device_id_t → Bool) : Stream :=
  { s.log (s.mDevices.flatMap (startOutput e skips)) with
    mDevices := s.mDevices.filter fun d => skips d || e.startDevice d == 0 }

/-- `session_fail` -/
def sessionFail (status : ℤ) : ℤ × Stream :=
  (lastFailure e.stopDevice status s.mDevices, s.log (s.mDevices.map .stopDevice))

/-- The session is prepared and started; `reset` is what a reset of the sound card leaves. -/
def startSession (reset : Stream → Stream) (done : Stream → ℤ × Stream) : ℤ × Stream :=
  let prepared := s.log [.sessionPrepare e.sessionPrepare]
  if e.sessionPrepare ≠ 0 then sessionFail e prepared e.sessionPrepare
  else
    let started := prepared.log [.sessionStart e.sessionStart]
    -- the status 0 is on purpose: the state is cached, and the stream starts again after the reset
    if e.errno = -ENETRESET then sessionFail e (reset started) 0
    else if e.sessionStart ≠ 0 then sessionFail e started e.sessionStart
    else done started

/-! ### Volume -/

/-- `muteL` -/
def muteL (state : Bool) : ℤ × Stream :=
  let mute_by_volume := s.mVolumeData.all fun vols => vols.all (· == 0)
  if mute_by_volume ∧ s.direction = .PAL_AUDIO_OUTPUT then
    (0, { s with unMutePending := !state })
  else (e.sessionMute, s.log [.sessionMute state])

def VOLUME_TOLERANCE : ℚ := 1 / 1000000

/-- Two pairs differ by more than the tolerance. -/
def forceSetParameters : pal_volume_data → Bool
  | [] => false
  | vol :: vols => vols.any fun v => vol - v > VOLUME_TOLERANCE ∨ v - vol > VOLUME_TOLERANCE

/-- A first volume of zero is set by both calls. -/
def volumeZero (vols : pal_volume_data) : Bool :=
  !forceSetParameters vols && vols.head? == some 0 && !e.isVolumeUsingSetParam

def volumeByParam (vols : pal_volume_data) : Bool :=
  (e.isStreamAvail && e.isVolumeUsingSetParam) || forceSetParameters vols || volumeZero e vols

/-- The volume goes to the session. -/
def sendVolume (vols : pal_volume_data) : Stream :=
  (if volumeZero e vols then s.log [.sessionSetVolume] else s).log
    [if volumeByParam e vols then .sessionSetParameters else .sessionSetVolume]

def applyVolume (vols : pal_volume_data) : ℤ × Stream :=
  let status := if volumeByParam e vols then e.sessionSetParameters else e.sessionSetVolume
  let sent := sendVolume e s vols
  if status ≠ 0 then (status, sent)
  else if s.unMutePending then (0, (muteL e { sent with unMutePending := false } false).2)
  else (0, sent)

/-- `setVolume`, which is the same in both classes. -/
def setVolume : Option pal_volume_data → ℤ × Stream
  | none | some [] => (-EINVAL, s)
  | some vols =>
    if !e.allocVolume then (-ENOMEM, { s with mVolumeData := none })
    else
      let s := { s with mVolumeData := some vols }
      if s.a2dpMuted then (0, s)
      else if e.cardOnline ∧ s.currentState ≠ STREAM_IDLE ∧ s.currentState ≠ STREAM_INIT ∧
          s.isPaused = false then
        applyVolume e s vols
      else (0, s)

/-- The stream is muted while its Bluetooth device is suspended. -/
def muteForSuspend (a2dpSuspend : Bool) : Stream :=
  if a2dpSuspend ∧ s.a2dpMuted = false then { (muteL e s true).2 with a2dpMuted := true } else s

/-- `resumeL` with the sound card online. -/
def resumeSession : ℤ × Stream :=
  let resumed := s.log [.sessionResume e.sessionResume]
  if e.sessionResume ≠ 0 then (e.sessionResume, resumed)
  else
    let resumed := { resumed with isPaused := false }
    match s.mVolumeData with
    | none => (-ENOMEM, resumed)
    | some vols =>
      if !e.allocVolData then (-ENOMEM, resumed)
      -- the status of setVolume is not looked at
      else (0, (setVolume e resumed (some vols)).2)

end

end AudioReachPal.Streams
