import AudioReachPal.Streams.Defs

/-!
# `StreamPCM`

The requests of a PCM stream. A start and a stop go over the devices in an order that depends on
the direction of the stream. A memory mapped stream starts its Bluetooth devices and its speaker
when the buffer is made, so that a start and a stop leave them out, and a close stops them. While
the sound card is down the requests only write `cachedState`.
-/

namespace AudioReachPal.Streams

open AudioReachPal.StStream (stream_state_t)
open AudioReachPal.StStream.stream_state_t

namespace StreamPCM

section

variable (e : Env) (s : Stream)

def «open» : ℤ × Stream := openStream e s

/-! ### Stop -/

/-- The devices that a stop of an output stream stops, when none fails. -/
def stoppedOutputs : List pal_device_id_t := s.mDevices.filter fun d => !s.skips d

def stopSession : ℤ × Stream :=
  match s.direction with
  | .PAL_AUDIO_OUTPUT =>
    let ds := stoppedOutputs s
    (if s.mDevices = [] then e.sessionStop else firstFailure e.stopDevice ds,
      s.log (.sessionStop :: (reached e.stopDevice ds).map .stopDevice))
  | .PAL_AUDIO_INPUT => (e.sessionStop, s.log (s.mDevices.map .stopDevice ++ [.sessionStop]))
  | .PAL_AUDIO_INPUT_OUTPUT =>
    let ins := s.mDevices.filter isInDevice
    let outs := s.mDevices.filter isOutDevice
    (if outs = [] then e.sessionStop else firstFailure e.stopDevice outs,
      s.log (ins.map .stopDevice ++ .sessionStop :: (reached e.stopDevice outs).map .stopDevice))
  | .unsupported => (-EINVAL, s)

def stop : ℤ × Stream :=
  match s.currentState with
  | STREAM_STARTED | STREAM_PAUSED =>
    stopSession e { s.log (s.mDevices.map .deregisterDevice) with currentState := STREAM_STOPPED }
  | STREAM_STOPPED | STREAM_IDLE => (0, s)
  | _ => (-EINVAL, s)

/-! ### Close -/

/-- What a close stops. -/
def stopForClose : Stream :=
  match s.currentState with
  | STREAM_STARTED | STREAM_PAUSED => (stop e s).2
  | STREAM_INIT | STREAM_STOPPED => s.log ((s.mDevices.filter s.skips).map .stopDevice)
  | _ => s

def close : ℤ × Stream :=
  if s.currentState = STREAM_IDLE then (0, s) else closeSession e (stopForClose e s)

/-! ### Start -/

/-- The end of a start: whatever the status, the state is `STREAM_STARTED`. -/
def started (status : ℤ) (s : Stream) : ℤ × Stream :=
  (status, { s.log (s.mDevices.map .registerDevice) with currentState := STREAM_STARTED })

/-- A reset of the sound card while the session starts. -/
def cacheStarted (s : Stream) : Stream := { s with cachedState := STREAM_STARTED }

/-- The stream after its route is settled. -/
def routed : Stream :=
  let route := e.handleBTDeviceNotReady s
  { s.log route.calls with mDevices := route.mDevices }

def startOutputDevices (a2dpSuspend : Bool) : ℤ × Stream :=
  if s.mDevices = [] then (-EINVAL, s)
  else
    let t := startOutputs e s s.skips
    if t.mDevices = [] then (lastFailure e.startDevice 0 s.mDevices, t)
    else startSession e t cacheStarted fun t => started 0 (muteForSuspend e t a2dpSuspend)

def startOutputStream : ℤ × Stream :=
  let route := e.handleBTDeviceNotReady s
  if route.status ≠ 0 then (route.status, routed e s)
  else startOutputDevices e (routed e s) route.a2dpSuspend

def startInputStream : ℤ × Stream :=
  let t := s.log ((reached e.startDevice s.mDevices).map fun d => .startDevice d (e.startDevice d))
  if firstFailure e.startDevice s.mDevices ≠ 0 then (firstFailure e.startDevice s.mDevices, t)
  else startSession e t cacheStarted (started 0)

def startLoopbackStream : ℤ × Stream :=
  let outs := s.mDevices.filter isOutDevice
  let ins := s.mDevices.filter isInDevice
  let t := s.log ((reached e.startDevice outs).map fun d => .startDevice d (e.startDevice d))
  if firstFailure e.startDevice outs ≠ 0 then (firstFailure e.startDevice outs, t)
  else
    let u := t.log ((reached e.startDevice ins).map fun d => .startDevice d (e.startDevice d))
    if firstFailure e.startDevice ins ≠ 0 then
      -- the output devices are stopped, up to the first stop that fails
      (firstFailure e.startDevice ins, u.log ((reached e.stopDevice outs).map .stopDevice))
    else startSession e u cacheStarted (started 0)

def start : ℤ × Stream :=
  if !e.cardOnline then (0, cacheStarted s)
  else match s.currentState with
    | STREAM_INIT | STREAM_STOPPED =>
      match s.direction with
      | .PAL_AUDIO_OUTPUT => startOutputStream e s
      | .PAL_AUDIO_INPUT => startInputStream e s
      | .PAL_AUDIO_INPUT_OUTPUT => startLoopbackStream e s
      | .unsupported => started (-EINVAL) s
    | STREAM_STARTED => (0, s)
    | _ => (-EINVAL, s)

/-! ### Pause and resume -/

/-- `pause_l`. The exit sets the flag and the state, also when the sound card is down. -/
def pause : ℤ × Stream :=
  let paused := fun s : Stream => { s with isPaused := true, currentState := STREAM_PAUSED }
  if !e.cardOnline then (0, paused { s with cachedState := STREAM_PAUSED })
  else if s.isPaused then (0, paused s)
  else
    let s := s.log [.sessionPause e.sessionPause]
    if e.sessionPause ≠ 0 then (e.sessionPause, s) else (0, paused s)

/-- `resumeL` -/
def resume : ℤ × Stream :=
  if !e.cardOnline then (0, { s with cachedState := STREAM_STARTED }) else resumeSession e s

def setVolume (volume : Option pal_volume_data) : ℤ × Stream := Streams.setVolume e s volume

/-- The session writes; the first write after a resume turns the state back. -/
def writeSession (size : ℤ) : ℤ × Stream :=
  let t := s.log [.sessionWrite e.sessionWrite]
  if e.sessionWrite ≠ 0 then (if e.errno = -ENETRESET then size else e.sessionWrite, t)
  else if s.currentState = STREAM_PAUSED ∧ s.isPaused = false then
    (size, { t.log (t.mDevices.map .registerDevice) with currentState := STREAM_STARTED })
  else (size, t)

/-- `write` of a buffer of `size` bytes, which the session takes whole. -/
def write (size : ℤ) : ℤ × Stream :=
  if !e.cardOnline ∨ s.cachedState ≠ STREAM_IDLE ∨ s.a2dpPaused then
    (if e.mediaConfigValid then size else -EINVAL, s)
  else match s.currentState with
    | STREAM_STARTED | STREAM_PAUSED => writeSession e s size
    | STREAM_STOPPED => (- EIO, s)
    | _ => (-EINVAL, s)

/-! ### Memory mapped buffers -/

/-- The devices that a buffer starts. -/
def earlyDevices : List pal_device_id_t := s.mDevices.filter isEarlyDevice

/-- `btDevStarted`: the last of these devices is started. -/
def btDevStarted : Bool := (earlyDevices s).getLast?.any fun d => e.startDevice d == 0

def createMmapBuffer : ℤ × Stream :=
  if s.currentState ≠ STREAM_INIT then (-EINVAL, s)
  else
    let t := s.log ((earlyDevices s).map fun d => .startDevice d (e.startDevice d))
    let lone := s.mDevices.length = 1 ∧ earlyDevices s ≠ [] ∧ btDevStarted e s = false
    if lone then (lastStatus e.startDevice 0 (earlyDevices s), t)
    else
      let t := t.log [.sessionCreateMmapBuffer e.sessionCreateMmapBuffer]
      if e.sessionCreateMmapBuffer ≠ 0 then
        -- only Bluetooth devices are stopped
        let stopped := if btDevStarted e s then s.mDevices.filter isBtDevice else []
        (e.sessionCreateMmapBuffer, t.log (stopped.map .stopDevice))
      else
        (0, { t with
          isMMap := true
          startedEarly :=
            s.startedEarly ++ (earlyDevices s).filter fun d => e.startDevice d == 0 })

/-! ### Reset of the sound card -/

def ssrDownHandler : ℤ × Stream :=
  if !e.isSsrDownFeasible then (0, { s with skipSSRHandling := true })
  else
    let s := if s.cachedState = STREAM_IDLE then { s with cachedState := s.currentState } else s
    let r : ℤ × Stream :=
      match s.currentState with
      | STREAM_INIT | STREAM_STOPPED => close e s
      | STREAM_STARTED | STREAM_PAUSED => close e (stop e s).2
      | _ => (0, s)
    (r.1, { r.2 with currentState := STREAM_IDLE })

/-- `ssrUpHandler`, which opens, starts and pauses with answers of their own. -/
def ssrUpHandler (opening starting pausing : Env) : ℤ × Stream :=
  if s.skipSSRHandling then (0, { s with skipSSRHandling := false })
  else
    let r : ℤ × Stream :=
      match s.cachedState with
      | STREAM_INIT => StreamPCM.open opening s
      | STREAM_STARTED =>
        let o := StreamPCM.open opening s
        if o.1 ≠ 0 then o else start starting o.2
      | STREAM_PAUSED =>
        let o := StreamPCM.open opening s
        if o.1 ≠ 0 then o
        else
          let r := start starting o.2
          if r.1 ≠ 0 ∨ r.2.currentState ≠ STREAM_STARTED then r else pause pausing r.2
      | _ => (0, s)
    (r.1, { r.2 with cachedState := STREAM_IDLE })

end

end StreamPCM

end AudioReachPal.Streams
