import AudioReachPal.Streams.Defs

/-!
# `StreamCompress`

The requests of a compressed stream. A start of an output stream leaves it `STREAM_OPENED`; the
first write makes it `STREAM_STARTED`, and registers its devices. A stop takes an opened stream for
a started one, a close does not. A pause looks neither at the state of the stream nor at the status
of its session.
-/

namespace AudioReachPal.Streams

open AudioReachPal.StStream (stream_state_t)
open AudioReachPal.StStream.stream_state_t

namespace StreamCompress

section

variable (e : Env) (s : Stream)

def «open» : ℤ × Stream := openStream e s

/-! ### Stop and close -/

def stopSession : ℤ × Stream :=
  match s.direction with
  | .PAL_AUDIO_OUTPUT =>
    (lastStatus e.stopDevice e.sessionStop s.mDevices,
      s.log (.sessionStop :: s.mDevices.map .stopDevice))
  | .PAL_AUDIO_INPUT => (e.sessionStop, s.log (s.mDevices.map .stopDevice ++ [.sessionStop]))
  | _ => (-EINVAL, s)

def stop : ℤ × Stream :=
  match s.currentState with
  | STREAM_STARTED | STREAM_PAUSED | STREAM_OPENED =>
    stopSession e { s.log (s.mDevices.map .deregisterDevice) with currentState := STREAM_STOPPED }
  | STREAM_STOPPED | STREAM_IDLE => (0, s)
  | _ => (-EINVAL, s)

/-- What a close stops. -/
def stopForClose : Stream :=
  match s.currentState with
  | STREAM_STARTED | STREAM_PAUSED => (stop e s).2
  | _ => s

def close : ℤ × Stream :=
  if s.currentState = STREAM_IDLE then (0, s) else closeSession e (stopForClose e s)

/-! ### Start -/

/-- The stream after its route is settled. -/
def routed : Stream :=
  let route := e.handleBTDeviceNotReady s
  { s.log route.calls with mDevices := route.mDevices }

/-- The end of the start of an output stream, which is started by its first write. -/
def openedOutput (a2dpSuspend : Bool) (s : Stream) : ℤ × Stream :=
  (0, { muteForSuspend e s a2dpSuspend with currentState := STREAM_OPENED })

/-- No device is skipped. -/
def startOutputDevices (a2dpSuspend : Bool) : ℤ × Stream :=
  if s.mDevices = [] then (-EINVAL, s)
  else
    let t := startOutputs e s fun _ => false
    if t.mDevices = [] then (lastFailure e.startDevice 0 s.mDevices, t)
    else startSession e t id (openedOutput e a2dpSuspend)

def startOutputStream : ℤ × Stream :=
  let route := e.handleBTDeviceNotReady s
  if route.status ≠ 0 then (route.status, routed e s)
  else startOutputDevices e (routed e s) route.a2dpSuspend

/-- The devices are registered, and the stream is started. -/
def started (s : Stream) : Stream :=
  { s.log (s.mDevices.map .registerDevice) with currentState := STREAM_STARTED }

def startInputStream : ℤ × Stream :=
  let t := s.log ((reached e.startDevice s.mDevices).map fun d => .startDevice d (e.startDevice d))
  if firstFailure e.startDevice s.mDevices ≠ 0 then (firstFailure e.startDevice s.mDevices, t)
  else startSession e t id fun t => (0, started t)

def start : ℤ × Stream :=
  if !e.cardOnline then (- EIO, s)
  else match s.currentState with
    | STREAM_INIT | STREAM_STOPPED =>
      match s.direction with
      | .PAL_AUDIO_OUTPUT => startOutputStream e s
      | .PAL_AUDIO_INPUT => startInputStream e s
      | _ => (-EINVAL, s)
    | STREAM_OPENED | STREAM_STARTED => (0, s)
    | _ => (-EINVAL, s)

/-! ### Write -/

/-- The session writes; a stream that is not paused is started by it. -/
def writeSession (size : ℤ) : ℤ × Stream :=
  let t := s.log [.sessionWrite e.sessionWrite]
  if e.sessionWrite ≠ 0 then (if e.errno = -ENETRESET then e.errno else e.sessionWrite, t)
  else if s.currentState ≠ STREAM_STARTED ∧ ¬(s.currentState = STREAM_PAUSED ∧ s.isPaused) then
    (size, started t)
  else (size, t)

/-- `write` of a buffer, of which the session takes `size` bytes. -/
def write (size : ℤ) : ℤ × Stream :=
  if !e.cardOnline then (-ENETRESET, s)
  else match s.currentState with
    | STREAM_OPENED | STREAM_STARTED | STREAM_PAUSED => writeSession e s size
    | _ => (-EINVAL, s)

/-! ### Pause and resume -/

/-- `pause_l` -/
def pause : ℤ × Stream :=
  let paused := fun s : Stream => { s with isPaused := true, currentState := STREAM_PAUSED }
  if !e.cardOnline then (-EINVAL, { s with isPaused := true })
  else if s.isPaused then (0, paused s)
  else (e.sessionPause, paused (s.log [.sessionPause e.sessionPause]))

/-- `resumeL` -/
def resume : ℤ × Stream := if !e.cardOnline then (-EINVAL, s) else resumeSession e s

def setVolume (volume : Option pal_volume_data) : ℤ × Stream := Streams.setVolume e s volume

/-! ### A reset of the sound card -/

def ssrDownHandler : ℤ × Stream :=
  if !e.isSsrDownFeasible then (0, { s with skipSSRHandling := true })
  else
    let r : ℤ × Stream :=
      match s.currentState with
      | STREAM_INIT | STREAM_STOPPED | STREAM_OPENED => close e s
      | STREAM_STARTED | STREAM_PAUSED => close e (stop e s).2
      | _ => (0, s)
    (r.1, { r.2 with currentState := STREAM_IDLE })

end

end StreamCompress

end AudioReachPal.Streams
