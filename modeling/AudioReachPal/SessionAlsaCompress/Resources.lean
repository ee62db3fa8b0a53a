import AudioReachPal.Lib.Account
import AudioReachPal.Streams.Defs

/-!
# The resources of a compressed session

What a `SessionAlsaCompress` takes from the rest of the system: a front end, a vote against sleep, a
thread and the handle of the driver. A stream opens, starts, stops and closes its session, and may
start it again after a stop. The inner calls answer as they like. The account of each resource is
kept where nothing is left of an earlier start when the session starts, and where it is stopped
before it is closed.
-/

namespace AudioReachPal.SessionAlsaCompress.Resources

open AudioReachPal.Lib
open AudioReachPal.Streams (pal_stream_direction_t)

/-! ### The session -/

/-- What a session takes, gives back, starts and stops. -/
inductive Event where
  | allocateFrontEndId (id : ℤ)
  | freeFrontEndId (id : ℤ)
  | voteSleepMonitor (vote : Bool)
  | createThread
  | joinThread
  | compressOpen
  | compressClose
  | compressStart
  | compressStop
  deriving DecidableEq, Repr

/-- What a session keeps. The last four fields are not in the source: whether its stream has it
open, and started, whether a thread was replaced while it ran, which ends the process, and what the
session did so far. -/
structure Session where
  direction : pal_stream_direction_t
  compressDevIds : List ℤ := []
  /-- `compress` is not null. -/
  compress : Bool := false
  worker_thread : Bool := false
  playback_started : Bool := false
  capture_started : Bool := false
  isMixerEventCbRegd : Bool := false
  opened : Bool := false
  started : Bool := false
  terminated : Bool := false
  log : List Event := []

/-- The answers of the inner calls. -/
structure Env where
  getStreamAttributes : ℤ := 0
  getAssociatedDevices : ℤ := 0
  /-- An id, or a negative number where there is none. -/
  allocateFrontEndIds : ℤ := 0
  backEndsEmpty : Bool := false
  getVirtualAudioMixer : ℤ := 0
  /-- The stream has the flag `PAL_STREAM_FLAG_NON_BLOCKING`. -/
  nonBlocking : Bool := true
  utilsOpen : ℤ := 0
  registerMixerEventCallback : ℤ := 0
  /-- `PluginManager::getInstance` is not null. -/
  pluginManager : Bool := true
  openPlugin : ℤ := 0
  /-- `compressOpen_by_name` is not null. -/
  compressOpen : Bool := true
  is_compress_ready : Bool := true
  compressStart : ℤ := 0
  compressStop : ℤ := 0
  errno : ℤ := 0
  utilsClose : ℤ := 0

namespace Session

variable (e : Env) (s : Session)

def record (new : List Event) : Session := { s with log := s.log ++ new }

/-! ### Open -/

/-- `freeFrontEndIds` of all ids of the session, and `clear`. -/
def freeFrontEndIds : Session :=
  { s.record (s.compressDevIds.map .freeFrontEndId) with compressDevIds := [] }

/-- The switch of `open`. For a playback the status of `SessionAlsaUtils::open` is overwritten. -/
def openUtils : ℤ × Session :=
  match s.direction with
  | .PAL_AUDIO_OUTPUT =>
    if !e.nonBlocking then (-EINVAL, s)
    else
      let t := if e.utilsOpen ≠ 0 then s.freeFrontEndIds else s
      (0, { t with
        isMixerEventCbRegd := decide (e.registerMixerEventCallback = 0) || t.isMixerEventCbRegd })
  | .PAL_AUDIO_INPUT => (e.utilsOpen, if e.utilsOpen ≠ 0 then s.freeFrontEndIds else s)
  | _ => (-EINVAL, s)

def «open» : ℤ × Session :=
  if e.getStreamAttributes ≠ 0 then (e.getStreamAttributes, s)
  else if e.getAssociatedDevices ≠ 0 then (e.getAssociatedDevices, s)
  else if e.allocateFrontEndIds < 0 then (-EINVAL, s)
  else
    let s := { s.record [.allocateFrontEndId e.allocateFrontEndIds] with
      compressDevIds := s.compressDevIds ++ [e.allocateFrontEndIds] }
    if e.backEndsEmpty then (-EINVAL, s)
    else if e.getVirtualAudioMixer ≠ 0 then (e.getVirtualAudioMixer, s)
    else openUtils e s

/-! ### Start -/

/-- The exit of a start. -/
def startExit (status : ℤ) : ℤ × Session :=
  (status, if status ≠ 0 then s.record [.voteSleepMonitor false] else s)

/-- A thread that is replaced while it runs ends the process. -/
def createThread : Session :=
  { s.record [.createThread] with
    worker_thread := true
    terminated := s.terminated || s.worker_thread }

def joinThread : Session := { s.record [.joinThread] with worker_thread := false }

def compressOpen : Session := { s.record [.compressOpen] with compress := true }

def startPlayback : ℤ × Session :=
  if s.compressDevIds = [] then s.startExit (-EINVAL)
  else if !e.compressOpen then
    { s.createThread.joinThread with compress := false }.startExit (-EINVAL)
  else if !e.is_compress_ready then s.createThread.compressOpen.startExit (-EINVAL)
  else s.createThread.compressOpen.startExit e.openPlugin

/-- A failure of `compressStart` returns at once. -/
def startCapture : ℤ × Session :=
  if s.compressDevIds = [] then s.startExit (-EINVAL)
  else if !e.compressOpen then { s with compress := false }.startExit (-EINVAL)
  else if !e.is_compress_ready then s.compressOpen.startExit (-EINVAL)
  else if s.capture_started then s.compressOpen.startExit e.openPlugin
  else if e.compressStart ≠ 0 then (e.compressStart, s.compressOpen)
  else { s.compressOpen.record [.compressStart] with capture_started := true }.startExit 0

/-- Where the stream does not tell its attributes, the direction is none of the switch. -/
def start : ℤ × Session :=
  let s := s.record [.voteSleepMonitor true]
  -- without a plugin manager the status is still 0
  if !e.pluginManager then s.startExit 0
  else if e.getStreamAttributes ≠ 0 then s.startExit e.openPlugin
  else match s.direction with
    | .PAL_AUDIO_OUTPUT => startPlayback e s
    | .PAL_AUDIO_INPUT => startCapture e s
    | _ => s.startExit e.openPlugin

/-! ### Write, stop and close -/

/-- What a write of `bytes_written` bytes starts. -/
def write (bytes_written : ℤ) : Session :=
  if s.compress ∧ s.playback_started = false ∧ 0 < bytes_written ∧ e.compressStart = 0 then
    { s with playback_started := true }
  else s

/-- The handle stops. -/
def stopCompress : ℤ × Session :=
  match s.direction with
  | .PAL_AUDIO_OUTPUT =>
    if s.compress && s.playback_started then (e.compressStop, { s with playback_started := false })
    else (0, s)
  | .PAL_AUDIO_INPUT =>
    if !s.compress then (0, s)
    else if e.compressStop ≠ 0 then (e.errno, s)
    else (0, s.record [.compressStop])
  | _ => (0, s)

def stop : ℤ × Session :=
  if e.getStreamAttributes ≠ 0 then (e.getStreamAttributes, s)
  else
    let r := stopCompress e s
    (if e.pluginManager then e.openPlugin else r.1, r.2.record [.voteSleepMonitor false])

/-- The thread exits and is joined, and the handle is closed. -/
def closeCompress : Session :=
  { s.record [.joinThread, .compressClose] with worker_thread := false }

def close : ℤ × Session :=
  if e.getAssociatedDevices ≠ 0 then (e.getAssociatedDevices, s)
  else if e.getStreamAttributes ≠ 0 then (0, s)
  else match s.direction with
    | .PAL_AUDIO_OUTPUT =>
      let t := if s.compress then s.closeCompress else s
      (if t.isMixerEventCbRegd then 0 else e.utilsClose, { t.freeFrontEndIds with
        isMixerEventCbRegd :=
          t.isMixerEventCbRegd && decide (e.registerMixerEventCallback ≠ 0)
        compress := false })
    | .PAL_AUDIO_INPUT =>
      (e.utilsClose, { (if s.compress then s.record [.compressClose] else s).freeFrontEndIds with
        compress := false })
    | _ => (0, s)

end Session

/-! ### What the stream asks -/

inductive Request where
  | open
  | start
  | write (bytes_written : ℤ)
  | stop
  | close
  deriving DecidableEq, Repr

namespace Request

def call (e : Env) (s : Session) : Request → ℤ × Session
  | .open => s.open e
  | .start => s.start e
  | .write bytes_written => (0, s.write e bytes_written)
  | .stop => s.stop e
  | .close => s.close e

end Request

/-- `StreamCompress` opens the session when it is idle, and asks the rest when it is not. It takes
the session for stopped and closed whatever these return. -/
def step (s : Session) (i : Request × Env) : Option Session :=
  let r := i.1.call i.2 s
  match i.1 with
  | .open => if s.opened then none else some { r.2 with opened := decide (r.1 = 0) }
  | .start =>
    if s.opened then some { r.2 with started := s.started || decide (r.1 = 0) } else none
  | .write _ => if s.opened then some r.2 else none
  | .stop => if s.opened then some { r.2 with started := false } else none
  | .close => if s.opened then some { r.2 with opened := false, started := false } else none

/-- A session as its constructor leaves it. -/
def create (direction : pal_stream_direction_t) : Session where
  direction := direction

end AudioReachPal.SessionAlsaCompress.Resources
