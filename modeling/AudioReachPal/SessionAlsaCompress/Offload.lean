import AudioReachPal.Types
import Mathlib.Data.List.Basic

/-!
# The offload thread of a compressed playback

A compressed session is written to without blocking, and drained without blocking: `write` and
`drain` put a command in a queue, and the thread of the session takes it out, makes the blocking
call to the driver and calls the client back. The client, the thread and the sound card take their
steps in any order. The blocking calls take two steps, between which the others go on; `write` too,
which first writes to the driver and then looks at the field `command`. A close waits for the thread
to exit.
-/

namespace AudioReachPal.SessionAlsaCompress

def ECANCELED : ℤ := 125

/-! ### Commands and callbacks -/

inductive offload_cmd where
  | OFFLOAD_CMD_EXIT
  | OFFLOAD_CMD_DRAIN
  | OFFLOAD_CMD_PARTIAL_DRAIN
  | OFFLOAD_CMD_WAIT_FOR_BUFFER
  | OFFLOAD_CMD_ERROR
  deriving DecidableEq, Repr

open offload_cmd

/-- A command in the queue. `written` is not in the source: the bytes that the driver had taken when
the command was put there. -/
structure offload_msg where
  cmd : offload_cmd
  written : ℕ
  deriving DecidableEq, Repr

/-- The events of a compressed session. -/
inductive pal_stream_cbk_event where
  | PAL_STREAM_CBK_EVENT_WRITE_READY
  | PAL_STREAM_CBK_EVENT_DRAIN_READY
  | PAL_STREAM_CBK_EVENT_PARTIAL_DRAIN_READY
  | PAL_STREAM_CBK_EVENT_ERROR
  deriving DecidableEq, Repr

open pal_stream_cbk_event

inductive pal_drain_type_t where
  | PAL_DRAIN
  | PAL_DRAIN_PARTIAL
  | invalid
  deriving DecidableEq, Repr

/-- A call of `sessionCb`: the command it was made for, its event, and the bytes known to be drained
then. -/
structure Callback where
  msg : offload_msg
  event : pal_stream_cbk_event
  drained : ℕ
  deriving DecidableEq, Repr

/-! ### The session and its thread -/

/-- Where the thread is. In `calling` it waits for the driver, which has taken `upTo` bytes. -/
inductive Worker where
  | waiting
  | taken (msg : offload_msg)
  | calling (msg : offload_msg) (upTo : ℕ)
  | sending (msg : offload_msg)
  | exited
  deriving DecidableEq, Repr

/-- How far a close is. -/
inductive Closing where
  | no
  | joining
  | emptied
  | closed
  deriving DecidableEq, Repr

/-- A session whose `sessionCb` is set, as `open` does. The last six fields are not in the source:
the bytes that the driver has taken, those of them known to be drained, those it had when it was
called for the drain that `is_drain_called` stands for, the commands that the thread has taken and
the callbacks it has sent, and whether a write is owed a `WRITE_READY`. -/
structure Session where
  /-- `compress` is not null. -/
  compress : Bool := true
  /-- Writes do not block. -/
  ioMode : Bool := true
  isGaplessFmt : Bool := false
  /-- The sound card is `CARD_STATUS_ONLINE`. -/
  cardOnline : Bool := true
  msg_queue_ : List offload_msg := []
  command : offload_cmd := OFFLOAD_CMD_EXIT
  worker : Worker := .waiting
  event_id : pal_stream_cbk_event := PAL_STREAM_CBK_EVENT_WRITE_READY
  ret : ℤ := 0
  is_drain_called : Bool := false
  /-- A write has found too little space, and not looked at `command` yet. -/
  posting : Bool := false
  closing : Closing := .no
  written : ℕ := 0
  drained : ℕ := 0
  partialUpTo : ℕ := 0
  taken : List offload_msg := []
  callbacks : List Callback := []
  owed : Bool := false

/-- What the driver answers the thread, and its `errno` after that. -/
structure Answer where
  next_track : ℤ := 0
  ret : ℤ := 0
  errno : ℤ := 0

namespace Session

variable (s : Session)

/-! ### What the client does -/

def push (cmd : offload_cmd) : Session :=
  { s with msg_queue_ := s.msg_queue_ ++ [{ cmd := cmd, written := s.written }] }

/-- `write` of `size` bytes, up to the answer of `compress_write`. -/
def write (size : ℕ) (bytes_written : ℤ) : Session :=
  if size = 0 ∨ !s.compress ∨ bytes_written < 0 then s
  else { s with
    written := s.written + bytes_written.toNat
    posting := decide (bytes_written < size) && s.ioMode }

/-- The end of a write that found too little space. -/
def post : Session :=
  { (if s.command = OFFLOAD_CMD_WAIT_FOR_BUFFER then s else s.push OFFLOAD_CMD_WAIT_FOR_BUFFER) with
    posting := false
    owed := true }

def drain (type : pal_drain_type_t) : Session :=
  if !s.compress then s
  else match type with
    | .PAL_DRAIN => s.push OFFLOAD_CMD_DRAIN
    | .PAL_DRAIN_PARTIAL => s.push OFFLOAD_CMD_PARTIAL_DRAIN
    | .invalid => s

/-- `close`, up to the join of the thread. -/
def close : Session :=
  { (if s.cardOnline then s else s.push OFFLOAD_CMD_ERROR).push OFFLOAD_CMD_EXIT with
    closing := .joining }

/-- The thread is joined, and the queue emptied. -/
def joined : Session := { s with msg_queue_ := [], closing := .emptied }

/-- The end of a close. -/
def closed : Session := { s with compress := false, closing := .closed }

/-- `start`, whose thread begins with fresh variables. -/
def start : Session :=
  { s with
    compress := true
    worker := .waiting
    event_id := PAL_STREAM_CBK_EVENT_WRITE_READY
    ret := 0
    is_drain_called := false
    closing := .no
    owed := false }

/-! ### What the thread does -/

/-- The call failed because it was unblocked, or because of a reset of the sound card. -/
def cancelled (ret errno : ℤ) : Bool := ret != 0 && (errno == -ECANCELED || errno == -ENETRESET)

/-- A call that was cancelled is not called back for. -/
def check (msg : offload_msg) (errno : ℤ) : Session :=
  { s with worker := if cancelled s.ret errno then .waiting else .sending msg }

/-- The end of the branch of a full drain. -/
def checkDrain (msg : offload_msg) (errno : ℤ) : Session :=
  if cancelled s.ret errno then { s with worker := .waiting }
  else { s with
    is_drain_called := false
    event_id := PAL_STREAM_CBK_EVENT_DRAIN_READY
    worker := .sending msg }

/-- The thread takes a command out of the queue. `OFFLOAD_CMD_EXIT` is 0, so that `command` is not
set to it. -/
def take (msg : offload_msg) (rest : List offload_msg) : Session :=
  { s with
    msg_queue_ := rest
    taken := s.taken ++ [msg]
    command := if msg.cmd = OFFLOAD_CMD_EXIT then s.command else msg.cmd
    worker := if msg.cmd = OFFLOAD_CMD_EXIT then .exited else .taken msg }

/-- The driver is called. -/
def call (msg : offload_msg) : Session := { s with worker := .calling msg s.written }

/-- The thread looks at the sound card, and calls the driver or goes on without. -/
def handle (msg : offload_msg) (a : Answer) : Session :=
  match msg.cmd with
  | OFFLOAD_CMD_WAIT_FOR_BUFFER => if s.cardOnline then s.call msg else s.check msg a.errno
  | OFFLOAD_CMD_DRAIN =>
    if !s.is_drain_called && s.cardOnline && s.compress then s.call msg
    else s.checkDrain msg a.errno
  | OFFLOAD_CMD_PARTIAL_DRAIN =>
    if s.cardOnline && s.compress then s.call msg else s.check msg a.errno
  | OFFLOAD_CMD_ERROR =>
    { s with event_id := PAL_STREAM_CBK_EVENT_ERROR, worker := .sending msg }
  | OFFLOAD_CMD_EXIT => { s with worker := .exited }

/-- A wait that is cancelled is not owed to any write. -/
def waited (msg : offload_msg) (a : Answer) : Session :=
  { s with
    ret := a.ret
    event_id := PAL_STREAM_CBK_EVENT_WRITE_READY
    command := OFFLOAD_CMD_EXIT
    owed := s.owed && !cancelled a.ret a.errno }.check msg a.errno

/-- A drain returned, of the `upTo` bytes that the driver had when it was called. -/
def drainedUpTo (upTo : ℕ) : Session := { s with drained := max s.drained upTo }

def partialDrained (msg : offload_msg) (upTo : ℕ) (a : Answer) : Session :=
  if s.isGaplessFmt then
    { (if a.next_track = 0 then s.drainedUpTo upTo else s) with
      ret := if a.next_track = 0 then a.ret else a.next_track
      event_id := PAL_STREAM_CBK_EVENT_PARTIAL_DRAIN_READY }.check msg a.errno
  else
    { s.drainedUpTo upTo with
      ret := a.ret
      is_drain_called := true
      partialUpTo := upTo
      event_id := PAL_STREAM_CBK_EVENT_DRAIN_READY }.check msg a.errno

/-- The driver returns. -/
def returned (msg : offload_msg) (upTo : ℕ) (a : Answer) : Session :=
  match msg.cmd with
  | OFFLOAD_CMD_WAIT_FOR_BUFFER => s.waited msg a
  | OFFLOAD_CMD_DRAIN => { s.drainedUpTo upTo with ret := a.ret }.checkDrain msg a.errno
  | OFFLOAD_CMD_PARTIAL_DRAIN => s.partialDrained msg upTo a
  | OFFLOAD_CMD_ERROR | OFFLOAD_CMD_EXIT => s

/-- The client is called back. -/
def send (msg : offload_msg) : Session :=
  { s with
    callbacks := s.callbacks ++ [{ msg := msg, event := s.event_id, drained := s.drained }]
    owed := s.owed && s.event_id != PAL_STREAM_CBK_EVENT_WRITE_READY
    worker := .waiting }

/-- The next step of `offloadThreadLoop`. -/
def offloadThreadLoop (a : Answer) : Option Session :=
  match s.worker with
  | .waiting =>
    match s.msg_queue_ with
    | [] => none
    | msg :: rest => some (s.take msg rest)
  | .taken msg => some (s.handle msg a)
  | .calling msg upTo => some (s.returned msg upTo a)
  | .sending msg => some (s.send msg)
  | .exited => none

end Session

/-! ### Steps in any order -/

inductive Action where
  | write (size : ℕ) (bytes_written : ℤ)
  | post
  | drain (type : pal_drain_type_t)
  | close
  | joined
  | closed
  | start
  | cardState (online : Bool)
  | worker (a : Answer)

/-- Writes come one after another; the parts of a close come in order, and a start after it. -/
def step (s : Session) : Action → Option Session
  | .write size bytes_written => if s.posting then none else some (s.write size bytes_written)
  | .post => if s.posting then some s.post else none
  | .drain type => some (s.drain type)
  | .close => if s.compress ∧ s.closing = .no then some s.close else none
  | .joined => if s.closing = .joining ∧ s.worker = .exited then some s.joined else none
  | .closed => if s.closing = .emptied then some s.closed else none
  | .start => if s.closing = .closed then some s.start else none
  | .cardState online => some { s with cardOnline := online }
  | .worker a => s.offloadThreadLoop a

end AudioReachPal.SessionAlsaCompress
