import AudioReachPal.Lib.MachineInt
import AudioReachPal.Lib.Runs
import AudioReachPal.Lib.Stock
import Mathlib.Data.Fintype.Basic

/-!
# The server of the AIDL interface

The server keeps a `ClientInfo` for each process that calls it, with the streams the process has
open and, for each of them, the fds it has duplicated for the buffers that are in PAL. The calls of
the processes, the callbacks of PAL and the news of a death run on the threads of a pool. A thread
takes `mLock` for parts of its call only, so that a call is a sequence of steps, and the steps of
the threads come in any order.

A `ClientInfo` is shared: the map `mClients` refers to it, and so do the calls of `open` and `write`
that are under way. It is cleaned up when the last reference goes.
-/

namespace AudioReachPal.Ipc

open AudioReachPal.Lib

abbrev Pid := ℕ

/-- A `pal_stream_handle_t *`; 0 is the null pointer. -/
abbrev Handle := ℕ

abbrev Fd := ℤ

/-- The fd as the client numbers it, and the one that the server has duplicated. -/
abbrev FdPair := Fd × Fd

/-- The identity of a `ClientInfo` object. -/
abbrev ClientId := ℕ

def EINVAL : ℤ := 22

/-! ### The streams of a client -/

structure StreamInfo where
  mHandle : Handle
  mInOutFdPairs : List FdPair
  deriving DecidableEq

namespace StreamInfo

def addSharedMemoryFdPairs (inputFd dupFd : Fd) (i : StreamInfo) : StreamInfo :=
  { i with mInOutFdPairs := i.mInOutFdPairs ++ [(inputFd, dupFd)] }

/-- The input fd of the first pair with `dupFd`, which is erased, and -1 without one. -/
def removeSharedMemoryFdPairs (dupFd : Fd) (i : StreamInfo) : Fd × StreamInfo :=
  match i.mInOutFdPairs.find? (·.2 = dupFd) with
  | none => (-1, i)
  | some p => (p.1, { i with mInOutFdPairs := i.mInOutFdPairs.eraseP (·.2 = dupFd) })

def dupFds (i : StreamInfo) : List Fd := i.mInOutFdPairs.map Prod.snd

end StreamInfo

/-- `close` of an fd; one that is none is refused without harm. -/
def closeFd (fds : Stock Fd) (fd : Fd) : Stock Fd := if fd < 0 then fds else fds.giveBack fd

/-- `closeSharedMemoryFdPairs` of a stream, on what the kernel has open. -/
def StreamInfo.closeSharedMemoryFdPairs (fds : Stock Fd) (i : StreamInfo) : Stock Fd :=
  i.dupFds.foldl closeFd fds

/-- The object of a process; `mStreamInfoMap` has one entry for a handle. -/
structure ClientInfo where
  mStreamInfoMap : List StreamInfo
  deriving DecidableEq

/-- The loops over `mStreamInfoMap` change the first entry of the handle and break. -/
def updateInfo (handle : Handle) (f : StreamInfo → StreamInfo) : List StreamInfo → List StreamInfo
  | [] => []
  | i :: is => if i.mHandle = handle then f i :: is else i :: updateInfo handle f is

namespace ClientInfo

variable (c : ClientInfo)

def getStreamInfo (handle : Handle) : Option StreamInfo :=
  c.mStreamInfoMap.find? (·.mHandle = handle)

def isValidStreamHandle (handle : Handle) : Bool := (c.getStreamInfo handle).isSome

def addStreamHandle (handle : Handle) : ClientInfo :=
  if c.isValidStreamHandle handle then c else ⟨⟨handle, []⟩ :: c.mStreamInfoMap⟩

def removeStreamHandle (handle : Handle) : ClientInfo :=
  ⟨c.mStreamInfoMap.eraseP (·.mHandle = handle)⟩

def addSharedMemoryFdPairs (handle : Handle) (inputFd dupFd : Fd) : ClientInfo :=
  ⟨updateInfo handle (·.addSharedMemoryFdPairs inputFd dupFd) c.mStreamInfoMap⟩

def removeSharedMemoryFdPairs (handle : Handle) (dupFd : Fd) : Fd × ClientInfo :=
  match c.getStreamInfo handle with
  | none => (-1, c)
  | some i => ((i.removeSharedMemoryFdPairs dupFd).1,
      ⟨updateInfo handle (fun i => (i.removeSharedMemoryFdPairs dupFd).2) c.mStreamInfoMap⟩)

end ClientInfo

/-! ### The calls under way -/

/-- A buffer of `write` or `read` as the client passes it: the frame index that a `write` gives is
what its callback is to give back. -/
structure PalBuffer where
  write : Bool
  offset : ℤ
  frameIndex : ℤ
  deriving DecidableEq

/-- A buffer in PAL. -/
structure InPal where
  handle : Handle
  fd : FdPair
  buf : PalBuffer
  deriving DecidableEq

/-- Where a thread stands. `opening` and what follows up to `returning` belong to the calls that
hold a `ClientInfo` of their own. -/
inductive Call where
  | idle
  | opening (pid : Pid) (client : ClientId)
  | opened (pid : Pid) (client : ClientId) (handle : Handle)
  | returning (client : ClientId)
  | closing (pid : Pid) (handle : Handle)
  | removed (handle : Handle)
  | checked (pid : Pid) (handle : Handle) (buf : PalBuffer)
  | prepared (pid : Pid) (client : Option ClientId) (handle : Handle) (buf : PalBuffer)
  | duplicated (pid : Pid) (client : Option ClientId) (b : InPal)
  | recorded (client : Option ClientId) (b : InPal)
  | pending (client : Option ClientId) (b : InPal)
  | notified (fdToBeClosed : Fd) (index : Option InPal)
  deriving DecidableEq

/-- The `ClientInfo` that the call holds. -/
def Call.client : Call → Option ClientId
  | .opening _ client | .opened _ client _ | .returning client => some client
  | .prepared _ client _ _ | .duplicated _ client _ => client
  | .recorded client _ | .pending client _ => client
  | _ => none

/-- What a `WRITE_READY` callback tells the client about its buffer. -/
structure Ack where
  b : InPal
  status : ℤ
  frameIndex : ℤ
  deriving DecidableEq

/-- The steps of the threads, with what PAL and the kernel answer. -/
inductive Action where
  | streamOpen (pid : Pid)
  | palStreamOpen (result : Option Handle)
  | addStreamHandle
  | streamClose (pid : Pid) (handle : Handle)
  | removeClientInfoData
  | palStreamClose
  | transfer (pid : Pid) (handle : Handle) (buf : PalBuffer)
  | getClient
  | dup (fd : FdPair)
  | addSharedMemoryFdPairs
  | addToPendingInputs
  | palTransfer
  | leave
  | callback (b : InPal) (status : ℤ)
  | getInputBufferIndex
  | closeFd
  | check (pid : Pid) (handle : Handle)
  | die (pid : Pid)

/-- The map of the frame indices that are to be given back: by fd, and by the offset. -/
abbrev PendingAcks := Fd → Option (ℤ → Option ℤ)

/-- `streams` and `fds` are what PAL and the kernel have open for the server; `inPal` are the
buffers that PAL has, and `acks` what the clients were told. -/
structure Server (Tid : Type) where
  mClients : List (Pid × ClientId)
  clients : ClientId → ClientInfo
  created : ℕ
  gInputsPendingAck : PendingAcks
  calls : Tid → Call
  streams : Stock Handle
  fds : Stock Fd
  inPal : List InPal
  acks : List Ack

namespace Server

variable {Tid : Type}

def init : Server Tid where
  mClients := []
  clients _ := ⟨[]⟩
  created := 0
  gInputsPendingAck _ := none
  calls _ := .idle
  streams := Stock.empty
  fds := Stock.empty
  inPal := []
  acks := []

/-! ### The clients -/

/-- `palStreamClose`: PAL gives no buffer of the stream back any more. -/
def palStreamClose (σ : Server Tid) (handle : Handle) : Server Tid :=
  { σ with
    streams := σ.streams.giveBack handle
    inPal := σ.inPal.filter (·.handle ≠ handle) }

def setClient (σ : Server Tid) (id : ClientId) (c : ClientInfo) : Server Tid :=
  { σ with clients := Function.update σ.clients id c }

/-- The object of the process. -/
def clientOf (σ : Server Tid) (pid : Pid) : Option ClientId :=
  (σ.mClients.find? (·.1 = pid)).map Prod.snd

/-- The object of the process, which is created when there is none. -/
def getClientL (σ : Server Tid) (pid : Pid) : ClientId × Server Tid :=
  match σ.clientOf pid with
  | some id => (id, σ)
  | none => (σ.created, { σ with
      mClients := (pid, σ.created) :: σ.mClients
      clients := Function.update σ.clients σ.created ⟨[]⟩
      created := σ.created + 1 })

def isValidStreamHandle (σ : Server Tid) (pid : Pid) (handle : Handle) : Bool × Server Tid :=
  let (id, σ) := σ.getClientL pid
  ((σ.clients id).isValidStreamHandle handle, σ)

def addStreamHandle (σ : Server Tid) (pid : Pid) (handle : Handle) : Server Tid :=
  let (id, σ) := σ.getClientL pid
  σ.setClient id ((σ.clients id).addStreamHandle handle)

def addSharedMemoryFdPairs (σ : Server Tid) (pid : Pid) (handle : Handle) (fd : FdPair) :
    Server Tid :=
  let (id, σ) := σ.getClientL pid
  σ.setClient id ((σ.clients id).addSharedMemoryFdPairs handle fd.1 fd.2)

/-- The loop of `removeSharedMemoryFdPairs` over the clients. -/
def removeFdPairsFrom (handle : Handle) (dupFd : Fd) :
    List (Pid × ClientId) → (ClientId → ClientInfo) → Fd → Fd × (ClientId → ClientInfo)
  | [], clients, ret => (ret, clients)
  | e :: es, clients, ret =>
    let (inputFd, c) := (clients e.2).removeSharedMemoryFdPairs handle dupFd
    removeFdPairsFrom handle dupFd es (Function.update clients e.2 c)
      (if inputFd ≠ -1 then inputFd else ret)

def removeSharedMemoryFdPairs (σ : Server Tid) (handle : Handle) (dupFd : Fd) : Fd × Server Tid :=
  let (ret, clients) := removeFdPairsFrom handle dupFd σ.mClients σ.clients (-1)
  (ret, { σ with clients })

/-- `closeSharedMemoryFdPairs` of the client, for one of its streams. -/
def closeSharedMemoryFdPairs (σ : Server Tid) (id : ClientId) (handle : Handle) : Server Tid :=
  match (σ.clients id).getStreamInfo handle with
  | some i => { σ with fds := i.closeSharedMemoryFdPairs σ.fds }
  | none => σ

/-- `forceCloseStream`. -/
def forceCloseStream (σ : Server Tid) (i : StreamInfo) : Server Tid :=
  if i.mHandle ≠ 0 then σ.palStreamClose i.mHandle else σ

/-- The destructor of a `ClientInfo`. -/
def cleanup (σ : Server Tid) (id : ClientId) : Server Tid :=
  let infos := (σ.clients id).mStreamInfoMap
  let σ := { σ with fds := infos.foldl StreamInfo.closeSharedMemoryFdPairs σ.fds }
  let σ := infos.foldl forceCloseStream σ
  σ.setClient id ⟨[]⟩

def removeClientL (σ : Server Tid) (pid : Pid) : Server Tid :=
  { σ with mClients := σ.mClients.eraseP (·.1 = pid) }

/-- `removeClientInfoData`, which keeps its own reference to the object up to its end; the object
that it may erase from the map has no stream left. -/
def removeClientInfoData (σ : Server Tid) (pid : Pid) (handle : Handle) : Server Tid :=
  let (id, σ) := σ.getClientL pid
  let σ := σ.closeSharedMemoryFdPairs id handle
  let σ := σ.setClient id ((σ.clients id).removeStreamHandle handle)
  if (σ.clients id).mStreamInfoMap = [] then σ.removeClientL pid else σ

/-! ### The frame indices -/

/-- `addToPendingInputs`; the frame index comes as an `int32_t`. -/
def addToPendingInputs (σ : Server Tid) (b : InPal) : Server Tid :=
  let ipFrameId := int32 b.buf.frameIndex
  let offsets := (σ.gInputsPendingAck b.fd.2).getD (fun _ => none)
  { σ with
    gInputsPendingAck := Function.update σ.gInputsPendingAck b.fd.2
      (some (Function.update offsets b.buf.offset (some ipFrameId))) }

/-- `getInputBufferIndex`: the status, and the frame index, which is 0 unless one is found. All
offsets of the fd go. -/
def getInputBufferIndex (acks : PendingAcks) (b : InPal) : Ack × PendingAcks :=
  match acks b.fd.2 with
  | none => (⟨b, 0, 0⟩, acks)
  | some offsets =>
    match offsets b.buf.offset with
    | some bufIndex => (⟨b, 0, bufIndex⟩, Function.update acks b.fd.2 none)
    | none => (⟨b, -EINVAL, 0⟩, Function.update acks b.fd.2 none)

/-- The client is told about its buffer. -/
def acknowledge (σ : Server Tid) (b : InPal) : Server Tid :=
  { σ with
    gInputsPendingAck := (getInputBufferIndex σ.gInputsPendingAck b).2
    acks := (getInputBufferIndex σ.gInputsPendingAck b).1 :: σ.acks }

/-! ### The steps -/

/-- The map or a call refers to the object. -/
def referenced (σ : Server Tid) (id : ClientId) : Prop :=
  id ∈ σ.mClients.map Prod.snd ∨ ∃ t, (σ.calls t).client = some id

section Step

variable [Fintype Tid] [DecidableEq Tid]

instance (σ : Server Tid) (id : ClientId) : Decidable (σ.referenced id) := by
  unfold referenced
  infer_instance

/-- A reference to the object is gone. -/
def dropped (σ : Server Tid) (id : ClientId) : Server Tid :=
  if σ.referenced id then σ else σ.cleanup id

def goto (σ : Server Tid) (t : Tid) (c : Call) : Server Tid :=
  { σ with calls := Function.update σ.calls t c }

/-- The call goes on where the handle is valid, and is refused elsewhere. -/
def ifValid (σ : Server Tid) (t : Tid) (pid : Pid) (handle : Handle) (c : Call) : Server Tid :=
  let (valid, σ) := σ.isValidStreamHandle pid handle
  if valid then σ.goto t c else σ

/-- The call returns, and its own reference to the object goes. -/
def leave (σ : Server Tid) (t : Tid) : Option ClientId → Server Tid
  | some id => (σ.goto t .idle).dropped id
  | none => σ.goto t .idle

def removeClient (σ : Server Tid) (pid : Pid) : Server Tid :=
  match σ.clientOf pid with
  | some id => (σ.removeClientL pid).dropped id
  | none => σ

/-- `palTransfer`: PAL takes the buffer. -/
def palTake (σ : Server Tid) (b : InPal) : Server Tid := { σ with inPal := b :: σ.inPal }

/-- What the callback of a buffer begins with: it takes the pair of the fd out, and it asks for the
frame index when it is about a `write` that PAL has not refused. -/
def onCallback (σ : Server Tid) (t : Tid) (b : InPal) (status : ℤ) : Server Tid :=
  let σ := { σ with inPal := σ.inPal.erase b }
  let (inputFd, σ) := σ.removeSharedMemoryFdPairs b.handle b.fd.2
  σ.goto t (.notified (if inputFd ≠ -1 then b.fd.2 else -1)
    (if b.buf.write ∧ status = 0 then some b else none))

def stepAt (σ : Server Tid) (t : Tid) (a : Action) : Option (Server Tid) :=
  match a, σ.calls t with
  -- the client is looked up without `mLock` here
  | .streamOpen pid, .idle =>
    let (id, σ) := σ.getClientL pid
    some (σ.goto t (.opening pid id))
  | .palStreamOpen none, .opening _ client => some (σ.leave t client)
  | .palStreamOpen (some handle), .opening pid client =>
    if handle ≠ 0 ∧ handle ∉ σ.streams.issued then
      some (({ σ with streams := σ.streams.issue handle } : Server Tid).goto t
        (.opened pid client handle))
    else none
  | .addStreamHandle, .opened pid client handle =>
    some ((σ.addStreamHandle pid handle).goto t (.returning client))
  | .leave, .returning client => some (σ.leave t client)
  | .streamClose pid handle, .idle =>
    some (σ.ifValid t pid handle (.closing pid handle))
  | .removeClientInfoData, .closing pid handle =>
    some ((σ.removeClientInfoData pid handle).goto t (.removed handle))
  | .palStreamClose, .removed handle => some ((σ.palStreamClose handle).goto t .idle)
  | .transfer pid handle buf, .idle =>
    some (σ.ifValid t pid handle (.checked pid handle buf))
  -- a `write` holds the client up to its return, a `read` does not
  | .getClient, .checked pid handle buf =>
    if buf.write then
      let (id, σ) := σ.getClientL pid
      some (σ.goto t (.prepared pid (some id) handle buf))
    else some (σ.goto t (.prepared pid none handle buf))
  | .dup fd, .prepared pid client handle buf =>
    if fd.2 = -1 then some (σ.goto t (.duplicated pid client ⟨handle, fd, buf⟩))
    else if 0 ≤ fd.2 ∧ fd.2 ∉ σ.fds.issued then
      some (({ σ with fds := σ.fds.issue fd.2 } : Server Tid).goto t
        (.duplicated pid client ⟨handle, fd, buf⟩))
    else none
  | .addSharedMemoryFdPairs, .duplicated pid client b =>
    some ((σ.addSharedMemoryFdPairs pid b.handle b.fd).goto t (.recorded client b))
  | .addToPendingInputs, .recorded client b =>
    if b.buf.write then some ((σ.addToPendingInputs b).goto t (.pending client b))
    else some (σ.goto t (.pending client b))
  | .palTransfer, .pending client b =>
    match client with
    | some id => some ((σ.palTake b).goto t (.returning id))
    | none => some ((σ.palTake b).goto t .idle)
  | .callback b status, .idle => if b ∈ σ.inPal then some (σ.onCallback t b status) else none
  | .getInputBufferIndex, .notified fdToBeClosed (some b) =>
    some ((σ.acknowledge b).goto t (.notified fdToBeClosed none))
  | .closeFd, .notified fdToBeClosed none =>
    some (({ σ with fds := closeFd σ.fds fdToBeClosed } : Server Tid).goto t .idle)
  | .check pid handle, .idle => some (σ.isValidStreamHandle pid handle).2
  | .die pid, .idle => some (σ.removeClient pid)
  | _, _ => none

def step (σ : Server Tid) (i : Tid × Action) : Option (Server Tid) := σ.stepAt i.1 i.2

/-- What a step can do, with what it asks of its thread and of the answers it gets. -/
inductive Stepped (σ : Server Tid) (t : Tid) : Action → Server Tid → Prop
  | streamOpen {pid : Pid} (hc : σ.calls t = .idle) :
      Stepped σ t (.streamOpen pid)
        ((σ.getClientL pid).2.goto t (.opening pid (σ.getClientL pid).1))
  | openFailed {pid : Pid} {client : ClientId} (hc : σ.calls t = .opening pid client) :
      Stepped σ t (.palStreamOpen none) (σ.leave t client)
  | openDone {pid : Pid} {client : ClientId} {handle : Handle}
      (hc : σ.calls t = .opening pid client) (hne : handle ≠ 0) (hnew : handle ∉ σ.streams.issued) :
      Stepped σ t (.palStreamOpen (some handle))
        (({ σ with streams := σ.streams.issue handle } : Server Tid).goto t
          (.opened pid client handle))
  | addStreamHandle {pid : Pid} {client : ClientId} {handle : Handle}
      (hc : σ.calls t = .opened pid client handle) :
      Stepped σ t .addStreamHandle ((σ.addStreamHandle pid handle).goto t (.returning client))
  | leave {client : ClientId} (hc : σ.calls t = .returning client) :
      Stepped σ t .leave (σ.leave t client)
  | check {a : Action} {pid : Pid} (hc : σ.calls t = .idle) : Stepped σ t a (σ.getClientL pid).2
  | streamClose {pid : Pid} {handle : Handle} (hc : σ.calls t = .idle) :
      Stepped σ t (.streamClose pid handle) ((σ.getClientL pid).2.goto t (.closing pid handle))
  | removeClientInfoData {pid : Pid} {handle : Handle} (hc : σ.calls t = .closing pid handle) :
      Stepped σ t .removeClientInfoData
        ((σ.removeClientInfoData pid handle).goto t (.removed handle))
  | palStreamClose {handle : Handle} (hc : σ.calls t = .removed handle) :
      Stepped σ t .palStreamClose ((σ.palStreamClose handle).goto t .idle)
  | transfer {pid : Pid} {handle : Handle} {buf : PalBuffer} (hc : σ.calls t = .idle) :
      Stepped σ t (.transfer pid handle buf)
        ((σ.getClientL pid).2.goto t (.checked pid handle buf))
  | getClient {pid : Pid} {handle : Handle} {buf : PalBuffer}
      (hc : σ.calls t = .checked pid handle buf) :
      Stepped σ t .getClient
        ((σ.getClientL pid).2.goto t (.prepared pid (some (σ.getClientL pid).1) handle buf))
  | noClient {pid : Pid} {handle : Handle} {buf : PalBuffer}
      (hc : σ.calls t = .checked pid handle buf) :
      Stepped σ t .getClient (σ.goto t (.prepared pid none handle buf))
  | noFd {pid : Pid} {client : Option ClientId} {handle : Handle} {buf : PalBuffer} {fd : FdPair}
      (hc : σ.calls t = .prepared pid client handle buf) (hfd : fd.2 = -1) :
      Stepped σ t (.dup fd) (σ.goto t (.duplicated pid client ⟨handle, fd, buf⟩))
  | dup {pid : Pid} {client : Option ClientId} {handle : Handle} {buf : PalBuffer} {fd : FdPair}
      (hc : σ.calls t = .prepared pid client handle buf) (hfd : 0 ≤ fd.2)
      (hnew : fd.2 ∉ σ.fds.issued) :
      Stepped σ t (.dup fd)
        (({ σ with fds := σ.fds.issue fd.2 } : Server Tid).goto t
          (.duplicated pid client ⟨handle, fd, buf⟩))
  | addSharedMemoryFdPairs {pid : Pid} {client : Option ClientId} {b : InPal}
      (hc : σ.calls t = .duplicated pid client b) :
      Stepped σ t .addSharedMemoryFdPairs
        ((σ.addSharedMemoryFdPairs pid b.handle b.fd).goto t (.recorded client b))
  | addToPendingInputs {client : Option ClientId} {b : InPal} (hc : σ.calls t = .recorded client b)
      (hw : b.buf.write = true) :
      Stepped σ t .addToPendingInputs ((σ.addToPendingInputs b).goto t (.pending client b))
  | noPendingInput {client : Option ClientId} {b : InPal} (hc : σ.calls t = .recorded client b)
      (hw : b.buf.write = false) :
      Stepped σ t .addToPendingInputs (σ.goto t (.pending client b))
  | palWrite {client : ClientId} {b : InPal} (hc : σ.calls t = .pending (some client) b) :
      Stepped σ t .palTransfer ((σ.palTake b).goto t (.returning client))
  | palRead {b : InPal} (hc : σ.calls t = .pending none b) :
      Stepped σ t .palTransfer ((σ.palTake b).goto t .idle)
  | callback {b : InPal} {status : ℤ} (hc : σ.calls t = .idle) (hb : b ∈ σ.inPal) :
      Stepped σ t (.callback b status) (σ.onCallback t b status)
  | getInputBufferIndex {fd : Fd} {b : InPal} (hc : σ.calls t = .notified fd (some b)) :
      Stepped σ t .getInputBufferIndex
        ((σ.acknowledge b).goto t (.notified fd none))
  | closeFd {fd : Fd} (hc : σ.calls t = .notified fd none) :
      Stepped σ t .closeFd (({ σ with fds := Ipc.closeFd σ.fds fd } : Server Tid).goto t .idle)
  | die {pid : Pid} (hc : σ.calls t = .idle) : Stepped σ t (.die pid) (σ.removeClient pid)

omit [Fintype Tid] in
theorem ifValid_eq_or (σ : Server Tid) {t : Tid} {pid : Pid} {handle : Handle} {c : Call} :
    σ.ifValid t pid handle c = (σ.getClientL pid).2.goto t c ∨
      σ.ifValid t pid handle c = (σ.getClientL pid).2 := by
  unfold ifValid isValidStreamHandle
  generalize σ.getClientL pid = r
  obtain ⟨id, σ⟩ := r
  dsimp only
  split
  · exact Or.inl rfl
  · exact Or.inr rfl

theorem stepped_of_stepAt {σ σ' : Server Tid} {t : Tid} {a : Action}
    (h : σ.stepAt t a = some σ') : Stepped σ t a σ' := by
  unfold stepAt at h
  split at h <;> rename_i hc
  · obtain rfl := Option.some.inj h
    exact .streamOpen hc
  · obtain rfl := Option.some.inj h
    exact .openFailed hc
  · split at h
    · rename_i hg
      obtain rfl := Option.some.inj h
      exact .openDone hc hg.1 hg.2
    · cases h
  · obtain rfl := Option.some.inj h
    exact .addStreamHandle hc
  · obtain rfl := Option.some.inj h
    exact .leave hc
  · obtain rfl := Option.some.inj h
    rcases σ.ifValid_eq_or with heq | heq <;> rw [heq]
    · exact .streamClose hc
    · exact .check hc
  · obtain rfl := Option.some.inj h
    exact .removeClientInfoData hc
  · obtain rfl := Option.some.inj h
    exact .palStreamClose hc
  · obtain rfl := Option.some.inj h
    rcases σ.ifValid_eq_or with heq | heq <;> rw [heq]
    · exact .transfer hc
    · exact .check hc
  · split at h
    · obtain rfl := Option.some.inj h
      exact .getClient hc
    · obtain rfl := Option.some.inj h
      exact .noClient hc
  · split at h
    · rename_i hfd
      obtain rfl := Option.some.inj h
      exact .noFd hc hfd
    split at h
    · rename_i hg
      obtain rfl := Option.some.inj h
      exact .dup hc hg.1 hg.2
    · cases h
  · obtain rfl := Option.some.inj h
    exact .addSharedMemoryFdPairs hc
  · split at h
    · rename_i hw
      obtain rfl := Option.some.inj h
      exact .addToPendingInputs hc hw
    · rename_i hw
      obtain rfl := Option.some.inj h
      exact .noPendingInput hc (by simpa using hw)
  · split at h
    · obtain rfl := Option.some.inj h
      exact .palWrite hc
    · obtain rfl := Option.some.inj h
      exact .palRead hc
  · split at h
    · rename_i hb
      obtain rfl := Option.some.inj h
      exact .callback hc hb
    · cases h
  · obtain rfl := Option.some.inj h
    exact .getInputBufferIndex hc
  · obtain rfl := Option.some.inj h
    exact .closeFd hc
  · obtain rfl := Option.some.inj h
    exact .check hc
  · obtain rfl := Option.some.inj h
    exact .die hc
  · cases h

end Step

end Server

end AudioReachPal.Ipc
