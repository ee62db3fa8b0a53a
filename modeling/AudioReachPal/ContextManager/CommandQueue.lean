import AudioReachPal.Lib.Runs
import Std.Data.TreeMap

/-!
# The command queue of the context manager

The proxy stream's callback puts a command into the queue, one thread takes the commands out and
processes them, an SSR-down closes everything and empties the queue, and so does `DeInit`, which
ends the thread. The four move one step at a time, in any order; a step that has to wait for a
mutex is not taken until the mutex is free.

The clients and their usecases are objects that are deleted by whoever closes them. A step that
uses a deleted client is undefined and ends the run.
-/

namespace AudioReachPal.Context.Queue

open AudioReachPal.Lib

inductive Party where
  | worker
  | callback
  | ssr
  | deinit
  deriving DecidableEq, Repr

/-! ### The commands -/

inductive RequestCommand where
  | CommandRegister (see_sensor_iid usecase_id : ℕ)
  | CommandDeregister (see_sensor_iid usecase_id : ℕ)
  | CommandGetContextIDs (see_sensor_iid : ℕ)
  | CommandCloseAll
  deriving DecidableEq, Repr

/-- The ids of the events, which a header of the sensor side declares. -/
structure EventIds where
  EVENT_ID_ASPS_SENSOR_REGISTER_REQUEST : ℕ
  EVENT_ID_ASPS_SENSOR_DEREGISTER_REQUEST : ℕ
  EVENT_ID_ASPS_GET_SUPPORTED_CONTEXT_IDS : ℕ
  EVENT_ID_ASPS_CLOSE_ALL : ℕ
  deriving DecidableEq, Repr

/-- An event with the ids that its data carries. -/
structure Event where
  event_id : ℕ
  see_sensor_iid : ℕ
  usecase_id : ℕ
  deriving DecidableEq, Repr

/-- `requestCommandCreate`; an unknown event gives `NULL`. -/
def requestCommandCreate (ids : EventIds) (e : Event) : Option RequestCommand :=
  if e.event_id = ids.EVENT_ID_ASPS_SENSOR_REGISTER_REQUEST then
    some (.CommandRegister e.see_sensor_iid e.usecase_id)
  else if e.event_id = ids.EVENT_ID_ASPS_SENSOR_DEREGISTER_REQUEST then
    some (.CommandDeregister e.see_sensor_iid e.usecase_id)
  else if e.event_id = ids.EVENT_ID_ASPS_GET_SUPPORTED_CONTEXT_IDS then
    some (.CommandGetContextIDs e.see_sensor_iid)
  else if e.event_id = ids.EVENT_ID_ASPS_CLOSE_ALL then some .CommandCloseAll
  else none

/-! ### The clients -/

/-- The clients by their ids, as pointers, with the usecases of each. -/
structure Clients where
  see_clients : Std.TreeMap ℕ ℕ := ∅
  usecases : ℕ → List ℕ := fun _ => []
  deleted : ℕ → Bool := fun _ => false
  allocated : ℕ := 0
  see_client_mutex : Option Party := none

namespace Clients

variable (C : Clients)

def lock (me : Party) : Clients := { C with see_client_mutex := some me }

def unlock : Clients := { C with see_client_mutex := none }

def setUsecases (p : ℕ) (l : List ℕ) : Clients :=
  { C with usecases := Function.update C.usecases p l }

/-- A new client at the next free address. -/
def create (see_id : ℕ) : Clients :=
  { C with see_clients := C.see_clients.insert see_id C.allocated, allocated := C.allocated + 1 }

/-- The entry leaves the map, and the client is deleted. -/
def erase (see_id p : ℕ) : Clients :=
  { C with
    see_clients := C.see_clients.erase see_id, deleted := Function.update C.deleted p true }

/-- The entry behind the one with the id, where an iterator comes that is counted up. -/
def entryAfter (see_id : ℕ) : Option (ℕ × ℕ) := C.see_clients.toList.find? fun e => see_id < e.1

end Clients

/-! ### Closing everything -/

/-- Where a `closeAll` is: before its loop, at the head of the loop with the iterator at an entry or
at the end, or with a client in hand, about to lock the mutex, deleting the usecases, or about to
delete the client. -/
inductive Closer where
  | begin
  | next (it_see_client : Option (ℕ × ℕ))
  | locking (see_id p : ℕ)
  | deleting (see_id p : ℕ)
  | erasing (see_id p : ℕ)
  | closed
  deriving DecidableEq, Repr

/-- The entry that the iterator stands at. -/
def Closer.entry : Closer → Option (ℕ × ℕ)
  | .next it_see_client => it_see_client
  | .locking see_id p | .deleting see_id p | .erasing see_id p => some (see_id, p)
  | .begin | .closed => none

/-- The client that the loop has in hand, if only by its iterator. -/
def Closer.client (cl : Closer) : Option ℕ := cl.entry.map Prod.snd

/-- One step of `closeAll` and the `closeAllUsecases` it calls. The entry of a client goes with it,
and the iterators that stand there are then as little to be used as the client. -/
def Closer.step (me : Party) (C : Clients) : Closer → Option (Clients × Closer)
  | .begin => some (C, .next C.see_clients.toList.head?)
  | .next none => some (C, .closed)
  | .next (some (see_id, p)) => if C.deleted p = true then none else some (C, .locking see_id p)
  | .locking see_id p =>
    if C.deleted p = true then none
    else if C.see_client_mutex = none then some (C.lock me, .deleting see_id p)
    else none
  | .deleting see_id p =>
    if C.deleted p = true then none
    else match C.usecases p with
      | [] => some (C.unlock, .erasing see_id p)
      | _ :: usecases => some (C.setUsecases p usecases, .deleting see_id p)
  | .erasing see_id p =>
    if C.deleted p = true then none
    else some (C.erase see_id p, .next (C.entryAfter see_id))
  | .closed => none

/-! ### Processing a command -/

/-- Where `process` of a command is: looking for the client, waiting for the mutex with the client
in hand, inside it, inside it with the usecase that was found, or about to unlock. -/
inductive Processing where
  | lookup (c : RequestCommand)
  | locking (p : ℕ) (c : RequestCommand)
  | locked (p : ℕ) (c : RequestCommand)
  | using_ (p : ℕ) (c : RequestCommand) (uc : Option ℕ)
  | unlocking (p : ℕ)
  | closing (cl : Closer)
  | done
  deriving DecidableEq, Repr

/-- The client that the command has in hand. -/
def Processing.client : Processing → Option ℕ
  | .locking p _ | .locked p _ | .using_ p _ _ | .unlocking p => some p
  | .closing cl => cl.client
  | .lookup _ | .done => none

/-- The usecase that the command has in hand, with its client. -/
def Processing.usecase : Processing → Option (ℕ × ℕ)
  | .using_ p _ (some uc) => some (p, uc)
  | _ => none

/-- The usecases of the client when a command is through with one of them; `ok` says whether all the
calls of a registration succeeded. -/
def RequestCommand.usecases (c : RequestCommand) (ok : Bool) (uc : Option ℕ) (l : List ℕ) :
    List ℕ :=
  match c, uc with
  | .CommandRegister _ usecase_id, none => if ok = true then l ++ [usecase_id] else l
  | .CommandDeregister _ _, some uc => l.erase uc
  | _, _ => l

/-- The usecase that a command asks for. -/
def RequestCommand.usecase_id : RequestCommand → ℕ
  | .CommandRegister _ usecase_id | .CommandDeregister _ usecase_id => usecase_id
  | .CommandGetContextIDs _ | .CommandCloseAll => 0

/-- One step of `process`. -/
def Processing.step (ok : Bool) (C : Clients) : Processing → Option (Clients × Processing)
  | .lookup c =>
    match c with
    | .CommandRegister see_sensor_iid _ =>
      match C.see_clients[see_sensor_iid]? with
      | some p => some (C, .locking p c)
      | none => some (C.create see_sensor_iid, .locking C.allocated c)
    | .CommandDeregister see_sensor_iid _ =>
      match C.see_clients[see_sensor_iid]? with
      | some p => some (C, .locking p c)
      | none => some (C, .done)
    | .CommandGetContextIDs _ => some (C, .done)
    | .CommandCloseAll => some (C, .closing .begin)
  | .locking p c =>
    if C.deleted p = true then none
    else if C.see_client_mutex = none then some (C.lock .worker, .locked p c)
    else none
  | .locked p c =>
    if C.deleted p = true then none
    else some (C, .using_ p c ((C.usecases p).find? (· = c.usecase_id)))
  | .using_ p c uc =>
    if C.deleted p = true then none
    else some (C.setUsecases p (c.usecases ok uc (C.usecases p)), .unlocking p)
  | .unlocking p => if C.deleted p = true then none else some (C.unlock, .done)
  | .closing .closed => some (C, .done)
  | .closing cl => (cl.step .worker C).map fun (C, cl) => (C, .closing cl)
  | .done => none

/-! ### The parties -/

/-- Where `CommandThreadRunner` is. In `test` it holds the queue's mutex and is about to read
`exit_cmd_thread_`; in `wait` it has read `false`, found the queue empty and is about to wait. -/
inductive Worker where
  | start
  | test
  | wait
  | waiting
  | woken
  | processing (pr : Processing)
  | ended
  | crashed
  deriving DecidableEq, Repr

/-- Where `StreamProxyCallback` is. -/
inductive Callback where
  | idle
  | locking (e : Event)
  | locked (e : Event)
  | notify
  | unlocking
  deriving DecidableEq, Repr

/-- Where `ssrDownHandler` is. -/
inductive SsrDown where
  | idle
  | closing (cl : Closer)
  | locking
  | emptying
  deriving DecidableEq, Repr

/-- Where `DeInit` is, with `DestroyCommandProcessingThread` from `setExit` on. -/
inductive DeInit where
  | idle
  | closing (cl : Closer)
  | stopProxy
  | setExit
  | notify
  | join
  | done
  deriving DecidableEq, Repr

/-- A command in the queue with its number, by the order of arrival. -/
abbrev Entry := ℕ × Option RequestCommand

/-- The context manager with the places of the four parties, and what has become of the commands:
those that arrived, those taken out to be processed, and the numbers of those that an SSR-down
emptied from the queue. -/
structure State where
  clients : Clients := {}
  request_cmd_queue : List Entry := []
  request_queue_mtx : Option Party := none
  exit_cmd_thread_ : Bool := false
  proxy_stream : Bool := true
  worker : Worker := .start
  callback : Callback := .idle
  ssr : SsrDown := .idle
  deinit : DeInit := .idle
  arrived : List Entry := []
  processed : List Entry := []
  emptied : List ℕ := []

namespace State

variable (s : State)

def lockQueue (me : Party) : State := { s with request_queue_mtx := some me }

def unlockQueue : State := { s with request_queue_mtx := none }

/-- `notify_one` and `notifyAll`: there is one thread that waits. -/
def notify : State := if s.worker = .waiting then { s with worker := .woken } else s

/-- The command at the front of the queue is taken out; a `NULL` is called, and that is the end. -/
def take (s : State) : State :=
  match s.request_cmd_queue with
  | [] => { s with worker := .test }
  | (n, some c) :: request_cmd_queue =>
    { s with
      request_cmd_queue
      processed := s.processed ++ [(n, some c)]
      worker := .processing (.lookup c) }
  | (n, none) :: request_cmd_queue =>
    { s with request_cmd_queue, processed := s.processed ++ [(n, none)], worker := .crashed }

/-- A step of `CommandThreadRunner`; `ok` is for the calls of a registration. -/
def stepWorker (ok : Bool) : Option State :=
  match s.worker with
  | .start =>
    if s.request_queue_mtx = none then some { s.lockQueue .worker with worker := .test } else none
  | .test =>
    if s.exit_cmd_thread_ = true then some { s.unlockQueue with worker := .ended }
    else if s.request_cmd_queue = [] then some { s with worker := .wait }
    else some s.take
  | .wait => some { s.unlockQueue with worker := .waiting }
  | .waiting => none
  | .woken =>
    if s.request_queue_mtx = none then
      if s.exit_cmd_thread_ = true then some { s.lockQueue .worker with worker := .test }
      else some (s.lockQueue .worker).take
    else none
  | .processing .done => some { s with worker := .test }
  | .processing pr =>
    (pr.step ok s.clients).map fun (clients, pr) => { s with clients, worker := .processing pr }
  | .ended => none
  | .crashed => none

/-- A step of `StreamProxyCallback`, once it is called. -/
def stepCallback (ids : EventIds) : Option State :=
  match s.callback with
  | .idle => none
  | .locking e =>
    if s.request_queue_mtx = none then some { s.lockQueue .callback with callback := .locked e }
    else none
  | .locked e =>
    let entry := (s.arrived.length, requestCommandCreate ids e)
    some { s with
      request_cmd_queue := s.request_cmd_queue ++ [entry]
      arrived := s.arrived ++ [entry]
      callback := .notify }
  | .notify => some { s.notify with callback := .unlocking }
  | .unlocking => some { s.unlockQueue with callback := .idle }

/-- A step of `ssrDownHandler`, which may be called at any time. -/
def stepSsrDown : Option State :=
  match s.ssr with
  | .idle => some { s with ssr := .closing .begin }
  | .closing .closed => some { s with ssr := .locking }
  | .closing cl =>
    (cl.step .ssr s.clients).map fun (clients, cl) => { s with clients, ssr := .closing cl }
  | .locking =>
    if s.request_queue_mtx = none then some { s.lockQueue .ssr with ssr := .emptying } else none
  | .emptying =>
    some { s.unlockQueue with
      emptied := s.emptied ++ s.request_cmd_queue.map Prod.fst, request_cmd_queue := []
      ssr := .idle }

/-- A step of `DeInit`. -/
def stepDeInit : Option State :=
  match s.deinit with
  | .idle => some { s with deinit := .closing .begin }
  | .closing .closed => some { s with deinit := .stopProxy }
  | .closing cl =>
    (cl.step .deinit s.clients).map fun (clients, cl) => { s with clients, deinit := .closing cl }
  | .stopProxy => some { s with proxy_stream := false, deinit := .setExit }
  | .setExit => some { s with exit_cmd_thread_ := true, deinit := .notify }
  | .notify => some { s.notify with deinit := .join }
  | .join => if s.worker = .ended then some { s with deinit := .done } else none
  | .done => none

end State

/-- Which party moves. The callback is called only while the proxy stream is there, and a wait may
end without a notification. -/
inductive Move where
  | worker (ok : Bool)
  | spuriousWakeUp
  | call (e : Event)
  | callback
  | ssrDown
  | deinit
  deriving DecidableEq, Repr

def step (ids : EventIds) (s : State) : Move → Option State
  | .worker ok => s.stepWorker ok
  | .spuriousWakeUp => if s.worker = .waiting then some { s with worker := .woken } else none
  | .call e =>
    if s.callback = .idle ∧ s.proxy_stream = true then some { s with callback := .locking e }
    else none
  | .callback => s.stepCallback ids
  | .ssrDown => s.stepSsrDown
  | .deinit => s.stepDeInit

end AudioReachPal.Context.Queue
