import AudioReachPal.Types
import AudioReachPal.Lib.Runs
import AudioReachPal.Lib.Iterator
import Mathlib.Logic.Function.Basic

/-!
# The loop that handles resets of the sound card

The monitor of the sound card puts each new state in a queue; a thread takes them out, and walks the
active streams with every state that is a change. The walk is under the lock of the active streams,
but a handler of a stream, which stops and closes it, or opens and starts it, may release the lock
and take it again; and the context manager, which has streams of its own, is told without the lock.
In between streams come and go. The thread is a user of the stream while it is in its handler, so
that the stream is not destroyed there, and its place in the list stays.

Calls of other threads count themselves in and out. Where Bluetooth streams are switched or restored
a stream is counted out also when it could not be counted in. The handlers are called from elsewhere
as well, in a device switch and when use cases are restarted; what is kept here is what the loop
told the streams.
-/

namespace AudioReachPal.Rm.Ssr

open AudioReachPal.Lib
open AudioReachPal.Lib.Iterator (fromElem succ)

inductive card_status_t where
  | CARD_STATUS_OFFLINE
  | CARD_STATUS_ONLINE
  | CARD_STATUS_STANDBY
  | CARD_STATUS_NONE
  deriving DecidableEq, Repr

open card_status_t

def PAL_CARD_STATUS_DOWN (state : card_status_t) : Bool :=
  state = CARD_STATUS_OFFLINE ∨ state = CARD_STATUS_STANDBY

def PAL_CARD_STATUS_UP (state : card_status_t) : Bool := state = CARD_STATUS_ONLINE

/-- Where the thread of `ssrHandlingLoop` is. -/
inductive Pc where
  /-- At the check of the queue, and in the wait. -/
  | top
  | asleep
  | popped (state : card_status_t)
  /-- In `ssrUpHandler` of the context manager: without streams, and before the streams. -/
  | idleUp
  | ctxUp
  /-- In the walk with the lock; `none` is its end. -/
  | walk (state : card_status_t) (it : Option StreamId)
  /-- In the handler of a stream, with the lock and without. -/
  | handler (state : card_status_t) (str : StreamId)
  | released (state : card_status_t) (str : StreamId)
  /-- In `ssrDownHandler` of the context manager. -/
  | ctxDown (state : card_status_t)
  | ended
  deriving DecidableEq, Repr

/-- The thread has the lock of the active streams. -/
def Pc.locked : Pc → Bool
  | .walk _ _ | .handler _ _ => true
  | _ => false

/-- Where a stream is on its way from `Stream::create` to the end of its destructor. -/
inductive Life where
  | absent
  | created
  | inUse
  /-- In a close: deactivated, with the semaphore, and without a counter. -/
  | deactivated
  | drained
  | erased
  /-- In the destructor. -/
  | destroyed
  deriving DecidableEq, Repr

/-- The thread, the queue and the streams. Not in the source are: `users`, the calls of other
threads that counted themselves in; the states posted and taken so far, and those that were changes;
what the loop told each stream since it was created, and how many changes there were before it was
in use. -/
structure Loop where
  msgQ : List card_status_t := []
  /-- The calls of `ssrHandler` between the push and `notifyAll`. -/
  notifying : ℕ := 0
  pc : Pc := .top
  prevState : card_status_t := CARD_STATUS_ONLINE
  cardState : card_status_t := CARD_STATUS_ONLINE
  mActiveStreams : List StreamId := []
  mActiveStreamUserCounter : StreamId → Option (ℕ × Bool) := fun _ => none
  life : StreamId → Life := fun _ => .absent
  users : StreamId → ℕ := fun _ => 0
  posted : List card_status_t := []
  taken : List card_status_t := []
  changes : List card_status_t := []
  told : StreamId → List card_status_t := fun _ => []
  since : StreamId → ℕ := fun _ => 0

namespace Loop

variable (σ : Loop)

/-! ### The thread -/

/-- The thread leaves the state behind. -/
def finish (state : card_status_t) : Loop := { σ with prevState := state, pc := .top }

/-- The streams are walked from the first one on. -/
def startWalk (state : card_status_t) : Loop :=
  { σ with
    changes := σ.changes ++ [state]
    pc := .walk state σ.mActiveStreams.head? }

/-- What the thread does with a state up to the first stream. -/
def handle (isContextManagerEnabled : Bool) (state : card_status_t) : Loop :=
  let σ := { σ with cardState := state }
  if σ.mActiveStreams = [] then
    if state = CARD_STATUS_ONLINE ∧ isContextManagerEnabled then { σ with pc := .idleUp }
    else σ.finish state
  else if state = σ.prevState then { σ with pc := .top }
  else if PAL_CARD_STATUS_DOWN state then σ.startWalk state
  else if PAL_CARD_STATUS_UP state then
    if isContextManagerEnabled then { σ with pc := .ctxUp } else σ.startWalk state
  else { σ with pc := .top }

/-- The handler of a stream is called. -/
def tell (state : card_status_t) (str : StreamId) (n : ℕ) : Loop :=
  { σ with
    mActiveStreamUserCounter := Function.update σ.mActiveStreamUserCounter str (some (n + 1, true))
    told := Function.update σ.told str (σ.told str ++ [state])
    pc := .handler state str }

/-- A stream that is not counted, or inactive, is left out. -/
def visit (state : card_status_t) (str : StreamId) : Loop :=
  match σ.mActiveStreamUserCounter str with
  | some (n, true) => σ.tell state str n
  | _ => { σ with pc := .walk state (succ σ.mActiveStreams str) }

def decreaseStreamUserCounter (str : StreamId) : Loop :=
  match σ.mActiveStreamUserCounter str with
  | some (n + 1, active) =>
    { σ with
      mActiveStreamUserCounter :=
        Function.update σ.mActiveStreamUserCounter str (some (n, active)) }
  | _ => σ

/-- The next step of the thread; `none` where it waits, or is without the lock in a handler. -/
def next (isContextManagerEnabled : Bool) : Option Loop :=
  match σ.pc with
  | .top =>
    match σ.msgQ with
    | [] => some { σ with pc := .asleep }
    | state :: msgQ => some { σ with msgQ, taken := σ.taken ++ [state], pc := .popped state }
  | .popped state =>
    if state = CARD_STATUS_NONE then some { σ with pc := .ended }
    else some (σ.handle isContextManagerEnabled state)
  | .idleUp => some (σ.finish CARD_STATUS_ONLINE)
  | .ctxUp => some (σ.startWalk CARD_STATUS_ONLINE)
  | .walk state (some str) => some (σ.visit state str)
  | .walk state none =>
    if PAL_CARD_STATUS_DOWN state ∧ isContextManagerEnabled then
      some { σ with pc := .ctxDown state }
    else some (σ.finish state)
  | .handler state str =>
    some { σ.decreaseStreamUserCounter str with pc := .walk state (succ σ.mActiveStreams str) }
  | .ctxDown state => some (σ.finish state)
  | .asleep | .released _ _ | .ended => none

/-! ### The streams -/

/-- What the walk has still to visit, the stream whose handler runs left out. -/
def ahead : List StreamId :=
  match σ.pc with
  | .walk _ it => Iterator.remaining σ.mActiveStreams it
  | .handler _ str | .released _ str => (fromElem σ.mActiveStreams str).tail
  | _ => []

/-- A stream that the walk has still to visit is told of the change that was made last. -/
def registerStream (t : StreamId) : Loop :=
  { σ with
    mActiveStreams := σ.mActiveStreams ++ [t]
    life := Function.update σ.life t .created
    told := Function.update σ.told t [] }

def initStreamUserCounter (t : StreamId) : Loop :=
  { σ with
    mActiveStreamUserCounter := Function.update σ.mActiveStreamUserCounter t (some (0, true))
    life := Function.update σ.life t .inUse
    since := Function.update σ.since t
      (σ.changes.length - if t ∈ σ.ahead then 1 else 0) }

def setCounter (t : StreamId) (c : Option (ℕ × Bool)) (life : Life) : Loop :=
  { σ with
    mActiveStreamUserCounter := Function.update σ.mActiveStreamUserCounter t c
    life := Function.update σ.life t life }

def setUsers (t : StreamId) (users : ℕ) : Loop :=
  { σ with users := Function.update σ.users t users }

def deregisterStream (t : StreamId) : Loop :=
  { σ with
    mActiveStreams := σ.mActiveStreams.erase t
    life := Function.update σ.life t .absent }

/-- What the other threads do. -/
inductive Action where
  | ssrHandler (state : card_status_t)
  | notifyAll
  | registerStream (t : StreamId)
  | initStreamUserCounter (t : StreamId)
  | increaseStreamUserCounter (t : StreamId)
  /-- By a call that counted itself in, or by one that did not. -/
  | decreaseStreamUserCounter (t : StreamId) (counted : Bool)
  /-- The parts of a close; the stream of an open that failed is destroyed too. -/
  | deactivateStreamUserCounter (t : StreamId)
  | waitStreamSmph (t : StreamId)
  | eraseStreamUserCounter (t : StreamId)
  | destroy (t : StreamId)
  | deregisterStream (t : StreamId)
  deriving DecidableEq, Repr

/-- The parts that take the lock of the active streams. -/
def Action.locks : Action → Bool
  | .ssrHandler _ | .notifyAll | .waitStreamSmph _ | .destroy _ => false
  | _ => true

/-- A part of a call of another thread that is not held up by the lock. The semaphore of a stream
is free while its counter is zero and no close has taken it. -/
def other : Action → Option Loop
  | .ssrHandler state =>
    some { σ with
      msgQ := σ.msgQ ++ [state]
      notifying := σ.notifying + 1
      posted := σ.posted ++ [state] }
  | .notifyAll =>
    if 0 < σ.notifying then
      some { σ with
        notifying := σ.notifying - 1
        pc := if σ.pc = .asleep then .top else σ.pc }
    else none
  | .registerStream t => if σ.life t = .absent then some (σ.registerStream t) else none
  | .initStreamUserCounter t =>
    if σ.life t = .created then some (σ.initStreamUserCounter t) else none
  | .increaseStreamUserCounter t =>
    match σ.mActiveStreamUserCounter t with
    | some (n, true) => some ((σ.setCounter t (some (n + 1, true)) (σ.life t)).setUsers t
        (σ.users t + 1))
    | _ => none
  | .decreaseStreamUserCounter t true =>
    if 0 < σ.users t then some ((σ.decreaseStreamUserCounter t).setUsers t (σ.users t - 1))
    else none
  | .decreaseStreamUserCounter t false => some (σ.decreaseStreamUserCounter t)
  | .deactivateStreamUserCounter t =>
    match σ.life t, σ.mActiveStreamUserCounter t with
    | .inUse, some (n, true) => some (σ.setCounter t (some (n, false)) .deactivated)
    | _, _ => none
  | .waitStreamSmph t =>
    match σ.life t, σ.mActiveStreamUserCounter t with
    | .deactivated, some (0, _) => some (σ.setCounter t (some (0, false)) .drained)
    | _, _ => none
  | .eraseStreamUserCounter t =>
    if σ.life t = .drained then some (σ.setCounter t none .erased) else none
  | .destroy t =>
    if σ.life t = .erased ∨ σ.life t = .created then some (σ.setCounter t none .destroyed)
    else none
  | .deregisterStream t => if σ.life t = .destroyed then some (σ.deregisterStream t) else none

/-- What happens next: the thread goes on, wakes up without a call, or releases or takes the lock in
a handler; or another thread does something. -/
inductive Event where
  | next
  | wake
  | unlockActiveStream
  | lockActiveStream
  | other (a : Action)
  deriving DecidableEq, Repr

def step (isContextManagerEnabled : Bool) (σ : Loop) : Event → Option Loop
  | .next => σ.next isContextManagerEnabled
  | .wake => if σ.pc = .asleep then some { σ with pc := .top } else none
  | .unlockActiveStream =>
    match σ.pc with
    | .handler state str => some { σ with pc := .released state str }
    | _ => none
  | .lockActiveStream =>
    match σ.pc with
    | .released state str => some { σ with pc := .handler state str }
    | _ => none
  | .other a => if a.locks ∧ σ.pc.locked then none else σ.other a

end Loop

end AudioReachPal.Rm.Ssr
