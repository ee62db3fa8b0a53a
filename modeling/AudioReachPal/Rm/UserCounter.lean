import AudioReachPal.Types
import AudioReachPal.Lib.Runs
import Mathlib.Data.Finset.Card

/-!
# The user counter of a stream

Threads use a stream through its handle. A call that is counted raises the counter of the stream's
users for as long as it runs methods of the stream; the first user takes the semaphore and the last
one posts it. A close makes the stream inactive, so that no user is added, and takes the semaphore
itself before it destroys the stream. The active-stream lock is held for one step, but for the wait
of the first user: there it is held until the semaphore is taken.
-/

namespace AudioReachPal.Rm

open AudioReachPal.Lib

abbrev Tid := ℕ

/-- The methods of the stream that are run through a handle. -/
inductive StreamMethod where
  | open_
  | close
  | start
  | stop
  | getParameters
  | setParameters
  | getStreamAttributes
  | getStreamType
  | getAssociatedDevices
  | setCachedState
  | registerCallBack
  | notifyConcurrentStream
  | initStreamSmph
  | waitStreamSmph
  | postStreamSmph
  | deinitStreamSmph
  deriving DecidableEq, Repr

open StreamMethod

/-- What decides which methods an open and a close run. -/
structure HandleConfig where
  isStStream : Bool
  cb : Bool

def HandleConfig.notifies (cfg : HandleConfig) : List StreamMethod :=
  if cfg.isStStream then [] else [notifyConcurrentStream]

def HandleConfig.afterOpen (cfg : HandleConfig) : List StreamMethod :=
  getStreamAttributes :: cfg.notifies ++ if cfg.cb then [registerCallBack] else []

def HandleConfig.afterClose (cfg : HandleConfig) : List StreamMethod :=
  getStreamAttributes :: cfg.notifies

/-- The calls that are counted. -/
inductive CountedCall where
  | palStreamStart
  | palStreamStop
  | palStreamGetParam
  | palStreamSetParam
  deriving DecidableEq, Repr

/-- The methods that a call runs while it is a user. -/
def CountedCall.methods : CountedCall → List StreamMethod
  | .palStreamStart => [getStreamAttributes, getAssociatedDevices, start]
  | .palStreamStop => [getStreamAttributes, getAssociatedDevices, setCachedState, stop]
  | .palStreamGetParam => [getParameters]
  | .palStreamSetParam => [setParameters]

/-- Where a thread is; a list holds the methods still to run. -/
inductive Pc where
  | idle
  /-- In an open: before `open_` ends, after it failed, before the counter is set up. -/
  | opening
  | openFailed (ms : List StreamMethod)
  | opened (ms : List StreamMethod)
  /-- In a counted call: before the lock, at the wait with the lock, and counted as a user. -/
  | called (c : CountedCall)
  | waiting (c : CountedCall)
  | inUse (ms : List StreamMethod)
  /-- In a close: before the lock, after the check without the lock, at the wait, with the
  semaphore, after it is deinitialized, in `destroy`, and in the destructor. -/
  | closing
  | window (ms : List StreamMethod)
  | draining
  | drained
  | ending (ms : List StreamMethod)
  | destroying
  | deregistering
  deriving DecidableEq, Repr

/-- A method of the stream that only moves the thread on. -/
def Pc.runMethod (cfg : HandleConfig) : Pc → Option Pc
  | .opening => some (.opened cfg.afterOpen)
  | .openFailed (_ :: ms) => some (.openFailed ms)
  | .opened (_ :: ms) => some (.opened ms)
  | .inUse (_ :: ms) => some (.inUse ms)
  | .window (_ :: ms) => some (.window ms)
  | .ending (_ :: ms) => some (.ending ms)
  | _ => none

/-- The stream of a handle, what the resource manager has of it, and where the threads are. The
counter does not wrap: as many threads as it counts are in a call. -/
structure HandleState where
  created : Bool := false
  /-- The handle is with the client. -/
  published : Bool := false
  /-- The stream is in `mActiveStreams`. -/
  registered : Bool := false
  /-- The users, and whether the stream is active. -/
  mActiveStreamUserCounter : Option (ℕ × Bool) := none
  mInUse : Option ℕ := none
  mActiveStreamMutex : Option Tid := none
  /-- How often the stream was deleted. -/
  destroyed : ℕ := 0
  pc : Tid → Pc := fun _ => .idle

namespace HandleState

variable (cfg : HandleConfig) (σ : HandleState) (t : Tid)

def goto (p : Pc) : HandleState := { σ with pc := Function.update σ.pc t p }

/-- A step that locks is taken when no thread holds the lock. -/
def lockActiveStream (σ' : HandleState) : Option HandleState :=
  if σ.mActiveStreamMutex = none then some σ' else none

def initStreamUserCounter : HandleState :=
  { σ with
    mActiveStreamUserCounter := some (σ.mActiveStreamUserCounter.getD (0, true))
    mInUse := some 1 }

/-- The part under the lock; `none` is the error. -/
def deactivateStreamUserCounter : Option HandleState :=
  match σ.mActiveStreamUserCounter with
  | some (n, true) => some { σ with mActiveStreamUserCounter := some (n, false) }
  | _ => none

def eraseStreamUserCounter : HandleState := { σ with mActiveStreamUserCounter := none }

def decreaseStreamUserCounter : HandleState :=
  match σ.mActiveStreamUserCounter with
  | some (n + 1, active) =>
    { σ with
      mActiveStreamUserCounter := some (n, active)
      mInUse := if n = 0 then σ.mInUse.map (· + 1) else σ.mInUse }
  | _ => σ

/-- A counted call up to the wait: the first user keeps the lock. -/
def beginCounted (c : CountedCall) : HandleState :=
  if σ.registered then
    match σ.mActiveStreamUserCounter with
    | some (0, true) => { σ with mActiveStreamMutex := some t }.goto t (.waiting c)
    | some (n + 1, true) =>
      { σ with mActiveStreamUserCounter := some (n + 2, true) }.goto t (.inUse c.methods)
    | _ => σ.goto t .idle
  else σ.goto t .idle

/-- The first user takes the semaphore and is counted; then the lock is released. -/
def endWait (c : CountedCall) : Option HandleState :=
  match σ.mInUse, σ.mActiveStreamUserCounter with
  | some (k + 1), some (n, active) =>
    some ({ σ with mInUse := some k, mActiveStreamUserCounter := some (n + 1, active)
                   mActiveStreamMutex := none }.goto t (.inUse c.methods))
  | _, _ => none

/-- The next step of a thread that is in a call; `none` where it blocks. -/
def next : Option HandleState :=
  match (σ.pc t).runMethod cfg with
  | some p => some (σ.goto t p)
  | none =>
    match σ.pc t with
    | .idle | .opening => none
    | .openFailed _ => some (σ.goto t .destroying)
    | .opened _ =>
      σ.lockActiveStream ({ σ.initStreamUserCounter with published := true }.goto t .idle)
    | .called c => σ.lockActiveStream (σ.beginCounted t c)
    | .waiting c => σ.endWait t c
    | .inUse _ => σ.lockActiveStream (σ.decreaseStreamUserCounter.goto t .idle)
    | .closing => σ.lockActiveStream <|
      σ.goto t (if σ.registered then .window [setCachedState, close] else .idle)
    | .window _ => σ.lockActiveStream <|
      match σ.deactivateStreamUserCounter with
      | some σ' => σ'.goto t .draining
      -- the stream is being closed by another client
      | none => σ.goto t .idle
    | .draining =>
      match σ.mInUse with
      | some (k + 1) => some ({ σ with mInUse := some k }.goto t .drained)
      | _ => none
    | .drained => some ({ σ with mInUse := none }.goto t (.ending cfg.afterClose))
    | .ending _ => σ.lockActiveStream (σ.eraseStreamUserCounter.goto t .destroying)
    | .destroying => some ({ σ with destroyed := σ.destroyed + 1 }.goto t .deregistering)
    | .deregistering => σ.lockActiveStream ({ σ with registered := false }.goto t .idle)

/-- What a thread does: it begins a call, takes its next step, or its `open_` fails. -/
inductive Action where
  | palStreamOpen
  | counted (c : CountedCall)
  | palStreamClose
  | next
  | openFails
  deriving DecidableEq, Repr

/-- A step of a thread. There is one open of the stream, and the other calls have its handle. -/
def step (σ : HandleState) (i : Tid × Action) : Option HandleState :=
  match i.2 with
  | .palStreamOpen =>
    if σ.pc i.1 = .idle ∧ σ.created = false then
      some ({ σ with created := true, registered := true }.goto i.1 .opening)
    else none
  | .counted c =>
    if σ.pc i.1 = .idle ∧ σ.published = true then some (σ.goto i.1 (.called c)) else none
  | .palStreamClose =>
    if σ.pc i.1 = .idle ∧ σ.published = true then some (σ.goto i.1 .closing) else none
  | .next => σ.next cfg i.1
  | .openFails =>
    if σ.pc i.1 = .opening then some (σ.goto i.1 (.openFailed [close])) else none

end HandleState

/-- The method of the stream that a thread may run in its next step. The destructor is not one. -/
def Pc.method : Pc → Option StreamMethod
  | .idle | .called _ | .closing | .deregistering => none
  | .opening => some open_
  | .opened ms => some (ms.headD initStreamSmph)
  | .waiting _ => some waitStreamSmph
  | .inUse ms => some (ms.headD postStreamSmph)
  | .openFailed ms | .window ms | .ending ms => ms.head?
  | .draining => some waitStreamSmph
  | .drained => some deinitStreamSmph
  | .destroying => some getStreamType

/-! ### The life of a stream

A stream goes through phases, and the phase fixes all that is shared: the counter, the semaphore,
the lock, and which threads are counted or in the last part of a close.
-/

/-- What a thread is to the stream. -/
inductive Role where
  | outside
  | waiting
  | user
  | opener
  | draining
  | drained
  | ending
  | destroying
  | deregistering
  deriving DecidableEq, Repr

def Pc.role : Pc → Role
  | .idle | .called _ | .closing | .window _ => .outside
  | .opening | .openFailed _ | .opened _ => .opener
  | .waiting _ => .waiting
  | .inUse _ => .user
  | .draining => .draining
  | .drained => .drained
  | .ending _ => .ending
  | .destroying => .destroying
  | .deregistering => .deregistering

/-- The phases: before the open, in it, in use by some threads (the first one may be at the wait),
about to be closed while the last users run, closed but for its end, and deleted. -/
inductive Phase where
  | unopened
  | opening (w : Tid)
  | active (users : Finset Tid) (waiter : Option Tid)
  | draining (users : Finset Tid) (w : Tid)
  | drained (w : Tid)
  | ending (w : Tid)
  | destroying (w : Tid)
  | deregistering (w : Tid)
  | gone

/-- The one thread has the role, the others are outside. -/
def Role.only (r : Role) (w t : Tid) : Role := if t = w then r else .outside

def Phase.role : Phase → Tid → Role
  | .unopened, _ | .gone, _ => .outside
  | .opening w, t => Role.only .opener w t
  | .active users waiter, t =>
    if t ∈ users then .user else if waiter = some t then .waiting else .outside
  | .draining users w, t => if t ∈ users then .user else Role.only .draining w t
  | .drained w, t => Role.only .drained w t
  | .ending w, t => Role.only .ending w t
  | .destroying w, t => Role.only .destroying w t
  | .deregistering w, t => Role.only .deregistering w t

/-- The semaphore while no closer has taken it. -/
def freeUnless (users : Finset Tid) : ℕ := if users = ∅ then 1 else 0

/-- What is shared. -/
structure Shared where
  created : Bool
  registered : Bool
  mActiveStreamUserCounter : Option (ℕ × Bool)
  mInUse : Option ℕ
  mActiveStreamMutex : Option Tid
  destroyed : ℕ

def Phase.shared : Phase → Shared
  | .unopened => ⟨false, false, none, none, none, 0⟩
  | .opening _ => ⟨true, true, none, none, none, 0⟩
  | .active users waiter => ⟨true, true, some (users.card, true), some (freeUnless users), waiter, 0⟩
  | .draining users _ => ⟨true, true, some (users.card, false), some (freeUnless users), none, 0⟩
  | .drained _ => ⟨true, true, some (0, false), some 0, none, 0⟩
  | .ending _ => ⟨true, true, some (0, false), none, none, 0⟩
  | .destroying _ => ⟨true, true, none, none, none, 0⟩
  | .deregistering _ => ⟨true, true, none, none, none, 1⟩
  | .gone => ⟨true, false, none, none, none, 1⟩

/-- A thread waits only while there are no users, and the closer is not a user. -/
def Phase.Formed : Phase → Prop
  | .active users waiter => waiter.isSome → users = ∅
  | .draining users w => w ∉ users
  | _ => True

namespace HandleState

def shared (σ : HandleState) : Shared :=
  ⟨σ.created, σ.registered, σ.mActiveStreamUserCounter, σ.mInUse, σ.mActiveStreamMutex, σ.destroyed⟩

/-- The state is in the phase. -/
structure In (σ : HandleState) (p : Phase) : Prop where
  role : ∀ t, (σ.pc t).role = p.role t
  shared : σ.shared = p.shared
  formed : p.Formed

section Phases

variable {cfg : HandleConfig} {σ σ' : HandleState} {p p' : Phase} {t : Tid} {q : Pc}

/-- The phase that a role tells. -/
theorem In.of_role (h : σ.In p) (t : Tid) :
    match (σ.pc t).role with
    | .outside => True
    | .waiting => p = .active ∅ (some t)
    | .user => (∃ users, p = .active users none ∧ t ∈ users) ∨
        ∃ users w, p = .draining users w ∧ t ∈ users ∧ t ≠ w
    | .opener => p = .opening t
    | .draining => ∃ users, p = .draining users t ∧ t ∉ users
    | .drained => p = .drained t
    | .ending => p = .ending t
    | .destroying => p = .destroying t
    | .deregistering => p = .deregistering t := by
  have hformed := h.formed
  rw [h.role t]
  cases p with
  | unopened => trivial
  | gone => trivial
  | active users waiter =>
    simp only [Phase.role]
    by_cases ht : t ∈ users
    · -- a user leaves no thread to wait
      rw [if_pos ht]
      cases waiter with
      | none => exact Or.inl ⟨users, rfl, ht⟩
      | some u =>
        obtain rfl := hformed rfl
        exact absurd ht (Finset.notMem_empty t)
    · rw [if_neg ht]
      by_cases hw : waiter = some t
      · subst hw
        obtain rfl := hformed rfl
        rw [if_pos rfl]
      · rw [if_neg hw]
        trivial
  | draining users w =>
    simp only [Phase.role, Role.only]
    by_cases ht : t ∈ users
    · rw [if_pos ht]
      refine Or.inr ⟨users, w, rfl, ht, ?_⟩
      rintro rfl
      exact hformed ht
    · rw [if_neg ht]
      by_cases hw : t = w
      · subst hw
        rw [if_pos rfl]
        exact ⟨users, rfl, ht⟩
      · rw [if_neg hw]
        trivial
  | opening w | drained w | ending w | destroying w | deregistering w =>
    simp only [Phase.role, Role.only]
    by_cases hw : t = w
    · subst hw
      rw [if_pos rfl]
    · rw [if_neg hw]
      trivial

/-- A thread goes on and the phase becomes another. -/
theorem In.move (h : σ.In p) (hpc : σ'.pc = Function.update σ.pc t q)
    (hrole : ∀ u, p'.role u = if u = t then q.role else p.role u)
    (hshared : σ'.shared = p'.shared) (hformed : p'.Formed) : σ'.In p' where
  role u := by
    rw [hpc, hrole]
    by_cases hu : u = t
    · rw [if_pos hu, hu, Function.update_self]
    · rw [if_neg hu, Function.update_of_ne hu, h.role u]
  shared := hshared
  formed := hformed

/-- A thread goes on in the same role. -/
theorem In.stay (h : σ.In p) (hq : q.role = (σ.pc t).role) : (σ.goto t q).In p := by
  refine h.move rfl (fun u => ?_) h.shared h.formed
  by_cases hu : u = t
  · rw [if_pos hu, hu, hq, h.role t]
  · rw [if_neg hu]

theorem lockActiveStream_eq_some {τ : HandleState} (h : σ.lockActiveStream τ = some σ') :
    σ.mActiveStreamMutex = none ∧ τ = σ' := by
  unfold lockActiveStream at h
  split_ifs at h with hlock
  cases h
  exact ⟨hlock, rfl⟩

/-- The open sets the counter up. -/
theorem init_in (h : σ.In (.opening t)) :
    ({ σ.initStreamUserCounter with published := true }.goto t .idle).In (.active ∅ none) := by
  have hcounter : σ.mActiveStreamUserCounter = none :=
    congrArg Shared.mActiveStreamUserCounter h.shared
  refine h.move rfl (fun u => ?_) ?_ (by simp [Phase.Formed])
  · by_cases hu : u = t <;> simp [Phase.role, Role.only, Pc.role, hu]
  · change { σ.shared with
      mActiveStreamUserCounter := some (σ.mActiveStreamUserCounter.getD (0, true))
      mInUse := some 1 } = _
    rw [h.shared, hcounter]
    rfl

theorem beginCounted_of_first (hreg : σ.registered = true)
    (hcounter : σ.mActiveStreamUserCounter = some (0, true)) (c : CountedCall) :
    σ.beginCounted t c = { σ with mActiveStreamMutex := some t }.goto t (.waiting c) := by
  unfold beginCounted
  rw [if_pos hreg]
  split <;> simp_all

theorem beginCounted_of_users {n : ℕ} (hreg : σ.registered = true)
    (hcounter : σ.mActiveStreamUserCounter = some (n + 1, true)) (c : CountedCall) :
    σ.beginCounted t c =
      { σ with mActiveStreamUserCounter := some (n + 2, true) }.goto t (.inUse c.methods) := by
  unfold beginCounted
  rw [if_pos hreg]
  split <;> simp_all

theorem beginCounted_of_inactive (hcounter : ∀ n, σ.mActiveStreamUserCounter ≠ some (n, true))
    (c : CountedCall) : σ.beginCounted t c = σ.goto t .idle := by
  unfold beginCounted
  split_ifs
  · split
    next heq => exact absurd heq (hcounter _)
    next heq => exact absurd heq (hcounter _)
    next => rfl
  · rfl

/-- A counted call that finds the stream active is counted, or waits with the lock. -/
theorem beginCounted_active {users : Finset Tid} (h : σ.In (.active users none)) (ht : t ∉ users)
    (c : CountedCall) : ∃ p', (σ.beginCounted t c).In p' := by
  have hreg : σ.registered = true := congrArg Shared.registered h.shared
  have hcounter : σ.mActiveStreamUserCounter = some (users.card, true) :=
    congrArg Shared.mActiveStreamUserCounter h.shared
  cases hcard : users.card with
  | zero =>
    -- the first user
    obtain rfl := Finset.card_eq_zero.mp hcard
    rw [beginCounted_of_first hreg hcounter]
    refine ⟨.active ∅ (some t), h.move rfl (fun u => ?_) ?_ fun _ => rfl⟩
    · by_cases hu : u = t
      · simp [Phase.role, Pc.role, hu]
      · simp [Phase.role, Ne.symm hu, hu]
    · change { σ.shared with mActiveStreamMutex := some t } = _
      rw [h.shared]
      rfl
  | succ n =>
    rw [hcard] at hcounter
    rw [beginCounted_of_users hreg hcounter]
    have hne : users ≠ ∅ := Finset.card_ne_zero.mp (by omega) |>.ne_empty
    refine ⟨.active (insert t users) none, h.move rfl (fun u => ?_) ?_ (by simp [Phase.Formed])⟩
    · by_cases hu : u = t <;> simp [Phase.role, Pc.role, hu]
    · change { σ.shared with mActiveStreamUserCounter := some (n + 2, true) } = _
      rw [h.shared]
      simp [Phase.shared, freeUnless, Finset.card_insert_of_notMem ht, hcard, hne]

theorem endWait_in (h : σ.In (.active ∅ (some t))) {c : CountedCall}
    (hstep : σ.endWait t c = some σ') : σ'.In (.active {t} none) := by
  have hcounter : σ.mActiveStreamUserCounter = some (0, true) :=
    congrArg Shared.mActiveStreamUserCounter h.shared
  have hsem : σ.mInUse = some 1 := congrArg Shared.mInUse h.shared
  unfold endWait at hstep
  split at hstep
  next k n active hk hn =>
    rw [hsem] at hk
    rw [hcounter] at hn
    cases hk
    cases hn
    cases hstep
    refine h.move rfl (fun u => ?_) ?_ (by simp [Phase.Formed])
    · by_cases hu : u = t
      · simp [Phase.role, Pc.role, hu]
      · simp [Phase.role, hu, Ne.symm hu]
    · change { σ.shared with
        mInUse := some 0
        mActiveStreamUserCounter := some (1, true)
        mActiveStreamMutex := none } = _
      rw [h.shared]
      rfl
  next => cases hstep

theorem decreaseStreamUserCounter_of_succ {n : ℕ} {active : Bool}
    (hcounter : σ.mActiveStreamUserCounter = some (n + 1, active)) :
    σ.decreaseStreamUserCounter =
      { σ with
        mActiveStreamUserCounter := some (n, active)
        mInUse := if n = 0 then σ.mInUse.map (· + 1) else σ.mInUse } := by
  unfold decreaseStreamUserCounter
  split <;> simp_all

/-- The last user posts. -/
theorem freeUnless_erase {users : Finset Tid} (ht : t ∈ users) :
    (if users.card - 1 = 0 then (some (freeUnless users)).map (· + 1) else some (freeUnless users)) =
      some (freeUnless (users.erase t)) := by
  have hne : users ≠ ∅ := Finset.ne_empty_of_mem ht
  have hcard : (users.erase t).card = users.card - 1 := Finset.card_erase_of_mem ht
  have hlast : users.erase t = ∅ ↔ users.card - 1 = 0 := by rw [← hcard, Finset.card_eq_zero]
  simp only [freeUnless, if_neg hne, hlast]
  split <;> rfl

theorem decrease_move {users : Finset Tid} {active : Bool} (h : σ.In p) (ht : t ∈ users)
    (hcounter : σ.mActiveStreamUserCounter = some (users.card, active))
    (hsem : σ.mInUse = some (freeUnless users))
    (hrole : ∀ u, p'.role u = if u = t then .outside else p.role u)
    (hshared : p'.shared = { p.shared with
      mActiveStreamUserCounter := some ((users.erase t).card, active)
      mInUse := some (freeUnless (users.erase t)) })
    (hformed : p'.Formed) : (σ.decreaseStreamUserCounter.goto t .idle).In p' := by
  have hcard : users.card = (users.card - 1) + 1 := by
    have := Finset.card_pos.mpr ⟨t, ht⟩
    omega
  rw [hcard] at hcounter
  rw [decreaseStreamUserCounter_of_succ hcounter, hsem, freeUnless_erase ht]
  refine h.move rfl hrole ?_ hformed
  rw [hshared, ← h.shared, Finset.card_erase_of_mem ht]
  rfl

/-- A user leaves. -/
theorem decrease_in (h : σ.In p) (hrole : (σ.pc t).role = .user) :
    ∃ p', (σ.decreaseStreamUserCounter.goto t .idle).In p' := by
  have hphase := h.of_role t
  rw [hrole] at hphase
  rcases hphase with ⟨users, rfl, ht⟩ | ⟨users, w, rfl, ht, hw⟩
  · refine ⟨.active (users.erase t) none, decrease_move h ht
      (congrArg Shared.mActiveStreamUserCounter h.shared) (congrArg Shared.mInUse h.shared)
      (fun u => ?_) rfl (by simp [Phase.Formed])⟩
    by_cases hu : u = t <;> simp [Phase.role, hu]
  · refine ⟨.draining (users.erase t) w, decrease_move h ht
      (congrArg Shared.mActiveStreamUserCounter h.shared) (congrArg Shared.mInUse h.shared)
      (fun u => ?_) rfl fun hmem => h.formed (Finset.mem_of_mem_erase hmem)⟩
    by_cases hu : u = t
    · simp [Phase.role, Role.only, hu, hw]
    · simp [Phase.role, hu]

theorem deactivate_of_active {n : ℕ} (hcounter : σ.mActiveStreamUserCounter = some (n, true)) :
    σ.deactivateStreamUserCounter = some { σ with mActiveStreamUserCounter := some (n, false) } := by
  unfold deactivateStreamUserCounter
  split <;> simp_all

theorem deactivate_of_inactive (hcounter : ∀ n, σ.mActiveStreamUserCounter ≠ some (n, true)) :
    σ.deactivateStreamUserCounter = none := by
  unfold deactivateStreamUserCounter
  split
  next n heq => exact absurd heq (hcounter n)
  next => rfl

/-- A stream whose counter says that it is active is, and while no thread waits nothing holds the
lock. -/
theorem In.active_of_counter (h : σ.In p) {n : ℕ} (hlock : σ.mActiveStreamMutex = none)
    (hcounter : σ.mActiveStreamUserCounter = some (n, true)) :
    ∃ users, p = .active users none := by
  have hc : p.shared.mActiveStreamUserCounter = some (n, true) := h.shared ▸ hcounter
  have hl : p.shared.mActiveStreamMutex = none := h.shared ▸ hlock
  cases p with
  | active users waiter =>
    obtain rfl : waiter = none := hl
    exact ⟨users, rfl⟩
  | _ => simp [Phase.shared] at hc

theorem In.notMem_of_outside {users : Finset Tid} {waiter : Option Tid}
    (h : σ.In (.active users waiter)) (hout : (σ.pc t).role = .outside) : t ∉ users := by
  intro ht
  rw [h.role t] at hout
  simp [Phase.role, ht] at hout

theorem deactivate_in {users : Finset Tid} (h : σ.In (.active users none)) (ht : t ∉ users) :
    ({ σ with mActiveStreamUserCounter := some (users.card, false) }.goto t .draining).In
      (.draining users t) := by
  refine h.move rfl (fun u => ?_) ?_ ht
  · by_cases hu : u = t
    · simp [Phase.role, Role.only, Pc.role, hu, ht]
    · simp [Phase.role, Role.only, hu]
  · change { σ.shared with mActiveStreamUserCounter := some (users.card, false) } = _
    rw [h.shared]
    rfl

/-- The closer takes the semaphore when there is no user. -/
theorem drain_in {users : Finset Tid} {k : ℕ} (h : σ.In (.draining users t))
    (hsem : σ.mInUse = some (k + 1)) :
    ({ σ with mInUse := some k }.goto t .drained).In (.drained t) := by
  have hfree : some (freeUnless users) = some (k + 1) :=
    (congrArg Shared.mInUse h.shared).symm.trans hsem
  obtain ⟨rfl, rfl⟩ : users = ∅ ∧ k = 0 := by
    unfold freeUnless at hfree
    split_ifs at hfree with hempty
    · exact ⟨hempty, by simpa using hfree.symm⟩
    · simp at hfree
  refine h.move rfl (fun u => ?_) ?_ trivial
  · by_cases hu : u = t <;> simp [Phase.role, Role.only, Pc.role, hu]
  · change { σ.shared with mInUse := some 0 } = _
    rw [h.shared]
    rfl

/-- The phases with one thread inside follow each other. -/
theorem In.advance {r r' : Role} (h : σ.In p) (hpc : σ'.pc = Function.update σ.pc t q)
    (hr : ∀ u, p.role u = r.only t u) (hr' : ∀ u, p'.role u = r'.only t u) (hq : q.role = r')
    (hshared : σ'.shared = p'.shared) (hformed : p'.Formed) : σ'.In p' := by
  refine h.move hpc (fun u => ?_) hshared hformed
  rw [hr', hr]
  by_cases hu : u = t <;> simp [Role.only, hu, hq]

theorem role_of_runMethod {q' : Pc} (h : q.runMethod cfg = some q') : q'.role = q.role := by
  unfold Pc.runMethod at h
  split at h <;> cases h <;> rfl

/-- What the next step of a thread can be. -/
inductive NextStep (cfg : HandleConfig) (σ : HandleState) (t : Tid) : HandleState → Prop
  | method (q : Pc) (hq : (σ.pc t).runMethod cfg = some q) : NextStep cfg σ t (σ.goto t q)
  | failed (ms : List StreamMethod) (hpc : σ.pc t = .openFailed ms) :
      NextStep cfg σ t (σ.goto t .destroying)
  | init (ms : List StreamMethod) (hpc : σ.pc t = .opened ms) :
      NextStep cfg σ t ({ σ.initStreamUserCounter with published := true }.goto t .idle)
  | counted (c : CountedCall) (hpc : σ.pc t = .called c) (hlock : σ.mActiveStreamMutex = none) :
      NextStep cfg σ t (σ.beginCounted t c)
  | waited (c : CountedCall) (hpc : σ.pc t = .waiting c) (σ' : HandleState)
      (hwait : σ.endWait t c = some σ') : NextStep cfg σ t σ'
  | leaves (ms : List StreamMethod) (hpc : σ.pc t = .inUse ms) :
      NextStep cfg σ t (σ.decreaseStreamUserCounter.goto t .idle)
  | checked (hpc : σ.pc t = .closing) (hreg : σ.registered = true) :
      NextStep cfg σ t (σ.goto t (.window [setCachedState, close]))
  | refused (hpc : σ.pc t = .closing) : NextStep cfg σ t (σ.goto t .idle)
  | deactivated (ms : List StreamMethod) (n : ℕ) (hpc : σ.pc t = .window ms)
      (hlock : σ.mActiveStreamMutex = none)
      (hcounter : σ.mActiveStreamUserCounter = some (n, true)) :
      NextStep cfg σ t
        ({ σ with mActiveStreamUserCounter := some (n, false) }.goto t .draining)
  | overtaken (ms : List StreamMethod) (hpc : σ.pc t = .window ms) :
      NextStep cfg σ t (σ.goto t .idle)
  | drained (k : ℕ) (hpc : σ.pc t = .draining) (hsem : σ.mInUse = some (k + 1)) :
      NextStep cfg σ t ({ σ with mInUse := some k }.goto t .drained)
  | deinit (hpc : σ.pc t = .drained) :
      NextStep cfg σ t ({ σ with mInUse := none }.goto t (.ending cfg.afterClose))
  | erased (ms : List StreamMethod) (hpc : σ.pc t = .ending ms) :
      NextStep cfg σ t (σ.eraseStreamUserCounter.goto t .destroying)
  | destroyed (hpc : σ.pc t = .destroying) :
      NextStep cfg σ t ({ σ with destroyed := σ.destroyed + 1 }.goto t .deregistering)
  | deregistered (hpc : σ.pc t = .deregistering) :
      NextStep cfg σ t ({ σ with registered := false }.goto t .idle)

theorem nextStep_of_next (hstep : σ.next cfg t = some σ') : NextStep cfg σ t σ' := by
  unfold next at hstep
  split at hstep
  next q hq =>
    cases hstep
    exact .method q hq
  next =>
    split at hstep
    next => cases hstep
    next => cases hstep
    next ms hpc => cases hstep; exact .failed ms hpc
    next ms hpc =>
      obtain ⟨-, rfl⟩ := lockActiveStream_eq_some hstep
      exact .init ms hpc
    next c hpc =>
      obtain ⟨hlock, rfl⟩ := lockActiveStream_eq_some hstep
      exact .counted c hpc hlock
    next c hpc => exact .waited c hpc σ' hstep
    next ms hpc =>
      obtain ⟨-, rfl⟩ := lockActiveStream_eq_some hstep
      exact .leaves ms hpc
    next hpc =>
      obtain ⟨-, rfl⟩ := lockActiveStream_eq_some hstep
      split
      next hreg => exact .checked hpc hreg
      next => exact .refused hpc
    next ms hpc =>
      obtain ⟨hlock, rfl⟩ := lockActiveStream_eq_some hstep
      by_cases hactive : ∃ n, σ.mActiveStreamUserCounter = some (n, true)
      · obtain ⟨n, hcounter⟩ := hactive
        rw [deactivate_of_active hcounter]
        exact .deactivated ms n hpc hlock hcounter
      · push Not at hactive
        rw [deactivate_of_inactive hactive]
        exact .overtaken ms hpc
    next hpc =>
      split at hstep
      next k hk => cases hstep; exact .drained k hpc hk
      next => cases hstep
    next hpc => cases hstep; exact .deinit hpc
    next ms hpc =>
      obtain ⟨-, rfl⟩ := lockActiveStream_eq_some hstep
      exact .erased ms hpc
    next hpc => cases hstep; exact .destroyed hpc
    next hpc =>
      obtain ⟨-, rfl⟩ := lockActiveStream_eq_some hstep
      exact .deregistered hpc

/-- A step of a call takes the stream from phase to phase. -/
theorem NextStep.in (h : σ.In p) (hstep : NextStep cfg σ t σ') : ∃ p', σ'.In p' := by
  have hphase := h.of_role t
  cases hstep with
  | method q hq => exact ⟨p, h.stay (role_of_runMethod hq)⟩
  | failed ms hpc =>
    rw [hpc] at hphase
    obtain rfl := hphase
    exact ⟨.destroying t, h.advance rfl (fun _ => rfl) (fun _ => rfl) rfl h.shared trivial⟩
  | init ms hpc =>
    rw [hpc] at hphase
    obtain rfl := hphase
    exact ⟨_, init_in h⟩
  | counted c hpc hlock =>
    by_cases hactive : ∃ n, σ.mActiveStreamUserCounter = some (n, true)
    · obtain ⟨n, hcounter⟩ := hactive
      obtain ⟨users, rfl⟩ := h.active_of_counter hlock hcounter
      exact beginCounted_active h (h.notMem_of_outside (by rw [hpc]; rfl)) c
    · push Not at hactive
      rw [beginCounted_of_inactive hactive]
      exact ⟨p, h.stay (by rw [hpc]; rfl)⟩
  | waited c hpc _ hwait =>
    rw [hpc] at hphase
    obtain rfl := hphase
    exact ⟨_, endWait_in h hwait⟩
  | leaves ms hpc => exact decrease_in h (by rw [hpc]; rfl)
  | checked hpc hreg => exact ⟨p, h.stay (by rw [hpc]; rfl)⟩
  | refused hpc => exact ⟨p, h.stay (by rw [hpc]; rfl)⟩
  | deactivated ms n hpc hlock hcounter =>
    obtain ⟨users, rfl⟩ := h.active_of_counter hlock hcounter
    obtain rfl : users.card = n := by
      simpa [Phase.shared] using
        (congrArg Shared.mActiveStreamUserCounter h.shared).symm.trans hcounter
    exact ⟨_, deactivate_in h (h.notMem_of_outside (by rw [hpc]; rfl))⟩
  | overtaken ms hpc => exact ⟨p, h.stay (by rw [hpc]; rfl)⟩
  | drained k hpc hsem =>
    rw [hpc] at hphase
    obtain ⟨users, rfl, -⟩ := hphase
    exact ⟨_, drain_in h hsem⟩
  | deinit hpc =>
    rw [hpc] at hphase
    obtain rfl := hphase
    refine ⟨.ending t, h.advance rfl (fun _ => rfl) (fun _ => rfl) rfl ?_ trivial⟩
    change { σ.shared with mInUse := none } = _
    rw [h.shared]
    rfl
  | erased ms hpc =>
    rw [hpc] at hphase
    obtain rfl := hphase
    refine ⟨.destroying t, h.advance rfl (fun _ => rfl) (fun _ => rfl) rfl ?_ trivial⟩
    change { σ.shared with mActiveStreamUserCounter := none } = _
    rw [h.shared]
    rfl
  | destroyed hpc =>
    rw [hpc] at hphase
    obtain rfl := hphase
    have hdestroyed : σ.destroyed = 0 := congrArg Shared.destroyed h.shared
    refine ⟨.deregistering t, h.advance rfl (fun _ => rfl) (fun _ => rfl) rfl ?_ trivial⟩
    change { σ.shared with destroyed := σ.destroyed + 1 } = _
    rw [h.shared, hdestroyed]
    rfl
  | deregistered hpc =>
    rw [hpc] at hphase
    obtain rfl := hphase
    refine ⟨.gone, h.move rfl (fun u => ?_) ?_ trivial⟩
    · by_cases hu : u = t <;> simp [Phase.role, Role.only, Pc.role, hu]
    · change { σ.shared with registered := false } = _
      rw [h.shared]
      rfl

theorem init_in_unopened : ({} : HandleState).In .unopened := ⟨fun _ => rfl, rfl, trivial⟩

/-- The one open begins. -/
theorem open_in (h : σ.In p) (hcreated : σ.created = false) :
    ({ σ with created := true, registered := true }.goto t .opening).In (.opening t) := by
  have hp : p.shared.created = false := h.shared ▸ hcreated
  obtain rfl : p = .unopened := by cases p <;> first | rfl | cases hp
  refine h.move rfl (fun u => ?_) ?_ trivial
  · by_cases hu : u = t <;> simp [Phase.role, Role.only, Pc.role, hu]
  · change { σ.shared with created := true, registered := true } = _
    rw [h.shared]
    rfl

theorem step_in {i : Tid × Action} (h : σ.In p) (hstep : step cfg σ i = some σ') :
    ∃ p', σ'.In p' := by
  obtain ⟨t, a⟩ := i
  unfold step at hstep
  cases a with
  | palStreamOpen =>
    simp only at hstep
    split_ifs at hstep with hopen
    cases hstep
    exact ⟨_, open_in h hopen.2⟩
  | counted c =>
    simp only at hstep
    split_ifs at hstep with hidle
    cases hstep
    exact ⟨p, h.stay (by rw [hidle.1]; rfl)⟩
  | palStreamClose =>
    simp only at hstep
    split_ifs at hstep with hidle
    cases hstep
    exact ⟨p, h.stay (by rw [hidle.1]; rfl)⟩
  | next => exact (nextStep_of_next hstep).in h
  | openFails =>
    simp only at hstep
    split_ifs at hstep with hpc
    cases hstep
    exact ⟨p, h.stay (by rw [hpc]; rfl)⟩

theorem run_in {is : List (Tid × Action)} (hrun : run (step cfg) {} is = some σ) :
    ∃ p, σ.In p := by
  have hstep : ∀ (σ : HandleState) i σ', (∃ p, σ.In p) → step cfg σ i = some σ' →
      ∃ p', σ'.In p' := fun σ i σ' ⟨p, h⟩ hstep => step_in h hstep
  exact run_invariant hstep ⟨_, init_in_unopened⟩ hrun

/-! ### What a phase says -/

/-- But in the window of a close, no method runs after the stream is deleted. -/
theorem In.destroyed_eq_zero (h : σ.In p) {m : StreamMethod} (hm : (σ.pc t).method = some m)
    (hwindow : ∀ ms, σ.pc t ≠ .window ms) : σ.destroyed = 0 := by
  have hphase := h.of_role t
  have hdestroyed : σ.destroyed = p.shared.destroyed := congrArg Shared.destroyed h.shared
  rw [hdestroyed]
  cases hpc : σ.pc t with
  | idle | called | closing | deregistering =>
    rw [hpc] at hm
    cases hm
  | window ms => exact absurd hpc (hwindow ms)
  | inUse ms =>
    rw [hpc] at hphase
    rcases hphase with ⟨users, rfl, -⟩ | ⟨users, w, rfl, -⟩ <;> rfl
  | draining =>
    rw [hpc] at hphase
    obtain ⟨users, rfl, -⟩ := hphase
    rfl
  | opening | openFailed ms | opened ms | waiting c | drained | ending ms | destroying =>
    rw [hpc] at hphase
    obtain rfl := hphase
    rfl

theorem In.destroyed_le_one (h : σ.In p) : σ.destroyed ≤ 1 := by
  have hdestroyed : σ.destroyed = p.shared.destroyed := congrArg Shared.destroyed h.shared
  rw [hdestroyed]
  cases p <;> simp [Phase.shared]

/-- The wait of the first user does not block. -/
theorem In.mInUse_of_waiting (h : σ.In p) {c : CountedCall} (hpc : σ.pc t = .waiting c) :
    σ.mInUse = some 1 := by
  have hphase := h.of_role t
  rw [hpc] at hphase
  obtain rfl := hphase
  exact congrArg Shared.mInUse h.shared

/-- The semaphore is free exactly when there is no user and the closer has not taken it. -/
theorem In.mInUse_iff (h : σ.In p) {k : ℕ} (hsem : σ.mInUse = some k) :
    k ≤ 1 ∧ (k = 1 ↔ (∃ active, σ.mActiveStreamUserCounter = some (0, active)) ∧
      ∀ t, σ.pc t ≠ .drained) := by
  have hk : p.shared.mInUse = some k := h.shared ▸ hsem
  have hcounter : σ.mActiveStreamUserCounter = p.shared.mActiveStreamUserCounter :=
    congrArg Shared.mActiveStreamUserCounter h.shared
  rw [hcounter]
  have hdrained : ∀ t, σ.pc t = .drained → p = .drained t := by
    intro t hpc
    have hphase := h.of_role t
    rw [hpc] at hphase
    exact hphase
  have hfree : ∀ users : Finset Tid, freeUnless users ≤ 1 ∧
      (freeUnless users = 1 ↔ users.card = 0) := by
    intro users
    unfold freeUnless
    rw [Finset.card_eq_zero]
    split_ifs with hempty <;> simp [hempty]
  cases p with
  | active users waiter =>
    obtain rfl : freeUnless users = k := by simpa [Phase.shared] using hk
    refine ⟨(hfree users).1, (hfree users).2.trans ?_⟩
    have hnone : ∀ t, σ.pc t ≠ .drained := fun t ht => by cases hdrained t ht
    simp [Phase.shared, hnone]
  | draining users w =>
    obtain rfl : freeUnless users = k := by simpa [Phase.shared] using hk
    refine ⟨(hfree users).1, (hfree users).2.trans ?_⟩
    have hnone : ∀ t, σ.pc t ≠ .drained := fun t ht => by cases hdrained t ht
    simp [Phase.shared, hnone]
  | drained w =>
    obtain rfl : 0 = k := by simpa [Phase.shared] using hk
    refine ⟨Nat.zero_le 1, ?_⟩
    have hw : σ.pc w = .drained := by
      have hrole := h.role w
      simp only [Phase.role, Role.only, if_true] at hrole
      cases hpc : σ.pc w <;> simp_all [Pc.role]
    constructor
    · intro hone
      cases hone
    · rintro ⟨-, hnone⟩
      exact absurd hw (hnone w)
  | _ => simp [Phase.shared] at hk

end Phases

end HandleState

/-! ### One close at a time -/

/-- The thread is in a close, after the check. -/
def Pc.inClose : Pc → Prop
  | .window _ | .draining | .drained | .ending _ | .destroying | .deregistering => True
  | _ => False

namespace HandleState

/-- A close makes its check while no other one is between its check and its end. -/
def oneClose (σ : HandleState) (i : Tid × Action) : Prop :=
  i.2 = .next → σ.pc i.1 = .closing → ∀ u, u ≠ i.1 → ¬(σ.pc u).inClose

section OneClose

variable {cfg : HandleConfig} {σ σ' : HandleState} {p : Phase} {t : Tid} {q : Pc}

/-- A close in its window is the only one, and the stream is active. -/
structure Alone (σ : HandleState) : Prop where
  published : ∀ t, σ.pc t = .closing ∨ (∃ ms, σ.pc t = .window ms) → σ.published = true
  opened : σ.published = true → σ.created = true ∧ ∀ t, (σ.pc t).role ≠ .opener
  active : ∀ t ms, σ.pc t = .window ms → ∃ n, σ.mActiveStreamUserCounter = some (n, true)
  alone : ∀ t ms u, σ.pc t = .window ms → (σ.pc u).inClose → u = t

/-- The stream stays active. -/
def KeepsActive (σ σ' : HandleState) : Prop :=
  (∃ n, σ.mActiveStreamUserCounter = some (n, true)) →
    ∃ n, σ'.mActiveStreamUserCounter = some (n, true)

theorem Alone.move (h : Alone σ) (hpc : σ'.pc = Function.update σ.pc t q)
    (hpublished : σ'.published = σ.published) (hcreated : σ'.created = σ.created)
    (hopener : q.role = .opener → (σ.pc t).role = .opener)
    (hclosing : q = .closing ∨ (∃ ms, q = .window ms) → σ.published = true)
    (hactive : (∃ u ms, σ'.pc u = .window ms) → KeepsActive σ σ')
    (hwindow : ∀ ms, q = .window ms →
      (∃ n, σ.mActiveStreamUserCounter = some (n, true)) ∧ ∀ u, u ≠ t → ¬(σ.pc u).inClose)
    (hclose : q.inClose → (σ.pc t).inClose ∨ (∀ u, u ≠ t → ∀ ms, σ.pc u ≠ .window ms)) :
    Alone σ' := by
  have hself : σ'.pc t = q := by rw [hpc, Function.update_self]
  have hother : ∀ u, u ≠ t → σ'.pc u = σ.pc u := fun u hu => by
    rw [hpc, Function.update_of_ne hu]
  refine ⟨fun u hu => ?_, fun hpub => ⟨?_, fun u => ?_⟩, fun u ms hu => ?_, fun u ms v hu hv => ?_⟩
  · rw [hpublished]
    by_cases hut : u = t
    · subst hut
      exact hclosing (hself ▸ hu)
    · rw [hother u hut] at hu
      exact h.published u hu
  · rw [hcreated]
    exact (h.opened (hpublished ▸ hpub)).1
  · by_cases hut : u = t
    · subst hut
      rw [hself]
      exact fun hrole => (h.opened (hpublished ▸ hpub)).2 u (hopener hrole)
    · rw [hother u hut]
      exact (h.opened (hpublished ▸ hpub)).2 u
  · refine hactive ⟨u, ms, hu⟩ ?_
    by_cases hut : u = t
    · subst hut
      exact (hwindow ms (hself ▸ hu)).1
    · exact h.active u ms (hother u hut ▸ hu)
  · by_cases hut : u = t
    · subst hut
      by_contra hvu
      rw [hother v hvu] at hv
      exact (hwindow ms (hself ▸ hu)).2 v hvu hv
    · rw [hother u hut] at hu
      by_cases hvt : v = t
      · subst hvt
        rcases hclose (hself ▸ hv) with hold | hnone
        · exact h.alone u ms v hu hold
        · exact absurd hu (hnone u hut ms)
      · rw [hother v hvt] at hv
        exact h.alone u ms v hu hv

/-- A thread goes where it is in no open or close, and the stream stays active. -/
inductive Calm (σ : HandleState) (t : Tid) (σ' : HandleState) : Prop
  | mk (q : Pc) (hpc : σ'.pc = Function.update σ.pc t q) (hpublished : σ'.published = σ.published)
      (hcreated : σ'.created = σ.created) (hactive : KeepsActive σ σ') (hclose : ¬q.inClose)
      (hclosing : q ≠ .closing) (hopener : q.role ≠ .opener) : Calm σ t σ'

theorem Alone.calm (h : Alone σ) (hcalm : Calm σ t σ') : Alone σ' := by
  obtain ⟨q, hpc, hpublished, hcreated, hactive, hclose, hclosing, hopener⟩ := hcalm
  have hwindow : ∀ ms, q ≠ .window ms := by
    rintro ms rfl
    exact hclose trivial
  refine h.move hpc hpublished hcreated (fun he => absurd he hopener) ?_ (fun _ => hactive)
    (fun ms he => absurd he (hwindow ms)) fun he => absurd he hclose
  rintro (he | ⟨ms, he⟩)
  · exact absurd he hclosing
  · exact absurd he (hwindow ms)

theorem calm_idle : Calm σ t (σ.goto t .idle) :=
  .mk .idle rfl rfl rfl id (fun he => he) (by simp) (by simp [Pc.role])

theorem calm_beginCounted (c : CountedCall) : Calm σ t (σ.beginCounted t c) := by
  unfold beginCounted
  split_ifs
  · split
    next => exact .mk (.waiting c) rfl rfl rfl id (fun he => he) (by simp) (by simp [Pc.role])
    next n _ =>
      exact .mk (.inUse c.methods) rfl rfl rfl (fun _ => ⟨n + 2, rfl⟩) (fun he => he) (by simp)
        (by simp [Pc.role])
    next => exact calm_idle
  · exact calm_idle

theorem calm_endWait {c : CountedCall} (hwait : σ.endWait t c = some σ') : Calm σ t σ' := by
  unfold endWait at hwait
  split at hwait
  next k n active _ hn =>
    cases hwait
    refine .mk (.inUse c.methods) rfl rfl rfl ?_ (fun he => he) (by simp) (by simp [Pc.role])
    rintro ⟨m, hm⟩
    rw [hn] at hm
    cases hm
    exact ⟨_, rfl⟩
  next => cases hwait

theorem calm_decrease : Calm σ t (σ.decreaseStreamUserCounter.goto t .idle) := by
  unfold decreaseStreamUserCounter
  split
  next n active hn =>
    refine .mk .idle rfl rfl rfl ?_ (fun he => he) (by simp) (by simp [Pc.role])
    rintro ⟨m, hm⟩
    rw [hn] at hm
    cases hm
    exact ⟨_, rfl⟩
  next => exact calm_idle

/-- A close that goes on past its window. -/
theorem Alone.finish (h : Alone σ) (hpc : σ'.pc = Function.update σ.pc t q)
    (hpublished : σ'.published = σ.published) (hcreated : σ'.created = σ.created)
    (hold : (σ.pc t).inClose) (hq : q.role ≠ .opener ∧ q.role ≠ .outside) : Alone σ' := by
  have hne : ∀ q' : Pc, q'.role = .outside → q ≠ q' := by
    rintro q' hq' rfl
    exact hq.2 hq'
  refine h.move hpc hpublished hcreated (fun he => absurd he hq.1) ?_ ?_ ?_ fun _ => Or.inl hold
  · rintro (he | ⟨ms, he⟩)
    · exact absurd he (hne _ rfl)
    · exact absurd he (hne _ rfl)
  · -- the others are not in their windows
    rintro ⟨u, ms, hu⟩
    by_cases hut : u = t
    · rw [hut, hpc, Function.update_self] at hu
      exact absurd hu (hne _ rfl)
    · rw [hpc, Function.update_of_ne hut] at hu
      exact absurd (h.alone u ms t hu hold).symm hut
  · exact fun ms he => absurd he (hne _ rfl)

/-- While a thread opens the stream, no close is under way. -/
theorem Alone.not_published (h : Alone σ) (hrole : (σ.pc t).role = .opener) :
    σ.published ≠ true := fun hpub => (h.opened hpub).2 t hrole

/-- A check that finds the stream, while no other close is past its own, finds it active. -/
theorem Alone.active_of_checked (h : Alone σ) (hin : σ.In p) (hpc : σ.pc t = .closing)
    (hreg : σ.registered = true) (hone : ∀ u, u ≠ t → ¬(σ.pc u).inClose) :
    ∃ n, σ.mActiveStreamUserCounter = some (n, true) := by
  have hcounter : σ.mActiveStreamUserCounter = p.shared.mActiveStreamUserCounter :=
    congrArg Shared.mActiveStreamUserCounter hin.shared
  have hregistered : p.shared.registered = true := hin.shared ▸ hreg
  obtain ⟨-, hopener⟩ := h.opened (h.published t (Or.inl hpc))
  -- a thread inside is another one, and in a close
  have hinside : ∀ r w, p.role w = r → r ≠ .outside → r ≠ .user → r ≠ .waiting → r ≠ .opener →
      False := by
    intro r w hw hout huser hwait hopen
    rw [← hin.role w] at hw
    have hne : w ≠ t := by
      rintro rfl
      rw [hpc] at hw
      exact hout hw.symm
    refine hone w hne ?_
    cases hq : σ.pc w <;> rw [hq] at hw <;> first | trivial | simp_all [Pc.role]
  cases p with
  | active users waiter => exact ⟨_, hcounter⟩
  | unopened | gone => cases hregistered
  | opening w =>
    refine absurd ((hin.role w).trans ?_) (hopener w)
    simp [Phase.role, Role.only]
  | draining users w =>
    refine (hinside .draining w ?_ (by decide) (by decide) (by decide) (by decide)).elim
    simp [Phase.role, Role.only, (show w ∉ users from hin.formed)]
  | drained w | ending w | destroying w | deregistering w =>
    refine (hinside _ w (by simp only [Phase.role, Role.only, if_true]; rfl) ?_ ?_ ?_ ?_).elim <;>
      decide

/-- Before the handle is with the client there is no close. -/
theorem Alone.no_close_of_not_published (h : Alone σ) (hpub : σ.published ≠ true)
    (hq : ¬(q = .closing ∨ ∃ ms, q = .window ms)) (u : Tid) :
    ¬(Function.update σ.pc t q u = .closing ∨ ∃ ms, Function.update σ.pc t q u = .window ms) := by
  by_cases hu : u = t
  · subst hu
    rwa [Function.update_self]
  · rw [Function.update_of_ne hu]
    exact fun he => hpub (h.published u he)

theorem inClose_of_runMethod {q' : Pc} (hq : q.runMethod cfg = some q') :
    (q'.inClose ↔ q.inClose) ∧ q' ≠ .closing ∧
      ∀ ms, q' = .window ms → ∃ ms, q = .window ms := by
  unfold Pc.runMethod at hq
  split at hq <;> cases hq <;> simp [Pc.inClose]

theorem NextStep.alone (hin : σ.In p) (h : Alone σ) (hone : oneClose σ (t, .next))
    (hstep : NextStep cfg σ t σ') : Alone σ' := by
  cases hstep with
  | method q hq =>
    obtain ⟨hclose, hclosing, hwindow⟩ := inClose_of_runMethod hq
    have hold : ∀ ms, q = .window ms → ∃ ms, σ.pc t = .window ms := hwindow
    refine h.move rfl rfl rfl (fun he => (role_of_runMethod hq) ▸ he) ?_ (fun _ => id) ?_
      fun he => Or.inl (hclose.mp he)
    · rintro (he | ⟨ms, he⟩)
      · exact absurd he hclosing
      · exact h.published t (Or.inr (hold ms he))
    · intro ms he
      obtain ⟨ms, hms⟩ := hold ms he
      exact ⟨h.active t ms hms, fun u hu hclose => hu (h.alone t ms u hms hclose)⟩
  | failed ms hpc =>
    have hpub := h.not_published (t := t) (by rw [hpc]; rfl)
    refine h.move rfl rfl rfl (by simp [Pc.role]) (by simp) (fun _ => id) (by simp) fun _ => ?_
    exact Or.inr fun u _ ms hu => hpub (h.published u (Or.inr ⟨ms, hu⟩))
  | init ms hpc =>
    have hpub := h.not_published (t := t) (by rw [hpc]; rfl)
    have hphase := hin.of_role t
    rw [hpc] at hphase
    obtain rfl := hphase
    have hcreated : σ.created = true := congrArg Shared.created hin.shared
    have hrole := (init_in hin).role
    have hnone := h.no_close_of_not_published (q := .idle) (t := t) hpub (by simp)
    refine ⟨fun u he => absurd he (hnone u), fun _ => ⟨hcreated, fun u => ?_⟩, ?_, ?_⟩
    · rw [hrole u]
      simp [Phase.role]
    · exact fun u ms he => absurd (Or.inr ⟨ms, he⟩) (hnone u)
    · exact fun u ms _ he => absurd (Or.inr ⟨ms, he⟩) (hnone u)
  | counted c hpc hlock => exact h.calm (calm_beginCounted c)
  | waited c hpc _ hwait => exact h.calm (calm_endWait hwait)
  | leaves ms hpc => exact h.calm calm_decrease
  | checked hpc hreg =>
    have hother := hone rfl hpc
    have hpub := h.published t (Or.inl hpc)
    refine h.move rfl rfl rfl (by simp [Pc.role]) (fun _ => hpub) (fun _ => id) (fun _ _ => ?_)
      fun _ => Or.inr fun u hu ms hms => hother u hu (by rw [hms]; trivial)
    exact ⟨h.active_of_checked hin hpc hreg hother, hother⟩
  | refused hpc => exact h.calm calm_idle
  | deactivated ms n hpc hlock hcounter =>
    exact h.finish rfl rfl rfl (by rw [hpc]; trivial) (by simp [Pc.role])
  | overtaken ms hpc => exact h.calm calm_idle
  | drained k hpc hsem => exact h.finish rfl rfl rfl (by rw [hpc]; trivial) (by simp [Pc.role])
  | deinit hpc => exact h.finish rfl rfl rfl (by rw [hpc]; trivial) (by simp [Pc.role])
  | erased ms hpc => exact h.finish rfl rfl rfl (by rw [hpc]; trivial) (by simp [Pc.role])
  | destroyed hpc => exact h.finish rfl rfl rfl (by rw [hpc]; trivial) (by simp [Pc.role])
  | deregistered hpc =>
    exact h.calm (.mk .idle rfl rfl rfl id (fun he => he) (by simp) (by simp [Pc.role]))

theorem step_alone {i : Tid × Action} (hin : σ.In p) (h : Alone σ) (hone : oneClose σ i)
    (hstep : step cfg σ i = some σ') : Alone σ' := by
  obtain ⟨t, a⟩ := i
  unfold step at hstep
  cases a with
  | palStreamOpen =>
    simp only at hstep
    split_ifs at hstep with hopen
    cases hstep
    have hpub : σ.published ≠ true := fun he => by
      have hcreated := (h.opened he).1
      rw [hopen.2] at hcreated
      cases hcreated
    have hnone := h.no_close_of_not_published (q := .opening) (t := t) hpub (by simp)
    refine ⟨fun u he => absurd he (hnone u), fun he => absurd he hpub, ?_, ?_⟩
    · exact fun u ms he => absurd (Or.inr ⟨ms, he⟩) (hnone u)
    · exact fun u ms _ he => absurd (Or.inr ⟨ms, he⟩) (hnone u)
  | counted c =>
    simp only at hstep
    split_ifs at hstep with hidle
    cases hstep
    exact h.calm (.mk (.called c) rfl rfl rfl id (fun he => he) (by simp) (by simp [Pc.role]))
  | palStreamClose =>
    simp only at hstep
    split_ifs at hstep with hidle
    cases hstep
    exact h.move rfl rfl rfl (by simp [Pc.role]) (fun _ => hidle.2) (fun _ => id) (by simp)
      fun he => he.elim
  | next => exact (nextStep_of_next hstep).alone hin h hone
  | openFails =>
    simp only at hstep
    split_ifs at hstep with hpc
    cases hstep
    exact h.move rfl rfl rfl (fun _ => by rw [hpc]; rfl) (by simp) (fun _ => id) (by simp)
      fun he => he.elim

theorem init_alone : Alone {} where
  published t h := by simp at h
  opened h := by cases h
  active t ms h := by cases h
  alone t ms u h := by cases h

/-- Where no two closes are under way, every method runs before the stream is deleted. -/
theorem destroyed_eq_zero_of_oneClose {is : List (Tid × Action)}
    (hrun : run (step cfg) {} is = some σ) (hone : Meets (step cfg) oneClose {} is)
    {m : StreamMethod} (hm : (σ.pc t).method = some m) : σ.destroyed = 0 := by
  have hstep : ∀ (σ : HandleState) i σ', oneClose σ i → (∃ p, σ.In p) ∧ Alone σ →
      step cfg σ i = some σ' → (∃ p, σ'.In p) ∧ Alone σ' :=
    fun σ i σ' hone ⟨⟨p, hin⟩, h⟩ hstep => ⟨step_in hin hstep, step_alone hin h hone hstep⟩
  obtain ⟨⟨p, hin⟩, h⟩ :=
    run_invariant_of_meets hstep hone ⟨⟨_, init_in_unopened⟩, init_alone⟩ hrun
  by_cases hwindow : ∃ ms, σ.pc t = .window ms
  · obtain ⟨ms, hpc⟩ := hwindow
    obtain ⟨n, hcounter⟩ := h.active t ms hpc
    have hc : p.shared.mActiveStreamUserCounter = some (n, true) := hin.shared ▸ hcounter
    have hdestroyed : σ.destroyed = p.shared.destroyed := congrArg Shared.destroyed hin.shared
    rw [hdestroyed]
    cases p with
    | active users waiter => rfl
    | _ => simp [Phase.shared] at hc
  · push Not at hwindow
    exact hin.destroyed_eq_zero hm hwindow

end OneClose

/-- **The counter of the users.** In every state that the threads reach, a method that runs after
the stream is deleted is that of a close between its check and the deactivation, and there is none
where the closes come one at a time; the stream is deleted once; the first user does not block at
the semaphore while it has the lock; and the semaphore is free exactly when there is no user and the
closer has not taken it. -/
theorem userCounter_of_run {cfg : HandleConfig} {σ : HandleState} {is : List (Tid × Action)}
    (hrun : run (step cfg) {} is = some σ) :
    (∀ t m, (σ.pc t).method = some m → (∀ ms, σ.pc t ≠ .window ms) → σ.destroyed = 0) ∧
      (Meets (step cfg) oneClose {} is →
        ∀ t m, (σ.pc t).method = some m → σ.destroyed = 0) ∧
      σ.destroyed ≤ 1 ∧
      (∀ t c, σ.pc t = .waiting c → σ.mInUse = some 1) ∧
      ∀ k, σ.mInUse = some k →
        k ≤ 1 ∧ (k = 1 ↔ (∃ active, σ.mActiveStreamUserCounter = some (0, active)) ∧
          ∀ t, σ.pc t ≠ .drained) := by
  obtain ⟨p, h⟩ := run_in hrun
  refine ⟨fun t m hm hwindow => h.destroyed_eq_zero hm hwindow, fun hone t m hm => ?_,
    h.destroyed_le_one, fun t c hpc => h.mInUse_of_waiting hpc, fun k hk => h.mInUse_iff hk⟩
  exact destroyed_eq_zero_of_oneClose hrun hone hm

end HandleState

/-- A playback with a callback. -/
def playback : HandleConfig := ⟨false, true⟩

open HandleState

/-- The open of the stream, by the first thread. -/
def opens : List (Tid × Action) :=
  [(0, .palStreamOpen), (0, .next), (0, .next), (0, .next), (0, .next), (0, .next)]

/-- The second thread closes up to the deactivation. -/
def deactivates : List (Tid × Action) :=
  [(1, .palStreamClose), (1, .next), (1, .next), (1, .next), (1, .next)]

/-- A third thread closes the stream while two others use it: it deactivates the stream and waits, and
the users end one after the other. -/
def usedAndClosed : List (Tid × Action) :=
  opens ++ [(1, .counted .palStreamStart), (1, .next), (1, .next),
    (2, .counted .palStreamSetParam), (2, .next), (3, .palStreamClose), (3, .next), (3, .next),
    (3, .next), (3, .next), (2, .next), (2, .next), (1, .next), (1, .next), (1, .next), (1, .next)]

theorem oneClose_of_ne {σ : HandleState} {i : Tid × Action} (h : σ.pc i.1 ≠ .closing) :
    oneClose σ i := fun _ hpc => absurd hpc h

theorem meets_usedAndClosed : Meets (step playback) oneClose {} usedAndClosed := by
  iterate 12 refine meets_cons_of_some (oneClose_of_ne (by decide)) rfl ?_
  refine meets_cons_of_some (fun _ _ u hu => ?_) rfl ?_
  · -- the other threads use the stream or are idle
    match u with
    | 3 => exact absurd rfl hu
    | 0 | 1 | 2 | u + 4 => exact not_false
  · iterate 9 refine meets_cons_of_some (oneClose_of_ne (by decide)) rfl ?_
    trivial

/-- The users are done, the stream is there, and the closer may take the semaphore. Before that, the
first user was at the semaphore with the lock. -/
theorem userCounter_usedAndClosed :
    (∃ σ, run (step playback) {} (usedAndClosed.take 8) = some σ ∧
      σ.mActiveStreamMutex = some 1 ∧ σ.mInUse = some 1) ∧
    ∃ σ, run (step playback) {} usedAndClosed = some σ ∧ σ.pc 3 = .draining ∧ σ.destroyed = 0 ∧
      ∃ active, σ.mActiveStreamUserCounter = some (0, active) := by
  obtain ⟨σ, hrun, hpc, hlock⟩ : ∃ σ, run (step playback) {} (usedAndClosed.take 8) = some σ ∧
      σ.pc 1 = .waiting .palStreamStart ∧ σ.mActiveStreamMutex = some 1 := ⟨_, rfl, rfl, rfl⟩
  obtain ⟨τ, hclose, hdraining, hfree⟩ : ∃ τ, run (step playback) {} usedAndClosed = some τ ∧
      τ.pc 3 = .draining ∧ τ.mInUse = some 1 := ⟨_, rfl, rfl, rfl⟩
  obtain ⟨-, -, -, hwait, -⟩ := userCounter_of_run hrun
  obtain ⟨-, hone, -, -, hsem⟩ := userCounter_of_run hclose
  have hmethod : (τ.pc 3).method = some waitStreamSmph := by rw [hdraining]; rfl
  obtain ⟨hunused, -⟩ := (hsem 1 hfree).2.mp rfl
  exact ⟨⟨σ, hrun, hlock, hwait 1 _ hpc⟩, τ, hclose, hdraining,
    hone meets_usedAndClosed 3 _ hmethod, hunused⟩

/-- After a deactivation the semaphore is free until the closer takes it. -/
theorem mInUse_afterDeactivation :
    ∃ σ, run (step playback) {} (opens ++ deactivates) = some σ ∧
      ¬(σ.mInUse = some 1 ↔ σ.mActiveStreamUserCounter = some (0, true)) :=
  ⟨_, rfl, by decide⟩

/-- Two closes at once: the second one made its check before the first one deleted the stream. -/
example : ∃ σ, run (step playback) {} (opens ++ [(2, .palStreamClose), (2, .next)] ++ deactivates ++
      [(1, .next), (1, .next), (1, .next), (1, .next), (1, .next), (1, .next)]) = some σ ∧
      σ.destroyed = 1 ∧ (σ.pc 2).method = some setCachedState :=
  ⟨_, rfl, rfl, rfl⟩

end AudioReachPal.Rm
