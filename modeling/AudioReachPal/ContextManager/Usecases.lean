import AudioReachPal.ContextManager.Ledger
import AudioReachPal.Lib.Runs
import AudioReachPal.Types
import Std.Data.TreeMap

/-!
# The usecases of the context manager

The sensor side registers a usecase, and the context manager opens, configures and starts a stream
for it; a second registration of the same usecase configures the running stream again. A
deregistration stops and closes the stream and deletes the usecase, and so does a close-all for
every usecase. The commands are taken from a queue by one thread, one after another.

Each command does to the ledger what the code says: `ledger_register` for a registration,
`releases_closeAll` for the loops of a close-all.
-/

namespace AudioReachPal.Context

open AudioReachPal.Lib

/-! ### The calls of a usecase -/

/-- What the calls of one registration return. -/
structure Results where
  constructed : Bool := true
  setUseCaseData : ℤ := 0
  palStreamOpen : ℤ := 0
  configure : ℤ := 0
  palStreamStart : ℤ := 0
  ack : ℤ := 0
  deriving DecidableEq, Repr

/-- Two classes keep the base class's `setUseCaseData`, which does nothing. -/
def UsecaseClass.setUseCaseData (c : UsecaseClass) (r : Results) : ℤ :=
  match c with
  | UsecaseUPD | UsecaseSDZ => 0
  | UsecaseACD | UsecasePCMData | UsecasePCMRenderer | UsecaseASR => r.setUseCaseData

/-- Two classes keep the base class's `configure`, which does nothing. -/
def UsecaseClass.configure (c : UsecaseClass) (r : Results) : ℤ :=
  match c with
  | UsecaseUPD | UsecasePCMRenderer => 0
  | UsecaseACD | UsecasePCMData | UsecaseSDZ | UsecaseASR => r.configure

/-- The class of an id; the ids are those of the sensor side's headers. A constructor that throws
leaves no object behind. -/
def UsecaseFactory.usecaseCreate (ids : ℕ → Option UsecaseClass) (usecase_id : ℕ) (r : Results) :
    Option UsecaseClass :=
  if r.constructed then ids usecase_id else none

/-! ### The state -/

/-- The usecases of a client are pointers into the heap. -/
structure see_client where
  see_id : ℕ
  usecases : Std.TreeMap ℕ ℕ := ∅

/-- What goes back to the sensor side. -/
inductive Response where
  | register_ack (see_id usecase_id : ℕ)
  | register_failed (status : ℤ) (see_id : ℕ)
  | deregister (status : ℤ) (see_id : ℕ)
  deriving DecidableEq, Repr

/-- The clients, the `Usecase` objects that are created and not deleted, and the streams.
`closedAgain` collects the handles that `palStreamStop` and `palStreamClose` are given after
their stream is closed. -/
structure ContextManager where
  see_clients : Std.TreeMap ℕ see_client := ∅
  heap : ℕ → Option Usecase := fun _ => none
  allocated : ℕ := 0
  streams : ℕ → StreamStatus := fun _ => .unopened
  handles : ℕ := 1
  closedAgain : List ℕ := []
  responses : List Response := []

namespace ContextManager

variable (σ : ContextManager)

/-- The pointer that a client's map has for an id. -/
def stored (k : ℕ × ℕ) : Option ℕ :=
  match σ.see_clients[k.1]? with
  | some client => client.usecases[k.2]?
  | none => none

/-- The stream of a usecase. -/
def handle (p : ℕ) : ℕ :=
  match σ.heap p with
  | some uc => uc.pal_stream
  | none => 0

def send (r : Response) : ContextManager := { σ with responses := σ.responses ++ [r] }

/-! ### The calls of a usecase -/

def palStreamStop (h : ℕ) : ContextManager :=
  match σ.streams h with
  | .started => { σ with streams := Function.update σ.streams h .opened }
  | .closed => { σ with closedAgain := h :: σ.closedAgain }
  | .unopened | .opened => σ

def palStreamClose (h : ℕ) : ContextManager :=
  match σ.streams h with
  | .opened | .started => { σ with streams := Function.update σ.streams h .closed }
  | .closed => { σ with closedAgain := h :: σ.closedAgain }
  | .unopened => σ

/-- A `Usecase` object at the next free address. -/
def newUsecase (uc : Usecase) : ContextManager :=
  { σ with heap := Function.update σ.heap σ.allocated (some uc), allocated := σ.allocated + 1 }

/-- `open` where `palStreamOpen` succeeds. -/
def «open» (p : ℕ) : ContextManager :=
  { σ with
      streams := Function.update σ.streams σ.handles .opened
      handles := σ.handles + 1
      heap := Function.update σ.heap p
        ((σ.heap p).map fun uc => { uc with pal_stream := σ.handles }) }

/-- `start` where `palStreamStart` succeeds. -/
def start (p : ℕ) : ContextManager :=
  { σ with streams := Function.update σ.streams (σ.handle p) .started }

/-- What the two calls return is logged and dropped. -/
def stopAndClose (p : ℕ) : ContextManager :=
  (σ.palStreamStop (σ.handle p)).palStreamClose (σ.handle p)

def deleteUsecase (p : ℕ) : ContextManager := { σ with heap := Function.update σ.heap p none }

/-! ### The maps -/

def seeClientCreateIfAndGet (see_id : ℕ) : ContextManager :=
  { σ with see_clients := σ.see_clients.insertIfNew see_id { see_id } }

def usecaseGet (see_id usecase_id : ℕ) : Option ℕ := σ.stored (see_id, usecase_id)

/-- `std::map::insert`: a key that is there keeps its value. -/
def usecaseAdd (see_id usecase_id p : ℕ) : ContextManager :=
  { σ with see_clients := σ.see_clients.modify see_id fun client =>
      { client with usecases := client.usecases.insertIfNew usecase_id p } }

/-- The entry leaves the map, and the object is deleted. -/
def usecaseRemove (see_id usecase_id p : ℕ) : ContextManager :=
  deleteUsecase
    { σ with see_clients := σ.see_clients.modify see_id fun client =>
        { client with usecases := client.usecases.erase usecase_id } } p

/-- One round of the loop over a client's usecases. -/
def closeUsecase (see_id : ℕ) (e : ℕ × ℕ) : ContextManager :=
  (σ.stopAndClose e.2).usecaseRemove see_id e.1 e.2

def closeAllUsecases (see_id : ℕ) (client : see_client) : ContextManager :=
  client.usecases.toList.foldl (fun σ e => σ.closeUsecase see_id e) σ

/-- One round of the loop over the clients. -/
def closeClient (e : ℕ × see_client) : ContextManager :=
  let σ := σ.closeAllUsecases e.1 e.2
  { σ with see_clients := σ.see_clients.erase e.1 }

def closeAll : ContextManager :=
  σ.see_clients.toList.foldl (fun σ e => σ.closeClient e) σ

/-! ### The commands -/

section Commands

variable (ids : ℕ → Option UsecaseClass)

/-- The branch of a usecase that is not there yet. The new object is stored at the end, and the
exits before that leave it where it is. -/
def registerNew (see_id usecase_id : ℕ) (r : Results) : ℤ × ContextManager :=
  match UsecaseFactory.usecaseCreate ids usecase_id r with
  | none => (-EINVAL, σ)
  | some c =>
    let uc := σ.allocated
    let σ := σ.newUsecase { usecase_id, type := c }
    if c.setUseCaseData r ≠ 0 then (c.setUseCaseData r, σ)
    else if r.palStreamOpen ≠ 0 then (r.palStreamOpen, σ)
    else if c.configure r ≠ 0 then (c.configure r, (σ.open uc).stopAndClose uc)
    else if r.palStreamStart ≠ 0 then (r.palStreamStart, (σ.open uc).stopAndClose uc)
    else (r.ack, ((σ.open uc).start uc).usecaseAdd see_id usecase_id uc)

/-- The branch of a usecase that is running: only its configuration is new. -/
def registerAgain (uc : ℕ) (c : UsecaseClass) (r : Results) : ℤ × ContextManager :=
  if c.setUseCaseData r ≠ 0 then (c.setUseCaseData r, σ)
  else if c.configure r ≠ 0 then (c.configure r, σ.stopAndClose uc)
  else (r.ack, σ)

/-- The class of the object at `p`. -/
def classOf (p : ℕ) : UsecaseClass :=
  match σ.heap p with
  | some uc => uc.type
  | none => .UsecaseUPD

def processRegisterRequest (see_id usecase_id : ℕ) (r : Results) : ℤ × ContextManager :=
  let σ := σ.seeClientCreateIfAndGet see_id
  let res :=
    match σ.usecaseGet see_id usecase_id with
    | none => σ.registerNew ids see_id usecase_id r
    | some uc => σ.registerAgain uc (σ.classOf uc) r
  (res.1, res.2.send
    (if res.1 ≠ 0 then .register_failed res.1 see_id else .register_ack see_id usecase_id))

def processDeregisterRequest (see_id usecase_id : ℕ) : ℤ × ContextManager :=
  match σ.see_clients[see_id]? with
  | none => (-1, σ)
  | some _ =>
    match σ.usecaseGet see_id usecase_id with
    | none => (-EINVAL, σ)
    | some uc => (0, (σ.stopAndClose uc).usecaseRemove see_id usecase_id uc)

/-- The commands of the queue that touch usecases. -/
inductive Command where
  | register (see_id usecase_id : ℕ) (r : Results)
  | deregister (see_id usecase_id : ℕ)
  | closeAll
  deriving DecidableEq, Repr

/-- `process` of a command; a deregistration is answered whatever came of it. -/
def process : Command → ContextManager
  | .register see_id usecase_id r => (σ.processRegisterRequest ids see_id usecase_id r).2
  | .deregister see_id usecase_id =>
    let res := σ.processDeregisterRequest see_id usecase_id
    res.2.send (.deregister res.1 see_id)
  | .closeAll => σ.closeAll

end Commands

/-! ### The maps of the clients -/

variable {σ}

@[simp] theorem stored_of_clients {τ : ContextManager} (h : τ.see_clients = σ.see_clients) :
    τ.stored = σ.stored := by
  funext k
  unfold stored
  rw [h]

theorem stored_seeClientCreateIfAndGet {see_id : ℕ} :
    (σ.seeClientCreateIfAndGet see_id).stored = σ.stored := by
  funext k
  unfold stored seeClientCreateIfAndGet
  rw [Std.TreeMap.getElem?_insertIfNew]
  by_cases h : see_id = k.1 ∧ see_id ∉ σ.see_clients
  · obtain ⟨rfl, h⟩ := h
    rw [if_pos ⟨by simp, h⟩, Std.TreeMap.getElem?_eq_none h]
    simp
  · rw [if_neg (by simpa using h)]

theorem mem_seeClientCreateIfAndGet {see_id : ℕ} :
    see_id ∈ (σ.seeClientCreateIfAndGet see_id).see_clients := by
  simp [seeClientCreateIfAndGet]

theorem stored_usecaseAdd {see_id usecase_id p : ℕ} (hsee : see_id ∈ σ.see_clients)
    (hnew : σ.stored (see_id, usecase_id) = none) :
    (σ.usecaseAdd see_id usecase_id p).stored =
      Function.update σ.stored (see_id, usecase_id) (some p) := by
  obtain ⟨client, hclient⟩ : ∃ client, σ.see_clients[see_id]? = some client :=
    Option.isSome_iff_exists.mp (Std.TreeMap.isSome_getElem?_iff_mem.mpr hsee)
  have hfree : usecase_id ∉ client.usecases := by
    simp only [stored, hclient] at hnew
    simpa using hnew
  funext ⟨see, id⟩
  by_cases hk : (see, id) = (see_id, usecase_id)
  · cases hk
    simp [stored, usecaseAdd, hclient, Std.TreeMap.getElem_insertIfNew, hfree]
  · rw [Function.update_of_ne hk]
    by_cases hs : see_id = see
    · subst hs
      have hid : usecase_id ≠ id := fun h => hk (by rw [h])
      simp [stored, usecaseAdd, hclient, Std.TreeMap.getElem?_insertIfNew, hid]
    · simp [stored, usecaseAdd, Std.TreeMap.getElem?_modify, hs]

theorem stored_usecaseRemove {see_id usecase_id p : ℕ} :
    (σ.usecaseRemove see_id usecase_id p).stored =
      Function.update σ.stored (see_id, usecase_id) none := by
  funext ⟨see, id⟩
  by_cases hs : see_id = see
  · subst hs
    cases hclient : σ.see_clients[see_id]? with
    | none =>
      by_cases hid : id = usecase_id <;>
        simp [stored, usecaseRemove, deleteUsecase, hclient, hid]
    | some client =>
      by_cases hid : usecase_id = id
      · subst hid
        simp [stored, usecaseRemove, deleteUsecase, hclient]
      · have hne : (see_id, id) ≠ (see_id, usecase_id) := fun h => hid (Prod.mk.inj h).2.symm
        rw [Function.update_of_ne hne]
        simp [stored, usecaseRemove, deleteUsecase, hclient, Std.TreeMap.getElem?_erase, hid]
  · have hne : (see, id) ≠ (see_id, usecase_id) := fun h => hs (Prod.mk.inj h).1.symm
    rw [Function.update_of_ne hne]
    simp [stored, usecaseRemove, deleteUsecase, Std.TreeMap.getElem?_modify, hs]

end ContextManager

namespace ContextManager

/-- The usecases and streams of the context manager. -/
def ledger (σ : ContextManager) : Ledger where
  stored := σ.stored
  heap := σ.heap
  allocated := σ.allocated
  streams := σ.streams
  handles := σ.handles
  closedAgain := σ.closedAgain

variable {σ : ContextManager}

@[simp] theorem ledger_send {r : Response} : (σ.send r).ledger = σ.ledger := rfl

@[simp] theorem ledger_seeClientCreateIfAndGet {see_id : ℕ} :
    (σ.seeClientCreateIfAndGet see_id).ledger = σ.ledger := by
  unfold ledger
  rw [stored_seeClientCreateIfAndGet]
  rfl

theorem handle_of_heap {p : ℕ} {uc : Usecase} (h : σ.heap p = some uc) :
    σ.handle p = uc.pal_stream := by
  unfold handle
  rw [h]

theorem see_clients_stopAndClose {p : ℕ} :
    (σ.stopAndClose p).see_clients = σ.see_clients := by
  unfold stopAndClose
  cases h : σ.streams (σ.handle p) <;> simp [palStreamStop, palStreamClose, h]

theorem ledger_stopAndClose {p : ℕ} :
    (σ.stopAndClose p).ledger = σ.ledger.stopAndClose (σ.handle p) := by
  have hstored : (σ.stopAndClose p).stored = σ.stored := stored_of_clients see_clients_stopAndClose
  unfold ledger Ledger.stopAndClose
  rw [hstored]
  unfold stopAndClose
  cases h : σ.streams (σ.handle p) <;>
    simp [palStreamStop, palStreamClose, h]

theorem ledger_usecaseRemove {see_id usecase_id p : ℕ} :
    (σ.usecaseRemove see_id usecase_id p).ledger = σ.ledger.erase (see_id, usecase_id) p := by
  unfold ledger
  rw [stored_usecaseRemove]
  rfl

theorem ledger_closeUsecase {see_id : ℕ} {e : ℕ × ℕ} :
    (σ.closeUsecase see_id e).ledger =
      (σ.ledger.stopAndClose (σ.handle e.2)).erase (see_id, e.1) e.2 := by
  unfold closeUsecase
  rw [ledger_usecaseRemove, ledger_stopAndClose]

theorem heap_open {uc : Usecase} :
    ((σ.newUsecase uc).open σ.allocated).heap =
      Function.update σ.heap σ.allocated (some { uc with pal_stream := σ.handles }) := by
  simp [newUsecase, «open»]

theorem handle_open {uc : Usecase} :
    ((σ.newUsecase uc).open σ.allocated).handle σ.allocated = σ.handles := by
  unfold handle
  rw [heap_open, Function.update_self]

/-- The object of a failed `configure` or `start`. -/
theorem ledger_open_stopAndClose {uc : Usecase} :
    (((σ.newUsecase uc).open σ.allocated).stopAndClose σ.allocated).ledger =
      σ.ledger.leakClosed uc := by
  rw [ledger_stopAndClose, handle_open]
  unfold ledger
  rw [heap_open]
  simp [newUsecase, «open», Ledger.stopAndClose, Ledger.leakClosed, Ledger.leak]
  rfl

theorem ledger_usecaseAdd {see_id usecase_id : ℕ} {uc : Usecase} (hsee : see_id ∈ σ.see_clients)
    (hnew : σ.stored (see_id, usecase_id) = none) :
    ((((σ.newUsecase uc).open σ.allocated).start σ.allocated).usecaseAdd see_id usecase_id
        σ.allocated).ledger = σ.ledger.add (see_id, usecase_id) uc := by
  have hadd : ((((σ.newUsecase uc).open σ.allocated).start σ.allocated).usecaseAdd see_id
      usecase_id σ.allocated).stored =
        Function.update σ.stored (see_id, usecase_id) (some σ.allocated) :=
    stored_usecaseAdd hsee hnew
  unfold ledger
  rw [hadd]
  simp [newUsecase, «open», start, handle, usecaseAdd, Ledger.add]

/-! ### The commands on the ledger -/

section Commands

variable (ids : ℕ → Option UsecaseClass)

/-- All calls that the class makes for a new usecase succeed. -/
def Registers (c : UsecaseClass) (r : Results) : Prop :=
  c.setUseCaseData r = 0 ∧ r.palStreamOpen = 0 ∧ c.configure r = 0 ∧ r.palStreamStart = 0

/-- A registration of a new usecase fails before the object is created or not at all; one of a
usecase that is there does not fail in `configure`. -/
def Command.Sound (σ : ContextManager) : Command → Prop
  | .register see_id usecase_id r =>
    match σ.usecaseGet see_id usecase_id with
    | none => ∀ c, UsecaseFactory.usecaseCreate ids usecase_id r = some c → Registers c r
    | some uc => (σ.classOf uc).setUseCaseData r = 0 → (σ.classOf uc).configure r = 0
  | .deregister _ _ | .closeAll => True

variable {ids}

theorem ledger_registerNew {see_id usecase_id : ℕ} {r : Results} (hsee : see_id ∈ σ.see_clients)
    (hnew : σ.stored (see_id, usecase_id) = none) :
    ((∀ c, UsecaseFactory.usecaseCreate ids usecase_id r = some c → Registers c r) ∧
        σ.ledger.Registered (see_id, usecase_id)
          (σ.registerNew ids see_id usecase_id r).2.ledger) ∨
      (¬(∀ c, UsecaseFactory.usecaseCreate ids usecase_id r = some c → Registers c r) ∧
        σ.ledger.Broken (see_id, usecase_id)
          (σ.registerNew ids see_id usecase_id r).2.ledger) := by
  unfold registerNew
  cases hc : UsecaseFactory.usecaseCreate ids usecase_id r with
  | none => exact Or.inl ⟨by simp, .kept⟩
  | some c =>
    simp only [Option.some.injEq, forall_eq']
    by_cases hset : c.setUseCaseData r = 0
    · rw [if_neg (not_not.mpr hset)]
      by_cases hopen : r.palStreamOpen = 0
      · rw [if_neg (not_not.mpr hopen)]
        by_cases hconf : c.configure r = 0
        · rw [if_neg (not_not.mpr hconf)]
          by_cases hstart : r.palStreamStart = 0
          · rw [if_neg (not_not.mpr hstart), ledger_usecaseAdd hsee hnew]
            exact Or.inl ⟨⟨hset, hopen, hconf, hstart⟩, .added _ hnew⟩
          · rw [if_pos hstart, ledger_open_stopAndClose]
            exact Or.inr ⟨fun h => hstart h.2.2.2, .leakedClosed _⟩
        · rw [if_pos hconf, ledger_open_stopAndClose]
          exact Or.inr ⟨fun h => hconf h.2.2.1, .leakedClosed _⟩
      · rw [if_pos hopen]
        exact Or.inr ⟨fun h => hopen h.2.1, .leaked _⟩
    · rw [if_pos hset]
      exact Or.inr ⟨fun h => hset h.1, .leaked _⟩

theorem ledger_registerAgain {k : ℕ × ℕ} {uc : ℕ} {c : UsecaseClass} {r : Results}
    (hst : σ.stored k = some uc) :
    ((c.setUseCaseData r = 0 → c.configure r = 0) ∧
        σ.ledger.Registered k (σ.registerAgain uc c r).2.ledger) ∨
      (¬(c.setUseCaseData r = 0 → c.configure r = 0) ∧
        σ.ledger.Broken k (σ.registerAgain uc c r).2.ledger) := by
  unfold registerAgain
  by_cases hset : c.setUseCaseData r = 0
  · rw [if_neg (not_not.mpr hset)]
    by_cases hconf : c.configure r = 0
    · rw [if_neg (not_not.mpr hconf)]
      exact Or.inl ⟨fun _ => hconf, .kept⟩
    · rw [if_pos hconf, ledger_stopAndClose]
      exact Or.inr ⟨fun h => hconf (h hset), .stopped uc hst⟩
  · rw [if_pos hset]
    exact Or.inl ⟨fun h => absurd h hset, .kept⟩

theorem ledger_register (ids : ℕ → Option UsecaseClass) (σ : ContextManager)
    (see_id usecase_id : ℕ) (r : Results) :
    (Command.Sound ids σ (.register see_id usecase_id r) ∧ σ.ledger.Registered (see_id, usecase_id)
        (σ.processRegisterRequest ids see_id usecase_id r).2.ledger) ∨
      (¬Command.Sound ids σ (.register see_id usecase_id r) ∧
        σ.ledger.Broken (see_id, usecase_id)
          (σ.processRegisterRequest ids see_id usecase_id r).2.ledger) := by
  have hget : (σ.seeClientCreateIfAndGet see_id).stored (see_id, usecase_id) =
      σ.stored (see_id, usecase_id) := congrFun stored_seeClientCreateIfAndGet _
  have hL : (σ.seeClientCreateIfAndGet see_id).ledger = σ.ledger :=
    ledger_seeClientCreateIfAndGet
  unfold processRegisterRequest Command.Sound
  simp only [usecaseGet, hget, ledger_send]
  cases hst : σ.stored (see_id, usecase_id) with
  | none =>
    rw [← hL]
    exact ledger_registerNew mem_seeClientCreateIfAndGet (hget.trans hst)
  | some p =>
    rw [← hL]
    exact ledger_registerAgain (hget.trans hst)

end Commands

/-! ### The loops of a close-all -/

theorem release_closeUsecase {see_id : ℕ} {e : ℕ × ℕ} (h : σ.stored (see_id, e.1) = some e.2) :
    σ.ledger.Release (σ.closeUsecase see_id e).ledger :=
  ⟨(see_id, e.1), e.2, h, ledger_closeUsecase⟩

theorem stored_closeUsecase {see_id : ℕ} {e : ℕ × ℕ} :
    (σ.closeUsecase see_id e).stored = Function.update σ.stored (see_id, e.1) none := by
  unfold closeUsecase
  rw [stored_usecaseRemove, stored_of_clients see_clients_stopAndClose]

/-- Each round of the inner loop releases one usecase, and the others stay stored. -/
theorem releases_foldl_closeUsecase {see_id : ℕ} {l : List (ℕ × ℕ)}
    (hl : l.Pairwise fun a b => a.1 ≠ b.1) (hst : ∀ e ∈ l, σ.stored (see_id, e.1) = some e.2) :
    Relation.ReflTransGen Ledger.Release σ.ledger
        (l.foldl (fun σ e => σ.closeUsecase see_id e) σ).ledger ∧
      ∀ k, (l.foldl (fun σ e => σ.closeUsecase see_id e) σ).stored k =
        if k.1 = see_id ∧ k.2 ∈ l.map Prod.fst then none else σ.stored k := by
  induction l generalizing σ with
  | nil => exact ⟨.refl, fun k => by simp⟩
  | cons e l ih =>
    obtain ⟨hne, hl⟩ := List.pairwise_cons.mp hl
    have hrest : ∀ e' ∈ l, (σ.closeUsecase see_id e).stored (see_id, e'.1) = some e'.2 := by
      intro e' he'
      have hk : (see_id, e'.1) ≠ (see_id, e.1) := fun h => hne e' he' (Prod.mk.inj h).2.symm
      rw [stored_closeUsecase, Function.update_of_ne hk]
      exact hst e' (List.mem_cons_of_mem _ he')
    obtain ⟨hrel, hstored⟩ := ih hl hrest
    refine ⟨.head (release_closeUsecase (hst e List.mem_cons_self)) hrel, ?_⟩
    intro k
    rw [List.foldl_cons, hstored k, stored_closeUsecase]
    by_cases hk : k = (see_id, e.1)
    · subst hk
      simp
    · rw [Function.update_of_ne hk]
      have hhead : ¬(k.1 = see_id ∧ e.1 = k.2) := fun h => hk (Prod.ext h.1 h.2.symm)
      by_cases hs : k.1 = see_id
      · have he : k.2 ≠ e.1 := fun h => hhead ⟨hs, h.symm⟩
        simp only [hs, true_and, List.map_cons, List.mem_cons, he, false_or]
      · simp [hs]

/-- Each round of the outer loop releases the usecases of one client. -/
theorem releases_closeClient {e : ℕ × see_client}
    (hst : ∀ id, σ.stored (e.1, id) = e.2.usecases[id]?) :
    Relation.ReflTransGen Ledger.Release σ.ledger (σ.closeClient e).ledger ∧
      ∀ k, (σ.closeClient e).stored k = if k.1 = e.1 then none else σ.stored k := by
  have hmem : ∀ u ∈ e.2.usecases.toList, σ.stored (e.1, u.1) = some u.2 := by
    intro u hu
    rw [hst]
    exact Std.TreeMap.mem_toList_iff_getElem?_eq_some.mp hu
  have hdistinct : e.2.usecases.toList.Pairwise fun a b => a.1 ≠ b.1 :=
    Std.TreeMap.distinct_keys_toList.imp fun h heq => h (by simp [heq])
  obtain ⟨hrel, hstored⟩ := releases_foldl_closeUsecase hdistinct hmem
  have hall : ∀ k, (σ.closeAllUsecases e.1 e.2).stored k =
      if k.1 = e.1 then none else σ.stored k := by
    rintro ⟨see, id⟩
    refine (hstored (see, id)).trans ?_
    by_cases hs : see = e.1
    · subst hs
      by_cases hid : id ∈ e.2.usecases.toList.map Prod.fst
      · rw [if_pos ⟨rfl, hid⟩, if_pos rfl]
      · rw [if_neg (fun h => hid h.2), if_pos rfl, hst]
        cases hget : e.2.usecases[id]? with
        | none => rfl
        | some p =>
          have hmem := Std.TreeMap.mem_toList_iff_getElem?_eq_some.mpr hget
          exact absurd (List.mem_map_of_mem hmem) hid
    · rw [if_neg (fun h => hs h.1), if_neg hs]
  -- the client is empty by now, and its entry can go
  have herase : ∀ k, (σ.closeClient e).stored k = (σ.closeAllUsecases e.1 e.2).stored k := by
    rintro ⟨see, id⟩
    by_cases hs : see = e.1
    · rw [hall, if_pos hs]
      subst hs
      simp [closeClient, stored]
    · simp [closeClient, stored, Std.TreeMap.getElem?_erase, Ne.symm hs]
  have hledger : (σ.closeClient e).ledger = (σ.closeAllUsecases e.1 e.2).ledger := by
    unfold ledger
    rw [funext herase]
    rfl
  exact ⟨hledger ▸ hrel, fun k => (herase k).trans (hall k)⟩

theorem releases_foldl_closeClient {l : List (ℕ × see_client)}
    (hl : l.Pairwise fun a b => a.1 ≠ b.1)
    (hst : ∀ e ∈ l, ∀ id, σ.stored (e.1, id) = e.2.usecases[id]?) :
    Relation.ReflTransGen Ledger.Release σ.ledger
      (l.foldl (fun σ e => σ.closeClient e) σ).ledger := by
  induction l generalizing σ with
  | nil => exact .refl
  | cons e l ih =>
    obtain ⟨hne, hl⟩ := List.pairwise_cons.mp hl
    obtain ⟨hrel, hstored⟩ := releases_closeClient (hst e List.mem_cons_self)
    refine hrel.trans (ih hl ?_)
    intro e' he' id
    rw [hstored, if_neg (hne e' he').symm]
    exact hst e' (List.mem_cons_of_mem _ he') id

theorem releases_closeAll : Relation.ReflTransGen Ledger.Release σ.ledger σ.closeAll.ledger := by
  refine releases_foldl_closeClient ?_ ?_
  · exact Std.TreeMap.distinct_keys_toList.imp fun h heq => h (by simp [heq])
  · intro e he id
    unfold stored
    rw [Std.TreeMap.mem_toList_iff_getElem?_eq_some.mp he]

/-! ### Runs of commands -/

section Runs

variable (ids : ℕ → Option UsecaseClass)

/-- The commands are processed one after another, and none is refused. -/
def step (σ : ContextManager) (c : Command) : Option ContextManager := some (σ.process ids c)

variable {ids}

theorem ledger_deregister (σ : ContextManager) (see_id usecase_id : ℕ) :
    (σ.processDeregisterRequest see_id usecase_id).2.ledger = σ.ledger ∨
      σ.ledger.Release (σ.processDeregisterRequest see_id usecase_id).2.ledger := by
  unfold processDeregisterRequest
  cases σ.see_clients[see_id]? with
  | none => exact Or.inl rfl
  | some client =>
    dsimp only
    cases huc : σ.usecaseGet see_id usecase_id with
    | none => exact Or.inl rfl
    | some uc => exact Or.inr ⟨(see_id, usecase_id), uc, huc, ledger_closeUsecase (e := (usecase_id, uc))⟩

/-- A command that is not a registration releases usecases, if anything. -/
theorem releases_process {c : Command}
    (hc : ∀ see_id usecase_id r, c ≠ .register see_id usecase_id r) :
    Relation.ReflTransGen Ledger.Release σ.ledger (σ.process ids c).ledger := by
  cases c with
  | register see_id usecase_id r => exact absurd rfl (hc see_id usecase_id r)
  | deregister see_id usecase_id =>
    rcases ledger_deregister σ see_id usecase_id with h | h
    · exact (congrArg _ h).mpr .refl
    · exact .single h
  | closeAll => exact releases_closeAll

theorem wellformed_releases {L L' : Ledger} (h : Relation.ReflTransGen Ledger.Release L L')
    (w : L.Wellformed) : L'.Wellformed := by
  induction h with
  | refl => exact w
  | tail _ hr ih => exact ih.release hr

theorem ownedOnce_releases {L L' : Ledger} (h : Relation.ReflTransGen Ledger.Release L L')
    (w : L.Wellformed) (o : L.OwnedOnce) : L'.OwnedOnce := by
  induction h with
  | refl => exact o
  | tail hrel hr ih => exact ih.release (wellformed_releases hrel w) hr

theorem wellformed_process (c : Command) (w : σ.ledger.Wellformed) :
    (σ.process ids c).ledger.Wellformed := by
  cases c with
  | register see_id usecase_id r =>
    rcases ledger_register ids σ see_id usecase_id r with ⟨-, hr⟩ | ⟨-, hb⟩
    · exact w.registered hr
    · exact w.broken hb
  | deregister see_id usecase_id => exact wellformed_releases (releases_process (by simp)) w
  | closeAll => exact wellformed_releases (releases_process (by simp)) w

/-- A command keeps the law exactly when it is sound. -/
theorem ownedOnce_process_iff (c : Command) (w : σ.ledger.Wellformed) (o : σ.ledger.OwnedOnce) :
    (σ.process ids c).ledger.OwnedOnce ↔ c.Sound ids σ := by
  cases c with
  | register see_id usecase_id r =>
    rcases ledger_register ids σ see_id usecase_id r with ⟨hs, hr⟩ | ⟨hs, hb⟩
    · exact iff_of_true (o.registered w hr) hs
    · exact iff_of_false (w.not_ownedOnce hb) hs
  | deregister see_id usecase_id =>
    exact iff_of_true (ownedOnce_releases (releases_process (by simp)) w o) trivial
  | closeAll => exact iff_of_true (ownedOnce_releases (releases_process (by simp)) w o) trivial

theorem wellformed_init : (ContextManager.ledger {}).Wellformed where
  fresh _ _ := rfl
  unopened _ _ := rfl
  alive k p hp := by simp [ledger, stored] at hp
  unique k k' h ho := by
    obtain ⟨p, uc, hp, -⟩ := ho
    simp [ledger, stored] at hp

theorem ownedOnce_init : (ContextManager.ledger {}).OwnedOnce where
  owned h hlive := by simp [ledger, StreamStatus.Live] at hlive
  running k p hp := by simp [ledger, stored] at hp
  closedOnce := rfl
  stored p hp := by simp [ledger] at hp

/-- **The usecases own their streams exactly once.** After each command of a sequence every open
stream is the stream of one stored usecase, every stored usecase has a started stream, nothing was
stopped or closed after it was closed, and every object is stored or deleted, exactly when each
registration is sound: one of a new usecase whose object is created makes its four calls with
success, and one of a stored usecase does not fail in `configure`. -/
theorem ownedOnce_along_iff (cmds : List Command) :
    (∀ done τ, done <+: cmds → run (step ids) {} done = some τ → τ.ledger.OwnedOnce) ↔
      Meets (step ids) (fun σ c => c.Sound ids σ) {} cmds := by
  have hinv : ∀ (σ : ContextManager) c τ, σ.ledger.Wellformed → step ids σ c = some τ →
      τ.ledger.Wellformed := by
    rintro σ c _ w ⟨⟩
    exact wellformed_process c w
  refine law_prefixes_iff_meets hinv ?_ wellformed_init ownedOnce_init
  intro σ c _ w o
  rw [← ownedOnce_process_iff c w o]
  simp [step]

/-- A running usecase is configured again and that fails: its stream is closed, the usecase stays,
and its deregistration stops and closes the stream a second time. -/
theorem closedAgain_afterReconfiguration :
    ¬∀ (ids : ℕ → Option UsecaseClass) (cmds done : List Command) (τ : ContextManager),
      done <+: cmds → run (step ids) {} done = some τ → τ.ledger.OwnedOnce := by
  intro h
  have hd := (h (fun _ => some .UsecaseACD)
    [.register 1 2 {}, .register 1 2 { configure := -EINVAL }, .deregister 1 2] _ _
    (List.prefix_refl _) rfl).closedOnce
  exact absurd hd (by decide)

end Runs

end ContextManager

end AudioReachPal.Context
