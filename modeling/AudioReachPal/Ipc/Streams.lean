import AudioReachPal.Ipc.Owned

/-!
# The streams of the clients

PAL has a stream open for the server exactly while one client or one call holds it: a stream goes
from the call that opened it to a client, from there to the call that closes it, and back to PAL; or
it goes back with its client, when the process has died. One thing can go wrong: between the check of
a handle by `ipc_palStreamClose` and the removal of the stream, the stream may go, with the death of
its process or in a second close. Where that does not happen, no order of the steps makes the server
close a stream that is not open, or lose one.
-/

namespace AudioReachPal.Ipc

open AudioReachPal.Lib

/-- The stream of an entry. -/
def streamOf (i : StreamInfo) : Multiset Handle := {i.mHandle}

/-- The stream that a call has in its hands. -/
def Call.streams : Call → Multiset Handle
  | .opened _ _ handle | .removed handle => {handle}
  | _ => 0

namespace Server

variable {Tid : Type} {σ σ' : Server Tid} {pid : Pid} {id : ClientId} {handle : Handle} {t : Tid}
  {a : Action} {c c₀ : Call}

/-- The client of the process has the stream. -/
def holdsStream (σ : Server Tid) (pid : Pid) (handle : Handle) : Bool :=
  match σ.clientOf pid with
  | some id => (σ.clients id).isValidStreamHandle handle
  | none => false

/-- A call that removes a stream still finds it in its client. -/
def closesHeld (σ : Server Tid) (i : Tid × Action) : Prop :=
  i.2 = .removeClientInfoData →
    ∀ pid handle, σ.calls i.1 = .closing pid handle → σ.holdsStream pid handle = true

variable [Fintype Tid]

/-- What the clients and the calls hold of the streams. -/
def heldStreams (σ : Server Tid) : Multiset Handle := σ.held streamOf Call.streams

/-- Each open stream is held once. -/
def StreamBooks (σ : Server Tid) : Prop := σ.streams.Balanced σ.heldStreams

/-! ### What keeps the books -/

theorem streamBooks_init : StreamBooks (init : Server Tid) :=
  Stock.Balanced.empty.congr (held_init rfl)

theorem StreamBooks.getClientL (h : StreamBooks σ) (pid : Pid) :
    StreamBooks (σ.getClientL pid).2 := by
  unfold StreamBooks heldStreams
  rw [held_getClientL, getClientL_streams]
  exact h

/-- A stream that a client has, and what is held besides. -/
theorem heldStreams_setClient (info : ClientInfo) (hid : id < σ.created) :
    (σ.clients id).sumOf streamOf + (σ.setClient id info).heldStreams =
      info.sumOf streamOf + σ.heldStreams := held_setClient Call.streams hid info

theorem sumOf_streamOf (info : ClientInfo) :
    info.sumOf streamOf = (info.mStreamInfoMap.map (·.mHandle) : Multiset Handle) := by
  unfold ClientInfo.sumOf streamOf
  induction info.mStreamInfoMap with
  | nil => rfl
  | cons i is ih =>
    rw [List.map_cons, List.sum_cons, ih, List.map_cons, ← Multiset.cons_coe,
      Multiset.singleton_add]

theorem StreamBooks.cleanup (hown : OwnedBut (some id) σ) (h : StreamBooks σ) :
    StreamBooks (σ.cleanup id) := by
  have hheld := heldStreams_setClient ⟨[]⟩ (hown.bound id (Or.inr rfl))
  rw [sumOf_nil, zero_add, sumOf_streamOf] at hheld
  rw [cleanup_eq (hown.nonnull id)]
  exact Stock.Balanced.giveBackAll (Stock.Balanced.congr h hheld)

variable [DecidableEq Tid]

theorem StreamBooks.goto (h : StreamBooks σ) (hc : σ.calls t = c₀)
    (hsame : c.streams = c₀.streams) :
    StreamBooks (σ.goto t c) :=
  Stock.Balanced.congr h (held_goto_of_same (by rw [hc, hsame]))

theorem StreamBooks.leave (h : StreamBooks σ) (hown : Owned σ) (hc : σ.calls t = c₀)
    (hnone : c₀.streams = 0) : StreamBooks (σ.leave t c₀.client) :=
  leave_of_cleanup hown hc (h.goto hc hnone.symm) fun hown _ => StreamBooks.cleanup hown

omit [DecidableEq Tid] in
theorem StreamBooks.removeClient (h : StreamBooks σ) (hown : Owned σ) :
    StreamBooks (σ.removeClient pid) :=
  removeClient_of_cleanup hown h h fun hown _ => StreamBooks.cleanup hown

/-- PAL opens a stream for the call. -/
theorem StreamBooks.issue (h : StreamBooks σ) (hc : σ.calls t = c₀) (hnone : c₀.streams = 0)
    (hnew : handle ∉ σ.streams.issued) (hgot : c.streams = {handle}) :
    StreamBooks (({ σ with streams := σ.streams.issue handle } : Server Tid).goto t c) := by
  have hgoto := held_goto streamOf Call.streams σ t c
  rw [hc, hnone, zero_add, hgot] at hgoto
  exact Stock.Balanced.congr (Stock.Balanced.issue h hnew) hgoto

theorem mem_sumOf_streamOf {info : ClientInfo} (h : info.isValidStreamHandle handle = true) :
    handle ∈ info.sumOf streamOf := by
  obtain ⟨i, hi⟩ := isValid_iff.mp h
  obtain ⟨hmem, hhandle⟩ := mem_of_getStreamInfo hi
  rw [sumOf_streamOf, Multiset.mem_coe]
  exact List.mem_map.mpr ⟨i, hmem, hhandle⟩

/-- A stream that a call has in its hands is in no client. -/
theorem StreamBooks.not_valid (h : StreamBooks σ) (hc : σ.calls t = c₀)
    (hgot : c₀.streams = {handle}) (hid : id < σ.created) :
    (σ.clients id).isValidStreamHandle handle = false := by
  by_contra hvalid
  have hmem := mem_sumOf_streamOf (Bool.eq_true_of_not_eq_false hvalid)
  -- both shares are in the sum
  have hcall := held_goto streamOf Call.streams σ t .idle
  have hclient := heldStreams_setClient (σ := σ.goto t .idle) ⟨[]⟩ hid
  rw [hc, hgot] at hcall
  rw [sumOf_nil, zero_add] at hclient
  have hheld : {handle} + ((σ.clients id).sumOf streamOf +
      ((σ.goto t .idle).setClient id ⟨[]⟩).heldStreams) = σ.heldStreams := by
    have hboth : {handle} + (σ.goto t .idle).heldStreams = 0 + σ.heldStreams := hcall
    rw [zero_add] at hboth
    rw [← hboth, ← hclient]
    rfl
  have hnodup := h.nodup
  rw [← hheld, Multiset.singleton_add, Multiset.nodup_cons] at hnodup
  exact hnodup.1 (Multiset.mem_add.mpr (Or.inl hmem))

/-- The stream goes from the call to the client of the process, which cannot have had it. -/
theorem StreamBooks.addStreamHandle (h : StreamBooks σ) (hown : Owned σ)
    (hc : σ.calls t = c₀) (hgot : c₀.streams = {handle}) (hnone : c.streams = 0) :
    StreamBooks ((σ.addStreamHandle pid handle).goto t c) := by
  have hid := (hown.getClientL pid).bound _ (Or.inl (referenced_getClientL_self σ pid))
  have hcalls : (σ.getClientL pid).2.calls t = c₀ := by rw [getClientL_calls, hc]
  have hbooks := h.getClientL pid
  have hnot := hbooks.not_valid hcalls hgot hid
  have hset := heldStreams_setClient (((σ.getClientL pid).2.clients
    (σ.getClientL pid).1).addStreamHandle handle) hid
  have hgoto := held_goto streamOf Call.streams (σ.addStreamHandle pid handle) t c
  rw [sumOf_addStreamHandle_of_not hnot, add_assoc, add_left_comm] at hset
  have hset := add_left_cancel hset
  change Call.streams ((σ.getClientL pid).2.calls t) + _ = _ at hgoto
  rw [hcalls, hgot, hnone, zero_add] at hgoto
  refine Stock.Balanced.congr hbooks ?_
  exact add_left_cancel (hgoto.trans hset)

/-- The stream goes from the client to the call. -/
theorem StreamBooks.removeClientInfoData (h : StreamBooks σ) (hown : Owned σ)
    (hc : σ.calls t = c₀) (hnone : c₀.streams = 0) (hgot : c.streams = {handle})
    (hheld : σ.holdsStream pid handle = true) :
    StreamBooks ((σ.removeClientInfoData pid handle).goto t c) := by
  obtain ⟨id, hpid, hvalid⟩ : ∃ id, σ.clientOf pid = some id ∧
      (σ.clients id).isValidStreamHandle handle = true := by
    unfold holdsStream at hheld
    split at hheld
    · exact ⟨_, ‹_›, hheld⟩
    · cases hheld
  obtain ⟨i, hi⟩ := isValid_iff.mp hvalid
  obtain ⟨-, hhandle⟩ := mem_of_getStreamInfo hi
  have hid : id < σ.created :=
    hown.bound id (Or.inl (Or.inl (List.mem_map.mpr ⟨_, mem_of_clientOf hpid, rfl⟩)))
  have hset := heldStreams_setClient ((σ.clients id).removeStreamHandle handle) hid
  rw [sumOf_removeStreamHandle hi, add_right_comm,
    add_comm (ClientInfo.sumOf streamOf _) σ.heldStreams] at hset
  have hset := add_right_cancel hset
  have hstream : streamOf i = {handle} := congrArg _ hhandle
  rw [hstream] at hset
  obtain ⟨fds, hfds⟩ := closeSharedMemoryFdPairs_eq σ id handle
  unfold Server.removeClientInfoData
  rw [getClientL_of_some hpid]
  simp only [hfds]
  -- whether the client stays does not matter to the books
  have hbooks : ∀ mClients, StreamBooks (({ σ.setClient id ((σ.clients id).removeStreamHandle handle)
      with fds, mClients } : Server Tid).goto t c) := by
    intro mClients
    have hgoto := held_goto streamOf Call.streams
      ({ σ.setClient id ((σ.clients id).removeStreamHandle handle) with fds, mClients }) t c
    change Call.streams (σ.calls t) + _ = _ at hgoto
    rw [hc, hnone, zero_add, hgot] at hgoto
    exact Stock.Balanced.congr h (hgoto.trans hset)
  split
  · exact hbooks _
  · exact hbooks _

/-- The call gives the stream back. -/
theorem StreamBooks.palStreamClose (h : StreamBooks σ) (hc : σ.calls t = c₀)
    (hgot : c₀.streams = {handle}) (hnone : c.streams = 0) :
    StreamBooks ((σ.palStreamClose handle).goto t c) := by
  have hgoto := held_goto streamOf Call.streams σ t c
  rw [hc, hnone, zero_add, hgot] at hgoto
  exact Stock.Balanced.giveBack (Stock.Balanced.congr h hgoto)

omit [DecidableEq Tid] in
theorem StreamBooks.removeSharedMemoryFdPairs (h : StreamBooks σ) (handle : Handle) (fd : Fd) :
    StreamBooks (σ.removeSharedMemoryFdPairs handle fd).2 := by
  have hsame : ∀ i : StreamInfo, streamOf (i.removeSharedMemoryFdPairs fd).2 = streamOf i := by
    intro i
    unfold StreamInfo.removeSharedMemoryFdPairs
    split <;> rfl
  refine Stock.Balanced.congr h ?_
  exact removeFdPairsFrom_rec
    (P := fun _ clients => ({ σ with clients } : Server Tid).heldStreams = σ.heldStreams)
    (fun e _ _ clients hP => (held_setClient_of_same (σ := { σ with clients })
      (sumOf_removeSharedMemoryFdPairs_of_same hsame)).trans hP) rfl

omit [DecidableEq Tid] in
theorem StreamBooks.addSharedMemoryFdPairs (h : StreamBooks σ) (pid : Pid) (handle : Handle)
    (fd : FdPair) : StreamBooks (σ.addSharedMemoryFdPairs pid handle fd) :=
  Stock.Balanced.congr (h.getClientL pid)
    (held_setClient_of_same (sumOf_addSharedMemoryFdPairs_of_same fun _ => rfl))

theorem StreamBooks.step (h : StreamBooks σ) (hown : Owned σ) (hok : σ.closesHeld (t, a))
    (hs : Stepped σ t a σ') : StreamBooks σ' := by
  have hcalls : ∀ {pid c}, σ.calls t = c → (σ.getClientL pid).2.calls t = c := by
    intro pid c hc
    rw [getClientL_calls, hc]
  cases hs with
  | streamOpen hc => exact (h.getClientL _).goto (hcalls hc) rfl
  | openFailed hc => exact h.leave hown hc rfl
  | openDone hc hne hnew => exact h.issue hc rfl hnew rfl
  | addStreamHandle hc => exact h.addStreamHandle hown hc rfl rfl
  | leave hc => exact h.leave hown hc rfl
  | check hc => exact h.getClientL _
  | streamClose hc => exact (h.getClientL _).goto (hcalls hc) rfl
  | removeClientInfoData hc => exact h.removeClientInfoData hown hc rfl rfl (hok rfl _ _ hc)
  | palStreamClose hc => exact h.palStreamClose hc rfl rfl
  | transfer hc => exact (h.getClientL _).goto (hcalls hc) rfl
  | getClient hc => exact (h.getClientL _).goto (hcalls hc) rfl
  | noClient hc => exact h.goto hc rfl
  | noFd hc hfd => exact h.goto hc rfl
  | dup hc hfd hnew => exact StreamBooks.goto h hc rfl
  | addSharedMemoryFdPairs hc =>
    exact (h.addSharedMemoryFdPairs _ _ _).goto (hcalls hc) rfl
  | addToPendingInputs hc hw => exact StreamBooks.goto h hc rfl
  | noPendingInput hc hw => exact h.goto hc rfl
  | palWrite hc => exact StreamBooks.goto h hc rfl
  | palRead hc => exact StreamBooks.goto h hc rfl
  | @callback b status hc hb =>
    have htaken : StreamBooks { σ with inPal := σ.inPal.erase b } := h
    exact (htaken.removeSharedMemoryFdPairs b.handle b.fd.2).goto hc rfl
  | getInputBufferIndex hc => exact StreamBooks.goto h hc rfl
  | closeFd hc => exact StreamBooks.goto h hc rfl
  | die hc => exact h.removeClient hown

/-! ### A stream that has gone -/

omit [Fintype Tid] [DecidableEq Tid] in
theorem getStreamInfo_of_not_held (h : σ.holdsStream pid handle = false) :
    ((σ.getClientL pid).2.clients (σ.getClientL pid).1).getStreamInfo handle = none := by
  unfold holdsStream at h
  unfold getClientL
  cases hpid : σ.clientOf pid with
  | some id =>
    rw [hpid] at h
    exact Option.isSome_eq_false_iff.mp h |> Option.isNone_iff_eq_none.mp
  | none =>
    show (Function.update σ.clients σ.created ⟨[]⟩ σ.created).getStreamInfo handle = none
    rw [Function.update_self]
    rfl

/-- The call goes on to close a stream that nobody gave it. -/
theorem StreamBooks.not_of_gone (h : StreamBooks σ) (hc : σ.calls t = .closing pid handle)
    (hgone : σ.holdsStream pid handle = false) :
    ¬ StreamBooks ((σ.removeClientInfoData pid handle).goto t (.removed handle)) := by
  intro hbooks
  have hnone := getStreamInfo_of_not_held hgone
  have hheld := held_getClientL streamOf Call.streams σ pid
  have hstreams := getClientL_streams σ pid
  have hcalls := getClientL_calls σ pid
  have hsame : ∃ mClients, σ.removeClientInfoData pid handle =
      { (σ.getClientL pid).2 with mClients } := by
    unfold Server.removeClientInfoData
    generalize σ.getClientL pid = r at hnone
    obtain ⟨id, σ⟩ := r
    have hclosed : σ.closeSharedMemoryFdPairs id handle = σ := by
      unfold Server.closeSharedMemoryFdPairs
      rw [hnone]
    have hset : σ.setClient id ((σ.clients id).removeStreamHandle handle) = σ := by
      rw [removeStreamHandle_of_none hnone]
      unfold setClient
      rw [Function.update_eq_self]
    simp only [hclosed, hset]
    split
    · exact ⟨_, rfl⟩
    · exact ⟨_, rfl⟩
  obtain ⟨mClients, hsame⟩ := hsame
  rw [hsame] at hbooks
  have hgoto := held_goto streamOf Call.streams
    ({ (σ.getClientL pid).2 with mClients }) t (.removed handle)
  change Call.streams ((σ.getClientL pid).2.calls t) + _ = _ + held _ _ (σ.getClientL pid).2 at hgoto
  rw [hcalls, hc, hheld] at hgoto
  have hissued := hbooks.issued
  change held _ _ _ = (σ.getClientL pid).2.streams.issued.val at hissued
  change 0 + held _ _ _ = {handle} + σ.heldStreams at hgoto
  rw [zero_add, hissued, hstreams, ← h.issued] at hgoto
  -- one share more than before
  have hcard := congrArg Multiset.card hgoto
  rw [Multiset.card_add, Multiset.card_singleton] at hcard
  omega

/-! ### Every run -/

/-- What is to hold of the streams after a step: PAL was asked to close open streams only, each stream
that is open is held by one client or one call, and none is open any more when there is neither. -/
structure StreamLaw (σ : Server Tid) : Prop where
  clean : σ.streams.faults = []
  once : σ.heldStreams = σ.streams.issued.val
  returned : σ.mClients = [] → (∀ t, σ.calls t = .idle) → σ.streams.issued = ∅

omit [DecidableEq Tid] in
theorem streamLaw_iff (hown : Owned σ) : σ.StreamLaw ↔ StreamBooks σ := by
  refine ⟨fun h => ⟨h.once, h.clean⟩, fun h => ⟨h.clean, h.issued, fun hm hidle => ?_⟩⟩
  rw [← Finset.val_eq_zero, ← h.issued]
  exact hown.held_of_quiet rfl hm hidle

/-- **The streams of the server.** The law of the streams holds after every step of a run if and only
if no stream goes between the check of a close and its removal. -/
theorem streamLaw_iff_closesHeld {is : List (Tid × Action)} :
    (∀ js σ, js <+: is → run step init js = some σ → σ.StreamLaw) ↔
      Meets step closesHeld init is := by
  refine law_prefixes_iff_meets (fun _ _ _ h hs => h.step (stepped_of_stepAt hs)) ?_ owned_init
    ((streamLaw_iff owned_init).mpr streamBooks_init)
  rintro σ ⟨t, a⟩ - hown hlaw
  have hbooks := (streamLaw_iff hown).mp hlaw
  constructor
  · rintro hall rfl pid handle hc
    by_contra hgone
    have hstep : σ.step (t, .removeClientInfoData) =
        some ((σ.removeClientInfoData pid handle).goto t (.removed handle)) := by
      unfold step stepAt
      rw [hc]
    have hown' := hown.step (stepped_of_stepAt hstep)
    exact hbooks.not_of_gone hc (Bool.eq_false_of_not_eq_true hgone)
      ((streamLaw_iff hown').mp (hall _ hstep))
  · intro hok σ' hs
    have hstepped := stepped_of_stepAt hs
    exact (streamLaw_iff (hown.step hstepped)).mpr (hbooks.step hown hok hstepped)

end Server

end AudioReachPal.Ipc
