import AudioReachPal.Ipc.Streams

/-!
# The duplicated fds

The server duplicates the fd of each buffer of a `write` or a `read`, keeps the number beside the
one of the client, and closes it when the callback of the buffer comes, or with the stream. Where the
stream of the buffer goes between the check of its handle and the record of the pair, the fd is not
recorded, and never closed. Nothing else makes the server lose an fd or close one that it does not
have open, in any order of the steps, as long as a client that passes an fd also gives its number.
-/

namespace AudioReachPal.Ipc

open AudioReachPal.Lib

/-- The fds among the numbers; a failed `dup` gives -1. -/
def openFds (l : List Fd) : List Fd := l.filter (0 ≤ ·)

/-- The duplicated fds of an entry. -/
def fdsOf (i : StreamInfo) : Multiset Fd := openFds i.dupFds

/-- The duplicated fd that a call has in its hands. -/
def Call.fds : Call → Multiset Fd
  | .duplicated _ _ b => openFds [b.fd.2]
  | .notified fdToBeClosed _ => openFds [fdToBeClosed]
  | _ => 0

/-- The pair names an fd of the client. -/
def Named (fd : FdPair) : Prop := 0 ≤ fd.2 → fd.1 ≠ -1

section Close

variable {s : Stock Fd} {m : Multiset Fd} {fd : Fd} {l : List Fd} {is : List StreamInfo}

theorem openFds_of_neg (h : fd < 0) : openFds [fd] = [] := by
  simp [openFds, h]

theorem openFds_of_nonneg (h : 0 ≤ fd) : openFds [fd] = [fd] := by
  simp [openFds, h]

theorem openFds_cons (fd : Fd) (l : List Fd) : openFds (fd :: l) = openFds [fd] ++ openFds l := by
  unfold openFds
  rw [← List.filter_append]
  rfl

theorem balanced_closeFd (h : s.Balanced (↑(openFds [fd]) + m)) : (closeFd s fd).Balanced m := by
  unfold closeFd
  split
  · rename_i hneg
    rw [openFds_of_neg hneg] at h
    exact h.congr (zero_add m).symm
  · rename_i hfd
    rw [openFds_of_nonneg (not_lt.mp hfd)] at h
    exact h.giveBack

theorem balanced_closeFds (h : s.Balanced (↑(openFds l) + m)) :
    (l.foldl closeFd s).Balanced m := by
  induction l generalizing s with
  | nil => exact h.congr (zero_add m).symm
  | cons fd l ih =>
    refine ih (balanced_closeFd (h.congr ?_))
    rw [openFds_cons fd l, ← Multiset.coe_add, add_assoc]

theorem balanced_closeInfos (h : s.Balanced ((is.map fdsOf).sum + m)) :
    (is.foldl StreamInfo.closeSharedMemoryFdPairs s).Balanced m := by
  induction is generalizing s with
  | nil => exact h.congr (zero_add m).symm
  | cons i is ih =>
    refine ih (balanced_closeFds (h.congr ?_))
    rw [List.map_cons, List.sum_cons, add_assoc]
    rfl

end Close

/-! ### Taking a pair out -/

section Take

variable {handle : Handle} {fd : Fd}

theorem openFds_eraseP {ps : List FdPair} {p : FdPair} (h : ps.find? (·.2 = fd) = some p) :
    (openFds (ps.map Prod.snd) : Multiset Fd) =
      openFds [fd] + openFds ((ps.eraseP (·.2 = fd)).map Prod.snd) := by
  induction ps with
  | nil => cases h
  | cons q ps ih =>
    rw [List.find?_cons] at h
    rw [List.eraseP_cons, List.map_cons, openFds_cons q.2 (ps.map Prod.snd), ← Multiset.coe_add]
    split at h
    · rename_i hq
      rw [hq, cond_true, show q.2 = fd by simpa using hq]
    · rename_i hq
      rw [hq, cond_false, List.map_cons, openFds_cons q.2 (List.map Prod.snd (List.eraseP _ ps)),
        ← Multiset.coe_add, ih h, add_left_comm]

/-- One pair of the fd goes, or there is none. -/
theorem fdsOf_removeSharedMemoryFdPairs (fd : Fd) (i : StreamInfo)
    (hi : ∀ p ∈ i.mInOutFdPairs, Named p) :
    ∃ n : ℕ, fdsOf i = n • (openFds [fd] : Multiset Fd) + fdsOf (i.removeSharedMemoryFdPairs fd).2 ∧
      (0 ≤ fd → ((i.removeSharedMemoryFdPairs fd).1 = -1 ↔ n = 0)) := by
  unfold StreamInfo.removeSharedMemoryFdPairs
  cases hfind : i.mInOutFdPairs.find? (·.2 = fd) with
  | none => exact ⟨0, by simp, fun _ => by simp⟩
  | some p =>
    have hp : p.2 = fd := by simpa using List.find?_some hfind
    have hnamed := hi p (List.mem_of_find?_eq_some hfind)
    refine ⟨1, ?_, fun hfd => ?_⟩
    · rw [one_nsmul]
      exact openFds_eraseP hfind
    · simpa using hnamed (hp ▸ hfd)

theorem sumOf_removeSharedMemoryFdPairs (handle : Handle) (fd : Fd) (c : ClientInfo)
    (hc : ∀ i ∈ c.mStreamInfoMap, ∀ p ∈ i.mInOutFdPairs, Named p) :
    ∃ n : ℕ, c.sumOf fdsOf = n • (openFds [fd] : Multiset Fd) +
        (c.removeSharedMemoryFdPairs handle fd).2.sumOf fdsOf ∧
      (0 ≤ fd → ((c.removeSharedMemoryFdPairs handle fd).1 = -1 ↔ n = 0)) := by
  unfold ClientInfo.removeSharedMemoryFdPairs
  cases hi : c.getStreamInfo handle with
  | none => exact ⟨0, by simp, fun _ => by simp⟩
  | some i =>
    obtain ⟨n, hn, hret⟩ := fdsOf_removeSharedMemoryFdPairs fd i
      (hc i (mem_of_getStreamInfo hi).1)
    refine ⟨n, ?_, hret⟩
    have hsum := sum_updateInfo (g := fdsOf) (f := fun i => (i.removeSharedMemoryFdPairs fd).2) hi
    rw [hn, add_right_comm, add_comm] at hsum
    exact (add_left_cancel hsum).symm

end Take

namespace Server

variable {Tid : Type} {σ σ' : Server Tid} {pid : Pid} {id : ClientId} {handle : Handle} {t : Tid}
  {a : Action} {c c₀ : Call} {fd : FdPair}

/-- A fd that was duplicated finds its stream in the client. -/
def recordsHeld (σ : Server Tid) (i : Tid × Action) : Prop :=
  i.2 = .addSharedMemoryFdPairs → ∀ pid client b, σ.calls i.1 = .duplicated pid client b →
    0 ≤ b.fd.2 → σ.holdsStream pid b.handle = true

/-- A client that passes an fd gives its number. -/
def namesFd : Action → Prop
  | .dup fd => Named fd
  | _ => True

/-- All recorded pairs name an fd of the client. -/
structure AllNamed (σ : Server Tid) : Prop where
  infos : ∀ id, ∀ i ∈ (σ.clients id).mStreamInfoMap, ∀ p ∈ i.mInOutFdPairs, Named p
  call : ∀ t pid client b, σ.calls t = .duplicated pid client b → Named b.fd

/-! ### The names -/

theorem allNamed_init : AllNamed (init : Server Tid) where
  infos _ _ h := by cases h
  call _ _ _ _ h := by cases h

theorem AllNamed.congr (h : AllNamed σ) (hclients : σ'.clients = σ.clients)
    (hcalls : σ'.calls = σ.calls) : AllNamed σ' := by
  constructor
  · rw [hclients]
    exact h.infos
  · rw [hcalls]
    exact h.call

theorem AllNamed.setClient (h : AllNamed σ) (id : ClientId) (info : ClientInfo)
    (hinfo : ∀ i ∈ info.mStreamInfoMap, ∀ p ∈ i.mInOutFdPairs, Named p) :
    AllNamed (σ.setClient id info) where
  infos j := by
    show ∀ i ∈ (Function.update σ.clients id info j).mStreamInfoMap, _
    by_cases hj : j = id
    · rw [hj, Function.update_self]
      exact hinfo
    · rw [Function.update_of_ne hj]
      exact h.infos j
  call := h.call

theorem AllNamed.getClientL (h : AllNamed σ) (hown : Owned σ) (pid : Pid) :
    AllNamed (σ.getClientL pid).2 := h.congr hown.getClientL_clients (getClientL_calls σ pid)

theorem AllNamed.goto [DecidableEq Tid] (h : AllNamed σ)
    (hc : ∀ pid client b, c = .duplicated pid client b → Named b.fd) : AllNamed (σ.goto t c) where
  infos := h.infos
  call u pid client b hu := by
    change Function.update σ.calls t c u = _ at hu
    by_cases hut : u = t
    · rw [hut, Function.update_self] at hu
      exact hc pid client b hu
    · rw [Function.update_of_ne hut] at hu
      exact h.call u pid client b hu

theorem named_removeSharedMemoryFdPairs {info : ClientInfo} {dupFd : Fd}
    (h : ∀ i ∈ info.mStreamInfoMap, ∀ p ∈ i.mInOutFdPairs, Named p) :
    ∀ i ∈ (info.removeSharedMemoryFdPairs handle dupFd).2.mStreamInfoMap,
      ∀ p ∈ i.mInOutFdPairs, Named p := by
  unfold ClientInfo.removeSharedMemoryFdPairs
  split
  · exact h
  · intro j hj
    rcases mem_updateInfo hj with hj | ⟨i, hi, rfl⟩
    · exact h j hj
    · unfold StreamInfo.removeSharedMemoryFdPairs
      split
      · exact h i hi
      · exact fun p hp => h i hi p (List.eraseP_subset hp)

theorem named_addSharedMemoryFdPairs {info : ClientInfo}
    (h : ∀ i ∈ info.mStreamInfoMap, ∀ p ∈ i.mInOutFdPairs, Named p) (hfd : Named fd) :
    ∀ i ∈ (info.addSharedMemoryFdPairs handle fd.1 fd.2).mStreamInfoMap,
      ∀ p ∈ i.mInOutFdPairs, Named p := by
  intro j hj
  rcases mem_updateInfo hj with hj | ⟨i, hi, rfl⟩
  · exact h j hj
  · intro p hp
    rcases List.mem_append.mp hp with hp | hp
    · exact h i hi p hp
    · rw [List.mem_singleton] at hp
      exact hp ▸ hfd

theorem named_addStreamHandle {info : ClientInfo}
    (h : ∀ i ∈ info.mStreamInfoMap, ∀ p ∈ i.mInOutFdPairs, Named p) :
    ∀ i ∈ (info.addStreamHandle handle).mStreamInfoMap, ∀ p ∈ i.mInOutFdPairs, Named p := by
  unfold ClientInfo.addStreamHandle
  split
  · exact h
  · intro i hi
    rcases List.mem_cons.mp hi with rfl | hi
    · intro p hp
      cases hp
    · exact h i hi

theorem AllNamed.cleanup (hown : OwnedBut (some id) σ) (h : AllNamed σ) :
    AllNamed (σ.cleanup id) := by
  rw [cleanup_eq (hown.nonnull id)]
  exact (h.setClient id ⟨[]⟩ (by simp)).congr rfl rfl

theorem AllNamed.removeClientInfoData (h : AllNamed σ) (hown : Owned σ) :
    AllNamed (σ.removeClientInfoData pid handle) := by
  have hnamed := h.getClientL hown pid
  unfold Server.removeClientInfoData
  generalize σ.getClientL pid = r at hnamed ⊢
  obtain ⟨id, σ⟩ := r
  obtain ⟨fds, hfds⟩ := closeSharedMemoryFdPairs_eq σ id handle
  have hclosed : AllNamed { σ with fds } := hnamed.congr rfl rfl
  have hset := hclosed.setClient id ((σ.clients id).removeStreamHandle handle)
    fun i hi => hnamed.infos id i (List.eraseP_subset hi)
  simp only [hfds]
  split
  · exact hset.congr rfl rfl
  · exact hset

theorem AllNamed.removeSharedMemoryFdPairs (h : AllNamed σ) (handle : Handle) (fd : Fd) :
    AllNamed (σ.removeSharedMemoryFdPairs handle fd).2 := by
  refine removeFdPairsFrom_rec (P := fun _ clients => AllNamed { σ with clients })
    (fun e _ _ clients hP => ?_) h
  exact hP.setClient e.2 _ (named_removeSharedMemoryFdPairs (hP.infos e.2))

variable [Fintype Tid]

section Threads

variable [DecidableEq Tid]

theorem AllNamed.leave (h : AllNamed σ) (hown : Owned σ) (hc : σ.calls t = c₀) :
    AllNamed (σ.leave t c₀.client) :=
  leave_of_cleanup hown hc (h.goto (by simp)) fun hown _ => AllNamed.cleanup hown

theorem AllNamed.step (h : AllNamed σ) (hown : Owned σ) (hname : namesFd a)
    (hs : Stepped σ t a σ') : AllNamed σ' := by
  cases hs with
  | streamOpen hc => exact (h.getClientL hown _).goto (by simp)
  | openFailed hc => exact h.leave hown hc
  | openDone hc hne hnew => exact AllNamed.goto (h.congr rfl rfl) (by simp)
  | addStreamHandle hc =>
    exact ((h.getClientL hown _).setClient _ _
      (named_addStreamHandle ((h.getClientL hown _).infos _))).goto (by simp)
  | leave hc => exact h.leave hown hc
  | check hc => exact h.getClientL hown _
  | streamClose hc => exact (h.getClientL hown _).goto (by simp)
  | removeClientInfoData hc => exact (h.removeClientInfoData hown).goto (by simp)
  | palStreamClose hc => exact AllNamed.goto (h.congr rfl rfl) (by simp)
  | transfer hc => exact (h.getClientL hown _).goto (by simp)
  | getClient hc => exact (h.getClientL hown _).goto (by simp)
  | noClient hc => exact h.goto (by simp)
  | noFd hc hfd =>
    refine h.goto ?_
    rintro _ _ _ ⟨⟩
    exact hname
  | dup hc hfd hnew =>
    refine AllNamed.goto (h.congr rfl rfl) ?_
    rintro _ _ _ ⟨⟩
    exact hname
  | addSharedMemoryFdPairs hc =>
    exact ((h.getClientL hown _).setClient _ _ (named_addSharedMemoryFdPairs
      ((h.getClientL hown _).infos _) (h.call _ _ _ _ hc))).goto (by simp)
  | addToPendingInputs hc hw => exact AllNamed.goto (h.congr rfl rfl) (by simp)
  | noPendingInput hc hw => exact h.goto (by simp)
  | palWrite hc => exact AllNamed.goto (h.congr rfl rfl) (by simp)
  | palRead hc => exact AllNamed.goto (h.congr rfl rfl) (by simp)
  | @callback b status hc hb =>
    have htaken : AllNamed { σ with inPal := σ.inPal.erase b } := h.congr rfl rfl
    exact (htaken.removeSharedMemoryFdPairs b.handle b.fd.2).goto (by simp)
  | getInputBufferIndex hc => exact AllNamed.goto (h.congr rfl rfl) (by simp)
  | closeFd hc => exact AllNamed.goto (h.congr rfl rfl) (by simp)
  | die hc =>
    exact removeClient_of_cleanup hown h (h.congr rfl rfl) fun hown _ => AllNamed.cleanup hown

end Threads

/-- What every step keeps as long as the clients give the numbers of their fds. -/
def OwnedAndNamed (σ : Server Tid) : Prop := Owned σ ∧ AllNamed σ

/-! ### The books -/

/-- What the clients and the calls hold of the fds. -/
def heldFds (σ : Server Tid) : Multiset Fd := σ.held fdsOf Call.fds

/-- Each open fd is held once. -/
def FdBooks (σ : Server Tid) : Prop := σ.fds.Balanced σ.heldFds

theorem fdBooks_init : FdBooks (init : Server Tid) := Stock.Balanced.empty.congr (held_init rfl)

theorem FdBooks.getClientL (h : FdBooks σ) (pid : Pid) : FdBooks (σ.getClientL pid).2 := by
  unfold FdBooks heldFds
  rw [held_getClientL, getClientL_fds]
  exact h

theorem FdBooks.cleanup (hown : OwnedBut (some id) σ) (h : FdBooks σ) :
    FdBooks (σ.cleanup id) := by
  have hheld := held_setClient (g := fdsOf) Call.fds (hown.bound id (Or.inr rfl)) ⟨[]⟩
  rw [sumOf_nil, zero_add] at hheld
  rw [cleanup_eq (hown.nonnull id)]
  exact balanced_closeInfos (Stock.Balanced.congr h hheld)

/-- The stream is empty when it comes to the client. -/
theorem FdBooks.addStreamHandle (h : FdBooks σ) (pid : Pid) (handle : Handle) :
    FdBooks (σ.addStreamHandle pid handle) :=
  Stock.Balanced.congr (h.getClientL pid)
    (held_setClient_of_same (sumOf_addStreamHandle_of_empty rfl))

/-- The fds of a stream are closed before it goes. -/
theorem FdBooks.removeClientInfoData (h : FdBooks σ) (hown : Owned σ) (pid : Pid)
    (handle : Handle) : FdBooks (σ.removeClientInfoData pid handle) := by
  have hbooks := h.getClientL pid
  have hid := (hown.getClientL pid).bound _ (Or.inl (referenced_getClientL_self σ pid))
  unfold Server.removeClientInfoData
  generalize σ.getClientL pid = r at hbooks hid
  obtain ⟨id, σ⟩ := r
  have hset : FdBooks ((σ.closeSharedMemoryFdPairs id handle).setClient id
      (((σ.closeSharedMemoryFdPairs id handle).clients id).removeStreamHandle handle)) := by
    unfold Server.closeSharedMemoryFdPairs
    cases hi : (σ.clients id).getStreamInfo handle with
    | none =>
      refine Stock.Balanced.congr hbooks (held_setClient_of_same ?_)
      rw [removeStreamHandle_of_none hi]
    | some i =>
      have hheld := held_setClient (g := fdsOf) Call.fds hid
        ((σ.clients id).removeStreamHandle handle)
      rw [sumOf_removeStreamHandle hi, add_right_comm, add_comm (ClientInfo.sumOf fdsOf _)] at hheld
      exact balanced_closeFds (Stock.Balanced.congr hbooks (add_right_cancel hheld))
  dsimp only
  split
  · exact hset
  · exact hset

variable [DecidableEq Tid]

theorem FdBooks.goto (h : FdBooks σ) (hc : σ.calls t = c₀) (hsame : c.fds = c₀.fds) :
    FdBooks (σ.goto t c) :=
  Stock.Balanced.congr h (held_goto_of_same (by rw [hc, hsame]))

theorem FdBooks.leave (h : FdBooks σ) (hown : Owned σ) (hc : σ.calls t = c₀) (hnone : c₀.fds = 0) :
    FdBooks (σ.leave t c₀.client) :=
  leave_of_cleanup hown hc (h.goto hc hnone.symm) fun hown _ => FdBooks.cleanup hown

/-- The kernel opens an fd for the call. -/
theorem FdBooks.issue {fd : Fd} (h : FdBooks σ) (hc : σ.calls t = c₀) (hnone : c₀.fds = 0)
    (hnew : fd ∉ σ.fds.issued) (hgot : c.fds = {fd}) :
    FdBooks (({ σ with fds := σ.fds.issue fd } : Server Tid).goto t c) := by
  have hgoto := held_goto fdsOf Call.fds σ t c
  rw [hc, hnone, zero_add, hgot] at hgoto
  exact Stock.Balanced.congr (Stock.Balanced.issue h hnew) hgoto

/-- The call closes its fd. -/
theorem FdBooks.closeFd {fd : Fd} (h : FdBooks σ) (hc : σ.calls t = c₀)
    (hgot : c₀.fds = openFds [fd]) (hnone : c.fds = 0) :
    FdBooks (({ σ with fds := Ipc.closeFd σ.fds fd } : Server Tid).goto t c) := by
  have hgoto := held_goto fdsOf Call.fds σ t c
  rw [hc, hnone, zero_add, hgot] at hgoto
  exact balanced_closeFd (Stock.Balanced.congr h hgoto)

omit [Fintype Tid] [DecidableEq Tid] in
theorem exists_of_holdsStream (h : σ.holdsStream pid handle = true) :
    ∃ id i, σ.clientOf pid = some id ∧ (σ.clients id).getStreamInfo handle = some i := by
  unfold holdsStream at h
  split at h
  · obtain ⟨i, hi⟩ := isValid_iff.mp h
    exact ⟨_, i, ‹_›, hi⟩
  · cases h

/-- The fd goes from the call to the stream of its buffer. -/
theorem FdBooks.addSharedMemoryFdPairs (h : FdBooks σ) (hown : Owned σ) (hc : σ.calls t = c₀)
    (hgot : c₀.fds = openFds [fd.2]) (hnone : c.fds = 0)
    (hheld : 0 ≤ fd.2 → σ.holdsStream pid handle = true) :
    FdBooks ((σ.addSharedMemoryFdPairs pid handle fd).goto t c) := by
  have hcalls : (σ.addSharedMemoryFdPairs pid handle fd).calls t = c₀ := by
    show (σ.getClientL pid).2.calls t = c₀
    rw [getClientL_calls, hc]
  have hadd : ∀ i : StreamInfo, fdsOf (i.addSharedMemoryFdPairs fd.1 fd.2) =
      openFds [fd.2] + fdsOf i := by
    intro i
    unfold fdsOf StreamInfo.dupFds StreamInfo.addSharedMemoryFdPairs openFds
    rw [List.map_append, List.filter_append, ← Multiset.coe_add, add_comm]
    rfl
  rcases lt_or_ge fd.2 0 with hneg | hfd
  · rw [openFds_of_neg hneg] at hgot hadd
    have hbooks : FdBooks (σ.addSharedMemoryFdPairs pid handle fd) :=
      Stock.Balanced.congr (h.getClientL pid) (held_setClient_of_same
        (sumOf_addSharedMemoryFdPairs_of_same fun i => (hadd i).trans (zero_add _)))
    exact hbooks.goto hcalls (hnone.trans hgot.symm)
  · obtain ⟨id, i, hpid, hi⟩ := exists_of_holdsStream (hheld hfd)
    have hid := hown.bound id (Or.inl (Or.inl (List.mem_map.mpr ⟨_, mem_of_clientOf hpid, rfl⟩)))
    have hgoto := held_goto fdsOf Call.fds (σ.addSharedMemoryFdPairs pid handle fd) t c
    rw [hcalls, hnone, zero_add, hgot] at hgoto
    -- the stream takes what the call gives
    have hsum := sum_updateInfo (g := fdsOf) (f := (·.addSharedMemoryFdPairs fd.1 fd.2)) hi
    rw [hadd, add_comm _ (fdsOf i), add_assoc] at hsum
    have hsum := add_left_cancel hsum
    have hset := held_setClient (g := fdsOf) Call.fds hid
      ((σ.clients id).addSharedMemoryFdPairs handle fd.1 fd.2)
    change _ = ((updateInfo handle _ (σ.clients id).mStreamInfoMap).map fdsOf).sum + _ at hset
    rw [hsum, add_comm (openFds [fd.2] : Multiset Fd), add_assoc] at hset
    have hset := add_left_cancel hset
    unfold Server.addSharedMemoryFdPairs at hgoto ⊢
    rw [getClientL_of_some hpid] at hgoto ⊢
    exact Stock.Balanced.congr h (add_left_cancel (hgoto.trans hset))

omit [DecidableEq Tid] in
/-- The loop over the clients takes out as many pairs of the fd as there are, and tells whether there
was one. -/
theorem heldFds_removeFdPairsFrom {fd : Fd} {es : List (Pid × ClientId)}
    (hes : ∀ e ∈ es, e.2 < σ.created) (ret : Fd) {clients : ClientId → ClientInfo}
    (hnamed : AllNamed { σ with clients }) :
    ∃ n : ℕ, ({ σ with clients } : Server Tid).heldFds = n • (openFds [fd] : Multiset Fd) +
        ({ σ with clients := (removeFdPairsFrom handle fd es clients ret).2 } : Server Tid).heldFds ∧
      (0 ≤ fd → ((removeFdPairsFrom handle fd es clients ret).1 = -1 ↔ ret = -1 ∧ n = 0)) := by
  induction es generalizing ret clients with
  | nil => exact ⟨0, by simp [removeFdPairsFrom], fun _ => by simp [removeFdPairsFrom]⟩
  | cons e es ih =>
    obtain ⟨m, hsum, hinput⟩ := sumOf_removeSharedMemoryFdPairs handle fd (clients e.2)
      (hnamed.infos e.2)
    have hset := held_setClient (g := fdsOf) (σ := { σ with clients }) Call.fds
      (hes e List.mem_cons_self) ((clients e.2).removeSharedMemoryFdPairs handle fd).2
    change (clients e.2).sumOf fdsOf + _ = _ at hset
    rw [hsum, add_right_comm, add_comm] at hset
    have hset := add_left_cancel hset
    obtain ⟨n, hheld, hret⟩ := ih (fun e' he' => hes e' (List.mem_cons_of_mem e he'))
      (if ((clients e.2).removeSharedMemoryFdPairs handle fd).1 ≠ -1 then
        ((clients e.2).removeSharedMemoryFdPairs handle fd).1 else ret)
      (hnamed.setClient e.2 _ (named_removeSharedMemoryFdPairs (hnamed.infos e.2)))
    refine ⟨m + n, ?_, fun hfd => ?_⟩
    · rw [add_nsmul, add_assoc]
      exact hset.symm.trans (congrArg _ hheld)
    · refine (hret hfd).trans ?_
      have hm := hinput hfd
      split
      · rename_i hne
        have hpos := (not_congr hm).mp hne
        constructor
        · rintro ⟨heq, -⟩
          exact absurd heq hne
        · rintro ⟨-, hzero⟩
          omega
      · rename_i heq
        have hzero := hm.mp (not_not.mp heq)
        rw [hzero, Nat.zero_add]

/-- The fd goes from the stream to the callback. -/
theorem FdBooks.removeSharedMemoryFdPairs {fd : Fd} (h : FdBooks σ) (hown : Owned σ)
    (hnamed : AllNamed σ) (hc : σ.calls t = c₀) (hnone : c₀.fds = 0)
    (hgot : c.fds = openFds [if (σ.removeSharedMemoryFdPairs handle fd).1 ≠ -1 then fd else -1]) :
    FdBooks ((σ.removeSharedMemoryFdPairs handle fd).2.goto t c) := by
  have hbound : ∀ e ∈ σ.mClients, e.2 < σ.created := fun e he =>
    hown.bound e.2 (Or.inl (Or.inl (List.mem_map.mpr ⟨e, he, rfl⟩)))
  obtain ⟨n, hheld, hret⟩ : ∃ n : ℕ, σ.heldFds = n • (openFds [fd] : Multiset Fd) +
      (σ.removeSharedMemoryFdPairs handle fd).2.heldFds ∧
      (0 ≤ fd → ((σ.removeSharedMemoryFdPairs handle fd).1 = -1 ↔ -1 = -1 ∧ n = 0)) :=
    heldFds_removeFdPairsFrom hbound (-1) hnamed
  have hgoto := held_goto fdsOf Call.fds (σ.removeSharedMemoryFdPairs handle fd).2 t c
  change Call.fds (σ.calls t) + _ = _ at hgoto
  rw [hc, hnone, zero_add] at hgoto
  refine Stock.Balanced.congr h (hgoto.trans ?_)
  rcases lt_or_ge fd 0 with hneg | hfd
  · have hnone' : c.fds = 0 := by
      rw [hgot]
      split
      · rw [openFds_of_neg hneg]
        rfl
      · rfl
    rw [openFds_of_neg hneg] at hheld
    rw [hnone', hheld]
    simp only [Multiset.coe_nil, nsmul_zero]
    rfl
  · rw [openFds_of_nonneg hfd] at hheld
    -- an open fd is in one pair at most
    have hcount := Multiset.nodup_iff_count_le_one.mp h.nodup fd
    rw [hheld, Multiset.count_add, Multiset.count_nsmul] at hcount
    have hn : n ≤ 1 := by
      have hone : Multiset.count fd ([fd] : Multiset Fd) = 1 := by simp
      rw [hone] at hcount
      omega
    rw [hheld, hgot]
    by_cases hzero : n = 0
    · rw [if_neg (by simpa using (hret hfd).mpr ⟨rfl, hzero⟩), hzero, zero_nsmul]
      rfl
    · have hone : n = 1 := by omega
      rw [if_pos (fun heq => hzero ((hret hfd).mp heq).2), hone, one_nsmul,
        openFds_of_nonneg hfd]
      rfl

theorem FdBooks.step (h : FdBooks σ) (hown : Owned σ) (hnamed : AllNamed σ)
    (hok : σ.recordsHeld (t, a)) (hs : Stepped σ t a σ') : FdBooks σ' := by
  have hcalls : ∀ {pid c}, σ.calls t = c → (σ.getClientL pid).2.calls t = c := by
    intro pid c hc
    rw [getClientL_calls, hc]
  cases hs with
  | streamOpen hc => exact (h.getClientL _).goto (hcalls hc) rfl
  | openFailed hc => exact h.leave hown hc rfl
  | openDone hc hne hnew => exact FdBooks.goto h hc rfl
  | addStreamHandle hc => exact (h.addStreamHandle _ _).goto (hcalls hc) rfl
  | leave hc => exact h.leave hown hc rfl
  | check hc => exact h.getClientL _
  | streamClose hc => exact (h.getClientL _).goto (hcalls hc) rfl
  | @removeClientInfoData pid handle hc =>
    have hclosing : (σ.removeClientInfoData pid handle).calls t = .closing pid handle := by
      rw [removeClientInfoData_calls, hc]
    exact (h.removeClientInfoData hown _ _).goto hclosing rfl
  | palStreamClose hc => exact FdBooks.goto h hc rfl
  | transfer hc => exact (h.getClientL _).goto (hcalls hc) rfl
  | getClient hc => exact (h.getClientL _).goto (hcalls hc) rfl
  | noClient hc => exact h.goto hc rfl
  | @noFd pid client handle buf fd hc hfd =>
    refine h.goto hc ?_
    show (openFds [fd.2] : Multiset Fd) = 0
    rw [openFds_of_neg (by rw [hfd]; decide)]
    rfl
  | @dup pid client handle buf fd hc hfd hnew =>
    refine h.issue hc rfl hnew ?_
    show (openFds [fd.2] : Multiset Fd) = {fd.2}
    rw [openFds_of_nonneg hfd]
    rfl
  | addSharedMemoryFdPairs hc =>
    exact h.addSharedMemoryFdPairs hown hc rfl rfl (hok rfl _ _ _ hc)
  | addToPendingInputs hc hw => exact FdBooks.goto h hc rfl
  | noPendingInput hc hw => exact h.goto hc rfl
  | palWrite hc => exact FdBooks.goto h hc rfl
  | palRead hc => exact FdBooks.goto h hc rfl
  | @callback b status hc hb =>
    have htaken : FdBooks { σ with inPal := σ.inPal.erase b } := h
    exact htaken.removeSharedMemoryFdPairs (hown.congr rfl rfl rfl rfl) (hnamed.congr rfl rfl) hc
      rfl rfl
  | getInputBufferIndex hc => exact FdBooks.goto h hc rfl
  | closeFd hc => exact h.closeFd hc rfl rfl
  | die hc => exact removeClient_of_cleanup hown h h fun hown _ => FdBooks.cleanup hown

/-- The pair is recorded nowhere, and nobody has the fd any more. -/
theorem FdBooks.not_of_gone {client : Option ClientId} {b : InPal} (h : FdBooks σ)
    (hc : σ.calls t = .duplicated pid client b) (hfd : 0 ≤ b.fd.2)
    (hgone : σ.holdsStream pid b.handle = false) :
    ¬ FdBooks ((σ.addSharedMemoryFdPairs pid b.handle b.fd).goto t (.recorded client b)) := by
  intro hbooks
  have hnone := getStreamInfo_of_not_held hgone
  have hsame : σ.addSharedMemoryFdPairs pid b.handle b.fd = (σ.getClientL pid).2 := by
    unfold Server.addSharedMemoryFdPairs ClientInfo.addSharedMemoryFdPairs
    generalize σ.getClientL pid = r at hnone
    obtain ⟨id, σ⟩ := r
    dsimp only at hnone ⊢
    rw [updateInfo_of_none hnone]
    unfold setClient
    rw [Function.update_eq_self]
  rw [hsame] at hbooks
  have hgoto := held_goto fdsOf Call.fds (σ.getClientL pid).2 t (.recorded client b)
  rw [getClientL_calls, hc, held_getClientL] at hgoto
  have hissued := hbooks.issued
  change held _ _ _ = (σ.getClientL pid).2.fds.issued.val at hissued
  change (openFds [b.fd.2] : Multiset Fd) + held _ _ _ = 0 + σ.heldFds at hgoto
  rw [zero_add, hissued, getClientL_fds, ← h.issued, openFds_of_nonneg hfd] at hgoto
  have hcard := congrArg Multiset.card hgoto
  rw [Multiset.card_add, Multiset.coe_card, List.length_singleton] at hcard
  omega

/-! ### Every run -/

/-- What is to hold of the duplicated fds after a step: the server has closed open fds only, each fd
that is open is held by one client or one call, and none is open any more when there is neither. -/
structure FdLaw (σ : Server Tid) : Prop where
  clean : σ.fds.faults = []
  once : σ.heldFds = σ.fds.issued.val
  returned : σ.mClients = [] → (∀ t, σ.calls t = .idle) → σ.fds.issued = ∅

omit [DecidableEq Tid] in
theorem fdLaw_iff (hown : Owned σ) : σ.FdLaw ↔ FdBooks σ := by
  refine ⟨fun h => ⟨h.once, h.clean⟩, fun h => ⟨h.clean, h.issued, fun hm hidle => ?_⟩⟩
  rw [← Finset.val_eq_zero, ← h.issued]
  exact hown.held_of_quiet rfl hm hidle

/-- **The fds of the server.** Where the clients give the numbers of their fds, the law of the fds holds
after every step of a run if and only if no stream goes between the duplication of the fd of a buffer
and the record of the pair. -/
theorem fdLaw_iff_recordsHeld {is : List (Tid × Action)} (hnames : ∀ i ∈ is, namesFd i.2) :
    (∀ js σ, js <+: is → run step init js = some σ → σ.FdLaw) ↔
      Meets step recordsHeld init is := by
  have hinit : OwnedAndNamed (init : Server Tid) := ⟨owned_init, allNamed_init⟩
  refine law_prefixes_iff_meets_of_fair hnames ?_ ?_ hinit
    ((fdLaw_iff owned_init).mpr fdBooks_init)
  · rintro σ ⟨t, a⟩ σ' hname ⟨hown, hnamed⟩ hs
    have hstepped := stepped_of_stepAt hs
    exact ⟨hown.step hstepped, hnamed.step hown hname hstepped⟩
  · rintro σ ⟨t, a⟩ hname ⟨hown, hnamed⟩ hlaw
    have hbooks := (fdLaw_iff hown).mp hlaw
    constructor
    · rintro hall rfl pid client b hc hfd
      by_contra hgone
      have hstep : σ.step (t, .addSharedMemoryFdPairs) =
          some ((σ.addSharedMemoryFdPairs pid b.handle b.fd).goto t (.recorded client b)) := by
        unfold step stepAt
        rw [hc]
      have hown' := hown.step (stepped_of_stepAt hstep)
      exact hbooks.not_of_gone hc hfd (Bool.eq_false_of_not_eq_true hgone)
        ((fdLaw_iff hown').mp (hall _ hstep))
    · intro hok σ' hs
      have hstepped := stepped_of_stepAt hs
      exact (fdLaw_iff (hown.step hstepped)).mpr (hbooks.step hown hnamed hok hstepped)

/-- A process writes a buffer whose fd it calls 5 and the server 8, and dies. -/
theorem fdLaw_iff_recordsHeld_write :
    (∀ js σ, js <+: [((0 : Fin 2), Action.streamOpen 10), (0, .palStreamOpen (some 7)),
        (0, .addStreamHandle), (0, .leave), (0, .transfer 10 7 ⟨true, 0, 41⟩), (0, .getClient),
        (0, .dup (5, 8)), (1, .die 10), (0, .addSharedMemoryFdPairs)] →
      run step init js = some σ → σ.FdLaw) ↔
    Meets step recordsHeld init [((0 : Fin 2), Action.streamOpen 10), (0, .palStreamOpen (some 7)),
        (0, .addStreamHandle), (0, .leave), (0, .transfer 10 7 ⟨true, 0, 41⟩), (0, .getClient),
        (0, .dup (5, 8)), (1, .die 10), (0, .addSharedMemoryFdPairs)] :=
  fdLaw_iff_recordsHeld (by simp [namesFd, Named])

end Server

end AudioReachPal.Ipc
