import AudioReachPal.Ipc.Holdings

/-!
# References to the clients

An object that neither the map nor a call refers to has been cleaned up, so that nothing is left in
it. Every step of the server keeps this, whatever the order of the steps.
-/

namespace AudioReachPal.Ipc.Server

open AudioReachPal.Lib

variable {Tid : Type} {σ : Server Tid} {pid : Pid} {id : ClientId} {handle : Handle}

/-! ### Looking a client up -/

theorem mem_of_clientOf (h : σ.clientOf pid = some id) : (pid, id) ∈ σ.mClients := by
  obtain ⟨e, he, rfl⟩ := Option.map_eq_some_iff.mp h
  have hpid : e.1 = pid := by simpa using List.find?_some he
  subst hpid
  exact List.mem_of_find?_eq_some he

theorem getClientL_of_some (h : σ.clientOf pid = some id) : σ.getClientL pid = (id, σ) := by
  unfold getClientL
  rw [h]

theorem getClientL_mem (σ : Server Tid) (pid : Pid) :
    ((pid, (σ.getClientL pid).1) ∈ (σ.getClientL pid).2.mClients) := by
  unfold getClientL
  cases h : σ.clientOf pid with
  | some id => exact mem_of_clientOf h
  | none => exact List.mem_cons_self

@[simp] theorem getClientL_calls (σ : Server Tid) (pid : Pid) :
    (σ.getClientL pid).2.calls = σ.calls := by
  unfold getClientL
  split <;> rfl

@[simp] theorem getClientL_streams (σ : Server Tid) (pid : Pid) :
    (σ.getClientL pid).2.streams = σ.streams := by
  unfold getClientL
  split <;> rfl

@[simp] theorem getClientL_fds (σ : Server Tid) (pid : Pid) :
    (σ.getClientL pid).2.fds = σ.fds := by
  unfold getClientL
  split <;> rfl

@[simp] theorem getClientL_inPal (σ : Server Tid) (pid : Pid) :
    (σ.getClientL pid).2.inPal = σ.inPal := by
  unfold getClientL
  split <;> rfl

@[simp] theorem getClientL_acks (σ : Server Tid) (pid : Pid) :
    (σ.getClientL pid).2.acks = σ.acks := by
  unfold getClientL
  split <;> rfl

@[simp] theorem getClientL_gInputsPendingAck (σ : Server Tid) (pid : Pid) :
    (σ.getClientL pid).2.gInputsPendingAck = σ.gInputsPendingAck := by
  unfold getClientL
  split <;> rfl

/-- The entry that `eraseP` takes out is the one that `find?` finds. -/
theorem mem_eraseP_of_ne {β : Type*} {p : β → Bool} {a b : β} {l : List β}
    (h : l.find? p = some a) (hb : b ∈ l) (hne : b ≠ a) : b ∈ l.eraseP p := by
  induction l with
  | nil => cases hb
  | cons c l ih =>
    rw [List.find?_cons] at h
    rw [List.eraseP_cons]
    split at h
    · rename_i hc
      cases h
      rw [hc, cond_true]
      exact (List.mem_cons.mp hb).resolve_left hne
    · rename_i hc
      rw [hc, cond_false]
      rcases List.mem_cons.mp hb with rfl | hb
      · exact List.mem_cons_self
      · exact List.mem_cons_of_mem c (ih h hb)

/-! ### The clean-up of an object -/

theorem foldl_forceCloseStream {is : List StreamInfo} (h : ∀ i ∈ is, i.mHandle ≠ 0)
    (σ : Server Tid) :
    is.foldl forceCloseStream σ =
      { σ with
        streams := σ.streams.giveBackAll (is.map (·.mHandle))
        inPal := σ.inPal.filter fun b => b.handle ∉ is.map (·.mHandle) } := by
  induction is generalizing σ with
  | nil => simp [Stock.giveBackAll]
  | cons i is ih =>
    have hi := h i List.mem_cons_self
    rw [List.foldl_cons, ih fun j hj => h j (List.mem_cons_of_mem i hj)]
    unfold forceCloseStream
    rw [if_pos hi]
    unfold palStreamClose
    simp only [List.map_cons, List.mem_cons, not_or, List.filter_filter, Stock.giveBackAll,
      List.foldl_cons]
    congr 1
    refine List.filter_congr fun b _ => ?_
    rw [Bool.decide_and]
    exact Bool.and_comm _ _

theorem cleanup_eq (h : ∀ i ∈ (σ.clients id).mStreamInfoMap, i.mHandle ≠ 0) :
    σ.cleanup id =
      { σ with
        clients := Function.update σ.clients id ⟨[]⟩
        streams := σ.streams.giveBackAll ((σ.clients id).mStreamInfoMap.map (·.mHandle))
        fds := (σ.clients id).mStreamInfoMap.foldl StreamInfo.closeSharedMemoryFdPairs σ.fds
        inPal := σ.inPal.filter fun b =>
          b.handle ∉ (σ.clients id).mStreamInfoMap.map (·.mHandle) } := by
  unfold cleanup
  simp only [foldl_forceCloseStream h]
  rfl

/-! ### The invariant -/

/-- Nothing is left in an object that nobody refers to, `x` apart, to which a reference has just
gone; no object has the null stream. -/
structure OwnedBut (x : Option ClientId) (σ : Server Tid) : Prop where
  bound : ∀ id, σ.referenced id ∨ x = some id → id < σ.created
  empty : ∀ id, ¬ σ.referenced id → x ≠ some id → σ.clients id = ⟨[]⟩
  nonnull : ∀ id, ∀ i ∈ (σ.clients id).mStreamInfoMap, i.mHandle ≠ 0
  opened : ∀ t pid client handle, σ.calls t = .opened pid client handle → handle ≠ 0

abbrev Owned (σ : Server Tid) : Prop := OwnedBut none σ

variable {x : Option ClientId}

theorem owned_init : Owned (init : Server Tid) where
  bound := by
    rintro id ((h | ⟨t, h⟩) | h) <;> cases h
  empty _ _ _ := rfl
  nonnull _ _ h := by cases h
  opened _ _ _ _ h := by cases h

/-- The next object is empty before it is created. -/
theorem OwnedBut.clients_created (h : OwnedBut x σ) : σ.clients σ.created = ⟨[]⟩ := by
  refine h.empty σ.created (fun href => ?_) (fun hx => ?_)
  · exact lt_irrefl _ (h.bound _ (Or.inl href))
  · exact lt_irrefl _ (h.bound _ (Or.inr hx))

/-- Looking a client up changes no object. -/
theorem OwnedBut.getClientL_clients (h : OwnedBut x σ) :
    (σ.getClientL pid).2.clients = σ.clients := by
  unfold getClientL
  cases σ.clientOf pid with
  | some id => rfl
  | none => exact Function.update_eq_self_iff.mpr h.clients_created.symm

theorem referenced_getClientL :
    (σ.getClientL pid).2.referenced id ↔ σ.referenced id ∨ id = (σ.getClientL pid).1 := by
  unfold referenced
  rw [getClientL_calls]
  have hmem := getClientL_mem σ pid
  unfold getClientL at hmem ⊢
  cases hc : σ.clientOf pid with
  | some j =>
    have hj : j ∈ σ.mClients.map Prod.snd := List.mem_map.mpr ⟨_, mem_of_clientOf hc, rfl⟩
    refine ⟨Or.inl, ?_⟩
    rintro (h | rfl)
    · exact h
    · exact Or.inl hj
  | none =>
    rw [List.map_cons, List.mem_cons]
    constructor
    · rintro ((rfl | h) | h)
      · exact Or.inr rfl
      · exact Or.inl (Or.inl h)
      · exact Or.inl (Or.inr h)
    · rintro ((h | h) | rfl)
      · exact Or.inl (Or.inr h)
      · exact Or.inr h
      · exact Or.inl (Or.inl rfl)

/-! ### What keeps it -/

theorem OwnedBut.congr {σ' : Server Tid} (h : OwnedBut x σ) (hm : σ'.mClients = σ.mClients)
    (hclients : σ'.clients = σ.clients) (hcreated : σ'.created = σ.created)
    (hcalls : σ'.calls = σ.calls) : OwnedBut x σ' := by
  have href : ∀ id, σ'.referenced id ↔ σ.referenced id := by
    intro id
    unfold referenced
    rw [hm, hcalls]
  constructor
  · intro id
    rw [href, hcreated]
    exact h.bound id
  · intro id
    rw [href, hclients]
    exact h.empty id
  · rw [hclients]
    exact h.nonnull
  · rw [hcalls]
    exact h.opened

theorem OwnedBut.owned_of_referenced (h : OwnedBut (some id) σ) (href : σ.referenced id) :
    Owned σ where
  bound j hj := by
    rcases hj with hj | hj
    · exact h.bound j (Or.inl hj)
    · cases hj
  empty j hj _ := by
    refine h.empty j hj fun hx => ?_
    cases hx
    exact hj href
  nonnull := h.nonnull
  opened := h.opened

theorem OwnedBut.owned_of_empty (h : OwnedBut (some id) σ) (hempty : σ.clients id = ⟨[]⟩) :
    Owned σ where
  bound j hj := by
    rcases hj with hj | hj
    · exact h.bound j (Or.inl hj)
    · cases hj
  empty j hj _ := by
    by_cases hid : j = id
    · rw [hid, hempty]
    · exact h.empty j hj fun hx => hid (Option.some.inj hx).symm
  nonnull := h.nonnull
  opened := h.opened

theorem OwnedBut.getClientL (h : OwnedBut x σ) (pid : Pid) : OwnedBut x (σ.getClientL pid).2 where
  bound id hid := by
    have hcreated : σ.created ≤ (σ.getClientL pid).2.created ∧
        (σ.getClientL pid).1 < (σ.getClientL pid).2.created := by
      unfold Server.getClientL
      cases hc : σ.clientOf pid with
      | some j =>
        have hj : j ∈ σ.mClients.map Prod.snd := List.mem_map.mpr ⟨_, mem_of_clientOf hc, rfl⟩
        exact ⟨le_rfl, h.bound j (Or.inl (Or.inl hj))⟩
      | none => exact ⟨Nat.le_succ _, Nat.lt_succ_self _⟩
    rw [referenced_getClientL] at hid
    rcases hid with (hid | rfl) | hid
    · exact lt_of_lt_of_le (h.bound id (Or.inl hid)) hcreated.1
    · exact hcreated.2
    · exact lt_of_lt_of_le (h.bound id (Or.inr hid)) hcreated.1
  empty id hid hx := by
    rw [referenced_getClientL, not_or] at hid
    rw [h.getClientL_clients]
    exact h.empty id hid.1 hx
  nonnull := by
    rw [h.getClientL_clients]
    exact h.nonnull
  opened := by
    rw [getClientL_calls]
    exact h.opened

theorem OwnedBut.setClient {c : ClientInfo} (h : OwnedBut x σ)
    (href : σ.referenced id ∨ x = some id) (hc : ∀ i ∈ c.mStreamInfoMap, i.mHandle ≠ 0) :
    OwnedBut x (σ.setClient id c) where
  bound := h.bound
  empty j hj hx := by
    have hne : j ≠ id := by
      rintro rfl
      exact href.elim hj hx
    show Function.update σ.clients id c j = _
    rw [Function.update_of_ne hne]
    exact h.empty j hj hx
  nonnull j := by
    show ∀ i ∈ (Function.update σ.clients id c j).mStreamInfoMap, _
    by_cases hj : j = id
    · rw [hj, Function.update_self]
      exact hc
    · rw [Function.update_of_ne hj]
      exact h.nonnull j
  opened := h.opened

theorem OwnedBut.removeClientL (h : Owned σ) (hpid : σ.clientOf pid = some id) :
    OwnedBut (some id) (σ.removeClientL pid) where
  bound j hj := by
    rcases hj with (hj | hj) | hj
    · exact h.bound j (Or.inl (Or.inl (List.map_subset _ List.eraseP_subset hj)))
    · exact h.bound j (Or.inl (Or.inr hj))
    · cases hj
      exact h.bound id (Or.inl (Or.inl (List.mem_map.mpr ⟨_, mem_of_clientOf hpid, rfl⟩)))
  empty j hj hx := by
    refine h.empty j (fun href => hj ?_) (by simp)
    rcases href with href | href
    · -- the entry that goes is the one of `id`
      obtain ⟨e, he, rfl⟩ := List.mem_map.mp href
      refine Or.inl (List.mem_map.mpr ⟨e, ?_, rfl⟩)
      obtain ⟨e', he', rfl⟩ := Option.map_eq_some_iff.mp hpid
      refine mem_eraseP_of_ne he' he ?_
      rintro rfl
      exact hx rfl
    · exact Or.inr href
  nonnull := h.nonnull
  opened := h.opened

section Threads

variable [DecidableEq Tid] {t : Tid} {c : Call}

theorem OwnedBut.goto (h : Owned σ) (hnew : ∀ id, c.client = some id → σ.referenced id)
    (hopen : ∀ pid client handle, c = .opened pid client handle → handle ≠ 0) :
    OwnedBut (σ.calls t).client (σ.goto t c) where
  bound id hid := by
    refine h.bound id (Or.inl ?_)
    rcases hid with (hid | ⟨u, hu⟩) | hid
    · exact Or.inl hid
    · change (Function.update σ.calls t c u).client = some id at hu
      by_cases hut : u = t
      · rw [hut, Function.update_self] at hu
        exact hnew id hu
      · rw [Function.update_of_ne hut] at hu
        exact Or.inr ⟨u, hu⟩
    · exact Or.inr ⟨t, hid⟩
  empty id hid hold := by
    refine h.empty id (fun href => hid ?_) (by simp)
    rcases href with href | ⟨u, hu⟩
    · exact Or.inl href
    · refine Or.inr ⟨u, ?_⟩
      have hut : u ≠ t := by
        rintro rfl
        exact hold hu
      show (Function.update σ.calls t c u).client = some id
      rw [Function.update_of_ne hut, hu]
  nonnull := h.nonnull
  opened u pid client handle hu := by
    change Function.update σ.calls t c u = _ at hu
    by_cases hut : u = t
    · rw [hut, Function.update_self] at hu
      exact hopen pid client handle hu
    · rw [Function.update_of_ne hut] at hu
      exact h.opened u pid client handle hu

/-- The call goes on with the object it holds. -/
theorem OwnedBut.goto_of_client {c₀ : Call} (h : Owned σ) (hc : σ.calls t = c₀)
    (hclient : c.client = c₀.client)
    (hopen : ∀ pid client handle, c = .opened pid client handle → handle ≠ 0) :
    Owned (σ.goto t c) := by
  rw [← hc] at hclient
  have hgoto := OwnedBut.goto (t := t) h (fun id hid => Or.inr ⟨t, hclient ▸ hid⟩) hopen
  cases hx : (σ.calls t).client with
  | none =>
    rw [hx] at hgoto
    exact hgoto
  | some id =>
    rw [hx] at hgoto
    refine hgoto.owned_of_referenced (Or.inr ⟨t, ?_⟩)
    show (Function.update σ.calls t c t).client = some id
    rw [Function.update_self, hclient, hx]

variable [Fintype Tid]

omit [DecidableEq Tid] in
theorem OwnedBut.dropped (h : OwnedBut (some id) σ) : Owned (σ.dropped id) := by
  unfold Server.dropped
  split
  · rename_i href
    exact h.owned_of_referenced href
  · rw [cleanup_eq (h.nonnull id)]
    have hset := h.setClient (c := ⟨[]⟩) (Or.inr rfl) (by simp)
    have hempty : (σ.setClient id ⟨[]⟩).clients id = ⟨[]⟩ := Function.update_self ..
    exact (hset.owned_of_empty hempty).congr rfl rfl rfl rfl

theorem OwnedBut.leave {client : Option ClientId} (h : Owned σ)
    (hclient : (σ.calls t).client = client) : Owned (σ.leave t client) := by
  have hgoto := OwnedBut.goto (t := t) (c := .idle) h (by simp [Call.client]) (by simp)
  rw [hclient] at hgoto
  cases client with
  | none => exact hgoto
  | some id => exact hgoto.dropped

/-- What the clean-up of an object keeps, the return of a call keeps. -/
theorem leave_of_cleanup {P : Server Tid → Prop} {c₀ : Call} (h : Owned σ) (hc : σ.calls t = c₀)
    (hgoto : P (σ.goto t .idle))
    (hcleanup : ∀ {τ : Server Tid} {id}, OwnedBut (some id) τ → ¬ τ.referenced id → P τ →
      P (τ.cleanup id)) :
    P (σ.leave t c₀.client) := by
  have hbut := OwnedBut.goto (t := t) (c := .idle) h (by simp [Call.client]) (by simp)
  rw [hc] at hbut
  cases hclient : c₀.client with
  | none => exact hgoto
  | some id =>
    rw [hclient] at hbut
    show P ((σ.goto t .idle).dropped id)
    unfold Server.dropped
    split
    · exact hgoto
    · exact hcleanup hbut ‹_› hgoto

end Threads

/-! ### Operations of several parts -/

theorem clientOf_getClientL (σ : Server Tid) (pid : Pid) :
    (σ.getClientL pid).2.clientOf pid = some (σ.getClientL pid).1 := by
  unfold getClientL
  cases h : σ.clientOf pid with
  | some id => exact h
  | none => simp [clientOf]

theorem referenced_getClientL_self (σ : Server Tid) (pid : Pid) :
    (σ.getClientL pid).2.referenced (σ.getClientL pid).1 :=
  referenced_getClientL.mpr (Or.inr rfl)

/-- What each turn of the loop over the clients keeps, the loop keeps. -/
theorem removeFdPairsFrom_rec {P : Fd → (ClientId → ClientInfo) → Prop} {dupFd : Fd}
    {es : List (Pid × ClientId)}
    (hstep : ∀ e ∈ es, ∀ ret clients, P ret clients →
      P (if ((clients e.2).removeSharedMemoryFdPairs handle dupFd).1 ≠ -1 then
          ((clients e.2).removeSharedMemoryFdPairs handle dupFd).1 else ret)
        (Function.update clients e.2
          ((clients e.2).removeSharedMemoryFdPairs handle dupFd).2))
    {ret : Fd} {clients : ClientId → ClientInfo} (h : P ret clients) :
    P (removeFdPairsFrom handle dupFd es clients ret).1
      (removeFdPairsFrom handle dupFd es clients ret).2 := by
  induction es generalizing ret clients with
  | nil => exact h
  | cons e es ih =>
    exact ih (fun e' he' => hstep e' (List.mem_cons_of_mem e he'))
      (hstep e List.mem_cons_self ret clients h)

theorem nonnull_removeSharedMemoryFdPairs {c : ClientInfo} {dupFd : Fd}
    (h : ∀ i ∈ c.mStreamInfoMap, i.mHandle ≠ 0) :
    ∀ i ∈ (c.removeSharedMemoryFdPairs handle dupFd).2.mStreamInfoMap, i.mHandle ≠ 0 := by
  unfold ClientInfo.removeSharedMemoryFdPairs
  split
  · exact h
  · intro j hj
    rcases mem_updateInfo hj with hj | ⟨i, hi, rfl⟩
    · exact h j hj
    · unfold StreamInfo.removeSharedMemoryFdPairs
      split <;> exact h i hi

theorem OwnedBut.removeSharedMemoryFdPairs (h : OwnedBut x σ) (handle : Handle) (dupFd : Fd) :
    OwnedBut x (σ.removeSharedMemoryFdPairs handle dupFd).2 := by
  refine removeFdPairsFrom_rec (P := fun _ clients => OwnedBut x { σ with clients })
    (fun e he _ clients hP => ?_) h
  have href : σ.referenced e.2 := Or.inl (List.mem_map.mpr ⟨e, he, rfl⟩)
  exact hP.setClient (Or.inl href) (nonnull_removeSharedMemoryFdPairs (hP.nonnull e.2))

theorem nonnull_addStreamHandle {c : ClientInfo} (h : ∀ i ∈ c.mStreamInfoMap, i.mHandle ≠ 0)
    (hne : handle ≠ 0) : ∀ i ∈ (c.addStreamHandle handle).mStreamInfoMap, i.mHandle ≠ 0 := by
  unfold ClientInfo.addStreamHandle
  split
  · exact h
  · intro i hi
    rcases List.mem_cons.mp hi with rfl | hi
    · exact hne
    · exact h i hi

theorem OwnedBut.addStreamHandle (h : Owned σ) (hne : handle ≠ 0) :
    Owned (σ.addStreamHandle pid handle) :=
  (h.getClientL pid).setClient (Or.inl (referenced_getClientL_self σ pid))
    (nonnull_addStreamHandle ((h.getClientL pid).nonnull _) hne)

theorem OwnedBut.addSharedMemoryFdPairs {fd : FdPair} (h : Owned σ) :
    Owned (σ.addSharedMemoryFdPairs pid handle fd) := by
  refine (h.getClientL pid).setClient (Or.inl (referenced_getClientL_self σ pid)) fun i hi => ?_
  rcases mem_updateInfo hi with hi | ⟨j, hj, rfl⟩
  · exact (h.getClientL pid).nonnull _ i hi
  · exact (h.getClientL pid).nonnull _ j hj

theorem closeSharedMemoryFdPairs_eq (σ : Server Tid) (id : ClientId) (handle : Handle) :
    ∃ fds, σ.closeSharedMemoryFdPairs id handle = { σ with fds } := by
  unfold closeSharedMemoryFdPairs
  split
  · exact ⟨_, rfl⟩
  · exact ⟨σ.fds, rfl⟩

@[simp] theorem removeClientInfoData_calls :
    (σ.removeClientInfoData pid handle).calls = σ.calls := by
  have hcalls := getClientL_calls σ pid
  unfold removeClientInfoData
  generalize σ.getClientL pid = r at hcalls ⊢
  obtain ⟨id, σ⟩ := r
  obtain ⟨fds, hfds⟩ := closeSharedMemoryFdPairs_eq σ id handle
  simp only [hfds]
  split <;> exact hcalls

theorem OwnedBut.removeClientInfoData (h : Owned σ) :
    Owned (σ.removeClientInfoData pid handle) := by
  have hid := clientOf_getClientL σ pid
  have href := referenced_getClientL_self σ pid
  have hown := h.getClientL pid
  unfold Server.removeClientInfoData
  generalize σ.getClientL pid = r at hid href hown ⊢
  obtain ⟨id, σ⟩ := r
  obtain ⟨fds, hfds⟩ := closeSharedMemoryFdPairs_eq σ id handle
  have hremoved : ∀ i ∈ ((σ.clients id).removeStreamHandle handle).mStreamInfoMap, i.mHandle ≠ 0 :=
    fun i hi => hown.nonnull id i (List.eraseP_subset hi)
  have hclosed : Owned { σ with fds } := hown.congr rfl rfl rfl rfl
  have hset := hclosed.setClient (Or.inl href) hremoved
  simp only [hfds]
  split
  · rename_i hempty
    exact (hset.removeClientL hid).owned_of_empty (congrArg ClientInfo.mk hempty)
  · exact hset

theorem OwnedBut.removeClient [Fintype Tid] (h : Owned σ) : Owned (σ.removeClient pid) := by
  unfold Server.removeClient
  cases hid : σ.clientOf pid with
  | none => exact h
  | some id => exact (h.removeClientL hid).dropped

/-- What the clean-up of an object keeps, the death of a process keeps. -/
theorem removeClient_of_cleanup [Fintype Tid] {P : Server Tid → Prop} (h : Owned σ) (hP : P σ)
    (hremoved : P (σ.removeClientL pid))
    (hcleanup : ∀ {τ : Server Tid} {id}, OwnedBut (some id) τ → ¬ τ.referenced id → P τ →
      P (τ.cleanup id)) :
    P (σ.removeClient pid) := by
  unfold Server.removeClient
  cases hid : σ.clientOf pid with
  | none => exact hP
  | some id =>
    show P ((σ.removeClientL pid).dropped id)
    unfold Server.dropped
    split
    · exact hremoved
    · exact hcleanup (h.removeClientL hid) ‹_› hremoved

/-! ### Every step -/

variable [Fintype Tid] [DecidableEq Tid]

omit [Fintype Tid] in
/-- A call that held no object takes the one of its process. -/
theorem OwnedBut.goto_of_none {t : Tid} {c : Call} (h : Owned σ) (hc : (σ.calls t).client = none)
    (hc' : c.client = some (σ.getClientL pid).1)
    (hopen : ∀ pid client handle, c ≠ .opened pid client handle) :
    Owned ((σ.getClientL pid).2.goto t c) := by
  have hgoto := (h.getClientL pid).goto (t := t) (c := c)
    (fun id hid => by
      cases hc'.symm.trans hid
      exact referenced_getClientL_self σ pid)
    (fun _ _ _ heq => absurd heq (hopen _ _ _))
  rw [getClientL_calls, hc] at hgoto
  exact hgoto

theorem Owned.step {σ' : Server Tid} {t : Tid} {a : Action} (h : Owned σ) (hs : Stepped σ t a σ') :
    Owned σ' := by
  have hcalls : ∀ {pid c}, σ.calls t = c → (σ.getClientL pid).2.calls t = c := by
    intro pid c hc
    rw [getClientL_calls, hc]
  cases hs with
  | streamOpen hc => exact h.goto_of_none (by rw [hc]; rfl) rfl (by simp)
  | openFailed hc => exact h.leave (by rw [hc]; rfl)
  | openDone hc hne hnew =>
    refine OwnedBut.goto_of_client (h.congr rfl rfl rfl rfl) hc rfl ?_
    rintro _ _ _ ⟨⟩
    exact hne
  | addStreamHandle hc =>
    exact (h.addStreamHandle (h.opened _ _ _ _ hc)).goto_of_client (hcalls hc) rfl (by simp)
  | leave hc => exact h.leave (by rw [hc]; rfl)
  | check hc => exact h.getClientL _
  | streamClose hc => exact (h.getClientL _).goto_of_client (hcalls hc) rfl (by simp)
  | @removeClientInfoData pid handle hc =>
    have hclosing : (σ.removeClientInfoData pid handle).calls t = .closing pid handle := by
      rw [removeClientInfoData_calls, hc]
    exact h.removeClientInfoData.goto_of_client hclosing rfl (by simp)
  | palStreamClose hc =>
    exact OwnedBut.goto_of_client (h.congr rfl rfl rfl rfl) hc rfl (by simp)
  | transfer hc => exact (h.getClientL _).goto_of_client (hcalls hc) rfl (by simp)
  | getClient hc => exact h.goto_of_none (by rw [hc]; rfl) rfl (by simp)
  | noClient hc => exact h.goto_of_client hc rfl (by simp)
  | noFd hc hfd => exact h.goto_of_client hc rfl (by simp)
  | dup hc hfd hnew => exact OwnedBut.goto_of_client (h.congr rfl rfl rfl rfl) hc rfl (by simp)
  | addSharedMemoryFdPairs hc =>
    exact h.addSharedMemoryFdPairs.goto_of_client (hcalls hc) rfl (by simp)
  | addToPendingInputs hc hw =>
    exact OwnedBut.goto_of_client (h.congr rfl rfl rfl rfl) hc rfl (by simp)
  | noPendingInput hc hw => exact h.goto_of_client hc rfl (by simp)
  | palWrite hc => exact OwnedBut.goto_of_client (h.congr rfl rfl rfl rfl) hc rfl (by simp)
  | palRead hc => exact OwnedBut.goto_of_client (h.congr rfl rfl rfl rfl) hc rfl (by simp)
  | @callback b status hc hb =>
    have htaken : Owned { σ with inPal := σ.inPal.erase b } := h.congr rfl rfl rfl rfl
    exact (htaken.removeSharedMemoryFdPairs b.handle b.fd.2).goto_of_client
      hc rfl (by simp)
  | getInputBufferIndex hc =>
    exact OwnedBut.goto_of_client (h.congr rfl rfl rfl rfl) hc rfl (by simp)
  | closeFd hc => exact OwnedBut.goto_of_client (h.congr rfl rfl rfl rfl) hc rfl (by simp)
  | die hc => exact h.removeClient

omit [DecidableEq Tid] in
/-- With no client and no call there is no holder. -/
theorem Owned.held_of_quiet {α : Type*} {g : StreamInfo → Multiset α} {k : Call → Multiset α}
    (h : Owned σ) (hk : k .idle = 0) (hm : σ.mClients = []) (hidle : ∀ t, σ.calls t = .idle) :
    held g k σ = 0 := by
  have hclients : ∀ id, (σ.clients id).sumOf g = 0 := by
    intro id
    have hnone : ¬ σ.referenced id := by
      rintro (hid | ⟨t, ht⟩)
      · rw [hm] at hid
        cases hid
      · rw [hidle t] at ht
        cases ht
    rw [h.empty id hnone (by simp)]
    rfl
  unfold held
  rw [Finset.sum_eq_zero fun id _ => hclients id,
    Finset.sum_eq_zero fun t _ => by rw [hidle t, hk], add_zero]

end AudioReachPal.Ipc.Server
