import AudioReachPal.Ipc.Server

/-!
# What the clients and the calls hold

A stream, and an fd that the server has duplicated, is held by the client that has it in its map or
by the call that has it in its hands. Both are counted alike: `g` is what one `StreamInfo` holds of
the items and `k` what one call holds, and `held` is the sum over all of them. The lemmas say what
each operation of the server does to the sum, for any items.
-/

namespace AudioReachPal.Ipc

open AudioReachPal.Lib

variable {Tid : Type} {α : Type*} (g : StreamInfo → Multiset α) (k : Call → Multiset α)

/-! ### One client -/

def ClientInfo.sumOf (c : ClientInfo) : Multiset α := (c.mStreamInfoMap.map g).sum

section Client

variable {g} {c : ClientInfo} {handle : Handle} {i : StreamInfo} {f : StreamInfo → StreamInfo}
  {is : List StreamInfo}

@[simp] theorem sumOf_nil : ClientInfo.sumOf g ⟨[]⟩ = 0 := rfl

theorem updateInfo_of_none (h : is.find? (·.mHandle = handle) = none) :
    updateInfo handle f is = is := by
  induction is with
  | nil => rfl
  | cons j is ih =>
    rw [List.find?_cons] at h
    split at h
    · cases h
    · rename_i hne
      rw [updateInfo, if_neg (by simpa using hne), ih h]

theorem sum_updateInfo (h : is.find? (·.mHandle = handle) = some i) :
    g i + ((updateInfo handle f is).map g).sum = g (f i) + (is.map g).sum := by
  induction is with
  | nil => cases h
  | cons j is ih =>
    rw [List.find?_cons] at h
    split at h
    · rename_i heq
      cases h
      rw [updateInfo, if_pos (by simpa using heq), List.map_cons, List.map_cons, List.sum_cons,
        List.sum_cons, add_left_comm]
    · rename_i hne
      rw [updateInfo, if_neg (by simpa using hne), List.map_cons, List.map_cons, List.sum_cons,
        List.sum_cons, add_left_comm, ih h, add_left_comm]

/-- An update that changes no holding. -/
theorem sum_updateInfo_of_same (hf : ∀ i, g (f i) = g i) :
    ((updateInfo handle f is).map g).sum = (is.map g).sum := by
  induction is with
  | nil => rfl
  | cons j is ih =>
    rw [updateInfo]
    split
    · rw [List.map_cons, List.map_cons, hf]
    · rw [List.map_cons, List.map_cons, List.sum_cons, List.sum_cons, ih]

theorem mem_updateInfo {j : StreamInfo} (h : j ∈ updateInfo handle f is) :
    j ∈ is ∨ ∃ i ∈ is, j = f i := by
  induction is with
  | nil => cases h
  | cons i is ih =>
    rw [updateInfo] at h
    split at h
    · rcases List.mem_cons.mp h with rfl | h
      · exact Or.inr ⟨i, List.mem_cons_self, rfl⟩
      · exact Or.inl (List.mem_cons_of_mem i h)
    · rcases List.mem_cons.mp h with rfl | h
      · exact Or.inl List.mem_cons_self
      · rcases ih h with h | ⟨i', hi', rfl⟩
        · exact Or.inl (List.mem_cons_of_mem i h)
        · exact Or.inr ⟨i', List.mem_cons_of_mem i hi', rfl⟩

theorem sum_eraseP (h : is.find? (·.mHandle = handle) = some i) :
    (is.map g).sum = g i + ((is.eraseP (·.mHandle = handle)).map g).sum := by
  induction is with
  | nil => cases h
  | cons j is ih =>
    rw [List.find?_cons] at h
    split at h
    · rename_i heq
      cases h
      rw [List.eraseP_cons, heq, cond_true, List.map_cons, List.sum_cons]
    · rename_i hne
      rw [List.eraseP_cons, hne, cond_false, List.map_cons, List.map_cons, List.sum_cons,
        List.sum_cons, ih h, add_left_comm]

theorem isValid_iff : c.isValidStreamHandle handle = true ↔ ∃ i, c.getStreamInfo handle = some i :=
  Option.isSome_iff_exists

theorem mem_of_getStreamInfo (h : c.getStreamInfo handle = some i) :
    i ∈ c.mStreamInfoMap ∧ i.mHandle = handle := by
  refine ⟨List.mem_of_find?_eq_some h, ?_⟩
  simpa using List.find?_some h

theorem sumOf_addStreamHandle_of_not (h : c.isValidStreamHandle handle = false) :
    (c.addStreamHandle handle).sumOf g = g ⟨handle, []⟩ + c.sumOf g := by
  unfold ClientInfo.addStreamHandle
  rw [if_neg (by simp [h])]
  rfl

theorem sumOf_addStreamHandle_of_empty (h : g ⟨handle, []⟩ = 0) :
    (c.addStreamHandle handle).sumOf g = c.sumOf g := by
  unfold ClientInfo.addStreamHandle
  split
  · rfl
  · show g ⟨handle, []⟩ + c.sumOf g = c.sumOf g
    rw [h, zero_add]

theorem sumOf_removeStreamHandle (h : c.getStreamInfo handle = some i) :
    c.sumOf g = g i + (c.removeStreamHandle handle).sumOf g := sum_eraseP h

theorem removeStreamHandle_of_none (h : c.getStreamInfo handle = none) :
    c.removeStreamHandle handle = c := by
  have hkeep : c.mStreamInfoMap.eraseP (·.mHandle = handle) = c.mStreamInfoMap :=
    List.eraseP_of_forall_not fun j hj hp => by
      have := List.find?_eq_none.mp h j hj
      exact this hp
  unfold ClientInfo.removeStreamHandle
  rw [hkeep]

theorem sumOf_addSharedMemoryFdPairs_of_same {inputFd dupFd : Fd}
    (hg : ∀ i : StreamInfo, g (i.addSharedMemoryFdPairs inputFd dupFd) = g i) :
    (c.addSharedMemoryFdPairs handle inputFd dupFd).sumOf g = c.sumOf g :=
  sum_updateInfo_of_same hg

theorem sumOf_removeSharedMemoryFdPairs_of_same {dupFd : Fd}
    (hg : ∀ i : StreamInfo, g (i.removeSharedMemoryFdPairs dupFd).2 = g i) :
    (c.removeSharedMemoryFdPairs handle dupFd).2.sumOf g = c.sumOf g := by
  unfold ClientInfo.removeSharedMemoryFdPairs
  cases hi : c.getStreamInfo handle with
  | none => rfl
  | some i => exact sum_updateInfo_of_same hg

end Client

namespace Server

/-! ### The sum -/

section Held

variable [Fintype Tid]

/-- What all clients and all calls hold. -/
def held (σ : Server Tid) : Multiset α :=
  (∑ id ∈ Finset.range σ.created, (σ.clients id).sumOf g) + ∑ t, k (σ.calls t)

variable {g k} {σ : Server Tid} {pid : Pid} {id : ClientId} {handle : Handle}

theorem held_init (hk : k .idle = 0) : held g k (init : Server Tid) = 0 := by
  show (∑ id ∈ Finset.range 0, _) + (∑ _t : Tid, k .idle) = 0
  simp [hk]

theorem held_goto [DecidableEq Tid] (g : StreamInfo → Multiset α) (k : Call → Multiset α)
    (σ : Server Tid) (t : Tid) (c : Call) :
    k (σ.calls t) + held g k (σ.goto t c) = k c + held g k σ := by
  have htotal := total_update (Finset.mem_univ t) σ.calls c k
  calc k (σ.calls t) + held g k (σ.goto t c)
      = (∑ id ∈ Finset.range σ.created, (σ.clients id).sumOf g) +
          (k (σ.calls t) + ∑ u, k (Function.update σ.calls t c u)) := add_left_comm _ _ _
    _ = (∑ id ∈ Finset.range σ.created, (σ.clients id).sumOf g) +
          (k c + ∑ u, k (σ.calls u)) := by rw [htotal]
    _ = k c + held g k σ := add_left_comm _ _ _

theorem held_goto_of_same [DecidableEq Tid] {t : Tid} {c : Call} (h : k c = k (σ.calls t)) :
    held g k (σ.goto t c) = held g k σ := by
  have hgoto := held_goto g k σ t c
  rw [h] at hgoto
  exact add_left_cancel hgoto

theorem held_setClient (k : Call → Multiset α) (hid : id < σ.created) (c : ClientInfo) :
    (σ.clients id).sumOf g + held g k (σ.setClient id c) = c.sumOf g + held g k σ := by
  have htotal := total_update (Finset.mem_range.mpr hid) σ.clients c (ClientInfo.sumOf g)
  calc (σ.clients id).sumOf g + held g k (σ.setClient id c)
      = ((σ.clients id).sumOf g +
          ∑ j ∈ Finset.range σ.created, (Function.update σ.clients id c j).sumOf g) +
            ∑ t, k (σ.calls t) := (add_assoc _ _ _).symm
    _ = (c.sumOf g + ∑ j ∈ Finset.range σ.created, (σ.clients j).sumOf g) +
          ∑ t, k (σ.calls t) := by rw [htotal]
    _ = c.sumOf g + held g k σ := add_assoc _ _ _

theorem held_setClient_of_same {c : ClientInfo} (h : c.sumOf g = (σ.clients id).sumOf g) :
    held g k (σ.setClient id c) = held g k σ := by
  have hclients : ∀ j, (Function.update σ.clients id c j).sumOf g = (σ.clients j).sumOf g := by
    intro j
    by_cases hj : j = id
    · subst hj
      rw [Function.update_self, h]
    · rw [Function.update_of_ne hj]
  show (∑ j ∈ Finset.range σ.created, (Function.update σ.clients id c j).sumOf g) + _ = _
  rw [Finset.sum_congr rfl fun j _ => hclients j]
  rfl

@[simp] theorem held_getClientL (g : StreamInfo → Multiset α) (k : Call → Multiset α)
    (σ : Server Tid) (pid : Pid) : held g k (σ.getClientL pid).2 = held g k σ := by
  unfold getClientL
  cases σ.clientOf pid with
  | some id => rfl
  | none =>
    have hrest : ∀ j ∈ Finset.range σ.created,
        (Function.update σ.clients σ.created ⟨[]⟩ j).sumOf g = (σ.clients j).sumOf g := by
      intro j hj
      rw [Function.update_of_ne (Finset.mem_range.mp hj).ne]
    show (∑ j ∈ Finset.range (σ.created + 1),
      (Function.update σ.clients σ.created ⟨[]⟩ j).sumOf g) + _ = _
    rw [Finset.sum_range_succ, Function.update_self, sumOf_nil, add_zero,
      Finset.sum_congr rfl hrest]
    rfl

@[simp] theorem held_isValidStreamHandle :
    held g k (σ.isValidStreamHandle pid handle).2 = held g k σ := held_getClientL g k σ pid

end Held

end Server

end AudioReachPal.Ipc
