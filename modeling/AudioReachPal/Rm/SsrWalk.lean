import AudioReachPal.Rm.SsrLoop

/-!
# The walk is safe

The counter of a stream is the number of its users, the thread included while it is in the handler
of the stream. A close waits for them, so that the stream whose handler runs is not destroyed, and
is still in the list when the thread takes the lock again and goes on from its place. With the lock
the thread keeps the list as it is.

That is so as long as nobody counts a stream out for which it was not counted in. Where a stream
has users, such a call takes off the count of one of them, and its close no longer waits for all.
-/

namespace AudioReachPal.Rm.Ssr

open AudioReachPal.Lib
open AudioReachPal.Lib.Iterator (fromElem succ)
open card_status_t

/-- The thread is in the handler of the stream. -/
def Pc.handles (t : StreamId) : Pc → Bool
  | .handler _ str | .released _ str => str = t
  | _ => false

/-- The stream that the thread goes on from. -/
def Pc.place : Pc → Option StreamId
  | .walk _ it => it
  | .handler _ str | .released _ str => some str
  | _ => none

/-- The counter of a stream with so many users. -/
def Life.counter : Life → ℕ → Option (ℕ × Bool)
  | .inUse, n => some (n, true)
  | .deactivated, n => some (n, false)
  | .drained, _ => some (0, false)
  | _, _ => none

/-- Such a stream may have users. -/
def Life.usable (life : Life) : Prop := life = .inUse ∨ life = .deactivated

namespace Loop

variable {ctx : Bool} {σ σ' : Loop} {state : card_status_t} {str t : StreamId}

def allUsers (σ : Loop) (t : StreamId) : ℕ := σ.users t + if σ.pc.handles t then 1 else 0

/-- Nobody is counted for the stream. -/
def Uncounted (σ : Loop) (t : StreamId) : Prop :=
  ∀ n active, σ.mActiveStreamUserCounter t ≠ some (n + 1, active)

/-- What counts a stream out without having counted it in finds no count to take off. -/
def CountsOwn (σ : Loop) : Event → Prop
  | .other (.decreaseStreamUserCounter t false) => σ.pc.locked = false → σ.Uncounted t
  | _ => True

theorem Uncounted.decrease (h : σ.Uncounted t) : σ.decreaseStreamUserCounter t = σ := by
  unfold decreaseStreamUserCounter
  split
  next hc => exact absurd hc (h _ _)
  next => rfl

/-- The streams and their counters are as they should be, and the place of the thread is in the
list. -/
structure Sound (σ : Loop) : Prop where
  nodup : σ.mActiveStreams.Nodup
  mem_iff : ∀ t, t ∈ σ.mActiveStreams ↔ σ.life t ≠ .absent
  counter : ∀ t, σ.mActiveStreamUserCounter t = (σ.life t).counter (σ.allUsers t)
  unused : ∀ t, ¬(σ.life t).usable → σ.allUsers t = 0
  place : ∀ str ∈ σ.pc.place, str ∈ σ.mActiveStreams

theorem sound_init : Sound {} where
  nodup := List.nodup_nil
  mem_iff t := by simp
  counter t := rfl
  unused t _ := rfl
  place str h := by cases h

namespace Sound

/-- A stream whose handler runs is in use, or its close waits. -/
theorem usable_of_handles (h : Sound σ) (ht : σ.pc.handles t = true) : (σ.life t).usable := by
  by_contra hnot
  have hzero := h.unused t hnot
  unfold allUsers at hzero
  rw [if_pos ht] at hzero
  omega

theorem life_of_counter (h : Sound σ) {n : ℕ} (hc : σ.mActiveStreamUserCounter t = some (n, true)) :
    σ.life t = .inUse ∧ n = σ.allUsers t := by
  rw [h.counter t] at hc
  cases hlife : σ.life t <;> rw [hlife] at hc <;> cases hc
  exact ⟨rfl, rfl⟩

theorem counter_eq (h : Sound σ) (hlife : σ.life t = .inUse) :
    σ.mActiveStreamUserCounter t = some (σ.allUsers t, true) := by
  rw [h.counter t, hlife]
  rfl

/-! ### The thread -/

/-- A step that leaves the streams alone, and ends outside of all handlers. -/
theorem goto (h : Sound σ) (hlist : σ'.mActiveStreams = σ.mActiveStreams)
    (hlife : σ'.life = σ.life) (hcounter : σ'.mActiveStreamUserCounter = σ.mActiveStreamUserCounter)
    (husers : σ'.users = σ.users) (hhandles : ∀ t, σ'.pc.handles t = σ.pc.handles t)
    (hplace : ∀ str ∈ σ'.pc.place, str ∈ σ.mActiveStreams) : Sound σ' := by
  have hall : ∀ t, σ'.allUsers t = σ.allUsers t := by
    intro t
    unfold allUsers
    rw [husers, hhandles t]
  refine ⟨?_, fun t => ?_, fun t => ?_, fun t ht => ?_, fun str hstr => ?_⟩
  · rw [hlist]
    exact h.nodup
  · rw [hlist, hlife]
    exact h.mem_iff t
  · rw [hcounter, hlife, hall]
    exact h.counter t
  · rw [hall]
    rw [hlife] at ht
    exact h.unused t ht
  · rw [hlist]
    exact hplace str hstr

theorem finish (h : Sound σ) (hpc : ∀ t, σ.pc.handles t = false) : Sound (σ.finish state) :=
  h.goto rfl rfl rfl rfl (fun t => (hpc t).symm) fun _ he => by cases he

theorem startWalk (h : Sound σ) (hpc : ∀ t, σ.pc.handles t = false) : Sound (σ.startWalk state) :=
  h.goto rfl rfl rfl rfl (fun t => (hpc t).symm) fun _ he => List.mem_of_mem_head? he

theorem handle (h : Sound σ) (hpc : ∀ t, σ.pc.handles t = false) : Sound (σ.handle ctx state) := by
  have hcard : Sound { σ with cardState := state } := h.goto rfl rfl rfl rfl (fun _ => rfl) h.place
  have hout : ∀ pc : Pc, (∀ t, pc.handles t = false) → pc.place = none →
      Sound { σ with cardState := state, pc := pc } := by
    intro pc hhandles hplace
    refine h.goto rfl rfl rfl rfl (fun t => (hhandles t).trans (hpc t).symm) fun _ he => ?_
    rw [hplace] at he
    cases he
  unfold Loop.handle
  dsimp only
  split_ifs
  · exact hout .idleUp (fun _ => rfl) rfl
  · exact hcard.finish hpc
  · exact hout .top (fun _ => rfl) rfl
  · exact hcard.startWalk hpc
  · exact hout .ctxUp (fun _ => rfl) rfl
  · exact hcard.startWalk hpc
  · exact hout .top (fun _ => rfl) rfl

theorem tell (h : Sound σ) (hpc : σ.pc = .walk state (some str)) {n : ℕ}
    (hc : σ.mActiveStreamUserCounter str = some (n, true)) : Sound (σ.tell state str n) := by
  obtain ⟨hlife, hn⟩ := h.life_of_counter hc
  have hall : ∀ t, (σ.tell state str n).allUsers t = σ.allUsers t + if str = t then 1 else 0 := by
    intro t
    show σ.users t + (if decide (str = t) = true then 1 else 0) = σ.users t + _ + _
    rw [hpc]
    simp [Pc.handles]
  refine ⟨h.nodup, h.mem_iff, fun t => ?_, fun t ht => ?_, fun t ht => ?_⟩
  · show Function.update σ.mActiveStreamUserCounter str (some (n + 1, true)) t = _
    rw [hall]
    by_cases hts : t = str
    · subst hts
      rw [Function.update_self, if_pos rfl, hn]
      show _ = (σ.life t).counter _
      rw [hlife]
      rfl
    · rw [Function.update_of_ne hts, if_neg (Ne.symm hts)]
      exact h.counter t
  · rw [hall, h.unused t ht]
    have hts : str ≠ t := by
      rintro rfl
      exact ht (Or.inl hlife)
    rw [if_neg hts]
  · obtain rfl := Option.some.inj ht
    exact h.place str (by rw [hpc]; rfl)

theorem visit (h : Sound σ) (hpc : σ.pc = .walk state (some str)) : Sound (σ.visit state str) := by
  unfold Loop.visit
  split
  · exact h.tell hpc ‹_›
  · refine h.goto rfl rfl rfl rfl (fun t => ?_) fun _ he => Iterator.mem_of_succ he
    rw [hpc]
    rfl

/-- The user that is given back is one of `allUsers`. -/
theorem decrease_counter (h : Sound σ) {m : ℕ} (hm : σ.allUsers t = m + 1) :
    (σ.decreaseStreamUserCounter t).mActiveStreamUserCounter =
      Function.update σ.mActiveStreamUserCounter t ((σ.life t).counter m) := by
  have husable : (σ.life t).usable := by
    by_contra hnot
    rw [h.unused t hnot] at hm
    cases hm
  unfold decreaseStreamUserCounter
  rw [h.counter t, hm]
  rcases husable with hlife | hlife <;> rw [hlife] <;> rfl

theorem decrease_frame : (σ.decreaseStreamUserCounter t).mActiveStreams = σ.mActiveStreams ∧
    (σ.decreaseStreamUserCounter t).life = σ.life ∧
    (σ.decreaseStreamUserCounter t).users = σ.users ∧
    (σ.decreaseStreamUserCounter t).pc = σ.pc := by
  unfold decreaseStreamUserCounter
  split <;> exact ⟨rfl, rfl, rfl, rfl⟩

/-- A stream has one user less. -/
theorem leave (h : Sound σ) (hlist : σ'.mActiveStreams = σ.mActiveStreams)
    (hlife : σ'.life = σ.life)
    (hcounter : σ'.mActiveStreamUserCounter =
      (σ.decreaseStreamUserCounter str).mActiveStreamUserCounter)
    (hall : ∀ t, σ.allUsers t = σ'.allUsers t + if t = str then 1 else 0)
    (hplace : ∀ t ∈ σ'.pc.place, t ∈ σ.mActiveStreams) : Sound σ' := by
  have hself : σ.allUsers str = σ'.allUsers str + 1 := by
    rw [hall str, if_pos rfl]
  refine ⟨?_, fun t => ?_, fun t => ?_, fun t ht => ?_, fun t ht => ?_⟩
  · rw [hlist]
    exact h.nodup
  · rw [hlist, hlife]
    exact h.mem_iff t
  · rw [hcounter, h.decrease_counter hself, hlife]
    by_cases hts : t = str
    · subst hts
      rw [Function.update_self]
    · rw [Function.update_of_ne hts, h.counter t, hall t, if_neg hts, Nat.add_zero]
  · rw [hlife] at ht
    have hzero := h.unused t ht
    rw [hall t] at hzero
    omega
  · rw [hlist]
    exact hplace t ht

/-- The handler returns, and the thread goes on from its place. -/
theorem returned (h : Sound σ) (hpc : σ.pc = .handler state str) :
    Sound { σ.decreaseStreamUserCounter str with
      pc := .walk state (succ σ.mActiveStreams str) } := by
  obtain ⟨hlist, hlife, husers, -⟩ := decrease_frame (σ := σ) (t := str)
  refine h.leave hlist hlife rfl (fun t => ?_) fun _ he => Iterator.mem_of_succ he
  unfold allUsers
  rw [hpc]
  show _ = (σ.decreaseStreamUserCounter str).users t + 0 + _
  rw [husers]
  by_cases hts : t = str
  · simp [hts, Pc.handles]
  · simp [hts, Ne.symm hts, Pc.handles]

theorem next (h : Sound σ) (hs : σ.next ctx = some σ') : Sound σ' := by
  have hkeep : ∀ σ'' : Loop, σ''.mActiveStreams = σ.mActiveStreams → σ''.life = σ.life →
      σ''.mActiveStreamUserCounter = σ.mActiveStreamUserCounter → σ''.users = σ.users →
      (∀ t, σ''.pc.handles t = false) → σ''.pc.place = none → (∀ t, σ.pc.handles t = false) →
      Sound σ'' := by
    intro σ'' hlist hlife hcounter husers hhandles hplace hpc
    refine h.goto hlist hlife hcounter husers (fun t => (hhandles t).trans (hpc t).symm) ?_
    rw [hplace]
    exact fun _ he => by cases he
  unfold Loop.next at hs
  cases hpc : σ.pc with
  | top =>
    rw [hpc] at hs
    dsimp only at hs
    split at hs
    · obtain rfl := Option.some.inj hs
      exact hkeep _ rfl rfl rfl rfl (fun _ => rfl) rfl (by simp [hpc, Pc.handles])
    · obtain rfl := Option.some.inj hs
      exact hkeep _ rfl rfl rfl rfl (fun _ => rfl) rfl (by simp [hpc, Pc.handles])
  | popped state =>
    rw [hpc] at hs
    dsimp only at hs
    split_ifs at hs
    · obtain rfl := Option.some.inj hs
      exact hkeep _ rfl rfl rfl rfl (fun _ => rfl) rfl (by simp [hpc, Pc.handles])
    · obtain rfl := Option.some.inj hs
      exact h.handle (by simp [hpc, Pc.handles])
  | idleUp =>
    rw [hpc] at hs
    obtain rfl := Option.some.inj hs
    exact h.finish (by simp [hpc, Pc.handles])
  | ctxUp =>
    rw [hpc] at hs
    obtain rfl := Option.some.inj hs
    exact h.startWalk (by simp [hpc, Pc.handles])
  | walk state it =>
    rw [hpc] at hs
    cases it with
    | some str =>
      obtain rfl := Option.some.inj hs
      exact h.visit hpc
    | none =>
      dsimp only at hs
      split_ifs at hs
      · obtain rfl := Option.some.inj hs
        exact hkeep _ rfl rfl rfl rfl (fun _ => rfl) rfl (by simp [hpc, Pc.handles])
      · obtain rfl := Option.some.inj hs
        exact h.finish (by simp [hpc, Pc.handles])
  | handler state str =>
    rw [hpc] at hs
    obtain rfl := Option.some.inj hs
    exact h.returned hpc
  | ctxDown state =>
    rw [hpc] at hs
    obtain rfl := Option.some.inj hs
    exact h.finish (by simp [hpc, Pc.handles])
  | asleep | released state str | ended =>
    rw [hpc] at hs
    cases hs

/-! ### The other threads -/

/-- A part of an open or a close moves one stream on. -/
theorem setCounter (h : Sound σ) {c : Option (ℕ × Bool)} {life : Life}
    (hold : σ.life t ≠ .absent) (hnew : life ≠ .absent) (hc : c = life.counter (σ.allUsers t))
    (hunused : ¬life.usable → σ.allUsers t = 0) : Sound (σ.setCounter t c life) := by
  have hall : ∀ u, (σ.setCounter t c life).allUsers u = σ.allUsers u := fun _ => rfl
  refine ⟨h.nodup, fun u => ?_, fun u => ?_, fun u hu => ?_, h.place⟩
  · show u ∈ σ.mActiveStreams ↔ Function.update σ.life t life u ≠ .absent
    by_cases hut : u = t
    · rw [hut, Function.update_self]
      exact iff_of_true ((h.mem_iff t).mpr hold) hnew
    · rw [Function.update_of_ne hut]
      exact h.mem_iff u
  · show Function.update σ.mActiveStreamUserCounter t c u =
      (Function.update σ.life t life u).counter (σ.allUsers u)
    by_cases hut : u = t
    · rw [hut, Function.update_self, Function.update_self, hc]
    · rw [Function.update_of_ne hut, Function.update_of_ne hut]
      exact h.counter u
  · change ¬(Function.update σ.life t life u).usable at hu
    show σ.allUsers u = 0
    by_cases hut : u = t
    · rw [hut, Function.update_self] at hu
      rw [hut]
      exact hunused hu
    · rw [Function.update_of_ne hut] at hu
      exact h.unused u hu

theorem initStreamUserCounter (h : Sound σ) (ht : σ.life t = .created) :
    Sound (σ.initStreamUserCounter t) := by
  have hzero : σ.allUsers t = 0 := h.unused t (by simp [ht, Life.usable])
  have hset : Sound (σ.setCounter t (some (0, true)) .inUse) := by
    refine h.setCounter (by simp [ht]) (by simp) ?_ fun hnot => absurd (Or.inl rfl) hnot
    rw [hzero]
    rfl
  exact ⟨hset.nodup, hset.mem_iff, hset.counter, hset.unused, hset.place⟩

theorem increase (h : Sound σ) {n : ℕ} (hc : σ.mActiveStreamUserCounter t = some (n, true)) :
    Sound ((σ.setCounter t (some (n + 1, true)) (σ.life t)).setUsers t (σ.users t + 1)) := by
  obtain ⟨hlife, hn⟩ := h.life_of_counter hc
  have hupdate : Function.update σ.life t (σ.life t) = σ.life := Function.update_eq_self t σ.life
  have hall : ∀ u, ((σ.setCounter t (some (n + 1, true)) (σ.life t)).setUsers t
      (σ.users t + 1)).allUsers u = σ.allUsers u + if u = t then 1 else 0 := by
    intro u
    show Function.update σ.users t (σ.users t + 1) u + _ = σ.users u + _ + _
    by_cases hut : u = t
    · rw [hut, Function.update_self, if_pos rfl, Nat.add_right_comm]
      rfl
    · rw [Function.update_of_ne hut, if_neg hut]
      rfl
  refine ⟨h.nodup, fun u => ?_, fun u => ?_, fun u hu => ?_, h.place⟩
  · show u ∈ σ.mActiveStreams ↔ Function.update σ.life t (σ.life t) u ≠ .absent
    rw [hupdate]
    exact h.mem_iff u
  · rw [hall]
    show Function.update σ.mActiveStreamUserCounter t (some (n + 1, true)) u =
      (Function.update σ.life t (σ.life t) u).counter _
    rw [hupdate]
    by_cases hut : u = t
    · rw [hut, Function.update_self, if_pos rfl, hlife, hn]
      rfl
    · rw [Function.update_of_ne hut, if_neg hut]
      exact h.counter u
  · rw [hall]
    change ¬(Function.update σ.life t (σ.life t) u).usable at hu
    rw [hupdate] at hu
    have hut : u ≠ t := by
      rintro rfl
      exact hu (Or.inl hlife)
    rw [if_neg hut, h.unused u hu]

theorem decrease (h : Sound σ) (husers : 0 < σ.users t) :
    Sound ((σ.decreaseStreamUserCounter t).setUsers t (σ.users t - 1)) := by
  obtain ⟨hlist, hlife, husers', hpc⟩ := decrease_frame (σ := σ) (t := t)
  refine h.leave hlist hlife rfl (fun u => ?_) ?_
  · show σ.users u + _ = Function.update (σ.decreaseStreamUserCounter t).users t _ u +
      (if (σ.decreaseStreamUserCounter t).pc.handles u then 1 else 0) + _
    rw [husers', hpc]
    by_cases hut : u = t
    · rw [hut, Function.update_self, if_pos rfl]
      omega
    · rw [Function.update_of_ne hut, if_neg hut]
      rfl
  · show ∀ u ∈ (σ.decreaseStreamUserCounter t).pc.place, _
    rw [hpc]
    exact h.place

theorem registerStream (h : Sound σ) (ht : σ.life t = .absent) : Sound (σ.registerStream t) := by
  have hnot : t ∉ σ.mActiveStreams := fun hmem => (h.mem_iff t).mp hmem ht
  have hall : ∀ u, (σ.registerStream t).allUsers u = σ.allUsers u := fun _ => rfl
  refine ⟨?_, fun u => ?_, fun u => ?_, fun u hu => ?_, fun u hu => ?_⟩
  · refine List.nodup_append.mpr ⟨h.nodup, List.nodup_singleton t, ?_⟩
    rintro u hu v hv rfl
    exact hnot (List.mem_singleton.mp hv ▸ hu)
  · show u ∈ σ.mActiveStreams ++ [t] ↔ Function.update σ.life t .created u ≠ .absent
    by_cases hut : u = t
    · rw [hut, Function.update_self]
      simp
    · rw [Function.update_of_ne hut, List.mem_append, h.mem_iff u]
      simp [hut]
  · show σ.mActiveStreamUserCounter u = (Function.update σ.life t .created u).counter (σ.allUsers u)
    by_cases hut : u = t
    · rw [hut, Function.update_self, h.counter t, ht]
      rfl
    · rw [Function.update_of_ne hut]
      exact h.counter u
  · change ¬(Function.update σ.life t .created u).usable at hu
    show σ.allUsers u = 0
    by_cases hut : u = t
    · rw [hut]
      exact h.unused t (by simp [ht, Life.usable])
    · rw [Function.update_of_ne hut] at hu
      exact h.unused u hu
  · exact List.mem_append_left [t] (h.place u hu)

/-- The place of the thread is not a stream that has been destroyed, once it is without the lock. -/
theorem place_ne (h : Sound σ) (hlocked : σ.pc.locked = false) (ht : ¬(σ.life t).usable) :
    ∀ str ∈ σ.pc.place, str ≠ t := by
  rintro str hstr rfl
  cases hpc : σ.pc with
  | released state u =>
    rw [hpc] at hstr
    obtain rfl := Option.some.inj hstr
    exact ht (h.usable_of_handles (by simp [hpc, Pc.handles]))
  | walk | handler =>
    rw [hpc] at hlocked
    cases hlocked
  | top | asleep | popped | idleUp | ctxUp | ctxDown | ended =>
    rw [hpc] at hstr
    cases hstr

theorem deregisterStream (h : Sound σ) (hlocked : σ.pc.locked = false)
    (ht : σ.life t = .destroyed) : Sound (σ.deregisterStream t) := by
  have hunusable : ¬(σ.life t).usable := by simp [ht, Life.usable]
  refine ⟨h.nodup.erase t, fun u => ?_, fun u => ?_, fun u hu => ?_, fun u hu => ?_⟩
  · show u ∈ σ.mActiveStreams.erase t ↔ Function.update σ.life t .absent u ≠ .absent
    rw [h.nodup.mem_erase_iff]
    by_cases hut : u = t
    · rw [hut, Function.update_self]
      simp
    · rw [Function.update_of_ne hut, h.mem_iff u]
      simp [hut]
  · show σ.mActiveStreamUserCounter u = (Function.update σ.life t .absent u).counter (σ.allUsers u)
    by_cases hut : u = t
    · rw [hut, Function.update_self, h.counter t, ht]
      rfl
    · rw [Function.update_of_ne hut]
      exact h.counter u
  · change ¬(Function.update σ.life t .absent u).usable at hu
    show σ.allUsers u = 0
    by_cases hut : u = t
    · rw [hut]
      exact h.unused t hunusable
    · rw [Function.update_of_ne hut] at hu
      exact h.unused u hu
  · exact h.nodup.mem_erase_iff.mpr ⟨h.place_ne hlocked hunusable u hu, h.place u hu⟩

theorem other (h : Sound σ) {a : Action} (hlocked : a.locks = true → σ.pc.locked = false)
    (hown : ∀ t, a = .decreaseStreamUserCounter t false → σ.Uncounted t)
    (hs : σ.other a = some σ') : Sound σ' := by
  unfold Loop.other at hs
  cases a with
  | ssrHandler state =>
    obtain rfl := Option.some.inj hs
    exact h.goto rfl rfl rfl rfl (fun _ => rfl) h.place
  | notifyAll =>
    dsimp only at hs
    split_ifs at hs with hn hasleep
    · obtain rfl := Option.some.inj hs
      refine h.goto rfl rfl rfl rfl (fun t => ?_) fun _ he => by cases he
      rw [hasleep]
      rfl
    · obtain rfl := Option.some.inj hs
      exact h.goto rfl rfl rfl rfl (fun _ => rfl) h.place
  | registerStream t =>
    dsimp only at hs
    split_ifs at hs with ht
    obtain rfl := Option.some.inj hs
    exact h.registerStream ht
  | initStreamUserCounter t =>
    dsimp only at hs
    split_ifs at hs with ht
    obtain rfl := Option.some.inj hs
    exact h.initStreamUserCounter ht
  | increaseStreamUserCounter t =>
    dsimp only at hs
    split at hs
    · obtain rfl := Option.some.inj hs
      exact h.increase ‹_›
    · cases hs
  | decreaseStreamUserCounter t counted =>
    cases counted with
    | true =>
      dsimp only at hs
      split_ifs at hs with husers
      obtain rfl := Option.some.inj hs
      exact h.decrease husers
    | false =>
      obtain rfl := Option.some.inj hs
      rw [(hown t rfl).decrease]
      exact h
  | deactivateStreamUserCounter t =>
    dsimp only at hs
    split at hs
    next n hlife hc =>
      obtain rfl := Option.some.inj hs
      refine h.setCounter (by simp [hlife]) (by simp) ?_ fun hnot => absurd (Or.inr rfl) hnot
      rw [(h.life_of_counter hc).2]
      rfl
    · cases hs
  | waitStreamSmph t =>
    dsimp only at hs
    split at hs
    next active hlife hc =>
      obtain rfl := Option.some.inj hs
      have hzero : σ.allUsers t = 0 := by
        rw [h.counter t, hlife] at hc
        exact (Prod.mk.inj (Option.some.inj hc)).1
      exact h.setCounter (by simp [hlife]) (by simp) rfl fun _ => hzero
    · cases hs
  | eraseStreamUserCounter t =>
    dsimp only at hs
    split_ifs at hs with hlife
    obtain rfl := Option.some.inj hs
    have hzero : σ.allUsers t = 0 := h.unused t (by simp [hlife, Life.usable])
    exact h.setCounter (by simp [hlife]) (by simp) rfl fun _ => hzero
  | destroy t =>
    dsimp only at hs
    split_ifs at hs with hlife
    obtain rfl := Option.some.inj hs
    have hzero : σ.allUsers t = 0 :=
      h.unused t (by rcases hlife with hlife | hlife <;> simp [hlife, Life.usable])
    refine h.setCounter ?_ (by simp) rfl fun _ => hzero
    rcases hlife with hlife | hlife <;> simp [hlife]
  | deregisterStream t =>
    dsimp only at hs
    split_ifs at hs with hlife
    obtain rfl := Option.some.inj hs
    exact h.deregisterStream (hlocked rfl) hlife

theorem step (h : Sound σ) {i : Event} (hown : σ.CountsOwn i) (hs : step ctx σ i = some σ') :
    Sound σ' := by
  unfold Loop.step at hs
  cases i with
  | next => exact h.next hs
  | wake =>
    dsimp only at hs
    split_ifs at hs with hasleep
    obtain rfl := Option.some.inj hs
    refine h.goto rfl rfl rfl rfl (fun t => ?_) fun _ he => by cases he
    rw [hasleep]
    rfl
  | unlockActiveStream =>
    dsimp only at hs
    split at hs
    next state str hpc =>
      obtain rfl := Option.some.inj hs
      refine h.goto rfl rfl rfl rfl (fun t => by rw [hpc]; rfl) fun u hu => h.place u ?_
      rw [hpc]
      exact hu
    · cases hs
  | lockActiveStream =>
    dsimp only at hs
    split at hs
    next state str hpc =>
      obtain rfl := Option.some.inj hs
      refine h.goto rfl rfl rfl rfl (fun t => by rw [hpc]; rfl) fun u hu => h.place u ?_
      rw [hpc]
      exact hu
    · cases hs
  | other a =>
    dsimp only at hs
    split_ifs at hs with hheld
    have hfree : a.locks = true → σ.pc.locked = false := by
      intro hlocks
      by_contra hnot
      exact hheld ⟨hlocks, by simpa using hnot⟩
    refine h.other hfree (fun t ha => ?_) hs
    subst ha
    exact hown (hfree rfl)

end Sound

/-- **The walk is safe**, in a state: the stream that the thread of the loop stands at is in the
list; a stream whose handler runs, or that a counted call of another thread uses, is in the list and
not past the wait of its close; and its counter is the number of its users. -/
structure Safe (σ : Loop) : Prop where
  place : ∀ str ∈ σ.pc.place, str ∈ σ.mActiveStreams
  kept : ∀ t, σ.pc.handles t = true ∨ 0 < σ.users t →
    t ∈ σ.mActiveStreams ∧ (σ.life t = .inUse ∨ σ.life t = .deactivated)
  counter : ∀ t, σ.life t = .inUse ∨ σ.life t = .deactivated → σ.mActiveStreamUserCounter t =
    some (σ.users t + if σ.pc.handles t then 1 else 0, decide (σ.life t = .inUse))

theorem Sound.safe (h : Sound σ) : Safe σ where
  place := h.place
  kept t ht := by
    have husable : (σ.life t).usable := by
      by_contra hnot
      have hzero := h.unused t hnot
      unfold allUsers at hzero
      rcases ht with ht | ht
      · rw [if_pos ht] at hzero
        omega
      · omega
    refine ⟨(h.mem_iff t).mpr ?_, husable⟩
    rcases husable with hlife | hlife <;> simp [hlife]
  counter t ht := by
    rw [h.counter t]
    rcases ht with hlife | hlife <;> rw [hlife] <;> rfl

/-- A count that is taken off for nobody is one of a user. -/
theorem Sound.uncounted_of_safe (h : Sound σ) (hsafe : Safe (σ.decreaseStreamUserCounter t)) :
    σ.Uncounted t := by
  intro n active hc
  obtain ⟨-, hlife, husers, hpc⟩ := Sound.decrease_frame (σ := σ) (t := t)
  have hold : σ.mActiveStreamUserCounter t = (σ.life t).counter (σ.allUsers t) := h.counter t
  have hleft : (σ.decreaseStreamUserCounter t).mActiveStreamUserCounter t = some (n, active) := by
    unfold decreaseStreamUserCounter
    rw [hc]
    exact Function.update_self ..
  have husable : σ.life t = .inUse ∨ σ.life t = .deactivated := by
    rw [hc] at hold
    cases hl : σ.life t <;> rw [hl] at hold <;> simp [Life.counter] at hold ⊢
  have hcount := hsafe.counter t (by rwa [hlife])
  rw [hleft, husers, hpc] at hcount
  have hall : n + 1 = σ.allUsers t := by
    rw [hc] at hold
    rcases husable with hl | hl <;> rw [hl] at hold <;>
      exact (Prod.mk.inj (Option.some.inj hold)).1
  have hn : n = σ.allUsers t := (Prod.mk.inj (Option.some.inj hcount)).1
  omega

/-- Only a count that is not the caller's own makes a step unsafe. -/
theorem Sound.countsOwn_iff (h : Sound σ) (ctx : Bool) (i : Event) :
    (∀ σ', Loop.step ctx σ i = some σ' → Safe σ') ↔ σ.CountsOwn i := by
  refine ⟨fun hall => ?_, fun hown σ' hs => (h.step hown hs).safe⟩
  unfold CountsOwn
  split
  next t =>
    intro hfree
    have hheld : ¬((Action.decreaseStreamUserCounter t false).locks ∧ σ.pc.locked) := by
      simp [hfree]
    exact h.uncounted_of_safe (hall _ (if_neg hheld))
  next => trivial

/-- **The walk is safe** in every state that the threads reach, exactly when no stream with users is
counted out by a call that did not count it in. -/
theorem safe_along_iff (ctx : Bool) (is : List Event) :
    (∀ js σ, js <+: is → run (step ctx) {} js = some σ → Safe σ) ↔
      Meets (step ctx) CountsOwn {} is := by
  have hkeep : ∀ σ i σ', Sound σ → Safe σ → step ctx σ i = some σ' → Safe σ' → Sound σ' := by
    intro σ i σ' h _ hs hsafe
    have hown : σ.CountsOwn i := by
      refine (h.countsOwn_iff ctx i).mp fun σ'' hs' => ?_
      rw [← Option.some.inj (hs.symm.trans hs')]
      exact hsafe
    exact h.step hown hs
  exact law_prefixes_iff_meets_of_law hkeep (fun σ i _ h _ => h.countsOwn_iff ctx i) sound_init
    sound_init.safe

/-- The handler of a stream runs without the lock, a call counts the stream out for which it was not
counted in, and the close of the stream goes through: the thread stands at a stream that is gone. -/
example : ∃ σ, run (step false) {} [.other (.registerStream 1), .other (.initStreamUserCounter 1),
    .other (.ssrHandler CARD_STATUS_OFFLINE), .next, .next, .next, .unlockActiveStream,
    .other (.decreaseStreamUserCounter 1 false), .other (.deactivateStreamUserCounter 1),
    .other (.waitStreamSmph 1), .other (.eraseStreamUserCounter 1), .other (.destroy 1),
    .other (.deregisterStream 1)] = some σ ∧ σ.pc.place = some 1 ∧ σ.mActiveStreams = [] :=
  ⟨_, rfl, rfl, rfl⟩

end Loop

end AudioReachPal.Rm.Ssr
