import AudioReachPal.Rm.SsrWalk
import Mathlib.Data.List.Chain

/-!
# What the streams are told

A stream in use is told by the loop of all changes since it came into use, each once and in their order; while a
walk has it still to visit, the last one is to come. It is never told twice in a row of one state:
what the thread leaves behind in `prevState` is what the streams were told last, also where the list
was empty, for then there are none. The thread sleeps only while a call of `ssrHandler` that has put
a state in the queue is still to notify it; and once the queue is empty and the thread is at its
top, the streams know the state that was posted last.
-/

namespace AudioReachPal.Rm.Ssr

open AudioReachPal.Lib
open AudioReachPal.Lib.Iterator (fromElem succ)
open card_status_t

/-- The change that the thread works on. -/
def Pc.change : Pc → Option card_status_t
  | .walk state _ | .handler state _ | .released state _ | .ctxDown state => some state
  | _ => none

namespace Loop

variable {ctx : Bool} {σ σ' : Loop} {state : card_status_t} {str t : StreamId}

/-! ### The queue -/

/-- The state that the thread took last. -/
def lastTaken (σ : Loop) : card_status_t := σ.taken.getLast?.getD CARD_STATUS_ONLINE

/-- What is known at each place of the thread. -/
def Knows (σ : Loop) : Prop :=
  match σ.pc with
  | .top => σ.prevState = σ.cardState ∧ σ.cardState = σ.lastTaken
  | .asleep => (σ.prevState = σ.cardState ∧ σ.cardState = σ.lastTaken) ∧
      (σ.msgQ ≠ [] → 0 < σ.notifying)
  | .popped state => σ.taken.getLast? = some state
  | .idleUp => σ.cardState = CARD_STATUS_ONLINE ∧ σ.cardState = σ.lastTaken
  | .ctxUp => (σ.cardState = CARD_STATUS_ONLINE ∧ σ.cardState = σ.lastTaken) ∧
      σ.prevState ≠ CARD_STATUS_ONLINE
  | .walk state _ | .handler state _ | .released state _ | .ctxDown state =>
    σ.cardState = state ∧ σ.cardState = σ.lastTaken
  | .ended => True

/-- The thread and the queue. -/
structure Queued (σ : Loop) : Prop where
  posted : σ.posted = σ.taken ++ σ.msgQ
  knows : σ.Knows

theorem queued_init : Queued {} := ⟨rfl, rfl, rfl⟩

namespace Queued

/-- At the places of a walk the same is known. -/
theorem knows_of_change (hpc : σ.pc.change = some state) :
    σ.Knows ↔ σ.cardState = state ∧ σ.cardState = σ.lastTaken := by
  unfold Knows
  cases hq : σ.pc <;> rw [hq] at hpc <;> cases hpc <;> rfl

/-- A step that leaves the queue and the place alone. -/
theorem of_eq (h : Queued σ) (hposted : σ'.posted = σ.posted) (htaken : σ'.taken = σ.taken)
    (hmsgQ : σ'.msgQ = σ.msgQ) (hnotifying : σ'.notifying = σ.notifying) (hpc : σ'.pc = σ.pc)
    (hcard : σ'.cardState = σ.cardState) (hprev : σ'.prevState = σ.prevState) : Queued σ' := by
  refine ⟨?_, ?_⟩
  · rw [hposted, htaken, hmsgQ]
    exact h.posted
  · have hknows := h.knows
    unfold Knows lastTaken at hknows ⊢
    rw [hpc, htaken, hmsgQ, hnotifying, hcard, hprev]
    exact hknows

/-- A step within a walk. -/
theorem within (h : Queued σ) (hposted : σ'.posted = σ.posted) (htaken : σ'.taken = σ.taken)
    (hmsgQ : σ'.msgQ = σ.msgQ) (hcard : σ'.cardState = σ.cardState)
    (hold : σ.pc.change = some state) (hnew : σ'.pc.change = some state) : Queued σ' := by
  refine ⟨?_, (knows_of_change hnew).mpr ?_⟩
  · rw [hposted, htaken, hmsgQ]
    exact h.posted
  · have hknows := (knows_of_change hold).mp h.knows
    unfold lastTaken at hknows ⊢
    rw [hcard, htaken]
    exact hknows

theorem finish (h : Queued σ) (hknows : σ.cardState = state ∧ σ.cardState = σ.lastTaken) :
    Queued (σ.finish state) :=
  ⟨h.posted, hknows.1.symm, hknows.2⟩

theorem handle (h : Queued σ) (hpc : σ.pc = .popped state) (hstate : state ≠ CARD_STATUS_NONE) :
    Queued (σ.handle ctx state) := by
  have htaken : state = σ.lastTaken := by
    have hknows := h.knows
    unfold Knows at hknows
    rw [hpc] at hknows
    unfold lastTaken
    rw [hknows]
    rfl
  unfold Loop.handle
  dsimp only
  split_ifs with hnone hidle heq hdown hup hctx
  · exact ⟨h.posted, hidle.1, htaken⟩
  · exact ⟨h.posted, rfl, htaken⟩
  · exact ⟨h.posted, heq.symm, htaken⟩
  · exact ⟨h.posted, rfl, htaken⟩
  · have honline : state = CARD_STATUS_ONLINE := of_decide_eq_true hup
    exact ⟨h.posted, ⟨honline, htaken⟩, fun he => heq (honline.trans he.symm)⟩
  · exact ⟨h.posted, rfl, htaken⟩
  · -- there is no other state
    cases state with
    | CARD_STATUS_OFFLINE | CARD_STATUS_STANDBY => exact absurd (by decide) hdown
    | CARD_STATUS_ONLINE => exact absurd (by decide) hup
    | CARD_STATUS_NONE => exact absurd rfl hstate

theorem decrease_queue : (σ.decreaseStreamUserCounter t).posted = σ.posted ∧
    (σ.decreaseStreamUserCounter t).taken = σ.taken ∧
    (σ.decreaseStreamUserCounter t).msgQ = σ.msgQ ∧
    (σ.decreaseStreamUserCounter t).notifying = σ.notifying ∧
    (σ.decreaseStreamUserCounter t).pc = σ.pc ∧
    (σ.decreaseStreamUserCounter t).cardState = σ.cardState ∧
    (σ.decreaseStreamUserCounter t).prevState = σ.prevState := by
  unfold decreaseStreamUserCounter
  split <;> exact ⟨rfl, rfl, rfl, rfl, rfl, rfl, rfl⟩

theorem next (h : Queued σ) (hs : σ.next ctx = some σ') : Queued σ' := by
  have hknows := h.knows
  unfold Loop.next at hs
  unfold Knows at hknows
  cases hpc : σ.pc with
  | top =>
    rw [hpc] at hs hknows
    dsimp only at hs
    split at hs
    next hnone =>
      obtain rfl := Option.some.inj hs
      exact ⟨h.posted, hknows, fun hne => absurd hnone hne⟩
    next state msgQ hmsgQ =>
      obtain rfl := Option.some.inj hs
      refine ⟨?_, List.getLast?_concat⟩
      show σ.posted = (σ.taken ++ [state]) ++ msgQ
      rw [h.posted, hmsgQ, List.append_assoc]
      rfl
  | popped state =>
    rw [hpc] at hs
    dsimp only at hs
    split_ifs at hs with hnone
    · obtain rfl := Option.some.inj hs
      exact ⟨h.posted, trivial⟩
    · obtain rfl := Option.some.inj hs
      exact h.handle hpc hnone
  | idleUp =>
    rw [hpc] at hs hknows
    obtain rfl := Option.some.inj hs
    exact h.finish hknows
  | ctxUp =>
    rw [hpc] at hs hknows
    obtain rfl := Option.some.inj hs
    exact ⟨h.posted, hknows.1⟩
  | walk state it =>
    have hold : σ.pc.change = some state := by
      rw [hpc]
      rfl
    rw [hpc] at hs hknows
    cases it with
    | some str =>
      obtain rfl := Option.some.inj hs
      unfold Loop.visit
      split
      · exact h.within rfl rfl rfl rfl hold rfl
      · exact h.within rfl rfl rfl rfl hold rfl
    | none =>
      dsimp only at hs
      split_ifs at hs
      · obtain rfl := Option.some.inj hs
        exact h.within rfl rfl rfl rfl hold rfl
      · obtain rfl := Option.some.inj hs
        exact h.finish hknows
  | handler state str =>
    have hold : σ.pc.change = some state := by
      rw [hpc]
      rfl
    rw [hpc] at hs
    obtain rfl := Option.some.inj hs
    obtain ⟨hposted, htaken, hmsgQ, -, -, hcard, -⟩ := decrease_queue (σ := σ) (t := str)
    exact h.within hposted htaken hmsgQ hcard hold rfl
  | ctxDown state =>
    rw [hpc] at hs hknows
    obtain rfl := Option.some.inj hs
    exact h.finish hknows
  | asleep | released state str | ended =>
    rw [hpc] at hs
    cases hs

/-- The thread wakes up. -/
theorem woken (h : Queued σ) (hpc : σ.pc = .asleep) {n : ℕ} :
    Queued { σ with notifying := n, pc := .top } := by
  have hknows := h.knows
  unfold Knows at hknows
  rw [hpc] at hknows
  exact ⟨h.posted, hknows.1⟩

theorem other (h : Queued σ) {a : Action} (hs : σ.other a = some σ') : Queued σ' := by
  unfold Loop.other at hs
  cases a with
  | ssrHandler state =>
    obtain rfl := Option.some.inj hs
    refine ⟨?_, ?_⟩
    · show σ.posted ++ [state] = σ.taken ++ (σ.msgQ ++ [state])
      rw [h.posted, List.append_assoc]
    · have hknows := h.knows
      unfold Knows at hknows ⊢
      cases hpc : σ.pc <;> rw [hpc] at hknows
      case asleep => exact ⟨hknows.1, fun _ => Nat.succ_pos _⟩
      all_goals exact hknows
  | notifyAll =>
    dsimp only at hs
    split_ifs at hs with hn hasleep
    · obtain rfl := Option.some.inj hs
      exact h.woken hasleep
    · obtain rfl := Option.some.inj hs
      have hknows := h.knows
      refine ⟨h.posted, ?_⟩
      unfold Knows at hknows ⊢
      cases hpc : σ.pc <;> rw [hpc] at hknows
      case asleep => exact absurd hpc hasleep
      all_goals exact hknows
  | increaseStreamUserCounter t | deactivateStreamUserCounter t | waitStreamSmph t =>
    dsimp only at hs
    split at hs
    · obtain rfl := Option.some.inj hs
      exact h.of_eq rfl rfl rfl rfl rfl rfl rfl
    · cases hs
  | decreaseStreamUserCounter t counted =>
    obtain ⟨hposted, htaken, hmsgQ, hnotifying, hpc, hcard, hprev⟩ :=
      decrease_queue (σ := σ) (t := t)
    have hleft := h.of_eq hposted htaken hmsgQ hnotifying hpc hcard hprev
    cases counted with
    | true =>
      dsimp only at hs
      split_ifs at hs
      obtain rfl := Option.some.inj hs
      exact hleft.of_eq rfl rfl rfl rfl rfl rfl rfl
    | false =>
      obtain rfl := Option.some.inj hs
      exact hleft
  | registerStream t | initStreamUserCounter t | eraseStreamUserCounter t | destroy t
  | deregisterStream t =>
    dsimp only at hs
    split_ifs at hs
    obtain rfl := Option.some.inj hs
    exact h.of_eq rfl rfl rfl rfl rfl rfl rfl

theorem step (h : Queued σ) {i : Event} (hs : step ctx σ i = some σ') : Queued σ' := by
  unfold Loop.step at hs
  cases i with
  | next => exact h.next hs
  | wake =>
    dsimp only at hs
    split_ifs at hs with hasleep
    obtain rfl := Option.some.inj hs
    exact h.woken hasleep
  | unlockActiveStream | lockActiveStream =>
    dsimp only at hs
    split at hs
    next state str hpc =>
      obtain rfl := Option.some.inj hs
      exact h.within rfl rfl rfl rfl (by rw [hpc]; rfl) rfl
    · cases hs
  | other a =>
    dsimp only at hs
    split_ifs at hs
    exact h.other hs

end Queued

/-! ### What is told -/

/-- What a stream is still to be told. -/
def pending (σ : Loop) (t : StreamId) : List card_status_t :=
  if t ∈ σ.ahead then σ.changes.getLast?.toList else []

/-- The changes since a stream came into use. -/
def news (σ : Loop) (t : StreamId) : List card_status_t := σ.changes.drop (σ.since t)

/-- What the streams are being told, or were told last. -/
def current (σ : Loop) : card_status_t := σ.pc.change.getD σ.prevState

/-- The streams in use know the changes since they came into use, no two of them alike in a row, and
the last of them is in `prevState` when the thread looks for the next. -/
structure Informed (σ : Loop) : Prop where
  during : ∀ state ∈ σ.pc.change, σ.changes.getLast? = some state
  told : ∀ t, σ.life t = .inUse → σ.told t ++ σ.pending t = σ.news t
  since_le : ∀ t, σ.life t = .inUse → σ.since t ≤ σ.changes.length
  chain : ∀ t, σ.life t = .inUse → (σ.news t).IsChain (· ≠ ·)
  last : ∀ t, σ.life t = .inUse → ∀ state ∈ (σ.news t).getLast?, state = σ.current
  heard : ∀ t, (σ.told t).IsChain (· ≠ ·)
  created : ∀ t, σ.life t = .created → σ.told t = []
  fresh : σ.pc = .idleUp → ∀ t, σ.life t = .inUse → σ.news t = []

theorem informed_init : Informed {} where
  during state h := by cases h
  told t h := by cases h
  since_le t h := by cases h
  chain t h := by cases h
  last t h := by cases h
  heard t := List.isChain_nil
  created t h := rfl
  fresh h := by cases h

/-- The streams ahead of a step that does not touch them. -/
theorem ahead_of_change (hpc : σ.pc.change = none) : σ.ahead = [] := by
  unfold ahead
  cases hq : σ.pc <;> rw [hq] at hpc <;> first | rfl | cases hpc

theorem pending_of_not_mem (h : t ∉ σ.ahead) : σ.pending t = [] := if_neg h

/-- The news of a stream that comes into use is the change that it is still to be told. -/
theorem news_initStreamUserCounter : (σ.initStreamUserCounter t).news t = σ.pending t := by
  show σ.changes.drop (Function.update σ.since t _ t) = _
  rw [Function.update_self]
  unfold pending
  by_cases hahead : t ∈ σ.ahead
  · rw [if_pos hahead, if_pos hahead]
    rcases List.eq_nil_or_concat σ.changes with hnil | ⟨before, state, hbefore⟩
    · rw [hnil]
      rfl
    · rw [hbefore, List.concat_eq_append, List.getLast?_concat, List.length_append]
      exact List.drop_left
  · rw [if_neg hahead, if_neg hahead]
    exact List.drop_length

namespace Informed

/-- A step that makes no change and takes no stream into use. -/
theorem keep (h : Informed σ) (hchanges : σ'.changes = σ.changes)
    (hin : ∀ t, σ'.life t = .inUse → σ.life t = .inUse ∧ σ'.told t = σ.told t ∧
      σ'.since t = σ.since t ∧ (t ∈ σ'.ahead ↔ t ∈ σ.ahead))
    (hheard : ∀ t, σ'.told t = σ.told t ∨ σ'.told t = [])
    (hcreated : ∀ t, σ'.life t = .created → σ'.told t = [])
    (hduring : ∀ state ∈ σ'.pc.change, state ∈ σ.pc.change)
    (hlast : ∀ t, σ'.life t = .inUse → ∀ state ∈ (σ.news t).getLast?, state = σ'.current)
    (hfresh : σ'.pc = .idleUp → ∀ t, σ'.life t = .inUse → σ.news t = []) : Informed σ' := by
  have hnews : ∀ t, σ'.life t = .inUse → σ'.news t = σ.news t := by
    intro t ht
    unfold news
    rw [hchanges, (hin t ht).2.2.1]
  refine ⟨fun s hs => ?_, fun t ht => ?_, fun t ht => ?_, fun t ht => ?_, fun t ht => ?_,
    fun t => ?_, hcreated, fun hpc t ht => ?_⟩
  · rw [hchanges]
    exact h.during s (hduring s hs)
  · obtain ⟨hlife, htold, -, hahead⟩ := hin t ht
    have hpending : σ'.pending t = σ.pending t := by
      unfold pending
      rw [hchanges]
      exact if_congr hahead rfl rfl
    rw [htold, hpending, hnews t ht]
    exact h.told t hlife
  · rw [(hin t ht).2.2.1, hchanges]
    exact h.since_le t (hin t ht).1
  · rw [hnews t ht]
    exact h.chain t (hin t ht).1
  · rw [hnews t ht]
    exact hlast t ht
  · rcases hheard t with htold | htold
    · rw [htold]
      exact h.heard t
    · rw [htold]
      exact List.isChain_nil
  · rw [hnews t ht]
    exact hfresh hpc t ht

/-- The thread goes on, and leaves the streams alone. -/
theorem goto (h : Informed σ) (hchanges : σ'.changes = σ.changes) (hlife : σ'.life = σ.life)
    (htold : σ'.told = σ.told) (hsince : σ'.since = σ.since)
    (hahead : ∀ t, σ.life t = .inUse → (t ∈ σ'.ahead ↔ t ∈ σ.ahead))
    (hduring : ∀ state ∈ σ'.pc.change, state ∈ σ.pc.change)
    (hcurrent : σ'.current = σ.current) (hpc : σ'.pc ≠ .idleUp) : Informed σ' := by
  refine h.keep hchanges (fun t ht => ?_) (fun t => Or.inl (by rw [htold])) (fun t ht => ?_)
    hduring (fun t ht => ?_) fun he => absurd he hpc
  · rw [hlife] at ht
    exact ⟨ht, by rw [htold], by rw [hsince], hahead t ht⟩
  · rw [hlife] at ht
    rw [htold]
    exact h.created t ht
  · rw [hlife] at ht
    rw [hcurrent]
    exact h.last t ht

/-- Between two places outside of all walks. -/
theorem outside (h : Informed σ) (hchanges : σ'.changes = σ.changes) (hlife : σ'.life = σ.life)
    (htold : σ'.told = σ.told) (hsince : σ'.since = σ.since) (hprev : σ'.prevState = σ.prevState)
    (hold : σ.pc.change = none) (hnew : σ'.pc.change = none) (hpc : σ'.pc ≠ .idleUp) :
    Informed σ' := by
  refine h.goto hchanges hlife htold hsince (fun t _ => ?_) (fun s hs => ?_) ?_ hpc
  · rw [ahead_of_change hold, ahead_of_change hnew]
  · rw [hnew] at hs
    cases hs
  · unfold current
    rw [hold, hnew, hprev]

/-- Without streams. -/
theorem empty (h : Informed σ) (hsound : Sound σ) (hnone : σ.mActiveStreams = [])
    (hchanges : σ'.changes = σ.changes) (hlife : σ'.life = σ.life) (htold : σ'.told = σ.told)
    (hnew : σ'.pc.change = none) : Informed σ' := by
  have habsent : ∀ t, σ'.life t ≠ .inUse := by
    intro t ht
    rw [hlife] at ht
    have hmem := (hsound.mem_iff t).mpr (by simp [ht])
    rw [hnone] at hmem
    cases hmem
  refine h.keep hchanges (fun t ht => absurd ht (habsent t)) (fun t => Or.inl (by rw [htold]))
    (fun t ht => ?_) (fun s hs => ?_) (fun t ht => absurd ht (habsent t))
    fun _ t ht => absurd ht (habsent t)
  · rw [hlife] at ht
    rw [htold]
    exact h.created t ht
  · rw [hnew] at hs
    cases hs

/-- A walk starts with a change. -/
theorem startWalk (h : Informed σ) (hsound : Sound σ) (hpc : σ.pc.change = none)
    (hstate : state ≠ σ.prevState) : Informed (σ.startWalk state) := by
  have hnews : ∀ t, σ.life t = .inUse → (σ.startWalk state).news t = σ.news t ++ [state] :=
    fun t ht => List.drop_append_of_le_length (h.since_le t ht)
  have hlast : (σ.startWalk state).changes.getLast? = some state := List.getLast?_concat
  refine ⟨fun s hs => ?_, fun t ht => ?_, fun t ht => ?_, fun t ht => ?_, fun t ht => ?_, h.heard,
    h.created, fun he => by cases he⟩
  · obtain rfl := Option.some.inj hs
    exact hlast
  · have hmem : t ∈ (σ.startWalk state).ahead := by
      show t ∈ Iterator.remaining σ.mActiveStreams σ.mActiveStreams.head?
      rw [Iterator.remaining_head?]
      exact (hsound.mem_iff t).mpr (by simp [show σ.life t = .inUse from ht])
    have htold := h.told t ht
    rw [pending_of_not_mem (by simp [ahead_of_change hpc]), List.append_nil] at htold
    rw [hnews t ht, ← htold]
    unfold pending
    rw [if_pos hmem, hlast]
    rfl
  · show σ.since t ≤ (σ.changes ++ [state]).length
    rw [List.length_append]
    exact Nat.le_add_right_of_le (h.since_le t ht)
  · rw [hnews t ht]
    refine List.isChain_append.mpr ⟨h.chain t ht, List.isChain_singleton state, ?_⟩
    intro s hs s' hs' heq
    obtain rfl := Option.some.inj hs'
    refine hstate (heq.symm.trans ((h.last t ht s hs).trans ?_))
    unfold current
    rw [hpc]
    rfl
  · rw [hnews t ht, List.getLast?_concat]
    rintro s hs
    exact (Option.some.inj hs).symm

theorem handle (h : Informed σ) (hsound : Sound σ) (hpc : σ.pc = .popped state) :
    Informed (σ.handle ctx state) := by
  have hchange : σ.pc.change = none := by
    rw [hpc]
    rfl
  have hout : ∀ pc : Pc, pc.change = none → pc ≠ .idleUp →
      Informed { σ with cardState := state, pc := pc } := fun pc hnew hne =>
    h.outside rfl rfl rfl rfl rfl hchange hnew hne
  have hcard : Informed { σ with cardState := state } :=
    h.outside rfl rfl rfl rfl rfl hchange hchange (by simp [hpc])
  have hset : Sound { σ with cardState := state } :=
    hsound.goto rfl rfl rfl rfl (fun _ => rfl) hsound.place
  unfold Loop.handle
  dsimp only
  split_ifs with hnone hidle heq
  · exact h.empty hsound hnone rfl rfl rfl rfl
  · exact h.empty hsound hnone rfl rfl rfl rfl
  · exact hout .top rfl (by simp)
  · exact hcard.startWalk hset hchange heq
  · exact hout .ctxUp rfl (by simp)
  · exact hcard.startWalk hset hchange heq
  · exact hout .top rfl (by simp)

/-- The streams ahead of the next place of the walk. -/
theorem mem_ahead_succ (hsound : Sound σ) (hpc : σ.pc = .walk state (some str)) (hne : t ≠ str) :
    t ∈ (fromElem σ.mActiveStreams str).tail ↔ t ∈ σ.ahead := by
  obtain ⟨-, after, -, -, hfrom⟩ := Iterator.exists_split
    (hsound.place str (by rw [hpc]; rfl))
  unfold ahead
  rw [hpc]
  show _ ↔ t ∈ fromElem σ.mActiveStreams str
  rw [hfrom, List.tail_cons, List.mem_cons, or_iff_right hne]

theorem tell (h : Informed σ) (hsound : Sound σ) (hpc : σ.pc = .walk state (some str)) {n : ℕ}
    (hc : σ.mActiveStreamUserCounter str = some (n, true)) : Informed (σ.tell state str n) := by
  have hlife : σ.life str = .inUse := (hsound.life_of_counter hc).1
  have hchange : σ.pc.change = some state := by
    rw [hpc]
    rfl
  have hlast := h.during state hchange
  have hcurrent : (σ.tell state str n).current = σ.current := by
    show state = σ.pc.change.getD σ.prevState
    rw [hchange]
    rfl
  -- the stream that is visited was ahead, and is not any more
  have hself : σ.told str ++ [state] = σ.news str := by
    have htold := h.told str hlife
    unfold pending at htold
    rw [if_pos ?_, hlast] at htold
    · exact htold
    · unfold ahead
      rw [hpc]
      exact Iterator.mem_fromElem_self (hsound.place str (by rw [hpc]; rfl))
  have hbehind : (σ.tell state str n).pending str = [] :=
    pending_of_not_mem (Iterator.not_mem_tail_fromElem hsound.nodup)
  refine ⟨fun s hs => ?_, fun t ht => ?_, h.since_le, h.chain, fun t ht => ?_, fun t => ?_,
    fun t ht => ?_, fun he => by cases he⟩
  · obtain rfl := Option.some.inj hs
    exact hlast
  · show Function.update σ.told str (σ.told str ++ [state]) t ++ _ = σ.news t
    by_cases hts : t = str
    · subst hts
      rw [Function.update_self, hbehind, List.append_nil, hself]
    · have hpending : (σ.tell state str n).pending t = σ.pending t :=
        if_congr (mem_ahead_succ hsound hpc hts) rfl rfl
      rw [Function.update_of_ne hts, hpending]
      exact h.told t ht
  · rw [hcurrent]
    exact h.last t ht
  · show (Function.update σ.told str (σ.told str ++ [state]) t).IsChain (· ≠ ·)
    by_cases hts : t = str
    · subst hts
      rw [Function.update_self, hself]
      exact h.chain t hlife
    · rw [Function.update_of_ne hts]
      exact h.heard t
  · change σ.life t = .created at ht
    show Function.update σ.told str _ t = []
    have hts : t ≠ str := by
      rintro rfl
      rw [hlife] at ht
      cases ht
    rw [Function.update_of_ne hts]
    exact h.created t ht

theorem visit (h : Informed σ) (hsound : Sound σ) (hpc : σ.pc = .walk state (some str)) :
    Informed (σ.visit state str) := by
  unfold Loop.visit
  split
  next n hc => exact h.tell hsound hpc hc
  next hc =>
    -- it is not in use
    refine h.goto rfl rfl rfl rfl (fun t ht => ?_) (fun s hs => ?_) ?_ (by simp)
    · have hts : t ≠ str := by
        rintro rfl
        exact hc _ (hsound.counter_eq ht)
      show t ∈ Iterator.remaining σ.mActiveStreams (succ σ.mActiveStreams str) ↔ _
      rw [Iterator.remaining_succ hsound.nodup (hsound.place str (by rw [hpc]; rfl))]
      exact mem_ahead_succ hsound hpc hts
    · rw [hpc]
      exact hs
    · unfold current
      rw [hpc]
      rfl

theorem decrease_told : (σ.decreaseStreamUserCounter t).changes = σ.changes ∧
    (σ.decreaseStreamUserCounter t).told = σ.told ∧
    (σ.decreaseStreamUserCounter t).since = σ.since := by
  unfold decreaseStreamUserCounter
  split <;> exact ⟨rfl, rfl, rfl⟩

theorem returned (h : Informed σ) (hsound : Sound σ) (hpc : σ.pc = .handler state str) :
    Informed { σ.decreaseStreamUserCounter str with
      pc := .walk state (succ σ.mActiveStreams str) } := by
  obtain ⟨hlist, hlife, -, -⟩ := Sound.decrease_frame (σ := σ) (t := str)
  obtain ⟨hchanges, htold, hsince⟩ := decrease_told (σ := σ) (t := str)
  refine h.goto hchanges hlife htold hsince (fun t ht => ?_) (fun s hs => ?_) ?_ (by simp)
  · show t ∈ Iterator.remaining (σ.decreaseStreamUserCounter str).mActiveStreams
      (succ σ.mActiveStreams str) ↔ t ∈ σ.ahead
    rw [hlist, Iterator.remaining_succ hsound.nodup (hsound.place str (by rw [hpc]; rfl))]
    unfold ahead
    rw [hpc]
  · rw [hpc]
    exact hs
  · unfold current
    rw [hpc]
    rfl

/-- The walk is over. -/
theorem finish (h : Informed σ) (hahead : σ.ahead = [])
    (hlast : ∀ t, σ.life t = .inUse → ∀ s ∈ (σ.news t).getLast?, s = state) :
    Informed (σ.finish state) := by
  refine h.keep rfl (fun t ht => ⟨ht, rfl, rfl, ?_⟩) (fun _ => Or.inl rfl) h.created
    (fun s hs => by cases hs) hlast fun he => by cases he
  rw [hahead]
  rfl

theorem next (h : Informed σ) (hsound : Sound σ) (hqueued : Queued σ)
    (hs : σ.next ctx = some σ') : Informed σ' := by
  have hlast : ∀ state, σ.pc.change = some state → ∀ t, σ.life t = .inUse →
      ∀ s ∈ (σ.news t).getLast?, s = state := by
    intro state hchange t ht s hs
    rw [h.last t ht s hs]
    unfold current
    rw [hchange]
    rfl
  unfold Loop.next at hs
  cases hpc : σ.pc with
  | top =>
    rw [hpc] at hs
    dsimp only at hs
    split at hs
    · obtain rfl := Option.some.inj hs
      exact h.outside rfl rfl rfl rfl rfl (by rw [hpc]; rfl) rfl (by simp)
    · obtain rfl := Option.some.inj hs
      exact h.outside rfl rfl rfl rfl rfl (by rw [hpc]; rfl) rfl (by simp)
  | popped state =>
    rw [hpc] at hs
    dsimp only at hs
    split_ifs at hs with hnone
    · obtain rfl := Option.some.inj hs
      exact h.outside rfl rfl rfl rfl rfl (by rw [hpc]; rfl) rfl (by simp)
    · obtain rfl := Option.some.inj hs
      exact h.handle hsound hpc
  | idleUp =>
    rw [hpc] at hs
    obtain rfl := Option.some.inj hs
    refine h.finish (ahead_of_change (by rw [hpc]; rfl)) fun t ht s hs => ?_
    rw [h.fresh hpc t ht] at hs
    cases hs
  | ctxUp =>
    have hknows := hqueued.knows
    unfold Knows at hknows
    rw [hpc] at hs hknows
    obtain rfl := Option.some.inj hs
    exact h.startWalk hsound (by rw [hpc]; rfl) hknows.2.symm
  | walk state it =>
    have hchange : σ.pc.change = some state := by
      rw [hpc]
      rfl
    rw [hpc] at hs
    cases it with
    | some str =>
      obtain rfl := Option.some.inj hs
      exact h.visit hsound hpc
    | none =>
      have hahead : σ.ahead = [] := by
        unfold ahead
        rw [hpc]
        rfl
      dsimp only at hs
      split_ifs at hs
      · obtain rfl := Option.some.inj hs
        refine h.goto rfl rfl rfl rfl (fun t _ => by rw [hahead]; rfl) (fun s hs => ?_) ?_ (by simp)
        · rw [hchange]
          exact hs
        · unfold current
          rw [hchange]
          rfl
      · obtain rfl := Option.some.inj hs
        exact h.finish hahead (hlast state hchange)
  | handler state str =>
    rw [hpc] at hs
    obtain rfl := Option.some.inj hs
    exact h.returned hsound hpc
  | ctxDown state =>
    rw [hpc] at hs
    obtain rfl := Option.some.inj hs
    have hahead : σ.ahead = [] := by
      unfold ahead
      rw [hpc]
    exact h.finish hahead (hlast state (by rw [hpc]; rfl))
  | asleep | released state str | ended =>
    rw [hpc] at hs
    cases hs

/-! ### The other threads -/

/-- A part of a call that moves a stream on, but not into use. -/
theorem setCounter (h : Informed σ) {c : Option (ℕ × Bool)} {life : Life}
    (hin : life = .inUse → σ.life t = .inUse) (hcreated : life ≠ .created) :
    Informed (σ.setCounter t c life) := by
  have hlife : ∀ u, (σ.setCounter t c life).life u = .inUse → σ.life u = .inUse := by
    intro u hu
    change Function.update σ.life t life u = .inUse at hu
    by_cases hut : u = t
    · rw [hut, Function.update_self] at hu
      rw [hut]
      exact hin hu
    · rwa [Function.update_of_ne hut] at hu
  refine h.keep rfl (fun u hu => ⟨hlife u hu, rfl, rfl, Iff.rfl⟩) (fun _ => Or.inl rfl)
    (fun u hu => ?_) (fun _ hs => hs) (fun u hu => h.last u (hlife u hu))
    fun hpc u hu => h.fresh hpc u (hlife u hu)
  change Function.update σ.life t life u = .created at hu
  by_cases hut : u = t
  · rw [hut, Function.update_self] at hu
    exact absurd hu hcreated
  · rw [Function.update_of_ne hut] at hu
    exact h.created u hu

theorem setUsers (h : Informed σ) {n : ℕ} : Informed (σ.setUsers t n) :=
  ⟨h.during, h.told, h.since_le, h.chain, h.last, h.heard, h.created, h.fresh⟩

theorem decrease (h : Informed σ) : Informed (σ.decreaseStreamUserCounter t) := by
  unfold decreaseStreamUserCounter
  split
  · exact ⟨h.during, h.told, h.since_le, h.chain, h.last, h.heard, h.created, h.fresh⟩
  · exact h

/-- A stream that is ahead is to be told the state that the others are being told. -/
theorem pending_eq (h : Informed σ) (hahead : t ∈ σ.ahead) : σ.pending t = [σ.current] := by
  unfold pending current
  rw [if_pos hahead]
  cases hchange : σ.pc.change with
  | none =>
    rw [ahead_of_change hchange] at hahead
    cases hahead
  | some state =>
    rw [h.during state hchange]
    rfl

/-- A stream comes into use, and is told of the change of the walk that has it to visit. -/
theorem initStreamUserCounter (h : Informed σ) (ht : σ.life t = .created) :
    Informed (σ.initStreamUserCounter t) := by
  have hother : ∀ u, u ≠ t → (σ.initStreamUserCounter t).life u = σ.life u ∧
      (σ.initStreamUserCounter t).news u = σ.news u := by
    intro u hut
    refine ⟨Function.update_of_ne hut _ _, ?_⟩
    show σ.changes.drop (Function.update σ.since t _ u) = _
    rw [Function.update_of_ne hut]
    rfl
  have hself : (σ.initStreamUserCounter t).news t = σ.pending t := news_initStreamUserCounter
  have hpending : σ.pending t = [] ∨ σ.pending t = [σ.current] := by
    by_cases hahead : t ∈ σ.ahead
    · exact Or.inr (h.pending_eq hahead)
    · exact Or.inl (pending_of_not_mem hahead)
  refine ⟨h.during, fun u hu => ?_, fun u hu => ?_, fun u hu => ?_, fun u hu => ?_, h.heard,
    fun u hu => ?_, fun hpc u hu => ?_⟩
  · by_cases hut : u = t
    · rw [hut, hself]
      show σ.told t ++ σ.pending t = _
      rw [h.created t ht]
      rfl
    · obtain ⟨hlife, hnews⟩ := hother u hut
      rw [hlife] at hu
      rw [hnews]
      exact h.told u hu
  · show Function.update σ.since t _ u ≤ σ.changes.length
    by_cases hut : u = t
    · rw [hut, Function.update_self]
      exact Nat.sub_le _ _
    · rw [(hother u hut).1] at hu
      rw [Function.update_of_ne hut]
      exact h.since_le u hu
  · by_cases hut : u = t
    · rw [hut, hself]
      rcases hpending with hnone | hone
      · rw [hnone]
        exact List.isChain_nil
      · rw [hone]
        exact List.isChain_singleton _
    · obtain ⟨hlife, hnews⟩ := hother u hut
      rw [hlife] at hu
      rw [hnews]
      exact h.chain u hu
  · by_cases hut : u = t
    · rw [hut, hself]
      intro s hs
      rcases hpending with hnone | hone
      · rw [hnone] at hs
        cases hs
      · rw [hone] at hs
        exact (Option.some.inj hs).symm
    · obtain ⟨hlife, hnews⟩ := hother u hut
      rw [hlife] at hu
      rw [hnews]
      exact h.last u hu
  · change Function.update σ.life t .inUse u = .created at hu
    by_cases hut : u = t
    · rw [hut, Function.update_self] at hu
      cases hu
    · rw [Function.update_of_ne hut] at hu
      exact h.created u hu
  · by_cases hut : u = t
    · have hchange : σ.pc.change = none := by
        rw [show σ.pc = .idleUp from hpc]
        rfl
      rw [hut, hself]
      exact pending_of_not_mem (by simp [ahead_of_change hchange])
    · obtain ⟨hlife, hnews⟩ := hother u hut
      rw [hlife] at hu
      rw [hnews]
      exact h.fresh hpc u hu

theorem registerStream (h : Informed σ) (hsound : Sound σ) (hlocked : σ.pc.locked = false) :
    Informed (σ.registerStream t) := by
  have hne : ∀ u, (σ.registerStream t).life u = .inUse → u ≠ t ∧ σ.life u = .inUse := by
    intro u hu
    change Function.update σ.life t .created u = .inUse at hu
    by_cases hut : u = t
    · rw [hut, Function.update_self] at hu
      cases hu
    · rw [Function.update_of_ne hut] at hu
      exact ⟨hut, hu⟩
  refine h.keep rfl (fun u hu => ?_) (fun u => ?_) (fun u hu => ?_) (fun _ hs => hs)
    (fun u hu => h.last u (hne u hu).2) fun hpc u hu => h.fresh hpc u (hne u hu).2
  · obtain ⟨hut, hlife⟩ := hne u hu
    refine ⟨hlife, Function.update_of_ne hut _ _, rfl, ?_⟩
    cases hpc : σ.pc with
    | released state str =>
      have hmem := hsound.place str (by rw [hpc]; rfl)
      obtain ⟨-, after, -, -, hfrom⟩ := Iterator.exists_split hmem
      unfold ahead
      rw [show (σ.registerStream t).pc = σ.pc from rfl, hpc]
      show u ∈ (fromElem (σ.mActiveStreams ++ [t]) str).tail ↔ u ∈ (fromElem _ str).tail
      rw [Iterator.fromElem_append hmem, hfrom]
      simp [hut]
    | walk | handler =>
      rw [hpc] at hlocked
      cases hlocked
    | top | asleep | popped | idleUp | ctxUp | ctxDown | ended =>
      unfold ahead
      rw [show (σ.registerStream t).pc = σ.pc from rfl, hpc]
  · show Function.update σ.told t [] u = σ.told u ∨ Function.update σ.told t [] u = []
    by_cases hut : u = t
    · rw [hut, Function.update_self]
      exact Or.inr rfl
    · exact Or.inl (Function.update_of_ne hut _ _)
  · change Function.update σ.life t .created u = .created at hu
    show Function.update σ.told t [] u = []
    by_cases hut : u = t
    · rw [hut, Function.update_self]
    · rw [Function.update_of_ne hut] at hu ⊢
      exact h.created u hu

theorem deregisterStream (h : Informed σ) (hsound : Sound σ) (hlocked : σ.pc.locked = false)
    (ht : σ.life t = .destroyed) : Informed (σ.deregisterStream t) := by
  have hunusable : ¬(σ.life t).usable := by simp [ht, Life.usable]
  have hne : ∀ life, life ≠ .absent → ∀ u, (σ.deregisterStream t).life u = life →
      u ≠ t ∧ σ.life u = life := by
    intro life hlife u hu
    change Function.update σ.life t .absent u = life at hu
    by_cases hut : u = t
    · rw [hut, Function.update_self] at hu
      exact absurd hu.symm hlife
    · rw [Function.update_of_ne hut] at hu
      exact ⟨hut, hu⟩
  have hin := hne .inUse (by simp)
  refine h.keep rfl (fun u hu => ?_) (fun _ => Or.inl rfl)
    (fun u hu => h.created u (hne .created (by simp) u hu).2) (fun _ hs => hs)
    (fun u hu => h.last u (hin u hu).2) fun hpc u hu => h.fresh hpc u (hin u hu).2
  obtain ⟨hut, hlife⟩ := hin u hu
  refine ⟨hlife, rfl, rfl, ?_⟩
  cases hpc : σ.pc with
  | released state str =>
    have hmem := hsound.place str (by rw [hpc]; rfl)
    have hstr := hsound.place_ne hlocked hunusable str (by rw [hpc]; rfl)
    have hcons : (fromElem (σ.mActiveStreams.erase t) str).tail =
        (fromElem σ.mActiveStreams str).tail.erase t := by
      obtain ⟨-, after, -, -, hfrom⟩ := Iterator.exists_split hmem
      rw [Iterator.fromElem_erase hsound.nodup hmem hstr.symm, hfrom,
        List.erase_cons_tail (by simpa using hstr)]
      rfl
    unfold ahead
    rw [show (σ.deregisterStream t).pc = σ.pc from rfl, hpc]
    show u ∈ (fromElem (σ.mActiveStreams.erase t) str).tail ↔ u ∈ (fromElem _ str).tail
    rw [hcons, List.mem_erase_of_ne hut]
  | walk | handler =>
    rw [hpc] at hlocked
    cases hlocked
  | top | asleep | popped | idleUp | ctxUp | ctxDown | ended =>
    unfold ahead
    rw [show (σ.deregisterStream t).pc = σ.pc from rfl, hpc]

theorem other (h : Informed σ) (hsound : Sound σ) {a : Action}
    (hlocked : a.locks = true → σ.pc.locked = false) (hs : σ.other a = some σ') :
    Informed σ' := by
  unfold Loop.other at hs
  cases a with
  | ssrHandler state =>
    obtain rfl := Option.some.inj hs
    exact ⟨h.during, h.told, h.since_le, h.chain, h.last, h.heard, h.created, h.fresh⟩
  | notifyAll =>
    dsimp only at hs
    split_ifs at hs with hn hasleep
    · obtain rfl := Option.some.inj hs
      exact h.outside rfl rfl rfl rfl rfl (by rw [hasleep]; rfl) rfl (by simp)
    · obtain rfl := Option.some.inj hs
      exact ⟨h.during, h.told, h.since_le, h.chain, h.last, h.heard, h.created, h.fresh⟩
  | registerStream t =>
    dsimp only at hs
    split_ifs at hs
    obtain rfl := Option.some.inj hs
    exact h.registerStream hsound (hlocked rfl)
  | initStreamUserCounter t =>
    dsimp only at hs
    split_ifs at hs with ht
    obtain rfl := Option.some.inj hs
    exact h.initStreamUserCounter ht
  | increaseStreamUserCounter t =>
    dsimp only at hs
    split at hs
    next n hc =>
      obtain rfl := Option.some.inj hs
      have hlife := (hsound.life_of_counter hc).1
      exact (h.setCounter (fun _ => hlife) (by simp [hlife])).setUsers
    · cases hs
  | decreaseStreamUserCounter t counted =>
    cases counted with
    | true =>
      dsimp only at hs
      split_ifs at hs
      obtain rfl := Option.some.inj hs
      exact h.decrease.setUsers
    | false =>
      obtain rfl := Option.some.inj hs
      exact h.decrease
  | deactivateStreamUserCounter t =>
    dsimp only at hs
    split at hs
    · obtain rfl := Option.some.inj hs
      exact h.setCounter (by simp) (by simp)
    · cases hs
  | waitStreamSmph t =>
    dsimp only at hs
    split at hs
    · obtain rfl := Option.some.inj hs
      exact h.setCounter (by simp) (by simp)
    · cases hs
  | eraseStreamUserCounter t | destroy t =>
    dsimp only at hs
    split_ifs at hs
    obtain rfl := Option.some.inj hs
    exact h.setCounter (by simp) (by simp)
  | deregisterStream t =>
    dsimp only at hs
    split_ifs at hs with hlife
    obtain rfl := Option.some.inj hs
    exact h.deregisterStream hsound (hlocked rfl) hlife

theorem step (h : Informed σ) (hsound : Sound σ) (hqueued : Queued σ) {i : Event}
    (hs : step ctx σ i = some σ') : Informed σ' := by
  unfold Loop.step at hs
  cases i with
  | next => exact h.next hsound hqueued hs
  | wake =>
    dsimp only at hs
    split_ifs at hs with hasleep
    obtain rfl := Option.some.inj hs
    exact h.outside rfl rfl rfl rfl rfl (by rw [hasleep]; rfl) rfl (by simp)
  | unlockActiveStream | lockActiveStream =>
    dsimp only at hs
    split at hs
    next state str hpc =>
      obtain rfl := Option.some.inj hs
      refine h.goto rfl rfl rfl rfl (fun t _ => ?_) (fun s hs => ?_) ?_ (by simp)
      · unfold ahead
        rw [hpc]
      · rw [hpc]
        exact hs
      · unfold current
        rw [hpc]
        rfl
    · cases hs
  | other a =>
    dsimp only at hs
    split_ifs at hs with hheld
    refine h.other hsound (fun hlocks => ?_) hs
    by_contra hnot
    exact hheld ⟨hlocks, by simpa using hnot⟩

end Informed

theorem informed_of_run {is : List Event} (hok : Meets (step ctx) CountsOwn {} is)
    (hrun : run (step ctx) {} is = some σ) : Queued σ ∧ Informed σ := by
  have hstep : ∀ (σ : Loop) i σ', σ.CountsOwn i → Sound σ ∧ Queued σ ∧ Informed σ →
      step ctx σ i = some σ' → Sound σ' ∧ Queued σ' ∧ Informed σ' := by
    rintro σ i σ' hown ⟨hsound, hqueued, h⟩ hs
    exact ⟨hsound.step hown hs, hqueued.step hs, h.step hsound hqueued hs⟩
  exact (run_invariant_of_meets hstep hok ⟨sound_init, queued_init, informed_init⟩ hrun).2

/-- **What the streams are told.** In every state that the threads reach, where no stream with users
is counted out by a call that did not count it in, the loop told a stream in use, or is still to
tell it in the walk under way, the changes since it came into use, and no stream twice in a row the
same state. The states are taken in the order in which they were posted, and the thread sleeps on a
queue that is not empty only while a notification is to come. When it has taken all states and is
done with them, each stream that was told anything was told last what was posted last. -/
theorem told_of_run {is : List Event} (hok : Meets (step ctx) CountsOwn {} is)
    (hrun : run (step ctx) {} is = some σ) :
    (∀ t, σ.life t = .inUse → σ.told t ++ σ.pending t = σ.changes.drop (σ.since t)) ∧
      (∀ t, (σ.told t).IsChain (· ≠ ·)) ∧
      σ.posted = σ.taken ++ σ.msgQ ∧
      (σ.pc = .asleep → σ.msgQ ≠ [] → 0 < σ.notifying) ∧
      (σ.msgQ = [] → σ.pc = .top ∨ σ.pc = .asleep → ∀ t, σ.life t = .inUse → σ.told t ≠ [] →
        (σ.told t).getLast? = some (σ.posted.getLast?.getD CARD_STATUS_ONLINE)) := by
  obtain ⟨hqueued, h⟩ := informed_of_run hok hrun
  have hknows := hqueued.knows
  unfold Knows at hknows
  refine ⟨h.told, h.heard, hqueued.posted, fun hpc => ?_, fun hnone hpc t ht htold => ?_⟩
  · rw [hpc] at hknows
    exact hknows.2
  · have hposted : σ.posted = σ.taken := by
      rw [hqueued.posted, hnone, List.append_nil]
    have hchange : σ.pc.change = none := by rcases hpc with hpc | hpc <;> rw [hpc] <;> rfl
    have hcurrent : σ.current = σ.lastTaken := by
      unfold current
      rw [hchange]
      rcases hpc with hpc | hpc <;> rw [hpc] at hknows
      · exact hknows.1.trans hknows.2
      · exact hknows.1.1.trans hknows.1.2
    have hnews : σ.told t = σ.news t := by
      have hall := h.told t ht
      rwa [pending_of_not_mem (by simp [ahead_of_change hchange]), List.append_nil] at hall
    cases hlast : (σ.told t).getLast? with
    | none => exact absurd (List.getLast?_eq_none_iff.mp hlast) htold
    | some state =>
      rw [hnews] at hlast
      rw [h.last t ht state hlast, hcurrent, hposted]
      rfl

/-- The card goes down and up. The first stream is told of both; while its handler runs without the
lock, a second one comes into use, which the walk comes to as well, and a call counts the second one
out that could not count it in. -/
def downUp : List Event :=
  [.other (.registerStream 1), .other (.initStreamUserCounter 1),
    .other (.ssrHandler CARD_STATUS_OFFLINE), .next, .next, .next, .unlockActiveStream,
    .other (.ssrHandler CARD_STATUS_ONLINE), .other (.registerStream 2),
    .other (.initStreamUserCounter 2), .other (.decreaseStreamUserCounter 2 false),
    .lockActiveStream, .next, .next, .next, .next, .next, .next, .next, .next, .next, .next, .next]

theorem meets_downUp : Meets (step false) CountsOwn {} downUp := by
  iterate 10 refine meets_cons_of_some trivial rfl ?_
  refine meets_cons_of_some (fun _ n active hc => ?_) rfl ?_
  · -- the second stream has no users yet
    cases hc
  · iterate 12 refine meets_cons_of_some trivial rfl ?_
    trivial

theorem told_of_run_downUp : ∃ σ, run (step false) {} downUp = some σ ∧
    σ.told 1 = [CARD_STATUS_OFFLINE, CARD_STATUS_ONLINE] ∧
    (σ.told 2).getLast? = some CARD_STATUS_ONLINE := by
  have hrun : run (step false) {} downUp = some _ := rfl
  obtain ⟨-, -, -, -, hlast⟩ := told_of_run meets_downUp hrun
  refine ⟨_, hrun, rfl, ?_⟩
  exact hlast rfl (Or.inl rfl) 2 rfl (by decide)

end Loop

end AudioReachPal.Rm.Ssr
