import AudioReachPal.SessionAlsaCompress.Resources

/-!
# The accounts of a compressed session

The log of a session gives the account of each of its resources: the votes, the threads, the
handles, and every front end. `Keeps votes s` ties them to the fields of the session in the course
of a call, with the votes that are then out. Each event has one lemma that says what it does to
them.
-/

namespace AudioReachPal.SessionAlsaCompress.Resources

open AudioReachPal.Lib
open AudioReachPal.Streams (pal_stream_direction_t)
open AudioReachPal.Streams.pal_stream_direction_t

namespace Event

/-! ### What an event counts for -/

def vote : Event → SignType
  | .voteSleepMonitor true => .pos
  | .voteSleepMonitor false => .neg
  | _ => .zero

def thread : Event → SignType
  | .createThread => .pos
  | .joinThread => .neg
  | _ => .zero

def handle : Event → SignType
  | .compressOpen => .pos
  | .compressClose => .neg
  | _ => .zero

def frontEnd (id : ℤ) : Event → SignType
  | .allocateFrontEndId i => if i = id then .pos else .zero
  | .freeFrontEndId i => if i = id then .neg else .zero
  | _ => .zero

/-- A handle captures from its start to its stop, or to its close. -/
def capture (capturing : Bool) : Event → Bool
  | .compressStart => true
  | .compressOpen | .compressStop | .compressClose => false
  | _ => capturing

end Event

def capturing (log : List Event) : Bool := log.foldl Event.capture false

/-! ### The accounts in the course of a call -/

/-- The accounts of a session that has `votes` votes out. -/
structure Keeps (votes : ℕ) (s : Session) : Prop where
  votes : account Event.vote s.log = some votes
  threads : account Event.thread s.log = some s.worker_thread.toNat
  handles : account Event.handle s.log = some s.compress.toNat
  frontEnds : ∀ id, account (Event.frontEnd id) s.log = some (s.compressDevIds.count id)
  running : s.terminated = false

namespace Keeps

variable {e : Env} {s : Session} {n : ℕ}

theorem vote (h : Keeps n s) : Keeps (n + 1) (s.record [.voteSleepMonitor true]) where
  votes := account_append_of_eq h.votes _
  threads := account_append_of_eq h.threads _
  handles := account_append_of_eq h.handles _
  frontEnds id := account_append_of_eq (h.frontEnds id) _
  running := h.running

theorem withdraw (h : Keeps (n + 1) s) : Keeps n (s.record [.voteSleepMonitor false]) where
  votes := account_append_of_eq h.votes _
  threads := account_append_of_eq h.threads _
  handles := account_append_of_eq h.handles _
  frontEnds id := account_append_of_eq (h.frontEnds id) _
  running := h.running

theorem createThread (h : Keeps n s) (hno : s.worker_thread = false) :
    Keeps n s.createThread where
  votes := account_append_of_eq h.votes _
  threads := by
    have hthreads := h.threads
    rw [hno] at hthreads
    exact account_append_of_eq hthreads _
  handles := account_append_of_eq h.handles _
  frontEnds id := account_append_of_eq (h.frontEnds id) _
  running := by
    change (s.terminated || s.worker_thread) = false
    rw [h.running, hno]
    rfl

theorem joinThread (h : Keeps n s) (hthread : s.worker_thread = true) : Keeps n s.joinThread where
  votes := account_append_of_eq h.votes _
  threads := by
    have hthreads := h.threads
    rw [hthread] at hthreads
    exact account_append_of_eq hthreads _
  handles := account_append_of_eq h.handles _
  frontEnds id := account_append_of_eq (h.frontEnds id) _
  running := h.running

theorem compressOpen (h : Keeps n s) (hno : s.compress = false) : Keeps n s.compressOpen where
  votes := account_append_of_eq h.votes _
  threads := account_append_of_eq h.threads _
  handles := by
    have hhandles := h.handles
    rw [hno] at hhandles
    exact account_append_of_eq hhandles _
  frontEnds id := account_append_of_eq (h.frontEnds id) _
  running := h.running

/-- A null `compress` stands for a handle that is closed. -/
theorem compressClose (h : Keeps n s) (hhandle : s.compress = true) :
    Keeps n { s.record [.compressClose] with compress := false } where
  votes := account_append_of_eq h.votes _
  threads := account_append_of_eq h.threads _
  handles := by
    have hhandles := h.handles
    rw [hhandle] at hhandles
    exact account_append_of_eq hhandles _
  frontEnds id := account_append_of_eq (h.frontEnds id) _
  running := h.running

/-- A handle that starts or stops counts for nothing. -/
theorem handleCall (h : Keeps n s) {a : Event} (ha : a = .compressStart ∨ a = .compressStop) :
    Keeps n (s.record [a]) := by
  rcases ha with rfl | rfl
  · exact ⟨account_append_of_eq h.votes _, account_append_of_eq h.threads _,
      account_append_of_eq h.handles _, fun id => account_append_of_eq (h.frontEnds id) _,
      h.running⟩
  · exact ⟨account_append_of_eq h.votes _, account_append_of_eq h.threads _,
      account_append_of_eq h.handles _, fun id => account_append_of_eq (h.frontEnds id) _,
      h.running⟩

theorem allocate (h : Keeps n s) (i : ℤ) :
    Keeps n { s.record [.allocateFrontEndId i] with
      compressDevIds := s.compressDevIds ++ [i] } where
  votes := account_append_of_eq h.votes _
  threads := account_append_of_eq h.threads _
  handles := account_append_of_eq h.handles _
  frontEnds id := by
    refine (account_append_of_eq (h.frontEnds id) _).trans ?_
    by_cases hid : i = id
    · subst hid
      have hpos : Event.frontEnd i (.allocateFrontEndId i) = .pos := if_pos rfl
      rw [run_cons, charge_pos hpos, List.count_append, List.count_singleton_self]
      rfl
    · have hzero : Event.frontEnd id (.allocateFrontEndId i) = .zero := if_neg hid
      rw [run_cons, charge_zero hzero, List.count_append, List.count_singleton]
      simp [hid]
  running := h.running

end Keeps

/-- Every id that is freed lowers its own account, and no other. -/
theorem run_free (id : ℤ) (ids : List ℤ) (n : ℕ) :
    run (charge (Event.frontEnd id)) (n + ids.count id) (ids.map .freeFrontEndId) = some n := by
  induction ids with
  | nil => rfl
  | cons i ids ih =>
    rw [List.map_cons, run_cons]
    by_cases hid : i = id
    · subst hid
      have hneg : Event.frontEnd i (.freeFrontEndId i) = .neg := if_pos rfl
      rw [List.count_cons_self, ← Nat.add_assoc, charge_neg_succ hneg]
      exact ih
    · have hzero : Event.frontEnd id (.freeFrontEndId i) = .zero := if_neg hid
      rw [List.count_cons_of_ne hid, charge_zero hzero]
      exact ih

theorem free_quiet {δ : Event → SignType} (hδ : ∀ id, δ (.freeFrontEndId id) = .zero)
    (ids : List ℤ) : ∀ a ∈ ids.map Event.freeFrontEndId, δ a = .zero := by
  intro a ha
  obtain ⟨id, -, rfl⟩ := List.mem_map.mp ha
  exact hδ id

theorem Keeps.freeFrontEndIds {n : ℕ} {s : Session} (h : Keeps n s) :
    Keeps n s.freeFrontEndIds where
  votes := (account_append_of_quiet (free_quiet (fun _ => rfl) _) _).trans h.votes
  threads := (account_append_of_quiet (free_quiet (fun _ => rfl) _) _).trans h.threads
  handles := (account_append_of_quiet (free_quiet (fun _ => rfl) _) _).trans h.handles
  frontEnds id := by
    refine (account_append_of_eq (h.frontEnds id) _).trans ?_
    have hfree := run_free id s.compressDevIds 0
    rw [Nat.zero_add] at hfree
    exact hfree
  running := h.running

end AudioReachPal.SessionAlsaCompress.Resources
