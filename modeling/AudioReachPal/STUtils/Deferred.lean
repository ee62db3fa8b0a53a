import AudioReachPal.STUtils.Defs

/-!
# The thread of the deferred switch

With low latency barge-in a switch to LPI waits for five seconds, which `voiceUIDeferredSwitchLoop`
counts down. The thread gives `vui_switch_mutex_` up while it waits, sleeps and switches, and these
are the places between which the other calls come: `checkAndUpdateDeferSwitchState` and
`stHandleDeferredSwitch` of other threads, `stUtilsDeinit`, and what happens to the streams and the
sound card. A step of the thread runs from one such place to the next.
-/

namespace AudioReachPal.STUtils

open AudioReachPal.Lib
open pal_stream_type_t defer_switch_state_t

/-! ### The thread -/

/-- Where the thread is: every place at which it does not hold the mutex. -/
inductive SwitchThread where
  | unstarted
  | entering
  | waiting
  | sleeping
  | switching
  | relocking
  | ended
  deriving DecidableEq, Repr

/-- The globals with the thread: its local flag, and how often it acquired and released the wake
lock. -/
structure DeferredSwitch where
  globals : Globals
  online : Bool
  vui_switch_thread_exit_ : Bool
  thread : SwitchThread
  is_wake_lock_acquired : Bool
  acquireWakeLock : ℕ
  releaseWakeLock : ℕ

namespace DeferredSwitch

def release (s : DeferredSwitch) : DeferredSwitch :=
  if s.is_wake_lock_acquired then
    { s with releaseWakeLock := s.releaseWakeLock + 1, is_wake_lock_acquired := false }
  else s

def acquire (s : DeferredSwitch) : DeferredSwitch :=
  { s with acquireWakeLock := s.acquireWakeLock + 1, is_wake_lock_acquired := true }

def setCount (cnt : ℤ) (s : DeferredSwitch) : DeferredSwitch :=
  { s with globals := { s.globals with deferred_switch_cnt_ := cnt } }

/-- Gives the wake lock up and waits. -/
def wait (s : DeferredSwitch) : DeferredSwitch := { s.release with thread := .waiting }

/-- The body of the loop behind the wait. -/
def body (s : DeferredSwitch) : DeferredSwitch :=
  if s.vui_switch_thread_exit_ then { s.release with thread := .ended }
  else if s.globals.deferred_switch_cnt_ > 0 then
    { s.setCount (s.globals.deferred_switch_cnt_ - 1) with thread := .sleeping }
  else if s.globals.deferred_switch_cnt_ = 0 then { s with thread := .switching }
  -- a wake-up without a countdown: the next iteration waits again
  else s.wait

/-- The loop from its condition on. -/
def iterate (s : DeferredSwitch) : DeferredSwitch :=
  if s.vui_switch_thread_exit_ then { s with thread := .ended }
  else if s.globals.deferred_switch_cnt_ < 0 then s.wait
  else s.body

/-- `voiceUIDeferredSwitchLoop` from where the thread is to where it gives the mutex up next. A wait
ends at any time, with or without a notification. -/
def voiceUIDeferredSwitchLoop (s : DeferredSwitch) : Option DeferredSwitch :=
  match s.thread with
  | .unstarted | .ended => none
  | .entering => some s.iterate
  | .waiting => some s.acquire.body
  | .sleeping =>
    some (if s.globals.deferred_switch_cnt_ = 0 then { s with thread := .switching } else s.iterate)
  | .switching =>
    some { s with globals := stHandleDeferredSwitch s.online s.globals, thread := .relocking }
  | .relocking =>
    some (if s.globals.deferred_switch_cnt_ = 0 then (s.setCount (-1)).iterate else s.iterate)

end DeferredSwitch

/-- What happens around a deferred switch. `activeStreams` is any change of the active streams, the
end of a buffering among them. -/
inductive DeferEvent where
  | stUtilsInit
  | stUtilsDeinit
  | voiceUIDeferredSwitchLoop
  | checkAndUpdateDeferSwitchState (stream_active : Bool)
  | stHandleDeferredSwitch
  | activeStreams (mActiveStreams : List DetectionStream)
  | soundCard (online : Bool)

section Runs

variable (p : Platform)

/-- Starts the thread where none runs. -/
def stUtilsInit (s : DeferredSwitch) : Option DeferredSwitch :=
  if !p.isLowLatencyBargeinSupported then some s
  else if s.thread = .unstarted ∨ s.thread = .ended then
    some { s with thread := .entering, is_wake_lock_acquired := false }
  else none

/-- Tells the thread to end; the flag is never taken back. -/
def stUtilsDeinit (s : DeferredSwitch) : DeferredSwitch :=
  if p.isLowLatencyBargeinSupported then { s with vui_switch_thread_exit_ := true } else s

/-- One event. -/
def deferStep (s : DeferredSwitch) : DeferEvent → Option DeferredSwitch
  | .stUtilsInit => stUtilsInit p s
  | .stUtilsDeinit => some (stUtilsDeinit p s)
  | .voiceUIDeferredSwitchLoop => s.voiceUIDeferredSwitchLoop
  | .checkAndUpdateDeferSwitchState stream_active =>
    some { s with globals := (checkAndUpdateDeferSwitchState p stream_active s.globals).2 }
  | .stHandleDeferredSwitch =>
    some { s with globals := stHandleDeferredSwitch s.online s.globals }
  | .activeStreams mActiveStreams => some { s with globals := { s.globals with mActiveStreams } }
  | .soundCard online => some { s with online }

def DeferredSwitch.init : DeferredSwitch where
  globals := System.init.globals
  online := true
  vui_switch_thread_exit_ := false
  thread := .unstarted
  is_wake_lock_acquired := false
  acquireWakeLock := 0
  releaseWakeLock := 0

/-- The balance of the thread: its wake locks, and what a pending switch to LPI waits for. -/
structure DeferredSwitch.Balanced (s : DeferredSwitch) : Prop where
  released_le : s.releaseWakeLock ≤ s.acquireWakeLock
  acquired_le : s.acquireWakeLock ≤ s.releaseWakeLock + 1
  ended : s.thread = .ended → s.acquireWakeLock = s.releaseWakeLock
  pending : p.isLowLatencyBargeinSupported = true →
    s.globals.deferredSwitchState = DEFER_NLPI_LPI_SWITCH →
      0 ≤ s.globals.deferred_switch_cnt_ ∨ s.globals.isAnyStreamBuffering = true ∨ s.online = false

/-! ### When the thread stays balanced -/

namespace DeferredSwitch

/-- The exit flag is set behind a sleep or a switch, and the wake lock is held: the condition of the
loop ends it without a release. -/
def EndsHolding (s : DeferredSwitch) : Prop :=
  s.vui_switch_thread_exit_ = true ∧ s.is_wake_lock_acquired = true ∧
    (s.thread = .sleeping ∧ s.globals.deferred_switch_cnt_ ≠ 0 ∨ s.thread = .relocking)

/-- A switch to LPI is pending without a countdown. -/
def Parked (s : DeferredSwitch) : Prop :=
  p.isLowLatencyBargeinSupported = true ∧
    s.globals.deferredSwitchState = DEFER_NLPI_LPI_SWITCH ∧ s.globals.deferred_switch_cnt_ < 0

/-- The thread is about to end the countdown of a switch that is still pending. -/
def GivesUp (s : DeferredSwitch) : Prop :=
  p.isLowLatencyBargeinSupported = true ∧ s.thread = .relocking ∧
    s.globals.deferredSwitchState = DEFER_NLPI_LPI_SWITCH ∧ s.globals.deferred_switch_cnt_ = 0

/-- A stream buffers or the sound card is offline. -/
def Held (s : DeferredSwitch) : Prop :=
  s.globals.isAnyStreamBuffering = true ∨ s.online = false

/-- The thread does not end out of a sleep or a switch with the wake lock; while a switch to LPI is
pending without a countdown, what holds it does not go away. -/
def Steady (s : DeferredSwitch) : DeferEvent → Prop
  | .voiceUIDeferredSwitchLoop => ¬ s.EndsHolding ∧ (s.GivesUp p → s.Held)
  | .activeStreams mActiveStreams =>
    s.Parked p → (mActiveStreams.any fun str => str.isStreamInBuffering) = true ∨ s.online = false
  | .soundCard online => s.Parked p → s.globals.isAnyStreamBuffering = true ∨ online = false
  | _ => True

/-- The wake lock is counted by the flag, which is down where the thread waits or does not run. -/
structure Counted (s : DeferredSwitch) : Prop where
  count : s.acquireWakeLock = s.releaseWakeLock + s.is_wake_lock_acquired.toNat
  down : s.thread = .unstarted ∨ s.thread = .entering ∨ s.thread = .waiting →
    s.is_wake_lock_acquired = false

/-- What a pending switch to LPI waits for. -/
def Pending (s : DeferredSwitch) : Prop :=
  p.isLowLatencyBargeinSupported = true →
    s.globals.deferredSwitchState = DEFER_NLPI_LPI_SWITCH →
      0 ≤ s.globals.deferred_switch_cnt_ ∨ s.Held

variable {p} {s : DeferredSwitch}

/-- A pending switch waits for something exactly where it is not parked without what holds it. -/
theorem pending_iff : s.Pending p ↔ (s.Parked p → s.Held) := by
  unfold Pending Parked
  constructor
  · rintro h ⟨hlow, hstate, hneg⟩
    exact (h hlow hstate).resolve_left (by omega)
  · intro h hlow hstate
    rcases lt_or_ge s.globals.deferred_switch_cnt_ 0 with hneg | hpos
    · exact Or.inr (h ⟨hlow, hstate, hneg⟩)
    · exact Or.inl hpos

theorem Counted.balanced_iff (h : s.Counted) :
    s.Balanced p ↔ (s.thread = .ended → s.is_wake_lock_acquired = false) ∧ s.Pending p := by
  have hcount := h.count
  have hle := Bool.toNat_le s.is_wake_lock_acquired
  constructor
  · intro hb
    refine ⟨fun ht => ?_, hb.pending⟩
    have hend := hb.ended ht
    rw [← Bool.toNat_eq_zero]
    omega
  · rintro ⟨hend, hpend⟩
    refine ⟨by omega, by omega, fun ht => ?_, hpend⟩
    rw [hend ht, Bool.toNat_false] at hcount
    exact hcount

/-! ### The steps of the thread -/

@[simp] theorem release_globals (s : DeferredSwitch) : s.release.globals = s.globals := by
  unfold release
  split_ifs <;> rfl

@[simp] theorem release_online (s : DeferredSwitch) : s.release.online = s.online := by
  unfold release
  split_ifs <;> rfl

theorem release_down (s : DeferredSwitch) : s.release.is_wake_lock_acquired = false := by
  unfold release
  split_ifs with h
  · rfl
  · exact Bool.eq_false_iff.mpr h

theorem release_count (h : s.acquireWakeLock = s.releaseWakeLock + s.is_wake_lock_acquired.toNat) :
    s.release.acquireWakeLock =
      s.release.releaseWakeLock + s.release.is_wake_lock_acquired.toNat := by
  unfold release
  split_ifs with hheld
  · rw [hheld] at h
    exact h
  · exact h

/-- `t` goes on from `s` to a place behind the mutex: the counts go on, and the pending switch, if it
was one, waits for what it waited for. -/
structure Next (p : Platform) (s t : DeferredSwitch) : Prop where
  count : s.acquireWakeLock = s.releaseWakeLock + s.is_wake_lock_acquired.toNat → t.Counted
  pending : s.Pending p → t.Pending p

theorem next_wait : Next p s s.wait := by
  refine ⟨fun h => ⟨release_count h, fun _ => release_down s⟩, fun h => ?_⟩
  unfold Pending Held wait at *
  simpa using h

theorem next_body : Next p s s.body ∧ (s.body.thread = .ended →
    s.body.is_wake_lock_acquired = false) := by
  unfold body
  split_ifs with hexit hpos hzero
  · refine ⟨⟨fun h => ⟨release_count h, fun _ => release_down s⟩, fun h => ?_⟩,
      fun _ => release_down s⟩
    unfold Pending Held at *
    simpa using h
  · refine ⟨⟨fun h => ⟨h, by simp⟩, fun _ _ _ => Or.inl ?_⟩, by simp⟩
    show 0 ≤ s.globals.deferred_switch_cnt_ - 1
    omega
  · exact ⟨⟨fun h => ⟨h, by simp⟩, fun h => h⟩, by simp⟩
  · exact ⟨next_wait, by simp [wait]⟩

theorem next_iterate : Next p s s.iterate ∧
    ((s.iterate.thread = .ended → s.iterate.is_wake_lock_acquired = false) ↔
      ¬ (s.vui_switch_thread_exit_ = true ∧ s.is_wake_lock_acquired = true)) := by
  unfold iterate
  split_ifs with hexit hneg
  · refine ⟨⟨fun h => ⟨h, by simp⟩, fun h => h⟩, ?_⟩
    simp [hexit]
  · exact ⟨next_wait, iff_of_true (by simp [wait]) fun h => hexit h.1⟩
  · obtain ⟨hnext, hend⟩ := next_body (p := p) (s := s)
    exact ⟨hnext, iff_of_true hend fun h => hexit h.1⟩

/-- Without a countdown the loop leaves the globals as they are. -/
theorem pending_iterate_of_neg (h : s.globals.deferred_switch_cnt_ < 0) :
    s.iterate.Pending p ↔ s.Pending p := by
  unfold iterate
  rw [if_pos h]
  split_ifs
  · exact Iff.rfl
  · unfold Pending Held wait
    simp

theorem pending_handle (h : s.Pending p) :
    ({ s with globals := stHandleDeferredSwitch s.online s.globals } : DeferredSwitch).Pending p := by
  unfold Pending Held Globals.isAnyStreamBuffering stHandleDeferredSwitch at *
  show _ → _ → _
  split_ifs
  · exact h
  · intro hlow hstate
    cases hdefer : s.globals.deferredSwitchState <;> rw [hdefer] at hstate
    · rw [hdefer] at hstate
      cases hstate
    · cases hstate
    · cases hstate

theorem pending_checkAndUpdate (stream_active : Bool) (h : s.Pending p) :
    ({ s with globals := (checkAndUpdateDeferSwitchState p stream_active s.globals).2 } :
      DeferredSwitch).Pending p := by
  intro hlow
  have hpend := h hlow
  unfold checkAndUpdateDeferSwitchState
  unfold Held Globals.isAnyStreamBuffering at *
  show _ → _
  split_ifs with hactive hcancel hvui hbuffer hcancel hbuffer
  · exact fun hstate => nomatch hstate
  · have hdelay : 0 ≤ NLPI_LPI_SWITCH_DELAY_SEC := by decide
    exact fun _ => Or.inl hdelay
  · exact fun _ => Or.inr (Or.inl hbuffer)
  · exact hpend
  · exact fun hstate => nomatch hstate
  · exact fun hstate => nomatch hstate
  · exact hpend

/-- A step of the thread: it counts its wake lock, it ends without it unless it ends out of a sleep
or a switch, and a pending switch still waits for something unless the thread gives it up. -/
theorem loop_spec {t : DeferredSwitch} (hc : s.Counted) (hpend : s.Pending p)
    (h : s.voiceUIDeferredSwitchLoop = some t) :
    t.Counted ∧ ((t.thread = .ended → t.is_wake_lock_acquired = false) ↔ ¬ s.EndsHolding) ∧
      (t.Pending p ↔ (s.GivesUp p → s.Held)) := by
  have hcount := hc.count
  obtain ⟨hnext, hend⟩ := next_iterate (p := p) (s := s)
  unfold voiceUIDeferredSwitchLoop at h
  unfold EndsHolding GivesUp
  cases hthread : s.thread with
  | unstarted | ended =>
    rw [hthread] at h
    cases h
  | entering =>
    rw [hthread] at h
    cases h
    have hdown := hc.down (Or.inr (Or.inl hthread))
    exact ⟨hnext.count hcount, hend.trans (by simp [hdown]),
      iff_of_true (hnext.pending hpend) (by simp)⟩
  | waiting =>
    rw [hthread] at h
    cases h
    have hdown := hc.down (Or.inr (Or.inr hthread))
    rw [hdown, Bool.toNat_false] at hcount
    obtain ⟨hnext, hend⟩ := next_body (p := p) (s := s.acquire)
    refine ⟨hnext.count ?_, iff_of_true hend (by simp), iff_of_true (hnext.pending hpend) (by simp)⟩
    show s.acquireWakeLock + 1 = s.releaseWakeLock + 1
    omega
  | sleeping =>
    rw [hthread] at h
    cases h
    split_ifs with hzero
    · exact ⟨⟨hcount, by simp⟩, iff_of_true (by simp) (by simp [hzero]), iff_of_true hpend (by simp)⟩
    · exact ⟨hnext.count hcount, hend.trans (by simp [hzero]),
        iff_of_true (hnext.pending hpend) (by simp)⟩
  | switching =>
    rw [hthread] at h
    cases h
    exact ⟨⟨hcount, by simp⟩, iff_of_true (by simp) (by simp),
      iff_of_true (pending_handle hpend) (by simp)⟩
  | relocking =>
    rw [hthread] at h
    cases h
    split_ifs with hzero
    · obtain ⟨hnext, hend⟩ := next_iterate (p := p) (s := s.setCount (-1))
      refine ⟨hnext.count hcount, hend.trans (by simp [setCount]), ?_⟩
      have hnone : (-1 : ℤ) < 0 := by decide
      rw [pending_iterate_of_neg hnone]
      unfold Pending Held setCount Globals.isAnyStreamBuffering
      simp [hzero]
    · exact ⟨hnext.count hcount, hend.trans (by simp),
        iff_of_true (hnext.pending hpend) (by simp [hzero])⟩

theorem idle_of_none (h : s.voiceUIDeferredSwitchLoop = none) :
    s.thread = .unstarted ∨ s.thread = .ended := by
  unfold voiceUIDeferredSwitchLoop at h
  cases hthread : s.thread with
  | unstarted => exact Or.inl rfl
  | ended => exact Or.inr rfl
  | entering | waiting | sleeping | switching | relocking =>
    rw [hthread] at h
    cases h

/-! ### Every step -/

theorem counted_step {t : DeferredSwitch} {e : DeferEvent} (hc : s.Counted) (hb : s.Balanced p)
    (h : deferStep p s e = some t) : t.Counted := by
  obtain ⟨hended, hpend⟩ := hc.balanced_iff.mp hb
  cases e with
  | stUtilsInit =>
    change stUtilsInit p s = some t at h
    unfold stUtilsInit at h
    split_ifs at h with hlow hstart <;> cases h
    · exact hc
    · -- the thread that ended has released its wake lock
      have hdown : s.is_wake_lock_acquired = false := by
        rcases hstart with hstart | hstart
        · exact hc.down (Or.inl hstart)
        · exact hended hstart
      have hcount := hc.count
      rw [hdown] at hcount
      exact ⟨hcount, fun _ => rfl⟩
  | stUtilsDeinit =>
    cases h
    unfold stUtilsDeinit
    split_ifs
    · exact ⟨hc.count, hc.down⟩
    · exact hc
  | voiceUIDeferredSwitchLoop => exact (loop_spec hc hpend h).1
  | checkAndUpdateDeferSwitchState | stHandleDeferredSwitch | activeStreams | soundCard =>
    cases h
    exact ⟨hc.count, hc.down⟩

/-- The steps that keep the balance are the steady ones. -/
theorem balanced_step_iff {e : DeferEvent} (hc : s.Counted) (hb : s.Balanced p) :
    (∀ t, deferStep p s e = some t → t.Balanced p) ↔ s.Steady p e := by
  obtain ⟨hended, hpend⟩ := hc.balanced_iff.mp hb
  have hkept : ∀ t, deferStep p s e = some t →
      (t.Balanced p ↔ (t.thread = .ended → t.is_wake_lock_acquired = false) ∧ t.Pending p) :=
    fun t ht => (counted_step hc hb ht).balanced_iff
  rw [forall₂_congr hkept]
  cases e with
  | stUtilsInit =>
    refine iff_of_true (fun t ht => ?_) trivial
    change stUtilsInit p s = some t at ht
    unfold stUtilsInit at ht
    split_ifs at ht <;> cases ht
    · exact ⟨hended, hpend⟩
    · exact ⟨by simp, hpend⟩
  | stUtilsDeinit =>
    refine iff_of_true (fun t ht => ?_) trivial
    cases ht
    unfold stUtilsDeinit
    split_ifs
    · exact ⟨hended, hpend⟩
    · exact ⟨hended, hpend⟩
  | voiceUIDeferredSwitchLoop =>
    show _ ↔ ¬ s.EndsHolding ∧ (s.GivesUp p → s.Held)
    cases hloop : s.voiceUIDeferredSwitchLoop with
    | some t =>
      obtain ⟨-, hend, hpending⟩ := loop_spec hc hpend hloop
      rw [← hend, ← hpending]
      exact ⟨fun h => h t hloop, by rintro h _ hu; cases hloop.symm.trans hu; exact h⟩
    | none =>
      have hidle := idle_of_none hloop
      refine iff_of_true (fun t ht => nomatch hloop.symm.trans ht) ⟨?_, ?_⟩
      · rintro ⟨-, -, ⟨hthread, -⟩ | hthread⟩ <;> simp [hthread] at hidle
      · rintro ⟨-, hthread, -⟩
        simp [hthread] at hidle
  | checkAndUpdateDeferSwitchState stream_active =>
    refine iff_of_true (fun t ht => ?_) trivial
    cases ht
    exact ⟨hended, pending_checkAndUpdate stream_active hpend⟩
  | stHandleDeferredSwitch =>
    refine iff_of_true (fun t ht => ?_) trivial
    cases ht
    exact ⟨hended, pending_handle hpend⟩
  | activeStreams mActiveStreams =>
    simp only [deferStep, Option.some.injEq, forall_eq']
    rw [and_iff_right hended]
    exact pending_iff
  | soundCard online =>
    simp only [deferStep, Option.some.injEq, forall_eq']
    rw [and_iff_right hended]
    exact pending_iff

end DeferredSwitch

/-- **The deferred-switch thread.** Along a run the balance holds in every state reached exactly when
every step is steady. -/
theorem deferredSwitch_balanced_iff (es : List DeferEvent) :
    (∀ es' s, es' <+: es → run (deferStep p) DeferredSwitch.init es' = some s → s.Balanced p) ↔
      Meets (deferStep p) (DeferredSwitch.Steady p) DeferredSwitch.init es := by
  have hinit : DeferredSwitch.init.Counted := ⟨rfl, fun _ => rfl⟩
  refine law_prefixes_iff_meets_of_law
    (fun s e t hc hb ht _ => DeferredSwitch.counted_step hc hb ht)
    (fun s e _ hc hb => DeferredSwitch.balanced_step_iff hc hb) hinit ?_
  exact ⟨Nat.zero_le _, Nat.zero_le _, fun _ => rfl, fun _ h => nomatch h⟩

/-! ### Two ways out of balance -/

/-- A voice UI stream that detects. -/
def detecting : DetectionStream :=
  { id := 0, type := PAL_STREAM_VOICE_UI, isStreamInBuffering := false, paused_ := false }

/-- The thread of a platform with a voice UI stream runs and waits, and a switch to LPI is wanted. -/
def deferred : List DeferEvent :=
  [.stUtilsInit, .voiceUIDeferredSwitchLoop, .activeStreams [detecting],
    .checkAndUpdateDeferSwitchState false]

/-- `stUtilsDeinit` while the thread sleeps: the thread ends and keeps the wake lock. And a countdown
that ends while the sound card is offline: the switch stays pending after the card is back. -/
theorem deferredSwitch_unbalanced :
    (∃ s, run (deferStep Platform.full) DeferredSwitch.init
        (deferred ++ [.voiceUIDeferredSwitchLoop, .stUtilsDeinit, .voiceUIDeferredSwitchLoop]) =
          some s ∧ s.thread = .ended ∧ s.acquireWakeLock = 1 ∧ s.releaseWakeLock = 0 ∧
            ¬ s.Balanced Platform.full) ∧
      ∃ s, run (deferStep Platform.full) DeferredSwitch.init
        (deferred ++ .soundCard false :: List.replicate 8 .voiceUIDeferredSwitchLoop ++
          [.soundCard true]) = some s ∧
        s.globals.deferredSwitchState = DEFER_NLPI_LPI_SWITCH ∧ s.globals.deferred_switch_cnt_ = -1 ∧
          s.globals.isAnyStreamBuffering = false ∧ s.online = true ∧ ¬ s.Balanced Platform.full := by
  refine ⟨⟨_, rfl, rfl, rfl, rfl, ?_⟩, ⟨_, rfl, rfl, rfl, rfl, rfl, ?_⟩⟩
  · intro h
    exact absurd (h.ended rfl) (by decide)
  · intro h
    exact absurd (h.pending rfl rfl) (by decide)

end Runs

end AudioReachPal.STUtils
