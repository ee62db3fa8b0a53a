import AudioReachPal.StStream.DelayedStop

/-!
# The timer of the deferred stop

The stream, its mutex and its timer thread as one system that steps. A call takes the stream mutex
and changes the stream; what it posts and cancels it does under the mutex of the timer, one after
the other, and the timer thread may step in between. The thread waits for a post, then for its delay,
and when that is over without a cancellation it lets the mutex of the timer go, takes the one of the
stream, and stops the stream if a stop is pending.

`posted` and `armed` are not of the source: they number the posts, and say after which of them the
delay began, so that a stop can be told to be for the last post.
-/

namespace AudioReachPal.StStream

open AudioReachPal.Lib

open st_state_id_t st_module_type_t stream_state_t StEvent StreamSoundTrigger

/-! ### The system -/

/-- Who has the stream mutex: a thread that calls a function of the stream, the timer thread, or the
destructor. -/
inductive MutexHolder where
  | caller
  | timer
  | destructor
  deriving DecidableEq, Repr

/-- Where the timer thread is. -/
inductive TimerPc where
  /-- at the head of its loop, without the mutex of the timer -/
  | loopHead
  /-- in `timer_start_cond_.wait` -/
  | waitStart
  /-- in `timer_wait_cond_.wait_for` -/
  | waitDelay
  /-- in `internalStopRecognition`, before it has the stream mutex -/
  | expired
  /-- in `internalStopRecognition`, with the stream mutex -/
  | stopping
  | exited
  deriving DecidableEq, Repr

structure TimerSystem where
  stream : StreamSoundTrigger
  mStreamMutex : Option MutexHolder
  /-- what the holder of the stream mutex has still to post and to cancel -/
  ops : List TimerOp
  pc : TimerPc
  timer_stop_waiting_ : Bool
  exit_timer_thread_ : Bool
  /-- a notification has reached the thread in `timer_start_cond_.wait` -/
  timer_start_cond_ : Bool
  /-- a notification has reached the thread in `timer_wait_cond_.wait_for` -/
  timer_wait_cond_ : Bool
  posted : ℕ
  armed : ℕ

def TimerSystem.init (online paused : Bool) : TimerSystem where
  stream := .init online paused
  mStreamMutex := none
  ops := []
  pc := .loopHead
  timer_stop_waiting_ := false
  exit_timer_thread_ := false
  timer_start_cond_ := false
  timer_wait_cond_ := false
  posted := 0
  armed := 0

inductive TimerStep where
  /-- a thread takes the stream mutex and calls a function of the stream -/
  | call (i : StreamInput)
  /-- the holder of the stream mutex posts or cancels, under the mutex of the timer -/
  | timerOp
  | unlock
  | destroy
  /-- the timer thread is at the head of its loop, and takes the mutex of the timer -/
  | loop
  /-- the wait for a post ends, if it is not notified then without a reason -/
  | started (spurious : Bool)
  /-- the delay ends, if it is not notified then because it is over, or without a reason -/
  | delayed (elapsed : Bool)
  /-- the timer thread takes the stream mutex, and stops the stream if a stop is pending -/
  | internalStop (e : Env)

namespace TimerSystem

/-- The section of `postDelayedStop`, or of `cancelDelayedStop`, under the mutex of the timer. A
notification that the thread does not wait for is lost. -/
def doOp (σ : TimerSystem) : TimerOp → TimerSystem
  | .postDelayedStop =>
    { σ with
      timer_stop_waiting_ := false
      timer_start_cond_ := σ.timer_start_cond_ || σ.pc == .waitStart
      posted := σ.posted + 1 }
  | .cancelDelayedStop =>
    { σ with
      timer_stop_waiting_ := true
      timer_wait_cond_ := σ.timer_wait_cond_ || σ.pc == .waitDelay }

/-- The head of the loop, with the mutex of the timer. -/
def enterLoop (σ : TimerSystem) : TimerSystem :=
  if σ.exit_timer_thread_ then { σ with pc := .exited }
  else { σ with pc := .waitStart, timer_start_cond_ := false }

/-- The thread has been told of a post, and waits for its delay. -/
def arm (σ : TimerSystem) : TimerSystem :=
  if σ.exit_timer_thread_ then { σ with pc := .exited }
  else { σ with pc := .waitDelay, timer_wait_cond_ := false, armed := σ.posted }

/-- The delay is over. -/
def endDelay (σ : TimerSystem) : TimerSystem :=
  if !σ.timer_stop_waiting_ && !σ.exit_timer_thread_ then { σ with pc := .expired }
  else σ.enterLoop

end TimerSystem

open TimerSystem

/-- One step of one of the threads. -/
def timerStep (σ : TimerSystem) : TimerStep → Option TimerSystem
  | .call i =>
    -- `internalStopRecognition` is only called by the timer thread
    if σ.mStreamMutex = none ∧ i.2 ≠ .internalStopRecognition then
      (step σ.stream i).map fun t =>
        { σ with stream := t, mStreamMutex := some .caller, ops := callOps i.1 σ.stream i.2 }
    else none
  | .timerOp =>
    match σ.ops with
    | [] => none
    | op :: ops => some { σ.doOp op with ops := ops }
  | .unlock =>
    if σ.ops ≠ [] then none
    else match σ.mStreamMutex with
      | some .caller => some { σ with mStreamMutex := none }
      | some .timer => some { σ with mStreamMutex := none, pc := .loopHead }
      | _ => none
  | .destroy =>
    if σ.mStreamMutex = none then
      some { σ with
        mStreamMutex := some .destructor
        exit_timer_thread_ := true
        timer_stop_waiting_ := true
        timer_wait_cond_ := σ.timer_wait_cond_ || σ.pc == .waitDelay
        timer_start_cond_ := σ.timer_start_cond_ || σ.pc == .waitStart }
    else none
  | .loop => if σ.pc = .loopHead then some σ.enterLoop else none
  | .started spurious =>
    if σ.pc = .waitStart ∧ (σ.timer_start_cond_ || spurious) then some σ.arm else none
  | .delayed elapsed =>
    if σ.pc = .waitDelay ∧ (σ.timer_wait_cond_ || elapsed) then some σ.endDelay else none
  | .internalStop e =>
    if σ.pc = .expired ∧ σ.mStreamMutex = none then
      (step σ.stream (e, .internalStopRecognition)).map fun t =>
        { σ with
          stream := t
          mStreamMutex := some .timer
          ops := callOps e σ.stream .internalStopRecognition
          pc := .stopping }
    else none

/-! ### The law -/

/-- The timer thread stops the stream in this step. -/
def Acts (σ : TimerSystem) : TimerStep → Prop
  | .internalStop _ => σ.pc = .expired ∧ σ.mStreamMutex = none ∧ σ.stream.pending_stop_ = true
  | _ => False

/-- **The law of the deferred stop.** A stop that acts is for the last post, and finds a detection. -/
def TimerLaw (σ : TimerSystem) (a : TimerStep) : Prop :=
  Acts σ a → σ.armed = σ.posted ∧ Detecting σ.stream.cur_state_

/-- A stop is only posted while no delay runs, and a detection is not left with the stop pending. -/
def TimerOk (σ : TimerSystem) : TimerStep → Prop
  | .call i => Admits stopOk σ.stream i
  | .timerOp => σ.ops.head? = some .postDelayedStop → σ.pc ≠ .waitDelay ∧ σ.pc ≠ .expired
  | _ => True

/-- **The invariant.** A delay that runs, or is over, began after the last post, and a stop is only
pending while a detection is handled. -/
structure Timed (σ : TimerSystem) : Prop where
  armed : σ.pc = .waitDelay ∨ σ.pc = .expired → σ.armed = σ.posted
  detecting : StopDetecting σ.stream

theorem timed_init (online paused : Bool) : Timed (.init online paused) := by
  constructor
  · rintro (h | h) <;> cases h
  · exact stopDetecting_init online paused

theorem Timed.doOp {σ : TimerSystem} (hσ : Timed σ) {op : TimerOp}
    (hok : op = .postDelayedStop → σ.pc ≠ .waitDelay ∧ σ.pc ≠ .expired) : Timed (σ.doOp op) := by
  cases op with
  | postDelayedStop =>
    obtain ⟨hdelay, hexpired⟩ := hok rfl
    refine ⟨?_, hσ.detecting⟩
    rintro (hpc | hpc)
    · exact absurd hpc hdelay
    · exact absurd hpc hexpired
  | cancelDelayedStop => exact ⟨hσ.armed, hσ.detecting⟩

theorem Timed.enterLoop {σ : TimerSystem} (hσ : Timed σ) : Timed σ.enterLoop := by
  unfold TimerSystem.enterLoop
  split
  · exact ⟨by simp, hσ.detecting⟩
  · exact ⟨by simp, hσ.detecting⟩

theorem Timed.arm {σ : TimerSystem} (hσ : Timed σ) : Timed σ.arm := by
  unfold TimerSystem.arm
  split
  · exact ⟨by simp, hσ.detecting⟩
  · exact ⟨fun _ => rfl, hσ.detecting⟩

theorem Timed.endDelay {σ : TimerSystem} (hσ : Timed σ) (hpc : σ.pc = .waitDelay) :
    Timed σ.endDelay := by
  unfold TimerSystem.endDelay
  split
  · exact ⟨fun _ => hσ.armed (Or.inl hpc), hσ.detecting⟩
  · exact hσ.enterLoop

/-- What each step keeps. -/
theorem timed_step {σ τ : TimerSystem} {a : TimerStep} (hok : TimerOk σ a) (hσ : Timed σ)
    (hτ : timerStep σ a = some τ) : Timed τ := by
  cases a with
  | call i =>
    obtain ⟨-, hτ⟩ := (Option.ite_none_right_eq_some ..).mp hτ
    obtain ⟨t, ht, rfl⟩ := Option.map_eq_some_iff.mp hτ
    exact ⟨hσ.armed, stopDetecting_of_admits hok hσ.detecting ht⟩
  | timerOp =>
    cases hops : σ.ops with
    | nil => simp [timerStep, hops] at hτ
    | cons op ops =>
      simp only [timerStep, hops, Option.some.injEq] at hτ
      subst hτ
      have hop : op = .postDelayedStop → σ.pc ≠ .waitDelay ∧ σ.pc ≠ .expired := by
        rintro rfl
        exact hok (by rw [hops]; rfl)
      exact ⟨(hσ.doOp hop).armed, (hσ.doOp hop).detecting⟩
  | unlock =>
    cases hops : σ.ops with
    | cons op ops => simp [timerStep, hops] at hτ
    | nil =>
      rcases hlock : σ.mStreamMutex with _ | (_ | _ | _) <;>
        simp only [timerStep, hops, hlock, ne_eq, not_true_eq_false, if_false, reduceCtorEq,
          Option.some.injEq] at hτ
      · subst hτ
        exact ⟨hσ.armed, hσ.detecting⟩
      · subst hτ
        exact ⟨by simp, hσ.detecting⟩
  | destroy =>
    obtain ⟨-, hτ⟩ := (Option.ite_none_right_eq_some ..).mp hτ
    cases hτ
    exact ⟨hσ.armed, hσ.detecting⟩
  | loop =>
    obtain ⟨-, hτ⟩ := (Option.ite_none_right_eq_some ..).mp hτ
    cases hτ
    exact hσ.enterLoop
  | started spurious =>
    obtain ⟨-, hτ⟩ := (Option.ite_none_right_eq_some ..).mp hτ
    cases hτ
    exact hσ.arm
  | delayed elapsed =>
    obtain ⟨hpc, hτ⟩ := (Option.ite_none_right_eq_some ..).mp hτ
    cases hτ
    exact hσ.endDelay hpc.1
  | internalStop e =>
    obtain ⟨-, hτ⟩ := (Option.ite_none_right_eq_some ..).mp hτ
    obtain ⟨t, ht, rfl⟩ := Option.map_eq_some_iff.mp hτ
    exact ⟨by simp, stopDetecting_internalStop e hσ.detecting ht⟩

theorem timerLaw_of_timed {σ : TimerSystem} (hσ : Timed σ) (a : TimerStep) : TimerLaw σ a := by
  intro hacts
  cases a with
  | internalStop e =>
    obtain ⟨hpc, -, hpending⟩ := hacts
    exact ⟨hσ.armed (Or.inr hpc), hσ.detecting hpending⟩
  | _ => exact absurd hacts id

/-- **The deferred stop.** In a run in which no stop is posted while the delay of another one runs or
its thread waits for the stream, and no event leaves a detection with the stop pending, a stop that
acts is for the last post, and finds a detection. -/
theorem timerLaw_of_meets {online paused : Bool} {as : List TimerStep}
    (hok : Meets timerStep TimerOk (.init online paused) as) :
    Meets timerStep TimerLaw (.init online paused) as :=
  hok.mono_of_invariant (fun _ _ _ => timed_step) (fun _ a _ hσ => timerLaw_of_timed hσ a)
    (timed_init online paused)

/-- **Why the condition on posts.** A stop that is posted while the delay of an earlier one runs, or
while its thread waits for the stream, can be acted on for the earlier one. -/
theorem late_of_post {σ : TimerSystem} (hlock : σ.mStreamMutex = some .caller)
    (hops : σ.ops = [.postDelayedStop]) (hpending : σ.stream.pending_stop_ = true)
    (hpc : σ.pc = .waitDelay ∨ σ.pc = .expired) (hexit : σ.exit_timer_thread_ = false)
    (harmed : σ.armed ≤ σ.posted) (e : Env) :
    ∃ as, ¬Meets timerStep TimerLaw σ (.timerOp :: .unlock :: as) := by
  have hpost : timerStep σ .timerOp = some { σ.doOp .postDelayedStop with ops := [] } := by
    simp only [timerStep, hops]
  have hunlock : timerStep { σ.doOp .postDelayedStop with ops := [] } .unlock =
      some { σ.doOp .postDelayedStop with ops := [], mStreamMutex := none } := by
    simp [timerStep, doOp, hlock]
  rcases hpc with hpc | hpc
  · refine ⟨[.delayed true, .internalStop e], ?_⟩
    rintro ⟨-, hmeets⟩
    obtain ⟨-, hmeets⟩ := hmeets _ hpost
    obtain ⟨-, hmeets⟩ := hmeets _ hunlock
    obtain ⟨hlaw, -⟩ := hmeets _ (by simp [timerStep, doOp, hpc, endDelay, hexit]; rfl)
    have hlast : σ.armed = σ.posted + 1 := (hlaw ⟨rfl, rfl, hpending⟩).1
    omega
  · refine ⟨[.internalStop e], ?_⟩
    rintro ⟨-, hmeets⟩
    obtain ⟨-, hmeets⟩ := hmeets _ hpost
    obtain ⟨hlaw, -⟩ := hmeets _ hunlock
    have hlast : σ.armed = σ.posted + 1 := (hlaw ⟨hpc, rfl, hpending⟩).1
    omega

/-! ### Two detections -/

/-- A sound model with a first stage only. -/
def Env.firstStage : Env :=
  { Env.smooth with modelEngines := [⟨ST_SM_ID_SVA_F_STAGE_GMM, true, true, 0⟩] }

/-- A call that posts and cancels `ops` times, from the lock of the stream to its unlock. -/
def called (i : StreamInput) (ops : ℕ) : List TimerStep :=
  .call i :: (List.replicate ops .timerOp ++ [.unlock])

/-- A recognition is started, its detection posts a stop, and the delay is over. -/
def detectedSteps (e : Env) : List TimerStep :=
  .loop :: ((startCalls e false).flatMap fun i => called i 0) ++
    called (e, .setEngineDetectionState GMM_DETECTED) 1 ++ [.started false, .delayed true]

/-- The stop acts for the detection. -/
theorem timerLaw_detected : Meets timerStep TimerLaw (.init true false)
    (detectedSteps .firstStage ++ [.internalStop .firstStage]) := by
  refine timerLaw_of_meets ?_
  refine meets_cons_of_some trivial rfl ?_
  refine meets_cons_of_some rfl rfl (meets_cons_of_some trivial rfl ?_)
  refine meets_cons_of_some rfl rfl (meets_cons_of_some trivial rfl ?_)
  refine meets_cons_of_some rfl rfl (meets_cons_of_some trivial rfl ?_)
  refine meets_cons_of_some rfl rfl (meets_cons_of_some (fun _ => ⟨nofun, nofun⟩) rfl ?_)
  refine meets_cons_of_some trivial rfl (meets_cons_of_some trivial rfl ?_)
  exact meets_cons_of_some trivial rfl (meets_cons_of_some trivial rfl trivial)

/-- The client starts again before the timer thread has the stream, and the next detection comes:
the stop for the first detection stops the second one. -/
theorem not_timerLaw_restarted : ¬Meets timerStep TimerLaw (.init true false)
    (detectedSteps .firstStage ++ (called (.firstStage, .start) 1 ++
      called (.firstStage, .setEngineDetectionState GMM_DETECTED) 1) ++
        [.internalStop .firstStage]) := by
  intro hmeets
  have hlaw := hmeets.after rfl
  have hlast := (hlaw ⟨rfl, rfl, rfl⟩).1
  revert hlast
  decide

end AudioReachPal.StStream
