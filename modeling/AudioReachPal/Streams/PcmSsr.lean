import AudioReachPal.Streams.Held
import AudioReachPal.Streams.Session

/-!
# A reset of the sound card under a PCM stream

A stream that is told that the sound card goes down stops and closes, and keeps in `cachedState`
what it has to be when the card is up again. Meanwhile a start, a pause and a resume only write
`cachedState`; a stop does not, and a pause also makes the stream `STREAM_PAUSED`, so that it cannot
be opened again. `Playback` says what the commands mean, and the code does so without a reset
(`playback_command`). The commands given during the reset take effect when the stream ends there.
-/

namespace AudioReachPal.Streams

open AudioReachPal.StStream (stream_state_t)
open AudioReachPal.StStream.stream_state_t

/-! ### What the commands mean -/

/-- What a client hears of a stream. -/
inductive Playback where
  | halted
  | playing
  | paused
  deriving DecidableEq, Repr

inductive Command where
  | start
  | stop
  | pause
  | resume
  deriving DecidableEq, Repr

def Playback.after : Playback → Command → Playback
  | .halted, .start => .playing
  | .halted, _ => .halted
  | .playing, .stop => .halted
  | .playing, .pause => .paused
  | .playing, _ => .playing
  | .paused, .stop => .halted
  | .paused, .resume => .playing
  | .paused, _ => .paused

/-- A resumed stream plays, although it is `STREAM_PAUSED` until it is written to. -/
def playback (s : Stream) : Playback :=
  match s.currentState with
  | STREAM_STARTED => .playing
  | STREAM_PAUSED => if s.isPaused then .paused else .playing
  | _ => .halted

/-- The stream is in the state of `p`, and its session too. -/
def Stands (s : Stream) : Playback → Prop
  | .halted => (s.currentState = STREAM_INIT ∨ s.currentState = STREAM_STOPPED) ∧
      session s.calls = { opened := true }
  | .playing => s.currentState = STREAM_STARTED ∧
      session s.calls = { opened := true, started := true }
  | .paused => s.currentState = STREAM_PAUSED ∧
      session s.calls = { opened := true, started := true, paused := true }

theorem Stands.opened {s : Stream} {p : Playback} (h : Stands s p) :
    (session s.calls).opened = true := by
  cases p with
  | halted | playing | paused => rw [h.2]

namespace StreamPCM

def command (e : Env) (s : Stream) : Command → ℤ × Stream
  | .start => start e s
  | .stop => stop e s
  | .pause => pause e s
  | .resume => resume e s

/-- The commands that are accepted, and the stream after all of them. -/
def obey (s : Stream) : List (Command × Env) → List Command × Stream
  | [] => ([], s)
  | (c, e) :: cs =>
    let r := command e s c
    let rest := obey r.2 cs
    (if r.1 = 0 then c :: rest.1 else rest.1, rest.2)

/-- The commands without a reset, each with the same answers. -/
def replay (e : Env) (s : Stream) (cs : List Command) : Stream :=
  cs.foldl (fun s c => (command e s c).2) s

/-- The sound card is up, and whatever is asked of a device or the session succeeds. -/
structure Smooth (e : Env) : Prop where
  cardOnline : e.cardOnline = true
  isDeviceAvailable : ∀ d, e.isDeviceAvailable d = true
  isDeviceReady : ∀ d, e.isDeviceReady d = true
  handleBTDeviceNotReady : ∀ s, e.handleBTDeviceNotReady s = { mDevices := s.mDevices }
  openDevice : ∀ d, e.openDevice d = 0
  startDevice : ∀ d, e.startDevice d = 0
  sessionOpen : e.sessionOpen = 0
  sessionPrepare : e.sessionPrepare = 0
  sessionStart : e.sessionStart = 0
  errno : e.errno ≠ -ENETRESET
  sessionPause : e.sessionPause = 0
  sessionResume : e.sessionResume = 0

/-- A stream that a start can start: it has a device to play on, and a known direction. -/
structure Startable (s : Stream) : Prop where
  direction : s.direction ≠ .unsupported
  mDevices : s.direction = .PAL_AUDIO_OUTPUT → s.mDevices ≠ []

/-! ### What requests keep -/

/-- What an open, a start and a stop leave alone. -/
structure Steady (s t : Stream) : Prop where
  direction : t.direction = s.direction
  mDevices : t.mDevices = s.mDevices
  isPaused : t.isPaused = s.isPaused
  cachedState : t.cachedState = s.cachedState
  skipSSRHandling : t.skipSSRHandling = s.skipSSRHandling

theorem Steady.startable {s t : Stream} (h : Steady s t) (hs : Startable s) : Startable t := by
  obtain ⟨hdir, hdevices⟩ := hs
  refine ⟨?_, ?_⟩
  · rw [h.direction]
    exact hdir
  · rw [h.direction, h.mDevices]
    exact hdevices

theorem Steady.log (s : Stream) (new : List Call) : Steady s (s.log new) :=
  ⟨rfl, rfl, rfl, rfl, rfl⟩

theorem Steady.trans {s t u : Stream} (h : Steady s t) (h' : Steady t u) : Steady s u :=
  ⟨h'.direction.trans h.direction, h'.mDevices.trans h.mDevices, h'.isPaused.trans h.isPaused,
    h'.cachedState.trans h.cachedState, h'.skipSSRHandling.trans h.skipSSRHandling⟩

section

variable (e : Env) (s : Stream)

theorem stopSession_spec : Steady s (stopSession e s).2 ∧
    (stopSession e s).2.currentState = s.currentState := by
  unfold stopSession
  cases s.direction with
  | PAL_AUDIO_OUTPUT | PAL_AUDIO_INPUT | PAL_AUDIO_INPUT_OUTPUT => exact ⟨Steady.log s _, rfl⟩
  | unsupported => exact ⟨⟨rfl, rfl, rfl, rfl, rfl⟩, rfl⟩

theorem stop_steady : Steady s (stop e s).2 := by
  have hstop : ∀ new,
      Steady s (stopSession e { s.log new with currentState := STREAM_STOPPED }).2 := by
    intro new
    have hlog : Steady s { s.log new with currentState := STREAM_STOPPED } :=
      ⟨rfl, rfl, rfl, rfl, rfl⟩
    exact hlog.trans (stopSession_spec e _).1
  unfold stop
  cases s.currentState with
  | STREAM_STARTED | STREAM_PAUSED => exact hstop _
  | _ => exact ⟨rfl, rfl, rfl, rfl, rfl⟩

/-- The state after a stop. -/
theorem stop_currentState : (stop e s).2.currentState =
    if s.playing then STREAM_STOPPED else s.currentState := by
  unfold stop Stream.playing
  cases hcur : s.currentState with
  | STREAM_STARTED | STREAM_PAUSED => exact (stopSession_spec e _).2
  | _ => simp [hcur]

/-- A close leaves the stream idle, and its session closed. -/
theorem close_spec (hidle : s.currentState ≠ STREAM_IDLE) : Steady s (close e s).2 ∧
    (close e s).2.currentState = STREAM_IDLE ∧ session (close e s).2.calls = {} := by
  have hstop : Steady s (stopForClose e s) := by
    unfold stopForClose
    cases s.currentState with
    | STREAM_STARTED | STREAM_PAUSED => exact stop_steady e s
    | STREAM_INIT | STREAM_STOPPED => exact Steady.log s _
    | _ => exact ⟨rfl, rfl, rfl, rfl, rfl⟩
  unfold close
  rw [if_neg hidle]
  refine ⟨hstop.trans ⟨rfl, rfl, rfl, rfl, rfl⟩, rfl, ?_⟩
  simp only [closeSession, Stream.log_calls]
  rw [List.append_cons, session_append_map (fun _ => rfl), session_append_one]
  rfl

/-- `t` is `s` when the sound card is down: closed, with the state to come back to. -/
structure Downed (s t : Stream) : Prop where
  direction : t.direction = s.direction
  mDevices : t.mDevices = s.mDevices
  isPaused : t.isPaused = s.isPaused
  skipSSRHandling : t.skipSSRHandling = s.skipSSRHandling
  cachedState : t.cachedState =
    if s.cachedState = STREAM_IDLE then s.currentState else s.cachedState
  currentState : t.currentState = STREAM_IDLE
  session : session t.calls = {}

theorem ssrDownHandler_spec (hcur : s.currentState = STREAM_INIT ∨ s.currentState = STREAM_STARTED ∨
      s.currentState = STREAM_PAUSED ∨ s.currentState = STREAM_STOPPED)
    (hfeasible : e.isSsrDownFeasible) : Downed s (ssrDownHandler e s).2 := by
  obtain ⟨t, ht⟩ : ∃ t, t = if s.cachedState = STREAM_IDLE then
    { s with cachedState := s.currentState } else s := ⟨_, rfl⟩
  have hdowned : ∀ u, Steady t u → u.currentState ≠ STREAM_IDLE →
      Downed s { (close e u).2 with currentState := STREAM_IDLE } := by
    intro u hu hidle
    obtain ⟨hclose, -, hsession⟩ := close_spec e u hidle
    have hkept := hu.trans hclose
    rw [ht] at hkept
    obtain ⟨hdir, hdevices, hflag, hcached, hskip⟩ := hkept
    by_cases hnone : s.cachedState = STREAM_IDLE
    · rw [if_pos hnone] at hdir hdevices hflag hcached hskip
      refine ⟨hdir, hdevices, hflag, hskip, ?_, rfl, hsession⟩
      rw [if_pos hnone]
      exact hcached
    · rw [if_neg hnone] at hdir hdevices hflag hcached hskip
      refine ⟨hdir, hdevices, hflag, hskip, ?_, rfl, hsession⟩
      rw [if_neg hnone]
      exact hcached
  have hstate : t.currentState = s.currentState := by
    rw [ht]
    split_ifs <;> rfl
  have hready : t.currentState ≠ STREAM_IDLE →
      Downed s { (close e t).2 with currentState := STREAM_IDLE } :=
    hdowned t ⟨rfl, rfl, rfl, rfl, rfl⟩
  have hplaying : t.playing = true →
      Downed s { (close e (stop e t).2).2 with currentState := STREAM_IDLE } := by
    intro hp
    refine hdowned _ (stop_steady e t) ?_
    rw [stop_currentState, if_pos hp]
    decide
  unfold ssrDownHandler
  rw [if_neg (by simp [hfeasible])]
  dsimp only
  rw [← ht]
  rcases hcur with h | h | h | h <;> rw [h] at hstate <;> rw [hstate]
  · exact hready (by simp [hstate])
  · exact hplaying (by simp [Stream.playing, hstate])
  · exact hplaying (by simp [Stream.playing, hstate])
  · exact hready (by simp [hstate])

end

/-! ### Commands while the sound card is down -/

section

variable {s t : Stream}

/-- Some command asks for the stream to play. -/
def asksToPlay (cs : List Command) : Bool := cs.any fun c => c == .start || c == .resume

/-- The state to come back to, after commands other than a pause. -/
def cachedAfter (cached : stream_state_t) (cs : List Command) : stream_state_t :=
  if asksToPlay cs then STREAM_STARTED else cached

/-- Without a pause the commands are all accepted, and leave the stream closed. -/
theorem obey_spec {cs : List (Command × Env)} (hcard : ∀ c ∈ cs, c.2.cardOnline = false)
    (hpause : .pause ∉ cs.map Prod.fst) (hcur : s.currentState = STREAM_IDLE) :
    (obey s cs).1 = cs.map Prod.fst ∧
      (obey s cs).2 = { s with cachedState := cachedAfter s.cachedState (cs.map Prod.fst) } := by
  induction cs generalizing s with
  | nil => exact ⟨rfl, rfl⟩
  | cons c cs ih =>
    obtain ⟨c, e⟩ := c
    have hoff : e.cardOnline = false := hcard (c, e) List.mem_cons_self
    have hcard' : ∀ c ∈ cs, c.2.cardOnline = false :=
      fun d hd => hcard d (List.mem_cons_of_mem _ hd)
    obtain ⟨hc, hpause'⟩ : Command.pause ≠ c ∧ .pause ∉ cs.map Prod.fst := by
      simpa [not_or] using hpause
    have hplay : c = .start ∨ c = .resume →
        command e s c = (0, { s with cachedState := STREAM_STARTED }) := by
      rintro (rfl | rfl)
      · simp [command, start, hoff, cacheStarted]
      · simp [command, resume, hoff]
    have hasks : c = .start ∨ c = .resume →
        cachedAfter s.cachedState (((c, e) :: cs).map Prod.fst) = STREAM_STARTED := by
      rintro (rfl | rfl) <;> simp [cachedAfter, asksToPlay]
    have hplayed : c = .start ∨ c = .resume →
        (obey s ((c, e) :: cs)).1 = ((c, e) :: cs).map Prod.fst ∧
          (obey s ((c, e) :: cs)).2 = { s with
            cachedState := cachedAfter s.cachedState (((c, e) :: cs).map Prod.fst) } := by
      intro h
      obtain ⟨haccepted, hstate⟩ := ih (s := { s with cachedState := STREAM_STARTED }) hcard'
        hpause' hcur
      rw [hasks h]
      unfold obey
      dsimp only
      rw [hplay h, if_pos rfl, haccepted, hstate]
      simp [cachedAfter]
    cases c with
    | start => exact hplayed (Or.inl rfl)
    | resume => exact hplayed (Or.inr rfl)
    | pause => exact absurd rfl hc
    | stop =>
      have hstop : command e s .stop = (0, s) := by simp [command, stop, hcur]
      obtain ⟨haccepted, hstate⟩ := ih hcard' hpause' hcur
      have hasks : cachedAfter s.cachedState (((Command.stop, e) :: cs).map Prod.fst) =
          cachedAfter s.cachedState (cs.map Prod.fst) := rfl
      unfold obey
      dsimp only
      rw [hstop, if_pos rfl, haccepted, hstate, hasks]
      exact ⟨rfl, rfl⟩

/-- A stream that a pause made `STREAM_PAUSED` while it was closed: it will not be opened again. -/
structure Lost (s : Stream) : Prop where
  currentState : s.currentState = STREAM_PAUSED ∨ s.currentState = STREAM_STOPPED
  cachedState : s.cachedState = STREAM_STARTED ∨ s.cachedState = STREAM_PAUSED
  closed : (session s.calls).opened = false

theorem stop_session (e : Env) (s : Stream) :
    (session (stop e s).2.calls).opened = (session s.calls).opened := by
  have hstop : ∀ t : Stream, (session (stopSession e t).2.calls).opened =
      (session t.calls).opened := by
    intro t
    unfold stopSession
    cases t.direction with
    | PAL_AUDIO_OUTPUT =>
      simp only [Stream.log_calls]
      rw [List.append_cons, session_append_map (fun _ => rfl), session_append_one]
      rfl
    | PAL_AUDIO_INPUT =>
      simp only [Stream.log_calls]
      rw [← List.append_assoc, session_append_one, session_append_map (fun _ => rfl)]
      rfl
    | PAL_AUDIO_INPUT_OUTPUT =>
      simp only [Stream.log_calls]
      rw [← List.append_assoc, List.append_cons, session_append_map (fun _ => rfl),
        session_append_one]
      simp only [Session.after]
      rw [session_append_map (fun _ => rfl)]
    | unsupported => rfl
  unfold stop
  cases s.currentState with
  | STREAM_STARTED | STREAM_PAUSED =>
    refine (hstop _).trans ?_
    simp only [Stream.log_calls]
    rw [session_append_map (fun _ => rfl)]
  | _ => rfl

/-- A pause while the stream is closed loses it, whatever is given before and after. -/
theorem obey_lost {cs : List (Command × Env)} (hcard : ∀ c ∈ cs, c.2.cardOnline = false)
    (hs : Lost s ∨ s.currentState = STREAM_IDLE ∧ (session s.calls).opened = false ∧
      .pause ∈ cs.map Prod.fst) : Lost (obey s cs).2 := by
  induction cs generalizing s with
  | nil =>
    rcases hs with hs | ⟨-, -, hs⟩
    · exact hs
    · cases hs
  | cons c cs ih =>
    obtain ⟨c, e⟩ := c
    have hoff : e.cardOnline = false := hcard (c, e) List.mem_cons_self
    refine ih (s := (command e s c).2) (fun d hd => hcard d (List.mem_cons_of_mem _ hd)) ?_
    cases c with
    | start =>
      have hstart : (command e s .start).2 = { s with cachedState := STREAM_STARTED } := by
        simp [command, start, hoff, cacheStarted]
      rw [hstart]
      refine hs.imp (fun h => ⟨h.currentState, Or.inl rfl, h.closed⟩) fun h => ⟨h.1, h.2.1, ?_⟩
      simpa using h.2.2
    | resume =>
      have hresume : (command e s .resume).2 = { s with cachedState := STREAM_STARTED } := by
        simp [command, resume, hoff]
      rw [hresume]
      refine hs.imp (fun h => ⟨h.currentState, Or.inl rfl, h.closed⟩) fun h => ⟨h.1, h.2.1, ?_⟩
      simpa using h.2.2
    | pause =>
      have hpause : (command e s .pause).2 = { s with
          cachedState := STREAM_PAUSED, isPaused := true, currentState := STREAM_PAUSED } := by
        simp [command, pause, hoff]
      rw [hpause]
      exact Or.inl ⟨Or.inl rfl, Or.inr rfl, hs.elim Lost.closed fun h => h.2.1⟩
    | stop =>
      rcases hs with hs | ⟨hidle, hclosed, hmem⟩
      · left
        refine ⟨Or.inr ?_, ?_, ?_⟩
        · change (stop e s).2.currentState = STREAM_STOPPED
          rw [stop_currentState]
          rcases hs.currentState with h | h <;> simp [Stream.playing, h]
        · have hcached : (command e s .stop).2.cachedState = s.cachedState :=
            (stop_steady e s).cachedState
          rw [hcached]
          exact hs.cachedState
        · exact (stop_session e s).trans hs.closed
      · have hstop : (command e s .stop).2 = s := by simp [command, stop, hidle]
        rw [hstop]
        refine Or.inr ⟨hidle, hclosed, ?_⟩
        simpa using hmem

end

/-! ### The sound card is up again -/

section

variable {e : Env} {s : Stream}

theorem Smooth.btNotConnected (he : Smooth e) : btNotConnected e s = false := by
  unfold Streams.btNotConnected
  simp [he.isDeviceAvailable, he.isDeviceReady]

theorem Smooth.firstFailure (f : pal_device_id_t → ℤ) (hf : ∀ d, f d = 0)
    (ds : List pal_device_id_t) : firstFailure f ds = 0 :=
  firstFailure_eq_zero.mpr fun d _ => hf d

/-- A stream that is not idle, and not open, is not opened. -/
theorem open_lost (he : Smooth e)
    (hcur : s.currentState = STREAM_PAUSED ∨ s.currentState = STREAM_STOPPED) :
    StreamPCM.open e s = (-EINVAL, s) := by
  unfold StreamPCM.open openStream
  rw [if_neg (by simp [he.cardOnline]), if_neg (by simp [he.btNotConnected])]
  rcases hcur with h | h <;> rw [h]

theorem open_smooth (he : Smooth e) (hcur : s.currentState = STREAM_IDLE) :
    (StreamPCM.open e s).1 = 0 ∧ Steady s (StreamPCM.open e s).2 ∧
      (StreamPCM.open e s).2.currentState = STREAM_INIT ∧
      session (StreamPCM.open e s).2.calls = { opened := true } := by
  unfold StreamPCM.open openStream
  rw [if_neg (by simp [he.cardOnline]), if_neg (by simp [he.btNotConnected])]
  rw [hcur]
  dsimp only
  rw [if_neg (by simp [Smooth.firstFailure _ he.openDevice]), if_neg (by simp [he.sessionOpen])]
  refine ⟨rfl, ⟨rfl, rfl, rfl, rfl, rfl⟩, rfl, ?_⟩
  simp only [Stream.log_calls]
  rw [session_append_one]
  rfl

theorem startSession_smooth (he : Smooth e) (reset : Stream → Stream) (done : Stream → ℤ × Stream) :
    startSession e s reset done =
      done (s.log [.sessionPrepare e.sessionPrepare, .sessionStart e.sessionStart]) := by
  unfold startSession
  dsimp only
  rw [if_neg (by simp [he.sessionPrepare]), if_neg he.errno, if_neg (by simp [he.sessionStart]),
    Stream.log_log]
  rfl

/-- A start of a stream that is open and not started. -/
theorem start_smooth (he : Smooth e) (hs : Startable s)
    (hcur : s.currentState = STREAM_INIT ∨ s.currentState = STREAM_STOPPED) :
    (start e s).1 = 0 ∧ Steady s (start e s).2 ∧ (start e s).2.currentState = STREAM_STARTED ∧
      session (start e s).2.calls = { session s.calls with started := true, paused := false } := by
  have hdone : ∀ t new, t = s.log new → (∀ c ∈ new, c.silent) →
      let r := startSession e t cacheStarted (started 0)
      r.1 = 0 ∧ Steady s r.2 ∧ r.2.currentState = STREAM_STARTED ∧
        session r.2.calls = { session s.calls with started := true, paused := false } := by
    rintro _ new rfl hsilent
    dsimp only
    rw [startSession_smooth he]
    refine ⟨rfl, ⟨rfl, rfl, rfl, rfl, rfl⟩, rfl, ?_⟩
    simp only [started, Stream.log_calls]
    rw [session_append_map (fun _ => rfl), session_append, session_append_of_silent hsilent]
    simp [Session.after, he.sessionStart]
  have hstarts : ∀ ds : List pal_device_id_t,
      ∀ c ∈ ds.map fun d => Call.startDevice d (e.startDevice d), c.silent := by
    intro ds c hc
    obtain ⟨d, -, rfl⟩ := List.mem_map.mp hc
    rfl
  have hloop : ∀ ds : List pal_device_id_t, ¬Streams.firstFailure e.startDevice ds ≠ 0 :=
    fun ds => by simp [Smooth.firstFailure _ he.startDevice]
  have hstart : ∀ r : ℤ × Stream, r = startOutputStream e s ∧ s.direction = .PAL_AUDIO_OUTPUT ∨
      r = startInputStream e s ∨ r = startLoopbackStream e s →
      r.1 = 0 ∧ Steady s r.2 ∧ r.2.currentState = STREAM_STARTED ∧
        session r.2.calls = { session s.calls with started := true, paused := false } := by
    rintro _ (⟨rfl, hdir⟩ | rfl | rfl)
    · have hrouted : routed e s = s := by
        unfold routed
        rw [he.handleBTDeviceNotReady]
        simp [Stream.log]
      have hall : startOutputs e s s.skips =
          s.log (s.mDevices.flatMap (startOutput e s.skips)) := by
        unfold startOutputs
        simp [he.startDevice, Stream.log]
      have hdevices := hs.mDevices hdir
      unfold startOutputStream
      dsimp only
      rw [hrouted, he.handleBTDeviceNotReady]
      unfold startOutputDevices
      dsimp only
      rw [if_neg (by simp), if_neg hdevices, hall, Stream.log_mDevices, if_neg hdevices]
      refine hdone _ _ rfl ?_
      intro c hc
      obtain ⟨d, -, hc⟩ := List.mem_flatMap.mp hc
      unfold startOutput at hc
      split_ifs at hc
      · cases hc
      · rw [List.mem_singleton.mp hc]
        rfl
      · simp [he.startDevice] at *
    · unfold startInputStream
      dsimp only
      rw [if_neg (hloop _)]
      exact hdone _ _ rfl (hstarts _)
    · unfold startLoopbackStream
      dsimp only
      rw [if_neg (hloop _), if_neg (hloop _), Stream.log_log]
      refine hdone _ _ rfl ?_
      intro c hc
      exact (List.mem_append.mp hc).elim (hstarts _ c) (hstarts _ c)
  refine hstart _ ?_
  unfold start
  rw [if_neg (by simp [he.cardOnline])]
  cases hdir : s.direction with
  | PAL_AUDIO_OUTPUT => exact Or.inl ⟨by rcases hcur with h | h <;> rw [h], rfl⟩
  | PAL_AUDIO_INPUT => exact Or.inr (Or.inl (by rcases hcur with h | h <;> rw [h]))
  | PAL_AUDIO_INPUT_OUTPUT => exact Or.inr (Or.inr (by rcases hcur with h | h <;> rw [h]))
  | unsupported => exact absurd hdir hs.direction

end

/-! ### Commands without a reset -/

section

variable {e : Env} {s : Stream}

/-- The states in which a stream is open. -/
def Live (s : Stream) : Prop :=
  s.currentState = STREAM_INIT ∨ s.currentState = STREAM_STARTED ∨
    s.currentState = STREAM_PAUSED ∨ s.currentState = STREAM_STOPPED

/-- **What a command does.** Without a reset, and where all succeeds, the code does to a stream what
the command means. -/
theorem playback_command (he : Smooth e) (hs : Startable s) (hlive : Live s) {c : Command}
    (hc : c ≠ .pause) : Startable (command e s c).2 ∧ Live (command e s c).2 ∧
      playback (command e s c).2 = (playback s).after c := by
  cases c with
  | pause => exact absurd rfl hc
  | start =>
    have hstarted : s.currentState = STREAM_INIT ∨ s.currentState = STREAM_STOPPED →
        Startable (start e s).2 ∧ Live (start e s).2 ∧
          playback (start e s).2 = (playback s).after .start := by
      intro hcur
      obtain ⟨-, hsteady, hstate, -⟩ := start_smooth he hs hcur
      refine ⟨hsteady.startable hs, Or.inr (Or.inl hstate), ?_⟩
      have hhalted : playback s = .halted := by
        rcases hcur with h | h <;> simp [playback, h]
      rw [hhalted, playback, hstate]
      rfl
    rcases hlive with h | h | h | h
    · exact hstarted (Or.inl h)
    · have hstart : start e s = (0, s) := by simp [start, he.cardOnline, h]
      change Startable (start e s).2 ∧ Live (start e s).2 ∧ _
      rw [command, hstart]
      exact ⟨hs, Or.inr (Or.inl h), by simp [playback, h, Playback.after]⟩
    · have hstart : start e s = (-EINVAL, s) := by simp [start, he.cardOnline, h]
      change Startable (start e s).2 ∧ Live (start e s).2 ∧ _
      rw [command, hstart]
      refine ⟨hs, Or.inr (Or.inr (Or.inl h)), ?_⟩
      cases hflag : s.isPaused <;> simp [playback, h, hflag, Playback.after]
    · exact hstarted (Or.inr h)
  | stop =>
    have hstate := stop_currentState e s
    change Startable (stop e s).2 ∧ Live (stop e s).2 ∧ playback (stop e s).2 = _
    refine ⟨(stop_steady e s).startable hs, ?_, ?_⟩
    · unfold Live
      rw [hstate]
      rcases hlive with h | h | h | h <;> simp [Stream.playing, h]
    · unfold playback
      rw [hstate]
      rcases hlive with h | h | h | h <;> simp only [Stream.playing, h]
      · rfl
      · rfl
      · cases s.isPaused <;> rfl
      · rfl
  | resume =>
    have hresume : command e s .resume = resumeSession e s := by
      simp [command, resume, he.cardOnline]
    have hspec := resumeSession_spec e s
    rw [hresume]
    refine ⟨⟨?_, ?_⟩, ?_, ?_⟩
    · rw [hspec.direction]
      exact hs.direction
    · rw [hspec.direction, hspec.mDevices]
      exact hs.mDevices
    · unfold Live
      rw [hspec.currentState]
      exact hlive
    · have hflag : (resumeSession e s).2.isPaused = false := by
        rw [hspec.isPaused]
        simp [he.sessionResume]
      have hstate : (resumeSession e s).2.currentState = s.currentState := hspec.currentState
      unfold playback
      rw [hstate, hflag]
      rcases hlive with h | h | h | h <;> rw [h]
      · rfl
      · rfl
      · cases s.isPaused <;> rfl
      · rfl

/-- The replay of commands other than a pause. -/
theorem playback_replay (he : Smooth e) {cs : List Command} (hpause : .pause ∉ cs) :
    ∀ {s : Stream}, Startable s → Live s →
      playback (replay e s cs) = cs.foldl Playback.after (playback s) := by
  induction cs with
  | nil => exact fun _ _ => rfl
  | cons c cs ih =>
    intro s hs hlive
    obtain ⟨hc, hpause⟩ : Command.pause ≠ c ∧ .pause ∉ cs := by simpa [not_or] using hpause
    obtain ⟨hstartable, hlive, hplayback⟩ := playback_command he hs hlive (Ne.symm hc)
    rw [List.foldl_cons, ← hplayback]
    exact ih hpause hstartable hlive

/-- Only a pause pauses. -/
theorem foldl_ne_paused {cs : List Command} (hpause : .pause ∉ cs) :
    ∀ {p : Playback}, p ≠ .paused → cs.foldl Playback.after p ≠ .paused := by
  induction cs with
  | nil => exact fun h => h
  | cons c cs ih =>
    intro p hp
    obtain ⟨hc, hpause⟩ : Command.pause ≠ c ∧ .pause ∉ cs := by simpa [not_or] using hpause
    refine ih hpause ?_
    cases p <;> cases c <;> simp_all [Playback.after]

end

/-! ### The whole reset -/

section

/-- The commands given during a reset take effect: the stream ends as the ones that were accepted
leave it without a reset. -/
def TakesEffect (down replayed opening starting pausing : Env) (s : Stream)
    (cs : List (Command × Env)) : Prop :=
  let r := obey (ssrDownHandler down s).2 cs
  let t := (ssrUpHandler r.2 opening starting pausing).2
  Stands t (playback (replay replayed s r.1)) ∧ t.cachedState = STREAM_IDLE

/-- The state to come back to when the sound card goes down. -/
def cachedDown (s : Stream) : stream_state_t :=
  if s.cachedState = STREAM_IDLE then s.currentState else s.cachedState

/-- The commands that the code takes up: none is a pause, and what they mean is what `cachedState`
says. -/
def TakenUp (s : Stream) (cs : List Command) : Prop :=
  s.skipSSRHandling = false ∧ Command.pause ∉ cs ∧
    (cachedAfter (cachedDown s) cs = STREAM_STARTED ∧
        cs.foldl Playback.after (playback s) = .playing ∨
      cachedAfter (cachedDown s) cs = STREAM_INIT ∧
        cs.foldl Playback.after (playback s) = .halted)

variable {opening starting pausing : Env} {s : Stream}

/-- A stream that skips the end of the reset stays as it is. -/
theorem ssrUpHandler_skip (h : s.skipSSRHandling = true) :
    ssrUpHandler s opening starting pausing = (0, { s with skipSSRHandling := false }) := by
  unfold ssrUpHandler
  rw [if_pos h]

theorem ssrUpHandler_lost (ho : Smooth opening) (hs : Lost s) (p : Playback) :
    ¬Stands (ssrUpHandler s opening starting pausing).2 p := by
  intro hstands
  have hopened := hstands.opened
  have hcalls : (ssrUpHandler s opening starting pausing).2.calls = s.calls := by
    have hopen := open_lost ho hs.currentState
    by_cases hskip : s.skipSSRHandling = true
    · rw [ssrUpHandler_skip hskip]
    · unfold ssrUpHandler
      rw [if_neg hskip]
      rcases hs.cachedState with h | h <;> rw [h] <;> simp [hopen, EINVAL]
  rw [hcalls, hs.closed] at hopened
  cases hopened

/-- A closed stream that nothing is done to stays closed. -/
theorem not_stands_of_closed {t : Stream} (hcalls : t.calls = s.calls)
    (hclosed : session s.calls = {}) (p : Playback) : ¬Stands t p := by
  intro hstands
  have hopened := hstands.opened
  rw [hcalls, hclosed] at hopened
  cases hopened

/-- A pause of a stream that was just started: the flag says whether the session hears of it. -/
theorem pause_smooth (he : Smooth pausing)
    (hsession : session s.calls = { opened := true, started := true }) :
    (pause pausing s).2.currentState = STREAM_PAUSED ∧
      session (pause pausing s).2.calls =
        { opened := true, started := true, paused := !s.isPaused } := by
  unfold pause
  rw [if_neg (by simp [he.cardOnline])]
  cases s.isPaused with
  | true => exact ⟨rfl, hsession⟩
  | false =>
    rw [if_neg (by simp)]
    dsimp only
    rw [if_neg (by simp [he.sessionPause])]
    refine ⟨rfl, ?_⟩
    simp only [Stream.log_calls]
    rw [session_append_one, hsession]
    simp [Session.after, he.sessionPause]

/-- The stream after the end of a reset that is not skipped, where all succeeds. -/
theorem ssrUpHandler_smooth (pausing : Env) (ho : Smooth opening) (hst : Smooth starting)
    (hs : Startable s) (hcur : s.currentState = STREAM_IDLE) (hskip : s.skipSSRHandling = false)
    (hcached : s.cachedState = STREAM_STARTED ∨ s.cachedState = STREAM_PAUSED) :
    ∃ t, t.currentState = STREAM_STARTED ∧ t.isPaused = s.isPaused ∧
      session t.calls = { opened := true, started := true } ∧
      (ssrUpHandler s opening starting pausing).2 =
        { (if s.cachedState = STREAM_STARTED then t else (pause pausing t).2) with
          cachedState := STREAM_IDLE } := by
  obtain ⟨hopen, hsteady, hinit, hopened⟩ := open_smooth ho hcur
  obtain ⟨hstart, hsteady', hstarted, hsession⟩ := start_smooth hst (hsteady.startable hs)
    (Or.inl hinit)
  refine ⟨(start starting (StreamPCM.open opening s).2).2, hstarted,
    hsteady'.isPaused.trans hsteady.isPaused, ?_, ?_⟩
  · rw [hsession, hopened]
  · unfold ssrUpHandler
    rw [if_neg (by simp [hskip])]
    rcases hcached with h | h
    · rw [h, if_pos rfl]
      dsimp only
      rw [if_neg (by simp [hopen])]
    · have hne : STREAM_PAUSED ≠ STREAM_STARTED := by decide
      rw [h, if_neg hne]
      dsimp only
      rw [if_neg (by simp [hopen]), if_neg (by simp [hstart, hstarted])]

/-- What a closed stream becomes when the sound card is up again. -/
theorem ssrUpHandler_stands_iff (ho : Smooth opening) (hst : Smooth starting)
    (hpa : Smooth pausing) (hs : Startable s) (hcur : s.currentState = STREAM_IDLE)
    (hclosed : session s.calls = {}) {p : Playback} (hp : s.isPaused = false → p ≠ .paused) :
    Stands (ssrUpHandler s opening starting pausing).2 p ∧
        (ssrUpHandler s opening starting pausing).2.cachedState = STREAM_IDLE ↔
      s.skipSSRHandling = false ∧ (s.cachedState = STREAM_STARTED ∧ p = .playing ∨
        s.cachedState = STREAM_INIT ∧ p = .halted) := by
  by_cases hskip : s.skipSSRHandling = true
  · rw [ssrUpHandler_skip hskip]
    refine iff_of_false ?_ (by simp [hskip])
    exact fun h => not_stands_of_closed (s := s) rfl hclosed p h.1
  have hnot : s.skipSSRHandling = false := by simpa using hskip
  -- a state that nothing comes back to
  have hother : (ssrUpHandler s opening starting pausing).2.calls = s.calls →
      s.cachedState ≠ STREAM_STARTED → s.cachedState ≠ STREAM_INIT →
      (Stands (ssrUpHandler s opening starting pausing).2 p ∧
        (ssrUpHandler s opening starting pausing).2.cachedState = STREAM_IDLE ↔
      s.skipSSRHandling = false ∧ (s.cachedState = STREAM_STARTED ∧ p = .playing ∨
        s.cachedState = STREAM_INIT ∧ p = .halted)) := by
    intro hcalls hstarted hinit
    refine iff_of_false ?_ (by simp [hstarted, hinit])
    exact fun h => not_stands_of_closed hcalls hclosed p h.1
  cases hcached : s.cachedState with
  | STREAM_STARTED =>
    obtain ⟨t, hstate, -, hsession, hup⟩ := ssrUpHandler_smooth pausing ho hst hs hcur hnot
      (Or.inl hcached)
    rw [hup, if_pos hcached]
    cases p with
    | halted => simp [Stands, hstate, hnot]
    | playing => simp [Stands, hstate, hnot, hsession]
    | paused => simp [Stands, hstate, hnot]
  | STREAM_PAUSED =>
    obtain ⟨t, hstate, hflag, hsession, hup⟩ := ssrUpHandler_smooth pausing ho hst hs hcur hnot
      (Or.inr hcached)
    obtain ⟨hpaused, hsession⟩ := pause_smooth hpa hsession
    rw [hup, if_neg (by rw [hcached]; decide)]
    refine iff_of_false ?_ (by simp)
    rintro ⟨hstands, -⟩
    cases p with
    | halted => rcases hstands.1 with h | h <;> cases hpaused.symm.trans h
    | playing => cases hpaused.symm.trans hstands.1
    | paused =>
      have hsession' := hsession.symm.trans hstands.2
      rw [hflag] at hsession'
      have : s.isPaused = false := by simpa using congrArg Session.paused hsession'
      exact hp this rfl
  | STREAM_INIT =>
    obtain ⟨-, -, hinit, hopened⟩ := open_smooth ho hcur
    have hup : (ssrUpHandler s opening starting pausing).2 =
        { (StreamPCM.open opening s).2 with cachedState := STREAM_IDLE } := by
      unfold ssrUpHandler
      rw [if_neg hskip, hcached]
    rw [hup]
    cases p with
    | halted => simp [Stands, hinit, hopened, hnot]
    | playing => simp [Stands, hinit]
    | paused => simp [Stands, hinit]
  | _ =>
    refine hcached ▸ hother ?_ (by simp [hcached]) (by simp [hcached])
    unfold ssrUpHandler
    rw [if_neg hskip, hcached]

theorem playback_eq_paused (h : playback s = .paused) : s.isPaused = true := by
  unfold playback at h
  split at h
  · cases h
  · split_ifs at h with hflag
    exact hflag
  · cases h

/-- **Commands during a reset.** They take effect when no pause is among them and what they mean is
what `cachedState` says: a stop is not written there, and a pause makes a closed stream
`STREAM_PAUSED`, so that it is not opened again. -/
theorem takesEffect_iff {down replayed : Env} {cs : List (Command × Env)} (hlive : Live s)
    (hs : Startable s) (hdown : down.isSsrDownFeasible = true)
    (hcard : ∀ c ∈ cs, c.2.cardOnline = false) (hre : Smooth replayed) (ho : Smooth opening)
    (hst : Smooth starting) (hpa : Smooth pausing) :
    TakesEffect down replayed opening starting pausing s cs ↔ TakenUp s (cs.map Prod.fst) := by
  have hd := ssrDownHandler_spec down s hlive hdown
  obtain ⟨t, ht⟩ : ∃ t, t = (ssrDownHandler down s).2 := ⟨_, rfl⟩
  rw [← ht] at hd
  unfold TakesEffect
  rw [← ht]
  dsimp only
  by_cases hpause : Command.pause ∈ cs.map Prod.fst
  · refine iff_of_false (fun h => ?_) fun h => h.2.1 hpause
    have hlost : Lost (obey t cs).2 := by
      refine obey_lost hcard (Or.inr ⟨hd.currentState, ?_, hpause⟩)
      rw [hd.session]
    exact ssrUpHandler_lost ho hlost _ h.1
  · obtain ⟨haccepted, hobeyed⟩ := obey_spec hcard hpause hd.currentState
    rw [haccepted, hobeyed, playback_replay hre hpause hs hlive]
    have hstartable : Startable { t with
        cachedState := cachedAfter t.cachedState (cs.map Prod.fst) } := by
      refine ⟨?_, ?_⟩
      · rw [show _ = _ from hd.direction]
        exact hs.direction
      · rw [show _ = _ from hd.direction, show _ = _ from hd.mDevices]
        exact hs.mDevices
    refine (ssrUpHandler_stands_iff ho hst hpa hstartable hd.currentState hd.session ?_).trans ?_
    · intro hflag
      rw [show _ = _ from hd.isPaused] at hflag
      refine foldl_ne_paused hpause fun h => ?_
      rw [playback_eq_paused h] at hflag
      cases hflag
    · dsimp only
      rw [hd.skipSSRHandling, hd.cachedState]
      exact ⟨fun h => ⟨h.1, hpause, h.2⟩, fun h => ⟨h.1, h.2.2⟩⟩

theorem smooth_default : Smooth {} where
  cardOnline := rfl
  isDeviceAvailable _ := rfl
  isDeviceReady _ := rfl
  handleBTDeviceNotReady _ := rfl
  openDevice _ := rfl
  startDevice _ := rfl
  sessionOpen := rfl
  sessionPrepare := rfl
  sessionStart := rfl
  errno := by decide
  sessionPause := rfl
  sessionResume := rfl

/-- A recording that is stopped and started again during the reset. -/
theorem restart_takesEffect : TakesEffect {} {} {} {} {}
    { direction := .PAL_AUDIO_INPUT, mDevices := [32], currentState := STREAM_STARTED,
      calls := [.openDevice 32 0, .sessionOpen 0, .startDevice 32 0, .sessionStart 0] }
    [(.stop, { cardOnline := false }), (.start, { cardOnline := false })] := by
  refine (takesEffect_iff (Or.inr (Or.inl rfl)) ⟨by decide, by decide⟩ rfl (by simp) smooth_default
    smooth_default smooth_default smooth_default).mpr ?_
  exact ⟨rfl, by decide, Or.inl ⟨rfl, rfl⟩⟩

/-- A recording that is stopped during the reset runs again after it. -/
theorem stopped_recording_runs : ¬∀ (down replayed opening starting pausing : Env) (s : Stream)
    (cs : List (Command × Env)), Live s → Startable s → down.isSsrDownFeasible = true →
      (∀ c ∈ cs, c.2.cardOnline = false) → Smooth replayed → Smooth opening → Smooth starting →
      Smooth pausing → TakesEffect down replayed opening starting pausing s cs := by
  intro h
  obtain ⟨⟨hstate, -⟩, -⟩ := h {} {} {} {} {}
    { direction := .PAL_AUDIO_INPUT, mDevices := [32], currentState := STREAM_STARTED,
      calls := [.openDevice 32 0, .sessionOpen 0, .startDevice 32 0, .sessionStart 0] }
    [(.stop, { cardOnline := false })] (Or.inr (Or.inl rfl)) ⟨by decide, by decide⟩ rfl (by simp)
    smooth_default smooth_default smooth_default smooth_default
  rcases hstate with h | h <;> exact absurd h (by decide)

end

end StreamPCM

end AudioReachPal.Streams
