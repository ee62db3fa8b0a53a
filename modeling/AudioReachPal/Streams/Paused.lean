import AudioReachPal.Streams.Compress
import AudioReachPal.Streams.Held
import AudioReachPal.Streams.Session

/-!
# The paused flag

`isPaused` is set by a pause and unset by a resume, and nothing else looks after it. It tells the
truth about the session, and every later request relies on it rightly, in the runs that stop and
close no paused stream, and that pause only a stream that is started. The two classes differ in what
a pause looks at.
-/

namespace AudioReachPal.Streams

open AudioReachPal.Lib
open AudioReachPal.StStream (stream_state_t)
open AudioReachPal.StStream.stream_state_t

/-! ### Requests to the two classes -/

/-- The classes of streams that a client opens for playback and recording. -/
inductive StreamClass where
  | StreamPCM
  | StreamCompress
  deriving DecidableEq, Repr

inductive Request where
  | open
  | start
  | write (size : ℤ)
  | pause
  | resume
  | setVolume (volume : Option pal_volume_data)
  | stop
  | close
  deriving DecidableEq, Repr

namespace Request

def call (k : StreamClass) (e : Env) (s : Stream) : Request → ℤ × Stream
  | .open => openStream e s
  | .start =>
    match k with
    | .StreamPCM => StreamPCM.start e s
    | .StreamCompress => StreamCompress.start e s
  | .write size =>
    match k with
    | .StreamPCM => StreamPCM.write e s size
    | .StreamCompress => StreamCompress.write e s size
  | .pause =>
    match k with
    | .StreamPCM => StreamPCM.pause e s
    | .StreamCompress => StreamCompress.pause e s
  | .resume =>
    match k with
    | .StreamPCM => StreamPCM.resume e s
    | .StreamCompress => StreamCompress.resume e s
  | .setVolume volume => Streams.setVolume e s volume
  | .stop =>
    match k with
    | .StreamPCM => StreamPCM.stop e s
    | .StreamCompress => StreamCompress.stop e s
  | .close =>
    match k with
    | .StreamPCM => StreamPCM.close e s
    | .StreamCompress => StreamCompress.close e s

end Request

/-- The stream is started. A PCM stream of no known direction is `STREAM_STARTED` after a start that
failed. -/
def StreamClass.started (k : StreamClass) (s : Stream) : Bool :=
  match k with
  | .StreamPCM => s.playing && s.direction != .unsupported
  | .StreamCompress => s.playing || s.currentState == STREAM_OPENED

/-! ### What the flag tells -/

/-- The flag is true of the session, and so is the state. -/
structure Truthful (k : StreamClass) (s : Stream) : Prop where
  isPaused : s.isPaused = (session s.calls).paused
  flag : s.isPaused = true → s.currentState = STREAM_PAUSED
  state : s.currentState = STREAM_PAUSED → k.started s = true
  running : k.started s = true → (session s.calls).started = true

/-- A pause of a stream that is started pauses its session. -/
def PauseWorks (k : StreamClass) (s : Stream) : Prop :=
  k.started s = true → ∀ e : Env, e.cardOnline = true → e.sessionPause = 0 →
    (session (Request.pause.call k e s).2.calls).paused = true

/-- A volume goes to the session of a stream that is started and not paused. -/
def VolumeWorks (k : StreamClass) (s : Stream) : Prop :=
  k.started s = true → (session s.calls).paused = false → ∀ (e : Env) (vols : pal_volume_data),
    e.cardOnline = true → e.allocVolume = true → s.a2dpMuted = false → vols ≠ [] →
      ∃ new, (setVolume e s (some vols)).2.calls = s.calls ++ new ∧
        (.sessionSetVolume ∈ new ∨ .sessionSetParameters ∈ new)

/-- The requests after which the flag still tells the truth. -/
def Request.FlagOk (k : StreamClass) (e : Env) (s : Stream) : Request → Prop
  | .stop | .close => s.isPaused = false
  | .pause => s.isPaused = true ∨
    match k with
    | .StreamPCM => e.sessionPause = 0 → k.started s = true
    | .StreamCompress => e.sessionPause = 0 ∧ k.started s = true
  | _ => True

/-- What the Bluetooth route does is not heard by the session. -/
def Env.routesDevices (e : Env) : Prop := ∀ s, ∀ c ∈ (e.handleBTDeviceNotReady s).calls, c.silent

/-! ### Calls that pause nothing -/

def Call.isPause : Call → Bool
  | .sessionPause _ => true
  | _ => false

theorem paused_append {calls new : List Call} (hnew : ∀ c ∈ new, c.isPause = false)
    (h : (session calls).paused = false) : (session (calls ++ new)).paused = false := by
  rw [session_append]
  generalize session calls = x at h
  induction new generalizing x with
  | nil => exact h
  | cons c new ih =>
    refine ih (fun b hb => hnew b (List.mem_cons_of_mem _ hb)) (x.after c) ?_
    have hc := hnew c List.mem_cons_self
    cases c with
    | sessionPause _ => cases hc
    | sessionOpen _ | sessionStart _ | sessionResume _ =>
      unfold Session.after
      dsimp only
      split_ifs
      · rfl
      · exact h
    | sessionClose | sessionStop => rfl
    | _ => exact h

/-- `t` is `s` after calls that pause nothing. -/
structure Unpausing (s t : Stream) : Prop where
  direction : t.direction = s.direction
  isPaused : t.isPaused = s.isPaused
  calls : ∃ new, t.calls = s.calls ++ new ∧ ∀ c ∈ new, c.isPause = false

namespace Unpausing

variable {s t u : Stream} {k : StreamClass}

theorem refl (s : Stream) : Unpausing s s := ⟨rfl, rfl, [], by simp, by simp⟩

theorem trans (h : Unpausing s t) (h' : Unpausing t u) : Unpausing s u := by
  obtain ⟨new, hnew, hpause⟩ := h.calls
  obtain ⟨new', hnew', hpause'⟩ := h'.calls
  refine ⟨h'.direction.trans h.direction, h'.isPaused.trans h.isPaused, new ++ new', ?_, ?_⟩
  · rw [hnew', hnew, List.append_assoc]
  · intro c hc
    exact (List.mem_append.mp hc).elim (hpause c) (hpause' c)

theorem log {new : List Call} (hnew : ∀ c ∈ new, c.isPause = false) : Unpausing s (s.log new) :=
  ⟨rfl, rfl, new, rfl, hnew⟩

theorem withState (h : Unpausing s t) (state : stream_state_t) :
    Unpausing s { t with currentState := state } := ⟨h.direction, h.isPaused, h.calls⟩

theorem of_volumeSet (h : VolumeSet s t) : Unpausing s t := by
  obtain ⟨new, hnew, hvol⟩ := h.calls
  refine ⟨h.direction, h.isPaused, new, hnew, ?_⟩
  intro c hc
  have hc := hvol c hc
  cases c <;> first | rfl | cases hc

/-- A stream that is not paused stays so, and truthful when a session runs that is started. -/
theorem truthful (h : Unpausing s t) (hs : Truthful k s) (hflag : s.isPaused = false)
    (hstate : t.currentState ≠ STREAM_PAUSED)
    (hrunning : k.started t = true → (session t.calls).started = true) : Truthful k t := by
  obtain ⟨new, hnew, hpause⟩ := h.calls
  have hpaused : (session t.calls).paused = false := by
    rw [hnew]
    refine paused_append hpause ?_
    rw [← hs.isPaused]
    exact hflag
  have hflag' : t.isPaused = false := h.isPaused.trans hflag
  refine ⟨?_, ?_, fun h => absurd h hstate, hrunning⟩
  · rw [hflag', hpaused]
  · rw [hflag']
    exact fun h => nomatch h

end Unpausing

/-! ### Starting -/

section Start

variable {e : Env} {s t u : Stream} {k : StreamClass}

/-- `t` is `s` after a start: it is where it was, or its session runs. -/
structure Launched (s t : Stream) : Prop where
  unpausing : Unpausing s t
  state : t.currentState = s.currentState ∨
    (t.currentState = STREAM_STARTED ∨ t.currentState = STREAM_OPENED) ∧
      (session t.calls).started = true

theorem Launched.of_same (h : Unpausing s t) (hstate : t.currentState = s.currentState) :
    Launched s t := ⟨h, Or.inl hstate⟩

theorem Launched.after (h : Unpausing s t) (hstate : t.currentState = s.currentState)
    (h' : Launched t u) : Launched s u := by
  refine ⟨h.trans h'.unpausing, ?_⟩
  rw [← hstate]
  exact h'.state

/-- The calls of a loop over devices. -/
theorem Unpausing.log_map (f : pal_device_id_t → Call) (hf : ∀ d, (f d).isPause = false)
    (ds : List pal_device_id_t) : Unpausing s (s.log (ds.map f)) := by
  refine Unpausing.log ?_
  intro c hc
  obtain ⟨d, -, rfl⟩ := List.mem_map.mp hc
  exact hf d

theorem sessionFail_launched (status : ℤ) : Launched s (sessionFail e s status).2 :=
  Launched.of_same (Unpausing.log_map _ (fun _ => rfl) _) rfl

/-- The start of the session, with what follows when the session runs. -/
theorem startSession_launched {reset : Stream → Stream} {done : Stream → ℤ × Stream}
    (hreset : ∀ t, Launched t (reset t) ∧ (reset t).currentState = t.currentState)
    (hdone : ∀ t, (session t.calls).started = true → Launched t (done t).2) :
    Launched s (startSession e s reset done).2 := by
  have hprepared : Unpausing s (s.log [.sessionPrepare e.sessionPrepare]) :=
    Unpausing.log (by simp [Call.isPause])
  have hstarted : Unpausing s ((s.log [.sessionPrepare e.sessionPrepare]).log
      [.sessionStart e.sessionStart]) := hprepared.trans (Unpausing.log (by simp [Call.isPause]))
  unfold startSession
  dsimp only
  split_ifs with hprepare herrno hstart
  · exact (sessionFail_launched _).after hprepared rfl
  · obtain ⟨hkept, hstate⟩ := hreset ((s.log [.sessionPrepare e.sessionPrepare]).log
      [.sessionStart e.sessionStart])
    exact (sessionFail_launched _).after (hstarted.trans hkept.unpausing) hstate
  · exact (sessionFail_launched _).after hstarted rfl
  · refine (hdone _ ?_).after hstarted rfl
    simp only [Stream.log_calls]
    rw [session_append_one]
    simp [Session.after, not_not.mp hstart]

theorem startOutputs_unpausing (skips : pal_device_id_t → Bool) :
    Unpausing s (startOutputs e s skips) := by
  refine ⟨rfl, rfl, _, rfl, ?_⟩
  intro c hc
  obtain ⟨d, -, hc⟩ := List.mem_flatMap.mp hc
  unfold startOutput at hc
  split_ifs at hc <;> simp at hc
  · rw [hc]
    rfl
  · rcases hc with rfl | rfl | rfl <;> rfl

/-- The calls of a Bluetooth route. -/
theorem Env.routesDevices.unpausing (he : e.routesDevices) :
    Unpausing s (s.log (e.handleBTDeviceNotReady s).calls) := by
  refine Unpausing.log ?_
  intro c hc
  have hsilent := he s c hc
  cases c <;> first | rfl | cases hsilent

theorem StreamPCM.started_launched (ht : (session t.calls).started = true) :
    Launched t (StreamPCM.started 0 t).2 := by
  have hlog := Unpausing.log_map (s := t) .registerDevice (fun _ => rfl) t.mDevices
  refine ⟨hlog.withState _, Or.inr ⟨Or.inl rfl, ?_⟩⟩
  simp only [StreamPCM.started, Stream.log_calls]
  rw [session_append_map (fun _ => rfl)]
  exact ht

theorem StreamPCM.startSession_launched {done : Stream → ℤ × Stream}
    (hdone : ∀ t, (session t.calls).started = true → Launched t (done t).2) :
    Launched s (startSession e s StreamPCM.cacheStarted done).2 := by
  refine Streams.startSession_launched (fun t => ⟨Launched.of_same ?_ rfl, rfl⟩) hdone
  exact ⟨rfl, rfl, [], by simp [StreamPCM.cacheStarted], by simp⟩

/-- A volume does not change what the session does. -/
theorem session_volumeSet (h : VolumeSet s t) : session t.calls = session s.calls := by
  obtain ⟨new, hnew, hvol⟩ := h.calls
  rw [hnew]
  refine session_append_of_silent ?_ _
  intro c hc
  have hc := hvol c hc
  cases c <;> first | rfl | cases hc

/-- The loop that starts devices. -/
theorem startLoop_unpausing (ds : List pal_device_id_t) : Unpausing s
    (s.log ((reached e.startDevice ds).map fun d => .startDevice d (e.startDevice d))) :=
  Unpausing.log_map _ (fun _ => rfl) _

theorem StreamPCM.startOutputStream_launched (he : e.routesDevices) :
    Launched s (StreamPCM.startOutputStream e s).2 := by
  have hrouted : Unpausing s (StreamPCM.routed e s) :=
    ⟨rfl, rfl, (he.unpausing (s := s)).calls⟩
  have hdevices : ∀ (t : Stream) (a2dpSuspend : Bool),
      Launched t (StreamPCM.startOutputDevices e t a2dpSuspend).2 := by
    intro t a2dpSuspend
    unfold StreamPCM.startOutputDevices
    dsimp only
    split_ifs
    · exact Launched.of_same (Unpausing.refl t) rfl
    · exact Launched.of_same (startOutputs_unpausing _) rfl
    · refine (StreamPCM.startSession_launched ?_).after (startOutputs_unpausing _) rfl
      intro u hu
      have hmuted := VolumeSet.muteForSuspend e (s := u) a2dpSuspend
      refine (StreamPCM.started_launched ?_).after (Unpausing.of_volumeSet hmuted)
        hmuted.currentState
      rw [session_volumeSet hmuted]
      exact hu
  unfold StreamPCM.startOutputStream
  dsimp only
  split_ifs
  · exact Launched.of_same hrouted rfl
  · exact (hdevices _ _).after hrouted rfl

theorem StreamPCM.start_launched (he : e.routesDevices) (hdir : s.direction ≠ .unsupported) :
    Launched s (StreamPCM.start e s).2 := by
  have hinput : Launched s (StreamPCM.startInputStream e s).2 := by
    unfold StreamPCM.startInputStream
    dsimp only
    split_ifs
    · exact Launched.of_same (startLoop_unpausing _) rfl
    · exact (StreamPCM.startSession_launched fun _ => StreamPCM.started_launched).after
        (startLoop_unpausing _) rfl
  have hloopback : Launched s (StreamPCM.startLoopbackStream e s).2 := by
    unfold StreamPCM.startLoopbackStream
    dsimp only
    split_ifs
    · exact Launched.of_same (startLoop_unpausing _) rfl
    · exact Launched.of_same (((startLoop_unpausing _).trans (startLoop_unpausing _)).trans
        (Unpausing.log_map _ (fun _ => rfl) _)) rfl
    · exact (StreamPCM.startSession_launched fun _ => StreamPCM.started_launched).after
        ((startLoop_unpausing _).trans (startLoop_unpausing _)) rfl
  have hsame : ∀ cached, Launched s { s with cachedState := cached } := fun cached =>
    Launched.of_same ⟨rfl, rfl, [], by simp, by simp⟩ rfl
  unfold StreamPCM.start
  split_ifs
  · exact hsame _
  · cases hcur : s.currentState with
    | STREAM_INIT | STREAM_STOPPED =>
      cases hcase : s.direction with
      | PAL_AUDIO_OUTPUT => exact StreamPCM.startOutputStream_launched he
      | PAL_AUDIO_INPUT => exact hinput
      | PAL_AUDIO_INPUT_OUTPUT => exact hloopback
      | unsupported => exact absurd hcase hdir
    | _ => exact hsame s.cachedState

theorem StreamCompress.started_launched (ht : (session t.calls).started = true) :
    Launched t (StreamCompress.started t) := by
  have hlog := Unpausing.log_map (s := t) .registerDevice (fun _ => rfl) t.mDevices
  refine ⟨hlog.withState _, Or.inr ⟨Or.inl rfl, ?_⟩⟩
  simp only [StreamCompress.started, Stream.log_calls]
  rw [session_append_map (fun _ => rfl)]
  exact ht

theorem StreamCompress.start_launched (he : e.routesDevices) :
    Launched s (StreamCompress.start e s).2 := by
  have hsession : ∀ (t : Stream) (done : Stream → ℤ × Stream),
      (∀ t, (session t.calls).started = true → Launched t (done t).2) →
        Launched t (startSession e t id done).2 := fun t done hdone =>
    startSession_launched (fun u => ⟨Launched.of_same (Unpausing.refl u) rfl, rfl⟩) hdone
  have hrouted : Unpausing s (StreamCompress.routed e s) :=
    ⟨rfl, rfl, (he.unpausing (s := s)).calls⟩
  have hdevices : ∀ (t : Stream) (a2dpSuspend : Bool),
      Launched t (StreamCompress.startOutputDevices e t a2dpSuspend).2 := by
    intro t a2dpSuspend
    unfold StreamCompress.startOutputDevices
    dsimp only
    split_ifs
    · exact Launched.of_same (Unpausing.refl t) rfl
    · exact Launched.of_same (startOutputs_unpausing _) rfl
    · refine (hsession _ _ ?_).after (startOutputs_unpausing _) rfl
      intro u hu
      have hmuted := VolumeSet.muteForSuspend e (s := u) a2dpSuspend
      refine ⟨(Unpausing.of_volumeSet hmuted).withState _, Or.inr ⟨Or.inr rfl, ?_⟩⟩
      change (session (muteForSuspend e u a2dpSuspend).calls).started = true
      rw [session_volumeSet hmuted]
      exact hu
  have houtput : Launched s (StreamCompress.startOutputStream e s).2 := by
    unfold StreamCompress.startOutputStream
    dsimp only
    split_ifs
    · exact Launched.of_same hrouted rfl
    · exact (hdevices _ _).after hrouted rfl
  have hinput : Launched s (StreamCompress.startInputStream e s).2 := by
    unfold StreamCompress.startInputStream
    dsimp only
    split_ifs
    · exact Launched.of_same (startLoop_unpausing _) rfl
    · exact (hsession _ _ fun _ => StreamCompress.started_launched).after
        (startLoop_unpausing _) rfl
  have hsame : Launched s s := Launched.of_same (Unpausing.refl s) rfl
  unfold StreamCompress.start
  split_ifs
  · exact hsame
  · cases hcur : s.currentState with
    | STREAM_INIT | STREAM_STOPPED =>
      cases hcase : s.direction with
      | PAL_AUDIO_OUTPUT => exact houtput
      | PAL_AUDIO_INPUT => exact hinput
      | PAL_AUDIO_INPUT_OUTPUT | unsupported => exact hsame
    | _ => exact hsame

end Start

/-! ### Each request -/

section

variable {e : Env} {s : Stream} {k : StreamClass}

theorem ne_paused_of_truthful (hs : Truthful k s) (h : s.currentState ≠ STREAM_PAUSED) :
    s.isPaused = false := by
  cases hflag : s.isPaused with
  | false => rfl
  | true => exact absurd (hs.flag hflag) h

/-- A request that puts a stream that is not paused in a state where it is not started. -/
theorem Unpausing.truthful_of_halted {t : Stream} (h : Unpausing s t) (hs : Truthful k s)
    (hflag : s.isPaused = false) (hstate : t.currentState = STREAM_IDLE ∨
      t.currentState = STREAM_INIT ∨ t.currentState = STREAM_STOPPED) : Truthful k t := by
  refine h.truthful hs hflag ?_ ?_
  · rcases hstate with h | h | h <;> simp [h]
  · intro hstarted
    unfold StreamClass.started Stream.playing at hstarted
    rcases hstate with h | h | h <;> cases k <;> simp [h] at hstarted

theorem open_truthful (hs : Truthful k s) : Truthful k (openStream e s).2 := by
  have hloop : Unpausing s (s.log
      ((reached e.openDevice s.mDevices).map fun d => .openDevice d (e.openDevice d))) :=
    Unpausing.log_map _ (fun _ => rfl) _
  unfold openStream
  by_cases hcard : (!e.cardOnline) = true
  · rw [if_pos hcard]
    exact hs
  rw [if_neg hcard]
  by_cases hbt : btNotConnected e s = true
  · rw [if_pos hbt]
    exact hs
  rw [if_neg hbt]
  cases hcur : s.currentState with
  | STREAM_IDLE =>
    have hflag := ne_paused_of_truthful hs (by simp [hcur])
    dsimp only
    split_ifs
    · exact hloop.truthful_of_halted hs hflag (Or.inl hcur)
    · refine (hloop.trans (Unpausing.log ?_)).truthful_of_halted hs hflag (Or.inl hcur)
      simp [Call.isPause]
    · refine ((hloop.trans (Unpausing.log ?_)).withState _).truthful_of_halted hs hflag
        (Or.inr (Or.inl rfl))
      simp [Call.isPause]
  | _ => exact hs

theorem StreamPCM.stop_unpausing (e : Env) (s : Stream) :
    Unpausing s (StreamPCM.stop e s).2 ∧ ((StreamPCM.stop e s).2 = s ∨
      (StreamPCM.stop e s).2.currentState = STREAM_STOPPED) := by
  have hsession : ∀ t, Unpausing t (StreamPCM.stopSession e t).2 ∧
      (StreamPCM.stopSession e t).2.currentState = t.currentState := by
    intro t
    unfold StreamPCM.stopSession
    cases t.direction with
    | PAL_AUDIO_OUTPUT | PAL_AUDIO_INPUT =>
      exact ⟨Unpausing.log (by simp [Call.isPause, or_imp, forall_and]), rfl⟩
    | PAL_AUDIO_INPUT_OUTPUT =>
      refine ⟨Unpausing.log fun c hc => ?_, rfl⟩
      rcases List.mem_append.mp hc with hc | hc
      · obtain ⟨d, -, rfl⟩ := List.mem_map.mp hc
        rfl
      · rcases List.mem_cons.mp hc with rfl | hc
        · rfl
        · obtain ⟨d, -, rfl⟩ := List.mem_map.mp hc
          rfl
    | unsupported => exact ⟨Unpausing.refl t, rfl⟩
  have hderegistered := (Unpausing.log_map (s := s) .deregisterDevice (fun _ => rfl)
    s.mDevices).withState STREAM_STOPPED
  unfold StreamPCM.stop
  cases s.currentState with
  | STREAM_STARTED | STREAM_PAUSED =>
    exact ⟨hderegistered.trans (hsession _).1, Or.inr (hsession _).2⟩
  | _ => exact ⟨Unpausing.refl s, Or.inl rfl⟩

theorem StreamCompress.stop_unpausing (e : Env) (s : Stream) :
    Unpausing s (StreamCompress.stop e s).2 ∧ ((StreamCompress.stop e s).2 = s ∨
      (StreamCompress.stop e s).2.currentState = STREAM_STOPPED) := by
  have hsession : ∀ t, Unpausing t (StreamCompress.stopSession e t).2 ∧
      (StreamCompress.stopSession e t).2.currentState = t.currentState := by
    intro t
    unfold StreamCompress.stopSession
    cases t.direction with
    | PAL_AUDIO_OUTPUT | PAL_AUDIO_INPUT =>
      exact ⟨Unpausing.log (by simp [Call.isPause, or_imp, forall_and]), rfl⟩
    | PAL_AUDIO_INPUT_OUTPUT | unsupported => exact ⟨Unpausing.refl t, rfl⟩
  have hderegistered := (Unpausing.log_map (s := s) .deregisterDevice (fun _ => rfl)
    s.mDevices).withState STREAM_STOPPED
  unfold StreamCompress.stop
  cases s.currentState with
  | STREAM_STARTED | STREAM_PAUSED | STREAM_OPENED =>
    exact ⟨hderegistered.trans (hsession _).1, Or.inr (hsession _).2⟩
  | _ => exact ⟨Unpausing.refl s, Or.inl rfl⟩

theorem stop_truthful (hs : Truthful k s) (hflag : s.isPaused = false) :
    Truthful k (Request.stop.call k e s).2 := by
  have hstop : Unpausing s (Request.stop.call k e s).2 ∧ ((Request.stop.call k e s).2 = s ∨
      (Request.stop.call k e s).2.currentState = STREAM_STOPPED) := by
    cases k with
    | StreamPCM => exact StreamPCM.stop_unpausing e s
    | StreamCompress => exact StreamCompress.stop_unpausing e s
  obtain ⟨hkept, hsame | hstopped⟩ := hstop
  · rw [hsame]
    exact hs
  · exact hkept.truthful_of_halted hs hflag (Or.inr (Or.inr hstopped))

theorem closeSession_unpausing (e : Env) (s : Stream) : Unpausing s (closeSession e s).2 := by
  refine ⟨rfl, rfl, _, rfl, ?_⟩
  simp [Call.isPause]

theorem close_truthful (hs : Truthful k s) (hflag : s.isPaused = false) :
    Truthful k (Request.close.call k e s).2 := by
  have hclose : ∀ t, Unpausing s t → Truthful k (closeSession e t).2 := fun t ht =>
    (ht.trans (closeSession_unpausing e t)).truthful_of_halted hs hflag (Or.inl rfl)
  cases k with
  | StreamPCM =>
    change Truthful _ (StreamPCM.close e s).2
    unfold StreamPCM.close
    split_ifs
    · exact hs
    · refine hclose _ ?_
      unfold StreamPCM.stopForClose
      cases s.currentState with
      | STREAM_STARTED | STREAM_PAUSED => exact (StreamPCM.stop_unpausing e s).1
      | STREAM_INIT | STREAM_STOPPED => exact Unpausing.log_map _ (fun _ => rfl) _
      | _ => exact Unpausing.refl s
  | StreamCompress =>
    change Truthful _ (StreamCompress.close e s).2
    unfold StreamCompress.close
    split_ifs
    · exact hs
    · refine hclose _ ?_
      unfold StreamCompress.stopForClose
      cases s.currentState with
      | STREAM_STARTED | STREAM_PAUSED => exact (StreamCompress.stop_unpausing e s).1
      | _ => exact Unpausing.refl s

theorem started_congr {t : Stream} (hdir : t.direction = s.direction)
    (hstate : t.currentState = s.currentState) : k.started t = k.started s := by
  unfold StreamClass.started Stream.playing
  rw [hdir, hstate]

/-- A request that the session does not hear of, and that leaves the state alone. -/
theorem Truthful.of_session {t : Stream} (hs : Truthful k s) (hdir : t.direction = s.direction)
    (hflag : t.isPaused = s.isPaused) (hstate : t.currentState = s.currentState)
    (hsession : session t.calls = session s.calls) : Truthful k t := by
  refine ⟨?_, ?_, ?_, ?_⟩
  · rw [hflag, hsession]
    exact hs.isPaused
  · rw [hflag, hstate]
    exact hs.flag
  · rw [started_congr hdir hstate, hstate]
    exact hs.state
  · rw [started_congr hdir hstate, hsession]
    exact hs.running

theorem Truthful.volumeSet {t : Stream} (hs : Truthful k s) (h : VolumeSet s t) : Truthful k t :=
  hs.of_session h.direction h.isPaused h.currentState (session_volumeSet h)

theorem Launched.truthful {t : Stream} (h : Launched s t) (hs : Truthful k s)
    (hcur : s.currentState = STREAM_INIT ∨ s.currentState = STREAM_STOPPED) : Truthful k t := by
  have hflag := ne_paused_of_truthful hs (by rcases hcur with h | h <;> simp [h])
  rcases h.state with hstate | ⟨hstate, hrunning⟩
  · refine h.unpausing.truthful_of_halted hs hflag ?_
    rw [hstate]
    exact Or.inr hcur
  · refine h.unpausing.truthful hs hflag ?_ fun _ => hrunning
    rcases hstate with h | h <;> simp [h]

theorem start_truthful (hs : Truthful k s) (he : e.routesDevices) (hcard : e.cardOnline = true) :
    Truthful k (Request.start.call k e s).2 := by
  by_cases hcur : s.currentState = STREAM_INIT ∨ s.currentState = STREAM_STOPPED
  · cases k with
    | StreamCompress => exact (StreamCompress.start_launched he).truthful hs hcur
    | StreamPCM =>
      by_cases hdir : s.direction = .unsupported
      · -- the start fails, and the stream is `STREAM_STARTED`
        have hflag := ne_paused_of_truthful hs (by rcases hcur with h | h <;> simp [h])
        have hstart : StreamPCM.start e s = StreamPCM.started (-EINVAL) s := by
          unfold StreamPCM.start
          rw [if_neg (by simp [hcard]), hdir]
          rcases hcur with h | h <;> rw [h]
        have hlog := Unpausing.log_map (s := s) .registerDevice (fun _ => rfl) s.mDevices
        change Truthful _ (StreamPCM.start e s).2
        rw [hstart]
        refine (hlog.withState STREAM_STARTED).truthful hs hflag (by simp) fun h => ?_
        simp [StreamClass.started, hdir] at h
      · exact (StreamPCM.start_launched he hdir).truthful hs hcur
  · have hstart : (Request.start.call k e s).2 = s := by
      cases k with
      | StreamPCM =>
        change (StreamPCM.start e s).2 = s
        unfold StreamPCM.start
        rw [if_neg (by simp [hcard])]
        cases h : s.currentState with
        | STREAM_INIT => exact absurd (Or.inl h) hcur
        | STREAM_STOPPED => exact absurd (Or.inr h) hcur
        | _ => rfl
      | StreamCompress =>
        change (StreamCompress.start e s).2 = s
        unfold StreamCompress.start
        rw [if_neg (by simp [hcard])]
        cases h : s.currentState with
        | STREAM_INIT => exact absurd (Or.inl h) hcur
        | STREAM_STOPPED => exact absurd (Or.inr h) hcur
        | _ => rfl
    rw [hstart]
    exact hs

/-- A pause that pauses the session. -/
theorem paused_truthful (hs : Truthful k s) (hstarted : k.started s = true) :
    Truthful k { s.log [.sessionPause 0] with
      isPaused := true
      currentState := STREAM_PAUSED } := by
  have hsession : session (s.calls ++ [.sessionPause 0]) =
      { session s.calls with paused := true } := by
    rw [session_append_one]
    simp [Session.after, hs.running hstarted]
  refine ⟨?_, fun _ => rfl, fun _ => ?_, fun _ => ?_⟩
  · simp [hsession]
  · cases k <;> simp_all [StreamClass.started, Stream.playing]
  · simp only [Stream.log_calls]
    rw [hsession]
    exact hs.running hstarted

/-- A pause of a paused stream changes nothing. -/
theorem pause_of_isPaused (hs : Truthful k s) (hflag : s.isPaused = true) :
    { s with isPaused := true, currentState := STREAM_PAUSED } = s := by
  have hstate := hs.flag hflag
  cases s
  simp_all

theorem pause_truthful (hs : Truthful k s) (hcard : e.cardOnline = true)
    (hok : Request.pause.FlagOk k e s) : Truthful k (Request.pause.call k e s).2 := by
  cases k with
  | StreamPCM =>
    change Truthful _ (StreamPCM.pause e s).2
    unfold StreamPCM.pause
    rw [if_neg (by simp [hcard])]
    by_cases hflag : s.isPaused = true
    · rw [if_pos hflag]
      dsimp only
      rw [pause_of_isPaused hs hflag]
      exact hs
    rw [if_neg hflag]
    dsimp only
    by_cases hpause : e.sessionPause ≠ 0
    · rw [if_pos hpause]
      refine hs.of_session rfl rfl rfl ?_
      simp only [Stream.log_calls]
      rw [session_append_one]
      simp [Session.after, hpause]
    · rw [if_neg hpause, not_not.mp hpause]
      exact paused_truthful hs ((hok.resolve_left hflag) (not_not.mp hpause))
  | StreamCompress =>
    change Truthful _ (StreamCompress.pause e s).2
    unfold StreamCompress.pause
    rw [if_neg (by simp [hcard])]
    by_cases hflag : s.isPaused = true
    · rw [if_pos hflag]
      dsimp only
      rw [pause_of_isPaused hs hflag]
      exact hs
    · rw [if_neg hflag]
      obtain ⟨hpause, hstarted⟩ := hok.resolve_left hflag
      rw [hpause]
      exact paused_truthful hs hstarted

theorem resume_truthful (hs : Truthful k s) (hcard : e.cardOnline = true) :
    Truthful k (Request.resume.call k e s).2 := by
  have hresume : (Request.resume.call k e s).2 = (resumeSession e s).2 := by
    cases k with
    | StreamPCM =>
      change (StreamPCM.resume e s).2 = _
      unfold StreamPCM.resume
      rw [if_neg (by simp [hcard])]
    | StreamCompress =>
      change (StreamCompress.resume e s).2 = _
      unfold StreamCompress.resume
      rw [if_neg (by simp [hcard])]
  rw [hresume]
  refine Truthful.volumeSet ?_ (resumeSession_spec e s)
  by_cases hstatus : e.sessionResume = 0
  · refine ⟨?_, ?_, hs.state, fun h => ?_⟩
    · simp only [Stream.log_calls]
      rw [session_append_one]
      simp [Session.after, hstatus]
    · simp [hstatus]
    · simp only [Stream.log_calls]
      rw [session_append_one]
      simpa [Session.after, hstatus] using hs.running h
  · refine hs.of_session rfl (by simp [hstatus]) rfl ?_
    simp only [Stream.log_calls]
    rw [session_append_one]
    simp [Session.after, hstatus]

/-- A write registers the devices of a stream that is started, and not paused. -/
theorem written_truthful (hs : Truthful k s) (hstarted : k.started s = true)
    (hflag : s.isPaused = false) (status : ℤ) :
    Truthful k { (s.log [.sessionWrite status]).log (s.mDevices.map .registerDevice) with
      currentState := STREAM_STARTED } := by
  have hwritten : Unpausing s (s.log [.sessionWrite status]) :=
    Unpausing.log (by simp [Call.isPause])
  have hlog := hwritten.trans (Unpausing.log_map .registerDevice (fun _ => rfl) s.mDevices)
  refine (hlog.withState _).truthful hs hflag (by simp) fun _ => ?_
  simp only [Stream.log_calls]
  rw [session_append_map (fun _ => rfl), session_append_of_silent (by simp [Call.silent])]
  exact hs.running hstarted

theorem write_truthful (hs : Truthful k s) (size : ℤ) :
    Truthful k ((Request.write size).call k e s).2 := by
  have hlogged : Truthful k (s.log [.sessionWrite e.sessionWrite]) :=
    hs.of_session rfl rfl rfl (session_append_of_silent (by simp [Call.silent]) _)
  cases k with
  | StreamPCM =>
    have hwrite : Truthful .StreamPCM (StreamPCM.writeSession e s size).2 := by
      unfold StreamPCM.writeSession
      dsimp only
      split_ifs with hfail herrno hcur
      · exact hlogged
      · exact hlogged
      · exact written_truthful hs (hs.state hcur.1) hcur.2 _
      · exact hlogged
    change Truthful _ (StreamPCM.write e s size).2
    unfold StreamPCM.write
    split_ifs
    · exact hs
    · exact hs
    · cases s.currentState with
      | STREAM_STARTED | STREAM_PAUSED => exact hwrite
      | _ => exact hs
  | StreamCompress =>
    have hwrite : s.currentState = STREAM_OPENED ∨ s.currentState = STREAM_STARTED ∨
        s.currentState = STREAM_PAUSED →
        Truthful .StreamCompress (StreamCompress.writeSession e s size).2 := by
      intro hcur
      have hstarted : StreamClass.StreamCompress.started s = true := by
        rcases hcur with h | h | h <;> simp [StreamClass.started, Stream.playing, h]
      unfold StreamCompress.writeSession
      dsimp only
      split_ifs with hfail herrno hguard
      · exact hlogged
      · exact hlogged
      · refine written_truthful hs hstarted ?_ _
        cases hflag : s.isPaused with
        | false => rfl
        | true => exact absurd ⟨hs.flag hflag, hflag⟩ hguard.2
      · exact hlogged
    change Truthful _ (StreamCompress.write e s size).2
    unfold StreamCompress.write
    split_ifs
    · exact hs
    · cases hcur : s.currentState with
      | STREAM_OPENED => exact hwrite (Or.inl hcur)
      | STREAM_STARTED => exact hwrite (Or.inr (Or.inl hcur))
      | STREAM_PAUSED => exact hwrite (Or.inr (Or.inr hcur))
      | _ => exact hs

/-- **The step.** With the sound card online, a request that meets its condition keeps the flag
true. -/
theorem call_truthful (hs : Truthful k s) (hcard : e.cardOnline = true) (he : e.routesDevices)
    (r : Request) (hok : r.FlagOk k e s) : Truthful k (r.call k e s).2 := by
  cases r with
  | «open» => exact open_truthful hs
  | start => exact start_truthful hs he hcard
  | write size => exact write_truthful hs size
  | pause => exact pause_truthful hs hcard hok
  | resume => exact resume_truthful hs hcard
  | setVolume volume => exact hs.volumeSet (VolumeSet.setVolume e volume)
  | stop => exact stop_truthful hs hok
  | close => exact close_truthful hs hok

end

/-! ### What follows from the flag -/

section

variable {s : Stream} {k : StreamClass}

theorem Truthful.pauseWorks (hs : Truthful k s) : PauseWorks k s := by
  intro hstarted e hcard hpause
  have hpaused : (session (s.calls ++ [.sessionPause e.sessionPause])).paused = true := by
    rw [session_append_one]
    simp [Session.after, hpause, hs.running hstarted]
  by_cases hflag : s.isPaused = true
  · have hcalls : (Request.pause.call k e s).2.calls = s.calls := by
      cases k with
      | StreamPCM =>
        change (StreamPCM.pause e s).2.calls = s.calls
        simp [StreamPCM.pause, hcard, hflag]
      | StreamCompress =>
        change (StreamCompress.pause e s).2.calls = s.calls
        simp [StreamCompress.pause, hcard, hflag]
    rw [hcalls, ← hs.isPaused]
    exact hflag
  · have hcalls : (Request.pause.call k e s).2.calls =
        s.calls ++ [.sessionPause e.sessionPause] := by
      cases k with
      | StreamPCM =>
        change (StreamPCM.pause e s).2.calls = _
        simp [StreamPCM.pause, hcard, hflag, hpause]
      | StreamCompress =>
        change (StreamCompress.pause e s).2.calls = _
        simp [StreamCompress.pause, hcard, hflag]
    rw [hcalls]
    exact hpaused

theorem sendVolume_calls (e : Env) (t : Stream) (vols : pal_volume_data) :
    ∃ new, (sendVolume e t vols).calls = t.calls ++ new ∧
      (.sessionSetVolume ∈ new ∨ .sessionSetParameters ∈ new) := by
  unfold sendVolume
  split_ifs
  · exact ⟨[.sessionSetVolume, .sessionSetParameters], by simp, by simp⟩
  · exact ⟨[.sessionSetVolume, .sessionSetVolume], by simp, by simp⟩
  · exact ⟨[.sessionSetParameters], by simp, by simp⟩
  · exact ⟨[.sessionSetVolume], by simp, by simp⟩

/-- What goes to the session stays there, whatever its status. -/
theorem applyVolume_calls (e : Env) (t : Stream) (vols : pal_volume_data) :
    ∃ new, (applyVolume e t vols).2.calls = (sendVolume e t vols).calls ++ new := by
  unfold applyVolume
  generalize (if volumeByParam e vols then e.sessionSetParameters else e.sessionSetVolume) = status
  by_cases hstatus : status ≠ 0
  · exact ⟨[], by simp [hstatus]⟩
  · cases hunmute : t.unMutePending with
    | false => exact ⟨[], by simp [hstatus]⟩
    | true =>
      obtain ⟨new, hnew, -⟩ := (VolumeSet.muteL e
        (s := { sendVolume e t vols with unMutePending := false }) false).calls
      exact ⟨new, by simpa [hstatus] using hnew⟩

theorem Truthful.volumeWorks (hs : Truthful k s) : VolumeWorks k s := by
  intro hstarted hpaused e vols hcard halloc hmuted hvols
  have hflag : s.isPaused = false := hs.isPaused.trans hpaused
  have hready : s.currentState ≠ STREAM_IDLE ∧ s.currentState ≠ STREAM_INIT := by
    constructor <;> intro h <;> cases k <;>
      simp [StreamClass.started, Stream.playing, h] at hstarted
  obtain ⟨vol, vols, rfl⟩ := List.exists_cons_of_ne_nil hvols
  have hset : (setVolume e s (some (vol :: vols))).2 =
      (applyVolume e { s with mVolumeData := some (vol :: vols) } (vol :: vols)).2 := by
    unfold setVolume
    dsimp only
    rw [if_neg (by simp [halloc]), if_neg (by simp [hmuted]),
      if_pos ⟨hcard, hready.1, hready.2, hflag⟩]
  obtain ⟨new, hnew, hmem⟩ := sendVolume_calls e
    { s with mVolumeData := some (vol :: vols) } (vol :: vols)
  obtain ⟨more, hmore⟩ := applyVolume_calls e
    { s with mVolumeData := some (vol :: vols) } (vol :: vols)
  refine ⟨new ++ more, ?_, ?_⟩
  · rw [hset, hmore, hnew, List.append_assoc]
  · exact hmem.imp (List.mem_append_left _) (List.mem_append_left _)

/-- A pause of a stream that is not started does not pause it. -/
theorem Truthful.pause_ne_paused {e : Env} (hs : Truthful k s) (hcard : e.cardOnline = true)
    (hok : Request.pause.FlagOk k e s) (hstarted : k.started s = false) :
    (Request.pause.call k e s).2.currentState ≠ STREAM_PAUSED := by
  have hne : s.currentState ≠ STREAM_PAUSED := by
    intro h
    rw [hs.state h] at hstarted
    cases hstarted
  have hflag := ne_paused_of_truthful hs hne
  have hok := hok.resolve_left (by simp [hflag])
  cases k with
  | StreamPCM =>
    have hpause : e.sessionPause ≠ 0 := by
      intro h
      have hstarted' : StreamClass.StreamPCM.started s = true := hok h
      rw [hstarted'] at hstarted
      cases hstarted
    have hstate : (StreamPCM.pause e s).2.currentState = s.currentState := by
      simp [StreamPCM.pause, hcard, hflag, hpause]
    exact fun h => hne (hstate.symm.trans h)
  | StreamCompress =>
    have hstarted' : StreamClass.StreamCompress.started s = true := hok.2
    rw [hstarted'] at hstarted
    cases hstarted

end

/-! ### Runs of requests -/

section

variable {k : StreamClass}

def requestStep (k : StreamClass) (s : Stream) (i : Request × Env) : Option Stream :=
  some (i.1.call k i.2 s).2

theorem createStream_truthful {direction : pal_stream_direction_t}
    {devices : List pal_device_id_t} : Truthful k (createStream direction devices) := by
  refine ⟨rfl, by simp [createStream], by simp [createStream], fun h => ?_⟩
  cases k <;> simp [createStream, StreamClass.started, Stream.playing] at h

/-- **The paused flag tells the truth** in a run with the sound card online whose requests all meet
their conditions. Whatever state it reaches, a pause of a started stream pauses its session, a
volume goes to a session that is not paused, and a pause of a stream that is not started does not
pause it. -/
theorem isPaused_truthful {direction : pal_stream_direction_t} {devices : List pal_device_id_t}
    {is : List (Request × Env)}
    (hcard : ∀ i ∈ is, i.2.cardOnline = true ∧ i.2.routesDevices)
    (hok : Meets (requestStep k) (fun s i => i.1.FlagOk k i.2 s)
      (createStream direction devices) is) :
    (∀ js s, js <+: is → run (requestStep k) (createStream direction devices) js = some s →
      s.isPaused = (session s.calls).paused ∧ PauseWorks k s ∧ VolumeWorks k s) ∧
    ∀ js e s, js ++ [(.pause, e)] <+: is →
      run (requestStep k) (createStream direction devices) js = some s → k.started s = false →
        (Request.pause.call k e s).2.currentState ≠ STREAM_PAUSED := by
  have hmeets := hok.and_forall hcard
  have hstep : ∀ (s : Stream) (i : Request × Env) (t : Stream),
      (i.2.cardOnline = true ∧ i.2.routesDevices) ∧ i.1.FlagOk k i.2 s → Truthful k s →
        requestStep k s i = some t → Truthful k t := by
    rintro s i _ ⟨⟨hcard, hroute⟩, hok⟩ hs ⟨⟩
    exact call_truthful hs hcard hroute i.1 hok
  have hkept : ∀ js s, js <+: is →
      run (requestStep k) (createStream direction devices) js = some s → Truthful k s := by
    rintro js s ⟨ks, rfl⟩ hs
    exact run_invariant_of_meets hstep hmeets.of_append createStream_truthful hs
  refine ⟨fun js s hjs hs => ?_, ?_⟩
  · have hs := hkept js s hjs hs
    exact ⟨hs.isPaused, hs.pauseWorks, hs.volumeWorks⟩
  · rintro js e s ⟨ks, rfl⟩ hs hstarted
    have hs' := hkept js s ⟨(.pause, e) :: ks, by simp⟩ hs
    rw [List.append_assoc, List.singleton_append] at hmeets
    obtain ⟨⟨hcard, -⟩, hok⟩ := hmeets.after hs
    exact hs'.pause_ne_paused hcard hok hstarted

/-- A playback that is paused, resumed, stopped and started again. -/
theorem resumed_playback_pauses :
    let is : List (Request × Env) :=
      [(.open, {}), (.start, {}), (.pause, {}), (.resume, {}), (.stop, {}), (.start, {})]
    ∃ s, run (requestStep .StreamPCM) (createStream .PAL_AUDIO_OUTPUT [2]) is = some s ∧
      s.isPaused = (session s.calls).paused := by
  have hok : Meets (requestStep .StreamPCM) (fun s i => i.1.FlagOk .StreamPCM i.2 s)
      (createStream .PAL_AUDIO_OUTPUT [2])
      [(.open, {}), (.start, {}), (.pause, {}), (.resume, {}), (.stop, {}), (.start, {})] := by
    refine meets_cons_of_some trivial rfl <| meets_cons_of_some trivial rfl <|
      meets_cons_of_some (Or.inr fun _ => rfl) rfl <| meets_cons_of_some trivial rfl <|
      meets_cons_of_some rfl rfl <| meets_cons_of_some trivial rfl trivial
  have hcard : ∀ i ∈ ([(.open, {}), (.start, {}), (.pause, {}), (.resume, {}), (.stop, {}),
      (.start, {})] : List (Request × Env)), i.2.cardOnline = true ∧ i.2.routesDevices := by
    simp [Env.routesDevices]
  refine ⟨_, rfl, ?_⟩
  exact ((isPaused_truthful hcard hok).1 _ _ (List.prefix_refl _) rfl).1

/-- A playback that is stopped while it is paused keeps the flag. -/
theorem paused_while_stopped : ¬∀ (k : StreamClass) (direction : pal_stream_direction_t)
    (devices : List pal_device_id_t) (is : List (Request × Env)),
      (∀ i ∈ is, i.2.cardOnline = true ∧ i.2.routesDevices) →
      ∀ s, run (requestStep k) (createStream direction devices) is = some s →
        s.isPaused = (session s.calls).paused := by
  intro h
  have hflag := h .StreamPCM .PAL_AUDIO_OUTPUT [2]
    [(.open, {}), (.start, {}), (.pause, {}), (.stop, {})] (by simp [Env.routesDevices]) _ rfl
  exact absurd hflag (by decide)

end

end AudioReachPal.Streams
