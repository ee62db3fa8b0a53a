import AudioReachPal.Streams.Compress
import AudioReachPal.Streams.Holds

/-!
# What a compressed playback holds

A compressed playback holds its devices, its session and its entries in the resource manager in
stages, one for each of its states: a paused playback is in the stage that it was paused in. Every
request goes from stage to stage, but for an open that is left with a device open, a pause that does
not look where it comes from, and a close and a reset of the sound card that take a stream which is
`STREAM_OPENED` for one that is not started.
-/

namespace AudioReachPal.Streams

open AudioReachPal.Lib
open AudioReachPal.StStream (stream_state_t)
open AudioReachPal.StStream.stream_state_t

/-! ### The stages of a playback -/

/-- What a stream holds in each of its states but `STREAM_PAUSED`. -/
def stage : stream_state_t → Stage
  | STREAM_INIT | STREAM_STOPPED => { opened := true }
  | STREAM_OPENED => { opened := true, started := true, running := true }
  | STREAM_STARTED => { opened := true, started := true, running := true, registered := true }
  | _ => {}

/-- The last state that is not `STREAM_PAUSED`, which was `before` until now. -/
def lastUnpaused (before : stream_state_t) (s : Stream) : stream_state_t :=
  if s.currentState = STREAM_PAUSED then before else s.currentState

/-- A playback holds what its last state says that is not `STREAM_PAUSED`. -/
structure InStage (s : Stream) (before : stream_state_t) : Prop where
  direction : s.direction = .PAL_AUDIO_OUTPUT
  nodup : s.mDevices.Nodup
  holds : Holds s.calls s.mDevices (stage before)
  state : s.currentState = STREAM_PAUSED ∧ (before = STREAM_OPENED ∨ before = STREAM_STARTED) ∨
    s.currentState = before ∧ before ≠ STREAM_PAUSED ∧ before ≠ STREAM_SUSPENDED

/-- **The law.** A playback that is idle holds nothing: every open, start and session start is
matched. Its devices are registered when it is started, or paused since it was. -/
structure CleanedUp (s : Stream) (before : stream_state_t) : Prop where
  idle : s.currentState = STREAM_IDLE →
    (∀ d, account (opens d) s.calls = some 0 ∧ account (starts d) s.calls = some 0) ∧
      account sessionStarts s.calls = some 0 ∧ ∀ d, registered s.calls d = false
  registered : ∀ d, registered s.calls d = true ↔ d ∈ s.mDevices ∧
    (s.currentState = STREAM_STARTED ∨ s.currentState = STREAM_PAUSED ∧ before = STREAM_STARTED)

namespace InStage

variable {s t : Stream} {before : stream_state_t}

theorem cleanedUp (h : InStage s before) : CleanedUp s before := by
  constructor
  · intro hidle
    have hbefore : before = STREAM_IDLE := by
      rcases h.state with ⟨hpaused, -⟩ | ⟨hstate, -⟩
      · rw [hidle] at hpaused
        cases hpaused
      · exact hstate.symm.trans hidle
    have hholds := h.holds
    rw [hbefore] at hholds
    refine ⟨fun d => ?_, hholds.running, fun d => ?_⟩
    · have hd := hholds.held d
      exact ⟨by simpa [stage] using hd.opened, by simpa [stage] using hd.started⟩
    · have hd := hholds.registered d
      simpa [stage] using hd
  · intro d
    rw [h.holds.registered d]
    refine and_congr_right fun _ => ?_
    rcases h.state with ⟨hpaused, hbefore⟩ | ⟨hstate, hne, -⟩
    · rcases hbefore with rfl | rfl <;> simp [stage, hpaused]
    · rw [hstate]
      cases before <;> simp_all [stage]

theorem lastUnpaused_eq (h : InStage s before) : lastUnpaused before s = before := by
  unfold lastUnpaused
  rcases h.state with ⟨hpaused, -⟩ | ⟨hstate, hne, -⟩
  · rw [if_pos hpaused]
  · rw [hstate, if_neg hne]

theorem refl (h : InStage s before) : InStage s (lastUnpaused before s) := by
  rw [h.lastUnpaused_eq]
  exact h

/-- A stream that is not paused, in the stage of its state. -/
theorem of_state (state : stream_state_t) (hdir : t.direction = .PAL_AUDIO_OUTPUT)
    (hnd : t.mDevices.Nodup) (hstate : t.currentState = state) (hne : state ≠ STREAM_PAUSED)
    (hne' : state ≠ STREAM_SUSPENDED) (hholds : Holds t.calls t.mDevices (stage state)) :
    InStage t (lastUnpaused before t) := by
  have hlast : lastUnpaused before t = state := by
    unfold lastUnpaused
    rw [hstate, if_neg hne]
  rw [hlast]
  exact ⟨hdir, hnd, hholds, Or.inr ⟨hstate, hne, hne'⟩⟩

theorem before_eq (h : InStage s before) (hne : s.currentState ≠ STREAM_PAUSED) :
    before = s.currentState := by
  rcases h.state with ⟨hpaused, -⟩ | ⟨hstate, -⟩
  · exact absurd hpaused hne
  · exact hstate.symm

/-- Calls that change nothing that is held. -/
theorem inert (h : InStage s before) (new : List Call) (hdir : t.direction = s.direction)
    (hdevices : t.mDevices = s.mDevices) (hstate : t.currentState = s.currentState)
    (hcalls : t.calls = s.calls ++ new) (hnew : ∀ c ∈ new, c.inert) :
    InStage t (lastUnpaused before t) := by
  have ht : InStage t before := by
    refine ⟨hdir.trans h.direction, ?_, ?_, ?_⟩
    · rw [hdevices]
      exact h.nodup
    · rw [hcalls, hdevices]
      exact h.holds.inert hnew
    · rw [hstate]
      exact h.state
  exact ht.refl

theorem volumeSet (h : InStage s before) (ht : VolumeSet s t) :
    InStage t (lastUnpaused before t) := by
  obtain ⟨new, hnew, hvol⟩ := ht.calls
  refine h.inert new ht.direction ht.mDevices ht.currentState hnew ?_
  intro c hc
  have hc := hvol c hc
  cases c <;> first | rfl | cases hc

/-- The states in which the session runs. -/
theorem up (h : InStage s before) (hup : s.currentState = STREAM_OPENED ∨
      s.currentState = STREAM_STARTED ∨ s.currentState = STREAM_PAUSED) :
    ∃ r, stage before = { opened := true, started := true, running := true, registered := r } := by
  rcases h.state with ⟨-, hbefore⟩ | ⟨hstate, hne, -⟩
  · rcases hbefore with rfl | rfl
    · exact ⟨false, rfl⟩
    · exact ⟨true, rfl⟩
  · rw [hstate] at hup
    rcases hup with rfl | rfl | rfl
    · exact ⟨false, rfl⟩
    · exact ⟨true, rfl⟩
    · exact absurd rfl hne

end InStage

/-! ### Requests that keep the stage -/

namespace StreamCompress

variable {e : Env} {s : Stream} {before : stream_state_t}

/-- No device opens before another one fails to. -/
def OpensOk (e : Env) (s : Stream) : Prop :=
  s.currentState = STREAM_IDLE → e.cardOnline = true → btNotConnected e s = false →
    FailsOnlyFirst e.openDevice s.mDevices

theorem open_inStage (h : InStage s before) (hok : OpensOk e s) :
    InStage (StreamCompress.open e s).2 (lastUnpaused before (StreamCompress.open e s).2) := by
  unfold StreamCompress.open openStream
  by_cases hcard : (!e.cardOnline) = true
  · rw [if_pos hcard]
    exact h.refl
  rw [if_neg hcard]
  by_cases hbt : btNotConnected e s = true
  · rw [if_pos hbt]
    exact h.refl
  rw [if_neg hbt]
  cases hcur : s.currentState with
  | STREAM_IDLE =>
    have hholds : Holds s.calls s.mDevices {} := by
      have hholds := h.holds
      rw [h.before_eq (by simp [hcur]), hcur] at hholds
      exact hholds
    have hfirst := hok hcur (by simpa using hcard) (by simpa using hbt)
    dsimp only
    by_cases hfail : firstFailure e.openDevice s.mDevices ≠ 0
    · rw [if_pos hfail]
      refine InStage.of_state _ h.direction h.nodup hcur (by simp) (by simp) ?_
      exact hholds.openNone (h.nodup.sublist reached_sublist) (failed_of_mem_reached hfirst hfail)
    rw [if_neg hfail]
    have hall := firstFailure_eq_zero.mp (not_not.mp hfail)
    have hopened := hholds.openAll h.nodup hall
    rw [reached_of_all hall]
    by_cases hsession : e.sessionOpen ≠ 0
    · rw [if_pos hsession]
      refine InStage.of_state _ h.direction h.nodup hcur (by simp) (by simp) ?_
      simp only [Stream.log_calls, Stream.log_mDevices]
      rw [List.append_cons]
      exact (hopened.inert (by simp [Call.inert])).closeAll h.nodup
    · rw [if_neg hsession]
      exact InStage.of_state _ h.direction h.nodup rfl (by simp) (by simp)
        (hopened.inert (by simp [Call.inert]))
  | _ => exact h.refl

theorem stopSession_output (hdir : s.direction = .PAL_AUDIO_OUTPUT) :
    (stopSession e s).2 = s.log (.sessionStop :: s.mDevices.map .stopDevice) := by
  unfold stopSession
  rw [hdir]

/-- The stop of a playback. -/
theorem stop_inStage (h : InStage s before) :
    InStage (StreamCompress.stop e s).2 (lastUnpaused before (StreamCompress.stop e s).2) ∧
      ((s.currentState = STREAM_OPENED ∨ s.currentState = STREAM_STARTED ∨
        s.currentState = STREAM_PAUSED) →
          (StreamCompress.stop e s).2.currentState = STREAM_STOPPED) := by
  have hstop : (s.currentState = STREAM_OPENED ∨ s.currentState = STREAM_STARTED ∨
      s.currentState = STREAM_PAUSED) →
      let t := (stopSession e { s.log (s.mDevices.map .deregisterDevice) with
        currentState := STREAM_STOPPED }).2
      InStage t (lastUnpaused before t) ∧ t.currentState = STREAM_STOPPED := by
    intro hup
    obtain ⟨r, hr⟩ := h.up hup
    have hholds := h.holds
    rw [hr] at hholds
    obtain ⟨t, ht⟩ : ∃ t, t = { s.log (s.mDevices.map .deregisterDevice) with
      currentState := STREAM_STOPPED } := ⟨_, rfl⟩
    have hdir : t.direction = .PAL_AUDIO_OUTPUT := by
      rw [ht]
      exact h.direction
    dsimp only
    rw [← ht, stopSession_output hdir, ht]
    refine ⟨InStage.of_state _ h.direction h.nodup rfl (by simp) (by simp) ?_, rfl⟩
    have hstopped := hholds.stop h.nodup
    rw [← List.append_assoc] at hstopped
    exact hstopped
  unfold StreamCompress.stop
  cases hcur : s.currentState with
  | STREAM_STARTED =>
    obtain ⟨hstage, hstate⟩ := hstop (Or.inr (Or.inl hcur))
    exact ⟨hstage, fun _ => hstate⟩
  | STREAM_PAUSED =>
    obtain ⟨hstage, hstate⟩ := hstop (Or.inr (Or.inr hcur))
    exact ⟨hstage, fun _ => hstate⟩
  | STREAM_OPENED =>
    obtain ⟨hstage, hstate⟩ := hstop (Or.inl hcur)
    exact ⟨hstage, fun _ => hstate⟩
  | _ => exact ⟨h.refl, by simp⟩

theorem closeSession_inStage {was : stream_state_t} (h : InStage s before)
    (hcur : s.currentState = STREAM_INIT ∨ s.currentState = STREAM_STOPPED) :
    InStage (closeSession e s).2 (lastUnpaused was (closeSession e s).2) := by
  have hholds := h.holds
  rw [h.before_eq (by rcases hcur with h | h <;> simp [h])] at hholds
  have hready : stage s.currentState = { opened := true } := by
    rcases hcur with h | h <;> rw [h] <;> rfl
  rw [hready] at hholds
  unfold closeSession
  refine InStage.of_state _ h.direction h.nodup rfl (by simp) (by simp) ?_
  simp only [Stream.log_calls, Stream.log_mDevices]
  rw [List.append_cons]
  exact (hholds.inert (by simp [Call.inert])).closeAll h.nodup

/-- A close of a stream that is not opened without a write. -/
theorem close_inStage (h : InStage s before) (hok : s.currentState ≠ STREAM_OPENED) :
    InStage (StreamCompress.close e s).2 (lastUnpaused before (StreamCompress.close e s).2) := by
  have hstop : s.currentState = STREAM_STARTED ∨ s.currentState = STREAM_PAUSED →
      let t := (closeSession e (StreamCompress.stop e s).2).2
      InStage t (lastUnpaused before t) := by
    intro hcur
    obtain ⟨hstage, hstate⟩ := stop_inStage (e := e) h
    have hstopped := hstate (Or.inr hcur)
    exact closeSession_inStage hstage (Or.inr hstopped)
  unfold StreamCompress.close
  split_ifs with hidle
  · exact h.refl
  · unfold stopForClose
    cases hcur : s.currentState with
    | STREAM_STARTED => exact hstop (Or.inl hcur)
    | STREAM_PAUSED => exact hstop (Or.inr hcur)
    | STREAM_INIT => exact closeSession_inStage h (Or.inl hcur)
    | STREAM_STOPPED => exact closeSession_inStage h (Or.inr hcur)
    | STREAM_OPENED => exact absurd hcur hok
    | STREAM_IDLE => exact absurd hcur hidle
    | STREAM_SUSPENDED =>
      rcases h.state with ⟨hpaused, -⟩ | ⟨hstate, -, hne⟩
      · rw [hcur] at hpaused
        cases hpaused
      · exact absurd (hstate.symm.trans hcur) hne

/-- The devices that start are all there is left of a playback. -/
def startedOutputs (e : Env) (s : Stream) : List pal_device_id_t :=
  s.mDevices.filter fun d => false || e.startDevice d == 0

/-- A start whose Bluetooth route leaves the stream with what it holds, and whose session does not
start when it meets a reset of the sound card. -/
def StartOk (e : Env) (s : Stream) : Prop :=
  e.cardOnline = true → s.currentState = STREAM_INIT ∨ s.currentState = STREAM_STOPPED →
    InStage (routed e s) s.currentState ∧ ((e.handleBTDeviceNotReady s).status = 0 →
      startedOutputs e (routed e s) ≠ [] → e.sessionPrepare = 0 → e.errno = -ENETRESET →
        e.sessionStart ≠ 0)

/-- A playback without devices holds none. -/
theorem holds_nil {calls : List Call} {g g' : Stage} (h : Holds calls [] g)
    (hrunning : g'.running = g.running) : Holds calls [] g' := by
  refine ⟨fun d => by simpa using h.held d, ?_, fun d => by simpa using h.registered d⟩
  rw [hrunning]
  exact h.running

/-- A session that fails stops every device. -/
theorem sessionFail_inStage (status : ℤ) (hdir : s.direction = .PAL_AUDIO_OUTPUT)
    (hnd : s.mDevices.Nodup) (hcur : s.currentState = STREAM_INIT ∨ s.currentState = STREAM_STOPPED)
    (hholds : Holds s.calls s.mDevices { opened := true, started := true }) :
    InStage (sessionFail e s status).2 (lastUnpaused before (sessionFail e s status).2) := by
  unfold sessionFail
  refine InStage.of_state s.currentState hdir hnd rfl ?_ ?_ ?_
  · rcases hcur with h | h <;> simp [h]
  · rcases hcur with h | h <;> simp [h]
  · have hready : stage s.currentState = { opened := true } := by
      rcases hcur with h | h <;> rw [h] <;> rfl
    rw [hready]
    exact hholds.stopAll hnd

/-- The session of a playback whose devices are started. -/
theorem startSession_inStage (hdir : s.direction = .PAL_AUDIO_OUTPUT) (hnd : s.mDevices.Nodup)
    (hcur : s.currentState = STREAM_INIT ∨ s.currentState = STREAM_STOPPED)
    (hholds : Holds s.calls s.mDevices { opened := true, started := true })
    (hreset : e.sessionPrepare = 0 → e.errno = -ENETRESET → e.sessionStart ≠ 0)
    (a2dpSuspend : Bool) :
    let t := (startSession e s id (openedOutput e a2dpSuspend)).2
    InStage t (lastUnpaused before t) := by
  have hprepared : Holds (s.calls ++ [.sessionPrepare e.sessionPrepare]) s.mDevices
      { opened := true, started := true } := hholds.inert (by simp [Call.inert])
  have hfailed : e.sessionStart ≠ 0 → Holds (s.calls ++ [.sessionPrepare e.sessionPrepare] ++
      [.sessionStart e.sessionStart]) s.mDevices { opened := true, started := true } :=
    fun h => hprepared.inert (by simp [Call.inert, h])
  unfold startSession
  dsimp only
  split_ifs with hprepare herrno hstart
  · exact sessionFail_inStage _ hdir hnd hcur hprepared
  · exact sessionFail_inStage _ hdir hnd hcur (hfailed (hreset (not_not.mp hprepare) herrno))
  · exact sessionFail_inStage _ hdir hnd hcur (hfailed hstart)
  · obtain ⟨t, ht⟩ : ∃ t, t = (s.log [.sessionPrepare e.sessionPrepare]).log
      [.sessionStart e.sessionStart] := ⟨_, rfl⟩
    have hrunning : Holds t.calls t.mDevices (stage STREAM_OPENED) := by
      rw [ht, not_not.mp hstart]
      exact hprepared.sessionStart
    have hmuted := VolumeSet.muteForSuspend e (s := t) a2dpSuspend
    obtain ⟨new, hnew, hvol⟩ := hmuted.calls
    have hinert : ∀ c ∈ new, c.inert := by
      intro c hc
      have hc := hvol c hc
      cases c <;> first | rfl | cases hc
    rw [← ht]
    unfold openedOutput
    refine InStage.of_state STREAM_OPENED ?_ ?_ rfl (by simp) (by simp) ?_
    · refine (show _ = _ from hmuted.direction).trans ?_
      rw [ht]
      exact hdir
    · change (muteForSuspend e t a2dpSuspend).mDevices.Nodup
      rw [hmuted.mDevices, ht]
      exact hnd
    · change Holds (muteForSuspend e t a2dpSuspend).calls
        (muteForSuspend e t a2dpSuspend).mDevices _
      rw [hmuted.mDevices, hnew]
      exact hrunning.inert hinert

theorem start_inStage (h : InStage s before) (hok : StartOk e s) :
    InStage (StreamCompress.start e s).2 (lastUnpaused before (StreamCompress.start e s).2) := by
  have houtput : e.cardOnline = true → s.currentState = STREAM_INIT ∨
      s.currentState = STREAM_STOPPED →
      InStage (startOutputStream e s).2 (lastUnpaused before (startOutputStream e s).2) := by
    intro hcard hcur
    obtain ⟨hrouted, hreset⟩ := hok hcard hcur
    obtain ⟨t, ht⟩ : ∃ t, t = routed e s := ⟨_, rfl⟩
    have hstate : t.currentState = s.currentState := by
      rw [ht]
      rfl
    rw [← ht] at hrouted hreset
    have hkept : ∀ {u : Stream}, u = t → InStage u (lastUnpaused before u) := by
      rintro u rfl
      refine InStage.of_state _ hrouted.direction hrouted.nodup hstate ?_ ?_ hrouted.holds
      · rcases hcur with h | h <;> simp [h]
      · rcases hcur with h | h <;> simp [h]
    have hready : Holds t.calls t.mDevices { opened := true } := by
      have hholds := hrouted.holds
      rcases hcur with h | h <;> rw [h] at hholds <;> exact hholds
    unfold startOutputStream
    dsimp only
    rw [← ht]
    split_ifs with hstatus
    · exact hkept rfl
    · unfold startOutputDevices
      have hup := hready.startOutputs (e := e) hrouted.nodup
      have hnd : (startedOutputs e t).Nodup := hrouted.nodup.filter _
      rw [← hstate] at hcur
      dsimp only
      split_ifs with hnone hleft
      · exact hkept rfl
      · refine InStage.of_state t.currentState hrouted.direction hnd rfl ?_ ?_ ?_
        · rcases hcur with h | h <;> simp [h]
        · rcases hcur with h | h <;> simp [h]
        · have hstage : (stage t.currentState).running = false := by
            rcases hcur with h | h <;> rw [h] <;> rfl
          change Holds _ (startedOutputs e t) _
          change startedOutputs e t = [] at hleft
          change Holds _ (startedOutputs e t) _ at hup
          rw [hleft] at hup ⊢
          exact holds_nil hup hstage
      · exact startSession_inStage (s := startOutputs e t fun _ => false) hrouted.direction hnd hcur
          hup (hreset (not_not.mp hstatus) hleft) _
  unfold StreamCompress.start
  by_cases hcard : (!e.cardOnline) = true
  · rw [if_pos hcard]
    exact h.refl
  rw [if_neg hcard, h.direction]
  have hcard : e.cardOnline = true := by simpa using hcard
  cases hcur : s.currentState with
  | STREAM_INIT => exact houtput hcard (Or.inl hcur)
  | STREAM_STOPPED => exact houtput hcard (Or.inr hcur)
  | _ => exact h.refl

/-- The first write of a stream that is not paused starts it. -/
theorem write_inStage (h : InStage s before) (size : ℤ) :
    InStage (StreamCompress.write e s size).2
      (lastUnpaused before (StreamCompress.write e s size).2) := by
  have hwritten : InStage (s.log [.sessionWrite e.sessionWrite])
      (lastUnpaused before (s.log [.sessionWrite e.sessionWrite])) :=
    h.inert _ rfl rfl rfl rfl (by simp [Call.inert])
  have hwrite : (s.currentState = STREAM_OPENED ∨ s.currentState = STREAM_STARTED ∨
      s.currentState = STREAM_PAUSED) →
      InStage (writeSession e s size).2 (lastUnpaused before (writeSession e s size).2) := by
    intro hup
    obtain ⟨r, hr⟩ := h.up hup
    have hholds : Holds (s.calls ++ [.sessionWrite e.sessionWrite]) s.mDevices (stage before) :=
      h.holds.inert (by simp [Call.inert])
    rw [hr] at hholds
    unfold writeSession
    dsimp only
    split_ifs
    · exact hwritten
    · exact hwritten
    · exact InStage.of_state STREAM_STARTED h.direction h.nodup rfl (by simp) (by simp)
        hholds.registerAll
    · exact hwritten
  unfold StreamCompress.write
  split_ifs
  · exact h.refl
  · cases hcur : s.currentState with
    | STREAM_OPENED => exact hwrite (Or.inl hcur)
    | STREAM_STARTED => exact hwrite (Or.inr (Or.inl hcur))
    | STREAM_PAUSED => exact hwrite (Or.inr (Or.inr hcur))
    | _ => exact h.refl

/-- A pause of a stream whose session runs. -/
def PauseOk (e : Env) (s : Stream) : Prop :=
  e.cardOnline = true → s.currentState = STREAM_OPENED ∨ s.currentState = STREAM_STARTED ∨
    s.currentState = STREAM_PAUSED

theorem pause_inStage (h : InStage s before) (hok : PauseOk e s) :
    InStage (StreamCompress.pause e s).2 (lastUnpaused before (StreamCompress.pause e s).2) := by
  have hpaused : e.cardOnline = true → ∀ new, (∀ c ∈ new, c.inert) →
      let t := { s.log new with isPaused := true, currentState := STREAM_PAUSED }
      InStage t (lastUnpaused before t) := by
    intro hcard new hnew
    have hbefore : before = STREAM_OPENED ∨ before = STREAM_STARTED := by
      rcases h.state with ⟨-, hbefore⟩ | ⟨hstate, hne, -⟩
      · exact hbefore
      · have hup := hok hcard
        rw [hstate] at hup
        rcases hup with h | h | h
        · exact Or.inl h
        · exact Or.inr h
        · exact absurd h hne
    exact ⟨h.direction, h.nodup, h.holds.inert hnew, Or.inl ⟨rfl, hbefore⟩⟩
  unfold StreamCompress.pause
  dsimp only
  split_ifs with hcard hflag
  · exact h.inert [] rfl rfl rfl (by simp) (by simp)
  · have hnone := hpaused (by simpa using hcard) [] (by simp)
    have hlog : s.log [] = s := by simp [Stream.log]
    rw [hlog] at hnone
    exact hnone
  · exact hpaused (by simpa using hcard) _ (by simp [Call.inert])

theorem resume_inStage (h : InStage s before) :
    InStage (StreamCompress.resume e s).2 (lastUnpaused before (StreamCompress.resume e s).2) := by
  have hresumed : InStage { s.log [.sessionResume e.sessionResume] with
      isPaused := s.isPaused && e.sessionResume != 0 } before := by
    refine ⟨h.direction, h.nodup, h.holds.inert ?_, h.state⟩
    simp [Call.inert]
  unfold StreamCompress.resume
  split_ifs
  · exact h.refl
  · exact hresumed.volumeSet (resumeSession_spec e s)

/-- A reset of the sound card closes the stream. -/
theorem ssrDownHandler_inStage (h : InStage s before)
    (hok : e.isSsrDownFeasible = true → s.currentState ≠ STREAM_OPENED) :
    InStage (StreamCompress.ssrDownHandler e s).2
      (lastUnpaused before (StreamCompress.ssrDownHandler e s).2) := by
  have hclosed : ∀ {t : Stream} {b : stream_state_t}, InStage t b → t.currentState ≠ STREAM_OPENED →
      let u := { (StreamCompress.close e t).2 with currentState := STREAM_IDLE }
      InStage u (lastUnpaused before u) := by
    intro t b ht hopened
    have hclose := close_inStage (e := e) ht hopened
    have hidle : (StreamCompress.close e t).2.currentState = STREAM_IDLE := by
      unfold StreamCompress.close
      split_ifs with hidle
      · exact hidle
      · rfl
    have hstage := hclose.holds
    rw [hclose.before_eq (by rw [hidle]; simp), hidle] at hstage
    exact InStage.of_state STREAM_IDLE hclose.direction hclose.nodup rfl (by simp) (by simp) hstage
  unfold StreamCompress.ssrDownHandler
  split_ifs with hfeasible
  · exact h.inert [] rfl rfl rfl (by simp) (by simp)
  · have hopened := hok (by simpa using hfeasible)
    have hstopped : s.currentState = STREAM_STARTED ∨ s.currentState = STREAM_PAUSED →
        (StreamCompress.stop e s).2.currentState ≠ STREAM_OPENED := by
      intro hup
      rw [(stop_inStage (e := e) h).2 (Or.inr hup)]
      simp
    cases hcur : s.currentState with
    | STREAM_INIT => exact hclosed h hopened
    | STREAM_STOPPED => exact hclosed h hopened
    | STREAM_STARTED => exact hclosed (stop_inStage h).1 (hstopped (Or.inl hcur))
    | STREAM_PAUSED => exact hclosed (stop_inStage h).1 (hstopped (Or.inr hcur))
    | STREAM_OPENED => exact absurd hcur hopened
    | STREAM_IDLE =>
      have hholds := h.holds
      rw [h.before_eq (by simp [hcur]), hcur] at hholds
      exact InStage.of_state STREAM_IDLE h.direction h.nodup rfl (by simp) (by simp) hholds
    | STREAM_SUSPENDED =>
      rcases h.state with ⟨hpaused, -⟩ | ⟨hstate, -, hne⟩
      · rw [hcur] at hpaused
        cases hpaused
      · exact absurd (hstate.symm.trans hcur) hne

/-! ### Runs of requests -/

/-- What is asked of a compressed stream. -/
inductive Request where
  | open
  | start
  | write (size : ℤ)
  | pause
  | resume
  | stop
  | close
  | ssrDownHandler
  deriving DecidableEq, Repr

namespace Request

def call (e : Env) (s : Stream) : Request → ℤ × Stream
  | .open => StreamCompress.open e s
  | .start => StreamCompress.start e s
  | .write size => StreamCompress.write e s size
  | .pause => StreamCompress.pause e s
  | .resume => StreamCompress.resume e s
  | .stop => StreamCompress.stop e s
  | .close => StreamCompress.close e s
  | .ssrDownHandler => StreamCompress.ssrDownHandler e s

/-- A request that keeps what its stage says. -/
def HoldsOk (e : Env) (s : Stream) : Request → Prop
  | .open => OpensOk e s
  | .start => StartOk e s
  | .pause => PauseOk e s
  | .close => s.currentState ≠ STREAM_OPENED
  | .ssrDownHandler => e.isSsrDownFeasible = true → s.currentState ≠ STREAM_OPENED
  | .write _ | .resume | .stop => True

end Request

/-- A stream with the last state that was not `STREAM_PAUSED`. -/
structure Traced where
  stream : Stream
  before : stream_state_t := STREAM_IDLE

def step (x : Traced) (i : Request × Env) : Option Traced :=
  let t := (i.1.call i.2 x.stream).2
  some { stream := t, before := lastUnpaused x.before t }

/-- **The step.** A request that meets its condition goes from stage to stage. -/
theorem call_inStage (h : InStage s before) (r : Request) (hok : r.HoldsOk e s) :
    InStage (r.call e s).2 (lastUnpaused before (r.call e s).2) := by
  cases r with
  | «open» => exact open_inStage h hok
  | start => exact start_inStage h hok
  | write size => exact write_inStage h size
  | pause => exact pause_inStage h hok
  | resume => exact resume_inStage h
  | stop => exact (stop_inStage h).1
  | close => exact close_inStage h hok
  | ssrDownHandler => exact ssrDownHandler_inStage h hok

theorem createStream_inStage {devices : List pal_device_id_t} (hnd : devices.Nodup) :
    InStage (createStream .PAL_AUDIO_OUTPUT devices) STREAM_IDLE :=
  ⟨rfl, hnd, Holds.nil devices, Or.inr ⟨rfl, by simp, by simp⟩⟩

/-- **A compressed playback cleans up.** After every run whose requests all meet their conditions,
an idle playback holds nothing, and the devices are registered exactly when it is started, or paused
since it was. -/
theorem playback_cleanedUp {devices : List pal_device_id_t} (hnd : devices.Nodup)
    {is : List (Request × Env)}
    (hok : Meets step (fun x i => i.1.HoldsOk i.2 x.stream)
      { stream := createStream .PAL_AUDIO_OUTPUT devices } is) :
    ∀ js x, js <+: is → run step { stream := createStream .PAL_AUDIO_OUTPUT devices } js = some x →
      CleanedUp x.stream x.before := by
  rintro js x ⟨ks, rfl⟩ hx
  have hstep : ∀ (x : Traced) (i : Request × Env) (y : Traced), i.1.HoldsOk i.2 x.stream →
      InStage x.stream x.before → step x i = some y → InStage y.stream y.before := by
    rintro x i _ hok hx ⟨⟩
    exact call_inStage hx i.1 hok
  exact (run_invariant_of_meets hstep hok.of_append (createStream_inStage hnd) hx).cleanedUp

/-- A playback that is paused before its first write, and closed after it. -/
theorem written_playback_cleanedUp :
    let is : List (Request × Env) :=
      [(.open, {}), (.start, {}), (.pause, {}), (.resume, {}), (.write 8, {}), (.close, {})]
    ∃ x, run step { stream := createStream .PAL_AUDIO_OUTPUT [2] } is = some x ∧
      x.stream.currentState = STREAM_IDLE ∧ CleanedUp x.stream x.before := by
  have hopen : OpensOk {} (createStream .PAL_AUDIO_OUTPUT [2]) :=
    fun _ _ _ => Or.inr fun _ _ => rfl
  have hok : Meets step (fun x i => i.1.HoldsOk i.2 x.stream)
      { stream := createStream .PAL_AUDIO_OUTPUT [2] }
      [(.open, {}), (.start, {}), (.pause, {}), (.resume, {}), (.write 8, {}), (.close, {})] := by
    refine meets_cons_of_some ?_ rfl <| meets_cons_of_some ?_ rfl <| meets_cons_of_some ?_ rfl <|
      meets_cons_of_some trivial rfl <| meets_cons_of_some trivial rfl <|
      meets_cons_of_some ?_ rfl trivial
    · exact hopen
    · intro _ _
      have hopened := open_inStage (createStream_inStage (List.nodup_singleton 2)) hopen
      refine ⟨⟨rfl, by decide, hopened.holds, Or.inr ⟨rfl, by decide, by decide⟩⟩, ?_⟩
      exact fun _ _ _ herrno => absurd herrno (by decide)
    · exact fun _ => Or.inl rfl
    · change STREAM_STARTED ≠ STREAM_OPENED
      decide
  refine ⟨_, rfl, rfl, ?_⟩
  exact playback_cleanedUp (by simp) hok _ _ (List.prefix_refl _) rfl

/-- A playback that is closed before it is written to leaves its device and its session started. -/
theorem closed_while_opened : ¬∀ (devices : List pal_device_id_t) (is : List (Request × Env)),
    devices.Nodup → ∀ x, run step { stream := createStream .PAL_AUDIO_OUTPUT devices } is = some x →
      CleanedUp x.stream x.before := by
  intro h
  have hclean := h [2] [(.open, {}), (.start, {}), (.close, {})] (by simp) _ rfl
  exact absurd (hclean.idle rfl).2.1 (by decide)

end StreamCompress

end AudioReachPal.Streams
