import AudioReachPal.Streams.Held

/-!
# What a PCM stream keeps of its devices

`Kept` is what a stream keeps of its devices in each of its states; the law of the stream,
`Balanced`, follows from it. An open, a stop and a close keep it under conditions on the answers
they meet: a loop that is left at a failure must leave nothing behind, a stop must reach what the
stream started and nothing else, and a close must reach all that is started.
-/

namespace AudioReachPal.Streams

open AudioReachPal.Lib
open AudioReachPal.StStream (stream_state_t)
open AudioReachPal.StStream.stream_state_t

/-! ### What a stream keeps of its devices -/

/-- What a stream keeps, in each of its states. -/
structure Kept (s : Stream) : Prop where
  nodup : s.mDevices.Nodup
  held : ∀ d, Held s.calls d (once (d ∈ s.mDevices ∧ s.currentState ≠ STREAM_IDLE))
    (once (d ∈ s.mDevices ∧ s.currentState ≠ STREAM_IDLE ∧ (s.playing ∨ d ∈ s.startedEarly)))
  state : s.currentState ≠ STREAM_OPENED ∧ s.currentState ≠ STREAM_SUSPENDED
  idle : s.currentState = STREAM_IDLE → s.startedEarly = []
  early : ∀ d ∈ s.startedEarly, s.skips d
  skipped : s.playing → s.direction = .PAL_AUDIO_OUTPUT →
    ∀ d ∈ s.mDevices, s.skips d → d ∈ s.startedEarly

/-- **The law.** Each device of the stream is opened once while the stream is not idle, and started
once while the stream is started or paused, or since the buffer was made; and no device is closed or
stopped that is not opened or started. -/
structure Balanced (s : Stream) : Prop where
  opened : ∀ d ∈ s.mDevices,
    account (opens d) s.calls = some (if s.currentState = STREAM_IDLE then 0 else 1)
  started : ∀ d ∈ s.mDevices, account (starts d) s.calls =
    some (if s.playing ∨ d ∈ s.startedEarly ∧ s.currentState ≠ STREAM_IDLE then 1 else 0)
  matched : ∀ d, account (opens d) s.calls ≠ none ∧ account (starts d) s.calls ≠ none

namespace Kept

variable {s t : Stream}

theorem balanced (h : Kept s) : Balanced s := by
  refine ⟨fun d hd => ?_, fun d hd => ?_, fun d => ?_⟩
  · rw [(h.held d).opened]
    by_cases hidle : s.currentState = STREAM_IDLE <;> simp [once, hd, hidle]
  · rw [(h.held d).started]
    by_cases hidle : s.currentState = STREAM_IDLE
    · simp [once, hidle, Stream.playing]
    · simp [once, hd, hidle]
  · rw [(h.held d).opened, (h.held d).started]
    simp

end Kept

theorem Alike.kept {s t : Stream} (h : Alike s t) (hs : Kept s) : Kept t := by
  constructor
  · rw [h.mDevices]
    exact hs.nodup
  · intro d
    rw [h.mDevices, h.currentState, h.playing, h.startedEarly]
    exact h.held (hs.held d)
  · rw [h.currentState]
    exact hs.state
  · rw [h.currentState, h.startedEarly]
    exact hs.idle
  · intro d
    rw [h.startedEarly, h.skips]
    exact hs.early d
  · rw [h.playing, h.direction, h.mDevices, h.startedEarly]
    intro hp hout d
    rw [h.skips]
    exact hs.skipped hp hout d

/-- Calls that leave every device as it was. -/
theorem Kept.log {s : Stream} (hs : Kept s) {new : List Call}
    (h : ∀ d o p, Held s.calls d o p → Held (s.calls ++ new) d o p) : Kept (s.log new) := by
  obtain ⟨hnd, hheld, hstate, hidle, hearly, hskipped⟩ := hs
  exact ⟨hnd, fun d => h d _ _ (hheld d), hstate, hidle, hearly, hskipped⟩

/-! ### Opening -/

section Open

variable (e : Env) (s : Stream)

/-- No device opens before another one fails to, and a session that fails to open leaves a failure
as the status of the last close. -/
def OpenOk : Prop :=
  s.currentState = STREAM_IDLE → btNotConnected e s = false →
    FailsOnlyFirst e.openDevice s.mDevices ∧
      ((∀ d ∈ s.mDevices, e.openDevice d = 0) →
        e.sessionOpen = 0 ∨ lastStatus e.closeDevice e.sessionOpen s.mDevices ≠ 0)

variable {e s}

theorem openStream_kept (hs : Kept s) (hok : OpenOk e s) :
    Kept (openStream e s).2 ∧
      ((openStream e s).1 = 0 → (openStream e s).2.currentState = STREAM_INIT) := by
  unfold openStream
  by_cases hcard : e.cardOnline = false
  · rw [if_pos (by simp [hcard])]
    exact ⟨hs, fun h => by simp [ EIO] at h⟩
  rw [if_neg (by simpa using hcard)]
  by_cases hbt : btNotConnected e s = true
  · rw [if_pos hbt]
    exact ⟨hs, fun h => by simp [ENODEV] at h⟩
  rw [if_neg hbt]
  cases hcur : s.currentState with
  | STREAM_INIT => exact ⟨hs, fun _ => hcur⟩
  | STREAM_OPENED | STREAM_STARTED | STREAM_PAUSED | STREAM_SUSPENDED | STREAM_STOPPED =>
    exact ⟨hs, fun h => by simp [EINVAL] at h⟩
  | STREAM_IDLE =>
    dsimp only
    obtain ⟨hfirst, hsession⟩ := hok hcur (by simpa using hbt)
    have hopened : ∀ d o p, Held s.calls d o p → Held (s.calls ++ (reached e.openDevice
        s.mDevices).map fun d => .openDevice d (e.openDevice d)) d
        (o + once (d ∈ reached e.openDevice s.mDevices ∧ e.openDevice d = 0)) p :=
      fun d o p h => h.openAll (hs.nodup.sublist reached_sublist) e.openDevice
    by_cases hfail : firstFailure e.openDevice s.mDevices ≠ 0
    · -- a device that fails to open: no other is open
      rw [if_pos hfail]
      refine ⟨hs.log fun d o p h => ?_, fun h => absurd h hfail⟩
      have hnone : ¬(d ∈ reached e.openDevice s.mDevices ∧ e.openDevice d = 0) :=
        fun hd => failed_of_mem_reached hfirst hfail d hd.1 hd.2
      simpa [once_neg hnone] using hopened d o p h
    rw [if_neg hfail]
    have hall := firstFailure_eq_zero.mp (not_not.mp hfail)
    rw [reached_of_all hall] at hopened ⊢
    have hds : ∀ d, once (d ∈ s.mDevices ∧ e.openDevice d = 0) = once (d ∈ s.mDevices) :=
      fun d => once_congr (and_iff_left_of_imp (hall d))
    simp only [hds] at hopened
    by_cases hopen : e.sessionOpen ≠ 0
    · rw [if_pos hopen]
      constructor
      · dsimp only
        rw [Stream.log_log]
        refine hs.log fun d o p h => ?_
        have hquiet := (hopened d o p h).quiet [.sessionOpen e.sessionOpen]
          (by simp [Call.quiet])
        simpa using hquiet.closeAll hs.nodup
      · intro h
        exact absurd h ((hsession hall).resolve_left hopen)
    · rw [if_neg hopen]
      refine ⟨⟨hs.nodup, fun d => ?_, by simp, by simp, ?_, by simp [Stream.playing]⟩, fun _ => rfl⟩
      · have hnew : Held s.calls d 0 0 := by simpa [hcur] using hs.held d
        have hlast := (hopened d 0 0 hnew).quiet [.sessionOpen 0] (by simp [Call.quiet])
        simpa [Stream.playing, hs.idle hcur] using hlast
      · intro d hd
        change d ∈ s.startedEarly at hd
        rw [hs.idle hcur] at hd
        cases hd

end Open

/-! ### Stopping and closing -/

section Stop

variable (e : Env) (s : Stream)

/-- Every device is an output or an input device. -/
def Directed : Prop := ∀ d ∈ s.mDevices, isOutDevice d ∨ isInDevice d

/-- A stop that stops what the stream started, and leaves what was started for the buffer. -/
def stopOk : Prop :=
  s.playing → match s.direction with
    | .PAL_AUDIO_OUTPUT => FailsOnlyLast e.stopDevice (StreamPCM.stoppedOutputs s)
    | .PAL_AUDIO_INPUT => ∀ d ∈ s.mDevices, d ∉ s.startedEarly
    | .PAL_AUDIO_INPUT_OUTPUT =>
      Directed s ∧ (∀ d ∈ s.mDevices, d ∉ s.startedEarly) ∧
        FailsOnlyLast e.stopDevice (s.mDevices.filter isOutDevice)
    | .unsupported => ∀ d ∈ s.mDevices, d ∈ s.startedEarly

/-- A close that stops all that is started. -/
def CloseOk : Prop :=
  match s.currentState with
  | STREAM_STARTED | STREAM_PAUSED =>
    match s.direction with
    | .PAL_AUDIO_OUTPUT =>
      (∀ d ∈ s.mDevices, s.skips d = false) ∧ FailsOnlyLast e.stopDevice s.mDevices
    | .PAL_AUDIO_INPUT => True
    | .PAL_AUDIO_INPUT_OUTPUT =>
      Directed s ∧ FailsOnlyLast e.stopDevice (s.mDevices.filter isOutDevice)
    | .unsupported => s.mDevices = []
  | STREAM_INIT | STREAM_STOPPED => ∀ d ∈ s.mDevices, s.skips d → d ∈ s.startedEarly
  | _ => True

/-- The devices that the stop of a playing stream reaches. -/
def stopReach : List pal_device_id_t :=
  match s.direction with
  | .PAL_AUDIO_OUTPUT => reached e.stopDevice (StreamPCM.stoppedOutputs s)
  | .PAL_AUDIO_INPUT => s.mDevices
  | .PAL_AUDIO_INPUT_OUTPUT =>
    s.mDevices.filter isInDevice ++ reached e.stopDevice (s.mDevices.filter isOutDevice)
  | .unsupported => []

theorem not_isInDevice_of_isOutDevice {d : pal_device_id_t} (h : isOutDevice d = true) :
    isInDevice d = false := by
  have hout := of_decide_eq_true h
  exact decide_eq_false fun hin => Nat.lt_asymm hout.2 hin.1

variable {e s}

theorem stopReach_subset : stopReach e s ⊆ s.mDevices := by
  intro d hd
  unfold stopReach at hd
  cases hdir : s.direction with
  | PAL_AUDIO_OUTPUT =>
    rw [hdir] at hd
    exact List.mem_of_mem_filter (reached_sublist.subset hd)
  | PAL_AUDIO_INPUT =>
    rw [hdir] at hd
    exact hd
  | PAL_AUDIO_INPUT_OUTPUT =>
    rw [hdir] at hd
    rcases List.mem_append.mp hd with hd | hd
    · exact List.mem_of_mem_filter hd
    · exact List.mem_of_mem_filter (reached_sublist.subset hd)
  | unsupported =>
    rw [hdir] at hd
    cases hd

/-- What a stop of a session does to the devices: it stops those that it reaches. -/
theorem stopSession_held (hnd : s.mDevices.Nodup) {d : pal_device_id_t} {o p : ℕ}
    (h : Held s.calls d o (p + once (d ∈ stopReach e s))) :
    Held (StreamPCM.stopSession e s).2.calls d o p := by
  unfold stopReach at h
  unfold StreamPCM.stopSession
  have hstop : ∀ c ∈ [Call.sessionStop], c.quiet := by simp [Call.quiet]
  cases hdir : s.direction with
  | PAL_AUDIO_OUTPUT =>
    rw [hdir] at h
    have hnd' : (reached e.stopDevice (StreamPCM.stoppedOutputs s)).Nodup :=
      (hnd.filter _).sublist reached_sublist
    simpa using (h.quiet _ hstop).stopAll hnd'
  | PAL_AUDIO_INPUT =>
    rw [hdir] at h
    simpa using (h.stopAll hnd).quiet _ hstop
  | PAL_AUDIO_INPUT_OUTPUT =>
    rw [hdir] at h
    have houts : (reached e.stopDevice (s.mDevices.filter isOutDevice)).Nodup :=
      (hnd.filter _).sublist reached_sublist
    have hsplit : once (d ∈ s.mDevices.filter isInDevice ++
          reached e.stopDevice (s.mDevices.filter isOutDevice)) =
        once (d ∈ reached e.stopDevice (s.mDevices.filter isOutDevice)) +
          once (d ∈ s.mDevices.filter isInDevice) := by
      by_cases hin : d ∈ s.mDevices.filter isInDevice
      · have hout : d ∉ reached e.stopDevice (s.mDevices.filter isOutDevice) := by
          intro hout
          have hout' := not_isInDevice_of_isOutDevice
            (List.of_mem_filter (reached_sublist.subset hout))
          have hin' := List.of_mem_filter hin
          rw [hout'] at hin'
          cases hin'
        simp [once, hin, hout]
      · simp [once, hin]
    dsimp only at h
    rw [hsplit, ← Nat.add_assoc] at h
    simpa using ((h.stopAll (hnd.filter _)).quiet _ hstop).stopAll houts
  | unsupported =>
    rw [hdir] at h
    simpa using h

theorem stopSession_log (e : Env) (s : Stream) :
    ∃ new, (StreamPCM.stopSession e s).2 = s.log new := by
  unfold StreamPCM.stopSession
  cases s.direction with
  | PAL_AUDIO_OUTPUT | PAL_AUDIO_INPUT | PAL_AUDIO_INPUT_OUTPUT => exact ⟨_, rfl⟩
  | unsupported => exact ⟨[], by simp [Stream.log]⟩

theorem playing_iff : s.playing ↔
    s.currentState = STREAM_STARTED ∨ s.currentState = STREAM_PAUSED := by
  simp [Stream.playing]

/-- A playing stream has every device opened and started. -/
theorem Kept.held_of_playing (hs : Kept s) (hp : s.playing) (d : pal_device_id_t) :
    Held s.calls d (once (d ∈ s.mDevices)) (once (d ∈ s.mDevices)) := by
  have hidle : s.currentState ≠ STREAM_IDLE := by
    rcases playing_iff.mp hp with h | h <;> simp [h]
  simpa [hp, hidle] using hs.held d

/-- What the stop of a playing stream leaves. -/
theorem stop_of_playing (hs : Kept s) (hp : s.playing) :
    ∃ new, (StreamPCM.stop e s).2 = { s.log new with currentState := STREAM_STOPPED } ∧
      ∀ d, Held (s.calls ++ new) d (once (d ∈ s.mDevices))
        (once (d ∈ s.mDevices ∧ d ∉ stopReach e s)) := by
  obtain ⟨t, ht⟩ : ∃ t, t = { s.log (s.mDevices.map .deregisterDevice) with
    currentState := STREAM_STOPPED } := ⟨_, rfl⟩
  have hstop : StreamPCM.stop e s = StreamPCM.stopSession e t := by
    unfold StreamPCM.stop
    rcases playing_iff.mp hp with h | h <;> rw [h, ht]
  have hreach : stopReach e t = stopReach e s := by
    rw [ht]
    rfl
  obtain ⟨new, hnew⟩ := stopSession_log e t
  refine ⟨s.mDevices.map .deregisterDevice ++ new, ?_, fun d => ?_⟩
  · rw [hstop, hnew, ht]
    simp [Stream.log]
  · have hderegistered : Held t.calls d (once (d ∈ s.mDevices)) (once (d ∈ s.mDevices)) := by
      rw [ht]
      exact (hs.held_of_playing hp d).quiet _ (by simp [Call.quiet])
    have hsplit := once_split (p := d ∈ s.mDevices) (q := d ∈ stopReach e s)
      fun h => stopReach_subset h
    have hnd : t.mDevices.Nodup := by
      rw [ht]
      exact hs.nodup
    rw [← hreach] at hsplit ⊢
    have hheld := stopSession_held (e := e) hnd (p := once (d ∈ s.mDevices ∧ d ∉ stopReach e t))
      (by rw [← hsplit]; exact hderegistered)
    rw [hnew, ht] at hheld
    rw [ht]
    simpa using hheld

theorem mem_directed (h : Directed s) {d : pal_device_id_t} (hd : d ∈ s.mDevices) :
    d ∈ s.mDevices.filter isInDevice ++ s.mDevices.filter isOutDevice := by
  rcases h d hd with h | h
  · exact List.mem_append_right _ (List.mem_filter.mpr ⟨hd, h⟩)
  · exact List.mem_append_left _ (List.mem_filter.mpr ⟨hd, h⟩)

/-- A stop under its condition reaches what was not started for the buffer. -/
theorem stopReach_iff (hs : Kept s) (hok : stopOk e s) (hp : s.playing) :
    ∀ d ∈ s.mDevices, (d ∈ stopReach e s ↔ d ∉ s.startedEarly) := by
  intro d hd
  have hok := hok hp
  unfold stopReach
  cases hdir : s.direction with
  | PAL_AUDIO_OUTPUT =>
    rw [hdir] at hok
    have hearly : s.skips d = true ↔ d ∈ s.startedEarly := ⟨hs.skipped hp hdir d hd, hs.early d⟩
    dsimp only
    rw [reached_of_failsOnlyLast hok, StreamPCM.stoppedOutputs, List.mem_filter, ← hearly]
    simp [hd]
  | PAL_AUDIO_INPUT =>
    rw [hdir] at hok
    exact iff_of_true hd (hok d hd)
  | PAL_AUDIO_INPUT_OUTPUT =>
    rw [hdir] at hok
    obtain ⟨hdirected, hearly, hlast⟩ := hok
    refine iff_of_true ?_ (hearly d hd)
    rw [reached_of_failsOnlyLast hlast]
    exact mem_directed hdirected hd
  | unsupported =>
    rw [hdir] at hok
    simpa using hok d hd

theorem stop_kept (hs : Kept s) (hok : stopOk e s) : Kept (StreamPCM.stop e s).2 := by
  by_cases hp : s.playing
  · obtain ⟨new, hstop, hheld⟩ := stop_of_playing (e := e) hs hp
    have hreach := stopReach_iff hs hok hp
    rw [hstop]
    refine ⟨hs.nodup, fun d => ?_, by simp, by simp, hs.early, by simp [Stream.playing]⟩
    have honce : once (d ∈ s.mDevices ∧ d ∉ stopReach e s) =
        once (d ∈ s.mDevices ∧ d ∈ s.startedEarly) := by
      refine once_congr (and_congr_right fun hd => ?_)
      rw [hreach d hd, not_not]
    have hd := hheld d
    rw [honce] at hd
    simpa [Stream.playing] using hd
  · have hstop : (StreamPCM.stop e s).2 = s := by
      unfold StreamPCM.stop
      cases hcur : s.currentState with
      | STREAM_STARTED => exact absurd (playing_iff.mpr (Or.inl hcur)) hp
      | STREAM_PAUSED => exact absurd (playing_iff.mpr (Or.inr hcur)) hp
      | _ => rfl
    rw [hstop]
    exact hs

/-- What the end of a close does to a stream whose devices are stopped. -/
theorem closeSession_kept (hnd : s.mDevices.Nodup)
    (hheld : ∀ d, Held s.calls d (once (d ∈ s.mDevices)) 0) : Kept (closeSession e s).2 := by
  unfold closeSession
  refine ⟨hnd, fun d => ?_, by simp, by simp, by simp, by simp [Stream.playing]⟩
  have hquiet := (hheld d).quiet [.sessionClose] (by simp [Call.quiet])
  have hclosed := Held.closeAll (o := 0) (by simpa using hquiet) hnd
  simpa using hclosed

/-- A close under its condition stops every device that is started. -/
theorem stopForClose_held (hs : Kept s) (hok : CloseOk e s) (hidle : s.currentState ≠ STREAM_IDLE) :
    (StreamPCM.stopForClose e s).mDevices = s.mDevices ∧
      ∀ d, Held (StreamPCM.stopForClose e s).calls d (once (d ∈ s.mDevices)) 0 := by
  have hplaying : s.playing → (∀ d ∈ s.mDevices, d ∈ stopReach e s) →
      ((StreamPCM.stop e s).2.mDevices = s.mDevices ∧
        ∀ d, Held (StreamPCM.stop e s).2.calls d (once (d ∈ s.mDevices)) 0) := by
    intro hp hreach
    obtain ⟨new, hstop, hheld⟩ := stop_of_playing (e := e) hs hp
    rw [hstop]
    refine ⟨rfl, fun d => ?_⟩
    have hnone : ¬(d ∈ s.mDevices ∧ d ∉ stopReach e s) := fun h => h.2 (hreach d h.1)
    have hd := hheld d
    rw [once_neg hnone] at hd
    exact hd
  have hready : s.playing = false → (∀ d ∈ s.mDevices, s.skips d → d ∈ s.startedEarly) →
      ∀ d, Held (s.calls ++ (s.mDevices.filter s.skips).map .stopDevice) d
        (once (d ∈ s.mDevices)) 0 := by
    intro hp hearly d
    refine Held.stopAll ?_ (hs.nodup.filter _)
    have hd := hs.held d
    have honce : once (d ∈ s.mDevices ∧ d ∈ s.startedEarly) =
        once (d ∈ s.mDevices.filter s.skips) := by
      refine once_congr ?_
      rw [List.mem_filter]
      exact and_congr_right fun hmem => ⟨hs.early d, hearly d hmem⟩
    simpa [hidle, hp, honce] using hd
  unfold StreamPCM.stopForClose
  unfold CloseOk at hok
  cases hcur : s.currentState with
  | STREAM_IDLE => exact absurd hcur hidle
  | STREAM_OPENED => exact absurd hcur hs.state.1
  | STREAM_SUSPENDED => exact absurd hcur hs.state.2
  | STREAM_INIT | STREAM_STOPPED =>
    rw [hcur] at hok
    exact ⟨rfl, hready (by simp [Stream.playing, hcur]) hok⟩
  | STREAM_STARTED | STREAM_PAUSED =>
    rw [hcur] at hok
    refine hplaying (by simp [Stream.playing, hcur]) fun d hd => ?_
    unfold stopReach
    cases hdir : s.direction with
    | PAL_AUDIO_OUTPUT =>
      rw [hdir] at hok
      have hall : StreamPCM.stoppedOutputs s = s.mDevices :=
        List.filter_eq_self.mpr fun d hd => by simp [hok.1 d hd]
      dsimp only
      rw [hall, reached_of_failsOnlyLast hok.2]
      exact hd
    | PAL_AUDIO_INPUT => exact hd
    | PAL_AUDIO_INPUT_OUTPUT =>
      rw [hdir] at hok
      dsimp only
      rw [reached_of_failsOnlyLast hok.2]
      exact mem_directed hok.1 hd
    | unsupported =>
      rw [hdir] at hok
      rw [show s.mDevices = [] from hok] at hd
      cases hd

theorem close_kept (hs : Kept s) (hok : CloseOk e s) : Kept (StreamPCM.close e s).2 := by
  unfold StreamPCM.close
  by_cases hidle : s.currentState = STREAM_IDLE
  · rw [if_pos hidle]
    exact hs
  · rw [if_neg hidle]
    obtain ⟨hdevices, hheld⟩ := stopForClose_held hs hok hidle
    refine closeSession_kept ?_ ?_
    · rw [hdevices]
      exact hs.nodup
    · rw [hdevices]
      exact hheld

end Stop

end AudioReachPal.Streams
