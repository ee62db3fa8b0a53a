import AudioReachPal.Streams.PcmKept

/-!
# The devices of a PCM stream

A start keeps the devices where a loop that fails leaves nothing started, where a memory mapped
stream has started what it skips, and where the session that fails finds no device that was started
for the buffer. With that every request keeps them under a condition of its own, and so does a run
whose requests all meet theirs.
-/

namespace AudioReachPal.Streams

open AudioReachPal.Lib
open AudioReachPal.StStream (stream_state_t)
open AudioReachPal.StStream.stream_state_t

/-! ### Starting -/

section Start

variable (e : Env) (s : Stream)

/-- The session is not started. -/
def SessionFails : Prop := e.sessionPrepare ≠ 0 ∨ e.errno = -ENETRESET ∨ e.sessionStart ≠ 0

/-- A reset of the sound card at the start of the session leaves a failure as the status: some
device fails to stop. -/
def ResetOk (ds : List pal_device_id_t) : Prop :=
  e.sessionPrepare = 0 → e.errno = -ENETRESET → ∃ d ∈ ds, e.stopDevice d ≠ 0

/-- The devices of a stream that starts on outputs, after those that fail are given up. -/
def startedOutputs : List pal_device_id_t :=
  s.mDevices.filter fun d => s.skips d || e.startDevice d == 0

/-- The stream `s` is the one that is left of the Bluetooth route. -/
def StartOutputOk : Prop :=
  (∀ d ∈ s.mDevices, s.skips d → d ∈ s.startedEarly) ∧
    (startedOutputs e s ≠ [] → (SessionFails e → ∀ d ∈ s.mDevices, s.skips d = false) ∧
      ResetOk e (startedOutputs e s))

/-- `ds` are the devices that the loop goes over. -/
def StartLoopOk (ds : List pal_device_id_t) : Prop :=
  (∃ d, ds.head? = some d ∧ e.startDevice d ≠ 0) ∨
    ∀ d ∈ ds, e.startDevice d = 0 ∧ d ∉ s.startedEarly

/-- A start that leaves no device started when it fails, and that leaves no device out. -/
def StartOk : Prop :=
  s.currentState = STREAM_INIT ∨ s.currentState = STREAM_STOPPED → match s.direction with
    | .PAL_AUDIO_OUTPUT =>
      Kept (StreamPCM.routed e s) ∧
        ((e.handleBTDeviceNotReady s).status = 0 → StartOutputOk e (StreamPCM.routed e s))
    | .PAL_AUDIO_INPUT =>
      StartLoopOk e s s.mDevices ∧
        ((∀ d ∈ s.mDevices, e.startDevice d = 0) → ResetOk e s.mDevices)
    | .PAL_AUDIO_INPUT_OUTPUT =>
      let outs := s.mDevices.filter isOutDevice
      let ins := s.mDevices.filter isInDevice
      StartLoopOk e s outs ∧ ((∀ d ∈ outs, e.startDevice d = 0) → StartLoopOk e s ins ∧
        ((∃ d ∈ ins, e.startDevice d ≠ 0) → FailsOnlyLast e.stopDevice outs) ∧
        ((∀ d ∈ ins, e.startDevice d = 0) → Directed s ∧ ResetOk e s.mDevices))
    | .unsupported => ∀ d ∈ s.mDevices, d ∈ s.startedEarly

variable {e s}

/-- A stream about to start its session, with all its devices started. -/
structure Up (s : Stream) : Prop where
  nodup : s.mDevices.Nodup
  held : ∀ d, Held s.calls d (once (d ∈ s.mDevices)) (once (d ∈ s.mDevices))
  state : s.currentState = STREAM_INIT ∨ s.currentState = STREAM_STOPPED
  early : ∀ d ∈ s.startedEarly, s.skips d
  skipped : s.direction = .PAL_AUDIO_OUTPUT → ∀ d ∈ s.mDevices, s.skips d → d ∈ s.startedEarly

theorem Up.alike {t : Stream} (hs : Up s) (h : Alike s t) : Up t := by
  constructor
  · rw [h.mDevices]
    exact hs.nodup
  · intro d
    rw [h.mDevices]
    exact h.held (hs.held d)
  · rw [h.currentState]
    exact hs.state
  · intro d
    rw [h.startedEarly, h.skips]
    exact hs.early d
  · rw [h.direction, h.mDevices, h.startedEarly]
    intro hout d
    rw [h.skips]
    exact hs.skipped hout d

theorem Up.started_kept (hs : Up s) (status : ℤ) : Kept (StreamPCM.started status s).2 := by
  unfold StreamPCM.started
  refine ⟨hs.nodup, fun d => ?_, by simp, by simp, hs.early, fun _ => hs.skipped⟩
  have hd := (hs.held d).quiet (s.mDevices.map .registerDevice) (by simp [Call.quiet])
  simpa [Stream.playing] using hd

/-- The failure of a session stops every device. -/
theorem Up.sessionFail_kept (hs : Up s) (hearly : ∀ d ∈ s.mDevices, d ∉ s.startedEarly)
    (status : ℤ) : Kept (sessionFail e s status).2 := by
  have hidle : s.currentState ≠ STREAM_IDLE := by
    rcases hs.state with h | h <;> simp [h]
  have hplaying : s.playing = false := by
    rcases hs.state with h | h <;> simp [Stream.playing, h]
  unfold sessionFail
  refine ⟨hs.nodup, fun d => ?_, ?_, fun h => absurd h hidle, hs.early, fun h => ?_⟩
  · have hd := Held.stopAll (p := 0) (by simpa using hs.held d) hs.nodup
    have hnone : ¬(d ∈ s.mDevices ∧ d ∈ s.startedEarly) := fun h => hearly d h.1 h.2
    have hplaying' : (s.log (s.mDevices.map .stopDevice)).playing = false := hplaying
    simpa [hidle, hplaying', once_neg hnone] using hd
  · rcases hs.state with h | h <;> simp [h]
  · change s.playing = true at h
    rw [hplaying] at h
    cases h

/-- **The end of a start.** With all devices started, the session starts, or every device stops. -/
theorem Up.startSession_kept (hs : Up s)
    (hfails : SessionFails e → ∀ d ∈ s.mDevices, d ∉ s.startedEarly)
    (hreset : ResetOk e s.mDevices) {done : Stream → ℤ × Stream}
    (hdone : ∀ t, Alike s t → ∃ u, Alike t u ∧ done t = StreamPCM.started 0 u) :
    Kept (startSession e s StreamPCM.cacheStarted done).2 ∧
      ((startSession e s StreamPCM.cacheStarted done).1 = 0 →
        (startSession e s StreamPCM.cacheStarted done).2.currentState = STREAM_STARTED) := by
  have hfail : SessionFails e → ∀ t status, Alike s t → (status = 0 → ∃ d ∈ s.mDevices,
      e.stopDevice d ≠ 0) → Kept (sessionFail e t status).2 ∧ ((sessionFail e t status).1 = 0 →
        (sessionFail e t status).2.currentState = STREAM_STARTED) := by
    intro hsession t status ht hstatus
    constructor
    · refine (hs.alike ht).sessionFail_kept ?_ status
      rw [ht.mDevices, ht.startedEarly]
      exact hfails hsession
    · intro hzero
      obtain ⟨hst, hall⟩ := lastFailure_eq_zero.mp hzero
      obtain ⟨d, hd, hstop⟩ := hstatus hst
      rw [ht.mDevices] at hall
      exact absurd (hall d hd) hstop
  have hprepared : Alike s (s.log [.sessionPrepare e.sessionPrepare]) :=
    Alike.log (by simp [Call.quiet])
  have hstarted : Alike s ((s.log [.sessionPrepare e.sessionPrepare]).log
      [.sessionStart e.sessionStart]) := hprepared.trans (Alike.log (by simp [Call.quiet]))
  unfold startSession
  by_cases hprepare : e.sessionPrepare ≠ 0
  · rw [if_pos hprepare]
    exact hfail (Or.inl hprepare) _ _ hprepared fun h => absurd h hprepare
  rw [if_neg hprepare]
  by_cases herrno : e.errno = -ENETRESET
  · dsimp only
    rw [if_pos herrno]
    have hcached : ∀ t, Alike s t → Alike s (StreamPCM.cacheStarted t) :=
      fun t ht => ht.trans ⟨rfl, rfl, rfl, rfl, rfl, id⟩
    exact hfail (Or.inr (Or.inl herrno)) _ _ (hcached _ hstarted)
      fun _ => hreset (not_not.mp hprepare) herrno
  dsimp only
  rw [if_neg herrno]
  by_cases hstart : e.sessionStart ≠ 0
  · rw [if_pos hstart]
    exact hfail (Or.inr (Or.inr hstart)) _ _ hstarted fun h => absurd h hstart
  rw [if_neg hstart]
  obtain ⟨u, hu, hdone⟩ := hdone _ hstarted
  rw [hdone]
  exact ⟨(hs.alike (hstarted.trans hu)).started_kept 0, fun _ => rfl⟩

/-- A loop of starts, of which only the first may fail. -/
theorem startLoop_held {ds : List pal_device_id_t} (hok : StartLoopOk e s ds) (hnd : ds.Nodup)
    {d : pal_device_id_t} {calls : List Call} {o p : ℕ} (h : Held calls d o p) :
    Held (calls ++ (reached e.startDevice ds).map fun d => .startDevice d (e.startDevice d)) d o
      (p + if firstFailure e.startDevice ds = 0 then once (d ∈ ds) else 0) := by
  have hfirst : FailsOnlyFirst e.startDevice ds := hok.imp_right fun h d hd => (h d hd).1
  have hheld := h.startAll (hnd.sublist (reached_sublist (f := e.startDevice))) e.startDevice
  by_cases hfail : firstFailure e.startDevice ds = 0
  · have hall := firstFailure_eq_zero.mp hfail
    rw [if_pos hfail]
    rw [reached_of_all hall, once_congr (and_iff_left_of_imp (hall d))] at hheld
    rw [reached_of_all hall]
    exact hheld
  · have hnone : ¬(d ∈ reached e.startDevice ds ∧ e.startDevice d = 0) :=
      fun h => failed_of_mem_reached hfirst hfail d h.1 h.2
    rw [if_neg hfail]
    rw [once_neg hnone] at hheld
    exact hheld

theorem StartLoopOk.notMem_early {ds : List pal_device_id_t} (hok : StartLoopOk e s ds)
    (hall : ∀ d ∈ ds, e.startDevice d = 0) : ∀ d ∈ ds, d ∉ s.startedEarly := by
  rcases hok with ⟨x, hx, hfail⟩ | h
  · exact absurd (hall x (List.mem_of_mem_head? hx)) hfail
  · exact fun d hd => (h d hd).2

/-- A stream that is not started, and not idle. -/
structure Ready (s : Stream) : Prop where
  kept : Kept s
  state : s.currentState = STREAM_INIT ∨ s.currentState = STREAM_STOPPED

namespace Ready

theorem idle (h : Ready s) : s.currentState ≠ STREAM_IDLE := by
  rcases h.state with h | h <;> simp [h]

theorem playing (h : Ready s) : s.playing = false := by
  rcases h.state with h | h <;> simp [Stream.playing, h]

theorem held (h : Ready s) (d : pal_device_id_t) :
    Held s.calls d (once (d ∈ s.mDevices)) (once (d ∈ s.mDevices ∧ d ∈ s.startedEarly)) := by
  simpa [h.idle, h.playing] using h.kept.held d

/-- The calls of a start that does not skip any device. -/
theorem up (h : Ready s) (hdir : s.direction ≠ .PAL_AUDIO_OUTPUT) {new : List Call}
    (hheld : ∀ d, Held (s.calls ++ new) d (once (d ∈ s.mDevices)) (once (d ∈ s.mDevices))) :
    Up (s.log new) :=
  ⟨h.kept.nodup, hheld, h.state, h.kept.early, fun hout => absurd hout hdir⟩

end Ready

theorem startInputStream_kept (hs : Ready s) (hdir : s.direction = .PAL_AUDIO_INPUT)
    (hloop : StartLoopOk e s s.mDevices)
    (hreset : (∀ d ∈ s.mDevices, e.startDevice d = 0) → ResetOk e s.mDevices) :
    Kept (StreamPCM.startInputStream e s).2 ∧ ((StreamPCM.startInputStream e s).1 = 0 →
      (StreamPCM.startInputStream e s).2.currentState = STREAM_STARTED) := by
  unfold StreamPCM.startInputStream
  dsimp only
  by_cases hfail : firstFailure e.startDevice s.mDevices ≠ 0
  · rw [if_pos hfail]
    refine ⟨hs.kept.log fun d o p h => ?_, fun h => absurd h hfail⟩
    simpa [hfail] using startLoop_held hloop hs.kept.nodup h
  · rw [if_neg hfail]
    have hall := firstFailure_eq_zero.mp (not_not.mp hfail)
    have hearly := hloop.notMem_early hall
    have hup := hs.up (by simp [hdir]) fun d => by
      have hnone : ¬(d ∈ s.mDevices ∧ d ∈ s.startedEarly) := fun h => hearly d h.1 h.2
      simpa [not_not.mp hfail, once_neg hnone] using
        startLoop_held hloop hs.kept.nodup (hs.held d)
    exact hup.startSession_kept (fun _ => hearly) (hreset hall) fun t _ => ⟨t, Alike.refl t, rfl⟩

/-- The output and the input devices of a stream, counted apart. -/
theorem once_directed (h : Directed s) (d : pal_device_id_t) :
    once (d ∈ s.mDevices) =
      once (d ∈ s.mDevices.filter isOutDevice) + once (d ∈ s.mDevices.filter isInDevice) := by
  by_cases hd : d ∈ s.mDevices
  · by_cases hout : isOutDevice d = true
    · have hin := not_isInDevice_of_isOutDevice hout
      simp [once, hd, hout, hin]
    · have hin := (h d hd).resolve_left hout
      simp [once, hd, hout, hin]
  · simp [once, hd]

theorem startLoopbackStream_kept (hs : Ready s) (hdir : s.direction = .PAL_AUDIO_INPUT_OUTPUT)
    (hok : StartOk e s) :
    Kept (StreamPCM.startLoopbackStream e s).2 ∧ ((StreamPCM.startLoopbackStream e s).1 = 0 →
      (StreamPCM.startLoopbackStream e s).2.currentState = STREAM_STARTED) := by
  have hok := hok hs.state
  rw [hdir] at hok
  obtain ⟨houts, hrest⟩ := hok
  have hndOut : (s.mDevices.filter isOutDevice).Nodup := hs.kept.nodup.filter _
  have hndIn : (s.mDevices.filter isInDevice).Nodup := hs.kept.nodup.filter _
  unfold StreamPCM.startLoopbackStream
  dsimp only
  by_cases hfail : firstFailure e.startDevice (s.mDevices.filter isOutDevice) ≠ 0
  · rw [if_pos hfail]
    refine ⟨hs.kept.log fun d o p h => ?_, fun h => absurd h hfail⟩
    simpa [hfail] using startLoop_held houts hndOut h
  rw [if_neg hfail]
  have hallOut := firstFailure_eq_zero.mp (not_not.mp hfail)
  obtain ⟨hins, hstops, hsession⟩ := hrest hallOut
  have hstarted : ∀ d o p, Held s.calls d o p → Held (s.calls ++ (reached e.startDevice
      (s.mDevices.filter isOutDevice)).map fun d => .startDevice d (e.startDevice d)) d o
      (p + once (d ∈ s.mDevices.filter isOutDevice)) := by
    intro d o p h
    simpa [not_not.mp hfail] using startLoop_held houts hndOut h
  by_cases hfailIn : firstFailure e.startDevice (s.mDevices.filter isInDevice) ≠ 0
  · -- the first input device fails: the output devices are all stopped again
    rw [if_pos hfailIn, Stream.log_log, Stream.log_log]
    refine ⟨hs.kept.log fun d o p h => ?_, fun h => absurd h hfailIn⟩
    have hin := startLoop_held hins hndIn (hstarted d o p h)
    rw [if_neg hfailIn, Nat.add_zero] at hin
    have hfailed : ∃ d ∈ s.mDevices.filter isInDevice, e.startDevice d ≠ 0 := by
      by_contra hno
      exact hfailIn (firstFailure_eq_zero.mpr (by simpa using hno))
    rw [reached_of_failsOnlyLast (hstops hfailed)]
    simpa using hin.stopAll hndOut
  · rw [if_neg hfailIn, Stream.log_log]
    have hallIn := firstFailure_eq_zero.mp (not_not.mp hfailIn)
    obtain ⟨hdirected, hreset⟩ := hsession hallIn
    have hearly : ∀ d ∈ s.mDevices, d ∉ s.startedEarly := by
      intro d hd
      rcases hdirected d hd with h | h
      · exact houts.notMem_early hallOut d (List.mem_filter.mpr ⟨hd, h⟩)
      · exact hins.notMem_early hallIn d (List.mem_filter.mpr ⟨hd, h⟩)
    have hup := hs.up (by simp [hdir]) fun d => by
      have hnone : ¬(d ∈ s.mDevices ∧ d ∈ s.startedEarly) := fun h => hearly d h.1 h.2
      have hin := startLoop_held hins hndIn (hstarted d _ _ (hs.held d))
      rw [if_pos (not_not.mp hfailIn), once_neg hnone, Nat.zero_add,
        ← once_directed hdirected, List.append_assoc] at hin
      exact hin
    exact hup.startSession_kept (fun _ => hearly) hreset fun t _ => ⟨t, Alike.refl t, rfl⟩

/-- The loop over the output devices leaves the stream the devices that are started. -/
theorem startOutputs_held (hs : Ready s)
    (hearly : ∀ d ∈ s.mDevices, s.skips d → d ∈ s.startedEarly) (d : pal_device_id_t) :
    Held (startOutputs e s s.skips).calls d (once (d ∈ startedOutputs e s))
      (once (d ∈ startedOutputs e s)) := by
  have hskip : ∀ d ∈ s.mDevices, (s.skips d = true ↔ d ∈ s.startedEarly) :=
    fun d hd => ⟨hearly d hd, hs.kept.early d⟩
  have hopen : once (d ∈ s.mDevices) = once (d ∈ startedOutputs e s) +
      once (d ∈ s.mDevices ∧ s.skips d = false ∧ e.startDevice d ≠ 0) := by
    unfold startedOutputs
    by_cases hd : d ∈ s.mDevices <;> by_cases hk : s.skips d = true <;>
      by_cases hf : e.startDevice d = 0 <;> simp [once, hd, hk, hf]
  have hstart : once (d ∈ s.mDevices ∧ d ∈ s.startedEarly) +
      once (d ∈ s.mDevices ∧ s.skips d = false ∧ e.startDevice d = 0) =
        once (d ∈ startedOutputs e s) := by
    unfold startedOutputs
    by_cases hd : d ∈ s.mDevices
    · by_cases hk : s.skips d = true <;> by_cases hf : e.startDevice d = 0 <;>
        simp [once, hd, hk, hf, ← hskip d hd]
    · simp [once, hd]
  have hheld := hs.held d
  rw [hopen] at hheld
  have hstarted := hheld.startOutputs hs.kept.nodup
  rw [hstart] at hstarted
  exact hstarted

theorem startOutputDevices_kept (hs : Ready s) (hok : StartOutputOk e s) (a2dpSuspend : Bool) :
    Kept (StreamPCM.startOutputDevices e s a2dpSuspend).2 ∧
      ((StreamPCM.startOutputDevices e s a2dpSuspend).1 = 0 →
        (StreamPCM.startOutputDevices e s a2dpSuspend).2.currentState = STREAM_STARTED) := by
  obtain ⟨hearly, hsession⟩ := hok
  have hnd : (startedOutputs e s).Nodup := hs.kept.nodup.filter _
  have hheld := startOutputs_held (e := e) hs hearly
  unfold StreamPCM.startOutputDevices
  by_cases hempty : s.mDevices = []
  · rw [if_pos hempty]
    exact ⟨hs.kept, fun h => by simp [EINVAL] at h⟩
  rw [if_neg hempty]
  dsimp only
  by_cases hnone : startedOutputs e s = []
  · -- no device is left
    have hdevices : (startOutputs e s s.skips).mDevices = [] := hnone
    rw [if_pos hdevices]
    refine ⟨⟨hnd, fun d => ?_, hs.kept.state, hs.kept.idle, hs.kept.early, ?_⟩, fun h => ?_⟩
    · have hd := hheld d
      simp only [hnone, List.not_mem_nil] at hd
      simpa [hdevices] using hd
    · intro hp
      change s.playing = true at hp
      rw [hs.playing] at hp
      cases hp
    · obtain ⟨-, hall⟩ := lastFailure_eq_zero.mp h
      obtain ⟨d, hd⟩ := List.exists_mem_of_ne_nil _ hempty
      have hstarted : d ∈ startedOutputs e s := List.mem_filter.mpr ⟨hd, by simp [hall d hd]⟩
      rw [hnone] at hstarted
      cases hstarted
  · have hdevices : ¬(startOutputs e s s.skips).mDevices = [] := hnone
    rw [if_neg hdevices]
    obtain ⟨hskips, hreset⟩ := hsession hnone
    have hup : Up (startOutputs e s s.skips) :=
      ⟨hnd, hheld, hs.state, hs.kept.early, fun _ d hd => hearly d (List.mem_of_mem_filter hd)⟩
    refine hup.startSession_kept (fun hfails d hd hmem => ?_) hreset fun t _ =>
      ⟨muteForSuspend e t a2dpSuspend, (VolumeSet.muteForSuspend ..).alike, rfl⟩
    have hskip := hskips hfails d (List.mem_of_mem_filter hd)
    rw [hs.kept.early d hmem] at hskip
    cases hskip

theorem startOutputStream_kept (hcur : s.currentState = STREAM_INIT ∨
    s.currentState = STREAM_STOPPED) (hdir : s.direction = .PAL_AUDIO_OUTPUT) (hok : StartOk e s) :
    Kept (StreamPCM.startOutputStream e s).2 ∧ ((StreamPCM.startOutputStream e s).1 = 0 →
      (StreamPCM.startOutputStream e s).2.currentState = STREAM_STARTED) := by
  have hok := hok hcur
  rw [hdir] at hok
  obtain ⟨hkept, hok⟩ := hok
  unfold StreamPCM.startOutputStream
  dsimp only
  by_cases hroute : (e.handleBTDeviceNotReady s).status ≠ 0
  · rw [if_pos hroute]
    exact ⟨hkept, fun h => absurd h hroute⟩
  · rw [if_neg hroute]
    exact startOutputDevices_kept ⟨hkept, hcur⟩ (hok (not_not.mp hroute)) _

/-- **Starts.** -/
theorem start_kept (hs : Kept s) (hok : StartOk e s) (hcard : e.cardOnline) :
    Kept (StreamPCM.start e s).2 ∧ ((StreamPCM.start e s).1 = 0 →
      (StreamPCM.start e s).2.currentState = STREAM_STARTED) := by
  have hstart : s.currentState = STREAM_INIT ∨ s.currentState = STREAM_STOPPED →
      StreamPCM.start e s = match s.direction with
        | .PAL_AUDIO_OUTPUT => StreamPCM.startOutputStream e s
        | .PAL_AUDIO_INPUT => StreamPCM.startInputStream e s
        | .PAL_AUDIO_INPUT_OUTPUT => StreamPCM.startLoopbackStream e s
        | .unsupported => StreamPCM.started (-EINVAL) s := by
    intro hcur
    unfold StreamPCM.start
    rcases hcur with h | h <;> simp only [hcard, h] <;> cases s.direction <;> rfl
  have hready : s.currentState = STREAM_INIT ∨ s.currentState = STREAM_STOPPED →
      Kept (StreamPCM.start e s).2 ∧ ((StreamPCM.start e s).1 = 0 →
        (StreamPCM.start e s).2.currentState = STREAM_STARTED) := by
    intro hcur
    rw [hstart hcur]
    cases hdir : s.direction with
    | PAL_AUDIO_OUTPUT => exact startOutputStream_kept hcur hdir hok
    | PAL_AUDIO_INPUT =>
      have hok := hok hcur
      rw [hdir] at hok
      exact startInputStream_kept ⟨hs, hcur⟩ hdir hok.1 hok.2
    | PAL_AUDIO_INPUT_OUTPUT => exact startLoopbackStream_kept ⟨hs, hcur⟩ hdir hok
    | unsupported =>
      have hok := hok hcur
      rw [hdir] at hok
      have hearly : ∀ d, once (d ∈ s.mDevices ∧ d ∈ s.startedEarly) = once (d ∈ s.mDevices) :=
        fun d => once_congr (and_iff_left_of_imp (hok d))
      have hup : Up s := by
        refine ⟨hs.nodup, fun d => ?_, hcur, hs.early, fun hout => ?_⟩
        · have hd := Ready.held ⟨hs, hcur⟩ d
          rw [hearly] at hd
          exact hd
        · rw [hdir] at hout
          cases hout
      exact ⟨hup.started_kept _, fun h => by simp [StreamPCM.started, EINVAL] at h⟩
  cases hcur : s.currentState with
  | STREAM_INIT => exact hready (Or.inl hcur)
  | STREAM_STOPPED => exact hready (Or.inr hcur)
  | STREAM_STARTED =>
    have : StreamPCM.start e s = (0, s) := by simp [StreamPCM.start, hcard, hcur]
    rw [this]
    exact ⟨hs, fun _ => hcur⟩
  | STREAM_IDLE | STREAM_OPENED | STREAM_PAUSED | STREAM_SUSPENDED =>
    have : StreamPCM.start e s = (-EINVAL, s) := by simp [StreamPCM.start, hcard, hcur]
    rw [this]
    exact ⟨hs, fun h => by simp [EINVAL] at h⟩

end Start

/-! ### Pausing, writing, and memory mapped buffers -/

section Others

variable (e : Env) (s : Stream)

/-- The stream only turns paused with all its devices started. -/
def PauseOk : Prop :=
  s.isPaused ∨ e.sessionPause = 0 →
    ∀ d ∈ s.mDevices, s.currentState ≠ STREAM_IDLE ∧ (s.playing ∨ d ∈ s.startedEarly)

/-- A buffer that starts no device again, and that stops what it started when it fails. -/
def MmapOk : Prop :=
  s.currentState = STREAM_INIT →
    (∀ d ∈ StreamPCM.earlyDevices s, e.startDevice d = 0 → d ∉ s.startedEarly) ∧
      (e.sessionCreateMmapBuffer ≠ 0 →
        (∀ d ∈ StreamPCM.earlyDevices s, e.startDevice d ≠ 0) ∨
          (StreamPCM.btDevStarted e s ∧
            ∀ d ∈ StreamPCM.earlyDevices s, (isBtDevice d = true ↔ e.startDevice d = 0)))

variable {e s}

theorem not_started_of_lone (h : s.mDevices.length = 1 ∧ StreamPCM.earlyDevices s ≠ [] ∧
    StreamPCM.btDevStarted e s = false) :
    ∀ d ∈ StreamPCM.earlyDevices s, e.startDevice d ≠ 0 := by
  obtain ⟨hone, hne, hbt⟩ := h
  obtain ⟨x, hx⟩ := List.length_eq_one_iff.mp hone
  have hearly : StreamPCM.earlyDevices s = [x] := by
    unfold StreamPCM.earlyDevices at hne ⊢
    rw [hx] at hne ⊢
    cases hlone : isEarlyDevice x <;> simp [hlone] at hne ⊢
  intro d hd
  rw [hearly] at hd
  rw [List.mem_singleton.mp hd]
  simpa [StreamPCM.btDevStarted, hearly] using hbt

theorem btDevStarted_eq_false (h : ∀ d ∈ StreamPCM.earlyDevices s, e.startDevice d ≠ 0) :
    StreamPCM.btDevStarted e s = false := by
  unfold StreamPCM.btDevStarted
  cases hlast : (StreamPCM.earlyDevices s).getLast? with
  | none => rfl
  | some d => simpa using h d (List.mem_of_getLast? hlast)

theorem pause_kept (hs : Kept s) (hok : PauseOk e s) (hcard : e.cardOnline) :
    Kept (StreamPCM.pause e s).2 := by
  have hpaused : ∀ t : Stream, Alike s t → (s.isPaused ∨ e.sessionPause = 0) →
      Kept { t with isPaused := true, currentState := STREAM_PAUSED } := by
    intro t ht heffect
    have hok := hok heffect
    have hheld : ∀ d, Held t.calls d (once (d ∈ s.mDevices)) (once (d ∈ s.mDevices)) := by
      intro d
      have hd := ht.held (hs.held d)
      rwa [once_congr (and_iff_left_of_imp fun h => (hok d h).1),
        once_congr (and_iff_left_of_imp (hok d))] at hd
    refine ⟨?_, fun d => ?_, by simp, by simp, ?_, ?_⟩
    · rw [ht.mDevices]
      exact hs.nodup
    · simpa [Stream.playing, ht.mDevices] using hheld d
    · intro d hd
      have hd' : d ∈ s.startedEarly := ht.startedEarly ▸ hd
      exact (ht.skips d).trans (hs.early d hd')
    · intro _ hout d hd hskip
      have hd' : d ∈ s.mDevices := ht.mDevices ▸ hd
      have hskip' : s.skips d = true := (ht.skips d).symm.trans hskip
      change d ∈ t.startedEarly
      rw [ht.startedEarly]
      rcases (hok d hd').2 with hp | hearly
      · exact hs.skipped hp (ht.direction.symm.trans hout) d hd' hskip'
      · exact hearly
  unfold StreamPCM.pause
  dsimp only
  rw [if_neg (by simp [hcard])]
  by_cases hflag : s.isPaused = true
  · rw [if_pos hflag]
    exact hpaused s (Alike.refl s) (Or.inl hflag)
  rw [if_neg hflag]
  have hlog : Alike s (s.log [.sessionPause e.sessionPause]) := Alike.log (by simp [Call.quiet])
  by_cases hpause : e.sessionPause ≠ 0
  · rw [if_pos hpause]
    exact hlog.kept hs
  · rw [if_neg hpause]
    exact hpaused _ hlog (Or.inr (not_not.mp hpause))

theorem writeSession_kept (hs : Kept s) (hp : s.playing) (size : ℤ) :
    Kept (StreamPCM.writeSession e s size).2 := by
  have hlog : Alike s (s.log [.sessionWrite e.sessionWrite]) := Alike.log (by simp [Call.quiet])
  unfold StreamPCM.writeSession
  dsimp only
  by_cases hwrite : e.sessionWrite ≠ 0
  · rw [if_pos hwrite]
    exact hlog.kept hs
  rw [if_neg hwrite]
  by_cases hresumed : s.currentState = STREAM_PAUSED ∧ s.isPaused = false
  · rw [if_pos hresumed, Stream.log_log]
    have hregistered : Alike s (s.log ([.sessionWrite e.sessionWrite] ++
        s.mDevices.map .registerDevice)) := Alike.log (by simp [Call.quiet])
    refine ⟨hs.nodup, fun d => ?_, by simp, by simp, hs.early, fun _ => hs.skipped hp⟩
    have hd := hregistered.held (hs.held_of_playing hp d)
    simpa [Stream.playing] using hd
  · rw [if_neg hresumed]
    exact hlog.kept hs

theorem write_kept (hs : Kept s) (size : ℤ) : Kept (StreamPCM.write e s size).2 := by
  unfold StreamPCM.write
  by_cases hdrop : (!e.cardOnline) = true ∨ s.cachedState ≠ STREAM_IDLE ∨ s.a2dpPaused = true
  · rw [if_pos hdrop]
    exact hs
  rw [if_neg hdrop]
  cases hcur : s.currentState with
  | STREAM_STARTED => exact writeSession_kept hs (playing_iff.mpr (Or.inl hcur)) size
  | STREAM_PAUSED => exact writeSession_kept hs (playing_iff.mpr (Or.inr hcur)) size
  | _ => exact hs

theorem createMmapBuffer_kept (hs : Kept s) (hok : MmapOk e s) :
    Kept (StreamPCM.createMmapBuffer e s).2 := by
  unfold StreamPCM.createMmapBuffer
  by_cases hcur : s.currentState ≠ STREAM_INIT
  · rw [if_pos hcur]
    exact hs
  rw [if_neg hcur]
  have hcur := not_not.mp hcur
  obtain ⟨hagain, hfail⟩ := hok hcur
  have hstarted : ∀ d o p, Held s.calls d o p → Held (s.calls ++ (StreamPCM.earlyDevices s).map
      fun d => .startDevice d (e.startDevice d)) d o
        (p + once (d ∈ StreamPCM.earlyDevices s ∧ e.startDevice d = 0)) :=
    fun d o p h => h.startAll (hs.nodup.filter _) e.startDevice
  have hnone : (∀ d ∈ StreamPCM.earlyDevices s, e.startDevice d ≠ 0) →
      ∀ d, ¬(d ∈ StreamPCM.earlyDevices s ∧ e.startDevice d = 0) := fun h d hd => h d hd.1 hd.2
  dsimp only
  by_cases hlone : s.mDevices.length = 1 ∧ StreamPCM.earlyDevices s ≠ [] ∧
      StreamPCM.btDevStarted e s = false
  · -- the only device fails to start
    rw [if_pos hlone]
    refine hs.log fun d o p h => ?_
    simpa [once_neg (hnone (not_started_of_lone hlone) d)] using hstarted d o p h
  rw [if_neg hlone]
  by_cases hcreate : e.sessionCreateMmapBuffer ≠ 0
  · rw [if_pos hcreate, Stream.log_log, Stream.log_log]
    refine hs.log fun d o p h => ?_
    have hcreated := (hstarted d o p h).quiet
      [.sessionCreateMmapBuffer e.sessionCreateMmapBuffer] (by simp [Call.quiet])
    rcases hfail hcreate with hno | ⟨hbt, hiff⟩
    · rw [btDevStarted_eq_false hno]
      simpa [once_neg (hnone hno d)] using hcreated
    · rw [if_pos hbt]
      have honce : once (d ∈ StreamPCM.earlyDevices s ∧ e.startDevice d = 0) =
          once (d ∈ s.mDevices.filter isBtDevice) := by
        refine once_congr ⟨fun hd => ?_, fun hd => ?_⟩
        · exact List.mem_filter.mpr ⟨List.mem_of_mem_filter hd.1, (hiff d hd.1).mpr hd.2⟩
        · obtain ⟨hmem, hbt⟩ := List.mem_filter.mp hd
          have hearly : d ∈ StreamPCM.earlyDevices s :=
            List.mem_filter.mpr ⟨hmem, by simp [isEarlyDevice, hbt]⟩
          exact ⟨hearly, (hiff d hearly).mp hbt⟩
      rw [honce] at hcreated
      simpa using hcreated.stopAll (hs.nodup.filter _)
  · rw [if_neg hcreate]
    refine ⟨hs.nodup, fun d => ?_, hs.state, fun hidle => ?_, fun d hd => ?_, fun hp => ?_⟩
    · have hready := (hstarted d _ _ (Ready.held ⟨hs, Or.inl hcur⟩ d)).quiet
        [.sessionCreateMmapBuffer e.sessionCreateMmapBuffer] (by simp [Call.quiet])
      have honce : once (d ∈ s.mDevices ∧ d ∈ s.startedEarly) +
            once (d ∈ StreamPCM.earlyDevices s ∧ e.startDevice d = 0) =
          once (d ∈ s.mDevices ∧ (d ∈ s.startedEarly ∨
            d ∈ StreamPCM.earlyDevices s ∧ e.startDevice d = 0)) := by
        by_cases hnew : d ∈ StreamPCM.earlyDevices s ∧ e.startDevice d = 0
        · have hold := hagain d hnew.1 hnew.2
          have hmem : d ∈ s.mDevices := List.mem_of_mem_filter hnew.1
          simp [once, hnew, hold, hmem]
        · simp [once, hnew]
      rw [honce] at hready
      simpa [Stream.playing, hcur] using hready
    · change s.currentState = STREAM_IDLE at hidle
      rw [hcur] at hidle
      cases hidle
    · rcases List.mem_append.mp hd with hd | hd
      · have hskip := hs.early d hd
        simp only [Stream.skips, Bool.and_eq_true] at hskip
        simp [Stream.skips, hskip.1]
      · have hearly := List.of_mem_filter (List.mem_of_mem_filter hd)
        simp [Stream.skips, hearly]
    · change s.playing = true at hp
      rcases playing_iff.mp hp with h | h <;> rw [hcur] at h <;> cases h

end Others

/-! ### Runs of requests -/

namespace StreamPCM

/-- What a client asks of a stream. -/
inductive Request where
  | open
  | start
  | stop
  | pause
  | resume
  | createMmapBuffer
  | close
  | setVolume (volume : Option pal_volume_data)
  | write (size : ℤ)
  deriving DecidableEq, Repr

namespace Request

def call (e : Env) (s : Stream) : Request → ℤ × Stream
  | .open => StreamPCM.open e s
  | .start => StreamPCM.start e s
  | .stop => StreamPCM.stop e s
  | .pause => StreamPCM.pause e s
  | .resume => StreamPCM.resume e s
  | .createMmapBuffer => StreamPCM.createMmapBuffer e s
  | .close => StreamPCM.close e s
  | .setVolume volume => StreamPCM.setVolume e s volume
  | .write size => StreamPCM.write e s size

/-- A request that keeps the devices of the stream. -/
def DevicesOk (e : Env) (s : Stream) : Request → Prop
  | .open => OpenOk e s
  | .start => StartOk e s
  | .stop => stopOk e s
  | .pause => PauseOk e s
  | .createMmapBuffer => MmapOk e s
  | .close => CloseOk e s
  | .resume | .setVolume _ | .write _ => True

/-- An open returns 0 in `STREAM_INIT` only, a start in `STREAM_STARTED` only. -/
def Returned (r : Request) (result : ℤ × Stream) : Prop :=
  result.1 = 0 → (r = .open → result.2.currentState = STREAM_INIT) ∧
    (r = .start → result.2.currentState = STREAM_STARTED)

end Request

def step (s : Stream) (i : Request × Env) : Option Stream := some (i.1.call i.2 s).2

variable {e : Env} {s : Stream}

/-- **The step.** With the sound card online, a request that meets its condition keeps the devices,
and what it returns is true. -/
theorem call_kept (hs : Kept s) (hcard : e.cardOnline) (r : Request) (hok : r.DevicesOk e s) :
    Kept (r.call e s).2 ∧ r.Returned (r.call e s) := by
  cases r with
  | «open» =>
    obtain ⟨hkept, hret⟩ := openStream_kept hs hok
    exact ⟨hkept, fun h => ⟨fun _ => hret h, by simp⟩⟩
  | start =>
    obtain ⟨hkept, hret⟩ := start_kept hs hok hcard
    exact ⟨hkept, fun h => ⟨by simp, fun _ => hret h⟩⟩
  | stop => exact ⟨stop_kept hs hok, fun _ => by simp⟩
  | pause => exact ⟨pause_kept hs hok hcard, fun _ => by simp⟩
  | resume =>
    have hresume : StreamPCM.resume e s = resumeSession e s := by
      unfold StreamPCM.resume
      rw [if_neg (by simp [hcard])]
    refine ⟨?_, fun _ => by simp⟩
    change Kept (StreamPCM.resume e s).2
    rw [hresume]
    exact (Alike.resumeSession e s).kept hs
  | createMmapBuffer => exact ⟨createMmapBuffer_kept hs hok, fun _ => by simp⟩
  | close => exact ⟨close_kept hs hok, fun _ => by simp⟩
  | setVolume volume => exact ⟨(VolumeSet.setVolume e volume).alike.kept hs, fun _ => by simp⟩
  | write size => exact ⟨write_kept hs size, fun _ => by simp⟩

theorem createStream_kept {direction : pal_stream_direction_t} {devices : List pal_device_id_t}
    (hnd : devices.Nodup) : Kept (createStream direction devices) :=
  ⟨hnd, fun d => by simpa [createStream] using Held.nil, by simp [createStream], fun _ => rfl,
    by simp [createStream], by simp [createStream, Stream.playing]⟩

/-- **The device balance of a PCM stream.** In a run with the sound card online whose requests all
meet their conditions, the devices are balanced after every request, and what an open or a start
returns is true. -/
theorem requests_balanced {direction : pal_stream_direction_t} {devices : List pal_device_id_t}
    (hnd : devices.Nodup) {is : List (Request × Env)}
    (hcard : ∀ i ∈ is, i.2.cardOnline)
    (hok : Meets step (fun s i => i.1.DevicesOk i.2 s) (createStream direction devices) is) :
    (∀ js s, js <+: is → run step (createStream direction devices) js = some s → Balanced s) ∧
      ∀ js i s, js ++ [i] <+: is → run step (createStream direction devices) js = some s →
        i.1.Returned (i.1.call i.2 s) := by
  have hmeets := hok.and_forall hcard
  have hstep : ∀ (s : Stream) (i : Request × Env) (t : Stream),
      i.2.cardOnline = true ∧ i.1.DevicesOk i.2 s → Kept s → step s i = some t → Kept t := by
    rintro s i _ ⟨hcard, hok⟩ hs ⟨⟩
    exact (call_kept hs hcard i.1 hok).1
  have hkept : ∀ js s, js <+: is → run step (createStream direction devices) js = some s → Kept s := by
    rintro js s ⟨ks, rfl⟩ hs
    exact run_invariant_of_meets hstep hmeets.of_append (createStream_kept hnd) hs
  refine ⟨fun js s hjs hs => (hkept js s hjs hs).balanced, ?_⟩
  rintro js i s ⟨ks, rfl⟩ hs
  have hs' := hkept js s ⟨i :: ks, by simp⟩ hs
  rw [List.append_assoc, List.singleton_append] at hmeets
  obtain ⟨hcard, hok⟩ := hmeets.after hs
  exact (call_kept hs' hcard i.1 hok).2

/-- A recording from two devices. The first device does not open, and then does not start; the next
open and start succeed, and the recording is stopped and closed. -/
def recording : List (Request × Env) :=
  [(.open, { openDevice := fun d => if d = 32 then - EIO else 0 }), (.open, {}),
    (.start, { startDevice := fun d => if d = 32 then - EIO else 0 }), (.start, {}), (.stop, {}),
    (.close, {})]

theorem recording_balanced :
    ∃ s, run step (createStream .PAL_AUDIO_INPUT [32, 33]) recording = some s ∧
      s.currentState = STREAM_IDLE ∧ Balanced s := by
  have hok : Meets step (fun s i => i.1.DevicesOk i.2 s)
      (createStream .PAL_AUDIO_INPUT [32, 33]) recording := by
    refine meets_cons_of_some ?_ rfl <| meets_cons_of_some ?_ rfl <| meets_cons_of_some ?_ rfl <|
      meets_cons_of_some ?_ rfl <| meets_cons_of_some ?_ rfl <| meets_cons_of_some ?_ rfl trivial
    · refine fun _ _ => ⟨Or.inl ⟨32, rfl, by decide⟩, fun hall => ?_⟩
      exact absurd (hall 32 (by decide)) (by decide)
    · exact fun _ _ => ⟨Or.inr (fun _ _ => rfl), fun _ => Or.inl rfl⟩
    · refine fun _ => ⟨Or.inl ⟨32, rfl, by decide⟩, fun hall => ?_⟩
      exact absurd (hall 32 (by decide)) (by decide)
    · refine fun _ => ⟨Or.inr fun _ _ => ⟨rfl, List.not_mem_nil⟩, fun _ _ herrno => ?_⟩
      exact absurd herrno (by decide)
    · exact fun _ _ _ => List.not_mem_nil
    · intro d _ hskip
      change (isEarlyDevice d && false) = true at hskip
      rw [Bool.and_false] at hskip
      cases hskip
  refine ⟨_, rfl, rfl, ?_⟩
  exact (requests_balanced (by decide) (by decide) hok).1 _ _ (List.prefix_refl _) rfl

/-- A second device that does not open leaves the first one open, in `STREAM_IDLE`. -/
theorem opened_while_idle : ¬∀ (direction : pal_stream_direction_t) (devices : List pal_device_id_t)
    (is : List (Request × Env)), devices.Nodup → (∀ i ∈ is, i.2.cardOnline) →
      ∀ s, run step (createStream direction devices) is = some s → Balanced s := by
  intro h
  have hbalanced := h .PAL_AUDIO_OUTPUT [2, 4]
    [(.open, { openDevice := fun d => if d = 4 then - EIO else 0 })] (by decide) (by simp) _ rfl
  exact absurd (hbalanced.opened 2 (by decide)) (by decide)

end StreamPCM

end AudioReachPal.Streams
