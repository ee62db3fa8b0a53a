import AudioReachPal.StStream.Total
import AudioReachPal.Lib.Runs
import Mathlib.Tactic.MkIffOfInductiveProp
import Mathlib.Tactic.SplitIfs

/-!
# A switch between LPI and NLPI

The two halves of a switch, `handleConcurrentStream(false)` and `handleConcurrentStream(true)`. Each
asks for the current capture profile and compares it with the stream's own, which only the second
half changes: the first half unloads the first stage when the profile is another one, and the second
one loads it again when the profile is another one. Where all that is asked for succeeds, `switch_iff`
says exactly from which states, and for which profiles, the stream is where it has to be afterwards.
-/

namespace AudioReachPal.StStream

open AudioReachPal.Lib

open st_state_id_t st_module_type_t stream_state_t StEvent

/-- What the engines, the devices and the resource manager are asked for succeeds, and the capture
profile is the same whenever it is asked for during the call. -/
structure Env.Succeeds (e : Env) : Prop where
  profile : e.getCurrentCaptureProfile = e.newCaptureProfile
  captureDevice : e.captureDevice.isSome = true
  deviceOpen : e.deviceOpen = 0
  deviceStart : e.deviceStart = 0
  stopRecognition : ∀ i, e.stopRecognition i = 0
  startRecognition : ∀ i, e.startRecognition i = 0
  checkForStartRecognition : e.checkForStartRecognition = 0
  gslLoadSoundModel : e.gslLoadSoundModel = 0
  reconfigureDetectionGraph : e.reconfigureDetectionGraph = 0
  setupSessionDevice : e.setupSessionDevice = 0
  connectSessionDevice : e.connectSessionDevice = 0

namespace StreamSoundTrigger

/-- The stream has a sound model, and the objects made for it. -/
@[mk_iff]
structure ModelLoaded (s : StreamSoundTrigger) : Prop where
  gsl_engine_model_ : s.gsl_engine_model_.isSome = true
  gsl_engine_ : s.gsl_engine_ = true
  sm_cfg_ : s.sm_cfg_ = true
  vui_intf_ : s.vui_intf_ = true

/-- The client's recognition has to run. -/
def Wanted (s : StreamSoundTrigger) : Prop := s.currentState = STREAM_STARTED ∧ s.paused_ = false

instance (s : StreamSoundTrigger) : Decidable s.Wanted := by
  unfold Wanted
  infer_instance

/-- The stream after the first half of a switch has begun. -/
def switching (s : StreamSoundTrigger) : StreamSoundTrigger :=
  { s with common_cp_update_disable_ := true }

end StreamSoundTrigger

open StreamSoundTrigger

/-- The states that a switch is about. -/
def Switchable (state : st_state_id_t) : Prop :=
  state = ST_STATE_LOADED ∨ state = ST_STATE_ACTIVE ∨ state = ST_STATE_DETECTED ∨
    state = ST_STATE_BUFFERING

/-! ### What the first half keeps -/

theorem StopFrame.modelLoaded {s t : StreamSoundTrigger} (h : StopFrame s t)
    (hs : s.ModelLoaded) : t.ModelLoaded := by
  rw [modelLoaded_iff, h.gsl_engine_model_, h.gsl_engine_, h.sm_cfg_, h.vui_intf_]
  exact (modelLoaded_iff s).mp hs

theorem StopFrame.wanted {s t : StreamSoundTrigger} (h : StopFrame s t) :
    t.Wanted ↔ s.Wanted := by
  unfold Wanted
  rw [h.currentState, h.paused_]

section Halves

variable {e : Env} {s : StreamSoundTrigger}

/-! ### The procedures -/

theorem returns_fstageUnload (he : e.Succeeds) (hs : s.ModelLoaded) :
    Returns (fstageUnload e) s fun st t => st = 0 ∧ StopFrame s t ∧ t.mDevices = none := by
  unfold fstageUnload
  cases hopen : s.device_opened_ <;> cases hdev : s.mDevices <;>
    simp [hopen, hdev, hs.gsl_engine_, he.reconfigureDetectionGraph, stopFrame_iff]

/-- The first stage is unloaded. -/
theorem returns_loaded_unload (he : e.Succeeds) (hs : s.ModelLoaded)
    (hp : e.newCaptureProfile ≠ none) :
    Returns (StLoaded.concurrentStream e false) s fun _ t => StopFrame s t ∧
      t.mDevices = none ∧ t.cur_state_ = ST_STATE_IDLE := by
  unfold StLoaded.concurrentStream
  simp only [returns_bind, returns_get, newCaptureProfile, hs.sm_cfg_, if_true,
    Option.isNone_iff_eq_none, if_neg hp, Bool.false_eq_true, if_false]
  refine (returns_fstageUnload he hs).mono ?_
  rintro st t ⟨rfl, ht, hdev⟩
  simp [ht, hdev]

/-- A loaded stream refuses the second half, and any half without a capture profile. -/
theorem returns_loaded_refuse (hs : s.ModelLoaded) {is_active : Bool}
    (hno : is_active = true ∨ e.newCaptureProfile = none) (Q : ℤ → StreamSoundTrigger → Prop) :
    Returns (StLoaded.concurrentStream e is_active) s Q ↔ Q (-EINVAL) s := by
  unfold StLoaded.concurrentStream
  simp only [returns_bind, returns_get, newCaptureProfile, hs.sm_cfg_, if_true,
    Option.isNone_iff_eq_none]
  rcases hno with rfl | hp
  · simp
  · rw [if_pos hp, returns_pure]

/-- A detection is over with a switch, whether its first stage is unloaded or not. -/
theorem returns_concurrentDetection (he : e.Succeeds) (hs : s.ModelLoaded) (is_active : Bool) :
    Returns (concurrentDetection e is_active) s fun _ t => StopFrame s t ∧ t.mDevices = none ∧
      t.cur_state_ = if is_active = true ∨ e.newCaptureProfile = none then ST_STATE_LOADED
        else ST_STATE_IDLE := by
  unfold concurrentDetection
  refine (returns_disconnectEvent e hs.gsl_engine_ false).bind ?_
  rintro _ t ⟨ht, hdev, -⟩
  have hframe : StopFrame s { t with cur_state_ := ST_STATE_LOADED } := by
    simpa using ht
  simp only [returns_bind, returns_transitTo]
  split_ifs with hno
  · rw [returns_loaded_refuse (hframe.modelLoaded hs) hno]
    simp [releaseWakeLock, ht, hdev]
  · rw [not_or, Bool.not_eq_true] at hno
    rw [hno.1]
    refine (returns_loaded_unload he (hframe.modelLoaded hs) hno.2).mono ?_
    rintro st u ⟨hu, hdev', hcur⟩
    simp [releaseWakeLock, hframe.trans hu, hdev', hcur]

/-! ### The first half -/

@[simp] theorem newCaptureProfile_mk (t : StreamSoundTrigger) {st rs c p md o sh cc cp sm mt id gm g v
    en n d r rd ss rj ps nv br sk calls} :
    newCaptureProfile e ⟨st, rs, c, p, md, o, sh, cc, cp, t.sm_cfg_, sm, mt, id, gm, g, v, en, n, d,
      r, rd, ss, rj, ps, nv, br, sk, calls⟩ = newCaptureProfile e t :=
  rfl

@[simp] theorem switchEvent_mk (t : StreamSoundTrigger) {st rs c p md o sh cc sm id gm g v en n d r rd
    ss rj ps nv br sk calls} (active : Bool) :
    switchEvent e ⟨st, rs, c, p, md, o, sh, cc, t.cap_prof_, t.sm_cfg_, sm, t.model_type_, id, gm, g,
      v, en, n, d, r, rd, ss, rj, ps, nv, br, sk, calls⟩ active = switchEvent e t active :=
  rfl

theorem newCaptureProfile_of_loaded (hs : s.ModelLoaded) :
    newCaptureProfile e s = e.newCaptureProfile :=
  if_pos hs.sm_cfg_

theorem returns_first_same (hp : s.cap_prof_ = newCaptureProfile e s)
    (Q : ℤ → StreamSoundTrigger → Prop) :
    Returns (handleConcurrentStream e (processEvent e) false) s Q ↔ Q 0 s.switching := by
  simp [handleConcurrentStream, switchProfile, ← hp, switching]

theorem returns_first_of_event (hp : s.cap_prof_ ≠ newCaptureProfile e s) {ev : StEvent}
    (hev : switchEvent e s false = some ev) (Q : ℤ → StreamSoundTrigger → Prop) :
    Returns (handleConcurrentStream e (processEvent e) false) s Q ↔
      Returns (processEvent e ev) s.switching Q := by
  simp [handleConcurrentStream, switchProfile, hp, hev, switching]

/-- Another capture profile: the first stage is unloaded. -/
theorem returns_concurrent_unload (he : e.Succeeds) (hs : s.ModelLoaded)
    (hstate : Switchable s.cur_state_) (hcc : s.common_cp_update_disable_ = true)
    (hp : e.newCaptureProfile ≠ none) :
    Returns (processEvent e (ST_EV_CONCURRENT_STREAM false)) s fun _ t => StopFrame s t ∧
      t.mDevices = none ∧ t.cur_state_ = ST_STATE_IDLE := by
  have hdetection : ∀ u, StopFrame s u → Returns (concurrentDetection e false) u fun _ t =>
      StopFrame s t ∧ t.mDevices = none ∧ t.cur_state_ = ST_STATE_IDLE := by
    intro u hu
    refine (returns_concurrentDetection he (hu.modelLoaded hs) false).mono ?_
    rintro st t ⟨ht, hdev, hcur⟩
    rw [if_neg (by simp [hp])] at hcur
    exact ⟨hu.trans ht, hdev, hcur⟩
  unfold processEvent
  rw [returns_bind, returns_get]
  obtain hcur | hcur | hcur | hcur := hstate
  · rw [hcur]
    exact returns_loaded_unload he hs hp
  · rw [hcur]
    have hsome : (newCaptureProfile e s).isNone = false := by
      simpa [newCaptureProfile_of_loaded hs, ← Option.isSome_iff_ne_none] using hp
    simp only [StActive.processEvent, StActive.concurrentStream, StActive.stopRecognition,
      returns_bind, returns_get, hsome, hcc, Bool.false_eq_true, if_false, Bool.not_true,
      Bool.and_false, Bool.false_and]
    refine (returns_haltStream e s 0).mono ?_
    rintro st t ⟨hst, ht, -⟩
    simp only [hst (lastStatus_engineAnswers he.stopRecognition _), returns_pure, ne_eq,
      not_true_eq_false, if_false]
    refine (returns_loaded_unload he (ht.modelLoaded hs) hp).mono ?_
    rintro st u ⟨hu, hdev, hcur'⟩
    exact ⟨ht.trans hu, hdev, hcur'⟩
  · rw [hcur]
    exact hdetection s (stopFrame_refl s)
  · rw [hcur]
    simpa [StBuffering.processEvent, dropNlpiVote] using
      hdetection { s with force_nlpi_vote := false } (by simp)

/-- No capture profile: only a detection is over. -/
theorem returns_concurrent_none (he : e.Succeeds) (hs : s.ModelLoaded)
    (hstate : Switchable s.cur_state_) {is_active : Bool}
    (hno : is_active = true ∨ e.newCaptureProfile = none) :
    Returns (processEvent e (ST_EV_CONCURRENT_STREAM is_active)) s fun _ t => StopFrame s t ∧
      t.cur_state_ = if s.cur_state_ = ST_STATE_ACTIVE then ST_STATE_ACTIVE
        else ST_STATE_LOADED := by
  have hdetection : ∀ u, StopFrame s u → Returns (concurrentDetection e is_active) u fun _ t =>
      StopFrame s t ∧ t.cur_state_ = ST_STATE_LOADED := by
    intro u hu
    refine (returns_concurrentDetection he (hu.modelLoaded hs) is_active).mono ?_
    rintro st t ⟨ht, -, hcur⟩
    rw [if_pos hno] at hcur
    exact ⟨hu.trans ht, hcur⟩
  unfold processEvent
  rw [returns_bind, returns_get]
  obtain hcur | hcur | hcur | hcur := hstate
  · rw [hcur]
    exact (returns_loaded_refuse hs hno _).mpr ⟨stopFrame_refl s, hcur⟩
  · rw [hcur]
    simp only [StActive.processEvent, StActive.concurrentStream, returns_bind, returns_get,
      newCaptureProfile_of_loaded hs, Option.isNone_iff_eq_none]
    split_ifs <;> simp_all
  · rw [hcur]
    exact hdetection s (stopFrame_refl s)
  · rw [hcur]
    simpa [StBuffering.processEvent, dropNlpiVote] using
      hdetection { s with force_nlpi_vote := false } (by simp)

/-- A stream without an engine of its own leaves its device, and keeps its state. -/
theorem returns_disconnected (hs : s.ModelLoaded) (hstate : Switchable s.cur_state_)
    (dev : pal_device_id_t) :
    Returns (processEvent e (ST_EV_DEVICE_DISCONNECTED dev)) s fun _ t => StopFrame s t ∧
      t.cur_state_ = s.cur_state_ ∧ (s.cur_state_ = ST_STATE_BUFFERING → t.mDevices = none) := by
  unfold processEvent
  rw [returns_bind, returns_get]
  obtain hcur | hcur | hcur | hcur := hstate
  · rw [hcur]
    simp only [StLoaded.processEvent, StLoaded.deviceDisconnected, returns_bind, returns_get]
    cases hdev : s.mDevices with
    | none => simp [hcur]
    | some d =>
      by_cases hsame : isSameDeviceType s.is_backend_shared_ dev d <;>
        simp [hsame, hs.gsl_engine_, stopFrame_iff, hcur]
  · rw [hcur]
    simp only [StActive.processEvent, StActive.deviceDisconnected, returns_bind, returns_get]
    cases hdev : s.mDevices with
    | none => simp [hcur]
    | some d =>
      by_cases hsame : isSameDeviceType s.is_backend_shared_ dev d
      · simp only [hsame, Bool.not_true, Bool.false_eq_true, if_false, returns_bind, returns_deref,
          hs.gsl_engine_, true_and]
        refine (returns_stopAndCloseDevice s 0).mono ?_
        rintro st t ⟨-, ht, hcur'⟩
        simp [ht, hcur'.trans hcur]
      · simp [hsame, hcur]
  · rw [hcur]
    refine (returns_disconnectEvent e hs.gsl_engine_ true).mono ?_
    rintro st t ⟨ht, hdev, hcur'⟩
    exact ⟨ht, hcur'.trans hcur, fun _ => hdev⟩
  · rw [hcur]
    have hvote : StopFrame s { s with force_nlpi_vote := false } := by
      simp
    simp only [StBuffering.processEvent, dropNlpiVote, returns_bind, returns_modify]
    refine (returns_disconnectEvent e (hvote.modelLoaded hs).gsl_engine_ true).mono ?_
    rintro st t ⟨ht, hdev, hcur'⟩
    exact ⟨hvote.trans ht, hcur'.trans hcur, fun _ => hdev⟩

/-! ### The second half -/

/-- What a predicate on states says of the state after the second half. -/
abbrev ReturnsIn (m : StProc ℤ) (s : StreamSoundTrigger) (P : st_state_id_t → Prop) : Prop :=
  Returns m s fun _ t => P t.cur_state_

theorem returns_second_same (hp : s.cap_prof_ = newCaptureProfile e s) (P : st_state_id_t → Prop) :
    ReturnsIn (handleConcurrentStream e (processEvent e) true) s P ↔ P s.cur_state_ := by
  simp [handleConcurrentStream, switchProfile, ← hp]

theorem returns_second_of_event (hp : s.cap_prof_ ≠ newCaptureProfile e s) {ev : StEvent}
    (hev : switchEvent e s true = some ev) (P : st_state_id_t → Prop) :
    ReturnsIn (handleConcurrentStream e (processEvent e) true) s P ↔
      ReturnsIn (processEvent e ev) s P := by
  simp [handleConcurrentStream, switchProfile, hp, hev]

/-- The start of a loaded stream that has its device. It faults when the backend is shared: the
capture profile is then not asked for, and read. -/
theorem returns_startRecognition (he : e.Succeeds) {dev : pal_device_id_t}
    (hcur : s.cur_state_ = ST_STATE_LOADED) (hdev : s.mDevices = some dev)
    (P : st_state_id_t → Prop) :
    ReturnsIn (StLoaded.startRecognition e true) s P ↔
      if s.paused_ = true ∨ s.rec_config_ = none then P ST_STATE_LOADED
      else s.is_backend_shared_ = false ∧
        P (if e.getSoundTriggerCaptureProfile then ST_STATE_ACTIVE else ST_STATE_LOADED) := by
  have hengines : ∀ (u : StreamSoundTrigger) status,
      Returns (StLoaded.startEngines e status) u (fun _ t => P t.cur_state_) ↔
        P ST_STATE_ACTIVE := by
    intro u status
    simp [StLoaded.startEngines, firstFailure_engineAnswers he.startRecognition]
  have hfailed : ∀ status, Returns (StLoaded.startFailed status) s (fun _ t => P t.cur_state_) ↔
      P ST_STATE_LOADED := by
    intro status
    simp only [StLoaded.startFailed, returns_bind, returns_pure]
    refine (returns_stopAndCloseDevice s 0).iff ?_
    rintro st t ⟨-, -, ht⟩
    rw [ht, hcur]
  unfold StLoaded.startRecognition
  simp only [ReturnsIn, returns_bind, returns_get]
  by_cases hpaused : s.paused_ = true
  · simp [hpaused, hcur]
  by_cases hrec : s.rec_config_ = none
  · simp [hpaused, hrec, hcur]
  simp only [hpaused, hrec, hdev, Option.isNone_iff_eq_none, if_false, Bool.false_eq_true, or_self]
  cases hprof : e.getSoundTriggerCaptureProfile <;> cases hopen : s.device_opened_ <;>
    simp [hfailed, hengines, he.deviceOpen, he.deviceStart]

/-- The first stage is loaded again, with the new capture profile and its device. -/
theorem returns_fstageLoad (he : e.Succeeds) (hs : s.ModelLoaded) (hdev : s.mDevices = none)
    {prof : CaptureProfile} (hp : e.newCaptureProfile = some prof)
    (Q : ℤ → StreamSoundTrigger → Prop) :
    Returns (fstageLoad e) s Q ↔ Q 0 { s with
      cap_prof_ := some prof, is_backend_shared_ := prof.isBackendShared,
      mDevices := e.captureDevice } := by
  obtain ⟨dev, hcap⟩ := Option.isSome_iff_exists.mp he.captureDevice
  have hprof : e.getCurrentCaptureProfile = some prof := he.profile.trans hp
  unfold fstageLoad updateDeviceConfig
  simp [hs.sm_cfg_, hs.vui_intf_, hs.gsl_engine_, hprof, hdev, hcap, he.gslLoadSoundModel]

/-- A stream whose first stage is unloaded stays so without a capture profile; with one it is
loaded, and started if its recognition is wanted. -/
theorem returns_idle_concurrent (he : e.Succeeds) (hs : s.ModelLoaded)
    (hcur : s.cur_state_ = ST_STATE_IDLE) (hdev : s.mDevices = none) (P : st_state_id_t → Prop) :
    ReturnsIn (processEvent e (ST_EV_CONCURRENT_STREAM true)) s P ↔
      match e.newCaptureProfile with
      | none => P ST_STATE_IDLE
      | some prof =>
        if s.Wanted ∧ s.rec_config_ ≠ none then prof.isBackendShared = false ∧
          P (if e.getSoundTriggerCaptureProfile then ST_STATE_ACTIVE else ST_STATE_LOADED)
        else P ST_STATE_LOADED := by
  unfold processEvent
  simp only [ReturnsIn, returns_bind, returns_get, hcur, StIdle.processEvent,
    StIdle.concurrentStream, newCaptureProfile_of_loaded hs]
  cases hp : e.newCaptureProfile with
  | none => simp [hcur]
  | some prof =>
    have hmodel : s.gsl_engine_model_.isNone = false := by
      simpa [← Option.isSome_iff_ne_none] using hs.gsl_engine_model_
    obtain ⟨dev, hcap⟩ := Option.isSome_iff_exists.mp he.captureDevice
    simp only [hmodel, Option.isNone_some, Bool.false_eq_true, if_false, Bool.not_true,
      returns_bind, returns_fstageLoad he hs hdev hp, ne_eq, not_true_eq_false, returns_transitTo,
      returns_get]
    by_cases hst : s.currentState = STREAM_STARTED
    · have hstart := returns_startRecognition he (s := { s with
        cap_prof_ := some prof, is_backend_shared_ := prof.isBackendShared,
        mDevices := e.captureDevice, cur_state_ := ST_STATE_LOADED }) rfl hcap P
      have hactive : ∀ (u : StreamSoundTrigger) Q, u.currentState = STREAM_STARTED →
          (Returns (if u.isActive then StLoaded.startRecognition e true else pure 0) u Q ↔
            Returns (StLoaded.startRecognition e true) u Q) := by
        intro u Q hu
        rw [if_pos (by simp [isActive, hu])]
      refine (hactive _ _ ?_).trans (hstart.trans ?_)
      · exact hst
      by_cases hpaused : s.paused_ = true <;> by_cases hrec : s.rec_config_ = none <;>
        simp [Wanted, hst, hpaused, hrec]
    · simp [isActive, hst, Wanted]

/-- With the device that a stream was without, the session is set up. -/
theorem returns_connectDevice (he : e.Succeeds) (hs : s.ModelLoaded) (hdev : s.mDevices = none)
    {prof : CaptureProfile} (hp : e.newCaptureProfile = some prof) (start : Bool) :
    Returns (connectDevice e start) s fun r t => (∃ dev, r = .ok dev) ∧
      t.cur_state_ = s.cur_state_ ∧ t.second_stage_processing_ = s.second_stage_processing_ := by
  obtain ⟨dev, hcap⟩ := Option.isSome_iff_exists.mp he.captureDevice
  have hprof : e.getCurrentCaptureProfile = some prof := he.profile.trans hp
  unfold connectDevice updateDeviceConfig
  simp [hdev, hs.sm_cfg_, hprof, hcap, hs.vui_intf_, hs.gsl_engine_, he.setupSessionDevice,
    he.deviceOpen, he.deviceStart, he.connectSessionDevice]

theorem returns_connectDevice_busy (hdev : s.mDevices ≠ none) (start : Bool)
    (Q : Except ℤ pal_device_id_t → StreamSoundTrigger → Prop) :
    Returns (connectDevice e start) s Q ↔ Q (.error (-EINVAL)) s := by
  unfold connectDevice
  simp [Option.isSome_iff_ne_none, hdev]

theorem firstFailure_connectAnswers (he : e.Succeeds) (engines : List EngineId) (active : Bool) :
    firstFailure (StLoaded.connectAnswers e engines active) = none := by
  refine List.find?_eq_none.mpr fun st hst => ?_
  obtain ⟨i, hi, rfl⟩ := List.mem_mapIdx.mp hst
  cases active <;> simp [he.checkForStartRecognition, he.startRecognition]

/-- The state after a device was connected. -/
def connectedState (s : StreamSoundTrigger) : st_state_id_t :=
  if s.mDevices ≠ none then s.cur_state_
  else if s.cur_state_ = ST_STATE_LOADED ∧ s.Wanted then ST_STATE_ACTIVE
  else if s.cur_state_ = ST_STATE_BUFFERING ∧ s.second_stage_processing_ = true then
    ST_STATE_ACTIVE
  else s.cur_state_

/-- A stream without an engine of its own gets its device back. -/
theorem returns_connected (he : e.Succeeds) (hs : s.ModelLoaded)
    (hstate : Switchable s.cur_state_) {prof : CaptureProfile}
    (hp : e.newCaptureProfile = some prof) :
    Returns (processEvent e ST_EV_DEVICE_CONNECTED) s fun _ t =>
      t.cur_state_ = connectedState s := by
  unfold processEvent connectedState
  rw [returns_bind, returns_get]
  by_cases hdev : s.mDevices ≠ none
  · rw [if_pos hdev]
    obtain hcur | hcur | hcur | hcur := hstate
    · simp [hcur, StLoaded.processEvent, StLoaded.deviceConnected, returns_connectDevice_busy hdev]
    · simp [hcur, StActive.processEvent, StActive.deviceConnected, returns_connectDevice_busy hdev]
    · simp [hcur, StDetected.processEvent, connectEvent, returns_connectDevice_busy hdev]
    · simp [hcur, StBuffering.processEvent, StBuffering.deviceConnected, connectEvent,
        returns_connectDevice_busy hdev, EINVAL]
  · rw [if_neg hdev]
    rw [not_not] at hdev
    have hconnect := returns_connectDevice he hs hdev hp
    obtain hcur | hcur | hcur | hcur := hstate
    · rw [hcur]
      simp only [StLoaded.processEvent, StLoaded.deviceConnected, returns_bind, returns_get]
      refine (hconnect _).mono ?_
      rintro _ t ⟨⟨dev, rfl⟩, hcur', -⟩
      have hactive : (s.isActive && !s.paused_) = true ↔ s.Wanted := by
        simp [isActive, Wanted, hcur]
      rw [firstFailure_connectAnswers he]
      simp only [hactive, returns_bind, returns_modify, returns_ite, returns_transitTo,
        returns_pure]
      by_cases hwanted : s.Wanted <;> simp [hwanted, hcur', hcur]
    · rw [hcur]
      simp only [StActive.processEvent, StActive.deviceConnected, returns_bind]
      refine (hconnect _).mono ?_
      rintro _ t ⟨⟨dev, rfl⟩, hcur', -⟩
      simp [hcur', hcur]
    · rw [hcur]
      simp only [StDetected.processEvent, connectEvent, returns_bind]
      refine (hconnect _).mono ?_
      rintro _ t ⟨⟨dev, rfl⟩, hcur', -⟩
      simp [hcur', hcur]
    · rw [hcur]
      simp only [StBuffering.processEvent, StBuffering.deviceConnected, connectEvent, returns_bind]
      refine (hconnect _).mono ?_
      rintro _ t ⟨⟨dev, rfl⟩, hcur', hstage⟩
      cases hsec : s.second_stage_processing_ <;>
        simp [hcur', hcur, hstage, hsec, firstFailure_engineAnswers he.startRecognition]

end Halves

/-! ### Both halves -/

section Switch

variable (s : StreamSoundTrigger) (e₁ e₂ : Env)

/-- **A switch does not strand the stream.** After both halves it is in the state it was in, or
active if its recognition is wanted, and loaded if not. -/
def SwitchLaw : Prop :=
  ∃ t, run step s [(e₁, .handleConcurrentStream false), (e₂, .handleConcurrentStream true)] = some t ∧
    (t.cur_state_ = s.cur_state_ ∨
      t.cur_state_ = if s.Wanted then ST_STATE_ACTIVE else ST_STATE_LOADED)

/-- The first half finds another capture profile, and unloads the first stage. -/
def Unloads : Prop := s.cap_prof_ ≠ e₁.newCaptureProfile ∧ e₁.newCaptureProfile ≠ none

/-- The second half finds another capture profile than the stream's, and can start with it. -/
def Reloads : Prop :=
  ∃ prof, e₂.newCaptureProfile = some prof ∧ s.cap_prof_ ≠ some prof ∧
    (s.Wanted → if s.rec_config_ = none then s.cur_state_ = ST_STATE_LOADED
      else prof.isBackendShared = false ∧
        (e₂.getSoundTriggerCaptureProfile = true ∨ s.cur_state_ = ST_STATE_LOADED))

/-- Where a switch does not strand the stream. -/
def SwitchOk : Prop :=
  if s.model_type_ = ST_MODULE_TYPE_HIST_CAP then
    (s.cap_prof_ = none → e₁.newCaptureProfile = none) ∧
      (s.cap_prof_ ≠ e₂.newCaptureProfile → e₂.newCaptureProfile ≠ none ∧
        (s.cur_state_ = ST_STATE_BUFFERING → s.second_stage_processing_ = true →
          s.cap_prof_ ≠ e₁.newCaptureProfile ∨ s.mDevices = none → s.Wanted))
  else
    (Unloads s e₁ → Reloads s e₂) ∧
      (¬Unloads s e₁ → s.cur_state_ = ST_STATE_DETECTED ∨ s.cur_state_ = ST_STATE_BUFFERING →
        s.Wanted → s.cap_prof_ = e₁.newCaptureProfile ∧ s.cap_prof_ = e₂.newCaptureProfile)

variable {s e₁ e₂}

/-- The states that the law admits. -/
def StreamSoundTrigger.Admitted (s : StreamSoundTrigger) (state : st_state_id_t) : Prop :=
  state = s.cur_state_ ∨ state = if s.Wanted then ST_STATE_ACTIVE else ST_STATE_LOADED

theorem switchLaw_iff_returns : SwitchLaw s e₁ e₂ ↔
    Returns (handleConcurrentStream e₁ (processEvent e₁) false) s fun _ t =>
      ReturnsIn (handleConcurrentStream e₂ (processEvent e₂) true) t s.Admitted := by
  have hsecond : ∀ t, (∃ u, step t (e₂, .handleConcurrentStream true) = some u ∧
      s.Admitted u.cur_state_) ↔
        ReturnsIn (handleConcurrentStream e₂ (processEvent e₂) true) t s.Admitted :=
    fun t => step_eq_some_iff
  have hfirst := step_eq_some_iff (s := s) (i := (e₁, .handleConcurrentStream false))
    (P := fun t => ReturnsIn (handleConcurrentStream e₂ (processEvent e₂) true) t s.Admitted)
  refine Iff.trans ?_ hfirst
  unfold SwitchLaw
  constructor
  · rintro ⟨t, hrun, ht⟩
    obtain ⟨s₁, hs₁, hrun⟩ := (run_cons_eq_some step).mp hrun
    obtain ⟨s₂, hs₂, hrun⟩ := (run_cons_eq_some step).mp hrun
    cases hrun
    exact ⟨s₁, hs₁, (hsecond s₁).mp ⟨t, hs₂, ht⟩⟩
  · rintro ⟨s₁, hs₁, ht⟩
    obtain ⟨t, hs₂, ht⟩ := (hsecond s₁).mpr ht
    exact ⟨t, (run_cons_eq_some step).mpr ⟨s₁, hs₁, (run_cons_eq_some step).mpr ⟨t, hs₂, rfl⟩⟩, ht⟩

theorem Admitted.of_wanted (hwanted : s.Wanted) (state : st_state_id_t) :
    s.Admitted state ↔ state = s.cur_state_ ∨ state = ST_STATE_ACTIVE := by
  unfold Admitted
  rw [if_pos hwanted]

theorem Admitted.of_not_wanted (hwanted : ¬s.Wanted) (state : st_state_id_t) :
    s.Admitted state ↔ state = s.cur_state_ ∨ state = ST_STATE_LOADED := by
  unfold Admitted
  rw [if_neg hwanted]

theorem not_admitted_idle (hstate : Switchable s.cur_state_) : ¬s.Admitted ST_STATE_IDLE := by
  unfold Admitted
  obtain hcur | hcur | hcur | hcur := hstate <;> rw [hcur] <;> split_ifs <;> simp

/-- The second half, with the first stage unloaded. -/
theorem second_of_unloaded (he₂ : e₂.Succeeds) (hs : s.ModelLoaded)
    (hstate : Switchable s.cur_state_) (hmodel : s.model_type_ ≠ ST_MODULE_TYPE_HIST_CAP)
    {t : StreamSoundTrigger} (ht : StopFrame s.switching t) (hdev : t.mDevices = none)
    (hcur : t.cur_state_ = ST_STATE_IDLE) :
    ReturnsIn (handleConcurrentStream e₂ (processEvent e₂) true) t s.Admitted ↔ Reloads s e₂ := by
  have htm : t.ModelLoaded := ht.modelLoaded ⟨hs.1, hs.2, hs.3, hs.4⟩
  have hcap : t.cap_prof_ = s.cap_prof_ := ht.cap_prof_
  by_cases hp : t.cap_prof_ = newCaptureProfile e₂ t
  · -- the same profile as before: the stream stays unloaded
    rw [returns_second_same hp, hcur]
    refine iff_of_false (not_admitted_idle hstate) ?_
    rintro ⟨prof, hprof, hne, -⟩
    rw [newCaptureProfile_of_loaded htm, hprof, hcap] at hp
    exact hne hp
  · have hev : switchEvent e₂ t true = some (ST_EV_CONCURRENT_STREAM true) :=
      if_pos (ht.model_type_.symm ▸ hmodel)
    rw [returns_second_of_event hp hev, returns_idle_concurrent he₂ htm hcur hdev]
    rw [newCaptureProfile_of_loaded htm, hcap] at hp
    unfold Reloads
    cases hprof : e₂.newCaptureProfile with
    | none => simp [not_admitted_idle hstate]
    | some prof =>
      rw [hprof] at hp
      have hw : t.Wanted ↔ s.Wanted := ht.wanted
      have hrec : t.rec_config_ = s.rec_config_ := ht.rec_config_
      simp only [Option.some.injEq, exists_eq_left', ne_eq, hp, not_false_eq_true, true_and, hw,
        hrec]
      by_cases hwanted : s.Wanted
      · have hcomm : ST_STATE_LOADED = s.cur_state_ ↔ s.cur_state_ = ST_STATE_LOADED := eq_comm
        by_cases hnone : s.rec_config_ = none
        · simp [hwanted, hnone, Admitted.of_wanted, hcomm]
        · cases e₂.getSoundTriggerCaptureProfile <;>
            simp [hwanted, hnone, Admitted.of_wanted, hcomm]
      · simp [hwanted, Admitted.of_not_wanted]

/-- Where a stream is after a half that it refuses. -/
def refused (state : st_state_id_t) : st_state_id_t :=
  if state = ST_STATE_ACTIVE then ST_STATE_ACTIVE else ST_STATE_LOADED

@[simp] theorem refused_refused (state : st_state_id_t) : refused (refused state) = refused state := by
  unfold refused
  split_ifs <;> simp_all

theorem switchable_refused (state : st_state_id_t) : Switchable (refused state) := by
  unfold refused
  split_ifs
  · exact Or.inr (Or.inl rfl)
  · exact Or.inl rfl

theorem admitted_refused_iff (hstate : Switchable s.cur_state_) :
    s.Admitted (refused s.cur_state_) ↔
      (s.cur_state_ = ST_STATE_DETECTED ∨ s.cur_state_ = ST_STATE_BUFFERING → ¬s.Wanted) := by
  unfold Admitted refused
  obtain hcur | hcur | hcur | hcur := hstate <;> rw [hcur] <;> by_cases hwanted : s.Wanted <;>
    simp [hwanted]

/-- The second half, with the first stage loaded. -/
theorem second_of_loaded (he₂ : e₂.Succeeds) (hs : s.ModelLoaded)
    (hmodel : s.model_type_ ≠ ST_MODULE_TYPE_HIST_CAP) {t : StreamSoundTrigger}
    (ht : StopFrame s.switching t) (hstate : Switchable t.cur_state_) :
    ReturnsIn (handleConcurrentStream e₂ (processEvent e₂) true) t s.Admitted ↔
      if s.cap_prof_ = e₂.newCaptureProfile then s.Admitted t.cur_state_
      else s.Admitted (refused t.cur_state_) := by
  have htm : t.ModelLoaded := ht.modelLoaded ⟨hs.1, hs.2, hs.3, hs.4⟩
  have hcap : t.cap_prof_ = s.cap_prof_ := ht.cap_prof_
  have hp₂ : newCaptureProfile e₂ t = e₂.newCaptureProfile := newCaptureProfile_of_loaded htm
  by_cases hp : s.cap_prof_ = e₂.newCaptureProfile
  · rw [if_pos hp]
    exact returns_second_same (by rwa [hcap, hp₂]) s.Admitted
  · have hev : switchEvent e₂ t true = some (ST_EV_CONCURRENT_STREAM true) :=
      if_pos (ht.model_type_.symm ▸ hmodel)
    rw [if_neg hp, returns_second_of_event (by rwa [hcap, hp₂]) hev]
    refine (returns_concurrent_none he₂ htm hstate (Or.inl rfl)).iff ?_
    rintro st u ⟨-, hu⟩
    rw [hu]
    rfl

theorem admitted_connected_iff (hstate : Switchable s.cur_state_) {t : StreamSoundTrigger}
    (ht : StopFrame s.switching t) (hcur : t.cur_state_ = s.cur_state_) :
    s.Admitted (connectedState t) ↔ (s.cur_state_ = ST_STATE_BUFFERING →
      s.second_stage_processing_ = true → t.mDevices = none → s.Wanted) := by
  have hw : t.Wanted ↔ s.Wanted := ht.wanted
  have hsec : t.second_stage_processing_ = s.second_stage_processing_ :=
    ht.second_stage_processing_
  unfold Admitted connectedState
  rw [hcur, hsec]
  by_cases hdev : t.mDevices = none
  · obtain hcur | hcur | hcur | hcur := hstate <;> rw [hcur] <;> by_cases hwanted : s.Wanted <;>
      cases s.second_stage_processing_ <;> simp [hdev, hw, hwanted]
  · simp [hdev]

/-- The second half of a stream without an engine of its own. -/
theorem second_of_hist (he₂ : e₂.Succeeds) (hs : s.ModelLoaded) (hstate : Switchable s.cur_state_)
    (hmodel : s.model_type_ = ST_MODULE_TYPE_HIST_CAP) {t : StreamSoundTrigger}
    (ht : StopFrame s.switching t) (hcur : t.cur_state_ = s.cur_state_) :
    ReturnsIn (handleConcurrentStream e₂ (processEvent e₂) true) t s.Admitted ↔
      (s.cap_prof_ ≠ e₂.newCaptureProfile → e₂.newCaptureProfile ≠ none ∧
        (s.cur_state_ = ST_STATE_BUFFERING → s.second_stage_processing_ = true →
          t.mDevices = none → s.Wanted)) := by
  have htm : t.ModelLoaded := ht.modelLoaded ⟨hs.1, hs.2, hs.3, hs.4⟩
  have hcap : t.cap_prof_ = s.cap_prof_ := ht.cap_prof_
  have htmodel : t.model_type_ = ST_MODULE_TYPE_HIST_CAP := ht.model_type_.trans hmodel
  have hp₂ : newCaptureProfile e₂ t = e₂.newCaptureProfile := newCaptureProfile_of_loaded htm
  by_cases hp : s.cap_prof_ = e₂.newCaptureProfile
  · rw [returns_second_same (by rwa [hcap, hp₂]), hcur]
    exact iff_of_true (Or.inl rfl) fun hne => absurd hp hne
  · cases hprof : e₂.newCaptureProfile with
    | none =>
      -- the new capture profile is read
      have hev : switchEvent e₂ t true = none := by
        simp [switchEvent, htmodel, hp₂, hprof]
      rw [hprof] at hp
      have hne : t.cap_prof_ ≠ newCaptureProfile e₂ t := by rwa [hcap, hp₂, hprof]
      simp [handleConcurrentStream, switchProfile, hne, hev, hp]
    | some prof =>
      have hev : switchEvent e₂ t true = some ST_EV_DEVICE_CONNECTED := by
        simp [switchEvent, htmodel, hp₂, hprof]
      rw [returns_second_of_event (by rwa [hcap, hp₂]) hev]
      rw [hprof] at hp
      refine ((returns_connected he₂ htm (hcur ▸ hstate) hprof).iff fun st u hu => ?_).trans
        ((admitted_connected_iff hstate ht hcur).trans ?_)
      · rw [hu]
      · simp [hp]

/-- **A switch, exactly.** -/
theorem switch_iff (he₁ : e₁.Succeeds) (he₂ : e₂.Succeeds) (hs : s.ModelLoaded)
    (hstate : Switchable s.cur_state_) : SwitchLaw s e₁ e₂ ↔ SwitchOk s e₁ e₂ := by
  rw [switchLaw_iff_returns]
  have hp₁ : newCaptureProfile e₁ s = e₁.newCaptureProfile := newCaptureProfile_of_loaded hs
  have hsm : s.switching.ModelLoaded := ⟨hs.1, hs.2, hs.3, hs.4⟩
  unfold SwitchOk
  by_cases hmodel : s.model_type_ = ST_MODULE_TYPE_HIST_CAP
  · rw [if_pos hmodel]
    by_cases hp : s.cap_prof_ = e₁.newCaptureProfile
    · rw [returns_first_same (by rwa [hp₁]),
        second_of_hist he₂ hs hstate hmodel (stopFrame_refl _) rfl]
      simp [switching, hp]
    · cases hcap : s.cap_prof_ with
      | none =>
        -- the stream's own capture profile is read
        have hev : switchEvent e₁ s false = none := by
          simp [switchEvent, hmodel, hcap]
        have hne : s.cap_prof_ ≠ newCaptureProfile e₁ s := by rwa [hp₁]
        rw [hcap] at hp
        simp [handleConcurrentStream, switchProfile, hne, hev, Ne.symm hp]
      | some prof =>
        have hev : switchEvent e₁ s false = some (ST_EV_DEVICE_DISCONNECTED prof.DevId) := by
          simp [switchEvent, hmodel, hcap]
        rw [returns_first_of_event (by rwa [hp₁]) hev]
        refine (returns_disconnected hsm hstate prof.DevId).iff fun st t ht => ?_
        obtain ⟨hframe, hcur, hdev⟩ := ht
        rw [hcap] at hp
        rw [second_of_hist he₂ hs hstate hmodel hframe hcur, hcap]
        by_cases hbuffering : s.cur_state_ = ST_STATE_BUFFERING
        · simp [hbuffering, hdev hbuffering, hp]
        · simp [hbuffering]
  · rw [if_neg hmodel]
    by_cases hunloads : Unloads s e₁
    · obtain ⟨hne, hp⟩ := hunloads
      have hev : switchEvent e₁ s false = some (ST_EV_CONCURRENT_STREAM false) := if_pos hmodel
      rw [returns_first_of_event (by rwa [hp₁]) hev]
      refine Iff.trans (b := Reloads s e₂) ?_ ?_
      · refine (returns_concurrent_unload he₁ hsm hstate rfl hp).iff ?_
        rintro st t ⟨ht, hdev, hcur⟩
        exact second_of_unloaded he₂ hs hstate hmodel ht hdev hcur
      · simp [Unloads, hne, hp]
    · simp only [hunloads, false_imp_iff, true_and, not_false_eq_true, true_imp_iff]
      by_cases hp : s.cap_prof_ = e₁.newCaptureProfile
      · -- the first half does nothing
        rw [returns_first_same (by rwa [hp₁]),
          second_of_loaded he₂ hs hmodel (stopFrame_refl _) hstate]
        by_cases hp' : s.cap_prof_ = e₂.newCaptureProfile
        · rw [if_pos hp']
          exact iff_of_true (Or.inl rfl) fun _ _ => ⟨hp, hp'⟩
        · rw [if_neg hp']
          refine (admitted_refused_iff hstate).trans ?_
          simp only [hp', and_false]
      · -- without a capture profile both halves are refused
        have hnone : e₁.newCaptureProfile = none := by
          by_contra hne
          exact hunloads ⟨hp, hne⟩
        have hev : switchEvent e₁ s false = some (ST_EV_CONCURRENT_STREAM false) := if_pos hmodel
        rw [returns_first_of_event (by rwa [hp₁]) hev]
        refine ((returns_concurrent_none he₁ hsm hstate (Or.inr hnone)).iff fun st t ht => ?_).trans
          ((admitted_refused_iff hstate).trans ?_)
        · obtain ⟨hframe, hcur⟩ := ht
          have hcur' : t.cur_state_ = refused s.cur_state_ := hcur
          rw [second_of_loaded he₂ hs hmodel hframe (hcur' ▸ switchable_refused _), hcur',
            refused_refused, ite_self]
        · simp [hp]

end Switch

/-- A platform on which everything succeeds, with another capture profile. -/
def Env.smoothNLPI : Env :=
  { Env.smooth with
    getCurrentCaptureProfile := some ⟨2, PAL_DEVICE_IN_HANDSET_VA_MIC⟩
    newCaptureProfile := some ⟨2, PAL_DEVICE_IN_HANDSET_VA_MIC⟩ }

theorem Env.smoothNLPI_succeeds : Env.smoothNLPI.Succeeds :=
  ⟨rfl, rfl, rfl, rfl, fun _ => rfl, fun _ => rfl, rfl, rfl, rfl, rfl, rfl⟩

/-- A recognition survives the switch to another capture profile. -/
theorem switchLaw_started : ∃ s, run step (.init true false) (startCalls Env.smooth true) = some s ∧
    SwitchLaw s .smoothNLPI .smoothNLPI := by
  refine ⟨_, rfl, (switch_iff Env.smoothNLPI_succeeds Env.smoothNLPI_succeeds ⟨rfl, rfl, rfl, rfl⟩
    (Or.inr (Or.inl rfl))).mpr ?_⟩
  refine (if_neg (by decide)).mpr ⟨fun _ => ⟨_, rfl, by decide, fun _ => ⟨rfl, Or.inl rfl⟩⟩, ?_⟩
  exact fun hkept => absurd ⟨by decide, by decide⟩ hkept

/-- The capture profile is back before the second half: the first stage stays unloaded. -/
theorem not_switchLaw_back :
    ∃ s, run step (.init true false) (startCalls Env.smooth true) = some s ∧
      ¬SwitchLaw s .smoothNLPI .smooth := by
  refine ⟨_, rfl, ?_⟩
  rintro ⟨t, ht, hlaw⟩
  cases ht
  revert hlaw
  decide

end AudioReachPal.StStream
