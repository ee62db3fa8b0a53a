import AudioReachPal.StStream.Frames
import AudioReachPal.StStream.Total
import AudioReachPal.Lib.Runs

/-!
# The wake lock of a detection

`setEngineDetectionState` acquires the wake lock for a detection of the first stage; the handlers of
`ST_STATE_DETECTED` and `ST_STATE_BUFFERING` release it when the detection is over. Two of them miss
that: a rejection of which the client is notified releases the lock and stays in
`ST_STATE_BUFFERING`, and a device that is connected during the second stage leaves
`ST_STATE_BUFFERING` without a release.
-/

namespace AudioReachPal.StStream

open AudioReachPal.Lib

open st_state_id_t st_module_type_t stream_state_t StEvent

/-! ### The law -/

/-- The wake lock is held once while a detection is handled, and else not. -/
def WakeBalanced (s : StreamSoundTrigger) : Prop :=
  balance wakeDelta s.calls = if Detecting s.cur_state_ then 1 else 0

/-- No detection is handled, and the wake lock is not held. -/
@[mk_iff]
structure Unlocked (s : StreamSoundTrigger) : Prop where
  wake : balance wakeDelta s.calls = 0
  cur_state_ : ¬Detecting s.cur_state_

/-- A detection is handled under the wake lock. -/
@[mk_iff]
structure Locked (s : StreamSoundTrigger) : Prop where
  wake : balance wakeDelta s.calls = 1
  cur_state_ : Detecting s.cur_state_

/-- The detection is over, and the wake lock is still held. -/
structure Ended (s : StreamSoundTrigger) : Prop where
  wake : balance wakeDelta s.calls = 1
  cur_state_ : Settled s.cur_state_

theorem Unlocked.balanced {s : StreamSoundTrigger} (h : Unlocked s) : WakeBalanced s := by
  unfold WakeBalanced
  rw [h.wake, if_neg h.cur_state_]

theorem Locked.balanced {s : StreamSoundTrigger} (h : Locked s) : WakeBalanced s := by
  unfold WakeBalanced
  rw [h.wake, if_pos h.cur_state_]

theorem WakeBalanced.unlocked {s : StreamSoundTrigger} (h : WakeBalanced s)
    (hs : ¬Detecting s.cur_state_) : Unlocked s := by
  unfold WakeBalanced at h
  rw [if_neg hs] at h
  exact ⟨h, hs⟩

theorem WakeBalanced.locked {s : StreamSoundTrigger} (h : WakeBalanced s)
    (hs : Detecting s.cur_state_) : Locked s := by
  unfold WakeBalanced at h
  rw [if_pos hs] at h
  exact ⟨h, hs⟩

theorem Settled.not_detecting {state : st_state_id_t} (h : Settled state) : ¬Detecting state := by
  rcases h with rfl | rfl | rfl <;> decide

/-! ### The states without a detection -/

@[simp] theorem unlocked_mk (t : StreamSoundTrigger) {rs c p md o sh cc cp sc sm mt id gm g v en n d r
    rd ss rj ps nv br sk} :
    Unlocked ⟨t.cur_state_, rs, c, p, md, o, sh, cc, cp, sc, sm, mt, id, gm, g, v, en, n, d, r, rd,
      ss, rj, ps, nv, br, sk, t.calls⟩ ↔ Unlocked t := by
  simp only [unlocked_iff]

@[simp] theorem unlocked_transit {t : StreamSoundTrigger} {state rs c p md o sh cc cp sc sm mt id gm g
    v en n d r rd ss rj ps nv br sk} (ht : Unlocked t) (hstate : ¬Detecting state) :
    Unlocked ⟨state, rs, c, p, md, o, sh, cc, cp, sc, sm, mt, id, gm, g, v, en, n, d, r, rd, ss, rj,
      ps, nv, br, sk, t.calls⟩ :=
  ⟨ht.wake, hstate⟩

theorem Steady.unlocked {s t : StreamSoundTrigger} (h : Steady s t) (hs : Unlocked s) :
    Unlocked t := by
  refine ⟨h.wake.trans hs.wake, ?_⟩
  rcases h.cur_state_ with ht | ht
  · rw [ht]
    exact hs.cur_state_
  · exact ht.not_detecting

theorem unlocked_through {α : Type} {m : StProc α} (hm : Respects Steady m) {s : StreamSoundTrigger}
    (hs : Unlocked s) {Q : α → StreamSoundTrigger → Prop} (hQ : ∀ a t, Unlocked t → Q a t) :
    Ensures m s Q :=
  (hm s).mono fun a t hst => hQ a t (hst.unlocked hs)

section Handlers

variable (e : Env)

theorem idle_unlocked {s : StreamSoundTrigger} (hs : Unlocked s) (ev : StEvent) :
    Ensures (StIdle.processEvent e ev) s fun _ t => Unlocked t := by
  by_cases hssr : IsSsrEvent ev
  · cases ev with
    | ST_EV_SSR_OFFLINE => simp [StIdle.processEvent, StIdle.ssrOffline, Detecting, hs]
    | ST_EV_SSR_ONLINE => simp [StIdle.processEvent, hs]
    | _ => exact absurd hssr id
  · exact unlocked_through (StIdle.processEvent_steady e hssr) hs fun _ _ => id

/-- The first stage is unloaded, and the stream waits for the sound card. -/
theorem goOffline_unlocked {s : StreamSoundTrigger} (hs : Unlocked s) :
    Ensures (do let st ← StLoaded.unloadFstage e; transitTo ST_STATE_SSR; pure st) s
      fun _ t => Unlocked t := by
  simp only [ensures_bind]
  refine unlocked_through (StLoaded.unloadFstage_steady e) hs ?_
  intro st t ht
  simp [Detecting, ht]

theorem loaded_unlocked {s : StreamSoundTrigger} (hs : Unlocked s) (ev : StEvent) :
    Ensures (StLoaded.processEvent e ev) s fun _ t => Unlocked t := by
  by_cases hssr : IsSsrEvent ev
  · cases ev with
    | ST_EV_SSR_OFFLINE =>
      refine (ensures_bind _ _ _ _).mpr ?_
      rw [ensures_modify]
      exact goOffline_unlocked e ((unlocked_mk s).mpr hs)
    | ST_EV_SSR_ONLINE => simp [StLoaded.processEvent, hs]
    | _ => exact absurd hssr id
  · exact unlocked_through (StLoaded.processEvent_steady e hssr) hs fun _ _ => id

/-- A detection of the first stage is left out. -/
theorem active_unlocked {s : StreamSoundTrigger} (hs : Unlocked s) {ev : StEvent}
    (hfirst : ∀ det_type, ev = ST_EV_DETECTED det_type → ¬IsFirstStage det_type) :
    Ensures (StActive.processEvent e ev) s fun _ t => Unlocked t := by
  by_cases hssr : IsSsrEvent ev
  · cases ev with
    | ST_EV_SSR_OFFLINE =>
      refine (ensures_bind _ _ _ _).mpr ?_
      rw [ensures_modify, ensures_bind]
      refine unlocked_through (StActive.stopRecognition_steady e false) ((unlocked_mk s).mpr hs) ?_
      intro st t ht
      exact goOffline_unlocked e ht
    | ST_EV_SSR_ONLINE => simp [StActive.processEvent, hs]
    | _ => exact absurd hssr id
  · by_cases hdet : ∃ det_type, ev = ST_EV_DETECTED det_type
    · obtain ⟨det_type, rfl⟩ := hdet
      have hnot : det_type ≠ GMM_DETECTED ∧ det_type ≠ THRESHOLD_REACHED :=
        not_or.mp (hfirst det_type rfl)
      simp [StActive.processEvent, StActive.detected, hnot, hs]
    · exact unlocked_through (StActive.processEvent_steady e hssr fun d hd => hdet ⟨d, hd⟩) hs
        fun _ _ => id

theorem ssrOnline_unlocked {s : StreamSoundTrigger} (hs : Unlocked s) :
    Ensures (StSSR.ssrOnline e) s fun _ t => Unlocked t := by
  have hload : ∀ t (Q : ℤ → StreamSoundTrigger → Prop), Unlocked t → (∀ st u, Unlocked u → Q st u) →
      Ensures (StSSR.restoreLoaded e) t Q :=
    fun t Q ht => unlocked_through (StSSR.restoreLoaded_steady e) ht
  have hstart : ∀ t (Q : ℤ → StreamSoundTrigger → Prop), Unlocked t →
      (∀ st u, Unlocked u → Q st u) → Ensures (StLoaded.startRecognition e true) t Q :=
    fun t Q ht => unlocked_through (StLoaded.startRecognition_steady e true) ht
  simp +contextual only [StSSR.ssrOnline, Option.isNone_iff_eq_none, ne_eq, bind_pure_comp, ite_not,
    ensures_bind, ensures_ite, ensures_pure, ensures_map, ensures_modify, unlocked_mk,
    Classical.imp_and_neg_imp_iff, not_or, ↓reduceIte, and_imp, ensures_get, ensures_transitTo, hs,
    Detecting, reduceCtorEq, or_self, not_false_eq_true, unlocked_transit, implies_true, hstart,
    and_self, hload]

theorem ssr_unlocked {s : StreamSoundTrigger} (hs : Unlocked s) (ev : StEvent) :
    Ensures (StSSR.processEvent e ev) s fun _ t => Unlocked t := by
  cases ev with
  | ST_EV_SSR_ONLINE => exact ssrOnline_unlocked e hs
  | ST_EV_LOAD_SOUND_MODEL model =>
    have hmodel : ∀ Q : ℤ → StreamSoundTrigger → Prop, (∀ st u, Unlocked u → Q st u) →
        Ensures (updateSoundModel e model) s Q :=
      fun Q => unlocked_through (steady_of_frame (updateSoundModel_frame e model)) hs
    simp +contextual [StSSR.processEvent, StSSR.loadModel, StSSR.clientCommand, StSSR.restoreTo,
      hmodel, hs]
  | ST_EV_RECOGNITION_CONFIG config =>
    simp [StSSR.processEvent, StSSR.clientCommand, updateRecognitionConfig, hs]
  | ST_EV_PAUSE => simp [StSSR.processEvent, notifyAbort, hs]
  | _ =>
    simp [StSSR.processEvent, StSSR.clientCommand, StSSR.restoreTo, StSSR.startRecognition,
      StSSR.resume, hs]

/-! ### The end of a detection -/

theorem Steady.ended {s t : StreamSoundTrigger} (h : Steady s t) (hs : Ended s) : Ended t := by
  refine ⟨h.wake.trans hs.wake, ?_⟩
  rcases h.cur_state_ with ht | ht
  · rw [ht]
    exact hs.cur_state_
  · exact ht

theorem ended_through {α : Type} {m : StProc α} (hm : Respects Steady m) {s : StreamSoundTrigger}
    (hs : Ended s) {Q : α → StreamSoundTrigger → Prop} (hQ : ∀ a t, Ended t → Q a t) :
    Ensures m s Q :=
  (hm s).mono fun a t hst => hQ a t (hst.ended hs)

theorem ensures_releaseWakeLock {s : StreamSoundTrigger} (hs : Ended s)
    {Q : Unit → StreamSoundTrigger → Prop} (hQ : ∀ t, Unlocked t → Q () t) :
    Ensures releaseWakeLock s Q := by
  unfold releaseWakeLock
  rw [ensures_record]
  apply hQ
  refine ⟨?_, hs.cur_state_.not_detecting⟩
  rw [balance_cons, hs.wake]
  rfl

theorem DeviceFrame.locked {s t : StreamSoundTrigger} (h : DeviceFrame s t) (hs : Locked s) :
    Locked t := by
  refine ⟨h.wake.trans hs.wake, ?_⟩
  rw [h.cur_state_]
  exact hs.cur_state_

theorem locked_through {α : Type} {m : StProc α} (hm : Respects DeviceFrame m)
    {s : StreamSoundTrigger} (hs : Locked s) {Q : α → StreamSoundTrigger → Prop}
    (hQ : ∀ a t, Locked t → Q a t) : Ensures m s Q :=
  (hm s).mono fun a t hst => hQ a t (hst.locked hs)

theorem cancelDelayedStop_device : Respects DeviceFrame cancelDelayedStop := by
  intro s
  simp [cancelDelayedStop]

theorem ensures_transit {s : StreamSoundTrigger} (hs : Locked s) {state : st_state_id_t}
    (hstate : Settled state) {Q : Unit → StreamSoundTrigger → Prop} (hQ : ∀ t, Ended t → Q () t) :
    Ensures (transitTo state) s Q := by
  rw [ensures_transitTo]
  exact hQ _ ⟨hs.wake, hstate⟩

theorem ensures_haltStream {s : StreamSoundTrigger} (hs : Locked s) (status : ℤ)
    {Q : ℤ → StreamSoundTrigger → Prop} (hQ : ∀ st t, Ended t → Q st t) :
    Ensures (haltStream e status) s Q := by
  unfold haltStream
  rw [ensures_bind, ensures_stopEngines, ensures_bind]
  refine locked_through (stopAndCloseDevice_device _) hs ?_
  intro st t ht
  rw [ensures_bind]
  exact ensures_transit ht settled_loaded fun u hu => (ensures_pure _ _ _).mpr (hQ st u hu)

/-- A detection that ends in a stop: the stream is stopped, `m` is done, the lock is released. -/
theorem endDetection_unlocked {m : StProc ℤ} (hm : Respects Steady m) {s : StreamSoundTrigger}
    (hs : Locked s) :
    Ensures (do cancelDelayedStop; let _ ← haltStream e 0; let st ← m; releaseWakeLock; pure st) s
      fun _ t => Unlocked t := by
  rw [ensures_bind]
  refine locked_through cancelDelayedStop_device hs ?_
  intro _ t ht
  rw [ensures_bind]
  refine ensures_haltStream e ht _ ?_
  intro _ u hu
  rw [ensures_bind]
  refine ended_through hm hu ?_
  intro st v hv
  rw [ensures_bind]
  exact ensures_releaseWakeLock hv fun w hw => (ensures_pure _ _ _).mpr hw

theorem stopDetection_unlocked {s : StreamSoundTrigger} (hs : Locked s) :
    Ensures (stopDetection e) s fun _ t => Unlocked t := by
  unfold stopDetection
  rw [ensures_bind]
  refine locked_through cancelDelayedStop_device hs ?_
  intro _ t ht
  rw [ensures_bind]
  refine ensures_haltStream e ht _ ?_
  intro st u hu
  rw [ensures_bind]
  exact ensures_releaseWakeLock hu fun w hw => (ensures_pure _ _ _).mpr hw

theorem restartRecognition_unlocked {s : StreamSoundTrigger} (hs : Locked s) :
    Ensures (restartRecognition e) s fun _ t => Unlocked t := by
  unfold restartRecognition
  rw [ensures_bind]
  refine locked_through cancelDelayedStop_device hs ?_
  intro _ t ht
  rw [ensures_bind, ensures_get, ensures_bind]
  refine ensures_transit ht ?_ ?_
  · split_ifs
    · exact settled_active
    · exact settled_loaded
  · intro u hu
    rw [ensures_bind]
    exact ensures_releaseWakeLock hu fun w hw => (ensures_pure _ _ _).mpr hw

theorem concurrentDetection_unlocked (is_active : Bool) {s : StreamSoundTrigger} (hs : Locked s) :
    Ensures (concurrentDetection e is_active) s fun _ t => Unlocked t := by
  unfold concurrentDetection
  rw [ensures_bind]
  refine locked_through (disconnectEvent_device e false) hs ?_
  intro _ t ht
  rw [ensures_bind]
  refine ensures_transit ht settled_loaded ?_
  intro u hu
  rw [ensures_bind]
  refine ended_through (StLoaded.concurrentStream_steady e is_active) hu ?_
  intro st v hv
  rw [ensures_bind]
  exact ensures_releaseWakeLock hv fun w hw => (ensures_pure _ _ _).mpr hw

theorem ssrOfflineDetection_unlocked {s : StreamSoundTrigger} (hs : Locked s) :
    Ensures (ssrOfflineDetection e) s fun _ t => Unlocked t := by
  unfold ssrOfflineDetection
  rw [ensures_bind]
  exact (stopDetection_unlocked e hs).mono fun _ t ht => goOffline_unlocked e ht

/-! ### The states with a detection -/

@[simp] theorem locked_mk (t : StreamSoundTrigger) {rs c p md o sh cc cp sc sm mt id gm g v en n d r
    rd ss rj ps nv br sk} :
    Locked ⟨t.cur_state_, rs, c, p, md, o, sh, cc, cp, sc, sm, mt, id, gm, g, v, en, n, d, r, rd,
      ss, rj, ps, nv, br, sk, t.calls⟩ ↔ Locked t := by
  simp only [locked_iff]

@[simp] theorem locked_transit {t : StreamSoundTrigger} {state rs c p md o sh cc cp sc sm mt id gm g v
    en n d r rd ss rj ps nv br sk} (ht : Locked t) (hstate : Detecting state) :
    Locked ⟨state, rs, c, p, md, o, sh, cc, cp, sc, sm, mt, id, gm, g, v, en, n, d, r, rd, ss, rj, ps,
      nv, br, sk, t.calls⟩ :=
  ⟨ht.wake, hstate⟩

theorem pauseDetection_unlocked {s : StreamSoundTrigger} (hs : Locked s) :
    Ensures (pauseDetection e) s fun _ t => Unlocked t :=
  endDetection_unlocked e (steady_of_frame (notifyAbort_frame e)) hs

theorem unloadDetection_unlocked {s : StreamSoundTrigger} (hs : Locked s) :
    Ensures (unloadDetection e) s fun _ t => Unlocked t :=
  endDetection_unlocked e (StLoaded.unloadModel_steady e) hs

theorem configDetection_unlocked (config : pal_st_recognition_config) {s : StreamSoundTrigger}
    (hs : Locked s) : Ensures (configDetection e config) s fun _ t => Unlocked t :=
  endDetection_unlocked e (steady_of_frame (sendRecognitionConfig_frame e config)) hs

theorem balanced_of_unlocked {α : Type} {m : StProc α} {s : StreamSoundTrigger}
    (h : Ensures m s fun _ t => Unlocked t) : Ensures m s fun _ t => WakeBalanced t :=
  h.mono fun _ _ => Unlocked.balanced

theorem balanced_of_device {α : Type} {m : StProc α} (hm : Respects DeviceFrame m)
    {s : StreamSoundTrigger} (hs : Locked s) : Ensures m s fun _ t => WakeBalanced t :=
  locked_through hm hs fun _ _ => Locked.balanced

/-- In `ST_STATE_DETECTED` every event is balanced. -/
theorem detected_balanced {s : StreamSoundTrigger} (hs : Locked s) (ev : StEvent) :
    Ensures (StDetected.processEvent e ev) s fun _ t => WakeBalanced t := by
  have hmk : ∀ p rs, Locked { s with paused_ := p, state_for_restore_ := rs } :=
    fun _ _ => (locked_mk s).mpr hs
  cases ev with
  | ST_EV_START_RECOGNITION => exact balanced_of_unlocked (restartRecognition_unlocked e hs)
  | ST_EV_PAUSE =>
    refine (ensures_bind _ _ _ _).mpr ((ensures_modify _ _ _).mpr ?_)
    exact balanced_of_unlocked (pauseDetection_unlocked e (hmk true _))
  | ST_EV_INTERNAL_PAUSE =>
    refine (ensures_bind _ _ _ _).mpr ((ensures_modify _ _ _).mpr ?_)
    exact balanced_of_unlocked (stopDetection_unlocked e (hmk true _))
  | ST_EV_UNLOAD_SOUND_MODEL => exact balanced_of_unlocked (unloadDetection_unlocked e hs)
  | ST_EV_STOP_RECOGNITION => exact balanced_of_unlocked (stopDetection_unlocked e hs)
  | ST_EV_RECOGNITION_CONFIG config =>
    simp [StDetected.processEvent, hs.balanced,
      balanced_of_unlocked (configDetection_unlocked e config hs)]
  | ST_EV_CONCURRENT_STREAM is_active =>
    exact balanced_of_unlocked (concurrentDetection_unlocked e is_active hs)
  | ST_EV_DEVICE_DISCONNECTED dev_id => exact balanced_of_device (disconnectEvent_device e true) hs
  | ST_EV_DEVICE_CONNECTED => exact balanced_of_device (connectEvent_device e) hs
  | ST_EV_SSR_OFFLINE =>
    refine (ensures_bind _ _ _ _).mpr ((ensures_modify _ _ _).mpr ?_)
    exact balanced_of_unlocked (ssrOfflineDetection_unlocked e (hmk _ _))
  | ST_EV_EC_REF => exact balanced_of_device (device_of_frame (ecRef_frame e)) hs
  | _ => simp [StDetected.processEvent, hs.balanced, (hmk _ _).balanced]

/-! ### Where the lock is missed -/

/-- In the second stage, `connectEvent` fails: there is a device already, or none that can be used,
or a call on it or on an engine fails. Without a capture profile it succeeds with no device. -/
def connectFails (s : StreamSoundTrigger) : Bool :=
  s.mDevices.isSome || ((s.sm_cfg_ && e.getCurrentCaptureProfile.isSome) &&
    (e.captureDevice.isNone || e.setupSessionDevice != 0 ||
      (!s.device_opened_ && e.deviceOpen != 0) || e.deviceStart != 0 ||
      e.connectSessionDevice != 0 ||
      (firstFailure (engineAnswers s.engines_ e.startRecognition)).isSome))

/-- A device that `connectDevice` starts was found, opened, started and connected. -/
theorem connectDevice_started {s : StreamSoundTrigger} (hnone : s.mDevices = none)
    (hprof : (profileTaken e s).isSome = true) :
    Ensures (connectDevice e true) s fun r t =>
      match r with
      | .error status => status ≠ 0
      | .ok _ => (e.captureDevice.isSome = true ∧ e.setupSessionDevice = 0 ∧
          (s.device_opened_ = false → e.deviceOpen = 0) ∧ e.deviceStart = 0 ∧
          e.connectSessionDevice = 0) ∧ t.cur_state_ = s.cur_state_ ∧ t.engines_ = s.engines_ ∧
          t.second_stage_processing_ = s.second_stage_processing_ := by
  have hmic : deviceTakenUp e s = e.captureDevice := by simp [deviceTakenUp, hprof, hnone]
  unfold connectDevice
  rw [ensures_bind, ensures_get, if_neg (by simp [hnone]), ensures_bind, ensures_updateDeviceConfig,
    ensures_bind, ensures_get]
  rcases hcap : e.captureDevice with _ | dev
  · simp [configured, hmic, hcap, hprof, EINVAL]
  simp [configured, hmic, hcap]
  intro _ _ _ _ hsetup
  constructor
  · exact fun _ hopen hstart hconnect => ⟨hsetup, fun _ => hopen, hstart, hconnect⟩
  · exact fun hopened hstart hconnect => ⟨hsetup, fun h => by simp [hopened] at h, hstart, hconnect⟩

theorem connectEvent_fails {s : StreamSoundTrigger} (hcur : s.cur_state_ = ST_STATE_BUFFERING)
    (hss : s.second_stage_processing_ = true) (hfails : connectFails e s = true) :
    Ensures (connectEvent e) s fun status _ => status ≠ 0 := by
  unfold connectFails at hfails
  cases hdev : s.mDevices with
  | some dev => simp [connectEvent, connectDevice, hdev, EINVAL]
  | none =>
    simp only [hdev, Option.isSome_none, Bool.false_or, Bool.and_eq_true] at hfails
    obtain ⟨⟨hcfg, hprof⟩, hfails⟩ := hfails
    have htaken : (profileTaken e s).isSome = true := by simpa [profileTaken, hcfg] using hprof
    refine (connectDevice_started e hdev htaken).bind fun connected t ht => ?_
    cases connected with
    | error status => exact (ensures_pure _ _ _).mpr ht
    | ok dev =>
      obtain ⟨⟨hcap, hsetup, hopen, hstart, hconnect⟩, hcur', hengines, hss'⟩ := ht
      -- all calls on the device succeeded, so an engine does not start
      have hopen' : (!s.device_opened_ && e.deviceOpen != 0) = false := by
        cases hopened : s.device_opened_ <;> simp [hopened, hopen]
      have hfail : (firstFailure (engineAnswers t.engines_ e.startRecognition)).isSome = true := by
        rw [hengines]
        simpa [hsetup, hopen', hstart, hconnect, Option.isSome_iff_ne_none.mp hcap] using hfails
      obtain ⟨status, hstatus⟩ := Option.isSome_iff_exists.mp hfail
      rw [ensures_bind, ensures_get, if_pos (hcur'.trans hcur), if_pos (hss'.trans hss), hstatus]
      exact Ensures.bind (Q := fun _ _ => True) (fun _ _ _ => trivial) fun _ _ _ =>
        (ensures_pure _ _ _).mpr (firstFailure_ne_zero hstatus)

/-- `connectEvent` never begins a second stage. -/
theorem connectEvent_second_stage {s : StreamSoundTrigger}
    (hss : s.second_stage_processing_ = false) :
    Ensures (connectEvent e) s fun _ t => t.second_stage_processing_ = false := by
  have hclose : ∀ st t, t.second_stage_processing_ = false →
      Ensures (stopAndCloseDevice st) t fun _ u => u.second_stage_processing_ = false := by
    intro st t ht
    unfold stopAndCloseDevice
    cases hdev : t.mDevices <;> simp [hdev, ht]
  have hupdate : Ensures (updateDeviceConfig e) s fun _ t => t.second_stage_processing_ = false :=
    (ensures_updateDeviceConfig e s _).mpr hss
  have hconnect : Ensures (connectDevice e true) s fun _ t => t.second_stage_processing_ = false := by
    unfold connectDevice
    rw [ensures_bind, ensures_get, ensures_ite]
    refine ⟨fun _ => (ensures_pure _ _ _).mpr hss, fun _ => hupdate.bind fun status t ht => ?_⟩
    cases hdev : t.mDevices <;> simp [hdev, ht]
  refine hconnect.bind fun connected t ht => ?_
  cases connected with
  | error status => exact (ensures_pure _ _ _).mpr ht
  | ok dev =>
    cases hfail : firstFailure (engineAnswers t.engines_ e.startRecognition) <;>
      simp [hfail, hclose, ht]

/-- **Where the wake lock is kept right**: no rejection is told to the client, and no device is
connected in the second stage. -/
def keepsWakeLock : EventCond := fun e s ev =>
  match s.cur_state_, ev with
  | ST_STATE_BUFFERING, ST_EV_DETECTED det_type =>
    (det_type != KEYWORD_DETECTION_REJECT && det_type != USER_VERIFICATION_REJECT) ||
      s.rejection_notified_ || !e.getNotifySecondStageFailure
  | ST_STATE_BUFFERING, ST_EV_DEVICE_CONNECTED => !s.second_stage_processing_ || connectFails e s
  | _, _ => true

theorem rejected_balanced {s : StreamSoundTrigger} (hs : Locked s) (det_type : ℕ)
    (hok : s.rejection_notified_ = true ∨ e.getNotifySecondStageFailure = false) :
    Ensures (StBuffering.rejected e det_type) s fun _ t => WakeBalanced t := by
  have hrelease : ∀ t, Ended t → Ensures releaseWakeLock t fun _ u => WakeBalanced u :=
    fun t ht => ensures_releaseWakeLock ht fun _ => Unlocked.balanced
  have hended : ∀ status : ℤ, Settled (if status = 0 then ST_STATE_ACTIVE else ST_STATE_LOADED) := by
    intro status
    split_ifs
    · exact settled_active
    · exact settled_loaded
  unfold StBuffering.rejected
  cases hnotified : s.rejection_notified_ with
  | true => simp [hnotified, hs.balanced]
  | false =>
    have hno : e.getNotifySecondStageFailure = false := by simpa [hnotified] using hok
    simp only [ensures_bind, ensures_get, ensures_ite, ensures_modify, ensures_transitTo, hnotified,
      hno, ensures_pure]
    simp only [Bool.false_eq_true, false_implies, not_false_eq_true, true_implies, true_and]
    exact hrelease _ ⟨hs.wake, hended _⟩

theorem bufferingDetected_balanced {s : StreamSoundTrigger} (hs : Locked s)
    (hcur : s.cur_state_ = ST_STATE_BUFFERING) {det_type : ℕ}
    (hok : keepsWakeLock e s (ST_EV_DETECTED det_type) = true) :
    Ensures (StBuffering.detected e det_type) s fun _ t => WakeBalanced t := by
  have hnotify : ∀ t, Locked t → ∀ Q : ℤ → StreamSoundTrigger → Prop,
      (∀ st u, Locked u → Q st u) → Ensures (notifyDetection e) t Q :=
    fun t ht Q => locked_through (device_of_frame (notifyDetection_frame e)) ht
  unfold StBuffering.detected
  by_cases hreject : det_type = KEYWORD_DETECTION_REJECT ∨ det_type = USER_VERIFICATION_REJECT
  · have hok' : s.rejection_notified_ = true ∨ e.getNotifySecondStageFailure = false := by
      rcases hreject with rfl | rfl <;> simpa [keepsWakeLock, hcur] using hok
    simp [hreject, hs.balanced, rejected_balanced e hs det_type hok']
  · have hdet : Detecting ST_STATE_DETECTED := Or.inl rfl
    simp +contextual [hreject, hs.balanced, hnotify, hs, hdet, Locked.balanced]

theorem deviceConnected_balanced {s : StreamSoundTrigger} (hs : Locked s)
    (hcur : s.cur_state_ = ST_STATE_BUFFERING)
    (hok : keepsWakeLock e s ST_EV_DEVICE_CONNECTED = true) :
    Ensures (StBuffering.deviceConnected e) s fun _ t => WakeBalanced t := by
  have hstays : Ensures (connectEvent e) s fun status t =>
      ¬(status = 0 ∧ t.second_stage_processing_ = true) := by
    cases hss : s.second_stage_processing_ with
    | false =>
      refine (connectEvent_second_stage e hss).mono ?_
      rintro _ t ht ⟨-, ht'⟩
      rw [ht] at ht'
      exact absurd ht' (by decide)
    | true =>
      have hfails : connectFails e s = true := by simpa [keepsWakeLock, hcur, hss] using hok
      exact (connectEvent_fails e hcur hss hfails).mono fun _ _ hne hboth => hne hboth.1
  have hlocked : Ensures (connectEvent e) s fun _ t => Locked t :=
    locked_through (connectEvent_device e) hs fun _ _ => id
  unfold StBuffering.deviceConnected
  refine (hstays.and hlocked).bind ?_
  rintro status t ⟨hnot, ht⟩
  simp only [ensures_bind, ensures_get, ensures_ite, ensures_pure]
  exact ⟨fun hboth => absurd hboth hnot, fun _ => ht.balanced⟩

theorem buffering_balanced {s : StreamSoundTrigger} (hs : Locked s)
    (hcur : s.cur_state_ = ST_STATE_BUFFERING) {ev : StEvent}
    (hok : keepsWakeLock e s ev = true) :
    Ensures (StBuffering.processEvent e ev) s fun _ t => WakeBalanced t := by
  have hmk : ∀ p rs, Locked { s with paused_ := p, state_for_restore_ := rs } :=
    fun _ _ => (locked_mk s).mpr hs
  have hdrop : ∀ t, Locked t → ∀ Q : Unit → StreamSoundTrigger → Prop,
      (∀ u, Locked u → Q () u) → Ensures dropNlpiVote t Q := by
    intro t ht Q hQ
    unfold dropNlpiVote
    rw [ensures_modify]
    exact hQ _ ((locked_mk t).mpr ht)
  cases ev with
  | ST_EV_READ_BUFFER =>
    simp [StBuffering.processEvent, StBuffering.readBuffer, hs.balanced, hs, Locked.balanced]
  | ST_EV_STOP_BUFFERING =>
    simp [StBuffering.processEvent, dropNlpiVote, postDelayedStop, hs, Locked.balanced]
  | ST_EV_START_RECOGNITION =>
    refine (ensures_bind _ _ _ _).mpr (hdrop s hs _ fun t ht => ?_)
    exact balanced_of_unlocked (restartRecognition_unlocked e ht)
  | ST_EV_PAUSE =>
    refine (ensures_bind _ _ _ _).mpr ((ensures_modify _ _ _).mpr ?_)
    refine (ensures_bind _ _ _ _).mpr (hdrop _ (hmk true _) _ fun t ht => ?_)
    exact balanced_of_unlocked (pauseDetection_unlocked e ht)
  | ST_EV_INTERNAL_PAUSE =>
    refine (ensures_bind _ _ _ _).mpr ((ensures_modify _ _ _).mpr ?_)
    refine (ensures_bind _ _ _ _).mpr (hdrop _ (hmk true _) _ fun t ht => ?_)
    exact balanced_of_unlocked (stopDetection_unlocked e ht)
  | ST_EV_UNLOAD_SOUND_MODEL =>
    refine (ensures_bind _ _ _ _).mpr (hdrop s hs _ fun t ht => ?_)
    exact balanced_of_unlocked (unloadDetection_unlocked e ht)
  | ST_EV_STOP_RECOGNITION =>
    refine (ensures_bind _ _ _ _).mpr (hdrop s hs _ fun t ht => ?_)
    exact balanced_of_unlocked (stopDetection_unlocked e ht)
  | ST_EV_RECOGNITION_CONFIG config =>
    have hconfig : ∀ t, Locked t → Ensures (configDetection e config) t fun _ u => WakeBalanced u :=
      fun t ht => balanced_of_unlocked (configDetection_unlocked e config ht)
    simp [StBuffering.processEvent, hs.balanced, dropNlpiVote, hconfig, hs]
  | ST_EV_CONCURRENT_STREAM is_active =>
    refine (ensures_bind _ _ _ _).mpr (hdrop s hs _ fun t ht => ?_)
    exact balanced_of_unlocked (concurrentDetection_unlocked e is_active ht)
  | ST_EV_DEVICE_DISCONNECTED dev_id =>
    refine (ensures_bind _ _ _ _).mpr (hdrop s hs _ fun t ht => ?_)
    exact balanced_of_device (disconnectEvent_device e true) ht
  | ST_EV_DETECTED det_type => exact bufferingDetected_balanced e hs hcur hok
  | ST_EV_DEVICE_CONNECTED => exact deviceConnected_balanced e hs hcur hok
  | ST_EV_SSR_OFFLINE =>
    refine (ensures_bind _ _ _ _).mpr ((ensures_modify _ _ _).mpr ?_)
    refine (ensures_bind _ _ _ _).mpr (hdrop _ (hmk _ _) _ fun t ht => ?_)
    exact balanced_of_unlocked (ssrOfflineDetection_unlocked e ht)
  | ST_EV_EC_REF => exact balanced_of_device (device_of_frame (ecRef_frame e)) hs
  | _ => simp [StBuffering.processEvent, hs.balanced]

/-! ### Runs -/

/-- An event that meets the condition keeps the balance; a detection of the first stage is handed
on by `setEngineDetectionState` only. -/
theorem event_balanced {s : StreamSoundTrigger} (hs : WakeBalanced s) {ev : StEvent}
    (hfirst : ∀ det_type, ev = ST_EV_DETECTED det_type → ¬IsFirstStage det_type)
    (hok : keepsWakeLock e s ev = true) :
    Ensures (processEvent e ev) s fun _ t => WakeBalanced t := by
  have hun : ¬Detecting s.cur_state_ → Unlocked s := hs.unlocked
  have hlo : Detecting s.cur_state_ → Locked s := hs.locked
  unfold processEvent
  rw [ensures_bind, ensures_get]
  cases hcur : s.cur_state_ with
  | ST_STATE_IDLE =>
    exact balanced_of_unlocked (idle_unlocked e (hun (by rw [hcur]; decide)) ev)
  | ST_STATE_LOADED =>
    exact balanced_of_unlocked (loaded_unlocked e (hun (by rw [hcur]; decide)) ev)
  | ST_STATE_ACTIVE =>
    exact balanced_of_unlocked (active_unlocked e (hun (by rw [hcur]; decide)) hfirst)
  | ST_STATE_DETECTED => exact detected_balanced e (hlo (by rw [hcur]; decide)) ev
  | ST_STATE_BUFFERING => exact buffering_balanced e (hlo (by rw [hcur]; decide)) hcur hok
  | ST_STATE_SSR => exact balanced_of_unlocked (ssr_unlocked e (hun (by rw [hcur]; decide)) ev)

/-- A detection of the first stage takes over the lock that was acquired for it. -/
theorem firstStage_balanced {s : StreamSoundTrigger} (hs : WakeBalanced s) {det_type : ℕ}
    (hfirst : IsFirstStage det_type) (hcur : s.cur_state_ = ST_STATE_ACTIVE) :
    Ensures (processEvent e (ST_EV_DETECTED det_type))
      { s with calls := .acquireWakeLock :: s.calls } fun _ t => WakeBalanced t := by
  have hwake : balance wakeDelta s.calls = 0 := (hs.unlocked (by rw [hcur]; decide)).wake
  have hbuffering : Detecting ST_STATE_BUFFERING := Or.inr rfl
  -- the lock is taken, and the stream goes to a state that holds it
  have hlocked : ∀ (t : StreamSoundTrigger) (state : st_state_id_t), Detecting state →
      balance wakeDelta t.calls = 1 → Locked { t with cur_state_ := state } :=
    fun t state hstate ht => ⟨ht, hstate⟩
  have hone : balance wakeDelta (.acquireWakeLock :: s.calls) = 1 := by simp [hwake]
  have hend : ∀ t, Locked t → Ensures (do
      if s.engines_.length = 1 then let _ ← notifyDetection e
      return 0 : StProc ℤ) t fun _ u => WakeBalanced u := by
    intro t ht
    refine (ensures_ite _ _ _ _ _).mpr ⟨fun _ => ?_, fun _ => (ensures_pure _ _ _).mpr ht.balanced⟩
    refine (locked_through (device_of_frame (notifyDetection_frame e)) ht fun _ _ => id).bind ?_
    exact fun _ u hu => (ensures_pure _ _ _).mpr hu.balanced
  unfold processEvent
  rw [ensures_bind, ensures_get]
  simp only [hcur, StActive.processEvent]
  unfold StActive.detected
  rw [ensures_bind, ensures_get]
  rcases hfirst with rfl | rfl
  · rw [if_neg (by simp), if_neg (by decide), ensures_bind, ensures_deref]
    intro _
    refine (ensures_ite _ _ _ _ _).mpr ⟨fun _ => ?_, fun _ => ?_⟩
    · rw [ensures_bind, ensures_transitTo]
      exact hend _ (hlocked _ _ (Or.inl rfl) hone)
    · refine (ensures_ite _ _ _ _ _).mpr ⟨fun _ => ?_, fun _ => ?_⟩
      · rw [ensures_bind, ensures_modify, ensures_bind, ensures_transitTo]
        exact hend _ (hlocked _ _ hbuffering hone)
      · rw [ensures_bind, ensures_transitTo]
        exact hend _ (hlocked _ _ hbuffering hone)
  · rw [if_neg (by simp), if_pos rfl, ensures_bind, ensures_modify, ensures_bind, ensures_transitTo]
    exact hend _ (hlocked _ _ hbuffering hone)

end Handlers

theorem WakeBalanced.frame {s t : StreamSoundTrigger} (h : Frame s t) (hs : WakeBalanced s) :
    WakeBalanced t := by
  unfold WakeBalanced
  rw [h.calls, h.cur_state_]
  exact hs

theorem init_balanced (online paused : Bool) :
    WakeBalanced (StreamSoundTrigger.init online paused) := by
  cases online <;> rfl

/-- **The wake lock of a detection.** In a run in which no rejection is told to the client and no
device is connected in the second stage, the lock is held once in `ST_STATE_DETECTED` and
`ST_STATE_BUFFERING`, and not in any other state. -/
theorem wakeBalanced_along {online paused : Bool} {is : List StreamInput} {s : StreamSoundTrigger}
    (hok : Meets step (Admits keepsWakeLock) (StreamSoundTrigger.init online paused) is)
    (hs : run step (StreamSoundTrigger.init online paused) is = some s) : WakeBalanced s := by
  refine run_invariant_of_meets ?_ hok (init_balanced online paused) hs
  intro s i t hok hs ht
  apply inv_of_admits hok ht
  exact call_keeps (fun _ _ h => WakeBalanced.frame h.frame)
    (fun e ev s hfirst hok hs => event_balanced e hs hfirst hok)
    (fun e det_type s hfirst hcur hs => firstStage_balanced e hs hfirst hcur) i.1 i.2 hs

instance : DecidablePred WakeBalanced := fun s => by
  unfold WakeBalanced
  infer_instance

/-- A first stage detects, and the second stage rejects. -/
def rejectedRun (e : Env) : List StreamInput :=
  startCalls e true ++ [(e, .setEngineDetectionState GMM_DETECTED),
    (e, .setEngineDetectionState KEYWORD_DETECTION_REJECT)]

theorem wakeBalanced_rejectedRun :
    ∃ s, run step (StreamSoundTrigger.init true false) (rejectedRun .smooth) = some s ∧
      WakeBalanced s := by
  have hok : Meets step (Admits keepsWakeLock) (StreamSoundTrigger.init true false)
      (rejectedRun .smooth) :=
    meets_cons_of_some rfl rfl <| meets_cons_of_some rfl rfl <| meets_cons_of_some rfl rfl <|
      meets_cons_of_some rfl rfl <| meets_cons_of_some rfl rfl trivial
  exact ⟨_, rfl, wakeBalanced_along hok rfl⟩

/-- Where the client is notified of a rejection, the lock is released while the stream stays in
`ST_STATE_BUFFERING`. -/
theorem not_wakeBalanced_notified :
    ∃ s, run step (StreamSoundTrigger.init true false)
      (rejectedRun { Env.smooth with getNotifySecondStageFailure := true }) = some s ∧
      ¬WakeBalanced s :=
  ⟨_, rfl, by decide⟩

end AudioReachPal.StStream
