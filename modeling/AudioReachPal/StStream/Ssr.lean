import AudioReachPal.StStream.Frames
import AudioReachPal.Lib.Runs

/-!
# The state to restore after a subsystem restart

When the sound card goes offline a stream records the state it is in, unless a state is recorded
already; when the card is back it returns to that state and clears the record. A return that is
broken off leaves the record as it is, and the next restart finds it there.
-/

namespace AudioReachPal.StStream

open AudioReachPal.Lib

open st_state_id_t st_module_type_t stream_state_t StEvent

/-! ### What keeps the record -/

/-- The state to restore is kept, and the stream does not begin to wait for the sound card. -/
@[mk_iff]
structure RestoreFrame (s t : StreamSoundTrigger) : Prop where
  state_for_restore_ : t.state_for_restore_ = s.state_for_restore_
  cur_state_ : t.cur_state_ = ST_STATE_SSR → s.cur_state_ = ST_STATE_SSR

instance : IsPreorder StreamSoundTrigger RestoreFrame where
  refl _ := ⟨rfl, id⟩
  trans _ _ _ h h' := ⟨h'.1.trans h.1, h.2 ∘ h'.2⟩

@[simp] theorem restoreFrame_mk (s t : StreamSoundTrigger) {c p md o sh cc cp sc sm mt id gm g v en n d
    r rd ss rj ps nv br sk calls} :
    RestoreFrame s ⟨t.cur_state_, t.state_for_restore_, c, p, md, o, sh, cc, cp, sc, sm, mt, id, gm,
      g, v, en, n, d, r, rd, ss, rj, ps, nv, br, sk, calls⟩ ↔ RestoreFrame s t := by
  simp only [restoreFrame_iff]

@[simp] theorem restoreFrame_transit {s t : StreamSoundTrigger} {state c p md o sh cc cp sc sm mt id
    gm g v en n d r rd ss rj ps nv br sk calls} (hst : RestoreFrame s t)
    (hstate : state ≠ ST_STATE_SSR) :
    RestoreFrame s ⟨state, t.state_for_restore_, c, p, md, o, sh, cc, cp, sc, sm, mt, id, gm, g, v,
      en, n, d, r, rd, ss, rj, ps, nv, br, sk, calls⟩ :=
  ⟨hst.state_for_restore_, fun h => absurd h hstate⟩

@[simp] theorem restoreFrame_refl (s : StreamSoundTrigger) : RestoreFrame s s := refl s

theorem Settled.ne_ssr {state : st_state_id_t} (h : Settled state) : state ≠ ST_STATE_SSR := by
  rcases h with rfl | rfl | rfl <;> decide

theorem restore_of_steady {α : Type} {m : StProc α} (h : Respects Steady m) :
    Respects RestoreFrame m := by
  refine h.mono fun s t hst => ⟨hst.state_for_restore_, fun ht => ?_⟩
  rcases hst.cur_state_ with hcur | hcur
  · exact hcur ▸ ht
  · exact absurd ht hcur.ne_ssr

theorem restore_of_device {α : Type} {m : StProc α} (h : Respects DeviceFrame m) :
    Respects RestoreFrame m :=
  restore_of_steady (steady_of_device h)

theorem restore_of_frame {α : Type} {m : StProc α} (h : Respects Frame m) :
    Respects RestoreFrame m :=
  restore_of_steady (steady_of_frame h)

section Handlers

variable (e : Env)

theorem endStatus_ne_ssr (status : ℤ) :
    (if status = 0 then ST_STATE_ACTIVE else ST_STATE_LOADED) ≠ ST_STATE_SSR := by
  split_ifs <;> decide

theorem restartRecognition_restore : Respects RestoreFrame (restartRecognition e) := by
  intro s
  simp [restartRecognition, cancelDelayedStop, releaseWakeLock, endStatus_ne_ssr]

theorem stopDetection_restore : Respects RestoreFrame (stopDetection e) := by
  intro s
  simp +contextual [stopDetection, cancelDelayedStop, releaseWakeLock,
    (restore_of_steady (haltStream_steady e _)).through (s := s)]

/-- A detection that ends in a stop keeps the record if what is done after the stop does. -/
theorem endDetection_restore {m : StProc ℤ} (hm : Respects RestoreFrame m) :
    Respects RestoreFrame
      (do cancelDelayedStop; let _ ← haltStream e 0; let st ← m; releaseWakeLock; pure st) := by
  intro s
  simp only [ensures_bind, cancelDelayedStop, ensures_modify]
  refine (restore_of_steady (haltStream_steady e 0)).through ((restoreFrame_mk s s).mpr (refl s)) ?_
  intro _ t ht
  refine hm.through ht ?_
  intro st u hu
  simp [releaseWakeLock, hu]

theorem concurrentDetection_restore (is_active : Bool) :
    Respects RestoreFrame (concurrentDetection e is_active) := by
  unfold concurrentDetection
  apply (restore_of_device (disconnectEvent_device e false)).bind
  intro _ s
  simp +contextual [releaseWakeLock,
    (restore_of_steady (StLoaded.concurrentStream_steady e is_active)).through (s := s)]

theorem notifyDetection_restore : Respects RestoreFrame (notifyDetection e) :=
  restore_of_frame (notifyDetection_frame e)

theorem StActive.detected_restore (det_type : ℕ) :
    Respects RestoreFrame (StActive.detected e det_type) := by
  intro s
  simp [StActive.detected, (notifyDetection_restore e).through (s := s)]

theorem StBuffering.rejected_restore (det_type : ℕ) :
    Respects RestoreFrame (StBuffering.rejected e det_type) := by
  intro s
  simp +contextual [StBuffering.rejected, releaseWakeLock, endStatus_ne_ssr,
    (notifyDetection_restore e).through (s := s)]

theorem StBuffering.detected_restore (det_type : ℕ) :
    Respects RestoreFrame (StBuffering.detected e det_type) := by
  intro s
  simp [StBuffering.detected, (StBuffering.rejected_restore e det_type).after,
    (notifyDetection_restore e).through (s := s)]

theorem StBuffering.deviceConnected_restore :
    Respects RestoreFrame (StBuffering.deviceConnected e) := by
  unfold StBuffering.deviceConnected
  apply (restore_of_device (connectEvent_device e)).bind
  intro status s
  simp

theorem modify_restore {f : StreamSoundTrigger → StreamSoundTrigger}
    (hf : ∀ s, RestoreFrame s (f s)) : Respects RestoreFrame (modify f) :=
  (respects_modify f).mpr hf

theorem dropNlpiVote_restore : Respects RestoreFrame dropNlpiVote :=
  modify_restore fun s => (restoreFrame_mk s s).mpr (refl s)

theorem pause_restore : Respects RestoreFrame
    (modify fun s : StreamSoundTrigger => { s with paused_ := true }) :=
  modify_restore fun s => (restoreFrame_mk s s).mpr (refl s)

theorem pauseDetection_restore : Respects RestoreFrame (pauseDetection e) :=
  endDetection_restore e (restore_of_frame (notifyAbort_frame e))

theorem unloadDetection_restore : Respects RestoreFrame (unloadDetection e) :=
  endDetection_restore e (restore_of_steady (StLoaded.unloadModel_steady e))

theorem configDetection_restore (config : pal_st_recognition_config) :
    Respects RestoreFrame (configDetection e config) :=
  endDetection_restore e (restore_of_frame (sendRecognitionConfig_frame e config))

/-- In `ST_STATE_DETECTED` only the loss of the sound card touches the record. -/
theorem StDetected.processEvent_restore {ev : StEvent} (hssr : ¬IsSsrEvent ev) :
    Respects RestoreFrame (StDetected.processEvent e ev) := by
  cases ev with
  | ST_EV_SSR_OFFLINE => exact absurd trivial hssr
  | ST_EV_START_RECOGNITION => exact restartRecognition_restore e
  | ST_EV_PAUSE => exact pause_restore.bind fun _ => pauseDetection_restore e
  | ST_EV_INTERNAL_PAUSE => exact pause_restore.bind fun _ => stopDetection_restore e
  | ST_EV_UNLOAD_SOUND_MODEL => exact unloadDetection_restore e
  | ST_EV_STOP_RECOGNITION => exact stopDetection_restore e
  | ST_EV_RECOGNITION_CONFIG config =>
    intro s
    simp [StDetected.processEvent, (configDetection_restore e config).after]
  | ST_EV_CONCURRENT_STREAM is_active => exact concurrentDetection_restore e is_active
  | ST_EV_DEVICE_DISCONNECTED dev_id => exact restore_of_device (disconnectEvent_device e true)
  | ST_EV_DEVICE_CONNECTED => exact restore_of_device (connectEvent_device e)
  | ST_EV_EC_REF => exact restore_of_frame (ecRef_frame e)
  | _ => intro s; simp [StDetected.processEvent]

/-- And so in `ST_STATE_BUFFERING`. -/
theorem StBuffering.processEvent_restore {ev : StEvent} (hssr : ¬IsSsrEvent ev) :
    Respects RestoreFrame (StBuffering.processEvent e ev) := by
  have hdrop : ∀ {m : StProc ℤ}, Respects RestoreFrame m →
      Respects RestoreFrame (do dropNlpiVote; m) :=
    fun hm => dropNlpiVote_restore.bind fun _ => hm
  cases ev with
  | ST_EV_SSR_OFFLINE => exact absurd trivial hssr
  | ST_EV_START_RECOGNITION => exact hdrop (restartRecognition_restore e)
  | ST_EV_PAUSE => exact pause_restore.bind fun _ => hdrop (pauseDetection_restore e)
  | ST_EV_INTERNAL_PAUSE => exact pause_restore.bind fun _ => hdrop (stopDetection_restore e)
  | ST_EV_UNLOAD_SOUND_MODEL => exact hdrop (unloadDetection_restore e)
  | ST_EV_STOP_RECOGNITION => exact hdrop (stopDetection_restore e)
  | ST_EV_RECOGNITION_CONFIG config =>
    intro s
    simp [StBuffering.processEvent, dropNlpiVote, (configDetection_restore e config).after]
  | ST_EV_DETECTED det_type => exact StBuffering.detected_restore e det_type
  | ST_EV_CONCURRENT_STREAM is_active => exact hdrop (concurrentDetection_restore e is_active)
  | ST_EV_DEVICE_DISCONNECTED dev_id => 
    exact hdrop (restore_of_device (disconnectEvent_device e true))
  | ST_EV_DEVICE_CONNECTED => exact StBuffering.deviceConnected_restore e
  | ST_EV_READ_BUFFER => intro s; simp [StBuffering.processEvent, StBuffering.readBuffer]
  | ST_EV_STOP_BUFFERING =>
    intro s
    simp [StBuffering.processEvent, dropNlpiVote, postDelayedStop]
  | ST_EV_EC_REF => exact restore_of_frame (ecRef_frame e)
  | _ => intro s; simp [StBuffering.processEvent]

/-- In `ST_STATE_ACTIVE` too. -/
theorem StActive.processEvent_restore {ev : StEvent} (hssr : ¬IsSsrEvent ev) :
    Respects RestoreFrame (StActive.processEvent e ev) := by
  by_cases hdet : ∃ det_type, ev = ST_EV_DETECTED det_type
  · obtain ⟨det_type, rfl⟩ := hdet
    exact StActive.detected_restore e det_type
  · exact restore_of_steady (StActive.processEvent_steady e hssr fun d hd => hdet ⟨d, hd⟩)

/-! ### The loss of the sound card -/

/-- Nothing is recorded, unless the stream waits for the sound card. -/
def Cleared (s : StreamSoundTrigger) : Prop :=
  s.cur_state_ ≠ ST_STATE_SSR → s.state_for_restore_ = none

/-- A stream that waits records the state `r`. -/
def Recorded (r : st_state_id_t) (s : StreamSoundTrigger) : Prop :=
  s.cur_state_ = ST_STATE_SSR ∧ s.state_for_restore_ = some r

theorem goOffline_recorded {r : st_state_id_t} {s : StreamSoundTrigger}
    (hs : s.state_for_restore_ = some r) :
    Ensures (do let st ← StLoaded.unloadFstage e; transitTo ST_STATE_SSR; pure st) s
      fun _ t => Recorded r t := by
  rw [ensures_bind]
  refine (restore_of_steady (StLoaded.unloadFstage_steady e) s).mono ?_
  intro st t hst
  simp [Recorded, hst.state_for_restore_, hs]

/-- **What is recorded.** A stream that is idle, loaded or active records that state when nothing
is recorded yet. -/
theorem offline_recorded {s : StreamSoundTrigger} (hs : s.state_for_restore_ = none)
    (hcur : Settled s.cur_state_) :
    Ensures (processEvent e ST_EV_SSR_OFFLINE) s fun _ t => Recorded s.cur_state_ t := by
  unfold processEvent
  rw [ensures_bind, ensures_get]
  rcases hcur with hcur | hcur | hcur <;> rw [hcur]
  · simp [StIdle.processEvent, StIdle.ssrOffline, Recorded, hs]
  · refine (ensures_bind _ _ _ _).mpr ((ensures_modify _ _ _).mpr ?_)
    exact goOffline_recorded e (by simp [hs])
  · refine (ensures_bind _ _ _ _).mpr ((ensures_modify _ _ _).mpr ?_)
    rw [ensures_bind]
    refine (restore_of_steady (StActive.stopRecognition_steady e false) _).mono ?_
    intro _ t ht
    exact goOffline_recorded e (by simp [ht.state_for_restore_, hs])

/-- Whatever the state, the stream waits for the sound card afterwards. -/
theorem offline_waits (s : StreamSoundTrigger) :
    Ensures (processEvent e ST_EV_SSR_OFFLINE) s fun _ t => t.cur_state_ = ST_STATE_SSR := by
  have hgo : ∀ t : StreamSoundTrigger,
      Ensures (do let st ← StLoaded.unloadFstage e; transitTo ST_STATE_SSR; pure st) t
        fun _ u => u.cur_state_ = ST_STATE_SSR := by
    intro t
    rw [ensures_bind]
    exact (StLoaded.unloadFstage_steady e t).mono fun _ u _ => by simp
  have hdet : ∀ t, Ensures (ssrOfflineDetection e) t fun _ u => u.cur_state_ = ST_STATE_SSR := by
    intro t
    unfold ssrOfflineDetection
    rw [ensures_bind]
    exact (stopDetection_restore e t).mono fun _ u _ => hgo u
  unfold processEvent
  rw [ensures_bind, ensures_get]
  cases hcur : s.cur_state_ with
  | ST_STATE_IDLE => simp [StIdle.processEvent, StIdle.ssrOffline]
  | ST_STATE_LOADED => exact (ensures_bind _ _ _ _).mpr ((ensures_modify _ _ _).mpr (hgo _))
  | ST_STATE_ACTIVE =>
    refine (ensures_bind _ _ _ _).mpr ((ensures_modify _ _ _).mpr ?_)
    rw [ensures_bind]
    exact (StActive.stopRecognition_steady e false _).mono fun _ u _ => hgo u
  | ST_STATE_DETECTED => exact (ensures_bind _ _ _ _).mpr ((ensures_modify _ _ _).mpr (hdet _))
  | ST_STATE_BUFFERING =>
    refine (ensures_bind _ _ _ _).mpr ((ensures_modify _ _ _).mpr ?_)
    simp [dropNlpiVote, hdet]
  | ST_STATE_SSR => simp [StSSR.processEvent, hcur]

/-- While the sound card is away, the stream goes on waiting for it. -/
theorem StSSR.processEvent_waits {s : StreamSoundTrigger} (hcur : s.cur_state_ = ST_STATE_SSR)
    {ev : StEvent} (hev : ev ≠ ST_EV_SSR_ONLINE) :
    Ensures (StSSR.processEvent e ev) s fun _ t => t.cur_state_ = ST_STATE_SSR := by
  cases ev with
  | ST_EV_SSR_ONLINE => exact absurd rfl hev
  | ST_EV_LOAD_SOUND_MODEL model =>
    have hmodel : ∀ Q : ℤ → StreamSoundTrigger → Prop,
        (∀ st t, t.cur_state_ = ST_STATE_SSR → Q st t) → Ensures (updateSoundModel e model) s Q :=
      fun Q hQ => (updateSoundModel_frame e model s).mono fun st t ht =>
        hQ st t (ht.cur_state_.trans hcur)
    simp +contextual [StSSR.processEvent, StSSR.loadModel, StSSR.clientCommand,
      StSSR.restoreTo, hmodel, hcur]
  | ST_EV_RECOGNITION_CONFIG config =>
    simp [StSSR.processEvent, StSSR.clientCommand, updateRecognitionConfig, hcur]
  | ST_EV_PAUSE => simp [StSSR.processEvent, notifyAbort, hcur]
  | _ =>
    simp [StSSR.processEvent, StSSR.clientCommand, StSSR.restoreTo, StSSR.startRecognition,
      StSSR.resume, hcur]

/-! ### The return of the sound card -/

/-- `updateDeviceConfig` succeeds. -/
def deviceConfigOk (s : StreamSoundTrigger) : Bool :=
  !s.sm_cfg_ || e.getCurrentCaptureProfile.isNone || s.mDevices.isSome || e.captureDevice.isSome

theorem deviceConfigOk_iff {s : StreamSoundTrigger} : deviceConfigOk e s = true ↔
    ¬((profileTaken e s).isSome ∧ deviceTakenUp e s = none) := by
  unfold deviceConfigOk deviceTakenUp profileTaken
  cases s.sm_cfg_ <;> cases e.getCurrentCaptureProfile <;> cases s.mDevices <;>
    cases e.captureDevice <;> simp

/-- **The rule of `fstageLoad`.** -/
theorem ensures_fstageLoad (s : StreamSoundTrigger) (Q : ℤ → StreamSoundTrigger → Prop) :
    Ensures (fstageLoad e) s Q ↔ (deviceConfigOk e s = false → Q (-EINVAL) (configured e s)) ∧
      (deviceConfigOk e s = true → ((profileTaken e s).isSome && s.sm_cfg_ && s.vui_intf_) = true →
        s.gsl_engine_ = true → Q e.gslLoadSoundModel (configured e s)) := by
  unfold fstageLoad
  rw [ensures_bind, ensures_updateDeviceConfig]
  by_cases hok : deviceConfigOk e s = true
  · rw [if_neg ((deviceConfigOk_iff e).mp hok)]
    simp [hok, configured]
  · rw [if_pos (not_not.mp (mt (deviceConfigOk_iff e).mpr hok))]
    simp [hok, EINVAL]

/-- Every engine but the first stage takes its reader. -/
def readersOk : List EngineId → ℕ → Bool
  | [], _ => true
  | id :: engines, i =>
    (id == ST_SM_ID_SVA_F_STAGE_GMM || e.setBufferReader i == 0) && readersOk engines (i + 1)

/-- `sendRecognitionConfig` succeeds for the config that the stream keeps. -/
def sendConfigOk (engines : List EngineId) : Bool :=
  e.sendBufferConfig == 0 && e.updateBufConfig == 0 && e.createBuffer == 0 &&
    readersOk e engines 0

/-- The first stage is loaded and the recognition config, if there is one, is sent. -/
def loadCompletes (s : StreamSoundTrigger) : Bool :=
  deviceConfigOk e s && e.gslLoadSoundModel == 0 &&
    (s.rec_config_.isNone || sendConfigOk e s.engines_)

/-- The start answers success: nothing stands against it, the device and the engines start, or the
capture profile is missing, which is not taken for an error. -/
def startCompletes (s : StreamSoundTrigger) : Bool :=
  !s.paused_ && s.rec_config_.isSome &&
    if e.getSoundTriggerCaptureProfile then
      (s.device_opened_ || e.deviceOpen == 0) && e.deviceStart == 0 &&
        (firstFailure (engineAnswers s.engines_ e.startRecognition)).isNone
    else s.common_cp_update_disable_ || !e.updateSoundTriggerCaptureProfile ||
      e.startOtherDetectionStreams == 0

@[simp] theorem startCompletes_mk (t : StreamSoundTrigger) {st rs c md sh cp sc sm mt id gm g v n d rd
    ss rj ps nv br sk calls} :
    startCompletes e ⟨st, rs, c, t.paused_, md, t.device_opened_, sh, t.common_cp_update_disable_,
      cp, sc, sm, mt, id, gm, g, v, t.engines_, n, d, t.rec_config_, rd, ss, rj, ps, nv, br, sk,
      calls⟩ = startCompletes e t :=
  rfl

/-- **Where the return is complete**: there is a sound model, and all that the state to restore
needs succeeds. -/
def onlineCompletes (s : StreamSoundTrigger) : Bool :=
  s.gsl_engine_model_.isSome && match StSSR.restoreState s with
    | some ST_STATE_LOADED => loadCompletes e s
    | some ST_STATE_ACTIVE => loadCompletes e s && startCompletes e s
    | _ => true

theorem ensures_assignReaders {engines : List EngineId} {i : ℕ}
    (hok : readersOk e engines i = true) {s : StreamSoundTrigger}
    {Q : ℤ → StreamSoundTrigger → Prop} (hQ : ∀ r, Q 0 { s with reader_ := r }) :
    Ensures (assignReaders e engines i) s Q := by
  induction engines generalizing i s with
  | nil => exact (ensures_pure _ _ _).mpr (hQ s.reader_)
  | cons id engines ih =>
    unfold readersOk at hok
    rw [Bool.and_eq_true] at hok
    unfold assignReaders
    by_cases hid : id = ST_SM_ID_SVA_F_STAGE_GMM
    · rw [if_pos hid, ensures_bind, ensures_modify]
      exact ih hok.2 fun r => hQ r
    · have hreader : e.setBufferReader i = 0 := by simpa [hid] using hok.1
      rw [if_neg hid, if_neg (by simp [hreader])]
      exact ih hok.2 hQ

theorem ensures_sendCachedRecognitionConfig {s : StreamSoundTrigger} (hvui : s.vui_intf_ = true)
    (hok : sendConfigOk e s.engines_ = true) {Q : ℤ → StreamSoundTrigger → Prop}
    (hQ : ∀ r, Q 0 { s with reader_ := r }) : Ensures (sendCachedRecognitionConfig e) s Q := by
  unfold sendConfigOk at hok
  simp only [Bool.and_eq_true, beq_iff_eq] at hok
  obtain ⟨⟨⟨hsend, hbuf⟩, hcreate⟩, hreaders⟩ := hok
  unfold sendCachedRecognitionConfig sendConfig
  simp [hvui, hsend, hbuf, hcreate]
  intro _ _
  exact ensures_assignReaders e hreaders fun r => ⟨fun _ => hQ r, fun h => absurd rfl h⟩

theorem loadFstage_completes {s : StreamSoundTrigger} (hdev : deviceConfigOk e s = true)
    (hload : e.gslLoadSoundModel = 0) :
    Ensures (StIdle.loadFstage e) s fun status t =>
      status = 0 ∧ t.mDevices.isSome ∧ t.vui_intf_ = true ∧ t.rec_config_ = s.rec_config_ ∧
        t.engines_ = s.engines_ ∧ startCompletes e t = startCompletes e s := by
  unfold StIdle.loadFstage
  rw [ensures_bind, ensures_fstageLoad]
  refine ⟨fun h => absurd hdev (by simp [h]), fun _ hattrs _ => ?_⟩
  simp only [Bool.and_eq_true] at hattrs
  obtain ⟨⟨hprof, -⟩, hvui⟩ := hattrs
  have hmic : (deviceTakenUp e s).isSome = true := by
    rw [Option.isSome_iff_ne_none]
    exact fun hnone => (deviceConfigOk_iff e).mp hdev ⟨hprof, hnone⟩
  simp [configured, hload, hmic, hvui]

theorem restoreLoaded_completes {s : StreamSoundTrigger} (hok : loadCompletes e s = true) :
    Ensures (StSSR.restoreLoaded e) s fun status t =>
      status = 0 ∧ t.mDevices.isSome ∧ startCompletes e t = startCompletes e s := by
  unfold loadCompletes at hok
  simp only [Bool.and_eq_true, beq_iff_eq] at hok
  obtain ⟨⟨hdev, hload⟩, hconfig⟩ := hok
  unfold StSSR.restoreLoaded
  refine (loadFstage_completes e hdev hload).bind ?_
  rintro status t ⟨rfl, hmic, hvui, hrec, hengines, hstart⟩
  rw [← hrec, ← hengines] at hconfig
  cases hcfg : t.rec_config_ with
  | none => simp [hcfg, hmic, hstart]
  | some config =>
    have hsend : sendConfigOk e t.engines_ = true := by simpa [hcfg] using hconfig
    have hcached : Ensures (sendCachedRecognitionConfig e) t fun status u =>
        status = 0 ∧ u.mDevices.isSome ∧ startCompletes e u = startCompletes e s :=
      ensures_sendCachedRecognitionConfig e hvui hsend fun r => ⟨rfl, hmic, hstart⟩
    simp [hcfg, hcached]

theorem startFailed_status (status : ℤ) (s : StreamSoundTrigger) :
    Ensures (StLoaded.startFailed status) s fun st _ => st = status := by
  unfold StLoaded.startFailed stopAndCloseDevice
  cases hmic : s.mDevices <;> simp [hmic]

theorem startRecognition_completes {s : StreamSoundTrigger} (hok : startCompletes e s = true)
    (hmic : s.mDevices.isSome = true) :
    Ensures (StLoaded.startRecognition e true) s fun status _ => status = 0 := by
  obtain ⟨dev, hdev⟩ := Option.isSome_iff_exists.mp hmic
  unfold startCompletes at hok
  simp only [Bool.and_eq_true, Bool.not_eq_true'] at hok
  obtain ⟨⟨hpaused, hrec⟩, hok⟩ := hok
  obtain ⟨config, hconfig⟩ := Option.isSome_iff_exists.mp hrec
  unfold StLoaded.startRecognition
  cases hprof : e.getSoundTriggerCaptureProfile with
  | false =>
    -- the start is undone, and answers what the other streams answered
    have hfailed : ∀ st, st = 0 → Ensures (StLoaded.startFailed st) s fun status _ => status = 0 :=
      fun st hst => hst ▸ startFailed_status st s
    simp [hpaused, hconfig, hdev]
    intro hshared
    apply hfailed
    simp only [hprof, Bool.false_eq_true, if_false, Bool.or_eq_true, Bool.not_eq_true',
      beq_iff_eq] at hok
    rw [ite_eq_right_iff]
    rintro ⟨⟨-, hupdate⟩, hprofile⟩
    grind
  | true =>
    simp only [hprof, if_true, Bool.and_eq_true, Bool.or_eq_true, beq_iff_eq,
      Option.isNone_iff_eq_none] at hok
    obtain ⟨⟨hopen, hstart⟩, hengines⟩ := hok
    cases hopened : s.device_opened_ <;>
      simp [hpaused, hconfig, hdev, hopened, hstart, StLoaded.startEngines, hengines] at hopen ⊢
    simp [hopen]

@[simp] theorem restoreState_mk (t : StreamSoundTrigger) {st p md o sh cc cp sc sm mt id gm g v en n d
    r rd ss rj ps nv br sk calls} :
    StSSR.restoreState ⟨st, t.state_for_restore_, t.currentState, p, md, o, sh, cc, cp, sc, sm, mt,
      id, gm, g, v, en, n, d, r, rd, ss, rj, ps, nv, br, sk, calls⟩ = StSSR.restoreState t :=
  rfl

/-- A return for which all succeeds clears the record. -/
theorem ssrOnline_clears {s : StreamSoundTrigger} (hok : onlineCompletes e s = true) :
    Ensures (StSSR.ssrOnline e) s fun _ t => t.state_for_restore_ = none := by
  unfold onlineCompletes at hok
  rw [Bool.and_eq_true] at hok
  obtain ⟨hmodel, hok⟩ := hok
  have hmodel : s.gsl_engine_model_ ≠ none := Option.isSome_iff_ne_none.mp hmodel
  have hrest : ∀ r, loadCompletes e s = true →
      ∀ Q : ℤ → StreamSoundTrigger → Prop,
        (∀ t, t.mDevices.isSome → startCompletes e t = startCompletes e s → Q 0 t) →
        Ensures (StSSR.restoreLoaded e)
          { s with cur_state_ := ST_STATE_IDLE, state_for_restore_ := r } Q := by
    intro r hload Q hQ
    refine (restoreLoaded_completes e (s := { s with
      cur_state_ := ST_STATE_IDLE, state_for_restore_ := r }) hload).mono ?_
    rintro status t ⟨rfl, hmic, hstart⟩
    exact hQ t hmic hstart
  cases hr : StSSR.restoreState s with
  | none => simp [StSSR.ssrOnline, hmodel, hr]
  | some r =>
    rw [hr] at hok
    cases r with
    | ST_STATE_LOADED => simp [StSSR.ssrOnline, hmodel, hr, hrest _ hok]
    | ST_STATE_ACTIVE =>
      rw [Bool.and_eq_true] at hok
      simp [StSSR.ssrOnline, hmodel, hr]
      refine hrest _ hok.1 _ fun t hmic hstart => ⟨fun _ => ?_, fun h => absurd rfl h⟩
      refine (startRecognition_completes e (hstart.trans hok.2) hmic).mono ?_
      exact fun _ _ h h' => absurd h h'
    | _ => simp [StSSR.ssrOnline, hmodel, hr]

end Handlers

/-! ### Runs -/

/-- **Where the record is never stale**: every return of the sound card is complete. -/
def returnsComplete : EventCond := fun e s ev =>
  match s.cur_state_, ev with
  | ST_STATE_SSR, ST_EV_SSR_ONLINE => onlineCompletes e s
  | _, _ => true

theorem event_cleared (e : Env) {s : StreamSoundTrigger} (hs : Cleared s) {ev : StEvent}
    (hok : returnsComplete e s ev = true) :
    Ensures (processEvent e ev) s fun _ t => Cleared t := by
  have hkeep : ∀ {m : StProc ℤ}, s.cur_state_ ≠ ST_STATE_SSR → Respects RestoreFrame m →
      Ensures m s fun _ t => Cleared t := by
    intro m hcur hm
    refine (hm s).mono fun _ t hst _ => ?_
    rw [hst.state_for_restore_, hs hcur]
  by_cases hoff : ev = ST_EV_SSR_OFFLINE
  · subst hoff
    exact (offline_waits e s).mono fun _ t ht hne => absurd ht hne
  unfold processEvent
  rw [ensures_bind, ensures_get]
  by_cases hon : ev = ST_EV_SSR_ONLINE
  · subst hon
    cases hcur : s.cur_state_ with
    | ST_STATE_SSR =>
      have hcomplete : onlineCompletes e s = true := by simpa [returnsComplete, hcur] using hok
      exact (ssrOnline_clears e hcomplete).mono fun _ t ht _ => ht
    | _ =>
      simp [StIdle.processEvent, StLoaded.processEvent, StActive.processEvent,
        StDetected.processEvent, StBuffering.processEvent, hs]
  · have hssr : ¬IsSsrEvent ev := by
      cases ev <;> simp_all [IsSsrEvent]
    cases hcur : s.cur_state_ with
    | ST_STATE_IDLE =>
      exact hkeep (by simp [hcur]) (restore_of_steady (StIdle.processEvent_steady e hssr))
    | ST_STATE_LOADED =>
      exact hkeep (by simp [hcur]) (restore_of_steady (StLoaded.processEvent_steady e hssr))
    | ST_STATE_ACTIVE => exact hkeep (by simp [hcur]) (StActive.processEvent_restore e hssr)
    | ST_STATE_DETECTED => exact hkeep (by simp [hcur]) (StDetected.processEvent_restore e hssr)
    | ST_STATE_BUFFERING => exact hkeep (by simp [hcur]) (StBuffering.processEvent_restore e hssr)
    | ST_STATE_SSR =>
      exact (StSSR.processEvent_waits e hcur hon).mono fun _ t ht hne => absurd ht hne

theorem Cleared.frame {s t : StreamSoundTrigger} (h : Frame s t) (hs : Cleared s) : Cleared t := by
  unfold Cleared
  rw [h.cur_state_, h.state_for_restore_]
  exact hs

theorem init_cleared (online paused : Bool) : Cleared (StreamSoundTrigger.init online paused) := by
  cases online
  · exact fun hne => absurd rfl hne
  · exact fun _ => rfl

/-- A detection of the first stage records nothing. -/
theorem firstStage_cleared (e : Env) {s : StreamSoundTrigger} (hs : Cleared s) {det_type : ℕ}
    (hcur : s.cur_state_ = ST_STATE_ACTIVE) :
    Ensures (processEvent e (ST_EV_DETECTED det_type))
      { s with calls := .acquireWakeLock :: s.calls } fun _ t => Cleared t := by
  unfold processEvent
  rw [ensures_bind, ensures_get]
  dsimp only
  rw [hcur]
  refine (StActive.detected_restore e det_type _).mono fun _ t ht _ => ?_
  rw [ht.state_for_restore_]
  exact hs (by simp [hcur])

/-- After a run in which every return of the sound card is complete, nothing is recorded unless the
stream waits for it. -/
theorem cleared_along {online paused : Bool} {is : List StreamInput} {s : StreamSoundTrigger}
    (hok : Meets step (Admits returnsComplete) (StreamSoundTrigger.init online paused) is)
    (hs : run step (StreamSoundTrigger.init online paused) is = some s) : Cleared s := by
  refine run_invariant_of_meets ?_ hok (init_cleared online paused) hs
  intro s i t hok hs ht
  apply inv_of_admits hok ht
  exact call_keeps (fun _ _ h => Cleared.frame h.frame) (fun e ev s _ hok hs => event_cleared e hs hok)
    (fun e det_type s _ hcur hs => firstStage_cleared e hs hcur) i.1 i.2 hs

/-- The law of one `ssrDownHandler`: a stream that is idle, loaded or active when the event arrives
waits with that state recorded. -/
def RecordsState (s : StreamSoundTrigger) (e : Env) : Prop :=
  Settled s.cur_state_ → e.isSsrDownFeasible = true →
    ∀ t, step s (e, .ssrDownHandler) = some t → t.state_for_restore_ = some s.cur_state_

/-- **The record is never stale.** In a run in which every return of the sound card is complete,
whenever the card goes away the stream records the state it is in. -/
theorem recordsState_along {online paused : Bool} {is : List StreamInput} {s : StreamSoundTrigger}
    (hok : Meets step (Admits returnsComplete) (StreamSoundTrigger.init online paused) is)
    (hs : run step (StreamSoundTrigger.init online paused) is = some s) (e : Env) :
    RecordsState s e := by
  intro hcur hfeasible t ht
  have hnone : s.state_for_restore_ = none := cleared_along hok hs hcur.ne_ssr
  obtain ⟨⟨status, u⟩, hu, rfl⟩ := Option.map_eq_some_iff.mp ht
  have hdown : Ensures (StreamSoundTrigger.ssrDownHandler e (processEvent e)) s
      fun _ v => v.state_for_restore_ = some s.cur_state_ := by
    have hoff := offline_recorded e (s := { s with common_cp_update_disable_ := true }) hnone hcur
    unfold StreamSoundTrigger.ssrDownHandler
    simp [hfeasible]
    exact hoff.mono fun _ v hv => hv.2
  exact hdown status u hu

instance (s : StreamSoundTrigger) (e : Env) : Decidable (RecordsState s e) :=
  decidable_of_iff
    (Settled s.cur_state_ → e.isSsrDownFeasible = true →
      ((step s (e, .ssrDownHandler)).all fun t => t.state_for_restore_ = some s.cur_state_) = true)
    (by simp [RecordsState, Option.all_eq_true])

/-- The card goes away under an active stream, and is back. -/
def restartRun (e : Env) : List StreamInput :=
  startCalls e false ++ [(e, .ssrDownHandler), (e, .ssrUpHandler)]

theorem recordsState_restartRun :
    ∃ s, run step (StreamSoundTrigger.init true false) (restartRun .smooth) = some s ∧
      RecordsState s .smooth := by
  have hok : Meets step (Admits returnsComplete) (StreamSoundTrigger.init true false)
      (restartRun .smooth) :=
    meets_cons_of_some rfl rfl <| meets_cons_of_some rfl rfl <| meets_cons_of_some rfl rfl <|
      meets_cons_of_some rfl rfl <| meets_cons_of_some rfl rfl trivial
  exact ⟨_, rfl, recordsState_along hok rfl .smooth⟩

/-- A stream without a sound model goes through a restart, is loaded, and meets the next restart: it
records that it was idle. -/
def staleRun (e : Env) : List StreamInput :=
  [(e, .ssrDownHandler), (e, .ssrUpHandler),
    (e, .setParameters (.LOAD_SOUND_MODEL (genericModel 1)))]

theorem not_recordsState_stale :
    ∃ s, run step (StreamSoundTrigger.init true false) (staleRun .smooth) = some s ∧
      ¬RecordsState s .smooth :=
  ⟨_, rfl, by decide⟩

end AudioReachPal.StStream
