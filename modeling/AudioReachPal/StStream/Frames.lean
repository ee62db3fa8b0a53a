import AudioReachPal.StStream.Api
import Mathlib.Algebra.BigOperators.Group.List.Basic
import Mathlib.Algebra.Ring.Int.Defs
import Mathlib.Tactic.MkIffOfInductiveProp

/-!
# What the procedures of a sound trigger stream leave alone

The claims about whole runs read five fields of a stream: its state, the state to restore, its
device, whether that is open, and the calls made. `Frame` says that a procedure touches none of
them. `Steady` says that it makes no call on the wake lock, keeps the state to restore, and goes to
no state in which a detection is handled or the sound card is waited for.
-/

namespace AudioReachPal.StStream

open AudioReachPal.Lib

open st_state_id_t st_module_type_t stream_state_t StEvent

/-! ### Balances -/

/-- The sum over the calls made of what each one counts. -/
def balance (δ : Call → ℤ) (calls : List Call) : ℤ := (calls.map δ).sum

@[simp] theorem balance_nil (δ : Call → ℤ) : balance δ [] = 0 := rfl

@[simp] theorem balance_cons (δ : Call → ℤ) (c : Call) (calls : List Call) :
    balance δ (c :: calls) = δ c + balance δ calls := by
  unfold balance
  rw [List.map_cons, List.sum_cons]

/-- Acquisitions of the wake lock, less releases. -/
@[simp]
def wakeDelta : Call → ℤ
  | .acquireWakeLock => 1
  | .releaseWakeLock => -1
  | _ => 0

/-- Successful opens of a device, less closes. -/
def openDelta (d : pal_device_id_t) : Call → ℤ
  | .open dev status => if dev = d ∧ status = 0 then 1 else 0
  | .close dev => if dev = d then -1 else 0
  | _ => 0

/-- Successful starts of a device, less stops. -/
def startDelta (d : pal_device_id_t) : Call → ℤ
  | .start dev status => if dev = d ∧ status = 0 then 1 else 0
  | .stop dev => if dev = d then -1 else 0
  | _ => 0

/-! ### Frames -/

/-- The fields that the claims read are kept. -/
@[mk_iff]
structure Frame (s t : StreamSoundTrigger) : Prop where
  cur_state_ : t.cur_state_ = s.cur_state_
  state_for_restore_ : t.state_for_restore_ = s.state_for_restore_
  mDevices : t.mDevices = s.mDevices
  device_opened_ : t.device_opened_ = s.device_opened_
  calls : t.calls = s.calls

instance : IsPreorder StreamSoundTrigger Frame where
  refl _ := ⟨rfl, rfl, rfl, rfl, rfl⟩
  trans _ _ _ h h' :=
    ⟨h'.1.trans h.1, h'.2.trans h.2, h'.3.trans h.3, h'.4.trans h.4, h'.5.trans h.5⟩

/-- A change of the other fields. -/
@[simp] theorem frame_mk (s t : StreamSoundTrigger) {c p sh cc cp sc sm mt id gm g v en n d r rd ss
    rj ps nv br sk} :
    Frame s ⟨t.cur_state_, t.state_for_restore_, c, p, t.mDevices, t.device_opened_, sh, cc, cp, sc,
      sm, mt, id, gm, g, v, en, n, d, r, rd, ss, rj, ps, nv, br, sk, t.calls⟩ ↔ Frame s t := by
  simp only [frame_iff]

@[simp] theorem frame_refl (s : StreamSoundTrigger) : Frame s s := refl s

/-- No call on the wake lock is made, and the state and the state to restore are kept: what is done
is done about devices. -/
@[mk_iff]
structure DeviceFrame (s t : StreamSoundTrigger) : Prop where
  wake : balance wakeDelta t.calls = balance wakeDelta s.calls
  state_for_restore_ : t.state_for_restore_ = s.state_for_restore_
  cur_state_ : t.cur_state_ = s.cur_state_

instance : IsPreorder StreamSoundTrigger DeviceFrame where
  refl _ := ⟨rfl, rfl, rfl⟩
  trans _ _ _ h h' := ⟨h'.1.trans h.1, h'.2.trans h.2, h'.3.trans h.3⟩

@[simp] theorem deviceFrame_mk (s t : StreamSoundTrigger) {c p md o sh cc cp sc sm mt id gm g v en n d
    r rd ss rj ps nv br sk calls} (hcalls : balance wakeDelta calls = balance wakeDelta t.calls) :
    DeviceFrame s ⟨t.cur_state_, t.state_for_restore_, c, p, md, o, sh, cc, cp, sc, sm, mt, id, gm,
      g, v, en, n, d, r, rd, ss, rj, ps, nv, br, sk, calls⟩ ↔ DeviceFrame s t := by
  simp only [deviceFrame_iff, hcalls]

@[simp] theorem deviceFrame_refl (s : StreamSoundTrigger) : DeviceFrame s s := refl s

/-- The states in which a detection is handled. -/
def Detecting (state : st_state_id_t) : Prop :=
  state = ST_STATE_DETECTED ∨ state = ST_STATE_BUFFERING

instance (state : st_state_id_t) : Decidable (Detecting state) := by
  unfold Detecting
  infer_instance

/-- The states in which nothing is detected and the sound card is there. -/
def Settled (state : st_state_id_t) : Prop :=
  state = ST_STATE_IDLE ∨ state = ST_STATE_LOADED ∨ state = ST_STATE_ACTIVE

/-- No call on the wake lock is made, the state to restore is kept, and so is the state, unless it
becomes a settled one. -/
@[mk_iff]
structure Steady (s t : StreamSoundTrigger) : Prop where
  wake : balance wakeDelta t.calls = balance wakeDelta s.calls
  state_for_restore_ : t.state_for_restore_ = s.state_for_restore_
  cur_state_ : t.cur_state_ = s.cur_state_ ∨ Settled t.cur_state_

instance (state : st_state_id_t) : Decidable (Settled state) := by
  unfold Settled
  infer_instance

@[simp] theorem settled_idle : Settled ST_STATE_IDLE := Or.inl rfl
@[simp] theorem settled_loaded : Settled ST_STATE_LOADED := Or.inr (Or.inl rfl)
@[simp] theorem settled_active : Settled ST_STATE_ACTIVE := Or.inr (Or.inr rfl)

theorem Steady.trans' {s t u : StreamSoundTrigger} (h : Steady s t) (h' : Steady t u) :
    Steady s u := by
  refine ⟨h'.1.trans h.1, h'.2.trans h.2, ?_⟩
  rcases h'.3 with hu | hu
  · rw [hu]
    exact h.3
  · exact Or.inr hu

instance : IsPreorder StreamSoundTrigger Steady where
  refl _ := ⟨rfl, rfl, Or.inl rfl⟩
  trans _ _ _ := Steady.trans'

/-- A change of the other fields. -/
@[simp] theorem steady_mk (s t : StreamSoundTrigger) {c p md o sh cc cp sc sm mt id gm g v en n d r rd
    ss rj ps nv br sk calls} (hcalls : balance wakeDelta calls = balance wakeDelta t.calls) :
    Steady s ⟨t.cur_state_, t.state_for_restore_, c, p, md, o, sh, cc, cp, sc, sm, mt, id, gm, g, v,
      en, n, d, r, rd, ss, rj, ps, nv, br, sk, calls⟩ ↔ Steady s t := by
  simp only [steady_iff, hcalls]

/-- A transition to a settled state. -/
@[simp] theorem steady_transit {s t : StreamSoundTrigger} {state c p md o sh cc cp sc sm mt id gm g v
    en n d r rd ss rj ps nv br sk calls} (hst : Steady s t) (hstate : Settled state)
    (hcalls : balance wakeDelta calls = balance wakeDelta t.calls) :
    Steady s ⟨state, t.state_for_restore_, c, p, md, o, sh, cc, cp, sc, sm, mt, id, gm, g, v,
      en, n, d, r, rd, ss, rj, ps, nv, br, sk, calls⟩ :=
  ⟨hcalls.trans hst.wake, hst.state_for_restore_, Or.inr hstate⟩

@[simp] theorem steady_refl (s : StreamSoundTrigger) : Steady s s := refl s

theorem device_of_frame {α : Type} {m : StProc α} (h : Respects Frame m) :
    Respects DeviceFrame m :=
  h.mono fun _ _ hst => ⟨by rw [hst.calls], hst.state_for_restore_, hst.cur_state_⟩

theorem steady_of_device {α : Type} {m : StProc α} (h : Respects DeviceFrame m) :
    Respects Steady m :=
  h.mono fun _ _ hst => ⟨hst.wake, hst.state_for_restore_, Or.inl hst.cur_state_⟩

theorem steady_of_frame {α : Type} {m : StProc α} (h : Respects Frame m) : Respects Steady m :=
  steady_of_device (device_of_frame h)

/-! ### What touches no field of the claims -/

section Procedures

variable (e : Env)

@[simp] theorem ensures_deref (ptr : Bool) (s : StreamSoundTrigger)
    (Q : Unit → StreamSoundTrigger → Prop) :
    Ensures (deref ptr) s Q ↔ (ptr = true → Q () s) := by
  unfold deref
  cases ptr <;> simp

theorem respects_deref {R : StreamSoundTrigger → StreamSoundTrigger → Prop}
    [Std.Refl R] (ptr : Bool) : Respects R (deref ptr) :=
  fun s => (ensures_deref ptr s _).mpr fun _ => refl s

@[simp] theorem ensures_record (c : Call) (s : StreamSoundTrigger)
    (Q : Unit → StreamSoundTrigger → Prop) :
    Ensures (record c) s Q ↔ Q () { s with calls := c :: s.calls } := by
  unfold record
  rw [ensures_modify]

@[simp] theorem ensures_openDevice (dev : pal_device_id_t) (s : StreamSoundTrigger)
    (Q : ℤ → StreamSoundTrigger → Prop) :
    Ensures (openDevice e dev) s Q ↔
      Q e.deviceOpen { s with calls := .open dev e.deviceOpen :: s.calls } := by
  simp [openDevice]

@[simp] theorem ensures_startDevice (dev : pal_device_id_t) (s : StreamSoundTrigger)
    (Q : ℤ → StreamSoundTrigger → Prop) :
    Ensures (startDevice e dev) s Q ↔
      Q e.deviceStart { s with calls := .start dev e.deviceStart :: s.calls } := by
  simp [startDevice]

@[simp] theorem ensures_closeDevice (dev : pal_device_id_t) (s : StreamSoundTrigger)
    (Q : ℤ → StreamSoundTrigger → Prop) :
    Ensures (closeDevice dev) s Q ↔ Q 0 { s with calls := .close dev :: s.calls } := by
  simp [closeDevice]

@[simp] theorem ensures_stopDevice (dev : pal_device_id_t) (s : StreamSoundTrigger)
    (Q : ℤ → StreamSoundTrigger → Prop) :
    Ensures (stopDevice dev) s Q ↔ Q 0 { s with calls := .stop dev :: s.calls } := by
  simp [stopDevice]

@[simp] theorem ensures_setDeviceOpened (opened : Bool) (s : StreamSoundTrigger)
    (Q : Unit → StreamSoundTrigger → Prop) :
    Ensures (setDeviceOpened opened) s Q ↔ Q () { s with device_opened_ := opened } := by
  unfold setDeviceOpened
  rw [ensures_modify]

@[simp] theorem ensures_transitTo (state : st_state_id_t) (s : StreamSoundTrigger)
    (Q : Unit → StreamSoundTrigger → Prop) :
    Ensures (transitTo state) s Q ↔ Q () { s with cur_state_ := state } := by
  unfold transitTo
  rw [ensures_modify]

@[simp] theorem ensures_updateStreamAttributes (s : StreamSoundTrigger)
    (Q : Unit → StreamSoundTrigger → Prop) :
    Ensures updateStreamAttributes s Q ↔
      ((s.cap_prof_.isSome && s.sm_cfg_ && s.vui_intf_) = true → Q () s) := by
  unfold updateStreamAttributes
  simp only [ensures_bind, ensures_get, ensures_deref]

theorem updateSoundModel_frame (model : pal_st_sound_model) :
    Respects Frame (updateSoundModel e model) := by
  intro s
  cases hm : model.type <;> simp [updateSoundModel, hm]

theorem handleEngineLoad_frame (model : pal_st_sound_model) (eng : ModelEngine) :
    Respects Frame (handleEngineLoad model eng) := by
  intro s
  simp [handleEngineLoad]

theorem loadEngines_frame (model : pal_st_sound_model) (engines : List ModelEngine) :
    Respects Frame (loadEngines model engines) := by
  induction engines with
  | nil => exact respects_pure true
  | cons eng engines ih =>
    unfold loadEngines
    apply (handleEngineLoad_frame model eng).bind
    intro loaded s
    cases loaded <;> simp [ih.after]

theorem loadExit_frame (failed : Bool) (status : ℤ) : Respects Frame (loadExit failed status) := by
  intro s
  cases failed <;> simp [loadExit]

theorem loadSoundModel_frame (model : pal_st_sound_model) :
    Respects Frame (loadSoundModel e model) := by
  unfold loadSoundModel
  apply (updateSoundModel_frame e model).bind
  intro status s
  have hexit : ∀ failed st t, Frame s t → Ensures (loadExit failed st) t fun _ u => Frame s u :=
    fun failed st _ => (loadExit_frame failed st).after
  simp [hexit]
  intros
  refine ((loadEngines_frame model e.modelEngines).after ((frame_mk s s).mpr (refl s))).mono ?_
  intro loaded u hu
  exact ⟨fun _ => hexit _ _ _ hu, fun _ => hexit _ _ _ hu⟩

theorem updateRecognitionConfig_frame (config : pal_st_recognition_config) :
    Respects Frame (updateRecognitionConfig e config) := by
  intro s
  simp [updateRecognitionConfig]

theorem notifyAbort_frame : Respects Frame (notifyAbort e) := by
  intro s
  simp [notifyAbort]

theorem notifyDetection_frame : Respects Frame (notifyDetection e) := by
  intro s
  simp [notifyDetection, postDelayedStop]

theorem assignReaders_frame (engines : List EngineId) (i : ℕ) :
    Respects Frame (assignReaders e engines i) := by
  induction engines generalizing i with
  | nil => exact respects_pure 0
  | cons id engines ih =>
    intro s
    unfold assignReaders
    simp [(ih (i + 1)).after]

/-- The readers are all that `sendConfig` changes, but for the recognition config. -/
theorem respects_sendConfig {R : StreamSoundTrigger → StreamSoundTrigger → Prop}
    [IsPreorder StreamSoundTrigger R]
    (hreaders : ∀ engines, Respects R (assignReaders e engines 0))
    (hclear : ∀ s, R s { s with rec_config_ := none }) (status : ℤ) :
    Respects R (sendConfig e status) := by
  have hend : ∀ status : ℤ, Respects R (do
      if status ≠ 0 then modify fun s => { s with rec_config_ := none }
      return status : StProc ℤ) := fun status =>
    Respects.ite (((respects_modify _).mpr hclear).bind fun _ => respects_pure _) (respects_pure _)
  refine respects_get.bind fun s => ?_
  refine ((respects_pure _).bind hend).ite ((respects_deref _).bind fun _ => ?_)
  refine ((respects_pure _).bind hend).ite ((respects_deref _).bind fun _ => ?_)
  refine ((respects_pure _).bind hend).ite (((respects_pure _).bind hend).ite ?_)
  exact (hreaders s.engines_).bind hend

theorem sendConfig_frame (status : ℤ) : Respects Frame (sendConfig e status) :=
  respects_sendConfig e (fun engines => assignReaders_frame e engines 0) (fun s => by simp) status

theorem sendRecognitionConfig_frame (config : pal_st_recognition_config) :
    Respects Frame (sendRecognitionConfig e config) := by
  unfold sendRecognitionConfig
  apply respects_get.bind
  intro s
  apply Respects.ite
  · exact respects_pure _
  · exact (updateRecognitionConfig_frame e config).bind fun status => sendConfig_frame e status

theorem sendCachedRecognitionConfig_frame : Respects Frame (sendCachedRecognitionConfig e) := by
  unfold sendCachedRecognitionConfig
  apply respects_get.bind
  intro s
  apply Respects.ite
  · exact respects_pure _
  · exact sendConfig_frame e 0

/-! ### What makes calls on devices only -/

/-- The capture profile that `updateDeviceConfig` takes. -/
def profileTaken (s : StreamSoundTrigger) : Option CaptureProfile :=
  if s.sm_cfg_ then e.getCurrentCaptureProfile else none

/-- The device that it leaves: without a profile none is looked for. -/
def deviceTakenUp (s : StreamSoundTrigger) : Option pal_device_id_t :=
  if (profileTaken e s).isSome then s.mDevices.or e.captureDevice else s.mDevices

/-- The stream that it leaves. -/
def configured (s : StreamSoundTrigger) : StreamSoundTrigger :=
  { s with
    cap_prof_ := profileTaken e s
    is_backend_shared_ :=
      (profileTaken e s).elim s.is_backend_shared_ CaptureProfile.isBackendShared
    mDevices := deviceTakenUp e s }

/-- **The rule of `updateDeviceConfig`.** It fails for a profile without a device. -/
theorem ensures_updateDeviceConfig (s : StreamSoundTrigger) (Q : ℤ → StreamSoundTrigger → Prop) :
    Ensures (updateDeviceConfig e) s Q ↔
      Q (if (profileTaken e s).isSome ∧ deviceTakenUp e s = none then -EINVAL else 0)
        (configured e s) := by
  have hprof : (if s.sm_cfg_ then e.getCurrentCaptureProfile else none) = profileTaken e s := rfl
  unfold updateDeviceConfig configured deviceTakenUp
  simp only [ensures_bind, ensures_get, ensures_modify, hprof]
  cases profileTaken e s with
  | none => simp
  | some prof =>
    rcases hdev : s.mDevices with _ | dev
    · cases hcap : e.captureDevice with
      | none => simp
      | some dev => simp
    · simp

theorem updateDeviceConfig_device : Respects DeviceFrame (updateDeviceConfig e) := by
  intro s
  simp [ensures_updateDeviceConfig, configured]

theorem stopAndCloseDevice_device (status : ℤ) : Respects DeviceFrame (stopAndCloseDevice status) := by
  intro s
  unfold stopAndCloseDevice
  cases hdev : s.mDevices <;>
    simp [hdev]

/-- The status of a stop of the engines is all it leaves. -/
@[simp] theorem ensures_stopEngines (status : ℤ) (s : StreamSoundTrigger)
    (Q : ℤ → StreamSoundTrigger → Prop) :
    Ensures (stopEngines e status) s Q ↔
      Q (lastStatus status (engineAnswers s.engines_ e.stopRecognition)) s := by
  unfold stopEngines
  simp only [ensures_bind, ensures_get, ensures_pure]

theorem unloadSoundModel_device : Respects DeviceFrame (unloadSoundModel e) := by
  intro s
  unfold unloadSoundModel
  cases hopen : s.device_opened_ <;> cases hdev : s.mDevices <;>
    simp [hopen, hdev]

theorem fstageUnload_device : Respects DeviceFrame (fstageUnload e) := by
  intro s
  unfold fstageUnload
  cases hopen : s.device_opened_ <;> cases hdev : s.mDevices <;>
    simp [hopen, hdev]

theorem fstageLoad_device : Respects DeviceFrame (fstageLoad e) := by
  unfold fstageLoad
  apply (updateDeviceConfig_device e).bind
  intro status s
  simp

theorem haltStream_steady (status : ℤ) : Respects Steady (haltStream e status) := by
  intro s
  unfold haltStream
  simp +contextual [(steady_of_device (stopAndCloseDevice_device _)).through (s := s)]

theorem disconnectEvent_device (session : Bool) : Respects DeviceFrame (disconnectEvent e session) := by
  intro s
  cases session <;>
    simp [disconnectEvent, cancelDelayedStop, (stopAndCloseDevice_device _).after]

theorem connectDevice_device (start : Bool) : Respects DeviceFrame (connectDevice e start) := by
  unfold connectDevice
  apply respects_get.bind
  intro s
  apply Respects.ite
  · exact respects_pure _
  · apply (updateDeviceConfig_device e).bind
    intro status t
    cases hdev : t.mDevices <;> cases start <;>
      simp [hdev]

theorem connectEvent_device : Respects DeviceFrame (connectEvent e) := by
  unfold connectEvent
  apply (connectDevice_device e true).bind
  intro connected s
  cases connected with
  | error status => simp
  | ok dev =>
    cases hfail : firstFailure (engineAnswers s.engines_ e.startRecognition) <;>
      simp [hfail, (stopAndCloseDevice_device _).after]

theorem ecRef_frame : Respects Frame (ecRef e) := by
  intro s
  simp [ecRef]

/-! ### `ST_STATE_LOADED` -/

namespace StLoaded

theorem startFailed_steady (status : ℤ) : Respects Steady (startFailed status) := by
  unfold startFailed
  exact (steady_of_device (stopAndCloseDevice_device 0)).bind fun _ => respects_pure status

theorem startEngines_steady (status : ℤ) : Respects Steady (startEngines e status) := by
  intro s
  unfold startEngines
  cases hfail : firstFailure (engineAnswers s.engines_ e.startRecognition) <;>
    simp [hfail, (startFailed_steady _).after]

theorem startRecognition_steady (isStart : Bool) :
    Respects Steady (startRecognition e isStart) := by
  intro s
  unfold startRecognition
  cases hdev : s.mDevices <;>
    simp [hdev, (startFailed_steady _).after, (startEngines_steady e _).after]

theorem unloadModel_steady : Respects Steady (unloadModel e) := by
  unfold unloadModel
  apply (steady_of_device (unloadSoundModel_device e)).bind
  intro status s
  simp []

theorem unloadFstage_steady : Respects Steady (unloadFstage e) := by
  unfold unloadFstage
  apply (steady_of_device (fstageUnload_device e)).bind
  intro status s
  simp []

theorem internalResume_steady : Respects Steady (internalResume e) := by
  intro s
  simp +contextual [internalResume, (startRecognition_steady e false).after,
    (steady_of_frame (sendCachedRecognitionConfig_frame e)).through (s := s)]

theorem deviceDisconnected_steady (dev_id : pal_device_id_t) :
    Respects Steady (deviceDisconnected dev_id) := by
  intro s
  unfold deviceDisconnected
  cases hdev : s.mDevices <;> simp [hdev]

theorem deviceConnected_steady : Respects Steady (deviceConnected e) := by
  unfold deviceConnected
  apply respects_get.bind
  intro s
  apply (steady_of_device (connectDevice_device e _)).bind
  intro connected t
  cases connected with
  | error status => simp
  | ok dev =>
    dsimp only
    cases firstFailure (connectAnswers e s.engines_ (s.isActive && !s.paused_)) <;>
      simp [(startFailed_steady _).after]

theorem concurrentStream_steady (is_active : Bool) :
    Respects Steady (concurrentStream e is_active) := by
  intro s
  simp +contextual [concurrentStream, (steady_of_device (fstageUnload_device e)).through (s := s)]

end StLoaded

/-! ### `ST_STATE_IDLE` -/

namespace StIdle

theorem loadModel_steady (model : pal_st_sound_model) :
    Respects Steady (loadModel e model) := by
  unfold loadModel
  apply (respects_modify _).mpr (fun s => by simp) |>.bind
  intro _
  apply Respects.ite
  · exact respects_pure _
  · apply (steady_of_device (updateDeviceConfig_device e)).bind
    intro status s
    simp +contextual [(steady_of_frame (loadSoundModel_frame e model)).through (s := s)]

theorem unloadModel_steady : Respects Steady (unloadModel e) := by
  intro s
  simp [unloadModel, (steady_of_device (unloadSoundModel_device e)).after]

theorem deviceDisconnected_steady (dev_id : pal_device_id_t) :
    Respects Steady (deviceDisconnected dev_id) := by
  intro s
  unfold deviceDisconnected
  cases hdev : s.mDevices <;> simp [hdev]

theorem deviceConnected_steady : Respects Steady (deviceConnected e) := by
  intro s
  simp [deviceConnected, (steady_of_device (updateDeviceConfig_device e)).after]

theorem loadFstage_steady : Respects Steady (loadFstage e) := by
  intro s
  simp +contextual [loadFstage, (steady_of_device (fstageLoad_device e)).through (s := s)]

theorem concurrentStream_steady (is_active : Bool) :
    Respects Steady (concurrentStream e is_active) := by
  unfold concurrentStream
  apply respects_get.bind
  intro s
  apply (respects_pure 0).ite
  apply (respects_pure _).ite
  apply (respects_pure 0).ite
  apply (steady_of_device (fstageLoad_device e)).bind
  intro status t
  simp [(StLoaded.startRecognition_steady e true).after]

end StIdle

/-! ### `ST_STATE_ACTIVE` -/

namespace StActive

theorem stopRecognition_steady (isPause : Bool) : Respects Steady (stopRecognition e isPause) := by
  intro s
  simp +contextual [stopRecognition, (haltStream_steady e _).through (s := s)]

theorem recognitionConfig_steady (config : pal_st_recognition_config) :
    Respects Steady (recognitionConfig e config) := by
  intro s
  simp +contextual [recognitionConfig, (haltStream_steady e _).through (s := s),
    (steady_of_frame (sendRecognitionConfig_frame e config)).after]

theorem deviceDisconnected_steady (dev_id : pal_device_id_t) :
    Respects Steady (deviceDisconnected dev_id) := by
  intro s
  unfold deviceDisconnected
  cases hdev : s.mDevices <;>
    simp +contextual [hdev, (steady_of_device (stopAndCloseDevice_device _)).through (s := s)]

theorem deviceConnected_steady : Respects Steady (deviceConnected e) := by
  unfold deviceConnected
  apply (steady_of_device (connectDevice_device e true)).bind
  intro connected
  cases connected <;> exact respects_pure _

theorem concurrentStream_steady (is_active : Bool) :
    Respects Steady (concurrentStream e is_active) := by
  intro s
  simp +contextual [concurrentStream, (stopRecognition_steady e false).through (s := s),
    (StLoaded.concurrentStream_steady e _).after]

end StActive

/-! ### `ST_STATE_SSR` -/

theorem StSSR.restoreLoaded_steady : Respects Steady (StSSR.restoreLoaded e) := by
  intro s
  simp +contextual [StSSR.restoreLoaded, (StIdle.loadFstage_steady e).through (s := s),
    (steady_of_frame (sendCachedRecognitionConfig_frame e)).after]

/-! ### The events that leave the wake lock and the sound card alone -/

/-- The sound card goes, or is back. -/
def IsSsrEvent : StEvent → Prop
  | ST_EV_SSR_OFFLINE | ST_EV_SSR_ONLINE => True
  | _ => False

theorem StIdle.processEvent_steady {ev : StEvent} (hssr : ¬IsSsrEvent ev) :
    Respects Steady (StIdle.processEvent e ev) := by
  cases ev with
  | ST_EV_SSR_OFFLINE => exact absurd trivial hssr
  | ST_EV_LOAD_SOUND_MODEL model => exact StIdle.loadModel_steady e model
  | ST_EV_UNLOAD_SOUND_MODEL => exact StIdle.unloadModel_steady e
  | ST_EV_DEVICE_DISCONNECTED dev_id => exact StIdle.deviceDisconnected_steady dev_id
  | ST_EV_DEVICE_CONNECTED => exact StIdle.deviceConnected_steady e
  | ST_EV_CONCURRENT_STREAM is_active => exact StIdle.concurrentStream_steady e is_active
  | ST_EV_FSTAGE_LOAD => exact StIdle.loadFstage_steady e
  | _ => intro s; simp [StIdle.processEvent]

theorem StLoaded.processEvent_steady {ev : StEvent} (hssr : ¬IsSsrEvent ev) :
    Respects Steady (StLoaded.processEvent e ev) := by
  cases ev with
  | ST_EV_SSR_OFFLINE => exact absurd trivial hssr
  | ST_EV_UNLOAD_SOUND_MODEL => exact StLoaded.unloadModel_steady e
  | ST_EV_RECOGNITION_CONFIG config => exact steady_of_frame (sendRecognitionConfig_frame e config)
  | ST_EV_START_RECOGNITION => exact StLoaded.startRecognition_steady e true
  | ST_EV_INTERNAL_RESUME => exact StLoaded.internalResume_steady e
  | ST_EV_DEVICE_DISCONNECTED dev_id => exact StLoaded.deviceDisconnected_steady dev_id
  | ST_EV_DEVICE_CONNECTED => exact StLoaded.deviceConnected_steady e
  | ST_EV_CONCURRENT_STREAM is_active => exact StLoaded.concurrentStream_steady e is_active
  | ST_EV_FSTAGE_UNLOAD => exact StLoaded.unloadFstage_steady e
  | ST_EV_EC_REF => exact steady_of_frame (ecRef_frame e)
  | _ => intro s; simp [StLoaded.processEvent]

/-- In `ST_STATE_ACTIVE` a detection is left out: it is handled under the wake lock. -/
theorem StActive.processEvent_steady {ev : StEvent} (hssr : ¬IsSsrEvent ev)
    (hdet : ∀ det_type, ev ≠ ST_EV_DETECTED det_type) :
    Respects Steady (StActive.processEvent e ev) := by
  cases ev with
  | ST_EV_SSR_OFFLINE => exact absurd trivial hssr
  | ST_EV_DETECTED det_type => exact absurd rfl (hdet det_type)
  | ST_EV_RECOGNITION_CONFIG config => exact StActive.recognitionConfig_steady e config
  | ST_EV_STOP_RECOGNITION => exact StActive.stopRecognition_steady e false
  | ST_EV_DEVICE_DISCONNECTED dev_id => exact StActive.deviceDisconnected_steady dev_id
  | ST_EV_DEVICE_CONNECTED => exact StActive.deviceConnected_steady e
  | ST_EV_CONCURRENT_STREAM is_active => exact StActive.concurrentStream_steady e is_active
  | ST_EV_EC_REF => exact steady_of_frame (ecRef_frame e)
  | ST_EV_PAUSE =>
    intro s
    simp +contextual [StActive.processEvent, (StActive.stopRecognition_steady e true).through (s := s),
      (steady_of_frame (notifyAbort_frame e)).after]
  | ST_EV_INTERNAL_PAUSE =>
    intro s
    simp [StActive.processEvent, (StActive.stopRecognition_steady e true).after]
  | ST_EV_UNLOAD_SOUND_MODEL =>
    apply (StActive.stopRecognition_steady e false).bind
    intro status
    exact StLoaded.unloadModel_steady e
  | _ => intro s; simp [StActive.processEvent]

end Procedures

/-! ### Calls and runs -/

/-- The detections of the first stage, which `setEngineDetectionState` hands on under the wake
lock. -/
def IsFirstStage (det_type : ℕ) : Prop := det_type = GMM_DETECTED ∨ det_type = THRESHOLD_REACHED

instance (det_type : ℕ) : Decidable (IsFirstStage det_type) := by
  unfold IsFirstStage
  infer_instance

theorem switchEvent_not_detected {e : Env} {s : StreamSoundTrigger} {active : Bool} {ev : StEvent}
    (h : StreamSoundTrigger.switchEvent e s active = some ev) (det_type : ℕ) :
    ev ≠ ST_EV_DETECTED det_type := by
  rintro rfl
  unfold StreamSoundTrigger.switchEvent at h
  split_ifs at h <;> simp at h

/-- What the functions of the stream leave alone outside the state machine. -/
@[mk_iff]
structure CallFrame (s t : StreamSoundTrigger) : Prop where
  frame : Frame s t
  sm_cfg_ : t.sm_cfg_ = s.sm_cfg_
  pending_stop_ : t.pending_stop_ = true → s.pending_stop_ = true

/-- A change of the other fields. -/
@[simp] theorem callFrame_mk (s t : StreamSoundTrigger) {c p sh cc cp sm mt id gm g v en n d r rd ss
    rj nv br sk} :
    CallFrame s ⟨t.cur_state_, t.state_for_restore_, c, p, t.mDevices, t.device_opened_, sh, cc, cp,
      t.sm_cfg_, sm, mt, id, gm, g, v, en, n, d, r, rd, ss, rj, t.pending_stop_, nv, br, sk,
      t.calls⟩ ↔ CallFrame s t := by
  simp only [callFrame_iff, frame_mk]

@[simp] theorem callFrame_refl (s : StreamSoundTrigger) : CallFrame s s := ⟨refl s, rfl, id⟩

theorem holdForRead_frame (e : Env) : Respects CallFrame (StreamSoundTrigger.holdForRead e) := by
  intro s
  simp [StreamSoundTrigger.holdForRead, cancelDelayedStop, callFrame_iff]

theorem pace_frame (e : Env) (size : ℤ) : Respects CallFrame (StreamSoundTrigger.pace e size) := by
  intro s
  simp [StreamSoundTrigger.pace]

/-- **The rule for a call.** What the frame carries along, what every event that meets `ok` keeps,
and what a detection of the first stage restores after the wake lock was acquired, every call
keeps. -/
theorem call_keeps {ok : EventCond} {Inv : StreamSoundTrigger → Prop}
    (hframe : ∀ s t, CallFrame s t → Inv s → Inv t)
    (hevent : ∀ e ev s, (∀ det_type, ev = ST_EV_DETECTED det_type → ¬IsFirstStage det_type) →
      ok e s ev = true → Inv s → Ensures (processEvent e ev) s fun _ t => Inv t)
    (hdetected : ∀ e det_type s, IsFirstStage det_type → s.cur_state_ = ST_STATE_ACTIVE →
      Inv s → Ensures (processEvent e (ST_EV_DETECTED det_type))
        { s with calls := .acquireWakeLock :: s.calls } fun _ t => Inv t)
    (e : Env) (c : StreamCall) {s : StreamSoundTrigger} (hs : Inv s) :
    Ensures (c.proc e (guarded ok e)) s fun _ t => Inv t := by
  -- the functions change the stream within the frame, and hand on one event after another
  have hmk : ∀ t : StreamSoundTrigger, ∀ {c p sh cc cp sm mt id gm g v en n d r rd ss rj nv br sk},
      Inv t → Inv ⟨t.cur_state_, t.state_for_restore_, c, p, t.mDevices, t.device_opened_, sh, cc, cp,
        t.sm_cfg_, sm, mt, id, gm, g, v, en, n, d, r, rd, ss, rj, t.pending_stop_, nv, br, sk,
        t.calls⟩ := by
    intros t _ _ _ _ _ _ _ _ _ _ _ _ _ _ _ _ _ _ _ _ _ ht
    exact hframe t _ ((callFrame_mk t t).mpr (callFrame_refl t)) ht
  have hev : ∀ ev t (Q : ℤ → StreamSoundTrigger → Prop),
      (∀ det_type, ev = ST_EV_DETECTED det_type → ¬IsFirstStage det_type) → Inv t →
      (∀ st u, Inv u → Q st u) → Ensures (guarded ok e ev) t Q := by
    intro ev t Q hnot ht hQ
    rw [ensures_guarded]
    intro hok
    exact (hevent e ev t hnot hok ht).mono hQ
  have hstart : Ensures (StreamSoundTrigger.startL (guarded ok e)) s fun _ t => Inv t := by
    simp +contextual [StreamSoundTrigger.startL, StreamSoundTrigger.updateCaptureHandleInfo,
      -ensures_guarded, hev, hmk, hs]
  cases c with
  | setParameters param =>
    cases param <;>
      simp +contextual [StreamCall.proc, StreamSoundTrigger.setParameters, -ensures_guarded, hev, hmk, hs]
  | start =>
    simp only [StreamCall.proc, StreamSoundTrigger.start, ensures_bind, ensures_get, ensures_deref,
      ensures_ite, ensures_pure]
    exact fun _ => ⟨fun _ => hs, fun _ => hstart⟩
  | startL => exact hstart
  | stop =>
    simp only [StreamCall.proc, StreamSoundTrigger.stop, StreamSoundTrigger.updateCaptureHandleInfo,
      ensures_bind, ensures_get, ensures_deref, ensures_ite, ensures_pure, ensures_modify]
    exact fun _ => ⟨fun _ => hs, fun _ _ => hev _ _ _ (by simp) (hmk s hs) fun _ _ => id⟩
  | close => 
    simp +contextual [StreamCall.proc, StreamSoundTrigger.close, -ensures_guarded, hev, hmk, hs]
  | read buf =>
    have hpace : ∀ size t, Inv t → Ensures (StreamSoundTrigger.pace e size) t fun _ u => Inv u :=
      fun size t ht => (pace_frame e size t).mono fun _ u htu => hframe t u htu ht
    refine (ensures_ite _ _ _ _ _).mpr ⟨fun _ => (ensures_pure _ _ _).mpr hs, fun _ => ?_⟩
    refine (holdForRead_frame e s).bind ?_
    intro _ t hst
    have ht := hframe s t hst hs
    simp +contextual [-ensures_guarded, hev, ht, hpace]
  | setEngineDetectionState det_type =>
    by_cases hfirst : IsFirstStage det_type
    · have hdet : s.cur_state_ = ST_STATE_ACTIVE →
          Ensures (guarded ok e (ST_EV_DETECTED det_type))
            { s with calls := .acquireWakeLock :: s.calls } fun _ t => Inv t := by
        intro hactive
        rw [ensures_guarded]
        exact fun _ => hdetected e det_type s hfirst hactive hs
      have hfirst' : det_type = GMM_DETECTED ∨ det_type = THRESHOLD_REACHED := hfirst
      simp [StreamCall.proc, StreamSoundTrigger.setEngineDetectionState, acquireWakeLock, record,
        -ensures_guarded, hfirst', hs]
      exact fun _ hactive _ => hdet hactive
    · have hfirst' : ¬(det_type = GMM_DETECTED ∨ det_type = THRESHOLD_REACHED) := hfirst
      simp [StreamCall.proc, StreamSoundTrigger.setEngineDetectionState, -ensures_guarded, hfirst',
        hev _ _ _ _ hs, hfirst, hs]
  | internalStopRecognition =>
    simp [StreamCall.proc, StreamSoundTrigger.internalStopRecognition, -ensures_guarded, hev, hs]
  | handleConcurrentStream active =>
    have hswitch : ∀ t (Q : ℤ → StreamSoundTrigger → Prop), Inv t → (∀ st u, Inv u → Q st u) →
        Ensures (StreamSoundTrigger.switchProfile e (guarded ok e) active) t Q := by
      intro t Q ht hQ
      unfold StreamSoundTrigger.switchProfile
      cases hsw : StreamSoundTrigger.switchEvent e t active with
      | none => simp [hsw, hQ _ _ ht]
      | some ev =>
        have hnot := switchEvent_not_detected hsw
        simp [-ensures_guarded, hsw, hQ _ _ ht, hev ev t Q (fun d hd => absurd hd (hnot d)) ht hQ]
    cases active <;>
      simp +contextual [StreamCall.proc, StreamSoundTrigger.handleConcurrentStream, hswitch, hmk, hs]
  | setECRef => simp [StreamCall.proc, StreamSoundTrigger.setECRef, -ensures_guarded, hev, hs]
  | disconnectDevice device_id =>
    simp [StreamCall.proc, StreamSoundTrigger.disconnectDevice, -ensures_guarded, hev, hs]
  | connectDevice =>
    simp [StreamCall.proc, StreamSoundTrigger.connectDevice, -ensures_guarded, hev, hs]
  | disconnectStreamDeviceL dev_id => exact hev _ _ _ (by simp) hs fun _ _ => id
  | connectStreamDeviceL dattr =>
    simp [StreamCall.proc, StreamSoundTrigger.connectStreamDeviceL, -ensures_guarded, hev, hs]
  | pause is_internal =>
    cases is_internal <;>
      simp +contextual [StreamCall.proc, StreamSoundTrigger.pause, -ensures_guarded, hev, hs]
  | resume is_internal =>
    cases is_internal <;>
      simp +contextual [StreamCall.proc, StreamSoundTrigger.resume, -ensures_guarded, hev, hs]
  | ssrDownHandler =>
    simp +contextual [StreamCall.proc, StreamSoundTrigger.ssrDownHandler, -ensures_guarded, hev, hmk, hs]
  | ssrUpHandler =>
    simp +contextual [StreamCall.proc, StreamSoundTrigger.ssrUpHandler, -ensures_guarded, hev, hmk, hs]

end AudioReachPal.StStream
