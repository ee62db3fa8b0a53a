import AudioReachPal.StStream.Api
import Mathlib.Tactic.MkIffOfInductiveProp

/-!
# Calls of a sound trigger stream that return

The rules of `Returns` for the small procedures of a stream: what each one leaves, and for the reads
through a pointer that it is not null. The claims that a call completes, and what it completes with,
are run with them.
-/

namespace AudioReachPal.StStream

open AudioReachPal.Lib

open st_state_id_t st_module_type_t stream_state_t StEvent

section Procedures

variable (e : Env) (s : StreamSoundTrigger)

@[simp] theorem returns_deref (ptr : Bool) (Q : Unit → StreamSoundTrigger → Prop) :
    Returns (deref ptr) s Q ↔ ptr = true ∧ Q () s := by
  unfold deref
  cases ptr <;> simp

@[simp] theorem returns_record (c : Call) (Q : Unit → StreamSoundTrigger → Prop) :
    Returns (record c) s Q ↔ Q () { s with calls := c :: s.calls } := by
  unfold record
  rw [returns_modify]

@[simp] theorem returns_openDevice (dev : pal_device_id_t) (Q : ℤ → StreamSoundTrigger → Prop) :
    Returns (openDevice e dev) s Q ↔
      Q e.deviceOpen { s with calls := .open dev e.deviceOpen :: s.calls } := by
  simp [openDevice]

@[simp] theorem returns_startDevice (dev : pal_device_id_t) (Q : ℤ → StreamSoundTrigger → Prop) :
    Returns (startDevice e dev) s Q ↔
      Q e.deviceStart { s with calls := .start dev e.deviceStart :: s.calls } := by
  simp [startDevice]

@[simp] theorem returns_closeDevice (dev : pal_device_id_t) (Q : ℤ → StreamSoundTrigger → Prop) :
    Returns (closeDevice dev) s Q ↔ Q 0 { s with calls := .close dev :: s.calls } := by
  simp [closeDevice]

@[simp] theorem returns_stopDevice (dev : pal_device_id_t) (Q : ℤ → StreamSoundTrigger → Prop) :
    Returns (stopDevice dev) s Q ↔ Q 0 { s with calls := .stop dev :: s.calls } := by
  simp [stopDevice]

@[simp] theorem returns_setDeviceOpened (opened : Bool) (Q : Unit → StreamSoundTrigger → Prop) :
    Returns (setDeviceOpened opened) s Q ↔ Q () { s with device_opened_ := opened } := by
  unfold setDeviceOpened
  rw [returns_modify]

@[simp] theorem returns_transitTo (state : st_state_id_t)
    (Q : Unit → StreamSoundTrigger → Prop) :
    Returns (transitTo state) s Q ↔ Q () { s with cur_state_ := state } := by
  unfold transitTo
  rw [returns_modify]

@[simp] theorem returns_updateStreamAttributes (Q : Unit → StreamSoundTrigger → Prop) :
    Returns updateStreamAttributes s Q ↔
      (s.cap_prof_.isSome && s.sm_cfg_ && s.vui_intf_) = true ∧ Q () s := by
  unfold updateStreamAttributes
  simp only [returns_bind, returns_get, returns_deref]

@[simp] theorem returns_stopEngines (status : ℤ) (Q : ℤ → StreamSoundTrigger → Prop) :
    Returns (stopEngines e status) s Q ↔
      Q (lastStatus status (engineAnswers s.engines_ e.stopRecognition)) s := by
  unfold stopEngines
  simp only [returns_bind, returns_get, returns_pure]

end Procedures

/-! ### Answers -/

/-- Engines that all succeed leave the status zero. -/
theorem lastStatus_engineAnswers {answer : ℕ → ℤ} (h : ∀ i, answer i = 0) (engines : List EngineId) :
    lastStatus 0 (engineAnswers engines answer) = 0 := by
  unfold lastStatus engineAnswers
  cases hlast : (engines.mapIdx fun i _ => answer i).getLast? with
  | none => rfl
  | some st =>
    obtain ⟨i, -, hst⟩ := List.mem_mapIdx.mp (List.mem_of_getLast? hlast)
    rw [← hst]
    exact h i

theorem firstFailure_engineAnswers {answer : ℕ → ℤ} (h : ∀ i, answer i = 0)
    (engines : List EngineId) : firstFailure (engineAnswers engines answer) = none := by
  refine List.find?_eq_none.mpr fun st hst => ?_
  obtain ⟨i, -, rfl⟩ := List.mem_mapIdx.mp hst
  simp [h i]

theorem firstFailure_ne_zero {answers : List ℤ} {status : ℤ}
    (h : firstFailure answers = some status) : status ≠ 0 := by
  have := List.find?_some h
  simpa using this

/-! ### What a stop keeps -/

/-- What the stop of a stream keeps. -/
@[mk_iff]
structure StopFrame (s t : StreamSoundTrigger) : Prop where
  currentState : t.currentState = s.currentState
  paused_ : t.paused_ = s.paused_
  cap_prof_ : t.cap_prof_ = s.cap_prof_
  sm_cfg_ : t.sm_cfg_ = s.sm_cfg_
  model_type_ : t.model_type_ = s.model_type_
  gsl_engine_model_ : t.gsl_engine_model_ = s.gsl_engine_model_
  gsl_engine_ : t.gsl_engine_ = s.gsl_engine_
  vui_intf_ : t.vui_intf_ = s.vui_intf_
  rec_config_ : t.rec_config_ = s.rec_config_
  common_cp_update_disable_ : t.common_cp_update_disable_ = s.common_cp_update_disable_
  second_stage_processing_ : t.second_stage_processing_ = s.second_stage_processing_

theorem StopFrame.trans {s t u : StreamSoundTrigger} (h : StopFrame s t)
    (h' : StopFrame t u) : StopFrame s u :=
  ⟨h'.1.trans h.1, h'.2.trans h.2, h'.3.trans h.3, h'.4.trans h.4, h'.5.trans h.5, h'.6.trans h.6,
    h'.7.trans h.7, h'.8.trans h.8, h'.9.trans h.9, h'.10.trans h.10, h'.11.trans h.11⟩

@[simp] theorem stopFrame_refl (s : StreamSoundTrigger) : StopFrame s s :=
  ⟨rfl, rfl, rfl, rfl, rfl, rfl, rfl, rfl, rfl, rfl, rfl⟩

/-- A change of the other fields. -/
@[simp] theorem stopFrame_mk (s t : StreamSoundTrigger) {st rs md o sh sm id en n d r rj ps nv br
    sk calls} : StopFrame s ⟨st, rs, t.currentState, t.paused_, md, o, sh,
      t.common_cp_update_disable_, t.cap_prof_, t.sm_cfg_, sm, t.model_type_, id,
      t.gsl_engine_model_, t.gsl_engine_, t.vui_intf_, en, n, d, t.rec_config_, r,
      t.second_stage_processing_, rj, ps, nv, br, sk, calls⟩ ↔ StopFrame s t := by
  simp only [stopFrame_iff]

section Stops

variable (e : Env)

theorem returns_stopAndCloseDevice (s : StreamSoundTrigger) (status : ℤ) :
    Returns (stopAndCloseDevice status) s fun st t => (status = 0 → st = 0) ∧ StopFrame s t ∧
      t.cur_state_ = s.cur_state_ := by
  unfold stopAndCloseDevice
  cases hdev : s.mDevices <;> simp [hdev]

theorem returns_haltStream (s : StreamSoundTrigger) (status : ℤ) :
    Returns (haltStream e status) s fun st t =>
      (lastStatus status (engineAnswers s.engines_ e.stopRecognition) = 0 → st = 0) ∧
        StopFrame s t ∧ t.cur_state_ = ST_STATE_LOADED := by
  unfold haltStream
  simp only [returns_bind, returns_stopEngines]
  refine (returns_stopAndCloseDevice s _).mono ?_
  rintro st t ⟨hst, ht, -⟩
  simp [ht]
  exact hst

theorem returns_disconnectEvent {s : StreamSoundTrigger} (hgsl : s.gsl_engine_ = true) (session : Bool) :
    Returns (disconnectEvent e session) s fun _ t => StopFrame s t ∧ t.mDevices = none ∧
      t.cur_state_ = s.cur_state_ := by
  unfold disconnectEvent
  by_cases hdev : s.mDevices = none
  · simp [hdev]
  · have hrest : ∀ (u : StreamSoundTrigger) (status : ℤ), StopFrame s u →
        u.cur_state_ = s.cur_state_ → Returns (do
            let status ← stopAndCloseDevice status
            modify fun s => { s with mDevices := none }
            return status) u fun _ t =>
          StopFrame s t ∧ t.mDevices = none ∧ t.cur_state_ = s.cur_state_ := by
      intro u status hu hcur
      refine (returns_stopAndCloseDevice u status).bind ?_
      rintro st t ⟨-, ht, hcur'⟩
      simp [hu.trans ht, hcur'.trans hcur]
    have hstopped := hrest { s with pending_stop_ := false }
      (lastStatus 0 (engineAnswers s.engines_ e.stopRecognition)) (by simp) rfl
    cases session
    · simpa [hdev, cancelDelayedStop] using hstopped
    · simpa [hdev, cancelDelayedStop, hgsl] using hstopped

end Stops

/-- The run of one call. -/
theorem step_eq_some_iff {s : StreamSoundTrigger} {i : StreamInput}
    {P : StreamSoundTrigger → Prop} : (∃ t, step s i = some t ∧ P t) ↔
      Returns (i.2.proc i.1 (processEvent i.1)) s fun _ t => P t := by
  unfold step Returns
  constructor
  · rintro ⟨t, ht, hP⟩
    obtain ⟨⟨status, u⟩, hu, rfl⟩ := Option.map_eq_some_iff.mp ht
    exact ⟨status, u, hu, hP⟩
  · rintro ⟨status, t, ht, hP⟩
    exact ⟨t, Option.map_eq_some_iff.mpr ⟨(status, t), ht, rfl⟩, hP⟩

end AudioReachPal.StStream
