import AudioReachPal.Lib.Account
import AudioReachPal.Streams.Pcm

/-!
# What calls hold of the devices

`Held calls d o p` says that the calls leave `d` opened `o` times and started `p` times, and that
none of them closed or stopped it when it was not. What a loop over devices does to it is said once
for each loop, whatever the devices. The requests that neither open, close, start nor stop a device
leave a stream `Alike`.
-/

namespace AudioReachPal.Streams

open AudioReachPal.Lib
open AudioReachPal.StStream (stream_state_t)
open AudioReachPal.StStream.stream_state_t

/-! ### What the calls hold of a device -/

/-- Opens that succeed, and closes. -/
def opens (d : pal_device_id_t) : Call → SignType
  | .openDevice x status => if x = d ∧ status = 0 then .pos else .zero
  | .closeDevice x => if x = d then .neg else .zero
  | _ => .zero

/-- Starts that succeed, and stops. -/
def starts (d : pal_device_id_t) : Call → SignType
  | .startDevice x status => if x = d ∧ status = 0 then .pos else .zero
  | .stopDevice x => if x = d then .neg else .zero
  | _ => .zero

/-- The calls neither open, close, start nor stop a device. -/
def Call.quiet : Call → Bool
  | .openDevice .. | .closeDevice .. | .startDevice .. | .stopDevice .. => false
  | _ => true

/-- The calls leave `d` opened `o` times and started `p` times. -/
structure Held (calls : List Call) (d : pal_device_id_t) (o p : ℕ) : Prop where
  opened : account (opens d) calls = some o
  started : account (starts d) calls = some p

/-- `1` when `p` holds. -/
def once (p : Prop) [Decidable p] : ℕ := if p then 1 else 0

@[simp] theorem once_true : once True = 1 := rfl

@[simp] theorem once_false : once False = 0 := rfl

theorem once_pos {p : Prop} [Decidable p] (h : p) : once p = 1 := if_pos h

theorem once_neg {p : Prop} [Decidable p] (h : ¬p) : once p = 0 := if_neg h

theorem once_congr {p q : Prop} [Decidable p] [Decidable q] (h : p ↔ q) : once p = once q := by
  by_cases hp : p
  · rw [once_pos hp, once_pos (h.mp hp)]
  · rw [once_neg hp, once_neg (fun hq => hp (h.mpr hq))]

theorem once_split {p q : Prop} [Decidable p] [Decidable q] (h : q → p) :
    once p = once (p ∧ ¬q) + once q := by
  by_cases hq : q
  · simp [once, hq, h hq]
  · simp [once, hq]

namespace Held

variable {calls : List Call} {d : pal_device_id_t} {ds : List pal_device_id_t} {o p : ℕ}

theorem nil : Held [] d 0 0 := ⟨rfl, rfl⟩

theorem quiet (h : Held calls d o p) (new : List Call) (hnew : ∀ c ∈ new, c.quiet) :
    Held (calls ++ new) d o p := by
  have hopens : ∀ c ∈ new, opens d c = .zero := by
    intro c hc
    have hq := hnew c hc
    cases c <;> first | rfl | cases hq
  have hstarts : ∀ c ∈ new, starts d c = .zero := by
    intro c hc
    have hq := hnew c hc
    cases c <;> first | rfl | cases hq
  exact ⟨by rw [account_append_of_quiet hopens, h.opened],
    by rw [account_append_of_quiet hstarts, h.started]⟩

/-- A loop that opens, from its calls for `d`. -/
theorem loop {f : pal_device_id_t → List Call} {o' p' : ℕ} (h : Held calls d o p) (hnd : ds.Nodup)
    (hopens : ∀ x, x ≠ d → ∀ c ∈ f x, opens d c = .zero)
    (hstarts : ∀ x, x ≠ d → ∀ c ∈ f x, starts d c = .zero)
    (ho : (if d ∈ ds then run (charge (opens d)) o (f d) else some o) = some o')
    (hp : (if d ∈ ds then run (charge (starts d)) p (f d) else some p) = some p') :
    Held (calls ++ ds.flatMap f) d o' p' := by
  constructor
  · rw [account_append_of_eq h.opened, run_charge_flatMap hnd hopens]
    exact ho
  · rw [account_append_of_eq h.started, run_charge_flatMap hnd hstarts]
    exact hp

theorem openAll (h : Held calls d o p) (hnd : ds.Nodup) (f : pal_device_id_t → ℤ) :
    Held (calls ++ ds.map fun x => .openDevice x (f x)) d (o + once (d ∈ ds ∧ f d = 0)) p := by
  rw [List.map_eq_flatMap]
  refine h.loop hnd ?_ ?_ ?_ ?_
  · simp +contextual [opens]
  · simp [starts]
  · by_cases hd : d ∈ ds <;> by_cases hf : f d = 0 <;>
      simp [hd, hf, once, run, charge, opens]
  · simp [run, charge, starts]

theorem closeAll (h : Held calls d (o + once (d ∈ ds)) p) (hnd : ds.Nodup) :
    Held (calls ++ ds.map .closeDevice) d o p := by
  rw [List.map_eq_flatMap]
  refine h.loop hnd ?_ ?_ ?_ ?_
  · simp +contextual [opens]
  · simp [starts]
  · by_cases hd : d ∈ ds <;> simp [hd, once, run, charge, opens]
  · simp [run, charge, starts]

theorem startAll (h : Held calls d o p) (hnd : ds.Nodup) (f : pal_device_id_t → ℤ) :
    Held (calls ++ ds.map fun x => .startDevice x (f x)) d o (p + once (d ∈ ds ∧ f d = 0)) := by
  rw [List.map_eq_flatMap]
  refine h.loop hnd ?_ ?_ ?_ ?_
  · simp [opens]
  · simp +contextual [starts]
  · simp [run, charge, opens]
  · by_cases hd : d ∈ ds <;> by_cases hf : f d = 0 <;>
      simp [hd, hf, once, run, charge, starts]

theorem stopAll (h : Held calls d o (p + once (d ∈ ds))) (hnd : ds.Nodup) :
    Held (calls ++ ds.map .stopDevice) d o p := by
  rw [List.map_eq_flatMap]
  refine h.loop hnd ?_ ?_ ?_ ?_
  · simp [opens]
  · simp +contextual [starts]
  · simp [run, charge, opens]
  · by_cases hd : d ∈ ds <;> simp [hd, once, run, charge, starts]

/-- The loop over the output devices: a device that is not skipped and does not start is closed. -/
theorem startOutputs {e : Env} {skips : pal_device_id_t → Bool}
    (h : Held calls d (o + once (d ∈ ds ∧ skips d = false ∧ e.startDevice d ≠ 0)) p)
    (hnd : ds.Nodup) :
    Held (calls ++ ds.flatMap (startOutput e skips)) d o
      (p + once (d ∈ ds ∧ skips d = false ∧ e.startDevice d = 0)) := by
  refine h.loop hnd ?_ ?_ ?_ ?_
  · intro x hx c hc
    unfold startOutput at hc
    split_ifs at hc <;> simp at hc
    · simp [hc, opens]
    · rcases hc with rfl | rfl | rfl <;> simp [opens, hx]
  · intro x hx c hc
    unfold startOutput at hc
    split_ifs at hc <;> simp at hc
    · simp [hc, starts, hx]
    · rcases hc with rfl | rfl | rfl <;> simp [starts, hx]
  · by_cases hd : d ∈ ds <;> by_cases hs : skips d <;> by_cases hf : e.startDevice d = 0 <;>
      simp [hd, hs, hf, once, startOutput, run, charge, opens]
  · by_cases hd : d ∈ ds <;> by_cases hs : skips d <;> by_cases hf : e.startDevice d = 0 <;>
      simp [hd, hs, hf, once, startOutput, run, charge, starts]

end Held

/-! ### Loops that are left at a failure -/

section Loops

variable {f : pal_device_id_t → ℤ} {ds : List pal_device_id_t}

/-- No call fails after another one succeeded. -/
def FailsOnlyFirst (f : pal_device_id_t → ℤ) (ds : List pal_device_id_t) : Prop :=
  (∃ d, ds.head? = some d ∧ f d ≠ 0) ∨ ∀ d ∈ ds, f d = 0

/-- No call fails before the last one. -/
def FailsOnlyLast (f : pal_device_id_t → ℤ) (ds : List pal_device_id_t) : Prop :=
  ∀ d ∈ ds.dropLast, f d = 0

theorem reached_of_all (h : ∀ d ∈ ds, f d = 0) : reached f ds = ds := by
  induction ds with
  | nil => rfl
  | cons d ds ih =>
    unfold reached
    rw [if_pos (h d List.mem_cons_self), ih fun x hx => h x (List.mem_cons_of_mem _ hx)]

theorem firstFailure_eq_zero : firstFailure f ds = 0 ↔ ∀ d ∈ ds, f d = 0 := by
  induction ds with
  | nil => simp [firstFailure]
  | cons d ds ih =>
    unfold firstFailure
    by_cases hd : f d = 0 <;> simp [hd, ih]

theorem reached_of_failsOnlyLast (h : FailsOnlyLast f ds) : reached f ds = ds := by
  induction ds with
  | nil => rfl
  | cons d ds ih =>
    cases ds with
    | nil => simp [reached]
    | cons x ds =>
      have hd : f d = 0 := h d (by simp)
      have hrest : FailsOnlyLast f (x :: ds) := fun y hy => h y (by simp [hy])
      unfold reached
      rw [if_pos hd, ih hrest]

/-- A loop that fails, and only first, leaves nothing behind. -/
theorem failed_of_mem_reached (h : FailsOnlyFirst f ds) (hfail : firstFailure f ds ≠ 0) :
    ∀ d ∈ reached f ds, f d ≠ 0 := by
  rcases h with ⟨d, hd, hf⟩ | h
  · cases ds with
    | nil => cases hd
    | cons x ds =>
      cases hd
      unfold reached
      rw [if_neg hf]
      intro y hy
      rw [List.mem_singleton.mp hy]
      exact hf
  · exact absurd (firstFailure_eq_zero.mpr h) hfail

theorem reached_sublist : (reached f ds).Sublist ds := by
  induction ds with
  | nil => exact List.Sublist.refl _
  | cons d ds ih =>
    unfold reached
    by_cases hd : f d = 0
    · rw [if_pos hd]
      exact ih.cons_cons d
    · rw [if_neg hd]
      exact (List.nil_sublist ds).cons_cons d

theorem lastFailure_eq_zero {f : pal_device_id_t → ℤ} {ds : List pal_device_id_t} {status : ℤ} :
    lastFailure f status ds = 0 ↔ status = 0 ∧ ∀ d ∈ ds, f d = 0 := by
  unfold lastFailure
  induction ds generalizing status with
  | nil => simp
  | cons d ds ih =>
    rw [List.foldl_cons, ih]
    by_cases hd : f d = 0 <;> simp [hd]

end Loops

/-! ### Requests that no device counts -/

/-- `t` is `s` after calls that no device counts. -/
structure Alike (s t : Stream) : Prop where
  direction : t.direction = s.direction
  mDevices : t.mDevices = s.mDevices
  currentState : t.currentState = s.currentState
  isMMap : t.isMMap = s.isMMap
  startedEarly : t.startedEarly = s.startedEarly
  held : ∀ {d o p}, Held s.calls d o p → Held t.calls d o p

namespace Alike

variable {s t u : Stream}

theorem refl (s : Stream) : Alike s s := ⟨rfl, rfl, rfl, rfl, rfl, id⟩

theorem trans (h : Alike s t) (h' : Alike t u) : Alike s u :=
  ⟨h'.direction.trans h.direction, h'.mDevices.trans h.mDevices,
    h'.currentState.trans h.currentState, h'.isMMap.trans h.isMMap,
    h'.startedEarly.trans h.startedEarly, fun hd => h'.held (h.held hd)⟩

theorem log {new : List Call} (hnew : ∀ c ∈ new, c.quiet) : Alike s (s.log new) :=
  ⟨rfl, rfl, rfl, rfl, rfl, fun h => h.quiet _ hnew⟩

theorem playing (h : Alike s t) : t.playing = s.playing := by
  unfold Stream.playing
  rw [h.currentState]

theorem skips (h : Alike s t) (d : pal_device_id_t) : t.skips d = s.skips d := by
  unfold Stream.skips
  rw [h.isMMap]

end Alike

/-! ### Volume -/

/-- The calls that set a volume. -/
def Call.ofVolume : Call → Bool
  | .sessionSetVolume | .sessionSetParameters | .sessionMute _ => true
  | _ => false

/-- `t` is `s` with another volume. -/
structure VolumeSet (s t : Stream) : Prop where
  direction : t.direction = s.direction
  mDevices : t.mDevices = s.mDevices
  currentState : t.currentState = s.currentState
  cachedState : t.cachedState = s.cachedState
  isPaused : t.isPaused = s.isPaused
  isMMap : t.isMMap = s.isMMap
  skipSSRHandling : t.skipSSRHandling = s.skipSSRHandling
  startedEarly : t.startedEarly = s.startedEarly
  calls : ∃ new, t.calls = s.calls ++ new ∧ ∀ c ∈ new, c.ofVolume

namespace VolumeSet

variable (e : Env) {s t u : Stream}

theorem of_log {new : List Call} (hnew : ∀ c ∈ new, c.ofVolume) : VolumeSet s (s.log new) :=
  ⟨rfl, rfl, rfl, rfl, rfl, rfl, rfl, rfl, new, rfl, hnew⟩

theorem refl (s : Stream) : VolumeSet s s :=
  ⟨rfl, rfl, rfl, rfl, rfl, rfl, rfl, rfl, [], by simp, by simp⟩

theorem trans (h : VolumeSet s t) (h' : VolumeSet t u) : VolumeSet s u := by
  obtain ⟨new, hnew, hvol⟩ := h.calls
  obtain ⟨new', hnew', hvol'⟩ := h'.calls
  refine ⟨h'.direction.trans h.direction, h'.mDevices.trans h.mDevices,
    h'.currentState.trans h.currentState, h'.cachedState.trans h.cachedState,
    h'.isPaused.trans h.isPaused, h'.isMMap.trans h.isMMap,
    h'.skipSSRHandling.trans h.skipSSRHandling, h'.startedEarly.trans h.startedEarly,
    new ++ new', ?_, ?_⟩
  · rw [hnew', hnew, List.append_assoc]
  · intro c hc
    exact (List.mem_append.mp hc).elim (hvol c) (hvol' c)

/-- The fields of the volume alone. -/
theorem fields (s : Stream) (muted pending : Bool) (data : Option pal_volume_data) :
    VolumeSet s { s with a2dpMuted := muted, unMutePending := pending, mVolumeData := data } :=
  ⟨rfl, rfl, rfl, rfl, rfl, rfl, rfl, rfl, [], by simp, by simp⟩

theorem muteL (state : Bool) : VolumeSet s (Streams.muteL e s state).2 := by
  unfold Streams.muteL
  dsimp only
  split_ifs
  · exact fields s _ _ _
  · exact of_log (by simp [Call.ofVolume])

theorem muteForSuspend (a2dpSuspend : Bool) :
    VolumeSet s (Streams.muteForSuspend e s a2dpSuspend) := by
  unfold Streams.muteForSuspend
  split_ifs
  · exact (muteL e true).trans (fields _ _ _ _)
  · exact refl s

theorem sendVolume (vols : pal_volume_data) : VolumeSet s (Streams.sendVolume e s vols) := by
  have hsent : ∀ u, VolumeSet u (u.log
      [if volumeByParam e vols then .sessionSetParameters else .sessionSetVolume]) := by
    intro u
    split_ifs <;> exact of_log (by simp [Call.ofVolume])
  unfold Streams.sendVolume
  by_cases hzero : volumeZero e vols = true
  · rw [if_pos hzero]
    exact (of_log (by simp [Call.ofVolume])).trans (hsent _)
  · rw [if_neg hzero]
    exact hsent s

theorem applyVolume (vols : pal_volume_data) : VolumeSet s (Streams.applyVolume e s vols).2 := by
  have hsent : VolumeSet s (Streams.sendVolume e s vols) := sendVolume e vols
  unfold Streams.applyVolume
  generalize (if volumeByParam e vols then e.sessionSetParameters else e.sessionSetVolume) = status
  by_cases hstatus : status ≠ 0
  · simpa [hstatus] using hsent
  · cases hunmute : s.unMutePending with
    | false => simpa [hstatus, hunmute] using hsent
    | true =>
      have hmuted : VolumeSet s { Streams.sendVolume e s vols with unMutePending := false } :=
        hsent.trans (fields _ _ _ _)
      simpa [hstatus, hunmute] using hmuted.trans (muteL e false)

theorem setVolume (volume : Option pal_volume_data) :
    VolumeSet s (Streams.setVolume e s volume).2 := by
  unfold Streams.setVolume
  split
  · exact refl s
  · exact refl s
  · dsimp only
    split_ifs
    · exact fields s _ _ _
    · exact fields s _ _ _
    · exact (fields s _ _ _).trans (applyVolume e _)
    · exact fields s _ _ _

end VolumeSet

theorem VolumeSet.alike {s t : Stream} (h : VolumeSet s t) : Alike s t := by
  obtain ⟨new, hnew, hvol⟩ := h.calls
  have hquiet : ∀ c ∈ new, c.quiet := by
    intro c hc
    have hvol := hvol c hc
    cases c <;> first | rfl | cases hvol
  refine ⟨h.direction, h.mDevices, h.currentState, h.isMMap, h.startedEarly, fun hheld => ?_⟩
  rw [hnew]
  exact hheld.quiet _ hquiet

/-- A resume, of which no device hears. -/
theorem resumeSession_spec (e : Env) (s : Stream) :
    VolumeSet { s.log [.sessionResume e.sessionResume] with
      isPaused := s.isPaused && e.sessionResume != 0 } (resumeSession e s).2 := by
  unfold resumeSession
  dsimp only
  by_cases hstatus : e.sessionResume ≠ 0
  · have hflag : (s.isPaused && e.sessionResume != 0) = s.isPaused := by simp [hstatus]
    rw [if_pos hstatus, hflag]
    exact VolumeSet.refl _
  rw [if_neg hstatus]
  have hflag : (s.isPaused && e.sessionResume != 0) = false := by simp [not_not.mp hstatus]
  rw [hflag]
  cases s.mVolumeData with
  | none => exact VolumeSet.refl _
  | some vols =>
    dsimp only
    split_ifs
    · exact VolumeSet.refl _
    · exact VolumeSet.setVolume e _

theorem Alike.resumeSession (e : Env) (s : Stream) : Alike s (Streams.resumeSession e s).2 := by
  have hresumed : Alike s (s.log [.sessionResume e.sessionResume]) :=
    Alike.log (by simp [Call.quiet])
  have hflag : Alike s { s.log [.sessionResume e.sessionResume] with
      isPaused := s.isPaused && e.sessionResume != 0 } :=
    hresumed.trans ⟨rfl, rfl, rfl, rfl, rfl, id⟩
  exact hflag.trans (resumeSession_spec e s).alike

end AudioReachPal.Streams
