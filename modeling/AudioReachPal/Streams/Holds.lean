import AudioReachPal.Streams.Held

/-!
# What calls hold of the session and of the resource manager

Beside its devices a stream holds a session that runs, and entries of its devices in the resource
manager. `Holds calls ds g` says that the calls leave the devices `ds` and both of these at the
stage `g`. What the loops over the devices, a start of the session and a stop do to it is said once
for each.
-/

namespace AudioReachPal.Streams

open AudioReachPal.Lib
/-! ### What is held -/

/-- Session starts that succeed, and stops. -/
def sessionStarts : Call → SignType
  | .sessionStart status => if status = 0 then .pos else .zero
  | .sessionStop => .neg
  | _ => .zero

/-- `registerDevice` and `deregisterDevice` keep a list without duplicates. -/
def register (d : pal_device_id_t) (there : Bool) : Call → Bool
  | .registerDevice x => there || decide (d = x)
  | .deregisterDevice x => there && decide (d ≠ x)
  | _ => there

/-- The device is registered for the stream after the calls. -/
def registered (calls : List Call) (d : pal_device_id_t) : Bool :=
  calls.foldl (register d) false

/-- What a stream holds of each of its devices, of its session and of the resource manager. -/
structure Stage where
  opened : Bool := false
  started : Bool := false
  running : Bool := false
  registered : Bool := false
  deriving DecidableEq, Repr

/-- The calls leave the devices `ds`, the session and the resource manager at the stage `g`. -/
structure Holds (calls : List Call) (ds : List pal_device_id_t) (g : Stage) : Prop where
  held : ∀ d, Held calls d (once (d ∈ ds ∧ g.opened)) (once (d ∈ ds ∧ g.started))
  running : account sessionStarts calls = some (once (g.running = true))
  registered : ∀ d, registered calls d = true ↔ d ∈ ds ∧ g.registered

/-- The call changes nothing that is held. -/
def Call.inert : Call → Bool
  | .openDevice .. | .closeDevice .. | .startDevice .. | .stopDevice .. | .registerDevice ..
  | .deregisterDevice .. | .sessionStop => false
  | .sessionStart status => status != 0
  | _ => true

theorem registered_append (calls new : List Call) (d : pal_device_id_t) :
    registered (calls ++ new) d = new.foldl (register d) (registered calls d) := List.foldl_append

theorem register_of_quiet {new : List Call} {d : pal_device_id_t}
    (hnew : ∀ c ∈ new, ∀ there, register d there c = there) (there : Bool) :
    new.foldl (register d) there = there := by
  induction new with
  | nil => rfl
  | cons c new ih =>
    rw [List.foldl_cons, hnew c List.mem_cons_self]
    exact ih fun b hb => hnew b (List.mem_cons_of_mem _ hb)

theorem register_registerAll (ds : List pal_device_id_t) (d : pal_device_id_t) (there : Bool) :
    (ds.map Call.registerDevice).foldl (register d) there = (there || decide (d ∈ ds)) := by
  induction ds generalizing there with
  | nil => simp
  | cons x ds ih =>
    rw [List.map_cons, List.foldl_cons, ih]
    simp [register, Bool.or_assoc]

theorem register_deregisterAll (ds : List pal_device_id_t) (d : pal_device_id_t) (there : Bool) :
    (ds.map Call.deregisterDevice).foldl (register d) there = (there && decide (d ∉ ds)) := by
  induction ds generalizing there with
  | nil => simp
  | cons x ds ih =>
    rw [List.map_cons, List.foldl_cons, ih]
    simp [register, Bool.and_assoc]

namespace Holds

variable {calls : List Call} {ds : List pal_device_id_t} {g : Stage} {r : Bool}

theorem nil (ds : List pal_device_id_t) : Holds [] ds {} :=
  ⟨fun d => by simpa using Held.nil, rfl, by simp [Streams.registered]⟩

/-- Calls of the devices alone. -/
theorem of_devices (h : Holds calls ds g) {new : List Call} {ds' : List pal_device_id_t}
    {g' : Stage}
    (hheld : ∀ d, Held (calls ++ new) d (once (d ∈ ds' ∧ g'.opened)) (once (d ∈ ds' ∧ g'.started)))
    (hsession : ∀ c ∈ new, sessionStarts c = .zero)
    (hregister : ∀ c ∈ new, ∀ d there, register d there c = there)
    (hrunning : g'.running = g.running) (hregistered : g.registered = false)
    (hregistered' : g'.registered = false) : Holds (calls ++ new) ds' g' := by
  refine ⟨hheld, ?_, fun d => ?_⟩
  · rw [account_append_of_quiet hsession, h.running, hrunning]
  · rw [registered_append, register_of_quiet fun c hc => hregister c hc d, h.registered,
      hregistered, hregistered']
    simp

theorem inert (h : Holds calls ds g) {new : List Call} (hnew : ∀ c ∈ new, c.inert) :
    Holds (calls ++ new) ds g := by
  have hquiet : ∀ c ∈ new, c.quiet := by
    intro c hc
    have hc := hnew c hc
    cases c <;> first | rfl | cases hc
  have hsession : ∀ c ∈ new, sessionStarts c = .zero := by
    intro c hc
    have hc := hnew c hc
    cases c with
    | sessionStart status =>
      have hne : status ≠ 0 := by simpa [Call.inert] using hc
      exact if_neg hne
    | sessionStop => cases hc
    | _ => rfl
  have hregister : ∀ c ∈ new, ∀ d there, register d there c = there := by
    intro c hc d there
    have hc := hnew c hc
    cases c <;> first | rfl | cases hc
  refine ⟨fun d => (h.held d).quiet _ hquiet, ?_, fun d => ?_⟩
  · rw [account_append_of_quiet hsession, h.running]
  · rw [registered_append, register_of_quiet fun c hc => hregister c hc d]
    exact h.registered d

/-- The devices open. -/
theorem openAll (h : Holds calls ds {}) (hnd : ds.Nodup) {f : pal_device_id_t → ℤ}
    (hall : ∀ d ∈ ds, f d = 0) :
    Holds (calls ++ ds.map fun d => .openDevice d (f d)) ds { opened := true } := by
  refine h.of_devices (fun d => ?_) (by simp [sessionStarts]) (by simp [register]) rfl rfl rfl
  have hd := (h.held d).openAll hnd f
  have honce : once (d ∈ ds ∧ f d = 0) = once (d ∈ ds) :=
    once_congr (and_iff_left_of_imp (hall d))
  simpa [honce] using hd

/-- No device opens. -/
theorem openNone (h : Holds calls ds {}) {xs : List pal_device_id_t} (hnd : xs.Nodup)
    {f : pal_device_id_t → ℤ} (hnone : ∀ d ∈ xs, f d ≠ 0) :
    Holds (calls ++ xs.map fun d => .openDevice d (f d)) ds {} := by
  refine h.of_devices (fun d => ?_) (by simp [sessionStarts]) (by simp [register]) rfl rfl rfl
  have hd := (h.held d).openAll hnd f
  have honce : once (d ∈ xs ∧ f d = 0) = 0 := once_neg fun hd => hnone d hd.1 hd.2
  simpa [honce] using hd

theorem closeAll (h : Holds calls ds { opened := true }) (hnd : ds.Nodup) :
    Holds (calls ++ ds.map .closeDevice) ds {} := by
  refine h.of_devices (fun d => ?_) (by simp [sessionStarts]) (by simp [register]) rfl rfl rfl
  have hd := h.held d
  simp only [and_true] at hd
  simpa using Held.closeAll (o := 0) (by simpa using hd) hnd

/-- The devices that start are left, and started. -/
theorem startOutputs {e : Env} (h : Holds calls ds { opened := true }) (hnd : ds.Nodup) :
    Holds (calls ++ ds.flatMap (startOutput e fun _ => false))
      (ds.filter fun d => false || e.startDevice d == 0) { opened := true, started := true } := by
  have hcalls : ∀ c ∈ ds.flatMap (startOutput e fun _ => false),
      sessionStarts c = .zero ∧ ∀ d there, register d there c = there := by
    intro c hc
    obtain ⟨d, -, hc⟩ := List.mem_flatMap.mp hc
    unfold startOutput at hc
    rw [if_neg (by simp)] at hc
    split_ifs at hc
    · rw [List.mem_singleton.mp hc]
      exact ⟨rfl, fun _ _ => rfl⟩
    · simp only [List.mem_cons, List.not_mem_nil, or_false] at hc
      rcases hc with rfl | rfl | rfl <;> exact ⟨rfl, fun _ _ => rfl⟩
  refine h.of_devices (fun d => ?_) (fun c hc => (hcalls c hc).1) (fun c hc => (hcalls c hc).2)
    rfl rfl rfl
  have hsplit : once (d ∈ ds) = once (d ∈ ds ∧ e.startDevice d = 0) +
      once (d ∈ ds ∧ e.startDevice d ≠ 0) := by
    by_cases hd : d ∈ ds <;> by_cases hf : e.startDevice d = 0 <;> simp [once, hd, hf]
  have hd : Held calls d (once (d ∈ ds ∧ e.startDevice d = 0) +
      once (d ∈ ds ∧ false = false ∧ e.startDevice d ≠ 0)) 0 := by
    simpa [hsplit] using h.held d
  have hstarted : Held (calls ++ ds.flatMap (startOutput e fun _ => false)) d
      (once (d ∈ ds ∧ e.startDevice d = 0))
      (0 + once (d ∈ ds ∧ false = false ∧ e.startDevice d = 0)) := Held.startOutputs hd hnd
  simpa using hstarted

theorem stopAll (h : Holds calls ds { opened := true, started := true }) (hnd : ds.Nodup) :
    Holds (calls ++ ds.map .stopDevice) ds { opened := true } := by
  refine h.of_devices (fun d => ?_) (by simp [sessionStarts]) (by simp [register]) rfl rfl rfl
  have hd := h.held d
  simp only [and_true] at hd
  simpa using Held.stopAll (p := 0) (by simpa using hd) hnd

/-- The session starts. -/
theorem sessionStart (h : Holds calls ds { opened := true, started := true }) :
    Holds (calls ++ [.sessionStart 0]) ds { opened := true, started := true, running := true } := by
  refine ⟨fun d => (h.held d).quiet _ (by simp [Call.quiet]), ?_, fun d => ?_⟩
  · rw [account_append_of_eq h.running]
    rfl
  · rw [registered_append]
    exact h.registered d

/-- The devices are registered. -/
theorem registerAll
    (h : Holds calls ds { opened := true, started := true, running := true, registered := r }) :
    Holds (calls ++ ds.map .registerDevice) ds
      { opened := true, started := true, running := true, registered := true } := by
  refine ⟨fun d => (h.held d).quiet _ (by simp [Call.quiet]), ?_, fun d => ?_⟩
  · rw [account_append_of_quiet (by simp [sessionStarts])]
    exact h.running
  · rw [registered_append, register_registerAll]
    have hd := h.registered d
    cases hreg : Streams.registered calls d with
    | true => simpa using (hd.mp hreg).1
    | false => simp

/-- A stop: nothing is registered, the session and the devices stop. -/
theorem stop
    (h : Holds calls ds { opened := true, started := true, running := true, registered := r })
    (hnd : ds.Nodup) :
    Holds (calls ++ (ds.map .deregisterDevice ++ .sessionStop :: ds.map .stopDevice)) ds
      { opened := true } := by
  have hregister : ∀ c ∈ Call.sessionStop :: ds.map .stopDevice, ∀ d there,
      register d there c = there := by simp [register]
  refine ⟨fun d => ?_, ?_, fun d => ?_⟩
  · have hd : Held calls d (once (d ∈ ds ∧ true = true)) (0 + once (d ∈ ds)) := by
      simpa using h.held d
    have hnone : once (d ∈ ds ∧ false = true) = 0 := once_neg (by simp)
    rw [← List.append_assoc, List.append_cons]
    change Held _ d (once (d ∈ ds ∧ true = true)) (once (d ∈ ds ∧ false = true))
    rw [hnone]
    exact ((hd.quiet _ (by simp [Call.quiet])).quiet _ (by simp [Call.quiet])).stopAll hnd
  · have hrunning : account sessionStarts (calls ++ ds.map .deregisterDevice) = some 1 := by
      rw [account_append_of_quiet (by simp [sessionStarts])]
      exact h.running
    rw [← List.append_assoc, List.append_cons, account_append_of_quiet (by simp [sessionStarts]),
      account_append_of_eq hrunning]
    rfl
  · rw [← List.append_assoc, registered_append, register_of_quiet fun c hc => hregister c hc d,
      registered_append, register_deregisterAll]
    have hd := h.registered d
    cases hreg : Streams.registered calls d with
    | true => simpa using (hd.mp hreg).1
    | false => simp

end Holds

end AudioReachPal.Streams
