import AudioReachPal.Lib.Holders
import AudioReachPal.Lib.Runs
import AudioReachPal.Types

/-!
# The echo reference count

Several sound trigger streams share one engine, and each may ask it for an echo reference. A
stream caches the rx device it asked for (`ec_rx_dev_`) and tells the engine that it asks for the
first time when the cache is empty; the engine counts those requests (`ec_ref_count_`). The cache
is updated in every state of the stream, the engine called only in some, and the engine compares a
device to disable with the one it set last, the stream with the one it cached.
-/

namespace AudioReachPal.Gsl

open AudioReachPal.Lib

open st_state_id_t

/-- Whether `processEvent` of the state calls the engine for `ST_EV_EC_REF`. -/
def forwardsEcRef : st_state_id_t → Bool
  | ST_STATE_LOADED | ST_STATE_ACTIVE | ST_STATE_DETECTED | ST_STATE_BUFFERING => true
  | ST_STATE_IDLE | ST_STATE_SSR => false

/-- What the engine keeps of the echo reference, and whether its session has one set. -/
structure EcEngine where
  ec_ref_count_ : ℕ
  rx_ec_dev_ : Option DeviceId
  is_crr_dev_using_ext_ec_ : Bool
  session_ec : Bool

namespace EcEngine

variable (isExternalECRefEnabled : DeviceId → Bool) (eng : EcEngine)

/-- What `session_->setECRef` leaves when it answers `status`. -/
def sessionSetECRef (is_enable : Bool) (status : ℤ) : EcEngine :=
  if status = 0 then { eng with session_ec := is_enable } else eng

/-- `SoundTriggerEngineGsl::setECRef`; `session_status` is what `session_->setECRef` answers. -/
def setECRef (dev : Option DeviceId) (is_enable setECForFirstTime : Bool) (session_status : ℤ) :
    ℤ × EcEngine :=
  let is_dev_enabled_ext_ec := dev.elim false isExternalECRefEnabled
  if is_enable then
    if eng.is_crr_dev_using_ext_ec_ && !is_dev_enabled_ext_ec then (-EINVAL, eng)
    else if !setECForFirstTime && decide (eng.rx_ec_dev_ = dev) then (0, eng)
    else
      let force_enable := !setECForFirstTime
      let eng := if setECForFirstTime then { eng with ec_ref_count_ := eng.ec_ref_count_ + 1 }
        else eng
      if force_enable || decide (eng.ec_ref_count_ = 1) then
        let eng := eng.sessionSetECRef true session_status
        if session_status ≠ 0 then
          let eng := if setECForFirstTime then { eng with ec_ref_count_ := eng.ec_ref_count_ - 1 }
            else eng
          if force_enable || decide (eng.ec_ref_count_ = 0) then
            (session_status, { eng with rx_ec_dev_ := none })
          else (session_status, eng)
        else
          (0, { eng with is_crr_dev_using_ext_ec_ := is_dev_enabled_ext_ec, rx_ec_dev_ := dev })
      else (0, eng)
  else if dev = none ∨ dev = eng.rx_ec_dev_ then
    if eng.ec_ref_count_ > 0 then
      let eng := { eng with ec_ref_count_ := eng.ec_ref_count_ - 1 }
      if eng.ec_ref_count_ = 0 then
        let status := if session_status = -ENETRESET then 0 else session_status
        let eng := eng.sessionSetECRef false session_status
        if status ≠ 0 then (status, eng)
        else (0, { eng with rx_ec_dev_ := none, is_crr_dev_using_ext_ec_ := false })
      else (0, eng)
    else (0, eng)
  else (0, eng)

end EcEngine

/-- A call of `setECRefL`, with the state the stream is in and what the calls it makes answer:
whether the capture profile asks for an echo reference, `rm->checkECRef`, and the session. -/
structure EcCall (ι : Type*) where
  stream : ι
  dev : Option DeviceId
  is_enable : Bool
  cur_state : st_state_id_t
  ecRequired : Bool
  checkECRef : Bool
  session_status : ℤ

/-- The streams attached to an engine, and the engine. -/
structure EcSystem (ι : Type*) where
  ec_rx_dev_ : ι → Option DeviceId
  engine : EcEngine

namespace EcSystem

variable {ι : Type*} [DecidableEq ι] (isExternalECRefEnabled : DeviceId → Bool) (sys : EcSystem ι)

/-- `cur_state_->processEvent` for `ST_EV_EC_REF`. -/
def processEcRef (c : EcCall ι) : ℤ × EcEngine :=
  if forwardsEcRef c.cur_state then
    sys.engine.setECRef isExternalECRefEnabled c.dev c.is_enable
      (sys.ec_rx_dev_ c.stream).isNone c.session_status
  else (0, sys.engine)

/-- What `setECRefL` caches when the event was handled. -/
def cache (c : EcCall ι) : Option DeviceId :=
  if c.is_enable then c.dev
  else if sys.ec_rx_dev_ c.stream = c.dev ∨ c.dev = none then none
  else sys.ec_rx_dev_ c.stream

/-- `StreamSoundTrigger::setECRef_l`. -/
def setECRefL (c : EcCall ι) : EcSystem ι :=
  if !c.ecRequired then sys
  else if c.dev.isSome && !c.checkECRef then sys
  else
    let res := sys.processEcRef isExternalECRefEnabled c
    if res.1 ≠ 0 then { sys with engine := res.2 }
    else ⟨Function.update sys.ec_rx_dev_ c.stream (sys.cache c), res.2⟩

variable {isExternalECRefEnabled sys}

/-! ### The reference count and the caches -/

section Count

variable [Fintype ι]

/-- The count is the number of streams that cache an rx device, and the session has an echo
reference exactly when there is one. -/
def Agrees (sys : EcSystem ι) : Prop :=
  sys.engine.ec_ref_count_ = held sys.ec_rx_dev_ ∧
    (sys.engine.session_ec = true ↔ 0 < sys.engine.ec_ref_count_)

/-- The call comes to `processEvent`. -/
def Handled (c : EcCall ι) : Prop :=
  c.ecRequired = true ∧ (c.dev.isSome = true → c.checkECRef = true)

/-- The engine refuses an internal echo reference while an external one is active. -/
def Refused (isExternalECRefEnabled : DeviceId → Bool) (sys : EcSystem ι) (c : EcCall ι) : Prop :=
  forwardsEcRef c.cur_state = true ∧ c.is_enable = true ∧
    sys.engine.is_crr_dev_using_ext_ec_ = true ∧ c.dev.elim false isExternalECRefEnabled = false

/-- The disabled device is the one the stream cached, so its cache is cleared. -/
def ClearsCache (sys : EcSystem ι) (c : EcCall ι) : Prop :=
  (sys.ec_rx_dev_ c.stream).isSome = true ∧ (sys.ec_rx_dev_ c.stream = c.dev ∨ c.dev = none)

/-- The disabled device is the one the engine set, so its count is lowered. -/
def LowersCount (sys : EcSystem ι) (c : EcCall ι) : Prop :=
  (c.dev = none ∨ c.dev = sys.engine.rx_ec_dev_) ∧ 0 < sys.engine.ec_ref_count_

/-- The calls that change the count and the cache alike. -/
def Balanced (isExternalECRefEnabled : DeviceId → Bool) (sys : EcSystem ι) (c : EcCall ι) : Prop :=
  Handled c → ¬Refused isExternalECRefEnabled sys c →
    if c.is_enable then
      if forwardsEcRef c.cur_state then c.dev.isSome = true
      else holding (sys.ec_rx_dev_ c.stream) = holding c.dev
    else
      if forwardsEcRef c.cur_state then LowersCount sys c ↔ ClearsCache sys c
      else ¬ClearsCache sys c

instance (sys : EcSystem ι) (c : EcCall ι) : Decidable (LowersCount sys c) :=
  inferInstanceAs (Decidable (_ ∧ _))

omit [Fintype ι] in
theorem setECRefL_of_not_handled {c : EcCall ι} (h : ¬Handled c) :
    sys.setECRefL isExternalECRefEnabled c = sys := by
  unfold setECRefL
  by_cases hec : c.ecRequired = true
  · have hdev : c.dev.isSome = true ∧ c.checkECRef = false := by
      unfold Handled at h
      cases hs : c.dev.isSome <;> cases hc : c.checkECRef <;> simp_all
    simp [hec, hdev]
  · simp [hec]

omit [Fintype ι] in
theorem setECRefL_of_handled {c : EcCall ι} (h : Handled c) :
    sys.setECRefL isExternalECRefEnabled c =
      let res := sys.processEcRef isExternalECRefEnabled c
      if res.1 ≠ 0 then { sys with engine := res.2 }
      else ⟨Function.update sys.ec_rx_dev_ c.stream (sys.cache c), res.2⟩ := by
  obtain ⟨hec, hdev⟩ := h
  unfold setECRefL
  rw [if_neg (by simp [hec]), if_neg (by
    cases hs : c.dev.isSome
    · simp
    · simp [hdev hs])]

/-- Enabling counts a first request, and leaves the session with an echo reference when some
stream had one or this is the first. -/
theorem setECRef_enable {eng : EcEngine} {dev : Option DeviceId} {first : Bool}
    (hext : ¬(eng.is_crr_dev_using_ext_ec_ = true ∧ dev.elim false isExternalECRefEnabled = false))
    (hs : eng.session_ec = true ↔ 0 < eng.ec_ref_count_)
    (hfirst : first = false → 0 < eng.ec_ref_count_) :
    let res := eng.setECRef isExternalECRefEnabled dev true first 0
    res.1 = 0 ∧ res.2.ec_ref_count_ = eng.ec_ref_count_ + (if first then 1 else 0) ∧
      (res.2.session_ec = true ↔ 0 < res.2.ec_ref_count_) := by
  have hrefuse : (eng.is_crr_dev_using_ext_ec_ && !dev.elim false isExternalECRefEnabled) = false := by
    cases h1 : eng.is_crr_dev_using_ext_ec_ <;>
      cases h2 : dev.elim false isExternalECRefEnabled <;> simp_all
  unfold EcEngine.setECRef
  simp only [if_true, hrefuse]
  cases first with
  | true =>
    by_cases hcount : eng.ec_ref_count_ = 0
    · simp [EcEngine.sessionSetECRef, hcount]
    · have hpos : eng.session_ec = true := hs.mpr (by omega)
      simp [hcount, hpos]
  | false =>
    have hpos := hfirst rfl
    by_cases hdev : eng.rx_ec_dev_ = dev
    · simp [hdev, hs]
    · simp [hdev, EcEngine.sessionSetECRef, hpos]

/-- Disabling lowers the count when the device is the engine's, and resets the session with the
last request. -/
theorem setECRef_disable (isExternalECRefEnabled : DeviceId → Bool) {eng : EcEngine}
    (dev : Option DeviceId) (first : Bool) (hs : eng.session_ec = true ↔ 0 < eng.ec_ref_count_) :
    let res := eng.setECRef isExternalECRefEnabled dev false first 0
    res.1 = 0 ∧ res.2.ec_ref_count_ = eng.ec_ref_count_ -
        (if (dev = none ∨ dev = eng.rx_ec_dev_) ∧ 0 < eng.ec_ref_count_ then 1 else 0) ∧
      (res.2.session_ec = true ↔ 0 < res.2.ec_ref_count_) := by
  unfold EcEngine.setECRef
  by_cases hdev : dev = none ∨ dev = eng.rx_ec_dev_
  · by_cases hcount : 0 < eng.ec_ref_count_
    · by_cases hlast : eng.ec_ref_count_ - 1 = 0
      · simp [hdev, hcount, hlast, EcEngine.sessionSetECRef]
      · have hpos := hs.mpr hcount
        simp [hdev, hcount, hlast, hpos]
        omega
    · simp [hdev, hcount, hs]
  · simp [hdev, hs]

theorem agrees_update_iff {eng' : EcEngine} {i : ι} {v : Option DeviceId}
    (hcount : sys.engine.ec_ref_count_ = held sys.ec_rx_dev_)
    (hs : eng'.session_ec = true ↔ 0 < eng'.ec_ref_count_) :
    Agrees ⟨Function.update sys.ec_rx_dev_ i v, eng'⟩ ↔
      eng'.ec_ref_count_ + holding (sys.ec_rx_dev_ i) =
        sys.engine.ec_ref_count_ + holding v := by
  have hupdate := held_update sys.ec_rx_dev_ i v
  constructor
  · rintro ⟨h, -⟩
    simp only at h
    omega
  · intro h
    refine ⟨?_, hs⟩
    simp only
    omega

omit [Fintype ι] [DecidableEq ι] in
/-- What the cache holds after a disable. -/
theorem holding_cache (sys : EcSystem ι) {c : EcCall ι} (hdis : c.is_enable = false) :
    (ClearsCache sys c → holding (sys.ec_rx_dev_ c.stream) = 1 ∧ holding (sys.cache c) = 0) ∧
      (¬ClearsCache sys c → holding (sys.cache c) = holding (sys.ec_rx_dev_ c.stream)) := by
  unfold ClearsCache cache
  simp only [hdis]
  constructor
  · rintro ⟨hsome, hdev⟩
    simp [holding, hsome, hdev]
  · intro hnot
    by_cases hdev : sys.ec_rx_dev_ c.stream = c.dev ∨ c.dev = none
    · have hnone : (sys.ec_rx_dev_ c.stream).isSome = false := by
        cases hsome : (sys.ec_rx_dev_ c.stream).isSome with
        | false => rfl
        | true => exact absurd ⟨hsome, hdev⟩ hnot
      simp [holding, hdev, hnone]
    · simp [hdev]

/-- **Step.** With the session call succeeding, a call keeps the count in agreement with the caches
exactly when it is balanced. -/
theorem agrees_setECRefL_iff {c : EcCall ι} (h : Agrees sys) (hok : c.session_status = 0) :
    Agrees (sys.setECRefL isExternalECRefEnabled c) ↔ Balanced isExternalECRefEnabled sys c := by
  obtain ⟨hcount, hs⟩ := h
  by_cases hh : Handled c
  swap
  · rw [setECRefL_of_not_handled hh]
    exact ⟨fun _ h => absurd h hh, fun _ => ⟨hcount, hs⟩⟩
  rw [setECRefL_of_handled hh]
  have hsame : ∀ e : EcEngine, e = sys.engine → (e.session_ec = true ↔ 0 < e.ec_ref_count_) := by
    rintro _ rfl
    exact hs
  by_cases hr : Refused isExternalECRefEnabled sys c
  · -- the call fails, and changes nothing
    have hres : sys.processEcRef isExternalECRefEnabled c = (-EINVAL, sys.engine) := by
      obtain ⟨hfwd, hen, hext, hint⟩ := hr
      simp [processEcRef, hfwd, EcEngine.setECRef, hen, hext, hint]
    rw [hres]
    exact ⟨fun _ _ h => absurd hr h, fun _ => ⟨hcount, hs⟩⟩
  have hbal : Balanced isExternalECRefEnabled sys c ↔
      if c.is_enable then
        if forwardsEcRef c.cur_state then c.dev.isSome = true
        else holding (sys.ec_rx_dev_ c.stream) = holding c.dev
      else
        if forwardsEcRef c.cur_state then LowersCount sys c ↔ ClearsCache sys c
        else ¬ClearsCache sys c := ⟨fun h => h hh hr, fun h _ _ => h⟩
  rw [hbal]
  cases hen : c.is_enable with
  | true =>
    have hcache : sys.cache c = c.dev := by simp [cache, hen]
    cases hfwd : forwardsEcRef c.cur_state with
    | true =>
      have hfirst : (sys.ec_rx_dev_ c.stream).isNone = false → 0 < sys.engine.ec_ref_count_ := by
        intro hsome
        obtain ⟨d, hd⟩ := Option.isSome_iff_exists.mp (by simpa using hsome)
        rw [hcount]
        exact held_pos hd
      have hext : ¬(sys.engine.is_crr_dev_using_ext_ec_ = true ∧
          c.dev.elim false isExternalECRefEnabled = false) := fun h => hr ⟨hfwd, hen, h.1, h.2⟩
      obtain ⟨hret, hcount', hs'⟩ := setECRef_enable hext hs hfirst
      have hres : sys.processEcRef isExternalECRefEnabled c = sys.engine.setECRef
          isExternalECRefEnabled c.dev true (sys.ec_rx_dev_ c.stream).isNone 0 := by
        simp [processEcRef, hfwd, hen, hok]
      rw [hres, if_neg (by simpa using hret), agrees_update_iff hcount hs', hcount', hcache]
      cases sys.ec_rx_dev_ c.stream <;> cases c.dev <;> simp
    | false =>
      have hres : sys.processEcRef isExternalECRefEnabled c = (0, sys.engine) := by
        simp [processEcRef, hfwd]
      rw [hres, if_neg (by simp), agrees_update_iff hcount hs, hcache]
      simp
  | false =>
    obtain ⟨hclear, hkeep⟩ := holding_cache sys hen
    cases hfwd : forwardsEcRef c.cur_state with
    | true =>
      obtain ⟨hret, hcount', hs'⟩ :=
        setECRef_disable isExternalECRefEnabled c.dev (sys.ec_rx_dev_ c.stream).isNone hs
      have hres : sys.processEcRef isExternalECRefEnabled c = sys.engine.setECRef
          isExternalECRefEnabled c.dev false (sys.ec_rx_dev_ c.stream).isNone 0 := by
        simp [processEcRef, hfwd, hen, hok]
      rw [hres, if_neg (by simpa using hret), agrees_update_iff hcount hs', hcount']
      have hlowers : sys.engine.ec_ref_count_ - (if (c.dev = none ∨
          c.dev = sys.engine.rx_ec_dev_) ∧ 0 < sys.engine.ec_ref_count_ then 1 else 0) =
          sys.engine.ec_ref_count_ - (if LowersCount sys c then 1 else 0) := rfl
      rw [hlowers]
      by_cases hc : ClearsCache sys c
      · -- the stream holds a device, so the count is positive
        obtain ⟨h1, h2⟩ := hclear hc
        have hpos : 0 < sys.engine.ec_ref_count_ := by
          obtain ⟨d, hd⟩ := Option.isSome_iff_exists.mp hc.1
          rw [hcount]
          exact held_pos hd
        by_cases hl : LowersCount sys c
        · simp [hl, hc, h1, h2]
          omega
        · simp [hl, hc, h1, h2]
      · have h1 := hkeep hc
        by_cases hl : LowersCount sys c
        · have hpos := hl.2
          simp [hl, hc, h1]
          omega
        · simp [hl, hc, h1]
    | false =>
      have hres : sys.processEcRef isExternalECRefEnabled c = (0, sys.engine) := by
        simp [processEcRef, hfwd]
      rw [hres, if_neg (by simp), agrees_update_iff hcount hs]
      by_cases hc : ClearsCache sys c
      · obtain ⟨h1, h2⟩ := hclear hc
        simp [hc, h1, h2]
      · have h1 := hkeep hc
        simp [hc, h1]

/-! ### Runs of calls -/

/-- The system after a call. -/
def ecStep (isExternalECRefEnabled : DeviceId → Bool) (sys : EcSystem ι) (c : EcCall ι) :
    Option (EcSystem ι) :=
  some (sys.setECRefL isExternalECRefEnabled c)

/-- No stream caches a device, and the engine is as its constructor leaves it. -/
def initial : EcSystem ι := ⟨fun _ => none, ⟨0, none, false, false⟩⟩

omit [DecidableEq ι] in
theorem agrees_initial : Agrees (initial : EcSystem ι) := by
  constructor <;> simp [initial]

/-- **The reference count along runs.** When every session call succeeds, the count and the caches
agree all along a run exactly when every call is balanced where it is made. -/
theorem agrees_along_iff {calls : List (EcCall ι)} (hok : ∀ c ∈ calls, c.session_status = 0) :
    (∀ done sys, done <+: calls → run (ecStep isExternalECRefEnabled) initial done = some sys →
        Agrees sys) ↔
      Meets (ecStep isExternalECRefEnabled) (Balanced isExternalECRefEnabled) initial calls := by
  refine invariant_prefixes_iff_meets ?_ agrees_initial
  intro sys c hc h
  rw [← agrees_setECRefL_iff h (hok c hc)]
  simp [ecStep]

end Count

/-- A call of one of two streams, which the profile and the resource manager let through. -/
def ecCall (stream : Fin 2) (dev : Option DeviceId) (is_enable : Bool)
    (cur_state : st_state_id_t) : EcCall (Fin 2) :=
  ⟨stream, dev, is_enable, cur_state, true, true, 0⟩

/-- Two streams enable the same device, and disable it one after the other. -/
def ecRun : List (EcCall (Fin 2)) :=
  [ecCall 0 (some 7) true ST_STATE_LOADED, ecCall 1 (some 7) true ST_STATE_ACTIVE,
    ecCall 0 (some 7) false ST_STATE_ACTIVE, ecCall 1 none false ST_STATE_LOADED]

theorem agrees_along_ecRun : (∀ c ∈ ecRun, c.session_status = 0) ∧
    ∀ done sys, done <+: ecRun → run (ecStep fun _ => false) initial done = some sys →
      Agrees sys := by
  have hok : ∀ c ∈ ecRun, c.session_status = 0 := by simp [ecRun, ecCall]
  refine ⟨hok, (agrees_along_iff hok).mpr ?_⟩
  simp [ecRun, ecCall, Meets, ecStep, Balanced, initial, forwardsEcRef, setECRefL, processEcRef,
    cache, EcEngine.setECRef, EcEngine.sessionSetECRef, LowersCount, ClearsCache]

/-- A stream that enables its echo reference before it has a model caches the device; the engine
never hears of it. -/
theorem not_agrees_idle :
    ¬∀ (calls : List (EcCall (Fin 2))) (sys : EcSystem (Fin 2)),
      (∀ c ∈ calls, c.session_status = 0) →
        run (ecStep fun _ => false) initial calls = some sys → Agrees sys := by
  intro h
  have hagrees := h [ecCall 0 (some 7) true ST_STATE_IDLE] _ (by simp [ecCall]) rfl
  have hcount : 0 = held (Function.update (fun _ => none) (0 : Fin 2) (some 7)) := hagrees.1
  have hheld := held_update (fun _ : Fin 2 => (none : Option DeviceId)) 0 (some 7)
  simp [← hcount] at hheld

end EcSystem

end AudioReachPal.Gsl
