import AudioReachPal.STUtils.Defs
import AudioReachPal.Lib.Champion
import AudioReachPal.Lib.Runs

/-!
# The common capture profiles

Detection streams that capture from one backend share one capture profile. A stream that starts
compares its profile with the common one, and a stream that stops has the profiles of the other
streams compared, in the order in which the streams are listed; their best one has to have priority
over the common one to replace it, even when that is the profile of the stream that stops. The
comparison is a vote of three numbers, so that three profiles can each have priority over the next.
-/

namespace AudioReachPal.STUtils

open AudioReachPal.Lib

open pal_stream_type_t

/-! ### Profiles -/

abbrev pal_device_id_t := ℕ

def PAL_DEVICE_IN_HANDSET_MIC : pal_device_id_t := 31
def PAL_DEVICE_IN_SPEAKER_MIC : pal_device_id_t := 32
def PAL_DEVICE_IN_WIRED_HEADSET : pal_device_id_t := 34

structure CaptureProfile where
  name_ : String
  device_id_ : pal_device_id_t
  sample_rate_ : UInt32
  channels_ : UInt32
  bitwidth_ : UInt32
  backend_ : String
  deriving DecidableEq, Repr

def CAPTURE_PROFILE_PRIORITY_HIGH : ℤ := 1

/-- One vote: for the greater of two numbers. -/
def vote (a b : UInt32) : ℤ := if a = b then 0 else if a > b then 1 else -1

namespace CaptureProfile

/-- `none` is the null profile. -/
def comparePriority (p : CaptureProfile) : Option CaptureProfile → ℤ
  | none => CAPTURE_PROFILE_PRIORITY_HIGH
  | some cap_prof =>
    if p.backend_ ≠ cap_prof.backend_ then -EINVAL
    else vote p.channels_ cap_prof.channels_ + vote p.sample_rate_ cap_prof.sample_rate_ +
      vote p.bitwidth_ cap_prof.bitwidth_

/-- A device that Voice UI shares with other streams; the stream's `is_backend_shared_`. -/
def shared (p : CaptureProfile) : Bool :=
  p.device_id_ = PAL_DEVICE_IN_HANDSET_MIC ∨ p.device_id_ = PAL_DEVICE_IN_SPEAKER_MIC ∨
    p.device_id_ = PAL_DEVICE_IN_WIRED_HEADSET

end CaptureProfile

/-! ### The common profiles -/

/-- The common profiles, the lists of registered streams, and what the streams say. -/
structure CaptureState where
  SoundTriggerCaptureProfile : Option CaptureProfile := none
  TXMacroCaptureProfile : Option CaptureProfile := none
  getActiveStreamByTypeL : pal_stream_type_t → List StreamId := fun _ => []
  isActive : StreamId → Bool := fun _ => false
  getCurrentCaptureProfile : StreamId → Option CaptureProfile := fun _ => none

namespace CaptureState

variable (cfg : StreamId → Option pal_stream_type_t) (σ : CaptureState)

/-- One turn of the loops below: the profile of a stream takes the place of one it has priority
over. -/
def turn (counted : StreamId → Bool) (skipped : CaptureProfile → Bool) (s : Option StreamId)
    (backend : String) (cap_prof_priority : Option CaptureProfile) (str : StreamId) :
    Option CaptureProfile :=
  if some str = s then cap_prof_priority
  else if counted str = false then cap_prof_priority
  else match σ.getCurrentCaptureProfile str with
    | none => cap_prof_priority
    | some cap_prof =>
      if skipped cap_prof then cap_prof_priority
      else if cap_prof.backend_ ≠ backend then cap_prof_priority
      else if cap_prof.comparePriority cap_prof_priority ≥ CAPTURE_PROFILE_PRIORITY_HIGH then
        some cap_prof
      else cap_prof_priority

def getASRCaptureProfileByPriority (s : Option StreamId) (cap_prof_priority : Option CaptureProfile)
    (backend : String) : Option CaptureProfile :=
  (σ.getActiveStreamByTypeL PAL_STREAM_ASR).foldl
    (σ.turn σ.isActive (fun _ => false) s backend) cap_prof_priority

def getACDCaptureProfileByPriority (s : Option StreamId) (cap_prof_priority : Option CaptureProfile)
    (backend : String) : Option CaptureProfile :=
  (σ.getActiveStreamByTypeL PAL_STREAM_ACD).foldl
    (σ.turn σ.isActive (fun _ => false) s backend) cap_prof_priority

/-- The profiles of shared devices are left out. -/
def getSVACaptureProfileByPriority (s : Option StreamId) (cap_prof_priority : Option CaptureProfile)
    (backend : String) : Option CaptureProfile :=
  (σ.getActiveStreamByTypeL PAL_STREAM_VOICE_UI).foldl
    (σ.turn σ.isActive CaptureProfile.shared s backend) cap_prof_priority

/-- A stream of this type is counted whether it is active or not. -/
def getSPDCaptureProfileByPriority (s : Option StreamId) (cap_prof_priority : Option CaptureProfile)
    (backend : String) : Option CaptureProfile :=
  (σ.getActiveStreamByTypeL PAL_STREAM_SENSOR_PCM_DATA).foldl
    (σ.turn (fun _ => true) (fun _ => false) s backend) cap_prof_priority

/-- The null profile for a stream without attributes. -/
def getCaptureProfileByPriority (s : Option StreamId) (backend : String) : Option CaptureProfile :=
  if s.isSome ∧ s.bind cfg = none then none
  else
    σ.getASRCaptureProfileByPriority s (σ.getSPDCaptureProfileByPriority s
      (σ.getACDCaptureProfileByPriority s (σ.getSVACaptureProfileByPriority s none backend)
        backend) backend) backend

/-- The common profile of a backend. -/
def common (backend : String) : Option CaptureProfile :=
  if backend ≠ "tx_macro" then σ.SoundTriggerCaptureProfile else σ.TXMacroCaptureProfile

def setCommon (backend : String) (cap_prof : Option CaptureProfile) : CaptureState :=
  if backend ≠ "tx_macro" then { σ with SoundTriggerCaptureProfile := cap_prof }
  else { σ with TXMacroCaptureProfile := cap_prof }

/-- The common profile after a start, and whether it was replaced. -/
def raised (cap_prof : CaptureProfile) (common_cap_prof : Option CaptureProfile) :
    Bool × Option CaptureProfile :=
  match common_cap_prof with
  | none => (false, some cap_prof)
  | some c =>
    if cap_prof.comparePriority (some c) ≥ CAPTURE_PROFILE_PRIORITY_HIGH then (true, some cap_prof)
    else (false, some c)

/-- The common profile after a stop, and whether it was replaced. -/
def replaced (cap_prof_priority common_cap_prof : Option CaptureProfile) :
    Bool × Option CaptureProfile :=
  match cap_prof_priority with
  | none => (false, none)
  | some p =>
    if p.comparePriority common_cap_prof ≥ CAPTURE_PROFILE_PRIORITY_HIGH then (true, some p)
    else (false, common_cap_prof)

def updateSoundTriggerCaptureProfile (s : StreamId) (is_active : Bool) : Bool × CaptureState :=
  match cfg s with
  | none => (false, σ)
  | some type =>
    if type ∉ [PAL_STREAM_VOICE_UI, PAL_STREAM_ACD, PAL_STREAM_SENSOR_PCM_DATA, PAL_STREAM_ASR] then
      (false, σ)
    else if is_active then
      match σ.getCurrentCaptureProfile s with
      | none => (false, σ)
      | some cap_prof =>
        let r := raised cap_prof (σ.common cap_prof.backend_)
        (r.1, σ.setCommon cap_prof.backend_ r.2)
    else
      let st := replaced (σ.getCaptureProfileByPriority cfg (some s) "va_macro")
        σ.SoundTriggerCaptureProfile
      let tx := replaced (σ.getCaptureProfileByPriority cfg (some s) "tx_macro")
        σ.TXMacroCaptureProfile
      (st.1 || tx.1, { σ with SoundTriggerCaptureProfile := st.2, TXMacroCaptureProfile := tx.2 })

/-- The caller's flag: a Voice UI stream on a shared device has no part in the common profiles. -/
def is_backend_shared_ (s : StreamId) : Bool :=
  cfg s = some PAL_STREAM_VOICE_UI ∧ (σ.getCurrentCaptureProfile s).any CaptureProfile.shared

end CaptureState

/-- What happens to the streams: a stream is registered or not, an inactive one is told another
profile, and a registered one starts or stops. -/
inductive CaptureCall where
  | registerStream (s : StreamId)
  | deregisterStream (s : StreamId)
  | configure (s : StreamId) (cap_prof : Option CaptureProfile)
  | start (s : StreamId)
  | stop (s : StreamId)
  deriving DecidableEq, Repr

namespace CaptureState

variable (cfg : StreamId → Option pal_stream_type_t)

def setActive (σ : CaptureState) (s : StreamId) (active : Bool) : CaptureState :=
  { σ with isActive := Function.update σ.isActive s active }

def step (σ : CaptureState) : CaptureCall → Option CaptureState
  | .registerStream s =>
    match cfg s with
    | none => none
    | some type =>
      if s ∈ σ.getActiveStreamByTypeL type ∨ σ.isActive s then none
      else some { σ with getActiveStreamByTypeL := Function.update σ.getActiveStreamByTypeL type
                          (σ.getActiveStreamByTypeL type ++ [s]) }
  | .deregisterStream s =>
    match cfg s with
    | none => none
    | some type =>
      if σ.isActive s then none
      else some { σ with getActiveStreamByTypeL := Function.update σ.getActiveStreamByTypeL type
                          ((σ.getActiveStreamByTypeL type).erase s) }
  | .configure s cap_prof =>
    if σ.isActive s then none
    else some { σ with
      getCurrentCaptureProfile := Function.update σ.getCurrentCaptureProfile s cap_prof }
  | .start s =>
    match cfg s with
    | none => none
    | some type =>
      if s ∉ σ.getActiveStreamByTypeL type then none
      else if σ.is_backend_shared_ cfg s then some (σ.setActive s true)
      else some ((σ.updateSoundTriggerCaptureProfile cfg s true).2.setActive s true)
  | .stop s =>
    if σ.is_backend_shared_ cfg s then some (σ.setActive s false)
    else some ((σ.updateSoundTriggerCaptureProfile cfg s false).2.setActive s false)

end CaptureState

/-! ### The vote -/

namespace CaptureProfile

variable {p q : CaptureProfile}

/-- The profile has higher priority than the other one. -/
def hasPriorityOver (p q : CaptureProfile) : Prop :=
  p.comparePriority (some q) ≥ CAPTURE_PROFILE_PRIORITY_HIGH

instance : DecidableRel hasPriorityOver := fun p q =>
  inferInstanceAs (Decidable (p.comparePriority (some q) ≥ CAPTURE_PROFILE_PRIORITY_HIGH))

theorem vote_neg (a b : UInt32) : vote b a = -vote a b := by
  unfold vote
  grind

theorem hasPriorityOver_asymm (h : p.hasPriorityOver q) : ¬q.hasPriorityOver p := by
  unfold hasPriorityOver comparePriority CAPTURE_PROFILE_PRIORITY_HIGH at h ⊢
  by_cases hb : p.backend_ = q.backend_
  · simp only [hb, ne_eq, not_true_eq_false, if_false] at h ⊢
    rw [vote_neg p.channels_, vote_neg p.sample_rate_, vote_neg p.bitwidth_]
    omega
  · simp only [ne_eq, hb, not_false_eq_true, if_true] at h
    exact absurd h (by decide)

/-- Profiles of two backends are not compared. -/
theorem not_hasPriorityOver_of_ne (h : p.backend_ ≠ q.backend_) : ¬p.hasPriorityOver q := by
  unfold hasPriorityOver comparePriority
  simp only [ne_eq, h, not_false_eq_true, if_true]
  decide

end CaptureProfile

open CaptureProfile

/-! ### The best of the counted profiles -/

namespace CaptureState

section Pick

variable {cfg : StreamId → Option pal_stream_type_t} {σ : CaptureState} {s : Option StreamId}
  {backend : String} {p : CaptureProfile}

/-- The profile that a turn compares. -/
def candidate (σ : CaptureState) (counted : StreamId → Bool) (skipped : CaptureProfile → Bool)
    (s : Option StreamId) (backend : String) (str : StreamId) : Option CaptureProfile :=
  (σ.getCurrentCaptureProfile str).bind fun p =>
    if some str ≠ s ∧ counted str = true ∧ skipped p = false ∧ p.backend_ = backend then some p
    else none

def raise (lead : Option CaptureProfile) (p : CaptureProfile) : Option CaptureProfile :=
  if p.comparePriority lead ≥ CAPTURE_PROFILE_PRIORITY_HIGH then some p else lead

theorem turn_eq (counted : StreamId → Bool) (skipped : CaptureProfile → Bool)
    (lead : Option CaptureProfile) (str : StreamId) :
    σ.turn counted skipped s backend lead str =
      match σ.candidate counted skipped s backend str with
      | some p => raise lead p
      | none => lead := by
  unfold turn candidate raise
  cases σ.getCurrentCaptureProfile str with
  | none => simp
  | some p =>
    by_cases hs : some str = s
    · simp [hs]
    · by_cases hc : counted str = true
      · by_cases hk : skipped p = true
        · simp [hs, hc, hk]
        · by_cases hb : p.backend_ = backend
          · simp [hs, hc, hk, hb]
          · simp [hs, hc, hk, hb]
      · simp [hs, hc]

theorem foldl_raise (x : CaptureProfile) (xs : List CaptureProfile) :
    xs.foldl raise (some x) = some (xs.foldl (challenge hasPriorityOver) x) := by
  induction xs generalizing x with
  | nil => rfl
  | cons y ys ih =>
    rw [List.foldl_cons, List.foldl_cons]
    have hturn : raise (some x) y = some (challenge hasPriorityOver x y) := by
      change (if y.hasPriorityOver x then some y else some x) = _
      by_cases h : y.hasPriorityOver x
      · rw [if_pos h, challenge_of_beats h]
      · rw [if_neg h, challenge_of_not_beats h]
    rw [hturn, ih]

theorem foldl_raise_none (xs : List CaptureProfile) :
    xs.foldl raise none = champion hasPriorityOver xs := by
  cases xs with
  | nil => rfl
  | cons x xs => exact foldl_raise x xs

/-- The profiles that are compared, in order. -/
def candidates (σ : CaptureState) (s : Option StreamId) (backend : String) : List CaptureProfile :=
  (σ.getActiveStreamByTypeL PAL_STREAM_VOICE_UI).filterMap
      (σ.candidate σ.isActive CaptureProfile.shared s backend) ++
    (σ.getActiveStreamByTypeL PAL_STREAM_ACD).filterMap
      (σ.candidate σ.isActive (fun _ => false) s backend) ++
    (σ.getActiveStreamByTypeL PAL_STREAM_SENSOR_PCM_DATA).filterMap
      (σ.candidate (fun _ => true) (fun _ => false) s backend) ++
    (σ.getActiveStreamByTypeL PAL_STREAM_ASR).filterMap
      (σ.candidate σ.isActive (fun _ => false) s backend)

theorem foldl_turn (counted : StreamId → Bool) (skipped : CaptureProfile → Bool)
    (lead : Option CaptureProfile) (l : List StreamId) :
    l.foldl (σ.turn counted skipped s backend) lead =
      (l.filterMap (σ.candidate counted skipped s backend)).foldl raise lead := by
  rw [List.foldl_filterMap]
  congr 1
  funext lead str
  rw [turn_eq]
  cases σ.candidate counted skipped s backend str <;> rfl

/-- The four loops are one. -/
theorem getCaptureProfileByPriority_eq (hs : ∀ t, s = some t → cfg t ≠ none) :
    σ.getCaptureProfileByPriority cfg s backend =
      champion hasPriorityOver (σ.candidates s backend) := by
  have hattr : ¬(s.isSome ∧ s.bind cfg = none) := by
    rintro ⟨hsome, hnone⟩
    obtain ⟨t, rfl⟩ := Option.isSome_iff_exists.mp hsome
    exact hs t rfl hnone
  unfold getCaptureProfileByPriority
  rw [if_neg hattr, ← foldl_raise_none]
  unfold candidates getASRCaptureProfileByPriority getSPDCaptureProfileByPriority
    getACDCaptureProfileByPriority getSVACaptureProfileByPriority
  simp only [foldl_turn, List.foldl_append]

theorem candidate_eq_some {counted : StreamId → Bool} {skipped : CaptureProfile → Bool}
    {str : StreamId} : σ.candidate counted skipped s backend str = some p ↔
      σ.getCurrentCaptureProfile str = some p ∧ some str ≠ s ∧ counted str = true ∧
        skipped p = false ∧ p.backend_ = backend := by
  unfold candidate
  constructor
  · intro h
    obtain ⟨q, hq, h⟩ := Option.bind_eq_some_iff.mp h
    split_ifs at h with hcond
    cases h
    exact ⟨hq, hcond⟩
  · rintro ⟨hp, hcond⟩
    rw [hp, Option.bind_some, if_pos hcond]

/-- The backends of the platform's profiles. -/
def backends : List String := ["va_macro", "tx_macro"]

/-- The stream has the profile, and a part in the common profile of the backend while it is
active. -/
def Suitable (σ : CaptureState) (backend : String) (t : StreamId) (p : CaptureProfile) : Prop :=
  σ.getCurrentCaptureProfile t = some p ∧ p.backend_ = backend ∧
    ∃ type ∈ stTypes, t ∈ σ.getActiveStreamByTypeL type ∧
      (type = PAL_STREAM_VOICE_UI → p.shared = false)

/-- The stream is active with the profile, on the backend. -/
def Eligible (σ : CaptureState) (backend : String) (t : StreamId) (p : CaptureProfile) : Prop :=
  σ.isActive t = true ∧ σ.Suitable backend t p

/-- The profile is that of an eligible stream other than the one that stops. -/
def Left (σ : CaptureState) (s : StreamId) (backend : String) (p : CaptureProfile) : Prop :=
  ∃ t, t ≠ s ∧ σ.Eligible backend t p

/-- Another registered sensor PCM stream that is not active has a profile of the backend. -/
def Counted (σ : CaptureState) (s : StreamId) (backend : String) (p : CaptureProfile) : Prop :=
  ∃ t ∈ σ.getActiveStreamByTypeL PAL_STREAM_SENSOR_PCM_DATA, t ≠ s ∧ σ.isActive t = false ∧
    σ.getCurrentCaptureProfile t = some p ∧ p.backend_ = backend

/-- What is counted of the sensor streams that are not active has no priority over the common
profile, and is not all that is left. -/
def sensorsBelow (σ : CaptureState) (s : StreamId) : Prop :=
  ∀ b ∈ backends, ∀ p, σ.Counted s b p →
    (∃ q, σ.Left s b q) ∧ ∀ m, σ.common b = some m → ¬p.hasPriorityOver m

theorem mem_candidates {s : StreamId} : p ∈ σ.candidates (some s) backend ↔
    σ.Left s backend p ∨ σ.Counted s backend p := by
  unfold candidates Left Counted
  simp only [List.mem_append, List.mem_filterMap, candidate_eq_some, ne_eq, Option.some.injEq]
  constructor
  · rintro (((⟨t, ht, hp, hne, hact, hsh, hb⟩ | ⟨t, ht, hp, hne, hact, -, hb⟩) |
      ⟨t, ht, hp, hne, -, -, hb⟩) | ⟨t, ht, hp, hne, hact, -, hb⟩)
    · exact Or.inl ⟨t, hne, hact, hp, hb, _, by simp [stTypes], ht, fun _ => hsh⟩
    · exact Or.inl ⟨t, hne, hact, hp, hb, _, by simp [stTypes], ht, fun h => by cases h⟩
    · cases hact : σ.isActive t with
      | true => exact Or.inl ⟨t, hne, hact, hp, hb, _, by simp [stTypes], ht, fun h => by cases h⟩
      | false => exact Or.inr ⟨t, ht, hne, hact, hp, hb⟩
    · exact Or.inl ⟨t, hne, hact, hp, hb, _, by simp [stTypes], ht, fun h => by cases h⟩
  · rintro (⟨t, hne, hact, hp, hb, type, htype, ht, hsh⟩ | ⟨t, ht, hne, -, hp, hb⟩)
    · simp only [stTypes, List.mem_cons, List.not_mem_nil, or_false] at htype
      rcases htype with rfl | rfl | rfl | rfl
      · exact Or.inl (Or.inl (Or.inl ⟨t, ht, hp, hne, hact, hsh rfl, hb⟩))
      · exact Or.inl (Or.inl (Or.inr ⟨t, ht, hp, hne, hact, trivial, hb⟩))
      · exact Or.inr ⟨t, ht, hp, hne, hact, trivial, hb⟩
      · exact Or.inl (Or.inr ⟨t, ht, hp, hne, trivial, trivial, hb⟩)
    · exact Or.inl (Or.inr ⟨t, ht, hp, hne, trivial, trivial, hb⟩)

/-- Where something is compared, an active stream is left. -/
theorem left_of_candidate {s : StreamId} (hsensors : σ.sensorsBelow s) (hb : backend ∈ backends)
    (hp : p ∈ σ.candidates (some s) backend) : ∃ q, σ.Left s backend q := by
  rcases mem_candidates.mp hp with hleft | hcounted
  · exact ⟨p, hleft⟩
  · exact (hsensors backend hb p hcounted).1

/-- The same streams in other orders. -/
structure Relisted (σ τ : CaptureState) : Prop where
  common : ∀ b, τ.common b = σ.common b
  isActive : τ.isActive = σ.isActive
  profile : τ.getCurrentCaptureProfile = σ.getCurrentCaptureProfile
  lists : ∀ type, (τ.getActiveStreamByTypeL type).Perm (σ.getActiveStreamByTypeL type)

theorem Relisted.mem {τ : CaptureState} (h : Relisted σ τ) {type : pal_stream_type_t} {t : StreamId} :
    t ∈ τ.getActiveStreamByTypeL type ↔ t ∈ σ.getActiveStreamByTypeL type :=
  (h.lists type).mem_iff

theorem Relisted.suitable {τ : CaptureState} (h : Relisted σ τ) {t : StreamId} :
    τ.Suitable backend t p ↔ σ.Suitable backend t p := by
  unfold Suitable
  simp only [h.profile, h.mem]

theorem Relisted.eligible {τ : CaptureState} (h : Relisted σ τ) {t : StreamId} :
    τ.Eligible backend t p ↔ σ.Eligible backend t p := by
  unfold Eligible
  rw [h.suitable, h.isActive]

theorem Relisted.left {τ : CaptureState} (h : Relisted σ τ) {s : StreamId} :
    τ.Left s backend p ↔ σ.Left s backend p :=
  exists_congr fun _ => and_congr_right fun _ => h.eligible

theorem Relisted.sensorsBelow {τ : CaptureState} (h : Relisted σ τ) {s : StreamId}
    (hsensors : σ.sensorsBelow s) : τ.sensorsBelow s := by
  unfold CaptureState.sensorsBelow Counted at hsensors ⊢
  simp only [h.profile, h.mem, h.isActive, h.left, h.common]
  exact hsensors

end Pick

/-! ### Starts and stops -/

section Steps

variable {cfg : StreamId → Option pal_stream_type_t} {σ σ' : CaptureState} {s t : StreamId}
  {backend : String} {p : CaptureProfile}

/-- The lists are by type. -/
def Typed (cfg : StreamId → Option pal_stream_type_t) (σ : CaptureState) : Prop :=
  ∀ type, ∀ t ∈ σ.getActiveStreamByTypeL type, cfg t = some type

@[simp] theorem suitable_setActive {active : Bool} :
    (σ.setActive s active).Suitable backend t p ↔ σ.Suitable backend t p := Iff.rfl

@[simp] theorem suitable_setCommon {b : String} {c : Option CaptureProfile} :
    (σ.setCommon b c).Suitable backend t p ↔ σ.Suitable backend t p := by
  unfold setCommon
  split_ifs <;> rfl

theorem isActive_setCommon {b : String} {c : Option CaptureProfile} :
    (σ.setCommon b c).isActive = σ.isActive := by
  unfold setCommon
  split_ifs <;> rfl

/-- There are two common profiles, one of `tx_macro` and one of all other backends. -/
theorem common_setCommon_eq {b : String} {c : Option CaptureProfile} :
    (σ.setCommon b c).common backend =
      if backend = "tx_macro" ↔ b = "tx_macro" then c else σ.common backend := by
  unfold setCommon common
  by_cases hb : b = "tx_macro" <;> by_cases hbackend : backend = "tx_macro" <;> simp [hb, hbackend]

theorem common_setCommon {b : String} {c : Option CaptureProfile} (hb : b ∈ backends)
    (hbackend : backend ∈ backends) :
    (σ.setCommon b c).common backend = if backend = b then c else σ.common backend := by
  rw [common_setCommon_eq]
  simp only [backends, List.mem_cons, List.not_mem_nil, or_false] at hb hbackend
  rcases hb with rfl | rfl <;> rcases hbackend with rfl | rfl <;> rfl

theorem eligible_setActive_of_ne {active : Bool} (h : t ≠ s) :
    (σ.setActive s active).Eligible backend t p ↔ σ.Eligible backend t p := by
  unfold Eligible
  rw [suitable_setActive]
  simp [setActive, h]

theorem eligible_setActive_self {active : Bool} :
    (σ.setActive s active).Eligible backend s p ↔ active = true ∧ σ.Suitable backend s p := by
  unfold Eligible
  rw [suitable_setActive]
  simp [setActive]

/-- A stream that the calls leave out has no part in the common profiles. -/
theorem not_suitable_of_shared (htyped : Typed cfg σ)
    (h : σ.is_backend_shared_ cfg s = true) : ¬σ.Suitable backend s p := by
  rintro ⟨hp, -, type, -, ht, hshared⟩
  unfold is_backend_shared_ at h
  rw [decide_eq_true_eq, hp, Option.any_some] at h
  obtain ⟨htype, hsh⟩ := h
  rw [htyped type s ht, Option.some.injEq] at htype
  rw [hshared htype] at hsh
  cases hsh

theorem not_suitable_of_type (htyped : Typed cfg σ) (h : ∀ type, cfg s = some type → type ∉ stTypes) :
    ¬σ.Suitable backend s p := by
  rintro ⟨-, -, type, htype, ht, -⟩
  exact h type (htyped type s ht) htype

theorem mem_stTypes {type : pal_stream_type_t} :
    type ∈ [PAL_STREAM_VOICE_UI, PAL_STREAM_ACD, PAL_STREAM_SENSOR_PCM_DATA, PAL_STREAM_ASR] ↔
      type ∈ stTypes := by
  cases type <;> simp [stTypes]

theorem update_of_not_mem {is_active : Bool} (h : ∀ type, cfg s = some type → type ∉ stTypes) :
    σ.updateSoundTriggerCaptureProfile cfg s is_active = (false, σ) := by
  unfold updateSoundTriggerCaptureProfile
  cases htype : cfg s with
  | none => rfl
  | some type =>
    dsimp only
    exact if_pos fun hmem => h type htype (mem_stTypes.mp hmem)

theorem update_start {type : pal_stream_type_t} (htype : cfg s = some type) (hst : type ∈ stTypes) :
    (σ.updateSoundTriggerCaptureProfile cfg s true).2 =
      match σ.getCurrentCaptureProfile s with
      | none => σ
      | some p => σ.setCommon p.backend_ (raised p (σ.common p.backend_)).2 := by
  unfold updateSoundTriggerCaptureProfile
  rw [htype]
  dsimp only
  rw [if_neg (not_not_intro (mem_stTypes.mpr hst)), if_pos rfl]
  cases σ.getCurrentCaptureProfile s <;> rfl

theorem update_stop {type : pal_stream_type_t} (htype : cfg s = some type) (hst : type ∈ stTypes) :
    (σ.updateSoundTriggerCaptureProfile cfg s false).2 =
      { σ with
        SoundTriggerCaptureProfile :=
          (replaced (champion hasPriorityOver (σ.candidates (some s) "va_macro"))
            (σ.common "va_macro")).2
        TXMacroCaptureProfile :=
          (replaced (champion hasPriorityOver (σ.candidates (some s) "tx_macro"))
            (σ.common "tx_macro")).2 } := by
  have hs : ∀ t, some s = some t → cfg t ≠ none := by
    rintro t ⟨⟩
    simp [htype]
  unfold updateSoundTriggerCaptureProfile
  rw [htype]
  dsimp only
  rw [if_neg (not_not_intro (mem_stTypes.mpr hst)), if_neg (by decide),
    getCaptureProfileByPriority_eq hs, getCaptureProfileByPriority_eq hs]
  rfl

/-- A start either is of a stream that has no part in the common profiles, or raises one. -/
theorem start_cases (htyped : Typed cfg σ) (hstep : step cfg σ (.start s) = some σ') :
    (∀ b p, ¬σ.Suitable b s p) ∧ σ' = σ.setActive s true ∨
      ∃ p, σ.Suitable p.backend_ s p ∧
        σ' = (σ.setCommon p.backend_ (raised p (σ.common p.backend_)).2).setActive s true := by
  simp only [step] at hstep
  split at hstep
  next => cases hstep
  next type htype =>
    split_ifs at hstep with hreg hshared
    · cases hstep
      exact Or.inl ⟨fun b p => not_suitable_of_shared htyped hshared, rfl⟩
    · cases hstep
      by_cases hst : type ∈ stTypes
      · rw [update_start htype hst]
        cases hp : σ.getCurrentCaptureProfile s with
        | none =>
          refine Or.inl ⟨fun b p hs => ?_, rfl⟩
          rw [hs.1] at hp
          cases hp
        | some p =>
          refine Or.inr ⟨p, ⟨hp, rfl, type, hst, hreg, fun hvui => ?_⟩, rfl⟩
          by_contra hsh
          refine hshared ?_
          unfold is_backend_shared_
          rw [decide_eq_true_eq, hp, Option.any_some]
          exact ⟨hvui ▸ htype, by simpa using hsh⟩
      · have hnot : ∀ type', cfg s = some type' → type' ∉ stTypes := by
          intro type' htype'
          rw [htype] at htype'
          cases htype'
          exact hst
        rw [update_of_not_mem hnot]
        exact Or.inl ⟨fun b p => not_suitable_of_type htyped hnot, rfl⟩

/-- A stop either is of a stream that has no part in the common profiles, or has them compared. -/
theorem stop_cases (htyped : Typed cfg σ) (hstep : step cfg σ (.stop s) = some σ') :
    (∀ b p, ¬σ.Suitable b s p) ∧ σ' = σ.setActive s false ∨
      (∀ b ∈ backends, σ'.common b =
        (replaced (champion hasPriorityOver (σ.candidates (some s) b)) (σ.common b)).2) ∧
      σ'.isActive = Function.update σ.isActive s false ∧
      ∀ b t p, σ'.Suitable b t p ↔ σ.Suitable b t p := by
  simp only [step] at hstep
  split_ifs at hstep with hshared
  · cases hstep
    exact Or.inl ⟨fun b p => not_suitable_of_shared htyped hshared, rfl⟩
  · cases hstep
    by_cases hst : ∃ type ∈ stTypes, cfg s = some type
    · obtain ⟨type, hst, htype⟩ := hst
      rw [update_stop htype hst]
      refine Or.inr ⟨fun b hb => ?_, rfl, fun b t p => Iff.rfl⟩
      simp only [backends, List.mem_cons, List.not_mem_nil, or_false] at hb
      rcases hb with rfl | rfl <;> rfl
    · have hnot : ∀ type, cfg s = some type → type ∉ stTypes :=
        fun type htype hmem => hst ⟨type, hmem, htype⟩
      rw [update_of_not_mem hnot]
      exact Or.inl ⟨fun b p => not_suitable_of_type htyped hnot, rfl⟩

end Steps

/-! ### The laws of the common profiles -/

/-- There is no common profile of a backend exactly when no eligible stream of it is active. -/
def NullLaw (σ : CaptureState) : Prop :=
  ∀ b ∈ backends, σ.common b = none ↔ ∀ t p, ¬σ.Eligible b t p

/-- A common profile is that of an active stream, and none of theirs has higher priority. -/
def Best (σ : CaptureState) : Prop :=
  ∀ b ∈ backends, ∀ m, σ.common b = some m →
    (∃ t, σ.Eligible b t m) ∧ ∀ t q, σ.Eligible b t q → ¬q.hasPriorityOver m

/-- A profile of another backend than the two finds their common profile set. The sensor PCM streams
that a stop counts though they are not active make no difference. -/
def wellPlaced (σ : CaptureState) : CaptureCall → Prop
  | .start s => ∀ p, σ.Suitable p.backend_ s p → p.backend_ ∈ backends ∨ σ.common p.backend_ ≠ none
  | .stop s => σ.sensorsBelow s
  | _ => True

/-- A profile that replaces the common one at a start is below no other. A stream with the common
profile stops when another one has it too, or when no other is left. -/
def keepsBest (σ : CaptureState) : CaptureCall → Prop
  | .start s => ∀ p c, σ.Suitable p.backend_ s p → σ.common p.backend_ = some c →
      p.hasPriorityOver c → ∀ t q, σ.Eligible p.backend_ t q → ¬q.hasPriorityOver p
  | .stop s => ∀ b ∈ backends, ∀ m, σ.common b = some m → σ.Eligible b s m →
      (∃ p, σ.Left s b p) → σ.Left s b m
  | _ => True

section Laws

variable {cfg : StreamId → Option pal_stream_type_t} {σ σ' : CaptureState} {s t : StreamId}
  {backend : String} {p q : CaptureProfile}

/-- What changes neither the common profiles nor who is eligible keeps the laws. -/
theorem laws_congr (hcommon : ∀ b ∈ backends, σ'.common b = σ.common b)
    (heligible : ∀ b ∈ backends, ∀ t p, σ'.Eligible b t p ↔ σ.Eligible b t p) :
    (NullLaw σ → NullLaw σ') ∧ (Best σ → Best σ') := by
  constructor
  · intro h b hb
    simp only [hcommon b hb, heligible b hb]
    exact h b hb
  · intro h b hb
    simp only [hcommon b hb, heligible b hb]
    exact h b hb

/-- The stream that is told to start or stop has no part. -/
theorem laws_setActive {active : Bool} (hs : ∀ b p, ¬σ.Suitable b s p) :
    (NullLaw σ → NullLaw (σ.setActive s active)) ∧ (Best σ → Best (σ.setActive s active)) := by
  refine laws_congr (fun _ _ => rfl) fun b _ t p => ?_
  by_cases ht : t = s
  · subst ht
    rw [eligible_setActive_self]
    exact iff_of_false (fun h => hs b p h.2) fun h => hs b p h.2
  · exact eligible_setActive_of_ne ht

/-- Who is eligible after a start. -/
theorem eligible_started {c : Option CaptureProfile} (hs : σ.Suitable p.backend_ s p) :
    ((σ.setCommon p.backend_ c).setActive s true).Eligible backend t q ↔
      (t ≠ s ∧ σ.Eligible backend t q) ∨ (t = s ∧ q = p ∧ backend = p.backend_) := by
  by_cases ht : t = s
  · subst ht
    rw [eligible_setActive_self, suitable_setCommon]
    simp only [true_and, ne_eq, not_true_eq_false, false_and, false_or]
    constructor
    · rintro ⟨hq, hb, -⟩
      rw [hs.1] at hq
      cases hq
      exact ⟨rfl, hb.symm⟩
    · rintro ⟨rfl, rfl⟩
      exact hs
  · rw [eligible_setActive_of_ne ht]
    unfold Eligible
    rw [suitable_setCommon, isActive_setCommon]
    simp [ht]

theorem raised_ne_none (c : Option CaptureProfile) : (raised p c).2 ≠ none := by
  unfold raised
  split
  · simp
  · split_ifs <;> simp

/-- A stream is eligible for one backend only. -/
theorem Suitable.backend_eq (hs : σ.Suitable p.backend_ s p) (hq : σ.Eligible backend s q) :
    q = p ∧ backend = p.backend_ := by
  obtain ⟨-, hq, hb, -⟩ := hq
  rw [hs.1] at hq
  cases hq
  exact ⟨rfl, hb.symm⟩

theorem nullLaw_started (hs : σ.Suitable p.backend_ s p) (hb : p.backend_ ∈ backends)
    (h : NullLaw σ) :
    NullLaw ((σ.setCommon p.backend_ (raised p (σ.common p.backend_)).2).setActive s true) := by
  intro b hb'
  change (σ.setCommon p.backend_ _).common b = none ↔ _
  rw [common_setCommon hb hb']
  by_cases hbp : b = p.backend_
  · subst hbp
    rw [if_pos rfl]
    refine iff_of_false (raised_ne_none _) fun hnone => ?_
    exact hnone s p ((eligible_started hs).mpr (Or.inr ⟨rfl, rfl, rfl⟩))
  · rw [if_neg hbp, h b hb']
    refine forall₂_congr fun t q => not_congr ?_
    rw [eligible_started hs]
    constructor
    · intro he
      refine Or.inl ⟨?_, he⟩
      rintro rfl
      exact hbp (hs.backend_eq he).2
    · rintro (⟨-, he⟩ | ⟨-, -, hbp'⟩)
      · exact he
      · exact absurd hbp' hbp

/-- A start on another backend leaves the streams of the two as they are. -/
theorem eligible_elsewhere {c : Option CaptureProfile} (hs : σ.Suitable p.backend_ s p)
    (hb : p.backend_ ∉ backends) (hbackend : backend ∈ backends) :
    ((σ.setCommon p.backend_ c).setActive s true).Eligible backend t q ↔
      σ.Eligible backend t q := by
  have hne : backend ≠ p.backend_ := fun heq => hb (heq ▸ hbackend)
  rw [eligible_started hs]
  constructor
  · rintro (⟨-, he⟩ | ⟨-, -, heq⟩)
    · exact he
    · exact absurd heq hne
  · intro he
    refine Or.inl ⟨?_, he⟩
    rintro rfl
    exact hne (hs.backend_eq he).2

/-- A start on another backend replaces no best profile. -/
theorem laws_elsewhere (hs : σ.Suitable p.backend_ s p) (hb : p.backend_ ∉ backends)
    (hc : σ.common p.backend_ ≠ none) (h : NullLaw σ) :
    NullLaw ((σ.setCommon p.backend_ (raised p (σ.common p.backend_)).2).setActive s true) ∧
      (Best σ → keepsBest σ (.start s) ∧
        Best ((σ.setCommon p.backend_ (raised p (σ.common p.backend_)).2).setActive s true)) := by
  have htx : p.backend_ ≠ "tx_macro" := by
    rintro heq
    simp [backends, heq] at hb
  have hva : σ.common p.backend_ = σ.common "va_macro" := if_pos htx
  obtain ⟨c, hc⟩ := Option.ne_none_iff_exists'.mp hc
  refine ⟨fun b hb' => ?_, fun hbest => ?_⟩
  · simp only [eligible_elsewhere hs hb hb']
    change (σ.setCommon p.backend_ _).common b = none ↔ _
    rw [common_setCommon_eq, ← h b hb']
    split_ifs with heq
    · refine iff_of_false (raised_ne_none _) ?_
      have hb : σ.common b = σ.common p.backend_ := (if_pos fun htx' => htx (heq.mp htx')).trans hva.symm
      rw [hb, hc]
      exact Option.some_ne_none c
    · rfl
  · -- the common profile is of `va_macro`
    obtain ⟨⟨t, -, -, hcb, -⟩, -⟩ := hbest "va_macro" (by decide) c (hva ▸ hc)
    have hbelow : ¬p.hasPriorityOver c :=
      not_hasPriorityOver_of_ne fun heq => hb (by simp [backends, heq, hcb])
    refine ⟨fun q c' hq hc' hqc => ?_, ?_⟩
    · obtain rfl : q = p := Option.some.inj (hq.1.symm.trans hs.1)
      obtain rfl : c' = c := Option.some.inj (hc'.symm.trans hc)
      exact absurd hqc hbelow
    · have hraised : (raised p (σ.common p.backend_)).2 = some c := by
        rw [hc]
        exact congrArg Prod.snd (if_neg hbelow)
      refine (laws_congr (fun b _ => ?_) fun b hb' t q => eligible_elsewhere hs hb hb').2 hbest
      change (σ.setCommon p.backend_ _).common b = _
      rw [common_setCommon_eq, hraised]
      split_ifs with heq
      · exact hc.symm.trans (hva.trans (if_pos fun htx' => htx (heq.mp htx')).symm)
      · rfl

/-- The common profile is the best one after a start exactly when one that replaces it is below no
other. -/
theorem best_started_iff (hs : σ.Suitable p.backend_ s p) (hb : p.backend_ ∈ backends)
    (h : Best σ) (hnull : NullLaw σ) :
    Best ((σ.setCommon p.backend_ (raised p (σ.common p.backend_)).2).setActive s true) ↔
      ∀ c, σ.common p.backend_ = some c → p.hasPriorityOver c →
        ∀ t q, σ.Eligible p.backend_ t q → ¬q.hasPriorityOver p := by
  have hself : ¬p.hasPriorityOver p := fun hp => hasPriorityOver_asymm hp hp
  have hcommon : ∀ b ∈ backends,
      ((σ.setCommon p.backend_ (raised p (σ.common p.backend_)).2).setActive s true).common b =
        if b = p.backend_ then (raised p (σ.common p.backend_)).2 else σ.common b :=
    fun b hb' => common_setCommon hb hb'
  constructor
  · intro hbest c hc hpc t q hq
    have hraised : (raised p (σ.common p.backend_)).2 = some p := by
      rw [hc]
      exact congrArg Prod.snd (if_pos hpc)
    obtain ⟨-, hall⟩ := hbest _ hb p ((hcommon _ hb).trans ((if_pos rfl).trans hraised))
    by_cases hts : t = s
    · subst hts
      rw [(hs.backend_eq hq).1]
      exact hself
    · exact hall t q ((eligible_started hs).mpr (Or.inl ⟨hts, hq⟩))
  intro hkeeps b hb' m hm
  rw [hcommon b hb'] at hm
  simp only [eligible_started hs]
  by_cases hbp : b = p.backend_
  · subst hbp
    rw [if_pos rfl] at hm
    have hstarted : ∃ t, (t ≠ s ∧ σ.Eligible p.backend_ t p) ∨
        (t = s ∧ p = p ∧ p.backend_ = p.backend_) := ⟨s, Or.inr ⟨rfl, rfl, rfl⟩⟩
    cases hc : σ.common p.backend_ with
    | none =>
      -- the first stream of the backend
      rw [hc] at hm
      cases hm
      have hnone := (hnull _ hb).mp hc
      refine ⟨hstarted, ?_⟩
      rintro t q (⟨-, he⟩ | ⟨-, rfl, -⟩)
      · exact absurd he (hnone t q)
      · exact hself
    | some c =>
      obtain ⟨⟨u, hu⟩, hall⟩ := h _ hb c hc
      rw [hc] at hm
      simp only [raised] at hm
      split_ifs at hm with hpc
      · cases hm
        refine ⟨hstarted, ?_⟩
        rintro t q (⟨-, he⟩ | ⟨-, rfl, -⟩)
        · exact hkeeps c hc hpc t q he
        · exact hself
      · cases hm
        refine ⟨⟨u, ?_⟩, ?_⟩
        · by_cases hus : u = s
          · subst hus
            exact Or.inr ⟨rfl, hs.backend_eq hu⟩
          · exact Or.inl ⟨hus, hu⟩
        · rintro t q (⟨-, he⟩ | ⟨-, rfl, -⟩)
          · exact hall t q he
          · exact hpc
  · rw [if_neg hbp] at hm
    obtain ⟨⟨u, hu⟩, hall⟩ := h b hb' m hm
    have hne : ∀ t q, σ.Eligible b t q → t ≠ s := by
      rintro t q he rfl
      exact hbp (hs.backend_eq he).2
    refine ⟨⟨u, Or.inl ⟨hne u m hu, hu⟩⟩, ?_⟩
    rintro t q (⟨-, he⟩ | ⟨-, -, hbp'⟩)
    · exact hall t q he
    · exact absurd hbp' hbp

/-- Who is eligible after a stop. -/
theorem eligible_stopped (hact : σ'.isActive = Function.update σ.isActive s false)
    (hsuit : ∀ b t p, σ'.Suitable b t p ↔ σ.Suitable b t p) :
    σ'.Eligible backend t q ↔ t ≠ s ∧ σ.Eligible backend t q := by
  unfold Eligible
  rw [hsuit, hact]
  by_cases ht : t = s
  · simp [ht]
  · simp [ht]

/-- What a stop makes of the best common profile: it stays, as no profile that is left has priority
over it, unless none is left. -/
theorem replaced_of_best (hsensors : σ.sensorsBelow s) (hnull : NullLaw σ) (hbest : Best σ)
    {b : String} (hb : b ∈ backends) :
    ((∀ p, ¬σ.Left s b p) →
      (replaced (champion hasPriorityOver (σ.candidates (some s) b)) (σ.common b)).2 = none) ∧
    ((∃ p, σ.Left s b p) →
      (replaced (champion hasPriorityOver (σ.candidates (some s) b)) (σ.common b)).2 =
        σ.common b) := by
  cases hc : champion hasPriorityOver (σ.candidates (some s) b) with
  | none =>
    refine ⟨fun _ => rfl, ?_⟩
    rintro ⟨p, hp⟩
    have hmem := mem_candidates.mpr (Or.inl hp)
    rw [champion_eq_none.mp hc] at hmem
    cases hmem
  | some w =>
    obtain ⟨q, hq⟩ := left_of_candidate hsensors hb (champion_mem hc)
    refine ⟨fun hnone => absurd hq (hnone q), fun _ => ?_⟩
    obtain ⟨t, -, ht⟩ := hq
    cases hold : σ.common b with
    | none => exact absurd ht ((hnull b hb).mp hold t q)
    | some c =>
      have hbelow : ¬w.comparePriority (some c) ≥ CAPTURE_PROFILE_PRIORITY_HIGH := by
        rcases mem_candidates.mp (champion_mem hc) with ⟨u, -, hu⟩ | hcounted
        · exact (hbest b hb c hold).2 u w hu
        · exact (hsensors b hb w hcounted).2 c hold
      unfold replaced
      dsimp only
      rw [if_neg hbelow]

theorem laws_stopped (hsensors : σ.sensorsBelow s)
    (hcommon : ∀ b ∈ backends, σ'.common b =
      (replaced (champion hasPriorityOver (σ.candidates (some s) b)) (σ.common b)).2)
    (hact : σ'.isActive = Function.update σ.isActive s false)
    (hsuit : ∀ b t p, σ'.Suitable b t p ↔ σ.Suitable b t p) (hnull : NullLaw σ) :
    NullLaw σ' ∧ (Best σ → (Best σ' ↔ keepsBest σ (.stop s))) := by
  have heligible : ∀ b t p, σ'.Eligible b t p ↔ t ≠ s ∧ σ.Eligible b t p :=
    fun b t p => eligible_stopped hact hsuit
  refine ⟨fun b hb => ?_, fun hbest => ⟨fun hbest' b hb m hm _ hleft => ?_, ?_⟩⟩
  · rw [hcommon b hb]
    cases hc : champion hasPriorityOver (σ.candidates (some s) b) with
    | none =>
      refine iff_of_true rfl fun t p he => ?_
      have hp := mem_candidates.mpr (Or.inl ⟨t, (heligible b t p).mp he⟩)
      rw [champion_eq_none.mp hc] at hp
      cases hp
    | some m =>
      obtain ⟨q, t, hq⟩ := left_of_candidate hsensors hb (champion_mem hc)
      refine iff_of_false (fun hn => ?_) fun hn => hn t q ((heligible b t q).mpr hq)
      unfold replaced at hn
      dsimp only at hn
      split_ifs at hn
      exact (hnull b hb).mp hn t q hq.2
  · -- the common profile stays, so that it has to be the one of a stream that is left
    have hstays := hcommon b hb
    rw [(replaced_of_best hsensors hnull hbest hb).2 hleft, hm] at hstays
    obtain ⟨⟨t, ht⟩, -⟩ := hbest' b hb m hstays
    exact ⟨t, (heligible b t m).mp ht⟩
  · intro hkeeps b hb m hm
    rw [hcommon b hb] at hm
    simp only [heligible]
    obtain ⟨hnone, hstays⟩ := replaced_of_best hsensors hnull hbest hb
    by_cases hleft : ∃ p, σ.Left s b p
    · rw [hstays hleft] at hm
      obtain ⟨⟨u, hu⟩, hall⟩ := hbest b hb m hm
      refine ⟨?_, fun v q hv => hall v q hv.2⟩
      by_cases hus : u = s
      · exact hkeeps b hb m hm (hus ▸ hu) hleft
      · exact ⟨u, hus, hu⟩
    · rw [hnone (not_exists.mp hleft)] at hm
      cases hm

/-- What happens to the streams between the starts and stops leaves the active ones as they are. -/
theorem eligible_of_idle {call : CaptureCall} (hstep : step cfg σ call = some σ')
    (hcall : ∀ s, call ≠ .start s ∧ call ≠ .stop s) :
    (∀ b, σ'.common b = σ.common b) ∧ ∀ b t p, σ'.Eligible b t p ↔ σ.Eligible b t p := by
  -- the lists change by an inactive stream
  have hlists : ∀ (s : StreamId) (lists : pal_stream_type_t → List StreamId), σ.isActive s = false →
      (∀ type t, t ≠ s → (t ∈ lists type ↔ t ∈ σ.getActiveStreamByTypeL type)) →
      ∀ b t p, Eligible { σ with getActiveStreamByTypeL := lists } b t p ↔ σ.Eligible b t p := by
    intro s lists hs hmem b t p
    unfold Eligible Suitable
    refine and_congr_right fun ht => and_congr_right fun _ => and_congr_right fun _ => ?_
    have hts : t ≠ s := by
      rintro rfl
      rw [hs] at ht
      cases ht
    simp only [hmem _ t hts]
  cases call with
  | start s => exact absurd rfl (hcall s).1
  | stop s => exact absurd rfl (hcall s).2
  | registerStream s =>
    simp only [step] at hstep
    split at hstep
    next => cases hstep
    next type _ =>
      split_ifs at hstep with hreg
      cases hstep
      refine ⟨fun _ => rfl, hlists s _ (by simpa using fun h => hreg (Or.inr h)) fun type' t ht => ?_⟩
      by_cases htype : type' = type <;> simp [htype, ht]
  | deregisterStream s =>
    simp only [step] at hstep
    split at hstep
    next => cases hstep
    next type _ =>
      split_ifs at hstep with hact
      cases hstep
      refine ⟨fun _ => rfl, hlists s _ (by simpa using hact) fun type' t ht => ?_⟩
      by_cases htype : type' = type
      · simp [htype, List.mem_erase_of_ne ht]
      · simp [htype]
  | configure s cap_prof =>
    simp only [step] at hstep
    split_ifs at hstep with hact
    cases hstep
    refine ⟨fun _ => rfl, fun b t p => ?_⟩
    unfold Eligible Suitable
    refine and_congr_right fun ht => ?_
    have hts : t ≠ s := by
      rintro rfl
      exact hact ht
    simp [Function.update_of_ne hts]

theorem lists_setCommon {c : Option CaptureProfile} :
    (σ.setCommon backend c).getActiveStreamByTypeL = σ.getActiveStreamByTypeL := by
  unfold setCommon
  split_ifs <;> rfl

theorem lists_update (is_active : Bool) :
    (σ.updateSoundTriggerCaptureProfile cfg s is_active).2.getActiveStreamByTypeL =
      σ.getActiveStreamByTypeL := by
  unfold updateSoundTriggerCaptureProfile
  split
  · rfl
  · split_ifs
    · split
      · rfl
      · exact lists_setCommon
    · rfl
    · rfl

theorem step_typed {call : CaptureCall} (htyped : Typed cfg σ)
    (hstep : step cfg σ call = some σ') : Typed cfg σ' := by
  have hsub : ∀ type t, t ∈ σ'.getActiveStreamByTypeL type →
      t ∈ σ.getActiveStreamByTypeL type ∨ cfg t = some type := by
    intro type t ht
    cases call with
    | registerStream s =>
      simp only [step] at hstep
      split at hstep
      next => cases hstep
      next type' htype' =>
        split_ifs at hstep
        cases hstep
        by_cases htt : type = type'
        · subst htt
          simp only [Function.update_self, List.mem_append, List.mem_singleton] at ht
          rcases ht with ht | rfl
          · exact Or.inl ht
          · exact Or.inr htype'
        · exact Or.inl (by simpa [htt] using ht)
    | deregisterStream s =>
      simp only [step] at hstep
      split at hstep
      next => cases hstep
      next type' htype' =>
        split_ifs at hstep
        cases hstep
        by_cases htt : type = type'
        · subst htt
          simp only [Function.update_self] at ht
          exact Or.inl (List.mem_of_mem_erase ht)
        · exact Or.inl (by simpa [htt] using ht)
    | configure s cap_prof =>
      simp only [step] at hstep
      split_ifs at hstep
      cases hstep
      exact Or.inl ht
    | start s =>
      refine Or.inl ?_
      simp only [step] at hstep
      split at hstep
      next => cases hstep
      next =>
        split_ifs at hstep <;> cases hstep
        · exact ht
        · exact lists_update true ▸ ht
    | stop s =>
      refine Or.inl ?_
      simp only [step] at hstep
      split_ifs at hstep <;> cases hstep
      · exact ht
      · exact lists_update false ▸ ht
  intro type t ht
  rcases hsub type t ht with ht | ht
  · exact htyped type t ht
  · exact ht

/-- What has no part in the common profiles may start and stop. -/
theorem keepsBest_of_not_suitable (hs : ∀ b p, ¬σ.Suitable b s p) :
    keepsBest σ (.start s) ∧ keepsBest σ (.stop s) :=
  ⟨fun p _ hp => absurd hp (hs _ p), fun b _ m _ hm => absurd hm.2 (hs b m)⟩

/-- What a step does to the laws: from a state in which the common profiles are the best ones they are
after it exactly when it meets `keepsBest`. -/
theorem step_laws {call : CaptureCall} (htyped : Typed cfg σ) (hnull : NullLaw σ)
    (hplaced : wellPlaced σ call) (hstep : step cfg σ call = some σ') :
    NullLaw σ' ∧ (Best σ → (Best σ' ↔ keepsBest σ call)) := by
  by_cases hidle : ∀ s, call ≠ .start s ∧ call ≠ .stop s
  · obtain ⟨hcommon, heligible⟩ := eligible_of_idle hstep hidle
    obtain ⟨hn, hb⟩ := laws_congr (fun b _ => hcommon b) fun b _ => heligible b
    refine ⟨hn hnull, fun h => iff_of_true (hb h) ?_⟩
    cases call with
    | start s => exact absurd rfl (hidle s).1
    | stop s => exact absurd rfl (hidle s).2
    | registerStream | deregisterStream | configure => trivial
  · push Not at hidle
    obtain ⟨s, hs⟩ := hidle
    by_cases hstart : call = .start s
    · subst hstart
      rcases start_cases htyped hstep with ⟨hnone, rfl⟩ | ⟨p, hsuit, rfl⟩
      · obtain ⟨hn, hb⟩ := laws_setActive hnone
        exact ⟨hn hnull, fun h => iff_of_true (hb h) (keepsBest_of_not_suitable hnone).1⟩
      · by_cases hbackend : p.backend_ ∈ backends
        swap
        · obtain ⟨hn, hb⟩ := laws_elsewhere hsuit hbackend
            ((hplaced p hsuit).resolve_left hbackend) hnull
          exact ⟨hn, fun h => iff_of_true (hb h).2 (hb h).1⟩
        refine ⟨nullLaw_started hsuit hbackend hnull, fun h => ?_⟩
        rw [best_started_iff hsuit hbackend h hnull]
        refine ⟨fun hkeeps q c hq => ?_, fun hkeeps c => hkeeps p c hsuit⟩
        obtain rfl : q = p := Option.some.inj (hq.1.symm.trans hsuit.1)
        exact hkeeps c
    · obtain rfl := hs hstart
      rcases stop_cases htyped hstep with ⟨hnone, rfl⟩ | ⟨hcommon, hact, hsuit⟩
      · obtain ⟨hn, hb⟩ := laws_setActive hnone
        exact ⟨hn hnull, fun h => iff_of_true (hb h) (keepsBest_of_not_suitable hnone).2⟩
      · exact laws_stopped hplaced hcommon hact hsuit hnull

/-- A call that is not made asks for nothing. -/
theorem keepsBest_of_none {call : CaptureCall} (htyped : Typed cfg σ)
    (hstep : step cfg σ call = none) : keepsBest σ call := by
  cases call with
  | registerStream | deregisterStream | configure => trivial
  | stop s =>
    simp only [step] at hstep
    split_ifs at hstep
  | start s =>
    refine (keepsBest_of_not_suitable fun b p hs => ?_).1
    obtain ⟨-, -, type, -, hmem, -⟩ := hs
    simp only [step, htyped type s hmem] at hstep
    rw [if_neg (not_not.mpr hmem)] at hstep
    split_ifs at hstep

/-! ### The order of the streams -/

/-- After a stop the best common profile is the same, unless no stream is left. -/
theorem common_stopped (htyped : Typed cfg σ) (hnull : NullLaw σ) (hbest : Best σ)
    (hsensors : σ.sensorsBelow s) (hstep : step cfg σ (.stop s) = some σ') {b : String}
    (hb : b ∈ backends) :
    ((∀ p, ¬σ.Left s b p) → σ'.common b = none) ∧
      ((∃ p, σ.Left s b p) → σ'.common b = σ.common b) := by
  rcases stop_cases htyped hstep with ⟨hnone, rfl⟩ | ⟨hcommon, -, -⟩
  · refine ⟨fun hleft => (hnull b hb).mpr fun t p he => ?_, fun _ => rfl⟩
    by_cases hts : t = s
    · exact hnone b p (hts ▸ he.2)
    · exact hleft p ⟨t, hts, he⟩
  · rw [hcommon b hb]
    exact replaced_of_best hsensors hnull hbest hb

/-- However the streams are listed, a call makes the same common profiles, where they are the best
ones. -/
theorem unordered_of_best {τ τ' : CaptureState} {call : CaptureCall} (htyped : Typed cfg σ)
    (hnull : NullLaw σ) (hbest : Best σ) (hplaced : wellPlaced σ call) (hτ : Relisted σ τ)
    (hstep : step cfg σ call = some σ') (hstep' : step cfg τ call = some τ') :
    ∀ b ∈ backends, τ'.common b = σ'.common b := by
  have htyped' : Typed cfg τ := fun type t ht => htyped type t (hτ.mem.mp ht)
  obtain ⟨hnull', hbest'⟩ := laws_congr (fun b _ => hτ.common b) fun _ _ _ _ => hτ.eligible
  intro b hb
  by_cases hidle : ∀ s, call ≠ .start s ∧ call ≠ .stop s
  · rw [(eligible_of_idle hstep' hidle).1, (eligible_of_idle hstep hidle).1, hτ.common]
  push Not at hidle
  obtain ⟨s, hs⟩ := hidle
  by_cases hstart : call = .start s
  · subst hstart
    rcases start_cases htyped hstep with ⟨hnone, rfl⟩ | ⟨p, hsuit, rfl⟩ <;>
      rcases start_cases htyped' hstep' with ⟨hnone', rfl⟩ | ⟨q, hsuit', rfl⟩
    · exact hτ.common b
    · exact absurd (hτ.suitable.mp hsuit') (hnone _ q)
    · exact absurd (hτ.suitable.mpr hsuit) (hnone' _ p)
    · obtain rfl : q = p := Option.some.inj ((hτ.suitable.mp hsuit').1.symm.trans hsuit.1)
      change (τ.setCommon _ _).common b = (σ.setCommon _ _).common b
      rw [common_setCommon_eq, common_setCommon_eq, hτ.common, hτ.common]
  · obtain rfl := hs hstart
    have hsensors : σ.sensorsBelow s := hplaced
    obtain ⟨hnone, hstays⟩ := common_stopped htyped hnull hbest hsensors hstep hb
    obtain ⟨hnone', hstays'⟩ := common_stopped htyped' (hnull' hnull) (hbest' hbest)
      (hτ.sensorsBelow hsensors) hstep' hb
    simp only [hτ.left] at hnone' hstays'
    by_cases hany : ∃ p, σ.Left s b p
    · rw [hstays hany, hstays' hany, hτ.common]
    · rw [hnone (not_exists.mp hany), hnone' (not_exists.mp hany)]

theorem init_laws (cfg : StreamId → Option pal_stream_type_t) : Typed cfg {} ∧ NullLaw {} ∧ Best {} := by
  refine ⟨fun type t ht => absurd ht List.not_mem_nil, fun b hb => ?_, fun b hb m hm => ?_⟩
  · refine iff_of_true ?_ fun t p he => by cases he.1
    unfold common
    split_ifs <;> rfl
  · unfold common at hm
    split_ifs at hm

end Laws

/-- What a call makes of the common profiles: each is null exactly when no eligible stream of its
backend is active, and else the best one of theirs, however the streams are listed. -/
structure Chosen (cfg : StreamId → Option pal_stream_type_t) (σ : CaptureState) (call : CaptureCall)
    (σ' : CaptureState) : Prop where
  null : NullLaw σ'
  best : Best σ'
  unordered : ∀ τ τ', Relisted σ τ → step cfg τ call = some τ' →
    ∀ b ∈ backends, τ'.common b = σ'.common b

def oneChannel : CaptureProfile := ⟨"ONE", 44, 16000, 1, 16, "va_macro"⟩
def twoChannels : CaptureProfile := ⟨"TWO", 44, 48000, 2, 16, "va_macro"⟩

/-- A stream is registered, gets its profile and starts. -/
def begins (s : StreamId) (p : CaptureProfile) : List CaptureCall :=
  [.registerStream s, .configure s (some p), .start s]

/-- The types of a context, a speech and a sensor stream. -/
def threeStreams : StreamId → Option pal_stream_type_t
  | 1 => some PAL_STREAM_ACD
  | 2 => some PAL_STREAM_ASR
  | _ => some PAL_STREAM_SENSOR_PCM_DATA

/-- Three streams start, the last two with the better profile; a sensor stream is registered and does
not start. One of the two stops, and then the first one. -/
def sharedRun : List CaptureCall :=
  begins 1 oneChannel ++ begins 2 twoChannels ++ begins 3 twoChannels ++
    [.registerStream 4, .configure 4 (some oneChannel), .stop 2, .stop 1]

/-- Its state before the two stops. -/
def allListed : CaptureState where
  SoundTriggerCaptureProfile := some twoChannels
  getActiveStreamByTypeL := Function.update (Function.update (Function.update (Function.update
    (fun _ => []) PAL_STREAM_ACD [1]) PAL_STREAM_ASR [2]) PAL_STREAM_SENSOR_PCM_DATA [3])
    PAL_STREAM_SENSOR_PCM_DATA [3, 4]
  isActive := Function.update (Function.update (Function.update (fun _ => false) 1 true) 2 true)
    3 true
  getCurrentCaptureProfile := Function.update (Function.update (Function.update (Function.update
    (fun _ => none) 1 (some oneChannel)) 2 (some twoChannels)) 3 (some twoChannels)) 4
    (some oneChannel)

/-- Of the two sensor streams the one that is not active is counted, with the lesser profile. -/
theorem sensorsBelow_allListed {isActive : StreamId → Bool} (h3 : isActive 3 = true) {s : StreamId}
    (hs : s ≠ 3) : sensorsBelow { allListed with isActive } s := by
  rintro b - p ⟨t, ht, -, hact, hp, rfl⟩
  have ht : t ∈ [3, 4] := ht
  simp only [List.mem_cons, List.not_mem_nil, or_false] at ht
  rcases ht with rfl | rfl
  · exact absurd (hact.symm.trans h3) (by decide)
  · obtain rfl : oneChannel = p := Option.some.inj hp
    refine ⟨⟨twoChannels, 3, hs.symm, h3, rfl, rfl, PAL_STREAM_SENSOR_PCM_DATA, by decide, ?_,
      fun h => by cases h⟩, fun m hm => ?_⟩
    · exact List.mem_cons_self
    · obtain rfl : twoChannels = m := Option.some.inj hm
      decide

def threeChannels : CaptureProfile := ⟨"THREE", 44, 16000, 3, 24, "va_macro"⟩
def wideChannel : CaptureProfile := ⟨"WIDE", 44, 32000, 1, 32, "va_macro"⟩

/-- Three profiles of which each has priority over the next: the common one is not the best. -/
example :
    ∃ σ, run (step threeStreams) {} (begins 2 twoChannels ++ begins 1 wideChannel ++
      begins 3 threeChannels) = some σ ∧ ¬Best σ := by
  refine ⟨_, rfl, fun h => ?_⟩
  obtain ⟨-, hall⟩ := h "va_macro" (by decide) threeChannels rfl
  refine absurd ?_ (hall 1 wideChannel ?_)
  · decide
  · exact ⟨rfl, rfl, rfl, PAL_STREAM_ACD, by decide, by decide, fun h => by cases h⟩

end CaptureState

end AudioReachPal.STUtils
