import AudioReachPal.Rm.Defs
import AudioReachPal.Lib.Runs
import Mathlib.Algebra.Ring.Nat
import Mathlib.Data.List.Nodup
import Mathlib.Data.List.Perm.Basic
import Mathlib.Logic.Function.Basic
import Mathlib.Order.Basic
import Mathlib.Order.Nat

/-!
# The registered streams and the limit on their number

A constructor registers its stream, `Stream::create` then asks whether the stream is supported, and
a destructor takes it out of the lists again. The check compares the number of registered streams
of the type with the limit of the type. Each of the three runs under the mutex of the active
streams; what happens between them is up to the callers, so that a run is a sequence of their calls.
-/

namespace AudioReachPal.Rm

open AudioReachPal.Lib

open pal_stream_type_t

/-! ### The lists of active streams -/

/-- The lists of registered streams, one for each type and one for all. -/
structure ActiveStreams where
  activeStreamMap : pal_stream_type_t → Option (List StreamId) := fun _ => none
  mActiveStreams : List StreamId := []

namespace ActiveStreams

/-- The streams of a type. -/
def getActiveStreamByType (rm : ActiveStreams) (type : pal_stream_type_t) : List StreamId :=
  (rm.activeStreamMap type).getD []

/-- `getStreamType` fails for a stream without attributes. -/
def registerStream (rm : ActiveStreams) (s : StreamId) (getStreamType : Option pal_stream_type_t) :
    ℤ × ActiveStreams :=
  match getStreamType with
  | none => (-EINVAL, rm)
  | some type =>
    (0, { activeStreamMap := Function.update rm.activeStreamMap type <| some <|
            match rm.activeStreamMap type with
            | some streams => streams ++ [s]
            | none => [s]
          mActiveStreams := rm.mActiveStreams ++ [s] })

/-- The list of a type without the stream; an empty list leaves the map. -/
def eraseFromType (rm : ActiveStreams) (s : StreamId) (type : pal_stream_type_t) :
    ℤ × (pal_stream_type_t → Option (List StreamId)) :=
  match rm.activeStreamMap type with
  | some streams =>
    if s ∈ streams then
      (0, Function.update rm.activeStreamMap type
            (if streams.erase s = [] then none else some (streams.erase s)))
    else (-ENOENT, rm.activeStreamMap)
  | none => (-EINVAL, rm.activeStreamMap)

def deregisterStream (rm : ActiveStreams) (s : StreamId)
    (getStreamType : Option pal_stream_type_t) : ℤ × ActiveStreams :=
  match getStreamType with
  | none => (-EINVAL, rm)
  | some type =>
    (if s ∈ rm.mActiveStreams then (rm.eraseFromType s type).1 else -ENOENT,
      { activeStreamMap := (rm.eraseFromType s type).2
        mActiveStreams := rm.mActiveStreams.erase s })

/-- `size() - 1` of a list, as a `size_t`. -/
def sizeMinusOne (n : ℕ) : ℕ := if n = 0 then 2 ^ 64 - 1 else n - 1

/-- What a check is asked with: the attributes, whether the device pointer is set, the number of
devices, and what the stream says of its own configuration. -/
structure Request where
  getStreamAttributes : Option pal_stream_type_t
  devices : Bool
  no_of_devices : ℤ
  supported : Bool
  deriving DecidableEq, Repr

/-- The types that may come without devices. -/
def Request.devicesInvalid (r : Request) (type : pal_stream_type_t) : Bool :=
  0 < r.no_of_devices && !r.devices && type ≠ PAL_STREAM_VOICE_CALL_MUSIC &&
    type ≠ PAL_STREAM_VOICE_CALL_RECORD && type ≠ PAL_STREAM_CALL_TRANSLATION

/-- The check of a stream; a null stream has no attributes either. -/
def isStreamSupported (rm : ActiveStreams) (maxSessionMap : pal_stream_type_t → Option UInt32)
    (r : Request) : Bool :=
  match r.getStreamAttributes with
  | none => false
  | some type =>
    if r.devicesInvalid type then false
    else match maxSessionMap type with
      | none => false
      | some max_sessions =>
        -- the new stream is in the list already
        if sizeMinusOne (rm.getActiveStreamByType type).length = max_sessions.toNat then false
        else r.supported

/-- A stream is accepted exactly when its type has a limit that the size does not hit, and nothing
else speaks against it. -/
theorem isStreamSupported_eq_true {rm : ActiveStreams}
    {maxSessionMap : pal_stream_type_t → Option UInt32} {r : Request} :
    rm.isStreamSupported maxSessionMap r = true ↔ ∃ t max_sessions,
      r.getStreamAttributes = some t ∧ maxSessionMap t = some max_sessions ∧
      r.devicesInvalid t = false ∧
      sizeMinusOne (rm.getActiveStreamByType t).length ≠ max_sessions.toNat ∧
      r.supported = true := by
  unfold isStreamSupported
  cases hattr : r.getStreamAttributes with
  | none => simp
  | some t =>
    cases hmax : maxSessionMap t with
    | none => simp [hmax]
    | some m =>
      by_cases hdev : r.devicesInvalid t = true
      · simp [hdev, hmax]
      · by_cases hsize : sizeMinusOne (rm.getActiveStreamByType t).length = m.toNat
        · simp [hdev, hmax, hsize]
        · simp [hdev, hmax, hsize]

/-! ### What the calls do to the list of a type -/

variable {rm : ActiveStreams} {s : StreamId} {t type : pal_stream_type_t}

theorem getActiveStreamByType_registerStream :
    (rm.registerStream s (some type)).2.getActiveStreamByType t =
      if t = type then rm.getActiveStreamByType t ++ [s] else rm.getActiveStreamByType t := by
  unfold registerStream getActiveStreamByType
  by_cases ht : t = type
  · subst ht
    cases h : rm.activeStreamMap t <;> simp [h]
  · simp [ht]

theorem getActiveStreamByType_deregisterStream :
    (rm.deregisterStream s (some type)).2.getActiveStreamByType t =
      if t = type then (rm.getActiveStreamByType t).erase s else rm.getActiveStreamByType t := by
  have hmap : (rm.deregisterStream s (some type)).2.activeStreamMap =
      (rm.eraseFromType s type).2 := rfl
  unfold getActiveStreamByType
  rw [hmap, eraseFromType]
  cases h : rm.activeStreamMap type with
  | none =>
    by_cases ht : t = type
    · simp [ht, h]
    · simp [ht]
  | some streams =>
    by_cases ht : t = type
    · subst ht
      by_cases hs : s ∈ streams
      · by_cases he : streams.erase s = [] <;> simp only [hs, he, h, if_true, if_false,
          Function.update_self, Option.getD_some, Option.getD_none]
      · simp [h, hs, List.erase_of_not_mem hs]
    · by_cases hs : s ∈ streams <;> simp [ht, hs]

end ActiveStreams

/-! ### Creations and closes -/

/-- The three steps of the streams' lives. A creation is the first two, a failed creation and a
close end with the third. -/
inductive SessionCall where
  | registerStream (s : StreamId)
  | isStreamSupported (s : StreamId) (devices : Bool) (no_of_devices : ℤ) (supported : Bool)
  | deregisterStream (s : StreamId)
  deriving DecidableEq, Repr

/-- The lists, and the streams whose check returned true and that are not closed. -/
structure Sessions where
  rm : ActiveStreams := {}
  opened : List StreamId := []

/-- The limits of the platform, and the type of each stream object. -/
structure SessionConfig where
  maxSessionMap : pal_stream_type_t → Option UInt32
  type : StreamId → Option pal_stream_type_t

section Runs

variable (cfg : SessionConfig)

def SessionConfig.request (s : StreamId) (devices : Bool) (no_of_devices : ℤ) (supported : Bool) :
    ActiveStreams.Request := ⟨cfg.type s, devices, no_of_devices, supported⟩

/-- A stream object is registered by its constructor, and checked at most once after that. -/
def Sessions.step (σ : Sessions) : SessionCall → Option Sessions
  | .registerStream s =>
    if s ∈ σ.rm.mActiveStreams then none
    else some { σ with rm := (σ.rm.registerStream s (cfg.type s)).2 }
  | .isStreamSupported s devices no_of_devices supported =>
    if s ∈ σ.opened ∨ (cfg.type s ≠ none ∧ s ∉ σ.rm.mActiveStreams) then none
    else if σ.rm.isStreamSupported cfg.maxSessionMap
        (cfg.request s devices no_of_devices supported) then
      some { σ with opened := s :: σ.opened }
    else some σ
  | .deregisterStream s =>
    some { rm := (σ.rm.deregisterStream s (cfg.type s)).2, opened := σ.opened.erase s }

/-- The open streams of a type. -/
def Sessions.openedOf (σ : Sessions) (t : pal_stream_type_t) : List StreamId :=
  σ.opened.filter fun s => cfg.type s = some t

/-- No type has more open streams than its limit. -/
def Sessions.SessionLaw (σ : Sessions) : Prop :=
  ∀ t max_sessions, cfg.maxSessionMap t = some max_sessions →
    (σ.openedOf cfg t).length ≤ max_sessions.toNat

/-- What keeps the limit: where as many streams of the type are open as may be, a new stream with a
valid request is checked only while every other registered stream of its type is an open one. No
other creation is between its two steps then, and none has left its stream behind. -/
def Sessions.keepsLimit (σ : Sessions) : SessionCall → Prop
  | .isStreamSupported s devices no_of_devices supported =>
    ∀ t max_sessions, s ∈ σ.rm.getActiveStreamByType t → s ∉ σ.opened →
      cfg.maxSessionMap t = some max_sessions →
      (cfg.request s devices no_of_devices supported).devicesInvalid t = false →
      supported = true → (σ.openedOf cfg t).length = max_sessions.toNat →
      ∀ s' ∈ σ.rm.getActiveStreamByType t, s' ≠ s → s' ∈ σ.opened
  | _ => True

variable {cfg} {σ σ' : Sessions}

/-- The lists have each registered stream once, and the open streams among them. -/
structure Sessions.Listed (cfg : SessionConfig) (σ : Sessions) : Prop where
  nodup : σ.rm.mActiveStreams.Nodup
  nodupOf : ∀ t, (σ.rm.getActiveStreamByType t).Nodup
  mem_iff : ∀ t s, s ∈ σ.rm.getActiveStreamByType t ↔
    s ∈ σ.rm.mActiveStreams ∧ cfg.type s = some t
  openedNodup : σ.opened.Nodup
  registered : ∀ s ∈ σ.opened, s ∈ σ.rm.mActiveStreams

namespace Sessions

theorem init_listed : Listed cfg {} where
  nodup := List.nodup_nil
  nodupOf _ := List.nodup_nil
  mem_iff _ _ := by simp [ActiveStreams.getActiveStreamByType]
  openedNodup := List.nodup_nil
  registered _ h := absurd h List.not_mem_nil

theorem listed_registerStream {s : StreamId} (h : Listed cfg σ) (hs : s ∉ σ.rm.mActiveStreams) :
    Listed cfg { σ with rm := (σ.rm.registerStream s (cfg.type s)).2 } := by
  cases htype : cfg.type s with
  | none => exact h
  | some type =>
    have hnot : s ∉ σ.rm.getActiveStreamByType type := fun hmem => hs ((h.mem_iff _ _).mp hmem).1
    refine ⟨?_, fun t => ?_, fun t u => ?_, h.openedNodup, fun u hu => ?_⟩
    · simpa [ActiveStreams.registerStream, List.nodup_append, h.nodup] using
        fun a ha (he : a = s) => hs (he ▸ ha)
    · rw [ActiveStreams.getActiveStreamByType_registerStream]
      split_ifs with ht
      · subst ht
        simpa [List.nodup_append, h.nodupOf t] using fun a ha (he : a = s) => hnot (he ▸ ha)
      · exact h.nodupOf t
    · rw [ActiveStreams.getActiveStreamByType_registerStream]
      have hmem := h.mem_iff t u
      by_cases ht : t = type
      · subst ht
        by_cases hu : u = s
        · subst hu
          simp [ActiveStreams.registerStream, htype]
        · simp [ActiveStreams.registerStream, hmem, hu]
      · have hne : u = s → cfg.type u ≠ some t := by
          rintro rfl
          simp [htype, Ne.symm ht]
        simp only [ht, if_false, hmem, ActiveStreams.registerStream, List.mem_append,
          List.mem_singleton]
        tauto
    · simp [ActiveStreams.registerStream, h.registered u hu]

theorem listed_deregisterStream (s : StreamId) (h : Listed cfg σ) :
    Listed cfg { rm := (σ.rm.deregisterStream s (cfg.type s)).2, opened := σ.opened.erase s } := by
  have hopened : ∀ u, u ∈ σ.opened.erase s ↔ u ≠ s ∧ u ∈ σ.opened :=
    fun u => h.openedNodup.mem_erase_iff
  cases htype : cfg.type s with
  | none =>
    exact ⟨h.nodup, h.nodupOf, h.mem_iff, h.openedNodup.erase s,
      fun u hu => h.registered u ((hopened u).mp hu).2⟩
  | some type =>
    refine ⟨h.nodup.erase s, fun t => ?_, fun t u => ?_, h.openedNodup.erase s, fun u hu => ?_⟩
    · rw [ActiveStreams.getActiveStreamByType_deregisterStream]
      split_ifs
      · exact (h.nodupOf t).erase s
      · exact h.nodupOf t
    · rw [ActiveStreams.getActiveStreamByType_deregisterStream]
      have hmem := h.mem_iff t u
      by_cases ht : t = type
      · simp only [ht, if_true, ActiveStreams.deregisterStream, (h.nodupOf _).mem_erase_iff,
          h.nodup.mem_erase_iff]
        rw [← ht, hmem]
        tauto
      · have hne : u = s → cfg.type u ≠ some t := by
          rintro rfl
          simp [htype, Ne.symm ht]
        simp only [ht, if_false, hmem, ActiveStreams.deregisterStream, h.nodup.mem_erase_iff]
        tauto
    · obtain ⟨hne, hu⟩ := (hopened u).mp hu
      exact h.nodup.mem_erase_iff.mpr ⟨hne, h.registered u hu⟩

theorem step_listed {call : SessionCall} (h : Listed cfg σ) (hstep : step cfg σ call = some σ') :
    Listed cfg σ' := by
  cases call with
  | registerStream s =>
    simp only [step] at hstep
    split_ifs at hstep with hs
    cases hstep
    exact listed_registerStream h hs
  | isStreamSupported s devices no_of_devices supported =>
    simp only [step] at hstep
    split_ifs at hstep with hs hsup
    · cases hstep
      push Not at hs
      refine ⟨h.nodup, h.nodupOf, h.mem_iff, List.nodup_cons.mpr ⟨hs.1, h.openedNodup⟩, ?_⟩
      rintro u (_ | ⟨_, hu⟩)
      · refine hs.2 ?_
        intro hnone
        simp [ActiveStreams.isStreamSupported, SessionConfig.request, hnone] at hsup
      · exact h.registered u hu
    · cases hstep
      exact h
  | deregisterStream s =>
    cases hstep
    exact listed_deregisterStream s h

/-! ### The limit -/

/-- The size that the check sees is one above the number of open streams exactly when the checked
stream is the only one that is not open. -/
theorem sizeMinusOne_eq_iff {s : StreamId} {t : pal_stream_type_t} (h : Listed cfg σ)
    (hs : s ∈ σ.rm.getActiveStreamByType t) (hnew : s ∉ σ.opened) :
    ActiveStreams.sizeMinusOne (σ.rm.getActiveStreamByType t).length =
        (σ.openedOf cfg t).length ↔
      ∀ s' ∈ σ.rm.getActiveStreamByType t, s' ≠ s → s' ∈ σ.opened := by
  have hpos : (σ.rm.getActiveStreamByType t).length ≠ 0 := by
    rw [Ne, List.length_eq_zero_iff]
    exact List.ne_nil_of_mem hs
  have hsize : ActiveStreams.sizeMinusOne (σ.rm.getActiveStreamByType t).length =
      ((σ.rm.getActiveStreamByType t).erase s).length := by
    rw [ActiveStreams.sizeMinusOne, if_neg hpos, List.length_erase_of_mem hs]
  have hothers : ∀ u, u ∈ (σ.rm.getActiveStreamByType t).erase s ↔
      u ≠ s ∧ u ∈ σ.rm.getActiveStreamByType t := fun u => (h.nodupOf t).mem_erase_iff
  have hopened : ∀ u, u ∈ σ.openedOf cfg t ↔ u ∈ σ.opened ∧ cfg.type u = some t :=
    fun u => by simp [openedOf]
  have hsub : (σ.openedOf cfg t).Subperm ((σ.rm.getActiveStreamByType t).erase s) := by
    refine List.subperm_of_subset (h.openedNodup.filter _) fun u hu => ?_
    obtain ⟨hu, htype⟩ := (hopened u).mp hu
    refine (hothers u).mpr ⟨fun he => hnew (he ▸ hu), ?_⟩
    exact (h.mem_iff t u).mpr ⟨h.registered u hu, htype⟩
  rw [hsize]
  constructor
  · intro heq u hu hne
    have hperm := hsub.perm_of_length_le heq.le
    exact ((hopened u).mp (hperm.mem_iff.mpr ((hothers u).mpr ⟨hne, hu⟩))).1
  · intro hall
    refine (List.Subperm.length_le ?_).antisymm hsub.length_le
    refine List.subperm_of_subset ((h.nodupOf t).erase s) fun u hu => ?_
    obtain ⟨hne, hu⟩ := (hothers u).mp hu
    exact (hopened u).mpr ⟨hall u hu hne, ((h.mem_iff t u).mp hu).2⟩

/-- One more open stream of a type keeps the limits exactly when the type was below its own. -/
theorem sessionLaw_cons_iff {s : StreamId} {t : pal_stream_type_t} {max_sessions : UInt32}
    (hlaw : SessionLaw cfg σ) (htype : cfg.type s = some t)
    (hmax : cfg.maxSessionMap t = some max_sessions) :
    SessionLaw cfg { σ with opened := s :: σ.opened } ↔
      (σ.openedOf cfg t).length ≠ max_sessions.toNat := by
  have hcount : ∀ u, (openedOf cfg { σ with opened := s :: σ.opened } u).length =
      (σ.openedOf cfg u).length + if u = t then 1 else 0 := by
    intro u
    by_cases hu : u = t
    · simp [openedOf, htype, hu]
    · simp [openedOf, htype, hu, Ne.symm hu]
  have hle := hlaw t max_sessions hmax
  constructor
  · intro h
    have := h t max_sessions hmax
    rw [hcount, if_pos rfl] at this
    omega
  · intro hne u m hm
    rw [hcount]
    split_ifs with hu
    · subst hu
      rw [hmax] at hm
      cases hm
      omega
    · exact hlaw u m hm

theorem sessionLaw_erase (s : StreamId) (hlaw : SessionLaw cfg σ) (rm : ActiveStreams) :
    SessionLaw cfg { rm := rm, opened := σ.opened.erase s } := fun t m hm =>
  ((List.erase_sublist.filter _).length_le).trans (hlaw t m hm)

theorem step_law (h : Listed cfg σ) (hlaw : SessionLaw cfg σ) (call : SessionCall) :
    (∀ σ', step cfg σ call = some σ' → SessionLaw cfg σ') ↔ keepsLimit cfg σ call := by
  cases call with
  | registerStream s =>
    refine iff_of_true ?_ trivial
    intro σ' hstep
    simp only [step] at hstep
    split_ifs at hstep
    cases hstep
    exact hlaw
  | deregisterStream s =>
    refine iff_of_true ?_ trivial
    rintro _ ⟨⟩
    exact sessionLaw_erase s hlaw _
  | isStreamSupported s devices no_of_devices supported =>
    simp only [step, keepsLimit]
    split_ifs with hs hsup
    · -- the check is not made
      refine iff_of_true (by simp) fun t m hmem hnew _ _ _ _ _ _ _ => ?_
      obtain ⟨hreg, -⟩ := (h.mem_iff t s).mp hmem
      rcases hs with hs | ⟨-, hs⟩
      · exact absurd hs hnew
      · exact absurd hreg hs
    · -- the stream is accepted
      obtain ⟨t, m, htype, hmax, hdev, hsize, hown⟩ :=
        ActiveStreams.isStreamSupported_eq_true.mp hsup
      replace htype : cfg.type s = some t := htype
      push Not at hs
      have hmem : s ∈ σ.rm.getActiveStreamByType t :=
        (h.mem_iff t s).mpr ⟨hs.2 (by simp [htype]), htype⟩
      have hlimit := sizeMinusOne_eq_iff h hmem hs.1
      simp only [Option.some.injEq, forall_eq', sessionLaw_cons_iff hlaw htype hmax]
      constructor
      · intro hne t' m' hmem' _ hmax' _ _ heq
        obtain rfl : t = t' := by simpa [htype] using ((h.mem_iff t' s).mp hmem').2
        rw [hmax] at hmax'
        cases hmax'
        exact absurd heq hne
      · intro hkeep heq
        have hall := hkeep t m hmem hs.1 hmax hdev hown heq
        exact hsize ((hlimit.mpr hall).trans heq)
    · -- the stream is refused
      push Not at hs
      refine iff_of_true (by simpa using hlaw) fun t m hmem hnew hmax hdev hown heq => ?_
      obtain ⟨-, htype⟩ := (h.mem_iff t s).mp hmem
      refine (sizeMinusOne_eq_iff h hmem hnew).mp ?_
      by_contra hsize
      rw [heq] at hsize
      refine hsup (ActiveStreams.isStreamSupported_eq_true.mpr ?_)
      exact ⟨t, m, htype, hmax, hdev, hsize, hown⟩

/-- **The limit of sessions.** All along a run no type has more open streams than its limit exactly
when every check meets `keepsLimit`. -/
theorem sessionLaw_along_iff {calls : List SessionCall} :
    (∀ calls' σ, calls' <+: calls → run (step cfg) {} calls' = some σ → SessionLaw cfg σ) ↔
      Meets (step cfg) (keepsLimit cfg) {} calls := by
  refine law_prefixes_iff_meets (fun _ _ _ => step_listed) ?_ init_listed ?_
  · intro σ call _ hlisted hlaw
    exact step_law hlisted hlaw call
  · intro t m _
    exact Nat.zero_le _

end Sessions

end Runs

/-- Two sessions of the call translation, as the platform allows them. -/
def callTranslation : SessionConfig where
  maxSessionMap t := if t = PAL_STREAM_CALL_TRANSLATION then some 2 else none
  type _ := some PAL_STREAM_CALL_TRANSLATION

/-- Three constructors register their stream and throw before the check. No later check meets the
limit: each of three streams is accepted. -/
theorem not_sessionLaw_afterThrows :
    ∃ σ, run (Sessions.step callTranslation) {} [.registerStream 1, .registerStream 2,
      .registerStream 3, .registerStream 4, .isStreamSupported 4 true 1 true, .registerStream 5,
      .isStreamSupported 5 true 1 true, .registerStream 6, .isStreamSupported 6 true 1 true] =
        some σ ∧ ¬σ.SessionLaw callTranslation :=
  ⟨_, rfl, fun h => absurd (h PAL_STREAM_CALL_TRANSLATION 2 rfl) (by decide)⟩

end AudioReachPal.Rm
