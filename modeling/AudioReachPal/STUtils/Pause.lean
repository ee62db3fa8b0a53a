import AudioReachPal.STUtils.Defs
import Mathlib.Data.Finset.Card
import Mathlib.Data.Finset.Filter

/-!
# Pausing for a concurrency

While a stream is active under which detection is not allowed, the detection streams are disabled:
each type counts those streams, and its own streams are paused. `Disabled` is the law of one type;
a notification moves the count of every type by one. A start or stop of a detection stream resumes
the others without a look at the counts, and an ACD stream in SSR has no case for a pause. During a
CRS call a voice call is allowed, so that it may get inactive as another kind than it got active.
-/

namespace AudioReachPal.STUtils

open AudioReachPal.Lib

open pal_stream_type_t pal_stream_direction_t defer_switch_state_t st_action

/-! ### One type -/

/-- The type is disabled `n` times, and paused while it is. -/
def Disabled (n : ℤ) (type : pal_stream_type_t) (g : Globals) : Prop :=
  g.disableCount type = n ∧
    (0 < n → ∀ str ∈ g.mActiveStreams, str.type = type → str.paused_ = true)

/-- The streams of the type that do not take a pause are paused before. -/
def TakesPause (type : pal_stream_type_t) (g : Globals) : Prop :=
  ∀ str ∈ g.mActiveStreams, str.type = type → str.ignoresPause = true → str.paused_ = true

@[simp] theorem disableCount_setDisableCount (type : pal_stream_type_t) (count : ℤ) (g : Globals) :
    (g.setDisableCount type count).disableCount type = count := by
  unfold Globals.setDisableCount
  exact Function.update_self _ _ _

section OtherType

variable {n : ℤ} {type type' : pal_stream_type_t} {g : Globals}

/-- An action on another type. -/
theorem mem_of_mem_action (hne : type ≠ type') {action : st_action} {data : Option StreamId}
    {str : DetectionStream} (htype : str.type = type)
    (hstr : str ∈ (handleDetectionStreamAction type' action data g).mActiveStreams) :
    str ∈ g.mActiveStreams := by
  obtain ⟨str', hmem, rfl⟩ := List.mem_map.mp hstr
  by_cases hact : str'.type = type' ∧ some str'.id ≠ data
  · rw [if_pos hact, DetectionStream.act_type] at htype
    exact absurd (htype.symm.trans hact.1) hne
  · rw [if_neg hact]
    exact hmem

/-- A notification of another type. -/
theorem mem_of_mem_handleStreamPauseResume (hne : type ≠ type') {active : Bool}
    {str : DetectionStream} (htype : str.type = type)
    (hstr : str ∈ (handleStreamPauseResume type' active g).mActiveStreams) :
    str ∈ g.mActiveStreams := by
  unfold handleStreamPauseResume at hstr
  dsimp only at hstr
  split_ifs at hstr
  all_goals first
    | exact hstr
    | exact mem_of_mem_action hne htype hstr

theorem disableCount_handleStreamPauseResume (hne : type ≠ type') (active : Bool) :
    (handleStreamPauseResume type' active g).disableCount type = g.disableCount type := by
  have hcount : ∀ count, (g.setDisableCount type' count).disableCount type = g.disableCount type :=
    fun _ => Function.update_of_ne hne _ _
  unfold handleStreamPauseResume
  dsimp only
  split_ifs <;> first | rfl | exact hcount _

theorem Disabled.handleStreamPauseResume (h : Disabled n type g) (hne : type ≠ type')
    (active : Bool) : Disabled n type (STUtils.handleStreamPauseResume type' active g) :=
  ⟨(disableCount_handleStreamPauseResume hne active).trans h.1, fun hn str hstr htype =>
    h.2 hn str (mem_of_mem_handleStreamPauseResume hne htype hstr) htype⟩

theorem TakesPause.handleStreamPauseResume (h : TakesPause type g) (hne : type ≠ type')
    (active : Bool) : TakesPause type (STUtils.handleStreamPauseResume type' active g) :=
  fun str hstr htype => h str (mem_of_mem_handleStreamPauseResume hne htype hstr) htype

end OtherType

/-- The first disabling pauses the type, and the others find it paused. -/
theorem Disabled.active {n : ℤ} {type : pal_stream_type_t} {g : Globals} (h : Disabled n type g)
    (htype : type ∈ stTypes) (hn : 0 ≤ n) (htakes : n = 0 → TakesPause type g) :
    Disabled (n + 1) type (STUtils.handleStreamPauseResume type true g) := by
  unfold STUtils.handleStreamPauseResume
  rw [if_neg (not_not.mpr htype), if_pos rfl]
  dsimp only
  rw [disableCount_setDisableCount, h.1]
  by_cases hfirst : n + 1 = 1
  · rw [if_pos hfirst]
    refine ⟨disableCount_setDisableCount _ _ _, fun _ str hstr hstype => ?_⟩
    obtain ⟨str', hmem, rfl⟩ := List.mem_map.mp hstr
    by_cases hact : str'.type = type ∧ some str'.id ≠ none
    · rw [if_pos hact]
      unfold DetectionStream.act
      dsimp only
      split_ifs with hignores
      · exact htakes (by omega) str' hmem hact.1 hignores
      · rfl
    · rw [if_neg hact] at hstype
      exact absurd ⟨hstype, by simp⟩ hact
  · rw [if_neg hfirst]
    exact ⟨disableCount_setDisableCount _ _ _, fun _ => h.2 (by omega)⟩

/-- The last enabling resumes the type. -/
theorem Disabled.inactive {n : ℤ} {type : pal_stream_type_t} {g : Globals} (h : Disabled n type g)
    (htype : type ∈ stTypes) (hn : 0 < n) :
    Disabled (n - 1) type (STUtils.handleStreamPauseResume type false g) := by
  unfold STUtils.handleStreamPauseResume
  rw [if_neg (not_not.mpr htype), if_neg (by decide), h.1, if_neg (by omega), if_pos hn]
  dsimp only
  rw [disableCount_setDisableCount]
  by_cases hlast : n - 1 = 0
  · rw [if_pos hlast]
    exact ⟨disableCount_setDisableCount _ _ _, fun h0 => absurd hlast (by omega)⟩
  · rw [if_neg hlast]
    exact ⟨disableCount_setDisableCount _ _ _, fun _ => h.2 hn⟩

/-- A type that is not disabled is not enabled once more. -/
theorem Disabled.inactive_zero {type : pal_stream_type_t} {g : Globals} (h : Disabled 0 type g) :
    Disabled 0 type (STUtils.handleStreamPauseResume type false g) := by
  unfold STUtils.handleStreamPauseResume
  by_cases htype : type ∉ stTypes
  · rw [if_pos htype]
    exact h
  · rw [if_neg htype, if_neg Bool.false_ne_true, h.1, if_neg (by decide), if_neg (by decide)]
    exact h

/-- A notification reaches every type once, and what holds of a type is kept by the others. -/
theorem foldl_handleStreamPauseResume {active : Bool} {P Q : pal_stream_type_t → Globals → Prop}
    {types : List pal_stream_type_t}
    (hone : ∀ type ∈ types, ∀ g, P type g → Q type (handleStreamPauseResume type active g))
    (hP : ∀ type type' g, type ≠ type' → P type g → P type (handleStreamPauseResume type' active g))
    (hQ : ∀ type type' g, type ≠ type' → Q type g → Q type (handleStreamPauseResume type' active g))
    (hnodup : types.Nodup) {g : Globals} (h : ∀ type ∈ types, P type g) :
    ∀ type ∈ types, Q type
      (types.foldl (fun g type => handleStreamPauseResume type active g) g) := by
  have hother : ∀ type (types : List pal_stream_type_t), type ∉ types → ∀ g, Q type g →
      Q type (types.foldl (fun g type => handleStreamPauseResume type active g) g) := by
    intro type types
    induction types with
    | nil => exact fun _ _ h => h
    | cons type' types ih =>
      intro hnot g h
      rw [List.mem_cons, not_or] at hnot
      exact ih hnot.2 _ (hQ type type' g hnot.1 h)
  induction types generalizing g with
  | nil => exact fun _ htype => nomatch htype
  | cons type types ih =>
    obtain ⟨hnot, hnodup⟩ := List.nodup_cons.mp hnodup
    intro type' htype'
    rcases List.mem_cons.mp htype' with rfl | hmem
    · exact hother type' types hnot _ (hone type' htype' g (h type' htype'))
    · refine ih (fun t ht => hone t (List.mem_cons_of_mem _ ht)) hnodup (fun t ht => ?_) type' hmem
      have hne : t ≠ type := fun heq => hnot (heq ▸ ht)
      exact hP t type g hne (h t (List.mem_cons_of_mem _ ht))

/-- What takes no pause stays as it is. -/
theorem mem_handleStreamPauseResume {str : DetectionStream} {type : pal_stream_type_t} {g : Globals}
    (hstr : str ∈ g.mActiveStreams) (hignores : str.ignoresPause = true) :
    str ∈ (handleStreamPauseResume type true g).mActiveStreams := by
  have hact : ∀ g', g'.mActiveStreams = g.mActiveStreams →
      str ∈ (handleDetectionStreamAction type ST_PAUSE none g').mActiveStreams := by
    intro g' hsame
    have hkept : str.act ST_PAUSE = str := if_pos hignores
    refine List.mem_map.mpr ⟨str, hsame ▸ hstr, ?_⟩
    rw [hkept, ite_self]
  unfold handleStreamPauseResume
  by_cases htype : type ∉ stTypes
  · rw [if_pos htype]
    exact hstr
  rw [if_neg htype, if_pos rfl]
  dsimp only
  split_ifs
  · exact hact _ rfl
  · exact hstr

theorem mem_foldl_handleStreamPauseResume {str : DetectionStream} (hignores : str.ignoresPause = true)
    (types : List pal_stream_type_t) {g : Globals} (hstr : str ∈ g.mActiveStreams) :
    str ∈ (types.foldl (fun g type => handleStreamPauseResume type true g) g).mActiveStreams := by
  induction types generalizing g with
  | nil => exact hstr
  | cons type types ih => exact ih (mem_handleStreamPauseResume hstr hignores)

/-! ### What the other handlers leave alone -/

/-- The counts and the streams are kept. -/
structure SamePause (g g' : Globals) : Prop where
  counts : g'.disableCount = g.disableCount
  streams : g'.mActiveStreams = g.mActiveStreams

theorem SamePause.disabled {g g' : Globals} (h : SamePause g g') {n : ℤ}
    {type : pal_stream_type_t} : Disabled n type g' ↔ Disabled n type g := by
  unfold Disabled
  rw [h.counts, h.streams]

section Handlers

variable (p : Platform)

theorem samePause_switchOrDefer (use_lpi : Bool) (g : Globals) :
    SamePause g (switchOrDefer p use_lpi g) := by
  unfold switchOrDefer checkAndUpdateDeferSwitchState
  cases use_lpi <;> simp only [Bool.not_true, Bool.not_false, if_true, Bool.false_eq_true, if_false] <;>
    split_ifs <;> exact ⟨rfl, rfl⟩

theorem samePause_handleNLPIStream (s : Stream) (active : Bool) (g : Globals) :
    SamePause g (handleNLPIStream p s active g) := by
  have hswitch : ∀ use_lpi nlpi, SamePause g
      (switchOrDefer p use_lpi { g with mNLPIStreams := nlpi }) := fun use_lpi nlpi =>
    ⟨(samePause_switchOrDefer p use_lpi _).counts, (samePause_switchOrDefer p use_lpi _).streams⟩
  unfold handleNLPIStream
  dsimp only
  split_ifs <;> first | exact ⟨rfl, rfl⟩ | exact hswitch _ _

theorem samePause_setChargingState (charging_state : Bool) (g : Globals) :
    SamePause g (setChargingState p charging_state g) := by
  have hswitch : ∀ use_lpi, SamePause g
      (switchOrDefer p use_lpi { g with charging_state_ := charging_state }) := fun use_lpi =>
    ⟨(samePause_switchOrDefer p use_lpi _).counts, (samePause_switchOrDefer p use_lpi _).streams⟩
  unfold setChargingState onChargingStateChange
  dsimp only
  split_ifs <;> first | exact ⟨rfl, rfl⟩ | exact hswitch _

theorem samePause_stHandleDeferredSwitch (online : Bool) (g : Globals) :
    SamePause g (stHandleDeferredSwitch online g) := by
  unfold stHandleDeferredSwitch
  split_ifs
  · exact ⟨rfl, rfl⟩
  · cases g.deferredSwitchState <;> exact ⟨rfl, rfl⟩

theorem mActiveStreams_registerStream (id : StreamId) (type : pal_stream_type_t) (memory : Bool)
    (g : Globals) : (registerStream p id type memory g).mActiveStreams = g.mActiveStreams ++
      [{ id, type, isStreamInBuffering := false, paused_ :=
        if type = PAL_STREAM_ASR then memory else decide (g.disableCount type ≠ 0) }] := by
  unfold registerStream onVUIStreamRegistered
  dsimp only
  split_ifs <;> rfl

theorem disableCount_registerStream (id : StreamId) (type : pal_stream_type_t) (memory : Bool)
    (g : Globals) : (registerStream p id type memory g).disableCount = g.disableCount := by
  unfold registerStream onVUIStreamRegistered
  dsimp only
  split_ifs <;> rfl

theorem mActiveStreams_deregisterStream (str : DetectionStream) (g : Globals) :
    (deregisterStream p str g).mActiveStreams = g.mActiveStreams.erase str := by
  unfold deregisterStream onVUIStreamDeregistered
  dsimp only
  split_ifs <;> rfl

theorem disableCount_deregisterStream (str : DetectionStream) (g : Globals) :
    (deregisterStream p str g).disableCount = g.disableCount := by
  unfold deregisterStream onVUIStreamDeregistered
  dsimp only
  split_ifs <;> rfl

/-! ### The law -/

/-- **The law.** Each type counts the active streams under which detection is not allowed, and its
streams are paused while there is one. -/
structure PauseLaw (g : Globals) (disabling : Finset Stream) : Prop where
  counts : ∀ type ∈ stTypes, g.disableCount type = disabling.card
  nonneg : ∀ type ∈ stTypes, 0 ≤ g.disableCount type
  paused : ∀ type ∈ stTypes, 0 < g.disableCount type →
    ∀ str ∈ g.mActiveStreams, str.type = type → str.paused_ = true

theorem pauseLaw_iff {g : Globals} {disabling : Finset Stream} : PauseLaw g disabling ↔
    ∀ type ∈ stTypes, Disabled disabling.card type g := by
  constructor
  · intro h type htype
    exact ⟨h.counts type htype, fun hn => h.paused type htype (by rw [h.counts type htype]; exact hn)⟩
  · intro h
    refine ⟨fun type htype => (h type htype).1, fun type htype => ?_, fun type htype hn => ?_⟩
    · rw [(h type htype).1]
      omega
    · exact (h type htype).2 (by rw [← (h type htype).1]; exact hn)

variable {p}

theorem SamePause.pauseLaw {g g' : Globals} (h : SamePause g g') {disabling : Finset Stream} :
    PauseLaw g' disabling ↔ PauseLaw g disabling := by
  simp only [pauseLaw_iff, h.disabled]

theorem HandleConcurrency_of_disallowed {s : Stream} (hs : (getConcurrencyInfo p s).conc_en = false)
    (active : Bool) (g : Globals) : handleConcurrencyForSoundTriggerStreams p s active g =
      stTypes.foldl (fun g type => STUtils.handleStreamPauseResume type active g)
        { g with TxconcurrencyEnableCount :=
            txConcurrencyCount (getConcurrencyInfo p s).tx_conc active g.TxconcurrencyEnableCount } := by
  unfold handleConcurrencyForSoundTriggerStreams
  simp only [hs, Bool.not_false, if_true]

theorem HandleConcurrency_of_allowed {s : Stream} (hs : ¬(getConcurrencyInfo p s).conc_en = false)
    (active : Bool) (g : Globals) :
    SamePause g (handleConcurrencyForSoundTriggerStreams p s active g) := by
  have hen : (getConcurrencyInfo p s).conc_en = true := by simpa using hs
  unfold handleConcurrencyForSoundTriggerStreams
  simp only [hen, Bool.not_true, Bool.false_eq_true, if_false]
  split_ifs
  · exact ⟨(samePause_handleNLPIStream p s active _).counts,
      (samePause_handleNLPIStream p s active _).streams⟩
  · exact ⟨rfl, rfl⟩

/-- Only ACD streams do not take a pause. -/
theorem takesPause_of_ne {type : pal_stream_type_t} (h : type ≠ PAL_STREAM_ACD) (g : Globals) :
    TakesPause type g := by
  rintro str - rfl hignores
  unfold DetectionStream.ignoresPause at hignores
  rw [Bool.and_eq_true, beq_iff_eq] at hignores
  exact absurd hignores.1 h

theorem disabled_of_pauseLaw {g : Globals} {disabling : Finset Stream} (h : PauseLaw g disabling)
    (count : ℤ) : ∀ type ∈ stTypes,
      Disabled disabling.card type { g with TxconcurrencyEnableCount := count } :=
  fun type htype => SamePause.disabled ⟨rfl, rfl⟩ |>.mpr (pauseLaw_iff.mp h type htype)

/-- A stream that does not allow detection disables it once more: every type, but an ACD stream in SSR
that the first of them finds. -/
theorem pauseLaw_active {g : Globals} {disabling : Finset Stream} (h : PauseLaw g disabling)
    {s : Stream} (hen : (getConcurrencyInfo p s).conc_en = false) (hnew : s ∉ disabling) :
    PauseLaw (handleConcurrencyForSoundTriggerStreams p s true g) (insert s disabling) ↔
      (disabling = ∅ → TakesPause PAL_STREAM_ACD g) := by
  have hcard : ((insert s disabling).card : ℤ) = disabling.card + 1 := by
    rw [Finset.card_insert_of_notMem hnew]
    omega
  rw [HandleConcurrency_of_disallowed hen]
  constructor
  · -- a stream that ignores the first pause is not paused after it
    intro hlaw hnone str hmem htype hignores
    have hacd : PAL_STREAM_ACD ∈ stTypes := by decide
    refine hlaw.paused _ hacd ?_ str (mem_foldl_handleStreamPauseResume hignores stTypes hmem) htype
    rw [hlaw.counts _ hacd, hcard]
    omega
  · intro htakes
    have hnodup : stTypes.Nodup := by decide
    rw [pauseLaw_iff, hcard]
    refine foldl_handleStreamPauseResume
      (P := fun type g => Disabled disabling.card type g ∧ (disabling = ∅ → TakesPause type g))
      (Q := Disabled (disabling.card + 1)) ?_ ?_ ?_ hnodup ?_
    · rintro type htype g ⟨hdis, htakes⟩
      refine hdis.active htype (by omega) fun hzero => htakes ?_
      exact Finset.card_eq_zero.mp (by omega)
    · rintro type type' g hne ⟨hdis, htakes⟩
      exact ⟨hdis.handleStreamPauseResume hne true, fun hnone =>
        (htakes hnone).handleStreamPauseResume hne true⟩
    · exact fun _ _ _ hne hdis => hdis.handleStreamPauseResume hne true
    · refine fun type htype => ⟨disabled_of_pauseLaw h _ type htype, fun hnone => ?_⟩
      by_cases hacd : type = PAL_STREAM_ACD
      · rw [hacd]
        exact htakes hnone
      · exact takesPause_of_ne hacd _

/-- A stream that gets inactive as it got active enables detection again. Where nothing disables it,
any stream may. -/
theorem pauseLaw_inactive {g : Globals} {disabling : Finset Stream} (h : PauseLaw g disabling)
    (s : Stream) :
    PauseLaw (handleConcurrencyForSoundTriggerStreams p s false g) (disabling.erase s) ↔
      (((getConcurrencyInfo p s).conc_en = false ↔ s ∈ disabling) ∨ disabling = ∅) := by
  have hnodup : stTypes.Nodup := by decide
  have hvui : PAL_STREAM_VOICE_UI ∈ stTypes := by decide
  have hother : ∀ n type type' g, type ≠ type' → Disabled n type g →
      Disabled n type (STUtils.handleStreamPauseResume type' false g) :=
    fun _ _ _ _ hne hdis => hdis.handleStreamPauseResume hne false
  by_cases hen : (getConcurrencyInfo p s).conc_en = false
  · rw [HandleConcurrency_of_disallowed hen, iff_true_left hen]
    generalize txConcurrencyCount _ _ _ = count
    by_cases hnone : disabling = ∅
    · refine iff_of_true ?_ (Or.inr hnone)
      subst hnone
      rw [Finset.erase_empty, pauseLaw_iff]
      exact foldl_handleStreamPauseResume (fun _ _ _ hdis => hdis.inactive_zero) (hother _)
        (hother _) hnodup (disabled_of_pauseLaw h _)
    have hpos : 0 < disabling.card := Finset.card_pos.mpr (Finset.nonempty_iff_ne_empty.mpr hnone)
    have hlowered : ∀ type ∈ stTypes, Disabled (disabling.card - 1) type
        (stTypes.foldl (fun g type => STUtils.handleStreamPauseResume type false g)
          { g with TxconcurrencyEnableCount := count }) :=
      foldl_handleStreamPauseResume
        (fun type htype g hdis => hdis.inactive htype (by omega)) (hother _) (hother _) hnodup
        (disabled_of_pauseLaw h _)
    rw [or_iff_left hnone]
    constructor
    · intro hlaw
      by_contra hnot
      have hcount := (hlowered _ hvui).1
      rw [hlaw.counts _ hvui, Finset.erase_eq_of_notMem hnot] at hcount
      omega
    · intro hmem
      have hcard : ((disabling.erase s).card : ℤ) = disabling.card - 1 := by
        rw [Finset.card_erase_of_mem hmem]
        omega
      rw [pauseLaw_iff, hcard]
      exact hlowered
  · rw [(HandleConcurrency_of_allowed hen false g).pauseLaw, iff_false_left hen]
    by_cases hmem : s ∈ disabling
    · refine iff_of_false (fun hlaw => ?_) ?_
      · have hcount := (hlaw.counts _ hvui).symm.trans (h.counts _ hvui)
        rw [Finset.card_erase_of_mem hmem] at hcount
        have hpos : 0 < disabling.card := Finset.card_pos.mpr ⟨s, hmem⟩
        omega
      · rintro (hnot | rfl)
        · exact hnot hmem
        · exact absurd hmem (Finset.notMem_empty s)
    · rw [Finset.erase_eq_of_notMem hmem]
      exact iff_of_true h (Or.inl hmem)

/-! ### Actions on the other detection streams -/

/-- What the streams of every type get but `st`. -/
theorem mActiveStreams_startOtherDetectionStreams (st : StreamId) (g : Globals) :
    (startOtherDetectionStreams st g).mActiveStreams = g.mActiveStreams.map fun str =>
      if str.type ∈ stTypes ∧ str.id ≠ st then str.act ST_RESUME else str := by
  unfold startOtherDetectionStreams handleDetectionStreamAction
  simp only [List.map_map]
  refine List.map_congr_left fun str _ => ?_
  have hinternal : ∀ str : DetectionStream, str.act ST_INTERNAL_RESUME = str.act ST_RESUME :=
    fun _ => rfl
  by_cases hid : str.id = st
  · simp [hid]
  · cases htype : str.type <;> simp [hid, htype, stTypes, hinternal]

theorem mActiveStreams_stopOtherDetectionStreams (st : StreamId) (g : Globals) :
    (stopOtherDetectionStreams st g).mActiveStreams = g.mActiveStreams.map fun str =>
      if str.type ∈ stTypes ∧ str.id ≠ st then str.act ST_PAUSE else str := by
  unfold stopOtherDetectionStreams handleDetectionStreamAction
  simp only [List.map_map]
  refine List.map_congr_left fun str _ => ?_
  have hinternal : ∀ str : DetectionStream, str.act ST_INTERNAL_PAUSE = str.act ST_PAUSE :=
    fun _ => rfl
  by_cases hid : str.id = st
  · simp [hid]
  · cases htype : str.type <;> simp [hid, htype, stTypes, hinternal]

/-- A change of streams that pauses none less. -/
theorem PauseLaw.of_streams {g g' : Globals} {disabling : Finset Stream} (h : PauseLaw g disabling)
    (hcounts : g'.disableCount = g.disableCount)
    (hstreams : ∀ str ∈ g'.mActiveStreams, 0 < g'.disableCount str.type → str.type ∈ stTypes →
      str.paused_ = true ∨ ∃ str' ∈ g.mActiveStreams, str'.type = str.type ∧
        (str'.paused_ = true → str.paused_ = true)) :
    PauseLaw g' disabling := by
  refine ⟨?_, ?_, ?_⟩
  · rw [hcounts]
    exact h.counts
  · rw [hcounts]
    exact h.nonneg
  · rintro _ htype hn str hstr rfl
    rcases hstreams str hstr hn htype with hpaused | ⟨str', hmem, hsame, hpaused⟩
    · exact hpaused
    · refine hpaused (h.paused str'.type (hsame ▸ htype) ?_ str' hmem rfl)
      rw [hsame, ← hcounts]
      exact hn

theorem pauseLaw_setStream {g : Globals} {disabling : Finset Stream} (h : PauseLaw g disabling)
    (id : StreamId) {f : DetectionStream → DetectionStream}
    (hf : ∀ str, (f str).type = str.type ∧ (f str).paused_ = str.paused_) :
    PauseLaw (g.setStream id f) disabling := by
  refine h.of_streams rfl fun str hstr _ _ => ?_
  obtain ⟨str', hmem, rfl⟩ := List.mem_map.mp hstr
  refine Or.inr ⟨str', hmem, ?_⟩
  split_ifs
  · exact ⟨(hf str').1.symm, fun hpaused => (hf str').2.trans hpaused⟩
  · exact ⟨rfl, fun hpaused => hpaused⟩

theorem pauseLaw_stopOther {g : Globals} {disabling : Finset Stream} (h : PauseLaw g disabling)
    (st : StreamId) : PauseLaw (stopOtherDetectionStreams st g) disabling := by
  refine h.of_streams rfl fun str hstr _ _ => ?_
  rw [mActiveStreams_stopOtherDetectionStreams] at hstr
  obtain ⟨str', hmem, rfl⟩ := List.mem_map.mp hstr
  refine Or.inr ⟨str', hmem, ?_⟩
  split_ifs
  · refine ⟨(str'.act_type ST_PAUSE).symm, fun hpaused => ?_⟩
    unfold DetectionStream.act
    dsimp only
    split_ifs
    · exact hpaused
    · rfl
  · exact ⟨rfl, fun hpaused => hpaused⟩

/-- None of the other streams that are resumed is disabled. -/
def ResumesFree (st : StreamId) (g : Globals) : Prop :=
  ∀ str ∈ g.mActiveStreams, str.type ∈ stTypes → str.id ≠ st → str.failsResume = false →
    g.disableCount str.type ≤ 0

theorem pauseLaw_startOther {g : Globals} {disabling : Finset Stream} (h : PauseLaw g disabling)
    (st : StreamId) :
    PauseLaw (startOtherDetectionStreams st g) disabling ↔ ResumesFree st g := by
  constructor
  · intro hlaw str hmem htype hid hresumes
    by_contra hn
    have hact : str.act ST_RESUME = { str with paused_ := false } := by
      unfold DetectionStream.act
      dsimp only
      rw [hresumes, if_neg Bool.false_ne_true]
    have hresumed : { str with paused_ := false } ∈
        (startOtherDetectionStreams st g).mActiveStreams := by
      rw [mActiveStreams_startOtherDetectionStreams]
      exact List.mem_map.mpr ⟨str, hmem, by rw [if_pos ⟨htype, hid⟩, hact]⟩
    exact absurd (hlaw.paused str.type htype (not_le.mp hn) _ hresumed rfl) Bool.false_ne_true
  · intro hok
    refine h.of_streams rfl fun str hstr hn htype => ?_
    rw [mActiveStreams_startOtherDetectionStreams] at hstr
    obtain ⟨str', hmem, rfl⟩ := List.mem_map.mp hstr
    refine Or.inr ⟨str', hmem, ?_⟩
    by_cases hact : str'.type ∈ stTypes ∧ str'.id ≠ st
    swap
    · rw [if_neg hact]
      exact ⟨rfl, fun hpaused => hpaused⟩
    rw [if_pos hact] at hn ⊢
    rw [DetectionStream.act_type] at hn ⊢
    refine ⟨rfl, fun hpaused => ?_⟩
    cases hfails : str'.failsResume with
    | true =>
      unfold DetectionStream.act
      dsimp only
      rw [hfails, if_pos rfl]
      exact hpaused
    | false => exact absurd hn (not_lt.mpr (hok str' hmem hact.1 hact.2 hfails))

/-- A new stream finds its type paused, but an ASR stream that is not so by chance. -/
theorem pauseLaw_register {g : Globals} {disabling : Finset Stream} (h : PauseLaw g disabling)
    {type : pal_stream_type_t} (htype : type ∈ stTypes) (id : StreamId) (memory : Bool) :
    PauseLaw (registerStream p id type memory g) disabling ↔
      (type = PAL_STREAM_ASR → memory = false → g.disableCount PAL_STREAM_ASR ≤ 0) := by
  have hstreams := mActiveStreams_registerStream p id type memory g
  have hcounts := disableCount_registerStream p id type memory g
  constructor
  · rintro hlaw rfl rfl
    by_contra hn
    have hmem := List.mem_append_right g.mActiveStreams (List.mem_singleton_self
      ({ id, type := PAL_STREAM_ASR, isStreamInBuffering := false, paused_ := false } :
        DetectionStream))
    refine absurd (hlaw.paused PAL_STREAM_ASR htype ?_ _ (hstreams ▸ hmem) rfl) Bool.false_ne_true
    rw [hcounts]
    omega
  · intro hok
    refine h.of_streams hcounts fun str hstr hn _ => ?_
    rw [hstreams, List.mem_append, List.mem_singleton] at hstr
    rw [hcounts] at hn
    rcases hstr with hold | rfl
    · exact Or.inr ⟨str, hold, rfl, fun h => h⟩
    · refine Or.inl ?_
      dsimp only at hn ⊢
      split_ifs with hasr
      · cases memory with
        | true => rfl
        | false => exact absurd (hok hasr rfl) (by rw [← hasr]; omega)
      · exact decide_eq_true (ne_of_gt hn)

/-! ### Runs -/

end Handlers

/-- What happens to the detection streams, and to the flag for CRS calls. -/
inductive PauseEvent where
  | detection (ev : STEvent)
  | setCRSCallEnabled (isEnabled : Bool)

/-- The detection streams with the flag. `disabling` has the active streams under which detection was
not allowed when they got active. -/
structure PauseSystem where
  system : System
  isCRSCallEnabled : Bool
  disabling : Finset Stream

def PauseSystem.init : PauseSystem where
  system := System.init
  isCRSCallEnabled := false
  disabling := ∅

section Runs

variable (p : Platform)

/-- During a CRS call voice calls are allowed. -/
def PauseSystem.platform (s : PauseSystem) : Platform :=
  { p with isVoiceCallConcurrencySupported :=
      s.isCRSCallEnabled || p.isVoiceCallConcurrencySupported }

def disablingAfter (disabling : Finset Stream) : STEvent → Finset Stream
  | .concurrency s true => if (getConcurrencyInfo p s).conc_en then disabling else insert s disabling
  | .concurrency s false => disabling.erase s
  | _ => disabling

def pauseStep (s : PauseSystem) : PauseEvent → Option PauseSystem
  | .detection ev =>
    (step (s.platform p) s.system ev).map fun system =>
      { s with system, disabling := disablingAfter (s.platform p) s.disabling ev }
  | .setCRSCallEnabled isEnabled => some { s with isCRSCallEnabled := isEnabled }

/-- **Where the law is kept.** The first stream under which detection is not allowed finds no ACD
stream in SSR that is not paused; a stream gets inactive as it got active, or nothing is disabled; no
start or stop of a detection stream resumes another that is disabled, and no ASR stream that is not
paused by chance is opened while its type is disabled. -/
def keepsPaused (s : PauseSystem) : PauseEvent → Prop
  | .detection (.concurrency str true) =>
    (getConcurrencyInfo (s.platform p) str).conc_en = false → str ∉ s.system.notified →
      s.disabling = ∅ → TakesPause PAL_STREAM_ACD s.system.globals
  | .detection (.concurrency str false) =>
    str ∈ s.system.notified →
      ((getConcurrencyInfo (s.platform p) str).conc_en = false ↔ str ∈ s.disabling) ∨
        s.disabling = ∅
  | .detection (.startOtherDetectionStreams st) => ResumesFree st s.system.globals
  | .detection (.register id type memory) =>
    (type ∈ stTypes ∧ ∀ str ∈ s.system.globals.mActiveStreams, str.id ≠ id) →
      type = PAL_STREAM_ASR → memory = false →
        s.system.globals.disableCount PAL_STREAM_ASR ≤ 0
  | _ => True

variable {p}

/-- The streams that disable detection are active. -/
theorem disabling_subset {s s' : PauseSystem} {ev : PauseEvent}
    (h : s.disabling ⊆ s.system.notified) (hstep : pauseStep p s ev = some s') :
    s'.disabling ⊆ s'.system.notified := by
  cases ev with
  | setCRSCallEnabled =>
    cases hstep
    exact h
  | detection ev =>
    obtain ⟨system, hsystem, rfl⟩ := Option.map_eq_some_iff.mp hstep
    dsimp only
    cases ev with
    | concurrency str active =>
      cases active with
      | true =>
        simp only [step] at hsystem
        split_ifs at hsystem
        cases hsystem
        simp only [disablingAfter]
        split_ifs
        · exact h.trans (Finset.subset_insert str _)
        · exact Finset.insert_subset_insert str h
      | false =>
        simp only [step] at hsystem
        split_ifs at hsystem
        cases hsystem
        exact Finset.erase_subset_erase str h
    | register =>
      simp only [step] at hsystem
      split_ifs at hsystem
      cases hsystem
      exact h
    | deregister =>
      obtain ⟨str, -, rfl⟩ := Option.map_eq_some_iff.mp hsystem
      exact h
    | chargingState | deferredSwitch | buffering | ssr | device | stopOtherDetectionStreams
    | startOtherDetectionStreams =>
      cases hsystem
      exact h

/-- **One event.** From a state in which the law holds it holds after the event exactly when the
event meets `keepsPaused`. -/
theorem step_pauseLaw {s : PauseSystem} (hsubset : s.disabling ⊆ s.system.notified)
    (h : PauseLaw s.system.globals s.disabling) (ev : PauseEvent) :
    (∀ s', pauseStep p s ev = some s' → PauseLaw s'.system.globals s'.disabling) ↔
      keepsPaused p s ev := by
  cases ev with
  | setCRSCallEnabled =>
    simp only [pauseStep, Option.some.injEq, forall_eq', keepsPaused, iff_true]
    exact h
  | detection ev =>
    have hsystems : (∀ s', pauseStep p s (.detection ev) = some s' →
        PauseLaw s'.system.globals s'.disabling) ↔
      ∀ system, step (s.platform p) s.system ev = some system →
        PauseLaw system.globals (disablingAfter (s.platform p) s.disabling ev) := by
      constructor
      · intro hlaw system hsystem
        exact hlaw _ (Option.map_eq_some_iff.mpr ⟨system, hsystem, rfl⟩)
      · intro hlaw s' hstep
        obtain ⟨system, hsystem, rfl⟩ := Option.map_eq_some_iff.mp hstep
        exact hlaw system hsystem
    rw [hsystems]
    cases ev with
    | concurrency str active =>
      cases active with
      | true =>
        unfold keepsPaused disablingAfter
        by_cases hen : (getConcurrencyInfo (s.platform p) str).conc_en = false
        · by_cases hmem : str ∈ s.system.notified
          · rw [step, if_pos ⟨hmem, hen⟩]
            exact iff_of_true (fun _ hsystem => nomatch hsystem) fun _ hnot => absurd hmem hnot
          · rw [step, if_neg fun hskip => hmem hskip.1]
            simp only [Option.some.injEq, forall_eq', hen, Bool.false_eq_true, if_false,
              forall_const, hmem, not_false_eq_true]
            exact pauseLaw_active h hen fun hdis => hmem (hsubset hdis)
        · have hallowed : (getConcurrencyInfo (s.platform p) str).conc_en = true :=
            Bool.not_eq_false _ ▸ hen
          rw [step, if_neg fun hskip => hen hskip.2]
          simp only [Option.some.injEq, forall_eq', hallowed, if_true, Bool.true_eq_false,
            false_imp_iff, iff_true]
          exact (HandleConcurrency_of_allowed hen true _).pauseLaw.mpr h
      | false =>
        unfold keepsPaused disablingAfter
        by_cases hmem : str ∈ s.system.notified
        · rw [step, if_pos hmem]
          simp only [Option.some.injEq, forall_eq', hmem, forall_const]
          exact pauseLaw_inactive h str
        · rw [step, if_neg hmem]
          exact iff_of_true (fun _ hsystem => nomatch hsystem) fun hin => absurd hin hmem
    | chargingState charging_state =>
      simp only [step, Option.some.injEq, forall_eq', keepsPaused, iff_true]
      exact (samePause_setChargingState (s.platform p) charging_state _).pauseLaw.mpr h
    | deferredSwitch online =>
      simp only [step, Option.some.injEq, forall_eq', keepsPaused, iff_true]
      exact (samePause_stHandleDeferredSwitch online _).pauseLaw.mpr h
    | register id type memory =>
      by_cases hnew : type ∈ stTypes ∧ ∀ str ∈ s.system.globals.mActiveStreams, str.id ≠ id
      · rw [step, if_pos hnew]
        simp only [Option.some.injEq, forall_eq', keepsPaused]
        rw [imp_iff_right hnew]
        exact pauseLaw_register h hnew.1 id memory
      · rw [step, if_neg hnew]
        exact iff_of_true (fun _ hsystem => nomatch hsystem) fun h => absurd h hnew
    | deregister id =>
      refine iff_of_true (fun system hsystem => ?_) trivial
      obtain ⟨str, -, rfl⟩ := Option.map_eq_some_iff.mp hsystem
      refine h.of_streams (disableCount_deregisterStream _ str _) fun str' hstr' _ _ => ?_
      rw [mActiveStreams_deregisterStream] at hstr'
      exact Or.inr ⟨str', List.mem_of_mem_erase hstr', rfl, fun h => h⟩
    | buffering id inBuffering =>
      simp only [step, Option.some.injEq, forall_eq', keepsPaused, iff_true]
      refine pauseLaw_setStream h id ?_
      exact fun _ => ⟨rfl, rfl⟩
    | ssr id inSSR =>
      simp only [step, Option.some.injEq, forall_eq', keepsPaused, iff_true]
      refine pauseLaw_setStream h id ?_
      exact fun _ => ⟨rfl, rfl⟩
    | device id connects =>
      simp only [step, Option.some.injEq, forall_eq', keepsPaused, iff_true]
      refine pauseLaw_setStream h id ?_
      exact fun _ => ⟨rfl, rfl⟩
    | stopOtherDetectionStreams st =>
      simp only [step, Option.some.injEq, forall_eq', keepsPaused, iff_true]
      exact pauseLaw_stopOther h st
    | startOtherDetectionStreams st =>
      simp only [step, Option.some.injEq, forall_eq']
      exact pauseLaw_startOther h st

theorem init_pauseLaw : PauseLaw PauseSystem.init.system.globals PauseSystem.init.disabling := by
  rw [pauseLaw_iff]
  exact fun type _ => ⟨rfl, fun hn => absurd hn (by decide)⟩

end Runs

/-- A platform on which detection is not allowed during a voice call. -/
def Platform.noVoiceCall : Platform := { Platform.full with isVoiceCallConcurrencySupported := false }

def voiceCall (id : StreamId) : Stream where
  id := id
  getStreamAttributes := some ⟨PAL_STREAM_VOICE_CALL, PAL_AUDIO_INPUT_OUTPUT⟩
  configSupportLPI := true

end AudioReachPal.STUtils
