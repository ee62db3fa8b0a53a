import AudioReachPal.STUtils.Defs

/-!
# LPI or NLPI

The mode that the handlers intend, `use_lpi_` or the target of a deferred switch, is to be NLPI
exactly while a stream that needs it is active, or the charged battery forces it for a voice UI
stream. `switchOrDefer_law` says when a handler that wants the right mode also brings it about;
`step_law` is the same for one event.
-/

namespace AudioReachPal.STUtils

open AudioReachPal.Lib

open pal_stream_type_t pal_stream_direction_t defer_switch_state_t st_action

section Mode

variable (p : Platform)

/-- There is a voice UI stream, and the charged battery forces NLPI for it. -/
def forced (g : Globals) : Prop :=
  checkForForcedTransitToNonLPI p g = true ∧ g.getActiveStreamByTypeL PAL_STREAM_VOICE_UI ≠ []

/-- Detection has to be in NLPI. -/
def needsNLPI (g : Globals) : Prop := g.mNLPIStreams ≠ ∅ ∨ forced p g

instance (g : Globals) : Decidable (forced p g) := by
  unfold forced
  infer_instance

instance (g : Globals) : Decidable (needsNLPI p g) := by
  unfold needsNLPI
  infer_instance

/-- **The law.** The intended mode is NLPI exactly when it has to be; with no switch deferred, as
after a cancelled one, the mode in use is the intended one. -/
structure ModeLaw (g : Globals) : Prop where
  intended : g.use_lpi_temp = false ↔ needsNLPI p g
  undeferred : g.deferredSwitchState = NO_DEFER → (g.use_lpi_ = false ↔ needsNLPI p g)

theorem modeLaw_iff (g : Globals) : ModeLaw p g ↔ (g.use_lpi_temp = false ↔ needsNLPI p g) := by
  refine ⟨ModeLaw.intended, fun h => ⟨h, fun hnone => ?_⟩⟩
  rw [← h]
  simp [Globals.use_lpi_temp, hnone]

instance (g : Globals) : Decidable (ModeLaw p g) := decidable_of_iff _ (modeLaw_iff p g).symm

/-! ### The intended mode -/

/-- The handlers that leave the mode alone: nothing that the law reads is changed. -/
structure SameMode (g g' : Globals) : Prop where
  mode : g'.use_lpi_temp = g.use_lpi_temp
  streams : g'.mNLPIStreams = g.mNLPIStreams
  charging : g'.charging_state_ = g.charging_state_
  voiceUI : g'.getActiveStreamByTypeL PAL_STREAM_VOICE_UI = [] ↔
    g.getActiveStreamByTypeL PAL_STREAM_VOICE_UI = []

theorem SameMode.trans {g g' g'' : Globals} (h : SameMode g g') (h' : SameMode g' g'') :
    SameMode g g'' :=
  ⟨h'.1.trans h.1, h'.2.trans h.2, h'.3.trans h.3, h'.4.trans h.4⟩

theorem SameMode.needsNLPI_iff {g g' : Globals} (h : SameMode g g') :
    needsNLPI p g' ↔ needsNLPI p g := by
  simp only [needsNLPI, forced, checkForForcedTransitToNonLPI, h.streams, h.charging, ne_eq,
    h.voiceUI]

theorem SameMode.modeLaw_iff {g g' : Globals} (h : SameMode g g') :
    ModeLaw p g' ↔ ModeLaw p g := by
  rw [STUtils.modeLaw_iff, STUtils.modeLaw_iff, h.mode, h.needsNLPI_iff]

/-- A switch that is wanted is made, or deferred; a deferred one that is cancelled leaves the mode
in use. -/
theorem use_lpi_temp_switchOrDefer {use_lpi : Bool} {g : Globals}
    (hmode : g.use_lpi_temp = !use_lpi) :
    (switchOrDefer p use_lpi g).use_lpi_temp =
      if g.deferredSwitchState = NO_DEFER then use_lpi else g.use_lpi_ := by
  unfold switchOrDefer checkAndUpdateDeferSwitchState Globals.use_lpi_temp at *
  cases hdef : g.deferredSwitchState <;> cases use_lpi <;> simp [hdef] at hmode ⊢ <;>
    split_ifs <;> simp [*]

theorem switchOrDefer_streams (use_lpi : Bool) (g : Globals) :
    (switchOrDefer p use_lpi g).mNLPIStreams = g.mNLPIStreams ∧
      (switchOrDefer p use_lpi g).charging_state_ = g.charging_state_ ∧
      (switchOrDefer p use_lpi g).mActiveStreams = g.mActiveStreams := by
  unfold switchOrDefer checkAndUpdateDeferSwitchState
  cases use_lpi <;> simp <;> split_ifs <;> simp

/-- A handler that wants the mode the law asks for keeps the law, unless it cancels a switch and the
mode in use is the other one. -/
theorem switchOrDefer_law {use_lpi : Bool} {g : Globals} (hmode : g.use_lpi_temp = !use_lpi)
    (hneeds : needsNLPI p g ↔ use_lpi = false) :
    ModeLaw p (switchOrDefer p use_lpi g) ↔
      (g.deferredSwitchState = NO_DEFER ∨ g.use_lpi_ = use_lpi) := by
  obtain ⟨hstreams, hcharging, hactive⟩ := switchOrDefer_streams p use_lpi g
  have hneeds' : needsNLPI p (switchOrDefer p use_lpi g) ↔ use_lpi = false := by
    rw [← hneeds]
    simp only [needsNLPI, forced, checkForForcedTransitToNonLPI, Globals.getActiveStreamByTypeL,
      hstreams, hcharging, hactive]
  rw [modeLaw_iff, use_lpi_temp_switchOrDefer p hmode, hneeds']
  by_cases hdef : g.deferredSwitchState = NO_DEFER
  · simp [hdef]
  · cases huse : g.use_lpi_ <;> cases use_lpi <;> simp [hdef]

/-! ### What leaves the mode alone -/

theorem sameMode_action (type : pal_stream_type_t) (action : st_action) (data : Option StreamId)
    (g : Globals) : SameMode g (handleDetectionStreamAction type action data g) := by
  refine ⟨rfl, rfl, rfl, ?_⟩
  have htype : ∀ str : DetectionStream,
      (if str.type = type ∧ some str.id ≠ data then str.act action else str).type = str.type := by
    intro str
    split_ifs
    · exact str.act_type action
    · rfl
  simp [Globals.getActiveStreamByTypeL, handleDetectionStreamAction, List.filter_eq_nil_iff, htype]

theorem sameMode_setStream (id : StreamId) {f : DetectionStream → DetectionStream}
    (hf : ∀ str, (f str).type = str.type) (g : Globals) : SameMode g (g.setStream id f) := by
  refine ⟨rfl, rfl, rfl, ?_⟩
  have htype : ∀ str : DetectionStream, (if str.id = id then f str else str).type = str.type := by
    intro str
    split_ifs
    · exact hf str
    · rfl
  simp [Globals.setStream, Globals.getActiveStreamByTypeL, List.filter_eq_nil_iff, htype]

theorem sameMode_handleStreamPauseResume (type : pal_stream_type_t) (active : Bool) (g : Globals) :
    SameMode g (handleStreamPauseResume type active g) := by
  have hcount : ∀ count, SameMode g (g.setDisableCount type count) :=
    fun _ => ⟨rfl, rfl, rfl, Iff.rfl⟩
  have hact : ∀ action count, SameMode g
      (handleDetectionStreamAction type action none (g.setDisableCount type count)) :=
    fun action count => (hcount count).trans (sameMode_action type action none _)
  unfold handleStreamPauseResume
  dsimp only
  split_ifs <;> first | exact ⟨rfl, rfl, rfl, Iff.rfl⟩ | exact hact _ _

theorem sameMode_foldl (active : Bool) (types : List pal_stream_type_t) (g : Globals) :
    SameMode g (types.foldl (fun g type => handleStreamPauseResume type active g) g) := by
  induction types generalizing g with
  | nil => exact ⟨rfl, rfl, rfl, Iff.rfl⟩
  | cons type types ih => exact (sameMode_handleStreamPauseResume type active g).trans (ih _)

theorem sameMode_stHandleDeferredSwitch (online : Bool) (g : Globals) :
    SameMode g (stHandleDeferredSwitch online g) := by
  unfold stHandleDeferredSwitch
  split_ifs
  · exact ⟨rfl, rfl, rfl, Iff.rfl⟩
  · cases hdef : g.deferredSwitchState with
    | NO_DEFER => exact ⟨rfl, rfl, rfl, Iff.rfl⟩
    | DEFER_LPI_NLPI_SWITCH | DEFER_NLPI_LPI_SWITCH =>
      exact ⟨by simp [Globals.use_lpi_temp, hdef], rfl, rfl, Iff.rfl⟩

/-! ### What moves the mode -/

/-- A switch to `use_lpi` can be made: it cancels no deferred one, or the mode in use is that. -/
def undeferred (g : Globals) (use_lpi : Bool) : Prop :=
  g.deferredSwitchState = NO_DEFER ∨ g.use_lpi_ = use_lpi

instance (g : Globals) (use_lpi : Bool) : Decidable (undeferred g use_lpi) := by
  unfold undeferred
  infer_instance

variable {p}

theorem handleNLPIStream_active (hp : p.isNLPISwitchSupported = true) (s : Stream) {g : Globals} :
    ModeLaw p (handleNLPIStream p s true g) ↔ (g.use_lpi_temp = true → undeferred g false) := by
  have hneeds : needsNLPI p { g with mNLPIStreams := insert s g.mNLPIStreams } :=
    Or.inl (Finset.insert_ne_empty s _)
  unfold handleNLPIStream
  cases hmode : g.use_lpi_temp with
  | false => simp [hp, hmode, modeLaw_iff, hneeds]
  | true =>
    simp only [hp, Bool.not_true, Bool.false_eq_true, if_false, if_true, Globals.use_lpi_temp_mk,
      hmode, forall_const]
    rw [switchOrDefer_law p (by simp [hmode]) (by simp [hneeds])]
    rfl

theorem handleNLPIStream_inactive (hp : p.isNLPISwitchSupported = true) {s : Stream} {g : Globals}
    (hs : s ∈ g.mNLPIStreams) (hg : ModeLaw p g) :
    ModeLaw p (handleNLPIStream p s false g) ↔
      (g.mNLPIStreams.erase s = ∅ → ¬forced p g → undeferred g true) := by
  have hmode : g.use_lpi_temp = false := hg.intended.mpr (Or.inl (Finset.ne_empty_of_mem hs))
  have hneeds : needsNLPI p { g with mNLPIStreams := g.mNLPIStreams.erase s } ↔
      (g.mNLPIStreams.erase s = ∅ → forced p g) := by
    rw [imp_iff_not_or]
    rfl
  unfold handleNLPIStream
  simp only [hp, Bool.not_true, Bool.false_eq_true, if_false]
  split_ifs with hcase
  · have hempty : g.mNLPIStreams.erase s = ∅ := hcase.1
    have hfree : ¬forced p g := fun h => hcase.2 ⟨h.2, h.1⟩
    rw [switchOrDefer_law p (by simp [hmode]) (by rw [hneeds]; simp [hempty, hfree])]
    simp [undeferred, hempty, hfree]
  · have hstays : g.mNLPIStreams.erase s = ∅ → forced p g := fun hempty =>
      by_contra fun hfree => hcase ⟨hempty, fun h => hfree ⟨h.2, h.1⟩⟩
    rw [modeLaw_iff, hneeds]
    simp only [Globals.use_lpi_temp_mk, hmode, true_iff]
    exact ⟨fun _ hempty hfree => absurd (hstays hempty) hfree, fun _ => hstays⟩

/-- The condition for a change of the charging state. -/
def chargingKeeps (p : Platform) (charging_state : Bool) (g : Globals) : Prop :=
  p.isTransitToNonLPIOnChargingSupported = true → g.charging_state_ ≠ charging_state →
    g.getActiveStreamByTypeL PAL_STREAM_VOICE_UI ≠ [] → g.mNLPIStreams = ∅ →
      undeferred g (!charging_state)

theorem setChargingState_law {g : Globals} (hg : ModeLaw p g) (charging_state : Bool) :
    ModeLaw p (setChargingState p charging_state g) ↔ chargingKeeps p charging_state g := by
  unfold setChargingState chargingKeeps
  by_cases hsupported : p.isTransitToNonLPIOnChargingSupported = true
  swap
  · simp [hsupported, hg]
  by_cases hsame : g.charging_state_ = charging_state
  · simp [hsupported, hsame, hg]
  have hwas : g.charging_state_ = !charging_state := by
    cases hcs : g.charging_state_ <;> cases charging_state <;> simp_all
  have hlaw := hg.intended
  unfold needsNLPI forced checkForForcedTransitToNonLPI at hlaw
  rw [hsupported, hwas] at hlaw
  have hneeds : needsNLPI p { g with charging_state_ := charging_state } ↔
      g.mNLPIStreams ≠ ∅ ∨ (charging_state = true ∧
        g.getActiveStreamByTypeL PAL_STREAM_VOICE_UI ≠ []) := by
    unfold needsNLPI forced checkForForcedTransitToNonLPI
    rw [hsupported]
    rfl
  by_cases hnone : g.getActiveStreamByTypeL PAL_STREAM_VOICE_UI = []
  · -- without a voice UI stream charging means nothing
    simp only [hsupported, hsame, onChargingStateChange, Globals.getActiveStreamByTypeL_mk, hnone,
      Bool.not_true, Bool.false_or, beq_iff_eq, if_false, if_true, modeLaw_iff, hneeds]
    simpa [hnone] using hlaw
  simp only [hsupported, hsame, onChargingStateChange, Globals.getActiveStreamByTypeL_mk, hnone,
    Globals.use_lpi_temp_mk, Bool.not_true, Bool.false_or, beq_iff_eq, if_false]
  by_cases hempty : g.mNLPIStreams = ∅
  · have hmode : g.use_lpi_temp = charging_state := by
      cases charging_state <;> simpa [hempty, hnone] using hlaw
    have hlaw' : ModeLaw p (switchOrDefer p (!charging_state)
        { g with charging_state_ := charging_state }) ↔ undeferred g (!charging_state) := by
      rw [switchOrDefer_law p (by simp [hmode]) (by rw [hneeds]; simp [hempty, hnone])]
      rfl
    cases charging_state <;> simpa [hmode, hempty, hwas, hnone] using hlaw'
  · have hmode : g.use_lpi_temp = false := hlaw.mpr (Or.inl hempty)
    cases charging_state <;> simp [hmode, hempty, modeLaw_iff, hneeds]

/-- The first voice UI stream leaves LPI for NLPI, but not a deferred switch to LPI. -/
theorem onVUIStreamRegistered_law {g : Globals}
    (hvui : g.getActiveStreamByTypeL PAL_STREAM_VOICE_UI ≠ [])
    (hlaw : g.use_lpi_temp = false ↔ g.mNLPIStreams ≠ ∅) :
    ModeLaw p (onVUIStreamRegistered p g) ↔
      (checkForForcedTransitToNonLPI p g = true →
        g.deferredSwitchState ≠ DEFER_NLPI_LPI_SWITCH) := by
  unfold onVUIStreamRegistered
  by_cases hforced : checkForForcedTransitToNonLPI p g = true
  · have hneeds : needsNLPI p { g with use_lpi_ := false } := Or.inr ⟨hforced, hvui⟩
    simp only [hforced, Bool.not_true, Bool.false_eq_true, if_false, modeLaw_iff, hneeds, iff_true,
      forall_const]
    cases g.deferredSwitchState <;> simp [Globals.use_lpi_temp]
  · simpa [hforced, modeLaw_iff, needsNLPI, forced] using hlaw

/-- With the last voice UI stream gone the mode goes back to LPI if no stream needs NLPI, but not a
deferred switch to NLPI. -/
theorem onVUIStreamDeregistered_law {g : Globals}
    (hvui : g.getActiveStreamByTypeL PAL_STREAM_VOICE_UI = [])
    (hlaw : g.use_lpi_temp = false ↔
      g.mNLPIStreams ≠ ∅ ∨ checkForForcedTransitToNonLPI p g = true) :
    ModeLaw p (onVUIStreamDeregistered p g) ↔
      (checkForForcedTransitToNonLPI p g = true → g.mNLPIStreams = ∅ →
        g.deferredSwitchState ≠ DEFER_LPI_NLPI_SWITCH) := by
  unfold onVUIStreamDeregistered
  by_cases hforced : checkForForcedTransitToNonLPI p g = true
  · have hmode : g.use_lpi_temp = false := hlaw.mpr (Or.inr hforced)
    by_cases hempty : g.mNLPIStreams = ∅
    · have hneeds : ¬needsNLPI p { g with use_lpi_ := true } := by
        rintro (h | h)
        · exact h hempty
        · exact h.2 hvui
      rw [if_neg (by simp [hforced]), if_pos hempty, modeLaw_iff, iff_false_right hneeds]
      simp only [hforced, hempty, forall_const]
      unfold Globals.use_lpi_temp at hmode ⊢
      cases hdef : g.deferredSwitchState <;> simp [hdef] at hmode ⊢
    · have hneeds : needsNLPI p g := Or.inl hempty
      simp [hforced, hempty, modeLaw_iff, hneeds, hmode]
  · simpa [hforced, modeLaw_iff, needsNLPI, forced, hvui] using hlaw

/-- The condition for a new stream: the first voice UI stream under a charged battery meets no
deferred switch to LPI. -/
def registerKeeps (p : Platform) (type : pal_stream_type_t) (g : Globals) : Prop :=
  type = PAL_STREAM_VOICE_UI → g.getActiveStreamByTypeL PAL_STREAM_VOICE_UI = [] →
    checkForForcedTransitToNonLPI p g = true → g.deferredSwitchState ≠ DEFER_NLPI_LPI_SWITCH

theorem registerStream_law {g : Globals} (hg : ModeLaw p g) (id : StreamId)
    (type : pal_stream_type_t) (memory : Bool) :
    ModeLaw p (registerStream p id type memory g) ↔ registerKeeps p type g := by
  unfold registerStream registerKeeps
  dsimp only
  generalize hstr : ({ id, type, isStreamInBuffering := false, paused_ :=
    if type = PAL_STREAM_ASR then memory else decide (g.disableCount type ≠ 0) } :
      DetectionStream) = str
  have htype : str.type = type := by rw [← hstr]
  have happend : ({ g with mActiveStreams := g.mActiveStreams ++ [str] } :
      Globals).getActiveStreamByTypeL PAL_STREAM_VOICE_UI =
        g.getActiveStreamByTypeL PAL_STREAM_VOICE_UI ++
          (if type = PAL_STREAM_VOICE_UI then [str] else []) := by
    unfold Globals.getActiveStreamByTypeL
    rw [List.filter_append]
    by_cases hvui : type = PAL_STREAM_VOICE_UI <;> simp [htype, hvui]
  by_cases hfirst : type = PAL_STREAM_VOICE_UI ∧
      g.getActiveStreamByTypeL PAL_STREAM_VOICE_UI = []
  · obtain ⟨rfl, hnone⟩ := hfirst
    have hlaw := hg.intended
    simp only [needsNLPI, forced, hnone, ne_eq, not_true_eq_false, and_false, or_false] at hlaw
    rw [if_pos ⟨rfl, by rw [happend]; simp [hnone]⟩]
    refine (onVUIStreamRegistered_law (g := { g with mActiveStreams := g.mActiveStreams ++ [str] })
      (by rw [happend]; simp) hlaw).trans ?_
    simp only [hnone, forall_const]
    rfl
  · have hkeeps : ∀ h : type = PAL_STREAM_VOICE_UI,
        ¬g.getActiveStreamByTypeL PAL_STREAM_VOICE_UI = [] := fun h hnone => hfirst ⟨h, hnone⟩
    have hsame : SameMode g { g with mActiveStreams := g.mActiveStreams ++ [str] } := by
      refine ⟨rfl, rfl, rfl, ?_⟩
      rw [happend]
      by_cases hvui : type = PAL_STREAM_VOICE_UI <;> simp [hvui, hkeeps]
    rw [if_neg ?_, hsame.modeLaw_iff p]
    · exact ⟨fun _ h hnone => absurd hnone (hkeeps h), fun _ => hg⟩
    · rintro ⟨hvui, hlength⟩
      rw [happend, if_pos hvui] at hlength
      exact hkeeps hvui (by simpa using hlength)

/-- The condition for a stream that goes: the last voice UI stream under a charged battery, without
a stream that needs NLPI, meets no deferred switch to NLPI. -/
def deregisterKeeps (p : Platform) (str : DetectionStream) (g : Globals) : Prop :=
  g.getActiveStreamByTypeL PAL_STREAM_VOICE_UI = [str] →
    checkForForcedTransitToNonLPI p g = true → g.mNLPIStreams = ∅ →
      g.deferredSwitchState ≠ DEFER_LPI_NLPI_SWITCH

theorem deregisterStream_law {g : Globals} (hg : ModeLaw p g) {str : DetectionStream}
    (hstr : str ∈ g.mActiveStreams) :
    ModeLaw p (deregisterStream p str g) ↔ deregisterKeeps p str g := by
  have hrest : ({ g with mActiveStreams := g.mActiveStreams.erase str } :
      Globals).getActiveStreamByTypeL PAL_STREAM_VOICE_UI =
        (g.getActiveStreamByTypeL PAL_STREAM_VOICE_UI).erase str :=
    List.erase_filter.symm
  have hmem : str ∈ g.getActiveStreamByTypeL PAL_STREAM_VOICE_UI ↔
      str.type = PAL_STREAM_VOICE_UI := by
    simp [Globals.getActiveStreamByTypeL, hstr]
  unfold deregisterStream deregisterKeeps
  dsimp only
  by_cases hlast : g.getActiveStreamByTypeL PAL_STREAM_VOICE_UI = [str]
  · have hvui : str.type = PAL_STREAM_VOICE_UI := hmem.mp (by simp [hlast])
    have hnone : ({ g with mActiveStreams := g.mActiveStreams.erase str } :
        Globals).getActiveStreamByTypeL PAL_STREAM_VOICE_UI = [] := by simp [hrest, hlast]
    have hlaw := hg.intended
    simp only [needsNLPI, forced, hlast, ne_eq, List.cons_ne_nil, not_false_eq_true,
      and_true] at hlaw
    rw [if_pos ⟨hvui, hnone⟩]
    refine (onVUIStreamDeregistered_law (g := { g with
      mActiveStreams := g.mActiveStreams.erase str }) hnone hlaw).trans ?_
    simp only [hlast, forall_const]
    rfl
  · have hkept : ({ g with mActiveStreams := g.mActiveStreams.erase str } :
        Globals).getActiveStreamByTypeL PAL_STREAM_VOICE_UI = [] ↔
          g.getActiveStreamByTypeL PAL_STREAM_VOICE_UI = [] := by
      rw [hrest, List.erase_eq_nil_iff, or_iff_left hlast]
    have hsame : SameMode g { g with mActiveStreams := g.mActiveStreams.erase str } :=
      ⟨rfl, rfl, rfl, hkept⟩
    rw [if_neg ?_, hsame.modeLaw_iff p]
    · exact ⟨fun _ h => absurd h hlast, fun _ => hg⟩
    · rintro ⟨hvui, hnone⟩
      exact List.ne_nil_of_mem (hmem.mpr hvui) (hkept.mp hnone)

/-! ### Runs -/

/-- A concurrency of the stream moves detection between LPI and NLPI. -/
def moves (p : Platform) (s : Stream) : Bool :=
  (getConcurrencyInfo p s).conc_en &&
    ((getConcurrencyInfo p s).rx_conc || (getConcurrencyInfo p s).tx_conc)

/-- **Where the law is kept.** A switch back meets no deferred one, or the mode in use is the one it
goes back to; the voice UI streams come and go without a deferred switch against them. -/
def keepsMode (p : Platform) (sys : System) : STEvent → Prop
  | .concurrency s true =>
    moves p s = true → sys.globals.use_lpi_temp = true → undeferred sys.globals false
  | .concurrency s false =>
    moves p s = true → s ∈ sys.notified → sys.globals.mNLPIStreams.erase s = ∅ →
      ¬forced p sys.globals → undeferred sys.globals true
  | .chargingState charging_state => chargingKeeps p charging_state sys.globals
  | .register id type _ =>
    (type ∈ stTypes ∧ ∀ str ∈ sys.globals.mActiveStreams, str.id ≠ id) →
      registerKeeps p type sys.globals
  | .deregister id =>
    ∀ str, (sys.globals.mActiveStreams.find? fun str => str.id = id) = some str →
      deregisterKeeps p str sys.globals
  | _ => True

/-- What the law relies on: the streams that need NLPI are those notified as such. -/
def Tracked (p : Platform) (sys : System) : Prop :=
  ∀ s, s ∈ sys.globals.mNLPIStreams ↔ s ∈ sys.notified ∧ moves p s = true

/-- The notification of a stream that moves detection is handled as such, with the count of TX
concurrencies brought up to date. -/
theorem HandleConcurrency_moves {s : Stream} (hs : moves p s = true) (active : Bool) (g : Globals) :
    handleConcurrencyForSoundTriggerStreams p s active g =
      handleNLPIStream p s active { g with
        TxconcurrencyEnableCount :=
          txConcurrencyCount (getConcurrencyInfo p s).tx_conc active g.TxconcurrencyEnableCount } := by
  unfold moves at hs
  rw [Bool.and_eq_true] at hs
  unfold handleConcurrencyForSoundTriggerStreams
  simp only [hs.1, hs.2, Bool.not_true, Bool.false_eq_true, if_false, if_true]

theorem HandleConcurrency_sameMode {s : Stream} (hs : moves p s = false) (active : Bool)
    (g : Globals) : SameMode g (handleConcurrencyForSoundTriggerStreams p s active g) := by
  have hcount : ∀ count, SameMode g { g with TxconcurrencyEnableCount := count } :=
    fun _ => ⟨rfl, rfl, rfl, Iff.rfl⟩
  unfold handleConcurrencyForSoundTriggerStreams
  dsimp only
  cases hen : (getConcurrencyInfo p s).conc_en with
  | false =>
    rw [if_pos (by decide)]
    exact (hcount _).trans (sameMode_foldl active stTypes _)
  | true =>
    have hnone : ((getConcurrencyInfo p s).rx_conc || (getConcurrencyInfo p s).tx_conc) = false := by
      simpa [moves, hen] using hs
    rw [if_neg (by decide), if_neg (by simp [hnone])]
    exact hcount _

theorem mNLPIStreams_handleNLPIStream (hp : p.isNLPISwitchSupported = true) (s : Stream)
    (active : Bool) (g : Globals) :
    (handleNLPIStream p s active g).mNLPIStreams =
      if active then insert s g.mNLPIStreams else g.mNLPIStreams.erase s := by
  have hswitch : ∀ use_lpi g, (switchOrDefer p use_lpi g).mNLPIStreams = g.mNLPIStreams :=
    fun use_lpi g => (switchOrDefer_streams p use_lpi g).1
  unfold handleNLPIStream
  cases active <;> simp only [hp, Bool.not_true, Bool.false_eq_true, if_false, if_true] <;>
    split_ifs <;> simp only [hswitch]

/-- The streams that need NLPI stay those that are notified as such. -/
theorem tracked_concurrency (hp : p.isNLPISwitchSupported = true) {sys : System}
    (hsys : Tracked p sys) (s : Stream) (active : Bool) :
    Tracked p ⟨handleConcurrencyForSoundTriggerStreams p s active sys.globals,
      if active then insert s sys.notified else sys.notified.erase s⟩ := by
  intro t
  have ht := hsys t
  cases hmoves : moves p s with
  | true =>
    rw [HandleConcurrency_moves hmoves, mNLPIStreams_handleNLPIStream hp]
    by_cases hst : t = s
    · subst hst
      cases active <;> simp [hmoves]
    · cases active <;> simp [hst, ht]
  | false =>
    rw [(HandleConcurrency_sameMode hmoves active sys.globals).streams, ht]
    by_cases hst : t = s
    · subst hst
      simp [hmoves]
    · cases active <;> simp [hst]

theorem Tracked.of_streams {sys : System} {g : Globals} (hsys : Tracked p sys)
    (h : g.mNLPIStreams = sys.globals.mNLPIStreams) : Tracked p ⟨g, sys.notified⟩ := by
  intro s
  rw [h]
  exact hsys s

theorem mNLPIStreams_setChargingState (charging_state : Bool) (g : Globals) :
    (setChargingState p charging_state g).mNLPIStreams = g.mNLPIStreams := by
  have hswitch : ∀ use_lpi g, (switchOrDefer p use_lpi g).mNLPIStreams = g.mNLPIStreams :=
    fun use_lpi g => (switchOrDefer_streams p use_lpi g).1
  unfold setChargingState onChargingStateChange
  split_ifs <;> simp only [hswitch]

theorem mNLPIStreams_registerStream (id : StreamId) (type : pal_stream_type_t) (memory : Bool)
    (g : Globals) : (registerStream p id type memory g).mNLPIStreams = g.mNLPIStreams := by
  unfold registerStream onVUIStreamRegistered
  dsimp only
  split_ifs <;> rfl

theorem mNLPIStreams_deregisterStream (str : DetectionStream) (g : Globals) :
    (deregisterStream p str g).mNLPIStreams = g.mNLPIStreams := by
  unfold deregisterStream onVUIStreamDeregistered
  dsimp only
  split_ifs <;> rfl

theorem sameMode_stopOtherDetectionStreams (st : StreamId) (g : Globals) :
    SameMode g (STUtils.stopOtherDetectionStreams st g) :=
  (((sameMode_action _ _ _ g).trans (sameMode_action _ _ _ _)).trans
    (sameMode_action _ _ _ _)).trans (sameMode_action _ _ _ _)

theorem sameMode_startOtherDetectionStreams (st : StreamId) (g : Globals) :
    SameMode g (STUtils.startOtherDetectionStreams st g) :=
  (((sameMode_action _ _ _ g).trans (sameMode_action _ _ _ _)).trans
    (sameMode_action _ _ _ _)).trans (sameMode_action _ _ _ _)

theorem concurrency_law (hp : p.isNLPISwitchSupported = true) {sys : System}
    (hsys : Tracked p sys) (hlaw : ModeLaw p sys.globals) {s : Stream} {active : Bool}
    (hs : active = false → s ∈ sys.notified) :
    ModeLaw p (handleConcurrencyForSoundTriggerStreams p s active sys.globals) ↔
      keepsMode p sys (.concurrency s active) := by
  cases hmoves : moves p s with
  | false =>
    rw [(HandleConcurrency_sameMode hmoves active sys.globals).modeLaw_iff p]
    cases active <;> simp [keepsMode, hmoves, hlaw]
  | true =>
    have hcount : ∀ count, SameMode sys.globals
        { sys.globals with TxconcurrencyEnableCount := count } :=
      fun _ => ⟨rfl, rfl, rfl, Iff.rfl⟩
    rw [HandleConcurrency_moves hmoves]
    cases active with
    | true =>
      rw [handleNLPIStream_active hp]
      simp only [keepsMode, hmoves, forall_const, Globals.use_lpi_temp_mk]
      rfl
    | false =>
      have hmem : s ∈ sys.globals.mNLPIStreams := (hsys s).mpr ⟨hs rfl, hmoves⟩
      refine (handleNLPIStream_inactive hp ?_ ?_).trans ?_
      · exact hmem
      · exact ((hcount _).modeLaw_iff p).mpr hlaw
      · simp only [keepsMode, hmoves, hs rfl, forall_const]
        rfl

/-- Every event keeps track. -/
theorem step_tracked (hp : p.isNLPISwitchSupported = true) {sys sys' : System} {ev : STEvent}
    (hsys : Tracked p sys) (hstep : step p sys ev = some sys') : Tracked p sys' := by
  cases ev with
  | concurrency s active =>
    have htracked := tracked_concurrency hp hsys s active
    cases active with
    | true =>
      simp only [step] at hstep
      split_ifs at hstep
      cases hstep
      exact htracked
    | false =>
      simp only [step] at hstep
      split_ifs at hstep
      cases hstep
      exact htracked
  | register id type memory =>
    simp only [step] at hstep
    split_ifs at hstep
    cases hstep
    exact hsys.of_streams (mNLPIStreams_registerStream _ _ _ _)
  | deregister id =>
    obtain ⟨str, -, rfl⟩ := Option.map_eq_some_iff.mp hstep
    exact hsys.of_streams (mNLPIStreams_deregisterStream _ _)
  | chargingState charging_state =>
    cases hstep
    exact hsys.of_streams (mNLPIStreams_setChargingState _ _)
  | deferredSwitch online =>
    cases hstep
    exact hsys.of_streams (sameMode_stHandleDeferredSwitch online _).streams
  | buffering | ssr | device | stopOtherDetectionStreams | startOtherDetectionStreams =>
    cases hstep
    exact hsys.of_streams rfl

/-- **One event.** From a state in which the law holds it holds after the event exactly when the
event meets `keepsMode`. -/
theorem step_law (hp : p.isNLPISwitchSupported = true) {sys : System} (hsys : Tracked p sys)
    (hlaw : ModeLaw p sys.globals) (ev : STEvent) :
    (∀ sys', step p sys ev = some sys' → ModeLaw p sys'.globals) ↔ keepsMode p sys ev := by
  have hsame : ∀ {g}, SameMode sys.globals g → ModeLaw p g := fun h => (h.modeLaw_iff p).mpr hlaw
  cases ev with
  | concurrency s active =>
    cases active with
    | true =>
      by_cases hskip : s ∈ sys.notified ∧ (getConcurrencyInfo p s).conc_en = false
      · have hnot : moves p s = false := by simp [moves, hskip.2]
        simp [step, hskip, keepsMode, hnot]
      · rw [step, if_neg hskip]
        simp only [Option.some.injEq, forall_eq']
        exact concurrency_law hp hsys hlaw (by simp)
    | false =>
      by_cases hs : s ∈ sys.notified
      · rw [step, if_pos hs]
        simp only [Option.some.injEq, forall_eq']
        exact concurrency_law hp hsys hlaw fun _ => hs
      · simp [step, hs, keepsMode]
  | chargingState charging_state =>
    simp only [step, Option.some.injEq, forall_eq']
    exact setChargingState_law hlaw charging_state
  | register id type memory =>
    by_cases hnew : type ∈ stTypes ∧ ∀ str ∈ sys.globals.mActiveStreams, str.id ≠ id
    · rw [step, if_pos hnew]
      simp only [Option.some.injEq, forall_eq']
      rw [registerStream_law hlaw, keepsMode, imp_iff_right hnew]
    · rw [step, if_neg hnew, keepsMode]
      simp [hnew]
  | deregister id =>
    cases hfind : sys.globals.mActiveStreams.find? fun str => str.id = id with
    | none => simp [step, keepsMode, hfind]
    | some str =>
      simp only [step, hfind, Option.map_some, Option.some.injEq, forall_eq', keepsMode]
      exact deregisterStream_law hlaw (List.mem_of_find?_eq_some hfind)
  | buffering id inBuffering =>
    simp only [step, Option.some.injEq, forall_eq', keepsMode, iff_true]
    refine hsame (sameMode_setStream id ?_ _)
    exact fun _ => rfl
  | ssr id inSSR =>
    simp only [step, Option.some.injEq, forall_eq', keepsMode, iff_true]
    refine hsame (sameMode_setStream id ?_ _)
    exact fun _ => rfl
  | device id connects =>
    simp only [step, Option.some.injEq, forall_eq', keepsMode, iff_true]
    refine hsame (sameMode_setStream id ?_ _)
    exact fun _ => rfl
  | deferredSwitch online =>
    simp only [step, Option.some.injEq, forall_eq', keepsMode, iff_true]
    exact hsame (sameMode_stHandleDeferredSwitch online _)
  | stopOtherDetectionStreams st =>
    simp only [step, Option.some.injEq, forall_eq', keepsMode, iff_true]
    exact hsame (sameMode_stopOtherDetectionStreams st _)
  | startOtherDetectionStreams st =>
    simp only [step, Option.some.injEq, forall_eq', keepsMode, iff_true]
    exact hsame (sameMode_startOtherDetectionStreams st _)

theorem init_tracked : Tracked p System.init := fun s => by simp [System.init]

theorem init_law : ModeLaw p System.init.globals := by
  rw [modeLaw_iff]
  simp [System.init, Globals.use_lpi_temp, needsNLPI, forced, Globals.getActiveStreamByTypeL]

/-- **LPI or NLPI.** All along a run the intended mode is the one detection has to be in exactly
when every event meets `keepsMode`. -/
theorem modeLaw_along_iff (hp : p.isNLPISwitchSupported = true) {evs : List STEvent} :
    (∀ evs' sys, evs' <+: evs → run (step p) System.init evs' = some sys →
      ModeLaw p sys.globals) ↔ Meets (step p) (keepsMode p) System.init evs := by
  refine law_prefixes_iff_meets (fun _ _ _ => step_tracked hp) ?_ init_tracked init_law
  intro sys ev _ hsys hlaw
  exact step_law hp hsys hlaw ev

end Mode

/-- A voice UI stream, and a playback that comes and goes: the switch back to LPI waits. -/
def playbackRun : List STEvent :=
  [.register 1 PAL_STREAM_VOICE_UI false, .concurrency (playback 2) true,
    .concurrency (playback 2) false]

theorem modeLaw_playbackRun : Platform.full.isNLPISwitchSupported = true ∧
    ∀ evs' sys, evs' <+: playbackRun ++ [.deferredSwitch true] →
      run (step .full) System.init evs' = some sys → ModeLaw .full sys.globals := by
  refine ⟨rfl, (modeLaw_along_iff rfl).mpr ?_⟩
  exact meets_cons_of_some (fun _ _ _ h => absurd h (by decide)) rfl <|
    meets_cons_of_some (fun _ _ => Or.inl rfl) rfl <|
    meets_cons_of_some (fun _ _ _ _ => Or.inl rfl) rfl <| meets_cons_of_some trivial rfl trivial

/-- The stream is closed and the battery is charged while the switch waits: the next voice UI stream
does not get the NLPI that it needs. -/
theorem not_modeLaw_charged :
    ∃ sys, run (step .full) System.init (playbackRun ++
      [.deregister 1, .chargingState true, .register 3 PAL_STREAM_VOICE_UI false]) = some sys ∧
      ¬ModeLaw .full sys.globals :=
  ⟨_, rfl, by decide⟩

end AudioReachPal.STUtils
