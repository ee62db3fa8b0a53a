import AudioReachPal.ACD.ModelSession

/-!
# The models that are needed

Between the calls the count of a model is the number of the attached streams whose lists name it,
and an open session has the models with a binary and a count. A call keeps this when it follows the
streams' order and no step fails that a count, a registered model or a running engine depends on.
-/

namespace AudioReachPal.ACD

open AudioReachPal.Lib

/-! ### The streams -/

namespace EngineSystem

open ACDEngine

variable {sm_cfg_ : ACDStreamConfig} {a : Answers} {sys : EngineSystem} {s : StreamId}
  {list : List ContextId} {model_id : ModelId}

/-- The number of streams whose lists name the model. -/
def namers (sm_cfg_ : ACDStreamConfig) (streams : List StreamId) (lists : StreamId → List ContextId)
    (model_id : ModelId) : ℕ :=
  streams.countP fun t => sm_cfg_.Names (lists t) model_id

variable {streams : List StreamId} {lists : StreamId → List ContextId}

theorem namers_update_of_notMem (hs : s ∉ streams) :
    namers sm_cfg_ streams (Function.update lists s list) model_id =
      namers sm_cfg_ streams lists model_id := by
  refine List.countP_congr fun t ht => ?_
  have hts : t ≠ s := by
    rintro rfl
    exact hs ht
  simp only [Function.update_of_ne hts]

theorem namers_append (hs : s ∉ streams) :
    namers sm_cfg_ (streams ++ [s]) (Function.update lists s list) model_id =
      namers sm_cfg_ streams lists model_id + if sm_cfg_.Names list model_id then 1 else 0 := by
  rw [namers, List.countP_append, ← namers, namers_update_of_notMem hs, List.countP_singleton,
    Function.update_self]
  simp only [decide_eq_true_eq]

theorem namers_erase (hs : s ∈ streams) :
    namers sm_cfg_ streams lists model_id = namers sm_cfg_ (streams.erase s) lists model_id +
      if sm_cfg_.Names (lists s) model_id then 1 else 0 := by
  rw [namers, (List.perm_cons_erase hs).countP_eq, List.countP_cons, namers]
  simp only [decide_eq_true_eq]

theorem namers_update (hs : s ∈ streams) (hnodup : streams.Nodup) :
    namers sm_cfg_ streams (Function.update lists s list) model_id =
      namers sm_cfg_ (streams.erase s) lists model_id +
        if sm_cfg_.Names list model_id then 1 else 0 := by
  have hnotMem : s ∉ streams.erase s := fun hmem => (hnodup.mem_erase_iff.mp hmem).1 rfl
  rw [namers_erase hs, namers_update_of_notMem hnotMem, Function.update_self]

/-- What holds between the calls. -/
structure Inv (sm_cfg_ : ACDStreamConfig) (sys : EngineSystem) : Prop where
  nodup : sys.eng.eng_streams_.Nodup
  small : sys.eng.eng_streams_.length < 2 ^ 32
  whole : ∀ t ∈ sys.eng.eng_streams_, sm_cfg_.Whole (sys.lists t)
  counts : ∀ model_id, sys.eng.count model_id = sys.needs sm_cfg_ model_id
  holds : Holds sm_cfg_ sys.eng.count sys.eng.session_

namespace Inv

variable (hsys : sys.Inv sm_cfg_)

include hsys

theorem count_le (model_id : ModelId) : sys.eng.count model_id ≤ sys.eng.eng_streams_.length := by
  rw [hsys.counts]
  exact List.countP_le_length

theorem count_lt (model_id : ModelId) : sys.eng.count model_id < 2 ^ 32 :=
  (hsys.count_le model_id).trans_lt hsys.small

theorem count_erase (hs : s ∈ sys.eng.eng_streams_) (model_id : ModelId) :
    sys.eng.count model_id = namers sm_cfg_ (sys.eng.eng_streams_.erase s) sys.lists model_id +
      if sm_cfg_.Names (sys.lists s) model_id then 1 else 0 := by
  rw [hsys.counts]
  exact namers_erase hs

theorem count_pos (hs : s ∈ sys.eng.eng_streams_) (model_id : ModelId)
    (hnames : sm_cfg_.Names (sys.lists s) model_id) : 0 < sys.eng.count model_id := by
  rw [hsys.count_erase hs, if_pos hnames]
  omega

/-- A model that the list of a stream does not name has a count to spare. -/
theorem count_next (hs : s ∈ sys.eng.eng_streams_) (model_id : ModelId)
    (hnames : ¬ sm_cfg_.Names (sys.lists s) model_id) : sys.eng.count model_id + 1 < 2 ^ 32 := by
  have hcount := hsys.count_erase hs model_id
  have hle : namers sm_cfg_ (sys.eng.eng_streams_.erase s) sys.lists model_id ≤
      (sys.eng.eng_streams_.erase s).length := List.countP_le_length
  have hlength := List.length_erase_of_mem hs
  have hpos := List.length_pos_of_mem hs
  have hsmall := hsys.small
  rw [if_neg hnames] at hcount
  omega

/-! ### Setting up -/

variable {recog_cfg : Option (List acd_per_context_cfg)}

/-- What `setupEngine` does to the session, and when it fails. -/
theorem setupSession_right (hown : sm_cfg_.OwnUUIDs)
    (hfits : sys.Fits sm_cfg_ a (.setupEngine s list recog_cfg)) :
    let eng := setupCounts sm_cfg_ a sys.eng s list recog_cfg
    Holds sm_cfg_ eng.count (setupSession sm_cfg_ a eng s).2.session_ ∧
      ((setupSession sm_cfg_ a eng s).1 ≠ 0 → (∀ model_id, ¬ sm_cfg_.Names list model_id) ∧
        ¬ sys.RunsForOthers s) := by
  intro eng
  obtain ⟨hs, hlength, hwhole, hsteps⟩ := hfits
  have hsmall : ∀ model_id, sys.eng.count model_id + 1 < 2 ^ 32 := by
    intro model_id
    have hle := hsys.count_le model_id
    omega
  have hmoves : eng.Moves sys.eng.count := setup_moves sys.eng hwhole hsmall
  obtain ⟨hstreams, hsession⟩ := setupCounts_frame sm_cfg_ a sys.eng s list recog_cfg
  have hholds : Holds sm_cfg_ sys.eng.count eng.session_ := by
    rw [hsession]
    exact hsys.holds
  have hothers : eng.areOtherStreamsAttached s = sys.eng.areOtherStreamsAttached s := by
    rw [areOtherStreamsAttached, hstreams, areOtherStreamsAttached]
  by_cases hattached : sys.eng.areOtherStreamsAttached s = true
  · rw [if_pos hattached] at hsteps
    rw [setupSession, if_pos (hothers.trans hattached)]
    obtain ⟨hholds', hfail⟩ :=
      hholds.ifNeeded eng hown hmoves (setup_same sys.eng hwhole hsmall) hsteps
    refine ⟨hholds', fun h => ⟨fun model_id hnames => ?_, fun hruns => ?_⟩⟩
    · exact hfail h (Or.inl ⟨model_id, hnames⟩)
    · exact hfail h (Or.inr hruns.1)
  · rw [if_neg hattached] at hsteps
    rw [setupSession, if_neg fun h => hattached (hothers.symm.trans h)]
    have hrest : ¬ sys.RunsForOthers s := fun hruns => hattached hruns.2
    have hzero : ∀ model_id, sys.eng.count model_id = 0 := by
      intro model_id
      have hempty : sys.eng.eng_streams_ = [] := by
        refine List.eq_nil_iff_forall_not_mem.mpr fun t ht => hattached ?_
        refine List.any_eq_true.mpr ⟨t, ht, decide_eq_true fun heq => hs ?_⟩
        rwa [heq]
      have hle := hsys.count_le model_id
      rw [hempty, List.length_nil] at hle
      omega
    by_cases hcounted : ∃ model_id, sm_cfg_.Names list model_id
    · obtain ⟨hopen, hpayload, hjoinable, hload⟩ := hsteps hcounted
      refine ⟨first_holds eng hmoves hzero (fun hfail => absurd hopen hfail) hload, fun hfail => ?_⟩
      exact absurd (first_status eng hopen hpayload hjoinable hload) hfail
    · have hnames : ∀ model_id, ¬ sm_cfg_.Names list model_id :=
        fun model_id h => hcounted ⟨model_id, h⟩
      have hmarks : ∀ model_id, marks model_id eng =
          { count := sys.eng.count model_id, load := false, unload := false } := by
        intro model_id
        refine (setup_marks sys.eng hwhole (hsmall model_id)).trans ?_
        rw [if_neg (hnames model_id)]
      refine ⟨first_holds eng hmoves hzero (fun _ => ?_) ?_, fun _ => ⟨hnames, hrest⟩⟩
      · exact hholds.kept eng hmoves fun model_id => by rw [hmarks]
      · intro model_id hmem
        have hload : (marks model_id eng).load = true := (mem_unskipped.mp hmem).1
        rw [hmarks] at hload
        cases hload

theorem setup_count (hwhole : sm_cfg_.Whole list) (hlength : sys.eng.eng_streams_.length + 1 < 2 ^ 32)
    (model_id : ModelId) : (setupCounts sm_cfg_ a sys.eng s list recog_cfg).count model_id =
      sys.eng.count model_id + if sm_cfg_.Names list model_id then 1 else 0 := by
  have hle := hsys.count_le model_id
  have hmarks : marks model_id (setupCounts sm_cfg_ a sys.eng s list recog_cfg) = _ :=
    setup_marks sys.eng hwhole (by omega)
  refine (congrArg Marks.count hmarks).trans ?_
  split
  · rfl
  · rfl

theorem setup_right (hown : sm_cfg_.OwnUUIDs)
    (hfits : sys.Fits sm_cfg_ a (.setupEngine s list recog_cfg)) :
    (sys.step sm_cfg_ (.setupEngine s list recog_cfg, a)).Inv sm_cfg_ ∧
      ((sys.result sm_cfg_ (.setupEngine s list recog_cfg) a).1 ≠ 0 → ¬ sys.RunsForOthers s) := by
  obtain ⟨hholds, hfail⟩ := hsys.setupSession_right hown hfits
  obtain ⟨hs, hlength, hwhole, -⟩ := hfits
  have hcount : ∀ model_id, (setupCounts sm_cfg_ a sys.eng s list recog_cfg).count model_id = _ :=
    hsys.setup_count hwhole hlength
  obtain ⟨hstreams, hcounts⟩ :=
    setupSession_frame sm_cfg_ a (setupCounts sm_cfg_ a sys.eng s list recog_cfg) s
  have hstreams := hstreams.trans (setupCounts_frame sm_cfg_ a sys.eng s list recog_cfg).1
  have hcounts := count_congr hcounts
  refine ⟨?_, fun h => (hfail h).2⟩
  have hstep : sys.step sm_cfg_ (.setupEngine s list recog_cfg, a) =
      { eng :=
          if (setupSession sm_cfg_ a (setupCounts sm_cfg_ a sys.eng s list recog_cfg) s).1 = 0 then
            { (setupSession sm_cfg_ a (setupCounts sm_cfg_ a sys.eng s list recog_cfg) s).2 with
              eng_streams_ := (setupSession sm_cfg_ a
                (setupCounts sm_cfg_ a sys.eng s list recog_cfg) s).2.eng_streams_ ++ [s] }
          else (setupSession sm_cfg_ a (setupCounts sm_cfg_ a sys.eng s list recog_cfg) s).2
        lists := Function.update sys.lists s list } := rfl
  rw [hstep]
  generalize setupSession sm_cfg_ a (setupCounts sm_cfg_ a sys.eng s list recog_cfg) s = r at *
  have hlists : ∀ t ∈ sys.eng.eng_streams_, Function.update sys.lists s list t = sys.lists t := by
    intro t ht
    refine Function.update_of_ne ?_ _ _
    rintro rfl
    exact hs ht
  rw [← hcounts] at hholds
  by_cases hstatus : r.1 = 0
  · rw [if_pos hstatus, hstreams]
    refine ⟨?_, ?_, ?_, fun model_id => ?_, hholds⟩
    · exact List.nodup_append.mpr ⟨hsys.nodup, List.nodup_singleton s, by
        rintro t ht _ hs' rfl
        rw [List.mem_singleton.mp hs'] at ht
        exact hs ht⟩
    · show (sys.eng.eng_streams_ ++ [s]).length < 2 ^ 32
      rw [List.length_append, List.length_singleton]
      exact hlength
    · intro t ht
      show sm_cfg_.Whole (Function.update sys.lists s list t)
      rcases List.mem_append.mp ht with ht | ht
      · rw [hlists t ht]
        exact hsys.whole t ht
      · rw [List.mem_singleton.mp ht, Function.update_self]
        exact hwhole
    · refine Eq.trans ?_ (namers_append hs).symm
      show r.2.count model_id = _
      rw [hcounts, hcount, hsys.counts]
      rfl
  · rw [if_neg hstatus]
    refine ⟨?_, ?_, ?_, fun model_id => ?_, hholds⟩
    · rw [hstreams]
      exact hsys.nodup
    · rw [hstreams]
      exact hsys.small
    · rw [hstreams]
      intro t ht
      show sm_cfg_.Whole (Function.update sys.lists s list t)
      rw [hlists t ht]
      exact hsys.whole t ht
    · show r.2.count model_id = namers sm_cfg_ r.2.eng_streams_ _ model_id
      rw [hcounts, hcount, if_neg ((hfail hstatus).1 model_id), Nat.add_zero, hsys.counts, hstreams]
      exact (namers_update_of_notMem hs).symm

/-! ### Reconfiguring -/

theorem reconfigure_right {old_cfg : List ContextId} {beyond : acd_per_context_cfg}
    (hown : sm_cfg_.OwnUUIDs)
    (hfits : sys.Fits sm_cfg_ a (.reconfigureEngine s old_cfg list recog_cfg beyond)) :
    (sys.step sm_cfg_ (.reconfigureEngine s old_cfg list recog_cfg beyond, a)).Inv sm_cfg_ ∧
      ((sys.result sm_cfg_ (.reconfigureEngine s old_cfg list recog_cfg beyond) a).1 ≠ 0 →
        ¬ sys.RunsForOthers s) := by
  obtain ⟨hs, rfl, hwhole, hsteps⟩ := hfits
  have hold := hsys.whole s hs
  have hmoves : (reconfigureCounts sm_cfg_ a sys.eng s (sys.lists s) list recog_cfg beyond).Moves
      sys.eng.count :=
    reconfigure_moves sys.eng hold hwhole hsys.count_lt (hsys.count_pos hs) (hsys.count_next hs)
  have hcount : ∀ model_id,
      (reconfigureCounts sm_cfg_ a sys.eng s (sys.lists s) list recog_cfg beyond).count model_id =
        namers sm_cfg_ (sys.eng.eng_streams_.erase s) sys.lists model_id +
          if sm_cfg_.Names list model_id then 1 else 0 := by
    intro model_id
    have hmarks : marks model_id
        (reconfigureCounts sm_cfg_ a sys.eng s (sys.lists s) list recog_cfg beyond) = _ :=
      reconfigure_marks sys.eng hold hwhole (hsys.count_lt model_id) (hsys.count_pos hs model_id)
        (hsys.count_next hs model_id)
    refine (congrArg Marks.count hmarks).trans ?_
    rw [hsys.count_erase hs]
    split
    · split
      · rfl
      · rfl
    · split
      · rfl
      · rfl
  obtain ⟨hstreams, hsession⟩ :=
    reconfigureCounts_frame sm_cfg_ a sys.eng s (sys.lists s) list recog_cfg beyond
  have hholds := hsys.holds
  rw [← hsession] at hholds
  obtain ⟨hholds, hfail⟩ := hholds.ifNeeded _ hown hmoves (change_same _) hsteps
  refine ⟨?_, hfail⟩
  obtain ⟨hstreams', hcounts⟩ := reconfigureSession_frame sm_cfg_ a
    (reconfigureCounts sm_cfg_ a sys.eng s (sys.lists s) list recog_cfg beyond)
  have hstreams := hstreams'.trans hstreams
  have hcounts := count_congr hcounts
  rw [← hcounts] at hholds
  have hstep : sys.step sm_cfg_ (.reconfigureEngine s (sys.lists s) list recog_cfg beyond, a) =
      { eng := (reconfigureSession sm_cfg_ a
          (reconfigureCounts sm_cfg_ a sys.eng s (sys.lists s) list recog_cfg beyond)).2
        lists := Function.update sys.lists s list } := rfl
  rw [hstep]
  refine ⟨?_, ?_, ?_, fun model_id => ?_, hholds⟩
  · rw [hstreams]
    exact hsys.nodup
  · rw [hstreams]
    exact hsys.small
  · rw [hstreams]
    intro t ht
    show sm_cfg_.Whole (Function.update sys.lists s list t)
    by_cases hts : t = s
    · rwa [hts, Function.update_self]
    · rw [Function.update_of_ne hts]
      exact hsys.whole t ht
  · show (reconfigureSession sm_cfg_ a _).2.count model_id =
      namers sm_cfg_ (reconfigureSession sm_cfg_ a _).2.eng_streams_ _ model_id
    rw [hcounts, hcount, hstreams, namers_update hs hsys.nodup]

/-! ### Tearing down -/

theorem teardown_right (hown : sm_cfg_.OwnUUIDs)
    (hfits : sys.Fits sm_cfg_ a (.teardownEngine s list recog_cfg)) :
    (sys.step sm_cfg_ (.teardownEngine s list recog_cfg, a)).Inv sm_cfg_ ∧
      ((sys.result sm_cfg_ (.teardownEngine s list recog_cfg) a).1 ≠ 0 →
        ¬ sys.RunsForOthers s) := by
  obtain ⟨hs, rfl, hsteps⟩ := hfits
  have hwhole := hsys.whole s hs
  have hmoves : (teardownCounts sm_cfg_ a sys.eng s (sys.lists s) recog_cfg).Moves sys.eng.count :=
    teardown_moves sys.eng hwhole hsys.count_lt (hsys.count_pos hs)
  have hcount : ∀ model_id,
      (teardownCounts sm_cfg_ a sys.eng s (sys.lists s) recog_cfg).count model_id =
        namers sm_cfg_ (sys.eng.eng_streams_.erase s) sys.lists model_id := by
    intro model_id
    have hmarks : marks model_id (teardownCounts sm_cfg_ a sys.eng s (sys.lists s) recog_cfg) = _ :=
      teardown_marks sys.eng hwhole (hsys.count_lt model_id) (hsys.count_pos hs model_id)
    refine (congrArg Marks.count hmarks).trans ?_
    rw [hsys.count_erase hs]
    split
    · rfl
    · rfl
  obtain ⟨hstreams, hsession⟩ :=
    teardownCounts_frame sm_cfg_ a sys.eng s (sys.lists s) recog_cfg
  have hothers : (teardownCounts sm_cfg_ a sys.eng s (sys.lists s) recog_cfg).areOtherStreamsAttached
      s = sys.eng.areOtherStreamsAttached s := by
    rw [areOtherStreamsAttached, hstreams, areOtherStreamsAttached]
  have hholds := hsys.holds
  rw [← hsession] at hholds
  have hright : Holds sm_cfg_ (teardownCounts sm_cfg_ a sys.eng s (sys.lists s) recog_cfg).count
        (teardownSession sm_cfg_ a
          (teardownCounts sm_cfg_ a sys.eng s (sys.lists s) recog_cfg) s).2.session_ ∧
      ((teardownSession sm_cfg_ a
        (teardownCounts sm_cfg_ a sys.eng s (sys.lists s) recog_cfg) s).1 ≠ 0 →
          ¬ sys.RunsForOthers s) := by
    by_cases hattached : sys.eng.areOtherStreamsAttached s = true
    · rw [teardownSession, if_pos (hothers.trans hattached)]
      exact hholds.ifNeeded _ hown hmoves
        (teardown_same sys.eng hwhole hsys.count_lt (hsys.count_pos hs)) (hsteps hattached)
    · rw [teardownSession, if_neg fun h => hattached (hothers.symm.trans h)]
      exact ⟨closed_holds _ (teardownCounts sm_cfg_ a sys.eng s (sys.lists s) recog_cfg),
        fun _ hruns => hattached hruns.2⟩
  obtain ⟨hholds, hfail⟩ := hright
  refine ⟨?_, hfail⟩
  obtain ⟨hstreams', hcounts⟩ := teardownSession_frame sm_cfg_ a
    (teardownCounts sm_cfg_ a sys.eng s (sys.lists s) recog_cfg) s
  have hstreams := hstreams'.trans hstreams
  have hcounts := count_congr hcounts
  rw [← hcounts] at hholds
  have hstep : sys.step sm_cfg_ (.teardownEngine s (sys.lists s) recog_cfg, a) =
      { eng :=
          { (teardownSession sm_cfg_ a
              (teardownCounts sm_cfg_ a sys.eng s (sys.lists s) recog_cfg) s).2 with
            eng_streams_ := (teardownSession sm_cfg_ a (teardownCounts sm_cfg_ a sys.eng s
              (sys.lists s) recog_cfg) s).2.eng_streams_.erase s }
        lists := sys.lists } := rfl
  rw [hstep, hstreams]
  refine ⟨hsys.nodup.erase s, ?_, fun t ht => hsys.whole t (List.mem_of_mem_erase ht), ?_, hholds⟩
  · exact (List.length_erase_le).trans_lt hsys.small
  · intro model_id
    show (teardownSession sm_cfg_ a _ s).2.count model_id = _
    rw [hcounts, hcount]
    rfl

/-! ### Starting and stopping -/

theorem start_right : (sys.step sm_cfg_ (.startEngine s, a)).Inv sm_cfg_ ∧
    ((sys.result sm_cfg_ (.startEngine s) a).1 ≠ 0 → ¬ sys.RunsForOthers s) := by
  by_cases hactive : sys.eng.isEngineActive = true
  · have hresult : sys.result sm_cfg_ (.startEngine s) a = (0, sys.eng) := if_pos hactive
    refine ⟨?_, fun hfail => absurd (congrArg Prod.fst hresult) hfail⟩
    have hstep : sys.step sm_cfg_ (.startEngine s, a) = sys :=
      congrArg (fun r => EngineSystem.mk r.2 sys.lists) hresult
    rwa [hstep]
  · have hresult : sys.result sm_cfg_ (.startEngine s) a = sys.eng.processStartEngine a :=
      if_neg hactive
    have hstep : sys.step sm_cfg_ (.startEngine s, a) =
        { eng := (sys.eng.processStartEngine a).2, lists := sys.lists } :=
      congrArg (fun r => EngineSystem.mk r.2 sys.lists) hresult
    refine ⟨?_, fun _ hruns => hactive hruns.1⟩
    obtain ⟨hsession, hstreams, hcounts⟩ := start_frame (a := a) sys.eng
    have hcounts := count_congr hcounts
    rw [hstep]
    refine ⟨?_, ?_, ?_, fun model_id => ?_, ?_⟩
    · rw [hstreams]
      exact hsys.nodup
    · rw [hstreams]
      exact hsys.small
    · rw [hstreams]
      exact hsys.whole
    · rw [hcounts, hsys.counts, needs, needs, hstreams]
    · rw [hcounts, hsession]
      exact hsys.holds

theorem stop_right : (sys.step sm_cfg_ (.stopEngine s, a)).Inv sm_cfg_ ∧
    ((sys.result sm_cfg_ (.stopEngine s) a).1 ≠ 0 → ¬ sys.RunsForOthers s) := by
  by_cases hattached : sys.eng.areOtherStreamsAttached s = true
  · have hresult : sys.result sm_cfg_ (.stopEngine s) a = (0, sys.eng) := if_pos hattached
    refine ⟨?_, fun hfail => absurd (congrArg Prod.fst hresult) hfail⟩
    have hstep : sys.step sm_cfg_ (.stopEngine s, a) = sys :=
      congrArg (fun r => EngineSystem.mk r.2 sys.lists) hresult
    rwa [hstep]
  · have hresult : sys.result sm_cfg_ (.stopEngine s) a = sys.eng.processStopEngine a :=
      if_neg hattached
    have hstep : sys.step sm_cfg_ (.stopEngine s, a) =
        { eng := { sys.eng with eng_state_ := .ENG_LOADED }, lists := sys.lists } :=
      congrArg (fun r => EngineSystem.mk r.2 sys.lists) hresult
    refine ⟨?_, fun _ hruns => hattached hruns.2⟩
    rw [hstep]
    exact ⟨hsys.nodup, hsys.small, hsys.whole, hsys.counts, hsys.holds⟩

/-! ### Runs -/

theorem call_right {call : EngineCall} (hown : sm_cfg_.OwnUUIDs)
    (hfits : sys.Fits sm_cfg_ a call) : (sys.step sm_cfg_ (call, a)).Inv sm_cfg_ ∧
      ((sys.result sm_cfg_ call a).1 ≠ 0 → ¬ sys.RunsForOthers call.stream) := by
  cases call with
  | setupEngine s config recog_cfg => exact hsys.setup_right hown hfits
  | reconfigureEngine s old_cfg new_cfg recog_cfg beyond => exact hsys.reconfigure_right hown hfits
  | teardownEngine s cfg recog_cfg => exact hsys.teardown_right hown hfits
  | startEngine s => exact hsys.start_right
  | stopEngine s => exact hsys.stop_right

theorem loadsNeeded {call : EngineCall} (hown : sm_cfg_.OwnUUIDs)
    (hfits : sys.Fits sm_cfg_ a call) : LoadsNeeded sm_cfg_ sys (call, a) := by
  obtain ⟨hinv, hfail⟩ := hsys.call_right hown hfits
  refine ⟨hinv.counts, hinv.holds, fun hstatus hactive hothers => ?_⟩
  exact absurd ⟨hactive, hothers⟩ (hfail hstatus)

end Inv

theorem inv_nil (sm_cfg_ : ACDStreamConfig) : Inv sm_cfg_ {} where
  nodup := List.nodup_nil
  small := by decide
  whole t ht := absurd ht List.not_mem_nil
  counts model_id := by
    simp [count, needs]
  holds := by
    intro hopened
    cases hopened

end EngineSystem

/-! ### Calls whose steps succeed -/

/-- No step of the call fails. -/
structure Answers.Succeed (a : Answers) : Prop where
  openSession : a.openSession = 0
  eventPayload : a.eventPayload = true
  populateSoundModel : ∀ model_id, a.populateSoundModel model_id = 0
  regDeregSoundModel : ∀ model_id, a.regDeregSoundModel model_id = 0
  joinable : a.joinable = true
  prepare : a.prepare = 0
  start : a.start = 0

namespace Answers.Succeed

open ACDEngine

variable {sm_cfg_ : ACDStreamConfig} {a : Answers} {sys : EngineSystem} {s : StreamId}
  {list : List ContextId} {recog_cfg : Option (List acd_per_context_cfg)} (h : a.Succeed)

include h

theorem payload (eng : ACDEngine) : populateEventPayload a eng = 0 := by
  rw [populateEventPayload, h.eventPayload]
  split
  · rfl
  · rfl

theorem handlesRight (eng : ACDEngine) (strict : Prop) : HandlesRight sm_cfg_ a eng strict where
  models _ _ := ⟨fun model_id _ => h.regDeregSoundModel model_id,
    fun model_id _ => h.populateSoundModel model_id⟩
  closes _ := by
    rintro (⟨model_id, -, hfail⟩ | hfail | ⟨model_id, -, hfail⟩)
    · exact hfail (h.regDeregSoundModel model_id)
    · exact hfail (h.payload eng)
    · exact hfail (h.populateSoundModel model_id)
  restarts _ _ := ⟨h.prepare, h.start⟩

theorem fits_setup (hs : s ∉ sys.eng.eng_streams_)
    (hlength : sys.eng.eng_streams_.length + 1 < 2 ^ 32) (hwhole : sm_cfg_.Whole list) :
    sys.Fits sm_cfg_ a (.setupEngine s list recog_cfg) := by
  refine ⟨hs, hlength, hwhole, ?_⟩
  split
  · exact fun _ => h.handlesRight _ _
  · exact fun _ => ⟨h.openSession, h.payload _, h.joinable,
      fun model_id _ => h.populateSoundModel model_id⟩

theorem fits_teardown (hs : s ∈ sys.eng.eng_streams_) (hlist : list = sys.lists s) :
    sys.Fits sm_cfg_ a (.teardownEngine s list recog_cfg) :=
  ⟨hs, hlist, fun _ _ => h.handlesRight _ _⟩

end Answers.Succeed

/-- **The needed models.** Along a run whose calls all meet the condition, each call leaves the counts
at the numbers of the attached streams, the models that are needed in an open session, and an engine
that runs for other streams running. -/
theorem loadsNeeded_along (sm_cfg_ : ACDStreamConfig) (hown : sm_cfg_.OwnUUIDs)
    (calls : List (EngineCall × Answers))
    (hfits : Meets (fun sys x => some (EngineSystem.step sm_cfg_ sys x))
      (fun sys x => sys.Fits sm_cfg_ x.2 x.1) {} calls) :
    Meets (fun sys x => some (EngineSystem.step sm_cfg_ sys x)) (LoadsNeeded sm_cfg_) {} calls := by
  have hstep : ∀ (sys : EngineSystem) x t, sys.Fits sm_cfg_ x.2 x.1 → sys.Inv sm_cfg_ →
      some (sys.step sm_cfg_ x) = some t → t.Inv sm_cfg_ := by
    rintro sys x _ hfits hsys ⟨⟩
    exact (hsys.call_right hown hfits).1
  have hright : ∀ (sys : EngineSystem) x, sys.Fits sm_cfg_ x.2 x.1 → sys.Inv sm_cfg_ →
      LoadsNeeded sm_cfg_ sys x :=
    fun sys x hfits hsys => hsys.loadsNeeded hown hfits
  exact hfits.mono_of_invariant hstep hright (EngineSystem.inv_nil sm_cfg_)

/-- The keys in ascending order. -/
def Order.ascending : Order := ⟨Std.TreeMap.toList, fun _ => List.Perm.refl _⟩

def eventModel : ACDSoundModelInfo where
  model_type_ := "ACD_SOUND_MODEL_ID_EVENT"
  model_bin_name_ := "event.eai"
  model_id_ := 0
  model_uuid_ := 11

def musicModel : ACDSoundModelInfo where
  model_type_ := "ACD_SOUND_MODEL_ID_MUSIC"
  model_bin_name_ := "music.eai"
  model_id_ := 1
  model_uuid_ := 12

theorem getElem?_insert_insert {k k' j : ℕ} {v v' w : ACDSoundModelInfo} (h :
    (((∅ : Std.TreeMap ℕ ACDSoundModelInfo).insert k v).insert k' v')[j]? = some w) :
    (j = k' ∧ w = v') ∨ (j = k ∧ w = v) := by
  rw [Std.TreeMap.getElem?_insert, Std.TreeMap.getElem?_insert] at h
  split at h
  next heq => exact Or.inl ⟨(Nat.compare_eq_eq.mp heq).symm, (Option.some.inj h).symm⟩
  · split at h
    next heq => exact Or.inr ⟨(Nat.compare_eq_eq.mp heq).symm, (Option.some.inj h).symm⟩
    · simp at h

/-- A platform file with two models. -/
def twoModels : ACDStreamConfig where
  context_model_map_ :=
    ((∅ : Std.TreeMap ContextId ACDSoundModelInfo).insert 7 eventModel).insert 8 musicModel
  acd_modelinfo_map_ :=
    ((∅ : Std.TreeMap ModelId ACDSoundModelInfo).insert 0 eventModel).insert 1 musicModel
  id model_id sm_info h := by
    rcases getElem?_insert_insert h with ⟨rfl, rfl⟩ | ⟨rfl, rfl⟩ <;> rfl
  listed context_id sm_info h := by
    rcases getElem?_insert_insert h with ⟨-, rfl⟩ | ⟨-, rfl⟩ <;> decide

theorem twoModels_ownUUIDs : twoModels.OwnUUIDs where
  ne_zero model_id sm_info h _ := by
    rcases getElem?_insert_insert h with ⟨-, rfl⟩ | ⟨-, rfl⟩ <;> decide
  inj model_id sm_info model_id' sm_info' h _ h' _ huuid := by
    rcases getElem?_insert_insert h with ⟨rfl, rfl⟩ | ⟨rfl, rfl⟩ <;>
      rcases getElem?_insert_insert h' with ⟨rfl, rfl⟩ | ⟨rfl, rfl⟩ <;>
      first | rfl | exact absurd huuid (by decide)

/-- The second stream asks for the second model, which cannot be sent. -/
def secondModelLost : EngineCall × Answers :=
  (.reconfigureEngine 1 [7] [7, 8] none ⟨8, 0, 0⟩,
    { populateSoundModel := fun _ => -EINVAL, order := .ascending })

/-- Two streams share a model, and the engine does not start. The reconfiguration that fails closes
the session, and the first stream leaves. -/
def sharedModel : List (EngineCall × Answers) :=
  [(.setupEngine 0 [7] none, { order := .ascending }),
    (.startEngine 0, { start := -EINVAL, order := .ascending }),
    (.setupEngine 1 [7] none, { order := .ascending }), secondModelLost,
    (.teardownEngine 0 [7] none, { order := .ascending })]

theorem loadsNeeded_shared_model :
    Meets (fun sys x => some (EngineSystem.step twoModels sys x)) (LoadsNeeded twoModels) {}
      sharedModel ∧
    ∃ sys, run (fun sys x => some (EngineSystem.step twoModels sys x)) {} (sharedModel.take 3) =
        some sys ∧ (sys.result twoModels secondModelLost.1 secondModelLost.2).1 = -EINVAL := by
  have hsucceed : Answers.Succeed { order := .ascending } :=
    ⟨rfl, rfl, fun _ => rfl, fun _ => rfl, rfl, rfl, rfl⟩
  have hwhole : twoModels.Whole [7] := Or.inl (by decide)
  refine ⟨loadsNeeded_along twoModels twoModels_ownUUIDs _ ?_, _, rfl, by decide⟩
  simp only [sharedModel, meets_some_cons]
  refine ⟨?_, trivial, ?_, ?_, ?_, trivial⟩
  · exact hsucceed.fits_setup (by decide) (by decide) hwhole
  · exact hsucceed.fits_setup (by decide) (by decide) hwhole
  · -- the engine does not run, and the failure closes the session
    refine ⟨by decide, by decide, Or.inl (by decide), fun _ => ⟨fun _ h => absurd ?_ h, ?_, ?_⟩⟩
    · exact Or.inr (Or.inr ⟨1, by decide, by decide⟩)
    · exact fun h => absurd h.1 (by decide)
    · exact fun h => absurd h.1 (by decide)
  · exact hsucceed.fits_teardown (by decide) (by decide)

/-- A stream whose session does not open is counted, and never attached. -/
theorem not_loadsNeeded : ¬ ∀ (sm_cfg_ : ACDStreamConfig), sm_cfg_.OwnUUIDs →
    ∀ calls : List (EngineCall × Answers),
      Meets (fun sys x => some (EngineSystem.step sm_cfg_ sys x)) (LoadsNeeded sm_cfg_) {} calls := by
  intro h
  have hmeets := h twoModels twoModels_ownUUIDs
    [(.setupEngine 0 [7] none, { openSession := -EINVAL, order := .ascending })]
  rw [meets_some_cons] at hmeets
  have hcounts := hmeets.1.counts 0
  have hne : ((EngineSystem.step twoModels {} (.setupEngine 0 [7] none,
      { openSession := -EINVAL, order := .ascending })).eng.count 0) ≠
      (EngineSystem.step twoModels {} (.setupEngine 0 [7] none,
        { openSession := -EINVAL, order := .ascending })).needs twoModels 0 := by decide
  exact hne hcounts

end AudioReachPal.ACD
