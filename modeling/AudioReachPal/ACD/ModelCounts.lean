import AudioReachPal.ACD.Models

/-!
# Counting the models

A call moves the count of a model by one or not at all, and marks it to be loaded or unloaded where
the count leaves or reaches zero. What the bookkeeping of a call makes of a model depends on the
count before and on the lists that name the model.
-/

namespace AudioReachPal.ACD

open AudioReachPal.Lib

namespace ACDEngine

variable {sm_cfg_ : ACDStreamConfig} {a : Answers} (eng : ACDEngine) {s : StreamId}
  {model_id : ModelId}

/-! ### Counting -/

/-- What the bookkeeping has for a model: its count, and whether it is to be loaded or unloaded. -/
@[ext]
structure Marks where
  count : ℕ
  load : Bool
  unload : Bool

def marks (model_id : ModelId) (eng : ACDEngine) : Marks where
  count := eng.count model_id
  load := (eng.model_load_needed_[model_id]?).isSome
  unload := (eng.model_unload_needed_[model_id]?).isSome

/-- The marks of a model that is counted. -/
def Marks.move (enable : Bool) (v : Marks) : Marks :=
  if enable then
    { v with count := word32 (v.count + 1), load := word32 (v.count + 1) = 1 || v.load }
  else
    { v with count := sub32 v.count 1, unload := sub32 v.count 1 = 0 || v.unload }

theorem count_insert_self (n : ℕ) (load unload : ModelMap) :
    count { eng with
      model_count_ := eng.model_count_.insert model_id n
      model_load_needed_ := load
      model_unload_needed_ := unload } model_id = n := by
  simp only [count, Std.TreeMap.getElem?_insert_self, Option.getD_some]

theorem count_insert_other {k : ModelId} (n : ℕ) (load unload : ModelMap) (hne : model_id ≠ k) :
    count { eng with
      model_count_ := eng.model_count_.insert k n
      model_load_needed_ := load
      model_unload_needed_ := unload } model_id = eng.count model_id := by
  simp only [count, Std.TreeMap.getElem?_insert,
    if_neg fun heq => hne (Nat.compare_eq_eq.mp heq).symm]

theorem countModel_self (enable : Bool) (model : ModelId × String) :
    marks model.1 (countModel enable eng model) = (marks model.1 eng).move enable := by
  cases enable with
  | true =>
    by_cases hone : word32 (eng.count model.1 + 1) = 1
    · simp [marks, countModel, Marks.move, if_pos hone, decide_eq_true hone, count_insert_self]
    · simp [marks, countModel, Marks.move, if_neg hone, decide_eq_false hone, count_insert_self]
  | false =>
    by_cases hzero : sub32 (eng.count model.1) 1 = 0
    · simp [marks, countModel, Marks.move, if_pos hzero, decide_eq_true hzero, count_insert_self]
    · simp [marks, countModel, Marks.move, if_neg hzero, decide_eq_false hzero, count_insert_self]

theorem countModel_other (enable : Bool) (model : ModelId × String) (hne : model_id ≠ model.1) :
    marks model_id (countModel enable eng model) = marks model_id eng := by
  have hinsert : ∀ (m : ModelMap) type, (m.insert model.1 type)[model_id]? = m[model_id]? := by
    intro m type
    rw [Std.TreeMap.getElem?_insert, if_neg fun heq => hne (Nat.compare_eq_eq.mp heq).symm]
  cases enable with
  | true =>
    by_cases hone : word32 (eng.count model.1 + 1) = 1
    · simp only [marks, countModel, if_true, if_pos hone, hinsert, count_insert_other _ _ _ _ hne]
    · simp only [marks, countModel, if_true, if_neg hone, count_insert_other _ _ _ _ hne]
  | false =>
    by_cases hzero : sub32 (eng.count model.1) 1 = 0
    · simp only [marks, countModel, Bool.false_eq_true, if_false, if_pos hzero, hinsert,
        count_insert_other _ _ _ _ hne]
    · simp only [marks, countModel, Bool.false_eq_true, if_false, if_neg hzero,
        count_insert_other _ _ _ _ hne]

theorem countModel_ownKeys (enable : Bool) : OwnKeys (countModel enable) Prod.fst marks
    (fun _ v => v.move enable) fun _ _ => True where
  self eng model _ := countModel_self eng enable model
  other eng model _ _ := countModel_other eng enable model

theorem modelToUpdate_isSome {list : List ContextId} (models : ModelMap)
    (hlist : ∀ c ∈ list, (sm_cfg_.getSoundModelInfoByContextId c).isSome = true) :
    ∃ models', modelToUpdate sm_cfg_ list models = some models' ∧
      ∀ model_id : ModelId, (models'[model_id]?).isSome = true ↔
        (models[model_id]?).isSome = true ∨ sm_cfg_.Names list model_id := by
  induction list generalizing models with
  | nil => exact ⟨models, rfl, fun m => by simp [ACDStreamConfig.Names]⟩
  | cons c list ih =>
    obtain ⟨hc, hlist⟩ := List.forall_mem_cons.mp hlist
    obtain ⟨sm_info, hinfo⟩ := Option.isSome_iff_exists.mp hc
    obtain ⟨models', hupdate, hnames⟩ :=
      ih (models.insert sm_info.model_id_ sm_info.model_type_) hlist
    refine ⟨models', ?_, fun model_id => (hnames model_id).trans ?_⟩
    · simp only [modelToUpdate, hinfo, hupdate]
    · by_cases heq : sm_info.model_id_ = model_id
      · simp [ACDStreamConfig.Names, hinfo, heq]
      · simp [ACDStreamConfig.Names, hinfo, heq, Std.TreeMap.getElem?_insert]

/-- A list that names a model is counted; another list moves nothing. -/
theorem updateModelCount_marks {list : List ContextId} (hlist : sm_cfg_.Whole list) (enable : Bool)
    (model_id : ModelId) : marks model_id (updateModelCount sm_cfg_ a eng list enable) =
      if sm_cfg_.Names list model_id then (marks model_id eng).move enable
      else marks model_id eng := by
  by_cases hknown : ∀ c ∈ list, (sm_cfg_.getSoundModelInfoByContextId c).isSome = true
  · obtain ⟨models, hupdate, hnames⟩ := modelToUpdate_isSome ∅ hknown
    have hnames : (models[model_id]?).isSome = true ↔ sm_cfg_.Names list model_id :=
      (hnames model_id).trans (or_iff_right (by simp))
    have hnodup : ((a.order.enum models).map Prod.fst).Nodup :=
      ((a.order.perm models).map Prod.fst).nodup_iff.mpr (OwnKeys.nodup_keys_toList models)
    simp only [updateModelCount, hupdate]
    by_cases hm : sm_cfg_.Names list model_id
    · obtain ⟨type, htype⟩ := Option.isSome_iff_exists.mp (hnames.mpr hm)
      have hmem : (model_id, type) ∈ a.order.enum models :=
        (a.order.perm models).mem_iff.mpr (Std.TreeMap.mem_toList_iff_getElem?_eq_some.mpr htype)
      rw [if_pos hm]
      exact (countModel_ownKeys enable).foldl_of_mem hmem hnodup fun _ _ => trivial
    · rw [if_neg hm]
      refine (countModel_ownKeys enable).foldl_of_notMem ?_ hnodup fun _ _ => trivial
      intro hmem
      obtain ⟨⟨_, type⟩, hx, rfl⟩ := List.mem_map.mp hmem
      have htype := Std.TreeMap.mem_toList_iff_getElem?_eq_some.mp
        ((a.order.perm models).mem_iff.mp hx)
      exact hm (hnames.mp (Option.isSome_iff_exists.mpr ⟨type, htype⟩))
  · have hnone := hlist.resolve_left hknown
    have hnames : ¬ sm_cfg_.Names list model_id := by
      rintro ⟨c, hc, sm_info, hinfo, -⟩
      rw [hnone c hc] at hinfo
      cases hinfo
    rw [if_neg hnames]
    cases list with
    | nil => exact absurd (fun c hc => absurd hc List.not_mem_nil) hknown
    | cons c list =>
      simp only [updateModelCount, modelToUpdate, hnone c List.mem_cons_self]

variable (sm_cfg_ a) in
/-- What the counting leaves alone. -/
theorem updateModelCount_frame (list : List ContextId) (enable : Bool) :
    (updateModelCount sm_cfg_ a eng list enable).eng_streams_ = eng.eng_streams_ ∧
      (updateModelCount sm_cfg_ a eng list enable).eng_state_ = eng.eng_state_ ∧
      (updateModelCount sm_cfg_ a eng list enable).session_ = eng.session_ := by
  unfold updateModelCount
  split
  · exact ⟨rfl, rfl, rfl⟩
  next models _ =>
    have hkept := foldl_kept (f := countModel enable)
      (p := fun eng : ACDEngine => (eng.eng_streams_, eng.eng_state_, eng.session_))
      (fun eng model => by cases enable <;> rfl) (a.order.enum models) eng
    exact ⟨congrArg Prod.fst hkept, congrArg (fun x => x.2.1) hkept,
      congrArg (fun x => x.2.2) hkept⟩

/-! ### The bookkeeping of the calls -/

variable {list old_cfg new_cfg : List ContextId} {recog_cfg : Option (List acd_per_context_cfg)}
  {beyond : acd_per_context_cfg}

section Frame

variable (sm_cfg_ a s list old_cfg new_cfg recog_cfg beyond)

theorem setupCounts_frame :
    (setupCounts sm_cfg_ a eng s list recog_cfg).eng_streams_ = eng.eng_streams_ ∧
      (setupCounts sm_cfg_ a eng s list recog_cfg).session_ = eng.session_ := by
  obtain ⟨hstreams, -, hsession⟩ :=
    updateModelCount_frame sm_cfg_ a eng.resetModelLoadUnloadFlags list true
  exact ⟨hstreams, hsession⟩

theorem teardownCounts_frame :
    (teardownCounts sm_cfg_ a eng s list recog_cfg).eng_streams_ = eng.eng_streams_ ∧
      (teardownCounts sm_cfg_ a eng s list recog_cfg).session_ = eng.session_ := by
  obtain ⟨hstreams, -, hsession⟩ :=
    updateModelCount_frame sm_cfg_ a eng.resetModelLoadUnloadFlags list false
  exact ⟨hstreams, hsession⟩

theorem reconfigureCounts_frame :
    (reconfigureCounts sm_cfg_ a eng s old_cfg new_cfg recog_cfg beyond).eng_streams_ =
        eng.eng_streams_ ∧
      (reconfigureCounts sm_cfg_ a eng s old_cfg new_cfg recog_cfg beyond).session_ =
        eng.session_ := by
  obtain ⟨hstreams, -, hsession⟩ :=
    updateModelCount_frame sm_cfg_ a eng.resetModelLoadUnloadFlags old_cfg false
  obtain ⟨hstreams', -, hsession'⟩ := updateModelCount_frame sm_cfg_ a
    (updateModelCount sm_cfg_ a eng.resetModelLoadUnloadFlags old_cfg false) new_cfg true
  exact ⟨hstreams'.trans hstreams, hsession'.trans hsession⟩

end Frame

theorem marks_reset : marks model_id eng.resetModelLoadUnloadFlags =
    { count := eng.count model_id, load := false, unload := false } := rfl

theorem setup_marks (hlist : sm_cfg_.Whole list) (hsmall : eng.count model_id + 1 < 2 ^ 32) :
    marks model_id (setupCounts sm_cfg_ a eng s list recog_cfg) =
      if sm_cfg_.Names list model_id then
        { count := eng.count model_id + 1, load := eng.count model_id = 0, unload := false }
      else { count := eng.count model_id, load := false, unload := false } := by
  refine (updateModelCount_marks eng.resetModelLoadUnloadFlags hlist true model_id).trans ?_
  rw [marks_reset]
  simp only [Marks.move, if_true, word32_of_lt hsmall, Bool.or_false, Nat.add_eq_right]

/-- The marks when the old list is no longer counted. -/
theorem uncount_marks (hlist : sm_cfg_.Whole list) (hsmall : eng.count model_id < 2 ^ 32)
    (hpos : sm_cfg_.Names list model_id → 0 < eng.count model_id) :
    marks model_id (updateModelCount sm_cfg_ a eng.resetModelLoadUnloadFlags list false) =
      if sm_cfg_.Names list model_id then
        { count := eng.count model_id - 1, load := false, unload := eng.count model_id - 1 = 0 }
      else { count := eng.count model_id, load := false, unload := false } := by
  refine (updateModelCount_marks eng.resetModelLoadUnloadFlags hlist false model_id).trans ?_
  rw [marks_reset]
  by_cases hnames : sm_cfg_.Names list model_id
  · rw [if_pos hnames, if_pos hnames]
    simp only [Marks.move, Bool.false_eq_true, if_false, sub32_of_le (hpos hnames) hsmall,
      Bool.or_false]
  · rw [if_neg hnames, if_neg hnames]

theorem teardown_marks (hlist : sm_cfg_.Whole list) (hsmall : eng.count model_id < 2 ^ 32)
    (hpos : sm_cfg_.Names list model_id → 0 < eng.count model_id) :
    marks model_id (teardownCounts sm_cfg_ a eng s list recog_cfg) =
      if sm_cfg_.Names list model_id then
        { count := eng.count model_id - 1, load := false, unload := eng.count model_id - 1 = 0 }
      else { count := eng.count model_id, load := false, unload := false } :=
  uncount_marks eng hlist hsmall hpos

theorem reconfigure_marks (hold : sm_cfg_.Whole old_cfg) (hnew : sm_cfg_.Whole new_cfg)
    (hsmall : eng.count model_id < 2 ^ 32)
    (hpos : sm_cfg_.Names old_cfg model_id → 0 < eng.count model_id)
    (hnext : ¬ sm_cfg_.Names old_cfg model_id → eng.count model_id + 1 < 2 ^ 32) :
    marks model_id (reconfigureCounts sm_cfg_ a eng s old_cfg new_cfg recog_cfg beyond) =
      if sm_cfg_.Names old_cfg model_id then
        if sm_cfg_.Names new_cfg model_id then
          { count := eng.count model_id, load := eng.count model_id = 1,
            unload := eng.count model_id = 1 }
        else { count := eng.count model_id - 1, load := false, unload := eng.count model_id = 1 }
      else if sm_cfg_.Names new_cfg model_id then
        { count := eng.count model_id + 1, load := eng.count model_id = 0, unload := false }
      else { count := eng.count model_id, load := false, unload := false } := by
  refine (updateModelCount_marks _ hnew true model_id).trans ?_
  rw [uncount_marks eng hold hsmall hpos]
  by_cases hnames : sm_cfg_.Names old_cfg model_id
  · have hcount := hpos hnames
    have hword : word32 (eng.count model_id - 1 + 1) = eng.count model_id := by
      rw [Nat.sub_add_cancel hcount, word32_of_lt hsmall]
    have hone : (eng.count model_id - 1 = 0) = (eng.count model_id = 1) := by
      rw [eq_iff_iff]
      omega
    rw [if_pos hnames, if_pos hnames]
    simp only [Marks.move, if_true, hword, hone, Bool.or_false]
  · rw [if_neg hnames, if_neg hnames]
    simp only [Marks.move, if_true, word32_of_lt (hnext hnames), Bool.or_false, Nat.add_eq_right]

/-- The marks say how the counts went from `before` to those of the engine. -/
def Moves (before : ModelId → ℕ) (eng : ACDEngine) : Prop :=
  ∀ model_id, 0 < (marks model_id eng).count ↔
    (0 < before model_id ∧ ¬ ((marks model_id eng).unload = true ∧
      ¬ (marks model_id eng).load = true)) ∨
    ((marks model_id eng).load = true ∧ ¬ (marks model_id eng).unload = true)

theorem setup_moves (hlist : sm_cfg_.Whole list) (hsmall : ∀ model_id, eng.count model_id + 1 < 2 ^ 32) :
    (setupCounts sm_cfg_ a eng s list recog_cfg).Moves eng.count := by
  intro model_id
  rw [setup_marks eng hlist (hsmall model_id)]
  split
  · simp only [decide_eq_true_eq, Bool.false_eq_true, not_false_eq_true, and_true, false_and]
    omega
  · simp

theorem teardown_moves (hlist : sm_cfg_.Whole list) (hsmall : ∀ model_id, eng.count model_id < 2 ^ 32)
    (hpos : ∀ model_id, sm_cfg_.Names list model_id → 0 < eng.count model_id) :
    (teardownCounts sm_cfg_ a eng s list recog_cfg).Moves eng.count := by
  intro model_id
  rw [teardown_marks eng hlist (hsmall model_id) (hpos model_id)]
  split
  next hnames =>
    have hcount := hpos model_id hnames
    simp only [decide_eq_true_eq, Bool.false_eq_true, not_false_eq_true, and_true, false_and, or_false]
    omega
  · simp

theorem reconfigure_moves (hold : sm_cfg_.Whole old_cfg) (hnew : sm_cfg_.Whole new_cfg)
    (hsmall : ∀ model_id, eng.count model_id < 2 ^ 32)
    (hpos : ∀ model_id, sm_cfg_.Names old_cfg model_id → 0 < eng.count model_id)
    (hnext : ∀ model_id, ¬ sm_cfg_.Names old_cfg model_id → eng.count model_id + 1 < 2 ^ 32) :
    (reconfigureCounts sm_cfg_ a eng s old_cfg new_cfg recog_cfg beyond).Moves eng.count := by
  intro model_id
  rw [reconfigure_marks eng hold hnew (hsmall model_id) (hpos model_id) (hnext model_id)]
  split
  next hnames =>
    have hcount := hpos model_id hnames
    split
    · simp only [decide_eq_true_eq]
      omega
    · simp only [decide_eq_true_eq, Bool.false_eq_true, not_false_eq_true, and_true, false_and,
        or_false]
      omega
  · split
    · simp only [decide_eq_true_eq, Bool.false_eq_true, not_false_eq_true, and_true, false_and]
      omega
    · simp

theorem isSome_of_isEmpty {models : ModelMap} (hempty : models.isEmpty = true) :
    (models[model_id]?).isSome = false := by
  rw [Std.TreeMap.getElem?_of_isEmpty hempty]
  rfl

/-- Without a model to load nothing is to be moved. -/
theorem setup_same (hlist : sm_cfg_.Whole list) (hsmall : ∀ model_id, eng.count model_id + 1 < 2 ^ 32)
    (hneeded : ¬ (setupCounts sm_cfg_ a eng s list recog_cfg).loadNeeded = true) (model_id : ModelId) :
    (marks model_id (setupCounts sm_cfg_ a eng s list recog_cfg)).load =
      (marks model_id (setupCounts sm_cfg_ a eng s list recog_cfg)).unload := by
  rw [loadNeeded, Bool.or_eq_true, not_or, Bool.not_eq_true', Bool.not_eq_false] at hneeded
  have hload : (marks model_id (setupCounts sm_cfg_ a eng s list recog_cfg)).load = false :=
    isSome_of_isEmpty hneeded.1
  rw [hload, setup_marks eng hlist (hsmall model_id)]
  split
  · rfl
  · rfl

theorem teardown_same (hlist : sm_cfg_.Whole list) (hsmall : ∀ model_id, eng.count model_id < 2 ^ 32)
    (hpos : ∀ model_id, sm_cfg_.Names list model_id → 0 < eng.count model_id)
    (hneeded : ¬ (teardownCounts sm_cfg_ a eng s list recog_cfg).unloadNeeded = true)
    (model_id : ModelId) :
    (marks model_id (teardownCounts sm_cfg_ a eng s list recog_cfg)).load =
      (marks model_id (teardownCounts sm_cfg_ a eng s list recog_cfg)).unload := by
  rw [unloadNeeded, Bool.or_eq_true, not_or, Bool.not_eq_true', Bool.not_eq_false] at hneeded
  have hunload : (marks model_id (teardownCounts sm_cfg_ a eng s list recog_cfg)).unload = false :=
    isSome_of_isEmpty hneeded.1
  rw [hunload, teardown_marks eng hlist (hsmall model_id) (hpos model_id)]
  split
  · rfl
  · rfl

theorem change_same (hneeded : ¬ eng.changeNeeded = true) (model_id : ModelId) :
    (marks model_id eng).load = (marks model_id eng).unload := by
  rw [changeNeeded, Bool.or_eq_true, not_or, bne_iff_ne, ne_eq, not_not] at hneeded
  have hsome : ∀ models : ModelMap, (models[model_id]?).isSome = true ↔
      ∃ type, (model_id, type) ∈ models.toList := by
    intro models
    rw [Option.isSome_iff_exists]
    exact exists_congr fun type => Std.TreeMap.mem_toList_iff_getElem?_eq_some.symm
  rw [Bool.eq_iff_iff]
  show (eng.model_load_needed_[model_id]?).isSome = true ↔
    (eng.model_unload_needed_[model_id]?).isSome = true
  rw [hsome, hsome, hneeded.1]

end ACDEngine

end AudioReachPal.ACD
