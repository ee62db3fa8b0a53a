import AudioReachPal.Lib.Gathered
import AudioReachPal.Lib.Runs
import AudioReachPal.Sva.MergedEffect
import Mathlib.Data.Finset.Card

/-!
# The engine's model and the streams' models

The engine's model should hold the keyphrases of the streams whose last operation was to add a model.
It does in the runs where a stream that adds a model has none, or brings nothing new, and where one
that deletes its model leaves a stream behind that is loaded and shares no keyphrase with it
(`mergedModel_union_iff`). Deleting leaves the model data of the stream, so a stream that comes back
after `reconfigureDetectionGraph` finds its model already added.
-/

namespace AudioReachPal.Sva

open AudioReachPal.Lib Function

variable {M : Type} (sml : SoundModelLib M)

/-! ### Runs -/

/-- An interface, and for each stream the model of its last operation, if that was to add one. -/
structure Loads (M : Type) where
  I : SVAInterface M
  last : StreamId → Option M

inductive ModelCall (M : Type) where
  | registerModel (s : StreamId) (type : pal_st_sound_model_type_t)
    (model_list : List (sound_model_data_t M))
  | PARAM_FSTAGE_SOUND_MODEL_ADD (s : StreamId) (data : M)
  | PARAM_FSTAGE_SOUND_MODEL_DELETE (s : StreamId)
  | detachStream (s : StreamId)

/-! The calls of the engine, each with what the stream calls behind it. -/

def loadSoundModel (s : StreamId) (sm_data : M) : List (ModelCall M) :=
  [.PARAM_FSTAGE_SOUND_MODEL_ADD s sm_data]

def unloadSoundModel (s : StreamId) : List (ModelCall M) :=
  [.PARAM_FSTAGE_SOUND_MODEL_DELETE s, .detachStream s]

def reconfigureDetectionGraph (s : StreamId) : List (ModelCall M) :=
  [.PARAM_FSTAGE_SOUND_MODEL_DELETE s]

namespace Loads

/-- A call. A stream is registered while it has no interface, and a parameter of a stream that is not
registered is undefined. -/
def step (L : Loads M) : ModelCall M → Option (Loads M)
  | .registerModel s type model_list =>
    if s ∈ L.I.sm_info_map_ then none else some ⟨L.I.registerModel s type model_list, L.last⟩
  | .PARAM_FSTAGE_SOUND_MODEL_ADD s data =>
    (L.I.setEngineModel sml s (some data)).map fun (I, _) => ⟨I, update L.last s (some data)⟩
  | .PARAM_FSTAGE_SOUND_MODEL_DELETE s =>
    (L.I.setEngineModel sml s none).map fun (I, _) => ⟨I, update L.last s none⟩
  | .detachStream s => some ⟨L.I.detachStream s, update L.last s none⟩

/-- The keyphrases that a stream has loaded. -/
def loaded (L : Loads M) (s : StreamId) : Set String := sml.phrases (L.last s)

/-- The model of the engine has the keyphrases that are loaded. -/
def Union (L : Loads M) : Prop := sml.phrases L.I.engineModel = gathered (L.loaded sml)

/-- What an added model needs: the stream has none, or what tells the model from the one it has loaded
is loaded by others. -/
def KeepsAdd (L : Loads M) (s : StreamId) (data : M) : Prop :=
  L.I.modelOf s = none ∨
    ∀ kw ∉ gatheredBut (L.loaded sml) s, (kw ∈ sml.phrases (some data) ↔ kw ∈ L.loaded sml s)

/-- What a stream whose model is deleted needs of the others that have one: there are some; a single
one has loaded its model; several have loaded no keyphrase of the model, and all else that the stream
has loaded, or all that it has loaded where nothing can be deleted. -/
def KeepsDelete (L : Loads M) (s : StreamId) (model : M) : Prop :=
  match L.I.othersWithModel s with
  | [] => False
  | [(r, rem_st)] => rem_st.cf_levels_size_ ≤ PAL_SOUND_TRIGGER_MAX_USERS →
    sml.phrases rem_st.sm_data_ = L.loaded sml r
  | _ :: _ :: _ =>
    (L.I.Deletable sml model →
      (∀ kw ∈ sml.phrases (some model), kw ∉ gatheredBut (L.loaded sml) s) ∧
        L.loaded sml s \ sml.phrases (some model) ⊆ gatheredBut (L.loaded sml) s) ∧
    (¬ L.I.Deletable sml model → L.loaded sml s ⊆ gatheredBut (L.loaded sml) s)

/-- What a call needs to keep the union. -/
def Keeps (L : Loads M) : ModelCall M → Prop
  | .registerModel _ _ _ => True
  | .PARAM_FSTAGE_SOUND_MODEL_ADD s data => L.KeepsAdd sml s data
  | .PARAM_FSTAGE_SOUND_MODEL_DELETE s =>
    ∀ model, L.I.modelOf s = some model → L.KeepsDelete sml s model
  | .detachStream s => L.loaded sml s ⊆ gatheredBut (L.loaded sml) s

variable {sml} {L : Loads M}

/-! ### The invariant -/

/-- The invariant of every run: a stream without a model has loaded no keyphrases. -/
structure Inv (sml : SoundModelLib M) (L : Loads M) : Prop where
  wf : L.I.Wf sml
  loaded : ∀ s, L.I.modelOf s = none → L.loaded sml s = ∅

theorem loaded_update (L : Loads M) (I : SVAInterface M) (s : StreamId) (m : Option M) :
    loaded sml ⟨I, update L.last s m⟩ = update (L.loaded sml) s (sml.phrases m) :=
  comp_update sml.phrases L.last s m

/-- What is loaded by a stream that adds or drops a model. -/
theorem Inv.update {I : SVAInterface M} {s : StreamId} {m : Option M} (h : L.Inv sml)
    (hwf : I.Wf sml) (hother : ∀ t, t ≠ s → I.modelOf t = none → L.I.modelOf t = none)
    (hself : I.modelOf s = none → sml.phrases m = ∅) : Inv sml ⟨I, update L.last s m⟩ where
  wf := hwf
  loaded t ht := by
    rw [loaded_update]
    by_cases hts : t = s
    · subst hts
      rw [update_self]
      exact hself ht
    · rw [update_of_ne hts]
      exact h.loaded t (hother t hts ht)

/-! ### One call -/

/-- The call is taken, from any state that meets the invariant, or it is undefined and needs nothing;
behind it the union is there exactly if the call keeps it. -/
def Exact (sml : SoundModelLib M) (L : Loads M) (call : ModelCall M) : Prop :=
  (L.step sml call = none ∧ L.Keeps sml call) ∨
    ∃ L', L.step sml call = some L' ∧ L'.Inv sml ∧
      (L.Union sml → (L'.Union sml ↔ L.Keeps sml call))

theorem exact_register (h : L.Inv sml) (s : StreamId) (type : pal_st_sound_model_type_t)
    (model_list : List (sound_model_data_t M)) :
    Exact sml L (.registerModel s type model_list) := by
  unfold Exact step
  dsimp only
  split_ifs with hs
  · exact Or.inl ⟨rfl, trivial⟩
  · refine Or.inr ⟨_, rfl, ⟨h.wf.registerModel hs type model_list, ?_⟩, fun hunion => ?_⟩
    · rw [SVAInterface.modelOf_registerModel hs]
      exact h.loaded
    · exact iff_of_true hunion trivial

theorem exact_detach (h : L.Inv sml) (s : StreamId) : Exact sml L (.detachStream s) := by
  refine Or.inr ⟨_, rfl, h.update (h.wf.detachStream s) (fun t hts ht => ?_) fun _ => ?_,
    fun hunion => ?_⟩
  · rw [SVAInterface.modelOf_detachStream, update_of_ne hts] at ht
    exact ht
  · exact SoundModelLib.phrases_none
  · unfold Union at hunion ⊢
    rw [loaded_update, SoundModelLib.phrases_none]
    show sml.phrases L.I.engineModel = _ ↔ _
    rw [hunion]
    exact gathered_leave_eq_iff _ _

/-- The union behind a model that is added, by what adding does. -/
theorem union_of_added (h : L.Inv sml) (hunion : L.Union sml) {s : StreamId} {data : M}
    {I : SVAInterface M} (hadded : SVAInterface.Added sml L.I I s data) :
    Union sml ⟨I, update L.last s (some data)⟩ ↔ L.KeepsAdd sml s data := by
  unfold Union at hunion ⊢
  rw [loaded_update]
  unfold KeepsAdd
  cases hadded with
  | already hmodel hI =>
    subst hI
    rw [or_iff_right hmodel]
    show sml.phrases L.I.engineModel = _ ↔ _
    rw [hunion]
    exact gathered_update_eq_iff _ _ _
  | refused hnone hnil _ heng =>
    refine iff_of_true ?_ (Or.inl hnone)
    rw [SoundModelLib.phrases_of_nil hnil, gathered_join (h.loaded s hnone), Set.union_empty]
    exact (congrArg sml.phrases heng).trans hunion
  | alone hnone hothers _ heng =>
    refine iff_of_true ?_ (Or.inl hnone)
    rw [gathered_update, gatheredBut_of_none fun t hts => h.loaded t (hothers t hts),
      Set.union_empty]
    exact congrArg sml.phrases heng
  | merged hnone _ in_model hin heng =>
    refine iff_of_true ?_ (Or.inl hnone)
    rw [gathered_join (h.loaded s hnone), ← hunion, hin, ← SoundModelLib.phrases_merge]
    exact congrArg sml.phrases heng

theorem exact_add (h : L.Inv sml) (s : StreamId) (data : M) :
    Exact sml L (.PARAM_FSTAGE_SOUND_MODEL_ADD s data) := by
  have hstep : L.step sml (.PARAM_FSTAGE_SOUND_MODEL_ADD s data) =
      (L.I.addSoundModel sml s data).map fun (I, _) => ⟨I, update L.last s (some data)⟩ := by
    unfold step SVAInterface.setEngineModel
    dsimp only
    rw [if_pos h.wf.gmm]
    rfl
  unfold Exact
  rw [hstep]
  rcases hinfo : L.I.getSoundModelInfo s with _ | info
  · have hnone : L.I.modelOf s = none := by
      unfold SVAInterface.modelOf
      rw [hinfo]
      rfl
    refine Or.inl ⟨?_, Or.inl hnone⟩
    unfold SVAInterface.addSoundModel
    rw [hinfo]
    rfl
  obtain ⟨I, status, hadd, hwf, hadded⟩ := SVAInterface.addSoundModel_spec h.wf hinfo data
  rw [hadd]
  refine Or.inr ⟨_, rfl, h.update hwf (fun t hts ht => ?_) fun hself => ?_,
    fun hunion => union_of_added h hunion hadded⟩
  · cases hadded with
    | already _ hI => exact hI ▸ ht
    | refused _ _ hmodel _ => exact hmodel ▸ ht
    | alone _ _ hmodel _ => rwa [hmodel, update_of_ne hts] at ht
    | merged _ hmodel _ _ _ => rwa [hmodel, update_of_ne hts] at ht
  · cases hadded with
    | already hne hI => exact absurd (hI ▸ hself) hne
    | refused _ hnil _ _ => exact SoundModelLib.phrases_of_nil hnil
    | alone _ _ hmodel _ =>
      rw [hmodel, update_self] at hself
      cases hself
    | merged _ hmodel _ _ _ =>
      rw [hmodel, update_self] at hself
      cases hself

/-- The union behind a model that is deleted, by what deleting does. -/
theorem union_of_deleted (h : L.Inv sml) (hunion : L.Union sml) {s : StreamId}
    {I : SVAInterface M} (hdeleted : SVAInterface.Deleted sml L.I I s) :
    Union sml ⟨I, update L.last s none⟩ ↔
      ∀ model, L.I.modelOf s = some model → L.KeepsDelete sml s model := by
  unfold Union at hunion ⊢
  rw [loaded_update, SoundModelLib.phrases_none]
  have hone : ∀ {model}, L.I.modelOf s = some model →
      ((∀ model, L.I.modelOf s = some model → L.KeepsDelete sml s model) ↔
        L.KeepsDelete sml s model) := by
    intro model hmodel
    refine ⟨fun hall => hall model hmodel, fun hkeeps model' hmodel' => ?_⟩
    cases hmodel.symm.trans hmodel'
    exact hkeeps
  unfold KeepsDelete at hone ⊢
  cases hdeleted with
  | already hnone hI =>
    subst hI
    refine iff_of_true ?_ fun model hmodel => ?_
    · rw [gathered_join (h.loaded s hnone), Set.union_empty]
      exact hunion
    · rw [hnone] at hmodel
      cases hmodel
  | last hmodel hothers hI =>
    -- the engine keeps the model of the stream, which has keyphrases
    obtain ⟨model, hmodel⟩ := Option.ne_none_iff_exists'.mp hmodel
    subst hI
    rw [hone hmodel, hothers]
    refine iff_of_false (fun hempty => ?_) not_false
    have hbut : gatheredBut (L.loaded sml) s = ∅ := gatheredBut_of_none fun t hts =>
      h.loaded t (SVAInterface.othersWithModel_nil.mp hothers t hts)
    obtain ⟨m, hm⟩ := Option.ne_none_iff_exists'.mp (h.wf.loaded s (by rw [hmodel]; simp))
    obtain ⟨kw, hkw⟩ := List.exists_mem_of_ne_nil _ (h.wf.engine m hm).nonempty
    rw [gathered_update, hbut, Set.union_empty] at hempty
    have hkw : kw ∈ sml.phrases L.I.engineModel := by
      rw [hm, SoundModelLib.mem_phrases_some]
      exact hkw
    rw [hempty] at hkw
    exact hkw
  | one hmodel r rem_st hothers hfits _ heng =>
    obtain ⟨model, hmodel⟩ := Option.ne_none_iff_exists'.mp hmodel
    obtain ⟨hrs, -, -, honly⟩ := SVAInterface.othersWithModel_single hothers
    rw [hone hmodel, hothers, gathered_update, Set.empty_union,
      gatheredBut_of_one hrs fun t hts htr => h.loaded t (honly t hts htr)]
    show sml.phrases I.engineModel = _ ↔ _
    rw [heng]
    exact ⟨fun heq _ => heq, fun heq => heq hfits⟩
  | taken model hmodel hothers hdel _ heng =>
    rw [hone hmodel]
    obtain ⟨a, b, l, hothers⟩ := hothers
    rw [hothers]
    show sml.phrases I.engineModel = _ ↔ _
    rw [heng, hunion, gathered_diff_eq_iff]
    exact ⟨fun hkeeps => ⟨fun _ => hkeeps, fun hnot => absurd hdel hnot⟩, fun hkeeps => hkeeps.1 hdel⟩
  | kept model hmodel hothers hdel hI =>
    subst hI
    rw [hone hmodel]
    obtain ⟨a, b, l, hothers⟩ := hothers
    rw [hothers]
    show sml.phrases L.I.engineModel = _ ↔ _
    rw [hunion, gathered_leave_eq_iff]
    exact ⟨fun hkeeps => ⟨fun hyes => absurd hyes hdel, fun _ => hkeeps⟩, fun hkeeps => hkeeps.2 hdel⟩

theorem exact_delete (h : L.Inv sml) (s : StreamId) :
    Exact sml L (.PARAM_FSTAGE_SOUND_MODEL_DELETE s) := by
  have hstep : L.step sml (.PARAM_FSTAGE_SOUND_MODEL_DELETE s) =
      (L.I.deleteSoundModel sml s).map fun (I, _) => ⟨I, update L.last s none⟩ := by
    unfold step SVAInterface.setEngineModel
    dsimp only
    rw [if_pos h.wf.gmm]
    rfl
  unfold Exact
  rw [hstep]
  rcases hinfo : L.I.getSoundModelInfo s with _ | info
  · have hnone : L.I.modelOf s = none := by
      unfold SVAInterface.modelOf
      rw [hinfo]
      rfl
    refine Or.inl ⟨?_, fun model hmodel => ?_⟩
    · unfold SVAInterface.deleteSoundModel
      rw [hinfo]
      rfl
    · rw [hnone] at hmodel
      cases hmodel
  rcases SVAInterface.deleteSoundModel_spec h.wf hinfo with
    ⟨r, rem_st, hothers, hover, hdelete⟩ | ⟨I, status, hdelete, hwf, hdeleted⟩
  · rw [hdelete]
    refine Or.inl ⟨rfl, fun model _ => ?_⟩
    unfold KeepsDelete
    rw [hothers]
    exact fun hfit => absurd hfit (not_le.mpr hover)
  have hmodel : I.modelOf = L.I.modelOf := by
    cases hdeleted with
    | already _ hI => rw [hI]
    | last _ _ hI => rw [hI]
    | one _ _ _ _ _ hmodel _ => exact hmodel
    | taken _ _ _ _ hmodel _ => exact hmodel
    | kept _ _ _ _ hI => rw [hI]
  rw [hdelete]
  refine Or.inr ⟨_, rfl, h.update hwf (fun t _ ht => ?_) fun _ => ?_,
    fun hunion => union_of_deleted h hunion hdeleted⟩
  · rwa [hmodel] at ht
  · exact SoundModelLib.phrases_none

theorem exact_call (h : L.Inv sml) (call : ModelCall M) : Exact sml L call := by
  cases call with
  | registerModel s type model_list => exact exact_register h s type model_list
  | PARAM_FSTAGE_SOUND_MODEL_ADD s data => exact exact_add h s data
  | PARAM_FSTAGE_SOUND_MODEL_DELETE s => exact exact_delete h s
  | detachStream s => exact exact_detach h s

end Loads

/-! ### Every run -/

/-- The interface has no streams and no model yet. -/
structure SVAInterface.Fresh (I : SVAInterface M) : Prop where
  gmm : I.module_type_ = .ST_MODULE_TYPE_GMM
  unregistered : ∀ s, s ∉ I.sm_info_map_
  empty : I.engineModel = none

/-- Where a run begins. -/
def Loads.start (I : SVAInterface M) : Loads M := ⟨I, fun _ => none⟩

theorem inv_start (sml : SoundModelLib M) {I : SVAInterface M} (h : I.Fresh) :
    (Loads.start I).Inv sml := by
  have hnone : ∀ s, I.modelOf s = none := fun s => SVAInterface.modelOf_of_not_mem (h.unregistered s)
  refine ⟨⟨⟨h.gmm, fun s i hi => ?_⟩, fun m hm => ?_, fun s hs => absurd (hnone s) hs, fun _ => ?_⟩,
    fun s _ => SoundModelLib.phrases_none⟩
  · have hget : I.sm_info_map_[s]? = none := Std.TreeMap.getElem?_eq_none (h.unregistered s)
    cases hget.symm.trans hi
  · cases h.empty.symm.trans hm
  · exact ⟨0, 0, fun s hs => absurd (hnone s) hs⟩

/-- **The union.** After every call of a run the engine's model has exactly the keyphrases of the
streams whose last operation was to add a model, if and only if every call keeps them. -/
theorem mergedModel_union_iff (sml : SoundModelLib M) {I : SVAInterface M} (h : I.Fresh)
    (calls : List (ModelCall M)) :
    (∀ js L, js <+: calls → run (Loads.step sml) (.start I) js = some L → L.Union sml) ↔
      Meets (Loads.step sml) (Loads.Keeps sml) (.start I) calls := by
  have hstart : (Loads.start I).Union sml := by
    unfold Loads.Union
    show sml.phrases I.engineModel = _
    rw [h.empty, SoundModelLib.phrases_none, gathered_eq _ 0]
    have hnone : ∀ s, Loads.loaded sml (.start I) s = ∅ := fun _ => SoundModelLib.phrases_none
    rw [hnone, gatheredBut_of_none fun s _ => hnone s, Set.union_empty]
  have hinv : ∀ (L : Loads M) (call : ModelCall M) (L' : Loads M), L.Inv sml →
      L.step sml call = some L' → L'.Inv sml := by
    intro L call L' hinv hstep
    rcases Loads.exact_call hinv call with ⟨hnone, -⟩ | ⟨L'', hsome, hinv', -⟩
    · cases hnone.symm.trans hstep
    · cases hsome.symm.trans hstep
      exact hinv'
  refine law_prefixes_iff_meets hinv (fun L call _ hinv hunion => ?_) (inv_start sml h) hstart
  rcases Loads.exact_call hinv call with ⟨hnone, hkeeps⟩ | ⟨L', hsome, -, hiff⟩
  · refine iff_of_true (fun L' hstep => ?_) hkeeps
    cases hnone.symm.trans hstep
  · rw [← hiff hunion]
    refine ⟨fun hall => hall L' hsome, fun hunion' L'' hstep => ?_⟩
    cases hsome.symm.trans hstep
    exact hunion'

/-! ### A stream that comes back -/

/-- Models as lists of keyphrases. -/
def listLib : SoundModelLib (List String) where
  GetKeywordPhrases_ m := m
  size m := m.toFinset.card
  MergeModels_ m m' := m ++ m'.filter (· ∉ m)
  DeleteFromModel_ m kw := m.filter (· ≠ kw)
  mem_merge m m' kw := by
    simp only [List.mem_append, List.mem_filter, decide_eq_true_eq]
    tauto
  mem_delete m kw' kw := by simp
  size_le m m' h := Finset.card_le_card fun kw hkw => by
    rw [List.mem_toFinset] at hkw ⊢
    exact h hkw
  size_lt m m' h hnot := by
    refine Finset.card_lt_card ⟨fun kw hkw => ?_, fun hsub => hnot fun kw hkw => ?_⟩
    · rw [List.mem_toFinset] at hkw ⊢
      exact h hkw
    · exact List.mem_toFinset.mp (hsub (List.mem_toFinset.mpr hkw))

/-- A GMM interface as it is constructed. -/
def emptyInterface : SVAInterface (List String) where
  module_type_ := .ST_MODULE_TYPE_GMM
  sm_info_map_ := ∅
  in_media_config := ⟨16000, 16, 1⟩
  sound_model_info_ := .new
  perf_mode_ := false
  st_conf_levels_ := none
  st_conf_levels_v2_ := none
  default_buf_config_ := ⟨0, 0⟩
  wakeup_config_ := ⟨0, 0, [], []⟩
  tiuv_threshold_config_ := []
  hist_cap_mode_config_ := []
  start_position_ := 0
  bytes_to_read_ := 0
  sm_merged_ := false
  det_event_info_ := fun _ => none
  readOffsets_ := fun _ => 0
  origin_hist_buf_duration_ := fun _ => 0

theorem emptyInterface_fresh : emptyInterface.Fresh := ⟨rfl, fun s => by simp [emptyInterface], rfl⟩

/-- A single stream that is left has loaded the model it holds. -/
theorem keepsDelete_of_one {sml : SoundModelLib M} {L : Loads M} {s r : StreamId} {model : M}
    {rem_st : SoundModelInfo M} (h : L.I.othersWithModel s = [(r, rem_st)])
    (hdata : rem_st.sm_data_ = L.last r) : L.KeepsDelete sml s model := by
  unfold Loads.KeepsDelete
  rw [h]
  exact fun _ => congrArg sml.phrases hdata

/-- Two streams load their models. -/
def loadBoth : List (ModelCall (List String)) :=
  [.registerModel 1 .PAL_SOUND_MODEL_TYPE_KEYPHRASE [],
    .registerModel 2 .PAL_SOUND_MODEL_TYPE_KEYPHRASE []] ++
  loadSoundModel 1 ["hello"] ++ loadSoundModel 2 ["goodbye"]

/-- The first of two streams is disconnected from its device, and connected again. -/
def comesBack : List (ModelCall (List String)) :=
  loadBoth ++ reconfigureDetectionGraph 1 ++ loadSoundModel 1 ["hello"]

/-- The engine has the keyphrase of the other stream only. -/
theorem comesBack_lost : (run (Loads.step listLib) (.start emptyInterface) comesBack).map
    (fun L => (L.I.engineModel, L.last 1)) = some (some ["goodbye"], some ["hello"]) := by
  decide +kernel

theorem not_mergedModel_union : ¬ ∀ js L, js <+: comesBack →
    run (Loads.step listLib) (.start emptyInterface) js = some L → L.Union listLib := by
  intro hall
  obtain ⟨L, hrun, hL⟩ := Option.map_eq_some_iff.mp comesBack_lost
  have hunion := hall comesBack L List.prefix_rfl hrun
  obtain ⟨hengine, hlast⟩ := Prod.mk.inj hL
  have hmem : "hello" ∈ L.loaded listLib 1 := by
    unfold Loads.loaded
    rw [hlast, SoundModelLib.mem_phrases_some]
    exact List.mem_singleton_self "hello"
  have hlost : "hello" ∈ listLib.phrases L.I.engineModel := by
    rw [hunion, gathered_eq _ 1]
    exact Or.inl hmem
  rw [hengine, SoundModelLib.mem_phrases_some] at hlost
  exact absurd (List.mem_singleton.mp hlost) (by decide)

/-- What loading both streams and unloading the second one needs is met. -/
theorem unloadSecond_keeps : Meets (Loads.step listLib) (Loads.Keeps listLib)
    (.start emptyInterface) (loadBoth ++ unloadSoundModel 2) := by
  refine ⟨trivial, ?_⟩
  rintro L₁ ⟨⟩
  refine ⟨trivial, ?_⟩
  rintro L₂ ⟨⟩
  refine ⟨Or.inl (by decide +kernel), ?_⟩
  rintro L₃ ⟨⟩
  refine ⟨Or.inl (by decide +kernel), ?_⟩
  rintro L₄ ⟨⟩
  refine ⟨fun model _ => keepsDelete_of_one rfl rfl, ?_⟩
  rintro L₅ ⟨⟩
  refine ⟨?_, fun _ _ => trivial⟩
  rintro kw ⟨m, hm, -⟩
  cases hm

/-- The second stream is unloaded, and the model of the first one is left. -/
theorem mergedModel_union_unload : ∃ L, run (Loads.step listLib) (.start emptyInterface)
    (loadBoth ++ unloadSoundModel 2) = some L ∧ L.I.engineModel = some ["hello"] ∧
      L.Union listLib := by
  obtain ⟨L, hrun, hL⟩ : ∃ L, run (Loads.step listLib) (.start emptyInterface)
      (loadBoth ++ unloadSoundModel 2) = some L ∧ L.I.engineModel = some ["hello"] :=
    Option.map_eq_some_iff.mp (by decide +kernel)
  exact ⟨L, hrun, hL, (mergedModel_union_iff listLib emptyInterface_fresh _).mpr
    unloadSecond_keeps _ L List.prefix_rfl hrun⟩

end AudioReachPal.Sva
