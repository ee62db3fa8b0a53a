import AudioReachPal.Sva.MergedModel
import Mathlib.Data.Set.Basic

/-!
# What adding and deleting do to the engine's model

For every stream that is registered, `addSoundModel` and `deleteSoundModel` say what becomes of the
model that is kept for it, and of the keyphrases of the engine's model (`addSoundModel_spec`,
`deleteSoundModel_spec`). The proofs above them use these two, and the invariant of the interface
(`SVAInterface.Wf`), only.
-/

namespace AudioReachPal.Sva

variable {M : Type} {sml : SoundModelLib M}

/-! ### Keyphrases -/

namespace SoundModelLib

/-- The keyphrases of a model that may be there. -/
def phrases (sml : SoundModelLib M) (model : Option M) : Set String :=
  {kw | ∃ m, model = some m ∧ kw ∈ sml.GetKeywordPhrases_ m}

@[simp] theorem phrases_none : sml.phrases none = ∅ := by
  ext kw
  simp [phrases]

@[simp] theorem mem_phrases_some {m : M} {kw : String} :
    kw ∈ sml.phrases (some m) ↔ kw ∈ sml.GetKeywordPhrases_ m := by
  simp [phrases]

theorem phrases_merge (m m' : M) :
    sml.phrases (some (sml.MergeModels_ m m')) = sml.phrases (some m) ∪ sml.phrases (some m') := by
  ext kw
  rw [Set.mem_union, mem_phrases_some, mem_phrases_some, mem_phrases_some, sml.mem_merge]

theorem phrases_of_nil {m : M} (h : sml.GetKeywordPhrases_ m = []) : sml.phrases (some m) = ∅ := by
  ext kw
  rw [mem_phrases_some, h]
  simp

/-- A model with a keyphrase is larger than what is left without it. -/
theorem size_delete_lt {m : M} {kw : String} (h : kw ∈ sml.GetKeywordPhrases_ m) :
    sml.size (sml.DeleteFromModel_ m kw) < sml.size m := by
  refine sml.size_lt _ _ (fun kw' hkw' => ((sml.mem_delete m kw kw').mp hkw').1) fun hsub => ?_
  exact ((sml.mem_delete m kw kw).mp (hsub h)).2 rfl

theorem size_pos {m : M} (h : sml.GetKeywordPhrases_ m ≠ []) : 0 < sml.size m := by
  obtain ⟨kw, hkw⟩ := List.exists_mem_of_ne_nil _ h
  exact Nat.zero_lt_of_lt (size_delete_lt hkw)

theorem size_delete_le (m : M) (kw : String) :
    sml.size (sml.DeleteFromModel_ m kw) ≤ sml.size m :=
  sml.size_le _ _ fun kw' hkw' => ((sml.mem_delete m kw kw').mp hkw').1

end SoundModelLib

/-- Once a model has become smaller, all its keyphrases are deleted. -/
theorem deleteKeyphrases_of_lt {in_model : M} (keyphrases : List String) :
    ∀ {m : M}, sml.size m < sml.size in_model →
      ∃ out, deleteKeyphrases sml in_model keyphrases m = some out ∧ sml.size out ≤ sml.size m ∧
        ∀ kw, kw ∈ sml.GetKeywordPhrases_ out ↔ kw ∈ sml.GetKeywordPhrases_ m ∧ kw ∉ keyphrases := by
  induction keyphrases with
  | nil => exact fun {m} _ => ⟨m, rfl, le_rfl, by simp⟩
  | cons kw keyphrases ih =>
    intro m hm
    have hle : sml.size (sml.DeleteFromModel_ m kw) ≤ sml.size m := SoundModelLib.size_delete_le m kw
    obtain ⟨out, hout, hsize, hmem⟩ := ih (lt_of_le_of_lt hle hm)
    refine ⟨out, ?_, hsize.trans hle, fun kw' => ?_⟩
    · unfold deleteKeyphrases
      dsimp only
      rw [if_neg (by omega)]
      exact hout
    · rw [hmem, sml.mem_delete, List.mem_cons, not_or]
      exact and_assoc

/-- The first keyphrase decides whether the keyphrases are deleted. -/
theorem deleteFromMergedModel_spec (sml : SoundModelLib M) (in_model : M) (kw : String)
    (keyphrases : List String) :
    (kw ∉ sml.GetKeywordPhrases_ in_model ∧
      deleteFromMergedModel sml (kw :: keyphrases) in_model = none) ∨
    (kw ∈ sml.GetKeywordPhrases_ in_model ∧
      ∃ out, deleteFromMergedModel sml (kw :: keyphrases) in_model = some out ∧
        sml.size out ≤ sml.size in_model ∧ ∀ kw', kw' ∈ sml.GetKeywordPhrases_ out ↔
          kw' ∈ sml.GetKeywordPhrases_ in_model ∧ kw' ∉ kw :: keyphrases) := by
  have hrun : deleteFromMergedModel sml (kw :: keyphrases) in_model =
      deleteKeyphrases sml in_model (kw :: keyphrases) in_model := if_neg (List.cons_ne_nil _ _)
  rw [hrun]
  unfold deleteKeyphrases
  dsimp only
  by_cases hkw : kw ∈ sml.GetKeywordPhrases_ in_model
  · have hlt := SoundModelLib.size_delete_lt hkw
    obtain ⟨out, hout, hsize, hmem⟩ := deleteKeyphrases_of_lt keyphrases hlt
    refine Or.inr ⟨hkw, out, ?_, hsize.trans hlt.le, fun kw' => ?_⟩
    · rw [if_neg (by omega)]
      exact hout
    · rw [hmem, sml.mem_delete, List.mem_cons, not_or]
      exact and_assoc
  · refine Or.inl ⟨hkw, if_pos (sml.size_le _ _ fun kw' hkw' => ?_)⟩
    refine (sml.mem_delete in_model kw kw').mpr ⟨hkw', ?_⟩
    rintro rfl
    exact hkw hkw'

/-! ### Infos -/

namespace SoundModelInfo

/-- The info is that of the model it holds, which has keyphrases. -/
structure Holds (sml : SoundModelLib M) (info : SoundModelInfo M) (m : M) : Prop where
  keyphrases : info.keyphrases_ = sml.GetKeywordPhrases_ m
  nonempty : sml.GetKeywordPhrases_ m ≠ []
  size : info.sm_size_ = sml.size m

/-- The infos differ at most in their levels. -/
def SameButLevels (info info' : SoundModelInfo M) : Prop :=
  ∃ levels, info' = { info with cf_levels_ := levels }

theorem SameButLevels.refl (info : SoundModelInfo M) : info.SameButLevels info := ⟨_, rfl⟩

theorem SameButLevels.trans {info info' info'' : SoundModelInfo M} (h : info.SameButLevels info')
    (h' : info'.SameButLevels info'') : info.SameButLevels info'' := by
  obtain ⟨levels, rfl⟩ := h
  obtain ⟨levels', rfl⟩ := h'
  exact ⟨levels', rfl⟩

theorem same_updateConfLevel (info : SoundModelInfo M) (index conf_level : ℕ) :
    info.SameButLevels (info.updateConfLevel index conf_level) := by
  unfold updateConfLevel
  split_ifs
  · exact ⟨_, rfl⟩
  · exact .refl info

theorem same_foldl {α : Type} {f : SoundModelInfo M → α → SoundModelInfo M}
    (hf : ∀ (info : SoundModelInfo M) (a : α), info.SameButLevels (f info a)) (l : List α) :
    ∀ info : SoundModelInfo M, info.SameButLevels (l.foldl f info) := by
  induction l with
  | nil => exact fun info => .refl info
  | cons a l ih => exact fun info => (hf info a).trans (ih (f info a))

theorem Holds.of_same {info info' : SoundModelInfo M} {m : M} (h : info.Holds sml m)
    (hsame : info.SameButLevels info') : info'.Holds sml m := by
  obtain ⟨levels, rfl⟩ := hsame
  exact ⟨h.keyphrases, h.nonempty, h.size⟩

theorem SameButLevels.sm_data_ {info info' : SoundModelInfo M} (h : info.SameButLevels info') :
    info'.sm_data_ = info.sm_data_ := by
  obtain ⟨levels, rfl⟩ := h
  rfl

end SoundModelInfo

/-- Without users, the loop that names the entries stays in the array. -/
theorem nameKeyphrases_isSome {hdr : listen_sound_model_header} (hnone : hdr.numUsersSetPerKw = none)
    (num_keyphrases : ℕ) (users keyphrases : List String) :
    ∀ (i : ℕ) (n : Naming), i + keyphrases.length ≤ n.names.length →
      (nameKeyphrases hdr num_keyphrases users i keyphrases n).isSome := by
  induction keyphrases with
  | nil => exact fun _ _ _ => rfl
  | cons keyphrase keyphrases ih =>
    intro i n hlen
    rw [List.length_cons] at hlen
    unfold nameKeyphrases writeName
    rw [if_pos (by omega), Option.bind_some, hnone]
    refine ih (i + 1) _ ?_
    rw [List.length_set]
    omega

/-- `querySoundModel` takes a model that has keyphrases. -/
theorem querySoundModel_spec (sm_info : SoundModelInfo M) {data : M}
    (h : sml.GetKeywordPhrases_ data ≠ []) :
    ∃ sm_info', querySoundModel sml sm_info data = some (sm_info', 0) ∧
      sm_info'.sm_data_ = sm_info.sm_data_ ∧ sm_info'.sm_size_ = sm_info.sm_size_ ∧
        sm_info'.keyphrases_ = sml.GetKeywordPhrases_ data := by
  have hlen : (sml.GetKeywordPhrases_ data).length ≠ 0 := by
    rw [Ne, List.length_eq_zero_iff]
    exact h
  have hnone : (⟨0, none, fun _ _ => 0⟩ : listen_sound_model_header).numUsersSetPerKw = none := rfl
  obtain ⟨n, hn⟩ := Option.isSome_iff_exists.mp (nameKeyphrases_isSome hnone
    (sml.GetKeywordPhrases_ data).length [] (sml.GetKeywordPhrases_ data) 0
      ⟨List.replicate ((sml.GetKeywordPhrases_ data).length + 0) "", 0, 0⟩ (by simp))
  unfold querySoundModel SoundModelInfo.setConfLevels
  dsimp only
  rw [if_neg hlen, if_neg (show (sml.GetKeywordPhrases_ data).length + 0 ≠ 0 from hlen)]
  simp only [Bool.not_true, Bool.false_eq_true, if_false]
  rw [hn]
  exact ⟨_, rfl, rfl, rfl, rfl⟩

theorem querySoundModel_of_nil (sm_info : SoundModelInfo M) {data : M}
    (h : sml.GetKeywordPhrases_ data = []) :
    querySoundModel sml sm_info data = some (sm_info, - EINVAL) := by
  unfold querySoundModel
  dsimp only
  rw [if_pos (by rw [h]; rfl)]

/-- The info of a merged model. -/
theorem queryNew_spec {data : M} (h : sml.GetKeywordPhrases_ data ≠ []) :
    ∃ sm_info, querySoundModel sml (SoundModelInfo.new.setModelData data (sml.size data)) data =
      some (sm_info, 0) ∧ sm_info.sm_data_ = some data ∧ sm_info.Holds sml data := by
  obtain ⟨sm_info, hquery, hdata, hsize, hkeyphrases⟩ :=
    querySoundModel_spec (SoundModelInfo.new.setModelData data (sml.size data)) h
  refine ⟨sm_info, hquery, hdata.trans ?_, hkeyphrases, h, hsize⟩
  exact if_neg (SoundModelLib.size_pos h).ne'

/-! ### The interface -/

namespace SVAInterface

variable {I : SVAInterface M}

/-- The model that is kept for a stream. -/
def modelOf (I : SVAInterface M) (s : StreamId) : Option M :=
  (I.getSoundModelInfo s).bind (·.sm_data_)

/-- The model of the engine. -/
def engineModel (I : SVAInterface M) : Option M := I.sound_model_info_.sm_data_

/-- The interface is one of a GMM engine, and every stream has an info, of the model it holds. -/
structure InfosHold (sml : SoundModelLib M) (I : SVAInterface M) : Prop where
  gmm : I.module_type_ = .ST_MODULE_TYPE_GMM
  infos : ∀ (s : StreamId) (i : sound_model_info M), I.sm_info_map_[s]? = some i →
    ∃ info : SoundModelInfo M, i.info = some info ∧
      ∀ m, info.sm_data_ = some m → info.Holds sml m

/-- The invariant of the interface: the engine has a model as soon as a stream has one, and a model
that is not merged is left with two streams at most. -/
structure Wf (sml : SoundModelLib M) (I : SVAInterface M) : Prop extends InfosHold sml I where
  engine : ∀ m, I.engineModel = some m → I.sound_model_info_.Holds sml m
  loaded : ∀ s, I.modelOf s ≠ none → I.engineModel ≠ none
  two : I.sm_merged_ = false → ∃ a b, ∀ s, I.modelOf s ≠ none → s = a ∨ s = b

theorem mem_othersWithModel {s t : StreamId} {info : SoundModelInfo M} :
    (t, info) ∈ I.othersWithModel s ↔
      t ≠ s ∧ I.getSoundModelInfo t = some info ∧ info.sm_data_.isSome := by
  unfold othersWithModel getSoundModelInfo
  rw [List.mem_filterMap]
  constructor
  · rintro ⟨⟨t', i⟩, hmem, hsome⟩
    have hget := Std.TreeMap.mem_toList_iff_getElem?_eq_some.mp hmem
    dsimp only at hsome
    split_ifs at hsome with hts
    obtain ⟨info', hinfo, heq⟩ := Option.map_eq_some_iff.mp hsome
    cases heq
    obtain ⟨hinfo, hdata⟩ := Option.filter_eq_some_iff.mp hinfo
    exact ⟨hts, by rw [hget]; exact hinfo, hdata⟩
  · rintro ⟨hts, hinfo, hdata⟩
    obtain ⟨i, hget, hinfo⟩ := Option.bind_eq_some_iff.mp hinfo
    refine ⟨(t, i), Std.TreeMap.mem_toList_iff_getElem?_eq_some.mpr hget, ?_⟩
    dsimp only
    rw [if_neg hts, hinfo, Option.filter_some, if_pos hdata]
    rfl

theorem othersWithModel_distinct (I : SVAInterface M) (s : StreamId) :
    (I.othersWithModel s).Pairwise fun a b => a.1 ≠ b.1 := by
  unfold othersWithModel
  refine List.Pairwise.filterMap _ ?_ Std.TreeMap.distinct_keys_toList
  rintro ⟨t, i⟩ ⟨t', i'⟩ hne a ha b hb
  dsimp only at ha hb
  split_ifs at ha hb
  obtain ⟨info, -, rfl⟩ := Option.map_eq_some_iff.mp ha
  obtain ⟨info', -, rfl⟩ := Option.map_eq_some_iff.mp hb
  rintro rfl
  exact hne (by simp)

theorem modelOf_ne_none {s : StreamId} {info : SoundModelInfo M}
    (hinfo : I.getSoundModelInfo s = some info) (hdata : info.sm_data_.isSome) :
    I.modelOf s ≠ none := by
  unfold modelOf
  rw [hinfo, Option.bind_some]
  exact Option.isSome_iff_ne_none.mp hdata

/-- A stream that has a model is among the others. -/
theorem exists_mem_othersWithModel {s t : StreamId} (hts : t ≠ s) (h : I.modelOf t ≠ none) :
    ∃ info, (t, info) ∈ I.othersWithModel s := by
  obtain ⟨m, hm⟩ := Option.ne_none_iff_exists'.mp h
  obtain ⟨info, hinfo, hdata⟩ := Option.bind_eq_some_iff.mp hm
  exact ⟨info, mem_othersWithModel.mpr ⟨hts, hinfo, by rw [hdata]; rfl⟩⟩

theorem othersWithModel_nil {s : StreamId} :
    I.othersWithModel s = [] ↔ ∀ t, t ≠ s → I.modelOf t = none := by
  constructor
  · intro h t hts
    by_contra hmodel
    obtain ⟨info, hmem⟩ := exists_mem_othersWithModel hts hmodel
    rw [h] at hmem
    exact List.not_mem_nil hmem
  · intro h
    rw [List.eq_nil_iff_forall_not_mem]
    rintro ⟨t, info⟩ hmem
    obtain ⟨hts, hinfo, hdata⟩ := mem_othersWithModel.mp hmem
    exact modelOf_ne_none hinfo hdata (h t hts)

/-- The only other stream that has a model. -/
theorem othersWithModel_single {s r : StreamId} {rem_st : SoundModelInfo M}
    (h : I.othersWithModel s = [(r, rem_st)]) :
    r ≠ s ∧ I.getSoundModelInfo r = some rem_st ∧ rem_st.sm_data_.isSome ∧
      ∀ t, t ≠ s → t ≠ r → I.modelOf t = none := by
  obtain ⟨hrs, hinfo, hdata⟩ := mem_othersWithModel.mp (h ▸ List.mem_singleton_self (r, rem_st))
  refine ⟨hrs, hinfo, hdata, fun t hts htr => ?_⟩
  by_contra hmodel
  obtain ⟨info, hmem⟩ := exists_mem_othersWithModel hts hmodel
  rw [h, List.mem_singleton] at hmem
  exact htr (congrArg Prod.fst hmem)

/-- Two others that have models leave no room for a model that is not merged. -/
theorem Wf.merged (hwf : I.Wf sml) {s : StreamId} (hs : I.modelOf s ≠ none)
    {a b : StreamId × SoundModelInfo M} {l : List (StreamId × SoundModelInfo M)}
    (h : I.othersWithModel s = a :: b :: l) : I.sm_merged_ = true := by
  have hab : a.1 ≠ b.1 := by
    have hdistinct := I.othersWithModel_distinct s
    rw [h] at hdistinct
    exact (List.pairwise_cons.mp hdistinct).1 b List.mem_cons_self
  obtain ⟨has, hainfo, hadata⟩ :=
    mem_othersWithModel.mp (show a ∈ I.othersWithModel s by rw [h]; simp)
  obtain ⟨hbs, hbinfo, hbdata⟩ :=
    mem_othersWithModel.mp (show b ∈ I.othersWithModel s by rw [h]; simp)
  by_contra hmerged
  obtain ⟨x, y, hxy⟩ := hwf.two (by simpa using hmerged)
  have hsxy := hxy s hs
  have haxy := hxy a.1 (modelOf_ne_none hainfo hadata)
  have hbxy := hxy b.1 (modelOf_ne_none hbinfo hbdata)
  grind

/-! ### What is changed for one stream -/

theorem getSoundModelInfo_setModelInfo {s : StreamId} {old : SoundModelInfo M}
    (hold : I.getSoundModelInfo s = some old) (info : SoundModelInfo M) (t : StreamId) :
    (I.setModelInfo s info).getSoundModelInfo t =
      if t = s then some info else I.getSoundModelInfo t := by
  obtain ⟨i, hget, -⟩ := Option.bind_eq_some_iff.mp hold
  unfold getSoundModelInfo setModelInfo
  dsimp only
  rw [Std.TreeMap.getElem?_modify]
  by_cases hts : t = s
  · subst hts
    simp [hget]
  · rw [if_neg hts, if_neg (by simpa using Ne.symm hts)]

theorem modelOf_setModelInfo {s : StreamId} {old : SoundModelInfo M}
    (hold : I.getSoundModelInfo s = some old) (info : SoundModelInfo M) :
    (I.setModelInfo s info).modelOf = Function.update I.modelOf s info.sm_data_ := by
  funext t
  unfold modelOf
  rw [getSoundModelInfo_setModelInfo hold, Function.update_apply]
  split_ifs
  · rfl
  · rfl

theorem InfosHold.setModelInfo (h : I.InfosHold sml) (s : StreamId) {info : SoundModelInfo M}
    (hinfo : ∀ m, info.sm_data_ = some m → info.Holds sml m) :
    (I.setModelInfo s info).InfosHold sml where
  gmm := h.gmm
  infos t i hi := by
    unfold SVAInterface.setModelInfo at hi
    rw [Std.TreeMap.getElem?_modify] at hi
    split_ifs at hi
    · obtain ⟨i', -, rfl⟩ := Option.map_eq_some_iff.mp hi
      exact ⟨info, rfl, hinfo⟩
    · exact h.infos t i hi

/-- Levels of a stream that are set in a merged model leave the model. -/
theorem updateMergeConfLevelsPayload_same (hmerged : I.sm_merged_ = true)
    (src_sm_info : SoundModelInfo M) (set : Bool) :
    ∃ eng status, I.sound_model_info_.SameButLevels eng ∧
      I.updateMergeConfLevelsPayload src_sm_info set =
        ({ I with sound_model_info_ := eng }, status) := by
  unfold updateMergeConfLevelsPayload
  rw [if_neg (by simp [hmerged])]
  split_ifs with hsize
  · exact ⟨_, _, .refl _, rfl⟩
  · refine ⟨_, _, ?_, rfl⟩
    unfold mergeLevels
    refine SoundModelInfo.same_foldl (fun eng entry => ?_) _ _
    refine SoundModelInfo.same_foldl (fun eng engEntry => ?_) _ _
    dsimp only
    split_ifs
    · exact eng.same_updateConfLevel _ _
    · exact eng.same_updateConfLevel _ _
    · exact .refl eng

/-- The levels of the active streams are all that is changed after a merge. -/
theorem updateActive_same (streams : List (StreamId × sound_model_info M)) :
    ∀ {I : SVAInterface M}, I.sm_merged_ = true →
      ∃ eng status, I.sound_model_info_.SameButLevels eng ∧
        updateActive streams I = ({ I with sound_model_info_ := eng }, status) := by
  induction streams with
  | nil => exact fun {I} _ => ⟨_, _, .refl _, rfl⟩
  | cons stream streams ih =>
    obtain ⟨t, i⟩ := stream
    intro I hmerged
    unfold updateActive
    split_ifs
    swap
    · exact ih hmerged
    rcases i.info with _ | info
    · exact ⟨_, _, .refl _, rfl⟩
    obtain ⟨eng, status, hsame, hpayload⟩ := updateMergeConfLevelsPayload_same hmerged info true
    dsimp only
    rw [hpayload]
    dsimp only
    split_ifs
    · exact ⟨_, _, hsame, rfl⟩
    · obtain ⟨eng', status', hsame', hrest⟩ := ih (I := { I with sound_model_info_ := eng }) hmerged
      exact ⟨eng', status', hsame.trans hsame', hrest⟩

/-! ### Registering and detaching -/

theorem modelOf_of_not_mem {s : StreamId} (h : s ∉ I.sm_info_map_) : I.modelOf s = none := by
  unfold modelOf getSoundModelInfo
  rw [Std.TreeMap.getElem?_eq_none h]
  rfl

theorem modelOf_registerModel {s : StreamId} (h : s ∉ I.sm_info_map_)
    (type : pal_st_sound_model_type_t) (model_list : List (sound_model_data_t M)) :
    (I.registerModel s type model_list).modelOf = I.modelOf := by
  funext t
  by_cases hts : t = s
  · subst hts
    rw [modelOf_of_not_mem h]
    unfold modelOf getSoundModelInfo registerModel
    rw [setInfo_getElem?_self]
    rfl
  · unfold modelOf getSoundModelInfo registerModel
    rw [setInfo_getElem?_of_ne _ (Ne.symm hts)]

theorem Wf.registerModel (hwf : I.Wf sml) {s : StreamId} (h : s ∉ I.sm_info_map_)
    (type : pal_st_sound_model_type_t) (model_list : List (sound_model_data_t M)) :
    (I.registerModel s type model_list).Wf sml where
  gmm := hwf.gmm
  infos t i hi := by
    by_cases hts : t = s
    · subst hts
      unfold SVAInterface.registerModel at hi
      rw [setInfo_getElem?_self] at hi
      cases hi
      exact ⟨_, rfl, fun m hm => by cases hm⟩
    · unfold SVAInterface.registerModel at hi
      rw [setInfo_getElem?_of_ne _ (Ne.symm hts)] at hi
      exact hwf.infos t i hi
  engine := hwf.engine
  loaded := modelOf_registerModel h type model_list ▸ hwf.loaded
  two := modelOf_registerModel h type model_list ▸ hwf.two

theorem modelOf_detachStream (I : SVAInterface M) (s : StreamId) :
    (I.detachStream s).modelOf = Function.update I.modelOf s none := by
  funext t
  unfold modelOf getSoundModelInfo detachStream deregisterModel
  rw [Std.TreeMap.getElem?_erase, Function.update_apply]
  by_cases hts : t = s
  · subst hts
    simp
  · rw [if_neg (by simpa using Ne.symm hts), if_neg hts]

theorem Wf.detachStream (hwf : I.Wf sml) (s : StreamId) : (I.detachStream s).Wf sml := by
  have hmodel : ∀ t, (I.detachStream s).modelOf t ≠ none → I.modelOf t ≠ none := by
    intro t ht
    rw [modelOf_detachStream, Function.update_apply] at ht
    split_ifs at ht
    · exact absurd rfl ht
    · exact ht
  refine ⟨⟨hwf.gmm, fun t i hi => ?_⟩, hwf.engine, fun t ht => hwf.loaded t (hmodel t ht),
    fun hmerged => ?_⟩
  · unfold SVAInterface.detachStream deregisterModel at hi
    rw [Std.TreeMap.getElem?_erase] at hi
    split_ifs at hi
    exact hwf.infos t i hi
  · obtain ⟨a, b, hab⟩ := hwf.two hmerged
    exact ⟨a, b, fun t ht => hab t (hmodel t ht)⟩

/-! ### Adding -/

/-- Behind a new engine model the invariant holds. -/
theorem InfosHold.wf (h : I.InfosHold sml) {eng : SoundModelInfo M} {m : M}
    (hdata : eng.sm_data_ = some m) (heng : eng.Holds sml m) {merged : Bool}
    (htwo : merged = false → ∃ a b, ∀ s, I.modelOf s ≠ none → s = a ∨ s = b)
    (wakeup_config_ : detection_engine_config_voice_wakeup) :
    Wf sml { I with sound_model_info_ := eng, wakeup_config_, sm_merged_ := merged } where
  gmm := h.gmm
  infos := h.infos
  engine m' hm' := by
    obtain rfl : m = m' := Option.some.inj (hdata.symm.trans hm')
    exact heng
  loaded _ _ := by
    show eng.sm_data_ ≠ none
    rw [hdata]
    exact Option.some_ne_none m
  two := htwo

/-- What `addSoundModel` makes of the interface. -/
inductive Added (sml : SoundModelLib M) (I I' : SVAInterface M) (s : StreamId) (data : M) : Prop where
  | already (h : I.modelOf s ≠ none) (hI : I' = I)
  | refused (h : I.modelOf s = none) (hnil : sml.GetKeywordPhrases_ data = [])
    (hmodel : I'.modelOf = I.modelOf) (heng : I'.engineModel = I.engineModel)
  | alone (h : I.modelOf s = none) (hothers : ∀ t, t ≠ s → I.modelOf t = none)
    (hmodel : I'.modelOf = Function.update I.modelOf s (some data))
    (heng : I'.engineModel = some data)
  | merged (h : I.modelOf s = none)
    (hmodel : I'.modelOf = Function.update I.modelOf s (some data)) (in_model : M)
    (hin : I.engineModel = some in_model)
    (heng : I'.engineModel = some (sml.MergeModels_ in_model data))

/-- A merge with a model that has keyphrases is taken, whatever it is merged with. -/
theorem mergeSoundModels_spec (in_model : M) {data : M} (h : sml.GetKeywordPhrases_ data ≠ []) :
    mergeSoundModels sml in_model data =
        some (sml.MergeModels_ in_model data, sml.size (sml.MergeModels_ in_model data)) ∧
      sml.GetKeywordPhrases_ (sml.MergeModels_ in_model data) ≠ [] ∧
        sml.size in_model ≤ sml.size (sml.MergeModels_ in_model data) := by
  have hne : sml.GetKeywordPhrases_ (sml.MergeModels_ in_model data) ≠ [] := by
    obtain ⟨kw, hkw⟩ := List.exists_mem_of_ne_nil _ h
    exact List.ne_nil_of_mem ((sml.mem_merge in_model data kw).mpr (Or.inr hkw))
  refine ⟨if_neg (SoundModelLib.size_pos hne).ne', hne, sml.size_le _ _ fun kw hkw => ?_⟩
  exact (sml.mem_merge in_model data kw).mpr (Or.inl hkw)

/-- **Adding**, for a stream that is registered. -/
theorem addSoundModel_spec (hwf : I.Wf sml) {s : StreamId} {info : SoundModelInfo M}
    (hinfo : I.getSoundModelInfo s = some info) (data : M) :
    ∃ I' status, I.addSoundModel sml s data = some (I', status) ∧ I'.Wf sml ∧
      Added sml I I' s data := by
  unfold addSoundModel
  rw [hinfo, Option.bind_some]
  by_cases hdata : info.sm_data_.isSome
  · rw [if_pos hdata]
    exact ⟨I, _, rfl, hwf, .already (modelOf_ne_none hinfo hdata) rfl⟩
  rw [if_neg hdata]
  have hnone : info.sm_data_ = none := by simpa using hdata
  have hmodelOf : I.modelOf s = none := by
    unfold modelOf
    rw [hinfo, Option.bind_some, hnone]
  by_cases hnil : sml.GetKeywordPhrases_ data = []
  · -- the query refuses the model, and the info stays
    rw [querySoundModel_of_nil info hnil, Option.bind_some]
    have hmodel : (I.setModelInfo s info).modelOf = I.modelOf := by
      rw [modelOf_setModelInfo hinfo, hnone, ← hmodelOf, Function.update_eq_self]
    refine ⟨I.setModelInfo s info, _, if_pos (by decide), ?_, .refused hmodelOf hnil hmodel rfl⟩
    have hinfos : (I.setModelInfo s info).InfosHold sml :=
      hwf.toInfosHold.setModelInfo s fun m hm => by
        rw [hnone] at hm
        cases hm
    exact ⟨hinfos, hwf.engine, hmodel ▸ hwf.loaded, hmodel ▸ hwf.two⟩
  obtain ⟨info', hquery, -, -, hkeyphrases⟩ := querySoundModel_spec info hnil
  rw [hquery, Option.bind_some]
  dsimp only
  rw [if_neg (not_not.mpr rfl)]
  obtain ⟨own, hown⟩ : ∃ own, info'.setModelData data (sml.size data) = own := ⟨_, rfl⟩
  have hset : own.sm_data_ = some data := by
    rw [← hown]
    exact if_neg (SoundModelLib.size_pos hnil).ne'
  have hholds : own.Holds sml data := by
    rw [← hown]
    exact ⟨hkeyphrases, hnil, rfl⟩
  rw [hown]
  have hinfos : (I.setModelInfo s own).InfosHold sml :=
    hwf.toInfosHold.setModelInfo s fun m hm => Option.some.inj (hset.symm.trans hm) ▸ hholds
  have hmodel : (I.setModelInfo s own).modelOf = Function.update I.modelOf s (some data) := by
    rw [modelOf_setModelInfo hinfo, hset]
  have heng : (I.setModelInfo s own).sound_model_info_ = I.sound_model_info_ := rfl
  obtain ⟨J, hJ⟩ : ∃ J, I.setModelInfo s own = J := ⟨_, rfl⟩
  rw [hJ] at hinfos hmodel heng ⊢
  have hothers : (J.othersWithModel s).length = 0 ↔ ∀ t, t ≠ s → I.modelOf t = none := by
    rw [List.length_eq_zero_iff, othersWithModel_nil]
    refine forall₂_congr fun t hts => ?_
    rw [hmodel, Function.update_of_ne hts]
  by_cases halone : ∀ t, t ≠ s → I.modelOf t = none
  · rw [if_pos (hothers.mpr halone)]
    refine ⟨_, _, rfl, ?_, .alone hmodelOf halone hmodel hset⟩
    refine hinfos.wf hset hholds (fun _ => ⟨s, s, fun t ht => ?_⟩) J.wakeup_config_
    by_contra hts
    rw [hmodel, Function.update_of_ne fun h => hts (Or.inl h)] at ht
    exact ht (halone t fun h => hts (Or.inl h))
  rw [if_neg (mt hothers.mp halone)]
  -- another stream has a model, so the engine has one
  obtain ⟨t, hts, ht⟩ : ∃ t, t ≠ s ∧ I.modelOf t ≠ none := by
    simpa only [not_forall, exists_prop] using halone
  obtain ⟨in_model, hin⟩ := Option.ne_none_iff_exists'.mp (hwf.loaded t ht)
  obtain ⟨hmerge, hne, hle⟩ := mergeSoundModels_spec in_model hnil
  obtain ⟨sm_info, hquery', hdata', hholds'⟩ := queryNew_spec hne
  have hsize : I.sound_model_info_.sm_size_ = sml.size in_model := (hwf.engine in_model hin).size
  have hindata : I.sound_model_info_.sm_data_ = some in_model := hin
  rw [heng, hindata]
  dsimp only
  rw [hmerge]
  dsimp only
  rw [hquery', Option.map_some]
  dsimp only
  rw [if_neg (not_not.mpr rfl), hsize, if_neg (by omega)]
  obtain ⟨eng, status, hsame, hupdate⟩ := updateActive_same J.sm_info_map_.toList
    (I := { J with sound_model_info_ := sm_info, sm_merged_ := true }) rfl
  have hengdata : eng.sm_data_ = some (sml.MergeModels_ in_model data) :=
    hsame.sm_data_.trans hdata'
  refine ⟨_, status, congrArg some hupdate, ?_, .merged hmodelOf hmodel in_model hin hengdata⟩
  exact hinfos.wf hengdata (hholds'.of_same hsame) (fun h => Bool.noConfusion h) J.wakeup_config_

/-! ### Deleting -/

/-- The keyphrases of a model can be deleted from the engine's: the first one is there, and something
is left. -/
def Deletable (sml : SoundModelLib M) (I : SVAInterface M) (model : M) : Prop :=
  (∃ kw, (sml.GetKeywordPhrases_ model).head? = some kw ∧ kw ∈ sml.phrases I.engineModel) ∧
    ¬ sml.phrases I.engineModel ⊆ sml.phrases (some model)

/-- What `deleteSoundModel` makes of the interface. -/
inductive Deleted (sml : SoundModelLib M) (I I' : SVAInterface M) (s : StreamId) : Prop where
  | already (h : I.modelOf s = none) (hI : I' = I)
  | last (h : I.modelOf s ≠ none) (hothers : I.othersWithModel s = []) (hI : I' = I)
  | one (h : I.modelOf s ≠ none) (r : StreamId) (rem_st : SoundModelInfo M)
    (hothers : I.othersWithModel s = [(r, rem_st)])
    (hfits : rem_st.cf_levels_size_ ≤ PAL_SOUND_TRIGGER_MAX_USERS)
    (hmodel : I'.modelOf = I.modelOf) (heng : I'.engineModel = rem_st.sm_data_)
  | taken (model : M) (h : I.modelOf s = some model)
    (hothers : ∃ a b l, I.othersWithModel s = a :: b :: l) (hdel : I.Deletable sml model) (hmodel : I'.modelOf = I.modelOf)
    (heng : sml.phrases I'.engineModel =
      sml.phrases I.engineModel \ sml.phrases (some model))
  | kept (model : M) (h : I.modelOf s = some model)
    (hothers : ∃ a b l, I.othersWithModel s = a :: b :: l) (hdel : ¬ I.Deletable sml model) (hI : I' = I)

/-- A stream with a model and its info. -/
theorem Wf.holds (hwf : I.Wf sml) {s : StreamId} {info : SoundModelInfo M}
    (hinfo : I.getSoundModelInfo s = some info) {m : M} (hm : info.sm_data_ = some m) :
    info.Holds sml m := by
  obtain ⟨i, hi, hinfo⟩ := Option.bind_eq_some_iff.mp hinfo
  obtain ⟨info', hinfo', hholds⟩ := hwf.infos s i hi
  cases hinfo.symm.trans hinfo'
  exact hholds m hm

/-- The keyphrases of a stream are deleted from the model of the engine. -/
theorem deleteMerged_spec (hwf : I.Wf sml) {s : StreamId} {info : SoundModelInfo M} {model in_model : M}
    (hmodel : I.modelOf s = some model) (hholds : info.Holds sml model)
    (hin : I.engineModel = some in_model) (hothers : ∃ a b l, I.othersWithModel s = a :: b :: l) :
    ∃ I' status, I.deleteMerged sml info.keyphrases_ in_model = some (I', status) ∧
      I'.Wf sml ∧ Deleted sml I I' s := by
  obtain ⟨kw, keyphrases, hkeyphrases⟩ := List.exists_cons_of_ne_nil hholds.nonempty
  have hhead : ∀ kw', (sml.GetKeywordPhrases_ model).head? = some kw' → kw' = kw := by
    intro kw' h
    rw [hkeyphrases] at h
    exact (Option.some.inj h).symm
  unfold deleteMerged
  rw [hholds.keyphrases, hkeyphrases]
  rcases deleteFromMergedModel_spec sml in_model kw keyphrases with
    ⟨hkw, hdelete⟩ | ⟨hkw, out, hdelete, hsize, hmem⟩
  · rw [hdelete]
    refine ⟨I, _, rfl, hwf, .kept model hmodel hothers ?_ rfl⟩
    rintro ⟨⟨kw', hkw', hengine⟩, -⟩
    rw [hin, SoundModelLib.mem_phrases_some, hhead kw' hkw'] at hengine
    exact hkw hengine
  rw [hdelete]
  dsimp only
  rw [← hkeyphrases] at hmem
  by_cases hnil : sml.GetKeywordPhrases_ out = []
  · rw [querySoundModel_of_nil _ hnil, Option.map_some]
    dsimp only
    rw [if_pos (by decide)]
    refine ⟨I, _, rfl, hwf, .kept model hmodel hothers ?_ rfl⟩
    rintro ⟨-, hleft⟩
    refine hleft fun kw' hkw' => ?_
    rw [hin, SoundModelLib.mem_phrases_some] at hkw'
    rw [SoundModelLib.mem_phrases_some]
    by_contra hout
    have hout := (hmem kw').mpr ⟨hkw', hout⟩
    rw [hnil] at hout
    exact List.not_mem_nil hout
  obtain ⟨sm_info, hquery, hdata, hholds'⟩ := queryNew_spec hnil
  rw [hquery, Option.map_some]
  dsimp only
  have hengsize : I.sound_model_info_.sm_size_ = sml.size in_model := (hwf.engine in_model hin).size
  rw [if_neg (not_not.mpr rfl), hengsize, if_neg (by omega)]
  obtain ⟨eng, status, hsame, hupdate⟩ := updateActive_same I.sm_info_map_.toList
    (I := { I with sound_model_info_ := sm_info, sm_merged_ := true }) rfl
  have hengdata : eng.sm_data_ = some out := hsame.sm_data_.trans hdata
  refine ⟨_, status, congrArg some hupdate, ?_, .taken model hmodel hothers ⟨?_, ?_⟩ rfl ?_⟩
  · exact hwf.toInfosHold.wf hengdata (hholds'.of_same hsame) (fun h => Bool.noConfusion h)
      I.wakeup_config_
  · refine ⟨kw, by rw [hkeyphrases]; rfl, ?_⟩
    rw [hin, SoundModelLib.mem_phrases_some]
    exact hkw
  · intro hsub
    obtain ⟨kw', hkw'⟩ := List.exists_mem_of_ne_nil _ hnil
    obtain ⟨hin', hout⟩ := (hmem kw').mp hkw'
    refine hout (SoundModelLib.mem_phrases_some.mp (hsub ?_))
    rw [hin, SoundModelLib.mem_phrases_some]
    exact hin'
  · show sml.phrases eng.sm_data_ = _
    rw [hengdata, hin]
    ext kw'
    rw [Set.mem_sdiff, SoundModelLib.mem_phrases_some, SoundModelLib.mem_phrases_some,
      SoundModelLib.mem_phrases_some]
    exact hmem kw'

/-- **Deleting**, for a stream that is registered: undefined where the levels of the only other stream
that has a model are more than the wakeup config has. -/
theorem deleteSoundModel_spec (hwf : I.Wf sml) {s : StreamId} {info : SoundModelInfo M}
    (hinfo : I.getSoundModelInfo s = some info) :
    (∃ r rem_st, I.othersWithModel s = [(r, rem_st)] ∧
        PAL_SOUND_TRIGGER_MAX_USERS < rem_st.cf_levels_size_ ∧
        I.deleteSoundModel sml s = none) ∨
      ∃ I' status, I.deleteSoundModel sml s = some (I', status) ∧ I'.Wf sml ∧
        Deleted sml I I' s := by
  unfold deleteSoundModel
  rw [hinfo, Option.bind_some]
  rcases hdata : info.sm_data_ with _ | model
  · have hmodel : I.modelOf s = none := by
      unfold modelOf
      rw [hinfo, Option.bind_some, hdata]
    exact Or.inr ⟨I, _, if_pos rfl, hwf, .already hmodel rfl⟩
  have hmodel : I.modelOf s = some model := by
    unfold modelOf
    rw [hinfo, Option.bind_some, hdata]
  have hne : I.modelOf s ≠ none := by
    rw [hmodel]
    exact Option.some_ne_none model
  rw [if_neg (by simp)]
  rcases hothers : I.othersWithModel s with _ | ⟨⟨r, rem_st⟩, _ | ⟨b, l⟩⟩
  · exact Or.inr ⟨I, _, rfl, hwf, .last hne hothers rfl⟩
  · -- the model of the only other stream is taken
    obtain ⟨hrs, hrem, hremdata, honly⟩ := othersWithModel_single hothers
    obtain ⟨m, hm⟩ := Option.isSome_iff_exists.mp hremdata
    dsimp only
    unfold reuseWakeupConfig
    split_ifs with hfits
    · refine Or.inr ⟨_, _, rfl, ?_, .one hne r rem_st hothers hfits rfl rfl⟩
      refine hwf.toInfosHold.wf hm (hwf.holds hrem hm) (fun _ => ⟨s, r, fun t ht => ?_⟩) _
      by_contra htwo
      rw [not_or] at htwo
      exact ht (honly t htwo.1 htwo.2)
    · exact Or.inl ⟨r, rem_st, rfl, by omega, rfl⟩
  · obtain ⟨in_model, hin⟩ := Option.ne_none_iff_exists'.mp (hwf.loaded s hne)
    have hmerged := hwf.merged hne hothers
    have hindata : I.sound_model_info_.sm_data_ = some in_model := hin
    dsimp only
    rw [hmerged, hindata]
    dsimp only
    exact Or.inr (deleteMerged_spec hwf hmodel (hwf.holds hinfo hdata) hin ⟨_, b, l, hothers⟩)

end SVAInterface

end AudioReachPal.Sva
