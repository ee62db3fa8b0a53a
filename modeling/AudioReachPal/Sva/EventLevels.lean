import AudioReachPal.Sva.ConfLevels
import AudioReachPal.Sva.EventFormat

/-!
# Detection levels of an event

`packEventConfLevels` reads the detection levels of a GMM stream at the keyword numbers and the user
ids of the cached config. The array has an entry for each level of the sound model, and the check in
front of a read lets the index behind the last one through; the structure of version 2 also logs
what it reads, without a check. So the config must not be larger than the sound model
(`packEventConfLevels_inside_iff`), which is what `updateConfLevelArray` checks.
-/

namespace AudioReachPal.Sva

variable {M : Type}

/-! ### The reads -/

/-- The reads of `info->GetDetConfLevels()` for index `j`: behind its check, and for the log of
version 2. -/
def detReads (version size j : ℕ) : List ℕ :=
  (if j ≤ size then [j] else []) ++ if version ≠ CONF_LEVELS_INTF_VERSION_0002 then [] else [j]

/-- The keywords in use. -/
def st_sound_model_conf_levels.keywordsUsed (sm : st_sound_model_conf_levels) :
    List st_keyword_levels :=
  sm.kw_levels.toList.take sm.num_kw_levels

/-- The users in use. -/
def st_keyword_levels.usersUsed (kw : st_keyword_levels) : List st_user_levels :=
  kw.user_levels.toList.take kw.num_user_levels

/-- The user ids of a model. -/
def st_sound_model_conf_levels.userIds (sm : st_sound_model_conf_levels) : List ℕ :=
  sm.keywordsUsed.flatMap fun kw => kw.usersUsed.map (·.user_id)

/-- The reads for a first stage model: the loops over its keywords and their users. -/
def st_sound_model_conf_levels.detReads (sm : st_sound_model_conf_levels) (version size : ℕ) :
    List ℕ :=
  sm.keywordsUsed.zipIdx.flatMap fun (kw, j) =>
    Sva.detReads version size j ++
      kw.usersUsed.flatMap fun user => Sva.detReads version size user.user_id

/-- The reads of `packEventConfLevels`. -/
def st_confidence_levels_info.detReads (c : st_confidence_levels_info) (version size : ℕ) :
    List ℕ :=
  c.used.flatMap fun sm =>
    if sm.sm_id = ST_SM_ID_SVA_F_STAGE_GMM then sm.detReads version size else []

/-- `updateConfLevelArray`, whose result `SetModelState` drops. -/
def SoundModelInfo.updateConfLevelArray (info : SoundModelInfo M) (conf_levels : Option (List ℕ)) :
    SoundModelInfo M × ℤ :=
  match conf_levels with
  | none => (info, - EINVAL)
  | some conf_levels =>
    if info.cf_levels_size_ < conf_levels.length then (info, - EINVAL)
    else ({ info with
      cf_levels_ := conf_levels ++ info.cf_levels_.drop conf_levels.length }, 0)

/-! ### What is right -/

/-- The detection levels as `setConfLevels` allocates them: a byte for each entry. -/
structure SoundModelInfo.HasDetLevels (info : SoundModelInfo M) : Prop where
  size : info.det_cf_levels_.length = info.cf_levels_size_
  bytes : ∀ level ∈ info.det_cf_levels_, level < 2 ^ 8

/-- `level` is the detection level of entry `j`. -/
def SoundModelInfo.IsDetLevel (info : SoundModelInfo M) (j : ℕ) (level : ℤ) : Prop :=
  ∃ det_level, info.det_cf_levels_[j]? = some det_level ∧ level = det_level

/-- The entries of a first stage model that are filled carry the detection levels of their index. -/
def st_sound_model_conf_levels.Carries (sm : st_sound_model_conf_levels) (info : SoundModelInfo M) :
    Prop :=
  ∀ j kw, sm.keywordsUsed[j]? = some kw →
    (j ≤ info.cf_levels_size_ → info.IsDetLevel j kw.kw_level) ∧
      ∀ user ∈ kw.usersUsed, user.user_id ≤ info.cf_levels_size_ →
        info.IsDetLevel user.user_id user.level

/-- `packEventConfLevels` reads inside the array and fills with what it should. -/
structure PackedInside (past : ℕ) (sm_info : sound_model_info M) (info : SoundModelInfo M)
    (c : st_confidence_levels_info) : Prop where
  reads : ∀ j ∈ c.detReads sm_info.conf_levels_intf_version info.cf_levels_size_,
    j < info.cf_levels_size_
  packed : ∃ packed, packEventConfLevels past sm_info c = some packed ∧
    ∀ sm ∈ packed.used, sm.sm_id = ST_SM_ID_SVA_F_STAGE_GMM → sm.Carries info

/-- The model of a config is not larger than the sound model: its keywords are entries, and its user
ids are entries or, before version 2, lie behind the index that the check lets through. -/
def st_sound_model_conf_levels.Inside (sm : st_sound_model_conf_levels) (version size : ℕ) : Prop :=
  sm.num_kw_levels ≤ size ∧
    ∀ id ∈ sm.userIds, if version ≠ CONF_LEVELS_INTF_VERSION_0002 then id ≠ size else id < size

/-! ### The reads of a model -/

theorem detReads_inside_iff (version size j : ℕ) : (∀ k ∈ detReads version size j, k < size) ↔
    if version ≠ CONF_LEVELS_INTF_VERSION_0002 then j ≠ size else j < size := by
  unfold detReads
  split_ifs with hle hv hv
  · simp only [List.append_nil, List.forall_mem_singleton]
    omega
  · simp
  · simp only [List.append_nil, List.not_mem_nil, false_implies, implies_true, true_iff]
    omega
  · simp

theorem keywordsUsed_length {sm : st_sound_model_conf_levels} (h : sm.Fits) :
    sm.keywordsUsed.length = sm.num_kw_levels := by
  unfold st_sound_model_conf_levels.keywordsUsed
  rw [List.length_take, Vector.length_toList]
  exact Nat.min_eq_left h.1

/-- **The reads of a model** lie inside exactly where it is not larger than the sound model. -/
theorem modelReads_inside_iff {sm : st_sound_model_conf_levels} (h : sm.Fits) (version size : ℕ) :
    (∀ k ∈ sm.detReads version size, k < size) ↔ sm.Inside version size := by
  have hlen := keywordsUsed_length h
  constructor
  · intro hreads
    refine ⟨?_, ?_⟩
    · -- keyword `size`, where there is one, is read at the index behind the array
      by_contra hlt
      have hin : size < sm.keywordsUsed.length := by omega
      have hread : size ∈ detReads version size size := by simp [detReads]
      refine Nat.lt_irrefl size (hreads size (List.mem_flatMap.mpr ⟨(sm.keywordsUsed[size], size),
        ?_, List.mem_append_left _ hread⟩))
      exact List.mk_mem_zipIdx_iff_getElem?.mpr (List.getElem?_eq_getElem hin)
    · intro id hid
      obtain ⟨kw, hkw, hid⟩ := List.mem_flatMap.mp hid
      obtain ⟨user, huser, rfl⟩ := List.mem_map.mp hid
      obtain ⟨j, hj⟩ := List.mem_iff_getElem?.mp hkw
      refine (detReads_inside_iff version size user.user_id).mp fun k hk => hreads k ?_
      exact List.mem_flatMap.mpr ⟨(kw, j), List.mk_mem_zipIdx_iff_getElem?.mpr hj,
        List.mem_append_right _ (List.mem_flatMap.mpr ⟨user, huser, hk⟩)⟩
  · rintro ⟨hkws, hids⟩ k hk
    obtain ⟨⟨kw, j⟩, hmem, hk⟩ := List.mem_flatMap.mp hk
    have hj := List.mk_mem_zipIdx_iff_getElem?.mp hmem
    rcases List.mem_append.mp hk with hk | hk
    · have hlt : j < size := by
        have := (List.getElem?_eq_some_iff.mp hj).1
        omega
      refine (detReads_inside_iff version size j).mpr ?_ k hk
      split_ifs <;> omega
    · obtain ⟨user, huser, hk⟩ := List.mem_flatMap.mp hk
      refine (detReads_inside_iff version size user.user_id).mpr (hids _ ?_) k hk
      exact List.mem_flatMap.mpr ⟨kw, List.mem_of_getElem? hj, List.mem_map.mpr ⟨user, huser, rfl⟩⟩

/-! ### What is filled -/

theorem storedLevel_of_byte {level : ℕ} (h : level < 2 ^ 8) (version : ℕ) :
    storedLevel version level = level := by
  unfold storedLevel Lib.int32
  split_ifs <;> omega

theorem detLevel_eq {info : SoundModelInfo M} (h : info.HasDetLevels) (past : ℕ) {j : ℕ}
    (hj : j < info.cf_levels_size_) : ∃ level, info.detLevel past j = some level ∧
      ∀ version, info.IsDetLevel j (storedLevel version level) := by
  have hin : j < info.det_cf_levels_.length := by
    rw [h.size]
    exact hj
  have hat : info.det_cf_levels_[j]? = some info.det_cf_levels_[j] := List.getElem?_eq_getElem hin
  refine ⟨info.det_cf_levels_[j], ?_, fun version => ⟨_, hat, ?_⟩⟩
  · unfold SoundModelInfo.detLevel
    rw [if_pos (Nat.le_of_lt hj), hat]
    rfl
  · exact storedLevel_of_byte (h.bytes _ (List.getElem_mem hin)) version

/-- A keyword of a first stage model that is filled, with its index. -/
def st_keyword_levels.packFirstStage (kw : st_keyword_levels) (version past : ℕ)
    (info : SoundModelInfo M) (j : ℕ) : st_keyword_levels :=
  { kw with
    kw_level :=
      match info.detLevel past j with
      | some level => storedLevel version level
      | none => kw.kw_level
    user_levels := kw.user_levels.mapIdx fun k user =>
      if k < kw.num_user_levels then
        match info.detLevel past user.user_id with
        | some level => { user with level := storedLevel version level }
        | none => user
      else user }

theorem keywordsUsed_packFirstStage (sm : st_sound_model_conf_levels) (version past : ℕ)
    (info : SoundModelInfo M) (j : ℕ) :
    (sm.packFirstStage version past info).keywordsUsed[j]? =
      sm.keywordsUsed[j]?.map fun kw => kw.packFirstStage version past info j := by
  show ((sm.kw_levels.mapIdx _).toList.take sm.num_kw_levels)[j]? =
    (sm.kw_levels.toList.take sm.num_kw_levels)[j]?.map _
  rw [Vector.toList_mapIdx, List.getElem?_take, List.getElem?_take]
  split_ifs with hj
  · rw [List.getElem?_mapIdx]
    refine Option.map_congr fun kw _ => ?_
    rw [if_pos hj]
    rfl
  · rfl

theorem usersUsed_packFirstStage (kw : st_keyword_levels) (version past : ℕ)
    (info : SoundModelInfo M) (j : ℕ) :
    (kw.packFirstStage version past info j).usersUsed = kw.usersUsed.map fun user =>
      match info.detLevel past user.user_id with
      | some level => { user with level := storedLevel version level }
      | none => user := by
  show (kw.user_levels.mapIdx _).toList.take kw.num_user_levels = _
  rw [Vector.toList_mapIdx]
  exact take_mapIdx_lt _ id _ _

/-- **Filling a model** that is not larger than the sound model. -/
theorem packFirstStage_carries {sm : st_sound_model_conf_levels} (hfits : sm.Fits)
    {info : SoundModelInfo M} (h : info.HasDetLevels) {version : ℕ}
    (hinside : sm.Inside version info.cf_levels_size_) (past : ℕ) :
    (sm.packFirstStage version past info).Carries info := by
  have hlen := keywordsUsed_length hfits
  intro j packed hpacked
  rw [keywordsUsed_packFirstStage] at hpacked
  obtain ⟨kw, hkw, rfl⟩ := Option.map_eq_some_iff.mp hpacked
  refine ⟨fun _ => ?_, ?_⟩
  · have hin := (List.getElem?_eq_some_iff.mp hkw).1
    obtain ⟨level, hlevel, hdet⟩ := detLevel_eq h past (j := j) (by have := hinside.1; omega)
    show info.IsDetLevel j (match info.detLevel past j with
      | some level => storedLevel version level
      | none => kw.kw_level)
    rw [hlevel]
    exact hdet version
  · intro user huser hle
    rw [usersUsed_packFirstStage] at huser
    obtain ⟨user₀, hmem, rfl⟩ := List.mem_map.mp huser
    have hid := hinside.2 user₀.user_id (List.mem_flatMap.mpr ⟨kw, List.mem_of_getElem? hkw,
      List.mem_map.mpr ⟨user₀, hmem, rfl⟩⟩)
    have hsame : ∀ found : Option ℕ, (match found with
        | some level => { user₀ with level := storedLevel version level }
        | none => user₀).user_id = user₀.user_id := by
      intro found
      cases found <;> rfl
    rw [hsame] at hle ⊢
    obtain ⟨level, hlevel, hdet⟩ := detLevel_eq h past (j := user₀.user_id) (by
      split_ifs at hid <;> omega)
    rw [hlevel]
    exact hdet version

/-! ### Ids of the cached config -/

theorem ids_keywordsUsed (sm : st_sound_model_conf_levels) :
    sm.ids.keywordsUsed = sm.keywordsUsed.map (·.ids) := by
  show (sm.kw_levels.mapIdx _).toList.take sm.num_kw_levels = _
  rw [Vector.toList_mapIdx]
  exact take_mapIdx_lt _ _ _ _

theorem ids_userIds (sm : st_sound_model_conf_levels) : sm.ids.userIds = sm.userIds := by
  have husers : ∀ kw : st_keyword_levels,
      kw.ids.usersUsed.map (·.user_id) = kw.usersUsed.map (·.user_id) := by
    intro kw
    have hmap : kw.ids.usersUsed = kw.usersUsed.map fun user => ⟨user.user_id, 0⟩ := by
      show (kw.user_levels.mapIdx _).toList.take kw.num_user_levels = _
      rw [Vector.toList_mapIdx]
      exact take_mapIdx_lt _ _ _ _
    rw [hmap, List.map_map]
    rfl
  unfold st_sound_model_conf_levels.userIds
  rw [ids_keywordsUsed, List.flatMap_map]
  exact congrArg (List.flatMap · sm.keywordsUsed) (funext husers)

theorem ids_inside_iff (sm : st_sound_model_conf_levels) (version size : ℕ) :
    sm.ids.Inside version size ↔ sm.Inside version size := by
  unfold st_sound_model_conf_levels.Inside
  rw [ids_userIds]
  rfl

theorem ids_fits {sm : st_sound_model_conf_levels} (h : sm.Fits) : sm.ids.Fits := by
  refine ⟨h.1, fun kw hkw => ?_⟩
  have hmem : kw ∈ sm.keywordsUsed.map (·.ids) := by
    rw [← ids_keywordsUsed]
    exact hkw
  obtain ⟨kw', hkw', rfl⟩ := List.mem_map.mp hmem
  exact h.2 kw' hkw'

/-! ### Packing -/

theorem updateModels_used (c : st_confidence_levels_info)
    (f : st_sound_model_conf_levels → st_sound_model_conf_levels) :
    (c.updateModels f).used = c.used.map f := by
  show (c.conf_levels.mapIdx _).toList.take c.num_sound_models = _
  rw [Vector.toList_mapIdx]
  exact take_mapIdx_lt f id _ _

theorem packSecondStage_sm_id (sm : st_sound_model_conf_levels) (version : ℕ)
    (sec_det_level : List (ℕ × ℤ)) :
    (sm.packSecondStage version sec_det_level).sm_id = sm.sm_id := by
  unfold st_sound_model_conf_levels.packSecondStage
  induction sec_det_level generalizing sm with
  | nil => rfl
  | cons det levels ih =>
    obtain ⟨type, level⟩ := det
    rw [List.foldl_cons, ih]
    dsimp only
    split_ifs <;> rfl

/-- **Packing** of levels whose counts fit stays inside exactly where no first stage model is larger
than the sound model. -/
theorem packedInside_iff (past : ℕ) {sm_info : sound_model_info M} {info : SoundModelInfo M}
    (hinfo : sm_info.info = some info) (hdet : info.HasDetLevels) {c : st_confidence_levels_info}
    (hfits : ∀ sm ∈ c.used, sm.Fits) :
    PackedInside past sm_info info c ↔ ∀ sm ∈ c.used, sm.sm_id = ST_SM_ID_SVA_F_STAGE_GMM →
      sm.Inside sm_info.conf_levels_intf_version info.cf_levels_size_ := by
  constructor
  · intro hlaw sm hsm hgmm
    refine (modelReads_inside_iff (hfits sm hsm) _ _).mp fun k hk => hlaw.reads k ?_
    exact List.mem_flatMap.mpr ⟨sm, hsm, by rwa [if_pos hgmm]⟩
  · intro hinside
    refine ⟨?_, ?_⟩
    · intro k hk
      obtain ⟨sm, hsm, hk⟩ := List.mem_flatMap.mp hk
      split_ifs at hk with hgmm
      · exact (modelReads_inside_iff (hfits sm hsm) _ _).mpr (hinside sm hsm hgmm) k hk
      · simp at hk
    · have hread : ¬ (c.readsDetLevels && info.det_cf_levels_.isEmpty) = true := by
        intro hnull
        obtain ⟨hreads, hempty⟩ := (Bool.and_eq_true _ _).mp hnull
        obtain ⟨sm, hsm, hkws⟩ := List.any_eq_true.mp hreads
        obtain ⟨hgmm, hkws⟩ := (Bool.and_eq_true _ _).mp hkws
        have hle := (hinside sm hsm (beq_iff_eq.mp hgmm)).1
        have hnil : info.cf_levels_size_ = 0 := by
          rw [← hdet.size, List.isEmpty_iff.mp hempty]
          rfl
        have hne : sm.num_kw_levels ≠ 0 := bne_iff_ne.mp hkws
        omega
      refine ⟨c.updateModels fun sm =>
        if sm.sm_id = ST_SM_ID_SVA_F_STAGE_GMM then
          sm.packFirstStage sm_info.conf_levels_intf_version past info
        else sm.packSecondStage sm_info.conf_levels_intf_version sm_info.sec_det_level, ?_, ?_⟩
      · unfold packEventConfLevels
        rw [hinfo]
        exact if_neg hread
      · intro sm hsm hgmm
        rw [updateModels_used] at hsm
        obtain ⟨sm', hsm', rfl⟩ := List.mem_map.mp hsm
        split_ifs at hgmm ⊢ with hid
        · exact packFirstStage_carries (hfits sm' hsm') hdet (hinside sm' hsm' hid) past
        · rw [packSecondStage_sm_id] at hgmm
          exact absurd hgmm hid

/-! ### Levels that were accepted -/

theorem levels_userIds (version : ℕ) (sm : st_sound_model_conf_levels) :
    (allUsers (sm.levels version)).map (·.user_id) = sm.userIds := by
  unfold allUsers st_sound_model_conf_levels.levels st_sound_model_conf_levels.userIds
  rw [List.flatMap_map, List.map_flatMap]
  refine congrArg (List.flatMap · sm.keywordsUsed) (funext fun kw => ?_)
  rw [List.map_map]
  rfl

/-- **Accepted levels**: a model whose levels were filled into an array stays inside exactly where
the sound model takes the array. -/
theorem inside_iff_updateConfLevelArray {sm : st_sound_model_conf_levels} (hfits : sm.Fits)
    {version : ℕ} {mem : Callocs} {out out' : ConfLevelsOut}
    (h : fillOpaqueConfLevels mem 0 (some sm) version out = some (out', 0))
    (info : SoundModelInfo M) : sm.Inside version info.cf_levels_size_ ↔
      (info.updateConfLevelArray out'.conf_levels).2 = 0 := by
  obtain ⟨r, hr, hanswers⟩ := fillOpaqueConfLevels_answers mem 0 hfits version out
  obtain rfl : r = (out', 0) := Option.some.inj (hr.symm.trans h)
  obtain ⟨buf, hbuf, honce⟩ := hanswers.1 rfl rfl
  obtain rfl : out' = ⟨some buf, buf.length⟩ := hbuf
  have hlen : (sm.levels version).length = sm.num_kw_levels := by
    unfold st_sound_model_conf_levels.levels
    rw [List.length_map]
    exact keywordsUsed_length hfits
  have hids : ∀ k, k < sm.num_kw_levels ∨ k ∈ sm.userIds ↔ k < buf.length := by
    intro k
    have hperm := honce.once.mem_iff (a := k)
    rwa [List.mem_append, List.mem_range, List.mem_range, hlen, levels_userIds] at hperm
  have htakes : (info.updateConfLevelArray (some buf)).2 = 0 ↔
      buf.length ≤ info.cf_levels_size_ := by
    show (if info.cf_levels_size_ < buf.length then (info, - EINVAL) else (_, (0 : ℤ))).2 = 0 ↔ _
    split_ifs with hlt
    · have hfails : - EINVAL ≠ 0 := by decide
      exact iff_of_false hfails (by omega)
    · exact iff_of_true rfl (by omega)
  rw [htakes]
  constructor
  · rintro ⟨hkws, hin⟩
    by_contra hlt
    -- the ids are all below the length, so one is the index behind the array
    rcases (hids info.cf_levels_size_).mpr (by omega) with hkw | hid
    · omega
    · have hne := hin _ hid
      split_ifs at hne <;> omega
  · intro hle
    refine ⟨?_, fun id hid => ?_⟩
    · have hsize := honce.size
      omega
    · have hlt := (hids id).mp (Or.inr hid)
      split_ifs <;> omega

/-! ### The callback levels -/

/-- **Callback levels.** Whatever config is cached, the packing stays inside the detection levels
exactly where the counts of the config fit their arrays and no first stage model of it is larger
than the sound model; and of a model whose levels were accepted, that is the test of
`updateConfLevelArray`. -/
theorem packEventConfLevels_inside_iff (past : ℕ) (I : SVAInterface M)
    (sm_info : sound_model_info M) (info : SoundModelInfo M) (hinfo : sm_info.info = some info)
    (hdet : info.HasDetLevels) :
    ((∃ c, I.initCallbackConfLevels sm_info.conf_levels_intf_version = some c ∧
        PackedInside past sm_info info c) ↔
      ∀ t ∈ I.template sm_info.conf_levels_intf_version, t.Fits ∧
        ∀ sm ∈ t.used, sm.sm_id = ST_SM_ID_SVA_F_STAGE_GMM →
          sm.Inside sm_info.conf_levels_intf_version info.cf_levels_size_) ∧
    ∀ (sm : st_sound_model_conf_levels) (mem : Callocs) (out out' : ConfLevelsOut), sm.Fits →
      fillOpaqueConfLevels mem 0 (some sm) sm_info.conf_levels_intf_version out = some (out', 0) →
        (sm.Inside sm_info.conf_levels_intf_version info.cf_levels_size_ ↔
          (info.updateConfLevelArray out'.conf_levels).2 = 0) := by
  refine ⟨?_, fun sm mem out out' hfits h => inside_iff_updateConfLevelArray hfits h info⟩
  unfold SVAInterface.initCallbackConfLevels
  rcases I.template sm_info.conf_levels_intf_version with _ | t
  · refine iff_of_true ⟨_, rfl, ?_⟩ (by simp)
    exact (packedInside_iff past hinfo hdet (by simp [st_confidence_levels_info.used_zero])).mpr
      (by simp [st_confidence_levels_info.used_zero])
  · have hused := st_confidence_levels_info.used_ids t
    have hmodels : t.Fits → (PackedInside past sm_info info t.ids ↔
        ∀ sm ∈ t.used, sm.sm_id = ST_SM_ID_SVA_F_STAGE_GMM →
          sm.Inside sm_info.conf_levels_intf_version info.cf_levels_size_) := by
      intro hfits
      rw [packedInside_iff past hinfo hdet]
      · rw [hused, List.forall_mem_map]
        refine forall₂_congr fun sm hsm => ?_
        rw [ids_inside_iff]
        rfl
      · rw [hused, List.forall_mem_map]
        exact fun sm hsm => ids_fits (hfits.2 sm hsm)
    by_cases hfits : t.Fits
    · simp [hfits, hmodels hfits]
    · simp [hfits]

/-! ### A config that is too large -/

/-- A sound model of `n` entries with a detection of each. -/
def detectedModel (n : ℕ) : SoundModelInfo Unit where
  sm_data_ := none
  sm_size_ := 0
  keyphrases_ := []
  users_ := []
  cf_levels_kw_users_ := List.replicate n ""
  cf_levels_ := List.replicate n 100
  det_cf_levels_ := List.replicate n 70
  cf_levels_size_ := n

/-- A GMM stream whose sound model has `n` entries. -/
def gmmStream (n : ℕ) : sound_model_info Unit :=
  { pdkStream with model_id := 0, info := some (detectedModel n), conf_levels_intf_version := 1 }

/-- The config of `twoKeywords`, as it is cached. -/
def twoKeywordsConfig : st_confidence_levels_info :=
  ⟨1, 1, (Vector.replicate ST_MAX_SOUND_MODELS .zero).set 0 (twoKeywords ST_SM_ID_SVA_F_STAGE_GMM)⟩

def gmmInterface : SVAInterface Unit := { pdkInterface with st_conf_levels_ := some twoKeywordsConfig }

/-- The three levels are accepted, and a sound model of one entry is read behind its end. -/
theorem packEventConfLevels_reads_behind :
    fillOpaqueConfLevels ⟨true, true⟩ 0 (some (twoKeywords ST_SM_ID_SVA_F_STAGE_GMM)) 1 .freed =
        some (⟨some [60, 40, 75], 3⟩, 0) ∧
      (detectedModel 1).HasDetLevels ∧
      gmmInterface.initCallbackConfLevels 1 = some twoKeywordsConfig.ids ∧
      1 ∈ twoKeywordsConfig.ids.detReads 1 (detectedModel 1).cf_levels_size_ ∧
      ¬ ∃ c, gmmInterface.initCallbackConfLevels 1 = some c ∧
        PackedInside 0 (gmmStream 1) (detectedModel 1) c := by
  have hinit : gmmInterface.initCallbackConfLevels 1 = some twoKeywordsConfig.ids := by decide
  have hread : 1 ∈ twoKeywordsConfig.ids.detReads 1 (detectedModel 1).cf_levels_size_ := by decide
  refine ⟨by decide, ⟨by decide, by decide⟩, hinit, hread, ?_⟩
  rintro ⟨c, hc, hlaw⟩
  obtain rfl := Option.some.inj (hinit.symm.trans hc)
  exact Nat.lt_irrefl 1 (hlaw.reads 1 hread)

theorem packEventConfLevels_inside_three :
    ∃ c, gmmInterface.initCallbackConfLevels 1 = some c ∧
      PackedInside 0 (gmmStream 3) (detectedModel 3) c :=
  (packEventConfLevels_inside_iff 0 gmmInterface (gmmStream 3) (detectedModel 3) rfl
    ⟨by decide, by decide⟩).1.mpr (by
      rintro t ht
      obtain rfl : twoKeywordsConfig = t := Option.some.inj ht
      refine ⟨by decide, ?_⟩
      intro sm hsm _
      obtain rfl : sm = twoKeywords ST_SM_ID_SVA_F_STAGE_GMM := List.mem_singleton.mp hsm
      exact ⟨by decide, by decide⟩)

end AudioReachPal.Sva
