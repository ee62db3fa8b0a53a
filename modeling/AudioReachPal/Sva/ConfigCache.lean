import AudioReachPal.Sva.ConfigView

/-!
# What a config does to the templates

A config that is accepted caches the last levels of its records, one set for each of two versions; one
that is refused frees both. What an event of another stream starts from is left exactly where the
levels that are cached for the stream's version are as good as those that were there.
-/

namespace AudioReachPal.Sva

open AudioReachPal.Lib

/-! ### What a config does to the templates -/

/-- The levels in a parameter, with their version. -/
def confLevels (data : List UInt8) (key_id ptr : ℕ) : Option (ℕ × st_confidence_levels_info) :=
  if key_id = ST_PARAM_KEY_CONFIDENCE_LEVELS then some (field data ptr, paramLevels data ptr)
  else none

/-- The levels, where they go into the template of a version. -/
def cachedFor (version : ℕ) (levels : Option (ℕ × st_confidence_levels_info)) :
    Option st_confidence_levels_info :=
  (levels.filter fun levels => SameTemplate levels.1 version).map Prod.snd

theorem cachedFor_some (v version : ℕ) (c : st_confidence_levels_info) :
    cachedFor v (some (version, c)) = if SameTemplate version v then some c else none := by
  unfold cachedFor
  split_ifs with hsame
  · simp [hsame]
  · simp [hsame]

/-- The last levels in the records. -/
def lastLevels (data : List UInt8) (rs : List (Tlv ℕ Unit)) :
    Option (ℕ × st_confidence_levels_info) :=
  rs.reverse.findSome? fun r => confLevels data r.key_id (r.offset + sizeof_st_param_header)

/-- The last levels in the records that go into the template of a version. -/
def lastCached (data : List UInt8) (version : ℕ) (rs : List (Tlv ℕ Unit)) :
    Option st_confidence_levels_info :=
  rs.reverse.findSome? fun r =>
    cachedFor version (confLevels data r.key_id (r.offset + sizeof_st_param_header))

theorem findSome?_reverse_cons {α β : Type*} (f : α → Option β) (a : α) (l : List α) :
    (a :: l).reverse.findSome? f = (l.reverse.findSome? f).or (f a) := by
  rw [List.reverse_cons, List.findSome?_append]
  simp

/-- The last levels of all go into the template of their version. -/
theorem lastCached_of_lastLevels {data : List UInt8} {rs : List (Tlv ℕ Unit)} {version : ℕ}
    {c : st_confidence_levels_info} (h : lastLevels data rs = some (version, c)) :
    lastCached data version rs = some c := by
  have hcached : ∀ levels, levels = some (version, c) → cachedFor version levels = some c := by
    rintro _ rfl
    rw [cachedFor_some, if_pos (SameTemplate.refl version)]
  unfold lastLevels at h
  unfold lastCached
  induction rs with
  | nil => cases h
  | cons r rs ih =>
    rw [findSome?_reverse_cons] at h ⊢
    rcases hrest : rs.reverse.findSome? fun r =>
      confLevels data r.key_id (r.offset + sizeof_st_param_header) with _ | levels
    · have hnone : (rs.reverse.findSome? fun r =>
          cachedFor version (confLevels data r.key_id (r.offset + sizeof_st_param_header))) = none := by
        rw [List.findSome?_eq_none_iff] at hrest ⊢
        intro r hr
        rw [hrest r hr]
        rfl
      rw [hrest, Option.none_or] at h
      rw [hnone, Option.none_or]
      exact hcached _ h
    · rw [hrest, Option.some_or] at h
      rw [ih (hrest.trans h), Option.some_or]

namespace SVAInterface

variable {M : Type} {I I' I'' : SVAInterface M}

/-- The interfaces differ at most in the templates and in what other modules are configured with. -/
def SameBut (I I' : SVAInterface M) : Prop :=
  ∃ levels levels_v2 tiuv hist_cap, I' = { I with
    st_conf_levels_ := levels
    st_conf_levels_v2_ := levels_v2
    tiuv_threshold_config_ := tiuv
    hist_cap_mode_config_ := hist_cap }

theorem SameBut.refl (I : SVAInterface M) : I.SameBut I := ⟨_, _, _, _, rfl⟩

theorem SameBut.trans (h : I.SameBut I') (h' : I'.SameBut I'') : I.SameBut I'' := by
  obtain ⟨levels, levels_v2, tiuv, hist_cap, rfl⟩ := h
  obtain ⟨levels', levels_v2', tiuv', hist_cap', rfl⟩ := h'
  exact ⟨levels', levels_v2', tiuv', hist_cap', rfl⟩

theorem SameBut.view (h : I.SameBut I') (s : StreamId) : I'.view s = I.view s := by
  obtain ⟨_, _, _, _, rfl⟩ := h
  rfl

theorem SameBut.module_type_ (h : I.SameBut I') : I'.module_type_ = I.module_type_ := by
  obtain ⟨_, _, _, _, rfl⟩ := h
  rfl

end SVAInterface

namespace Parsing

variable {M : Type} {st st₁ st' : Parsing M} {env : ConfigEnv} {data : List UInt8}

/-- What parameters leave of the interface, the type of the model, and what they do to the version of
the stream and to the templates. -/
structure Cached (st st' : Parsing M) (version : Option ℕ)
    (cached : ℕ → Option st_confidence_levels_info) : Prop where
  same : st.I.SameBut st'.I
  type : st'.sm_info.type = st.sm_info.type
  version : st'.sm_info.conf_levels_intf_version =
    version.getD st.sm_info.conf_levels_intf_version
  template : ∀ v, st'.I.template v = (cached v).or (st.I.template v)

theorem cached_of_same (hI : st.I.SameBut st'.I) (hinfo : st'.sm_info = st.sm_info)
    (htemplate : ∀ v, st'.I.template v = st.I.template v) :
    Cached st st' none fun _ => none where
  same := hI
  type := by rw [hinfo]
  version := by rw [hinfo]; rfl
  template v := (htemplate v).trans Option.none_or.symm

theorem Cached.trans {version version' : Option ℕ}
    {cached cached' : ℕ → Option st_confidence_levels_info} (h : Cached st st₁ version cached)
    (h' : Cached st₁ st' version' cached') :
    Cached st st' (version'.or version) fun v => (cached' v).or (cached v) where
  same := h.same.trans h'.same
  type := h'.type.trans h.type
  version := by
    rw [h'.version, h.version]
    rcases version' with _ | v
    · rfl
    · rfl
  template v := by rw [h'.template, h.template, Option.or_assoc]

theorem same_cache (version : ℕ) (conf_levels : Option st_confidence_levels_info) :
    st.I.SameBut (st.cache version conf_levels).I := by
  unfold cache
  split_ifs
  · exact ⟨_, _, _, _, rfl⟩
  · exact ⟨_, _, _, _, rfl⟩

/-- What the levels of a parameter do, by its status. -/
theorem parseOpaqueConfLevels_cached {ptr : ℕ} {status : ℤ}
    (h : st.parseOpaqueConfLevels env data ptr (field data ptr) = some (st', status)) :
    st.I.SameBut st'.I ∧ st'.sm_info.type = st.sm_info.type ∧ (status = 0 →
      st'.sm_info.conf_levels_intf_version = st.sm_info.conf_levels_intf_version ∧
        ∀ v, st'.I.template v =
          (cachedFor v (some (field data ptr, paramLevels data ptr))).or (st.I.template v)) := by
  unfold parseOpaqueConfLevels at h
  split_ifs at h
  · obtain ⟨payload, hslice, h⟩ := Option.bind_eq_some_iff.mp h
    obtain ⟨o, -, heq⟩ := Option.map_eq_some_iff.mp h
    cases heq
    have hin := le_of_slice hslice
    rw [slice_eq_some hin] at hslice
    have hlevels : st_confidence_levels_info.read (field data ptr) payload =
        paramLevels data ptr := by
      unfold paramLevels
      rw [Option.some.inj hslice]
    rw [hlevels]
    refine ⟨same_cache _ _, ?_, fun _ => ⟨?_, fun v => ?_⟩⟩
    · rw [cache_sm_info]
    · rw [cache_sm_info]
    · dsimp only
      rw [template_cache, cachedFor_some]
      split_ifs with hsame
      · rfl
      · rfl
  · cases h
    exact ⟨same_cache _ _, by rw [cache_sm_info], fun h => absurd h (by decide)⟩

/-- What the `switch` makes of a parameter with these levels. -/
def Effect (st : Parsing M) (levels : Option (ℕ × st_confidence_levels_info)) :
    Option (Visit (Parsing M) (Parsing M × ℤ)) → Prop
  | none => True
  | some (.next st') => Cached st st' (levels.map Prod.fst) fun v => cachedFor v levels
  | some (.last _) => True
  | some (.fail (st', _)) => st.I.SameBut st'.I ∧ st'.sm_info.type = st.sm_info.type

/-- The levels of a parameter go into a template where they are accepted. -/
theorem effect_levels (ptr : ℕ) : Effect st (some (field data ptr, paramLevels data ptr))
    (parseParam env data st ST_PARAM_KEY_CONFIDENCE_LEVELS ptr) := by
  unfold parseParam
  dsimp only
  rw [if_pos rfl]
  rcases hread : readLE data 4 ptr with _ | version
  · trivial
  obtain rfl : version = field data ptr := (field_of_read hread).symm
  rw [Option.bind_some]
  split_ifs
  · exact ⟨SVAInterface.SameBut.refl _, rfl⟩
  rcases hparse : parseOpaqueConfLevels env data ptr (field data ptr) { st with
      sm_info := { st.sm_info with conf_levels_intf_version := field data ptr } } with
    _ | ⟨st', status⟩
  · trivial
  obtain ⟨hsame, htype, hcached⟩ := parseOpaqueConfLevels_cached hparse
  dsimp only [Option.map_some]
  split_ifs with hstatus
  · exact ⟨hsame, htype⟩
  · obtain ⟨hversion, htemplate⟩ := hcached (not_not.mp hstatus)
    exact ⟨hsame, htype, hversion, htemplate⟩

/-- A parameter that is read into a place of its own caches nothing. -/
theorem effect_read {α : Type} {read : Option α} {f : α → Parsing M}
    (hf : ∀ a, Cached st (f a) none fun _ => none) :
    Effect st none (read.map fun a => .next (f a)) := by
  rcases read with _ | a
  · trivial
  · exact hf a

/-- **The step.** What any parameter leaves of the interface, and what it caches. -/
theorem parseParam_effect (env : ConfigEnv) (data : List UInt8) (st : Parsing M) (key_id ptr : ℕ) :
    Effect st (confLevels data key_id ptr) (parseParam env data st key_id ptr) := by
  unfold confLevels
  by_cases hlevels : key_id = ST_PARAM_KEY_CONFIDENCE_LEVELS
  · rw [if_pos hlevels, hlevels]
    exact effect_levels ptr
  rw [if_neg hlevels]
  have hrefused : ∀ status, Effect st none (some (.fail (st, status))) :=
    fun _ => ⟨SVAInterface.SameBut.refl _, rfl⟩
  unfold parseParam
  dsimp only
  rw [if_neg hlevels]
  split_ifs
  · exact hrefused _
  · rcases readLE data 4 (ptr + 4) with _ | hist
    · trivial
    · exact effect_read fun _ => cached_of_same (SVAInterface.SameBut.refl _) rfl fun _ => rfl
  · exact hrefused _
  · rcases readLE data 4 (ptr + 4) with _ | mode
    · trivial
    · rw [Option.bind_some]
      split_ifs
      · exact cached_of_same (SVAInterface.SameBut.refl _) rfl fun _ => rfl
      · trivial
  · exact effect_read fun _ => cached_of_same (SVAInterface.SameBut.refl _) rfl fun _ => rfl
  · exact ⟨SVAInterface.SameBut.refl _, rfl⟩
  · exact hrefused _
  · exact effect_read fun _ => cached_of_same ⟨_, _, _, _, rfl⟩ rfl fun _ => rfl
  · exact hrefused _
  · exact effect_read fun _ => cached_of_same ⟨_, _, _, _, rfl⟩ rfl fun _ => rfl
  · exact hrefused _

/-- **The run.** Records whose parameters are accepted leave of the interface what every step leaves,
and what they cache is what the last one for a template does. -/
theorem cached_of_visited {rs : List (Tlv ℕ Unit)}
    (h : Visited st_param_header (parseParam env data) st rs st') :
    Cached st st' ((lastLevels data rs).map Prod.fst) fun v => lastCached data v rs := by
  induction h with
  | nil st => exact cached_of_same (SVAInterface.SameBut.refl _) rfl fun _ => rfl
  | @cons st st₁ st' r rs hvisit hrest ih =>
    have heffect := parseParam_effect env data st r.key_id (r.offset + sizeof_st_param_header)
    rw [show parseParam env data st r.key_id (r.offset + sizeof_st_param_header) = _ from hvisit]
      at heffect
    have hcached : Cached st st₁ _ _ := heffect
    unfold lastLevels lastCached at ih ⊢
    simp only [findSome?_reverse_cons]
    rw [Option.map_or]
    exact hcached.trans ih

end Parsing

/-! ### Configs that leave what is seen -/

section Config

variable {M : Type} {I I' : SVAInterface M} {s t : StreamId} {i : sound_model_info M}
  {env : ConfigEnv} {c : pal_st_recognition_config} {st : Parsing M} {status : ℤ}

/-- The config is accepted. -/
def Passes (env : ConfigEnv) (i : sound_model_info M) (c : pal_st_recognition_config) : Prop :=
  if c.data_size > CUSTOM_CONFIG_OPAQUE_DATA_SIZE then AllPass env c.opaqueData i.model_id
  else PhrasesTaken env i c

/-- The records that are read of a config. -/
def Records (c : pal_st_recognition_config) (rs : List (Tlv ℕ Unit)) : Prop :=
  if c.data_size > CUSTOM_CONFIG_OPAQUE_DATA_SIZE then Laid st_param_header c.opaqueData 0 rs
  else rs = []

theorem Records.unique {rs rs' : List (Tlv ℕ Unit)} (h : Records c rs) (h' : Records c rs') :
    rs = rs' := by
  unfold Records at h h'
  split_ifs at h h'
  · exact h.unique h'
  · rw [h, h']

/-- **What became of a config.** One that is accepted has cached the last levels of its records, and
one that is refused has freed the templates. -/
theorem parse_cases (hi : I.sm_info_map_[t]? = some i)
    (h : I.parseRecognitionConfig env t (some c) = some (I', status)) :
    (Passes env i c ∧ status = 0 ∧ ∃ rs st, Records c rs ∧
      Parsing.Cached (Parsing.begin I i c) st ((lastLevels c.opaqueData rs).map Prod.fst)
        (fun v => lastCached c.opaqueData v rs) ∧ I' = st.finish t) ∨
    (¬ Passes env i c ∧ status ≠ 0 ∧ ∃ st : Parsing M, I.SameBut st.I ∧
      st.sm_info.type = i.type ∧ I' = st.errorExit t) := by
  rw [parseRecognitionConfig_some env c hi] at h
  unfold Passes Records
  by_cases hsize : c.data_size > CUSTOM_CONFIG_OPAQUE_DATA_SIZE
  · rw [if_pos hsize] at h
    simp only [if_pos hsize]
    have hb : c.opaqueData.length < 2 ^ 32 := by
      rw [c.data_size_eq]
      exact c.data_size_lt
    have hfuel : c.opaqueData.length < c.data_size + 1 := by
      rw [c.data_size_eq]
      omega
    have hcontained := Parsing.contained_parseParam (M := M) env c.opaqueData
    obtain ⟨end_, hwalk, heq⟩ := Option.map_eq_some_iff.mp h
    rcases end_ with ⟨st, status'⟩ | st
    · cases heq
      obtain ⟨rs, q, r, st₁, hlaid, hvisited, hq, hr, hfail⟩ :=
        (walk_error_iff hb hcontained hfuel).mp hwalk
      have hoffset : q = r.offset := hr.offset.symm
      subst hoffset
      obtain ⟨-, -, hrefused, -, hstatus⟩ := refused_of_visited hvisited hfail
      have heffect := Parsing.parseParam_effect env c.opaqueData st₁ r.key_id
        (r.offset + sizeof_st_param_header)
      rw [show Parsing.parseParam env c.opaqueData st₁ r.key_id
        (r.offset + sizeof_st_param_header) = _ from hfail] at heffect
      have hcached := Parsing.cached_of_visited hvisited
      refine Or.inr ⟨?_, hstatus, st, hcached.same.trans heffect.1, heffect.2.trans hcached.type, rfl⟩
      rintro ⟨rs', hlaid', hpass⟩
      obtain ⟨st', hvisited'⟩ := Parsing.visited_of_passes (Parsing.begin I i c) hpass
      have hok := (walk_ok_iff hb hcontained hfuel).mpr ⟨rs', hlaid', hvisited'⟩
      rw [hwalk] at hok
      cases hok
    · cases heq
      obtain ⟨rs, hlaid, hvisited⟩ := (walk_ok_iff hb hcontained hfuel).mp hwalk
      exact Or.inl ⟨⟨rs, hlaid, (Parsing.step_of_visited hvisited).1⟩, rfl, rs, st, hlaid,
        Parsing.cached_of_visited hvisited, rfl⟩
  · rw [if_neg hsize] at h
    simp only [if_neg hsize]
    have hcached : ∀ out, Parsing.Cached (Parsing.begin I i c)
        { Parsing.begin I i c with out := out } none fun _ => none :=
      fun _ => Parsing.cached_of_same (SVAInterface.SameBut.refl _) rfl fun _ => rfl
    unfold PhrasesTaken
    by_cases htype : i.type = .PAL_SOUND_MODEL_TYPE_KEYPHRASE
    · rw [if_pos htype] at h
      rw [forall_prop_of_true htype]
      obtain ⟨⟨out, status'⟩, hfill⟩ : ∃ r, fillConfLevels env.phraseLevels i.model_id
          (some i.model_phrases) (some c.phrases) ⟨none, 0⟩ = r := ⟨_, rfl⟩
      rw [hfill] at h ⊢
      dsimp only at h
      split_ifs at h with hstatus
      · cases h
        exact Or.inr ⟨hstatus, hstatus, _, SVAInterface.SameBut.refl I, rfl, rfl⟩
      · cases h
        exact Or.inl ⟨not_not.mp hstatus, rfl, [], _, rfl, hcached out, rfl⟩
    · rw [if_neg htype] at h
      cases h
      exact Or.inl ⟨fun h => absurd h htype, rfl, [], _, rfl, hcached ⟨none, 0⟩, rfl⟩

/-- An event of the stream starts from what it would with this template. -/
def SVAInterface.StartsAs (I : SVAInterface M) (s : StreamId)
    (template : Option st_confidence_levels_info) : Prop :=
  ∀ j, I.sm_info_map_[s]? = some j → I.ReadsTemplate j →
    callbackLevels template = callbackLevels (I.template j.conf_levels_intf_version)

/-- A config leaves what the events of the stream start from: if it is accepted, by the last levels in
it that go into the stream's template, and if it is refused, by no levels at all. -/
def Leaves (env : ConfigEnv) (I : SVAInterface M) (s t : StreamId)
    (config : Option pal_st_recognition_config) : Prop :=
  ∀ i c, I.sm_info_map_[t]? = some i → config = some c →
    (Passes env i c → ∀ rs j levels, Records c rs → I.sm_info_map_[s]? = some j →
      lastCached c.opaqueData j.conf_levels_intf_version rs = some levels →
        I.StartsAs s (some levels)) ∧
    (¬ Passes env i c → I.StartsAs s none)

/-- Where the view is the same, so is what is seen when the events start from the same. -/
theorem seen_eq_iff_of_view (hview : I'.view s = I.view s) : I'.seen s = I.seen s ↔
    ∀ j, I.sm_info_map_[s]? = some j → I.ReadsTemplate j →
      callbackLevels (I'.template j.conf_levels_intf_version) =
        callbackLevels (I.template j.conf_levels_intf_version) := by
  have hmodule : I'.module_type_ = I.module_type_ := congrArg View.module_type_ hview
  have hreads : ∀ j : sound_model_info M, I'.ReadsTemplate j ↔ I.ReadsTemplate j := by
    intro j
    unfold SVAInterface.ReadsTemplate
    rw [hmodule]
  unfold SVAInterface.seen SVAInterface.ownLevels
  rw [hview, Prod.mk.injEq, eq_self, true_and, view_info hview]
  cases hj : I.sm_info_map_[s]? with
  | none => simp
  | some j =>
    unfold SVAInterface.startLevels
    by_cases hj : I.ReadsTemplate j
    · simp [hreads, hj]
    · simp [hreads, hj]

theorem view_finish_of_ne (ht : t ≠ s) (h : I.SameBut st.I) : (st.finish t).view s = I.view s := by
  have hinfo : (st.finish t).sm_info_map_[s]? = st.I.sm_info_map_[s]? :=
    SVAInterface.setInfo_getElem?_of_ne st.I ht _
  have horigin : (st.finish t).origin_hist_buf_duration_ s = st.I.origin_hist_buf_duration_ s :=
    Function.update_of_ne ht.symm _ _
  rw [← h.view s]
  unfold SVAInterface.view SVAInterface.rest
  rw [hinfo, horigin]
  rfl

theorem view_errorExit_of_ne (ht : t ≠ s) (h : I.SameBut st.I) :
    (st.errorExit t).view s = I.view s := by
  rw [← h.view s]
  exact congrArg Prod.fst (seen_setInfo_of_ne (I := st.I.freed) ht st.sm_info)

/-- **A config of another stream** leaves what is seen exactly where it leaves what the events start
from. -/
theorem seen_config_iff (ht : t ≠ s) {config : Option pal_st_recognition_config}
    (h : I.parseRecognitionConfig env t config = some (I', status)) :
    I'.seen s = I.seen s ↔ Leaves env I s t config := by
  cases hi : I.sm_info_map_[t]? with
  | none =>
    unfold SVAInterface.parseRecognitionConfig at h
    rw [hi] at h
    cases h
    refine iff_of_true rfl fun i c hinfo => ?_
    rw [hi] at hinfo
    cases hinfo
  | some i =>
    cases config with
    | none =>
      unfold SVAInterface.parseRecognitionConfig at h
      rw [hi] at h
      cases h
      exact iff_of_true (seen_setInfo_of_ne ht _) fun i c _ hconfig => by cases hconfig
    | some c =>
      have hleaves : Leaves env I s t (some c) ↔
          (Passes env i c → ∀ rs j levels, Records c rs → I.sm_info_map_[s]? = some j →
            lastCached c.opaqueData j.conf_levels_intf_version rs = some levels →
              I.StartsAs s (some levels)) ∧
          (¬ Passes env i c → I.StartsAs s none) := by
        refine ⟨fun h => h i c hi rfl, fun h i' c' hi' hc' => ?_⟩
        rw [hi] at hi'
        cases hi'
        cases hc'
        exact h
      rw [hleaves]
      rcases parse_cases hi h with
        ⟨hpasses, -, rs, st, hrecords, hcached, rfl⟩ | ⟨hrefused, -, st, hsame, -, rfl⟩
      · have hsame : I.SameBut st.I := hcached.same
        rw [forall_prop_of_true hpasses, and_iff_left fun h => absurd hpasses h,
          seen_eq_iff_of_view (view_finish_of_ne ht hsame)]
        have htemplate : ∀ v, (st.finish t).template v =
            (lastCached c.opaqueData v rs).or (I.template v) := hcached.template
        constructor
        · intro hstart rs' j levels hrecords' hj hlevels j' hj' hreads
          cases hrecords.unique hrecords'
          cases hj.symm.trans hj'
          have hsame := hstart j hj hreads
          rw [htemplate, hlevels, Option.some_or] at hsame
          exact hsame
        · intro hstart j hj hreads
          rw [htemplate]
          cases hlevels : lastCached c.opaqueData j.conf_levels_intf_version rs with
          | none => rw [Option.none_or]
          | some levels =>
            rw [Option.some_or]
            exact hstart rs j levels hrecords hj hlevels j hj hreads
      · rw [forall_prop_of_true hrefused, and_iff_right fun h => absurd h hrefused,
          seen_eq_iff_of_view (view_errorExit_of_ne ht hsame)]
        have htemplate : ∀ v, (st.errorExit t).template v = none := template_freed st.I
        simp only [htemplate]
        exact Iff.rfl

/-- A config that is refused leaves what the events start from, where that is what no levels are. -/
theorem ownLevels_of_refused {env : ConfigEnv} {config : Option pal_st_recognition_config} {status : ℤ}
    (hnot : ∀ i c, I.sm_info_map_[s]? = some i → config = some c → ¬ Passes env i c)
    (hrefused : ∀ i c, I.sm_info_map_[s]? = some i → config = some c → ¬ Passes env i c →
      I.StartsAs s none)
    (h : I.parseRecognitionConfig env s config = some (I', status)) :
    I'.ownLevels s = I.ownLevels s := by
  cases hi : I.sm_info_map_[s]? with
  | none =>
    unfold SVAInterface.parseRecognitionConfig at h
    rw [hi] at h
    cases h
    rfl
  | some i =>
    have hown : I.ownLevels s = I.startLevels i := by
      unfold SVAInterface.ownLevels
      rw [hi, Option.bind_some]
    cases config with
    | none =>
      unfold SVAInterface.parseRecognitionConfig at h
      rw [hi] at h
      cases h
      rw [hown]
      exact congrArg Prod.snd (seen_setInfo _)
    | some c =>
      rcases parse_cases hi h with ⟨hpasses, -⟩ | ⟨hfails, -, st, hsame, htype, rfl⟩
      · exact absurd hpasses (hnot i c hi rfl)
      · have hfreed : (st.errorExit s).ownLevels s = st.I.freed.startLevels st.sm_info :=
          congrArg Prod.snd (Parsing.seen_errorExit st)
        have hreads : st.I.freed.ReadsTemplate st.sm_info ↔ I.ReadsTemplate i := by
          have hmodule : st.I.freed.module_type_ = I.module_type_ := hsame.module_type_
          unfold SVAInterface.ReadsTemplate
          rw [hmodule, htype]
        rw [hfreed, hown]
        unfold SVAInterface.startLevels
        by_cases hi' : I.ReadsTemplate i
        · rw [if_pos (hreads.mpr hi'), if_pos hi', template_freed]
          exact congrArg some (hrefused i c hi rfl hfails i hi hi')
        · rw [if_neg (mt hreads.mp hi'), if_neg hi']

end Config

end AudioReachPal.Sva
