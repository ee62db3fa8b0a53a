import AudioReachPal.Sva.ConfigLaw

/-!
# What an event is built from

An event of a stream is built from what the interface keeps for the stream, from a few of its own
members, and from the levels that it has cached for the stream's version. All of that is what is seen
of the interface; what `generateCallbackEvent` and a config of the stream itself do to it depends on
nothing else.
-/

namespace AudioReachPal.Sva

open AudioReachPal.Lib

/-! ### What is seen -/

/-- What the interface keeps of a stream, and of itself, that an event of the stream is built from. -/
structure View (M : Type) where
  info : Option (sound_model_info M)
  module_type_ : st_module_type_t
  in_media_config : pal_media_config
  perf_mode_ : Bool
  default_buf_config_ : buffer_config
  det_event_info_ : Option detection_event
  origin_hist_buf_duration_ : ℕ
  start_position_ : ℕ
  bytes_to_read_ : ℕ

/-- What `initCallbackConfLevels` makes of a template. -/
def callbackLevels : Option st_confidence_levels_info → Option st_confidence_levels_info
  | none => some .zero
  | some c => if c.Fits then some c.ids else none

namespace SVAInterface

variable {M : Type}

/-- All of it but what is kept of the stream. -/
def rest (I : SVAInterface M) (s : StreamId) : View M where
  info := none
  module_type_ := I.module_type_
  in_media_config := I.in_media_config
  perf_mode_ := I.perf_mode_
  default_buf_config_ := I.default_buf_config_
  det_event_info_ := I.det_event_info_ s
  origin_hist_buf_duration_ := I.origin_hist_buf_duration_ s
  start_position_ := I.start_position_
  bytes_to_read_ := I.bytes_to_read_

def view (I : SVAInterface M) (s : StreamId) : View M :=
  { I.rest s with info := I.sm_info_map_[s]? }

/-- The events of the stream are built from a template: those of keyphrase models are, unless the
module has levels of another kind or none. -/
def ReadsTemplate (I : SVAInterface M) (i : sound_model_info M) : Prop :=
  i.type = .PAL_SOUND_MODEL_TYPE_KEYPHRASE ∧ I.module_type_ ≠ .ST_MODULE_TYPE_MMA ∧
    I.module_type_ ≠ .ST_MODULE_TYPE_HIST_CAP

instance (I : SVAInterface M) (i : sound_model_info M) : Decidable (I.ReadsTemplate i) :=
  inferInstanceAs (Decidable (_ ∧ _))

/-- The levels that an event of the stream starts from. -/
def startLevels (I : SVAInterface M) (i : sound_model_info M) :
    Option (Option st_confidence_levels_info) :=
  if I.ReadsTemplate i then some (callbackLevels (I.template i.conf_levels_intf_version)) else none

def ownLevels (I : SVAInterface M) (s : StreamId) : Option (Option st_confidence_levels_info) :=
  I.sm_info_map_[s]?.bind I.startLevels

def seen (I : SVAInterface M) (s : StreamId) : View M × Option (Option st_confidence_levels_info) :=
  (I.view s, I.ownLevels s)

end SVAInterface

/-- What the caller of `generateCallbackEvent` is given. -/
def EventOut.given {M : Type} (out : EventOut M) : ℤ × Option pal_st_recognition_event × Option ℕ :=
  (out.status, out.event, out.size)

section Store

variable {M : Type} {I J : SVAInterface M} {s t : StreamId} {i j : sound_model_info M}

theorem initCallbackConfLevels_eq (I : SVAInterface M) (version : ℕ) :
    I.initCallbackConfLevels version = callbackLevels (I.template version) := by
  unfold SVAInterface.initCallbackConfLevels callbackLevels
  rfl

theorem view_info (h : I.view s = J.view s) : I.sm_info_map_[s]? = J.sm_info_map_[s]? :=
  congrArg View.info h

theorem view_rest (h : I.view s = J.view s) : I.rest s = J.rest s :=
  congrArg (fun v : View M => ({ v with info := none } : View M)) h

theorem seen_setInfo (i : sound_model_info M) :
    (I.setInfo s i).seen s = ({ I.rest s with info := some i }, I.startLevels i) := by
  unfold SVAInterface.seen SVAInterface.view SVAInterface.ownLevels
  rw [SVAInterface.setInfo_getElem?_self]
  rfl

/-- What is kept of another stream is not seen. -/
theorem seen_setInfo_of_ne (h : t ≠ s) (i : sound_model_info M) : (I.setInfo t i).seen s = I.seen s := by
  unfold SVAInterface.seen SVAInterface.view SVAInterface.ownLevels
  rw [SVAInterface.setInfo_getElem?_of_ne I h]
  rfl

/-- The levels depend on the types of the module and of the model, and on the template. -/
theorem startLevels_congr (hmodule : I.module_type_ = J.module_type_) (htype : i.type = j.type)
    (htemplate : callbackLevels (I.template i.conf_levels_intf_version) =
      callbackLevels (J.template j.conf_levels_intf_version)) :
    I.startLevels i = J.startLevels j := by
  have hreads : I.ReadsTemplate i ↔ J.ReadsTemplate j := by
    unfold SVAInterface.ReadsTemplate
    rw [hmodule, htype]
  unfold SVAInterface.startLevels
  simp only [hreads, htemplate]

theorem startLevels_of_seen (h : I.seen s = J.seen s) (hi : J.sm_info_map_[s]? = some i) :
    I.startLevels i = J.startLevels i := by
  obtain ⟨hview, hlevels⟩ := Prod.mk.inj h
  unfold SVAInterface.ownLevels at hlevels
  rw [view_info hview, hi] at hlevels
  exact hlevels

end Store


/-! ### Events -/

section Event

variable {M : Type} {I J : SVAInterface M} {s t : StreamId} {i : sound_model_info M} {env : EventEnv}

/-- Where a template is read, it is seen what it starts the levels with. -/
theorem callbackLevels_of_seen (h : I.seen s = J.seen s) (hi : J.sm_info_map_[s]? = some i)
    (hreads : J.ReadsTemplate i) : callbackLevels (I.template i.conf_levels_intf_version) =
      callbackLevels (J.template i.conf_levels_intf_version) := by
  have hmodule : I.module_type_ = J.module_type_ := congrArg View.module_type_ (Prod.mk.inj h).1
  have hreads' : I.ReadsTemplate i := by
    unfold SVAInterface.ReadsTemplate
    rw [hmodule]
    exact hreads
  have hlevels := startLevels_of_seen h hi
  unfold SVAInterface.startLevels at hlevels
  rw [if_pos hreads, if_pos hreads'] at hlevels
  exact Option.some.inj hlevels

theorem getExtendedPayloadSize_congr (h : I.view s = J.view s) :
    I.getExtendedPayloadSize s = J.getExtendedPayloadSize s := by
  unfold SVAInterface.getExtendedPayloadSize
  rw [view_info h]

theorem prop_sm_info (perf_mode_ : Bool) (f : Filled M) (prop : ℕ) :
    (f.prop perf_mode_ prop).sm_info.type = f.sm_info.type ∧
      (f.prop perf_mode_ prop).sm_info.conf_levels_intf_version =
        f.sm_info.conf_levels_intf_version := by
  unfold Filled.prop
  split_ifs
  · rcases f.sm_info.ftrt_data_ with _ | data <;> exact ⟨rfl, rfl⟩
  · rcases f.sm_info.ftrt_data_ with _ | data <;> exact ⟨rfl, rfl⟩
  all_goals exact ⟨rfl, rfl⟩

/-- The fill loop keeps the type of the model and the version. -/
theorem fill_sm_info (perf_mode_ : Bool) (props : List ℕ) (f : Filled M) :
    (props.foldl (Filled.prop perf_mode_) f).sm_info.type = f.sm_info.type ∧
      (props.foldl (Filled.prop perf_mode_) f).sm_info.conf_levels_intf_version =
        f.sm_info.conf_levels_intf_version := by
  induction props generalizing f with
  | nil => exact ⟨rfl, rfl⟩
  | cons prop props ih =>
    obtain ⟨htype, hversion⟩ := ih (f.prop perf_mode_ prop)
    obtain ⟨htype', hversion'⟩ := prop_sm_info perf_mode_ f prop
    exact ⟨htype.trans htype', hversion.trans hversion'⟩

theorem startLevels_fill (perf_mode_ : Bool) (props : List ℕ) (f : Filled M) :
    I.startLevels (props.foldl (Filled.prop perf_mode_) f).sm_info = I.startLevels f.sm_info := by
  obtain ⟨htype, hversion⟩ := fill_sm_info perf_mode_ props f
  exact startLevels_congr rfl htype (congrArg (fun v => callbackLevels (I.template v)) hversion)

/-- The extended payload. -/
theorem fillExtended_congr (h : I.seen s = J.seen s) (data size : ℕ) :
    ((I.fillExtendedDetectionPayload s data size).1.seen s,
        (I.fillExtendedDetectionPayload s data size).2) =
      ((J.fillExtendedDetectionPayload s data size).1.seen s,
        (J.fillExtendedDetectionPayload s data size).2) := by
  obtain ⟨hview, -⟩ := Prod.mk.inj h
  have hperf : I.perf_mode_ = J.perf_mode_ := congrArg View.perf_mode_ hview
  unfold SVAInterface.fillExtendedDetectionPayload
  rw [view_info hview, hperf]
  split_ifs
  · rw [h]
  · cases hi : J.sm_info_map_[s]? with
    | none => rw [h]
    | some i =>
      dsimp only
      rw [seen_setInfo, seen_setInfo, view_rest hview, startLevels_fill, startLevels_fill,
        startLevels_of_seen h hi]

theorem packRecords_congr (h : I.seen s = J.seen s) (det_event : detection_event) (n : ℕ)
    (packed : st_confidence_levels_info × ℕ × ℕ) :
    ((I.packRecords s i det_event n packed).1.seen s, (I.packRecords s i det_event n packed).2) =
      ((J.packRecords s i det_event n packed).1.seen s,
        (J.packRecords s i det_event n packed).2) := by
  obtain ⟨conf_levels, lsw, msw⟩ := packed
  have hfill : ∀ f g data, _ := fun f g data =>
    Prod.mk.inj (fillExtended_congr (I := { I with readOffsets_ := f })
      (J := { J with readOffsets_ := g }) h data n)
  unfold SVAInterface.packRecords
  dsimp only
  refine Prod.ext (hfill _ _ _).1 (congrArg (Prod.mk (0 : ℤ)) ?_)
  congr 3
  exact congrArg Prod.fst (hfill _ _ _).2

/-- What is packed depends on what is seen, where a template that is read is. -/
theorem packDetectionOpaqueData_congr (env : EventEnv) (h : I.seen s = J.seen s)
    (hlevels : ∀ i, J.sm_info_map_[s]? = some i → J.module_type_ ≠ .ST_MODULE_TYPE_MMA →
      J.module_type_ ≠ .ST_MODULE_TYPE_HIST_CAP →
        i.type = .PAL_SOUND_MODEL_TYPE_KEYPHRASE) (n : ℕ) :
    (I.packDetectionOpaqueData env s n).map (fun packed => (packed.1.seen s, packed.2)) =
      (J.packDetectionOpaqueData env s n).map fun packed => (packed.1.seen s, packed.2) := by
  obtain ⟨hview, -⟩ := Prod.mk.inj h
  have hmodule : I.module_type_ = J.module_type_ := congrArg View.module_type_ hview
  have hdet : I.det_event_info_ s = J.det_event_info_ s := congrArg View.det_event_info_ hview
  have hstart : I.start_position_ = J.start_position_ := congrArg View.start_position_ hview
  have hbytes : I.bytes_to_read_ = J.bytes_to_read_ := congrArg View.bytes_to_read_ hview
  have hrefused : some (I.seen s, - EINVAL, ([] : List Record)) = some (J.seen s, - EINVAL, []) := by
    rw [h]
  unfold SVAInterface.packDetectionOpaqueData
  rw [hmodule, hdet, view_info hview, hstart, hbytes]
  split_ifs with hmma hhist
  · cases J.det_event_info_ s with
    | none => exact hrefused
    | some det_event =>
      obtain ⟨info, start_index, end_index⟩ := det_event
      cases info with
      | mma_event_info_ bytes =>
        obtain ⟨hseen, hfill⟩ := Prod.mk.inj (fillExtended_congr h
          (sizeof_st_param_header + env.sizeof_event_id_mma_detection_event_t) n)
        refine congrArg some (Prod.ext hseen ?_)
        exact congrArg (fun records : List Record × ℕ => ((0 : ℤ), _ :: records.1)) hfill
      | event_info_ _ => rfl
      | pdk_event_info_ _ => rfl
  · rw [Option.map_some, Option.map_some, h]
  · cases hi : J.sm_info_map_[s]? with
    | none => rfl
    | some i =>
      cases J.det_event_info_ s with
      | none => exact hrefused
      | some det_event =>
        dsimp only
        rw [initCallbackConfLevels_eq, initCallbackConfLevels_eq,
          callbackLevels_of_seen h hi ⟨hlevels i hi hmma hhist, hmma, hhist⟩, Option.map_map,
          Option.map_map]
        exact Option.map_congr fun packed _ => packRecords_congr h det_event n packed

/-- A generic event with opaque data is that of a module without levels. -/
theorem genericSize_reads (hsize : (I.genericSize env s).2 ≠ 0)
    (hmma : I.module_type_ ≠ .ST_MODULE_TYPE_MMA)
    (hhist : I.module_type_ ≠ .ST_MODULE_TYPE_HIST_CAP) : False := by
  unfold SVAInterface.genericSize at hsize
  rw [if_neg hmma, if_neg hhist] at hsize
  exact hsize rfl

/-- What is seen of an event, and of the interface after it. -/
def EventOut.seen (s : StreamId) (out : EventOut M) :=
  (out.intf.seen s, out.given)

/-- What is seen of an event that is packed. -/
theorem seen_of_packed (packed : Option (SVAInterface M × ℤ × List Record))
    (event : List Record → pal_st_recognition_event) (size : Option ℕ) :
    (packed.map fun packed =>
        (⟨packed.1, packed.2.1, some (event packed.2.2), size⟩ : EventOut M)).map (EventOut.seen s) =
      (packed.map fun packed => (packed.1.seen s, packed.2)).map fun res =>
        (res.1, res.2.1, some (event res.2.2), size) := by
  rw [Option.map_map, Option.map_map]
  rfl

/-- **An event depends on what is seen.** -/
theorem generateCallbackEvent_congr (env : EventEnv) (h : I.seen s = J.seen s) :
    (I.generateCallbackEvent env s).map (EventOut.seen s) =
      (J.generateCallbackEvent env s).map (EventOut.seen s) := by
  obtain ⟨hview, -⟩ := Prod.mk.inj h
  have hsize := getExtendedPayloadSize_congr hview
  have hmodule : I.module_type_ = J.module_type_ := congrArg View.module_type_ hview
  have hmedia : I.in_media_config = J.in_media_config := congrArg View.in_media_config hview
  have hfailed : ∀ (status : ℤ) (size : Option ℕ),
      (some ⟨I, status, none, size⟩ : Option (EventOut M)).map (EventOut.seen s) =
        (some ⟨J, status, none, size⟩ : Option (EventOut M)).map (EventOut.seen s) := by
    intro status size
    exact congrArg (fun x => some (x, (status, none, size))) h
  unfold SVAInterface.generateCallbackEvent
  rw [view_info hview]
  cases hi : J.sm_info_map_[s]? with
  | none => exact hfailed _ _
  | some i =>
    dsimp only
    cases htype : i.type with
    | PAL_SOUND_MODEL_TYPE_KEYPHRASE =>
      dsimp only
      split_ifs
      · exact hfailed _ _
      · cases i.rec_config with
        | none => exact hfailed _ _
        | some rec_config =>
          have hpack := fun n => packDetectionOpaqueData_congr env h
            (fun j hj _ _ => by rw [← Option.some.inj (hi.symm.trans hj), htype]) n
          dsimp only
          rw [seen_of_packed, seen_of_packed, hsize, hpack]
          unfold SVAInterface.keyphraseEvent SVAInterface.keyphraseSize
          rw [hmedia, hmodule]
    | PAL_SOUND_MODEL_TYPE_GENERIC =>
      have hgeneric : I.genericSize env s = J.genericSize env s := by
        unfold SVAInterface.genericSize
        rw [hmodule, hsize]
      dsimp only
      rw [hgeneric]
      split_ifs with hcalloc hopaque
      · exact hfailed _ _
      · cases i.rec_config with
        | none => rfl
        | some rec_config =>
          have hpack := packDetectionOpaqueData_congr env h
            (fun j _ hmma hhist => (genericSize_reads hopaque hmma hhist).elim) (J.genericSize env s).1
          dsimp only
          rw [seen_of_packed, seen_of_packed, hpack]
          unfold SVAInterface.genericEvent
          rw [hmedia]
      · cases i.rec_config with
        | none => rfl
        | some rec_config =>
          dsimp only
          rw [seen_of_packed, seen_of_packed, Option.map_some, Option.map_some, h]
          unfold SVAInterface.genericEvent
          rw [hmedia]
          rfl
    | PAL_SOUND_MODEL_TYPE_UNKNOWN => exact hfailed _ _

end Event

/-! ### The interface after an event -/

/-- What an event of `t` leads to: a read offset is set, and what the interface keeps of the stream is
replaced without changing the type of its model and its version. -/
inductive SVAInterface.EventLeads {M : Type} (I : SVAInterface M) (t : StreamId) :
    SVAInterface M → Prop
  | kept (offsets : StreamId → ℕ) : EventLeads I t { I with readOffsets_ := offsets }
  | filled (offsets : StreamId → ℕ) {i i' : sound_model_info M} (hi : I.sm_info_map_[t]? = some i)
      (htype : i'.type = i.type)
      (hversion : i'.conf_levels_intf_version = i.conf_levels_intf_version) :
    EventLeads I t ({ I with readOffsets_ := offsets }.setInfo t i')

section Leads

variable {M : Type} {I I' : SVAInterface M} {s t : StreamId} {i : sound_model_info M} {env : EventEnv}

/-- An event of another stream is not seen. -/
theorem seen_of_eventLeads_of_ne (ht : t ≠ s) (h : I.EventLeads t I') : I'.seen s = I.seen s := by
  cases h with
  | kept offsets => rfl
  | filled offsets hi htype hversion => exact seen_setInfo_of_ne ht _

/-- An event changes nothing that events start from. -/
theorem ownLevels_of_eventLeads (h : I.EventLeads t I') (s : StreamId) :
    I'.ownLevels s = I.ownLevels s := by
  by_cases ht : t = s
  · subst ht
    cases h with
    | kept offsets => rfl
    | @filled offsets i i' hi htype hversion =>
      unfold SVAInterface.ownLevels
      rw [SVAInterface.setInfo_getElem?_self, hi]
      exact startLevels_congr rfl htype (by rw [hversion]; rfl)
  · exact congrArg Prod.snd (seen_of_eventLeads_of_ne ht h)

theorem eventLeads_of_offsets {offsets : StreamId → ℕ}
    (h : SVAInterface.EventLeads { I with readOffsets_ := offsets } t I') : I.EventLeads t I' := by
  cases h with
  | kept offsets => exact .kept offsets
  | filled offsets hi htype hversion => exact .filled offsets hi htype hversion

theorem fillExtended_leads (data size : ℕ) :
    I.EventLeads t (I.fillExtendedDetectionPayload t data size).1 := by
  unfold SVAInterface.fillExtendedDetectionPayload
  split_ifs
  · exact .kept _
  · cases hi : I.sm_info_map_[t]? with
    | none => exact .kept _
    | some i =>
      obtain ⟨htype, hversion⟩ := fill_sm_info I.perf_mode_ i.det_prop_list ⟨i, [], data⟩
      exact .filled I.readOffsets_ hi htype hversion

theorem packRecords_leads (det_event : detection_event) (n : ℕ)
    (packed : st_confidence_levels_info × ℕ × ℕ) :
    I.EventLeads t (I.packRecords t i det_event n packed).1 := by
  obtain ⟨conf_levels, lsw, msw⟩ := packed
  unfold SVAInterface.packRecords
  exact eventLeads_of_offsets (fillExtended_leads _ _)

theorem packDetectionOpaqueData_leads {n : ℕ} {packed : SVAInterface M × ℤ × List Record}
    (h : I.packDetectionOpaqueData env t n = some packed) : I.EventLeads t packed.1 := by
  unfold SVAInterface.packDetectionOpaqueData at h
  split_ifs at h
  · cases hdet : I.det_event_info_ t with
    | none =>
      rw [hdet] at h
      cases h
      exact .kept _
    | some det_event =>
      rw [hdet] at h
      obtain ⟨info, start_index, end_index⟩ := det_event
      cases info with
      | mma_event_info_ bytes =>
        cases h
        exact fillExtended_leads _ _
      | event_info_ _ => cases h
      | pdk_event_info_ _ => cases h
  · cases h
    exact .kept _
  · cases hi : I.sm_info_map_[t]? with
    | none =>
      rw [hi] at h
      cases h
    | some i =>
      cases hdet : I.det_event_info_ t with
      | none =>
        rw [hi, hdet] at h
        cases h
        exact .kept _
      | some det_event =>
        rw [hi, hdet] at h
        obtain ⟨levels, -, rfl⟩ := Option.map_eq_some_iff.mp h
        exact packRecords_leads det_event n levels

/-- **The interface after an event.** -/
theorem generateCallbackEvent_leads {out : EventOut M}
    (h : I.generateCallbackEvent env t = some out) : I.EventLeads t out.intf := by
  unfold SVAInterface.generateCallbackEvent at h
  cases hi : I.sm_info_map_[t]? with
  | none =>
    rw [hi] at h
    cases h
    exact .kept _
  | some i =>
    rw [hi] at h
    dsimp only at h
    cases htype : i.type with
    | PAL_SOUND_MODEL_TYPE_KEYPHRASE =>
      rw [htype] at h
      dsimp only at h
      split_ifs at h
      · cases h
        exact .kept _
      · cases hconfig : i.rec_config with
        | none =>
          rw [hconfig] at h
          cases h
          exact .kept _
        | some rec_config =>
          rw [hconfig] at h
          obtain ⟨packed, hpacked, rfl⟩ := Option.map_eq_some_iff.mp h
          exact packDetectionOpaqueData_leads hpacked
    | PAL_SOUND_MODEL_TYPE_GENERIC =>
      rw [htype] at h
      dsimp only at h
      split_ifs at h
      · cases h
        exact .kept _
      · cases hconfig : i.rec_config with
        | none =>
          rw [hconfig] at h
          cases h
        | some rec_config =>
          rw [hconfig] at h
          obtain ⟨packed, hpacked, rfl⟩ := Option.map_eq_some_iff.mp h
          exact packDetectionOpaqueData_leads hpacked
      · cases hconfig : i.rec_config with
        | none =>
          rw [hconfig] at h
          cases h
        | some rec_config =>
          rw [hconfig] at h
          cases h
          exact .kept _
    | PAL_SOUND_MODEL_TYPE_UNKNOWN =>
      rw [htype] at h
      cases h
      exact .kept _

end Leads

end AudioReachPal.Sva
