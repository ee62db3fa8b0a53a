import AudioReachPal.Sva.Event
import Mathlib.Tactic.Ring

/-!
# When a detection event is well formed

`getExtendedPayloadSize` counts every property of the list that the stream has collected; the fill
loop writes the keyword buffer for the first one that asks for it and frees it. A list that names the
buffer twice therefore gets more room than records. The size formulas and the writer also disagree
for a keyphrase model of an MMA module, whose second record is never written, and of a history
capture module, which gets the room of a full event. Everywhere else the records fill the data
exactly, as long as the 32-bit sizes do not wrap around.
-/

namespace AudioReachPal.Sva

open AudioReachPal.Lib

variable {M : Type} {env : EventEnv} {I : SVAInterface M} {s : StreamId}

/-! ### The extended payload -/

/-- What a property takes, the keyword buffer apart. -/
def fixedPropSize (prop : ℕ) : ℕ :=
  if prop = ST_PARAM_KEY_SSTAGE_KW_ENGINE_INFO ∨ prop = ST_PARAM_KEY_SSTAGE_UV_ENGINE_INFO then
    sizeof_st_param_header + sizeof_st_det_engine_stats
  else if prop = ST_PARAM_KEY_IS_BARGEIN then sizeof_st_param_header + sizeof_st_det_perf_mode_info
  else 0

namespace sound_model_info

/-- The room for one keyword buffer record. -/
def bufferSize (i : sound_model_info M) : ℕ :=
  if i.ftrt_data_size_ ≠ 0 then sizeof_st_param_header + i.ftrt_data_size_ else 0

/-- The room counted for a list of properties. -/
def counted (i : sound_model_info M) (props : List ℕ) : ℕ :=
  props.count ST_PARAM_KEY_KEYWORD_BUFFER * i.bufferSize + (props.map fixedPropSize).sum

/-- The part of it that stays unwritten: every keyword buffer but the first, or all of them where
there is no data. -/
def unwritten (i : sound_model_info M) (props : List ℕ) : ℕ :=
  (props.count ST_PARAM_KEY_KEYWORD_BUFFER - if i.ftrt_data_.isSome then 1 else 0) * i.bufferSize

/-- The size of the extended payload: the room counted, in 32 bits. -/
def extendedSize (i : sound_model_info M) : ℕ := i.counted i.det_prop_list % 2 ^ 32

/-- What stays unwritten is what the 32-bit sum drops: nothing, for sums below `2 ^ 32`. -/
def FillsExtended (i : sound_model_info M) : Prop :=
  i.extendedSize = 0 ∨
    i.unwritten i.det_prop_list = 2 ^ 32 * (i.counted i.det_prop_list / 2 ^ 32)

theorem propSize_eq (i : sound_model_info M) (prop : ℕ) :
    i.propSize prop =
      if prop = ST_PARAM_KEY_KEYWORD_BUFFER then i.bufferSize else fixedPropSize prop := by
  unfold propSize bufferSize fixedPropSize
  rfl

theorem fixedPropSize_buffer : fixedPropSize ST_PARAM_KEY_KEYWORD_BUFFER = 0 := rfl

theorem counted_cons (i : sound_model_info M) (prop : ℕ) (props : List ℕ) :
    i.counted (prop :: props) = i.propSize prop + i.counted props := by
  rw [propSize_eq]
  unfold counted
  by_cases hp : prop = ST_PARAM_KEY_KEYWORD_BUFFER
  · subst hp
    simp [fixedPropSize_buffer]
    ring
  · rw [if_neg hp, List.count_cons_of_ne hp, List.map_cons, List.sum_cons]
    ring

end sound_model_info

open sound_model_info

theorem foldl_propSize (i : sound_model_info M) (props : List ℕ) (size : ℕ) :
    props.foldl (fun size prop => word32 (size + i.propSize prop)) (word32 size) =
      word32 (size + i.counted props) := by
  induction props generalizing size with
  | nil => simp [counted]
  | cons prop props ih =>
    have hword : word32 (word32 size + i.propSize prop) = word32 (size + i.propSize prop) := by
      unfold word32
      omega
    rw [List.foldl_cons, hword, ih, counted_cons, Nat.add_assoc]

theorem getExtendedPayloadSize_eq {i : sound_model_info M} (hi : I.sm_info_map_[s]? = some i) :
    I.getExtendedPayloadSize s = i.extendedSize := by
  unfold SVAInterface.getExtendedPayloadSize extendedSize
  rw [hi]
  simpa [word32] using foldl_propSize i i.det_prop_list 0

/-! ### The fill loop -/

/-- What the loop writes for one property. -/
def Filled.propWritten (f : Filled M) (prop : ℕ) : ℕ :=
  if prop = ST_PARAM_KEY_KEYWORD_BUFFER then
    if f.sm_info.ftrt_data_.isSome then f.sm_info.bufferSize else 0
  else fixedPropSize prop

/-- **One property.** It extends a chain by what it writes, and the keyword buffer is gone after
the first property that asks for it. -/
theorem Filled.prop_spec (perf_mode_ : Bool) (f : Filled M) (prop p : ℕ)
    (hf : Tlv.Chain sizeof_st_param_header p f.records f.ptr) :
    Tlv.Chain sizeof_st_param_header p (f.prop perf_mode_ prop).records
        (f.prop perf_mode_ prop).ptr ∧
      (f.prop perf_mode_ prop).ptr = f.ptr + f.propWritten prop ∧
      (f.prop perf_mode_ prop).sm_info =
        (if prop = ST_PARAM_KEY_KEYWORD_BUFFER ∧ f.sm_info.ftrt_data_.isSome then
          { f.sm_info with ftrt_data_ := none, ftrt_data_size_ := 0 } else f.sm_info) := by
  have hput : ∀ (key size : ℕ) (payload : Payload),
      Tlv.Chain sizeof_st_param_header p (f.put key size payload).records
          (f.put key size payload).ptr ∧
        (f.put key size payload).ptr = f.ptr + (sizeof_st_param_header + size) ∧
        (f.put key size payload).sm_info = f.sm_info := by
    intro key size payload
    refine ⟨hf.append ?_, rfl, rfl⟩
    simp [Filled.put, Tlv.size]
  unfold Filled.prop Filled.propWritten
  by_cases hbuffer : prop = ST_PARAM_KEY_KEYWORD_BUFFER
  · subst hbuffer
    rcases hdata : f.sm_info.ftrt_data_ with _ | data
    · simpa using hf
    · by_cases hsize : f.sm_info.ftrt_data_size_ = 0
      · simpa [hsize, bufferSize] using hf
      · simpa [hsize, bufferSize, Filled.put] using (hput ST_PARAM_KEY_KEYWORD_BUFFER _ _).1
  · unfold fixedPropSize
    simp only [hbuffer, if_false, false_and]
    by_cases hkw : prop = ST_PARAM_KEY_SSTAGE_KW_ENGINE_INFO
    · simp only [hkw, true_or, if_true]
      exact hput _ _ _
    · by_cases huv : prop = ST_PARAM_KEY_SSTAGE_UV_ENGINE_INFO
      · simp only [if_neg hkw, if_pos huv, if_pos (Or.inr huv : _ ∨ _)]
        exact hput _ _ _
      · by_cases hbargein : prop = ST_PARAM_KEY_IS_BARGEIN
        · simp only [hkw, huv, if_pos hbargein, or_self, if_false]
          exact hput _ _ _
        · simp only [hkw, huv, hbargein, or_self, if_false]
          exact ⟨hf, rfl, trivial⟩

/-- What the loop writes for a list of properties. -/
def sound_model_info.written (i : sound_model_info M) (props : List ℕ) : ℕ :=
  (if ST_PARAM_KEY_KEYWORD_BUFFER ∈ props ∧ i.ftrt_data_.isSome then i.bufferSize else 0) +
    (props.map fixedPropSize).sum

theorem written_add_unwritten (i : sound_model_info M) (props : List ℕ) :
    i.written props + i.unwritten props = i.counted props := by
  unfold sound_model_info.written unwritten counted
  by_cases hmem : ST_PARAM_KEY_KEYWORD_BUFFER ∈ props
  · have hpos := List.count_pos_iff.mpr hmem
    obtain ⟨n, hn⟩ : ∃ n, props.count ST_PARAM_KEY_KEYWORD_BUFFER = n + 1 :=
      ⟨_, (Nat.succ_pred_eq_of_pos hpos).symm⟩
    rw [hn]
    by_cases hdata : i.ftrt_data_.isSome
    · simp [hmem, hdata]
      ring
    · simp [hdata]
      ring
  · simp [hmem, List.count_eq_zero_of_not_mem hmem]

/-- **The loop.** It writes a chain of records, as many bytes as `written` says. -/
theorem fill_spec (perf_mode_ : Bool) (props : List ℕ) (p : ℕ) :
    ∀ f : Filled M, Tlv.Chain sizeof_st_param_header p f.records f.ptr →
      Tlv.Chain sizeof_st_param_header p (props.foldl (Filled.prop perf_mode_) f).records
          (props.foldl (Filled.prop perf_mode_) f).ptr ∧
        (props.foldl (Filled.prop perf_mode_) f).ptr = f.ptr + f.sm_info.written props := by
  induction props with
  | nil => exact fun f hf => ⟨hf, by simp [sound_model_info.written]⟩
  | cons prop props ih =>
    intro f hf
    obtain ⟨hchain, hptr, hinfo⟩ := f.prop_spec perf_mode_ prop p hf
    obtain ⟨hrest, hend⟩ := ih _ hchain
    refine ⟨hrest, ?_⟩
    rw [List.foldl_cons, hend, hptr, hinfo, Nat.add_assoc]
    congr 1
    unfold Filled.propWritten sound_model_info.written
    by_cases hbuffer : prop = ST_PARAM_KEY_KEYWORD_BUFFER
    · -- the first keyword buffer leaves no data for the next one
      by_cases hdata : f.sm_info.ftrt_data_.isSome
      · simp [hbuffer, hdata, fixedPropSize_buffer]
      · simp [hbuffer, hdata, fixedPropSize_buffer]
    · simp [hbuffer, Ne.symm hbuffer]
      ring

/-- What `fillExtendedDetectionPayload` writes where it is given the extended size. -/
theorem fillExtended_spec {i : sound_model_info M} (hi : I.sm_info_map_[s]? = some i) (data : ℕ) :
    Tlv.Chain sizeof_st_param_header data
      (I.fillExtendedDetectionPayload s data i.extendedSize).2.1
      (data + if i.extendedSize = 0 then 0 else i.written i.det_prop_list) := by
  unfold SVAInterface.fillExtendedDetectionPayload
  by_cases hsize : i.extendedSize = 0
  · simp [hsize]
  · obtain ⟨hchain, hptr⟩ := fill_spec I.perf_mode_ i.det_prop_list data ⟨i, [], data⟩ rfl
    simpa [hsize, hi, ← hptr] using hchain

/-- The fill loop ends where the size says exactly when what it leaves out is what the sum
drops. -/
theorem fillsExtended_iff (i : sound_model_info M) :
    (if i.extendedSize = 0 then 0 else i.written i.det_prop_list) = i.extendedSize ↔
      i.FillsExtended := by
  unfold FillsExtended
  have hsum := written_add_unwritten i i.det_prop_list
  by_cases hsize : i.extendedSize = 0
  · simp [hsize]
  · simp only [hsize, if_false, false_or]
    unfold extendedSize
    omega

/-! ### The confidence levels in use -/

/-- A loop over the first `n` elements, seen from these. -/
theorem take_mapIdx_lt {α β : Type*} (f : α → β) (g : α → β) (l : List α) (n : ℕ) :
    (l.mapIdx fun i x => if i < n then f x else g x).take n = (l.take n).map f := by
  refine List.ext_getElem (by simp) ?_
  intro i hi _
  have hn : i < n := by
    rw [List.length_take] at hi
    omega
  simp [hn]

namespace st_confidence_levels_info

theorem used_ids (c : st_confidence_levels_info) : c.ids.used = c.used.map (·.ids) := by
  unfold used ids
  rw [Vector.toList_mapIdx]
  exact take_mapIdx_lt _ _ _ _

theorem used_zero : zero.used = [] := rfl

/-- Whether a first stage model is in use. -/
def usesGMM (c : st_confidence_levels_info) : Bool :=
  c.used.any fun sm => sm.sm_id == ST_SM_ID_SVA_F_STAGE_GMM

theorem usesGMM_ids (c : st_confidence_levels_info) : c.ids.usesGMM = c.usesGMM := by
  unfold usesGMM
  rw [used_ids, List.any_map]
  rfl

theorem readsDetLevels_ids (c : st_confidence_levels_info) :
    c.ids.readsDetLevels = c.readsDetLevels := by
  unfold readsDetLevels
  rw [used_ids, List.any_map]
  rfl

end st_confidence_levels_info

/-! ### What must not be out of place -/

/-- The keyword a PDK detection reports for a model. -/
def detection_event_info_pdk.keyword (stat : Option model_stats) : ℕ :=
  (stat.getD ⟨0, 0, 0, 0, 0⟩).detected_keyword_id

namespace SVAInterface

/-- The cached levels stay in their arrays, and the detection is one of the stream's kind: with a
keyword that a PDK model can have, or with the levels that a GMM model was queried for. -/
def DetectionFits (I : SVAInterface M) (i : sound_model_info M) (info : DetectionInfo) : Prop :=
  (∀ t ∈ I.template i.conf_levels_intf_version, t.Fits) ∧
    if 0 < i.model_id then
      ∃ d stat, info = .pdk_event_info_ d ∧
        d.find i.model_id (List.range d.num_detected_models) = some stat ∧
        ∀ t ∈ I.template i.conf_levels_intf_version, t.usesGMM →
          detection_event_info_pdk.keyword stat < ST_MAX_KEYWORDS
    else
      (∃ d, info = .event_info_ d) ∧
        ∀ t ∈ I.template i.conf_levels_intf_version, t.readsDetLevels →
          ∃ x ∈ i.info, x.det_cf_levels_ ≠ []

/-- `packDetectionOpaqueData` stays in its arrays and follows no null pointer. -/
def Packable (I : SVAInterface M) (s : StreamId) (i : sound_model_info M) : Prop :=
  ∀ ev ∈ I.det_event_info_ s,
    if I.module_type_ = .ST_MODULE_TYPE_MMA then ∃ bytes, ev.info = .mma_event_info_ bytes
    else I.module_type_ = .ST_MODULE_TYPE_HIST_CAP ∨ I.DetectionFits i ev.info

end SVAInterface

theorem packEventConfLevels_isSome {past : ℕ} {i : sound_model_info M}
    {c : st_confidence_levels_info} :
    (packEventConfLevels past i c).isSome ↔
      (c.readsDetLevels → ∃ x ∈ i.info, x.det_cf_levels_ ≠ []) := by
  unfold packEventConfLevels
  rcases hinfo : i.info with _ | info
  · by_cases hreads : c.readsDetLevels
    · simp [hreads]
    · simp [hreads]
  · by_cases hreads : c.readsDetLevels
    · by_cases hempty : info.det_cf_levels_ = []
      · simp [hreads, hempty]
      · simp [hreads, hempty]
    · simp [hreads]

theorem fillCallbackConfLevels_isSome {i : sound_model_info M} {c : st_confidence_levels_info}
    {id level : ℕ} :
    (fillCallbackConfLevels i c id level).isSome ↔ (c.usesGMM → id < ST_MAX_KEYWORDS) := by
  unfold fillCallbackConfLevels st_confidence_levels_info.usesGMM
  by_cases hgmm : (c.used.any fun sm => sm.sm_id == ST_SM_ID_SVA_F_STAGE_GMM) = true
  · by_cases hid : ST_MAX_KEYWORDS ≤ id
    · simp only [hgmm, hid]
      simpa using hid
    · simp only [hgmm, hid]
      simpa using Nat.lt_of_not_le hid
  · simp only [hgmm]
    simp

theorem packConfLevels_isSome {i : sound_model_info M} {info : DetectionInfo}
    {c : st_confidence_levels_info} :
    (packConfLevels env i info c).isSome ↔
      if 0 < i.model_id then
        ∃ d stat, info = .pdk_event_info_ d ∧
          d.find i.model_id (List.range d.num_detected_models) = some stat ∧
          (c.usesGMM → detection_event_info_pdk.keyword stat < ST_MAX_KEYWORDS)
      else
        (∃ d, info = .event_info_ d) ∧
          (c.readsDetLevels → ∃ x ∈ i.info, x.det_cf_levels_ ≠ []) := by
  unfold packConfLevels
  by_cases hid : 0 < i.model_id
  · simp only [hid, if_true]
    cases info with
    | pdk_event_info_ d =>
      rcases hfind : d.find i.model_id (List.range d.num_detected_models) with _ | stat
      · simp [hfind]
      · simpa [hfind, detection_event_info_pdk.keyword] using fillCallbackConfLevels_isSome
    | event_info_ d => simp
    | mma_event_info_ d => simp
  · simp only [hid, if_false]
    cases info with
    | pdk_event_info_ d => simp
    | event_info_ d => simpa using packEventConfLevels_isSome
    | mma_event_info_ d => simp

/-- The levels are copied and packed exactly where the detection fits. -/
theorem detectionFits_iff {i : sound_model_info M} {info : DetectionInfo} :
    ((I.initCallbackConfLevels i.conf_levels_intf_version).bind
        (packConfLevels env i info)).isSome ↔ I.DetectionFits i info := by
  unfold SVAInterface.initCallbackConfLevels SVAInterface.DetectionFits
  rcases I.template i.conf_levels_intf_version with _ | t
  · rw [Option.bind_some, packConfLevels_isSome]
    simp [st_confidence_levels_info.usesGMM, st_confidence_levels_info.readsDetLevels,
      st_confidence_levels_info.used_zero]
  · by_cases hfits : t.Fits
    · simp only [hfits, if_true]
      rw [Option.bind_some, packConfLevels_isSome, t.usesGMM_ids, t.readsDetLevels_ids]
      simp [hfits]
    · simp [hfits]

/-! ### The packed records -/

namespace SVAInterface

/-- Where the records end that `packDetectionOpaqueData` writes for `ext_payload_size` bytes of
extended payload. -/
def packedSize (env : EventEnv) (I : SVAInterface M) (version ext_payload_size : ℕ) : ℕ :=
  if I.module_type_ = .ST_MODULE_TYPE_MMA then
    sizeof_st_param_header + env.sizeof_event_id_mma_detection_event_t + ext_payload_size
  else if I.module_type_ = .ST_MODULE_TYPE_HIST_CAP then
    sizeof_st_param_header + sizeof_st_mmap_index_info
  else
    3 * sizeof_st_param_header + sizeof_st_timestamp_info + sizeof_st_keyword_indices_info +
      confLevelsSize version + ext_payload_size

end SVAInterface

/-- The extended payload of a stream whose loop fills it is a chain of that size. -/
theorem sound_model_info.FillsExtended.chain {i : sound_model_info M} (hfills : i.FillsExtended)
    (hi : I.sm_info_map_[s]? = some i) (data : ℕ) :
    Tlv.Chain sizeof_st_param_header data
      (I.fillExtendedDetectionPayload s data i.extendedSize).2.1 (data + i.extendedSize) := by
  have hchain := fillExtended_spec hi data
  rwa [(fillsExtended_iff i).mpr hfills] at hchain

theorem packRecords_chain {i : sound_model_info M} (hfills : i.FillsExtended)
    (hi : I.sm_info_map_[s]? = some i) (ev : detection_event)
    (levels : st_confidence_levels_info × ℕ × ℕ) :
    Tlv.Chain sizeof_st_param_header 0 (I.packRecords s i ev i.extendedSize levels).2.2
      (3 * sizeof_st_param_header + sizeof_st_timestamp_info + sizeof_st_keyword_indices_info +
        confLevelsSize i.conf_levels_intf_version + i.extendedSize) := by
  obtain ⟨conf_levels, lsw, msw⟩ := levels
  unfold SVAInterface.packRecords
  extract_lets size kw_at time_at ext_at captured offset J filled
  have hext : Tlv.Chain sizeof_st_param_header ext_at filled.2.1 (ext_at + i.extendedSize) :=
    hfills.chain (I := J) hi ext_at
  have hend : ext_at + i.extendedSize =
      3 * sizeof_st_param_header + sizeof_st_timestamp_info + sizeof_st_keyword_indices_info +
        confLevelsSize i.conf_levels_intf_version + i.extendedSize := by
    simp only [ext_at, time_at, kw_at, size]
    ring
  rw [hend] at hext
  refine ⟨rfl, (Nat.zero_add _).symm, ?_, ?_⟩
  · simp [Tlv.size, time_at, kw_at]
  · convert hext using 1
    simp [Tlv.size, ext_at, time_at, kw_at]

/-- The writer has something to report: a detection, or the index of a history buffer. -/
def SVAInterface.Reports (I : SVAInterface M) (s : StreamId) : Prop :=
  I.module_type_ = .ST_MODULE_TYPE_HIST_CAP ∨ (I.det_event_info_ s).isSome

/-- **The writer.** It leaves its arrays or follows a null pointer exactly where the detection does
not fit; it succeeds exactly where there is something to report, and has then written a chain. -/
theorem packDetectionOpaqueData_spec {i : sound_model_info M} (hfills : i.FillsExtended)
    (hi : I.sm_info_map_[s]? = some i) {ext : ℕ}
    (hext : I.module_type_ = .ST_MODULE_TYPE_HIST_CAP ∨ ext = i.extendedSize) :
    ((I.packDetectionOpaqueData env s ext).isSome ↔ I.Packable s i) ∧
      ∀ J status rs, I.packDetectionOpaqueData env s ext = some (J, status, rs) →
        (status = 0 ↔ I.Reports s) ∧
        (status = 0 → Tlv.Chain sizeof_st_param_header 0 rs
          (I.packedSize env i.conf_levels_intf_version ext)) := by
  unfold SVAInterface.packDetectionOpaqueData SVAInterface.Packable SVAInterface.packedSize
    SVAInterface.Reports
  by_cases hmma : I.module_type_ = .ST_MODULE_TYPE_MMA
  · -- one record and the extended payload
    have hext : ext = i.extendedSize := hext.resolve_left (by simp [hmma])
    simp only [hmma, if_true]
    rcases hev : I.det_event_info_ s with _ | ⟨info, start_index, end_index⟩
    · refine ⟨by simp, ?_⟩
      rintro J status rs ⟨⟩
      simp [EINVAL]
    · cases info with
      | event_info_ d => simp
      | pdk_event_info_ d => simp
      | mma_event_info_ bytes =>
        refine ⟨by simp, ?_⟩
        rintro J status rs ⟨⟩
        refine ⟨by simp, fun _ => ⟨rfl, ?_⟩⟩
        rw [hext]
        simpa [Tlv.size] using hfills.chain hi _
  · simp only [hmma, if_false]
    by_cases hhist : I.module_type_ = .ST_MODULE_TYPE_HIST_CAP
    · simp [hhist, Tlv.size]
    · have hext : ext = i.extendedSize := hext.resolve_left hhist
      simp only [hhist, if_false, false_or, hi]
      rcases hev : I.det_event_info_ s with _ | ev
      · refine ⟨by simp, ?_⟩
        rintro J status rs ⟨⟩
        simp [EINVAL]
      · refine ⟨?_, ?_⟩
        · rw [Option.isSome_map, detectionFits_iff]
          simp
        · intro J status rs hpack
          obtain ⟨levels, -, hpack⟩ := Option.map_eq_some_iff.mp hpack
          have hstatus : (I.packRecords s i ev ext levels).2.1 = 0 := rfl
          have hchain := packRecords_chain hfills hi ev levels
          rw [← hext] at hchain
          rw [hpack] at hstatus hchain
          refine ⟨?_, fun _ => hchain⟩
          simpa using hstatus

/-! ### Well-formed events -/

/-- The opaque data is a sequence of records whose sizes add up to its size, none of them outside
it. -/
structure pal_st_recognition_event.WellFormed (ev : pal_st_recognition_event) : Prop where
  chain : Tlv.Chain sizeof_st_param_header 0 ev.opaque_data ev.data_size
  sum : (ev.opaque_data.map (Tlv.size sizeof_st_param_header)).sum = ev.data_size
  inside : ∀ r ∈ ev.opaque_data, r.offset + r.size sizeof_st_param_header ≤ ev.data_size

theorem wellFormed_iff {ev : pal_st_recognition_event} :
    ev.WellFormed ↔ Tlv.Chain sizeof_st_param_header 0 ev.opaque_data ev.data_size := by
  constructor
  · exact fun h => h.chain
  · intro h
    refine ⟨h, ?_, fun r hr => (h.inside hr).2⟩
    simpa using h.end_eq.symm

/-- An event built with status 0 is well formed, and the call stays in its arrays. -/
def EventOut.Good (out : Option (EventOut M)) : Prop :=
  match out with
  | none => False
  | some out => out.status = 0 → ∀ ev ∈ out.event, ev.WellFormed

/-- **Detection events are well-formed TLV.** What `generateCallbackEvent` produces is, and the
extended payload takes the bytes that `getExtendedPayloadSize` announces. -/
def EventLaw (env : EventEnv) (I : SVAInterface M) (s : StreamId) : Prop :=
  EventOut.Good (I.generateCallbackEvent env s) ∧
    ((I.fillExtendedDetectionPayload s 0 (I.getExtendedPayloadSize s)).2.1.map
      (Tlv.size sizeof_st_param_header)).sum = I.getExtendedPayloadSize s

/-- The records of a keyphrase event fill its size. -/
def SVAInterface.KeyphraseFits (env : EventEnv) (I : SVAInterface M) (s : StreamId)
    (i : sound_model_info M) : Prop :=
  if I.module_type_ = .ST_MODULE_TYPE_MMA then I.det_event_info_ s = none
  else if I.module_type_ = .ST_MODULE_TYPE_HIST_CAP then
    I.keyphraseSize env i.conf_levels_intf_version i.extendedSize =
      2 ^ 32 + sizeof_st_param_header + sizeof_st_mmap_index_info
  else
    ∀ ev ∈ I.det_event_info_ s, I.DetectionFits i ev.info ∧
      I.keyphraseSize env i.conf_levels_intf_version i.extendedSize < 2 ^ 32

/-- The records of a generic event fill its size. -/
def SVAInterface.GenericFits (env : EventEnv) (I : SVAInterface M) (s : StreamId)
    (i : sound_model_info M) : Prop :=
  I.module_type_ = .ST_MODULE_TYPE_MMA → ∀ ev ∈ I.det_event_info_ s,
    (∃ bytes, ev.info = .mma_event_info_ bytes) ∧
      sizeof_st_param_header + env.sizeof_event_id_mma_detection_event_t + i.extendedSize < 2 ^ 32

/-- When the events of a stream are well formed. -/
def EventOk (env : EventEnv) (I : SVAInterface M) (s : StreamId) : Prop :=
  ∀ i ∈ I.sm_info_map_[s]?, i.FillsExtended ∧
    (env.calloc →
      (i.type = .PAL_SOUND_MODEL_TYPE_KEYPHRASE → i.rec_config ≠ none → I.KeyphraseFits env s i) ∧
      (i.type = .PAL_SOUND_MODEL_TYPE_GENERIC → i.rec_config ≠ none ∧ I.GenericFits env s i))

/-- The second half of the law is a condition on the properties alone. -/
theorem extendedLaw_iff {i : sound_model_info M} (hi : I.sm_info_map_[s]? = some i) :
    ((I.fillExtendedDetectionPayload s 0 (I.getExtendedPayloadSize s)).2.1.map
        (Tlv.size sizeof_st_param_header)).sum = I.getExtendedPayloadSize s ↔
      i.FillsExtended := by
  rw [getExtendedPayloadSize_eq hi, ← fillsExtended_iff]
  have hsum := (fillExtended_spec hi 0).end_eq
  rw [Nat.zero_add, Nat.zero_add] at hsum
  rw [← hsum]

/-- An event whose data the writer packs is well formed exactly where the writer returns and ends
at the size announced. -/
theorem good_packed_iff {i : sound_model_info M} (hfills : i.FillsExtended)
    (hi : I.sm_info_map_[s]? = some i) {ext : ℕ}
    (hext : I.module_type_ = .ST_MODULE_TYPE_HIST_CAP ∨ ext = i.extendedSize)
    (mk : List Record → pal_st_recognition_event) (data_size : ℕ) (size : Option ℕ)
    (hmk : ∀ rs, (mk rs).opaque_data = rs ∧ (mk rs).data_size = data_size) :
    EventOut.Good ((I.packDetectionOpaqueData env s ext).map fun packed =>
        ⟨packed.1, packed.2.1, some (mk packed.2.2), size⟩) ↔
      I.Packable s i ∧
        (I.Reports s → I.packedSize env i.conf_levels_intf_version ext = data_size) := by
  obtain ⟨hsome, hspec⟩ : ((I.packDetectionOpaqueData env s ext).isSome ↔ I.Packable s i) ∧ _ :=
    packDetectionOpaqueData_spec hfills hi hext
  rw [← hsome]
  rcases hpack : I.packDetectionOpaqueData env s ext with _ | ⟨J, status, rs⟩
  · simp [EventOut.Good]
  · obtain ⟨hstatus, hchain⟩ := hspec J status rs hpack
    simp only [EventOut.Good, Option.map_some, Option.isSome_some, true_and, Option.mem_some_iff,
      forall_eq']
    rw [← hstatus]
    refine forall_congr' fun hzero => ?_
    obtain ⟨hrecords, hsize⟩ := hmk rs
    rw [wellFormed_iff, hrecords, hsize]
    exact (hchain hzero).iff_of_chain

theorem confLevelsSize_le (version : ℕ) : confLevelsSize version ≤ 8888 := by
  unfold confLevelsSize
  split_ifs
  · decide
  · decide

theorem keyphraseFits_iff {i : sound_model_info M} :
    (I.Packable s i ∧ (I.Reports s →
        I.packedSize env i.conf_levels_intf_version i.extendedSize =
          word32 (I.keyphraseSize env i.conf_levels_intf_version i.extendedSize))) ↔
      I.KeyphraseFits env s i := by
  have hext : i.extendedSize < 2 ^ 32 := Nat.mod_lt _ (by norm_num)
  have hconf := confLevelsSize_le i.conf_levels_intf_version
  unfold SVAInterface.Packable SVAInterface.Reports SVAInterface.packedSize
    SVAInterface.KeyphraseFits SVAInterface.keyphraseSize word32
  by_cases hmma : I.module_type_ = .ST_MODULE_TYPE_MMA
  · simp only [hmma, if_true, ne_eq, not_true, if_false, reduceCtorEq, false_or]
    rcases hev : I.det_event_info_ s with _ | ev
    · simp
    · -- the second record is missing, whatever the sizes are
      refine iff_of_false ?_ (by simp)
      rintro ⟨-, hsize⟩
      have hsize := hsize rfl
      simp only [sizeof_st_param_header, sizeof_tiuv_detection_result] at hsize
      omega
  · by_cases hhist : I.module_type_ = .ST_MODULE_TYPE_HIST_CAP
    · simp only [hhist, if_true, ne_eq, reduceCtorEq, not_false_eq_true, if_false, true_or,
        implies_true, true_and, forall_const]
      simp only [sizeof_st_param_header, sizeof_st_mmap_index_info, sizeof_st_timestamp_info,
        sizeof_st_keyword_indices_info]
      omega
    · simp only [hmma, hhist, if_false, ne_eq, not_false_eq_true, if_true, false_or]
      rcases hev : I.det_event_info_ s with _ | ev
      · simp
      · simp only [Option.mem_some_iff, forall_eq', Option.isSome_some, true_implies]
        refine and_congr_right fun _ => ?_
        rw [eq_comm, Nat.mod_eq_iff_lt (by norm_num)]

theorem genericFits_iff {i : sound_model_info M} (hfills : i.FillsExtended)
    (hi : I.sm_info_map_[s]? = some i) (mk : List Record → pal_st_recognition_event)
    (size : Option ℕ)
    (hmk : ∀ rs, (mk rs).opaque_data = rs ∧ (mk rs).data_size = word32 (I.genericSize env s).2) :
    EventOut.Good ((if (I.genericSize env s).2 ≠ 0 then
          I.packDetectionOpaqueData env s (I.genericSize env s).1
        else some (I, 0, [])).map fun packed =>
          ⟨packed.1, packed.2.1, some (mk packed.2.2), size⟩) ↔
      I.GenericFits env s i := by
  unfold SVAInterface.GenericFits
  by_cases hmma : I.module_type_ = .ST_MODULE_TYPE_MMA
  · have hsizes : I.genericSize env s = (i.extendedSize, sizeof_st_param_header +
        env.sizeof_event_id_mma_detection_event_t + i.extendedSize) := by
      unfold SVAInterface.genericSize
      rw [if_pos hmma, getExtendedPayloadSize_eq hi]
    rw [hsizes] at hmk ⊢
    rw [if_pos (by simp [sizeof_st_param_header]),
      good_packed_iff hfills hi (Or.inr rfl) mk _ size hmk]
    unfold SVAInterface.Packable SVAInterface.Reports SVAInterface.packedSize word32
    simp only [hmma, if_true, reduceCtorEq, false_or, true_implies]
    rcases hev : I.det_event_info_ s with _ | ev
    · simp
    · simp only [Option.mem_some_iff, forall_eq', Option.isSome_some, true_implies]
      refine and_congr_right fun _ => ?_
      rw [eq_comm, Nat.mod_eq_iff_lt (by norm_num)]
  · refine iff_of_true ?_ (fun h => absurd h hmma)
    by_cases hhist : I.module_type_ = .ST_MODULE_TYPE_HIST_CAP
    · have hsizes : I.genericSize env s =
          (0, sizeof_st_param_header + sizeof_st_mmap_index_info) := by
        unfold SVAInterface.genericSize
        rw [if_neg hmma, if_pos hhist]
      rw [hsizes] at hmk ⊢
      rw [if_pos (by decide), good_packed_iff hfills hi (Or.inl hhist) mk _ size hmk]
      refine ⟨?_, fun _ => ?_⟩
      · simp [SVAInterface.Packable, hhist]
      · simp [SVAInterface.packedSize, hhist, word32, sizeof_st_param_header,
          sizeof_st_mmap_index_info]
    · have hsizes : I.genericSize env s = (0, 0) := by
        unfold SVAInterface.genericSize
        rw [if_neg hmma, if_neg hhist]
      rw [hsizes] at hmk ⊢
      obtain ⟨hrecords, hsize⟩ := hmk []
      simp only [ne_eq, not_true, if_false, Option.map_some, EventOut.Good, Option.mem_some_iff,
        forall_eq', true_implies]
      rw [wellFormed_iff, hrecords, hsize]
      rfl

/-- **When detection events are well formed.** For every state of the interface and every stream,
exactly where the list of properties names the keyword buffer once at most while data is stored,
the records of the event's kind fill the size computed for it, and the detection fits. -/
theorem eventLaw_iff (env : EventEnv) (I : SVAInterface M) (s : StreamId) :
    EventLaw env I s ↔ EventOk env I s := by
  unfold EventLaw EventOk
  rcases hi : I.sm_info_map_[s]? with _ | i
  · simp [SVAInterface.generateCallbackEvent, SVAInterface.getExtendedPayloadSize,
      SVAInterface.fillExtendedDetectionPayload, hi, EventOut.Good]
  · rw [extendedLaw_iff hi, and_comm]
    simp only [Option.mem_some_iff, forall_eq']
    refine and_congr_right fun hfills => ?_
    unfold SVAInterface.generateCallbackEvent
    rw [hi]
    by_cases hcalloc : env.calloc
    · rcases htype : i.type with _ | _ | _
      · simp [EventOut.Good, htype]
      · rcases hconfig : i.rec_config with _ | config
        · simp [EventOut.Good, htype, hcalloc, hconfig, EINVAL]
        · simp only [htype, hcalloc, hconfig, getExtendedPayloadSize_eq hi, Bool.not_true,
            Bool.false_eq_true, if_false]
          rw [good_packed_iff hfills hi (Or.inr rfl) (I.keyphraseEvent env i config _)
            (word32 (I.keyphraseSize env i.conf_levels_intf_version i.extendedSize)) _
            (fun rs => ⟨rfl, rfl⟩), keyphraseFits_iff]
          simp
      · rcases hconfig : i.rec_config with _ | config
        · simp [EventOut.Good, htype, hcalloc, hconfig]
        · simp only [htype, hcalloc, hconfig, Bool.not_true, Bool.false_eq_true, if_false]
          rw [genericFits_iff hfills hi (I.genericEvent env i config _) _ (fun rs => ⟨rfl, rfl⟩)]
          simp
    · rcases htype : i.type with _ | _ | _
      · simp [EventOut.Good, htype, hcalloc]
      · simp [EventOut.Good, htype, hcalloc, ENOMEM]
      · simp [EventOut.Good, htype, hcalloc, ENOMEM]

/-! ### A buffer that is counted twice -/

/-- A keyphrase stream of a PDK module, as it is registered and configured. -/
def pdkStream : sound_model_info Unit where
  type := .PAL_SOUND_MODEL_TYPE_KEYPHRASE
  recognition_mode := 1
  model_id := 1281
  model_list := []
  model_phrases := 1
  rec_config := some ⟨true, [⟨0, 60, []⟩], 0, [], rfl, by decide⟩
  wakeup_config := some [60]
  wakeup_config_size := 1
  conf_levels_intf_version := 0
  buf_config := ⟨2000, 500⟩
  sec_threshold := []
  sec_det_level := []
  sec_kw_det_info := ⟨0, 0, 0, 0, 0, 0⟩
  sec_uv_det_info := ⟨0, 0, 0, 0, 0, 0⟩
  det_prop_list := []
  det_result := 0
  info := none
  state := true
  ftrt_data_ := none
  ftrt_data_size_ := 0

/-- The interface of that stream, with a detection of its only keyword. -/
def pdkInterface : SVAInterface Unit where
  module_type_ := .ST_MODULE_TYPE_PDK5
  sm_info_map_ := (∅ : Std.TreeMap StreamId (sound_model_info Unit)).insert 1 pdkStream
  in_media_config := ⟨16000, 16, 1⟩
  sound_model_info_ := ⟨none, 0, [], [], [], [], [], 0⟩
  perf_mode_ := false
  st_conf_levels_ := none
  st_conf_levels_v2_ := none
  default_buf_config_ := ⟨2000, 500⟩
  wakeup_config_ := ⟨0, 0, [], []⟩
  tiuv_threshold_config_ := []
  hist_cap_mode_config_ := []
  start_position_ := 0
  bytes_to_read_ := 0
  sm_merged_ := false
  det_event_info_ := fun s =>
    if s = 1 then
      some ⟨.pdk_event_info_ ⟨1, Vector.replicate _ ⟨1281, 0, 72, 0, 0⟩⟩, 16000, 32000⟩
    else none
  readOffsets_ := fun _ => 0
  origin_hist_buf_duration_ := fun _ => 0

/-- The property list names the keyword buffer in each of two calls, and two bytes are stored: 20
bytes are announced for the extended payload, and 10 are written. -/
theorem not_eventLaw_bufferTwice :
    ¬ EventLaw ⟨48, 1640, 104, true, 0⟩
      (((pdkInterface.setDetectionPropList 1 [ST_PARAM_KEY_KEYWORD_BUFFER]).1.setDetectionPropList 1
        [ST_PARAM_KEY_KEYWORD_BUFFER]).1.updateFtrtData true 1 [7, 7]) 1 := by
  rintro ⟨-, hext⟩
  revert hext
  decide

end AudioReachPal.Sva
