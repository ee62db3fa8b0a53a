import AudioReachPal.Sva.SoundModel
import AudioReachPal.Lib.Walk

/-!
# Parsing a detection payload

`parseDetectionPayloadPDK` and `parseDetectionPayloadGMM` walk over the records that the DSP sends and
store what they find as the detection of a stream. The payload is the bytes behind the generic
information, as many as it declares. The structures of the DSP are not part of the sources: where
their fields stand is a `DetectionLayout`, and a field is as wide as what it is copied to.
-/

namespace AudioReachPal.Sva.Dsp

open AudioReachPal.Lib

/-! ### Detection events -/

structure model_stats where
  detected_model_id : ℕ
  detected_keyword_id : ℕ
  best_channel_idx : ℕ
  best_confidence_level : ℕ
  kw_start_timestamp_lsw : ℕ
  kw_start_timestamp_msw : ℕ
  kw_end_timestamp_lsw : ℕ
  kw_end_timestamp_msw : ℕ
  detection_timestamp_lsw : ℕ
  detection_timestamp_msw : ℕ
  deriving DecidableEq, Repr

def sizeof_model_stats : ℕ := 10 * 4

structure detection_event_info_pdk where
  num_detected_models : ℕ
  detected_model_stats : Vector model_stats MAX_MODELS_SUPPORTED
  ftrt_data_length_in_us : ℕ
  deriving DecidableEq, Repr

structure detection_event_info where
  status : ℕ
  num_confidence_levels : ℕ
  confidence_levels : Vector ℕ 20
  kw_start_timestamp_lsw : ℕ
  kw_start_timestamp_msw : ℕ
  kw_end_timestamp_lsw : ℕ
  kw_end_timestamp_msw : ℕ
  detection_timestamp_lsw : ℕ
  detection_timestamp_msw : ℕ
  ftrt_data_length_in_us : ℕ
  deriving DecidableEq, Repr

/-- A `detection_event` with the member of its union that is in use. -/
structure detection_event (ι : Type) where
  info : ι
  det_model_id_ : ℕ
  ftrt_size_us_ : ℕ
  start_ts_ : ℕ
  end_ts_ : ℕ
  start_index_ : ℕ
  end_index_ : ℕ
  deriving DecidableEq, Repr

/-- The member in use. -/
inductive DetectionInfo where
  | event_info_ (info : detection_event_info)
  | pdk_event_info_ (info : detection_event_info_pdk)
  deriving DecidableEq, Repr

/-! What `calloc` leaves. -/

def model_stats.zero : model_stats := ⟨0, 0, 0, 0, 0, 0, 0, 0, 0, 0⟩

def detection_event_info_pdk.zero : detection_event_info_pdk := ⟨0, Vector.replicate _ .zero, 0⟩

def detection_event_info.zero : detection_event_info :=
  ⟨0, 0, Vector.replicate _ 0, 0, 0, 0, 0, 0, 0, 0⟩

namespace detection_event

variable {ι : Type}

def zero (info : ι) : detection_event ι := ⟨info, 0, 0, 0, 0, 0, 0⟩

/-- The event as it is stored. -/
def stored (f : ι → DetectionInfo) (det_ev : detection_event ι) : detection_event DetectionInfo :=
  ⟨f det_ev.info, det_ev.det_model_id_, det_ev.ftrt_size_us_, det_ev.start_ts_, det_ev.end_ts_,
    det_ev.start_index_, det_ev.end_index_⟩

end detection_event

/-- What the parsers see of the interface. -/
structure DetectionEvents where
  in_media_config : pal_media_config
  det_event_info_ : StreamId → Option (detection_event DetectionInfo)

/-- What the DSP sends: a generic information and as many bytes as it declares. -/
structure DetectionPayload where
  status : ℕ
  bytes : List UInt8
  payload_size_lt : bytes.length < 2 ^ 32

/-- The keys of the records, and where their fields stand behind the header. -/
structure DetectionLayout where
  header : RecordHeader
  KEY_ID_CONFIDENCE_LEVELS_INFO : ℕ
  KEY_ID_KWD_POSITION_INFO : ℕ
  KEY_ID_TIMESTAMP_INFO : ℕ
  KEY_ID_FTRT_DATA_INFO : ℕ
  KEY_ID_VOICE_UI_MULTI_MODEL_RESULT_INFO : ℕ
  keys : [KEY_ID_CONFIDENCE_LEVELS_INFO, KEY_ID_KWD_POSITION_INFO, KEY_ID_TIMESTAMP_INFO,
    KEY_ID_FTRT_DATA_INFO, KEY_ID_VOICE_UI_MULTI_MODEL_RESULT_INFO].Nodup
  number_of_confidence_values : ℕ
  confidence_levels : ℕ
  kw_start_timestamp_lsw : ℕ
  kw_start_timestamp_msw : ℕ
  kw_end_timestamp_lsw : ℕ
  kw_end_timestamp_msw : ℕ
  detection_timestamp_lsw : ℕ
  detection_timestamp_msw : ℕ
  ftrt_data_length_in_us : ℕ
  num_detected_models : ℕ
  sizeof_voice_ui_multi_model_result_info_t : ℕ

/-! ### The records -/

/-- Copies `n` elements from place `i` on; `none` is a place behind the array. -/
def copyInto {α : Type} {N : ℕ} (get : ℕ → Option α) : (n i : ℕ) → Vector α N → Option (Vector α N)
  | 0, _, v => some v
  | n + 1, i, v => if h : i < N then (get i).bind fun a => copyInto get n (i + 1) (v.set i a) else none

/-- The `model_stats` at `p`. -/
def readStats (bytes : List UInt8) (p : ℕ) : Option model_stats :=
  (slice bytes p sizeof_model_stats).map fun stat =>
    { detected_model_id := field stat 0
      detected_keyword_id := field stat 4
      best_channel_idx := field stat 8
      best_confidence_level := field stat 12
      kw_start_timestamp_lsw := field stat 16
      kw_start_timestamp_msw := field stat 20
      kw_end_timestamp_lsw := field stat 24
      kw_end_timestamp_msw := field stat 28
      detection_timestamp_lsw := field stat 32
      detection_timestamp_msw := field stat 36 }

section Records

variable (l : DetectionLayout) (bytes : List UInt8)

def readFtrtPDK (det_ev : detection_event detection_event_info_pdk) (ptr : ℕ) :
    Option (detection_event detection_event_info_pdk) :=
  (readLE bytes 4 (ptr + l.ftrt_data_length_in_us)).map fun ftrt =>
    { det_ev with
      info := { det_ev.info with ftrt_data_length_in_us := ftrt }
      ftrt_size_us_ := ftrt }

/-- Where the first `model_stats` of a result stands. -/
def model_stat (ptr : ℕ) : ℕ := ptr + l.sizeof_voice_ui_multi_model_result_info_t

/-- The pointer to a `model_stats` moves by `sizeof(struct model_stats)` elements. -/
def readResult (det_ev : detection_event detection_event_info_pdk) (ptr : ℕ) :
    Option (detection_event detection_event_info_pdk) :=
  (readLE bytes 4 (ptr + l.num_detected_models)).bind fun num_detected_models =>
    (readLE bytes 4 (model_stat l ptr)).bind fun det_model_id_ =>
      (copyInto (fun i => readStats bytes
          (model_stat l ptr + i * (sizeof_model_stats * sizeof_model_stats)))
        num_detected_models 0 det_ev.info.detected_model_stats).map fun detected_model_stats =>
          { det_ev with
            info := { det_ev.info with num_detected_models, detected_model_stats }
            det_model_id_ }

/-- The `switch` of `parseDetectionPayloadPDK`. -/
def visitPDK (det_ev : detection_event detection_event_info_pdk) (key_id ptr : ℕ) :
    Option (Visit (detection_event detection_event_info_pdk) ℤ) :=
  if key_id = l.KEY_ID_FTRT_DATA_INFO then (readFtrtPDK l bytes det_ev ptr).map .next
  else if key_id = l.KEY_ID_VOICE_UI_MULTI_MODEL_RESULT_INFO then
    (readResult l bytes det_ev ptr).map .next
  else some (.fail (- EINVAL))

def readLevels (det_ev : detection_event detection_event_info) (ptr : ℕ) :
    Option (detection_event detection_event_info) :=
  (readLE bytes 2 (ptr + l.number_of_confidence_values)).bind fun num_confidence_levels =>
    (copyInto (fun i => readLE bytes 1 (ptr + l.confidence_levels + i))
      num_confidence_levels 0 det_ev.info.confidence_levels).map fun confidence_levels =>
        { det_ev with info := { det_ev.info with num_confidence_levels, confidence_levels } }

def readPosition (det_ev : detection_event detection_event_info) (ptr : ℕ) :
    Option (detection_event detection_event_info) :=
  (readLE bytes 4 (ptr + l.kw_start_timestamp_lsw)).bind fun kw_start_timestamp_lsw =>
    (readLE bytes 4 (ptr + l.kw_start_timestamp_msw)).bind fun kw_start_timestamp_msw =>
      (readLE bytes 4 (ptr + l.kw_end_timestamp_lsw)).bind fun kw_end_timestamp_lsw =>
        (readLE bytes 4 (ptr + l.kw_end_timestamp_msw)).map fun kw_end_timestamp_msw =>
          { det_ev with
            info := { det_ev.info with
              kw_start_timestamp_lsw, kw_start_timestamp_msw, kw_end_timestamp_lsw,
              kw_end_timestamp_msw } }

def readTimestamp (det_ev : detection_event detection_event_info) (ptr : ℕ) :
    Option (detection_event detection_event_info) :=
  (readLE bytes 4 (ptr + l.detection_timestamp_lsw)).bind fun detection_timestamp_lsw =>
    (readLE bytes 4 (ptr + l.detection_timestamp_msw)).map fun detection_timestamp_msw =>
      { det_ev with
        info := { det_ev.info with detection_timestamp_lsw, detection_timestamp_msw } }

def readFtrtGMM (det_ev : detection_event detection_event_info) (ptr : ℕ) :
    Option (detection_event detection_event_info) :=
  (readLE bytes 4 (ptr + l.ftrt_data_length_in_us)).map fun ftrt =>
    { det_ev with
      info := { det_ev.info with ftrt_data_length_in_us := ftrt }
      ftrt_size_us_ := ftrt }

/-- The `switch` of `parseDetectionPayloadGMM`. -/
def visitGMM (det_ev : detection_event detection_event_info) (key_id ptr : ℕ) :
    Option (Visit (detection_event detection_event_info) ℤ) :=
  if key_id = l.KEY_ID_CONFIDENCE_LEVELS_INFO then (readLevels l bytes det_ev ptr).map .next
  else if key_id = l.KEY_ID_KWD_POSITION_INFO then (readPosition l bytes det_ev ptr).map .next
  else if key_id = l.KEY_ID_TIMESTAMP_INFO then (readTimestamp l bytes det_ev ptr).map .next
  else if key_id = l.KEY_ID_FTRT_DATA_INFO then (readFtrtGMM l bytes det_ev ptr).map .next
  else some (.fail (- EINVAL))

end Records

/-! ### The parsers -/

/-- A time stamp of two words. -/
def timestamp (lsw msw : ℕ) : ℕ := lsw + msw * 2 ^ 32

def usToBytes (in_media_config : pal_media_config) (input_us : ℕ) : ℕ :=
  word32 (size64 (word32 (word32 (in_media_config.sample_rate * in_media_config.bit_width) *
    in_media_config.channels) * input_us) / (8 * 1000000))

/-- `updateKeywordIndex`, on the event that was stored. -/
def updateKeywordIndex {ι : Type} (in_media_config : pal_media_config)
    (kwd_start_timestamp kwd_end_timestamp ftrt_start_timestamp : ℕ) (det_ev : detection_event ι) :
    detection_event ι :=
  if kwd_start_timestamp > kwd_end_timestamp then det_ev
  else if kwd_start_timestamp > ftrt_start_timestamp then
    { det_ev with
      start_index_ := usToBytes in_media_config (kwd_start_timestamp - ftrt_start_timestamp)
      end_index_ := usToBytes in_media_config (kwd_end_timestamp - ftrt_start_timestamp) }
  else det_ev

/-- What follows the loop of `parseDetectionPayloadPDK`. -/
def stampPDK (in_media_config : pal_media_config)
    (det_ev : detection_event detection_event_info_pdk) :
    detection_event detection_event_info_pdk :=
  let stat := det_ev.info.detected_model_stats[0]
  let kwd_start_timestamp := timestamp stat.kw_start_timestamp_lsw stat.kw_start_timestamp_msw
  let kwd_end_timestamp := timestamp stat.kw_end_timestamp_lsw stat.kw_end_timestamp_msw
  let ftrt_start_timestamp := sub64
    (timestamp stat.detection_timestamp_lsw stat.detection_timestamp_msw)
    det_ev.info.ftrt_data_length_in_us
  updateKeywordIndex in_media_config kwd_start_timestamp kwd_end_timestamp ftrt_start_timestamp
    { det_ev with start_ts_ := kwd_start_timestamp, end_ts_ := kwd_end_timestamp }

/-- What follows the loop of `parseDetectionPayloadGMM`. -/
def stampGMM (in_media_config : pal_media_config) (det_ev : detection_event detection_event_info) :
    detection_event detection_event_info :=
  let info := det_ev.info
  let kwd_start_timestamp := timestamp info.kw_start_timestamp_lsw info.kw_start_timestamp_msw
  let kwd_end_timestamp := timestamp info.kw_end_timestamp_lsw info.kw_end_timestamp_msw
  let ftrt_start_timestamp := sub64
    (timestamp info.detection_timestamp_lsw info.detection_timestamp_msw)
    info.ftrt_data_length_in_us
  updateKeywordIndex in_media_config kwd_start_timestamp kwd_end_timestamp ftrt_start_timestamp
    { det_ev with
      start_ts_ := kwd_start_timestamp, end_ts_ := kwd_end_timestamp, det_model_id_ := 0 }

/-- `det_event_info_[s] = det_ev` -/
def DetectionEvents.store (I : DetectionEvents) (s : StreamId)
    (det_ev : detection_event DetectionInfo) : DetectionEvents :=
  { I with det_event_info_ := fun o => if o = s then some det_ev else I.det_event_info_ o }

/-- The end of a parser: at `exit` after a failure, or with the event, which is stored. -/
def conclude {ι : Type} (I : DetectionEvents) (s : StreamId)
    (stamp : detection_event ι → detection_event ι) (member : ι → DetectionInfo) :
    Except ℤ (detection_event ι) → DetectionEvents × ℤ
  | .ok det_ev => (I.store s ((stamp det_ev).stored member), 0)
  | .error status => (I, status)

section Parsers

variable (l : DetectionLayout) (calloc : Bool) (I : DetectionEvents) (s : StreamId)

/-- `parseDetectionPayloadPDK`; `calloc` says whether the memory for the event is there, and `none` is
an access outside the payload or the event, or a loop that does not end. -/
def parseDetectionPayloadPDK (event_data : Option DetectionPayload) :
    Option (DetectionEvents × ℤ) :=
  match event_data with
  | none => some (I, - EINVAL)
  | some event =>
    if event.bytes = [] then some (I, - EINVAL)
    else if calloc = false then some (I, - ENOMEM)
    else
      (walk l.header event.bytes (visitPDK l event.bytes) (event.bytes.length + 1)
          (.zero .zero) 0 0).map
        (conclude I s (stampPDK I.in_media_config) .pdk_event_info_)

/-- `parseDetectionPayloadGMM` -/
def parseDetectionPayloadGMM (event_data : Option DetectionPayload) :
    Option (DetectionEvents × ℤ) :=
  match event_data with
  | none => some (I, - EINVAL)
  | some event =>
    if event.bytes = [] ∨ event.status ≠ 0 then some (I, - EINVAL)
    else if calloc = false then some (I, - ENOMEM)
    else
      (walk l.header event.bytes (visitGMM l event.bytes) (event.bytes.length + 1)
          (.zero { detection_event_info.zero with status := event.status }) 0 0).map
        (conclude I s (stampGMM I.in_media_config) .event_info_)

end Parsers

/-! ### What a payload says -/

/-- The last record of a key. -/
def lastRecord (key_id : ℕ) (rs : List (Tlv ℕ Unit)) : Option (Tlv ℕ Unit) :=
  (rs.filter fun r => r.key_id = key_id).getLast?

section Decoded

variable (l : DetectionLayout) (bytes : List UInt8) (r : Tlv ℕ Unit) (rs : List (Tlv ℕ Unit))

/-- Where the payload of a record begins. -/
def DetectionLayout.ptr : ℕ := r.offset + l.header.size

def DetectionLayout.KnownPDK (key_id : ℕ) : Prop :=
  key_id = l.KEY_ID_FTRT_DATA_INFO ∨ key_id = l.KEY_ID_VOICE_UI_MULTI_MODEL_RESULT_INFO

def DetectionLayout.KnownGMM (key_id : ℕ) : Prop :=
  key_id = l.KEY_ID_CONFIDENCE_LEVELS_INFO ∨ key_id = l.KEY_ID_KWD_POSITION_INFO ∨
    key_id = l.KEY_ID_TIMESTAMP_INFO ∨ key_id = l.KEY_ID_FTRT_DATA_INFO

instance : DecidablePred l.KnownPDK := fun _ => inferInstanceAs (Decidable (_ ∨ _))

instance : DecidablePred l.KnownGMM := fun _ => inferInstanceAs (Decidable (_ ∨ _))

/-- The number of models of a result. -/
def models : ℕ := field bytes (l.ptr r + l.num_detected_models)

def ftrtLength : ℕ := field bytes (l.ptr r + l.ftrt_data_length_in_us)

/-- The number of levels of a record of levels. -/
def confidenceValues : ℕ := (readLE bytes 2 (l.ptr r + l.number_of_confidence_values)).getD 0

/-- The keyword's time stamps of a position record. -/
def position : ℕ × ℕ × ℕ × ℕ :=
  (field bytes (l.ptr r + l.kw_start_timestamp_lsw),
    field bytes (l.ptr r + l.kw_start_timestamp_msw),
    field bytes (l.ptr r + l.kw_end_timestamp_lsw), field bytes (l.ptr r + l.kw_end_timestamp_msw))

/-- The time stamp of a time stamp record. -/
def detectionTime : ℕ × ℕ :=
  (field bytes (l.ptr r + l.detection_timestamp_lsw),
    field bytes (l.ptr r + l.detection_timestamp_msw))

/-- A PDK event has what the last records of their keys say: each model's statistics are those that
stand behind the result at the model's place. -/
structure DecodedPDK (info : detection_event_info_pdk) : Prop where
  num_detected_models : info.num_detected_models =
    ((lastRecord l.KEY_ID_VOICE_UI_MULTI_MODEL_RESULT_INFO rs).map (models l bytes)).getD 0
  detected_model_stats : ∀ r ∈ lastRecord l.KEY_ID_VOICE_UI_MULTI_MODEL_RESULT_INFO rs,
    ∀ i < models l bytes r,
      info.detected_model_stats[i]? =
        readStats bytes (model_stat l (l.ptr r) + i * sizeof_model_stats)
  ftrt_data_length_in_us : info.ftrt_data_length_in_us =
    ((lastRecord l.KEY_ID_FTRT_DATA_INFO rs).map (ftrtLength l bytes)).getD 0

/-- A GMM event has what the last records of their keys say. -/
structure DecodedGMM (info : detection_event_info) : Prop where
  num_confidence_levels : info.num_confidence_levels =
    ((lastRecord l.KEY_ID_CONFIDENCE_LEVELS_INFO rs).map (confidenceValues l bytes)).getD 0
  confidence_levels : ∀ r ∈ lastRecord l.KEY_ID_CONFIDENCE_LEVELS_INFO rs,
    ∀ i < confidenceValues l bytes r,
      info.confidence_levels[i]? = readLE bytes 1 (l.ptr r + l.confidence_levels + i)
  kw_timestamps : (info.kw_start_timestamp_lsw, info.kw_start_timestamp_msw,
      info.kw_end_timestamp_lsw, info.kw_end_timestamp_msw) =
    ((lastRecord l.KEY_ID_KWD_POSITION_INFO rs).map (position l bytes)).getD (0, 0, 0, 0)
  detection_timestamp : (info.detection_timestamp_lsw, info.detection_timestamp_msw) =
    ((lastRecord l.KEY_ID_TIMESTAMP_INFO rs).map (detectionTime l bytes)).getD (0, 0)
  ftrt_data_length_in_us : info.ftrt_data_length_in_us =
    ((lastRecord l.KEY_ID_FTRT_DATA_INFO rs).map (ftrtLength l bytes)).getD 0

end Decoded

/-- What a parser owes to a payload with the records `rs`: it ends without leaving the payload or the
event, it accepts exactly a payload without unknown keys (where there is memory for the event), it then
stores for the stream an event as `Decoded` says, and otherwise nothing. -/
def Parsed (I : DetectionEvents) (s : StreamId) (accepted : Prop)
    (Decoded : DetectionInfo → Prop) (result : Option (DetectionEvents × ℤ)) : Prop :=
  ∃ I' status, result = some (I', status) ∧ (status = 0 ↔ accepted) ∧
    (status ≠ 0 → I' = I) ∧
    (status = 0 → (∀ o ≠ s, I'.det_event_info_ o = I.det_event_info_ o) ∧
      ∃ det_ev, I'.det_event_info_ s = some det_ev ∧ Decoded det_ev.info)

/-! ### What the parsers need -/

section Inside

variable (l : DetectionLayout) (bytes : List UInt8) (r : Tlv ℕ Unit)

/-- The fields that `parseDetectionPayloadPDK` reads of a record lie in the payload, and the models of
a result fit the event. The statistics are read 40 of their sizes apart. -/
def InsidePDK : Prop :=
  if r.key_id = l.KEY_ID_FTRT_DATA_INFO then
    l.ptr r + l.ftrt_data_length_in_us + 4 ≤ bytes.length
  else
    l.ptr r + l.num_detected_models + 4 ≤ bytes.length ∧
      model_stat l (l.ptr r) + 4 ≤ bytes.length ∧
      ∀ i < models l bytes r, i < MAX_MODELS_SUPPORTED ∧
        model_stat l (l.ptr r) + i * (sizeof_model_stats * sizeof_model_stats) +
          sizeof_model_stats ≤ bytes.length

/-- The fields that `parseDetectionPayloadGMM` reads of a record lie in the payload, and the levels
fit the event. -/
def InsideGMM : Prop :=
  if r.key_id = l.KEY_ID_CONFIDENCE_LEVELS_INFO then
    l.ptr r + l.number_of_confidence_values + 2 ≤ bytes.length ∧
      ∀ i < confidenceValues l bytes r, i < 20 ∧
        l.ptr r + l.confidence_levels + i + 1 ≤ bytes.length
  else if r.key_id = l.KEY_ID_KWD_POSITION_INFO then
    l.ptr r + l.kw_start_timestamp_lsw + 4 ≤ bytes.length ∧
      l.ptr r + l.kw_start_timestamp_msw + 4 ≤ bytes.length ∧
      l.ptr r + l.kw_end_timestamp_lsw + 4 ≤ bytes.length ∧
      l.ptr r + l.kw_end_timestamp_msw + 4 ≤ bytes.length
  else if r.key_id = l.KEY_ID_TIMESTAMP_INFO then
    l.ptr r + l.detection_timestamp_lsw + 4 ≤ bytes.length ∧
      l.ptr r + l.detection_timestamp_msw + 4 ≤ bytes.length
  else l.ptr r + l.ftrt_data_length_in_us + 4 ≤ bytes.length

/-- The statistics that are read 40 of their sizes apart are those that stand one behind the other. -/
def Aligned : Prop :=
  ∀ i < models l bytes r,
    readStats bytes (model_stat l (l.ptr r) + i * (sizeof_model_stats * sizeof_model_stats)) =
      readStats bytes (model_stat l (l.ptr r) + i * sizeof_model_stats)

instance : Decidable (InsidePDK l bytes r) := by
  unfold InsidePDK
  infer_instance

instance : Decidable (Aligned l bytes r) :=
  inferInstanceAs (Decidable (∀ i < models l bytes r, _))

end Inside

/-! ### Copies -/

section Copy

variable {α : Type} {N : ℕ} {get : ℕ → Option α} {n i k : ℕ} {v v' : Vector α N}

theorem copyInto_isSome :
    (copyInto get n i v).isSome ↔ ∀ j < n, i + j < N ∧ (get (i + j)).isSome := by
  induction n generalizing i v with
  | zero => simp [copyInto]
  | succ n ih =>
    have hsplit : (∀ j < n + 1, i + j < N ∧ (get (i + j)).isSome) ↔
        (i < N ∧ (get i).isSome) ∧ ∀ j < n, i + 1 + j < N ∧ (get (i + 1 + j)).isSome := by
      rw [Nat.forall_lt_succ_left']
      refine and_congr Iff.rfl (forall₂_congr fun j _ => ?_)
      rw [show i + (j + 1) = i + 1 + j by omega]
    rw [hsplit, copyInto]
    split_ifs with hi
    · rcases get i with _ | a
      · simp
      · rw [Option.bind_some, ih]
        simp [hi]
    · simp [hi]

theorem getElem?_copyInto (h : copyInto get n i v = some v') :
    v'[k]? = if i ≤ k ∧ k < i + n then get k else v[k]? := by
  induction n generalizing i v with
  | zero =>
    cases h
    rw [if_neg (by omega)]
  | succ n ih =>
    rw [copyInto] at h
    split_ifs at h with hi
    obtain ⟨a, ha, h⟩ := Option.bind_eq_some_iff.mp h
    rw [ih h, Vector.getElem?_set]
    rcases Nat.lt_trichotomy k i with hk | rfl | hk
    · rw [if_neg (by omega), if_neg (by omega), if_neg (by omega)]
    · rw [if_neg (by omega), if_pos rfl, if_pos (by omega), ha]
    · by_cases hn : k < i + 1 + n
      · rw [if_pos (by omega), if_pos (by omega)]
      · rw [if_neg (by omega), if_neg (by omega), if_neg (by omega)]

end Copy

/-! ### Reading the records -/

section Reading

variable {l : DetectionLayout} {bytes : List UInt8} {r : Tlv ℕ Unit}

theorem readStats_isSome {p : ℕ} :
    (readStats bytes p).isSome ↔ p + sizeof_model_stats ≤ bytes.length := by
  unfold readStats
  rw [Option.isSome_map]
  exact slice_isSome

/-- What a record of a known key does to a PDK event. -/
def readPDK (l : DetectionLayout) (bytes : List UInt8)
    (det_ev : detection_event detection_event_info_pdk) (r : Tlv ℕ Unit) :
    Option (detection_event detection_event_info_pdk) :=
  if r.key_id = l.KEY_ID_FTRT_DATA_INFO then readFtrtPDK l bytes det_ev (l.ptr r)
  else readResult l bytes det_ev (l.ptr r)

theorem reads_visitPDK (l : DetectionLayout) (bytes : List UInt8) :
    Reads l.header (visitPDK l bytes) l.KnownPDK (readPDK l bytes) (- EINVAL) where
  of_known det_ev r hknown := by
    unfold visitPDK readPDK DetectionLayout.ptr
    by_cases hftrt : r.key_id = l.KEY_ID_FTRT_DATA_INFO
    · rw [if_pos hftrt, if_pos hftrt]
    · rw [if_neg hftrt, if_neg hftrt, if_pos (hknown.resolve_left hftrt)]
  of_unknown det_ev r hknown := by
    unfold visitPDK
    rw [if_neg fun h => hknown (Or.inl h), if_neg fun h => hknown (Or.inr h)]

theorem readPDK_isSome (det_ev : detection_event detection_event_info_pdk) (r : Tlv ℕ Unit) :
    (readPDK l bytes det_ev r).isSome ↔ InsidePDK l bytes r := by
  unfold readPDK InsidePDK
  split_ifs
  · unfold readFtrtPDK
    rw [Option.isSome_map]
    exact readLE_isSome
  · unfold readResult
    rw [← readLE_isSome, ← readLE_isSome]
    unfold models
    rcases hnum : readLE bytes 4 (l.ptr r + l.num_detected_models) with _ | num
    · simp
    · rw [field_of_read hnum]
      rcases readLE bytes 4 (model_stat l (l.ptr r)) with _ | id
      · simp
      · simp only [Option.bind_some, Option.isSome_map, Option.isSome_some, true_and]
        rw [copyInto_isSome]
        simp only [Nat.zero_add, readStats_isSome]

/-- What the results leave in an event: the statistics as far as they are counted. -/
def results (det_ev : detection_event detection_event_info_pdk) :
    ℕ × (ℕ → Option model_stats) :=
  (det_ev.info.num_detected_models, fun i =>
    if i < det_ev.info.num_detected_models then det_ev.info.detected_model_stats[i]? else none)

theorem readPDK_ftrt {det_ev det_ev' : detection_event detection_event_info_pdk}
    (h : readPDK l bytes det_ev r = some det_ev') :
    det_ev'.info.ftrt_data_length_in_us =
      if r.key_id = l.KEY_ID_FTRT_DATA_INFO then ftrtLength l bytes r
      else det_ev.info.ftrt_data_length_in_us := by
  unfold readPDK at h
  split_ifs at h ⊢
  · obtain ⟨ftrt, hftrt, rfl⟩ := Option.map_eq_some_iff.mp h
    exact (field_of_read hftrt).symm
  · obtain ⟨num, -, h⟩ := Option.bind_eq_some_iff.mp h
    obtain ⟨id, -, h⟩ := Option.bind_eq_some_iff.mp h
    obtain ⟨stats, -, rfl⟩ := Option.map_eq_some_iff.mp h
    rfl

theorem readPDK_results {det_ev det_ev' : detection_event detection_event_info_pdk}
    (hknown : l.KnownPDK r.key_id) (h : readPDK l bytes det_ev r = some det_ev') :
    results det_ev' =
      if r.key_id = l.KEY_ID_VOICE_UI_MULTI_MODEL_RESULT_INFO then
        (models l bytes r, fun i =>
          if i < models l bytes r then
            readStats bytes
              (model_stat l (l.ptr r) + i * (sizeof_model_stats * sizeof_model_stats))
          else none)
      else results det_ev := by
  have hkeys := l.keys
  unfold readPDK at h
  by_cases hftrt : r.key_id = l.KEY_ID_FTRT_DATA_INFO
  · rw [if_pos hftrt] at h
    rw [if_neg (by rw [hftrt]; simp at hkeys; omega)]
    obtain ⟨ftrt, -, rfl⟩ := Option.map_eq_some_iff.mp h
    rfl
  · rw [if_neg hftrt] at h
    rw [if_pos (hknown.resolve_left hftrt)]
    obtain ⟨num, hnum, h⟩ := Option.bind_eq_some_iff.mp h
    obtain ⟨id, -, h⟩ := Option.bind_eq_some_iff.mp h
    obtain ⟨stats, hstats, rfl⟩ := Option.map_eq_some_iff.mp h
    unfold results models
    rw [field_of_read hnum, Prod.mk.injEq]
    refine ⟨rfl, funext fun i => ?_⟩
    show (if i < num then stats[i]? else none) = _
    by_cases hi : i < num
    · rw [if_pos hi, if_pos hi, getElem?_copyInto hstats, if_pos (by omega)]
    · rw [if_neg hi, if_neg hi]

/-- What a record of a known key does to a GMM event. -/
def readGMM (l : DetectionLayout) (bytes : List UInt8)
    (det_ev : detection_event detection_event_info) (r : Tlv ℕ Unit) :
    Option (detection_event detection_event_info) :=
  if r.key_id = l.KEY_ID_CONFIDENCE_LEVELS_INFO then readLevels l bytes det_ev (l.ptr r)
  else if r.key_id = l.KEY_ID_KWD_POSITION_INFO then readPosition l bytes det_ev (l.ptr r)
  else if r.key_id = l.KEY_ID_TIMESTAMP_INFO then readTimestamp l bytes det_ev (l.ptr r)
  else readFtrtGMM l bytes det_ev (l.ptr r)

theorem reads_visitGMM (l : DetectionLayout) (bytes : List UInt8) :
    Reads l.header (visitGMM l bytes) l.KnownGMM (readGMM l bytes) (- EINVAL) where
  of_known det_ev r hknown := by
    unfold visitGMM readGMM DetectionLayout.ptr
    unfold DetectionLayout.KnownGMM at hknown
    split_ifs with hlevels hposition htimestamp hftrt
    · rfl
    · rfl
    · rfl
    · rfl
    · exact absurd hknown (by simp [hlevels, hposition, htimestamp, hftrt])
  of_unknown det_ev r hknown := by
    unfold DetectionLayout.KnownGMM at hknown
    unfold visitGMM
    simp only [not_or] at hknown
    obtain ⟨hlevels, hposition, htimestamp, hftrt⟩ := hknown
    rw [if_neg hlevels, if_neg hposition, if_neg htimestamp, if_neg hftrt]

theorem readLevels_isSome (det_ev : detection_event detection_event_info) (ptr : ℕ) :
    (readLevels l bytes det_ev ptr).isSome ↔
      ptr + l.number_of_confidence_values + 2 ≤ bytes.length ∧
        ∀ i < (readLE bytes 2 (ptr + l.number_of_confidence_values)).getD 0, i < 20 ∧
          ptr + l.confidence_levels + i + 1 ≤ bytes.length := by
  unfold readLevels
  rw [← readLE_isSome]
  rcases readLE bytes 2 (ptr + l.number_of_confidence_values) with _ | num
  · simp
  · rw [Option.bind_some, Option.isSome_map, copyInto_isSome]
    simp [readLE_isSome]

theorem readPosition_isSome (det_ev : detection_event detection_event_info) (ptr : ℕ) :
    (readPosition l bytes det_ev ptr).isSome ↔
      ptr + l.kw_start_timestamp_lsw + 4 ≤ bytes.length ∧
        ptr + l.kw_start_timestamp_msw + 4 ≤ bytes.length ∧
        ptr + l.kw_end_timestamp_lsw + 4 ≤ bytes.length ∧
        ptr + l.kw_end_timestamp_msw + 4 ≤ bytes.length := by
  unfold readPosition
  simp only [Option.isSome_bind, Option.isSome_map, ← readLE_isSome]
  rcases readLE bytes 4 (ptr + l.kw_start_timestamp_lsw) with _ | _ <;>
    rcases readLE bytes 4 (ptr + l.kw_start_timestamp_msw) with _ | _ <;>
    rcases readLE bytes 4 (ptr + l.kw_end_timestamp_lsw) with _ | _ <;> simp

theorem readTimestamp_isSome (det_ev : detection_event detection_event_info) (ptr : ℕ) :
    (readTimestamp l bytes det_ev ptr).isSome ↔
      ptr + l.detection_timestamp_lsw + 4 ≤ bytes.length ∧
        ptr + l.detection_timestamp_msw + 4 ≤ bytes.length := by
  unfold readTimestamp
  simp only [← readLE_isSome]
  rcases readLE bytes 4 (ptr + l.detection_timestamp_lsw) with _ | _ <;> simp

theorem readGMM_isSome (det_ev : detection_event detection_event_info) (r : Tlv ℕ Unit) :
    (readGMM l bytes det_ev r).isSome ↔ InsideGMM l bytes r := by
  unfold readGMM InsideGMM
  split_ifs
  · exact readLevels_isSome det_ev _
  · exact readPosition_isSome det_ev _
  · exact readTimestamp_isSome det_ev _
  · unfold readFtrtGMM
    rw [Option.isSome_map]
    exact readLE_isSome

/-- What the records of levels leave in an event: the levels as far as they are counted. -/
def levels (det_ev : detection_event detection_event_info) : ℕ × (ℕ → Option ℕ) :=
  (det_ev.info.num_confidence_levels, fun i =>
    if i < det_ev.info.num_confidence_levels then det_ev.info.confidence_levels[i]? else none)

/-- The keyword's time stamps of an event. -/
def kwTimestamps (det_ev : detection_event detection_event_info) : ℕ × ℕ × ℕ × ℕ :=
  (det_ev.info.kw_start_timestamp_lsw, det_ev.info.kw_start_timestamp_msw,
    det_ev.info.kw_end_timestamp_lsw, det_ev.info.kw_end_timestamp_msw)

/-- The time stamp of an event. -/
def detectionTimestamp (det_ev : detection_event detection_event_info) : ℕ × ℕ :=
  (det_ev.info.detection_timestamp_lsw, det_ev.info.detection_timestamp_msw)

/-- The levels of a record of levels. -/
def recordLevels (l : DetectionLayout) (bytes : List UInt8) (r : Tlv ℕ Unit) :
    ℕ × (ℕ → Option ℕ) :=
  (confidenceValues l bytes r, fun i =>
    if i < confidenceValues l bytes r then readLE bytes 1 (l.ptr r + l.confidence_levels + i)
    else none)

/-- Each record changes what its key stands for, and nothing else. -/
theorem readGMM_spec {det_ev det_ev' : detection_event detection_event_info}
    (hknown : l.KnownGMM r.key_id) (h : readGMM l bytes det_ev r = some det_ev') :
    levels det_ev' =
        (if r.key_id = l.KEY_ID_CONFIDENCE_LEVELS_INFO then recordLevels l bytes r
          else levels det_ev) ∧
      kwTimestamps det_ev' =
        (if r.key_id = l.KEY_ID_KWD_POSITION_INFO then position l bytes r
          else kwTimestamps det_ev) ∧
      detectionTimestamp det_ev' =
        (if r.key_id = l.KEY_ID_TIMESTAMP_INFO then detectionTime l bytes r
          else detectionTimestamp det_ev) ∧
      det_ev'.info.ftrt_data_length_in_us =
        if r.key_id = l.KEY_ID_FTRT_DATA_INFO then ftrtLength l bytes r
        else det_ev.info.ftrt_data_length_in_us := by
  have hkeys := l.keys
  simp only [List.nodup_cons, List.mem_cons, List.not_mem_nil, or_false, not_or] at hkeys
  obtain ⟨⟨hlp, hlt, hlf, -⟩, ⟨hpt, hpf, -⟩, ⟨htf, -⟩, -⟩ := hkeys
  unfold readGMM at h
  rcases hknown with hkey | hkey | hkey | hkey
  · rw [if_pos hkey] at h
    rw [if_pos hkey, if_neg (hkey ▸ hlp), if_neg (hkey ▸ hlt), if_neg (hkey ▸ hlf)]
    obtain ⟨num, hnum, h⟩ := Option.bind_eq_some_iff.mp h
    obtain ⟨values, hvalues, rfl⟩ := Option.map_eq_some_iff.mp h
    refine ⟨?_, rfl, rfl, rfl⟩
    unfold levels recordLevels confidenceValues
    rw [hnum, Option.getD_some, Prod.mk.injEq]
    refine ⟨rfl, funext fun i => ?_⟩
    show (if i < num then values[i]? else none) = _
    by_cases hi : i < num
    · rw [if_pos hi, if_pos hi, getElem?_copyInto hvalues, if_pos (by omega)]
    · rw [if_neg hi, if_neg hi]
  · rw [if_neg (hkey ▸ Ne.symm hlp), if_pos hkey] at h
    rw [if_neg (hkey ▸ Ne.symm hlp), if_pos hkey, if_neg (hkey ▸ hpt), if_neg (hkey ▸ hpf)]
    obtain ⟨start_lsw, hstart_lsw, h⟩ := Option.bind_eq_some_iff.mp h
    obtain ⟨start_msw, hstart_msw, h⟩ := Option.bind_eq_some_iff.mp h
    obtain ⟨end_lsw, hend_lsw, h⟩ := Option.bind_eq_some_iff.mp h
    obtain ⟨end_msw, hend_msw, rfl⟩ := Option.map_eq_some_iff.mp h
    refine ⟨rfl, ?_, rfl, rfl⟩
    unfold position
    rw [field_of_read hstart_lsw, field_of_read hstart_msw, field_of_read hend_lsw,
      field_of_read hend_msw]
    rfl
  · rw [if_neg (hkey ▸ Ne.symm hlt), if_neg (hkey ▸ Ne.symm hpt), if_pos hkey] at h
    rw [if_neg (hkey ▸ Ne.symm hlt), if_neg (hkey ▸ Ne.symm hpt), if_pos hkey,
      if_neg (hkey ▸ htf)]
    obtain ⟨lsw, hlsw, h⟩ := Option.bind_eq_some_iff.mp h
    obtain ⟨msw, hmsw, rfl⟩ := Option.map_eq_some_iff.mp h
    refine ⟨rfl, rfl, ?_, rfl⟩
    unfold detectionTime
    rw [field_of_read hlsw, field_of_read hmsw]
    rfl
  · rw [if_neg (hkey ▸ Ne.symm hlf), if_neg (hkey ▸ Ne.symm hpf), if_neg (hkey ▸ Ne.symm htf)] at h
    rw [if_neg (hkey ▸ Ne.symm hlf), if_neg (hkey ▸ Ne.symm hpf), if_neg (hkey ▸ Ne.symm htf),
      if_pos hkey]
    obtain ⟨ftrt, hftrt, rfl⟩ := Option.map_eq_some_iff.mp h
    exact ⟨rfl, rfl, rfl, (field_of_read hftrt).symm⟩

theorem updateKeywordIndex_info {ι : Type} (in_media_config : pal_media_config)
    (kwd_start_timestamp kwd_end_timestamp ftrt_start_timestamp : ℕ) (det_ev : detection_event ι) :
    (updateKeywordIndex in_media_config kwd_start_timestamp kwd_end_timestamp ftrt_start_timestamp
      det_ev).info = det_ev.info := by
  unfold updateKeywordIndex
  split_ifs <;> rfl

theorem stampPDK_info (in_media_config : pal_media_config)
    (det_ev : detection_event detection_event_info_pdk) :
    (stampPDK in_media_config det_ev).info = det_ev.info :=
  updateKeywordIndex_info in_media_config _ _ _ _

theorem stampGMM_info (in_media_config : pal_media_config)
    (det_ev : detection_event detection_event_info) :
    (stampGMM in_media_config det_ev).info = det_ev.info :=
  updateKeywordIndex_info in_media_config _ _ _ _

end Reading

/-! ### When a payload is parsed right -/

section Parsed

variable {l : DetectionLayout} {bytes : List UInt8} {rs : List (Tlv ℕ Unit)}
  {I : DetectionEvents} {s : StreamId} {accepted : Prop} {Decoded : DetectionInfo → Prop}

/-- A parser that refuses and stores nothing. -/
theorem parsed_refused {status : ℤ} (hstatus : status ≠ 0) (h : ¬ accepted) :
    Parsed I s accepted Decoded (some (I, status)) :=
  ⟨I, status, rfl, iff_of_false hstatus h, fun _ => rfl, fun h0 => absurd h0 hstatus⟩

/-- A parser whose walk ends is right where the event it stores is. -/
theorem parsed_walk_iff {ι : Type} {all : Prop} [Decidable all] (hall : accepted ↔ all)
    {walked : Option (detection_event ι)} {stamp : detection_event ι → detection_event ι}
    {member : ι → DetectionInfo} (hstamp : ∀ det_ev, (stamp det_ev).info = det_ev.info) :
    Parsed I s accepted Decoded
        ((walked.map fun det_ev => if all then Except.ok det_ev else Except.error (- EINVAL)).map
          (conclude I s stamp member)) ↔
      ∃ det_ev, walked = some det_ev ∧ (all → Decoded (member det_ev.info)) := by
  have hinval : - EINVAL ≠ 0 := by decide
  rcases walked with _ | det_ev
  · refine iff_of_false ?_ (by simp)
    rintro ⟨_, _, h, -⟩
    cases h
  · rw [Option.map_some, Option.map_some]
    by_cases hacc : all
    · rw [if_pos hacc]
      have hself : (I.store s ((stamp det_ev).stored member)).det_event_info_ s =
          some ((stamp det_ev).stored member) := if_pos rfl
      have hinfo : ((stamp det_ev).stored member).info = member det_ev.info :=
        congrArg member (hstamp det_ev)
      constructor
      · rintro ⟨I', status, h, -, -, hstored⟩
        cases h
        obtain ⟨-, e, he, hdec⟩ := hstored rfl
        rw [hself] at he
        cases he
        refine ⟨det_ev, rfl, fun _ => ?_⟩
        rw [hinfo] at hdec
        exact hdec
      · rintro ⟨e, he, hdec⟩
        cases he
        refine ⟨_, 0, rfl, iff_of_true rfl (hall.mpr hacc), fun h => absurd rfl h, fun _ => ⟨?_, ?_⟩⟩
        · exact fun o ho => if_neg ho
        · refine ⟨_, hself, ?_⟩
          rw [hinfo]
          exact hdec hacc
    · rw [if_neg hacc]
      exact iff_of_true (parsed_refused hinval (mt hall.mp hacc))
        ⟨det_ev, rfl, fun h => absurd h hacc⟩

theorem nil_of_laid {H : RecordHeader} (h : Laid H [] 0 rs) : rs = [] := by
  have hle := h.length_le
  rw [List.length_nil, Nat.zero_add] at hle
  exact List.length_eq_zero_iff.mp (Nat.le_zero.mp hle)

/-- What a PDK payload needs: up to the first unknown key the fields lie in the payload and the models
fit the event, and without one the last result's statistics are where the code looks for them. -/
def FitsPDK (l : DetectionLayout) (bytes : List UInt8) (rs : List (Tlv ℕ Unit)) : Prop :=
  (∀ r ∈ knownRecords l.KnownPDK rs, InsidePDK l bytes r) ∧
    ((∀ r ∈ rs, l.KnownPDK r.key_id) →
      ∀ r ∈ lastRecord l.KEY_ID_VOICE_UI_MULTI_MODEL_RESULT_INFO rs, Aligned l bytes r)

/-- What a GMM payload needs: up to the first unknown key the fields lie in the payload and the levels
fit the event. -/
def FitsGMM (l : DetectionLayout) (bytes : List UInt8) (rs : List (Tlv ℕ Unit)) : Prop :=
  ∀ r ∈ knownRecords l.KnownGMM rs, InsideGMM l bytes r

theorem decodedPDK_iff {det_ev : detection_event detection_event_info_pdk}
    (hknown : ∀ r ∈ rs, l.KnownPDK r.key_id)
    (h : rs.foldlM (readPDK l bytes) (.zero .zero) = some det_ev) :
    DecodedPDK l bytes rs det_ev.info ↔
      ∀ r ∈ lastRecord l.KEY_ID_VOICE_UI_MULTI_MODEL_RESULT_INFO rs, Aligned l bytes r := by
  have hftrt := last_of_foldlM (fun r _ _ _ hread => readPDK_ftrt hread) h
  have hresults := last_of_foldlM (fun r hr _ _ hread => readPDK_results (hknown r hr) hread) h
  change _ = ((lastRecord l.KEY_ID_FTRT_DATA_INFO rs).map _).getD _ at hftrt
  change _ = ((lastRecord l.KEY_ID_VOICE_UI_MULTI_MODEL_RESULT_INFO rs).map _).getD _ at hresults
  rcases hlast : lastRecord l.KEY_ID_VOICE_UI_MULTI_MODEL_RESULT_INFO rs with _ | r
  · rw [hlast] at hresults
    refine iff_of_true ⟨?_, ?_, hftrt⟩ (by simp)
    · rw [hlast]
      exact congrArg Prod.fst hresults
    · rw [hlast]
      simp
  · rw [hlast, Option.map_some, Option.getD_some] at hresults
    have hnum : det_ev.info.num_detected_models = models l bytes r := congrArg Prod.fst hresults
    have hstats : ∀ i < models l bytes r, det_ev.info.detected_model_stats[i]? = readStats bytes
        (model_stat l (l.ptr r) + i * (sizeof_model_stats * sizeof_model_stats)) := by
      intro i hi
      have hi' := congrFun (congrArg Prod.snd hresults) i
      simp only [results, hnum, if_pos hi] at hi'
      exact hi'
    constructor
    · intro hdec r' hr' i hi
      rw [Option.mem_some_iff] at hr'
      subst hr'
      rw [← hstats i hi]
      exact hdec.detected_model_stats r hlast i hi
    · intro hal
      refine ⟨?_, ?_, hftrt⟩
      · rw [hlast]
        exact hnum
      · intro r' hr' i hi
        rw [hlast, Option.mem_some_iff] at hr'
        subst hr'
        rw [hstats i hi]
        exact hal r rfl i hi

/-- A GMM payload without unknown keys that can be read is read right. -/
theorem decodedGMM {status : ℕ} {det_ev : detection_event detection_event_info}
    (hknown : ∀ r ∈ rs, l.KnownGMM r.key_id)
    (h : rs.foldlM (readGMM l bytes) (.zero { detection_event_info.zero with status }) =
      some det_ev) :
    DecodedGMM l bytes rs det_ev.info := by
  have hlevels := last_of_foldlM (fun r hr _ _ hread => (readGMM_spec (hknown r hr) hread).1) h
  have hposition := last_of_foldlM (fun r hr _ _ hread => (readGMM_spec (hknown r hr) hread).2.1) h
  have htime := last_of_foldlM (fun r hr _ _ hread => (readGMM_spec (hknown r hr) hread).2.2.1) h
  have hftrt := last_of_foldlM (fun r hr _ _ hread => (readGMM_spec (hknown r hr) hread).2.2.2) h
  change _ = ((lastRecord l.KEY_ID_CONFIDENCE_LEVELS_INFO rs).map _).getD _ at hlevels
  refine ⟨?_, ?_, hposition, htime, hftrt⟩
  · rcases hlast : lastRecord l.KEY_ID_CONFIDENCE_LEVELS_INFO rs with _ | r
    · rw [hlast] at hlevels
      exact congrArg Prod.fst hlevels
    · rw [hlast] at hlevels
      exact congrArg Prod.fst hlevels
  · intro r hr i hi
    rw [hr, Option.map_some, Option.getD_some] at hlevels
    have hnum : det_ev.info.num_confidence_levels = confidenceValues l bytes r :=
      congrArg Prod.fst hlevels
    have hlevel := congrFun (congrArg Prod.snd hlevels) i
    simp only [levels, recordLevels, hnum, if_pos hi] at hlevel
    exact hlevel

/-- A parser is right where the records up to the first unknown key can be read, and without one the
event that they are read into is right. -/
theorem parsed_of_reads {ι : Type} {H : RecordHeader} {known : ℕ → Prop} [DecidablePred known]
    {visit : detection_event ι → (key_id ptr : ℕ) → Option (Visit (detection_event ι) ℤ)}
    {read : detection_event ι → Tlv ℕ Unit → Option (detection_event ι)} {inside : Tlv ℕ Unit → Prop}
    {stamp : detection_event ι → detection_event ι} {member : ι → DetectionInfo}
    {init : detection_event ι} (hreads : Reads H visit known read (- EINVAL))
    (hinside : ∀ det_ev r, (read det_ev r).isSome ↔ inside r)
    (hstamp : ∀ det_ev, (stamp det_ev).info = det_ev.info)
    (hacc : accepted ↔ ∀ r ∈ rs, known r.key_id) (hlaid : Laid H bytes 0 rs)
    (hsize : bytes.length < 2 ^ 32) :
    Parsed I s accepted Decoded
        ((walk H bytes visit (bytes.length + 1) init 0 0).map (conclude I s stamp member)) ↔
      (∀ r ∈ knownRecords known rs, inside r) ∧ ((∀ r ∈ rs, known r.key_id) →
        ∀ det_ev, rs.foldlM read init = some det_ev → Decoded (member det_ev.info)) := by
  have hle := hlaid.length_le
  have hsome : ((knownRecords known rs).foldlM read init).isSome ↔
      ∀ r ∈ knownRecords known rs, inside r := foldlM_isSome_iff hinside
  rw [walk_of_laid hlaid hsize (fun _ _ _ _ h => absurd h hreads.not_last) (by omega),
    visitAll_of_reads hreads, parsed_walk_iff hacc hstamp, ← hsome]
  rcases hwalked : (knownRecords known rs).foldlM read init with _ | det_ev
  · simp
  · simp only [Option.some.injEq, exists_eq_left', Option.isSome_some, true_and]
    refine forall_congr' fun hknown => ?_
    rw [knownRecords_of_forall hknown] at hwalked
    rw [hwalked]
    simp

/-- The PDK parser is right exactly on the payloads that fit, where there is memory. -/
theorem parsedPDK_iff {calloc : Bool} {event : DetectionPayload}
    (hlaid : Laid l.header event.bytes 0 rs) :
    Parsed I s (calloc = true ∧ event.bytes ≠ [] ∧ ∀ r ∈ rs, l.KnownPDK r.key_id)
        (fun info => ∃ pdk, info = .pdk_event_info_ pdk ∧ DecodedPDK l event.bytes rs pdk)
        (parseDetectionPayloadPDK l calloc I s (some event)) ↔
      (calloc = true → FitsPDK l event.bytes rs) := by
  have hinval : - EINVAL ≠ 0 := by decide
  have hnomem : - ENOMEM ≠ 0 := by decide
  unfold parseDetectionPayloadPDK
  show Parsed _ _ _ _ (if _ then _ else _) ↔ _
  by_cases hempty : event.bytes = []
  · rw [if_pos hempty]
    refine iff_of_true (parsed_refused hinval fun h => h.2.1 hempty) fun _ => ?_
    rw [hempty] at hlaid ⊢
    rw [nil_of_laid hlaid]
    unfold FitsPDK knownRecords lastRecord
    simp
  rw [if_neg hempty]
  cases calloc with
  | false => exact iff_of_true (parsed_refused hnomem (by simp)) (by simp)
  | true =>
    have hacc : (true = true ∧ event.bytes ≠ [] ∧ ∀ r ∈ rs, l.KnownPDK r.key_id) ↔
        ∀ r ∈ rs, l.KnownPDK r.key_id := by simp [hempty]
    rw [if_neg (by decide), parsed_of_reads (reads_visitPDK l event.bytes) readPDK_isSome
      (stampPDK_info I.in_media_config) hacc hlaid event.payload_size_lt, forall_prop_of_true rfl]
    unfold FitsPDK
    refine and_congr_right fun hinside => forall_congr' fun hknown => ?_
    have hsome := (foldlM_isSome_iff (s := detection_event.zero .zero) readPDK_isSome).mpr hinside
    rw [knownRecords_of_forall hknown] at hsome
    obtain ⟨det_ev, hwalked⟩ := Option.isSome_iff_exists.mp hsome
    rw [← decodedPDK_iff hknown hwalked, hwalked]
    simp

/-- The GMM parser is right exactly on the payloads that fit, where there is memory and the DSP says
that the payload is good. -/
theorem parsedGMM_iff {calloc : Bool} {event : DetectionPayload}
    (hlaid : Laid l.header event.bytes 0 rs) :
    Parsed I s
        (calloc = true ∧ event.bytes ≠ [] ∧ event.status = 0 ∧ ∀ r ∈ rs, l.KnownGMM r.key_id)
        (fun info => ∃ gmm, info = .event_info_ gmm ∧ DecodedGMM l event.bytes rs gmm)
        (parseDetectionPayloadGMM l calloc I s (some event)) ↔
      (calloc = true → event.status = 0 → FitsGMM l event.bytes rs) := by
  have hinval : - EINVAL ≠ 0 := by decide
  have hnomem : - ENOMEM ≠ 0 := by decide
  unfold parseDetectionPayloadGMM
  show Parsed _ _ _ _ (if _ then _ else _) ↔ _
  by_cases hinvalid : event.bytes = [] ∨ event.status ≠ 0
  · rw [if_pos hinvalid]
    refine iff_of_true (parsed_refused hinval fun h => ?_) fun _ hstatus => ?_
    · exact hinvalid.elim h.2.1 fun hstatus => hstatus h.2.2.1
    · have hempty := hinvalid.resolve_right fun h => h hstatus
      rw [hempty] at hlaid ⊢
      rw [nil_of_laid hlaid]
      unfold FitsGMM knownRecords
      simp
  rw [if_neg hinvalid]
  obtain ⟨hempty, hstatus⟩ := not_or.mp hinvalid
  rw [not_not] at hstatus
  cases calloc with
  | false => exact iff_of_true (parsed_refused hnomem (by simp)) (by simp)
  | true =>
    have hacc : (true = true ∧ event.bytes ≠ [] ∧ event.status = 0 ∧
        ∀ r ∈ rs, l.KnownGMM r.key_id) ↔ ∀ r ∈ rs, l.KnownGMM r.key_id := by
      simp [hempty, hstatus]
    rw [if_neg (by decide), parsed_of_reads (reads_visitGMM l event.bytes) readGMM_isSome
      (stampGMM_info I.in_media_config) hacc hlaid event.payload_size_lt, forall_prop_of_true rfl,
      forall_prop_of_true hstatus]
    exact and_iff_left fun hknown det_ev hwalked => ⟨_, rfl, decodedGMM hknown hwalked⟩

/-- **Detection payloads.** For every layout of the DSP's structures and every payload that its records
fill, the PDK parser does what it owes exactly where the payload fits it, and so does the GMM parser. -/
theorem payload_parsed_iff (l : DetectionLayout) (calloc : Bool) (I : DetectionEvents)
    (s : StreamId) (event : DetectionPayload) (rs : List (Tlv ℕ Unit))
    (hlaid : Laid l.header event.bytes 0 rs) :
    (Parsed I s (calloc = true ∧ event.bytes ≠ [] ∧ ∀ r ∈ rs, l.KnownPDK r.key_id)
        (fun info => ∃ pdk, info = .pdk_event_info_ pdk ∧ DecodedPDK l event.bytes rs pdk)
        (parseDetectionPayloadPDK l calloc I s (some event)) ↔
      (calloc = true → FitsPDK l event.bytes rs)) ∧
    (Parsed I s
        (calloc = true ∧ event.bytes ≠ [] ∧ event.status = 0 ∧ ∀ r ∈ rs, l.KnownGMM r.key_id)
        (fun info => ∃ gmm, info = .event_info_ gmm ∧ DecodedGMM l event.bytes rs gmm)
        (parseDetectionPayloadGMM l calloc I s (some event)) ↔
      (calloc = true → event.status = 0 → FitsGMM l event.bytes rs)) :=
  ⟨parsedPDK_iff hlaid, parsedGMM_iff hlaid⟩

end Parsed

/-! ### Payloads of one and two models -/

/-- A layout without gaps. -/
def plainLayout : DetectionLayout where
  header := ⟨8, 0, 4, by decide, by decide⟩
  KEY_ID_CONFIDENCE_LEVELS_INFO := 1
  KEY_ID_KWD_POSITION_INFO := 2
  KEY_ID_TIMESTAMP_INFO := 3
  KEY_ID_FTRT_DATA_INFO := 4
  KEY_ID_VOICE_UI_MULTI_MODEL_RESULT_INFO := 5
  keys := by decide
  number_of_confidence_values := 0
  confidence_levels := 2
  kw_start_timestamp_lsw := 0
  kw_start_timestamp_msw := 4
  kw_end_timestamp_lsw := 8
  kw_end_timestamp_msw := 12
  detection_timestamp_lsw := 0
  detection_timestamp_msw := 4
  ftrt_data_length_in_us := 0
  num_detected_models := 0
  sizeof_voice_ui_multi_model_result_info_t := 4

/-- Before the first detection. -/
def noEvents : DetectionEvents := ⟨⟨16000, 16, 1⟩, fun _ => none⟩

/-- The length of the buffer, and a result of one model. -/
def oneModel : DetectionPayload where
  status := 0
  bytes := wordBytes [4, 4, 500, 5, 44, 1, 7, 0, 0, 60, 1000, 0, 2000, 0, 2500, 0]
  payload_size_lt := by decide

/-- A result of two models. -/
def twoModels : DetectionPayload where
  status := 0
  bytes := wordBytes [5, 84, 2, 7, 0, 0, 60, 1000, 0, 2000, 0, 2500, 0,
    8, 0, 0, 70, 1000, 0, 2000, 0, 2500, 0]
  payload_size_lt := by decide

theorem oneModel_laid : Laid plainLayout.header oneModel.bytes 0 [⟨0, 4, 4, ()⟩, ⟨12, 5, 44, ()⟩] :=
  ⟨⟨rfl, rfl, rfl⟩, by decide, by decide⟩

theorem twoModels_laid : Laid plainLayout.header twoModels.bytes 0 [⟨0, 5, 84, ()⟩] :=
  ⟨⟨rfl, rfl⟩, by decide, by decide⟩

/-- The payload of one model is parsed right. -/
theorem payload_oneModel :
    Parsed noEvents 0
      (true = true ∧ oneModel.bytes ≠ [] ∧
        ∀ r ∈ [(⟨0, 4, 4, ()⟩ : Tlv ℕ Unit), ⟨12, 5, 44, ()⟩], plainLayout.KnownPDK r.key_id)
      (fun info => ∃ pdk, info = .pdk_event_info_ pdk ∧
        DecodedPDK plainLayout oneModel.bytes [⟨0, 4, 4, ()⟩, ⟨12, 5, 44, ()⟩] pdk)
      (parseDetectionPayloadPDK plainLayout true noEvents 0 (some oneModel)) := by
  have hfits : FitsPDK plainLayout oneModel.bytes [⟨0, 4, 4, ()⟩, ⟨12, 5, 44, ()⟩] :=
    ⟨by decide, fun _ => by decide⟩
  exact (payload_parsed_iff plainLayout true noEvents 0 oneModel _ oneModel_laid).1.mpr
    fun _ => hfits

/-- Of two models the second one is looked for 1600 bytes behind the first, outside the payload. -/
theorem payload_twoModels :
    Laid plainLayout.header twoModels.bytes 0 [⟨0, 5, 84, ()⟩] ∧
      parseDetectionPayloadPDK plainLayout true noEvents 0 (some twoModels) = none ∧
      ¬ Parsed noEvents 0
        (true = true ∧ twoModels.bytes ≠ [] ∧
          ∀ r ∈ [(⟨0, 5, 84, ()⟩ : Tlv ℕ Unit)], plainLayout.KnownPDK r.key_id)
        (fun info => ∃ pdk, info = .pdk_event_info_ pdk ∧
          DecodedPDK plainLayout twoModels.bytes [⟨0, 5, 84, ()⟩] pdk)
        (parseDetectionPayloadPDK plainLayout true noEvents 0 (some twoModels)) := by
  have hnone : parseDetectionPayloadPDK plainLayout true noEvents 0 (some twoModels) = none := rfl
  refine ⟨twoModels_laid, hnone, ?_⟩
  rw [hnone]
  rintro ⟨_, _, h, -⟩
  cases h

end AudioReachPal.Sva.Dsp
