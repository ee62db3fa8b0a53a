import AudioReachPal.Sva.Payload
import AudioReachPal.Sva.EventFormat
import AudioReachPal.Lib.Leader

/-!
# The detected streams

`getPDKDetectedStream` and `getGMMDetectedStream` say which streams a detection payload is for. A PDK
result names models, and the list of their streams has the one with the best confidence in front; a
GMM result has a confidence level for each keyphrase of the engine's model, and the stream is one that
owns the first keyphrase with a level. Beside a stale stream, which an unknown model behind a known one
gets, the lists are right.
-/

namespace AudioReachPal.Sva.Dsp

open AudioReachPal.Lib

variable {M : Type} (I : SVAInterface M) (l : DetectionLayout)

/-! ### PDK -/

/-- What the loop of `getPDKDetectedStream` carries from model to model. -/
structure Detecting where
  st : Option StreamId
  leading : Leading StreamId

/-- The first stream that is registered with the model. -/
def modelStream (model_id : ℕ) : Option StreamId :=
  (I.sm_info_map_.toList.find? fun entry => entry.2.model_id = model_id).map Prod.fst

/-- The loop over the models, with `n` left from model `i` on. `st` keeps its value where no stream has
the model. -/
def detectModels (bytes : List UInt8) (first : ℕ) : (n i : ℕ) → Detecting → Option Detecting
  | 0, _, d => some d
  | n + 1, i, d =>
    (readLE bytes 4 (first + i * sizeof_model_stats)).bind fun model_id =>
      match (modelStream I model_id).or d.st with
      | none => some d
      | some st =>
        (readLE bytes 4 (first + i * sizeof_model_stats + 12)).bind fun best_confidence_level =>
          detectModels bytes first n (i + 1) ⟨some st, d.leading.push (st, best_confidence_level)⟩

/-- What `getPDKDetectedStream` carries from record to record. -/
structure PdkDetection where
  st : Option StreamId
  best_conf_level : ℕ
  det_list : Option (List StreamId)

/-- The `switch` of `getPDKDetectedStream`. -/
def visitDetected (bytes : List UInt8) (d : PdkDetection) (key_id ptr : ℕ) :
    Option (Visit PdkDetection Unit) :=
  if key_id = l.KEY_ID_FTRT_DATA_INFO then some (.next d)
  else if key_id = l.KEY_ID_VOICE_UI_MULTI_MODEL_RESULT_INFO then
    (readLE bytes 4 (ptr + l.num_detected_models)).bind fun num_detected_models =>
      (detectModels I bytes (model_stat l ptr) num_detected_models 0
        ⟨d.st, ⟨d.best_conf_level, []⟩⟩).map fun d =>
          .last ⟨d.st, d.leading.best, some d.leading.list⟩
  else some (.fail ())

/-- `getPDKDetectedStream`; `some none` is the null pointer. -/
def getPDKDetectedStream (event : DetectionPayload) : Option (Option (List StreamId)) :=
  if event.bytes = [] then some none
  else
    (walk l.header event.bytes (visitDetected I l event.bytes) (event.bytes.length + 1)
        ⟨none, 0, none⟩ 0 0).map fun
      | .ok d => d.det_list
      | .error _ => none

/-! ### GMM -/

/-- What `getGMMDetectedStream` takes from the records. -/
structure GmmDetection where
  num_confidence_levels : ℕ
  confidence_levels : Vector ℕ 20

/-- The `switch` of `getGMMDetectedStream`. -/
def visitConfidence (bytes : List UInt8) (d : GmmDetection) (key_id ptr : ℕ) :
    Option (Visit GmmDetection Unit) :=
  if key_id = l.KEY_ID_CONFIDENCE_LEVELS_INFO then
    (readLE bytes 2 (ptr + l.number_of_confidence_values)).bind fun num_confidence_levels =>
      (copyInto (fun i => readLE bytes 1 (ptr + l.confidence_levels + i)) num_confidence_levels 0
        d.confidence_levels).map fun confidence_levels =>
          .last ⟨num_confidence_levels, confidence_levels⟩
  else if key_id = l.KEY_ID_KWD_POSITION_INFO ∨ key_id = l.KEY_ID_TIMESTAMP_INFO ∨
      key_id = l.KEY_ID_FTRT_DATA_INFO then some (.next d)
  else some (.fail ())

/-- The first stream that owns a keyphrase; `none` is a stream without the names of its model. -/
def ownerOf (keyphrase : String) : List (StreamId × sound_model_info M) → Option (Option StreamId)
  | [] => some none
  | (s, sm_info) :: entries =>
    sm_info.info.bind fun info =>
      if keyphrase ∈ info.keyphrases_ then some (some s) else ownerOf keyphrase entries

/-- The loop over the engine's keyphrases, from place `i` on. -/
def firstOwner (confidence_levels : Vector ℕ 20) : List String → (i : ℕ) → Option (Option StreamId)
  | [], _ => some none
  | keyphrase :: keyphrases, i =>
    confidence_levels[i]?.bind fun level =>
      if level = 0 then firstOwner confidence_levels keyphrases (i + 1)
      else (ownerOf keyphrase I.sm_info_map_.toList).bind fun
        | some s => some (some s)
        | none => firstOwner confidence_levels keyphrases (i + 1)

/-- `getGMMDetectedStream`; `some none` is the null pointer. -/
def getGMMDetectedStream (event : DetectionPayload) : Option (Option StreamId) :=
  if event.bytes = [] ∨ event.status ≠ 0 then some none
  else if I.sm_info_map_.size = 1 then some (I.sm_info_map_.toList.head?.map Prod.fst)
  else
    (walk l.header event.bytes (visitConfidence l event.bytes) (event.bytes.length + 1)
        ⟨0, Vector.replicate _ 0⟩ 0 0).bind fun
      | .ok d =>
        if d.num_confidence_levels < I.sound_model_info_.keyphrases_.length then some none
        else firstOwner I d.confidence_levels I.sound_model_info_.keyphrases_ 0
      | .error _ => some none

/-! ### What the lists should be -/

/-- A stream is registered with a model. -/
def OwnsModel (s : StreamId) (model_id : ℕ) : Prop :=
  (I.sm_info_map_[s]?.map fun sm_info => sm_info.model_id) = some model_id

instance (s : StreamId) (model_id : ℕ) : Decidable (OwnsModel I s model_id) :=
  inferInstanceAs (Decidable (_ = _))

/-- No two streams are registered with one model. -/
def DistinctModels : Prop :=
  ∀ s s' model_id, OwnsModel I s model_id → OwnsModel I s' model_id → s = s'

/-- Some stream is registered with the model. -/
def isRegistered (m : model_stats) : Bool :=
  I.sm_info_map_.toList.any fun entry => entry.2.model_id = m.detected_model_id

/-- The models of a result in front of the first one that no stream is registered with. -/
def registeredModels (ms : List model_stats) : List model_stats := ms.takeWhile (isRegistered I)

/-- No model without a stream comes behind one with a stream. -/
def NoneBehind (ms : List model_stats) : Prop :=
  registeredModels I ms = ms ∨ registeredModels I ms = []

/-- The streams of the models, each as often as its model occurs, one with the best confidence in
front where some confidence is positive. -/
def ListRight (ms : List model_stats) (det_list : List StreamId) : Prop :=
  (∀ s, det_list.count s = (ms.filter fun m => OwnsModel I s m.detected_model_id).length) ∧
    ((∃ m ∈ ms, 0 < m.best_confidence_level) → ∃ s m, det_list.head? = some s ∧ m ∈ ms ∧
      OwnsModel I s m.detected_model_id ∧
      ∀ m' ∈ ms, m'.best_confidence_level ≤ m.best_confidence_level)

/-- A stream's model has the keyphrase. -/
def OwnsPhrase (s : StreamId) (keyphrase : String) : Prop :=
  ∃ sm_info info, I.sm_info_map_[s]? = some sm_info ∧ sm_info.info = some info ∧
    keyphrase ∈ info.keyphrases_

/-- Every stream has the names of its model. -/
def HasNames : Prop :=
  ∀ (s : StreamId) (sm_info : sound_model_info M), I.sm_info_map_[s]? = some sm_info →
    sm_info.info.isSome

/-- A keyphrase that has no level or no stream. -/
def Idle (level : ℕ → ℕ) (i : ℕ) (keyphrase : String) : Prop :=
  level i = 0 ∨ ∀ s, ¬ OwnsPhrase I s keyphrase

/-- The stream owns the first keyphrase that has a level and a stream; without a stream there is no
such keyphrase. -/
def FirstOwned (level : ℕ → ℕ) (keyphrases : List String) : Option StreamId → Prop
  | some s => ∃ i keyphrase, keyphrases[i]? = some keyphrase ∧ level i ≠ 0 ∧
      OwnsPhrase I s keyphrase ∧
      ∀ j < i, ∀ other, keyphrases[j]? = some other → Idle I level j other
  | none => ∀ i keyphrase, keyphrases[i]? = some keyphrase → Idle I level i keyphrase

section Records

variable (bytes : List UInt8) (r : Tlv ℕ Unit)

/-- The models of a result, one behind the other. -/
def resultModels : List model_stats :=
  (List.range (models l bytes r)).filterMap fun i =>
    readStats bytes (model_stat l (l.ptr r) + i * sizeof_model_stats)

/-- A result whose models lie in the payload. -/
def ResultInside : Prop :=
  l.ptr r + l.num_detected_models + 4 ≤ bytes.length ∧
    model_stat l (l.ptr r) + models l bytes r * sizeof_model_stats ≤ bytes.length

/-- A record of levels that lie in the payload and fit the array. -/
def LevelsInside : Prop :=
  l.ptr r + l.number_of_confidence_values + 2 ≤ bytes.length ∧
    l.ptr r + l.confidence_levels + confidenceValues l bytes r ≤ bytes.length ∧
    confidenceValues l bytes r ≤ 20

/-- The level at place `i` of a record of levels. -/
def levelAt (i : ℕ) : ℕ := (readLE bytes 1 (l.ptr r + l.confidence_levels + i)).getD 0

end Records

/-! ### The streams of models -/

section Models

variable {I} {l} {bytes : List UInt8} {ms : List model_stats} {m : model_stats}

theorem modelStream_eq_some (hdistinct : DistinctModels I) {model_id : ℕ} {s : StreamId} :
    modelStream I model_id = some s ↔ OwnsModel I s model_id := by
  have howns : ∀ entry ∈ I.sm_info_map_.toList, entry.2.model_id = model_id →
      OwnsModel I entry.1 model_id := by
    intro entry hentry hmodel
    unfold OwnsModel
    rw [Std.TreeMap.mem_toList_iff_getElem?_eq_some.mp hentry, Option.map_some, hmodel]
  unfold modelStream
  rw [Option.map_eq_some_iff]
  constructor
  · rintro ⟨entry, hfind, rfl⟩
    exact howns entry (List.mem_of_find?_eq_some hfind) (by simpa using List.find?_some hfind)
  · intro hs
    obtain ⟨sm_info, hinfo, hmodel⟩ := Option.map_eq_some_iff.mp hs
    have hmem : (s, sm_info) ∈ I.sm_info_map_.toList :=
      Std.TreeMap.mem_toList_iff_getElem?_eq_some.mpr hinfo
    obtain ⟨entry, hfind⟩ : ∃ entry, I.sm_info_map_.toList.find?
        (fun entry => entry.2.model_id = model_id) = some entry := by
      rw [← Option.isSome_iff_exists, List.find?_isSome]
      exact ⟨(s, sm_info), hmem, by simpa using hmodel⟩
    have hentry := howns entry (List.mem_of_find?_eq_some hfind)
      (by simpa using List.find?_some hfind)
    exact ⟨entry, hfind, hdistinct _ _ _ hentry hs⟩

theorem isRegistered_iff : isRegistered I m = true ↔ ∃ s, modelStream I m.detected_model_id = some s := by
  unfold isRegistered modelStream
  rw [← Option.isSome_iff_exists, Option.isSome_map, List.find?_isSome, List.any_eq_true]

/-- The loop over models that have been read. -/
def detectList (I : SVAInterface M) : List model_stats → Detecting → Detecting
  | [], d => d
  | m :: ms, d =>
    match (modelStream I m.detected_model_id).or d.st with
    | none => d
    | some st => detectList I ms ⟨some st, d.leading.push (st, m.best_confidence_level)⟩

/-- The models' streams with their confidences. -/
def confidences (I : SVAInterface M) (ms : List model_stats) : List (StreamId × ℕ) :=
  ms.filterMap fun m => (modelStream I m.detected_model_id).map fun s => (s, m.best_confidence_level)

theorem detectList_of_registered (h : ∀ m ∈ ms, isRegistered I m = true) (d : Detecting) :
    (detectList I ms d).leading = (confidences I ms).foldl Leading.push d.leading := by
  induction ms generalizing d with
  | nil => rfl
  | cons m ms ih =>
    obtain ⟨s, hs⟩ := isRegistered_iff.mp (h m List.mem_cons_self)
    unfold detectList confidences
    rw [hs, List.filterMap_cons, hs]
    exact ih (fun m' hm' => h m' (List.mem_cons_of_mem _ hm')) _

theorem detectList_of_noneBehind (h : NoneBehind I ms) :
    (detectList I ms ⟨none, .empty⟩).leading =
      (confidences I (registeredModels I ms)).foldl Leading.push .empty := by
  rcases h with h | h
  · rw [h]
    exact detectList_of_registered (List.takeWhile_eq_self_iff.mp h) _
  · rw [h]
    cases ms with
    | nil => rfl
    | cons m ms =>
      have hm : isRegistered I m ≠ true := by
        intro hm
        unfold registeredModels at h
        rw [List.takeWhile_cons_of_pos hm] at h
        cases h
      rcases hs : modelStream I m.detected_model_id with _ | s
      · unfold detectList
        rw [hs]
        rfl
      · exact absurd (isRegistered_iff.mpr ⟨s, hs⟩) hm

/-- The list of the registered models is right. -/
theorem listRight_foldl (hdistinct : DistinctModels I) (hreg : ∀ m ∈ ms, isRegistered I m = true) :
    ListRight I ms ((confidences I ms).foldl Leading.push .empty).list := by
  constructor
  · intro s
    have hperm := Leading.foldl_push_perm (confidences I ms) .empty
    have hstreams : (confidences I ms).map Prod.fst =
        ms.filterMap fun m => modelStream I m.detected_model_id := by
      unfold confidences
      rw [List.map_filterMap]
      simp [Option.map_map, Function.comp_def]
    rw [hperm.count_eq, hstreams]
    show (([] : List StreamId) ++ _).count s = _
    rw [List.nil_append, List.count_filterMap, List.countP_eq_length_filter]
    congr 2
    funext m
    rw [Bool.eq_iff_iff, beq_iff_eq, decide_eq_true_iff]
    exact modelStream_eq_some hdistinct
  · rintro ⟨m, hm, hpos⟩
    have hmem : ∀ m ∈ ms, ∃ s, OwnsModel I s m.detected_model_id ∧
        (s, m.best_confidence_level) ∈ confidences I ms := by
      intro m hm
      obtain ⟨s, hs⟩ := isRegistered_iff.mp (hreg m hm)
      refine ⟨s, (modelStream_eq_some hdistinct).mp hs, List.mem_filterMap.mpr ⟨m, hm, ?_⟩⟩
      rw [hs]
      rfl
    obtain ⟨s, -, hs⟩ := hmem m hm
    obtain ⟨p, hp, hhead, hle⟩ := Leading.head_foldl_push ⟨_, hs, hpos⟩
    obtain ⟨best, hbest, hbestp⟩ := List.mem_filterMap.mp hp
    obtain ⟨s', hs', rfl⟩ := Option.map_eq_some_iff.mp hbestp
    refine ⟨s', best, hhead, hbest, (modelStream_eq_some hdistinct).mp hs', fun m' hm' => ?_⟩
    obtain ⟨_, -, hm'⟩ := hmem m' hm'
    exact hle _ hm'

theorem readStats_fields {p : ℕ} (h : readStats bytes p = some m) :
    readLE bytes 4 p = some m.detected_model_id ∧
      readLE bytes 4 (p + 12) = some m.best_confidence_level := by
  obtain ⟨stat, hstat, rfl⟩ := Option.map_eq_some_iff.mp h
  have hlen : stat.length = 40 := length_of_slice hstat
  have hid := readLE_slice (w := 4) (q := 0) hstat (by decide)
  have hlevel := readLE_slice (w := 4) (q := 12) hstat (by decide)
  rw [readLE_field (by omega)] at hid hlevel
  exact ⟨hid.symm, hlevel.symm⟩

theorem detectModels_eq {first n i : ℕ}
    (hinside : first + (i + n) * sizeof_model_stats ≤ bytes.length) (d : Detecting) :
    detectModels I bytes first n i d = some (detectList I
      ((List.range' i n).filterMap fun i => readStats bytes (first + i * sizeof_model_stats)) d) := by
  induction n generalizing i d with
  | zero => rfl
  | succ n ih =>
    have hnext : first + i * sizeof_model_stats + sizeof_model_stats ≤ bytes.length := by
      unfold sizeof_model_stats at hinside ⊢
      omega
    obtain ⟨m, hm⟩ := Option.isSome_iff_exists.mp (readStats_isSome.mpr hnext)
    obtain ⟨hid, hlevel⟩ := readStats_fields hm
    rw [List.range'_succ, List.filterMap_cons, hm, detectModels, hid, Option.bind_some]
    unfold detectList
    rcases (modelStream I m.detected_model_id).or d.st with _ | st
    · rfl
    · show (readLE bytes 4 (first + i * sizeof_model_stats + 12)).bind _ = _
      rw [hlevel, Option.bind_some]
      refine ih ?_ _
      rw [show i + 1 + n = i + (n + 1) by omega]
      exact hinside

end Models

/-! ### The stream of a keyphrase -/

section Keyphrases

variable {I} {l} {keyphrase : String}

theorem ownerOf_spec (keyphrase : String) {entries : List (StreamId × sound_model_info M)}
    (hnames : ∀ entry ∈ entries, entry.2.info.isSome) :
    ∃ st, ownerOf keyphrase entries = some st ∧
      (∀ s, st = some s → ∃ sm_info info, (s, sm_info) ∈ entries ∧ sm_info.info = some info ∧
        keyphrase ∈ info.keyphrases_) ∧
      (st = none → ∀ entry ∈ entries, ∀ info, entry.2.info = some info →
        keyphrase ∉ info.keyphrases_) := by
  induction entries with
  | nil => exact ⟨none, rfl, by simp, by simp⟩
  | cons entry entries ih =>
    obtain ⟨s, sm_info⟩ := entry
    obtain ⟨info, hinfo⟩ := Option.isSome_iff_exists.mp (hnames _ List.mem_cons_self)
    change sm_info.info = some info at hinfo
    rw [ownerOf, hinfo, Option.bind_some]
    split_ifs with hmem
    · refine ⟨some s, rfl, ?_, by simp⟩
      rintro _ ⟨⟩
      exact ⟨sm_info, info, List.mem_cons_self, hinfo, hmem⟩
    · obtain ⟨st, hst, hsome, hnone⟩ := ih fun e he => hnames e (List.mem_cons_of_mem _ he)
      refine ⟨st, hst, fun s' hs' => ?_, fun hst' e he info' hinfo' => ?_⟩
      · obtain ⟨sm_info', info', hentry, hrest⟩ := hsome s' hs'
        exact ⟨sm_info', info', List.mem_cons_of_mem _ hentry, hrest⟩
      · rcases List.mem_cons.mp he with rfl | he
        · cases hinfo.symm.trans hinfo'
          exact hmem
        · exact hnone hst' e he info' hinfo'

/-- The owner of a keyphrase among the registered streams. -/
theorem ownerOf_registered (hnames : HasNames I) (keyphrase : String) :
    ∃ st, ownerOf keyphrase I.sm_info_map_.toList = some st ∧
      (∀ s, st = some s → OwnsPhrase I s keyphrase) ∧
      (st = none → ∀ s, ¬ OwnsPhrase I s keyphrase) := by
  have hentries : ∀ entry ∈ I.sm_info_map_.toList, entry.2.info.isSome := fun entry hentry =>
    hnames entry.1 entry.2 (Std.TreeMap.mem_toList_iff_getElem?_eq_some.mp hentry)
  obtain ⟨st, hst, hsome, hnone⟩ := ownerOf_spec keyphrase hentries
  refine ⟨st, hst, fun s hs => ?_, fun hst' s => ?_⟩
  · obtain ⟨sm_info, info, hentry, hinfo, hmem⟩ := hsome s hs
    exact ⟨sm_info, info, Std.TreeMap.mem_toList_iff_getElem?_eq_some.mp hentry, hinfo, hmem⟩
  · rintro ⟨sm_info, info, hentry, hinfo, hmem⟩
    exact hnone hst' _ (Std.TreeMap.mem_toList_iff_getElem?_eq_some.mpr hentry) info hinfo hmem

/-- The loop over the keyphrases finds the first one that has a level and a stream. -/
theorem firstOwner_spec (hnames : HasNames I) {confidence_levels : Vector ℕ 20} {level : ℕ → ℕ}
    {keyphrases : List String} {i : ℕ}
    (hlevel : ∀ j < keyphrases.length, confidence_levels[i + j]? = some (level j)) :
    ∃ st, firstOwner I confidence_levels keyphrases i = some st ∧
      FirstOwned I level keyphrases st := by
  induction keyphrases generalizing i level with
  | nil => exact ⟨none, rfl, by simp [FirstOwned]⟩
  | cons keyphrase keyphrases ih =>
    have hfirst := hlevel 0 (by simp)
    rw [Nat.add_zero] at hfirst
    -- what the rest of the loop finds, when the first keyphrase is idle
    have hrest : Idle I level 0 keyphrase → ∃ st,
        firstOwner I confidence_levels keyphrases (i + 1) = some st ∧
          FirstOwned I level (keyphrase :: keyphrases) st := by
      intro hidle
      have hlevel' : ∀ j < keyphrases.length,
          confidence_levels[i + 1 + j]? = some (level (j + 1)) := by
        intro j hj
        rw [show i + 1 + j = i + (j + 1) by omega]
        exact hlevel (j + 1) (by rw [List.length_cons]; omega)
      obtain ⟨st, hst, hright⟩ := ih hlevel'
      refine ⟨st, hst, ?_⟩
      cases st with
      | some s =>
        obtain ⟨j, kw, hkw, hpos, howns, hbefore⟩ := hright
        refine ⟨j + 1, kw, hkw, hpos, howns, fun j' hj' other hother => ?_⟩
        cases j' with
        | zero =>
          cases hother
          exact hidle
        | succ j' => exact hbefore j' (by omega) other hother
      | none =>
        intro j kw hkw
        cases j with
        | zero =>
          cases hkw
          exact hidle
        | succ j => exact hright j kw hkw
    rw [firstOwner, hfirst, Option.bind_some]
    split_ifs with hzero
    · exact hrest (Or.inl hzero)
    · obtain ⟨st, hst, hsome, hnone⟩ := ownerOf_registered hnames keyphrase
      rw [hst, Option.bind_some]
      cases st with
      | some s =>
        refine ⟨some s, rfl, 0, keyphrase, rfl, hzero, hsome s rfl, fun j hj => ?_⟩
        omega
      | none => exact hrest (Or.inr (hnone rfl))

end Keyphrases

/-! ### The records that are sought -/

section Seeking

variable {I} {l} {bytes : List UInt8}

/-- What a result leaves. -/
def foundModels (I : SVAInterface M) (l : DetectionLayout) (bytes : List UInt8) (d : PdkDetection)
    (r : Tlv ℕ Unit) : Option PdkDetection :=
  (readLE bytes 4 (l.ptr r + l.num_detected_models)).bind fun num_detected_models =>
    (detectModels I bytes (model_stat l (l.ptr r)) num_detected_models 0
      ⟨d.st, ⟨d.best_conf_level, []⟩⟩).map fun d =>
        ⟨d.st, d.leading.best, some d.leading.list⟩

theorem seeks_visitDetected (I : SVAInterface M) (l : DetectionLayout) (bytes : List UInt8) :
    Seeks l.header (visitDetected I l bytes) l.KnownPDK l.KEY_ID_VOICE_UI_MULTI_MODEL_RESULT_INFO
      (foundModels I l bytes) () where
  known_key := Or.inr rfl
  of_key d r hkey := by
    have hkeys := l.keys
    have hftrt : r.key_id ≠ l.KEY_ID_FTRT_DATA_INFO := by
      rw [hkey]
      simp at hkeys
      omega
    unfold visitDetected foundModels DetectionLayout.ptr
    rw [if_neg hftrt, if_pos hkey, Option.map_bind]
    congr 1
    funext n
    exact (Option.map_map _ _ _).symm
  of_known d r hknown hkey := by
    unfold visitDetected
    rw [if_pos (hknown.resolve_right hkey)]
  of_unknown d r hknown := by
    unfold visitDetected
    rw [if_neg fun h => hknown (Or.inl h), if_neg fun h => hknown (Or.inr h)]

/-- What a record of levels leaves. -/
def foundLevels (l : DetectionLayout) (bytes : List UInt8) (d : GmmDetection) (r : Tlv ℕ Unit) :
    Option GmmDetection :=
  (readLE bytes 2 (l.ptr r + l.number_of_confidence_values)).bind fun num_confidence_levels =>
    (copyInto (fun i => readLE bytes 1 (l.ptr r + l.confidence_levels + i)) num_confidence_levels 0
      d.confidence_levels).map fun confidence_levels =>
        ⟨num_confidence_levels, confidence_levels⟩

theorem seeks_visitConfidence (l : DetectionLayout) (bytes : List UInt8) :
    Seeks l.header (visitConfidence l bytes) l.KnownGMM l.KEY_ID_CONFIDENCE_LEVELS_INFO
      (foundLevels l bytes) () where
  known_key := Or.inl rfl
  of_key d r hkey := by
    unfold visitConfidence foundLevels DetectionLayout.ptr
    rw [if_pos hkey, Option.map_bind]
    congr 1
    funext n
    exact (Option.map_map _ _ _).symm
  of_known d r hknown hkey := by
    unfold visitConfidence
    rw [if_neg hkey, if_pos (hknown.resolve_left hkey)]
  of_unknown d r hknown := by
    unfold visitConfidence
    rw [if_neg fun h => hknown (Or.inl h), if_neg fun h => hknown (Or.inr h)]

end Seeking

/-! ### The lists are right -/

section Right

variable {I} {l} {event : DetectionPayload} {rs : List (Tlv ℕ Unit)}

theorem getPDKDetectedStream_none (hlaid : Laid l.header event.bytes 0 rs)
    (hsmall : event.bytes.length < 2 ^ 31)
    (hfirst : firstRecord l.KnownPDK l.KEY_ID_VOICE_UI_MULTI_MODEL_RESULT_INFO rs = none) :
    getPDKDetectedStream I l event = some none := by
  have hle := hlaid.length_le
  unfold getPDKDetectedStream
  split_ifs
  · rfl
  · rw [walk_of_laid_small hlaid hsmall (by omega), visitAll_of_seeks
      (seeks_visitDetected I l event.bytes), hfirst]
    show some _ = _
    split_ifs <;> rfl

theorem getPDKDetectedStream_some (hdistinct : DistinctModels I)
    (hlaid : Laid l.header event.bytes 0 rs) (hsmall : event.bytes.length < 2 ^ 31)
    {r : Tlv ℕ Unit}
    (hfirst : firstRecord l.KnownPDK l.KEY_ID_VOICE_UI_MULTI_MODEL_RESULT_INFO rs = some r)
    (hinside : ResultInside l event.bytes r)
    (hbehind : NoneBehind I (resultModels l event.bytes r)) :
    ∃ det_list, getPDKDetectedStream I l event = some (some det_list) ∧
      ListRight I (registeredModels I (resultModels l event.bytes r)) det_list := by
  have hle := hlaid.length_le
  obtain ⟨hcount, hmodels⟩ := hinside
  have hnum := readLE_field hcount
  have hnonempty : event.bytes ≠ [] := by
    intro h
    rw [h, List.length_nil] at hcount
    omega
  have hlist : detectModels I event.bytes (model_stat l (l.ptr r)) (models l event.bytes r) 0
      ⟨none, .empty⟩ = some (detectList I (resultModels l event.bytes r) ⟨none, .empty⟩) := by
    rw [detectModels_eq (by rw [Nat.zero_add]; exact hmodels), resultModels, List.range_eq_range']
  obtain ⟨d, hd⟩ : ∃ d, detectList I (resultModels l event.bytes r) ⟨none, .empty⟩ = d := ⟨_, rfl⟩
  rw [hd] at hlist
  have hfound : foundModels I l event.bytes ⟨none, 0, none⟩ r =
      some ⟨d.st, d.leading.best, some d.leading.list⟩ := by
    unfold foundModels
    rw [hnum, Option.bind_some]
    exact congrArg (Option.map _) hlist
  refine ⟨d.leading.list, ?_, ?_⟩
  · unfold getPDKDetectedStream
    rw [if_neg hnonempty, walk_of_laid_small hlaid hsmall (by omega),
      visitAll_of_seeks (seeks_visitDetected I l event.bytes), hfirst]
    show ((foundModels I l event.bytes ⟨none, 0, none⟩ r).map Except.ok).map _ = _
    rw [hfound]
    rfl
  · rw [← hd, detectList_of_noneBehind hbehind]
    exact listRight_foldl hdistinct fun m hm => List.mem_takeWhile_imp hm

/-- What the GMM stream of a good payload should be: the only stream, or the one of the first keyphrase
with a level, where there is a level for each keyphrase. -/
def StreamRight (I : SVAInterface M) (l : DetectionLayout) (bytes : List UInt8)
    (rs : List (Tlv ℕ Unit)) (st : Option StreamId) : Prop :=
  if I.sm_info_map_.size = 1 then ∃ s, st = some s ∧ s ∈ I.sm_info_map_
  else
    match firstRecord l.KnownGMM l.KEY_ID_CONFIDENCE_LEVELS_INFO rs with
    | none => st = none
    | some r =>
      if confidenceValues l bytes r < I.sound_model_info_.keyphrases_.length then st = none
      else FirstOwned I (levelAt l bytes r) I.sound_model_info_.keyphrases_ st

theorem foundLevels_spec {bytes : List UInt8} {r : Tlv ℕ Unit} (hinside : LevelsInside l bytes r)
    (d : GmmDetection) :
    ∃ confidence_levels, foundLevels l bytes d r =
        some ⟨confidenceValues l bytes r, confidence_levels⟩ ∧
      ∀ i < confidenceValues l bytes r, confidence_levels[i]? = some (levelAt l bytes r i) := by
  obtain ⟨hcount, hlevels, hfit⟩ := hinside
  obtain ⟨n, hn⟩ := readLE_of_le hcount
  have hvalues : confidenceValues l bytes r = n := by
    unfold confidenceValues
    rw [hn]
    rfl
  rw [hvalues] at hlevels hfit ⊢
  have hread : ∀ i < n, readLE bytes 1 (l.ptr r + l.confidence_levels + i) =
      some (levelAt l bytes r i) := by
    intro i hi
    obtain ⟨k, hk⟩ := readLE_of_le
      (show l.ptr r + l.confidence_levels + i + 1 ≤ bytes.length by omega)
    unfold levelAt
    rw [hk]
    rfl
  have hsome : (copyInto (fun i => readLE bytes 1 (l.ptr r + l.confidence_levels + i)) n 0
      d.confidence_levels).isSome := by
    rw [copyInto_isSome]
    intro i hi
    rw [Nat.zero_add, hread i hi]
    exact ⟨by omega, rfl⟩
  obtain ⟨confidence_levels, hcopy⟩ := Option.isSome_iff_exists.mp hsome
  refine ⟨confidence_levels, ?_, fun i hi => ?_⟩
  · unfold foundLevels
    rw [hn, Option.bind_some, hcopy]
    rfl
  · rw [getElem?_copyInto hcopy, if_pos (by omega)]
    exact hread i hi

theorem only_stream (h : I.sm_info_map_.size = 1) :
    ∃ s, I.sm_info_map_.toList.head?.map Prod.fst = some s ∧ s ∈ I.sm_info_map_ := by
  rw [← Std.TreeMap.length_toList] at h
  obtain ⟨entry, hentry⟩ := List.length_eq_one_iff.mp h
  have hmem : entry ∈ I.sm_info_map_.toList := by rw [hentry]; exact List.mem_singleton_self _
  refine ⟨entry.1, by rw [hentry]; rfl, ?_⟩
  rw [Std.TreeMap.mem_iff_isSome_getElem?, Std.TreeMap.mem_toList_iff_getElem?_eq_some.mp hmem]
  rfl

theorem getGMMDetectedStream_spec (hnames : HasNames I) (hlaid : Laid l.header event.bytes 0 rs)
    (hsmall : event.bytes.length < 2 ^ 31) (hgood : ¬ (event.bytes = [] ∨ event.status ≠ 0))
    (hinside : ∀ r ∈ firstRecord l.KnownGMM l.KEY_ID_CONFIDENCE_LEVELS_INFO rs,
      LevelsInside l event.bytes r) :
    ∃ st, getGMMDetectedStream I l event = some st ∧ StreamRight I l event.bytes rs st := by
  have hle := hlaid.length_le
  unfold getGMMDetectedStream StreamRight
  rw [if_neg hgood]
  by_cases hone : I.sm_info_map_.size = 1
  · rw [if_pos hone]
    refine ⟨_, rfl, ?_⟩
    rw [if_pos hone]
    exact only_stream hone
  rw [if_neg hone, walk_of_laid_small hlaid hsmall (by omega),
    visitAll_of_seeks (seeks_visitConfidence l event.bytes)]
  rcases hfirst : firstRecord l.KnownGMM l.KEY_ID_CONFIDENCE_LEVELS_INFO rs with _ | r
  · refine ⟨none, ?_, by rw [if_neg hone]⟩
    show (some _).bind _ = _
    rw [Option.bind_some]
    split_ifs with hall
    · show (if 0 < I.sound_model_info_.keyphrases_.length then some none
        else firstOwner I (Vector.replicate 20 0) I.sound_model_info_.keyphrases_ 0) = some none
      rcases hphrases : I.sound_model_info_.keyphrases_ with _ | ⟨keyphrase, keyphrases⟩
      · rfl
      · rw [if_pos (by simp)]
    · rfl
  · obtain ⟨confidence_levels, hfound, hlevels⟩ :=
      foundLevels_spec (hinside r hfirst) ⟨0, Vector.replicate _ 0⟩
    simp only [if_neg hone]
    show ∃ st, ((foundLevels l event.bytes ⟨0, Vector.replicate _ 0⟩ r).map Except.ok).bind _ =
      some st ∧ _
    rw [hfound]
    show ∃ st, (if confidenceValues l event.bytes r < I.sound_model_info_.keyphrases_.length then
        some none
      else firstOwner I confidence_levels I.sound_model_info_.keyphrases_ 0) = some st ∧
        if confidenceValues l event.bytes r < I.sound_model_info_.keyphrases_.length then st = none
        else FirstOwned I (levelAt l event.bytes r) I.sound_model_info_.keyphrases_ st
    by_cases hfew : confidenceValues l event.bytes r < I.sound_model_info_.keyphrases_.length
    · exact ⟨none, if_pos hfew, by rw [if_pos hfew]⟩
    · have hphrase : ∀ j < I.sound_model_info_.keyphrases_.length,
          confidence_levels[0 + j]? = some (levelAt l event.bytes r j) := by
        intro j hj
        rw [Nat.zero_add]
        exact hlevels j (by omega)
      obtain ⟨st, hst, hright⟩ := firstOwner_spec hnames hphrase
      exact ⟨st, by rw [if_neg hfew]; exact hst, by rw [if_neg hfew]; exact hright⟩

/-- **The detected streams.** For every payload of less than 2 GiB that its records fill: the PDK list
is that of the models of the first result, as far as they are registered, where the result's models
lie in the payload and none with a stream is in front of one without; there is no list without a
result. The GMM stream is the right one where the levels lie in the payload and fit their array, and
null for a payload that the DSP says is bad. -/
theorem detected_streams (I : SVAInterface M) (l : DetectionLayout) (event : DetectionPayload)
    (rs : List (Tlv ℕ Unit)) (hlaid : Laid l.header event.bytes 0 rs)
    (hsmall : event.bytes.length < 2 ^ 31) :
    (DistinctModels I →
      (∀ r ∈ firstRecord l.KnownPDK l.KEY_ID_VOICE_UI_MULTI_MODEL_RESULT_INFO rs,
        ResultInside l event.bytes r ∧ NoneBehind I (resultModels l event.bytes r)) →
      ∃ det_list, getPDKDetectedStream I l event = some det_list ∧
        match firstRecord l.KnownPDK l.KEY_ID_VOICE_UI_MULTI_MODEL_RESULT_INFO rs with
        | none => det_list = none
        | some r => ∃ list, det_list = some list ∧
            ListRight I (registeredModels I (resultModels l event.bytes r)) list) ∧
    (HasNames I →
      (∀ r ∈ firstRecord l.KnownGMM l.KEY_ID_CONFIDENCE_LEVELS_INFO rs,
        LevelsInside l event.bytes r) →
      ∃ st, getGMMDetectedStream I l event = some st ∧
        if event.bytes = [] ∨ event.status ≠ 0 then st = none
        else StreamRight I l event.bytes rs st) := by
  constructor
  · intro hdistinct hinside
    rcases hfirst : firstRecord l.KnownPDK l.KEY_ID_VOICE_UI_MULTI_MODEL_RESULT_INFO rs with _ | r
    · exact ⟨none, getPDKDetectedStream_none hlaid hsmall hfirst, rfl⟩
    · obtain ⟨hin, hbehind⟩ := hinside r hfirst
      obtain ⟨list, hlist, hright⟩ :=
        getPDKDetectedStream_some hdistinct hlaid hsmall hfirst hin hbehind
      exact ⟨some list, hlist, list, rfl, hright⟩
  · intro hnames hinside
    by_cases hbad : event.bytes = [] ∨ event.status ≠ 0
    · refine ⟨none, ?_, by rw [if_pos hbad]⟩
      unfold getGMMDetectedStream
      rw [if_pos hbad]
    · simp only [if_neg hbad]
      exact getGMMDetectedStream_spec hnames hlaid hsmall hbad hinside

end Right

/-! ### Two engines -/

/-- A stream whose model has one keyphrase. -/
def keyphraseStream (keyphrase : String) : sound_model_info Unit :=
  { pdkStream with
    model_id := 0
    info := some ⟨none, 0, [keyphrase], [], [], [], [], 1⟩ }

/-- The engine of one GMM stream. -/
def oneKeyphrase : SVAInterface Unit :=
  { pdkInterface with
    sm_info_map_ := (∅ : Std.TreeMap StreamId (sound_model_info Unit)).insert 1 (keyphraseStream "one")
    sound_model_info_ := ⟨none, 0, ["one"], [], [], [], [], 1⟩ }

/-- The engine of two GMM streams. -/
def twoKeyphrases : SVAInterface Unit :=
  { pdkInterface with
    sm_info_map_ := ((∅ : Std.TreeMap StreamId (sound_model_info Unit)).insert 1
      (keyphraseStream "one")).insert 2 (keyphraseStream "two")
    sound_model_info_ := ⟨none, 0, ["one", "two"], [], [], [], [], 2⟩ }

/-- The engine of two PDK streams. -/
def pdkPair : SVAInterface Unit :=
  { pdkInterface with
    sm_info_map_ := pdkInterface.sm_info_map_.insert 2 { pdkStream with model_id := 1282 } }

/-- A result of the models of `pdkPair`, where that of the second stream has the best confidence. -/
def knownModels : DetectionPayload where
  status := 0
  bytes := wordBytes [5, 84, 2, 1281, 0, 0, 40, 1000, 0, 2000, 0, 2500, 0,
    1282, 0, 0, 60, 1000, 0, 2000, 0, 2500, 0]
  payload_size_lt := by decide

/-- A result of another model, and of that of `pdkInterface`. -/
def unknownFirst : DetectionPayload where
  status := 0
  bytes := wordBytes [5, 84, 2, 9, 0, 0, 60, 1000, 0, 2000, 0, 2500, 0,
    1281, 0, 0, 60, 1000, 0, 2000, 0, 2500, 0]
  payload_size_lt := by decide

/-- Two levels, of which the second one is positive. -/
def secondLevel : DetectionPayload where
  status := 0
  bytes := wordBytes [1, 4] ++ [2, 0, 0, 70]
  payload_size_lt := by decide

/-- One level, which is zero. -/
def noLevel : DetectionPayload where
  status := 0
  bytes := wordBytes [1, 3] ++ [1, 0, 0]
  payload_size_lt := by decide

/-- It is enough to look at the entries of the map. -/
theorem distinctModels_of_entries {M : Type} {I : SVAInterface M}
    (h : ∀ e ∈ I.sm_info_map_.toList, ∀ e' ∈ I.sm_info_map_.toList,
      e.2.model_id = e'.2.model_id → e.1 = e'.1) : DistinctModels I := by
  intro s s' model_id hs hs'
  obtain ⟨sm_info, hinfo, hmodel⟩ := Option.map_eq_some_iff.mp hs
  obtain ⟨sm_info', hinfo', hmodel'⟩ := Option.map_eq_some_iff.mp hs'
  exact h _ (Std.TreeMap.mem_toList_iff_getElem?_eq_some.mpr hinfo) _
    (Std.TreeMap.mem_toList_iff_getElem?_eq_some.mpr hinfo') (hmodel.trans hmodel'.symm)

theorem distinctModels_pdkInterface : DistinctModels pdkInterface :=
  distinctModels_of_entries (by decide)

theorem hasNames_twoKeyphrases : HasNames twoKeyphrases := by
  intro s sm_info hinfo
  have hmem := Std.TreeMap.mem_toList_iff_getElem?_eq_some.mpr hinfo
  have hall : ∀ entry ∈ twoKeyphrases.sm_info_map_.toList, entry.2.info.isSome := by decide
  exact hall _ hmem

/-- The list has the streams of both models, and the second keyphrase's stream is found. -/
theorem detected_known :
    (∃ det_list, getPDKDetectedStream pdkPair plainLayout knownModels = some (some det_list) ∧
      ListRight pdkPair
        (registeredModels pdkPair (resultModels plainLayout knownModels.bytes ⟨0, 5, 84, ()⟩))
        det_list) ∧
    ∃ st, getGMMDetectedStream twoKeyphrases plainLayout secondLevel = some st ∧
      FirstOwned twoKeyphrases (levelAt plainLayout secondLevel.bytes ⟨0, 1, 4, ()⟩)
        ["one", "two"] st := by
  have hresult : firstRecord plainLayout.KnownPDK 5 [⟨0, 5, 84, ()⟩] = some ⟨0, 5, 84, ()⟩ := rfl
  have hlevels : firstRecord plainLayout.KnownGMM 1 [⟨0, 1, 4, ()⟩] = some ⟨0, 1, 4, ()⟩ := rfl
  constructor
  · have hlaid : Laid plainLayout.header knownModels.bytes 0 [⟨0, 5, 84, ()⟩] :=
      ⟨⟨rfl, rfl⟩, by decide, by decide⟩
    have hpair : DistinctModels pdkPair := distinctModels_of_entries (by decide)
    obtain ⟨det_list, hlist, hright⟩ := (detected_streams pdkPair plainLayout knownModels _ hlaid
      (by decide)).1 hpair fun r hr => by
        cases hresult.symm.trans hr
        exact ⟨⟨by decide, by decide⟩, Or.inl (by decide)⟩
    obtain ⟨list, rfl, hright⟩ := hright
    exact ⟨list, hlist, hright⟩
  · have hlaid : Laid plainLayout.header secondLevel.bytes 0 [⟨0, 1, 4, ()⟩] :=
      ⟨⟨rfl, rfl⟩, by decide, by decide⟩
    obtain ⟨st, hst, hright⟩ := (detected_streams twoKeyphrases plainLayout secondLevel _ hlaid
      (by decide)).2 hasNames_twoKeyphrases fun r hr => by
        cases hlevels.symm.trans hr
        exact ⟨by decide, by decide, by decide⟩
    exact ⟨st, hst, hright⟩

/-- Where the first model of a result is not registered, the list is empty although the second one is;
and a single GMM stream is returned without a level. -/
theorem detected_unregistered :
    (DistinctModels pdkInterface ∧
      Laid plainLayout.header unknownFirst.bytes 0 [⟨0, 5, 84, ()⟩] ∧
      ResultInside plainLayout unknownFirst.bytes ⟨0, 5, 84, ()⟩ ∧
      getPDKDetectedStream pdkInterface plainLayout unknownFirst = some (some []) ∧
      ¬ ListRight pdkInterface (resultModels plainLayout unknownFirst.bytes ⟨0, 5, 84, ()⟩) []) ∧
    (Laid plainLayout.header noLevel.bytes 0 [⟨0, 1, 3, ()⟩] ∧
      LevelsInside plainLayout noLevel.bytes ⟨0, 1, 3, ()⟩ ∧
      getGMMDetectedStream oneKeyphrase plainLayout noLevel = some (some 1) ∧
      ¬ FirstOwned oneKeyphrase (levelAt plainLayout noLevel.bytes ⟨0, 1, 3, ()⟩) ["one"]
        (some 1)) := by
  refine ⟨⟨distinctModels_pdkInterface, ⟨⟨rfl, rfl⟩, by decide, by decide⟩, ⟨by decide, by decide⟩,
    by decide, ?_⟩, ⟨⟨rfl, rfl⟩, by decide, by decide⟩, ⟨by decide, by decide, by decide⟩, by decide,
    ?_⟩
  · rintro ⟨hcount, -⟩
    exact absurd (hcount 1) (by decide)
  · rintro ⟨i, keyphrase, hkw, hlevel, -⟩
    cases i with
    | zero => exact hlevel (by decide)
    | succ i => cases hkw

end AudioReachPal.Sva.Dsp
