import AudioReachPal.ACD.ModelCounts

/-!
# The models of the session

Both loops go over the models of a map and leave some out. Where no model fails, the session has
afterwards what the marks ask for; a step that closes the session leaves it without models.
-/

namespace AudioReachPal.ACD

open AudioReachPal.Lib

namespace ACDEngine

variable {sm_cfg_ : ACDStreamConfig} {a : Answers} (eng : ACDEngine) {s : StreamId}
  {model_id : ModelId}

/-! ### The loops over the models -/

theorem mem_enum {models : ModelMap} : model_id ∈ (a.order.enum models).map Prod.fst ↔
    (models[model_id]?).isSome = true := by
  rw [List.mem_map]
  constructor
  · rintro ⟨⟨_, type⟩, hx, rfl⟩
    have htype := Std.TreeMap.mem_toList_iff_getElem?_eq_some.mp
      ((a.order.perm models).mem_iff.mp hx)
    exact Option.isSome_iff_exists.mpr ⟨type, htype⟩
  · intro hsome
    obtain ⟨type, htype⟩ := Option.isSome_iff_exists.mp hsome
    refine ⟨(model_id, type), (a.order.perm models).mem_iff.mpr ?_, rfl⟩
    exact Std.TreeMap.mem_toList_iff_getElem?_eq_some.mpr htype

theorem mem_unskipped {skipped models : ModelMap} :
    model_id ∈ unskipped sm_cfg_ skipped (a.order.enum models) ↔
      (models[model_id]?).isSome = true ∧ ¬ (skipped[model_id]?).isSome = true ∧
        isModelBinAvailable sm_cfg_ model_id = true := by
  rw [unskipped, List.mem_filter, mem_enum, Bool.and_eq_true, Option.isNone_iff_eq_none,
    Option.not_isSome_iff_eq_none]

theorem available_iff : isModelBinAvailable sm_cfg_ model_id = true ↔
    ∃ sm_info, sm_cfg_.getSoundModelInfoByModelId model_id = some sm_info ∧
      sm_info.model_bin_name_ ≠ "" := by
  unfold isModelBinAvailable
  cases sm_cfg_.getSoundModelInfoByModelId model_id with
  | none => simp
  | some sm_info => simp

section EachModel

variable {skipped : ModelMap} (sent : ACDSoundModelInfo → Bool) (apply : ℕ → Finset ℕ → Finset ℕ)
  (send : ModelId → ℤ)

/-- What a model that is sent does to the UUIDs of the session. -/
def applied (sm_cfg_ : ACDStreamConfig) (apply : ℕ → Finset ℕ → Finset ℕ) (registered : Finset ℕ)
    (model_id : ModelId) : Finset ℕ :=
  (sm_cfg_.getSoundModelInfoByModelId model_id).elim registered fun sm_info =>
    apply sm_info.model_uuid_ registered

theorem eachModel_skip {model : ModelId × String} (rest : List (ModelId × String))
    (hskip : (skipped[model.1]?).isSome = true ∨ ¬ isModelBinAvailable sm_cfg_ model.1 = true)
    (session : SessionAR) (status : ℤ) :
    eachModel sm_cfg_ skipped sent apply send (model :: rest) session status =
        eachModel sm_cfg_ skipped sent apply send rest session status ∧
      unskipped sm_cfg_ skipped (model :: rest) = unskipped sm_cfg_ skipped rest := by
  refine ⟨by rw [eachModel, if_pos hskip], ?_⟩
  rw [unskipped, List.map_cons, List.filter_cons, if_neg, unskipped]
  rw [Bool.and_eq_true, Option.isNone_iff_eq_none]
  rintro ⟨hnone, havailable⟩
  rcases hskip with hsome | hnot
  · rw [hnone] at hsome
    cases hsome
  · exact hnot havailable

variable {sent} (hsent : ∀ model_id sm_info, sm_cfg_.getSoundModelInfoByModelId model_id = some sm_info →
  sm_info.model_bin_name_ ≠ "" → sent sm_info = true)

include hsent

theorem eachModel_send {model : ModelId × String} (rest : List (ModelId × String))
    (hskip : ¬ ((skipped[model.1]?).isSome = true ∨ ¬ isModelBinAvailable sm_cfg_ model.1 = true))
    (session : SessionAR) (status : ℤ) :
    eachModel sm_cfg_ skipped sent apply send (model :: rest) session status =
        eachModel sm_cfg_ skipped sent apply send rest
          (if send model.1 = 0 then
            { session with registered := applied sm_cfg_ apply session.registered model.1 }
          else session) (send model.1) ∧
      unskipped sm_cfg_ skipped (model :: rest) =
        model.1 :: unskipped sm_cfg_ skipped rest := by
  rw [not_or, not_not, Option.not_isSome_iff_eq_none] at hskip
  obtain ⟨sm_info, hinfo, hbin⟩ := available_iff.mp hskip.2
  constructor
  · rw [eachModel, if_neg (by rw [hskip.1, hskip.2]; decide), hinfo]
    simp only [if_pos (hsent model.1 sm_info hinfo hbin), applied, hinfo, Option.elim_some]
  · rw [unskipped, List.map_cons, List.filter_cons, if_pos, unskipped]
    rw [hskip.1, hskip.2]
    rfl

/-- The status of the loop is that of the last model sent. -/
theorem eachModel_status (models : List (ModelId × String)) (session : SessionAR) (status : ℤ) :
    (eachModel sm_cfg_ skipped sent apply send models session status).1 =
      (unskipped sm_cfg_ skipped models).getLast?.elim status send := by
  induction models generalizing session status with
  | nil => rfl
  | cons model rest ih =>
    by_cases hskip : (skipped[model.1]?).isSome = true ∨
        ¬ isModelBinAvailable sm_cfg_ model.1 = true
    · obtain ⟨heq, hmodels⟩ := eachModel_skip sent apply send rest hskip session status
      rw [heq, hmodels, ih]
    · obtain ⟨heq, hmodels⟩ := eachModel_send apply send hsent rest hskip session status
      rw [heq, hmodels, ih, List.getLast?_cons]
      cases (unskipped sm_cfg_ skipped rest).getLast? with
      | none => rfl
      | some last => rfl

theorem eachModel_opened (models : List (ModelId × String)) (session : SessionAR) (status : ℤ) :
    (eachModel sm_cfg_ skipped sent apply send models session status).2.opened = session.opened := by
  induction models generalizing session status with
  | nil => rfl
  | cons model rest ih =>
    by_cases hskip : (skipped[model.1]?).isSome = true ∨
        ¬ isModelBinAvailable sm_cfg_ model.1 = true
    · rw [(eachModel_skip sent apply send rest hskip session status).1, ih]
    · rw [(eachModel_send apply send hsent rest hskip session status).1, ih]
      split
      · rfl
      · rfl

/-- Where no model fails, each of them is applied. -/
theorem eachModel_registered (models : List (ModelId × String)) (session : SessionAR) (status : ℤ)
    (hsend : ∀ model_id ∈ unskipped sm_cfg_ skipped models, send model_id = 0) :
    (eachModel sm_cfg_ skipped sent apply send models session status).2.registered =
      (unskipped sm_cfg_ skipped models).foldl (applied sm_cfg_ apply) session.registered := by
  induction models generalizing session status with
  | nil => rfl
  | cons model rest ih =>
    by_cases hskip : (skipped[model.1]?).isSome = true ∨
        ¬ isModelBinAvailable sm_cfg_ model.1 = true
    · obtain ⟨heq, hmodels⟩ := eachModel_skip sent apply send rest hskip session status
      rw [hmodels] at hsend
      rw [heq, hmodels, ih _ _ hsend]
    · obtain ⟨heq, hmodels⟩ := eachModel_send apply send hsent rest hskip session status
      rw [hmodels] at hsend
      obtain ⟨hmodel, hsend⟩ := List.forall_mem_cons.mp hsend
      rw [heq, hmodels, if_pos hmodel, ih _ _ hsend, List.foldl_cons]

end EachModel

theorem mem_foldl_erase {uuid : ℕ} (models : List ModelId) (registered : Finset ℕ) :
    uuid ∈ models.foldl (applied sm_cfg_ fun uuid registered => registered.erase uuid) registered ↔
      uuid ∈ registered ∧ ∀ model_id ∈ models, ∀ sm_info,
        sm_cfg_.getSoundModelInfoByModelId model_id = some sm_info → sm_info.model_uuid_ ≠ uuid := by
  induction models generalizing registered with
  | nil => simp
  | cons model_id rest ih =>
    rw [List.foldl_cons, ih, List.forall_mem_cons, ← and_assoc]
    refine and_congr_left fun _ => ?_
    cases hinfo : sm_cfg_.getSoundModelInfoByModelId model_id with
    | none => simp [applied, hinfo]
    | some sm_info => simp [applied, hinfo, Finset.mem_erase, and_comm, eq_comm]

theorem mem_foldl_insert {uuid : ℕ} (models : List ModelId) (registered : Finset ℕ) :
    uuid ∈ models.foldl (applied sm_cfg_ insert) registered ↔
      uuid ∈ registered ∨ ∃ model_id ∈ models, ∃ sm_info,
        sm_cfg_.getSoundModelInfoByModelId model_id = some sm_info ∧ sm_info.model_uuid_ = uuid := by
  induction models generalizing registered with
  | nil => simp
  | cons model_id rest ih =>
    rw [List.foldl_cons, ih, List.exists_mem_cons_iff, ← or_assoc]
    refine or_congr_left ?_
    cases hinfo : sm_cfg_.getSoundModelInfoByModelId model_id with
    | none => simp [applied, hinfo]
    | some sm_info => simp [applied, hinfo, or_comm, eq_comm]

/-! ### Loading and unloading -/

theorem unload_status (hown : sm_cfg_.OwnUUIDs) : (unloadSoundModel sm_cfg_ a eng).1 ≠ 0 ↔
    LastFails a.regDeregSoundModel (unloads sm_cfg_ a eng) := by
  have hstatus : (unloadSoundModel sm_cfg_ a eng).1 =
      (unloads sm_cfg_ a eng).getLast?.elim 0 a.regDeregSoundModel :=
    eachModel_status _ _ (fun model_id sm_info hinfo hbin =>
      decide_eq_true (hown.ne_zero model_id sm_info hinfo hbin)) _ _ _
  rw [hstatus, LastFails]
  cases (unloads sm_cfg_ a eng).getLast? with
  | none => simp
  | some last => simp

theorem load_status : (loadSoundModel sm_cfg_ a eng).1 ≠ 0 ↔
    LastFails a.populateSoundModel (loads sm_cfg_ a eng) := by
  have hstatus : (loadSoundModel sm_cfg_ a eng).1 =
      (loads sm_cfg_ a eng).getLast?.elim 0 a.populateSoundModel :=
    eachModel_status _ _ (fun _ _ _ hbin => decide_eq_true hbin) _ _ _
  rw [hstatus, LastFails]
  cases (loads sm_cfg_ a eng).getLast? with
  | none => simp
  | some last => simp

theorem unload_opened (hown : sm_cfg_.OwnUUIDs) :
    (unloadSoundModel sm_cfg_ a eng).2.session_.opened = eng.session_.opened :=
  eachModel_opened _ _ (fun model_id sm_info hinfo hbin =>
    decide_eq_true (hown.ne_zero model_id sm_info hinfo hbin)) _ _ _

theorem load_opened : (loadSoundModel sm_cfg_ a eng).2.session_.opened = eng.session_.opened :=
  eachModel_opened _ _ (fun _ _ _ hbin => decide_eq_true hbin) _ _ _

theorem mem_unload (hown : sm_cfg_.OwnUUIDs) {uuid : ℕ}
    (hsend : ∀ model_id ∈ unloads sm_cfg_ a eng, a.regDeregSoundModel model_id = 0) :
    uuid ∈ (unloadSoundModel sm_cfg_ a eng).2.session_.registered ↔
      uuid ∈ eng.session_.registered ∧ ∀ model_id ∈ unloads sm_cfg_ a eng, ∀ sm_info,
        sm_cfg_.getSoundModelInfoByModelId model_id = some sm_info → sm_info.model_uuid_ ≠ uuid := by
  have hregistered : (unloadSoundModel sm_cfg_ a eng).2.session_.registered =
      (unloads sm_cfg_ a eng).foldl (applied sm_cfg_ fun uuid registered => registered.erase uuid)
        eng.session_.registered :=
    eachModel_registered _ _ (fun model_id sm_info hinfo hbin =>
      decide_eq_true (hown.ne_zero model_id sm_info hinfo hbin)) _ _ _ hsend
  rw [hregistered, mem_foldl_erase]

theorem mem_load {uuid : ℕ}
    (hsend : ∀ model_id ∈ loads sm_cfg_ a eng, a.populateSoundModel model_id = 0) :
    uuid ∈ (loadSoundModel sm_cfg_ a eng).2.session_.registered ↔
      uuid ∈ eng.session_.registered ∨ ∃ model_id ∈ loads sm_cfg_ a eng, ∃ sm_info,
        sm_cfg_.getSoundModelInfoByModelId model_id = some sm_info ∧ sm_info.model_uuid_ = uuid := by
  have hregistered : (loadSoundModel sm_cfg_ a eng).2.session_.registered =
      (loads sm_cfg_ a eng).foldl (applied sm_cfg_ insert) eng.session_.registered :=
    eachModel_registered _ _ (fun _ _ _ hbin => decide_eq_true hbin) _ _ _ hsend
  rw [hregistered, mem_foldl_insert]

/-! ### Handling several streams -/

variable (a) in
/-- The engine that is stopped for the models. -/
def stopped : ACDEngine := if eng.isEngineActive then (eng.processStopEngine a).2 else eng

theorem closes_stopped : Closes sm_cfg_ a (eng.stopped a) ↔ Closes sm_cfg_ a eng := by
  unfold stopped
  split
  · exact Iff.rfl
  · exact Iff.rfl

/-- The engine with the models of the session loaded. -/
def reloaded (sm_cfg_ : ACDStreamConfig) (a : Answers) (eng : ACDEngine) : ACDEngine :=
  (loadSoundModel sm_cfg_ a (unloadSoundModel sm_cfg_ a eng).2).2

theorem handle_eq : handleMultiStreamLoadUnload sm_cfg_ a eng =
    if (unloadSoundModel sm_cfg_ a (eng.stopped a)).1 ≠ 0 then
      ((unloadSoundModel sm_cfg_ a (eng.stopped a)).1,
        (unloadSoundModel sm_cfg_ a (eng.stopped a)).2.closeSession)
    else if populateEventPayload a eng ≠ 0 then
      (populateEventPayload a eng, (unloadSoundModel sm_cfg_ a (eng.stopped a)).2.closeSession)
    else if (loadSoundModel sm_cfg_ a (unloadSoundModel sm_cfg_ a (eng.stopped a)).2).1 ≠ 0 then
      ((loadSoundModel sm_cfg_ a (unloadSoundModel sm_cfg_ a (eng.stopped a)).2).1,
        (reloaded sm_cfg_ a (eng.stopped a)).closeSession)
    else if eng.isEngineActive then
      ({ reloaded sm_cfg_ a (eng.stopped a) with eng_state_ := .ENG_LOADED }).processStartEngine a
    else (0, { reloaded sm_cfg_ a (eng.stopped a) with eng_state_ := .ENG_LOADED }) := by
  have hpayload : populateEventPayload a (unloadSoundModel sm_cfg_ a (eng.stopped a)).2 =
      populateEventPayload a eng := by
    unfold stopped
    split
    · rfl
    · rfl
  rw [← hpayload]
  rfl

theorem handle_of_closes (hown : sm_cfg_.OwnUUIDs) (hcloses : Closes sm_cfg_ a eng) :
    (handleMultiStreamLoadUnload sm_cfg_ a eng).1 ≠ 0 ∧
      (handleMultiStreamLoadUnload sm_cfg_ a eng).2.session_.opened = false := by
  rw [handle_eq]
  by_cases hunload : (unloadSoundModel sm_cfg_ a (eng.stopped a)).1 ≠ 0
  · rw [if_pos hunload]
    exact ⟨hunload, rfl⟩
  · rw [if_neg hunload]
    by_cases hpayload : populateEventPayload a eng ≠ 0
    · rw [if_pos hpayload]
      exact ⟨hpayload, rfl⟩
    · rw [if_neg hpayload]
      have hload : (loadSoundModel sm_cfg_ a
          (unloadSoundModel sm_cfg_ a (eng.stopped a)).2).1 ≠ 0 := by
        rw [unload_status _ hown] at hunload
        rw [load_status]
        have hcloses := (closes_stopped eng).mpr hcloses
        have hpayload' : ¬ populateEventPayload a (eng.stopped a) ≠ 0 := by
          unfold stopped
          split
          · exact hpayload
          · exact hpayload
        exact (hcloses.resolve_left hunload).resolve_left hpayload'
      rw [if_pos hload]
      exact ⟨hload, rfl⟩

/-- What handling several streams comes to when no step closes the session. -/
theorem handle_of_not_closes (hown : sm_cfg_.OwnUUIDs) (hcloses : ¬ Closes sm_cfg_ a eng) :
    handleMultiStreamLoadUnload sm_cfg_ a eng =
      if eng.isEngineActive then
        ({ reloaded sm_cfg_ a (eng.stopped a) with eng_state_ := .ENG_LOADED }).processStartEngine a
      else (0, { reloaded sm_cfg_ a (eng.stopped a) with eng_state_ := .ENG_LOADED }) := by
  rw [← closes_stopped, Closes, not_or, not_or] at hcloses
  obtain ⟨hunload, hpayload, hload⟩ := hcloses
  rw [← unload_status _ hown] at hunload
  have hpayload' : ¬ populateEventPayload a eng ≠ 0 := by
    unfold stopped at hpayload
    split at hpayload
    · exact hpayload
    · exact hpayload
  have hload' : ¬ (loadSoundModel sm_cfg_ a (unloadSoundModel sm_cfg_ a (eng.stopped a)).2).1 ≠ 0 := by
    rw [load_status]
    exact hload
  rw [handle_eq, if_neg hunload, if_neg hpayload', if_neg hload']

/-- What a start of the engine leaves alone. -/
theorem start_frame : (eng.processStartEngine a).2.session_ = eng.session_ ∧
    (eng.processStartEngine a).2.eng_streams_ = eng.eng_streams_ ∧
      (eng.processStartEngine a).2.model_count_ = eng.model_count_ := by
  unfold processStartEngine
  split
  · exact ⟨rfl, rfl, rfl⟩
  · split
    · exact ⟨rfl, rfl, rfl⟩
    · exact ⟨rfl, rfl, rfl⟩

theorem stopped_frame : (eng.stopped a).session_ = eng.session_ ∧
    (eng.stopped a).eng_streams_ = eng.eng_streams_ ∧
      (eng.stopped a).model_count_ = eng.model_count_ := by
  unfold stopped
  split
  · exact ⟨rfl, rfl, rfl⟩
  · exact ⟨rfl, rfl, rfl⟩

theorem handle_frame : (handleMultiStreamLoadUnload sm_cfg_ a eng).2.eng_streams_ =
      eng.eng_streams_ ∧
    (handleMultiStreamLoadUnload sm_cfg_ a eng).2.model_count_ = eng.model_count_ := by
  obtain ⟨-, hstreams, hcount⟩ := stopped_frame (a := a) eng
  rw [handle_eq]
  split
  · exact ⟨hstreams, hcount⟩
  · split
    · exact ⟨hstreams, hcount⟩
    · split
      · exact ⟨hstreams, hcount⟩
      · split
        · obtain ⟨-, hstreams', hcount'⟩ := start_frame (a := a)
            { reloaded sm_cfg_ a (eng.stopped a) with eng_state_ := .ENG_LOADED }
          exact ⟨hstreams'.trans hstreams, hcount'.trans hcount⟩
        · exact ⟨hstreams, hcount⟩

/-! ### The models of the session -/

/-- An open session has the models with a binary and a count of `count`. -/
def Holds (sm_cfg_ : ACDStreamConfig) (count : ModelId → ℕ) (session : SessionAR) : Prop :=
  session.opened = true → ∀ uuid, uuid ∈ session.registered ↔ ∃ model_id sm_info,
    sm_cfg_.getSoundModelInfoByModelId model_id = some sm_info ∧ sm_info.model_bin_name_ ≠ "" ∧
      sm_info.model_uuid_ = uuid ∧ 0 < count model_id

theorem Holds.reload {before : ModelId → ℕ} (hown : sm_cfg_.OwnUUIDs) (hmoves : eng.Moves before)
    (hholds : Holds sm_cfg_ before eng.session_)
    (hunload : ∀ model_id ∈ unloads sm_cfg_ a eng, a.regDeregSoundModel model_id = 0)
    (hload : ∀ model_id ∈ loads sm_cfg_ a eng, a.populateSoundModel model_id = 0) :
    Holds sm_cfg_ eng.count (reloaded sm_cfg_ a eng).session_ := by
  intro hopened uuid
  have hopened : eng.session_.opened = true :=
    (unload_opened eng hown).symm.trans ((load_opened _).symm.trans hopened)
  rw [reloaded, mem_load (unloadSoundModel sm_cfg_ a eng).2 hload, mem_unload eng hown hunload, hholds hopened uuid]
  constructor
  · rintro (⟨⟨model_id, sm_info, hinfo, hbin, huuid, hcount⟩, hkept⟩ |
      ⟨model_id, hmem, sm_info, hinfo, huuid⟩)
    · refine ⟨model_id, sm_info, hinfo, hbin, huuid, (hmoves model_id).mpr (Or.inl ⟨hcount, ?_⟩)⟩
      rintro ⟨hmark, hnot⟩
      refine hkept model_id (mem_unskipped.mpr ⟨hmark, hnot, ?_⟩) sm_info hinfo huuid
      exact available_iff.mpr ⟨sm_info, hinfo, hbin⟩
    · obtain ⟨hmark, hnot, havailable⟩ := mem_unskipped.mp hmem
      obtain ⟨sm_info', hinfo', hbin⟩ := available_iff.mp havailable
      rw [hinfo, Option.some_inj] at hinfo'
      subst hinfo'
      exact ⟨model_id, sm_info, hinfo, hbin, huuid, (hmoves model_id).mpr (Or.inr ⟨hmark, hnot⟩)⟩
  · rintro ⟨model_id, sm_info, hinfo, hbin, huuid, hcount⟩
    have havailable := available_iff.mpr ⟨sm_info, hinfo, hbin⟩
    rcases (hmoves model_id).mp hcount with ⟨hbefore, hkept⟩ | ⟨hmark, hnot⟩
    · refine Or.inl ⟨⟨model_id, sm_info, hinfo, hbin, huuid, hbefore⟩, ?_⟩
      intro model_id' hmem sm_info' hinfo' huuid'
      -- a UUID belongs to one model only, and this one is kept
      obtain ⟨hmark, hnot, havailable'⟩ := mem_unskipped.mp hmem
      obtain ⟨sm_info'', hinfo'', hbin'⟩ := available_iff.mp havailable'
      rw [hinfo', Option.some_inj] at hinfo''
      subst hinfo''
      have hsame := hown.inj model_id sm_info model_id' sm_info' hinfo hbin hinfo' hbin'
        (huuid.trans huuid'.symm)
      subst hsame
      exact hkept ⟨hmark, hnot⟩
    · exact Or.inr ⟨model_id, mem_unskipped.mpr ⟨hmark, hnot, havailable⟩, sm_info, hinfo, huuid⟩

/-- A session stays as it is when no model is to be moved. -/
theorem Holds.kept {before : ModelId → ℕ} {session : SessionAR} (hmoves : eng.Moves before)
    (hsame : ∀ model_id, (marks model_id eng).load = (marks model_id eng).unload)
    (hholds : Holds sm_cfg_ before session) : Holds sm_cfg_ eng.count session := by
  intro hopened uuid
  rw [hholds hopened uuid]
  refine exists₂_congr fun model_id sm_info => and_congr_right fun _ => and_congr_right fun _ =>
    and_congr_right fun _ => ?_
  have hmove := hmoves model_id
  rw [hsame model_id] at hmove
  change 0 < eng.count model_id ↔ _ at hmove
  tauto

theorem Holds.handle {before : ModelId → ℕ} {strict : Prop} (hown : sm_cfg_.OwnUUIDs)
    (hmoves : eng.Moves before) (hholds : Holds sm_cfg_ before eng.session_)
    (hright : HandlesRight sm_cfg_ a eng strict) :
    Holds sm_cfg_ eng.count (handleMultiStreamLoadUnload sm_cfg_ a eng).2.session_ := by
  by_cases hcloses : Closes sm_cfg_ a eng
  · intro hopened
    rw [(handle_of_closes eng hown hcloses).2] at hopened
    cases hopened
  · have hsession : (handleMultiStreamLoadUnload sm_cfg_ a eng).2.session_ =
        (reloaded sm_cfg_ a eng).session_ := by
      have hstopped : (reloaded sm_cfg_ a (eng.stopped a)).session_ =
          (reloaded sm_cfg_ a eng).session_ := by
        unfold stopped
        split
        · rfl
        · rfl
      rw [handle_of_not_closes eng hown hcloses]
      split
      · exact (start_frame _).1.trans hstopped
      · exact hstopped
    rw [hsession]
    intro hopened
    have hopened' : eng.session_.opened = true :=
      (unload_opened eng hown).symm.trans ((load_opened _).symm.trans hopened)
    obtain ⟨hunload, hload⟩ := hright.models hopened' hcloses
    exact hholds.reload eng hown hmoves hunload hload hopened

/-- Under strict conditions a call that handles several streams does not fail, and an engine that
runs is started again. -/
theorem handle_running {strict : Prop} (hown : sm_cfg_.OwnUUIDs)
    (hright : HandlesRight sm_cfg_ a eng strict) (hstrict : strict) :
    (handleMultiStreamLoadUnload sm_cfg_ a eng).1 = 0 := by
  rw [handle_of_not_closes eng hown (hright.closes hstrict)]
  split
  next hactive =>
    obtain ⟨hprepare, hstart⟩ := hright.restarts hstrict hactive
    simp only [processStartEngine, hprepare, hstart, ne_eq, not_true_eq_false, if_false]
  next => rfl

/-- The session of a call that handles several streams where it is `needed`. -/
theorem Holds.ifNeeded {before : ModelId → ℕ} {strict : Prop} {needed : Bool}
    (hown : sm_cfg_.OwnUUIDs) (hmoves : eng.Moves before)
    (hholds : Holds sm_cfg_ before eng.session_)
    (hsame : ¬ needed = true → ∀ model_id, (marks model_id eng).load = (marks model_id eng).unload)
    (hright : needed = true → HandlesRight sm_cfg_ a eng strict) :
    Holds sm_cfg_ eng.count
        (if needed then handleMultiStreamLoadUnload sm_cfg_ a eng else (0, eng)).2.session_ ∧
      ((if needed then handleMultiStreamLoadUnload sm_cfg_ a eng else (0, eng)).1 ≠ 0 → ¬ strict) := by
  by_cases hneeded : needed = true
  · rw [if_pos hneeded]
    refine ⟨hholds.handle eng hown hmoves (hright hneeded), fun hfail hstrict => ?_⟩
    exact hfail (handle_running eng hown (hright hneeded) hstrict)
  · rw [if_neg hneeded]
    exact ⟨hholds.kept eng hmoves (hsame hneeded), fun hfail => absurd rfl hfail⟩

/-! ### The first stream -/

/-- The engine with a session that was just opened. -/
def withOpened (eng : ACDEngine) : ACDEngine :=
  { eng with session_ := { opened := true, registered := ∅ } }

theorem first_eq : setupFirst sm_cfg_ a eng =
    if a.openSession ≠ 0 then (a.openSession, eng)
    else if populateEventPayload a eng ≠ 0 then
      (populateEventPayload a eng, eng.withOpened.closeSession)
    else if (loadSoundModel sm_cfg_ a eng.withOpened).1 ≠ 0 then
      ((loadSoundModel sm_cfg_ a eng.withOpened).1,
        (loadSoundModel sm_cfg_ a eng.withOpened).2.closeSession)
    else if !a.joinable then
      (-EINVAL, (loadSoundModel sm_cfg_ a eng.withOpened).2.closeSession)
    else (0, { (loadSoundModel sm_cfg_ a eng.withOpened).2 with eng_state_ := .ENG_LOADED }) := by
  by_cases hopen : a.openSession = 0
  · simp only [setupFirst, openSession, hopen, ne_eq, not_true_eq_false, if_true, if_false]
    rfl
  · simp only [setupFirst, openSession, hopen, ne_eq, not_false_eq_true, if_true, if_false]

theorem first_frame : (setupFirst sm_cfg_ a eng).2.eng_streams_ = eng.eng_streams_ ∧
    (setupFirst sm_cfg_ a eng).2.model_count_ = eng.model_count_ := by
  rw [first_eq]
  split
  · exact ⟨rfl, rfl⟩
  · split
    · exact ⟨rfl, rfl⟩
    · split
      · exact ⟨rfl, rfl⟩
      · split
        · exact ⟨rfl, rfl⟩
        · exact ⟨rfl, rfl⟩

theorem closed_holds (count : ModelId → ℕ) (eng : ACDEngine) :
    Holds sm_cfg_ count eng.closeSession.session_ := by
  intro hopened
  cases hopened

/-- A session that was just opened gets the models that are counted. -/
theorem first_holds {before : ModelId → ℕ} (hmoves : eng.Moves before)
    (hzero : ∀ model_id, before model_id = 0)
    (hopen : a.openSession ≠ 0 → Holds sm_cfg_ eng.count eng.session_)
    (hload : ∀ model_id ∈ loads sm_cfg_ a eng, a.populateSoundModel model_id = 0) :
    Holds sm_cfg_ eng.count (setupFirst sm_cfg_ a eng).2.session_ := by
  rw [first_eq]
  split
  next hfail => exact hopen hfail
  next =>
    split
    · exact closed_holds _ _
    · split
      · exact closed_holds _ _
      · split
        · exact closed_holds _ _
        · intro _ uuid
          refine (mem_load eng.withOpened hload).trans ?_
          constructor
          · rintro (hempty | ⟨model_id, hmem, sm_info, hinfo, huuid⟩)
            · cases hempty
            · obtain ⟨hmark, hnot, havailable⟩ := mem_unskipped.mp hmem
              obtain ⟨sm_info', hinfo', hbin⟩ := available_iff.mp havailable
              rw [hinfo, Option.some_inj] at hinfo'
              subst hinfo'
              exact ⟨model_id, sm_info, hinfo, hbin, huuid,
                (hmoves model_id).mpr (Or.inr ⟨hmark, hnot⟩)⟩
          · rintro ⟨model_id, sm_info, hinfo, hbin, huuid, hcount⟩
            rcases (hmoves model_id).mp hcount with ⟨hbefore, -⟩ | ⟨hmark, hnot⟩
            · exact absurd (hzero model_id) hbefore.ne'
            · refine Or.inr ⟨model_id, mem_unskipped.mpr ⟨hmark, hnot, ?_⟩, sm_info, hinfo, huuid⟩
              exact available_iff.mpr ⟨sm_info, hinfo, hbin⟩

theorem first_status (hopen : a.openSession = 0) (hpayload : populateEventPayload a eng = 0)
    (hjoinable : a.joinable = true)
    (hload : ∀ model_id ∈ loads sm_cfg_ a eng, a.populateSoundModel model_id = 0) :
    (setupFirst sm_cfg_ a eng).1 = 0 := by
  have hstatus : ¬ (loadSoundModel sm_cfg_ a eng.withOpened).1 ≠ 0 := by
    rw [load_status]
    rintro ⟨model_id, hlast, hfail⟩
    exact hfail (hload model_id (List.mem_of_getLast? hlast))
  rw [first_eq, if_neg (not_not.mpr hopen), if_neg (not_not.mpr hpayload), if_neg hstatus,
    hjoinable]
  rfl

/-! ### The session of a call -/

section Frame

variable (sm_cfg_ a s)

theorem setupSession_frame : (setupSession sm_cfg_ a eng s).2.eng_streams_ = eng.eng_streams_ ∧
    (setupSession sm_cfg_ a eng s).2.model_count_ = eng.model_count_ := by
  unfold setupSession
  split
  · split
    · exact handle_frame eng
    · exact ⟨rfl, rfl⟩
  · exact first_frame eng

theorem reconfigureSession_frame :
    (reconfigureSession sm_cfg_ a eng).2.eng_streams_ = eng.eng_streams_ ∧
      (reconfigureSession sm_cfg_ a eng).2.model_count_ = eng.model_count_ := by
  unfold reconfigureSession
  split
  · exact handle_frame eng
  · exact ⟨rfl, rfl⟩

theorem teardownSession_frame :
    (teardownSession sm_cfg_ a eng s).2.eng_streams_ = eng.eng_streams_ ∧
      (teardownSession sm_cfg_ a eng s).2.model_count_ = eng.model_count_ := by
  unfold teardownSession
  split
  · split
    · exact handle_frame eng
    · exact ⟨rfl, rfl⟩
  · exact ⟨rfl, rfl⟩

end Frame

theorem count_congr {eng eng' : ACDEngine} (h : eng'.model_count_ = eng.model_count_) :
    eng'.count = eng.count := by
  funext model_id
  rw [count, h, count]

end ACDEngine

end AudioReachPal.ACD
