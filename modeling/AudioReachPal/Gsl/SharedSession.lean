import AudioReachPal.Gsl.Detection
import Mathlib.Data.List.Basic

/-!
# A session that several streams share

The streams of one engine share its session. A load or an unload of one stream's model stops the
recognition of the others, and with merged models it also closes the session, before it tries the
steps that can fail. Each failure leaves through one exit, and not each of them leaves the others
with what they had.

The engine is that of `Detection`; what is added here is the session with the models it has, and
the streams that are attached.
-/

namespace AudioReachPal.Gsl.Detection

open eng_state_t st_module_type_t st_param_id_type_t st_state_id_t

/-! ### The session and the streams -/

section Model

variable {K : Type*}

/-- The session, and the keyphrases of each model that was loaded since it was opened: one model
for each stream, or with `none` the merged one. -/
structure SharedSession (K : Type*) where
  opened : Bool
  models : Option StreamId → Option (List K)

/-- A session without its graph. -/
def SharedSession.closed : SharedSession K := ⟨false, fun _ => none⟩

/-- The streams, with the keyphrases of their models and their states. -/
structure Streams (K : Type*) where
  phrases : StreamId → List K
  getCurrentStateId : StreamId → st_state_id_t

/-- What the steps of a load or an unload answer. `handed` are the keyphrases of the model that
the interface hands over for `LOAD_SOUND_MODEL`. -/
structure SharedAnswers (K : Type*) where
  stop : StopAnswers
  close : ℤ
  setModel : ℤ
  opened : ℤ
  modeBit : PayloadAnswers
  payload : PayloadAnswers
  handed : List K
  start : StartAnswers
  soundCardOnline : Bool

/-- An engine, its session, and the streams that are attached. -/
structure SharedEngine (K : Type*) where
  eng : Engine
  session : SharedSession K
  eng_streams_ : List StreamId

namespace SharedEngine

variable (streams : Streams K) (enableInterConcurrentDetection : Bool) (σ : SharedEngine K)
  (s : StreamId) (a : SharedAnswers K)

def checkIfOtherStreamsAttached : Bool := σ.eng_streams_.any fun t => decide (t ≠ s)

def getOtherActiveStream : Option StreamId :=
  σ.eng_streams_.find? fun t => decide (t ≠ s) &&
    match streams.getCurrentStateId t with
    | ST_STATE_ACTIVE | ST_STATE_BUFFERING | ST_STATE_DETECTED => true
    | ST_STATE_IDLE | ST_STATE_LOADED | ST_STATE_SSR => false

/-- Where the model of a stream is in the session. -/
def modelKey (t : StreamId) : Option StreamId :=
  if σ.eng.is_multi_model_supported_ then some t else none

def updateState (state : eng_state_t) : SharedEngine K :=
  { σ with eng := σ.eng.updateState state }

def stopIfActive : SharedEngine K :=
  { σ with eng := σ.eng.stopIfActive enableInterConcurrentDetection a.stop }

/-- Whatever it answers, a close leaves no session. -/
def closeSession : SharedEngine K := { σ with session := .closed }

/-- An open that succeeds leaves a session without a model. -/
def openSession : SharedEngine K := { σ with session := ⟨true, fun _ => none⟩ }

/-- `updateSessionPayload` with `LOAD_SOUND_MODEL`. -/
def loadPayload : ℤ × SharedEngine K :=
  let res := σ.eng.updateSessionPayload enableInterConcurrentDetection LOAD_SOUND_MODEL a.payload
  (res.1, { σ with
    eng := res.2
    session := if res.1 ≠ 0 then σ.session else
      { σ.session with
        models := Function.update σ.session.models (σ.modelKey s) (some a.handed) } })

/-- `updateSessionPayload` with `UNLOAD_SOUND_MODEL`. -/
def unloadPayload : ℤ × SharedEngine K :=
  let res := σ.eng.updateSessionPayload enableInterConcurrentDetection UNLOAD_SOUND_MODEL a.payload
  (res.1, { σ with
    eng := res.2
    session := if res.1 ≠ 0 then σ.session else
      { σ.session with models := Function.update σ.session.models (σ.modelKey s) none } })

def processStartRecognition : ℤ × SharedEngine K :=
  let res := σ.eng.processStartRecognition enableInterConcurrentDetection a.start
  (res.1, { σ with eng := res.2 })

/-- The end of a load: a failed payload closes the session, and an engine that was active is
started again. -/
def finishLoad (restore_eng_state : Bool) (res : ℤ × SharedEngine K) : ℤ × SharedEngine K :=
  if res.1 ≠ 0 then (res.1, res.2.closeSession)
  else
    let σ := res.2.updateState ENG_LOADED
    if restore_eng_state then σ.processStartRecognition enableInterConcurrentDetection a
    else (0, σ)

def handleMultiStreamLoad : ℤ × SharedEngine K :=
  let restore_eng_state := σ.eng.isEngineActive
  let finish := finishLoad enableInterConcurrentDetection a restore_eng_state
  let σ := σ.stopIfActive enableInterConcurrentDetection a
  if σ.eng.is_multi_model_supported_ = false then
    let σ := σ.closeSession.updateState ENG_IDLE
    if a.setModel ≠ 0 then (a.setModel, σ)
    else if a.opened ≠ 0 then (a.opened, σ)
    else finish (σ.openSession.loadPayload enableInterConcurrentDetection s a)
  else finish (σ.loadPayload enableInterConcurrentDetection s a)

/-- The end of an unload: an engine that was active is started again for another active stream. -/
def restoreOthers (restore_eng_state : Bool) (res : ℤ × SharedEngine K) : ℤ × SharedEngine K :=
  if restore_eng_state && (res.2.getOtherActiveStream streams s).isSome then
    res.2.processStartRecognition enableInterConcurrentDetection a
  else res

def handleMultiStreamUnload : ℤ × SharedEngine K :=
  let restore_eng_state := σ.eng.isEngineActive
  let restore := restoreOthers streams enableInterConcurrentDetection s a restore_eng_state
  let σ := σ.stopIfActive enableInterConcurrentDetection a
  if σ.eng.is_multi_model_supported_ then
    -- the status of a failed payload is kept, and the others are started again all the same
    restore (σ.unloadPayload enableInterConcurrentDetection s a)
  else
    let σ := σ.closeSession.updateState ENG_IDLE
    if a.setModel ≠ 0 then (a.setModel, σ)
    else if a.opened ≠ 0 then (a.opened, σ)
    else
      let res := σ.openSession.loadPayload enableInterConcurrentDetection s a
      if res.1 ≠ 0 then (res.1, res.2.closeSession)
      else restore (0, res.2.updateState ENG_LOADED)

/-- The payloads with which a stream loads its model into a session of its own. -/
def loadPayloads : ℤ × SharedEngine K :=
  if σ.eng.module_type_ = ST_MODULE_TYPE_MMA then
    let res := σ.eng.updateSessionPayload enableInterConcurrentDetection MMA_MODE_BIT_CONFIG a.modeBit
    if res.1 ≠ 0 then (res.1, { σ with eng := res.2 })
    else if res.2.mma_mode_bit_ = 0 then
      loadPayload enableInterConcurrentDetection { σ with eng := res.2 } s a
    else (res.1, { σ with eng := res.2 })
  else if σ.eng.module_type_ ≠ ST_MODULE_TYPE_HIST_CAP then
    σ.loadPayload enableInterConcurrentDetection s a
  else (0, σ)

/-- `loadSoundModel`; `sm_data` tells whether there is a model at all. -/
def loadSoundModel (sm_data : Bool) : ℤ × SharedEngine K :=
  if sm_data = false then (-EINVAL, σ)
  else
    let res :=
      if σ.checkIfOtherStreamsAttached s then
        σ.handleMultiStreamLoad enableInterConcurrentDetection s a
      else if a.opened ≠ 0 then (a.opened, σ)
      else
        let σ := σ.openSession
        if a.setModel ≠ 0 then (a.setModel, σ.closeSession)
        else
          let res := σ.loadPayloads enableInterConcurrentDetection s a
          if res.1 ≠ 0 then (res.1, res.2.closeSession) else (0, res.2.updateState ENG_LOADED)
    (Engine.ssrStatus a.soundCardOnline res.1,
      if res.1 = 0 then { res.2 with eng_streams_ := res.2.eng_streams_ ++ [s] } else res.2)

/-- `unloadSoundModel`, which detaches the stream in any case. -/
def unloadSoundModel : ℤ × SharedEngine K :=
  let res :=
    if σ.checkIfOtherStreamsAttached s then
      σ.handleMultiStreamUnload streams enableInterConcurrentDetection s a
    else if a.setModel ≠ 0 then (a.setModel, σ)
    else (a.close, σ.closeSession.updateState ENG_IDLE)
  (Engine.ssrStatus a.soundCardOnline res.1,
    { res.2 with eng_streams_ := res.2.eng_streams_.erase s })

/-- The calls that change the model of one stream. -/
inductive ModelCall where
  | loadSoundModel (sm_data : Bool)
  | unloadSoundModel
  deriving DecidableEq, Repr

def call : ModelCall → ℤ × SharedEngine K
  | .loadSoundModel sm_data => σ.loadSoundModel enableInterConcurrentDetection s a sm_data
  | .unloadSoundModel => σ.unloadSoundModel streams enableInterConcurrentDetection s a

end SharedEngine

end Model

/-! ### What a call of the engine leaves -/

namespace Engine

variable (inter : Bool) {eng eng' : Engine}

omit inter in
theorem interfacePayload_ok {param : st_param_id_type_t} {a : PayloadAnswers}
    (h : eng.interfacePayload param a = .ok eng') :
    eng'.toEngineConfig = eng.toEngineConfig ∧ eng'.eng_state_ = eng.eng_state_ := by
  unfold interfacePayload at h
  cases param <;> simp only at h <;> (try split_ifs at h) <;> cases h <;> exact ⟨rfl, rfl⟩

/-- A payload leaves the configuration and the state. -/
theorem updateSessionPayload_frame (eng : Engine) (param : st_param_id_type_t)
    (a : PayloadAnswers) :
    (eng.updateSessionPayload inter param a).2.toEngineConfig =
        eng.toEngineConfig ∧
      (eng.updateSessionPayload inter param a).2.eng_state_ =
        eng.eng_state_ := by
  unfold updateSessionPayload
  by_cases hids : (eng.payloadIds param).1 = 0 ∨ (eng.payloadIds param).2 = 0
  · rw [if_pos hids]
    exact ⟨rfl, rfl⟩
  rw [if_neg hids]
  by_cases hmiid : a.getMIID ≠ 0
  · rw [if_pos hmiid]
    exact ⟨rfl, rfl⟩
  rw [if_neg hmiid]
  cases hi : eng.interfacePayload param a with
  | error status => exact ⟨rfl, rfl⟩
  | ok e =>
    have hframe := interfacePayload_ok hi
    unfold updateGlobalDetectionStatus
    dsimp only
    split_ifs <;> exact hframe

/-- What a payload answers is a matter of the configuration and of the answers it gets, but for the
mode bit. -/
theorem updateSessionPayload_congr inter (hcfg : eng'.toEngineConfig = eng.toEngineConfig)
    {param : st_param_id_type_t} (hp : param ≠ MMA_MODE_BIT_CONFIG) (a : PayloadAnswers) :
    (eng'.updateSessionPayload inter param a).1 =
      (eng.updateSessionPayload inter param a).1 := by
  have hi : (∃ status, ∀ e : Engine, e.interfacePayload param a = .error status) ∨
      ∀ e : Engine, e.interfacePayload param a = .ok e := by
    unfold interfacePayload
    cases param with
    | MMA_MODE_BIT_CONFIG => exact absurd rfl hp
    | ENGINE_PER_MODEL_RESET | MODULE_VERSION => exact Or.inl ⟨-EINVAL, fun _ => rfl⟩
    | TRIGGER_DETECTION_CONFIG => exact Or.inr fun _ => rfl
    | BUFFERING_MODE_CONFIG =>
      by_cases h : a.setParameter ≠ 0 ∨ a.getParameter ≠ 0
      · exact Or.inl ⟨-EINVAL, fun _ => if_pos h⟩
      · exact Or.inr fun _ => if_neg h
    | LOAD_SOUND_MODEL | UNLOAD_SOUND_MODEL | WAKEUP_CONFIG | BUFFERING_CONFIG | ENGINE_RESET
    | CUSTOM_CONFIG =>
      by_cases h : a.getParameter ≠ 0
      · exact Or.inl ⟨a.getParameter, fun _ => if_pos h⟩
      · exact Or.inr fun _ => if_neg h
  unfold updateSessionPayload
  rw [hcfg]
  rcases hi with ⟨status, hi⟩ | hi <;> rw [hi, hi] <;> dsimp only <;> split_ifs <;> rfl

theorem isEngineActive_stopIfActive (eng : Engine) (a : StopAnswers) :
    (eng.stopIfActive inter a).isEngineActive = false := by
  unfold stopIfActive
  cases h : eng.isEngineActive with
  | true => simp [processStopRecognition, updateState, isEngineActive]
  | false => simpa using h

theorem toEngineConfig_stopIfActive (eng : Engine) (a : StopAnswers) :
    (eng.stopIfActive inter a).toEngineConfig = eng.toEngineConfig := by
  unfold stopIfActive
  split_ifs
  · exact (updateSessionPayload_frame inter eng ENGINE_RESET a.reset).1
  · rfl

theorem updateConfigsToSession_frame (eng : Engine) (a : StartAnswers) :
    (eng.updateConfigsToSession inter a).2.toEngineConfig =
        eng.toEngineConfig ∧
      (eng.updateConfigsToSession inter a).2.eng_state_ =
        eng.eng_state_ := by
  have hthen : ∀ (param : st_param_id_type_t) (b : PayloadAnswers),
      let e := (eng.updateSessionPayload inter param b).2
      let e' := (e.updateSessionPayload inter BUFFERING_CONFIG
        a.bufferingConfig).2
      e'.toEngineConfig = eng.toEngineConfig ∧ e'.eng_state_ = eng.eng_state_ := by
    intro param b
    obtain ⟨h1, h2⟩ := updateSessionPayload_frame
      inter eng param b
    obtain ⟨h1', h2'⟩ := updateSessionPayload_frame
      inter (eng.updateSessionPayload inter param b).2 BUFFERING_CONFIG
      a.bufferingConfig
    exact ⟨h1'.trans h1, h2'.trans h2⟩
  unfold updateConfigsToSession
  dsimp only
  split_ifs
  all_goals first
    | exact updateSessionPayload_frame inter eng _ _
    | exact hthen _ _
    | exact ⟨rfl, rfl⟩

theorem updateConfigsToSession_congr (hcfg : eng'.toEngineConfig = eng.toEngineConfig)
    (a : StartAnswers) :
    (eng'.updateConfigsToSession inter a).1 =
      (eng.updateConfigsToSession inter a).1 := by
  have hbuf : ∀ {e e' : Engine}, e'.toEngineConfig = eng'.toEngineConfig →
      e.toEngineConfig = eng.toEngineConfig →
      (e'.updateSessionPayload inter BUFFERING_CONFIG
          a.bufferingConfig).1 =
        (e.updateSessionPayload inter BUFFERING_CONFIG
          a.bufferingConfig).1 := fun h' h =>
    updateSessionPayload_congr inter (h'.trans (hcfg.trans h.symm)) (by decide) _
  have hthen : ∀ param, param ≠ MMA_MODE_BIT_CONFIG →
      (if (eng'.updateSessionPayload inter param a.config).1 ≠ 0 then
          eng'.updateSessionPayload inter param a.config
        else (eng'.updateSessionPayload inter param
          a.config).2.updateSessionPayload inter BUFFERING_CONFIG
            a.bufferingConfig).1 =
      (if (eng.updateSessionPayload inter param a.config).1 ≠ 0 then
          eng.updateSessionPayload inter param a.config
        else (eng.updateSessionPayload inter param
          a.config).2.updateSessionPayload inter BUFFERING_CONFIG
            a.bufferingConfig).1 := by
    intro param hp
    have h := updateSessionPayload_congr inter hcfg hp a.config
    rw [h]
    split_ifs
    · exact h
    · exact hbuf (updateSessionPayload_frame inter eng' param a.config).1
        (updateSessionPayload_frame inter eng param a.config).1
  unfold updateConfigsToSession
  rw [hcfg]
  dsimp only
  by_cases hqc : eng.is_qc_wakeup_config_ = true
  · rw [if_pos hqc, if_pos hqc]
    by_cases hhist : eng.module_type_ ≠ ST_MODULE_TYPE_HIST_CAP
    · rw [if_pos hhist, if_pos hhist]
      exact hthen WAKEUP_CONFIG (by decide)
    · rw [if_neg hhist, if_neg hhist]
      exact hthen BUFFERING_MODE_CONFIG (by decide)
  · rw [if_neg hqc, if_neg hqc]
    by_cases hcustom : eng.module_tag_ids_ CUSTOM_CONFIG ≠ 0 ∧ eng.param_ids_ CUSTOM_CONFIG ≠ 0
    · rw [if_pos hcustom, if_pos hcustom]
      exact hthen CUSTOM_CONFIG (by decide)
    · rw [if_neg hcustom, if_neg hcustom]
      exact hbuf rfl rfl

/-- The session is started; after that only the reading of the mmap position can fail. -/
def Starts (eng : Engine) (a : StartAnswers) : Prop :=
  (eng.updateConfigsToSession inter a).1 = 0 ∧ a.prepare = 0 ∧
    a.createMmapBuffer = 0 ∧ a.start = 0

theorem processStartRecognition_of_starts {a : StartAnswers}
    (h : eng.Starts inter a) :
    (eng.processStartRecognition inter a).1 = a.position ∧
      (eng.processStartRecognition inter a).2.isEngineActive = true := by
  obtain ⟨hconfigs, hprepare, hmmap, hstart⟩ := h
  simp [processStartRecognition, hconfigs, hprepare, hmmap, hstart, updateState, isEngineActive]

theorem processStartRecognition_of_not_starts {a : StartAnswers}
    (h : ¬eng.Starts inter a) :
    (eng.processStartRecognition inter a).1 ≠ 0 ∧
      (eng.processStartRecognition inter a).2.eng_state_ =
        eng.eng_state_ := by
  have hstate := (updateConfigsToSession_frame inter eng a).2
  unfold processStartRecognition
  dsimp only
  by_cases hconfigs : (eng.updateConfigsToSession inter a).1 ≠ 0
  · rw [if_pos hconfigs]
    exact ⟨hconfigs, hstate⟩
  rw [if_neg hconfigs]
  by_cases hprepare : a.prepare ≠ 0
  · rw [if_pos hprepare]
    exact ⟨hprepare, hstate⟩
  rw [if_neg hprepare]
  by_cases hmmap : a.createMmapBuffer ≠ 0
  · rw [if_pos hmmap]
    exact ⟨hmmap, hstate⟩
  rw [if_neg hmmap]
  have hstart : a.start ≠ 0 := fun hs =>
    h ⟨not_not.mp hconfigs, not_not.mp hprepare, not_not.mp hmmap, hs⟩
  rw [if_pos hstart]
  split_ifs <;> exact ⟨hstart, hstate⟩

theorem toEngineConfig_processStartRecognition (eng : Engine) (a : StartAnswers) :
    (eng.processStartRecognition inter a).2.toEngineConfig = eng.toEngineConfig := by
  have hcfg := (updateConfigsToSession_frame inter eng a).1
  unfold processStartRecognition
  dsimp only
  split_ifs <;> exact hcfg

theorem starts_congr (hcfg : eng'.toEngineConfig = eng.toEngineConfig) {a : StartAnswers} :
    eng'.Starts inter a ↔ eng.Starts inter a := by
  unfold Starts
  rw [updateConfigsToSession_congr inter hcfg]

/-- What a start answers is a matter of the configuration and of the answers it gets. -/
theorem processStartRecognition_congr (hcfg : eng'.toEngineConfig = eng.toEngineConfig)
    (a : StartAnswers) :
    (eng'.processStartRecognition inter a).1 =
      (eng.processStartRecognition inter a).1 := by
  have hconfigs := updateConfigsToSession_congr inter hcfg a
  unfold processStartRecognition
  dsimp only
  rw [hconfigs]
  split_ifs <;> first | rfl | exact hconfigs

end Engine

namespace SharedEngine

variable {K : Type*} (streams : Streams K) (inter : Bool) (σ : SharedEngine K) (s : StreamId)
  (a : SharedAnswers K)

/-! ### What the other streams keep -/

/-- The attached streams other than `s`. -/
def others : List StreamId := σ.eng_streams_.filter fun t => decide (t ≠ s)

/-- The session is open, with a model for each of the streams `ts` that has its keyphrases. -/
def Serves (ts : List StreamId) : Prop :=
  σ.session.opened = true ∧ ∀ t ∈ ts, ∃ m, σ.session.models (σ.modelKey t) = some m ∧
    ∀ k ∈ streams.phrases t, k ∈ m

/-- Another stream than `s` is active. -/
def OtherActive : Prop := (σ.getOtherActiveStream streams s).isSome = true

/-- What the streams other than `s` keep from `σ` to `τ`: a session with their models, and an
active engine if one of them is active. -/
structure KeepsOthers (σ : SharedEngine K) (s : StreamId) (τ : SharedEngine K) : Prop where
  serves : σ.Serves streams (σ.others s) → τ.Serves streams (σ.others s)
  active : σ.eng.isEngineActive = true → σ.OtherActive streams s → τ.eng.isEngineActive = true

/-- A call that reports an error leaves the other streams what they had. -/
def KeepsOnError (σ : SharedEngine K) (s : StreamId) (res : ℤ × SharedEngine K) : Prop :=
  res.1 ≠ 0 → KeepsOthers streams σ s res.2

/-- There is nothing the other streams could lose. -/
def NothingToLose : Prop :=
  ¬σ.Serves streams (σ.others s) ∧ ¬(σ.eng.isEngineActive = true ∧ σ.OtherActive streams s)

/-- The status of the first step that fails between the close of the session and the end of the
load of the model; with a model for each stream, of the load alone. -/
def reloadStatus : ℤ :=
  let load := (σ.eng.updateSessionPayload inter LOAD_SOUND_MODEL a.payload).1
  if σ.eng.is_multi_model_supported_ then load
  else if a.setModel ≠ 0 then a.setModel
  else if a.opened ≠ 0 then a.opened
  else load

/-- A restart that succeeds, or whose error is not reported, or after which the other streams have
what they had: the merged model has their keyphrases, and if one of them is active, the session was
started and only the mmap position could not be read. -/
def RestartKeeps : Prop :=
  (σ.eng.processStartRecognition inter a.start).1 = 0 ∨
    (σ.eng.processStartRecognition inter a.start).1 = -ENETRESET ∨
    ((σ.Serves streams (σ.others s) → σ.eng.is_multi_model_supported_ = true ∨
        ∀ t ∈ σ.others s, ∀ k ∈ streams.phrases t, k ∈ a.handed) ∧
      (σ.OtherActive streams s → σ.eng.Starts inter a.start))

/-- When a call keeps what the other streams have. -/
def Restores : ModelCall → Prop
  | .loadSoundModel sm_data =>
    sm_data = true →
      if σ.reloadStatus inter a ≠ 0 then
        σ.reloadStatus inter a = -ENETRESET ∨ σ.NothingToLose streams s
      else σ.eng.isEngineActive = true → σ.RestartKeeps streams inter s a
  | .unloadSoundModel =>
    if σ.eng.is_multi_model_supported_ = false ∧ σ.reloadStatus inter a ≠ 0 then
      σ.reloadStatus inter a = -ENETRESET ∨ σ.NothingToLose streams s
    else σ.eng.isEngineActive = true → σ.OtherActive streams s → σ.RestartKeeps streams inter s a

/-! ### The handlers -/

variable {streams inter σ s a}

/-- The session after the load of a model. -/
def loaded (σ : SharedEngine K) (s : StreamId) (a : SharedAnswers K) : SharedSession K :=
  if σ.eng.is_multi_model_supported_ then
    { σ.session with models := Function.update σ.session.models (some s) (some a.handed) }
  else ⟨true, Function.update (fun _ => none) none (some a.handed)⟩

/-- The other streams are served by the session after a load if it has their keyphrases. -/
theorem serves_loaded {τ : SharedEngine K} (hcfg : τ.eng.toEngineConfig = σ.eng.toEngineConfig)
    (hsession : τ.session = σ.loaded s a) (hs : σ.Serves streams (σ.others s)) :
    τ.Serves streams (σ.others s) ↔ (σ.eng.is_multi_model_supported_ = true ∨
      ∀ t ∈ σ.others s, ∀ k ∈ streams.phrases t, k ∈ a.handed) := by
  obtain ⟨hopen, hmodels⟩ := hs
  have hmulti' : τ.eng.is_multi_model_supported_ = σ.eng.is_multi_model_supported_ := by rw [hcfg]
  unfold Serves modelKey
  rw [hsession, hmulti']
  unfold loaded
  cases hmulti : σ.eng.is_multi_model_supported_ with
  | true =>
    simp only [if_true, true_or, iff_true]
    refine ⟨hopen, fun t ht => ?_⟩
    have hne : t ≠ s := by simpa [others] using (List.mem_filter.mp ht).2
    have hkey : some t ≠ some s := fun h => hne (Option.some.inj h)
    rw [Function.update_of_ne hkey]
    simpa [modelKey, hmulti] using hmodels t ht
  | false =>
    simp only [Bool.false_eq_true, if_false, false_or, Function.update_self, true_and]
    simp

theorem not_serves_closed {τ : SharedEngine K} (hsession : τ.session = .closed)
    (ts : List StreamId) : ¬τ.Serves streams ts := by
  rintro ⟨hopen, -⟩
  rw [hsession] at hopen
  cases hopen

/-- What was closed keeps nothing. -/
theorem keepsOthers_closed_iff {τ : SharedEngine K} (hsession : τ.session = .closed)
    (hact : τ.eng.isEngineActive = false) :
    KeepsOthers streams σ s τ ↔ σ.NothingToLose streams s := by
  constructor
  · intro h
    refine ⟨fun hs => not_serves_closed hsession _ (h.serves hs), ?_⟩
    rintro ⟨ha, ho⟩
    have hτ := h.active ha ho
    rw [hact] at hτ
    cases hτ
  · rintro ⟨hs, ha⟩
    exact ⟨fun h => absurd h hs, fun h ho => absurd ⟨h, ho⟩ ha⟩

/-- The load of a model into the session of `τ`, an engine of the same kind. -/
theorem loadPayload_spec (τ : SharedEngine K)
    (hcfg : τ.eng.toEngineConfig = σ.eng.toEngineConfig) (hact : τ.eng.isEngineActive = false) :
    (τ.loadPayload inter s a).1 = (σ.eng.updateSessionPayload inter LOAD_SOUND_MODEL a.payload).1 ∧
      (τ.loadPayload inter s a).2.eng.toEngineConfig = σ.eng.toEngineConfig ∧
      (τ.loadPayload inter s a).2.eng.isEngineActive = false := by
  obtain ⟨hframe, hstate⟩ := Engine.updateSessionPayload_frame inter τ.eng LOAD_SOUND_MODEL a.payload
  refine ⟨Engine.updateSessionPayload_congr inter hcfg (by decide) _, hframe.trans hcfg, ?_⟩
  unfold Engine.isEngineActive at hact ⊢
  unfold loadPayload
  dsimp only
  rwa [hstate]

theorem session_loadPayload {τ : SharedEngine K} (h : (τ.loadPayload inter s a).1 = 0) :
    (τ.loadPayload inter s a).2.session =
      { τ.session with
        models := Function.update τ.session.models (τ.modelKey s) (some a.handed) } := by
  unfold loadPayload at h ⊢
  exact if_neg (not_not.mpr h)

/-- The engine between a load and the restart. -/
structure Reloaded (σ : SharedEngine K) (s : StreamId) (a : SharedAnswers K)
    (τ : SharedEngine K) : Prop where
  config : τ.eng.toEngineConfig = σ.eng.toEngineConfig
  inactive : τ.eng.isEngineActive = false
  session : τ.session = σ.loaded s a
  attached : τ.eng_streams_ = σ.eng_streams_

/-- The stop and the close with which the calls on a merged model begin. -/
theorem stopped_spec (hmulti : σ.eng.is_multi_model_supported_ = false) :
    let τ := ((σ.stopIfActive inter a).closeSession.updateState ENG_IDLE).openSession
    τ.eng.toEngineConfig = σ.eng.toEngineConfig ∧ τ.eng.isEngineActive = false ∧
      (τ.loadPayload inter s a).1 =
        (σ.eng.updateSessionPayload inter LOAD_SOUND_MODEL a.payload).1 ∧
      ((τ.loadPayload inter s a).1 = 0 →
        Reloaded σ s a ((τ.loadPayload inter s a).2.updateState ENG_LOADED)) := by
  intro τ
  have hcfg : τ.eng.toEngineConfig = σ.eng.toEngineConfig :=
    Engine.toEngineConfig_stopIfActive inter σ.eng a.stop
  have hact : τ.eng.isEngineActive = false := rfl
  obtain ⟨hstatus, hcfg', -⟩ := loadPayload_spec (s := s) (a := a) τ hcfg hact
  refine ⟨hcfg, hact, hstatus, fun h => ⟨hcfg', rfl, ?_, rfl⟩⟩
  have hkey : τ.modelKey s = none := by
    have hτ : τ.eng.is_multi_model_supported_ = false := by rw [hcfg, hmulti]
    simp [modelKey, hτ]
  have hsession := session_loadPayload h
  rw [hkey] at hsession
  refine hsession.trans ?_
  unfold loaded
  rw [hmulti]
  rfl

theorem reloadStatus_of_multi (hmulti : σ.eng.is_multi_model_supported_ = true) :
    σ.reloadStatus inter a =
      (σ.eng.updateSessionPayload inter LOAD_SOUND_MODEL a.payload).1 := by
  unfold reloadStatus
  exact if_pos hmulti

theorem reloadStatus_cases (hmulti : σ.eng.is_multi_model_supported_ = false) :
    (a.setModel ≠ 0 ∧ σ.reloadStatus inter a = a.setModel) ∨
      (a.setModel = 0 ∧ a.opened ≠ 0 ∧ σ.reloadStatus inter a = a.opened) ∨
      (a.setModel = 0 ∧ a.opened = 0 ∧ σ.reloadStatus inter a =
        (σ.eng.updateSessionPayload inter LOAD_SOUND_MODEL a.payload).1) := by
  have hnot : ¬σ.eng.is_multi_model_supported_ = true := by simp [hmulti]
  unfold reloadStatus
  dsimp only
  rw [if_neg hnot]
  by_cases hset : a.setModel = 0
  · by_cases hopen : a.opened = 0
    · exact Or.inr (Or.inr ⟨hset, hopen, by rw [if_neg (not_not.mpr hset), if_neg (not_not.mpr hopen)]⟩)
    · exact Or.inr (Or.inl ⟨hset, hopen, by rw [if_neg (not_not.mpr hset), if_pos hopen]⟩)
  · exact Or.inl ⟨hset, if_pos hset⟩

theorem isMulti_stopIfActive : (σ.stopIfActive inter a).eng.is_multi_model_supported_ =
    σ.eng.is_multi_model_supported_ :=
  congrArg EngineConfig.is_multi_model_supported_
    (Engine.toEngineConfig_stopIfActive inter σ.eng a.stop)

/-- A load that fails before the restart leaves no session and an engine that is not active. -/
theorem handleMultiStreamLoad_fails (h : σ.reloadStatus inter a ≠ 0) :
    (σ.handleMultiStreamLoad inter s a).1 = σ.reloadStatus inter a ∧
      (σ.handleMultiStreamLoad inter s a).2.session = .closed ∧
      (σ.handleMultiStreamLoad inter s a).2.eng.isEngineActive = false := by
  unfold handleMultiStreamLoad finishLoad
  dsimp only
  rw [isMulti_stopIfActive]
  cases hmulti : σ.eng.is_multi_model_supported_ with
  | true =>
    rw [reloadStatus_of_multi hmulti] at h ⊢
    obtain ⟨hstatus, -, hact⟩ := loadPayload_spec (s := s) (σ.stopIfActive inter a)
      (Engine.toEngineConfig_stopIfActive inter σ.eng a.stop)
      (Engine.isEngineActive_stopIfActive inter σ.eng a.stop)
    rw [← hstatus] at h ⊢
    simp only [Bool.true_eq_false, if_false]
    rw [if_pos h]
    exact ⟨rfl, rfl, hact⟩
  | false =>
    rw [if_pos rfl]
    rcases reloadStatus_cases hmulti with ⟨hset, he⟩ | ⟨hset, hopen, he⟩ | ⟨hset, hopen, he⟩
    · rw [if_pos hset, he]
      exact ⟨rfl, rfl, rfl⟩
    · rw [if_neg (not_not.mpr hset), if_pos hopen, he]
      exact ⟨rfl, rfl, rfl⟩
    · obtain ⟨hcfg, hact, hstatus, -⟩ := stopped_spec (s := s) hmulti
      obtain ⟨-, -, hact⟩ := loadPayload_spec (s := s) _ hcfg hact
      rw [he, ← hstatus] at h
      rw [if_neg (not_not.mpr hset), if_neg (not_not.mpr hopen), if_pos h, he, ← hstatus]
      exact ⟨rfl, rfl, hact⟩

/-- A load that comes to the restart has loaded the model. -/
theorem handleMultiStreamLoad_loads (h : σ.reloadStatus inter a = 0) :
    ∃ τ, Reloaded σ s a τ ∧ σ.handleMultiStreamLoad inter s a =
      if σ.eng.isEngineActive then τ.processStartRecognition inter a else (0, τ) := by
  unfold handleMultiStreamLoad finishLoad
  dsimp only
  rw [isMulti_stopIfActive]
  cases hmulti : σ.eng.is_multi_model_supported_ with
  | true =>
    rw [reloadStatus_of_multi hmulti] at h
    obtain ⟨hstatus, hcfg, -⟩ := loadPayload_spec (s := s) (σ.stopIfActive inter a)
      (Engine.toEngineConfig_stopIfActive inter σ.eng a.stop)
      (Engine.isEngineActive_stopIfActive inter σ.eng a.stop)
    rw [← hstatus] at h
    have hsession := session_loadPayload h
    simp only [Bool.true_eq_false, if_false]
    rw [if_neg (not_not.mpr h)]
    refine ⟨((σ.stopIfActive inter a).loadPayload inter s a).2.updateState ENG_LOADED,
      ⟨hcfg, rfl, hsession.trans ?_, rfl⟩, rfl⟩
    have hkey : (σ.stopIfActive inter a).modelKey s = some s := by
      unfold modelKey
      rw [isMulti_stopIfActive, hmulti]
      rfl
    unfold loaded
    rw [hkey, hmulti]
    rfl
  | false =>
    rw [if_pos rfl]
    rcases reloadStatus_cases hmulti with ⟨hset, he⟩ | ⟨-, hopen, he⟩ | ⟨hset, hopen, he⟩
    · exact absurd (he.symm.trans h) hset
    · exact absurd (he.symm.trans h) hopen
    · obtain ⟨-, -, hstatus, hre⟩ := stopped_spec (s := s) hmulti
      rw [he, ← hstatus] at h
      rw [if_neg (not_not.mpr hset), if_neg (not_not.mpr hopen), if_neg (not_not.mpr h)]
      exact ⟨_, hre h, rfl⟩

variable (streams inter s a) in
theorem handleMultiStreamUnload_fails (hmulti : σ.eng.is_multi_model_supported_ = false)
    (h : σ.reloadStatus inter a ≠ 0) :
    (σ.handleMultiStreamUnload streams inter s a).1 = σ.reloadStatus inter a ∧
      (σ.handleMultiStreamUnload streams inter s a).2.session = .closed ∧
      (σ.handleMultiStreamUnload streams inter s a).2.eng.isEngineActive = false := by
  unfold handleMultiStreamUnload
  dsimp only
  rw [isMulti_stopIfActive, hmulti]
  simp only [Bool.false_eq_true, if_false]
  rcases reloadStatus_cases hmulti with ⟨hset, he⟩ | ⟨hset, hopen, he⟩ | ⟨hset, hopen, he⟩
  · rw [if_pos hset, he]
    exact ⟨rfl, rfl, rfl⟩
  · rw [if_neg (not_not.mpr hset), if_pos hopen, he]
    exact ⟨rfl, rfl, rfl⟩
  · obtain ⟨hcfg, hact, hstatus, -⟩ := stopped_spec (s := s) hmulti
    obtain ⟨-, -, hact⟩ := loadPayload_spec (s := s) _ hcfg hact
    rw [he, ← hstatus] at h
    rw [if_neg (not_not.mpr hset), if_neg (not_not.mpr hopen), if_pos h, he, ← hstatus]
    exact ⟨rfl, rfl, hact⟩

variable (streams inter s a) in
theorem handleMultiStreamUnload_loads (hmulti : σ.eng.is_multi_model_supported_ = false)
    (h : σ.reloadStatus inter a = 0) :
    ∃ τ, Reloaded σ s a τ ∧ σ.handleMultiStreamUnload streams inter s a =
      restoreOthers streams inter s a σ.eng.isEngineActive (0, τ) := by
  unfold handleMultiStreamUnload
  dsimp only
  rw [isMulti_stopIfActive, hmulti]
  simp only [Bool.false_eq_true, if_false]
  rcases reloadStatus_cases hmulti with ⟨hset, he⟩ | ⟨-, hopen, he⟩ | ⟨hset, hopen, he⟩
  · exact absurd (he.symm.trans h) hset
  · exact absurd (he.symm.trans h) hopen
  · obtain ⟨-, -, hstatus, hre⟩ := stopped_spec (s := s) hmulti
    rw [he, ← hstatus] at h
    rw [if_neg (not_not.mpr hset), if_neg (not_not.mpr hopen), if_neg (not_not.mpr h)]
    exact ⟨_, hre h, rfl⟩

/-- With a model for each stream, the unload of one leaves the models of the others. -/
theorem serves_unloadPayload {τ : SharedEngine K}
    (hmulti : τ.eng.is_multi_model_supported_ = true) {ts : List StreamId} (hts : s ∉ ts)
    (hs : τ.Serves streams ts) : (τ.unloadPayload inter s a).2.Serves streams ts := by
  obtain ⟨hopen, hmodels⟩ := hs
  have hcfg := (Engine.updateSessionPayload_frame inter τ.eng UNLOAD_SOUND_MODEL a.payload).1
  have hkey : ∀ t, τ.modelKey t = some t := fun t => by
    unfold modelKey
    exact if_pos hmulti
  have hkey' : ∀ t, (τ.unloadPayload inter s a).2.modelKey t = some t := fun t => by
    unfold modelKey
    exact if_pos ((congrArg EngineConfig.is_multi_model_supported_ hcfg).trans hmulti)
  have hsession : (τ.unloadPayload inter s a).2.session.opened = τ.session.opened ∧
      ∀ t, t ≠ s →
        (τ.unloadPayload inter s a).2.session.models (some t) = τ.session.models (some t) := by
    unfold unloadPayload
    dsimp only
    split_ifs
    · exact ⟨rfl, fun _ _ => rfl⟩
    · refine ⟨rfl, fun t ht => Function.update_of_ne ?_ _ _⟩
      rw [hkey]
      exact fun h => ht (Option.some.inj h)
  refine ⟨hsession.1.trans hopen, fun t ht => ?_⟩
  have hne : t ≠ s := fun h => hts (h ▸ ht)
  have hm := hmodels t ht
  rw [hkey] at hm
  rw [hkey', hsession.2 t hne]
  exact hm

theorem notMem_others : s ∉ σ.others s := by simp [others]

variable (streams inter s a) in
theorem handleMultiStreamUnload_multi (hmulti : σ.eng.is_multi_model_supported_ = true) :
    ∃ (τ : SharedEngine K) (status : ℤ), τ.eng.toEngineConfig = σ.eng.toEngineConfig ∧
      τ.eng.isEngineActive = false ∧ τ.eng_streams_ = σ.eng_streams_ ∧
      (σ.Serves streams (σ.others s) → τ.Serves streams (σ.others s)) ∧
      σ.handleMultiStreamUnload streams inter s a =
        restoreOthers streams inter s a σ.eng.isEngineActive (status, τ) := by
  have hcfg := Engine.toEngineConfig_stopIfActive inter σ.eng a.stop
  have hact := Engine.isEngineActive_stopIfActive inter σ.eng a.stop
  obtain ⟨hframe, hstate⟩ := Engine.updateSessionPayload_frame inter
    (σ.eng.stopIfActive inter a.stop) UNLOAD_SOUND_MODEL a.payload
  refine ⟨((σ.stopIfActive inter a).unloadPayload inter s a).2,
    ((σ.stopIfActive inter a).unloadPayload inter s a).1, hframe.trans hcfg, ?_, rfl, ?_, ?_⟩
  · unfold Engine.isEngineActive at hact ⊢
    unfold unloadPayload stopIfActive
    dsimp only
    rwa [hstate]
  · intro hs
    have hstopped : (σ.stopIfActive inter a).Serves streams (σ.others s) := by
      unfold Serves modelKey at hs ⊢
      rw [isMulti_stopIfActive]
      exact hs
    exact serves_unloadPayload (isMulti_stopIfActive.trans hmulti) notMem_others hstopped
  · unfold handleMultiStreamUnload
    dsimp only
    rw [isMulti_stopIfActive, if_pos hmulti]

/-! ### When the other streams keep what they had -/

/-- What a restart leaves the others, from an engine that is ready for it. -/
theorem keepsOthers_restart_iff {τ : SharedEngine K}
    (hcfg : τ.eng.toEngineConfig = σ.eng.toEngineConfig) (hact : σ.eng.isEngineActive = true)
    (hact' : τ.eng.isEngineActive = false) :
    KeepsOthers streams σ s (τ.processStartRecognition inter a).2 ↔
      (σ.Serves streams (σ.others s) → τ.Serves streams (σ.others s)) ∧
        (σ.OtherActive streams s → σ.eng.Starts inter a.start) := by
  have hserves : (τ.processStartRecognition inter a).2.Serves streams (σ.others s) ↔
      τ.Serves streams (σ.others s) := by
    have hmulti := congrArg EngineConfig.is_multi_model_supported_
      (Engine.toEngineConfig_processStartRecognition inter τ.eng a.start)
    unfold Serves modelKey processStartRecognition
    dsimp only
    rw [hmulti]
  have hstarts : (τ.processStartRecognition inter a).2.eng.isEngineActive = true ↔
      σ.eng.Starts inter a.start := by
    rw [← Engine.starts_congr inter hcfg]
    constructor
    · intro h
      by_contra hnot
      have hstate := (Engine.processStartRecognition_of_not_starts inter hnot).2
      unfold Engine.isEngineActive at h hact'
      unfold processStartRecognition at h
      dsimp only at h
      rw [hstate] at h
      rw [h] at hact'
      cases hact'
    · exact fun h => (Engine.processStartRecognition_of_starts inter h).2
  constructor
  · rintro ⟨h1, h2⟩
    exact ⟨fun h => hserves.mp (h1 h), fun h => hstarts.mp (h2 hact h)⟩
  · rintro ⟨h1, h2⟩
    exact ⟨fun h => hserves.mpr (h1 h), fun _ h => hstarts.mpr (h2 h)⟩

theorem ssrStatus_online_ne_zero {status : ℤ} :
    Engine.ssrStatus true status ≠ 0 ↔ status ≠ 0 ∧ status ≠ -ENETRESET := by
  unfold Engine.ssrStatus
  by_cases h : status = -ENETRESET <;> simp [h]

/-- A restart keeps what the others have exactly as `RestartKeeps` says. -/
theorem keepsOnError_restart_iff {τ : SharedEngine K}
    (hcfg : τ.eng.toEngineConfig = σ.eng.toEngineConfig) (hact : σ.eng.isEngineActive = true)
    (hact' : τ.eng.isEngineActive = false)
    (hserves : σ.Serves streams (σ.others s) → (τ.Serves streams (σ.others s) ↔
      (σ.eng.is_multi_model_supported_ = true ∨
        ∀ t ∈ σ.others s, ∀ k ∈ streams.phrases t, k ∈ a.handed)))
    (left : List StreamId) :
    KeepsOnError streams σ s (Engine.ssrStatus true (τ.processStartRecognition inter a).1,
        { (τ.processStartRecognition inter a).2 with eng_streams_ := left }) ↔
      σ.RestartKeeps streams inter s a := by
  have hstatus : (τ.processStartRecognition inter a).1 =
      (σ.eng.processStartRecognition inter a.start).1 :=
    Engine.processStartRecognition_congr inter hcfg a.start
  have hkeeps : KeepsOthers streams σ s
      { (τ.processStartRecognition inter a).2 with eng_streams_ := left } ↔
      (σ.Serves streams (σ.others s) → σ.eng.is_multi_model_supported_ = true ∨
        ∀ t ∈ σ.others s, ∀ k ∈ streams.phrases t, k ∈ a.handed) ∧
      (σ.OtherActive streams s → σ.eng.Starts inter a.start) := by
    rw [← forall_congr' hserves, ← keepsOthers_restart_iff hcfg hact hact']
    exact ⟨fun h => ⟨h.serves, h.active⟩, fun h => ⟨h.serves, h.active⟩⟩
  unfold KeepsOnError RestartKeeps
  rw [ssrStatus_online_ne_zero, hstatus, hkeeps]
  generalize (σ.eng.processStartRecognition inter a.start).1 = x
  by_cases h0 : x = 0
  · simp [h0]
  · by_cases h1 : x = -ENETRESET <;> simp [h0, h1]

/-- What failed before the restart keeps what the others have only if that is nothing. -/
theorem keepsOnError_closed_iff {τ : SharedEngine K} {status : ℤ} (hsession : τ.session = .closed)
    (hact : τ.eng.isEngineActive = false) (hstatus : status ≠ 0) (left : List StreamId) :
    KeepsOnError streams σ s (Engine.ssrStatus true status, { τ with eng_streams_ := left }) ↔
      (status = -ENETRESET ∨ σ.NothingToLose streams s) := by
  have hkeeps : KeepsOthers streams σ s { τ with eng_streams_ := left } ↔
      σ.NothingToLose streams s := keepsOthers_closed_iff hsession hact
  unfold KeepsOnError
  rw [ssrStatus_online_ne_zero, hkeeps]
  by_cases h : status = -ENETRESET <;> simp [h, hstatus]

theorem keepsOnError_zero (τ : SharedEngine K) : KeepsOnError streams σ s (0, τ) :=
  fun h => absurd rfl h

theorem keepsOnError_loadSoundModel_iff (hothers : σ.checkIfOtherStreamsAttached s = true)
    (honline : a.soundCardOnline = true) (sm_data : Bool) :
    KeepsOnError streams σ s (σ.loadSoundModel inter s a sm_data) ↔
      σ.Restores streams inter s a (.loadSoundModel sm_data) := by
  unfold loadSoundModel Restores
  cases sm_data with
  | false =>
    rw [if_pos rfl]
    exact iff_of_true (fun _ => ⟨id, fun h _ => h⟩) (by simp)
  | true =>
    rw [if_neg (by simp)]
    dsimp only
    rw [if_pos hothers, honline]
    refine Iff.trans ?_ ⟨fun h _ => h, fun h => h rfl⟩
    by_cases h : σ.reloadStatus inter a ≠ 0
    · obtain ⟨hstatus, hsession, hact⟩ := handleMultiStreamLoad_fails (s := s) h
      rw [if_pos h, hstatus, if_neg h]
      exact keepsOnError_closed_iff hsession hact h _
    · obtain ⟨τ, hr, heq⟩ := handleMultiStreamLoad_loads (s := s) (not_not.mp h)
      rw [if_neg h, heq]
      cases hact : σ.eng.isEngineActive with
      | false =>
        simp only [Bool.false_eq_true, if_false, false_implies, iff_true]
        exact keepsOnError_zero _
      | true =>
        simp only [if_true, true_implies]
        have hserves : σ.Serves streams (σ.others s) → _ := serves_loaded hr.config hr.session
        by_cases h0 : (τ.processStartRecognition inter a).1 = 0
        · rw [if_pos h0]
          exact keepsOnError_restart_iff hr.config hact hr.inactive hserves _
        · rw [if_neg h0]
          exact keepsOnError_restart_iff hr.config hact hr.inactive hserves _

theorem keepsOnError_restoreOthers_iff {τ : SharedEngine K} {status : ℤ}
    (hcfg : τ.eng.toEngineConfig = σ.eng.toEngineConfig) (hact : τ.eng.isEngineActive = false)
    (hattached : τ.eng_streams_ = σ.eng_streams_)
    (hserves : σ.Serves streams (σ.others s) → (τ.Serves streams (σ.others s) ↔
      (σ.eng.is_multi_model_supported_ = true ∨
        ∀ t ∈ σ.others s, ∀ k ∈ streams.phrases t, k ∈ a.handed)))
    (hstatus : status = 0 ∨ σ.eng.is_multi_model_supported_ = true) (left : List StreamId) :
    KeepsOnError streams σ s (Engine.ssrStatus true (restoreOthers streams inter s a
        σ.eng.isEngineActive (status, τ)).1,
        { (restoreOthers streams inter s a σ.eng.isEngineActive (status, τ)).2 with
          eng_streams_ := left }) ↔
      (σ.eng.isEngineActive = true → σ.OtherActive streams s →
        σ.RestartKeeps streams inter s a) := by
  have hother : τ.getOtherActiveStream streams s = σ.getOtherActiveStream streams s := by
    unfold getOtherActiveStream
    rw [hattached]
  unfold restoreOthers OtherActive
  dsimp only
  rw [hother]
  by_cases hgo : σ.eng.isEngineActive = true ∧ (σ.getOtherActiveStream streams s).isSome = true
  · rw [if_pos (by simpa using hgo)]
    simp only [hgo.1, hgo.2, true_implies]
    exact keepsOnError_restart_iff hcfg hgo.1 hact hserves left
  · rw [if_neg (by simpa using hgo)]
    refine iff_of_true ?_ (fun h1 h2 => absurd ⟨h1, h2⟩ hgo)
    rcases hstatus with rfl | hmulti
    · exact keepsOnError_zero _
    · exact fun _ => ⟨fun hs => (hserves hs).mpr (Or.inl hmulti), fun h1 h2 => absurd ⟨h1, h2⟩ hgo⟩

theorem keepsOnError_unloadSoundModel_iff (hothers : σ.checkIfOtherStreamsAttached s = true)
    (honline : a.soundCardOnline = true) :
    KeepsOnError streams σ s (σ.unloadSoundModel streams inter s a) ↔
      σ.Restores streams inter s a .unloadSoundModel := by
  unfold unloadSoundModel Restores
  dsimp only
  rw [if_pos hothers, honline]
  cases hmulti : σ.eng.is_multi_model_supported_ with
  | true =>
    obtain ⟨τ, status, hcfg, hact, hattached, hserves, heq⟩ :=
      handleMultiStreamUnload_multi streams inter s a hmulti
    rw [if_neg (by simp), heq]
    exact keepsOnError_restoreOthers_iff hcfg hact hattached
      (fun hs => iff_of_true (hserves hs) (Or.inl hmulti)) (Or.inr hmulti) _
  | false =>
    by_cases h : σ.reloadStatus inter a ≠ 0
    · obtain ⟨hstatus, hsession, hact⟩ :=
        handleMultiStreamUnload_fails streams inter s a hmulti h
      rw [if_pos ⟨rfl, h⟩, hstatus]
      exact keepsOnError_closed_iff hsession hact h _
    · obtain ⟨τ, hr, heq⟩ :=
        handleMultiStreamUnload_loads streams inter s a hmulti (not_not.mp h)
      rw [if_neg (fun hc => h hc.2), heq]
      exact keepsOnError_restoreOthers_iff hr.config hr.inactive hr.attached
        (serves_loaded hr.config hr.session) (Or.inl rfl) _

/-- **A failed load or unload and the other streams.** With other streams attached and the sound
card online, a call that reports an error leaves them what they had exactly when it `Restores`. -/
theorem keepsOnError_iff (streams : Streams K) (inter : Bool) (σ : SharedEngine K) (s : StreamId)
    (a : SharedAnswers K) (c : ModelCall) (hothers : σ.checkIfOtherStreamsAttached s = true)
    (honline : a.soundCardOnline = true) :
    KeepsOnError streams σ s (σ.call streams inter s a c) ↔ σ.Restores streams inter s a c := by
  cases c with
  | loadSoundModel sm_data => exact keepsOnError_loadSoundModel_iff hothers honline sm_data
  | unloadSoundModel => exact keepsOnError_unloadSoundModel_iff hothers honline

/-- Every payload is set, and every other step succeeds. -/
def allDone (handed : List ℕ) : SharedAnswers ℕ :=
  let done : PayloadAnswers := ⟨0, 0, 0, 0, 0, true, 0⟩
  ⟨⟨done, 0⟩, 0, 0, 0, done, done, handed, ⟨done, done, 0, 0, false, 0, 0⟩, true⟩

/-- Stream 1 is active with the keyphrase 10, stream 2 has the keyphrase 20. -/
def twoStreams : Streams ℕ where
  phrases t := if t = 1 then [10] else [20]
  getCurrentStateId t := if t = 1 then ST_STATE_ACTIVE else ST_STATE_IDLE

/-- An engine of stream 1. -/
def engineOfOne (type : st_module_type_t) (multi : Bool) : SharedEngine ℕ where
  eng := { constructed ⟨type, fun _ => 1, fun _ => 1, true, multi, false⟩ with
    eng_state_ := ENG_ACTIVE }
  session := ⟨true, fun key => if key = (if multi then some 1 else none) then some [10] else none⟩
  eng_streams_ := [1]

/-- A model for each stream: the unload of stream 2 fails in its payload, the engine is started
again for stream 1, and the start fails in the reading of the mmap position. -/
theorem keepsOnError_positionFailure :
    KeepsOnError twoStreams (engineOfOne ST_MODULE_TYPE_PDK5 true) 2
      ((engineOfOne ST_MODULE_TYPE_PDK5 true).call twoStreams true 2
        { allDone [] with start := { (allDone []).start with position := - EIO } }
        .unloadSoundModel) := by
  refine (keepsOnError_iff twoStreams true _ 2 _ .unloadSoundModel rfl rfl).mpr ?_
  intro _ _
  exact Or.inr (Or.inr ⟨fun _ => Or.inl rfl, fun _ => ⟨rfl, rfl, rfl, rfl⟩⟩)

/-- A merged model: the session cannot be opened again for the model of stream 2, and stream 1,
which was being recognized, has no session any more. -/
theorem others_lost_openFailure :
    ¬∀ (streams : Streams ℕ) (inter : Bool) (σ : SharedEngine ℕ) (s : StreamId)
      (a : SharedAnswers ℕ) (c : ModelCall), σ.checkIfOtherStreamsAttached s = true →
      a.soundCardOnline = true → KeepsOnError streams σ s (σ.call streams inter s a c) := by
  intro h
  have hactive := (h twoStreams true (engineOfOne ST_MODULE_TYPE_GMM false) 2
    { allDone [10, 20] with opened := - EIO } (.loadSoundModel true) rfl rfl (by decide)).active
    rfl rfl
  exact absurd hactive (by decide)

end SharedEngine

end AudioReachPal.Gsl.Detection
