import AudioReachPal.ACD.EventInfo
import AudioReachPal.Lib.MachineInt

/-!
# The sound models of the streams

The engine counts for each sound model the streams that list one of its contexts. A count that
becomes one has the model loaded into the session, and one that becomes zero has it unloaded. The
session is one for all streams: the first stream opens it, the last one closes it, and with other
streams attached an engine that runs is stopped for the models and started again.
-/

namespace AudioReachPal.ACD

open AudioReachPal.Lib

abbrev ModelId := ℕ

structure ACDSoundModelInfo where
  model_type_ : String
  model_bin_name_ : String
  model_id_ : ModelId
  model_uuid_ : ℕ
  deriving DecidableEq, Repr

/-- The tables of the platform file. Each model is listed under the id that it alone has, and a
context has one of the models. -/
structure ACDStreamConfig where
  context_model_map_ : Std.TreeMap ContextId ACDSoundModelInfo
  acd_modelinfo_map_ : Std.TreeMap ModelId ACDSoundModelInfo
  id : ∀ (model_id : ModelId) sm_info, acd_modelinfo_map_[model_id]? = some sm_info →
    sm_info.model_id_ = model_id
  listed : ∀ (context_id : ContextId) sm_info, context_model_map_[context_id]? = some sm_info →
    acd_modelinfo_map_[sm_info.model_id_]? = some sm_info

namespace ACDStreamConfig

variable (sm_cfg_ : ACDStreamConfig)

def getSoundModelInfoByContextId (context_id : ContextId) : Option ACDSoundModelInfo :=
  sm_cfg_.context_model_map_[context_id]?

def getSoundModelInfoByModelId (model_id : ModelId) : Option ACDSoundModelInfo :=
  sm_cfg_.acd_modelinfo_map_[model_id]?

end ACDStreamConfig

/-- The type of `model_load_needed_` and `model_unload_needed_`. -/
abbrev ModelMap := Std.TreeMap ModelId String

/-- An `unordered_map` is iterated in an order of its own. -/
structure Order where
  enum : ModelMap → List (ModelId × String)
  perm : ∀ models : ModelMap, (enum models).Perm models.toList

inductive eng_state_t where
  | ENG_IDLE
  | ENG_LOADED
  | ENG_ACTIVE
  | ENG_DETECTED
  deriving DecidableEq, Repr

open eng_state_t

/-- What the session has, as the engine's calls leave it. `close` ends the session also where it
returns an error. -/
structure SessionAR where
  opened : Bool := false
  /-- The UUIDs of the models that are registered. -/
  registered : Finset ℕ := ∅
  deriving DecidableEq

/-- What the calls return, and the order of the maps. -/
structure Answers where
  openSession : ℤ := 0
  /-- `calloc` in `populateEventPayload`. -/
  eventPayload : Bool := true
  populateSoundModel : ModelId → ℤ := fun _ => 0
  regDeregSoundModel : ModelId → ℤ := fun _ => 0
  joinable : Bool := true
  prepare : ℤ := 0
  start : ℤ := 0
  stop : ℤ := 0
  close : ℤ := 0
  order : Order

structure ACDEngine where
  eng_state_ : eng_state_t := ENG_IDLE
  eng_streams_ : List StreamId := []
  info : EventInfo := {}
  model_count_ : Std.TreeMap ModelId ℕ := ∅
  model_load_needed_ : ModelMap := ∅
  model_unload_needed_ : ModelMap := ∅
  session_ : SessionAR := {}

namespace ACDEngine

variable (sm_cfg_ : ACDStreamConfig) (a : Answers) (eng : ACDEngine) (s : StreamId)

/-- `model_count_[model_id]`. -/
def count (model_id : ModelId) : ℕ := eng.model_count_[model_id]?.getD 0

/-! ### `updateModelCount` -/

/-- Step 1. A context without a model ends the function. -/
def modelToUpdate : List ContextId → ModelMap → Option ModelMap
  | [], model_to_update => some model_to_update
  | context_id :: rest, model_to_update =>
    match sm_cfg_.getSoundModelInfoByContextId context_id with
    | none => none
    | some sm_info =>
      modelToUpdate rest (model_to_update.insert sm_info.model_id_ sm_info.model_type_)

/-- Step 2, for a model. The counts are words of 32 bits. -/
def countModel (enable : Bool) (eng : ACDEngine) (model : ModelId × String) : ACDEngine :=
  if enable then
    let count := word32 (eng.count model.1 + 1)
    { eng with
      model_count_ := eng.model_count_.insert model.1 count
      model_load_needed_ :=
        if count = 1 then eng.model_load_needed_.insert model.1 model.2
        else eng.model_load_needed_ }
  else
    let count := sub32 (eng.count model.1) 1
    { eng with
      model_count_ := eng.model_count_.insert model.1 count
      model_unload_needed_ :=
        if count = 0 then eng.model_unload_needed_.insert model.1 model.2
        else eng.model_unload_needed_ }

def updateModelCount (context_cfg : List ContextId) (enable : Bool) : ACDEngine :=
  match modelToUpdate sm_cfg_ context_cfg ∅ with
  | none => eng
  | some model_to_update => (a.order.enum model_to_update).foldl (countModel enable) eng

/-! ### Loading and unloading -/

def isModelBinAvailable (model_id : ModelId) : Bool :=
  match sm_cfg_.getSoundModelInfoByModelId model_id with
  | none => false
  | some sm_info => sm_info.model_bin_name_ ≠ ""

/-- The loop of the two functions, with the status so far: a model that is `skipped` or has no binary
is passed over, and a model that is `sent` has its UUID registered or deregistered by `apply`. The
status is that of the last model sent. -/
def eachModel (skipped : ModelMap) (sent : ACDSoundModelInfo → Bool) (apply : ℕ → Finset ℕ → Finset ℕ)
    (send : ModelId → ℤ) : List (ModelId × String) → SessionAR → ℤ → ℤ × SessionAR
  | [], session, status => (status, session)
  | model :: rest, session, status =>
    if (skipped[model.1]?).isSome ∨ ¬ isModelBinAvailable sm_cfg_ model.1 then
      eachModel skipped sent apply send rest session status
    else
      match sm_cfg_.getSoundModelInfoByModelId model.1 with
      | none => (-EINVAL, session)
      | some sm_info =>
        if sent sm_info then
          let session :=
            if send model.1 = 0 then
              { session with registered := apply sm_info.model_uuid_ session.registered }
            else session
          eachModel skipped sent apply send rest session (send model.1)
        else eachModel skipped sent apply send rest session status

def unloadSoundModel : ℤ × ACDEngine :=
  let (status, session) := eachModel sm_cfg_ eng.model_load_needed_
    (fun modelInfo => modelInfo.model_uuid_ ≠ 0) (fun uuid registered => registered.erase uuid)
    a.regDeregSoundModel (a.order.enum eng.model_unload_needed_) eng.session_ 0
  (status, { eng with session_ := session })

def loadSoundModel : ℤ × ACDEngine :=
  let (status, session) := eachModel sm_cfg_ eng.model_unload_needed_
    (fun sm_info => sm_info.model_bin_name_ ≠ "") insert
    a.populateSoundModel (a.order.enum eng.model_load_needed_) eng.session_ 0
  (status, { eng with session_ := session })

def populateEventPayload : ℤ :=
  if eng.info.cumulative_contextinfo_map_.isEmpty then 0
  else if a.eventPayload then 0
  else -ENOMEM

/-! ### The session -/

def openSession : ℤ × ACDEngine :=
  (a.openSession,
    if a.openSession = 0 then { eng with session_ := { opened := true, registered := ∅ } } else eng)

def closeSession : ACDEngine := { eng with session_ := {} }

def isEngineActive : Bool := eng.eng_state_ = ENG_ACTIVE

def processStartEngine : ℤ × ACDEngine :=
  if a.prepare ≠ 0 then (a.prepare, eng)
  else if a.start ≠ 0 then (a.start, eng)
  else (0, { eng with eng_state_ := ENG_ACTIVE })

def processStopEngine : ℤ × ACDEngine := (a.stop, { eng with eng_state_ := ENG_LOADED })

def areOtherStreamsAttached : Bool := eng.eng_streams_.any fun t => s ≠ t

def startEngine : ℤ × ACDEngine :=
  if eng.isEngineActive then (0, eng) else eng.processStartEngine a

def stopEngine : ℤ × ACDEngine :=
  if eng.areOtherStreamsAttached s then (0, eng) else eng.processStopEngine a

def handleMultiStreamLoadUnload : ℤ × ACDEngine :=
  let restore_eng_state := eng.isEngineActive
  let eng := if restore_eng_state then (eng.processStopEngine a).2 else eng
  let (status, eng) := unloadSoundModel sm_cfg_ a eng
  if status ≠ 0 then (status, eng.closeSession)
  else if populateEventPayload a eng ≠ 0 then (populateEventPayload a eng, eng.closeSession)
  else
    let (status, eng) := loadSoundModel sm_cfg_ a eng
    if status ≠ 0 then (status, eng.closeSession)
    else
      let eng := { eng with eng_state_ := ENG_LOADED }
      if restore_eng_state then eng.processStartEngine a else (0, eng)

/-! ### The calls of a stream -/

def resetModelLoadUnloadFlags : ACDEngine :=
  { eng with
    info := { eng.info with is_confidence_value_updated_ := false }
    model_load_needed_ := ∅
    model_unload_needed_ := ∅ }

/-- The bookkeeping of `setupEngine`. -/
def setupCounts (config : List ContextId) (recog_cfg : Option (List acd_per_context_cfg)) :
    ACDEngine :=
  let eng := updateModelCount sm_cfg_ a eng.resetModelLoadUnloadFlags config true
  { eng with info := recog_cfg.elim eng.info (eng.info.addEventInfoForStream s) }

/-- `setupEngine` for the first stream. -/
def setupFirst : ℤ × ACDEngine :=
  let (status, eng) := eng.openSession a
  if status ≠ 0 then (status, eng)
  else if populateEventPayload a eng ≠ 0 then (populateEventPayload a eng, eng.closeSession)
  else
    let (status, eng) := loadSoundModel sm_cfg_ a eng
    if status ≠ 0 then (status, eng.closeSession)
    else if !a.joinable then (-EINVAL, eng.closeSession)
    else (0, { eng with eng_state_ := ENG_LOADED })

def loadNeeded : Bool :=
  !eng.model_load_needed_.isEmpty || eng.info.is_confidence_value_updated_

/-- `setupEngine` when its bookkeeping is done. -/
def setupSession : ℤ × ACDEngine :=
  if eng.areOtherStreamsAttached s then
    if eng.loadNeeded then handleMultiStreamLoadUnload sm_cfg_ a eng else (0, eng)
  else setupFirst sm_cfg_ a eng

def setupEngine (config : List ContextId) (recog_cfg : Option (List acd_per_context_cfg)) :
    ℤ × ACDEngine :=
  let (status, eng) := setupSession sm_cfg_ a (setupCounts sm_cfg_ a eng s config recog_cfg) s
  (status, if status = 0 then { eng with eng_streams_ := eng.eng_streams_ ++ [s] } else eng)

def reconfigureCounts (old_cfg new_cfg : List ContextId)
    (recog_cfg : Option (List acd_per_context_cfg)) (beyond : acd_per_context_cfg) : ACDEngine :=
  let eng := updateModelCount sm_cfg_ a eng.resetModelLoadUnloadFlags old_cfg false
  let eng := updateModelCount sm_cfg_ a eng new_cfg true
  { eng with
    info := recog_cfg.elim eng.info fun recog_cfg =>
      eng.info.updateEventInfoForStream s recog_cfg beyond }

def changeNeeded : Bool :=
  eng.model_load_needed_.toList != eng.model_unload_needed_.toList ||
    eng.info.is_confidence_value_updated_

def reconfigureSession : ℤ × ACDEngine :=
  if eng.changeNeeded then handleMultiStreamLoadUnload sm_cfg_ a eng else (0, eng)

def reconfigureEngine (old_cfg new_cfg : List ContextId)
    (recog_cfg : Option (List acd_per_context_cfg)) (beyond : acd_per_context_cfg) :
    ℤ × ACDEngine :=
  reconfigureSession sm_cfg_ a (reconfigureCounts sm_cfg_ a eng s old_cfg new_cfg recog_cfg beyond)

def teardownCounts (cfg : List ContextId) (recog_cfg : Option (List acd_per_context_cfg)) :
    ACDEngine :=
  let eng := updateModelCount sm_cfg_ a eng.resetModelLoadUnloadFlags cfg false
  { eng with info := recog_cfg.elim eng.info fun _ => eng.info.removeEventInfoForStream s }

def unloadNeeded : Bool :=
  !eng.model_unload_needed_.isEmpty || eng.info.is_confidence_value_updated_

def teardownSession : ℤ × ACDEngine :=
  if eng.areOtherStreamsAttached s then
    if eng.unloadNeeded then handleMultiStreamLoadUnload sm_cfg_ a eng else (0, eng)
  else (a.close, { eng.closeSession with eng_state_ := ENG_IDLE })

def teardownEngine (cfg : List ContextId) (recog_cfg : Option (List acd_per_context_cfg)) :
    ℤ × ACDEngine :=
  let (status, eng) := teardownSession sm_cfg_ a (teardownCounts sm_cfg_ a eng s cfg recog_cfg) s
  (status, { eng with eng_streams_ := eng.eng_streams_.erase s })

end ACDEngine

/-- A call of a stream, with what the calls that it makes return. -/
inductive EngineCall where
  | setupEngine (s : StreamId) (config : List ContextId)
      (recog_cfg : Option (List acd_per_context_cfg))
  | reconfigureEngine (s : StreamId) (old_cfg new_cfg : List ContextId)
      (recog_cfg : Option (List acd_per_context_cfg)) (beyond : acd_per_context_cfg)
  | teardownEngine (s : StreamId) (cfg : List ContextId)
      (recog_cfg : Option (List acd_per_context_cfg))
  | startEngine (s : StreamId)
  | stopEngine (s : StreamId)

/-- The engine, and the lists that the streams handed to it last. -/
structure EngineSystem where
  eng : ACDEngine := {}
  lists : StreamId → List ContextId := fun _ => []

namespace EngineSystem

variable (sm_cfg_ : ACDStreamConfig) (sys : EngineSystem)

def result (call : EngineCall) (a : Answers) : ℤ × ACDEngine :=
  match call with
  | .setupEngine s config recog_cfg => sys.eng.setupEngine sm_cfg_ a s config recog_cfg
  | .reconfigureEngine s old_cfg new_cfg recog_cfg beyond =>
    sys.eng.reconfigureEngine sm_cfg_ a s old_cfg new_cfg recog_cfg beyond
  | .teardownEngine s cfg recog_cfg => sys.eng.teardownEngine sm_cfg_ a s cfg recog_cfg
  | .startEngine _ => sys.eng.startEngine a
  | .stopEngine s => sys.eng.stopEngine a s

def listsAfter : EngineCall → StreamId → List ContextId
  | .setupEngine s config _ => Function.update sys.lists s config
  | .reconfigureEngine s _ new_cfg _ _ => Function.update sys.lists s new_cfg
  | _ => sys.lists

def step (x : EngineCall × Answers) : EngineSystem where
  eng := (sys.result sm_cfg_ x.1 x.2).2
  lists := sys.listsAfter x.1

end EngineSystem

/-! ### What a call does right -/

/-- The list names the model. -/
def ACDStreamConfig.Names (sm_cfg_ : ACDStreamConfig) (list : List ContextId)
    (model_id : ModelId) : Prop :=
  ∃ context_id ∈ list, ∃ sm_info, sm_cfg_.getSoundModelInfoByContextId context_id = some sm_info ∧
    sm_info.model_id_ = model_id

instance (sm_cfg_ : ACDStreamConfig) (list : List ContextId) (model_id : ModelId) :
    Decidable (sm_cfg_.Names list model_id) :=
  inferInstanceAs (Decidable (∃ context_id ∈ list, ∃ sm_info,
    sm_cfg_.getSoundModelInfoByContextId context_id = some sm_info ∧ sm_info.model_id_ = model_id))

/-- The number of the attached streams whose lists name the model. -/
def EngineSystem.needs (sm_cfg_ : ACDStreamConfig) (sys : EngineSystem) (model_id : ModelId) : ℕ :=
  sys.eng.eng_streams_.countP fun t => sm_cfg_.Names (sys.lists t) model_id

/-- A model of the UUID has a binary and a count. -/
def ACDEngine.Needs (sm_cfg_ : ACDStreamConfig) (eng : ACDEngine) (uuid : ℕ) : Prop :=
  ∃ model_id sm_info, sm_cfg_.getSoundModelInfoByModelId model_id = some sm_info ∧
    sm_info.model_bin_name_ ≠ "" ∧ sm_info.model_uuid_ = uuid ∧ 0 < eng.count model_id

def EngineCall.stream : EngineCall → StreamId
  | .setupEngine s _ _ => s
  | .reconfigureEngine s _ _ _ _ => s
  | .teardownEngine s _ _ => s
  | .startEngine s => s
  | .stopEngine s => s

/-- What a call does right: the counts are those of the attached streams, an open session has the
models that are needed, and a call that fails lets the engine run on for the other streams. -/
structure LoadsNeeded (sm_cfg_ : ACDStreamConfig) (sys : EngineSystem) (x : EngineCall × Answers) :
    Prop where
  counts : ∀ model_id, (sys.step sm_cfg_ x).eng.count model_id =
    (sys.step sm_cfg_ x).needs sm_cfg_ model_id
  registered : (sys.step sm_cfg_ x).eng.session_.opened = true → ∀ uuid,
    uuid ∈ (sys.step sm_cfg_ x).eng.session_.registered ↔ (sys.step sm_cfg_ x).eng.Needs sm_cfg_ uuid
  running : (sys.result sm_cfg_ x.1 x.2).1 ≠ 0 → sys.eng.isEngineActive = true →
    sys.eng.areOtherStreamsAttached x.1.stream = true →
      (sys.step sm_cfg_ x).eng.isEngineActive = true

/-! ### When a call does it -/

/-- Models with a binary have UUIDs of their own, which are not zero. -/
structure ACDStreamConfig.OwnUUIDs (sm_cfg_ : ACDStreamConfig) : Prop where
  ne_zero : ∀ model_id sm_info, sm_cfg_.getSoundModelInfoByModelId model_id = some sm_info →
    sm_info.model_bin_name_ ≠ "" → sm_info.model_uuid_ ≠ 0
  inj : ∀ model_id sm_info model_id' sm_info',
    sm_cfg_.getSoundModelInfoByModelId model_id = some sm_info → sm_info.model_bin_name_ ≠ "" →
    sm_cfg_.getSoundModelInfoByModelId model_id' = some sm_info' → sm_info'.model_bin_name_ ≠ "" →
    sm_info.model_uuid_ = sm_info'.model_uuid_ → model_id = model_id'

/-- All contexts of the list have models, or none has one. -/
def ACDStreamConfig.Whole (sm_cfg_ : ACDStreamConfig) (list : List ContextId) : Prop :=
  (∀ context_id ∈ list, (sm_cfg_.getSoundModelInfoByContextId context_id).isSome = true) ∨
    ∀ context_id ∈ list, sm_cfg_.getSoundModelInfoByContextId context_id = none

namespace ACDEngine

variable (sm_cfg_ : ACDStreamConfig) (a : Answers) (eng : ACDEngine)

/-- The models of a map that are not skipped. -/
def unskipped (skipped : ModelMap) (models : List (ModelId × String)) : List ModelId :=
  (models.map Prod.fst).filter fun model_id =>
    (skipped[model_id]?).isNone && isModelBinAvailable sm_cfg_ model_id

def unloads : List ModelId :=
  unskipped sm_cfg_ eng.model_load_needed_ (a.order.enum eng.model_unload_needed_)

def loads : List ModelId :=
  unskipped sm_cfg_ eng.model_unload_needed_ (a.order.enum eng.model_load_needed_)

/-- The last model of a loop fails. -/
def LastFails (status : ModelId → ℤ) (models : List ModelId) : Prop :=
  ∃ model_id, models.getLast? = some model_id ∧ status model_id ≠ 0

/-- A step fails before the engine is started again. -/
def Closes : Prop :=
  LastFails a.regDeregSoundModel (unloads sm_cfg_ a eng) ∨ populateEventPayload a eng ≠ 0 ∨
    LastFails a.populateSoundModel (loads sm_cfg_ a eng)

/-- No step fails unless it closes the session, and where the engine runs for other streams or a
count depends on it (`strict`), none fails at all. -/
structure HandlesRight (strict : Prop) : Prop where
  models : eng.session_.opened = true → ¬ Closes sm_cfg_ a eng →
    (∀ model_id ∈ unloads sm_cfg_ a eng, a.regDeregSoundModel model_id = 0) ∧
      ∀ model_id ∈ loads sm_cfg_ a eng, a.populateSoundModel model_id = 0
  closes : strict → ¬ Closes sm_cfg_ a eng
  restarts : strict → eng.isEngineActive = true → a.prepare = 0 ∧ a.start = 0

end ACDEngine

namespace EngineSystem

open ACDEngine

variable (sm_cfg_ : ACDStreamConfig) (sys : EngineSystem) (a : Answers)

/-- The engine runs for other streams. -/
def RunsForOthers (s : StreamId) : Prop :=
  sys.eng.isEngineActive = true ∧ sys.eng.areOtherStreamsAttached s = true

/-- A stream is set up when it is not attached, and reconfigured and torn down with the list it
handed over last when it is; its list has models for all contexts or for none; and no step fails
that a count, a registered model or a running engine depends on. -/
def Fits : EngineCall → Prop
  | .setupEngine s config recog_cfg =>
    let eng := setupCounts sm_cfg_ a sys.eng s config recog_cfg
    let counted := ∃ model_id, sm_cfg_.Names config model_id
    s ∉ sys.eng.eng_streams_ ∧ sys.eng.eng_streams_.length + 1 < 2 ^ 32 ∧ sm_cfg_.Whole config ∧
      if sys.eng.areOtherStreamsAttached s then
        eng.loadNeeded = true →
          HandlesRight sm_cfg_ a eng (counted ∨ sys.eng.isEngineActive = true)
      else counted → a.openSession = 0 ∧ populateEventPayload a eng = 0 ∧ a.joinable = true ∧
        ∀ model_id ∈ loads sm_cfg_ a eng, a.populateSoundModel model_id = 0
  | .reconfigureEngine s old_cfg new_cfg recog_cfg beyond =>
    let eng := reconfigureCounts sm_cfg_ a sys.eng s old_cfg new_cfg recog_cfg beyond
    s ∈ sys.eng.eng_streams_ ∧ old_cfg = sys.lists s ∧ sm_cfg_.Whole new_cfg ∧
      (eng.changeNeeded = true → HandlesRight sm_cfg_ a eng (sys.RunsForOthers s))
  | .teardownEngine s cfg recog_cfg =>
    let eng := teardownCounts sm_cfg_ a sys.eng s cfg recog_cfg
    s ∈ sys.eng.eng_streams_ ∧ cfg = sys.lists s ∧ (sys.eng.areOtherStreamsAttached s = true →
      eng.unloadNeeded = true → HandlesRight sm_cfg_ a eng (sys.RunsForOthers s))
  | .startEngine _ => True
  | .stopEngine _ => True

end EngineSystem

end AudioReachPal.ACD
