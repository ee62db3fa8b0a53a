import AudioReachPal.ACD.Defs
import AudioReachPal.Lib.KeyedLoop
import AudioReachPal.Lib.Runs

/-!
# The needs of the streams

For each context the engine registers the smallest threshold and the smallest step size that a stream
asked for. The three functions that keep the streams' entries keep that minimum along with them: a
new entry lowers it, an entry that leaves has it computed again, and an update only lowers it.
-/

namespace AudioReachPal.ACD

open AudioReachPal.Lib

structure acd_per_context_cfg where
  context_id : ContextId
  threshold : ℕ
  step_size : ℕ
  deriving DecidableEq, Repr

/-- The entry that a config makes. -/
def acd_per_context_cfg.info (cfg : acd_per_context_cfg) : stream_context_info where
  threshold := cfg.threshold
  step_size := cfg.step_size

/-- The type of `cumulative_contextinfo_map_`. -/
abbrev CumulativeMap := Std.TreeMap ContextId stream_context_info

/-- The engine's maps. -/
structure EventInfo where
  contextinfo_stream_map_ : ContextMap := ∅
  cumulative_contextinfo_map_ : CumulativeMap := ∅
  is_confidence_value_updated_ : Bool := false
  /-- A config was read beyond its `num_contexts` entries. -/
  overread : Bool := false

/-- The comparisons with an entry: the lowered entry, and whether something was lowered. -/
def lower (current cfg : stream_context_info) : stream_context_info × Bool :=
  let (current, updated) :=
    if cfg.threshold < current.threshold then
      ({ current with threshold := cfg.threshold }, true)
    else (current, false)
  if cfg.step_size < current.step_size then
    ({ current with step_size := cfg.step_size }, true)
  else (current, updated)

/-- The comparisons with all entries of a list. -/
def lowerAll (acc : stream_context_info × Bool) (streams : List (StreamId × stream_context_info)) :
    stream_context_info × Bool :=
  streams.foldl (fun acc x => ((lower acc.1 x.2).1, acc.2 || (lower acc.1 x.2).2)) acc

namespace EventInfo

variable (s : StreamId)

/-! ### `removeEventInfoForStream` -/

/-- The entry of the streams that are left. -/
def recompute (current : stream_context_info) (streams : StreamMap) : stream_context_info × Bool :=
  lowerAll ({ current with threshold := 100, step_size := 100 }, false) streams.toList

def removeContext (e : EventInfo) (x : ContextId × StreamMap) : EventInfo :=
  match x.2[s]? with
  | none => e
  | some context_info =>
    let streams := x.2.erase s
    let e := { e with contextinfo_stream_map_ := e.contextinfo_stream_map_.insert x.1 streams }
    match e.cumulative_contextinfo_map_[x.1]? with
    | none => e
    | some current =>
      if current.threshold ≠ context_info.threshold ∧ current.step_size ≠ context_info.step_size then
        e
      else if streams.isEmpty then
        { e with
          cumulative_contextinfo_map_ := e.cumulative_contextinfo_map_.erase x.1
          is_confidence_value_updated_ := true }
      else
        { e with
          cumulative_contextinfo_map_ :=
            e.cumulative_contextinfo_map_.insert x.1 (recompute current streams).1
          is_confidence_value_updated_ :=
            e.is_confidence_value_updated_ || (recompute current streams).2 }

def removeEventInfoForStream (e : EventInfo) : EventInfo :=
  e.contextinfo_stream_map_.toList.foldl (removeContext s) e

/-! ### `addEventInfoForStream` -/

/-- The entry of a context and a stream. An entry that is there stays. -/
def addStream (m : ContextMap) (cfg : acd_per_context_cfg) : ContextMap :=
  match m[cfg.context_id]? with
  | some streams => m.insert cfg.context_id (streams.insertIfNew s cfg.info)
  | none => m.insertIfNew cfg.context_id ((∅ : StreamMap).insertIfNew s cfg.info)

def addContext (e : EventInfo) (cfg : acd_per_context_cfg) : EventInfo :=
  let e := { e with contextinfo_stream_map_ := addStream s e.contextinfo_stream_map_ cfg }
  match e.cumulative_contextinfo_map_[cfg.context_id]? with
  | some current =>
    { e with
      cumulative_contextinfo_map_ :=
        e.cumulative_contextinfo_map_.insert cfg.context_id (lower current cfg.info).1
      is_confidence_value_updated_ :=
        e.is_confidence_value_updated_ || (lower current cfg.info).2 }
  | none =>
    { e with
      cumulative_contextinfo_map_ :=
        e.cumulative_contextinfo_map_.insertIfNew cfg.context_id cfg.info
      is_confidence_value_updated_ := true }

def addEventInfoForStream (e : EventInfo) (recog_cfg : List acd_per_context_cfg) : EventInfo :=
  recog_cfg.foldl (addContext s) e

/-! ### `updateEventInfoForStream` -/

/-- A config beside a context of the map: the streams of the context, and `found`. -/
def updateInfo (context_id : ContextId) (streams : StreamMap) (acc : StreamMap × Bool)
    (cfg : acd_per_context_cfg) : StreamMap × Bool :=
  if context_id = cfg.context_id then
    match streams[s]? with
    | none => (acc.1.insertIfNew s cfg.info, true)
    | some info =>
      (acc.1.insert s { info with threshold := cfg.threshold, step_size := cfg.step_size }, true)
  else acc

def updateStream (context_id : ContextId) (streams : StreamMap)
    (recog_cfg : List acd_per_context_cfg) : StreamMap × Bool :=
  recog_cfg.foldl (updateInfo s context_id streams) (streams, false)

/-- The first loop: a context of the map. -/
def updateContext (recog_cfg : List acd_per_context_cfg) (m : ContextMap)
    (x : ContextId × StreamMap) : ContextMap :=
  let (streams, found) := updateStream s x.1 x.2 recog_cfg
  if found then m.insert x.1 streams
  else if (x.2.erase s).isEmpty then m.erase x.1
  else m.insert x.1 (x.2.erase s)

/-- The second loop: a context that the map has not. -/
def insertContext (m : ContextMap) (cfg : acd_per_context_cfg) : ContextMap :=
  match m[cfg.context_id]? with
  | some _ => m
  | none => m.insertIfNew cfg.context_id ((∅ : StreamMap).insertIfNew s cfg.info)

/-- The third loop: an entry whose context is gone. -/
def eraseGone (m : ContextMap) (e : EventInfo) (x : ContextId × stream_context_info) : EventInfo :=
  match m[x.1]? with
  | some _ => e
  | none =>
    { e with
      cumulative_contextinfo_map_ := e.cumulative_contextinfo_map_.erase x.1
      is_confidence_value_updated_ := true }

/-- The last loop: a stream of a context. Without an entry to lower it reads the config behind its
last entry, where `beyond` is. -/
def lowerContext (beyond : acd_per_context_cfg) (context_id : ContextId) (e : EventInfo)
    (y : StreamId × stream_context_info) : EventInfo :=
  match e.cumulative_contextinfo_map_[context_id]? with
  | some current =>
    { e with
      cumulative_contextinfo_map_ :=
        e.cumulative_contextinfo_map_.insert context_id (lower current y.2).1
      is_confidence_value_updated_ := e.is_confidence_value_updated_ || (lower current y.2).2 }
  | none =>
    { e with
      cumulative_contextinfo_map_ :=
        e.cumulative_contextinfo_map_.insertIfNew beyond.context_id beyond.info
      is_confidence_value_updated_ := true
      overread := true }

def lowerStreams (beyond : acd_per_context_cfg) (e : EventInfo) (x : ContextId × StreamMap) :
    EventInfo :=
  x.2.toList.foldl (lowerContext beyond x.1) e

def updateEventInfoForStream (e : EventInfo) (recog_cfg : List acd_per_context_cfg)
    (beyond : acd_per_context_cfg) : EventInfo :=
  let m := e.contextinfo_stream_map_.toList.foldl (updateContext s recog_cfg)
    e.contextinfo_stream_map_
  let m := recog_cfg.foldl (insertContext s) m
  let e := { e with contextinfo_stream_map_ := m }
  let e := e.cumulative_contextinfo_map_.toList.foldl (eraseGone m) e
  m.toList.foldl (lowerStreams beyond) e

end EventInfo

/-- The steps, with what lies behind the config of an update. -/
inductive InfoStep where
  | addEventInfoForStream (s : StreamId) (recog_cfg : List acd_per_context_cfg)
  | updateEventInfoForStream (s : StreamId) (recog_cfg : List acd_per_context_cfg)
      (beyond : acd_per_context_cfg)
  | removeEventInfoForStream (s : StreamId)

/-- The engine, and the configs of the streams. -/
structure InfoSystem where
  e : EventInfo := {}
  configs : StreamId → List acd_per_context_cfg := fun _ => []

/-- Each call begins with `resetModelLoadUnloadFlags`. -/
def InfoSystem.step (sys : InfoSystem) (step : InfoStep) : InfoSystem :=
  let e := { sys.e with is_confidence_value_updated_ := false, overread := false }
  match step with
  | .addEventInfoForStream s recog_cfg =>
    { e := e.addEventInfoForStream s recog_cfg
      configs := Function.update sys.configs s recog_cfg }
  | .updateEventInfoForStream s recog_cfg beyond =>
    { e := e.updateEventInfoForStream s recog_cfg beyond
      configs := Function.update sys.configs s recog_cfg }
  | .removeEventInfoForStream s =>
    { e := e.removeEventInfoForStream s
      configs := Function.update sys.configs s [] }

/-- The config has distinct contexts, with thresholds and step sizes of at most 100. -/
def ValidConfig (recog_cfg : List acd_per_context_cfg) : Prop :=
  (recog_cfg.map acd_per_context_cfg.context_id).Nodup ∧
    ∀ cfg ∈ recog_cfg, cfg.threshold ≤ 100 ∧ cfg.step_size ≤ 100

def InfoStep.Valid : InfoStep → Prop
  | .addEventInfoForStream _ recog_cfg => ValidConfig recog_cfg
  | .updateEventInfoForStream _ recog_cfg _ => ValidConfig recog_cfg
  | .removeEventInfoForStream _ => True

/-- The entry of a context has the smallest of the streams' values. -/
structure Lowest (get : stream_context_info → ℕ) (configs : StreamId → List acd_per_context_cfg)
    (c : ContextId) (current : stream_context_info) : Prop where
  le : ∀ t, ∀ cfg ∈ configs t, cfg.context_id = c → get current ≤ get cfg.info
  attained : ∃ t, ∃ cfg ∈ configs t, cfg.context_id = c ∧ get cfg.info = get current

/-- The maps have what the streams need: for each context the streams whose configs list it, with
their values, and the smallest of these. -/
structure InfoSystem.Registers (sys : InfoSystem) : Prop where
  entries : ∀ t cfg, (∃ info, sys.e.contextinfo_stream_map_.info t cfg.context_id = some info ∧
    info.threshold = cfg.threshold ∧ info.step_size = cfg.step_size) ↔ cfg ∈ sys.configs t
  listed : ∀ c : ContextId, sys.e.cumulative_contextinfo_map_[c]? = none ↔
    ∀ t, ∀ cfg ∈ sys.configs t, cfg.context_id ≠ c
  threshold : ∀ (c : ContextId) current, sys.e.cumulative_contextinfo_map_[c]? = some current →
    Lowest stream_context_info.threshold sys.configs c current
  step_size : ∀ (c : ContextId) current, sys.e.cumulative_contextinfo_map_[c]? = some current →
    Lowest stream_context_info.step_size sys.configs c current

/-- The values of an entry. -/
def stream_context_info.values (info : stream_context_info) : ℕ × ℕ :=
  (info.threshold, info.step_size)

/-- What a step does right: the maps have what the streams need, a change of the needs is reported,
and no config is read beyond its entries. -/
structure RegistersStrictest (sys : InfoSystem) (step : InfoStep) : Prop where
  registers : (sys.step step).Registers
  reported : ∀ c : ContextId, (((sys.step step).e.cumulative_contextinfo_map_[c]?).map
      stream_context_info.values ≠
        (sys.e.cumulative_contextinfo_map_[c]?).map stream_context_info.values) →
    (sys.step step).e.is_confidence_value_updated_ = true
  inBounds : (sys.step step).e.overread = false

namespace InfoSystem

variable (sys : InfoSystem)

/-- The smallest value of a context that keeps a stream does not rise. -/
def KeepsLow (get : stream_context_info → ℕ) (configs : StreamId → List acd_per_context_cfg) : Prop :=
  ∀ t, ∀ old ∈ sys.configs t, (∃ u, ∃ new ∈ configs u, new.context_id = old.context_id) →
    ∃ u, ∃ new ∈ configs u, new.context_id = old.context_id ∧ get new.info ≤ get old.info

/-- The stream alone has the smallest value of the context. -/
def Alone (get : stream_context_info → ℕ) (s : StreamId) (cfg : acd_per_context_cfg) : Prop :=
  ∀ t, t ≠ s → ∀ other ∈ sys.configs t, other.context_id = cfg.context_id →
    get cfg.info < get other.info

/-- The stream has the smallest value of the context. -/
def Least (get : stream_context_info → ℕ) (cfg : acd_per_context_cfg) : Prop :=
  ∀ t, ∀ other ∈ sys.configs t, other.context_id = cfg.context_id → get cfg.info ≤ get other.info

/-- The entry of the context is computed again and something is lowered, or it is erased. -/
def Reports (s : StreamId) (cfg : acd_per_context_cfg) : Prop :=
  (∀ t, t ≠ s → ∀ other ∈ sys.configs t, other.context_id ≠ cfg.context_id) ∨
    ((sys.Least stream_context_info.threshold cfg ∨ sys.Least stream_context_info.step_size cfg) ∧
      ∃ t, t ≠ s ∧ ∃ other ∈ sys.configs t, other.context_id = cfg.context_id ∧
        (other.threshold < 100 ∨ other.step_size < 100))

/-- A stream that is added once more keeps its entries; an update has no context that is new to the
engine, and lets no smallest value rise; and a removal that changes the needs reports it. -/
def Fits : InfoStep → Prop
  | .addEventInfoForStream s recog_cfg => ∀ old ∈ sys.configs s, old ∈ recog_cfg
  | .updateEventInfoForStream s recog_cfg _ =>
    (∀ cfg ∈ recog_cfg, ∃ t, ∃ old ∈ sys.configs t, old.context_id = cfg.context_id) ∧
      sys.KeepsLow stream_context_info.threshold (Function.update sys.configs s recog_cfg) ∧
      sys.KeepsLow stream_context_info.step_size (Function.update sys.configs s recog_cfg)
  | .removeEventInfoForStream s =>
    (∃ cfg ∈ sys.configs s, sys.Alone stream_context_info.threshold s cfg ∨
      sys.Alone stream_context_info.step_size s cfg) → ∃ cfg ∈ sys.configs s, sys.Reports s cfg

end InfoSystem

/-! ### Lowering -/

theorem lower_threshold (current cfg : stream_context_info) :
    (lower current cfg).1.threshold = min current.threshold cfg.threshold := by
  by_cases hthreshold : cfg.threshold < current.threshold
  · by_cases hstep : cfg.step_size < current.step_size
    · simp [lower, hthreshold, hstep, hthreshold.le]
    · simp [lower, hthreshold, hstep, hthreshold.le]
  · by_cases hstep : cfg.step_size < current.step_size
    · simp [lower, hthreshold, hstep, Nat.not_lt.mp hthreshold]
    · simp [lower, hthreshold, hstep, Nat.not_lt.mp hthreshold]

theorem lower_step_size (current cfg : stream_context_info) :
    (lower current cfg).1.step_size = min current.step_size cfg.step_size := by
  by_cases hthreshold : cfg.threshold < current.threshold
  · by_cases hstep : cfg.step_size < current.step_size
    · simp [lower, hthreshold, hstep, hstep.le]
    · simp [lower, hthreshold, hstep, Nat.not_lt.mp hstep]
  · by_cases hstep : cfg.step_size < current.step_size
    · simp [lower, hthreshold, hstep, hstep.le]
    · simp [lower, hthreshold, hstep, Nat.not_lt.mp hstep]

theorem lower_updated (current cfg : stream_context_info) : (lower current cfg).2 = true ↔
    cfg.threshold < current.threshold ∨ cfg.step_size < current.step_size := by
  by_cases hthreshold : cfg.threshold < current.threshold
  · by_cases hstep : cfg.step_size < current.step_size
    · simp [lower, hthreshold, hstep]
    · simp [lower, hthreshold, hstep]
  · by_cases hstep : cfg.step_size < current.step_size
    · simp [lower, hthreshold, hstep]
    · simp [lower, hthreshold, hstep]

variable {get : stream_context_info → ℕ} (acc : stream_context_info × Bool)
  (l : List (StreamId × stream_context_info))

theorem lowerAll_le (hget : ∀ a b, get (lower a b).1 = min (get a) (get b)) :
    get (lowerAll acc l).1 ≤ get acc.1 ∧ ∀ x ∈ l, get (lowerAll acc l).1 ≤ get x.2 := by
  induction l generalizing acc with
  | nil => exact ⟨le_rfl, fun x hx => absurd hx List.not_mem_nil⟩
  | cons y l ih =>
    obtain ⟨hacc, hrest⟩ := ih ((lower acc.1 y.2).1, acc.2 || (lower acc.1 y.2).2)
    rw [hget] at hacc
    refine ⟨hacc.trans (min_le_left _ _), fun x hx => ?_⟩
    rcases List.mem_cons.mp hx with rfl | hx
    · exact hacc.trans (min_le_right _ _)
    · exact hrest x hx

theorem lowerAll_attained (hget : ∀ a b, get (lower a b).1 = min (get a) (get b)) :
    get (lowerAll acc l).1 = get acc.1 ∨ ∃ x ∈ l, get x.2 = get (lowerAll acc l).1 := by
  induction l generalizing acc with
  | nil => exact Or.inl rfl
  | cons y l ih =>
    rcases ih ((lower acc.1 y.2).1, acc.2 || (lower acc.1 y.2).2) with hacc | ⟨x, hx, heq⟩
    · rw [hget] at hacc
      rcases min_choice (get acc.1) (get y.2) with hmin | hmin
      · exact Or.inl (hacc.trans hmin)
      · exact Or.inr ⟨y, List.mem_cons_self, (hacc.trans hmin).symm⟩
    · exact Or.inr ⟨x, List.mem_cons_of_mem _ hx, heq⟩

theorem lowerAll_updated : (lowerAll acc l).2 = true ↔
    acc.2 = true ∨ ∃ x ∈ l, x.2.threshold < acc.1.threshold ∨ x.2.step_size < acc.1.step_size := by
  induction l generalizing acc with
  | nil => simp [lowerAll]
  | cons y l ih =>
    have hrest := ih ((lower acc.1 y.2).1, acc.2 || (lower acc.1 y.2).2)
    simp only [Bool.or_eq_true, lower_updated, lower_threshold, lower_step_size] at hrest
    refine hrest.trans ?_
    constructor
    · rintro ((hacc | hy) | ⟨x, hx, hlow⟩)
      · exact Or.inl hacc
      · exact Or.inr ⟨y, List.mem_cons_self, hy⟩
      · exact Or.inr ⟨x, List.mem_cons_of_mem _ hx, by omega⟩
    · rintro (hacc | ⟨x, hx, hlow⟩)
      · exact Or.inl (Or.inl hacc)
      · by_cases hy : y.2.threshold < acc.1.threshold ∨ y.2.step_size < acc.1.step_size
        · exact Or.inl (Or.inr hy)
        · rcases List.mem_cons.mp hx with rfl | hx
          · exact absurd hlow hy
          · exact Or.inr ⟨x, hx, by omega⟩

end AudioReachPal.ACD
