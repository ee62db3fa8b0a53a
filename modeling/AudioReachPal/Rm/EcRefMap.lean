import Mathlib.Data.Finset.Card
import Mathlib.Logic.Function.Basic
import AudioReachPal.Rm.Defs
import AudioReachPal.StStream.Defs

/-!
# The echo reference map

When a device is registered for a stream, the resource manager sets the echo references that follow
from it: for a tx stream the rx device that is playing, for an rx stream its device at every tx
stream that runs. `ec_ref_count_map` counts, for a tx device, an rx device and a tx stream, the rx
streams that ask for the reference; the stream is called when the count becomes positive and when
it drops to zero. The lock is released for that call, so other calls run before it is answered.

A step is a call up to the first `setECRefL` it makes, or the answer of one, up to the next. What
the map does not record is kept beside it: the rx streams that a count stands for, and those whose
enabling failed.
-/

namespace AudioReachPal.Rm

open StStream (stream_state_t)

open pal_stream_type_t pal_stream_direction_t

def PAL_DEVICE_OUT_MIN : DeviceId := 0
def PAL_DEVICE_OUT_MAX : DeviceId := 30
def PAL_DEVICE_IN_MIN : DeviceId := PAL_DEVICE_OUT_MAX
def PAL_DEVICE_IN_MAX : DeviceId := PAL_DEVICE_IN_MIN + 31

/-! ### What is configured -/

structure EcCustomConfig where
  key : String
  ec_enable : Bool

structure EcUsecaseInfo where
  type : pal_stream_type_t
  ec_enable : Bool
  config : List EcCustomConfig

structure EcDeviceInfo where
  deviceId : DeviceId
  rx_dev_ids : List DeviceId
  ec_enable : Bool
  usecase : List EcUsecaseInfo

structure TxEcInfo where
  tx_stream_type : pal_stream_type_t
  disabled_rx_streams : List pal_stream_type_t

/-- The tables of the resource manager, and the attributes of the streams and devices. -/
structure EcConfig where
  deviceInfo : List EcDeviceInfo
  txEcInfo : List TxEcInfo
  type : StreamId → pal_stream_type_t
  direction : StreamId → pal_stream_direction_t
  custom_key : DeviceId → String

namespace EcConfig

variable (cfg : EcConfig)

def getECEnableSetting (tx_dev : DeviceId) (streamHandle : StreamId) : Bool :=
  match cfg.deviceInfo.find? fun devInfo => devInfo.deviceId = tx_dev with
  | none => true
  | some devInfo =>
    match devInfo.usecase.find? fun u => u.type = cfg.type streamHandle with
    | none => devInfo.ec_enable
    | some usecaseInfo =>
      match usecaseInfo.config.find? fun c => c.key = cfg.custom_key tx_dev with
      | none => usecaseInfo.ec_enable
      | some custom_config => custom_config.ec_enable

def getEcRefStatus (tx_streamtype rx_streamtype : pal_stream_type_t) : Bool :=
  if tx_streamtype = PAL_STREAM_LOW_LATENCY then false
  else !cfg.txEcInfo.any fun info =>
    decide (info.tx_stream_type = tx_streamtype) && info.disabled_rx_streams.contains rx_streamtype

def checkECRef (rx_dev tx_dev : DeviceId) : Bool :=
  cfg.deviceInfo.any fun info =>
    decide (info.deviceId = tx_dev) && info.rx_dev_ids.contains rx_dev

/-- Whether `deviceInfo` has the device. -/
def hasDevice (tx_dev : DeviceId) : Bool :=
  cfg.deviceInfo.any fun info => decide (info.deviceId = tx_dev)

end EcConfig

def isOutDevice (d : DeviceId) : Bool := decide (PAL_DEVICE_OUT_MIN < d ∧ d < PAL_DEVICE_OUT_MAX)

def isInDevice (d : DeviceId) : Bool := decide (PAL_DEVICE_IN_MIN < d ∧ d < PAL_DEVICE_IN_MAX)

/-! ### The map -/

/-- An entry of `ec_ref_count_map`: the map of the tx device, at the rx device, for the stream. -/
structure EcKey where
  tx_dev : DeviceId
  rx_dev : DeviceId
  tx_str : StreamId
  deriving DecidableEq, Repr

abbrev EcMap := EcKey → Option ℕ

/-- `updateECDeviceMap` with `is_txstop` false, so that the rx device is not null. -/
def EcConfig.updateECDeviceMap (cfg : EcConfig) (map : EcMap) (k : EcKey) (count : ℕ) : ℤ × EcMap :=
  if !cfg.hasDevice k.tx_dev then (-EINVAL, map)
  else match map k with
    | some n =>
      if 0 < count then (n + count, Function.update map k (some (n + count)))
      else
        let n := if 0 < n then n - 1 else n
        (n, Function.update map k (if n = 0 then none else some n))
    | none => if count = 0 then (-EINVAL, map) else (count, Function.update map k (some count))

/-- The entries of the tx stream that `updateECDeviceMap` erases when `is_txstop` is true: those
for the rx device, or for all of them when it is null. -/
def EcKey.erasedBy (rx_dev : Option DeviceId) (tx_dev : DeviceId) (tx_str : StreamId)
    (k : EcKey) : Bool :=
  decide (k.tx_dev = tx_dev ∧ k.tx_str = tx_str) && decide (rx_dev = none ∨ rx_dev = some k.rx_dev)

/-- `updateECDeviceMap` with `is_txstop` true: every caller passes a count of 0 then, and none
uses what it returns. -/
def EcConfig.stopECDeviceMap (cfg : EcConfig) (map : EcMap) (rx_dev : Option DeviceId)
    (tx_dev : DeviceId) (tx_str : StreamId) : EcMap :=
  if !cfg.hasDevice tx_dev then map
  else fun k => if k.erasedBy rx_dev tx_dev tx_str then none else map k

/-! ### The calls in progress -/

/-- The call that waits for `setECRefL`: that of the tx stream, with the rx streams it counted,
or that of an rx stream, with the tx streams it has still to come to. -/
inductive EcCaller where
  | tx (counted : Finset StreamId)
  | rx (rx_stream : StreamId) (rest : List StreamId)

/-- A `setECRefL` that is not answered yet. -/
structure EcCall where
  tx_str : StreamId
  tx_dev : DeviceId
  rx_dev : Option DeviceId
  ec_on : Bool
  caller : EcCaller

/-- The stream whose device is registered or deregistered. -/
def EcCall.requester (c : EcCall) : StreamId :=
  match c.caller with
  | .tx _ => c.tx_str
  | .rx x _ => x

/-- The lists of streams, and what they answer, at the time of a step. -/
structure EcEnv where
  mActiveStreams : List StreamId
  activeStreamMap : List StreamId
  getAssociatedDevices : StreamId → List DeviceId
  getCurState : StreamId → stream_state_t

/-- `isAlive`, and the two states in which an rx stream plays. -/
def EcEnv.isAlive (env : EcEnv) (s : StreamId) : Bool :=
  decide (env.getCurState s ≠ .STREAM_IDLE)

def EcEnv.isPlaying (env : EcEnv) (s : StreamId) : Bool :=
  decide (env.getCurState s = .STREAM_STARTED ∨ env.getCurState s = .STREAM_PAUSED)

/-- `ec_ref` is the echo reference that is set at the stream; `contributed` and `failed` are not in
the source. -/
structure EcState where
  active_devices : List (DeviceId × StreamId)
  ec_ref_count_map : EcMap
  ec_ref : StreamId → Option DeviceId
  pending : List EcCall
  contributed : EcKey → Finset StreamId
  failed : EcKey → Finset StreamId

namespace EcState

def init : EcState := ⟨[], fun _ => none, fun _ => none, [], fun _ => ∅, fun _ => ∅⟩

variable (cfg : EcConfig) (env : EcEnv) (s : EcState)

scoped instance : LawfulBEq (DeviceId × StreamId) := inferInstance

def isDeviceActiveL (d : DeviceId) (x : StreamId) : Bool := decide ((d, x) ∈ s.active_devices)

/-! ### A tx stream starts or stops -/

/-- The rx device of the first stream that plays on one that the tx stream may refer to. -/
def getActiveEchoReferenceRxDevicesL (tx_str : StreamId) : Option DeviceId :=
  env.mActiveStreams.findSome? fun rx_str =>
    if decide (cfg.direction rx_str ≠ PAL_AUDIO_INPUT) &&
        cfg.getEcRefStatus (cfg.type tx_str) (cfg.type rx_str) then
      (env.getAssociatedDevices rx_str).find? fun rx_device =>
        s.isDeviceActiveL rx_device rx_str && env.isPlaying rx_str && isOutDevice rx_device &&
          (env.getAssociatedDevices tx_str).any fun tx_device => cfg.checkECRef rx_device tx_device
    else none

/-- `getActiveStreamL`. -/
def getActiveStreamL (d : DeviceId) : List StreamId :=
  env.activeStreamMap.filter fun x => (env.getAssociatedDevices x).contains d && env.isAlive x

/-- The rx streams that the start of the tx stream counts on the device. -/
def countedRxStreams (rx_dev : DeviceId) (tx_str : StreamId) : List StreamId :=
  (getActiveStreamL env rx_dev).filter fun rx_str =>
    s.isDeviceActiveL rx_dev rx_str && env.isPlaying rx_str &&
      decide (cfg.direction rx_str ≠ PAL_AUDIO_INPUT) &&
      cfg.getEcRefStatus (cfg.type tx_str) (cfg.type rx_str)

/-- `checkandEnableECForTXStreamL` with `ec_on`, up to `setECRefL`. -/
def enableECForTXStream (tx_dev : DeviceId) (tx_str : StreamId) : EcState :=
  if !cfg.getECEnableSetting tx_dev tx_str then s
  else match s.getActiveEchoReferenceRxDevicesL cfg env tx_str with
    | none => s
    | some rx_dev =>
      let k : EcKey := ⟨tx_dev, rx_dev, tx_str⟩
      let counted := s.countedRxStreams cfg env rx_dev tx_str
      let res := cfg.updateECDeviceMap s.ec_ref_count_map k counted.length
      if res.1 ≤ 0 then { s with ec_ref_count_map := res.2 }
      else
        { s with
          ec_ref_count_map := res.2
          contributed := Function.update s.contributed k (s.contributed k ∪ counted.toFinset)
          pending := s.pending ++ [⟨tx_str, tx_dev, some rx_dev, true, .tx counted.toFinset⟩] }

/-- `checkandEnableECForTXStreamL` without `ec_on`, up to `setECRefL`. -/
def disableECForTXStream (tx_dev : DeviceId) (tx_str : StreamId) : EcState :=
  if !cfg.getECEnableSetting tx_dev tx_str then s
  else
    { s with
      ec_ref_count_map := cfg.stopECDeviceMap s.ec_ref_count_map none tx_dev tx_str
      contributed := fun k => if k.erasedBy none tx_dev tx_str then ∅ else s.contributed k
      failed := fun k => if k.erasedBy none tx_dev tx_str then ∅ else s.failed k
      pending := s.pending ++ [⟨tx_str, tx_dev, none, false, .tx ∅⟩] }

def checkandEnableECForTXStreamL (tx_dev : DeviceId) (tx_str : StreamId) (ec_on : Bool) :
    EcState :=
  if ec_on then s.enableECForTXStream cfg env tx_dev tx_str
  else s.disableECForTXStream cfg tx_dev tx_str

/-! ### An rx stream starts or stops -/

/-- The tx streams that run on a device that may refer to the rx device. -/
def getConcurrentTxStreamL (rx_str : StreamId) (rx_device : DeviceId) : List StreamId :=
  env.mActiveStreams.filter fun tx_str =>
    decide (cfg.type tx_str ≠ PAL_STREAM_PROXY ∧ cfg.type tx_str ≠ PAL_STREAM_ULTRA_LOW_LATENCY ∧
        cfg.type tx_str ≠ PAL_STREAM_GENERIC ∧ cfg.direction tx_str = PAL_AUDIO_INPUT) &&
      cfg.getEcRefStatus (cfg.type tx_str) (cfg.type rx_str) &&
      (env.getAssociatedDevices tx_str).any fun tx_device =>
        s.isDeviceActiveL tx_device tx_str && isInDevice tx_device &&
          cfg.checkECRef rx_device tx_device

/-- The count of one tx stream after an rx stream started or stopped. -/
def countRxStream (rx_dev : DeviceId) (rx_stream : StreamId) (ec_on : Bool) (tx_dev : DeviceId)
    (tx_str : StreamId) : ℤ × EcState :=
  let k : EcKey := ⟨tx_dev, rx_dev, tx_str⟩
  let res := cfg.updateECDeviceMap s.ec_ref_count_map k (if ec_on then 1 else 0)
  (res.1,
    { s with
      ec_ref_count_map := res.2
      contributed := Function.update s.contributed k
        (if ec_on && cfg.hasDevice tx_dev then insert rx_stream (s.contributed k)
          else (s.contributed k).erase rx_stream)
      failed := Function.update s.failed k ((s.failed k).erase rx_stream) })

/-- The tx device whose echo reference the loop of `checkandEnableECForRXStreamL` looks at, if it
does not pass over the stream. -/
def visitedTxDevice (tx_str : StreamId) : Option DeviceId :=
  if !env.mActiveStreams.contains tx_str then none
  else (env.getAssociatedDevices tx_str).head?.filter fun tx_dev =>
    cfg.getECEnableSetting tx_dev tx_str

/-- The loop of `checkandEnableECForRXStreamL`, up to the next `setECRefL`. -/
def checkandEnableECForRXStreamLoop (rx_dev : DeviceId) (rx_stream : StreamId) (ec_on : Bool) :
    EcState → List StreamId → EcState
  | s, [] => s
  | s, tx_str :: rest =>
    match visitedTxDevice cfg env tx_str with
    | none => checkandEnableECForRXStreamLoop rx_dev rx_stream ec_on s rest
    | some tx_dev =>
      let res := s.countRxStream cfg rx_dev rx_stream ec_on tx_dev tx_str
      if res.1 ≠ (if ec_on then 1 else 0) then
        checkandEnableECForRXStreamLoop rx_dev rx_stream ec_on res.2 rest
      else
        { res.2 with
          pending := res.2.pending ++
            [⟨tx_str, tx_dev, some rx_dev, ec_on, .rx rx_stream rest⟩] }

def checkandEnableECForRXStreamL (rx_dev : DeviceId) (rx_stream : StreamId) (ec_on : Bool) :
    EcState :=
  checkandEnableECForRXStreamLoop cfg env rx_dev rx_stream ec_on s
    (s.getConcurrentTxStreamL cfg env rx_stream rx_dev)

/-! ### The streams -/

/-- What a stream has set after `setECRefL` answered 0: a device other than the one that is set is
not disabled. -/
def setECRef (ec_ref rx_dev : Option DeviceId) (ec_on : Bool) : Option DeviceId :=
  if ec_on then rx_dev
  else if rx_dev = none ∨ rx_dev = ec_ref then none
  else ec_ref

/-- The part of `checkandEnableECL` for a voice call, which calls `setECRefL` with the lock;
`status` is what that answers. -/
def setVoiceECRef (d : DeviceId) (x : StreamId) (enable : Bool) (status : ℤ) : EcState :=
  if cfg.type x ≠ PAL_STREAM_VOICE_CALL ∨ status ≠ 0 then s
  else
    let txs := (env.getAssociatedDevices x).filter isInDevice
    { s with
      ec_ref := Function.update s.ec_ref x (setECRef (s.ec_ref x) (some d) enable)
      ec_ref_count_map := txs.foldl
        (fun map tx => (cfg.updateECDeviceMap map ⟨tx, d, x⟩ (if enable then 1 else 0)).2)
        s.ec_ref_count_map }

def checkandEnableECL (d : DeviceId) (x : StreamId) (enable : Bool) (voice : ℤ) : EcState :=
  if cfg.type x = PAL_STREAM_PROXY ∨
      ((cfg.type x = PAL_STREAM_ULTRA_LOW_LATENCY ∨ cfg.type x = PAL_STREAM_GENERIC) ∧
        cfg.direction x = PAL_AUDIO_INPUT) then s
  else match cfg.direction x with
    | PAL_AUDIO_INPUT => s.checkandEnableECForTXStreamL cfg env d x enable
    | PAL_AUDIO_OUTPUT => s.checkandEnableECForRXStreamL cfg env d x enable
    | PAL_AUDIO_INPUT_OUTPUT =>
      if d < PAL_DEVICE_OUT_MAX then
        (s.setVoiceECRef cfg env d x enable voice).checkandEnableECForRXStreamL cfg env d x enable
      else s

/-! ### The steps -/

def registerDevice (d : DeviceId) (x : StreamId) (voice : ℤ) : EcState :=
  if (d, x) ∈ s.active_devices then s
  else
    { s with active_devices := s.active_devices ++ [(d, x)] }.checkandEnableECL cfg env d x true
      voice

def deregisterDevice (d : DeviceId) (x : StreamId) (voice : ℤ) : EcState :=
  if (d, x) ∉ s.active_devices then s
  else
    { s with active_devices := s.active_devices.erase (d, x) }.checkandEnableECL cfg env d x false
      voice

/-- What `setECRefL` does at the stream. A session that has another internal device set resets it
first, and erases its counts for the devices of the stream; `resets` tells whether it does. -/
def answerECRef (c : EcCall) (status : ℤ) (resets : Bool) : EcState :=
  let cur := s.ec_ref c.tx_str
  { s with
    ec_ref_count_map :=
      if resets && c.ec_on && cur.isSome && decide (cur ≠ c.rx_dev) then
        (env.getAssociatedDevices c.tx_str).foldl
          (fun map tx => cfg.stopECDeviceMap map cur tx c.tx_str) s.ec_ref_count_map
      else s.ec_ref_count_map
    ec_ref :=
      if status = 0 then Function.update s.ec_ref c.tx_str (setECRef cur c.rx_dev c.ec_on)
      else s.ec_ref }

/-- The rest of `checkandEnableECForTXStreamL` when `setECRefL` failed. -/
def failTX (c : EcCall) (rx_dev : DeviceId) (counted : Finset StreamId) (status : ℤ) : EcState :=
  let k : EcKey := ⟨c.tx_dev, rx_dev, c.tx_str⟩
  let failed := Function.update s.failed k (s.failed k ∪ (s.contributed k ∩ counted))
  if status = -ENODEV then { s with failed := failed }
  else
    { s with
      ec_ref_count_map := cfg.stopECDeviceMap s.ec_ref_count_map (some rx_dev) c.tx_dev c.tx_str
      contributed := Function.update s.contributed k ∅
      failed := failed }

/-- What the loop of `checkandEnableECForRXStreamL` does when `setECRefL` failed. -/
def failRX (c : EcCall) (rx_dev : DeviceId) (rx_stream : StreamId) : EcState :=
  let k : EcKey := ⟨c.tx_dev, rx_dev, c.tx_str⟩
  { s with
    ec_ref_count_map := (cfg.updateECDeviceMap s.ec_ref_count_map k 0).2
    contributed := Function.update s.contributed k ((s.contributed k).erase rx_stream)
    failed := Function.update s.failed k
      (if rx_stream ∈ s.contributed k then insert rx_stream (s.failed k) else s.failed k) }

/-- What the answer leaves of the counts. -/
def settle (c : EcCall) (status : ℤ) : EcState :=
  match c.rx_dev, c.caller with
  | some rx_dev, .tx counted =>
    if status ≠ 0 && c.ec_on then s.failTX cfg c rx_dev counted status else s
  | some rx_dev, .rx x _ => if status ≠ 0 && c.ec_on then s.failRX cfg c rx_dev x else s
  | none, _ => s

/-- The call goes on to the tx streams that are left. -/
def resume (c : EcCall) : EcState :=
  match c.rx_dev, c.caller with
  | some rx_dev, .rx x rest => checkandEnableECForRXStreamLoop cfg env rx_dev x c.ec_on s rest
  | _, _ => s

def answer (c : EcCall) (status : ℤ) (resets : Bool) : EcState :=
  ((s.answerECRef cfg env c status resets).settle cfg c status).resume cfg env c

end EcState

inductive EcInput where
  | registerDevice (d : DeviceId) (x : StreamId) (voice : ℤ) (env : EcEnv)
  | deregisterDevice (d : DeviceId) (x : StreamId) (voice : ℤ) (env : EcEnv)
  /-- The pending call at the place is answered. -/
  | answer (i : ℕ) (status : ℤ) (resets : Bool) (env : EcEnv)

/-- A step; there is no answer of a call that is not pending. -/
def EcState.step (cfg : EcConfig) (s : EcState) : EcInput → Option EcState
  | .registerDevice d x voice env => some (s.registerDevice cfg env d x voice)
  | .deregisterDevice d x voice env => some (s.deregisterDevice cfg env d x voice)
  | .answer i status resets env =>
    s.pending[i]?.map fun c =>
      { s with pending := s.pending.eraseIdx i }.answer cfg env c status resets

end AudioReachPal.Rm
