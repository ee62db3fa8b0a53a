import AudioReachPal.Streams.Defs
import AudioReachPal.Lib.Stock
import AudioReachPal.SoundDose.FrontEndIds

/-!
# The feedback path of a Bluetooth device

A codec with an adaptive bit rate needs a path back from the headset. A device that starts opens one
on a hostless PCM device, and the device of the other direction, which the path ends in, counts it
as a use of its own; the last stop of the device closes it again. What the source does with the
payloads of the modules, and with the connection of the front end and the back end, is not here.
-/

namespace AudioReachPal.Bluetooth

open AudioReachPal.Lib
open AudioReachPal.Streams
open AudioReachPal.SoundDose (PCM_PLAYBACK_HOSTLESS)

def PCM_RECORD_HOSTLESS : String := "PcmRecordHostless"

inductive codec_type where
  | ENC
  | DEC
  deriving DecidableEq, Repr

inductive codec_format_t where
  | CODEC_TYPE_INVALID
  | CODEC_TYPE_AAC
  | CODEC_TYPE_SBC
  | CODEC_TYPE_APTX
  | CODEC_TYPE_APTX_HD
  | CODEC_TYPE_APTX_DUAL_MONO
  | CODEC_TYPE_LDAC
  | CODEC_TYPE_CELT
  | CODEC_TYPE_APTX_AD
  | CODEC_TYPE_APTX_AD_SPEECH
  | CODEC_TYPE_LC3
  | CODEC_TYPE_PCM
  | CODEC_TYPE_APTX_AD_QLEA
  | CODEC_TYPE_APTX_AD_R4
  | CODEC_TYPE_APTX_PLUS
  deriving DecidableEq, Repr

open codec_format_t

/-- The formats that the packetizers of the second version carry. -/
def isCopV2 : codec_format_t → Bool
  | CODEC_TYPE_LC3 | CODEC_TYPE_APTX_AD_QLEA | CODEC_TYPE_APTX_PLUS | CODEC_TYPE_APTX_AD_R4 => true
  | _ => false

/-! ### The devices -/

/-- A `Bluetooth`. `mPlugin` stands for `mPluginHandler` and `mPluginCodec`, which are set and
cleared together. `enabled` is not in the source: the device is enabled in the audio route. -/
structure BtDevice where
  deviceCount : ℕ := 0
  deviceStartStopCount : ℕ := 0
  enabled : Bool := false
  mCodecFormat : codec_format_t := CODEC_TYPE_INVALID
  mIsAbrEnabled : Bool := false
  mIsConfigured : Bool := false
  mPlugin : Bool := false
  mFBPcm : Bool
  mFBPcmDevIds : List ℤ := []
  mAbrRefCnt : ℕ := 0
  deriving DecidableEq, Repr

/-- What all devices share: the mixer's feedback channel, the hostless front end ids by the key of
their pool, and how many codec plugins are open. -/
structure Line where
  feedbackChannel : ℤ := 0
  ids : Stock (String × ℤ) := Stock.empty
  plugins : ℕ := 0

/-- A device, the one of the other direction, which is its `mFBDev`, and the line. -/
structure Pair where
  dev : BtDevice
  mFBDev : BtDevice
  line : Line

/-- The device that the path ends in; `none` where there is none to get. -/
def fbDeviceId (mCodecType : codec_type) (id : pal_device_id_t) : Option pal_device_id_t :=
  match mCodecType with
  | .DEC =>
    if id = PAL_DEVICE_IN_BLUETOOTH_A2DP then some PAL_DEVICE_OUT_BLUETOOTH_A2DP
    else if id = PAL_DEVICE_IN_BLUETOOTH_SCO_HEADSET then some PAL_DEVICE_OUT_BLUETOOTH_SCO
    else if id = PAL_DEVICE_IN_BLUETOOTH_BLE then some PAL_DEVICE_OUT_BLUETOOTH_BLE
    else none
  | .ENC =>
    if id = PAL_DEVICE_OUT_BLUETOOTH_A2DP then some PAL_DEVICE_IN_BLUETOOTH_A2DP
    else if id = PAL_DEVICE_OUT_BLUETOOTH_SCO then some PAL_DEVICE_IN_BLUETOOTH_SCO_HEADSET
    else if id = PAL_DEVICE_OUT_BLUETOOTH_BLE ∨ id = PAL_DEVICE_OUT_BLUETOOTH_BLE_BROADCAST then
      some PAL_DEVICE_IN_BLUETOOTH_BLE
    else none

/-- The pool of the path's front end id. -/
def hostlessKey : codec_type → String
  | .DEC => PCM_PLAYBACK_HOSTLESS
  | .ENC => PCM_RECORD_HOSTLESS

/-- `startAbr` counts the path in the device with this id. -/
def countsAtStart (mCodecFormat : codec_format_t) (fbDevice : pal_device_id_t) : Bool :=
  mCodecFormat = CODEC_TYPE_APTX_AD_SPEECH ||
    (mCodecFormat = CODEC_TYPE_LC3 && (fbDevice = PAL_DEVICE_IN_BLUETOOTH_SCO_HEADSET ||
      fbDevice = PAL_DEVICE_OUT_BLUETOOTH_SCO || fbDevice = PAL_DEVICE_OUT_BLUETOOTH_BLE)) ||
    (mCodecFormat = CODEC_TYPE_APTX_AD_R4 && fbDevice = PAL_DEVICE_OUT_BLUETOOTH_BLE)

/-- The second time that `stopAbr` counts the path out, by the id of the device that stops. -/
def countsAtStop (mCodecFormat : codec_format_t) (id : pal_device_id_t) : Bool :=
  (mCodecFormat = CODEC_TYPE_LC3 && (id = PAL_DEVICE_OUT_BLUETOOTH_SCO ||
      id = PAL_DEVICE_IN_BLUETOOTH_SCO_HEADSET || id = PAL_DEVICE_IN_BLUETOOTH_BLE)) ||
    (mCodecFormat = CODEC_TYPE_APTX_AD_R4 && id = PAL_DEVICE_IN_BLUETOOTH_BLE)

/-! ### The answers -/

/-- What the calls of `startAbr` answer, in their order. -/
structure AbrAnswers where
  setDeviceMetadata : ℤ := 0
  setMediaConfig : ℤ := 0
  allocateFrontEndIds : ℤ
  connectCtrl : Bool := true
  mixer_ctl_set_enum_by_string : ℤ := 0
  btSetFeedbackChannelCtrl : Bool := true
  mixer_ctl_set_value : ℤ := 0
  getModuleInstanceId : ℤ := 0
  getPluginPayload : ℤ := 0
  num_blks : ℕ := 1
  is_abr_enabled : Bool := true
  paramData : Bool := true
  configureCOPModule : ℤ := 0
  configurePCMConverterModule : ℤ := 0
  /-- `0` also where there is no payload to set. -/
  setCustomPayload : ℤ := 0
  pcm_open : Bool := true
  pcm_is_ready : Bool := true
  pcm_start : ℤ := 0
  deriving DecidableEq, Repr

/-- What the mixer answers to the reset of `stopAbr`. -/
structure StopAbrAnswers where
  btSetFeedbackChannelCtrl : Bool := true
  mixer_ctl_set_value : ℤ := 0
  deriving DecidableEq, Repr

def BtDevice.unshareStart (b : BtDevice) : BtDevice :=
  if 0 < b.deviceStartStopCount then
    let b := { b with deviceStartStopCount := b.deviceStartStopCount - 1 }
    if b.deviceStartStopCount = 0 then { b with mIsConfigured := false, mIsAbrEnabled := false }
    else b
  else b

/-- The use of a device by the path of the other one ends. -/
def BtDevice.unshare (b : BtDevice) : BtDevice :=
  let b := b.unshareStart
  if 0 < b.deviceCount then { b with deviceCount := b.deviceCount - 1 } else b

/-! ### Starting the path -/

namespace Pair

variable (mCodecType : codec_type) (p : Pair)

/-- The front end id of the path. -/
def takeId (id : ℤ) : Pair :=
  { p with
    dev.mFBPcmDevIds := p.dev.mFBPcmDevIds ++ [id]
    line.ids := p.line.ids.issue (hostlessKey mCodecType, id) }

def freeIds : Pair :=
  { p with
    dev.mFBPcmDevIds := []
    line.ids := p.line.ids.giveBackAll
      (p.dev.mFBPcmDevIds.map fun id => (hostlessKey mCodecType, id)) }

/-- The modules of a path that its device has not configured. That a codec has another number of
blocks is found with its plugin open. -/
def configureFeedback (a : AbrAnswers) (fbDevice : pal_device_id_t) : Bool × Pair :=
  if fbDevice ∈ [PAL_DEVICE_OUT_BLUETOOTH_SCO, PAL_DEVICE_IN_BLUETOOTH_SCO_HEADSET,
      PAL_DEVICE_OUT_BLUETOOTH_BLE] then
    if a.getModuleInstanceId ≠ 0 then (false, p)
    else if a.getPluginPayload ≠ 0 then (false, p)
    else if a.num_blks ≠ 1 then (false, { p with line.plugins := p.line.plugins + 1 })
    else
      let p := { p with mFBDev.mIsAbrEnabled := a.is_abr_enabled }
      if !a.paramData then (false, p)
      else if isCopV2 p.dev.mCodecFormat then
        (a.configureCOPModule = 0 && a.configurePCMConverterModule = 0 && a.setCustomPayload = 0, p)
      else (a.setCustomPayload = 0, p)
  else if fbDevice ∈ [PAL_DEVICE_IN_BLUETOOTH_A2DP, PAL_DEVICE_IN_BLUETOOTH_BLE] then
    if isCopV2 p.dev.mCodecFormat then
      (a.configureCOPModule = 0 && a.setCustomPayload = 0, p)
    else (a.setCustomPayload = 0, p)
  else (a.setCustomPayload = 0, p)

/-- The path's use of its device. -/
def share : Pair :=
  { p with
    mFBDev.mIsConfigured := true
    mFBDev.deviceStartStopCount := p.mFBDev.deviceStartStopCount + 1
    mFBDev.deviceCount := p.mFBDev.deviceCount + 1 }

def startPcm (a : AbrAnswers) (fbDevice : pal_device_id_t) : Pair :=
  if !a.pcm_open || !a.pcm_is_ready || decide (a.pcm_start ≠ 0) then
    ({ p with dev.mFBPcm := false } : Pair).freeIds mCodecType
  else
    let p := { p with dev.mFBPcm := true, dev.mAbrRefCnt := p.dev.mAbrRefCnt + 1 }
    if countsAtStart p.dev.mCodecFormat fbDevice then p.share else p

/-- From the mixer's feedback channel on, which a start that fails leaves as it is. -/
def startFeedback (a : AbrAnswers) (fbDevice : pal_device_id_t) : Pair :=
  let p := { p with line.feedbackChannel := 1 }
  if p.mFBDev.mIsConfigured then p.startPcm mCodecType a fbDevice
  else
    let r := p.configureFeedback a fbDevice
    if r.1 then r.2.startPcm mCodecType a fbDevice else r.2.freeIds mCodecType

def startAbr (a : AbrAnswers) (id : pal_device_id_t) : Pair :=
  if 0 < p.dev.mAbrRefCnt then { p with dev.mAbrRefCnt := p.dev.mAbrRefCnt + 1 }
  else match fbDeviceId mCodecType id with
    | none => p
    | some fbDevice =>
      if a.setDeviceMetadata ≠ 0 then p
      else if a.setMediaConfig ≠ 0 then p
      else if a.allocateFrontEndIds < 0 then p
      else
        let p := p.takeId mCodecType a.allocateFrontEndIds
        if !a.connectCtrl then p.freeIds mCodecType
        else if a.mixer_ctl_set_enum_by_string ≠ 0 then p.freeIds mCodecType
        else if !a.btSetFeedbackChannelCtrl then p.freeIds mCodecType
        else if a.mixer_ctl_set_value ≠ 0 then p.freeIds mCodecType
        else p.startFeedback mCodecType a fbDevice

/-! ### Stopping it -/

def unshare : Pair := { p with mFBDev := p.mFBDev.unshare }

def resetChannel (a : StopAbrAnswers) : Pair :=
  if a.btSetFeedbackChannelCtrl && a.mixer_ctl_set_value = 0 then
    { p with line.feedbackChannel := 0 }
  else p

/-- The path is counted out by its codec, in one of two places. -/
def countOut (id : pal_device_id_t) : Pair :=
  let p := if p.dev.mCodecFormat = CODEC_TYPE_APTX_AD_SPEECH then p.unshare else p
  if countsAtStop p.dev.mCodecFormat id then p.unshare else p

/-- The end of the path, after the last use. -/
def stopFeedback (a : StopAbrAnswers) (id : pal_device_id_t) : Pair :=
  let p := (({ p with dev.mFBPcm := false } : Pair).resetChannel a).countOut id
  let p := if p.dev.mFBPcmDevIds ≠ [] then p.freeIds mCodecType else p
  if p.dev.deviceStartStopCount = 1 then { p with dev.mIsAbrEnabled := false } else p

def stopAbr (a : StopAbrAnswers) (id : pal_device_id_t) : Pair :=
  if !p.dev.mFBPcm then p
  else if p.dev.mAbrRefCnt = 0 then p
  else
    let p := { p with dev.mAbrRefCnt := p.dev.mAbrRefCnt - 1 }
    if 0 < p.dev.mAbrRefCnt then p else p.stopFeedback mCodecType a id

end Pair

/-! ### The graph of the device itself -/

/-- What `configureGraphModules` meets, in this order. -/
structure GraphAnswers where
  getPCMId : ℤ := 0
  /-- The status is `0`, and there is a stream. -/
  getActiveStreamL : Bool := true
  getPluginPayload : ℤ := 0
  is_abr_enabled : Bool := true
  getModuleInstanceId : ℤ := 0
  configurePCMConverterModule : ℤ := 0
  configureCOPModule : ℤ := 0
  deriving DecidableEq, Repr

/-- `configureGraphModules` of a format that only a SCO device has, or that both have. A plugin that
was open before is lost. -/
def BtDevice.configureGraphModules (b : BtDevice) (plugins : ℕ) (a : GraphAnswers) :
    ℤ × BtDevice × ℕ :=
  let b := { b with mIsConfigured := false }
  if a.getPCMId < 0 then (-EINVAL, b, plugins)
  else if !a.getActiveStreamL then (-EINVAL, b, plugins)
  else if a.getPluginPayload ≠ 0 then (a.getPluginPayload, b, plugins)
  else
    let b := { b with mPlugin := true, mIsAbrEnabled := a.is_abr_enabled }
    let plugins := plugins + 1
    if a.getModuleInstanceId ≠ 0 then (a.getModuleInstanceId, b, plugins)
    else if isCopV2 b.mCodecFormat && a.configurePCMConverterModule ≠ 0 then
      (a.configurePCMConverterModule, b, plugins)
    else if isCopV2 b.mCodecFormat && a.configureCOPModule ≠ 0 then
      (a.configureCOPModule, b, plugins)
    else (0, { b with mIsConfigured := true }, plugins)

/-! ### The device's own uses -/

/-- What `open` and `startL` ask; the payload's status is `0` also where there is none. -/
structure DeviceAnswers where
  getAudioRoute : ℤ := 0
  getSndDeviceName : ℤ := 0
  getBackendName : String := "backend"
  setCustomPayload : ℤ := 0
  deriving DecidableEq, Repr

namespace BtDevice

variable (b : BtDevice) (a : DeviceAnswers)

def «open» : ℤ × BtDevice :=
  if b.deviceCount = 0 then
    if a.getAudioRoute ≠ 0 then (a.getAudioRoute, b)
    else if a.getSndDeviceName ≠ 0 then (a.getSndDeviceName, b)
    else (0, { b with enabled := true, deviceCount := b.deviceCount + 1 })
  else (0, { b with deviceCount := b.deviceCount + 1 })

def close : BtDevice :=
  if 0 < b.deviceCount then
    let b := { b with deviceCount := b.deviceCount - 1 }
    if b.deviceCount = 0 then { b with enabled := false, deviceStartStopCount := 0 } else b
  else b

/-- A payload that cannot be set is an error, after which the start is counted all the same. -/
def startL : ℤ × BtDevice :=
  if b.deviceStartStopCount = 0 then
    if a.getBackendName = "" then (-EINVAL, b)
    else (a.setCustomPayload, { b with deviceStartStopCount := b.deviceStartStopCount + 1 })
  else (0, { b with deviceStartStopCount := b.deviceStartStopCount + 1 })

def stopL : BtDevice :=
  if 0 < b.deviceStartStopCount then { b with deviceStartStopCount := b.deviceStartStopCount - 1 }
  else b

end BtDevice

end AudioReachPal.Bluetooth
