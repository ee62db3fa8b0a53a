import AudioReachPal.Bluetooth.Hfp
import AudioReachPal.Bluetooth.Feedback

/-!
# The two directions of a SCO link

A `BtSco` plays to the headset, another one records from it. Each opens and starts for its streams,
which say with the codec of the Hands-Free Profile, or by parameters, which codec it is to use; with
the codec comes the feedback path, which ends in the other one. A call runs under the mutex of its
device, and a start or a stop under the one of the graph besides, so that a run is a sequence of
calls.
-/

namespace AudioReachPal.Bluetooth

open AudioReachPal.Lib
open AudioReachPal.Streams
open codec_format_t

def SPEECH_MODE_INVALID : ℤ := 0xFFFF

/-- `sObjRx` and `sObjTx`. -/
inductive Dir where
  | rx
  | tx
  deriving DecidableEq, Repr

namespace Dir

def other : Dir → Dir
  | .rx => .tx
  | .tx => .rx

def id : Dir → pal_device_id_t
  | .rx => PAL_DEVICE_OUT_BLUETOOTH_SCO
  | .tx => PAL_DEVICE_IN_BLUETOOTH_SCO_HEADSET

def mCodecType : Dir → codec_type
  | .rx => .ENC
  | .tx => .DEC

@[simp] theorem other_other (d : Dir) : d.other.other = d := by cases d <;> rfl

@[simp] theorem other_ne (d : Dir) : d.other ≠ d := by cases d <;> decide

@[simp] theorem ne_other (d : Dir) : d ≠ d.other := (other_ne d).symm

theorem eq_or_eq_other (d e : Dir) : e = d ∨ e = d.other := by cases d <;> cases e <;> decide

end Dir

/-- The static members of `BtSco`. -/
structure ScoStatics where
  sIsWbSpeechEnabled : Bool := false
  sSwbSpeechMode : ℤ := SPEECH_MODE_INVALID
  sIsSwbLc3Enabled : Bool := false
  sIsNrecEnabled : Bool := false
  sIsHFPSyncEnabled : Bool := true
  deriving DecidableEq, Repr

/-- What a codec says of the statics; `none` where it says nothing. -/
def ScoStatics.hears (s : ScoStatics) (codec : Codec) : Option ScoStatics :=
  match codec.mType with
  | .LC3 => some { s with sIsSwbLc3Enabled := true, sIsNrecEnabled := codec.mIsNRECEnabled }
  | .MSBC => some { s with sIsWbSpeechEnabled := true, sIsNrecEnabled := codec.mIsNRECEnabled }
  | .CVSD => some { s with sIsNrecEnabled := codec.mIsNRECEnabled }
  | .APTX_SPEECH => some { s with sSwbSpeechMode := 0, sIsNrecEnabled := codec.mIsNRECEnabled }
  | .INVALID => none

def ScoStatics.format (s : ScoStatics) : codec_format_t :=
  if s.sSwbSpeechMode ≠ SPEECH_MODE_INVALID then CODEC_TYPE_APTX_AD_SPEECH
  else if s.sIsSwbLc3Enabled then CODEC_TYPE_LC3
  else CODEC_TYPE_INVALID

/-- The codec that a start is to use. Without one there is no feedback path. -/
def BtDevice.setFormat (b : BtDevice) (f : codec_format_t) : BtDevice :=
  if f = CODEC_TYPE_INVALID then { b with mCodecFormat := f, mIsAbrEnabled := false }
  else { b with mCodecFormat := f }

/-- What a start meets. -/
structure ScoStartAnswers where
  config : Option HfpConfig := none
  graph : GraphAnswers := {}
  configureSlimbusClockSrc : ℤ := 0
  device : DeviceAnswers := {}
  abr : AbrAnswers
  deriving DecidableEq, Repr

/-! ### A device and the other one -/

def BtDevice.startSwb (b : BtDevice) (plugins : ℕ) (a : GraphAnswers) : ℤ × BtDevice × ℕ :=
  if !b.mIsConfigured then b.configureGraphModules plugins a
  else if b.mCodecFormat = CODEC_TYPE_APTX_AD_SPEECH then
    (0, { b with mIsAbrEnabled := true }, plugins)
  else (0, b, plugins)

/-- Without a codec in place there is nothing to configure. -/
def BtDevice.configure (b : BtDevice) (plugins : ℕ) (a : GraphAnswers) : ℤ × BtDevice × ℕ :=
  if b.mCodecFormat = CODEC_TYPE_APTX_AD_SPEECH ∨ b.mCodecFormat = CODEC_TYPE_LC3 then
    b.startSwb plugins a
  else (0, { b with mIsConfigured := true }, plugins)

/-- The end of a stop, from `Device::stop_l` on. -/
def BtDevice.stopSco (b : BtDevice) : BtDevice :=
  let b := b.stopL
  let b := if b.mIsAbrEnabled = false then { b with mCodecFormat := CODEC_TYPE_INVALID } else b
  if b.deviceStartStopCount = 0 then { b with mIsConfigured := false } else b

namespace Pair

variable (p : Pair) (d : Dir)

/-- A start, from its codec on, up to its device. -/
def startDevice (a : ScoStartAnswers) : ℤ × Pair :=
  let r := p.dev.configure p.line.plugins a.graph
  let p := { p with dev := r.2.1, line.plugins := r.2.2 }
  if r.1 ≠ 0 then (r.1, p)
  else if p.dev.deviceStartStopCount = 0 ∧ a.configureSlimbusClockSrc ≠ 0 then
    (a.configureSlimbusClockSrc, p)
  else
    let s := p.dev.startL a.device
    (s.1, { p with dev := s.2 })

def start (a : ScoStartAnswers) : ℤ × Pair :=
  let r := p.startDevice a
  if r.1 = 0 ∧ r.2.dev.mIsAbrEnabled then (0, r.2.startAbr d.mCodecType a.abr d.id) else r

def closePlugin : Pair :=
  if p.dev.mPlugin then { p with dev.mPlugin := false, line.plugins := p.line.plugins - 1 } else p

/-- A stop, after the one of the host. -/
def stop (a : StopAbrAnswers) : Pair :=
  let p := if p.dev.mIsAbrEnabled then p.stopAbr d.mCodecType a d.id else p
  let p := p.closePlugin
  { p with dev := p.dev.stopSco }

end Pair

/-! ### Both devices and the host -/

/-- `opened` and `started` are not in the source: how many streams have opened a device, and started
it. -/
structure Sco where
  sHFPProfile : HFPProfile := {}
  statics : ScoStatics := {}
  dev : Dir → BtDevice
  line : Line := {}
  opened : Dir → ℕ := fun _ => 0
  started : Dir → ℕ := fun _ => 0

/-- `PAL_PARAM_ID_BT_SCO_WB` and so on, up to `PAL_PARAM_ID_DISABLE_HFP_SYNC`. -/
inductive ScoParam where
  | BT_SCO_WB (bt_wb_speech_enabled : Bool)
  | BT_SCO_SWB (bt_swb_speech_mode : ℤ)
  | BT_SCO_LC3 (bt_lc3_speech_enabled : Bool)
  | BT_SCO_NREC (bt_sco_nrec : Bool)
  | DEVICE_CONNECTION (connection_state : Bool)
  | DISABLE_HFP_SYNC
  deriving DecidableEq, Repr

inductive ScoCall where
  | open (d : Dir) (a : DeviceAnswers)
  | close (d : Dir)
  | start (d : Dir) (a : ScoStartAnswers)
  | stop (d : Dir) (a : StopAbrAnswers)
  | setDeviceParameter (param : ScoParam)

namespace Sco

variable (σ : Sco) (d : Dir)

/-- A device, the other one and the line. -/
def pair : Pair := ⟨σ.dev d, σ.dev d.other, σ.line⟩

def setPair (p : Pair) : Sco :=
  { σ with dev := fun e => if e = d then p.dev else p.mFBDev, line := p.line }

def setDev (b : BtDevice) : Sco := { σ with dev := Function.update σ.dev d b }

/-! ### The host -/

def startBTHost : ℤ × Sco :=
  if !σ.statics.sIsHFPSyncEnabled then (0, σ)
  else
    let r := σ.sHFPProfile.start
    (if r.1 = .OK then 0 else -1, { σ with sHFPProfile := r.2 })

def stopBTHost : ℤ × Sco :=
  if !σ.statics.sIsHFPSyncEnabled then (0, σ)
  else
    let r := σ.sHFPProfile.stop
    let σ := { σ with sHFPProfile := r.2 }
    if r.1 ≠ .OK then (-1, σ)
    else if !r.2.isActive then
      (0, { σ with statics := { σ.statics with
        sIsSwbLc3Enabled := false
        sIsWbSpeechEnabled := false
        sSwbSpeechMode := SPEECH_MODE_INVALID
        sIsNrecEnabled := false } })
    else (0, σ)

def openBTHost : Sco :=
  if !σ.statics.sIsHFPSyncEnabled then σ else { σ with sHFPProfile := σ.sHFPProfile.open.2 }

def closeBTHost : Sco :=
  if !σ.statics.sIsHFPSyncEnabled then σ else { σ with sHFPProfile := σ.sHFPProfile.close.2 }

def getCodecConfigFromBTHost (config : Option HfpConfig) : ℤ × Sco :=
  if !σ.statics.sIsHFPSyncEnabled then (0, σ)
  else
    let r := σ.sHFPProfile.getCodec config
    let σ := { σ with sHFPProfile := r.2 }
    match r.1 with
    | none => (-1, σ)
    | some codec =>
      match σ.statics.hears codec with
      | none => (-1, σ)
      | some s => (0, { σ with statics := s })

/-- The host, and the codec that it names. -/
def hear (a : ScoStartAnswers) : ℤ × Sco :=
  let r := σ.startBTHost
  if r.1 ≠ 0 then r
  else
    let r := r.2.getCodecConfigFromBTHost a.config
    if r.1 ≠ 0 then (r.1, r.2.stopBTHost.2)
    else
      (0, r.2.setDev d ((r.2.dev d).setFormat r.2.statics.format))

def start (a : ScoStartAnswers) : ℤ × Sco :=
  let r := σ.hear d a
  if r.1 ≠ 0 then r
  else
    let s := (r.2.pair d).start d a
    (s.1, r.2.setPair d s.2)

def stop (a : StopAbrAnswers) : Sco :=
  let σ := σ.stopBTHost.2
  σ.setPair d ((σ.pair d).stop d a)

/-! ### Parameters -/

def setDeviceParameter : ScoParam → Sco
  | .BT_SCO_WB b => { σ with statics := { σ.statics with sIsWbSpeechEnabled := b } }
  | .BT_SCO_SWB mode => { σ with statics := { σ.statics with sSwbSpeechMode := mode } }
  | .BT_SCO_LC3 b => { σ with statics := { σ.statics with sIsSwbLc3Enabled := b } }
  | .BT_SCO_NREC b => { σ with statics := { σ.statics with sIsNrecEnabled := b } }
  | .DEVICE_CONNECTION true => σ.openBTHost
  | .DEVICE_CONNECTION false => σ.closeBTHost
  | .DISABLE_HFP_SYNC => { σ with statics := { σ.statics with sIsHFPSyncEnabled := false } }

/-! ### Runs -/

/-- A stream has the device open and not started, and the pool hands out no id twice. -/
def MayStart (σ : Sco) (d : Dir) (a : ScoStartAnswers) : Prop :=
  σ.started d < σ.opened d ∧
    (hostlessKey d.mCodecType, a.abr.allocateFrontEndIds) ∉ σ.line.ids.issued

instance (σ : Sco) (d : Dir) (a : ScoStartAnswers) : Decidable (σ.MayStart d a) := by
  unfold MayStart
  infer_instance

/-- A call. A stream opens a device before it starts it, and stops it before it closes it. -/
def step (σ : Sco) : ScoCall → Option Sco
  | .open d a =>
    let r := (σ.dev d).open a
    let σ := σ.setDev d r.2
    some (if r.1 = 0 then { σ with opened := Function.update σ.opened d (σ.opened d + 1) } else σ)
  | .close d =>
    if σ.started d < σ.opened d then
      some { σ.setDev d (σ.dev d).close with opened := Function.update σ.opened d (σ.opened d - 1) }
    else none
  | .start d a =>
    if σ.MayStart d a then
      let r := σ.start d a
      some (if r.1 = 0 then
        { r.2 with started := Function.update σ.started d (σ.started d + 1) } else r.2)
    else none
  | .stop d a =>
    if 0 < σ.started d then
      some { σ.stop d a with started := Function.update σ.started d (σ.started d - 1) }
    else none
  | .setDeviceParameter param => some (σ.setDeviceParameter param)

/-- New devices. What `mFBPcm` is, is not said by the constructor. -/
def init (mFBPcm : Dir → Bool) : Sco where
  dev d := { mFBPcm := mFBPcm d }

end Sco

end AudioReachPal.Bluetooth
