import AudioReachPal.Streams.Defs
import Mathlib.Logic.Function.Basic

/-!
# Connecting a device to a stream

`Stream::connectStreamDevice_l` and `disconnectStreamDeviceL`, and the calls of `Device` that they
make. A device counts how often it is open and how often it is started; a stream has its devices in
`mDevices`, and the resource manager has those that are registered for it. The answers of the inner
calls come in an `Env`. A class of devices adds to `start`, `stop` and `close` what it needs, whose
status is an answer too: before the start is counted, and after the stop and the close are. Some
classes leave out something as well.
-/

namespace AudioReachPal.Streams.Connect

open AudioReachPal.StStream (stream_state_t)

open AudioReachPal.StStream.stream_state_t

def ENOSYS : ℤ := 38

def PAL_DEVICE_OUT_USB_HEADSET : pal_device_id_t := 12
def PAL_DEVICE_IN_USB_HEADSET : pal_device_id_t := PAL_DEVICE_IN_MIN + 9

/-! ### Devices -/

/-- What the classes of devices make of `startL` and `stopL`. -/
inductive DeviceClass where
  /-- The status of `startL` is returned. -/
  | counted
  /-- The protections of the speaker, the handset and the haptics device and their feedback devices
  return 0 whatever `startL` does. -/
  | unreported
  /-- The headphone and the USB device of a build without sound dose call neither. -/
  | uncounted
  deriving DecidableEq, Repr

structure Device where
  deviceClass : DeviceClass := .counted
  deviceCount : ℕ := 0
  deviceStartStopCount : ℕ := 0
  deriving DecidableEq, Repr

/-- The answers that a device meets. -/
structure DeviceEnv where
  getAudioRoute : ℤ := 0
  getSndDeviceName : ℤ := 0
  /-- What the class of the device does before `startL`. -/
  classStart : ℤ := 0
  /-- The back end has a name in the configuration. -/
  hasBackendName : Bool := true
  setCustomPayload : ℤ := 0
  /-- What the class of the device does beside `stopL`. -/
  classStop : ℤ := 0
  /-- What the class of the device does after `close`. -/
  classClose : ℤ := 0

namespace Device

variable (e : DeviceEnv) (d : Device)

def «open» : ℤ × Device :=
  if d.deviceCount = 0 then
    if e.getAudioRoute ≠ 0 then (e.getAudioRoute, d)
    else if e.getSndDeviceName ≠ 0 then (e.getSndDeviceName, d)
    else (0, { d with deviceCount := d.deviceCount + 1 })
  else (0, { d with deviceCount := d.deviceCount + 1 })

/-- The last close stops the device for all. -/
def close : ℤ × Device :=
  (e.classClose,
    if 0 < d.deviceCount then
      { d with
        deviceCount := d.deviceCount - 1
        deviceStartStopCount := if d.deviceCount = 1 then 0 else d.deviceStartStopCount }
    else d)

/-- A failure of `setCustomPayload` is returned, and the start counts. -/
def startL : ℤ × Device :=
  if d.deviceStartStopCount = 0 then
    if !e.hasBackendName then (-EINVAL, d)
    else (e.setCustomPayload, { d with deviceStartStopCount := d.deviceStartStopCount + 1 })
  else (0, { d with deviceStartStopCount := d.deviceStartStopCount + 1 })

def start : ℤ × Device :=
  if e.classStart ≠ 0 then (e.classStart, d)
  else match d.deviceClass with
    | .counted => d.startL e
    | .unreported => (0, (d.startL e).2)
    | .uncounted => (0, d)

def stopL : Device := { d with deviceStartStopCount := d.deviceStartStopCount - 1 }

def stop : ℤ × Device :=
  (e.classStop, match d.deviceClass with
    | .counted | .unreported => d.stopL
    | .uncounted => d)

end Device

/-! ### A stream and its devices -/

structure Stream where
  currentState : stream_state_t
  isMMap : Bool := false
  mDevices : List pal_device_id_t := []
  /-- There is one `Device` for each id, for all streams. -/
  devices : pal_device_id_t → Device := fun _ => {}
  /-- The devices of this stream in `active_devices`. -/
  registered : List pal_device_id_t := []

structure Env where
  device : DeviceEnv := {}
  /-- `PAL_CARD_STATUS_UP(rm->getSoundCardState())` -/
  cardOnline : Bool := true
  /-- `Device::getInstance` is not null. -/
  getInstance : Bool := true
  getBackendName : pal_device_id_t → String
  setupSessionDevice : ℤ := 0
  connectSessionDevice : ℤ := 0
  disconnectSessionDevice : ℤ := 0
  isSpeakerProtectionEnabled : Bool := false
  isChargeConcurrencyEnabled : Bool := false
  getConcurrentBoostState : Bool := false
  getInputCurrentLimitorConfigStatus : Bool := false
  getChargerOnlineState : Bool := false
  /-- Of `PAL_PARAM_ID_CHARGER_STATE`. -/
  setSessionParamConfig : ℤ := 0
  isDeviceConnected : Bool := true

/-- A limiter is set for a speaker that a charger shares its current with. -/
def Env.tellsCharger (e : Env) (d : pal_device_id_t) : Bool :=
  e.isChargeConcurrencyEnabled && d == PAL_DEVICE_OUT_SPEAKER && e.getConcurrentBoostState &&
    !e.getInputCurrentLimitorConfigStatus && e.getChargerOnlineState

namespace Stream

variable (e : Env) (s : Stream) (d : pal_device_id_t)

def setDevice (x : Device) : Stream := { s with devices := Function.update s.devices d x }

/-- A device is registered once. -/
def registerDevice : Stream :=
  { s with registered := if d ∈ s.registered then s.registered else s.registered ++ [d] }

def deregisterDevice : Stream := { s with registered := s.registered.erase d }

/-- A started stream has its devices started. Some devices of a memory mapped stream are started
with it initialized, or stopped. -/
def startsDevice : Bool :=
  (s.currentState ≠ STREAM_INIT && s.currentState ≠ STREAM_STOPPED) ||
    ((s.currentState == STREAM_INIT || s.currentState == STREAM_STOPPED) &&
      d ∈ [PAL_DEVICE_OUT_BLUETOOTH_A2DP, PAL_DEVICE_OUT_BLUETOOTH_BLE, PAL_DEVICE_OUT_SPEAKER] &&
      s.isMMap)

/-! ### Disconnect -/

/-- With speaker protection the speaker is stopped before its session device is disconnected. -/
def stopsEarly : Bool :=
  (s.currentState ≠ STREAM_INIT && s.currentState ≠ STREAM_STOPPED) &&
    d == PAL_DEVICE_OUT_SPEAKER && e.isSpeakerProtectionEnabled

/-- The device is stopped after its session device is disconnected. -/
def stopsLate : Bool := s.startsDevice d && !s.stopsEarly e d

/-- The end of a disconnect. -/
def closeDevice : ℤ × Stream :=
  let r := (s.devices d).close e.device
  if r.1 ≠ 0 then (r.1, s.setDevice d r.2)
  else (0, { s.setDevice d r.2 with mDevices := s.mDevices.erase d })

/-- What follows the early stop. -/
def disconnectSession (s₀ : Stream) : ℤ × Stream :=
  if e.disconnectSessionDevice ≠ 0 then (e.disconnectSessionDevice, s)
  else if s₀.stopsLate e d then
    let r := (s.devices d).stop e.device
    if r.1 ≠ 0 then (r.1, s.setDevice d r.2) else closeDevice e (s.setDevice d r.2) d
  else closeDevice e s d

def disconnectStreamDeviceL : ℤ × Stream :=
  if s.currentState = STREAM_IDLE ∨ e.cardOnline = false then
    (0, { s with mDevices := s.mDevices.erase d })
  else if d ∈ s.mDevices then
    let t := if s.currentState ≠ STREAM_STOPPED then s.deregisterDevice d else s
    if s.stopsEarly e d then
      let r := (t.devices d).stop e.device
      if r.1 ≠ 0 then (r.1, t.setDevice d r.2) else disconnectSession e (t.setDevice d r.2) d s
    else disconnectSession e t d s
  else (0, s)

/-! ### Connect -/

/-- The label `dev_close`. -/
def devClose (status : ℤ) : ℤ × Stream :=
  (status,
    if status ≠ -ENETRESET then
      { s.setDevice d ((s.devices d).close e.device).2 with mDevices := s.mDevices.dropLast }
    else s)

/-- The label `dev_stop`. -/
def devStop (status : ℤ) : ℤ × Stream :=
  devClose e
    (if status ≠ -ENETRESET then s.setDevice d ((s.devices d).stop e.device).2 else s) d status

/-- The session device is connected, and a charger is told. -/
def connectSession : ℤ × Stream :=
  if e.connectSessionDevice ≠ 0 then devStop e s d e.connectSessionDevice
  else
    let t := if s.currentState ≠ STREAM_STOPPED then s.registerDevice d else s
    (if e.tellsCharger d then e.setSessionParamConfig else 0, t)

/-- What follows the open of the device. -/
def connectOpened : ℤ × Stream :=
  if e.setupSessionDevice ≠ 0 then devClose e s d e.setupSessionDevice
  else if s.startsDevice d then
    let r := (s.devices d).start e.device
    if r.1 ≠ 0 then devClose e (s.setDevice d r.2) d r.1
    else connectSession e (s.setDevice d r.2) d
  else if isBtDevice d ∧ s.currentState = STREAM_STOPPED then (0, s)
  else connectSession e s d

/-- The stream has a device of the back end. -/
def sharesBackend : Bool := s.mDevices.any fun c => e.getBackendName c == e.getBackendName d

def connectDevice : ℤ × Stream :=
  if !e.getInstance then (0, s)
  else if s.currentState = STREAM_IDLE ∨ e.cardOnline = false then
    (0, { s with mDevices := s.mDevices ++ [d] })
  else if s.sharesBackend e d then (0, s)
  else
    let r := (s.devices d).open e.device
    if r.1 ≠ 0 then (r.1, s.setDevice d r.2)
    else connectOpened e { s.setDevice d r.2 with mDevices := s.mDevices ++ [d] } d

/-- The label `exit` has a status of its own for a USB headset that is gone. -/
def connectStreamDeviceL : ℤ × Stream :=
  let r := connectDevice e s d
  if e.getInstance ∧ r.1 ≠ 0 ∧ (d = PAL_DEVICE_OUT_USB_HEADSET ∨ d = PAL_DEVICE_IN_USB_HEADSET) ∧
      e.isDeviceConnected = false then
    (-ENOSYS, r.2)
  else r

end Stream

end AudioReachPal.Streams.Connect
