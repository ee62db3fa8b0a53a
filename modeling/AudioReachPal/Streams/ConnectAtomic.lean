import AudioReachPal.Streams.Connect

/-!
# Connecting and disconnecting are atomic

A connect that fails leaves the stream and the device as they were, and one that does not is undone
by the disconnect in the same state. A stream that has a device of the back end is left alone, by
design. Where the source does not undo what it did, or does not do what it should, the connect is
left out here (`RollsBack`, `SkipsStart`): a device that is stopped though it was not started, a start
that counts and fails, one that fails and is not reported, a charger that fails when all is connected.
A disconnect that fails keeps the devices of the stream; it keeps all of the rest exactly when it did
nothing before the call that failed.
-/

namespace AudioReachPal.Streams.Connect

open AudioReachPal.StStream (stream_state_t)

open AudioReachPal.StStream.stream_state_t

/-! ### The device -/

namespace Device

variable {e : DeviceEnv} {d : Device}

/-- A device that is not open is not started. -/
def Steady (d : Device) : Prop := d.deviceCount = 0 → d.deviceStartStopCount = 0

theorem open_ok (h : (d.open e).1 = 0) :
    (d.open e).2 = { d with deviceCount := d.deviceCount + 1 } := by
  unfold Device.open at h ⊢
  split_ifs at h ⊢ with hcount hroute hname
  · exact absurd h hroute
  · exact absurd h hname
  · rfl
  · rfl

theorem open_failed (h : (d.open e).1 ≠ 0) : (d.open e).2 = d := by
  unfold Device.open at h ⊢
  split_ifs at h ⊢ with hcount hroute hname
  · rfl
  · rfl
  · exact absurd rfl h
  · exact absurd rfl h

/-- A start that is not counted, and returns 0. -/
def SkipsStart (e : DeviceEnv) (d : Device) : Prop :=
  match d.deviceClass with
  | .counted => False
  | .unreported => d.deviceStartStopCount = 0 ∧ e.hasBackendName = false
  | .uncounted => True

theorem startL_ok (h : (d.startL e).1 = 0) :
    (d.startL e).2 = { d with deviceStartStopCount := d.deviceStartStopCount + 1 } := by
  unfold Device.startL at h ⊢
  split_ifs at h ⊢ with hcount hbackend
  · have hinvalid : -EINVAL ≠ 0 := by decide
    exact absurd h hinvalid
  · rfl
  · rfl

theorem startL_cases : (d.startL e).2 = { d with
      deviceStartStopCount := d.deviceStartStopCount + 1 } ∨
    (d.startL e).2 = d ∧ d.deviceStartStopCount = 0 ∧ e.hasBackendName = false := by
  unfold Device.startL
  split_ifs with hcount hbackend
  · exact Or.inr ⟨rfl, hcount, by simpa using hbackend⟩
  · exact Or.inl rfl
  · exact Or.inl rfl

theorem start_of_counted (hd : d.deviceClass = .counted) (h : e.classStart = 0) :
    d.start e = d.startL e := by
  unfold Device.start
  rw [if_neg (not_not.mpr h), hd]

theorem start_of_unreported (hd : d.deviceClass = .unreported) (h : e.classStart = 0) :
    d.start e = (0, (d.startL e).2) := by
  unfold Device.start
  rw [if_neg (not_not.mpr h), hd]

theorem start_of_uncounted (hd : d.deviceClass = .uncounted) (h : e.classStart = 0) :
    d.start e = (0, d) := by
  unfold Device.start
  rw [if_neg (not_not.mpr h), hd]

theorem stop_of_counts (hd : d.deviceClass ≠ .uncounted) : (d.stop e).2 = d.stopL := by
  unfold Device.stop
  cases hclass : d.deviceClass with
  | counted | unreported => rfl
  | uncounted => exact absurd hclass hd

theorem stop_of_uncounted (hd : d.deviceClass = .uncounted) : (d.stop e).2 = d := by
  unfold Device.stop
  rw [hd]

theorem classStart_of_start (h : (d.start e).1 = 0) : e.classStart = 0 := by
  by_contra hclass
  unfold Device.start at h
  rw [if_pos hclass] at h
  exact hclass h

theorem start_ok (h : (d.start e).1 = 0) :
    d.deviceClass ≠ .uncounted ∧
        (d.start e).2 = { d with deviceStartStopCount := d.deviceStartStopCount + 1 } ∨
      (d.start e).2 = d ∧ d.SkipsStart e := by
  have hclass := classStart_of_start h
  unfold SkipsStart
  cases hd : d.deviceClass with
  | counted =>
    rw [start_of_counted hd hclass] at h ⊢
    exact Or.inl ⟨by decide, hd ▸ startL_ok h⟩
  | unreported =>
    rw [start_of_unreported hd hclass]
    exact startL_cases.imp (fun hstart => ⟨by decide, hd ▸ hstart⟩) id
  | uncounted =>
    rw [start_of_uncounted hd hclass]
    exact Or.inr ⟨rfl, trivial⟩

/-- A first start that fails, and counts. -/
def LeaksStart (e : DeviceEnv) (d : Device) : Prop :=
  d.deviceClass = .counted ∧ d.deviceStartStopCount = 0 ∧ e.classStart = 0 ∧
    e.hasBackendName = true ∧ e.setCustomPayload ≠ 0

theorem start_failed (h : (d.start e).1 ≠ 0) :
    (d.start e).2 = d ∨ d.LeaksStart e ∧
      (d.start e).2 = { d with deviceStartStopCount := d.deviceStartStopCount + 1 } := by
  by_cases hclass : e.classStart ≠ 0
  · unfold Device.start
    rw [if_pos hclass]
    exact Or.inl rfl
  rw [not_not] at hclass
  cases hd : d.deviceClass with
  | counted =>
    rw [start_of_counted hd hclass] at h ⊢
    unfold Device.startL at h ⊢
    split_ifs at h ⊢ with hcount hbackend
    · exact Or.inl rfl
    · exact Or.inr ⟨⟨hd, hcount, hclass, by simpa using hbackend, h⟩, hd ▸ rfl⟩
    · exact absurd rfl h
  | unreported =>
    rw [start_of_unreported hd hclass] at h
    exact absurd rfl h
  | uncounted =>
    rw [start_of_uncounted hd hclass] at h
    exact absurd rfl h

/-- A device that nobody has started is not stopped. -/
theorem stop_of_zero (h : d.deviceStartStopCount = 0) : (d.stop e).2 = d := by
  by_cases hd : d.deviceClass = .uncounted
  · exact stop_of_uncounted hd
  · rw [stop_of_counts hd]
    unfold Device.stopL
    rw [h, Nat.zero_sub, ← h]

/-- A stop undoes the start, also one that was not counted. -/
theorem stop_start {e' : DeviceEnv} (h : (d.start e).1 = 0) :
    ((d.start e).2.stop e').2 = d := by
  rcases start_ok h with ⟨hd, hstart⟩ | ⟨hstart, hskips⟩
  · rw [hstart]
    exact stop_of_counts (d := { d with deviceStartStopCount := d.deviceStartStopCount + 1 }) hd
  rw [hstart]
  unfold SkipsStart at hskips
  cases hd : d.deviceClass with
  | counted =>
    rw [hd] at hskips
    exact hskips.elim
  | unreported =>
    rw [hd] at hskips
    exact stop_of_zero hskips.1
  | uncounted => exact stop_of_uncounted hd

/-- How often a device is open and started. -/
def total (d : Device) : ℕ := d.deviceCount + d.deviceStartStopCount

theorem total_stop_le (e : DeviceEnv) (d : Device) : (d.stop e).2.total ≤ d.total := by
  by_cases hd : d.deviceClass = .uncounted
  · rw [stop_of_uncounted hd]
  · rw [stop_of_counts hd]
    exact Nat.add_le_add_left (Nat.sub_le ..) _

theorem total_stop_lt (hd : d.deviceClass ≠ .uncounted) (h : 0 < d.deviceStartStopCount) :
    (d.stop e).2.total < d.total := by
  rw [stop_of_counts hd]
  exact Nat.add_lt_add_left (Nat.sub_lt h Nat.one_pos) _

theorem stop_deviceCount (e : DeviceEnv) (d : Device) : (d.stop e).2.deviceCount = d.deviceCount := by
  by_cases hd : d.deviceClass = .uncounted
  · rw [stop_of_uncounted hd]
  · rw [stop_of_counts hd]
    rfl

theorem total_close_le (e : DeviceEnv) (d : Device) : (d.close e).2.total ≤ d.total := by
  unfold Device.close
  dsimp only
  by_cases h : 0 < d.deviceCount
  · rw [if_pos h]
    split_ifs
    · exact Nat.add_le_add (Nat.sub_le ..) (Nat.zero_le _)
    · exact Nat.add_le_add_right (Nat.sub_le ..) _
  · rw [if_neg h]

theorem total_close_lt (h : 0 < d.deviceCount) : (d.close e).2.total < d.total := by
  have hlt : d.deviceCount - 1 < d.deviceCount := Nat.sub_lt h Nat.one_pos
  unfold Device.close
  dsimp only
  rw [if_pos h]
  split_ifs
  · exact Nat.add_lt_add_of_lt_of_le hlt (Nat.zero_le _)
  · exact Nat.add_lt_add_right hlt _

theorem start_deviceCount (e : DeviceEnv) (d : Device) :
    (d.start e).2.deviceCount = d.deviceCount := by
  by_cases h : (d.start e).1 = 0
  · rcases start_ok h with ⟨-, hstart⟩ | ⟨hstart, -⟩ <;> rw [hstart]
  · rcases start_failed h with hstart | ⟨-, hstart⟩ <;> rw [hstart]

/-- A close undoes the open. -/
theorem close_open (h : d.Steady) (n : ℕ) (hn : 0 < d.deviceCount → n = d.deviceStartStopCount) :
    (Device.close e { d with
      deviceCount := d.deviceCount + 1, deviceStartStopCount := n }).2 = d := by
  obtain ⟨deviceClass, count, starts⟩ := d
  unfold Device.close
  dsimp only at hn ⊢
  rw [if_pos (Nat.succ_pos count), Nat.add_sub_cancel]
  by_cases hcount : count = 0
  · rw [if_pos (by omega)]
    have hstarts : starts = 0 := h hcount
    rw [hstarts]
  · rw [if_neg (by omega), hn (by omega)]

end Device

namespace Stream

variable {e e' : Env} {s : Stream} {d : pal_device_id_t} {x : Device}
  {m r : List pal_device_id_t}

/-! ### The states of a call -/

/-- Between the inner calls only the device, the devices of the stream and those registered for it
change. -/
def put (s : Stream) (d : pal_device_id_t) (x : Device) (m r : List pal_device_id_t) : Stream :=
  { s with mDevices := m, devices := Function.update s.devices d x, registered := r }

theorem put_self (s : Stream) (d : pal_device_id_t) :
    s.put d (s.devices d) s.mDevices s.registered = s := by
  unfold put
  rw [Function.update_eq_self]

@[simp] theorem put_device : (s.put d x m r).devices d = x := Function.update_self ..

@[simp] theorem setDevice_put (y : Device) : (s.put d x m r).setDevice d y = s.put d y m r := by
  unfold setDevice put
  rw [Function.update_idem]

theorem currentState_put : (s.put d x m r).currentState = s.currentState := rfl

theorem startsDevice_put : (s.put d x m r).startsDevice d = s.startsDevice d := rfl

/-- The condition of a connect is the one of a disconnect, which has two places for it. -/
theorem stops_eq : (s.stopsEarly e d || s.stopsLate e d) = s.startsDevice d := by
  unfold stopsLate
  cases hearly : s.stopsEarly e d with
  | false => simp
  | true =>
    have hstate : (s.currentState ≠ STREAM_INIT && s.currentState ≠ STREAM_STOPPED) = true := by
      unfold stopsEarly at hearly
      rw [Bool.and_eq_true, Bool.and_eq_true] at hearly
      exact hearly.1.1
    unfold startsDevice
    rw [hstate]
    rfl

/-! ### Conditions -/

/-- A connect that fails has to undo no more than it does. -/
structure RollsBack (e : Env) (s : Stream) (d : pal_device_id_t) : Prop where
  /-- Where the session device cannot be connected the device is stopped, started or not. -/
  stops : e.setupSessionDevice = 0 → e.connectSessionDevice ≠ 0 →
    s.startsDevice d = true ∨ (s.devices d).deviceStartStopCount = 0
  /-- Where the device cannot be started it is not stopped. -/
  starts : e.setupSessionDevice = 0 → s.startsDevice d = true →
    (s.devices d).LeaksStart e.device → (s.devices d).deviceCount = 0
  /-- Where the charger cannot be told the device stays connected. -/
  charger : e.setupSessionDevice = 0 → e.connectSessionDevice = 0 → e.tellsCharger d = true →
    e.setSessionParamConfig = 0

/-- A disconnect did nothing before the call that fails. -/
structure Undisturbed (e : Env) (s : Stream) (d : pal_device_id_t) : Prop where
  registered : s.currentState = STREAM_STOPPED ∨ d ∉ s.registered
  stops : s.stopsEarly e d = false
  session : e.disconnectSessionDevice ≠ 0

/-- The device is open, and it is started when the stream has started it. -/
structure Used (s : Stream) (d : pal_device_id_t) : Prop where
  opened : 0 < (s.devices d).deviceCount
  started : s.startsDevice d = true →
    (s.devices d).deviceClass ≠ .uncounted ∧ 0 < (s.devices d).deviceStartStopCount

/-- No inner call of a connect was reset. -/
structure NotReset (e : Env) : Prop where
  setup : e.setupSessionDevice ≠ -ENETRESET
  start : e.device.classStart ≠ -ENETRESET ∧ e.device.setCustomPayload ≠ -ENETRESET
  connect : e.connectSessionDevice ≠ -ENETRESET

/-! ### Connect -/

/-- What is registered after a connect. -/
def registers (s : Stream) (d : pal_device_id_t) : List pal_device_id_t :=
  if s.currentState ≠ STREAM_STOPPED then
    if d ∈ s.registered then s.registered else s.registered ++ [d]
  else s.registered

theorem devClose_put {status : ℤ} (h : status ≠ -ENETRESET) :
    (devClose e (s.put d x m r) d status).2 = s.put d (x.close e.device).2 m.dropLast r := by
  unfold devClose
  dsimp only
  rw [if_pos h, setDevice_put, put_device]
  rfl

theorem devStop_put {status : ℤ} (h : status ≠ -ENETRESET) :
    (devStop e (s.put d x m r) d status).2 =
      s.put d ((x.stop e.device).2.close e.device).2 m.dropLast r := by
  unfold devStop
  rw [if_pos h, setDevice_put, put_device, devClose_put h]

theorem connectSession_ok (h : (connectSession e (s.put d x m s.registered) d).1 = 0) :
    (connectSession e (s.put d x m s.registered) d).2 = s.put d x m (s.registers d) := by
  unfold connectSession at h ⊢
  by_cases hconnect : e.connectSessionDevice ≠ 0
  · rw [if_pos hconnect] at h
    exact absurd h hconnect
  · rw [if_neg hconnect]
    unfold registers
    by_cases hstate : s.currentState ≠ STREAM_STOPPED
    · rw [if_pos hstate]
      exact if_pos hstate
    · rw [if_neg hstate]
      exact if_neg hstate

theorem connectSession_failed (h : (connectSession e (s.put d x m r) d).1 ≠ 0)
    (hcharger : e.connectSessionDevice = 0 → e.tellsCharger d = true →
      e.setSessionParamConfig = 0) (hreset : e.connectSessionDevice ≠ -ENETRESET) :
    e.connectSessionDevice ≠ 0 ∧ (connectSession e (s.put d x m r) d).2 =
      s.put d ((x.stop e.device).2.close e.device).2 m.dropLast r := by
  unfold connectSession at h ⊢
  by_cases hconnect : e.connectSessionDevice ≠ 0
  · rw [if_pos hconnect]
    exact ⟨hconnect, devStop_put hreset⟩
  · rw [if_neg hconnect] at h
    dsimp only at h
    split_ifs at h with htell
    · exact absurd (hcharger (not_not.mp hconnect) htell) h
    · exact absurd rfl h

theorem start_ne_reset (hreset : NotReset e) {y : Device} (h : (y.start e.device).1 ≠ 0) :
    (y.start e.device).1 ≠ -ENETRESET := by
  unfold Device.start at h ⊢
  by_cases hclass : e.device.classStart ≠ 0
  · rw [if_pos hclass]
    exact hreset.start.1
  rw [if_neg hclass] at h ⊢
  cases hd : y.deviceClass with
  | counted =>
    rw [hd] at h
    dsimp only at h ⊢
    unfold Device.startL at h ⊢
    split_ifs at h ⊢ with hcount hbackend
    · have hinvalid : -EINVAL ≠ -ENETRESET := by decide
      exact hinvalid
    · exact hreset.start.2
    · exact absurd rfl h
  | unreported | uncounted =>
    rw [hd] at h
    exact absurd rfl h

/-- The device after a connect: open, and started with the stream. -/
def counted (e : Env) (s : Stream) (d : pal_device_id_t) (x : Device) : Device :=
  if s.startsDevice d then (x.start e.device).2 else x

theorem counted_of_starts (h : s.startsDevice d = true) (x : Device) :
    counted e s d x = (x.start e.device).2 := if_pos h

theorem counted_of_not (h : s.startsDevice d = false) (x : Device) : counted e s d x = x :=
  if_neg (by rw [h]; exact Bool.false_ne_true)

theorem connectOpened_ok (h : (connectOpened e (s.put d x m s.registered) d).1 = 0) :
    (connectOpened e (s.put d x m s.registered) d).2 =
        s.put d (counted e s d x) m (s.registers d) ∧
      (s.startsDevice d = true → (x.start e.device).1 = 0) := by
  unfold connectOpened at h ⊢
  by_cases hsetup : e.setupSessionDevice ≠ 0
  · rw [if_pos hsetup] at h
    exact absurd h hsetup
  rw [if_neg hsetup, startsDevice_put, put_device] at h ⊢
  cases hstarts : s.startsDevice d with
  | true =>
    rw [hstarts, if_pos rfl] at h
    rw [if_pos rfl, counted_of_starts hstarts]
    dsimp only at h ⊢
    by_cases hstart : (x.start e.device).1 ≠ 0
    · rw [if_pos hstart] at h
      exact absurd h hstart
    · rw [if_neg hstart, setDevice_put] at h ⊢
      exact ⟨connectSession_ok h, fun _ => not_not.mp hstart⟩
  | false =>
    rw [hstarts, if_neg Bool.false_ne_true] at h
    rw [currentState_put] at h
    rw [if_neg Bool.false_ne_true, counted_of_not hstarts, currentState_put]
    refine ⟨?_, fun hstarted => absurd hstarted Bool.false_ne_true⟩
    by_cases hstopped : isBtDevice d = true ∧ s.currentState = STREAM_STOPPED
    · rw [if_pos hstopped]
      unfold registers
      rw [if_neg (not_not.mpr hstopped.2)]
    · rw [if_neg hstopped] at h ⊢
      exact connectSession_ok h

/-- A failure after the open leaves the device to one close. -/
theorem connectOpened_failed (hok : RollsBack e s d) (hreset : NotReset e)
    (hsteady : (s.devices d).Steady)
    (hx : x = { s.devices d with deviceCount := (s.devices d).deviceCount + 1 })
    (h : (connectOpened e (s.put d x (s.mDevices ++ [d]) s.registered) d).1 ≠ 0) :
    (connectOpened e (s.put d x (s.mDevices ++ [d]) s.registered) d).2 = s := by
  have hclosed : ∀ n, (0 < (s.devices d).deviceCount → n = (s.devices d).deviceStartStopCount) →
      s.put d (Device.close e.device { x with deviceStartStopCount := n }).2
        (s.mDevices ++ [d]).dropLast s.registered = s := by
    intro n hn
    subst hx
    rw [Device.close_open hsteady n hn, List.dropLast_concat]
    exact put_self s d
  have hself : x = { x with deviceStartStopCount := (s.devices d).deviceStartStopCount } := by
    rw [hx]
  unfold connectOpened at h ⊢
  by_cases hsetup : e.setupSessionDevice ≠ 0
  · rw [if_pos hsetup, devClose_put hreset.setup, hself]
    exact hclosed _ fun _ => rfl
  have hsetup₀ := not_not.mp hsetup
  rw [if_neg hsetup, startsDevice_put, put_device] at h ⊢
  cases hstarts : s.startsDevice d with
  | true =>
    rw [hstarts, if_pos rfl] at h
    rw [if_pos rfl]
    dsimp only at h ⊢
    by_cases hstart : (x.start e.device).1 ≠ 0
    · rw [if_pos hstart, setDevice_put, devClose_put (start_ne_reset hreset hstart)]
      rcases Device.start_failed hstart with heq | ⟨hleaks, heq⟩
      · rw [heq, hself]
        exact hclosed _ fun _ => rfl
      · rw [heq]
        refine hclosed _ fun hopen => ?_
        have hleaks : (s.devices d).LeaksStart e.device := by
          rw [hx] at hleaks
          exact hleaks
        have hcount := hok.starts hsetup₀ hstarts hleaks
        omega
    · rw [if_neg hstart, setDevice_put] at h ⊢
      obtain ⟨-, heq⟩ := connectSession_failed h (hok.charger hsetup₀) hreset.connect
      rw [heq, Device.stop_start (not_not.mp hstart), hself]
      exact hclosed _ fun _ => rfl
  | false =>
    rw [hstarts, if_neg Bool.false_ne_true] at h
    rw [currentState_put] at h
    rw [if_neg Bool.false_ne_true, currentState_put]
    by_cases hstopped : isBtDevice d = true ∧ s.currentState = STREAM_STOPPED
    · rw [if_pos hstopped] at h
      exact absurd rfl h
    · rw [if_neg hstopped] at h ⊢
      obtain ⟨hconnect, heq⟩ := connectSession_failed h (hok.charger hsetup₀) hreset.connect
      have hzero : x.deviceStartStopCount = 0 := by
        rw [hx]
        exact (hok.stops hsetup₀ hconnect).resolve_left (by rw [hstarts]; exact Bool.false_ne_true)
      rw [heq, Device.stop_of_zero hzero, hself]
      exact hclosed _ fun _ => rfl

/-- A connect that gets to the device. -/
structure Reaches (e : Env) (s : Stream) (d : pal_device_id_t) : Prop where
  getInstance : e.getInstance = true
  active : s.currentState ≠ STREAM_IDLE
  cardOnline : e.cardOnline = true
  alone : s.sharesBackend e d = false

theorem connectDevice_eq (h : Reaches e s d) : connectDevice e s d =
    if ((s.devices d).open e.device).1 ≠ 0 then
      (((s.devices d).open e.device).1, s.setDevice d ((s.devices d).open e.device).2)
    else connectOpened e
      (s.put d ((s.devices d).open e.device).2 (s.mDevices ++ [d]) s.registered) d := by
  have hidle : ¬(s.currentState = STREAM_IDLE ∨ e.cardOnline = false) := by
    rintro (hidle | hcard)
    · exact h.active hidle
    · rw [h.cardOnline] at hcard
      cases hcard
  unfold connectDevice
  rw [h.getInstance, if_neg (by decide), if_neg hidle, h.alone, if_neg Bool.false_ne_true]
  rfl

/-- The device with its open counted. -/
def opened (s : Stream) (d : pal_device_id_t) : Device :=
  { s.devices d with deviceCount := (s.devices d).deviceCount + 1 }

theorem connectDevice_ok (h : Reaches e s d) (hzero : (connectDevice e s d).1 = 0) :
    (connectDevice e s d).2 =
        s.put d (counted e s d (s.opened d)) (s.mDevices ++ [d]) (s.registers d) ∧
      (s.startsDevice d = true → ((s.opened d).start e.device).1 = 0) := by
  rw [connectDevice_eq h] at hzero ⊢
  by_cases hopen : ((s.devices d).open e.device).1 ≠ 0
  · rw [if_pos hopen] at hzero
    exact absurd hzero hopen
  · rw [if_neg hopen] at hzero ⊢
    rw [Device.open_ok (not_not.mp hopen)] at hzero ⊢
    exact connectOpened_ok hzero

theorem connectDevice_failed (h : Reaches e s d) (hok : RollsBack e s d) (hreset : NotReset e)
    (hsteady : (s.devices d).Steady) (hne : (connectDevice e s d).1 ≠ 0) :
    (connectDevice e s d).2 = s := by
  rw [connectDevice_eq h] at hne ⊢
  by_cases hopen : ((s.devices d).open e.device).1 ≠ 0
  · rw [if_pos hopen]
    dsimp only
    rw [Device.open_failed hopen]
    exact put_self s d
  · rw [if_neg hopen] at hne ⊢
    exact connectOpened_failed hok hreset hsteady (Device.open_ok (not_not.mp hopen)) hne

/-- The exit changes the status of a failure only. -/
theorem connectStreamDeviceL_eq (e : Env) (s : Stream) (d : pal_device_id_t) :
    (s.connectStreamDeviceL e d).2 = (connectDevice e s d).2 ∧
      ((s.connectStreamDeviceL e d).1 = 0 ↔ (connectDevice e s d).1 = 0) := by
  unfold connectStreamDeviceL
  dsimp only
  split_ifs with hexit
  · have hsys : -ENOSYS ≠ 0 := by decide
    exact ⟨rfl, fun h => absurd h hsys, fun h => absurd h hexit.2.1⟩
  · exact ⟨rfl, Iff.rfl⟩

/-! ### Disconnect -/

/-- What is registered after a disconnect. -/
def deregisters (s : Stream) (d : pal_device_id_t) : List pal_device_id_t :=
  if s.currentState ≠ STREAM_STOPPED then s.registered.erase d else s.registered

theorem closeDevice_ok (h : (closeDevice e (s.put d x m r) d).1 = 0) :
    (closeDevice e (s.put d x m r) d).2 = s.put d (x.close e.device).2 (m.erase d) r := by
  unfold closeDevice at h ⊢
  rw [put_device] at h ⊢
  dsimp only at h ⊢
  by_cases hclose : (x.close e.device).1 ≠ 0
  · rw [if_pos hclose] at h
    exact absurd h hclose
  · rw [if_neg hclose, setDevice_put]
    rfl

/-- The device after it is stopped where a disconnect stops it. -/
def lowered (e : Env) (b : Bool) (x : Device) : Device := if b then (x.stop e.device).2 else x

theorem disconnectSession_ok (h : (disconnectSession e (s.put d x m r) d s).1 = 0) :
    (disconnectSession e (s.put d x m r) d s).2 =
      s.put d ((lowered e (s.stopsLate e d) x).close e.device).2 (m.erase d) r := by
  unfold disconnectSession at h ⊢
  by_cases hsession : e.disconnectSessionDevice ≠ 0
  · rw [if_pos hsession] at h
    exact absurd h hsession
  rw [if_neg hsession] at h ⊢
  rw [put_device] at h ⊢
  cases hlate : s.stopsLate e d with
  | true =>
    rw [hlate, if_pos rfl] at h
    rw [if_pos rfl]
    dsimp only at h ⊢
    by_cases hstop : (x.stop e.device).1 ≠ 0
    · rw [if_pos hstop] at h
      exact absurd h hstop
    · rw [if_neg hstop, setDevice_put] at h ⊢
      exact closeDevice_ok h
  | false =>
    rw [hlate, if_neg Bool.false_ne_true] at h
    rw [if_neg Bool.false_ne_true]
    exact closeDevice_ok h

/-- A disconnect that gets to the device. -/
structure Leaves (e : Env) (s : Stream) (d : pal_device_id_t) : Prop where
  active : s.currentState ≠ STREAM_IDLE
  cardOnline : e.cardOnline = true
  has : d ∈ s.mDevices

theorem disconnectStreamDeviceL_eq (h : Leaves e s d) : s.disconnectStreamDeviceL e d =
    let t := s.put d (s.devices d) s.mDevices (s.deregisters d)
    if s.stopsEarly e d then
      if ((s.devices d).stop e.device).1 ≠ 0 then
        (((s.devices d).stop e.device).1,
          s.put d ((s.devices d).stop e.device).2 s.mDevices (s.deregisters d))
      else disconnectSession e
        (s.put d ((s.devices d).stop e.device).2 s.mDevices (s.deregisters d)) d s
    else disconnectSession e t d s := by
  have hidle : ¬(s.currentState = STREAM_IDLE ∨ e.cardOnline = false) := by
    rintro (hidle | hcard)
    · exact h.active hidle
    · rw [h.cardOnline] at hcard
      cases hcard
  have hderegistered : (if s.currentState ≠ STREAM_STOPPED then s.deregisterDevice d else s) =
      s.put d (s.devices d) s.mDevices (s.deregisters d) := by
    unfold deregisters
    by_cases hstate : s.currentState ≠ STREAM_STOPPED
    · rw [if_pos hstate, if_pos hstate]
      unfold put
      rw [Function.update_eq_self]
      rfl
    · rw [if_neg hstate, if_neg hstate]
      exact (put_self s d).symm
  unfold disconnectStreamDeviceL
  rw [if_neg hidle, if_pos h.has, hderegistered]
  dsimp only
  rw [put_device, setDevice_put]

theorem disconnectStreamDeviceL_ok (h : Leaves e s d)
    (hzero : (s.disconnectStreamDeviceL e d).1 = 0) : (s.disconnectStreamDeviceL e d).2 =
      s.put d ((lowered e (s.startsDevice d) (s.devices d)).close e.device).2
        (s.mDevices.erase d) (s.deregisters d) := by
  rw [← stops_eq (e := e)]
  rw [disconnectStreamDeviceL_eq h] at hzero ⊢
  dsimp only at hzero ⊢
  cases hearly : s.stopsEarly e d with
  | true =>
    rw [hearly, if_pos rfl] at hzero
    rw [if_pos rfl, Bool.true_or]
    by_cases hstop : ((s.devices d).stop e.device).1 ≠ 0
    · rw [if_pos hstop] at hzero
      exact absurd hzero hstop
    · rw [if_neg hstop] at hzero ⊢
      rw [disconnectSession_ok hzero]
      have hlate : s.stopsLate e d = false := by
        unfold stopsLate
        rw [hearly, Bool.not_true, Bool.and_false]
      rw [hlate]
      rfl
  | false =>
    rw [hearly, if_neg Bool.false_ne_true] at hzero
    rw [if_neg Bool.false_ne_true, Bool.false_or]
    exact disconnectSession_ok hzero

theorem closeDevice_failed (h : (closeDevice e (s.put d x m r) d).1 ≠ 0) :
    (closeDevice e (s.put d x m r) d).2 = s.put d (x.close e.device).2 m r := by
  unfold closeDevice at h ⊢
  rw [put_device] at h ⊢
  dsimp only at h ⊢
  by_cases hclose : (x.close e.device).1 ≠ 0
  · rw [if_pos hclose, setDevice_put]
  · rw [if_neg hclose] at h
    exact absurd rfl h

/-- A failure is the one of the session device, or something was stopped or closed before. -/
theorem disconnectSession_failed (h : (disconnectSession e (s.put d x m r) d s).1 ≠ 0) :
    ∃ y, (disconnectSession e (s.put d x m r) d s).2 = s.put d y m r ∧ y.total ≤ x.total ∧
      (e.disconnectSessionDevice ≠ 0 → y = x) ∧
      (e.disconnectSessionDevice = 0 → 0 < x.deviceCount → (s.stopsLate e d = true →
        x.deviceClass ≠ .uncounted ∧ 0 < x.deviceStartStopCount) → y.total < x.total) := by
  unfold disconnectSession at h ⊢
  by_cases hsession : e.disconnectSessionDevice ≠ 0
  · rw [if_pos hsession]
    exact ⟨x, rfl, le_rfl, fun _ => rfl, fun hzero => absurd hzero hsession⟩
  rw [if_neg hsession] at h ⊢
  rw [put_device] at h ⊢
  cases hlate : s.stopsLate e d with
  | true =>
    rw [hlate, if_pos rfl] at h
    rw [if_pos rfl]
    dsimp only at h ⊢
    have hle := Device.total_stop_le e.device x
    by_cases hstop : (x.stop e.device).1 ≠ 0
    · rw [if_pos hstop, setDevice_put]
      refine ⟨_, rfl, hle, fun hne => absurd hne hsession, fun _ _ hstarted => ?_⟩
      exact Device.total_stop_lt (hstarted rfl).1 (hstarted rfl).2
    · rw [if_neg hstop, setDevice_put] at h ⊢
      refine ⟨_, closeDevice_failed h, (Device.total_close_le ..).trans hle,
        fun hne => absurd hne hsession, fun _ hopen _ => ?_⟩
      rw [← Device.stop_deviceCount e.device x] at hopen
      exact (Device.total_close_lt hopen).trans_le hle
  | false =>
    rw [hlate, if_neg Bool.false_ne_true] at h
    rw [if_neg Bool.false_ne_true]
    exact ⟨_, closeDevice_failed h, Device.total_close_le .., fun hne => absurd hne hsession,
      fun _ hopen _ => Device.total_close_lt hopen⟩

theorem leaves_of_failed (hne : (s.disconnectStreamDeviceL e d).1 ≠ 0) : Leaves e s d := by
  unfold disconnectStreamDeviceL at hne
  by_cases hidle : s.currentState = STREAM_IDLE ∨ e.cardOnline = false
  · rw [if_pos hidle] at hne
    exact absurd rfl hne
  · rw [if_neg hidle] at hne
    by_cases hhas : d ∈ s.mDevices
    · exact ⟨fun h => hidle (Or.inl h), by simpa using fun h => hidle (Or.inr h), hhas⟩
    · rw [if_neg hhas] at hne
      exact absurd rfl hne

/-- A disconnect that fails keeps the devices of the stream. -/
theorem disconnectStreamDeviceL_failed (hne : (s.disconnectStreamDeviceL e d).1 ≠ 0) :
    ∃ y, (s.disconnectStreamDeviceL e d).2 = s.put d y s.mDevices (s.deregisters d) ∧
      (s.stopsEarly e d = false → e.disconnectSessionDevice ≠ 0 → y = s.devices d) ∧
      (Used s d → y = s.devices d →
        s.stopsEarly e d = false ∧ e.disconnectSessionDevice ≠ 0) := by
  have hleaves := leaves_of_failed hne
  rw [disconnectStreamDeviceL_eq hleaves] at hne ⊢
  dsimp only at hne ⊢
  cases hearly : s.stopsEarly e d with
  | true =>
    have hstarts : s.startsDevice d = true := by
      rw [← stops_eq (e := e), hearly, Bool.true_or]
    have hlt : Used s d → ((s.devices d).stop e.device).2.total < (s.devices d).total :=
      fun hused => Device.total_stop_lt (hused.started hstarts).1 (hused.started hstarts).2
    rw [hearly, if_pos rfl] at hne
    rw [if_pos rfl]
    by_cases hstop : ((s.devices d).stop e.device).1 ≠ 0
    · rw [if_pos hstop]
      refine ⟨_, rfl, fun hfalse => (nomatch hfalse), fun hused hsame => ?_⟩
      exact absurd (congrArg Device.total hsame) (hlt hused).ne
    · rw [if_neg hstop] at hne ⊢
      obtain ⟨y, hy, hle, -, -⟩ := disconnectSession_failed hne
      refine ⟨y, hy, fun hfalse => (nomatch hfalse), fun hused hsame => ?_⟩
      exact absurd (congrArg Device.total hsame) (hle.trans_lt (hlt hused)).ne
  | false =>
    rw [hearly, if_neg Bool.false_ne_true] at hne
    rw [if_neg Bool.false_ne_true]
    obtain ⟨y, hy, -, hkept, hlt⟩ := disconnectSession_failed hne
    refine ⟨y, hy, fun _ => hkept, fun hused hsame => ⟨rfl, fun hzero => ?_⟩⟩
    have hlate : s.stopsLate e d = true → s.startsDevice d = true := by
      intro hlate
      rw [← stops_eq (e := e), hlate, Bool.or_true]
    exact absurd (congrArg Device.total hsame)
      (hlt hzero hused.opened fun h => hused.started (hlate h)).ne

theorem deregisters_eq :
    s.deregisters d = s.registered ↔ s.currentState = STREAM_STOPPED ∨ d ∉ s.registered := by
  unfold deregisters
  by_cases hstate : s.currentState ≠ STREAM_STOPPED
  · rw [if_pos hstate, or_iff_right hstate]
    refine ⟨fun hsame hmem => ?_, List.erase_of_not_mem⟩
    have hlength := List.length_erase_of_mem hmem
    have hpos := List.length_pos_of_mem hmem
    rw [hsame] at hlength
    omega
  · rw [if_neg hstate]
    exact ⟨fun _ => Or.inl (not_not.mp hstate), fun _ => rfl⟩

theorem put_eq_self (h : s.put d x m r = s) :
    x = s.devices d ∧ m = s.mDevices ∧ r = s.registered := by
  refine ⟨?_, congrArg Stream.mDevices h, congrArg Stream.registered h⟩
  have hdevice := congrArg (fun t => t.devices d) h
  rwa [put_device] at hdevice

/-- What a disconnect that fails keeps. -/
theorem disconnectStreamDeviceL_kept (hne : (s.disconnectStreamDeviceL e d).1 ≠ 0) :
    (s.disconnectStreamDeviceL e d).2.mDevices = s.mDevices ∧
      (Undisturbed e s d → (s.disconnectStreamDeviceL e d).2 = s) ∧
      (Used s d → (s.disconnectStreamDeviceL e d).2 = s → Undisturbed e s d) := by
  obtain ⟨y, hy, hkept, hused⟩ := disconnectStreamDeviceL_failed hne
  rw [hy]
  refine ⟨rfl, fun hok => ?_, fun huse hsame => ?_⟩
  · rw [hkept hok.stops hok.session, deregisters_eq.mpr hok.registered]
    exact put_self s d
  · obtain ⟨hdevice, -, hregistered⟩ := put_eq_self hsame
    obtain ⟨hstops, hsession⟩ := hused huse hdevice
    exact ⟨deregisters_eq.mp hregistered, hstops, hsession⟩

/-! ### Both -/

theorem put_put {y : Device} {m' r' : List pal_device_id_t} :
    (s.put d x m r).put d y m' r' = s.put d y m' r' := by
  unfold put
  rw [Function.update_idem]

theorem not_mem_of_alone (h : s.sharesBackend e d = false) : d ∉ s.mDevices := by
  intro hmem
  unfold sharesBackend at h
  rw [List.any_eq_false] at h
  exact h d hmem (beq_self_eq_true _)

/-- What is registered comes back, where the device was not. -/
theorem deregisters_registers (h : d ∉ s.registered) :
    (s.put d x m (s.registers d)).deregisters d = s.registered := by
  unfold deregisters registers
  rw [currentState_put]
  by_cases hstate : s.currentState ≠ STREAM_STOPPED
  · rw [if_pos hstate, if_pos hstate, if_neg h]
    change (s.registered ++ [d]).erase d = s.registered
    rw [List.erase_append_right _ h, List.erase_cons_head, List.append_nil]
  · rw [if_neg hstate, if_neg hstate]
    rfl

theorem lowered_counted (h : s.startsDevice d = true → (x.start e.device).1 = 0) :
    lowered e' (s.startsDevice d) (counted e s d x) = x := by
  unfold lowered counted
  cases hstarts : s.startsDevice d with
  | true => exact Device.stop_start (h hstarts)
  | false => rfl

theorem counted_deviceCount (e : Env) (s : Stream) (d : pal_device_id_t) (x : Device) :
    (counted e s d x).deviceCount = x.deviceCount := by
  unfold counted
  split_ifs
  · exact Device.start_deviceCount e.device x
  · rfl

theorem counted_deviceStartStopCount (h : s.startsDevice d = true → (x.start e.device).1 = 0)
    (hskips : ¬(s.startsDevice d = true ∧ x.SkipsStart e.device)) :
    (counted e s d x).deviceStartStopCount =
      x.deviceStartStopCount + if s.startsDevice d then 1 else 0 := by
  unfold counted
  cases hstarts : s.startsDevice d with
  | true =>
    rcases Device.start_ok (h hstarts) with ⟨-, hstart⟩ | ⟨-, hskipped⟩
    · rw [if_pos rfl, hstart]
      rfl
    · exact absurd ⟨hstarts, hskipped⟩ hskips
  | false => rfl

/-- What a connect and a disconnect keep, with the answers `e` and `e'`. -/
structure Atomic (e e' : Env) (s : Stream) (d : pal_device_id_t) : Prop where
  /-- A stream that has a device of the back end is left alone. -/
  shared : s.sharesBackend e d = true → s.connectStreamDeviceL e d = (0, s)
  connects : s.sharesBackend e d = false → (s.connectStreamDeviceL e d).1 = 0 →
    let t := (s.connectStreamDeviceL e d).2
    d ∈ t.mDevices ∧ (t.devices d).deviceCount = (s.devices d).deviceCount + 1 ∧
      (¬(s.startsDevice d = true ∧ (s.devices d).SkipsStart e.device) →
        (t.devices d).deviceStartStopCount = (s.devices d).deviceStartStopCount +
          if t.stopsEarly e' d || t.stopsLate e' d then 1 else 0)
  connectFails : s.sharesBackend e d = false → RollsBack e s d →
    (s.connectStreamDeviceL e d).1 ≠ 0 → (s.connectStreamDeviceL e d).2 = s
  /-- The devices of the stream stay; the rest stays when nothing was done before, and only then. -/
  disconnectFails : (s.disconnectStreamDeviceL e' d).1 ≠ 0 →
    (s.disconnectStreamDeviceL e' d).2.mDevices = s.mDevices ∧
      (Undisturbed e' s d → (s.disconnectStreamDeviceL e' d).2 = s) ∧
      (Used s d → (s.disconnectStreamDeviceL e' d).2 = s → Undisturbed e' s d)
  restores : s.sharesBackend e d = false → (s.connectStreamDeviceL e d).1 = 0 →
    ((s.connectStreamDeviceL e d).2.disconnectStreamDeviceL e' d).1 = 0 →
    ((s.connectStreamDeviceL e d).2.disconnectStreamDeviceL e' d).2 = s

/-- **Connecting and disconnecting are atomic.** -/
theorem connect_atomic (hactive : s.currentState ≠ STREAM_IDLE) (hcard : e.cardOnline = true)
    (hcard' : e'.cardOnline = true) (hinstance : e.getInstance = true) (hreset : NotReset e)
    (hsteady : (s.devices d).Steady) (hregistered : d ∈ s.registered → d ∈ s.mDevices) :
    Atomic e e' s d := by
  have hreaches : s.sharesBackend e d = false → Reaches e s d :=
    fun halone => ⟨hinstance, hactive, hcard, halone⟩
  have hsame := connectStreamDeviceL_eq e s d
  have hconnected : s.sharesBackend e d = false → (s.connectStreamDeviceL e d).1 = 0 →
      (s.connectStreamDeviceL e d).2 =
          s.put d (counted e s d (s.opened d)) (s.mDevices ++ [d]) (s.registers d) ∧
        (s.startsDevice d = true → ((s.opened d).start e.device).1 = 0) := by
    intro halone hzero
    rw [hsame.1]
    exact connectDevice_ok (hreaches halone) (hsame.2.mp hzero)
  refine ⟨?_, ?_, ?_, disconnectStreamDeviceL_kept, ?_⟩
  · intro hshares
    have hidle : ¬(s.currentState = STREAM_IDLE ∨ e.cardOnline = false) := by
      rintro (hidle | hoff)
      · exact hactive hidle
      · rw [hcard] at hoff
        cases hoff
    have hdevice : connectDevice e s d = (0, s) := by
      unfold connectDevice
      rw [hinstance, if_neg (by decide), if_neg hidle, if_pos hshares]
    unfold connectStreamDeviceL
    rw [hdevice]
    exact if_neg fun hexit => hexit.2.1 rfl
  · intro halone hzero
    obtain ⟨heq, hstarted⟩ := hconnected halone hzero
    dsimp only
    rw [stops_eq, heq, startsDevice_put, put_device]
    exact ⟨List.mem_append_right _ (List.mem_singleton_self d), counted_deviceCount ..,
      counted_deviceStartStopCount hstarted⟩
  · intro halone hok hne
    rw [hsame.1]
    have hne' : (connectDevice e s d).1 ≠ 0 := fun hzero => hne (hsame.2.mpr hzero)
    exact connectDevice_failed (hreaches halone) hok hreset hsteady hne'
  · intro halone hzero hzero'
    have hnot : d ∉ s.mDevices := not_mem_of_alone halone
    obtain ⟨heq, hstarted⟩ := hconnected halone hzero
    rw [heq] at hzero' ⊢
    have hleaves : Leaves e' (s.put d (counted e s d (s.opened d)) (s.mDevices ++ [d])
        (s.registers d)) d :=
      ⟨hactive, hcard', List.mem_append_right _ (List.mem_singleton_self d)⟩
    rw [disconnectStreamDeviceL_ok hleaves hzero', put_put, startsDevice_put, put_device,
      lowered_counted hstarted, deregisters_registers fun hmem => hnot (hregistered hmem)]
    have hdevices : (s.mDevices ++ [d]).erase d = s.mDevices := by
      rw [List.erase_append_right _ hnot, List.erase_cons_head, List.append_nil]
    change s.put d _ ((s.mDevices ++ [d]).erase d) _ = s
    rw [hdevices]
    unfold opened
    rw [Device.close_open hsteady _ fun _ => rfl]
    exact put_self s d

/-- A stream started on the A2DP device, whose speaker others have started, and the same stream with
the speaker only, stopped. The session refuses the speaker to the one and keeps the other's. -/
theorem speaker_atomic :
    let back : pal_device_id_t → String := fun d => if d = PAL_DEVICE_OUT_SPEAKER then "RX" else "BT"
    let e : Env := { getBackendName := back, connectSessionDevice := -EINVAL }
    let e' : Env := { getBackendName := back, isSpeakerProtectionEnabled := true
                      disconnectSessionDevice := -EINVAL }
    let s : Stream :=
      { currentState := STREAM_STARTED, mDevices := [PAL_DEVICE_OUT_BLUETOOTH_A2DP]
        registered := [PAL_DEVICE_OUT_BLUETOOTH_A2DP]
        devices := fun _ => { deviceCount := 1, deviceStartStopCount := 1 } }
    let t : Stream := { s with currentState := STREAM_STOPPED, mDevices := [PAL_DEVICE_OUT_SPEAKER] }
    (Atomic e e' s PAL_DEVICE_OUT_SPEAKER ∧ Atomic e e' t PAL_DEVICE_OUT_SPEAKER) ∧
      s.connectStreamDeviceL e PAL_DEVICE_OUT_SPEAKER = (-EINVAL, s) ∧
      t.disconnectStreamDeviceL e' PAL_DEVICE_OUT_SPEAKER = (-EINVAL, t) := by
  intro back e e' s t
  have hs : Atomic e e' s PAL_DEVICE_OUT_SPEAKER :=
    connect_atomic (by decide) rfl rfl rfl ⟨by decide, by decide, by decide⟩
      (fun hzero => nomatch hzero) fun hmem => hmem
  have ht : Atomic e e' t PAL_DEVICE_OUT_SPEAKER :=
    connect_atomic (by decide) rfl rfl rfl ⟨by decide, by decide, by decide⟩
      (fun hzero => nomatch hzero) fun hmem => absurd hmem (by decide)
  have hrolls : RollsBack e s PAL_DEVICE_OUT_SPEAKER :=
    ⟨fun _ _ => Or.inl rfl, fun _ _ hleaks => (nomatch hleaks.2.1), fun _ hzero => (nomatch hzero)⟩
  have hundisturbed : Undisturbed e' t PAL_DEVICE_OUT_SPEAKER :=
    ⟨Or.inl rfl, rfl, by decide⟩
  exact ⟨⟨hs, ht⟩, Prod.ext rfl (hs.connectFails rfl hrolls (by decide)),
    Prod.ext rfl ((ht.disconnectFails (by decide)).2.1 hundisturbed)⟩

/-- A stream that has the speaker does not open it once more. -/
theorem connected_speaker_not_opened : ¬∀ (e : Env) (s : Stream) (d : pal_device_id_t),
    s.currentState ≠ STREAM_IDLE → e.cardOnline = true → NotReset e →
    (s.connectStreamDeviceL e d).1 = 0 →
    d ∈ (s.connectStreamDeviceL e d).2.mDevices ∧
      ((s.connectStreamDeviceL e d).2.devices d).deviceCount =
        (s.devices d).deviceCount + 1 := by
  intro h
  have hopened := h { getBackendName := fun _ => "RX" }
    { currentState := STREAM_STARTED, mDevices := [PAL_DEVICE_OUT_SPEAKER]
      devices := fun _ => { deviceCount := 1, deviceStartStopCount := 1 } }
    PAL_DEVICE_OUT_SPEAKER (by decide) rfl ⟨by decide, by decide, by decide⟩ rfl
  exact absurd hopened.2 (by decide)

end Stream

end AudioReachPal.Streams.Connect
