import AudioReachPal.StStream.Ssr

/-!
# The device of a sound trigger stream

A stream opens, starts, stops and closes the device it records. `Tally` says which device the calls
made so far leave open and started; three forms of it (`Closed`, `Opened`, `Started`) are what a
stream keeps, each in its states. The handlers undo what they did when a call fails, except where
`keepsDevices` says no: a start without a capture profile stops and closes a device that it did not
start, a connection that fails late leaves a started device behind or stops one that is not, and a
restart that fails goes to `ST_STATE_LOADED` with the device started.
-/

namespace AudioReachPal.StStream

open AudioReachPal.Lib

open st_state_id_t st_module_type_t stream_state_t StEvent

/-! ### Open and started devices -/

/-- The calls leave `opened` open and `started` started, and no other device. -/
structure Tally (calls : List Call) (opened started : Option pal_device_id_t) : Prop where
  opened : ∀ d, balance (openDelta d) calls = if opened = some d then 1 else 0
  started : ∀ d, balance (startDelta d) calls = if started = some d then 1 else 0

namespace Tally

variable {calls : List Call} {opened started : Option pal_device_id_t} {dev : pal_device_id_t}

theorem open_ok (h : Tally calls none started) :
    Tally (.open dev 0 :: calls) (some dev) started := by
  refine ⟨fun d => ?_, fun d => ?_⟩
  · rw [balance_cons, h.opened]
    simp [openDelta]
  · rw [balance_cons, h.started]
    simp [startDelta]

theorem open_failed {status : ℤ} (h : Tally calls opened started) (hstatus : status ≠ 0) :
    Tally (.open dev status :: calls) opened started := by
  refine ⟨fun d => ?_, fun d => ?_⟩
  · rw [balance_cons, h.opened]
    simp [openDelta, hstatus]
  · rw [balance_cons, h.started]
    simp [startDelta]

theorem close (h : Tally calls (some dev) started) : Tally (.close dev :: calls) none started := by
  refine ⟨fun d => ?_, fun d => ?_⟩
  · rw [balance_cons, h.opened]
    by_cases hd : dev = d <;> simp [openDelta, hd]
  · rw [balance_cons, h.started]
    simp [startDelta]

theorem start_ok (h : Tally calls opened none) :
    Tally (.start dev 0 :: calls) opened (some dev) := by
  refine ⟨fun d => ?_, fun d => ?_⟩
  · rw [balance_cons, h.opened]
    simp [openDelta]
  · rw [balance_cons, h.started]
    simp [startDelta]

theorem start_failed {status : ℤ} (h : Tally calls opened started) (hstatus : status ≠ 0) :
    Tally (.start dev status :: calls) opened started := by
  refine ⟨fun d => ?_, fun d => ?_⟩
  · rw [balance_cons, h.opened]
    simp [openDelta]
  · rw [balance_cons, h.started]
    simp [startDelta, hstatus]

theorem stop (h : Tally calls opened (some dev)) : Tally (.stop dev :: calls) opened none := by
  refine ⟨fun d => ?_, fun d => ?_⟩
  · rw [balance_cons, h.opened]
    simp [openDelta]
  · rw [balance_cons, h.started]
    by_cases hd : dev = d <;> simp [startDelta, hd]

@[simp] theorem acquireWakeLock :
    Tally (.acquireWakeLock :: calls) opened started ↔ Tally calls opened started := by
  constructor <;> rintro ⟨ho, hs⟩ <;>
    exact ⟨fun d => by simpa [openDelta] using ho d, fun d => by simpa [startDelta] using hs d⟩

@[simp] theorem releaseWakeLock :
    Tally (.releaseWakeLock :: calls) opened started ↔ Tally calls opened started := by
  constructor <;> rintro ⟨ho, hs⟩ <;>
    exact ⟨fun d => by simpa [openDelta] using ho d, fun d => by simpa [startDelta] using hs d⟩

end Tally

/-! ### What a stream keeps of its device -/

/-- No device is open. -/
@[mk_iff]
structure Closed (s : StreamSoundTrigger) : Prop where
  device_opened_ : s.device_opened_ = false
  tally : Tally s.calls none none

/-- The device of the stream is open, and not started. -/
def Opened (s : StreamSoundTrigger) : Prop :=
  ∃ dev, s.mDevices = some dev ∧ s.device_opened_ = true ∧ Tally s.calls (some dev) none

/-- The device of the stream is open and started. -/
def Started (s : StreamSoundTrigger) : Prop :=
  ∃ dev, s.mDevices = some dev ∧ s.device_opened_ = true ∧ Tally s.calls (some dev) (some dev)

/-- A stream that is not recognizing. -/
def Halted (s : StreamSoundTrigger) : Prop := Closed s ∨ Opened s

/-- A stream that is recognizing, on its device if it has one. -/
def Running (s : StreamSoundTrigger) : Prop := Started s ∨ (Closed s ∧ s.mDevices = none)

/-- What a stream keeps, in each of its states. -/
def DeviceKept (s : StreamSoundTrigger) : Prop :=
  match s.cur_state_ with
  | ST_STATE_IDLE | ST_STATE_SSR => Closed s
  | ST_STATE_LOADED => Halted s
  | ST_STATE_ACTIVE | ST_STATE_DETECTED | ST_STATE_BUFFERING => Running s

/-- **The law.** A device is open while `device_opened_` holds for it, and started while the stream
recognizes on it. -/
def DeviceBalanced (s : StreamSoundTrigger) : Prop :=
  ∀ d, balance (openDelta d) s.calls =
      (if s.device_opened_ = true ∧ s.mDevices = some d then 1 else 0) ∧
    balance (startDelta d) s.calls =
      (if (s.cur_state_ = ST_STATE_ACTIVE ∨ s.cur_state_ = ST_STATE_DETECTED ∨
        s.cur_state_ = ST_STATE_BUFFERING) ∧ s.mDevices = some d then 1 else 0)

theorem Closed.balanced {s : StreamSoundTrigger} (h : Closed s)
    (hs : s.mDevices = none ∨ ¬(s.cur_state_ = ST_STATE_ACTIVE ∨ s.cur_state_ = ST_STATE_DETECTED ∨
      s.cur_state_ = ST_STATE_BUFFERING)) : DeviceBalanced s := by
  intro d
  rw [h.tally.opened, h.tally.started, h.device_opened_]
  rcases hs with hs | hs <;> simp [hs]

theorem DeviceKept.balanced {s : StreamSoundTrigger} (h : DeviceKept s) : DeviceBalanced s := by
  unfold DeviceKept at h
  have hopened : Opened s → ¬(s.cur_state_ = ST_STATE_ACTIVE ∨ s.cur_state_ = ST_STATE_DETECTED ∨
      s.cur_state_ = ST_STATE_BUFFERING) → DeviceBalanced s := by
    rintro ⟨dev, hdev, hopen, htally⟩ hcur d
    rw [htally.opened, htally.started]
    simp [hdev, hopen, hcur]
  have hstarted : Started s → (s.cur_state_ = ST_STATE_ACTIVE ∨ s.cur_state_ = ST_STATE_DETECTED ∨
      s.cur_state_ = ST_STATE_BUFFERING) → DeviceBalanced s := by
    rintro ⟨dev, hdev, hopen, htally⟩ hcur d
    rw [htally.opened, htally.started]
    simp [hdev, hopen, hcur]
  cases hcur : s.cur_state_ with
  | ST_STATE_IDLE | ST_STATE_SSR =>
    rw [hcur] at h
    exact Closed.balanced h (Or.inr (by simp [hcur]))
  | ST_STATE_LOADED =>
    rw [hcur] at h
    rcases h with h | h
    · exact h.balanced (Or.inr (by simp [hcur]))
    · exact hopened h (by simp [hcur])
  | ST_STATE_ACTIVE | ST_STATE_DETECTED | ST_STATE_BUFFERING =>
    rw [hcur] at h
    rcases h with h | ⟨h, hnone⟩
    · exact hstarted h (by simp [hcur])
    · exact h.balanced (Or.inl hnone)

/-! ### The procedures -/

section Procedures

variable (e : Env)

theorem Closed.frame {s t : StreamSoundTrigger} (h : Frame s t) (hs : Closed s) : Closed t := by
  rw [closed_iff, h.device_opened_, h.calls]
  exact ⟨hs.device_opened_, hs.tally⟩

theorem Opened.frame {s t : StreamSoundTrigger} (h : Frame s t) (hs : Opened s) : Opened t := by
  unfold Opened
  rw [h.mDevices, h.device_opened_, h.calls]
  exact hs

theorem Halted.frame {s t : StreamSoundTrigger} (h : Frame s t) (hs : Halted s) : Halted t :=
  hs.imp (Closed.frame h) (Opened.frame h)

theorem Running.frame {s t : StreamSoundTrigger} (h : Frame s t) (hs : Running s) : Running t := by
  unfold Running Started
  rw [h.mDevices, h.device_opened_, h.calls]
  exact hs.imp id (And.imp_left (Closed.frame h))

@[simp] theorem closed_mk (t : StreamSoundTrigger) {st rs c p md sh cc cp sc sm mt id gm g v en n d r rd
    ss rj ps nv br sk} :
    Closed ⟨st, rs, c, p, md, t.device_opened_, sh, cc, cp, sc, sm, mt, id, gm, g, v, en, n, d, r, rd,
      ss, rj, ps, nv, br, sk, t.calls⟩ ↔ Closed t := by
  simp only [closed_iff]

@[simp] theorem halted_mk (t : StreamSoundTrigger) {st rs c p sh cc cp sc sm mt id gm g v en n d r rd
    ss rj ps nv br sk} :
    Halted ⟨st, rs, c, p, t.mDevices, t.device_opened_, sh, cc, cp, sc, sm, mt, id, gm, g, v, en, n, d,
      r, rd, ss, rj, ps, nv, br, sk, t.calls⟩ ↔ Halted t := by
  simp only [Halted, Opened, closed_mk]

@[simp] theorem running_mk (t : StreamSoundTrigger) {st rs c p sh cc cp sc sm mt id gm g v en n d r rd
    ss rj ps nv br sk} :
    Running ⟨st, rs, c, p, t.mDevices, t.device_opened_, sh, cc, cp, sc, sm, mt, id, gm, g, v, en, n,
      d, r, rd, ss, rj, ps, nv, br, sk, t.calls⟩ ↔ Running t := by
  simp only [Running, Started, closed_mk]

/-- A running stream stops and closes its device. -/
theorem ensures_stopAndCloseDevice {s : StreamSoundTrigger} (hs : Running s) (status : ℤ)
    {Q : ℤ → StreamSoundTrigger → Prop}
    (hQ : ∀ st t, Closed t → t.cur_state_ = s.cur_state_ → Q st t) :
    Ensures (stopAndCloseDevice status) s Q := by
  unfold stopAndCloseDevice
  rcases hs with ⟨dev, hdev, hopen, htally⟩ | ⟨hclosed, hnone⟩
  · have hdone : Tally (.close dev :: .stop dev :: s.calls) none none := htally.stop.close
    simp [hdev]
    exact hQ _ _ ⟨rfl, hdone⟩ rfl
  · simp [hnone]
    exact hQ _ _ hclosed rfl

theorem ensures_haltStream_device {s : StreamSoundTrigger} (hs : Running s) (status : ℤ)
    {Q : ℤ → StreamSoundTrigger → Prop}
    (hQ : ∀ st t, Closed t → t.cur_state_ = ST_STATE_LOADED → Q st t) :
    Ensures (haltStream e status) s Q := by
  unfold haltStream
  rw [ensures_bind, ensures_stopEngines, ensures_bind]
  refine ensures_stopAndCloseDevice hs _ fun st t ht _ => ?_
  simp only [ensures_bind, ensures_transitTo, ensures_pure]
  exact hQ _ _ ((closed_mk t).mpr ht) rfl

/-- A running stream gives its device up. -/
theorem ensures_disconnectEvent {s : StreamSoundTrigger} (hs : Running s) (session : Bool)
    {Q : ℤ → StreamSoundTrigger → Prop}
    (hQ : ∀ st t, Closed t → t.mDevices = none → t.cur_state_ = s.cur_state_ → Q st t) :
    Ensures (disconnectEvent e session) s Q := by
  have hclose : ∀ t st, Frame s t → Ensures (stopAndCloseDevice st) t fun a u =>
      Q a { u with mDevices := none } := by
    intro t st hst
    refine ensures_stopAndCloseDevice (hs.frame hst) st fun a u hu hcur => ?_
    exact hQ _ _ ((closed_mk u).mpr hu) rfl (hcur.trans hst.cur_state_)
  unfold disconnectEvent
  by_cases hdev : s.mDevices = none
  · rcases hs with ⟨dev, hdev', -, -⟩ | ⟨hclosed, -⟩
    · rw [hdev] at hdev'
      cases hdev'
    · simp only [ensures_bind, ensures_get, ensures_ite, hdev, Option.isNone_none, ensures_pure]
      exact ⟨fun _ => hQ _ _ hclosed hdev rfl, fun h => absurd trivial h⟩
  · cases session <;> simp [hdev, cancelDelayedStop, hclose]

/-- A stream that is not recognizing closes its device and gives it up. -/
theorem ensures_fstageUnload {s : StreamSoundTrigger} (hs : Halted s)
    {Q : ℤ → StreamSoundTrigger → Prop}
    (hQ : ∀ st t, Closed t → t.mDevices = none → t.cur_state_ = s.cur_state_ → Q st t) :
    Ensures (fstageUnload e) s Q := by
  unfold fstageUnload
  rcases hs with hs | ⟨dev, hdev, hopen, htally⟩
  · simp [hs.device_opened_]
    intro _
    exact hQ _ _ ⟨rfl, hs.tally⟩ rfl rfl
  · simp [hdev, hopen]
    intro _
    exact hQ _ _ ⟨rfl, htally.close⟩ rfl rfl

theorem ensures_unloadSoundModel {s : StreamSoundTrigger} (hs : Halted s)
    {Q : ℤ → StreamSoundTrigger → Prop}
    (hQ : ∀ st t, Closed t → t.mDevices = none → t.cur_state_ = s.cur_state_ → Q st t) :
    Ensures (unloadSoundModel e) s Q := by
  unfold unloadSoundModel
  rcases hs with hs | ⟨dev, hdev, hopen, htally⟩
  · simp [hs.device_opened_]
    exact hQ _ _ ⟨rfl, hs.tally⟩ rfl rfl
  · simp [hdev, hopen]
    exact hQ _ _ ⟨rfl, htally.close⟩ rfl rfl

/-- Choosing a device opens none. -/
theorem updateDeviceConfig_closed {s : StreamSoundTrigger} (hs : Closed s) :
    Ensures (updateDeviceConfig e) s fun _ t => Closed t := by
  simp [ensures_updateDeviceConfig, configured, hs]

/-! ### Starting -/

/-- The start goes on to a device although the capture profile is missing: it stops and closes what
it did not start. On a shared backend it reads through the missing profile before that. -/
def startsBlind (shared : Bool) (s : StreamSoundTrigger) : Bool :=
  !s.paused_ && s.rec_config_.isSome && !shared && !e.getSoundTriggerCaptureProfile

@[simp] theorem startsBlind_mk (shared : Bool) (t : StreamSoundTrigger) {st rs c md o sh cc cp sc sm mt
    id gm g v en n d rd ss rj ps nv br sk calls} :
    startsBlind e shared ⟨st, rs, c, t.paused_, md, o, sh, cc, cp, sc, sm, mt, id, gm, g, v, en, n, d,
      t.rec_config_, rd, ss, rj, ps, nv, br, sk, calls⟩ = startsBlind e shared t :=
  rfl

/-- The start of the engines of a stream whose device, if it has one, is started. -/
theorem startEngines_kept {s : StreamSoundTrigger} (hs : Running s)
    (hcur : s.cur_state_ = ST_STATE_LOADED) (status : ℤ) :
    Ensures (StLoaded.startEngines e status) s fun _ t => DeviceKept t := by
  unfold StLoaded.startEngines StLoaded.startFailed
  cases hfail : firstFailure (engineAnswers s.engines_ e.startRecognition) with
  | some st =>
    simp [hfail]
    refine ensures_stopAndCloseDevice hs 0 fun _ t ht hcur' => ?_
    unfold DeviceKept
    rw [hcur'.trans hcur]
    exact Or.inl ht
  | none =>
    simp [hfail]
    exact hs.imp id (And.imp_left (closed_mk s).mpr)

/-- A start that fails undoes what it did to the device, if it has a capture profile. -/
theorem startRecognition_kept {s : StreamSoundTrigger} (hs : Halted s)
    (hcur : s.cur_state_ = ST_STATE_LOADED) (isStart : Bool)
    (hok : startsBlind e s.is_backend_shared_ s = false ∨ s.mDevices = none) :
    Ensures (StLoaded.startRecognition e isStart) s fun _ t => DeviceKept t := by
  have hstays : ∀ t, Halted t → t.cur_state_ = ST_STATE_LOADED → DeviceKept t := by
    intro t ht hcur
    unfold DeviceKept
    rw [hcur]
    exact ht
  have hengines : ∀ t st, Running t → t.cur_state_ = ST_STATE_LOADED →
      Ensures (StLoaded.startEngines e st) t fun _ u => DeviceKept u :=
    fun t st ht hcur => startEngines_kept e ht hcur st
  unfold StLoaded.startRecognition
  cases hdev : s.mDevices with
  | none =>
    have hclosed : Closed s := by
      rcases hs with hs | ⟨dev, hdev', -, -⟩
      · exact hs
      · rw [hdev] at hdev'
        cases hdev'
    simp [hdev, hstays s hs hcur]
    intros
    exact hengines s _ (Or.inr ⟨hclosed, hdev⟩) hcur
  | some dev =>
    have hblind : s.paused_ = false → ¬s.rec_config_ = none → s.is_backend_shared_ = false →
        e.getSoundTriggerCaptureProfile = true := by
      intro hpaused hrec hshared
      have hrec' : s.rec_config_.isSome = true := Option.isSome_iff_ne_none.mpr hrec
      simpa [startsBlind, hpaused, hrec', hshared, hdev] using hok
    simp [hdev, hstays s hs hcur]
    intro hpaused hrec hshared
    have hclosed : s.device_opened_ = false → Tally s.calls none none := by
      intro hopen
      rcases hs with hs | ⟨_, -, hopen', -⟩
      · exact hs.tally
      · rw [hopen] at hopen'
        cases hopen'
    have hopened : s.device_opened_ = true → Tally s.calls (some dev) none := by
      intro hopen
      rcases hs with hs | ⟨dev', hdev', -, htally⟩
      · rw [hs.device_opened_] at hopen
        cases hopen
      · rw [hdev] at hdev'
        cases hdev'
        exact htally
    refine ⟨fun h => absurd (hblind hpaused hrec hshared) (by rw [h]; decide), fun _ =>
      ⟨fun hopen => ⟨fun hok => ⟨fun hstart => ?_, fun hstart => ?_⟩, fun hfail => ?_⟩,
        fun hopen => ⟨fun hstart => ?_, fun hstart => ?_⟩⟩⟩
    · have htally : Tally (.open dev 0 :: s.calls) (some dev) none := (hclosed hopen).open_ok
      rw [← hok] at htally
      refine hengines _ _ (Or.inl ⟨dev, rfl, rfl, ?_⟩) hcur
      exact hstart ▸ htally.start_ok
    · have htally : Tally (.open dev 0 :: s.calls) (some dev) none := (hclosed hopen).open_ok
      rw [← hok] at htally
      exact hstays _ (Or.inl ⟨rfl, (htally.start_failed hstart).close⟩) hcur
    · exact hstays _ (Or.inl ⟨hopen, (hclosed hopen).open_failed hfail⟩) hcur
    · refine hengines _ _ (Or.inl ⟨dev, rfl, hopen, ?_⟩) hcur
      exact hstart ▸ (hopened hopen).start_ok
    · exact hstays _ (Or.inl ⟨rfl, ((hopened hopen).start_failed hstart).close⟩) hcur

/-! ### Connecting -/

/-- A stream without a device chooses one, and the session takes it. -/
def chosen (s : StreamSoundTrigger) : Bool :=
  s.mDevices.isNone && s.sm_cfg_ && e.getCurrentCaptureProfile.isSome && e.captureDevice.isSome &&
    e.setupSessionDevice == 0

/-- What `connectDevice` leaves, unless the session refuses a device that was started. -/
theorem connectDevice_kept {s : StreamSoundTrigger} (hs : Closed s) (hnone : s.mDevices = none)
    (start : Bool) (hok : start = true → chosen e s = true → e.deviceOpen = 0 → e.deviceStart = 0 →
      e.connectSessionDevice = 0) :
    Ensures (connectDevice e start) s fun r t => t.cur_state_ = s.cur_state_ ∧
      match r with
      | .error _ => Closed t ∧ (t.mDevices = none ∨
          (chosen e s = true ∧ (e.deviceOpen ≠ 0 ∨ (start = true ∧ e.deviceStart ≠ 0))))
      | .ok _ => chosen e s = true ∧ e.deviceOpen = 0 ∧ e.connectSessionDevice = 0 ∧
          (if start then Started t else Opened t) := by
  have hopen := hs.device_opened_
  have hmic : (configured e s).mDevices = deviceTakenUp e s := rfl
  unfold connectDevice
  rw [ensures_bind, ensures_get, if_neg (by simp [hnone]), ensures_bind, ensures_updateDeviceConfig,
    ensures_bind, ensures_get, hmic]
  rcases hdev : deviceTakenUp e s with _ | dev
  · simp [configured, hdev, hs]
  simp [configured, hdev, hs]
  intro htaken hcfg _ _ hsetup
  have hcap : e.captureDevice = some dev := by simpa [deviceTakenUp, htaken, hnone] using hdev
  have hprof : e.getCurrentCaptureProfile.isSome = true := by simpa [profileTaken, hcfg] using htaken
  have hchosen : chosen e s = true := by simp [chosen, hnone, hcfg, hprof, hcap, hsetup]
  refine ⟨fun _ => ⟨fun hopen => ?_, fun hfail => ?_⟩, fun h => absurd h (by simp [hopen])⟩
  · have htally : Tally (.open dev e.deviceOpen :: s.calls) (some dev) none := by
      rw [hopen]
      exact hs.tally.open_ok
    refine ⟨?_, ?_⟩
    · rintro rfl
      refine ⟨fun hstart => ?_, fun hstart => ?_⟩
      · have hstarted : Tally (.start dev e.deviceStart :: .open dev e.deviceOpen :: s.calls)
            (some dev) (some dev) := by
          rw [hstart]
          exact htally.start_ok
        refine ⟨fun hconnect => ⟨hchosen, hopen, hconnect, ?_⟩, fun hconnect => ?_⟩
        · exact ⟨dev, rfl, rfl, hstarted⟩
        · exact absurd (hok rfl hchosen hopen hstart) hconnect
      · exact ⟨⟨rfl, (htally.start_failed hstart).close⟩, hchosen, Or.inr ⟨rfl, hstart⟩⟩
    · rintro rfl
      refine ⟨fun hconnect => ⟨hchosen, hopen, hconnect, ?_⟩, fun hconnect => ?_⟩
      · exact ⟨dev, rfl, rfl, htally⟩
      · exact ⟨rfl, htally.close⟩
  · exact ⟨⟨hopen, hs.tally.open_failed hfail⟩, hchosen, Or.inl hfail⟩

theorem connectDevice_busy {s : StreamSoundTrigger} (hs : s.mDevices ≠ none) (start : Bool) :
    Ensures (connectDevice e start) s fun r t => (∃ status, r = .error status) ∧ t = s := by
  simp [connectDevice, hs]

theorem Halted.closed {s : StreamSoundTrigger} (hs : Halted s) (hnone : s.mDevices = none) :
    Closed s := by
  rcases hs with hs | ⟨dev, hdev, -, -⟩
  · exact hs
  · rw [hnone] at hdev
    cases hdev

theorem Running.closed {s : StreamSoundTrigger} (hs : Running s) (hnone : s.mDevices = none) :
    Closed s := by
  rcases hs with ⟨dev, hdev, -, -⟩ | ⟨hs, -⟩
  · rw [hnone] at hdev
    cases hdev
  · exact hs

/-- The device that a recognizing stream is given takes it. -/
def deviceTaken (s : StreamSoundTrigger) : Bool :=
  !chosen e s || (e.deviceOpen == 0 && e.deviceStart == 0 && e.connectSessionDevice == 0)

/-- The connection of a recognizing stream leaves it running, on the device if it answers so. -/
theorem connectDevice_running {s : StreamSoundTrigger} (hs : Running s)
    (hok : deviceTaken e s = true) :
    Ensures (connectDevice e true) s fun r t => t.cur_state_ = s.cur_state_ ∧ Running t ∧
      ∀ dev, r = .ok dev → chosen e s = true := by
  have htaken : chosen e s = true → e.deviceOpen = 0 ∧ e.deviceStart = 0 ∧
      e.connectSessionDevice = 0 := by
    intro hchosen
    simpa [deviceTaken, hchosen, and_assoc] using hok
  by_cases hnone : s.mDevices = none
  · refine (connectDevice_kept e (hs.closed hnone) hnone true
      fun _ hchosen _ _ => (htaken hchosen).2.2).mono ?_
    rintro (status | dev) t ⟨hcur, ht⟩
    · refine ⟨hcur, Or.inr ⟨ht.1, ?_⟩, by simp⟩
      rcases ht.2 with hnone | ⟨hchosen, hfail⟩
      · exact hnone
      · obtain ⟨hopen, hstart, -⟩ := htaken hchosen
        simp [hopen, hstart] at hfail
    · have hstarted : Started t := ht.2.2.2
      exact ⟨hcur, Or.inl hstarted, fun _ _ => ht.1⟩
  · refine (connectDevice_busy e hnone true).mono ?_
    rintro r t ⟨⟨status, rfl⟩, rfl⟩
    exact ⟨rfl, hs, by simp⟩

/-- The condition for `connectEvent`: in a second stage the engines start too. -/
def reconnects (s : StreamSoundTrigger) : Bool :=
  deviceTaken e s && (!chosen e s || s.cur_state_ != ST_STATE_BUFFERING ||
    !s.second_stage_processing_ ||
    (firstFailure (engineAnswers s.engines_ e.startRecognition)).isNone)

theorem connectDevice_engines (start : Bool) (s : StreamSoundTrigger) :
    Ensures (connectDevice e start) s fun _ t =>
      t.second_stage_processing_ = s.second_stage_processing_ ∧ t.engines_ = s.engines_ := by
  have hconfig : Ensures (updateDeviceConfig e) s fun _ t =>
      t.second_stage_processing_ = s.second_stage_processing_ ∧ t.engines_ = s.engines_ :=
    (ensures_updateDeviceConfig e s _).mpr ⟨rfl, rfl⟩
  unfold connectDevice
  rw [ensures_bind, ensures_get]
  refine (ensures_ite _ _ _ _ _).mpr ⟨fun _ => (ensures_pure _ _ _).mpr ⟨rfl, rfl⟩, fun _ => ?_⟩
  refine hconfig.bind ?_
  rintro status t ⟨hstage, hengines⟩
  cases hdev : t.mDevices <;> cases start <;> simp [hdev, hstage, hengines]

theorem connectEvent_running {s : StreamSoundTrigger} (hs : Running s)
    (hok : reconnects e s = true) :
    Ensures (connectEvent e) s fun _ t => t.cur_state_ = s.cur_state_ ∧ Running t := by
  unfold reconnects at hok
  rw [Bool.and_eq_true] at hok
  unfold connectEvent
  refine ((connectDevice_running e hs hok.1).and (connectDevice_engines e true s)).bind ?_
  rintro (status | dev) t ⟨⟨hcur, ht, hchosen⟩, hstage, hengines⟩
  · simp [hcur, ht]
  · have hengines' : s.cur_state_ = ST_STATE_BUFFERING → s.second_stage_processing_ = true →
        firstFailure (engineAnswers t.engines_ e.startRecognition) = none := by
      intro hbuf hsec
      simpa [hchosen dev rfl, hbuf, hsec, hengines] using hok.2
    by_cases hbuf : s.cur_state_ = ST_STATE_BUFFERING <;>
      by_cases hsec : s.second_stage_processing_ = true <;>
      simp [hcur, hbuf, hstage, hsec, ht, hengines']

/-! ### The state handlers -/

theorem Closed.kept {s : StreamSoundTrigger} (hs : Closed s)
    (hcur : s.cur_state_ = ST_STATE_IDLE ∨ s.cur_state_ = ST_STATE_LOADED ∨
      s.cur_state_ = ST_STATE_SSR) : DeviceKept s := by
  unfold DeviceKept
  rcases hcur with hcur | hcur | hcur <;> rw [hcur]
  · exact hs
  · exact Or.inl hs
  · exact hs

theorem Running.kept {s : StreamSoundTrigger} (hs : Running s)
    (hcur : s.cur_state_ = ST_STATE_ACTIVE ∨ s.cur_state_ = ST_STATE_DETECTED ∨
      s.cur_state_ = ST_STATE_BUFFERING) : DeviceKept s := by
  unfold DeviceKept
  rcases hcur with hcur | hcur | hcur <;> rw [hcur] <;> exact hs

theorem Halted.kept {s : StreamSoundTrigger} (hs : Halted s)
    (hcur : s.cur_state_ = ST_STATE_LOADED) : DeviceKept s := by
  unfold DeviceKept
  rw [hcur]
  exact hs

theorem DeviceKept.frame {s t : StreamSoundTrigger} (h : Frame s t) (hs : DeviceKept s) :
    DeviceKept t := by
  unfold DeviceKept at hs ⊢
  rw [h.cur_state_]
  cases hcur : s.cur_state_ with
  | ST_STATE_IDLE | ST_STATE_SSR =>
    rw [hcur] at hs
    exact Closed.frame h hs
  | ST_STATE_LOADED =>
    rw [hcur] at hs
    exact Halted.frame h hs
  | ST_STATE_ACTIVE | ST_STATE_DETECTED | ST_STATE_BUFFERING =>
    rw [hcur] at hs
    exact Running.frame h hs

@[simp] theorem deviceKept_mk (t : StreamSoundTrigger) {rs c p sh cc cp sc sm mt id gm g v en n d r rd
    ss rj ps nv br sk} :
    DeviceKept ⟨t.cur_state_, rs, c, p, t.mDevices, t.device_opened_, sh, cc, cp, sc, sm, mt, id, gm, g,
      v, en, n, d, r, rd, ss, rj, ps, nv, br, sk, t.calls⟩ ↔ DeviceKept t := by
  simp only [DeviceKept, closed_mk, halted_mk, running_mk]

theorem kept_of_frame {s : StreamSoundTrigger} (hs : DeviceKept s) {m : StProc ℤ}
    (hm : Respects Frame m) : Ensures m s fun _ t => DeviceKept t :=
  (hm s).mono fun _ _ ht => hs.frame ht

namespace StLoaded

/-- A device that is connected to a stream that is not recognizing is taken, or given back. -/
def connects (s : StreamSoundTrigger) : Bool :=
  !chosen e s || e.deviceOpen != 0 ||
    if s.isActive && !s.paused_ then e.deviceStart != 0 || e.connectSessionDevice == 0
    else e.connectSessionDevice != 0 || (firstFailure (connectAnswers e s.engines_ false)).isNone

theorem deviceConnected_kept {s : StreamSoundTrigger} (hs : Halted s)
    (hcur : s.cur_state_ = ST_STATE_LOADED) (hok : connects e s = true) :
    Ensures (deviceConnected e) s fun _ t => DeviceKept t := by
  unfold deviceConnected
  rw [ensures_bind, ensures_get]
  by_cases hnone : s.mDevices = none
  · have hconnect : (s.isActive && !s.paused_) = true → chosen e s = true → e.deviceOpen = 0 →
        e.deviceStart = 0 → e.connectSessionDevice = 0 := by
      intro hactive hchosen hopen hstart
      simpa [connects, hchosen, hopen, hactive, hstart] using hok
    refine (connectDevice_kept e (hs.closed hnone) hnone _ hconnect).bind ?_
    rintro (status | dev) t ⟨hcur', ht⟩
    · exact (ensures_pure _ _ _).mpr (ht.1.kept (Or.inr (Or.inl (hcur'.trans hcur))))
    obtain ⟨hchosen, hopen, hconnected, ht⟩ := ht
    cases hactive : s.isActive && !s.paused_ with
    | true =>
      have hstarted : Running t := Or.inl (by simpa [hactive] using ht)
      cases hfail : firstFailure (connectAnswers e s.engines_ true) with
      | some status =>
        simp [startFailed]
        exact ensures_stopAndCloseDevice hstarted 0 fun _ u hu hcur'' =>
          hu.kept (Or.inr (Or.inl (hcur''.trans (hcur'.trans hcur))))
      | none =>
        simp
        exact Running.kept ((running_mk t).mpr hstarted) (Or.inl rfl)
    | false =>
      have hopened : Halted t := Or.inr (by simpa [hactive] using ht)
      have hengines : firstFailure (connectAnswers e s.engines_ false) = none := by
        simpa [connects, hchosen, hopen, hactive, hconnected] using hok
      simp [hengines]
      exact (hopened.kept (hcur'.trans hcur)).frame ((frame_mk t t).mpr (refl t))
  · refine (connectDevice_busy e hnone _).bind ?_
    rintro r t ⟨⟨status, rfl⟩, rfl⟩
    exact (ensures_pure _ _ _).mpr (hs.kept hcur)

theorem assignReaders_ok (engines : List EngineId) (i : ℕ) (s : StreamSoundTrigger) :
    Ensures (assignReaders e engines i) s fun status t =>
      (status = 0 → readersOk e engines i = true) ∧ t.is_backend_shared_ = s.is_backend_shared_ ∧
        t.paused_ = s.paused_ ∧ t.rec_config_ = s.rec_config_ := by
  induction engines generalizing i s with
  | nil => exact (ensures_pure _ _ _).mpr ⟨fun _ => rfl, rfl, rfl, rfl⟩
  | cons id engines ih =>
    unfold assignReaders
    by_cases hid : id = ST_SM_ID_SVA_F_STAGE_GMM
    · rw [if_pos hid, ensures_bind, ensures_modify]
      refine (ih (i + 1) _).mono ?_
      rintro status t ⟨hok, hkept⟩
      exact ⟨fun hst => by simp [readersOk, hid, hok hst], hkept⟩
    · rw [if_neg hid]
      by_cases hreader : e.setBufferReader i = 0
      · rw [if_neg (by simp [hreader])]
        refine (ih (i + 1) _).mono ?_
        rintro status t ⟨hok, hkept⟩
        exact ⟨fun hst => by simp [readersOk, hreader, hok hst], hkept⟩
      · rw [if_pos hreader]
        exact (ensures_pure _ _ _).mpr ⟨fun h => absurd h hreader, rfl, rfl, rfl⟩

/-- A config that was sent was accepted all along, and changes nothing that a start looks at. -/
theorem sendCachedRecognitionConfig_ok (s : StreamSoundTrigger) :
    Ensures (sendCachedRecognitionConfig e) s fun status t => status = 0 →
      s.vui_intf_ = true ∧ sendConfigOk e s.engines_ = true ∧
        t.is_backend_shared_ = s.is_backend_shared_ ∧ t.paused_ = s.paused_ ∧
        t.rec_config_ = s.rec_config_ := by
  unfold sendCachedRecognitionConfig sendConfig
  simp +contextual only [Bool.not_eq_eq_eq_not, Bool.not_true, EINVAL, Int.reduceNeg, ne_eq,
    not_true_eq_false, ↓reduceIte, bind_pure_comp, ite_not, pure_bind, sendConfigOk, Bool.and_eq_true,
    beq_iff_eq, ensures_bind, ensures_ite, ensures_pure, neg_eq_zero, OfNat.ofNat_ne_zero,
    IsEmpty.forall_iff, implies_true, Bool.not_eq_false, true_and, forall_const, ensures_map,
    ensures_modify, and_true, false_and, and_false, imp_false, not_false_eq_true, ensures_deref,
    ensures_get]
  intro hvui _ hsend _ hbuf hcreate
  refine (assignReaders_ok e s.engines_ 0 s).mono ?_
  rintro status t ⟨hok, hkept⟩
  exact fun hst => ⟨hok hst, hkept⟩

/-- The condition for an internal resume of a stream that was active. -/
def resumes (s : StreamSoundTrigger) : Bool :=
  s.mDevices.isNone || !(s.isActive && s.vui_intf_ && sendConfigOk e s.engines_ &&
    startsBlind e s.is_backend_shared_ { s with paused_ := false })

theorem internalResume_kept {s : StreamSoundTrigger} (hs : Halted s)
    (hcur : s.cur_state_ = ST_STATE_LOADED) (hok : resumes e s = true) :
    Ensures (internalResume e) s fun _ t => DeviceKept t := by
  have hresumed : Halted { s with paused_ := false } := hs.frame ((frame_mk s s).mpr (refl s))
  have hsend : Ensures (sendCachedRecognitionConfig e) { s with paused_ := false }
      fun status t => (Frame { s with paused_ := false } t) ∧ (status = 0 →
        startsBlind e t.is_backend_shared_ t = false ∨ t.mDevices = none ∨ s.isActive = false) := by
    refine ((sendCachedRecognitionConfig_frame e _).and (sendCachedRecognitionConfig_ok e _)).mono ?_
    rintro status t ⟨ht, hsent⟩
    refine ⟨ht, fun hst => ?_⟩
    obtain ⟨hvui, hconfig, hshared, hpaused, hrec⟩ := hsent hst
    rw [ht.mDevices, hshared]
    have hblind : ∀ shared, startsBlind e shared t =
        startsBlind e shared { s with paused_ := false } := by
      intro shared
      simp [startsBlind, hpaused, hrec]
    rw [hblind]
    cases hactive : s.isActive with
    | false => exact Or.inr (Or.inr rfl)
    | true =>
      cases hdev : s.mDevices with
      | none => exact Or.inr (Or.inl rfl)
      | some dev =>
        have hvui : s.vui_intf_ = true := hvui
        left
        simpa [resumes, hdev, hactive, hvui, hconfig] using hok
  have hstart : ∀ t, Frame { s with paused_ := false } t →
      startsBlind e t.is_backend_shared_ t = false ∨ t.mDevices = none →
      Ensures (startRecognition e false) t fun _ u => DeviceKept u := fun t ht hok =>
    startRecognition_kept e (hresumed.frame ht) (ht.cur_state_.trans hcur) false hok
  unfold internalResume
  rw [ensures_bind, ensures_modify, ensures_bind, ensures_get]
  change Ensures (if (!s.isActive) = true then _ else _) _ _
  cases hactive : s.isActive with
  | false => exact (ensures_pure _ _ _).mpr (hresumed.kept hcur)
  | true =>
    cases hrec : s.rec_config_ with
    | none =>
      have hblind : startsBlind e s.is_backend_shared_ { s with paused_ := false } = false := by
        simp [startsBlind, hrec]
      rw [hrec] at hblind hstart
      simpa using hstart _ (refl _) (Or.inl hblind)
    | some config =>
      rw [hactive, hrec] at hsend
      simp
      refine hsend.mono ?_
      rintro status t ⟨ht, hok⟩
      refine ⟨fun hst => hstart t ?_ ?_, fun _ => ?_⟩
      · rw [hrec]
        exact ht
      · simpa using hok hst
      · exact (hresumed.kept hcur).frame (by rw [hrec]; exact ht)

theorem deviceDisconnected_kept {s : StreamSoundTrigger} (hs : Halted s)
    (hcur : s.cur_state_ = ST_STATE_LOADED) (dev_id : pal_device_id_t) :
    Ensures (deviceDisconnected dev_id) s fun _ t => DeviceKept t := by
  unfold deviceDisconnected
  cases hdev : s.mDevices with
  | none => simp [hdev, hs.kept hcur]
  | some dev =>
    rcases hs with hs | ⟨dev', hdev', hopen, htally⟩
    · have hkept : ∀ t : StreamSoundTrigger, Closed t → t.cur_state_ = ST_STATE_LOADED →
          DeviceKept t := fun t ht hcur => ht.kept (Or.inr (Or.inl hcur))
      simp [hdev, hs.device_opened_]
      exact ⟨fun _ => hkept s hs hcur, fun _ _ => hkept _ ⟨rfl, hs.tally⟩ hcur⟩
    · rw [hdev] at hdev'
      cases hdev'
      simp [hdev, hopen]
      refine ⟨fun _ => Halted.kept (Or.inr ⟨dev, hdev, hopen, htally⟩) hcur, fun _ _ => ?_⟩
      exact Closed.kept ⟨rfl, htally.close⟩ (Or.inr (Or.inl hcur))

/-- A first stage that is unloaded, with or without success, has no device. -/
theorem concurrentStream_kept {s : StreamSoundTrigger} (hs : Halted s)
    (hcur : s.cur_state_ = ST_STATE_LOADED) (is_active : Bool) :
    Ensures (concurrentStream e is_active) s fun _ t => DeviceKept t := by
  have hunload : Ensures (fstageUnload e) s fun st t =>
      (st = 0 → DeviceKept { t with cur_state_ := ST_STATE_IDLE }) ∧ (st ≠ 0 → DeviceKept t) := by
    refine ensures_fstageUnload e hs fun st t ht _ hcur' => ⟨fun _ => ?_, fun _ => ?_⟩
    · exact Closed.kept ((closed_mk t).mpr ht) (Or.inl rfl)
    · exact ht.kept (Or.inr (Or.inl (hcur'.trans hcur)))
  unfold concurrentStream
  simp [hs.kept hcur]
  intro _ _
  exact hunload

theorem unloadFstage_closed {s : StreamSoundTrigger} (hs : Halted s) :
    Ensures (unloadFstage e) s fun _ t => Closed t ∧ t.cur_state_ = ST_STATE_IDLE := by
  unfold unloadFstage
  rw [ensures_bind]
  refine ensures_fstageUnload e hs fun st t ht _ _ => ?_
  simp [ht]

theorem goOffline_kept {s : StreamSoundTrigger} (hs : Halted s) :
    Ensures (do let st ← unloadFstage e; transitTo ST_STATE_SSR; pure st) s
      fun _ t => DeviceKept t := by
  refine (unloadFstage_closed e hs).bind ?_
  rintro st t ⟨ht, -⟩
  simp only [ensures_bind, ensures_transitTo, ensures_pure]
  exact Closed.kept ((closed_mk t).mpr ht) (Or.inr (Or.inr rfl))

theorem unloadModel_closed {s : StreamSoundTrigger} (hs : Halted s) :
    Ensures (unloadModel e) s fun _ t => Closed t ∧ t.cur_state_ = ST_STATE_IDLE := by
  unfold unloadModel
  rw [ensures_bind]
  refine ensures_unloadSoundModel e hs fun st t ht _ _ => ?_
  simp [ht]

end StLoaded

/-! In `ST_STATE_IDLE` no device is open. -/

theorem fstageLoad_closed {s : StreamSoundTrigger} (hs : Closed s) :
    Ensures (fstageLoad e) s fun _ t => Closed t := by
  unfold fstageLoad
  refine (updateDeviceConfig_closed e hs).bind ?_
  intro status t ht
  simp [ht]

/-- The backend of the capture profile in force is shared. -/
def profileShared : Bool := e.getCurrentCaptureProfile.any CaptureProfile.isBackendShared

theorem fstageLoad_ok (s : StreamSoundTrigger) :
    Ensures (fstageLoad e) s fun status t => status = 0 →
      deviceConfigOk e s = true ∧ e.gslLoadSoundModel = 0 ∧
        t.is_backend_shared_ = profileShared e ∧ t.currentState = s.currentState ∧
        t.paused_ = s.paused_ ∧ t.rec_config_ = s.rec_config_ ∧ t.engines_ = s.engines_ := by
  rw [ensures_fstageLoad]
  refine ⟨fun _ hst => absurd hst (by decide), fun hok hattrs _ hload => ?_⟩
  have hshared : (profileTaken e s).elim s.is_backend_shared_ CaptureProfile.isBackendShared =
      profileShared e := by
    simp only [Bool.and_eq_true] at hattrs
    obtain ⟨⟨htaken, hcfg⟩, -⟩ := hattrs
    obtain ⟨prof, hprof⟩ := Option.isSome_iff_exists.mp htaken
    have hcur : e.getCurrentCaptureProfile = some prof := by
      rwa [profileTaken, if_pos hcfg] at hprof
    simp [hprof, profileShared, hcur]
  exact ⟨hok, hload, hshared, rfl, rfl, rfl, rfl⟩

namespace StIdle

/-- The condition for the end of a concurrency: the stream loads, and starts if it was started. -/
def reloads (s : StreamSoundTrigger) : Bool :=
  !(s.gsl_engine_model_.isSome && (newCaptureProfile e s).isSome && deviceConfigOk e s &&
    e.gslLoadSoundModel == 0 && s.currentState == STREAM_STARTED &&
    startsBlind e (profileShared e) s)

theorem concurrentStream_kept {s : StreamSoundTrigger} (hs : Closed s)
    (hcur : s.cur_state_ = ST_STATE_IDLE) (is_active : Bool)
    (hok : is_active = true → reloads e s = true) :
    Ensures (concurrentStream e is_active) s fun _ t => DeviceKept t := by
  have hidle : ∀ t : StreamSoundTrigger, Closed t → t.cur_state_ = ST_STATE_IDLE → DeviceKept t :=
    fun t ht hcur => ht.kept (Or.inl hcur)
  unfold concurrentStream
  simp [hidle s hs hcur]
  intro hmodel hprofile hactive
  refine (((fstageLoad_device e s).and (fstageLoad_closed e hs)).and (fstageLoad_ok e s)).mono ?_
  rintro status t ⟨⟨hframe, ht⟩, hload⟩
  refine ⟨fun hst => ?_, fun _ => hidle t ht (hframe.cur_state_.trans hcur)⟩
  obtain ⟨hconfig, hgsl, hshared, hstate, hpaused, hrec, -⟩ := hload hst
  have hclosed : Closed { t with cur_state_ := ST_STATE_LOADED } := (closed_mk t).mpr ht
  refine ⟨fun hstarted => ?_, fun _ => hclosed.kept (Or.inr (Or.inl rfl))⟩
  apply startRecognition_kept e (Or.inl hclosed) rfl true
  left
  have hmodel' : s.gsl_engine_model_.isSome = true := Option.isSome_iff_ne_none.mpr hmodel
  have hprofile' : (newCaptureProfile e s).isSome = true := Option.isSome_iff_ne_none.mpr hprofile
  have hstarted' : s.currentState = STREAM_STARTED := by
    simpa [StreamSoundTrigger.isActive, hstate] using hstarted
  have hblind : startsBlind e (profileShared e) s = false := by
    simpa [reloads, hmodel', hprofile', hconfig, hgsl, hstarted'] using hok hactive
  simpa [startsBlind, hshared, hpaused, hrec] using hblind

theorem loadModel_kept {s : StreamSoundTrigger} (hs : Closed s)
    (hcur : s.cur_state_ = ST_STATE_IDLE) (model : pal_st_sound_model) :
    Ensures (loadModel e model) s fun _ t => DeviceKept t := by
  have hidle : ∀ t : StreamSoundTrigger, Closed t →
      t.cur_state_ = ST_STATE_IDLE ∨ t.cur_state_ = ST_STATE_LOADED → DeviceKept t := by
    rintro t ht (hcur | hcur)
    · exact ht.kept (Or.inl hcur)
    · exact ht.kept (Or.inr (Or.inl hcur))
  unfold loadModel
  rw [ensures_bind, ensures_modify]
  refine (ensures_ite _ _ _ _ _).mpr ⟨fun _ => ?_, fun _ => ?_⟩
  · exact (ensures_pure _ _ _).mpr (hidle _ ((closed_mk s).mpr hs) (Or.inl hcur))
  refine ((updateDeviceConfig_device e _).and
    (updateDeviceConfig_closed e ((closed_mk s).mpr hs))).bind ?_
  rintro status t ⟨hframe, ht⟩
  have hcur' : t.cur_state_ = ST_STATE_IDLE := hframe.cur_state_.trans hcur
  refine (ensures_ite _ _ _ _ _).mpr ⟨fun _ => ?_, fun _ => ?_⟩
  · exact (ensures_pure _ _ _).mpr (hidle t ht (Or.inl hcur'))
  refine (loadSoundModel_frame e model t).bind ?_
  intro status u hu
  have hclosed : Closed u := ht.frame hu
  simp [hidle u hclosed (Or.inl (hu.cur_state_.trans hcur')), hidle _ ((closed_mk u).mpr hclosed) (Or.inr rfl)]

theorem processEvent_kept {s : StreamSoundTrigger} (hs : Closed s)
    (hcur : s.cur_state_ = ST_STATE_IDLE) {ev : StEvent}
    (hok : ev = ST_EV_CONCURRENT_STREAM true → reloads e s = true) :
    Ensures (processEvent e ev) s fun _ t => DeviceKept t := by
  have hkept := hs.kept (Or.inl hcur)
  cases ev with
  | ST_EV_LOAD_SOUND_MODEL model => exact loadModel_kept e hs hcur model
  | ST_EV_CONCURRENT_STREAM is_active =>
    exact concurrentStream_kept e hs hcur is_active (by rintro rfl; exact hok rfl)
  | ST_EV_UNLOAD_SOUND_MODEL =>
    simp [processEvent, unloadModel, hkept]
    intro _
    exact ensures_unloadSoundModel e (Or.inl hs) fun st t ht _ hcur' =>
      ht.kept (Or.inl (hcur'.trans hcur))
  | ST_EV_DEVICE_DISCONNECTED dev_id =>
    cases hdev : s.mDevices with
    | none => simp [processEvent, deviceDisconnected, hdev, hkept]
    | some dev =>
      simp [processEvent, deviceDisconnected, hdev, hkept]
      exact fun _ => Closed.kept ((closed_mk s).mpr hs) (Or.inl hcur)
  | ST_EV_DEVICE_CONNECTED =>
    simp [processEvent, deviceConnected, hkept]
    intro _ _
    refine ((updateDeviceConfig_device e s).and (updateDeviceConfig_closed e hs)).mono ?_
    rintro status t ⟨hframe, ht⟩
    exact ht.kept (Or.inl (hframe.cur_state_.trans hcur))
  | ST_EV_FSTAGE_LOAD =>
    simp [processEvent, loadFstage]
    refine ((fstageLoad_device e s).and (fstageLoad_closed e hs)).mono ?_
    rintro status t ⟨hframe, ht⟩
    refine ⟨fun _ => ?_, fun _ => ht.kept (Or.inl (hframe.cur_state_.trans hcur))⟩
    exact Closed.kept ((closed_mk t).mpr ht) (Or.inr (Or.inl rfl))
  | ST_EV_SSR_OFFLINE =>
    simp [processEvent, ssrOffline]
    exact Closed.kept ((closed_mk s).mpr hs) (Or.inr (Or.inr rfl))
  | ST_EV_PAUSE | ST_EV_INTERNAL_PAUSE | ST_EV_RESUME | ST_EV_INTERNAL_RESUME =>
    simp [processEvent]
    exact Closed.kept ((closed_mk s).mpr hs) (Or.inl hcur)
  | _ => exact (ensures_pure _ _ _).mpr hkept

end StIdle

namespace StLoaded

theorem processEvent_kept {s : StreamSoundTrigger} (hs : Halted s)
    (hcur : s.cur_state_ = ST_STATE_LOADED) {ev : StEvent}
    (hstart : ev = ST_EV_START_RECOGNITION →
      s.mDevices = none ∨ startsBlind e s.is_backend_shared_ s = false)
    (hresume : ev = ST_EV_INTERNAL_RESUME → resumes e s = true)
    (hconnect : ev = ST_EV_DEVICE_CONNECTED → connects e s = true) :
    Ensures (processEvent e ev) s fun _ t => DeviceKept t := by
  have hkept := hs.kept hcur
  cases ev with
  | ST_EV_UNLOAD_SOUND_MODEL =>
    exact (unloadModel_closed e hs).mono fun _ t ht => ht.1.kept (Or.inl ht.2)
  | ST_EV_RECOGNITION_CONFIG config => exact kept_of_frame hkept (sendRecognitionConfig_frame e config)
  | ST_EV_START_RECOGNITION => exact startRecognition_kept e hs hcur true (hstart rfl).symm
  | ST_EV_INTERNAL_RESUME => exact internalResume_kept e hs hcur (hresume rfl)
  | ST_EV_DEVICE_CONNECTED => exact deviceConnected_kept e hs hcur (hconnect rfl)
  | ST_EV_DEVICE_DISCONNECTED dev_id => exact deviceDisconnected_kept hs hcur dev_id
  | ST_EV_CONCURRENT_STREAM is_active => exact concurrentStream_kept e hs hcur is_active
  | ST_EV_EC_REF => exact kept_of_frame hkept (ecRef_frame e)
  | ST_EV_FSTAGE_UNLOAD =>
    exact (unloadFstage_closed e hs).mono fun _ t ht => ht.1.kept (Or.inl ht.2)
  | ST_EV_SSR_OFFLINE =>
    rw [show processEvent e ST_EV_SSR_OFFLINE = ssrOffline e from rfl, ssrOffline, ensures_bind,
      ensures_modify]
    exact goOffline_kept e ((halted_mk s).mpr hs)
  | ST_EV_DETECTED det_type => simp [processEvent, hkept]
  | ST_EV_PAUSE | ST_EV_INTERNAL_PAUSE | ST_EV_RESUME =>
    simp [processEvent]
    exact hkept.frame ((frame_mk s s).mpr (refl s))
  | _ => exact (ensures_pure _ _ _).mpr hkept

end StLoaded

/-! A recognizing stream. -/

/-- What follows the stop of a recognizing stream keeps the device closed. -/
theorem haltStream_then {s : StreamSoundTrigger} (hs : Running s) (status : ℤ) {f : ℤ → StProc ℤ}
    (hf : ∀ st t, Closed t → t.cur_state_ = ST_STATE_LOADED →
      Ensures (f st) t fun _ u => DeviceKept u) :
    Ensures (do let st ← haltStream e status; f st) s fun _ t => DeviceKept t :=
  (ensures_bind _ _ _ _).mpr (ensures_haltStream_device e hs status hf)

/-- The end of a handler that keeps the device. -/
theorem kept_release {s : StreamSoundTrigger} {m : StProc ℤ}
    (hm : Ensures m s fun _ t => DeviceKept t) :
    Ensures (do let st ← m; releaseWakeLock; pure st) s fun _ t => DeviceKept t := by
  refine hm.bind ?_
  intro st t ht
  simp only [releaseWakeLock, ensures_bind, ensures_record, ensures_pure]
  unfold DeviceKept at ht ⊢
  cases hcur : t.cur_state_ <;> simpa [hcur, Halted, Running, Opened, Started, closed_iff] using ht

namespace StActive

theorem stopRecognition_kept {s : StreamSoundTrigger} (hs : Running s) (isPause : Bool) :
    Ensures (stopRecognition e isPause) s fun _ t => Closed t ∧ t.cur_state_ = ST_STATE_LOADED := by
  unfold stopRecognition
  rw [ensures_bind, ensures_get, ensures_bind]
  refine ensures_haltStream_device e hs _ fun st t ht hcur => ?_
  exact (ensures_pure _ _ _).mpr ⟨ht, hcur⟩

theorem detected_kept {s : StreamSoundTrigger} (hs : Running s)
    (hcur : s.cur_state_ = ST_STATE_ACTIVE) (det_type : ℕ) :
    Ensures (detected e det_type) s fun _ t => DeviceKept t := by
  have hnotify : ∀ t : StreamSoundTrigger, Running t →
      t.cur_state_ = ST_STATE_DETECTED ∨ t.cur_state_ = ST_STATE_BUFFERING →
      Ensures (notifyDetection e) t fun _ u => DeviceKept u :=
    fun t ht hcur => kept_of_frame (ht.kept (Or.inr hcur)) (notifyDetection_frame e)
  have hafter : ∀ t : StreamSoundTrigger, Running t →
      t.cur_state_ = ST_STATE_DETECTED ∨ t.cur_state_ = ST_STATE_BUFFERING → DeviceKept t :=
    fun t ht hcur => ht.kept (Or.inr hcur)
  simp [detected, hnotify, hafter, hs, hs.kept (Or.inl hcur)]

theorem deviceDisconnected_kept {s : StreamSoundTrigger} (hs : Running s)
    (hcur : s.cur_state_ = ST_STATE_ACTIVE) (dev_id : pal_device_id_t) :
    Ensures (deviceDisconnected dev_id) s fun _ t => DeviceKept t := by
  unfold deviceDisconnected
  rw [ensures_bind, ensures_get]
  cases hdev : s.mDevices with
  | none => exact (ensures_pure _ _ _).mpr (hs.kept (Or.inl hcur))
  | some dev =>
    refine (ensures_ite _ _ _ _ _).mpr ⟨fun _ => ?_, fun _ => ?_⟩
    · exact (ensures_pure _ _ _).mpr (hs.kept (Or.inl hcur))
    · simp
      intro _
      refine ensures_stopAndCloseDevice hs 0 fun st t ht hcur' => ?_
      exact Running.kept (Or.inr ⟨(closed_mk t).mpr ht, rfl⟩) (Or.inl (hcur'.trans hcur))

theorem processEvent_kept {s : StreamSoundTrigger} (hs : Running s)
    (hcur : s.cur_state_ = ST_STATE_ACTIVE) {ev : StEvent}
    (hok : ev = ST_EV_DEVICE_CONNECTED → deviceTaken e s = true) :
    Ensures (processEvent e ev) s fun _ t => DeviceKept t := by
  have hkept := hs.kept (Or.inl hcur)
  have hloaded : ∀ t, Closed t → t.cur_state_ = ST_STATE_LOADED → DeviceKept t :=
    fun t ht hcur => ht.kept (Or.inr (Or.inl hcur))
  cases ev with
  | ST_EV_DETECTED det_type => exact detected_kept e hs hcur det_type
  | ST_EV_PAUSE =>
    simp [processEvent]
    refine (stopRecognition_kept e ((running_mk s).mpr hs) true).mono ?_
    rintro st t ⟨ht, hcur'⟩
    exact kept_of_frame (hloaded t ht hcur') (notifyAbort_frame e)
  | ST_EV_INTERNAL_PAUSE =>
    simp [processEvent]
    exact (stopRecognition_kept e ((running_mk s).mpr hs) true).mono fun _ t ht =>
      hloaded t ht.1 ht.2
  | ST_EV_UNLOAD_SOUND_MODEL =>
    refine (stopRecognition_kept e hs false).bind ?_
    rintro st t ⟨ht, -⟩
    exact (StLoaded.unloadModel_closed e (Or.inl ht)).mono fun _ u hu =>
      hu.1.kept (Or.inl hu.2)
  | ST_EV_STOP_RECOGNITION =>
    exact (stopRecognition_kept e hs false).mono fun _ t ht => hloaded t ht.1 ht.2
  | ST_EV_RECOGNITION_CONFIG config =>
    change Ensures (recognitionConfig e config) s _
    unfold recognitionConfig
    rw [ensures_bind, ensures_get]
    refine (ensures_ite _ _ _ _ _).mpr ⟨fun _ => (ensures_pure _ _ _).mpr hkept, fun _ => ?_⟩
    exact haltStream_then e hs 0 fun _ t ht hcur' =>
      kept_of_frame (hloaded t ht hcur') (sendRecognitionConfig_frame e config)
  | ST_EV_EC_REF => exact kept_of_frame hkept (ecRef_frame e)
  | ST_EV_DEVICE_DISCONNECTED dev_id => exact deviceDisconnected_kept hs hcur dev_id
  | ST_EV_DEVICE_CONNECTED =>
    refine (connectDevice_running e hs (hok rfl)).bind ?_
    rintro r t ⟨hcur', ht, -⟩
    have hkept := ht.kept (Or.inl (hcur'.trans hcur))
    cases r <;> exact (ensures_pure _ _ _).mpr hkept
  | ST_EV_CONCURRENT_STREAM is_active =>
    simp [processEvent, concurrentStream, hkept]
    intro _ _
    refine (stopRecognition_kept e hs false).mono ?_
    rintro st t ⟨ht, hcur'⟩
    exact ⟨fun _ => StLoaded.concurrentStream_kept e (Or.inl ht) hcur' is_active,
      fun _ => hloaded t ht hcur'⟩
  | ST_EV_SSR_OFFLINE =>
    rw [show processEvent e ST_EV_SSR_OFFLINE = ssrOffline e from rfl, ssrOffline, ensures_bind,
      ensures_modify]
    refine (stopRecognition_kept e ((running_mk s).mpr hs) false).bind ?_
    rintro st t ⟨ht, -⟩
    exact StLoaded.goOffline_kept e (Or.inl ht)
  | ST_EV_FORCE_RECOGNITION => simp [processEvent, hkept]
  | _ => exact (ensures_pure _ _ _).mpr hkept

end StActive

/-! A detection. -/

/-- A restart goes on, or leaves a stream without a device. -/
theorem restart_kept {s : StreamSoundTrigger} (hs : Running s) {status : ℤ}
    (hok : s.mDevices = none ∨ status = 0) :
    Ensures (do transitTo (if status = 0 then ST_STATE_ACTIVE else ST_STATE_LOADED); releaseWakeLock
                pure status) s fun _ t => DeviceKept t := by
  have hrunning : ∀ state, Running { s with
      cur_state_ := state, calls := .releaseWakeLock :: s.calls } := by
    intro state
    simpa [Running, Started, closed_iff] using hs
  simp only [releaseWakeLock, ensures_bind, ensures_transitTo, ensures_record, ensures_pure]
  by_cases hst : status = 0
  · rw [if_pos hst]
    exact (hrunning _).kept (Or.inl rfl)
  · rw [if_neg hst]
    exact ((hrunning _).closed (hok.resolve_right hst)).kept (Or.inr (Or.inl rfl))

theorem restartRecognition_kept {s : StreamSoundTrigger} (hs : Running s)
    (hok : s.mDevices = none ∨
      firstFailure (engineAnswers s.engines_ (restartEngine e)) = none) :
    Ensures (restartRecognition e) s fun _ t => DeviceKept t := by
  unfold restartRecognition
  rw [ensures_bind, cancelDelayedStop, ensures_modify, ensures_bind, ensures_get]
  refine restart_kept ((running_mk s).mpr hs) (hok.imp id fun h => ?_)
  rw [h]
  rfl

theorem stopDetection_kept {s : StreamSoundTrigger} (hs : Running s) :
    Ensures (stopDetection e) s fun _ t => Closed t ∧ t.cur_state_ = ST_STATE_LOADED := by
  unfold stopDetection
  rw [ensures_bind, cancelDelayedStop, ensures_modify, ensures_bind]
  refine ensures_haltStream_device e ((running_mk s).mpr hs) 0 fun st t ht hcur => ?_
  simp only [releaseWakeLock, ensures_bind, ensures_record, ensures_pure]
  exact ⟨⟨ht.device_opened_, Tally.releaseWakeLock.mpr ht.tally⟩, hcur⟩

theorem endDetection_kept {s : StreamSoundTrigger} (hs : Running s) {m : StProc ℤ}
    (hm : ∀ t, Closed t → t.cur_state_ = ST_STATE_LOADED → Ensures m t fun _ u => DeviceKept u) :
    Ensures (do cancelDelayedStop; let _ ← haltStream e 0; let st ← m; releaseWakeLock; pure st) s
      fun _ t => DeviceKept t := by
  rw [ensures_bind, cancelDelayedStop, ensures_modify]
  exact haltStream_then e ((running_mk s).mpr hs) 0 fun _ t ht hcur => kept_release (hm t ht hcur)

theorem concurrentDetection_kept {s : StreamSoundTrigger} (hs : Running s) (is_active : Bool) :
    Ensures (concurrentDetection e is_active) s fun _ t => DeviceKept t := by
  unfold concurrentDetection
  rw [ensures_bind]
  refine ensures_disconnectEvent e hs false fun st t ht _ _ => ?_
  rw [ensures_bind, ensures_transitTo]
  exact kept_release (StLoaded.concurrentStream_kept e (Or.inl ((closed_mk t).mpr ht)) rfl is_active)

theorem ssrOfflineDetection_kept {s : StreamSoundTrigger} (hs : Running s) :
    Ensures (ssrOfflineDetection e) s fun _ t => DeviceKept t := by
  refine (stopDetection_kept e hs).bind ?_
  rintro st t ⟨ht, -⟩
  exact StLoaded.goOffline_kept e (Or.inl ht)

theorem pauseDetection_kept {s : StreamSoundTrigger} (hs : Running s) :
    Ensures (pauseDetection e) s fun _ t => DeviceKept t :=
  endDetection_kept e hs fun _ ht hcur =>
    kept_of_frame (ht.kept (Or.inr (Or.inl hcur))) (notifyAbort_frame e)

theorem unloadDetection_kept {s : StreamSoundTrigger} (hs : Running s) :
    Ensures (unloadDetection e) s fun _ t => DeviceKept t :=
  endDetection_kept e hs fun _ ht _ =>
    (StLoaded.unloadModel_closed e (Or.inl ht)).mono fun _ _ hu => hu.1.kept (Or.inl hu.2)

theorem configDetection_kept {s : StreamSoundTrigger} (hs : Running s)
    (config : pal_st_recognition_config) :
    Ensures (configDetection e config) s fun _ t => DeviceKept t :=
  endDetection_kept e hs fun _ ht hcur =>
    kept_of_frame (ht.kept (Or.inr (Or.inl hcur))) (sendRecognitionConfig_frame e config)

theorem stoppedDetection_kept {s : StreamSoundTrigger} (hs : Running s) :
    Ensures (stopDetection e) s fun _ t => DeviceKept t :=
  (stopDetection_kept e hs).mono fun _ _ ht => ht.1.kept (Or.inr (Or.inl ht.2))

/-- The condition for the start of the next recognition: the engines restart, or there is no device
to be left started. -/
def restarts (s : StreamSoundTrigger) : Bool :=
  s.mDevices.isNone || (firstFailure (engineAnswers s.engines_ (restartEngine e))).isNone

namespace StDetected

theorem processEvent_kept {s : StreamSoundTrigger} (hs : Running s)
    (hcur : s.cur_state_ = ST_STATE_DETECTED) {ev : StEvent}
    (hstart : ev = ST_EV_START_RECOGNITION → restarts e s = true)
    (hconnect : ev = ST_EV_DEVICE_CONNECTED → reconnects e s = true) :
    Ensures (processEvent e ev) s fun _ t => DeviceKept t := by
  have hkept := hs.kept (Or.inr (Or.inl hcur))
  cases ev with
  | ST_EV_START_RECOGNITION =>
    refine restartRecognition_kept e hs ?_
    simpa [restarts] using hstart rfl
  | ST_EV_PAUSE =>
    simp [processEvent]
    exact pauseDetection_kept e ((running_mk s).mpr hs)
  | ST_EV_INTERNAL_PAUSE =>
    simp [processEvent]
    exact stoppedDetection_kept e ((running_mk s).mpr hs)
  | ST_EV_UNLOAD_SOUND_MODEL => exact unloadDetection_kept e hs
  | ST_EV_STOP_RECOGNITION => exact stoppedDetection_kept e hs
  | ST_EV_RECOGNITION_CONFIG config =>
    simp [processEvent, hkept]
    exact fun _ => configDetection_kept e hs config
  | ST_EV_RESUME | ST_EV_INTERNAL_RESUME =>
    simp [processEvent]
    exact hkept.frame ((frame_mk s s).mpr (refl s))
  | ST_EV_CONCURRENT_STREAM is_active => exact concurrentDetection_kept e hs is_active
  | ST_EV_DEVICE_DISCONNECTED dev_id =>
    refine ensures_disconnectEvent e hs true fun st t ht hnone hcur' => ?_
    exact Running.kept (Or.inr ⟨ht, hnone⟩) (Or.inr (Or.inl (hcur'.trans hcur)))
  | ST_EV_DEVICE_CONNECTED =>
    exact (connectEvent_running e hs (hconnect rfl)).mono fun _ t ht =>
      ht.2.kept (Or.inr (Or.inl (ht.1.trans hcur)))
  | ST_EV_SSR_OFFLINE =>
    simp [processEvent]
    exact ssrOfflineDetection_kept e ((running_mk s).mpr hs)
  | ST_EV_EC_REF => exact kept_of_frame hkept (ecRef_frame e)
  | _ => exact (ensures_pure _ _ _).mpr hkept

end StDetected

namespace StBuffering

/-- The condition for a rejection that restarts the recognition. -/
def rejectionRestarts (s : StreamSoundTrigger) (det_type : ℕ) : Bool :=
  !(det_type == KEYWORD_DETECTION_REJECT || det_type == USER_VERIFICATION_REJECT) ||
    s.rejection_notified_ || e.getNotifySecondStageFailure || s.mDevices.isNone ||
    (firstFailure (engineAnswers s.engines_ e.restartRecognition)).isNone

theorem rejected_kept {s : StreamSoundTrigger} (hs : Running s)
    (hcur : s.cur_state_ = ST_STATE_BUFFERING) (det_type : ℕ)
    (hok : s.rejection_notified_ = true ∨ e.getNotifySecondStageFailure = true ∨
      s.mDevices = none ∨ firstFailure (engineAnswers s.engines_ e.restartRecognition) = none) :
    Ensures (rejected e det_type) s fun _ t => DeviceKept t := by
  have hkept : ∀ t : StreamSoundTrigger, Running t → t.cur_state_ = ST_STATE_BUFFERING →
      DeviceKept t := fun t ht hcur => ht.kept (Or.inr (Or.inr hcur))
  unfold rejected
  rw [ensures_bind, ensures_get]
  refine (ensures_ite _ _ _ _ _).mpr ⟨fun _ => ?_, fun hnot => ?_⟩
  · exact (ensures_pure _ _ _).mpr (hkept s hs hcur)
  rw [ensures_bind, ensures_modify]
  refine (ensures_ite _ _ _ _ _).mpr ⟨fun _ => ?_, fun hsilent => ?_⟩
  · rw [ensures_bind, ensures_modify]
    refine (kept_of_frame (hkept _ ?_ ?_) (notifyDetection_frame e)).bind ?_
    · exact (running_mk s).mpr hs
    · exact hcur
    intro _ t ht
    exact kept_release (m := pure _) ((ensures_pure _ _ _).mpr ht)
  · refine restart_kept ((running_mk s).mpr hs) ?_
    rcases hok with h | h | h | h
    · exact absurd h hnot
    · exact absurd h hsilent
    · exact Or.inl h
    · right
      rw [h]
      cases hengines : s.engines_ <;>
        simp [engineAnswers, rejectionAnswers, lastStatus]

theorem detected_kept {s : StreamSoundTrigger} (hs : Running s)
    (hcur : s.cur_state_ = ST_STATE_BUFFERING) (det_type : ℕ)
    (hok : rejectionRestarts e s det_type = true) :
    Ensures (detected e det_type) s fun _ t => DeviceKept t := by
  have hnotify : ∀ t : StreamSoundTrigger, Running t →
      t.cur_state_ = ST_STATE_DETECTED ∨ t.cur_state_ = ST_STATE_BUFFERING →
      Ensures (notifyDetection e) t fun _ u => DeviceKept u :=
    fun t ht hcur => kept_of_frame (ht.kept (Or.inr hcur)) (notifyDetection_frame e)
  have hafter : ∀ t : StreamSoundTrigger, Running t →
      t.cur_state_ = ST_STATE_DETECTED ∨ t.cur_state_ = ST_STATE_BUFFERING → DeviceKept t :=
    fun t ht hcur => ht.kept (Or.inr hcur)
  have hrejected : det_type = KEYWORD_DETECTION_REJECT ∨ det_type = USER_VERIFICATION_REJECT →
      Ensures (rejected e det_type) s fun _ t => DeviceKept t := by
    intro hdet
    refine rejected_kept e hs hcur det_type ?_
    have hdet' : (det_type == KEYWORD_DETECTION_REJECT ||
        det_type == USER_VERIFICATION_REJECT) = true := by simpa using hdet
    simpa [rejectionRestarts, hdet', or_assoc] using hok
  simp [detected, hnotify, hafter, hs, hcur]
  exact fun _ => hrejected

theorem processEvent_kept {s : StreamSoundTrigger} (hs : Running s)
    (hcur : s.cur_state_ = ST_STATE_BUFFERING) {ev : StEvent}
    (hstart : ev = ST_EV_START_RECOGNITION → restarts e s = true)
    (hconnect : ev = ST_EV_DEVICE_CONNECTED → reconnects e s = true)
    (hdetected : ∀ det_type, ev = ST_EV_DETECTED det_type → rejectionRestarts e s det_type = true) :
    Ensures (processEvent e ev) s fun _ t => DeviceKept t := by
  have hkept := hs.kept (Or.inr (Or.inr hcur))
  cases ev with
  | ST_EV_READ_BUFFER =>
    refine kept_of_frame hkept fun t => ?_
    simp [processEvent, readBuffer]
  | ST_EV_STOP_BUFFERING =>
    simp [processEvent, dropNlpiVote, postDelayedStop]
    exact hkept.frame ((frame_mk s s).mpr (refl s))
  | ST_EV_START_RECOGNITION =>
    simp [processEvent, dropNlpiVote]
    refine restartRecognition_kept e ((running_mk s).mpr hs) ?_
    simpa [restarts] using hstart rfl
  | ST_EV_RECOGNITION_CONFIG config =>
    simp [processEvent, dropNlpiVote, hkept]
    exact fun _ => configDetection_kept e ((running_mk s).mpr hs) config
  | ST_EV_PAUSE =>
    simp [processEvent, dropNlpiVote]
    exact pauseDetection_kept e ((running_mk s).mpr hs)
  | ST_EV_INTERNAL_PAUSE =>
    simp [processEvent, dropNlpiVote]
    exact stoppedDetection_kept e ((running_mk s).mpr hs)
  | ST_EV_UNLOAD_SOUND_MODEL =>
    simp [processEvent, dropNlpiVote]
    exact unloadDetection_kept e ((running_mk s).mpr hs)
  | ST_EV_STOP_RECOGNITION =>
    simp [processEvent, dropNlpiVote]
    exact stoppedDetection_kept e ((running_mk s).mpr hs)
  | ST_EV_DETECTED det_type => exact detected_kept e hs hcur det_type (hdetected det_type rfl)
  | ST_EV_CONCURRENT_STREAM is_active =>
    simp [processEvent, dropNlpiVote]
    exact concurrentDetection_kept e ((running_mk s).mpr hs) is_active
  | ST_EV_DEVICE_DISCONNECTED dev_id =>
    simp [processEvent, dropNlpiVote]
    refine ensures_disconnectEvent e ((running_mk s).mpr hs) true fun st t ht hnone hcur' => ?_
    exact Running.kept (Or.inr ⟨ht, hnone⟩) (Or.inr (Or.inr (hcur'.trans hcur)))
  | ST_EV_DEVICE_CONNECTED =>
    refine (connectEvent_running e hs (hconnect rfl)).bind ?_
    rintro st t ⟨hcur', ht⟩
    have hstays := ht.kept (Or.inr (Or.inr (hcur'.trans hcur)))
    simp [hstays]
    exact fun _ _ => Running.kept ((running_mk t).mpr ht) (Or.inl rfl)
  | ST_EV_SSR_OFFLINE =>
    simp [processEvent, dropNlpiVote]
    exact ssrOfflineDetection_kept e ((running_mk s).mpr hs)
  | ST_EV_EC_REF => exact kept_of_frame hkept (ecRef_frame e)
  | ST_EV_FORCE_RECOGNITION => simp [processEvent, hkept]
  | _ => exact (ensures_pure _ _ _).mpr hkept

end StBuffering

namespace StSSR

/-- The condition for a return to `ST_STATE_ACTIVE`. -/
def returns (s : StreamSoundTrigger) : Bool :=
  !(s.gsl_engine_model_.isSome && restoreState s == some ST_STATE_ACTIVE && loadCompletes e s &&
    startsBlind e (profileShared e) s)

/-- The reloaded first stage has all that was asked of it, and no device is open. -/
theorem restoreLoaded_closed {s : StreamSoundTrigger} (hs : Closed s)
    (hcur : s.cur_state_ = ST_STATE_IDLE) :
    Ensures (restoreLoaded e) s fun status t => Closed t ∧
      (t.cur_state_ = ST_STATE_IDLE ∨ t.cur_state_ = ST_STATE_LOADED) ∧
      (status = 0 → t.cur_state_ = ST_STATE_LOADED ∧ loadCompletes e s = true ∧
        t.is_backend_shared_ = profileShared e ∧ t.paused_ = s.paused_ ∧
        t.rec_config_ = s.rec_config_) := by
  unfold restoreLoaded StIdle.loadFstage
  simp only [ensures_bind]
  refine (((fstageLoad_device e s).and (fstageLoad_closed e hs)).and (fstageLoad_ok e s)).mono ?_
  rintro status t ⟨⟨hframe, ht⟩, hload⟩
  by_cases hst : status = 0
  · obtain ⟨hconfig, hgsl, hshared, -, hpaused, hrec, hengines⟩ := hload hst
    have hclosed : Closed { t with cur_state_ := ST_STATE_LOADED } := (closed_mk t).mpr ht
    cases hrec' : t.rec_config_ with
    | none =>
      have hrec'' := hrec' ▸ hrec
      simp [hst, hrec', ht, hshared, hpaused, loadCompletes, hconfig, hgsl, ← hrec'']
    | some config =>
      rw [hrec'] at hrec
      simp [hst, hrec']
      rw [hrec'] at hclosed
      refine ((sendCachedRecognitionConfig_frame e _).and
        (StLoaded.sendCachedRecognitionConfig_ok e _)).mono ?_
      rintro sent u ⟨hu, hsent⟩
      refine ⟨hclosed.frame hu, Or.inr hu.cur_state_, fun h => ?_⟩
      obtain ⟨-, hreaders, hshared', hpaused', hrec''⟩ := hsent h
      have hsendok : sendConfigOk e s.engines_ = true := hengines ▸ hreaders
      refine ⟨hu.cur_state_, ?_, hshared'.trans hshared, hpaused'.trans hpaused, hrec''.trans hrec⟩
      simp [loadCompletes, hconfig, hgsl, hsendok]
  · simp [hst, ht, hframe.cur_state_.trans hcur]

theorem ssrOnline_kept {s : StreamSoundTrigger} (hs : Closed s) (hok : returns e s = true) :
    Ensures (ssrOnline e) s fun _ t => DeviceKept t := by
  have hkept : ∀ t : StreamSoundTrigger, Closed t →
      t.cur_state_ = ST_STATE_IDLE ∨ t.cur_state_ = ST_STATE_LOADED → DeviceKept t :=
    fun t ht hcur => ht.kept (hcur.imp id Or.inl)
  have hrest : ∀ r, Ensures (restoreLoaded e)
      { s with cur_state_ := ST_STATE_IDLE, state_for_restore_ := r } fun status t => Closed t ∧
        (t.cur_state_ = ST_STATE_IDLE ∨ t.cur_state_ = ST_STATE_LOADED) ∧
        (status = 0 → t.cur_state_ = ST_STATE_LOADED ∧ loadCompletes e s = true ∧
          t.is_backend_shared_ = profileShared e ∧ t.paused_ = s.paused_ ∧
          t.rec_config_ = s.rec_config_) :=
    fun r => restoreLoaded_closed e ((closed_mk s).mpr hs) rfl
  unfold ssrOnline
  rw [ensures_bind, ensures_transitTo, ensures_bind, ensures_get]
  by_cases hmodel : s.gsl_engine_model_ = none
  · simp [hmodel]
    exact hkept _ ((closed_mk s).mpr hs) (Or.inl rfl)
  by_cases hloads : restoreState s = some ST_STATE_LOADED ∨ restoreState s = some ST_STATE_ACTIVE
  · simp [hmodel, hloads]
    refine (hrest _).mono ?_
    rintro status t ⟨ht, hcur, hloaded⟩
    refine ⟨fun hst => ?_, fun _ => hkept t ht hcur⟩
    obtain ⟨hcur', hcompletes, hshared, hpaused, hrec⟩ := hloaded hst
    refine ⟨fun hactive => ?_, fun _ => hkept _ ((closed_mk t).mpr ht) (Or.inr hcur')⟩
    refine (startRecognition_kept e (Or.inl ht) hcur' true (Or.inl ?_)).mono ?_
    · have hmodel' : s.gsl_engine_model_.isSome = true := Option.isSome_iff_ne_none.mpr hmodel
      have hblind : startsBlind e (profileShared e) s = false := by
        simpa [returns, hmodel', hactive, hcompletes] using hok
      simpa [startsBlind, hshared, hpaused, hrec] using hblind
    · intro status u hu
      simp [hu]
  · simp [hmodel, hloads]
    refine ⟨fun h => absurd (Or.inr h) hloads, fun _ => ?_⟩
    exact hkept _ ((closed_mk s).mpr hs) (Or.inl rfl)

theorem processEvent_kept {s : StreamSoundTrigger} (hs : Closed s)
    (hcur : s.cur_state_ = ST_STATE_SSR) {ev : StEvent}
    (hok : ev = ST_EV_SSR_ONLINE → returns e s = true) :
    Ensures (processEvent e ev) s fun _ t => DeviceKept t := by
  have hkept : DeviceKept s := hs.kept (Or.inr (Or.inr hcur))
  have hnew : ∀ r : Option st_state_id_t, DeviceKept { s with state_for_restore_ := r } :=
    fun r => (deviceKept_mk s).mpr hkept
  cases ev with
  | ST_EV_SSR_ONLINE => exact ssrOnline_kept e hs (hok rfl)
  | ST_EV_LOAD_SOUND_MODEL model =>
    simp [processEvent, loadModel, clientCommand, restoreTo, hkept]
    intro _
    refine (kept_of_frame hkept (updateSoundModel_frame e model)).mono ?_
    intro status t ht
    simp [ht]
  | ST_EV_RECOGNITION_CONFIG config =>
    simp [processEvent, clientCommand, hkept]
    exact fun _ => kept_of_frame hkept (updateRecognitionConfig_frame e config)
  | ST_EV_PAUSE =>
    simp [processEvent]
    exact kept_of_frame ((deviceKept_mk s).mpr hkept) (notifyAbort_frame e)
  | ST_EV_START_RECOGNITION => simp [processEvent, startRecognition, clientCommand, restoreTo, hkept]
  | ST_EV_UNLOAD_SOUND_MODEL | ST_EV_STOP_RECOGNITION =>
    simp [processEvent, clientCommand, restoreTo, hkept]
  | ST_EV_RESUME | ST_EV_INTERNAL_RESUME =>
    simp [processEvent, resume, hkept]
  | ST_EV_INTERNAL_PAUSE => simp [processEvent, hkept]
  | _ => exact (ensures_pure _ _ _).mpr hkept

end StSSR

/-! ### Runs -/

/-- **Where the device is kept.** A start has its capture profile, the calls on a connected device and
on its session succeed as far as the state needs them, and the engines restart. -/
def keepsDevices : EventCond := fun e s ev =>
  match s.cur_state_, ev with
  | ST_STATE_IDLE, ST_EV_CONCURRENT_STREAM true => StIdle.reloads e s
  | ST_STATE_LOADED, ST_EV_START_RECOGNITION =>
    s.mDevices.isNone || !startsBlind e s.is_backend_shared_ s
  | ST_STATE_LOADED, ST_EV_INTERNAL_RESUME => StLoaded.resumes e s
  | ST_STATE_LOADED, ST_EV_DEVICE_CONNECTED => StLoaded.connects e s
  | ST_STATE_ACTIVE, ST_EV_DEVICE_CONNECTED => deviceTaken e s
  | ST_STATE_DETECTED, ST_EV_DEVICE_CONNECTED | ST_STATE_BUFFERING, ST_EV_DEVICE_CONNECTED =>
    reconnects e s
  | ST_STATE_DETECTED, ST_EV_START_RECOGNITION | ST_STATE_BUFFERING, ST_EV_START_RECOGNITION =>
    restarts e s
  | ST_STATE_BUFFERING, ST_EV_DETECTED det_type => StBuffering.rejectionRestarts e s det_type
  | ST_STATE_SSR, ST_EV_SSR_ONLINE => StSSR.returns e s
  | _, _ => true

theorem event_kept {s : StreamSoundTrigger} (hs : DeviceKept s) {ev : StEvent}
    (hok : keepsDevices e s ev = true) :
    Ensures (processEvent e ev) s fun _ t => DeviceKept t := by
  unfold DeviceKept at hs
  unfold keepsDevices at hok
  unfold processEvent
  rw [ensures_bind, ensures_get]
  cases hcur : s.cur_state_ with
  | ST_STATE_IDLE =>
    rw [hcur] at hs hok
    refine StIdle.processEvent_kept e hs hcur ?_
    rintro rfl
    exact hok
  | ST_STATE_LOADED =>
    rw [hcur] at hs hok
    refine StLoaded.processEvent_kept e hs hcur ?_ ?_ ?_
    · rintro rfl
      simpa using hok
    · rintro rfl
      exact hok
    · rintro rfl
      exact hok
  | ST_STATE_ACTIVE =>
    rw [hcur] at hs hok
    refine StActive.processEvent_kept e hs hcur ?_
    rintro rfl
    exact hok
  | ST_STATE_DETECTED =>
    rw [hcur] at hs hok
    refine StDetected.processEvent_kept e hs hcur ?_ ?_
    · rintro rfl
      exact hok
    · rintro rfl
      exact hok
  | ST_STATE_BUFFERING =>
    rw [hcur] at hs hok
    refine StBuffering.processEvent_kept e hs hcur ?_ ?_ ?_
    · rintro rfl
      exact hok
    · rintro rfl
      exact hok
    · rintro det_type rfl
      exact hok
  | ST_STATE_SSR =>
    rw [hcur] at hs hok
    refine StSSR.processEvent_kept e hs hcur ?_
    rintro rfl
    exact hok

/-- A detection of the first stage keeps the device. -/
theorem firstStage_kept {s : StreamSoundTrigger} (hs : DeviceKept s) {det_type : ℕ}
    (hcur : s.cur_state_ = ST_STATE_ACTIVE) :
    Ensures (processEvent e (ST_EV_DETECTED det_type))
      { s with calls := .acquireWakeLock :: s.calls } fun _ t => DeviceKept t := by
  have hactive : ∀ t : StreamSoundTrigger, Running t → t.cur_state_ = ST_STATE_ACTIVE →
      Ensures (processEvent e (ST_EV_DETECTED det_type)) t fun _ u => DeviceKept u := by
    intro t ht hcur
    unfold processEvent
    rw [ensures_bind, ensures_get, hcur]
    exact StActive.detected_kept e ht hcur det_type
  unfold DeviceKept at hs
  rw [hcur] at hs
  refine hactive _ ?_ hcur
  simpa [Running, Started, closed_iff] using hs

end Procedures

theorem init_kept (online paused : Bool) : DeviceKept (StreamSoundTrigger.init online paused) := by
  have hclosed : Closed (StreamSoundTrigger.init online paused) :=
    ⟨rfl, fun _ => rfl, fun _ => rfl⟩
  cases online
  · exact hclosed.kept (Or.inr (Or.inr rfl))
  · exact hclosed.kept (Or.inl rfl)

/-- **The device balance.** In a run whose events all meet `keepsDevices`, every device is open and
started as often as the stream says. -/
theorem deviceBalanced_along {online paused : Bool} {is : List StreamInput} {s : StreamSoundTrigger}
    (hok : Meets step (Admits keepsDevices) (StreamSoundTrigger.init online paused) is)
    (hs : run step (StreamSoundTrigger.init online paused) is = some s) : DeviceBalanced s := by
  refine DeviceKept.balanced (run_invariant_of_meets ?_ hok (init_kept online paused) hs)
  intro s i t hok hs ht
  apply inv_of_admits hok ht
  exact call_keeps (fun _ _ h hs => hs.frame h.frame) (fun e _ _ _ hok hs => event_kept e hs hok)
    (fun e _ _ _ hcur hs => firstStage_kept e hs hcur) i.1 i.2 hs

/-- A detection of the first stage, and the client that starts the next recognition. -/
def nextRun (e e' : Env) : List StreamInput :=
  startCalls e true ++ [(e, .setEngineDetectionState GMM_DETECTED), (e', .start)]

theorem deviceBalanced_nextRun :
    ∃ s, run step (StreamSoundTrigger.init true false) (nextRun .smooth .smooth) = some s ∧
      DeviceBalanced s := by
  have hok : Meets step (Admits keepsDevices) (StreamSoundTrigger.init true false)
      (nextRun .smooth .smooth) :=
    meets_cons_of_some rfl rfl <| meets_cons_of_some rfl rfl <| meets_cons_of_some rfl rfl <|
      meets_cons_of_some rfl rfl <| meets_cons_of_some rfl rfl trivial
  exact ⟨_, rfl, deviceBalanced_along hok rfl⟩

/-- Where an engine does not restart, the stream is back in `ST_STATE_LOADED` with the device still
started. -/
theorem not_deviceBalanced_restart :
    ∃ s, run step (StreamSoundTrigger.init true false)
      (nextRun .smooth { Env.smooth with restartRecognition := fun _ => - EIO }) = some s ∧
      ¬DeviceBalanced s :=
  ⟨_, rfl, fun h => absurd (h PAL_DEVICE_IN_HANDSET_VA_MIC).2 (by decide)⟩

end AudioReachPal.StStream
