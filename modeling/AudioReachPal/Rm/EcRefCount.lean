import AudioReachPal.Lib.Tally
import AudioReachPal.Rm.EcRefMap

/-!
# The counts of the echo reference map

The count of a tx stream at an rx device should be the number of rx streams that are registered
there, may be its echo reference and could enable it; the reference should be set exactly when the
count is positive. The count is an anonymous tally, so it is right as long as whoever takes one off
has joined before.

That fails for an rx stream whose enabling failed: its own contribution was taken back, and when its
device is deregistered it takes off that of another one. It fails as well where a call fails or is
overtaken: the start of a tx stream keeps the count when the device does not support the operation,
an rx stream that joined while the first one was being enabled stays counted when that fails, and a
call that was made first and is answered last sets what it was made for. `EcOk` is the condition on
a step under which the counts stay right, and every run whose steps meet it ends with the counts
the map should have.

The counts and the reference that is set differ while calls wait. What fits the counts at every
moment is the reference that the call made last asks for; once none waits, it is the one that is
set.
-/

namespace AudioReachPal.Rm

open AudioReachPal.Lib

open pal_stream_type_t pal_stream_direction_t

/-! ### Which streams count -/

namespace EcConfig

variable (cfg : EcConfig)

/-- A stream that has an echo reference. -/
def isTxStream (t : StreamId) : Bool :=
  decide (cfg.direction t = PAL_AUDIO_INPUT ∧ cfg.type t ≠ PAL_STREAM_PROXY ∧
    cfg.type t ≠ PAL_STREAM_ULTRA_LOW_LATENCY ∧ cfg.type t ≠ PAL_STREAM_GENERIC)

/-- A stream that may be one, on the device. -/
def isRxStream (r : DeviceId) (x : StreamId) : Bool :=
  decide (cfg.type x ≠ PAL_STREAM_PROXY ∧ (cfg.direction x = PAL_AUDIO_OUTPUT ∨
    cfg.direction x = PAL_AUDIO_INPUT_OUTPUT ∧ r < PAL_DEVICE_OUT_MAX))

/-- The tx stream may refer to the rx stream on these devices. -/
def refersTo (k : EcKey) (x : StreamId) : Bool :=
  cfg.isTxStream k.tx_str && cfg.isRxStream k.rx_dev x &&
    cfg.getEcRefStatus (cfg.type k.tx_str) (cfg.type x) && isInDevice k.tx_dev &&
      cfg.checkECRef k.rx_dev k.tx_dev

/-- The rx stream is eligible as the echo reference. -/
def eligible (k : EcKey) (x : StreamId) : Bool :=
  cfg.refersTo k x && cfg.getECEnableSetting k.tx_dev k.tx_str

variable {cfg}

theorem hasDevice_of_checkECRef {r d : DeviceId} (h : cfg.checkECRef r d = true) :
    cfg.hasDevice d = true := by
  unfold checkECRef at h
  obtain ⟨info, hinfo, h⟩ := List.any_eq_true.mp h
  exact List.any_eq_true.mpr ⟨info, hinfo, (Bool.and_eq_true_iff.mp h).1⟩

theorem refersTo_iff {k : EcKey} {x : StreamId} :
    cfg.refersTo k x = true ↔ cfg.isTxStream k.tx_str = true ∧ cfg.isRxStream k.rx_dev x = true ∧
      cfg.getEcRefStatus (cfg.type k.tx_str) (cfg.type x) = true ∧ isInDevice k.tx_dev = true ∧
      cfg.checkECRef k.rx_dev k.tx_dev = true := by
  simp only [refersTo, Bool.and_eq_true, and_assoc]

theorem eligible_iff {k : EcKey} {x : StreamId} :
    cfg.eligible k x = true ↔
      cfg.refersTo k x = true ∧ cfg.getECEnableSetting k.tx_dev k.tx_str = true := by
  simp only [eligible, Bool.and_eq_true]

theorem hasDevice_of_refersTo {k : EcKey} {x : StreamId} (h : cfg.refersTo k x = true) :
    cfg.hasDevice k.tx_dev = true :=
  hasDevice_of_checkECRef (refersTo_iff.mp h).2.2.2.2

theorem direction_of_isTxStream {t : StreamId} (h : cfg.isTxStream t = true) :
    cfg.direction t = PAL_AUDIO_INPUT :=
  (of_decide_eq_true h).1

theorem direction_of_isRxStream {r : DeviceId} {x : StreamId} (h : cfg.isRxStream r x = true) :
    cfg.direction x ≠ PAL_AUDIO_INPUT := by
  rcases (of_decide_eq_true h).2 with h | ⟨h, -⟩ <;> simp [h]

/-! ### The map as a tally -/

section

variable {map : EcMap} {k : EcKey}

theorem updateECDeviceMap_of_pos (hdev : cfg.hasDevice k.tx_dev = true) {n : ℕ} (hn : 0 < n) :
    cfg.updateECDeviceMap map k n =
      ((((map k).getD 0 + n : ℕ) : ℤ), Function.update map k (raised (map k) n)) := by
  unfold updateECDeviceMap raised
  rw [hdev]
  cases hk : map k with
  | none => simp [Nat.ne_of_gt hn]
  | some m => simp [hn]

theorem updateECDeviceMap_zero (hdev : cfg.hasDevice k.tx_dev = true) :
    cfg.updateECDeviceMap map k 0 =
      ((map k).elim (-EINVAL) fun n => ((n - 1 : ℕ) : ℤ),
        Function.update map k (lowered (map k))) := by
  unfold updateECDeviceMap lowered
  rw [hdev]
  cases hk : map k with
  | none =>
    have hsame : Function.update map k none = map := by rw [← hk, Function.update_eq_self]
    simp [hsame]
  | some m => cases m <;> simp [entry]

/-- Where there is no entry, none is taken off. -/
theorem updateECDeviceMap_none (hk : map k = none) :
    cfg.updateECDeviceMap map k 0 = (-EINVAL, map) := by
  unfold updateECDeviceMap
  split
  · rfl
  · rw [hk]
    rfl

theorem updateECDeviceMap_of_ne {k' : EcKey} {n : ℕ} (hne : k' ≠ k) :
    (cfg.updateECDeviceMap map k n).2 k' = map k' := by
  unfold updateECDeviceMap
  split
  · rfl
  · split
    · dsimp only
      split <;> exact Function.update_of_ne hne _ _
    · split
      · rfl
      · exact Function.update_of_ne hne _ _

theorem stopECDeviceMap_apply (hdev : cfg.hasDevice k.tx_dev = true ∨ map k = none)
    (rx_dev : Option DeviceId) (d : DeviceId) (t : StreamId) :
    cfg.stopECDeviceMap map rx_dev d t k = if k.erasedBy rx_dev d t then none else map k := by
  unfold stopECDeviceMap
  split
  next hd =>
    split
    next her =>
      rcases hdev with hdev | hnone
      · obtain ⟨⟨rfl, -⟩, -⟩ : (k.tx_dev = d ∧ k.tx_str = t) ∧ _ := by
          simpa [EcKey.erasedBy] using her
        simp [hdev] at hd
      · exact hnone
    next => rfl
  next => rfl

end

end EcConfig

namespace EcState

variable (cfg : EcConfig) (env : EcEnv) (s : EcState)

/-! ### What the map should hold -/

/-- The registered rx streams that are eligible and whose enabling did not fail. -/
def enabledRxStreams (k : EcKey) : List (DeviceId × StreamId) :=
  if (k.tx_dev, k.tx_str) ∈ s.active_devices then
    s.active_devices.filter fun p =>
      decide (p.1 = k.rx_dev) && cfg.eligible k p.2 && decide (p.2 ∉ s.failed k)
  else []

/-- The map once no call is in progress. -/
structure CountsEnabled : Prop where
  count : ∀ k, cfg.direction k.tx_str = PAL_AUDIO_INPUT →
    s.ec_ref_count_map k = entry (s.enabledRxStreams cfg k).length
  reference : ∀ t r, cfg.direction t = PAL_AUDIO_INPUT →
    (s.ec_ref t = some r ↔ ∃ d, s.ec_ref_count_map ⟨d, r, t⟩ ≠ none)

/-- No count is below what the rx streams that are still registered contributed to it. -/
def NeverBelow : Prop :=
  ∀ k, cfg.direction k.tx_str = PAL_AUDIO_INPUT →
    ((s.contributed k).filter fun x => (k.rx_dev, x) ∈ s.active_devices).card ≤
      (s.ec_ref_count_map k).getD 0

/-! ### The condition on a step -/

/-- No call that the stream made is in progress: the lock of the stream is held for the call. -/
def Idle (x : StreamId) : Prop := ∀ c ∈ s.pending, c.requester ≠ x

/-- A call of the rx stream has still to come to the tx stream. -/
def Awaits (r : DeviceId) (x : StreamId) (ec_on : Bool) (t : StreamId) : Prop :=
  ∃ c ∈ s.pending, ∃ rest, c.rx_dev = some r ∧ c.caller = .rx x rest ∧ c.ec_on = ec_on ∧ t ∈ rest

/-- A call waits for the tx stream. -/
def Busy (t : StreamId) : Prop := ∃ c ∈ s.pending, c.tx_str = t

/-- One of the calls from the place on waits for it. -/
def Later (i : ℕ) (t : StreamId) : Prop := ∃ c ∈ s.pending.drop i, c.tx_str = t

/-- RX streams on the device are counted for the tx stream. -/
def HasCounted (t : StreamId) (r : DeviceId) : Prop := ∃ d, (s.contributed ⟨d, r, t⟩).Nonempty

end EcState

/-- The reference that the call is made for. -/
def EcCall.wants (c : EcCall) : Option DeviceId := if c.ec_on then c.rx_dev else none

/-- The reference that the last of the calls for the tx stream is made for, or the one it has. -/
def asked (t : StreamId) (calls : List EcCall) (ec_ref : Option DeviceId) : Option DeviceId :=
  calls.foldl (fun ec_ref c => if c.tx_str = t then c.wants else ec_ref) ec_ref

section

variable {calls calls' : List EcCall} {c : EcCall} {t : StreamId} {set set' : Option DeviceId}

@[simp] theorem asked_nil : asked t [] set = set := rfl

@[simp] theorem asked_cons :
    asked t (c :: calls) set = asked t calls (if c.tx_str = t then c.wants else set) := rfl

theorem asked_append : asked t (calls ++ calls') set = asked t calls' (asked t calls set) :=
  List.foldl_append

/-- Where a call waits for the tx stream, the reference it has does not count. -/
theorem asked_of_mem (h : ∃ e ∈ calls, e.tx_str = t) : asked t calls set = asked t calls set' := by
  induction calls generalizing set set' with
  | nil =>
    obtain ⟨e, he, -⟩ := h
    cases he
  | cons e calls ih =>
    rw [asked_cons, asked_cons]
    by_cases he : e.tx_str = t
    · rw [if_pos he, if_pos he]
    · obtain ⟨e', he', ht⟩ := h
      refine ih ⟨e', (List.mem_cons.mp he').resolve_left ?_, ht⟩
      rintro rfl
      exact he ht

theorem asked_of_not_mem (h : ¬∃ e ∈ calls, e.tx_str = t) : asked t calls set = set := by
  induction calls with
  | nil => rfl
  | cons e calls ih =>
    have he : e.tx_str ≠ t := fun ht => h ⟨e, List.mem_cons_self, ht⟩
    rw [asked_cons, if_neg he]
    refine ih fun ⟨e', he', ht⟩ => h ⟨e', List.mem_cons_of_mem _ he', ht⟩

end

def EcState.target (s : EcState) (t : StreamId) : Option DeviceId := asked t s.pending (s.ec_ref t)

/-- A tx stream that is registered is active, and runs on that device only. -/
structure EcEnv.Lists (env : EcEnv) (cfg : EcConfig) (s : EcState) : Prop where
  active : env.mActiveStreams.Nodup
  map : env.activeStreamMap.Nodup
  tx : ∀ d t, (d, t) ∈ s.active_devices → cfg.direction t = PAL_AUDIO_INPUT →
    t ∈ env.mActiveStreams ∧ env.getAssociatedDevices t = [d]

namespace EcState

/-- The start of a tx stream finds the registered rx streams that are eligible: they play, are all
on one device, and no others do that the code would count; no call of an rx stream has still to
come to it. -/
structure TxStartOk (cfg : EcConfig) (env : EcEnv) (s : EcState) (d : DeviceId) (t : StreamId) :
    Prop where
  not_awaited : ∀ r x ec_on, ¬s.Awaits r x ec_on t
  plays : ∀ r x, (r, x) ∈ s.active_devices → cfg.eligible ⟨d, r, t⟩ x = true →
    x ∈ env.mActiveStreams ∧ x ∈ env.activeStreamMap ∧ r ∈ env.getAssociatedDevices x ∧
      env.isPlaying x = true ∧ isOutDevice r = true
  one_device : ∀ r x r' x', (r, x) ∈ s.active_devices → (r', x') ∈ s.active_devices →
    cfg.eligible ⟨d, r, t⟩ x = true → cfg.eligible ⟨d, r', t⟩ x' = true → r = r'
  no_others : cfg.getECEnableSetting d t = true → ∀ r x, (r, x) ∈ s.active_devices →
    env.isPlaying x = true → cfg.direction x ≠ PAL_AUDIO_INPUT →
    cfg.getEcRefStatus (cfg.type t) (cfg.type x) = true → cfg.checkECRef r d = true →
    cfg.eligible ⟨d, r, t⟩ x = true

/-- What the call of an rx stream finds at a tx stream it comes to: when it starts, the tx stream is
still registered and no other device is counted for it; when it stops, it does not take off what
others contributed after its own enabling failed. -/
def RxVisitOk (s : EcState) (rx_dev : DeviceId) (rx_stream : StreamId) (ec_on : Bool)
    (tx_dev : DeviceId) (tx_str : StreamId) : Prop :=
  if ec_on then (tx_dev, tx_str) ∈ s.active_devices ∧ ∀ r ≠ rx_dev, ¬s.HasCounted tx_str r
  else rx_stream ∈ s.failed ⟨tx_dev, rx_dev, tx_str⟩ →
    s.contributed ⟨tx_dev, rx_dev, tx_str⟩ = ∅

/-- Every tx stream that the loop comes to, up to the next `setECRefL`, is found so. -/
def RxLoopOk (cfg : EcConfig) (env : EcEnv) (rx_dev : DeviceId) (rx_stream : StreamId)
    (ec_on : Bool) : EcState → List StreamId → Prop
  | _, [] => True
  | s, tx_str :: rest =>
    match visitedTxDevice cfg env tx_str with
    | none => RxLoopOk cfg env rx_dev rx_stream ec_on s rest
    | some tx_dev =>
      let res := s.countRxStream cfg rx_dev rx_stream ec_on tx_dev tx_str
      s.RxVisitOk rx_dev rx_stream ec_on tx_dev tx_str ∧
        (res.1 ≠ (if ec_on then 1 else 0) → RxLoopOk cfg env rx_dev rx_stream ec_on res.2 rest)

end EcState

/-- The contribution of the rx stream to the count is given up when the call fails; that of all of
them when a tx stream started, unless its device does not support the operation. -/
def EcCall.givesUp (c : EcCall) (status : ℤ) (k : EcKey) (y : StreamId) : Prop :=
  c.ec_on = true ∧ k.tx_dev = c.tx_dev ∧ k.tx_str = c.tx_str ∧ c.rx_dev = some k.rx_dev ∧
    match c.caller with
    | .tx _ => status ≠ -ENODEV
    | .rx x _ => y = x

namespace EcState

/-- An rx stream on the device stays counted for the tx stream when the call fails. -/
def Remains (s : EcState) (c : EcCall) (status : ℤ) (r : DeviceId) : Prop :=
  ∃ d, ∃ y ∈ s.contributed ⟨d, r, c.tx_str⟩, ¬c.givesUp status ⟨d, r, c.tx_str⟩ y

/-- The answer of the call that was the one at the place, and is no longer pending. -/
structure AnswerOk (cfg : EcConfig) (env : EcEnv) (s : EcState) (i : ℕ) (c : EcCall) (status : ℤ)
    (resets : Bool) : Prop where
  /-- A device that the session resets is not counted. -/
  reset : resets = true → c.ec_on = true → ∀ r, s.ec_ref c.tx_str = some r → c.rx_dev ≠ some r →
    ¬s.HasCounted c.tx_str r
  /-- The start of a tx stream that failed gives up what it counted, and nothing else was counted
  since. -/
  tx_failed : status ≠ 0 → c.ec_on = true → ∀ r counted, c.rx_dev = some r →
    c.caller = .tx counted →
    if status = -ENODEV then Disjoint (s.contributed ⟨c.tx_dev, r, c.tx_str⟩) counted
    else s.contributed ⟨c.tx_dev, r, c.tx_str⟩ ⊆ counted
  /-- An rx stream whose enabling failed takes its own contribution back. -/
  rx_failed : status ≠ 0 → c.ec_on = true → ∀ r x rest, c.rx_dev = some r →
    c.caller = .rx x rest → x ∈ s.contributed ⟨c.tx_dev, r, c.tx_str⟩ ∨
      s.contributed ⟨c.tx_dev, r, c.tx_str⟩ = ∅
  /-- A call that was made last for the tx stream overtakes none that asks for something else. -/
  in_order : s.Busy c.tx_str → ¬s.Later i c.tx_str → s.target c.tx_str = c.wants
  /-- While others wait, a call that fails gives up no device. -/
  kept : s.Busy c.tx_str → status ≠ 0 → c.ec_on = true → ∀ r, s.HasCounted c.tx_str r →
    s.Remains c status r
  /-- The last one to be answered, when it fails to enable the reference: none is set and nothing
  stays counted, or its device is set already and stays counted. -/
  not_enabled : ¬s.Busy c.tx_str → status ≠ 0 → c.ec_on = true →
    (s.ec_ref c.tx_str = none ∧ ∀ r, ¬s.Remains c status r) ∨
      ∃ r, s.ec_ref c.tx_str = some r ∧ c.rx_dev = some r ∧ s.Remains c status r
  /-- The last one to be answered, when it disables the reference: no other device is set, and none
  at all when it fails. -/
  disabled : ¬s.Busy c.tx_str → c.ec_on = false →
    s.ec_ref c.tx_str = none ∨ status = 0 ∧ (c.rx_dev = none ∨ c.rx_dev = s.ec_ref c.tx_str)
  rest : ∀ r x rest, c.rx_dev = some r → c.caller = .rx x rest →
    RxLoopOk cfg env r x c.ec_on ((s.answerECRef cfg env c status resets).settle cfg c status) rest

/-- The state in which the call of an rx stream looks for the tx streams. -/
def rxStart (cfg : EcConfig) (env : EcEnv) (s : EcState) (d : DeviceId) (x : StreamId)
    (ec_on : Bool) (voice : ℤ) : EcState :=
  if cfg.direction x = PAL_AUDIO_INPUT_OUTPUT then s.setVoiceECRef cfg env d x ec_on voice else s

/-- The loop of the call of an rx stream that starts or stops finds the tx streams as it should. -/
def RxCallOk (cfg : EcConfig) (env : EcEnv) (s : EcState) (d : DeviceId) (x : StreamId)
    (ec_on : Bool) (voice : ℤ) : Prop :=
  cfg.isRxStream d x = true →
    RxLoopOk cfg env d x ec_on (s.rxStart cfg env d x ec_on voice)
      ((s.rxStart cfg env d x ec_on voice).getConcurrentTxStreamL cfg env x d)

/-- **The condition on a step.** -/
def EcOk (cfg : EcConfig) (s : EcState) : EcInput → Prop
  | .registerDevice d x voice env =>
    (d, x) ∉ s.active_devices →
      let s' := { s with active_devices := s.active_devices ++ [(d, x)] }
      s.Idle x ∧ env.Lists cfg s' ∧ (cfg.isTxStream x = true → TxStartOk cfg env s' d x) ∧
        s'.RxCallOk cfg env d x true voice
  | .deregisterDevice d x voice env =>
    (d, x) ∈ s.active_devices →
      let s' := { s with active_devices := s.active_devices.erase (d, x) }
      s.Idle x ∧ env.Lists cfg s' ∧ s'.RxCallOk cfg env d x false voice
  | .answer i status resets env =>
    ∀ c, s.pending[i]? = some c →
      env.Lists cfg s ∧
        AnswerOk cfg env { s with pending := s.pending.eraseIdx i } i c status resets

/-! ### What every step keeps -/

/-- The call of the rx stream on the device was handled at the tx stream: it started, and no call
of it has still to come there; or it stopped, and one has. -/
def Handled (cfg : EcConfig) (W : DeviceId → StreamId → Bool → StreamId → Prop) (s : EcState)
    (k : EcKey) (x : StreamId) : Prop :=
  (k.tx_dev, k.tx_str) ∈ s.active_devices ∧ cfg.eligible k x = true ∧
    ((k.rx_dev, x) ∈ s.active_devices ∧ ¬W k.rx_dev x true k.tx_str ∨
      (k.rx_dev, x) ∉ s.active_devices ∧ W k.rx_dev x false k.tx_str)

/-- The counts are those of the rx streams that were handled and did not fail. `W` are the visits
that calls have still to make. -/
structure Tallied (cfg : EcConfig) (W : DeviceId → StreamId → Bool → StreamId → Prop)
    (s : EcState) : Prop where
  nodup : s.active_devices.Nodup
  one_tx : ∀ d d' t, cfg.direction t = PAL_AUDIO_INPUT → (d, t) ∈ s.active_devices →
    (d', t) ∈ s.active_devices → d = d'
  counts : ∀ k, cfg.direction k.tx_str = PAL_AUDIO_INPUT →
    Counts (s.ec_ref_count_map k) (s.contributed k)
  disjoint : ∀ k x, x ∈ s.contributed k → x ∉ s.failed k
  handled : ∀ k x, cfg.direction k.tx_str = PAL_AUDIO_INPUT →
    (x ∈ s.contributed k ∨ x ∈ s.failed k ↔ s.Handled cfg W k x)
  starting : ∀ r x t, W r x true t → (r, x) ∈ s.active_devices
  stopping : ∀ r x t, W r x false t → (r, x) ∉ s.active_devices
  rx : ∀ r x ec_on t, W r x ec_on t → cfg.direction x ≠ PAL_AUDIO_INPUT
  tx : ∀ r x ec_on t, W r x ec_on t → cfg.isTxStream t = true
  refers : ∀ r x ec_on t d, W r x ec_on t → (d, t) ∈ s.active_devices →
    cfg.refersTo ⟨d, r, t⟩ x = true
  calls : ∀ c ∈ s.pending, cfg.isTxStream c.tx_str = true
  requesters : (s.pending.map EcCall.requester).Nodup
  rests : ∀ c ∈ s.pending, ∀ x rest, c.caller = .rx x rest → rest.Nodup

/-- The reference that the tx stream is asked to have is that of the device that is counted. -/
def Targeted (s : EcState) (t : StreamId) : Prop := ∀ r, s.target t = some r ↔ s.HasCounted t r

/-- The invariant. -/
structure Inv (cfg : EcConfig) (s : EcState) : Prop where
  tallied : s.Tallied cfg s.Awaits
  targeted : ∀ t, cfg.direction t = PAL_AUDIO_INPUT → s.Targeted t

end EcState

end AudioReachPal.Rm
