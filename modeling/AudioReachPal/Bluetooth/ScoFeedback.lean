import AudioReachPal.Bluetooth.FeedbackStop
import AudioReachPal.Bluetooth.ScoHost

/-!
# The books of a SCO link

The law of a feedback path, for both directions and over every run. A device that is opened first by
the path of the other one is not enabled for its streams; one that is closed while the path ends in
it stays enabled.
-/

namespace AudioReachPal.Bluetooth

open AudioReachPal.Lib
open codec_format_t

/-! ### From the other side -/

def Uses.swap (u : Uses) : Uses := ⟨u.otherOpened, u.otherStarted, u.opened, u.started⟩

namespace Pair

variable {d : Dir} {u : Uses} {p : Pair}

def swap (p : Pair) : Pair := ⟨p.mFBDev, p.dev, p.line⟩

theorem Books.swap (h : p.Books d u) : p.swap.Books d.other u.swap := by
  refine ⟨⟨h.mFBDev, h.dev, ?_, h.plugins.trans (Nat.add_comm ..)⟩, fun hother hdev => ?_⟩
  · show p.line.ids.Balanced (p.mFBDev.heldIds d.other + p.dev.heldIds d.other.other)
    rw [Dir.other_other, add_comm]
    exact h.ids
  · exact h.quiet hdev hother

end Pair

namespace Sco

variable {σ τ : Sco} {d : Dir} {c : ScoCall}

/-- The uses of a device and the other one by their streams. -/
def uses (σ : Sco) (d : Dir) : Uses :=
  ⟨σ.opened d, σ.started d, σ.opened d.other, σ.started d.other⟩

theorem pair_other (σ : Sco) (d : Dir) : σ.pair d.other = (σ.pair d).swap := by
  unfold pair Pair.swap
  rw [Dir.other_other]

theorem uses_other (σ : Sco) (d : Dir) : σ.uses d.other = (σ.uses d).swap := by
  unfold uses Uses.swap
  rw [Dir.other_other]

/-! ### The law -/

/-- The feedback paths of both directions are accounted for. -/
def FeedbackLaw (σ : Sco) : Prop := ∀ d, (σ.pair d).Books d (σ.uses d)

theorem feedbackLaw_iff (d : Dir) : σ.FeedbackLaw ↔ (σ.pair d).Books d (σ.uses d) := by
  refine ⟨fun h => h d, fun h e => ?_⟩
  obtain rfl | rfl := d.eq_or_eq_other e
  · exact h
  · rw [pair_other, uses_other]
    exact h.swap

/-- What the law lets hold besides. -/
def FeedbackKept (σ : Sco) : Prop := ∀ d, (σ.dev d).Kept

theorem FeedbackKept.pair (h : σ.FeedbackKept) (d : Dir) : (σ.pair d).Kept := ⟨h d, h d.other⟩

theorem feedbackKept_of (d : Dir) (h : (σ.pair d).Kept) : σ.FeedbackKept := by
  intro e
  obtain rfl | rfl := d.eq_or_eq_other e
  · exact h.dev
  · exact h.mFBDev

/-- The call keeps the law: the path of the other device does not end in a device that is opened for
its first stream or closed for its last one, and a start and a stop keep the law of a path. -/
def feedbackHeld (σ : Sco) : ScoCall → Prop
  | .open d _ => σ.opened d = 0 → (σ.dev d.other).mAbrRefCnt = 0
  | .close d => σ.opened d = 1 → σ.started d = 0 → (σ.dev d.other).mAbrRefCnt = 0
  | .start d a => σ.MayStart d a → (σ.hear d a).1 = 0 → ((σ.hear d a).2.pair d).StartHeld a
  | .stop d a => (σ.pair d).StopHeld (σ.uses d) a
  | .setDeviceParameter _ => True

/-! ### The devices after a call -/

theorem pair_setPair (σ : Sco) (d : Dir) (p : Pair) : (σ.setPair d p).pair d = p := by
  unfold setPair pair
  dsimp only
  rw [if_pos rfl, if_neg (Dir.other_ne d)]

theorem pair_setDev (σ : Sco) (d : Dir) (b : BtDevice) :
    (σ.setDev d b).pair d = { σ.pair d with dev := b } := by
  unfold setDev pair
  dsimp only
  rw [Function.update_self, Function.update_of_ne (Dir.other_ne d)]

theorem uses_opened {n : ℕ} (hopened : τ.opened = Function.update σ.opened d n)
    (hstarted : τ.started = σ.started) : τ.uses d = { σ.uses d with opened := n } := by
  unfold uses
  rw [hopened, hstarted, Function.update_self, Function.update_of_ne (Dir.other_ne d)]

theorem uses_started {n : ℕ} (hopened : τ.opened = σ.opened)
    (hstarted : τ.started = Function.update σ.started d n) :
    τ.uses d = { σ.uses d with started := n } := by
  unfold uses
  rw [hopened, hstarted, Function.update_self, Function.update_of_ne (Dir.other_ne d)]

/-! ### Opening and closing -/

end Sco

namespace BtDevice

variable {b : BtDevice} {o s n : ℕ}

theorem Books.open_iff (h : b.Books o s n) (a : DeviceAnswers) (hn : n ≤ 1) :
    (b.open a).2.Books (if (b.open a).1 = 0 then o + 1 else o) s n ↔ (o = 0 → n = 0) := by
  have hcount := h.deviceCount
  unfold BtDevice.open
  by_cases hzero : b.deviceCount = 0
  · have hno : n = 0 := by omega
    rw [if_pos hzero]
    refine iff_of_true ?_ fun _ => hno
    by_cases hroute : a.getAudioRoute = 0
    · rw [if_neg (not_not.mpr hroute)]
      by_cases hname : a.getSndDeviceName = 0
      · rw [if_neg (not_not.mpr hname)]
        dsimp only
        rw [if_pos rfl]
        exact ⟨congrArg (· + 1) hcount |>.trans (Nat.add_right_comm ..), h.2,
          iff_of_true rfl (Nat.succ_pos o), h.4, h.5, h.6⟩
      · rw [if_pos hname]
        dsimp only
        rw [if_neg hname]
        exact h
    · rw [if_pos hroute]
      dsimp only
      rw [if_neg hroute]
      exact h
  · rw [if_neg hzero]
    dsimp only
    rw [if_pos rfl]
    constructor
    · intro hb ho
      by_contra hne
      have henabled := hb.enabled.mpr (Nat.succ_pos o)
      have hpos : 0 < o := h.enabled.mp henabled
      omega
    · intro hok
      have hpos : 0 < o := by omega
      exact ⟨congrArg (· + 1) hcount |>.trans (Nat.add_right_comm ..), h.2,
        iff_of_true (h.enabled.mpr hpos) (Nat.succ_pos o), h.4, h.5, h.6⟩

theorem Books.close_iff (h : b.Books o s n) (ho : s < o) :
    b.close.Books (o - 1) s n ↔ (o = 1 → n = 0) := by
  have hcount := h.deviceCount
  unfold BtDevice.close
  rw [if_pos (by omega)]
  dsimp only
  by_cases hlast : b.deviceCount - 1 = 0
  · rw [if_pos hlast]
    have hs : s = 0 := by omega
    have hnone : n = 0 := by omega
    refine iff_of_true ⟨?_, ?_, iff_of_false nofun (by omega), h.4, h.5, h.6⟩ fun _ => hnone
    · show b.deviceCount - 1 = o - 1 + n
      omega
    · show 0 = s + n
      omega
  · rw [if_neg hlast]
    constructor
    · intro hb hone
      have hpos : 0 < o - 1 := hb.enabled.mp (h.enabled.mpr (by omega))
      omega
    · intro hok
      refine ⟨?_, h.2, iff_of_true (h.enabled.mpr (by omega)) (by omega), h.4, h.5, h.6⟩
      show b.deviceCount - 1 = o - 1 + n
      omega

theorem open_frame (b : BtDevice) (a : DeviceAnswers) : ∃ enabled count,
    (b.open a).2 = { b with enabled := enabled, deviceCount := count } := by
  unfold BtDevice.open
  split_ifs <;> exact ⟨_, _, rfl⟩

theorem close_frame (b : BtDevice) : ∃ enabled count started,
    b.close = { b with
      enabled := enabled, deviceCount := count, deviceStartStopCount := started } := by
  unfold BtDevice.close
  dsimp only
  split_ifs <;> exact ⟨_, _, _, rfl⟩

theorem share_le_one (b : BtDevice) : b.share ≤ 1 := by
  unfold share
  split_ifs <;> omega

theorem share_eq_zero {b : BtDevice} : b.share = 0 ↔ b.mAbrRefCnt = 0 := by
  unfold share
  by_cases h : 0 < b.mAbrRefCnt
  · rw [if_pos h]
    exact iff_of_false one_ne_zero (Nat.ne_of_gt h)
  · rw [if_neg h]
    exact iff_of_true rfl (Nat.eq_zero_of_not_pos h)

end BtDevice

namespace Sco

variable {σ τ : Sco} {d : Dir} {c : ScoCall}

theorem FeedbackLaw.opened_iff (hl : σ.FeedbackLaw) (a : DeviceAnswers)
    (ht : σ.step (.open d a) = some τ) :
    τ.FeedbackLaw ↔ (σ.opened d = 0 → (σ.dev d.other).mAbrRefCnt = 0) := by
  have hd := hl d
  have hopen := hd.dev.open_iff a (BtDevice.share_le_one _)
  have hpair : τ.pair d = { σ.pair d with dev := ((σ.dev d).open a).2 } ∧
      τ.uses d = { σ.uses d with
        opened := if ((σ.dev d).open a).1 = 0 then σ.opened d + 1 else σ.opened d } := by
    cases ht
    split_ifs
    · exact ⟨pair_setDev .., uses_opened rfl rfl⟩
    · exact ⟨pair_setDev .., rfl⟩
  obtain ⟨enabled, count, heq⟩ := BtDevice.open_frame (σ.dev d) a
  rw [feedbackLaw_iff d, hpair.1, hpair.2, ← BtDevice.share_eq_zero]
  refine Iff.trans ⟨fun h => h.dev, fun h => ?_⟩ hopen
  rw [heq] at h ⊢
  exact ⟨⟨h, hd.mFBDev, hd.ids, hd.plugins⟩, hd.quiet⟩

theorem FeedbackLaw.closed_iff (hl : σ.FeedbackLaw) (ht : σ.step (.close d) = some τ) :
    τ.FeedbackLaw ↔ (σ.opened d = 1 → (σ.dev d.other).mAbrRefCnt = 0) := by
  have hd := hl d
  obtain ⟨hopened, hpair, huses⟩ : σ.started d < σ.opened d ∧
      τ.pair d = { σ.pair d with dev := (σ.dev d).close } ∧
      τ.uses d = { σ.uses d with opened := σ.opened d - 1 } := by
    simp only [step] at ht
    split_ifs at ht with hopened
    cases ht
    exact ⟨hopened, pair_setDev .., uses_opened rfl rfl⟩
  have hclose := hd.dev.close_iff hopened
  obtain ⟨enabled, count, started, heq⟩ := BtDevice.close_frame (σ.dev d)
  rw [feedbackLaw_iff d, hpair, huses, ← BtDevice.share_eq_zero]
  refine Iff.trans ⟨fun h => h.dev, fun h => ?_⟩ hclose
  rw [heq] at h ⊢
  exact ⟨⟨h, hd.mFBDev, hd.ids, hd.plugins⟩, hd.quiet⟩

/-! ### Starting and stopping -/

theorem stopBTHost_dev (σ : Sco) : σ.stopBTHost.2.dev = σ.dev := by
  unfold stopBTHost
  dsimp only
  split_ifs <;> rfl

theorem heard_dev (σ : Sco) (a : ScoStartAnswers) : (σ.heard a).2.dev = σ.dev := by
  have hstart : σ.startBTHost.2.dev = σ.dev := by
    unfold startBTHost
    split_ifs <;> rfl
  refine Eq.trans ?_ hstart
  unfold heard getCodecConfigFromBTHost
  dsimp only
  split_ifs
  · rfl
  · split
    · rfl
    · split <;> rfl

/-- A host that answers has told the device its codec. -/
theorem pair_of_hear {a : ScoStartAnswers} (h : (σ.hear d a).1 = 0) :
    ∃ s : ScoStatics, (σ.hear d a).2.pair d =
      { σ.pair d with dev := (σ.dev d).setFormat s.format } := by
  have hline := (sameStreams_heard σ a).line
  rcases hear_cases σ d a with ⟨hne, heq⟩ | ⟨-, hne, heq⟩ | ⟨-, -, heq⟩
  · rw [heq] at h
    exact absurd h hne
  · rw [heq] at h
    exact absurd h hne
  · refine ⟨(σ.heard a).2.statics, ?_⟩
    rw [heq]
    refine (pair_setDev ..).trans ?_
    unfold pair
    rw [heard_dev, hline]

/-- Another answer leaves the devices and the line as they are. -/
theorem pair_of_not_hear {a : ScoStartAnswers} (h : (σ.hear d a).1 ≠ 0) :
    (σ.hear d a).2.pair d = σ.pair d := by
  have hdev : (σ.hear d a).2.dev = σ.dev := by
    have hstart : σ.startBTHost.2.dev = σ.dev := by
      unfold startBTHost
      split_ifs <;> rfl
    rcases hear_cases σ d a with ⟨-, heq⟩ | ⟨-, -, heq⟩ | ⟨-, -, heq⟩
    · rw [heq]
      exact hstart
    · rw [heq]
      exact (stopBTHost_dev _).trans (heard_dev σ a)
    · rw [heq] at h
      exact absurd rfl h
  unfold pair
  rw [hdev, (sameStreams_hear σ d a).line]

end Sco

namespace ScoStatics

/-- The codec of a start is one that a SCO device has, or none. -/
theorem format_cases (s : ScoStatics) : s.format = CODEC_TYPE_APTX_AD_SPEECH ∨
    s.format = CODEC_TYPE_LC3 ∨ s.format = CODEC_TYPE_INVALID := by
  unfold format
  split_ifs
  · exact .inl rfl
  · exact .inr (.inl rfl)
  · exact .inr (.inr rfl)

end ScoStatics

namespace BtDevice

variable {b : BtDevice} {s : ScoStatics}

theorem setFormat_frame (b : BtDevice) (f : codec_format_t) : ∃ abr,
    b.setFormat f = { b with mCodecFormat := f, mIsAbrEnabled := abr } := by
  unfold setFormat
  split_ifs
  · exact ⟨false, rfl⟩
  · exact ⟨b.mIsAbrEnabled, rfl⟩

theorem setFormat_plain (b : BtDevice) (s : ScoStatics) (h : ¬ (b.setFormat s.format).isSwb) :
    (b.setFormat s.format).mIsAbrEnabled = false := by
  unfold setFormat at h ⊢
  rcases s.format_cases with hf | hf | hf
  · rw [hf] at h
    exact absurd (.inl rfl) h
  · rw [hf] at h
    exact absurd (.inr rfl) h
  · rw [hf, if_pos rfl]

theorem Kept.setFormat (h : b.Kept) (s : ScoStatics) : (b.setFormat s.format).Kept := by
  refine ⟨fun hpos => ?_, fun _ habr => ?_⟩
  · obtain ⟨abr, heq⟩ := setFormat_frame b s.format
    rw [heq] at hpos ⊢
    exact h.configured hpos
  · by_contra hno
    rw [setFormat_plain b s hno] at habr
    cases habr

end BtDevice

namespace Sco

variable {σ τ : Sco} {d : Dir} {c : ScoCall} {a : ScoStartAnswers}

/-- The books before the device starts. -/
theorem FeedbackLaw.hear (hl : σ.FeedbackLaw) (h : (σ.hear d a).1 = 0) :
    ((σ.hear d a).2.pair d).Books d (σ.uses d) := by
  obtain ⟨s, heq⟩ := pair_of_hear h
  have hd := hl d
  obtain ⟨abr, hformat⟩ := BtDevice.setFormat_frame (σ.dev d) s.format
  rw [heq, hformat]
  exact ⟨⟨⟨hd.dev.1, hd.dev.2, hd.dev.3, hd.dev.4, hd.dev.5, hd.dev.6⟩, hd.mFBDev, hd.ids,
    hd.plugins⟩, hd.quiet⟩

theorem FeedbackKept.hear (hk : σ.FeedbackKept) (h : (σ.hear d a).1 = 0) :
    ((σ.hear d a).2.pair d).Kept := by
  obtain ⟨s, heq⟩ := pair_of_hear h
  rw [heq]
  exact ⟨(hk d).setFormat s, hk d.other⟩

theorem plain_of_hear (h : (σ.hear d a).1 = 0) (hno : ¬ ((σ.hear d a).2.pair d).dev.isSwb) :
    ((σ.hear d a).2.pair d).dev.mIsAbrEnabled = false := by
  obtain ⟨s, heq⟩ := pair_of_hear h
  rw [heq] at hno ⊢
  exact BtDevice.setFormat_plain _ s hno

theorem start_of_hear (h : (σ.hear d a).1 = 0) : σ.start d a =
    ((((σ.hear d a).2.pair d).start d a).1,
      (σ.hear d a).2.setPair d (((σ.hear d a).2.pair d).start d a).2) := by
  unfold start
  dsimp only
  rw [if_neg (not_not.mpr h)]

theorem start_of_not_hear (h : (σ.hear d a).1 ≠ 0) : σ.start d a = σ.hear d a := by
  unfold start
  dsimp only
  rw [if_pos h]

/-- A start, from the pair of devices on. -/
theorem step_start (ht : σ.step (.start d a) = some τ) :
    τ.pair d = (σ.start d a).2.pair d ∧ τ.uses d = (σ.uses d).after (σ.start d a).1 := by
  have hstreams := sameStreams_hear σ d a
  have hhost := sameHost_start σ d a
  have hopened := hhost.opened.trans hstreams.opened
  have hstarted := hhost.started.trans hstreams.started
  unfold Uses.after
  simp only [step] at ht
  split_ifs at ht with hmay hzero <;> cases ht
  · refine ⟨rfl, ?_⟩
    rw [if_pos hzero]
    exact uses_started hopened rfl
  · refine ⟨rfl, ?_⟩
    rw [if_neg hzero]
    unfold uses
    rw [hopened, hstarted]

theorem mayStart_of_step (ht : σ.step (.start d a) = some τ) : σ.MayStart d a := by
  simp only [step] at ht
  split_ifs at ht with hmay <;> exact hmay

theorem FeedbackLaw.started_iff (hl : σ.FeedbackLaw) (ht : σ.step (.start d a) = some τ) :
    τ.FeedbackLaw ↔ ((σ.hear d a).1 = 0 → ((σ.hear d a).2.pair d).StartHeld a) := by
  obtain ⟨hpair, huses⟩ := step_start ht
  rw [feedbackLaw_iff d, hpair, huses]
  by_cases hhear : (σ.hear d a).1 = 0
  · rw [forall_prop_of_true hhear, start_of_hear hhear, pair_setPair]
    refine (hl.hear hhear).start_iff a (plain_of_hear hhear) ?_
    have hfresh := (mayStart_of_step ht).2
    rw [← (sameStreams_hear σ d a).line] at hfresh
    exact hfresh
  · refine iff_of_true ?_ fun hyes => absurd hyes hhear
    rw [start_of_not_hear hhear, pair_of_not_hear hhear]
    unfold Uses.after
    rw [if_neg hhear]
    exact hl d

/-- A stop, from the pair of devices on. -/
theorem step_stop {a : StopAbrAnswers} (ht : σ.step (.stop d a) = some τ) :
    0 < σ.started d ∧ τ.pair d = (σ.pair d).stop d a ∧ τ.uses d = (σ.uses d).stopped := by
  have hstreams := sameStreams_stopBTHost σ
  have hpair : σ.stopBTHost.2.pair d = σ.pair d := by
    unfold pair
    rw [stopBTHost_dev, hstreams.line]
  simp only [step] at ht
  split_ifs at ht with hpos
  cases ht
  refine ⟨hpos, ?_, ?_⟩
  · show (σ.stop d a).pair d = _
    unfold stop
    dsimp only
    rw [pair_setPair, hpair]
  · have hhost := sameHost_stop σ d a
    exact uses_started (hhost.opened.trans hstreams.opened) rfl

theorem FeedbackLaw.stopped_iff {a : StopAbrAnswers} (hl : σ.FeedbackLaw) (hk : σ.FeedbackKept)
    (ht : σ.step (.stop d a) = some τ) : τ.FeedbackLaw ↔ (σ.pair d).StopHeld (σ.uses d) a := by
  obtain ⟨hpos, hpair, huses⟩ := step_stop ht
  rw [feedbackLaw_iff d, hpair, huses]
  exact (hl d).stop_iff (hk.pair d) hpos a

/-! ### Every run -/

/-- Parameters are about the host and the statics. -/
theorem setDeviceParameter_frame (σ : Sco) (param : ScoParam) :
    (σ.setDeviceParameter param).dev = σ.dev ∧ (σ.setDeviceParameter param).line = σ.line ∧
      (σ.setDeviceParameter param).opened = σ.opened ∧
      (σ.setDeviceParameter param).started = σ.started := by
  cases param with
  | DEVICE_CONNECTION b =>
    cases b
    · show σ.closeBTHost.dev = _ ∧ σ.closeBTHost.line = _ ∧ σ.closeBTHost.opened = _ ∧
        σ.closeBTHost.started = _
      unfold closeBTHost
      split_ifs <;> exact ⟨rfl, rfl, rfl, rfl⟩
    · show σ.openBTHost.dev = _ ∧ σ.openBTHost.line = _ ∧ σ.openBTHost.opened = _ ∧
        σ.openBTHost.started = _
      unfold openBTHost
      split_ifs <;> exact ⟨rfl, rfl, rfl, rfl⟩
  | _ => exact ⟨rfl, rfl, rfl, rfl⟩

/-- A step that keeps the law keeps what it lets hold. -/
theorem FeedbackKept.step (hk : σ.FeedbackKept) (hl : σ.FeedbackLaw) (ht : σ.step c = some τ)
    (hlaw : τ.FeedbackLaw) : τ.FeedbackKept := by
  cases c with
  | «open» d a =>
    obtain ⟨enabled, count, heq⟩ := BtDevice.open_frame (σ.dev d) a
    refine feedbackKept_of d ?_
    have hpair : τ.pair d = { σ.pair d with dev := ((σ.dev d).open a).2 } := by
      cases ht
      split_ifs <;> exact pair_setDev ..
    rw [hpair, heq]
    exact ⟨⟨(hk d).configured, (hk d).format⟩, hk d.other⟩
  | close d =>
    obtain ⟨enabled, count, started, heq⟩ := BtDevice.close_frame (σ.dev d)
    refine feedbackKept_of d ?_
    have hpair : τ.pair d = { σ.pair d with dev := (σ.dev d).close } := by
      simp only [Sco.step] at ht
      split_ifs at ht
      cases ht
      exact pair_setDev ..
    rw [hpair, heq]
    exact ⟨⟨(hk d).configured, (hk d).format⟩, hk d.other⟩
  | start d a =>
    refine feedbackKept_of d ?_
    rw [(step_start ht).1]
    by_cases hhear : (σ.hear d a).1 = 0
    · rw [start_of_hear hhear, pair_setPair]
      refine (hk.hear hhear).start (hl.hear hhear) a (plain_of_hear hhear) ?_
      have hfresh := (mayStart_of_step ht).2
      rw [← (sameStreams_hear σ d a).line] at hfresh
      exact hfresh
    · rw [start_of_not_hear hhear, pair_of_not_hear hhear]
      exact hk.pair d
  | stop d a =>
    obtain ⟨hpos, hpair, huses⟩ := step_stop ht
    refine feedbackKept_of d ?_
    have hlaw := hlaw d
    rw [hpair, huses] at hlaw
    rw [hpair]
    exact (hk.pair d).stop (hl d) hpos a hlaw
  | setDeviceParameter param =>
    cases ht
    intro d
    rw [(setDeviceParameter_frame σ param).1]
    exact hk d

theorem feedbackLaw_init (mFBPcm : Dir → Bool) : (init mFBPcm).FeedbackLaw := by
  intro d
  have hnew : ∀ e, ((init mFBPcm).dev e).Books 0 0 0 := by
    intro e
    exact ⟨rfl, rfl, iff_of_false nofun nofun, nofun, nofun, rfl⟩
  exact ⟨⟨hnew d, hnew d.other, Stock.Balanced.empty, rfl⟩, fun _ _ => rfl⟩

/-- **The books of a SCO link.** Each device is counted by the streams that have it open and
started, and by the path of the other one; it is enabled for its streams; a path that runs holds one
front end id, which nothing else has; each plugin is held, and the mixer's channel is reset while no
path runs. That is so in every state of a run if and only if every call of it keeps it. -/
theorem feedbackLaw_iff_feedbackHeld (mFBPcm : Dir → Bool) (calls : List ScoCall) :
    (∀ js σ, js <+: calls → run step (init mFBPcm) js = some σ → σ.FeedbackLaw) ↔
      Meets step feedbackHeld (init mFBPcm) calls := by
  have hkept : ∀ (σ : Sco) c τ, σ.FeedbackKept → σ.FeedbackLaw → σ.step c = some τ →
      τ.FeedbackLaw → τ.FeedbackKept := fun _ _ _ hk hl ht hlaw => hk.step hl ht hlaw
  refine law_prefixes_iff_meets_of_law hkept ?_ (fun d => ⟨nofun, nofun⟩) (feedbackLaw_init mFBPcm)
  intro σ c _ hk hl
  cases hstep : σ.step c with
  | none =>
    refine iff_of_true (fun t ht => absurd ht.symm (Option.some_ne_none t)) ?_
    cases c with
    | close d =>
      simp only [step] at hstep
      split_ifs at hstep with hopened
      exact fun hone hzero => absurd (by omega) hopened
    | start d a =>
      simp only [step] at hstep
      split_ifs at hstep with hmay
      exact fun hyes => absurd hyes hmay
    | stop d a =>
      simp only [step] at hstep
      split_ifs at hstep with hpos
      have hrunning : ¬ 0 < (σ.dev d).mAbrRefCnt := fun hrun => hpos ((hl d).dev.running hrun)
      refine ⟨fun hone => ?_, fun _ hone => ?_⟩
      · change σ.started d = 1 at hone
        omega
      · change (σ.dev d).mAbrRefCnt = 1 at hone
        omega
    | _ => cases hstep
  | some τ =>
    have hthe : (∀ t, some τ = some t → t.FeedbackLaw) ↔ τ.FeedbackLaw :=
      ⟨fun hall => hall τ rfl, fun hlaw t ht => Option.some.inj ht ▸ hlaw⟩
    rw [hthe]
    cases c with
    | «open» d a => exact hl.opened_iff a hstep
    | close d =>
      rw [hl.closed_iff hstep]
      simp only [step] at hstep
      split_ifs at hstep with hopened
      exact ⟨fun hok hone _ => hok hone, fun hok hone => hok hone (by omega)⟩
    | start d a =>
      rw [hl.started_iff hstep]
      exact ⟨fun hok _ => hok, fun hok => hok (mayStart_of_step hstep)⟩
    | stop d a => exact hl.stopped_iff hk hstep
    | setDeviceParameter param =>
      refine iff_of_true (fun d => ?_) trivial
      cases hstep
      obtain ⟨hdev, hline, hopened, hstarted⟩ := setDeviceParameter_frame σ param
      unfold pair uses
      rw [hdev, hline, hopened, hstarted]
      exact hl d

end Sco

end AudioReachPal.Bluetooth
