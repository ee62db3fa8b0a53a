import AudioReachPal.Bluetooth.FeedbackBooks

/-!
# Stopping a feedback path

The last stop of a path closes it and takes its use from the other device. What the source does not
look at is whether the device is still told that it has a path, and whether the mixer's channel is
reset.
-/

namespace AudioReachPal.Bluetooth

open AudioReachPal.Lib
open codec_format_t

/-! ### The other device -/

namespace BtDevice

variable {b : BtDevice} {o s : ℕ}

/-- The device with a use less. -/
theorem Books.unshare (h : b.Books o s 1) : ∃ abr conf, b.unshare = { b with
      mIsAbrEnabled := abr
      mIsConfigured := conf
      deviceStartStopCount := s
      deviceCount := o } ∧
    (0 < s → abr = b.mIsAbrEnabled ∧ conf = b.mIsConfigured) := by
  have hstart := h.deviceStartStopCount
  have hcount := h.deviceCount
  have hend : ∀ b' : BtDevice, b.unshareStart = b' → b'.deviceCount = o + 1 →
      b.unshare = { b' with deviceCount := o } := by
    intro b' hb' hcount'
    unfold BtDevice.unshare
    rw [hb']
    dsimp only
    rw [if_pos (by omega), hcount', Nat.add_sub_cancel]
  have hpos : 0 < b.deviceStartStopCount := by omega
  have hless : b.deviceStartStopCount - 1 = s := by omega
  by_cases hs : s = 0
  · have hlast : b.unshareStart = { b with
        deviceStartStopCount := s, mIsConfigured := false, mIsAbrEnabled := false } := by
      unfold BtDevice.unshareStart
      rw [if_pos hpos, hless]
      exact if_pos hs
    exact ⟨_, _, hend _ hlast hcount, fun hpos => absurd hs (Nat.ne_of_gt hpos)⟩
  · have hmore : b.unshareStart = { b with deviceStartStopCount := s } := by
      unfold BtDevice.unshareStart
      rw [if_pos hpos, hless]
      exact if_neg hs
    exact ⟨_, _, hend _ hmore hcount, fun _ => ⟨rfl, rfl⟩⟩

end BtDevice

/-! ### What a stop of the path does -/

/-- The mixer's channel is found and reset. -/
def StopAbrAnswers.Resets (a : StopAbrAnswers) : Prop :=
  a.btSetFeedbackChannelCtrl = true ∧ a.mixer_ctl_set_value = 0

namespace Pair

variable {d : Dir} {u : Uses} {p q : Pair} {a : StopAbrAnswers}

inductive AbrStopped (d : Dir) (a : StopAbrAnswers) (p : Pair) : Pair → Prop
  | idle (h : p.dev.mAbrRefCnt = 0) : AbrStopped d a p p
  | again (h : 1 < p.dev.mAbrRefCnt) :
      AbrStopped d a p { p with dev.mAbrRefCnt := p.dev.mAbrRefCnt - 1 }
  | stopped (h : p.dev.mAbrRefCnt = 1) (channel : ℤ) (abr : Bool)
      (hchannel : channel = 0 ↔ a.Resets ∨ p.line.feedbackChannel = 0)
      (habr : abr = true → p.dev.mIsAbrEnabled = true) :
      AbrStopped d a p { p with
        dev.mFBPcm := false
        dev.mAbrRefCnt := 0
        dev.mFBPcmDevIds := []
        dev.mIsAbrEnabled := abr
        mFBDev := p.mFBDev.unshare
        line.feedbackChannel := channel
        line.ids := p.line.ids.giveBackAll
          (p.dev.mFBPcmDevIds.map fun id => (hostlessKey d.mCodecType, id)) }

theorem resetChannel_eq (p : Pair) (a : StopAbrAnswers) :
    ∃ channel, p.resetChannel a = { p with line.feedbackChannel := channel } ∧
      (channel = 0 ↔ a.Resets ∨ p.line.feedbackChannel = 0) := by
  unfold resetChannel StopAbrAnswers.Resets
  by_cases h : a.btSetFeedbackChannelCtrl = true ∧ a.mixer_ctl_set_value = 0
  · rw [if_pos (by simpa using h)]
    exact ⟨0, rfl, iff_of_true rfl (.inl h)⟩
  · rw [if_neg (by simpa using h)]
    exact ⟨p.line.feedbackChannel, rfl, (or_iff_right h).symm⟩

/-- A path of a SCO device is counted out once. -/
theorem countOut_sco (hf : p.dev.isSwb) : p.countOut d.id = p.unshare := by
  unfold countOut
  obtain hf | hf := hf
  · have hno : countsAtStop p.unshare.dev.mCodecFormat d.id = false := by
      show countsAtStop p.dev.mCodecFormat d.id = false
      rw [hf]
      cases d <;> decide
    simp only [hf, if_true, hno, Bool.false_eq_true, if_false]
  · have hyes : countsAtStop p.dev.mCodecFormat d.id = true := by
      rw [hf]
      cases d <;> decide
    have haptx : ¬ p.dev.mCodecFormat = CODEC_TYPE_APTX_AD_SPEECH := by
      rw [hf]
      decide
    simp only [if_neg haptx, hyes, if_true]

theorem freeIds_of_nonempty (p : Pair) (t : codec_type) :
    (if p.dev.mFBPcmDevIds ≠ [] then p.freeIds t else p) = p.freeIds t := by
  by_cases h : p.dev.mFBPcmDevIds = []
  · rw [if_neg (not_not.mpr h)]
    unfold freeIds
    rw [h]
    simp only [List.map_nil]
    unfold Stock.giveBackAll
    rw [List.foldl_nil, ← h]
  · exact if_pos h

theorem stopFeedback_stopped (h : p.dev.mAbrRefCnt = 1) (hf : p.dev.isSwb) :
    AbrStopped d a p (({ p with dev.mAbrRefCnt := p.dev.mAbrRefCnt - 1 } : Pair).stopFeedback
      d.mCodecType a d.id) := by
  obtain ⟨channel, hreset, hchannel⟩ := resetChannel_eq
    ({ p with dev.mAbrRefCnt := p.dev.mAbrRefCnt - 1, dev.mFBPcm := false } : Pair) a
  have hcount : Pair.countOut { p with
      dev.mAbrRefCnt := p.dev.mAbrRefCnt - 1
      dev.mFBPcm := false
      line.feedbackChannel := channel } d.id = Pair.unshare { p with
      dev.mAbrRefCnt := p.dev.mAbrRefCnt - 1
      dev.mFBPcm := false
      line.feedbackChannel := channel } := countOut_sco hf
  unfold stopFeedback
  dsimp only
  rw [hreset, hcount, freeIds_of_nonempty, h]
  by_cases hlast : p.dev.deviceStartStopCount = 1
  · have hstopped := AbrStopped.stopped (d := d) h channel false hchannel nofun
    refine Eq.mp (congrArg (AbrStopped d a p) ?_) hstopped
    exact (if_pos hlast).symm
  · have hstopped := AbrStopped.stopped (d := d) h channel p.dev.mIsAbrEnabled hchannel id
    refine Eq.mp (congrArg (AbrStopped d a p) ?_) hstopped
    exact (if_neg hlast).symm

theorem stopAbr_stopped (hpcm : 0 < p.dev.mAbrRefCnt → p.dev.mFBPcm = true)
    (hf : 0 < p.dev.mAbrRefCnt → p.dev.isSwb) :
    AbrStopped d a p (p.stopAbr d.mCodecType a d.id) := by
  unfold stopAbr
  by_cases hzero : p.dev.mAbrRefCnt = 0
  · rw [if_pos hzero, ite_self]
    exact .idle hzero
  have hpos : 0 < p.dev.mAbrRefCnt := by omega
  rw [hpcm hpos, if_neg (by decide), if_neg hzero]
  dsimp only
  by_cases hone : 1 < p.dev.mAbrRefCnt
  · rw [if_pos (by omega)]
    exact .again hone
  · rw [if_neg (by omega)]
    exact stopFeedback_stopped (by omega) (hf hpos)

/-! ### What it does to the law -/

theorem AbrStopped.counted (h : AbrStopped d a p q) (hb : p.Counted d u) : q.Counted d u := by
  have hdev := hb.dev
  cases h with
  | idle => exact hb
  | again h =>
    have hpos : 0 < p.dev.mAbrRefCnt := by omega
    have hless : 0 < p.dev.mAbrRefCnt - 1 := by omega
    have hother := hb.mFBDev
    rw [share_of_pos hpos] at hother
    refine ⟨⟨hdev.1, hdev.2, hdev.3, fun _ => hdev.4 hpos, fun _ => hdev.5 hpos, ?_⟩, ?_, hb.ids,
      hb.plugins⟩
    · rw [hdev.ids, share_of_pos hpos]
      exact (share_of_pos hless).symm
    · rw [share_of_pos hless]
      exact hother
  | stopped h channel abr hchannel habr =>
    have hother := hb.mFBDev
    rw [share_of_pos (by omega)] at hother
    obtain ⟨abr', conf', heq, -⟩ := hother.unshare
    have hshare : p.mFBDev.unshare.share = p.mFBDev.share := by
      rw [heq]
      rfl
    refine ⟨⟨hdev.1.trans (by rw [hshare]), hdev.2.trans (by rw [hshare]), hdev.3, nofun, nofun,
      rfl⟩, ?_, ?_, ?_⟩
    · show p.mFBDev.unshare.Books _ _ 0
      rw [heq]
      exact ⟨rfl, rfl, hother.3, hother.4, hother.5, hother.6⟩
    · show (p.line.ids.giveBackAll _).Balanced (0 + p.mFBDev.unshare.heldIds d.other)
      rw [heq, zero_add]
      exact Stock.Balanced.giveBackAll hb.ids
    · show p.line.plugins = p.dev.plugins + p.mFBDev.unshare.plugins
      rw [heq]
      exact hb.plugins

theorem AbrStopped.mAbrRefCnt (h : AbrStopped d a p q) :
    q.dev.mAbrRefCnt = p.dev.mAbrRefCnt - 1 := by
  cases h with
  | idle h => omega
  | again => rfl
  | stopped h =>
    rw [h]

theorem AbrStopped.mFBDev_mAbrRefCnt (h : AbrStopped d a p q) (hb : p.Counted d u) :
    q.mFBDev.mAbrRefCnt = p.mFBDev.mAbrRefCnt := by
  cases h with
  | idle => rfl
  | again => rfl
  | stopped h =>
    have hother := hb.mFBDev
    rw [share_of_pos (by omega)] at hother
    obtain ⟨abr', conf', heq, -⟩ := hother.unshare
    show p.mFBDev.unshare.mAbrRefCnt = _
    rw [heq]

/-- The last path that stops has to reset the channel. -/
theorem AbrStopped.quiet_iff (h : AbrStopped d a p q) (hb : p.Books d u) :
    q.Quiet ↔ (p.dev.mAbrRefCnt = 1 → p.mFBDev.mAbrRefCnt = 0 →
      a.Resets ∨ p.line.feedbackChannel = 0) := by
  have hother := h.mFBDev_mAbrRefCnt hb.toCounted
  cases h with
  | idle h => exact iff_of_true hb.quiet fun hone => absurd (h.symm.trans hone) zero_ne_one
  | again h =>
    refine iff_of_true (fun hzero => ?_) fun hone => absurd hone (Nat.ne_of_gt h)
    change p.dev.mAbrRefCnt - 1 = 0 at hzero
    omega
  | stopped h channel abr hchannel habr =>
    rw [← hchannel]
    constructor
    · exact fun hq _ hzero => hq rfl (hother.trans hzero)
    · exact fun hok _ hzero => hok h (hother.symm.trans hzero)

theorem AbrStopped.kept (h : AbrStopped d a p q) (hb : p.Counted d u) (hk : p.Kept) : q.Kept := by
  cases h with
  | idle => exact hk
  | again h =>
    refine ⟨⟨fun _ => hk.dev.configured (by omega), fun _ => hk.dev.format (by omega)⟩, hk.mFBDev⟩
  | stopped h channel abr hchannel habr =>
    refine ⟨⟨nofun, nofun⟩, ?_⟩
    have hother := hb.mFBDev
    rw [share_of_pos (by omega)] at hother
    obtain ⟨abr', conf', heq, hsame⟩ := hother.unshare
    show p.mFBDev.unshare.Kept
    rw [heq]
    -- a device with a path is started by its own streams
    refine ⟨fun hpos => ?_, fun hpos hyes => ?_⟩
    · exact (hsame (hother.running hpos)).2.trans (hk.mFBDev.configured hpos)
    · exact hk.mFBDev.format hpos ((hsame (hother.running hpos)).1.symm.trans hyes)

/-! ### The rest of a stop -/

theorem Counted.closePlugin (hb : p.Counted d u) : p.closePlugin.Counted d u := by
  unfold Pair.closePlugin
  split_ifs with h
  · refine ⟨⟨hb.dev.1, hb.dev.2, hb.dev.3, hb.dev.4, hb.dev.5, hb.dev.6⟩, hb.mFBDev, hb.ids, ?_⟩
    have hplugins := hb.plugins
    unfold BtDevice.plugins at hplugins
    rw [if_pos h] at hplugins
    show p.line.plugins - 1 = 0 + p.mFBDev.plugins
    unfold BtDevice.plugins
    omega
  · exact hb

theorem closePlugin_frame (p : Pair) : ∃ plugin plugins, p.closePlugin =
    { p with dev.mPlugin := plugin, line.plugins := plugins } := by
  unfold closePlugin
  split_ifs
  · exact ⟨_, _, rfl⟩
  · exact ⟨_, _, rfl⟩

end Pair

namespace BtDevice

variable {b : BtDevice} {o s : ℕ} {n : ℕ}

/-- The device is stopped by one of its streams. Its codec is forgotten, once it has no path. -/
theorem Books.stopSco (h : b.Books o (s + 1) n) : ∃ f conf, b.stopSco = { b with
      mCodecFormat := f
      mIsConfigured := conf
      deviceStartStopCount := s + n } ∧
    (b.mIsAbrEnabled = true → f = b.mCodecFormat) ∧ (0 < s → conf = b.mIsConfigured) := by
  have hstop : b.stopL = { b with deviceStartStopCount := s + n } := by
    have hstart := h.deviceStartStopCount
    unfold stopL
    rw [if_pos (by omega), hstart, Nat.add_right_comm, Nat.add_sub_cancel]
  unfold BtDevice.stopSco
  rw [hstop]
  dsimp only
  by_cases hzero : s + n = 0
  · rw [if_pos (by split_ifs <;> exact hzero)]
    have hnone : ¬ 0 < s := by omega
    cases habr : b.mIsAbrEnabled with
    | true => exact ⟨b.mCodecFormat, false, rfl, fun _ => rfl, fun hpos => absurd hpos hnone⟩
    | false =>
      exact ⟨CODEC_TYPE_INVALID, false, rfl, fun hno => absurd hno (by decide),
        fun hpos => absurd hpos hnone⟩
  · rw [if_neg (by split_ifs <;> exact hzero)]
    cases habr : b.mIsAbrEnabled with
    | true => exact ⟨b.mCodecFormat, b.mIsConfigured, rfl, fun _ => rfl, fun _ => rfl⟩
    | false =>
      exact ⟨CODEC_TYPE_INVALID, b.mIsConfigured, rfl, fun hno => absurd hno (by decide),
        fun _ => rfl⟩

end BtDevice

def Uses.stopped (u : Uses) : Uses := { u with started := u.started - 1 }

namespace Pair

variable {d : Dir} {u : Uses} {p q : Pair} {a : StopAbrAnswers}

/-- The last stop of the device stops its path; and the last path that stops resets the channel. -/
def StopHeld (u : Uses) (p : Pair) (a : StopAbrAnswers) : Prop :=
  (u.started = 1 → 0 < p.dev.mAbrRefCnt → p.dev.mAbrRefCnt = 1 ∧ p.dev.mIsAbrEnabled = true) ∧
    (p.dev.mIsAbrEnabled = true → p.dev.mAbrRefCnt = 1 → p.mFBDev.mAbrRefCnt = 0 →
      a.Resets ∨ p.line.feedbackChannel = 0)

/-- The path of a device that stops, before the device itself does. -/
theorem stop_cases (hb : p.Books d u) (hk : p.Kept) (a : StopAbrAnswers) :
    ∃ q : Pair, p.stop d a = { q.closePlugin with dev := q.closePlugin.dev.stopSco } ∧
      q.Counted d u ∧ q.Kept ∧
      q.dev.mAbrRefCnt =
        (if p.dev.mIsAbrEnabled then p.dev.mAbrRefCnt - 1 else p.dev.mAbrRefCnt) ∧
      (q.Quiet ↔ (p.dev.mIsAbrEnabled = true → p.dev.mAbrRefCnt = 1 →
        p.mFBDev.mAbrRefCnt = 0 → a.Resets ∨ p.line.feedbackChannel = 0)) ∧
      (q.dev.mIsAbrEnabled = true → p.dev.mIsAbrEnabled = true) := by
  cases habr : p.dev.mIsAbrEnabled with
  | true =>
    have hstopped : AbrStopped d a p (p.stopAbr d.mCodecType a d.id) :=
      stopAbr_stopped hb.dev.pcm fun hpos => hk.dev.format hpos habr
    refine ⟨_, ?_, hstopped.counted hb.toCounted, hstopped.kept hb.toCounted hk,
      hstopped.mAbrRefCnt, ?_, fun _ => rfl⟩
    · unfold stop
      dsimp only
      rw [if_pos habr]
    · rw [forall_prop_of_true rfl]
      exact hstopped.quiet_iff hb
  | false =>
    refine ⟨p, ?_, hb.toCounted, hk, rfl, iff_of_true hb.quiet nofun, fun hyes => ?_⟩
    · unfold stop
      dsimp only
      rw [if_neg (by rw [habr]; decide)]
    · exact habr.symm.trans hyes

/-- The rest of a stop only forgets the plugin, the codec and what was configured. -/
theorem Counted.stopSco (hq : q.Counted d u) (hs : 0 < u.started) :
    ∃ plugin plugins f conf,
      ({ q.closePlugin with dev := q.closePlugin.dev.stopSco } : Pair) = { q with
        dev.mPlugin := plugin
        dev.mCodecFormat := f
        dev.mIsConfigured := conf
        dev.deviceStartStopCount := u.started - 1 + q.mFBDev.share
        line.plugins := plugins } ∧
      plugins = (if plugin = true then 1 else 0) + q.mFBDev.plugins ∧
      (q.dev.mIsAbrEnabled = true → f = q.dev.mCodecFormat) ∧
      (1 < u.started → conf = q.dev.mIsConfigured) := by
  obtain ⟨n, hn⟩ := Nat.exists_eq_add_of_lt hs
  rw [Nat.zero_add] at hn
  have hclosed := hq.closePlugin
  obtain ⟨plugin, plugins, heq⟩ := closePlugin_frame q
  rw [heq] at hclosed ⊢
  have hdev := hclosed.dev
  rw [hn] at hdev
  obtain ⟨f, conf, hstop, hf, hconf⟩ := hdev.stopSco
  refine ⟨plugin, plugins, f, conf, ?_, hclosed.plugins, hf, fun hone => hconf (by omega)⟩
  rw [hn, Nat.add_sub_cancel]
  exact congrArg (fun b => ({ q with dev := b, line.plugins := plugins } : Pair)) hstop

/-- **The law after a stop.** -/
theorem Books.stop_iff (hb : p.Books d u) (hk : p.Kept) (hs : 0 < u.started)
    (a : StopAbrAnswers) : (p.stop d a).Books d u.stopped ↔ p.StopHeld u a := by
  obtain ⟨q, heq, hq, -, hcnt, hquiet, -⟩ := stop_cases hb hk a
  obtain ⟨plugin, plugins, f, conf, hstop, hplugins, -, -⟩ := hq.stopSco hs
  have hdev := hq.dev
  have hrunning : (0 < q.dev.mAbrRefCnt → 0 < u.started - 1) ↔
      (u.started = 1 → 0 < p.dev.mAbrRefCnt →
        p.dev.mAbrRefCnt = 1 ∧ p.dev.mIsAbrEnabled = true) := by
    have hp := hb.dev.running
    rw [hcnt]
    cases p.dev.mIsAbrEnabled with
    | true =>
      rw [if_pos rfl]
      constructor
      · exact fun hrun hone hpos => ⟨by omega, rfl⟩
      · intro hlast hpos
        by_contra hno
        have hone := (hlast (by omega) (by omega)).1
        omega
    | false =>
      rw [if_neg (by decide)]
      constructor
      · intro hrun hone hpos
        have hleft := hrun hpos
        omega
      · intro hlast hpos
        by_contra hno
        exact absurd (hlast (by omega) hpos).2 (by decide)
  rw [heq, hstop]
  constructor
  · exact fun h => ⟨hrunning.mp h.dev.running, hquiet.mp h.quiet⟩
  · rintro ⟨hlast, hreset⟩
    exact ⟨⟨⟨hdev.deviceCount, rfl, hdev.enabled, hrunning.mpr hlast, hdev.pcm, hdev.ids⟩,
      hq.mFBDev, hq.ids, hplugins⟩, hquiet.mpr hreset⟩

theorem Kept.stop (hk : p.Kept) (hb : p.Books d u) (hs : 0 < u.started) (a : StopAbrAnswers)
    (hlaw : (p.stop d a).Books d u.stopped) : (p.stop d a).Kept := by
  obtain ⟨q, heq, hq, hkq, hcnt, -, habr⟩ := stop_cases hb hk a
  obtain ⟨plugin, plugins, f, conf, hstop, -, hf, hconf⟩ := hq.stopSco hs
  rw [heq, hstop] at hlaw ⊢
  -- a path that still runs is one of a device that is still started
  have hmore : 0 < q.dev.mAbrRefCnt → 1 < u.started := by
    intro hpos
    have hleft : 0 < u.started - 1 := hlaw.dev.running hpos
    omega
  refine ⟨⟨fun hpos => ?_, fun hpos hyes => ?_⟩, hkq.mFBDev⟩
  · exact (hconf (hmore hpos)).trans (hkq.dev.configured hpos)
  · show f = _ ∨ f = _
    rw [hf hyes]
    exact hkq.dev.format hpos hyes

end Pair

end AudioReachPal.Bluetooth
