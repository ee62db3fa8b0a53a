import AudioReachPal.Bluetooth.Sco
import Mathlib.Algebra.Order.Ring.Nat

/-!
# The books of a feedback path

A device is counted by the streams that have it open and started, and once more by the path of the
other device; it is enabled for its own streams only. While its own path runs it holds one front end
id. The law is one of a device, the other one and the line; what a start and a stop of a path do is
said once, and from that what they do to the law.
-/

namespace AudioReachPal.Bluetooth

open AudioReachPal.Lib
open AudioReachPal.Streams
open codec_format_t

/-! ### The law -/

namespace BtDevice

/-- What the device's path counts in the other device. -/
def share (b : BtDevice) : ℕ := if 0 < b.mAbrRefCnt then 1 else 0

/-- The plugins that the device holds. -/
def plugins (b : BtDevice) : ℕ := if b.mPlugin then 1 else 0

/-- The front end ids that the device holds. -/
def heldIds (b : BtDevice) (d : Dir) : Multiset (String × ℤ) :=
  (b.mFBPcmDevIds.map fun id => (hostlessKey d.mCodecType, id) : List (String × ℤ))

/-- A device with `opened` streams, of which it was started by `started`. -/
structure Books (b : BtDevice) (opened started share : ℕ) : Prop where
  deviceCount : b.deviceCount = opened + share
  deviceStartStopCount : b.deviceStartStopCount = started + share
  enabled : b.enabled = true ↔ 0 < opened
  running : 0 < b.mAbrRefCnt → 0 < started
  pcm : 0 < b.mAbrRefCnt → b.mFBPcm = true
  ids : b.mFBPcmDevIds.length = b.share

/-- The formats that a SCO device has a codec for. -/
def isSwb (b : BtDevice) : Prop :=
  b.mCodecFormat = CODEC_TYPE_APTX_AD_SPEECH ∨ b.mCodecFormat = CODEC_TYPE_LC3

/-- What holds of a device while its path runs. -/
structure Kept (b : BtDevice) : Prop where
  configured : 0 < b.mAbrRefCnt → b.mIsConfigured = true
  format : 0 < b.mAbrRefCnt → b.mIsAbrEnabled = true → b.isSwb

end BtDevice

/-- How often the streams have the devices opened and started. -/
structure Uses where
  opened : ℕ
  started : ℕ
  otherOpened : ℕ
  otherStarted : ℕ

namespace Pair

/-- Both devices are counted, and each id and plugin is held by one of them. -/
structure Counted (d : Dir) (u : Uses) (p : Pair) : Prop where
  dev : p.dev.Books u.opened u.started p.mFBDev.share
  mFBDev : p.mFBDev.Books u.otherOpened u.otherStarted p.dev.share
  ids : p.line.ids.Balanced (p.dev.heldIds d + p.mFBDev.heldIds d.other)
  plugins : p.line.plugins = p.dev.plugins + p.mFBDev.plugins

/-- The mixer's feedback channel is reset while no path runs. -/
def Quiet (p : Pair) : Prop :=
  p.dev.mAbrRefCnt = 0 → p.mFBDev.mAbrRefCnt = 0 → p.line.feedbackChannel = 0

/-- The law of a device and the other one. -/
structure Books (d : Dir) (u : Uses) (p : Pair) : Prop extends Counted d u p where
  quiet : p.Quiet

/-- What the law lets hold besides. -/
structure Kept (p : Pair) : Prop where
  dev : p.dev.Kept
  mFBDev : p.mFBDev.Kept

end Pair

/-! ### The answers of a start -/

namespace AbrAnswers

/-- The path comes to the mixer's feedback channel, and sets it. -/
def SetsChannel (a : AbrAnswers) : Prop :=
  a.setDeviceMetadata = 0 ∧ a.setMediaConfig = 0 ∧ 0 ≤ a.allocateFrontEndIds ∧
    a.connectCtrl = true ∧ a.mixer_ctl_set_enum_by_string = 0 ∧
    a.btSetFeedbackChannelCtrl = true ∧ a.mixer_ctl_set_value = 0

/-- The codec of the path is found to have another number of blocks. -/
def LeaksPlugin (a : AbrAnswers) : Prop :=
  a.getModuleInstanceId = 0 ∧ a.getPluginPayload = 0 ∧ a.num_blks ≠ 1

/-- The modules of the path are configured. -/
def Configures (a : AbrAnswers) (f : codec_format_t) : Prop :=
  a.getModuleInstanceId = 0 ∧ a.getPluginPayload = 0 ∧ a.num_blks = 1 ∧ a.paramData = true ∧
    (isCopV2 f = true → a.configureCOPModule = 0 ∧ a.configurePCMConverterModule = 0) ∧
    a.setCustomPayload = 0

def OpensPcm (a : AbrAnswers) : Prop :=
  a.pcm_open = true ∧ a.pcm_is_ready = true ∧ a.pcm_start = 0

end AbrAnswers

namespace Pair

variable {d : Dir} {u : Uses} {p q : Pair} {a : AbrAnswers}

/-- The path comes to run, once the channel is set. -/
def Runs (p : Pair) (a : AbrAnswers) : Prop :=
  (p.mFBDev.mIsConfigured = true ∨ a.Configures p.dev.mCodecFormat) ∧ a.OpensPcm

/-- No plugin is left open. -/
def Closes (p : Pair) (a : AbrAnswers) : Prop := p.mFBDev.mIsConfigured = false → ¬ a.LeaksPlugin

/-- A start of the path that sets the channel comes to run, or leaves the channel to the path of the
other device; and it leaves no plugin open. -/
def AbrHeld (p : Pair) (a : AbrAnswers) : Prop :=
  p.dev.mAbrRefCnt = 0 → a.SetsChannel →
    p.Closes a ∧ (p.Runs a ∨ 0 < p.mFBDev.mAbrRefCnt)

/-! ### What a start of the path does -/

/-- The states that a start of the path can leave. The other device is told whether it has a path
only where it was not configured. -/
inductive AbrStarted (d : Dir) (a : AbrAnswers) (p : Pair) : Pair → Prop
  | again (h : 0 < p.dev.mAbrRefCnt) :
      AbrStarted d a p { p with dev.mAbrRefCnt := p.dev.mAbrRefCnt + 1 }
  | refused (h : p.dev.mAbrRefCnt = 0) (hset : ¬ a.SetsChannel) : AbrStarted d a p p
  | failed (h : p.dev.mAbrRefCnt = 0) (hset : a.SetsChannel) (hruns : ¬ p.Runs a) (pcm abr : Bool)
      (plugins : ℕ) (habr : p.mFBDev.mIsConfigured = true → abr = p.mFBDev.mIsAbrEnabled)
      (hplugins : p.line.plugins ≤ plugins ∧ (plugins = p.line.plugins ↔ p.Closes a)) :
      AbrStarted d a p { p with
        dev.mFBPcm := pcm
        mFBDev.mIsAbrEnabled := abr
        line.feedbackChannel := 1
        line.plugins := plugins }
  | started (h : p.dev.mAbrRefCnt = 0) (hset : a.SetsChannel) (hruns : p.Runs a) (abr : Bool)
      (habr : p.mFBDev.mIsConfigured = true → abr = p.mFBDev.mIsAbrEnabled) :
      AbrStarted d a p { p with
        dev.mFBPcm := true
        dev.mAbrRefCnt := 1
        dev.mFBPcmDevIds := [a.allocateFrontEndIds]
        mFBDev.mIsAbrEnabled := abr
        mFBDev.mIsConfigured := true
        mFBDev.deviceStartStopCount := p.mFBDev.deviceStartStopCount + 1
        mFBDev.deviceCount := p.mFBDev.deviceCount + 1
        line.feedbackChannel := 1
        line.ids := p.line.ids.issue (hostlessKey d.mCodecType, a.allocateFrontEndIds) }

theorem fbDeviceId_dir (d : Dir) : fbDeviceId d.mCodecType d.id = some d.other.id := by
  cases d <;> decide

theorem countsAtStart_dir (d : Dir) {f : codec_format_t}
    (hf : f = CODEC_TYPE_APTX_AD_SPEECH ∨ f = CODEC_TYPE_LC3) :
    countsAtStart f d.other.id = true := by
  obtain rfl | rfl := hf <;> cases d <;> decide

/-- A path that does not come to run gives its id back. -/
theorem freeIds_takeId (h : p.dev.mFBPcmDevIds = []) {id : ℤ}
    (hid : (hostlessKey d.mCodecType, id) ∉ p.line.ids.issued) (pcm abr : Bool) (channel : ℤ)
    (plugins : ℕ) :
    ({ p.takeId d.mCodecType id with
        dev.mFBPcm := pcm
        mFBDev.mIsAbrEnabled := abr
        line.feedbackChannel := channel
        line.plugins := plugins } : Pair).freeIds d.mCodecType =
      { p with
        dev.mFBPcm := pcm
        mFBDev.mIsAbrEnabled := abr
        line.feedbackChannel := channel
        line.plugins := plugins } := by
  unfold freeIds takeId Stock.giveBackAll
  rw [h]
  simp only [List.nil_append, List.map_cons, List.map_nil, List.foldl_cons, List.foldl_nil]
  rw [Stock.giveBack_issue hid, ← h]

/-- The modules of a path to a SCO device. -/
theorem configureFeedback_sco (p : Pair) (a : AbrAnswers) (d : Dir) :
    ∃ ok abr plugins, p.configureFeedback a d.id =
        (ok, { p with mFBDev.mIsAbrEnabled := abr, line.plugins := plugins }) ∧
      (ok = true ↔ a.Configures p.dev.mCodecFormat) ∧ p.line.plugins ≤ plugins ∧
      (plugins = p.line.plugins ↔ ¬ a.LeaksPlugin) := by
  have hid : d.id ∈ [PAL_DEVICE_OUT_BLUETOOTH_SCO, PAL_DEVICE_IN_BLUETOOTH_SCO_HEADSET,
      PAL_DEVICE_OUT_BLUETOOTH_BLE] := by cases d <;> decide
  unfold configureFeedback AbrAnswers.Configures AbrAnswers.LeaksPlugin
  rw [if_pos hid]
  by_cases hmiid : a.getModuleInstanceId = 0
  swap
  · rw [if_pos hmiid]
    exact ⟨_, _, _, rfl, iff_of_false nofun fun h => hmiid h.1, le_rfl,
      iff_of_true rfl fun h => hmiid h.1⟩
  rw [if_neg (not_not.mpr hmiid)]
  by_cases hpayload : a.getPluginPayload = 0
  swap
  · rw [if_pos hpayload]
    exact ⟨_, _, _, rfl, iff_of_false nofun fun h => hpayload h.2.1, le_rfl,
      iff_of_true rfl fun h => hpayload h.2.1⟩
  rw [if_neg (not_not.mpr hpayload)]
  by_cases hblks : a.num_blks = 1
  swap
  · rw [if_pos hblks]
    exact ⟨_, _, _, rfl, iff_of_false nofun fun h => hblks h.2.2.1, Nat.le_succ _,
      iff_of_false (Nat.succ_ne_self _) fun h => h ⟨hmiid, hpayload, hblks⟩⟩
  rw [if_neg (not_not.mpr hblks)]
  have hnone : p.line.plugins = p.line.plugins ↔ ¬(a.getModuleInstanceId = 0 ∧
      a.getPluginPayload = 0 ∧ a.num_blks ≠ 1) := iff_of_true rfl fun h => h.2.2 hblks
  dsimp only
  split_ifs with hdata hv2
  · refine ⟨_, _, _, rfl, iff_of_false nofun fun h => ?_, le_rfl, hnone⟩
    rw [h.2.2.2.1] at hdata
    exact absurd hdata (by decide)
  · exact ⟨_, _, _, rfl, by simp_all [and_assoc], le_rfl, hnone⟩
  · exact ⟨_, _, _, rfl, by simp_all, le_rfl, hnone⟩

theorem startPcm_of_opens (h : a.OpensPcm) (hf : p.dev.isSwb) (hn : p.dev.mAbrRefCnt = 0) :
    p.startPcm d.mCodecType a d.other.id = { p with
      dev.mFBPcm := true
      dev.mAbrRefCnt := 1
      mFBDev.mIsConfigured := true
      mFBDev.deviceStartStopCount := p.mFBDev.deviceStartStopCount + 1
      mFBDev.deviceCount := p.mFBDev.deviceCount + 1 } := by
  obtain ⟨hopen, hready, hstart⟩ := h
  unfold startPcm
  rw [hopen, hready, hstart]
  simp only [Bool.not_true, Bool.or_false, ne_eq, not_true_eq_false, decide_false,
    Bool.false_eq_true, if_false]
  rw [if_pos (countsAtStart_dir d hf), hn]
  rfl

theorem startPcm_of_not (h : ¬ a.OpensPcm) (fbDevice : pal_device_id_t) :
    p.startPcm d.mCodecType a fbDevice =
      ({ p with dev.mFBPcm := false } : Pair).freeIds d.mCodecType := by
  unfold startPcm
  refine if_pos ?_
  by_contra hall
  simp only [Bool.or_eq_true, Bool.not_eq_true', decide_eq_true_eq, not_or, Bool.not_eq_false,
    ne_eq, not_not] at hall
  exact h ⟨hall.1.1, hall.1.2, hall.2⟩

/-- From the channel on. -/
theorem startFeedback_started (h : p.dev.mAbrRefCnt = 0) (hnone : p.dev.mFBPcmDevIds = [])
    (hid : (hostlessKey d.mCodecType, a.allocateFrontEndIds) ∉ p.line.ids.issued)
    (hf : p.dev.isSwb) (hset : a.SetsChannel) :
    AbrStarted d a p ((p.takeId d.mCodecType a.allocateFrontEndIds).startFeedback d.mCodecType a
      d.other.id) := by
  have hids : p.dev.mFBPcmDevIds ++ [a.allocateFrontEndIds] = [a.allocateFrontEndIds] := by
    rw [hnone, List.nil_append]
  -- the end, with the device told or not
  have hend : ∀ (q : Pair) abr, q = { p.takeId d.mCodecType a.allocateFrontEndIds with
        mFBDev.mIsAbrEnabled := abr
        line.feedbackChannel := 1 } →
      (p.mFBDev.mIsConfigured = true → abr = p.mFBDev.mIsAbrEnabled) → p.Closes a →
      (p.mFBDev.mIsConfigured = true ∨ a.Configures p.dev.mCodecFormat) →
      AbrStarted d a p (q.startPcm d.mCodecType a d.other.id) := by
    intro q abr hq habr hcloses hconf
    by_cases hopens : a.OpensPcm
    · have hfq : q.dev.isSwb := by
        rw [hq]
        exact hf
      have hnq : q.dev.mAbrRefCnt = 0 := by
        rw [hq]
        exact h
      rw [startPcm_of_opens hopens hfq hnq, hq]
      have hstarted := AbrStarted.started (d := d) h hset ⟨hconf, hopens⟩ abr habr
      rw [← hids] at hstarted
      exact hstarted
    · rw [startPcm_of_not hopens, hq]
      have hfree := freeIds_takeId hnone hid false abr 1 p.line.plugins
      have hfailed := AbrStarted.failed (d := d) h hset (fun hruns => hopens hruns.2) false abr
        p.line.plugins habr ⟨le_rfl, iff_of_true rfl hcloses⟩
      rw [← hfree] at hfailed
      exact hfailed
  unfold startFeedback
  dsimp only
  by_cases hconf : p.mFBDev.mIsConfigured = true
  · have hyes : (p.takeId d.mCodecType a.allocateFrontEndIds).mFBDev.mIsConfigured = true := hconf
    rw [if_pos hyes]
    refine hend _ p.mFBDev.mIsAbrEnabled rfl (fun _ => rfl) ?_ (.inl hconf)
    intro hno
    rw [hconf] at hno
    cases hno
  · have hno : ¬(p.takeId d.mCodecType a.allocateFrontEndIds).mFBDev.mIsConfigured = true := hconf
    rw [if_neg hno]
    obtain ⟨ok, abr, plugins, hr, hok, hle, hplugins⟩ := configureFeedback_sco
      ({ p.takeId d.mCodecType a.allocateFrontEndIds with line.feedbackChannel := 1 } : Pair) a
      d.other
    have habr : p.mFBDev.mIsConfigured = true → abr = p.mFBDev.mIsAbrEnabled :=
      fun hyes => absurd hyes hconf
    have hcloses : p.Closes a ↔ ¬ a.LeaksPlugin :=
      ⟨fun hc => hc (Bool.eq_false_of_not_eq_true hconf), fun hc _ => hc⟩
    rw [hr]
    cases ok with
    | true =>
      have hconfigures := hok.mp rfl
      have hnone' : ¬ a.LeaksPlugin := fun hl => hl.2.2 hconfigures.2.2.1
      rw [hplugins.mpr hnone']
      exact hend _ abr rfl habr (hcloses.mpr hnone') (.inr hconfigures)
    | false =>
      have hfree := freeIds_takeId hnone hid p.dev.mFBPcm abr 1 plugins
      have hruns : ¬ p.Runs a := by
        rintro ⟨hyes | hyes, -⟩
        · exact hconf hyes
        · exact absurd (hok.mpr hyes) Bool.false_ne_true
      have hfailed := AbrStarted.failed (d := d) h hset hruns p.dev.mFBPcm abr plugins habr
        ⟨hle, hplugins.trans hcloses.symm⟩
      rw [← hfree] at hfailed
      exact hfailed

theorem startAbr_started (hnone : p.dev.mAbrRefCnt = 0 → p.dev.mFBPcmDevIds = [])
    (hid : (hostlessKey d.mCodecType, a.allocateFrontEndIds) ∉ p.line.ids.issued)
    (hf : p.dev.isSwb) : AbrStarted d a p (p.startAbr d.mCodecType a d.id) := by
  unfold startAbr
  by_cases h : 0 < p.dev.mAbrRefCnt
  · rw [if_pos h]
    exact .again h
  have hzero : p.dev.mAbrRefCnt = 0 := by omega
  rw [if_neg h, fbDeviceId_dir]
  dsimp only
  have hfree := freeIds_takeId (hnone hzero) hid p.dev.mFBPcm p.mFBDev.mIsAbrEnabled
    p.line.feedbackChannel p.line.plugins
  have hrefused : ∀ q, q = p → ¬ a.SetsChannel → AbrStarted d a p q := by
    rintro q rfl hset
    exact .refused hzero hset
  split_ifs with h1 h2 h3 h4 h5 h6 h7
  · exact hrefused _ rfl fun hset => h1 hset.1
  · exact hrefused _ rfl fun hset => h2 hset.2.1
  · exact hrefused _ rfl fun hset => absurd hset.2.2.1 (by omega)
  · exact hrefused _ hfree fun hset => by simp [hset.2.2.2.1] at h4
  · exact hrefused _ hfree fun hset => h5 hset.2.2.2.2.1
  · exact hrefused _ hfree fun hset => by simp [hset.2.2.2.2.2.1] at h6
  · exact hrefused _ hfree fun hset => h7 hset.2.2.2.2.2.2
  · refine startFeedback_started hzero (hnone hzero) hid hf ⟨not_not.mp h1, not_not.mp h2, by omega,
      ?_, not_not.mp h5, ?_, not_not.mp h7⟩
    · simpa using h4
    · simpa using h6

/-! ### What it does to the law -/

/-- A path never closes a plugin of a device. -/
theorem AbrStarted.plugins (h : AbrStarted d a p q) : q.dev.plugins = p.dev.plugins ∧
    q.mFBDev.plugins = p.mFBDev.plugins ∧ p.line.plugins ≤ q.line.plugins := by
  cases h with
  | again => exact ⟨rfl, rfl, le_rfl⟩
  | refused => exact ⟨rfl, rfl, le_rfl⟩
  | failed _ _ _ _ _ _ _ hplugins => exact ⟨rfl, rfl, hplugins.1⟩
  | started => exact ⟨rfl, rfl, le_rfl⟩

theorem closes_of_runs (h : p.Runs a) : p.Closes a := by
  intro hno hleak
  rcases h.1 with hyes | hconf
  · rw [hyes] at hno
    cases hno
  · exact hleak.2.2 hconf.2.2.1

theorem share_of_pos {b : BtDevice} (h : 0 < b.mAbrRefCnt) : b.share = 1 := if_pos h

theorem share_of_zero {b : BtDevice} (h : b.mAbrRefCnt = 0) : b.share = 0 := if_neg (by omega)

/-- **The law after a start of the path**, which is one of a device that is started. -/
theorem AbrStarted.books_iff (h : AbrStarted d a p q) (hb : p.Books d u) (hs : 0 < u.started)
    (hid : (hostlessKey d.mCodecType, a.allocateFrontEndIds) ∉ p.line.ids.issued) :
    q.Books d u ↔ p.AbrHeld a := by
  cases h with
  | again h =>
    refine iff_of_true ⟨⟨⟨hb.dev.1, hb.dev.2, hb.dev.3, fun _ => hs, fun _ => hb.dev.pcm h, ?_⟩, ?_,
      hb.ids, hb.plugins⟩, nofun⟩ fun hzero => absurd hzero (by omega)
    · rw [hb.dev.ids, share_of_pos h, share_of_pos (Nat.succ_pos _)]
    · have hother := hb.mFBDev
      rw [share_of_pos h] at hother
      rw [share_of_pos (Nat.succ_pos _)]
      exact hother
  | refused h hset => exact iff_of_true hb fun _ hyes => absurd hyes hset
  | failed h hset hruns pcm abr plugins habr hplugins =>
    constructor
    · intro hq _ _
      have heq : plugins = p.line.plugins := hq.plugins.trans hb.plugins.symm
      refine ⟨hplugins.2.mp heq, .inr ?_⟩
      by_contra hnone
      have hzero : p.mFBDev.mAbrRefCnt = 0 := by omega
      exact absurd (hq.quiet h hzero) one_ne_zero
    · intro hok
      obtain ⟨hcloses, hyes | hpos⟩ := hok h hset
      · exact absurd hyes hruns
      · have hdev := hb.dev
        have hother := hb.mFBDev
        refine ⟨⟨⟨hdev.1, hdev.2, hdev.3, hdev.4, fun hyes => absurd h (Nat.ne_of_gt hyes),
          hdev.6⟩,
          ⟨hother.1, hother.2, hother.3, hother.4, hother.5, hother.6⟩, hb.ids, ?_⟩, ?_⟩
        · exact (hplugins.2.mpr hcloses).trans hb.plugins
        · exact fun _ hzero => absurd hzero (Nat.ne_of_gt hpos)
  | started h hset hruns abr habr =>
    refine iff_of_true ⟨⟨?_, ?_, ?_, hb.plugins⟩, nofun⟩
      fun _ _ => ⟨closes_of_runs hruns, .inl hruns⟩
    · exact ⟨hb.dev.1, hb.dev.2, hb.dev.3, fun _ => hs, fun _ => rfl, rfl⟩
    · have hother := hb.mFBDev
      rw [share_of_zero h] at hother
      rw [share_of_pos (Nat.succ_pos 0)]
      refine ⟨congrArg (· + 1) hother.1, congrArg (· + 1) hother.2, hother.3, hother.4, hother.5,
        hother.6⟩
    · have hnone : p.dev.heldIds d = 0 := by
        unfold BtDevice.heldIds
        rw [List.eq_nil_of_length_eq_zero (hb.dev.ids.trans (share_of_zero h))]
        rfl
      have hids := hb.ids
      rw [hnone, zero_add] at hids
      exact hids.issue hid

theorem AbrStarted.kept (h : AbrStarted d a p q) (hk : p.Kept) (hf : p.dev.isSwb)
    (hc : p.dev.mIsConfigured = true) : q.Kept := by
  have hother : ∀ {b : BtDevice} {abr : Bool}, b = p.mFBDev →
      (b.mIsConfigured = true → abr = b.mIsAbrEnabled) →
        BtDevice.Kept { b with mIsAbrEnabled := abr } := by
    rintro _ abr rfl habr
    refine ⟨hk.mFBDev.configured, fun hpos hyes => hk.mFBDev.format hpos ?_⟩
    rw [← habr (hk.mFBDev.configured hpos)]
    exact hyes
  cases h with
  | again h => exact ⟨⟨fun _ => hc, fun _ _ => hf⟩, hk.mFBDev⟩
  | refused => exact hk
  | failed h hset hruns pcm abr plugins habr hplugins =>
    exact ⟨⟨hk.dev.configured, hk.dev.format⟩, hother rfl habr⟩
  | started h hset hruns abr habr =>
    exact ⟨⟨fun _ => hc, fun _ _ => hf⟩, ⟨fun _ => rfl, (hother rfl habr).format⟩⟩

/-! ### A start of the device -/

end Pair

namespace BtDevice

variable {b : BtDevice} {n : ℕ} {a : GraphAnswers}

/-- The plugin of the device's own codec is opened. -/
def OpensPlugin (b : BtDevice) (a : GraphAnswers) : Prop :=
  b.isSwb ∧ b.mIsConfigured = false ∧ 0 ≤ a.getPCMId ∧ a.getActiveStreamL = true ∧
    a.getPluginPayload = 0

/-- What configuring a device leaves: the device but for three fields, and how many plugins are
open. -/
structure Configured (b : BtDevice) (n : ℕ) (a : GraphAnswers) (status : ℤ) (abr conf plugin : Bool)
    (plugins : ℕ) : Prop where
  eq : b.configure n a = (status, { b with
    mIsAbrEnabled := abr
    mIsConfigured := conf
    mPlugin := plugin }, plugins)
  done : status = 0 → conf = true
  kept : b.mIsConfigured = true → conf = true ∧ status = 0
  plain : ¬ b.isSwb → abr = b.mIsAbrEnabled
  opens : b.OpensPlugin a → plugin = true ∧ plugins = n + 1
  none : ¬ b.OpensPlugin a → plugin = b.mPlugin ∧ plugins = n

theorem configure_configured (b : BtDevice) (n : ℕ) (a : GraphAnswers) :
    ∃ status abr conf plugin plugins, Configured b n a status abr conf plugin plugins := by
  by_cases hswb : b.isSwb
  swap
  · refine ⟨0, b.mIsAbrEnabled, true, b.mPlugin, n, ⟨?_, fun _ => rfl, fun _ => ⟨rfl, rfl⟩,
      fun _ => rfl, fun hopens => absurd hopens.1 hswb, fun _ => ⟨rfl, rfl⟩⟩⟩
    exact if_neg hswb
  have hstart : b.configure n a = b.startSwb n a := if_pos hswb
  cases hconf : b.mIsConfigured with
  | true =>
    have hnone : ¬ b.OpensPlugin a := fun hopens => by
      rw [hopens.2.1] at hconf
      cases hconf
    have hswb' : b.startSwb n a = (0, { b with
        mIsAbrEnabled := decide (b.mCodecFormat = CODEC_TYPE_APTX_AD_SPEECH) || b.mIsAbrEnabled
        mIsConfigured := true }, n) := by
      unfold startSwb
      rw [hconf]
      by_cases haptx : b.mCodecFormat = CODEC_TYPE_APTX_AD_SPEECH
      · simp [haptx, ← hconf]
      · simp [haptx, ← hconf]
    exact ⟨_, _, _, _, _, ⟨hstart.trans hswb', fun _ => rfl, fun _ => ⟨rfl, rfl⟩,
      fun hno => absurd hswb hno, fun hopens => absurd hopens hnone, fun _ => ⟨rfl, rfl⟩⟩⟩
  | false =>
    have hgraph : b.startSwb n a = b.configureGraphModules n a := by
      unfold startSwb
      rw [hconf]
      rfl
    have hnot : ∀ {P : Prop}, b.mIsConfigured = true → P := by
      intro P hyes
      rw [hconf] at hyes
      cases hyes
    rw [hgraph] at hstart
    by_cases hopens : b.OpensPlugin a
    · have hmade : ∃ status conf, b.configureGraphModules n a = (status, { b with
          mIsAbrEnabled := a.is_abr_enabled
          mIsConfigured := conf
          mPlugin := true }, n + 1) ∧ (status = 0 → conf = true) := by
        obtain ⟨-, -, hpcm, hstream, hpayload⟩ := hopens
        unfold configureGraphModules
        rw [if_neg (by omega), hstream, if_neg (not_not.mpr hpayload)]
        dsimp only [Bool.not_true]
        split_ifs with h0 h1 h2 h3
        · contradiction
        · exact ⟨_, false, rfl, fun hzero => absurd hzero h1⟩
        · simp only [Bool.and_eq_true, decide_eq_true_eq] at h2
          exact ⟨_, false, rfl, fun hzero => absurd hzero h2.2⟩
        · simp only [Bool.and_eq_true, decide_eq_true_eq] at h3
          exact ⟨_, false, rfl, fun hzero => absurd hzero h3.2⟩
        · exact ⟨_, true, rfl, fun _ => rfl⟩
      obtain ⟨status, conf, heq, hdone⟩ := hmade
      exact ⟨_, _, _, _, _, ⟨hstart.trans heq, hdone, hnot, fun hno => absurd hswb hno,
        fun _ => ⟨rfl, rfl⟩, fun hno => absurd hopens hno⟩⟩
    · have hrefused : ∃ status, b.configureGraphModules n a = (status, b, n) ∧ status ≠ 0 := by
        have hsame : { b with mIsConfigured := false } = b := by rw [← hconf]
        unfold configureGraphModules
        dsimp only
        split_ifs with h1 h2 h3
        · exact ⟨-EINVAL, congrArg (fun b' => (-EINVAL, b', n)) hsame, by decide⟩
        · exact ⟨-EINVAL, congrArg (fun b' => (-EINVAL, b', n)) hsame, by decide⟩
        · exact ⟨_, congrArg (fun b' => (a.getPluginPayload, b', n)) hsame, h3⟩
        all_goals exact absurd ⟨hswb, hconf, by omega, by simpa using h2, not_not.mp h3⟩ hopens
      obtain ⟨status, heq, hne⟩ := hrefused
      exact ⟨status, b.mIsAbrEnabled, b.mIsConfigured, b.mPlugin, n, ⟨hstart.trans heq,
        fun hzero => absurd hzero hne, hnot, fun _ => rfl, fun hyes => absurd hyes hopens,
        fun _ => ⟨rfl, rfl⟩⟩⟩

end BtDevice

/-- A start that succeeds is one of the device's streams. -/
def Uses.after (u : Uses) (status : ℤ) : Uses :=
  if status = 0 then { u with started := u.started + 1 } else u

namespace Pair

variable {d : Dir} {u : Uses} {p q : Pair} {a : ScoStartAnswers}

/-- A start of the device opens a plugin where it has none, and can set its payload. -/
def DeviceHeld (p : Pair) (a : ScoStartAnswers) : Prop :=
  (p.dev.OpensPlugin a.graph → p.dev.mPlugin = false) ∧
    ((p.dev.configure p.line.plugins a.graph).1 = 0 → p.dev.deviceStartStopCount = 0 →
      a.configureSlimbusClockSrc = 0 → a.device.getBackendName ≠ "" →
      a.device.setCustomPayload = 0)

/-- The device after a start of it. -/
structure DeviceStarted (p : Pair) (a : ScoStartAnswers) (status : ℤ) (abr conf plugin : Bool)
    (plugins count : ℕ) : Prop where
  eq : p.startDevice a = (status, { p with
    dev.mIsAbrEnabled := abr
    dev.mIsConfigured := conf
    dev.mPlugin := plugin
    dev.deviceStartStopCount := p.dev.deviceStartStopCount + count
    line.plugins := plugins })
  done : status = 0 → conf = true ∧ count = 1
  kept : p.dev.mIsConfigured = true → conf = true
  plain : ¬ p.dev.isSwb → abr = p.dev.mIsAbrEnabled
  opens : p.dev.OpensPlugin a.graph → plugin = true ∧ plugins = p.line.plugins + 1
  none : ¬ p.dev.OpensPlugin a.graph → plugin = p.dev.mPlugin ∧ plugins = p.line.plugins
  /-- A start that fails and is counted has met a payload that it cannot set. -/
  payload : (count = 0 ∨ status = 0) ↔
    ((p.dev.configure p.line.plugins a.graph).1 = 0 → p.dev.deviceStartStopCount = 0 →
      a.configureSlimbusClockSrc = 0 → a.device.getBackendName ≠ "" →
      a.device.setCustomPayload = 0)
  count : count ≤ 1

theorem startDevice_started (p : Pair) (a : ScoStartAnswers) :
    ∃ status abr conf plugin plugins count,
      DeviceStarted p a status abr conf plugin plugins count := by
  obtain ⟨status, abr, conf, plugin, plugins, hconf⟩ :=
    p.dev.configure_configured p.line.plugins a.graph
  have hstatus : (p.dev.configure p.line.plugins a.graph).1 = status := by rw [hconf.eq]
  have hstarted : p.startDevice a = if status ≠ 0 then (status, { p with
        dev.mIsAbrEnabled := abr, dev.mIsConfigured := conf, dev.mPlugin := plugin
        line.plugins := plugins })
      else if p.dev.deviceStartStopCount = 0 ∧ a.configureSlimbusClockSrc ≠ 0 then
        (a.configureSlimbusClockSrc, { p with
          dev.mIsAbrEnabled := abr, dev.mIsConfigured := conf, dev.mPlugin := plugin
          line.plugins := plugins })
      else
        let s := BtDevice.startL { p.dev with
          mIsAbrEnabled := abr, mIsConfigured := conf, mPlugin := plugin } a.device
        (s.1, { p with dev := s.2, line.plugins := plugins }) := by
    unfold startDevice
    rw [hconf.eq]
  have hkept : p.dev.mIsConfigured = true → conf = true := fun hyes => (hconf.kept hyes).1
  by_cases hzero : status = 0
  swap
  · rw [if_pos hzero] at hstarted
    exact ⟨_, _, _, _, _, 0, ⟨hstarted, fun hyes => absurd hyes hzero, hkept, hconf.plain,
      hconf.opens, hconf.none, iff_of_true (.inl rfl) fun hyes => absurd (hstatus.symm.trans hyes)
        hzero, Nat.zero_le 1⟩⟩
  rw [if_neg (not_not.mpr hzero)] at hstarted
  have hdone := hconf.done hzero
  by_cases hclock : p.dev.deviceStartStopCount = 0 ∧ a.configureSlimbusClockSrc ≠ 0
  · rw [if_pos hclock] at hstarted
    exact ⟨_, _, _, _, _, 0, ⟨hstarted, fun hyes => absurd hyes hclock.2, hkept, hconf.plain,
      hconf.opens, hconf.none, iff_of_true (.inl rfl) fun _ _ hyes => absurd hyes hclock.2,
      Nat.zero_le 1⟩⟩
  rw [if_neg hclock] at hstarted
  unfold BtDevice.startL at hstarted
  dsimp only at hstarted
  by_cases hfirst : p.dev.deviceStartStopCount = 0
  swap
  · rw [if_neg hfirst] at hstarted
    exact ⟨_, _, _, _, _, 1, ⟨hstarted, fun _ => ⟨hdone, rfl⟩, hkept, hconf.plain, hconf.opens,
      hconf.none, iff_of_true (.inr rfl) fun _ hyes => absurd hyes hfirst, le_rfl⟩⟩
  rw [if_pos hfirst] at hstarted
  have hno : a.configureSlimbusClockSrc = 0 := by
    by_contra hne
    exact hclock ⟨hfirst, hne⟩
  by_cases hname : a.device.getBackendName = ""
  · rw [if_pos hname] at hstarted
    exact ⟨_, _, _, _, _, 0, ⟨hstarted, fun hyes => absurd hyes (by decide : -EINVAL ≠ 0), hkept,
      hconf.plain, hconf.opens, hconf.none, iff_of_true (.inl rfl) fun _ _ _ hne => absurd hname hne,
      Nat.zero_le 1⟩⟩
  · rw [if_neg hname] at hstarted
    refine ⟨_, _, _, _, _, 1, ⟨hstarted, fun _ => ⟨hdone, rfl⟩, hkept, hconf.plain, hconf.opens,
      hconf.none, ?_, le_rfl⟩⟩
    constructor
    · rintro (hone | hyes) - - - -
      · exact absurd hone one_ne_zero
      · exact hyes
    · exact fun hok => .inr (hok (hstatus.trans hzero) hfirst hno hname)

/-- A plugin that is opened is the only one, exactly where the device had none. -/
theorem plugins_iff {n m : ℕ} {had has opens : Prop} [Decidable had] [Decidable has]
    (hn : n = (if had then 1 else 0) + m) (hopens : opens → has) {n' : ℕ}
    (hyes : opens → n' = n + 1) (hno : ¬ opens → (has ↔ had) ∧ n' = n) :
    n' = (if has then 1 else 0) + m ↔ (opens → ¬ had) := by
  by_cases ho : opens
  · rw [hyes ho, if_pos (hopens ho), hn]
    by_cases hh : had
    · rw [if_pos hh]
      refine iff_of_false (by omega) fun hall => hall ho hh
    · rw [if_neg hh]
      exact iff_of_true (by omega) fun _ => hh
  · obtain ⟨hiff, heq⟩ := hno ho
    rw [heq, hn]
    exact iff_of_true (by rw [if_congr hiff rfl rfl]) fun hyes => absurd hyes ho

/-- **The law after a start of the device.** -/
theorem Books.startDevice_iff (hb : p.Books d u) (a : ScoStartAnswers) :
    (p.startDevice a).2.Books d (u.after (p.startDevice a).1) ↔ p.DeviceHeld a := by
  obtain ⟨status, abr, conf, plugin, plugins, count, hs⟩ := startDevice_started p a
  have hplugins : plugins = (if plugin = true then 1 else 0) + p.mFBDev.plugins ↔
      (p.dev.OpensPlugin a.graph → ¬ p.dev.mPlugin = true) := by
    refine plugins_iff hb.plugins (fun ho => (hs.opens ho).1) (fun ho => (hs.opens ho).2)
      fun ho => ?_
    obtain ⟨hsame, heq⟩ := hs.none ho
    exact ⟨by rw [hsame], heq⟩
  unfold DeviceHeld
  rw [← hs.payload, hs.eq]
  have hdev := hb.dev
  have hcount := hs.count
  constructor
  · intro hq
    refine ⟨fun ho => Bool.eq_false_of_not_eq_true (hplugins.mp hq.plugins ho), ?_⟩
    by_contra hno
    rw [not_or] at hno
    have hstart := hq.dev.deviceStartStopCount
    unfold Uses.after at hstart
    rw [if_neg hno.2] at hstart
    change p.dev.deviceStartStopCount + count = u.started + p.mFBDev.share at hstart
    rw [hdev.deviceStartStopCount] at hstart
    omega
  · rintro ⟨hopens, hpayload⟩
    have huses : (u.after status).started = u.started + count ∧
        (u.after status).opened = u.opened ∧ (u.after status).otherOpened = u.otherOpened ∧
        (u.after status).otherStarted = u.otherStarted := by
      unfold Uses.after
      split_ifs with hzero
      · rw [(hs.done hzero).2]
        exact ⟨rfl, rfl, rfl, rfl⟩
      · obtain hnone | hzero' := hpayload
        · rw [hnone]
          exact ⟨rfl, rfl, rfl, rfl⟩
        · exact absurd hzero' hzero
    obtain ⟨hstarted, hopened, hother⟩ := huses
    refine ⟨⟨⟨?_, ?_, ?_, ?_, hdev.pcm, hdev.ids⟩, ?_, hb.ids, ?_⟩, hb.quiet⟩
    · rw [hopened]
      exact hdev.deviceCount
    · show p.dev.deviceStartStopCount + count = _
      rw [hstarted, hdev.deviceStartStopCount]
      exact Nat.add_right_comm ..
    · rw [hopened]
      exact hdev.enabled
    · intro hpos
      rw [hstarted]
      exact Nat.add_pos_left (hdev.running hpos) _
    · rw [hother.1, hother.2]
      exact hb.mFBDev
    · refine hplugins.mpr fun ho hyes => ?_
      rw [hopens ho] at hyes
      cases hyes

/-! ### A start -/

/-- A start of the device and, where it has a path, of the path. -/
def StartHeld (p : Pair) (a : ScoStartAnswers) : Prop :=
  p.DeviceHeld a ∧ ((p.startDevice a).1 = 0 → (p.startDevice a).2.dev.mIsAbrEnabled = true →
    (p.startDevice a).2.AbrHeld a.abr)

theorem startDevice_frame (p : Pair) (a : ScoStartAnswers) :
    (p.startDevice a).2.dev.mAbrRefCnt = p.dev.mAbrRefCnt ∧
      (p.startDevice a).2.dev.mFBPcmDevIds = p.dev.mFBPcmDevIds ∧
      (p.startDevice a).2.dev.mCodecFormat = p.dev.mCodecFormat ∧
      (p.startDevice a).2.mFBDev = p.mFBDev ∧ (p.startDevice a).2.line.ids = p.line.ids := by
  obtain ⟨status, abr, conf, plugin, plugins, count, hs⟩ := startDevice_started p a
  rw [hs.eq]
  exact ⟨rfl, rfl, rfl, rfl, rfl⟩

/-- The path is started for a device that has a codec. -/
theorem startDevice_isSwb (a : ScoStartAnswers)
    (hplain : ¬ p.dev.isSwb → p.dev.mIsAbrEnabled = false)
    (habr : (p.startDevice a).2.dev.mIsAbrEnabled = true) : (p.startDevice a).2.dev.isSwb := by
  have hformat := (startDevice_frame p a).2.2.1
  unfold BtDevice.isSwb at hplain ⊢
  rw [hformat]
  by_contra hno
  obtain ⟨status, abr, conf, plugin, plugins, count, hs⟩ := startDevice_started p a
  rw [hs.eq] at habr
  change abr = true at habr
  rw [hs.plain hno, hplain hno] at habr
  cases habr

/-- A start is one of the device, or one of the device and the path. -/
theorem start_cases (hb : p.Books d u) (a : ScoStartAnswers)
    (hplain : ¬ p.dev.isSwb → p.dev.mIsAbrEnabled = false)
    (hid : (hostlessKey d.mCodecType, a.abr.allocateFrontEndIds) ∉ p.line.ids.issued) :
    (¬((p.startDevice a).1 = 0 ∧ (p.startDevice a).2.dev.mIsAbrEnabled = true) ∧
        p.start d a = p.startDevice a) ∨
      ((p.startDevice a).1 = 0 ∧ (p.startDevice a).2.dev.mIsAbrEnabled = true ∧
        (p.start d a).1 = 0 ∧ AbrStarted d a.abr (p.startDevice a).2 (p.start d a).2) := by
  obtain ⟨hcnt, hids, hformat, hother, hissued⟩ := startDevice_frame p a
  unfold start
  dsimp only
  by_cases hyes : (p.startDevice a).1 = 0 ∧ (p.startDevice a).2.dev.mIsAbrEnabled = true
  · rw [if_pos hyes]
    refine .inr ⟨hyes.1, hyes.2, rfl, startAbr_started ?_ (by rw [hissued]; exact hid)
      (startDevice_isSwb a hplain hyes.2)⟩
    intro hzero
    rw [hids]
    rw [hcnt] at hzero
    exact List.eq_nil_of_length_eq_zero (hb.dev.ids.trans (share_of_zero hzero))
  · rw [if_neg hyes]
    exact .inl ⟨hyes, rfl⟩

/-- **The law after a start.** -/
theorem Books.start_iff (hb : p.Books d u) (a : ScoStartAnswers)
    (hplain : ¬ p.dev.isSwb → p.dev.mIsAbrEnabled = false)
    (hid : (hostlessKey d.mCodecType, a.abr.allocateFrontEndIds) ∉ p.line.ids.issued) :
    (p.start d a).2.Books d (u.after (p.start d a).1) ↔ p.StartHeld a := by
  have hdevice := hb.startDevice_iff a
  unfold StartHeld
  rcases start_cases hb a hplain hid with ⟨hno, heq⟩ | ⟨hzero, habr, hzero', hstarted⟩
  · rw [heq, hdevice]
    exact (and_iff_left fun h1 h2 => absurd ⟨h1, h2⟩ hno).symm
  have hissued := (startDevice_frame p a).2.2.2.2
  rw [hzero] at hdevice
  rw [hzero', forall_prop_of_true hzero, forall_prop_of_true habr]
  by_cases hok : p.DeviceHeld a
  · rw [and_iff_right hok]
    refine hstarted.books_iff (hdevice.mpr hok) ?_ (by rw [hissued]; exact hid)
    unfold Uses.after
    rw [if_pos rfl]
    exact Nat.succ_pos _
  · -- the plugin that is lost stays lost
    refine iff_of_false (fun hq => hok ?_) fun hall => hok hall.1
    obtain ⟨status, abr, conf, plugin, plugins, count, hs⟩ := startDevice_started p a
    obtain ⟨hdev, hother, hle⟩ := hstarted.plugins
    have hsum := hq.plugins
    rw [hdev, hother] at hsum
    rw [hsum, hs.eq] at hle
    rw [hs.eq] at hzero
    refine ⟨fun ho => ?_, hs.payload.mp (.inr hzero)⟩
    obtain ⟨hplugin, hplugins⟩ := hs.opens ho
    change plugins ≤ (if plugin = true then 1 else 0) + p.mFBDev.plugins at hle
    rw [hplugins, hplugin, hb.plugins, if_pos rfl] at hle
    by_contra hyes
    unfold BtDevice.plugins at hle
    rw [if_pos (Bool.eq_true_of_not_eq_false hyes)] at hle
    omega

theorem Kept.start (hk : p.Kept) (hb : p.Books d u) (a : ScoStartAnswers)
    (hplain : ¬ p.dev.isSwb → p.dev.mIsAbrEnabled = false)
    (hid : (hostlessKey d.mCodecType, a.abr.allocateFrontEndIds) ∉ p.line.ids.issued) :
    (p.start d a).2.Kept := by
  obtain ⟨status, abr, conf, plugin, plugins, count, hs⟩ := startDevice_started p a
  have hdevice : (p.startDevice a).2.Kept := by
    refine ⟨⟨?_, fun _ hyes => startDevice_isSwb a hplain hyes⟩, ?_⟩
    · rw [hs.eq]
      exact fun hpos => hs.kept (hk.dev.configured hpos)
    · rw [(startDevice_frame p a).2.2.2.1]
      exact hk.mFBDev
  rcases start_cases hb a hplain hid with ⟨-, heq⟩ | ⟨hzero, habr, -, hstarted⟩
  · rw [heq]
    exact hdevice
  · refine hstarted.kept hdevice (startDevice_isSwb a hplain habr) ?_
    rw [hs.eq] at hzero ⊢
    exact (hs.done hzero).1

end Pair

end AudioReachPal.Bluetooth
