import AudioReachPal.Bluetooth.ScoFeedback

/-!
# The codec of a SCO link

A device that is started plays with the codec that the host has named. A start takes the codec from
statics of both directions, in which a codec of before can still stand; and a stop that leaves the
device started forgets the codec of a device without a path.
-/

namespace AudioReachPal.Bluetooth

open AudioReachPal.Lib
open AudioReachPal.Streams
open codec_format_t

/-- The format of a device for the codec. -/
def CodecType.format : CodecType → codec_format_t
  | .LC3 => CODEC_TYPE_LC3
  | .APTX_SPEECH => CODEC_TYPE_APTX_AD_SPEECH
  | _ => CODEC_TYPE_INVALID

/-- No other codec stands in the statics that comes before this one. -/
def ScoStatics.Agrees (s : ScoStatics) (c : Codec) : Prop :=
  (s.sSwbSpeechMode = SPEECH_MODE_INVALID ∨ c.mType = .APTX_SPEECH) ∧
    (s.sIsSwbLc3Enabled = false ∨ c.mType = .LC3 ∨ c.mType = .APTX_SPEECH)

/-- The device keeps its codec at a stop, since it has a path that is not given up. -/
def BtDevice.KeepsCodec (b : BtDevice) : Prop :=
  b.mIsAbrEnabled = true ∧
    (b.mFBPcm = true → b.mAbrRefCnt = 1 → b.deviceStartStopCount ≠ 1)

theorem ScoStatics.format_hears {s t : ScoStatics} {c : Codec} (h : s.hears c = some t) :
    t.format = c.mType.format ↔ s.Agrees c := by
  -- a codec that is not set in the statics has to find them cleared
  have hplain : s.format = CODEC_TYPE_INVALID ↔
      s.sSwbSpeechMode = SPEECH_MODE_INVALID ∧ s.sIsSwbLc3Enabled = false := by
    unfold format
    by_cases hmode : s.sSwbSpeechMode = SPEECH_MODE_INVALID
    · rw [if_neg (not_not.mpr hmode), and_iff_right hmode]
      cases s.sIsSwbLc3Enabled <;> decide
    · rw [if_pos hmode]
      exact iff_of_false nofun fun hboth => hmode hboth.1
  unfold hears at h
  unfold Agrees
  cases hc : c.mType <;> rw [hc] at h <;> cases h
  case LC3 =>
    unfold format
    dsimp only [CodecType.format]
    by_cases hmode : s.sSwbSpeechMode = SPEECH_MODE_INVALID
    · rw [if_neg (not_not.mpr hmode), if_pos rfl]
      exact iff_of_true rfl ⟨.inl hmode, .inr (.inl rfl)⟩
    · rw [if_pos hmode]
      exact iff_of_false nofun fun hall => hall.1.elim hmode nofun
  case APTX_SPEECH =>
    refine iff_of_true ?_ ⟨.inr rfl, .inr (.inr rfl)⟩
    exact if_pos (by decide : (0 : ℤ) ≠ SPEECH_MODE_INVALID)
  all_goals
    refine hplain.trans (and_congr ?_ ?_)
    · exact (or_iff_left nofun).symm
    · exact (or_iff_left fun hno => hno.elim nofun nofun).symm

/-! ### What keeps the format of both devices -/

namespace Pair

variable (p : Pair) (t : codec_type)

/-- Both devices have the codecs that they had. -/
def SameFormat (p q : Pair) : Prop :=
  q.dev.mCodecFormat = p.dev.mCodecFormat ∧ q.mFBDev.mCodecFormat = p.mFBDev.mCodecFormat

variable {p t} {q r : Pair}

theorem SameFormat.refl (p : Pair) : p.SameFormat p := ⟨rfl, rfl⟩

theorem SameFormat.trans (h : p.SameFormat q) (h' : q.SameFormat r) : p.SameFormat r :=
  ⟨h'.1.trans h.1, h'.2.trans h.2⟩

theorem sameFormat_configureFeedback (a : AbrAnswers) (fbDevice : pal_device_id_t) :
    p.SameFormat (p.configureFeedback a fbDevice).2 := by
  unfold configureFeedback
  dsimp only
  split_ifs <;> exact ⟨rfl, rfl⟩

theorem sameFormat_start_pcm (a : AbrAnswers) (fbDevice : pal_device_id_t) :
    p.SameFormat (p.startPcm t a fbDevice) := by
  unfold startPcm
  dsimp only
  split_ifs <;> exact ⟨rfl, rfl⟩

theorem sameFormat_startFeedback (a : AbrAnswers) (fbDevice : pal_device_id_t) :
    p.SameFormat (p.startFeedback t a fbDevice) := by
  have hset : p.SameFormat { p with line.feedbackChannel := 1 } := ⟨rfl, rfl⟩
  have hconf := hset.trans (sameFormat_configureFeedback a fbDevice)
  unfold startFeedback
  dsimp only
  split_ifs
  · exact hset.trans (sameFormat_start_pcm ..)
  · exact hconf.trans (sameFormat_start_pcm ..)
  · exact hconf.trans ⟨rfl, rfl⟩

theorem sameFormat_startAbr (a : AbrAnswers) (id : pal_device_id_t) :
    p.SameFormat (p.startAbr t a id) := by
  unfold startAbr
  by_cases hpos : 0 < p.dev.mAbrRefCnt
  · rw [if_pos hpos]
    exact ⟨rfl, rfl⟩
  rw [if_neg hpos]
  cases fbDeviceId t id with
  | none => exact .refl p
  | some fbDevice =>
    have htake : p.SameFormat (p.takeId t a.allocateFrontEndIds) := ⟨rfl, rfl⟩
    dsimp only
    split_ifs
    any_goals exact ⟨rfl, rfl⟩
    exact htake.trans (sameFormat_startFeedback ..)

theorem sameFormat_unshare : p.SameFormat p.unshare := by
  refine ⟨rfl, ?_⟩
  show p.mFBDev.unshare.mCodecFormat = _
  unfold BtDevice.unshare BtDevice.unshareStart
  dsimp only
  split_ifs <;> rfl

theorem sameFormat_countOut (id : pal_device_id_t) : p.SameFormat (p.countOut id) := by
  have hunshare := sameFormat_unshare (p := p)
  unfold countOut
  dsimp only
  split_ifs
  · exact hunshare.trans sameFormat_unshare
  · exact hunshare
  · exact hunshare
  · exact .refl p

theorem sameFormat_start (p : Pair) (d : Dir) (a : ScoStartAnswers) :
    p.SameFormat (p.start d a).2 := by
  have hframe := startDevice_frame p a
  have hdevice : p.SameFormat (p.startDevice a).2 :=
    ⟨hframe.2.2.1, congrArg BtDevice.mCodecFormat hframe.2.2.2.1⟩
  unfold start
  dsimp only
  split_ifs
  · exact hdevice.trans (sameFormat_startAbr ..)
  · exact hdevice

theorem countOut_dev (p : Pair) (id : pal_device_id_t) : (p.countOut id).dev = p.dev := by
  unfold countOut
  dsimp only
  split_ifs <;> rfl

/-- The end of a path: a device that is started once more gives the path up. -/
theorem stopFeedback_dev (p : Pair) (t : codec_type) (a : StopAbrAnswers) (id : pal_device_id_t) :
    p.SameFormat (p.stopFeedback t a id) ∧ ((p.stopFeedback t a id).dev.mIsAbrEnabled = true ↔
      p.dev.mIsAbrEnabled = true ∧ p.dev.deviceStartStopCount ≠ 1) := by
  obtain ⟨channel, hreset, -⟩ := resetChannel_eq ({ p with dev.mFBPcm := false } : Pair) a
  have hcount := countOut_dev { p with dev.mFBPcm := false, line.feedbackChannel := channel } id
  have hformat : p.SameFormat (Pair.countOut
      { p with dev.mFBPcm := false, line.feedbackChannel := channel } id) :=
    ⟨by rw [hcount], (sameFormat_countOut id).2⟩
  unfold stopFeedback
  dsimp only
  rw [hreset, freeIds_of_nonempty]
  have hstart : (Pair.freeIds t (Pair.countOut
      { p with dev.mFBPcm := false, line.feedbackChannel := channel } id)).dev =
        { p.dev with mFBPcm := false, mFBPcmDevIds := [] } := by
    unfold freeIds
    rw [hcount]
  rw [hstart]
  dsimp only
  by_cases hlast : p.dev.deviceStartStopCount = 1
  · rw [if_pos hlast]
    refine ⟨⟨rfl, hformat.2⟩, iff_of_false nofun fun hyes => hyes.2 hlast⟩
  · rw [if_neg hlast, hstart]
    exact ⟨⟨by rw [hstart], hformat.2⟩, (and_iff_left hlast).symm⟩

theorem stopAbr_dev (p : Pair) (t : codec_type) (a : StopAbrAnswers) (id : pal_device_id_t) :
    p.SameFormat (p.stopAbr t a id) ∧
      ((p.stopAbr t a id).dev.mIsAbrEnabled = true ↔ p.dev.mIsAbrEnabled = true ∧
        (p.dev.mFBPcm = true → p.dev.mAbrRefCnt = 1 → p.dev.deviceStartStopCount ≠ 1)) := by
  have hstay : (p.dev.mFBPcm = true → p.dev.mAbrRefCnt ≠ 1) →
      (p.dev.mIsAbrEnabled = true ↔ p.dev.mIsAbrEnabled = true ∧
        (p.dev.mFBPcm = true → p.dev.mAbrRefCnt = 1 → p.dev.deviceStartStopCount ≠ 1)) :=
    fun hne => (and_iff_left fun hpcm hone => absurd hone (hne hpcm)).symm
  unfold stopAbr
  by_cases hpcm : p.dev.mFBPcm = true
  swap
  · rw [if_pos (by simpa using hpcm)]
    exact ⟨.refl p, hstay fun hyes => absurd hyes hpcm⟩
  rw [if_neg (by simpa using hpcm)]
  by_cases hzero : p.dev.mAbrRefCnt = 0
  · rw [if_pos hzero]
    exact ⟨.refl p, hstay fun _ hone => absurd (hzero.symm.trans hone) zero_ne_one⟩
  rw [if_neg hzero]
  dsimp only
  by_cases hmore : 0 < p.dev.mAbrRefCnt - 1
  · rw [if_pos hmore]
    exact ⟨⟨rfl, rfl⟩, hstay fun _ hone => by omega⟩
  · rw [if_neg hmore]
    obtain ⟨hformat, habr⟩ := stopFeedback_dev
      ({ p with dev.mAbrRefCnt := p.dev.mAbrRefCnt - 1 } : Pair) t a id
    refine ⟨hformat, habr.trans (and_congr_right fun _ => ?_)⟩
    exact ⟨fun hne _ _ => hne, fun hne => hne hpcm (by omega)⟩

/-- A stop forgets the codec of a device that gives its path up, or has none. -/
theorem stop_format (p : Pair) (d : Dir) (a : StopAbrAnswers) :
    (p.stop d a).mFBDev.mCodecFormat = p.mFBDev.mCodecFormat ∧
      (p.dev.KeepsCodec → (p.stop d a).dev.mCodecFormat = p.dev.mCodecFormat) ∧
      (¬ p.dev.KeepsCodec → (p.stop d a).dev.mCodecFormat = CODEC_TYPE_INVALID) := by
  obtain ⟨q, hstop, hformat, habr⟩ : ∃ q : Pair,
      p.stop d a = { q.closePlugin with dev := q.closePlugin.dev.stopSco } ∧ p.SameFormat q ∧
      (q.dev.mIsAbrEnabled = true ↔ p.dev.KeepsCodec) := by
    obtain ⟨hformat, habr⟩ := stopAbr_dev p d.mCodecType a d.id
    unfold stop
    dsimp only
    split_ifs with hyes
    · exact ⟨_, rfl, hformat, habr⟩
    · exact ⟨_, rfl, .refl p, iff_of_false hyes fun hkeeps => hyes hkeeps.1⟩
  obtain ⟨plugin, plugins, hclosed⟩ := closePlugin_frame q
  have hsco : ∀ b : BtDevice, b.stopSco.mCodecFormat =
      if b.mIsAbrEnabled = false then CODEC_TYPE_INVALID else b.mCodecFormat := by
    intro b
    unfold BtDevice.stopSco BtDevice.stopL
    dsimp only
    split_ifs <;> rfl
  rw [hstop, hclosed, ← habr, ← hformat.1, ← hformat.2]
  dsimp only
  rw [hsco]
  dsimp only
  refine ⟨rfl, fun hyes => ?_, fun hno => ?_⟩
  · rw [if_neg (by rw [hyes]; decide)]
  · rw [if_pos (Bool.eq_false_of_not_eq_true hno)]

end Pair

/-! ### The codec of the profile -/

namespace HFPProfile

variable {p : HFPProfile} {c : Codec} {config : Option HfpConfig}

/-- The counter has started over. The profile stays as it is from then on. -/
def Stuck (p : HFPProfile) : Prop := p.mState = .STARTED ∧ p.mStreamCounter = 0

theorem Stuck.start (h : p.Stuck) : p.start = (.FAILED, p) := by
  unfold HFPProfile.start
  rw [h.1]
  dsimp only
  rw [if_neg (by rw [h.2]; decide)]

theorem Stuck.stop (h : p.Stuck) : p.stop = (.FAILED, p) := by
  unfold HFPProfile.stop
  rw [if_neg (by rw [h.2]; exact fun hyes => absurd hyes.2 (by decide)),
    if_neg (by rw [h.2]; exact fun hyes => absurd hyes.2 (by decide))]

/-- A connection changes nothing of a profile that is started, and else leaves it with no stream. -/
theorem open_cases (p : HFPProfile) : p.open.2 = p ∨ (p.mState ≠ .STARTED ∧
    p.open.2.mState ≠ .STARTED ∧ p.open.2.mStreamCounter = 0 ∧ p.open.2.mCodec = p.mCodec) := by
  unfold HFPProfile.open
  split
  · exact .inl rfl
  · rename_i hs
    exact .inr ⟨by rw [hs]; decide, nofun, rfl, rfl⟩
  · exact .inl rfl

theorem close_cases (p : HFPProfile) : p.close.2 = p ∨ (p.mState ≠ .STARTED ∧
    p.close.2.mState ≠ .STARTED ∧ p.close.2.mStreamCounter = 0 ∧ p.close.2.mCodec = p.mCodec) := by
  unfold HFPProfile.close
  split
  · exact .inl rfl
  · rename_i hs
    exact .inr ⟨by rw [hs]; decide, nofun, rfl, rfl⟩
  · rename_i hs
    exact .inr ⟨by rw [hs]; decide, nofun, rfl, rfl⟩
  · exact .inl rfl

@[simp] theorem start_mCodec (p : HFPProfile) : p.start.2.mCodec = p.mCodec := by
  unfold HFPProfile.start
  split
  · rfl
  · rfl
  · split_ifs <;> rfl
  · rfl

/-- A stop keeps the codec, except the last one. -/
theorem stop_mCodec (p : HFPProfile) :
    p.stop.2.mCodec = if p.mState = .STARTED ∧ p.mStreamCounter = 1 then none else p.mCodec := by
  unfold HFPProfile.stop
  split_ifs <;> rfl

theorem getCodec_of_some (hs : p.mState = .STARTED) (hc : p.mCodec = some c) :
    p.getCodec config = (some c, p) := by
  unfold getCodec
  rw [if_neg (not_not.mpr hs), hc]

theorem getCodec_mCodec (h : (p.getCodec config).1 = some c) :
    (p.getCodec config).2.mCodec = some c := by
  unfold getCodec at h ⊢
  split_ifs at h ⊢
  split at h
  · rename_i hc
    rw [hc]
    exact h
  · cases config with
    | none => cases h
    | some cfg => exact h

end HFPProfile

namespace Sco

variable {σ τ : Sco} {d : Dir} {c : ScoCall} {a : ScoStartAnswers}

/-- Each device that is started has the codec that the host has named. -/
def CodecLaw (σ : Sco) : Prop := σ.statics.sIsHFPSyncEnabled = true → ∀ d, 0 < σ.started d →
  ∃ codec, σ.sHFPProfile.mCodec = some codec ∧ (σ.dev d).mCodecFormat = codec.mType.format

/-- What holds in every run: the profile counts no stream too few, or it is stuck. -/
structure CodecKept (σ : Sco) : Prop where
  sound : σ.sHFPProfile.Sound
  counted : σ.statics.sIsHFPSyncEnabled = true →
    (σ.sHFPProfile.Active ∧ σ.total ≤ σ.sHFPProfile.mStreamCounter) ∨ σ.sHFPProfile.Stuck

/-- The call keeps the law: a device that is started, by the call or before, hears of a codec that
the statics agree with; and one that is started more than once keeps the codec at a stop. -/
def codecHeld (σ : Sco) : ScoCall → Prop
  | .start d a => σ.MayStart d a → σ.statics.sIsHFPSyncEnabled = true → (σ.hear d a).1 = 0 →
      (σ.start d a).1 = 0 ∨ 0 < σ.started d →
      ∀ codec, (σ.hear d a).2.sHFPProfile.mCodec = some codec → σ.statics.Agrees codec
  | .stop d _ => σ.statics.sIsHFPSyncEnabled = true → 1 < σ.started d →
      (σ.dev d).KeepsCodec ∨ (σ.dev d).mCodecFormat = CODEC_TYPE_INVALID
  | _ => True

/-! ### What a start hears -/

/-- A profile that is stuck says nothing any more. -/
theorem hear_of_stuck (hsync : σ.statics.sIsHFPSyncEnabled = true) (h : σ.sHFPProfile.Stuck) :
    (σ.hear d a).1 ≠ 0 ∧ (σ.hear d a).2.sHFPProfile = σ.sHFPProfile := by
  have hstart := startBTHost_of_sync hsync
  rw [h.start] at hstart
  rcases hear_cases σ d a with ⟨hne, hhear⟩ | ⟨hzero, -⟩ | ⟨hzero, -⟩
  · rw [hhear]
    exact ⟨hne, by rw [hstart]⟩
  · rw [hstart] at hzero
    cases hzero
  · rw [hstart] at hzero
    cases hzero

/-- At the last number of the counter the profile comes to be stuck. -/
theorem stuck_hear (h : σ.sHFPProfile.Sound) (hsync : σ.statics.sIsHFPSyncEnabled = true)
    (hfull : ¬ σ.sHFPProfile.mStreamCounter + 1 < 2 ^ 32) : (σ.hear d a).2.sHFPProfile.Stuck := by
  obtain ⟨hok, hn⟩ := HFPProfile.start_counter_of_full h hfull
  have hs := h.counter (by omega)
  have hstart := startBTHost_of_sync hsync
  have hstarted : σ.startBTHost.2.sHFPProfile.Stuck := by
    rw [hstart]
    refine ⟨?_, hn⟩
    unfold HFPProfile.start
    rw [hs]
    dsimp only
    split_ifs
    · rfl
    · exact hs
  have hheard : (σ.heard a).2.sHFPProfile.Stuck := by
    unfold HFPProfile.Stuck
    rw [heard_of_sync hsync, HFPProfile.getCodec_mState, HFPProfile.getCodec_mStreamCounter]
    exact hstarted
  rcases hear_cases σ d a with ⟨-, hhear⟩ | ⟨-, -, hhear⟩ | ⟨-, -, hhear⟩ <;> rw [hhear]
  · exact hstarted
  · rw [stopBTHost_of_sync ((sameStreams_heard σ a).sIsHFPSyncEnabled.trans hsync), hheard.stop]
    exact hheard
  · exact hheard

theorem getCodecConfigFromBTHost_ok {config : Option HfpConfig}
    (hsync : σ.statics.sIsHFPSyncEnabled = true)
    (hzero : (σ.getCodecConfigFromBTHost config).1 = 0) : ∃ codec s,
      (σ.sHFPProfile.getCodec config).1 = some codec ∧ σ.statics.hears codec = some s ∧
      (σ.getCodecConfigFromBTHost config).2.statics = s := by
  unfold getCodecConfigFromBTHost at hzero ⊢
  rw [hsync, if_neg (by decide)] at hzero ⊢
  dsimp only at hzero ⊢
  cases hcodec : (σ.sHFPProfile.getCodec config).1 with
  | none =>
    rw [hcodec] at hzero
    cases hzero
  | some codec =>
    rw [hcodec] at hzero
    dsimp only at hzero ⊢
    cases hs : σ.statics.hears codec with
    | none =>
      rw [hs] at hzero
      cases hzero
    | some s => exact ⟨codec, s, rfl, hs, rfl⟩

/-- A start that hears the host tells the device the codec that the profile has from then on. -/
theorem hear_codec (hsync : σ.statics.sIsHFPSyncEnabled = true) (hok : (σ.hear d a).1 = 0) :
    ∃ codec s, (σ.hear d a).2.sHFPProfile.mCodec = some codec ∧
      σ.statics.hears codec = some s ∧ (σ.hear d a).2.dev = Function.update σ.dev d
        ((σ.dev d).setFormat s.format) := by
  have hstart := startBTHost_of_sync hsync
  have hstatics : σ.startBTHost.2.statics = σ.statics := by rw [hstart]
  rcases hear_cases σ d a with ⟨hne, hhear⟩ | ⟨-, hne, hhear⟩ | ⟨-, hzero, hhear⟩
  · rw [hhear] at hok
    exact absurd hok hne
  · rw [hhear] at hok
    exact absurd hok hne
  rw [hhear]
  dsimp only
  have hdev := heard_dev σ a
  obtain ⟨codec, s, hcodec, hs, hheard⟩ :=
    getCodecConfigFromBTHost_ok (by rw [hstatics, hsync]) hzero
  rw [hstatics] at hs
  refine ⟨codec, s, ?_, hs, ?_⟩
  · show (σ.heard a).2.sHFPProfile.mCodec = _
    rw [heard_of_sync hsync]
    exact HFPProfile.getCodec_mCodec hcodec
  · show Function.update (σ.heard a).2.dev d _ = _
    rw [hdev]
    exact congrArg (fun s => Function.update σ.dev d ((σ.dev d).setFormat s.format)) hheard

/-- A start keeps the codec of a profile that counts streams. -/
theorem CodecKept.hear_mCodec (hk : σ.CodecKept) (hsync : σ.statics.sIsHFPSyncEnabled = true)
    (hpos : 0 < σ.total) {codec : Codec} (hcodec : σ.sHFPProfile.mCodec = some codec) :
    (σ.hear d a).2.sHFPProfile.mCodec = some codec := by
  rcases hk.counted hsync with ⟨hactive, hle⟩ | hstuck
  swap
  · rw [(hear_of_stuck hsync hstuck).2]
    exact hcodec
  have hcount : σ.sHFPProfile.mStreamCounter ≠ 0 := by omega
  have hs := hactive.mpr hcount
  have hbound := hk.sound.bound
  have hstart := startBTHost_of_sync hsync
  obtain ⟨hstate, hmore⟩ : σ.sHFPProfile.start.2.mState = .STARTED ∧
      σ.sHFPProfile.start.2.mStreamCounter ≠ 1 := by
    unfold HFPProfile.start
    rw [hs]
    dsimp only
    rw [if_pos (by omega)]
    refine ⟨rfl, ?_⟩
    show (σ.sHFPProfile.mStreamCounter + 1) % 2 ^ 32 ≠ 1
    omega
  have hstarted : σ.startBTHost.2.sHFPProfile.mCodec = some codec := by
    rw [hstart]
    exact (HFPProfile.start_mCodec _).trans hcodec
  have hheard : (σ.heard a).2.sHFPProfile = σ.startBTHost.2.sHFPProfile := by
    rw [heard_of_sync hsync, HFPProfile.getCodec_of_some (by rw [hstart]; exact hstate) hstarted]
  rcases hear_cases σ d a with ⟨-, hhear⟩ | ⟨-, -, hhear⟩ | ⟨-, -, hhear⟩ <;> rw [hhear]
  · exact hstarted
  · rw [stopBTHost_of_sync ((sameStreams_heard σ a).sIsHFPSyncEnabled.trans hsync), hheard,
      HFPProfile.stop_mCodec, if_neg (by rw [hstart]; exact fun hone => hmore hone.2)]
    exact hstarted
  · exact (congrArg HFPProfile.mCodec hheard).trans hstarted

/-! ### What holds in every run -/

theorem CodecKept.start (hk : σ.CodecKept) (ht : σ.step (.start d a) = some τ) : τ.CodecKept := by
  refine ⟨sound_step hk.sound ht, fun hsync' => ?_⟩
  obtain ⟨hprofile, hsame, htotal⟩ := start_total ht
  rw [hprofile, htotal]
  have hsync : σ.statics.sIsHFPSyncEnabled = true := hsame.symm.trans hsync'
  rcases hk.counted hsync with ⟨hactive, hle⟩ | hstuck
  · by_cases hroom : σ.sHFPProfile.mStreamCounter + 1 < 2 ^ 32
    · obtain ⟨hactive', hn⟩ := hear_counter (d := d) hk.sound hactive hsync hroom a
      refine .inl ⟨hactive', ?_⟩
      rw [hn]
      by_cases hok : (σ.start d a).1 = 0
      · rw [if_pos hok, if_pos (hear_of_start a hok)]
        omega
      · rw [if_neg hok]
        omega
    · exact .inr (stuck_hear hk.sound hsync hroom)
  · obtain ⟨-, hsame⟩ := hear_of_stuck (d := d) (a := a) hsync hstuck
    rw [hsame]
    exact .inr hstuck

theorem CodecKept.stop {a : StopAbrAnswers} (hk : σ.CodecKept)
    (ht : σ.step (.stop d a) = some τ) : τ.CodecKept := by
  refine ⟨sound_step hk.sound ht, fun hsync' => ?_⟩
  obtain ⟨hprofile, hsame, hpos, htotal⟩ := stop_total ht
  have hsync : σ.statics.sIsHFPSyncEnabled = true := hsame.symm.trans hsync'
  rw [hprofile, stopBTHost_of_sync hsync]
  rcases hk.counted hsync with ⟨hactive, hle⟩ | hstuck
  · obtain ⟨n, hn⟩ := Nat.exists_eq_add_of_lt (by omega : 0 < σ.sHFPProfile.mStreamCounter)
    rw [Nat.zero_add] at hn
    obtain ⟨-, hcount, hactive'⟩ :=
      HFPProfile.stop_counter (hactive.mpr (by rw [hn]; exact Nat.succ_ne_zero n)) hn
    refine .inl ⟨hactive', ?_⟩
    rw [hcount]
    omega
  · rw [hstuck.stop]
    exact .inr hstuck

/-- A parameter leaves the profile as it is, or one that is not started without a stream. -/
theorem setDeviceParameter_profile (σ : Sco) (param : ScoParam) :
    (σ.setDeviceParameter param).sHFPProfile = σ.sHFPProfile ∨
      (σ.sHFPProfile.mState ≠ .STARTED ∧
        (σ.setDeviceParameter param).sHFPProfile.mState ≠ .STARTED ∧
        (σ.setDeviceParameter param).sHFPProfile.mStreamCounter = 0 ∧
        (σ.setDeviceParameter param).sHFPProfile.mCodec = σ.sHFPProfile.mCodec) := by
  cases param with
  | DEVICE_CONNECTION b =>
    cases b
    · show σ.closeBTHost.sHFPProfile = _ ∨ (_ ∧ σ.closeBTHost.sHFPProfile.mState ≠ _ ∧
        σ.closeBTHost.sHFPProfile.mStreamCounter = 0 ∧ σ.closeBTHost.sHFPProfile.mCodec = _)
      unfold closeBTHost
      split_ifs
      · exact .inl rfl
      · exact σ.sHFPProfile.close_cases
    · show σ.openBTHost.sHFPProfile = _ ∨ (_ ∧ σ.openBTHost.sHFPProfile.mState ≠ _ ∧
        σ.openBTHost.sHFPProfile.mStreamCounter = 0 ∧ σ.openBTHost.sHFPProfile.mCodec = _)
      unfold openBTHost
      split_ifs
      · exact .inl rfl
      · exact σ.sHFPProfile.open_cases
  | _ => exact .inl rfl

/-- The profile is never taken into step again. -/
theorem setDeviceParameter_sync (param : ScoParam)
    (h : (σ.setDeviceParameter param).statics.sIsHFPSyncEnabled = true) :
    σ.statics.sIsHFPSyncEnabled = true := by
  cases param with
  | DEVICE_CONNECTION b =>
    cases b
    · change σ.closeBTHost.statics.sIsHFPSyncEnabled = true at h
      unfold closeBTHost at h
      split_ifs at h <;> exact h
    · change σ.openBTHost.statics.sIsHFPSyncEnabled = true at h
      unfold openBTHost at h
      split_ifs at h <;> exact h
  | DISABLE_HFP_SYNC => cases h
  | _ => exact h

theorem CodecKept.step (hk : σ.CodecKept) (ht : σ.step c = some τ) : τ.CodecKept := by
  cases c with
  | «open» d a =>
    cases ht
    split_ifs <;> exact ⟨hk.sound, hk.counted⟩
  | close d =>
    simp only [Sco.step] at ht
    split_ifs at ht
    cases ht
    exact ⟨hk.sound, hk.counted⟩
  | start d a => exact hk.start ht
  | stop d a => exact hk.stop ht
  | setDeviceParameter param =>
    refine ⟨sound_step hk.sound ht, fun hsync => ?_⟩
    cases ht
    have hkept := hk.counted (setDeviceParameter_sync param hsync)
    have hstarted := (setDeviceParameter_frame σ param).2.2.2
    have htotal : (σ.setDeviceParameter param).total = σ.total := by
      unfold total
      rw [hstarted]
    rw [htotal]
    rcases setDeviceParameter_profile σ param with hsame | ⟨hno, hno', hzero, -⟩
    · rw [hsame]
      exact hkept
    · rcases hkept with ⟨hactive, hle⟩ | hstuck
      · refine .inl ⟨iff_of_false hno' fun hne => hne hzero, ?_⟩
        have hnone : σ.sHFPProfile.mStreamCounter = 0 := by
          by_contra hne
          exact hno (hactive.mpr hne)
        omega
      · exact absurd hstuck.1 hno

/-! ### The law along the calls -/

/-- The law is about the streams, the codec of the profile and the one of each device. -/
theorem CodecLaw.congr (hl : σ.CodecLaw)
    (hsync : τ.statics.sIsHFPSyncEnabled = true → σ.statics.sIsHFPSyncEnabled = true)
    (hstarted : τ.started = σ.started)
    (hformat : ∀ e, (τ.dev e).mCodecFormat = (σ.dev e).mCodecFormat)
    (hcodec : ∀ codec, 0 < σ.total → σ.sHFPProfile.mCodec = some codec →
      τ.sHFPProfile.mCodec = some codec) : τ.CodecLaw := by
  intro hsync' e he
  rw [hstarted] at he
  obtain ⟨codec, hsome, heq⟩ := hl (hsync hsync') e he
  exact ⟨codec, hcodec codec (Nat.lt_of_lt_of_le he (started_le_total σ e)) hsome,
    (hformat e).trans heq⟩

theorem setDev_format (σ : Sco) {b : BtDevice} (h : b.mCodecFormat = (σ.dev d).mCodecFormat)
    (e : Dir) : ((σ.setDev d b).dev e).mCodecFormat = (σ.dev e).mCodecFormat := by
  unfold setDev
  dsimp only
  by_cases he : e = d
  · subst he
    rw [Function.update_self]
    exact h
  · rw [Function.update_of_ne he]

theorem setPair_format (σ : Sco) {p : Pair} (h : (σ.pair d).SameFormat p) (e : Dir) :
    ((σ.setPair d p).dev e).mCodecFormat = (σ.dev e).mCodecFormat := by
  unfold setPair
  dsimp only
  obtain rfl | rfl := d.eq_or_eq_other e
  · rw [if_pos rfl]
    exact h.1
  · rw [if_neg (Dir.other_ne d)]
    exact h.2

/-- The codecs of the devices after a start. -/
theorem start_format (σ : Sco) (d : Dir) (a : ScoStartAnswers) (e : Dir) :
    ((σ.start d a).2.dev e).mCodecFormat = ((σ.hear d a).2.dev e).mCodecFormat := by
  by_cases hok : (σ.hear d a).1 = 0
  · rw [start_of_hear hok]
    exact setPair_format _ (Pair.sameFormat_start ..) e
  · rw [start_of_not_hear hok]

theorem setFormat_mCodecFormat (b : BtDevice) (f : codec_format_t) :
    (b.setFormat f).mCodecFormat = f := by
  obtain ⟨abr, heq⟩ := BtDevice.setFormat_frame b f
  rw [heq]

theorem step_start_started (ht : σ.step (.start d a) = some τ) :
    τ.dev = (σ.start d a).2.dev ∧ τ.started = if (σ.start d a).1 = 0 then
      Function.update σ.started d (σ.started d + 1) else σ.started := by
  have hstarted : (σ.start d a).2.started = σ.started :=
    (sameHost_start σ d a).started.trans (sameStreams_hear σ d a).started
  simp only [step] at ht
  split_ifs at ht with hmay hzero <;> cases ht
  · rw [if_pos hzero]
    exact ⟨rfl, rfl⟩
  · rw [if_neg hzero]
    exact ⟨rfl, hstarted⟩

/-- The law after a start. -/
theorem CodecLaw.started_iff (hl : σ.CodecLaw) (hk : σ.CodecKept)
    (ht : σ.step (.start d a) = some τ) : τ.CodecLaw ↔ (σ.statics.sIsHFPSyncEnabled = true →
      (σ.hear d a).1 = 0 → (σ.start d a).1 = 0 ∨ 0 < σ.started d →
      ∀ codec, (σ.hear d a).2.sHFPProfile.mCodec = some codec → σ.statics.Agrees codec) := by
  obtain ⟨hprofile, hsame, -⟩ := start_total ht
  obtain ⟨hdev, hstarted⟩ := step_start_started ht
  have hformat : ∀ e, (τ.dev e).mCodecFormat = ((σ.hear d a).2.dev e).mCodecFormat := by
    intro e
    rw [hdev]
    exact start_format σ d a e
  by_cases hsync : σ.statics.sIsHFPSyncEnabled = true
  swap
  · refine iff_of_true (fun hyes => ?_) fun hyes => absurd hyes hsync
    exact absurd (hsame.symm.trans hyes) hsync
  rw [forall_prop_of_true hsync]
  by_cases hok : (σ.hear d a).1 = 0
  swap
  · refine iff_of_true ?_ fun hyes => absurd hyes hok
    have hstatus : (σ.start d a).1 ≠ 0 := by rw [start_of_not_hear hok]; exact hok
    rw [if_neg hstatus] at hstarted
    refine hl.congr (fun _ => hsync) hstarted (fun e => ?_) fun codec hpos hcodec => ?_
    · rw [hformat]
      have hpair := pair_of_not_hear hok
      obtain rfl | rfl := d.eq_or_eq_other e
      · exact congrArg (fun p => p.dev.mCodecFormat) hpair
      · exact congrArg (fun p => p.mFBDev.mCodecFormat) hpair
    · rw [hprofile]
      exact hk.hear_mCodec hsync hpos hcodec
  rw [forall_prop_of_true hok]
  obtain ⟨codec, s, hcodec, hs, hhear⟩ := hear_codec hsync hok
  have hown : (τ.dev d).mCodecFormat = s.format := by
    rw [hformat, hhear, Function.update_self]
    exact setFormat_mCodecFormat ..
  have hcount : 0 < τ.started d ↔ (σ.start d a).1 = 0 ∨ 0 < σ.started d := by
    rw [hstarted]
    split_ifs with hzero
    · rw [Function.update_self]
      exact iff_of_true (Nat.succ_pos _) (.inl hzero)
    · exact (or_iff_right hzero).symm
  constructor
  · intro hlaw hyes codec' hcodec'
    obtain rfl := Option.some.inj (hcodec.symm.trans hcodec')
    obtain ⟨named, hnamed, heq⟩ := hlaw (hsame.trans hsync) d (hcount.mpr hyes)
    obtain rfl := Option.some.inj (hcodec.symm.trans (hprofile ▸ hnamed))
    exact (ScoStatics.format_hears hs).mp (hown.symm.trans heq)
  · intro hagrees _ e he
    rw [hprofile]
    obtain rfl | rfl := d.eq_or_eq_other e
    · have hsay := hagrees (hcount.mp he) codec hcodec
      exact ⟨codec, hcodec, hown.trans ((ScoStatics.format_hears hs).mpr hsay)⟩
    · have hother : τ.started d.other = σ.started d.other := by
        rw [hstarted]
        split_ifs
        · exact Function.update_of_ne (Dir.other_ne d) ..
        · rfl
      rw [hother] at he
      obtain ⟨named, hnamed, heq⟩ := hl hsync d.other he
      refine ⟨named, hk.hear_mCodec hsync ?_ hnamed, ?_⟩
      · exact Nat.lt_of_lt_of_le he (started_le_total σ _)
      · rw [hformat, hhear, Function.update_of_ne (Dir.other_ne d)]
        exact heq

/-- The codecs of the devices after a stop. -/
theorem step_stop_format {a : StopAbrAnswers} (ht : σ.step (.stop d a) = some τ) :
    (τ.dev d.other).mCodecFormat = (σ.dev d.other).mCodecFormat ∧
      ((σ.dev d).KeepsCodec → (τ.dev d).mCodecFormat = (σ.dev d).mCodecFormat) ∧
      (¬ (σ.dev d).KeepsCodec → (τ.dev d).mCodecFormat = CODEC_TYPE_INVALID) := by
  obtain ⟨-, hpair, -⟩ := step_stop ht
  have hstop := (σ.pair d).stop_format d a
  rw [← hpair] at hstop
  exact hstop

/-- A profile that counts another stream as well keeps its codec at a stop. -/
theorem CodecKept.stop_mCodec (hk : σ.CodecKept) (hsync : σ.statics.sIsHFPSyncEnabled = true)
    (hmore : 1 < σ.total) : σ.stopBTHost.2.sHFPProfile.mCodec = σ.sHFPProfile.mCodec := by
  rw [stopBTHost_of_sync hsync, HFPProfile.stop_mCodec]
  refine if_neg fun hone => ?_
  rcases hk.counted hsync with ⟨-, hle⟩ | hstuck
  · omega
  · exact absurd (hstuck.2.symm.trans hone.2) zero_ne_one

/-- The law after a stop. -/
theorem CodecLaw.stopped_iff {a : StopAbrAnswers} (hl : σ.CodecLaw) (hk : σ.CodecKept)
    (ht : σ.step (.stop d a) = some τ) : τ.CodecLaw ↔ (σ.statics.sIsHFPSyncEnabled = true →
      1 < σ.started d → (σ.dev d).KeepsCodec ∨ (σ.dev d).mCodecFormat = CODEC_TYPE_INVALID) := by
  obtain ⟨hprofile, hsame, hpos, htotal⟩ := stop_total ht
  obtain ⟨hother, hkeeps, hforgets⟩ := step_stop_format ht
  obtain ⟨hown, hstarted⟩ : τ.started d = σ.started d - 1 ∧
      τ.started d.other = σ.started d.other := by
    have huses := (step_stop ht).2.2
    exact ⟨congrArg Uses.started huses, congrArg Uses.otherStarted huses⟩
  by_cases hsync : σ.statics.sIsHFPSyncEnabled = true
  swap
  · refine iff_of_true (fun hyes => ?_) fun hyes => absurd hyes hsync
    exact absurd (hsame.symm.trans hyes) hsync
  rw [forall_prop_of_true hsync]
  have hcodec : ∀ e, 0 < τ.started e → τ.sHFPProfile.mCodec = σ.sHFPProfile.mCodec := by
    intro e he
    have hleft := Nat.lt_of_lt_of_le he (started_le_total τ e)
    rw [hprofile]
    exact hk.stop_mCodec hsync (by omega)
  obtain ⟨codec, hsome, hformat⟩ := hl hsync d hpos
  constructor
  · intro hlaw hmore
    by_cases hyes : (σ.dev d).KeepsCodec
    · exact .inl hyes
    · have hleft : 0 < τ.started d := by omega
      obtain ⟨named, hnamed, heq⟩ := hlaw (hsame.trans hsync) d hleft
      rw [hcodec d hleft, hsome] at hnamed
      obtain rfl := Option.some.inj hnamed
      exact .inr (hformat.trans (heq.symm.trans (hforgets hyes)))
  · intro hheld _ e he
    obtain rfl | rfl := d.eq_or_eq_other e
    · refine ⟨codec, (hcodec e he).trans hsome, Eq.trans ?_ hformat⟩
      by_cases hyes : (σ.dev e).KeepsCodec
      · exact hkeeps hyes
      · rw [hforgets hyes]
        exact ((hheld (by omega)).resolve_left hyes).symm
    · have hleft : 0 < σ.started d.other := hstarted ▸ he
      obtain ⟨named, hnamed, heq⟩ := hl hsync d.other hleft
      exact ⟨named, (hcodec _ he).trans hnamed, hother.trans heq⟩

/-! ### Every run -/

theorem codecKept_init (mFBPcm : Dir → Bool) : (init mFBPcm).CodecKept :=
  ⟨HFPProfile.sound_new, fun _ => .inl ⟨iff_of_false nofun fun h => h rfl, le_rfl⟩⟩

/-- **The codec of a SCO link.** Each device that is started has the codec that the host has named,
in every state of a run while the profile is kept in step, if and only if every start hears a codec
that the statics agree with, and every stop that leaves its device started keeps the codec. -/
theorem codecLaw_iff_codecHeld (mFBPcm : Dir → Bool) (calls : List ScoCall) :
    (∀ js σ, js <+: calls → run step (init mFBPcm) js = some σ → σ.CodecLaw) ↔
      Meets step codecHeld (init mFBPcm) calls := by
  have hkept : ∀ (σ : Sco) c τ, σ.CodecKept → σ.step c = some τ → τ.CodecKept :=
    fun _ _ _ hk ht => hk.step ht
  refine law_prefixes_iff_meets hkept ?_ (codecKept_init mFBPcm)
    fun _ d hpos => absurd hpos (Nat.lt_irrefl 0)
  intro σ c _ hk hl
  cases hstep : σ.step c with
  | none =>
    refine iff_of_true (fun t ht => absurd ht.symm (Option.some_ne_none t)) ?_
    cases c with
    | start d a =>
      simp only [step] at hstep
      split_ifs at hstep with hmay
      exact fun hyes => absurd hyes hmay
    | stop d a =>
      simp only [step] at hstep
      split_ifs at hstep with hpos
      exact fun _ hmore => absurd (by omega) hpos
    | _ => trivial
  | some τ =>
    have hthe : (∀ t, some τ = some t → t.CodecLaw) ↔ τ.CodecLaw :=
      ⟨fun hall => hall τ rfl, fun hlaw t ht => Option.some.inj ht ▸ hlaw⟩
    rw [hthe]
    cases c with
    | «open» d a =>
      refine iff_of_true ?_ trivial
      obtain ⟨enabled, count, heq⟩ := BtDevice.open_frame (σ.dev d) a
      cases hstep
      split_ifs
      all_goals
        refine hl.congr id rfl (setDev_format σ ?_) fun _ _ hcodec => hcodec
        rw [heq]
    | close d =>
      refine iff_of_true ?_ trivial
      obtain ⟨enabled, count, started, heq⟩ := BtDevice.close_frame (σ.dev d)
      simp only [step] at hstep
      split_ifs at hstep
      cases hstep
      refine hl.congr id rfl (setDev_format σ ?_) fun _ _ hcodec => hcodec
      rw [heq]
    | start d a =>
      rw [hl.started_iff hk hstep]
      exact ⟨fun hok _ => hok, fun hok => hok (mayStart_of_step hstep)⟩
    | stop d a => exact hl.stopped_iff hk hstep
    | setDeviceParameter param =>
      refine iff_of_true ?_ trivial
      cases hstep
      obtain ⟨hdev, -, -, hstarted⟩ := setDeviceParameter_frame σ param
      refine hl.congr (setDeviceParameter_sync param) hstarted (fun e => by rw [hdev]) ?_
      intro codec _ hcodec
      rcases setDeviceParameter_profile σ param with hsame | ⟨-, -, -, hsame⟩
      · rw [hsame]
        exact hcodec
      · rw [hsame]
        exact hcodec

end Sco

end AudioReachPal.Bluetooth
