import AudioReachPal.Bluetooth.Sco

/-!
# The streams that the profile counts

Each stream that has a SCO device started is one of the profile's streams: as many stops as starts
come to the host before its close. A start that has heard the codec of the host and fails after that
does not stop the host again, and a profile that is not kept in step any more keeps its streams.
-/

namespace AudioReachPal.Bluetooth

open AudioReachPal.Lib

namespace Sco

variable {σ τ : Sco} {d : Dir} {c : ScoCall}

/-! ### What the stages of a call leave as it is -/

/-- Only the devices and the line are changed. -/
structure SameHost (σ τ : Sco) : Prop where
  sHFPProfile : τ.sHFPProfile = σ.sHFPProfile
  statics : τ.statics = σ.statics
  opened : τ.opened = σ.opened
  started : τ.started = σ.started

theorem SameHost.refl (σ : Sco) : SameHost σ σ := ⟨rfl, rfl, rfl, rfl⟩

theorem sameHost_setPair (σ : Sco) (d : Dir) (p : Pair) : SameHost σ (σ.setPair d p) :=
  ⟨rfl, rfl, rfl, rfl⟩

/-- Only the host, the statics and the device are changed. -/
structure SameStreams (σ τ : Sco) : Prop where
  sIsHFPSyncEnabled : τ.statics.sIsHFPSyncEnabled = σ.statics.sIsHFPSyncEnabled
  line : τ.line = σ.line
  opened : τ.opened = σ.opened
  started : τ.started = σ.started

theorem SameStreams.trans {υ : Sco} (h : SameStreams σ τ) (h' : SameStreams τ υ) :
    SameStreams σ υ := ⟨h'.1.trans h.1, h'.2.trans h.2, h'.3.trans h.3, h'.4.trans h.4⟩

theorem sameStreams_startBTHost (σ : Sco) : SameStreams σ σ.startBTHost.2 := by
  unfold startBTHost
  split_ifs <;> exact ⟨rfl, rfl, rfl, rfl⟩

theorem sameStreams_stopBTHost (σ : Sco) : SameStreams σ σ.stopBTHost.2 := by
  unfold stopBTHost
  dsimp only
  split_ifs <;> exact ⟨rfl, rfl, rfl, rfl⟩

theorem hears_sync {s t : ScoStatics} {codec : Codec} (h : s.hears codec = some t) :
    t.sIsHFPSyncEnabled = s.sIsHFPSyncEnabled := by
  unfold ScoStatics.hears at h
  split at h <;> cases h <;> rfl

theorem sameStreams_getCodecConfigFromBTHost (σ : Sco) (config : Option HfpConfig) :
    SameStreams σ (σ.getCodecConfigFromBTHost config).2 := by
  unfold getCodecConfigFromBTHost
  dsimp only
  split_ifs
  · exact ⟨rfl, rfl, rfl, rfl⟩
  · split
    · exact ⟨rfl, rfl, rfl, rfl⟩
    · split
      · exact ⟨rfl, rfl, rfl, rfl⟩
      · rename_i s hs
        exact ⟨hears_sync hs, rfl, rfl, rfl⟩

/-- What a start that comes to the codec of the host has in its hands. -/
def heard (σ : Sco) (a : ScoStartAnswers) : ℤ × Sco :=
  σ.startBTHost.2.getCodecConfigFromBTHost a.config

/-- The host does not start, its codec is not heard, or is. -/
theorem hear_cases (σ : Sco) (d : Dir) (a : ScoStartAnswers) :
    (σ.startBTHost.1 ≠ 0 ∧ σ.hear d a = σ.startBTHost) ∨
      (σ.startBTHost.1 = 0 ∧ (σ.heard a).1 ≠ 0 ∧
        σ.hear d a = ((σ.heard a).1, (σ.heard a).2.stopBTHost.2)) ∨
      (σ.startBTHost.1 = 0 ∧ (σ.heard a).1 = 0 ∧ σ.hear d a = (0, (σ.heard a).2.setDev d
        (((σ.heard a).2.dev d).setFormat (σ.heard a).2.statics.format))) := by
  unfold hear heard
  dsimp only
  by_cases hstart : σ.startBTHost.1 = 0
  · by_cases hcodec : (σ.startBTHost.2.getCodecConfigFromBTHost a.config).1 = 0
    · rw [if_neg (not_not.mpr hstart), if_neg (not_not.mpr hcodec)]
      exact .inr (.inr ⟨hstart, hcodec, rfl⟩)
    · rw [if_neg (not_not.mpr hstart), if_pos hcodec]
      exact .inr (.inl ⟨hstart, hcodec, rfl⟩)
  · rw [if_pos hstart]
    exact .inl ⟨hstart, rfl⟩

theorem sameStreams_heard (σ : Sco) (a : ScoStartAnswers) : SameStreams σ (σ.heard a).2 :=
  (sameStreams_startBTHost σ).trans (sameStreams_getCodecConfigFromBTHost _ _)

theorem sameStreams_hear (σ : Sco) (d : Dir) (a : ScoStartAnswers) :
    SameStreams σ (σ.hear d a).2 := by
  have hheard := sameStreams_heard σ a
  rcases hear_cases σ d a with ⟨-, h⟩ | ⟨-, -, h⟩ | ⟨-, -, h⟩ <;> rw [h]
  · exact sameStreams_startBTHost σ
  · exact hheard.trans (sameStreams_stopBTHost _)
  · exact ⟨hheard.1, hheard.2, hheard.3, hheard.4⟩

/-! ### After the host -/

theorem sameHost_start (σ : Sco) (d : Dir) (a : ScoStartAnswers) :
    SameHost (σ.hear d a).2 (σ.start d a).2 := by
  unfold start
  dsimp only
  split_ifs
  · exact .refl _
  · exact sameHost_setPair ..

theorem hear_of_start (a : ScoStartAnswers) (h : (σ.start d a).1 = 0) : (σ.hear d a).1 = 0 := by
  by_contra hne
  unfold start at h
  dsimp only at h
  rw [if_pos hne] at h
  exact hne h

theorem sameHost_stop (σ : Sco) (d : Dir) (a : StopAbrAnswers) :
    SameHost σ.stopBTHost.2 (σ.stop d a) := sameHost_setPair ..

/-! ### The counter of the profile -/

/-- How many streams have a SCO device started. -/
def total (σ : Sco) : ℕ := σ.started .rx + σ.started .tx

theorem total_update_add {n : ℕ} : ({ σ with
    started := Function.update σ.started d (σ.started d + n) } : Sco).total = σ.total + n := by
  unfold total
  cases d
  · simp only [Function.update_self, Function.update_of_ne (by decide : Dir.tx ≠ Dir.rx)]
    omega
  · simp only [Function.update_self, Function.update_of_ne (by decide : Dir.rx ≠ Dir.tx)]
    omega

theorem started_le_total (σ : Sco) (d : Dir) : σ.started d ≤ σ.total := by
  unfold total
  cases d <;> omega

theorem total_update_sub (hd : 0 < σ.started d) : ({ σ with
    started := Function.update σ.started d (σ.started d - 1) } : Sco).total + 1 = σ.total := by
  unfold total
  cases d
  · simp only [Function.update_self, Function.update_of_ne (by decide : Dir.tx ≠ Dir.rx)]
    omega
  · simp only [Function.update_self, Function.update_of_ne (by decide : Dir.rx ≠ Dir.tx)]
    omega

/-- The profile counts the streams that have a device started, while it is kept in step. -/
structure HostLaw (σ : Sco) : Prop where
  counter : σ.sHFPProfile.mStreamCounter = if σ.statics.sIsHFPSyncEnabled then σ.total else 0
  active : σ.sHFPProfile.mState = .STARTED ↔ σ.statics.sIsHFPSyncEnabled = true ∧ 0 < σ.total

/-- A start has room in the counter, and goes through once it has heard the codec; the profile is
not left alone while a stream is started. -/
def hostHeld (σ : Sco) : ScoCall → Prop
  | .start d a => σ.MayStart d a → σ.statics.sIsHFPSyncEnabled = true →
      σ.sHFPProfile.mStreamCounter + 1 < 2 ^ 32 ∧
        ((σ.hear d a).1 = 0 → (σ.start d a).1 = 0)
  | .setDeviceParameter .DISABLE_HFP_SYNC => σ.statics.sIsHFPSyncEnabled = true → σ.total = 0
  | _ => True

theorem HostLaw.active' (h : σ.HostLaw) : σ.sHFPProfile.Active := by
  unfold HFPProfile.Active
  rw [h.active, h.counter]
  split_ifs with hsync
  · rw [Nat.pos_iff_ne_zero]
    exact and_iff_right hsync
  · exact iff_of_false (fun hs => hsync hs.1) (fun hne => hne rfl)

/-- The law, with nothing said of the state. -/
theorem hostLaw_of_active (h : σ.sHFPProfile.Active)
    (hc : σ.sHFPProfile.mStreamCounter = if σ.statics.sIsHFPSyncEnabled then σ.total else 0) :
    σ.HostLaw := by
  refine ⟨hc, ?_⟩
  unfold HFPProfile.Active at h
  rw [h, hc]
  split_ifs with hsync
  · rw [Nat.pos_iff_ne_zero]
    exact (and_iff_right hsync).symm
  · exact iff_of_false (fun hne => hne rfl) (fun hs => hsync hs.1)

/-! ### The profile along the calls -/

theorem sound_startBTHost (h : σ.sHFPProfile.Sound) : σ.startBTHost.2.sHFPProfile.Sound := by
  unfold startBTHost
  split_ifs
  · exact h
  · exact h.start

theorem sound_stopBTHost (h : σ.sHFPProfile.Sound) : σ.stopBTHost.2.sHFPProfile.Sound := by
  unfold stopBTHost
  dsimp only
  split_ifs
  · exact h
  · exact h.stop
  · exact h.stop
  · exact h.stop

theorem getCodecConfigFromBTHost_sHFPProfile (σ : Sco) (config : Option HfpConfig) :
    (σ.getCodecConfigFromBTHost config).2.sHFPProfile =
      if σ.statics.sIsHFPSyncEnabled then (σ.sHFPProfile.getCodec config).2 else σ.sHFPProfile := by
  unfold getCodecConfigFromBTHost
  dsimp only
  cases σ.statics.sIsHFPSyncEnabled
  · rfl
  · simp only [Bool.not_true, Bool.false_eq_true, if_false, if_true]
    split
    · rfl
    · split <;> rfl

theorem sound_hear (h : σ.sHFPProfile.Sound) (a : ScoStartAnswers) :
    (σ.hear d a).2.sHFPProfile.Sound := by
  have hstart := sound_startBTHost h
  have hcodec : (σ.heard a).2.sHFPProfile.Sound := by
    unfold heard
    rw [getCodecConfigFromBTHost_sHFPProfile]
    split_ifs
    · exact hstart.getCodec _
    · exact hstart
  rcases hear_cases σ d a with ⟨-, hhear⟩ | ⟨-, -, hhear⟩ | ⟨-, -, hhear⟩ <;> rw [hhear]
  · exact hstart
  · exact sound_stopBTHost hcodec
  · exact hcodec

theorem sound_step (h : σ.sHFPProfile.Sound) (hs : σ.step c = some τ) : τ.sHFPProfile.Sound := by
  cases c with
  | «open» d a =>
    cases hs
    split_ifs <;> exact h
  | close d =>
    simp only [step] at hs
    split_ifs at hs
    cases hs
    exact h
  | start d a =>
    have hstart : (σ.start d a).2.sHFPProfile.Sound := by
      rw [(sameHost_start σ d a).sHFPProfile]
      exact sound_hear h a
    simp only [step] at hs
    split_ifs at hs <;> cases hs <;> exact hstart
  | stop d a =>
    simp only [step] at hs
    split_ifs at hs
    cases hs
    show (σ.stop d a).sHFPProfile.Sound
    rw [(sameHost_stop σ d a).sHFPProfile]
    exact sound_stopBTHost h
  | setDeviceParameter param =>
    cases hs
    cases param with
    | DEVICE_CONNECTION b =>
      cases b
      · show σ.closeBTHost.sHFPProfile.Sound
        unfold closeBTHost
        split_ifs
        · exact h
        · exact h.close
      · show σ.openBTHost.sHFPProfile.Sound
        unfold openBTHost
        split_ifs
        · exact h
        · exact h.open
    | _ => exact h

/-! ### What a start and a stop do to the counter -/

theorem hear_of_alone (hsync : σ.statics.sIsHFPSyncEnabled = false) (a : ScoStartAnswers) :
    (σ.hear d a).2.sHFPProfile = σ.sHFPProfile := by
  have hstart : σ.startBTHost = (0, σ) := by
    unfold startBTHost
    rw [hsync]
    rfl
  have hheard : σ.heard a = (0, σ) := by
    unfold heard getCodecConfigFromBTHost
    rw [hstart, hsync]
    rfl
  rcases hear_cases σ d a with ⟨-, h⟩ | ⟨-, hne, -⟩ | ⟨-, -, h⟩
  · rw [h, hstart]
  · rw [hheard] at hne
    exact absurd rfl hne
  · rw [h, hheard]
    rfl

theorem startBTHost_of_sync (hsync : σ.statics.sIsHFPSyncEnabled = true) :
    σ.startBTHost = (if σ.sHFPProfile.start.1 = .OK then 0 else -1,
      { σ with sHFPProfile := σ.sHFPProfile.start.2 }) := by
  unfold startBTHost
  rw [hsync]
  rfl

theorem stopBTHost_of_sync (hsync : σ.statics.sIsHFPSyncEnabled = true) :
    σ.stopBTHost.2.sHFPProfile = σ.sHFPProfile.stop.2 := by
  unfold stopBTHost
  rw [hsync]
  dsimp only
  split_ifs
  · contradiction
  · rfl
  · rfl
  · rfl

theorem heard_of_sync (hsync : σ.statics.sIsHFPSyncEnabled = true) (a : ScoStartAnswers) :
    (σ.heard a).2.sHFPProfile = (σ.startBTHost.2.sHFPProfile.getCodec a.config).2 := by
  unfold heard
  rw [getCodecConfigFromBTHost_sHFPProfile,
    if_pos ((sameStreams_startBTHost σ).sIsHFPSyncEnabled.trans hsync)]

/-- A start that hears no codec is taken back. -/
theorem hear_counter (h : σ.sHFPProfile.Sound) (hactive : σ.sHFPProfile.Active)
    (hsync : σ.statics.sIsHFPSyncEnabled = true)
    (hroom : σ.sHFPProfile.mStreamCounter + 1 < 2 ^ 32) (a : ScoStartAnswers) :
    (σ.hear d a).2.sHFPProfile.Active ∧ (σ.hear d a).2.sHFPProfile.mStreamCounter =
      σ.sHFPProfile.mStreamCounter + if (σ.hear d a).1 = 0 then 1 else 0 := by
  have hstart := startBTHost_of_sync hsync
  have hheard := heard_of_sync hsync a
  rcases HFPProfile.start_counter h hactive hroom with ⟨hok, hs, hn⟩ | ⟨hfail, hsame⟩
  · rw [if_pos hok] at hstart
    have hstate : (σ.heard a).2.sHFPProfile.mState = .STARTED := by
      rw [hheard, HFPProfile.getCodec_mState, hstart]
      exact hs
    have hcount : (σ.heard a).2.sHFPProfile.mStreamCounter =
        σ.sHFPProfile.mStreamCounter + 1 := by
      rw [hheard, HFPProfile.getCodec_mStreamCounter, hstart]
      exact hn
    rcases hear_cases σ d a with ⟨hne, -⟩ | ⟨-, hne, hhear⟩ | ⟨-, -, hhear⟩
    · rw [hstart] at hne
      exact absurd rfl hne
    · obtain ⟨-, hn', hactive'⟩ := HFPProfile.stop_counter hstate hcount
      rw [hhear, if_neg hne,
        stopBTHost_of_sync ((sameStreams_heard σ a).sIsHFPSyncEnabled.trans hsync)]
      exact ⟨hactive', hn'⟩
    · rw [hhear, if_pos rfl]
      refine ⟨iff_of_true hstate ?_, hcount⟩
      show (σ.heard a).2.sHFPProfile.mStreamCounter ≠ 0
      rw [hcount]
      exact Nat.succ_ne_zero _
  · rw [if_neg hfail, hsame] at hstart
    rcases hear_cases σ d a with ⟨hne, hhear⟩ | ⟨hzero, -⟩ | ⟨hzero, -⟩
    · rw [hhear, if_neg hne, hstart]
      exact ⟨hactive, rfl⟩
    · rw [hstart] at hzero
      cases hzero
    · rw [hstart] at hzero
      cases hzero

/-- A start that finds the counter full loses its streams. -/
theorem hear_counter_of_full (h : σ.sHFPProfile.Sound)
    (hsync : σ.statics.sIsHFPSyncEnabled = true)
    (hfull : ¬ σ.sHFPProfile.mStreamCounter + 1 < 2 ^ 32) (a : ScoStartAnswers) :
    (σ.hear d a).2.sHFPProfile.mStreamCounter = 0 := by
  obtain ⟨hok, hn⟩ := HFPProfile.start_counter_of_full h hfull
  have hstart := startBTHost_of_sync hsync
  rw [if_pos hok] at hstart
  have hcount : (σ.heard a).2.sHFPProfile.mStreamCounter = 0 := by
    rw [heard_of_sync hsync a, HFPProfile.getCodec_mStreamCounter, hstart]
    exact hn
  rcases hear_cases σ d a with ⟨hne, -⟩ | ⟨-, -, hhear⟩ | ⟨-, -, hhear⟩
  · rw [hstart] at hne
    exact absurd rfl hne
  · rw [hhear, stopBTHost_of_sync ((sameStreams_heard σ a).sIsHFPSyncEnabled.trans hsync)]
    unfold HFPProfile.stop
    rw [if_neg (by omega), if_neg (by omega)]
    exact hcount
  · rw [hhear]
    exact hcount

/-- The profile, and the streams, after a start. -/
theorem start_total {a : ScoStartAnswers} (hs : σ.step (.start d a) = some τ) :
    τ.sHFPProfile = (σ.hear d a).2.sHFPProfile ∧
      τ.statics.sIsHFPSyncEnabled = σ.statics.sIsHFPSyncEnabled ∧
      τ.total = σ.total + if (σ.start d a).1 = 0 then 1 else 0 := by
  have hkeep := sameHost_start σ d a
  have hstreams := sameStreams_hear σ d a
  have hsync : (σ.start d a).2.statics.sIsHFPSyncEnabled = σ.statics.sIsHFPSyncEnabled := by
    rw [hkeep.statics, hstreams.sIsHFPSyncEnabled]
  have hstarted : (σ.start d a).2.started = σ.started := hkeep.started.trans hstreams.started
  simp only [step] at hs
  split_ifs at hs with hguard hok <;> cases hs
  · refine ⟨hkeep.sHFPProfile, hsync, ?_⟩
    rw [if_pos hok]
    exact total_update_add
  · refine ⟨hkeep.sHFPProfile, hsync, ?_⟩
    rw [if_neg hok]
    unfold total
    rw [hstarted]
    rfl

/-- The profile, and the streams, after a stop. -/
theorem stop_total {a : StopAbrAnswers} (hs : σ.step (.stop d a) = some τ) :
    τ.sHFPProfile = σ.stopBTHost.2.sHFPProfile ∧
      τ.statics.sIsHFPSyncEnabled = σ.statics.sIsHFPSyncEnabled ∧ 0 < σ.started d ∧
      τ.total + 1 = σ.total := by
  have hkeep := sameHost_stop σ d a
  have hsync : (σ.stop d a).statics.sIsHFPSyncEnabled = σ.statics.sIsHFPSyncEnabled := by
    rw [hkeep.statics, (sameStreams_stopBTHost σ).sIsHFPSyncEnabled]
  simp only [step] at hs
  split_ifs at hs with hd
  cases hs
  exact ⟨hkeep.sHFPProfile, hsync, hd, total_update_sub hd⟩

/-- The law after a start. -/
theorem hostLaw_start_iff (h : σ.sHFPProfile.Sound) (hl : σ.HostLaw) (a : ScoStartAnswers)
    (hs : σ.step (.start d a) = some τ) : τ.HostLaw ↔ (σ.statics.sIsHFPSyncEnabled = true →
      σ.sHFPProfile.mStreamCounter + 1 < 2 ^ 32 ∧
        ((σ.hear d a).1 = 0 → (σ.start d a).1 = 0)) := by
  obtain ⟨hprofile, hsync', htotal⟩ := start_total hs
  have hcounter := hl.counter
  by_cases hsync : σ.statics.sIsHFPSyncEnabled = true
  · rw [if_pos hsync] at hcounter
    by_cases hroom : σ.sHFPProfile.mStreamCounter + 1 < 2 ^ 32
    · obtain ⟨hactive, hn⟩ := hear_counter (d := d) h hl.active' hsync hroom a
      constructor
      · intro ht _
        refine ⟨hroom, fun hhear => ?_⟩
        by_contra hne
        have hcount := ht.counter
        rw [hprofile, hn, if_pos (hsync'.trans hsync), htotal, if_pos hhear, if_neg hne] at hcount
        omega
      · intro hok
        refine hostLaw_of_active (hprofile ▸ hactive) ?_
        rw [hprofile, hn, if_pos (hsync'.trans hsync), htotal, hcounter]
        congr 1
        refine if_congr ⟨(hok hsync).2, hear_of_start a⟩ rfl rfl
    · refine iff_of_false (fun ht => ?_) (fun hok => hroom (hok hsync).1)
      have hcount := ht.counter
      rw [hprofile, hear_counter_of_full h hsync hroom a, if_pos (hsync'.trans hsync),
        htotal] at hcount
      omega
  · refine iff_of_true ?_ (fun hyes => absurd hyes hsync)
    have hoff : σ.statics.sIsHFPSyncEnabled = false := Bool.eq_false_of_not_eq_true hsync
    have hsame := hprofile.trans (hear_of_alone hoff a)
    refine hostLaw_of_active (hsame ▸ hl.active') ?_
    rw [hsame, hsync', hcounter, hoff]
    rfl

/-- A stop takes its stream from the counter. -/
theorem HostLaw.stop (hl : σ.HostLaw) {a : StopAbrAnswers} (hs : σ.step (.stop d a) = some τ) :
    τ.HostLaw := by
  obtain ⟨hprofile, hsync', hd, htotal⟩ := stop_total hs
  have hcounter := hl.counter
  by_cases hsync : σ.statics.sIsHFPSyncEnabled = true
  · rw [if_pos hsync, ← htotal] at hcounter
    have hpos : 0 < σ.total := Nat.lt_of_lt_of_le hd (started_le_total σ d)
    obtain ⟨-, hn, hactive⟩ :=
      HFPProfile.stop_counter (hl.active.mpr ⟨hsync, hpos⟩) hcounter
    have hprofile := hprofile.trans (stopBTHost_of_sync hsync)
    refine hostLaw_of_active (hprofile ▸ hactive) ?_
    rw [hprofile, hn, hsync', if_pos hsync]
  · have hoff : σ.statics.sIsHFPSyncEnabled = false := Bool.eq_false_of_not_eq_true hsync
    have hsame : τ.sHFPProfile = σ.sHFPProfile := by
      rw [hprofile]
      unfold stopBTHost
      rw [hoff]
      rfl
    rw [if_neg hsync] at hcounter
    refine hostLaw_of_active (hsame ▸ hl.active') ?_
    rw [hsame, hsync', if_neg hsync]
    exact hcounter

/-! ### Every run -/

theorem hostLaw_parameter_iff (h : σ.sHFPProfile.Sound) (hl : σ.HostLaw) (param : ScoParam) :
    (σ.setDeviceParameter param).HostLaw ↔ σ.hostHeld (.setDeviceParameter param) := by
  -- the profile is opened and closed while it counts nothing
  have hquiet : ∀ p : HFPProfile, p.mState ≠ .STARTED → σ.sHFPProfile.mState ≠ .STARTED →
      p.mStreamCounter = 0 → ({ σ with sHFPProfile := p } : Sco).HostLaw := by
    intro p hp hs hzero
    have hcounter : σ.sHFPProfile.mStreamCounter = 0 := by
      by_contra hne
      exact hs (h.counter hne)
    refine ⟨?_, iff_of_false hp fun hyes => hs (hl.active.mpr hyes)⟩
    show p.mStreamCounter = if σ.statics.sIsHFPSyncEnabled then σ.total else 0
    rw [hzero, ← hl.counter, hcounter]
  cases param with
  | DEVICE_CONNECTION b =>
    refine iff_of_true ?_ trivial
    cases b
    · show σ.closeBTHost.HostLaw
      unfold closeBTHost
      split_ifs
      · exact hl
      · unfold HFPProfile.close
        split
        · exact hl
        · rename_i hs
          exact hquiet _ nofun (by rw [hs]; nofun) rfl
        · rename_i hs
          exact hquiet _ nofun (by rw [hs]; nofun) rfl
        · exact hl
    · show σ.openBTHost.HostLaw
      unfold openBTHost
      split_ifs
      · exact hl
      · unfold HFPProfile.open
        split
        · exact hl
        · rename_i hs
          exact hquiet _ nofun (by rw [hs]; nofun) rfl
        · exact hl
  | DISABLE_HFP_SYNC =>
    constructor
    · intro ht hsync
      have hcount : σ.sHFPProfile.mStreamCounter = 0 := ht.counter
      rw [hl.counter, if_pos hsync] at hcount
      exact hcount
    · intro hok
      refine hostLaw_of_active hl.active' ?_
      show σ.sHFPProfile.mStreamCounter = 0
      rw [hl.counter]
      split_ifs with hsync
      · exact hok hsync
      · rfl
  | _ => exact iff_of_true ⟨hl.counter, hl.active⟩ trivial

theorem hostLaw_init (mFBPcm : Dir → Bool) : (init mFBPcm).HostLaw :=
  ⟨rfl, iff_of_false nofun fun h => absurd h.2 (Nat.lt_irrefl 0)⟩

/-- **The streams of the profile.** The profile counts the streams that have a SCO device started,
and the host is started while there is one, in every state of a run, if and only if no start fails
after it has heard the codec and the profile is not left alone while a stream is started. -/
theorem hostLaw_iff_hostHeld (mFBPcm : Dir → Bool) (calls : List ScoCall) :
    (∀ js σ, js <+: calls → run step (init mFBPcm) js = some σ → σ.HostLaw) ↔
      Meets step hostHeld (init mFBPcm) calls := by
  have hsound : ∀ (σ : Sco) c τ, σ.sHFPProfile.Sound → σ.step c = some τ →
      τ.sHFPProfile.Sound := fun _ _ _ => sound_step
  refine law_prefixes_iff_meets hsound ?_ HFPProfile.sound_new (hostLaw_init mFBPcm)
  intro σ c _ h hl
  have hthe : ∀ {τ : Sco}, σ.step c = some τ →
      ((∀ t, σ.step c = some t → t.HostLaw) ↔ τ.HostLaw) := by
    intro τ hτ
    refine ⟨fun hall => hall τ hτ, fun hlaw t ht => ?_⟩
    obtain rfl := Option.some.inj (hτ.symm.trans ht)
    exact hlaw
  cases c with
  | «open» d a =>
    refine iff_of_true (fun t ht => ?_) trivial
    cases ht
    split_ifs <;> exact ⟨hl.counter, hl.active⟩
  | close d =>
    refine iff_of_true (fun t ht => ?_) trivial
    simp only [step] at ht
    split_ifs at ht
    cases ht
    exact ⟨hl.counter, hl.active⟩
  | start d a =>
    by_cases hmay : σ.MayStart d a
    · obtain ⟨τ, hτ⟩ : ∃ τ, σ.step (.start d a) = some τ := by
        simp only [step, if_pos hmay]
        exact ⟨_, rfl⟩
      rw [hthe hτ, hostLaw_start_iff h hl a hτ]
      exact ⟨fun hok _ => hok, fun hok => hok hmay⟩
    · refine iff_of_true (fun t ht => ?_) fun hyes => absurd hyes hmay
      simp only [step, if_neg hmay] at ht
      cases ht
  | stop d a => exact iff_of_true (fun t ht => hl.stop ht) trivial
  | setDeviceParameter param =>
    rw [hthe rfl]
    exact hostLaw_parameter_iff h hl param

end Sco

end AudioReachPal.Bluetooth
