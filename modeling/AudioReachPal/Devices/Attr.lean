import AudioReachPal.Lib.Champion

/-!
# The stream attributes of a device

`Device` keeps, for the streams attached to it, the device attributes they ask for, in a multimap
from the priority of the stream; the first entry is the one the device is configured with. An
incoming entry goes in front of the first entry of lower priority, or of the same priority that
`compareStreamDevAttr` lets it overtake.

The comparison is four tests, one after the other, and wins when one of them does. It does not
stop where the current entry wins a test, so two entries can each overtake the other, and the
first entry depends on the order of the insertions (`head_iff_wins`).
-/

namespace AudioReachPal.Devices

open AudioReachPal.Lib

structure pal_media_config where
  sample_rate : ℕ
  bit_width : ℕ
  /-- `ch_info.channels` -/
  channels : ℕ
  aud_fmt_id : ℕ
  deriving DecidableEq

structure pal_device where
  id : ℕ
  config : pal_media_config
  custom_key : String
  deriving DecidableEq

structure pal_device_info where
  priority : ℕ
  channels_overwrite : Bool
  samplerate_overwrite : Bool
  sndDevName_overwrite : Bool
  bit_width_overwrite : Bool
  deriving DecidableEq

structure Stream where
  type : ℕ
  isComboHeadsetActive : Bool
  deriving DecidableEq

/-- What the device asks of the resource manager. -/
structure ResourceManager where
  getDeviceInfo : (deviceId type : ℕ) → (key : String) → pal_device_info
  is_multiple_sample_rate_combo_supported : Bool
  /-- `bitWidthToFormat.at`, which throws on a bit width it does not have. -/
  getAudioFmt : ℕ → Option ℕ

def PAL_AUDIO_FMT_PCM_S16_LE : ℕ := 0x1
def PAL_AUDIO_FMT_PCM_S8 : ℕ := 0x14
def PAL_AUDIO_FMT_PCM_S24_3LE : ℕ := 0x15
def PAL_AUDIO_FMT_PCM_S24_LE : ℕ := 0x16
def PAL_AUDIO_FMT_PCM_S32_LE : ℕ := 0x17

def isPalPCMFormat (fmt_id : ℕ) : Bool :=
  fmt_id ∈ [PAL_AUDIO_FMT_PCM_S32_LE, PAL_AUDIO_FMT_PCM_S8, PAL_AUDIO_FMT_PCM_S24_3LE,
    PAL_AUDIO_FMT_PCM_S24_LE, PAL_AUDIO_FMT_PCM_S16_LE]

/-! ### The comparison -/

section Compare

variable (inDevAttr : pal_device) (inDevInfo : pal_device_info) (curDevAttr : pal_device)
  (curDevInfo : pal_device_info)

/-- The check of the sound device name. -/
def sndDevNameWins : Bool := inDevInfo.sndDevName_overwrite && !curDevInfo.sndDevName_overwrite

/-- The check of the channels. -/
def channelsWin : Bool :=
  if inDevInfo.channels_overwrite && !curDevInfo.channels_overwrite then true
  else if (inDevInfo.channels_overwrite && curDevInfo.channels_overwrite) ||
      (!inDevInfo.channels_overwrite && !curDevInfo.channels_overwrite) then
    inDevAttr.config.channels > curDevAttr.config.channels
  else false

/-- The check of the sample rate. -/
def sampleRateWins : Bool :=
  if inDevInfo.samplerate_overwrite && !curDevInfo.samplerate_overwrite then true
  else if (inDevInfo.samplerate_overwrite && curDevInfo.samplerate_overwrite) &&
      decide (inDevAttr.config.sample_rate > curDevAttr.config.sample_rate) then true
  else if !inDevInfo.samplerate_overwrite && !curDevInfo.samplerate_overwrite then
    if inDevAttr.config.sample_rate % 44100 = 0 ∧ curDevAttr.config.sample_rate % 44100 ≠ 0 then
      true
    else if inDevAttr.config.sample_rate > curDevAttr.config.sample_rate then
      if curDevAttr.config.sample_rate % 44100 = 0 ∧ inDevAttr.config.sample_rate % 48000 = 0 then
        false
      else true
    else false
  else false

/-- The check of the bit width. -/
def bitWidthWins : Bool :=
  if inDevInfo.bit_width_overwrite && !curDevInfo.bit_width_overwrite then
    isPalPCMFormat inDevAttr.config.aud_fmt_id
  else if (inDevInfo.bit_width_overwrite && curDevInfo.bit_width_overwrite) ||
      (!inDevInfo.bit_width_overwrite && !curDevInfo.bit_width_overwrite) then
    isPalPCMFormat inDevAttr.config.aud_fmt_id &&
      decide (inDevAttr.config.bit_width > curDevAttr.config.bit_width)
  else false

/-- `Device::compareStreamDevAttr`: each check inserts, or falls through to the next. -/
def compareStreamDevAttr : Bool :=
  if sndDevNameWins inDevInfo curDevInfo then true
  else if channelsWin inDevAttr inDevInfo curDevAttr curDevInfo then true
  else if sampleRateWins inDevAttr inDevInfo curDevAttr curDevInfo then true
  else bitWidthWins inDevAttr inDevInfo curDevAttr curDevInfo

end Compare

/-! ### The multimap -/

/-- A value of the multimap: a stream and the device attributes it asks for. -/
structure StreamDevAttr where
  stream : Stream
  attr : pal_device
  deriving DecidableEq

structure Device where
  mStreamDevAttr : List (ℕ × StreamDevAttr)
  mSampleRate : ℕ
  mBitWidth : ℕ

namespace StreamDevAttr

variable (rm : ResourceManager) (e c : StreamDevAttr)

/-- What `rm->getDeviceInfo` answers for an entry. -/
def info : pal_device_info := rm.getDeviceInfo e.attr.id e.stream.type e.attr.custom_key

/-- The test of `insertStreamDeviceAttr` for an entry `c` of the same priority. -/
def overtakes : Bool :=
  compareStreamDevAttr e.attr (e.info rm) c.attr (c.info rm) ||
    (e.stream.isComboHeadsetActive && !rm.is_multiple_sample_rate_combo_supported)

end StreamDevAttr

namespace Device

variable (rm : ResourceManager) (d : Device)

/-- The loop of `insertStreamDeviceAttr` over the entries that are left. The hint puts the new
entry right in front of the one the loop stopped at. -/
def insertFrom (e : StreamDevAttr) : List (ℕ × StreamDevAttr) → List (ℕ × StreamDevAttr)
  | [] => [((e.info rm).priority, e)]
  | (prio, c) :: rest =>
    if (e.info rm).priority < prio then ((e.info rm).priority, e) :: (prio, c) :: rest
    else if (e.info rm).priority = prio ∧ e.overtakes rm c then
      ((e.info rm).priority, e) :: (prio, c) :: rest
    else (prio, c) :: insertFrom e rest

/-- `Device::insertStreamDeviceAttr`. -/
def insertStreamDeviceAttr (e : StreamDevAttr) : Device :=
  { d with mStreamDevAttr := insertFrom rm e d.mStreamDevAttr }

/-- The calls of `insertStreamDeviceAttr` for the entries of `l`, in order. -/
def insertAll (l : List StreamDevAttr) : Device := l.foldl (insertStreamDeviceAttr rm) d

inductive Error where
  | EINVAL
  | out_of_range
  deriving DecidableEq

/-- `Device::getTopPriorityDeviceAttr`: the priority of the first entry and its attributes, with
the sample rate and the bit width the device was set to. -/
def getTopPriorityDeviceAttr : Except Error (ℕ × pal_device) :=
  match d.mStreamDevAttr.head? with
  | none => .error .EINVAL
  | some (prio, e) =>
    let config := { e.attr.config with
      sample_rate := if d.mSampleRate ≠ 0 then d.mSampleRate else e.attr.config.sample_rate }
    if d.mBitWidth ≠ 0 then
      match rm.getAudioFmt d.mBitWidth with
      | none => .error .out_of_range
      | some fmt =>
        .ok (prio, { e.attr with
          config := { config with bit_width := d.mBitWidth, aud_fmt_id := fmt } })
    else .ok (prio, { e.attr with config := config })

end Device

/-! ### Which entry comes first -/

section Head

variable (rm : ResourceManager)

/-- The entry `e` takes the place of the first entry `c`. -/
def Displaces (e c : StreamDevAttr) : Prop :=
  (e.info rm).priority < (c.info rm).priority ∨
    ((e.info rm).priority = (c.info rm).priority ∧ e.overtakes rm c = true)

instance : DecidableRel (Displaces rm) := fun _ _ => inferInstanceAs (Decidable (_ ∨ _))

/-- Every entry is under the priority of its stream. -/
def Keyed (l : List (ℕ × StreamDevAttr)) : Prop := ∀ p ∈ l, p.1 = (p.2.info rm).priority

variable {rm}

theorem Keyed.insertFrom {l : List (ℕ × StreamDevAttr)} (h : Keyed rm l) (e : StreamDevAttr) :
    Keyed rm (Device.insertFrom rm e l) := by
  induction l with
  | nil => simp [Keyed, Device.insertFrom]
  | cons p rest ih =>
    obtain ⟨prio, c⟩ := p
    have hp := h (prio, c) (by simp)
    have hrest : Keyed rm (Device.insertFrom rm e rest) :=
      ih fun q hq => h q (List.mem_cons_of_mem _ hq)
    unfold Device.insertFrom
    split_ifs
    · intro q hq
      rcases List.mem_cons.mp hq with rfl | hq
      · rfl
      · exact h q hq
    · intro q hq
      rcases List.mem_cons.mp hq with rfl | hq
      · rfl
      · exact h q hq
    · intro q hq
      rcases List.mem_cons.mp hq with rfl | hq
      · exact hp
      · exact hrest q hq

/-- An insertion puts the new entry first when it displaces the one that was, and leaves the first
entry otherwise. -/
theorem head_insertFrom {p : ℕ × StreamDevAttr} {l : List (ℕ × StreamDevAttr)}
    (hp : p.1 = (p.2.info rm).priority) (e : StreamDevAttr) :
    (Device.insertFrom rm e (p :: l)).head?.map Prod.snd =
      some (challenge (Displaces rm) p.2 e) := by
  obtain ⟨prio, c⟩ := p
  simp only at hp
  subst hp
  unfold Device.insertFrom
  by_cases hlt : (e.info rm).priority < (c.info rm).priority
  · have hdis : Displaces rm e c := Or.inl hlt
    rw [if_pos hlt, challenge_of_beats hdis]
    rfl
  · rw [if_neg hlt]
    by_cases heq : (e.info rm).priority = (c.info rm).priority ∧ e.overtakes rm c = true
    · have hdis : Displaces rm e c := Or.inr heq
      rw [if_pos heq, challenge_of_beats hdis]
      rfl
    · have hdis : ¬Displaces rm e c := not_or.mpr ⟨hlt, heq⟩
      rw [if_neg heq, challenge_of_not_beats hdis]
      rfl

/-- The first entry after a list of insertions is the last leader of the list. -/
theorem head_insertAll {d : Device} (hd : d.mStreamDevAttr = []) (l : List StreamDevAttr) :
    (d.insertAll rm l).mStreamDevAttr.head?.map Prod.snd = champion (Displaces rm) l := by
  have hrun : ∀ (l : List StreamDevAttr) (d : Device) (p : ℕ × StreamDevAttr)
      (rest : List (ℕ × StreamDevAttr)), d.mStreamDevAttr = p :: rest → Keyed rm (p :: rest) →
      (d.insertAll rm l).mStreamDevAttr.head?.map Prod.snd =
        some (l.foldl (challenge (Displaces rm)) p.2) := by
    intro l
    induction l with
    | nil =>
      intro d p rest hl _
      simp [Device.insertAll, hl]
    | cons e l ih =>
      intro d p rest hl hkey
      have hhead := head_insertFrom (l := rest) (hkey p (by simp)) e
      have hkey' := hkey.insertFrom e
      cases hnew : Device.insertFrom rm e (p :: rest) with
      | nil =>
        rw [hnew] at hhead
        simp at hhead
      | cons q rest' =>
        rw [hnew] at hhead hkey'
        have hq : q.2 = challenge (Displaces rm) p.2 e := by simpa using hhead
        have hnext := ih (d.insertStreamDeviceAttr rm e) q rest'
          (by rw [← hnew, ← hl]; rfl) hkey'
        rw [List.foldl_cons, ← hq, ← hnext]
        rfl
  cases l with
  | nil => simp [Device.insertAll, hd, champion]
  | cons e l =>
    have hfirst : (d.insertStreamDeviceAttr rm e).mStreamDevAttr = [((e.info rm).priority, e)] := by
      simp [Device.insertStreamDeviceAttr, hd, Device.insertFrom]
    exact hrun l _ _ [] hfirst (by simp [Keyed])

end Head

/-! ### The documented order -/

section Order

variable (rm : ResourceManager) (e c : StreamDevAttr)

/-- The entry wins one of the four checks against `c`. -/
def WinsCheck : Prop :=
  sndDevNameWins (e.info rm) (c.info rm) = true ∨
    channelsWin e.attr (e.info rm) c.attr (c.info rm) = true ∨
    sampleRateWins e.attr (e.info rm) c.attr (c.info rm) = true ∨
    bitWidthWins e.attr (e.info rm) c.attr (c.info rm) = true

/-- The documented order of two entries of the same priority: the first check that one of them
wins decides. -/
def RanksBefore : Prop :=
  sndDevNameWins (e.info rm) (c.info rm) = true ∨
    sndDevNameWins (c.info rm) (e.info rm) = false ∧
      (channelsWin e.attr (e.info rm) c.attr (c.info rm) = true ∨
        channelsWin c.attr (c.info rm) e.attr (e.info rm) = false ∧
          (sampleRateWins e.attr (e.info rm) c.attr (c.info rm) = true ∨
            sampleRateWins c.attr (c.info rm) e.attr (e.info rm) = false ∧
              bitWidthWins e.attr (e.info rm) c.attr (c.info rm) = true))

/-- Smaller priority value first, and the documented order among equals. -/
def ComesBefore : Prop :=
  (e.info rm).priority < (c.info rm).priority ∨
    ((e.info rm).priority = (c.info rm).priority ∧ RanksBefore rm e c)

variable {rm e c}

theorem compareStreamDevAttr_eq_true :
    compareStreamDevAttr e.attr (e.info rm) c.attr (c.info rm) = true ↔ WinsCheck rm e c := by
  unfold compareStreamDevAttr WinsCheck
  split_ifs with hsnd hch hsr
  · simp [hsnd]
  · simp [hch]
  · simp [hsr]
  · simp [hsnd, hch, hsr]

/-- Who wins a check and loses none comes first in the documented order. -/
theorem ranksBefore_of_winsCheck (hwins : WinsCheck rm e c) (hloses : ¬WinsCheck rm c e) :
    RanksBefore rm e c := by
  unfold WinsCheck at hwins hloses
  simp only [not_or, Bool.not_eq_true] at hloses
  obtain ⟨hsnd, hch, hsr, -⟩ := hloses
  rcases hwins with hw | hw | hw | hw
  · exact Or.inl hw
  · exact Or.inr ⟨hsnd, Or.inl hw⟩
  · exact Or.inr ⟨hsnd, Or.inr ⟨hch, Or.inl hw⟩⟩
  · exact Or.inr ⟨hsnd, Or.inr ⟨hch, Or.inr ⟨hsr, hw⟩⟩⟩

theorem overtakes_eq_true (hcombo : e.stream.isComboHeadsetActive = false) :
    e.overtakes rm c = true ↔ WinsCheck rm e c := by
  simp [StreamDevAttr.overtakes, hcombo, compareStreamDevAttr_eq_true]

variable (rm)

/-- One entry of `S` is first after every order of the insertions, and it is the one that the
documented order puts first. -/
def HeadFixed (S : List StreamDevAttr) : Prop :=
  ∃ m ∈ S, (∀ c ∈ S, c ≠ m → ComesBefore rm m c) ∧
    ∀ d : Device, d.mStreamDevAttr = [] → ∀ l, l.Perm S →
      (d.insertAll rm l).mStreamDevAttr.head?.map Prod.snd = some m

/-- One entry of `S` has, against each other one, a smaller priority value, or the same one and a
check it wins and none it loses. -/
def Dominated (S : List StreamDevAttr) : Prop :=
  ∃ m ∈ S, ∀ c ∈ S, c ≠ m → (m.info rm).priority < (c.info rm).priority ∨
    ((m.info rm).priority = (c.info rm).priority ∧ WinsCheck rm m c ∧ ¬WinsCheck rm c m)

variable {rm}

/-- What it takes to displace and not to be displaced. -/
theorem displaces_and_not_iff (he : e.stream.isComboHeadsetActive = false)
    (hc : c.stream.isComboHeadsetActive = false) :
    (Displaces rm e c ∧ ¬Displaces rm c e) ↔ (e.info rm).priority < (c.info rm).priority ∨
      ((e.info rm).priority = (c.info rm).priority ∧ WinsCheck rm e c ∧ ¬WinsCheck rm c e) := by
  unfold Displaces
  rw [overtakes_eq_true he, overtakes_eq_true hc]
  rcases Nat.lt_trichotomy (e.info rm).priority (c.info rm).priority with hlt | heq | hgt
  · have hne := Nat.ne_of_gt hlt
    have hnlt := Nat.lt_asymm hlt
    simp [hlt, hne, hnlt]
  · simp [heq]
  · have hne := Nat.ne_of_gt hgt
    have hnlt := Nat.lt_asymm hgt
    simp [hgt, hne, hnlt]

/-- **The order of attachment.** For a set of entries without an active combo headset, the first
entry is the documented one whatever the order of the insertions, if and only if one entry
dominates the others. -/
theorem head_iff_wins {S : List StreamDevAttr} (hS : S.Nodup)
    (hcombo : ∀ e ∈ S, e.stream.isComboHeadsetActive = false) :
    HeadFixed rm S ↔ Dominated rm S := by
  constructor
  · rintro ⟨m, hm, -, hall⟩
    refine ⟨m, hm, fun c hc hne => ?_⟩
    have hchamp : ∀ l, l.Perm S → champion (Displaces rm) l = some m := by
      intro l hl
      rw [← head_insertAll (d := ⟨[], 0, 0⟩) rfl l]
      exact hall _ rfl l hl
    exact (displaces_and_not_iff (hcombo m hm) (hcombo c hc)).mp
      ((champion_perm_iff hS hm).mp hchamp c hc hne)
  · rintro ⟨m, hm, hdom⟩
    refine ⟨m, hm, fun c hc hne => ?_, fun d hd l hl => ?_⟩
    · rcases hdom c hc hne with hlt | ⟨heq, hwins, hloses⟩
      · exact Or.inl hlt
      · exact Or.inr ⟨heq, ranksBefore_of_winsCheck hwins hloses⟩
    · rw [head_insertAll hd l]
      refine (champion_perm_iff hS hm).mpr (fun c hc hne => ?_) l hl
      exact (displaces_and_not_iff (hcombo m hm) (hcombo c hc)).mpr (hdom c hc hne)

/-- A resource manager that overwrites nothing and gives every stream the same priority. -/
def plainRm : ResourceManager where
  getDeviceInfo := fun _ _ _ => ⟨1, false, false, false, false⟩
  is_multiple_sample_rate_combo_supported := true
  getAudioFmt := fun _ => none

/-- A stream that asks for 16 bit PCM. -/
def pcm16 (type channels sample_rate : ℕ) : StreamDevAttr :=
  ⟨⟨type, false⟩, ⟨2, ⟨sample_rate, 16, channels, PAL_AUDIO_FMT_PCM_S16_LE⟩, ""⟩⟩

theorem head_iff_wins_stereo : HeadFixed plainRm [pcm16 1 2 48000, pcm16 2 1 48000] ↔
    Dominated plainRm [pcm16 1 2 48000, pcm16 2 1 48000] :=
  head_iff_wins (by decide) (by decide)

/-- Two channels at 48 kHz and one channel at 96 kHz overtake each other: the last one inserted
comes first. -/
theorem not_headFixed_channels_rate :
    ¬HeadFixed plainRm [pcm16 1 2 48000, pcm16 2 1 96000] := by
  rintro ⟨m, -, -, hall⟩
  have hstereo := hall ⟨[], 0, 0⟩ rfl [pcm16 2 1 96000, pcm16 1 2 48000] (List.Perm.swap _ _ _)
  have hmono := hall ⟨[], 0, 0⟩ rfl [pcm16 1 2 48000, pcm16 2 1 96000] (List.Perm.refl _)
  rw [← hmono] at hstereo
  exact absurd hstereo (by decide)

end Order

end AudioReachPal.Devices
