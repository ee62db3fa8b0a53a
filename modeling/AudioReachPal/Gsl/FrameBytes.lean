import AudioReachPal.Gsl.Mmap
import AudioReachPal.Types

/-!
# Frames and bytes of any format

`SoundTriggerEngine` takes the bit width and the channels of a stream's media config as they are,
so a frame need not be a whole number of bytes. The conversions for every such pair, with the
read of the DSP's position that uses them.
-/

namespace AudioReachPal.Gsl

open AudioReachPal.Lib

/-- `bit_width_` and `channels_` of a `SoundTriggerEngine`. -/
structure SampleFormat where
  bit_width_ : ℕ
  channels_ : ℕ

namespace SampleFormat

variable (fmt : SampleFormat)

/-- `bit_width_ * channels_`, which both conversions form as a 32-bit word. -/
def bits_per_frame : ℕ := word32 (fmt.bit_width_ * fmt.channels_)

def bytes_per_frame : ℕ := fmt.bits_per_frame / BITS_PER_BYTE

/-- `SoundTriggerEngine::FrameToBytes`; `none` is the division by zero of `UINT32_MAX / frames`. -/
def frameToBytes (frames : ℕ) : Option ℕ :=
  if frames = 0 then none
  else if fmt.bytes_per_frame > UINT32_MAX / frames then some UINT32_MAX
  else some (word32 (frames * fmt.bytes_per_frame))

/-- `SoundTriggerEngine::BytesToFrames`. -/
def bytesToFrames (bytes : ℕ) : ℕ :=
  word32 (bytes * BITS_PER_BYTE) / fmt.bits_per_frame

/-- `SoundTriggerEngineGsl::BytesToRead` with the position that `GetMmapPosition` reports, if it
does: the status, and `bytes_to_read` as it leaves it. `none` is a division by zero. -/
def bytesToRead (position_frames : Option ℕ) (mmap_write_position_ bytes_to_read : ℕ) :
    Option (ℤ × ℕ) :=
  match position_frames with
  | none => some (-ENOMEM, bytes_to_read)
  | some position_frames =>
    if position_frames ≥ mmap_write_position_ then
      match fmt.frameToBytes (position_frames - mmap_write_position_) with
      | none => none
      | some bytes_to_read =>
        if bytes_to_read = UINT32_MAX then some (-EINVAL, bytes_to_read)
        else some (0, bytes_to_read)
    else some (-EINVAL, bytes_to_read)

end SampleFormat

/-- The sample format of a supported `Format`. -/
def Format.toSampleFormat (fmt : Format) : SampleFormat := ⟨fmt.bit_width_, fmt.channels_⟩

section Facts

variable {fmt : SampleFormat}

/-! ### The overflow guard -/

theorem guard_iff {b frames : ℕ} (h : 0 < frames) :
    b > UINT32_MAX / frames ↔ 2 ^ 32 ≤ frames * b := by
  rw [gt_iff_lt, Nat.div_lt_iff_lt_mul h, Nat.mul_comm]
  unfold UINT32_MAX
  omega

/-- On any frames but none `frameToBytes` is the product, or `UINT32_MAX` where it does not fit. -/
theorem SampleFormat.frameToBytes_eq {frames : ℕ} (h : frames ≠ 0) :
    fmt.frameToBytes frames = some (if frames * fmt.bytes_per_frame < 2 ^ 32
      then frames * fmt.bytes_per_frame else UINT32_MAX) := by
  have hguard := guard_iff (b := fmt.bytes_per_frame) (Nat.pos_of_ne_zero h)
  unfold SampleFormat.frameToBytes
  rw [if_neg h]
  by_cases hfit : frames * fmt.bytes_per_frame < 2 ^ 32
  · rw [if_neg (mt hguard.mp (by omega)), if_pos hfit, word32_of_lt hfit]
  · rw [if_pos (hguard.mpr (by omega)), if_neg hfit]

theorem SampleFormat.frameToBytes_zero : fmt.frameToBytes 0 = none := rfl

/-! ### The way back -/

/-- A dividend of at most `q` times the divisor, kept in a word, has the quotient `q` exactly
where it is `q` times the divisor and fits. -/
theorem wrapped_div_eq_iff {a d q n : ℕ} (hd : 0 < d) (hn : 0 < n) (hle : a ≤ q * d) :
    a % n / d = q ↔ a = q * d ∧ a < n := by
  constructor
  · intro hq
    have hquot : q * d ≤ a % n := by
      rw [← hq]
      exact Nat.div_mul_le_self _ _
    have hmod := Nat.mod_le a n
    have hlt := Nat.mod_lt a hn
    constructor
    · omega
    · omega
  · rintro ⟨rfl, hlt⟩
    rw [Nat.mod_eq_of_lt hlt]
    exact Nat.mul_div_cancel q hd

theorem SampleFormat.bits_eq (fmt : SampleFormat) :
    fmt.bits_per_frame = 8 * fmt.bytes_per_frame + fmt.bits_per_frame % 8 := by
  unfold SampleFormat.bytes_per_frame BITS_PER_BYTE
  omega

/-- The frames of a product are found again exactly where its bits fit in 32 bits too and a frame
is a whole number of bytes. -/
theorem SampleFormat.bytesToFrames_iff {frames : ℕ} (hb : 0 < fmt.bytes_per_frame)
    (h : frames ≠ 0) :
    fmt.bytesToFrames (frames * fmt.bytes_per_frame) = frames ↔
      frames * fmt.bytes_per_frame < 2 ^ 29 ∧ 8 ∣ fmt.bits_per_frame := by
  have hbits := fmt.bits_eq
  obtain ⟨r, hr⟩ : ∃ r, fmt.bits_per_frame % 8 = r := ⟨_, rfl⟩
  have hprod : frames * fmt.bits_per_frame = frames * fmt.bytes_per_frame * 8 + frames * r := by
    rw [hbits, hr]
    ring
  have hrest : frames * r = 0 ↔ r = 0 := by
    rw [Nat.mul_eq_zero]
    exact ⟨fun hz => hz.resolve_left h, Or.inr⟩
  unfold SampleFormat.bytesToFrames BITS_PER_BYTE word32
  rw [wrapped_div_eq_iff (by omega) (by omega) (by omega)]
  constructor
  · rintro ⟨heq, hlt⟩
    have hr0 : r = 0 := hrest.mp (by omega)
    exact ⟨by omega, by omega⟩
  · rintro ⟨hlt, hdvd⟩
    have hr0 : frames * r = 0 := hrest.mpr (by omega)
    exact ⟨by omega, by omega⟩

/-! ### The read at a position -/

/-- A position that has moved by fewer than `UINT32_MAX` bytes reports them. -/
theorem SampleFormat.bytesToRead_moved {P W out : ℕ} (hlt : W < P)
    (hfit : (P - W) * fmt.bytes_per_frame < UINT32_MAX) :
    fmt.bytesToRead (some P) W out = some (0, (P - W) * fmt.bytes_per_frame) := by
  have hmax : UINT32_MAX = 2 ^ 32 - 1 := rfl
  unfold SampleFormat.bytesToRead
  simp only
  rw [if_pos (by omega), SampleFormat.frameToBytes_eq (by omega), if_pos (by omega)]
  simp only
  rw [if_neg (by omega)]

/-- A position that has not moved divides by zero. -/
theorem SampleFormat.bytesToRead_unmoved (fmt : SampleFormat) (P out : ℕ) :
    fmt.bytesToRead (some P) P out = none := by
  unfold SampleFormat.bytesToRead
  simp only
  rw [if_pos (Nat.le_refl P), Nat.sub_self, SampleFormat.frameToBytes_zero]

/-! ### At a supported format -/

theorem Format.bits_per_frame_eq (fmt : Format) :
    fmt.toSampleFormat.bits_per_frame = fmt.bit_width_ * fmt.channels_ := word32_of_lt fmt.lt

theorem Format.bytes_per_frame_eq (fmt : Format) :
    fmt.toSampleFormat.bytes_per_frame = fmt.bytes_per_frame := by
  unfold SampleFormat.bytes_per_frame
  rw [fmt.bits_per_frame_eq]
  rfl

/-- The conversions that `startBuffering` uses are those of its sample format. -/
theorem Format.frameToBytes_toSampleFormat (fmt : Format) (frames : ℕ) :
    fmt.toSampleFormat.frameToBytes frames = fmt.frameToBytes frames := by
  unfold SampleFormat.frameToBytes Format.frameToBytes
  rw [fmt.bytes_per_frame_eq]

theorem Format.bytesToFrames_toSampleFormat (fmt : Format) {bytes : ℕ} (h : bytes < 2 ^ 32) :
    fmt.toSampleFormat.bytesToFrames bytes = fmt.bytesToFrames bytes := by
  unfold SampleFormat.bytesToFrames Format.bytesToFrames
  rw [fmt.bits_per_frame_eq, word32_of_lt h]

/-- A frame of a supported format is a whole number of bytes. -/
theorem Format.dvd_bits_per_frame (fmt : Format) : 8 ∣ fmt.toSampleFormat.bits_per_frame := by
  rw [fmt.bits_per_frame_eq, fmt.bits_eq]
  exact Nat.dvd_mul_right 8 _

/-! ### The conversion is exact and total -/

/-- What a count of frames is to give: its bytes, or `UINT32_MAX` where they do not fit, with no
division by zero; the same count back where they fit; and nothing to read where the count is that
of a position that has not moved. -/
structure SampleFormat.ConvertsExactly (fmt : SampleFormat) (frames : ℕ) : Prop where
  bytes : fmt.frameToBytes frames = some (if frames * fmt.bytes_per_frame < 2 ^ 32
    then frames * fmt.bytes_per_frame else UINT32_MAX)
  back : frames * fmt.bytes_per_frame < 2 ^ 32 →
    (fmt.frameToBytes frames).map fmt.bytesToFrames = some frames
  unmoved : frames = 0 → ∀ P out, fmt.bytesToRead (some (P + frames)) P out = some (0, 0)

/-- No frames divide by zero. -/
theorem SampleFormat.ConvertsExactly.ne_zero {frames : ℕ} (h : fmt.ConvertsExactly frames) :
    frames ≠ 0 := by
  rintro rfl
  have hbytes := h.bytes
  rw [SampleFormat.frameToBytes_zero] at hbytes
  cases hbytes

/-- Of some frames only the way back is left to check. -/
theorem SampleFormat.back_iff {frames : ℕ} (hb : 0 < fmt.bytes_per_frame) (h : frames ≠ 0) :
    fmt.ConvertsExactly frames ↔ (frames * fmt.bytes_per_frame < 2 ^ 32 →
      frames * fmt.bytes_per_frame < 2 ^ 29 ∧ 8 ∣ fmt.bits_per_frame) := by
  have hback : frames * fmt.bytes_per_frame < 2 ^ 32 →
      ((fmt.frameToBytes frames).map fmt.bytesToFrames = some frames ↔
        frames * fmt.bytes_per_frame < 2 ^ 29 ∧ 8 ∣ fmt.bits_per_frame) := by
    intro hfit
    rw [SampleFormat.frameToBytes_eq h, if_pos hfit, Option.map_some, Option.some_inj]
    exact SampleFormat.bytesToFrames_iff hb h
  constructor
  · intro hex hfit
    exact (hback hfit).mp (hex.back hfit)
  · intro hwhole
    exact
      { bytes := SampleFormat.frameToBytes_eq h
        back := fun hfit => (hback hfit).mpr (hwhole hfit)
        unmoved := fun hz => absurd hz h }

/-- **Frames convert exactly when there are some**, and when their bytes are fewer than `2 ^ 29`
and a frame a whole number of bytes, or the bytes do not fit in 32 bits at all. -/
theorem SampleFormat.convertsExactly_iff (fmt : SampleFormat) (hb : 0 < fmt.bytes_per_frame)
    (frames : ℕ) :
    fmt.ConvertsExactly frames ↔ frames ≠ 0 ∧ (frames * fmt.bytes_per_frame < 2 ^ 32 →
      frames * fmt.bytes_per_frame < 2 ^ 29 ∧ 8 ∣ fmt.bits_per_frame) := by
  constructor
  · intro hex
    exact ⟨hex.ne_zero, (SampleFormat.back_iff hb hex.ne_zero).mp hex⟩
  · rintro ⟨h, hwhole⟩
    exact (SampleFormat.back_iff hb h).mpr hwhole

/-- In a supported format only the count and its bytes decide. -/
theorem Format.supported_converts_iff (fmt : Format) (frames : ℕ) :
    fmt.toSampleFormat.ConvertsExactly frames ↔ frames ≠ 0 ∧
      (frames * fmt.bytes_per_frame < 2 ^ 32 → frames * fmt.bytes_per_frame < 2 ^ 29) := by
  have hpos : 0 < fmt.toSampleFormat.bytes_per_frame := by
    rw [fmt.bytes_per_frame_eq]
    exact fmt.bytes_per_frame_pos
  have hback : frames ≠ 0 → (fmt.toSampleFormat.ConvertsExactly frames ↔ _) :=
    SampleFormat.back_iff hpos
  rw [fmt.bytes_per_frame_eq, and_iff_left fmt.dvd_bits_per_frame] at hback
  constructor
  · intro hex
    exact ⟨hex.ne_zero, (hback hex.ne_zero).mp hex⟩
  · rintro ⟨h, hwhole⟩
    exact (hback h).mpr hwhole

/-- Ten frames of 16 bits in one channel. -/
theorem convertsExactly_ten : 0 < (SampleFormat.mk 16 1).bytes_per_frame ∧
    (SampleFormat.mk 16 1).ConvertsExactly 10 :=
  ⟨by decide, ((SampleFormat.mk 16 1).convertsExactly_iff (by decide) 10).mpr
    ⟨by decide, fun _ => ⟨by decide, by decide⟩⟩⟩

/-- The position of a stream of 16 bits in one channel has not moved, and the read of it divides
by zero. -/
theorem not_convertsExactly_unmoved : ¬ (SampleFormat.mk 16 1).ConvertsExactly 0 ∧
    0 < (SampleFormat.mk 16 1).bytes_per_frame ∧
    (SampleFormat.mk 16 1).bytesToRead (some 1000) 1000 0 = none ∧
    (SampleFormat.mk 16 1).frameToBytes (2 ^ 28) = some (2 ^ 29) ∧
    (SampleFormat.mk 16 1).bytesToFrames (2 ^ 29) = 0 := by
  refine ⟨fun hex => ?_, by decide, by decide, by decide, by decide⟩
  have := hex.bytes
  cases this

end Facts

end AudioReachPal.Gsl
