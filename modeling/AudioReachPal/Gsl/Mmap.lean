import AudioReachPal.Lib.Circular
import AudioReachPal.Lib.MachineInt
import Mathlib.Tactic.Ring

/-!
# The mmap branch of `startBuffering`

The DSP writes a byte stream circularly into the mmap buffer and reports a frame position; the
loop of `SoundTriggerEngineGsl::StartBuffering` turns each position it is given into a number of
bytes to read, and copies them into the ring buffer. The first `bytes_to_drop` bytes are not to be
copied.

A run of the loop is the list of positions it is given, and its result the calls of
`buffer_->write` (`Copy`): a source range of the mmap buffer, at the time of a position.
-/

namespace AudioReachPal.Gsl

open AudioReachPal.Lib

def UINT32_MAX : ℕ := 2 ^ 32 - 1
def BITS_PER_BYTE : ℕ := 8

/-- The sample format of an engine. The bit width is one of those that are supported. -/
structure Format where
  bit_width_ : ℕ
  channels_ : ℕ
  supported : bit_width_ = 16 ∨ bit_width_ = 24 ∨ bit_width_ = 32
  channels_pos : 0 < channels_
  lt : bit_width_ * channels_ < 2 ^ 32

/-- A call of `buffer_->write`: when the DSP had written `total` bytes, with `size` bytes from
`offset` of the mmap buffer on. -/
structure Copy where
  total : ℕ
  offset : ℕ
  size : ℕ

/-- The state of the loop. -/
structure Lab where
  mmap_write_position_ : ℕ
  read_offset : ℕ
  bytes_to_drop : ℕ

namespace Format

variable (fmt : Format)

def bytes_per_frame : ℕ := fmt.bit_width_ * fmt.channels_ / BITS_PER_BYTE

/-- `SoundTriggerEngine::FrameToBytes`; `none` is the division by zero of `UINT32_MAX / frames`. -/
def frameToBytes (frames : ℕ) : Option ℕ :=
  if frames = 0 then none
  else if fmt.bytes_per_frame > UINT32_MAX / frames then some UINT32_MAX
  else some (word32 (frames * fmt.bytes_per_frame))

/-- `SoundTriggerEngine::BytesToFrames`. -/
def bytesToFrames (bytes : ℕ) : ℕ :=
  word32 (word32 bytes * BITS_PER_BYTE) / (fmt.bit_width_ * fmt.channels_)

/-- `SoundTriggerEngineGsl::BytesToRead` at the position `position_frames`; `none` when it is not
accepted. -/
def bytesToRead (position_frames mmap_write_position_ : ℕ) : Option ℕ :=
  if position_frames ≥ mmap_write_position_ then
    match fmt.frameToBytes (position_frames - mmap_write_position_) with
    | none => none
    | some bytes_to_read => if bytes_to_read = UINT32_MAX then none else some bytes_to_read
  else none

end Format

section Loop

variable (fmt : Format) (mmap_buffer_size_ : ℕ)

/-- The writes of `readMmapBufWriteToRingBuf`, and the offset it leaves. -/
def readMmapBufWriteToRingBuf (total offset size_to_read : ℕ) : List Copy × ℕ :=
  if size64 (offset + size_to_read) ≤ mmap_buffer_size_ then
    ([⟨total, offset, size_to_read⟩], size64 (offset + size_to_read))
  else
    ([⟨total, offset, sub64 mmap_buffer_size_ offset⟩,
      ⟨total, 0, sub64 (offset + size_to_read) mmap_buffer_size_⟩],
      sub64 (offset + size_to_read) mmap_buffer_size_)

/-- One pass of the loop, at the position `position_frames`. -/
def labStep (st : Lab) (position_frames : ℕ) : Option (List Copy × Lab) :=
  match fmt.bytesToRead position_frames st.mmap_write_position_ with
  | none => none
  | some size_to_read =>
    if size_to_read > sub64 (2 * mmap_buffer_size_) st.read_offset then none
    else if st.bytes_to_drop ≥ size_to_read then
      some ([], { st with bytes_to_drop := st.bytes_to_drop - size_to_read,
                          read_offset := size64 (st.read_offset + size_to_read) })
    else
      let read_offset := size64 (st.read_offset + st.bytes_to_drop)
      let res := readMmapBufWriteToRingBuf mmap_buffer_size_
        (position_frames * fmt.bytes_per_frame) read_offset size_to_read
      some (res.1,
        { bytes_to_drop := 0
          read_offset := res.2
          mmap_write_position_ :=
            word32 (st.mmap_write_position_ + fmt.bytesToFrames size_to_read) })

/-- The loop over the positions that are left; `none` when one of them is not accepted. -/
def labLoop (st : Lab) : List ℕ → Option (List Copy)
  | [] => some []
  | position_frames :: rest =>
    match labStep fmt mmap_buffer_size_ st position_frames with
    | none => none
    | some (copies, st) => (labLoop st rest).map fun later => copies ++ later

/-- The offset that the loop starts to read from. -/
def startOffset (mmap_write_position_ : ℕ) : Option ℕ :=
  (fmt.frameToBytes mmap_write_position_).map fun bytes => bytes % mmap_buffer_size_

/-- The mmap branch of `startBuffering`. -/
def startBuffering (mmap_write_position_ bytes_to_drop : ℕ) (positions : List ℕ) :
    Option (List Copy) :=
  match startOffset fmt mmap_buffer_size_ mmap_write_position_ with
  | none => none
  | some read_offset =>
    labLoop fmt mmap_buffer_size_ ⟨mmap_write_position_, read_offset, bytes_to_drop⟩ positions

end Loop

/-! ### What the copies deliver -/

/-- The bytes the copies write, when the DSP streams `stream` round a buffer of `M` bytes that
held `init`. -/
def delivered (M : ℕ) (init stream : ℕ → UInt8) (copies : List Copy) : List UInt8 :=
  copies.flatMap fun c => bytesAt (streamed init stream M c.total) c.offset c.size

/-- No copy leaves the mmap buffer, and together they write the bytes of the stream from `first`
up to `last`, whatever the stream. -/
def Delivers (M first last : ℕ) (copies : List Copy) : Prop :=
  (∀ c ∈ copies, c.offset + c.size ≤ M) ∧
    ∀ init stream, delivered M init stream copies = bytesAt stream first (last - first)

section Facts

variable {fmt : Format} {M : ℕ}

/-! ### Frames and bytes -/

theorem Format.bits_eq (fmt : Format) : fmt.bit_width_ * fmt.channels_ = 8 * fmt.bytes_per_frame := by
  unfold Format.bytes_per_frame BITS_PER_BYTE
  rcases fmt.supported with h | h | h <;> rw [h] <;> omega

theorem Format.bytes_per_frame_pos (fmt : Format) : 0 < fmt.bytes_per_frame := by
  have hbits := fmt.bits_eq
  have hch := fmt.channels_pos
  rcases fmt.supported with h | h | h <;> rw [h] at hbits <;> omega

theorem frameToBytes_eq {frames : ℕ} (h : frames ≠ 0) :
    fmt.frameToBytes frames = some (min (frames * fmt.bytes_per_frame) UINT32_MAX) := by
  unfold Format.frameToBytes
  rw [if_neg h]
  have hdiv : fmt.bytes_per_frame > UINT32_MAX / frames ↔
      UINT32_MAX < frames * fmt.bytes_per_frame := by
    rw [gt_iff_lt, Nat.div_lt_iff_lt_mul (Nat.pos_of_ne_zero h), Nat.mul_comm]
  split_ifs with hgt
  · rw [Nat.min_eq_right (by have := hdiv.mp hgt; omega)]
  · have hle : frames * fmt.bytes_per_frame ≤ UINT32_MAX := by
      have := mt hdiv.mpr hgt
      omega
    have hword : word32 (frames * fmt.bytes_per_frame) = frames * fmt.bytes_per_frame :=
      Nat.mod_eq_of_lt (by unfold UINT32_MAX at hle; omega)
    rw [hword, Nat.min_eq_left hle]

/-- A position is accepted when it is behind the write position by fewer than `UINT32_MAX`
bytes. -/
theorem bytesToRead_eq_some {P W n : ℕ} : fmt.bytesToRead P W = some n ↔
    W < P ∧ n = (P - W) * fmt.bytes_per_frame ∧ n < UINT32_MAX := by
  unfold Format.bytesToRead
  by_cases hlt : W < P
  · rw [if_pos (by omega), frameToBytes_eq (by omega)]
    simp only
    split_ifs with hmax
    · constructor
      · intro h
        cases h
      · rintro ⟨-, rfl, hn⟩
        omega
    · constructor
      · intro h
        cases h
        omega
      · rintro ⟨-, rfl, hn⟩
        rw [Nat.min_eq_left (by omega)]
  · constructor
    · intro h
      split_ifs at h with hle
      · rw [show P - W = 0 by omega] at h
        simp [Format.frameToBytes] at h
    · rintro ⟨h, -⟩
      exact absurd h hlt

/-- The frames of a whole number of them are found again, while the bytes are fewer than
`2 ^ 29`. -/
theorem bytesToFrames_of_lt {f : ℕ} (h : f * fmt.bytes_per_frame < 2 ^ 29) :
    fmt.bytesToFrames (f * fmt.bytes_per_frame) = f := by
  unfold Format.bytesToFrames BITS_PER_BYTE word32
  rw [fmt.bits_eq, Nat.mod_eq_of_lt (a := f * fmt.bytes_per_frame) (by omega),
    Nat.mod_eq_of_lt (by omega), show f * fmt.bytes_per_frame * 8 = f * (8 * fmt.bytes_per_frame) by
      ring]
  exact Nat.mul_div_cancel f (by have := fmt.bytes_per_frame_pos; omega)

/-- From `2 ^ 29` bytes on the number of bits overflows, and the frames come out too few. -/
theorem bytesToFrames_lt {f : ℕ} (hlo : 2 ^ 29 ≤ f * fmt.bytes_per_frame)
    (hhi : f * fmt.bytes_per_frame < 2 ^ 32) :
    fmt.bytesToFrames (f * fmt.bytes_per_frame) < f := by
  have hpos := fmt.bytes_per_frame_pos
  unfold Format.bytesToFrames BITS_PER_BYTE word32
  rw [fmt.bits_eq, Nat.mod_eq_of_lt (a := f * fmt.bytes_per_frame) (by omega),
    Nat.div_lt_iff_lt_mul (by omega), show f * (8 * fmt.bytes_per_frame) =
      f * fmt.bytes_per_frame * 8 by ring]
  omega

theorem bytesToFrames_le {f : ℕ} (h : f * fmt.bytes_per_frame < 2 ^ 32) :
    fmt.bytesToFrames (f * fmt.bytes_per_frame) ≤ f := by
  rcases Nat.lt_or_ge (f * fmt.bytes_per_frame) (2 ^ 29) with hlt | hge
  · exact Nat.le_of_eq (bytesToFrames_of_lt hlt)
  · exact Nat.le_of_lt (bytesToFrames_lt hge h)

/-! ### What one pass of the loop does -/

/-- The write position after a pass at `P`: it does not pass `P`, and is `P` for fewer than
`2 ^ 29` bytes. -/
def nextPosition (fmt : Format) (W P : ℕ) : ℕ :=
  word32 (W + fmt.bytesToFrames ((P - W) * fmt.bytes_per_frame))

/-- An accepted pass either drops all it is given, or copies it from the offset on. -/
theorem labStep_cases {st st' : Lab} {P : ℕ} {copies : List Copy}
    (h : labStep fmt M st P = some (copies, st')) :
    st.mmap_write_position_ < P ∧ (P - st.mmap_write_position_) * fmt.bytes_per_frame < UINT32_MAX ∧
      (P - st.mmap_write_position_) * fmt.bytes_per_frame ≤ sub64 (2 * M) st.read_offset ∧
      (((P - st.mmap_write_position_) * fmt.bytes_per_frame ≤ st.bytes_to_drop ∧ copies = [] ∧
          st' = ⟨st.mmap_write_position_,
            size64 (st.read_offset + (P - st.mmap_write_position_) * fmt.bytes_per_frame),
            st.bytes_to_drop - (P - st.mmap_write_position_) * fmt.bytes_per_frame⟩) ∨
        (st.bytes_to_drop < (P - st.mmap_write_position_) * fmt.bytes_per_frame ∧
          ∃ r, (copies, r) = readMmapBufWriteToRingBuf M (P * fmt.bytes_per_frame)
              (size64 (st.read_offset + st.bytes_to_drop))
              ((P - st.mmap_write_position_) * fmt.bytes_per_frame) ∧
            st' = ⟨nextPosition fmt st.mmap_write_position_ P, r, 0⟩)) := by
  unfold labStep at h
  cases hread : fmt.bytesToRead P st.mmap_write_position_ with
  | none =>
    rw [hread] at h
    cases h
  | some n =>
    obtain ⟨hlt, rfl, hmax⟩ := bytesToRead_eq_some.mp hread
    rw [hread] at h
    simp only at h
    split_ifs at h with hsize hdrop
    · cases h
      exact ⟨hlt, hmax, by omega, Or.inl ⟨hdrop, rfl, rfl⟩⟩
    · cases h
      exact ⟨hlt, hmax, by omega, Or.inr ⟨by omega, _, rfl, rfl⟩⟩

theorem nextPosition_of_lt {W P : ℕ} (hlt : W < P) (hP : P < 2 ^ 32)
    (h : (P - W) * fmt.bytes_per_frame < 2 ^ 29) : nextPosition fmt W P = P := by
  unfold nextPosition
  rw [bytesToFrames_of_lt h, show W + (P - W) = P by omega]
  exact Nat.mod_eq_of_lt hP

theorem le_nextPosition {W P : ℕ} (hlt : W < P) (hP : P < 2 ^ 32)
    (h : (P - W) * fmt.bytes_per_frame < 2 ^ 32) :
    W ≤ nextPosition fmt W P ∧ nextPosition fmt W P ≤ P := by
  have hle := bytesToFrames_le h
  unfold nextPosition word32
  rw [Nat.mod_eq_of_lt (by omega)]
  omega

theorem nextPosition_lt {W P : ℕ} (hlt : W < P) (hP : P < 2 ^ 32)
    (hlo : 2 ^ 29 ≤ (P - W) * fmt.bytes_per_frame)
    (hhi : (P - W) * fmt.bytes_per_frame < 2 ^ 32) : nextPosition fmt W P < P := by
  have hle := bytesToFrames_lt hlo hhi
  unfold nextPosition word32
  rw [Nat.mod_eq_of_lt (by omega)]
  omega

end Facts

end AudioReachPal.Gsl
