import AudioReachPal.Ring.Defs

/-!
# The cursor of a ring buffer reader

`Filled`: the ring holds the last bytes written to it since it was reset. `At`: a reader stands at
a position of that byte sequence, with the offset and the unread size of the position. For a ring
of fewer than `2 ^ 31` bytes a read from a position returns the bytes that follow it and moves the
reader behind them (`read_spec`), and a write that leaves the reader's unread bytes alone keeps its
position (`At.write`).
-/

namespace AudioReachPal.Ring

open AudioReachPal.Lib
open pal_ring_buffer_reader_state

/-- The ring holds the last bytes of `written`, and `writeOffset_` is where the next one goes. -/
structure PalRingBuffer.Filled (rb : PalRingBuffer) (written : List UInt8) : Prop where
  size_pos : 0 < rb.bufferEnd_
  size_lt : rb.bufferEnd_ < 2 ^ 31
  offset : rb.writeOffset_ = written.length % rb.bufferEnd_
  holds : Holds rb.buffer_ rb.bufferEnd_ written

/-- The reader stands at position `pos` of a sequence of `total` bytes in a ring of `N`. -/
structure PalRingBufferReader.At (rd : PalRingBufferReader) (N total pos : ℕ) : Prop where
  le : pos ≤ total
  unread : rd.unreadSize_ = total - pos
  room : total ≤ pos + N
  offset : rd.readOffset_ = pos % N

namespace PalRingBufferReader

variable {rd : PalRingBufferReader} {buffer_ : ℕ → UInt8} {written : List UInt8} {N pos : ℕ}

/-- A read of `n` bytes at position `pos`: it returns `c` bytes, the ones that follow `pos`, and
the reader is behind them. All that was asked for and is there is returned when `n` is a positive
`int32_t`. -/
def ReadResult.Reads (res : ReadResult) (written : List UInt8) (N pos n : ℕ) : Prop :=
  ∃ c : ℕ, c ≤ written.length - pos ∧ res.ret = c ∧ res.bytes = (written.drop pos).take c ∧
    res.rd.At N written.length (pos + c) ∧ (n < 2 ^ 31 → c = min n (written.length - pos))

/-- The `int32_t` locals of a read of `n` bytes hold its sizes. Up to the end of the buffer there are
`N - readOffset_` bytes, `i` of the source; where these are too many for `i`, the read has to end
before what `i` says. -/
structure ReadFits (rd : PalRingBufferReader) (w N n : ℕ) : Prop where
  leading : rd.readOffset_ < w → min n (w - rd.readOffset_) < 2 ^ 31
  wrapped : w ≤ rd.readOffset_ → N - rd.readOffset_ < 2 ^ 31 → N - rd.readOffset_ ≤ n →
    N - rd.readOffset_ +
      min w (int32ToSize (int32 (int32 n - ((N - rd.readOffset_ : ℕ) : ℤ)))) < 2 ^ 31
  straight : w ≤ rd.readOffset_ → 2 ^ 31 ≤ N - rd.readOffset_ →
    n < 2 ^ 31 ∧ n < int32ToSize (int32 (N - rd.readOffset_ : ℕ))

/-- In a ring of fewer than `2 ^ 31` bytes every read fits. -/
theorem readFits_of_lt {w n : ℕ} (hN : N < 2 ^ 31) (hw : w < N) (hoff : rd.readOffset_ < N) :
    rd.ReadFits w N n :=
  ⟨by omega, by omega, by omega⟩

theorem At.offset_lt {total : ℕ} (h : rd.At N total pos) (hN : 0 < N) : rd.readOffset_ < N := by
  rw [h.offset]
  exact Nat.mod_lt pos hN

/-! ### The two branches of `read` -/

theorem readLeading_spec (h : rd.At N written.length pos) (hN : N < 2 ^ 63)
    (hmem : Holds buffer_ N written) (hlead : written.length % N > rd.readOffset_) {n : ℕ}
    (hfits : rd.ReadFits (written.length % N) N n) :
    (rd.readLeading buffer_ (written.length % N) n).Reads written N pos n := by
  have hcount := hfits.leading hlead
  obtain ⟨hle, hunread, hroom, hoff⟩ := h
  rw [hoff] at hlead hcount
  have hN0 : 0 < N := by
    rcases Nat.eq_zero_or_pos N with rfl | h0
    · simp only [Nat.mod_zero] at hlead
      omega
    · exact h0
  have hw : written.length % N < N := Nat.mod_lt _ hN0
  -- the unread bytes do not wrap, so there are `writeOffset_ - readOffset_` of them
  have hu : written.length % N - pos % N = written.length - pos := by
    have := add_mod_cases (u := written.length - pos) pos hN0 (by omega)
    rw [show pos + (written.length - pos) = written.length by omega] at this
    omega
  have hsub : sub64 (written.length % N) (pos % N) = written.length - pos := by
    rw [sub64_of_le (by omega) (by omega), hu]
  rw [hu] at hcount
  unfold readLeading
  simp only [hoff, hsub]
  split_ifs with hn
  · refine ⟨written.length - pos, le_rfl, int32_natCast_of_lt (by omega), ?_, ?_, by omega⟩
    · exact hmem.bytesAt_mod hroom (by omega) (by omega)
    · refine ⟨by omega, (Nat.sub_eq_zero_of_le (by omega)).symm, by omega, ?_⟩
      rw [show pos + (written.length - pos) = written.length by omega]
      simp only
      rw [size64_of_lt (by omega)]
      omega
  · have hmod := add_mod_cases (u := n) pos hN0 (by omega)
    refine ⟨n, by omega, int32_natCast_of_lt (by omega), ?_, ?_, by omega⟩
    · exact hmem.bytesAt_mod hroom (by omega) (by omega)
    · refine ⟨by omega, ?_, by omega, ?_⟩
      · simp only
        rw [size64_of_lt (by omega), sub64_of_le (by omega) (by omega)]
        omega
      · simp only
        rw [size64_of_lt (by omega)]
        omega

/-- What is left of the caller's buffer after the part up to the end of the ring. -/
theorem freeClientSize_of_lt {n i : ℕ} (hi : i ≤ n) (hn : n < 2 ^ 31) :
    int32ToSize (int32 (int32 n - i)) = n - i := by
  have hsub : (n : ℤ) - i = ((n - i : ℕ) : ℤ) := by omega
  rw [int32_natCast_of_lt hn, hsub, int32_natCast_of_lt (by omega), int32ToSize_natCast (by omega)]

/-- A read that ends before the end of the buffer, where the unread bytes wrap. -/
theorem readUpTo_spec (h : rd.At N written.length pos) (hN0 : 0 < N) (hN : N < 2 ^ 63)
    (hmem : Holds buffer_ N written)
    (hu : written.length - pos = N - pos % N + written.length % N) {n : ℕ}
    (hn : n < N - pos % N) (hn31 : n < 2 ^ 31) :
    (⟨int32 n, bytesAt buffer_ (pos % N) n,
      { rd with
        readOffset_ := size64 (pos % N + n)
        unreadSize_ := size64 (sub64 N (size64 (pos % N + n)) + written.length % N) }⟩ :
        ReadResult).Reads written N pos n := by
  obtain ⟨hle, -, hroom, -⟩ := h
  have hw : written.length % N < N := Nat.mod_lt _ hN0
  have hr : pos % N < N := Nat.mod_lt _ hN0
  have hmod := add_mod_cases (u := n) pos hN0 (by omega)
  refine ⟨n, by omega, int32_natCast_of_lt hn31, ?_, ?_, by omega⟩
  · exact hmem.bytesAt_mod hroom (by omega) (by omega)
  · refine ⟨by omega, ?_, by omega, ?_⟩
    · simp only
      rw [size64_of_lt (show pos % N + n < 2 ^ 64 by omega), sub64_of_le (by omega) (by omega),
        size64_of_lt (by omega)]
      omega
    · simp only
      rw [size64_of_lt (by omega)]
      omega

theorem readTrailing_spec (h : rd.At N written.length pos) (hN0 : 0 < N) (hN : N < 2 ^ 63)
    (hmem : Holds buffer_ N written) (hu : rd.unreadSize_ ≠ 0)
    (htrail : ¬written.length % N > rd.readOffset_) {n : ℕ}
    (hfits : rd.ReadFits (written.length % N) N n) :
    (rd.readTrailing buffer_ (written.length % N) N n).Reads written N pos n := by
  obtain ⟨hle, hunread, hroom, hoff⟩ := h
  rw [hoff] at htrail
  have hw : written.length % N < N := Nat.mod_lt _ hN0
  have hr : pos % N < N := Nat.mod_lt _ hN0
  -- the unread bytes wrap: those up to the end of the buffer, and `writeOffset_` more
  have hu' : written.length - pos = N - pos % N + written.length % N := by
    have := add_mod_cases (u := written.length - pos) pos hN0 (by omega)
    rw [show pos + (written.length - pos) = written.length by omega] at this
    omega
  have hend : (pos + (N - pos % N)) % N = 0 := by
    have := add_mod_cases (u := N - pos % N) pos hN0 (by omega)
    omega
  have hhead : bytesAt buffer_ (pos % N) (N - pos % N) = (written.drop pos).take (N - pos % N) :=
    hmem.bytesAt_mod hroom (by omega) (by omega)
  have htail : ∀ c ≤ written.length % N, bytesAt buffer_ 0 c =
      (written.drop (pos + (N - pos % N))).take c := by
    intro c hc
    have := hmem.bytesAt_mod (p := pos + (N - pos % N)) (n := c) (by omega) (by omega) (by omega)
    rwa [hend] at this
  have hsize : N - pos % N < 2 ^ 64 := by omega
  have hsub : sub64 N (pos % N) = N - pos % N := sub64_of_le (by omega) (by omega)
  unfold readTrailing
  simp only [hoff, hsub]
  clear hsub
  rcases Nat.lt_or_ge (N - pos % N) (2 ^ 31) with hshort | hlong
  · simp only [int32_natCast_of_lt hshort, int32ToSize_natCast hsize]
    split_ifs with hn hfree
    · -- all that is unread is returned
      have hsum : written.length - pos < 2 ^ 31 := by
        have hcount := hfits.wrapped (by omega) (by omega) (by omega)
        rw [hoff, Nat.min_eq_left (Nat.le_of_lt hfree), ← hu'] at hcount
        exact hcount
      refine ⟨written.length - pos, le_rfl, ?_, ?_, ?_, ?_⟩
      · rw [hu', ← Int.natCast_add, int32_natCast_of_lt (by omega)]
      · rw [hu', take_drop_add, hhead, htail _ le_rfl]
      · refine ⟨by omega, (Nat.sub_eq_zero_of_le (by omega)).symm, by omega, ?_⟩
        rw [show pos + (written.length - pos) = written.length by omega]
      · intro hn31
        rw [freeClientSize_of_lt hn hn31] at hfree
        omega
    · -- the part that wrapped is returned up to what is left of the caller's buffer
      set c := int32ToSize (int32 (int32 n - ((N - pos % N : ℕ) : ℤ))) with hc
      have hsum : N - pos % N + c < 2 ^ 31 := by
        have hcount := hfits.wrapped (by omega) (by omega) (by omega)
        rw [hoff, ← hc, Nat.min_eq_right (Nat.le_of_not_lt hfree)] at hcount
        exact hcount
      refine ⟨N - pos % N + c, by omega, ?_, ?_, ?_, ?_⟩
      · rw [int32_natCast_of_lt (show c < 2 ^ 31 by omega), ← Int.natCast_add,
          int32_natCast_of_lt (by omega)]
      · rw [take_drop_add, hhead, htail c (by omega)]
      · refine ⟨by omega, ?_, by omega, ?_⟩
        · simp only
          rw [sub64_of_le (by omega) (by omega)]
          omega
        · have := add_mod_cases (u := c) (pos + (N - pos % N)) hN0 (by omega)
          simp only
          rw [← Nat.add_assoc]
          omega
      · intro hn31
        rw [freeClientSize_of_lt hn hn31] at hc
        omega
    · exact readUpTo_spec ⟨hle, hunread, hroom, hoff⟩ hN0 hN hmem hu' (by omega) (by omega)
  · -- `i` is wrong, and the read ends before what it says
    obtain ⟨hn31, hbefore⟩ := hfits.straight (by omega) (by omega)
    rw [hoff] at hbefore
    rw [if_neg (Nat.not_le_of_lt hbefore)]
    exact readUpTo_spec ⟨hle, hunread, hroom, hoff⟩ hN0 hN hmem hu' (by omega) (by omega)

/-! ### The whole of `read` -/

theorem At.congr {rd' : PalRingBufferReader} {total : ℕ} (h : rd.At N total pos)
    (hu : rd'.unreadSize_ = rd.unreadSize_) (hr : rd'.readOffset_ = rd.readOffset_) :
    rd'.At N total pos :=
  ⟨h.le, hu.trans h.unread, h.room, hr.trans h.offset⟩

/-- **Reading.** An enabled or prepared reader at a position reads the bytes that follow it. -/
theorem read_spec (h : rd.At N written.length pos) (hN0 : 0 < N) (hN : N < 2 ^ 63)
    (hmem : Holds buffer_ N written) (hstate : rd.state_ ≠ READER_DISABLED) {n : ℕ}
    (hfits : rd.unreadSize_ ≠ 0 → rd.ReadFits (written.length % N) N n) :
    (rd.read buffer_ (written.length % N) N n).Reads written N pos n := by
  unfold read
  rw [if_neg hstate]
  set rd' := if rd.state_ = READER_PREPARED then { rd with state_ := READER_ENABLED } else rd
    with hrd'
  obtain ⟨h', hfits'⟩ : rd'.At N written.length pos ∧
      (rd'.unreadSize_ ≠ 0 → rd'.ReadFits (written.length % N) N n) := by
    rw [hrd']
    split_ifs
    · exact ⟨h.congr rfl rfl, fun hu => ⟨(hfits hu).1, (hfits hu).2, (hfits hu).3⟩⟩
    · exact ⟨h, hfits⟩
  simp only
  split_ifs with hu hlead
  · refine ⟨0, Nat.zero_le _, rfl, by simp, h', fun _ => ?_⟩
    have := h'.unread
    omega
  · exact readLeading_spec h' hN hmem hlead (hfits' hu)
  · exact readTrailing_spec h' hN0 hN hmem hu hlead (hfits' hu)

theorem read_disabled (h : rd.state_ = READER_DISABLED) (writeOffset_ bufferEnd_ n : ℕ) :
    rd.read buffer_ writeOffset_ bufferEnd_ n = ⟨-EINVAL, [], rd⟩ := by
  unfold read
  rw [if_pos h]

end PalRingBufferReader

/-! ### `write` -/

namespace PalRingBuffer

variable {rb : PalRingBuffer} {written : List UInt8}

theorem Filled.size_lt63 (h : rb.Filled written) : rb.bufferEnd_ < 2 ^ 63 := by
  have hlt := h.size_lt
  omega

theorem freeSizeFrom_le (freeSize : ℕ) (ids : List ReaderId) :
    rb.freeSizeFrom freeSize ids ≤ freeSize := by
  induction ids generalizing freeSize with
  | nil => exact le_rfl
  | cons id ids ih =>
    unfold freeSizeFrom
    split_ifs
    · exact Nat.le_trans (ih _) (Nat.min_le_left _ _)
    · exact ih _

theorem freeSizeFrom_le_of_mem {id : ReaderId} {ids : List ReaderId} (hid : id ∈ ids)
    (hstate : (rb.reader id).state_ = READER_ENABLED) (freeSize : ℕ) :
    rb.freeSizeFrom freeSize ids ≤ sub64 rb.bufferEnd_ (rb.reader id).unreadSize_ := by
  induction ids generalizing freeSize with
  | nil => simp at hid
  | cons a ids ih =>
    unfold freeSizeFrom
    rcases List.mem_cons.mp hid with rfl | hmem
    · rw [if_pos hstate]
      exact Nat.le_trans (freeSizeFrom_le _ _) (Nat.min_le_right _ _)
    · split_ifs <;> exact ih hmem _

theorem sizeToCopy_le (n : ℕ) : rb.sizeToCopy n ≤ n ∧ rb.sizeToCopy n ≤ rb.bufferEnd_ := by
  have h : rb.getFreeSize ≤ rb.bufferEnd_ := freeSizeFrom_le _ _
  unfold sizeToCopy
  split_ifs <;> omega

/-- What `write` copies fits into what an enabled reader has read. -/
theorem sizeToCopy_le_of_enabled {id : ReaderId} (hid : id ∈ rb.readers_)
    (hstate : (rb.reader id).state_ = READER_ENABLED) (n : ℕ) :
    rb.sizeToCopy n ≤ sub64 rb.bufferEnd_ (rb.reader id).unreadSize_ := by
  have h : rb.getFreeSize ≤ _ := freeSizeFrom_le_of_mem hid hstate rb.bufferEnd_
  unfold sizeToCopy
  split_ifs <;> omega

theorem addUnread_eq (n : ℕ) {ids : List ReaderId} (hids : ids.Nodup)
    (reader : ReaderId → PalRingBufferReader) (id : ReaderId) :
    addUnread n ids reader id =
      if id ∈ ids then { reader id with unreadSize_ := size64 ((reader id).unreadSize_ + n) }
      else reader id := by
  induction ids generalizing reader with
  | nil => rfl
  | cons a ids ih =>
    rw [List.nodup_cons] at hids
    rw [addUnread, ih hids.2]
    rcases eq_or_ne id a with rfl | hne
    · simp [hids.1]
    · simp [hne]

/-- `write` changes no reader but the unread sizes of the ring's own. -/
theorem write_reader (d : List UInt8) (id : ReaderId) :
    (rb.write d).2.reader id =
      if id ∈ rb.readers_ then
        { rb.reader id with
          unreadSize_ := size64 ((rb.reader id).unreadSize_ + (rb.write d).1) }
      else rb.reader id := by
  have hcopy : (rb.copyIn d (rb.sizeToCopy d.length)).readers_ = rb.readers_ ∧
      (rb.copyIn d (rb.sizeToCopy d.length)).reader = rb.reader := by
    unfold copyIn
    split_ifs <;> exact ⟨rfl, rfl⟩
  unfold write updateUnReadSize
  simp only
  rw [addUnread_eq _ (nodup_readers _), hcopy.1, hcopy.2]

@[simp] theorem copyIn_bufferEnd_ (d : List UInt8) (n : ℕ) :
    (rb.copyIn d n).bufferEnd_ = rb.bufferEnd_ := by
  unfold copyIn
  split_ifs <;> rfl

@[simp] theorem copyIn_readers_ (d : List UInt8) (n : ℕ) :
    (rb.copyIn d n).readers_ = rb.readers_ := by
  unfold copyIn
  split_ifs <;> rfl

@[simp] theorem write_bufferEnd_ (d : List UInt8) : (rb.write d).2.bufferEnd_ = rb.bufferEnd_ :=
  copyIn_bufferEnd_ d _

@[simp] theorem write_readers_ (d : List UInt8) : (rb.write d).2.readers_ = rb.readers_ :=
  copyIn_readers_ d _

/-- The copy puts the bytes behind the ones the ring holds, around its end. -/
theorem holds_copyIn (hpos : 0 < rb.bufferEnd_) (hlt : rb.bufferEnd_ < 2 ^ 63)
    (hoff : rb.writeOffset_ = written.length % rb.bufferEnd_)
    (hmem : Holds rb.buffer_ rb.bufferEnd_ written) {d : List UInt8} {n : ℕ} (hd : n ≤ d.length)
    (hn : n ≤ rb.bufferEnd_) :
    Holds (rb.copyIn d n).buffer_ rb.bufferEnd_ (written ++ d.take n) ∧
      (rb.copyIn d n).writeOffset_ % rb.bufferEnd_ = (written.length + n) % rb.bufferEnd_ := by
  have hw : written.length % rb.bufferEnd_ < rb.bufferEnd_ := Nat.mod_lt _ hpos
  have hlen : (d.take n).length = n := List.length_take_of_le hd
  unfold PalRingBuffer.copyIn
  rw [size64_of_lt (by omega), hoff]
  split_ifs with h0 hwrap
  · subst h0
    simp [hmem, hoff]
  · -- the bytes up to the end of the ring, then the rest from its start
    have hi : sub64 rb.bufferEnd_ (written.length % rb.bufferEnd_) =
        rb.bufferEnd_ - written.length % rb.bufferEnd_ := sub64_of_le (by omega) (by omega)
    have hrest : sub64 n (rb.bufferEnd_ - written.length % rb.bufferEnd_) =
        n - (rb.bufferEnd_ - written.length % rb.bufferEnd_) := sub64_of_le (by omega) (by omega)
    have hmem' := hmem.append_wrap (d := d.take n) hpos (by omega) (by omega)
    rw [List.take_take, Nat.min_eq_left (by omega), List.drop_take] at hmem'
    simp only [hi, hrest]
    refine ⟨hmem', ?_⟩
    have := add_mod_cases (u := n) written.length hpos hn
    rw [Nat.mod_eq_of_lt (by omega)]
    omega
  · exact ⟨hmem.append_block hpos (by omega), Nat.mod_add_mod _ _ _⟩

/-- A ring that holds the last bytes written to it holds the ones of a write as well. -/
theorem holds_write (hpos : 0 < rb.bufferEnd_) (hlt : rb.bufferEnd_ < 2 ^ 63)
    (hoff : rb.writeOffset_ = written.length % rb.bufferEnd_)
    (hmem : Holds rb.buffer_ rb.bufferEnd_ written) (d : List UInt8) :
    Holds (rb.write d).2.buffer_ rb.bufferEnd_ (written ++ d.take (rb.write d).1) ∧
      (rb.write d).2.writeOffset_ = (written.length + (rb.write d).1) % rb.bufferEnd_ := by
  obtain ⟨hd, hn⟩ := rb.sizeToCopy_le d.length
  obtain ⟨hholds, hmod⟩ := holds_copyIn hpos hlt hoff hmem hd hn
  refine ⟨hholds, Eq.trans ?_ hmod⟩
  rw [← copyIn_bufferEnd_ d (rb.sizeToCopy d.length)]
  rfl

/-- **Writing.** The ring then holds the written bytes too. -/
theorem Filled.write (h : rb.Filled written) (d : List UInt8) :
    (rb.write d).2.Filled (written ++ d.take (rb.write d).1) := by
  have hd : (rb.write d).1 ≤ d.length := (rb.sizeToCopy_le d.length).1
  obtain ⟨hmem, hoff⟩ := holds_write h.size_pos h.size_lt63 h.offset h.holds d
  refine ⟨?_, ?_, ?_, ?_⟩
  · rw [write_bufferEnd_]
    exact h.size_pos
  · rw [write_bufferEnd_]
    exact h.size_lt
  · rw [write_bufferEnd_, List.length_append, List.length_take_of_le hd]
    exact hoff
  · rw [write_bufferEnd_]
    exact hmem

/-- A write that takes none of its unread bytes leaves a reader where it stands. -/
theorem At.write {id : ReaderId} {pos : ℕ} (hlt : rb.bufferEnd_ < 2 ^ 63) (hid : id ∈ rb.readers_)
    (hat : (rb.reader id).At rb.bufferEnd_ written.length pos) (d : List UInt8)
    (hroom : written.length + (rb.write d).1 ≤ pos + rb.bufferEnd_) :
    ((rb.write d).2.reader id).At rb.bufferEnd_ (written.length + (rb.write d).1) pos := by
  have hu := hat.unread
  have hle := hat.le
  rw [write_reader, if_pos hid]
  refine ⟨by omega, ?_, hroom, hat.offset⟩
  simp only
  rw [size64_of_lt (by omega)]
  omega

/-- An enabled reader is never overrun: what a write takes is free. -/
theorem write_room_of_enabled {id : ReaderId} {pos : ℕ} (hlt : rb.bufferEnd_ < 2 ^ 63)
    (hid : id ∈ rb.readers_) (hat : (rb.reader id).At rb.bufferEnd_ written.length pos)
    (hstate : (rb.reader id).state_ = READER_ENABLED) (d : List UInt8) :
    written.length + (rb.write d).1 ≤ pos + rb.bufferEnd_ := by
  have hu := hat.unread
  have hroom := hat.room
  have hle := hat.le
  have hfree : (rb.write d).1 ≤ _ := sizeToCopy_le_of_enabled hid hstate d.length
  rw [sub64_of_le (by omega) (by omega)] at hfree
  omega

end PalRingBuffer

end AudioReachPal.Ring
