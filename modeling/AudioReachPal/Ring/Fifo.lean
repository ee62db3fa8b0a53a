import AudioReachPal.Ring.History

/-!
# A ring reader is a queue

A reader that is enabled while the ring is empty, and that is neither advanced nor configured
again, is given the bytes written, in order and without a gap, and owes exactly the ones that are
unread. This holds of every run on a ring of fewer than `2 ^ 31` bytes and of none larger: there
a read of `2 ^ 31` bytes moves the reader and returns the size as a negative `int32_t`.
-/

namespace AudioReachPal.Ring

open AudioReachPal.Lib
open pal_ring_buffer_reader_state

namespace Hist

variable {h : Hist} {k : ReaderId}

/-- The call neither advances nor configures the reader `k`. Other readers may be read, advanced,
configured or reset. -/
def Leaves (k : ReaderId) : Op → Prop
  | .write _ | .read _ _ => True
  | .advanceReadOffset i _ | .updateState i _ | .resetReader i => i ≠ k
  | .updateKwdConfig _ readers _ _ _ => k ∉ readers
  | .reset | .resize _ _ | .createBuffer _ _ _ _ _ => False

/-- What the reader `k` was given is a prefix of what was written, and the bytes it is still owed
are its unread ones, which fit into the ring. -/
def Queues (h : Hist) (k : ReaderId) : Prop :=
  h.returned k <+: h.written ∧
    h.written.length - (h.returned k).length = (h.rb.reader k).unreadSize_ ∧
    (h.rb.reader k).unreadSize_ ≤ h.rb.bufferEnd_

/-- The reader stands behind the bytes it was given, and is still enabled. -/
structure Serves (h : Hist) (k : ReaderId) : Prop where
  stands : h.Stands k
  enabled : (h.rb.reader k).state_ = READER_ENABLED
  not_overrun : h.overrun k = false
  returned : h.returned k = h.written.take (h.pos k)

theorem Serves.queues (hs : h.Serves k) : h.Queues k := by
  obtain ⟨hle, hunread, hroom, -⟩ := hs.stands.at_pos
  have hlen : (h.returned k).length = h.pos k := by
    rw [hs.returned, List.length_take_of_le hle]
  refine ⟨?_, by omega, by omega⟩
  rw [hs.returned]
  exact List.take_prefix _ _

/-- Another reader that moves leaves the reader `k` alone. -/
theorem Serves.move (hs : h.Serves k) {i : ReaderId} (hi : i ≠ k) (rd : PalRingBufferReader)
    (p : ℕ) : (h.move i rd p).Serves k := by
  have hp : (h.move i rd p).pos k = h.pos k := Function.update_of_ne hi.symm _ _
  have hrd : (h.move i rd p).rb.reader k = h.rb.reader k := Function.update_of_ne hi.symm _ _
  refine ⟨stands_move hs.stands fun h' => absurd h' hi, ?_, ?_, ?_⟩
  · rw [hrd]
    exact hs.enabled
  · have hroom := hs.stands.at_pos.room
    refine Bool.or_eq_false_iff.mpr ⟨hs.not_overrun, decide_eq_false ?_⟩
    rw [Function.update_of_ne hi.symm]
    omega
  · rw [hp]
    exact hs.returned

end Hist

namespace PalRingBufferReader

@[simp] theorem readLeading_state (rd : PalRingBufferReader) (buffer_ : ℕ → UInt8)
    (writeOffset_ n : ℕ) : (rd.readLeading buffer_ writeOffset_ n).rd.state_ = rd.state_ := by
  simp only [readLeading, apply_ite ReadResult.rd, apply_ite PalRingBufferReader.state_, ite_self]

@[simp] theorem readTrailing_state (rd : PalRingBufferReader) (buffer_ : ℕ → UInt8)
    (writeOffset_ bufferEnd_ n : ℕ) :
    (rd.readTrailing buffer_ writeOffset_ bufferEnd_ n).rd.state_ = rd.state_ := by
  simp only [readTrailing, apply_ite ReadResult.rd, apply_ite PalRingBufferReader.state_, ite_self]

theorem read_of_enabled {rd : PalRingBufferReader} (hstate : rd.state_ = READER_ENABLED)
    (buffer_ : ℕ → UInt8) (writeOffset_ bufferEnd_ n : ℕ) :
    rd.read buffer_ writeOffset_ bufferEnd_ n =
      if rd.unreadSize_ = 0 then ⟨0, [], rd⟩
      else if writeOffset_ > rd.readOffset_ then rd.readLeading buffer_ writeOffset_ n
      else rd.readTrailing buffer_ writeOffset_ bufferEnd_ n := by
  have hdis : rd.state_ ≠ READER_DISABLED := by
    rw [hstate]
    decide
  have hprep : rd.state_ ≠ READER_PREPARED := by
    rw [hstate]
    decide
  unfold read
  rw [if_neg hdis, if_neg hprep]

/-- A read does not change the state of an enabled reader. -/
theorem read_enabled {rd : PalRingBufferReader} (hstate : rd.state_ = READER_ENABLED)
    (buffer_ : ℕ → UInt8) (writeOffset_ bufferEnd_ n : ℕ) :
    (rd.read buffer_ writeOffset_ bufferEnd_ n).rd.state_ = READER_ENABLED := by
  rw [read_of_enabled hstate]
  split_ifs <;> simp [hstate]

end PalRingBufferReader

namespace Hist

variable {h : Hist} {k : ReaderId}

theorem Serves.write (hs : h.Serves k) (d : List UInt8) : (h.step (.write d)).Serves k := by
  obtain ⟨hstands, henabled, hover, hret⟩ := hs
  have hroom := PalRingBuffer.write_room_of_enabled hstands.filled.size_lt63 hstands.mem hstands.at_pos
    henabled d
  have hover' : (h.step (.write d)).overrun k = false :=
    Bool.or_eq_false_iff.mpr ⟨hover, decide_eq_false (by omega)⟩
  refine ⟨stands_write hstands d hover', ?_, hover', ?_⟩
  · show ((h.rb.write d).2.reader k).state_ = READER_ENABLED
    rw [PalRingBuffer.write_reader, if_pos hstands.mem]
    exact henabled
  · show h.returned k = (h.written ++ d.take (h.rb.write d).1).take (h.pos k)
    rw [List.take_append_of_le_length hstands.at_pos.le, hret]

/-- A read by the reader itself adds the bytes behind its position to the ones it was given. -/
theorem Serves.read_self (hs : h.Serves k) (n : ℕ) : (h.step (.read k n)).Serves k := by
  have hstate : (h.rb.reader k).state_ ≠ READER_DISABLED := by
    rw [hs.enabled]
    decide
  obtain ⟨c, hc, hres, hbytes, hat, -⟩ := reads_of_stands hs.stands hstate n
  have hpos : (h.step (.read k n)).pos k = h.pos k + c := by
    rw [step_read_pos, hres, Int.toNat_natCast]
  refine ⟨stands_read hs.stands k n, ?_, ?_, ?_⟩
  · rw [step_read_reader]
    exact PalRingBufferReader.read_enabled hs.enabled _ _ _ n
  · have hroom := hat.room
    refine Bool.or_eq_false_iff.mpr ⟨hs.not_overrun, decide_eq_false ?_⟩
    have hpos' : Function.update h.pos k (h.pos k + (h.rb.read k n).ret.toNat) k = h.pos k + c :=
      hpos
    rw [hpos']
    omega
  · rw [step_read_returned, hpos, hres, hbytes, Int.toNat_natCast, List.take_take, Nat.min_self, hs.returned,
      List.take_add]
    rfl

/-- **Step.** A call that leaves the reader alone keeps it behind the bytes it was given. -/
theorem Serves.step (hs : h.Serves k) {op : Op} (hop : Leaves k op) : (h.step op).Serves k := by
  cases op with
  | write d => exact hs.write d
  | read i n =>
    rcases eq_or_ne i k with rfl | hi
    · exact hs.read_self n
    · have hmove := hs.move hi (h.rb.read i n).rd (h.pos i + (h.rb.read i n).ret.toNat)
      refine ⟨hmove.stands.congr rfl rfl rfl, hmove.enabled, hmove.not_overrun, ?_⟩
      rw [show (h.step (.read i n)).returned k = h.returned k from Function.update_of_ne hi.symm ..]
      exact hmove.returned
  | advanceReadOffset i n => exact hs.move hop _ _
  | updateState i state => exact hs.move hop _ _
  | resetReader i => exact hs.move hop _ _
  | updateKwdConfig s readers startIdx endIdx preRoll =>
    have hk : k ∉ readers := hop
    have hrd : (h.step (.updateKwdConfig s readers startIdx endIdx preRoll)).rb.reader k =
        h.rb.reader k := if_neg hk
    have hp : (h.step (.updateKwdConfig s readers startIdx endIdx preRoll)).pos k = h.pos k :=
      if_neg hk
    refine ⟨stands_updateKwdConfig hs.stands fun hmem => absurd hmem hk, ?_, ?_, ?_⟩
    · rw [hrd]
      exact hs.enabled
    · have hroom := hs.stands.at_pos.room
      refine Bool.or_eq_false_iff.mpr ⟨hs.not_overrun, decide_eq_false ?_⟩
      simp only [if_neg hk]
      omega
    · rw [hp]
      exact hs.returned
  | reset => exact hop.elim
  | resize size mem => exact hop.elim
  | createBuffer size engine_size reader_list mem new => exact hop.elim

/-- A ring of size `N` whose reader `k` is enabled while the ring is empty. The other readers are
in any state. -/
structure EnabledEmpty (rb : PalRingBuffer) (k : ReaderId) (N : ℕ) : Prop where
  size : rb.bufferEnd_ = N
  offset : rb.writeOffset_ = 0
  mem : k ∈ rb.readers_
  unread : (rb.reader k).unreadSize_ = 0
  readOffset : (rb.reader k).readOffset_ = 0
  enabled : (rb.reader k).state_ = READER_ENABLED

theorem EnabledEmpty.serves {rb : PalRingBuffer} {N : ℕ} (he : EnabledEmpty rb k N) (hN0 : 0 < N)
    (hN : N < 2 ^ 31) : (start rb).Serves k := by
  have hfilled : rb.Filled [] :=
    ⟨by rw [he.size]; exact hN0, by rw [he.size]; exact hN,
      by rw [he.offset]; exact (Nat.zero_mod _).symm, holds_nil _ _⟩
  refine ⟨⟨hfilled, he.mem, ?_⟩, he.enabled, rfl, rfl⟩
  exact ⟨le_rfl, he.unread, Nat.zero_le _, he.readOffset.trans (Nat.zero_mod _).symm⟩

/-- Whatever calls follow that leave the enabled reader alone, it is a queue. -/
def QueueLaw (N : ℕ) : Prop :=
  ∀ rb k ops h, EnabledEmpty rb k N → (∀ op ∈ ops, Leaves k op) → (start rb).runs ops = some h →
    h.Queues k

theorem queueLaw_of_lt {N : ℕ} (hN0 : 0 < N) (hN : N < 2 ^ 31) : QueueLaw N := by
  intro rb k ops h he hops hrun
  have hstep : ∀ s op t, Leaves k op → Serves s k → some (s.step op) = some t → Serves t k := by
    intro s op t hop hs ht
    cases ht
    exact hs.step hop
  have hmeets : Meets (fun s op => some (Hist.step s op)) (fun _ op => Leaves k op) (start rb) ops :=
    meets_of_forall (fun _ => hops) _
  exact (run_invariant_of_meets hstep hmeets (he.serves hN0 hN) hrun).queues

/-! ### The rings that are too large -/

/-- A ring of size `N` with one enabled reader. -/
def oneReader (N : ℕ) : PalRingBuffer :=
  { PalRingBuffer.new N fun _ => 0 with
    readers_ := [0]
    reader := fun _ => ⟨0, 0, READER_ENABLED, 0⟩
    nodup_readers := by simp }

theorem enabledEmpty_oneReader (N : ℕ) : EnabledEmpty (oneReader N) 0 N :=
  ⟨rfl, rfl, by simp [oneReader], rfl, rfl, rfl⟩

/-- The empty ring takes a first write that fits whole. -/
theorem write_oneReader {N : ℕ} {d : List UInt8} (hN : N < 2 ^ 64) (hd : d.length ≤ N)
    (h0 : d.length ≠ 0) :
    ((oneReader N).write d).1 = d.length ∧
      ((oneReader N).write d).2.writeOffset_ = d.length % N ∧
      ((oneReader N).write d).2.reader 0 = ⟨d.length, 0, READER_ENABLED, 0⟩ := by
  have hfree : (oneReader N).getFreeSize = N := by
    have hsub : sub64 N 0 = N := sub64_of_le (Nat.zero_le N) hN
    simp [PalRingBuffer.getFreeSize, PalRingBuffer.freeSizeFrom, oneReader, PalRingBuffer.new, hsub]
  have hcopy : (oneReader N).sizeToCopy d.length = d.length := by
    unfold PalRingBuffer.sizeToCopy
    rw [hfree, if_pos hd]
  have hw : ((oneReader N).write d).1 = d.length := hcopy
  have hsize : size64 d.length = d.length := size64_of_lt (by omega)
  refine ⟨hw, ?_, ?_⟩
  · have hoff : ((oneReader N).copyIn d d.length).writeOffset_ = d.length := by
      have hnot : ¬d.length > N := by omega
      simp [PalRingBuffer.copyIn, oneReader, PalRingBuffer.new, h0, hsize, hnot]
    have hres : ((oneReader N).write d).2.writeOffset_ =
        ((oneReader N).copyIn d ((oneReader N).sizeToCopy d.length)).writeOffset_ %
          ((oneReader N).copyIn d ((oneReader N).sizeToCopy d.length)).bufferEnd_ := rfl
    rw [hres, hcopy, hoff, PalRingBuffer.copyIn_bufferEnd_]
    rfl
  · rw [PalRingBuffer.write_reader, if_pos (enabledEmpty_oneReader N).mem, hw]
    simp [oneReader, hsize]

/-- A read of `2 ^ 31` unread bytes returns a negative size, and leaves none unread. -/
theorem read_too_large {N m : ℕ} (hm : m = 2 ^ 31) (hlo : m ≤ N) (buffer_ : ℕ → UInt8) :
    (PalRingBufferReader.read ⟨m, 0, READER_ENABLED, 0⟩ buffer_ (m % N) N m).ret = -2 ^ 31 ∧
      (PalRingBufferReader.read ⟨m, 0, READER_ENABLED, 0⟩ buffer_ (m % N) N m).rd.unreadSize_ =
        0 := by
  have hm0 : m ≠ 0 := by omega
  have hret : int32 (m : ℤ) = -2 ^ 31 := by
    rw [hm]
    decide
  have hsub : sub64 m 0 = m := sub64_of_le (Nat.zero_le m) (by omega)
  rcases Nat.eq_or_lt_of_le hlo with rfl | hlt
  · have hi : m < int32ToSize (-2 ^ 31) := by
      rw [hm]
      decide
    have hsize : size64 m = m := size64_of_lt (by omega)
    have hend : sub64 m m = 0 := by
      rw [sub64_of_le le_rfl (by omega), Nat.sub_self]
    have hzero : size64 0 = 0 := size64_of_lt (by decide)
    rw [Nat.mod_self, PalRingBufferReader.read_of_enabled rfl, if_neg hm0,
      if_neg (Nat.not_lt_zero _)]
    unfold PalRingBufferReader.readTrailing
    simp only [hsub, hret, if_neg (Nat.not_le.mpr hi), ge_iff_le, Nat.zero_add, hsize, hend, hzero,
      and_self]
  · rw [Nat.mod_eq_of_lt hlt, PalRingBufferReader.read_of_enabled rfl, if_neg hm0,
      if_pos (Nat.pos_of_ne_zero hm0)]
    unfold PalRingBufferReader.readLeading
    simp only [hsub, hret, ge_iff_le, le_refl, if_true, and_self]

/-- **Too large a ring.** After a write and a read of `2 ^ 31` bytes none is unread, and none was
returned. -/
theorem not_queueLaw_of_le {N : ℕ} (hlo : 2 ^ 31 ≤ N) (hN : N < 2 ^ 64) : ¬QueueLaw N := by
  intro hlaw
  obtain ⟨m, hm⟩ : ∃ m, m = 2 ^ 31 := ⟨_, rfl⟩
  obtain ⟨d, hd⟩ : ∃ d : List UInt8, d.length = m := ⟨List.replicate m 0, List.length_replicate⟩
  obtain ⟨hw, hoff, hrd⟩ := write_oneReader (d := d) hN (by omega) (by omega)
  rw [hd] at hw hoff hrd
  have hmN : m ≤ N := by omega
  obtain ⟨hret, hunread⟩ := read_too_large hm hmN ((oneReader N).write d).2.buffer_
  have hres : ((oneReader N).write d).2.read 0 m =
      PalRingBufferReader.read ⟨m, 0, READER_ENABLED, 0⟩ ((oneReader N).write d).2.buffer_
        (m % N) N m := by
    rw [PalRingBuffer.read, hrd, hoff, PalRingBuffer.write_bufferEnd_]
    rfl
  rw [← hres] at hret hunread
  obtain ⟨-, howed, -⟩ := hlaw (oneReader N) 0 [.write d, .read 0 m] _
    (enabledEmpty_oneReader N) (by simp [Leaves]) rfl
  have hwritten : (((start (oneReader N)).step (.write d)).step (.read 0 m)).written.length = m := by
    simp [step, start, move, hw, hd]
  have hrb : ((start (oneReader N)).step (.write d)).rb = ((oneReader N).write d).2 := rfl
  have hnone : (((start (oneReader N)).step (.write d)).step (.read 0 m)).returned 0 = [] := by
    rw [step_read_returned, hrb, hret]
    rfl
  rw [step_read_reader, hrb, hnone, hunread, hwritten] at howed
  simp only [List.length_nil] at howed
  omega

end Hist

/-- **A reader is a queue exactly in a ring of fewer than `2 ^ 31` bytes.** -/
theorem queueLaw_iff {N : ℕ} (hN0 : 0 < N) (hN : N < 2 ^ 64) : Hist.QueueLaw N ↔ N < 2 ^ 31 := by
  constructor
  · intro hlaw
    by_contra hle
    exact Hist.not_queueLaw_of_le (by omega) hN hlaw
  · exact Hist.queueLaw_of_lt hN0

theorem queueLaw_iff_four : Hist.QueueLaw 4 ↔ 4 < 2 ^ 31 :=
  queueLaw_iff (by decide) (by decide)

/-- The smallest ring that is too large. -/
theorem not_queueLaw_two_pow : ¬Hist.QueueLaw (2 ^ 31) :=
  Hist.not_queueLaw_of_le le_rfl (by decide)

end AudioReachPal.Ring
