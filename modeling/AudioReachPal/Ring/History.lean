import AudioReachPal.Ring.Cursor

/-!
# Runs of a ring buffer and its readers

The operations that the engines and the stream call on a ring, in any order, with the history
they make: the bytes written since the ring was last reset, and for each reader the bytes it was
given, the stream position it asked for last and whether a write has taken bytes it had not read.
The history is not state of the code; the results of this folder relate the two.
-/

namespace AudioReachPal.Ring

open AudioReachPal.Lib
open pal_ring_buffer_reader_state

/-- A call on the ring or on one of its readers. `resize` is the pair of calls that
`processStartRecognition` makes, a resize and a reset. -/
inductive Op where
  | write (writeBuffer : List UInt8)
  | read (id : ReaderId) (bufferSize : ℕ)
  | advanceReadOffset (id : ReaderId) (advanceSize : ℕ)
  | updateState (id : ReaderId) (state : pal_ring_buffer_reader_state)
  | resetReader (id : ReaderId)
  | updateKwdConfig (s : StreamId) (readers : List ReaderId) (startIdx endIdx preRoll : ℕ)
  | reset
  | resize (bufferSize : ℕ) (mem : ℕ → UInt8)
  | createBuffer (buffer_size engine_size : ℕ) (reader_list : List ReaderId) (mem : ℕ → UInt8)
      (new : PalRingBuffer.New)

/-- A ring with its history. -/
structure Hist where
  rb : PalRingBuffer
  written : List UInt8
  returned : ReaderId → List UInt8
  pos : ReaderId → ℕ
  overrun : ReaderId → Bool

namespace Hist

/-- A ring whose history starts: nothing was written to it since it was reset. -/
def start (rb : PalRingBuffer) : Hist := ⟨rb, [], fun _ => [], fun _ => 0, fun _ => false⟩

variable (h : Hist)

/-- The readers whose next byte is gone once `total` bytes are written. -/
def overrunAt (pos : ReaderId → ℕ) (total : ℕ) (id : ReaderId) : Bool :=
  h.overrun id || decide (pos id + h.rb.bufferEnd_ < total)

/-- The reader `id` replaced by `rd`, which asks for the position `p`. -/
def move (id : ReaderId) (rd : PalRingBufferReader) (p : ℕ) : Hist :=
  { h with
    rb := h.rb.setReader id rd
    pos := Function.update h.pos id p
    overrun := h.overrunAt (Function.update h.pos id p) h.written.length }

/-- The history of one call. -/
def step : Op → Hist
  | .write d =>
    { h with
      rb := (h.rb.write d).2
      written := h.written ++ d.take (h.rb.write d).1
      overrun := h.overrunAt h.pos (h.written.length + (h.rb.write d).1) }
  | .read id n =>
    let res := h.rb.read id n
    { h.move id res.rd (h.pos id + res.ret.toNat) with
      returned := Function.update h.returned id (h.returned id ++ res.bytes.take res.ret.toNat) }
  | .advanceReadOffset id n =>
    h.move id ((h.rb.reader id).advanceReadOffset h.rb.bufferEnd_ n) (h.pos id + n)
  | .updateState id state => h.move id ((h.rb.reader id).updateState state) (h.pos id)
  | .resetReader id => h.move id (h.rb.reader id).reset 0
  | .updateKwdConfig s readers startIdx endIdx preRoll =>
    let pos := fun id =>
      if id ∈ readers then PalRingBuffer.kwdSkip startIdx preRoll else h.pos id
    { h with
      rb := h.rb.updateKwdConfig s readers startIdx endIdx preRoll
      pos := pos
      overrun := h.overrunAt pos h.written.length }
  | .reset => start h.rb.reset
  | .resize size mem => start (h.rb.resizeRingBuffer size mem).reset
  | .createBuffer size engine_size reader_list mem new =>
    let res := h.rb.createBuffer size engine_size reader_list mem new
    if res.1 = 0 then start res.2 else { h with rb := res.2 }

/-- The run along a list of calls. -/
def runs (ops : List Op) : Option Hist := run (fun h op => some (h.step op)) h ops

/-- Where the history says the reader stands, in a ring that holds its last bytes. -/
structure Stands (id : ReaderId) : Prop where
  filled : h.rb.Filled h.written
  mem : id ∈ h.rb.readers_
  at_pos : (h.rb.reader id).At h.rb.bufferEnd_ h.written.length (h.pos id)

variable {h} {id : ReaderId}

theorem Stands.congr {h' : Hist} (hs : h.Stands id) (hrb : h'.rb = h.rb)
    (hw : h'.written = h.written) (hp : h'.pos id = h.pos id) : h'.Stands id := by
  refine ⟨?_, ?_, ?_⟩
  · rw [hrb, hw]
    exact hs.filled
  · rw [hrb]
    exact hs.mem
  · rw [hrb, hw, hp]
    exact hs.at_pos

/-! ### What a call does to a reader that stands at its position -/

theorem reads_of_stands (hs : h.Stands id) (hstate : (h.rb.reader id).state_ ≠ READER_DISABLED)
    (n : ℕ) : (h.rb.read id n).Reads h.written h.rb.bufferEnd_ (h.pos id) n := by
  have hf := hs.filled
  unfold PalRingBuffer.read
  rw [hf.offset]
  refine PalRingBufferReader.read_spec hs.at_pos hf.size_pos hf.size_lt63 hf.holds hstate fun _ => ?_
  exact PalRingBufferReader.readFits_of_lt hf.size_lt (Nat.mod_lt _ hf.size_pos)
    (hs.at_pos.offset_lt hf.size_pos)

theorem stands_write (hs : h.Stands id) (d : List UInt8)
    (hover : (h.step (.write d)).overrun id = false) : (h.step (.write d)).Stands id := by
  obtain ⟨hf, hmem, hat⟩ := hs
  have hroom : h.written.length + (h.rb.write d).1 ≤ h.pos id + h.rb.bufferEnd_ := by
    have : ¬h.pos id + h.rb.bufferEnd_ < h.written.length + (h.rb.write d).1 := by
      simpa [step, overrunAt] using (Bool.or_eq_false_iff.mp hover).2
    omega
  have hlen : (h.step (.write d)).written.length = h.written.length + (h.rb.write d).1 := by
    have hd : (h.rb.write d).1 ≤ d.length := (h.rb.sizeToCopy_le d.length).1
    simp [step, hd]
  refine ⟨hf.write d, by simpa [step] using hmem, ?_⟩
  rw [hlen]
  simpa [step] using PalRingBuffer.At.write hf.size_lt63 hmem hat d hroom

/-- A reader keeps its place when another one moves, and is at the place asked for when it is the
one that moves. -/
theorem stands_move (hs : h.Stands id) {i : ReaderId} {rd : PalRingBufferReader} {p : ℕ}
    (hat : i = id → rd.At h.rb.bufferEnd_ h.written.length p) : (h.move i rd p).Stands id := by
  refine ⟨⟨hs.filled.size_pos, hs.filled.size_lt, hs.filled.offset, hs.filled.holds⟩, hs.mem, ?_⟩
  rcases eq_or_ne id i with rfl | hne
  · simpa [move, PalRingBuffer.setReader] using hat rfl
  · simpa [move, PalRingBuffer.setReader, hne] using hs.at_pos

theorem stands_read (hs : h.Stands id) (i : ReaderId) (n : ℕ) :
    (h.step (.read i n)).Stands id := by
  have hmove : (h.move i (h.rb.read i n).rd (h.pos i + (h.rb.read i n).ret.toNat)).Stands id := by
    refine stands_move hs ?_
    rintro rfl
    by_cases hstate : (h.rb.reader i).state_ = READER_DISABLED
    · have hres : h.rb.read i n = ⟨-EINVAL, [], h.rb.reader i⟩ :=
        PalRingBufferReader.read_disabled hstate _ _ n
      rw [hres]
      simpa [EINVAL] using hs.at_pos
    · obtain ⟨c, -, hret, -, hat, -⟩ := reads_of_stands hs hstate n
      rw [hret]
      exact hat
  exact hmove.congr rfl rfl rfl

theorem step_read_returned (h : Hist) (id : ReaderId) (n : ℕ) :
    (h.step (.read id n)).returned id =
      h.returned id ++ (h.rb.read id n).bytes.take (h.rb.read id n).ret.toNat :=
  Function.update_self ..

theorem step_read_reader (h : Hist) (id : ReaderId) (n : ℕ) :
    (h.step (.read id n)).rb.reader id = (h.rb.read id n).rd :=
  Function.update_self ..

theorem step_read_pos (h : Hist) (id : ReaderId) (n : ℕ) :
    (h.step (.read id n)).pos id = h.pos id + (h.rb.read id n).ret.toNat :=
  Function.update_self ..

theorem stands_updateState (hs : h.Stands id) (i : ReaderId)
    (state : pal_ring_buffer_reader_state) : (h.step (.updateState i state)).Stands id :=
  stands_move hs fun hi => hi ▸ hs.at_pos.congr rfl rfl

theorem stands_advanceReadOffset (hs : h.Stands id) {i : ReaderId} {n : ℕ}
    (hfit : i = id → n = 0 ∨ n < (h.rb.reader id).unreadSize_) :
    (h.step (.advanceReadOffset i n)).Stands id := by
  refine stands_move hs ?_
  rintro rfl
  obtain ⟨hle, hunread, hroom, hoff⟩ := hs.at_pos
  have hlt := hs.filled.size_lt
  have hr := hs.at_pos.offset_lt hs.filled.size_pos
  have hn := hfit rfl
  refine ⟨by omega, ?_, by omega, ?_⟩
  · simp only [PalRingBufferReader.advanceReadOffset]
    split_ifs <;> omega
  · simp only [PalRingBufferReader.advanceReadOffset]
    rw [size64_of_lt (by omega), hoff, Nat.mod_add_mod]

theorem stands_resetReader (hs : h.Stands id) {i : ReaderId} (hfit : i = id → h.written = []) :
    (h.step (.resetReader i)).Stands id := by
  refine stands_move hs ?_
  intro hi
  rw [hfit hi]
  exact ⟨le_rfl, rfl, Nat.zero_le _, (Nat.zero_mod _).symm⟩

/-- The configurations that leave a reader at the start of its keyword: it has not read and the
keyword starts before its last unread byte, or it stands there already and the ring is not full. -/
def KwdFits (h : Hist) (id : ReaderId) (sz : ℕ) : Prop :=
  let unread := (h.rb.reader id).unreadSize_
  (h.pos id = 0 ∧ sz < unread ∧ unread < sz + h.rb.bufferEnd_) ∨
    (h.pos id = sz ∧ unread ≤ sz ∧ unread < h.rb.bufferEnd_) ∨
    (h.written.length = sz ∧ unread = h.rb.bufferEnd_)

theorem stands_updateKwdConfig (hs : h.Stands id) {s : StreamId} {readers : List ReaderId}
    {startIdx endIdx preRoll : ℕ}
    (hfit : id ∈ readers → KwdFits h id (PalRingBuffer.kwdSkip startIdx preRoll)) :
    (h.step (.updateKwdConfig s readers startIdx endIdx preRoll)).Stands id := by
  obtain ⟨hf, hmem, hat⟩ := hs
  refine ⟨⟨hf.size_pos, hf.size_lt, hf.offset, hf.holds⟩, hmem, ?_⟩
  by_cases hid : id ∈ readers
  · obtain ⟨hle, hunread, hroom, -⟩ := hat
    have hsz := hf.size_pos
    have hrd : (h.step (.updateKwdConfig s readers startIdx endIdx preRoll)).rb.reader id =
        (h.rb.reader id).updateKwdConfig h.rb.bufferEnd_
          (PalRingBuffer.kwdSkip startIdx preRoll) := if_pos hid
    have hp : (h.step (.updateKwdConfig s readers startIdx endIdx preRoll)).pos id =
        PalRingBuffer.kwdSkip startIdx preRoll := if_pos hid
    rw [hrd, hp]
    have hk := hfit hid
    unfold KwdFits at hk
    set sz := PalRingBuffer.kwdSkip startIdx preRoll
    simp only at hk
    unfold PalRingBufferReader.updateKwdConfig
    rcases hk with ⟨hpos, hlt, hroom'⟩ | ⟨hpos, hge, hlt⟩ | ⟨hlen, hfull⟩
    · refine ⟨by show sz ≤ h.written.length; omega, ?_,
        by show h.written.length ≤ sz + h.rb.bufferEnd_; omega, rfl⟩
      simp only
      rw [if_pos hlt, Nat.mod_eq_of_lt (by omega), hunread, hpos]
      rfl
    · refine ⟨by show sz ≤ h.written.length; omega, ?_,
        by show h.written.length ≤ sz + h.rb.bufferEnd_; omega, rfl⟩
      simp only
      rw [if_neg (by omega), Nat.mod_eq_of_lt hlt, hunread, hpos]
      rfl
    · refine ⟨by show sz ≤ h.written.length; omega, ?_,
        by show h.written.length ≤ sz + h.rb.bufferEnd_; omega, rfl⟩
      simp only
      rw [if_neg (by omega), hfull, Nat.mod_self]
      show 0 = h.written.length - sz
      omega
  · have hrd : (h.step (.updateKwdConfig s readers startIdx endIdx preRoll)).rb.reader id =
        h.rb.reader id := if_neg hid
    have hp : (h.step (.updateKwdConfig s readers startIdx endIdx preRoll)).pos id =
        h.pos id := if_neg hid
    rw [hrd, hp]
    exact hat

/-! ### Writes that fit -/

/-- The ring has room for each of the writes, one after the other. -/
def HasRoom (h : Hist) : List (List UInt8) → Prop
  | [] => True
  | d :: ds => d.length ≤ h.rb.getFreeSize ∧ HasRoom (h.step (.write d)) ds

theorem step_write_of_room {d : List UInt8} (hd : d.length ≤ h.rb.getFreeSize) :
    (h.step (.write d)).written = h.written ++ d := by
  have hall : (h.rb.write d).1 = d.length := if_pos hd
  simp [step, hall]

theorem written_of_hasRoom {h h' : Hist} {ds : List (List UInt8)} (hroom : h.HasRoom ds)
    (hrun : h.runs (ds.map .write) = some h') : h'.written = h.written ++ ds.flatten := by
  induction ds generalizing h with
  | nil =>
    cases hrun
    simp
  | cons d ds ih =>
    have hnext : (h.step (.write d)).runs (ds.map .write) = some h' := hrun
    rw [ih hroom.2 hnext, step_write_of_room hroom.1, List.append_assoc, List.flatten_cons]

/-! ### A ring that was just reset -/

/-- A ring to which nothing was written and whose readers are all at its start. -/
structure Fresh (rb : PalRingBuffer) : Prop where
  size_pos : 0 < rb.bufferEnd_
  size_lt : rb.bufferEnd_ < 2 ^ 31
  offset : rb.writeOffset_ = 0
  reader : ∀ i ∈ rb.readers_, (rb.reader i).unreadSize_ = 0 ∧ (rb.reader i).readOffset_ = 0

theorem Fresh.filled {rb : PalRingBuffer} (hf : Fresh rb) : rb.Filled [] :=
  ⟨hf.size_pos, hf.size_lt, by rw [hf.offset]; exact (Nat.zero_mod _).symm, holds_nil _ _⟩

theorem Fresh.stands {rb : PalRingBuffer} (hf : Fresh rb) (hid : id ∈ rb.readers_) :
    (start rb).Stands id := by
  obtain ⟨hu, hr⟩ := hf.reader id hid
  exact ⟨hf.filled, hid, ⟨le_rfl, hu, Nat.zero_le _, hr.trans (Nat.zero_mod _).symm⟩⟩

theorem fresh_reset {rb : PalRingBuffer} (hpos : 0 < rb.bufferEnd_) (hlt : rb.bufferEnd_ < 2 ^ 31) :
    Fresh rb.reset := by
  refine ⟨hpos, hlt, rfl, fun i hi => ?_⟩
  have hrd : rb.reset.reader i = .init := if_pos hi
  rw [hrd]
  exact ⟨rfl, rfl⟩

theorem Fresh.resetReaders {rb : PalRingBuffer} (hf : Fresh rb) (ids : List ReaderId) :
    Fresh (rb.resetReaders ids) := by
  refine ⟨hf.size_pos, hf.size_lt, hf.offset, fun i hi => ?_⟩
  by_cases hmem : i ∈ ids
  · have hrd : (rb.resetReaders ids).reader i = .init := if_pos hmem
    rw [hrd]
    exact ⟨rfl, rfl⟩
  · have hrd : (rb.resetReaders ids).reader i = rb.reader i := if_neg hmem
    rw [hrd]
    exact hf.reader i hi

theorem Fresh.newReader {rb : PalRingBuffer} (hf : Fresh rb) (new : PalRingBuffer.New) :
    Fresh (rb.newReader new) := by
  refine ⟨hf.size_pos, hf.size_lt, hf.offset, fun i hi => ?_⟩
  rcases eq_or_ne i (new rb.readers_).1 with rfl | hne
  · simp [PalRingBuffer.newReader, PalRingBuffer.setReader, PalRingBufferReader.init]
  · have hi' : i ∈ rb.readers_ := by
      simpa [PalRingBuffer.newReader, hne] using hi
    simpa [PalRingBuffer.newReader, PalRingBuffer.setReader, hne] using hf.reader i hi'

theorem Fresh.newReaders {rb : PalRingBuffer} (hf : Fresh rb) (new : PalRingBuffer.New) (n : ℕ) :
    Fresh (PalRingBuffer.newReaders new n rb) := by
  induction n generalizing rb with
  | zero => exact hf
  | succ n ih => exact ih (hf.newReader new)

/-- A ring that the engine has set up for a stream is fresh. -/
theorem fresh_createBuffer {rb : PalRingBuffer} (hpos : 0 < rb.bufferEnd_)
    (hlt : rb.bufferEnd_ < 2 ^ 31) {size engine_size : ℕ} (hsize : size < 2 ^ 31)
    {reader_list : List ReaderId} {mem : ℕ → UInt8} {new : PalRingBuffer.New}
    (hret : (rb.createBuffer size engine_size reader_list mem new).1 = 0) :
    Fresh (rb.createBuffer size engine_size reader_list mem new).2 := by
  unfold PalRingBuffer.createBuffer at hret ⊢
  by_cases h0 : size = 0 ∨ engine_size = 0
  · rw [if_pos h0] at hret
    simp [EINVAL] at hret
  have hreset := fresh_reset hpos hlt
  have hsized : Fresh (if rb.reset.bufferEnd_ ≠ size then rb.reset.resizeRingBuffer size mem
      else rb.reset) := by
    split_ifs with hne
    · exact ⟨by show 0 < size; omega, hsize, hreset.offset, hreset.reader⟩
    · exact hreset
  have hreaders := hsized.resetReaders reader_list
  rw [if_neg h0]
  by_cases hlen : engine_size ≠ reader_list.length
  · simp only [if_pos hlen]
    exact hreaders.newReaders new engine_size
  · simp only [if_neg hlen]
    exact hreaders

/-- A refused set-up leaves the ring as it was. -/
theorem createBuffer_refused {rb : PalRingBuffer} {size engine_size : ℕ}
    {reader_list : List ReaderId} {mem : ℕ → UInt8} {new : PalRingBuffer.New}
    (hret : (rb.createBuffer size engine_size reader_list mem new).1 ≠ 0) :
    (rb.createBuffer size engine_size reader_list mem new).2 = rb := by
  unfold PalRingBuffer.createBuffer at hret ⊢
  split_ifs at hret ⊢ <;> first | rfl | exact absurd rfl hret

end Hist

end AudioReachPal.Ring
