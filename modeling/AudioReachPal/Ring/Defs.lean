import AudioReachPal.Lib.Circular
import AudioReachPal.Lib.MachineInt
import AudioReachPal.Lib.Runs
import AudioReachPal.Types

/-!
# The ring buffer of the sound trigger engine

`PalRingBuffer` and its readers. The bytes from `buffer_` on are a function from offsets, so that
an access past `bufferEnd_` is an access to whatever lies there; the readers are pointers
(`ReaderId`) into the function `reader`, and `readers_` lists the ones the ring created, each at
a pointer of its own. Offsets and sizes are `size_t`: an operation that can leave 64 bits is
written as the wrapping one. The locals that the source declares `int32_t` are converted as the
source converts them.
-/

namespace AudioReachPal.Ring

open AudioReachPal.Lib

/-- A pointer to a `PalRingBufferReader`. -/
abbrev ReaderId := ℕ

inductive pal_ring_buffer_reader_state where
  | READER_DISABLED
  | READER_ENABLED
  | READER_PREPARED
  deriving DecidableEq, Repr

open pal_ring_buffer_reader_state

structure kwdConfig where
  startIdx : ℕ
  endIdx : ℕ
  ftrtSize : ℕ

structure PalRingBufferReader where
  unreadSize_ : ℕ
  readOffset_ : ℕ
  state_ : pal_ring_buffer_reader_state
  requestedSize_ : ℕ

/-- The reader `newReader` constructs. -/
def PalRingBufferReader.init : PalRingBufferReader := ⟨0, 0, READER_DISABLED, 0⟩

structure PalRingBuffer where
  buffer_ : ℕ → UInt8
  kwCfg_ : StreamId → kwdConfig
  writeOffset_ : ℕ
  bufferEnd_ : ℕ
  readers_ : List ReaderId
  reader : ReaderId → PalRingBufferReader
  /-- Each reader was allocated on its own. -/
  nodup_readers : readers_.Nodup

namespace PalRingBufferReader

/-- What a call of `read` returns, the bytes it put into `readBuffer`, and the reader after it. -/
structure ReadResult where
  ret : ℤ
  bytes : List UInt8
  rd : PalRingBufferReader

/-- The branch of `read` taken when `writeOffset_` leads `readOffset_`. -/
def readLeading (rd : PalRingBufferReader) (buffer_ : ℕ → UInt8) (writeOffset_ bufferSize : ℕ) :
    ReadResult :=
  let unread := sub64 writeOffset_ rd.readOffset_
  if bufferSize ≥ unread then
    ⟨int32 unread, bytesAt buffer_ rd.readOffset_ unread,
      { rd with readOffset_ := size64 (rd.readOffset_ + unread), unreadSize_ := 0 }⟩
  else
    let off := size64 (rd.readOffset_ + bufferSize)
    ⟨int32 bufferSize, bytesAt buffer_ rd.readOffset_ bufferSize,
      { rd with readOffset_ := off, unreadSize_ := sub64 writeOffset_ off }⟩

/-- The branch of `read` taken when `readOffset_` leads `writeOffset_`, or both are equal. The
locals `i`, `freeClientSize` and `readSize` are `int32_t`. -/
def readTrailing (rd : PalRingBufferReader) (buffer_ : ℕ → UInt8)
    (writeOffset_ bufferEnd_ bufferSize : ℕ) : ReadResult :=
  let i := int32 (sub64 bufferEnd_ rd.readOffset_)
  if bufferSize ≥ int32ToSize i then
    let head := bytesAt buffer_ rd.readOffset_ (int32ToSize i)
    let freeClientSize := int32ToSize (int32 (int32 bufferSize - i))
    let unread := writeOffset_
    if freeClientSize > unread then
      ⟨int32 (i + unread), head ++ bytesAt buffer_ 0 unread,
        { rd with readOffset_ := unread, unreadSize_ := 0 }⟩
    else
      ⟨int32 (i + int32 freeClientSize), head ++ bytesAt buffer_ 0 freeClientSize,
        { rd with readOffset_ := freeClientSize,
                  unreadSize_ := sub64 writeOffset_ freeClientSize }⟩
  else
    let off := size64 (rd.readOffset_ + bufferSize)
    ⟨int32 bufferSize, bytesAt buffer_ rd.readOffset_ bufferSize,
      { rd with readOffset_ := off,
                unreadSize_ := size64 (sub64 bufferEnd_ off + writeOffset_) }⟩

/-- `PalRingBufferReader::read`. -/
def read (rd : PalRingBufferReader) (buffer_ : ℕ → UInt8)
    (writeOffset_ bufferEnd_ bufferSize : ℕ) : ReadResult :=
  if rd.state_ = READER_DISABLED then ⟨-EINVAL, [], rd⟩
  else
    let rd := if rd.state_ = READER_PREPARED then { rd with state_ := READER_ENABLED } else rd
    if rd.unreadSize_ = 0 then ⟨0, [], rd⟩
    else if writeOffset_ > rd.readOffset_ then rd.readLeading buffer_ writeOffset_ bufferSize
    else rd.readTrailing buffer_ writeOffset_ bufferEnd_ bufferSize

/-- `PalRingBufferReader::advanceReadOffset`. -/
def advanceReadOffset (rd : PalRingBufferReader) (bufferEnd_ advanceSize : ℕ) :
    PalRingBufferReader :=
  { rd with
    readOffset_ := size64 (rd.readOffset_ + advanceSize) % bufferEnd_
    unreadSize_ :=
      if rd.unreadSize_ > advanceSize then rd.unreadSize_ - advanceSize else rd.unreadSize_ }

/-- `PalRingBufferReader::updateState`. -/
def updateState (rd : PalRingBufferReader) (state : pal_ring_buffer_reader_state) :
    PalRingBufferReader :=
  { rd with state_ := state }

/-- `PalRingBufferReader::reset`. -/
def reset (_ : PalRingBufferReader) : PalRingBufferReader := .init

/-- What the loop of `updateKwdConfig` does to one reader of the stream. -/
def updateKwdConfig (rd : PalRingBufferReader) (bufferEnd_ sz : ℕ) : PalRingBufferReader :=
  let unread := if rd.unreadSize_ > sz then rd.unreadSize_ - sz else rd.unreadSize_
  { rd with unreadSize_ := unread % bufferEnd_, readOffset_ := sz % bufferEnd_ }

end PalRingBufferReader

namespace PalRingBuffer

/-- The constructor `PalRingBuffer(bufferSize)`; `mem` is what the allocation holds. -/
def new (bufferSize : ℕ) (mem : ℕ → UInt8) : PalRingBuffer where
  buffer_ := mem
  kwCfg_ := fun _ => ⟨0, 0, 0⟩
  writeOffset_ := 0
  bufferEnd_ := bufferSize
  readers_ := []
  reader := fun _ => .init
  nodup_readers := List.nodup_nil

variable (rb : PalRingBuffer)

/-- The ring with the reader `id` points to replaced. -/
def setReader (id : ReaderId) (rd : PalRingBufferReader) : PalRingBuffer :=
  { rb with reader := Function.update rb.reader id rd }

/-- The loop of `getFreeSize` over the readers that are left. -/
def freeSizeFrom (freeSize : ℕ) : List ReaderId → ℕ
  | [] => freeSize
  | id :: ids =>
    if (rb.reader id).state_ = READER_ENABLED then
      freeSizeFrom (min freeSize (sub64 rb.bufferEnd_ (rb.reader id).unreadSize_)) ids
    else freeSizeFrom freeSize ids

/-- `PalRingBuffer::getFreeSize`. -/
def getFreeSize : ℕ := rb.freeSizeFrom rb.bufferEnd_ rb.readers_

/-- The loop of `updateUnReadSize` over the readers that are left. -/
def addUnread (writtenSize : ℕ) :
    List ReaderId → (ReaderId → PalRingBufferReader) → ReaderId → PalRingBufferReader
  | [], reader => reader
  | id :: ids, reader =>
    addUnread writtenSize ids (Function.update reader id
      { reader id with unreadSize_ := size64 ((reader id).unreadSize_ + writtenSize) })

/-- `PalRingBuffer::updateUnReadSize`. -/
def updateUnReadSize (writtenSize : ℕ) : PalRingBuffer :=
  { rb with reader := addUnread writtenSize rb.readers_ rb.reader }

/-- The copy of the first `sizeToCopy` bytes of `writeBuffer` into the ring, in two parts when it
wraps around, and the offset it leaves. -/
def copyIn (writeBuffer : List UInt8) (sizeToCopy : ℕ) : PalRingBuffer :=
  if sizeToCopy = 0 then rb
  else if size64 (rb.writeOffset_ + sizeToCopy) > rb.bufferEnd_ then
    let i := sub64 rb.bufferEnd_ rb.writeOffset_
    let rest := sub64 sizeToCopy i
    { rb with
      buffer_ := storeAt (storeAt rb.buffer_ rb.writeOffset_ (writeBuffer.take i)) 0
        ((writeBuffer.drop i).take rest)
      writeOffset_ := rest }
  else
    { rb with
      buffer_ := storeAt rb.buffer_ rb.writeOffset_ (writeBuffer.take sizeToCopy)
      writeOffset_ := size64 (rb.writeOffset_ + sizeToCopy) }

/-- The size `write` copies: all of it, or what is free. -/
def sizeToCopy (writeSize : ℕ) : ℕ :=
  if writeSize ≤ rb.getFreeSize then writeSize else rb.getFreeSize

/-- `PalRingBuffer::write`: the written size, and the ring after the call. -/
def write (writeBuffer : List UInt8) : ℕ × PalRingBuffer :=
  let writtenSize := rb.sizeToCopy writeBuffer.length
  let rb' := (rb.copyIn writeBuffer writtenSize).updateUnReadSize writtenSize
  (writtenSize, { rb' with writeOffset_ := rb'.writeOffset_ % rb'.bufferEnd_ })

/-- `PalRingBufferReader::read` on the reader `id` of the ring. -/
def read (id : ReaderId) (bufferSize : ℕ) : PalRingBufferReader.ReadResult :=
  (rb.reader id).read rb.buffer_ rb.writeOffset_ rb.bufferEnd_ bufferSize

/-- The bytes of the keyword start that come before its pre-roll. -/
def kwdSkip (startIdx preRoll : ℕ) : ℕ := if startIdx ≥ preRoll then startIdx - preRoll else 0

/-- `PalRingBuffer::updateKwdConfig` for the stream `s`, whose readers are `readers`. -/
def updateKwdConfig (s : StreamId) (readers : List ReaderId) (startIdx endIdx preRoll : ℕ) :
    PalRingBuffer :=
  let sz := kwdSkip startIdx preRoll
  { rb with
    reader := fun id =>
      if id ∈ readers then (rb.reader id).updateKwdConfig rb.bufferEnd_ sz else rb.reader id
    kwCfg_ := Function.update rb.kwCfg_ s ⟨startIdx - sz, sub32 endIdx sz, endIdx⟩ }

/-- The readers of `ids` reset, one by one. -/
def resetReaders (ids : List ReaderId) : PalRingBuffer :=
  { rb with reader := fun id => if id ∈ ids then (rb.reader id).reset else rb.reader id }

/-- `PalRingBuffer::reset`. -/
def reset : PalRingBuffer :=
  { rb with kwCfg_ := fun _ => ⟨0, 0, 0⟩, writeOffset_ := 0 }.resetReaders rb.readers_

/-- `PalRingBuffer::resizeRingBuffer`; `mem` is what the new allocation holds. -/
def resizeRingBuffer (bufferSize : ℕ) (mem : ℕ → UInt8) : PalRingBuffer :=
  { rb with buffer_ := mem, bufferEnd_ := bufferSize }

/-- An allocator: a pointer that is none of the ones in use. -/
abbrev New := (used : List ReaderId) → { id : ReaderId // id ∉ used }

/-- `PalRingBuffer::newReader`. -/
def newReader (new : New) : PalRingBuffer :=
  { rb.setReader (new rb.readers_) .init with
    readers_ := rb.readers_ ++ [(new rb.readers_).1]
    nodup_readers := by
      simpa [List.nodup_append, rb.nodup_readers] using
        fun a ha => ne_of_mem_of_not_mem ha (new rb.readers_).2 }

/-- The loop of `createBuffer` that makes the readers of a stream. -/
def newReaders (new : New) : ℕ → PalRingBuffer → PalRingBuffer
  | 0, rb => rb
  | n + 1, rb => newReaders new n (rb.newReader new)

/-- `SoundTriggerEngineGsl::CreateBuffer` when the engine has a ring: it is reset, resized when
the size changed, and given new readers when the stream's `reader_list` has not one reader for
each engine. -/
def createBuffer (buffer_size engine_size : ℕ) (reader_list : List ReaderId) (mem : ℕ → UInt8)
    (new : New) : ℤ × PalRingBuffer :=
  if buffer_size = 0 ∨ engine_size = 0 then (-EINVAL, rb)
  else
    let rb := rb.reset
    let rb := if rb.bufferEnd_ ≠ buffer_size then rb.resizeRingBuffer buffer_size mem else rb
    let rb := rb.resetReaders reader_list
    if engine_size ≠ reader_list.length then (0, newReaders new engine_size rb)
    else (0, rb)

end PalRingBuffer

end AudioReachPal.Ring
