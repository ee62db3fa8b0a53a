import AudioReachPal.Ring.History

/-!
# Enabled readers are not overrun

A write takes what the enabled readers leave free, so that the bytes a reader was not given yet are
safe from the moment it is enabled on, if the ring still has them all then. A reader that is not
enabled counts on and is lapped: enabling it by `updateState` leaves an unread size larger than the
ring, so that `bufferEnd_ - unreadSize_` wraps around and protects nothing; and the first `read` of a
prepared one counts its unread bytes anew from where it stands, past bytes that it was never given.
In a ring of `2 ^ 31` bytes or more a read can lose bytes to the `int32_t` locals.
-/

namespace AudioReachPal.Ring

open AudioReachPal.Lib
open pal_ring_buffer_reader_state

namespace Hist

variable {h : Hist} {id : ReaderId}

/-! ### The law -/

/-- **No enabled reader is overrun.** What an enabled reader has not read fits into the ring, what it
was given is the front of what was written, and a write puts nothing in the place of a byte that it
was not given. -/
def NotOverrun (h : Hist) : Prop :=
  ∀ id ∈ h.rb.readers_, (h.rb.reader id).state_ = READER_ENABLED →
    (h.rb.reader id).unreadSize_ ≤ h.rb.bufferEnd_ ∧ h.returned id <+: h.written ∧
      ∀ d, ∀ p, (h.returned id).length ≤ p → p < h.written.length →
        h.written[p]? = some ((h.rb.write d).2.buffer_ (p % h.rb.bufferEnd_))

/-- No more was written since the reader was given its last byte than the ring holds. -/
def NotLapped (h : Hist) (id : ReaderId) : Prop :=
  h.written.length ≤ (h.returned id).length + h.rb.bufferEnd_

/-- The calls that write, read or change the state of a reader. -/
def Transfers : Op → Prop
  | .write _ | .read _ _ | .updateState _ _ => True
  | _ => False

/-- **What keeps the law.** A reader of the ring that `updateState` or a first read enables has not
been lapped, and a read fits into its `int32_t` locals. -/
def KeepsFits (h : Hist) : Op → Prop
  | .updateState id state => id ∈ h.rb.readers_ → state = READER_ENABLED → h.NotLapped id
  | .read id n => id ∈ h.rb.readers_ →
    ((h.rb.reader id).state_ = READER_PREPARED → h.NotLapped id) ∧
      ((h.rb.reader id).state_ ≠ READER_DISABLED → (h.rb.reader id).unreadSize_ ≠ 0 →
        (h.rb.reader id).ReadFits h.rb.writeOffset_ h.rb.bufferEnd_ n)
  | _ => True

/-! ### Where the readers stand -/

/-- The reader was given the front of what was written, and stands behind that. What it counts is
what it was not given, in 64 bits. -/
structure Behind (h : Hist) (id : ReaderId) : Prop where
  given : h.returned id <+: h.written
  unread : (h.rb.reader id).unreadSize_ = size64 (h.written.length - (h.returned id).length)
  offset : (h.rb.reader id).readOffset_ = (h.returned id).length % h.rb.bufferEnd_

/-- The ring holds the last bytes written; its readers stand behind what they were given, and no
enabled one was lapped. -/
structure Safe (h : Hist) : Prop where
  size_pos : 0 < h.rb.bufferEnd_
  size_lt : h.rb.bufferEnd_ < 2 ^ 63
  offset : h.rb.writeOffset_ = h.written.length % h.rb.bufferEnd_
  holds : Holds h.rb.buffer_ h.rb.bufferEnd_ h.written
  behind : ∀ id ∈ h.rb.readers_, h.Behind id
  enabled : ∀ id ∈ h.rb.readers_, (h.rb.reader id).state_ = READER_ENABLED → h.NotLapped id

theorem Safe.given_le (hs : h.Safe) (hid : id ∈ h.rb.readers_) :
    (h.returned id).length ≤ h.written.length := (hs.behind id hid).given.length_le

/-- A reader that was not lapped stands at the position of its next byte. -/
theorem Safe.at_returned (hs : h.Safe) (hid : id ∈ h.rb.readers_) (hroom : h.NotLapped id) :
    (h.rb.reader id).At h.rb.bufferEnd_ h.written.length (h.returned id).length := by
  obtain ⟨-, hunread, hoff⟩ := hs.behind id hid
  have hle := hs.given_le hid
  have hlt := hs.size_lt
  unfold NotLapped at hroom
  rw [size64_of_lt (by omega)] at hunread
  exact ⟨hle, hunread, hroom, hoff⟩

/-- A write leaves room for the bytes that an enabled reader was not given. -/
theorem Safe.write_room (hs : h.Safe) (hid : id ∈ h.rb.readers_)
    (hstate : (h.rb.reader id).state_ = READER_ENABLED) (d : List UInt8) :
    h.written.length + (h.rb.write d).1 ≤ (h.returned id).length + h.rb.bufferEnd_ :=
  PalRingBuffer.write_room_of_enabled hs.size_lt hid
    (hs.at_returned hid (hs.enabled id hid hstate)) hstate d

theorem Safe.notOverrun (hs : h.Safe) : h.NotOverrun := by
  intro id hid hstate
  have hat := hs.at_returned hid (hs.enabled id hid hstate)
  have hunread := hat.unread
  have hroom := hat.room
  refine ⟨by omega, (hs.behind id hid).given, fun d p hp hlt => ?_⟩
  have hfree := hs.write_room hid hstate d
  have hd : (h.rb.write d).1 ≤ d.length := (h.rb.sizeToCopy_le d.length).1
  have hmem := (PalRingBuffer.holds_write hs.size_pos hs.size_lt hs.offset hs.holds d).1
  have hlen : (h.written ++ d.take (h.rb.write d).1).length =
      h.written.length + (h.rb.write d).1 := by
    rw [List.length_append, List.length_take_of_le hd]
  rw [← hmem p (by omega) (by omega), List.getElem?_append_left hlt]

/-! ### Step by step -/

theorem Safe.write (hs : h.Safe) (d : List UInt8) : (h.step (.write d)).Safe := by
  have hd : (h.rb.write d).1 ≤ d.length := (h.rb.sizeToCopy_le d.length).1
  have hlen : (h.written ++ d.take (h.rb.write d).1).length =
      h.written.length + (h.rb.write d).1 := by
    rw [List.length_append, List.length_take_of_le hd]
  obtain ⟨hmem, hoff⟩ := PalRingBuffer.holds_write hs.size_pos hs.size_lt hs.offset hs.holds d
  have hreader : ∀ id ∈ h.rb.readers_, (h.rb.write d).2.reader id = { h.rb.reader id with
      unreadSize_ := size64 ((h.rb.reader id).unreadSize_ + (h.rb.write d).1) } := by
    intro id hid
    rw [PalRingBuffer.write_reader, if_pos hid]
  refine ⟨?_, ?_, ?_, ?_, fun id hid => ?_, fun id hid hstate => ?_⟩
  · exact (PalRingBuffer.write_bufferEnd_ d).symm ▸ hs.size_pos
  · exact (PalRingBuffer.write_bufferEnd_ d).symm ▸ hs.size_lt
  · show _ = (h.written ++ d.take (h.rb.write d).1).length % (h.rb.write d).2.bufferEnd_
    rw [PalRingBuffer.write_bufferEnd_, hlen]
    exact hoff
  · show Holds _ (h.rb.write d).2.bufferEnd_ _
    rw [PalRingBuffer.write_bufferEnd_]
    exact hmem
  · change id ∈ (h.rb.write d).2.readers_ at hid
    rw [PalRingBuffer.write_readers_] at hid
    obtain ⟨hgiven, hunread, hoff⟩ := hs.behind id hid
    have hle := hgiven.length_le
    refine ⟨hgiven.trans (List.prefix_append ..), ?_, ?_⟩
    · show ((h.rb.write d).2.reader id).unreadSize_ =
        size64 ((h.written ++ d.take (h.rb.write d).1).length - (h.returned id).length)
      rw [hreader id hid, hlen, Nat.sub_add_comm hle]
      show size64 ((h.rb.reader id).unreadSize_ + (h.rb.write d).1) = _
      rw [hunread]
      exact Nat.mod_add_mod ..
    · show ((h.rb.write d).2.reader id).readOffset_ = _ % (h.rb.write d).2.bufferEnd_
      rw [hreader id hid, PalRingBuffer.write_bufferEnd_]
      exact hoff
  · change id ∈ (h.rb.write d).2.readers_ at hid
    rw [PalRingBuffer.write_readers_] at hid
    change ((h.rb.write d).2.reader id).state_ = READER_ENABLED at hstate
    rw [hreader id hid] at hstate
    show (h.written ++ d.take (h.rb.write d).1).length ≤
      (h.returned id).length + (h.rb.write d).2.bufferEnd_
    rw [hlen, PalRingBuffer.write_bufferEnd_]
    exact hs.write_room hid hstate d

variable (id) in
/-- Another reader's place does not change. -/
theorem Safe.setReader {h' : Hist} (hs : h.Safe) {rd : PalRingBufferReader}
    (hrb : h'.rb = h.rb.setReader id rd) (hw : h'.written = h.written)
    (hret : ∀ i ≠ id, h'.returned i = h.returned i)
    (hrd : id ∈ h.rb.readers_ → h'.Behind id ∧ (rd.state_ = READER_ENABLED → h'.NotLapped id)) :
    h'.Safe := by
  have hself : h'.rb.reader id = rd := by
    rw [hrb]
    exact Function.update_self ..
  have hother : ∀ i ≠ id, h'.rb.reader i = h.rb.reader i := by
    intro i hne
    rw [hrb]
    exact Function.update_of_ne hne ..
  have hmem : ∀ i ∈ h'.rb.readers_, i ∈ h.rb.readers_ := by
    intro i hi
    rw [hrb] at hi
    exact hi
  have hend : h'.rb.bufferEnd_ = h.rb.bufferEnd_ := by
    rw [hrb]
    rfl
  refine ⟨hend ▸ hs.size_pos, hend ▸ hs.size_lt, ?_, ?_, fun i hi => ?_, fun i hi hstate => ?_⟩
  · rw [hrb, hw]
    exact hs.offset
  · rw [hrb, hw]
    exact hs.holds
  · rcases eq_or_ne i id with rfl | hne
    · exact (hrd (hmem i hi)).1
    · obtain ⟨hgiven, hunread, hoff⟩ := hs.behind i (hmem i hi)
      refine ⟨?_, ?_, ?_⟩
      · rw [hret i hne, hw]
        exact hgiven
      · rw [hother i hne, hret i hne, hw]
        exact hunread
      · rw [hother i hne, hret i hne, hend]
        exact hoff
  · rcases eq_or_ne i id with rfl | hne
    · rw [hself] at hstate
      exact (hrd (hmem i hi)).2 hstate
    · rw [hother i hne] at hstate
      have hroom := hs.enabled i (hmem i hi) hstate
      unfold NotLapped at hroom ⊢
      rw [hret i hne, hw, hend]
      exact hroom

theorem Safe.updateState (hs : h.Safe) {state : pal_ring_buffer_reader_state}
    (hok : h.KeepsFits (.updateState id state)) : (h.step (.updateState id state)).Safe := by
  refine hs.setReader id rfl rfl (fun _ _ => rfl) fun hid => ⟨?_, fun hstate => ?_⟩
  · obtain ⟨hgiven, hunread, hoff⟩ := hs.behind id hid
    have hrd : (h.step (.updateState id state)).rb.reader id =
        (h.rb.reader id).updateState state := Function.update_self ..
    exact ⟨hgiven, by rw [hrd]; exact hunread, by rw [hrd]; exact hoff⟩
  · exact hok hid hstate

/-- A read gives the reader the bytes that follow the ones it was given. -/
theorem Safe.read (hs : h.Safe) {n : ℕ} (hok : h.KeepsFits (.read id n)) :
    (h.step (.read id n)).Safe := by
  refine hs.setReader id rfl rfl (fun i hne => Function.update_of_ne hne ..) fun hid => ?_
  have hreturned := step_read_returned h id n
  have hreader := step_read_reader h id n
  obtain ⟨hprepared, hfits⟩ := hok hid
  by_cases hstate : (h.rb.reader id).state_ = READER_DISABLED
  · have hres : h.rb.read id n = ⟨-EINVAL, [], h.rb.reader id⟩ :=
      PalRingBufferReader.read_disabled hstate _ _ n
    obtain ⟨hgiven, hunread, hoff⟩ := hs.behind id hid
    rw [hres, List.take_nil, List.append_nil] at hreturned
    rw [hres] at hreader ⊢
    refine ⟨⟨?_, ?_, ?_⟩, fun henabled => absurd (hstate.symm.trans henabled) (by decide)⟩
    · rw [hreturned]
      exact hgiven
    · rw [hreader, hreturned]
      exact hunread
    · rw [hreader, hreturned]
      exact hoff
  -- the reader was not lapped, so that it reads on from where it stands
  have hroom : h.NotLapped id := by
    cases hst : (h.rb.reader id).state_ with
    | READER_DISABLED => exact absurd hst hstate
    | READER_ENABLED => exact hs.enabled id hid hst
    | READER_PREPARED => exact hprepared hst
  have hat := hs.at_returned hid hroom
  have hreads : (h.rb.read id n).Reads h.written h.rb.bufferEnd_ (h.returned id).length n := by
    have hfits := hfits hstate
    unfold PalRingBuffer.read
    rw [hs.offset] at hfits ⊢
    exact PalRingBufferReader.read_spec hat hs.size_pos hs.size_lt hs.holds hstate hfits
  obtain ⟨c, hc, hret, hbytes, hat', -⟩ := hreads
  have hfront : h.returned id = h.written.take (h.returned id).length :=
    (List.prefix_iff_eq_take.mp (hs.behind id hid).given)
  have hgiven : (h.step (.read id n)).returned id =
      h.written.take ((h.returned id).length + c) := by
    rw [hreturned, hret, hbytes, Int.toNat_natCast, List.take_take, Nat.min_self, List.take_add]
    exact congrArg (· ++ (h.written.drop (h.returned id).length).take c) hfront
  have hlen : ((h.step (.read id n)).returned id).length = (h.returned id).length + c := by
    have hle := hat.le
    rw [hgiven, List.length_take_of_le (by omega)]
  obtain ⟨hle, hunread, hroom', hoff⟩ := hat'
  have hlt := hs.size_lt
  refine ⟨⟨?_, ?_, ?_⟩, fun _ => ?_⟩
  · rw [hgiven]
    exact List.take_prefix ..
  · rw [hreader, hlen, hunread]
    exact (size64_of_lt (by show h.written.length - _ < _; omega)).symm
  · rw [hreader, hlen]
    exact hoff
  · show h.written.length ≤ _ + h.rb.bufferEnd_
    rw [hlen]
    exact hroom'

/-- **Step.** -/
theorem safe_step (hs : h.Safe) {op : Op} (hop : Transfers op) (hok : h.KeepsFits op) :
    (h.step op).Safe := by
  cases op with
  | write d => exact hs.write d
  | read id n => exact hs.read hok
  | updateState id state => exact hs.updateState hok
  | resetReader => exact hop.elim
  | advanceReadOffset => exact hop.elim
  | updateKwdConfig => exact hop.elim
  | reset => exact hop.elim
  | resize => exact hop.elim
  | createBuffer => exact hop.elim

/-! ### Runs -/

/-- A ring of size `N` to which nothing was written; its readers are in any state. -/
structure Unwritten (rb : PalRingBuffer) (N : ℕ) : Prop where
  size : rb.bufferEnd_ = N
  offset : rb.writeOffset_ = 0
  reader : ∀ id ∈ rb.readers_, (rb.reader id).unreadSize_ = 0 ∧ (rb.reader id).readOffset_ = 0

theorem Unwritten.safe {rb : PalRingBuffer} {N : ℕ} (hu : Unwritten rb N) (hN0 : 0 < N)
    (hN : N < 2 ^ 63) : (start rb).Safe := by
  refine ⟨hu.size ▸ hN0, hu.size ▸ hN, ?_, holds_nil _ _, fun id hid => ?_, fun _ _ _ => ?_⟩
  · exact hu.offset.trans (Nat.zero_mod _).symm
  · obtain ⟨hunread, hoff⟩ := hu.reader id hid
    exact ⟨List.prefix_rfl, hunread, hoff.trans (Nat.zero_mod _).symm⟩
  · exact Nat.zero_le _

end Hist

/-- **No enabled reader is overrun.** In every run from an unwritten ring with any readers whose
calls all meet `KeepsFits`, the law holds in the state reached. -/
theorem notOverrun_of_meets {N : ℕ} (hN0 : 0 < N) (hN : N < 2 ^ 63) {rb : PalRingBuffer}
    (hu : Hist.Unwritten rb N) {ops : List Op} {h : Hist} (hops : ∀ op ∈ ops, Hist.Transfers op)
    (hmeets : Meets (fun h op => some (h.step op)) Hist.KeepsFits (Hist.start rb) ops)
    (hrun : (Hist.start rb).runs ops = some h) : h.NotOverrun := by
  have hstep : ∀ (s : Hist) op t, Hist.Transfers op ∧ s.KeepsFits op → s.Safe →
      some (s.step op) = some t → t.Safe := by
    rintro s op _ ⟨hop, hok⟩ hs ⟨⟩
    exact Hist.safe_step hs hop hok
  exact (run_invariant_of_meets hstep (hmeets.and_forall hops) (hu.safe hN0 hN) hrun).notOverrun

theorem nodup_twoReaders : [0, 1].Nodup := by simp

/-- A ring of four bytes with two readers that are not enabled. -/
def fourBytes : PalRingBuffer :=
  { PalRingBuffer.new 4 fun _ => 0 with
    readers_ := [0, 1]
    nodup_readers := nodup_twoReaders }

/-- One reader is enabled by its first read and the other one by `updateState`, with bytes in the
ring that neither was given. The writes then take what both leave free, around the end. -/
theorem notOverrun_prepared : ∃ h : Hist,
    (Hist.start fourBytes).runs [.updateState 0 READER_PREPARED, .write [1, 2, 3], .read 0 2,
      .updateState 1 READER_ENABLED, .write [4, 5, 6], .read 1 4, .write [7, 8, 9]] = some h ∧
      h.written = [1, 2, 3, 4, 7, 8] ∧ h.returned 0 = [1, 2] ∧ h.returned 1 = [1, 2, 3, 4] ∧
      h.NotOverrun := by
  refine ⟨_, rfl, by decide, by decide, by decide, ?_⟩
  have hu : Hist.Unwritten fourBytes 4 := ⟨rfl, rfl, fun _ _ => ⟨rfl, rfl⟩⟩
  refine notOverrun_of_meets (by decide) (by decide) hu ?_ ?_
    (Eq.refl ((Hist.start fourBytes).runs [_, _, _, _, _, _, _]))
  · simp [Hist.Transfers]
  · refine meets_some_cons.mpr ⟨fun _ hstate => absurd hstate (by decide), ?_⟩
    refine meets_some_cons.mpr ⟨trivial, meets_some_cons.mpr ⟨fun _ => ⟨?_, ?_⟩, ?_⟩⟩
    · exact fun _ => (by decide : 3 ≤ 0 + 4)
    · exact fun _ _ => ⟨by decide, by decide, by decide⟩
    refine meets_some_cons.mpr ⟨fun _ _ => (by decide : 3 ≤ 0 + 4), ?_⟩
    refine meets_some_cons.mpr ⟨trivial, meets_some_cons.mpr ⟨fun _ => ⟨?_, ?_⟩, ?_⟩⟩
    · exact fun hstate => absurd hstate (by decide)
    · exact fun _ _ => ⟨by decide, by decide, by decide⟩
    exact meets_some_cons.mpr ⟨trivial, trivial⟩

/-- A reader is lapped before `updateState` enables it: what it counts is more than the ring holds.
Another one is lapped before its first read, which goes past the bytes that are left of what it was
not given; the write that follows overwrites two of them. -/
theorem overrun_lapped :
    (∃ h : Hist, (Hist.start fourBytes).runs [.write [1, 2, 3, 4], .write [5, 6],
      .updateState 0 READER_ENABLED] = some h ∧ (h.rb.reader 0).state_ = READER_ENABLED ∧
      h.rb.bufferEnd_ < (h.rb.reader 0).unreadSize_ ∧ ¬h.NotOverrun) ∧
    ∃ h : Hist, (Hist.start fourBytes).runs [.updateState 0 READER_PREPARED,
      .write [1, 2, 3, 4], .write [5, 6], .read 0 1] = some h ∧
      (h.rb.reader 0).state_ = READER_ENABLED ∧ h.returned 0 = [5] ∧
      h.rb.buffer_ 2 = 3 ∧ (h.rb.write [7, 8, 9]).2.buffer_ 2 = 7 ∧ ¬h.NotOverrun := by
  refine ⟨⟨_, rfl, by decide, by decide, fun hno => ?_⟩,
    ⟨_, rfl, by decide, by decide, by decide, by decide, fun hno => ?_⟩⟩
  · exact absurd (hno 0 (by decide) (by decide)).1 (by decide)
  · exact absurd (hno 0 (by decide) (by decide)).2.1 (by decide)

end AudioReachPal.Ring
