import AudioReachPal.Ring.History

/-!
# Re-positioning a reader

Which calls keep the cursors of a ring consistent. A reader that no write has overrun is
consistent when its offset and unread size meet at `writeOffset_` and a read returns the bytes
that follow the position the reader asked for last. `advanceReadOffset` lets a reader skip fewer
bytes than it has not read, and no others; `updateKwdConfig` moves the two cursors by different
amounts unless the reader has not read yet or stands at the keyword already.
-/

namespace AudioReachPal.Ring

open AudioReachPal.Lib
open pal_ring_buffer_reader_state

namespace Hist

variable {h : Hist} {id : ReaderId}

/-- The cursors of a reader meet at `writeOffset_`, and what a read returns is what was written
from the position the reader asked for: as much as was asked for, up to all that is there. -/
def Consistent (h : Hist) (id : ReaderId) : Prop :=
  ((h.rb.reader id).readOffset_ + (h.rb.reader id).unreadSize_) % h.rb.bufferEnd_ =
      h.rb.writeOffset_ ∧
    ((h.rb.reader id).state_ ≠ READER_DISABLED → ∀ n, ∃ c : ℕ, (h.rb.read id n).ret = c ∧
      (h.rb.read id n).bytes = (h.written.drop (h.pos id)).take c ∧
      (n < 2 ^ 31 → c = min n (h.written.length - h.pos id)))

/-- Every reader of the ring that no write has overrun is consistent. -/
def CursorsConsistent (h : Hist) : Prop :=
  ∀ id ∈ h.rb.readers_, h.overrun id = false → h.Consistent id

/-- The call leaves a reader that stands at its position at the position it asks for. -/
def Fits (h : Hist) (id : ReaderId) : Op → Prop
  | .advanceReadOffset i n => i = id → n = 0 ∨ n < (h.rb.reader id).unreadSize_
  | .resetReader i => i = id → h.written = [] ∨ h.rb.bufferEnd_ < h.written.length
  | .updateKwdConfig _ readers startIdx _ preRoll =>
    id ∈ readers → KwdFits h id (PalRingBuffer.kwdSkip startIdx preRoll) ∨
      PalRingBuffer.kwdSkip startIdx preRoll + h.rb.bufferEnd_ < h.written.length
  | _ => True

/-- A new size of the ring is one that an `int32_t` holds. -/
def SizeFits : Op → Prop
  | .resize size _ => 0 < size ∧ size < 2 ^ 31
  | .createBuffer size _ _ _ _ => size < 2 ^ 31
  | _ => True

/-- The call is one that keeps the cursors consistent. -/
def Ok (h : Hist) (op : Op) : Prop :=
  SizeFits op ∧ ∀ id ∈ h.rb.readers_, h.overrun id = false → Fits h id op

/-- The ring holds its last bytes, and the readers that no write has overrun stand at the
positions they asked for. -/
def Inv (h : Hist) : Prop :=
  h.rb.Filled h.written ∧ ∀ id ∈ h.rb.readers_, h.overrun id = false → h.Stands id

theorem consistent_of_stands (hs : h.Stands id) : h.Consistent id := by
  constructor
  · obtain ⟨hle, hunread, -, hoff⟩ := hs.at_pos
    rw [hunread, hoff, Nat.mod_add_mod, hs.filled.offset]
    congr 1
    omega
  · intro hstate n
    obtain ⟨c, -, hret, hbytes, -, hc⟩ := reads_of_stands hs hstate n
    exact ⟨c, hret, hbytes, hc⟩

theorem inv_start {rb : PalRingBuffer} (hf : Fresh rb) : Inv (start rb) :=
  ⟨hf.filled, fun _ hid _ => hf.stands hid⟩

/-- Moving one reader keeps the ring, and the others where they are. -/
theorem inv_move (hinv : Inv h) {i : ReaderId} {rd : PalRingBufferReader} {p : ℕ}
    (hs : h.Stands i → (h.move i rd p).overrun i = false → (h.move i rd p).Stands i) :
    Inv (h.move i rd p) := by
  refine ⟨⟨hinv.1.size_pos, hinv.1.size_lt, hinv.1.offset, hinv.1.holds⟩, fun id hid hover => ?_⟩
  have hprev : h.overrun id = false := (Bool.or_eq_false_iff.mp hover).1
  have hstands := hinv.2 id hid hprev
  rcases eq_or_ne i id with rfl | hne
  · exact hs hstands hover
  · exact stands_move hstands fun hi => absurd hi hne

theorem not_lt_of_overrun {i : ReaderId} {rd : PalRingBufferReader} {p : ℕ}
    (hover : (h.move i rd p).overrun i = false) : ¬p + h.rb.bufferEnd_ < h.written.length := by
  simpa [move, overrunAt] using (Bool.or_eq_false_iff.mp hover).2

/-- **Step.** A call that fits every reader keeps the invariant. -/
theorem inv_step (hinv : Inv h) {op : Op} (hok : Ok h op) : Inv (h.step op) := by
  obtain ⟨hf, hall⟩ := hinv
  obtain ⟨hsize, hfits⟩ := hok
  cases op with
  | write d =>
    refine ⟨hf.write d, fun id hid hover => ?_⟩
    have hid' : id ∈ h.rb.readers_ := by simpa [step] using hid
    exact stands_write (hall id hid' (Bool.or_eq_false_iff.mp hover).1) d hover
  | read i n =>
    have hmove : Inv (h.move i (h.rb.read i n).rd (h.pos i + (h.rb.read i n).ret.toNat)) :=
      inv_move ⟨hf, hall⟩ fun hs _ => (stands_read hs i n).congr rfl rfl rfl
    exact ⟨hmove.1, fun id hid hover => (hmove.2 id hid hover).congr rfl rfl rfl⟩
  | advanceReadOffset i n =>
    refine inv_move ⟨hf, hall⟩ fun hs hover => stands_advanceReadOffset hs fun _ => ?_
    exact hfits i hs.mem (Bool.or_eq_false_iff.mp hover).1 rfl
  | updateState i state => exact inv_move ⟨hf, hall⟩ fun hs _ => stands_updateState hs i state
  | resetReader i =>
    refine inv_move ⟨hf, hall⟩ fun hs hover => stands_resetReader hs fun _ => ?_
    have hroom := not_lt_of_overrun hover
    rcases hfits i hs.mem (Bool.or_eq_false_iff.mp hover).1 rfl with hnil | hlt
    · exact hnil
    · omega
  | updateKwdConfig s readers startIdx endIdx preRoll =>
    refine ⟨⟨hf.size_pos, hf.size_lt, hf.offset, hf.holds⟩, fun id hid hover => ?_⟩
    obtain ⟨hprev, hroom⟩ := Bool.or_eq_false_iff.mp hover
    refine stands_updateKwdConfig (hall id hid hprev) fun hmem => ?_
    rcases hfits id hid hprev hmem with hk | hlt
    · exact hk
    · rw [decide_eq_false_iff_not] at hroom
      simp only [if_pos hmem] at hroom
      exact absurd hlt hroom
  | reset => exact inv_start (fresh_reset hf.size_pos hf.size_lt)
  | resize size mem => exact inv_start (fresh_reset hsize.1 hsize.2)
  | createBuffer size engine_size reader_list mem new =>
    by_cases hret : (h.rb.createBuffer size engine_size reader_list mem new).1 = 0
    · simp only [step, if_pos hret]
      exact inv_start (fresh_createBuffer hf.size_pos hf.size_lt hsize hret)
    · simp only [step, if_neg hret, createBuffer_refused hret]
      exact ⟨hf, hall⟩

end Hist

/-! ### Every run -/

/-- **The cursors stay consistent.** In every run from the construction of a ring of fewer than
`2 ^ 31` bytes whose calls all fit the readers they move, the readers that no write has overrun
are consistent in the state reached. -/
theorem cursors_consistent {N : ℕ} (hN0 : 0 < N) (hN : N < 2 ^ 31) (mem : ℕ → UInt8)
    {ops : List Op} {h : Hist}
    (hmeets : Meets (fun h op => some (h.step op)) Hist.Ok (Hist.start (.new N mem)) ops)
    (hrun : (Hist.start (.new N mem)).runs ops = some h) : h.CursorsConsistent := by
  have hfresh : Hist.Fresh (.new N mem) := ⟨hN0, hN, rfl, by simp [PalRingBuffer.new]⟩
  have hinv : Hist.Inv h := by
    refine run_invariant_of_meets ?_ hmeets (Hist.inv_start hfresh) hrun
    intro s op t hok hs ht
    cases ht
    exact Hist.inv_step hs hok
  exact fun id hid hover => Hist.consistent_of_stands (hinv.2 id hid hover)

/-- The first pointer that is none of the ones in use. -/
def firstFree : PalRingBuffer.New := fun used =>
  ⟨used.foldr max 0 + 1, fun hmem => by
    have hle : ∀ l : List ℕ, ∀ a ∈ l, a ≤ l.foldr max 0 := by
      intro l
      induction l with
      | nil => simp
      | cons b l ih =>
        intro a ha
        rcases List.mem_cons.mp ha with rfl | ha
        · exact Nat.le_max_left _ _
        · exact Nat.le_trans (ih a ha) (Nat.le_max_right _ _)
    have := hle used _ hmem
    omega⟩

/-- A ring of four bytes and its one reader, which skips two of three bytes. -/
theorem cursors_consistent_skip : ∃ h : Hist,
    (Hist.start (.new 4 fun _ => 0)).runs
      [.createBuffer 4 1 [] (fun _ => 0) firstFree, .write [7, 8, 9], .advanceReadOffset 1 2] =
        some h ∧ h.CursorsConsistent := by
  refine ⟨_, rfl, ?_⟩
  refine cursors_consistent (N := 4) (by decide) (by decide) (fun _ => 0) ?_ (Eq.refl ((Hist.start _).runs [_, _, _]))
  refine meets_some_cons.mpr ⟨⟨show 4 < 2 ^ 31 by decide, by simp [Hist.start, PalRingBuffer.new]⟩, ?_⟩
  refine meets_some_cons.mpr ⟨⟨trivial, fun _ _ _ => trivial⟩, ?_⟩
  refine meets_some_cons.mpr ⟨⟨trivial, fun _ _ _ hid => Or.inr ?_⟩, trivial⟩
  subst hid
  decide

/-- A prepared reader that skips the two bytes it has not read keeps an unread size of two: its
cursors do not meet at `writeOffset_`. -/
theorem cursors_inconsistent_skip : ∃ h : Hist,
    (Hist.start (.new 4 fun _ => 0)).runs
      [.createBuffer 4 1 [] (fun _ => 0) firstFree, .updateState 1 READER_PREPARED, .write [7, 8],
        .advanceReadOffset 1 2] = some h ∧ ¬h.CursorsConsistent := by
  refine ⟨_, rfl, fun hc => ?_⟩
  exact absurd (hc 1 (by decide) (by decide)).1 (by decide)

end AudioReachPal.Ring
