import AudioReachPal.Capi.Defs
import AudioReachPal.Lib.Runs
import Mathlib.Data.Int.Order.Basic

/-!
# The buffer of the second stage keyword detection

A run of `startKeywordDetection` first reads the keyword in one piece, and then frames of 10 ms. The
member `buffer_size_` is the size of the next read: a run writes the size of its first piece over the
frame size, allocates a buffer of that size, and puts the frame size back when the first piece has
been processed. A run that ends before that leaves its own size to the next run.
-/

namespace AudioReachPal.Capi

open AudioReachPal.Lib

/-- One pass of the loop that finds `exit_buffering_` unset: what the ring buffer's reader and the
library answer. -/
structure KwPass where
  waitForBuffers : Bool := true
  /-- An error of the reader, or how much it has. -/
  read : ℤ
  process : Bool := true
  get_param : Bool := true
  is_detected : Bool := false
  deriving DecidableEq, Repr

/-- What one run meets. After the passes `exit_buffering_` is found set. -/
structure KwRun where
  readerEnabled : Bool := true
  start_idx : ℕ
  end_idx : ℕ
  callocs : Bool := true
  passes : List KwPass := []
  reinit : Bool := true
  deriving DecidableEq, Repr

namespace KwRun

variable (c : CapiConfig) (r : KwRun)

/-- There is enough data before the keyword. -/
def startsLate : Bool := c.usToBytes c.kw_start_tolerance_ < r.start_idx

/-- Where the reader is moved to. -/
def read_offset : ℕ :=
  if r.startsLate c then r.start_idx - c.usToBytes c.kw_start_tolerance_ else 0

/-- `ftrt_sz` before it is rounded. -/
def keywordSize : ℕ :=
  if r.startsLate c then
    word32 (r.end_idx - r.start_idx + c.usToBytes c.kw_start_tolerance_)
  else r.end_idx

/-- `ftrt_sz`: a multiple of 10 ms. The code divides by a frame of no bytes; here that leaves no
size. -/
def ftrt_sz : ℕ := r.keywordSize c - r.keywordSize c % c.frame

def max_processing_sz : ℕ :=
  if r.startsLate c then
    word32 (r.end_idx - r.start_idx + c.usToBytes (word32
      (word32 (c.kw_start_tolerance_ + c.kw_end_tolerance_) + c.data_after_kw_end_)))
  else word32 (r.end_idx + c.usToBytes (word32 (c.kw_end_tolerance_ + c.data_after_kw_end_)))

end KwRun

/-- The engine's members that a run writes. -/
structure KwEngine where
  buffer_size_ : ℕ
  detection_state_ : detection_state_t := .ENGINE_IDLE
  deriving DecidableEq, Repr

/-- The engine in the loop, with the run's locals and the sizes of its reads. -/
structure KwLoop extends KwEngine where
  processed_sz : ℕ := 0
  first_buffer_processed : Bool := false
  status : ℤ := 0
  reads : List ℕ := []
  deriving DecidableEq, Repr

namespace KwLoop

/-- The result of the library is taken: the state, and the frame size after the first piece. -/
def take (lab_buffer_size max_processing_sz : ℕ) (l : KwLoop) (p : KwPass) : KwLoop :=
  { l with
    detection_state_ :=
      if p.is_detected then .KEYWORD_DETECTION_SUCCESS
      else if max_processing_sz ≤ l.processed_sz then .KEYWORD_DETECTION_REJECT
      else l.detection_state_
    buffer_size_ := if l.first_buffer_processed then l.buffer_size_ else lab_buffer_size
    first_buffer_processed := true }

/-- One pass, and whether the loop goes on. A read returns no more than it was asked for, and a
detection sets `exit_buffering_`. -/
def pass (lab_buffer_size max_processing_sz : ℕ) (l : KwLoop) (p : KwPass) : KwLoop × Bool :=
  if p.waitForBuffers then
    let read_size := min p.read l.buffer_size_
    let l := { l with reads := l.reads ++ [l.buffer_size_] }
    if read_size = 0 then (l, true)
    else if read_size < 0 then ({ l with status := read_size }, false)
    else if p.process then
      let l := { l with processed_sz := word32 (l.processed_sz + read_size.toNat) }
      if p.get_param then (l.take lab_buffer_size max_processing_sz p, !p.is_detected)
      else ({ l with status := -EINVAL }, false)
    else ({ l with status := -EINVAL }, false)
  else (l, true)

/-- The loop. -/
def loop (lab_buffer_size max_processing_sz : ℕ) (l : KwLoop) : List KwPass → KwLoop
  | [] => l
  | p :: ps =>
    if l.processed_sz < max_processing_sz then
      let (l, goesOn) := l.pass lab_buffer_size max_processing_sz p
      if goesOn then loop lab_buffer_size max_processing_sz l ps else l
    else l

end KwLoop

/-- What a run returns, the engine after it, the size of `process_input_buff`, and the sizes of the
reads into it. -/
structure KwResult where
  status : ℤ
  engine : KwEngine
  allocated : ℕ
  reads : List ℕ
  deriving DecidableEq, Repr

def startKeywordDetection (c : CapiConfig) (eng : KwEngine) (r : KwRun) : KwResult :=
  let reinit := fun status => if r.reinit then status else -EINVAL
  if !r.readerEnabled then ⟨reinit (-EINVAL), eng, 0, []⟩
  else if r.end_idx ≤ r.start_idx then ⟨reinit (-EINVAL), eng, 0, []⟩
  else
    let lab_buffer_size := eng.buffer_size_
    let eng := { eng with buffer_size_ := r.ftrt_sz c }
    if r.callocs then
      let l := KwLoop.loop lab_buffer_size (r.max_processing_sz c) { eng with } r.passes
      ⟨reinit l.status, l.toKwEngine, r.ftrt_sz c, l.reads⟩
    else ⟨reinit (-ENOMEM), eng, r.ftrt_sz c, []⟩

/-- The run comes to the loop with its keyword. -/
def KwRun.reads (r : KwRun) : Prop := r.readerEnabled = true ∧ r.start_idx < r.end_idx

/-- What a run does right: it finds the frame size, reads no more than it allocated, and asks for
something in each read of a keyword. -/
def UsesItsBuffer (c : CapiConfig) (eng : KwEngine) (r : KwRun) : Prop :=
  let res := startKeywordDetection c eng r
  eng.buffer_size_ = c.frame ∧ (∀ n ∈ res.reads, n ≤ res.allocated) ∧
    (r.reads → 0 < res.allocated ∧ ∀ n ∈ res.reads, 0 < n)

/-- The first pass with data is one in which the library is content. -/
def processesFirst : List KwPass → Bool
  | [] => false
  | p :: ps =>
    if p.waitForBuffers && decide (p.read ≠ 0) then decide (0 < p.read) && p.process && p.get_param
    else processesFirst ps

/-- The keyword with its tolerance has a frame. -/
def KwRun.hasFrame (c : CapiConfig) (r : KwRun) : Prop :=
  r.reads → 0 < c.frame ∧ c.frame ≤ r.keywordSize c

/-- The keyword with its tolerance has no second frame, or its first piece is processed. -/
def KwRun.keepsFrame (c : CapiConfig) (r : KwRun) : Prop :=
  r.reads → r.keywordSize c < 2 * c.frame ∨
    (r.callocs = true ∧ 0 < r.max_processing_sz c ∧ processesFirst r.passes = true)

section

variable {c : CapiConfig} {eng : KwEngine} {r : KwRun} (lab max : ℕ) {l : KwLoop}

@[simp] theorem take_buffer_size_ (p : KwPass) :
    (l.take lab max p).buffer_size_ = if l.first_buffer_processed then l.buffer_size_ else lab :=
  rfl

@[simp] theorem take_first_buffer_processed (p : KwPass) :
    (l.take lab max p).first_buffer_processed = true := rfl

@[simp] theorem take_reads (p : KwPass) : (l.take lab max p).reads = l.reads := rfl

/-- A pass asks once for the size it finds, or not at all. -/
theorem pass_reads (p : KwPass) :
    ∀ n ∈ (l.pass lab max p).1.reads, n ∈ l.reads ∨ n = l.buffer_size_ := by
  have hread : ∀ n ∈ l.reads ++ [l.buffer_size_], n ∈ l.reads ∨ n = l.buffer_size_ := by
    intro n hn
    simpa using hn
  simp only [KwLoop.pass]
  split_ifs
  all_goals first | exact hread | exact fun n hn => Or.inl hn

/-- After the first piece the size stays. -/
theorem pass_frames (p : KwPass) (hfirst : l.first_buffer_processed = true) :
    (l.pass lab max p).1.buffer_size_ = l.buffer_size_ ∧
      (l.pass lab max p).1.first_buffer_processed = true := by
  simp only [KwLoop.pass]
  split_ifs
  all_goals simp [hfirst]

/-- A pass without data: the loop goes on with what it has. -/
theorem pass_of_no_data (p : KwPass) (hdata : (p.waitForBuffers && decide (p.read ≠ 0)) = false)
    (hpos : 0 < l.buffer_size_) :
    (l.pass lab max p).2 = true ∧ (l.pass lab max p).1.buffer_size_ = l.buffer_size_ ∧
      (l.pass lab max p).1.first_buffer_processed = l.first_buffer_processed ∧
      (l.pass lab max p).1.processed_sz = l.processed_sz := by
  cases hwait : p.waitForBuffers with
  | false => simp [KwLoop.pass, hwait]
  | true =>
    have hzero : p.read = 0 := by simpa [hwait] using hdata
    have hmin : min p.read (l.buffer_size_ : ℤ) = 0 := by omega
    simp [KwLoop.pass, hwait, hmin]

/-- A first pass with data: the frame size comes back when the library is content, and the loop ends
otherwise. -/
theorem pass_of_data (p : KwPass) (hdata : (p.waitForBuffers && decide (p.read ≠ 0)) = true)
    (hpos : 0 < l.buffer_size_) (hfirst : l.first_buffer_processed = false) :
    if (decide (0 < p.read) && p.process && p.get_param) = true then
      (l.pass lab max p).1.buffer_size_ = lab ∧
        (l.pass lab max p).1.first_buffer_processed = true
    else (l.pass lab max p).2 = false ∧ (l.pass lab max p).1.buffer_size_ = l.buffer_size_ := by
  have hwait : p.waitForBuffers = true := (Bool.and_eq_true _ _ ▸ hdata).1
  have hread : p.read ≠ 0 := of_decide_eq_true (Bool.and_eq_true _ _ ▸ hdata).2
  rcases lt_or_gt_of_ne hread with hneg | hsome
  · have hmin : min p.read (l.buffer_size_ : ℤ) < 0 := by omega
    have hzero : min p.read (l.buffer_size_ : ℤ) ≠ 0 := by omega
    have hnot : ¬0 < p.read := by omega
    simp [KwLoop.pass, hwait, hmin, hzero, hnot]
  · have hzero : min p.read (l.buffer_size_ : ℤ) ≠ 0 := by omega
    have hneg : ¬min p.read (l.buffer_size_ : ℤ) < 0 := by omega
    cases hprocess : p.process with
    | false => simp only [KwLoop.pass, hwait, hzero, hneg, hprocess, if_true, if_false,
        Bool.and_false, Bool.false_and, Bool.false_eq_true, and_self]
    | true =>
      cases hget : p.get_param with
      | false => simp only [KwLoop.pass, hwait, hzero, hneg, hprocess, hget, if_true, if_false,
          Bool.and_false, Bool.false_eq_true, and_self]
      | true => simp [KwLoop.pass, hwait, hzero, hneg, hprocess, hget, hsome, hfirst]

/-- The sizes after the first piece. -/
theorem loop_frames (ps : List KwPass) (hfirst : l.first_buffer_processed = true) :
    (l.loop lab max ps).buffer_size_ = l.buffer_size_ ∧
      ∀ n ∈ (l.loop lab max ps).reads, n ∈ l.reads ∨ n = l.buffer_size_ := by
  induction ps generalizing l with
  | nil => exact ⟨rfl, fun n hn => Or.inl hn⟩
  | cons p ps ih =>
    obtain ⟨hsize, hkept⟩ := pass_frames lab max p hfirst
    have hreads := pass_reads lab max (l := l) p
    simp only [KwLoop.loop]
    split_ifs
    · obtain ⟨hloop, hrest⟩ := ih hkept
      rw [hsize] at hloop hrest
      refine ⟨hloop, fun n hn => ?_⟩
      rcases hrest n hn with hn | hn
      · exact hreads n hn
      · exact Or.inr hn
    · exact ⟨hsize, hreads⟩
    · exact ⟨rfl, fun n hn => Or.inl hn⟩

/-- The sizes of a loop from its first piece on: the frame size comes back with the first piece. -/
theorem loop_first (ps : List KwPass) (hfirst : l.first_buffer_processed = false)
    (hpos : 0 < l.buffer_size_) :
    (l.loop lab max ps).buffer_size_ =
        (if l.processed_sz < max ∧ processesFirst ps = true then lab else l.buffer_size_) ∧
      ∀ n ∈ (l.loop lab max ps).reads, n ∈ l.reads ∨ n = l.buffer_size_ ∨ n = lab := by
  induction ps generalizing l with
  | nil => exact ⟨by simp [KwLoop.loop, processesFirst], fun n hn => Or.inl hn⟩
  | cons p ps ih =>
    by_cases hmax : l.processed_sz < max
    swap
    · simp only [KwLoop.loop, if_neg hmax]
      exact ⟨by simp [hmax], fun n hn => Or.inl hn⟩
    have hreads : ∀ n ∈ (l.pass lab max p).1.reads, n ∈ l.reads ∨ n = l.buffer_size_ ∨ n = lab :=
      fun n hn => (pass_reads lab max p n hn).imp_right Or.inl
    simp only [KwLoop.loop, hmax, true_and]
    cases hdata : (p.waitForBuffers && decide (p.read ≠ 0)) with
    | false =>
      obtain ⟨hgoes, hsize, hsame, hprocessed⟩ :=
        pass_of_no_data lab max p hdata hpos
      obtain ⟨hloop, hrest⟩ := ih (hsame.trans hfirst) (hsize ▸ hpos)
      rw [hsize] at hloop hrest
      rw [hprocessed] at hloop
      simp only [hgoes, if_true]
      have hnext : processesFirst (p :: ps) = processesFirst ps := by
        rw [processesFirst, hdata]
        rfl
      rw [hnext]
      refine ⟨by simpa [hmax] using hloop, fun n hn => ?_⟩
      rcases hrest n hn with hn | hn
      · exact hreads n hn
      · exact Or.inr hn
    | true =>
      have hpass := pass_of_data lab max p hdata hpos hfirst
      simp only [processesFirst, hdata, if_true]
      by_cases hcontent : (decide (0 < p.read) && p.process && p.get_param) = true
      · rw [if_pos hcontent] at hpass ⊢
        split_ifs
        · obtain ⟨hloop, hrest⟩ := loop_frames lab max ps hpass.2
          rw [hpass.1] at hloop hrest
          refine ⟨hloop, fun n hn => ?_⟩
          rcases hrest n hn with hn | hn
          · exact hreads n hn
          · exact Or.inr (Or.inr hn)
        · exact ⟨hpass.1, hreads⟩
      · rw [if_neg hcontent] at hpass ⊢
        simp only [hpass.1, Bool.false_eq_true, if_false]
        exact ⟨hpass.2, hreads⟩

/-- The rounded size has a frame when the keyword has. -/
theorem ftrt_sz_pos_iff : 0 < r.ftrt_sz c ↔ 0 < c.frame ∧ c.frame ≤ r.keywordSize c := by
  unfold KwRun.ftrt_sz
  constructor
  · intro hpos
    rcases Nat.eq_zero_or_pos c.frame with hzero | hframe
    · rw [hzero, Nat.mod_zero, Nat.sub_self] at hpos
      exact absurd hpos (Nat.lt_irrefl 0)
    · refine ⟨hframe, Nat.le_of_not_lt fun hlt => ?_⟩
      rw [Nat.mod_eq_of_lt hlt, Nat.sub_self] at hpos
      exact Nat.lt_irrefl 0 hpos
  · rintro ⟨hframe, hle⟩
    have hmod := Nat.mod_lt (r.keywordSize c) hframe
    omega

theorem le_ftrt_sz (hframe : 0 < c.frame) (hle : c.frame ≤ r.keywordSize c) :
    c.frame ≤ r.ftrt_sz c := by
  have hdiv : 1 ≤ r.keywordSize c / c.frame := (Nat.one_le_div_iff hframe).mpr hle
  have hsplit := Nat.div_add_mod (r.keywordSize c) c.frame
  have hmul : c.frame * 1 ≤ c.frame * (r.keywordSize c / c.frame) := Nat.mul_le_mul_left _ hdiv
  unfold KwRun.ftrt_sz
  omega

theorem ftrt_sz_eq_frame_iff (hframe : 0 < c.frame) (hle : c.frame ≤ r.keywordSize c) :
    r.ftrt_sz c = c.frame ↔ r.keywordSize c < 2 * c.frame := by
  have hmod := Nat.mod_lt (r.keywordSize c) hframe
  unfold KwRun.ftrt_sz
  constructor
  · intro heq
    omega
  · intro hlt
    have hsub : r.keywordSize c % c.frame = r.keywordSize c - c.frame := by
      rw [Nat.mod_eq_sub_mod hle, Nat.mod_eq_of_lt (by omega)]
    omega

theorem startKeywordDetection_allocated (c : CapiConfig) (eng : KwEngine) (hreads : r.reads) :
    (startKeywordDetection c eng r).allocated = r.ftrt_sz c := by
  obtain ⟨hreader, hidx⟩ := hreads
  simp only [startKeywordDetection, hreader, Bool.not_true, Bool.false_eq_true, if_false,
    if_neg (Nat.not_le.mpr hidx)]
  split_ifs <;> rfl

/-- What a run leaves, for a keyword with a frame. -/
theorem startKeywordDetection_spec (eng : KwEngine) (hreads : r.reads) (hpos : 0 < r.ftrt_sz c) :
    (startKeywordDetection c eng r).engine.buffer_size_ =
        (if r.callocs = true ∧ 0 < r.max_processing_sz c ∧ processesFirst r.passes = true then
          eng.buffer_size_ else r.ftrt_sz c) ∧
      ∀ n ∈ (startKeywordDetection c eng r).reads, n = r.ftrt_sz c ∨ n = eng.buffer_size_ := by
  obtain ⟨hreader, hidx⟩ := hreads
  simp only [startKeywordDetection, hreader, Bool.not_true, Bool.false_eq_true, if_false,
    if_neg (Nat.not_le.mpr hidx)]
  cases hcallocs : r.callocs with
  | false =>
    simp only [Bool.false_eq_true, if_false, false_and]
    exact ⟨trivial, fun n hn => absurd hn List.not_mem_nil⟩
  | true =>
    simp only [if_true, true_and]
    obtain ⟨hsize, hread⟩ := loop_first eng.buffer_size_ (r.max_processing_sz c)
      (l := { buffer_size_ := r.ftrt_sz c, detection_state_ := eng.detection_state_ })
      r.passes rfl hpos
    refine ⟨hsize, fun n hn => ?_⟩
    rcases hread n hn with hn | hn
    · exact absurd hn List.not_mem_nil
    · exact hn

/-- A run without its keyword leaves before it touches anything. -/
theorem startKeywordDetection_of_not_reads (c : CapiConfig) (eng : KwEngine) (hreads : ¬r.reads) :
    ∃ status, startKeywordDetection c eng r = ⟨status, eng, 0, []⟩ := by
  by_cases hreader : r.readerEnabled = true
  · have hidx : r.end_idx ≤ r.start_idx := Nat.le_of_not_lt fun hlt => hreads ⟨hreader, hlt⟩
    refine ⟨-EINVAL, ?_⟩
    simp only [startKeywordDetection, hreader, Bool.not_true, Bool.false_eq_true, if_pos hidx,
      ite_self]
  · refine ⟨-EINVAL, ?_⟩
    rw [Bool.not_eq_true] at hreader
    simp only [startKeywordDetection, hreader, Bool.not_false, if_true, ite_self]

theorem usesItsBuffer_iff (heng : eng.buffer_size_ = c.frame) :
    UsesItsBuffer c eng r ↔ r.hasFrame c := by
  by_cases hreads : r.reads
  swap
  · obtain ⟨status, hleaves⟩ := startKeywordDetection_of_not_reads c eng hreads
    refine iff_of_true ⟨heng, ?_, fun h => absurd h hreads⟩ fun h => absurd h hreads
    rw [hleaves]
    exact fun n hn => absurd hn List.not_mem_nil
  have hallocated := startKeywordDetection_allocated c eng hreads
  constructor
  · rintro ⟨-, -, hprogress⟩ -
    rw [← ftrt_sz_pos_iff, ← hallocated]
    exact (hprogress hreads).1
  · intro hhas
    obtain ⟨hframe, hle⟩ := hhas hreads
    have hpos := ftrt_sz_pos_iff.mpr ⟨hframe, hle⟩
    have hfits := le_ftrt_sz hframe hle
    obtain ⟨-, hread⟩ := startKeywordDetection_spec eng hreads hpos
    rw [heng] at hread
    rw [← hallocated] at hpos hfits hread
    refine ⟨heng, fun n hn => ?_, fun _ => ⟨hpos, fun n hn => ?_⟩⟩
    · rcases hread n hn with rfl | rfl <;> omega
    · rcases hread n hn with rfl | rfl <;> omega

theorem leavesFrame_iff (heng : eng.buffer_size_ = c.frame) (hhas : r.hasFrame c) :
    (startKeywordDetection c eng r).engine.buffer_size_ = c.frame ↔ r.keepsFrame c := by
  by_cases hreads : r.reads
  swap
  · obtain ⟨status, hleaves⟩ := startKeywordDetection_of_not_reads c eng hreads
    rw [hleaves]
    exact iff_of_true heng fun h => absurd h hreads
  obtain ⟨hframe, hle⟩ := hhas hreads
  obtain ⟨hsize, -⟩ := startKeywordDetection_spec eng hreads
    (ftrt_sz_pos_iff.mpr ⟨hframe, hle⟩)
  rw [hsize, heng]
  constructor
  · rintro hleft -
    split_ifs at hleft with hfirst
    · exact Or.inr hfirst
    · exact Or.inl ((ftrt_sz_eq_frame_iff hframe hle).mp hleft)
  · intro hkeeps
    split_ifs with hfirst
    · rfl
    · exact (ftrt_sz_eq_frame_iff hframe hle).mpr ((hkeeps hreads).resolve_right hfirst)

theorem usesItsBuffer_along_iff_of_frame (runs : List KwRun) (heng : eng.buffer_size_ = c.frame) :
    Meets (fun eng r => some (startKeywordDetection c eng r).engine) (UsesItsBuffer c) eng runs ↔
      (∀ r ∈ runs, r.hasFrame c) ∧ ∀ r ∈ runs.dropLast, r.keepsFrame c := by
  induction runs generalizing eng with
  | nil => simp [Meets]
  | cons r runs ih =>
    rw [meets_some_cons, usesItsBuffer_iff heng]
    cases runs with
    | nil => simp [Meets]
    | cons next runs =>
      rw [List.dropLast_cons_cons, List.forall_mem_cons, List.forall_mem_cons (a := r)]
      constructor
      · rintro ⟨hhas, hrest⟩
        have hleft := hrest.1.1
        obtain ⟨hall, hkeep⟩ := (ih hleft).mp hrest
        exact ⟨⟨hhas, hall⟩, (leavesFrame_iff heng hhas).mp hleft, hkeep⟩
      · rintro ⟨⟨hhas, hall⟩, hkeeps, hkeep⟩
        have hleft := (leavesFrame_iff heng hhas).mpr hkeeps
        exact ⟨hhas, (ih hleft).mpr ⟨hall, hkeep⟩⟩

/-- **Second stage keyword detection.** From the constructor on, in every sequence of runs each one
finds the frame size, reads into its buffer and makes progress, exactly when each keyword has a
frame and each run before another one keeps the frame size. -/
theorem usesItsBuffer_along_iff (c : CapiConfig) (runs : List KwRun) :
    Meets (fun eng r => some (startKeywordDetection c eng r).engine) (UsesItsBuffer c)
        { buffer_size_ := c.frame } runs ↔
      (∀ r ∈ runs, r.hasFrame c) ∧ ∀ r ∈ runs.dropLast, r.keepsFrame c :=
  usesItsBuffer_along_iff_of_frame runs rfl

/-- The first run is stopped before its first piece, and the second one reads the first one's size
into a buffer of half of it. -/
theorem not_usesItsBuffer_stopped :
    ¬Meets (fun eng r => some (startKeywordDetection mono16k eng r).engine) (UsesItsBuffer mono16k)
      { buffer_size_ := mono16k.frame }
      [{ start_idx := 0, end_idx := 640 },
        { start_idx := 0, end_idx := 320, passes := [{ read := 320 }, { read := 640 }] }] ∧
    (startKeywordDetection mono16k { buffer_size_ := mono16k.frame }
      { start_idx := 0, end_idx := 640 }).engine.buffer_size_ = 640 := by
  refine ⟨fun h => ?_, by decide⟩
  have hfound := ((meets_some_cons.mp h).2).1.1
  exact absurd hfound (by decide)

end

end AudioReachPal.Capi
