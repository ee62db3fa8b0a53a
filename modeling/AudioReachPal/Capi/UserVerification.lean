import AudioReachPal.Capi.Defs
import AudioReachPal.Lib.Runs
import Mathlib.Data.Int.Order.Basic
import Mathlib.Data.List.Infix

/-!
# The second stage user verification

`startUserVerification` waits for one of two triggers: the keyword of the first stage with its
tolerance is in the ring buffer, or the second stage has told an end of the keyword. It reads up to
the trigger's size behind what it has read before, and has the library process it all. The buffer is
made for the first stage's end of the keyword only.
-/

namespace AudioReachPal.Capi

open AudioReachPal.Lib

/-- One pass of the loop: what the reader, the interface and the library answer, and what
`setDetected` is called with while the pass waits. -/
structure UvPass where
  /-- `exit_buffering_` was set from outside before the pass. -/
  stopped : Bool := false
  keywordStatus : ℤ := 0
  /-- The end index that `PARAM_KEYWORD_INDEX` gives, a word. -/
  keywordIndex : Option ℕ := none
  unreadSize : ℕ := 0
  told : Option detection_state_t := none
  /-- An error of the reader, or how much it has. -/
  read : ℤ := 0
  process : capi_v2_err_t := .CAPI_V2_EOK
  get_param : capi_v2_err_t := .CAPI_V2_EOK
  is_detected : Bool := false
  reinit : capi_v2_err_t := .CAPI_V2_EOK
  deriving DecidableEq, Repr

/-- What one run meets. -/
structure UvRun where
  updateUVScratchParam : ℤ := 0
  readerEnabled : Bool := true
  start_idx : ℕ
  end_idx : ℕ
  callocs : Bool := true
  fstage_module_type : st_module_type_t := .ST_MODULE_TYPE_GMM
  uvScoreStatus : ℤ := 0
  setUvScore : capi_v2_err_t := .CAPI_V2_EOK
  /-- The stream has a second stage keyword model, `ST_SM_ID_SVA_S_STAGE_PDK`. -/
  pdkModelLoaded : Bool := true
  passes : List UvPass := []
  reinit : capi_v2_err_t := .CAPI_V2_EOK
  deriving DecidableEq, Repr

namespace UvRun

variable (c : CapiConfig) (r : UvRun)

/-- Where the reader is moved to. -/
def read_offset : ℕ :=
  if c.usToBytes c.data_before_kw_start_ < r.start_idx then
    r.start_idx - c.usToBytes c.data_before_kw_start_
  else 0

def fstage_est_proc_sz : ℕ :=
  word32 (r.end_idx + c.usToBytes c.kw_end_tolerance_ - r.read_offset c)

/-- The size of `process_input_buff`. -/
def max_processing_sz : ℕ :=
  word32 (r.end_idx + c.usToBytes c.kw_end_tolerance_ + c.usToBytes MAX_UV_POST_TOLERANCE_US)

def max_process_count : ℕ := if r.pdkModelLoaded then 2 else 1

end UvRun

/-- The engine's members that a run and `setDetected` share. -/
structure UvEngine where
  processing_started_ : Bool := true
  exit_buffering_ : Bool := false
  /-- `ENGINE_IDLE` is its zero. -/
  sec_kw_detect_state_ : detection_state_t := .ENGINE_IDLE
  detection_state_ : detection_state_t := .ENGINE_IDLE
  deriving DecidableEq, Repr

def UvEngine.setDetected (eng : UvEngine) (detection_state : detection_state_t) : UvEngine :=
  match detection_state with
  | .GMM_DETECTED => { eng with processing_started_ := true, exit_buffering_ := false }
  | .KEYWORD_DETECTION_SUCCESS =>
    if eng.processing_started_ then { eng with sec_kw_detect_state_ := detection_state } else eng
  | .KEYWORD_DETECTION_REJECT =>
    if eng.processing_started_ then
      { eng with exit_buffering_ := true, sec_kw_detect_state_ := detection_state }
    else eng
  | _ => eng

/-- Where the run is: in its loop, or at one of the labels behind it. -/
inductive UvLabel where
  | loop
  | reinit
  | exit
  deriving DecidableEq, Repr

/-- The engine in the loop with the run's locals: `writes` has the offset and the size of each write
into `process_input_buff`, and `processes` the length of each call of the library. -/
structure UvLoop extends UvEngine where
  label : UvLabel := .loop
  process_count : ℕ := 0
  processed_sz : ℕ := 0
  write_offset : ℕ := 0
  is_post_tolerance_processed : Bool := false
  status : ℤ := 0
  rc : capi_v2_err_t := .CAPI_V2_EOK
  writes : List (ℕ × ℕ) := []
  processes : List ℕ := []
  deriving DecidableEq, Repr

namespace UvLoop

variable (c : CapiConfig) (r : UvRun)

/-- The call of the library, and what follows from its result. -/
def process (l : UvLoop) (actual_data_len : ℕ) (p : UvPass) : UvLoop :=
  let l := { l with
    processes := l.processes ++ [actual_data_len]
    process_count := l.process_count + 1 }
  if p.process ≠ .CAPI_V2_EOK then
    { l with rc := p.process, status := -EINVAL, label := .reinit }
  else if p.get_param = .CAPI_V2_EFAILED then
    { l with rc := p.get_param, status := -EINVAL, label := .reinit }
  else if p.is_detected then
    { l with
      rc := p.get_param
      exit_buffering_ := true
      detection_state_ := .USER_VERIFICATION_SUCCESS
      label := .reinit }
  else if l.process_count < r.max_process_count then
    if p.reinit ≠ .CAPI_V2_EOK then
      { l with rc := p.reinit, status := -EINVAL, label := .exit }
    else { l with rc := p.reinit }
  else { l with rc := p.get_param }

/-- A pass from its trigger on. What is read ends with the trigger's size, so that its sums are
words. -/
def advance (l : UvLoop) (size_to_read : ℕ) (p : UvPass) : UvLoop :=
  if l.processed_sz < size_to_read then
    let read_size := min p.read (size_to_read - l.processed_sz : ℕ)
    if read_size = 0 then l
    else if read_size < 0 then { l with status := read_size, label := .reinit }
    else
      let l := { l with
        writes := l.writes ++ [(l.write_offset, read_size.toNat)]
        write_offset := l.write_offset + read_size.toNat
        processed_sz := l.processed_sz + read_size.toNat }
      l.process r l.write_offset p
  else if size_to_read < l.processed_sz then l.process r size_to_read p
  else { l with process_count := l.process_count + 1 }

/-- The pass of a second stage keyword, once its state is cleared. -/
def advanceToKeyword (l : UvLoop) (p : UvPass) : UvLoop :=
  let l := { l with sec_kw_detect_state_ := .ENGINE_IDLE, status := p.keywordStatus }
  match p.keywordIndex with
  | none => { l with process_count := l.process_count + 1 }
  | some sec_kw_end_index =>
    if r.read_offset c < sec_kw_end_index then
      l.advance r (sec_kw_end_index - r.read_offset c) p
    else { l with process_count := l.process_count + 1 }

/-- The pass finds the first stage's keyword with its tolerance in the ring buffer. -/
def hasPostTolerance (l : UvLoop) (p : UvPass) : Bool :=
  !l.is_post_tolerance_processed && decide (r.fstage_est_proc_sz c ≤ p.unreadSize + l.processed_sz)

/-- The pass is left at the top of the loop. -/
def ends (l : UvLoop) (p : UvPass) : Bool :=
  decide (l.label ≠ .loop) || l.exit_buffering_ || p.stopped ||
    decide (r.max_process_count ≤ l.process_count)

/-- One pass. The lock is held but in the wait, where `setDetected` may be called. -/
def pass (l : UvLoop) (p : UvPass) : UvLoop :=
  if l.label ≠ .loop then l
  else if l.exit_buffering_ || p.stopped then { l with exit_buffering_ := true, label := .reinit }
  else if r.max_process_count < l.process_count then { l with label := .reinit }
  else if l.process_count = r.max_process_count then
    { l with detection_state_ := .USER_VERIFICATION_REJECT, label := .reinit }
  else if l.sec_kw_detect_state_ = .KEYWORD_DETECTION_SUCCESS then l.advanceToKeyword c r p
  else if l.sec_kw_detect_state_ = .KEYWORD_DETECTION_REJECT then
    { l with sec_kw_detect_state_ := .ENGINE_IDLE, label := .reinit }
  else if l.hasPostTolerance c r p then
    { l with is_post_tolerance_processed := true }.advance r (r.fstage_est_proc_sz c) p
  else
    match p.told with
    | none => l
    | some detection_state => { l with toUvEngine := l.toUvEngine.setDetected detection_state }

/-- The loop. After the passes `exit_buffering_` is found set. -/
def loop (l : UvLoop) (ps : List UvPass) : UvLoop := ps.foldl (fun l p => l.pass c r p) l

end UvLoop

/-- What a run returns, the engine after it, the size of `process_input_buff`, the writes into it and
the calls of the library. -/
structure UvResult where
  status : ℤ
  engine : UvEngine
  allocated : ℕ := 0
  writes : List (ℕ × ℕ) := []
  processes : List ℕ := []
  deriving DecidableEq, Repr

/-- The label `reinit`. -/
def UvRun.atReinit (r : UvRun) (rc : capi_v2_err_t) (status : ℤ) : ℤ :=
  if rc = .CAPI_V2_ENETRESET then status
  else if r.reinit = .CAPI_V2_EOK then status
  else -EINVAL

def startUserVerification (c : CapiConfig) (eng : UvEngine) (r : UvRun) : UvResult :=
  if r.updateUVScratchParam ≠ 0 then { status := r.updateUVScratchParam, engine := eng }
  else if !r.readerEnabled then { status := -EINVAL, engine := eng }
  else if r.end_idx ≤ r.start_idx then { status := -EINVAL, engine := eng }
  else
    let allocated := r.max_processing_sz c
    let isGmm := decide (r.fstage_module_type = .ST_MODULE_TYPE_GMM)
    if !r.callocs then { status := -ENOMEM, engine := eng, allocated }
    else if isGmm && decide (r.uvScoreStatus ≠ 0) then
      { status := r.uvScoreStatus, engine := eng, allocated }
    else if isGmm && decide (r.setUvScore ≠ .CAPI_V2_EOK) then
      { status := r.atReinit r.setUvScore (-EINVAL), engine := eng, allocated }
    else
      let l := UvLoop.loop c r { eng with } r.passes
      { status := if l.label = .exit then l.status else r.atReinit l.rc l.status
        engine := l.toUvEngine
        allocated
        writes := l.writes
        processes := l.processes }

/-- The run comes to its loop. -/
def UvRun.entersLoop (r : UvRun) : Prop :=
  r.updateUVScratchParam = 0 ∧ r.readerEnabled = true ∧ r.start_idx < r.end_idx ∧
    r.callocs = true ∧ (r.fstage_module_type = .ST_MODULE_TYPE_GMM →
      r.uvScoreStatus = 0 ∧ r.setUvScore = .CAPI_V2_EOK)

/-- A keyword that the pass takes from the second stage is an attempt. An attempt is counted with
each call of the library, too. -/
def CountsKeyword (c : CapiConfig) (r : UvRun) (l : UvLoop) (p : UvPass) : Prop :=
  l.sec_kw_detect_state_ = .KEYWORD_DETECTION_SUCCESS →
    (l.pass c r p).sec_kw_detect_state_ ≠ .KEYWORD_DETECTION_SUCCESS →
    l.process_count < (l.pass c r p).process_count

/-- What a run does right: it writes into what it has allocated, calls the library no more often
than it may, and counts each keyword of the second stage that it takes. -/
def VerifiesInBuffer (c : CapiConfig) (eng : UvEngine) (r : UvRun) : Prop :=
  let res := startUserVerification c eng r
  (∀ w ∈ res.writes, w.1 + w.2 ≤ res.allocated) ∧
    res.processes.length ≤ r.max_process_count ∧
    (r.entersLoop → Meets (fun l p => some (l.pass c r p)) (CountsKeyword c r) { eng with } r.passes)

/-- The size of the trigger that a pass finds. -/
def UvLoop.trigger (c : CapiConfig) (r : UvRun) (l : UvLoop) (p : UvPass) : Option ℕ :=
  if l.sec_kw_detect_state_ = .KEYWORD_DETECTION_SUCCESS then
    (p.keywordIndex.filter fun i => r.read_offset c < i).map fun i => i - r.read_offset c
  else if l.sec_kw_detect_state_ = .KEYWORD_DETECTION_REJECT then none
  else if l.hasPostTolerance c r p then some (r.fstage_est_proc_sz c)
  else none

/-- Where the trigger's size goes beyond what has been read, the buffer has room for it or for what
the reader has, and for a keyword of the second stage the reader has something. -/
def TriggerFits (c : CapiConfig) (r : UvRun) (l : UvLoop) (p : UvPass) : Prop :=
  l.ends r p = false → ∀ size ∈ l.trigger c r p, l.processed_sz < size →
    (size ≤ r.max_processing_sz c ∨ l.processed_sz + p.read ≤ r.max_processing_sz c) ∧
    (l.sec_kw_detect_state_ = .KEYWORD_DETECTION_SUCCESS → 0 < p.read)

/-! ### What a pass does -/

/-- A pass reads `k` bytes and counts `n` attempts. -/
structure Passed (l l' : UvLoop) (k n : ℕ) : Prop where
  writes : l'.writes = if k = 0 then l.writes else l.writes ++ [(l.write_offset, k)]
  write_offset : l'.write_offset = l.write_offset + k
  processed_sz : l'.processed_sz = l.processed_sz + k
  process_count : l'.process_count = l.process_count + n
  processes : l'.processes.length ≤ l.processes.length + n

/-- What the pass of a trigger reads. -/
def UvLoop.readSize (l : UvLoop) (size : ℕ) (p : UvPass) : ℕ :=
  if l.processed_sz < size then (min p.read (size - l.processed_sz : ℕ)).toNat else 0

/-- The pass of a trigger is an attempt, unless it has something to read and gets nothing. -/
def UvLoop.attempts (l : UvLoop) (size : ℕ) (p : UvPass) : ℕ :=
  if l.processed_sz < size ∧ p.read ≤ 0 then 0 else 1

section

variable {c : CapiConfig} {r : UvRun} {l : UvLoop} {p : UvPass} {size : ℕ}

theorem process_passed (size : ℕ) : Passed l (l.process r size p) 0 1 := by
  have hlength : (l.processes ++ [size]).length ≤ l.processes.length + 1 := by simp
  simp only [UvLoop.process]
  split_ifs
  all_goals exact ⟨rfl, rfl, rfl, rfl, hlength⟩

theorem process_sec (size : ℕ) :
    (l.process r size p).sec_kw_detect_state_ = l.sec_kw_detect_state_ := by
  simp only [UvLoop.process]
  split_ifs <;> rfl

theorem advance_passed (size : ℕ) :
    Passed l (l.advance r size p) (l.readSize size p) (l.attempts size p) := by
  unfold UvLoop.advance UvLoop.readSize UvLoop.attempts
  by_cases hlt : l.processed_sz < size
  · simp only [hlt, true_and, if_true]
    rcases lt_trichotomy (min p.read (size - l.processed_sz : ℕ)) 0 with hneg | hzero | hpos
    · have hread : p.read ≤ 0 := by omega
      rw [if_neg hneg.ne, if_pos hneg, if_pos hread, Int.toNat_of_nonpos hneg.le]
      exact ⟨rfl, rfl, rfl, rfl, le_rfl⟩
    · have hread : p.read ≤ 0 := by omega
      rw [if_pos hzero, if_pos hread, hzero]
      exact ⟨rfl, rfl, rfl, rfl, le_rfl⟩
    · have hread : ¬p.read ≤ 0 := by omega
      have hsome : (min p.read (size - l.processed_sz : ℕ)).toNat ≠ 0 := by omega
      rw [if_neg hpos.ne', if_neg hpos.not_gt, if_neg hread]
      obtain ⟨hwrites, hoffset, hprocessed, hcount, hcalls⟩ := process_passed (r := r) (p := p)
        (l := { l with
          writes := l.writes ++ [(l.write_offset, (min p.read (size - l.processed_sz : ℕ)).toNat)]
          write_offset := l.write_offset + (min p.read (size - l.processed_sz : ℕ)).toNat
          processed_sz := l.processed_sz + (min p.read (size - l.processed_sz : ℕ)).toNat })
        (l.write_offset + (min p.read (size - l.processed_sz : ℕ)).toNat)
      exact ⟨hwrites.trans (if_neg hsome).symm, hoffset, hprocessed, hcount, hcalls⟩
  · simp only [hlt, if_false, false_and]
    split_ifs with hgt
    · exact process_passed size
    · exact ⟨rfl, rfl, rfl, rfl, Nat.le_succ _⟩

theorem advance_sec (size : ℕ) :
    (l.advance r size p).sec_kw_detect_state_ = l.sec_kw_detect_state_ := by
  simp only [UvLoop.advance]
  split_ifs
  any_goals rfl
  all_goals exact process_sec _

theorem pass_of_ends (hends : l.ends r p = true) :
    Passed l (l.pass c r p) 0 0 ∧
      (l.pass c r p).sec_kw_detect_state_ = l.sec_kw_detect_state_ := by
  have hstays : ∀ l' : UvLoop, l'.writes = l.writes → l'.write_offset = l.write_offset →
      l'.processed_sz = l.processed_sz → l'.process_count = l.process_count →
      l'.processes = l.processes → Passed l l' 0 0 := by
    intro l' hwrites hoffset hprocessed hcount hcalls
    exact ⟨hwrites, hoffset, hprocessed, hcount, by rw [hcalls]; exact le_rfl⟩
  by_cases hlabel : l.label ≠ .loop
  · rw [UvLoop.pass, if_pos hlabel]
    exact ⟨hstays l rfl rfl rfl rfl rfl, rfl⟩
  by_cases hexit : (l.exit_buffering_ || p.stopped) = true
  · rw [UvLoop.pass, if_neg hlabel, if_pos hexit]
    exact ⟨hstays _ rfl rfl rfl rfl rfl, rfl⟩
  have hcount : r.max_process_count ≤ l.process_count := by
    simpa [UvLoop.ends, hlabel, hexit] using hends
  rw [UvLoop.pass, if_neg hlabel, if_neg hexit]
  split_ifs with hover hmax
  · exact ⟨hstays _ rfl rfl rfl rfl rfl, rfl⟩
  · exact ⟨hstays _ rfl rfl rfl rfl rfl, rfl⟩
  · omega
  · omega
  · omega
  · omega

/-- A pass that is not left at the top of the loop. -/
theorem pass_of_not_ends (hends : l.ends r p = false) :
    l.pass c r p =
      if l.sec_kw_detect_state_ = .KEYWORD_DETECTION_SUCCESS then l.advanceToKeyword c r p
      else if l.sec_kw_detect_state_ = .KEYWORD_DETECTION_REJECT then
        { l with sec_kw_detect_state_ := .ENGINE_IDLE, label := .reinit }
      else if l.hasPostTolerance c r p then
        { l with is_post_tolerance_processed := true }.advance r (r.fstage_est_proc_sz c) p
      else
        match p.told with
        | none => l
        | some detection_state =>
          { l with toUvEngine := l.toUvEngine.setDetected detection_state } := by
  simp only [UvLoop.ends, Bool.or_eq_false_iff, decide_eq_false_iff_not, not_not, not_le] at hends
  obtain ⟨⟨⟨hlabel, hexit⟩, hstopped⟩, hcount⟩ := hends
  have hloop : ¬l.label ≠ .loop := not_not.mpr hlabel
  have hruns : ¬(l.exit_buffering_ || p.stopped) = true := by simp [hexit, hstopped]
  rw [UvLoop.pass, if_neg hloop, if_neg hruns, if_neg (by omega), if_neg (by omega)]

theorem keyword_pass (hends : l.ends r p = false)
    (hsec : l.sec_kw_detect_state_ = .KEYWORD_DETECTION_SUCCESS) :
    (l.pass c r p).sec_kw_detect_state_ = .ENGINE_IDLE ∧
      match l.trigger c r p with
      | none => Passed l (l.pass c r p) 0 1
      | some size => Passed l (l.pass c r p) (l.readSize size p) (l.attempts size p) := by
  rw [pass_of_not_ends hends, if_pos hsec, UvLoop.trigger, if_pos hsec]
  unfold UvLoop.advanceToKeyword
  cases p.keywordIndex with
  | none => exact ⟨rfl, rfl, rfl, rfl, rfl, Nat.le_succ _⟩
  | some sec_kw_end_index =>
    by_cases hbehind : r.read_offset c < sec_kw_end_index
    · have htrigger : ((some sec_kw_end_index).filter fun i => decide (r.read_offset c < i)) =
          some sec_kw_end_index := by simp [hbehind]
      simp only [if_pos hbehind, htrigger, Option.map_some]
      refine ⟨advance_sec _, ?_⟩
      obtain ⟨hwrites, hoffset, hprocessed, hcount, hcalls⟩ := advance_passed (r := r) (p := p)
        (l := { l with sec_kw_detect_state_ := .ENGINE_IDLE, status := p.keywordStatus })
        (sec_kw_end_index - r.read_offset c)
      exact ⟨hwrites, hoffset, hprocessed, hcount, hcalls⟩
    · have htrigger : ((some sec_kw_end_index).filter fun i => decide (r.read_offset c < i)) =
          none := by simp [Nat.not_lt.mp hbehind]
      simp only [if_neg hbehind, htrigger, Option.map_none]
      exact ⟨trivial, rfl, rfl, rfl, rfl, Nat.le_succ _⟩

theorem other_pass (hends : l.ends r p = false)
    (hsec : l.sec_kw_detect_state_ ≠ .KEYWORD_DETECTION_SUCCESS) :
    match l.trigger c r p with
    | none => Passed l (l.pass c r p) 0 0
    | some size => Passed l (l.pass c r p) (l.readSize size p) (l.attempts size p) := by
  rw [pass_of_not_ends hends, if_neg hsec, UvLoop.trigger, if_neg hsec]
  split_ifs with hreject htolerance
  · exact ⟨rfl, rfl, rfl, rfl, le_rfl⟩
  · obtain ⟨hwrites, hoffset, hprocessed, hcount, hcalls⟩ := advance_passed (r := r) (p := p)
      (l := { l with is_post_tolerance_processed := true }) (r.fstage_est_proc_sz c)
    exact ⟨hwrites, hoffset, hprocessed, hcount, hcalls⟩
  · cases p.told with
    | none => exact ⟨rfl, rfl, rfl, rfl, le_rfl⟩
    | some detection_state => exact ⟨rfl, rfl, rfl, rfl, le_rfl⟩

/-- What a pass reads and counts. -/
theorem exists_passed (c : CapiConfig) (r : UvRun) (l : UvLoop) (p : UvPass) :
    ∃ k n, Passed l (l.pass c r p) k n ∧ n ≤ 1 ∧ (l.ends r p = true → n = 0) := by
  cases hends : l.ends r p with
  | true => exact ⟨0, 0, (pass_of_ends hends).1, Nat.zero_le 1, fun _ => rfl⟩
  | false =>
    have hattempts : ∀ size, l.attempts size p ≤ 1 := by
      intro size
      unfold UvLoop.attempts
      split_ifs <;> omega
    by_cases hsec : l.sec_kw_detect_state_ = .KEYWORD_DETECTION_SUCCESS
    · obtain ⟨-, hpass⟩ := keyword_pass (c := c) hends hsec
      cases htrigger : l.trigger c r p with
      | none =>
        rw [htrigger] at hpass
        exact ⟨0, 1, hpass, le_rfl, nofun⟩
      | some size =>
        rw [htrigger] at hpass
        exact ⟨_, _, hpass, hattempts size, nofun⟩
    · have hpass := other_pass (c := c) hends hsec
      cases htrigger : l.trigger c r p with
      | none =>
        rw [htrigger] at hpass
        exact ⟨0, 0, hpass, Nat.zero_le 1, nofun⟩
      | some size =>
        rw [htrigger] at hpass
        exact ⟨_, _, hpass, hattempts size, nofun⟩

/-! ### The law of the loop -/

/-- The calls of the library are attempts, and there is a last one. -/
structure UvLoop.Counted (r : UvRun) (l : UvLoop) : Prop where
  processes : l.processes.length ≤ l.process_count
  process_count : l.process_count ≤ r.max_process_count

theorem pass_counted (h : l.Counted r) : (l.pass c r p).Counted r := by
  obtain ⟨k, n, hpass, hone, hends⟩ := exists_passed c r l p
  have hprocesses := hpass.processes
  have hcount := hpass.process_count
  have hin := h.processes
  refine ⟨by omega, ?_⟩
  cases hend : l.ends r p with
  | true =>
    have hzero := hends hend
    have hmax := h.process_count
    omega
  | false =>
    have hmore : l.process_count < r.max_process_count := by
      simp only [UvLoop.ends, Bool.or_eq_false_iff, decide_eq_false_iff_not, not_le] at hend
      exact hend.2
    omega

/-- What is written is in the buffer, piece behind piece. -/
structure UvLoop.InBuffer (max : ℕ) (l : UvLoop) : Prop where
  writes : ∀ w ∈ l.writes, w.1 + w.2 ≤ max
  write_offset : l.write_offset = l.processed_sz
  processed_sz : l.processed_sz ≤ max

theorem Passed.inBuffer_iff {l' : UvLoop} {max k n : ℕ} (h : Passed l l' k n)
    (hin : l.InBuffer max) :
    (∀ w ∈ l'.writes, w.1 + w.2 ≤ max) ↔ l.processed_sz + k ≤ max := by
  rw [h.writes]
  have hmax := hin.processed_sz
  have hoffset := hin.write_offset
  split_ifs with hzero
  · exact iff_of_true hin.writes (by omega)
  · rw [List.forall_mem_append, List.forall_mem_singleton, hoffset]
    exact and_iff_right hin.writes

theorem Passed.inBuffer {l' : UvLoop} {max k n : ℕ} (h : Passed l l' k n) (hin : l.InBuffer max)
    (hwrites : ∀ w ∈ l'.writes, w.1 + w.2 ≤ max) : l'.InBuffer max := by
  have hroom := (h.inBuffer_iff hin).mp hwrites
  have hoffset := h.write_offset
  have hprocessed := h.processed_sz
  have hsame := hin.write_offset
  exact ⟨hwrites, by omega, by omega⟩

theorem readSize_fits_iff {max : ℕ} (hmax : l.processed_sz ≤ max) :
    l.processed_sz + l.readSize size p ≤ max ↔
      (l.processed_sz < size → size ≤ max ∨ l.processed_sz + p.read ≤ max) := by
  unfold UvLoop.readSize
  split_ifs with hlt
  · simp only [hlt, forall_const]
    constructor
    · intro hfits
      omega
    · intro hfits
      omega
  · exact iff_of_true (by omega) fun h => absurd h hlt

theorem attempts_pos_iff :
    0 < l.attempts size p ↔ (l.processed_sz < size → 0 < p.read) := by
  unfold UvLoop.attempts
  split_ifs with hnothing
  · exact iff_of_false (lt_irrefl 0) fun h => absurd (h hnothing.1) (by omega)
  · exact iff_of_true Nat.one_pos fun hlt => by
      by_contra hread
      exact hnothing ⟨hlt, by omega⟩

/-- One pass does right exactly when its trigger fits. -/
theorem pass_right_iff (hin : l.InBuffer (r.max_processing_sz c)) :
    ((∀ w ∈ (l.pass c r p).writes, w.1 + w.2 ≤ r.max_processing_sz c) ∧ CountsKeyword c r l p) ↔
      TriggerFits c r l p := by
  unfold TriggerFits CountsKeyword
  cases hends : l.ends r p with
  | true =>
    obtain ⟨hpass, hsec⟩ := pass_of_ends (c := c) hends
    refine iff_of_true ⟨(hpass.inBuffer_iff hin).mpr hin.processed_sz, ?_⟩ nofun
    rw [hsec]
    exact fun hkept hne => absurd hkept hne
  | false =>
    simp only [forall_const]
    by_cases hsec : l.sec_kw_detect_state_ = .KEYWORD_DETECTION_SUCCESS
    · obtain ⟨hcleared, hpass⟩ := keyword_pass (c := c) hends hsec
      have hidle : (l.pass c r p).sec_kw_detect_state_ ≠ .KEYWORD_DETECTION_SUCCESS := by
        rw [hcleared]
        decide
      simp only [hsec, forall_const, hidle, ne_eq, not_false_eq_true]
      cases htrigger : l.trigger c r p with
      | none =>
        rw [htrigger] at hpass
        refine iff_of_true ⟨(hpass.inBuffer_iff hin).mpr hin.processed_sz, ?_⟩ nofun
        rw [hpass.process_count]
        exact Nat.lt_succ_self _
      | some size =>
        rw [htrigger] at hpass
        rw [hpass.inBuffer_iff hin, hpass.process_count, readSize_fits_iff hin.processed_sz,
          Nat.lt_add_right_iff_pos, attempts_pos_iff]
        simp only [Option.mem_some_iff, forall_eq', forall_and]
    · have hpass := other_pass (c := c) hends hsec
      simp only [hsec, false_implies, and_true]
      cases htrigger : l.trigger c r p with
      | none =>
        rw [htrigger] at hpass
        exact iff_of_true ((hpass.inBuffer_iff hin).mpr hin.processed_sz) nofun
      | some size =>
        rw [htrigger] at hpass
        rw [hpass.inBuffer_iff hin, readSize_fits_iff hin.processed_sz]
        simp only [Option.mem_some_iff, forall_eq']

theorem pass_writes (c : CapiConfig) (r : UvRun) (l : UvLoop) (p : UvPass) :
    l.writes ⊆ (l.pass c r p).writes := by
  obtain ⟨k, n, hpass, -, -⟩ := exists_passed c r l p
  rw [hpass.writes]
  split_ifs
  · exact List.Subset.refl _
  · exact List.subset_append_left _ _

theorem loop_writes (c : CapiConfig) (r : UvRun) (l : UvLoop) (ps : List UvPass) :
    l.writes ⊆ (l.loop c r ps).writes := by
  induction ps generalizing l with
  | nil => exact List.Subset.refl _
  | cons p ps ih => exact List.Subset.trans (pass_writes c r l p) (ih (l.pass c r p))

theorem loop_counted (ps : List UvPass) (h : l.Counted r) : (l.loop c r ps).Counted r := by
  induction ps generalizing l with
  | nil => exact h
  | cons p ps ih => exact ih (pass_counted h)

theorem loop_right_iff (ps : List UvPass) (hin : l.InBuffer (r.max_processing_sz c)) :
    ((∀ w ∈ (l.loop c r ps).writes, w.1 + w.2 ≤ r.max_processing_sz c) ∧
        Meets (fun l p => some (l.pass c r p)) (CountsKeyword c r) l ps) ↔
      Meets (fun l p => some (l.pass c r p)) (TriggerFits c r) l ps := by
  induction ps generalizing l with
  | nil => exact iff_of_true ⟨hin.writes, trivial⟩ trivial
  | cons p ps ih =>
    obtain ⟨k, n, hpass, -, -⟩ := exists_passed c r l p
    rw [meets_some_cons, meets_some_cons]
    constructor
    · rintro ⟨hwrites, hcounts, hrest⟩
      -- nothing that was written is forgotten
      have hnow : ∀ w ∈ (l.pass c r p).writes, w.1 + w.2 ≤ r.max_processing_sz c :=
        fun w hw => hwrites w (loop_writes c r (l.pass c r p) ps hw)
      refine ⟨(pass_right_iff hin).mp ⟨hnow, hcounts⟩, ?_⟩
      exact (ih (hpass.inBuffer hin hnow)).mp ⟨hwrites, hrest⟩
    · rintro ⟨hfits, hrest⟩
      obtain ⟨hnow, hcounts⟩ := (pass_right_iff hin).mpr hfits
      obtain ⟨hwrites, hcountsRest⟩ := (ih (hpass.inBuffer hin hnow)).mpr hrest
      exact ⟨hwrites, hcounts, hcountsRest⟩

/-! ### The whole run -/

theorem startUserVerification_of_entersLoop (c : CapiConfig) (eng : UvEngine)
    (h : r.entersLoop) :
    (startUserVerification c eng r).allocated = r.max_processing_sz c ∧
      (startUserVerification c eng r).writes = (UvLoop.loop c r { eng with } r.passes).writes ∧
      (startUserVerification c eng r).processes =
        (UvLoop.loop c r { eng with } r.passes).processes := by
  obtain ⟨hscratch, hreader, hidx, hcallocs, hgmm⟩ := h
  have hscore : (decide (r.fstage_module_type = .ST_MODULE_TYPE_GMM) &&
      decide (r.uvScoreStatus ≠ 0)) = false := by
    simp only [Bool.and_eq_false_iff, decide_eq_false_iff_not, not_not]
    exact or_iff_not_imp_left.mpr fun hm => (hgmm (not_not.mp hm)).1
  have hset : (decide (r.fstage_module_type = .ST_MODULE_TYPE_GMM) &&
      decide (r.setUvScore ≠ .CAPI_V2_EOK)) = false := by
    simp only [Bool.and_eq_false_iff, decide_eq_false_iff_not, not_not]
    exact or_iff_not_imp_left.mpr fun hm => (hgmm (not_not.mp hm)).2
  simp only [startUserVerification, hscratch, ne_eq, not_true_eq_false, if_false, hreader,
    Bool.not_true, Bool.false_eq_true, if_neg (Nat.not_le.mpr hidx), hcallocs]
  simp only [ne_eq] at hscore hset
  simp only [hscore, hset, Bool.false_eq_true, if_false, and_self]

theorem startUserVerification_of_not_entersLoop (c : CapiConfig) (eng : UvEngine)
    (h : ¬r.entersLoop) :
    (startUserVerification c eng r).writes = [] ∧
      (startUserVerification c eng r).processes = [] := by
  unfold startUserVerification
  by_cases hscratch : r.updateUVScratchParam = 0
  swap
  · rw [if_pos hscratch]
    exact ⟨rfl, rfl⟩
  by_cases hreader : r.readerEnabled = true
  swap
  · rw [if_neg (not_not.mpr hscratch), if_pos (by simpa using hreader)]
    exact ⟨rfl, rfl⟩
  by_cases hidx : r.start_idx < r.end_idx
  swap
  · rw [if_neg (not_not.mpr hscratch), if_neg (by simpa using hreader),
      if_pos (Nat.le_of_not_lt hidx)]
    exact ⟨rfl, rfl⟩
  by_cases hcallocs : r.callocs = true
  swap
  · simp [hscratch, hreader, hidx.not_ge, hcallocs]
  have hgmm : r.fstage_module_type = .ST_MODULE_TYPE_GMM := by
    by_contra hgmm
    exact h ⟨hscratch, hreader, hidx, hcallocs, fun hm => absurd hm hgmm⟩
  by_cases hscore : r.uvScoreStatus = 0
  · have hset : r.setUvScore ≠ .CAPI_V2_EOK := fun hset =>
      h ⟨hscratch, hreader, hidx, hcallocs, fun _ => ⟨hscore, hset⟩⟩
    simp [hscratch, hreader, hidx.not_ge, hcallocs, hgmm, hscore, hset]
  · simp [hscratch, hreader, hidx.not_ge, hcallocs, hgmm, hscore]

/-- **Second stage user verification.** A run writes only into its buffer and counts each keyword
that it takes exactly when all along its loop the triggers fit. It never calls the library too
often. -/
theorem verifiesInBuffer_iff (c : CapiConfig) (eng : UvEngine) (r : UvRun) :
    VerifiesInBuffer c eng r ↔
      (r.entersLoop → Meets (fun l p => some (l.pass c r p)) (TriggerFits c r) { eng with } r.passes) := by
  unfold VerifiesInBuffer
  by_cases henters : r.entersLoop
  · obtain ⟨hallocated, hwrites, hprocesses⟩ := startUserVerification_of_entersLoop c eng henters
    have hin : UvLoop.InBuffer (r.max_processing_sz c) { eng with } :=
      ⟨by simp, rfl, Nat.zero_le _⟩
    have hcounted : UvLoop.Counted r { eng with } := ⟨le_rfl, Nat.zero_le _⟩
    have hloop := loop_counted (c := c) r.passes hcounted
    simp only [hallocated, hwrites, hprocesses, henters, forall_const]
    rw [← loop_right_iff r.passes hin]
    refine and_congr_right fun _ => and_iff_right ?_
    exact hloop.processes.trans hloop.process_count
  · obtain ⟨hwrites, hprocesses⟩ := startUserVerification_of_not_entersLoop c eng henters
    refine iff_of_true ⟨?_, ?_, fun h => absurd h henters⟩ fun h => absurd h henters
    · rw [hwrites]
      exact fun w hw => absurd hw List.not_mem_nil
    · rw [hprocesses]
      exact Nat.zero_le _

/-- A keyword of one second. The second stage ends it more than two seconds later: all of it is
written into a buffer of three seconds. -/
theorem not_verifiesInBuffer_lateEnd :
    ¬VerifiesInBuffer mono16k {}
      { start_idx := 0
        end_idx := 32000
        passes := [{ told := some .KEYWORD_DETECTION_SUCCESS },
          { keywordIndex := some 100000, read := 100000 }] } ∧
    (startUserVerification mono16k {}
      { start_idx := 0
        end_idx := 32000
        passes := [{ told := some .KEYWORD_DETECTION_SUCCESS },
          { keywordIndex := some 100000, read := 100000 }] }).writes = [(0, 100000)] := by
  refine ⟨fun h => ?_, by decide⟩
  have hwrites := h.1 (0, 100000) (by decide)
  exact absurd hwrites (by decide)

end

end AudioReachPal.Capi
