import AudioReachPal.Ring.Overrun

/-!
# The copy transfer

`startBuffering` without a shared memory: each pass looks for room for a whole buffer in the ring,
reads the session, and writes what it has read behind the bytes to drop. The ring is not held from
the look to the write: in between, the first read of a client enables its prepared reader, and what
that has not read takes room that the pass has counted.
-/

namespace AudioReachPal.Gsl

open AudioReachPal.Lib
open AudioReachPal.Ring

/-- The calls of other threads on the ring. -/
def ringCalls (rb : PalRingBuffer) (calls : List Op) : PalRingBuffer :=
  calls.foldl (fun rb call => ((Hist.start rb).step call).rb) rb

structure CopyConfig where
  input_buf_size : ℕ
  input_buf_num : ℕ
  callocs : Bool := true
  /-- What the pre-roll of a GMM model leaves to drop, and nothing for another one. -/
  bytes_to_drop : ℕ := 0
  /-- The history buffer of the engine. -/
  histSize : ℕ := 0

/-- `buf.size`. -/
def CopyConfig.size (cfg : CopyConfig) : ℕ := size64 (cfg.input_buf_size * cfg.input_buf_num)

/-- What the thread meets in one pass. -/
structure CopyPass where
  /-- The calls of other threads on the ring before the pass. -/
  before : List Op := []
  /-- `exit_buffering_` is set, or the engine is not buffering any more. -/
  stopped : Bool := false
  /-- `use_lpi_`, for a module with its lab in LPI. -/
  lpiLab : Bool := false
  readStatus : ℤ := 0
  data : List UInt8 := []
  /-- The calls of other threads on the ring from the look for room to the write. -/
  during : List Op := []
  setEngineDetectionState : ℤ := 0
  /-- The streams that are detected while the mutex is free for the notification. -/
  notifying : List StreamId := []
  otherStreamsBuffering : Bool := false
  /-- The streams that are detected while the thread sleeps. -/
  sleeping : List StreamId := []

/-- How far the history was when something happened. -/
structure Mark where
  total_read_size : ℕ
  ftrt_size : ℕ
  deriving DecidableEq, Repr

/-- The loop: the ring, the locals, and what has been requested, read, written and notified. -/
structure CopyLoop where
  rb : PalRingBuffer
  s : StreamId
  det_streams_q_ : List StreamId := []
  ftrt_size : ℕ
  total_read_size : ℕ := 0
  bytes_to_drop : ℕ
  event_notified : Bool := false
  status : ℤ := 0
  left : Bool := false
  requests : List (Mark × ℕ) := []
  session : List UInt8 := []
  copied : List UInt8 := []
  notified : List (StreamId × Mark) := []

namespace CopyLoop

/-- The loop before its first pass. -/
def start (cfg : CopyConfig) (rb : PalRingBuffer) (s : StreamId) (det_streams_q_ : List StreamId) :
    CopyLoop where
  rb := rb
  s := s
  det_streams_q_ := det_streams_q_
  ftrt_size := (rb.kwCfg_ s).ftrtSize
  bytes_to_drop := cfg.bytes_to_drop
  status := if cfg.callocs then 0 else -ENOMEM
  left := !cfg.callocs

variable (cfg : CopyConfig)

def mark (l : CopyLoop) : Mark := ⟨l.total_read_size, l.ftrt_size⟩

/-- The next detected stream, once the one before it is notified. -/
def nextStream (l : CopyLoop) : CopyLoop :=
  match l.event_notified, l.det_streams_q_ with
  | true, s :: q =>
    { l with
      s := s
      det_streams_q_ := q
      ftrt_size := (l.rb.kwCfg_ s).ftrtSize
      event_notified := false }
  | _, _ => l

/-- The pass up to its look for room. -/
def begins (l : CopyLoop) (p : CopyPass) : CopyLoop :=
  let l := { l with rb := ringCalls l.rb p.before }.nextStream
  { l with ftrt_size := if l.ftrt_size = 0 ∧ p.lpiLab = true then cfg.histSize else l.ftrt_size }

/-- The size that the session is asked for. -/
def request (l : CopyLoop) : ℕ :=
  if l.total_read_size < l.ftrt_size ∧ l.ftrt_size - l.total_read_size < cfg.size then
    l.ftrt_size - l.total_read_size
  else cfg.size

def write (l : CopyLoop) (writeBuffer : List UInt8) : CopyLoop :=
  { l with
    rb := (l.rb.write writeBuffer).2
    copied := l.copied ++ writeBuffer.take (l.rb.write writeBuffer).1 }

/-- What was read goes into the ring, without the bytes to drop. -/
def deliver (l : CopyLoop) (data : List UInt8) : CopyLoop :=
  let l := { l with
    total_read_size := l.total_read_size + data.length
    session := l.session ++ data }
  if data.length = 0 then l
  else if l.bytes_to_drop ≠ 0 then
    if data.length < l.bytes_to_drop then
      { l with bytes_to_drop := l.bytes_to_drop - data.length }
    else { l.write (data.drop l.bytes_to_drop) with bytes_to_drop := 0 }
  else l.write data

/-- The read of a pass. The session returns no more than it is asked for. -/
def read (l : CopyLoop) (p : CopyPass) : CopyLoop :=
  if cfg.size ≤ l.rb.getFreeSize then
    let data := p.data.take (l.request cfg)
    let l := { l with
      rb := ringCalls l.rb p.during
      requests := l.requests ++ [(l.mark, l.request cfg)]
      status := p.readStatus }
    if p.readStatus ≠ 0 then { l with left := true } else l.deliver data
  else l

def notify (l : CopyLoop) (p : CopyPass) : CopyLoop :=
  let l := { l with
    notified := l.notified ++ [(l.s, l.mark)]
    status := p.setEngineDetectionState
    det_streams_q_ := l.det_streams_q_ ++ p.notifying }
  if p.setEngineDetectionState < 0 then
    if !l.det_streams_q_.isEmpty || p.otherStreamsBuffering then
      { l with status := 0, event_notified := true }
    else { l with left := true }
  else { l with event_notified := true }

/-- The end of a pass, with the sleep once the history is read. -/
def ends (l : CopyLoop) (p : CopyPass) : CopyLoop :=
  if l.ftrt_size ≤ l.total_read_size then
    let l := if l.event_notified then l else l.notify p
    if l.left then l else { l with det_streams_q_ := l.det_streams_q_ ++ p.sleeping }
  else l

/-- One pass. -/
def pass (l : CopyLoop) (p : CopyPass) : CopyLoop :=
  if l.left then l
  else if p.stopped then { l with left := true }
  else
    let l := (l.begins cfg p).read cfg p
    if l.left then l else l.ends p

end CopyLoop

/-- What a pass does right: the ring has been given all that was read behind the bytes to drop, no
read crosses the end of the history, no stream is notified before its history is read, and none is
left unnotified after it. -/
structure CopiesRight (cfg : CopyConfig) (l : CopyLoop) (p : CopyPass) : Prop where
  lossless : (l.pass cfg p).copied = (l.pass cfg p).session.drop cfg.bytes_to_drop
  requests : ∀ r ∈ (l.pass cfg p).requests, r.1.total_read_size < r.1.ftrt_size →
    r.1.total_read_size + r.2 ≤ r.1.ftrt_size
  notEarly : ∀ n ∈ (l.pass cfg p).notified, n.2.ftrt_size ≤ n.2.total_read_size
  notLate : (l.pass cfg p).left = false →
    (l.pass cfg p).ftrt_size ≤ (l.pass cfg p).total_read_size → (l.pass cfg p).event_notified = true

/-- The pass reads the session. -/
def CopyLoop.reads (cfg : CopyConfig) (l : CopyLoop) (p : CopyPass) : Prop :=
  l.left = false ∧ p.stopped = false ∧ cfg.size ≤ (l.begins cfg p).rb.getFreeSize ∧ p.readStatus = 0

/-- When the pass writes, the ring still has room for what it has read. -/
def RoomLeft (cfg : CopyConfig) (l : CopyLoop) (p : CopyPass) : Prop :=
  l.reads cfg p →
    ((p.data.take ((l.begins cfg p).request cfg)).drop l.bytes_to_drop).length ≤
      (ringCalls (l.begins cfg p).rb p.during).getFreeSize

variable {cfg : CopyConfig} {l : CopyLoop} {p : CopyPass}

/-! ### What a pass does -/

theorem CopyLoop.request_le (cfg : CopyConfig) (l : CopyLoop) : l.request cfg ≤ cfg.size := by
  unfold CopyLoop.request
  split_ifs <;> omega

theorem CopyLoop.request_fits (cfg : CopyConfig) (l : CopyLoop)
    (hhist : l.total_read_size < l.ftrt_size) :
    l.total_read_size + l.request cfg ≤ l.ftrt_size := by
  unfold CopyLoop.request
  split_ifs <;> omega

theorem begins_spec (cfg : CopyConfig) (l : CopyLoop) (p : CopyPass) :
    (l.begins cfg p).total_read_size = l.total_read_size ∧
      (l.begins cfg p).bytes_to_drop = l.bytes_to_drop ∧ (l.begins cfg p).left = l.left ∧
      (l.begins cfg p).requests = l.requests ∧ (l.begins cfg p).session = l.session ∧
      (l.begins cfg p).copied = l.copied ∧ (l.begins cfg p).notified = l.notified := by
  unfold CopyLoop.begins CopyLoop.nextStream
  split <;> exact ⟨rfl, rfl, rfl, rfl, rfl, rfl, rfl⟩

/-- What the loop has kept so far. -/
structure CopyLoop.Kept (cfg : CopyConfig) (l : CopyLoop) : Prop where
  total_read_size : l.total_read_size = l.session.length
  bytes_to_drop : l.bytes_to_drop = cfg.bytes_to_drop - l.session.length
  lossless : l.copied = l.session.drop cfg.bytes_to_drop
  requests : ∀ r ∈ l.requests, r.1.total_read_size < r.1.ftrt_size →
    r.1.total_read_size + r.2 ≤ r.1.ftrt_size
  notEarly : ∀ n ∈ l.notified, n.2.ftrt_size ≤ n.2.total_read_size

theorem deliver_spec (l : CopyLoop) (data : List UInt8) :
    (l.deliver data).total_read_size = l.total_read_size + data.length ∧
      (l.deliver data).bytes_to_drop = l.bytes_to_drop - data.length ∧
      (l.deliver data).session = l.session ++ data ∧
      (l.deliver data).copied = l.copied ++
        (data.drop l.bytes_to_drop).take (l.rb.write (data.drop l.bytes_to_drop)).1 ∧
      (l.deliver data).requests = l.requests ∧ (l.deliver data).notified = l.notified ∧
      (l.deliver data).left = l.left := by
  unfold CopyLoop.deliver
  by_cases hnone : data.length = 0
  · have hdata : data = [] := List.length_eq_zero_iff.mp hnone
    subst hdata
    simp
  · by_cases hdrop : l.bytes_to_drop = 0
    · simp [hnone, hdrop, CopyLoop.write]
    · by_cases hall : data.length < l.bytes_to_drop
      · have hgone : data.drop l.bytes_to_drop = [] := List.drop_eq_nil_of_le (Nat.le_of_lt hall)
        simp [hnone, hdrop, hall, hgone]
      · have hzero : l.bytes_to_drop - data.length = 0 := by omega
        simp [hnone, hdrop, hall, hzero, CopyLoop.write]

theorem CopyLoop.Kept.begins (h : l.Kept cfg) (p : CopyPass) : (l.begins cfg p).Kept cfg := by
  obtain ⟨htotal, hdrop, -, hrequests, hsession, hcopied, hnotified⟩ := begins_spec cfg l p
  refine ⟨?_, ?_, ?_, ?_, ?_⟩
  · rw [htotal, hsession]
    exact h.total_read_size
  · rw [hdrop, hsession]
    exact h.bytes_to_drop
  · rw [hcopied, hsession]
    exact h.lossless
  · rw [hrequests]
    exact h.requests
  · rw [hnotified]
    exact h.notEarly

theorem CopyLoop.Kept.congr {l' : CopyLoop} (h : l.Kept cfg)
    (htotal : l'.total_read_size = l.total_read_size) (hdrop : l'.bytes_to_drop = l.bytes_to_drop)
    (hrequests : l'.requests = l.requests) (hsession : l'.session = l.session)
    (hcopied : l'.copied = l.copied)
    (hnotified : ∀ n ∈ l'.notified, n ∈ l.notified ∨ n.2.ftrt_size ≤ n.2.total_read_size) :
    l'.Kept cfg := by
  refine ⟨?_, ?_, ?_, ?_, fun n hn => (hnotified n hn).elim (h.notEarly n) id⟩
  · rw [htotal, hsession]
    exact h.total_read_size
  · rw [hdrop, hsession]
    exact h.bytes_to_drop
  · rw [hcopied, hsession]
    exact h.lossless
  · rw [hrequests]
    exact h.requests

theorem CopyLoop.Kept.piece (h : l.Kept cfg) (data : List UInt8) :
    (l.session ++ data).drop cfg.bytes_to_drop = l.copied ++ data.drop l.bytes_to_drop := by
  rw [List.drop_append, h.lossless, h.bytes_to_drop]

/-- A piece is not written whole into a ring without room for it. -/
theorem CopyLoop.Kept.room_of_deliver (h : l.Kept cfg) {data : List UInt8}
    (hall : (l.deliver data).copied = (l.deliver data).session.drop cfg.bytes_to_drop) :
    (data.drop l.bytes_to_drop).length ≤ l.rb.getFreeSize := by
  obtain ⟨-, -, hsession, hcopied, -⟩ := deliver_spec l data
  rw [hcopied, hsession, h.piece, List.append_cancel_left_eq, List.take_eq_self_iff] at hall
  by_contra hroom
  have hcut : (l.rb.write (data.drop l.bytes_to_drop)).1 = l.rb.getFreeSize := if_neg hroom
  omega

theorem CopyLoop.Kept.deliver (h : l.Kept cfg) {data : List UInt8}
    (hroom : (data.drop l.bytes_to_drop).length ≤ l.rb.getFreeSize) :
    (l.deliver data).Kept cfg := by
  obtain ⟨htotal, hdrop, hsession, hcopied, hrequests, hnotified, -⟩ := deliver_spec l data
  have hall : (l.rb.write (data.drop l.bytes_to_drop)).1 = (data.drop l.bytes_to_drop).length :=
    if_pos hroom
  refine ⟨?_, ?_, ?_, ?_, ?_⟩
  · rw [htotal, hsession, List.length_append, h.total_read_size]
  · rw [hdrop, hsession, List.length_append, h.bytes_to_drop, Nat.sub_sub]
  · rw [hcopied, hsession, h.piece, hall, List.take_length]
  · rw [hrequests]
    exact h.requests
  · rw [hnotified]
    exact h.notEarly

/-- The state of a pass that has room, before the read is delivered. -/
theorem CopyLoop.Kept.requested (h : l.Kept cfg) (rb : PalRingBuffer) (status : ℤ) :
    CopyLoop.Kept cfg { l with
      rb := rb
      requests := l.requests ++ [(l.mark, l.request cfg)]
      status := status } := by
  refine ⟨h.total_read_size, h.bytes_to_drop, h.lossless, ?_, h.notEarly⟩
  intro r hr hhist
  rcases List.mem_append.mp hr with hr | hr
  · exact h.requests r hr hhist
  · obtain rfl := List.mem_singleton.mp hr
    exact l.request_fits cfg hhist

/-- What a read leaves. -/
theorem read_cases (cfg : CopyConfig) (l : CopyLoop) (p : CopyPass) :
    l.read cfg p = l ∨
      (p.readStatus ≠ 0 ∧ l.read cfg p = { l with
        rb := ringCalls l.rb p.during
        requests := l.requests ++ [(l.mark, l.request cfg)]
        status := p.readStatus
        left := true }) ∨
      (cfg.size ≤ l.rb.getFreeSize ∧ p.readStatus = 0 ∧ l.read cfg p = CopyLoop.deliver { l with
        rb := ringCalls l.rb p.during
        requests := l.requests ++ [(l.mark, l.request cfg)]
        status := 0 } (p.data.take (l.request cfg))) := by
  unfold CopyLoop.read
  by_cases hroom : cfg.size ≤ l.rb.getFreeSize
  · rw [if_pos hroom]
    by_cases hstatus : p.readStatus = 0
    · refine Or.inr (Or.inr ⟨hroom, hstatus, ?_⟩)
      simp only [hstatus, ne_eq, not_true_eq_false, if_false]
    · exact Or.inr (Or.inl ⟨hstatus, if_pos hstatus⟩)
  · exact Or.inl (if_neg hroom)

theorem ends_spec (l : CopyLoop) (p : CopyPass) :
    ((l.ends p).total_read_size = l.total_read_size ∧ (l.ends p).ftrt_size = l.ftrt_size ∧
      (l.ends p).bytes_to_drop = l.bytes_to_drop ∧ (l.ends p).requests = l.requests ∧
      (l.ends p).session = l.session ∧ (l.ends p).copied = l.copied) ∧
    (∀ n ∈ (l.ends p).notified, n ∈ l.notified ∨ n.2.ftrt_size ≤ n.2.total_read_size) ∧
    ((l.ends p).left = false → l.ftrt_size ≤ l.total_read_size →
      (l.ends p).event_notified = true) := by
  unfold CopyLoop.ends
  by_cases hread : l.ftrt_size ≤ l.total_read_size
  swap
  · rw [if_neg hread]
    exact ⟨⟨rfl, rfl, rfl, rfl, rfl, rfl⟩, fun n hn => Or.inl hn, fun _ h => absurd h hread⟩
  rw [if_pos hread]
  have hmark : ∀ n ∈ l.notified ++ [(l.s, l.mark)],
      n ∈ l.notified ∨ n.2.ftrt_size ≤ n.2.total_read_size := by
    intro n hn
    rcases List.mem_append.mp hn with hn | hn
    · exact Or.inl hn
    · obtain rfl := List.mem_singleton.mp hn
      exact Or.inr hread
  by_cases hnotified : l.event_notified = true
  · simp only [hnotified, if_true]
    split_ifs
    · exact ⟨⟨rfl, rfl, rfl, rfl, rfl, rfl⟩, fun n hn => Or.inl hn, fun _ _ => hnotified⟩
    · exact ⟨⟨rfl, rfl, rfl, rfl, rfl, rfl⟩, fun n hn => Or.inl hn, fun _ _ => rfl⟩
  · simp only [hnotified, Bool.false_eq_true, if_false]
    simp only [CopyLoop.notify]
    split_ifs with hfails hothers hleft hleft hleft
    all_goals refine ⟨⟨rfl, rfl, rfl, rfl, rfl, rfl⟩, hmark, ?_⟩
    all_goals first | exact fun _ _ => rfl | exact fun h _ => absurd h (by simp)

/-- A pass that goes on: what its read has kept, its end keeps. -/
theorem CopyLoop.Kept.ends (h : l.Kept cfg) (p : CopyPass) : (l.ends p).Kept cfg := by
  obtain ⟨⟨htotal, -, hdrop, hrequests, hsession, hcopied⟩, hnotified, -⟩ := ends_spec l p
  exact h.congr htotal hdrop hrequests hsession hcopied hnotified

theorem pass_of_runs (hleft : l.left = false) (hstopped : p.stopped = false) :
    l.pass cfg p = if ((l.begins cfg p).read cfg p).left then (l.begins cfg p).read cfg p
      else ((l.begins cfg p).read cfg p).ends p := by
  simp only [CopyLoop.pass, hleft, hstopped, Bool.false_eq_true, if_false]

theorem CopyLoop.Kept.pass (h : l.Kept cfg) (hroom : RoomLeft cfg l p) : (l.pass cfg p).Kept cfg := by
  cases hleft : l.left with
  | true => rwa [CopyLoop.pass, if_pos hleft]
  | false =>
    cases hstopped : p.stopped with
    | true =>
      rw [CopyLoop.pass, hleft, if_neg Bool.false_ne_true, if_pos hstopped]
      exact h.congr rfl rfl rfl rfl rfl fun n hn => Or.inl hn
    | false =>
      have hread : ((l.begins cfg p).read cfg p).Kept cfg := by
        have hbegins := h.begins p
        rcases read_cases cfg (l.begins cfg p) p with heq | ⟨-, heq⟩ | ⟨hfree, hstatus, heq⟩
        · rwa [heq]
        · rw [heq]
          have hrequested := hbegins.requested (ringCalls (l.begins cfg p).rb p.during) p.readStatus
          exact hrequested.congr rfl rfl rfl rfl rfl fun n hn => Or.inl hn
        · rw [heq]
          refine (hbegins.requested (ringCalls (l.begins cfg p).rb p.during) 0).deliver ?_
          have hpiece := hroom ⟨hleft, hstopped, hfree, hstatus⟩
          rwa [← (begins_spec cfg l p).2.1] at hpiece
      rw [pass_of_runs hleft hstopped]
      split_ifs
      · exact hread
      · exact hread.ends p

/-- The ring had room in a pass that lost nothing. -/
theorem CopyLoop.Kept.room_of_pass (h : l.Kept cfg)
    (hall : (l.pass cfg p).copied = (l.pass cfg p).session.drop cfg.bytes_to_drop) :
    RoomLeft cfg l p := by
  rintro ⟨hleft, hstopped, hfree, hstatus⟩
  have hread : ((l.begins cfg p).read cfg p).copied =
      ((l.begins cfg p).read cfg p).session.drop cfg.bytes_to_drop := by
    rw [pass_of_runs hleft hstopped] at hall
    split_ifs at hall
    · exact hall
    · obtain ⟨⟨-, -, -, -, hsession, hcopied⟩, -, -⟩ :=
        ends_spec ((l.begins cfg p).read cfg p) p
      rwa [hsession, hcopied] at hall
  have heq : (l.begins cfg p).read cfg p = CopyLoop.deliver { l.begins cfg p with
      rb := ringCalls (l.begins cfg p).rb p.during
      requests := (l.begins cfg p).requests ++
        [((l.begins cfg p).mark, (l.begins cfg p).request cfg)]
      status := 0 } (p.data.take ((l.begins cfg p).request cfg)) := by
    simp only [CopyLoop.read, hfree, if_true, hstatus, ne_eq, not_true_eq_false, if_false]
  rw [heq] at hread
  have hpiece := ((h.begins p).requested _ 0).room_of_deliver hread
  rwa [(begins_spec cfg l p).2.1] at hpiece

theorem pass_notLate (hleft : (l.pass cfg p).left = false)
    (hhist : (l.pass cfg p).ftrt_size ≤ (l.pass cfg p).total_read_size) :
    (l.pass cfg p).event_notified = true := by
  cases hl : l.left with
  | true =>
    rw [CopyLoop.pass, if_pos hl, hl] at hleft
    cases hleft
  | false =>
    cases hstopped : p.stopped with
    | true =>
      rw [CopyLoop.pass, hl, if_neg Bool.false_ne_true, if_pos hstopped] at hleft
      cases hleft
    | false =>
      rw [pass_of_runs hl hstopped] at hleft hhist ⊢
      split_ifs at hleft hhist ⊢ with hread
      · rw [hread] at hleft
        cases hleft
      · obtain ⟨⟨htotal, hftrt, -⟩, -, hnotified⟩ := ends_spec ((l.begins cfg p).read cfg p) p
        rw [htotal, hftrt] at hhist
        exact hnotified hleft hhist

/-- One pass does right exactly when the ring still has room when it writes. -/
theorem copiesRight_iff (h : l.Kept cfg) : CopiesRight cfg l p ↔ RoomLeft cfg l p := by
  constructor
  · exact fun hright => h.room_of_pass hright.lossless
  · intro hroom
    have hkept := h.pass hroom
    exact ⟨hkept.lossless, hkept.requests, hkept.notEarly, pass_notLate⟩

theorem start_kept (cfg : CopyConfig) (rb : PalRingBuffer) (s : StreamId) (q : List StreamId) :
    (CopyLoop.start cfg rb s q).Kept cfg :=
  ⟨rfl, rfl, List.drop_nil.symm, fun _ hr => absurd hr List.not_mem_nil,
    fun _ hn => absurd hn List.not_mem_nil⟩

/-- The passes from a loop that keeps its invariant do right as long as the ring has room. -/
theorem CopyLoop.Kept.meets_iff (h : l.Kept cfg) (passes : List CopyPass) :
    Meets (fun l p => some (l.pass cfg p)) (CopiesRight cfg) l passes ↔
      Meets (fun l p => some (l.pass cfg p)) (RoomLeft cfg) l passes := by
  have hkept : ∀ (l : CopyLoop) p l', RoomLeft cfg l p → l.Kept cfg →
      some (l.pass cfg p) = some l' → l'.Kept cfg := by
    rintro l p _ hroom h ⟨⟩
    exact h.pass hroom
  exact meets_iff_of_kept hkept (fun _ _ h => copiesRight_iff h) h

/-- **The copy transfer.** In every run of passes each one does right exactly when in each the ring
still has room when the pass writes. -/
theorem copiesRight_along_iff (cfg : CopyConfig) (rb : PalRingBuffer) (s : StreamId)
    (det_streams_q_ : List StreamId) (passes : List CopyPass) :
    Meets (fun l p => some (l.pass cfg p)) (CopiesRight cfg)
        (CopyLoop.start cfg rb s det_streams_q_) passes ↔
      Meets (fun l p => some (l.pass cfg p)) (RoomLeft cfg)
        (CopyLoop.start cfg rb s det_streams_q_) passes :=
  (start_kept cfg rb s det_streams_q_).meets_iff passes

/-- The look for room is right as long as no other thread calls the ring before the write. -/
theorem roomLeft_of_quiet (hquiet : p.during = []) : RoomLeft cfg l p := by
  rintro ⟨-, -, hfree, -⟩
  have hrequest := (l.begins cfg p).request_le cfg
  rw [hquiet]
  change _ ≤ (l.begins cfg p).rb.getFreeSize
  rw [List.length_drop, List.length_take]
  omega

/-- Other threads between the passes never make the transfer lose anything. -/
theorem copiesRight_of_quiet (cfg : CopyConfig) (rb : PalRingBuffer) (s : StreamId)
    (det_streams_q_ : List StreamId) {passes : List CopyPass}
    (hquiet : ∀ p ∈ passes, p.during = []) :
    Meets (fun l p => some (l.pass cfg p)) (CopiesRight cfg)
      (CopyLoop.start cfg rb s det_streams_q_) passes :=
  ((start_kept cfg rb s det_streams_q_).meets_iff passes).mpr
    (meets_of_forall (fun _ p hp => roomLeft_of_quiet (hquiet p hp)) _)

/-- A ring of four bytes, whose client has not read yet. -/
def preparedRing : PalRingBuffer :=
  fourBytes.setReader 0 { PalRingBufferReader.init with state_ := .READER_PREPARED }

/-- The client reads its first byte while the session is read: it has three bytes left, and the pass
that had counted four bytes of room writes one of its two. -/
theorem not_copiesRight_firstRead :
    ¬Meets (fun l p => some (l.pass ⟨2, 1, true, 0, 0⟩ p)) (CopiesRight ⟨2, 1, true, 0, 0⟩)
      (CopyLoop.start ⟨2, 1, true, 0, 0⟩ preparedRing 0 [])
      [{ data := [1, 2] }, { data := [3, 4] }, { data := [5, 6], during := [.read 0 1] }] := by
  intro h
  have hright := (meets_some_cons.mp (meets_some_cons.mp (meets_some_cons.mp h).2).2).1
  exact absurd hright.lossless (by decide)

end AudioReachPal.Gsl
