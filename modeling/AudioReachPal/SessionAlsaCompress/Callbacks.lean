import AudioReachPal.Lib.Runs
import AudioReachPal.SessionAlsaCompress.Offload

/-!
# The callbacks match the commands

A command that the thread takes is called back for at most once, with its own event; a drain only
when all that was written before its request is drained; and a write that found too little space is
answered. This holds while the thread finds the sound card online when it looks, with two
conditions more: a full drain that is left out was requested before anything else was written, and a
partial drain needs the next track. Where the sound card is offline the thread goes on with the
event and the status of an earlier command, and leaves `command` as it is, so that later writes do
not post.
-/

namespace AudioReachPal.SessionAlsaCompress

open AudioReachPal.Lib
open offload_cmd pal_stream_cbk_event

/-! ### The law -/

/-- The event of a command. A format that is not gapless has no partial drain: a full one takes its
place. -/
def offload_cmd.event (isGaplessFmt : Bool) : offload_cmd → Option pal_stream_cbk_event
  | OFFLOAD_CMD_DRAIN => some PAL_STREAM_CBK_EVENT_DRAIN_READY
  | OFFLOAD_CMD_PARTIAL_DRAIN =>
    some (if isGaplessFmt then PAL_STREAM_CBK_EVENT_PARTIAL_DRAIN_READY
      else PAL_STREAM_CBK_EVENT_DRAIN_READY)
  | OFFLOAD_CMD_WAIT_FOR_BUFFER => some PAL_STREAM_CBK_EVENT_WRITE_READY
  | OFFLOAD_CMD_ERROR => some PAL_STREAM_CBK_EVENT_ERROR
  | OFFLOAD_CMD_EXIT => none

/-- A drain, full or partial. -/
def offload_cmd.drains : offload_cmd → Bool
  | OFFLOAD_CMD_DRAIN | OFFLOAD_CMD_PARTIAL_DRAIN => true
  | _ => false

/-- A callback with the event of its command, after the drain it speaks of. -/
structure Callback.Ok (isGaplessFmt : Bool) (c : Callback) : Prop where
  event : c.msg.cmd.event isGaplessFmt = some c.event
  drained : c.msg.cmd.drains = true → c.msg.written ≤ c.drained

/-- The thread waits, and the queue is empty. -/
def Session.Quiescent (s : Session) : Prop := s.worker = .waiting ∧ s.msg_queue_ = []

/-- The steps that the thread has yet to take: four for each command. -/
def Session.load (s : Session) : ℕ :=
  4 * s.msg_queue_.length + match s.worker with
    | .taken _ => 3
    | .calling _ _ => 2
    | .sending _ => 1
    | .waiting | .exited => 0

/-- **The law.** -/
structure Matched (s : Session) : Prop where
  /-- The callbacks are for different commands that were taken, in their order. -/
  atMostOnce : (s.callbacks.map Callback.msg).Sublist s.taken
  callbacks : ∀ c ∈ s.callbacks, c.Ok s.isGaplessFmt
  /-- When the thread has nothing to do, no write is owed a callback. -/
  answered : s.closing = .no → s.Quiescent → s.owed = false
  /-- When it has something to do it comes nearer to that, whatever the driver answers. -/
  progress : s.closing = .no → ¬s.Quiescent →
    ∀ a, ∃ t, step s (.worker a) = some t ∧ t.load < s.load

/-- What the thread must find. A full drain that it leaves out was requested when the driver had no
more bytes than when it was called for the drain in its place. -/
def FindsCard (s : Session) : Action → Prop
  | .worker a =>
    match s.worker with
    | .taken msg =>
      match msg.cmd with
      | OFFLOAD_CMD_WAIT_FOR_BUFFER => s.cardOnline = true
      | OFFLOAD_CMD_DRAIN =>
        if s.is_drain_called then msg.written ≤ s.partialUpTo
        else s.cardOnline = true ∧ s.compress = true
      | OFFLOAD_CMD_PARTIAL_DRAIN => s.cardOnline = true ∧ s.compress = true
      | _ => True
    | .calling msg _ =>
      msg.cmd = OFFLOAD_CMD_PARTIAL_DRAIN → s.isGaplessFmt = true →
        a.next_track = 0 ∨ Session.cancelled a.next_track a.errno = true
    | _ => True
  | _ => True

/-! ### What every step keeps -/

/-- The command that the thread is at. -/
def Worker.msg? : Worker → Option offload_msg
  | .taken msg | .calling msg _ | .sending msg => some msg
  | .waiting | .exited => none

/-- The thread waits for space in the driver, or is about to. -/
def Worker.waits : Worker → Bool
  | .taken msg | .calling msg _ => msg.cmd == OFFLOAD_CMD_WAIT_FOR_BUFFER
  | _ => false

/-- A callback that a write waits for is on its way. -/
def Session.Answering (s : Session) : Prop :=
  (∃ msg ∈ s.msg_queue_, msg.cmd = OFFLOAD_CMD_WAIT_FOR_BUFFER) ∨
    ∃ msg, s.worker.msg? = some msg ∧ msg.cmd = OFFLOAD_CMD_WAIT_FOR_BUFFER

/-- The command at hand is one that the thread can be at there. -/
def Worker.Fits (s : Session) : Worker → Prop
  | .taken msg => msg.cmd ≠ OFFLOAD_CMD_EXIT ∧ msg.written ≤ s.written
  | .calling msg upTo => msg.cmd ≠ OFFLOAD_CMD_EXIT ∧ msg.cmd ≠ OFFLOAD_CMD_ERROR ∧
      msg.written ≤ upTo
  | .sending msg => msg.cmd.event s.isGaplessFmt = some s.event_id ∧
      (msg.cmd.drains = true → msg.written ≤ s.drained)
  | .waiting | .exited => True

structure Inv (s : Session) : Prop where
  taken : (s.callbacks.map Callback.msg ++ s.worker.msg?.toList).Sublist s.taken
  callbacks : ∀ c ∈ s.callbacks, c.Ok s.isGaplessFmt
  queue : ∀ msg ∈ s.msg_queue_, msg.written ≤ s.written
  fits : s.worker.Fits s
  command : s.command = OFFLOAD_CMD_WAIT_FOR_BUFFER → s.worker.waits = true
  owed : s.closing = .no → s.owed = true → s.Answering
  queueExit : s.closing ≠ .joining → ∀ msg ∈ s.msg_queue_, msg.cmd ≠ OFFLOAD_CMD_EXIT
  alive : s.closing = .no → s.worker ≠ .exited
  dead : s.closing = .emptied ∨ s.closing = .closed → s.worker = .exited
  drainCalled : s.is_drain_called = true → s.partialUpTo ≤ s.drained

section Client

variable {s : Session}

theorem Worker.fits_congr {t : Session} {w : Worker} (hgapless : t.isGaplessFmt = s.isGaplessFmt)
    (hevent : t.event_id = s.event_id) (hwritten : s.written ≤ t.written)
    (hdrained : s.drained ≤ t.drained) (h : w.Fits s) : w.Fits t := by
  cases w with
  | waiting | exited => trivial
  | taken msg => exact ⟨h.1, Nat.le_trans h.2 hwritten⟩
  | calling msg upTo => exact h
  | sending msg =>
    refine ⟨?_, fun hdrains => Nat.le_trans (h.2 hdrains) hdrained⟩
    rw [hgapless, hevent]
    exact h.1

/-- A command is queued. The command to exit ends a session that is being closed. -/
theorem push_inv (h : Inv s) {cmd : offload_cmd} {closing : Closing}
    (hclosing : closing = s.closing ∧ cmd ≠ OFFLOAD_CMD_EXIT ∨ closing = .joining) :
    Inv { s.push cmd with closing := closing } := by
  have hmem : ∀ msg ∈ (s.push cmd).msg_queue_, msg ∈ s.msg_queue_ ∨
      msg = { cmd := cmd, written := s.written } := by
    intro msg hmsg
    exact (List.mem_append.mp hmsg).imp id List.mem_singleton.mp
  refine ⟨h.taken, h.callbacks, ?_, ?_, h.command, ?_, ?_, ?_, ?_, h.drainCalled⟩
  · intro msg hmsg
    rcases hmem msg hmsg with hmsg | rfl
    · exact h.queue msg hmsg
    · exact Nat.le_refl s.written
  · exact Worker.fits_congr (s := s) rfl rfl (Nat.le_refl _) (Nat.le_refl _) h.fits
  · rintro (hno : closing = .no) howed
    rcases hclosing with ⟨rfl, -⟩ | rfl
    · rcases h.owed hno howed with ⟨msg, hmsg, hwait⟩ | hworker
      · exact Or.inl ⟨msg, List.mem_append_left _ hmsg, hwait⟩
      · exact Or.inr hworker
    · cases hno
  · rintro (hnot : closing ≠ .joining) msg hmsg
    rcases hclosing with ⟨rfl, hcmd⟩ | rfl
    · rcases hmem msg hmsg with hmsg | rfl
      · exact h.queueExit hnot msg hmsg
      · exact hcmd
    · exact absurd rfl hnot
  · rintro (hno : closing = .no)
    rcases hclosing with ⟨rfl, -⟩ | rfl
    · exact h.alive hno
    · cases hno
  · rintro (hdead : closing = .emptied ∨ closing = .closed)
    rcases hclosing with ⟨rfl, -⟩ | rfl
    · exact h.dead hdead
    · rcases hdead with h | h <;> cases h

theorem write_inv (h : Inv s) (size : ℕ) (bytes_written : ℤ) :
    Inv (s.write size bytes_written) := by
  unfold Session.write
  split_ifs
  · exact h
  · refine ⟨h.taken, h.callbacks, ?_, ?_, h.command, h.owed, h.queueExit, h.alive, h.dead,
      h.drainCalled⟩
    · exact fun msg hmsg => Nat.le_trans (h.queue msg hmsg) (Nat.le_add_right _ _)
    · exact Worker.fits_congr (s := s) rfl rfl (Nat.le_add_right _ _) (Nat.le_refl _) h.fits

/-- A write that found too little space waits for a callback: one that is queued now, or one that
the thread is about to wait for. -/
theorem post_inv (h : Inv s) : Inv s.post := by
  unfold Session.post
  by_cases hcmd : s.command = OFFLOAD_CMD_WAIT_FOR_BUFFER
  · rw [if_pos hcmd]
    refine ⟨h.taken, h.callbacks, h.queue, ?_, h.command, fun _ _ => ?_, h.queueExit, h.alive,
      h.dead, h.drainCalled⟩
    · exact Worker.fits_congr (s := s) rfl rfl (Nat.le_refl _) (Nat.le_refl _) h.fits
    · have hwaits := h.command hcmd
      cases hworker : s.worker with
      | taken msg | calling msg _ =>
        rw [hworker] at hwaits
        exact Or.inr ⟨msg, by rw [hworker]; rfl, by simpa [Worker.waits] using hwaits⟩
      | waiting | sending msg | exited =>
        rw [hworker] at hwaits
        cases hwaits
  · rw [if_neg hcmd]
    have hpush : Inv (s.push OFFLOAD_CMD_WAIT_FOR_BUFFER) :=
      push_inv h (Or.inl ⟨rfl, by decide⟩)
    refine ⟨hpush.taken, hpush.callbacks, hpush.queue, ?_, hpush.command, fun _ _ => ?_,
      hpush.queueExit, hpush.alive, hpush.dead, hpush.drainCalled⟩
    · exact Worker.fits_congr (s := s) rfl rfl (Nat.le_refl _) (Nat.le_refl _) h.fits
    · exact Or.inl ⟨_, List.mem_append_right _ (List.mem_singleton.mpr rfl), rfl⟩

theorem drain_inv (h : Inv s) (type : pal_drain_type_t) : Inv (s.drain type) := by
  unfold Session.drain
  split_ifs
  · exact h
  · cases type with
    | PAL_DRAIN => exact push_inv h (Or.inl ⟨rfl, by decide⟩)
    | PAL_DRAIN_PARTIAL => exact push_inv h (Or.inl ⟨rfl, by decide⟩)
    | invalid => exact h

theorem close_inv (h : Inv s) : Inv s.close := by
  have herror : Inv (if s.cardOnline then s else s.push OFFLOAD_CMD_ERROR) := by
    split_ifs
    · exact h
    · exact push_inv h (Or.inl ⟨rfl, by decide⟩)
  exact push_inv herror (Or.inr rfl)

theorem joined_inv (h : Inv s) (hexited : s.worker = .exited) : Inv s.joined := by
  refine ⟨h.taken, h.callbacks, ?_, ?_, h.command, ?_, ?_, ?_, fun _ => hexited, h.drainCalled⟩
  · exact fun msg hmsg => absurd hmsg List.not_mem_nil
  · exact Worker.fits_congr (s := s) rfl rfl (Nat.le_refl _) (Nat.le_refl _) h.fits
  · exact fun hno => nomatch hno
  · exact fun _ msg hmsg => absurd hmsg List.not_mem_nil
  · exact fun hno => nomatch hno

theorem closed_inv (h : Inv s) (hemptied : s.closing = .emptied) : Inv s.closed := by
  refine ⟨h.taken, h.callbacks, h.queue, ?_, h.command, ?_, fun _ => ?_, ?_, fun _ => ?_,
    h.drainCalled⟩
  · exact Worker.fits_congr (s := s) rfl rfl (Nat.le_refl _) (Nat.le_refl _) h.fits
  · exact fun hno => nomatch hno
  · exact h.queueExit (by simp [hemptied])
  · exact fun hno => nomatch hno
  · exact h.dead (Or.inl hemptied)

theorem start_inv (h : Inv s) (hclosed : s.closing = .closed) : Inv s.start := by
  have hexited := h.dead (Or.inr hclosed)
  refine ⟨?_, h.callbacks, h.queue, trivial, fun hcmd => ?_, ?_, fun _ => ?_, ?_, ?_,
    fun hcalled => nomatch hcalled⟩
  · have htaken := h.taken
    rw [hexited] at htaken
    exact htaken
  · have hwaits := h.command hcmd
    rw [hexited] at hwaits
    cases hwaits
  · exact fun _ howed => nomatch howed
  · exact h.queueExit (by simp [hclosed])
  · exact fun _ hworker => nomatch hworker
  · rintro (hdead | hdead) <;> cases hdead

end Client

section Thread

variable {s t : Session} {msg : offload_msg} {a : Answer}

/-- What the steps of the thread at a command leave alone. -/
structure Moves (s t : Session) : Prop where
  callbacks : t.callbacks = s.callbacks
  taken : t.taken = s.taken
  queue : t.msg_queue_ = s.msg_queue_
  isGaplessFmt : t.isGaplessFmt = s.isGaplessFmt
  written : t.written = s.written
  closing : t.closing = s.closing

/-- The thread goes on with its command, or drops it. -/
theorem Inv.move (h : Inv s) (hmsg : s.worker.msg? = some msg) (ht : Moves s t)
    (hworker : t.worker = .waiting ∨ t.worker.msg? = some msg) (hfits : t.worker.Fits t)
    (hcommand : t.command = OFFLOAD_CMD_WAIT_FOR_BUFFER → t.worker.waits = true)
    (howed : t.owed = true → s.owed = true ∧ (t.worker = .waiting →
      msg.cmd ≠ OFFLOAD_CMD_WAIT_FOR_BUFFER))
    (hcalled : t.is_drain_called = true → t.partialUpTo ≤ t.drained) : Inv t := by
  have hkeep : t.worker.msg?.toList.Sublist s.worker.msg?.toList := by
    rcases hworker with h | h
    · rw [h]
      exact List.nil_sublist _
    · rw [h, hmsg]
  have hexited : t.worker ≠ .exited := by
    rcases hworker with h | h
    · simp [h]
    · intro hexited
      rw [hexited] at h
      cases h
  refine ⟨?_, ?_, ?_, hfits, hcommand, ?_, ?_, fun _ => hexited, ?_, hcalled⟩
  · rw [ht.callbacks, ht.taken]
    exact (hkeep.append_left _).trans h.taken
  · rw [ht.callbacks, ht.isGaplessFmt]
    exact h.callbacks
  · rw [ht.queue, ht.written]
    exact h.queue
  · intro hno howed'
    rw [ht.closing] at hno
    obtain ⟨hs, hdropped⟩ := howed howed'
    unfold Session.Answering
    rw [ht.queue]
    rcases h.owed hno hs with hqueue | ⟨msg', hmsg', hwait⟩
    · exact Or.inl hqueue
    · rw [hmsg] at hmsg'
      cases hmsg'
      rcases hworker with h | h
      · exact absurd hwait (hdropped h)
      · exact Or.inr ⟨msg, h, hwait⟩
  · rw [ht.closing, ht.queue]
    exact h.queueExit
  · intro hdead
    rw [ht.closing] at hdead
    rw [h.dead hdead] at hmsg
    cases hmsg

/-- Only a command to wait for space leaves `command` at that. -/
theorem command_ne_wait (h : Inv s) (hmsg : s.worker.msg? = some msg)
    (hcmd : msg.cmd ≠ OFFLOAD_CMD_WAIT_FOR_BUFFER) : s.command ≠ OFFLOAD_CMD_WAIT_FOR_BUFFER := by
  intro hwait
  have hwaits := h.command hwait
  cases hworker : s.worker <;> rw [hworker] at hmsg hwaits <;> cases hmsg <;>
    simp [Worker.waits, hcmd] at hwaits

/-- The end of a call, or of a command without one. -/
theorem check_inv (h : Inv s) (hmsg : s.worker.msg? = some msg) (ht : Moves s t)
    (hsend : Session.cancelled t.ret a.errno = false → (Worker.sending msg).Fits t)
    (hcommand : t.command ≠ OFFLOAD_CMD_WAIT_FOR_BUFFER)
    (howed : t.owed = true → s.owed = true ∧ (Session.cancelled t.ret a.errno = true →
      msg.cmd ≠ OFFLOAD_CMD_WAIT_FOR_BUFFER))
    (hcalled : t.is_drain_called = true → t.partialUpTo ≤ t.drained) :
    Inv (t.check msg a.errno) := by
  unfold Session.check
  cases hcancelled : Session.cancelled t.ret a.errno with
  | true =>
    refine h.move hmsg ⟨ht.callbacks, ht.taken, ht.queue, ht.isGaplessFmt, ht.written, ht.closing⟩
      (Or.inl rfl) trivial (fun h => absurd h hcommand) (fun h => ?_) hcalled
    exact ⟨(howed h).1, fun _ => (howed h).2 hcancelled⟩
  | false =>
    refine h.move hmsg ⟨ht.callbacks, ht.taken, ht.queue, ht.isGaplessFmt, ht.written, ht.closing⟩
      (Or.inr rfl) ?_ (fun h => absurd h hcommand) (fun h => ⟨(howed h).1, fun h => nomatch h⟩)
      hcalled
    exact Worker.fits_congr (s := t) rfl rfl (Nat.le_refl _) (Nat.le_refl _) (hsend hcancelled)

/-- The end of a full drain, whether the driver was called or not. -/
theorem checkDrain_inv (h : Inv s) (hmsg : s.worker.msg? = some msg) (ht : Moves s t)
    (hcmd : msg.cmd = OFFLOAD_CMD_DRAIN)
    (hdrained : Session.cancelled t.ret a.errno = false → msg.written ≤ t.drained)
    (hcommand : t.command = s.command) (howed : t.owed = s.owed)
    (hcalled : t.is_drain_called = true → t.partialUpTo ≤ t.drained) :
    Inv (t.checkDrain msg a.errno) := by
  have hnot := command_ne_wait h hmsg (by simp [hcmd])
  have hkept : t.owed = true → s.owed = true := fun h => howed ▸ h
  have hdrain : msg.cmd ≠ OFFLOAD_CMD_WAIT_FOR_BUFFER := by simp [hcmd]
  unfold Session.checkDrain
  cases hcancelled : Session.cancelled t.ret a.errno with
  | true =>
    exact h.move hmsg ⟨ht.callbacks, ht.taken, ht.queue, ht.isGaplessFmt, ht.written, ht.closing⟩
      (Or.inl rfl) trivial (fun h => absurd (hcommand.symm.trans h) hnot)
      (fun h => ⟨hkept h, fun _ => hdrain⟩) hcalled
  | false =>
    refine h.move hmsg ⟨ht.callbacks, ht.taken, ht.queue, ht.isGaplessFmt, ht.written, ht.closing⟩
      (Or.inr rfl) ⟨?_, fun _ => hdrained hcancelled⟩
      (fun h => absurd (hcommand.symm.trans h) hnot) (fun h => ⟨hkept h, fun h => nomatch h⟩)
      fun h => nomatch h
    rw [hcmd]
    rfl

theorem take_inv {rest : List offload_msg} (h : Inv s) (hworker : s.worker = .waiting)
    (hqueue : s.msg_queue_ = msg :: rest) : Inv (s.take msg rest) := by
  have hhead : msg ∈ s.msg_queue_ := by simp [hqueue]
  have hrest : ∀ m ∈ rest, m ∈ s.msg_queue_ := by
    intro m hm
    rw [hqueue]
    exact List.mem_cons_of_mem _ hm
  have hnot : s.command ≠ OFFLOAD_CMD_WAIT_FOR_BUFFER := by
    intro hwait
    have hwaits := h.command hwait
    rw [hworker] at hwaits
    cases hwaits
  have htaken : (s.callbacks.map Callback.msg).Sublist s.taken := by
    have htaken := h.taken
    rw [hworker] at htaken
    simpa [Worker.msg?] using htaken
  have hdead : s.closing = .emptied ∨ s.closing = .closed → False := by
    intro hdead
    have hexited := h.dead hdead
    rw [hworker] at hexited
    cases hexited
  have hanswering : s.closing = .no → s.owed = true → msg.cmd = OFFLOAD_CMD_WAIT_FOR_BUFFER ∨
      ∃ m ∈ rest, m.cmd = OFFLOAD_CMD_WAIT_FOR_BUFFER := by
    intro hno howed
    rcases h.owed hno howed with ⟨m, hm, hwait⟩ | ⟨m, hm, -⟩
    · rw [hqueue] at hm
      rcases List.mem_cons.mp hm with rfl | hm
      · exact Or.inl hwait
      · exact Or.inr ⟨m, hm, hwait⟩
    · rw [hworker] at hm
      cases hm
  unfold Session.take
  by_cases hexit : msg.cmd = OFFLOAD_CMD_EXIT
  · rw [if_pos hexit, if_pos hexit]
    have hclosing : s.closing ≠ .no := fun hno =>
      h.queueExit (by simp [hno]) msg hhead hexit
    refine ⟨?_, h.callbacks, fun m hm => h.queue m (hrest m hm), trivial,
      fun hwait => absurd hwait hnot, fun hno => absurd hno hclosing, ?_,
      fun hno => absurd hno hclosing, fun h => (hdead h).elim, h.drainCalled⟩
    · simpa [Worker.msg?] using htaken.trans (List.sublist_append_left _ _)
    · exact fun hjoining m hm => h.queueExit hjoining m (hrest m hm)
  · rw [if_neg hexit, if_neg hexit]
    refine ⟨?_, h.callbacks, fun m hm => h.queue m (hrest m hm), ⟨hexit, h.queue msg hhead⟩, ?_, ?_,
      fun hjoining m hm => h.queueExit hjoining m (hrest m hm), fun _ => by simp,
      fun h => (hdead h).elim, h.drainCalled⟩
    · exact htaken.append (List.Sublist.refl _)
    · intro hwait
      simpa [Worker.waits] using hwait
    · intro hno howed
      rcases hanswering hno howed with hwait | ⟨m, hm, hwait⟩
      · exact Or.inr ⟨msg, rfl, hwait⟩
      · exact Or.inl ⟨m, hm, hwait⟩

theorem handle_inv (h : Inv s) (hworker : s.worker = .taken msg)
    (hok : FindsCard s (.worker a)) : Inv (s.handle msg a) := by
  have hmsg : s.worker.msg? = some msg := by
    rw [hworker]
    rfl
  have hfits := h.fits
  rw [hworker] at hfits
  obtain ⟨hexit, hwritten⟩ := hfits
  have hok : match msg.cmd with
      | OFFLOAD_CMD_WAIT_FOR_BUFFER => s.cardOnline = true
      | OFFLOAD_CMD_DRAIN =>
        if s.is_drain_called then msg.written ≤ s.partialUpTo
        else s.cardOnline = true ∧ s.compress = true
      | OFFLOAD_CMD_PARTIAL_DRAIN => s.cardOnline = true ∧ s.compress = true
      | _ => True := by
    unfold FindsCard at hok
    dsimp only at hok
    rw [hworker] at hok
    exact hok
  have hcall : msg.cmd ≠ OFFLOAD_CMD_ERROR → Inv (s.call msg) := by
    intro herror
    refine h.move hmsg ⟨rfl, rfl, rfl, rfl, rfl, rfl⟩ (Or.inr rfl) ⟨hexit, herror, hwritten⟩ ?_
      (fun howed => ⟨howed, fun h => nomatch h⟩) h.drainCalled
    intro hwait
    have hwaits := h.command hwait
    rw [hworker] at hwaits
    exact hwaits
  unfold Session.handle
  cases hcmd : msg.cmd with
  | OFFLOAD_CMD_EXIT => exact absurd hcmd hexit
  | OFFLOAD_CMD_ERROR =>
    have hnot := command_ne_wait h hmsg (by simp [hcmd])
    refine h.move hmsg ⟨rfl, rfl, rfl, rfl, rfl, rfl⟩ (Or.inr rfl) ⟨?_, fun hdrains => ?_⟩
      (fun hwait => absurd hwait hnot) (fun howed => ⟨howed, fun h => nomatch h⟩) h.drainCalled
    · rw [hcmd]
      rfl
    · rw [hcmd] at hdrains
      cases hdrains
  | OFFLOAD_CMD_WAIT_FOR_BUFFER =>
    rw [hcmd] at hok
    dsimp only
    rw [if_pos hok]
    exact hcall (by simp [hcmd])
  | OFFLOAD_CMD_DRAIN =>
    rw [hcmd] at hok
    dsimp only
    by_cases hready : (!s.is_drain_called && s.cardOnline && s.compress) = true
    · rw [if_pos hready]
      exact hcall (by simp [hcmd])
    · rw [if_neg hready]
      refine checkDrain_inv h hmsg ⟨rfl, rfl, rfl, rfl, rfl, rfl⟩ hcmd (fun _ => ?_) rfl rfl
        h.drainCalled
      -- the drain was called for ahead of the request
      cases hcalled : s.is_drain_called with
      | true =>
        rw [if_pos hcalled] at hok
        exact Nat.le_trans hok (h.drainCalled hcalled)
      | false =>
        rw [hcalled] at hok hready
        simp [hok.1, hok.2] at hready
  | OFFLOAD_CMD_PARTIAL_DRAIN =>
    rw [hcmd] at hok
    dsimp only
    rw [if_pos (by simp [hok.1, hok.2])]
    exact hcall (by simp [hcmd])

theorem returned_inv {upTo : ℕ} (h : Inv s) (hworker : s.worker = .calling msg upTo)
    (hok : FindsCard s (.worker a)) : Inv (s.returned msg upTo a) := by
  have hmsg : s.worker.msg? = some msg := by
    rw [hworker]
    rfl
  have hfits := h.fits
  rw [hworker] at hfits
  obtain ⟨hexit, herror, hwritten⟩ := hfits
  have hdrained : msg.written ≤ max s.drained upTo := Nat.le_trans hwritten (Nat.le_max_right _ _)
  unfold Session.returned
  cases hcmd : msg.cmd with
  | OFFLOAD_CMD_EXIT => exact absurd hcmd hexit
  | OFFLOAD_CMD_ERROR => exact absurd hcmd herror
  | OFFLOAD_CMD_WAIT_FOR_BUFFER =>
    refine check_inv h hmsg ⟨rfl, rfl, rfl, rfl, rfl, rfl⟩ (fun _ => ⟨?_, fun hdrains => ?_⟩)
      (by simp) (fun howed => ?_) h.drainCalled
    · rw [hcmd]
      rfl
    · rw [hcmd] at hdrains
      cases hdrains
    · -- a wait that is cancelled leaves nothing owed
      obtain ⟨howed, hnot⟩ : s.owed = true ∧ Session.cancelled a.ret a.errno = false := by
        simpa using howed
      refine ⟨howed, fun hcancelled => ?_⟩
      change Session.cancelled a.ret a.errno = true at hcancelled
      rw [hnot] at hcancelled
      cases hcancelled
  | OFFLOAD_CMD_DRAIN =>
    exact checkDrain_inv h hmsg ⟨rfl, rfl, rfl, rfl, rfl, rfl⟩ hcmd (fun _ => hdrained) rfl rfl
      fun hcalled => Nat.le_trans (h.drainCalled hcalled) (Nat.le_max_left _ _)
  | OFFLOAD_CMD_PARTIAL_DRAIN =>
    have hnot := command_ne_wait h hmsg (by simp [hcmd])
    unfold Session.partialDrained
    cases hgapless : s.isGaplessFmt with
    | true =>
      have hok : a.next_track = 0 ∨ Session.cancelled a.next_track a.errno = true := by
        unfold FindsCard at hok
        dsimp only at hok
        rw [hworker] at hok
        exact hok hcmd hgapless
      rw [if_pos rfl]
      by_cases htrack : a.next_track = 0
      · rw [if_pos htrack, if_pos htrack]
        refine check_inv h hmsg ⟨rfl, rfl, rfl, rfl, rfl, rfl⟩ (fun _ => ⟨?_, fun _ => hdrained⟩)
          hnot (fun howed => ⟨howed, fun _ => by simp [hcmd]⟩)
          fun hcalled => Nat.le_trans (h.drainCalled hcalled) (Nat.le_max_left _ _)
        rw [hcmd]
        simp [offload_cmd.event, Session.drainedUpTo, hgapless]
      · -- the next track fails: the call was cancelled
        rw [if_neg htrack, if_neg htrack]
        have hcancelled := hok.resolve_left htrack
        refine check_inv h hmsg ⟨rfl, rfl, rfl, rfl, rfl, rfl⟩ (fun hnot => ?_) hnot
          (fun howed => ⟨howed, fun _ => by simp [hcmd]⟩) h.drainCalled
        change Session.cancelled a.next_track a.errno = false at hnot
        rw [hcancelled] at hnot
        cases hnot
    | false =>
      rw [if_neg (by simp)]
      refine check_inv h hmsg ⟨rfl, rfl, rfl, rfl, rfl, rfl⟩ (fun _ => ⟨?_, fun _ => hdrained⟩)
        hnot (fun howed => ⟨howed, fun _ => by simp [hcmd]⟩) fun _ => Nat.le_max_right _ _
      rw [hcmd]
      simp [offload_cmd.event, Session.drainedUpTo, hgapless]

theorem send_inv (h : Inv s) (hworker : s.worker = .sending msg) : Inv (s.send msg) := by
  have hmsg : s.worker.msg? = some msg := by
    rw [hworker]
    rfl
  have hfits := h.fits
  rw [hworker] at hfits
  have hnot : s.command ≠ OFFLOAD_CMD_WAIT_FOR_BUFFER := by
    intro hwait
    have hwaits := h.command hwait
    rw [hworker] at hwaits
    cases hwaits
  refine ⟨?_, ?_, h.queue, trivial, fun hwait => absurd hwait hnot, fun hno howed => ?_,
    h.queueExit, fun _ => by simp [Session.send], fun hdead => ?_, h.drainCalled⟩
  · have htaken := h.taken
    rw [hmsg] at htaken
    simpa [Session.send, Worker.msg?] using htaken
  · intro c hc
    rcases List.mem_append.mp hc with hc | hc
    · exact h.callbacks c hc
    · rw [List.mem_singleton.mp hc]
      exact ⟨hfits.1, hfits.2⟩
  · -- the callback of a wait answers every write
    obtain ⟨howed, hevent⟩ : s.owed = true ∧ s.event_id ≠ PAL_STREAM_CBK_EVENT_WRITE_READY := by
      simpa [Session.send] using howed
    rcases h.owed hno howed with hqueue | ⟨m, hm, hwait⟩
    · exact Or.inl hqueue
    · rw [hmsg] at hm
      cases hm
      have hready := hfits.1
      rw [hwait] at hready
      exact absurd (Option.some.inj hready).symm hevent
  · have hexited := h.dead hdead
    rw [hworker] at hexited
    cases hexited

theorem offloadThreadLoop_inv (h : Inv s) (hok : FindsCard s (.worker a))
    (ht : s.offloadThreadLoop a = some t) : Inv t := by
  unfold Session.offloadThreadLoop at ht
  cases hworker : s.worker with
  | exited =>
    rw [hworker] at ht
    cases ht
  | waiting =>
    rw [hworker] at ht
    cases hqueue : s.msg_queue_ with
    | nil =>
      rw [hqueue] at ht
      cases ht
    | cons msg rest =>
      rw [hqueue] at ht
      cases ht
      exact take_inv h hworker hqueue
  | taken msg =>
    rw [hworker] at ht
    cases ht
    exact handle_inv h hworker hok
  | calling msg upTo =>
    rw [hworker] at ht
    cases ht
    exact returned_inv h hworker hok
  | sending msg =>
    rw [hworker] at ht
    cases ht
    exact send_inv h hworker

end Thread

/-- **The step.** Whoever takes it, the invariant stays. -/
theorem step_inv {s t : Session} {i : Action} (hok : FindsCard s i) (h : Inv s)
    (ht : step s i = some t) : Inv t := by
  cases i with
  | write size bytes_written =>
    simp only [step, Option.ite_none_left_eq_some] at ht
    obtain ⟨-, ⟨⟩⟩ := ht
    exact write_inv h size bytes_written
  | post =>
    simp only [step, Option.ite_none_right_eq_some] at ht
    obtain ⟨-, ⟨⟩⟩ := ht
    exact post_inv h
  | drain type =>
    cases ht
    exact drain_inv h type
  | close =>
    simp only [step, Option.ite_none_right_eq_some] at ht
    obtain ⟨-, ⟨⟩⟩ := ht
    exact close_inv h
  | joined =>
    simp only [step, Option.ite_none_right_eq_some] at ht
    obtain ⟨⟨-, hexited⟩, ⟨⟩⟩ := ht
    exact joined_inv h hexited
  | closed =>
    simp only [step, Option.ite_none_right_eq_some] at ht
    obtain ⟨hemptied, ⟨⟩⟩ := ht
    exact closed_inv h hemptied
  | start =>
    simp only [step, Option.ite_none_right_eq_some] at ht
    obtain ⟨hclosed, ⟨⟩⟩ := ht
    exact start_inv h hclosed
  | cardState online =>
    cases ht
    refine ⟨h.taken, h.callbacks, h.queue, ?_, h.command, h.owed, h.queueExit, h.alive, h.dead,
      h.drainCalled⟩
    exact Worker.fits_congr (s := s) rfl rfl (Nat.le_refl _) (Nat.le_refl _) h.fits
  | worker a => exact offloadThreadLoop_inv h hok ht

/-! ### The thread gets on -/

section Progress

variable (s : Session) (msg : offload_msg) (a : Answer)

theorem check_load (errno : ℤ) : (s.check msg errno).load ≤ 4 * s.msg_queue_.length + 1 := by
  unfold Session.check Session.load
  dsimp only
  cases Session.cancelled s.ret errno <;> simp

theorem checkDrain_load (errno : ℤ) :
    (s.checkDrain msg errno).load ≤ 4 * s.msg_queue_.length + 1 := by
  unfold Session.checkDrain Session.load
  cases Session.cancelled s.ret errno <;> simp

theorem handle_load : (s.handle msg a).load ≤ 4 * s.msg_queue_.length + 2 := by
  have hcall : (s.call msg).load ≤ 4 * s.msg_queue_.length + 2 := Nat.le_refl _
  have hcheck := check_load s msg a.errno
  have hcheckDrain := checkDrain_load s msg a.errno
  unfold Session.handle
  cases msg.cmd with
  | OFFLOAD_CMD_EXIT | OFFLOAD_CMD_ERROR => simp [Session.load]
  | OFFLOAD_CMD_WAIT_FOR_BUFFER | OFFLOAD_CMD_DRAIN | OFFLOAD_CMD_PARTIAL_DRAIN =>
    dsimp only
    split_ifs <;> omega

theorem partialDrained_load (upTo : ℕ) :
    (s.partialDrained msg upTo a).load ≤ 4 * s.msg_queue_.length + 1 := by
  unfold Session.partialDrained
  split_ifs <;> exact check_load _ _ _

variable {s msg}

/-- The thread has a next step while it has something to do, and each takes it nearer to the end,
whatever the driver answers. -/
theorem offloadThreadLoop_progress (h : Inv s) (hno : s.closing = .no) (hbusy : ¬s.Quiescent) :
    ∃ t, step s (.worker a) = some t ∧ t.load < s.load := by
  change ∃ t, s.offloadThreadLoop a = some t ∧ t.load < s.load
  unfold Session.offloadThreadLoop
  cases hworker : s.worker with
  | exited => exact absurd hworker (h.alive hno)
  | waiting =>
    cases hqueue : s.msg_queue_ with
    | nil => exact absurd ⟨hworker, hqueue⟩ hbusy
    | cons msg rest =>
      refine ⟨_, rfl, ?_⟩
      have hload : s.load = 4 * (rest.length + 1) := by simp [Session.load, hworker, hqueue]
      have hnext : (s.take msg rest).load ≤ 4 * rest.length + 3 := by
        unfold Session.take Session.load
        by_cases hexit : msg.cmd = OFFLOAD_CMD_EXIT <;> simp [hexit]
      omega
  | taken msg =>
    refine ⟨_, rfl, ?_⟩
    have hload : s.load = 4 * s.msg_queue_.length + 3 := by simp [Session.load, hworker]
    have hnext := handle_load s msg a
    omega
  | calling msg upTo =>
    refine ⟨_, rfl, ?_⟩
    have hload : s.load = 4 * s.msg_queue_.length + 2 := by simp [Session.load, hworker]
    have hfits := h.fits
    rw [hworker] at hfits
    have hnext : (s.returned msg upTo a).load ≤ 4 * s.msg_queue_.length + 1 := by
      unfold Session.returned
      cases hcmd : msg.cmd with
      | OFFLOAD_CMD_EXIT => exact absurd hcmd hfits.1
      | OFFLOAD_CMD_ERROR => exact absurd hcmd hfits.2.1
      | OFFLOAD_CMD_WAIT_FOR_BUFFER => exact check_load _ _ _
      | OFFLOAD_CMD_DRAIN => exact checkDrain_load _ _ _
      | OFFLOAD_CMD_PARTIAL_DRAIN => exact partialDrained_load _ _ _ _
    omega
  | sending msg =>
    refine ⟨_, rfl, ?_⟩
    have hload : s.load = 4 * s.msg_queue_.length + 1 := by simp [Session.load, hworker]
    have hnext : (s.send msg).load = 4 * s.msg_queue_.length := rfl
    omega

end Progress

/-! ### Runs -/

theorem Inv.matched {s : Session} (h : Inv s) : Matched s := by
  refine ⟨?_, h.callbacks, fun hno hquiet => ?_, fun hno hbusy a => ?_⟩
  · exact (List.sublist_append_left _ _).trans h.taken
  · cases howed : s.owed with
    | false => rfl
    | true =>
      rcases h.owed hno howed with ⟨msg, hmsg, -⟩ | ⟨msg, hmsg, -⟩
      · rw [hquiet.2] at hmsg
        cases hmsg
      · rw [hquiet.1] at hmsg
        cases hmsg
  · exact offloadThreadLoop_progress a h hno hbusy

theorem started_inv (isGaplessFmt : Bool) : Inv { isGaplessFmt := isGaplessFmt } := by
  refine ⟨List.Sublist.refl _, ?_, ?_, trivial, ?_, ?_, ?_, ?_, ?_, fun hcalled => nomatch hcalled⟩
  · exact fun c hc => absurd hc List.not_mem_nil
  · exact fun msg hmsg => absurd hmsg List.not_mem_nil
  · exact fun hcmd => nomatch hcmd
  · exact fun _ howed => nomatch howed
  · exact fun _ msg hmsg => absurd hmsg List.not_mem_nil
  · exact fun _ => by simp
  · rintro (hdead | hdead) <;> cases hdead

/-- **The callbacks match the commands** after every run, whatever the order of the steps, in which
the thread finds what it must. -/
theorem callbacks_matched {isGaplessFmt : Bool} {is : List Action}
    (hok : Meets step FindsCard { isGaplessFmt := isGaplessFmt } is) :
    ∀ js s, js <+: is → run step { isGaplessFmt := isGaplessFmt } js = some s → Matched s := by
  rintro js s ⟨ks, rfl⟩ hs
  exact (run_invariant_of_meets (fun s i t hok => step_inv hok) hok.of_append
    (started_inv isGaplessFmt) hs).matched

/-- A write that finds too little space is answered, and then a partial drain, which is a full one
here, so that the full drain behind it needs no call although the sound card is gone. -/
theorem drained_playback_matched :
    let is : List Action := [.write 8 4, .post, .worker {}, .worker {}, .worker {}, .worker {},
      .drain .PAL_DRAIN_PARTIAL, .worker {}, .drain .PAL_DRAIN, .worker {}, .worker {}, .worker {},
      .cardState false, .worker {}, .worker {}, .worker {}]
    ∃ s, run step {} is = some s ∧ s.callbacks.map Callback.event =
      [PAL_STREAM_CBK_EVENT_WRITE_READY, PAL_STREAM_CBK_EVENT_DRAIN_READY,
        PAL_STREAM_CBK_EVENT_DRAIN_READY] ∧ Matched s := by
  have hok : Meets step FindsCard {} [.write 8 4, .post, .worker {}, .worker {}, .worker {},
      .worker {}, .drain .PAL_DRAIN_PARTIAL, .worker {}, .drain .PAL_DRAIN, .worker {}, .worker {},
      .worker {}, .cardState false, .worker {}, .worker {}, .worker {}] := by
    refine meets_cons_of_some trivial rfl <| meets_cons_of_some trivial rfl <|
      meets_cons_of_some trivial rfl <| meets_cons_of_some rfl rfl <|
      meets_cons_of_some ?_ rfl <| meets_cons_of_some trivial rfl <|
      meets_cons_of_some trivial rfl <| meets_cons_of_some trivial rfl <|
      meets_cons_of_some trivial rfl <| meets_cons_of_some ⟨rfl, rfl⟩ rfl <|
      meets_cons_of_some ?_ rfl <| meets_cons_of_some trivial rfl <|
      meets_cons_of_some trivial rfl <| meets_cons_of_some trivial rfl <|
      meets_cons_of_some (by decide : 4 ≤ 4) rfl <| meets_cons_of_some trivial rfl trivial
    · exact fun hcmd => nomatch hcmd
    · exact fun _ hgapless => nomatch hgapless
  exact ⟨_, rfl, rfl, callbacks_matched hok _ _ (List.prefix_refl _) rfl⟩

/-- A partial drain that finds the sound card offline is called back for with `WRITE_READY`, which
`event_id` is at first. -/
theorem stale_event : ¬∀ (isGaplessFmt : Bool) (is : List Action) (s : Session),
    run step { isGaplessFmt := isGaplessFmt } is = some s → Matched s := by
  intro h
  have hmatched := h true [.cardState false, .drain .PAL_DRAIN_PARTIAL, .worker {}, .worker {},
    .worker {}] _ rfl
  have hevent := (hmatched.callbacks _ (List.mem_singleton.mpr rfl)).event
  exact absurd hevent (by decide)

end AudioReachPal.SessionAlsaCompress
