import AudioReachPal.SessionAlsaCompress.Accounts

/-!
# What a compressed session keeps in balance

`Balanced` is what holds of the resources after a call. Each call has the condition under which it
keeps them (`Request.BalanceOk`): an open that does not take a failure for a success, a start where
nothing is left of an earlier one, a stop of what is started, and a close of what is stopped. The
invariant `Inv` ties the accounts to the session being started, and is kept by every such call.
-/

namespace AudioReachPal.SessionAlsaCompress.Resources

open AudioReachPal.Lib
open AudioReachPal.Streams (pal_stream_direction_t)
open AudioReachPal.Streams.pal_stream_direction_t

/-! ### The law -/

/-- The resources after the call `i` of a session, which leaves `s`. -/
structure Balanced (i : Request × Env) (s : Session) : Prop where
  /-- One vote while the session is started, and none otherwise. -/
  votes : account Event.vote s.log = some s.started.toNat
  /-- At most one thread, which is the session's. -/
  threads : account Event.thread s.log = some s.worker_thread.toNat
  /-- At most one handle, which is the session's. -/
  handles : account Event.handle s.log = some s.compress.toNat
  /-- No thread was replaced while it ran. -/
  running : s.terminated = false
  captures : s.direction = PAL_AUDIO_INPUT → s.started = true → capturing s.log = true
  /-- No front end is freed twice. -/
  frontEnds : ∀ id, (account (Event.frontEnd id) s.log).isSome
  opens : i.1 = .open → s.opened = true → i.2.utilsOpen = 0
  /-- A close leaves no front end. -/
  closes : i.1 = .close → ∀ id, account (Event.frontEnd id) s.log = some 0

/-! ### Conditions on the calls -/

/-- `open` of a playback takes a failure of `SessionAlsaUtils::open` for a success. -/
def OpenOk (e : Env) (s : Session) : Prop :=
  s.direction = PAL_AUDIO_OUTPUT → e.getStreamAttributes = 0 → e.getAssociatedDevices = 0 →
    0 ≤ e.allocateFrontEndIds → e.backEndsEmpty = false → e.getVirtualAudioMixer = 0 →
    e.nonBlocking = true → e.utilsOpen = 0

/-- A capture starts its new handle, or fails before it is to. -/
structure CaptureOk (e : Env) (s : Session) : Prop where
  pluginManager : e.pluginManager = true
  attributes : e.getStreamAttributes ≠ 0 → e.openPlugin ≠ 0
  handle : e.getStreamAttributes = 0 → s.compressDevIds ≠ [] → e.compressOpen = true →
    e.is_compress_ready = true →
      if s.capture_started then e.openPlugin ≠ 0 else e.compressStart = 0

/-- Nothing is left of an earlier start. -/
structure StartOk (e : Env) (s : Session) : Prop where
  stopped : s.started = false
  fresh : e.pluginManager = true → e.getStreamAttributes = 0 → s.compressDevIds ≠ [] →
    s.compress = false
  captures : s.direction = PAL_AUDIO_INPUT → CaptureOk e s

namespace Request

/-- A call that keeps the accounts. -/
def BalanceOk (e : Env) (s : Session) : Request → Prop
  | .open => OpenOk e s
  | .start => StartOk e s
  | .write _ => True
  | .stop => e.getStreamAttributes = 0 ∧ s.started = true
  | .close => e.getAssociatedDevices = 0 ∧ e.getStreamAttributes = 0 ∧ s.started = false

end Request

/-! ### Between the calls -/

structure Inv (s : Session) : Prop where
  keeps : Keeps s.started.toNat s
  /-- A playback has its thread as long as its handle. -/
  worker : s.worker_thread = (s.compress && decide (s.direction = PAL_AUDIO_OUTPUT))
  captures : s.direction = PAL_AUDIO_INPUT → s.started = true → capturing s.log = true
  directed : s.opened = true →
    s.direction = PAL_AUDIO_OUTPUT ∨ s.direction = PAL_AUDIO_INPUT
  opened : s.started = true → s.opened = true

variable {e : Env} {s : Session} {n : ℕ}

/-! ### Open -/

/-- What a call leaves of the fields that tell the starts apart. -/
structure Alike (s t : Session) : Prop where
  direction : t.direction = s.direction
  compress : t.compress = s.compress
  worker_thread : t.worker_thread = s.worker_thread
  opened : t.opened = s.opened
  started : t.started = s.started

theorem invalid_ne_zero : -EINVAL ≠ 0 := by decide

theorem openUtils_keeps (h : Keeps n s) : Keeps n (s.openUtils e).2 := by
  have hfree : Keeps n (if e.utilsOpen ≠ 0 then s.freeFrontEndIds else s) := by
    split_ifs
    · exact h.freeFrontEndIds
    · exact h
  unfold Session.openUtils
  cases s.direction with
  | PAL_AUDIO_OUTPUT =>
    cases e.nonBlocking with
    | false => exact h
    | true => exact ⟨hfree.votes, hfree.threads, hfree.handles, hfree.frontEnds, hfree.running⟩
  | PAL_AUDIO_INPUT => exact hfree
  | PAL_AUDIO_INPUT_OUTPUT => exact h
  | unsupported => exact h

theorem openUtils_alike : Alike s (s.openUtils e).2 := by
  have hfree : Alike s (if e.utilsOpen ≠ 0 then s.freeFrontEndIds else s) := by
    split_ifs <;> exact ⟨rfl, rfl, rfl, rfl, rfl⟩
  unfold Session.openUtils
  cases hdir : s.direction with
  | PAL_AUDIO_OUTPUT =>
    cases e.nonBlocking with
    | false => exact ⟨rfl, rfl, rfl, rfl, rfl⟩
    | true => exact ⟨hfree.direction, hfree.compress, hfree.worker_thread, hfree.opened,
      hfree.started⟩
  | PAL_AUDIO_INPUT => exact hfree
  | PAL_AUDIO_INPUT_OUTPUT => exact ⟨rfl, rfl, rfl, rfl, rfl⟩
  | unsupported => exact ⟨rfl, rfl, rfl, rfl, rfl⟩

/-- A success is one of a playback or of a capture, and one of `SessionAlsaUtils::open` when the
call is one that tells. -/
theorem openUtils_eq_zero (hzero : (s.openUtils e).1 = 0) :
    s.direction = PAL_AUDIO_OUTPUT ∧ e.nonBlocking = true ∨
      s.direction = PAL_AUDIO_INPUT ∧ e.utilsOpen = 0 := by
  unfold Session.openUtils at hzero
  cases hdir : s.direction with
  | PAL_AUDIO_OUTPUT =>
    rw [hdir] at hzero
    cases hblock : e.nonBlocking with
    | false =>
      rw [hblock] at hzero
      exact absurd hzero invalid_ne_zero
    | true => exact Or.inl ⟨rfl, rfl⟩
  | PAL_AUDIO_INPUT =>
    rw [hdir] at hzero
    exact Or.inr ⟨rfl, hzero⟩
  | PAL_AUDIO_INPUT_OUTPUT =>
    rw [hdir] at hzero
    exact absurd hzero invalid_ne_zero
  | unsupported =>
    rw [hdir] at hzero
    exact absurd hzero invalid_ne_zero

/-- An open fails and leaves the session, or it has its front end and fails later, or it gets to
`SessionAlsaUtils::open`. -/
theorem open_cases (e : Env) (s : Session) :
    ((s.open e).1 ≠ 0 ∧ (s.open e).2 = s) ∨
    ∃ t, (t = { s.record [.allocateFrontEndId e.allocateFrontEndIds] with
        compressDevIds := s.compressDevIds ++ [e.allocateFrontEndIds] }) ∧
      (((s.open e).1 ≠ 0 ∧ (s.open e).2 = t) ∨
        e.getStreamAttributes = 0 ∧ e.getAssociatedDevices = 0 ∧ 0 ≤ e.allocateFrontEndIds ∧
          e.backEndsEmpty = false ∧ e.getVirtualAudioMixer = 0 ∧ s.open e = t.openUtils e) := by
  unfold Session.open
  by_cases hattributes : e.getStreamAttributes ≠ 0
  · rw [if_pos hattributes]
    exact Or.inl ⟨hattributes, rfl⟩
  rw [if_neg hattributes]
  by_cases hdevices : e.getAssociatedDevices ≠ 0
  · rw [if_pos hdevices]
    exact Or.inl ⟨hdevices, rfl⟩
  rw [if_neg hdevices]
  by_cases hid : e.allocateFrontEndIds < 0
  · rw [if_pos hid]
    exact Or.inl ⟨invalid_ne_zero, rfl⟩
  rw [if_neg hid]
  refine Or.inr ⟨_, rfl, ?_⟩
  cases hback : e.backEndsEmpty with
  | true => exact Or.inl ⟨invalid_ne_zero, rfl⟩
  | false =>
    by_cases hmixer : e.getVirtualAudioMixer ≠ 0
    · dsimp only
      rw [if_neg (by decide), if_pos hmixer]
      exact Or.inl ⟨hmixer, rfl⟩
    · dsimp only
      rw [if_neg (by decide), if_neg hmixer]
      exact Or.inr ⟨not_not.mp hattributes, not_not.mp hdevices, not_lt.mp hid, rfl,
        not_not.mp hmixer, rfl⟩

theorem open_keeps (h : Keeps n s) : Keeps n (s.open e).2 := by
  rcases open_cases e s with ⟨-, heq⟩ | ⟨t, rfl, ⟨-, heq⟩ | ⟨-, -, -, -, -, heq⟩⟩
  · rw [heq]
    exact h
  · rw [heq]
    exact h.allocate _
  · rw [heq]
    exact openUtils_keeps (h.allocate _)

theorem open_alike : Alike s (s.open e).2 := by
  rcases open_cases e s with ⟨-, heq⟩ | ⟨t, rfl, ⟨-, heq⟩ | ⟨-, -, -, -, -, heq⟩⟩
  · rw [heq]
    exact ⟨rfl, rfl, rfl, rfl, rfl⟩
  · rw [heq]
    exact ⟨rfl, rfl, rfl, rfl, rfl⟩
  · rw [heq]
    have halike := openUtils_alike (e := e) (s := { s.record
      [.allocateFrontEndId e.allocateFrontEndIds] with
        compressDevIds := s.compressDevIds ++ [e.allocateFrontEndIds] })
    exact ⟨halike.direction, halike.compress, halike.worker_thread, halike.opened,
    halike.started⟩

theorem open_eq_zero (hok : OpenOk e s) (hzero : (s.open e).1 = 0) :
    (s.direction = PAL_AUDIO_OUTPUT ∨ s.direction = PAL_AUDIO_INPUT) ∧ e.utilsOpen = 0 := by
  rcases open_cases e s with ⟨hne, -⟩ | ⟨t, rfl, ⟨hne, -⟩ |
    ⟨hattributes, hdevices, hid, hback, hmixer, heq⟩⟩
  · exact absurd hzero hne
  · exact absurd hzero hne
  · rw [heq] at hzero
    rcases openUtils_eq_zero hzero with ⟨hdir, hblock⟩ | ⟨hdir, hutils⟩
    · exact ⟨Or.inl hdir, hok hdir hattributes hdevices hid hback hmixer hblock⟩
    · exact ⟨Or.inr hdir, hutils⟩

/-! ### Start -/

theorem startExit_keeps (h : Keeps 1 s) (status : ℤ) :
    Keeps (decide ((s.startExit status).1 = 0)).toNat (s.startExit status).2 := by
  unfold Session.startExit
  by_cases hstatus : status = 0
  · subst hstatus
    exact h
  · have hexit : (decide (status = 0)).toNat = 0 := by rw [decide_eq_false hstatus]; rfl
    dsimp only
    rw [if_pos hstatus, hexit]
    exact h.withdraw

/-- What the exit adds to the log is not about the handle. -/
theorem startExit_capturing (status : ℤ) :
    capturing (s.startExit status).2.log = capturing s.log := by
  unfold Session.startExit
  dsimp only
  split_ifs
  · exact List.foldl_append
  · rfl

theorem startExit_alike (status : ℤ) : Alike s (s.startExit status).2 := by
  unfold Session.startExit
  dsimp only
  split_ifs <;> exact ⟨rfl, rfl, rfl, rfl, rfl⟩

/-- What a start leaves: its vote where it succeeds, and a thread with the handle of a playback. -/
structure Started (s : Session) (r : ℤ × Session) : Prop where
  direction : r.2.direction = s.direction
  opened : r.2.opened = s.opened
  keeps : Keeps (decide (r.1 = 0)).toNat r.2
  worker : r.2.worker_thread = (r.2.compress && decide (s.direction = PAL_AUDIO_OUTPUT))
  captures : s.direction = PAL_AUDIO_INPUT → r.1 = 0 → capturing r.2.log = true

/-- An exit that leaves a handle as the session has it. -/
theorem startExit_started {t : Session} {status : ℤ} (h : Keeps 1 t)
    (hdir : t.direction = s.direction) (hopened : t.opened = s.opened)
    (hworker : t.worker_thread = (t.compress && decide (s.direction = PAL_AUDIO_OUTPUT)))
    (hcapture : s.direction = PAL_AUDIO_INPUT → status = 0 → capturing t.log = true) :
    Started s (t.startExit status) := by
  have halike := startExit_alike (s := t) status
  refine ⟨halike.direction.trans hdir, halike.opened.trans hopened, startExit_keeps h status,
    ?_, ?_⟩
  · rw [halike.worker_thread, halike.compress]
    exact hworker
  · intro hin hzero
    rw [startExit_capturing]
    exact hcapture hin hzero

theorem startPlayback_started (h : Keeps 1 s) (hdir : s.direction = PAL_AUDIO_OUTPUT)
    (hworker : s.worker_thread = s.compress)
    (hfresh : s.compressDevIds ≠ [] → s.compress = false) : Started s (s.startPlayback e) := by
  have hout : ∀ P : Prop, s.direction = PAL_AUDIO_INPUT → P := by
    intro P hin
    rw [hdir] at hin
    cases hin
  have hdecide : decide (s.direction = PAL_AUDIO_OUTPUT) = true := decide_eq_true hdir
  unfold Session.startPlayback
  by_cases hids : s.compressDevIds = []
  · rw [if_pos hids]
    refine startExit_started h rfl rfl ?_ (fun hin => hout _ hin)
    rw [hdecide, Bool.and_true, hworker]
  rw [if_neg hids]
  have hnohandle := hfresh hids
  have hcreated := h.createThread (hworker.trans hnohandle)
  cases e.compressOpen with
  | false =>
    -- the thread is joined, and the null handle is the one there was
    have hjoined := hcreated.joinThread rfl
    refine startExit_started ⟨hjoined.votes, hjoined.threads, ?_, hjoined.frontEnds,
      hjoined.running⟩ rfl rfl rfl (fun hin => hout _ hin)
    have hhandles := hjoined.handles
    rw [show s.createThread.joinThread.compress = false from hnohandle] at hhandles
    exact hhandles
  | true =>
    have hopened := hcreated.compressOpen hnohandle
    have hworks : s.createThread.compressOpen.worker_thread =
        (s.createThread.compressOpen.compress && decide (s.direction = PAL_AUDIO_OUTPUT)) := by
      rw [hdecide]
      rfl
    cases e.is_compress_ready with
    | false => exact startExit_started hopened rfl rfl hworks (fun hin => hout _ hin)
    | true => exact startExit_started hopened rfl rfl hworks (fun hin => hout _ hin)

theorem startCapture_started (h : Keeps 1 s) (hdir : s.direction = PAL_AUDIO_INPUT)
    (hworker : s.worker_thread = false) (hfresh : s.compressDevIds ≠ [] → s.compress = false)
    (hok : s.compressDevIds ≠ [] → e.compressOpen = true → e.is_compress_ready = true →
      if s.capture_started then e.openPlugin ≠ 0 else e.compressStart = 0) :
    Started s (s.startCapture e) := by
  have hdecide : decide (s.direction = PAL_AUDIO_OUTPUT) = false := by
    rw [hdir]
    rfl
  have hworks : ∀ b : Bool, s.worker_thread = (b && decide (s.direction = PAL_AUDIO_OUTPUT)) := by
    intro b
    rw [hdecide, hworker, Bool.and_false]
  have hinvalid : ∀ P : Prop, -EINVAL = 0 → P := fun P hzero => absurd hzero invalid_ne_zero
  unfold Session.startCapture
  by_cases hids : s.compressDevIds = []
  · rw [if_pos hids]
    exact startExit_started h rfl rfl (hworks _) fun _ => hinvalid _
  rw [if_neg hids]
  have hnohandle := hfresh hids
  have hok := hok hids
  have hopened := h.compressOpen hnohandle
  cases hopen : e.compressOpen with
  | false =>
    refine startExit_started ⟨h.votes, h.threads, ?_, h.frontEnds, h.running⟩ rfl rfl (hworks _)
      fun _ => hinvalid _
    have hhandles := h.handles
    rw [hnohandle] at hhandles
    exact hhandles
  | true =>
    cases hready : e.is_compress_ready with
    | false => exact startExit_started hopened rfl rfl (hworks _) fun _ => hinvalid _
    | true =>
      have hok := hok hopen hready
      cases hcaptured : s.capture_started with
      | true =>
        rw [hcaptured, if_pos rfl] at hok
        exact startExit_started hopened rfl rfl (hworks _) fun _ hzero => absurd hzero hok
      | false =>
        rw [hcaptured, if_neg Bool.false_ne_true] at hok
        have hstarts := hopened.handleCall (Or.inl rfl)
        change Started s (if e.compressStart ≠ 0 then _ else _)
        rw [if_neg (not_not.mpr hok)]
        refine startExit_started ⟨hstarts.votes, hstarts.threads, hstarts.handles,
          hstarts.frontEnds, hstarts.running⟩ rfl rfl (hworks _) fun _ _ => ?_
        exact List.foldl_append

theorem start_started (h : Inv s) (hok : StartOk e s) : Started s (s.start e) := by
  have hvoted : Keeps 1 (s.record [.voteSleepMonitor true]) := by
    have hkeeps := h.keeps
    rw [hok.stopped] at hkeeps
    exact hkeeps.vote
  unfold Session.start
  dsimp only
  cases hmanager : e.pluginManager with
  | false =>
    refine startExit_started hvoted rfl rfl h.worker fun hin => ?_
    have hcaptures := (hok.captures hin).pluginManager
    rw [hmanager] at hcaptures
    cases hcaptures
  | true =>
    by_cases hattributes : e.getStreamAttributes ≠ 0
    · rw [if_neg (by decide), if_pos hattributes]
      refine startExit_started hvoted rfl rfl h.worker fun hin hzero => ?_
      exact absurd hzero ((hok.captures hin).attributes hattributes)
    rw [if_neg (by decide), if_neg hattributes]
    have hattributes := not_not.mp hattributes
    have hfresh := hok.fresh hmanager hattributes
    have hsame : (s.record [.voteSleepMonitor true]).direction = s.direction := rfl
    rw [hsame]
    cases hdir : s.direction with
    | PAL_AUDIO_OUTPUT =>
      have hworker := h.worker
      rw [hdir, decide_eq_true rfl, Bool.and_true] at hworker
      have hstarted := startPlayback_started (e := e) hvoted hdir hworker hfresh
      exact ⟨hstarted.direction, hstarted.opened, hstarted.keeps, hstarted.worker,
        hstarted.captures⟩
    | PAL_AUDIO_INPUT =>
      have hworker := h.worker
      rw [hdir, decide_eq_false (by decide), Bool.and_false] at hworker
      have hstarted := startCapture_started (e := e) hvoted hdir hworker hfresh
        ((hok.captures hdir).handle hattributes)
      exact ⟨hstarted.direction, hstarted.opened, hstarted.keeps, hstarted.worker,
        hstarted.captures⟩
    | PAL_AUDIO_INPUT_OUTPUT =>
      refine startExit_started hvoted rfl rfl h.worker fun hin => ?_
      rw [hdir] at hin
      cases hin
    | unsupported =>
      refine startExit_started hvoted rfl rfl h.worker fun hin => ?_
      rw [hdir] at hin
      cases hin

/-! ### Write, stop and close -/

theorem write_inv (h : Inv s) (bytes_written : ℤ) : Inv (s.write e bytes_written) := by
  unfold Session.write
  split_ifs
  · exact ⟨⟨h.keeps.votes, h.keeps.threads, h.keeps.handles, h.keeps.frontEnds, h.keeps.running⟩,
      h.worker, h.captures, h.directed, h.opened⟩
  · exact h

theorem stopCompress_keeps (h : Keeps n s) :
    Keeps n (s.stopCompress e).2 ∧ Alike s (s.stopCompress e).2 := by
  unfold Session.stopCompress
  cases hdir : s.direction with
  | PAL_AUDIO_OUTPUT =>
    dsimp only
    split_ifs
    · exact ⟨⟨h.votes, h.threads, h.handles, h.frontEnds, h.running⟩, hdir.symm, rfl, rfl, rfl, rfl⟩
    · exact ⟨h, rfl, rfl, rfl, rfl, rfl⟩
  | PAL_AUDIO_INPUT =>
    dsimp only
    split_ifs
    · exact ⟨h, rfl, rfl, rfl, rfl, rfl⟩
    · exact ⟨h, rfl, rfl, rfl, rfl, rfl⟩
    · exact ⟨h.handleCall (Or.inr rfl), rfl, rfl, rfl, rfl, rfl⟩
  | PAL_AUDIO_INPUT_OUTPUT => exact ⟨h, rfl, rfl, rfl, rfl, rfl⟩
  | unsupported => exact ⟨h, rfl, rfl, rfl, rfl, rfl⟩

theorem stop_keeps (h : Keeps 1 s) (hok : e.getStreamAttributes = 0) :
    Keeps 0 (s.stop e).2 ∧ Alike s (s.stop e).2 := by
  obtain ⟨hkeeps, halike⟩ := stopCompress_keeps (e := e) h
  unfold Session.stop
  rw [if_neg (not_not.mpr hok)]
  exact ⟨hkeeps.withdraw, halike.direction, halike.compress, halike.worker_thread, halike.opened,
    halike.started⟩

theorem closeCompress_keeps (h : Keeps n s) (hhandle : s.compress = true)
    (hthread : s.worker_thread = true) : Keeps n { s.closeCompress with compress := false } := by
  have hclosed := (h.joinThread hthread).compressClose hhandle
  have hlog : s.closeCompress.log = (s.joinThread.record [.compressClose]).log :=
    (List.append_assoc s.log [.joinThread] [.compressClose]).symm
  refine ⟨?_, ?_, ?_, ?_, hclosed.running⟩
  · exact (congrArg (account Event.vote) hlog).trans hclosed.votes
  · exact (congrArg (account Event.thread) hlog).trans hclosed.threads
  · exact (congrArg (account Event.handle) hlog).trans hclosed.handles
  · intro id
    exact (congrArg (account (Event.frontEnd id)) hlog).trans (hclosed.frontEnds id)

/-- A null handle that stays null. -/
theorem keeps_of_null (h : Keeps n s) (hnull : s.compress = false) :
    Keeps n { s with compress := false } := by
  refine ⟨h.votes, h.threads, ?_, h.frontEnds, h.running⟩
  have hhandles := h.handles
  rw [hnull] at hhandles
  exact hhandles

/-- A close leaves no handle, no thread and no front end. -/
structure Closed (s t : Session) : Prop where
  direction : t.direction = s.direction
  keeps : Keeps 0 t
  compress : t.compress = false
  worker_thread : t.worker_thread = false
  compressDevIds : t.compressDevIds = []

theorem close_closed (h : Inv s) (hdevices : e.getAssociatedDevices = 0)
    (hattributes : e.getStreamAttributes = 0) (hstopped : s.started = false)
    (hopened : s.opened = true) : Closed s (s.close e).2 := by
  have hkeeps : Keeps 0 s := by
    have hkeeps := h.keeps
    rw [hstopped] at hkeeps
    exact hkeeps
  have hworker := h.worker
  unfold Session.close
  rw [if_neg (not_not.mpr hdevices), if_neg (not_not.mpr hattributes)]
  rcases h.directed hopened with hdir | hdir
  · rw [hdir, decide_eq_true rfl, Bool.and_true] at hworker
    rw [hdir]
    dsimp only
    cases hcompress : s.compress with
    | true =>
      have hthread := hworker.trans hcompress
      have hclosed := (closeCompress_keeps hkeeps hcompress hthread).freeFrontEndIds
      exact ⟨rfl, ⟨hclosed.votes, hclosed.threads, hclosed.handles, hclosed.frontEnds,
        hclosed.running⟩, rfl, rfl, rfl⟩
    | false =>
      have hclosed := (keeps_of_null hkeeps hcompress).freeFrontEndIds
      exact ⟨rfl, ⟨hclosed.votes, hclosed.threads, hclosed.handles, hclosed.frontEnds,
        hclosed.running⟩, rfl, hworker.trans hcompress, rfl⟩
  · rw [hdir, decide_eq_false (by decide), Bool.and_false] at hworker
    rw [hdir]
    dsimp only
    cases hcompress : s.compress with
    | true =>
      have hclosed := (hkeeps.compressClose hcompress).freeFrontEndIds
      exact ⟨rfl, ⟨hclosed.votes, hclosed.threads, hclosed.handles, hclosed.frontEnds,
        hclosed.running⟩, rfl, hworker, rfl⟩
    | false =>
      have hclosed := (keeps_of_null hkeeps hcompress).freeFrontEndIds
      exact ⟨rfl, ⟨hclosed.votes, hclosed.threads, hclosed.handles, hclosed.frontEnds,
        hclosed.running⟩, rfl, hworker, rfl⟩

/-! ### Runs of a session -/

theorem Keeps.inv {t : Session} (h : Keeps 0 t) (hstopped : t.started = false)
    (hworker : t.worker_thread = (t.compress && decide (t.direction = PAL_AUDIO_OUTPUT)))
    (hdirected : t.opened = true →
      t.direction = PAL_AUDIO_OUTPUT ∨ t.direction = PAL_AUDIO_INPUT) : Inv t := by
  refine ⟨?_, hworker, fun _ hstarted => ?_, hdirected, fun hstarted => ?_⟩
  · rw [hstopped]
    exact h
  · rw [hstopped] at hstarted
    cases hstarted
  · rw [hstopped] at hstarted
    cases hstarted

theorem open_step {t : Session} (h : Inv s) (hok : OpenOk e s) (hclosed : s.opened = false)
    (ht : t = { (s.open e).2 with opened := decide ((s.open e).1 = 0) }) : Inv t := by
  have hstopped : s.started = false := by
    cases hstarted : s.started with
    | false => rfl
    | true => exact absurd (h.opened hstarted) (by rw [hclosed]; exact Bool.false_ne_true)
  have hkeeps : Keeps 0 (s.open e).2 := by
    have hkeeps := h.keeps
    rw [hstopped] at hkeeps
    exact open_keeps hkeeps
  have halike := open_alike (e := e) (s := s)
  subst ht
  refine Keeps.inv ⟨hkeeps.votes, hkeeps.threads, hkeeps.handles, hkeeps.frontEnds, hkeeps.running⟩
    (halike.started.trans hstopped) ?_ fun hopened => ?_
  · change (s.open e).2.worker_thread =
      ((s.open e).2.compress && decide ((s.open e).2.direction = PAL_AUDIO_OUTPUT))
    rw [halike.worker_thread, halike.compress, halike.direction]
    exact h.worker
  · change (s.open e).2.direction = _ ∨ (s.open e).2.direction = _
    rw [halike.direction]
    exact (open_eq_zero hok (of_decide_eq_true hopened)).1

theorem start_step {t : Session} (h : Inv s) (hok : StartOk e s) (hopened : s.opened = true)
    (ht : t = { (s.start e).2 with started := s.started || decide ((s.start e).1 = 0) }) :
    Inv t := by
  have hstarted := start_started h hok
  have hkeeps := hstarted.keeps
  subst ht
  rw [hok.stopped, Bool.false_or]
  refine ⟨⟨hkeeps.votes, hkeeps.threads, hkeeps.handles, hkeeps.frontEnds, hkeeps.running⟩,
    ?_, fun hin hzero => ?_, fun _ => ?_, fun _ => ?_⟩
  · change (s.start e).2.worker_thread =
      ((s.start e).2.compress && decide ((s.start e).2.direction = PAL_AUDIO_OUTPUT))
    rw [hstarted.direction]
    exact hstarted.worker
  · exact hstarted.captures (hstarted.direction.symm.trans hin) (of_decide_eq_true hzero)
  · change (s.start e).2.direction = _ ∨ (s.start e).2.direction = _
    rw [hstarted.direction]
    exact h.directed hopened
  · exact hstarted.opened.trans hopened

theorem Inv.balanced {i : Request × Env} (h : Inv s)
    (hopens : i.1 = .open → s.opened = true → i.2.utilsOpen = 0)
    (hcloses : i.1 = .close → s.compressDevIds = []) : Balanced i s where
  votes := h.keeps.votes
  threads := h.keeps.threads
  handles := h.keeps.handles
  running := h.keeps.running
  captures := h.captures
  frontEnds id := by
    rw [h.keeps.frontEnds id]
    rfl
  opens := hopens
  closes hclose id := by
    rw [h.keeps.frontEnds id, hcloses hclose]
    rfl

/-- **The step.** A call that meets its condition keeps the accounts. -/
theorem step_balanced {i : Request × Env} {t : Session} (h : Inv s) (hok : i.1.BalanceOk i.2 s)
    (ht : step s i = some t) : Inv t ∧ Balanced i t := by
  obtain ⟨r, e⟩ := i
  unfold step at ht
  dsimp only at ht
  cases r with
  | «open» =>
    cases hopened : s.opened with
    | true =>
      rw [hopened] at ht
      cases ht
    | false =>
      rw [hopened, if_neg Bool.false_ne_true] at ht
      have ht := (Option.some.inj ht).symm
      have hinv := open_step h hok hopened ht
      refine ⟨hinv, hinv.balanced (fun _ hzero => ?_) fun hclose => nomatch hclose⟩
      rw [ht] at hzero
      exact (open_eq_zero hok (of_decide_eq_true hzero)).2
  | start =>
    cases hopened : s.opened with
    | false =>
      rw [hopened] at ht
      cases ht
    | true =>
      rw [hopened, if_pos rfl] at ht
      have hinv := start_step h hok hopened (Option.some.inj ht).symm
      exact ⟨hinv, hinv.balanced (fun hopen => nomatch hopen) fun hclose => nomatch hclose⟩
  | write bytes_written =>
    cases hopened : s.opened with
    | false =>
      rw [hopened] at ht
      cases ht
    | true =>
      rw [hopened, if_pos rfl] at ht
      cases ht
      have hinv := write_inv (e := e) h bytes_written
      exact ⟨hinv, hinv.balanced (fun hopen => nomatch hopen) fun hclose => nomatch hclose⟩
  | stop =>
    obtain ⟨hattributes, hstarted⟩ := hok
    rw [h.opened hstarted, if_pos rfl] at ht
    cases ht
    have hkeeps := h.keeps
    rw [hstarted] at hkeeps
    obtain ⟨hkeeps, halike⟩ := stop_keeps hkeeps hattributes
    have hinv : Inv { (s.stop e).2 with started := false } := by
      refine Keeps.inv ⟨hkeeps.votes, hkeeps.threads, hkeeps.handles, hkeeps.frontEnds,
        hkeeps.running⟩ rfl ?_ fun _ => ?_
      · change (s.stop e).2.worker_thread =
          ((s.stop e).2.compress && decide ((s.stop e).2.direction = PAL_AUDIO_OUTPUT))
        rw [halike.worker_thread, halike.compress, halike.direction]
        exact h.worker
      · change (s.stop e).2.direction = _ ∨ (s.stop e).2.direction = _
        rw [halike.direction]
        exact h.directed (h.opened hstarted)
    exact ⟨hinv, hinv.balanced (fun hopen => nomatch hopen) fun hclose => nomatch hclose⟩
  | close =>
    cases hopened : s.opened with
    | false =>
      rw [hopened] at ht
      cases ht
    | true =>
      rw [hopened, if_pos rfl] at ht
      cases ht
      have hclosed := close_closed h hok.1 hok.2.1 hok.2.2 hopened
      have hkeeps := hclosed.keeps
      have hinv : Inv { (s.close e).2 with opened := false, started := false } := by
        refine Keeps.inv ⟨hkeeps.votes, hkeeps.threads, hkeeps.handles, hkeeps.frontEnds,
          hkeeps.running⟩ rfl ?_ fun hopened => nomatch hopened
        change (s.close e).2.worker_thread =
          ((s.close e).2.compress && decide ((s.close e).2.direction = PAL_AUDIO_OUTPUT))
        rw [hclosed.worker_thread, hclosed.compress]
        rfl
      exact ⟨hinv, hinv.balanced (fun hopen => nomatch hopen) fun _ => hclosed.compressDevIds⟩

theorem create_inv (direction : pal_stream_direction_t) : Inv (create direction) :=
  ⟨⟨rfl, rfl, rfl, fun _ => rfl, rfl⟩, rfl, fun _ hstarted => (nomatch hstarted),
    fun hopened => (nomatch hopened), fun hstarted => nomatch hstarted⟩

/-- **The resources of a session balance.** In every run whose calls all meet their conditions, the
account of every resource is kept after every call. -/
theorem resources_balanced {direction : pal_stream_direction_t} {is : List (Request × Env)}
    (hok : Meets step (fun s i => i.1.BalanceOk i.2 s) (create direction) is) :
    ∀ js i s t, js ++ [i] <+: is → run step (create direction) js = some s →
      step s i = some t → Balanced i t := by
  rintro js i s t ⟨ks, rfl⟩ hs ht
  rw [List.append_assoc] at hok
  have hinv : Inv s := by
    have hstep : ∀ (s : Session) (i : Request × Env) (t : Session), i.1.BalanceOk i.2 s → Inv s →
        step s i = some t → Inv t := fun s i t hok h ht => (step_balanced h hok ht).1
    exact run_invariant_of_meets hstep hok.of_append (create_inv direction) hs
  exact (step_balanced hinv (hok.after hs) ht).2

/-- A playback from its open to its close. -/
theorem closed_playback_balanced :
    let is : List (Request × Env) := [(.open, {}), (.start, {}), (.write 8, {}), (.stop, {})]
    ∃ s t, run step (create PAL_AUDIO_OUTPUT) is = some s ∧ step s (.close, {}) = some t ∧
      t.opened = false ∧ Balanced (.close, {}) t := by
  have hok : Meets step (fun s i => i.1.BalanceOk i.2 s) (create PAL_AUDIO_OUTPUT)
      [(.open, {}), (.start, {}), (.write 8, {}), (.stop, {}), (.close, {})] := by
    refine meets_cons_of_some ?_ rfl <| meets_cons_of_some ?_ rfl <|
      meets_cons_of_some trivial rfl <| meets_cons_of_some ⟨rfl, rfl⟩ rfl <|
      meets_cons_of_some ⟨rfl, rfl, rfl⟩ rfl trivial
    · exact fun _ _ _ _ _ _ _ => rfl
    · exact ⟨rfl, fun _ _ _ => rfl, fun hin => nomatch hin⟩
  refine ⟨_, _, rfl, rfl, rfl, ?_⟩
  exact resources_balanced hok [(.open, {}), (.start, {}), (.write 8, {}), (.stop, {})] _ _ _
    (List.prefix_refl _) rfl rfl

/-- A playback that is started again after a stop replaces the thread that still runs. -/
theorem restarted_playback_terminates : ¬∀ (direction : pal_stream_direction_t)
    (js : List (Request × Env)) (i : Request × Env) (s t : Session),
    run step (create direction) js = some s → step s i = some t → Balanced i t := by
  intro h
  have hbalanced := h PAL_AUDIO_OUTPUT [(.open, {}), (.start, {}), (.stop, {})] (.start, {}) _ _
    rfl rfl
  exact absurd hbalanced.running (by decide)

end AudioReachPal.SessionAlsaCompress.Resources
