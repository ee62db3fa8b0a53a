import AudioReachPal.ACD.Defs
import AudioReachPal.Lib.MachineInt
import AudioReachPal.Lib.Runs

/-!
# The context events of a stream

`parseEventAndNotifyClient` passes each context of an event to the streams of the context, one after
the other. A stream that was not told of the context before takes a detection for a start; the type
that it gives the event is the one that the streams behind it see.
-/

namespace AudioReachPal.ACD

open AudioReachPal.Lib
open audio_context_event_t

structure acd_per_context_event_info where
  context_id : ContextId
  event_type : audio_context_event_t
  confidence_score : ℕ
  deriving DecidableEq, Repr

/-- The change of a score, as the code computes it. -/
def scoreChange (score last : ℕ) : ℕ := (int32 score - int32 last).natAbs

/-- `notifyStream`. -/
def notifyStream (context_cfg : stream_context_info) (event_type : audio_context_event_t)
    (confidence_score : ℕ) : Bool :=
  match event_type with
  | AUDIO_CONTEXT_EVENT_STOPPED =>
    decide (context_cfg.last_event_type ≠ AUDIO_CONTEXT_EVENT_STOPPED)
  | AUDIO_CONTEXT_EVENT_STARTED => decide (context_cfg.threshold ≤ confidence_score)
  | AUDIO_CONTEXT_EVENT_DETECTED =>
    match context_cfg.last_event_type with
    | AUDIO_CONTEXT_EVENT_STARTED => true
    | AUDIO_CONTEXT_EVENT_STOPPED => decide (context_cfg.threshold ≤ confidence_score)
    | AUDIO_CONTEXT_EVENT_DETECTED =>
      decide (context_cfg.step_size ≤
        scoreChange confidence_score context_cfg.last_confidence_score)
    | other _ => false
  | other _ => false

/-- The stream turns a detection into a start. -/
def promotes (context_cfg : stream_context_info) (event_type : audio_context_event_t)
    (confidence_score : ℕ) : Bool :=
  decide (event_type = AUDIO_CONTEXT_EVENT_DETECTED) &&
    decide (context_cfg.last_event_type = AUDIO_CONTEXT_EVENT_STOPPED) &&
    decide (context_cfg.threshold ≤ confidence_score)

/-- The local `event_type` once the stream was visited. -/
def typeAfter (context_cfg : stream_context_info) (event_type : audio_context_event_t)
    (confidence_score : ℕ) : audio_context_event_t :=
  if promotes context_cfg event_type confidence_score then AUDIO_CONTEXT_EVENT_STARTED
  else event_type

/-- The entry of a stream and the events that it is told, when it is visited with `event_type`. -/
def tell (context_cfg : stream_context_info) (event_info : acd_per_context_event_info)
    (event_type : audio_context_event_t) :
    stream_context_info × List acd_per_context_event_info :=
  if notifyStream context_cfg event_type event_info.confidence_score then
    let event_type := typeAfter context_cfg event_type event_info.confidence_score
    ({ context_cfg with
        last_event_type := event_type
        last_confidence_score := event_info.confidence_score },
      [{ event_info with event_type := event_type }])
  else (context_cfg, [])

/-- The engine while it parses: its map, and `stream_event_info`, where a stream without events has
no entry. -/
structure Parse where
  contextinfo_stream_map_ : ContextMap
  stream_event_info : StreamId → List acd_per_context_event_info := fun _ => []

/-- The loop over the streams of a context. -/
def visitStreams (event_info : acd_per_context_event_info) :
    List (StreamId × stream_context_info) → audio_context_event_t → StreamMap →
      (StreamId → List acd_per_context_event_info) →
      StreamMap × (StreamId → List acd_per_context_event_info)
  | [], _, streams, out => (streams, out)
  | (s, context_cfg) :: rest, event_type, streams, out =>
    let (context_cfg', told) := tell context_cfg event_info event_type
    visitStreams event_info rest (typeAfter context_cfg event_type event_info.confidence_score)
      (streams.insert s context_cfg') (Function.update out s (out s ++ told))

/-- One context of an event. -/
def parseContext (p : Parse) (event_info : acd_per_context_event_info) : Parse :=
  match p.contextinfo_stream_map_[event_info.context_id]? with
  | none => p
  | some streams =>
    let (streams, out) := visitStreams event_info streams.toList event_info.event_type streams
      p.stream_event_info
    { contextinfo_stream_map_ := p.contextinfo_stream_map_.insert event_info.context_id streams
      stream_event_info := out }

/-- A batch: `eventQ` has for each event its contexts. -/
def parseEventAndNotifyClient (m : ContextMap) (eventQ : List (List acd_per_context_event_info)) :
    Parse :=
  eventQ.foldl (fun p event => event.foldl parseContext p) { contextinfo_stream_map_ := m }

/-- What the stream is told in each batch. -/
def notified (s : StreamId) (m : ContextMap) :
    List (List (List acd_per_context_event_info)) → List (List acd_per_context_event_info)
  | [] => []
  | eventQ :: batches =>
    let p := parseEventAndNotifyClient m eventQ
    p.stream_event_info s :: notified s p.contextinfo_stream_map_ batches

/-! ### What a stream is told of a context -/

/-- The event is one that a stream may be told after its last one. -/
def Follows (context_cfg : stream_context_info) (e : acd_per_context_event_info) : Prop :=
  match e.event_type with
  | AUDIO_CONTEXT_EVENT_STOPPED => context_cfg.last_event_type ≠ AUDIO_CONTEXT_EVENT_STOPPED
  | AUDIO_CONTEXT_EVENT_STARTED => context_cfg.threshold ≤ e.confidence_score
  | AUDIO_CONTEXT_EVENT_DETECTED =>
    context_cfg.last_event_type = AUDIO_CONTEXT_EVENT_STARTED ∨
      context_cfg.last_event_type = AUDIO_CONTEXT_EVENT_DETECTED ∧ context_cfg.step_size ≤
        scoreChange e.confidence_score context_cfg.last_confidence_score
  | other _ => False

/-- The entry once the stream was told the event. -/
def stream_context_info.told (context_cfg : stream_context_info) (e : acd_per_context_event_info) :
    stream_context_info :=
  { context_cfg with last_event_type := e.event_type, last_confidence_score := e.confidence_score }

/-- Each event is one that `P` allows after the ones before it. -/
def Lawful (P : stream_context_info → acd_per_context_event_info → Prop) :
    stream_context_info → List acd_per_context_event_info → Prop
  | _, [] => True
  | context_cfg, e :: es => P context_cfg e ∧ Lawful P (context_cfg.told e) es

/-- A detection comes with a change of the score. -/
def Changes (context_cfg : stream_context_info) (e : acd_per_context_event_info) : Prop :=
  e.event_type = AUDIO_CONTEXT_EVENT_DETECTED →
    context_cfg.step_size ≤ scoreChange e.confidence_score context_cfg.last_confidence_score

/-- The law of the events of a context that was stopped: a start has the threshold, a detection has a
start before it and comes right behind it or with a change of the score, and there are no more stops
than starts. -/
structure ToldRight (context_cfg : stream_context_info) (es : List acd_per_context_event_info) :
    Prop where
  started : ∀ e ∈ es, e.event_type = AUDIO_CONTEXT_EVENT_STARTED →
    context_cfg.threshold ≤ e.confidence_score
  startedBefore : ∀ pre e, pre ++ [e] <+: es → e.event_type = AUDIO_CONTEXT_EVENT_DETECTED →
    ∃ d ∈ pre, d.event_type = AUDIO_CONTEXT_EVENT_STARTED
  detected : ∀ pre d e, pre ++ [d, e] <+: es → e.event_type = AUDIO_CONTEXT_EVENT_DETECTED →
    d.event_type = AUDIO_CONTEXT_EVENT_STARTED ∨
      context_cfg.step_size ≤ scoreChange e.confidence_score d.confidence_score
  stopped : ∀ pre, pre <+: es →
    pre.countP (fun e => e.event_type = AUDIO_CONTEXT_EVENT_STOPPED) ≤
      pre.countP (fun e => e.event_type = AUDIO_CONTEXT_EVENT_STARTED)

/-- A detection is told for a change of the score only. -/
def ChangesRight (context_cfg : stream_context_info) (es : List acd_per_context_event_info) : Prop :=
  ∀ pre d e, pre ++ [d, e] <+: es → e.event_type = AUDIO_CONTEXT_EVENT_DETECTED →
    context_cfg.step_size ≤ scoreChange e.confidence_score d.confidence_score

variable {context_cfg : stream_context_info} {es es' : List acd_per_context_event_info}
  {P : stream_context_info → acd_per_context_event_info → Prop}

theorem lawful_append : Lawful P context_cfg (es ++ es') ↔
    Lawful P context_cfg es ∧ Lawful P (es.foldl stream_context_info.told context_cfg) es' := by
  induction es generalizing context_cfg with
  | nil => simp [Lawful]
  | cons e es ih =>
    change P context_cfg e ∧ Lawful P (context_cfg.told e) (es ++ es') ↔
      (P context_cfg e ∧ Lawful P (context_cfg.told e) es) ∧ _
    rw [ih, and_assoc]
    rfl

theorem Lawful.changesRight (h : Lawful Changes context_cfg es) : ChangesRight context_cfg es := by
  intro pre d e hpre htype
  induction es generalizing context_cfg pre with
  | nil => exact absurd (List.prefix_nil.mp hpre) (by simp)
  | cons x es ih =>
    cases pre with
    | nil =>
      obtain ⟨rfl, rest, rfl⟩ := List.cons_prefix_cons.mp hpre
      have hchanges := h.2.1 htype
      exact hchanges
    | cons y pre =>
      obtain ⟨rfl, hrest⟩ := List.cons_prefix_cons.mp hpre
      have hlater := ih h.2 _ hrest
      exact hlater

theorem Lawful.started (h : Lawful Follows context_cfg es) : ∀ e ∈ es,
    e.event_type = AUDIO_CONTEXT_EVENT_STARTED → context_cfg.threshold ≤ e.confidence_score := by
  induction es generalizing context_cfg with
  | nil => exact fun e he => absurd he List.not_mem_nil
  | cons d es ih =>
    intro e he htype
    rcases List.mem_cons.mp he with rfl | he
    · have hfollows := h.1
      rwa [Follows, htype] at hfollows
    · exact ih h.2 e he htype

theorem Lawful.startedBefore (h : Lawful Follows context_cfg es) {pre : List acd_per_context_event_info}
    {e : acd_per_context_event_info} (hpre : pre ++ [e] <+: es)
    (htype : e.event_type = AUDIO_CONTEXT_EVENT_DETECTED) :
    (∃ d ∈ pre, d.event_type = AUDIO_CONTEXT_EVENT_STARTED) ∨
      context_cfg.last_event_type = AUDIO_CONTEXT_EVENT_STARTED ∨
      context_cfg.last_event_type = AUDIO_CONTEXT_EVENT_DETECTED := by
  have hdetects : ∀ (cfg : stream_context_info) d, Follows cfg d →
      d.event_type = AUDIO_CONTEXT_EVENT_DETECTED →
      cfg.last_event_type = AUDIO_CONTEXT_EVENT_STARTED ∨
        cfg.last_event_type = AUDIO_CONTEXT_EVENT_DETECTED := by
    intro cfg d hfollows hd
    rw [Follows, hd] at hfollows
    exact hfollows.imp_right And.left
  induction es generalizing context_cfg pre with
  | nil => exact absurd (List.prefix_nil.mp hpre) (by simp)
  | cons d es ih =>
    cases pre with
    | nil =>
      obtain ⟨rfl, -⟩ := List.cons_prefix_cons.mp hpre
      exact Or.inr (hdetects context_cfg e h.1 htype)
    | cons x pre =>
      obtain ⟨rfl, hrest⟩ := List.cons_prefix_cons.mp hpre
      rcases ih h.2 hrest with ⟨y, hy, hstarted⟩ | hstarted | hdetected
      · exact Or.inl ⟨y, List.mem_cons_of_mem _ hy, hstarted⟩
      · exact Or.inl ⟨x, List.mem_cons_self, hstarted⟩
      · exact Or.inr (hdetects context_cfg x h.1 hdetected)

theorem Lawful.detected (h : Lawful Follows context_cfg es) {pre : List acd_per_context_event_info}
    {d e : acd_per_context_event_info} (hpre : pre ++ [d, e] <+: es)
    (htype : e.event_type = AUDIO_CONTEXT_EVENT_DETECTED) :
    d.event_type = AUDIO_CONTEXT_EVENT_STARTED ∨
      context_cfg.step_size ≤ scoreChange e.confidence_score d.confidence_score := by
  induction es generalizing context_cfg pre with
  | nil => exact absurd (List.prefix_nil.mp hpre) (by simp)
  | cons x es ih =>
    cases pre with
    | nil =>
      obtain ⟨rfl, hrest⟩ := List.cons_prefix_cons.mp hpre
      obtain ⟨rest, rfl⟩ := hrest
      have hfollows := h.2.1
      rw [Follows, htype] at hfollows
      exact hfollows.imp_right And.right
    | cons y pre =>
      obtain ⟨rfl, hrest⟩ := List.cons_prefix_cons.mp hpre
      have hlater := ih h.2 hrest
      exact hlater

theorem Lawful.stopped (h : Lawful Follows context_cfg es) {pre : List acd_per_context_event_info}
    (hpre : pre <+: es) : pre.countP (fun e => e.event_type = AUDIO_CONTEXT_EVENT_STOPPED) ≤
      pre.countP (fun e => e.event_type = AUDIO_CONTEXT_EVENT_STARTED) +
        if context_cfg.last_event_type = AUDIO_CONTEXT_EVENT_STOPPED then 0 else 1 := by
  induction pre generalizing context_cfg es with
  | nil => exact Nat.zero_le _
  | cons e pre ih =>
    obtain ⟨rest, rfl⟩ := hpre
    have hlater := ih h.2 (List.prefix_append _ _)
    have hfollows := h.1
    rw [List.countP_cons, List.countP_cons]
    cases htype : e.event_type with
    | AUDIO_CONTEXT_EVENT_STOPPED =>
      rw [Follows, htype] at hfollows
      simp [stream_context_info.told, htype] at hlater
      simp [hfollows]
      omega
    | AUDIO_CONTEXT_EVENT_STARTED =>
      simp [stream_context_info.told, htype] at hlater
      simp
      omega
    | AUDIO_CONTEXT_EVENT_DETECTED =>
      rw [Follows, htype] at hfollows
      have hgoes : context_cfg.last_event_type ≠ AUDIO_CONTEXT_EVENT_STOPPED := by
        rcases hfollows with hlast | ⟨hlast, -⟩ <;> simp [hlast]
      simp [stream_context_info.told, htype] at hlater
      simp [hgoes]
      omega
    | other value =>
      rw [Follows, htype] at hfollows
      exact hfollows.elim

theorem Lawful.toldRight (h : Lawful Follows context_cfg es)
    (hstopped : context_cfg.last_event_type = AUDIO_CONTEXT_EVENT_STOPPED) :
    ToldRight context_cfg es := by
  refine ⟨h.started, fun pre e hpre htype => ?_, fun pre d e => h.detected, fun pre hpre => ?_⟩
  · rcases h.startedBefore hpre htype with hstarted | hlast | hlast
    · exact hstarted
    · exact absurd (hstopped.symm.trans hlast) (by simp)
    · exact absurd (hstopped.symm.trans hlast) (by simp)
  · simpa [hstopped] using h.stopped hpre

/-! ### One stream among the others -/

variable {s : StreamId} {event_info : acd_per_context_event_info}

theorem tell_cases (context_cfg : stream_context_info) (event_info : acd_per_context_event_info)
    (event_type : audio_context_event_t) :
    tell context_cfg event_info event_type = (context_cfg, []) ∨
      ∃ e, tell context_cfg event_info event_type = (context_cfg.told e, [e]) ∧
        e = { event_info with
          event_type := typeAfter context_cfg event_type event_info.confidence_score } ∧
        Follows context_cfg e := by
  by_cases hnotify :
      notifyStream context_cfg event_type event_info.confidence_score = true
  swap
  · exact Or.inl (if_neg hnotify)
  refine Or.inr ⟨{ event_info with
    event_type := typeAfter context_cfg event_type event_info.confidence_score },
    if_pos hnotify, rfl, ?_⟩
  by_cases hpromotes : promotes context_cfg event_type event_info.confidence_score = true
  · have hstarted : typeAfter context_cfg event_type event_info.confidence_score =
        AUDIO_CONTEXT_EVENT_STARTED := if_pos hpromotes
    simp only [promotes, Bool.and_eq_true, decide_eq_true_eq] at hpromotes
    rw [hstarted]
    exact hpromotes.2
  · have hsame : typeAfter context_cfg event_type event_info.confidence_score = event_type :=
      if_neg hpromotes
    rw [hsame]
    cases event_type with
    | AUDIO_CONTEXT_EVENT_STOPPED =>
      have hlast : context_cfg.last_event_type ≠ AUDIO_CONTEXT_EVENT_STOPPED :=
        of_decide_eq_true hnotify
      exact hlast
    | AUDIO_CONTEXT_EVENT_STARTED =>
      have hscore : context_cfg.threshold ≤ event_info.confidence_score := of_decide_eq_true hnotify
      exact hscore
    | AUDIO_CONTEXT_EVENT_DETECTED =>
      cases hlast : context_cfg.last_event_type with
      | AUDIO_CONTEXT_EVENT_STARTED => exact Or.inl hlast
      | AUDIO_CONTEXT_EVENT_STOPPED =>
        simp [promotes, hlast] at hpromotes
        simp [notifyStream, hlast] at hnotify
        omega
      | AUDIO_CONTEXT_EVENT_DETECTED =>
        simp only [notifyStream, hlast, decide_eq_true_eq] at hnotify
        exact Or.inr ⟨hlast, hnotify⟩
      | other value => simp [notifyStream, hlast] at hnotify
    | other value => exact absurd hnotify Bool.false_ne_true

/-- A stream that is stopped takes a detection as the start that another stream makes of it. -/
theorem tell_promoted (hlast : context_cfg.last_event_type = AUDIO_CONTEXT_EVENT_STOPPED) :
    tell context_cfg event_info AUDIO_CONTEXT_EVENT_STARTED =
      tell context_cfg event_info AUDIO_CONTEXT_EVENT_DETECTED := by
  by_cases hscore : context_cfg.threshold ≤ event_info.confidence_score
  · simp [tell, notifyStream, typeAfter, promotes, hlast, hscore]
  · simp [tell, notifyStream, hlast, hscore]

/-- The type that the streams of a list leave. -/
def typeBehind (confidence_score : ℕ) (streams : List (StreamId × stream_context_info))
    (event_type : audio_context_event_t) : audio_context_event_t :=
  streams.foldl (fun t x => typeAfter x.2 t confidence_score) event_type

theorem typeBehind_cases (confidence_score : ℕ) (streams : List (StreamId × stream_context_info))
    (event_type : audio_context_event_t) :
    typeBehind confidence_score streams event_type = event_type ∨
      typeBehind confidence_score streams event_type = AUDIO_CONTEXT_EVENT_STARTED ∧
        ∃ x ∈ streams, promotes x.2 event_type confidence_score = true := by
  induction streams generalizing event_type with
  | nil => exact Or.inl rfl
  | cons x streams ih =>
    change typeBehind confidence_score streams (typeAfter x.2 event_type confidence_score) = _ ∨
      typeBehind confidence_score streams (typeAfter x.2 event_type confidence_score) = _ ∧ _
    by_cases hpromotes : promotes x.2 event_type confidence_score = true
    · have hstarted : typeAfter x.2 event_type confidence_score = AUDIO_CONTEXT_EVENT_STARTED :=
        if_pos hpromotes
      refine Or.inr ⟨?_, x, List.mem_cons_self, hpromotes⟩
      rw [hstarted]
      rcases ih AUDIO_CONTEXT_EVENT_STARTED with hkept | ⟨hkept, -⟩
      · exact hkept
      · exact hkept
    · have hsame : typeAfter x.2 event_type confidence_score = event_type := if_neg hpromotes
      rw [hsame]
      refine (ih event_type).imp_right ?_
      rintro ⟨hstarted, y, hy, hp⟩
      exact ⟨hstarted, y, List.mem_cons_of_mem _ hy, hp⟩

theorem visitStreams_of_notMem (event_info : acd_per_context_event_info)
    {visited : List (StreamId × stream_context_info)}
    (hs : s ∉ visited.map Prod.fst) (event_type : audio_context_event_t) (streams : StreamMap)
    (out : StreamId → List acd_per_context_event_info) :
    (visitStreams event_info visited event_type streams out).1[s]? = streams[s]? ∧
      (visitStreams event_info visited event_type streams out).2 s = out s := by
  induction visited generalizing event_type streams out with
  | nil => exact ⟨rfl, rfl⟩
  | cons x visited ih =>
    obtain ⟨hx, hrest⟩ := List.ne_and_not_mem_of_not_mem_cons hs
    obtain ⟨hentry, hout⟩ := ih hrest (typeAfter x.2 event_type event_info.confidence_score)
      (streams.insert x.1 (tell x.2 event_info event_type).1)
      (Function.update out x.1 (out x.1 ++ (tell x.2 event_info event_type).2))
    refine ⟨hentry.trans ?_, hout.trans (Function.update_of_ne hx _ _)⟩
    rw [Std.TreeMap.getElem?_insert, if_neg]
    simpa using fun h => hx h.symm

/-- A stream is visited with the type that the streams ahead of it leave. -/
theorem visitStreams_split (context_cfg : stream_context_info)
    (event_info : acd_per_context_event_info) {ahead behind : List (StreamId × stream_context_info)}
    (hahead : s ∉ ahead.map Prod.fst) (hbehind : s ∉ behind.map Prod.fst)
    (event_type : audio_context_event_t) (streams : StreamMap)
    (out : StreamId → List acd_per_context_event_info) :
    let told := tell context_cfg event_info
      (typeBehind event_info.confidence_score ahead event_type)
    (visitStreams event_info (ahead ++ (s, context_cfg) :: behind) event_type streams out).1[s]? =
        some told.1 ∧
      (visitStreams event_info (ahead ++ (s, context_cfg) :: behind) event_type streams out).2 s =
        out s ++ told.2 := by
  induction ahead generalizing event_type streams out with
  | nil =>
    obtain ⟨hentry, hout⟩ := visitStreams_of_notMem event_info hbehind
      (typeAfter context_cfg event_type event_info.confidence_score)
      (streams.insert s (tell context_cfg event_info event_type).1)
      (Function.update out s (out s ++ (tell context_cfg event_info event_type).2))
    refine ⟨hentry.trans ?_, hout.trans (Function.update_self ..)⟩
    rw [Std.TreeMap.getElem?_insert_self]
    rfl
  | cons x ahead ih =>
    obtain ⟨hx, hrest⟩ := List.ne_and_not_mem_of_not_mem_cons hahead
    obtain ⟨hentry, hout⟩ := ih hrest (typeAfter x.2 event_type event_info.confidence_score)
      (streams.insert x.1 (tell x.2 event_info event_type).1)
      (Function.update out x.1 (out x.1 ++ (tell x.2 event_info event_type).2))
    rw [Function.update_of_ne hx] at hout
    exact ⟨hentry, hout⟩

theorem split_toList {streams : StreamMap} (h : streams[s]? = some context_cfg) :
    ∃ ahead behind, streams.toList = ahead ++ (s, context_cfg) :: behind ∧
      (∀ x ∈ ahead, x.1 < s) ∧ s ∉ ahead.map Prod.fst ∧ s ∉ behind.map Prod.fst := by
  obtain ⟨ahead, behind, hsplit⟩ :=
    List.append_of_mem (Std.TreeMap.mem_toList_iff_getElem?_eq_some.mpr h)
  have hordered : streams.toList.Pairwise fun a b => compare a.1 b.1 = .lt :=
    Std.TreeMap.ordered_keys_toList
  rw [hsplit, List.pairwise_append, List.pairwise_cons] at hordered
  obtain ⟨-, ⟨hlater, -⟩, hearlier⟩ := hordered
  have hahead : ∀ x ∈ ahead, x.1 < s :=
    fun x hx => Nat.compare_eq_lt.mp (hearlier x hx _ List.mem_cons_self)
  refine ⟨ahead, behind, hsplit, hahead, ?_, ?_⟩
  · rintro hs
    obtain ⟨x, hx, rfl⟩ := List.mem_map.mp hs
    exact lt_irrefl _ (hahead x hx)
  · rintro hs
    obtain ⟨x, hx, rfl⟩ := List.mem_map.mp hs
    exact lt_irrefl _ (Nat.compare_eq_lt.mp (hlater x hx))

/-- A stream ahead of `s` makes a start of the event. -/
def Promoted (s : StreamId) (p : Parse) (event_info : acd_per_context_event_info) : Prop :=
  ∃ t < s, ∃ context_cfg, p.contextinfo_stream_map_.info t event_info.context_id = some context_cfg ∧
    promotes context_cfg event_info.event_type event_info.confidence_score = true

theorem info_insert (m : ContextMap) (streams : StreamMap) (s : StreamId) (c context_id : ContextId) :
    ContextMap.info (m.insert context_id streams) s c =
      if c = context_id then streams[s]? else m.info s c := by
  unfold ContextMap.info
  rw [Std.TreeMap.getElem?_insert]
  by_cases hc : c = context_id
  · simp [hc]
  · have hne : ¬compare context_id c = .eq := by simpa using fun h => hc h.symm
    rw [if_neg hne, if_neg hc]

/-- What a context of an event does to a stream: it is visited with the type of the event, or with
the one that a stream ahead has given it. -/
theorem parseContext_spec (s : StreamId) (p : Parse) (event_info : acd_per_context_event_info) :
    ∃ t, (t = event_info.event_type ∨
        t = AUDIO_CONTEXT_EVENT_STARTED ∧ Promoted s p event_info) ∧
      (∀ c, (parseContext p event_info).contextinfo_stream_map_.info s c =
        if c = event_info.context_id then
          (p.contextinfo_stream_map_.info s c).map fun cfg => (tell cfg event_info t).1
        else p.contextinfo_stream_map_.info s c) ∧
      (parseContext p event_info).stream_event_info s = p.stream_event_info s ++
        ((p.contextinfo_stream_map_.info s event_info.context_id).elim []
          fun cfg => (tell cfg event_info t).2) := by
  unfold parseContext
  cases hstreams : p.contextinfo_stream_map_[event_info.context_id]? with
  | none =>
    have hnone : p.contextinfo_stream_map_.info s event_info.context_id = none := by
      rw [ContextMap.info, hstreams]
      rfl
    refine ⟨event_info.event_type, Or.inl rfl, fun c => ?_, ?_⟩
    · split_ifs with hc
      · rw [hc, hnone]
        rfl
      · rfl
    · rw [hnone]
      exact (List.append_nil _).symm
  | some streams =>
    have hinfo : ∀ t, p.contextinfo_stream_map_.info t event_info.context_id = streams[t]? := by
      intro t
      rw [ContextMap.info, hstreams]
      rfl
    cases hentry : streams[s]? with
    | none =>
      have hnotMem : s ∉ streams.toList.map Prod.fst := by
        intro hs
        obtain ⟨x, hx, rfl⟩ := List.mem_map.mp hs
        rw [Std.TreeMap.mem_toList_iff_getElem?_eq_some.mp hx] at hentry
        cases hentry
      obtain ⟨hkept, hout⟩ := visitStreams_of_notMem event_info hnotMem event_info.event_type
        streams p.stream_event_info
      refine ⟨event_info.event_type, Or.inl rfl, fun c => ?_, ?_⟩
      · simp only [info_insert]
        split_ifs with hc
        · rw [hkept, hc, hinfo, hentry]
          rfl
        · rfl
      · rw [hinfo, hentry]
        exact hout.trans (List.append_nil _).symm
    | some context_cfg =>
      obtain ⟨ahead, behind, hsplit, hearlier, hahead, hbehind⟩ := split_toList hentry
      obtain ⟨htold, hout⟩ := visitStreams_split context_cfg event_info hahead hbehind
        event_info.event_type streams p.stream_event_info
      rw [← hsplit] at htold hout
      refine ⟨typeBehind event_info.confidence_score ahead event_info.event_type, ?_, fun c => ?_, ?_⟩
      · refine (typeBehind_cases _ ahead event_info.event_type).imp_right ?_
        rintro ⟨hstarted, x, hx, hpromotes⟩
        refine ⟨hstarted, x.1, hearlier x hx, x.2, ?_, hpromotes⟩
        rw [hinfo, ← Std.TreeMap.mem_toList_iff_getElem?_eq_some, hsplit]
        exact List.mem_append_left _ hx
      · simp only [info_insert]
        split_ifs with hc
        · rw [htold, hc, hinfo, hentry]
          rfl
        · rfl
      · rw [hinfo, hentry]
        exact hout

/-- No stream ahead of `s` makes a start of the event, unless `s` is stopped as well. -/
def Undisturbed (s : StreamId) (p : Parse) (event_info : acd_per_context_event_info) : Prop :=
  ∀ context_cfg, p.contextinfo_stream_map_.info s event_info.context_id = some context_cfg →
    context_cfg.last_event_type ≠ AUDIO_CONTEXT_EVENT_STOPPED → ¬Promoted s p event_info

/-- An undisturbed stream is told what it would be told alone. -/
theorem parseContext_of_undisturbed {p : Parse} (h : Undisturbed s p event_info) :
    (∀ c, (parseContext p event_info).contextinfo_stream_map_.info s c =
      if c = event_info.context_id then
        (p.contextinfo_stream_map_.info s c).map
          fun cfg => (tell cfg event_info event_info.event_type).1
      else p.contextinfo_stream_map_.info s c) ∧
    (parseContext p event_info).stream_event_info s = p.stream_event_info s ++
      ((p.contextinfo_stream_map_.info s event_info.context_id).elim []
        fun cfg => (tell cfg event_info event_info.event_type).2) := by
  obtain ⟨t, htype, hinfo, hout⟩ := parseContext_spec s p event_info
  have hsame : ∀ cfg, p.contextinfo_stream_map_.info s event_info.context_id = some cfg →
      tell cfg event_info t = tell cfg event_info event_info.event_type := by
    intro cfg hcfg
    rcases htype with rfl | ⟨rfl, hpromoted⟩
    · rfl
    · have hlast : cfg.last_event_type = AUDIO_CONTEXT_EVENT_STOPPED := by
        by_contra hlast
        exact h cfg hcfg hlast hpromoted
      have hdetected : event_info.event_type = AUDIO_CONTEXT_EVENT_DETECTED := by
        obtain ⟨_, _, _, _, hpromotes⟩ := hpromoted
        simp only [promotes, Bool.and_eq_true, decide_eq_true_eq] at hpromotes
        exact hpromotes.1.1
      rw [hdetected]
      exact tell_promoted hlast
  refine ⟨fun c => ?_, ?_⟩
  · rw [hinfo]
    split_ifs with hc
    · subst hc
      exact Option.map_congr fun cfg hcfg => congrArg Prod.fst (hsame cfg hcfg)
    · rfl
  · rw [hout]
    cases hcfg : p.contextinfo_stream_map_.info s event_info.context_id with
    | none => rfl
    | some cfg => exact congrArg (_ ++ ·.2) (hsame cfg hcfg)

/-! ### Runs -/

/-- Two parses look the same to the stream. -/
def Alike (s : StreamId) (p q : Parse) : Prop :=
  (∀ c, p.contextinfo_stream_map_.info s c = q.contextinfo_stream_map_.info s c) ∧
    p.stream_event_info s = q.stream_event_info s

theorem Alike.parseContext {p q : Parse} (h : Alike s p q) (hp : Undisturbed s p event_info)
    (hq : Undisturbed s q event_info) :
    Alike s (parseContext p event_info) (parseContext q event_info) := by
  obtain ⟨hpinfo, hpout⟩ := parseContext_of_undisturbed hp
  obtain ⟨hqinfo, hqout⟩ := parseContext_of_undisturbed hq
  refine ⟨fun c => ?_, ?_⟩
  · rw [hpinfo, hqinfo, h.1]
  · rw [hpout, hqout, h.1, h.2]

theorem Alike.foldl {p q : Parse} (h : Alike s p q)
    (hp : Meets (fun p e => some (ACD.parseContext p e)) (Undisturbed s) p es)
    (hq : Meets (fun p e => some (ACD.parseContext p e)) (Undisturbed s) q es) :
    Alike s (es.foldl ACD.parseContext p) (es.foldl ACD.parseContext q) := by
  induction es generalizing p q with
  | nil => exact h
  | cons e es ih =>
    obtain ⟨hpe, hpes⟩ := meets_some_cons.mp hp
    obtain ⟨hqe, hqes⟩ := meets_some_cons.mp hq
    exact ih (h.parseContext hpe hqe) hpes hqes

theorem parseEventAndNotifyClient_eq (m : ContextMap)
    (eventQ : List (List acd_per_context_event_info)) :
    parseEventAndNotifyClient m eventQ =
      eventQ.flatten.foldl parseContext { contextinfo_stream_map_ := m } :=
  List.foldl_flatten.symm

/-- The contexts of all the batches meet the condition. -/
def MeetsAlong (ok : Parse → acd_per_context_event_info → Prop) (m : ContextMap) :
    List (List (List acd_per_context_event_info)) → Prop
  | [] => True
  | eventQ :: batches =>
    Meets (fun p e => some (parseContext p e)) ok { contextinfo_stream_map_ := m }
      eventQ.flatten ∧
    MeetsAlong ok (parseEventAndNotifyClient m eventQ).contextinfo_stream_map_ batches

theorem notified_congr {m₁ m₂ : ContextMap}
    {batches : List (List (List acd_per_context_event_info))}
    (hsame : ∀ c, m₁.info s c = m₂.info s c) (h₁ : MeetsAlong (Undisturbed s) m₁ batches)
    (h₂ : MeetsAlong (Undisturbed s) m₂ batches) : notified s m₁ batches = notified s m₂ batches := by
  induction batches generalizing m₁ m₂ with
  | nil => rfl
  | cons eventQ batches ih =>
    have halike : Alike s (parseEventAndNotifyClient m₁ eventQ)
        (parseEventAndNotifyClient m₂ eventQ) := by
      rw [parseEventAndNotifyClient_eq, parseEventAndNotifyClient_eq]
      exact Alike.foldl ⟨hsame, rfl⟩ h₁.1 h₂.1
    simp only [notified]
    rw [halike.2, ih halike.1 h₁.2 h₂.2]

/-- The events of one context. -/
def ofContext (c : ContextId) (es : List acd_per_context_event_info) :
    List acd_per_context_event_info :=
  es.filter fun e => e.context_id = c

/-- What the stream may be told of the context is an event that `P` allows. -/
def Tells (P : stream_context_info → acd_per_context_event_info → Prop) (s : StreamId) (p : Parse)
    (event_info : acd_per_context_event_info) : Prop :=
  ∀ context_cfg, p.contextinfo_stream_map_.info s event_info.context_id = some context_cfg →
    ∀ t, t = event_info.event_type ∨ t = AUDIO_CONTEXT_EVENT_STARTED →
      ∀ e, tell context_cfg event_info t = (context_cfg.told e, [e]) → P context_cfg e

theorem tells_follows (s : StreamId) (p : Parse) (event_info : acd_per_context_event_info) :
    Tells Follows s p event_info := by
  rintro context_cfg - t - e htell
  rcases tell_cases context_cfg event_info t with hnone | ⟨e', htell', -, hfollows⟩
  · rw [hnone] at htell
    exact absurd (congrArg Prod.snd htell) (List.cons_ne_nil _ _).symm
  · rw [htell'] at htell
    have he : e' = e := List.singleton_injective (congrArg Prod.snd htell)
    exact he ▸ hfollows

/-- A detection right behind the start that the stream was told comes with a change of the score. -/
def FirstChanges (s : StreamId) (p : Parse) (event_info : acd_per_context_event_info) : Prop :=
  ∀ context_cfg, p.contextinfo_stream_map_.info s event_info.context_id = some context_cfg →
    context_cfg.last_event_type = AUDIO_CONTEXT_EVENT_STARTED → Changes context_cfg event_info

theorem tells_changes {p : Parse} (h : FirstChanges s p event_info) :
    Tells Changes s p event_info := by
  intro context_cfg hcfg t ht e htell htype
  rcases tell_cases context_cfg event_info t with hnone | ⟨e', htell', he', hfollows⟩
  · rw [hnone] at htell
    exact absurd (congrArg Prod.snd htell) (List.cons_ne_nil _ _).symm
  rw [htell'] at htell
  obtain rfl : e' = e := List.singleton_injective (congrArg Prod.snd htell)
  rw [Follows, htype] at hfollows
  rcases hfollows with hlast | ⟨-, hchange⟩
  · -- the stream was visited with the event as it is
    have hdetected : event_info.event_type = AUDIO_CONTEXT_EVENT_DETECTED := by
      rw [he'] at htype
      change typeAfter context_cfg t event_info.confidence_score = _ at htype
      unfold typeAfter at htype
      split_ifs at htype
      rcases ht with rfl | rfl
      · exact htype
      · cases htype
    have hscore : e'.confidence_score = event_info.confidence_score := by rw [he']
    rw [hscore]
    exact h context_cfg hcfg hlast hdetected
  · exact hchange

theorem parseContext_lawful {p : Parse} {c : ContextId}
    (h : p.contextinfo_stream_map_.info s c = some context_cfg) (hP : Tells P s p event_info) :
    ∃ told, (parseContext p event_info).stream_event_info s = p.stream_event_info s ++ told ∧
      Lawful P context_cfg (ofContext c told) ∧
      (parseContext p event_info).contextinfo_stream_map_.info s c =
        some ((ofContext c told).foldl stream_context_info.told context_cfg) := by
  obtain ⟨t, ht, hinfo, hout⟩ := parseContext_spec s p event_info
  by_cases hc : c = event_info.context_id
  · subst hc
    refine ⟨(tell context_cfg event_info t).2, ?_, ?_⟩
    · rw [hout, h]
      rfl
    · rw [hinfo, if_pos rfl, h, Option.map_some]
      rcases tell_cases context_cfg event_info t with heq | ⟨e, heq, he, -⟩
      · rw [heq]
        exact ⟨trivial, rfl⟩
      · have hone : ofContext event_info.context_id [e] = [e] := by simp [ofContext, he]
        have hallowed := hP context_cfg h t (ht.imp_right And.left) e heq
        rw [heq]
        simp only [hone]
        exact ⟨⟨hallowed, trivial⟩, rfl⟩
  · refine ⟨_, hout, ?_⟩
    have hnone : ofContext c ((p.contextinfo_stream_map_.info s event_info.context_id).elim []
        fun cfg => (tell cfg event_info t).2) = [] := by
      cases p.contextinfo_stream_map_.info s event_info.context_id with
      | none => rfl
      | some cfg =>
        rcases tell_cases cfg event_info t with heq | ⟨e, heq, he, -⟩
        · simp [heq, ofContext]
        · simp [heq, ofContext, he, Ne.symm hc]
    rw [hnone, hinfo, if_neg hc]
    exact ⟨trivial, h⟩

theorem foldl_lawful {c : ContextId} {p : Parse}
    (h : p.contextinfo_stream_map_.info s c = some context_cfg)
    (hP : Meets (fun p e => some (parseContext p e)) (Tells P s) p es) :
    ∃ told, (es.foldl parseContext p).stream_event_info s = p.stream_event_info s ++ told ∧
      Lawful P context_cfg (ofContext c told) ∧
      (es.foldl parseContext p).contextinfo_stream_map_.info s c =
        some ((ofContext c told).foldl stream_context_info.told context_cfg) := by
  induction es generalizing p context_cfg with
  | nil => exact ⟨[], (List.append_nil _).symm, trivial, h⟩
  | cons e es ih =>
    obtain ⟨hPe, hPes⟩ := meets_some_cons.mp hP
    obtain ⟨told, hout, hlawful, hinfo⟩ := parseContext_lawful h hPe
    obtain ⟨later, hlater, hlawful', hinfo'⟩ := ih hinfo hPes
    refine ⟨told ++ later, ?_, ?_, ?_⟩
    · rw [List.foldl_cons, hlater, hout, List.append_assoc]
    · rw [ofContext, List.filter_append, lawful_append]
      exact ⟨hlawful, hlawful'⟩
    · rw [List.foldl_cons, hinfo', ofContext, ofContext, ofContext, List.filter_append,
        List.foldl_append]

theorem notified_lawful {ok : Parse → acd_per_context_event_info → Prop}
    (hok : ∀ p e, ok p e → Tells P s p e) {c : ContextId}
    {batches : List (List (List acd_per_context_event_info))} {m : ContextMap}
    (h : m.info s c = some context_cfg) (hmeets : MeetsAlong ok m batches) :
    Lawful P context_cfg (ofContext c (notified s m batches).flatten) := by
  induction batches generalizing m context_cfg with
  | nil => trivial
  | cons eventQ batches ih =>
    have htells := hmeets.1.mono hok
    obtain ⟨told, hout, hlawful, hinfo⟩ := foldl_lawful h htells
    rw [← parseEventAndNotifyClient_eq] at hout hinfo
    rw [notified, List.flatten_cons, ofContext, List.filter_append, lawful_append, hout]
    exact ⟨hlawful, ih hinfo hmeets.2⟩

theorem meetsAlong_of_forall {ok : Parse → acd_per_context_event_info → Prop}
    (hok : ∀ p e, ok p e) (m : ContextMap)
    (batches : List (List (List acd_per_context_event_info))) : MeetsAlong ok m batches := by
  induction batches generalizing m with
  | nil => trivial
  | cons eventQ batches ih => exact ⟨meets_of_forall (fun p e _ => hok p e) _, ih _⟩

/-- **Context events.** Two engines with the same entries of a stream tell it the same, as long as no
stream ahead of it makes a start of a detection while it is not stopped. In every run it is told
right of each context that it was not told of before, and of its changes where the detections right
behind a start are changes. -/
theorem notified_alike {m₁ m₂ : ContextMap}
    {batches : List (List (List acd_per_context_event_info))}
    (hsame : ∀ c, m₁.info s c = m₂.info s c) (h₁ : MeetsAlong (Undisturbed s) m₁ batches)
    (h₂ : MeetsAlong (Undisturbed s) m₂ batches) :
    notified s m₁ batches = notified s m₂ batches ∧
      ∀ (m : ContextMap) c context_cfg, m.info s c = some context_cfg →
        context_cfg.last_event_type = AUDIO_CONTEXT_EVENT_STOPPED →
        ToldRight context_cfg (ofContext c (notified s m batches).flatten) ∧
        (MeetsAlong (FirstChanges s) m batches →
          ChangesRight context_cfg (ofContext c (notified s m batches).flatten)) := by
  refine ⟨notified_congr hsame h₁ h₂, fun m c context_cfg h hstopped => ⟨?_, fun hchanges => ?_⟩⟩
  · have hall := meetsAlong_of_forall (tells_follows s) m batches
    exact (notified_lawful (fun _ _ => id) h hall).toldRight hstopped
  · exact (notified_lawful (fun _ _ => tells_changes) h hchanges).changesRight

/-- A context of one stream. -/
def alone : ContextMap :=
  (∅ : ContextMap).insert 7 ((∅ : StreamMap).insert 1 { threshold := 50, step_size := 10 })

/-- The same context with a stream ahead of it and one behind it. -/
def shared : ContextMap :=
  (∅ : ContextMap).insert 7 ((((∅ : StreamMap).insert 0 { threshold := 70, step_size := 10 }).insert
    1 { threshold := 50, step_size := 10 }).insert 2 { threshold := 20, step_size := 5 })

theorem info_shared (c : ContextId) : alone.info 1 c = shared.info 1 c := by
  unfold alone shared
  rw [info_insert, info_insert]
  split_ifs
  · decide
  · rfl

instance (p : Parse) : Decidable (Promoted s p event_info) :=
  decidable_of_iff (∃ t < s, (p.contextinfo_stream_map_.info t event_info.context_id).any
    (promotes · event_info.event_type event_info.confidence_score) = true) <| by
    unfold Promoted
    refine exists_congr fun t => and_congr_right fun _ => ?_
    rw [Option.any_eq_true]

instance (p : Parse) : Decidable (Undisturbed s p event_info) :=
  decidable_of_iff (∀ context_cfg ∈ p.contextinfo_stream_map_.info s event_info.context_id,
    context_cfg.last_event_type ≠ AUDIO_CONTEXT_EVENT_STOPPED → ¬Promoted s p event_info) Iff.rfl

instance (p : Parse) : Decidable (FirstChanges s p event_info) :=
  decidable_of_iff (∀ context_cfg ∈ p.contextinfo_stream_map_.info s event_info.context_id,
    context_cfg.last_event_type = AUDIO_CONTEXT_EVENT_STARTED →
      event_info.event_type = AUDIO_CONTEXT_EVENT_DETECTED → context_cfg.step_size ≤
        scoreChange event_info.confidence_score context_cfg.last_confidence_score) Iff.rfl

/-- Detections with a change and without one, a stop, and a detection that the stream ahead makes a
start of while the stream is stopped too. -/
def detections : List (List (List acd_per_context_event_info)) :=
  [[[⟨7, AUDIO_CONTEXT_EVENT_STARTED, 80⟩], [⟨7, AUDIO_CONTEXT_EVENT_DETECTED, 95⟩]],
    [[⟨7, AUDIO_CONTEXT_EVENT_DETECTED, 97⟩], [⟨7, AUDIO_CONTEXT_EVENT_DETECTED, 82⟩]],
    [[⟨7, AUDIO_CONTEXT_EVENT_STOPPED, 0⟩], [⟨7, AUDIO_CONTEXT_EVENT_DETECTED, 75⟩]]]

theorem notified_alike_detections :
    notified 1 alone detections = notified 1 shared detections ∧
      ToldRight { threshold := 50, step_size := 10 }
        (ofContext 7 (notified 1 shared detections).flatten) ∧
      ChangesRight { threshold := 50, step_size := 10 }
        (ofContext 7 (notified 1 shared detections).flatten) := by
  have hpair : ∀ {ok : Parse → acd_per_context_event_info → Prop} {p : Parse}
      {d e : acd_per_context_event_info}, ok p d → ok (parseContext p d) e →
      Meets (fun p e => some (parseContext p e)) ok p [d, e] := fun hd he =>
    meets_some_cons.mpr ⟨hd, meets_some_cons.mpr ⟨he, trivial⟩⟩
  have halone : MeetsAlong (Undisturbed 1) alone detections :=
    ⟨hpair (by decide) (by decide), hpair (by decide) (by decide), hpair (by decide) (by decide),
      trivial⟩
  have hshared : MeetsAlong (Undisturbed 1) shared detections :=
    ⟨hpair (by decide) (by decide), hpair (by decide) (by decide), hpair (by decide) (by decide),
      trivial⟩
  have hchanges : MeetsAlong (FirstChanges 1) shared detections :=
    ⟨hpair (by decide) (by decide), hpair (by decide) (by decide), hpair (by decide) (by decide),
      trivial⟩
  obtain ⟨halike, hright⟩ := notified_alike info_shared halone hshared
  obtain ⟨htold, hchanged⟩ := hright shared 7 { threshold := 50, step_size := 10 } (by decide) rfl
  exact ⟨halike, htold, hchanged hchanges⟩

/-- The stream ahead takes a detection for its start, so that the stream is told of a second start.
And the first detection is told with any score. -/
theorem not_notified_alike :
    (∀ c, alone.info 1 c = shared.info 1 c) ∧
    notified 1 alone [[[⟨7, AUDIO_CONTEXT_EVENT_STARTED, 60⟩]],
        [[⟨7, AUDIO_CONTEXT_EVENT_DETECTED, 80⟩]]] ≠
      notified 1 shared [[[⟨7, AUDIO_CONTEXT_EVENT_STARTED, 60⟩]],
        [[⟨7, AUDIO_CONTEXT_EVENT_DETECTED, 80⟩]]] ∧
    notified 1 alone [[[⟨7, AUDIO_CONTEXT_EVENT_STARTED, 60⟩]],
        [[⟨7, AUDIO_CONTEXT_EVENT_DETECTED, 60⟩]]] =
      [[⟨7, AUDIO_CONTEXT_EVENT_STARTED, 60⟩], [⟨7, AUDIO_CONTEXT_EVENT_DETECTED, 60⟩]] :=
  ⟨info_shared, by decide, by decide⟩

end AudioReachPal.ACD
