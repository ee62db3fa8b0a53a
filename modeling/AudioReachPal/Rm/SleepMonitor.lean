import AudioReachPal.Rm.Defs
import AudioReachPal.Lib.Runs
import AudioReachPal.Lib.Channel
import Mathlib.Data.List.Count
import Mathlib.Data.Int.Basic

/-!
# Votes to the sleep monitor

A vote or an unvote changes its counter under the mutex of the sleep monitor and releases it for the
ioctl that tells the driver. The command of a transition is then in flight: it reaches the driver at
any later time, whatever other calls do meanwhile. A run is a sequence of calls, each up to its
ioctl, and of ioctls.
-/

namespace AudioReachPal.Rm

open AudioReachPal.Lib

inductive vote_type_t where
  | LPI_VOTE
  | NLPI_VOTE
  | AVOID_VOTE
  deriving DecidableEq, Repr

/-- The commands of the audio ioctl of the driver. -/
inductive adspsleepmon_audio_command where
  | ADSPSLEEPMON_AUDIO_ACTIVITY_START
  | ADSPSLEEPMON_AUDIO_ACTIVITY_STOP
  | ADSPSLEEPMON_AUDIO_ACTIVITY_LPI_START
  | ADSPSLEEPMON_AUDIO_ACTIVITY_LPI_STOP
  deriving DecidableEq, Repr

open vote_type_t adspsleepmon_audio_command

/-- What a stream answers to a vote. -/
structure VotingStream where
  getStreamType : Option pal_stream_type_t
  getVoteType : vote_type_t
  deriving DecidableEq, Repr

structure SleepMonitorConfig where
  sleepmon_fd_ : ℤ
  sleep_monitor_vote_type_ : pal_stream_type_t → vote_type_t

/-- The type that a call votes with, or the status with which it ends at once. -/
def SleepMonitorConfig.voteType (cfg : SleepMonitorConfig) (str : Option VotingStream)
    (force_nlpi_vote : Bool) : Except ℤ vote_type_t :=
  if cfg.sleepmon_fd_ = -1 then .error (-EINVAL)
  else match str with
    | none => .ok NLPI_VOTE
    | some str =>
      match str.getStreamType with
      | none => .error (-EINVAL)
      | some type =>
        let vote_type := if force_nlpi_vote then NLPI_VOTE else str.getVoteType
        let vote_type :=
          if vote_type = AVOID_VOTE then cfg.sleep_monitor_vote_type_ type else vote_type
        if vote_type = AVOID_VOTE then .error 0 else .ok vote_type

/-! ### The counters -/

structure VoteCounters where
  lpi_counter_ : ℤ := 0
  nlpi_counter_ : ℤ := 0
  deriving DecidableEq, Repr

/-- What a call does under the mutex: the counters, and the command it unlocks for. -/
def VoteCounters.count (c : VoteCounters) (vote : Bool) (vote_type : vote_type_t) :
    VoteCounters × Option adspsleepmon_audio_command :=
  if vote then
    if vote_type = LPI_VOTE then
      let c := { c with lpi_counter_ := c.lpi_counter_ + 1 }
      (c, if c.lpi_counter_ ≥ 1 then some ADSPSLEEPMON_AUDIO_ACTIVITY_LPI_START else none)
    else
      let c := { c with nlpi_counter_ := c.nlpi_counter_ + 1 }
      (c, if c.nlpi_counter_ = 1 then some ADSPSLEEPMON_AUDIO_ACTIVITY_START else none)
  else
    if vote_type = LPI_VOTE then
      let c := { c with lpi_counter_ := c.lpi_counter_ - 1 }
      if c.lpi_counter_ ≥ 0 then (c, some ADSPSLEEPMON_AUDIO_ACTIVITY_LPI_STOP)
      else ({ c with lpi_counter_ := 0 }, none)
    else
      let c := { c with nlpi_counter_ := c.nlpi_counter_ - 1 }
      if c.nlpi_counter_ = 0 then (c, some ADSPSLEEPMON_AUDIO_ACTIVITY_STOP)
      else if c.nlpi_counter_ < 0 then ({ c with nlpi_counter_ := 0 }, none)
      else (c, none)

/-! ### Runs -/

/-- A caller of votes. -/
abbrev VoterId := ℕ

inductive MonitorStep where
  | voteSleepMonitor (voter : VoterId) (str : Option VotingStream) (vote force_nlpi_vote : Bool)
  | ioctl (voter : VoterId) (command : adspsleepmon_audio_command)
  deriving DecidableEq, Repr

/-- The counters, the ioctls with their callers, and the votes that are not yet unvoted. -/
structure SleepMonitor where
  counters : VoteCounters := {}
  ioctls : Channel (VoterId × adspsleepmon_audio_command) := {}
  votes : List (VoterId × vote_type_t) := []

namespace SleepMonitor

/-- The voter is in an ioctl. -/
def InCall (σ : SleepMonitor) (voter : VoterId) : Prop := voter ∈ σ.ioctls.inFlight.map Prod.fst

instance (σ : SleepMonitor) (voter : VoterId) : Decidable (σ.InCall voter) :=
  inferInstanceAs (Decidable (_ ∈ _))

/-- The call of a voter up to its ioctl. -/
def enter (σ : SleepMonitor) (voter : VoterId) (vote : Bool) (vote_type : vote_type_t) :
    SleepMonitor where
  counters := (σ.counters.count vote vote_type).1
  ioctls := match (σ.counters.count vote vote_type).2 with
    | some command => σ.ioctls.send (voter, command)
    | none => σ.ioctls
  votes := if vote then (voter, vote_type) :: σ.votes else σ.votes.erase (voter, vote_type)

/-- An unvote follows the vote of the same voter and type, and no voter is in two calls. -/
def step (cfg : SleepMonitorConfig) (σ : SleepMonitor) : MonitorStep → Option SleepMonitor
  | .voteSleepMonitor voter str vote force_nlpi_vote =>
    match cfg.voteType str force_nlpi_vote with
    | .error _ => some σ
    | .ok vote_type =>
      if σ.InCall voter ∨ (vote = false ∧ (voter, vote_type) ∉ σ.votes) then none
      else some (σ.enter voter vote vote_type)
  | .ioctl voter command =>
    if (voter, command) ∈ σ.ioctls.inFlight then
      some { σ with ioctls := σ.ioctls.deliver (voter, command) }
    else none

/-- The number of outstanding votes of a type. -/
def outstanding (σ : SleepMonitor) (vote_type : vote_type_t) : ℕ :=
  σ.votes.countP fun v => v.2 = vote_type

/-- The commands `ADSPSLEEPMON_AUDIO_ACTIVITY_START` and `_STOP`, the ones that NLPI votes send. -/
def isActivity (m : VoterId × adspsleepmon_audio_command) : Bool :=
  m.2 = ADSPSLEEPMON_AUDIO_ACTIVITY_START || m.2 = ADSPSLEEPMON_AUDIO_ACTIVITY_STOP

/-- The last of the NLPI commands in a list. -/
def lastActivity (ms : List (VoterId × adspsleepmon_audio_command)) :
    Option adspsleepmon_audio_command :=
  (ms.filter isActivity).getLast?.map Prod.snd

/-- How often the driver got a command. -/
def received (σ : SleepMonitor) (command : adspsleepmon_audio_command) : ℕ :=
  σ.ioctls.delivered.countP fun m => m.2 = command

/-- What the driver knows when no call is in progress. -/
structure VotesDelivered (σ : SleepMonitor) : Prop where
  nlpi : σ.counters.nlpi_counter_ = σ.outstanding NLPI_VOTE
  lpi : σ.counters.lpi_counter_ = σ.outstanding LPI_VOTE
  last : lastActivity σ.ioctls.delivered = some ADSPSLEEPMON_AUDIO_ACTIVITY_START ↔
    0 < σ.counters.nlpi_counter_
  balance : (σ.received ADSPSLEEPMON_AUDIO_ACTIVITY_LPI_START : ℤ) -
    σ.received ADSPSLEEPMON_AUDIO_ACTIVITY_LPI_STOP = σ.counters.lpi_counter_

/-- An NLPI command reaches the driver before the NLPI commands of later transitions. -/
def inOrder (σ : SleepMonitor) : MonitorStep → Prop
  | .ioctl voter command => σ.ioctls.Oldest (voter, command) isActivity
  | _ => True

instance (σ : SleepMonitor) : ∀ i, Decidable (σ.inOrder i)
  | .ioctl _ _ => inferInstanceAs (Decidable (_ → _ = _))
  | .voteSleepMonitor _ _ _ _ => .isTrue trivial

/-! ### The counters count the votes -/

/-- The counters are the numbers of votes. -/
structure Counted (σ : SleepMonitor) : Prop where
  nlpi : σ.counters.nlpi_counter_ = σ.outstanding NLPI_VOTE
  lpi : σ.counters.lpi_counter_ = σ.outstanding LPI_VOTE
  types : ∀ v ∈ σ.votes, v.2 ≠ AVOID_VOTE
  balance : (σ.ioctls.sent.countP (fun m => m.2 = ADSPSLEEPMON_AUDIO_ACTIVITY_LPI_START) : ℤ) -
    σ.ioctls.sent.countP (fun m => m.2 = ADSPSLEEPMON_AUDIO_ACTIVITY_LPI_STOP) =
      σ.counters.lpi_counter_

theorem voteType_ne_avoid {cfg : SleepMonitorConfig} {str : Option VotingStream} {force : Bool}
    {vote_type : vote_type_t} (h : cfg.voteType str force = .ok vote_type) :
    vote_type ≠ AVOID_VOTE := by
  unfold SleepMonitorConfig.voteType at h
  by_cases hfd : cfg.sleepmon_fd_ = -1
  · simp [hfd] at h
  rw [if_neg hfd] at h
  cases str with
  | none =>
    cases h
    decide
  | some str =>
    cases htype : str.getStreamType with
    | none => simp [htype] at h
    | some type =>
      simp only [htype] at h
      by_cases havoid : (if (if force then NLPI_VOTE else str.getVoteType) = AVOID_VOTE then
          cfg.sleep_monitor_vote_type_ type
        else if force then NLPI_VOTE else str.getVoteType) = AVOID_VOTE
      · rw [if_pos havoid] at h
        cases h
      · rw [if_neg havoid] at h
        cases h
        exact havoid

section Counters

variable {c : VoteCounters}

theorem count_vote_lpi (h : 0 ≤ c.lpi_counter_) :
    c.count true LPI_VOTE = ({ c with lpi_counter_ := c.lpi_counter_ + 1 },
      some ADSPSLEEPMON_AUDIO_ACTIVITY_LPI_START) := by
  simp [VoteCounters.count]
  omega

theorem count_vote_nlpi : c.count true NLPI_VOTE =
    ({ c with nlpi_counter_ := c.nlpi_counter_ + 1 },
      if c.nlpi_counter_ = 0 then some ADSPSLEEPMON_AUDIO_ACTIVITY_START else none) := by
  have hone : c.nlpi_counter_ + 1 = 1 ↔ c.nlpi_counter_ = 0 := by omega
  simp [VoteCounters.count, hone]

theorem count_unvote_lpi (h : 0 < c.lpi_counter_) :
    c.count false LPI_VOTE = ({ c with lpi_counter_ := c.lpi_counter_ - 1 },
      some ADSPSLEEPMON_AUDIO_ACTIVITY_LPI_STOP) := by
  simp [VoteCounters.count]
  omega

theorem count_unvote_nlpi (h : 0 < c.nlpi_counter_) :
    c.count false NLPI_VOTE = ({ c with nlpi_counter_ := c.nlpi_counter_ - 1 },
      if c.nlpi_counter_ = 1 then some ADSPSLEEPMON_AUDIO_ACTIVITY_STOP else none) := by
  have hzero : c.nlpi_counter_ - 1 = 0 ↔ c.nlpi_counter_ = 1 := by omega
  have hneg : ¬c.nlpi_counter_ - 1 < 0 := by omega
  by_cases hone : c.nlpi_counter_ = 1
  · simp [VoteCounters.count, hone]
  · simp [VoteCounters.count, hzero, hone, hneg]

end Counters

variable {σ σ' : SleepMonitor}

theorem countP_votes_cons {vs : List (VoterId × vote_type_t)} {voter : VoterId}
    {t u : vote_type_t} : ((voter, t) :: vs).countP (fun v => v.2 = u) =
      vs.countP (fun v => v.2 = u) + if t = u then 1 else 0 := by
  by_cases h : t = u <;> simp [h]

theorem countP_votes_erase {vs : List (VoterId × vote_type_t)} {voter : VoterId}
    {t u : vote_type_t} (h : (voter, t) ∈ vs) : vs.countP (fun v => v.2 = u) =
      (vs.erase (voter, t)).countP (fun v => v.2 = u) + if t = u then 1 else 0 := by
  rw [(List.perm_cons_erase h).countP_eq, countP_votes_cons]

theorem Counted.pos {voter : VoterId} {t : vote_type_t} (h : (voter, t) ∈ σ.votes) :
    0 < σ.outstanding t := by
  unfold outstanding
  rw [countP_votes_erase h, if_pos rfl]
  omega

/-- An LPI command counts in the balance, an NLPI command does not. -/
theorem enter_counted {voter : VoterId} {vote : Bool} {t : vote_type_t} (h : Counted σ)
    (ht : t ≠ AVOID_VOTE) (hvote : vote = false → (voter, t) ∈ σ.votes) :
    Counted (σ.enter voter vote t) := by
  have hnlpi := h.nlpi
  have hlpi := h.lpi
  have hbal := h.balance
  have htypes : ∀ v ∈ (σ.enter voter vote t).votes, v.2 ≠ AVOID_VOTE := by
    intro v hv
    cases vote with
    | true => exact (List.mem_cons.mp hv).elim (fun he => he ▸ ht) (h.types v)
    | false => exact h.types v (List.mem_of_mem_erase hv)
  cases vote with
  | true =>
    have hcons : ∀ u, ((voter, t) :: σ.votes).countP (fun v => v.2 = u) =
        σ.votes.countP (fun v => v.2 = u) + if t = u then 1 else 0 := fun u => countP_votes_cons
    unfold outstanding at hnlpi hlpi
    cases t with
    | AVOID_VOTE => exact absurd rfl ht
    | LPI_VOTE =>
      have hcount := count_vote_lpi (c := σ.counters) (by omega)
      refine ⟨?_, ?_, htypes, ?_⟩ <;>
        simp only [enter, hcount, outstanding, if_true, hcons, Channel.sent_send]
      · simpa using hnlpi
      · simp [hlpi]
      · simp [List.countP_append]
        omega
    | NLPI_VOTE =>
      have hcount := count_vote_nlpi (c := σ.counters)
      refine ⟨?_, ?_, htypes, ?_⟩ <;> simp only [enter, hcount, outstanding, if_true, hcons]
      · simp [hnlpi]
      · simpa using hlpi
      · split_ifs <;> simpa [Channel.sent_send, List.countP_append] using hbal
  | false =>
    have hmem := hvote rfl
    have herase := fun u => countP_votes_erase (u := u) hmem
    have hpos := Counted.pos hmem
    unfold outstanding at hnlpi hlpi hpos
    cases t with
    | AVOID_VOTE => exact absurd rfl ht
    | LPI_VOTE =>
      have hcount := count_unvote_lpi (c := σ.counters) (by omega)
      rw [herase] at hnlpi hlpi
      refine ⟨?_, ?_, htypes, ?_⟩ <;>
        simp only [enter, hcount, outstanding, Bool.false_eq_true, if_false, Channel.sent_send]
      · simpa using hnlpi
      · simp [hlpi]
      · simp [List.countP_append]
        omega
    | NLPI_VOTE =>
      have hcount := count_unvote_nlpi (c := σ.counters) (by omega)
      rw [herase] at hnlpi hlpi
      refine ⟨?_, ?_, htypes, ?_⟩ <;>
        simp only [enter, hcount, outstanding, Bool.false_eq_true, if_false]
      · simp [hnlpi]
      · simpa using hlpi
      · split_ifs <;> simpa [Channel.sent_send, List.countP_append] using hbal

theorem step_counted {cfg : SleepMonitorConfig} {i : MonitorStep} (h : Counted σ)
    (hstep : step cfg σ i = some σ') : Counted σ' := by
  cases i with
  | ioctl voter command =>
    simp only [step] at hstep
    split_ifs at hstep with hmem
    cases hstep
    have hperm := Channel.sent_deliver_perm hmem
    refine ⟨h.nlpi, h.lpi, h.types, ?_⟩
    rw [hperm.countP_eq, hperm.countP_eq]
    exact h.balance
  | voteSleepMonitor voter str vote force =>
    simp only [step] at hstep
    cases htype : cfg.voteType str force with
    | error _ =>
      simp only [htype] at hstep
      cases hstep
      exact h
    | ok t =>
      simp only [htype] at hstep
      split_ifs at hstep with hok
      cases hstep
      push Not at hok
      exact enter_counted h (voteType_ne_avoid htype) hok.2

/-! ### The order of the commands -/

/-- The last NLPI command that was sent is the one that the counter asks for. -/
def Told (σ : SleepMonitor) : Prop :=
  lastActivity σ.ioctls.sent = some ADSPSLEEPMON_AUDIO_ACTIVITY_START ↔
    0 < σ.counters.nlpi_counter_

theorem lastActivity_append {ms : List (VoterId × adspsleepmon_audio_command)} {voter : VoterId}
    {command : adspsleepmon_audio_command} : lastActivity (ms ++ [(voter, command)]) =
      if isActivity (voter, command) then some command else lastActivity ms := by
  unfold lastActivity
  by_cases h : isActivity (voter, command) = true <;> simp [h]

theorem enter_told {voter : VoterId} {vote : Bool} {t : vote_type_t} (h : Counted σ)
    (ht : t ≠ AVOID_VOTE) (hvote : vote = false → (voter, t) ∈ σ.votes) (htold : Told σ) :
    Told (σ.enter voter vote t) := by
  have hnlpi := h.nlpi
  have hlpi := h.lpi
  unfold Told at htold ⊢
  cases vote with
  | true =>
    cases t with
    | AVOID_VOTE => exact absurd rfl ht
    | LPI_VOTE =>
      have hcount := count_vote_lpi (c := σ.counters) (by omega)
      simpa [enter, hcount, Channel.sent_send, lastActivity_append, isActivity] using htold
    | NLPI_VOTE =>
      have hpos : 0 < σ.counters.nlpi_counter_ + 1 := by omega
      simp only [enter, count_vote_nlpi, hpos, iff_true]
      split_ifs with hzero
      · -- the first vote starts the activity
        simp [Channel.sent_send, lastActivity_append, isActivity]
      · exact htold.mpr (by omega)
  | false =>
    have hpos := Counted.pos (hvote rfl)
    cases t with
    | AVOID_VOTE => exact absurd rfl ht
    | LPI_VOTE =>
      have hcount := count_unvote_lpi (c := σ.counters) (by omega)
      simpa [enter, hcount, Channel.sent_send, lastActivity_append, isActivity] using htold
    | NLPI_VOTE =>
      have hcount := count_unvote_nlpi (c := σ.counters) (by omega)
      simp only [enter, hcount]
      split_ifs with hone
      · -- the last unvote stops it
        simp [Channel.sent_send, lastActivity_append, isActivity, hone]
      · exact iff_of_true (htold.mpr (by omega)) (by omega)

theorem step_told {cfg : SleepMonitorConfig} {i : MonitorStep} (h : Counted σ) (hok : σ.inOrder i)
    (htold : Told σ) (hstep : step cfg σ i = some σ') : Told σ' := by
  cases i with
  | ioctl voter command =>
    simp only [step] at hstep
    split_ifs at hstep
    cases hstep
    unfold Told lastActivity
    rw [Channel.filter_sent_deliver hok]
    exact htold
  | voteSleepMonitor voter str vote force =>
    simp only [step] at hstep
    cases htype : cfg.voteType str force with
    | error _ =>
      simp only [htype] at hstep
      cases hstep
      exact htold
    | ok t =>
      simp only [htype] at hstep
      split_ifs at hstep with hbusy
      cases hstep
      push Not at hbusy
      exact enter_told h (voteType_ne_avoid htype) hbusy.2 htold

theorem votesDelivered_of_idle (h : Counted σ) (htold : Told σ) (hidle : σ.ioctls.inFlight = []) :
    VotesDelivered σ := by
  have hsent := Channel.sent_of_inFlight_nil hidle
  refine ⟨h.nlpi, h.lpi, ?_, ?_⟩
  · unfold Told at htold
    rwa [hsent] at htold
  · have hbal := h.balance
    rwa [hsent] at hbal

variable {cfg : SleepMonitorConfig}

/-- **Votes reach the driver.** In every run whose NLPI commands reach the driver in the order of
their transitions, whenever no call is in progress, the counters are the numbers of outstanding
votes and the driver was told what they say. -/
theorem votesDelivered_of_inOrder {steps : List MonitorStep} {σ : SleepMonitor}
    (hrun : run (step cfg) {} steps = some σ) (hok : Meets (step cfg) inOrder {} steps)
    (hidle : σ.ioctls.inFlight = []) : VotesDelivered σ := by
  have hstep : ∀ σ i σ', inOrder σ i → Counted σ ∧ Told σ → step cfg σ i = some σ' →
      Counted σ' ∧ Told σ' := by
    rintro σ i σ' hi ⟨hcount, htold⟩ hstep
    exact ⟨step_counted hcount hstep, step_told hcount hi htold hstep⟩
  have hinit : Counted {} ∧ Told {} :=
    ⟨⟨rfl, rfl, fun v hv => absurd hv List.not_mem_nil, rfl⟩, by unfold Told; decide⟩
  obtain ⟨hcount, htold⟩ := run_invariant_of_meets hstep hok hinit hrun
  exact votesDelivered_of_idle hcount htold hidle

/-- A device that is open, with no stream type set apart. -/
def nlpiOnly : SleepMonitorConfig where
  sleepmon_fd_ := 3
  sleep_monitor_vote_type_ _ := NLPI_VOTE

/-- A voice UI stream that votes for LPI. -/
def voiceUi : VotingStream := ⟨some .PAL_STREAM_VOICE_UI, LPI_VOTE⟩

/-- Two voters with overlapping calls: the LPI command of the second one overtakes the START of the
first one, both vote for NLPI, the second one is the last to unvote, and its STOP is under way when
the first one votes again. -/
def overlapping : List MonitorStep :=
  [.voteSleepMonitor 1 none true false, .voteSleepMonitor 2 (some voiceUi) true false,
    .ioctl 2 ADSPSLEEPMON_AUDIO_ACTIVITY_LPI_START, .voteSleepMonitor 2 (some voiceUi) true true,
    .ioctl 1 ADSPSLEEPMON_AUDIO_ACTIVITY_START, .voteSleepMonitor 1 none false false,
    .voteSleepMonitor 2 (some voiceUi) false true, .voteSleepMonitor 1 none true false,
    .ioctl 2 ADSPSLEEPMON_AUDIO_ACTIVITY_STOP, .ioctl 1 ADSPSLEEPMON_AUDIO_ACTIVITY_START]

theorem votesDelivered_overlapping : ∃ σ, run (step nlpiOnly) {} overlapping = some σ ∧
    σ.votes = [(1, NLPI_VOTE), (2, LPI_VOTE)] ∧ VotesDelivered σ := by
  obtain ⟨σ, hrun, hidle, hvotes⟩ : ∃ σ, run (step nlpiOnly) {} overlapping = some σ ∧
      σ.ioctls.inFlight = [] ∧ σ.votes = [(1, NLPI_VOTE), (2, LPI_VOTE)] := ⟨_, rfl, rfl, rfl⟩
  exact ⟨σ, hrun, hvotes, votesDelivered_of_inOrder hrun (by decide) hidle⟩

/-- The command of an unvote is overtaken by that of a later vote: the driver stops the activity
that the later vote stands for. -/
theorem not_votesDelivered_overtaken : ∃ σ, run (step nlpiOnly) {}
    [.voteSleepMonitor 1 none true false, .ioctl 1 ADSPSLEEPMON_AUDIO_ACTIVITY_START,
      .voteSleepMonitor 1 none false false, .voteSleepMonitor 2 none true false,
      .ioctl 2 ADSPSLEEPMON_AUDIO_ACTIVITY_START, .ioctl 1 ADSPSLEEPMON_AUDIO_ACTIVITY_STOP] =
        some σ ∧ σ.ioctls.inFlight = [] ∧ ¬VotesDelivered σ :=
  ⟨_, rfl, rfl, fun h => absurd h.last (by decide)⟩

end SleepMonitor

end AudioReachPal.Rm
