import AudioReachPal.Lib.Runs
import AudioReachPal.Rm.EcRefVisits

/-!
# Runs of the echo reference map

What the answer of a call, the start and stop of an rx stream and those of a tx stream keep, and
from that what holds after every run whose steps meet the condition. At the end, a run that does
not: the count of a playback is lost when another one stops that could not enable the reference.
-/

namespace AudioReachPal.Rm

open AudioReachPal.Lib

open pal_stream_type_t pal_stream_direction_t

namespace EcState

section

variable {cfg : EcConfig} {env : EcEnv} {s s' : EcState} {r d : DeviceId} {x t : StreamId}
  {ec_on : Bool} {rest : List StreamId} {k₀ : EcKey}
  {W W' : DeviceId → StreamId → Bool → StreamId → Prop}

/-! ### The answer of a call -/

variable {i : ℕ} {c : EcCall} {status : ℤ} {resets : Bool}

/-- An entry that is not there is not erased. -/
theorem stopECDeviceMap_keep {map : EcMap} {k : EcKey} {u : StreamId}
    (hk : k.tx_str = u → k.rx_dev = r → map k = none) (d : DeviceId) :
    cfg.stopECDeviceMap map (some r) d u k = map k := by
  unfold EcConfig.stopECDeviceMap
  split
  · rfl
  · dsimp only
    split
    next her =>
      obtain ⟨⟨-, hu⟩, hr⟩ : (k.tx_dev = d ∧ k.tx_str = u) ∧ r = k.rx_dev := by
        simpa [EcKey.erasedBy] using her
      exact (hk hu hr.symm).symm
    next => rfl

theorem stopECDeviceMap_other {map : EcMap} {k : EcKey} {d : DeviceId} {u : StreamId}
    (hk : k ≠ ⟨d, r, u⟩) : cfg.stopECDeviceMap map (some r) d u k = map k := by
  unfold EcConfig.stopECDeviceMap
  split
  · rfl
  · refine if_neg fun her => hk ?_
    obtain ⟨⟨rfl, rfl⟩, rfl⟩ : (k.tx_dev = d ∧ k.tx_str = u) ∧ r = k.rx_dev := by
      simpa [EcKey.erasedBy] using her
    rfl

theorem foldl_stopECDeviceMap_keep {map : EcMap} {k : EcKey} {u : StreamId}
    (hk : k.tx_str = u → k.rx_dev = r → map k = none) (devs : List DeviceId) :
    devs.foldl (fun map tx => cfg.stopECDeviceMap map (some r) tx u) map k = map k := by
  induction devs generalizing map with
  | nil => rfl
  | cons d devs ih =>
    have hd : cfg.stopECDeviceMap map (some r) d u k = map k := stopECDeviceMap_keep hk d
    rw [List.foldl_cons, ih fun hu hr => hd.trans (hk hu hr), hd]

/-- What the stream does leaves the counts, when the device that its session resets has none. -/
theorem Tallied.answerECRef_map (h : s.Tallied cfg W) (hok : s.AnswerOk cfg env i c status resets)
    {k : EcKey} (hk : cfg.direction k.tx_str = PAL_AUDIO_INPUT) :
    (s.answerECRef cfg env c status resets).ec_ref_count_map k = s.ec_ref_count_map k := by
  unfold answerECRef
  dsimp only
  split
  next hres =>
    obtain ⟨⟨⟨hr, hon⟩, hsome⟩, hne⟩ := by
      simpa only [Bool.and_eq_true, decide_eq_true_eq] using hres
    obtain ⟨r', hr'⟩ := Option.isSome_iff_exists.mp hsome
    have hnone := hok.reset hr hon r' hr' (by rw [← hr']; exact Ne.symm hne)
    rw [hr']
    refine foldl_stopECDeviceMap_keep (fun hu hkr => ?_) _
    refine (h.counts k hk).eq_none_iff.mpr (Finset.not_nonempty_iff_eq_empty.mp fun hcon => ?_)
    exact hnone ⟨k.tx_dev, by rw [← hu, ← hkr]; exact hcon⟩
  next => rfl

/-- The contributions that an answer leaves. -/
theorem mem_contributed_settle {k : EcKey} {y : StreamId} :
    y ∈ (s.settle cfg c status).contributed k ↔
      y ∈ s.contributed k ∧ ¬(status ≠ 0 ∧ c.givesUp status k y) := by
  obtain ⟨u, d, rx_dev, on', caller⟩ := c
  have hnz : ¬ENODEV = 0 := by decide
  unfold settle EcCall.givesUp
  cases rx_dev with
  | none => simp
  | some r =>
    by_cases hfail : status ≠ 0 ∧ on' = true
    · obtain ⟨hst, rfl⟩ := hfail
      by_cases hk : k = ⟨d, r, u⟩
      · subst hk
        cases caller with
        | tx counted =>
          by_cases hno : status = -ENODEV
          · simp [hno, failTX, hnz]
          · simp [hst, failTX, hno]
        | rx x rest => simp [hst, failRX, and_comm]
      · have hk' : ¬(k.tx_dev = d ∧ k.tx_str = u ∧ r = k.rx_dev) := by
          rintro ⟨rfl, rfl, rfl⟩
          exact hk rfl
        cases caller with
        | tx counted =>
          by_cases hno : status = -ENODEV
          · simp [hno, failTX, hnz]
          · simp [hst, failTX, hno, Function.update_of_ne hk]
            tauto
        | rx x rest =>
          simp [hst, failRX, Function.update_of_ne hk]
          tauto
    · cases caller <;> simp [hfail] <;> tauto

theorem Tallied.hasDevice (h : s.Tallied cfg W) {k : EcKey} {y : StreamId}
    (hk : cfg.direction k.tx_str = PAL_AUDIO_INPUT) (hy : y ∈ s.contributed k) :
    cfg.hasDevice k.tx_dev = true := by
  obtain ⟨-, hel, -⟩ := (h.handled k y hk).mp (Or.inl hy)
  exact EcConfig.hasDevice_of_refersTo (EcConfig.eligible_iff.mp hel).1

theorem Tallied.hasDevice_or_none (h : s.Tallied cfg W) {k : EcKey}
    (hk : cfg.direction k.tx_str = PAL_AUDIO_INPUT) :
    cfg.hasDevice k.tx_dev = true ∨ s.ec_ref_count_map k = none := by
  rcases Finset.eq_empty_or_nonempty (s.contributed k) with hempty | ⟨y, hy⟩
  · exact Or.inr ((h.counts k hk).eq_none_iff.mpr hempty)
  · exact Or.inl (h.hasDevice hk hy)

/-- The start of a tx stream that failed gives up everything that is counted. -/
theorem Tallied.failTX (h : s.Tallied cfg W) (htx : cfg.isTxStream c.tx_str = true)
    {counted : Finset StreamId}
    (hok : if status = -ENODEV then Disjoint (s.contributed ⟨c.tx_dev, r, c.tx_str⟩) counted
      else s.contributed ⟨c.tx_dev, r, c.tx_str⟩ ⊆ counted) :
    (s.failTX cfg c r counted status).Tallied cfg W := by
  have hdir := EcConfig.direction_of_isTxStream htx
  unfold EcState.failTX
  dsimp only
  by_cases hno : status = -ENODEV
  · rw [if_pos hno] at hok
    simp only [if_pos hno, Finset.disjoint_iff_inter_eq_empty.mp hok, Finset.union_empty,
      Function.update_eq_self]
    exact h
  · rw [if_neg hno] at hok
    simp only [if_neg hno, Finset.inter_eq_left.mpr hok]
    refine h.reassign ⟨c.tx_dev, r, c.tx_str⟩ hdir rfl rfl
      (fun k hk => stopECDeviceMap_other hk) (fun k hk => Function.update_of_ne hk _ _)
      (fun k hk => Function.update_of_ne hk _ _) ?_ ?_ ?_
    · dsimp only
      rw [EcConfig.stopECDeviceMap_apply (h.hasDevice_or_none hdir), Function.update_self]
      simp [EcKey.erasedBy, Counts]
    · simp
    · simp [or_comm]

/-- An rx stream whose enabling failed takes its contribution back. -/
theorem Tallied.failRX (h : s.Tallied cfg W) (htx : cfg.isTxStream c.tx_str = true)
    (hok : x ∈ s.contributed ⟨c.tx_dev, r, c.tx_str⟩ ∨
      s.contributed ⟨c.tx_dev, r, c.tx_str⟩ = ∅) : (s.failRX cfg c r x).Tallied cfg W := by
  have hdir := EcConfig.direction_of_isTxStream htx
  have hcounts := h.counts ⟨c.tx_dev, r, c.tx_str⟩ hdir
  unfold EcState.failRX
  dsimp only
  rcases hok with hcon | hempty
  · have hx := h.disjoint _ _ hcon
    rw [EcConfig.updateECDeviceMap_zero (h.hasDevice hdir hcon)]
    refine h.reassign ⟨c.tx_dev, r, c.tx_str⟩ hdir rfl rfl
      (fun k hk => Function.update_of_ne hk _ _) (fun k hk => Function.update_of_ne hk _ _)
      (fun k hk => Function.update_of_ne hk _ _) ?_ ?_ ?_
    · simpa using hcounts.leave (Or.inl hcon)
    · intro y hy
      have hy' : y ≠ x ∧ y ∈ s.contributed ⟨c.tx_dev, r, c.tx_str⟩ := by simpa using hy
      simpa [hcon, hy'.1] using h.disjoint _ _ hy'.2
    · intro y
      by_cases hyx : y = x
      · simp [hyx, hcon]
      · simp [hyx, hcon]
  · -- nothing is counted, so the map is left alone
    rw [EcConfig.updateECDeviceMap_none (hcounts.eq_none_iff.mpr hempty)]
    have hcon : (s.contributed ⟨c.tx_dev, r, c.tx_str⟩).erase x =
        s.contributed ⟨c.tx_dev, r, c.tx_str⟩ := by rw [hempty, Finset.erase_empty]
    have hx : x ∉ s.contributed ⟨c.tx_dev, r, c.tx_str⟩ := by simp [hempty]
    simp only [hcon, if_neg hx, Function.update_eq_self]
    exact h

/-- What an answer gives up failed; the rest is counted as before. -/
theorem Tallied.settle (h : s.Tallied cfg W) (htx : cfg.isTxStream c.tx_str = true)
    (htxf : status ≠ 0 → c.ec_on = true → ∀ r counted, c.rx_dev = some r →
      c.caller = .tx counted →
      if status = -ENODEV then Disjoint (s.contributed ⟨c.tx_dev, r, c.tx_str⟩) counted
      else s.contributed ⟨c.tx_dev, r, c.tx_str⟩ ⊆ counted)
    (hrxf : status ≠ 0 → c.ec_on = true → ∀ r x rest, c.rx_dev = some r →
      c.caller = .rx x rest → x ∈ s.contributed ⟨c.tx_dev, r, c.tx_str⟩ ∨
        s.contributed ⟨c.tx_dev, r, c.tx_str⟩ = ∅) : (s.settle cfg c status).Tallied cfg W := by
  unfold EcState.settle
  cases hr : c.rx_dev with
  | none => exact h
  | some r =>
    cases hcaller : c.caller with
    | tx counted =>
      dsimp only
      split
      next hbad =>
        obtain ⟨hst, hon⟩ : status ≠ 0 ∧ c.ec_on = true := by simpa using hbad
        exact h.failTX htx (htxf hst hon r counted hr hcaller)
      next => exact h
    | rx x rest =>
      dsimp only
      split
      next hbad =>
        obtain ⟨hst, hon⟩ : status ≠ 0 ∧ c.ec_on = true := by simpa using hbad
        exact h.failRX htx (hrxf hst hon r x rest hr hcaller)
      next => exact h

/-- The counts of the tx streams, which is what the tallies are about. -/
theorem Tallied.of_map (h : s.Tallied cfg W) (hact : s'.active_devices = s.active_devices)
    (hpend : s'.pending = s.pending) (hcon : s'.contributed = s.contributed)
    (hfail : s'.failed = s.failed)
    (hmap : ∀ k, cfg.direction k.tx_str = PAL_AUDIO_INPUT →
      s'.ec_ref_count_map k = s.ec_ref_count_map k) : s'.Tallied cfg W where
  nodup := hact ▸ h.nodup
  one_tx := hact ▸ h.one_tx
  counts k hk := by
    rw [hmap k hk, hcon]
    exact h.counts k hk
  disjoint := by
    rw [hcon, hfail]
    exact h.disjoint
  handled k y hk := by
    rw [hcon, hfail, h.handled k y hk]
    exact handled_congr hact fun _ => Iff.rfl
  starting := hact ▸ h.starting
  stopping := hact ▸ h.stopping
  rx := h.rx
  tx := h.tx
  refers := hact ▸ h.refers
  calls := hpend ▸ h.calls
  requesters := hpend ▸ h.requesters
  rests := hpend ▸ h.rests

/-- The call is the one that waits at the place in `s`, and no longer in `s'`. -/
structure Removes (s s' : EcState) (i : ℕ) (c : EcCall) : Prop where
  pending : s.pending = s'.pending.take i ++ c :: s'.pending.drop i
  active : s'.active_devices = s.active_devices
  map : s'.ec_ref_count_map = s.ec_ref_count_map
  ec_ref : s'.ec_ref = s.ec_ref
  contributed : s'.contributed = s.contributed
  failed : s'.failed = s.failed

theorem removes_eraseIdx (hc : s.pending[i]? = some c) :
    s.Removes { s with pending := s.pending.eraseIdx i } i c := by
  obtain ⟨hi, rfl⟩ := List.getElem?_eq_some_iff.mp hc
  refine ⟨?_, rfl, rfl, rfl, rfl, rfl⟩
  have hlen : (s.pending.take i).length = i := List.length_take_of_le hi.le
  dsimp only
  rw [List.eraseIdx_eq_take_drop_succ, List.take_left' hlen, List.drop_left' hlen,
    List.cons_getElem_drop_succ, List.take_append_drop]

theorem Removes.perm (hr : s.Removes s' i c) : s.pending.Perm (c :: s'.pending) := by
  have hmid : (s'.pending.take i ++ c :: s'.pending.drop i).Perm
      (c :: (s'.pending.take i ++ s'.pending.drop i)) := List.perm_middle
  rwa [List.take_append_drop, ← hr.pending] at hmid

/-- What the tx stream is asked to have does not depend on the call, unless it was made last. -/
theorem Removes.target (hr : s.Removes s' i c) {u : StreamId} (hu : u ≠ c.tx_str ∨ s'.Later i u) :
    s.target u = s'.target u := by
  have hsplit : s'.pending = s'.pending.take i ++ s'.pending.drop i :=
    (List.take_append_drop i _).symm
  unfold EcState.target
  rw [hr.pending, hr.ec_ref, asked_append, asked_cons]
  conv_rhs => rw [hsplit, asked_append]
  rcases hu with hu | hu
  · rw [if_neg (Ne.symm hu)]
  · exact asked_of_mem hu

theorem Removes.target_last (hr : s.Removes s' i c) (hlast : ¬s'.Later i c.tx_str) :
    s.target c.tx_str = c.wants := by
  unfold EcState.target
  rw [hr.pending, asked_append, asked_cons, if_pos rfl, asked_of_not_mem hlast]

theorem Removes.awaits (hr : s.Removes s' i c) {r' : DeviceId} {y u : StreamId} {on' : Bool} :
    s.Awaits r' y on' u ↔ s'.Awaits r' y on' u ∨
      ∃ rest, c.rx_dev = some r' ∧ c.caller = .rx y rest ∧ c.ec_on = on' ∧ u ∈ rest := by
  unfold Awaits
  simp only [hr.perm.mem_iff, List.mem_cons, or_and_right, exists_or, exists_eq_left]
  exact or_comm

theorem Removes.tallied (hr : s.Removes s' i c) (h : s.Tallied cfg W) : s'.Tallied cfg W where
  nodup := hr.active ▸ h.nodup
  one_tx := hr.active ▸ h.one_tx
  counts k hk := by
    rw [hr.map, hr.contributed]
    exact h.counts k hk
  disjoint := by
    rw [hr.contributed, hr.failed]
    exact h.disjoint
  handled k y hk := by
    rw [hr.contributed, hr.failed, h.handled k y hk]
    exact handled_congr hr.active fun _ => Iff.rfl
  starting := hr.active ▸ h.starting
  stopping := hr.active ▸ h.stopping
  rx := h.rx
  tx := h.tx
  refers := hr.active ▸ h.refers
  calls e he := h.calls e (hr.perm.mem_iff.mpr (List.mem_cons_of_mem _ he))
  requesters := by
    have hnd := (hr.perm.map EcCall.requester).nodup_iff.mp h.requesters
    exact (List.nodup_cons.mp hnd).2
  rests e he := h.rests e (hr.perm.mem_iff.mpr (List.mem_cons_of_mem _ he))

/-- The stream that made the call waits for no other one. -/
theorem Removes.idle (hr : s.Removes s' i c) (h : s.Tallied cfg W) : s'.Idle c.requester := by
  have hnd := (hr.perm.map EcCall.requester).nodup_iff.mp h.requesters
  intro e he heq
  refine (List.nodup_cons.mp hnd).1 ?_
  rw [← heq]
  exact List.mem_map_of_mem he

/-- What an answer does not touch. -/
theorem settle_frame (cfg : EcConfig) (s : EcState) (c : EcCall) (status : ℤ) :
    (s.settle cfg c status).ec_ref = s.ec_ref ∧ (s.settle cfg c status).pending = s.pending ∧
      (s.settle cfg c status).active_devices = s.active_devices := by
  unfold settle failTX failRX
  split
  · dsimp only
    split_ifs <;> exact ⟨rfl, rfl, rfl⟩
  · split_ifs <;> exact ⟨rfl, rfl, rfl⟩
  · exact ⟨rfl, rfl, rfl⟩

/-- The devices that an answer leaves counted for the tx stream of the call. -/
theorem hasCounted_settle :
    (s.settle cfg c status).HasCounted c.tx_str r ↔
      if status ≠ 0 ∧ c.ec_on = true then s.Remains c status r else s.HasCounted c.tx_str r := by
  unfold HasCounted Remains Finset.Nonempty
  simp only [mem_contributed_settle]
  split
  next hfail => simp only [hfail.1, ne_eq, not_false_eq_true, true_and]
  next hfail =>
    refine exists_congr fun d => exists_congr fun y => and_iff_left ?_
    exact fun hg => hfail ⟨hg.1, hg.2.1⟩

theorem hasCounted_settle_of_ne {u : StreamId} (hu : u ≠ c.tx_str) :
    (s.settle cfg c status).HasCounted u r ↔ s.HasCounted u r := by
  unfold HasCounted Finset.Nonempty
  simp only [mem_contributed_settle]
  refine exists_congr fun d => exists_congr fun y => and_iff_left ?_
  exact fun hg => hu hg.2.2.2.1

theorem hasCounted_answerECRef {u : StreamId} :
    ((s.answerECRef cfg env c status resets).settle cfg c status).HasCounted u r ↔
      (s.settle cfg c status).HasCounted u r := by
  unfold HasCounted Finset.Nonempty
  simp only [mem_contributed_settle]
  rfl

theorem Remains.hasCounted (h : s.Remains c status r) : s.HasCounted c.tx_str r := by
  obtain ⟨d, y, hy, -⟩ := h
  exact ⟨d, y, hy⟩

/-- While others wait for the tx stream, an answer leaves the devices that are counted. -/
theorem AnswerOk.hasCounted_busy (hok : s.AnswerOk cfg env i c status resets)
    (hbusy : s.Busy c.tx_str) :
    (s.settle cfg c status).HasCounted c.tx_str r ↔ s.HasCounted c.tx_str r := by
  rw [hasCounted_settle]
  split
  next hfail => exact ⟨Remains.hasCounted, hok.kept hbusy hfail.1 hfail.2 r⟩
  next => exact Iff.rfl

/-- The last call to be answered sets the reference that it is made for. -/
theorem AnswerOk.setECRef_eq (hok : s.AnswerOk cfg env i c 0 resets) (hbusy : ¬s.Busy c.tx_str) :
    setECRef (s.ec_ref c.tx_str) c.rx_dev c.ec_on = c.wants := by
  unfold setECRef EcCall.wants
  by_cases hon : c.ec_on = true
  · rw [if_pos hon, if_pos hon]
  · rw [if_neg hon, if_neg hon]
    rcases hok.disabled hbusy (Bool.eq_false_iff.mpr hon) with hnone | ⟨-, hrx⟩
    · rw [hnone, ite_self]
    · exact if_pos hrx

/-- When it fails, the reference that stays set is that of the device that stays counted. -/
theorem AnswerOk.refused (hok : s.AnswerOk cfg env i c status resets) (hbusy : ¬s.Busy c.tx_str)
    (hst : status ≠ 0) (hwants : ∀ r, c.wants = some r ↔ s.HasCounted c.tx_str r) :
    s.ec_ref c.tx_str = some r ↔ (s.settle cfg c status).HasCounted c.tx_str r := by
  rw [hasCounted_settle]
  by_cases hon : c.ec_on = true
  · rw [if_pos ⟨hst, hon⟩]
    rcases hok.not_enabled hbusy hst hon with ⟨hnone, hgone⟩ | ⟨r₁, hset, hrx, hkeep⟩
    · rw [hnone]
      exact iff_of_false (fun h => nomatch h) (hgone r)
    · rw [hset, Option.some.injEq]
      constructor
      · rintro rfl
        exact hkeep
      · intro hr
        have hw : c.wants = some r := (hwants r).mpr hr.hasCounted
        unfold EcCall.wants at hw
        rw [if_pos hon, hrx] at hw
        exact Option.some.inj hw
  · rw [if_neg fun h => hon h.2, ← hwants]
    have hwn : c.wants = none := if_neg hon
    rw [hwn]
    rcases hok.disabled hbusy (Bool.eq_false_iff.mpr hon) with hnone | ⟨h0, -⟩
    · rw [hnone]
    · exact absurd h0 hst

/-- **What the tx streams are asked to have**, after an answer and before the call goes on. -/
theorem targeted_answer {s₀ : EcState} (hr : s₀.Removes s i c)
    (h : ∀ u, cfg.direction u = PAL_AUDIO_INPUT → s₀.Targeted u)
    (hok : s.AnswerOk cfg env i c status resets) {u : StreamId}
    (hu : cfg.direction u = PAL_AUDIO_INPUT) :
    ((s.answerECRef cfg env c status resets).settle cfg c status).Targeted u := by
  intro r
  obtain ⟨hec, hpend, -⟩ := settle_frame cfg (s.answerECRef cfg env c status resets) c status
  have hcounted : s₀.target u = some r ↔ s.HasCounted u r := by
    unfold HasCounted
    rw [hr.contributed]
    exact h u hu r
  have hleft : ((s.answerECRef cfg env c status resets).settle cfg c status).target u =
      asked u s.pending ((s.answerECRef cfg env c status resets).ec_ref u) := by
    unfold EcState.target
    rw [hpend, hec]
    rfl
  rw [hleft, hasCounted_answerECRef]
  by_cases hut : u = c.tx_str
  · subst hut
    by_cases hbusy : s.Busy c.tx_str
    · -- the calls that still wait ask for the same
      have hsame : s₀.target c.tx_str = s.target c.tx_str := by
        by_cases hlater : s.Later i c.tx_str
        · exact hr.target (Or.inr hlater)
        · rw [hr.target_last hlater, hok.in_order hbusy hlater]
      rw [hok.hasCounted_busy hbusy, ← hcounted, hsame]
      unfold EcState.target
      rw [asked_of_mem hbusy]
    · have hlast : ¬s.Later i c.tx_str := by
        rintro ⟨e, he, het⟩
        exact hbusy ⟨e, List.mem_of_mem_drop he, het⟩
      have hwants : ∀ r, c.wants = some r ↔ s.HasCounted c.tx_str r := by
        intro r
        rw [← hr.target_last hlast]
        unfold HasCounted
        rw [hr.contributed]
        exact h _ hu r
      rw [asked_of_not_mem hbusy]
      by_cases hst : status = 0
      · subst hst
        have hset : (s.answerECRef cfg env c 0 resets).ec_ref c.tx_str = c.wants := by
          unfold answerECRef
          dsimp only
          rw [if_pos rfl, Function.update_self, hok.setECRef_eq hbusy]
        rw [hset, hwants, hasCounted_settle, if_neg fun h => h.1 rfl]
      · have hset : (s.answerECRef cfg env c status resets).ec_ref c.tx_str =
            s.ec_ref c.tx_str := by
          unfold answerECRef
          dsimp only
          rw [if_neg hst]
        rw [hset]
        exact hok.refused hbusy hst hwants
  · have href : (s.answerECRef cfg env c status resets).ec_ref u = s.ec_ref u := by
      unfold answerECRef
      dsimp only
      split
      · exact Function.update_of_ne hut _ _
      · rfl
    rw [href, hasCounted_settle_of_ne hut, ← hcounted, hr.target (Or.inl hut)]
    rfl

/-- **The answer of a call** that fits the counts keeps the invariant. -/
theorem Inv.answer {s₀ : EcState} (h : s₀.Inv cfg) (hr : s₀.Removes s i c)
    (hl : env.Lists cfg s₀) (hok : s.AnswerOk cfg env i c status resets) :
    (s.answer cfg env c status resets).Inv cfg := by
  have hc : c ∈ s₀.pending := hr.perm.mem_iff.mpr List.mem_cons_self
  have htx := h.tallied.calls c hc
  have htallied : (s.answerECRef cfg env c status resets).Tallied cfg s₀.Awaits :=
    (hr.tallied h.tallied).of_map rfl rfl rfl rfl fun k hk =>
      (hr.tallied h.tallied).answerECRef_map hok hk
  have hleft : ((s.answerECRef cfg env c status resets).settle cfg c status).Tallied cfg
      s₀.Awaits := htallied.settle htx hok.tx_failed hok.rx_failed
  have htarget : ∀ u, cfg.direction u = PAL_AUDIO_INPUT →
      ((s.answerECRef cfg env c status resets).settle cfg c status).Targeted u :=
    fun u hu => targeted_answer hr h.targeted hok hu
  obtain ⟨-, hpend, hact⟩ := settle_frame cfg (s.answerECRef cfg env c status resets) c status
  have hidle := hr.idle h.tallied
  have hawaits : ∀ {r' y on' u}, s₀.Awaits r' y on' u ↔
      ((s.answerECRef cfg env c status resets).settle cfg c status).Awaits r' y on' u ∨
        ∃ rest, c.rx_dev = some r' ∧ c.caller = .rx y rest ∧ c.ec_on = on' ∧ u ∈ rest := by
    intro r' y on' u
    rw [hr.awaits]
    unfold Awaits
    rw [hpend]
    rfl
  have hrest := hok.rest
  unfold EcState.answer EcState.resume
  generalize (s.answerECRef cfg env c status resets).settle cfg c status = s₁ at *
  split
  next r x rest hrx hcaller =>
    have hW : s₀.Awaits = s₁.AwaitsWith r x c.ec_on rest := by
      funext r' y on' u
      rw [hawaits, hrx, hcaller]
      refine propext (or_congr_right ⟨?_, ?_⟩)
      · rintro ⟨_, ⟨⟩, ⟨⟩, rfl, hu⟩
        exact ⟨rfl, rfl, rfl, hu⟩
      · rintro ⟨rfl, rfl, rfl, hu⟩
        exact ⟨rest, rfl, rfl, rfl, hu⟩
    have hreq : c.requester = x := by
      unfold EcCall.requester
      rw [hcaller]
    rw [hW] at hleft
    refine inv_loop (fun d t hreg hdir => ?_) hleft htarget (h.tallied.rests c hc x rest hcaller) ?_
      (hrest r x rest hrx hcaller)
    · refine visitedTxDevice_of_registered hl ?_ hdir
      rw [hact] at hreg
      rw [← hr.active]
      exact hreg
    · unfold Idle
      rw [hpend, ← hreq]
      exact hidle
  next hne =>
    have hW : s₀.Awaits = s₁.Awaits := by
      funext r' y on' u
      rw [hawaits]
      refine propext (or_iff_left ?_)
      rintro ⟨rest, hrx, hcaller, -⟩
      exact hne r' y rest hrx hcaller
    rw [hW] at hleft
    exact ⟨hleft, htarget⟩

/-! ### An rx stream starts or stops -/

theorem awaitsWith_of_ne {r' : DeviceId} {y u : StreamId} {on' : Bool} (hne : ¬(r' = r ∧ y = x)) :
    s.AwaitsWith r x ec_on rest r' y on' u ↔ s.Awaits r' y on' u :=
  or_iff_left fun h => hne ⟨h.1, h.2.1⟩

/-- The device of an rx stream is registered or deregistered, and its call has to come to the tx
streams of the list. -/
theorem Tallied.rx_change (h : s.Tallied cfg s.Awaits) (hx : cfg.direction x ≠ PAL_AUDIO_INPUT)
    (hidle : s.Idle x) {A : List (DeviceId × StreamId)} (hnd : A.Nodup)
    (hA : ∀ p ≠ (d, x), p ∈ A ↔ p ∈ s.active_devices) (hnew : (d, x) ∈ A ↔ ec_on = true)
    (hold : (d, x) ∈ s.active_devices ↔ ec_on = false)
    (hrest : ∀ u ∈ rest, cfg.isTxStream u = true ∧
      ∀ d', (d', u) ∈ s.active_devices → cfg.refersTo ⟨d', d, u⟩ x = true)
    (hall : ∀ d' u, (d', u) ∈ s.active_devices → cfg.eligible ⟨d', d, u⟩ x = true → u ∈ rest) :
    { s with active_devices := A }.Tallied cfg (s.AwaitsWith d x ec_on rest) := by
  -- a tx stream is another stream
  have htxA : ∀ {d' u}, cfg.direction u = PAL_AUDIO_INPUT →
      ((d', u) ∈ A ↔ (d', u) ∈ s.active_devices) := by
    intro d' u hu
    refine hA _ fun heq => hx ?_
    rw [← (Prod.mk.inj heq).2]
    exact hu
  have hwait : ∀ {r' y on' u}, s.Awaits r' y on' u → (r', y) ≠ (d, x) := by
    rintro r' y on' u hw heq
    obtain ⟨rfl, rfl⟩ := Prod.mk.inj heq
    exact hidle.not_awaits _ _ _ hw
  refine ⟨hnd, ?_, h.counts, h.disjoint, ?_, ?_, ?_, ?_, ?_, ?_, h.calls, h.requesters, h.rests⟩
  · intro d₁ d₂ u hu h₁ h₂
    exact h.one_tx d₁ d₂ u hu ((htxA hu).mp h₁) ((htxA hu).mp h₂)
  · intro k y hk
    rw [h.handled k y hk]
    unfold Handled
    rw [← htxA hk]
    refine and_congr_right fun hreg => and_congr_right fun hel => ?_
    by_cases hkey : k.rx_dev = d ∧ y = x
    · -- the stream itself: counted until its call comes to the tx stream
      obtain ⟨hkd, rfl⟩ := hkey
      have hmem : k.tx_str ∈ rest := hall _ _ ((htxA hk).mp hreg) (by rw [← hkd]; exact hel)
      rw [hkd]
      simp only [awaitsWith_self hidle, hnew, hold, hidle.not_awaits, hmem]
      cases ec_on <;> simp
    · have hp : (k.rx_dev, y) ≠ (d, x) := fun heq => hkey (Prod.mk.inj heq)
      rw [hA _ hp, awaitsWith_of_ne hkey, awaitsWith_of_ne hkey]
  · rintro r' y u (hw | ⟨rfl, rfl, hon, -⟩)
    · exact (hA _ (hwait hw)).mpr (h.starting _ _ _ hw)
    · exact hnew.mpr hon.symm
  · rintro r' y u (hw | ⟨rfl, rfl, hon, -⟩)
    · exact fun hin => h.stopping _ _ _ hw ((hA _ (hwait hw)).mp hin)
    · rw [hnew, ← hon]
      simp
  · rintro r' y on' u (hw | ⟨-, rfl, -, -⟩)
    · exact h.rx _ _ _ _ hw
    · exact hx
  · rintro r' y on' u (hw | ⟨-, -, -, hu⟩)
    · exact h.tx _ _ _ _ hw
    · exact (hrest u hu).1
  · rintro r' y on' u d' (hw | ⟨rfl, rfl, -, hu⟩) hreg
    · have hdir := EcConfig.direction_of_isTxStream (h.tx _ _ _ _ hw)
      exact h.refers _ _ _ _ _ hw ((htxA hdir).mp hreg)
    · have hdir := EcConfig.direction_of_isTxStream (hrest u hu).1
      exact (hrest u hu).2 _ ((htxA hdir).mp hreg)

theorem mem_getConcurrentTxStreamL {u : StreamId} :
    u ∈ s.getConcurrentTxStreamL cfg env x d ↔
      u ∈ env.mActiveStreams ∧ cfg.isTxStream u = true ∧
        cfg.getEcRefStatus (cfg.type u) (cfg.type x) = true ∧
        ∃ d' ∈ env.getAssociatedDevices u, (d', u) ∈ s.active_devices ∧ isInDevice d' = true ∧
          cfg.checkECRef d d' = true := by
  unfold getConcurrentTxStreamL EcConfig.isTxStream isDeviceActiveL
  simp only [List.mem_filter, Bool.and_eq_true, decide_eq_true_eq, List.any_eq_true]
  tauto

/-- The call of an rx stream has to come to the tx streams that may refer to it. -/
theorem refersTo_of_mem (hl : env.Lists cfg s) (hrx : cfg.isRxStream d x = true) {u : StreamId}
    (hu : u ∈ s.getConcurrentTxStreamL cfg env x d) {d' : DeviceId}
    (hreg : (d', u) ∈ s.active_devices) : cfg.refersTo ⟨d', d, u⟩ x = true := by
  obtain ⟨-, htx, hst, e, he, -, hin, hcheck⟩ := mem_getConcurrentTxStreamL.mp hu
  have hdevs := (hl.tx d' u hreg (EcConfig.direction_of_isTxStream htx)).2
  rw [hdevs, List.mem_singleton] at he
  rw [he] at hin hcheck
  exact EcConfig.refersTo_iff.mpr ⟨htx, hrx, hst, hin, hcheck⟩

theorem mem_of_refersTo (hl : env.Lists cfg s) {d' : DeviceId} {u : StreamId}
    (hreg : (d', u) ∈ s.active_devices) (href : cfg.refersTo ⟨d', d, u⟩ x = true) :
    u ∈ s.getConcurrentTxStreamL cfg env x d := by
  obtain ⟨htx, -, hst, hin, hcheck⟩ := EcConfig.refersTo_iff.mp href
  obtain ⟨hmem, hdevs⟩ := hl.tx d' u hreg (EcConfig.direction_of_isTxStream htx)
  refine mem_getConcurrentTxStreamL.mpr ⟨hmem, htx, hst, d', ?_, hreg, hin, hcheck⟩
  rw [hdevs]
  exact List.mem_singleton_self d'

/-- The echo reference of a voice call is that of another stream. -/
theorem rxStart_frame (cfg : EcConfig) (env : EcEnv) (s : EcState) (d : DeviceId) (x : StreamId)
    (ec_on : Bool) (voice : ℤ) :
    (s.rxStart cfg env d x ec_on voice).active_devices = s.active_devices ∧
      (s.rxStart cfg env d x ec_on voice).pending = s.pending ∧
      (s.rxStart cfg env d x ec_on voice).contributed = s.contributed ∧
      (s.rxStart cfg env d x ec_on voice).failed = s.failed ∧
      (∀ u ≠ x, (s.rxStart cfg env d x ec_on voice).ec_ref u = s.ec_ref u) ∧
      ∀ k, k.tx_str ≠ x → (s.rxStart cfg env d x ec_on voice).ec_ref_count_map k =
        s.ec_ref_count_map k := by
  unfold rxStart setVoiceECRef
  split
  · split
    · exact ⟨rfl, rfl, rfl, rfl, fun _ _ => rfl, fun _ _ => rfl⟩
    · refine ⟨rfl, rfl, rfl, rfl, fun u hu => Function.update_of_ne hu _ _, fun k hk => ?_⟩
      dsimp only
      generalize s.ec_ref_count_map = map
      induction (env.getAssociatedDevices x).filter isInDevice generalizing map with
      | nil => rfl
      | cons tx txs ih =>
        rw [List.foldl_cons, ih]
        exact EcConfig.updateECDeviceMap_of_ne fun heq => hk (by rw [heq])
  · exact ⟨rfl, rfl, rfl, rfl, fun _ _ => rfl, fun _ _ => rfl⟩

theorem checkandEnableECL_rx (hx : cfg.direction x ≠ PAL_AUDIO_INPUT) (voice : ℤ) :
    s.checkandEnableECL cfg env d x ec_on voice =
      if cfg.isRxStream d x then
        checkandEnableECForRXStreamLoop cfg env d x ec_on (s.rxStart cfg env d x ec_on voice)
          ((s.rxStart cfg env d x ec_on voice).getConcurrentTxStreamL cfg env x d)
      else s := by
  unfold checkandEnableECL EcConfig.isRxStream rxStart checkandEnableECForRXStreamL
  cases hdir : cfg.direction x with
  | PAL_AUDIO_INPUT => exact absurd hdir hx
  | PAL_AUDIO_OUTPUT => by_cases hp : cfg.type x = PAL_STREAM_PROXY <;> simp [hp]
  | PAL_AUDIO_INPUT_OUTPUT =>
    by_cases hp : cfg.type x = PAL_STREAM_PROXY <;>
      by_cases hd : d < PAL_DEVICE_OUT_MAX <;> simp [hp, hd]

/-- **An rx stream starts or stops.** -/
theorem Inv.rx_call (h : s.Inv cfg) (hx : cfg.direction x ≠ PAL_AUDIO_INPUT) (hidle : s.Idle x)
    {A : List (DeviceId × StreamId)} (hnd : A.Nodup)
    (hA : ∀ p ≠ (d, x), p ∈ A ↔ p ∈ s.active_devices) (hnew : (d, x) ∈ A ↔ ec_on = true)
    (hold : (d, x) ∈ s.active_devices ↔ ec_on = false) {voice : ℤ}
    (hl : env.Lists cfg { s with active_devices := A })
    (hok : { s with active_devices := A }.RxCallOk cfg env d x ec_on voice) :
    ({ s with active_devices := A }.checkandEnableECL cfg env d x ec_on voice).Inv cfg := by
  rw [checkandEnableECL_rx hx]
  have htxA : ∀ {d' u}, cfg.direction u = PAL_AUDIO_INPUT →
      ((d', u) ∈ A ↔ (d', u) ∈ s.active_devices) := by
    intro d' u hu
    refine hA _ fun heq => hx ?_
    rw [← (Prod.mk.inj heq).2]
    exact hu
  split
  next hrx =>
    have hloop := hok hrx
    obtain ⟨hact, hpend, hcon, hfail, hec, hmap⟩ :=
      rxStart_frame cfg env { s with active_devices := A } d x ec_on voice
    have hlist : ({ s with active_devices := A }.rxStart cfg env d x ec_on
        voice).getConcurrentTxStreamL cfg env x d =
          { s with active_devices := A }.getConcurrentTxStreamL cfg env x d := by
      unfold getConcurrentTxStreamL isDeviceActiveL
      rw [hact]
    rw [hlist] at hloop ⊢
    have htallied : { s with active_devices := A }.Tallied cfg (s.AwaitsWith d x ec_on
        ({ s with active_devices := A }.getConcurrentTxStreamL cfg env x d)) := by
      refine h.tallied.rx_change hx hidle hnd hA hnew hold (fun u hu => ?_)
        (fun d' u hreg hel => ?_)
      · refine ⟨(mem_getConcurrentTxStreamL.mp hu).2.1, fun d' hreg => ?_⟩
        have hdir := EcConfig.direction_of_isTxStream (mem_getConcurrentTxStreamL.mp hu).2.1
        exact refersTo_of_mem hl hrx hu ((htxA hdir).mpr hreg)
      · have href := (EcConfig.eligible_iff.mp hel).1
        have hdir := EcConfig.direction_of_isTxStream (EcConfig.refersTo_iff.mp href).1
        exact mem_of_refersTo hl ((htxA hdir).mpr hreg) href
    generalize ({ s with active_devices := A }.rxStart cfg env d x ec_on voice) = s₁ at *
    have hne : ∀ u, cfg.direction u = PAL_AUDIO_INPUT → u ≠ x := fun u hu hux => hx (hux ▸ hu)
    have htallied₁ : s₁.Tallied cfg (s.AwaitsWith d x ec_on
        ({ s with active_devices := A }.getConcurrentTxStreamL cfg env x d)) :=
      htallied.of_map hact hpend hcon hfail fun k hk => hmap k (hne _ hk)
    have hW : s.AwaitsWith d x ec_on
        ({ s with active_devices := A }.getConcurrentTxStreamL cfg env x d) =
          s₁.AwaitsWith d x ec_on
            ({ s with active_devices := A }.getConcurrentTxStreamL cfg env x d) := by
      unfold AwaitsWith Awaits
      rw [hpend]
    rw [hW] at htallied₁
    refine inv_loop (fun d' u hreg hdir => ?_) htallied₁ (fun u hu r' => ?_) ?_ ?_ hloop
    · rw [hact] at hreg
      exact visitedTxDevice_of_registered hl hreg hdir
    · unfold EcState.target HasCounted
      rw [hpend, hec u (hne u hu), hcon]
      exact h.targeted u hu r'
    · exact hl.active.filter _
    · unfold Idle
      rw [hpend]
      exact hidle
  next hrx =>
    have htallied : { s with active_devices := A }.Tallied cfg (s.AwaitsWith d x ec_on []) := by
      refine h.tallied.rx_change hx hidle hnd hA hnew hold (fun u hu => ?_)
        (fun d' u hreg hel => ?_)
      · cases hu
      · exact absurd (EcConfig.refersTo_iff.mp (EcConfig.eligible_iff.mp hel).1).2.1 hrx
    rw [awaitsWith_nil] at htallied
    exact ⟨htallied, fun u hu => h.targeted u hu⟩

/-! ### A tx stream starts or stops -/

theorem checkandEnableECL_tx (ht : cfg.direction t = PAL_AUDIO_INPUT) (voice : ℤ) :
    s.checkandEnableECL cfg env d t ec_on voice =
      if cfg.isTxStream t then s.checkandEnableECForTXStreamL cfg env d t ec_on else s := by
  unfold checkandEnableECL EcConfig.isTxStream
  by_cases hp : cfg.type t = PAL_STREAM_PROXY <;>
    by_cases hu : cfg.type t = PAL_STREAM_ULTRA_LOW_LATENCY <;>
      by_cases hg : cfg.type t = PAL_STREAM_GENERIC <;> simp [hp, hu, hg, ht]

/-- A tx stream that is not registered has no counts. -/
theorem Tallied.empty_of_unregistered (h : s.Tallied cfg W) {k : EcKey}
    (hk : cfg.direction k.tx_str = PAL_AUDIO_INPUT)
    (hreg : (k.tx_dev, k.tx_str) ∉ s.active_devices) :
    s.contributed k = ∅ ∧ s.failed k = ∅ := by
  refine ⟨Finset.eq_empty_of_forall_notMem fun y hy => ?_,
    Finset.eq_empty_of_forall_notMem fun y hy => ?_⟩
  · exact hreg ((h.handled k y hk).mp (Or.inl hy)).1
  · exact hreg ((h.handled k y hk).mp (Or.inr hy)).1

/-- The devices of a tx stream change, and with them its own counts. -/
theorem Tallied.tx_change (h : s.Tallied cfg s.Awaits) (ht : cfg.direction t = PAL_AUDIO_INPUT)
    (hnd : s'.active_devices.Nodup)
    (hone : ∀ d₁ d₂, (d₁, t) ∈ s'.active_devices → (d₂, t) ∈ s'.active_devices → d₁ = d₂)
    (hact : ∀ p, p.2 ≠ t → (p ∈ s'.active_devices ↔ p ∈ s.active_devices))
    (hpend : s'.pending = s.pending)
    (hmap : ∀ k, k.tx_str ≠ t → s'.ec_ref_count_map k = s.ec_ref_count_map k)
    (hcon : ∀ k, k.tx_str ≠ t → s'.contributed k = s.contributed k)
    (hfail : ∀ k, k.tx_str ≠ t → s'.failed k = s.failed k)
    (hcount : ∀ k, k.tx_str = t → Counts (s'.ec_ref_count_map k) (s'.contributed k))
    (hnone : ∀ k, k.tx_str = t → s'.failed k = ∅)
    (hown : ∀ k y, k.tx_str = t → (y ∈ s'.contributed k ↔ s'.Handled cfg s.Awaits k y))
    (hrefers : ∀ r x on' e, s.Awaits r x on' t → (e, t) ∈ s'.active_devices →
      cfg.refersTo ⟨e, r, t⟩ x = true) :
    s'.Tallied cfg s'.Awaits := by
  have hW : s'.Awaits = s.Awaits := by
    unfold Awaits
    rw [hpend]
  -- an rx stream whose call is in progress is another stream
  have hrx : ∀ {r x on' u}, s.Awaits r x on' u → x ≠ t := by
    rintro r x on' u hw rfl
    exact h.rx _ _ _ _ hw ht
  rw [hW]
  refine ⟨hnd, ?_, ?_, ?_, ?_, ?_, ?_, h.rx, h.tx, ?_, ?_, ?_, ?_⟩
  · intro d₁ d₂ u hu h₁ h₂
    by_cases hut : u = t
    · subst hut
      exact hone d₁ d₂ h₁ h₂
    · exact h.one_tx d₁ d₂ u hu ((hact _ hut).mp h₁) ((hact _ hut).mp h₂)
  · intro k hk
    by_cases hkt : k.tx_str = t
    · exact hcount k hkt
    · rw [hmap k hkt, hcon k hkt]
      exact h.counts k hk
  · intro k y hy
    by_cases hkt : k.tx_str = t
    · simp [hnone k hkt]
    · rw [hcon k hkt] at hy
      rw [hfail k hkt]
      exact h.disjoint k y hy
  · intro k y hk
    by_cases hkt : k.tx_str = t
    · rw [hnone k hkt, ← hown k y hkt]
      simp
    · rw [hcon k hkt, hfail k hkt, h.handled k y hk]
      unfold Handled
      rw [hact _ hkt]
      refine and_congr_right fun hreg => and_congr_right fun hel => ?_
      have hyt : y ≠ t := by
        rintro rfl
        have href := EcConfig.refersTo_iff.mp (EcConfig.eligible_iff.mp hel).1
        exact EcConfig.direction_of_isRxStream href.2.1 ht
      rw [hact _ hyt]
  · intro r x u hw
    exact (hact _ (hrx hw)).mpr (h.starting _ _ _ hw)
  · intro r x u hw hin
    exact h.stopping _ _ _ hw ((hact _ (hrx hw)).mp hin)
  · intro r x on' u e hw hreg
    by_cases hut : u = t
    · subst hut
      exact hrefers r x on' e hw hreg
    · exact h.refers _ _ _ _ _ hw ((hact _ hut).mp hreg)
  · exact hpend ▸ h.calls
  · exact hpend ▸ h.requesters
  · exact hpend ▸ h.rests

/-- The rx device that the start of a tx stream takes. -/
theorem getActiveEchoReferenceRxDevicesL_eq_some
    (h : s.getActiveEchoReferenceRxDevicesL cfg env t = some r) :
    ∃ x ∈ env.mActiveStreams, cfg.direction x ≠ PAL_AUDIO_INPUT ∧
      cfg.getEcRefStatus (cfg.type t) (cfg.type x) = true ∧ (r, x) ∈ s.active_devices ∧
      env.isPlaying x = true ∧ isOutDevice r = true ∧
      ∃ d ∈ env.getAssociatedDevices t, cfg.checkECRef r d = true := by
  obtain ⟨x, hx, hfind⟩ := List.exists_of_findSome?_eq_some h
  split at hfind
  next hif =>
    obtain ⟨hdir, hst⟩ : cfg.direction x ≠ PAL_AUDIO_INPUT ∧
        cfg.getEcRefStatus (cfg.type t) (cfg.type x) = true := by simpa using hif
    have hp := List.find?_some hfind
    simp only [isDeviceActiveL, Bool.and_eq_true, decide_eq_true_eq, List.any_eq_true,
      and_assoc] at hp
    exact ⟨x, hx, hdir, hst, hp⟩
  next => cases hfind

theorem getActiveEchoReferenceRxDevicesL_eq_none
    (h : s.getActiveEchoReferenceRxDevicesL cfg env t = none) {x : StreamId}
    (hx : x ∈ env.mActiveStreams) (hdir : cfg.direction x ≠ PAL_AUDIO_INPUT)
    (hst : cfg.getEcRefStatus (cfg.type t) (cfg.type x) = true)
    (hr : r ∈ env.getAssociatedDevices x) (hreg : (r, x) ∈ s.active_devices)
    (hplay : env.isPlaying x = true) (hout : isOutDevice r = true) {d : DeviceId}
    (hd : d ∈ env.getAssociatedDevices t) : cfg.checkECRef r d = false := by
  have hnone := List.findSome?_eq_none_iff.mp h x hx
  rw [if_pos (by simp [hdir, hst])] at hnone
  have hp := List.find?_eq_none.mp hnone r hr
  simp only [isDeviceActiveL, hreg, hplay, hout, decide_true, Bool.true_and, List.any_eq_true,
    not_exists, not_and, Bool.not_eq_true] at hp
  exact hp d hd

theorem mem_countedRxStreams :
    x ∈ s.countedRxStreams cfg env r t ↔ x ∈ env.activeStreamMap ∧
      r ∈ env.getAssociatedDevices x ∧ env.isAlive x = true ∧ (r, x) ∈ s.active_devices ∧
      env.isPlaying x = true ∧ cfg.direction x ≠ PAL_AUDIO_INPUT ∧
      cfg.getEcRefStatus (cfg.type t) (cfg.type x) = true := by
  unfold countedRxStreams getActiveStreamL isDeviceActiveL
  simp only [List.mem_filter, Bool.and_eq_true, decide_eq_true_eq, List.contains_iff_mem]
  tauto

theorem isAlive_of_isPlaying (h : env.isPlaying x = true) : env.isAlive x = true := by
  unfold EcEnv.isPlaying at h
  unfold EcEnv.isAlive
  rcases of_decide_eq_true h with h | h <;> simp [h]

/-- The start of a tx stream counts the registered rx streams that are eligible. -/
theorem TxStartOk.mem_counted (hok : TxStartOk cfg env s d t)
    (hec : cfg.getECEnableSetting d t = true) (hcheck : cfg.checkECRef r d = true) :
    x ∈ s.countedRxStreams cfg env r t ↔
      (r, x) ∈ s.active_devices ∧ cfg.eligible ⟨d, r, t⟩ x = true := by
  rw [mem_countedRxStreams]
  constructor
  · rintro ⟨-, -, -, hreg, hplay, hdir, hst⟩
    exact ⟨hreg, hok.no_others hec r x hreg hplay hdir hst hcheck⟩
  · rintro ⟨hreg, hel⟩
    obtain ⟨-, hmap, hassoc, hplay, -⟩ := hok.plays r x hreg hel
    obtain ⟨-, hrx, hst, -, -⟩ := EcConfig.refersTo_iff.mp (EcConfig.eligible_iff.mp hel).1
    exact ⟨hmap, hassoc, isAlive_of_isPlaying hplay, hreg, hplay,
      EcConfig.direction_of_isRxStream hrx, hst⟩

/-- The device of a tx stream is registered, before the rx streams are looked at. -/
def withTx (s : EcState) (d : DeviceId) (t : StreamId) : EcState :=
  { s with active_devices := s.active_devices ++ [(d, t)] }

theorem mem_withTx {p : DeviceId × StreamId} :
    p ∈ (s.withTx d t).active_devices ↔ p ∈ s.active_devices ∨ p = (d, t) := by
  simp [withTx]

/-- The parts of a start of a tx stream that do not depend on what it counts. -/
theorem Inv.tx_started (h : s.Inv cfg) (ht : cfg.direction t = PAL_AUDIO_INPUT)
    (hfree : ∀ e, (e, t) ∉ s.active_devices)
    (hact : s'.active_devices = (s.withTx d t).active_devices)
    (hpend : s'.pending = s.pending) (hfail : s'.failed = s.failed)
    (hmap : ∀ k, k.tx_str ≠ t → s'.ec_ref_count_map k = s.ec_ref_count_map k)
    (hcon : ∀ k, k.tx_str ≠ t → s'.contributed k = s.contributed k)
    (hcount : ∀ k, k.tx_str = t → Counts (s'.ec_ref_count_map k) (s'.contributed k))
    (hown : ∀ k y, k.tx_str = t → (y ∈ s'.contributed k ↔ s'.Handled cfg s.Awaits k y))
    (hrefers : ∀ r x on', s.Awaits r x on' t → cfg.refersTo ⟨d, r, t⟩ x = true) :
    s'.Tallied cfg s'.Awaits := by
  refine h.tallied.tx_change (t := t) ht ?_ (fun e f he hf => ?_) (fun p hp => ?_) hpend hmap hcon
    (fun k _ => by rw [hfail]) hcount (fun k hk => ?_) hown fun r x on' e hw hreg => ?_
  · rw [hact]
    simpa [withTx] using h.tallied.nodup.concat (hfree d)
  · rw [hact, mem_withTx] at he hf
    rcases he with he | he
    · exact absurd he (hfree e)
    · rcases hf with hf | hf
      · exact absurd hf (hfree f)
      · rw [(Prod.mk.inj he).1, (Prod.mk.inj hf).1]
  · rw [hact, mem_withTx]
    refine or_iff_left ?_
    rintro rfl
    exact hp rfl
  · rw [hfail]
    exact (h.tallied.empty_of_unregistered (by rw [hk]; exact ht) (by rw [hk]; exact hfree _)).2
  · rw [hact, mem_withTx] at hreg
    rcases hreg with hreg | hreg
    · exact absurd hreg (hfree e)
    · rw [(Prod.mk.inj hreg).1]
      exact hrefers r x on' hw

/-- At the keys of a tx stream that starts, the handled streams are the registered ones that are
eligible. -/
theorem handled_withTx (ht : cfg.direction t = PAL_AUDIO_INPUT)
    (hfree : ∀ e, (e, t) ∉ s.active_devices)
    (hwait : cfg.isTxStream t = true → ∀ r y on', ¬s.Awaits r y on' t)
    (hact : s'.active_devices = (s.withTx d t).active_devices) {k : EcKey} {y : StreamId}
    (hk : k.tx_str = t) :
    s'.Handled cfg s.Awaits k y ↔ k.tx_dev = d ∧ (k.rx_dev, y) ∈ s.active_devices ∧
      cfg.eligible k y = true := by
  unfold Handled
  rw [hact, mem_withTx, mem_withTx, hk]
  constructor
  · rintro ⟨hreg, hel, hside⟩
    obtain ⟨htx, hrx, -⟩ := EcConfig.refersTo_iff.mp (EcConfig.eligible_iff.mp hel).1
    rw [hk] at htx
    refine ⟨(Prod.mk.inj (hreg.resolve_left (hfree _))).1, ?_, hel⟩
    rcases hside with ⟨hy, -⟩ | ⟨-, hw⟩
    · refine hy.resolve_right fun heq => EcConfig.direction_of_isRxStream hrx ?_
      rw [(Prod.mk.inj heq).2]
      exact ht
    · exact absurd hw (hwait htx _ _ _)
  · rintro ⟨hkd, hy, hel⟩
    have htx := (EcConfig.refersTo_iff.mp (EcConfig.eligible_iff.mp hel).1).1
    rw [hk] at htx
    exact ⟨Or.inr (by rw [hkd]), hel, Or.inl ⟨Or.inl hy, hwait htx _ _ _⟩⟩

/-- The tx stream is registered, and the streams it found are counted. -/
def withCounted (s : EcState) (d r : DeviceId) (t : StreamId) (found : List StreamId) : EcState :=
  { s.withTx d t with
    ec_ref_count_map := Function.update s.ec_ref_count_map ⟨d, r, t⟩
      (raised (s.ec_ref_count_map ⟨d, r, t⟩) found.length)
    contributed := Function.update s.contributed ⟨d, r, t⟩
      (s.contributed ⟨d, r, t⟩ ∪ found.toFinset) }

/-- The start of a tx stream that finds rx streams, which are all on one device, counts them. -/
theorem Inv.tx_counts (h : s.Inv cfg) (ht : cfg.direction t = PAL_AUDIO_INPUT)
    (hfree : ∀ e, (e, t) ∉ s.active_devices) (hidle : s.Idle t) (htx : cfg.isTxStream t = true)
    (hok : TxStartOk cfg env (s.withTx d t) d t) {found : List StreamId} (hnd : found.Nodup)
    (hin : x ∈ found) (hfound : ∀ y, y ∈ found ↔
      (r, y) ∈ (s.withTx d t).active_devices ∧ cfg.eligible ⟨d, r, t⟩ y = true) :
    ({ s.withCounted d r t found with
      pending := s.pending ++ [⟨t, d, some r, true, .tx found.toFinset⟩] } : EcState).Inv cfg := by
  have hempty : ∀ k, k.tx_str = t → s.contributed k = ∅ := fun k hk =>
    (h.tallied.empty_of_unregistered (by rw [hk]; exact ht) (by rw [hk]; exact hfree _)).1
  have hmap : ∀ k, k.tx_str = t → Counts (s.ec_ref_count_map k) (∅ : Finset StreamId) := by
    intro k hk
    rw [← hempty k hk]
    exact h.tallied.counts k (by rw [hk]; exact ht)
  have hel : ∀ {k y}, cfg.eligible k y = true → (k.rx_dev, y) ∈ (s.withTx d t).active_devices →
      (k.rx_dev, y) ∈ s.active_devices := by
    intro k y hel hy
    obtain ⟨-, hrx, -⟩ := EcConfig.refersTo_iff.mp (EcConfig.eligible_iff.mp hel).1
    refine (mem_withTx.mp hy).resolve_right fun heq => EcConfig.direction_of_isRxStream hrx ?_
    rw [(Prod.mk.inj heq).2]
    exact ht
  obtain ⟨hxreg, hxel⟩ := (hfound x).mp hin
  -- the state with the new counts, before the call is made
  have hcounts : (s.withCounted d r t found).Tallied cfg (s.withCounted d r t found).Awaits := by
    refine h.tx_started (d := d) ht hfree rfl rfl rfl
      (fun k hk => Function.update_of_ne (fun heq => hk (by rw [heq])) _ _)
      (fun k hk => Function.update_of_ne (fun heq => hk (by rw [heq])) _ _)
      (fun k hk => ?_) (fun k y hk => ?_) (fun r x on' hw => ?_)
    · unfold withCounted
      dsimp only
      by_cases hk₀ : k = ⟨d, r, t⟩
      · subst hk₀
        rw [Function.update_self, Function.update_self, ← List.toFinset_card_of_nodup hnd,
          hempty _ rfl]
        refine (hmap _ rfl).join ⟨x, List.mem_toFinset.mpr hin⟩ ?_
        simp
      · rw [Function.update_of_ne hk₀, Function.update_of_ne hk₀, hempty k hk]
        exact hmap k hk
    · refine Iff.trans ?_
        (handled_withTx (d := d) ht hfree (fun _ => hok.not_awaited) rfl hk).symm
      unfold withCounted
      dsimp only
      by_cases hk₀ : k = ⟨d, r, t⟩
      · subst hk₀
        rw [Function.update_self, hempty _ rfl, Finset.empty_union, List.mem_toFinset, hfound]
        constructor
        · rintro ⟨hy, hyel⟩
          exact ⟨rfl, hel hyel hy, hyel⟩
        · rintro ⟨-, hy, hyel⟩
          exact ⟨mem_withTx.mpr (Or.inl hy), hyel⟩
      · rw [Function.update_of_ne hk₀, hempty k hk]
        refine iff_of_false (Finset.notMem_empty y) ?_
        rintro ⟨hkd, hy, hyel⟩
        have hkey : k = ⟨d, k.rx_dev, t⟩ := by rw [← hkd, ← hk]
        rw [hkey] at hyel
        have hr := hok.one_device r x k.rx_dev y hxreg (mem_withTx.mpr (Or.inl hy)) hxel hyel
        exact hk₀ (by rw [hkey, ← hr])
    · exact absurd hw (hok.not_awaited r x on')
  refine ⟨hcounts.push_tx hidle rfl htx, fun u hu => ?_⟩
  refine targeted_push (s := s.withCounted d r t found) (fun hne r' => ?_) fun r' => ?_
  · rw [hasCounted_of_ne (s := s) hne fun k hk =>
      Function.update_of_ne (fun heq => hk (by rw [heq])) _ _]
    exact h.targeted u hu r'
  · -- what the start found is all that is counted for the tx stream
    have hwants : EcCall.wants ⟨t, d, some r, true, .tx found.toFinset⟩ = some r := rfl
    rw [hwants, Option.some.injEq]
    unfold withCounted
    constructor
    · rintro rfl
      exact ⟨d, x, by simp [hin]⟩
    · rintro ⟨d', hcon⟩
      by_contra hne
      dsimp only at hcon
      rw [Function.update_of_ne fun heq => hne (EcKey.mk.inj heq).2.1.symm, hempty _ rfl] at hcon
      exact Finset.not_nonempty_empty hcon

/-- **A tx stream starts.** -/
theorem Inv.tx_start (h : s.Inv cfg) (ht : cfg.direction t = PAL_AUDIO_INPUT)
    (hnew : (d, t) ∉ s.active_devices) (hidle : s.Idle t) (hl : env.Lists cfg (s.withTx d t))
    (hok : cfg.isTxStream t = true → TxStartOk cfg env (s.withTx d t) d t) (voice : ℤ) :
    ((s.withTx d t).checkandEnableECL cfg env d t true voice).Inv cfg := by
  have hdevs := (hl.tx d t (mem_withTx.mpr (Or.inr rfl)) ht).2
  have hfree : ∀ e, (e, t) ∉ s.active_devices := by
    intro e he
    have hdevs' := (hl.tx e t (mem_withTx.mpr (Or.inl he)) ht).2
    rw [hdevs] at hdevs'
    exact hnew ((List.cons.inj hdevs').1 ▸ he)
  have hempty : ∀ k, k.tx_str = t → s.contributed k = ∅ := fun k hk =>
    (h.tallied.empty_of_unregistered (by rw [hk]; exact ht) (by rw [hk]; exact hfree _)).1
  have hnotHas : ∀ r, ¬s.HasCounted t r := by
    rintro r ⟨e, hcon⟩
    rw [hempty _ rfl] at hcon
    exact Finset.not_nonempty_empty hcon
  -- nothing is counted where no rx stream is eligible
  have hsilent : (∀ r y, (r, y) ∈ s.active_devices → cfg.eligible ⟨d, r, t⟩ y = false) →
      (cfg.isTxStream t = true → ∀ r y on', ¬s.Awaits r y on' t) → (s.withTx d t).Inv cfg := by
    intro hno hwait
    refine ⟨h.tx_started ht hfree rfl rfl rfl (fun _ _ => rfl) (fun _ _ => rfl) (fun k hk => ?_)
      (fun k y hk => ?_) (fun r x on' hw => ?_), fun u hu => h.targeted u hu⟩
    · exact h.tallied.counts k (by rw [hk]; exact ht)
    · rw [handled_withTx ht hfree hwait rfl hk]
      refine iff_of_false (by simp [withTx, hempty k hk]) ?_
      rintro ⟨hkd, hy, hel⟩
      have hnone := hno k.rx_dev y hy
      rw [← hk, ← hkd] at hnone
      rw [hnone] at hel
      cases hel
    · exact absurd hw (hwait (h.tallied.tx _ _ _ _ hw) _ _ _)
  rw [checkandEnableECL_tx ht]
  by_cases htx : cfg.isTxStream t = true
  · rw [if_pos htx]
    have hok := hok htx
    unfold checkandEnableECForTXStreamL enableECForTXStream
    rw [if_pos rfl]
    by_cases hec : cfg.getECEnableSetting d t = true
    · rw [hec, Bool.not_true, if_neg Bool.false_ne_true]
      cases hrx : (s.withTx d t).getActiveEchoReferenceRxDevicesL cfg env t with
      | none =>
        refine hsilent (fun r y hreg => Bool.eq_false_iff.mpr fun hel => ?_) fun _ =>
          hok.not_awaited
        have hreg' : (r, y) ∈ (s.withTx d t).active_devices := mem_withTx.mpr (Or.inl hreg)
        obtain ⟨hmem, -, hassoc, hplay, hout⟩ := hok.plays r y hreg' hel
        obtain ⟨-, hy, hst, -, hcheck⟩ :=
          EcConfig.refersTo_iff.mp (EcConfig.eligible_iff.mp hel).1
        have hoff := getActiveEchoReferenceRxDevicesL_eq_none hrx hmem
          (EcConfig.direction_of_isRxStream hy) hst hassoc hreg' hplay hout
          (by rw [hdevs]; exact List.mem_singleton_self d)
        exact Bool.false_ne_true (hoff.symm.trans hcheck)
      | some r =>
        obtain ⟨x, hmem, hdir, hst, hreg, hplay, hout, e, he, hcheck⟩ :=
          getActiveEchoReferenceRxDevicesL_eq_some hrx
        rw [hdevs, List.mem_singleton] at he
        rw [he] at hcheck
        have hel := hok.no_others hec r x hreg hplay hdir hst hcheck
        have hcounted : ∀ y, y ∈ (s.withTx d t).countedRxStreams cfg env r t ↔
            (r, y) ∈ (s.withTx d t).active_devices ∧ cfg.eligible ⟨d, r, t⟩ y = true :=
          fun y => hok.mem_counted hec hcheck
        have hnd : ((s.withTx d t).countedRxStreams cfg env r t).Nodup :=
          (hl.map.filter _).filter _
        have hin := (hcounted x).mpr ⟨hreg, hel⟩
        have hpos := List.length_pos_of_mem hin
        have hcounts := h.tx_counts ht hfree hidle htx hok hnd hin hcounted
        dsimp only
        rw [EcConfig.updateECDeviceMap_of_pos (EcConfig.hasDevice_of_checkECRef hcheck) hpos]
        split
        next hle =>
          dsimp only at hle
          omega
        next => exact hcounts
    · rw [Bool.not_eq_true] at hec
      rw [hec]
      refine hsilent (fun r y _ => ?_) fun _ => hok.not_awaited
      unfold EcConfig.eligible
      rw [hec, Bool.and_false]
  · rw [if_neg htx]
    refine hsilent (fun r y _ => ?_) fun htx' => absurd htx' htx
    refine Bool.eq_false_iff.mpr fun hel => htx ?_
    exact (EcConfig.refersTo_iff.mp (EcConfig.eligible_iff.mp hel).1).1

/-- The device of a tx stream is deregistered. -/
def withoutTx (s : EcState) (d : DeviceId) (t : StreamId) : EcState :=
  { s with active_devices := s.active_devices.erase (d, t) }

/-- The counts of the tx stream are erased. -/
def withoutCounts (cfg : EcConfig) (s : EcState) (d : DeviceId) (t : StreamId) : EcState :=
  { s.withoutTx d t with
    ec_ref_count_map := cfg.stopECDeviceMap s.ec_ref_count_map none d t
    contributed := fun k => if k.erasedBy none d t then ∅ else s.contributed k
    failed := fun k => if k.erasedBy none d t then ∅ else s.failed k }

theorem not_erasedBy_of_ne {k : EcKey} (hk : k.tx_str ≠ t) : ¬k.erasedBy none d t = true := by
  simp [EcKey.erasedBy, hk]

/-- The parts of a stop of a tx stream that do not depend on what was counted. -/
theorem Inv.tx_stopped (h : s.Inv cfg) (ht : cfg.direction t = PAL_AUDIO_INPUT)
    (hreg : (d, t) ∈ s.active_devices)
    (hact : s'.active_devices = s.active_devices.erase (d, t)) (hpend : s'.pending = s.pending)
    (hmap : ∀ k, k.tx_str ≠ t → s'.ec_ref_count_map k = s.ec_ref_count_map k)
    (hcon : ∀ k, k.tx_str ≠ t → s'.contributed k = s.contributed k)
    (hfail : ∀ k, k.tx_str ≠ t → s'.failed k = s.failed k)
    (hnone : ∀ k, k.tx_str = t →
      s'.ec_ref_count_map k = none ∧ s'.contributed k = ∅ ∧ s'.failed k = ∅) :
    s'.Tallied cfg s'.Awaits := by
  have hgone : ∀ e, (e, t) ∉ s'.active_devices := by
    intro e he
    rw [hact] at he
    have hed := h.tallied.one_tx e d t ht (List.mem_of_mem_erase he) hreg
    rw [hed] at he
    exact h.tallied.nodup.not_mem_erase he
  refine h.tallied.tx_change (t := t) ht ?_ (fun e _ he => absurd he (hgone e)) (fun p hp => ?_)
    hpend hmap hcon hfail (fun k hk => ?_) (fun k hk => (hnone k hk).2.2) (fun k y hk => ?_)
    fun r x on' e _ he => absurd he (hgone e)
  · rw [hact]
    exact h.tallied.nodup.erase _
  · rw [hact]
    refine List.mem_erase_of_ne ?_
    rintro rfl
    exact hp rfl
  · rw [(hnone k hk).1, (hnone k hk).2.1]
    exact counts_none
  · rw [(hnone k hk).2.1]
    refine iff_of_false (Finset.notMem_empty y) fun hh => hgone k.tx_dev ?_
    rw [← hk]
    exact hh.1

/-- **A tx stream stops.** -/
theorem Inv.tx_stop (h : s.Inv cfg) (ht : cfg.direction t = PAL_AUDIO_INPUT)
    (hreg : (d, t) ∈ s.active_devices) (hidle : s.Idle t) (voice : ℤ) :
    ((s.withoutTx d t).checkandEnableECL cfg env d t false voice).Inv cfg := by
  -- nothing was counted for a stream that has no echo reference
  have hsilent : (∀ r y, cfg.eligible ⟨d, r, t⟩ y = false) → (s.withoutTx d t).Inv cfg := by
    intro hno
    have hoff : ∀ k y, k.tx_str = t → ¬(y ∈ s.contributed k ∨ y ∈ s.failed k) := by
      rintro ⟨e, r, u⟩ y rfl
      rw [h.tallied.handled _ _ ht]
      rintro ⟨he, hel, -⟩
      rw [h.tallied.one_tx e d u ht he hreg, hno] at hel
      cases hel
    refine ⟨h.tx_stopped ht hreg rfl rfl (fun _ _ => rfl) (fun _ _ => rfl) (fun _ _ => rfl)
      fun k hk => ?_, fun u hu => h.targeted u hu⟩
    have hcon : s.contributed k = ∅ :=
      Finset.eq_empty_of_forall_notMem fun y hy => hoff k y hk (Or.inl hy)
    refine ⟨?_, hcon, Finset.eq_empty_of_forall_notMem fun y hy => hoff k y hk (Or.inr hy)⟩
    exact (h.tallied.counts k (by rw [hk]; exact ht)).eq_none_iff.mpr hcon
  rw [checkandEnableECL_tx ht]
  by_cases htx : cfg.isTxStream t = true
  · rw [if_pos htx]
    unfold checkandEnableECForTXStreamL disableECForTXStream
    rw [if_neg Bool.false_ne_true]
    by_cases hec : cfg.getECEnableSetting d t = true
    · rw [hec, Bool.not_true, if_neg Bool.false_ne_true]
      have hcounts : (s.withoutCounts cfg d t).Tallied cfg (s.withoutCounts cfg d t).Awaits := by
        refine h.tx_stopped ht hreg rfl rfl (fun k hk => ?_)
          (fun k hk => if_neg (not_erasedBy_of_ne hk))
          (fun k hk => if_neg (not_erasedBy_of_ne hk)) fun k hk => ?_
        · unfold withoutCounts EcConfig.stopECDeviceMap
          dsimp only
          split
          · rfl
          · exact if_neg (not_erasedBy_of_ne hk)
        · have hdir : cfg.direction k.tx_str = PAL_AUDIO_INPUT := by rw [hk]; exact ht
          have happly := EcConfig.stopECDeviceMap_apply (h.tallied.hasDevice_or_none hdir) none d t
          unfold withoutCounts
          dsimp only
          rw [happly]
          by_cases her : k.erasedBy none d t = true
          · simp [her]
          · -- on another device it was not registered
            have hkd : k.tx_dev ≠ d := by
              intro hkd
              exact her (by simp [EcKey.erasedBy, hkd, hk])
            have hun : (k.tx_dev, k.tx_str) ∉ s.active_devices := by
              rw [hk]
              exact fun he => hkd (h.tallied.one_tx _ _ _ ht he hreg)
            obtain ⟨hcon, hfail⟩ := h.tallied.empty_of_unregistered hdir hun
            simp only [her, Bool.false_eq_true, if_false]
            exact ⟨(h.tallied.counts k hdir).eq_none_iff.mpr hcon, hcon, hfail⟩
      refine ⟨hcounts.push_tx (c := ⟨t, d, none, false, .tx ∅⟩) hidle rfl htx, fun u hu => ?_⟩
      refine targeted_push (s := s.withoutCounts cfg d t) (fun hne r' => ?_) fun r' => ?_
      · rw [hasCounted_of_ne (s := s) hne fun k hk => if_neg (not_erasedBy_of_ne hk)]
        exact h.targeted u hu r'
      · refine iff_of_false (fun heq => by cases heq) ?_
        rintro ⟨e, y, hy⟩
        have he : (e, t) ∈ s.active_devices.erase (d, t) :=
          ((hcounts.handled _ _ ht).mp (Or.inl hy)).1
        have hed := h.tallied.one_tx e d t ht (List.mem_of_mem_erase he) hreg
        rw [hed] at he
        exact h.tallied.nodup.not_mem_erase he
    · rw [Bool.not_eq_true] at hec
      rw [hec]
      refine hsilent fun r y => ?_
      unfold EcConfig.eligible
      rw [hec, Bool.and_false]
  · rw [if_neg htx]
    refine hsilent fun r y => Bool.eq_false_iff.mpr fun hel => htx ?_
    exact (EcConfig.refersTo_iff.mp (EcConfig.eligible_iff.mp hel).1).1

/-! ### The steps -/

theorem inv_init (cfg : EcConfig) : init.Inv cfg where
  tallied :=
    { nodup := List.nodup_nil
      one_tx := by simp [init]
      counts := fun k _ => counts_none
      disjoint := by simp [init]
      handled := by simp [init, Handled]
      starting := by simp [init, Awaits]
      stopping := by simp [init, Awaits]
      rx := by simp [init, Awaits]
      tx := by simp [init, Awaits]
      refers := by simp [init, Awaits]
      calls := by simp [init]
      requesters := by simp [init]
      rests := by simp [init] }
  targeted t _ r := by simp [init, EcState.target, HasCounted]

theorem Inv.registerDevice (h : s.Inv cfg) {voice : ℤ}
    (hok : s.EcOk cfg (.registerDevice d x voice env)) :
    (s.registerDevice cfg env d x voice).Inv cfg := by
  unfold EcState.registerDevice
  split
  next => exact h
  next hnew =>
    obtain ⟨hidle, hl, htx, hrx⟩ := hok hnew
    by_cases hx : cfg.direction x = PAL_AUDIO_INPUT
    · exact h.tx_start hx hnew hidle hl htx voice
    · refine h.rx_call hx hidle ?_ (fun p hp => ?_) ?_ ?_ hl hrx
      · simpa using h.tallied.nodup.concat hnew
      · simp [hp]
      · simp
      · simp [hnew]

theorem Inv.deregisterDevice (h : s.Inv cfg) {voice : ℤ}
    (hok : s.EcOk cfg (.deregisterDevice d x voice env)) :
    (s.deregisterDevice cfg env d x voice).Inv cfg := by
  unfold EcState.deregisterDevice
  split
  next => exact h
  next hreg =>
    rw [not_not] at hreg
    obtain ⟨hidle, hl, hrx⟩ := hok hreg
    by_cases hx : cfg.direction x = PAL_AUDIO_INPUT
    · exact h.tx_stop hx hreg hidle voice
    · refine h.rx_call hx hidle (h.tallied.nodup.erase _) (fun p hp => List.mem_erase_of_ne hp)
        ?_ ?_ hl hrx
      · simp [h.tallied.nodup.not_mem_erase]
      · simp [hreg]

theorem Inv.step {i : EcInput} (h : s.Inv cfg) (hok : s.EcOk cfg i)
    (hstep : s.step cfg i = some s') : s'.Inv cfg := by
  cases i with
  | registerDevice d x voice env =>
    cases hstep
    exact h.registerDevice hok
  | deregisterDevice d x voice env =>
    cases hstep
    exact h.deregisterDevice hok
  | answer i status resets env =>
    obtain ⟨c, hc, rfl⟩ := Option.map_eq_some_iff.mp hstep
    obtain ⟨hl, hok⟩ := hok c hc
    exact h.answer (removes_eraseIdx hc) hl hok

/-! ### What holds when no call is in progress -/

theorem not_awaits_of_nil (hq : s.pending = []) (r : DeviceId) (x : StreamId) (on' : Bool)
    (u : StreamId) : ¬s.Awaits r x on' u := by
  rintro ⟨c, hc, -⟩
  rw [hq] at hc
  cases hc

theorem mem_enabledRxStreams {k : EcKey} {p : DeviceId × StreamId} :
    p ∈ s.enabledRxStreams cfg k ↔ (k.tx_dev, k.tx_str) ∈ s.active_devices ∧
      p ∈ s.active_devices ∧ p.1 = k.rx_dev ∧ cfg.eligible k p.2 = true ∧ p.2 ∉ s.failed k := by
  unfold enabledRxStreams
  split
  next hreg => simp [hreg, and_assoc]
  next hreg => simp [hreg]

/-- The counted streams are those that are enabled. -/
theorem Tallied.contributed_eq (h : s.Tallied cfg s.Awaits) (hq : s.pending = []) {k : EcKey}
    (hk : cfg.direction k.tx_str = PAL_AUDIO_INPUT) :
    s.contributed k = ((s.enabledRxStreams cfg k).map Prod.snd).toFinset := by
  ext y
  have hhandled := h.handled k y hk
  have hdisj := h.disjoint k y
  simp only [Handled, not_awaits_of_nil hq, not_false_eq_true, and_true, and_false,
    or_false] at hhandled
  rw [List.mem_toFinset, List.mem_map]
  constructor
  · intro hy
    obtain ⟨hreg, hel, hrx⟩ := hhandled.mp (Or.inl hy)
    exact ⟨(k.rx_dev, y), mem_enabledRxStreams.mpr ⟨hreg, hrx, rfl, hel, hdisj hy⟩, rfl⟩
  · rintro ⟨p, hp, rfl⟩
    obtain ⟨hreg, hrx, hr, hel, hfail⟩ := mem_enabledRxStreams.mp hp
    refine (hhandled.mpr ⟨hreg, hel, ?_⟩).resolve_right hfail
    rw [← hr]
    exact hrx

theorem Tallied.nodup_enabled (h : s.Tallied cfg W) (k : EcKey) :
    ((s.enabledRxStreams cfg k).map Prod.snd).Nodup := by
  refine List.Nodup.map_on (fun p hp q hq heq => ?_) ?_
  · have hp' := (mem_enabledRxStreams.mp hp).2.2.1
    have hq' := (mem_enabledRxStreams.mp hq).2.2.1
    exact Prod.ext (hp'.trans hq'.symm) heq
  · unfold enabledRxStreams
    split
    · exact h.nodup.filter _
    · exact List.nodup_nil

theorem Inv.countsEnabled (h : s.Inv cfg) (hq : s.pending = []) : s.CountsEnabled cfg where
  count k hk := by
    rw [h.tallied.counts k hk, h.tallied.contributed_eq hq hk,
      List.toFinset_card_of_nodup (h.tallied.nodup_enabled k), List.length_map]
  reference t r ht := by
    have htarget := h.targeted t ht r
    unfold EcState.target at htarget
    rw [hq, asked_nil] at htarget
    rw [htarget]
    refine exists_congr fun d => ?_
    rw [Finset.nonempty_iff_ne_empty]
    exact not_congr (h.tallied.counts ⟨d, r, t⟩ ht).eq_none_iff.symm

theorem Tallied.neverBelow (h : s.Tallied cfg W) : s.NeverBelow cfg :=
  fun k hk => (h.counts k hk).le (Finset.filter_subset _ _)

end

/-! ### A call with playbacks -/

/-- Stream 0 records from the speaker microphone, whose echo reference is the speaker; the others
play. -/
def speakerCall : EcConfig where
  deviceInfo := [⟨32, [3], true, []⟩]
  txEcInfo := []
  type t := if t = 0 then PAL_STREAM_VOIP_TX else PAL_STREAM_VOIP_RX
  direction t := if t = 0 then PAL_AUDIO_INPUT else PAL_AUDIO_OUTPUT
  custom_key _ := ""

/-- All of them are started. -/
def speakerEnv : EcEnv where
  mActiveStreams := [0, 1, 2, 3]
  activeStreamMap := [0, 1, 2, 3]
  getAssociatedDevices t := if t = 0 then [32] else [3]
  getCurState _ := .STREAM_STARTED

/-- The recording starts while a playback runs, and fails to set the reference; a second playback
sets it. When that one stops, a third one starts before the disabling is answered, which fails; the
enabling is answered with 0. -/
def recordAndPlay : List EcInput :=
  [.registerDevice 3 1 0 speakerEnv, .registerDevice 32 0 0 speakerEnv,
    .answer 0 (-EINVAL) false speakerEnv, .registerDevice 3 2 0 speakerEnv,
    .answer 0 0 false speakerEnv, .deregisterDevice 3 2 0 speakerEnv,
    .registerDevice 3 3 0 speakerEnv, .answer 0 (-EINVAL) false speakerEnv,
    .answer 0 0 false speakerEnv]

theorem lists_speakerEnv {s : EcState} (h : ∀ p ∈ s.active_devices, p = (32, 0) ∨ p.2 ≠ 0) :
    speakerEnv.Lists speakerCall s where
  active := by decide
  map := by decide
  tx d t hreg hdir := by
    rcases h _ hreg with heq | hne
    · cases heq
      exact ⟨by decide, rfl⟩
    · simp [speakerCall, hne] at hdir

/-- One playback runs when the recording starts. -/
theorem txStartOk_speakerEnv {s : EcState} (hact : s.active_devices = [(3, 1), (32, 0)])
    (hq : s.pending = []) : TxStartOk speakerCall speakerEnv s 32 0 where
  not_awaited r x ec_on := not_awaits_of_nil hq r x ec_on 0
  plays r x hreg hel := by
    rw [hact] at hreg
    rcases List.mem_pair.mp hreg with h | h <;> cases h
    · decide
    · exact absurd hel (by decide)
  one_device r x r' x' hreg hreg' hel hel' := by
    rw [hact] at hreg hreg'
    rcases List.mem_pair.mp hreg with h | h <;> cases h
    · rcases List.mem_pair.mp hreg' with h | h <;> cases h
      · rfl
      · exact absurd hel' (by decide)
    · exact absurd hel (by decide)
  no_others _ r x hreg _ hdir _ _ := by
    rw [hact] at hreg
    rcases List.mem_pair.mp hreg with h | h <;> cases h
    · decide
    · exact absurd rfl hdir

/-- The last call to be answered, which enables the reference, is answered with 0. -/
theorem AnswerOk.of_enabled {cfg : EcConfig} {env : EcEnv} {s : EcState} {i : ℕ} {c : EcCall} (hon : c.ec_on = true) (hbusy : ¬s.Busy c.tx_str)
    (hrest : ∀ x rest, c.caller = .rx x rest → rest = []) :
    s.AnswerOk cfg env i c 0 false where
  reset h := nomatch h
  tx_failed h := absurd rfl h
  rx_failed h := absurd rfl h
  in_order h := absurd h hbusy
  kept h := absurd h hbusy
  not_enabled _ h := absurd rfl h
  disabled _ h := absurd (hon.symm.trans h) (by decide)
  rest r x rest _ hcaller := by
    rw [hrest x rest hcaller]
    trivial

/-- Only the speaker is counted. -/
theorem not_hasCounted_of_key {s : EcState} (k₀ : EcKey) (h : ∀ k ≠ k₀, s.contributed k = ∅) {r : DeviceId}
    (hr : r ≠ k₀.rx_dev) (u : StreamId) : ¬s.HasCounted u r := by
  rintro ⟨d, hcon⟩
  rw [h _ fun heq => hr (by rw [← heq])] at hcon
  exact Finset.not_nonempty_empty hcon

theorem meets_recordAndPlay :
    Meets (EcState.step speakerCall) (EcState.EcOk speakerCall) init recordAndPlay := by
  refine meets_cons_of_some (fun _ => ?_) rfl (meets_cons_of_some (fun _ => ?_) rfl
    (meets_cons_of_some ?_ rfl (meets_cons_of_some (fun _ => ?_) rfl (meets_cons_of_some ?_ rfl
    (meets_cons_of_some (fun _ => ?_) rfl (meets_cons_of_some (fun _ => ?_) rfl
    (meets_cons_of_some ?_ rfl (meets_cons_of_some ?_ rfl trivial))))))))
  · refine ⟨fun c hc => ?_, lists_speakerEnv (by decide), ?_, fun _ => trivial⟩
    · cases hc
    · exact fun h => absurd h (by decide)
  · refine ⟨fun c hc => ?_, lists_speakerEnv (by decide), fun _ => txStartOk_speakerEnv rfl rfl, ?_⟩
    · cases hc
    · exact fun h => absurd h (by decide)
  · intro c hc
    cases hc
    refine ⟨lists_speakerEnv (by decide),
      ⟨fun h => (nomatch h), ?_, ?_, ?_, ?_, fun _ _ _ => Or.inl ⟨rfl, ?_⟩, ?_, ?_⟩⟩
    · rintro - - r counted ⟨⟩ ⟨⟩
      decide
    · rintro - - r x rest - ⟨⟩
    · rintro ⟨c, hc, -⟩
      cases hc
    · rintro ⟨c, hc, -⟩
      cases hc
    · -- the start gives up the playback that it counted
      rintro r ⟨d, y, hy, hkeep⟩
      by_cases hk : (⟨d, r, 0⟩ : EcKey) = ⟨32, 3, 0⟩
      · cases hk
        have hst : -EINVAL ≠ -ENODEV := by decide
        exact hkeep ⟨rfl, rfl, rfl, rfl, hst⟩
      · have hnone : y ∈ Function.update (fun _ => (∅ : Finset StreamId)) (⟨32, 3, 0⟩ : EcKey) _
          ⟨d, r, 0⟩ := hy
        rw [Function.update_of_ne hk] at hnone
        cases hnone
    · exact fun _ h => nomatch h
    · rintro r x rest - ⟨⟩
  · refine ⟨fun c hc => ?_, lists_speakerEnv (by decide), ?_, fun _ => ⟨⟨by decide, ?_⟩, ?_⟩⟩
    · cases hc
    · exact fun h => absurd h (by decide)
    · refine fun r hr => not_hasCounted_of_key ⟨32, 3, 0⟩ (fun k hk => ?_) hr 0
      exact (Function.update_of_ne hk _ _).trans (Function.update_of_ne hk _ _)
    · exact fun h => absurd h (by decide)
  · intro c hc
    cases hc
    refine ⟨lists_speakerEnv (by decide), .of_enabled rfl ?_ ?_⟩
    · rintro ⟨c, hc, -⟩
      cases hc
    · rintro x rest ⟨⟩
      rfl
  · refine ⟨fun c hc => ?_, lists_speakerEnv (by decide), fun _ => ⟨?_, ?_⟩⟩
    · cases hc
    · exact fun h => absurd h (by decide)
    · exact fun h => absurd h (by decide)
  · refine ⟨fun c hc => ?_, lists_speakerEnv (by decide), ?_, fun _ => ⟨⟨by decide, ?_⟩, ?_⟩⟩
    · cases List.mem_singleton.mp hc
      decide
    · exact fun h => absurd h (by decide)
    · refine fun r hr => not_hasCounted_of_key ⟨32, 3, 0⟩ (fun k hk => ?_) hr 0
      exact (Function.update_of_ne hk _ _).trans ((Function.update_of_ne hk _ _).trans
        ((Function.update_of_ne hk _ _).trans (Function.update_of_ne hk _ _)))
    · exact fun h => absurd h (by decide)
  · intro c hc
    cases hc
    refine ⟨lists_speakerEnv (by decide), ⟨fun h => (nomatch h), ?_, ?_, ?_, ?_, ?_, ?_, ?_⟩⟩
    · exact fun _ h => nomatch h
    · exact fun _ h => nomatch h
    · exact fun _ h => absurd ⟨_, List.mem_cons_self, rfl⟩ h
    · exact fun _ _ h => nomatch h
    · exact fun _ _ h => nomatch h
    · exact fun h _ => absurd ⟨_, List.mem_cons_self, rfl⟩ h
    · rintro r x rest - ⟨⟩
      trivial
  · intro c hc
    cases hc
    refine ⟨lists_speakerEnv (by decide), .of_enabled rfl ?_ ?_⟩
    · rintro ⟨c, hc, -⟩
      cases hc
    · rintro x rest ⟨⟩
      rfl

/-- The first playback fails to set the reference, the second one sets it, and the first one stops:
the count of the second one is gone, and so is the reference. -/
def failedThenStopped : List EcInput :=
  [.registerDevice 32 0 0 speakerEnv, .registerDevice 3 1 0 speakerEnv,
    .answer 0 (-EINVAL) false speakerEnv, .registerDevice 3 2 0 speakerEnv,
    .answer 0 0 false speakerEnv, .deregisterDevice 3 1 0 speakerEnv, .answer 0 0 false speakerEnv]

end EcState

end AudioReachPal.Rm
