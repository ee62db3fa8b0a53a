import AudioReachPal.Rm.EcRefCount

/-!
# The visits of a call of an rx stream

When an rx stream starts or stops, its call comes to the tx streams one after the other and stops at
each one whose reference it has to set. Other calls run in between, so a state is described with
the visits that calls have still to make: a stream that starts is not counted yet where its call
has to come to, and one that stopped still is. A visit that is found as it should be keeps the
counts, and so does the loop.
-/

namespace AudioReachPal.Rm

open AudioReachPal.Lib

open pal_stream_type_t pal_stream_direction_t

namespace EcState

/-! ### The visits of a call -/

/-- The visits still to make when a call of the rx stream has also to come to the list. -/
def AwaitsWith (s : EcState) (r : DeviceId) (x : StreamId) (ec_on : Bool) (rest : List StreamId)
    (r' : DeviceId) (x' : StreamId) (on' : Bool) (t : StreamId) : Prop :=
  s.Awaits r' x' on' t ∨ r' = r ∧ x' = x ∧ on' = ec_on ∧ t ∈ rest

section

variable {cfg : EcConfig} {env : EcEnv} {s : EcState} {r : DeviceId} {x t : StreamId}
  {ec_on : Bool} {rest : List StreamId}

theorem awaitsWith_nil : s.AwaitsWith r x ec_on [] = s.Awaits := by
  funext r' x' on' t
  simp [AwaitsWith]

theorem Idle.not_awaits (h : s.Idle x) (r : DeviceId) (ec_on : Bool) (t : StreamId) :
    ¬s.Awaits r x ec_on t := by
  rintro ⟨c, hc, rest, -, hcaller, -⟩
  refine h c hc ?_
  unfold EcCall.requester
  rw [hcaller]

theorem awaitsWith_self (h : s.Idle x) {on' : Bool} :
    s.AwaitsWith r x ec_on rest r x on' t ↔ on' = ec_on ∧ t ∈ rest := by
  simp [AwaitsWith, h.not_awaits]

/-- A visit that was made is no longer awaited; the others still are. -/
theorem awaitsWith_cons_of_ne {r' : DeviceId} {x' u : StreamId} {on' : Bool}
    (hne : ¬(r' = r ∧ x' = x ∧ u = t)) :
    s.AwaitsWith r x ec_on (t :: rest) r' x' on' u ↔ s.AwaitsWith r x ec_on rest r' x' on' u := by
  unfold AwaitsWith
  refine or_congr_right ⟨?_, ?_⟩
  · rintro ⟨hr, hx, hon, hu⟩
    refine ⟨hr, hx, hon, (List.mem_cons.mp hu).resolve_left ?_⟩
    exact fun hu => hne ⟨hr, hx, hu⟩
  · rintro ⟨hr, hx, hon, hu⟩
    exact ⟨hr, hx, hon, List.mem_cons_of_mem _ hu⟩

/-- Handling depends on the registered devices and on the visits still to make at the stream. -/
theorem handled_congr {s' : EcState} {W W' : DeviceId → StreamId → Bool → StreamId → Prop}
    {k : EcKey} {y : StreamId} (hact : s'.active_devices = s.active_devices)
    (hW : ∀ on', W k.rx_dev y on' k.tx_str ↔ W' k.rx_dev y on' k.tx_str) :
    s.Handled cfg W k y ↔ s'.Handled cfg W' k y := by
  unfold Handled
  rw [hact, hW true, hW false]

variable {d : DeviceId}

theorem countRxStream_on (hdev : cfg.hasDevice d = true) :
    s.countRxStream cfg r x true d t =
      (((((s.ec_ref_count_map ⟨d, r, t⟩).getD 0 + 1 : ℕ) : ℤ)),
        { s with
          ec_ref_count_map := Function.update s.ec_ref_count_map ⟨d, r, t⟩
            (raised (s.ec_ref_count_map ⟨d, r, t⟩) 1)
          contributed := Function.update s.contributed ⟨d, r, t⟩
            (insert x (s.contributed ⟨d, r, t⟩))
          failed := Function.update s.failed ⟨d, r, t⟩ ((s.failed ⟨d, r, t⟩).erase x) }) := by
  unfold countRxStream
  simp [hdev, EcConfig.updateECDeviceMap_of_pos]

theorem countRxStream_off_none (hnone : s.ec_ref_count_map ⟨d, r, t⟩ = none) :
    s.countRxStream cfg r x false d t =
      (-EINVAL,
        { s with
          contributed := Function.update s.contributed ⟨d, r, t⟩
            ((s.contributed ⟨d, r, t⟩).erase x)
          failed := Function.update s.failed ⟨d, r, t⟩ ((s.failed ⟨d, r, t⟩).erase x) }) := by
  unfold countRxStream
  simp [EcConfig.updateECDeviceMap_none hnone]

theorem countRxStream_off (hdev : cfg.hasDevice d = true) :
    s.countRxStream cfg r x false d t =
      ((s.ec_ref_count_map ⟨d, r, t⟩).elim (-EINVAL) fun n => ((n - 1 : ℕ) : ℤ),
        { s with
          ec_ref_count_map := Function.update s.ec_ref_count_map ⟨d, r, t⟩
            (lowered (s.ec_ref_count_map ⟨d, r, t⟩))
          contributed := Function.update s.contributed ⟨d, r, t⟩
            ((s.contributed ⟨d, r, t⟩).erase x)
          failed := Function.update s.failed ⟨d, r, t⟩ ((s.failed ⟨d, r, t⟩).erase x) }) := by
  unfold countRxStream
  simp [hdev, EcConfig.updateECDeviceMap_zero]

variable {W W' : DeviceId → StreamId → Bool → StreamId → Prop} {s' : EcState} {k₀ : EcKey}

variable (k₀) in
/-- A change at one key: what is handled there is counted or failed, and elsewhere nothing is
different. -/
theorem Tallied.change_key (h : s.Tallied cfg W) (hact : s'.active_devices = s.active_devices)
    (hpend : s'.pending = s.pending)
    (hmap : ∀ k ≠ k₀, s'.ec_ref_count_map k = s.ec_ref_count_map k)
    (hcon : ∀ k ≠ k₀, s'.contributed k = s.contributed k)
    (hfail : ∀ k ≠ k₀, s'.failed k = s.failed k)
    (hsub : ∀ r x on' t, W' r x on' t → W r x on' t)
    (hsame : ∀ k y, cfg.direction k.tx_str = PAL_AUDIO_INPUT → (k, y) ≠ (k₀, x) →
      (s.Handled cfg W k y ↔ s'.Handled cfg W' k y))
    (hcount : Counts (s'.ec_ref_count_map k₀) (s'.contributed k₀))
    (hdisj : ∀ y ∈ s'.contributed k₀, y ∉ s'.failed k₀)
    (hhandled : ∀ y, y ∈ s'.contributed k₀ ∨ y ∈ s'.failed k₀ ↔ s'.Handled cfg W' k₀ y) :
    s'.Tallied cfg W' where
  nodup := hact ▸ h.nodup
  one_tx := hact ▸ h.one_tx
  counts k hk := by
    by_cases hne : k = k₀
    · rw [hne]
      exact hcount
    · rw [hmap k hne, hcon k hne]
      exact h.counts k hk
  disjoint k y hy := by
    by_cases hne : k = k₀
    · rw [hne] at hy ⊢
      exact hdisj y hy
    · rw [hcon k hne] at hy
      rw [hfail k hne]
      exact h.disjoint k y hy
  handled k y hk := by
    by_cases hne : k = k₀
    · rw [hne]
      exact hhandled y
    · rw [hcon k hne, hfail k hne, h.handled k y hk]
      exact hsame k y hk fun heq => hne (Prod.mk.inj heq).1
  starting r y t hw := hact ▸ h.starting r y t (hsub _ _ _ _ hw)
  stopping r y t hw := hact ▸ h.stopping r y t (hsub _ _ _ _ hw)
  rx r y on' t hw := h.rx r y on' t (hsub _ _ _ _ hw)
  tx r y on' t hw := h.tx r y on' t (hsub _ _ _ _ hw)
  refers r y on' t d hw hd := h.refers r y on' t d (hsub _ _ _ _ hw) (hact ▸ hd)
  calls := hpend ▸ h.calls
  requesters := hpend ▸ h.requesters
  rests := hpend ▸ h.rests

variable (k₀) in
/-- A change at one key of who of the handled streams failed. -/
theorem Tallied.reassign (h : s.Tallied cfg W) (hk₀ : cfg.direction k₀.tx_str = PAL_AUDIO_INPUT)
    (hact : s'.active_devices = s.active_devices) (hpend : s'.pending = s.pending)
    (hmap : ∀ k ≠ k₀, s'.ec_ref_count_map k = s.ec_ref_count_map k)
    (hcon : ∀ k ≠ k₀, s'.contributed k = s.contributed k)
    (hfail : ∀ k ≠ k₀, s'.failed k = s.failed k)
    (hcount : Counts (s'.ec_ref_count_map k₀) (s'.contributed k₀))
    (hdisj : ∀ y ∈ s'.contributed k₀, y ∉ s'.failed k₀)
    (hsame : ∀ y, y ∈ s'.contributed k₀ ∨ y ∈ s'.failed k₀ ↔
      y ∈ s.contributed k₀ ∨ y ∈ s.failed k₀) : s'.Tallied cfg W := by
  have hhandled : ∀ k y, s.Handled cfg W k y ↔ s'.Handled cfg W k y :=
    fun k y => handled_congr hact fun _ => Iff.rfl
  refine h.change_key k₀ (x := 0) hact hpend hmap hcon hfail (fun _ _ _ _ hw => hw)
    (fun k y _ _ => hhandled k y) hcount hdisj fun y => ?_
  rw [hsame, h.handled _ _ hk₀]
  exact hhandled k₀ y

/-- A visit changes what is handled for that rx stream at that key only. -/
theorem handled_visit (honly : ∀ d', (d', t) ∈ s.active_devices → d' = d) {k : EcKey} {y : StreamId}
    (hne : (k, y) ≠ (⟨d, r, t⟩, x)) (hact : s'.active_devices = s.active_devices) :
    s.Handled cfg (s.AwaitsWith r x ec_on (t :: rest)) k y ↔
      s'.Handled cfg (s.AwaitsWith r x ec_on rest) k y := by
  by_cases hkr : (k.tx_dev, k.tx_str) ∈ s.active_devices
  · refine handled_congr hact fun on' => awaitsWith_cons_of_ne ?_
    rintro ⟨hr, rfl, ht⟩
    -- the stream runs on one device, so this is the key of the visit
    have hd : k.tx_dev = d := honly _ (ht ▸ hkr)
    apply hne
    rw [← hd, ← hr, ← ht]
  · refine iff_of_false (fun hh => hkr hh.1) fun hh => hkr ?_
    rw [← hact]
    exact hh.1

theorem awaitsWith_tail {r' : DeviceId} {x' u : StreamId} {on' : Bool}
    (h : s.AwaitsWith r x ec_on rest r' x' on' u) :
    s.AwaitsWith r x ec_on (t :: rest) r' x' on' u := by
  rcases h with h | ⟨hr, hx, hon, hu⟩
  · exact Or.inl h
  · exact Or.inr ⟨hr, hx, hon, List.mem_cons_of_mem _ hu⟩

theorem awaitsWith_head : s.AwaitsWith r x ec_on (t :: rest) r x ec_on t :=
  Or.inr ⟨rfl, rfl, rfl, List.mem_cons_self⟩

/-- An rx stream that starts comes to a tx stream that runs. -/
theorem Tallied.visit_on (h : s.Tallied cfg (s.AwaitsWith r x true (t :: rest)))
    (hnd : t ∉ rest) (hidle : s.Idle x) (honly : ∀ d', (d', t) ∈ s.active_devices → d' = d)
    (hec : cfg.getECEnableSetting d t = true) (hreg : (d, t) ∈ s.active_devices) :
    (s.countRxStream cfg r x true d t).2.Tallied cfg (s.AwaitsWith r x true rest) := by
  have href := h.refers r x true t d awaitsWith_head hreg
  have hdir := EcConfig.direction_of_isTxStream (h.tx r x true t awaitsWith_head)
  have hx : (r, x) ∈ s.active_devices := h.starting r x t awaitsWith_head
  -- the visit was still to make, so the stream is neither counted nor failed there
  have hnot : ¬(x ∈ s.contributed ⟨d, r, t⟩ ∨ x ∈ s.failed ⟨d, r, t⟩) := by
    rw [h.handled _ _ hdir]
    rintro ⟨-, -, ⟨-, hw⟩ | ⟨hx', -⟩⟩
    · exact hw awaitsWith_head
    · exact hx' hx
  obtain ⟨hcon, hfail⟩ := not_or.mp hnot
  rw [countRxStream_on (EcConfig.hasDevice_of_refersTo href)]
  refine h.change_key ⟨d, r, t⟩ (x := x) rfl rfl (fun k hk => ?_) (fun k hk => ?_)
    (fun k hk => ?_) (fun _ _ _ _ => awaitsWith_tail) (fun k y _ hne => ?_) ?_ ?_ ?_
  · exact Function.update_of_ne hk _ _
  · exact Function.update_of_ne hk _ _
  · exact Function.update_of_ne hk _ _
  · exact handled_visit honly hne rfl
  · simpa using (h.counts _ hdir).join_one hcon
  · intro y hy
    simp only [Function.update_self, Finset.mem_insert, Finset.mem_erase] at hy ⊢
    rcases hy with rfl | hy
    · simp
    · exact fun hf => h.disjoint _ _ hy hf.2
  · intro y
    simp only [Function.update_self, Finset.mem_insert, Finset.mem_erase]
    by_cases hyx : y = x
    · subst hyx
      refine iff_of_true (Or.inl (Or.inl rfl)) ⟨hreg, ?_, Or.inl ⟨hx, ?_⟩⟩
      · exact EcConfig.eligible_iff.mpr ⟨href, hec⟩
      · rw [awaitsWith_self hidle]
        exact fun hw => hnd hw.2
    · refine Iff.trans ?_ (handled_visit honly (by simp [hyx]) rfl)
      rw [← h.handled _ _ hdir]
      simp [hyx]

/-- Where a stream that stopped comes to, it is counted or failed if the tx stream runs, and no rx
stream is if not. -/
theorem Tallied.handled_off (h : s.Tallied cfg (s.AwaitsWith r x false (t :: rest)))
    (hec : cfg.getECEnableSetting d t = true) :
    s.Handled cfg (s.AwaitsWith r x false (t :: rest)) ⟨d, r, t⟩ x ↔ (d, t) ∈ s.active_devices := by
  refine ⟨fun hh => hh.1, fun hreg => ⟨hreg, ?_, Or.inr ⟨?_, awaitsWith_head⟩⟩⟩
  · exact EcConfig.eligible_iff.mpr ⟨h.refers r x false t d awaitsWith_head hreg, hec⟩
  · exact h.stopping r x t awaitsWith_head

/-- What leaves the count of the visit exact. -/
theorem Tallied.counts_off (h : s.Tallied cfg (s.AwaitsWith r x false (t :: rest)))
    (hec : cfg.getECEnableSetting d t = true)
    (hok : x ∈ s.failed ⟨d, r, t⟩ → s.contributed ⟨d, r, t⟩ = ∅) :
    x ∈ s.contributed ⟨d, r, t⟩ ∧ (d, t) ∈ s.active_devices ∨ s.contributed ⟨d, r, t⟩ = ∅ := by
  have hdir := EcConfig.direction_of_isTxStream (h.tx r x false t awaitsWith_head)
  by_cases hreg : (d, t) ∈ s.active_devices
  · rcases (h.handled _ _ hdir).mpr ((h.handled_off hec).mpr hreg) with hcon | hfail
    · exact Or.inl ⟨hcon, hreg⟩
    · exact Or.inr (hok hfail)
  · refine Or.inr (Finset.eq_empty_of_forall_notMem fun y hy => hreg ?_)
    exact ((h.handled _ _ hdir).mp (Or.inl hy)).1

/-- An rx stream that stopped comes to a tx stream. -/
theorem Tallied.visit_off (h : s.Tallied cfg (s.AwaitsWith r x false (t :: rest)))
    (hnd : t ∉ rest) (hidle : s.Idle x) (honly : ∀ d', (d', t) ∈ s.active_devices → d' = d)
    (hec : cfg.getECEnableSetting d t = true)
    (hok : x ∈ s.failed ⟨d, r, t⟩ → s.contributed ⟨d, r, t⟩ = ∅) :
    (s.countRxStream cfg r x false d t).2.Tallied cfg (s.AwaitsWith r x false rest) := by
  have hdir := EcConfig.direction_of_isTxStream (h.tx r x false t awaitsWith_head)
  have hx : (r, x) ∉ s.active_devices := h.stopping r x t awaitsWith_head
  have hcounts := h.counts ⟨d, r, t⟩ hdir
  have hcase := h.counts_off hec hok
  have hleave : Counts (lowered (s.ec_ref_count_map ⟨d, r, t⟩))
      ((s.contributed ⟨d, r, t⟩).erase x) := hcounts.leave (hcase.imp_left And.left)
  -- the entry after the visit, whether the device is known or not
  have hmap : (s.countRxStream cfg r x false d t).2.ec_ref_count_map =
      Function.update s.ec_ref_count_map ⟨d, r, t⟩ (lowered (s.ec_ref_count_map ⟨d, r, t⟩)) := by
    rcases hcase with ⟨-, hreg⟩ | hempty
    · have href := h.refers r x false t d awaitsWith_head hreg
      rw [countRxStream_off (EcConfig.hasDevice_of_refersTo href)]
    · have hnone := hcounts.eq_none_iff.mpr hempty
      rw [countRxStream_off_none hnone]
      have hsame : lowered (s.ec_ref_count_map ⟨d, r, t⟩) = s.ec_ref_count_map ⟨d, r, t⟩ := by
        rw [hnone]
        rfl
      rw [hsame, Function.update_eq_self]
  refine h.change_key ⟨d, r, t⟩ (x := x) rfl rfl (fun k hk => ?_) (fun k hk => ?_)
    (fun k hk => ?_) (fun _ _ _ _ => awaitsWith_tail) (fun k y _ hne => ?_) ?_ ?_ ?_
  · rw [hmap]
    exact Function.update_of_ne hk _ _
  · exact Function.update_of_ne hk _ _
  · exact Function.update_of_ne hk _ _
  · exact handled_visit honly hne rfl
  · rw [hmap]
    simpa [countRxStream] using hleave
  · intro y hy
    simp only [countRxStream, Function.update_self, Bool.false_and, Bool.false_eq_true, if_false,
      Finset.mem_erase] at hy ⊢
    exact fun hf => h.disjoint _ _ hy.2 hf.2
  · intro y
    simp only [countRxStream, Function.update_self, Bool.false_and, Bool.false_eq_true, if_false,
      Finset.mem_erase]
    by_cases hyx : y = x
    · subst hyx
      refine iff_of_false (by simp) ?_
      rintro ⟨-, -, ⟨hx', -⟩ | ⟨-, hw⟩⟩
      · exact hx hx'
      · exact hnd ((awaitsWith_self hidle).mp hw).2
    · refine Iff.trans ?_ (handled_visit honly (by simp [hyx]) rfl)
      rw [← h.handled _ _ hdir]
      simp [hyx]

variable (k₀) in
theorem hasCounted_congr (hcon : ∀ k ≠ k₀, s'.contributed k = s.contributed k)
    (hkey : (s'.contributed k₀).Nonempty ↔ (s.contributed k₀).Nonempty) (u : StreamId)
    (r' : DeviceId) : s'.HasCounted u r' ↔ s.HasCounted u r' := by
  unfold HasCounted
  refine exists_congr fun d' => ?_
  by_cases hk : (⟨d', r', u⟩ : EcKey) = k₀
  · rw [hk]
    exact hkey
  · rw [hcon _ hk]

theorem hasCounted_of_ne {u : StreamId} (hu : u ≠ t)
    (hcon : ∀ k, k.tx_str ≠ t → s'.contributed k = s.contributed k) (r' : DeviceId) :
    s'.HasCounted u r' ↔ s.HasCounted u r' := by
  unfold HasCounted
  refine exists_congr fun d' => ?_
  rw [hcon _ hu]

/-- A visit that needs no call leaves the devices that are counted. -/
theorem Tallied.hasCounted_visit (h : s.Tallied cfg (s.AwaitsWith r x ec_on (t :: rest)))
    (hec : cfg.getECEnableSetting d t = true) (hok : s.RxVisitOk r x ec_on d t)
    (hres : (s.countRxStream cfg r x ec_on d t).1 ≠ if ec_on = true then 1 else 0)
    (u : StreamId) (r' : DeviceId) :
    (s.countRxStream cfg r x ec_on d t).2.HasCounted u r' ↔ s.HasCounted u r' := by
  have hdir := EcConfig.direction_of_isTxStream (h.tx r x ec_on t awaitsWith_head)
  have hcounts := h.counts ⟨d, r, t⟩ hdir
  refine hasCounted_congr ⟨d, r, t⟩ (fun k hk => Function.update_of_ne hk _ _) ?_ u r'
  cases ec_on with
  | true =>
    have hreg : (d, t) ∈ s.active_devices := hok.1
    have href := h.refers r x true t d awaitsWith_head hreg
    rw [countRxStream_on (EcConfig.hasDevice_of_refersTo href)] at hres ⊢
    refine iff_of_true (by simp) (Finset.card_pos.mp ?_)
    -- the count was not zero before
    have hcard : (s.ec_ref_count_map ⟨d, r, t⟩).getD 0 = (s.contributed ⟨d, r, t⟩).card := by
      rw [hcounts, entry_getD]
    rw [hcard] at hres
    simp only [if_true] at hres
    omega
  | false =>
    have hok' : x ∈ s.failed ⟨d, r, t⟩ → s.contributed ⟨d, r, t⟩ = ∅ := hok
    rcases h.counts_off hec hok' with ⟨hcon, hreg⟩ | hempty
    · have href := h.refers r x false t d awaitsWith_head hreg
      have hpos : 0 < (s.contributed ⟨d, r, t⟩).card := Finset.card_pos.mpr ⟨x, hcon⟩
      rw [countRxStream_off (EcConfig.hasDevice_of_refersTo href)] at hres ⊢
      refine iff_of_true (Finset.card_pos.mp ?_) ⟨x, hcon⟩
      -- others are counted besides the one that left
      rw [hcounts, entry_of_pos hpos] at hres
      simp only [Option.elim_some, Bool.false_eq_true, if_false] at hres
      simp only [Function.update_self]
      rw [Finset.card_erase_of_mem hcon]
      omega
    · simp [countRxStream, hempty]

/-- A visit that needs a call leaves the device counted that the call is made for, and no other
one. -/
theorem Tallied.hasCounted_call (h : s.Tallied cfg (s.AwaitsWith r x ec_on (t :: rest)))
    (htarget : s.Targeted t) (honly : ∀ d', (d', t) ∈ s.active_devices → d' = d)
    (hec : cfg.getECEnableSetting d t = true) (hok : s.RxVisitOk r x ec_on d t)
    (hres : (s.countRxStream cfg r x ec_on d t).1 = if ec_on = true then 1 else 0)
    (r' : DeviceId) :
    (if ec_on = true then some r else none) = some r' ↔
      (s.countRxStream cfg r x ec_on d t).2.HasCounted t r' := by
  have hdir := EcConfig.direction_of_isTxStream (h.tx r x ec_on t awaitsWith_head)
  cases ec_on with
  | true =>
    obtain ⟨hreg, hother⟩ : (d, t) ∈ s.active_devices ∧ ∀ r' ≠ r, ¬s.HasCounted t r' := hok
    have href := h.refers r x true t d awaitsWith_head hreg
    rw [countRxStream_on (EcConfig.hasDevice_of_refersTo href), if_pos rfl, Option.some.injEq]
    constructor
    · rintro rfl
      exact ⟨d, x, by simp⟩
    · rintro ⟨d', hcon⟩
      by_contra hne
      refine hother r' (Ne.symm hne) ⟨d', ?_⟩
      dsimp only at hcon
      rwa [Function.update_of_ne fun heq => hne (EcKey.mk.inj heq).2.1.symm] at hcon
  | false =>
    have hok' : x ∈ s.failed ⟨d, r, t⟩ → s.contributed ⟨d, r, t⟩ = ∅ := hok
    have hcounts := h.counts ⟨d, r, t⟩ hdir
    rw [if_neg Bool.false_ne_true]
    refine iff_of_false (fun heq => nomatch heq) ?_
    rintro ⟨d', hleft⟩
    rcases h.counts_off hec hok' with ⟨hcon, hreg⟩ | hempty
    · have hpos : 0 < (s.contributed ⟨d, r, t⟩).card := Finset.card_pos.mpr ⟨x, hcon⟩
      have href := h.refers r x false t d awaitsWith_head hreg
      rw [countRxStream_off (EcConfig.hasDevice_of_refersTo href)] at hres hleft
      rw [hcounts, entry_of_pos hpos] at hres
      simp only [Option.elim_some, Bool.false_eq_true, if_false] at hres
      -- it was the only one that was counted for the device
      have hnone : (s.contributed ⟨d, r, t⟩).erase x = ∅ := by
        rw [← Finset.card_eq_zero, Finset.card_erase_of_mem hcon]
        omega
      by_cases hk : (⟨d', r', t⟩ : EcKey) = ⟨d, r, t⟩
      · rw [hk] at hleft
        dsimp only at hleft
        rw [Function.update_self, hnone] at hleft
        exact Finset.not_nonempty_empty hleft
      · dsimp only at hleft
        rw [Function.update_of_ne hk] at hleft
        -- the tx stream runs on one device, and is asked to have one reference
        obtain ⟨y, hy⟩ := hleft
        have hd : d' = d := honly d' ((h.handled _ _ hdir).mp (Or.inl hy)).1
        have hr : some r' = some r :=
          ((htarget r').mpr ⟨d', y, hy⟩).symm.trans ((htarget r).mpr ⟨d, x, hcon⟩)
        exact hk (by rw [hd, Option.some.inj hr])
    · rw [countRxStream_off_none (hcounts.eq_none_iff.mpr hempty)] at hres
      have hnone : -EINVAL = 0 := hres
      exact absurd hnone (by decide)

/-! ### The loop of a call -/

theorem visitedTxDevice_eq_some (h : visitedTxDevice cfg env t = some d) :
    (env.getAssociatedDevices t).head? = some d ∧ cfg.getECEnableSetting d t = true := by
  unfold visitedTxDevice at h
  split at h
  · cases h
  · exact Option.filter_eq_some_iff.mp h

theorem visitedTxDevice_of_registered (hl : env.Lists cfg s) (hreg : (d, t) ∈ s.active_devices)
    (hdir : cfg.direction t = PAL_AUDIO_INPUT) :
    visitedTxDevice cfg env t = if cfg.getECEnableSetting d t then some d else none := by
  obtain ⟨hmem, hdevs⟩ := hl.tx d t hreg hdir
  unfold visitedTxDevice
  simp [hmem, hdevs, Option.filter]

/-- A tx stream that is passed over has nothing to count. -/
theorem Tallied.pass_over (h : s.Tallied cfg (s.AwaitsWith r x ec_on (t :: rest)))
    (hpass : ∀ d, (d, t) ∈ s.active_devices → cfg.getECEnableSetting d t = false) :
    s.Tallied cfg (s.AwaitsWith r x ec_on rest) where
  nodup := h.nodup
  one_tx := h.one_tx
  counts := h.counts
  disjoint := h.disjoint
  handled k y hk := by
    rw [h.handled k y hk]
    by_cases ht : k.tx_str = t
    · have hoff : ¬((k.tx_dev, k.tx_str) ∈ s.active_devices ∧ cfg.eligible k y = true) := by
        rintro ⟨hreg, hel⟩
        have hset := (EcConfig.eligible_iff.mp hel).2
        rw [ht] at hreg hset
        rw [hpass _ hreg] at hset
        cases hset
      exact iff_of_false (fun hh => hoff ⟨hh.1, hh.2.1⟩) fun hh => hoff ⟨hh.1, hh.2.1⟩
    · exact handled_congr rfl fun on' => awaitsWith_cons_of_ne fun heq => ht heq.2.2
  starting r y t hw := h.starting r y t (awaitsWith_tail hw)
  stopping r y t hw := h.stopping r y t (awaitsWith_tail hw)
  rx r y on' t hw := h.rx r y on' t (awaitsWith_tail hw)
  tx r y on' t hw := h.tx r y on' t (awaitsWith_tail hw)
  refers r y on' t d hw := h.refers r y on' t d (awaitsWith_tail hw)
  calls := h.calls
  requesters := h.requesters
  rests := h.rests

/-- The visits that are still to make when one more call waits. -/
theorem awaits_push {c : EcCall} {r' : DeviceId} {y u : StreamId} {on' : Bool} :
    { s with pending := s.pending ++ [c] }.Awaits r' y on' u ↔ s.Awaits r' y on' u ∨
      ∃ rest, c.rx_dev = some r' ∧ c.caller = .rx y rest ∧ c.ec_on = on' ∧ u ∈ rest := by
  unfold Awaits
  simp only [List.mem_append, List.mem_singleton, or_and_right, exists_or, exists_eq_left]

theorem Tallied.push (h : s.Tallied cfg W) {c : EcCall} (hidle : s.Idle c.requester)
    (htx : cfg.isTxStream c.tx_str = true) (hnd : ∀ x rest, c.caller = .rx x rest → rest.Nodup) :
    { s with pending := s.pending ++ [c] }.Tallied cfg W := by
  refine ⟨h.nodup, h.one_tx, h.counts, h.disjoint, h.handled, h.starting, h.stopping, h.rx,
    h.tx, h.refers, ?_, ?_, ?_⟩
  · intro e he
    rcases List.mem_append.mp he with he | he
    · exact h.calls e he
    · rw [List.mem_singleton.mp he]
      exact htx
  · rw [List.map_append, List.nodup_append]
    refine ⟨h.requesters, by simp, ?_⟩
    rintro a ha b hb rfl
    obtain ⟨e, he, rfl⟩ := List.mem_map.mp ha
    exact hidle e he (by simpa using hb)
  · intro e he y rest hey
    rcases List.mem_append.mp he with he | he
    · exact h.rests e he y rest hey
    · rw [List.mem_singleton.mp he] at hey
      exact hnd y rest hey

/-- A call that waits in the loop for a tx stream, with the visits that it has still to make. -/
theorem Tallied.push_rx (h : s.Tallied cfg (s.AwaitsWith r x ec_on rest)) (hidle : s.Idle x)
    (hnd : rest.Nodup) {c : EcCall} (hrx : c.rx_dev = some r) (hcaller : c.caller = .rx x rest)
    (hon : c.ec_on = ec_on) (htx : cfg.isTxStream c.tx_str = true) :
    { s with pending := s.pending ++ [c] }.Tallied cfg
      { s with pending := s.pending ++ [c] }.Awaits := by
  have hreq : c.requester = x := by
    unfold EcCall.requester
    rw [hcaller]
  have hW : { s with pending := s.pending ++ [c] }.Awaits = s.AwaitsWith r x ec_on rest := by
    funext r' x' on' u
    rw [awaits_push, hrx, hcaller, hon]
    refine propext (or_congr_right ⟨?_, ?_⟩)
    · rintro ⟨_, ⟨⟩, ⟨⟩, rfl, hu⟩
      exact ⟨rfl, rfl, rfl, hu⟩
    · rintro ⟨rfl, rfl, rfl, hu⟩
      exact ⟨rest, rfl, rfl, rfl, hu⟩
  rw [hW]
  refine h.push (hreq ▸ hidle) htx fun y rest' hey => ?_
  rw [hcaller] at hey
  cases hey
  exact hnd

/-- The call of a tx stream waits for no other tx stream. -/
theorem Tallied.push_tx (h : s.Tallied cfg s.Awaits) {c : EcCall} (hidle : s.Idle c.tx_str)
    {counted : Finset StreamId} (hcaller : c.caller = .tx counted)
    (htx : cfg.isTxStream c.tx_str = true) :
    { s with pending := s.pending ++ [c] }.Tallied cfg
      { s with pending := s.pending ++ [c] }.Awaits := by
  have hreq : c.requester = c.tx_str := by
    unfold EcCall.requester
    rw [hcaller]
  have hW : { s with pending := s.pending ++ [c] }.Awaits = s.Awaits := by
    funext r' x' on' u
    rw [awaits_push, hcaller]
    refine propext (or_iff_left ?_)
    rintro ⟨_, -, ⟨⟩, -⟩
  rw [hW]
  refine h.push (hreq ▸ hidle) htx fun y rest hey => ?_
  rw [hcaller] at hey
  cases hey

theorem target_push {c : EcCall} {u : StreamId} :
    { s with pending := s.pending ++ [c] }.target u =
      if c.tx_str = u then c.wants else s.target u := by
  unfold target
  rw [asked_append]
  rfl

/-- The call that is made last decides for its tx stream. -/
theorem targeted_push {c : EcCall} {u : StreamId} (hother : u ≠ c.tx_str → s.Targeted u)
    (hself : ∀ r, c.wants = some r ↔ s.HasCounted c.tx_str r) :
    { s with pending := s.pending ++ [c] }.Targeted u := by
  intro r
  rw [target_push]
  split
  next hu =>
    subst hu
    exact hself r
  next hu => exact hother (Ne.symm hu) r

/-- **The loop.** The call of an rx stream that finds every tx stream as it should keeps the
counts. -/
theorem inv_loop (hdev : ∀ d t, (d, t) ∈ s.active_devices → cfg.direction t = PAL_AUDIO_INPUT →
      visitedTxDevice cfg env t = if cfg.getECEnableSetting d t then some d else none)
    (h : s.Tallied cfg (s.AwaitsWith r x ec_on rest))
    (htarget : ∀ t, cfg.direction t = PAL_AUDIO_INPUT → s.Targeted t) (hnd : rest.Nodup)
    (hidle : s.Idle x) (hok : RxLoopOk cfg env r x ec_on s rest) :
    (checkandEnableECForRXStreamLoop cfg env r x ec_on s rest).Inv cfg := by
  induction rest generalizing s with
  | nil =>
    rw [awaitsWith_nil] at h
    exact ⟨h, htarget⟩
  | cons t rest ih =>
    obtain ⟨htrest, hnd⟩ := List.nodup_cons.mp hnd
    have htx := h.tx r x ec_on t awaitsWith_head
    have hdir := EcConfig.direction_of_isTxStream htx
    unfold RxLoopOk at hok
    unfold checkandEnableECForRXStreamLoop
    cases hvis : visitedTxDevice cfg env t with
    | none =>
      rw [hvis] at hok
      refine ih hdev (h.pass_over fun d hreg => ?_) htarget hnd hidle hok
      have hd := hdev d t hreg hdir
      rw [hvis] at hd
      simpa using hd
    | some d =>
      rw [hvis] at hok
      obtain ⟨hvok, hrest⟩ := hok
      have hec := (visitedTxDevice_eq_some hvis).2
      have honly : ∀ d', (d', t) ∈ s.active_devices → d' = d := by
        intro d' hreg
        have hd := hdev d' t hreg hdir
        rw [hvis] at hd
        split at hd
        · exact (Option.some.inj hd).symm
        · cases hd
      have hidle' : (s.countRxStream cfg r x ec_on d t).2.Idle x := hidle
      have hvisit : (s.countRxStream cfg r x ec_on d t).2.Tallied cfg
          ((s.countRxStream cfg r x ec_on d t).2.AwaitsWith r x ec_on rest) := by
        cases ec_on with
        | true => exact h.visit_on htrest hidle honly hec hvok.1
        | false => exact h.visit_off htrest hidle honly hec hvok
      dsimp only
      by_cases hres : (s.countRxStream cfg r x ec_on d t).1 ≠ if ec_on = true then 1 else 0
      · rw [if_pos hres]
        refine ih hdev hvisit (fun u hu r' => ?_) hnd hidle' (hrest hres)
        rw [h.hasCounted_visit hec hvok hres]
        exact htarget u hu r'
      · rw [if_neg hres]
        refine ⟨hvisit.push_rx hidle' hnd rfl rfl rfl htx, fun u hu => targeted_push ?_ ?_⟩
        · intro hne r'
          rw [hasCounted_of_ne (s := s) hne fun k hk =>
            Function.update_of_ne (fun heq => hk (by rw [heq])) _ _]
          exact htarget u hu r'
        · exact h.hasCounted_call (htarget t hdir) honly hec hvok (not_not.mp hres)

end

end EcState

end AudioReachPal.Rm
