import AudioReachPal.ACD.ContextNeed

/-!
# The strictest need of the streams

A call is right for the maps when it is right for each context of them. Adding a stream only lowers
the entries, a removal has them computed again, and an update only lowers them: the condition on the
configs says for each call when that is enough.
-/

namespace AudioReachPal.ACD

open AudioReachPal.Lib

variable {s : StreamId} {get : stream_context_info → ℕ} {current info : stream_context_info}

/-! ### Adding a stream -/

theorem lower_reports {a b : stream_context_info} (h : (lower a b).1.values ≠ a.values) :
    (lower a b).2 = true := by
  rw [lower_updated]
  by_contra hnot
  refine h (Prod.ext ?_ ?_)
  · show (lower a b).1.threshold = a.threshold
    rw [lower_threshold]
    omega
  · show (lower a b).1.step_size = a.step_size
    rw [lower_step_size]
    omega

section Steps

variable {sys : InfoSystem} {recog_cfg : List acd_per_context_cfg} (hsys : sys.Registers)

/-- The engine as a call finds it. -/
def InfoSystem.start (sys : InfoSystem) : EventInfo :=
  { sys.e with is_confidence_value_updated_ := false, overread := false }

theorem eq_of_mem (hcfg : ValidConfig recog_cfg) {a b : acd_per_context_cfg} (ha : a ∈ recog_cfg)
    (hb : b ∈ recog_cfg) (hc : a.context_id = b.context_id) : a = b :=
  List.inj_on_of_nodup_map hcfg.1 ha hb hc

include hsys

theorem add_entries (hcfg : ValidConfig recog_cfg)
    (hfits : ∀ old ∈ sys.configs s, old ∈ recog_cfg) :
    Entries (sys.start.addEventInfoForStream s recog_cfg).contextinfo_stream_map_
      (Function.update sys.configs s recog_cfg) := by
  intro t cfg
  by_cases hts : t = s
  · subst hts
    rw [Function.update_self]
    cases hold : sys.e.contextinfo_stream_map_.info t cfg.context_id with
    | some old =>
      rw [EventInfo.add_info_of_some t sys.start hold hcfg, ← hold, hsys.entries t cfg]
      refine ⟨hfits cfg, fun hmem => ?_⟩
      -- the stream's old entry is for the same config
      have hmem' : ⟨cfg.context_id, old.threshold, old.step_size⟩ ∈ sys.configs t :=
        (hsys.entries t _).mp ⟨old, hold, rfl, rfl⟩
      rwa [eq_of_mem hcfg hmem (hfits _ hmem') rfl]
    | none =>
      constructor
      · rintro ⟨info, hinfo, hthreshold, hstep⟩
        by_cases hc : cfg.context_id ∈ recog_cfg.map acd_per_context_cfg.context_id
        · obtain ⟨cfg', hmem, heq⟩ := List.mem_map.mp hc
          rw [← heq] at hinfo hold
          rw [EventInfo.add_info_of_none t sys.start hold hcfg hmem] at hinfo
          cases hinfo
          have hsame : cfg' = cfg := by
            cases cfg
            cases cfg'
            simp_all [acd_per_context_cfg.info]
          rwa [← hsame]
        · rw [EventInfo.add_info_of_notMem t sys.start hcfg hc] at hinfo
          rw [show sys.start.contextinfo_stream_map_ = sys.e.contextinfo_stream_map_ from rfl,
            hold] at hinfo
          cases hinfo
      · intro hmem
        exact ⟨cfg.info, EventInfo.add_info_of_none t sys.start hold hcfg hmem, rfl, rfl⟩
  · rw [Function.update_of_ne hts, ← hsys.entries t cfg,
      EventInfo.add_info_other s sys.start hts hcfg]
    rfl

theorem add_minimal (hcfg : ValidConfig recog_cfg)
    (hfits : ∀ old ∈ sys.configs s, old ∈ recog_cfg) (c : ContextId) :
    (sys.start.addEventInfoForStream s recog_cfg).MinimalAt c := by
  have hminimal := (registers_iff.mp hsys).2 c
  by_cases hc : c ∈ recog_cfg.map acd_per_context_cfg.context_id
  · obtain ⟨cfg, hmem, rfl⟩ := List.mem_map.mp hc
    have hentry := congrArg Prod.snd (EventInfo.add_of_mem s sys.start hcfg hmem)
    have hself := (add_entries hsys hcfg hfits s cfg).mpr (by rwa [Function.update_self])
    obtain ⟨info, hinfo, hthreshold, hstep⟩ := hself
    refine cast (congrArg (Minimal _) hentry.symm) (hminimal.add (s := s) ?_ ?_ ?_)
    · exact ⟨info, hinfo, Prod.ext hthreshold hstep⟩
    · exact fun t hts => EventInfo.add_info_other s sys.start hts hcfg _
    · exact fun old hold => EventInfo.add_info_of_some s sys.start hold hcfg
  · exact hminimal.congr (EventInfo.add_of_notMem s sys.start hcfg hc)

omit hsys in
theorem add_reported (hcfg : ValidConfig recog_cfg) (c : ContextId)
    (hne : ((sys.start.addEventInfoForStream s recog_cfg).cumulative_contextinfo_map_[c]?).map
      stream_context_info.values ≠
        (sys.e.cumulative_contextinfo_map_[c]?).map stream_context_info.values) :
    (sys.start.addEventInfoForStream s recog_cfg).is_confidence_value_updated_ = true := by
  by_cases hc : c ∈ recog_cfg.map acd_per_context_cfg.context_id
  · obtain ⟨cfg, hmem, rfl⟩ := List.mem_map.mp hc
    refine EventInfo.add_updated s sys.start hcfg hmem ?_
    have hentry := congrArg Prod.snd (EventInfo.add_of_mem s sys.start hcfg hmem)
    change (sys.start.addEventInfoForStream s recog_cfg).cumulative_contextinfo_map_[cfg.context_id]? =
      some (sys.e.cumulative_contextinfo_map_[cfg.context_id]?.elim _ _) at hentry
    change sys.e.cumulative_contextinfo_map_[cfg.context_id]?.elim _ _ = true
    cases hcum : sys.e.cumulative_contextinfo_map_[cfg.context_id]? with
    | none => rfl
    | some current =>
      rw [hcum] at hentry hne
      rw [hentry] at hne
      exact lower_reports fun heq => hne (congrArg some heq)
  · have hentry := congrArg Prod.snd (EventInfo.add_of_notMem s sys.start hcfg hc)
    exact absurd (congrArg (Option.map stream_context_info.values) hentry) hne

/-- **Adding.** A stream is added right when it keeps the entries it has. -/
theorem add_iff (hcfg : ValidConfig recog_cfg) :
    RegistersStrictest sys (.addEventInfoForStream s recog_cfg) ↔
      sys.Fits (.addEventInfoForStream s recog_cfg) := by
  constructor
  · intro h old hold
    obtain ⟨info, hinfo, hvalues⟩ := (hsys.entries s old).mpr hold
    have hmem := (h.registers.entries s old).mp
      ⟨info, EventInfo.add_info_of_some s sys.start hinfo hcfg, hvalues⟩
    change old ∈ Function.update sys.configs s recog_cfg s at hmem
    rwa [Function.update_self] at hmem
  · intro hfits
    refine ⟨registers_iff.mpr ⟨add_entries hsys hcfg hfits, add_minimal hsys hcfg hfits⟩, ?_, ?_⟩
    · exact add_reported hcfg
    · exact EventInfo.add_overread s sys.start

/-! ### Removing a stream -/

omit hsys in
theorem remove_look (t : StreamId) (c : ContextId) :
    (sys.start.removeEventInfoForStream s).contextinfo_stream_map_.info t c =
      if t = s then none else sys.e.contextinfo_stream_map_.info t c :=
  EventInfo.remove_info s sys.start t c

theorem remove_entries : Entries (sys.start.removeEventInfoForStream s).contextinfo_stream_map_
    (Function.update sys.configs s []) := by
  intro t cfg
  rw [remove_look]
  by_cases hts : t = s
  · subst hts
    rw [Function.update_self, if_pos rfl]
    simp
  · rw [Function.update_of_ne hts, if_neg hts]
    exact hsys.entries t cfg

variable (hvalid : ∀ t, ValidConfig (sys.configs t)) {c : ContextId} {t : StreamId}

/-- The values are at most 100. -/
theorem info_le (hvalid : ∀ t, ValidConfig (sys.configs t))
    (ht : sys.e.contextinfo_stream_map_.info t c = some info) :
    info.threshold ≤ 100 ∧ info.step_size ≤ 100 := by
  obtain ⟨cfg, hcfg, -, hvalues⟩ := Entries.exists_cfg hsys.entries ht
  have hle := (hvalid t).2 cfg hcfg
  have hthreshold : cfg.threshold = info.threshold := congrArg Prod.fst hvalues
  have hstep : cfg.step_size = info.step_size := congrArg Prod.snd hvalues
  omega

theorem remove_minimal (hvalid : ∀ t, ValidConfig (sys.configs t)) (c : ContextId) :
    (sys.start.removeEventInfoForStream s).MinimalAt c := by
  have hminimal := (registers_iff.mp hsys).2 c
  cases hs : sys.e.contextinfo_stream_map_.info s c with
  | none => exact hminimal.congr (EventInfo.remove_context s sys.start hs)
  | some context_info =>
    obtain ⟨current, hcum⟩ := hminimal.exists_entry hs
    obtain ⟨streams, hc, hstreams⟩ := Option.bind_eq_some_iff.mp hs
    have hself : (sys.start.removeEventInfoForStream s).contextinfo_stream_map_.info s c = none :=
      (remove_look s c).trans (if_pos rfl)
    have hother : ∀ t, t ≠ s → (sys.start.removeEventInfoForStream s).contextinfo_stream_map_.info
        t c = sys.e.contextinfo_stream_map_.info t c :=
      fun t hts => (remove_look t c).trans (if_neg hts)
    have hlook : ∀ t, (sys.start.removeEventInfoForStream s).contextinfo_stream_map_.info t c =
        (streams.erase s)[t]? := by
      intro t
      rw [remove_look, ContextMap.info, hc, Option.bind_some, Std.TreeMap.getElem?_erase]
      by_cases hts : t = s
      · rw [if_pos hts, if_pos (Nat.compare_eq_eq.mpr hts.symm)]
      · rw [if_neg hts, if_neg fun heq => hts (Nat.compare_eq_eq.mp heq).symm]
    unfold EventInfo.MinimalAt
    rw [EventInfo.remove_entry s sys.start hc hstreams hcum]
    split
    next hdiffer =>
      -- another stream attains both values
      have hthreshold := (hminimal.threshold current hcum).remove hother hself fun info hinfo => by
        rw [hs] at hinfo
        cases hinfo
        exact hdiffer.1
      have hstep := (hminimal.step_size current hcum).remove hother hself fun info hinfo => by
        rw [hs] at hinfo
        cases hinfo
        exact hdiffer.2
      obtain ⟨t, info, ht, -⟩ := hthreshold.attained
      exact Minimal.of_some ht hthreshold hstep
    next =>
      split
      next hempty =>
        refine Minimal.of_none fun t => (hlook t).trans ?_
        exact Std.TreeMap.getElem?_of_isEmpty hempty
      next hempty =>
        obtain ⟨t, info, ht⟩ := exists_of_not_isEmpty hempty
        have hle : ∀ (t : StreamId) info, (streams.erase s)[t]? = some info →
            info.threshold ≤ 100 ∧ info.step_size ≤ 100 := by
          intro t info ht
          rw [← hlook, remove_look] at ht
          split at ht
          · cases ht
          · exact info_le hsys hvalid ht
        have hthreshold := Smallest.lowerAll { current with threshold := 100, step_size := 100 }
          threshold_value (fun t info ht => (hle t info ht).1) ht
        have hstep := Smallest.lowerAll { current with threshold := 100, step_size := 100 }
          step_size_value (fun t info ht => (hle t info ht).2) ht
        exact Minimal.of_some ((hlook t).trans ht) (hthreshold.congr hlook) (hstep.congr hlook)

theorem alone_iff (hget : Value get) {cfg : acd_per_context_cfg}
    (hvalues : info.values = cfg.info.values) :
    sys.Alone get s cfg ↔ ∀ t, t ≠ s → ∀ other,
      sys.e.contextinfo_stream_map_.info t cfg.context_id = some other → get info < get other := by
  have hall := Entries.forall_iff hsys.entries (c := cfg.context_id)
    (P := fun t other => t ≠ s → get info < get other)
    (fun t a b hab hlt hts => hget.values a b hab ▸ hlt hts)
  unfold InfoSystem.Alone
  rw [← hget.values _ _ hvalues]
  constructor
  · intro h t hts other ht
    exact hall.mp (fun t other hother hc hts => h t hts other hother hc) t other ht hts
  · intro h t hts other hother hc
    exact hall.mpr (fun t other ht hts => h t hts other ht) t other hother hc hts

/-- A removal changes the entry of a context when the stream alone has one of its values. -/
theorem remove_change_iff (hvalid : ∀ t, ValidConfig (sys.configs t)) {cfg : acd_per_context_cfg}
    (hcfg : cfg ∈ sys.configs s) :
    ((sys.start.removeEventInfoForStream s).cumulative_contextinfo_map_[cfg.context_id]?.map
      stream_context_info.values ≠
        sys.e.cumulative_contextinfo_map_[cfg.context_id]?.map stream_context_info.values) ↔
      sys.Alone stream_context_info.threshold s cfg ∨
        sys.Alone stream_context_info.step_size s cfg := by
  obtain ⟨info, hs, hvalues⟩ := Entries.exists_info hsys.entries hcfg
  have hminimal := (registers_iff.mp hsys).2 cfg.context_id
  have hminimal' := remove_minimal (s := s) hsys hvalid cfg.context_id
  obtain ⟨current, hcum⟩ := hminimal.exists_entry hs
  have hself := (EventInfo.remove_info s sys.start s cfg.context_id).trans (if_pos rfl)
  have hother : ∀ t, t ≠ s → (sys.start.removeEventInfoForStream s).contextinfo_stream_map_.info t
      cfg.context_id = sys.e.contextinfo_stream_map_.info t cfg.context_id :=
    fun t hts => (remove_look t cfg.context_id).trans (if_neg hts)
  rw [alone_iff hsys threshold_value hvalues, alone_iff hsys step_size_value hvalues]
  cases hcum' : (sys.start.removeEventInfoForStream s).cumulative_contextinfo_map_[cfg.context_id]? with
  | none =>
    rw [hcum]
    refine iff_of_true (Option.some_ne_none _).symm (Or.inl fun t hts other ht => ?_)
    have hnone := (hother t hts).symm.trans (hminimal'.listed.mp hcum' t)
    cases ht.symm.trans hnone
  | some current' =>
    have hthreshold := (hminimal.threshold current hcum).remove_ne_iff hother hself
      (hminimal'.threshold current' hcum') hs
    have hstep := (hminimal.step_size current hcum).remove_ne_iff hother hself
      (hminimal'.step_size current' hcum') hs
    rw [hcum, ← hthreshold, ← hstep, ← not_and_or, Option.map_some, Option.map_some, ne_eq,
      Option.some_inj]
    exact not_congr Prod.ext_iff

theorem least_iff (hget : Value get) {cfg : acd_per_context_cfg}
    (hs : sys.e.contextinfo_stream_map_.info s cfg.context_id = some info)
    (hvalues : info.values = cfg.info.values)
    (hsmallest : Smallest get (fun t => sys.e.contextinfo_stream_map_.info t cfg.context_id) current) :
    sys.Least get cfg ↔ get current = get info := by
  have hall := Entries.forall_iff hsys.entries (c := cfg.context_id)
    (P := fun _ other => get info ≤ get other) (fun t a b hab hle => hget.values a b hab ▸ hle)
  unfold InfoSystem.Least
  rw [← hget.values _ _ hvalues, hall]
  constructor
  · intro h
    obtain ⟨t, other, ht, heq⟩ := hsmallest.attained
    have hle := h t other ht
    have hge := hsmallest.le s info hs
    omega
  · intro heq t other ht
    have hle := hsmallest.le t other ht
    omega

omit hsys in
theorem recompute_updated {streams : StreamMap} : (EventInfo.recompute current (streams.erase s)).2 =
    true ↔
    ∃ t, t ≠ s ∧ ∃ other : stream_context_info, streams[t]? = some other ∧
      (other.threshold < 100 ∨ other.step_size < 100) := by
  refine (lowerAll_updated _ _).trans ?_
  constructor
  · rintro (hflag | ⟨⟨t, other⟩, hx, hlow⟩)
    · cases hflag
    · have ht := Std.TreeMap.mem_toList_iff_getElem?_eq_some.mp hx
      rw [Std.TreeMap.getElem?_erase] at ht
      split at ht
      · cases ht
      next hne =>
        refine ⟨t, ?_, other, ht, hlow⟩
        rintro rfl
        exact hne Std.ReflCmp.compare_self
  · rintro ⟨t, hts, other, ht, hlow⟩
    refine Or.inr ⟨(t, other), Std.TreeMap.mem_toList_iff_getElem?_eq_some.mpr ?_, hlow⟩
    rw [Std.TreeMap.getElem?_erase, if_neg, ht]
    exact fun heq => hts (Nat.compare_eq_eq.mp heq).symm

omit hsys in
theorem erase_isEmpty {streams : StreamMap} : (streams.erase s).isEmpty = true ↔
    ∀ t, t ≠ s → ∀ other : stream_context_info, streams[t]? ≠ some other := by
  constructor
  · intro hempty t hts other ht
    have hnone : (streams.erase s)[t]? = none := Std.TreeMap.getElem?_of_isEmpty hempty
    rw [Std.TreeMap.getElem?_erase, if_neg, ht] at hnone
    · cases hnone
    · exact fun heq => hts (Nat.compare_eq_eq.mp heq).symm
  · intro hnone
    by_contra hempty
    obtain ⟨t, other, ht⟩ := exists_of_not_isEmpty hempty
    rw [Std.TreeMap.getElem?_erase] at ht
    split at ht
    · cases ht
    next hne =>
      refine hnone t ?_ other ht
      rintro rfl
      exact hne Std.ReflCmp.compare_self

/-- The pass of a context raises the flag for a config of the stream that reports its removal. -/
theorem reports_iff {cfg : acd_per_context_cfg} (hcfg : cfg ∈ sys.configs s) {streams : StreamMap}
    (hc : sys.e.contextinfo_stream_map_[cfg.context_id]? = some streams) :
    sys.Reports s cfg ↔ EventInfo.removeRaises s (cfg.context_id, streams)
      (sys.start.context cfg.context_id) = true := by
  obtain ⟨info, hs, hvalues⟩ := Entries.exists_info hsys.entries hcfg
  have hminimal := (registers_iff.mp hsys).2 cfg.context_id
  obtain ⟨current, hcum⟩ := hminimal.exists_entry hs
  have hthreshold := hminimal.threshold current hcum
  have hstep := hminimal.step_size current hcum
  have hstreams : ∀ t, sys.e.contextinfo_stream_map_.info t cfg.context_id = streams[t]? := by
    intro t
    rw [ContextMap.info, hc, Option.bind_some]
  have halone : (∀ t, t ≠ s → ∀ other ∈ sys.configs t, other.context_id ≠ cfg.context_id) ↔
      (streams.erase s).isEmpty = true := by
    have hall := Entries.forall_iff hsys.entries (c := cfg.context_id)
      (P := fun t _ => ¬ t ≠ s) (fun _ _ _ _ => id)
    rw [erase_isEmpty]
    constructor
    · intro h t hts other ht
      refine hall.mp (fun t other hother heq hts => h t hts other hother heq) t other ?_ hts
      rwa [hstreams]
    · intro h t hts other hother heq
      refine hall.mpr (fun t other ht hts => h t hts other ?_) t other hother heq hts
      rwa [← hstreams]
  have hlow : (∃ t, t ≠ s ∧ ∃ other ∈ sys.configs t, other.context_id = cfg.context_id ∧
      (other.threshold < 100 ∨ other.step_size < 100)) ↔
        (EventInfo.recompute current (streams.erase s)).2 = true := by
    have hexists := Entries.exists_iff hsys.entries (c := cfg.context_id)
      (P := fun t other => t ≠ s ∧ (other.threshold < 100 ∨ other.step_size < 100)) (by
        rintro t a b hab ⟨hts, hlow⟩
        rw [threshold_value.values a b hab, step_size_value.values a b hab] at hlow
        exact ⟨hts, hlow⟩)
    rw [recompute_updated]
    constructor
    · rintro ⟨t, hts, other, hother, heq, hlow⟩
      obtain ⟨t, other, ht, hts, hlow⟩ := hexists.mp ⟨t, other, hother, heq, hts, hlow⟩
      exact ⟨t, hts, other, (hstreams t).symm.trans ht, hlow⟩
    · rintro ⟨t, hts, other, ht, hlow⟩
      obtain ⟨t, other, hother, heq, hts, hlow⟩ :=
        hexists.mpr ⟨t, other, (hstreams t).trans ht, hts, hlow⟩
      exact ⟨t, hts, other, hother, heq, hlow⟩
  have hraises : EventInfo.removeRaises s (cfg.context_id, streams)
      (sys.start.context cfg.context_id) =
        if current.threshold ≠ info.threshold ∧ current.step_size ≠ info.step_size then false
        else (streams.erase s).isEmpty ||
          (EventInfo.recompute current (streams.erase s)).2 := by
    have hcum' : sys.start.cumulative_contextinfo_map_[cfg.context_id]? = some current := hcum
    simp only [EventInfo.removeRaises, ← hstreams, hs, EventInfo.context, hcum', Option.elim_some]
  unfold InfoSystem.Reports
  rw [halone, hlow, hraises, least_iff hsys threshold_value hs hvalues hthreshold,
    least_iff hsys step_size_value hs hvalues hstep]
  split
  next hdiffer =>
    refine iff_of_false ?_ Bool.false_ne_true
    rintro (hempty | ⟨heq | heq, -⟩)
    · -- another stream attains the threshold
      obtain ⟨t, other, ht, heq⟩ := hthreshold.attained
      by_cases hts : t = s
      · rw [hts, hs] at ht
        cases ht
        exact hdiffer.1 heq.symm
      · exact erase_isEmpty.mp hempty t hts other ((hstreams t).symm.trans ht)
    · exact hdiffer.1 heq
    · exact hdiffer.2 heq
  next hsame =>
    rw [Bool.or_eq_true]
    exact or_congr_right (and_iff_right (by omega))

theorem remove_updated_iff :
    (sys.start.removeEventInfoForStream s).is_confidence_value_updated_ = true ↔
      ∃ cfg ∈ sys.configs s, sys.Reports s cfg := by
  rw [EventInfo.remove_updated]
  constructor
  · rintro (hflag | ⟨c, streams, hc, hraises⟩)
    · cases hflag
    · cases hs : streams[s]? with
      | none => simp [EventInfo.removeRaises, hs] at hraises
      | some info =>
        have hinfo : sys.e.contextinfo_stream_map_.info s c = some info :=
          Option.bind_eq_some_iff.mpr ⟨streams, hc, hs⟩
        obtain ⟨cfg, hcfg, rfl, -⟩ := Entries.exists_cfg hsys.entries hinfo
        exact ⟨cfg, hcfg, (reports_iff hsys hcfg hc).mpr hraises⟩
  · rintro ⟨cfg, hcfg, hreports⟩
    obtain ⟨info, hinfo, -⟩ := Entries.exists_info hsys.entries hcfg
    obtain ⟨streams, hc, -⟩ := Option.bind_eq_some_iff.mp hinfo
    exact Or.inr ⟨cfg.context_id, streams, hc, (reports_iff hsys hcfg hc).mp hreports⟩

/-- **Removing.** A removal is right when it reports what it changes. -/
theorem remove_iff (hvalid : ∀ t, ValidConfig (sys.configs t)) :
    RegistersStrictest sys (.removeEventInfoForStream s) ↔
      sys.Fits (.removeEventInfoForStream s) := by
  constructor
  · rintro h ⟨cfg, hcfg, halone⟩
    refine (remove_updated_iff hsys).mp (h.reported cfg.context_id ?_)
    exact (remove_change_iff hsys hvalid hcfg).mpr halone
  · intro hfits
    refine ⟨registers_iff.mpr ⟨remove_entries hsys, remove_minimal hsys hvalid⟩, fun c hne => ?_, ?_⟩
    · refine (remove_updated_iff hsys).mpr (hfits ?_)
      cases hs : sys.e.contextinfo_stream_map_.info s c with
      | none =>
        have hentry := congrArg Prod.snd (EventInfo.remove_context s sys.start hs)
        exact absurd (congrArg (Option.map stream_context_info.values) hentry) hne
      | some info =>
        obtain ⟨cfg, hcfg, rfl, -⟩ := Entries.exists_cfg hsys.entries hs
        exact ⟨cfg, hcfg, (remove_change_iff hsys hvalid hcfg).mp hne⟩
    · exact EventInfo.remove_overread s sys.start

/-! ### Updating a stream -/

omit hsys in
theorem lowerAll_reports {l : List (StreamId × stream_context_info)}
    (h : (lowerAll (current, false) l).1.values ≠ current.values) :
    (lowerAll (current, false) l).2 = true := by
  rw [lowerAll_updated]
  by_contra hnot
  rw [not_or] at hnot
  have hsame : ∀ get : stream_context_info → ℕ, Value get →
      (∀ x ∈ l, get current ≤ get x.2) → get (lowerAll (current, false) l).1 = get current := by
    intro get hget hle
    obtain ⟨hcurrent, -⟩ := lowerAll_le (current, false) l hget.lower
    rcases lowerAll_attained (current, false) l hget.lower with heq | ⟨x, hx, heq⟩
    · exact heq
    · exact le_antisymm hcurrent ((hle x hx).trans heq.le)
  refine h (Prod.ext (hsame _ threshold_value fun x hx => ?_) (hsame _ step_size_value fun x hx => ?_))
  · by_contra hlt
    exact hnot.2 ⟨x, hx, Or.inl (not_le.mp hlt)⟩
  · by_contra hlt
    exact hnot.2 ⟨x, hx, Or.inr (not_le.mp hlt)⟩

theorem update_entries (hcfg : ValidConfig recog_cfg) :
    Entries (EventInfo.updatedMap s recog_cfg sys.e.contextinfo_stream_map_)
      (Function.update sys.configs s recog_cfg) := by
  intro t cfg
  by_cases hts : t = s
  · subst hts
    rw [Function.update_self]
    constructor
    · rintro ⟨info, hinfo, hthreshold, hstep⟩
      by_cases hc : cfg.context_id ∈ recog_cfg.map acd_per_context_cfg.context_id
      · obtain ⟨cfg', hmem, heq⟩ := List.mem_map.mp hc
        obtain ⟨info', hinfo', hvalues⟩ :=
          EventInfo.updatedMap_info_of_mem t sys.e.contextinfo_stream_map_ hcfg hmem
        rw [heq, hinfo, Option.some_inj] at hinfo'
        subst hinfo'
        have hthreshold' : info.threshold = cfg'.threshold := congrArg Prod.fst hvalues
        have hstep' : info.step_size = cfg'.step_size := congrArg Prod.snd hvalues
        have hsame : cfg' = cfg := by
          cases cfg
          cases cfg'
          simp_all
        rwa [← hsame]
      · rw [EventInfo.updatedMap_info_of_notMem t _ hcfg hc] at hinfo
        cases hinfo
    · intro hmem
      obtain ⟨info, hinfo, hvalues⟩ :=
        EventInfo.updatedMap_info_of_mem t sys.e.contextinfo_stream_map_ hcfg hmem
      exact ⟨info, hinfo, congrArg Prod.fst hvalues, congrArg Prod.snd hvalues⟩
  · rw [Function.update_of_ne hts, ← hsys.entries t cfg,
      EventInfo.updatedMap_info_other s hts _ hcfg]

/-- Each context that the new config lists has streams. -/
def InfoSystem.Known (sys : InfoSystem) (recog_cfg : List acd_per_context_cfg) : Prop :=
  ∀ cfg ∈ recog_cfg, ∃ t, ∃ old ∈ sys.configs t, old.context_id = cfg.context_id

theorem entry_isSome {t : StreamId} {old : acd_per_context_cfg} (hold : old ∈ sys.configs t) :
    ∃ current, sys.e.cumulative_contextinfo_map_[old.context_id]? = some current := by
  obtain ⟨info, hinfo, -⟩ := Entries.exists_info hsys.entries hold
  exact ((registers_iff.mp hsys).2 old.context_id).exists_entry hinfo

theorem known_entry (hcfg : ValidConfig recog_cfg) (hknown : sys.Known recog_cfg) (c : ContextId)
    (streams : StreamMap)
    (hc : (EventInfo.updatedMap s recog_cfg sys.start.contextinfo_stream_map_)[c]? = some streams) :
    sys.start.cumulative_contextinfo_map_[c]?.isSome = true := by
  obtain ⟨t, info, ht⟩ := EventInfo.updatedMap_exists s hcfg hc
  obtain ⟨new, hnew, rfl, -⟩ := (update_entries hsys hcfg).exists_cfg
    (Option.bind_eq_some_iff.mpr ⟨streams, hc, ht⟩)
  by_cases hts : t = s
  · rw [hts, Function.update_self] at hnew
    obtain ⟨u, old, hold, heq⟩ := hknown new hnew
    obtain ⟨current, hcum⟩ := entry_isSome hsys hold
    rw [← heq]
    exact Option.isSome_iff_exists.mpr ⟨current, hcum⟩
  · rw [Function.update_of_ne hts] at hnew
    exact Option.isSome_iff_exists.mpr (entry_isSome hsys hnew)

/-- A context without streams has the update read beyond the config. -/
theorem known_of_inBounds (hcfg : ValidConfig recog_cfg) {beyond : acd_per_context_cfg}
    (hbounds : (sys.start.updateEventInfoForStream s recog_cfg beyond).overread = false) :
    sys.Known recog_cfg := by
  intro cfg hmem
  by_contra hnone
  have hcum : sys.start.cumulative_contextinfo_map_[cfg.context_id]? = none := by
    refine (hsys.listed cfg.context_id).mpr fun t old hold heq => hnone ⟨t, old, hold, heq⟩
  obtain ⟨info, hinfo, -⟩ :=
    EventInfo.updatedMap_info_of_mem s sys.e.contextinfo_stream_map_ hcfg hmem
  obtain ⟨streams, hc, -⟩ := Option.bind_eq_some_iff.mp hinfo
  have hbeyond : (sys.start.updateEventInfoForStream s recog_cfg beyond).overread = true := by
    refine EventInfo.update_overread rfl hc (fun d streams hd hnil => ?_) hcum
    obtain ⟨t, info, ht⟩ := EventInfo.updatedMap_exists s hcfg hd
    have hx := Std.TreeMap.mem_toList_iff_getElem?_eq_some.mpr ht
    rw [hnil] at hx
    cases hx
  rw [hbounds] at hbeyond
  cases hbeyond

variable {beyond : acd_per_context_cfg} {streams : StreamMap}

/-- The entry of a context that keeps a stream. -/
theorem update_entry_of_some (hcfg : ValidConfig recog_cfg) (hknown : sys.Known recog_cfg)
    {c : ContextId}
    (hc : (EventInfo.updatedMap s recog_cfg sys.e.contextinfo_stream_map_)[c]? = some streams)
    (hcum : sys.e.cumulative_contextinfo_map_[c]? = some current) :
    (sys.start.updateEventInfoForStream s recog_cfg beyond).cumulative_contextinfo_map_[c]? =
      some (lowerAll (current, false) streams.toList).1 := by
  rw [EventInfo.update_entry rfl (known_entry hsys hcfg hknown)]
  change (EventInfo.updatedMap s recog_cfg sys.e.contextinfo_stream_map_)[c]?.bind (fun streams =>
    sys.e.cumulative_contextinfo_map_[c]?.map _) = _
  rw [hc, hcum]
  rfl

theorem update_entry_of_none (hcfg : ValidConfig recog_cfg) (hknown : sys.Known recog_cfg)
    {c : ContextId}
    (hc : (EventInfo.updatedMap s recog_cfg sys.e.contextinfo_stream_map_)[c]? = none) :
    (sys.start.updateEventInfoForStream s recog_cfg beyond).cumulative_contextinfo_map_[c]? =
      none := by
  rw [EventInfo.update_entry rfl (known_entry hsys hcfg hknown)]
  change (EventInfo.updatedMap s recog_cfg sys.e.contextinfo_stream_map_)[c]?.bind _ = _
  rw [hc]
  rfl

/-- Lowering the entry by the streams gives their smallest value when it does not rise. -/
theorem update_smallest (hget : Value get) (hcfg : ValidConfig recog_cfg) {c : ContextId}
    (hc : (EventInfo.updatedMap s recog_cfg sys.e.contextinfo_stream_map_)[c]? = some streams)
    (hsmallest : Smallest get (fun t => sys.e.contextinfo_stream_map_.info t c) current)
    (hlow : sys.KeepsLow get (Function.update sys.configs s recog_cfg)) :
    Smallest get (fun t => streams[t]?) (lowerAll (current, false) streams.toList).1 := by
  obtain ⟨hcurrent, hle⟩ := lowerAll_le (current, false) streams.toList hget.lower
  have hle : ∀ (t : StreamId) info, streams[t]? = some info →
      get (lowerAll (current, false) streams.toList).1 ≤ get info :=
    fun t info ht => hle (t, info) (Std.TreeMap.mem_toList_iff_getElem?_eq_some.mpr ht)
  have hlook : ∀ t, (EventInfo.updatedMap s recog_cfg sys.e.contextinfo_stream_map_).info t c =
      streams[t]? := by
    intro t
    rw [ContextMap.info, hc, Option.bind_some]
  have hentries := update_entries (s := s) hsys hcfg
  refine ⟨hle, ?_⟩
  rcases lowerAll_attained (current, false) streams.toList hget.lower with heq | ⟨x, hx, heq⟩
  · -- a stream still has the old value
    obtain ⟨t, info, ht, hattained⟩ := hsmallest.attained
    obtain ⟨old, hold, rfl, hvalues⟩ := Entries.exists_cfg hsys.entries ht
    obtain ⟨u, info', hu⟩ := EventInfo.updatedMap_exists s hcfg hc
    obtain ⟨new, hnew, hsame, -⟩ := hentries.exists_cfg ((hlook u).trans hu)
    obtain ⟨v, newest, hnewest, hsame, hle'⟩ := hlow t old hold ⟨u, new, hnew, hsame⟩
    obtain ⟨info'', hinfo'', hvalues''⟩ := hentries.exists_info hnewest
    rw [hsame, hlook] at hinfo''
    refine ⟨v, info'', hinfo'', le_antisymm ?_ (hle v info'' hinfo'')⟩
    have hnew := hget.values _ _ hvalues''
    have hold := hget.values _ _ hvalues
    have hcurrent : get (lowerAll (current, false) streams.toList).1 = get current := heq
    omega
  · exact ⟨x.1, x.2, Std.TreeMap.mem_toList_iff_getElem?_eq_some.mp hx, heq⟩

theorem update_minimal (hcfg : ValidConfig recog_cfg)
    (hfits : sys.Fits (.updateEventInfoForStream s recog_cfg beyond)) (c : ContextId) :
    (sys.start.updateEventInfoForStream s recog_cfg beyond).MinimalAt c := by
  obtain ⟨hknown, hthreshold, hstep⟩ := hfits
  have hminimal := (registers_iff.mp hsys).2 c
  unfold EventInfo.MinimalAt
  rw [EventInfo.update_streams]
  cases hc : (EventInfo.updatedMap s recog_cfg sys.e.contextinfo_stream_map_)[c]? with
  | none =>
    rw [update_entry_of_none hsys hcfg hknown hc]
    refine Minimal.of_none fun t => ?_
    change (EventInfo.updatedMap s recog_cfg sys.e.contextinfo_stream_map_)[c]?.bind _ = none
    rw [hc, Option.bind_none]
  | some streams =>
    have hlook : ∀ t, (EventInfo.updatedMap s recog_cfg sys.start.contextinfo_stream_map_).info t c =
        streams[t]? := by
      intro t
      change (EventInfo.updatedMap s recog_cfg sys.e.contextinfo_stream_map_)[c]?.bind _ = _
      rw [hc, Option.bind_some]
    obtain ⟨current, hcum⟩ := Option.isSome_iff_exists.mp (known_entry hsys hcfg hknown c streams hc)
    obtain ⟨t, info, ht⟩ := EventInfo.updatedMap_exists s hcfg hc
    rw [update_entry_of_some hsys hcfg hknown hc hcum]
    refine Minimal.of_some ((hlook t).trans ht) (Smallest.congr hlook ?_) (Smallest.congr hlook ?_)
    · exact update_smallest hsys threshold_value hcfg hc (hminimal.threshold current hcum) hthreshold
    · exact update_smallest hsys step_size_value hcfg hc (hminimal.step_size current hcum) hstep

theorem update_reported (hcfg : ValidConfig recog_cfg) (hknown : sys.Known recog_cfg) (c : ContextId)
    (hne : ((sys.start.updateEventInfoForStream s recog_cfg
      beyond).cumulative_contextinfo_map_[c]?).map stream_context_info.values ≠
        (sys.e.cumulative_contextinfo_map_[c]?).map stream_context_info.values) :
    (sys.start.updateEventInfoForStream s recog_cfg beyond).is_confidence_value_updated_ = true := by
  rw [EventInfo.update_updated rfl (known_entry hsys hcfg hknown)]
  cases hc : (EventInfo.updatedMap s recog_cfg sys.e.contextinfo_stream_map_)[c]? with
  | none =>
    rw [update_entry_of_none hsys hcfg hknown hc] at hne
    cases hcum : sys.e.cumulative_contextinfo_map_[c]? with
    | none =>
      rw [hcum] at hne
      exact absurd rfl hne
    | some current => exact Or.inr (Or.inl ⟨c, current, hcum, Option.isNone_iff_eq_none.mpr hc⟩)
  | some streams =>
    obtain ⟨current, hcum⟩ := Option.isSome_iff_exists.mp (known_entry hsys hcfg hknown c streams hc)
    have hcum : sys.e.cumulative_contextinfo_map_[c]? = some current := hcum
    rw [update_entry_of_some hsys hcfg hknown hc hcum, hcum] at hne
    refine Or.inr (Or.inr ⟨c, streams, current, hc, hcum, lowerAll_reports fun heq => hne ?_⟩)
    exact congrArg some heq

theorem update_keepsLow (hget : Value get) (hcfg : ValidConfig recog_cfg)
    (hknown : sys.Known recog_cfg)
    (hlowest : ∀ (c : ContextId) current, sys.e.cumulative_contextinfo_map_[c]? = some current →
      Lowest get sys.configs c current)
    (hlowest' : ∀ (c : ContextId) current,
      (sys.start.updateEventInfoForStream s recog_cfg beyond).cumulative_contextinfo_map_[c]? =
        some current → Lowest get (Function.update sys.configs s recog_cfg) c current) :
    sys.KeepsLow get (Function.update sys.configs s recog_cfg) := by
  rintro t old hold ⟨u, new, hnew, hsame⟩
  obtain ⟨info, hinfo, -⟩ := (update_entries hsys hcfg).exists_info hnew
  obtain ⟨streams, hc, -⟩ := Option.bind_eq_some_iff.mp hinfo
  rw [hsame] at hc
  obtain ⟨current, hcum⟩ := entry_isSome hsys hold
  obtain ⟨v, newest, hnewest, heq, hattained⟩ := (hlowest' old.context_id _
    (update_entry_of_some hsys hcfg hknown hc hcum)).attained
  refine ⟨v, newest, hnewest, heq, ?_⟩
  have hle := (hlowest old.context_id current hcum).le t old hold rfl
  have hlower : get (lowerAll (current, false) streams.toList).1 ≤ get current :=
    (lowerAll_le (current, false) streams.toList hget.lower).1
  omega

/-- **Updating.** An update is right when it lists no new context and no smallest value rises. -/
theorem update_iff (hcfg : ValidConfig recog_cfg) :
    RegistersStrictest sys (.updateEventInfoForStream s recog_cfg beyond) ↔
      sys.Fits (.updateEventInfoForStream s recog_cfg beyond) := by
  constructor
  · intro h
    have hknown := known_of_inBounds hsys hcfg h.inBounds
    exact ⟨hknown, update_keepsLow hsys threshold_value hcfg hknown hsys.threshold
      h.registers.threshold, update_keepsLow hsys step_size_value hcfg hknown hsys.step_size
      h.registers.step_size⟩
  · intro hfits
    refine ⟨registers_iff.mpr ⟨?_, update_minimal hsys hcfg hfits⟩, ?_, ?_⟩
    · change Entries (sys.start.updateEventInfoForStream s recog_cfg beyond).contextinfo_stream_map_ _
      rw [EventInfo.update_streams]
      exact update_entries hsys hcfg
    · exact update_reported hsys hcfg hfits.1
    · exact EventInfo.update_overread_eq rfl (known_entry hsys hcfg hfits.1)

end Steps

/-! ### Runs -/

/-- What each step finds: the maps as they have to be, and configs that hold together. -/
structure InfoSystem.Inv (sys : InfoSystem) : Prop where
  registers : sys.Registers
  valid : ∀ t, ValidConfig (sys.configs t)

theorem registers_nil : InfoSystem.Registers {} where
  entries t cfg := by
    refine iff_of_false ?_ List.not_mem_nil
    rintro ⟨info, hinfo, -⟩
    rw [ContextMap.info, Std.TreeMap.getElem?_emptyc] at hinfo
    cases hinfo
  listed c := iff_of_true Std.TreeMap.getElem?_emptyc fun _ _ hcfg => absurd hcfg List.not_mem_nil
  threshold c current hc := by
    rw [Std.TreeMap.getElem?_emptyc] at hc
    cases hc
  step_size c current hc := by
    rw [Std.TreeMap.getElem?_emptyc] at hc
    cases hc

theorem inv_nil : InfoSystem.Inv {} :=
  ⟨registers_nil, fun _ => ⟨List.nodup_nil, fun _ hcfg => absurd hcfg List.not_mem_nil⟩⟩

namespace InfoSystem.Inv

variable {sys : InfoSystem} (hsys : sys.Inv)

include hsys

theorem registersStrictest_iff {step : InfoStep} (hstep : step.Valid) :
    RegistersStrictest sys step ↔ sys.Fits step := by
  cases step with
  | addEventInfoForStream s recog_cfg => exact add_iff hsys.registers hstep
  | updateEventInfoForStream s recog_cfg beyond => exact update_iff hsys.registers hstep
  | removeEventInfoForStream s => exact remove_iff hsys.registers hsys.valid

theorem valid_update (s : StreamId) (hcfg : ValidConfig recog_cfg) (t : StreamId) :
    ValidConfig (Function.update sys.configs s recog_cfg t) := by
  by_cases hts : t = s
  · rwa [hts, Function.update_self]
  · rw [Function.update_of_ne hts]
    exact hsys.valid t

theorem step {step : InfoStep} (hstep : step.Valid) (hfits : sys.Fits step) :
    (sys.step step).Inv := by
  refine ⟨((hsys.registersStrictest_iff hstep).mpr hfits).registers, ?_⟩
  cases step with
  | addEventInfoForStream s recog_cfg => exact hsys.valid_update s hstep
  | updateEventInfoForStream s recog_cfg beyond => exact hsys.valid_update s hstep
  | removeEventInfoForStream s =>
    exact hsys.valid_update s ⟨List.nodup_nil, fun _ hcfg => absurd hcfg List.not_mem_nil⟩

theorem along_iff {steps : List InfoStep} (hvalid : ∀ step ∈ steps, step.Valid) :
    Meets (fun sys step => some (InfoSystem.step sys step)) RegistersStrictest sys steps ↔
      Meets (fun sys step => some (InfoSystem.step sys step)) InfoSystem.Fits sys steps := by
  induction steps generalizing sys with
  | nil => exact Iff.rfl
  | cons step steps ih =>
    obtain ⟨hstep, hvalid⟩ := List.forall_mem_cons.mp hvalid
    rw [meets_some_cons, meets_some_cons, hsys.registersStrictest_iff hstep]
    exact and_congr_right fun hfits => ih (hsys.step hstep hfits) hvalid

end InfoSystem.Inv

/-- **The strictest need.** Along a run of the engine each step leaves the maps as the streams need
them, reports a change and reads no config beyond its entries exactly when the steps fit. -/
theorem registersStrictest_along_iff (steps : List InfoStep) (hvalid : ∀ step ∈ steps, step.Valid) :
    Meets (fun sys step => some (InfoSystem.step sys step)) RegistersStrictest {} steps ↔
      Meets (fun sys step => some (InfoSystem.step sys step)) InfoSystem.Fits {} steps :=
  inv_nil.along_iff hvalid

theorem registersStrictest_two_streams :
    Meets (fun sys step => some (InfoSystem.step sys step)) RegistersStrictest {}
      [.addEventInfoForStream 0 [⟨7, 50, 10⟩], .addEventInfoForStream 1 [⟨7, 60, 5⟩],
        .removeEventInfoForStream 0] := by
  refine (registersStrictest_along_iff _ ?_).mpr ?_
  · simp [InfoStep.Valid, ValidConfig]
  · simp only [meets_some_cons, InfoSystem.Fits]
    refine ⟨nofun, nofun, fun _ => ?_, trivial⟩
    refine ⟨⟨7, 50, 10⟩, List.mem_singleton_self _, Or.inr ⟨Or.inl ?_, 1, by decide, ⟨7, 60, 5⟩,
      List.mem_singleton_self _, rfl, Or.inl (by decide)⟩⟩
    intro t other hother _
    simp only [InfoSystem.step, Function.update_apply] at hother
    split at hother
    · rw [List.mem_singleton.mp hother]
      decide
    · split at hother
      · rw [List.mem_singleton.mp hother]
      · cases hother

/-- A stream that raises its threshold leaves the old one registered. -/
theorem not_registersStrictest : ¬ ∀ steps : List InfoStep, (∀ step ∈ steps, step.Valid) →
    Meets (fun sys step => some (InfoSystem.step sys step)) RegistersStrictest {} steps := by
  intro h
  have hmeets := h [.addEventInfoForStream 0 [⟨7, 50, 10⟩],
    .updateEventInfoForStream 0 [⟨7, 60, 10⟩] ⟨0, 0, 0⟩] (by simp [InfoStep.Valid, ValidConfig])
  rw [meets_some_cons, meets_some_cons] at hmeets
  have hcum : (((InfoSystem.step {} (.addEventInfoForStream 0 [⟨7, 50, 10⟩])).step
      (.updateEventInfoForStream 0 [⟨7, 60, 10⟩] ⟨0, 0, 0⟩)).e.cumulative_contextinfo_map_[7]?) =
        some { threshold := 50, step_size := 10 } := by decide
  obtain ⟨t, cfg, hcfg, -, hthreshold⟩ := (hmeets.2.1.registers.threshold 7 _ hcum).attained
  simp only [InfoSystem.step, Function.update_apply] at hcfg
  split at hcfg
  · rw [List.mem_singleton.mp hcfg] at hthreshold
    cases hthreshold
  · cases hcfg

end AudioReachPal.ACD
