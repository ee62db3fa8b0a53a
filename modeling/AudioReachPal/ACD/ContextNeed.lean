import AudioReachPal.ACD.EventInfoSteps

/-!
# The need for a context

What the maps have for a context is right when its entry has the smallest values of its streams, and
the streams are those whose configs list it. How the smallest value moves when a stream comes, goes
or stays is a matter of the context alone.
-/

namespace AudioReachPal.ACD

open AudioReachPal.Lib

/-! ### A context and its streams -/

/-- A value of an entry that lowering makes the smaller one. -/
structure Value (get : stream_context_info → ℕ) : Prop where
  values : ∀ a b : stream_context_info, a.values = b.values → get a = get b
  lower : ∀ a b, get (lower a b).1 = min (get a) (get b)

theorem threshold_value : Value stream_context_info.threshold :=
  ⟨fun _ _ h => congrArg Prod.fst h, lower_threshold⟩

theorem step_size_value : Value stream_context_info.step_size :=
  ⟨fun _ _ h => congrArg Prod.snd h, lower_step_size⟩

/-- The entry has the smallest value of the streams that `look` finds. -/
structure Smallest (get : stream_context_info → ℕ) (look : StreamId → Option stream_context_info)
    (current : stream_context_info) : Prop where
  le : ∀ t info, look t = some info → get current ≤ get info
  attained : ∃ t info, look t = some info ∧ get info = get current

/-- A context has an entry when it has streams, and the entry has their smallest values. -/
structure Minimal (look : StreamId → Option stream_context_info)
    (entry : Option stream_context_info) : Prop where
  listed : entry = none ↔ ∀ t, look t = none
  threshold : ∀ current, entry = some current →
    Smallest stream_context_info.threshold look current
  step_size : ∀ current, entry = some current →
    Smallest stream_context_info.step_size look current

variable {look look' : StreamId → Option stream_context_info} {entry : Option stream_context_info}
  {s : StreamId} {get : stream_context_info → ℕ} {current info : stream_context_info}

theorem Smallest.congr (hlook : ∀ t, look' t = look t) (h : Smallest get look current) :
    Smallest get look' current := by
  rwa [funext hlook]

theorem Minimal.congr (hlook : ∀ t, look' t = look t) (h : Minimal look entry) :
    Minimal look' entry := by
  rwa [funext hlook]

theorem Minimal.exists_entry (h : Minimal look entry) {t : StreamId} (ht : look t = some info) :
    ∃ current, entry = some current := by
  cases hentry : entry with
  | none =>
    rw [h.listed.mp hentry t] at ht
    cases ht
  | some current => exact ⟨current, rfl⟩

/-- Two entries that are the smallest of the same streams have the same value. -/
theorem Smallest.le_of_le {current' : stream_context_info} (h : Smallest get look current)
    (h' : Smallest get look' current')
    (hle : ∀ t info, look t = some info → ∃ u info', look' u = some info' ∧ get info' ≤ get info) :
    get current' ≤ get current := by
  obtain ⟨t, info, ht, heq⟩ := h.attained
  obtain ⟨u, info', hu, hget⟩ := hle t info ht
  exact (h'.le u info' hu).trans (hget.trans heq.le)

section Add

variable {cfg : stream_context_info} (hself : ∃ info, look' s = some info ∧ info.values = cfg.values)
  (hother : ∀ t, t ≠ s → look' t = look t)
  (hold : ∀ old, look s = some old → look' s = some old)

include hself hother

theorem Smallest.first (hget : Value get) (hnone : ∀ t, look t = none) :
    Smallest get look' cfg := by
  obtain ⟨info, hs, hvalues⟩ := hself
  refine ⟨fun t info' ht => ?_, ⟨s, info, hs, hget.values _ _ hvalues⟩⟩
  by_cases hts : t = s
  · rw [hts, hs] at ht
    cases ht
    exact (hget.values _ _ hvalues).ge
  · rw [hother t hts, hnone t] at ht
    cases ht

include hold

theorem Smallest.lower (hget : Value get) (h : Smallest get look current) :
    Smallest get look' (lower current cfg).1 := by
  obtain ⟨info, hs, hvalues⟩ := hself
  refine ⟨fun t info' ht => ?_, ?_⟩
  · rw [hget.lower]
    by_cases hts : t = s
    · rw [hts, hs] at ht
      cases ht
      exact (min_le_right _ _).trans (hget.values _ _ hvalues).ge
    · rw [hother t hts] at ht
      exact (min_le_left _ _).trans (h.le t info' ht)
  · rw [hget.lower]
    rcases min_choice (get current) (get cfg) with hmin | hmin
    · obtain ⟨t, old, ht, heq⟩ := h.attained
      refine ⟨t, old, ?_, heq.trans hmin.symm⟩
      by_cases hts : t = s
      · subst hts
        exact hold old ht
      · exact (hother t hts).trans ht
    · exact ⟨s, info, hs, (hget.values _ _ hvalues).trans hmin.symm⟩

theorem Minimal.add (h : Minimal look entry) : Minimal look'
    (some (entry.elim cfg fun current => (ACD.lower current cfg).1)) := by
  have hnever : ¬ ∀ t, look' t = none := by
    obtain ⟨info, hs, -⟩ := hself
    intro hnone
    rw [hnone s] at hs
    cases hs
  refine ⟨iff_of_false (Option.some_ne_none _) hnever, ?_, ?_⟩
  · rintro _ ⟨⟩
    cases hentry : entry with
    | none => exact Smallest.first hself hother threshold_value (h.listed.mp hentry)
    | some current => exact (h.threshold current hentry).lower hself hother hold threshold_value
  · rintro _ ⟨⟩
    cases hentry : entry with
    | none => exact Smallest.first hself hother step_size_value (h.listed.mp hentry)
    | some current => exact (h.step_size current hentry).lower hself hother hold step_size_value

end Add

section Remove

variable (hother : ∀ t, t ≠ s → look' t = look t) (hself : look' s = none)

include hother hself

/-- An entry that another stream attains stays. -/
theorem Smallest.remove (h : Smallest get look current)
    (hne : ∀ info, look s = some info → get current ≠ get info) : Smallest get look' current := by
  refine ⟨fun t info ht => ?_, ?_⟩
  · by_cases hts : t = s
    · rw [hts, hself] at ht
      cases ht
    · exact h.le t info (hother t hts ▸ ht)
  · obtain ⟨t, info, ht, heq⟩ := h.attained
    refine ⟨t, info, ?_, heq⟩
    rw [hother t fun hts => hne info (hts ▸ ht) heq.symm]
    exact ht

/-- The smallest value changes when the stream alone has it. -/
theorem Smallest.remove_ne_iff {current' : stream_context_info} (h : Smallest get look current)
    (h' : Smallest get look' current') (hs : look s = some info) :
    get current' ≠ get current ↔ ∀ t, t ≠ s → ∀ other, look t = some other → get info < get other := by
  constructor
  · intro hne t hts other ht
    by_contra hnot
    refine hne (le_antisymm ?_ ?_)
    · -- where the stream attains the value, the other one does too
      refine h.le_of_le h' fun u info' hu => ?_
      by_cases hus : u = s
      · refine ⟨t, other, (hother t hts).trans ht, ?_⟩
        rw [hus, hs] at hu
        cases hu
        omega
      · exact ⟨u, info', (hother u hus).trans hu, le_rfl⟩
    · obtain ⟨u, info', hu, heq⟩ := h'.attained
      by_cases hus : u = s
      · rw [hus, hself] at hu
        cases hu
      · exact (h.le u info' ((hother u hus).symm.trans hu)).trans heq.le
  · intro halone heq
    obtain ⟨t, other, ht, hattained⟩ := h'.attained
    by_cases hts : t = s
    · rw [hts, hself] at ht
      cases ht
    · have hlt := halone t hts other ((hother t hts).symm.trans ht)
      have hle := h.le s info hs
      omega

end Remove

theorem Minimal.of_none (hnone : ∀ t, look t = none) : Minimal look none :=
  ⟨iff_of_true rfl hnone, nofun, nofun⟩

theorem Minimal.of_some (hs : look s = some info)
    (hthreshold : Smallest stream_context_info.threshold look current)
    (hstep : Smallest stream_context_info.step_size look current) : Minimal look (some current) := by
  refine ⟨iff_of_false (Option.some_ne_none _) fun hnone => ?_, ?_, ?_⟩
  · rw [hnone s] at hs
    cases hs
  · rintro _ ⟨⟩
    exact hthreshold
  · rintro _ ⟨⟩
    exact hstep

/-- The entry that is computed again. -/
theorem Smallest.lowerAll {streams : StreamMap} (full : stream_context_info) (hget : Value get)
    (hle : ∀ (t : StreamId) info, streams[t]? = some info → get info ≤ get full)
    (hs : streams[s]? = some info) :
    Smallest get (fun t => streams[t]?) (ACD.lowerAll (full, false) streams.toList).1 := by
  obtain ⟨-, hlow⟩ := lowerAll_le (full, false) streams.toList hget.lower
  have hlow : ∀ (t : StreamId) info, streams[t]? = some info →
      get (ACD.lowerAll (full, false) streams.toList).1 ≤ get info :=
    fun t info ht => hlow (t, info) (Std.TreeMap.mem_toList_iff_getElem?_eq_some.mpr ht)
  refine ⟨hlow, ?_⟩
  rcases lowerAll_attained (full, false) streams.toList hget.lower with hfull | ⟨x, hx, heq⟩
  · refine ⟨s, info, hs, le_antisymm ?_ (hlow s info hs)⟩
    exact (hle s info hs).trans hfull.ge
  · exact ⟨x.1, x.2, Std.TreeMap.mem_toList_iff_getElem?_eq_some.mp hx, heq⟩

/-! ### The configs and the map -/

/-- The map has the streams whose configs list a context, with their values. -/
def Entries (m : ContextMap) (configs : StreamId → List acd_per_context_cfg) : Prop :=
  ∀ t cfg, (∃ info, m.info t cfg.context_id = some info ∧ info.threshold = cfg.threshold ∧
    info.step_size = cfg.step_size) ↔ cfg ∈ configs t

namespace Entries

variable {m : ContextMap} {configs : StreamId → List acd_per_context_cfg} {c : ContextId}
  {t : StreamId} (h : Entries m configs)

include h

theorem exists_cfg (ht : m.info t c = some info) :
    ∃ cfg ∈ configs t, cfg.context_id = c ∧ cfg.info.values = info.values :=
  ⟨⟨c, info.threshold, info.step_size⟩, (h t _).mp ⟨info, ht, rfl, rfl⟩, rfl, rfl⟩

theorem exists_info {cfg : acd_per_context_cfg} (hcfg : cfg ∈ configs t) :
    ∃ info, m.info t cfg.context_id = some info ∧ info.values = cfg.info.values := by
  obtain ⟨info, ht, hthreshold, hstep⟩ := (h t cfg).mpr hcfg
  exact ⟨info, ht, Prod.ext hthreshold hstep⟩

variable {P : StreamId → stream_context_info → Prop}
  (hP : ∀ t a b, a.values = b.values → P t a → P t b)

include hP

theorem exists_iff : (∃ t, ∃ cfg ∈ configs t, cfg.context_id = c ∧ P t cfg.info) ↔
    ∃ t info, m.info t c = some info ∧ P t info := by
  constructor
  · rintro ⟨t, cfg, hcfg, rfl, hp⟩
    obtain ⟨info, ht, hvalues⟩ := h.exists_info hcfg
    exact ⟨t, info, ht, hP t _ _ hvalues.symm hp⟩
  · rintro ⟨t, info, ht, hp⟩
    obtain ⟨cfg, hcfg, hc, hvalues⟩ := h.exists_cfg ht
    exact ⟨t, cfg, hcfg, hc, hP t _ _ hvalues.symm hp⟩

theorem forall_iff : (∀ t, ∀ cfg ∈ configs t, cfg.context_id = c → P t cfg.info) ↔
    ∀ t info, m.info t c = some info → P t info := by
  constructor
  · intro hall t info ht
    obtain ⟨cfg, hcfg, hc, hvalues⟩ := h.exists_cfg ht
    exact hP t _ _ hvalues (hall t cfg hcfg hc)
  · rintro hall t cfg hcfg rfl
    obtain ⟨info, ht, hvalues⟩ := h.exists_info hcfg
    exact hP t _ _ hvalues (hall t info ht)

end Entries

theorem Value.congr (hget : Value get) {P : ℕ → Prop} :
    ∀ a b : stream_context_info, a.values = b.values → P (get a) → P (get b) := by
  intro a b hvalues hp
  rwa [← hget.values a b hvalues]

theorem Entries.lowest_iff {m : ContextMap} {configs : StreamId → List acd_per_context_cfg}
    {c : ContextId} (h : Entries m configs) (hget : Value get) :
    Lowest get configs c current ↔ Smallest get (fun t => m.info t c) current := by
  have hle := h.forall_iff (c := c) fun _ => hget.congr (P := (get current ≤ ·))
  have hattained := h.exists_iff (c := c) fun _ => hget.congr (P := (· = get current))
  exact ⟨fun hl => ⟨hle.mp hl.le, hattained.mp hl.attained⟩,
    fun hs => ⟨hle.mpr hs.le, hattained.mpr hs.attained⟩⟩

/-- The maps are right for a context. -/
def EventInfo.MinimalAt (e : EventInfo) (c : ContextId) : Prop :=
  Minimal (fun t => e.contextinfo_stream_map_.info t c) e.cumulative_contextinfo_map_[c]?

theorem EventInfo.MinimalAt.congr {e e' : EventInfo} {c : ContextId}
    (heq : e'.context c = e.context c) (h : e.MinimalAt c) : e'.MinimalAt c := by
  change Minimal (fun t => (e'.context c).1.bind fun streams => streams[t]?) (e'.context c).2
  rw [heq]
  exact h

/-- The maps are right when they are for each context. -/
theorem registers_iff {sys : InfoSystem} : sys.Registers ↔
    Entries sys.e.contextinfo_stream_map_ sys.configs ∧ ∀ c, sys.e.MinimalAt c := by
  have hnone (hentries : Entries sys.e.contextinfo_stream_map_ sys.configs) (c : ContextId) :
      (∀ t, ∀ cfg ∈ sys.configs t, cfg.context_id ≠ c) ↔
        ∀ t, sys.e.contextinfo_stream_map_.info t c = none := by
    refine (hentries.forall_iff (c := c) (P := fun _ _ => False) fun _ _ _ _ => id).trans ?_
    exact forall_congr' fun t => Option.eq_none_iff_forall_not_mem.symm
  constructor
  · intro h
    refine ⟨h.entries, fun c => ⟨(h.listed c).trans (hnone h.entries c), fun current hc => ?_,
      fun current hc => ?_⟩⟩
    · exact (Entries.lowest_iff h.entries threshold_value).mp (h.threshold c current hc)
    · exact (Entries.lowest_iff h.entries step_size_value).mp (h.step_size c current hc)
  · rintro ⟨hentries, h⟩
    refine ⟨hentries, fun c => (h c).listed.trans (hnone hentries c).symm, fun c current hc => ?_,
      fun c current hc => ?_⟩
    · exact (hentries.lowest_iff threshold_value).mpr ((h c).threshold current hc)
    · exact (hentries.lowest_iff step_size_value).mpr ((h c).step_size current hc)

end AudioReachPal.ACD
