import AudioReachPal.ACD.EventInfo

/-!
# What the calls make of a context

The maps have a context's streams and its entry. Each of the loops takes the contexts one after the
other and leaves the others as they are, so that what a call makes of a context can be said of the
context alone.
-/

namespace AudioReachPal.ACD

open AudioReachPal.Lib

/-- What the maps have for a context. -/
def EventInfo.context (c : ContextId) (e : EventInfo) :
    Option StreamMap × Option stream_context_info :=
  (e.contextinfo_stream_map_[c]?, e.cumulative_contextinfo_map_[c]?)

theorem exists_of_not_isEmpty {streams : StreamMap} (hempty : ¬ streams.isEmpty = true) :
    ∃ (t : StreamId) (info : stream_context_info), streams[t]? = some info := by
  have hne : streams.toList ≠ [] := by
    intro hnil
    rw [← Std.TreeMap.isEmpty_toList, hnil] at hempty
    exact hempty rfl
  obtain ⟨x, l, hx⟩ := List.exists_cons_of_ne_nil hne
  refine ⟨x.1, x.2, Std.TreeMap.mem_toList_iff_getElem?_eq_some.mp ?_⟩
  rw [hx]
  exact List.mem_cons_self

namespace EventInfo

variable (s : StreamId) (e : EventInfo)

/-! ### Adding a config -/

/-- The streams and the entry of a context that the config lists. -/
def added (cfg : acd_per_context_cfg) (v : Option StreamMap × Option stream_context_info) :
    Option StreamMap × Option stream_context_info :=
  (some ((v.1.getD ∅).insertIfNew s cfg.info),
    some (v.2.elim cfg.info fun current => (lower current cfg.info).1))

def addRaises (cfg : acd_per_context_cfg) (v : Option StreamMap × Option stream_context_info) :
    Bool :=
  v.2.elim true fun current => (lower current cfg.info).2

variable (cfg : acd_per_context_cfg) {c : ContextId}

theorem insertIfNew_self {α : Type*} {m : Std.TreeMap ℕ α} {k : ℕ} (hk : m[k]? = none) (a : α) :
    (m.insertIfNew k a)[k]? = some a := by
  rw [Std.TreeMap.getElem?_insertIfNew]
  refine if_pos ⟨Std.ReflCmp.compare_self, ?_⟩
  rw [Std.TreeMap.mem_iff_isSome_getElem?, hk]
  exact Bool.false_ne_true

theorem insertIfNew_other {α : Type*} (m : Std.TreeMap ℕ α) {k k' : ℕ} (hk : k' ≠ k) (a : α) :
    (m.insertIfNew k a)[k']? = m[k']? := by
  rw [Std.TreeMap.getElem?_insertIfNew, if_neg]
  exact fun h => hk (Nat.compare_eq_eq.mp h.1).symm

theorem insertIfNew_of_some {α : Type*} {m : Std.TreeMap ℕ α} {k : ℕ} {b : α} (hk : m[k]? = some b)
    (a : α) : (m.insertIfNew k a)[k]? = some b := by
  rw [Std.TreeMap.getElem?_insertIfNew, if_neg, hk]
  rintro ⟨-, hnotMem⟩
  refine hnotMem (Std.TreeMap.mem_iff_isSome_getElem?.mpr ?_)
  rw [hk]
  rfl

theorem getD_lookup (o : Option StreamMap) (t : StreamId) :
    (o.getD ∅)[t]? = o.bind fun streams => streams[t]? := by
  cases o with
  | none => exact Std.TreeMap.getElem?_emptyc
  | some streams => rfl

theorem addStream_self (m : ContextMap) : (addStream s m cfg)[cfg.context_id]? =
    some ((m[cfg.context_id]?.getD ∅).insertIfNew s cfg.info) := by
  cases hm : m[cfg.context_id]? with
  | none => simp only [addStream, hm, insertIfNew_self hm, Option.getD_none]
  | some streams => simp [addStream, hm]

theorem addStream_other (m : ContextMap) (hc : c ≠ cfg.context_id) :
    (addStream s m cfg)[c]? = m[c]? := by
  cases hm : m[cfg.context_id]? with
  | none => simp only [addStream, hm, insertIfNew_other m hc]
  | some streams => simp [addStream, hm, Std.TreeMap.getElem?_insert, hc.symm]

theorem addContext_self :
    (addContext s e cfg).context cfg.context_id = added s cfg (e.context cfg.context_id) := by
  cases hcum : e.cumulative_contextinfo_map_[cfg.context_id]? with
  | none =>
    simp only [addContext, context, added, hcum, addStream_self, insertIfNew_self hcum,
      Option.elim_none]
  | some current => simp [addContext, context, added, hcum, addStream_self]

theorem addContext_other (hc : c ≠ cfg.context_id) :
    (addContext s e cfg).context c = e.context c := by
  cases hcum : e.cumulative_contextinfo_map_[cfg.context_id]? with
  | none =>
    simp only [addContext, context, hcum, addStream_other s cfg _ hc, insertIfNew_other _ hc]
  | some current =>
    simp [addContext, context, hcum, addStream_other s cfg _ hc, Std.TreeMap.getElem?_insert,
      hc.symm]

theorem addContext_updated : (addContext s e cfg).is_confidence_value_updated_ =
    (e.is_confidence_value_updated_ || addRaises cfg (e.context cfg.context_id)) := by
  cases hcum : e.cumulative_contextinfo_map_[cfg.context_id]? with
  | none => simp [addContext, context, addRaises, hcum]
  | some current => simp [addContext, context, addRaises, hcum]

theorem addContext_overread : (addContext s e cfg).overread = e.overread := by
  cases hcum : e.cumulative_contextinfo_map_[cfg.context_id]? with
  | none => simp [addContext, hcum]
  | some current => simp [addContext, hcum]

theorem addContext_ownKeys : OwnKeys (addContext s) acd_per_context_cfg.context_id context (added s)
    fun _ _ => True where
  self e cfg _ := addContext_self s e cfg
  other e cfg _ _ := addContext_other s e cfg

variable {cfg} {recog_cfg : List acd_per_context_cfg}

theorem add_of_mem (hcfg : ValidConfig recog_cfg) (hmem : cfg ∈ recog_cfg) :
    (addEventInfoForStream s e recog_cfg).context cfg.context_id =
      added s cfg (e.context cfg.context_id) :=
  (addContext_ownKeys s).foldl_of_mem hmem hcfg.1 fun _ _ => trivial

theorem add_of_notMem (hcfg : ValidConfig recog_cfg)
    (hc : c ∉ recog_cfg.map acd_per_context_cfg.context_id) :
    (addEventInfoForStream s e recog_cfg).context c = e.context c :=
  (addContext_ownKeys s).foldl_of_notMem hc hcfg.1 fun _ _ => trivial

theorem add_info_of_notMem (hcfg : ValidConfig recog_cfg)
    (hc : c ∉ recog_cfg.map acd_per_context_cfg.context_id) (t : StreamId) :
    (addEventInfoForStream s e recog_cfg).contextinfo_stream_map_.info t c =
      e.contextinfo_stream_map_.info t c := by
  have hstreams := congrArg Prod.fst (add_of_notMem s e hcfg hc)
  exact congrArg (Option.bind · fun streams => streams[t]?) hstreams

theorem add_info_other {t : StreamId} (ht : t ≠ s) (hcfg : ValidConfig recog_cfg) (c : ContextId) :
    (addEventInfoForStream s e recog_cfg).contextinfo_stream_map_.info t c =
      e.contextinfo_stream_map_.info t c := by
  by_cases hc : c ∈ recog_cfg.map acd_per_context_cfg.context_id
  · obtain ⟨cfg, hmem, rfl⟩ := List.mem_map.mp hc
    have hstreams := congrArg Prod.fst (add_of_mem s e hcfg hmem)
    refine (congrArg (Option.bind · fun streams => streams[t]?) hstreams).trans ?_
    exact (insertIfNew_other _ ht _).trans (getD_lookup _ t)
  · exact add_info_of_notMem s e hcfg hc t

/-- An entry that is there stays. -/
theorem add_info_of_some {old : stream_context_info}
    (hold : e.contextinfo_stream_map_.info s c = some old) (hcfg : ValidConfig recog_cfg) :
    (addEventInfoForStream s e recog_cfg).contextinfo_stream_map_.info s c = some old := by
  by_cases hc : c ∈ recog_cfg.map acd_per_context_cfg.context_id
  · obtain ⟨cfg, hmem, rfl⟩ := List.mem_map.mp hc
    have hstreams := congrArg Prod.fst (add_of_mem s e hcfg hmem)
    refine (congrArg (Option.bind · fun streams => streams[s]?) hstreams).trans ?_
    exact insertIfNew_of_some ((getD_lookup _ s).trans hold) _
  · exact (add_info_of_notMem s e hcfg hc s).trans hold

theorem add_info_of_none (hnone : e.contextinfo_stream_map_.info s cfg.context_id = none)
    (hcfg : ValidConfig recog_cfg) (hmem : cfg ∈ recog_cfg) :
    (addEventInfoForStream s e recog_cfg).contextinfo_stream_map_.info s cfg.context_id =
      some cfg.info := by
  have hstreams := congrArg Prod.fst (add_of_mem s e hcfg hmem)
  refine (congrArg (Option.bind · fun streams => streams[s]?) hstreams).trans ?_
  exact insertIfNew_self ((getD_lookup _ s).trans hnone) _

theorem add_updated (hcfg : ValidConfig recog_cfg) (hmem : cfg ∈ recog_cfg)
    (hraises : addRaises cfg (e.context cfg.context_id) = true) :
    (addEventInfoForStream s e recog_cfg).is_confidence_value_updated_ = true := by
  have hflag : (addEventInfoForStream s e recog_cfg).is_confidence_value_updated_ =
      (e.is_confidence_value_updated_ ||
        recog_cfg.any fun cfg => addRaises cfg (e.context cfg.context_id)) :=
    (addContext_ownKeys s).foldl_flag addRaises (fun e cfg _ => addContext_updated s e cfg) hcfg.1
      fun _ _ => trivial
  refine hflag.trans (Bool.or_eq_true_iff.mpr (Or.inr ?_))
  exact List.any_eq_true.mpr ⟨cfg, hmem, hraises⟩

theorem add_overread : (addEventInfoForStream s e recog_cfg).overread = e.overread :=
  foldl_kept (addContext_overread s) recog_cfg e

/-! ### Removing a stream -/

/-- The streams and the entry of a context that the stream leaves. -/
def removed (x : ContextId × StreamMap) (v : Option StreamMap × Option stream_context_info) :
    Option StreamMap × Option stream_context_info :=
  match x.2[s]? with
  | none => v
  | some context_info =>
    (some (x.2.erase s), v.2.bind fun current =>
      if current.threshold ≠ context_info.threshold ∧ current.step_size ≠ context_info.step_size then
        some current
      else if (x.2.erase s).isEmpty then none
      else some (recompute current (x.2.erase s)).1)

def removeRaises (x : ContextId × StreamMap)
    (v : Option StreamMap × Option stream_context_info) : Bool :=
  match x.2[s]? with
  | none => false
  | some context_info => v.2.elim false fun current =>
      if current.threshold ≠ context_info.threshold ∧ current.step_size ≠ context_info.step_size then
        false
      else (x.2.erase s).isEmpty || (recompute current (x.2.erase s)).2

variable (x : ContextId × StreamMap)

theorem removeContext_self :
    (removeContext s e x).context x.1 = removed s x (e.context x.1) := by
  cases hs : x.2[s]? with
  | none => simp [removeContext, context, removed, hs]
  | some context_info =>
    cases hcum : e.cumulative_contextinfo_map_[x.1]? with
    | none => simp [removeContext, context, removed, hs, hcum]
    | some current =>
      simp only [removeContext, context, removed, hs, hcum, Option.bind_some]
      split
      · simp [hcum]
      · split
        · simp
        · simp

theorem removeContext_other (hc : c ≠ x.1) : (removeContext s e x).context c = e.context c := by
  cases hs : x.2[s]? with
  | none => simp [removeContext, context, hs]
  | some context_info =>
    cases hcum : e.cumulative_contextinfo_map_[x.1]? with
    | none => simp [removeContext, context, hs, hcum, Std.TreeMap.getElem?_insert, hc.symm]
    | some current =>
      simp only [removeContext, context, hs, hcum]
      split
      · simp [Std.TreeMap.getElem?_insert, hc.symm]
      · split
        · simp [Std.TreeMap.getElem?_insert, Std.TreeMap.getElem?_erase, hc.symm]
        · simp [Std.TreeMap.getElem?_insert, hc.symm]

theorem removeContext_updated : (removeContext s e x).is_confidence_value_updated_ =
    (e.is_confidence_value_updated_ || removeRaises s x (e.context x.1)) := by
  cases hs : x.2[s]? with
  | none => simp [removeContext, removeRaises, hs]
  | some context_info =>
    cases hcum : e.cumulative_contextinfo_map_[x.1]? with
    | none => simp [removeContext, context, removeRaises, hs, hcum]
    | some current =>
      simp only [removeContext, context, removeRaises, hs, hcum, Option.elim_some]
      split
      · exact (Bool.or_false _).symm
      · split
        next hempty => rw [hempty, Bool.true_or, Bool.or_true]
        next hempty => rw [Bool.eq_false_of_not_eq_true hempty, Bool.false_or]

theorem removeContext_overread : (removeContext s e x).overread = e.overread := by
  cases hs : x.2[s]? with
  | none => simp [removeContext, hs]
  | some context_info =>
    cases hcum : e.cumulative_contextinfo_map_[x.1]? with
    | none => simp [removeContext, hs, hcum]
    | some current =>
      simp only [removeContext, hs, hcum]
      split
      · rfl
      · split
        · rfl
        · rfl

theorem removeContext_ownKeys : OwnKeys (removeContext s) Prod.fst context (removed s)
    fun _ _ => True where
  self e x _ := removeContext_self s e x
  other e x _ _ := removeContext_other s e x

theorem remove_of_some {streams : StreamMap} (hc : e.contextinfo_stream_map_[c]? = some streams) :
    (removeEventInfoForStream s e).context c = removed s (c, streams) (e.context c) :=
  (removeContext_ownKeys s).toList_foldl_of_some hc fun _ _ => trivial

theorem remove_of_none (hc : e.contextinfo_stream_map_[c]? = none) :
    (removeEventInfoForStream s e).context c = e.context c :=
  (removeContext_ownKeys s).toList_foldl_of_none hc fun _ _ => trivial

theorem remove_info (t : StreamId) (c : ContextId) :
    (removeEventInfoForStream s e).contextinfo_stream_map_.info t c =
      if t = s then none else e.contextinfo_stream_map_.info t c := by
  have hstreams : (removeEventInfoForStream s e).contextinfo_stream_map_.info t c =
      ((removeEventInfoForStream s e).context c).1.bind fun streams => streams[t]? := rfl
  cases hc : e.contextinfo_stream_map_[c]? with
  | none =>
    rw [hstreams, remove_of_none s e hc]
    simp [context, ContextMap.info, hc]
  | some streams =>
    rw [hstreams, remove_of_some s e hc]
    cases hs : streams[s]? with
    | none =>
      simp only [removed, hs, context, ContextMap.info, hc, Option.bind_some]
      split
      next hts => rw [hts, hs]
      next => rfl
    | some context_info =>
      simp only [removed, hs, ContextMap.info, hc, Option.bind_some]
      split
      next hts => rw [hts, Std.TreeMap.getElem?_erase_self]
      next hts => simp [Std.TreeMap.getElem?_erase, Ne.symm hts]

/-- A context that the stream has no entry for stays as it is. -/
theorem remove_context (hs : e.contextinfo_stream_map_.info s c = none) :
    (removeEventInfoForStream s e).context c = e.context c := by
  cases hc : e.contextinfo_stream_map_[c]? with
  | none => exact remove_of_none s e hc
  | some streams =>
    rw [ContextMap.info, hc, Option.bind_some] at hs
    rw [remove_of_some s e hc]
    simp only [removed, hs]

theorem remove_entry {streams : StreamMap} {context_info current : stream_context_info}
    (hc : e.contextinfo_stream_map_[c]? = some streams) (hs : streams[s]? = some context_info)
    (hcum : e.cumulative_contextinfo_map_[c]? = some current) :
    (removeEventInfoForStream s e).cumulative_contextinfo_map_[c]? =
      if current.threshold ≠ context_info.threshold ∧ current.step_size ≠ context_info.step_size then
        some current
      else if (streams.erase s).isEmpty then none
      else some (recompute current (streams.erase s)).1 := by
  refine (congrArg Prod.snd (remove_of_some s e hc)).trans ?_
  simp only [removed, hs, context, hcum, Option.bind_some]

theorem remove_updated : (removeEventInfoForStream s e).is_confidence_value_updated_ = true ↔
    e.is_confidence_value_updated_ = true ∨ ∃ c streams,
      e.contextinfo_stream_map_[c]? = some streams ∧
        removeRaises s (c, streams) (e.context c) = true :=
  (removeContext_ownKeys s).toList_foldl_flag (removeRaises s) (fun _ _ => trivial)
    fun e x _ => removeContext_updated s e x

theorem remove_overread : (removeEventInfoForStream s e).overread = e.overread :=
  foldl_kept (removeContext_overread s) _ e

/-! ### Updating the streams -/

/-- The streams of a context that the new config lists. -/
def updated (streams : StreamMap) (cfg : acd_per_context_cfg) : StreamMap :=
  match streams[s]? with
  | none => streams.insertIfNew s cfg.info
  | some info => streams.insert s { info with threshold := cfg.threshold, step_size := cfg.step_size }

theorem updateInfo_of_notMem (streams : StreamMap)
    (hc : c ∉ recog_cfg.map acd_per_context_cfg.context_id) (acc : StreamMap × Bool) :
    recog_cfg.foldl (updateInfo s c streams) acc = acc := by
  induction recog_cfg generalizing acc with
  | nil => rfl
  | cons cfg recog_cfg ih =>
    obtain ⟨hne, hc⟩ := List.ne_and_not_mem_of_not_mem_cons hc
    rw [List.foldl_cons, updateInfo, if_neg hne, ih hc]

theorem updateStream_of_mem (streams : StreamMap) (hcfg : ValidConfig recog_cfg)
    (hmem : cfg ∈ recog_cfg) :
    updateStream s cfg.context_id streams recog_cfg = (updated s streams cfg, true) := by
  obtain ⟨ahead, behind, rfl⟩ := List.append_of_mem hmem
  have hnodup := hcfg.1
  rw [List.map_append, List.map_cons, List.nodup_middle, List.nodup_cons, List.mem_append,
    not_or] at hnodup
  unfold updateStream
  rw [List.foldl_append, updateInfo_of_notMem s _ hnodup.1.1, List.foldl_cons,
    updateInfo_of_notMem s _ hnodup.1.2, updateInfo, if_pos rfl]
  cases hs : streams[s]? with
  | none => simp only [updated, hs]
  | some info => simp only [updated, hs]

theorem updateStream_of_notMem (streams : StreamMap)
    (hc : c ∉ recog_cfg.map acd_per_context_cfg.context_id) :
    updateStream s c streams recog_cfg = (streams, false) :=
  updateInfo_of_notMem s streams hc (streams, false)

theorem updated_self (streams : StreamMap) (cfg : acd_per_context_cfg) :
    ∃ info, (updated s streams cfg)[s]? = some info ∧ info.values = cfg.info.values := by
  cases hs : streams[s]? with
  | none => exact ⟨cfg.info, by simp only [updated, hs, insertIfNew_self hs], rfl⟩
  | some info =>
    refine ⟨{ info with threshold := cfg.threshold, step_size := cfg.step_size }, ?_, rfl⟩
    simp only [updated, hs, Std.TreeMap.getElem?_insert_self]

theorem updated_other {t : StreamId} (ht : t ≠ s) (streams : StreamMap)
    (cfg : acd_per_context_cfg) : (updated s streams cfg)[t]? = streams[t]? := by
  cases hs : streams[s]? with
  | none => simp only [updated, hs, insertIfNew_other _ ht]
  | some info => simp [updated, hs, Std.TreeMap.getElem?_insert, ht.symm]

/-- The streams of a context that the first loop leaves. -/
def left (recog_cfg : List acd_per_context_cfg) (x : ContextId × StreamMap) : Option StreamMap :=
  if (updateStream s x.1 x.2 recog_cfg).2 then some (updateStream s x.1 x.2 recog_cfg).1
  else if (x.2.erase s).isEmpty then none
  else some (x.2.erase s)

theorem updateContext_ownKeys : OwnKeys (updateContext s recog_cfg) Prod.fst
    (fun (c : ContextId) (m : ContextMap) => m[c]?) (fun x _ => left s recog_cfg x)
    fun _ _ => True where
  self m x _ := by
    simp only [updateContext, left]
    split
    · exact Std.TreeMap.getElem?_insert_self
    · split
      · exact Std.TreeMap.getElem?_erase_self
      · exact Std.TreeMap.getElem?_insert_self
  other m x c _ hc := by
    simp only [updateContext]
    split
    · simp [Std.TreeMap.getElem?_insert, hc.symm]
    · split
      · simp [Std.TreeMap.getElem?_erase, hc.symm]
      · simp [Std.TreeMap.getElem?_insert, hc.symm]

theorem insertContext_ownKeys : OwnKeys (insertContext s) acd_per_context_cfg.context_id
    (fun (c : ContextId) (m : ContextMap) => m[c]?)
    (fun cfg v => some (v.getD ((∅ : StreamMap).insertIfNew s cfg.info))) fun _ _ => True where
  self m cfg _ := by
    cases hm : m[cfg.context_id]? with
    | none => simp only [insertContext, hm, insertIfNew_self hm, Option.getD_none]
    | some streams => simp only [insertContext, hm, Option.getD_some]
  other m cfg c _ hc := by
    cases hm : m[cfg.context_id]? with
    | none => simp only [insertContext, hm, insertIfNew_other m hc]
    | some streams => simp only [insertContext, hm]

/-- The streams of the contexts after an update. -/
def updatedMap (recog_cfg : List acd_per_context_cfg) (m : ContextMap) : ContextMap :=
  recog_cfg.foldl (insertContext s) (m.toList.foldl (updateContext s recog_cfg) m)

theorem updatedMap_of_mem (m : ContextMap) (hcfg : ValidConfig recog_cfg) (hmem : cfg ∈ recog_cfg) :
    (updatedMap s recog_cfg m)[cfg.context_id]? =
      some (updated s (m[cfg.context_id]?.getD ∅) cfg) := by
  refine ((insertContext_ownKeys s).foldl_of_mem hmem hcfg.1 fun _ _ => trivial).trans
    (congrArg some ?_)
  cases hm : m[cfg.context_id]? with
  | none =>
    rw [(updateContext_ownKeys s).toList_foldl_of_none hm fun _ _ => trivial, hm]
    rfl
  | some streams =>
    rw [(updateContext_ownKeys s).toList_foldl_of_some hm fun _ _ => trivial, left,
      updateStream_of_mem s streams hcfg hmem]
    rfl

theorem updatedMap_of_notMem (m : ContextMap) (hcfg : ValidConfig recog_cfg)
    (hc : c ∉ recog_cfg.map acd_per_context_cfg.context_id) :
    (updatedMap s recog_cfg m)[c]? = m[c]?.bind fun streams =>
      if (streams.erase s).isEmpty then none else some (streams.erase s) := by
  refine ((insertContext_ownKeys s).foldl_of_notMem hc hcfg.1 fun _ _ => trivial).trans ?_
  cases hm : m[c]? with
  | none =>
    rw [(updateContext_ownKeys s).toList_foldl_of_none hm fun _ _ => trivial, hm]
    rfl
  | some streams =>
    rw [(updateContext_ownKeys s).toList_foldl_of_some hm fun _ _ => trivial, left,
      updateStream_of_notMem s streams hc]
    rfl

theorem updatedMap_info_of_mem (m : ContextMap) (hcfg : ValidConfig recog_cfg)
    (hmem : cfg ∈ recog_cfg) : ∃ info, (updatedMap s recog_cfg m).info s cfg.context_id = some info ∧
      info.values = cfg.info.values := by
  obtain ⟨info, hinfo, hvalues⟩ := updated_self s (m[cfg.context_id]?.getD ∅) cfg
  refine ⟨info, ?_, hvalues⟩
  rw [ContextMap.info, updatedMap_of_mem s m hcfg hmem]
  exact hinfo

theorem updatedMap_info_of_notMem (m : ContextMap) (hcfg : ValidConfig recog_cfg)
    (hc : c ∉ recog_cfg.map acd_per_context_cfg.context_id) :
    (updatedMap s recog_cfg m).info s c = none := by
  rw [ContextMap.info, updatedMap_of_notMem s m hcfg hc]
  cases hm : m[c]? with
  | none => rfl
  | some streams =>
    rw [Option.bind_some]
    split
    · rfl
    · exact Std.TreeMap.getElem?_erase_self

theorem updatedMap_info_other {t : StreamId} (ht : t ≠ s) (m : ContextMap)
    (hcfg : ValidConfig recog_cfg) (c : ContextId) :
    (updatedMap s recog_cfg m).info t c = m.info t c := by
  by_cases hc : c ∈ recog_cfg.map acd_per_context_cfg.context_id
  · obtain ⟨cfg, hmem, rfl⟩ := List.mem_map.mp hc
    rw [ContextMap.info, updatedMap_of_mem s m hcfg hmem, Option.bind_some, updated_other s ht]
    exact getD_lookup _ t
  · rw [ContextMap.info, updatedMap_of_notMem s m hcfg hc, ContextMap.info]
    cases hm : m[c]? with
    | none => rfl
    | some streams =>
      have herase : (streams.erase s)[t]? = streams[t]? := by
        simp [Std.TreeMap.getElem?_erase, ht.symm]
      rw [Option.bind_some, Option.bind_some, ← herase]
      split
      next hempty => exact (Std.TreeMap.getElem?_of_isEmpty hempty).symm
      next => rfl

/-- An update leaves no context without streams. -/
theorem updatedMap_exists {m : ContextMap} {streams : StreamMap} (hcfg : ValidConfig recog_cfg)
    (hc : (updatedMap s recog_cfg m)[c]? = some streams) :
    ∃ (t : StreamId) (info : stream_context_info), streams[t]? = some info := by
  by_cases hlists : c ∈ recog_cfg.map acd_per_context_cfg.context_id
  · obtain ⟨cfg, hmem, rfl⟩ := List.mem_map.mp hlists
    obtain ⟨info, hinfo, -⟩ := updatedMap_info_of_mem s m hcfg hmem
    rw [ContextMap.info, hc] at hinfo
    exact ⟨s, info, hinfo⟩
  · rw [updatedMap_of_notMem s m hcfg hlists] at hc
    obtain ⟨streams', -, hc⟩ := Option.bind_eq_some_iff.mp hc
    split at hc
    · cases hc
    next hempty =>
      cases hc
      exact exists_of_not_isEmpty hempty

/-! ### The entries after an update -/

theorem eraseGone_ownKeys (m : ContextMap) : OwnKeys (eraseGone m) Prod.fst
    (fun (c : ContextId) (e : EventInfo) => e.cumulative_contextinfo_map_[c]?)
    (fun x v => m[x.1]?.bind fun _ => v) fun _ _ => True where
  self e x _ := by
    cases hm : m[x.1]? with
    | none => simp only [eraseGone, hm, Std.TreeMap.getElem?_erase_self, Option.bind_none]
    | some streams => simp only [eraseGone, hm, Option.bind_some]
  other e x c _ hc := by
    cases hm : m[x.1]? with
    | none => simp [eraseGone, hm, Std.TreeMap.getElem?_erase, hc.symm]
    | some streams => simp only [eraseGone, hm]

theorem eraseGone_updated (m : ContextMap) (x : ContextId × stream_context_info) :
    (eraseGone m e x).is_confidence_value_updated_ =
      (e.is_confidence_value_updated_ || m[x.1]?.isNone) := by
  cases hm : m[x.1]? with
  | none => simp [eraseGone, hm]
  | some streams => simp [eraseGone, hm]

/-- The engine after the third loop. -/
def gone (m : ContextMap) (e : EventInfo) : EventInfo :=
  e.cumulative_contextinfo_map_.toList.foldl (eraseGone m) e

theorem gone_entry (m : ContextMap) : (gone m e).cumulative_contextinfo_map_[c]? =
    m[c]?.bind fun _ => e.cumulative_contextinfo_map_[c]? := by
  cases hcum : e.cumulative_contextinfo_map_[c]? with
  | none =>
    refine ((eraseGone_ownKeys m).toList_foldl_of_none hcum fun _ _ => trivial).trans ?_
    rw [hcum]
    cases m[c]? with
    | none => rfl
    | some streams => rfl
  | some current =>
    refine ((eraseGone_ownKeys m).toList_foldl_of_some hcum fun _ _ => trivial).trans ?_
    rw [hcum]

theorem gone_updated (m : ContextMap) : (gone m e).is_confidence_value_updated_ = true ↔
    e.is_confidence_value_updated_ = true ∨ ∃ (c : ContextId) (current : stream_context_info),
      e.cumulative_contextinfo_map_[c]? = some current ∧ m[c]?.isNone = true :=
  (eraseGone_ownKeys m).toList_foldl_flag (fun x _ => m[x.1]?.isNone)
    (fun _ _ => trivial) fun e x _ => eraseGone_updated e m x

theorem eraseGone_frame (m : ContextMap) (x : ContextId × stream_context_info) :
    (eraseGone m e x).overread = e.overread ∧
      (eraseGone m e x).contextinfo_stream_map_ = e.contextinfo_stream_map_ := by
  cases hm : m[x.1]? with
  | none => simp only [eraseGone, hm, and_self]
  | some streams => simp only [eraseGone, hm, and_self]

theorem gone_overread (m : ContextMap) : (gone m e).overread = e.overread :=
  foldl_kept (fun e x => (eraseGone_frame e m x).1) _ e

theorem gone_streams (m : ContextMap) :
    (gone m e).contextinfo_stream_map_ = e.contextinfo_stream_map_ :=
  foldl_kept (fun e x => (eraseGone_frame e m x).2) _ e

/-! ### Lowering the entries -/

theorem lowerAll_flag (current : stream_context_info) (l : List (StreamId × stream_context_info))
    (b : Bool) : lowerAll (current, b) l =
      ((lowerAll (current, false) l).1, b || (lowerAll (current, false) l).2) := by
  induction l generalizing current b with
  | nil => exact Prod.ext rfl (Bool.or_false b).symm
  | cons y l ih =>
    have hcons : ∀ b, lowerAll (current, b) (y :: l) =
        lowerAll ((lower current y.2).1, b || (lower current y.2).2) l := fun _ => rfl
    rw [hcons, hcons, ih, ih _ (false || _), Bool.false_or, Bool.or_assoc]

variable (beyond : acd_per_context_cfg)

theorem lowerContext_of_some {current : stream_context_info} (y : StreamId × stream_context_info)
    (hcum : e.cumulative_contextinfo_map_[c]? = some current) :
    (lowerContext beyond c e y).cumulative_contextinfo_map_[c]? = some (lower current y.2).1 ∧
      (lowerContext beyond c e y).is_confidence_value_updated_ =
        (e.is_confidence_value_updated_ || (lower current y.2).2) ∧
      (lowerContext beyond c e y).overread = e.overread ∧
      ∀ d ≠ c, (lowerContext beyond c e y).cumulative_contextinfo_map_[d]? =
        e.cumulative_contextinfo_map_[d]? := by
  simp only [lowerContext, hcum, Std.TreeMap.getElem?_insert_self, true_and]
  intro d hd
  simp [Std.TreeMap.getElem?_insert, hd.symm]

/-- The loop over the streams of a context that has an entry. -/
theorem foldl_lowerContext (l : List (StreamId × stream_context_info))
    {current : stream_context_info} (hcum : e.cumulative_contextinfo_map_[c]? = some current) :
    (l.foldl (lowerContext beyond c) e).cumulative_contextinfo_map_[c]? =
        some (lowerAll (current, false) l).1 ∧
      (l.foldl (lowerContext beyond c) e).is_confidence_value_updated_ =
        (e.is_confidence_value_updated_ || (lowerAll (current, false) l).2) ∧
      (l.foldl (lowerContext beyond c) e).overread = e.overread ∧
      ∀ d ≠ c, (l.foldl (lowerContext beyond c) e).cumulative_contextinfo_map_[d]? =
        e.cumulative_contextinfo_map_[d]? := by
  induction l generalizing e current with
  | nil => exact ⟨hcum, (Bool.or_false _).symm, rfl, fun _ _ => rfl⟩
  | cons y l ih =>
    obtain ⟨hentry, hupdated, hoverread, hother⟩ := lowerContext_of_some e beyond y hcum
    obtain ⟨hentry', hupdated', hoverread', hother'⟩ := ih (lowerContext beyond c e y) hentry
    have hcons : lowerAll (current, false) (y :: l) =
        lowerAll ((lower current y.2).1, false || (lower current y.2).2) l := rfl
    rw [hcons, lowerAll_flag, Bool.false_or]
    refine ⟨hentry', ?_, hoverread'.trans hoverread, fun d hd => ?_⟩
    · rw [List.foldl_cons, hupdated', hupdated, Bool.or_assoc]
    · exact (hother' d hd).trans (hother d hd)

theorem lowerStreams_ownKeys : OwnKeys (lowerStreams beyond) Prod.fst
    (fun (c : ContextId) (e : EventInfo) => e.cumulative_contextinfo_map_[c]?)
    (fun x v => v.map fun current => (lowerAll (current, false) x.2.toList).1)
    fun _ v => v.isSome = true where
  self e x hok := by
    obtain ⟨current, hcum⟩ := Option.isSome_iff_exists.mp hok
    rw [hcum]
    exact (foldl_lowerContext e beyond x.2.toList hcum).1
  other e x c hok hc := by
    obtain ⟨current, hcum⟩ := Option.isSome_iff_exists.mp hok
    exact (foldl_lowerContext e beyond x.2.toList hcum).2.2.2 c hc

/-- A pass for a stream never puts the mark of the read away. -/
theorem lowerContext_overread (y : StreamId × stream_context_info) (h : e.overread = true) :
    (lowerContext beyond c e y).overread = true := by
  cases hcum : e.cumulative_contextinfo_map_[c]? with
  | none => simp only [lowerContext, hcum]
  | some current => simp only [lowerContext, hcum, h]

theorem foldl_lowerContext_overread (l : List (StreamId × stream_context_info))
    (h : e.overread = true) : (l.foldl (lowerContext beyond c) e).overread = true := by
  induction l generalizing e with
  | nil => exact h
  | cons y l ih => exact ih _ (lowerContext_overread e beyond y h)

theorem foldl_lowerStreams_overread (l : List (ContextId × StreamMap)) (h : e.overread = true) :
    (l.foldl (lowerStreams beyond) e).overread = true := by
  induction l generalizing e with
  | nil => exact h
  | cons x l ih => exact ih _ (foldl_lowerContext_overread e beyond x.2.toList h)

theorem lowerStreams_overread {x : ContextId × StreamMap} (hstreams : x.2.toList ≠ [])
    (hcum : e.cumulative_contextinfo_map_[x.1]? = none) :
    (lowerStreams beyond e x).overread = true := by
  obtain ⟨z, streams, hz⟩ := List.exists_cons_of_ne_nil hstreams
  unfold lowerStreams
  rw [hz, List.foldl_cons]
  refine foldl_lowerContext_overread _ beyond streams ?_
  simp only [lowerContext, hcum]

/-- A context with streams and without an entry has the loop read on. -/
theorem overread_of_none {l : List (ContextId × StreamMap)} {x : ContextId × StreamMap}
    (hl : (l.map Prod.fst).Nodup) (hx : x ∈ l) (hstreams : ∀ y ∈ l, y.2.toList ≠ [])
    (hcum : e.cumulative_contextinfo_map_[x.1]? = none) :
    (l.foldl (lowerStreams beyond) e).overread = true := by
  induction l generalizing e with
  | nil => exact absurd hx List.not_mem_nil
  | cons y l ih =>
    obtain ⟨hy, hl⟩ := List.nodup_cons.mp hl
    rw [List.foldl_cons]
    cases hcumy : e.cumulative_contextinfo_map_[y.1]? with
    | none =>
      refine foldl_lowerStreams_overread _ beyond l ?_
      exact lowerStreams_overread e beyond (hstreams y List.mem_cons_self) hcumy
    | some current =>
      -- the pass of another context leaves the missing entry missing
      have hne : x.1 ≠ y.1 := by
        intro heq
        rw [heq, hcumy] at hcum
        cases hcum
      have hx : x ∈ l := (List.mem_cons.mp hx).resolve_left fun heq => hne (heq ▸ rfl)
      refine ih _ hl hx (fun z hz => hstreams z (List.mem_cons_of_mem _ hz)) ?_
      refine ((lowerStreams_ownKeys beyond).other e y x.1 ?_ hne).trans hcum
      rw [hcumy]
      rfl

/-! ### An update -/

theorem lowerStreams_streams (x : ContextId × StreamMap) :
    (lowerStreams beyond e x).contextinfo_stream_map_ = e.contextinfo_stream_map_ := by
  refine foldl_kept (fun e y => ?_) _ e
  cases hcum : e.cumulative_contextinfo_map_[x.1]? with
  | none => simp only [lowerContext, hcum]
  | some current => simp only [lowerContext, hcum]

theorem lowerStreams_updated {x : ContextId × StreamMap}
    (hok : e.cumulative_contextinfo_map_[x.1]?.isSome = true) :
    (lowerStreams beyond e x).is_confidence_value_updated_ =
      (e.is_confidence_value_updated_ || e.cumulative_contextinfo_map_[x.1]?.elim false fun current =>
        (lowerAll (current, false) x.2.toList).2) := by
  obtain ⟨current, hcum⟩ := Option.isSome_iff_exists.mp hok
  rw [hcum]
  exact (foldl_lowerContext e beyond x.2.toList hcum).2.1

theorem update_streams : (updateEventInfoForStream s e recog_cfg beyond).contextinfo_stream_map_ =
    updatedMap s recog_cfg e.contextinfo_stream_map_ :=
  (foldl_kept (fun e x => lowerStreams_streams e beyond x) _ _).trans (gone_streams _ _)

variable {s e beyond} {m : ContextMap}

section Entries

variable (hm : updatedMap s recog_cfg e.contextinfo_stream_map_ = m)
  (hall : ∀ (c : ContextId) streams, m[c]? = some streams →
    e.cumulative_contextinfo_map_[c]?.isSome = true)

include hm

theorem update_eq : updateEventInfoForStream s e recog_cfg beyond =
    m.toList.foldl (lowerStreams beyond) (gone m { e with contextinfo_stream_map_ := m }) := by
  subst hm
  rfl

theorem update_overread {streams : StreamMap} (hc : m[c]? = some streams)
    (hstreams : ∀ (d : ContextId) streams, m[d]? = some streams → streams.toList ≠ [])
    (hcum : e.cumulative_contextinfo_map_[c]? = none) :
    (updateEventInfoForStream s e recog_cfg beyond).overread = true := by
  rw [update_eq hm]
  refine overread_of_none (x := (c, streams)) _ beyond (OwnKeys.nodup_keys_toList m)
    (Std.TreeMap.mem_toList_iff_getElem?_eq_some.mpr hc) (fun y hy => ?_) ?_
  · exact hstreams y.1 y.2 (Std.TreeMap.mem_toList_iff_getElem?_eq_some.mp hy)
  · rw [gone_entry, hc]
    exact hcum

include hall

omit hm in
theorem gone_isSome : ∀ x ∈ m.toList,
    (gone m { e with contextinfo_stream_map_ := m }).cumulative_contextinfo_map_[x.1]?.isSome =
      true := by
  intro x hx
  have hc := Std.TreeMap.mem_toList_iff_getElem?_eq_some.mp hx
  rw [gone_entry, hc]
  exact hall x.1 x.2 hc

theorem update_entry :
    (updateEventInfoForStream s e recog_cfg beyond).cumulative_contextinfo_map_[c]? =
      m[c]?.bind fun streams => e.cumulative_contextinfo_map_[c]?.map fun current =>
        (lowerAll (current, false) streams.toList).1 := by
  rw [update_eq hm]
  cases hc : m[c]? with
  | none =>
    refine ((lowerStreams_ownKeys beyond).toList_foldl_of_none hc (gone_isSome hall)).trans ?_
    rw [gone_entry, hc]
    rfl
  | some streams =>
    refine ((lowerStreams_ownKeys beyond).toList_foldl_of_some hc (gone_isSome hall)).trans ?_
    rw [gone_entry, hc]
    rfl

theorem update_overread_eq :
    (updateEventInfoForStream s e recog_cfg beyond).overread = e.overread := by
  have hkept : ∀ e x, e.cumulative_contextinfo_map_[x.1]?.isSome = true →
      (lowerStreams beyond e x).overread = (e.overread || false) := by
    intro e x hok
    obtain ⟨current, hcum⟩ := Option.isSome_iff_exists.mp hok
    rw [Bool.or_false]
    exact (foldl_lowerContext e beyond x.2.toList hcum).2.2.1
  have hloop := (lowerStreams_ownKeys beyond).foldl_flag (fun _ _ => false) hkept
    (OwnKeys.nodup_keys_toList m) (gone_isSome hall)
  rw [update_eq hm, hloop, gone_overread]
  simp

theorem update_updated : (updateEventInfoForStream s e recog_cfg
    beyond).is_confidence_value_updated_ = true ↔ e.is_confidence_value_updated_ = true ∨
      (∃ (c : ContextId) (current : stream_context_info),
        e.cumulative_contextinfo_map_[c]? = some current ∧ m[c]?.isNone = true) ∨
      ∃ (c : ContextId) (streams : StreamMap) (current : stream_context_info),
        m[c]? = some streams ∧ e.cumulative_contextinfo_map_[c]? = some current ∧
          (lowerAll (current, false) streams.toList).2 = true := by
  have hloop := (lowerStreams_ownKeys beyond).toList_foldl_flag
    (fun x v => v.elim false fun current => (lowerAll (current, false) x.2.toList).2)
    (gone_isSome hall) fun e x hok => lowerStreams_updated e beyond hok
  rw [update_eq hm, hloop, gone_updated, or_assoc]
  refine or_congr_right (or_congr_right ?_)
  refine exists_congr fun c => ⟨?_, ?_⟩
  · rintro ⟨streams, hc, hraises⟩
    obtain ⟨current, hcum⟩ := Option.isSome_iff_exists.mp (hall c streams hc)
    rw [gone_entry, hc, Option.bind_some, hcum] at hraises
    exact ⟨streams, current, hc, hcum, hraises⟩
  · rintro ⟨streams, current, hc, hcum, hraises⟩
    refine ⟨streams, hc, ?_⟩
    rw [gone_entry, hc, Option.bind_some, hcum]
    exact hraises

end Entries

end EventInfo

end AudioReachPal.ACD
