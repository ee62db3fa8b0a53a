import AudioReachPal.PayloadBuilder.Search
import AudioReachPal.Lib.KeyedLoop

/-!
# The keys a call selects

What a call is for: of each group for the id it gives the keys of the first entry that has all the
filled pairs, and when there is no such entry in any group, the same without the custom
configuration. The calls before it only sort pairs in the tables, so they do not matter. The search
itself compares vectors of one length as they are, so a pair that was filled twice keeps an entry of
that length from matching, and the loop that erases the custom configuration passes over a pair
behind an erased one. What the call is for is what it does, in every table and whatever came before,
for the filled pairs that are distinct and have at most one custom configuration.
-/

namespace AudioReachPal.PayloadBuilder

open AudioReachPal.Lib selector_type_t

variable {p : SelectorPair} {e : kvInfo} {T T' : List allKVs} {type : ℕ}
  {filled filled' : List SelectorPair} {keyVector : List (ℤ × ℤ)}

/-! ### The purpose -/

/-- The entry has all the filled pairs; when nothing is filled, it has no selectors. -/
def hasAll (filled : List SelectorPair) (e : kvInfo) : Bool :=
  if filled.isEmpty then e.selector_pairs.isEmpty else filled.all (· ∈ e.selector_pairs)

def withoutCustomConfig (filled : List SelectorPair) : List SelectorPair :=
  filled.filter fun p => !isCustomConfig p

/-- The entries whose keys the call is to give. -/
def selected (filled : List SelectorPair) (type : ℕ) (T : List allKVs) : List kvInfo :=
  if used (hasAll filled) type T = [] then used (hasAll (withoutCustomConfig filled)) type T
  else used (hasAll filled) type T

/-- The entries of a group are in the order of their number of selectors, and no entry has a selector
pair twice. -/
def Tables.WellFormed (t : Tables) : Prop :=
  ∀ table, ∀ g ∈ t table,
    g.keys_values.Pairwise (fun e e' => e.selector_names.length ≤ e'.selector_names.length) ∧
      ∀ e ∈ g.keys_values, e.selector_pairs.Nodup

/-- A call for the id gives the keys of the selected entries of its table, whatever the calls before
it were and however the filled pairs are ordered. -/
def Tables.Selects (t : Tables) (table : Table) (type : ℕ) (filled : List SelectorPair) : Prop :=
  ∀ keyVector history, ∀ filled' : List SelectorPair, filled'.Perm filled →
    let outcome := (t.afterAll history).retrieve
      { filled_selector_pairs := filled', type, table, keyVector }
    let entries := selected filled type (t table)
    outcome.1 = (if entries = [] then -EINVAL else 0) ∧
      outcome.2.keyVector = keyVector ++ keyValues entries

/-- Where a pair is filled twice, no entry that is to be used has as many pairs as are filled. -/
def NoRepeat (filled : List SelectorPair) (type : ℕ) (T : List allKVs) : Prop :=
  ∀ e ∈ used (hasAll filled) type T, e.selector_pairs.length = filled.length → filled.Nodup

/-- No search for the id is misled: repeated pairs make no difference, and before a second search
there is at most one custom configuration to erase, or nothing to find with the other pairs. -/
def Unhindered (filled : List SelectorPair) (type : ℕ) (T : List allKVs) : Prop :=
  NoRepeat filled type T ∧
    (used (hasAll filled) type T = [] → NoRepeat (withoutCustomConfig filled) type T ∧
      (filled.countP isCustomConfig ≤ 1 ∨ withoutCustomConfig filled ≠ [] ∧
        used (hasAll (withoutCustomConfig filled)) type T = []))

def kvInfo.withoutKeys (e : kvInfo) : kvInfo := { e with kv_pairs := [] }

/-- The tables ask for the same selectors, and may give other keys. -/
def Tables.SameSelectors (t' t : Tables) : Prop :=
  ∀ table, (t' table).map (allKVs.mapEntries kvInfo.withoutKeys) =
    (t table).map (allKVs.mapEntries kvInfo.withoutKeys)

/-! ### The test of the search and the one of the purpose -/

theorem hasAll_nil : hasAll [] e = true ↔ e.selector_pairs = [] := List.isEmpty_iff

theorem hasAll_of_ne_nil (hne : filled ≠ []) :
    hasAll filled e = true ↔ ∀ p ∈ filled, p ∈ e.selector_pairs := by
  rw [hasAll, if_neg (by rwa [List.isEmpty_iff])]
  simp

theorem mem_of_hasAll (h : hasAll filled e = true) (hp : p ∈ filled) : p ∈ e.selector_pairs :=
  (hasAll_of_ne_nil (List.ne_nil_of_mem hp)).mp h p hp

/-- Distinct pairs that an entry of the same number of pairs has are the pairs of the entry. -/
theorem accepts_eq_hasAll
    (h : e.selector_pairs.length = filled.length → hasAll filled e = true → filled.Nodup) :
    accepts filled e = hasAll filled e := by
  rw [Bool.eq_iff_iff]
  rcases eq_or_ne filled [] with rfl | hne
  · rw [accepts_nil, hasAll_nil]
  · by_cases hlen : e.selector_pairs.length = filled.length
    · rw [accepts_of_length_eq hne hlen]
      constructor
      · intro hperm
        exact (hasAll_of_ne_nil hne).mpr fun p hp => hperm.mem_iff.mpr hp
      · intro hall
        have hsubperm : filled.Subperm e.selector_pairs :=
          List.subperm_of_subset (h hlen hall) ((hasAll_of_ne_nil hne).mp hall)
        exact (hsubperm.perm_of_length_le hlen.le).symm
    · rw [accepts_of_length_ne hne hlen, hasAll_of_ne_nil hne]

theorem hasAll_of_accepts (h : accepts filled e = true) : hasAll filled e = true := by
  rcases eq_or_ne filled [] with rfl | hne
  · exact hasAll_nil.mpr (accepts_nil.mp h)
  · exact (hasAll_of_ne_nil hne).mpr fun p hp => mem_of_accepts h hp

theorem used_accepts (h : NoRepeat filled type T) :
    used (accepts filled) type T = used (hasAll filled) type T := by
  refine used_eq_of_imp (fun _ => hasAll_of_accepts) fun e he => ?_
  rw [accepts_eq_hasAll fun hlen _ => h e he hlen]
  exact of_mem_used he

theorem unhindered_of_nodup (hfilled : filled.Nodup) (hcustom : filled.countP isCustomConfig ≤ 1) :
    Unhindered filled type T :=
  ⟨fun _ _ _ => hfilled, fun _ => ⟨fun _ _ _ => hfilled.filter _, .inl hcustom⟩⟩

/-! ### Other keys -/

theorem hasAll_withoutKeys (filled : List SelectorPair) (e : kvInfo) :
    hasAll filled e.withoutKeys = hasAll filled e := rfl

theorem noRepeat_congr (hT : T'.map (allKVs.mapEntries kvInfo.withoutKeys) =
    T.map (allKVs.mapEntries kvInfo.withoutKeys)) :
    NoRepeat filled type T' ↔ NoRepeat filled type T := by
  have hmap : ∀ T, NoRepeat filled type T ↔ ∀ e ∈ (used (hasAll filled) type T).map
      kvInfo.withoutKeys, e.selector_pairs.length = filled.length → filled.Nodup := by
    intro T
    rw [List.forall_mem_map]
    exact Iff.rfl
  rw [hmap, hmap, used_congr (hasAll_withoutKeys filled) hT]

theorem unhindered_congr (hT : T'.map (allKVs.mapEntries kvInfo.withoutKeys) =
    T.map (allKVs.mapEntries kvInfo.withoutKeys)) :
    Unhindered filled type T' ↔ Unhindered filled type T := by
  unfold Unhindered
  rw [noRepeat_congr hT, noRepeat_congr hT, used_eq_nil_congr (hasAll_withoutKeys _) hT,
    used_eq_nil_congr (hasAll_withoutKeys _) hT]

/-! ### One call -/

theorem retrieveKVs_of_used_ne_nil (keyVector : List (ℤ × ℤ))
    (h : used (accepts filled) type T ≠ []) :
    (retrieveKVs filled type T keyVector).1 = 0 ∧
      (retrieveKVs filled type T keyVector).2.keyVector =
        keyVector ++ keyValues (used (accepts filled) type T) := by
  obtain ⟨-, -, hvector, hfound⟩ := findKVs_spec type T filled keyVector
  rw [retrieveKVs, if_pos (hfound.mpr h)]
  exact ⟨rfl, hvector⟩

/-- A search that fails is made again with what the loop leaves of the filled pairs. -/
theorem retrieveKVs_of_used_eq_nil (keyVector : List (ℤ × ℤ)) {rest : List SelectorPair}
    (h : used (accepts filled) type T = [])
    (hrest : (eraseLoop isCustomConfig
      (findKVs filled type keyVector T).filled_selector_pairs).1.Perm rest) :
    (retrieveKVs filled type T keyVector).1 =
        (if used (accepts rest) type T = [] then -EINVAL else 0) ∧
      (retrieveKVs filled type T keyVector).2.keyVector =
        keyVector ++ keyValues (used (accepts rest) type T) := by
  obtain ⟨hfilled, htable, hvector, hfound⟩ := findKVs_spec type T filled keyVector
  rw [h] at hvector hfound
  have hnot : ¬ (findKVs filled type keyVector T).found = true := fun hf => hfound.mp hf rfl
  have hvector' : (findKVs filled type keyVector T).keyVector = keyVector :=
    hvector.trans (List.append_nil _)
  rw [retrieveKVs, if_neg hnot]
  cases hfallback : (eraseLoop isCustomConfig
      (findKVs filled type keyVector T).filled_selector_pairs).2 with
  | false =>
    -- Nothing was erased, and the search would find nothing again.
    have hnone := eraseLoop_snd (p := isCustomConfig)
      (l := (findKVs filled type keyVector T).filled_selector_pairs)
    rw [hfallback, eq_comm, List.any_eq_false] at hnone
    rw [eraseLoop_of_none (List.countP_eq_zero.mpr hnone)] at hrest
    rw [← accepts_perm hrest, accepts_perm hfilled, h]
    simp only [hfallback]
    exact ⟨rfl, hvector'.trans (List.append_nil _).symm⟩
  | true =>
    obtain ⟨-, -, hvector₂, hfound₂⟩ := findKVs_spec type
      (findKVs filled type keyVector T).any_type
      (eraseLoop isCustomConfig (findKVs filled type keyVector T).filled_selector_pairs).1
      (findKVs filled type keyVector T).keyVector
    rw [accepts_perm hrest] at hvector₂ hfound₂
    rw [keyValues_used_congr (accepts_canonical _) htable] at hvector₂
    rw [ne_eq, used_eq_nil_congr (accepts_canonical _) htable] at hfound₂
    simp only [hfallback, if_true]
    refine ⟨?_, by rw [hvector₂, hvector']⟩
    by_cases hnil : used (accepts rest) type T = []
    · rw [if_pos hnil, if_neg fun hf => hfound₂.mp hf hnil]
    · rw [if_neg hnil, if_pos (hfound₂.mpr hnil)]

/-- Where at most one pair is a custom configuration, the loop leaves what is to be left. -/
theorem eraseLoop_perm (h : filled.countP isCustomConfig ≤ 1) (hperm : filled'.Perm filled) :
    (eraseLoop isCustomConfig filled').1.Perm (withoutCustomConfig filled) := by
  have hcount : filled'.countP isCustomConfig ≤ 1 := hperm.countP_eq isCustomConfig ▸ h
  rw [eraseLoop_fst hcount]
  exact hperm.filter _

/-- The pairs that are no custom configuration are all left. -/
theorem used_accepts_eraseLoop (hne : withoutCustomConfig filled ≠ []) (hperm : filled'.Perm filled)
    (h : used (hasAll (withoutCustomConfig filled)) type T = []) :
    used (accepts (eraseLoop isCustomConfig filled').1) type T = [] := by
  have hsub : ∀ p ∈ withoutCustomConfig filled, p ∈ (eraseLoop isCustomConfig filled').1 := by
    intro p hp
    obtain ⟨hmem, hkept⟩ := List.mem_filter.mp hp
    exact mem_eraseLoop_of_not (hperm.mem_iff.mpr hmem) (by simpa using hkept)
  rw [← h]
  refine used_eq_of_imp (fun e he => ?_) fun e he => ?_
  · exact (hasAll_of_ne_nil hne).mpr fun p hp => mem_of_accepts he (hsub p hp)
  · rw [h] at he
    exact absurd he List.not_mem_nil

/-- A call gives the keys of the selected entries, also those of a table that differs in the order of
the pairs. -/
theorem retrieveKVs_selects (hperm : filled'.Perm filled) (hT : canonical T' = canonical T)
    (h : Unhindered filled type T) :
    (retrieveKVs filled' type T' keyVector).1 =
        (if selected filled type T = [] then -EINVAL else 0) ∧
      (retrieveKVs filled' type T' keyVector).2.keyVector =
        keyVector ++ keyValues (selected filled type T) := by
  obtain ⟨hrepeat, hsecond⟩ := h
  have hT' : T'.map (allKVs.mapEntries kvInfo.canonical) =
      T.map (allKVs.mapEntries kvInfo.canonical) := hT
  have hfirst := used_accepts hrepeat
  have hnil : used (accepts filled') type T' = [] ↔ used (hasAll filled) type T = [] := by
    rw [accepts_perm hperm, used_eq_nil_congr (accepts_canonical _) hT', hfirst]
  unfold selected
  by_cases hused : used (hasAll filled) type T = []
  · obtain ⟨hrepeat', hone⟩ := hsecond hused
    have hleft := (findKVs_spec type T' filled' keyVector).1.trans hperm
    have hagain := retrieveKVs_of_used_eq_nil keyVector (hnil.mpr hused) (List.Perm.refl _)
    have hrest : used (accepts (eraseLoop isCustomConfig
        (findKVs filled' type keyVector T').filled_selector_pairs).1) type T =
          used (hasAll (withoutCustomConfig filled)) type T := by
      rcases hone with hcustom | ⟨hne, hnone⟩
      · rw [accepts_perm (eraseLoop_perm hcustom hleft), used_accepts hrepeat']
      · rw [used_accepts_eraseLoop hne hleft hnone, hnone]
    simp only [keyValues_used_congr (accepts_canonical _) hT,
      used_eq_nil_congr (accepts_canonical _) hT', hrest] at hagain
    rw [if_pos hused]
    exact hagain
  · have hfound := retrieveKVs_of_used_ne_nil keyVector fun h => hused (hnil.mp h)
    rw [accepts_perm hperm, keyValues_used_congr (accepts_canonical _) hT, hfirst] at hfound
    rw [if_neg hused, if_neg hused]
    exact hfound

/-! ### The calls before -/

theorem canonical_retrieveKVs :
    canonical (retrieveKVs filled type T keyVector).2.any_type = canonical T := by
  have hfirst := (findKVs_spec type T filled keyVector).2.1
  unfold retrieveKVs
  dsimp only
  split_ifs
  · exact hfirst
  · exact (findKVs_spec _ _ _ _).2.1.trans hfirst
  · exact (findKVs_spec _ _ _ _).2.1.trans hfirst
  · exact hfirst

namespace Tables

variable {t : Tables}

theorem canonical_after (c : Call) (table : Table) :
    canonical (t.after c table) = canonical (t table) := by
  unfold after
  rcases eq_or_ne table c.table with rfl | hne
  · rw [Function.update_self]
    exact canonical_retrieveKVs
  · rw [Function.update_of_ne hne]

/-- A history leaves every table as it was, up to the order of the pairs of its entries. -/
theorem canonical_afterAll (history : List Call) (table : Table) :
    canonical (t.afterAll history table) = canonical (t table) :=
  foldl_kept (p := fun t : Tables => canonical (t table)) (fun _ c => canonical_after c table)
    history t

end Tables

/-- Calls that no search misleads are what they are for. -/
theorem Tables.selects_of_unhindered {t : Tables} {table : Table}
    (h : Unhindered filled type (t table)) : t.Selects table type filled :=
  fun _ history _ hperm => retrieveKVs_selects hperm (Tables.canonical_afterAll history table) h

/-! ### Where the calls fail their purpose -/

/-- An entry that asks for the pairs, and has `n` as its key. -/
def entryFor (selector_pairs : List SelectorPair) (n : ℕ) : kvInfo where
  selector_names := (selector_pairs.map fun p => selectorName p.1).dedup
  selector_pairs
  kv_pairs := [{ key := n, value := n }]

/-- Tables with one group, for the id zero. -/
def oneGroup (entries : List kvInfo) : Tables :=
  fun _ => [{ id_type := [0], keys_values := entries }]

theorem used_oneGroup (q : kvInfo → Bool) (entries : List kvInfo) (table : Table) :
    used q 0 (oneGroup entries table) = (entries.find? q).toList := by
  rw [oneGroup, used_cons_of_pos q (show isIdTypeAvailable (int32 (0 : ℕ)) [0] = true by decide),
    used_nil, List.append_nil]

theorem selector_names_length_le {l l' : List SelectorPair} {n n' : ℕ} (h : l ⊆ l') :
    (entryFor l n).selector_names.length ≤ (entryFor l' n').selector_names.length := by
  refine (List.subperm_of_subset (List.nodup_dedup _) fun name hname => ?_).length_le
  obtain ⟨p, hp, rfl⟩ := List.mem_map.mp (List.mem_dedup.mp hname)
  exact List.mem_dedup.mpr (List.mem_map_of_mem (h hp))

instance : Infinite SelectorPair :=
  Infinite.of_injective (fun value : String => (DIRECTION_SEL, value))
    fun _ _ h => (Prod.mk.inj h).2

/-- As many distinct pairs as are filled, the filled ones among them. -/
theorem exists_distinct_superset (filled : List SelectorPair) :
    ∃ l : List SelectorPair, l.Nodup ∧ l.length = filled.length ∧ ∀ p ∈ filled, p ∈ l := by
  obtain ⟨s, hsub, hcard⟩ :=
    Infinite.exists_superset_card_eq filled.toFinset filled.length filled.toFinset_card_le
  refine ⟨s.toList, s.nodup_toList, by rw [Finset.length_toList, hcard], fun p hp => ?_⟩
  exact Finset.mem_toList.mpr (hsub (List.mem_toFinset.mpr hp))

theorem hasAll_dedup (n : ℕ) : hasAll filled (entryFor filled.dedup n) = true := by
  rcases eq_or_ne filled [] with rfl | hne
  · rfl
  · exact (hasAll_of_ne_nil hne).mpr fun p hp => List.mem_dedup.mpr hp

theorem accepts_dedup (n : ℕ) : accepts filled (entryFor filled.dedup n) = true := by
  rcases eq_or_ne filled [] with rfl | hne
  · rfl
  · by_cases hlen : filled.dedup.length = filled.length
    · rw [accepts_of_length_eq hne hlen]
      exact List.Perm.of_eq ((List.dedup_sublist filled).eq_of_length hlen)
    · exact (accepts_of_length_ne hne hlen).mpr fun p hp => List.mem_dedup.mpr hp

theorem not_custom_of_mem_without (hp : p ∈ (withoutCustomConfig filled).dedup) :
    ¬ isCustomConfig p = true := by
  have hkept := List.of_mem_filter (List.mem_dedup.mp hp)
  simpa using hkept

theorem wellFormed_oneGroup {entries : List kvInfo}
    (hordered : entries.Pairwise fun e e' => e.selector_names.length ≤ e'.selector_names.length)
    (hnodup : ∀ e ∈ entries, e.selector_pairs.Nodup) : (oneGroup entries).WellFormed := by
  intro table g hg
  obtain rfl := List.mem_singleton.mp hg
  exact ⟨hordered, hnodup⟩

/-- A call before which there was none, with an empty key vector. -/
theorem Tables.Selects.first_call {t : Tables} {table : Table} (h : t.Selects table type filled)
    (hperm : filled'.Perm filled) :
    (retrieveKVs filled' type (t table) []).1 =
        (if selected filled type (t table) = [] then -EINVAL else 0) ∧
      (retrieveKVs filled' type (t table) []).2.keyVector =
        keyValues (selected filled type (t table)) :=
  h [] [] filled' hperm

/-- Pairs that are filled twice: an entry with as many pairs does not match. -/
theorem nodup_of_selects (h : ∀ t : Tables, t.WellFormed → ∀ table type, t.Selects table type filled)
    (hcustom : filled.countP isCustomConfig ≤ 1) : filled.Nodup := by
  by_contra hdup
  have hne : filled ≠ [] := fun hnil => hdup (hnil ▸ List.nodup_nil)
  obtain ⟨l, hl, hlen, hmem⟩ := exists_distinct_superset filled
  have hall : hasAll filled (entryFor l 1) = true := (hasAll_of_ne_nil hne).mpr hmem
  have hreject : ¬ accepts filled (entryFor l 1) = true := fun hacc =>
    hdup (((accepts_of_length_eq hne hlen).mp hacc).nodup_iff.mp hl)
  by_cases hnone : filled.countP isCustomConfig = 0
  · -- With no custom configuration there is no second search.
    have hwf : (oneGroup [entryFor l 1]).WellFormed := by
      refine wellFormed_oneGroup (List.pairwise_singleton _ _) fun e he => ?_
      obtain rfl := List.mem_singleton.mp he
      exact hl
    have hwithout : withoutCustomConfig filled = filled :=
      List.filter_eq_self.mpr fun p hp => by simp [List.countP_eq_zero.mp hnone p hp]
    have hused : used (accepts filled) 0 (oneGroup [entryFor l 1] .all_streams) = [] := by
      rw [used_oneGroup, List.find?_cons_of_neg hreject]
      rfl
    have hselected : selected filled 0 (oneGroup [entryFor l 1] .all_streams) = [entryFor l 1] := by
      rw [selected, used_oneGroup, List.find?_cons_of_pos hall]
      rfl
    have hrest := eraseLoop_perm hcustom
      (findKVs_spec 0 (oneGroup [entryFor l 1] .all_streams) filled []).1
    have hfails := (retrieveKVs_of_used_eq_nil [] hused hrest).1
    obtain ⟨hcall, -⟩ := (h _ hwf .all_streams 0).first_call (List.Perm.refl _)
    rw [hwithout, hused, if_pos rfl] at hfails
    rw [hselected, if_neg (List.cons_ne_nil _ _)] at hcall
    exact absurd (hfails.symm.trans hcall) (by decide)
  · -- The second search stops at the entry before, which has all but the custom configuration.
    obtain ⟨c, hc, hcc⟩ := List.countP_pos_iff.mp (Nat.pos_of_ne_zero hnone)
    let e₀ := entryFor (withoutCustomConfig filled).dedup 0
    let T := oneGroup [e₀, entryFor l 1] .all_streams
    have hsub : (withoutCustomConfig filled).dedup ⊆ l := fun p hp =>
      hmem p (List.mem_of_mem_filter (List.mem_dedup.mp hp))
    have hwf : (oneGroup [e₀, entryFor l 1]).WellFormed := by
      refine wellFormed_oneGroup (List.pairwise_pair.mpr (selector_names_length_le hsub)) ?_
      rintro e (_ | ⟨_, _ | ⟨_, ⟨⟩⟩⟩)
      · exact List.nodup_dedup _
      · exact hl
    have hwithout : ¬ hasAll filled e₀ = true := fun hacc =>
      not_custom_of_mem_without (mem_of_hasAll hacc hc) hcc
    have hreject₀ : ¬ accepts filled e₀ = true := fun hacc =>
      not_custom_of_mem_without (mem_of_accepts hacc hc) hcc
    have hused : used (accepts filled) 0 T = [] := by
      rw [used_oneGroup, List.find?_cons_of_neg hreject₀, List.find?_cons_of_neg hreject]
      rfl
    have hused' : used (accepts (withoutCustomConfig filled)) 0 T = [e₀] := by
      rw [used_oneGroup, List.find?_cons_of_pos (accepts_dedup 0)]
      rfl
    have hselected : selected filled 0 T = [entryFor l 1] := by
      rw [selected, used_oneGroup, List.find?_cons_of_neg hwithout, List.find?_cons_of_pos hall]
      rfl
    have hrest := eraseLoop_perm hcustom (findKVs_spec 0 T filled []).1
    have hgives := (retrieveKVs_of_used_eq_nil [] hused hrest).2
    obtain ⟨-, hcall⟩ := (h _ hwf .all_streams 0).first_call (List.Perm.refl _)
    rw [hused', List.nil_append] at hgives
    rw [hselected] at hcall
    have hkeys : keyValues [e₀] = keyValues [entryFor l 1] := hgives.symm.trans hcall
    have hkeys' : [((0 : ℤ), (0 : ℤ))] = [(1, 1)] := hkeys
    exact absurd hkeys' (by decide)

/-- The comparison leaves a vector of another length than the entry's as it is. -/
theorem findKVs_filled_of_length (hne : filled ≠ []) (hlen : e.selector_pairs.length ≠ filled.length)
    (table : Table) :
    (findKVs filled type keyVector (oneGroup [e] table)).filled_selector_pairs = filled := by
  have hempty : ¬ filled.isEmpty = true := by rwa [List.isEmpty_iff]
  have hentry : (findEntry filled [e]).filled_selector_pairs = filled := by
    rw [findEntry, if_neg hempty, compareSelectorPairs, if_neg hlen]
    dsimp only
    split_ifs <;> rfl
  rw [oneGroup, findKVs]
  split_ifs
  · exact hentry
  · rfl

/-- Two custom configurations: one of them is left for the second search. -/
theorem countP_le_one_of_selects
    (h : ∀ t : Tables, t.WellFormed → ∀ table type, t.Selects table type filled) :
    filled.countP isCustomConfig ≤ 1 := by
  by_contra hmany
  obtain ⟨filled', hperm, c, hc, hcc⟩ := exists_perm_mem_eraseLoop (not_le.mp hmany)
  let e := entryFor (withoutCustomConfig filled).dedup 0
  let T := oneGroup [e] .all_streams
  obtain ⟨c₀, hc₀, hcc₀⟩ := List.countP_pos_iff.mp ((Nat.zero_lt_one).trans (not_le.mp hmany))
  have hwf : (oneGroup [e]).WellFormed := by
    refine wellFormed_oneGroup (List.pairwise_singleton _ _) fun e he => ?_
    obtain rfl := List.mem_singleton.mp he
    exact List.nodup_dedup _
  have hwithout : ¬ hasAll filled e = true := fun hall =>
    not_custom_of_mem_without (mem_of_hasAll hall hc₀) hcc₀
  have hselected : selected filled 0 T = [e] := by
    rw [selected, used_oneGroup, used_oneGroup, List.find?_cons_of_neg hwithout,
      List.find?_cons_of_pos (hasAll_dedup 0)]
    rfl
  -- No search accepts the entry while a custom configuration is filled.
  have hrejects : ∀ {rest : List SelectorPair} {q : SelectorPair}, q ∈ rest →
      isCustomConfig q = true → used (accepts rest) 0 T = [] := by
    intro rest q hq hqc
    have hreject : ¬ accepts rest e = true := fun hacc =>
      not_custom_of_mem_without (mem_of_accepts hacc hq) hqc
    rw [used_oneGroup, List.find?_cons_of_neg hreject]
    rfl
  have hlen : e.selector_pairs.length ≠ filled'.length := by
    have hdedup : e.selector_pairs.length ≤ (withoutCustomConfig filled).length :=
      (List.dedup_sublist _).length_le
    have hfewer : (withoutCustomConfig filled).length < filled.length :=
      List.length_filter_lt_length_iff_exists.mpr ⟨c₀, hc₀, by simp [hcc₀]⟩
    have hsame := hperm.length_eq
    omega
  have hne : filled' ≠ [] := List.ne_nil_of_mem (hperm.mem_iff.mpr hc₀)
  have hfilled : (findKVs filled' 0 [] T).filled_selector_pairs = filled' :=
    findKVs_filled_of_length hne hlen .all_streams
  have hfails := (retrieveKVs_of_used_eq_nil []
    (hrejects (hperm.mem_iff.mpr hc₀) hcc₀) (List.Perm.refl _)).1
  rw [hfilled, if_pos (hrejects hc hcc)] at hfails
  obtain ⟨hcall, -⟩ := (h _ hwf .all_streams 0).first_call hperm
  rw [hselected, if_neg (List.cons_ne_nil _ _)] at hcall
  exact absurd (hfails.symm.trans hcall) (by decide)

/-! ### No custom configuration -/

/-- The table where an entry gives a key that tells whether the search accepts it. -/
def keyedBy (q : kvInfo → Bool) (e : kvInfo) : kvInfo :=
  { e with kv_pairs := [if q e then ⟨1, 1⟩ else ⟨0, 0⟩] }

def Tables.keyedBy (t : Tables) (q : kvInfo → Bool) : Tables :=
  fun table => (t table).map (allKVs.mapEntries (PayloadBuilder.keyedBy q))

theorem Tables.sameSelectors_keyedBy (t : Tables) (q : kvInfo → Bool) :
    (t.keyedBy q).SameSelectors t := by
  intro table
  show ((t table).map _).map _ = _
  rw [List.map_map]
  refine List.map_congr_left fun g _ => ?_
  show (⟨g.id_type, (g.keys_values.map _).map _⟩ : allKVs) = ⟨g.id_type, g.keys_values.map _⟩
  rw [List.map_map]
  rfl

theorem keyVector_keyedBy (q : kvInfo → Bool) (e : kvInfo) :
    (keyedBy q e).keyVector = [if q e then (1, 1) else (0, 0)] := by
  have hzero : int32 0 = 0 := by decide
  have hone : int32 1 = 1 := by decide
  unfold keyedBy kvInfo.keyVector
  cases q e <;> simp [hzero, hone]

/-- The keys that an entry with a repeated pair would give are not given by the search. -/
theorem noRepeat_of_selects {t : Tables} (hwf : t.WellFormed) {table : Table}
    (hcustom : filled.countP isCustomConfig = 0)
    (h : (t.keyedBy (accepts filled)).Selects table type filled) :
    NoRepeat filled type (t table) := by
  intro e he hlen
  obtain ⟨g, hg, heg⟩ := exists_group_of_mem_used he
  have hmem : ∀ T : List allKVs, ∀ k ∈ keyValues ((used (accepts filled) type T).map
      (keyedBy (accepts filled))), k = (1, 1) := by
    intro T k hk
    obtain ⟨e', he', hk⟩ := List.mem_flatMap.mp hk
    obtain ⟨e', hused, rfl⟩ := List.mem_map.mp he'
    rw [keyVector_keyedBy, of_mem_used hused] at hk
    exact List.mem_singleton.mp hk
  have hkeyed : ∀ q : kvInfo → Bool, (∀ e, q (keyedBy (accepts filled) e) = q e) →
      used q type (t.keyedBy (accepts filled) table) =
        (used q type (t table)).map (keyedBy (accepts filled)) := fun q hq => used_map hq
  -- What the call gives is what a search with these pairs accepts.
  have hgives : (retrieveKVs filled type (t.keyedBy (accepts filled) table) []).2.keyVector =
      keyValues (used (accepts filled) type (t.keyedBy (accepts filled) table)) := by
    by_cases hused : used (accepts filled) type (t.keyedBy (accepts filled) table) = []
    · have hleft := (findKVs_spec type (t.keyedBy (accepts filled) table) filled []).1
      have hrest := eraseLoop_perm (hcustom.trans_le (Nat.zero_le 1)) hleft
      have hsame : withoutCustomConfig filled = filled :=
        List.filter_eq_self.mpr fun p hp => by simp [List.countP_eq_zero.mp hcustom p hp]
      rw [hsame] at hrest
      exact (retrieveKVs_of_used_eq_nil [] hused hrest).2
    · exact (retrieveKVs_of_used_ne_nil [] hused).2
  have hselected : selected filled type (t.keyedBy (accepts filled) table) =
      (used (hasAll filled) type (t table)).map (keyedBy (accepts filled)) := by
    rw [selected, hkeyed _ fun _ => rfl, if_neg]
    exact fun hnil => List.ne_nil_of_mem he (List.map_eq_nil_iff.mp hnil)
  have hcall := (h.first_call (List.Perm.refl _)).2
  rw [hgives, hselected, hkeyed _ fun _ => rfl] at hcall
  have hkey : (if accepts filled e then ((1 : ℤ), (1 : ℤ)) else (0, 0)) = (1, 1) := by
    refine hmem (t table) _ ?_
    rw [hcall]
    refine List.mem_flatMap.mpr ⟨_, List.mem_map_of_mem he, ?_⟩
    rw [keyVector_keyedBy]
    exact List.mem_singleton_self _
  have hacc : accepts filled e = true := by
    by_contra hreject
    rw [if_neg hreject] at hkey
    exact absurd hkey (by decide)
  rcases eq_or_ne filled [] with rfl | hne
  · exact List.nodup_nil
  · exact ((accepts_of_length_eq hne hlen).mp hacc).nodup_iff.mp ((hwf table g hg).2 e heg)

theorem Tables.selects_iff_noRepeat {t : Tables} (hwf : t.WellFormed) {table : Table}
    (hcustom : filled.countP isCustomConfig = 0) :
    (∀ t' : Tables, t'.SameSelectors t → t'.Selects table type filled) ↔
      NoRepeat filled type (t table) := by
  constructor
  · intro h
    exact noRepeat_of_selects hwf hcustom (h _ (t.sameSelectors_keyedBy _))
  · intro hrepeat t' hsame
    refine selects_of_unhindered ((unhindered_congr (hsame table)).mpr ⟨hrepeat, fun hnil => ?_⟩)
    have hwithout : withoutCustomConfig filled = filled :=
      List.filter_eq_self.mpr fun p hp => by simp [List.countP_eq_zero.mp hcustom p hp]
    rw [hwithout]
    exact ⟨hrepeat, .inl (hcustom.trans_le (Nat.zero_le 1))⟩

/-- **The key selection.** The calls of an id are what they are for wherever no search is misled; with
no custom configuration only there, unless the keys happen to be those of another entry. In all
tables they are so exactly for the filled pairs that are distinct and have at most one custom
configuration. -/
theorem selects_iff (filled : List SelectorPair) :
    (∀ (t : Tables) table type, Unhindered filled type (t table) → t.Selects table type filled) ∧
      (filled.countP isCustomConfig = 0 → ∀ t : Tables, t.WellFormed → ∀ table type,
        ((∀ t' : Tables, t'.SameSelectors t → t'.Selects table type filled) ↔
          NoRepeat filled type (t table))) ∧
      ((∀ t : Tables, t.WellFormed → ∀ table type, t.Selects table type filled) ↔
        filled.Nodup ∧ filled.countP isCustomConfig ≤ 1) := by
  refine ⟨fun t table type h => Tables.selects_of_unhindered h,
    fun hcustom t hwf table type => Tables.selects_iff_noRepeat hwf hcustom, ?_, ?_⟩
  · intro h
    have hcustom := countP_le_one_of_selects h
    exact ⟨nodup_of_selects h hcustom, hcustom⟩
  · rintro ⟨hfilled, hcustom⟩ t - table type
    exact Tables.selects_of_unhindered (unhindered_of_nodup hfilled hcustom)

/-- Two custom configurations do no harm where an entry has them both, and a pair that is filled twice
none where an entry without it has more pairs. -/
theorem selects_two_custom :
    (oneGroup [entryFor [] 1,
      entryFor [(CUSTOM_CONFIG_SEL, "icmd_plus"), (CUSTOM_CONFIG_SEL, "bit_perfect")] 2]).Selects
    .all_streams 0 [(CUSTOM_CONFIG_SEL, "icmd_plus"), (CUSTOM_CONFIG_SEL, "bit_perfect")] ∧
    (oneGroup [entryFor [(DIRECTION_SEL, "RX")] 1,
      entryFor [(DIRECTION_SEL, "RX"), (INSTANCE_SEL, "1")] 2]).Selects
    .all_streams 0 [(DIRECTION_SEL, "RX"), (DIRECTION_SEL, "RX")] := by
  refine ⟨(selects_iff _).1 _ _ _ ⟨fun _ _ _ => by decide, fun h => absurd h (by decide)⟩, ?_⟩
  refine (selects_iff _).1 _ _ _ ⟨fun e he hlen => ?_, fun h => absurd h (by decide)⟩
  obtain rfl : e = entryFor [(DIRECTION_SEL, "RX")] 1 := by
    rw [used_oneGroup, List.find?_cons_of_pos (by decide)] at he
    exact List.mem_singleton.mp he
  exact absurd hlen (by decide)

/-- Of two custom configurations next to each other the second one is filled in the second search
too, and the entry without selectors is not found. -/
theorem not_forall_selects : ¬ ∀ (filled : List SelectorPair) (t : Tables), t.WellFormed →
    ∀ table type, t.Selects table type filled := by
  intro h
  have hwf : (oneGroup [entryFor [] 1]).WellFormed := by
    refine wellFormed_oneGroup (List.pairwise_singleton _ _) fun e he => ?_
    obtain rfl := List.mem_singleton.mp he
    exact List.nodup_nil
  have hcall := h [(CUSTOM_CONFIG_SEL, "icmd_plus"), (CUSTOM_CONFIG_SEL, "bit_perfect")] _ hwf
    .all_streams 0 [] [] _ (List.Perm.refl _)
  exact absurd hcall.1 (by decide)

end AudioReachPal.PayloadBuilder
