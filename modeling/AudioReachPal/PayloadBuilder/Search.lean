import AudioReachPal.PayloadBuilder.Defs
import Mathlib.Data.List.Nodup

/-!
# What a search finds

A search changes the order of the pairs in the entries it compares, and nothing else: a table is
canonical when the pairs of its entries are in order, and a search keeps the canonical form of its
table. What it finds is what its test says of the entries, and the test looks through the order: so a
search finds the same in every table of one canonical form, and for every order of the filled pairs.
-/

namespace AudioReachPal.PayloadBuilder

open AudioReachPal.Lib

variable {p : SelectorPair} {e : kvInfo} {T T' : List allKVs} {type : ℕ}
  {filled filled' : List SelectorPair} {keyVector : List (ℤ × ℤ)}

theorem perm_sortPairs (l : List SelectorPair) : (sortPairs l).Perm l := List.perm_insertionSort _ l

theorem sortPairs_eq_iff {l l' : List SelectorPair} : sortPairs l = sortPairs l' ↔ l.Perm l' :=
  insertionSort_eq_iff_perm pairLe

@[simp] theorem sortPairs_sortPairs (l : List SelectorPair) :
    sortPairs (sortPairs l) = sortPairs l := insertionSort_insertionSort pairLe l

@[simp] theorem length_sortPairs (l : List SelectorPair) : (sortPairs l).length = l.length :=
  (perm_sortPairs l).length_eq

@[simp] theorem sortPairs_isEmpty (l : List SelectorPair) : (sortPairs l).isEmpty = l.isEmpty := by
  rw [Bool.eq_iff_iff, List.isEmpty_iff, List.isEmpty_iff]
  constructor
  · intro h
    exact List.nil_perm.mp (h ▸ perm_sortPairs l)
  · rintro rfl
    rfl

/-! ### Canonical tables -/

def kvInfo.canonical (e : kvInfo) : kvInfo := { e with selector_pairs := sortPairs e.selector_pairs }

def allKVs.canonical (g : allKVs) : allKVs :=
  { g with keys_values := g.keys_values.map kvInfo.canonical }

def canonical (T : List allKVs) : List allKVs := T.map allKVs.canonical

@[simp] theorem kvInfo.keyVector_canonical (e : kvInfo) : e.canonical.keyVector = e.keyVector := rfl

@[simp] theorem kvInfo.canonical_sorted (e : kvInfo) :
    kvInfo.canonical { e with selector_pairs := sortPairs e.selector_pairs } = e.canonical := by
  simp [kvInfo.canonical]

/-! ### The test -/

/-- Whether the search stops at the entry. -/
def accepts (filled : List SelectorPair) (e : kvInfo) : Bool :=
  if filled.isEmpty then e.selector_pairs.isEmpty
  else (compareSelectorPairs e.selector_pairs filled).1

theorem accepts_nil : accepts [] e = true ↔ e.selector_pairs = [] := List.isEmpty_iff

theorem accepts_of_length_eq (hne : filled ≠ []) (hlen : e.selector_pairs.length = filled.length) :
    accepts filled e = true ↔ e.selector_pairs.Perm filled := by
  rw [accepts, if_neg (by rwa [List.isEmpty_iff]), compareSelectorPairs, if_pos hlen, beq_iff_eq,
    sortPairs_eq_iff]

theorem accepts_of_length_ne (hne : filled ≠ []) (hlen : e.selector_pairs.length ≠ filled.length) :
    accepts filled e = true ↔ ∀ p ∈ filled, p ∈ e.selector_pairs := by
  rw [accepts, if_neg (by rwa [List.isEmpty_iff]), compareSelectorPairs, if_neg hlen, beq_iff_eq,
    eq_comm, List.countP_eq_length]
  simp

/-- An accepted entry has all the filled pairs. -/
theorem mem_of_accepts (h : accepts filled e = true) (hp : p ∈ filled) : p ∈ e.selector_pairs := by
  have hne : filled ≠ [] := List.ne_nil_of_mem hp
  by_cases hlen : e.selector_pairs.length = filled.length
  · exact ((accepts_of_length_eq hne hlen).mp h).mem_iff.mpr hp
  · exact (accepts_of_length_ne hne hlen).mp h p hp

theorem accepts_perm (h : filled'.Perm filled) : accepts filled' = accepts filled := by
  funext e
  rw [Bool.eq_iff_iff]
  rcases eq_or_ne filled [] with rfl | hne
  · rw [h.eq_nil]
  · have hne' : filled' ≠ [] := fun h' => hne (List.nil_perm.mp (h' ▸ h))
    by_cases hlen : e.selector_pairs.length = filled.length
    · rw [accepts_of_length_eq hne hlen, accepts_of_length_eq hne' (hlen.trans h.length_eq.symm)]
      exact ⟨fun hp => hp.trans h, fun hp => hp.trans h.symm⟩
    · rw [accepts_of_length_ne hne hlen, accepts_of_length_ne hne' (h.length_eq.symm ▸ hlen)]
      exact forall_congr' fun p => by rw [h.mem_iff]

theorem accepts_canonical (filled : List SelectorPair) (e : kvInfo) :
    accepts filled e.canonical = accepts filled e := by
  have hperm : e.canonical.selector_pairs.Perm e.selector_pairs := perm_sortPairs _
  rw [Bool.eq_iff_iff]
  rcases eq_or_ne filled [] with rfl | hne
  · rw [accepts_nil, accepts_nil]
    exact ⟨fun h => List.nil_perm.mp (h ▸ hperm), fun h => List.perm_nil.mp (h ▸ hperm)⟩
  · by_cases hlen : e.selector_pairs.length = filled.length
    · rw [accepts_of_length_eq hne hlen, accepts_of_length_eq hne (hperm.length_eq.trans hlen)]
      exact ⟨fun h => hperm.symm.trans h, fun h => hperm.trans h⟩
    · rw [accepts_of_length_ne hne hlen, accepts_of_length_ne hne (hperm.length_eq.symm ▸ hlen)]
      exact forall₂_congr fun p _ => hperm.mem_iff

/-- The entry after the comparison and the filled pairs after it, in order, are what they were. -/
theorem compareSelectorPairs_perm (selector_pairs filled : List SelectorPair) :
    (compareSelectorPairs selector_pairs filled).2.1.Perm selector_pairs ∧
      (compareSelectorPairs selector_pairs filled).2.2.Perm filled := by
  unfold compareSelectorPairs
  split_ifs
  · exact ⟨perm_sortPairs _, perm_sortPairs _⟩
  · exact ⟨List.Perm.refl _, List.Perm.refl _⟩

/-! ### One group -/

/-- **The loop over the entries of a group** stops at the first one that the test accepts. -/
theorem findEntry_spec (entries : List kvInfo) :
    ∀ filled, (findEntry filled entries).filled_selector_pairs.Perm filled ∧
      (findEntry filled entries).keys_values.map kvInfo.canonical = entries.map kvInfo.canonical ∧
      (findEntry filled entries).entry.map kvInfo.canonical =
        (entries.find? (accepts filled)).map kvInfo.canonical := by
  induction entries with
  | nil => exact fun filled => ⟨List.Perm.refl _, rfl, rfl⟩
  | cons e rest ih =>
    intro filled
    by_cases hempty : filled.isEmpty = true
    · by_cases hsel : e.selector_pairs.isEmpty = true
      · have hacc : accepts filled e = true := by rw [accepts, if_pos hempty, hsel]
        rw [findEntry, if_pos hempty, if_pos hsel, List.find?_cons_of_pos hacc]
        exact ⟨List.Perm.refl _, rfl, rfl⟩
      · have hacc : ¬ accepts filled e = true := by rwa [accepts, if_pos hempty]
        obtain ⟨hfilled, hkeys, hentry⟩ := ih filled
        rw [findEntry, if_pos hempty, if_neg hsel, List.find?_cons_of_neg hacc]
        exact ⟨hfilled, congrArg (e.canonical :: ·) hkeys, hentry⟩
    · obtain ⟨hsel, hfilled⟩ := compareSelectorPairs_perm e.selector_pairs filled
      have hcanonical : ({ e with
          selector_pairs := (compareSelectorPairs e.selector_pairs filled).2.1 } : kvInfo).canonical =
            e.canonical := congrArg (kvInfo.mk _ · _) (sortPairs_eq_iff.mpr hsel)
      have htest : accepts filled e = (compareSelectorPairs e.selector_pairs filled).1 := by
        rw [accepts, if_neg hempty]
      by_cases hacc : accepts filled e = true
      · rw [findEntry, if_neg hempty, List.find?_cons_of_pos hacc]
        rw [htest] at hacc
        simp only [hacc, if_true]
        exact ⟨hfilled, congrArg (· :: _) hcanonical, congrArg some hcanonical⟩
      · obtain ⟨hfilled', hkeys, hentry⟩ := ih (compareSelectorPairs e.selector_pairs filled).2.2
        rw [accepts_perm hfilled] at hentry
        rw [findEntry, if_neg hempty, List.find?_cons_of_neg hacc]
        rw [htest] at hacc
        simp only [hacc]
        exact ⟨hfilled'.trans hfilled, List.cons_eq_cons.mpr ⟨hcanonical, hkeys⟩, hentry⟩

/-! ### All groups -/

/-- What a search with the test `q` uses: of each group for the id, the first entry that passes. -/
def used (q : kvInfo → Bool) (type : ℕ) (T : List allKVs) : List kvInfo :=
  (T.filter fun g => isIdTypeAvailable (int32 type) g.id_type).filterMap
    fun g => g.keys_values.find? q

/-- What the used entries append. -/
def keyValues (es : List kvInfo) : List (ℤ × ℤ) := es.flatMap kvInfo.keyVector

theorem used_nil (q : kvInfo → Bool) : used q type [] = [] := rfl

theorem used_cons_of_pos (q : kvInfo → Bool) {g : allKVs}
    (h : isIdTypeAvailable (int32 type) g.id_type = true) :
    used q type (g :: T) = (g.keys_values.find? q).toList ++ used q type T := by
  unfold used
  rw [List.filter_cons, if_pos h, List.filterMap_cons]
  cases g.keys_values.find? q <;> rfl

theorem used_cons_of_neg (q : kvInfo → Bool) {g : allKVs}
    (h : ¬ isIdTypeAvailable (int32 type) g.id_type = true) :
    used q type (g :: T) = used q type T := by
  unfold used
  rw [List.filter_cons, if_neg h]

theorem keyValues_append (es es' : List kvInfo) :
    keyValues (es ++ es') = keyValues es ++ keyValues es' := List.flatMap_append

theorem keyValues_map_canonical (es : List kvInfo) :
    keyValues (es.map kvInfo.canonical) = keyValues es := by
  unfold keyValues
  rw [List.flatMap_map]
  rfl

/-- The group with every entry changed by `f`. -/
def allKVs.mapEntries (f : kvInfo → kvInfo) (g : allKVs) : allKVs :=
  { g with keys_values := g.keys_values.map f }

/-- A test that looks through a change of the entries uses the same ones of the changed table. -/
theorem used_map {q : kvInfo → Bool} {f : kvInfo → kvInfo} (hq : ∀ e, q (f e) = q e) :
    used q type (T.map (allKVs.mapEntries f)) = (used q type T).map f := by
  have hq' : q ∘ f = q := funext hq
  induction T with
  | nil => rfl
  | cons g T ih =>
    have hfind : (g.mapEntries f).keys_values.find? q = (g.keys_values.find? q).map f := by
      show (g.keys_values.map f).find? q = _
      rw [List.find?_map, hq']
    rw [List.map_cons]
    by_cases h : isIdTypeAvailable (int32 type) g.id_type = true
    · have hg : isIdTypeAvailable (int32 type) (g.mapEntries f).id_type = true := h
      rw [used_cons_of_pos q hg, used_cons_of_pos q h, ih, hfind, List.map_append]
      cases g.keys_values.find? q <;> rfl
    · have hg : ¬ isIdTypeAvailable (int32 type) (g.mapEntries f).id_type = true := h
      rw [used_cons_of_neg q hg, used_cons_of_neg q h, ih]

section Congr

variable {q : kvInfo → Bool} {f : kvInfo → kvInfo} (hq : ∀ e, q (f e) = q e)
  (hT : T'.map (allKVs.mapEntries f) = T.map (allKVs.mapEntries f))
include hq hT

theorem used_congr : (used q type T').map f = (used q type T).map f := by
  rw [← used_map hq, ← used_map hq, hT]

theorem used_eq_nil_congr : used q type T' = [] ↔ used q type T = [] := by
  rw [← List.map_eq_nil_iff (f := f), used_congr hq hT, List.map_eq_nil_iff]

end Congr

theorem keyValues_used_congr {q : kvInfo → Bool} (hq : ∀ e, q e.canonical = q e)
    (hT : canonical T' = canonical T) :
    keyValues (used q type T') = keyValues (used q type T) := by
  rw [← keyValues_map_canonical (used q type T'), used_congr hq hT, keyValues_map_canonical]

/-- A stricter test that passes the entries used by another one uses them too. -/
theorem used_eq_of_imp {q q' : kvInfo → Bool} (himp : ∀ e, q' e = true → q e = true)
    (h : ∀ e ∈ used q type T, q' e = true) : used q' type T = used q type T := by
  refine List.filterMap_congr fun g hg => ?_
  have hfirst : ∀ e, g.keys_values.find? q = some e → q' e = true := fun e he =>
    h e (List.mem_filterMap.mpr ⟨g, hg, he⟩)
  cases hfind : g.keys_values.find? q with
  | none =>
    refine List.find?_eq_none.mpr fun e he hpass => ?_
    exact List.find?_eq_none.mp hfind e he (himp e hpass)
  | some e =>
    obtain ⟨-, before, after, hsplit, hnone⟩ := List.find?_eq_some_iff_append.mp hfind
    refine List.find?_eq_some_iff_append.mpr ⟨hfirst e hfind, before, after, hsplit, fun a ha => ?_⟩
    have hfail : ¬ q a = true := by simpa using hnone a ha
    simpa using fun hpass => hfail (himp a hpass)

theorem of_mem_used {q : kvInfo → Bool} (he : e ∈ used q type T) : q e = true := by
  obtain ⟨g, -, hfind⟩ := List.mem_filterMap.mp he
  exact List.find?_some hfind

/-- A used entry is one of a group of the table. -/
theorem exists_group_of_mem_used {q : kvInfo → Bool} (he : e ∈ used q type T) :
    ∃ g ∈ T, e ∈ g.keys_values := by
  obtain ⟨g, hg, hfind⟩ := List.mem_filterMap.mp he
  exact ⟨g, List.mem_of_mem_filter hg, List.mem_of_find?_eq_some hfind⟩

/-- **The search** appends what the entries it uses give, and is successful when it uses one. It
leaves the table and the filled pairs, up to their order, as they were. -/
theorem findKVs_spec (type : ℕ) (T : List allKVs) : ∀ filled keyVector,
    (findKVs filled type keyVector T).filled_selector_pairs.Perm filled ∧
      canonical (findKVs filled type keyVector T).any_type = canonical T ∧
      (findKVs filled type keyVector T).keyVector =
        keyVector ++ keyValues (used (accepts filled) type T) ∧
      ((findKVs filled type keyVector T).found = true ↔ used (accepts filled) type T ≠ []) := by
  induction T with
  | nil =>
    intro filled keyVector
    exact ⟨List.Perm.refl _, rfl, (List.append_nil _).symm, by simp [findKVs, used_nil]⟩
  | cons g T ih =>
    intro filled keyVector
    by_cases h : isIdTypeAvailable (int32 type) g.id_type = true
    · obtain ⟨hfilled, hkeys, hentry⟩ := findEntry_spec g.keys_values filled
      have hpushed : (((findEntry filled g.keys_values).entry.map kvInfo.keyVector).getD []) =
          keyValues (g.keys_values.find? (accepts filled)).toList := by
        have hmap := congrArg (Option.map kvInfo.keyVector) hentry
        rw [Option.map_map, Option.map_map] at hmap
        have hkv : kvInfo.keyVector ∘ kvInfo.canonical = kvInfo.keyVector := rfl
        rw [hkv] at hmap
        rw [hmap]
        cases g.keys_values.find? (accepts filled) with
        | none => rfl
        | some e => exact (List.append_nil _).symm
      have hsome : (findEntry filled g.keys_values).entry.isSome =
          (g.keys_values.find? (accepts filled)).isSome := by
        have hmap := congrArg Option.isSome hentry
        rwa [Option.isSome_map, Option.isSome_map] at hmap
      obtain ⟨hfilled', htable, hvector, hfound⟩ :=
        ih (findEntry filled g.keys_values).filled_selector_pairs
          (keyVector ++ ((findEntry filled g.keys_values).entry.map kvInfo.keyVector).getD [])
      rw [accepts_perm hfilled] at hvector hfound
      rw [findKVs, if_pos h, used_cons_of_pos _ h]
      refine ⟨hfilled'.trans hfilled, ?_, ?_, ?_⟩
      · exact List.cons_eq_cons.mpr ⟨congrArg (allKVs.mk _) hkeys, htable⟩
      · refine hvector.trans ?_
        rw [hpushed, keyValues_append, List.append_assoc]
      · show ((findEntry filled g.keys_values).entry.isSome || _) = true ↔ _
        rw [Bool.or_eq_true, hsome, hfound]
        cases g.keys_values.find? (accepts filled) <;> simp
    · obtain ⟨hfilled, htable, hvector, hfound⟩ := ih filled keyVector
      rw [findKVs, if_neg h, used_cons_of_neg _ h]
      exact ⟨hfilled, congrArg (g.canonical :: ·) htable, hvector, hfound⟩

end AudioReachPal.PayloadBuilder
