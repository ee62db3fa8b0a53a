import Mathlib.Data.Set.Lattice

/-!
# What members gather

Each member of a family brings a set, and what they gather is the union. The rules below say when a
union that is kept beside the family, and changed as one member comes, goes or brings another set, is
still what the members gather.
-/

namespace AudioReachPal.Lib

open Function

variable {ι α : Type*}

/-- What the members gather. -/
def gathered (f : ι → Set α) : Set α := ⋃ i, f i

/-- What the others gather. -/
def gatheredBut (f : ι → Set α) (i : ι) : Set α := ⋃ j ≠ i, f j

theorem mem_gatheredBut {f : ι → Set α} {i : ι} {x : α} :
    x ∈ gatheredBut f i ↔ ∃ j, j ≠ i ∧ x ∈ f j := by
  unfold gatheredBut
  simp only [Set.mem_iUnion, exists_prop]

/-- A member and the others. -/
theorem gathered_eq (f : ι → Set α) (i : ι) : gathered f = f i ∪ gatheredBut f i := by
  ext x
  rw [Set.mem_union, mem_gatheredBut]
  unfold gathered
  rw [Set.mem_iUnion]
  constructor
  · rintro ⟨j, hj⟩
    by_cases hji : j = i
    · exact Or.inl (hji ▸ hj)
    · exact Or.inr ⟨j, hji, hj⟩
  · rintro (hi | ⟨j, -, hj⟩)
    · exact ⟨i, hi⟩
    · exact ⟨j, hj⟩

theorem gathered_of_empty {f : ι → Set α} {i : ι} (h : f i = ∅) : gathered f = gatheredBut f i := by
  rw [gathered_eq f i, h, Set.empty_union]

/-- All that is gathered comes from the only other member that brings anything. -/
theorem gatheredBut_of_one {f : ι → Set α} {i j : ι} (hij : j ≠ i)
    (h : ∀ k, k ≠ i → k ≠ j → f k = ∅) : gatheredBut f i = f j := by
  ext x
  rw [mem_gatheredBut]
  constructor
  · rintro ⟨k, hki, hk⟩
    by_cases hkj : k = j
    · exact hkj ▸ hk
    · rw [h k hki hkj] at hk
      exact absurd hk (Set.notMem_empty x)
  · exact fun hj => ⟨j, hij, hj⟩

theorem gatheredBut_of_none {f : ι → Set α} {i : ι} (h : ∀ k, k ≠ i → f k = ∅) :
    gatheredBut f i = ∅ := by
  rw [Set.eq_empty_iff_forall_notMem]
  intro x hx
  obtain ⟨k, hki, hk⟩ := mem_gatheredBut.mp hx
  rw [h k hki] at hk
  exact hk

variable [DecidableEq ι]

theorem gatheredBut_update (f : ι → Set α) (i : ι) (a : Set α) :
    gatheredBut (update f i a) i = gatheredBut f i := by
  ext x
  rw [mem_gatheredBut, mem_gatheredBut]
  refine exists_congr fun j => and_congr_right fun hji => ?_
  rw [update_of_ne hji]

/-- A member that brings `a` instead. -/
theorem gathered_update (f : ι → Set α) (i : ι) (a : Set α) :
    gathered (update f i a) = a ∪ gatheredBut f i := by
  rw [gathered_eq _ i, update_self, gatheredBut_update]

/-- A member that brought nothing joins. -/
theorem gathered_join {f : ι → Set α} {i : ι} (h : f i = ∅) (a : Set α) :
    gathered (update f i a) = gathered f ∪ a := by
  rw [gathered_update, gathered_of_empty h, Set.union_comm]

/-- Nothing is lost and nothing is new exactly where what tells the two sets of the member apart is
brought by another one. -/
theorem gathered_update_eq_iff (f : ι → Set α) (i : ι) (a : Set α) :
    gathered f = gathered (update f i a) ↔ ∀ x ∉ gatheredBut f i, (x ∈ a ↔ x ∈ f i) := by
  rw [gathered_update, gathered_eq f i, Set.ext_iff]
  refine forall_congr' fun x => ?_
  rw [Set.mem_union, Set.mem_union]
  tauto

/-- Nothing is lost where a member leaves exactly if others bring all it brought. -/
theorem gathered_leave_eq_iff (f : ι → Set α) (i : ι) :
    gathered f = gathered (update f i ∅) ↔ f i ⊆ gatheredBut f i := by
  rw [gathered_update, gathered_eq f i, Set.empty_union, Set.union_eq_right]

/-- What is left after `a` is taken out is what the others gather exactly where they bring nothing of
`a` and all else that the member brought. -/
theorem gathered_diff_eq_iff (f : ι → Set α) (i : ι) (a : Set α) :
    gathered f \ a = gathered (update f i ∅) ↔
      (∀ x ∈ a, x ∉ gatheredBut f i) ∧ f i \ a ⊆ gatheredBut f i := by
  rw [gathered_update, gathered_eq f i, Set.empty_union, Set.ext_iff]
  constructor
  · intro h
    refine ⟨fun x hxa hx => ((h x).mpr hx).2 hxa, ?_⟩
    rintro x ⟨hxi, hxa⟩
    exact (h x).mp ⟨Or.inl hxi, hxa⟩
  · rintro ⟨hapart, hrest⟩ x
    constructor
    · rintro ⟨hxi | hx, hxa⟩
      · exact hrest ⟨hxi, hxa⟩
      · exact hx
    · exact fun hx => ⟨Or.inr hx, fun hxa => hapart x hxa hx⟩

end AudioReachPal.Lib
