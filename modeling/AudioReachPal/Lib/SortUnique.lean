import Mathlib.Data.List.Sort

/-!
# Sorting and removing repetitions

The `std::sort` and `std::unique` of a vector: its elements, each once, in order.
-/

namespace AudioReachPal.Lib

variable {α : Type*} [DecidableEq α]

/-- A list without repetitions of neighbours. -/
def unique : List α → List α
  | [] => []
  | [a] => [a]
  | a :: b :: l => if a = b then unique (b :: l) else a :: unique (b :: l)

theorem mem_unique {a : α} : ∀ {l : List α}, a ∈ unique l ↔ a ∈ l
  | [] => Iff.rfl
  | [_] => Iff.rfl
  | b :: c :: l => by
    unfold unique
    split_ifs with h
    · rw [mem_unique, h]
      simp
    · rw [List.mem_cons, List.mem_cons, mem_unique]

section Order

variable (r : α → α → Prop) [DecidableRel r] [Std.Total r] [IsTrans α r] [Std.Antisymm r]

omit [DecidableRel r] [Std.Total r] [IsTrans α r] in
theorem nodup_unique : ∀ {l : List α}, l.Pairwise r → (unique l).Nodup
  | [], _ => List.nodup_nil
  | [a], _ => List.nodup_singleton a
  | a :: b :: l, h => by
    obtain ⟨ha, hb⟩ := List.pairwise_cons.mp h
    unfold unique
    split_ifs with hab
    · exact nodup_unique hb
    · refine List.nodup_cons.mpr ⟨fun hmem => hab ?_, nodup_unique hb⟩
      obtain ⟨hl, -⟩ := List.pairwise_cons.mp hb
      rcases List.mem_cons.mp (mem_unique.mp hmem) with heq | hmem
      · exact heq
      · exact Std.Antisymm.antisymm a b (ha b List.mem_cons_self) (hl a hmem)

/-- The elements of a list, each once, in the order `r`. -/
def sortUnique (l : List α) : List α := unique (l.insertionSort r)

omit [Std.Total r] [IsTrans α r] [Std.Antisymm r] in
theorem mem_sortUnique {a : α} {l : List α} : a ∈ sortUnique r l ↔ a ∈ l := by
  rw [sortUnique, mem_unique, (List.perm_insertionSort r l).mem_iff]

theorem nodup_sortUnique (l : List α) : (sortUnique r l).Nodup :=
  nodup_unique r (List.pairwise_insertionSort r l)

omit [DecidableEq α] in
/-- Two lists are the same in order when they have the same elements, each as often. -/
theorem insertionSort_eq_iff_perm {l l' : List α} :
    l.insertionSort r = l'.insertionSort r ↔ l.Perm l' := by
  constructor
  · intro h
    have hl := (List.perm_insertionSort r l).symm
    rw [h] at hl
    exact hl.trans (List.perm_insertionSort r l')
  · intro h
    have hperm : (l.insertionSort r).Perm (l'.insertionSort r) :=
      ((List.perm_insertionSort r l).trans h).trans (List.perm_insertionSort r l').symm
    have hanti : ∀ a b, a ∈ l.insertionSort r → b ∈ l'.insertionSort r → r a b → r b a → a = b :=
      fun a b _ _ hab hba => Std.Antisymm.antisymm a b hab hba
    exact hperm.eq_of_pairwise hanti (List.pairwise_insertionSort r l)
      (List.pairwise_insertionSort r l')

omit [DecidableEq α] in
theorem insertionSort_insertionSort (l : List α) :
    (l.insertionSort r).insertionSort r = l.insertionSort r :=
  (insertionSort_eq_iff_perm r).mpr (List.perm_insertionSort r l)

end Order

end AudioReachPal.Lib
