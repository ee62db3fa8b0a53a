import Mathlib.Data.List.Basic
import Mathlib.Data.List.InsertIdx
import Mathlib.Data.List.TakeWhile
import Mathlib.Order.Lattice

/-!
# Multimaps in their order

A `std::multimap` as the list of its entries, by increasing key. A key that is already there goes
behind its equals, and an insertion with a hint as close in front of the hint as the order allows.
Where the hint is a place the key may stand, that is right in front of it.
-/

namespace AudioReachPal.Lib.Multimap

/-- The place behind a part of a list is where the rest of it begins. -/
theorem insertIdx_behind {β : Type*} (b : β) (front back : List β) :
    (front ++ back).insertIdx front.length b = front ++ b :: back := by
  induction front with
  | nil => rfl
  | cons c front ih =>
    rw [List.cons_append, List.length_cons, List.insertIdx_succ_cons, ih]
    rfl

variable {κ α : Type*} [LinearOrder κ]

def Sorted (m : List (κ × α)) : Prop := m.Pairwise fun p q => p.1 ≤ q.1

/-- The place of the first entry whose key is not before `k`. -/
def lowerBound (m : List (κ × α)) (k : κ) : ℕ := (m.takeWhile fun p => p.1 < k).length

/-- The place of the first entry whose key is behind `k`. -/
def upperBound (m : List (κ × α)) (k : κ) : ℕ := (m.takeWhile fun p => p.1 ≤ k).length

def insert (m : List (κ × α)) (k : κ) (a : α) : List (κ × α) :=
  m.insertIdx (upperBound m k) (k, a)

/-- `insert` with an iterator, the one at the place `hint`. -/
def insertHint (m : List (κ × α)) (hint : ℕ) (k : κ) (a : α) : List (κ × α) :=
  m.insertIdx (max (lowerBound m k) (min hint (upperBound m k))) (k, a)

variable {k : κ} {a : α} {m front back : List (κ × α)}

theorem sorted_nil : Sorted ([] : List (κ × α)) := List.Pairwise.nil

theorem Sorted.sublist {m' : List (κ × α)} (hm : Sorted m) (h : m'.Sublist m) : Sorted m' :=
  List.Pairwise.sublist h hm

/-- Between smaller keys and larger ones a key keeps the order. -/
theorem Sorted.between (hm : Sorted (front ++ back)) (hfront : ∀ p ∈ front, p.1 ≤ k)
    (hback : ∀ p ∈ back, k ≤ p.1) : Sorted (front ++ (k, a) :: back) := by
  obtain ⟨hf, hb, hcross⟩ := List.pairwise_append.mp hm
  refine List.pairwise_append.mpr ⟨hf, List.pairwise_cons.mpr ⟨hback, hb⟩, ?_⟩
  intro p hp q hq
  rcases List.mem_cons.mp hq with rfl | hq
  · exact hfront p hp
  · exact hcross p hp q hq

theorem lowerBound_le (hback : ∀ p ∈ back, k ≤ p.1) :
    lowerBound (front ++ back) k ≤ front.length := by
  have hstop : back.takeWhile (fun p => decide (p.1 < k)) = [] := by
    cases back with
    | nil => rfl
    | cons p back =>
      have hp : ¬p.1 < k := not_lt.mpr (hback p List.mem_cons_self)
      exact List.takeWhile_cons_of_neg (by simpa using hp)
  unfold lowerBound
  rw [List.takeWhile_append]
  split_ifs
  · rw [hstop, List.append_nil]
  · exact (List.takeWhile_sublist _).length_le

theorem le_upperBound (hfront : ∀ p ∈ front, p.1 ≤ k) :
    front.length ≤ upperBound (front ++ back) k := by
  have hall : front.takeWhile (fun p => decide (p.1 ≤ k)) = front :=
    List.takeWhile_eq_self_iff.mpr fun p hp => decide_eq_true (hfront p hp)
  unfold upperBound
  rw [List.takeWhile_append, hall, if_pos rfl, List.length_append]
  exact Nat.le_add_right _ _

/-- **A hint that fits.** Between keys that are not larger and keys that are not smaller, the new
entry stands right in front of the hint. -/
theorem insertHint_append (hfront : ∀ p ∈ front, p.1 ≤ k) (hback : ∀ p ∈ back, k ≤ p.1) :
    insertHint (front ++ back) front.length k a = front ++ (k, a) :: back := by
  have hlow : lowerBound (front ++ back) k ≤ front.length := lowerBound_le hback
  have hup : front.length ≤ upperBound (front ++ back) k := le_upperBound hfront
  unfold insertHint
  rw [min_eq_left hup, max_eq_right hlow]
  exact insertIdx_behind _ _ _

/-- A key that no other is behind goes to the end. -/
theorem insert_of_le (hm : ∀ p ∈ m, p.1 ≤ k) : insert m k a = m ++ [(k, a)] := by
  have hall : m.takeWhile (fun p => decide (p.1 ≤ k)) = m :=
    List.takeWhile_eq_self_iff.mpr fun p hp => decide_eq_true (hm p hp)
  unfold insert upperBound
  rw [hall, List.insertIdx_length_self]

end AudioReachPal.Lib.Multimap
