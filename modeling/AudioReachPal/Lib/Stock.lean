import Mathlib.Algebra.BigOperators.Group.Finset.Basic
import Mathlib.Algebra.Order.Group.Multiset

/-!
# A stock and what the parties hold of it

Items are issued and given back; an item that is given back and was not out is a fault. The parties
hold items, and each of them passes its own on, takes new ones and gives some back. The books are
balanced when what the parties hold, counted over all of them, is what is out, each item once, and
there was no fault. What one party does changes the count by its own holding before and after
(`total_update`), so that a system keeps its books by one equation for each of its steps.
-/

namespace AudioReachPal.Lib

/-! ### Holdings -/

section Total

variable {ι σ μ : Type*} [DecidableEq ι] [AddCommMonoid μ]

/-- The holdings of all parties but one do not see what that one does. -/
theorem sum_erase_update (s : Finset ι) (i : ι) (f : ι → σ) (v : σ) (holding : σ → μ) :
    (∑ j ∈ s.erase i, holding (Function.update f i v j)) = ∑ j ∈ s.erase i, holding (f j) := by
  refine Finset.sum_congr rfl fun j hj => ?_
  rw [Function.update_of_ne (Finset.ne_of_mem_erase hj)]

/-- What one party holds, before and after, is the change of what all of them hold. -/
theorem total_update {s : Finset ι} {i : ι} (hi : i ∈ s) (f : ι → σ) (v : σ) (holding : σ → μ) :
    holding (f i) + (∑ j ∈ s, holding (Function.update f i v j)) =
      holding v + ∑ j ∈ s, holding (f j) := by
  rw [← Finset.add_sum_erase s (fun j => holding (Function.update f i v j)) hi,
    ← Finset.add_sum_erase s (fun j => holding (f j)) hi, sum_erase_update, Function.update_self,
    add_left_comm]

end Total

/-! ### Stocks -/

/-- What is out, and what was given back without being out. -/
structure Stock (α : Type*) where
  issued : Finset α
  faults : List α
  deriving DecidableEq

namespace Stock

variable {α : Type*}

/-- Nothing is out. -/
def empty : Stock α := ⟨∅, []⟩

variable [DecidableEq α]

def issue (s : Stock α) (a : α) : Stock α := { s with issued := insert a s.issued }

def giveBack (s : Stock α) (a : α) : Stock α :=
  if a ∈ s.issued then { s with issued := s.issued.erase a } else { s with faults := a :: s.faults }

def giveBackAll (s : Stock α) (l : List α) : Stock α := l.foldl giveBack s

/-- The holdings `m` are what is out, each item once, and nothing came back in error. -/
structure Balanced (s : Stock α) (m : Multiset α) : Prop where
  issued : m = s.issued.val
  clean : s.faults = []

variable {s : Stock α} {m : Multiset α} {a : α} {l : List α}

omit [DecidableEq α] in
theorem Balanced.empty : Balanced (Stock.empty : Stock α) 0 := ⟨rfl, rfl⟩

omit [DecidableEq α] in
theorem Balanced.congr {m' : Multiset α} (h : Balanced s m) (hm : m' = m) : Balanced s m' := by
  rw [hm]
  exact h

omit [DecidableEq α] in
theorem Balanced.mem (h : Balanced s m) : a ∈ m ↔ a ∈ s.issued := by
  rw [h.issued, Finset.mem_val]

omit [DecidableEq α] in
theorem Balanced.nodup (h : Balanced s m) : m.Nodup := by
  rw [h.issued]
  exact s.issued.nodup

theorem Balanced.issue (h : Balanced s m) (ha : a ∉ s.issued) :
    Balanced (s.issue a) (a ::ₘ m) where
  issued := by
    show a ::ₘ m = (insert a s.issued).val
    rw [Finset.insert_val_of_notMem ha, h.issued]
  clean := h.clean

theorem Balanced.giveBack (h : Balanced s (a ::ₘ m)) : Balanced (s.giveBack a) m := by
  have hout : a ∈ s.issued := h.mem.mp (Multiset.mem_cons_self a m)
  unfold Stock.giveBack
  rw [if_pos hout]
  refine ⟨?_, h.clean⟩
  show m = (s.issued.erase a).val
  rw [Finset.erase_val, ← h.issued, Multiset.erase_cons_head]

/-- An item that was issued and is given back. -/
theorem giveBack_issue (ha : a ∉ s.issued) : (s.issue a).giveBack a = s := by
  unfold Stock.giveBack Stock.issue
  dsimp only
  rw [if_pos (Finset.mem_insert_self a _), Finset.erase_insert ha]

theorem Balanced.giveBackAll (h : Balanced s (↑l + m)) : Balanced (s.giveBackAll l) m := by
  induction l generalizing s with
  | nil => exact h.congr (zero_add m).symm
  | cons a l ih =>
    refine ih (Balanced.giveBack (h.congr ?_))
    rw [← Multiset.cons_coe, Multiset.cons_add]

end Stock

end AudioReachPal.Lib
