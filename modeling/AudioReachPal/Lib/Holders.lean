import Mathlib.Data.Fintype.Basic
import Mathlib.Data.Finset.Card

/-!
# The holders of a shared resource

`f i` is what party `i` holds of the resource, if anything. `held` is the number of holders: what
a reference count of the resource should be. A change of one party's holding changes it by what
that party held before and after.
-/

namespace AudioReachPal.Lib

variable {ι δ : Type*} [Fintype ι] [DecidableEq ι]

/-- The number of parties that hold something. -/
def held (f : ι → Option δ) : ℕ := (Finset.univ.filter fun i => (f i).isSome = true).card

/-- One for a holder, zero for the others. -/
def holding (v : Option δ) : ℕ := if v.isSome then 1 else 0

@[simp] theorem holding_none : holding (none : Option δ) = 0 := rfl

@[simp] theorem holding_some (d : δ) : holding (some d) = 1 := rfl

theorem held_eq_add (f : ι → Option δ) (i : ι) :
    held f = holding (f i) +
      ((Finset.univ.erase i).filter fun j => (f j).isSome = true).card := by
  have huniv : (Finset.univ : Finset ι) = insert i (Finset.univ.erase i) :=
    (Finset.insert_erase (Finset.mem_univ i)).symm
  unfold held holding
  conv_lhs => rw [huniv, Finset.filter_insert]
  split_ifs with h
  · rw [Finset.card_insert_of_notMem (by simp), Nat.add_comm]
  · rw [Nat.zero_add]

/-- What one party holds, before and after, is the change of the number of holders. -/
theorem held_update (f : ι → Option δ) (i : ι) (v : Option δ) :
    held (Function.update f i v) + holding (f i) = held f + holding v := by
  have hrest : (Finset.univ.erase i).filter (fun j => (Function.update f i v j).isSome = true) =
      (Finset.univ.erase i).filter fun j => (f j).isSome = true := by
    refine Finset.filter_congr fun j hj => ?_
    rw [Function.update_of_ne (Finset.ne_of_mem_erase hj)]
  rw [held_eq_add f i, held_eq_add (Function.update f i v) i, hrest, Function.update_self]
  omega

theorem held_pos {f : ι → Option δ} {i : ι} {d : δ} (h : f i = some d) : 0 < held f := by
  rw [held_eq_add f i, h, holding_some]
  omega

omit [DecidableEq ι] in
@[simp] theorem held_none : held (fun _ : ι => (none : Option δ)) = 0 := by
  simp [held]

end AudioReachPal.Lib
