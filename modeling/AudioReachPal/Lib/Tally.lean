import Mathlib.Data.Finset.Card

/-!
# Anonymous tallies

A tally keeps, for a key, how many parties joined it, and drops the entry when none is left. It
does not know who they are: whoever leaves takes one off. `members` is the set that the count
stands for. The count is exact when it is the size of that set; joining keeps it exact for those
that are not members yet, and leaving when the one that leaves is a member or none is.
-/

namespace AudioReachPal.Lib

/-- The entry of a key that `n` parties joined: none when `n` is zero. -/
def entry (n : ℕ) : Option ℕ := if n = 0 then none else some n

@[simp] theorem entry_zero : entry 0 = none := rfl

@[simp] theorem entry_succ (n : ℕ) : entry (n + 1) = some (n + 1) := rfl

theorem entry_of_pos {n : ℕ} (h : 0 < n) : entry n = some n := by
  obtain ⟨m, rfl⟩ := Nat.exists_eq_succ_of_ne_zero (Nat.ne_of_gt h)
  rfl

theorem entry_eq_none {n : ℕ} : entry n = none ↔ n = 0 := by
  cases n with
  | zero => simp
  | succ n => simp

@[simp] theorem entry_getD (n : ℕ) : (entry n).getD 0 = n := by
  cases n <;> rfl

/-- The entry after `n` more parties joined. -/
def raised (c : Option ℕ) (n : ℕ) : Option ℕ := some (c.getD 0 + n)

/-- The entry after someone left. -/
def lowered (c : Option ℕ) : Option ℕ := c.bind fun n => entry (n - 1)

theorem raised_entry (m : ℕ) {n : ℕ} (hn : 0 < n) : raised (entry m) n = entry (m + n) := by
  unfold raised
  rw [entry_getD, entry_of_pos (by omega)]

theorem lowered_entry (n : ℕ) : lowered (entry n) = entry (n - 1) := by
  cases n <;> rfl

variable {ι : Type*} [DecidableEq ι]

/-- The entry counts the members. -/
def Counts (c : Option ℕ) (members : Finset ι) : Prop := c = entry members.card

section

variable {c : Option ℕ} {members new : Finset ι} {i : ι}

omit [DecidableEq ι] in
theorem counts_none : Counts none (∅ : Finset ι) := rfl

omit [DecidableEq ι] in
theorem Counts.eq_none_iff (h : Counts c members) : c = none ↔ members = ∅ := by
  rw [h, entry_eq_none, Finset.card_eq_zero]

theorem Counts.join (h : Counts c members) (hnew : new.Nonempty) (hdisj : Disjoint members new) :
    Counts (raised c new.card) (members ∪ new) := by
  unfold Counts
  rw [h, raised_entry _ hnew.card_pos, Finset.card_union_of_disjoint hdisj]

theorem Counts.join_one (h : Counts c members) (hi : i ∉ members) :
    Counts (raised c 1) (insert i members) := by
  unfold Counts
  rw [h, raised_entry _ Nat.one_pos, Finset.card_insert_of_notMem hi]

theorem Counts.leave (h : Counts c members) (hi : i ∈ members ∨ members = ∅) :
    Counts (lowered c) (members.erase i) := by
  unfold Counts
  rw [h, lowered_entry]
  rcases hi with hi | rfl
  · rw [Finset.card_erase_of_mem hi]
  · simp

omit [DecidableEq ι] in
/-- The members that are still there are never more than the count. -/
theorem Counts.le (h : Counts c members) {still : Finset ι} (hsub : still ⊆ members) :
    still.card ≤ c.getD 0 := by
  rw [h, entry_getD]
  exact Finset.card_le_card hsub

end

end AudioReachPal.Lib
