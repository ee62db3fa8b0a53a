import Mathlib.Data.List.Basic
import Mathlib.Data.List.Count

/-!
# Erasing from a vector while its indices are counted up

The loop `for (i = 0; i < v.size(); i++) if (p(v[i])) v.erase(v.begin() + i)`. What stands behind an
erased element moves to its index, and the index is counted up, so the loop does not look at it. It
erases all it should of a vector with one such element, and of one with more the order decides.
-/

namespace AudioReachPal.Lib

variable {α : Type*} (p : α → Bool)

/-- The vector after the loop, and whether something was erased. -/
def eraseLoop : List α → List α × Bool
  | [] => ([], false)
  | [a] => if p a then ([], true) else ([a], false)
  | a :: b :: l =>
    -- `b` takes the place of an erased `a`, and the loop goes on behind it.
    if p a then (b :: (eraseLoop l).1, true)
    else (a :: (eraseLoop (b :: l)).1, (eraseLoop (b :: l)).2)

variable {p}

theorem eraseLoop_of_none : ∀ {l : List α}, l.countP p = 0 → eraseLoop p l = (l, false)
  | [], _ => rfl
  | [a], h => by
    have ha : ¬ p a = true := List.countP_eq_zero.mp h a List.mem_cons_self
    rw [eraseLoop, if_neg ha]
  | a :: b :: l, h => by
    have hall := List.countP_eq_zero.mp h
    have ha : ¬ p a = true := hall a List.mem_cons_self
    have hrest : eraseLoop p (b :: l) = (b :: l, false) :=
      eraseLoop_of_none (List.countP_eq_zero.mpr fun c hc => hall c (List.mem_cons_of_mem _ hc))
    rw [eraseLoop, if_neg ha, hrest]

/-- Where at most one element is to be erased, the loop leaves all the others. -/
theorem eraseLoop_fst : ∀ {l : List α}, l.countP p ≤ 1 →
    (eraseLoop p l).1 = l.filter fun a => !p a
  | [], _ => rfl
  | [a], _ => by
    unfold eraseLoop
    by_cases ha : p a = true <;> simp [ha]
  | a :: b :: l, h => by
    unfold eraseLoop
    by_cases ha : p a = true
    · have hrest : (b :: l).countP p = 0 := by
        rw [List.countP_cons, if_pos ha] at h
        omega
      have hall := List.countP_eq_zero.mp hrest
      have hl : l.countP p = 0 :=
        List.countP_eq_zero.mpr fun c hc => hall c (List.mem_cons_of_mem _ hc)
      have hkeep : (b :: l).filter (fun a => !p a) = b :: l :=
        List.filter_eq_self.mpr fun c hc => by simp [hall c hc]
      rw [if_pos ha, eraseLoop_of_none hl, List.filter_cons_of_neg (by simp [ha]), hkeep]
    · have hrest : (b :: l).countP p ≤ 1 := by
        rw [List.countP_cons, if_neg ha] at h
        exact h
      have hkept : (!p a) = true := by simp [ha]
      rw [if_neg ha, List.filter_cons, if_pos hkept, ← eraseLoop_fst hrest]

theorem eraseLoop_snd : ∀ {l : List α}, (eraseLoop p l).2 = l.any p
  | [] => rfl
  | [a] => by
    unfold eraseLoop
    by_cases ha : p a = true <;> simp [ha]
  | a :: b :: l => by
    unfold eraseLoop
    by_cases ha : p a = true
    · rw [if_pos ha, List.any_cons, ha, Bool.true_or]
    · have hsnd : (eraseLoop p (b :: l)).2 = (b :: l).any p := eraseLoop_snd
      rw [if_neg ha, hsnd, List.any_cons (a := a), Bool.eq_false_iff.mpr ha, Bool.false_or]

/-- Only what is to be erased is erased. -/
theorem mem_eraseLoop_of_not : ∀ {l : List α} {a : α}, a ∈ l → ¬ p a = true → a ∈ (eraseLoop p l).1
  | [], _, ha, _ => absurd ha List.not_mem_nil
  | [b], a, ha, hkeep => by
    obtain rfl := List.mem_singleton.mp ha
    rw [eraseLoop, if_neg hkeep]
    exact List.mem_cons_self
  | b :: c :: l, a, ha, hkeep => by
    unfold eraseLoop
    by_cases hb : p b = true
    · rw [if_pos hb]
      rcases List.mem_cons.mp ha with rfl | ha
      · exact absurd hb hkeep
      rcases List.mem_cons.mp ha with rfl | ha
      · exact List.mem_cons_self
      · exact List.mem_cons_of_mem _ (mem_eraseLoop_of_not ha hkeep)
    · rw [if_neg hb]
      rcases List.mem_cons.mp ha with rfl | ha
      · exact List.mem_cons_self
      · exact List.mem_cons_of_mem _ (mem_eraseLoop_of_not ha hkeep)

/-- Of two elements that are to be erased one stays, in the order that has them in front. -/
theorem exists_perm_mem_eraseLoop {l : List α} (h : 1 < l.countP p) :
    ∃ l', l'.Perm l ∧ ∃ a ∈ (eraseLoop p l').1, p a = true := by
  have hperm : (l.filter p ++ l.filter fun a => !p a).Perm l := List.filter_append_perm p l
  rw [List.countP_eq_length_filter] at h
  obtain ⟨a, b, rest, hfront⟩ : ∃ a b rest, l.filter p = a :: b :: rest := by
    rcases hl : l.filter p with _ | ⟨a, _ | ⟨b, rest⟩⟩
    · rw [hl] at h
      exact absurd h (Nat.not_lt_zero 1)
    · rw [hl] at h
      exact absurd h (Nat.lt_irrefl 1)
    · exact ⟨a, b, rest, rfl⟩
  have ha : p a = true := List.of_mem_filter (hfront ▸ List.mem_cons_self)
  have hb : p b = true :=
    List.of_mem_filter (hfront ▸ List.mem_cons_of_mem a List.mem_cons_self)
  refine ⟨_, hperm, b, ?_, hb⟩
  rw [hfront, List.cons_append, List.cons_append, eraseLoop, if_pos ha]
  exact List.mem_cons_self

end AudioReachPal.Lib
