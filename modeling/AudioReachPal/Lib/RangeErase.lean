import Mathlib.Data.List.Basic

/-!
# Erasing from a vector inside a range loop over it

The loop `cnt = 0; for (auto &elem : v) { cnt++; if (p(elem)) { v.erase(v.begin() + cnt - 1);
cnt--; } }`. The places that it goes over, and their number, are those of the vector it started
with: an erasure moves the elements behind it one place down, but not the loop. So the element
after an erased one is not looked at, and the last place is one that the vector has left.
-/

namespace AudioReachPal.Lib

variable {α : Type*} (p : α → Bool)

/-- The loop with `n` places to go, at the place `i`; `none` when it looks at a place beyond the
end of the vector. -/
def rangeEraseFrom : ℕ → ℕ → ℕ → List α → Option (List α)
  | 0, _, _, v => some v
  | n + 1, i, cnt, v =>
    match v[i]? with
    | none => none
    | some elem =>
      if p elem then rangeEraseFrom n (i + 1) cnt (v.eraseIdx cnt)
      else rangeEraseFrom n (i + 1) (cnt + 1) v

/-- The vector after the loop over all of it. -/
def rangeErase (v : List α) : Option (List α) := rangeEraseFrom p v.length 0 0 v

variable {p}

/-- Once the vector is shorter than the places to go reach, one of them is beyond its end. -/
theorem rangeEraseFrom_of_short {n i cnt : ℕ} {v : List α} (hn : 0 < n)
    (h : v.length < i + n) : rangeEraseFrom p n i cnt v = none := by
  induction n generalizing i cnt v with
  | zero => omega
  | succ n ih =>
    unfold rangeEraseFrom
    cases hi : v[i]? with
    | none => rfl
    | some elem =>
      obtain ⟨hlt, -⟩ := List.getElem?_eq_some_iff.mp hi
      have herase : (v.eraseIdx cnt).length ≤ v.length := List.length_eraseIdx_le v cnt
      simp only
      split_ifs
      · apply ih
        · omega
        · omega
      · apply ih
        · omega
        · omega

/-- While nothing is erased the place is the index, and the loop ends inside the vector exactly
when the only element left to erase is the last one. -/
theorem rangeEraseFrom_eq_some (front rest : List α) {r : List α} :
    rangeEraseFrom p rest.length front.length front.length (front ++ rest) = some r ↔
      (∀ a ∈ rest.dropLast, ¬ p a = true) ∧ r = front ++ rest.filter fun a => !p a := by
  induction rest generalizing front with
  | nil =>
    constructor
    · intro h
      cases h
      exact ⟨fun a ha => absurd ha List.not_mem_nil, rfl⟩
    · rintro ⟨-, rfl⟩
      rfl
  | cons a rest ih =>
    have hat : (front ++ a :: rest)[front.length]? = some a := by simp
    rw [List.length_cons, rangeEraseFrom, hat]
    simp only
    by_cases ha : p a = true
    · have herase : (front ++ a :: rest).eraseIdx front.length = front ++ rest := by
        rw [List.eraseIdx_append_of_length_le (Nat.le_refl _), Nat.sub_self, List.eraseIdx_cons_zero]
      rw [if_pos ha, herase]
      cases rest with
      | nil =>
        -- the erased element was the last one
        rw [List.length_nil, rangeEraseFrom, List.filter_cons_of_neg (by simp [ha])]
        constructor
        · intro h
          cases h
          exact ⟨fun b hb => absurd hb List.not_mem_nil, rfl⟩
        · rintro ⟨-, rfl⟩
          rfl
      | cons b rest =>
        have hshort : (front ++ b :: rest).length < front.length + 1 + (b :: rest).length := by
          rw [List.length_append]
          omega
        rw [rangeEraseFrom_of_short (by rw [List.length_cons]; omega) hshort]
        constructor
        · intro h
          cases h
        · rintro ⟨hkeep, -⟩
          rw [List.dropLast_cons_cons] at hkeep
          exact absurd ha (hkeep a List.mem_cons_self)
    · have hstep := ih (front ++ [a])
      rw [List.length_append, List.length_singleton, List.append_assoc, List.singleton_append]
        at hstep
      rw [if_neg ha, hstep, List.filter_cons_of_pos (by simp [ha]), List.append_assoc,
        List.singleton_append]
      apply and_congr_left
      intro _
      cases rest with
      | nil => simp
      | cons b rest =>
        rw [List.dropLast_cons_cons, List.forall_mem_cons]
        exact ⟨fun h => ⟨ha, h⟩, fun h => h.2⟩

/-- **The loop stays inside the vector exactly when it erases nothing but the last element**, and
then it leaves the elements that are not to be erased. -/
theorem rangeErase_eq_some {v r : List α} :
    rangeErase p v = some r ↔
      (∀ a ∈ v.dropLast, ¬ p a = true) ∧ r = v.filter fun a => !p a :=
  rangeEraseFrom_eq_some [] v

/-- Where elements of a kind were put behind a vector and are taken out again, the loop does so
exactly when there was one of them and none of its kind in the vector. -/
theorem rangeErase_append_singleton {v r : List α} {a : α} (ha : p a = true) :
    rangeErase p (v ++ [a]) = some r ↔ (∀ b ∈ v, ¬ p b = true) ∧ r = v := by
  rw [rangeErase_eq_some, List.dropLast_concat]
  apply and_congr_right
  intro hv
  have hfilter : (v ++ [a]).filter (fun b => !p b) = v := by
    rw [List.filter_append, List.filter_cons_of_neg (by simp [ha]), List.filter_nil,
      List.append_nil]
    exact List.filter_eq_self.mpr fun b hb => by simp [hv b hb]
  rw [hfilter]

end AudioReachPal.Lib
