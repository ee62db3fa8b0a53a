import Mathlib.Data.List.Nodup

/-!
# Walking a list that changes

An iterator into a linked list stands at an element, or at the end. To go on it asks for the element
that is behind its own in the list as it is then, so that elements may come and go while it stands,
but its own may not. `remaining` is what it has still to visit, the element that it stands at first.
-/

namespace AudioReachPal.Lib.Iterator

variable {α : Type*} [DecidableEq α] {l m : List α} {x y : α}

/-- The list from an element on. -/
def fromElem (l : List α) (x : α) : List α := l.dropWhile (· ≠ x)

/-- Behind an element; `none` is the end. -/
def succ (l : List α) (x : α) : Option α := (fromElem l x).tail.head?

def remaining (l : List α) : Option α → List α
  | none => []
  | some x => fromElem l x

@[simp] theorem remaining_none : remaining l none = [] := rfl

theorem remaining_some : remaining l (some x) = fromElem l x := rfl

theorem fromElem_append_cons (h : x ∉ l) : fromElem (l ++ x :: m) x = x :: m := by
  unfold fromElem
  rw [List.dropWhile_append_of_pos fun y hy => by
    have hne : y ≠ x := fun he => h (he ▸ hy)
    simpa using hne]
  simp

/-- A walk starts with all elements to visit. -/
theorem remaining_head? : remaining l l.head? = l := by
  cases l with
  | nil => rfl
  | cons x l => exact fromElem_append_cons (l := []) List.not_mem_nil

theorem fromElem_subset : fromElem l x ⊆ l := (List.dropWhile_sublist _).subset

/-- The lists before and behind an element. -/
theorem exists_split (hx : x ∈ l) : ∃ before after, x ∉ before ∧ l = before ++ x :: after ∧
    fromElem l x = x :: after := by
  obtain ⟨before, after, rfl, hnot⟩ := List.eq_append_cons_of_mem hx
  exact ⟨before, after, hnot, rfl, fromElem_append_cons hnot⟩

theorem mem_fromElem_self (hx : x ∈ l) : x ∈ fromElem l x := by
  obtain ⟨-, after, -, -, hfrom⟩ := exists_split hx
  rw [hfrom]
  exact List.mem_cons_self

/-- **A step of the walk.** The element that the iterator leaves is visited, and no other. -/
theorem remaining_succ (hl : l.Nodup) (hx : x ∈ l) :
    remaining l (succ l x) = (fromElem l x).tail := by
  obtain ⟨before, after, -, rfl, hfrom⟩ := exists_split hx
  unfold succ
  rw [hfrom, List.tail_cons]
  cases after with
  | nil => rfl
  | cons y after =>
    rw [List.head?_cons, remaining_some, List.append_cons]
    refine fromElem_append_cons fun hy => ?_
    rw [List.append_cons] at hl
    exact (List.nodup_append.mp hl).2.2 y hy y List.mem_cons_self rfl

theorem not_mem_tail_fromElem (hl : l.Nodup) : x ∉ (fromElem l x).tail := by
  by_cases hx : x ∈ l
  · obtain ⟨before, after, -, rfl, hfrom⟩ := exists_split hx
    rw [hfrom, List.tail_cons]
    exact (List.nodup_cons.mp (List.nodup_append.mp hl).2.1).1
  · exact fun h => hx (fromElem_subset (List.mem_of_mem_tail h))

theorem mem_of_succ (h : succ l x = some y) : y ∈ l :=
  fromElem_subset (List.mem_of_mem_tail (List.mem_of_mem_head? h))

/-! ### The list changes -/

/-- What comes is put at the end, and is to be visited too. -/
theorem fromElem_append (hx : x ∈ l) : fromElem (l ++ m) x = fromElem l x ++ m := by
  obtain ⟨before, after, hnot, rfl, hfrom⟩ := exists_split hx
  rw [hfrom, List.append_assoc, List.cons_append]
  exact fromElem_append_cons hnot

/-- What goes is not visited any more. -/
theorem fromElem_erase (hl : l.Nodup) (hx : x ∈ l) (hne : y ≠ x) :
    fromElem (l.erase y) x = (fromElem l x).erase y := by
  obtain ⟨before, after, hnot, rfl, hfrom⟩ := exists_split hx
  have hcons : (x :: after).erase y = x :: after.erase y :=
    List.erase_cons_tail (by simpa using hne.symm)
  rw [hfrom]
  by_cases hy : y ∈ before
  · have hafter : y ∉ x :: after := fun h => (List.nodup_append.mp hl).2.2 y hy y h rfl
    rw [List.erase_append_left _ hy, List.erase_of_not_mem hafter]
    exact fromElem_append_cons fun h => hnot (List.mem_of_mem_erase h)
  · rw [List.erase_append_right _ hy, hcons]
    exact fromElem_append_cons hnot

end AudioReachPal.Lib.Iterator
