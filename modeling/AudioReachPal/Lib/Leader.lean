import Mathlib.Data.List.Basic
import Mathlib.Data.List.Perm.Basic

/-!
# A list with its leader in front

Elements come with a level. One whose level is higher than every level before, and positive, is put in
front of the list, the others behind it: the list holds what came, each as often as it came, and its
head has the highest level once some level is positive.
-/

namespace AudioReachPal.Lib

/-- The list with the highest level so far. -/
structure Leading (α : Type*) where
  best : ℕ
  list : List α

namespace Leading

variable {α : Type*}

def empty : Leading α := ⟨0, []⟩

/-- An element with its level comes. -/
def push (d : Leading α) (p : α × ℕ) : Leading α :=
  if p.2 > d.best then ⟨p.2, p.1 :: d.list⟩ else ⟨d.best, d.list ++ [p.1]⟩

variable {d : Leading α} {ps seen : List (α × ℕ)}

/-- **Nothing is lost** and nothing comes twice. -/
theorem foldl_push_perm (ps : List (α × ℕ)) (d : Leading α) :
    (ps.foldl push d).list.Perm (d.list ++ ps.map Prod.fst) := by
  induction ps generalizing d with
  | nil => simp
  | cons p ps ih =>
    have hpush : (d.push p).list.Perm (d.list ++ [p.1]) := by
      unfold push
      split_ifs
      · exact (List.perm_append_singleton p.1 d.list).symm
      · exact List.Perm.refl _
    rw [List.foldl_cons, List.map_cons]
    refine (ih (d.push p)).trans ?_
    rw [List.append_cons]
    exact hpush.append_right _

/-- What has been seen is no higher than the best level, and a positive one is that of the head. -/
structure Leads (d : Leading α) (seen : List (α × ℕ)) : Prop where
  le_best : ∀ p ∈ seen, p.2 ≤ d.best
  head : 0 < d.best → ∃ p ∈ seen, p.2 = d.best ∧ d.list.head? = some p.1

theorem Leads.push (h : Leads d seen) (p : α × ℕ) : Leads (d.push p) (seen ++ [p]) := by
  unfold Leading.push
  split_ifs with hp
  · constructor
    · intro q hq
      show q.2 ≤ p.2
      rcases List.mem_append.mp hq with hq | hq
      · have hle := h.le_best q hq
        omega
      · obtain rfl := List.mem_singleton.mp hq
        exact Nat.le_refl _
    · exact fun _ => ⟨p, by simp, rfl, rfl⟩
  · constructor
    · intro q hq
      show q.2 ≤ d.best
      rcases List.mem_append.mp hq with hq | hq
      · exact h.le_best q hq
      · rw [List.mem_singleton.mp hq]
        omega
    · intro hbest
      obtain ⟨q, hq, hlevel, hhead⟩ := h.head hbest
      refine ⟨q, List.mem_append_left _ hq, hlevel, ?_⟩
      show (d.list ++ [p.1]).head? = some q.1
      rw [List.head?_append, hhead]
      rfl

theorem Leads.foldl_push (h : Leads d seen) : Leads (ps.foldl Leading.push d) (seen ++ ps) := by
  induction ps generalizing d seen with
  | nil => simpa using h
  | cons p ps ih =>
    rw [List.foldl_cons, List.append_cons]
    exact ih (h.push p)

/-- **The head leads.** Where some level is positive, the head came with the highest one. -/
theorem head_foldl_push (hpos : ∃ p ∈ ps, 0 < p.2) :
    ∃ p ∈ ps, (ps.foldl push empty).list.head? = some p.1 ∧ ∀ q ∈ ps, q.2 ≤ p.2 := by
  have hstart : Leads (empty : Leading α) [] :=
    ⟨fun _ h => absurd h List.not_mem_nil, fun h => absurd h (Nat.lt_irrefl 0)⟩
  have hleads : Leads (ps.foldl push empty) ps := hstart.foldl_push
  obtain ⟨p, hp, hlevel⟩ := hpos
  have hle := hleads.le_best p hp
  obtain ⟨q, hq, hbest, hhead⟩ := hleads.head (by omega)
  refine ⟨q, hq, hhead, fun q' hq' => ?_⟩
  rw [hbest]
  exact hleads.le_best q' hq'

end Leading

end AudioReachPal.Lib
