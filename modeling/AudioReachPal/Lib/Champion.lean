import Mathlib.Data.List.Basic
import Mathlib.Data.List.Perm.Basic

/-!
# The champion of a list

The entries of a list challenge, in order, the one that leads, and take its place when they beat
it. `beats` is any relation, not an order: `champion_perm_iff` says when the last leader is the
same for every order of the entries, which needs it to beat each of the others and to be beaten
by none of them.
-/

namespace AudioReachPal.Lib

variable {α : Type*} (beats : α → α → Prop) [DecidableRel beats]

/-- The leader after `x` challenges `lead`. -/
def challenge (lead x : α) : α := if beats x lead then x else lead

/-- The last leader, when the entries challenge it in order. -/
def champion : List α → Option α
  | [] => none
  | x :: xs => some (xs.foldl (challenge beats) x)

variable {beats} {m x c : α} {xs S : List α}

theorem challenge_of_beats (h : beats x c) : challenge beats c x = x := if_pos h

theorem challenge_of_not_beats (h : ¬beats x c) : challenge beats c x = c := if_neg h

/-- The last leader is one of those that led or challenged. -/
theorem foldl_challenge_mem (x : α) (xs : List α) : xs.foldl (challenge beats) x ∈ x :: xs := by
  induction xs generalizing x with
  | nil => simp
  | cons y ys ih =>
    have hrest := ih (challenge beats x y)
    rw [List.foldl_cons]
    unfold challenge at hrest ⊢
    split_ifs at hrest ⊢ with hb
    · exact List.mem_cons_of_mem x hrest
    · rcases List.mem_cons.mp hrest with heq | hmem
      · rw [heq]
        exact List.mem_cons_self
      · exact List.mem_cons_of_mem x (List.mem_cons_of_mem y hmem)

/-- A challenger that beats every other and is beaten by none is the last leader. -/
theorem foldl_challenge_of_mem (hm : m ∈ x :: xs)
    (h : ∀ c ∈ x :: xs, c ≠ m → beats m c ∧ ¬beats c m) : xs.foldl (challenge beats) x = m := by
  induction xs generalizing x with
  | nil => exact (List.mem_singleton.mp hm).symm
  | cons y ys ih =>
    rw [List.foldl_cons]
    have hsub : ∀ c ∈ challenge beats x y :: ys, c ∈ x :: y :: ys := by
      intro c hc
      unfold challenge at hc
      split_ifs at hc
      · exact List.mem_cons_of_mem x hc
      · rcases List.mem_cons.mp hc with rfl | hc
        · exact List.mem_cons_self
        · exact List.mem_cons_of_mem x (List.mem_cons_of_mem y hc)
    refine ih ?_ fun c hc hne => h c (hsub c hc) hne
    -- `m` leads after this challenge, or is still to come
    rcases eq_or_ne x m with rfl | hx
    · rcases eq_or_ne y x with rfl | hy
      · unfold challenge
        split_ifs <;> simp
      · rw [challenge_of_not_beats (h y (by simp) hy).2]
        simp
    · rcases eq_or_ne y m with rfl | hy
      · rw [challenge_of_beats (h x (by simp) hx).1]
        simp
      · have hmys : m ∈ ys := by simpa [hx.symm, hy.symm] using hm
        exact List.mem_cons_of_mem _ hmys

theorem champion_of_mem (hm : m ∈ S) (h : ∀ c ∈ S, c ≠ m → beats m c ∧ ¬beats c m) :
    champion beats S = some m := by
  cases S with
  | nil => exact absurd hm List.not_mem_nil
  | cons x xs => exact congrArg some (foldl_challenge_of_mem hm h)

theorem champion_eq_none : champion beats S = none ↔ S = [] := by
  cases S <;> simp [champion]

theorem champion_mem (hm : champion beats S = some m) : m ∈ S := by
  cases S with
  | nil => cases hm
  | cons x xs =>
    cases hm
    exact foldl_challenge_mem x xs

/-- **Order independence.** An entry is the last leader in every order of the entries exactly when
it beats each of the others and none of them beats it. -/
theorem champion_perm_iff [DecidableEq α] (hS : S.Nodup) (hm : m ∈ S) :
    (∀ l, l.Perm S → champion beats l = some m) ↔
      ∀ c ∈ S, c ≠ m → beats m c ∧ ¬beats c m := by
  constructor
  · intro h c hc hne
    have hc' : c ∈ S.erase m := (hS.mem_erase_iff).mpr ⟨hne, hc⟩
    have hrest : S.Perm (m :: c :: (S.erase m).erase c) :=
      (List.perm_cons_erase hm).trans ((List.perm_cons_erase hc').cons m)
    have hnotmem : m ∉ c :: (S.erase m).erase c := by
      have hnodup : (m :: c :: (S.erase m).erase c).Nodup := hrest.nodup_iff.mp hS
      exact (List.nodup_cons.mp hnodup).1
    -- once `c` leads a list whose other entries are not `m`, the last leader is not `m`
    have hlost : ((S.erase m).erase c).foldl (challenge beats) c ≠ m := by
      intro heq
      have hlast : ((S.erase m).erase c).foldl (challenge beats) c ∈ c :: (S.erase m).erase c :=
        foldl_challenge_mem _ _
      rw [heq] at hlast
      exact hnotmem hlast
    constructor
    · by_contra hnb
      have hlead : some (((S.erase m).erase c).foldl (challenge beats) (challenge beats c m)) =
          some m := h (c :: m :: (S.erase m).erase c) ((List.Perm.swap m c _).trans hrest.symm)
      rw [challenge_of_not_beats hnb] at hlead
      exact hlost (Option.some.inj hlead)
    · intro hb
      have hlead : some (((S.erase m).erase c).foldl (challenge beats) (challenge beats m c)) =
          some m := h (m :: c :: (S.erase m).erase c) hrest.symm
      rw [challenge_of_beats hb] at hlead
      exact hlost (Option.some.inj hlead)
  · intro h l hl
    exact champion_of_mem (hl.symm.subset hm) fun c hc => h c (hl.subset hc)

end AudioReachPal.Lib
