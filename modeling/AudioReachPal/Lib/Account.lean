import AudioReachPal.Lib.Runs
import Mathlib.Data.Sign.Defs

/-!
# Accounts of a log

In a log of calls some take (an open, a start), some give back (a close, a stop), and the others do
not count: `δ` says which. `account δ log` is how much is held after the log, and `none` when
something was given back that was not held. What several parties do in a loop, each with calls of
its own, comes for one of them to its own calls (`run_charge_flatMap`).
-/

namespace AudioReachPal.Lib

variable {α ι : Type*} (δ : α → SignType)

/-- What is held after one more call. -/
def charge (n : ℕ) (a : α) : Option ℕ :=
  match δ a, n with
  | .pos, n => some (n + 1)
  | .zero, n => some n
  | .neg, 0 => none
  | .neg, n + 1 => some n

/-- What is held after the calls of a log. -/
def account (log : List α) : Option ℕ := run (charge δ) 0 log

variable {δ} {a : α} {n : ℕ} {log new : List α}

theorem charge_pos (h : δ a = .pos) : charge δ n a = some (n + 1) := by
  unfold charge
  rw [h]

theorem charge_zero (h : δ a = .zero) : charge δ n a = some n := by
  unfold charge
  rw [h]

theorem charge_neg_succ (h : δ a = .neg) : charge δ (n + 1) a = some n := by
  unfold charge
  rw [h]

@[simp] theorem account_nil : account δ [] = some 0 := rfl

theorem account_append (log new : List α) :
    account δ (log ++ new) = (account δ log).bind fun n => run (charge δ) n new :=
  run_append _ 0 log new

theorem account_append_of_eq (h : account δ log = some n) (new : List α) :
    account δ (log ++ new) = run (charge δ) n new := by
  rw [account_append, h]
  rfl

/-- Calls that do not count change nothing. -/
theorem run_charge_of_quiet (h : ∀ a ∈ new, δ a = .zero) (n : ℕ) :
    run (charge δ) n new = some n := by
  induction new with
  | nil => rfl
  | cons a new ih =>
    rw [run_cons, charge_zero (h a List.mem_cons_self)]
    exact ih fun b hb => h b (List.mem_cons_of_mem _ hb)

theorem account_append_of_quiet (h : ∀ a ∈ new, δ a = .zero) (log : List α) :
    account δ (log ++ new) = account δ log := by
  rw [account_append]
  cases hlog : account δ log with
  | none => rfl
  | some n => exact run_charge_of_quiet h n

/-- **One party of a loop.** Where only the calls of `d` count, a loop over parties comes to the
calls of `d`, if it is one of them. -/
theorem run_charge_flatMap [DecidableEq ι] {d : ι} {ds : List ι} {f : ι → List α}
    (hnd : ds.Nodup) (hquiet : ∀ x, x ≠ d → ∀ a ∈ f x, δ a = .zero) (n : ℕ) :
    run (charge δ) n (ds.flatMap f) = if d ∈ ds then run (charge δ) n (f d) else some n := by
  induction ds with
  | nil => rfl
  | cons x ds ih =>
    obtain ⟨hx, hnd⟩ := List.nodup_cons.mp hnd
    rw [List.flatMap_cons, run_append]
    by_cases hxd : x = d
    · subst hxd
      have hrest : ∀ m, run (charge δ) m (ds.flatMap f) = some m := by
        intro m
        refine run_charge_of_quiet ?_ m
        intro a ha
        obtain ⟨y, hy, ha⟩ := List.mem_flatMap.mp ha
        exact hquiet y (by rintro rfl; exact hx hy) a ha
      rw [if_pos List.mem_cons_self]
      cases hfx : run (charge δ) n (f x) with
      | none => rfl
      | some m => exact hrest m
    · rw [run_charge_of_quiet (hquiet x hxd) n, Option.bind_some, ih hnd]
      simp only [List.mem_cons, Ne.symm hxd, false_or]

end AudioReachPal.Lib
