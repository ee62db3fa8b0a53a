import Mathlib.Algebra.Ring.Int.Defs
import Mathlib.Algebra.Ring.Nat
import Mathlib.Data.Int.Basic

/-!
# Machine integers as numbers

Unsigned words of 32 and 64 bits are naturals, signed 32-bit words are integers. An operation
that cannot leave its range is the one on numbers; the ones that can are the wrapping operations
below, with the conversions between the two signednesses. Each has a lemma that says when it is
the plain operation.
-/

namespace AudioReachPal.Lib

/-- A sum or a product kept in a 64-bit unsigned word. -/
def size64 (n : ℕ) : ℕ := n % 2 ^ 64

/-- The difference of two 64-bit unsigned words. -/
def sub64 (a b : ℕ) : ℕ := (a + (2 ^ 64 - b % 2 ^ 64)) % 2 ^ 64

/-- A sum or a product kept in a 32-bit unsigned word. -/
def word32 (n : ℕ) : ℕ := n % 2 ^ 32

/-- The difference of two 32-bit unsigned words. -/
def sub32 (a b : ℕ) : ℕ := (a + (2 ^ 32 - b % 2 ^ 32)) % 2 ^ 32

/-- A number kept in a 32-bit signed word, in two's complement. -/
def int32 (z : ℤ) : ℤ := (z + 2 ^ 31) % 2 ^ 32 - 2 ^ 31

/-- A 32-bit signed word converted to a 64-bit unsigned one. -/
def int32ToSize (z : ℤ) : ℕ := (z % 2 ^ 64).toNat

theorem size64_of_lt {n : ℕ} (h : n < 2 ^ 64) : size64 n = n := Nat.mod_eq_of_lt h

theorem sub64_of_le {a b : ℕ} (h : b ≤ a) (ha : a < 2 ^ 64) : sub64 a b = a - b := by
  unfold sub64
  omega

theorem word32_of_lt {n : ℕ} (h : n < 2 ^ 32) : word32 n = n := Nat.mod_eq_of_lt h

theorem sub32_of_le {a b : ℕ} (h : b ≤ a) (ha : a < 2 ^ 32) : sub32 a b = a - b := by
  unfold sub32
  omega

/-- A number below `2 ^ 31` is itself as a signed word. -/
theorem int32_natCast_of_lt {n : ℕ} (h : n < 2 ^ 31) : int32 n = n := by
  unfold int32
  omega

theorem int32ToSize_natCast {n : ℕ} (h : n < 2 ^ 64) : int32ToSize (n : ℤ) = n := by
  unfold int32ToSize
  omega

end AudioReachPal.Lib
