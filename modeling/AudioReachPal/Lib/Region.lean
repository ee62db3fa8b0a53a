import Mathlib.Data.List.Basic
import Mathlib.Tactic.Ring

/-!
# Regions of memory

A region is the bytes that a pointer leads to; places in it are counted from its start. Reading and
writing are partial: they are defined where all their bytes lie inside. Numbers are stored with the
lowest byte first.
-/

namespace AudioReachPal.Lib

/-! ### Slices -/

/-- The `n` bytes at `p`. -/
def slice (b : List UInt8) (p n : ℕ) : Option (List UInt8) :=
  if p + n ≤ b.length then some ((b.drop p).take n) else none

/-- Writes `data` at `p`. -/
def patch (b : List UInt8) (p : ℕ) (data : List UInt8) : Option (List UInt8) :=
  if p + data.length ≤ b.length then some (b.take p ++ (data ++ b.drop (p + data.length))) else none

variable {b b' data : List UInt8} {p q n m : ℕ}

theorem slice_eq_some (h : p + n ≤ b.length) : slice b p n = some ((b.drop p).take n) := if_pos h

theorem slice_isSome : (slice b p n).isSome ↔ p + n ≤ b.length := by
  unfold slice
  split_ifs with h <;> simp [h]

theorem slice_eq_none_iff : slice b p n = none ↔ b.length < p + n := by
  unfold slice
  split_ifs with h
  · simp
    omega
  · simp
    omega

theorem le_of_slice (h : slice b p n = some data) : p + n ≤ b.length :=
  slice_isSome.mp (Option.isSome_iff_exists.mpr ⟨data, h⟩)

theorem length_of_slice (h : slice b p n = some data) : data.length = n := by
  have hle := le_of_slice h
  rw [slice_eq_some hle] at h
  rw [← Option.some.inj h, List.length_take, List.length_drop]
  omega

/-- A slice behind other bytes. -/
theorem slice_append_right (front : List UInt8) (b : List UInt8) (p n : ℕ) :
    slice (front ++ b) (front.length + p) n = slice b p n := by
  unfold slice
  rw [List.length_append, List.drop_append, List.drop_of_length_le (by omega), List.nil_append,
    Nat.add_sub_cancel_left]
  congr 1
  exact propext (by omega)

/-- A slice in front of other bytes. -/
theorem slice_append_left (back : List UInt8) (h : p + n ≤ b.length) :
    slice (b ++ back) p n = slice b p n := by
  rw [slice_eq_some h, slice_eq_some (by rw [List.length_append]; omega),
    List.drop_append_of_le_length (by omega), List.take_append_of_le_length
      (by rw [List.length_drop]; omega)]

theorem slice_self (b : List UInt8) : slice b 0 b.length = some b := by
  rw [slice_eq_some (by omega), List.drop_zero, List.take_length]

/-- **A slice that was laid out** between other bytes. -/
theorem slice_between (front data back : List UInt8) :
    slice (front ++ (data ++ back)) front.length data.length = some data := by
  have hright := slice_append_right front (data ++ back) 0 data.length
  rw [Nat.add_zero] at hright
  rw [hright, slice_append_left back (by omega), slice_self]

/-- **A slice of a slice.** -/
theorem slice_slice (h : slice b p n = some data) (hq : q + m ≤ n) :
    slice data q m = slice b (p + q) m := by
  have hle := le_of_slice h
  have hlen := length_of_slice h
  rw [slice_eq_some hle] at h
  rw [slice_eq_some (by omega), slice_eq_some (by omega), ← Option.some.inj h, List.drop_take,
    List.take_take, List.drop_drop, Nat.min_eq_left (by omega)]

/-- Two slices, one right behind the other. -/
theorem slice_add (h : slice b p n = some data) (h' : slice b (p + n) m = some b') :
    slice b p (n + m) = some (data ++ b') := by
  have hle := le_of_slice h
  have hle' := le_of_slice h'
  rw [slice_eq_some hle] at h
  rw [slice_eq_some hle'] at h'
  rw [slice_eq_some (by omega), ← Option.some.inj h, ← Option.some.inj h', List.take_add,
    List.drop_drop]

/-! ### Writing -/

theorem patch_isSome : (patch b p data).isSome ↔ p + data.length ≤ b.length := by
  unfold patch
  split_ifs with h <;> simp [h]

theorem length_of_patch (h : patch b p data = some b') : b'.length = b.length := by
  have hle := patch_isSome.mp (Option.isSome_iff_exists.mpr ⟨b', h⟩)
  unfold patch at h
  rw [if_pos hle] at h
  rw [← Option.some.inj h, List.length_append, List.length_append, List.length_take,
    List.length_drop]
  omega

/-- **What was written is read back.** -/
theorem slice_patch_self (h : patch b p data = some b') : slice b' p data.length = some data := by
  have hle := patch_isSome.mp (Option.isSome_iff_exists.mpr ⟨b', h⟩)
  unfold patch at h
  rw [if_pos hle] at h
  have hp : (b.take p).length = p := by
    rw [List.length_take]
    omega
  have hread := slice_between (b.take p) data (b.drop (p + data.length))
  rwa [hp, Option.some.inj h] at hread

/-- **Bytes in front of a write** are not changed. -/
theorem slice_patch_front (h : patch b p data = some b') (hq : q + n ≤ p) :
    slice b' q n = slice b q n := by
  have hle := patch_isSome.mp (Option.isSome_iff_exists.mpr ⟨b', h⟩)
  unfold patch at h
  rw [if_pos hle] at h
  have hp : (b.take p).length = p := by
    rw [List.length_take]
    omega
  rw [← Option.some.inj h, slice_append_left _ (by omega)]
  rw [slice_eq_some (by omega), slice_eq_some (by omega), List.drop_take, List.take_take,
    Nat.min_eq_left (by omega)]

/-- What lies behind a write is not changed. -/
theorem drop_of_patch (h : patch b p data = some b') (hq : p + data.length ≤ q) :
    b'.drop q = b.drop q := by
  have hle := patch_isSome.mp (Option.isSome_iff_exists.mpr ⟨b', h⟩)
  unfold patch at h
  rw [if_pos hle] at h
  rw [← Option.some.inj h, List.drop_append, List.drop_append, List.drop_of_length_le
    (by rw [List.length_take]; omega), List.drop_of_length_le (by rw [List.length_take]; omega),
    List.drop_drop, List.length_take]
  simp only [List.nil_append]
  congr 1
  omega

/-- **Bytes behind a write** are not changed either. -/
theorem slice_patch_behind (h : patch b p data = some b') (hq : p + data.length ≤ q) :
    slice b' q n = slice b q n := by
  unfold slice
  rw [length_of_patch h, drop_of_patch h hq]

/-- **Filling a cleared region** from the front. -/
theorem patch_fill (front : List UInt8) (h : data.length ≤ m) :
    patch (front ++ List.replicate m 0) front.length data =
      some (front ++ data ++ List.replicate (m - data.length) 0) := by
  unfold patch
  rw [if_pos (by rw [List.length_append, List.length_replicate]; omega), List.take_left,
    List.drop_append, List.drop_of_length_le (by omega), List.nil_append, List.drop_replicate,
    Nat.add_sub_cancel_left, List.append_assoc]

/-! ### Numbers -/

/-- The number that bytes stand for. -/
def ofBytes : List UInt8 → ℕ
  | [] => 0
  | byte :: bytes => byte.toNat + 2 ^ 8 * ofBytes bytes

/-- The `w` bytes of a number. -/
def toBytes : (w : ℕ) → ℕ → List UInt8
  | 0, _ => []
  | w + 1, n => UInt8.ofNat n :: toBytes w (n / 2 ^ 8)

@[simp] theorem length_toBytes (w n : ℕ) : (toBytes w n).length = w := by
  induction w generalizing n with
  | zero => rfl
  | succ w ih => rw [toBytes, List.length_cons, ih]

theorem ofBytes_lt (bytes : List UInt8) : ofBytes bytes < 2 ^ (8 * bytes.length) := by
  induction bytes with
  | nil => decide
  | cons byte bytes ih =>
    have hbyte := byte.toNat_lt
    have hpow : 2 ^ (8 * (bytes.length + 1)) = 2 ^ 8 * 2 ^ (8 * bytes.length) := by ring
    rw [ofBytes, List.length_cons, hpow]
    omega

theorem ofBytes_toBytes {w n : ℕ} (h : n < 2 ^ (8 * w)) : ofBytes (toBytes w n) = n := by
  induction w generalizing n with
  | zero =>
    rw [Nat.mul_zero, Nat.pow_zero] at h
    rw [toBytes, ofBytes]
    omega
  | succ w ih =>
    have hpow : 2 ^ (8 * (w + 1)) = 2 ^ 8 * 2 ^ (8 * w) := by ring
    have hbyte : (UInt8.ofNat n).toNat = n % 2 ^ 8 := UInt8.toNat_ofNat'
    rw [toBytes, ofBytes, ih (by omega), hbyte]
    omega

/-- The number of `w` bytes at `p`. -/
def readLE (b : List UInt8) (w p : ℕ) : Option ℕ := (slice b p w).map ofBytes

variable {w k : ℕ}

theorem readLE_isSome : (readLE b w p).isSome ↔ p + w ≤ b.length := by
  unfold readLE
  rw [Option.isSome_map]
  exact slice_isSome

theorem readLE_eq_none_iff : readLE b w p = none ↔ b.length < p + w := by
  unfold readLE
  rw [Option.map_eq_none_iff]
  exact slice_eq_none_iff

theorem le_of_readLE (h : readLE b w p = some k) : p + w ≤ b.length :=
  readLE_isSome.mp (Option.isSome_iff_exists.mpr ⟨k, h⟩)

theorem readLE_lt (h : readLE b w p = some k) : k < 2 ^ (8 * w) := by
  obtain ⟨data, hdata, rfl⟩ := Option.map_eq_some_iff.mp h
  rw [← length_of_slice hdata]
  exact ofBytes_lt data

theorem readLE_of_le (h : p + w ≤ b.length) : ∃ k, readLE b w p = some k :=
  Option.isSome_iff_exists.mp (readLE_isSome.mpr h)

theorem readLE_slice (h : slice b p n = some data) (hq : q + w ≤ n) :
    readLE data w q = readLE b w (p + q) := by
  unfold readLE
  rw [slice_slice h hq]

/-- **A number that was laid out** between other bytes. -/
theorem readLE_between (front back : List UInt8) (h : k < 2 ^ (8 * w)) :
    readLE (front ++ (toBytes w k ++ back)) w front.length = some k := by
  have hread := slice_between front (toBytes w k) back
  rw [length_toBytes] at hread
  rw [readLE, hread, Option.map_some, ofBytes_toBytes h]

/-! ### Words -/

/-- Numbers of four bytes each, one behind the other. -/
def wordBytes (words : List ℕ) : List UInt8 := words.flatMap (toBytes 4)

@[simp] theorem wordBytes_nil : wordBytes [] = [] := rfl

@[simp] theorem wordBytes_cons (word : ℕ) (words : List ℕ) :
    wordBytes (word :: words) = toBytes 4 word ++ wordBytes words := List.flatMap_cons

@[simp] theorem length_wordBytes (words : List ℕ) : (wordBytes words).length = 4 * words.length := by
  induction words with
  | nil => rfl
  | cons word words ih =>
    rw [wordBytes_cons, List.length_append, length_toBytes, ih, List.length_cons]
    omega

/-- Writes words one by one, from `p` on. -/
def patchWords (b : List UInt8) (p : ℕ) : List ℕ → Option (List UInt8)
  | [] => some b
  | word :: words => (patch b p (toBytes 4 word)).bind fun b => patchWords b (p + 4) words

theorem length_of_patchWords {words : List ℕ} (h : patchWords b p words = some b') :
    b'.length = b.length := by
  induction words generalizing b p with
  | nil => rw [← Option.some.inj h]
  | cons word words ih =>
    obtain ⟨b₁, hfirst, hrest⟩ := Option.bind_eq_some_iff.mp h
    rw [ih hrest, length_of_patch hfirst]

theorem slice_patchWords_front {words : List ℕ} (h : patchWords b p words = some b')
    (hq : q + n ≤ p) : slice b' q n = slice b q n := by
  induction words generalizing b p with
  | nil => rw [← Option.some.inj h]
  | cons word words ih =>
    obtain ⟨b₁, hfirst, hrest⟩ := Option.bind_eq_some_iff.mp h
    rw [ih hrest (by omega), slice_patch_front hfirst hq]

theorem patchWords_isSome (words : List ℕ) (hp : p ≤ b.length) :
    (patchWords b p words).isSome ↔ p + 4 * words.length ≤ b.length := by
  induction words generalizing b p with
  | nil => exact iff_of_true rfl hp
  | cons word words ih =>
    have hlen : (patch b p (toBytes 4 word)).isSome ↔ p + (toBytes 4 word).length ≤ b.length :=
      patch_isSome
    rw [length_toBytes] at hlen
    unfold patchWords
    rw [List.length_cons]
    rcases hfirst : patch b p (toBytes 4 word) with _ | b₁
    · rw [hfirst] at hlen
      have hout := mt hlen.mpr (by decide)
      refine iff_of_false (by simp) ?_
      omega
    · rw [hfirst] at hlen
      have hin := hlen.mp rfl
      have hsame := length_of_patch hfirst
      rw [Option.bind_some, ih (by omega), hsame]
      omega

theorem drop_of_patchWords {words : List ℕ} (h : patchWords b p words = some b')
    (hq : p + 4 * words.length ≤ q) : b'.drop q = b.drop q := by
  induction words generalizing b p with
  | nil => rw [← Option.some.inj h]
  | cons word words ih =>
    obtain ⟨b₁, hfirst, hrest⟩ := Option.bind_eq_some_iff.mp h
    rw [List.length_cons] at hq
    rw [ih hrest (by omega), drop_of_patch hfirst (by rw [length_toBytes]; omega)]

/-- **The words are read back.** -/
theorem slice_patchWords {words : List ℕ} (hp : p ≤ b.length) (h : patchWords b p words = some b') :
    slice b' p (4 * words.length) = some (wordBytes words) := by
  induction words generalizing b p with
  | nil =>
    obtain rfl := Option.some.inj h
    rw [slice_eq_some hp]
    rfl
  | cons word words ih =>
    obtain ⟨b₁, hfirst, hrest⟩ := Option.bind_eq_some_iff.mp h
    have hin := patch_isSome.mp (Option.isSome_iff_exists.mpr ⟨b₁, hfirst⟩)
    have hlen := length_of_patch hfirst
    have hword := slice_patch_self hfirst
    rw [length_toBytes] at hword hin
    have hback := ih (p := p + 4) (by omega) hrest
    rw [← slice_patchWords_front hrest (Nat.le_refl _)] at hword
    rw [List.length_cons, wordBytes_cons, Nat.mul_add, Nat.mul_one, Nat.add_comm (4 * _)]
    exact slice_add hword hback

end AudioReachPal.Lib
