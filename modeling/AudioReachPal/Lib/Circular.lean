import Mathlib.Data.List.Basic
import Mathlib.Data.List.TakeDrop

/-!
# Circular memory

A memory is a function from addresses to cells. `bytesAt` reads a block of it and `storeAt`
overwrites one. A memory used circularly over the addresses below `N` holds the last `N` entries
of the sequence written to it (`Holds`): entry `j` is in cell `j % N` until entry `j + N` takes
its place. Appending to the sequence is a write at the cells that follow, and a block of the
memory that does not wrap is a block of the sequence.
-/

namespace AudioReachPal.Lib

variable {α : Type*} {mem mem' : ℕ → α} {N : ℕ} {l d : List α}

/-- The `n` cells from address `off` on. -/
def bytesAt (mem : ℕ → α) (off n : ℕ) : List α := (List.range n).map fun j => mem (off + j)

@[simp] theorem length_bytesAt (mem : ℕ → α) (off n : ℕ) : (bytesAt mem off n).length = n := by
  simp [bytesAt]

@[simp] theorem bytesAt_zero (mem : ℕ → α) (off : ℕ) : bytesAt mem off 0 = [] := rfl

theorem getElem?_bytesAt (mem : ℕ → α) {off n j : ℕ} (h : j < n) :
    (bytesAt mem off n)[j]? = some (mem (off + j)) := by
  simp [bytesAt, h]

/-- The memory after the entries of `d` are stored from address `off` on. -/
def storeAt (mem : ℕ → α) (off : ℕ) (d : List α) : ℕ → α :=
  fun a => if off ≤ a then d[a - off]?.getD (mem a) else mem a

theorem storeAt_of_lt (mem : ℕ → α) {off a : ℕ} (d : List α) (h : a < off) :
    storeAt mem off d a = mem a := by
  unfold storeAt
  rw [if_neg (by omega)]

theorem storeAt_of_le (mem : ℕ → α) {off a : ℕ} (d : List α) (h : off + d.length ≤ a) :
    storeAt mem off d a = mem a := by
  unfold storeAt
  rw [List.getElem?_eq_none (by omega)]
  simp

theorem storeAt_add (mem : ℕ → α) {off j : ℕ} {d : List α} {x : α} (h : d[j]? = some x) :
    storeAt mem off d (off + j) = x := by
  unfold storeAt
  rw [if_pos (by omega), show off + j - off = j by omega, h]
  rfl

/-- `mem`, used circularly below `N`, holds the last `N` entries of `l`. -/
def Holds (mem : ℕ → α) (N : ℕ) (l : List α) : Prop :=
  ∀ j < l.length, l.length ≤ j + N → l[j]? = some (mem (j % N))

theorem holds_nil (mem : ℕ → α) (N : ℕ) : Holds mem N [] := fun _ h => absurd h (by simp)

/-- Two positions less than `N` apart share a cell only when they are equal. -/
theorem eq_of_mod_eq {i j : ℕ} (h : i % N = j % N) (hij : i ≤ j) (hN : j < i + N) : i = j := by
  have h' : (j - i) % N = 0 := Nat.sub_mod_eq_zero_of_mod_eq h.symm
  have hz : j - i = 0 := by
    rwa [Nat.mod_eq_of_lt (by omega)] at h'
  omega

/-- A step of at most `N` cells either stays in front of the end or wraps once. -/
theorem add_mod_cases {N u : ℕ} (p : ℕ) (hN : 0 < N) (hu : u ≤ N) :
    (p % N + u < N ∧ (p + u) % N = p % N + u) ∨ (N ≤ p % N + u ∧ (p + u) % N = p % N + u - N) := by
  have hp : p % N < N := Nat.mod_lt p hN
  have hmod : (p + u) % N = (p % N + u) % N := by rw [Nat.mod_add_mod]
  rcases Nat.lt_or_ge (p % N + u) N with h | h
  · exact Or.inl ⟨h, by rw [hmod, Nat.mod_eq_of_lt h]⟩
  · exact Or.inr ⟨h, by rw [hmod, Nat.mod_eq_sub_mod h, Nat.mod_eq_of_lt (by omega)]⟩

/-- **Appending.** A memory that takes the entries of `d` in the cells that follow those of `l`,
and keeps its other cells, holds the last entries of `l ++ d`. -/
theorem Holds.append (h : Holds mem N l)
    (hnew : ∀ i < d.length, d[i]? = some (mem' ((l.length + i) % N)))
    (hold : ∀ a < N, (∀ i < d.length, (l.length + i) % N ≠ a) → mem' a = mem a) :
    Holds mem' N (l ++ d) := by
  intro j hj hjN
  rw [List.length_append] at hj hjN
  rcases Nat.lt_or_ge j l.length with hlt | hge
  · rw [List.getElem?_append_left hlt, h j hlt (by omega)]
    congr 1
    refine (hold (j % N) (Nat.mod_lt _ (by omega)) fun i hi hmod => ?_).symm
    have := eq_of_mod_eq hmod.symm (by omega) (by omega)
    omega
  · rw [List.getElem?_append_right hge, hnew (j - l.length) (by omega)]
    congr 3
    omega

/-- Entries that fit in front of the end are stored as one block. -/
theorem Holds.append_block (h : Holds mem N l) (hN : 0 < N) (hd : l.length % N + d.length ≤ N) :
    Holds (storeAt mem (l.length % N) d) N (l ++ d) := by
  have hcell : ∀ i < d.length, (l.length + i) % N = l.length % N + i := by
    intro i hi
    have := add_mod_cases (u := i) l.length hN (by omega)
    omega
  refine h.append ?_ ?_
  · intro i hi
    rw [hcell i hi, storeAt_add mem (List.getElem?_eq_getElem hi), List.getElem?_eq_getElem hi]
  · intro a _ hne
    rcases Nat.lt_or_ge a (l.length % N) with hlo | hhi
    · exact storeAt_of_lt mem d hlo
    · refine storeAt_of_le mem d ?_
      by_contra hlt
      have := hcell (a - l.length % N) (by omega)
      exact hne (a - l.length % N) (by omega) (by omega)

/-- Entries that reach the end are stored as two blocks: up to the end, and from the start on. -/
theorem Holds.append_wrap (h : Holds mem N l) (hN : 0 < N) (hlo : N - l.length % N ≤ d.length)
    (hhi : d.length ≤ N) :
    Holds (storeAt (storeAt mem (l.length % N) (d.take (N - l.length % N))) 0
      (d.drop (N - l.length % N))) N (l ++ d) := by
  have hmod : l.length % N < N := Nat.mod_lt _ hN
  have hlen : (d.take (N - l.length % N)).length = N - l.length % N := List.length_take_of_le hlo
  have hfull := h.append_block (d := d.take (N - l.length % N)) hN (by omega)
  have hend : (l ++ d.take (N - l.length % N)).length % N = 0 := by
    have := add_mod_cases (u := N - l.length % N) l.length hN (by omega)
    rw [List.length_append, hlen]
    omega
  have hrest := hfull.append_block (d := d.drop (N - l.length % N)) hN (by
    rw [hend, List.length_drop]
    omega)
  rwa [hend, List.append_assoc, List.take_append_drop] at hrest

/-- A block of the memory is a block of the sequence when its cells are. -/
theorem bytesAt_eq_take_drop {off p n : ℕ}
    (h : ∀ j < n, l[p + j]? = some (mem (off + j))) : bytesAt mem off n = (l.drop p).take n := by
  apply List.ext_getElem?
  intro j
  rcases Nat.lt_or_ge j n with hj | hj
  · rw [getElem?_bytesAt mem hj, List.getElem?_take_of_lt hj, List.getElem?_drop, h j hj]
  · rw [List.getElem?_eq_none (by simpa using hj),
      List.getElem?_eq_none (by simp; omega)]

/-- A block that does not wrap, of entries that are still held, is read from the cell of its first
entry on. -/
theorem Holds.bytesAt_mod (h : Holds mem N l) {p n : ℕ} (hp : l.length ≤ p + N)
    (hn : p + n ≤ l.length) (hw : p % N + n ≤ N) : bytesAt mem (p % N) n = (l.drop p).take n := by
  apply bytesAt_eq_take_drop
  intro j hj
  rw [h (p + j) (by omega) (by omega)]
  congr 2
  rw [Nat.add_mod, Nat.mod_eq_of_lt (a := j) (by omega), Nat.mod_eq_of_lt (by omega)]

/-- The blocks of `m` and of `n` entries that follow position `p` make the block of `m + n`. -/
theorem take_drop_add (l : List α) (p m n : ℕ) :
    (l.drop p).take (m + n) = (l.drop p).take m ++ (l.drop (p + m)).take n := by
  rw [List.take_add, List.drop_drop]

/-! ### A stream that wraps around -/

/-- The memory after the first `total` entries of the stream `s` went round the addresses below
`N`; `init` is what it held before, and holds beyond `N`. -/
def streamed (init s : ℕ → α) (N total : ℕ) : ℕ → α :=
  fun a => if a < N ∧ a < total then s (total - 1 - (total - 1 - a) % N) else init a

/-- An entry among the last `N` is in its cell. -/
theorem streamed_mod (init s : ℕ → α) {total i : ℕ} (hi : i < total) (hN : total ≤ i + N) :
    streamed init s N total (i % N) = s i := by
  have hle : i % N ≤ i := Nat.mod_le i N
  have hmod : (total - 1 - i % N) % N = total - 1 - i := by
    have hdvd : i - i % N = N * (i / N) := by
      have := Nat.mod_add_div i N
      omega
    rw [show total - 1 - i % N = (total - 1 - i) + N * (i / N) by omega, Nat.add_mul_mod_self_left,
      Nat.mod_eq_of_lt (by omega)]
  unfold streamed
  rw [if_pos ⟨Nat.mod_lt _ (by omega), by omega⟩, hmod]
  congr 1
  omega

/-- A cell holds an entry of its own residue, among the last `N`, or what it held before. -/
theorem streamed_eq (init s : ℕ → α) {N total a : ℕ} (ha : a < N) :
    (∃ k < total, total ≤ k + N ∧ k % N = a ∧ streamed init s N total a = s k) ∨
      streamed init s N total a = init a := by
  by_cases hlt : a < total
  · left
    have hr : (total - 1 - a) % N < N := Nat.mod_lt _ (by omega)
    have hle : (total - 1 - a) % N ≤ total - 1 - a := Nat.mod_le _ _
    refine ⟨total - 1 - (total - 1 - a) % N, by omega, by omega, ?_, ?_⟩
    · have hdiv := Nat.mod_add_div (total - 1 - a) N
      rw [show total - 1 - (total - 1 - a) % N = a + N * ((total - 1 - a) / N) by omega,
        Nat.add_mul_mod_self_left, Nat.mod_eq_of_lt ha]
    · unfold streamed
      rw [if_pos ⟨ha, hlt⟩]
  · right
    unfold streamed
    rw [if_neg (fun h => hlt h.2)]

/-- The entries of a stream from `p` on, and those from `p + m` on, make one block. -/
theorem bytesAt_add (s : ℕ → α) (p m n : ℕ) :
    bytesAt s p (m + n) = bytesAt s p m ++ bytesAt s (p + m) n := by
  simp [bytesAt, List.range_add, Nat.add_assoc]

/-- A block of the last entries of a stream that does not wrap. -/
theorem bytesAt_streamed (init s : ℕ → α) {total p n : ℕ} (hp : total ≤ p + N)
    (hn : p + n ≤ total) (hw : p % N + n ≤ N) :
    bytesAt (streamed init s N total) (p % N) n = bytesAt s p n := by
  unfold bytesAt
  refine List.map_congr_left fun j hj => ?_
  have hjn : j < n := List.mem_range.mp hj
  have hmod : p % N + j = (p + j) % N := by
    have := add_mod_cases (N := N) (u := j) p (by omega) (by omega)
    omega
  rw [hmod, streamed_mod init s (by omega) (by omega)]

end AudioReachPal.Lib
