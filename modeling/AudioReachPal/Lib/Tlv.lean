import Mathlib.Algebra.BigOperators.Group.List.Basic
import Mathlib.Algebra.Ring.Nat

/-!
# Records of a type, a length and a value

A writer that packs records into a region puts each behind the last one: a header of `h` bytes,
then a payload of the size that the header names. `Chain` says that it left no gap; the end of a
chain is where its sizes lead, and every record of it lies inside.
-/

namespace AudioReachPal.Lib

/-- A record as it was written: where its header stands, the two fields of the header, and what
follows it. -/
structure Tlv (κ π : Type*) where
  offset : ℕ
  key_id : κ
  payload_size : ℕ
  payload : π
  deriving DecidableEq, Repr

namespace Tlv

variable {κ π : Type*} (h : ℕ)

/-- The bytes a record takes. -/
def size (r : Tlv κ π) : ℕ := h + r.payload_size

/-- The records stand one behind the other from `p` up to `e`. -/
def Chain (p : ℕ) : List (Tlv κ π) → ℕ → Prop
  | [], e => p = e
  | r :: rs, e => r.offset = p ∧ Chain (p + size h r) rs e

variable {h} {p q e : ℕ} {r : Tlv κ π} {rs rs' : List (Tlv κ π)}

@[simp] theorem chain_nil : Chain h p ([] : List (Tlv κ π)) e ↔ p = e := Iff.rfl

@[simp] theorem chain_cons :
    Chain h p (r :: rs) e ↔ r.offset = p ∧ Chain h (p + size h r) rs e := Iff.rfl

theorem Chain.append (hrs : Chain h p rs q) (hrs' : Chain h q rs' e) :
    Chain h p (rs ++ rs') e := by
  induction rs generalizing p with
  | nil =>
    cases hrs
    exact hrs'
  | cons r rs ih =>
    obtain ⟨hr, hrs⟩ := hrs
    exact ⟨hr, ih hrs⟩

/-- **The end of a chain.** It is as far from the start as the sizes add up to. -/
theorem Chain.end_eq (hrs : Chain h p rs e) : e = p + (rs.map (size h)).sum := by
  induction rs generalizing p with
  | nil =>
    cases hrs
    simp
  | cons r rs ih =>
    obtain ⟨-, hrs⟩ := hrs
    rw [ih hrs, List.map_cons, List.sum_cons, Nat.add_assoc]

theorem Chain.iff_of_chain (hrs : Chain h p rs e) : Chain h p rs q ↔ e = q := by
  constructor
  · intro hq
    rw [hrs.end_eq, hq.end_eq]
  · rintro rfl
    exact hrs

/-- **Records stay inside.** No record of a chain reaches behind its end. -/
theorem Chain.inside (hrs : Chain h p rs e) (hr : r ∈ rs) :
    p ≤ r.offset ∧ r.offset + size h r ≤ e := by
  induction rs generalizing p with
  | nil => simp at hr
  | cons r' rs ih =>
    obtain ⟨hr', hrs⟩ := hrs
    rcases List.mem_cons.mp hr with rfl | hr
    · have hend := hrs.end_eq
      omega
    · obtain ⟨hle, hin⟩ := ih hrs hr
      omega

end Tlv

end AudioReachPal.Lib
