import Mathlib.Data.List.Perm.Subperm
import Mathlib.Data.List.Range

/-!
# Writing a buffer at places that are listed

A list of writes, each a place and a value, is made on a buffer in order. Where no place is listed
twice the order does not matter, and what stands at a place is what its write says. As many distinct
places as the buffer is long, all of them inside, are all its places: each is written exactly once.
-/

namespace AudioReachPal.Lib

variable {β : Type*}

/-- The buffer after the writes. -/
def scatter (b : List β) (w : List (ℕ × β)) : List β := w.foldl (fun b p => b.set p.1 p.2) b

variable {b : List β} {w : List (ℕ × β)} {k : ℕ} {v : β}

@[simp] theorem scatter_nil : scatter b [] = b := rfl

@[simp] theorem scatter_cons {p : ℕ × β} : scatter b (p :: w) = scatter (b.set p.1 p.2) w := rfl

theorem scatter_append {w' : List (ℕ × β)} : scatter b (w ++ w') = scatter (scatter b w) w' :=
  List.foldl_append

@[simp] theorem length_scatter : (scatter b w).length = b.length := by
  induction w generalizing b with
  | nil => rfl
  | cons p w ih => rw [scatter_cons, ih, List.length_set]

/-- A place that is not listed keeps what it has. -/
theorem getElem?_scatter_of_notMem (hk : k ∉ w.map Prod.fst) : (scatter b w)[k]? = b[k]? := by
  induction w generalizing b with
  | nil => rfl
  | cons p w ih =>
    rw [List.map_cons, List.mem_cons, not_or] at hk
    rw [scatter_cons, ih hk.2, List.getElem?_set_ne (Ne.symm hk.1)]

/-- **One write to a place.** What it writes is there in the end. -/
theorem getElem?_scatter_of_mem (hw : (w.map Prod.fst).Nodup) (hmem : (k, v) ∈ w)
    (hk : k < b.length) : (scatter b w)[k]? = some v := by
  induction w generalizing b with
  | nil => simp at hmem
  | cons p w ih =>
    rw [List.map_cons, List.nodup_cons] at hw
    rw [scatter_cons]
    rcases List.mem_cons.mp hmem with rfl | hmem
    · rw [getElem?_scatter_of_notMem hw.1, List.getElem?_set_self hk]
    · exact ih hw.2 hmem (by rwa [List.length_set])

/-- **Counting the places.** Distinct places inside, as many as there are, are all of them. -/
theorem perm_range_of_nodup {l : List ℕ} {n : ℕ} (hl : l.Nodup) (hin : ∀ k ∈ l, k < n)
    (hlen : l.length = n) : l.Perm (List.range n) := by
  have hsub : l ⊆ List.range n := fun k hk => List.mem_range.mpr (hin k hk)
  refine (List.subperm_of_subset hl hsub).perm_of_length_le ?_
  rw [List.length_range, hlen]

/-- Where all places are listed, every value of the buffer is one that was written. -/
theorem mem_of_mem_scatter (hw : (w.map Prod.fst).Perm (List.range b.length)) {x : β}
    (hx : x ∈ scatter b w) : ∃ k, (k, x) ∈ w := by
  obtain ⟨k, hk⟩ := List.mem_iff_getElem?.mp hx
  have hlt : k < b.length := by
    obtain ⟨hlt, -⟩ := List.getElem?_eq_some_iff.mp hk
    rwa [length_scatter] at hlt
  have hnodup : (w.map Prod.fst).Nodup := hw.nodup_iff.mpr List.nodup_range
  obtain ⟨⟨k', v⟩, hmem, rfl⟩ := List.mem_map.mp (hw.mem_iff.mpr (List.mem_range.mpr hlt))
  rw [getElem?_scatter_of_mem hnodup hmem hlt, Option.some.injEq] at hk
  exact ⟨_, hk ▸ hmem⟩

end AudioReachPal.Lib
