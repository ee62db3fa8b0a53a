import Mathlib

/-!
# Loops over the entries of a map

A loop whose passes have distinct keys, each of which reads and writes the entry of its own key only.
`view k st` is the entry of `k` in the state `st`, and `g x` is what the pass of `x` makes of the
entry of its key. A pass may need its entry to be as `ok` says. The entry of a key is then what its
own pass makes of the entry before the loop, and a flag that passes raise is raised when one of them
raises it on the entry before the loop.
-/

namespace AudioReachPal.Lib

variable {σ ι κ β : Type*} {f : σ → ι → σ} {key : ι → κ} {view : κ → σ → β} {g : ι → β → β}
  {ok : ι → β → Prop}

/-- What no pass changes. -/
theorem foldl_kept {α : Type*} {p : σ → α} (h : ∀ st x, p (f st x) = p st) (l : List ι) (st : σ) :
    p (l.foldl f st) = p st := by
  induction l generalizing st with
  | nil => rfl
  | cons x l ih => exact (ih (f st x)).trans (h st x)

/-- The passes of a loop keep to their own keys. -/
structure OwnKeys (f : σ → ι → σ) (key : ι → κ) (view : κ → σ → β) (g : ι → β → β)
    (ok : ι → β → Prop) : Prop where
  self : ∀ st x, ok x (view (key x) st) → view (key x) (f st x) = g x (view (key x) st)
  other : ∀ st x k, ok x (view (key x) st) → k ≠ key x → view k (f st x) = view k st

namespace OwnKeys

variable {l : List ι} {x : ι} {st : σ}

/-- The passes behind the first one find their entries as they were before it. -/
theorem ok_tail (h : OwnKeys f key view g ok) (hl : ((x :: l).map key).Nodup)
    (hok : ∀ y ∈ x :: l, ok y (view (key y) st)) : ∀ y ∈ l, ok y (view (key y) (f st x)) := by
  intro y hy
  have hx := (List.nodup_cons.mp hl).1
  have hne : key y ≠ key x := fun heq => hx (heq ▸ List.mem_map_of_mem hy)
  rw [h.other st x (key y) (hok x List.mem_cons_self) hne]
  exact hok y (List.mem_cons_of_mem _ hy)

theorem foldl_of_notMem (h : OwnKeys f key view g ok) {k : κ} (hk : k ∉ l.map key)
    (hl : (l.map key).Nodup) (hok : ∀ y ∈ l, ok y (view (key y) st)) :
    view k (l.foldl f st) = view k st := by
  induction l generalizing st with
  | nil => rfl
  | cons x l ih =>
    obtain ⟨hne, hk⟩ := List.ne_and_not_mem_of_not_mem_cons hk
    rw [List.foldl_cons, ih hk (List.nodup_cons.mp hl).2 (h.ok_tail hl hok)]
    exact h.other st x k (hok x List.mem_cons_self) hne

theorem foldl_of_mem (h : OwnKeys f key view g ok) (hx : x ∈ l) (hl : (l.map key).Nodup)
    (hok : ∀ y ∈ l, ok y (view (key y) st)) :
    view (key x) (l.foldl f st) = g x (view (key x) st) := by
  induction l generalizing st with
  | nil => exact absurd hx List.not_mem_nil
  | cons y l ih =>
    obtain ⟨hy, hl'⟩ := List.nodup_cons.mp hl
    have hoky := hok y List.mem_cons_self
    have htail := h.ok_tail hl hok
    rw [List.foldl_cons]
    rcases List.mem_cons.mp hx with rfl | hx
    · rw [h.foldl_of_notMem hy hl' htail]
      exact h.self st x hoky
    · have hne : key x ≠ key y := fun heq => hy (heq ▸ List.mem_map_of_mem hx)
      rw [ih hx hl' htail, h.other st y (key x) hoky hne]

theorem foldl_flag (h : OwnKeys f key view g ok) {flag : σ → Bool} (raises : ι → β → Bool)
    (hflag : ∀ st x, ok x (view (key x) st) →
      flag (f st x) = (flag st || raises x (view (key x) st)))
    (hl : (l.map key).Nodup) (hok : ∀ y ∈ l, ok y (view (key y) st)) :
    flag (l.foldl f st) = (flag st || l.any fun x => raises x (view (key x) st)) := by
  induction l generalizing st with
  | nil => exact (Bool.or_false _).symm
  | cons x l ih =>
    obtain ⟨hx, hl'⟩ := List.nodup_cons.mp hl
    have hokx := hok x List.mem_cons_self
    have hsame : (l.any fun y => raises y (view (key y) (f st x))) =
        l.any fun y => raises y (view (key y) st) := by
      rw [Bool.eq_iff_iff, List.any_eq_true, List.any_eq_true]
      refine exists_congr fun y => and_congr_right fun hy => ?_
      have hne : key y ≠ key x := fun heq => hx (heq ▸ List.mem_map_of_mem hy)
      rw [h.other st x (key y) hokx hne]
    rw [List.foldl_cons, ih hl' (h.ok_tail hl hok), hflag st x hokx, hsame, List.any_cons,
      Bool.or_assoc]

/-! ### Loops over a tree map -/

section TreeMap

variable {κ α : Type*} [Ord κ] [Std.TransOrd κ] [Std.LawfulEqOrd κ] {f : σ → κ × α → σ}
  {view : κ → σ → β} {g : κ × α → β → β} {ok : κ × α → β → Prop} {m : Std.TreeMap κ α} {st : σ}

theorem nodup_keys_toList (m : Std.TreeMap κ α) : (m.toList.map Prod.fst).Nodup := by
  refine List.pairwise_map.mpr ?_
  have hdistinct : m.toList.Pairwise fun a b => ¬ compare a.1 b.1 = .eq :=
    Std.TreeMap.distinct_keys_toList
  refine hdistinct.imp fun {a b} hne heq => hne ?_
  rw [heq]
  exact Std.ReflCmp.compare_self

theorem toList_foldl_of_some (h : OwnKeys f Prod.fst view g ok) {k : κ} {v : α}
    (hk : m[k]? = some v) (hok : ∀ x ∈ m.toList, ok x (view x.1 st)) :
    view k (m.toList.foldl f st) = g (k, v) (view k st) :=
  h.foldl_of_mem (Std.TreeMap.mem_toList_iff_getElem?_eq_some.mpr hk) (nodup_keys_toList m) hok

theorem toList_foldl_of_none (h : OwnKeys f Prod.fst view g ok) {k : κ} (hk : m[k]? = none)
    (hok : ∀ x ∈ m.toList, ok x (view x.1 st)) : view k (m.toList.foldl f st) = view k st := by
  refine h.foldl_of_notMem ?_ (nodup_keys_toList m) hok
  intro hmem
  obtain ⟨⟨_, v⟩, hx, rfl⟩ := List.mem_map.mp hmem
  rw [Std.TreeMap.mem_toList_iff_getElem?_eq_some.mp hx] at hk
  cases hk

theorem toList_foldl_flag (h : OwnKeys f Prod.fst view g ok) {flag : σ → Bool}
    (raises : κ × α → β → Bool) (hok : ∀ x ∈ m.toList, ok x (view x.1 st))
    (hflag : ∀ st x, ok x (view x.1 st) → flag (f st x) = (flag st || raises x (view x.1 st))) :
    flag (m.toList.foldl f st) = true ↔
      flag st = true ∨ ∃ k v, m[k]? = some v ∧ raises (k, v) (view k st) = true := by
  rw [h.foldl_flag raises hflag (nodup_keys_toList m) hok, Bool.or_eq_true, List.any_eq_true]
  refine or_congr_right ⟨?_, ?_⟩
  · rintro ⟨⟨k, v⟩, hx, hraises⟩
    exact ⟨k, v, Std.TreeMap.mem_toList_iff_getElem?_eq_some.mp hx, hraises⟩
  · rintro ⟨k, v, hk, hraises⟩
    exact ⟨(k, v), Std.TreeMap.mem_toList_iff_getElem?_eq_some.mpr hk, hraises⟩

end TreeMap

end OwnKeys

end AudioReachPal.Lib
