import Mathlib.Data.Option.Basic

/-!
# Ids on loan

A party of some kind takes an id of its kind and gives it back later. `taken` is what the owner of
the ids has marked, `holds` what the parties have. The ids are exclusive when each one that is held
is marked for the kind of its holder, and has one holder in the kind. Taking an id that is not
marked, and giving one back, keep them exclusive. They are covered when each one that is marked has
a holder, so that nothing that was taken is lost; the same two steps keep that.
-/

namespace AudioReachPal.Lib

/-- The ids that are marked for a kind, and those that the parties hold. -/
structure Leases (ρ κ ι : Type*) where
  taken : κ → ι → Prop
  holds : ρ → ι → Prop

namespace Leases

variable {ρ κ ι : Type*} {kind : ρ → Option κ} {L L' : Leases ρ κ ι}

structure Exclusive (kind : ρ → Option κ) (L : Leases ρ κ ι) : Prop where
  taken : ∀ s id, L.holds s id → ∃ k, kind s = some k ∧ L.taken k id
  unique : ∀ s t id, L.holds s id → L.holds t id → kind s = kind t → s = t

/-- No marked id is lost: a party of the kind holds it. -/
def Covered (kind : ρ → Option κ) (L : Leases ρ κ ι) : Prop :=
  ∀ k id, L.taken k id → ∃ s, kind s = some k ∧ L.holds s id

/-- Nothing is taken or given back. -/
structure Same (L L' : Leases ρ κ ι) : Prop where
  taken : ∀ k i, L'.taken k i ↔ L.taken k i
  holds : ∀ t i, L'.holds t i ↔ L.holds t i

/-- The party takes an id that was not marked for its kind. -/
structure Acquire (kind : ρ → Option κ) (s : ρ) (id : ι) (L L' : Leases ρ κ ι) : Prop where
  free : ∀ k, kind s = some k → ¬L.taken k id
  taken : ∀ k i, L'.taken k i ↔ L.taken k i ∨ (kind s = some k ∧ i = id)
  holds : ∀ t i, L'.holds t i ↔ L.holds t i ∨ (t = s ∧ i = id)
  known : (kind s).isSome

/-- The party gives its id back. -/
structure Release (kind : ρ → Option κ) (s : ρ) (id : ι) (L L' : Leases ρ κ ι) : Prop where
  taken : ∀ k i, L'.taken k i ↔ L.taken k i ∧ ¬(kind s = some k ∧ i = id)
  holds : ∀ t i, L'.holds t i ↔ L.holds t i ∧ ¬(t = s ∧ i = id)
  held : L.holds s id

theorem Same.refl (L : Leases ρ κ ι) : Same L L := ⟨fun _ _ => Iff.rfl, fun _ _ => Iff.rfl⟩

theorem Exclusive.taken_of_kind {s : ρ} {id : ι} {k : κ} (h : Exclusive kind L)
    (hk : kind s = some k) (hold : L.holds s id) : L.taken k id := by
  obtain ⟨k', hk', ht⟩ := h.taken s id hold
  rw [hk] at hk'
  cases hk'
  exact ht

theorem Exclusive.same (h : Exclusive kind L) (hs : Same L L') : Exclusive kind L' where
  taken s id hold := by
    obtain ⟨k, hk, ht⟩ := h.taken s id ((hs.holds s id).mp hold)
    exact ⟨k, hk, (hs.taken k id).mpr ht⟩
  unique s t id hold hold' := h.unique s t id ((hs.holds s id).mp hold) ((hs.holds t id).mp hold')

theorem Exclusive.acquire {s : ρ} {id : ι} (h : Exclusive kind L) (ha : Acquire kind s id L L') :
    Exclusive kind L' where
  taken t i hold := by
    rcases (ha.holds t i).mp hold with hold | ⟨rfl, rfl⟩
    · obtain ⟨k, hk, ht⟩ := h.taken t i hold
      exact ⟨k, hk, (ha.taken k i).mpr (Or.inl ht)⟩
    · obtain ⟨k, hk⟩ := Option.isSome_iff_exists.mp ha.known
      exact ⟨k, hk, (ha.taken k i).mpr (Or.inr ⟨hk, rfl⟩)⟩
  unique t u i hold hold' hkind := by
    -- whoever holds the id already has it marked
    have hmarked : ∀ v, L.holds v id → kind v ≠ kind s := by
      intro v hv heq
      obtain ⟨k, hk, ht⟩ := h.taken v id hv
      exact ha.free k (heq ▸ hk) ht
    rcases (ha.holds t i).mp hold with ht | ⟨ht, hi⟩ <;>
      rcases (ha.holds u i).mp hold' with hu | ⟨hu, hi'⟩
    · exact h.unique t u i ht hu hkind
    · exact absurd (hu ▸ hkind) (hmarked t (hi' ▸ ht))
    · exact absurd (ht ▸ hkind.symm) (hmarked u (hi ▸ hu))
    · rw [ht, hu]

theorem Exclusive.release {s : ρ} {id : ι} (h : Exclusive kind L) (hr : Release kind s id L L') :
    Exclusive kind L' where
  taken t i hold := by
    obtain ⟨hold, hne⟩ := (hr.holds t i).mp hold
    obtain ⟨k, hk, ht⟩ := h.taken t i hold
    refine ⟨k, hk, (hr.taken k i).mpr ⟨ht, ?_⟩⟩
    rintro ⟨hs, rfl⟩
    exact hne ⟨h.unique t s i hold hr.held (hk.trans hs.symm), rfl⟩
  unique t u i hold hold' :=
    h.unique t u i ((hr.holds t i).mp hold).1 ((hr.holds u i).mp hold').1

/-! ### No id is lost -/

theorem Covered.same (h : Covered kind L) (hs : Same L L') : Covered kind L' := by
  intro k id ht
  obtain ⟨s, hk, hold⟩ := h k id ((hs.taken k id).mp ht)
  exact ⟨s, hk, (hs.holds s id).mpr hold⟩

theorem Covered.acquire {s : ρ} {id : ι} (h : Covered kind L) (ha : Acquire kind s id L L') :
    Covered kind L' := by
  intro k i ht
  rcases (ha.taken k i).mp ht with ht | ⟨hk, rfl⟩
  · obtain ⟨t, hk, hold⟩ := h k i ht
    exact ⟨t, hk, (ha.holds t i).mpr (Or.inl hold)⟩
  · exact ⟨s, hk, (ha.holds s i).mpr (Or.inr ⟨rfl, rfl⟩)⟩

theorem Covered.release {s : ρ} {id : ι} (h : Covered kind L) (hr : Release kind s id L L') :
    Covered kind L' := by
  intro k i ht
  obtain ⟨ht, hne⟩ := (hr.taken k i).mp ht
  obtain ⟨t, hk, hold⟩ := h k i ht
  refine ⟨t, hk, (hr.holds t i).mpr ⟨hold, ?_⟩⟩
  rintro ⟨rfl, rfl⟩
  exact hne ⟨hk, rfl⟩

end Leases

end AudioReachPal.Lib
