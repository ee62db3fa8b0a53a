import Mathlib.Logic.Basic
import Mathlib.Order.Defs.Unbundled

/-!
# Procedures on a state, and what they ensure

A procedure reads and changes a state and returns a value, or it faults (`none`). `Ensures m s Q`
is the weakest precondition of `m` for `Q`, as a statement about the state `s`: whatever `m`
returns from `s` satisfies `Q`, and a fault promises nothing. The rules are equivalences, in the
simp set, so that a procedure made of the usual constructs is run by `simp`; `Ensures.mono` and
`Ensures.bind` are for procedures that have a rule of their own. `Respects R m` is the frame
condition: whatever `m` does from any state is a step of the preorder `R`; it is put together from
the parts of `m`. `Returns m s Q` is the total counterpart of `Ensures`: `m` returns from `s`, and
what it returns satisfies `Q`. A procedure returns at most once, so that one such fact decides every
other (`Returns.iff`).
-/

namespace AudioReachPal.Lib

/-- A procedure on the state `σ`. -/
abbrev Proc (σ : Type) : Type → Type := StateT σ Option

variable {σ α β : Type}

/-- All that `m` returns from `s` satisfies `Q`. -/
def Ensures (m : Proc σ α) (s : σ) (Q : α → σ → Prop) : Prop :=
  ∀ a t, m.run s = some (a, t) → Q a t

@[simp] theorem ensures_pure (a : α) (s : σ) (Q : α → σ → Prop) :
    Ensures (pure a) s Q ↔ Q a s := by
  constructor
  · intro h
    exact h a s rfl
  · rintro h _ _ ⟨⟩
    exact h

@[simp] theorem ensures_bind (m : Proc σ α) (f : α → Proc σ β) (s : σ) (Q : β → σ → Prop) :
    Ensures (m >>= f) s Q ↔ Ensures m s fun a t => Ensures (f a) t Q := by
  have hrun : (m >>= f).run s = (m.run s).bind fun p => (f p.1).run p.2 := rfl
  unfold Ensures
  rw [hrun]
  constructor
  · intro h a t hm b u hf
    exact h b u (by rw [hm]; exact hf)
  · intro h b u hb
    obtain ⟨⟨a, t⟩, hm, hf⟩ := Option.bind_eq_some_iff.mp hb
    exact h a t hm b u hf

@[simp] theorem ensures_map (f : α → β) (m : Proc σ α) (s : σ) (Q : β → σ → Prop) :
    Ensures (f <$> m) s Q ↔ Ensures m s fun a t => Q (f a) t := by
  have hbind : f <$> m = m >>= fun a => pure (f a) := (bind_pure_comp f m).symm
  rw [hbind, ensures_bind]
  simp only [ensures_pure]

@[simp] theorem ensures_get (s : σ) (Q : σ → σ → Prop) : Ensures get s Q ↔ Q s s := by
  constructor
  · intro h
    exact h s s rfl
  · rintro h _ _ ⟨⟩
    exact h

@[simp] theorem ensures_set (t s : σ) (Q : PUnit → σ → Prop) :
    Ensures (set t) s Q ↔ Q ⟨⟩ t := by
  constructor
  · intro h
    exact h ⟨⟩ t rfl
  · rintro h _ _ ⟨⟩
    exact h

@[simp] theorem ensures_modify (f : σ → σ) (s : σ) (Q : PUnit → σ → Prop) :
    Ensures (modify f) s Q ↔ Q ⟨⟩ (f s) := by
  constructor
  · intro h
    exact h ⟨⟩ (f s) rfl
  · rintro h _ _ ⟨⟩
    exact h

@[simp] theorem ensures_failure (s : σ) (Q : α → σ → Prop) : Ensures failure s Q := by
  rintro _ _ ⟨⟩

@[simp] theorem ensures_ite (c : Prop) [Decidable c] (m n : Proc σ α) (s : σ)
    (Q : α → σ → Prop) :
    Ensures (if c then m else n) s Q ↔ (c → Ensures m s Q) ∧ (¬c → Ensures n s Q) := by
  by_cases h : c <;> simp [h]

/-- The rule of consequence. -/
theorem Ensures.mono {m : Proc σ α} {s : σ} {Q R : α → σ → Prop} (h : Ensures m s Q)
    (hQR : ∀ a t, Q a t → R a t) : Ensures m s R :=
  fun a t hm => hQR a t (h a t hm)

/-- The rule of sequence, with what the first procedure ensures. -/
theorem Ensures.bind {m : Proc σ α} {f : α → Proc σ β} {s : σ} {Q : α → σ → Prop}
    {R : β → σ → Prop} (h : Ensures m s Q) (hf : ∀ a t, Q a t → Ensures (f a) t R) :
    Ensures (m >>= f) s R :=
  (ensures_bind m f s R).mpr (h.mono hf)

theorem Ensures.and {m : Proc σ α} {s : σ} {Q R : α → σ → Prop} (h : Ensures m s Q)
    (h' : Ensures m s R) : Ensures m s fun a t => Q a t ∧ R a t :=
  fun a t hm => ⟨h a t hm, h' a t hm⟩

/-! ### Frame conditions -/

/-- Every run of `m` is a step of `R`. -/
def Respects (R : σ → σ → Prop) (m : Proc σ α) : Prop :=
  ∀ s, Ensures m s fun _ t => R s t

section Respects

variable {R S : σ → σ → Prop}

theorem Respects.mono {m : Proc σ α} (h : Respects R m) (hRS : ∀ s t, R s t → S s t) :
    Respects S m :=
  fun s => (h s).mono fun _ t => hRS s t

@[simp] theorem respects_modify (f : σ → σ) : Respects R (modify f) ↔ ∀ s, R s (f s) :=
  forall_congr' fun s => ensures_modify f s fun _ t => R s t

@[simp] theorem respects_failure : Respects R (failure : Proc σ α) :=
  fun s => ensures_failure s _

@[simp] theorem respects_pure [Std.Refl R] (a : α) : Respects R (pure a : Proc σ α) :=
  fun s => (ensures_pure a s _).mpr (refl s)

@[simp] theorem respects_get [Std.Refl R] : Respects R (get : Proc σ σ) :=
  fun s => (ensures_get s _).mpr (refl s)

/-- What has been framed from `s` on stays so. -/
theorem Respects.after [IsTrans σ R] {m : Proc σ α} (hm : Respects R m) {s t : σ} (hst : R s t) :
    Ensures m t fun _ u => R s u :=
  (hm t).mono fun _ _ htu => IsTrans.trans _ _ _ hst htu

/-- The rule of consequence for what has been framed from `s` on. -/
theorem Respects.through [IsTrans σ R] {m : Proc σ α} (hm : Respects R m) {s t : σ}
    (hst : R s t) {Q : α → σ → Prop} (hQ : ∀ a u, R s u → Q a u) : Ensures m t Q :=
  (hm.after hst).mono hQ

/-- The frame rule: a sequence is framed by what frames its parts. -/
theorem Respects.bind [IsTrans σ R] {m : Proc σ α} {f : α → Proc σ β} (hm : Respects R m)
    (hf : ∀ a, Respects R (f a)) : Respects R (m >>= f) := by
  intro s
  refine (hm s).bind ?_
  intro a t hst
  exact (hf a).after hst

theorem Respects.ite {c : Prop} [Decidable c] {m n : Proc σ α} (hm : Respects R m)
    (hn : Respects R n) : Respects R (if c then m else n) := by
  by_cases h : c
  · rw [if_pos h]
    exact hm
  · rw [if_neg h]
    exact hn

end Respects

/-! ### Total correctness -/

/-- `m` returns from `s`, and what it returns satisfies `Q`. -/
def Returns (m : Proc σ α) (s : σ) (Q : α → σ → Prop) : Prop :=
  ∃ a t, m.run s = some (a, t) ∧ Q a t

theorem returns_of_run {m : Proc σ α} {s t : σ} {a : α} (hm : m.run s = some (a, t))
    (Q : α → σ → Prop) : Returns m s Q ↔ Q a t := by
  constructor
  · rintro ⟨b, u, hu, hQ⟩
    rw [hm] at hu
    cases hu
    exact hQ
  · exact fun hQ => ⟨a, t, hm, hQ⟩

@[simp] theorem returns_pure (a : α) (s : σ) (Q : α → σ → Prop) :
    Returns (pure a) s Q ↔ Q a s :=
  returns_of_run rfl Q

@[simp] theorem returns_bind (m : Proc σ α) (f : α → Proc σ β) (s : σ) (Q : β → σ → Prop) :
    Returns (m >>= f) s Q ↔ Returns m s fun a t => Returns (f a) t Q := by
  have hrun : (m >>= f).run s = (m.run s).bind fun p => (f p.1).run p.2 := rfl
  unfold Returns
  rw [hrun]
  constructor
  · rintro ⟨b, u, hb, hQ⟩
    obtain ⟨⟨a, t⟩, hm, hf⟩ := Option.bind_eq_some_iff.mp hb
    exact ⟨a, t, hm, b, u, hf, hQ⟩
  · rintro ⟨a, t, hm, b, u, hf, hQ⟩
    exact ⟨b, u, Option.bind_eq_some_iff.mpr ⟨(a, t), hm, hf⟩, hQ⟩

@[simp] theorem returns_map (f : α → β) (m : Proc σ α) (s : σ) (Q : β → σ → Prop) :
    Returns (f <$> m) s Q ↔ Returns m s fun a t => Q (f a) t := by
  have hbind : f <$> m = m >>= fun a => pure (f a) := (bind_pure_comp f m).symm
  rw [hbind, returns_bind]
  simp only [returns_pure]

@[simp] theorem returns_get (s : σ) (Q : σ → σ → Prop) : Returns get s Q ↔ Q s s :=
  returns_of_run rfl Q

@[simp] theorem returns_modify (f : σ → σ) (s : σ) (Q : PUnit → σ → Prop) :
    Returns (modify f) s Q ↔ Q ⟨⟩ (f s) :=
  returns_of_run rfl Q

@[simp] theorem not_returns_failure (s : σ) (Q : α → σ → Prop) : ¬Returns failure s Q := by
  rintro ⟨_, _, ⟨⟩, -⟩

@[simp] theorem returns_ite (c : Prop) [Decidable c] (m n : Proc σ α) (s : σ)
    (Q : α → σ → Prop) :
    Returns (if c then m else n) s Q ↔ (c → Returns m s Q) ∧ (¬c → Returns n s Q) := by
  by_cases h : c <;> simp [h]

/-- The rule of consequence. -/
theorem Returns.mono {m : Proc σ α} {s : σ} {Q R : α → σ → Prop} (h : Returns m s Q)
    (hQR : ∀ a t, Q a t → R a t) : Returns m s R := by
  obtain ⟨a, t, hm, hQ⟩ := h
  exact ⟨a, t, hm, hQR a t hQ⟩

/-- The rule of sequence, with what the first procedure returns. -/
theorem Returns.bind {m : Proc σ α} {f : α → Proc σ β} {s : σ} {Q : α → σ → Prop}
    {R : β → σ → Prop} (h : Returns m s Q) (hf : ∀ a t, Q a t → Returns (f a) t R) :
    Returns (m >>= f) s R :=
  (returns_bind m f s R).mpr (h.mono hf)

/-- What a procedure returns decides what holds of it. -/
theorem Returns.iff {m : Proc σ α} {s : σ} {Q R : α → σ → Prop} {p : Prop} (h : Returns m s Q)
    (hQR : ∀ a t, Q a t → (R a t ↔ p)) : Returns m s R ↔ p := by
  obtain ⟨a, t, hm, hQ⟩ := h
  rw [returns_of_run hm]
  exact hQR a t hQ

end AudioReachPal.Lib
