import AudioReachPal.Lib.Runs

/-!
# Runs that look alike

What an observer sees of a system is a function of its state. Two runs whose inputs differ only in
hidden ones end in states that look alike, where every other input acts on what is seen alone, and
the hidden ones, under a condition on the state they are taken from, leave it.
-/

namespace AudioReachPal.Lib

variable {σ ι ω : Type*} {step : σ → ι → Option σ}

/-- The inputs differ only in hidden ones. -/
inductive DifferIn (hidden : ι → Prop) : List ι → List ι → Prop where
  | nil : DifferIn hidden [] []
  | both (i : ι) {is js : List ι} (h : DifferIn hidden is js) : DifferIn hidden (i :: is) (i :: js)
  | left {i : ι} (hi : hidden i) {is js : List ι} (h : DifferIn hidden is js) :
    DifferIn hidden (i :: is) js
  | right {j : ι} (hj : hidden j) {is js : List ι} (h : DifferIn hidden is js) :
    DifferIn hidden is (j :: js)

/-- Results that look alike still do after a function that keeps what looks alike alike. -/
theorem map_eq_of_map_eq {α β γ : Type*} {f : α → β} {g : α → γ}
    (hg : ∀ a a', f a = f a' → g a = g a') {x y : Option α} (h : x.map f = y.map f) :
    x.map g = y.map g := by
  cases x with
  | none =>
    rw [Option.map_none, eq_comm, Option.map_eq_none_iff] at h
    rw [h]
  | some a =>
    obtain ⟨a', rfl, hf⟩ := Option.map_eq_some_iff.mp h.symm
    exact congrArg some (hg a a' hf.symm)

/-- **The rule for two runs.** What is seen after them is the same where it was the same before. -/
theorem obs_eq_of_differIn (obs : σ → ω) {hidden : ι → Prop} {ok : σ → ι → Prop}
    (hvisible : ∀ {s t s' t' i}, ¬ hidden i → obs s = obs t → step s i = some s' →
      step t i = some t' → obs s' = obs t')
    (hhidden : ∀ {s s' i}, hidden i → ok s i → step s i = some s' → obs s' = obs s)
    {is js : List ι} (h : DifferIn hidden is js) :
    ∀ {s t s' t' : σ}, Meets step ok s is → Meets step ok t js → obs s = obs t →
      run step s is = some s' → run step t js = some t' → obs s' = obs t' := by
  induction h with
  | nil =>
    intro s t s' t' _ _ heq hs ht
    cases hs
    cases ht
    exact heq
  | both i _ ih =>
    intro s t s' t' hok hok' heq hs ht
    obtain ⟨s₁, hs₁, hs⟩ := (run_cons_eq_some step).mp hs
    obtain ⟨t₁, ht₁, ht⟩ := (run_cons_eq_some step).mp ht
    refine ih (hok.2 s₁ hs₁) (hok'.2 t₁ ht₁) ?_ hs ht
    by_cases hi : hidden i
    · rw [hhidden hi hok.1 hs₁, heq, hhidden hi hok'.1 ht₁]
    · exact hvisible hi heq hs₁ ht₁
  | left hi _ ih =>
    intro s t s' t' hok hok' heq hs ht
    obtain ⟨s₁, hs₁, hs⟩ := (run_cons_eq_some step).mp hs
    exact ih (hok.2 s₁ hs₁) hok' ((hhidden hi hok.1 hs₁).trans heq) hs ht
  | right hj _ ih =>
    intro s t s' t' hok hok' heq hs ht
    obtain ⟨t₁, ht₁, ht⟩ := (run_cons_eq_some step).mp ht
    exact ih hok (hok'.2 t₁ ht₁) (heq.trans (hhidden hj hok'.1 ht₁).symm) hs ht

end AudioReachPal.Lib
