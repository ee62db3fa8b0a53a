import Mathlib.Data.List.Basic

/-!
# Runs of a partial step function

A system is a function `step : σ → ι → Option σ`; `none` is a step that is not taken (the call
is refused, or it ends the run). A run follows a list of inputs. The rules below are the ones a
development uses: a run splits at any point, what every step keeps every run keeps, and the same
when only the steps that meet a condition keep it.
-/

namespace AudioReachPal.Lib

variable {σ ι : Type*} (step : σ → ι → Option σ)

/-- The state after the inputs `is`, taken in order. -/
def run (s : σ) : List ι → Option σ
  | [] => some s
  | i :: is => (step s i).bind fun t => run t is

@[simp] theorem run_nil (s : σ) : run step s [] = some s := rfl

theorem run_cons (s : σ) (i : ι) (is : List ι) :
    run step s (i :: is) = (step s i).bind fun t => run step t is := rfl

theorem run_cons_eq_some {s u : σ} {i : ι} {is : List ι} :
    run step s (i :: is) = some u ↔ ∃ t, step s i = some t ∧ run step t is = some u := by
  rw [run_cons, Option.bind_eq_some_iff]

theorem run_append (s : σ) (is js : List ι) :
    run step s (is ++ js) = (run step s is).bind fun t => run step t js := by
  induction is generalizing s with
  | nil => rfl
  | cons i is ih =>
    rw [List.cons_append, run_cons, run_cons, Option.bind_assoc]
    congr 1
    funext t
    exact ih t

/-- Every step of the run along `is` is taken from a state, and with an input, that meet `ok`. -/
def Meets (ok : σ → ι → Prop) (s : σ) : List ι → Prop
  | [] => True
  | i :: is => ok s i ∧ ∀ t, step s i = some t → Meets ok t is

/-- A condition that can be tested in a state can be tested along a run. -/
instance decidableMeets {ok : σ → ι → Prop} [∀ s i, Decidable (ok s i)] :
    ∀ (is : List ι) (s : σ), Decidable (Meets step ok s is)
  | [], _ => .isTrue trivial
  | i :: is, s =>
    have : DecidablePred fun t => Meets step ok t is := decidableMeets is
    inferInstanceAs (Decidable (ok s i ∧ ∀ t ∈ step s i, Meets step ok t is))

variable {step}

theorem meets_some_cons {f : σ → ι → σ} {ok : σ → ι → Prop} {s : σ} {i : ι} {is : List ι} :
    Meets (fun s i => some (f s i)) ok s (i :: is) ↔
      ok s i ∧ Meets (fun s i => some (f s i)) ok (f s i) is := by
  constructor
  · rintro ⟨hi, hrest⟩
    exact ⟨hi, hrest _ rfl⟩
  · rintro ⟨hi, hrest⟩
    refine ⟨hi, ?_⟩
    rintro _ ⟨⟩
    exact hrest

theorem meets_cons_of_some {ok : σ → ι → Prop} {s t : σ} {i : ι} {is : List ι} (hi : ok s i)
    (ht : step s i = some t) (hrest : Meets step ok t is) : Meets step ok s (i :: is) := by
  refine ⟨hi, ?_⟩
  intro u hu
  rw [ht] at hu
  cases hu
  exact hrest

/-- **The invariant rule.** What every step that meets `ok` keeps holds after every run whose
steps all meet `ok`. -/
theorem run_invariant_of_meets {ok : σ → ι → Prop} {Inv : σ → Prop}
    (hstep : ∀ s i t, ok s i → Inv s → step s i = some t → Inv t) :
    ∀ {is : List ι} {s u : σ}, Meets step ok s is → Inv s → run step s is = some u → Inv u := by
  intro is
  induction is with
  | nil =>
    intro s u _ hs hu
    cases hu
    exact hs
  | cons i is ih =>
    intro s u hm hs hu
    obtain ⟨t, ht, hu⟩ := (run_cons_eq_some step).1 hu
    exact ih (hm.2 t ht) (hstep s i t hm.1 hs ht) hu

/-- Where no step that meets `ok` is refused, no run whose steps meet it is. -/
theorem exists_run_of_meets {ok : σ → ι → Prop} {Inv : σ → Prop}
    (hstep : ∀ s i, ok s i → Inv s → ∃ t, step s i = some t ∧ Inv t) :
    ∀ {is : List ι} {s : σ}, Meets step ok s is → Inv s → ∃ u, run step s is = some u ∧ Inv u := by
  intro is
  induction is with
  | nil => exact fun {s} _ hs => ⟨s, rfl, hs⟩
  | cons i is ih =>
    rintro s ⟨hi, hrest⟩ hs
    obtain ⟨t, ht, hInv⟩ := hstep s i hi hs
    obtain ⟨u, hu, hInv⟩ := ih (hrest t ht) hInv
    exact ⟨u, (run_cons_eq_some step).mpr ⟨t, ht, hu⟩, hInv⟩

theorem meets_of_forall {ok : σ → ι → Prop} {is : List ι} (h : ∀ s, ∀ i ∈ is, ok s i) :
    ∀ s, Meets step ok s is := by
  induction is with
  | nil => intro _; trivial
  | cons i is ih =>
    intro s
    exact ⟨h s i (by simp), fun t _ => ih (fun s j hj => h s j (List.mem_cons_of_mem _ hj)) t⟩

/-- Conditions that agree wherever an invariant holds are met by the same runs, when the steps that
meet them keep the invariant. -/
theorem meets_iff_of_kept {ok ok' : σ → ι → Prop} {Inv : σ → Prop}
    (hstep : ∀ s i t, ok' s i → Inv s → step s i = some t → Inv t)
    (hok : ∀ s i, Inv s → (ok s i ↔ ok' s i)) {is : List ι} :
    ∀ {s : σ}, Inv s → (Meets step ok s is ↔ Meets step ok' s is) := by
  induction is with
  | nil => exact fun _ => Iff.rfl
  | cons i is ih =>
    intro s hs
    unfold Meets
    rw [hok s i hs]
    refine and_congr_right fun hi => forall₂_congr fun t ht => ?_
    exact ih (hstep s i t hi hs ht)

/-- Conditions that agree wherever an invariant of every step holds are met by the same runs. -/
theorem meets_congr {ok ok' : σ → ι → Prop} {Inv : σ → Prop}
    (hstep : ∀ s i t, Inv s → step s i = some t → Inv t)
    (hok : ∀ s i, Inv s → (ok s i ↔ ok' s i)) {is : List ι} {s : σ} (hs : Inv s) :
    Meets step ok s is ↔ Meets step ok' s is :=
  meets_iff_of_kept (fun s i t _ => hstep s i t) hok hs

theorem Meets.and_forall {ok : σ → ι → Prop} {P : ι → Prop} {is : List ι} (hP : ∀ i ∈ is, P i)
    {s : σ} (hm : Meets step ok s is) : Meets step (fun s i => P i ∧ ok s i) s is := by
  induction is generalizing s with
  | nil => trivial
  | cons i is ih =>
    obtain ⟨hok, hrest⟩ := hm
    refine ⟨⟨hP i List.mem_cons_self, hok⟩, fun t ht => ?_⟩
    exact ih (fun j hj => hP j (List.mem_cons_of_mem _ hj)) (hrest t ht)

theorem Meets.and {ok ok' : σ → ι → Prop} {is : List ι} :
    ∀ {s : σ}, Meets step ok s is → Meets step ok' s is →
      Meets step (fun s i => ok s i ∧ ok' s i) s is := by
  induction is with
  | nil => exact fun _ _ => trivial
  | cons i is ih =>
    rintro s ⟨hok, hrest⟩ ⟨hok', hrest'⟩
    exact ⟨⟨hok, hok'⟩, fun t ht => ih (hrest t ht) (hrest' t ht)⟩

/-- A condition that holds wherever another one and its invariant do is met by the runs that meet
the other one. -/
theorem Meets.mono_of_invariant {ok ok' : σ → ι → Prop} {Inv : σ → Prop}
    (hstep : ∀ s i t, ok s i → Inv s → step s i = some t → Inv t)
    (hok : ∀ s i, ok s i → Inv s → ok' s i) {is : List ι} :
    ∀ {s : σ}, Meets step ok s is → Inv s → Meets step ok' s is := by
  induction is with
  | nil => exact fun _ _ => trivial
  | cons i is ih =>
    rintro s ⟨hi, hrest⟩ hs
    exact ⟨hok s i hi hs, fun t ht => ih (hrest t ht) (hstep s i t hi hs ht)⟩

theorem Meets.mono {ok ok' : σ → ι → Prop} (hok : ∀ s i, ok s i → ok' s i) {is : List ι} {s : σ}
    (h : Meets step ok s is) : Meets step ok' s is := by
  have hstep : ∀ s i t, ok s i → True → step s i = some t → True := fun _ _ _ _ _ _ => trivial
  exact Meets.mono_of_invariant hstep (fun s i hi _ => hok s i hi) h trivial

theorem Meets.of_append {ok : σ → ι → Prop} {is js : List ι} :
    ∀ {s : σ}, Meets step ok s (is ++ js) → Meets step ok s is := by
  induction is with
  | nil => exact fun _ => trivial
  | cons i is ih =>
    rintro s ⟨hi, hrest⟩
    exact ⟨hi, fun t ht => ih (hrest t ht)⟩

/-- The rest of a run meets what the run does. -/
theorem Meets.drop {ok : σ → ι → Prop} {is js : List ι} :
    ∀ {s t : σ}, Meets step ok s (is ++ js) → run step s is = some t → Meets step ok t js := by
  induction is with
  | nil =>
    rintro s _ h ⟨⟩
    exact h
  | cons i is ih =>
    rintro s t ⟨-, hrest⟩ ht
    obtain ⟨u, hu, ht⟩ := (run_cons_eq_some step).mp ht
    exact ih (hrest u hu) ht

/-- What a run meets holds of the input after any part of it. -/
theorem Meets.after {ok : σ → ι → Prop} {is js : List ι} {i : ι} {s t : σ}
    (h : Meets step ok s (is ++ i :: js)) (ht : run step s is = some t) : ok t i :=
  (h.drop ht).1

/-- What every step keeps holds after every run. -/
theorem run_invariant {Inv : σ → Prop} (hstep : ∀ s i t, Inv s → step s i = some t → Inv t)
    {is : List ι} {s u : σ} (hs : Inv s) (hu : run step s is = some u) : Inv u :=
  have hm : Meets step (fun _ _ => True) s is := meets_of_forall (fun _ _ _ => trivial) s
  run_invariant_of_meets (fun s i t _ => hstep s i t) hm hs hu

/-- **The exact rule.** Where the steps that keep an invariant are those that meet `ok`, it holds
after every prefix of a run exactly when every step meets `ok`. -/
theorem invariant_prefixes_iff_meets {ok : σ → ι → Prop} {Inv : σ → Prop} :
    ∀ {is : List ι} {s : σ},
      (∀ s, ∀ i ∈ is, Inv s → ((∀ t, step s i = some t → Inv t) ↔ ok s i)) → Inv s →
      ((∀ js u, js <+: is → run step s js = some u → Inv u) ↔ Meets step ok s is) := by
  intro is
  induction is with
  | nil =>
    intro s _ hs
    refine ⟨fun _ => trivial, ?_⟩
    rintro _ js u hjs hu
    rw [List.prefix_nil.mp hjs] at hu
    cases hu
    exact hs
  | cons i is ih =>
    intro s hstep hs
    have hstep' : ∀ s, ∀ j ∈ is, Inv s → ((∀ t, step s j = some t → Inv t) ↔ ok s j) :=
      fun s j hj => hstep s j (List.mem_cons_of_mem _ hj)
    constructor
    · intro hall
      have hone : ∀ t, step s i = some t → Inv t := by
        intro t ht
        refine hall [i] t (by simp) ?_
        rw [run_cons, ht]
        rfl
      refine ⟨(hstep s i (by simp) hs).mp hone, ?_⟩
      intro t ht
      refine (ih hstep' (hone t ht)).mp ?_
      intro js u hjs hu
      refine hall (i :: js) u (List.cons_prefix_cons.mpr ⟨rfl, hjs⟩) ?_
      exact (run_cons_eq_some step).mpr ⟨t, ht, hu⟩
    · rintro ⟨hok, hrest⟩ js u hjs hu
      have hone := (hstep s i (by simp) hs).mpr hok
      cases js with
      | nil =>
        cases hu
        exact hs
      | cons j js =>
        obtain ⟨rfl, htail⟩ := List.cons_prefix_cons.mp hjs
        obtain ⟨t, ht, hu⟩ := (run_cons_eq_some step).mp hu
        exact (ih hstep' (hone t ht)).mpr (hrest t ht) js u htail hu

/-- An invariant that the steps keep as long as `Law` holds. -/
theorem invariant_of_law_prefixes {Inv Law : σ → Prop}
    (hinv : ∀ s i t, Inv s → Law s → step s i = some t → Law t → Inv t) :
    ∀ {is : List ι} {s u : σ}, Inv s → (∀ js t, js <+: is → run step s js = some t → Law t) →
      run step s is = some u → Inv u := by
  intro is
  induction is with
  | nil =>
    rintro s _ hs _ ⟨⟩
    exact hs
  | cons i is ih =>
    intro s u hs hall hu
    obtain ⟨t, ht, hu⟩ := (run_cons_eq_some step).mp hu
    have hrest : ∀ js v, js <+: is → run step t js = some v → Law v := by
      intro js v hjs hv
      refine hall (i :: js) v (List.cons_prefix_cons.mpr ⟨rfl, hjs⟩) ?_
      exact (run_cons_eq_some step).mpr ⟨t, ht, hv⟩
    have hl : Law s := hall [] s List.nil_prefix rfl
    have hlt : Law t := hrest [] t List.nil_prefix rfl
    exact ih (hinv s i t hs hl ht hlt) hrest hu

/-- The exact rule beside an invariant that the steps keep as long as `Law` holds: `Law` holds after
every prefix exactly when every step meets what keeps it from the states of the invariant. -/
theorem law_prefixes_iff_meets_of_law {ok : σ → ι → Prop} {Inv Law : σ → Prop} {is : List ι} {s : σ}
    (hinv : ∀ s i t, Inv s → Law s → step s i = some t → Law t → Inv t)
    (hlaw : ∀ s, ∀ i ∈ is, Inv s → Law s → ((∀ t, step s i = some t → Law t) ↔ ok s i))
    (hs : Inv s) (hl : Law s) :
    (∀ js u, js <+: is → run step s js = some u → Law u) ↔ Meets step ok s is := by
  have hboth : ∀ s, ∀ i ∈ is, Inv s ∧ Law s →
      ((∀ t, step s i = some t → Inv t ∧ Law t) ↔ ok s i) := by
    rintro s i hi ⟨hs, hl⟩
    rw [← hlaw s i hi hs hl]
    exact forall₂_congr fun t ht => and_iff_right_of_imp (hinv s i t hs hl ht)
  rw [← invariant_prefixes_iff_meets hboth ⟨hs, hl⟩]
  refine ⟨fun hall js u hjs hu => ⟨?_, hall js u hjs hu⟩, fun hall js u hjs hu => (hall js u hjs hu).2⟩
  exact invariant_of_law_prefixes hinv hs (fun ks t hks => hall ks t (hks.trans hjs)) hu

/-- The exact rule beside an invariant of every run: `Law` holds after every prefix exactly when
every step meets what keeps it from the states of the invariant. -/
theorem law_prefixes_iff_meets {ok : σ → ι → Prop} {Inv Law : σ → Prop} {is : List ι} {s : σ}
    (hinv : ∀ s i t, Inv s → step s i = some t → Inv t)
    (hlaw : ∀ s, ∀ i ∈ is, Inv s → Law s → ((∀ t, step s i = some t → Law t) ↔ ok s i))
    (hs : Inv s) (hl : Law s) :
    (∀ js u, js <+: is → run step s js = some u → Law u) ↔ Meets step ok s is :=
  law_prefixes_iff_meets_of_law (fun s i t hs _ ht _ => hinv s i t hs ht) hlaw hs hl

/-- The exact rule along a run whose steps are all `fair`. -/
theorem law_prefixes_iff_meets_of_meets {ok fair : σ → ι → Prop} {Inv Law : σ → Prop}
    (hinv : ∀ s i t, fair s i → Inv s → step s i = some t → Inv t)
    (hlaw : ∀ s i, fair s i → Inv s → Law s → ((∀ t, step s i = some t → Law t) ↔ ok s i)) :
    ∀ {is : List ι} {s : σ}, Meets step fair s is → Inv s → Law s →
      ((∀ js u, js <+: is → run step s js = some u → Law u) ↔ Meets step ok s is) := by
  intro is
  induction is with
  | nil =>
    intro s _ _ hl
    refine ⟨fun _ => trivial, ?_⟩
    rintro _ js u hjs hu
    rw [List.prefix_nil.mp hjs] at hu
    cases hu
    exact hl
  | cons i is ih =>
    rintro s ⟨hfair, hrest⟩ hs hl
    have hone := hlaw s i hfair hs hl
    constructor
    · intro hall
      have hnext : ∀ t, step s i = some t → Law t := by
        intro t ht
        refine hall [i] t (by simp) ?_
        rw [run_cons, ht]
        rfl
      refine ⟨hone.mp hnext, fun t ht => ?_⟩
      refine (ih (hrest t ht) (hinv s i t hfair hs ht) (hnext t ht)).mp ?_
      intro js u hjs hu
      refine hall (i :: js) u (List.cons_prefix_cons.mpr ⟨rfl, hjs⟩) ?_
      exact (run_cons_eq_some step).mpr ⟨t, ht, hu⟩
    · rintro ⟨hok, hmeets⟩ js u hjs hu
      cases js with
      | nil =>
        cases hu
        exact hl
      | cons j js =>
        obtain ⟨rfl, htail⟩ := List.cons_prefix_cons.mp hjs
        obtain ⟨t, ht, hu⟩ := (run_cons_eq_some step).mp hu
        exact (ih (hrest t ht) (hinv s j t hfair hs ht) (hone.mpr hok t ht)).mpr (hmeets t ht)
          js u htail hu

/-- The exact rule where only the inputs that are `fair` are taken. -/
theorem law_prefixes_iff_meets_of_fair {ok : σ → ι → Prop} {Inv Law : σ → Prop} {fair : ι → Prop}
    {is : List ι} {s : σ} (hfair : ∀ i ∈ is, fair i)
    (hinv : ∀ s i t, fair i → Inv s → step s i = some t → Inv t)
    (hlaw : ∀ s i, fair i → Inv s → Law s → ((∀ t, step s i = some t → Law t) ↔ ok s i))
    (hs : Inv s) (hl : Law s) :
    (∀ js u, js <+: is → run step s js = some u → Law u) ↔ Meets step ok s is :=
  law_prefixes_iff_meets_of_meets hinv hlaw (meets_of_forall (fun _ i hi => hfair i hi) s) hs hl

end AudioReachPal.Lib
