import AudioReachPal.Types
import AudioReachPal.Lib.Runs
import Mathlib.Algebra.BigOperators.Group.Finset.Basic
import Mathlib.Data.Fintype.Basic
import Mathlib.Data.List.Nodup

/-!
# The first stage engines

The engines that streams share are kept in vectors by the type of their module, all PDK types under
one key. `engine_count_` is to be their number: a stream of a type other than GMM gets an engine of
its own as long as there are fewer than the platform supports. `str_eng_map_` remembers which engine
a stream was given, and a stream that leaves an engine takes the engine of its entry out.
-/

namespace AudioReachPal.Gsl

open AudioReachPal.Lib

open st_module_type_t

instance : Fintype st_module_type_t where
  elems := {ST_MODULE_TYPE_NONE, ST_MODULE_TYPE_GMM, ST_MODULE_TYPE_PDK5, ST_MODULE_TYPE_PDK6,
    ST_MODULE_TYPE_MFCN, ST_MODULE_TYPE_PDK, ST_MODULE_TYPE_HW, ST_MODULE_TYPE_CUSTOM_1,
    ST_MODULE_TYPE_CUSTOM_2, ST_MODULE_TYPE_MMA, ST_MODULE_TYPE_HIST_CAP}
  complete t := by cases t <;> decide

/-- A `shared_ptr` to a `SoundTriggerEngineGsl`. -/
abbrev EngineId := ℕ

/-- The key of `eng_` for a module type. -/
def engineKey (module_type : st_module_type_t) : st_module_type_t :=
  if IS_MODULE_TYPE_PDK module_type then ST_MODULE_TYPE_PDK else module_type

/-- The static members of the class, and two members of each engine. A key that is not in `eng_` is
one without engines: a vector that becomes empty is erased with its key. -/
structure Engines where
  eng_ : st_module_type_t → List EngineId := fun _ => []
  str_eng_map_ : StreamId → Option EngineId := fun _ => none
  engine_count_ : ℤ := 0
  /-- The engines that were ever made: the next one is new. -/
  made : ℕ := 0
  module_type_ : EngineId → st_module_type_t := fun _ => ST_MODULE_TYPE_NONE
  eng_streams_ : EngineId → List StreamId := fun _ => []

namespace Engines

/-- The constructor of an engine. -/
def makeEngine (e : Engines) (module_type : st_module_type_t) : Engines :=
  { e with
    made := e.made + 1
    module_type_ := Function.update e.module_type_ e.made module_type
    eng_streams_ := Function.update e.eng_streams_ e.made [] }

/-- `engine_count_ < sm_cfg->GetSupportedEngineCount()`, a comparison of unsigned words. -/
def belowSupported (e : Engines) (supported : UInt32) : Bool :=
  (e.engine_count_ % 2 ^ 32).toNat < supported.toNat

/-- The branch of `getInstance` that makes an engine. -/
def newInstance (e : Engines) (s : StreamId) (module_type : st_module_type_t) : Engines :=
  let key := engineKey module_type
  { e.makeEngine module_type with
    eng_ := Function.update e.eng_ key (e.eng_ key ++ [e.made])
    engine_count_ := e.engine_count_ + 1
    str_eng_map_ := Function.update e.str_eng_map_ s (some e.made) }

def getInstance (e : Engines) (s : StreamId) (module_type : st_module_type_t)
    (supported : UInt32) : EngineId × Engines :=
  let key := engineKey module_type
  match (e.eng_ key).getLast? with
  | none => (e.made, e.newInstance s module_type)
  | some st_eng =>
    if key ≠ ST_MODULE_TYPE_GMM ∧ e.belowSupported supported then
      (e.made, e.newInstance s module_type)
    else (st_eng, { e with str_eng_map_ := Function.update e.str_eng_map_ s (some st_eng) })

/-- The streams of the engine when `s` has left it. -/
def streamsWithout (e : Engines) (this : EngineId) (s : Option StreamId) : List StreamId :=
  s.elim (e.eng_streams_ this) (e.eng_streams_ this).erase

/-- What `detachStream` does under `eng_create_mutex_`. -/
def eraseEngine (e : Engines) (key : st_module_type_t) (gsl_engine : Option EngineId) : Engines :=
  match gsl_engine with
  | none => e
  | some g =>
    if g ∈ e.eng_ key then
      { e with
        eng_ := Function.update e.eng_ key ((e.eng_ key).erase g)
        engine_count_ :=
          if key = ST_MODULE_TYPE_PDK then e.engine_count_ - 1 else e.engine_count_ }
    else e

def detachStream (e : Engines) (this : EngineId) (s : Option StreamId) (erase_engine : Bool) :
    Engines :=
  let left := { e with
    eng_streams_ := Function.update e.eng_streams_ this (e.streamsWithout this s) }
  if erase_engine then
    let gsl_engine := s.bind e.str_eng_map_
    let left := { left with
      str_eng_map_ := s.elim e.str_eng_map_ fun s => Function.update e.str_eng_map_ s none }
    if e.streamsWithout this s = [] then left.eraseEngine (engineKey (e.module_type_ this)) gsl_engine
    else left
  else left

/-! ### Runs -/

/-- The calls on the engines: the two functions, the engines that `SoundTriggerEngine::Create` makes
for one stream alone, and a `loadSoundModel` that attaches its stream. -/
inductive Call where
  | create (module_type : st_module_type_t)
  | getInstance (s : StreamId) (module_type : st_module_type_t) (supported : UInt32)
  | loadSoundModel (this : EngineId) (s : StreamId)
  | detachStream (this : EngineId) (s : Option StreamId) (erase_engine : Bool)

/-- Member functions are called on engines that were made. -/
def step (e : Engines) : Call → Option Engines
  | .create module_type => some (e.makeEngine module_type)
  | .getInstance s module_type supported => some (e.getInstance s module_type supported).2
  | .loadSoundModel this s =>
    if this < e.made then
      some { e with
        eng_streams_ := Function.update e.eng_streams_ this (e.eng_streams_ this ++ [s]) }
    else none
  | .detachStream this s erase_engine =>
    if this < e.made then some (e.detachStream this s erase_engine) else none

/-- How many engines are in `eng_`. -/
def stored (e : Engines) : ℕ := ∑ key, (e.eng_ key).length

/-- No slot is lost: the count is the number of the engines, the engine of every entry is one of
them, and a stream of a type other than GMM gets a new one while there are fewer than supported. -/
structure SlotsKept (e : Engines) : Prop where
  counted : e.engine_count_ = e.stored
  mapped : ∀ s g, e.str_eng_map_ s = some g → ∃ key, g ∈ e.eng_ key
  served : ∀ s module_type supported, engineKey module_type ≠ ST_MODULE_TYPE_GMM →
    e.stored < supported.toNat →
    e.getInstance s module_type supported = (e.made, e.newInstance s module_type)

/-- A detach that finds the engine of its stream's entry, and no stream left on its own, is one of a
PDK engine, and no other entry has that engine. -/
def keepsSlots (e : Engines) : Call → Prop
  | .detachStream this s true => ∀ t g, s = some t → (e.eng_streams_ this).erase t = [] →
      e.str_eng_map_ t = some g → g ∈ e.eng_ (engineKey (e.module_type_ this)) →
      engineKey (e.module_type_ this) = ST_MODULE_TYPE_PDK ∧
        ∀ u, u ≠ t → e.str_eng_map_ u ≠ some g
  | _ => True

/-- The engines are in the vectors of their keys, each once. -/
structure Filed (e : Engines) : Prop where
  nodup : ∀ key, (e.eng_ key).Nodup
  keyed : ∀ key, ∀ g ∈ e.eng_ key, engineKey (e.module_type_ g) = key ∧ g < e.made

section

variable {e e' : Engines} {s : StreamId} {this g : EngineId} {key : st_module_type_t}
  {module_type : st_module_type_t} {supported : UInt32}

/-- The third part of the law is about the count alone. -/
theorem served_of_counted (h : e.engine_count_ = e.stored)
    (hkey : engineKey module_type ≠ ST_MODULE_TYPE_GMM) (hfew : e.stored < supported.toNat) :
    e.getInstance s module_type supported = (e.made, e.newInstance s module_type) := by
  have hbelow : e.belowSupported supported = true := by
    have hword : supported.toNat < 2 ^ 32 := supported.toNat_lt
    unfold belowSupported
    rw [h, decide_eq_true_eq]
    omega
  simp only [getInstance]
  cases (e.eng_ (engineKey module_type)).getLast? with
  | none => rfl
  | some st_eng => exact if_pos ⟨hkey, hbelow⟩

theorem slotsKept_iff : e.SlotsKept ↔ e.engine_count_ = e.stored ∧
    ∀ s g, e.str_eng_map_ s = some g → ∃ key, g ∈ e.eng_ key := by
  constructor
  · rintro ⟨hcount, hmap, -⟩
    exact ⟨hcount, hmap⟩
  · rintro ⟨hcount, hmap⟩
    exact ⟨hcount, hmap, fun _ _ _ => served_of_counted hcount⟩

/-- The law reads the count, the vectors and the entries. -/
theorem SlotsKept.congr (h : e.SlotsKept) (heng : e'.eng_ = e.eng_)
    (hmap : e'.str_eng_map_ = e.str_eng_map_) (hcount : e'.engine_count_ = e.engine_count_) :
    e'.SlotsKept := by
  obtain ⟨hc, hm, -⟩ := h
  refine slotsKept_iff.mpr ⟨?_, ?_⟩
  · rw [hcount, hc, stored, stored, heng]
  · rw [heng, hmap]
    exact hm

theorem Filed.congr (h : e.Filed) (heng : e'.eng_ = e.eng_)
    (htype : ∀ g < e.made, e'.module_type_ g = e.module_type_ g) (hmade : e.made ≤ e'.made) :
    e'.Filed := by
  refine ⟨fun key => heng ▸ h.nodup key, fun key g hg => ?_⟩
  rw [heng] at hg
  obtain ⟨hkey, hlt⟩ := h.keyed key g hg
  exact ⟨htype g hlt ▸ hkey, Nat.lt_of_lt_of_le hlt hmade⟩

theorem stored_update (e : Engines) (key : st_module_type_t) (l : List EngineId) :
    (∑ k, (Function.update e.eng_ key l k).length) + (e.eng_ key).length =
      e.stored + l.length := by
  unfold stored
  rw [← Finset.add_sum_erase Finset.univ _ (Finset.mem_univ key),
    ← Finset.add_sum_erase Finset.univ (fun k => (e.eng_ k).length) (Finset.mem_univ key)]
  have hrest : ∑ k ∈ Finset.univ.erase key, (Function.update e.eng_ key l k).length =
      ∑ k ∈ Finset.univ.erase key, (e.eng_ k).length := by
    refine Finset.sum_congr rfl fun k hk => ?_
    rw [Function.update_of_ne (Finset.ne_of_mem_erase hk)]
  rw [hrest, Function.update_self]
  omega

/-! ### A new engine -/

theorem makeEngine_filed (h : e.Filed) : (e.makeEngine module_type).Filed := by
  refine h.congr rfl ?_ (Nat.le_succ _)
  intro g hg
  exact Function.update_of_ne (Nat.ne_of_lt hg) _ _

theorem newInstance_filed (h : e.Filed) : (e.newInstance s module_type).Filed := by
  have hnew : ∀ k, e.made ∉ e.eng_ k := fun k hin => Nat.lt_irrefl _ (h.keyed k _ hin).2
  have hmem : ∀ k g, g ∈ (e.newInstance s module_type).eng_ k →
      g ∈ e.eng_ k ∨ (k = engineKey module_type ∧ g = e.made) := by
    intro k g hg
    by_cases hk : k = engineKey module_type
    · subst hk
      have hg : g ∈ Function.update e.eng_ _ (e.eng_ _ ++ [e.made]) _ := hg
      rw [Function.update_self, List.mem_append, List.mem_singleton] at hg
      exact hg.imp_right fun hg => ⟨rfl, hg⟩
    · have hg : g ∈ Function.update e.eng_ _ (e.eng_ _ ++ [e.made]) _ := hg
      rw [Function.update_of_ne hk] at hg
      exact Or.inl hg
  constructor
  · intro k
    change (Function.update e.eng_ _ (e.eng_ _ ++ [e.made]) k).Nodup
    by_cases hk : k = engineKey module_type
    · subst hk
      rw [Function.update_self]
      exact (h.nodup _).append (List.nodup_singleton _) (by simpa using hnew _)
    · rw [Function.update_of_ne hk]
      exact h.nodup k
  · intro k g hg
    change engineKey (Function.update e.module_type_ e.made module_type g) = k ∧ g < e.made + 1
    rcases hmem k g hg with hin | ⟨rfl, rfl⟩
    · obtain ⟨hkey, hlt⟩ := h.keyed k g hin
      rw [Function.update_of_ne (Nat.ne_of_lt hlt)]
      exact ⟨hkey, Nat.lt_succ_of_lt hlt⟩
    · rw [Function.update_self]
      exact ⟨rfl, Nat.lt_succ_self _⟩

theorem newInstance_slotsKept (h : e.SlotsKept) : (e.newInstance s module_type).SlotsKept := by
  have hsum := stored_update e (engineKey module_type) (e.eng_ (engineKey module_type) ++ [e.made])
  rw [List.length_append, List.length_singleton] at hsum
  refine slotsKept_iff.mpr ⟨?_, ?_⟩
  · change e.engine_count_ + 1 = ((∑ k, (Function.update e.eng_ _ _ k).length : ℕ) : ℤ)
    rw [h.counted]
    omega
  · intro t g
    change Function.update e.str_eng_map_ s (some e.made) t = some g →
      ∃ key, g ∈ Function.update e.eng_ _ (e.eng_ _ ++ [e.made]) key
    by_cases ht : t = s
    · subst ht
      rw [Function.update_self]
      rintro ⟨⟩
      exact ⟨engineKey module_type, by simp⟩
    · rw [Function.update_of_ne ht]
      intro hg
      obtain ⟨k, hin⟩ := h.mapped t g hg
      refine ⟨k, ?_⟩
      by_cases hk : k = engineKey module_type
      · subst hk
        simp [hin]
      · rwa [Function.update_of_ne hk]

/-- What `getInstance` leaves. -/
theorem getInstance_cases (e : Engines) (s : StreamId) (module_type : st_module_type_t)
    (supported : UInt32) : (e.getInstance s module_type supported).2 = e.newInstance s module_type ∨
    ∃ g, g ∈ e.eng_ (engineKey module_type) ∧ (e.getInstance s module_type supported).2 =
      { e with str_eng_map_ := Function.update e.str_eng_map_ s (some g) } := by
  simp only [getInstance]
  cases hlast : (e.eng_ (engineKey module_type)).getLast? with
  | none => exact Or.inl rfl
  | some st_eng =>
    by_cases hnew : engineKey module_type ≠ ST_MODULE_TYPE_GMM ∧ e.belowSupported supported
    · exact Or.inl (congrArg Prod.snd (if_pos hnew))
    · exact Or.inr ⟨st_eng, List.mem_of_getLast? hlast, congrArg Prod.snd (if_neg hnew)⟩

theorem getInstance_slotsKept (h : e.SlotsKept) :
    (e.getInstance s module_type supported).2.SlotsKept := by
  rcases getInstance_cases e s module_type supported with heq | ⟨g, hin, heq⟩
  · rw [heq]
    exact newInstance_slotsKept h
  · rw [heq]
    refine slotsKept_iff.mpr ⟨h.counted, fun t g' hg' => ?_⟩
    by_cases ht : t = s
    · subst ht
      obtain rfl : g = g' := by simpa using hg'
      exact ⟨_, hin⟩
    · exact h.mapped t g' (by simpa [ht] using hg')

/-! ### A stream that leaves -/

/-- What `detachStream` leaves: nothing goes, an entry goes, or an engine goes with its entry. -/
theorem detachStream_cases (this : EngineId) (s : Option StreamId) (erase_engine : Bool) :
    ∃ streams, (e.detachStream this s erase_engine = { e with eng_streams_ := streams }) ∨
      ∃ t, s = some t ∧ erase_engine = true ∧
        (e.detachStream this s erase_engine = { e with
          eng_streams_ := streams, str_eng_map_ := Function.update e.str_eng_map_ t none } ∧
          (∀ g, (e.eng_streams_ this).erase t = [] → e.str_eng_map_ t = some g →
            g ∉ e.eng_ (engineKey (e.module_type_ this))) ∨
        ∃ g, (e.eng_streams_ this).erase t = [] ∧ e.str_eng_map_ t = some g ∧
          g ∈ e.eng_ (engineKey (e.module_type_ this)) ∧
          e.detachStream this s erase_engine = { e with
            eng_streams_ := streams, str_eng_map_ := Function.update e.str_eng_map_ t none
            eng_ := Function.update e.eng_ (engineKey (e.module_type_ this))
              ((e.eng_ (engineKey (e.module_type_ this))).erase g)
            engine_count_ := if engineKey (e.module_type_ this) = ST_MODULE_TYPE_PDK then
              e.engine_count_ - 1 else e.engine_count_ }) := by
  refine ⟨Function.update e.eng_streams_ this (e.streamsWithout this s), ?_⟩
  cases erase_engine with
  | false => exact Or.inl rfl
  | true =>
    cases s with
    | none =>
      left
      by_cases hnil : e.streamsWithout this none = [] <;> simp [detachStream, hnil, eraseEngine]
    | some t =>
      refine Or.inr ⟨t, rfl, rfl, ?_⟩
      by_cases hnil : (e.eng_streams_ this).erase t = []
      · cases hg : e.str_eng_map_ t with
        | none =>
          left
          simp [detachStream, streamsWithout, hnil, hg, eraseEngine]
        | some g =>
          by_cases hin : g ∈ e.eng_ (engineKey (e.module_type_ this))
          · right
            refine ⟨g, hnil, rfl, hin, ?_⟩
            simp [detachStream, streamsWithout, hnil, hg, eraseEngine, hin]
          · left
            simp [detachStream, streamsWithout, hnil, hg, eraseEngine, hin]
      · left
        simp [detachStream, streamsWithout, hnil]

theorem detachStream_filed (h : e.Filed) (this : EngineId) (s : Option StreamId)
    (erase_engine : Bool) : (e.detachStream this s erase_engine).Filed := by
  obtain ⟨streams, heq | ⟨t, rfl, rfl, ⟨heq, -⟩ | ⟨g, -, -, -, heq⟩⟩⟩ :=
    detachStream_cases (e := e) this s erase_engine
  · rw [heq]
    exact ⟨h.nodup, h.keyed⟩
  · rw [heq]
    exact ⟨h.nodup, h.keyed⟩
  · rw [heq]
    have hsub : ∀ k, (Function.update e.eng_ (engineKey (e.module_type_ this))
        ((e.eng_ (engineKey (e.module_type_ this))).erase g) k).Sublist (e.eng_ k) := by
      intro k
      by_cases hk : k = engineKey (e.module_type_ this)
      · subst hk
        rw [Function.update_self]
        exact List.erase_sublist
      · rw [Function.update_of_ne hk]
    exact ⟨fun k => (h.nodup k).sublist (hsub k), fun k g hg => h.keyed k g ((hsub k).subset hg)⟩

/-- Without an entry of another stream the engine may go. -/
theorem mapped_erased_iff (h : e.SlotsKept) (hf : e.Filed) {t : StreamId}
    (hin : g ∈ e.eng_ key) :
    (∀ u g', Function.update e.str_eng_map_ t none u = some g' →
      ∃ k, g' ∈ Function.update e.eng_ key ((e.eng_ key).erase g) k) ↔
      ∀ u, u ≠ t → e.str_eng_map_ u ≠ some g := by
  have hgone : ∀ k, g ∉ Function.update e.eng_ key ((e.eng_ key).erase g) k := by
    intro k hk
    by_cases hkey : k = key
    · subst hkey
      rw [Function.update_self] at hk
      exact (hf.nodup k).not_mem_erase hk
    · rw [Function.update_of_ne hkey] at hk
      exact hkey ((hf.keyed k g hk).1.symm.trans (hf.keyed key g hin).1)
  constructor
  · intro hmap u hu hg
    obtain ⟨k, hk⟩ := hmap u g (by rwa [Function.update_of_ne hu])
    exact hgone k hk
  · intro hother u g' hg'
    have hu : u ≠ t := by
      rintro rfl
      simp at hg'
    rw [Function.update_of_ne hu] at hg'
    have hne : g' ≠ g := fun heq => hother u hu (heq ▸ hg')
    obtain ⟨k, hk⟩ := h.mapped u g' hg'
    refine ⟨k, ?_⟩
    by_cases hkey : k = key
    · subst hkey
      rw [Function.update_self]
      exact (List.mem_erase_of_ne hne).mpr hk
    · rwa [Function.update_of_ne hkey]

theorem counted_erased_iff (h : e.SlotsKept) (hin : g ∈ e.eng_ key) :
    (if key = ST_MODULE_TYPE_PDK then e.engine_count_ - 1 else e.engine_count_) =
      ((∑ k, (Function.update e.eng_ key ((e.eng_ key).erase g) k).length : ℕ) : ℤ) ↔
      key = ST_MODULE_TYPE_PDK := by
  have hsum := stored_update e key ((e.eng_ key).erase g)
  rw [List.length_erase_of_mem hin] at hsum
  have hpos : 0 < (e.eng_ key).length := List.length_pos_of_mem hin
  rw [h.counted]
  split_ifs with hpdk
  · exact iff_of_true (by omega) hpdk
  · exact iff_of_false (by omega) hpdk

theorem detachStream_slotsKept_iff (h : e.SlotsKept) (hf : e.Filed) (this : EngineId)
    (s : Option StreamId) (erase_engine : Bool) :
    (e.detachStream this s erase_engine).SlotsKept ↔
      e.keepsSlots (.detachStream this s erase_engine) := by
  obtain ⟨streams, heq | ⟨t, rfl, rfl, ⟨heq, hstay⟩ | ⟨g, hnil, hg, hin, heq⟩⟩⟩ :=
    detachStream_cases (e := e) this s erase_engine
  · have hkept : (e.detachStream this s erase_engine).SlotsKept := by
      rw [heq]
      exact h.congr rfl rfl rfl
    refine iff_of_true hkept ?_
    -- where nothing goes from the entries, the stream's entry has no engine
    cases erase_engine with
    | false => trivial
    | true =>
      rintro t g rfl - hg -
      have hgone : (e.detachStream this (some t) true).str_eng_map_ t = none := by
        simp only [detachStream, if_true]
        split_ifs
        · unfold eraseEngine
          split
          · simp
          · split_ifs <;> simp
        · simp
      rw [heq] at hgone
      exact absurd (hg.symm.trans hgone) (by simp)
  · refine iff_of_true ?_ ?_
    · rw [heq]
      refine slotsKept_iff.mpr ⟨h.counted, fun u g hg => ?_⟩
      by_cases hu : u = t
      · subst hu
        simp at hg
      · exact h.mapped u g (by simpa [hu] using hg)
    · rintro _ g ⟨⟩ hnil hg hin
      exact absurd hin (hstay g hnil hg)
  · rw [heq, slotsKept_iff]
    change (_ = ((∑ k, (Function.update e.eng_ _ _ k).length : ℕ) : ℤ) ∧
      ∀ u g', Function.update e.str_eng_map_ t none u = some g' → _) ↔ _
    rw [counted_erased_iff h hin]
    change (_ ∧ ∀ u g', Function.update e.str_eng_map_ t none u = some g' →
      ∃ k, g' ∈ Function.update e.eng_ _ _ k) ↔ _
    rw [mapped_erased_iff h hf hin]
    constructor
    · rintro hkeep _ g' ⟨⟩ - hg' -
      obtain rfl : g = g' := Option.some.inj (hg.symm.trans hg')
      exact hkeep
    · exact fun hkeep => hkeep t g rfl hnil hg hin

/-! ### All calls -/

theorem step_filed {c : Call} (h : e.Filed) (hstep : e.step c = some e') : e'.Filed := by
  cases c with
  | create module_type =>
    cases hstep
    exact makeEngine_filed h
  | getInstance s module_type supported =>
    cases hstep
    rcases getInstance_cases e s module_type supported with heq | ⟨g, hin, heq⟩
    · rw [heq]
      exact newInstance_filed h
    · rw [heq]
      exact ⟨h.nodup, h.keyed⟩
  | loadSoundModel this s =>
    simp only [step] at hstep
    split_ifs at hstep
    cases hstep
    exact ⟨h.nodup, h.keyed⟩
  | detachStream this s erase_engine =>
    simp only [step] at hstep
    split_ifs at hstep
    cases hstep
    exact detachStream_filed h this s erase_engine

/-- The calls that can be made: a member function needs its engine. -/
def Callable (made : ℕ) : Call → Prop
  | .loadSoundModel this _ | .detachStream this _ _ => this < made
  | _ => True

theorem step_slotsKept_iff {c : Call} (hf : e.Filed) (h : e.SlotsKept) :
    (∀ e', e.step c = some e' → e'.SlotsKept) ↔ (Callable e.made c → e.keepsSlots c) := by
  cases c with
  | create module_type =>
    refine iff_of_true ?_ fun _ => trivial
    rintro _ ⟨⟩
    exact h.congr rfl rfl rfl
  | getInstance s module_type supported =>
    refine iff_of_true ?_ fun _ => trivial
    rintro _ ⟨⟩
    exact getInstance_slotsKept h
  | loadSoundModel this s =>
    refine iff_of_true ?_ fun _ => trivial
    intro e' hstep
    simp only [step] at hstep
    split_ifs at hstep
    cases hstep
    exact h.congr rfl rfl rfl
  | detachStream this s erase_engine =>
    have hiff := detachStream_slotsKept_iff h hf this s erase_engine
    by_cases hthis : this < e.made
    · simp [step, Callable, hthis, hiff]
    · simp [step, Callable, hthis]

theorem init_slotsKept : ({} : Engines).SlotsKept := by
  refine slotsKept_iff.mpr ⟨?_, fun _ _ h => absurd h (by simp)⟩
  simp [stored]

theorem init_filed : ({} : Engines).Filed :=
  ⟨fun _ => List.nodup_nil, fun _ _ h => absurd h List.not_mem_nil⟩

/-- **The slots of the engines.** All along a run no slot is lost exactly when every detach meets
`keepsSlots`. -/
theorem slotsKept_along_iff (calls : List Call) :
    (∀ js u, js <+: calls → run step {} js = some u → u.SlotsKept) ↔
      Meets step (fun e c => Callable e.made c → e.keepsSlots c) {} calls :=
  law_prefixes_iff_meets (fun _ _ _ h hstep => step_filed h hstep)
    (fun _ _ _ hf h => step_slotsKept_iff hf h) init_filed init_slotsKept

/-- A merged GMM engine goes with its stream, its slot stays: of the two engines that are supported
only one can be made then, and the second stream has to share it. -/
theorem not_slotsKept_gmm : ∃ u, run step {}
    [.getInstance 0 ST_MODULE_TYPE_GMM 2, .loadSoundModel 0 0, .detachStream 0 (some 0) true,
      .getInstance 1 ST_MODULE_TYPE_PDK5 2] = some u ∧ ¬u.SlotsKept ∧ u.stored = 1 ∧
      (u.getInstance 2 ST_MODULE_TYPE_PDK5 2).1 = 1 := by
  refine ⟨_, rfl, fun h => ?_, by decide, by decide⟩
  exact absurd h.counted (by decide)

end

end Engines

end AudioReachPal.Gsl
