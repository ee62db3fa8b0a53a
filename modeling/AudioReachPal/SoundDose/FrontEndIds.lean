import AudioReachPal.Rm.FrontEnd

/-!
# The front end ids of the sound dose sessions

A `SoundDoseUtility` takes a hostless playback id when a computation starts, and gives it back when
the start fails or the computation is stopped. It keeps its ids in a vector that a start appends to,
that is read at the front and given back as a whole, and that is never cleared. Other clients take
and give back ids of the same pool at any time, also while a call of an object is between its steps.
-/

namespace AudioReachPal.SoundDose

open AudioReachPal.Lib
open AudioReachPal.Rm

def PCM_PLAYBACK_HOSTLESS : String := "PcmPlaybackHostless"

/-- Where the call of an object is: in none, before the `freeFrontEndIds` of a start that failed, or
after the one of a stop. -/
inductive Place where
  | idle
  | freeFe
  | closing
  deriving DecidableEq, Repr

/-- The ids, and the device that the pcm was opened on. -/
structure SoundDoseUtility where
  mPcmDevIdRx : List ℤ := []
  mRxPcm : Option ℤ
  place : Place := .idle
  deriving DecidableEq, Repr

/-- What the calls that a start makes answer, in their order. -/
structure StartAnswers where
  getAudioRoute : ℤ := 0
  getDeviceKV : ℤ := 0
  deviceMetaDataSize : ℕ := 1
  beMetaDataMixerCtrl : Bool := true
  setMediaConfig : ℤ := 0
  connectCtrl : Bool := true
  mixer_ctl_set_enum_by_string : ℤ := 0
  pcm_open : Bool := true
  pcm_is_ready : Bool := true
  registerMixerEvent : ℤ := 0
  registerMixerEventCallback : ℤ := 0
  pcm_start : ℤ := 0
  deriving DecidableEq, Repr

/-- The start comes to `allocateFrontEndIds`. -/
def StartAnswers.prepares (backendName : String) (a : StartAnswers) : Bool :=
  decide (a.getAudioRoute = 0) && decide (backendName ≠ "") && decide (a.getDeviceKV = 0) &&
    decide (a.deviceMetaDataSize ≠ 0) && a.beMetaDataMixerCtrl && decide (a.setMediaConfig = 0)

/-- A start from its id on. The device that is connected and opened is the front of the vector. -/
def SoundDoseUtility.openPcm (d : SoundDoseUtility) (a : StartAnswers) : SoundDoseUtility :=
  if !a.connectCtrl then { d with place := .freeFe }
  else if a.mixer_ctl_set_enum_by_string ≠ 0 then { d with place := .freeFe }
  else if !a.pcm_open then { d with mRxPcm := none, place := .freeFe }
  else if !a.pcm_is_ready || decide (a.registerMixerEvent ≠ 0) ||
      decide (a.registerMixerEventCallback ≠ 0) || decide (a.pcm_start < 0) then
    { d with mRxPcm := none, place := .freeFe }
  else { d with mRxPcm := d.mPcmDevIdRx.head? }

/-! ### Runs -/

/-- The pools, the objects, and who holds which id of the pool: an object, or some other client. -/
structure System (ι : Type*) where
  frontEndIdMap : FrontEndIdMap
  objects : ι → SoundDoseUtility
  held : List (Option ι × ℤ) := []

inductive Call (ι : Type*) where
  | startComputationInternal (i : ι) (a : StartAnswers)
  | stopComputationInternal (i : ι)
  /-- The rest of a call that stands at its place. -/
  | finish (i : ι)
  | allocateFrontEndIds
  | freeFrontEndIds (frontend : List ℤ)

namespace System

variable {ι : Type*} [DecidableEq ι]

def pool (sys : System ι) : List ℤ := sys.frontEndIdMap.pool PCM_PLAYBACK_HOSTLESS

/-- Who allocates an id holds it. -/
def take (sys : System ι) (holder : Option ι) : System ι :=
  { sys with
    frontEndIdMap := (sys.frontEndIdMap.allocateFrontEndIds PCM_PLAYBACK_HOSTLESS).2
    held := (sys.pool.getLast?.map fun id => (holder, id)).toList ++ sys.held }

/-- Who frees ids no longer holds them. -/
def giveBack (sys : System ι) (holder : Option ι) (frontend : List ℤ) : System ι :=
  { sys with
    frontEndIdMap := sys.frontEndIdMap.freeFrontEndIds PCM_PLAYBACK_HOSTLESS frontend
    held := sys.held.filter fun h => !(h.1 = holder && h.2 ∈ frontend) }

def setObject (sys : System ι) (i : ι) (d : SoundDoseUtility) : System ι :=
  { sys with objects := Function.update sys.objects i d }

def start (backendName : String) (sys : System ι) (i : ι) (a : StartAnswers) : System ι :=
  let d := sys.objects i
  if a.prepares backendName then
    let id := (sys.frontEndIdMap.allocateFrontEndIds PCM_PLAYBACK_HOSTLESS).1
    if id < 0 then sys.take (some i)
    else (sys.take (some i)).setObject i
      ({ d with mPcmDevIdRx := d.mPcmDevIdRx ++ [id] }.openPcm a)
  else sys

/-- `getSoundDoseMelValues` throws when the vector is empty. -/
def stop (backendName : String) (sys : System ι) (i : ι) : Option (System ι) :=
  let d := sys.objects i
  if backendName = "" then some sys
  else if d.mRxPcm = none then some sys
  else if d.mPcmDevIdRx = [] then none
  else some ((sys.giveBack (some i) d.mPcmDevIdRx).setObject i { d with place := .closing })

def finish (sys : System ι) (i : ι) : Option (System ι) :=
  let d := sys.objects i
  match d.place with
  | .idle => none
  | .freeFe =>
    some ((sys.giveBack (some i) d.mPcmDevIdRx).setObject i { d with place := .idle })
  | .closing => some (sys.setObject i { d with mRxPcm := none, place := .idle })

/-- An object makes one call at a time, and other clients free what they hold. -/
def step (backendName : String) (sys : System ι) : Call ι → Option (System ι)
  | .startComputationInternal i a =>
    if (sys.objects i).place = .idle then some (sys.start backendName i a) else none
  | .stopComputationInternal i =>
    if (sys.objects i).place = .idle then sys.stop backendName i else none
  | .finish i => sys.finish i
  | .allocateFrontEndIds => some (sys.take none)
  | .freeFrontEndIds frontend =>
    if ∀ id ∈ frontend, (none, id) ∈ sys.held then some (sys.giveBack none frontend) else none

/-- An object outside its calls has a pcm while it holds an id. -/
def PcmWhileHeld (sys : System ι) : Prop :=
  ∀ i, (sys.objects i).place = .idle →
    ((sys.objects i).mRxPcm ≠ none ↔ ∃ id, (some i, id) ∈ sys.held)

/-- The object frees what it holds, all of it and nothing else. -/
def FreesItsOwn (sys sys' : System ι) (i : ι) : Prop :=
  (∀ id ∈ (sys.objects i).mPcmDevIdRx, (some i, id) ∈ sys.held) ∧ ∀ id, (some i, id) ∉ sys'.held

/-- What a call does with the ids: a start opens the one it is given, which nobody else holds, and a
start that fails and a stop free it. -/
def UsesItsIds (backendName : String) (sys : System ι) (call : Call ι) : Prop :=
  ∀ sys', sys.step backendName call = some sys' → sys'.PcmWhileHeld ∧
    match call with
    | .startComputationInternal i a => a.prepares backendName → ∀ id, sys.pool.getLast? = some id →
        (sys'.objects i).mPcmDevIdRx.head? = some id ∧ ∀ h, (h, id) ∈ sys'.held → h = some i
    | .stopComputationInternal i => ((sys'.objects i).place = .closing → sys.FreesItsOwn sys' i) ∧
        ∀ id, (some i, id) ∉ sys'.held
    | .finish i => (sys.objects i).place = .freeFe → sys.FreesItsOwn sys' i
    | _ => True

/-- The ids of the object's earlier starts are the one that it is given now. -/
def givenTheSame (backendName : String) (sys : System ι) : Call ι → Prop
  | .startComputationInternal i a => (sys.objects i).place = .idle → a.prepares backendName →
      ∀ id, sys.pool.getLast? = some id → 0 ≤ id ∧ ∀ x ∈ (sys.objects i).mPcmDevIdRx, x = id
  | _ => True

/-- No id is in the pool and held, or held twice. -/
structure IdsKept (sys : System ι) : Prop where
  pool : sys.pool.Nodup
  distinct : (sys.held.map Prod.snd).Nodup
  disjoint : ∀ h id, (h, id) ∈ sys.held → id ∉ sys.pool
  found : sys.held ≠ [] → sys.frontEndIdMap PCM_PLAYBACK_HOSTLESS ≠ none

/-- What the calls keep: the ids of the vector are one, and it is the one that is held, if any. -/
structure Kept (backendName : String) (sys : System ι) : Prop where
  ids : sys.IdsKept
  same : ∀ i, ∀ x ∈ (sys.objects i).mPcmDevIdRx, ∀ y ∈ (sys.objects i).mPcmDevIdRx, x = y
  owned : ∀ i id, (some i, id) ∈ sys.held → id ∈ (sys.objects i).mPcmDevIdRx
  named : backendName = "" → ∀ i id, (some i, id) ∉ sys.held
  idle : sys.PcmWhileHeld
  failed : ∀ i, (sys.objects i).place = .freeFe →
    (sys.objects i).mRxPcm = none ∧ ∃ id, (some i, id) ∈ sys.held
  closing : ∀ i, (sys.objects i).place = .closing → ∀ id, (some i, id) ∉ sys.held

variable {backendName : String} {sys sys' : System ι} {i : ι} {d : SoundDoseUtility}
  {a : StartAnswers} {id : ℤ} {frontend : List ℤ} {holder : Option ι}

omit [DecidableEq ι] in
@[simp] theorem objects_take : (sys.take holder).objects = sys.objects := rfl

@[simp] theorem objects_giveBack : (sys.giveBack holder frontend).objects = sys.objects := rfl

@[simp] theorem held_setObject : (sys.setObject i d).held = sys.held := rfl

@[simp] theorem objects_setObject_self : (sys.setObject i d).objects i = d :=
  Function.update_self ..

theorem objects_setObject_of_ne {j : ι} (h : j ≠ i) :
    (sys.setObject i d).objects j = sys.objects j := Function.update_of_ne h ..

theorem mem_giveBack {h : Option ι} : (h, id) ∈ (sys.giveBack holder frontend).held ↔
    (h, id) ∈ sys.held ∧ ¬(h = holder ∧ id ∈ frontend) := by
  unfold giveBack
  rw [List.mem_filter]
  refine and_congr_right fun _ => ?_
  rw [Bool.not_eq_true', Bool.and_eq_false_iff, decide_eq_false_iff_not, decide_eq_false_iff_not,
    not_and_or]

theorem openPcm_mPcmDevIdRx : (d.openPcm a).mPcmDevIdRx = d.mPcmDevIdRx := by
  unfold SoundDoseUtility.openPcm
  split_ifs <;> rfl

/-- A start that has its id opens the front of the vector, or is to free. -/
theorem openPcm_cases (a : StartAnswers) (h : d.mRxPcm = none) :
    (d.openPcm a = { d with mRxPcm := d.mPcmDevIdRx.head? }) ∨
      (d.openPcm a = { d with place := .freeFe }) := by
  unfold SoundDoseUtility.openPcm
  cases d
  subst h
  split_ifs <;> simp

/-! ### Ids that are taken and given back -/

omit [DecidableEq ι] in
theorem take_of_nil (h : sys.pool = []) : sys.take holder = sys := by
  unfold take
  rw [h, allocateFrontEndIds_of_nil h]
  rfl

omit [DecidableEq ι] in
/-- The pool that an id was taken from. -/
theorem pool_take (holder : Option ι) {ids : List ℤ} (h : sys.pool = ids ++ [id]) :
    (sys.take holder).pool = ids ∧ (sys.take holder).held = (holder, id) :: sys.held ∧
      (sys.frontEndIdMap.allocateFrontEndIds PCM_PLAYBACK_HOSTLESS).1 = id := by
  have halloc := allocateFrontEndIds_of_append h
  refine ⟨?_, ?_, by rw [halloc]⟩
  · unfold System.pool take
    rw [halloc, pool_update, if_pos rfl]
  · unfold take
    rw [h]
    simp

omit [DecidableEq ι] in
theorem IdsKept.take (h : sys.IdsKept) (holder : Option ι) : (sys.take holder).IdsKept := by
  rcases List.eq_nil_or_concat' sys.pool with hnil | ⟨ids, id, hids⟩
  · rw [take_of_nil hnil]
    exact h
  obtain ⟨hpool, hheld, -⟩ := pool_take holder hids
  have hnodup := h.pool
  rw [hids, List.nodup_append] at hnodup
  obtain ⟨hrest, -, hlast⟩ := hnodup
  refine ⟨hpool ▸ hrest, ?_, ?_, fun _ => ?_⟩
  · rw [hheld, List.map_cons, List.nodup_cons]
    refine ⟨fun hin => ?_, h.distinct⟩
    obtain ⟨⟨g, _⟩, hg, rfl⟩ := List.mem_map.mp hin
    exact h.disjoint g _ hg (by rw [hids]; simp)
  · intro g x hx hin
    rw [hheld] at hx
    rw [hpool] at hin
    rcases List.mem_cons.mp hx with heq | hx
    · obtain rfl : x = id := congrArg Prod.snd heq
      exact hlast x hin x (by simp) rfl
    · exact h.disjoint g x hx (by rw [hids]; simp [hin])
  · change (sys.frontEndIdMap.allocateFrontEndIds PCM_PLAYBACK_HOSTLESS).2 _ ≠ none
    rw [allocateFrontEndIds_of_append hids]
    simp

theorem IdsKept.giveBack (h : sys.IdsKept) (hheld : ∀ x ∈ frontend, (holder, x) ∈ sys.held) :
    (sys.giveBack holder frontend).IdsKept := by
  have hkey : frontend ≠ [] → sys.frontEndIdMap PCM_PLAYBACK_HOSTLESS ≠ none := by
    intro hne
    obtain ⟨x, hx⟩ := List.exists_mem_of_ne_nil frontend hne
    exact h.found (List.ne_nil_of_mem (hheld x hx))
  have hmem := mem_pool_freeFrontEndIds hkey PCM_PLAYBACK_HOSTLESS
  have hsub := sys.held.filter_sublist (p := fun h => !(h.1 = holder && h.2 ∈ frontend))
  have hunique : ∀ g x, (g, x) ∈ sys.held → x ∈ frontend → g = holder := by
    intro g x hg hx
    exact congrArg Prod.fst (List.inj_on_of_nodup_map h.distinct hg (hheld x hx) rfl)
  refine ⟨?_, h.distinct.sublist (hsub.map _), fun g x hg hin => ?_, fun hne => ?_⟩
  · unfold System.pool System.giveBack FrontEndIdMap.freeFrontEndIds
    have hpool := h.pool
    unfold System.pool at hpool
    split_ifs
    · exact hpool
    cases hm : sys.frontEndIdMap PCM_PLAYBACK_HOSTLESS with
    | none => exact hpool
    | some ids =>
      simp only [pool_update, if_true]
      exact nodup_sortUnique _ _
  · obtain ⟨hg, hnot⟩ := mem_giveBack.mp hg
    rcases (hmem x).mp hin with hpool | ⟨-, hx⟩
    · exact h.disjoint g x hg hpool
    · exact hnot ⟨hunique g x hg hx, hx⟩
  · refine freeFrontEndIds_ne_none (h.found fun hnil => hne ?_)
    change sys.held.filter _ = []
    rw [hnil]
    rfl

/-! ### What each call keeps -/

theorem IdsKept.setObject (h : sys.IdsKept) : (sys.setObject i d).IdsKept :=
  ⟨h.pool, h.distinct, h.disjoint, h.found⟩

omit [DecidableEq ι] in
/-- The object's vector names what it holds. -/
theorem Kept.names (h : Kept backendName sys) (hheld : ∃ id, (some i, id) ∈ sys.held) :
    ∀ x ∈ (sys.objects i).mPcmDevIdRx, (some i, x) ∈ sys.held := by
  obtain ⟨id, hid⟩ := hheld
  intro x hx
  rw [h.same i x hx id (h.owned i id hid)]
  exact hid

/-- An object that frees its vector, in a place outside the starts that failed. -/
theorem Kept.free (h : Kept backendName sys) (hheld : ∃ id, (some i, id) ∈ sys.held)
    {place : Place} (hplace : place = .closing ∨ (place = .idle ∧ (sys.objects i).mRxPcm = none)) :
    Kept backendName ((sys.giveBack (some i) (sys.objects i).mPcmDevIdRx).setObject i
      { sys.objects i with place := place }) ∧
    sys.FreesItsOwn ((sys.giveBack (some i) (sys.objects i).mPcmDevIdRx).setObject i
      { sys.objects i with place := place }) i := by
  have hnames := h.names hheld
  have hgone : ∀ x, (some i, x) ∉ (sys.giveBack (some i) (sys.objects i).mPcmDevIdRx).held := by
    intro x hx
    obtain ⟨hin, hnot⟩ := mem_giveBack.mp hx
    exact hnot ⟨rfl, h.owned i x hin⟩
  have hother : ∀ j x, j ≠ i → ((some j, x) ∈
      (sys.giveBack (some i) (sys.objects i).mPcmDevIdRx).held ↔ (some j, x) ∈ sys.held) := by
    intro j x hj
    rw [mem_giveBack]
    exact and_iff_left fun heq => hj (Option.some.inj heq.1)
  refine ⟨⟨(h.ids.giveBack hnames).setObject, fun j => ?_, fun j x hx => ?_, fun hb j x hx => ?_,
    fun j hj => ?_, fun j hj => ?_, fun j hj x hx => ?_⟩, hnames, hgone⟩
  all_goals by_cases hji : j = i
  all_goals first | subst hji | skip
  · simpa using h.same j
  · simpa [objects_setObject_of_ne hji] using h.same j
  · exact absurd hx (hgone x)
  · rw [objects_setObject_of_ne hji]
    exact h.owned j x ((hother j x hji).mp hx)
  · exact hgone x hx
  · exact h.named hb j x ((hother j x hji).mp hx)
  · rw [objects_setObject_self] at hj ⊢
    rcases hplace with rfl | ⟨rfl, hnone⟩
    · cases hj
    · refine iff_of_false (not_not.mpr hnone) ?_
      rintro ⟨x, hx⟩
      exact hgone x hx
  · rw [objects_setObject_of_ne hji] at hj ⊢
    refine (h.idle j hj).trans (exists_congr fun x => (hother j x hji).symm)
  · rw [objects_setObject_self] at hj
    rcases hplace with rfl | ⟨rfl, -⟩ <;> cases hj
  · rw [objects_setObject_of_ne hji] at hj ⊢
    obtain ⟨hnone, x, hx⟩ := h.failed j hj
    exact ⟨hnone, x, (hother j x hji).mpr hx⟩
  · exact hgone x hx
  · rw [objects_setObject_of_ne hji] at hj
    exact h.closing j hj x ((hother j x hji).mp hx)

theorem stop_kept (h : Kept backendName sys) (hplace : (sys.objects i).place = .idle)
    (hstop : sys.stop backendName i = some sys') : Kept backendName sys' ∧
      ((sys'.objects i).place = .closing → sys.FreesItsOwn sys' i) ∧
      ∀ id, (some i, id) ∉ sys'.held := by
  simp only [stop] at hstop
  split_ifs at hstop with hname hnone hnil
  · cases hstop
    refine ⟨h, fun hclosing => ?_, h.named hname i⟩
    rw [hplace] at hclosing
    cases hclosing
  · cases hstop
    refine ⟨h, fun hclosing => ?_, fun id hid => ?_⟩
    · rw [hplace] at hclosing
      cases hclosing
    · exact (h.idle i hplace).mpr ⟨id, hid⟩ hnone
  · cases hstop
    obtain ⟨hkept, hown⟩ := h.free ((h.idle i hplace).mp hnone) (Or.inl rfl)
    exact ⟨hkept, fun _ => hown, hown.2⟩

theorem finish_kept (h : Kept backendName sys) (hfinish : sys.finish i = some sys') :
    Kept backendName sys' ∧ ((sys.objects i).place = .freeFe → sys.FreesItsOwn sys' i) := by
  cases hplace : (sys.objects i).place with
  | idle => simp [finish, hplace] at hfinish
  | freeFe =>
    simp only [finish, hplace] at hfinish
    cases hfinish
    obtain ⟨hnone, hheld⟩ := h.failed i hplace
    obtain ⟨hkept, hown⟩ := h.free hheld (Or.inr ⟨rfl, hnone⟩)
    exact ⟨hkept, fun _ => hown⟩
  | closing =>
    simp only [finish, hplace] at hfinish
    cases hfinish
    refine ⟨⟨h.ids.setObject, fun j => ?_, fun j => ?_, h.named, fun j hj => ?_, fun j hj => ?_,
      fun j hj => ?_⟩, fun hfree => by cases hfree⟩
    all_goals by_cases hji : j = i
    all_goals first | subst hji | skip
    · simpa using h.same j
    · simpa [objects_setObject_of_ne hji] using h.same j
    · simpa using h.owned j
    · simpa [objects_setObject_of_ne hji] using h.owned j
    · rw [objects_setObject_self]
      refine iff_of_false (not_not.mpr rfl) ?_
      rintro ⟨x, hx⟩
      exact h.closing j hplace x hx
    · rw [objects_setObject_of_ne hji] at hj ⊢
      exact h.idle j hj
    · rw [objects_setObject_self] at hj
      cases hj
    · rw [objects_setObject_of_ne hji] at hj ⊢
      exact h.failed j hj
    · rw [objects_setObject_self] at hj
      cases hj
    · rw [objects_setObject_of_ne hji] at hj
      exact h.closing j hj

omit [DecidableEq ι] in
/-- Other clients' calls leave the objects and what they hold. -/
theorem Kept.others (h : Kept backendName sys) (hids : sys'.IdsKept)
    (hobjects : sys'.objects = sys.objects)
    (hheld : ∀ i id, (some i, id) ∈ sys'.held ↔ (some i, id) ∈ sys.held) :
    Kept backendName sys' := by
  refine ⟨hids, ?_, ?_, ?_, ?_, ?_, ?_⟩
  · rw [hobjects]
    exact h.same
  · intro i id hid
    rw [hobjects]
    exact h.owned i id ((hheld i id).mp hid)
  · exact fun hb i id hid => h.named hb i id ((hheld i id).mp hid)
  · intro i hi
    rw [hobjects] at hi ⊢
    exact (h.idle i hi).trans (exists_congr fun id => (hheld i id).symm)
  · intro i hi
    rw [hobjects] at hi ⊢
    obtain ⟨hnone, id, hid⟩ := h.failed i hi
    exact ⟨hnone, id, (hheld i id).mpr hid⟩
  · intro i hi id hid
    rw [hobjects] at hi
    exact h.closing i hi id ((hheld i id).mp hid)

/-- A start that is given an id, the same as before if it had one. -/
theorem start_kept_of_given (h : Kept backendName sys) (hplace : (sys.objects i).place = .idle)
    (hprep : a.prepares backendName = true) {ids : List ℤ} (hpool : sys.pool = ids ++ [id])
    (hpos : 0 ≤ id) (hsame : ∀ x ∈ (sys.objects i).mPcmDevIdRx, x = id) :
    Kept backendName (sys.start backendName i a) ∧
      ((sys.start backendName i a).objects i).mPcmDevIdRx.head? = some id ∧
      ∀ g, (g, id) ∈ (sys.start backendName i a).held → g = some i := by
  obtain ⟨-, hheld, hid⟩ := pool_take (some i) hpool
  have hin : id ∈ sys.pool := by simp [hpool]
  -- the object holds nothing: it would be the id in the pool
  have hfree : ∀ x, (some i, x) ∉ sys.held := by
    intro x hx
    have hxid := hsame x (h.owned i x hx)
    exact h.ids.disjoint _ _ hx (hxid ▸ hin)
  have hnone : (sys.objects i).mRxPcm = none := by
    by_contra hne
    obtain ⟨x, hx⟩ := (h.idle i hplace).mp hne
    exact hfree x hx
  have hstart : sys.start backendName i a = (sys.take (some i)).setObject i
      ({ sys.objects i with mPcmDevIdRx := (sys.objects i).mPcmDevIdRx ++ [id] }.openPcm a) := by
    simp only [start, hprep, if_true, hid]
    rw [if_neg (by omega)]
  have hvec : ∀ x ∈ (sys.objects i).mPcmDevIdRx ++ [id], x = id := by
    intro x hx
    rcases List.mem_append.mp hx with hx | hx
    · exact hsame x hx
    · exact List.mem_singleton.mp hx
  have hhead : ((sys.objects i).mPcmDevIdRx ++ [id]).head? = some id := by
    cases hold : (sys.objects i).mPcmDevIdRx with
    | nil => rfl
    | cons x rest =>
      rw [hold] at hsame
      rw [hsame x List.mem_cons_self]
      rfl
  have hmem : ∀ j x, (some j, x) ∈ (sys.take (some i)).held ↔
      (j = i ∧ x = id) ∨ (some j, x) ∈ sys.held := by
    intro j x
    rw [hheld, List.mem_cons, Prod.mk.injEq, Option.some.injEq]
  rw [hstart]
  refine ⟨⟨(h.ids.take (some i)).setObject, fun j => ?_, fun j x hx => ?_, fun hb => ?_,
    fun j hj => ?_, fun j hj => ?_, fun j hj x hx => ?_⟩, ?_, ?_⟩
  · by_cases hji : j = i
    · subst hji
      rw [objects_setObject_self, openPcm_mPcmDevIdRx]
      exact fun x hx y hy => (hvec x hx).trans (hvec y hy).symm
    · rw [objects_setObject_of_ne hji]
      exact h.same j
  · rcases (hmem j x).mp hx with ⟨rfl, rfl⟩ | hold
    · rw [objects_setObject_self, openPcm_mPcmDevIdRx]
      simp
    · have hji : j ≠ i := by
        rintro rfl
        exact hfree x hold
      rw [objects_setObject_of_ne hji]
      exact h.owned j x hold
  · simp [StartAnswers.prepares, hb] at hprep
  · by_cases hji : j = i
    · subst hji
      rw [objects_setObject_self] at hj ⊢
      rcases openPcm_cases (d := { sys.objects j with
        mPcmDevIdRx := (sys.objects j).mPcmDevIdRx ++ [id] }) a hnone with heq | heq
      · rw [heq]
        refine iff_of_true ?_ ⟨id, (hmem j id).mpr (Or.inl ⟨rfl, rfl⟩)⟩
        change ((sys.objects j).mPcmDevIdRx ++ [id]).head? ≠ none
        rw [hhead]
        exact Option.some_ne_none _
      · rw [heq] at hj
        cases hj
    · rw [objects_setObject_of_ne hji] at hj ⊢
      refine (h.idle j hj).trans (exists_congr fun x => ?_)
      rw [held_setObject, hmem]
      exact (or_iff_right fun heq => hji heq.1).symm
  · by_cases hji : j = i
    · subst hji
      rw [objects_setObject_self] at hj ⊢
      refine ⟨?_, id, (hmem j id).mpr (Or.inl ⟨rfl, rfl⟩)⟩
      rcases openPcm_cases (d := { sys.objects j with
        mPcmDevIdRx := (sys.objects j).mPcmDevIdRx ++ [id] }) a hnone with heq | heq
      · rw [heq] at hj
        exact absurd (hplace.symm.trans hj) (by decide)
      · rw [heq]
        exact hnone
    · rw [objects_setObject_of_ne hji] at hj ⊢
      obtain ⟨hjnone, x, hx⟩ := h.failed j hj
      exact ⟨hjnone, x, (hmem j x).mpr (Or.inr hx)⟩
  · by_cases hji : j = i
    · subst hji
      rw [objects_setObject_self] at hj
      rcases openPcm_cases (d := { sys.objects j with
        mPcmDevIdRx := (sys.objects j).mPcmDevIdRx ++ [id] }) a hnone with heq | heq
      · rw [heq] at hj
        exact absurd (hplace.symm.trans hj) (by decide)
      · rw [heq] at hj
        cases hj
    · rw [objects_setObject_of_ne hji] at hj
      rcases (hmem j x).mp hx with ⟨rfl, -⟩ | hx
      · exact hji rfl
      · exact h.closing j hj x hx
  · rw [objects_setObject_self, openPcm_mPcmDevIdRx]
    exact hhead
  · intro g hg
    rw [held_setObject, hheld] at hg
    rcases List.mem_cons.mp hg with heq | hg
    · exact congrArg Prod.fst heq
    · exact absurd hin (h.ids.disjoint g id hg)

/-- The calls that meet the condition use their ids, and keep what the calls keep. -/
theorem kept_of_given (h : Kept backendName sys) {call : Call ι}
    (hok : sys.givenTheSame backendName call) (hstep : sys.step backendName call = some sys') :
    Kept backendName sys' ∧ sys.UsesItsIds backendName call := by
  have huses : ∀ {P : System ι → Prop}, P sys' → ∀ s, sys.step backendName call = some s → P s := by
    intro P hP s hs
    obtain rfl : sys' = s := Option.some.inj (hstep.symm.trans hs)
    exact hP
  cases call with
  | startComputationInternal i a =>
    simp only [step] at hstep
    split_ifs at hstep with hplace
    cases hstep
    by_cases hprep : a.prepares backendName = true
    · rcases List.eq_nil_or_concat' sys.pool with hnil | ⟨ids, id, hpool⟩
      · have hsame : sys.start backendName i a = sys := by
          simp [start, hprep, allocateFrontEndIds_of_nil hnil, take_of_nil hnil]
        rw [hsame] at huses ⊢
        refine ⟨h, huses ⟨h.idle, fun _ id hid => ?_⟩⟩
        simp [hnil] at hid
      · obtain ⟨hpos, heq⟩ := hok hplace hprep id (by simp [hpool])
        obtain ⟨hkept, hhead, hown⟩ := start_kept_of_given h hplace hprep hpool hpos heq
        refine ⟨hkept, huses ⟨hkept.idle, fun _ id' hid => ?_⟩⟩
        obtain rfl : id = id' := by simpa [hpool] using hid
        exact ⟨hhead, hown⟩
    · have hsame : sys.start backendName i a = sys := by simp [start, hprep]
      rw [hsame] at huses ⊢
      exact ⟨h, huses ⟨h.idle, fun hyes => absurd hyes hprep⟩⟩
  | stopComputationInternal i =>
    simp only [step] at hstep
    split_ifs at hstep with hplace
    obtain ⟨hkept, hown, hgone⟩ := stop_kept h hplace hstep
    exact ⟨hkept, huses ⟨hkept.idle, hown, hgone⟩⟩
  | finish i =>
    obtain ⟨hkept, hown⟩ := finish_kept h hstep
    exact ⟨hkept, huses ⟨hkept.idle, hown⟩⟩
  | allocateFrontEndIds =>
    cases hstep
    have hkept : Kept backendName (sys.take none) := by
      refine h.others (h.ids.take none) rfl fun i id => ?_
      unfold take
      rw [List.mem_append]
      refine or_iff_right fun hin => ?_
      cases hlast : sys.pool.getLast? with
      | none => simp [hlast] at hin
      | some x => simp [hlast] at hin
    exact ⟨hkept, huses ⟨hkept.idle, trivial⟩⟩
  | freeFrontEndIds frontend =>
    simp only [step] at hstep
    split_ifs at hstep with hheld
    cases hstep
    have hkept : Kept backendName (sys.giveBack none frontend) := by
      refine h.others (h.ids.giveBack hheld) rfl fun i id => ?_
      rw [mem_giveBack]
      exact and_iff_left fun heq => by cases heq.1
    exact ⟨hkept, huses ⟨hkept.idle, trivial⟩⟩

/-- **A call uses its ids exactly when it meets the condition.** -/
theorem usesItsIds_iff (h : Kept backendName sys) (call : Call ι) :
    sys.UsesItsIds backendName call ↔ sys.givenTheSame backendName call := by
  constructor
  · intro huses
    cases call with
    | startComputationInternal i a =>
      intro hplace hprep id hlast
      obtain ⟨ids, hpool⟩ := List.getLast?_eq_some_iff.mp hlast
      obtain ⟨-, hheld, hid⟩ := pool_take (some i) hpool
      obtain ⟨hpcm, hopened⟩ := huses (sys.start backendName i a) (by simp [step, hplace])
      obtain ⟨hhead, -⟩ := hopened hprep id hlast
      by_cases hneg : id < 0
      · -- the id is lost: the object holds it without a pcm
        exfalso
        have hstart : sys.start backendName i a = sys.take (some i) := by
          simp [start, hprep, hid, hneg]
        rw [hstart] at hpcm hhead
        have hpcm : (sys.objects i).mRxPcm ≠ none :=
          (hpcm i hplace).mpr ⟨id, by rw [hheld]; simp⟩
        obtain ⟨x, hx⟩ := (h.idle i hplace).mp hpcm
        have hmem : id ∈ (sys.objects i).mPcmDevIdRx := List.mem_of_head? hhead
        have hxid := h.same i x (h.owned i x hx) id hmem
        exact h.ids.disjoint _ _ hx (by rw [hxid, hpool]; simp)
      · refine ⟨by omega, fun x hx => ?_⟩
        have hstart : ((sys.start backendName i a).objects i).mPcmDevIdRx =
            (sys.objects i).mPcmDevIdRx ++ [id] := by
          simp [start, hprep, hid, hneg, openPcm_mPcmDevIdRx]
        rw [hstart] at hhead
        cases hold : (sys.objects i).mPcmDevIdRx with
        | nil =>
          rw [hold] at hx
          exact absurd hx List.not_mem_nil
        | cons y rest =>
          rw [hold] at hhead
          obtain rfl : y = id := by simpa using hhead
          exact h.same i x hx y (by rw [hold]; exact List.mem_cons_self)
    | _ => trivial
  · intro hok sys' hstep
    exact (kept_of_given h hok hstep).2 sys' hstep

/-- New objects. What `mRxPcm` is, is not said by the constructor. -/
def init (m : FrontEndIdMap) (mRxPcm : ι → Option ℤ) : System ι where
  frontEndIdMap := m
  objects i := { mRxPcm := mRxPcm i }

omit [DecidableEq ι] in
theorem init_kept {m : FrontEndIdMap} {mRxPcm : ι → Option ℤ}
    (hpool : (m.pool PCM_PLAYBACK_HOSTLESS).Nodup) (hnull : ∀ i, mRxPcm i = none) :
    Kept backendName (init m mRxPcm) := by
  have hheld : (init m mRxPcm).held = [] := rfl
  refine ⟨⟨hpool, List.nodup_nil, ?_, fun h => absurd hheld h⟩, ?_, ?_, ?_, ?_, ?_, ?_⟩
  · exact fun _ _ h => absurd h List.not_mem_nil
  · exact fun _ _ h => absurd h List.not_mem_nil
  · exact fun _ _ h => absurd h List.not_mem_nil
  · exact fun _ _ _ h => absurd h List.not_mem_nil
  · intro i _
    refine iff_of_false (not_not.mpr (hnull i)) ?_
    rintro ⟨x, hx⟩
    exact List.not_mem_nil hx
  · intro i hi
    cases hi
  · intro i hi
    cases hi

/-- **Sound dose sessions.** From the pools of a table with pairwise different device ids, the
objects have a pcm while they hold an id and every call of a run uses its ids, exactly when their
pcm is null at first and every start is given the id of its object's earlier starts. -/
theorem usesItsIds_along_iff {devInfo : List deviceCap} {max_nt_sessions : ℤ} {m : FrontEndIdMap}
    (hids : (devInfo.map deviceCap.deviceId).Nodup)
    (hm : constructFrontEndIdMap devInfo max_nt_sessions = some m) (mRxPcm : ι → Option ℤ)
    (calls : List (Call ι)) :
    ((init m mRxPcm).PcmWhileHeld ∧
        Meets (step backendName) (UsesItsIds backendName) (init m mRxPcm) calls) ↔
      ((∀ i, mRxPcm i = none) ∧
        Meets (step backendName) (givenTheSame backendName) (init m mRxPcm) calls) := by
  have hpool : (m.pool PCM_PLAYBACK_HOSTLESS).Nodup := by
    rw [constructFrontEndIdMap_pool hm]
    exact nodup_initialIds hids
  have hnull : (init m mRxPcm).PcmWhileHeld ↔ ∀ i, mRxPcm i = none := by
    refine forall_congr' fun i => ?_
    change (Place.idle = .idle → (mRxPcm i ≠ none ↔ _)) ↔ _
    have hfree : ¬∃ id, (some i, id) ∈ (init m mRxPcm).held := by
      rintro ⟨x, hx⟩
      exact List.not_mem_nil hx
    simp [hfree]
  rw [hnull]
  refine and_congr_right fun hnull => ?_
  have hkept : ∀ (sys : System ι) call sys', sys.givenTheSame backendName call →
      Kept backendName sys →
      step backendName sys call = some sys' → Kept backendName sys' :=
    fun sys call sys' hok h hstep => (kept_of_given h hok hstep).1
  exact meets_iff_of_kept hkept (fun sys call h => usesItsIds_iff h call) (init_kept hpool hnull)

/-- Three hostless playback devices. -/
def threeHostless : List deviceCap :=
  [⟨3, .PCM, 1, 0, .HOSTLESS⟩, ⟨4, .PCM, 1, 0, .HOSTLESS⟩, ⟨5, .PCM, 1, 0, .HOSTLESS⟩]

theorem usesItsIds_threeHostless : ∃ m, constructFrontEndIdMap threeHostless 0 = some m ∧
    (init m fun _ : ℕ => none).PcmWhileHeld ∧
      Meets (step "backend") (UsesItsIds "backend") (init m fun _ : ℕ => none)
        [.startComputationInternal 0 {}, .stopComputationInternal 0] := by
  have hids : (threeHostless.map deviceCap.deviceId).Nodup := by decide
  refine ⟨_, rfl, (usesItsIds_along_iff hids rfl _ _).mpr ⟨fun _ => rfl, ?_, ?_⟩⟩
  · intro _ _ id hid
    obtain rfl : 5 = id := Option.some.inj hid
    exact ⟨by decide, fun x hx => absurd hx List.not_mem_nil⟩
  · intro t ht
    exact ⟨trivial, fun _ _ => trivial⟩

/-- Another client takes the id of the first session before the second one starts: the second
session opens the other client's id, and frees it when it is stopped. -/
theorem not_usesItsIds_restarted : ∃ m, constructFrontEndIdMap threeHostless 0 = some m ∧
    ¬Meets (step "backend") (UsesItsIds "backend") (init m fun _ : ℕ => none)
      [.startComputationInternal 0 {}, .stopComputationInternal 0, .finish 0,
        .allocateFrontEndIds, .startComputationInternal 0 {}] ∧
    ∃ u, run (step "backend") (init m fun _ : ℕ => none)
      [.startComputationInternal 0 {}, .stopComputationInternal 0, .finish 0,
        .allocateFrontEndIds, .startComputationInternal 0 {}] = some u ∧
      (u.objects 0).mRxPcm = some 5 ∧ (none, 5) ∈ u.held := by
  refine ⟨_, rfl, fun h => ?_, _, rfl, by decide, by decide⟩
  have hstart := (h.2 _ rfl).2 _ rfl |>.2 _ rfl |>.2 _ rfl |>.1
  obtain ⟨-, hopened⟩ := hstart _ rfl
  obtain ⟨hhead, -⟩ := hopened (by decide) 4 (by decide)
  exact absurd hhead (by decide)

end System

end AudioReachPal.SoundDose
