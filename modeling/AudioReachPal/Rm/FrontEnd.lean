import AudioReachPal.Types
import AudioReachPal.Lib.Runs
import AudioReachPal.Lib.SortUnique
import Mathlib.Data.List.Nodup
import Mathlib.Data.List.Perm.Basic
import Mathlib.Logic.Function.Basic
import Mathlib.Order.Basic
import Mathlib.Data.Int.Order.Basic

/-!
# Front end ids

The ids of the PCM devices are kept in pools by a key, which says what a device can do. A session
takes an id from the back of a pool and gives it back later. The pool of the non tunnel sessions has
ids of its own, made up from the largest id of the table. Each call runs under the mutex of the
lists, so that a run is a sequence of calls.
-/

namespace AudioReachPal.Rm

open AudioReachPal.Lib

/-! ### The table of the devices -/

inductive stream_supported_type where
  | PCM
  | COMPRESS
  | VOICE1
  | VOICE2
  | ExtEC
  deriving DecidableEq, Repr

inductive sess_mode_t where
  | DEFAULT
  | HOSTLESS
  | NON_TUNNEL
  | NO_CONFIG
  deriving DecidableEq, Repr

/-- An entry of the table. The key starts as the entry's name, which no type leaves in place. -/
structure deviceCap where
  deviceId : ℤ
  type : stream_supported_type
  playback : ℤ
  record : ℤ
  sess_mode : sess_mode_t
  deriving DecidableEq, Repr

namespace deviceCap

def isValid (d : deviceCap) : Bool := d.playback = 1 || d.record = 1

def typeKey : stream_supported_type → String
  | .PCM => "Pcm"
  | .COMPRESS => "Compress"
  | .VOICE1 => "Voice1"
  | .VOICE2 => "Voice2"
  | .ExtEC => "ExtEC"

def directionKey (d : deviceCap) : String :=
  if d.playback = 1 then "Playback" else if d.record = 1 then "Record" else "PlaybackRecord"

def modeKey : sess_mode_t → String
  | .HOSTLESS => "Hostless"
  | .NON_TUNNEL => "NonTunnel"
  | .NO_CONFIG => "NoConfig"
  | .DEFAULT => ""

def key (d : deviceCap) : String := typeKey d.type ++ d.directionKey ++ modeKey d.sess_mode

end deviceCap

/-- The pools by their keys. -/
abbrev FrontEndIdMap := String → Option (List ℤ)

/-- One entry of the table enters the pool of its key. -/
def addFrontEndId (m : FrontEndIdMap) (d : deviceCap) : FrontEndIdMap :=
  if d.isValid then
    Function.update m d.key <| some <|
      match m d.key with
      | some ids => ids ++ [d.deviceId]
      | none => [d.deviceId]
  else m

def NonTunnel : String := "NonTunnel"

/-- The ids of the valid entries, in the order of the table. -/
def listAllFrontEndIds (devInfo : List deviceCap) : List ℤ :=
  (devInfo.filter deviceCap.isValid).map deviceCap.deviceId

/-- The first of the ids in descending order. -/
def maxDeviceIdInUse (devInfo : List deviceCap) : Option ℤ :=
  ((listAllFrontEndIds devInfo).insertionSort (· ≥ ·)).head?

/-- The ids of the non tunnel sessions, counted up from the largest id. -/
def nonTunnelIds (maxDeviceIdInUse max_nt_sessions : ℤ) : List ℤ :=
  (List.range max_nt_sessions.toNat).map fun i : ℕ => maxDeviceIdInUse + (i : ℤ)

/-- The pools made from the table. Without a valid entry the first id is out of range. -/
def constructFrontEndIdMap (devInfo : List deviceCap) (max_nt_sessions : ℤ) :
    Option FrontEndIdMap :=
  let frontEndIdMap := devInfo.foldl addFrontEndId fun _ => none
  (maxDeviceIdInUse devInfo).map fun max =>
    Function.update frontEndIdMap NonTunnel <| some <|
      (frontEndIdMap NonTunnel).getD [] ++ nonTunnelIds max max_nt_sessions

/-! ### Taking and giving back -/

def removeDuplicates (vec : List ℤ) : List ℤ := sortUnique (· ≤ ·) vec

def FrontEndIdMap.allocateFrontEndIds (m : FrontEndIdMap) (key : String) : ℤ × FrontEndIdMap :=
  match m key with
  | some ids =>
    match ids.getLast? with
    | some id => (id, Function.update m key (some ids.dropLast))
    | none => (-1, m)
  | none => (-1, m)

def FrontEndIdMap.freeFrontEndIds (m : FrontEndIdMap) (key : String) (frontend : List ℤ) :
    FrontEndIdMap :=
  if frontend = [] then m
  else match m key with
    | some ids => Function.update m key (some (removeDuplicates (ids ++ frontend)))
    | none => m

/-- The ids of a key. -/
def FrontEndIdMap.pool (m : FrontEndIdMap) (key : String) : List ℤ := (m key).getD []

section Pools

variable {m : FrontEndIdMap} {key : String}

theorem allocateFrontEndIds_of_nil (h : m.pool key = []) : m.allocateFrontEndIds key = (-1, m) := by
  unfold FrontEndIdMap.pool at h
  unfold FrontEndIdMap.allocateFrontEndIds
  cases hm : m key with
  | none => rfl
  | some ids =>
    rw [hm, Option.getD_some] at h
    simp [h]

theorem allocateFrontEndIds_of_append {ids : List ℤ} {id : ℤ} (h : m.pool key = ids ++ [id]) :
    m.allocateFrontEndIds key = (id, Function.update m key (some ids)) := by
  unfold FrontEndIdMap.pool at h
  unfold FrontEndIdMap.allocateFrontEndIds
  cases hm : m key with
  | none => simp [hm] at h
  | some l =>
    rw [hm, Option.getD_some] at h
    simp [h]

theorem pool_update {ids : List ℤ} {key' : String} :
    FrontEndIdMap.pool (Function.update m key (some ids)) key' =
      if key' = key then ids else m.pool key' := by
  by_cases h : key' = key
  · subst h
    simp [FrontEndIdMap.pool]
  · simp [FrontEndIdMap.pool, h]

theorem mem_pool_freeFrontEndIds {frontend : List ℤ} (hkey : frontend ≠ [] → m key ≠ none)
    (key' : String) (a : ℤ) : a ∈ (m.freeFrontEndIds key frontend).pool key' ↔
      a ∈ m.pool key' ∨ (key' = key ∧ a ∈ frontend) := by
  unfold FrontEndIdMap.freeFrontEndIds
  by_cases hnil : frontend = []
  · simp [hnil]
  rw [if_neg hnil]
  obtain ⟨ids, hids⟩ := Option.ne_none_iff_exists'.mp (hkey hnil)
  simp only [hids, pool_update]
  by_cases h : key' = key
  · subst h
    simp [removeDuplicates, mem_sortUnique, FrontEndIdMap.pool, hids]
  · simp [h]

theorem nodup_pool_freeFrontEndIds {frontend : List ℤ} (h : ∀ key', (m.pool key').Nodup)
    (key' : String) : ((m.freeFrontEndIds key frontend).pool key').Nodup := by
  unfold FrontEndIdMap.freeFrontEndIds
  by_cases hnil : frontend = []
  · simp [hnil, h]
  rw [if_neg hnil]
  cases m key with
  | none => exact h key'
  | some ids =>
    simp only [pool_update]
    split_ifs
    · exact nodup_sortUnique _ _
    · exact h key'

theorem freeFrontEndIds_ne_none {frontend : List ℤ} {key' : String} (h : m key' ≠ none) :
    m.freeFrontEndIds key frontend key' ≠ none := by
  unfold FrontEndIdMap.freeFrontEndIds
  split_ifs
  · exact h
  cases m key with
  | none => exact h
  | some ids =>
    by_cases hk : key' = key
    · simp [hk]
    · simpa [hk] using h

end Pools

/-! ### The pools of the table -/

/-- The ids of the valid entries of a key. -/
def idsOfKey (devInfo : List deviceCap) (key : String) : List ℤ :=
  (devInfo.filter fun d => d.isValid && d.key = key).map deviceCap.deviceId

section Construct

variable {devInfo : List deviceCap} {max max_nt_sessions : ℤ} {key key' : String} {id : ℤ}

theorem pool_addFrontEndId (m : FrontEndIdMap) (d : deviceCap) :
    (addFrontEndId m d).pool key = m.pool key ++ idsOfKey [d] key := by
  unfold addFrontEndId idsOfKey
  by_cases hv : d.isValid = true
  · by_cases hk : key = d.key
    · subst hk
      cases hm : m d.key <;> simp [hv, FrontEndIdMap.pool, hm]
    · simp [hv, FrontEndIdMap.pool, hk, Ne.symm hk]
  · simp [hv]

theorem pool_foldl_addFrontEndId : ∀ m : FrontEndIdMap,
    FrontEndIdMap.pool (devInfo.foldl addFrontEndId m) key = m.pool key ++ idsOfKey devInfo key := by
  induction devInfo with
  | nil => simp [idsOfKey]
  | cons d ds ih =>
    intro m
    have hsplit : idsOfKey (d :: ds) key = idsOfKey [d] key ++ idsOfKey ds key := by
      simp only [idsOfKey, ← List.map_append, ← List.filter_append, List.singleton_append]
    rw [List.foldl_cons, ih, pool_addFrontEndId, hsplit, List.append_assoc]

/-- No entry of the table has the key of the non tunnel sessions. -/
theorem key_ne_nonTunnel {d : deviceCap} : d.key ≠ NonTunnel := by
  have hkey : ∀ t m, ∀ dir ∈ ["Playback", "Record", "PlaybackRecord"],
      deviceCap.typeKey t ++ dir ++ deviceCap.modeKey m ≠ NonTunnel := by
    intro t m dir hdir
    cases t <;> cases m <;> revert dir hdir <;> decide
  refine hkey d.type d.sess_mode d.directionKey ?_
  unfold deviceCap.directionKey
  split_ifs <;> simp

theorem idsOfKey_nonTunnel : idsOfKey devInfo NonTunnel = [] := by
  simp [idsOfKey, key_ne_nonTunnel]

theorem mem_idsOfKey :
    id ∈ idsOfKey devInfo key ↔ ∃ d ∈ devInfo, d.isValid = true ∧ d.key = key ∧ d.deviceId = id := by
  simp [idsOfKey, and_assoc]

theorem le_maxDeviceIdInUse (hmax : maxDeviceIdInUse devInfo = some max)
    (h : id ∈ listAllFrontEndIds devInfo) : id ≤ max := by
  unfold maxDeviceIdInUse at hmax
  obtain ⟨rest, hrest⟩ := List.head?_eq_some_iff.mp hmax
  have hsorted := List.pairwise_insertionSort (· ≥ ·) (listAllFrontEndIds devInfo)
  have hmem := (List.perm_insertionSort (· ≥ ·) (listAllFrontEndIds devInfo)).mem_iff.mpr h
  rw [hrest] at hsorted hmem
  rcases List.mem_cons.mp hmem with rfl | hmem
  · exact le_refl id
  · exact (List.pairwise_cons.mp hsorted).1 id hmem

/-- What the construction leaves in the pool of a key. -/
def initialIds (devInfo : List deviceCap) (max_nt_sessions : ℤ) (key : String) : List ℤ :=
  if key = NonTunnel then nonTunnelIds ((maxDeviceIdInUse devInfo).getD 0) max_nt_sessions
  else idsOfKey devInfo key

theorem constructFrontEndIdMap_pool {m : FrontEndIdMap}
    (h : constructFrontEndIdMap devInfo max_nt_sessions = some m) :
    m.pool key = initialIds devInfo max_nt_sessions key := by
  obtain ⟨max, hmax, rfl⟩ := Option.map_eq_some_iff.mp h
  have hpool : FrontEndIdMap.pool (devInfo.foldl addFrontEndId fun _ => none) NonTunnel = [] := by
    rw [pool_foldl_addFrontEndId, idsOfKey_nonTunnel]
    rfl
  rw [pool_update, initialIds]
  split_ifs
  · unfold FrontEndIdMap.pool at hpool
    rw [hpool, hmax, List.nil_append, Option.getD_some]
  · rw [pool_foldl_addFrontEndId]
    rfl

theorem nodup_initialIds (hids : (devInfo.map deviceCap.deviceId).Nodup) :
    (initialIds devInfo max_nt_sessions key).Nodup := by
  unfold initialIds
  split_ifs
  · refine List.Nodup.map ?_ List.nodup_range
    intro i j hij
    change _ + (i : ℤ) = _ + (j : ℤ) at hij
    omega
  · exact hids.sublist (List.filter_sublist.map _)

/-- **The pools are disjoint but for one id.** An id that is in two pools is the largest one of the
table. -/
theorem eq_max_of_mem_initialIds (hids : (devInfo.map deviceCap.deviceId).Nodup)
    (hmax : maxDeviceIdInUse devInfo = some max) (hne : key ≠ key')
    (h : id ∈ initialIds devInfo max_nt_sessions key)
    (h' : id ∈ initialIds devInfo max_nt_sessions key') : id = max := by
  have htable : ∀ {k k'}, k ≠ k' → id ∈ idsOfKey devInfo k → id ∉ idsOfKey devInfo k' := by
    intro k k' hk h h'
    obtain ⟨d, hd, -, hkey, hid⟩ := mem_idsOfKey.mp h
    obtain ⟨d', hd', -, hkey', hid'⟩ := mem_idsOfKey.mp h'
    obtain rfl := List.inj_on_of_nodup_map hids hd hd' (hid.trans hid'.symm)
    exact hk (hkey.symm.trans hkey')
  have hle : ∀ {k}, id ∈ idsOfKey devInfo k → id ≤ max := by
    intro k h
    obtain ⟨d, hd, hv, -, hid⟩ := mem_idsOfKey.mp h
    exact le_maxDeviceIdInUse hmax (List.mem_map.mpr ⟨d, List.mem_filter.mpr ⟨hd, hv⟩, hid⟩)
  have hge : id ∈ nonTunnelIds max max_nt_sessions → max ≤ id := by
    intro h
    obtain ⟨i, -, rfl⟩ := List.mem_map.mp h
    omega
  unfold initialIds at h h'
  rw [hmax, Option.getD_some] at h h'
  split_ifs at h h' with hk hk'
  · exact absurd (hk.trans hk'.symm) hne
  · exact le_antisymm (hle h') (hge h)
  · exact le_antisymm (hle h) (hge h')
  · exact absurd h' (htable hne h)

theorem constructFrontEndIdMap_isSome (h : ∃ d ∈ devInfo, d.isValid = true) :
    ∃ m, constructFrontEndIdMap devInfo max_nt_sessions = some m := by
  obtain ⟨d, hd, hv⟩ := h
  have hmem : d.deviceId ∈ listAllFrontEndIds devInfo :=
    List.mem_map.mpr ⟨d, List.mem_filter.mpr ⟨hd, hv⟩, rfl⟩
  have hsort := (List.perm_insertionSort (· ≥ ·) (listAllFrontEndIds devInfo)).mem_iff.mpr hmem
  unfold constructFrontEndIdMap maxDeviceIdInUse
  cases hl : (listAllFrontEndIds devInfo).insertionSort (· ≥ ·) with
  | nil =>
    rw [hl] at hsort
    exact absurd hsort List.not_mem_nil
  | cons max rest => exact ⟨_, rfl⟩

end Construct

/-! ### Runs -/

inductive FrontEndCall where
  | allocateFrontEndIds (key : String)
  | freeFrontEndIds (key : String) (frontend : List ℤ)
  deriving DecidableEq, Repr

/-- The pools, and the ids that are held with the keys they were taken under. -/
structure FrontEnds where
  frontEndIdMap : FrontEndIdMap
  held : List (String × ℤ) := []

namespace FrontEnds

/-- Who gets an id other than -1 holds it; ids are given back under their keys. -/
def step (fe : FrontEnds) : FrontEndCall → Option FrontEnds
  | .allocateFrontEndIds key => some
      { frontEndIdMap := (fe.frontEndIdMap.allocateFrontEndIds key).2
        held := if (fe.frontEndIdMap.allocateFrontEndIds key).1 = -1 then fe.held
          else (key, (fe.frontEndIdMap.allocateFrontEndIds key).1) :: fe.held }
  | .freeFrontEndIds key frontend =>
    if ∀ id ∈ frontend, (key, id) ∈ fe.held then some
      { frontEndIdMap := fe.frontEndIdMap.freeFrontEndIds key frontend
        held := fe.held.filter fun h => !(h.1 = key && h.2 ∈ frontend) }
    else none

def heldIds (fe : FrontEnds) : List ℤ := fe.held.map Prod.snd

/-- The table, and the number of non tunnel sessions. -/
structure Table where
  devInfo : List deviceCap
  max_nt_sessions : ℤ

variable (t : Table)

def Table.initialIds (key : String) : List ℤ := Rm.initialIds t.devInfo t.max_nt_sessions key

/-- What a call does right: no id is held twice after it, all pools are as at the beginning when no
id is held, and an allocation succeeds exactly when some id of the pool is not held. -/
def ServedRight (fe : FrontEnds) (call : FrontEndCall) : Prop :=
  ∀ fe', fe.step call = some fe' → fe'.heldIds.Nodup ∧
    (fe'.held = [] → ∀ key, (fe'.frontEndIdMap.pool key).Perm (t.initialIds key)) ∧
    ∀ key, call = .allocateFrontEndIds key →
      ((fe.frontEndIdMap.allocateFrontEndIds key).1 ≠ -1 ↔
        ∃ id ∈ t.initialIds key, id ∉ fe.heldIds)

/-- The id at the back of the pool is not the one of a failure, and is not the largest id of the
table while that is held from the other of its two pools. -/
def keepsIds (fe : FrontEnds) : FrontEndCall → Prop
  | .allocateFrontEndIds key => ∀ id, (fe.frontEndIdMap.pool key).getLast? = some id →
      id ≠ -1 ∧ (maxDeviceIdInUse t.devInfo = some id → id ∉ fe.heldIds)
  | .freeFrontEndIds _ _ => True

instance (fe : FrontEnds) : ∀ call, Decidable (fe.keepsIds t call)
  | .allocateFrontEndIds key => inferInstanceAs (Decidable (∀ id ∈ (fe.frontEndIdMap.pool key).getLast?,
      id ≠ -1 ∧ (maxDeviceIdInUse t.devInfo = some id → id ∉ fe.heldIds)))
  | .freeFrontEndIds _ _ => .isTrue trivial

/-- Each id of a pool is in it or held under its key, and no id is held twice. -/
structure Conserved (fe : FrontEnds) : Prop where
  nodup : ∀ key, (fe.frontEndIdMap.pool key).Nodup
  notHeld : ∀ key, ∀ id ∈ fe.frontEndIdMap.pool key, (key, id) ∉ fe.held
  mem_iff : ∀ key id, id ∈ fe.frontEndIdMap.pool key ∨ (key, id) ∈ fe.held ↔
    id ∈ t.initialIds key
  found : ∀ h ∈ fe.held, fe.frontEndIdMap h.1 ≠ none
  distinct : fe.heldIds.Nodup
  noFailure : -1 ∉ fe.heldIds

variable {t} {fe fe' : FrontEnds}

theorem Conserved.restored (h : Conserved t fe) (hids : (t.devInfo.map deviceCap.deviceId).Nodup)
    (hfree : fe.held = []) (key : String) :
    (fe.frontEndIdMap.pool key).Perm (t.initialIds key) := by
  refine (List.perm_ext_iff_of_nodup (h.nodup key) (nodup_initialIds hids)).mpr fun id => ?_
  have hmem := h.mem_iff key id
  rw [hfree] at hmem
  simpa [Table.initialIds] using hmem

theorem Conserved.mem_heldIds (h : Conserved t fe) {key : String} {id : ℤ}
    (hid : (key, id) ∈ fe.held) : id ∈ t.initialIds key ∧ id ∈ fe.heldIds :=
  ⟨(h.mem_iff key id).mp (Or.inr hid), List.mem_map.mpr ⟨_, hid, rfl⟩⟩

/-- The back of a pool is held elsewhere only if it is the largest id of the table. -/
theorem Conserved.eq_max (h : Conserved t fe) (hids : (t.devInfo.map deviceCap.deviceId).Nodup)
    {max : ℤ} (hmax : maxDeviceIdInUse t.devInfo = some max) {key : String} {id : ℤ}
    (hpool : id ∈ fe.frontEndIdMap.pool key) (hheld : id ∈ fe.heldIds) : id = max := by
  obtain ⟨⟨key', _⟩, hmem, rfl⟩ := List.mem_map.mp hheld
  have hne : key ≠ key' := by
    rintro rfl
    exact h.notHeld key _ hpool hmem
  exact eq_max_of_mem_initialIds hids hmax hne ((h.mem_iff key _).mp (Or.inl hpool))
    (h.mem_heldIds hmem).1

theorem Conserved.freeFrontEndIds (h : Conserved t fe) {key : String} {frontend : List ℤ}
    (hheld : ∀ id ∈ frontend, (key, id) ∈ fe.held) :
    Conserved t { frontEndIdMap := fe.frontEndIdMap.freeFrontEndIds key frontend
                  held := fe.held.filter fun h => !(h.1 = key && h.2 ∈ frontend) } := by
  have hkey : frontend ≠ [] → fe.frontEndIdMap key ≠ none := by
    intro hne
    obtain ⟨id, hid⟩ := List.exists_mem_of_ne_nil frontend hne
    exact h.found _ (hheld id hid)
  have hmem := mem_pool_freeFrontEndIds hkey
  have hsub := fe.held.filter_sublist (p := fun h => !(h.1 = key && h.2 ∈ frontend))
  refine ⟨nodup_pool_freeFrontEndIds h.nodup, fun key' id hid => ?_, fun key' id => ?_,
    fun p hp => freeFrontEndIds_ne_none (h.found p (hsub.subset hp)),
    h.distinct.sublist (hsub.map _), fun hid => h.noFailure ((hsub.map _).subset hid)⟩
  · rcases (hmem key' id).mp hid with hpool | ⟨rfl, hfree⟩
    · exact fun hin => h.notHeld key' id hpool (hsub.subset hin)
    · simp [hfree]
  · rw [hmem key' id, ← h.mem_iff key' id]
    by_cases hk : key' = key
    · subst hk
      by_cases hid : id ∈ frontend
      · simp [hid, hheld id hid]
      · simp [hid]
    · simp [hk]

theorem Conserved.allocateFrontEndIds (h : Conserved t fe) {key : String} {ids : List ℤ} {id : ℤ}
    (hpool : fe.frontEndIdMap.pool key = ids ++ [id]) (hid : id ≠ -1) (hnew : id ∉ fe.heldIds) :
    Conserved t { frontEndIdMap := Function.update fe.frontEndIdMap key (some ids)
                  held := (key, id) :: fe.held } := by
  have hnodup := h.nodup key
  rw [hpool, List.nodup_append] at hnodup
  obtain ⟨hids, -, hdisj⟩ := hnodup
  have hnot : id ∉ ids := fun hmem => hdisj id hmem id (by simp) rfl
  refine ⟨fun key' => ?_, fun key' a ha => ?_, fun key' a => ?_, ?_,
    List.nodup_cons.mpr ⟨hnew, h.distinct⟩, ?_⟩
  · rw [pool_update]
    split_ifs
    · exact hids
    · exact h.nodup key'
  · rw [pool_update] at ha
    split_ifs at ha with hk
    · subst hk
      have hold := h.notHeld key' a (by simp [hpool, ha])
      have hne : a ≠ id := fun he => hnot (he ▸ ha)
      simp [hold, hne]
    · simp [h.notHeld key' a ha, hk]
  · rw [pool_update, ← h.mem_iff key' a]
    by_cases hk : key' = key
    · subst hk
      simp [hpool, or_assoc]
    · simp [hk]
  · rintro p hp
    by_cases hk : p.1 = key
    · simp [hk]
    · rcases List.mem_cons.mp hp with rfl | hp
      · exact absurd rfl hk
      · simpa [hk] using h.found p hp
  · rintro (_ | ⟨_, hin⟩)
    · exact hid rfl
    · exact h.noFailure hin

variable (hids : (t.devInfo.map deviceCap.deviceId).Nodup)

include hids

/-- An id that is handed out right is not held. -/
theorem Conserved.free_of_keepsIds {max : ℤ} (h : Conserved t fe)
    (hmax : maxDeviceIdInUse t.devInfo = some max) {key : String} {ids : List ℤ} {id : ℤ}
    (hkeep : fe.keepsIds t (.allocateFrontEndIds key))
    (hpool : fe.frontEndIdMap.pool key = ids ++ [id]) : id ≠ -1 ∧ id ∉ fe.heldIds := by
  obtain ⟨hne, hfree⟩ := hkeep id (by simp [hpool])
  refine ⟨hne, fun hheld => ?_⟩
  have hin : id ∈ fe.frontEndIdMap.pool key := by simp [hpool]
  have heq := h.eq_max hids hmax hin hheld
  exact hfree (heq ▸ hmax) hheld

/-- A pool without ids is one whose ids are all held. -/
theorem Conserved.servedRight_of_nil (h : Conserved t fe) {key : String}
    (hpool : fe.frontEndIdMap.pool key = []) :
    fe.ServedRight t (.allocateFrontEndIds key) := by
  rintro _ ⟨⟩
  rw [allocateFrontEndIds_of_nil hpool, if_pos rfl]
  refine ⟨h.distinct, h.restored hids, ?_⟩
  rintro _ ⟨⟩
  refine iff_of_false (by simp [allocateFrontEndIds_of_nil hpool]) ?_
  rintro ⟨id, hid, hfree⟩
  rcases (h.mem_iff key id).mpr hid with hin | hheld
  · rw [hpool] at hin
    exact absurd hin List.not_mem_nil
  · exact hfree (h.mem_heldIds hheld).2

theorem servedRight_iff {max : ℤ} (hmax : maxDeviceIdInUse t.devInfo = some max)
    (call : FrontEndCall) (h : Conserved t fe) :
    fe.ServedRight t call ↔ fe.keepsIds t call := by
  cases call with
  | freeFrontEndIds key frontend =>
    refine iff_of_true ?_ trivial
    intro fe' hstep
    simp only [step] at hstep
    split_ifs at hstep with hheld
    cases hstep
    have h' := h.freeFrontEndIds hheld
    exact ⟨h'.distinct, h'.restored hids, by simp⟩
  | allocateFrontEndIds key =>
    rcases List.eq_nil_or_concat' (fe.frontEndIdMap.pool key) with hpool | ⟨ids, id, hpool⟩
    · refine iff_of_true (h.servedRight_of_nil hids hpool) ?_
      intro id hid
      simp [hpool] at hid
    have halloc := allocateFrontEndIds_of_append hpool
    have hinit : id ∈ t.initialIds key := (h.mem_iff key id).mp (Or.inl (by simp [hpool]))
    constructor
    · -- the id is handed out right: it is none of the two
      intro hserved
      obtain ⟨hdistinct, -, hsucceeds⟩ := hserved _ rfl
      have hne : id ≠ -1 := by
        rintro rfl
        have := (hsucceeds key rfl).mpr ⟨-1, hinit, h.noFailure⟩
        rw [halloc] at this
        exact this rfl
      intro id' hlast
      obtain rfl : id = id' := by simpa [hpool] using hlast
      refine ⟨hne, fun _ => ?_⟩
      rw [halloc, if_neg hne] at hdistinct
      exact (List.nodup_cons.mp hdistinct).1
    · intro hkeep
      obtain ⟨hne, hnew⟩ := h.free_of_keepsIds hids hmax hkeep hpool
      have h' := h.allocateFrontEndIds hpool hne hnew
      rintro _ ⟨⟩
      rw [halloc, if_neg hne]
      refine ⟨h'.distinct, h'.restored hids, ?_⟩
      rintro _ ⟨⟩
      rw [halloc]
      exact iff_of_true hne ⟨id, hinit, hnew⟩

theorem step_conserved {call : FrontEndCall} {max : ℤ}
    (hmax : maxDeviceIdInUse t.devInfo = some max) (hkeep : fe.keepsIds t call)
    (h : Conserved t fe) (hstep : fe.step call = some fe') : Conserved t fe' := by
  cases call with
  | freeFrontEndIds key frontend =>
    simp only [step] at hstep
    split_ifs at hstep with hheld
    cases hstep
    exact h.freeFrontEndIds hheld
  | allocateFrontEndIds key =>
    cases hstep
    rcases List.eq_nil_or_concat' (fe.frontEndIdMap.pool key) with hpool | ⟨ids, id, hpool⟩
    · rw [allocateFrontEndIds_of_nil hpool, if_pos rfl]
      exact h
    obtain ⟨hne, hnew⟩ := h.free_of_keepsIds hids hmax hkeep hpool
    rw [allocateFrontEndIds_of_append hpool, if_neg hne]
    exact h.allocateFrontEndIds hpool hne hnew

theorem init_conserved {m : FrontEndIdMap}
    (hm : constructFrontEndIdMap t.devInfo t.max_nt_sessions = some m) :
    Conserved t { frontEndIdMap := m } := by
  have hpool : ∀ key, m.pool key = t.initialIds key := fun key => constructFrontEndIdMap_pool hm
  refine ⟨fun key => ?_, fun _ _ _ => List.not_mem_nil, fun key id => ?_,
    fun _ h => absurd h List.not_mem_nil, List.nodup_nil, List.not_mem_nil⟩
  · rw [hpool]
    exact nodup_initialIds hids
  · simp [hpool]

/-- **Front end ids.** With pairwise different device ids, one valid entry at least, all along a run
every call is served right exactly when it meets `keepsIds`. -/
theorem servedRight_along_iff (hvalid : ∃ d ∈ t.devInfo, d.isValid = true) :
    ∃ m, constructFrontEndIdMap t.devInfo t.max_nt_sessions = some m ∧ ∀ calls,
      Meets step (ServedRight t) { frontEndIdMap := m } calls ↔
        Meets step (keepsIds t) { frontEndIdMap := m } calls := by
  obtain ⟨m, hm⟩ : ∃ m, constructFrontEndIdMap t.devInfo t.max_nt_sessions = some m :=
    constructFrontEndIdMap_isSome hvalid
  obtain ⟨max, hmax, -⟩ := Option.map_eq_some_iff.mp hm
  refine ⟨m, hm, fun calls => ?_⟩
  refine meets_iff_of_kept ?_ ?_ (init_conserved hids hm)
  · exact fun fe call fe' hkeep h hstep => step_conserved hids hmax hkeep h hstep
  · exact fun fe call h => servedRight_iff hids hmax call h

omit hids

/-- Two PCM playback devices, a record device and a compressed one, and two non tunnel sessions. -/
def fourDevices : Table where
  devInfo := [⟨0, .PCM, 1, 0, .DEFAULT⟩, ⟨1, .PCM, 1, 0, .DEFAULT⟩, ⟨2, .PCM, 0, 1, .DEFAULT⟩,
    ⟨3, .COMPRESS, 1, 0, .DEFAULT⟩]
  max_nt_sessions := 2

/-- Both playback ids and one of a non tunnel session are taken, a third playback gets none until
one of the two is given back, and the largest id is taken when no non tunnel session has it. -/
def servedInTurn : List FrontEndCall :=
  [.allocateFrontEndIds "PcmPlayback", .allocateFrontEndIds NonTunnel,
    .allocateFrontEndIds "PcmPlayback", .allocateFrontEndIds "PcmPlayback",
    .freeFrontEndIds "PcmPlayback" [0], .allocateFrontEndIds "PcmPlayback",
    .allocateFrontEndIds "CompressPlayback", .freeFrontEndIds NonTunnel [4],
    .freeFrontEndIds "PcmPlayback" [1, 0]]

theorem servedRight_inTurn : ∃ m,
    constructFrontEndIdMap fourDevices.devInfo fourDevices.max_nt_sessions = some m ∧
      Meets step (ServedRight fourDevices) { frontEndIdMap := m } servedInTurn ∧
      ∃ fe, run step { frontEndIdMap := m } servedInTurn = some fe ∧
        fe.held = [("CompressPlayback", 3)] := by
  obtain ⟨m, hm, hiff⟩ := servedRight_along_iff (t := fourDevices) (by decide)
    ⟨_, List.mem_cons_self, rfl⟩
  refine ⟨m, hm, (hiff _).mpr ?_, ?_⟩
  · cases hm
    decide
  · cases hm
    exact ⟨_, rfl, by decide⟩

/-- One PCM playback device, and one non tunnel session. -/
def onePlayback : Table where
  devInfo := [⟨0, .PCM, 1, 0, .DEFAULT⟩]
  max_nt_sessions := 1

/-- The largest id of the table is the first of the non tunnel sessions: both sessions get it. -/
theorem not_servedRight_nonTunnel : ∃ m,
    constructFrontEndIdMap onePlayback.devInfo onePlayback.max_nt_sessions = some m ∧
      ¬Meets step (ServedRight onePlayback) { frontEndIdMap := m }
        [.allocateFrontEndIds "PcmPlayback", .allocateFrontEndIds NonTunnel] := by
  refine ⟨_, rfl, fun h => ?_⟩
  obtain ⟨-, hrest⟩ := h
  obtain ⟨hserved, -⟩ := hrest _ rfl
  exact absurd (hserved _ rfl).1 (by decide)

end FrontEnds

end AudioReachPal.Rm
