import AudioReachPal.Rm.Defs
import AudioReachPal.Lib.Runs
import AudioReachPal.Lib.Leases
import AudioReachPal.Lib.MachineInt
import Mathlib.Data.List.Basic
import Mathlib.Logic.Function.Basic
import Mathlib.Order.Basic
import Mathlib.Order.Nat

/-!
# Instance ids

Streams of one kind are told apart by an instance id. The ids of ordinary streams are the bits of a
64-bit mask for each type, one for inputs and one for the rest; those of non tunnel streams are the
keys of a map for each path; those of the voice UI streams are in a list for each stream selector.
`none` is behaviour that the language leaves undefined: a shift out of the range of an `int`, or an
index out of the range of a list.
-/

namespace AudioReachPal.Rm

open AudioReachPal.Lib

open pal_stream_type_t pal_stream_direction_t

/-! ### Streams -/

/-- The formats that are decided between. -/
abbrev pal_audio_fmt_t := ℕ

def PAL_AUDIO_FMT_PCM_S16_LE : pal_audio_fmt_t := 0x1
def PAL_AUDIO_FMT_PCM_S8 : pal_audio_fmt_t := 0x14
def PAL_AUDIO_FMT_PCM_S24_3LE : pal_audio_fmt_t := 0x15
def PAL_AUDIO_FMT_PCM_S24_LE : pal_audio_fmt_t := 0x16
def PAL_AUDIO_FMT_PCM_S32_LE : pal_audio_fmt_t := 0x17

inductive NTPath where
  | NT_PATH_ENCODE
  | NT_PATH_DECODE
  deriving DecidableEq, Repr

/-- The attributes of a stream that its instance id depends on. -/
structure InstanceAttr where
  type : pal_stream_type_t
  direction : pal_stream_direction_t
  aud_fmt_id : pal_audio_fmt_t
  streamSelector : String
  deriving DecidableEq, Repr

def getNTPathForStreamAttr (attr : InstanceAttr) : NTPath :=
  if attr.aud_fmt_id = PAL_AUDIO_FMT_PCM_S16_LE ∨ attr.aud_fmt_id = PAL_AUDIO_FMT_PCM_S8 ∨
      attr.aud_fmt_id = PAL_AUDIO_FMT_PCM_S24_3LE ∨ attr.aud_fmt_id = PAL_AUDIO_FMT_PCM_S24_LE ∨
      attr.aud_fmt_id = PAL_AUDIO_FMT_PCM_S32_LE then .NT_PATH_ENCODE
  else .NT_PATH_DECODE

/-- The limits of the platform, and the attributes of each stream. -/
structure InstanceConfig where
  max_nt_sessions : ℤ
  max_session_num : ℤ
  getStreamAttributes : StreamId → Option InstanceAttr

/-- The value of the key that stands for the first instance. -/
def INSTANCE_1 : ℕ := 1

def MAX_STREAM_INSTANCES : ℕ := 8 <<< 3

/-! ### The three schemes -/

/-- `1 << i` as an `int`. -/
def shiftOne (i : ℤ) : Option (BitVec 32) :=
  if 0 ≤ i ∧ i < 32 then some (1#32 <<< i.toNat) else none

/-- The first index whose bit is clear in the mask, with the bit as it is or-ed to the mask. -/
def firstFree (mask : BitVec 64) : List ℕ → Option (Option (ℕ × BitVec 64))
  | [] => some none
  | i :: is =>
    (shiftOne i).bind fun bit =>
      if mask &&& bit.signExtend 64 = 0 then some (some (i, bit.signExtend 64))
      else firstFree mask is

/-- The status, the mask and the stream's id after a get of an ordinary stream. -/
def getOrdinaryInstance (input : Bool) (mask : BitVec 64) (mInstanceID : ℕ) :
    Option (ℤ × BitVec 64 × ℕ) :=
  if int32 mInstanceID = 0 then
    if mask = -1 then some (-EINVAL, mask, mInstanceID)
    else (firstFree mask (List.range MAX_STREAM_INSTANCES)).map fun free =>
      match free with
      | some (i, bit) => ((i : ℤ) + 1, mask ||| bit, i + 1)
      | none => (0, mask, 0)
  else if input then
    (shiftOne (int32 mInstanceID - 1)).map fun bit =>
      (int32 mInstanceID,
        if mask &&& bit.signExtend 64 = 0 then mask ||| bit.signExtend 64 else mask, mInstanceID)
  else some (int32 mInstanceID, mask, mInstanceID)

def resetOrdinaryInstance (mask : BitVec 64) (sInstanceID : ℕ) : Option (BitVec 64) :=
  (shiftOne ((sInstanceID : ℤ) - 1)).map fun bit => mask &&& (~~~bit).signExtend 64

/-- The ids of a path that are known, and whether they are in use. -/
abbrev nonTunnelInstMap_t := ℕ → Option Bool

/-- The first id that is unknown or not in use is marked. -/
def getAvailableNTStreamInstance (NTStreamInstancesMap : nonTunnelInstMap_t) (max_nt_sessions : ℤ) :
    Option (ℕ × nonTunnelInstMap_t) :=
  ((List.range' INSTANCE_1 max_nt_sessions.toNat).find? fun inst =>
    NTStreamInstancesMap inst ≠ some true).map fun inst =>
      (inst, Function.update NTStreamInstancesMap inst (some true))

/-- The ids of a stream selector, and whether they are in use. -/
abbrev InstanceListNode_t := List (ℕ × Bool)

/-- The first of `n` entries that is not in use is marked. -/
def takeInstance : ℕ → InstanceListNode_t → Option (ℕ × InstanceListNode_t)
  | 0, l => some (0, l)
  | _ + 1, [] => none
  | n + 1, (i, used) :: l =>
    if used then (takeInstance n l).map fun r => (r.1, (i, used) :: r.2)
    else some (i, (i, true) :: l)

/-- The first of `n` entries with the id is unmarked. -/
def releaseInstance (sInstanceID : ℕ) : ℕ → InstanceListNode_t → Option InstanceListNode_t
  | 0, l => some l
  | _ + 1, [] => none
  | n + 1, (i, used) :: l =>
    if i = sInstanceID then some ((i, false) :: l)
    else (releaseInstance sInstanceID n l).map fun r => (i, used) :: r

/-! ### The resource manager's part -/

/-- The ids that are in use, the id in each stream, and the ids that voice UI streams were given:
there the caller keeps the id. -/
structure InstanceIds where
  stream_instances : pal_stream_type_t → BitVec 64 := fun _ => 0
  in_stream_instances : pal_stream_type_t → BitVec 64 := fun _ => 0
  mNTStreamInstancesList : NTPath → nonTunnelInstMap_t := fun _ _ => none
  STInstancesLists : String → Option InstanceListNode_t := fun _ => none
  mInstanceID : StreamId → ℕ := fun _ => 0
  given : List (StreamId × ℕ) := []

namespace InstanceIds

variable (cfg : InstanceConfig) (σ : InstanceIds)

/-- The mask of a type. -/
def mask (type : pal_stream_type_t) (input : Bool) : BitVec 64 :=
  if input then σ.in_stream_instances type else σ.stream_instances type

def setMask (type : pal_stream_type_t) (input : Bool) (m : BitVec 64) : InstanceIds :=
  if input then { σ with in_stream_instances := Function.update σ.in_stream_instances type m }
  else { σ with stream_instances := Function.update σ.stream_instances type m }

def setInstanceId (s : StreamId) (id : ℕ) : InstanceIds :=
  { σ with mInstanceID := Function.update σ.mInstanceID s id }

/-- A new selector gets a list with every id free. -/
def selectorList (streamSelector : String) : InstanceListNode_t :=
  (σ.STInstancesLists streamSelector).getD
    ((List.range' 1 cfg.max_session_num.toNat).map fun i => (i, false))

def getVoiceUI (s : StreamId) (streamSelector : String) : Option (ℤ × InstanceIds) :=
  if streamSelector = "" then some (0, σ)
  else (takeInstance cfg.max_session_num.toNat (σ.selectorList cfg streamSelector)).map fun r =>
    (r.1, { σ with
      STInstancesLists := Function.update σ.STInstancesLists streamSelector (some r.2)
      given := if r.1 = 0 then σ.given else (s, r.1) :: σ.given })

def getNonTunnel (s : StreamId) (path : NTPath) : ℤ × InstanceIds :=
  if σ.mInstanceID s = 0 then
    match getAvailableNTStreamInstance (σ.mNTStreamInstancesList path) cfg.max_nt_sessions with
    | some (inst, m) =>
      (inst, { σ with mNTStreamInstancesList := Function.update σ.mNTStreamInstancesList path m
                      mInstanceID := Function.update σ.mInstanceID s inst })
    | none => (-EINVAL, σ)
  else (0, σ)

/-- The status, which is the id where one is given. -/
def getStreamInstanceID (s : StreamId) : Option (ℤ × InstanceIds) :=
  match cfg.getStreamAttributes s with
  | none => some (-EINVAL, σ)
  | some attr =>
    match attr.type with
    | PAL_STREAM_VOICE_UI => σ.getVoiceUI cfg s attr.streamSelector
    | PAL_STREAM_NON_TUNNEL => some (σ.getNonTunnel cfg s (getNTPathForStreamAttr attr))
    | type =>
      let input : Bool := attr.direction = PAL_AUDIO_INPUT
      (getOrdinaryInstance input (σ.mask type input) (σ.mInstanceID s)).map fun r =>
        (r.1, (σ.setMask type input r.2.1).setInstanceId s r.2.2)

def resetVoiceUI (s : StreamId) (streamSelector : String) (sInstanceID : ℕ) :
    Option InstanceIds :=
  if streamSelector = "" then some σ
  else match σ.STInstancesLists streamSelector with
    | none => some σ
    | some l => (releaseInstance sInstanceID cfg.max_session_num.toNat l).map fun l =>
      { σ with STInstancesLists := Function.update σ.STInstancesLists streamSelector (some l)
               given := σ.given.erase (s, sInstanceID) }

/-- The id that is freed is the stream's own. -/
def resetNonTunnel (s : StreamId) (path : NTPath) : InstanceIds :=
  { σ with
    mNTStreamInstancesList :=
      if (σ.mNTStreamInstancesList path (σ.mInstanceID s)).isSome then
        Function.update σ.mNTStreamInstancesList path
          (Function.update (σ.mNTStreamInstancesList path) (σ.mInstanceID s) (some false))
      else σ.mNTStreamInstancesList
    mInstanceID := Function.update σ.mInstanceID s 0 }

def resetStreamInstanceID (s : StreamId) (sInstanceID : ℕ) : Option (ℤ × InstanceIds) :=
  if sInstanceID < INSTANCE_1 then some (-EINVAL, σ)
  else match cfg.getStreamAttributes s with
    | none => some (-EINVAL, σ)
    | some attr =>
      match attr.type with
      | PAL_STREAM_VOICE_UI => (σ.resetVoiceUI cfg s attr.streamSelector sInstanceID).map fun σ =>
        (0, σ)
      | PAL_STREAM_NON_TUNNEL => some (0, σ.resetNonTunnel s (getNTPathForStreamAttr attr))
      | type =>
        let input : Bool := attr.direction = PAL_AUDIO_INPUT
        (resetOrdinaryInstance (σ.mask type input) sInstanceID).map fun m =>
          (0, (σ.setMask type input m).setInstanceId s 0)

end InstanceIds

/-! ### The masks -/

section Mask

variable {m : BitVec 64} {i j id : ℕ}

/-- The bit of an index, as it is or-ed to a mask. -/
def bitOf (i : ℕ) : BitVec 64 := (1#32 <<< i).signExtend 64

/-- The last bit of an `int` is its sign: it stands for all the bits above as well. -/
theorem getLsbD_bitOf (hi : i < 32) (hj : j < 64) :
    (bitOf i).getLsbD j = decide (j = i ∨ (i = 31 ∧ 31 ≤ j)) := by
  rw [bitOf, BitVec.getLsbD_signExtend, BitVec.msb_eq_getLsbD_last]
  simp only [BitVec.getLsbD_shiftLeft, BitVec.getLsbD_one, hj, decide_true, Bool.true_and]
  by_cases h : j < 32
  · simp [h]
    grind
  · simp [h]
    grind

theorem shiftOne_of_lt (h : i < 32) : shiftOne i = some (1#32 <<< i) := by
  unfold shiftOne
  rw [if_pos ⟨by omega, by omega⟩, Int.toNat_natCast]

/-- The upper bits of the mask all are as the sign bit. -/
def Uniform (m : BitVec 64) : Prop := ∀ j, 31 ≤ j → j < 64 → m.getLsbD j = m.getLsbD 31

/-- The id is marked in the mask. -/
def Marked (m : BitVec 64) (id : ℕ) : Prop := 1 ≤ id ∧ id ≤ 32 ∧ m.getLsbD (id - 1) = true

theorem uniform_zero : Uniform 0 := by simp [Uniform]

theorem Uniform.and_bitOf_eq_zero_iff (h : Uniform m) (hi : i < 32) :
    m &&& bitOf i = 0 ↔ m.getLsbD i = false := by
  constructor
  · intro hzero
    have hbit := congrArg (fun x : BitVec 64 => x.getLsbD i) hzero
    simpa [getLsbD_bitOf hi (show i < 64 by omega)] using hbit
  · intro hfree
    refine BitVec.eq_of_getLsbD_eq fun j hj => ?_
    rw [BitVec.getLsbD_and, getLsbD_bitOf hi hj]
    by_cases hji : j = i
    · simp [hji, hfree]
    · by_cases hsign : i = 31 ∧ 31 ≤ j
      · obtain ⟨rfl, hle⟩ := hsign
        rw [h j hle hj, hfree, Bool.false_and]
        exact BitVec.getLsbD_zero.symm
      · simp [hji, hsign]

theorem Uniform.or_bitOf (h : Uniform m) (hi : i < 32) : Uniform (m ||| bitOf i) := by
  intro j hle hj
  rw [BitVec.getLsbD_or, BitVec.getLsbD_or, h j hle hj, getLsbD_bitOf hi hj,
    getLsbD_bitOf hi (by omega)]
  congr 2
  simp only [eq_iff_iff]
  omega

theorem Uniform.and_not_bitOf (h : Uniform m) (hi : i < 32) : Uniform (m &&& ~~~bitOf i) := by
  intro j hle hj
  have hlt : (31 : ℕ) < 64 := by omega
  rw [BitVec.getLsbD_and, BitVec.getLsbD_and, h j hle hj, BitVec.getLsbD_not, BitVec.getLsbD_not,
    getLsbD_bitOf hi hj, getLsbD_bitOf hi hlt]
  simp only [hj, hlt, decide_true, Bool.true_and]
  congr 3
  simp only [eq_iff_iff]
  omega

theorem marked_or_bitOf (hi : i < 32) : Marked (m ||| bitOf i) id ↔ Marked m id ∨ id = i + 1 := by
  unfold Marked
  by_cases hid : 1 ≤ id ∧ id ≤ 32
  · obtain ⟨hpos, hle⟩ := hid
    have hbit : (bitOf i).getLsbD (id - 1) = decide (id = i + 1) := by
      rw [getLsbD_bitOf hi (by omega)]
      congr 1
      simp only [eq_iff_iff]
      omega
    simp [hpos, hle, hbit]
  · have hne : id ≠ i + 1 := by omega
    have hout : ∀ P : Prop, ¬(1 ≤ id ∧ id ≤ 32 ∧ P) := fun P h => hid ⟨h.1, h.2.1⟩
    simp [hne, hout]

theorem marked_and_not_bitOf (hi : i < 32) :
    Marked (m &&& ~~~bitOf i) id ↔ Marked m id ∧ id ≠ i + 1 := by
  unfold Marked
  by_cases hid : 1 ≤ id ∧ id ≤ 32
  · obtain ⟨hpos, hle⟩ := hid
    have hbit : (bitOf i).getLsbD (id - 1) = decide (id = i + 1) := by
      rw [getLsbD_bitOf hi (by omega)]
      congr 1
      simp only [eq_iff_iff]
      omega
    have hlt : id - 1 < 64 := by omega
    simp only [hpos, hle, true_and, BitVec.getLsbD_and, BitVec.getLsbD_not, hbit, hlt, decide_true]
    simp
  · have hout : ∀ P : Prop, ¬(1 ≤ id ∧ id ≤ 32 ∧ P) := fun P h => hid ⟨h.1, h.2.1⟩
    simp [hout]

/-- A mask that is not full has a free bit below the sign. -/
theorem Uniform.exists_free (h : Uniform m) (hm : m ≠ -1) : ∃ i < 32, m.getLsbD i = false := by
  by_contra hall
  push Not at hall
  refine hm ?_
  have hones : (-1 : BitVec 64) = BitVec.allOnes 64 := by decide
  rw [hones]
  refine BitVec.eq_of_getLsbD_eq fun j hj => ?_
  rw [BitVec.getLsbD_allOnes, decide_eq_true hj]
  by_cases hlt : j < 32
  · simpa using hall j hlt
  · rw [h j (by omega) hj]
    simpa using hall 31 (by omega)

/-- The loop comes to a free bit before it comes to a shift that is too far. -/
theorem firstFree_spec (h : Uniform m) : ∀ {is : List ℕ}, is.Pairwise (· < ·) →
    (∃ i ∈ is, i < 32 ∧ m.getLsbD i = false) →
    ∃ i < 32, m.getLsbD i = false ∧ firstFree m is = some (some (i, bitOf i)) := by
  intro is
  induction is with
  | nil => rintro - ⟨i, hi, -⟩; exact absurd hi List.not_mem_nil
  | cons a is ih =>
    rintro hsorted ⟨i, hi, hlt, hfree⟩
    obtain ⟨ha, hsorted⟩ := List.pairwise_cons.mp hsorted
    have hle : a ≤ i := by
      rcases List.mem_cons.mp hi with rfl | hi
      · exact le_refl i
      · exact (ha i hi).le
    have ha32 : a < 32 := by omega
    unfold firstFree
    rw [shiftOne_of_lt ha32, Option.bind_some]
    change ∃ i < 32, m.getLsbD i = false ∧ (if m &&& bitOf a = 0 then
      some (some (a, bitOf a)) else firstFree m is) = some (some (i, bitOf i))
    by_cases hzero : m &&& bitOf a = 0
    · refine ⟨a, ha32, (h.and_bitOf_eq_zero_iff ha32).mp hzero, ?_⟩
      rw [if_pos hzero]
    · rw [if_neg hzero]
      refine ih hsorted ⟨i, ?_, hlt, hfree⟩
      rcases List.mem_cons.mp hi with rfl | hi
      · exact absurd ((h.and_bitOf_eq_zero_iff ha32).mpr hfree) hzero
      · exact hi

/-- A get of a stream with an id changes nothing. -/
theorem getOrdinaryInstance_of_marked (h : Uniform m) (hid : Marked m id) (input : Bool) :
    getOrdinaryInstance input m id = some ((id : ℤ), m, id) := by
  obtain ⟨hpos, hle, hbit⟩ := hid
  have hint : int32 id = id := int32_natCast_of_lt (by omega)
  have hne : (id : ℤ) ≠ 0 := by omega
  have hsub : (id : ℤ) - 1 = ((id - 1 : ℕ) : ℤ) := by omega
  have hset : ¬m &&& bitOf (id - 1) = 0 := by
    rw [h.and_bitOf_eq_zero_iff (by omega), hbit]
    decide
  unfold getOrdinaryInstance
  rw [hint, if_neg hne, hsub, shiftOne_of_lt (by omega)]
  change (if input = true then some ((id : ℤ), (if m &&& bitOf (id - 1) = 0 then
    m ||| bitOf (id - 1) else m), id) else some ((id : ℤ), m, id)) = some ((id : ℤ), m, id)
  rw [if_neg hset, ite_self]

theorem getOrdinaryInstance_of_full (input : Bool) :
    getOrdinaryInstance input (-1) 0 = some (-EINVAL, -1, 0) := by
  cases input <;> rfl

theorem getOrdinaryInstance_of_free (h : Uniform m) (hm : m ≠ -1) (input : Bool) :
    ∃ i < 32, m.getLsbD i = false ∧
      getOrdinaryInstance input m 0 = some ((i : ℤ) + 1, m ||| bitOf i, i + 1) := by
  obtain ⟨i, hi, hfree⟩ := h.exists_free hm
  have hmem : i ∈ List.range MAX_STREAM_INSTANCES :=
    List.mem_range.mpr (lt_trans hi (by decide))
  obtain ⟨i, hi, hfree, heq⟩ := firstFree_spec h List.pairwise_lt_range ⟨i, hmem, hi, hfree⟩
  refine ⟨i, hi, hfree, ?_⟩
  unfold getOrdinaryInstance
  have hzero : int32 ((0 : ℕ) : ℤ) = 0 := rfl
  rw [if_pos hzero, if_neg hm, heq]
  rfl

theorem resetOrdinaryInstance_of_le (hpos : 1 ≤ id) (hle : id ≤ 32) :
    resetOrdinaryInstance m id = some (m &&& ~~~bitOf (id - 1)) := by
  have hsub : (id : ℤ) - 1 = ((id - 1 : ℕ) : ℤ) := by omega
  unfold resetOrdinaryInstance
  rw [hsub, shiftOne_of_lt (by omega), Option.map_some, BitVec.signExtend_not (by decide)]
  rfl

end Mask

/-! ### The maps and the lists -/

section Lists

variable {n id : ℕ} {l : InstanceListNode_t}

theorem getAvailableNTStreamInstance_some {m m' : nonTunnelInstMap_t} {max_nt_sessions : ℤ}
    (h : getAvailableNTStreamInstance m max_nt_sessions = some (id, m')) :
    1 ≤ id ∧ (id : ℤ) ≤ max_nt_sessions ∧ m id ≠ some true ∧
      m' = Function.update m id (some true) := by
  obtain ⟨inst, hfind, heq⟩ := Option.map_eq_some_iff.mp h
  cases heq
  obtain ⟨hle, hlt⟩ := List.mem_range'_1.mp (List.mem_of_find?_eq_some hfind)
  unfold INSTANCE_1 at hle hlt
  exact ⟨hle, by omega, by simpa using List.find?_some hfind, rfl⟩

/-- Either all ids are in use, or one that is not is marked. -/
theorem takeInstance_spec : ∀ {n : ℕ} {l : InstanceListNode_t}, l.length = n →
    (l.map Prod.fst).Nodup → (∀ e ∈ l, e.1 ≠ 0) →
    ∃ r, takeInstance n l = some r ∧ r.2.map Prod.fst = l.map Prod.fst ∧
      (r.1 = 0 ∧ r.2 = l ∨ r.1 ≠ 0 ∧ r.1 ∈ l.map Prod.fst ∧ (r.1, true) ∉ l ∧
        ∀ i, (i, true) ∈ r.2 ↔ (i, true) ∈ l ∨ i = r.1) := by
  intro n
  induction n with
  | zero =>
    intro l hl _ _
    exact ⟨(0, l), by rw [List.length_eq_zero_iff.mp hl]; rfl, rfl, Or.inl ⟨rfl, rfl⟩⟩
  | succ n ih =>
    intro l hl hnodup hne
    obtain ⟨⟨i, used⟩, l, rfl⟩ := List.exists_cons_of_length_eq_add_one hl
    rw [List.map_cons, List.nodup_cons] at hnodup
    obtain ⟨hnot, hnodup⟩ := hnodup
    have hi : i ≠ 0 := hne (i, used) List.mem_cons_self
    cases used with
    | false =>
      have hfree : (i, true) ∉ l := fun hmem => hnot (List.mem_map.mpr ⟨(i, true), hmem, rfl⟩)
      refine ⟨(i, (i, true) :: l), rfl, rfl, Or.inr ⟨hi, by simp, by simpa using hfree, ?_⟩⟩
      intro j
      simp [or_comm]
    | true =>
      obtain ⟨r, hr, hfst, hcase⟩ := ih (by simpa using hl) hnodup
        (fun e he => hne e (List.mem_cons_of_mem _ he))
      refine ⟨(r.1, (i, true) :: r.2), by simp [takeInstance, hr], by simp [hfst], ?_⟩
      rcases hcase with ⟨hzero, heq⟩ | ⟨hpos, hmem, hfree, htaken⟩
      · exact Or.inl ⟨hzero, by rw [heq]⟩
      · refine Or.inr ⟨hpos, List.mem_cons_of_mem _ hmem, ?_, fun j => ?_⟩
        · simp only [List.mem_cons, Prod.mk.injEq, and_true, not_or]
          exact ⟨fun he => hnot (he ▸ hmem), hfree⟩
        · simp only [List.mem_cons, Prod.mk.injEq, and_true, htaken, or_assoc]

theorem releaseInstance_spec (id : ℕ) : ∀ {n : ℕ} {l : InstanceListNode_t}, l.length = n →
    (l.map Prod.fst).Nodup →
    ∃ l', releaseInstance id n l = some l' ∧ l'.map Prod.fst = l.map Prod.fst ∧
      ∀ i, (i, true) ∈ l' ↔ (i, true) ∈ l ∧ i ≠ id := by
  intro n
  induction n with
  | zero =>
    intro l hl _
    exact ⟨l, by rw [List.length_eq_zero_iff.mp hl]; rfl, rfl,
      by simp [List.length_eq_zero_iff.mp hl]⟩
  | succ n ih =>
    intro l hl hnodup
    obtain ⟨⟨i, used⟩, l, rfl⟩ := List.exists_cons_of_length_eq_add_one hl
    rw [List.map_cons, List.nodup_cons] at hnodup
    obtain ⟨hnot, hnodup⟩ := hnodup
    by_cases hi : i = id
    · subst hi
      refine ⟨(i, false) :: l, by simp [releaseInstance], rfl, fun j => ?_⟩
      have hne : (j, true) ∈ l → j ≠ i := by
        rintro hmem rfl
        exact hnot (List.mem_map.mpr ⟨_, hmem, rfl⟩)
      simp only [List.mem_cons, Prod.mk.injEq, Bool.true_eq_false, and_false, false_or]
      constructor
      · exact fun hmem => ⟨Or.inr hmem, hne hmem⟩
      · rintro ⟨⟨hj, -⟩ | hmem, hji⟩
        · exact absurd hj hji
        · exact hmem
    · obtain ⟨l', hl', hfst, htaken⟩ := ih (by simpa using hl) hnodup
      refine ⟨(i, used) :: l', by simp [releaseInstance, hi, hl'], by simp [hfst], fun j => ?_⟩
      simp only [List.mem_cons, htaken, Prod.mk.injEq]
      constructor
      · rintro (⟨rfl, hu⟩ | ⟨hmem, hj⟩)
        · exact ⟨Or.inl ⟨rfl, hu⟩, hi⟩
        · exact ⟨Or.inr hmem, hj⟩
      · rintro ⟨⟨rfl, hu⟩ | hmem, hj⟩
        · exact Or.inl ⟨rfl, hu⟩
        · exact Or.inr ⟨hmem, hj⟩

end Lists

/-! ### Ids on loan -/

/-- Streams of one kind are told apart by their ids. -/
inductive Kind where
  | ordinary (type : pal_stream_type_t) (input : Bool)
  | nonTunnel (path : NTPath)
  | voiceUI (streamSelector : String)
  deriving DecidableEq, Repr

/-- The kind of a stream; without attributes or without a selector it has none. -/
def InstanceConfig.kind (cfg : InstanceConfig) (s : StreamId) : Option Kind :=
  (cfg.getStreamAttributes s).bind fun attr =>
    match attr.type with
    | PAL_STREAM_VOICE_UI =>
      if attr.streamSelector = "" then none else some (.voiceUI attr.streamSelector)
    | PAL_STREAM_NON_TUNNEL => some (.nonTunnel (getNTPathForStreamAttr attr))
    | type => some (.ordinary type (attr.direction = PAL_AUDIO_INPUT))

/-- The greatest id of a kind. -/
def InstanceConfig.maxId (cfg : InstanceConfig) : Kind → ℤ
  | .ordinary _ _ => MAX_STREAM_INSTANCES
  | .nonTunnel _ => cfg.max_nt_sessions
  | .voiceUI _ => cfg.max_session_num

namespace InstanceIds

/-- The id is marked as in use. -/
def taken (σ : InstanceIds) : Kind → ℕ → Prop
  | .ordinary type input, id => Marked (σ.mask type input) id
  | .nonTunnel path, id => σ.mNTStreamInstancesList path id = some true
  | .voiceUI streamSelector, id =>
    ∃ l, σ.STInstancesLists streamSelector = some l ∧ (id, true) ∈ l

/-- The stream holds the id: it is in the stream, or it was given to the stream's caller. -/
def holds (cfg : InstanceConfig) (σ : InstanceIds) (s : StreamId) (id : ℕ) : Prop :=
  match cfg.kind s with
  | none => False
  | some (.voiceUI _) => (s, id) ∈ σ.given
  | some _ => id ≠ 0 ∧ σ.mInstanceID s = id

def leases (cfg : InstanceConfig) (σ : InstanceIds) : Leases StreamId Kind ℕ where
  taken := σ.taken
  holds := σ.holds cfg

/-! ### The calls by kind -/

/-- A get of a stream of the kind. -/
def getOfKind (cfg : InstanceConfig) (σ : InstanceIds) (s : StreamId) :
    Kind → Option (ℤ × InstanceIds)
  | .ordinary type input =>
    (getOrdinaryInstance input (σ.mask type input) (σ.mInstanceID s)).map fun r =>
      (r.1, (σ.setMask type input r.2.1).setInstanceId s r.2.2)
  | .nonTunnel path => some (σ.getNonTunnel cfg s path)
  | .voiceUI streamSelector => σ.getVoiceUI cfg s streamSelector

/-- A reset of a stream of the kind. -/
def resetOfKind (cfg : InstanceConfig) (σ : InstanceIds) (s : StreamId) (sInstanceID : ℕ) :
    Kind → Option InstanceIds
  | .ordinary type input => (resetOrdinaryInstance (σ.mask type input) sInstanceID).map fun m =>
    (σ.setMask type input m).setInstanceId s 0
  | .nonTunnel path => some (σ.resetNonTunnel s path)
  | .voiceUI streamSelector => σ.resetVoiceUI cfg s streamSelector sInstanceID

section Calls

variable {cfg : InstanceConfig} {σ : InstanceIds} {s : StreamId} {id : ℕ} {k : Kind}

theorem getStreamInstanceID_of_none (h : cfg.kind s = none) :
    ∃ r ≤ 0, σ.getStreamInstanceID cfg s = some (r, σ) := by
  unfold getStreamInstanceID
  unfold InstanceConfig.kind at h
  cases hattr : cfg.getStreamAttributes s with
  | none => exact ⟨-EINVAL, by decide, rfl⟩
  | some attr =>
    rw [hattr, Option.bind_some] at h
    dsimp only
    split at h
    · -- a voice UI stream without a selector
      refine ⟨0, by decide, ?_⟩
      split_ifs at h with hempty
      rw [getVoiceUI, if_pos hempty]
    · cases h
    · cases h

theorem getStreamInstanceID_of_some (h : cfg.kind s = some k) :
    σ.getStreamInstanceID cfg s = σ.getOfKind cfg s k := by
  unfold getStreamInstanceID
  unfold InstanceConfig.kind at h
  cases hattr : cfg.getStreamAttributes s with
  | none =>
    rw [hattr] at h
    cases h
  | some attr =>
    rw [hattr, Option.bind_some] at h
    dsimp only
    split at h
    · split_ifs at h
      cases h
      rfl
    · cases h
      rfl
    · cases h
      rfl

theorem resetStreamInstanceID_of_none (h : cfg.kind s = none) :
    ∃ r, σ.resetStreamInstanceID cfg s id = some (r, σ) := by
  unfold resetStreamInstanceID
  unfold InstanceConfig.kind at h
  by_cases hid : id < INSTANCE_1
  · exact ⟨-EINVAL, if_pos hid⟩
  · rw [if_neg hid]
    cases hattr : cfg.getStreamAttributes s with
    | none => exact ⟨-EINVAL, rfl⟩
    | some attr =>
      rw [hattr, Option.bind_some] at h
      dsimp only
      split at h
      · split_ifs at h with hempty
        exact ⟨0, by rw [resetVoiceUI, if_pos hempty]; rfl⟩
      · cases h
      · cases h

theorem resetStreamInstanceID_of_some (hid : 1 ≤ id) (h : cfg.kind s = some k) :
    σ.resetStreamInstanceID cfg s id =
      (σ.resetOfKind cfg s id k).map fun σ' => ((0 : ℤ), σ') := by
  unfold resetStreamInstanceID
  unfold InstanceConfig.kind at h
  have hvalid : ¬id < INSTANCE_1 := Nat.not_lt.mpr hid
  rw [if_neg hvalid]
  cases hattr : cfg.getStreamAttributes s with
  | none =>
    rw [hattr] at h
    cases h
  | some attr =>
    rw [hattr, Option.bind_some] at h
    dsimp only
    split at h
    · split_ifs at h
      cases h
      rfl
    · cases h
      rfl
    · cases h
      simp only [resetOfKind, Option.map_map, Function.comp_def]

end Calls

/-! ### What a call does to the ids

A call keeps the masks, the maps and the lists `Formed`. A get takes at most one id, which was free,
and a reset of an id that is held gives back that one.
-/

section Steps

variable {cfg : InstanceConfig} {σ σ' : InstanceIds} {s t : StreamId} {id : ℕ} {k : Kind}
  {type : pal_stream_type_t} {input : Bool} {m : BitVec 64}

theorem mask_setMask (type' : pal_stream_type_t) (input' : Bool) :
    (σ.setMask type input m).mask type' input' =
      if Kind.ordinary type' input' = .ordinary type input then m else σ.mask type' input' := by
  cases input <;> cases input' <;> by_cases h : type' = type <;>
    simp [setMask, mask, h]

theorem setMask_self : σ.setMask type input (σ.mask type input) = σ := by
  cases input <;> simp [setMask, mask]

theorem setInstanceId_self : σ.setInstanceId s (σ.mInstanceID s) = σ := by
  simp [setInstanceId]

theorem taken_setMask (i : ℕ) :
    ((σ.setMask type input m).setInstanceId s id).taken k i ↔
      if k = .ordinary type input then Marked m i else σ.taken k i := by
  cases k with
  | ordinary type' input' =>
    change Marked ((σ.setMask type input m).mask type' input') i ↔ _
    rw [mask_setMask]
    split <;> rfl
  | nonTunnel path => cases input <;> rfl
  | voiceUI streamSelector => cases input <;> rfl

/-- A stream of these kinds has its id itself. -/
theorem holds_of_own (hk : cfg.kind s = some k) (hown : ∀ sel, k ≠ .voiceUI sel) :
    σ.holds cfg s id ↔ id ≠ 0 ∧ σ.mInstanceID s = id := by
  unfold holds
  rw [hk]
  cases k with
  | ordinary type input => rfl
  | nonTunnel path => rfl
  | voiceUI sel => exact absurd rfl (hown sel)

theorem holds_of_voiceUI {sel : String} (hk : cfg.kind s = some (.voiceUI sel)) :
    σ.holds cfg s id ↔ (s, id) ∈ σ.given := by
  unfold holds
  rw [hk]

theorem holds_congr (hid : σ'.mInstanceID s = σ.mInstanceID s)
    (hgiven : (s, id) ∈ σ'.given ↔ (s, id) ∈ σ.given) :
    σ'.holds cfg s id ↔ σ.holds cfg s id := by
  unfold holds
  rw [hid]
  split
  · rfl
  · exact hgiven
  · rfl

/-- The stream's id becomes the one it is told, and the others keep theirs. -/
theorem holds_told (hk : cfg.kind s = some k) (hown : ∀ sel, k ≠ .voiceUI sel)
    (hid : σ'.mInstanceID = Function.update σ.mInstanceID s id) (hgiven : σ'.given = σ.given)
    (u : StreamId) (i : ℕ) :
    σ'.holds cfg u i ↔ if u = s then i ≠ 0 ∧ id = i else σ.holds cfg u i := by
  by_cases hu : u = s
  · subst hu
    rw [if_pos rfl, holds_of_own hk hown, hid, Function.update_self]
  · rw [if_neg hu]
    exact holds_congr (by rw [hid, Function.update_of_ne hu]) (by rw [hgiven])

/-- The marks and the ids that are handed out fit the limits. -/
structure Formed (cfg : InstanceConfig) (σ : InstanceIds) : Prop where
  mask : ∀ type input, Uniform (σ.mask type input)
  path : ∀ path id, σ.mNTStreamInstancesList path id = some true →
    1 ≤ id ∧ (id : ℤ) ≤ cfg.max_nt_sessions
  selector : ∀ sel l, σ.STInstancesLists sel = some l →
    l.map Prod.fst = List.range' 1 cfg.max_session_num.toNat
  given : σ.given.Nodup

/-- What a get does: it gives no id, or the one that the stream has, or one that was free. -/
inductive Got (cfg : InstanceConfig) (s : StreamId) (σ σ' : InstanceIds) : ℤ → Prop
  | refused (r : ℤ) (hr : r ≤ 0) (hsame : Leases.Same (σ.leases cfg) (σ'.leases cfg))
      (hfailed : r < 0 → σ' = σ) : Got cfg s σ σ' r
  | kept (id : ℕ) (hheld : σ.holds cfg s id) (hsame : σ' = σ) : Got cfg s σ σ' id
  | fresh (id : ℕ) (hpos : 1 ≤ id)
      (hacquire : Leases.Acquire cfg.kind s id (σ.leases cfg) (σ'.leases cfg)) : Got cfg s σ σ' id

theorem Got.exclusive {r : ℤ} (h : Got cfg s σ σ' r)
    (hex : Leases.Exclusive cfg.kind (σ.leases cfg)) :
    Leases.Exclusive cfg.kind (σ'.leases cfg) := by
  cases h with
  | refused r hr hsame hfailed => exact hex.same hsame
  | kept id hheld hsame => exact hsame ▸ hex
  | fresh id hpos hacquire => exact hex.acquire hacquire

/-- A stream without an id is told one that was free for its kind. -/
theorem acquire_of_told (hk : cfg.kind s = some k) (hown : ∀ sel, k ≠ .voiceUI sel) (hpos : 1 ≤ id)
    (hzero : σ.mInstanceID s = 0) (hfree : ¬σ.taken k id)
    (htaken : ∀ k' i, σ'.taken k' i ↔ if k' = k then σ.taken k i ∨ i = id else σ.taken k' i)
    (hid : σ'.mInstanceID = Function.update σ.mInstanceID s id) (hgiven : σ'.given = σ.given) :
    Leases.Acquire cfg.kind s id (σ.leases cfg) (σ'.leases cfg) where
  free k' hk' := by
    rw [hk] at hk'
    cases hk'
    exact hfree
  taken k' i := by
    refine (htaken k' i).trans ?_
    rw [hk]
    by_cases hkind : k' = k
    · subst hkind
      simp [leases]
    · simp [leases, hkind, Ne.symm hkind]
  holds u i := by
    refine (holds_told hk hown hid hgiven u i).trans ?_
    by_cases hu : u = s
    · subst hu
      have hnone : ¬σ.holds cfg u i := fun hold => by
        obtain ⟨hne, heq⟩ := (holds_of_own hk hown).mp hold
        exact hne (heq ▸ hzero)
      simp only [if_true, leases, hnone, true_and, false_or]
      omega
    · simp [leases, hu]
  known := by simp [hk]

/-- A stream with an id is told that it has none. -/
theorem release_of_told (hk : cfg.kind s = some k) (hown : ∀ sel, k ≠ .voiceUI sel)
    (hheld : σ.holds cfg s id)
    (htaken : ∀ k' i, σ'.taken k' i ↔ if k' = k then σ.taken k i ∧ i ≠ id else σ.taken k' i)
    (hid : σ'.mInstanceID = Function.update σ.mInstanceID s 0) (hgiven : σ'.given = σ.given) :
    Leases.Release cfg.kind s id (σ.leases cfg) (σ'.leases cfg) where
  taken k' i := by
    refine (htaken k' i).trans ?_
    rw [hk]
    by_cases hkind : k' = k
    · subst hkind
      simp [leases]
    · simp [leases, hkind, Ne.symm hkind]
  holds u i := by
    refine (holds_told hk hown hid hgiven u i).trans ?_
    by_cases hu : u = s
    · subst hu
      have hown_iff : σ.holds cfg u i ↔ i = id := by
        obtain ⟨hne, heq⟩ := (holds_of_own hk hown).mp hheld
        rw [holds_of_own hk hown]
        omega
      simp only [if_true, leases, hown_iff, true_and, and_not_self_iff, iff_false]
      omega
    · simp [leases, hu]
  held := hheld

theorem Formed.setMask (h : Formed cfg σ) (hm : Uniform m) :
    Formed cfg ((σ.setMask type input m).setInstanceId s id) where
  mask type' input' := by
    change Uniform ((σ.setMask type input m).mask type' input')
    rw [mask_setMask]
    split
    · exact hm
    · exact h.mask type' input'
  path := by cases input <;> exact h.path
  selector := by cases input <;> exact h.selector
  given := by cases input <;> exact h.given

theorem getOfKind_ordinary (h : Formed cfg σ) (hex : Leases.Exclusive cfg.kind (σ.leases cfg))
    (hk : cfg.kind s = some (.ordinary type input)) :
    ∃ r σ', σ.getOfKind cfg s (.ordinary type input) = some (r, σ') ∧ Formed cfg σ' ∧
      Got cfg s σ σ' r := by
  have hown : ∀ sel, Kind.ordinary type input ≠ .voiceUI sel := fun sel hne => by cases hne
  have hself : (σ.setMask type input (σ.mask type input)).setInstanceId s (σ.mInstanceID s) =
      σ := by rw [setMask_self, setInstanceId_self]
  unfold getOfKind
  dsimp only
  by_cases hid : σ.mInstanceID s = 0
  · by_cases hfull : σ.mask type input = -1
    · -- all ids are taken
      refine ⟨-EINVAL, σ, ?_, h, .refused _ (by decide) (Leases.Same.refl _) fun _ => rfl⟩
      have hget := getOrdinaryInstance_of_full input
      rw [← hfull, ← hid] at hget
      rw [hget, Option.map_some, hself]
    · obtain ⟨i, hi, hfree, hget⟩ := getOrdinaryInstance_of_free (h.mask type input) hfull input
      rw [hid, hget, Option.map_some]
      refine ⟨((i + 1 : ℕ) : ℤ), _, rfl, h.setMask ((h.mask type input).or_bitOf hi), ?_⟩
      refine .fresh (i + 1) (by omega) (acquire_of_told hk hown (by omega) hid ?_ ?_ ?_ ?_)
      · rintro ⟨-, -, hmarked⟩
        rw [Nat.add_sub_cancel, hfree] at hmarked
        cases hmarked
      · intro k' i'
        rw [taken_setMask, marked_or_bitOf hi]
        rfl
      · cases input <;> rfl
      · cases input <;> rfl
  · -- the stream has an id
    have hheld : σ.holds cfg s (σ.mInstanceID s) := (holds_of_own hk hown).mpr ⟨hid, rfl⟩
    have hmarked : Marked (σ.mask type input) (σ.mInstanceID s) := hex.taken_of_kind hk hheld
    refine ⟨(σ.mInstanceID s : ℤ), σ, ?_, h, .kept _ hheld rfl⟩
    rw [getOrdinaryInstance_of_marked (h.mask type input) hmarked, Option.map_some, hself]

theorem resetOfKind_ordinary (h : Formed cfg σ) (hex : Leases.Exclusive cfg.kind (σ.leases cfg))
    (hk : cfg.kind s = some (.ordinary type input)) (hheld : σ.holds cfg s id) :
    ∃ σ', σ.resetOfKind cfg s id (.ordinary type input) = some σ' ∧ Formed cfg σ' ∧
      Leases.Release cfg.kind s id (σ.leases cfg) (σ'.leases cfg) := by
  have hown : ∀ sel, Kind.ordinary type input ≠ .voiceUI sel := fun sel hne => by cases hne
  obtain ⟨hpos, hle, -⟩ : Marked (σ.mask type input) id := hex.taken_of_kind hk hheld
  have hlt : id - 1 < 32 := by omega
  unfold resetOfKind
  dsimp only
  rw [resetOrdinaryInstance_of_le hpos hle, Option.map_some]
  refine ⟨_, rfl, h.setMask ((h.mask type input).and_not_bitOf hlt), ?_⟩
  refine release_of_told hk hown hheld ?_ ?_ ?_
  · intro k' i
    rw [taken_setMask, marked_and_not_bitOf hlt, Nat.sub_add_cancel hpos]
    rfl
  · cases input <;> rfl
  · cases input <;> rfl

theorem taken_setPath {path : NTPath} {m : nonTunnelInstMap_t} {ids : StreamId → ℕ} (i : ℕ) :
    ({ σ with mNTStreamInstancesList := Function.update σ.mNTStreamInstancesList path m
              mInstanceID := ids } : InstanceIds).taken k i ↔
      if k = .nonTunnel path then m i = some true else σ.taken k i := by
  cases k with
  | ordinary type' input' => rfl
  | nonTunnel path' =>
    by_cases hpath : path' = path
    · simp [taken, hpath]
    · simp [taken, hpath]
  | voiceUI streamSelector => rfl

theorem Formed.setPath {path : NTPath} {m : nonTunnelInstMap_t} {ids : StreamId → ℕ}
    (h : Formed cfg σ) (hm : ∀ id, m id = some true → 1 ≤ id ∧ (id : ℤ) ≤ cfg.max_nt_sessions) :
    Formed cfg { σ with mNTStreamInstancesList := Function.update σ.mNTStreamInstancesList path m
                        mInstanceID := ids } where
  mask := h.mask
  path path' id := by
    by_cases hpath : path' = path
    · subst hpath
      simpa using hm id
    · simpa [hpath] using h.path path' id
  selector := h.selector
  given := h.given

theorem getOfKind_nonTunnel {path : NTPath} (h : Formed cfg σ)
    (hk : cfg.kind s = some (.nonTunnel path)) :
    ∃ r σ', σ.getOfKind cfg s (.nonTunnel path) = some (r, σ') ∧ Formed cfg σ' ∧
      Got cfg s σ σ' r := by
  have hown : ∀ sel, Kind.nonTunnel path ≠ .voiceUI sel := fun sel hne => by cases hne
  unfold getOfKind getNonTunnel
  dsimp only
  by_cases hid : σ.mInstanceID s = 0
  · rw [if_pos hid]
    cases hget : getAvailableNTStreamInstance (σ.mNTStreamInstancesList path) cfg.max_nt_sessions with
    | none => exact ⟨-EINVAL, σ, rfl, h, .refused _ (by decide) (Leases.Same.refl _) fun _ => rfl⟩
    | some r =>
      obtain ⟨inst, m⟩ := r
      obtain ⟨hpos, hle, hfree, rfl⟩ := getAvailableNTStreamInstance_some hget
      refine ⟨(inst : ℤ), _, rfl, h.setPath fun i hi => ?_, .fresh inst hpos ?_⟩
      · by_cases hinst : i = inst
        · exact hinst ▸ ⟨hpos, hle⟩
        · rw [Function.update_of_ne hinst] at hi
          exact h.path path i hi
      · refine acquire_of_told hk hown hpos hid hfree (fun k' i => ?_) rfl rfl
        rw [taken_setPath]
        by_cases hinst : i = inst
        · simp [hinst]
        · simp only [Function.update_of_ne hinst, hinst, or_false]
          rfl
  · rw [if_neg hid]
    exact ⟨0, σ, rfl, h, .refused _ (Int.le_refl 0) (Leases.Same.refl _) fun _ => rfl⟩

theorem resetOfKind_nonTunnel {path : NTPath} (h : Formed cfg σ)
    (hex : Leases.Exclusive cfg.kind (σ.leases cfg)) (hk : cfg.kind s = some (.nonTunnel path))
    (hheld : σ.holds cfg s id) :
    ∃ σ', σ.resetOfKind cfg s id (.nonTunnel path) = some σ' ∧ Formed cfg σ' ∧
      Leases.Release cfg.kind s id (σ.leases cfg) (σ'.leases cfg) := by
  have hown : ∀ sel, Kind.nonTunnel path ≠ .voiceUI sel := fun sel hne => by cases hne
  obtain ⟨hne, hid⟩ := (holds_of_own hk hown).mp hheld
  have htaken : σ.mNTStreamInstancesList path id = some true := hex.taken_of_kind hk hheld
  unfold resetOfKind resetNonTunnel
  dsimp only
  rw [hid, htaken, Option.isSome_some, if_pos rfl]
  refine ⟨_, rfl, h.setPath fun i hi => ?_, ?_⟩
  · by_cases hi' : i = id
    · rw [hi', Function.update_self] at hi
      cases hi
    · rw [Function.update_of_ne hi'] at hi
      exact h.path path i hi
  · refine release_of_told hk hown hheld (fun k' i => ?_) rfl rfl
    rw [taken_setPath]
    by_cases hi : i = id
    · simp [hi]
    · simp only [Function.update_of_ne hi, hi, ne_eq, not_false_eq_true, and_true]
      rfl

theorem taken_setSelector {sel : String} {l : InstanceListNode_t} {given : List (StreamId × ℕ)}
    (i : ℕ) :
    ({ σ with STInstancesLists := Function.update σ.STInstancesLists sel (some l)
              given := given } : InstanceIds).taken k i ↔
      if k = .voiceUI sel then (i, true) ∈ l else σ.taken k i := by
  cases k with
  | ordinary type' input' => rfl
  | nonTunnel path => rfl
  | voiceUI sel' =>
    by_cases hsel : sel' = sel
    · simp [taken, hsel]
    · simp [taken, hsel]

theorem Formed.setSelector {sel : String} {l : InstanceListNode_t} {given : List (StreamId × ℕ)}
    (h : Formed cfg σ) (hl : l.map Prod.fst = List.range' 1 cfg.max_session_num.toNat)
    (hgiven : given.Nodup) :
    Formed cfg { σ with STInstancesLists := Function.update σ.STInstancesLists sel (some l)
                        given := given } where
  mask := h.mask
  path := h.path
  selector sel' l' := by
    by_cases hsel : sel' = sel
    · subst hsel
      intro hl'
      replace hl' : Function.update σ.STInstancesLists sel' (some l) sel' = some l' := hl'
      rw [Function.update_self] at hl'
      cases hl'
      exact hl
    · simpa [hsel] using h.selector sel' l'
  given := hgiven

theorem Formed.map_selectorList (h : Formed cfg σ) (sel : String) :
    (σ.selectorList cfg sel).map Prod.fst = List.range' 1 cfg.max_session_num.toNat := by
  unfold selectorList
  cases hl : σ.STInstancesLists sel with
  | none => simp [Function.comp_def]
  | some l => exact h.selector sel l hl

theorem mem_selectorList {sel : String} :
    (id, true) ∈ σ.selectorList cfg sel ↔ σ.taken (.voiceUI sel) id := by
  unfold selectorList taken
  cases hl : σ.STInstancesLists sel with
  | none => simp [hl]
  | some l => simp [hl]

/-- The entries of a selector's list are distinct, and none is zero. -/
theorem length_of_range' {l : InstanceListNode_t} {n : ℕ} (hl : l.map Prod.fst = List.range' 1 n) :
    l.length = n ∧ (l.map Prod.fst).Nodup ∧ ∀ e ∈ l, e.1 ≠ 0 := by
  refine ⟨?_, hl ▸ List.nodup_range', fun e he => ?_⟩
  · simpa using congrArg List.length hl
  · have hmem : e.1 ∈ List.range' 1 n := hl ▸ List.mem_map_of_mem he
    have := (List.mem_range'_1.mp hmem).1
    omega

theorem getOfKind_voiceUI {sel : String} (h : Formed cfg σ)
    (hex : Leases.Exclusive cfg.kind (σ.leases cfg)) (hsel : sel ≠ "")
    (hk : cfg.kind s = some (.voiceUI sel)) :
    ∃ r σ', σ.getOfKind cfg s (.voiceUI sel) = some (r, σ') ∧ Formed cfg σ' ∧
      Got cfg s σ σ' r := by
  obtain ⟨hlength, hnodup, hne⟩ := length_of_range' (h.map_selectorList sel)
  obtain ⟨⟨inst, l⟩, htake, hfst, hcase⟩ := takeInstance_spec hlength hnodup hne
  have hl : l.map Prod.fst = List.range' 1 cfg.max_session_num.toNat :=
    hfst.trans (h.map_selectorList sel)
  unfold getOfKind getVoiceUI
  dsimp only
  rw [if_neg hsel, htake, Option.map_some]
  dsimp only at hcase ⊢
  rcases hcase with ⟨rfl, rfl⟩ | ⟨hinst, hmem, hfree, hmarks⟩
  · -- every id of the selector is in use
    rw [if_pos rfl]
    refine ⟨0, _, rfl, h.setSelector hl h.given, ?_⟩
    refine .refused _ (Int.le_refl 0) ⟨fun k i => ?_, fun u i => ?_⟩ ?_
    · refine (taken_setSelector i).trans ?_
      split
      next hk' => rw [hk', mem_selectorList]; rfl
      next => rfl
    · exact holds_congr rfl Iff.rfl
    · exact fun hlt => absurd hlt (by decide)
  · rw [if_neg hinst]
    have hfree' : ¬σ.taken (.voiceUI sel) inst := fun ht => hfree (mem_selectorList.mpr ht)
    have hnew : (s, inst) ∉ σ.given := by
      intro hgiven
      exact hfree' (hex.taken_of_kind hk ((holds_of_voiceUI hk).mpr hgiven))
    refine ⟨(inst : ℤ), _, rfl, h.setSelector hl (List.nodup_cons.mpr ⟨hnew, h.given⟩), ?_⟩
    have hpos : 1 ≤ inst := Nat.pos_of_ne_zero hinst
    refine .fresh inst hpos ⟨fun k' hk' => ?_, fun k' i => ?_, fun u i => ?_, ?_⟩
    · rw [hk] at hk'
      cases hk'
      exact hfree'
    · refine (taken_setSelector i).trans ?_
      rw [hk]
      by_cases hkind : k' = .voiceUI sel
      · subst hkind
        rw [if_pos rfl, hmarks, mem_selectorList]
        simp [leases]
      · simp [leases, hkind, Ne.symm hkind]
    · by_cases hu : u = s
      · subst hu
        refine (holds_of_voiceUI hk).trans ?_
        rw [List.mem_cons, ← holds_of_voiceUI hk, or_comm]
        simp [leases]
      · simp only [hu, false_and, or_false]
        exact holds_congr rfl (by simp [hu])
    · simp [hk]

theorem resetOfKind_voiceUI {sel : String} (h : Formed cfg σ)
    (hex : Leases.Exclusive cfg.kind (σ.leases cfg)) (hsel : sel ≠ "")
    (hk : cfg.kind s = some (.voiceUI sel)) (hheld : σ.holds cfg s id) :
    ∃ σ', σ.resetOfKind cfg s id (.voiceUI sel) = some σ' ∧ Formed cfg σ' ∧
      Leases.Release cfg.kind s id (σ.leases cfg) (σ'.leases cfg) := by
  obtain ⟨l, hl, -⟩ : σ.taken (.voiceUI sel) id := hex.taken_of_kind hk hheld
  obtain ⟨hlength, hnodup, -⟩ := length_of_range' (h.selector sel l hl)
  obtain ⟨l', hrelease, hfst, hmarks⟩ := releaseInstance_spec id hlength hnodup
  unfold resetOfKind resetVoiceUI
  dsimp only
  rw [if_neg hsel, hl]
  dsimp only
  rw [hrelease, Option.map_some]
  refine ⟨_, rfl, h.setSelector (hfst.trans (h.selector sel l hl)) (h.given.erase _), ?_, ?_, hheld⟩
  · intro k' i
    refine (taken_setSelector i).trans ?_
    rw [hk]
    by_cases hkind : k' = .voiceUI sel
    · subst hkind
      rw [if_pos rfl, hmarks]
      simp [leases, taken, hl]
    · simp [leases, hkind, Ne.symm hkind]
  · intro u i
    by_cases hu : u = s
    · subst hu
      refine (holds_of_voiceUI hk).trans ?_
      rw [h.given.mem_erase_iff, ← holds_of_voiceUI hk, and_comm]
      simp [leases]
    · simp only [hu, false_and, not_false_eq_true, and_true]
      refine holds_congr rfl ?_
      rw [h.given.mem_erase_iff]
      simp [hu]

theorem ne_empty_of_kind {sel : String} (hk : cfg.kind s = some (.voiceUI sel)) : sel ≠ "" := by
  unfold InstanceConfig.kind at hk
  obtain ⟨attr, -, hattr⟩ := Option.bind_eq_some_iff.mp hk
  split at hattr
  · split_ifs at hattr with hempty
    cases hattr
    exact hempty
  · cases hattr
  · cases hattr

theorem getStreamInstanceID_spec (h : Formed cfg σ)
    (hex : Leases.Exclusive cfg.kind (σ.leases cfg)) (s : StreamId) :
    ∃ r σ', σ.getStreamInstanceID cfg s = some (r, σ') ∧ Formed cfg σ' ∧ Got cfg s σ σ' r := by
  cases hk : cfg.kind s with
  | none =>
    obtain ⟨r, hr, hget⟩ := σ.getStreamInstanceID_of_none hk
    exact ⟨r, σ, hget, h, .refused r hr (Leases.Same.refl _) fun _ => rfl⟩
  | some k =>
    rw [getStreamInstanceID_of_some hk]
    cases k with
    | ordinary type input => exact getOfKind_ordinary h hex hk
    | nonTunnel path => exact getOfKind_nonTunnel h hk
    | voiceUI sel => exact getOfKind_voiceUI h hex (ne_empty_of_kind hk) hk

theorem resetStreamInstanceID_spec (h : Formed cfg σ)
    (hex : Leases.Exclusive cfg.kind (σ.leases cfg)) (hpos : 1 ≤ id)
    (hheld : σ.holds cfg s id) :
    ∃ σ', σ.resetStreamInstanceID cfg s id = some (0, σ') ∧ Formed cfg σ' ∧
      Leases.Release cfg.kind s id (σ.leases cfg) (σ'.leases cfg) := by
  obtain ⟨k, hk, -⟩ := hex.taken s id hheld
  obtain ⟨σ', hreset, hspec⟩ : ∃ σ', σ.resetOfKind cfg s id k = some σ' ∧ Formed cfg σ' ∧
      Leases.Release cfg.kind s id (σ.leases cfg) (σ'.leases cfg) := by
    cases k with
    | ordinary type input => exact resetOfKind_ordinary h hex hk hheld
    | nonTunnel path => exact resetOfKind_nonTunnel h hex hk hheld
    | voiceUI sel => exact resetOfKind_voiceUI h hex (ne_empty_of_kind hk) hk hheld
  refine ⟨σ', ?_, hspec⟩
  rw [resetStreamInstanceID_of_some hpos hk, hreset, Option.map_some]

theorem taken_le (h : Formed cfg σ) (ht : σ.taken k id) : 1 ≤ id ∧ (id : ℤ) ≤ cfg.maxId k := by
  cases k with
  | ordinary type input =>
    obtain ⟨hpos, hle, -⟩ := ht
    refine ⟨hpos, ?_⟩
    change (id : ℤ) ≤ 64
    omega
  | nonTunnel path => exact h.path path id ht
  | voiceUI sel =>
    obtain ⟨l, hl, hmem⟩ := ht
    have hid : id ∈ List.range' 1 cfg.max_session_num.toNat :=
      h.selector sel l hl ▸ List.mem_map_of_mem hmem
    obtain ⟨hpos, hlt⟩ := List.mem_range'_1.mp hid
    refine ⟨hpos, ?_⟩
    change (id : ℤ) ≤ cfg.max_session_num
    omega

end Steps

end InstanceIds

/-! ### Runs -/

inductive InstanceCall where
  | getStreamInstanceID (s : StreamId)
  | resetStreamInstanceID (s : StreamId) (sInstanceID : ℕ)
  deriving DecidableEq, Repr

namespace InstanceIds

variable {cfg : InstanceConfig} {σ : InstanceIds}

def step (cfg : InstanceConfig) (σ : InstanceIds) : InstanceCall → Option InstanceIds
  | .getStreamInstanceID s => (σ.getStreamInstanceID cfg s).map Prod.snd
  | .resetStreamInstanceID s sInstanceID =>
    (σ.resetStreamInstanceID cfg s sInstanceID).map Prod.snd

/-- A stream that is of a kind is reset with an id that it got and that was not reset since. Zero,
which a stream has before its first get and after a reset, is not an id. -/
def resetsHeld (cfg : InstanceConfig) (σ : InstanceIds) : InstanceCall → Prop
  | .getStreamInstanceID _ => True
  | .resetStreamInstanceID s sInstanceID =>
    1 ≤ sInstanceID → (cfg.kind s).isSome → σ.holds cfg s sInstanceID

theorem init_formed : Formed cfg {} where
  mask type input := by cases input <;> exact uniform_zero
  path _ _ h := by cases h
  selector _ _ h := by cases h
  given := List.nodup_nil

theorem init_exclusive : Leases.Exclusive cfg.kind (leases cfg {}) := by
  have hnone : ∀ s id, ¬(leases cfg {}).holds s id := by
    intro s id hold
    change holds cfg {} s id at hold
    unfold holds at hold
    split at hold
    · exact hold
    · cases hold
    · exact hold.1 hold.2.symm
  exact ⟨fun s id hold => absurd hold (hnone s id), fun s t id hold => absurd hold (hnone s id)⟩

/-- What the calls keep. -/
structure Inv (cfg : InstanceConfig) (σ : InstanceIds) : Prop where
  formed : Formed cfg σ
  exclusive : Leases.Exclusive cfg.kind (σ.leases cfg)

theorem step_inv (call : InstanceCall) (hcall : resetsHeld cfg σ call) (h : Inv cfg σ) :
    ∃ σ', step cfg σ call = some σ' ∧ Inv cfg σ' := by
  cases call with
  | getStreamInstanceID s =>
    obtain ⟨r, σ', hget, hformed, hgot⟩ := getStreamInstanceID_spec h.formed h.exclusive s
    refine ⟨σ', ?_, hformed, hgot.exclusive h.exclusive⟩
    rw [step, hget, Option.map_some]
  | resetStreamInstanceID s id =>
    by_cases hid : 1 ≤ id
    · cases hk : cfg.kind s with
      | none =>
        obtain ⟨r, hreset⟩ := σ.resetStreamInstanceID_of_none hk
        exact ⟨σ, by rw [step, hreset, Option.map_some], h⟩
      | some k =>
        have hheld := hcall hid (by simp [hk])
        obtain ⟨σ', hreset, hformed, hrelease⟩ :=
          resetStreamInstanceID_spec h.formed h.exclusive hid hheld
        refine ⟨σ', ?_, hformed, h.exclusive.release hrelease⟩
        rw [step, hreset, Option.map_some]
    · obtain rfl : id = 0 := by omega
      exact ⟨σ, rfl, h⟩

/-- **Exclusive ids.** In every state that the calls reach, streams of one kind hold different ids,
within the limits of the kind. A get that fails changes nothing, and one that does not gives the
stream the id it has or a free one. A reset of an id that is held frees that id and no other. -/
theorem instanceIds_of_run {calls : List InstanceCall}
    (hcalls : Meets (step cfg) (resetsHeld cfg) {} calls) :
    ∃ σ, run (step cfg) {} calls = some σ ∧
      (∀ s t id, σ.holds cfg s id → σ.holds cfg t id → cfg.kind s = cfg.kind t → s = t) ∧
      (∀ s k id, cfg.kind s = some k → σ.holds cfg s id → 1 ≤ id ∧ (id : ℤ) ≤ cfg.maxId k) ∧
      (∀ s, ∃ r σ', σ.getStreamInstanceID cfg s = some (r, σ') ∧ Got cfg s σ σ' r) ∧
      ∀ s id, 1 ≤ id → σ.holds cfg s id → ∃ σ', σ.resetStreamInstanceID cfg s id = some (0, σ') ∧
        Leases.Release cfg.kind s id (σ.leases cfg) (σ'.leases cfg) := by
  obtain ⟨σ, hrun, hformed, hex⟩ :=
    exists_run_of_meets (fun σ call hok h => step_inv call hok h) hcalls
      ⟨init_formed, init_exclusive⟩
  refine ⟨σ, hrun, hex.unique, fun s k id hk hold => ?_, fun s => ?_, fun s id hid hold => ?_⟩
  · exact taken_le hformed (hex.taken_of_kind hk hold)
  · obtain ⟨r, σ', hget, -, hgot⟩ := getStreamInstanceID_spec hformed hex s
    exact ⟨r, σ', hget, hgot⟩
  · obtain ⟨σ', hreset, -, hrelease⟩ := resetStreamInstanceID_spec hformed hex hid hold
    exact ⟨σ', hreset, hrelease⟩

/-- Each stream is reset at most once for each get that gave it an id; `left` counts the ones still
to come. -/
def resetOncePerGet (cfg : InstanceConfig) :
    InstanceIds → (StreamId → ℕ) → List InstanceCall → Bool
  | _, _, [] => true
  | σ, left, .getStreamInstanceID s :: calls =>
    (σ.getStreamInstanceID cfg s).elim false fun r =>
      resetOncePerGet cfg r.2 (if 0 < r.1 then Function.update left s (left s + 1) else left) calls
  | σ, left, .resetStreamInstanceID s sInstanceID :: calls =>
    (σ.resetStreamInstanceID cfg s sInstanceID).elim false fun r =>
      0 < left s && resetOncePerGet cfg r.2 (Function.update left s (left s - 1)) calls

/-- Every stream records with low latency. -/
def recordings : InstanceConfig where
  max_nt_sessions := 1
  max_session_num := 1
  getStreamAttributes _ := some ⟨PAL_STREAM_LOW_LATENCY, PAL_AUDIO_INPUT, 1, ""⟩

/-- A stream that gets twice keeps its id; the next one gets the id after it is reset. -/
theorem instanceIds_afterReset :
    ∃ σ, run (step recordings) {} [.getStreamInstanceID 1, .getStreamInstanceID 2,
      .getStreamInstanceID 1, .resetStreamInstanceID 1 1, .getStreamInstanceID 3] = some σ ∧
      ∀ s t id, σ.holds recordings s id → σ.holds recordings t id →
        recordings.kind s = recordings.kind t → s = t := by
  have hcalls : Meets (step recordings) (resetsHeld recordings) {} [.getStreamInstanceID 1,
      .getStreamInstanceID 2, .getStreamInstanceID 1, .resetStreamInstanceID 1 1,
      .getStreamInstanceID 3] :=
    meets_cons_of_some trivial rfl <| meets_cons_of_some trivial rfl <|
    meets_cons_of_some trivial rfl <| meets_cons_of_some (fun _ _ => ⟨by decide, rfl⟩) rfl <|
    meets_cons_of_some trivial rfl trivial
  obtain ⟨σ, hrun, hunique, -⟩ := instanceIds_of_run hcalls
  exact ⟨σ, hrun, hunique⟩

/-- A stream that gets twice is reset twice with its id, the second time when another stream has it:
the next get gives it out again. -/
theorem shared_resetTwice :
    resetOncePerGet recordings {} (fun _ => 0) [.getStreamInstanceID 1, .getStreamInstanceID 1,
      .resetStreamInstanceID 1 1, .getStreamInstanceID 2, .resetStreamInstanceID 1 1,
      .getStreamInstanceID 3] ∧
    ∃ σ, run (step recordings) {} [.getStreamInstanceID 1, .getStreamInstanceID 1,
      .resetStreamInstanceID 1 1, .getStreamInstanceID 2, .resetStreamInstanceID 1 1,
      .getStreamInstanceID 3] = some σ ∧
      σ.holds recordings 2 1 ∧ σ.holds recordings 3 1 ∧ recordings.kind 2 = recordings.kind 3 := by
  refine ⟨by decide, _, rfl, ⟨by decide, by decide⟩, ⟨by decide, by decide⟩, by decide⟩

end InstanceIds

end AudioReachPal.Rm
