import AudioReachPal.Lib.MachineInt
import AudioReachPal.Lib.Region
import Mathlib.Algebra.BigOperators.Group.List.Basic

/-!
# Repacking the parameters of an effect

A multi-parameter payload is a sequence of records, each a `legacyGefParamHeader` and the bytes of
a parameter. The loop that repacks it writes each parameter behind an `apm_module_param_data_t`,
padded to 8 bytes, into a cleared region. The size parsed so far and the size padded so far are
32-bit words.
-/

namespace AudioReachPal.PayloadBuilder

open AudioReachPal.Lib

/-! ### The loop -/

/-- `moduleId`, `paramId` of four bytes each, `length` and `reserved` of two. -/
def sizeof_legacyGefParamHeader : ℕ := 12

/-- Four words. -/
def sizeof_apm_module_param_data_t : ℕ := 16

def PAL_ALIGN_8BYTE (x : ℕ) : ℕ := (x + 7) / 8 * 8

/-- An `apm_module_param_data_t` without an error. -/
def apmModuleParamData (module_instance_id param_id param_size : ℕ) : List UInt8 :=
  wordBytes [module_instance_id, param_id, param_size, 0]

/-- Copies `n` bytes of a region to `q` of another, if there are any. -/
def copyData (out : List UInt8) (q : ℕ) (b : List UInt8) (p n : ℕ) : Option (List UInt8) :=
  if n = 0 then some out else (slice b p n).bind (patch out q)

variable (place : ℕ → ℕ → ℕ) (b : List UInt8) (data payloadSize module_instance_id : ℕ)

/-- The loop over the records of the `payloadSize` bytes from `data` on; `place` says where the
next parameter goes, by the pointer behind the last one and by the size padded so far. `none` is an
access outside a region, or a loop that has not ended after `fuel` rounds. -/
def repackLoop : (fuel : ℕ) → (out : List UInt8) → (header totalPaddedSize parsedSize : ℕ) →
    Option (List UInt8 × ℕ)
  | 0, _, _, _, _ => none
  | fuel + 1, out, header, totalPaddedSize, parsedSize =>
    if parsedSize < payloadSize then
      (readLE b 4 (data + parsedSize + 4)).bind fun paramId =>
        (readLE b 2 (data + parsedSize + 8)).bind fun length =>
          let paddedPayloadSize := PAL_ALIGN_8BYTE (sizeof_apm_module_param_data_t + length)
          let ptr := place header totalPaddedSize
          (patch out ptr (apmModuleParamData module_instance_id paramId length)).bind fun out =>
            (copyData out (ptr + sizeof_apm_module_param_data_t) b
                (data + parsedSize + sizeof_legacyGefParamHeader) length).bind fun out =>
              repackLoop fuel out (header + paddedPayloadSize)
                (word32 (totalPaddedSize + paddedPayloadSize))
                (word32 (parsedSize + sizeof_legacyGefParamHeader + length))
    else some (out, totalPaddedSize)

/-! ### Parameters and records -/

/-- A parameter: its id and its bytes. -/
structure GefParam where
  paramId : ℕ
  bytes : List UInt8

namespace GefParam

variable (r : GefParam)

/-- The size of the record. -/
def size : ℕ := sizeof_legacyGefParamHeader + r.bytes.length

/-- The size of the repacked parameter. -/
def paddedSize : ℕ := PAL_ALIGN_8BYTE (sizeof_apm_module_param_data_t + r.bytes.length)

/-- The parameter behind its new header, padded. -/
def repacked (module_instance_id : ℕ) : List UInt8 :=
  apmModuleParamData module_instance_id r.paramId r.bytes.length ++ r.bytes ++
    List.replicate (r.paddedSize - (sizeof_apm_module_param_data_t + r.bytes.length)) 0

end GefParam

/-- The padded sizes of the parameters together. -/
def paddedSum (rs : List GefParam) : ℕ := (rs.map GefParam.paddedSize).sum

/-- The payload has the records `rs` from `p` up to its size: the id and the length of each record
and all its bytes lie inside. -/
def Records (b : List UInt8) (data payloadSize : ℕ) : (p : ℕ) → List GefParam → Prop
  | p, [] => payloadSize ≤ p
  | p, r :: rs =>
    p < payloadSize ∧ readLE b 4 (data + p + 4) = some r.paramId ∧
      readLE b 2 (data + p + 8) = some r.bytes.length ∧
      (r.bytes = [] ∨
        slice b (data + p + sizeof_legacyGefParamHeader) r.bytes.length = some r.bytes) ∧
      Records b data payloadSize (p + r.size) rs

/-! ### Sizes -/

section Sizes

variable {b data payloadSize} {p : ℕ} {r : GefParam} {rs rs' : List GefParam}

theorem le_align (x : ℕ) : x ≤ PAL_ALIGN_8BYTE x ∧ PAL_ALIGN_8BYTE x ≤ x + 7 := by
  unfold PAL_ALIGN_8BYTE
  omega

/-- Padding never more than doubles a record, short as it may be. -/
theorem GefParam.paddedSize_le (r : GefParam) : r.paddedSize ≤ 2 * r.size := by
  have halign := le_align (sizeof_apm_module_param_data_t + r.bytes.length)
  unfold GefParam.paddedSize GefParam.size sizeof_legacyGefParamHeader
  unfold sizeof_apm_module_param_data_t at halign ⊢
  omega

/-- And it adds four bytes at least. -/
theorem GefParam.size_le (r : GefParam) : r.size + 4 ≤ r.paddedSize := by
  have halign := le_align (sizeof_apm_module_param_data_t + r.bytes.length)
  unfold GefParam.paddedSize GefParam.size sizeof_legacyGefParamHeader
  unfold sizeof_apm_module_param_data_t at halign ⊢
  omega

theorem paddedSum_cons : paddedSum (r :: rs) = r.paddedSize + paddedSum rs := by
  unfold paddedSum
  rw [List.map_cons, List.sum_cons]

theorem length_apm (module_instance_id param_id param_size : ℕ) :
    (apmModuleParamData module_instance_id param_id param_size).length =
      sizeof_apm_module_param_data_t := by
  unfold apmModuleParamData
  rw [length_wordBytes]
  rfl

theorem GefParam.length_repacked (r : GefParam) (module_instance_id : ℕ) :
    (r.repacked module_instance_id).length = r.paddedSize := by
  have halign := (le_align (sizeof_apm_module_param_data_t + r.bytes.length)).1
  unfold GefParam.repacked
  rw [List.length_append, List.length_append, List.length_replicate, length_apm]
  unfold GefParam.paddedSize
  omega

/-! ### What the records are -/

theorem Records.tail (h : Records b data payloadSize p (r :: rs)) :
    Records b data payloadSize (p + r.size) rs := h.2.2.2.2

/-- A record whose bytes are there ends inside. -/
theorem Records.head_inside (h : Records b data payloadSize p (r :: rs)) :
    data + p + 10 ≤ b.length ∧ (r.bytes = [] ∨ data + p + r.size ≤ b.length) := by
  obtain ⟨-, -, hlength, hbytes, -⟩ := h
  have hin := le_of_readLE hlength
  refine ⟨by omega, hbytes.imp id fun hslice => ?_⟩
  have hle := le_of_slice hslice
  unfold GefParam.size
  omega

/-- A payload has one sequence of records. -/
theorem Records.unique (h : Records b data payloadSize p rs)
    (h' : Records b data payloadSize p rs') : rs = rs' := by
  induction rs generalizing p rs' with
  | nil =>
    have hend : payloadSize ≤ p := h
    cases rs' with
    | nil => rfl
    | cons r' rs' =>
      have hlt := h'.1
      omega
  | cons r rs ih =>
    cases rs' with
    | nil =>
      have hend : payloadSize ≤ p := h'
      have hlt := h.1
      omega
    | cons r' rs' =>
      have hsame : r = r' := by
        obtain ⟨-, hid, hlength, hbytes, -⟩ := h
        obtain ⟨-, hid', hlength', hbytes', -⟩ := h'
        rw [hid] at hid'
        rw [hlength] at hlength'
        have hid := Option.some.inj hid'
        have hlen := Option.some.inj hlength'
        have heq : r.bytes = r'.bytes := by
          rcases hbytes with hnil | hslice
          · rw [hnil] at hlen ⊢
            exact (List.length_eq_zero_iff.mp hlen.symm).symm
          rcases hbytes' with hnil' | hslice'
          · rw [hnil'] at hlen ⊢
            exact List.length_eq_zero_iff.mp hlen
          · rw [hlen, hslice'] at hslice
            exact (Option.some.inj hslice).symm
        cases r
        cases r'
        cases hid
        cases heq
        rfl
      subst hsame
      rw [ih h.tail h'.tail]

/-- The payload ends inside the region, but for the two bytes that no one reads. -/
theorem Records.payloadSize_le (h : Records b data payloadSize p rs) (hp : p < payloadSize) :
    data + payloadSize ≤ b.length + 2 := by
  induction rs generalizing p with
  | nil =>
    have hend : payloadSize ≤ p := h
    omega
  | cons r rs ih =>
    by_cases hlt : p + r.size < payloadSize
    · exact ih h.tail hlt
    · obtain ⟨hheader, hnil | hin⟩ := h.head_inside
      · have hsize : r.size = 12 := by
          unfold GefParam.size
          rw [hnil]
          rfl
        omega
      · omega

/-- The parameters take more than the payload. -/
theorem Records.lt_paddedSum (h : Records b data payloadSize p rs) (hp : p < payloadSize) :
    payloadSize + 4 ≤ p + paddedSum rs := by
  induction rs generalizing p with
  | nil =>
    have hend : payloadSize ≤ p := h
    omega
  | cons r rs ih =>
    have hsize := r.size_le
    rw [paddedSum_cons]
    by_cases hlt : p + r.size < payloadSize
    · have hrest := ih h.tail hlt
      omega
    · omega

/-- They take at most twice the payload where it is all of the region. -/
theorem Records.paddedSum_le (h : Records b data payloadSize p rs) (hp : p ≤ payloadSize)
    (hb : b.length ≤ data + payloadSize) : 2 * p + paddedSum rs ≤ 2 * payloadSize := by
  induction rs generalizing p with
  | nil =>
    unfold paddedSum
    rw [List.map_nil, List.sum_nil]
    omega
  | cons r rs ih =>
    have hpadded := r.paddedSize_le
    obtain ⟨hheader, hbytes⟩ := h.head_inside
    rw [paddedSum_cons]
    by_cases hle : p + r.size ≤ payloadSize
    · have hrest := ih h.tail hle
      omega
    · -- the header of an empty last record, cut behind its length
      have hnil : r.bytes = [] := hbytes.resolve_right (by omega)
      have hsize : r.size = 12 ∧ r.paddedSize = 16 := by
        unfold GefParam.size GefParam.paddedSize
        rw [hnil]
        exact ⟨rfl, rfl⟩
      have hend : rs = [] := by
        cases rs with
        | nil => rfl
        | cons r' rs' =>
          have hlt := h.tail.1
          omega
      rw [hend]
      unfold paddedSum
      rw [List.map_nil, List.sum_nil]
      omega

end Sizes

/-! ### Whole records -/

/-- A record as a client writes it. -/
structure LegacyGefRecord where
  moduleId : ℕ
  param : GefParam
  reserved : ℕ
  paramId_lt : param.paramId < 2 ^ (8 * 4)
  length_lt : param.bytes.length < 2 ^ (8 * 2)

/-- Its header and its bytes. -/
def LegacyGefRecord.raw (r : LegacyGefRecord) : List UInt8 :=
  toBytes 4 r.moduleId ++ (toBytes 4 r.param.paramId ++
    (toBytes 2 r.param.bytes.length ++ (toBytes 2 r.reserved ++ r.param.bytes)))

theorem LegacyGefRecord.length_raw (r : LegacyGefRecord) : r.raw.length = r.param.size := by
  unfold LegacyGefRecord.raw GefParam.size sizeof_legacyGefParamHeader
  simp only [List.length_append, length_toBytes]
  omega

section Whole

variable {b : List UInt8} {data payloadSize : ℕ}

/-- **Whole records, one behind the other**, are the records of the payload. -/
theorem records_of_whole {front : List UInt8} {records : List LegacyGefRecord}
    (h : slice b data payloadSize = some (front ++ records.flatMap LegacyGefRecord.raw)) :
    Records b data payloadSize front.length (records.map LegacyGefRecord.param) := by
  have hlen := length_of_slice h
  induction records generalizing front with
  | nil =>
    rw [List.flatMap_nil, List.append_nil] at hlen
    exact Nat.le_of_eq hlen.symm
  | cons r records ih =>
    rw [List.flatMap_cons] at h hlen
    have hraw := r.length_raw
    have hsize : r.param.size = 12 + r.param.bytes.length := rfl
    simp only [List.length_append] at hlen
    have hbehind : slice b data payloadSize =
        some (front ++ r.raw ++ records.flatMap LegacyGefRecord.raw) := by
      rw [List.append_assoc]
      exact h
    have hrest := ih hbehind (by simp only [List.length_append]; omega)
    rw [List.length_append, hraw] at hrest
    have hid := readLE_between (front ++ toBytes 4 r.moduleId)
      (toBytes 2 r.param.bytes.length ++ (toBytes 2 r.reserved ++ r.param.bytes) ++
        records.flatMap LegacyGefRecord.raw) r.paramId_lt
    have hlength := readLE_between (front ++ toBytes 4 r.moduleId ++ toBytes 4 r.param.paramId)
      (toBytes 2 r.reserved ++ r.param.bytes ++ records.flatMap LegacyGefRecord.raw) r.length_lt
    have hbytes := slice_between (front ++ toBytes 4 r.moduleId ++ toBytes 4 r.param.paramId ++
      toBytes 2 r.param.bytes.length ++ toBytes 2 r.reserved) r.param.bytes
        (records.flatMap LegacyGefRecord.raw)
    simp only [List.length_append, length_toBytes, List.append_assoc] at hid hlength hbytes
    unfold LegacyGefRecord.raw at h
    simp only [List.append_assoc] at h
    refine ⟨by omega, ?_, ?_, Or.inr ?_, hrest⟩
    · rw [Nat.add_assoc, ← readLE_slice h (by omega)]
      exact hid
    · rw [Nat.add_assoc, ← readLE_slice h (by omega)]
      exact hlength
    · rw [Nat.add_assoc, ← slice_slice h (by unfold sizeof_legacyGefParamHeader; omega)]
      exact hbytes

end Whole

/-! ### What the loop does -/

section Loop

variable {place b data payloadSize module_instance_id} {out out' : List UInt8}
  {fuel header totalPaddedSize total p : ℕ} {rs : List GefParam}

theorem length_of_copyData {q n : ℕ} (h : copyData out q b p n = some out') :
    out'.length = out.length := by
  unfold copyData at h
  split_ifs at h
  · cases h
    rfl
  · obtain ⟨bytes, -, hpatch⟩ := Option.bind_eq_some_iff.mp h
    exact length_of_patch hpatch

/-- One round of a loop that ends: it has read a record and written it, and the rest has ended. -/
theorem repackLoop_round (hp : p < payloadSize) (h : repackLoop place b data payloadSize
      module_instance_id (fuel + 1) out header totalPaddedSize p = some (out', total)) :
    ∃ (r : GefParam) (out₁ out₂ : List UInt8),
      readLE b 4 (data + p + 4) = some r.paramId ∧
      readLE b 2 (data + p + 8) = some r.bytes.length ∧
      (r.bytes = [] ∨
        slice b (data + p + sizeof_legacyGefParamHeader) r.bytes.length = some r.bytes) ∧
      out₁.length = out.length ∧ copyData out₁ (place header totalPaddedSize +
        sizeof_apm_module_param_data_t) b (data + p + sizeof_legacyGefParamHeader) r.bytes.length =
          some out₂ ∧
      repackLoop place b data payloadSize module_instance_id fuel out₂ (header + r.paddedSize)
        (word32 (totalPaddedSize + r.paddedSize)) (word32 (p + r.size)) = some (out', total) := by
  rw [repackLoop, if_pos hp] at h
  obtain ⟨paramId, hid, h⟩ := Option.bind_eq_some_iff.mp h
  obtain ⟨length, hlength, h⟩ := Option.bind_eq_some_iff.mp h
  simp only at h
  obtain ⟨out₁, hheader, h⟩ := Option.bind_eq_some_iff.mp h
  obtain ⟨out₂, hcopy, h⟩ := Option.bind_eq_some_iff.mp h
  obtain ⟨bytes, hlen, hbytes⟩ : ∃ bytes : List UInt8, bytes.length = length ∧
      (bytes = [] ∨
        slice b (data + p + sizeof_legacyGefParamHeader) bytes.length = some bytes) := by
    by_cases hzero : length = 0
    · exact ⟨[], hzero.symm, Or.inl rfl⟩
    · have hslice := hcopy
      unfold copyData at hslice
      rw [if_neg hzero] at hslice
      obtain ⟨bytes, hslice, -⟩ := Option.bind_eq_some_iff.mp hslice
      have hlen := length_of_slice hslice
      rw [← hlen] at hslice
      exact ⟨bytes, hlen, Or.inr hslice⟩
  subst hlen
  have hparsed : p + sizeof_legacyGefParamHeader + bytes.length =
    p + (GefParam.mk paramId bytes).size := Nat.add_assoc _ _ _
  rw [hparsed] at h
  exact ⟨⟨paramId, bytes⟩, out₁, out₂, hid, hlength, hbytes, length_of_patch hheader, hcopy, h⟩

theorem length_of_repackLoop (h : repackLoop place b data payloadSize module_instance_id fuel out
    header totalPaddedSize p = some (out', total)) : out'.length = out.length := by
  induction fuel generalizing out header totalPaddedSize p with
  | zero => cases h
  | succ fuel ih =>
    by_cases hp : p < payloadSize
    · obtain ⟨r, out₁, out₂, -, -, -, hlen, hcopy, hrest⟩ := repackLoop_round hp h
      rw [ih hrest, length_of_copyData hcopy, hlen]
    · rw [repackLoop, if_neg hp] at h
      cases h
      rfl

/-- A loop that ends has read records up to the end of the payload. The size parsed so far does not
wrap before that. -/
theorem records_of_repackLoop (hsize : payloadSize < 2 ^ 32) (h : repackLoop place b data
    payloadSize module_instance_id fuel out header totalPaddedSize p = some (out', total)) :
    ∃ rs, Records b data payloadSize p rs := by
  induction fuel generalizing out header totalPaddedSize p with
  | zero => cases h
  | succ fuel ih =>
    by_cases hp : p < payloadSize
    · obtain ⟨r, out₁, out₂, hid, hlength, hbytes, -, -, hrest⟩ := repackLoop_round hp h
      by_cases hend : payloadSize ≤ p + r.size
      · exact ⟨[r], hp, hid, hlength, hbytes, hend⟩
      · rw [word32_of_lt (show p + r.size < 2 ^ 32 by omega)] at hrest
        obtain ⟨rs, hrs⟩ := ih hrest
        exact ⟨r :: rs, hp, hid, hlength, hbytes, hrs⟩
    · exact ⟨[], Nat.le_of_not_lt hp⟩

/-- The copy of a parameter's bytes behind its header. -/
theorem copyData_fill {front bytes : List UInt8} {q m : ℕ} (hroom : bytes.length ≤ m)
    (hbytes : bytes = [] ∨ slice b q bytes.length = some bytes) :
    copyData (front ++ List.replicate m 0) front.length b q bytes.length =
      some (front ++ bytes ++ List.replicate (m - bytes.length) 0) := by
  unfold copyData
  rcases hbytes with rfl | hslice
  · rw [List.length_nil, if_pos rfl, List.append_nil, Nat.sub_zero]
  · split_ifs with hzero
    · rw [List.length_eq_zero_iff] at hzero
      rw [hzero, List.append_nil, List.length_nil, Nat.sub_zero]
    · rw [hslice, Option.bind_some, patch_fill front hroom]

/-- **The loop over records.** Into a cleared region with room for the parameters it writes them one
behind the other, and it counts their sizes. -/
theorem repackLoop_of_records (place : ℕ → ℕ → ℕ) (module_instance_id fuel : ℕ) {base : ℕ}
    {front : List UInt8} {m : ℕ}
    (hrs : Records b data payloadSize p rs) (hsize : payloadSize < 2 ^ 31)
    (hplace : ∀ t, place (base + t) t = base + t) (hfront : front.length = base + totalPaddedSize)
    (hroom : paddedSum rs ≤ m) (htotal : totalPaddedSize + paddedSum rs < 2 ^ 32) :
    repackLoop place b data payloadSize module_instance_id (rs.length + 1 + fuel)
        (front ++ List.replicate m 0) (base + totalPaddedSize) totalPaddedSize p =
      some (front ++ rs.flatMap (fun r => r.repacked module_instance_id) ++
        List.replicate (m - paddedSum rs) 0, totalPaddedSize + paddedSum rs) := by
  induction rs generalizing front m totalPaddedSize p with
  | nil =>
    have hend : payloadSize ≤ p := hrs
    rw [List.length_nil, Nat.zero_add, Nat.add_comm, repackLoop, if_neg (by omega),
      List.flatMap_nil, List.append_nil]
    rfl
  | cons r rs ih =>
    have hhead := hrs
    obtain ⟨hp, hid, hlength, hbytes, -⟩ := hhead
    have hlen16 := readLE_lt hlength
    have hfill := (le_align (sizeof_apm_module_param_data_t + r.bytes.length)).1
    have hpadded : r.paddedSize =
      PAL_ALIGN_8BYTE (sizeof_apm_module_param_data_t + r.bytes.length) := rfl
    rw [paddedSum_cons] at hroom htotal ⊢
    rw [← hpadded] at hfill
    have hapm := length_apm module_instance_id r.paramId r.bytes.length
    rw [List.length_cons, show rs.length + 1 + 1 + fuel = rs.length + 1 + fuel + 1 by omega,
      repackLoop, if_pos hp, hid, Option.bind_some, hlength, Option.bind_some]
    simp only
    rw [hplace, ← hfront, patch_fill front (by omega), Option.bind_some, hapm]
    have hbehind : front.length + sizeof_apm_module_param_data_t =
        (front ++ apmModuleParamData module_instance_id r.paramId r.bytes.length).length := by
      rw [List.length_append, hapm]
    rw [hbehind, copyData_fill (by omega) hbytes, Option.bind_some]
    -- the padding is part of what is still cleared
    have hpad : m - sizeof_apm_module_param_data_t - r.bytes.length =
        (r.paddedSize - (sizeof_apm_module_param_data_t + r.bytes.length)) +
          (m - r.paddedSize) := by omega
    have hout : front ++ apmModuleParamData module_instance_id r.paramId r.bytes.length ++
        r.bytes ++ List.replicate (m - sizeof_apm_module_param_data_t - r.bytes.length) 0 =
          front ++ r.repacked module_instance_id ++ List.replicate (m - r.paddedSize) 0 := by
      rw [hpad, ← List.replicate_append_replicate]
      unfold GefParam.repacked
      simp only [List.append_assoc]
    have hfront' : (front ++ r.repacked module_instance_id).length =
        base + (totalPaddedSize + r.paddedSize) := by
      rw [List.length_append, r.length_repacked, hfront]
      omega
    have hnext := ih hrs.tail hfront' (show paddedSum rs ≤ m - r.paddedSize by omega) (by omega)
    have hparsed : p + sizeof_legacyGefParamHeader + r.bytes.length = p + r.size :=
      Nat.add_assoc _ _ _
    have hword : p + r.size < 2 ^ 32 := by
      unfold GefParam.size sizeof_legacyGefParamHeader
      omega
    rw [hout, hparsed, word32_of_lt hword, ← hpadded, word32_of_lt (by omega), hfront,
      Nat.add_assoc base, hnext, List.flatMap_cons, List.append_assoc front, Nat.sub_sub,
      Nat.add_assoc totalPaddedSize]

end Loop

end AudioReachPal.PayloadBuilder
