import AudioReachPal.PayloadBuilder.Repack
import AudioReachPal.Types

/-!
# The payloads of effects

`payloadCustomParam` and `payloadACDBTunnelParam` turn what a client sends for an effect into a
payload for the graph: a single parameter, or with the id 0 several of them. The second one has an
`agm_acdb_param` with key value pairs in front, and writes an `agm_acdb_tunnel_param` with these,
the graph keys and, where it is asked to, the sample rate in front of the parameters.
-/

namespace AudioReachPal.PayloadBuilder

open AudioReachPal.Lib

/-- What a function gives back: an error, or `*size` and the bytes of `*alsaPayload`. `none` is an
access outside a buffer, or a loop that has not ended. -/
abbrev PayloadReply := Option (Except ℤ (ℕ × List UInt8))

def calloc (size : ℕ) : List UInt8 := List.replicate size 0

/-! ### Custom parameters -/

/-- `payloadCustomParam`; the flag says whether there is memory. -/
def payloadCustomParam (memory : Bool) (customPayload : List UInt8)
    (customPayloadSize moduleInstanceId paramId fuel : ℕ) : PayloadReply :=
  if paramId ≠ 0 then
    let alsaPayloadSize := PAL_ALIGN_8BYTE (sizeof_apm_module_param_data_t + customPayloadSize)
    if !memory then some (.error (-ENOMEM))
    else
      (patch (calloc alsaPayloadSize) 0
          (apmModuleParamData moduleInstanceId paramId customPayloadSize)).bind fun payloadInfo =>
        (copyData payloadInfo sizeof_apm_module_param_data_t customPayload 0 customPayloadSize).map
          fun payloadInfo => .ok (alsaPayloadSize, payloadInfo)
  else if !memory then some (.error (-ENOMEM))
  else
    (repackLoop (fun _ totalPaddedSize => totalPaddedSize) customPayload 0 customPayloadSize
        moduleInstanceId fuel (calloc (word32 (customPayloadSize * 2))) 0 0 0).map
      fun repacked => .ok (repacked.2, repacked.1)

/-! ### The ACDB tunnel -/

/-- `agm_acdb_param`, which AGM's headers declare: where its fields are. -/
structure AcdbParamLayout where
  isTKV : ℕ
  tag : ℕ
  num_kvs : ℕ
  blob_size : ℕ
  sizeof : ℕ
  flag_inside : isTKV + 1 ≤ sizeof
  words_inside : tag + 4 ≤ sizeof ∧ num_kvs + 4 ≤ sizeof ∧ blob_size + 4 ≤ sizeof
  three_words : 12 ≤ sizeof

/-- `agm_acdb_tunnel_param`, the same. -/
structure AcdbTunnelLayout where
  isTKV : ℕ
  tag : ℕ
  num_gkvs : ℕ
  num_kvs : ℕ
  blob_size : ℕ
  sizeof : ℕ
  flag_inside : isTKV + 1 ≤ sizeof
  words_inside : tag + 4 ≤ sizeof ∧ num_gkvs + 4 ≤ sizeof ∧ num_kvs + 4 ≤ sizeof ∧
    blob_size + 4 ≤ sizeof

/-- The two, and the key of a sample rate. -/
structure AcdbLayout where
  param : AcdbParamLayout
  tunnel : AcdbTunnelLayout
  SAMPLINGRATE : ℕ

/-- A `pal_key_value_pair_t` and a `gsl_key_value_pair`. -/
def sizeof_key_value_pair : ℕ := 8

/-- The id in front of the data. -/
def sizeof_pal_effect_custom_payload_t : ℕ := 4

structure agm_acdb_param where
  isTKV : Bool
  tag : ℕ
  num_kvs : ℕ
  blob_size : ℕ

variable (l : AcdbLayout)

/-- The fields of an `agm_acdb_param`. -/
def readAcdbParam (b : List UInt8) : Option agm_acdb_param :=
  (readLE b 1 l.param.isTKV).bind fun isTKV =>
    (readLE b 4 l.param.tag).bind fun tag =>
      (readLE b 4 l.param.num_kvs).bind fun num_kvs =>
        (readLE b 4 l.param.blob_size).map fun blob_size => ⟨isTKV ≠ 0, tag, num_kvs, blob_size⟩

/-- The search for a sample rate among `n` pairs, from the `k`-th on. -/
def findSampleRate (b : List UInt8) : (n k : ℕ) → Option Bool
  | 0, _ => some false
  | n + 1, k =>
    (readLE b 4 (l.param.sizeof + sizeof_key_value_pair * k)).bind fun key =>
      if key = l.SAMPLINGRATE then some true else findSampleRate b n (k + 1)

/-- `appendSampleRateInCKV` -/
def appendSampleRateInCKV (b : List UInt8) (num_kvs sampleRate : ℕ) : Option ℕ :=
  if sampleRate ≠ 0 then (findSampleRate l b num_kvs 0).map fun found => if found then 0 else 1
  else some 0

/-- The front of the tunnel's payload: the fields, the graph keys, the pairs, and the sample rate.
With it come the place of the first parameter and the offset behind the front. -/
def tunnelFront (b : List UInt8) (acdbParam : agm_acdb_param) (acdbGKVSet : List (ℕ × ℕ))
    (append sampleRate : ℕ) (payloadACDBTunnelInfo : List UInt8) : Option (List UInt8 × ℕ × ℕ) :=
  (patch payloadACDBTunnelInfo l.tunnel.isTKV (toBytes 1 acdbParam.isTKV.toNat)).bind fun out =>
    (patch out l.tunnel.tag (toBytes 4 acdbParam.tag)).bind fun out =>
      (patch out l.tunnel.num_gkvs (toBytes 4 acdbGKVSet.length)).bind fun out =>
        (patch out l.tunnel.num_kvs (toBytes 4 acdbParam.num_kvs)).bind fun out =>
          (patchWords out l.tunnel.sizeof (acdbGKVSet.flatMap fun kv => [kv.1, kv.2])).bind
            fun out =>
              let offset := word32 (l.tunnel.sizeof +
                word32 (acdbGKVSet.length * sizeof_key_value_pair))
              let dataLength := word32 (acdbParam.num_kvs * sizeof_key_value_pair)
              (slice b l.param.sizeof dataLength).bind fun kvs =>
                (patch out offset kvs).bind fun out =>
                  let offset := word32 (offset + dataLength)
                  (patch out l.tunnel.num_kvs (toBytes 4 (acdbParam.num_kvs + append))).bind
                    fun out =>
                      if append = 0 then some (out, offset, offset)
                      else
                        (patchWords out offset [l.SAMPLINGRATE, sampleRate]).map fun out =>
                          (out, offset + sizeof_key_value_pair,
                            word32 (offset + sizeof_key_value_pair))

/-- `payloadACDBTunnelParam`; the flag says whether there is memory. -/
def payloadACDBTunnelParam (memory : Bool) (payload : Option (List UInt8))
    (acdbGKVSet : List (ℕ × ℕ)) (sampleRate fuel : ℕ) : PayloadReply :=
  match payload with
  | none => some (.error (-EINVAL))
  | some b =>
    (readAcdbParam l b).bind fun acdbParam =>
      if sampleRate ≠ 0 ∧ acdbParam.isTKV = true then some (.error (-EINVAL))
      else
        (appendSampleRateInCKV l b acdbParam.num_kvs sampleRate).bind fun append =>
          let effectCustomPayload :=
            word32 (l.param.sizeof + acdbParam.num_kvs * sizeof_key_value_pair)
          (readLE b 4 effectCustomPayload).bind fun paramId =>
            let checkSum := word32 (acdbParam.num_kvs * sizeof_key_value_pair +
              sizeof_pal_effect_custom_payload_t)
            let payloadSize := sub32 acdbParam.blob_size checkSum
            let paddedPayloadSize := word32 (payloadSize + 7) / 8 * 8
            let front := l.tunnel.sizeof + (word32 (acdbParam.num_kvs + append) +
              acdbGKVSet.length) * sizeof_key_value_pair
            let pairs := word32 (acdbGKVSet.length + word32 (acdbParam.num_kvs + append)) *
              sizeof_key_value_pair
            let data := effectCustomPayload + sizeof_pal_effect_custom_payload_t
            let size := size64 (front + sizeof_apm_module_param_data_t +
              if paramId ≠ 0 then paddedPayloadSize else word32 (payloadSize * 2))
            if !memory then some (.error (-ENOMEM))
            else
              (tunnelFront l b acdbParam acdbGKVSet append sampleRate (calloc size)).bind
                fun written =>
                  if paramId ≠ 0 then
                    (patch written.1 written.2.1
                        (apmModuleParamData acdbParam.tag paramId payloadSize)).bind fun out =>
                      (if paddedPayloadSize = 0 then some out
                        else (slice b data payloadSize).bind
                          (patch out (written.2.1 + sizeof_apm_module_param_data_t))).bind fun out =>
                        (patch out l.tunnel.blob_size (toBytes 4 (pairs +
                            sizeof_apm_module_param_data_t + paddedPayloadSize))).map fun out =>
                          .ok (word32 (written.2.2 + sizeof_apm_module_param_data_t +
                            paddedPayloadSize), out)
                  else
                    (repackLoop (fun header _ => header) b data payloadSize acdbParam.tag fuel
                        written.1 written.2.1 0 0).bind fun repacked =>
                      (patch repacked.1 l.tunnel.blob_size (toBytes 4 (pairs + repacked.2))).map
                        fun out => .ok (word32 (written.2.2 + repacked.2), out)

/-! ### The front of the tunnel's payload -/

section Front

variable {l} {out data : List UInt8}

/-- A write in front of `h` leaves what lies behind. -/
theorem patch_in_front (out data : List UInt8) {h : ℕ} (p : ℕ) (hp : p + data.length ≤ h)
    (hout : h ≤ out.length) :
    ∃ out', patch out p data = some out' ∧ out'.length = out.length ∧
      out'.drop h = out.drop h := by
  obtain ⟨out', hpatch⟩ := Option.isSome_iff_exists.mp
    (patch_isSome.mpr (show p + data.length ≤ out.length by omega))
  exact ⟨out', hpatch, length_of_patch hpatch, drop_of_patch hpatch hp⟩

theorem patchWords_in_front (out : List UInt8) (words : List ℕ) {h : ℕ} (p : ℕ)
    (hp : p + 4 * words.length ≤ h) (hout : h ≤ out.length) :
    ∃ out', patchWords out p words = some out' ∧ out'.length = out.length ∧
      out'.drop h = out.drop h := by
  obtain ⟨out', hpatch⟩ := Option.isSome_iff_exists.mp
    ((patchWords_isSome words (show p ≤ out.length by omega)).mpr (by omega))
  exact ⟨out', hpatch, length_of_patchWords hpatch, drop_of_patchWords hpatch hp⟩

theorem length_pairs (kvs : List (ℕ × ℕ)) :
    (kvs.flatMap fun kv => [kv.1, kv.2]).length = 2 * kvs.length := by
  induction kvs with
  | nil => rfl
  | cons kv kvs ih =>
    rw [List.flatMap_cons, List.length_append, ih, List.length_cons]
    simp only [List.length_cons, List.length_nil]
    omega

/-- The size of the front. -/
def frontSize (l : AcdbLayout) (num_gkvs num_kvs append : ℕ) : ℕ :=
  l.tunnel.sizeof + sizeof_key_value_pair * (num_gkvs + num_kvs + append)

variable {b : List UInt8} {acdbParam : agm_acdb_param} {acdbGKVSet : List (ℕ × ℕ)}
  {append sampleRate : ℕ}

/-- **The front is written** where the pairs are inside and its size fits: the parameters begin
behind it, and what lies there is as before. -/
theorem tunnelFront_eq (sampleRate : ℕ)
    (hkvs : l.param.sizeof + sizeof_key_value_pair * acdbParam.num_kvs ≤ b.length)
    (happend : append ≤ 1)
    (hfront : frontSize l acdbGKVSet.length acdbParam.num_kvs append < 2 ^ 32)
    (hout : frontSize l acdbGKVSet.length acdbParam.num_kvs append ≤ out.length) :
    ∃ out', tunnelFront l b acdbParam acdbGKVSet append sampleRate out =
        some (out', frontSize l acdbGKVSet.length acdbParam.num_kvs append,
          frontSize l acdbGKVSet.length acdbParam.num_kvs append) ∧
      out'.length = out.length ∧
      out'.drop (frontSize l acdbGKVSet.length acdbParam.num_kvs append) =
        out.drop (frontSize l acdbGKVSet.length acdbParam.num_kvs append) := by
  obtain ⟨h, hh⟩ : ∃ h, frontSize l acdbGKVSet.length acdbParam.num_kvs append = h := ⟨_, rfl⟩
  have hdef := hh
  unfold frontSize sizeof_key_value_pair at hdef
  rw [hh] at hfront hout ⊢
  have hflag := l.tunnel.flag_inside
  obtain ⟨htag, hgkvs, hnum, hblob⟩ := l.tunnel.words_inside
  unfold sizeof_key_value_pair at hkvs
  obtain ⟨out₁, h₁, hlen₁, hdrop₁⟩ := patch_in_front out (toBytes 1 acdbParam.isTKV.toNat)
    l.tunnel.isTKV (show _ ≤ h by rw [length_toBytes]; omega) hout
  obtain ⟨out₂, h₂, hlen₂, hdrop₂⟩ := patch_in_front out₁ (toBytes 4 acdbParam.tag) l.tunnel.tag
    (show _ ≤ h by rw [length_toBytes]; omega) (by omega)
  obtain ⟨out₃, h₃, hlen₃, hdrop₃⟩ := patch_in_front out₂ (toBytes 4 acdbGKVSet.length)
    l.tunnel.num_gkvs (show _ ≤ h by rw [length_toBytes]; omega) (by omega)
  obtain ⟨out₄, h₄, hlen₄, hdrop₄⟩ := patch_in_front out₃ (toBytes 4 acdbParam.num_kvs)
    l.tunnel.num_kvs (show _ ≤ h by rw [length_toBytes]; omega) (by omega)
  obtain ⟨out₅, h₅, hlen₅, hdrop₅⟩ := patchWords_in_front out₄
    (acdbGKVSet.flatMap fun kv => [kv.1, kv.2]) l.tunnel.sizeof
    (show _ ≤ h by rw [length_pairs]; omega) (by omega)
  have hslice := slice_eq_some (b := b) (p := l.param.sizeof) (n := acdbParam.num_kvs * 8)
    (by omega)
  have hkvlen := length_of_slice hslice
  obtain ⟨out₆, h₆, hlen₆, hdrop₆⟩ := patch_in_front out₅
    ((b.drop l.param.sizeof).take (acdbParam.num_kvs * 8))
    (l.tunnel.sizeof + acdbGKVSet.length * 8) (show _ ≤ h by omega) (by omega)
  obtain ⟨out₇, h₇, hlen₇, hdrop₇⟩ := patch_in_front out₆
    (toBytes 4 (acdbParam.num_kvs + append)) l.tunnel.num_kvs
    (show _ ≤ h by rw [length_toBytes]; omega) (by omega)
  unfold tunnelFront sizeof_key_value_pair
  simp only
  rw [h₁, Option.bind_some, h₂, Option.bind_some, h₃, Option.bind_some, h₄, Option.bind_some, h₅,
    Option.bind_some, word32_of_lt (show acdbGKVSet.length * 8 < 2 ^ 32 by omega),
    word32_of_lt (show acdbParam.num_kvs * 8 < 2 ^ 32 by omega),
    word32_of_lt (show l.tunnel.sizeof + acdbGKVSet.length * 8 < 2 ^ 32 by omega), hslice,
    Option.bind_some, h₆, Option.bind_some, h₇, Option.bind_some,
    word32_of_lt (show l.tunnel.sizeof + acdbGKVSet.length * 8 + acdbParam.num_kvs * 8 < 2 ^ 32 by
      omega)]
  by_cases hzero : append = 0
  · have hend : l.tunnel.sizeof + acdbGKVSet.length * 8 + acdbParam.num_kvs * 8 = h := by omega
    rw [if_pos hzero, hend]
    exact ⟨out₇, rfl, by omega, by rw [hdrop₇, hdrop₆, hdrop₅, hdrop₄, hdrop₃, hdrop₂, hdrop₁]⟩
  · have hend : l.tunnel.sizeof + acdbGKVSet.length * 8 + acdbParam.num_kvs * 8 + 8 = h := by omega
    have htwo : [l.SAMPLINGRATE, sampleRate].length = 2 := rfl
    obtain ⟨out₈, h₈, hlen₈, hdrop₈⟩ := patchWords_in_front out₇ [l.SAMPLINGRATE, sampleRate]
      (l.tunnel.sizeof + acdbGKVSet.length * 8 + acdbParam.num_kvs * 8)
      (show _ ≤ h by rw [htwo]; omega) (by omega)
    rw [if_neg hzero, h₈, Option.map_some, hend, word32_of_lt hfront]
    exact ⟨out₈, rfl, by omega, by
      rw [hdrop₈, hdrop₇, hdrop₆, hdrop₅, hdrop₄, hdrop₃, hdrop₂, hdrop₁]⟩

/-- The front keeps the size of what it is written to. -/
theorem length_of_tunnelFront {written : List UInt8 × ℕ × ℕ}
    (h : tunnelFront l b acdbParam acdbGKVSet append sampleRate out = some written) :
    written.1.length = out.length := by
  unfold tunnelFront at h
  obtain ⟨out₁, h₁, h⟩ := Option.bind_eq_some_iff.mp h
  obtain ⟨out₂, h₂, h⟩ := Option.bind_eq_some_iff.mp h
  obtain ⟨out₃, h₃, h⟩ := Option.bind_eq_some_iff.mp h
  obtain ⟨out₄, h₄, h⟩ := Option.bind_eq_some_iff.mp h
  obtain ⟨out₅, h₅, h⟩ := Option.bind_eq_some_iff.mp h
  obtain ⟨kvs, -, h⟩ := Option.bind_eq_some_iff.mp h
  obtain ⟨out₆, h₆, h⟩ := Option.bind_eq_some_iff.mp h
  obtain ⟨out₇, h₇, h⟩ := Option.bind_eq_some_iff.mp h
  have hlen : out₇.length = out.length := by
    rw [length_of_patch h₇, length_of_patch h₆, length_of_patchWords h₅, length_of_patch h₄,
      length_of_patch h₃, length_of_patch h₂, length_of_patch h₁]
  split_ifs at h
  · cases h
    exact hlen
  · obtain ⟨out₈, h₈, heq⟩ := Option.map_eq_some_iff.mp h
    rw [← heq, ← hlen]
    exact length_of_patchWords h₈

theorem length_calloc (size : ℕ) : (calloc size).length = size := List.length_replicate

/-- In a cleared buffer the front is followed by what is still cleared. -/
theorem tunnelFront_calloc (acdbGKVSet : List (ℕ × ℕ)) (sampleRate m : ℕ)
    (hkvs : l.param.sizeof + sizeof_key_value_pair * acdbParam.num_kvs ≤ b.length)
    (happend : append ≤ 1)
    (hfront : frontSize l acdbGKVSet.length acdbParam.num_kvs append < 2 ^ 32) :
    ∃ front, front.length = frontSize l acdbGKVSet.length acdbParam.num_kvs append ∧
      tunnelFront l b acdbParam acdbGKVSet append sampleRate (calloc (front.length + m)) =
        some (front ++ List.replicate m 0, front.length, front.length) := by
  obtain ⟨h, hh⟩ : ∃ h, frontSize l acdbGKVSet.length acdbParam.num_kvs append = h := ⟨_, rfl⟩
  have hroom : frontSize l acdbGKVSet.length acdbParam.num_kvs append ≤
      (calloc (h + m)).length := by
    rw [length_calloc, hh]
    omega
  obtain ⟨out, hout, hlen, hdrop⟩ := tunnelFront_eq sampleRate hkvs happend hfront hroom
  rw [hh] at hout hdrop ⊢
  rw [length_calloc] at hlen
  have hzeros : out.drop h = List.replicate m 0 := by
    rw [hdrop]
    unfold calloc
    rw [List.drop_replicate, Nat.add_sub_cancel_left]
  have hlength : (out.take h).length = h := by
    rw [List.length_take]
    omega
  refine ⟨out.take h, hlength, ?_⟩
  rw [hlength, hout, ← hzeros, List.take_append_drop]

end Front

/-! ### Payloads of several parameters -/

/-- What `payloadCustomParam` is given with the id 0; its size is a 32-bit word. -/
structure CustomPayload where
  bytes : List UInt8
  lt : bytes.length < 2 ^ 32

/-- What `payloadACDBTunnelParam` is given with the id 0 behind the pairs. Its blob size and what
follows the id are as they may be. -/
structure AcdbPayload (l : AcdbLayout) where
  bytes : List UInt8
  acdbParam : agm_acdb_param
  fields : readAcdbParam l bytes = some acdbParam
  multiple : readLE bytes 4 (l.param.sizeof + sizeof_key_value_pair * acdbParam.num_kvs) = some 0
  lt : bytes.length < 2 ^ 32

namespace AcdbPayload

variable {l} (payload : AcdbPayload l)

/-- Where the records begin. -/
def data : ℕ := l.param.sizeof + sizeof_key_value_pair * payload.acdbParam.num_kvs +
  sizeof_pal_effect_custom_payload_t

/-- What the blob size leaves for the records, as a 32-bit word. -/
def payloadSize : ℕ := sub32 payload.acdbParam.blob_size
  (sizeof_key_value_pair * payload.acdbParam.num_kvs + sizeof_pal_effect_custom_payload_t)

/-- The number of pairs that are appended. -/
def append (sampleRate : ℕ) : ℕ :=
  (appendSampleRateInCKV l payload.bytes payload.acdbParam.num_kvs sampleRate).getD 0

/-- A sample rate does not go with tag keys. -/
def Refused (sampleRate : ℕ) : Prop := sampleRate ≠ 0 ∧ payload.acdbParam.isTKV = true

instance decidableRefused (sampleRate : ℕ) : Decidable (payload.Refused sampleRate) :=
  inferInstanceAs (Decidable (_ ∧ _))

theorem pairs_inside : payload.data ≤ payload.bytes.length :=
  le_of_readLE payload.multiple

theorem payloadSize_lt : payload.payloadSize < 2 ^ 32 := by
  unfold payloadSize sub32
  omega

theorem findSampleRate_inside {b : List UInt8} {n k : ℕ}
    (h : l.param.sizeof + sizeof_key_value_pair * (k + n) ≤ b.length) :
    ∃ found, findSampleRate l b n k = some found := by
  induction n generalizing k with
  | zero => exact ⟨false, rfl⟩
  | succ n ih =>
    unfold sizeof_key_value_pair at h ih
    obtain ⟨key, hkey⟩ := readLE_of_le (b := b) (w := 4) (p := l.param.sizeof + 8 * k) (by omega)
    unfold findSampleRate sizeof_key_value_pair
    rw [hkey, Option.bind_some]
    split_ifs
    · exact ⟨true, rfl⟩
    · exact ih (by omega)

theorem append_eq (sampleRate : ℕ) : appendSampleRateInCKV l payload.bytes
    payload.acdbParam.num_kvs sampleRate = some (payload.append sampleRate) ∧
      payload.append sampleRate ≤ 1 := by
  have hinside := payload.pairs_inside
  unfold data at hinside
  obtain ⟨found, hfound⟩ := findSampleRate_inside (l := l) (b := payload.bytes)
    (n := payload.acdbParam.num_kvs) (k := 0) (by rw [Nat.zero_add]; omega)
  unfold append appendSampleRateInCKV
  split_ifs
  · rw [hfound]
    cases found
    · exact ⟨rfl, Nat.le_refl 1⟩
    · exact ⟨rfl, Nat.zero_le 1⟩
  · exact ⟨rfl, Nat.zero_le 1⟩

/-- The size that is allocated. -/
def allocated (num_gkvs sampleRate : ℕ) : ℕ :=
  size64 (frontSize l num_gkvs payload.acdbParam.num_kvs (payload.append sampleRate) +
    sizeof_apm_module_param_data_t + word32 (payload.payloadSize * 2))

/-- The function on such a payload. -/
theorem payloadACDBTunnelParam_eq (memory : Bool) (acdbGKVSet : List (ℕ × ℕ))
    (sampleRate fuel : ℕ) :
    ∃ pairs, payloadACDBTunnelParam l memory (some payload.bytes) acdbGKVSet sampleRate fuel =
      if payload.Refused sampleRate then some (.error (-EINVAL))
      else if !memory then some (.error (-ENOMEM))
      else
        (tunnelFront l payload.bytes payload.acdbParam acdbGKVSet (payload.append sampleRate)
            sampleRate (calloc (payload.allocated acdbGKVSet.length sampleRate))).bind
          fun written =>
            (repackLoop (fun header _ => header) payload.bytes payload.data payload.payloadSize
                payload.acdbParam.tag fuel written.1 written.2.1 0 0).bind fun repacked =>
              (patch repacked.1 l.tunnel.blob_size (toBytes 4 (pairs + repacked.2))).map
                fun out => .ok (word32 (written.2.2 + repacked.2), out) := by
  have hinside := payload.pairs_inside
  have hlt := payload.lt
  have hpairs : payload.acdbParam.num_kvs * sizeof_key_value_pair =
    sizeof_key_value_pair * payload.acdbParam.num_kvs := Nat.mul_comm _ _
  have happend := payload.append_eq sampleRate
  unfold data at hinside
  unfold payloadACDBTunnelParam
  simp only
  rw [payload.fields, Option.bind_some, happend.1, Option.bind_some, hpairs,
    word32_of_lt (show l.param.sizeof + sizeof_key_value_pair * payload.acdbParam.num_kvs < 2 ^ 32
      by omega), payload.multiple, Option.bind_some]
  simp only [ne_eq, not_true_eq_false, if_false]
  rw [word32_of_lt (show sizeof_key_value_pair * payload.acdbParam.num_kvs +
    sizeof_pal_effect_custom_payload_t < 2 ^ 32 by omega)]
  have hsum : word32 (payload.acdbParam.num_kvs + payload.append sampleRate) =
      payload.acdbParam.num_kvs + payload.append sampleRate := by
    unfold sizeof_key_value_pair at hinside
    exact word32_of_lt (by omega)
  have hsize : l.tunnel.sizeof + (payload.acdbParam.num_kvs + payload.append sampleRate +
      acdbGKVSet.length) * sizeof_key_value_pair =
        frontSize l acdbGKVSet.length payload.acdbParam.num_kvs (payload.append sampleRate) := by
    unfold frontSize sizeof_key_value_pair
    omega
  rw [hsum, hsize]
  exact ⟨_, rfl⟩

end AcdbPayload

/-! ### The law -/

/-- The loop ends with every access inside its buffer, and what is given back has behind `front` the
parameters of the records in their order, repacked, and ends with them. -/
def RepacksExactly (reply : (fuel : ℕ) → PayloadReply) (records : List GefParam → Prop)
    (front module_instance_id : ℕ) : Prop :=
  ∃ fuel res, reply fuel = some res ∧ ∀ size out, res = .ok (size, out) → ∀ rs, records rs →
    size = front + paddedSum rs ∧
      slice out front (paddedSum rs) = some (rs.flatMap fun r => r.repacked module_instance_id)

/-- A call with several parameters. -/
inductive MultiCall (l : AcdbLayout) where
  | payloadCustomParam (memory : Bool) (payload : CustomPayload) (moduleInstanceId : ℕ)
  | payloadACDBTunnelParam (memory : Bool) (payload : AcdbPayload l)
      (acdbGKVSet : List (ℕ × ℕ)) (sampleRate : ℕ)

variable {l}

/-- The call repacks its payload. -/
def MultiCall.Exact : MultiCall l → Prop
  | .payloadCustomParam memory payload moduleInstanceId =>
    RepacksExactly (PayloadBuilder.payloadCustomParam memory payload.bytes payload.bytes.length
      moduleInstanceId 0) (Records payload.bytes 0 payload.bytes.length 0) 0 moduleInstanceId
  | .payloadACDBTunnelParam memory payload acdbGKVSet sampleRate =>
    RepacksExactly (PayloadBuilder.payloadACDBTunnelParam l memory (some payload.bytes) acdbGKVSet
      sampleRate) (Records payload.bytes payload.data payload.payloadSize 0)
      (frontSize l acdbGKVSet.length payload.acdbParam.num_kvs (payload.append sampleRate))
      payload.acdbParam.tag

/-- Unless it is refused or there is no memory, the payload has records and fewer than `2 ^ 31`
bytes of them. Behind the pairs a blob size that cuts the last record must leave room for it, and
the whole size must be a 32-bit word. -/
def MultiCall.Fits : MultiCall l → Prop
  | .payloadCustomParam memory payload _ => memory = true →
    payload.bytes.length < 2 ^ 31 ∧ ∃ rs, Records payload.bytes 0 payload.bytes.length 0 rs
  | .payloadACDBTunnelParam memory payload acdbGKVSet sampleRate =>
    ¬ payload.Refused sampleRate → memory = true →
      payload.payloadSize < 2 ^ 31 ∧ ∃ rs,
        Records payload.bytes payload.data payload.payloadSize 0 rs ∧
        paddedSum rs ≤ 2 * payload.payloadSize + sizeof_apm_module_param_data_t ∧
        frontSize l acdbGKVSet.length payload.acdbParam.num_kvs (payload.append sampleRate) +
          paddedSum rs < 2 ^ 32

section Law

variable {reply : (fuel : ℕ) → PayloadReply} {records : List GefParam → Prop}
  {front module_instance_id : ℕ}

/-- A call that gives an error back promises nothing of its output. -/
theorem repacksExactly_of_error (e : ℤ) (h : ∀ fuel, reply fuel = some (.error e)) :
    RepacksExactly reply records front module_instance_id := by
  refine ⟨0, .error e, h 0, ?_⟩
  intro size out hok
  cases hok

/-- What the loop wrote is read back behind the front. -/
theorem slice_repacked (module_instance_id : ℕ) (before : List UInt8) (rs : List GefParam) (k : ℕ) :
    slice (before ++ (rs.flatMap fun r => r.repacked module_instance_id) ++ List.replicate k 0)
      before.length (paddedSum rs) = some (rs.flatMap fun r => r.repacked module_instance_id) := by
  have hlen : (rs.flatMap fun r => r.repacked module_instance_id).length = paddedSum rs := by
    induction rs with
    | nil => rfl
    | cons r rs ih =>
      rw [List.flatMap_cons, List.length_append, ih, r.length_repacked, paddedSum_cons]
  rw [List.append_assoc, ← hlen]
  exact slice_between _ _ _

/-! ### Custom parameters -/

theorem payloadCustomParam_eq (payload : List UInt8) (n moduleInstanceId fuel : ℕ) :
    payloadCustomParam true payload n moduleInstanceId 0 fuel =
      (repackLoop (fun _ totalPaddedSize => totalPaddedSize) payload 0 n moduleInstanceId fuel
        (calloc (word32 (n * 2))) 0 0 0).map fun repacked => .ok (repacked.2, repacked.1) := by
  unfold payloadCustomParam
  rw [if_neg (by decide), if_neg (by decide)]

theorem custom_fits (payload : CustomPayload) (moduleInstanceId : ℕ)
    (h : (MultiCall.payloadCustomParam (l := l) true payload moduleInstanceId).Exact) :
    payload.bytes.length < 2 ^ 31 ∧ ∃ rs, Records payload.bytes 0 payload.bytes.length 0 rs := by
  obtain ⟨fuel, res, hreply, hexact⟩ := h
  rw [payloadCustomParam_eq] at hreply
  obtain ⟨repacked, hloop, rfl⟩ := Option.map_eq_some_iff.mp hreply
  obtain ⟨rs, hrs⟩ := records_of_repackLoop payload.lt hloop
  obtain ⟨-, hslice⟩ := hexact _ _ rfl rs hrs
  have hlen := length_of_repackLoop hloop
  rw [length_calloc] at hlen
  have hroom := le_of_slice hslice
  have hlt := payload.lt
  refine ⟨?_, rs, hrs⟩
  -- from 2 GiB on the allocated size has wrapped, and is less than the payload's
  by_contra hbig
  have hmore := hrs.lt_paddedSum (by omega)
  unfold word32 at hlen
  omega

theorem custom_exact (payload : CustomPayload) (moduleInstanceId : ℕ)
    (hsmall : payload.bytes.length < 2 ^ 31) {rs : List GefParam}
    (hrs : Records payload.bytes 0 payload.bytes.length 0 rs) :
    (MultiCall.payloadCustomParam (l := l) true payload moduleInstanceId).Exact := by
  have hsum := hrs.paddedSum_le (Nat.zero_le _) (by omega)
  have hword : word32 (payload.bytes.length * 2) = payload.bytes.length * 2 :=
    word32_of_lt (by omega)
  have hempty : ([] : List UInt8).length = 0 + 0 := rfl
  have hloop := repackLoop_of_records (fun _ totalPaddedSize => totalPaddedSize) moduleInstanceId 0
    hrs hsmall (fun t => (Nat.zero_add t).symm) hempty
    (show paddedSum rs ≤ payload.bytes.length * 2 by omega) (by omega)
  simp only [List.nil_append, Nat.add_zero, Nat.zero_add] at hloop
  refine ⟨rs.length + 1, .ok (paddedSum rs, (rs.flatMap fun r : GefParam =>
    r.repacked moduleInstanceId) ++ List.replicate (payload.bytes.length * 2 - paddedSum rs) 0),
    ?_, ?_⟩
  · rw [payloadCustomParam_eq, hword]
    unfold calloc
    rw [hloop, Option.map_some]
  · intro size out h rs' hrs'
    cases h
    rw [← hrs.unique hrs']
    exact ⟨(Nat.zero_add _).symm, slice_repacked moduleInstanceId [] rs _⟩

theorem custom_exact_iff (memory : Bool) (payload : CustomPayload) (moduleInstanceId : ℕ) :
    (MultiCall.payloadCustomParam (l := l) memory payload moduleInstanceId).Exact ↔
      (MultiCall.payloadCustomParam (l := l) memory payload moduleInstanceId).Fits := by
  cases memory with
  | false =>
    exact iff_of_true (repacksExactly_of_error (-ENOMEM) fun _ => rfl) (fun h => by cases h)
  | true =>
    constructor
    · intro h _
      exact custom_fits payload moduleInstanceId h
    · intro h
      obtain ⟨hsmall, rs, hrs⟩ := h rfl
      exact custom_exact payload moduleInstanceId hsmall hrs

/-! ### The ACDB tunnel -/

theorem tunnel_fits (payload : AcdbPayload l) (acdbGKVSet : List (ℕ × ℕ)) (sampleRate : ℕ)
    (hgo : ¬ payload.Refused sampleRate)
    (h : (MultiCall.payloadACDBTunnelParam true payload acdbGKVSet sampleRate).Exact) :
    (MultiCall.payloadACDBTunnelParam true payload acdbGKVSet sampleRate).Fits := by
  intro _ _
  obtain ⟨fuel, res, hreply, hexact⟩ := h
  obtain ⟨pairs, heq⟩ := payload.payloadACDBTunnelParam_eq true acdbGKVSet sampleRate fuel
  rw [heq, if_neg hgo, if_neg (by decide)] at hreply
  obtain ⟨written, hwritten, hreply⟩ := Option.bind_eq_some_iff.mp hreply
  obtain ⟨repacked, hloop, hreply⟩ := Option.bind_eq_some_iff.mp hreply
  obtain ⟨out, hout, rfl⟩ := Option.map_eq_some_iff.mp hreply
  obtain ⟨rs, hrs⟩ := records_of_repackLoop payload.payloadSize_lt hloop
  obtain ⟨hsize, hslice⟩ := hexact _ _ rfl rs hrs
  have hlen : out.length = payload.allocated acdbGKVSet.length sampleRate := by
    rw [length_of_patch hout, length_of_repackLoop hloop, length_of_tunnelFront hwritten,
      length_calloc]
  have hroom := le_of_slice hslice
  have hlt := payload.lt
  have hP := payload.payloadSize_lt
  have hdata : 16 ≤ payload.data := by
    have hwords := l.param.three_words
    unfold AcdbPayload.data sizeof_pal_effect_custom_payload_t
    omega
  have hword : word32 (written.2.2 + repacked.2) < 2 ^ 32 := Nat.mod_lt _ (by decide)
  have halloc : payload.allocated acdbGKVSet.length sampleRate ≤
      frontSize l acdbGKVSet.length payload.acdbParam.num_kvs (payload.append sampleRate) +
        sizeof_apm_module_param_data_t + word32 (payload.payloadSize * 2) := Nat.mod_le _ _
  unfold sizeof_apm_module_param_data_t at halloc
  -- from 2 GiB on the allocated size has wrapped, and is less than the payload's
  have hsmall : payload.payloadSize < 2 ^ 31 := by
    by_contra hbig
    have hmore := hrs.lt_paddedSum (by omega)
    have hinside := hrs.payloadSize_le (by omega)
    unfold word32 at halloc
    omega
  have hwordP : word32 (payload.payloadSize * 2) = payload.payloadSize * 2 :=
    word32_of_lt (by omega)
  rw [hwordP] at halloc
  refine ⟨hsmall, rs, hrs, ?_, by omega⟩
  unfold sizeof_apm_module_param_data_t
  omega

theorem tunnel_exact (payload : AcdbPayload l) (acdbGKVSet : List (ℕ × ℕ)) (sampleRate : ℕ)
    (hgo : ¬ payload.Refused sampleRate) (hsmall : payload.payloadSize < 2 ^ 31)
    {rs : List GefParam} (hrs : Records payload.bytes payload.data payload.payloadSize 0 rs)
    (hroom : paddedSum rs ≤ 2 * payload.payloadSize + sizeof_apm_module_param_data_t)
    (hsize : frontSize l acdbGKVSet.length payload.acdbParam.num_kvs (payload.append sampleRate) +
      paddedSum rs < 2 ^ 32) :
    (MultiCall.payloadACDBTunnelParam true payload acdbGKVSet sampleRate).Exact := by
  obtain ⟨m, hm⟩ : ∃ m, 2 * payload.payloadSize + sizeof_apm_module_param_data_t = m := ⟨_, rfl⟩
  rw [hm] at hroom
  have hkvs : l.param.sizeof + sizeof_key_value_pair * payload.acdbParam.num_kvs ≤
      payload.bytes.length := by
    have hinside := payload.pairs_inside
    unfold AcdbPayload.data at hinside
    omega
  obtain ⟨front, hlen, hfront⟩ := tunnelFront_calloc acdbGKVSet sampleRate m hkvs
    (payload.append_eq sampleRate).2 (by omega)
  have halloc : payload.allocated acdbGKVSet.length sampleRate = front.length + m := by
    have hsixteen : sizeof_apm_module_param_data_t = 16 := rfl
    unfold AcdbPayload.allocated
    rw [← hlen, word32_of_lt (by omega), size64_of_lt (by omega)]
    omega
  have hloop := repackLoop_of_records (fun header _ => header) payload.acdbParam.tag 0 hrs hsmall
    (fun t => rfl) (Nat.add_zero front.length).symm hroom (by omega)
  simp only [Nat.add_zero, Nat.zero_add] at hloop
  obtain ⟨pairs, heq⟩ := payload.payloadACDBTunnelParam_eq true acdbGKVSet sampleRate
    (rs.length + 1)
  -- the blob size is written in front of the parameters
  have hblob : l.tunnel.blob_size + (toBytes 4 (pairs + paddedSum rs)).length ≤ front.length := by
    obtain ⟨-, -, -, hinside⟩ := l.tunnel.words_inside
    have htunnel : l.tunnel.sizeof ≤ front.length := by
      rw [hlen]
      exact Nat.le_add_right _ _
    rw [length_toBytes]
    omega
  obtain ⟨out, hpatch⟩ := Option.isSome_iff_exists.mp
    (patch_isSome.mpr (show l.tunnel.blob_size + (toBytes 4 (pairs + paddedSum rs)).length ≤
      (front ++ (rs.flatMap fun r : GefParam => r.repacked payload.acdbParam.tag) ++
        List.replicate (m - paddedSum rs) 0).length by
      rw [length_of_repackLoop hloop, List.length_append]
      omega))
  refine ⟨rs.length + 1, .ok (front.length + paddedSum rs, out), ?_, ?_⟩
  · rw [heq, if_neg hgo, if_neg (by decide), halloc, hfront, Option.bind_some]
    simp only
    rw [hloop, Option.bind_some, hpatch, Option.map_some, word32_of_lt (by omega)]
  · intro size out' hok rs' hrs'
    cases hok
    rw [← hrs.unique hrs', ← hlen]
    refine ⟨rfl, ?_⟩
    rw [slice_patch_behind hpatch hblob]
    exact slice_repacked payload.acdbParam.tag front rs (m - paddedSum rs)

theorem tunnel_exact_iff (memory : Bool) (payload : AcdbPayload l) (acdbGKVSet : List (ℕ × ℕ))
    (sampleRate : ℕ) :
    (MultiCall.payloadACDBTunnelParam memory payload acdbGKVSet sampleRate).Exact ↔
      (MultiCall.payloadACDBTunnelParam memory payload acdbGKVSet sampleRate).Fits := by
  by_cases hrefused : payload.Refused sampleRate
  · refine iff_of_true (repacksExactly_of_error (-EINVAL) fun fuel => ?_)
      (fun h => absurd hrefused h)
    obtain ⟨pairs, heq⟩ := payload.payloadACDBTunnelParam_eq memory acdbGKVSet sampleRate fuel
    rw [heq, if_pos hrefused]
  cases memory with
  | false =>
    refine iff_of_true (repacksExactly_of_error (-ENOMEM) fun fuel => ?_) (fun _ h => by cases h)
    obtain ⟨pairs, heq⟩ := payload.payloadACDBTunnelParam_eq false acdbGKVSet sampleRate fuel
    rw [heq, if_neg hrefused]
    rfl
  | true =>
    constructor
    · exact tunnel_fits payload acdbGKVSet sampleRate hrefused
    · intro h
      obtain ⟨hsmall, rs, hrs, hroom, hsize⟩ := h hrefused rfl
      exact tunnel_exact payload acdbGKVSet sampleRate hrefused hsmall hrs hroom hsize

end Law

/-- **Several parameters are repacked exactly when the payload has records and fewer than `2 ^ 31`
bytes of them**; behind the pairs of the ACDB tunnel the blob size must also leave room for the last
record. -/
theorem multiParam_exact_iff (call : MultiCall l) : call.Exact ↔ call.Fits := by
  cases call with
  | payloadCustomParam memory payload moduleInstanceId =>
    exact custom_exact_iff memory payload moduleInstanceId
  | payloadACDBTunnelParam memory payload acdbGKVSet sampleRate =>
    exact tunnel_exact_iff memory payload acdbGKVSet sampleRate

/-- The fields in the order they are used, each word at a multiple of four. -/
def alignedLayout : AcdbLayout where
  param := ⟨0, 4, 8, 12, 16, by decide, by decide, by decide⟩
  tunnel := ⟨0, 4, 8, 12, 16, 20, by decide, by decide⟩
  SAMPLINGRATE := 0xD2000000

/-- A header whose length is one, and no byte behind it. -/
def cutPayload : CustomPayload := ⟨[0, 0, 0, 0, 1, 0, 0, 0, 1, 0, 0, 0], by decide⟩

/-- The copy of that byte reads behind the payload. -/
theorem not_exact_cutPayload :
    ¬ (MultiCall.payloadCustomParam (l := alignedLayout) true cutPayload 7).Exact := by
  intro h
  obtain ⟨-, rs, hrs⟩ := custom_fits cutPayload 7 h
  cases rs with
  | nil =>
    have hend : 12 ≤ 0 := hrs
    omega
  | cons r rs =>
    obtain ⟨-, -, hlength, hbytes, -⟩ := hrs
    have hone : some 1 = some r.bytes.length := hlength
    rw [← Option.some.inj hone] at hbytes
    rcases hbytes with hnil | hslice
    · rw [hnil] at hone
      cases hone
    · have hinside : 12 + 1 ≤ 12 := le_of_slice hslice
      omega

/-- A payload of whole records is repacked exactly when it has fewer than `2 ^ 31` bytes. -/
theorem custom_whole_exact_iff (payload : CustomPayload) (moduleInstanceId : ℕ)
    {records : List LegacyGefRecord} (h : payload.bytes = records.flatMap LegacyGefRecord.raw) :
    (MultiCall.payloadCustomParam (l := l) true payload moduleInstanceId).Exact ↔
      payload.bytes.length < 2 ^ 31 := by
  constructor
  · intro hexact
    exact (custom_fits payload moduleInstanceId hexact).1
  · intro hsmall
    have hslice : slice payload.bytes 0 payload.bytes.length =
        some ([] ++ records.flatMap LegacyGefRecord.raw) := by
      rw [List.nil_append, ← h, slice_eq_some (by omega), List.drop_zero, List.take_length]
    exact custom_exact payload moduleInstanceId hsmall (records_of_whole hslice)

end AudioReachPal.PayloadBuilder
