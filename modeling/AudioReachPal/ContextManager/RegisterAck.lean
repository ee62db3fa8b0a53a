import AudioReachPal.ContextManager.Requests
import AudioReachPal.Lib.Region

/-!
# The bytes of a register ack

A register ack carries the instance ids of the modules that the usecase's tags stand for. They come
from the list of tags that `palStreamGetCustomParam` writes into a buffer of the usecase, and go
into the buffer of the ack. Both buffers have a default size and a second try with the size that is
needed: the first of them writes where the buffer was before it grew, and the second is never made.
-/

namespace AudioReachPal.Context.RegisterAck

open AudioReachPal.Lib

/-! ### The list of tags -/

structure module_info where
  module_id : UInt32
  module_iid : UInt32
  deriving DecidableEq

/-- `pal_tag_module_mapping`, with as many modules as it says. -/
structure pal_tag_module_mapping where
  tag_id : UInt32
  mod_list : List module_info
  deriving DecidableEq

def sizeof_module_info : ℕ := 4 + 4
def sizeof_pal_tag_module_mapping : ℕ := 4 + 4

def module_info.bytes (m : module_info) : List UInt8 :=
  toBytes 4 m.module_id.toNat ++ toBytes 4 m.module_iid.toNat

def pal_tag_module_mapping.bytes (e : pal_tag_module_mapping) : List UInt8 :=
  toBytes 4 e.tag_id.toNat ++ (toBytes 4 e.mod_list.length ++ e.mod_list.flatMap module_info.bytes)

/-- A `pal_tag_module_info` of the entries. -/
def palTagModuleInfo (entries : List pal_tag_module_mapping) : List UInt8 :=
  toBytes 4 entries.length ++ entries.flatMap pal_tag_module_mapping.bytes

/-- The instance ids of all entries with the tag, in order. -/
def iids (entries : List pal_tag_module_mapping) (tag : ℕ) : List ℕ :=
  (entries.filter fun e => e.tag_id.toNat == tag).flatMap fun e =>
    e.mod_list.map (·.module_iid.toNat)

/-! ### Reading the list -/

def TAG_MODULE_DEFAULT_SIZE : ℕ := 1024

/-- `palStreamGetCustomParam` for a stream with the list `info`, into a buffer of `size` bytes:
its status, the size, and what it writes. -/
def palStreamGetCustomParam (info : List UInt8) (size : ℕ) : ℤ × ℕ × List UInt8 :=
  if size < info.length then (ENODATA, info.length, []) else (0, info.length, info)

/-- `tag_miid_map`, as the ids that are pushed with their tag. -/
abbrev TagMap := List (ℕ × ℕ)

/-- `tag_miid_map[tag]` -/
def TagMap.at (tag_miid_map : TagMap) (tag : ℕ) : List ℕ :=
  (tag_miid_map.filter fun entry => entry.1 == tag).map Prod.snd

/-- The instance ids of `n` modules from `p` on. -/
def readIids (bytes : List UInt8) : (p n : ℕ) → Option (List ℕ)
  | _, 0 => some []
  | p, n + 1 =>
    (readLE bytes 4 (p + 4)).bind fun module_iid =>
      (readIids bytes (p + sizeof_module_info) n).map (module_iid :: ·)

/-- The loop over the tags, with `n` of them left. The pointer is moved at the beginning of a round,
by the offset of the round before. -/
def walkTags (bytes : List UInt8) (tags : List ℕ) :
    (n tag_entry offset : ℕ) → TagMap → Option TagMap
  | 0, _, _, tag_miid_map => some tag_miid_map
  | n + 1, tag_entry, offset, tag_miid_map =>
    let tag_entry := tag_entry +
      offset / sizeof_pal_tag_module_mapping * sizeof_pal_tag_module_mapping
    (readLE bytes 4 (tag_entry + 4)).bind fun num_modules =>
      let offset := word32 (sizeof_pal_tag_module_mapping + num_modules * sizeof_module_info)
      (readLE bytes 4 tag_entry).bind fun tag_id =>
        if tag_id ∈ tags then
          (readIids bytes (tag_entry + sizeof_pal_tag_module_mapping) num_modules).bind fun found =>
            walkTags bytes tags n tag_entry offset (tag_miid_map ++ found.map (tag_id, ·))
        else walkTags bytes tags n tag_entry offset tag_miid_map

/-- `getModuleIIDs`: the status and the map. `none` is a read outside the bytes that were given, a
write to where a buffer was, or `front` of no tags. -/
def getModuleIIDs (info : List UInt8) (tags : List ℕ) : Option (ℤ × TagMap) :=
  let got := palStreamGetCustomParam info TAG_MODULE_DEFAULT_SIZE
  let again :=
    if got.1 = ENODATA then
      -- `resize` moves a vector that grows, and `data` is its old place
      if TAG_MODULE_DEFAULT_SIZE < got.2.1 then none
      else some (palStreamGetCustomParam info got.2.1)
    else some got
  again.bind fun got =>
    if got.1 ≠ 0 then some (got.1, [])
    else
      (readLE got.2.2 4 0).bind fun num_tags =>
        (walkTags got.2.2 tags num_tags 4 0 []).bind fun tag_miid_map =>
          if tag_miid_map = [] then
            if tags = [] then none else some (-ENODATA, tag_miid_map)
          else some (0, tag_miid_map)

/-! ### The data of the ack -/

/-- `asps_acd_usecase_register_ack_payload_t`, which the sensor side's headers declare: where its
fields are, the context ids last. -/
structure AcdAckLayout where
  module_instance_id : ℕ
  num_contexts : ℕ
  context_ids : ℕ
  sizeof : ℕ
  apart : module_instance_id + 4 ≤ num_contexts ∨ num_contexts + 4 ≤ module_instance_id
  behind : module_instance_id + 4 ≤ context_ids ∧ num_contexts + 4 ≤ context_ids
  inside : context_ids ≤ sizeof

/-- A usecase, as far as its ack is concerned. -/
structure AckUsecase where
  type : UsecaseClass
  tags : List ℕ
  requested_context_list : Option pal_param_context_list

variable (l : AcdAckLayout)

/-- `UsecaseACD::GetAckDataOnSuccessfullStart`, behind the module ids: the status, `*size` and the
data. -/
def getAcdAckData (uc : AckUsecase) (size : ℕ) (data : List UInt8) (tag_miid_map : TagMap) :
    Option (ℤ × ℕ × List UInt8) :=
  uc.requested_context_list.bind fun requested_context_list =>
    let need := l.sizeof + 4 * requested_context_list.num_contexts
    if need ≤ size then
      uc.tags.head?.bind fun tag =>
        (tag_miid_map.at tag).head?.bind fun miid =>
          (patch data l.module_instance_id (toBytes 4 miid)).bind fun data =>
            (patch data l.num_contexts (toBytes 4 requested_context_list.num_contexts)).bind fun data =>
              (slice (wordBytes requested_context_list.context_id) 0
                (4 * requested_context_list.num_contexts)).bind fun ids =>
                  (patch data l.context_ids ids).map fun data => (0, word32 need, data)
    else some (-ENODATA, word32 need, data)

/-- `getAckDataOnSuccessfullStart`; only `UsecaseACD` looks at the size. -/
def getAckDataOnSuccessfullStart (uc : AckUsecase) (info : List UInt8) (size : ℕ)
    (data : List UInt8) : Option (ℤ × ℕ × List UInt8) :=
  (getModuleIIDs info uc.tags).bind fun (rc, tag_miid_map) =>
    if rc ≠ 0 then some (rc, size, data)
    else match uc.type with
      | .UsecaseACD => getAcdAckData l uc size data tag_miid_map
      | .UsecaseUPD | .UsecasePCMData | .UsecasePCMRenderer | .UsecaseSDZ | .UsecaseASR =>
        let miids := uc.tags.flatMap tag_miid_map.at
        (patchWords data 0 miids).map fun data => (0, word32 (4 * miids.length), data)

/-- What is outside: which of the allocations succeed, and what `send_asps_response` returns. -/
structure AckEnv where
  calloc_ack : Bool
  calloc_ack_again : Bool
  calloc_response : Bool
  send_asps_response : ℤ

/-- `param_id_asps_sensor_register_ack_t` -/
structure param_id_asps_sensor_register_ack_t where
  see_sensor_iid : ℕ
  usecase_id : ℕ
  payload_size : ℕ
  payload : List UInt8
  deriving DecidableEq

/-- `buildAndSendRegisterAck`: the status and what was sent. -/
def buildAndSendRegisterAck (env : AckEnv) (uc : AckUsecase) (info : List UInt8)
    (see_id uc_id : ℕ) : Option (ℤ × List param_id_asps_sensor_register_ack_t) :=
  let calloc (size : ℕ) : List UInt8 := List.replicate size 0
  if !env.calloc_ack then some (-ENOMEM, [])
  else
    (getAckDataOnSuccessfullStart l uc info ACKDATA_DEFAULT_SIZE (calloc ACKDATA_DEFAULT_SIZE)).bind
      fun got =>
        let again :=
          if got.1 = ENODATA then
            if !env.calloc_ack_again then some (-ENOMEM, got.2.1, [])
            else getAckDataOnSuccessfullStart l uc info got.2.1 (calloc got.2.1)
          else some got
        again.bind fun (rc, ack_payload_size, ack_payload) =>
          if rc ≠ 0 then some (rc, [])
          else if !env.calloc_response then some (-ENOMEM, [])
          else
            (slice ack_payload 0 ack_payload_size).map fun payload =>
              if env.send_asps_response ≠ 0 then (env.send_asps_response, [])
              else (0, [⟨see_id, uc_id, ack_payload_size, payload⟩])

/-! ### What is right -/

/-- The ack's payload is the whole answer: the ids of all tags or, for an ACD usecase, that of the
first tag and the contexts. -/
def Complete (uc : AckUsecase) (entries : List pal_tag_module_mapping) (payload : List UInt8) :
    Prop :=
  match uc.type with
  | .UsecaseACD => ∃ tag miid requested_context_list, uc.tags.head? = some tag ∧
      (iids entries tag).head? = some miid ∧
      uc.requested_context_list = some requested_context_list ∧
      payload.length = l.sizeof + 4 * requested_context_list.num_contexts ∧
      readLE payload 4 l.module_instance_id = some miid ∧
      readLE payload 4 l.num_contexts = some requested_context_list.num_contexts ∧
      slice payload l.context_ids (4 * requested_context_list.num_contexts) =
        some (wordBytes requested_context_list.context_id)
  | .UsecaseUPD | .UsecasePCMData | .UsecasePCMRenderer | .UsecaseSDZ | .UsecaseASR =>
    payload = wordBytes (uc.tags.flatMap (iids entries))

/-- The module ids are read from the list alone and are those of the tags, and the ack carries the
whole answer. -/
structure Answered (env : AckEnv) (uc : AckUsecase) (entries : List pal_tag_module_mapping)
    (see_id uc_id : ℕ) : Prop where
  iids : ∃ rc tag_miid_map,
    getModuleIIDs (palTagModuleInfo entries) uc.tags = some (rc, tag_miid_map) ∧
      ∀ tag ∈ uc.tags, tag_miid_map.at tag = RegisterAck.iids entries tag
  ack : ∃ payload,
    buildAndSendRegisterAck l env uc (palTagModuleInfo entries) see_id uc_id =
      some (0, [⟨see_id, uc_id, payload.length, payload⟩]) ∧ Complete l uc entries payload

/-! ### The walk -/

theorem length_module_bytes (m : module_info) : m.bytes.length = 8 := by
  rw [module_info.bytes, List.length_append, length_toBytes, length_toBytes]

theorem length_modules_bytes (ms : List module_info) :
    (ms.flatMap module_info.bytes).length = 8 * ms.length := by
  induction ms with
  | nil => rfl
  | cons m ms ih =>
    rw [List.flatMap_cons, List.length_append, length_module_bytes, ih, List.length_cons]
    omega

theorem length_entry_bytes (e : pal_tag_module_mapping) :
    e.bytes.length = 8 + 8 * e.mod_list.length := by
  rw [pal_tag_module_mapping.bytes, List.length_append, List.length_append, length_toBytes,
    length_toBytes, length_modules_bytes]
  omega

theorem readIids_modules (ms : List module_info) (front back : List UInt8) :
    readIids (front ++ (ms.flatMap module_info.bytes ++ back)) front.length ms.length =
      some (ms.map (·.module_iid.toNat)) := by
  induction ms generalizing front with
  | nil => rfl
  | cons m ms ih =>
    have hsplit : front ++ ((m :: ms).flatMap module_info.bytes ++ back) =
        (front ++ toBytes 4 m.module_id.toNat) ++ (toBytes 4 m.module_iid.toNat ++
          (ms.flatMap module_info.bytes ++ back)) := by
      simp [module_info.bytes, List.append_assoc]
    have hat : front.length + 4 = (front ++ toBytes 4 m.module_id.toNat).length := by
      rw [List.length_append, length_toBytes]
    have hrest := ih (front ++ m.bytes)
    rw [List.length_append, length_module_bytes] at hrest
    have hsame : front ++ ((m :: ms).flatMap module_info.bytes ++ back) =
        (front ++ m.bytes) ++ (ms.flatMap module_info.bytes ++ back) := by
      rw [List.flatMap_cons, List.append_assoc, List.append_assoc]
    have hread : readLE (front ++ ((m :: ms).flatMap module_info.bytes ++ back)) 4
        (front.length + 4) = some m.module_iid.toNat := by
      rw [hsplit, hat]
      exact readLE_between _ _ (by have := m.module_iid.toNat_lt; omega)
    rw [← hsame] at hrest
    show (readLE _ 4 (front.length + 4)).bind (fun module_iid =>
      (readIids _ (front.length + 8) ms.length).map (module_iid :: ·)) = _
    rw [hread, Option.bind_some, hrest]
    rfl

/-- What the walk pushes. -/
def pushed (tags : List ℕ) (entries : List pal_tag_module_mapping) : TagMap :=
  (entries.filter fun e => e.tag_id.toNat ∈ tags).flatMap fun e =>
    e.mod_list.map fun m => (e.tag_id.toNat, m.module_iid.toNat)

/-- **The walk** over a list that is laid out from its pointer on. -/
theorem walkTags_entries (tags : List ℕ) (entries : List pal_tag_module_mapping) :
    ∀ (front : List UInt8) (tag_entry offset : ℕ) (tag_miid_map : TagMap),
      tag_entry + offset / sizeof_pal_tag_module_mapping * sizeof_pal_tag_module_mapping =
        front.length →
      (front ++ entries.flatMap pal_tag_module_mapping.bytes).length < 2 ^ 32 →
      walkTags (front ++ entries.flatMap pal_tag_module_mapping.bytes) tags entries.length tag_entry
        offset tag_miid_map = some (tag_miid_map ++ pushed tags entries) := by
  induction entries with
  | nil =>
    intro front tag_entry offset tag_miid_map _ _
    simp [walkTags, pushed]
  | cons e entries ih =>
    intro front tag_entry offset tag_miid_map hat hsize
    have hentry := length_entry_bytes e
    have hwhole : front ++ (e :: entries).flatMap pal_tag_module_mapping.bytes =
        (front ++ e.bytes) ++ entries.flatMap pal_tag_module_mapping.bytes := by
      rw [List.flatMap_cons, List.append_assoc]
    have hsmall : e.mod_list.length < 2 ^ 32 ∧ 8 + 8 * e.mod_list.length < 2 ^ 32 := by
      rw [hwhole, List.length_append, List.length_append] at hsize
      omega
    -- the three parts of the entry, and what is around them
    have htag : front ++ (e :: entries).flatMap pal_tag_module_mapping.bytes =
        front ++ (toBytes 4 e.tag_id.toNat ++ (toBytes 4 e.mod_list.length ++
          (e.mod_list.flatMap module_info.bytes ++
            entries.flatMap pal_tag_module_mapping.bytes))) := by
      simp [pal_tag_module_mapping.bytes, List.append_assoc]
    have hnum : front ++ (e :: entries).flatMap pal_tag_module_mapping.bytes =
        (front ++ toBytes 4 e.tag_id.toNat) ++ (toBytes 4 e.mod_list.length ++
          (e.mod_list.flatMap module_info.bytes ++
            entries.flatMap pal_tag_module_mapping.bytes)) := by
      rw [htag, List.append_assoc]
    have hmods : front ++ (e :: entries).flatMap pal_tag_module_mapping.bytes =
        (front ++ (toBytes 4 e.tag_id.toNat ++ toBytes 4 e.mod_list.length)) ++
          (e.mod_list.flatMap module_info.bytes ++
            entries.flatMap pal_tag_module_mapping.bytes) := by
      rw [htag]
      simp only [List.append_assoc]
    have hreadTag : readLE (front ++ (e :: entries).flatMap pal_tag_module_mapping.bytes) 4
        front.length = some e.tag_id.toNat := by
      rw [htag]
      exact readLE_between _ _ (by have := e.tag_id.toNat_lt; omega)
    have hreadNum : readLE (front ++ (e :: entries).flatMap pal_tag_module_mapping.bytes) 4
        (front.length + 4) = some e.mod_list.length := by
      have hread := readLE_between (front ++ toBytes 4 e.tag_id.toNat)
        (e.mod_list.flatMap module_info.bytes ++ entries.flatMap pal_tag_module_mapping.bytes)
        (w := 4) hsmall.1
      rw [List.length_append, length_toBytes] at hread
      rw [hnum]
      exact hread
    have hreadMods : readIids (front ++ (e :: entries).flatMap pal_tag_module_mapping.bytes)
        (front.length + sizeof_pal_tag_module_mapping) e.mod_list.length =
          some (e.mod_list.map (·.module_iid.toNat)) := by
      have hread := readIids_modules e.mod_list
        (front ++ (toBytes 4 e.tag_id.toNat ++ toBytes 4 e.mod_list.length))
        (entries.flatMap pal_tag_module_mapping.bytes)
      rw [List.length_append, List.length_append, length_toBytes, length_toBytes] at hread
      rw [hmods]
      exact hread
    have hoffset : word32 (sizeof_pal_tag_module_mapping + e.mod_list.length * sizeof_module_info) =
        8 + 8 * e.mod_list.length := by
      unfold word32 sizeof_pal_tag_module_mapping sizeof_module_info
      omega
    have hnext : front.length + (8 + 8 * e.mod_list.length) / sizeof_pal_tag_module_mapping *
        sizeof_pal_tag_module_mapping = (front ++ e.bytes).length := by
      rw [List.length_append, hentry]
      unfold sizeof_pal_tag_module_mapping
      omega
    rw [List.length_cons]
    unfold walkTags
    dsimp only
    rw [hat, hreadNum, Option.bind_some, hreadTag, Option.bind_some, hoffset]
    by_cases hmem : e.tag_id.toNat ∈ tags
    · have hpushed : pushed tags (e :: entries) =
          (e.mod_list.map (·.module_iid.toNat)).map (e.tag_id.toNat, ·) ++ pushed tags entries := by
        simp [pushed, hmem, Function.comp_def]
      rw [if_pos hmem, hreadMods, Option.bind_some, hpushed, ← List.append_assoc, hwhole]
      exact ih (front ++ e.bytes) _ _ _ hnext (hwhole ▸ hsize)
    · have hpushed : pushed tags (e :: entries) = pushed tags entries := by
        simp [pushed, hmem]
      rw [if_neg hmem, hpushed, hwhole]
      exact ih (front ++ e.bytes) _ _ _ hnext (hwhole ▸ hsize)

theorem pushed_at {tags : List ℕ} {tag : ℕ} (h : tag ∈ tags)
    (entries : List pal_tag_module_mapping) :
    (pushed tags entries).at tag = iids entries tag := by
  induction entries with
  | nil => rfl
  | cons e entries ih =>
    have hsplit : ∀ map map' : TagMap, TagMap.at (map ++ map') tag = map.at tag ++ map'.at tag := by
      intro map map'
      unfold TagMap.at
      rw [List.filter_append, List.map_append]
    by_cases htag : e.tag_id.toNat = tag
    · have hown : TagMap.at (e.mod_list.map fun m => (e.tag_id.toNat, m.module_iid.toNat)) tag =
          e.mod_list.map (·.module_iid.toNat) := by
        simp [TagMap.at, htag, List.filter_map, Function.comp_def]
      have hmem : e.tag_id.toNat ∈ tags := htag ▸ h
      have hpushed : pushed tags (e :: entries) =
          (e.mod_list.map fun m => (e.tag_id.toNat, m.module_iid.toNat)) ++ pushed tags entries := by
        simp [pushed, hmem]
      rw [hpushed, hsplit, hown, ih]
      simp [iids, htag]
    · have hiids : iids (e :: entries) tag = iids entries tag := by simp [iids, htag]
      rw [hiids, ← ih]
      by_cases hmem : e.tag_id.toNat ∈ tags
      · have hown : TagMap.at (e.mod_list.map fun m => (e.tag_id.toNat, m.module_iid.toNat)) tag =
            [] := by
          simp [TagMap.at, htag]
        have hpushed : pushed tags (e :: entries) =
            (e.mod_list.map fun m => (e.tag_id.toNat, m.module_iid.toNat)) ++
              pushed tags entries := by
          simp [pushed, hmem]
        rw [hpushed, hsplit, hown, List.nil_append]
      · simp [pushed, hmem]

/-- Nothing is pushed exactly where no tag has a module. -/
theorem pushed_eq_nil_iff (tags : List ℕ) (entries : List pal_tag_module_mapping) :
    pushed tags entries = [] ↔ ∀ tag ∈ tags, iids entries tag = [] := by
  constructor
  · intro h tag htag
    rw [← pushed_at htag, h]
    rfl
  · intro h
    refine List.flatMap_eq_nil_iff.mpr fun e he => ?_
    obtain ⟨he, htag⟩ := List.mem_filter.mp he
    have hnone := List.flatMap_eq_nil_iff.mp (h _ (of_decide_eq_true htag)) e
      (List.mem_filter.mpr ⟨he, beq_self_eq_true _⟩)
    rw [List.map_eq_nil_iff] at hnone ⊢
    exact hnone

/-- **The module ids** of a list that fits the default buffer; of a larger one, none. -/
theorem getModuleIIDs_eq (entries : List pal_tag_module_mapping) (tags : List ℕ) :
    getModuleIIDs (palTagModuleInfo entries) tags =
      if TAG_MODULE_DEFAULT_SIZE < (palTagModuleInfo entries).length then none
      else if pushed tags entries = [] then
        if tags = [] then none else some (-ENODATA, pushed tags entries)
      else some (0, pushed tags entries) := by
  have hnodata : ENODATA ≠ 0 := by decide
  unfold getModuleIIDs palStreamGetCustomParam
  by_cases hlarge : TAG_MODULE_DEFAULT_SIZE < (palTagModuleInfo entries).length
  · simp [hlarge]
  · have hlen : (palTagModuleInfo entries).length < 2 ^ 32 := by
      unfold TAG_MODULE_DEFAULT_SIZE at hlarge
      omega
    have hcount : entries.length < 2 ^ 32 := by
      have hle : entries.length ≤ (entries.flatMap pal_tag_module_mapping.bytes).length := by
        clear hlarge hlen
        induction entries with
        | nil => exact Nat.le_refl _
        | cons e entries ih =>
          rw [List.flatMap_cons, List.length_append, length_entry_bytes, List.length_cons]
          omega
      rw [palTagModuleInfo, List.length_append] at hlen
      omega
    have hread : readLE (palTagModuleInfo entries) 4 0 = some entries.length :=
      readLE_between [] (entries.flatMap pal_tag_module_mapping.bytes) hcount
    have hwalk : walkTags (palTagModuleInfo entries) tags entries.length 4 0 [] =
        some (pushed tags entries) :=
      walkTags_entries tags entries (toBytes 4 entries.length) 4 0 []
        (by rw [length_toBytes]; rfl) hlen
    simp only [hlarge, if_false, hnodata.symm, ne_eq, not_true, Option.bind_some, hread, hwalk]

/-! ### The data -/

variable {l}

theorem iids_lt {entries : List pal_tag_module_mapping} {tag miid : ℕ}
    (h : miid ∈ iids entries tag) : miid < 2 ^ 32 := by
  obtain ⟨e, -, hmem⟩ := List.mem_flatMap.mp h
  obtain ⟨m, -, rfl⟩ := List.mem_map.mp hmem
  exact m.module_iid.toNat_lt

/-- **The data of an ACD ack**, where it fits. -/
theorem getAcdAckData_spec {uc : AckUsecase} {tag_miid_map : TagMap} {tag miid : ℕ}
    {requested_context_list : pal_param_context_list} (htag : uc.tags.head? = some tag)
    (hmiid : (tag_miid_map.at tag).head? = some miid) (hbound : miid < 2 ^ 32)
    (hlist : uc.requested_context_list = some requested_context_list)
    (hlen : requested_context_list.context_id.length = requested_context_list.num_contexts)
    {data : List UInt8} (hsize : data.length < 2 ^ 32)
    (hfit : l.sizeof + 4 * requested_context_list.num_contexts ≤ data.length) :
    ∃ data', getAcdAckData l uc data.length data tag_miid_map =
        some (0, l.sizeof + 4 * requested_context_list.num_contexts, data') ∧
      data'.length = data.length ∧
      readLE data' 4 l.module_instance_id = some miid ∧
      readLE data' 4 l.num_contexts = some requested_context_list.num_contexts ∧
      slice data' l.context_ids (4 * requested_context_list.num_contexts) =
        some (wordBytes requested_context_list.context_id) := by
  have hbehind := l.behind
  have hinside := l.inside
  have hids : (wordBytes requested_context_list.context_id).length =
      4 * requested_context_list.num_contexts := by rw [length_wordBytes, hlen]
  obtain ⟨data₁, h₁⟩ := Option.isSome_iff_exists.mp (patch_isSome.mpr (show
    l.module_instance_id + (toBytes 4 miid).length ≤ data.length by rw [length_toBytes]; omega))
  have hlen₁ := length_of_patch h₁
  obtain ⟨data₂, h₂⟩ := Option.isSome_iff_exists.mp (patch_isSome.mpr (show
    l.num_contexts + (toBytes 4 requested_context_list.num_contexts).length ≤ data₁.length by
      rw [length_toBytes]; omega))
  have hlen₂ := length_of_patch h₂
  obtain ⟨data₃, h₃⟩ := Option.isSome_iff_exists.mp (patch_isSome.mpr (show
    l.context_ids + (wordBytes requested_context_list.context_id).length ≤ data₂.length by
      rw [hids]; omega))
  have hlen₃ := length_of_patch h₃
  have hread₁ := slice_patch_self h₁
  have hread₂ := slice_patch_self h₂
  have hread₃ := slice_patch_self h₃
  rw [length_toBytes] at hread₁ hread₂
  rw [hids] at hread₃
  refine ⟨data₃, ?_, by omega, ?_, ?_, hread₃⟩
  · have hcopy := slice_self (wordBytes requested_context_list.context_id)
    rw [hids] at hcopy
    unfold getAcdAckData word32
    rw [hlist, Option.bind_some, if_pos hfit, htag, Option.bind_some, hmiid, Option.bind_some, h₁,
      Option.bind_some, h₂, Option.bind_some, hcopy, Option.bind_some, h₃, Option.map_some,
      Nat.mod_eq_of_lt (by omega)]
  · -- neither of the later writes touches the instance id
    have hkept : slice data₂ l.module_instance_id 4 = slice data₁ l.module_instance_id 4 := by
      rcases l.apart with happart | happart
      · exact slice_patch_front h₂ happart
      · exact slice_patch_behind h₂ (by rw [length_toBytes]; exact happart)
    rw [readLE, slice_patch_front h₃ hbehind.1, hkept, hread₁, Option.map_some,
      ofBytes_toBytes hbound]
  · rw [readLE, slice_patch_front h₃ hbehind.2, hread₂, Option.map_some,
      ofBytes_toBytes (by omega)]

/-- `getAckDataOnSuccessfullStart`, with what `getModuleIIDs` finds. -/
theorem getAckData_eq {uc : AckUsecase} {entries : List pal_tag_module_mapping}
    (hlist : (palTagModuleInfo entries).length ≤ TAG_MODULE_DEFAULT_SIZE)
    (hfound : pushed uc.tags entries ≠ []) (size : ℕ) (data : List UInt8) :
    getAckDataOnSuccessfullStart l uc (palTagModuleInfo entries) size data =
      match uc.type with
      | .UsecaseACD => getAcdAckData l uc size data (pushed uc.tags entries)
      | .UsecaseUPD | .UsecasePCMData | .UsecasePCMRenderer | .UsecaseSDZ | .UsecaseASR =>
        (patchWords data 0 (uc.tags.flatMap (iids entries))).map fun data =>
          (0, word32 (4 * (uc.tags.flatMap (iids entries)).length), data) := by
  have hmiids : uc.tags.flatMap (pushed uc.tags entries).at = uc.tags.flatMap (iids entries) :=
    List.flatMap_congr fun tag htag => pushed_at htag entries
  unfold getAckDataOnSuccessfullStart
  rw [getModuleIIDs_eq, if_neg (Nat.not_lt.mpr hlist), if_neg hfound, Option.bind_some]
  simp only [ne_eq, not_true, if_false, hmiids]

/-! ### The ack -/

/-- The answer fits the default buffer of the ack. -/
def AnswerFits (l : AcdAckLayout) (uc : AckUsecase) (entries : List pal_tag_module_mapping) : Prop :=
  match uc.type with
  | .UsecaseACD => (∃ tag ∈ uc.tags.head?, iids entries tag ≠ []) ∧
      ∃ requested_context_list ∈ uc.requested_context_list,
        l.sizeof + 4 * requested_context_list.num_contexts ≤ ACKDATA_DEFAULT_SIZE
  | .UsecaseUPD | .UsecasePCMData | .UsecasePCMRenderer | .UsecaseSDZ | .UsecaseASR =>
    4 * (uc.tags.flatMap (iids entries)).length ≤ ACKDATA_DEFAULT_SIZE

/-- The memory is there and the response is delivered, some tag has a module, and both the list and
the answer fit their default buffers. -/
structure Fits (l : AcdAckLayout) (env : AckEnv) (uc : AckUsecase)
    (entries : List pal_tag_module_mapping) : Prop where
  memory : env.calloc_ack = true ∧ env.calloc_response = true
  delivered : env.send_asps_response = 0
  found : ∃ tag ∈ uc.tags, iids entries tag ≠ []
  list : (palTagModuleInfo entries).length ≤ TAG_MODULE_DEFAULT_SIZE
  answer : AnswerFits l uc entries

/-- **Sending** data of `size` bytes. -/
theorem build_of_data {env : AckEnv} {uc : AckUsecase} {info : List UInt8} {see_id uc_id : ℕ}
    (hmemory : env.calloc_ack = true ∧ env.calloc_response = true)
    (hdelivered : env.send_asps_response = 0) {size : ℕ} {data payload : List UInt8}
    (hdata : getAckDataOnSuccessfullStart l uc info ACKDATA_DEFAULT_SIZE
      (List.replicate ACKDATA_DEFAULT_SIZE 0) = some (0, size, data))
    (hpayload : slice data 0 size = some payload) :
    buildAndSendRegisterAck l env uc info see_id uc_id =
      some (0, [⟨see_id, uc_id, payload.length, payload⟩]) := by
  have hnodata : (0 : ℤ) ≠ ENODATA := by decide
  have hlen := length_of_slice hpayload
  unfold buildAndSendRegisterAck
  simp [hmemory.1, hmemory.2, hdelivered, hdata, hnodata, hpayload, hlen]

/-- An ack that was sent had its memory and its data. -/
theorem data_of_build {env : AckEnv} {uc : AckUsecase} {info : List UInt8} {see_id uc_id : ℕ}
    {ack : param_id_asps_sensor_register_ack_t}
    (h : buildAndSendRegisterAck l env uc info see_id uc_id = some (0, [ack])) :
    (env.calloc_ack = true ∧ env.calloc_response = true) ∧ env.send_asps_response = 0 ∧
      ∃ got, getAckDataOnSuccessfullStart l uc info ACKDATA_DEFAULT_SIZE
        (List.replicate ACKDATA_DEFAULT_SIZE 0) = some got ∧ (got.1 = 0 ∨ got.1 = ENODATA) := by
  unfold buildAndSendRegisterAck at h
  rcases hcalloc : env.calloc_ack with _ | _
  · simp [hcalloc] at h
  simp only [hcalloc, Bool.not_true, Bool.false_eq_true, if_false] at h
  obtain ⟨got, hgot, h⟩ := Option.bind_eq_some_iff.mp h
  obtain ⟨⟨rc, size, data⟩, hagain, h⟩ := Option.bind_eq_some_iff.mp h
  dsimp only at h
  by_cases hrc : rc ≠ 0
  · simp [hrc] at h
  rw [if_neg hrc] at h
  rcases hresponse : env.calloc_response with _ | _
  · simp [hresponse] at h
  simp only [hresponse, Bool.not_true, Bool.false_eq_true, if_false] at h
  obtain ⟨payload, -, h⟩ := Option.map_eq_some_iff.mp h
  have hsend : env.send_asps_response = 0 := by
    by_contra hne
    simp [hne] at h
  refine ⟨⟨rfl, rfl⟩, hsend, got, hgot, ?_⟩
  by_cases hnodata : got.1 = ENODATA
  · exact Or.inr hnodata
  · rw [if_neg hnodata] at hagain
    rw [Option.some.inj hagain]
    exact Or.inl (not_not.mp hrc)

/-- The data of an ACD ack is refused or fits. -/
theorem getAcdAckData_cases {uc : AckUsecase} {tag_miid_map : TagMap} {size : ℕ}
    {data : List UInt8} {got : ℤ × ℕ × List UInt8}
    (h : getAcdAckData l uc size data tag_miid_map = some got) :
    got.1 = -ENODATA ∨ (∃ tag ∈ uc.tags.head?, tag_miid_map.at tag ≠ []) ∧
      ∃ requested_context_list ∈ uc.requested_context_list,
        l.sizeof + 4 * requested_context_list.num_contexts ≤ size := by
  obtain ⟨requested_context_list, hlist, h⟩ := Option.bind_eq_some_iff.mp h
  dsimp only at h
  split_ifs at h with hfit
  · obtain ⟨tag, htag, h⟩ := Option.bind_eq_some_iff.mp h
    obtain ⟨miid, hmiid, h⟩ := Option.bind_eq_some_iff.mp h
    refine Or.inr ⟨⟨tag, htag, fun hnil => ?_⟩, requested_context_list, hlist, hfit⟩
    rw [hnil] at hmiid
    exact Option.some_ne_none _ hmiid.symm
  · rw [← Option.some.inj h]
    exact Or.inl rfl

theorem answerFits_of_data {uc : AckUsecase} {entries : List pal_tag_module_mapping}
    (hlist : (palTagModuleInfo entries).length ≤ TAG_MODULE_DEFAULT_SIZE)
    (hfound : pushed uc.tags entries ≠ []) {got : ℤ × ℕ × List UInt8}
    (hgot : getAckDataOnSuccessfullStart l uc (palTagModuleInfo entries) ACKDATA_DEFAULT_SIZE
      (List.replicate ACKDATA_DEFAULT_SIZE 0) = some got)
    (hrc : got.1 = 0 ∨ got.1 = ENODATA) : AnswerFits l uc entries := by
  have hnot : got.1 ≠ -ENODATA := by
    rcases hrc with hrc | hrc <;> rw [hrc] <;> decide
  have hbase : ∀ (miids : List ℕ), ((patchWords (List.replicate ACKDATA_DEFAULT_SIZE 0) 0 miids).map
      fun data => ((0 : ℤ), word32 (4 * miids.length), data)) = some got →
        4 * miids.length ≤ ACKDATA_DEFAULT_SIZE := by
    intro miids hdata
    obtain ⟨data, hdata, -⟩ := Option.map_eq_some_iff.mp hdata
    have hin := (patchWords_isSome miids (Nat.zero_le _)).mp
      (Option.isSome_iff_exists.mpr ⟨data, hdata⟩)
    rw [List.length_replicate] at hin
    omega
  rw [getAckData_eq hlist hfound] at hgot
  unfold AnswerFits
  cases htype : uc.type with
  | UsecaseACD =>
    rw [htype] at hgot
    obtain ⟨⟨tag, htag, hids⟩, hcontexts⟩ := (getAcdAckData_cases hgot).resolve_left hnot
    rw [pushed_at (List.mem_of_head? htag)] at hids
    exact ⟨⟨tag, htag, hids⟩, hcontexts⟩
  | UsecaseUPD | UsecasePCMData | UsecasePCMRenderer | UsecaseSDZ | UsecaseASR =>
    rw [htype] at hgot
    exact hbase _ hgot

theorem found_iff (tags : List ℕ) (entries : List pal_tag_module_mapping) :
    (∃ tag ∈ tags, iids entries tag ≠ []) ↔ pushed tags entries ≠ [] := by
  rw [ne_eq, pushed_eq_nil_iff]
  simp

/-- Where everything fits, the ack carries the whole answer. -/
theorem answered_of_fits {env : AckEnv} {uc : AckUsecase} {entries : List pal_tag_module_mapping}
    {see_id uc_id : ℕ} (hcontexts : ∀ requested_context_list ∈ uc.requested_context_list,
      requested_context_list.context_id.length = requested_context_list.num_contexts)
    (h : Fits l env uc entries) : Answered l env uc entries see_id uc_id := by
  have hfound := (found_iff uc.tags entries).mp h.found
  have hiids := getModuleIIDs_eq entries uc.tags
  rw [if_neg (Nat.not_lt.mpr h.list), if_neg hfound] at hiids
  refine ⟨⟨0, _, hiids, fun tag htag => pushed_at htag entries⟩, ?_⟩
  have hdata := getAckData_eq (l := l) h.list hfound ACKDATA_DEFAULT_SIZE
    (List.replicate ACKDATA_DEFAULT_SIZE 0)
  have hsize : (List.replicate ACKDATA_DEFAULT_SIZE (0 : UInt8)).length = ACKDATA_DEFAULT_SIZE :=
    List.length_replicate
  have hsmall : ACKDATA_DEFAULT_SIZE < 2 ^ 32 := by decide
  have hanswer := h.answer
  unfold AnswerFits at hanswer
  have hbase : 4 * (uc.tags.flatMap (iids entries)).length ≤ ACKDATA_DEFAULT_SIZE →
      ∃ data, (patchWords (List.replicate ACKDATA_DEFAULT_SIZE 0) 0
          (uc.tags.flatMap (iids entries))) = some data ∧
        slice data 0 (word32 (4 * (uc.tags.flatMap (iids entries)).length)) =
          some (wordBytes (uc.tags.flatMap (iids entries))) := by
    intro hfit
    obtain ⟨data, hwritten⟩ := Option.isSome_iff_exists.mp
      ((patchWords_isSome (uc.tags.flatMap (iids entries)) (Nat.zero_le _)).mpr
        (by rw [hsize]; omega))
    refine ⟨data, hwritten, ?_⟩
    rw [word32, Nat.mod_eq_of_lt (by omega)]
    exact slice_patchWords (Nat.zero_le _) hwritten
  unfold Complete
  cases htype : uc.type with
  | UsecaseACD =>
    rw [htype] at hdata hanswer
    obtain ⟨⟨tag, htag, hids⟩, rl, hrl, hfit⟩ := hanswer
    obtain ⟨miid, rest, hmiid⟩ := List.exists_cons_of_ne_nil hids
    have hfirst : ((pushed uc.tags entries).at tag).head? = some miid := by
      rw [pushed_at (List.mem_of_head? htag), hmiid]
      rfl
    obtain ⟨data, hrun, hlen, hreadIid, hreadNum, hreadIds⟩ := getAcdAckData_spec (l := l) htag hfirst
      (iids_lt (hmiid ▸ List.mem_cons_self)) hrl (hcontexts rl hrl) (hsize.symm ▸ hsmall)
      (hsize.symm ▸ hfit)
    rw [hsize] at hrun hlen
    obtain ⟨payload, hpayload⟩ := Option.isSome_iff_exists.mp (slice_isSome.mpr
      (show 0 + (l.sizeof + 4 * rl.num_contexts) ≤ data.length by rw [hlen]; omega))
    have hbehind := l.behind
    have hinside := l.inside
    refine ⟨payload, build_of_data h.memory h.delivered (hdata.trans hrun) hpayload, tag, miid, rl,
      htag, by rw [hmiid]; rfl, hrl, length_of_slice hpayload, ?_, ?_, ?_⟩
    · rw [readLE_slice hpayload (by omega), Nat.zero_add, hreadIid]
    · rw [readLE_slice hpayload (by omega), Nat.zero_add, hreadNum]
    · rw [slice_slice hpayload (by omega), Nat.zero_add, hreadIds]
  | UsecaseUPD | UsecasePCMData | UsecasePCMRenderer | UsecaseSDZ | UsecaseASR =>
    rw [htype] at hdata hanswer
    obtain ⟨data, hwritten, hpayload⟩ := hbase hanswer
    rw [hwritten, Option.map_some] at hdata
    exact ⟨_, build_of_data h.memory h.delivered hdata hpayload, rfl⟩

/-- **The register ack.** It carries the whole answer exactly where the memory is there, the response
is delivered, some tag has a module, and the list of tags and the answer fit their default buffers;
an ACD usecase asks for a module of its first tag. -/
theorem registerAck_answered_iff (l : AcdAckLayout) (env : AckEnv) (uc : AckUsecase)
    (hcontexts : ∀ requested_context_list ∈ uc.requested_context_list,
      requested_context_list.context_id.length = requested_context_list.num_contexts)
    (entries : List pal_tag_module_mapping) (see_id uc_id : ℕ) :
    Answered l env uc entries see_id uc_id ↔ Fits l env uc entries := by
  constructor
  · rintro ⟨⟨rc, tag_miid_map, hiids, -⟩, payload, hsent, -⟩
    obtain ⟨hmemory, hdelivered, got, hgot, hrc⟩ := data_of_build hsent
    rw [getModuleIIDs_eq] at hiids
    have hlist : (palTagModuleInfo entries).length ≤ TAG_MODULE_DEFAULT_SIZE := by
      by_contra hlarge
      rw [if_pos (by omega)] at hiids
      exact Option.some_ne_none _ hiids.symm
    have hfound : pushed uc.tags entries ≠ [] := by
      intro hnil
      have hnone := getModuleIIDs_eq entries uc.tags
      rw [if_neg (Nat.not_lt.mpr hlist), if_pos hnil] at hnone
      unfold getAckDataOnSuccessfullStart at hgot
      rw [hnone] at hgot
      by_cases htags : uc.tags = []
      · rw [if_pos htags] at hgot
        exact Option.some_ne_none _ hgot.symm
      · rw [if_neg htags, Option.bind_some] at hgot
        rw [← Option.some.inj hgot] at hrc
        revert hrc
        decide
    exact ⟨hmemory, hdelivered, (found_iff uc.tags entries).mpr hfound, hlist,
      answerFits_of_data hlist hfound hgot hrc⟩
  · exact answered_of_fits hcontexts

/-! ### Large answers -/

def packedLayout : AcdAckLayout := ⟨0, 4, 8, 8, by decide, by decide, by decide⟩

/-- One entry for tag 1 with `n` modules. -/
def modules (n : ℕ) : List pal_tag_module_mapping := [⟨1, List.replicate n ⟨5, 7⟩⟩]

def everythingSucceeds : AckEnv := ⟨true, true, true, 0⟩

/-- An ACD usecase with `n` contexts. -/
def acdUsecase (n : ℕ) : AckUsecase := ⟨.UsecaseACD, [1], some ⟨n, List.replicate n 3⟩⟩

/-- 128 modules are more than the default list, which is then written to where it was, and 255
contexts are more than the default ack, which is refused. -/
theorem registerAck_large :
    (getModuleIIDs (palTagModuleInfo (modules 128)) [1] = none ∧
      ¬ Answered packedLayout everythingSucceeds ⟨.UsecaseUPD, [1], none⟩ (modules 128) 2 9) ∧
    buildAndSendRegisterAck packedLayout everythingSucceeds (acdUsecase 255)
        (palTagModuleInfo (modules 1)) 2 9 = some (-ENODATA, []) ∧
      ¬ Answered packedLayout everythingSucceeds (acdUsecase 255) (modules 1) 2 9 := by
  have hlist : getModuleIIDs (palTagModuleInfo (modules 128)) [1] = none := by decide +kernel
  have hack : buildAndSendRegisterAck packedLayout everythingSucceeds (acdUsecase 255)
      (palTagModuleInfo (modules 1)) 2 9 = some (-ENODATA, []) := by decide +kernel
  refine ⟨⟨hlist, ?_⟩, hack, ?_⟩
  · rintro ⟨⟨rc, tag_miid_map, hiids, -⟩, -⟩
    exact Option.some_ne_none _ (hiids.symm.trans hlist)
  · rintro ⟨-, payload, hsent, -⟩
    have hrc : 0 = -ENODATA := (Prod.mk.inj (Option.some.inj (hsent.symm.trans hack))).1
    exact absurd hrc (by decide)

theorem registerAck_two_contexts :
    Answered packedLayout everythingSucceeds (acdUsecase 2) (modules 1) 2 9 :=
  (registerAck_answered_iff packedLayout everythingSucceeds (acdUsecase 2) (by decide) (modules 1) 2
    9).mpr
      { memory := ⟨rfl, rfl⟩
        delivered := rfl
        found := ⟨1, by decide, by decide⟩
        list := by decide
        answer := ⟨⟨1, rfl, by decide⟩, _, rfl, by decide⟩ }

end AudioReachPal.Context.RegisterAck
