import AudioReachPal.Types
import AudioReachPal.Lib.MachineInt
import AudioReachPal.Lib.SortUnique
import AudioReachPal.Lib.EraseLoop
import Mathlib.Data.Prod.Lex
import Mathlib.Data.String.Basic
import Mathlib.Logic.Function.Basic

/-!
# The use-case tables and the search for graph keys

A table is a vector of groups. A group says which stream types or device ids it is for, and has
entries with the selector pairs they ask for and the keys they give. The comparison of an entry's
pairs with the filled ones sorts both vectors in place when they have the same length, so a search
changes the table and the filled vector. A search that finds nothing is made again without the custom
configuration.
-/

namespace AudioReachPal.PayloadBuilder

open AudioReachPal.Lib

inductive selector_type_t where
  | DIRECTION_SEL
  | BITWIDTH_SEL
  | INSTANCE_SEL
  | SUB_TYPE_SEL
  | VSID_SEL
  | VUI_MODULE_TYPE_SEL
  | ACD_MODULE_TYPE_SEL
  | ASR_MODULE_TYPE_SEL
  | STREAM_TYPE_SEL
  | CODECFORMAT_SEL
  | ABR_ENABLED_SEL
  | AUD_FMT_SEL
  | DEVICEPP_TYPE_SEL
  | CUSTOM_CONFIG_SEL
  | HOSTLESS_SEL
  | SIDETONE_MODE_SEL
  | STREAM_ADDRESS_SEL
  | BLE_ABR_SEL
  deriving DecidableEq, Repr

namespace selector_type_t

/-- The value of the enumerator. -/
def value (s : selector_type_t) : ℕ := s.ctorIdx + 1

theorem value_injective : Function.Injective value := by
  intro a b h
  have hidx : a.ctorIdx = b.ctorIdx := Nat.succ.inj h
  rw [← ofNat_ctorIdx a, hidx, ofNat_ctorIdx]

instance : LinearOrder selector_type_t := LinearOrder.lift' value value_injective

end selector_type_t

open selector_type_t

/-- The selector's name in the use-case file. -/
def selectorName : selector_type_t → String
  | DIRECTION_SEL => "Direction"
  | BITWIDTH_SEL => "BitWidth"
  | INSTANCE_SEL => "Instance"
  | SUB_TYPE_SEL => "SubType"
  | VSID_SEL => "VSID"
  | VUI_MODULE_TYPE_SEL => "VUIModuleType"
  | ACD_MODULE_TYPE_SEL => "ACDModuleType"
  | ASR_MODULE_TYPE_SEL => "ASRModuleType"
  | STREAM_TYPE_SEL => "StreamType"
  | DEVICEPP_TYPE_SEL => "DevicePPType"
  | CODECFORMAT_SEL => "CodecFormat"
  | ABR_ENABLED_SEL => "AbrEnabled"
  | AUD_FMT_SEL => "AudioFormat"
  | CUSTOM_CONFIG_SEL => "CustomConfig"
  | HOSTLESS_SEL => "Hostless"
  | SIDETONE_MODE_SEL => "SidetoneMode"
  | STREAM_ADDRESS_SEL => "StreamAddress"
  | BLE_ABR_SEL => "SAOffloadMode"

abbrev SelectorPair := selector_type_t × String

instance : LawfulBEq SelectorPair := inferInstance

/-- The order of `std::pair`, the selector type first. -/
def pairLe (p q : SelectorPair) : Prop := toLex p ≤ toLex q

instance : DecidableRel pairLe := fun p q => inferInstanceAs (Decidable (toLex p ≤ toLex q))

instance : Std.Total pairLe := ⟨fun p q => le_total (toLex p) (toLex q)⟩

instance : IsTrans SelectorPair pairLe := ⟨fun _ _ _ hpq hqr => le_trans hpq hqr⟩

instance : Std.Antisymm pairLe := ⟨fun _ _ hpq hqp => toLex.injective (le_antisymm hpq hqp)⟩

/-- `std::sort` of a vector of selector pairs. -/
def sortPairs (pairs : List SelectorPair) : List SelectorPair := pairs.insertionSort pairLe

structure kvPairs where
  key : ℕ
  value : ℕ
  deriving DecidableEq, Repr

structure kvInfo where
  selector_names : List String
  selector_pairs : List SelectorPair
  kv_pairs : List kvPairs
  deriving DecidableEq, Repr

structure allKVs where
  id_type : List ℤ
  keys_values : List kvInfo
  deriving DecidableEq, Repr

/-- What an entry appends to the key vector, whose elements are signed. -/
def kvInfo.keyVector (e : kvInfo) : List (ℤ × ℤ) :=
  e.kv_pairs.map fun kv => (int32 kv.key, int32 kv.value)

/-! ### The comparison -/

/-- Whether the filled pairs match, and the two vectors as the comparison leaves them. -/
def compareSelectorPairs (selector_pairs filled_selector_pairs : List SelectorPair) :
    Bool × List SelectorPair × List SelectorPair :=
  if selector_pairs.length = filled_selector_pairs.length then
    (sortPairs selector_pairs == sortPairs filled_selector_pairs, sortPairs selector_pairs,
      sortPairs filled_selector_pairs)
  else
    let count := filled_selector_pairs.countP (· ∈ selector_pairs)
    (filled_selector_pairs.length == count, selector_pairs, filled_selector_pairs)

def isIdTypeAvailable (type : ℤ) (id_type : List ℤ) : Bool := id_type.any (type == ·)

/-! ### The search -/

/-- The loop over the entries of one group: the entry it stops at, and what it leaves. -/
structure EntrySearch where
  entry : Option kvInfo
  keys_values : List kvInfo
  filled_selector_pairs : List SelectorPair
  deriving DecidableEq, Repr

def findEntry (filled_selector_pairs : List SelectorPair) : List kvInfo → EntrySearch
  | [] => { entry := none, keys_values := [], filled_selector_pairs }
  | e :: rest =>
    if filled_selector_pairs.isEmpty then
      if e.selector_pairs.isEmpty then
        { entry := some e, keys_values := e :: rest, filled_selector_pairs }
      else
        let s := findEntry filled_selector_pairs rest
        { s with keys_values := e :: s.keys_values }
    else
      let (result, selector_pairs, filled) :=
        compareSelectorPairs e.selector_pairs filled_selector_pairs
      let e := { e with selector_pairs }
      if result then
        { entry := some e, keys_values := e :: rest, filled_selector_pairs := filled }
      else
        let s := findEntry filled rest
        { s with keys_values := e :: s.keys_values }

structure KVSearch where
  found : Bool
  filled_selector_pairs : List SelectorPair
  any_type : List allKVs
  keyVector : List (ℤ × ℤ)
  deriving DecidableEq, Repr

/-- The loop over the groups. `type` is an unsigned word, the ids it is compared with are signed. -/
def findKVs (filled_selector_pairs : List SelectorPair) (type : ℕ) (keyVector : List (ℤ × ℤ)) :
    List allKVs → KVSearch
  | [] => { found := false, filled_selector_pairs, any_type := [], keyVector }
  | g :: rest =>
    if isIdTypeAvailable (int32 type) g.id_type then
      let s := findEntry filled_selector_pairs g.keys_values
      let pushed := (s.entry.map kvInfo.keyVector).getD []
      let t := findKVs s.filled_selector_pairs type (keyVector ++ pushed) rest
      { t with
        found := s.entry.isSome || t.found
        any_type := { g with keys_values := s.keys_values } :: t.any_type }
    else
      let t := findKVs filled_selector_pairs type keyVector rest
      { t with any_type := g :: t.any_type }

def isCustomConfig (p : SelectorPair) : Bool := p.1 == CUSTOM_CONFIG_SEL

/-- The status, and what the searches leave. -/
def retrieveKVs (filled_selector_pairs : List SelectorPair) (type : ℕ) (any_type : List allKVs)
    (keyVector : List (ℤ × ℤ)) : ℤ × KVSearch :=
  let s := findKVs filled_selector_pairs type keyVector any_type
  if s.found then (0, s)
  else
    -- The loop that erases the custom configuration counts its index up after an erase too.
    let (filled, custom_config_fallback) := eraseLoop isCustomConfig s.filled_selector_pairs
    if custom_config_fallback then
      let t := findKVs filled type s.keyVector s.any_type
      (if t.found then 0 else -EINVAL, t)
    else (-EINVAL, { s with filled_selector_pairs := filled })

/-! ### The static tables -/

inductive Table where
  | all_streams
  | all_streampps
  | all_devices
  | all_devicepps
  deriving DecidableEq, Repr

abbrev Tables := Table → List allKVs

/-- The arguments of a call. -/
structure Call where
  filled_selector_pairs : List SelectorPair
  type : ℕ
  table : Table
  keyVector : List (ℤ × ℤ) := []
  deriving DecidableEq, Repr

namespace Tables

def retrieve (t : Tables) (c : Call) : ℤ × KVSearch :=
  retrieveKVs c.filled_selector_pairs c.type (t c.table) c.keyVector

/-- The tables after a call: the call has sorted in its own. -/
def after (t : Tables) (c : Call) : Tables := Function.update t c.table (t.retrieve c).2.any_type

/-- The tables after the calls of a history. -/
def afterAll (t : Tables) (history : List Call) : Tables := history.foldl after t

end Tables

end AudioReachPal.PayloadBuilder
