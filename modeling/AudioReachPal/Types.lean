import Mathlib.Data.Int.Notation
import Mathlib.Data.Nat.Notation

/-!
# Common types

Error numbers, and the names that several subsystems share.
-/

namespace AudioReachPal

/-! ### Error numbers -/

def ENOENT : ℤ := 2
def EIO : ℤ := 5
def ENOMEM : ℤ := 12
def EBUSY : ℤ := 16
def ENODEV : ℤ := 19
def EINVAL : ℤ := 22
def ENETRESET : ℤ := 102

/-! ### Pointers -/

/-- A pointer to a `Stream`. -/
abbrev StreamId := ℕ

/-- A pointer to a `Device`. -/
abbrev DeviceId := ℕ

/-! ### States of a sound trigger stream -/

/-- The states of a `StreamSoundTrigger`. `ST_STATE_NONE`, which is the id of no state, is the
`none` of an `Option st_state_id_t`. -/
inductive st_state_id_t where
  | ST_STATE_IDLE
  | ST_STATE_LOADED
  | ST_STATE_ACTIVE
  | ST_STATE_DETECTED
  | ST_STATE_BUFFERING
  | ST_STATE_SSR
  deriving DecidableEq, Repr

/-! ### First stage modules -/

inductive st_module_type_t where
  | ST_MODULE_TYPE_NONE
  | ST_MODULE_TYPE_GMM
  | ST_MODULE_TYPE_PDK5
  | ST_MODULE_TYPE_PDK6
  | ST_MODULE_TYPE_MFCN
  | ST_MODULE_TYPE_PDK
  | ST_MODULE_TYPE_HW
  | ST_MODULE_TYPE_CUSTOM_1
  | ST_MODULE_TYPE_CUSTOM_2
  | ST_MODULE_TYPE_MMA
  | ST_MODULE_TYPE_HIST_CAP
  deriving DecidableEq, Repr

def IS_MODULE_TYPE_PDK : st_module_type_t → Bool
  | .ST_MODULE_TYPE_PDK5 | .ST_MODULE_TYPE_PDK6 | .ST_MODULE_TYPE_MFCN => true
  | _ => false

end AudioReachPal
