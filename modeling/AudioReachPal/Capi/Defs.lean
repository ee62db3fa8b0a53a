import AudioReachPal.Types
import AudioReachPal.Lib.MachineInt

/-!
# The second stage engine

What `SoundTriggerEngineCapi` has from its stream and its configuration, and the states that it
tells the stream. Times are in microseconds, and become bytes of the stream's format.
-/

namespace AudioReachPal.Capi

open AudioReachPal.Lib

/-- The states of a detection that the second stage engines set and are told. -/
inductive detection_state_t where
  | ENGINE_IDLE
  | GMM_DETECTED
  | KEYWORD_DETECTION_SUCCESS
  | KEYWORD_DETECTION_REJECT
  | USER_VERIFICATION_SUCCESS
  | USER_VERIFICATION_REJECT
  | KEYWORD_DETECTION_PENDING
  | USER_VERIFICATION_PENDING
  deriving DecidableEq, Repr

/-- The members that the constructor sets and nothing changes. -/
structure CapiConfig where
  sample_rate_ : ℕ
  bit_width_ : ℕ
  channels_ : ℕ
  kw_start_tolerance_ : ℕ
  kw_end_tolerance_ : ℕ
  data_before_kw_start_ : ℕ
  data_after_kw_end_ : ℕ
  deriving DecidableEq, Repr

def CNN_BUFFER_LENGTH : ℕ := 10000

def MAX_UV_POST_TOLERANCE_US : ℕ := 2000000

namespace CapiConfig

/-- `SoundTriggerEngine::UsToBytes`: the format's product is a word of 32 bits, the one with the time
a word of 64. -/
def usToBytes (c : CapiConfig) (input_us : ℕ) : ℕ :=
  word32 (size64 (word32 (word32 (c.sample_rate_ * c.bit_width_) * c.channels_) * input_us) /
    (8 * 1000000))

/-- The size that the constructor gives `buffer_size_`. -/
def frame (c : CapiConfig) : ℕ := c.usToBytes CNN_BUFFER_LENGTH

end CapiConfig

/-- One channel of 16 kHz and 16 bit, without tolerances: a frame has 320 bytes. -/
def mono16k : CapiConfig where
  sample_rate_ := 16000
  bit_width_ := 16
  channels_ := 1
  kw_start_tolerance_ := 0
  kw_end_tolerance_ := 0
  data_before_kw_start_ := 0
  data_after_kw_end_ := 0

/-- The results of the library that the engine tells apart. -/
inductive capi_v2_err_t where
  | CAPI_V2_EOK
  | CAPI_V2_EFAILED
  | CAPI_V2_ENETRESET
  | other
  deriving DecidableEq, Repr

end AudioReachPal.Capi
