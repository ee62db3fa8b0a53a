import AudioReachPal.Types
import Mathlib

/-!
# The context detection engine

The data that `ACDEngine` keeps for its streams: for each context the streams that asked for it, with
their thresholds and what they were told last. A `std::map` is a tree map of the same order.
-/

namespace AudioReachPal.ACD

/-- The id of a context. -/
abbrev ContextId := ℕ

/-- The types of a context event. `AUDIO_CONTEXT_EVENT_STOPPED` is zero. -/
inductive audio_context_event_t where
  | AUDIO_CONTEXT_EVENT_STOPPED
  | AUDIO_CONTEXT_EVENT_STARTED
  | AUDIO_CONTEXT_EVENT_DETECTED
  | other (value : ℕ)
  deriving DecidableEq, Repr

/-- What is kept for a context and a stream. `calloc` makes the last event a zero. -/
structure stream_context_info where
  threshold : ℕ
  step_size : ℕ
  last_event_type : audio_context_event_t := .AUDIO_CONTEXT_EVENT_STOPPED
  last_confidence_score : ℕ := 0
  deriving DecidableEq, Repr

/-- The streams of a context, in the order of their pointers. -/
abbrev StreamMap := Std.TreeMap StreamId stream_context_info

/-- The type of `contextinfo_stream_map_`. -/
abbrev ContextMap := Std.TreeMap ContextId StreamMap

/-- What the engine keeps for a context and a stream. -/
def ContextMap.info (m : ContextMap) (s : StreamId) (context_id : ContextId) :
    Option stream_context_info :=
  m[context_id]?.bind fun streams => streams[s]?

end AudioReachPal.ACD
