import AudioReachPal.Types

/-!
# What the resource manager knows of a stream

The stream types and directions of the public interface, in the order of their values.
-/

namespace AudioReachPal.Rm

inductive pal_stream_type_t where
  | PAL_STREAM_LOW_LATENCY
  | PAL_STREAM_DEEP_BUFFER
  | PAL_STREAM_COMPRESSED
  | PAL_STREAM_VOIP
  | PAL_STREAM_VOIP_RX
  | PAL_STREAM_VOIP_TX
  | PAL_STREAM_VOICE_CALL_MUSIC
  | PAL_STREAM_GENERIC
  | PAL_STREAM_RAW
  | PAL_STREAM_VOICE_RECOGNITION
  | PAL_STREAM_VOICE_CALL_RECORD
  | PAL_STREAM_VOICE_CALL_TX
  | PAL_STREAM_VOICE_CALL_RX_TX
  | PAL_STREAM_VOICE_CALL
  | PAL_STREAM_LOOPBACK
  | PAL_STREAM_TRANSCODE
  | PAL_STREAM_VOICE_UI
  | PAL_STREAM_PCM_OFFLOAD
  | PAL_STREAM_ULTRA_LOW_LATENCY
  | PAL_STREAM_PROXY
  | PAL_STREAM_NON_TUNNEL
  | PAL_STREAM_HAPTICS
  | PAL_STREAM_ACD
  | PAL_STREAM_CONTEXT_PROXY
  | PAL_STREAM_SENSOR_PCM_DATA
  | PAL_STREAM_ULTRASOUND
  | PAL_STREAM_SPATIAL_AUDIO
  | PAL_STREAM_COMMON_PROXY
  | PAL_STREAM_SENSOR_PCM_RENDERER
  | PAL_STREAM_ASR
  | PAL_STREAM_HPCM
  | PAL_STREAM_DUMMY
  | PAL_STREAM_CALL_TRANSLATION
  | PAL_STREAM_PLAYBACK_BUS
  | PAL_STREAM_CAPTURE_BUS
  deriving DecidableEq, Repr

inductive pal_stream_direction_t where
  | PAL_AUDIO_OUTPUT
  | PAL_AUDIO_INPUT
  | PAL_AUDIO_INPUT_OUTPUT
  deriving DecidableEq, Repr

end AudioReachPal.Rm
