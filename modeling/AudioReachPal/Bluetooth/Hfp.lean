import AudioReachPal.Lib.Runs
import Mathlib.Algebra.Order.Ring.Nat

/-!
# The Hands-Free Profile

The one profile of the host is opened and closed with the connection of a device, and started and
stopped by each stream that uses it; it counts the streams and calls the host for the first start
and the last stop only. While it is started it keeps the codec that the host has named.
-/

namespace AudioReachPal.Bluetooth

open AudioReachPal.Lib

/-- `Codec::Type`. -/
inductive CodecType where
  | INVALID
  | LC3
  | MSBC
  | CVSD
  | APTX_SPEECH
  deriving DecidableEq, Repr

structure Codec where
  mType : CodecType := .INVALID
  mIsNRECEnabled : Bool := false
  deriving DecidableEq, Repr

/-- The codec ids of a configuration. At any other id the process ends. -/
inductive HfpCodecId where
  | CODEC_ID_LC3
  | CODEC_ID_MSBC
  | CODEC_ID_CVSD
  | AUDIO_CODEC_TYPE_APTX_SWB
  deriving DecidableEq, Repr

def HfpCodecId.type : HfpCodecId → CodecType
  | .CODEC_ID_LC3 => .LC3
  | .CODEC_ID_MSBC => .MSBC
  | .CODEC_ID_CVSD => .CVSD
  | .AUDIO_CODEC_TYPE_APTX_SWB => .APTX_SPEECH

/-- `audio_hfp_config_t`. -/
structure HfpConfig where
  codecId : HfpCodecId
  nrec : Bool
  deriving DecidableEq, Repr

inductive Status where
  | OK
  | FAILED
  deriving DecidableEq, Repr

/-- The states of the profile, which the host goes through as well. -/
inductive HfpState where
  | CLOSED
  | OPENED
  | STARTED
  | STOPPED
  deriving DecidableEq, Repr

/-- What the host is asked for. -/
inductive HostCall where
  | audioStreamOpenApi
  | audioStartStreamApi
  | audioStopStreamApi
  | audioStreamCloseApi
  deriving DecidableEq, Repr

/-- `host` is not in the source: the calls of the host, in their order. -/
structure HFPProfile where
  mState : HfpState := .CLOSED
  mStreamCounter : ℕ := 0
  mCodec : Option Codec := none
  host : List HostCall := []
  deriving DecidableEq, Repr

namespace HFPProfile

def call (p : HFPProfile) (c : HostCall) : HFPProfile := { p with host := p.host ++ [c] }

def «open» (p : HFPProfile) : Status × HFPProfile :=
  match p.mState with
  | .OPENED => (.OK, p)
  | .CLOSED =>
    (.OK, { p.call .audioStreamOpenApi with mState := .OPENED, mStreamCounter := 0 })
  | _ => (.FAILED, p)

/-- The counter is a `uint32_t`. -/
def start (p : HFPProfile) : Status × HFPProfile :=
  match p.mState with
  | .OPENED | .STOPPED =>
    (.OK, { p.call .audioStartStreamApi with mStreamCounter := 1, mState := .STARTED })
  | .STARTED =>
    if 1 ≤ p.mStreamCounter then
      (.OK, { p with mStreamCounter := (p.mStreamCounter + 1) % 2 ^ 32 })
    else (.FAILED, p)
  | .CLOSED => (.FAILED, p)

def isActive (p : HFPProfile) : Bool := p.mState = .STARTED

def stop (p : HFPProfile) : Status × HFPProfile :=
  if p.mState = .STARTED ∧ p.mStreamCounter = 1 then
    (.OK, { p.call .audioStopStreamApi with
      mStreamCounter := 0
      mCodec := none
      mState := .STOPPED })
  else if p.mState = .STARTED ∧ 1 < p.mStreamCounter then
    (.OK, { p with mStreamCounter := p.mStreamCounter - 1 })
  else (.FAILED, p)

def close (p : HFPProfile) : Status × HFPProfile :=
  match p.mState with
  | .CLOSED => (.OK, p)
  | .STOPPED | .OPENED =>
    (.OK, { p.call .audioStreamCloseApi with mState := .CLOSED, mStreamCounter := 0 })
  | .STARTED => (.FAILED, p)

/-- `config` is what the host answers if it is asked; `none` is the null pointer. -/
def getCodec (p : HFPProfile) (config : Option HfpConfig) : Option Codec × HFPProfile :=
  if p.mState ≠ .STARTED then (none, p)
  else match p.mCodec with
    | some codec => (some codec, p)
    | none =>
      match config with
      | none => (none, p)
      | some c =>
        let codec : Codec := { mType := c.codecId.type, mIsNRECEnabled := c.nrec }
        (some codec, { p with mCodec := some codec })

@[simp] theorem getCodec_mStreamCounter (p : HFPProfile) (config : Option HfpConfig) :
    (p.getCodec config).2.mStreamCounter = p.mStreamCounter := by
  unfold getCodec
  split_ifs
  · rfl
  · split
    · rfl
    · cases config <;> rfl

@[simp] theorem getCodec_mState (p : HFPProfile) (config : Option HfpConfig) :
    (p.getCodec config).2.mState = p.mState := by
  unfold getCodec
  split_ifs
  · rfl
  · split
    · rfl
    · cases config <;> rfl

/-! ### What the host sees -/

/-- The diagram of the profile: `CLOSED <-> OPENED -> STARTED <-> STOPPED -> CLOSED`. -/
def diagram : HfpState → HostCall → Option HfpState
  | .CLOSED, .audioStreamOpenApi => some .OPENED
  | .OPENED, .audioStartStreamApi | .STOPPED, .audioStartStreamApi => some .STARTED
  | .STARTED, .audioStopStreamApi => some .STOPPED
  | .OPENED, .audioStreamCloseApi | .STOPPED, .audioStreamCloseApi => some .CLOSED
  | _, _ => none

/-- What holds of the profile after any calls: the host was taken along the diagram, and the counter
and the codec say something while the profile is started only. -/
structure Sound (p : HFPProfile) : Prop where
  path : run diagram .CLOSED p.host = some p.mState
  bound : p.mStreamCounter < 2 ^ 32
  counter : p.mStreamCounter ≠ 0 → p.mState = .STARTED
  codec : p.mCodec ≠ none → p.mState = .STARTED

theorem sound_new : Sound {} := ⟨rfl, by decide, fun h => absurd rfl h, fun h => absurd rfl h⟩

variable {p : HFPProfile}

theorem path_call (h : run diagram .CLOSED p.host = some p.mState) {c : HostCall} {s : HfpState}
    (hc : diagram p.mState c = some s) : run diagram .CLOSED (p.call c).host = some s := by
  unfold call
  rw [run_append, h, Option.bind_some, run_cons, hc]
  rfl

theorem Sound.open (h : Sound p) : Sound p.open.2 := by
  unfold HFPProfile.open
  split
  · exact h
  · rename_i hs
    refine ⟨path_call h.path (by rw [hs]; rfl), (by decide : 0 < 2 ^ 32),
      fun hne => absurd rfl hne, fun hne => ?_⟩
    exact nomatch hs.symm.trans (h.codec hne)
  · exact h

theorem Sound.start (h : Sound p) : Sound p.start.2 := by
  unfold HFPProfile.start
  split
  · rename_i hs
    exact ⟨path_call h.path (by rw [hs]; rfl), (by decide : 1 < 2 ^ 32), fun _ => rfl, fun _ => rfl⟩
  · rename_i hs
    exact ⟨path_call h.path (by rw [hs]; rfl), (by decide : 1 < 2 ^ 32), fun _ => rfl, fun _ => rfl⟩
  · rename_i hs
    split
    · exact ⟨h.path, Nat.mod_lt _ (by decide), fun _ => hs, h.codec⟩
    · exact h
  · exact h

theorem Sound.stop (h : Sound p) : Sound p.stop.2 := by
  unfold HFPProfile.stop
  split
  · rename_i hs
    refine ⟨path_call h.path (by rw [hs.1]; rfl), (by decide : 0 < 2 ^ 32), ?_, ?_⟩
    · exact fun hne => absurd rfl hne
    · exact fun hne => absurd rfl hne
  · split
    · rename_i hs
      exact ⟨h.path, Nat.lt_of_le_of_lt (Nat.sub_le _ _) h.bound, fun _ => hs.1, h.codec⟩
    · exact h

theorem Sound.close (h : Sound p) : Sound p.close.2 := by
  have hcodec : p.mState ≠ .STARTED → p.mCodec = none := by
    intro hs
    by_contra hne
    exact hs (h.codec hne)
  unfold HFPProfile.close
  split
  · exact h
  · rename_i hs
    refine ⟨path_call h.path (by rw [hs]; rfl), (by decide : 0 < 2 ^ 32),
      fun hne => absurd rfl hne, fun hne => ?_⟩
    exact absurd (hcodec (by rw [hs]; decide)) hne
  · rename_i hs
    refine ⟨path_call h.path (by rw [hs]; rfl), (by decide : 0 < 2 ^ 32),
      fun hne => absurd rfl hne, fun hne => ?_⟩
    exact absurd (hcodec (by rw [hs]; decide)) hne
  · exact h

theorem Sound.getCodec (h : Sound p) (config : Option HfpConfig) : Sound (p.getCodec config).2 := by
  unfold HFPProfile.getCodec
  split
  · exact h
  · rename_i hs
    split
    · exact h
    · cases config with
      | none => exact h
      | some c => exact ⟨h.path, h.bound, h.counter, fun _ => of_not_not hs⟩

/-! ### The counter -/

/-- The profile is active while it counts a stream. -/
def Active (p : HFPProfile) : Prop := p.mState = .STARTED ↔ p.mStreamCounter ≠ 0

/-- A start counts one stream more, or is refused and changes nothing. -/
theorem start_counter (h : Sound p) (hactive : p.Active) (hroom : p.mStreamCounter + 1 < 2 ^ 32) :
    (p.start.1 = .OK ∧ p.start.2.mState = .STARTED ∧
      p.start.2.mStreamCounter = p.mStreamCounter + 1) ∨ (p.start.1 ≠ .OK ∧ p.start.2 = p) := by
  have hzero : p.mState ≠ .STARTED → p.mStreamCounter = 0 := by
    intro hs
    by_contra hne
    exact hs (h.counter hne)
  unfold HFPProfile.start
  split
  · rename_i hs
    exact .inl ⟨rfl, rfl, by rw [hzero (by rw [hs]; decide)]⟩
  · rename_i hs
    exact .inl ⟨rfl, rfl, by rw [hzero (by rw [hs]; decide)]⟩
  · rename_i hs
    have hpos := hactive.mp hs
    rw [if_pos (by omega)]
    exact .inl ⟨rfl, hs, Nat.mod_eq_of_lt hroom⟩
  · exact .inr ⟨nofun, rfl⟩

/-- A stop of a profile that counts streams counts one less. -/
theorem stop_counter (hs : p.mState = .STARTED) {n : ℕ} (hn : p.mStreamCounter = n + 1) :
    p.stop.1 = .OK ∧ p.stop.2.mStreamCounter = n ∧ p.stop.2.Active := by
  unfold HFPProfile.stop
  cases n with
  | zero =>
    rw [if_pos ⟨hs, hn⟩]
    exact ⟨rfl, rfl, iff_of_false nofun (fun h => h rfl)⟩
  | succ n =>
    rw [if_neg (by omega), if_pos ⟨hs, by omega⟩]
    refine ⟨rfl, by rw [hn]; rfl, iff_of_true hs ?_⟩
    show p.mStreamCounter - 1 ≠ 0
    omega

/-- At the last number of the counter it starts over. -/
theorem start_counter_of_full (h : Sound p) (hfull : ¬ p.mStreamCounter + 1 < 2 ^ 32) :
    p.start.1 = .OK ∧ p.start.2.mStreamCounter = 0 := by
  have hbound := h.bound
  have hs := h.counter (by omega)
  have hlast : p.mStreamCounter + 1 = 2 ^ 32 := by omega
  unfold HFPProfile.start
  rw [hs]
  dsimp only
  rw [if_pos (by omega), hlast]
  exact ⟨rfl, rfl⟩

end HFPProfile

end AudioReachPal.Bluetooth
