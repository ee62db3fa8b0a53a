import AudioReachPal.Lib.MachineInt
import AudioReachPal.Lib.Region
import AudioReachPal.Lib.Runs
import AudioReachPal.Types

/-!
# The cached volume

`setVolume` keeps a copy of the volume it is given in `mVolumeData`. `SessionAlsaCompress::pause`
sets the volume to zero and puts the copy back, and `resumeL` sets it again. The copies are sized
by the number of pairs, in a `uint8_t` by some of these functions and in full width by others, and
their loops run over the number of pairs.

Buffers are lists of bytes, and `none` is an access outside one. A float is its 32 bits.
-/

namespace AudioReachPal.Volume

open AudioReachPal.Lib

/-! ### Volumes in memory -/

def sizeof_uint32_t : ℕ := 4

/-- The array of pairs is a flexible one. -/
def sizeof_pal_volume_data : ℕ := 4

def sizeof_pal_channel_vol_kv : ℕ := 8

def sizeof_pal_param_payload : ℕ := 4

structure pal_channel_vol_kv where
  channel_mask : ℕ
  vol : ℕ

/-- `volume_pair[i]` of the volume in a buffer. -/
def volume_pair (b : List UInt8) (i : ℕ) : Option pal_channel_vol_kv :=
  (readLE b 4 (4 + 8 * i)).bind fun channel_mask =>
    (readLE b 4 (8 + 8 * i)).map fun vol => ⟨channel_mask, vol⟩

def no_of_volpair (b : List UInt8) : Option ℕ := readLE b 4 0

/-- `calloc(1, size)`. -/
def calloc (size : ℕ) : List UInt8 := List.replicate size 0

/-- `arMemCpy`, which copies no more than the destination's size. -/
def arMemCpy (dest : List UInt8) (dest_size : ℕ) (src : List UInt8) (src_size : ℕ) :
    Option (List UInt8) :=
  (slice src 0 (min dest_size src_size)).bind (patch dest 0)

/-- The size of a volume in full width, behind a header. -/
def volumeSize (header no_of_volpair : ℕ) : ℕ := header + sizeof_pal_channel_vol_kv * no_of_volpair

/-- The size of a volume in a `uint8_t`. -/
def volSize (header no_of_volpair : ℕ) : ℕ := volumeSize header no_of_volpair % 2 ^ 8

/-- A loop over `left` pairs from the `i`-th on, which looks at the first one too. -/
def pairLoop (body : Bool → ℕ → pal_channel_vol_kv → pal_channel_vol_kv → Bool) (b : List UInt8) :
    ℕ → ℕ → Bool → Option Bool
  | 0, _, acc => some acc
  | left + 1, i, acc =>
    (volume_pair b 0).bind fun first =>
      (volume_pair b i).bind fun pair => pairLoop body b left (i + 1) (body acc i first pair)

/-! ### The functions -/

/-- What the comparisons of floats say. -/
structure VolumeTests where
  /-- `abs(a - b) > VOLUME_TOLERANCE` -/
  differ : ℕ → ℕ → Bool
  /-- `vol == 0.0f` -/
  isZero : ℕ → Bool

/-- What `setVolume` finds around it: whether its `calloc` succeeds, the flags it looks at, and what
the session returns. -/
structure SetVolumeEnv where
  calloc : Bool
  a2dpMuted : Bool
  /-- The sound card is online, and the stream neither idle, nor in its initial state, nor
  paused. -/
  setsNow : Bool
  isStreamAvail : Bool
  isVolumeUsingSetParam : Bool
  session_setVolume : ℤ
  session_setParameters : List UInt8 → ℤ

variable (tests : VolumeTests)

/-- The part of `setVolume` behind the copy: its status. -/
def applyVolume (env : SetVolumeEnv) (volSize : ℕ) (mVolumeData : List UInt8) : Option ℤ :=
  (no_of_volpair mVolumeData).bind fun no_of_volpair =>
    (pairLoop (fun acc i first pair => acc || (decide (0 < i) && tests.differ first.vol pair.vol))
        mVolumeData no_of_volpair 0 false).bind fun forceSetParameters =>
      if env.a2dpMuted || !env.setsNow then some 0
      else
        (volume_pair mVolumeData 0).bind fun first =>
          let forceSetParameters := forceSetParameters ||
            (tests.isZero first.vol && !env.isVolumeUsingSetParam)
          if (env.isStreamAvail && env.isVolumeUsingSetParam) || forceSetParameters then
            (slice mVolumeData 0 volSize).bind fun data =>
              (patch (calloc (sizeof_pal_param_payload + volSize)) 0
                  (toBytes 4 sizeof_pal_volume_data)).bind fun pld =>
                (patch pld sizeof_pal_param_payload data).map env.session_setParameters
          else some env.session_setVolume

/-- `setVolume` of a stream that adds `header` to the size of the pairs: the status, and what
`mVolumeData` leads to. The log of the end looks at the given volume's first pair. -/
def setVolume (header : ℕ) (env : SetVolumeEnv) (mVolumeData : Option (List UInt8))
    (volume : Option (List UInt8)) : Option (ℤ × Option (List UInt8)) :=
  match volume with
  | none => some (-EINVAL, mVolumeData)
  | some volume =>
    (no_of_volpair volume).bind fun no_of_volpair =>
      let size := volSize header no_of_volpair
      let res :=
        if no_of_volpair = 0 then some (-EINVAL, mVolumeData)
        else if !env.calloc then some (-ENOMEM, none)
        else
          (arMemCpy (calloc size) size volume size).bind fun mVolumeData =>
            (applyVolume tests env size mVolumeData).map fun status => (status, some mVolumeData)
      res.bind fun res => (volume_pair volume 0).map fun _ => res

/-- `StreamPCM::setVolume` -/
def StreamPCM.setVolume : SetVolumeEnv → Option (List UInt8) → Option (List UInt8) →
    Option (ℤ × Option (List UInt8)) := Volume.setVolume tests sizeof_uint32_t

/-- `StreamCompress::setVolume` -/
def StreamCompress.setVolume : SetVolumeEnv → Option (List UInt8) → Option (List UInt8) →
    Option (ℤ × Option (List UInt8)) := Volume.setVolume tests sizeof_pal_volume_data

/-- `Stream::getVolumeData`: the status, and the buffer it is given. -/
def getVolumeData (mVolumeData : Option (List UInt8)) (vData : List UInt8) :
    Option (ℤ × List UInt8) :=
  match mVolumeData with
  | none => some (-EINVAL, vData)
  | some mVolumeData =>
    (no_of_volpair mVolumeData).bind fun no_of_volpair =>
      let size := volumeSize sizeof_uint32_t no_of_volpair
      (arMemCpy vData size mVolumeData size).bind fun vData =>
        (pairLoop (fun acc _ _ _ => acc) mVolumeData no_of_volpair 0 false).map fun _ => (0, vData)

/-- The loop of `pause` that sets the volume of `left` pairs to zero, from the `i`-th on. -/
def zeroLoop : ℕ → ℕ → List UInt8 → Option (List UInt8)
  | 0, _, volume => some volume
  | left + 1, i, volume => (patch volume (8 + 8 * i) (toBytes 4 0)).bind (zeroLoop left (i + 1))

/-- The stream that a session belongs to. -/
inductive StreamClass where
  | StreamPCM
  | StreamCompress

def StreamClass.setVolume : StreamClass → SetVolumeEnv → Option (List UInt8) →
    Option (List UInt8) → Option (ℤ × Option (List UInt8))
  | .StreamPCM => StreamPCM.setVolume tests
  | .StreamCompress => StreamCompress.setVolume tests

/-- What `pause` finds around it. -/
structure PauseEnv where
  setConfig : ℤ
  calloc_voldata : Bool
  calloc_volume : Bool
  calloc_mVolumeData : Bool
  setVolume : SetVolumeEnv

/-- `SessionAlsaCompress::pause` -/
def pause (k : StreamClass) (env : PauseEnv) (mVolumeData : Option (List UInt8)) :
    Option (ℤ × Option (List UInt8)) :=
  if env.setConfig ≠ 0 then some (env.setConfig, mVolumeData)
  else match mVolumeData with
    | none => some (-ENOMEM, mVolumeData)
    | some cached =>
      (no_of_volpair cached).bind fun cachedPairs =>
        if !env.calloc_voldata then some (-ENOMEM, mVolumeData)
        else
          (getVolumeData mVolumeData (calloc (volumeSize sizeof_uint32_t cachedPairs))).bind
            fun (status, voldata) =>
              if status ≠ 0 then some (status, mVolumeData)
              else
                (no_of_volpair voldata).bind fun no_of_volpair =>
                  let size := volSize sizeof_uint32_t no_of_volpair
                  if !env.calloc_volume then some (-ENOMEM, mVolumeData)
                  else
                    (arMemCpy (calloc size) size voldata size).bind fun volume =>
                      (zeroLoop no_of_volpair 0 volume).bind fun volume =>
                        (k.setVolume tests env.setVolume mVolumeData (some volume)).bind fun _ =>
                          if !env.calloc_mVolumeData then some (-ENOMEM, none)
                          else
                            (arMemCpy (calloc size) size voldata size).map
                              fun mVolumeData => (0, some mVolumeData)

/-- What `resumeL` finds around it. -/
structure ResumeEnv where
  cardDown : Bool
  session_resume : ℤ
  calloc_voldata : Bool
  setVolume : SetVolumeEnv

/-- `resumeL` of a stream that returns `down` where the sound card is down. -/
def resumeL (k : StreamClass) (down : ℤ) (env : ResumeEnv) (mVolumeData : Option (List UInt8)) :
    Option (ℤ × Option (List UInt8)) :=
  if env.cardDown then some (down, mVolumeData)
  else if env.session_resume ≠ 0 then some (env.session_resume, mVolumeData)
  else match mVolumeData with
    | none => some (-ENOMEM, mVolumeData)
    | some cached =>
      (no_of_volpair cached).bind fun cachedPairs =>
        if !env.calloc_voldata then some (-ENOMEM, mVolumeData)
        else
          (getVolumeData mVolumeData (calloc (volumeSize sizeof_uint32_t cachedPairs))).bind
            fun (status, voldata) =>
              if status ≠ 0 then some (status, mVolumeData)
              else (k.setVolume tests env.setVolume mVolumeData (some voldata)).map
                fun res => (0, res.2)

/-- `StreamPCM::resume_l` -/
def StreamPCM.resumeL : ResumeEnv → Option (List UInt8) → Option (ℤ × Option (List UInt8)) :=
  Volume.resumeL tests .StreamPCM 0

/-- `StreamCompress::resume_l` -/
def StreamCompress.resumeL : ResumeEnv → Option (List UInt8) → Option (ℤ × Option (List UInt8)) :=
  Volume.resumeL tests .StreamCompress (-EINVAL)

def StreamClass.resumeL : StreamClass → ResumeEnv → Option (List UInt8) →
    Option (ℤ × Option (List UInt8))
  | .StreamPCM => StreamPCM.resumeL tests
  | .StreamCompress => StreamCompress.resumeL tests

/-! ### Whole volumes -/

/-- The bytes of a `pal_volume_data` with its pairs, of which there is at least one. -/
structure WholeVolume where
  bytes : List UInt8
  pairs : ℕ
  count : no_of_volpair bytes = some pairs
  length_eq : bytes.length = volumeSize sizeof_uint32_t pairs
  pos : 0 < pairs

/-- What `mVolumeData` leads to while it has a whole volume, or none. -/
def cacheOf (m : Option WholeVolume) : Option (List UInt8) := m.map WholeVolume.bytes

/-- A call on a stream, or by it on its session. -/
inductive Call where
  | setVolume (k : StreamClass) (env : SetVolumeEnv) (volume : WholeVolume)
  | pause (k : StreamClass) (env : PauseEnv)
  | resumeL (k : StreamClass) (env : ResumeEnv)

/-- What a call leaves in `mVolumeData`. -/
def step (mVolumeData : Option (List UInt8)) : Call → Option (Option (List UInt8))
  | .setVolume k env volume =>
    (k.setVolume tests env mVolumeData (some volume.bytes)).map Prod.snd
  | .pause k env => (Volume.pause tests k env mVolumeData).map Prod.snd
  | .resumeL k env => (k.resumeL tests env mVolumeData).map Prod.snd

theorem length_calloc (size : ℕ) : (calloc size).length = size := List.length_replicate

/-- A copy into a buffer of its size is the source's front. -/
theorem arMemCpy_calloc {src : List UInt8} {size : ℕ} (h : size ≤ src.length) :
    arMemCpy (calloc size) size src size = some (src.take size) := by
  have hlen : (src.take size).length = size := by
    rw [List.length_take]
    omega
  unfold arMemCpy
  rw [Nat.min_self, slice_eq_some (by omega), List.drop_zero, Option.bind_some]
  unfold patch
  rw [if_pos (by rw [hlen, length_calloc]; omega), hlen, Nat.zero_add, List.take_zero,
    List.nil_append, List.drop_of_length_le (by rw [length_calloc]), List.append_nil]

/-- The `uint8_t` has the pairs modulo 32. -/
theorem volSize_eq (n : ℕ) : volSize sizeof_uint32_t n = volumeSize sizeof_uint32_t (n % 32) := by
  unfold volSize volumeSize sizeof_uint32_t sizeof_pal_channel_vol_kv
  omega

theorem volSize_of_le {n : ℕ} (h : n ≤ 31) :
    volSize sizeof_uint32_t n = volumeSize sizeof_uint32_t n := by
  rw [volSize_eq, Nat.mod_eq_of_lt (by omega)]

theorem volSize_le (n : ℕ) : volSize sizeof_uint32_t n ≤ volumeSize sizeof_uint32_t n :=
  Nat.mod_le _ _

/-! ### The loops -/

section Loops

variable {b : List UInt8} {i left : ℕ}

theorem volume_pair_isSome : (volume_pair b i).isSome ↔ 12 + 8 * i ≤ b.length := by
  unfold volume_pair
  rcases hmask : readLE b 4 (4 + 8 * i) with _ | mask
  · have hout := readLE_eq_none_iff.mp hmask
    refine iff_of_false (by simp) ?_
    omega
  · rw [Option.bind_some, Option.isSome_map, readLE_isSome]
    omega

theorem volume_pair_of_le (h : 12 + 8 * i ≤ b.length) : ∃ pair, volume_pair b i = some pair :=
  Option.isSome_iff_exists.mp (volume_pair_isSome.mpr h)

variable {body : Bool → ℕ → pal_channel_vol_kv → pal_channel_vol_kv → Bool} {acc : Bool}

/-- A loop over pairs stays inside the buffer exactly when it has room for all of them. -/
theorem pairLoop_isSome (h : 0 < left) :
    (pairLoop body b left i acc).isSome ↔ 4 + 8 * (i + left) ≤ b.length := by
  induction left generalizing i acc with
  | zero => omega
  | succ left ih =>
    unfold pairLoop
    rcases hfirst : volume_pair b 0 with _ | first
    · have hout : ¬ 12 + 8 * 0 ≤ b.length := by
        rw [← volume_pair_isSome, hfirst]
        decide
      refine iff_of_false (by simp) ?_
      omega
    · rw [Option.bind_some]
      rcases hpair : volume_pair b i with _ | pair
      · have hout : ¬ 12 + 8 * i ≤ b.length := by
          rw [← volume_pair_isSome, hpair]
          decide
        refine iff_of_false (by simp) ?_
        omega
      · have hin : 12 + 8 * i ≤ b.length := by
          rw [← volume_pair_isSome, hpair]
          rfl
        rw [Option.bind_some]
        rcases Nat.eq_zero_or_pos left with rfl | hpos
        · exact iff_of_true rfl (by omega)
        · rw [ih hpos]
          omega

theorem zeroLoop_isSome (h : 0 < left) :
    (zeroLoop left i b).isSome ↔ 4 + 8 * (i + left) ≤ b.length := by
  induction left generalizing i b with
  | zero => omega
  | succ left ih =>
    have hpatch : (patch b (8 + 8 * i) (toBytes 4 0)).isSome ↔
        8 + 8 * i + (toBytes 4 0).length ≤ b.length := patch_isSome
    rw [length_toBytes] at hpatch
    unfold zeroLoop
    rcases hzero : patch b (8 + 8 * i) (toBytes 4 0) with _ | b'
    · rw [hzero] at hpatch
      have hout := mt hpatch.mpr (by decide)
      refine iff_of_false (by simp) ?_
      omega
    · rw [hzero] at hpatch
      have hin := hpatch.mp rfl
      have hlen := length_of_patch hzero
      rw [Option.bind_some]
      rcases Nat.eq_zero_or_pos left with rfl | hpos
      · exact iff_of_true rfl (by omega)
      · rw [ih hpos, hlen]
        omega

/-- The loop of zeros leaves the number of pairs and the size. -/
theorem zeroLoop_keeps {b' : List UInt8} (h : zeroLoop left i b = some b') :
    b'.length = b.length ∧ no_of_volpair b' = no_of_volpair b := by
  induction left generalizing i b with
  | zero =>
    cases h
    exact ⟨rfl, rfl⟩
  | succ left ih =>
    obtain ⟨b₁, hzero, hrest⟩ := Option.bind_eq_some_iff.mp h
    have hkeep := ih hrest
    have hfront : slice b₁ 0 4 = slice b 0 4 := slice_patch_front hzero (by omega)
    constructor
    · rw [hkeep.1, length_of_patch hzero]
    · rw [hkeep.2]
      unfold no_of_volpair readLE
      rw [hfront]

end Loops

/-! ### One call -/

section Calls

variable {tests} {v : WholeVolume} {m : Option (List UInt8)}

theorem WholeVolume.length_ge (v : WholeVolume) : 12 ≤ v.bytes.length := by
  have hlen := v.length_eq
  have hpos := v.pos
  unfold volumeSize sizeof_uint32_t sizeof_pal_channel_vol_kv at hlen
  omega

/-- Behind the copy `setVolume` stays inside exactly when the copy has all the pairs. -/
theorem applyVolume_isSome {env : SetVolumeEnv} {cached : List UInt8} {size n : ℕ} (hn : 0 < n)
    (hcount : no_of_volpair cached = some n) (hsize : size ≤ cached.length) :
    (applyVolume tests env size cached).isSome ↔ volumeSize sizeof_uint32_t n ≤ cached.length := by
  have hvol : volumeSize sizeof_uint32_t n = 4 + 8 * (0 + n) := by
    unfold volumeSize sizeof_uint32_t sizeof_pal_channel_vol_kv
    omega
  have hpairs : (pairLoop (fun acc i first pair =>
      acc || (decide (0 < i) && tests.differ first.vol pair.vol)) cached n 0 false).isSome ↔
        4 + 8 * (0 + n) ≤ cached.length := pairLoop_isSome hn
  rw [hvol, ← hpairs]
  unfold applyVolume
  rw [hcount, Option.bind_some]
  rcases hloop : pairLoop _ cached n 0 false with _ | force
  · rfl
  · have hin : 4 + 8 * (0 + n) ≤ cached.length := by
      rw [← pairLoop_isSome hn, hloop]
      rfl
    obtain ⟨first, hfirst⟩ := volume_pair_of_le (b := cached) (i := 0) (by omega)
    refine iff_of_true ?_ rfl
    rw [Option.bind_some]
    split_ifs
    · rfl
    · rw [hfirst, Option.bind_some]
      simp only
      split_ifs
      · have hpld : (patch (calloc (sizeof_pal_param_payload + size)) 0
            (toBytes 4 sizeof_pal_volume_data)).isSome := by
          rw [patch_isSome, length_toBytes, length_calloc]
          unfold sizeof_pal_param_payload
          omega
        obtain ⟨pld, hpld⟩ := Option.isSome_iff_exists.mp hpld
        have hlen := length_of_patch hpld
        rw [length_calloc] at hlen
        have hdata := slice_eq_some (b := cached) (p := 0) (n := size) (by omega)
        have hdlen := length_of_slice hdata
        rw [hdata, Option.bind_some, hpld, Option.bind_some, Option.isSome_map, patch_isSome,
          hdlen, hlen]
      · rfl

/-- The copy of a volume in its size as a `uint8_t`. -/
def WholeVolume.copy (v : WholeVolume) : List UInt8 :=
  v.bytes.take (volSize sizeof_uint32_t v.pairs)

theorem WholeVolume.arMemCpy_eq (v : WholeVolume) :
    arMemCpy (calloc (volSize sizeof_uint32_t v.pairs)) (volSize sizeof_uint32_t v.pairs) v.bytes
      (volSize sizeof_uint32_t v.pairs) = some v.copy :=
  arMemCpy_calloc (by rw [v.length_eq]; exact volSize_le _)

theorem WholeVolume.length_copy (v : WholeVolume) :
    v.copy.length = volSize sizeof_uint32_t v.pairs := by
  unfold WholeVolume.copy
  rw [List.length_take, v.length_eq]
  exact Nat.min_eq_left (volSize_le _)

/-- The copy has the number of pairs in any case. -/
theorem WholeVolume.count_copy (v : WholeVolume) : no_of_volpair v.copy = some v.pairs := by
  have hlen := v.length_ge
  have hge : 4 ≤ volSize sizeof_uint32_t v.pairs := by
    rw [volSize_eq]
    unfold volumeSize sizeof_uint32_t
    omega
  rw [← v.count]
  unfold WholeVolume.copy no_of_volpair readLE
  congr 1
  rw [slice_eq_some (by rw [List.length_take]; omega), slice_eq_some (by omega), List.drop_zero,
    List.drop_zero, List.take_take, Nat.min_eq_left hge]

/-- Up to 31 pairs the copy is the volume. -/
theorem WholeVolume.copy_eq (v : WholeVolume) (h : v.pairs ≤ 31) : v.copy = v.bytes := by
  unfold WholeVolume.copy
  rw [volSize_of_le h, ← v.length_eq, List.take_length]

/-- The copy has room for the pairs it counts exactly up to 31 of them. -/
theorem WholeVolume.copy_whole_iff (v : WholeVolume) :
    volumeSize sizeof_uint32_t v.pairs ≤ v.copy.length ↔ v.pairs ≤ 31 := by
  rw [v.length_copy, volSize_eq]
  unfold volumeSize sizeof_pal_channel_vol_kv
  omega

/-- `setVolume` of a whole volume: without memory the cache is left empty, and otherwise a copy is
kept, unless the loop leaves it. -/
theorem setVolume_whole (env : SetVolumeEnv) (v : WholeVolume) (m : Option (List UInt8)) :
    setVolume tests sizeof_uint32_t env m (some v.bytes) =
      if !env.calloc then some (-ENOMEM, none)
      else (applyVolume tests env (volSize sizeof_uint32_t v.pairs) v.copy).map
        fun status => (status, some v.copy) := by
  obtain ⟨pair, hpair⟩ := volume_pair_of_le (b := v.bytes) (i := 0) v.length_ge
  have hpairs := v.pos
  unfold setVolume
  simp only
  rw [v.count, Option.bind_some, if_neg (by omega), v.arMemCpy_eq, Option.bind_some, hpair]
  simp only [Option.map_some]
  exact Option.bind_fun_some _

theorem applyVolume_copy_isSome (tests : VolumeTests) (env : SetVolumeEnv) (v : WholeVolume) :
    (applyVolume tests env (volSize sizeof_uint32_t v.pairs) v.copy).isSome ↔ v.pairs ≤ 31 := by
  rw [applyVolume_isSome v.pos v.count_copy (Nat.le_of_eq v.length_copy.symm), v.copy_whole_iff]

/-- The cache after `setVolume`. -/
theorem setVolume_cases (tests : VolumeTests) (env : SetVolumeEnv) (v : WholeVolume)
    (m : Option (List UInt8)) :
    (env.calloc = false ∧
      setVolume tests sizeof_uint32_t env m (some v.bytes) = some (-ENOMEM, none)) ∨
    (env.calloc = true ∧ v.pairs ≤ 31 ∧ ∃ status,
      setVolume tests sizeof_uint32_t env m (some v.bytes) = some (status, some v.bytes)) ∨
    (env.calloc = true ∧ 31 < v.pairs ∧
      setVolume tests sizeof_uint32_t env m (some v.bytes) = none) := by
  rw [setVolume_whole]
  cases hcalloc : env.calloc with
  | false => exact Or.inl ⟨rfl, rfl⟩
  | true =>
    have hsome := applyVolume_copy_isSome tests env v
    rw [if_neg (by decide)]
    rcases Nat.lt_or_ge 31 v.pairs with hgt | hle
    · have hnone : applyVolume tests env (volSize sizeof_uint32_t v.pairs) v.copy = none := by
        rw [← Option.not_isSome_iff_eq_none, hsome]
        omega
      rw [hnone]
      exact Or.inr (Or.inr ⟨rfl, hgt, rfl⟩)
    · obtain ⟨status, hstatus⟩ := Option.isSome_iff_exists.mp (hsome.mpr hle)
      rw [hstatus, v.copy_eq hle]
      exact Or.inr (Or.inl ⟨rfl, hle, status, rfl⟩)

theorem StreamClass.setVolume_eq (k : StreamClass) :
    k.setVolume tests = Volume.setVolume tests sizeof_uint32_t := by
  cases k <;> rfl

/-- `getVolumeData` of a whole volume into a buffer of its size. -/
theorem getVolumeData_whole (v : WholeVolume) :
    getVolumeData (some v.bytes) (calloc (volumeSize sizeof_uint32_t v.pairs)) =
      some (0, v.bytes) := by
  have hroom : (pairLoop (fun acc _ _ _ => acc) v.bytes v.pairs 0 false).isSome := by
    rw [pairLoop_isSome v.pos, v.length_eq]
    unfold volumeSize sizeof_uint32_t sizeof_pal_channel_vol_kv
    omega
  obtain ⟨acc, hloop⟩ := Option.isSome_iff_exists.mp hroom
  unfold getVolumeData
  simp only
  rw [v.count, Option.bind_some, arMemCpy_calloc (Nat.le_of_eq v.length_eq.symm),
    Option.bind_some, hloop, ← v.length_eq, List.take_length]
  rfl

/-- The volume that `pause` sets: of the copy's pairs, with zeros. -/
theorem zeroLoop_copy (v : WholeVolume) :
    (∃ w : WholeVolume, w.pairs = v.pairs ∧ v.pairs ≤ 31 ∧
      zeroLoop v.pairs 0 v.copy = some w.bytes) ∨
    (31 < v.pairs ∧ zeroLoop v.pairs 0 v.copy = none) := by
  have hroom : (zeroLoop v.pairs 0 v.copy).isSome ↔ v.pairs ≤ 31 := by
    rw [zeroLoop_isSome v.pos, ← v.copy_whole_iff]
    unfold volumeSize sizeof_uint32_t sizeof_pal_channel_vol_kv
    rw [Nat.zero_add]
  rcases hzero : zeroLoop v.pairs 0 v.copy with _ | zeros
  · refine Or.inr ⟨?_, rfl⟩
    rw [hzero] at hroom
    have := mt hroom.mpr (by decide)
    omega
  · have hle : v.pairs ≤ 31 := hroom.mp (by rw [hzero]; rfl)
    obtain ⟨hlen, hcount⟩ := zeroLoop_keeps hzero
    have hw : zeros.length = volumeSize sizeof_uint32_t v.pairs := by
      rw [hlen, v.copy_eq hle, v.length_eq]
    exact Or.inl ⟨⟨zeros, v.pairs, by rw [hcount, v.count_copy], hw, v.pos⟩, rfl, hle, rfl⟩

/-- When a pause keeps a volume of `n` pairs: it ends before it copies, or the `uint8_t` has the
size and there is memory for the copy back. -/
def PauseEnv.Keeps (env : PauseEnv) (n : ℕ) : Prop :=
  env.setConfig ≠ 0 ∨ env.calloc_voldata = false ∨ env.calloc_volume = false ∨
    (n ≤ 31 ∧ env.calloc_mVolumeData = true)

/-- The same of a resume. -/
def ResumeEnv.Keeps (env : ResumeEnv) (n : ℕ) : Prop :=
  env.cardDown = true ∨ env.session_resume ≠ 0 ∨ env.calloc_voldata = false ∨
    (n ≤ 31 ∧ env.setVolume.calloc = true)

theorem step_setVolume (k : StreamClass) (env : SetVolumeEnv) (v : WholeVolume) :
    step tests m (.setVolume k env v) =
      (setVolume tests sizeof_uint32_t env m (some v.bytes)).map Prod.snd := by
  show (k.setVolume tests env m (some v.bytes)).map Prod.snd = _
  rw [StreamClass.setVolume_eq]

/-- A pause keeps the volume, leaves none, or leaves the buffers. -/
theorem step_pause_cases (tests : VolumeTests) (k : StreamClass) (env : PauseEnv)
    (v : WholeVolume) :
    (env.Keeps v.pairs ∧ step tests (some v.bytes) (.pause k env) = some (some v.bytes)) ∨
    (¬ env.Keeps v.pairs ∧ (step tests (some v.bytes) (.pause k env) = none ∨
      step tests (some v.bytes) (.pause k env) = some none)) := by
  have hstep : step tests (some v.bytes) (.pause k env) =
    (pause tests k env (some v.bytes)).map Prod.snd := rfl
  rw [hstep]
  unfold pause PauseEnv.Keeps
  simp only
  by_cases hconfig : env.setConfig ≠ 0
  · rw [if_pos hconfig]
    exact Or.inl ⟨Or.inl hconfig, rfl⟩
  rw [if_neg hconfig, v.count, Option.bind_some, getVolumeData_whole]
  cases hvoldata : env.calloc_voldata with
  | false => exact Or.inl ⟨Or.inr (Or.inl rfl), rfl⟩
  | true =>
    rw [if_neg (by decide), Option.bind_some]
    simp only
    rw [if_neg (by decide), v.count, Option.bind_some, v.arMemCpy_eq]
    cases hvolume : env.calloc_volume with
    | false => exact Or.inl ⟨Or.inr (Or.inr (Or.inl rfl)), rfl⟩
    | true =>
      rw [if_neg (by decide), Option.bind_some, StreamClass.setVolume_eq]
      have hfail : ¬ (v.pairs ≤ 31 ∧ env.calloc_mVolumeData = true) →
          ¬ (env.setConfig ≠ 0 ∨ true = false ∨ true = false ∨
            (v.pairs ≤ 31 ∧ env.calloc_mVolumeData = true)) := by
        rintro hno (h | h | h | h)
        · exact hconfig h
        · cases h
        · cases h
        · exact hno h
      rcases zeroLoop_copy v with ⟨w, hw, hle, hzero⟩ | ⟨hgt, hzero⟩
      · -- the volume of zeros has no more pairs than the copy, so it is set
        have hset : ∃ res, setVolume tests sizeof_uint32_t env.setVolume (some v.bytes)
            (some w.bytes) = some res := by
          rcases setVolume_cases tests env.setVolume w (some v.bytes) with
            ⟨-, h⟩ | ⟨-, -, status, h⟩ | ⟨-, hgt, -⟩
          · exact ⟨_, h⟩
          · exact ⟨_, h⟩
          · omega
        obtain ⟨res, hset⟩ := hset
        rw [hzero, Option.bind_some, hset, Option.bind_some, v.copy_eq hle]
        cases hcache : env.calloc_mVolumeData with
        | false =>
          rw [hcache] at hfail
          exact Or.inr ⟨hfail (by simp), Or.inr rfl⟩
        | true => exact Or.inl ⟨Or.inr (Or.inr (Or.inr ⟨hle, rfl⟩)), rfl⟩
      · rw [hzero]
        exact Or.inr ⟨hfail (by omega), Or.inl rfl⟩

theorem step_resume (tests : VolumeTests) (m : Option (List UInt8)) (k : StreamClass)
    (env : ResumeEnv) :
    ∃ down, step tests m (.resumeL k env) =
      (Volume.resumeL tests k down env m).map Prod.snd := by
  cases k
  · exact ⟨_, rfl⟩
  · exact ⟨_, rfl⟩

/-- A resume keeps the volume, leaves none, or leaves the buffers. -/
theorem step_resume_cases (tests : VolumeTests) (k : StreamClass) (env : ResumeEnv)
    (v : WholeVolume) :
    (env.Keeps v.pairs ∧ step tests (some v.bytes) (.resumeL k env) = some (some v.bytes)) ∨
    (¬ env.Keeps v.pairs ∧ (step tests (some v.bytes) (.resumeL k env) = none ∨
      step tests (some v.bytes) (.resumeL k env) = some none)) := by
  obtain ⟨down, hstep⟩ := step_resume tests (some v.bytes) k env
  rw [hstep]
  unfold Volume.resumeL ResumeEnv.Keeps
  simp only
  by_cases hdown : env.cardDown = true
  · rw [if_pos hdown]
    exact Or.inl ⟨Or.inl hdown, rfl⟩
  by_cases hresume : env.session_resume ≠ 0
  · rw [if_neg hdown, if_pos hresume]
    exact Or.inl ⟨Or.inr (Or.inl hresume), rfl⟩
  rw [if_neg hdown, if_neg hresume, v.count, Option.bind_some, getVolumeData_whole]
  cases hvoldata : env.calloc_voldata with
  | false => exact Or.inl ⟨Or.inr (Or.inr (Or.inl rfl)), rfl⟩
  | true =>
    rw [if_neg (by decide), Option.bind_some]
    simp only
    rw [if_neg (by decide), StreamClass.setVolume_eq]
    have hfail : ¬ (v.pairs ≤ 31 ∧ env.setVolume.calloc = true) →
        ¬ (env.cardDown = true ∨ env.session_resume ≠ 0 ∨ true = false ∨
          (v.pairs ≤ 31 ∧ env.setVolume.calloc = true)) := by
      rintro hno (h | h | h | h)
      · exact hdown h
      · exact hresume h
      · cases h
      · exact hno h
    rcases setVolume_cases tests env.setVolume v (some v.bytes) with
      ⟨hcalloc, h⟩ | ⟨hcalloc, hle, status, h⟩ | ⟨hcalloc, hgt, h⟩
    · rw [hcalloc] at hfail
      rw [h, hcalloc]
      exact Or.inr ⟨hfail (by simp), Or.inr rfl⟩
    · rw [h]
      exact Or.inl ⟨Or.inr (Or.inr (Or.inr ⟨hle, hcalloc⟩)), rfl⟩
    · rw [h]
      exact Or.inr ⟨hfail (by omega), Or.inl rfl⟩

/-- Without a volume a pause leaves none. -/
theorem step_pause_none (k : StreamClass) (env : PauseEnv) :
    step tests none (.pause k env) = some none := by
  show (pause tests k env none).map Prod.snd = _
  unfold pause
  by_cases hconfig : env.setConfig ≠ 0
  · rw [if_pos hconfig]
    rfl
  · rw [if_neg hconfig]
    rfl

theorem step_resume_none (k : StreamClass) (env : ResumeEnv) :
    step tests none (.resumeL k env) = some none := by
  obtain ⟨down, hstep⟩ := step_resume tests none k env
  rw [hstep]
  unfold Volume.resumeL
  by_cases hdown : env.cardDown = true
  · rw [if_pos hdown]
    rfl
  by_cases hresume : env.session_resume ≠ 0
  · rw [if_neg hdown, if_pos hresume]
    rfl
  · rw [if_neg hdown, if_neg hresume]
    rfl

end Calls

/-! ### Runs -/

section Runs

variable {tests}

/-- What a call can do to a cache: nothing, empty it, or put a volume there. -/
theorem step_whole {m : Option WholeVolume} {call : Call} {m' : Option (List UInt8)}
    (h : step tests (cacheOf m) call = some m') : ∃ w, m' = cacheOf w := by
  cases call with
  | setVolume k env volume =>
    rw [step_setVolume] at h
    rcases setVolume_cases tests env volume (cacheOf m) with
      ⟨-, hset⟩ | ⟨-, -, status, hset⟩ | ⟨-, -, hset⟩
    · rw [hset] at h
      cases h
      exact ⟨none, rfl⟩
    · rw [hset] at h
      cases h
      exact ⟨some volume, rfl⟩
    · rw [hset] at h
      cases h
  | pause k env =>
    cases m with
    | none =>
      rw [show cacheOf none = none from rfl, step_pause_none] at h
      cases h
      exact ⟨none, rfl⟩
    | some v =>
      rw [show cacheOf (some v) = some v.bytes from rfl] at h
      rcases step_pause_cases tests k env v with ⟨-, hstep⟩ | ⟨-, hstep | hstep⟩
      · rw [hstep] at h
        cases h
        exact ⟨some v, rfl⟩
      · rw [hstep] at h
        cases h
      · rw [hstep] at h
        cases h
        exact ⟨none, rfl⟩
  | resumeL k env =>
    cases m with
    | none =>
      rw [show cacheOf none = none from rfl, step_resume_none] at h
      cases h
      exact ⟨none, rfl⟩
    | some v =>
      rw [show cacheOf (some v) = some v.bytes from rfl] at h
      rcases step_resume_cases tests k env v with ⟨-, hstep⟩ | ⟨-, hstep | hstep⟩
      · rw [hstep] at h
        cases h
        exact ⟨some v, rfl⟩
      · rw [hstep] at h
        cases h
      · rw [hstep] at h
        cases h
        exact ⟨none, rfl⟩

/-- In every run that stays inside the buffers `mVolumeData` has a whole volume or none. -/
theorem whole_of_run {m : Option WholeVolume} {calls : List Call} {m' : Option (List UInt8)}
    (h : run (step tests) (cacheOf m) calls = some m') : ∃ w, m' = cacheOf w := by
  induction calls generalizing m with
  | nil =>
    cases h
    exact ⟨m, rfl⟩
  | cons call calls ih =>
    obtain ⟨t, ht, hrest⟩ := (run_cons_eq_some _).mp h
    obtain ⟨w, rfl⟩ := step_whole ht
    exact ih hrest

end Runs

/-! ### The cache is exact -/

/-- What is done with the volume: it is set, or the stream is paused and then resumed. -/
inductive Use where
  | setVolume (k : StreamClass) (env : SetVolumeEnv) (volume : WholeVolume)
  | pauseResume (k : StreamClass) (pause : PauseEnv) (resume : ResumeEnv)

def Use.calls : Use → List Call
  | .setVolume k env volume => [.setVolume k env volume]
  | .pauseResume k pause resume => [.pause k pause, .resumeL k resume]

/-- The volume that is to be cached behind it. -/
def Use.expected (m : Option WholeVolume) : Use → Option WholeVolume
  | .setVolume _ _ volume => some volume
  | .pauseResume _ _ _ => m

/-- No access is outside its buffer, and `mVolumeData` is what it is to be. -/
def Exact (m : Option WholeVolume) (use : Use) : Prop :=
  run (step tests) (cacheOf m) use.calls = some (cacheOf (use.expected m))

/-- The volume has at most 31 pairs wherever it is copied in the size of a `uint8_t`, and there is
memory for the copies that stay. -/
def Use.Fits (m : Option WholeVolume) : Use → Prop
  | .setVolume _ env volume => env.calloc = true ∧ volume.pairs ≤ 31
  | .pauseResume _ pause resume => ∀ v, m = some v → pause.Keeps v.pairs ∧ resume.Keeps v.pairs

section Exact

variable {tests}

theorem setVolume_exact_iff (k : StreamClass) (env : SetVolumeEnv) (v : WholeVolume)
    (m : Option WholeVolume) :
    Exact tests m (.setVolume k env v) ↔ env.calloc = true ∧ v.pairs ≤ 31 := by
  show run (step tests) (cacheOf m) [.setVolume k env v] = some (some v.bytes) ↔ _
  rw [run_cons, step_setVolume]
  rcases setVolume_cases tests env v (cacheOf m) with
    ⟨hcalloc, hset⟩ | ⟨hcalloc, hle, status, hset⟩ | ⟨hcalloc, hgt, hset⟩
  · rw [hset, hcalloc]
    exact iff_of_false (fun h => by cases h) (fun h => by cases h.1)
  · rw [hset]
    exact iff_of_true rfl ⟨hcalloc, hle⟩
  · rw [hset]
    exact iff_of_false (fun h => by cases h) (fun h => by omega)

/-- A pause that does not keep the volume does not leave one for the resume either. -/
theorem pauseResume_exact_iff (k : StreamClass) (penv : PauseEnv) (renv : ResumeEnv)
    (v : WholeVolume) :
    Exact tests (some v) (.pauseResume k penv renv) ↔
      penv.Keeps v.pairs ∧ renv.Keeps v.pairs := by
  show run (step tests) (some v.bytes) [.pause k penv, .resumeL k renv] = some (some v.bytes) ↔ _
  rw [run_cons]
  rcases step_pause_cases tests k penv v with ⟨hkeep, hpause⟩ | ⟨hlost, hpause | hpause⟩
  · rw [hpause, Option.bind_some, run_cons]
    rcases step_resume_cases tests k renv v with
      ⟨hkeep', hresume⟩ | ⟨hlost, hresume | hresume⟩
    · rw [hresume]
      exact iff_of_true rfl ⟨hkeep, hkeep'⟩
    · rw [hresume]
      exact iff_of_false (fun h => by cases h) (fun h => hlost h.2)
    · rw [hresume]
      exact iff_of_false (fun h => by cases h) (fun h => hlost h.2)
  · rw [hpause]
    exact iff_of_false (fun h => by cases h) (fun h => hlost h.1)
  · rw [hpause, Option.bind_some, run_cons, step_resume_none]
    exact iff_of_false (fun h => by cases h) (fun h => hlost h.1)

theorem pauseResume_none (k : StreamClass) (penv : PauseEnv) (renv : ResumeEnv) :
    Exact tests none (.pauseResume k penv renv) := by
  show run (step tests) none [.pause k penv, .resumeL k renv] = some none
  rw [run_cons, step_pause_none, Option.bind_some, run_cons, step_resume_none]
  rfl

end Exact

/-- **The cached volume is exact up to 31 pairs**: `setVolume` caches what it is given and a pause
followed by a resume keeps what was cached, with every access inside its buffer, exactly where the
size of the volume fits in a `uint8_t` and there is memory for the copies. -/
theorem exact_iff (m : Option WholeVolume) (use : Use) : Exact tests m use ↔ use.Fits m := by
  cases use with
  | setVolume k env volume => exact setVolume_exact_iff k env volume m
  | pauseResume k penv renv =>
    cases m with
    | none => exact iff_of_true (pauseResume_none k penv renv) (fun v h => by cases h)
    | some v =>
      rw [pauseResume_exact_iff]
      constructor
      · intro h w hw
        cases hw
        exact h
      · intro h
        exact h v rfl

/-- The silence of 32 channels. -/
def silence : WholeVolume where
  bytes := toBytes 4 32 ++ List.replicate 256 0
  pairs := 32
  count := by
    have hcount : 32 < 2 ^ (8 * 4) := by decide
    exact readLE_between [] (List.replicate 256 0) hcount
  length_eq := by
    rw [List.length_append, length_toBytes, List.length_replicate]
    rfl
  pos := by decide

/-- Of 32 pairs a stream that is not started caches 4 bytes, and its loop leaves them. -/
theorem not_exact_silence : ¬ Exact ⟨fun _ _ => false, fun _ => true⟩ none
    (.setVolume .StreamPCM ⟨true, false, false, false, false, 0, fun _ => 0⟩ silence) := by
  rw [setVolume_exact_iff]
  intro h
  exact absurd h.2 (by decide)

end AudioReachPal.Volume
