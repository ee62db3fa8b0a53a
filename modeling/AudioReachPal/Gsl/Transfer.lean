import AudioReachPal.Gsl.Mmap
import AudioReachPal.Ring.History

/-!
# What the mmap transfer delivers

When the copies of a run are the bytes of the DSP stream behind the dropped ones, each once. The
passes that drop bytes move the offset but not the write position, and the pass that drops the
last of them copies as many bytes as it was given, from beyond the position reported: a run with
bytes to drop is right only when it drops everything (`transfer_iff`). Without any to drop it is
right when no pass reads more than the buffer holds, and none but the last reads `2 ^ 29` bytes.
-/

namespace AudioReachPal.Gsl

open AudioReachPal.Lib

variable {fmt : Format} {M : ℕ}

/-! ### Lengths -/

/-- The number of bytes the copies write. -/
def copied (copies : List Copy) : ℕ := (copies.map Copy.size).sum

theorem length_delivered (init stream : ℕ → UInt8) (copies : List Copy) :
    (delivered M init stream copies).length = copied copies := by
  induction copies with
  | nil => rfl
  | cons c cs ih =>
    unfold delivered copied at ih ⊢
    simp [ih]

theorem delivered_append (init stream : ℕ → UInt8) (cs cs' : List Copy) :
    delivered M init stream (cs ++ cs') =
      delivered M init stream cs ++ delivered M init stream cs' := by
  simp [delivered]

/-- A ring that has room for each copy takes all the bytes the copies write. -/
theorem ring_takes_delivered (init stream : ℕ → UInt8) {copies : List Copy} {h h' : Ring.Hist}
    (hroom : h.HasRoom (copies.map fun c => bytesAt (streamed init stream M c.total) c.offset c.size))
    (hrun : h.runs ((copies.map fun c =>
      bytesAt (streamed init stream M c.total) c.offset c.size).map .write) = some h') :
    h'.written = h.written ++ delivered M init stream copies := by
  rw [Ring.Hist.written_of_hasRoom hroom hrun, delivered, List.flatMap_def]

theorem copied_append (cs cs' : List Copy) : copied (cs ++ cs') = copied cs + copied cs' := by
  simp [copied]

/-- A pass that copies writes at least as many bytes as it was given. -/
theorem le_copied_read (total offset : ℕ) {n : ℕ} (hn : n < 2 ^ 32) :
    n ≤ copied (readMmapBufWriteToRingBuf M total offset n).1 := by
  unfold readMmapBufWriteToRingBuf
  split_ifs
  · simp [copied]
  · simp only [copied, List.map_cons, List.map_nil, List.sum_cons, List.sum_nil]
    unfold sub64
    omega

/-! ### Positions -/

/-- The last position the run handles. -/
def lastOf (W : ℕ) (positions : List ℕ) : ℕ := positions.getLastD W

theorem lastOf_cons (W P : ℕ) (rest : List ℕ) : lastOf W (P :: rest) = lastOf P rest :=
  List.getLastD_cons

/-- The passes drop all the bytes they are given. -/
def AllDropped (fmt : Format) (W d : ℕ) (positions : List ℕ) : Prop :=
  (positions.map fun P => (P - W) * fmt.bytes_per_frame).sum ≤ d

/-- Positions that do not decrease end at their last one. -/
theorem le_lastOf_of_sorted {P : ℕ} {rest : List ℕ} (h : (P :: rest).Pairwise (· ≤ ·)) :
    P ≤ lastOf P rest := by
  induction rest generalizing P with
  | nil => exact le_rfl
  | cons Q rest ih =>
    have hPQ : P ≤ Q := (List.pairwise_cons.mp h).1 Q (by simp)
    have hQ := ih (List.pairwise_cons.mp h).2
    rw [lastOf_cons]
    omega

theorem labLoop_cons {st : Lab} {P : ℕ} {rest : List ℕ} {copies : List Copy}
    (h : labLoop fmt M st (P :: rest) = some copies) :
    ∃ first st' later, labStep fmt M st P = some (first, st') ∧
      labLoop fmt M st' rest = some later ∧ copies = first ++ later := by
  rw [labLoop] at h
  cases hstep : labStep fmt M st P with
  | none =>
    rw [hstep] at h
    cases h
  | some res =>
    obtain ⟨first, st'⟩ := res
    rw [hstep] at h
    obtain ⟨later, hlater, rfl⟩ := Option.map_eq_some_iff.mp h
    exact ⟨first, st', later, rfl, hlater, rfl⟩

/-- The write position never passes the last position of an accepted run. -/
theorem le_lastOf {positions : List ℕ} : ∀ {st : Lab} {copies : List Copy},
    (∀ P ∈ positions, P < 2 ^ 32) → labLoop fmt M st positions = some copies →
    st.mmap_write_position_ ≤ lastOf st.mmap_write_position_ positions ∧
      (positions ≠ [] → st.mmap_write_position_ < lastOf st.mmap_write_position_ positions) := by
  induction positions with
  | nil =>
    intro st copies _ _
    exact ⟨le_rfl, fun h => absurd rfl h⟩
  | cons P rest ih =>
    intro st copies hpos hrun
    obtain ⟨first, st', later, hstep, hlater, -⟩ := labLoop_cons hrun
    obtain ⟨hlt, hmax, -, hcase⟩ := labStep_cases hstep
    have hP : P < 2 ^ 32 := hpos P (by simp)
    have hW : st.mmap_write_position_ ≤ st'.mmap_write_position_ := by
      rcases hcase with ⟨-, -, rfl⟩ | ⟨-, r, -, rfl⟩
      · exact le_rfl
      · exact (le_nextPosition hlt hP (by unfold UINT32_MAX at hmax; omega)).1
    rw [lastOf_cons]
    suffices h : st.mmap_write_position_ < lastOf P rest by
      exact ⟨Nat.le_of_lt h, fun _ => h⟩
    cases rest with
    | nil => exact hlt
    | cons Q rest =>
      have hnext := (ih (fun R hR => hpos R (List.mem_cons_of_mem P hR)) hlater).2 (by simp)
      rw [lastOf_cons] at hnext ⊢
      omega

/-- An accepted run with nothing to drop does not drop its first bytes. -/
theorem not_allDropped {st : Lab} {positions : List ℕ} {copies : List Copy}
    (hne : positions ≠ []) (hd : st.bytes_to_drop = 0)
    (hrun : labLoop fmt M st positions = some copies) :
    ¬AllDropped fmt st.mmap_write_position_ st.bytes_to_drop positions := by
  cases positions with
  | nil => exact absurd rfl hne
  | cons P rest =>
    obtain ⟨first, st', later, hstep, -, -⟩ := labLoop_cons hrun
    have hlt := (labStep_cases hstep).1
    have hone : 0 < (P - st.mmap_write_position_) * fmt.bytes_per_frame :=
      Nat.mul_pos (by omega) fmt.bytes_per_frame_pos
    unfold AllDropped
    rw [List.map_cons, List.sum_cons, hd]
    omega

/-- **Lengths.** An accepted run either drops everything, or copies at least as many bytes as lie
between the write position and the last position. -/
theorem allDropped_or_le_copied {positions : List ℕ} : ∀ {st : Lab} {copies : List Copy},
    (∀ P ∈ positions, P < 2 ^ 32) → labLoop fmt M st positions = some copies →
    (AllDropped fmt st.mmap_write_position_ st.bytes_to_drop positions ∧ copies = []) ∨
      (¬AllDropped fmt st.mmap_write_position_ st.bytes_to_drop positions ∧
        (lastOf st.mmap_write_position_ positions - st.mmap_write_position_) *
          fmt.bytes_per_frame ≤ copied copies) := by
  induction positions with
  | nil =>
    intro st copies _ hrun
    cases hrun
    exact Or.inl ⟨Nat.zero_le _, rfl⟩
  | cons P rest ih =>
    intro st copies hpos hrun
    obtain ⟨first, st', later, hstep, hlater, rfl⟩ := labLoop_cons hrun
    have hrest : ∀ R ∈ rest, R < 2 ^ 32 := fun R hR => hpos R (List.mem_cons_of_mem P hR)
    have hlast' := le_lastOf hrest hlater
    obtain ⟨hlt, hmax, -, hcase⟩ := labStep_cases hstep
    rcases hcase with ⟨hdrop, rfl, rfl⟩ | ⟨hdrop, r, hread, rfl⟩
    · -- the pass drops what it is given: the rest of the run decides
      have hiff : AllDropped fmt st.mmap_write_position_ st.bytes_to_drop (P :: rest) ↔
          AllDropped fmt st.mmap_write_position_ (st.bytes_to_drop -
            (P - st.mmap_write_position_) * fmt.bytes_per_frame) rest := by
        unfold AllDropped
        rw [List.map_cons, List.sum_cons]
        omega
      rw [List.nil_append, hiff]
      rcases ih hrest hlater with hall | ⟨hnot, hle⟩
      · exact Or.inl hall
      · refine Or.inr ⟨hnot, ?_⟩
        cases rest with
        | nil => exact absurd (Nat.zero_le _) hnot
        | cons Q rest =>
          rw [lastOf_cons] at hle ⊢
          rw [lastOf_cons]
          exact hle
    · right
      constructor
      · unfold AllDropped
        rw [List.map_cons, List.sum_cons]
        omega
      · have hfirst : (P - st.mmap_write_position_) * fmt.bytes_per_frame ≤ copied first := by
          have hle := le_copied_read (M := M) (P * fmt.bytes_per_frame)
            (size64 (st.read_offset + st.bytes_to_drop))
            (n := (P - st.mmap_write_position_) * fmt.bytes_per_frame)
            (by unfold UINT32_MAX at hmax; omega)
          rwa [← hread] at hle
        rw [copied_append]
        cases rest with
        | nil =>
          rw [lastOf_cons, show lastOf P [] = P from rfl]
          omega
        | cons Q rest =>
          have hn : (P - st.mmap_write_position_) * fmt.bytes_per_frame < 2 ^ 32 := by
            unfold UINT32_MAX at hmax
            omega
          have hW := (le_nextPosition hlt (hpos P (by simp)) hn).2
          rcases ih hrest hlater with ⟨hall, -⟩ | ⟨-, hle⟩
          · exact absurd hall (not_allDropped (by simp) rfl hlater)
          · simp only [lastOf_cons] at hle hlast' ⊢
            have hsplit : lastOf Q rest - st.mmap_write_position_ ≤
                (P - st.mmap_write_position_) +
                  (lastOf Q rest - nextPosition fmt st.mmap_write_position_ P) := by
              omega
            have hmul := Nat.mul_le_mul_right fmt.bytes_per_frame hsplit
            rw [Nat.add_mul] at hmul
            omega

/-! ### The bytes of one copying pass -/

section Pass

variable {total r n : ℕ}

/-- The first byte a copying pass writes is the one at its offset. -/
theorem head_delivered_read (hM : M < 2 ^ 32) (hr : r ≤ M) (hn0 : 0 < n) (hn : n ≤ 2 * M - r)
    (init stream : ℕ → UInt8) :
    (delivered M init stream (readMmapBufWriteToRingBuf M total r n).1).head? =
      some (streamed init stream M total (r % M)) := by
  have hhead : ∀ (mem : ℕ → UInt8) (off m : ℕ), 0 < m → (bytesAt mem off m).head? = some (mem off) := by
    intro mem off m hm
    rw [List.head?_eq_getElem?, getElem?_bytesAt mem hm, Nat.add_zero]
  unfold readMmapBufWriteToRingBuf
  rw [size64_of_lt (by omega)]
  split_ifs with hfits
  · have hlt : r < M := by omega
    simp [delivered, hhead _ _ _ hn0, Nat.mod_eq_of_lt hlt]
  · rw [sub64_of_le hr (by omega), sub64_of_le (by omega) (by omega)]
    rcases Nat.eq_or_lt_of_le hr with rfl | hlt
    · have hrest : r + n - r = n := by omega
      simp [delivered, hrest, hhead _ _ _ hn0]
    · have hpos : 0 < M - r := by omega
      simp [delivered, Nat.mod_eq_of_lt hlt, List.head?_append, hhead _ _ _ hpos]

/-- A copying pass that is given no more than the buffer holds copies the bytes since the position
`p` of the stream, out of the buffer, and leaves the offset at the new position. -/
theorem read_exact (hM0 : 0 < M) (hM : M < 2 ^ 32) {p : ℕ} (hr : r ≤ M) (hoff : r % M = p % M)
    (hn0 : 0 < n) (hn : n ≤ 2 * M - r) (hnM : n ≤ M) (htotal : total = p + n) :
    (∀ c ∈ (readMmapBufWriteToRingBuf M total r n).1, c.offset + c.size ≤ M) ∧
      (readMmapBufWriteToRingBuf M total r n).2 ≤ M ∧
      (readMmapBufWriteToRingBuf M total r n).2 % M = total % M ∧
      ∀ init stream, delivered M init stream (readMmapBufWriteToRingBuf M total r n).1 =
        bytesAt stream p n := by
  have hmod := add_mod_cases (u := n) p hM0 hnM
  have hself : ∀ k, (k + M) % M = k % M := fun k => Nat.add_mod_right k M
  unfold readMmapBufWriteToRingBuf
  rw [size64_of_lt (by omega)]
  split_ifs with hfits
  · have hlt : r < M := by omega
    have hrp : r = p % M := by rw [← hoff, Nat.mod_eq_of_lt hlt]
    refine ⟨by simpa using hfits, hfits, ?_, fun init stream => ?_⟩
    · rw [hrp, htotal, Nat.mod_add_mod]
    · have hblock := bytesAt_streamed init stream (N := M) (show total ≤ p + M by omega)
        (show p + n ≤ total by omega) (show p % M + n ≤ M by omega)
      simpa [delivered, hrp] using hblock
  · rw [sub64_of_le hr (by omega), sub64_of_le (show M ≤ r + n by omega) (by omega)]
    refine ⟨?_, by omega, ?_, fun init stream => ?_⟩
    · intro c hc
      simp only [List.mem_cons, List.not_mem_nil, or_false] at hc
      rcases hc with rfl | rfl
      · simp only
        omega
      · simp only
        omega
    · have hshift : r + n - M + M = r + n := by omega
      rw [← hself (r + n - M), hshift, htotal, Nat.add_mod, hoff, ← Nat.add_mod]
    · -- up to the end of the buffer, then from its start
      have hwrap : (p + (M - r)) % M = 0 := by
        rcases Nat.eq_or_lt_of_le hr with rfl | hlt
        · rw [Nat.sub_self, Nat.add_zero, ← hoff, Nat.mod_self]
        · have hrp : r = p % M := by rw [← hoff, Nat.mod_eq_of_lt hlt]
          have := add_mod_cases (u := M - r) p hM0 (by omega)
          omega
      have hsplit : n = (M - r) + (r + n - M) := by omega
      have hfirst : bytesAt (streamed init stream M total) r (M - r) = bytesAt stream p (M - r) := by
        rcases Nat.eq_or_lt_of_le hr with rfl | hlt
        · rw [Nat.sub_self]
          rfl
        · have hrp : r = p % M := by rw [← hoff, Nat.mod_eq_of_lt hlt]
          have hblock := bytesAt_streamed init stream (N := M) (show total ≤ p + M by omega)
            (show p + (M - r) ≤ total by omega) (show p % M + (M - r) ≤ M by omega)
          rwa [← hrp] at hblock
      have hsecond : bytesAt (streamed init stream M total) 0 (r + n - M) =
          bytesAt stream (p + (M - r)) (r + n - M) := by
        have hblock := bytesAt_streamed init stream (N := M)
          (show total ≤ p + (M - r) + M by omega)
          (show p + (M - r) + (r + n - M) ≤ total by omega)
          (show (p + (M - r)) % M + (r + n - M) ≤ M by omega)
        rwa [hwrap] at hblock
      have hboth : bytesAt stream p n =
          bytesAt stream p (M - r) ++ bytesAt stream (p + (M - r)) (r + n - M) := by
        rw [← bytesAt_add, ← hsplit]
      rw [hboth, ← hfirst, ← hsecond]
      simp [delivered]

end Pass

/-- The stream that is zero but for its byte `p`. -/
def mark (p : ℕ) : ℕ → UInt8 := fun i => if i = p then 1 else 0

/-- A buffer that held zeros shows no marked byte in a cell that cannot hold byte `p`, or where a
later byte has taken its place. -/
theorem streamed_mark {total a p : ℕ} (ha : a < M) (h : a ≠ p % M ∨ p + M < total) :
    streamed (fun _ => 0) (mark p) M total a = 0 := by
  rcases @streamed_eq UInt8 (fun _ => 0) (mark p) M total a ha with ⟨k, hk, hkM, hmod, hval⟩ | hval
  · have hne : k ≠ p := by
      rintro rfl
      rcases h with h | h
      · exact h hmod.symm
      · omega
    rw [hval]
    exact if_neg hne
  · exact hval

/-- Copies whose first byte is not the one the stream has at `p` do not deliver it. -/
theorem not_delivers_of_head {p last : ℕ} {copies : List Copy} (hlast : p < last)
    (h : (delivered M (fun _ => 0) (mark p) copies).head? = some 0) : ¬Delivers M p last copies := by
  rintro ⟨-, hall⟩
  rw [hall, List.head?_eq_getElem?, getElem?_bytesAt _ (by omega)] at h
  simp [mark] at h

/-! ### Runs without bytes to drop -/

/-- No pass is given more bytes than the buffer holds, and none but the last `2 ^ 29` bytes. -/
def Fits (fmt : Format) (M : ℕ) : ℕ → List ℕ → Prop
  | _, [] => True
  | W, P :: rest => (P - W) * fmt.bytes_per_frame ≤ M ∧
      (rest ≠ [] → (P - W) * fmt.bytes_per_frame < 2 ^ 29) ∧ Fits fmt M P rest

/-- Copies that write too many bytes deliver nothing. -/
theorem not_delivers_of_length {first last : ℕ} {copies : List Copy}
    (h : last - first < copied copies) : ¬Delivers M first last copies := by
  rintro ⟨-, hall⟩
  have hlen := congrArg List.length (hall (fun _ => 0) (fun _ => 0))
  rw [length_delivered, length_bytesAt] at hlen
  omega

theorem mul_sub_of_lt {a b : ℕ} (c : ℕ) : a * c - b * c = (a - b) * c := (Nat.sub_mul a b c).symm

/-- Copies that deliver the bytes up to a position, followed by others, deliver the bytes up to a
later one when the others deliver what is left. -/
theorem delivers_append {p q last : ℕ} {cs cs' : List Copy} (hpq : p ≤ q) (hq : q ≤ last)
    (hcs : ∀ c ∈ cs, c.offset + c.size ≤ M)
    (hbytes : ∀ init stream, delivered M init stream cs = bytesAt stream p (q - p)) :
    Delivers M p last (cs ++ cs') ↔ Delivers M q last cs' := by
  have hsplit : ∀ stream : ℕ → UInt8, bytesAt stream p (last - p) =
      bytesAt stream p (q - p) ++ bytesAt stream q (last - q) := by
    intro stream
    rw [show last - p = (q - p) + (last - q) by omega, bytesAt_add, show p + (q - p) = q by omega]
  constructor
  · rintro ⟨hr, hall⟩
    refine ⟨fun c hc => hr c (List.mem_append_right cs hc), fun init stream => ?_⟩
    have h := hall init stream
    rw [delivered_append, hbytes, hsplit] at h
    exact List.append_cancel_left h
  · rintro ⟨hr, hall⟩
    refine ⟨fun c hc => ?_, fun init stream => ?_⟩
    · rcases List.mem_append.mp hc with hc | hc
      · exact hcs c hc
      · exact hr c hc
    · rw [delivered_append, hbytes, hsplit, hall]

/-- **Without bytes to drop.** From an offset that is the write position's, an accepted run
delivers the bytes up to its last position exactly when its passes fit. -/
theorem delivers_iff_fits (hM0 : 0 < M) (hM : M < 2 ^ 32) {positions : List ℕ} :
    ∀ {W r : ℕ} {copies : List Copy}, r ≤ M → r % M = W * fmt.bytes_per_frame % M →
      (∀ P ∈ positions, P < 2 ^ 32) → positions.Pairwise (· ≤ ·) → labLoop fmt M ⟨W, r, 0⟩ positions = some copies →
      (Delivers M (W * fmt.bytes_per_frame) (lastOf W positions * fmt.bytes_per_frame) copies ↔
        Fits fmt M W positions) := by
  induction positions with
  | nil =>
    intro W r copies _ _ _ _ hrun
    cases hrun
    simp [Delivers, delivered, lastOf, Fits]
  | cons P rest ih =>
    intro W r copies hr hoff hpos hsorted hrun
    obtain ⟨first, st', later, hstep, hlater, rfl⟩ := labLoop_cons hrun
    have hrest : ∀ R ∈ rest, R < 2 ^ 32 := fun R hR => hpos R (List.mem_cons_of_mem P hR)
    have hP : P < 2 ^ 32 := hpos P (by simp)
    obtain ⟨hlt, hmax, hsize, hcase⟩ := labStep_cases hstep
    simp only at hlt hmax hsize hcase
    rw [sub64_of_le (by omega) (by omega)] at hsize
    have hn0 : 0 < (P - W) * fmt.bytes_per_frame :=
      Nat.mul_pos (by omega) fmt.bytes_per_frame_pos
    have hn32 : (P - W) * fmt.bytes_per_frame < 2 ^ 32 := by
      unfold UINT32_MAX at hmax
      omega
    have htotal : P * fmt.bytes_per_frame =
        W * fmt.bytes_per_frame + (P - W) * fmt.bytes_per_frame := by
      rw [← Nat.add_mul, show W + (P - W) = P by omega]
    obtain ⟨r', hread, rfl⟩ : ∃ r', (first, r') = readMmapBufWriteToRingBuf M
        (P * fmt.bytes_per_frame) r ((P - W) * fmt.bytes_per_frame) ∧
        st' = ⟨nextPosition fmt W P, r', 0⟩ := by
      rcases hcase with ⟨hdrop, -, -⟩ | ⟨-, r', hread, hst⟩
      · omega
      · rw [Nat.add_zero, size64_of_lt (by omega)] at hread
        exact ⟨r', hread, hst⟩
    rw [lastOf_cons]
    have hPlast : P ≤ lastOf P rest := le_lastOf_of_sorted hsorted
    have hPlast' := Nat.mul_le_mul_right fmt.bytes_per_frame hPlast
    by_cases hnM : (P - W) * fmt.bytes_per_frame ≤ M
    · obtain ⟨hin, hr', hoff', hbytes⟩ := read_exact hM0 hM hr hoff hn0 hsize hnM htotal
      rw [← hread] at hin hr' hoff' hbytes
      simp only at hin hr' hoff' hbytes
      have hbytes' : ∀ init stream, delivered M init stream first = bytesAt stream
          (W * fmt.bytes_per_frame) (P * fmt.bytes_per_frame - W * fmt.bytes_per_frame) := by
        intro init stream
        rw [hbytes, htotal, Nat.add_sub_cancel_left]
      rw [delivers_append (by omega) hPlast' hin hbytes']
      cases rest with
      | nil =>
        cases hlater
        simp [Delivers, delivered, lastOf, Fits, hnM]
      | cons Q rest =>
        rcases Nat.lt_or_ge ((P - W) * fmt.bytes_per_frame) (2 ^ 29) with hsmall | hbig
        · have hlater' := hlater
          rw [nextPosition_of_lt hlt hP hsmall] at hlater'
          rw [ih hr' hoff' hrest (List.pairwise_cons.mp hsorted).2 hlater']
          exact ⟨fun h => ⟨hnM, fun _ => hsmall, h⟩, fun h => h.2.2⟩
        · -- the write position falls behind, so the next pass reads bytes again
          have hbehind := nextPosition_lt hlt hP hbig hn32
          have hlength : lastOf P (Q :: rest) * fmt.bytes_per_frame - P * fmt.bytes_per_frame <
              copied later := by
            rcases allDropped_or_le_copied hrest hlater with ⟨hall, -⟩ | ⟨-, hle⟩
            · exact absurd hall (not_allDropped (by simp) rfl hlater)
            · simp only [lastOf_cons] at hle hPlast ⊢
              have hmore : lastOf Q rest - P < lastOf Q rest - nextPosition fmt W P := by omega
              have hmul := Nat.mul_lt_mul_of_pos_right hmore fmt.bytes_per_frame_pos
              rw [mul_sub_of_lt]
              omega
          exact ⟨fun h => absurd h (not_delivers_of_length hlength),
            fun h => absurd (h.2.1 (by simp)) (by omega)⟩
    · -- the buffer has lost the first bytes of the pass
      have hhead : (delivered M (fun _ => 0) (mark (W * fmt.bytes_per_frame))
          (readMmapBufWriteToRingBuf M (P * fmt.bytes_per_frame) r
            ((P - W) * fmt.bytes_per_frame)).1).head? = _ :=
        head_delivered_read hM hr hn0 hsize _ _
      rw [← hread, hoff, streamed_mark (Nat.mod_lt _ hM0) (Or.inr (by omega))] at hhead
      have hnot : ¬Delivers M (W * fmt.bytes_per_frame) (lastOf P rest * fmt.bytes_per_frame)
          (first ++ later) := by
        refine not_delivers_of_head (by omega) ?_
        rw [delivered_append, List.head?_append, hhead]
        rfl
      exact ⟨fun h => absurd h hnot, fun h => absurd h.1 hnM⟩

/-- The offset that the loop starts from is the one of its write position. -/
def StartsRight (fmt : Format) (M W : ℕ) : Prop :=
  W * fmt.bytes_per_frame < 2 ^ 32 ∨ UINT32_MAX % M = W * fmt.bytes_per_frame % M

theorem startOffset_eq {W : ℕ} (hW : W ≠ 0) :
    startOffset fmt M W = some (min (W * fmt.bytes_per_frame) UINT32_MAX % M) := by
  unfold startOffset
  rw [frameToBytes_eq hW]
  rfl

theorem startsRight_iff {W : ℕ} : StartsRight fmt M W ↔
    min (W * fmt.bytes_per_frame) UINT32_MAX % M = W * fmt.bytes_per_frame % M := by
  unfold StartsRight
  rcases Nat.lt_or_ge (W * fmt.bytes_per_frame) (2 ^ 32) with hlt | hge
  · rw [Nat.min_eq_left (by unfold UINT32_MAX; omega)]
    exact ⟨fun _ => rfl, fun _ => Or.inl hlt⟩
  · rw [Nat.min_eq_right (by unfold UINT32_MAX; omega)]
    constructor
    · rintro (h | h)
      · omega
      · exact h
    · exact Or.inr

/-- A run that drops everything ends before the first byte that is to be copied. -/
theorem last_le_of_allDropped {W d : ℕ} {positions : List ℕ}
    (h : AllDropped fmt W d positions) : (lastOf W positions - W) * fmt.bytes_per_frame ≤ d := by
  have hsum : ∀ (l : List ℕ) (P : ℕ), (lastOf P l - W) * fmt.bytes_per_frame ≤
      (P - W) * fmt.bytes_per_frame + (l.map fun Q => (Q - W) * fmt.bytes_per_frame).sum := by
    intro l
    induction l with
    | nil =>
      intro P
      simp [lastOf]
    | cons Q rest ih =>
      intro P
      have hQ := ih Q
      rw [lastOf_cons, List.map_cons, List.sum_cons]
      omega
  have hW := hsum positions W
  rw [Nat.sub_self, Nat.zero_mul, Nat.zero_add] at hW
  exact Nat.le_trans hW h

/-- From a wrong offset the first byte copied is not the one at the write position. -/
theorem not_delivers_of_offset (hM : M < 2 ^ 32) {W r : ℕ} {positions : List ℕ}
    {copies : List Copy} (hr : r < M) (hoff : r ≠ W * fmt.bytes_per_frame % M)
    (hne : positions ≠ []) (hpos : ∀ P ∈ positions, P < 2 ^ 32)
    (hrun : labLoop fmt M ⟨W, r, 0⟩ positions = some copies) :
    ¬Delivers M (W * fmt.bytes_per_frame) (lastOf W positions * fmt.bytes_per_frame) copies := by
  have hlast : W < lastOf W positions := (le_lastOf hpos hrun).2 hne
  have hmul := Nat.mul_lt_mul_of_pos_right hlast fmt.bytes_per_frame_pos
  refine not_delivers_of_head hmul ?_
  cases positions with
  | nil => exact absurd rfl hne
  | cons P rest =>
    obtain ⟨first, st', later, hstep, -, rfl⟩ := labLoop_cons hrun
    obtain ⟨hlt, -, hsize, hcase⟩ := labStep_cases hstep
    simp only at hlt hsize hcase
    rw [sub64_of_le (by omega) (by omega)] at hsize
    have hn0 : 0 < (P - W) * fmt.bytes_per_frame :=
      Nat.mul_pos (by omega) fmt.bytes_per_frame_pos
    rcases hcase with ⟨hdrop, -, -⟩ | ⟨-, r', hread, -⟩
    · omega
    · rw [Nat.add_zero, size64_of_lt (by omega)] at hread
      have hhead : (delivered M (fun _ => 0) (mark (W * fmt.bytes_per_frame))
          (readMmapBufWriteToRingBuf M (P * fmt.bytes_per_frame) r
            ((P - W) * fmt.bytes_per_frame)).1).head? = _ :=
        head_delivered_read hM (Nat.le_of_lt hr) hn0 hsize _ _
      have hcell : r % M ≠ W * fmt.bytes_per_frame % M := by rwa [Nat.mod_eq_of_lt hr]
      rw [← hread, streamed_mark (Nat.mod_lt _ (by omega)) (Or.inl hcell)] at hhead
      rw [delivered_append, List.head?_append, hhead]
      rfl

/-- **What the transfer delivers.** For positions that do not decrease and that the loop accepts,
it copies the bytes of the stream behind the dropped ones up to the last position, each once, if
and only if it starts behind frame 0 and either drops everything, or has nothing to drop, starts
from the right offset and no pass is given too much. -/
theorem transfer_iff (hM0 : 0 < M) (hM : M < 2 ^ 32) {W d : ℕ} {positions : List ℕ}
    (hpos : ∀ P ∈ positions, P < 2 ^ 32) (hsorted : positions.Pairwise (· ≤ ·))
    (haccept : ∀ r, startOffset fmt M W = some r →
      (labLoop fmt M ⟨W, r, d⟩ positions).isSome) :
    (∃ copies, startBuffering fmt M W d positions = some copies ∧
      Delivers M (W * fmt.bytes_per_frame + d) (lastOf W positions * fmt.bytes_per_frame) copies) ↔
    W ≠ 0 ∧ (AllDropped fmt W d positions ∨
      (d = 0 ∧ StartsRight fmt M W ∧ Fits fmt M W positions)) := by
  rcases eq_or_ne W 0 with rfl | hW
  · -- `frameToBytes` divides by the zero frames of the start position
    have hnone : startBuffering fmt M 0 d positions = none := rfl
    simp [hnone]
  · have hstart : startOffset fmt M W = _ := startOffset_eq hW
    obtain ⟨copies, hrun⟩ := Option.isSome_iff_exists.mp (haccept _ hstart)
    have hbuf : startBuffering fmt M W d positions = some copies := by
      unfold startBuffering
      rw [hstart]
      exact hrun
    have hlast := le_lastOf hpos hrun
    simp only at hlast
    rcases allDropped_or_le_copied hpos hrun with ⟨hall, rfl⟩ | ⟨hnot, hle⟩
    · have hd := last_le_of_allDropped hall
      rw [← mul_sub_of_lt] at hd
      have hempty : lastOf W positions * fmt.bytes_per_frame - (W * fmt.bytes_per_frame + d) = 0 := by
        simp only at hd
        omega
      refine ⟨fun _ => ⟨hW, Or.inl hall⟩, fun _ => ⟨[], hbuf, by simp, fun init stream => ?_⟩⟩
      rw [hempty]
      rfl
    · simp only at hnot hle
      have hne : positions ≠ [] := by
        rintro rfl
        exact hnot (Nat.zero_le d)
      have hpos' : 0 < (lastOf W positions - W) * fmt.bytes_per_frame :=
        Nat.mul_pos (by have := hlast.2 hne; omega) fmt.bytes_per_frame_pos
      constructor
      · rintro ⟨copies', hbuf', hdel⟩
        obtain rfl : copies = copies' := Option.some.inj (hbuf.symm.trans hbuf')
        have hd : d = 0 := by
          by_contra hd
          refine not_delivers_of_length ?_ hdel
          rw [← mul_sub_of_lt] at hle hpos'
          omega
        subst hd
        rw [Nat.add_zero] at hdel
        have hright : StartsRight fmt M W := by
          by_contra hwrong
          exact not_delivers_of_offset hM (Nat.mod_lt _ hM0)
            (fun h => hwrong (startsRight_iff.mpr h)) hne hpos hrun hdel
        refine ⟨hW, Or.inr ⟨rfl, hright, ?_⟩⟩
        refine (delivers_iff_fits hM0 hM (Nat.le_of_lt (Nat.mod_lt _ hM0)) ?_ hpos hsorted hrun).mp
          hdel
        rw [Nat.mod_mod]
        exact startsRight_iff.mp hright
      · rintro ⟨-, hall | ⟨rfl, hright, hfits⟩⟩
        · exact absurd hall hnot
        · refine ⟨copies, hbuf, ?_⟩
          rw [Nat.add_zero]
          refine (delivers_iff_fits hM0 hM (Nat.le_of_lt (Nat.mod_lt _ hM0)) ?_ hpos hsorted
            hrun).mpr hfits
          rw [Nat.mod_mod]
          exact startsRight_iff.mp hright

/-- Two bytes a frame, in a buffer of eight bytes: two passes of three frames each, the second of
them around the end. -/
def mono16 : Format := ⟨16, 1, Or.inl rfl, by decide, by decide⟩

theorem transfer_iff_six : (∃ copies, startBuffering mono16 8 1 0 [4, 7] = some copies ∧
      Delivers 8 (1 * mono16.bytes_per_frame + 0) (lastOf 1 [4, 7] * mono16.bytes_per_frame)
        copies) ↔
    1 ≠ 0 ∧ (AllDropped mono16 1 0 [4, 7] ∨
      (0 = 0 ∧ StartsRight mono16 8 1 ∧ Fits mono16 8 1 [4, 7])) :=
  transfer_iff (by decide) (by decide) (by decide) (by decide) (by
    rintro r ⟨⟩
    decide)

/-- With two bytes to drop, a pass of three frames copies six bytes, the last two of them from
beyond the position reported. -/
theorem not_delivers_drop : ¬∃ copies, startBuffering mono16 8 1 2 [4] = some copies ∧
    Delivers 8 (1 * mono16.bytes_per_frame + 2) (lastOf 1 [4] * mono16.bytes_per_frame) copies := by
  rintro ⟨copies, hrun, hdel⟩
  have hcopies : startBuffering mono16 8 1 2 [4] = some [⟨8, 4, 4⟩, ⟨8, 0, 2⟩] := by rfl
  rw [hcopies] at hrun
  obtain rfl := Option.some.inj hrun
  exact not_delivers_of_length (by decide) hdel

end AudioReachPal.Gsl
