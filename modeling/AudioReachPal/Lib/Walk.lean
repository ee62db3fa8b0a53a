import AudioReachPal.Lib.MachineInt
import AudioReachPal.Lib.Region
import AudioReachPal.Lib.Tlv
import Mathlib.Data.List.TakeWhile

/-!
# Walking over records

A reader steps over the records of a region: it reads the two fields of a header, lets the record act
on its state, and goes on by the size that the header names. The size read so far is a 32-bit word,
the place in the region is not; an act may ask for no more records, which sets the size read so far
to that of the region, or end the walk with a failure. Where the records lie one behind the other up
to the end of the region, the walk is the acts of the records, one after the other. Over any bytes,
where the acts see to it that their records lie inside, it ends behind the last record or at the first
one that is refused.
-/

namespace AudioReachPal.Lib

/-- The header of a record: its size, and where its fields of four bytes stand. -/
structure RecordHeader where
  size : ℕ
  key_id : ℕ
  payload_size : ℕ
  key_id_inside : key_id + 4 ≤ size
  payload_size_inside : payload_size + 4 ≤ size

/-- What the act of a record asks for. -/
inductive Visit (σ ρ : Type*) where
  | next (s : σ)
  | last (s : σ)
  | fail (r : ρ)

variable {σ ρ : Type*} (H : RecordHeader) (b : List UInt8)
  (visit : σ → (key_id ptr : ℕ) → Option (Visit σ ρ))

/-- The walk from the record at `ptr` on; `none` is a read outside the region, or a walk that has not
ended after `fuel` records. An act sees the key of its record and where its payload begins. -/
def walk : (fuel : ℕ) → σ → (ptr parsed_size : ℕ) → Option (Except ρ σ)
  | 0, _, _, _ => none
  | fuel + 1, s, ptr, parsed_size =>
    if parsed_size < b.length then
      (readLE b 4 (ptr + H.key_id)).bind fun key_id =>
        (readLE b 4 (ptr + H.payload_size)).bind fun payload_size =>
          (visit s key_id (ptr + H.size)).bind fun
            | .next s =>
              walk fuel s (ptr + H.size + payload_size)
                (word32 (word32 (parsed_size + H.size) + payload_size))
            | .last s =>
              walk fuel s (ptr + H.size + payload_size) (word32 (b.length + payload_size))
            | .fail r => some (.error r)
    else some (.ok s)

/-- The acts of the records, one after the other. -/
def visitAll : List (Tlv ℕ Unit) → σ → Option (Except ρ σ)
  | [], s => some (.ok s)
  | r :: rs, s =>
    (visit s r.key_id (r.offset + H.size)).bind fun
      | .next s => visitAll rs s
      | .last s => some (.ok s)
      | .fail r => some (.error r)

/-- The records lie in the region from `p` up to its end. -/
structure Laid (p : ℕ) (rs : List (Tlv ℕ Unit)) : Prop where
  chain : Tlv.Chain H.size p rs b.length
  key_id : ∀ r ∈ rs, readLE b 4 (r.offset + H.key_id) = some r.key_id
  payload_size : ∀ r ∈ rs, readLE b 4 (r.offset + H.payload_size) = some r.payload_size

variable {H b visit} {p : ℕ} {r : Tlv ℕ Unit} {rs : List (Tlv ℕ Unit)}

theorem Laid.tail (h : Laid H b p (r :: rs)) : Laid H b (p + Tlv.size H.size r) rs where
  chain := h.chain.2
  key_id r' hr' := h.key_id r' (List.mem_cons_of_mem _ hr')
  payload_size r' hr' := h.payload_size r' (List.mem_cons_of_mem _ hr')

/-- There are no more records than bytes. -/
theorem Laid.length_le (h : Laid H b p rs) : p + rs.length ≤ b.length := by
  induction rs generalizing p with
  | nil =>
    have hend : p = b.length := h.chain
    rw [List.length_nil]
    omega
  | cons r rs ih =>
    have hrest := ih h.tail
    have hkey := H.key_id_inside
    unfold Tlv.size at hrest
    rw [List.length_cons]
    omega

/-- The bytes say which records they are. -/
theorem Laid.unique {rs' : List (Tlv ℕ Unit)} (h : Laid H b p rs) (h' : Laid H b p rs') :
    rs = rs' := by
  induction rs generalizing p rs' with
  | nil =>
    have hlen := h'.length_le
    have hend : p = b.length := h.chain
    exact (List.length_eq_zero_iff.mp (by omega)).symm
  | cons r rs ih =>
    cases rs' with
    | nil =>
      have hlen := h.length_le
      have hend : p = b.length := h'.chain
      rw [List.length_cons] at hlen
      omega
    | cons r' rs' =>
      obtain ⟨offset, key_id, payload_size, ⟨⟩⟩ := r
      obtain ⟨offset', key_id', payload_size', ⟨⟩⟩ := r'
      obtain ⟨rfl, -⟩ : offset = p ∧ _ := h.chain
      obtain ⟨rfl, -⟩ : offset' = offset ∧ _ := h'.chain
      have hkey := h.key_id _ List.mem_cons_self
      have hkey' := h'.key_id _ List.mem_cons_self
      have hsize := h.payload_size _ List.mem_cons_self
      have hsize' := h'.payload_size _ List.mem_cons_self
      cases Option.some.inj (hkey.symm.trans hkey')
      cases Option.some.inj (hsize.symm.trans hsize')
      rw [ih h.tail h'.tail]

/-- **The walk over laid records.** It ends and is what their acts make of the state; an act that asks
for no more records must not make the size read so far wrap. -/
theorem walk_of_laid (h : Laid H b p rs) (hb : b.length < 2 ^ 32)
    (hlast : ∀ r ∈ rs, ∀ s s', visit s r.key_id (r.offset + H.size) = some (.last s') →
      b.length + r.payload_size < 2 ^ 32)
    {fuel : ℕ} (hfuel : rs.length < fuel) (s : σ) :
    walk H b visit fuel s p p = visitAll H visit rs s := by
  induction rs generalizing p fuel s with
  | nil =>
    obtain ⟨fuel, rfl⟩ : ∃ n, fuel = n + 1 := ⟨fuel - 1, by omega⟩
    have hend : p = b.length := h.chain
    rw [walk, if_neg (by omega)]
    rfl
  | cons r rs ih =>
    rw [List.length_cons] at hfuel
    obtain ⟨fuel, rfl⟩ : ∃ n, fuel = n + 1 := ⟨fuel - 1, by omega⟩
    obtain ⟨hoffset, -⟩ := h.chain
    obtain ⟨-, hin⟩ := h.chain.inside List.mem_cons_self
    have hkey := h.key_id r List.mem_cons_self
    have hsize := h.payload_size r List.mem_cons_self
    have hpos := H.key_id_inside
    unfold Tlv.size at hin
    rw [hoffset] at hin hkey hsize
    rw [walk, if_pos (by omega), hkey, hsize, Option.bind_some, Option.bind_some, visitAll, hoffset]
    rcases hact : visit s r.key_id (p + H.size) with _ | (s' | s' | r')
    · rfl
    · rw [Option.bind_some, Option.bind_some, word32_of_lt (show p + H.size < 2 ^ 32 by omega),
        word32_of_lt (show p + H.size + r.payload_size < 2 ^ 32 by omega)]
      have hrest := ih h.tail (fun r' hr' => hlast r' (List.mem_cons_of_mem _ hr'))
        (show rs.length < fuel by omega) s'
      unfold Tlv.size at hrest
      rw [← Nat.add_assoc] at hrest
      exact hrest
    · have hwrap := hlast r List.mem_cons_self s s' (hoffset ▸ hact)
      obtain ⟨fuel, rfl⟩ : ∃ n, fuel = n + 1 := ⟨fuel - 1, by omega⟩
      rw [Option.bind_some, Option.bind_some, word32_of_lt hwrap]
      show walk H b visit (fuel + 1) s' _ _ = some (.ok s')
      rw [walk, if_neg (by omega)]
    · rfl

/-- In a region of less than 2 GiB no size wraps. -/
theorem walk_of_laid_small (h : Laid H b p rs) (hb : b.length < 2 ^ 31) {fuel : ℕ}
    (hfuel : rs.length < fuel) (s : σ) : walk H b visit fuel s p p = visitAll H visit rs s := by
  refine walk_of_laid h (by omega) (fun r hr _ _ _ => ?_) hfuel s
  obtain ⟨-, hin⟩ := h.chain.inside hr
  unfold Tlv.size at hin
  omega

/-! ### Visits that read -/

/-- The visits read a record of a known key into the state and refuse any other one. -/
structure Reads (H : RecordHeader) (visit : σ → (key_id ptr : ℕ) → Option (Visit σ ρ))
    (known : ℕ → Prop) (read : σ → Tlv ℕ Unit → Option σ) (refused : ρ) : Prop where
  of_known : ∀ s (r : Tlv ℕ Unit), known r.key_id →
    visit s r.key_id (r.offset + H.size) = (read s r).map .next
  of_unknown : ∀ s (r : Tlv ℕ Unit), ¬ known r.key_id →
    visit s r.key_id (r.offset + H.size) = some (.fail refused)

section Reads

variable {known : ℕ → Prop} [DecidablePred known] {read : σ → Tlv ℕ Unit → Option σ} {refused : ρ}

/-- The records in front of the first one of an unknown key. -/
def knownRecords (known : ℕ → Prop) [DecidablePred known] (rs : List (Tlv ℕ Unit)) :
    List (Tlv ℕ Unit) :=
  rs.takeWhile fun r => known r.key_id

theorem knownRecords_of_forall (h : ∀ r ∈ rs, known r.key_id) : knownRecords known rs = rs := by
  unfold knownRecords
  rw [List.takeWhile_eq_self_iff]
  intro r hr
  exact decide_eq_true (h r hr)

theorem Reads.not_last (h : Reads H visit known read refused) {s s' : σ} :
    visit s r.key_id (r.offset + H.size) ≠ some (.last s') := by
  intro hlast
  by_cases hknown : known r.key_id
  · rw [h.of_known s r hknown] at hlast
    obtain ⟨_, -, hlast⟩ := Option.map_eq_some_iff.mp hlast
    cases hlast
  · rw [h.of_unknown s r hknown] at hlast
    cases hlast

theorem knownRecords_cons_of_known (h : known r.key_id) :
    knownRecords known (r :: rs) = r :: knownRecords known rs := by
  unfold knownRecords
  exact List.takeWhile_cons_of_pos (by simpa using h)

theorem knownRecords_cons_of_unknown (h : ¬ known r.key_id) :
    knownRecords known (r :: rs) = [] := by
  unfold knownRecords
  exact List.takeWhile_cons_of_neg (by simpa using h)

/-- They read the records in front of the first unknown one, which decides how the walk ends. -/
theorem visitAll_of_reads (h : Reads H visit known read refused) (s : σ) :
    visitAll H visit rs s = ((knownRecords known rs).foldlM read s).map fun s' =>
      if ∀ r ∈ rs, known r.key_id then .ok s' else .error refused := by
  induction rs generalizing s with
  | nil => simp [visitAll, knownRecords]
  | cons r rs ih =>
    by_cases hknown : known r.key_id
    · rw [visitAll, h.of_known s r hknown, knownRecords_cons_of_known hknown, List.foldlM_cons]
      rcases read s r with _ | s'
      · rfl
      · simp only [List.forall_mem_cons, hknown, true_and]
        exact ih s'
    · rw [visitAll, h.of_unknown s r hknown, knownRecords_cons_of_unknown hknown]
      simp [hknown]

end Reads

/-! ### Visits that seek a record -/

/-- The visits skip the records of known keys up to one of `key`, which ends the walk. -/
structure Seeks (H : RecordHeader) (visit : σ → (key_id ptr : ℕ) → Option (Visit σ ρ))
    (known : ℕ → Prop) (key : ℕ) (found : σ → Tlv ℕ Unit → Option σ) (refused : ρ) : Prop where
  known_key : known key
  of_key : ∀ s (r : Tlv ℕ Unit), r.key_id = key →
    visit s r.key_id (r.offset + H.size) = (found s r).map .last
  of_known : ∀ s (r : Tlv ℕ Unit), known r.key_id → r.key_id ≠ key →
    visit s r.key_id (r.offset + H.size) = some (.next s)
  of_unknown : ∀ s (r : Tlv ℕ Unit), ¬ known r.key_id →
    visit s r.key_id (r.offset + H.size) = some (.fail refused)

section Seeks

variable {known : ℕ → Prop} [DecidablePred known] {key : ℕ} {found : σ → Tlv ℕ Unit → Option σ}
  {refused : ρ}

/-- The first record of `key`, unless an unknown one comes before it. -/
def firstRecord (known : ℕ → Prop) [DecidablePred known] (key : ℕ) (rs : List (Tlv ℕ Unit)) :
    Option (Tlv ℕ Unit) :=
  (knownRecords known rs).find? fun r => r.key_id = key

theorem visitAll_of_seeks (h : Seeks H visit known key found refused) (s : σ) :
    visitAll H visit rs s =
      match firstRecord known key rs with
      | some r => (found s r).map .ok
      | none => some (if ∀ r ∈ rs, known r.key_id then .ok s else .error refused) := by
  unfold firstRecord
  induction rs with
  | nil => simp [visitAll, knownRecords]
  | cons r rs ih =>
    by_cases hkey : r.key_id = key
    · have hknown : known r.key_id := hkey ▸ h.known_key
      rw [visitAll, h.of_key s r hkey, knownRecords_cons_of_known hknown,
        List.find?_cons_of_pos (by simpa using hkey)]
      show _ = (found s r).map Except.ok
      rcases found s r with _ | s' <;> rfl
    by_cases hknown : known r.key_id
    · rw [visitAll, h.of_known s r hknown hkey, knownRecords_cons_of_known hknown,
        List.find?_cons_of_neg (by simpa using hkey)]
      simp only [List.forall_mem_cons, hknown, true_and]
      exact ih
    · rw [visitAll, h.of_unknown s r hknown, knownRecords_cons_of_unknown hknown]
      simp [hknown]

end Seeks

/-! ### Walks over any bytes -/

/-- The header of `r` stands at `p`. -/
structure HeaderAt (H : RecordHeader) (b : List UInt8) (p : ℕ) (r : Tlv ℕ Unit) : Prop where
  offset : r.offset = p
  key_id : readLE b 4 (p + H.key_id) = some r.key_id
  payload_size : readLE b 4 (p + H.payload_size) = some r.payload_size

/-- The headers of the records stand one behind the other from `p` up to `q`. -/
def LaidTo (H : RecordHeader) (b : List UInt8) : (p : ℕ) → List (Tlv ℕ Unit) → (q : ℕ) → Prop
  | p, [], q => p = q
  | p, r :: rs, q => HeaderAt H b p r ∧ LaidTo H b (p + Tlv.size H.size r) rs q

/-- The acts of the records, each asking for the next one, lead from `s` to `s'`. -/
inductive Visited (H : RecordHeader) (visit : σ → (key_id ptr : ℕ) → Option (Visit σ ρ)) :
    σ → List (Tlv ℕ Unit) → σ → Prop
  | nil (s : σ) : Visited H visit s [] s
  | cons {s s₁ s' : σ} {r : Tlv ℕ Unit} {rs : List (Tlv ℕ Unit)}
      (hvisit : visit s r.key_id (r.offset + H.size) = some (.next s₁))
      (hrest : Visited H visit s₁ rs s') : Visited H visit s (r :: rs) s'

/-- An act that asks for the next record has seen its own lie inside, and none asks for no more. -/
structure Contained (H : RecordHeader) (b : List UInt8)
    (visit : σ → (key_id ptr : ℕ) → Option (Visit σ ρ)) : Prop where
  inside : ∀ {s s' : σ} {r : Tlv ℕ Unit} {p : ℕ}, HeaderAt H b p r →
    visit s r.key_id (p + H.size) = some (.next s') → p + Tlv.size H.size r ≤ b.length
  not_last : ∀ s s' key_id ptr, visit s key_id ptr ≠ some (.last s')

section Contained

variable {q fuel : ℕ} {s s' : σ} {e : ρ} {end_ : Except ρ σ}

theorem Tlv.size_pos (H : RecordHeader) (r : Tlv ℕ Unit) : 0 < Tlv.size H.size r := by
  have hkey := H.key_id_inside
  unfold Tlv.size
  omega

theorem laid_iff_laidTo : Laid H b p rs ↔ LaidTo H b p rs b.length := by
  induction rs generalizing p with
  | nil => exact ⟨fun h => h.chain, fun h => ⟨h, by simp, by simp⟩⟩
  | cons r rs ih =>
    constructor
    · intro h
      obtain ⟨hoffset, -⟩ := h.chain
      have hkey := h.key_id r List.mem_cons_self
      have hsize := h.payload_size r List.mem_cons_self
      rw [hoffset] at hkey hsize
      exact ⟨⟨hoffset, hkey, hsize⟩, ih.mp h.tail⟩
    · rintro ⟨hr, hrest⟩
      have hlaid := ih.mpr hrest
      refine ⟨⟨hr.offset, hlaid.chain⟩, ?_, ?_⟩
      · refine List.forall_mem_cons.mpr ⟨?_, hlaid.key_id⟩
        rw [hr.offset]
        exact hr.key_id
      · refine List.forall_mem_cons.mpr ⟨?_, hlaid.payload_size⟩
        rw [hr.offset]
        exact hr.payload_size

theorem LaidTo.length_le (h : LaidTo H b p rs q) : p + rs.length ≤ q := by
  induction rs generalizing p with
  | nil => exact Nat.le_of_eq h
  | cons r rs ih =>
    have hrest := ih h.2
    have hpos := Tlv.size_pos H r
    rw [List.length_cons]
    omega

/-- A record whose act asks for the next one takes the walk behind it. -/
theorem walk_next (hb : b.length < 2 ^ 32) (hc : Contained H b visit) (hr : HeaderAt H b p r)
    (hvisit : visit s r.key_id (p + H.size) = some (.next s')) : walk H b visit (fuel + 1) s p p =
      walk H b visit fuel s' (p + Tlv.size H.size r) (p + Tlv.size H.size r) := by
  have hin := hc.inside hr hvisit
  have hpos := Tlv.size_pos H r
  rw [walk, if_pos (by omega), hr.key_id, hr.payload_size, Option.bind_some, Option.bind_some,
    hvisit, Option.bind_some]
  unfold Tlv.size at hin ⊢
  show walk H b visit fuel s' _ _ = _
  rw [word32_of_lt (show p + H.size < 2 ^ 32 by omega), word32_of_lt (by omega), Nat.add_assoc]

/-- A record whose act refuses it ends the walk. -/
theorem walk_fail (hp : p < b.length) (hr : HeaderAt H b p r)
    (hvisit : visit s r.key_id (p + H.size) = some (.fail e)) :
    walk H b visit (fuel + 1) s p p = some (.error e) := by
  rw [walk, if_pos hp, hr.key_id, hr.payload_size, Option.bind_some, Option.bind_some, hvisit]
  rfl

/-- **One step of a walk** that ends: at the end of the region, or by the act of the record there. -/
theorem walk_cases (hb : b.length < 2 ^ 32) (hc : Contained H b visit) (hp : p ≤ b.length)
    (h : walk H b visit (fuel + 1) s p p = some end_) :
    (p = b.length ∧ end_ = .ok s) ∨ ∃ r, HeaderAt H b p r ∧ p < b.length ∧
      ((∃ s', visit s r.key_id (p + H.size) = some (.next s') ∧
          walk H b visit fuel s' (p + Tlv.size H.size r) (p + Tlv.size H.size r) = some end_) ∨
        ∃ e, visit s r.key_id (p + H.size) = some (.fail e) ∧ end_ = .error e) := by
  by_cases hend : p = b.length
  · rw [walk, if_neg (by omega)] at h
    exact Or.inl ⟨hend, (Option.some.inj h).symm⟩
  have hlt : p < b.length := by omega
  have hwalk := h
  rw [walk, if_pos hlt] at h
  obtain ⟨key_id, hkey, h⟩ := Option.bind_eq_some_iff.mp h
  obtain ⟨payload_size, hsize, h⟩ := Option.bind_eq_some_iff.mp h
  obtain ⟨act, hact, h⟩ := Option.bind_eq_some_iff.mp h
  have hr : HeaderAt H b p ⟨p, key_id, payload_size, ()⟩ := ⟨rfl, hkey, hsize⟩
  refine Or.inr ⟨_, hr, hlt, ?_⟩
  cases act with
  | next s' =>
    rw [walk_next hb hc hr hact] at hwalk
    exact Or.inl ⟨s', hact, hwalk⟩
  | last s' => exact absurd hact (hc.not_last _ _ _ _)
  | fail e => exact Or.inr ⟨e, hact, (Option.some.inj h).symm⟩

/-- The walk is past records whose acts ask for the next one. -/
theorem walk_of_visited (hb : b.length < 2 ^ 32) (hc : Contained H b visit)
    (hlaid : LaidTo H b p rs q) (hvisited : Visited H visit s rs s') :
    walk H b visit (rs.length + fuel) s p p = walk H b visit fuel s' q q := by
  induction hvisited generalizing p with
  | nil s =>
    cases hlaid
    rw [List.length_nil, Nat.zero_add]
  | cons hvisit hrest ih =>
    obtain ⟨hr, hlaid⟩ := hlaid
    rw [hr.offset] at hvisit
    rw [List.length_cons, show ∀ n, n + 1 + fuel = n + fuel + 1 by omega,
      walk_next hb hc hr hvisit, ih hlaid]

/-- What a walk that ends has seen from `p` on. -/
theorem visited_of_walk (hb : b.length < 2 ^ 32) (hc : Contained H b visit) (hp : p ≤ b.length)
    (h : walk H b visit fuel s p p = some end_) :
    (∃ rs s', LaidTo H b p rs b.length ∧ Visited H visit s rs s' ∧ end_ = .ok s') ∨
      ∃ rs q r s' e, LaidTo H b p rs q ∧ Visited H visit s rs s' ∧ q < b.length ∧
        HeaderAt H b q r ∧ visit s' r.key_id (q + H.size) = some (.fail e) ∧ end_ = .error e := by
  induction fuel generalizing s p with
  | zero => cases h
  | succ fuel ih =>
    rcases walk_cases hb hc hp h with
      ⟨hend, rfl⟩ | ⟨r, hr, hlt, ⟨s', hvisit, hrest⟩ | ⟨e, hvisit, rfl⟩⟩
    · exact Or.inl ⟨[], s, hend, .nil s, rfl⟩
    · have hstep : visit s r.key_id (r.offset + H.size) = some (.next s') := by
        rw [hr.offset]
        exact hvisit
      rcases ih (hc.inside hr hvisit) hrest with
        ⟨rs, s'', hlaid, hvisited, rfl⟩ | ⟨rs, q, r', s'', e, hlaid, hvisited, hq, hr', hfail, rfl⟩
      · exact Or.inl ⟨r :: rs, s'', ⟨hr, hlaid⟩, .cons hstep hvisited, rfl⟩
      · exact Or.inr ⟨r :: rs, q, r', s'', e, ⟨hr, hlaid⟩, .cons hstep hvisited, hq, hr', hfail, rfl⟩
    · exact Or.inr ⟨[], p, r, s, e, rfl, .nil s, hlt, hr, hvisit, rfl⟩

/-- **A walk that succeeds** has gone over records that fill the region. -/
theorem walk_ok_iff (hb : b.length < 2 ^ 32) (hc : Contained H b visit) (hfuel : b.length < fuel) :
    walk H b visit fuel s 0 0 = some (.ok s') ↔
      ∃ rs, Laid H b 0 rs ∧ Visited H visit s rs s' := by
  constructor
  · intro h
    rcases visited_of_walk hb hc (Nat.zero_le _) h with
      ⟨rs, s'', hlaid, hvisited, heq⟩ | ⟨_, _, _, _, _, _, _, _, _, _, heq⟩
    · cases heq
      exact ⟨rs, laid_iff_laidTo.mpr hlaid, hvisited⟩
    · cases heq
  · rintro ⟨rs, hlaid, hvisited⟩
    have hlen := hlaid.length_le
    obtain ⟨n, rfl⟩ : ∃ n, fuel = rs.length + (n + 1) := ⟨fuel - rs.length - 1, by omega⟩
    rw [walk_of_visited hb hc (laid_iff_laidTo.mp hlaid) hvisited, walk, if_neg (by omega)]

/-- **A walk that fails** has come to a record that is refused. -/
theorem walk_error_iff (hb : b.length < 2 ^ 32) (hc : Contained H b visit)
    (hfuel : b.length < fuel) : walk H b visit fuel s 0 0 = some (.error e) ↔
      ∃ rs q r s', LaidTo H b 0 rs q ∧ Visited H visit s rs s' ∧ q < b.length ∧ HeaderAt H b q r ∧
        visit s' r.key_id (q + H.size) = some (.fail e) := by
  constructor
  · intro h
    rcases visited_of_walk hb hc (Nat.zero_le _) h with
      ⟨_, _, _, _, heq⟩ | ⟨rs, q, r, s', e', hlaid, hvisited, hq, hr, hfail, heq⟩
    · cases heq
    · cases heq
      exact ⟨rs, q, r, s', hlaid, hvisited, hq, hr, hfail⟩
  · rintro ⟨rs, q, r, s', hlaid, hvisited, hq, hr, hfail⟩
    have hlen := hlaid.length_le
    obtain ⟨n, rfl⟩ : ∃ n, fuel = rs.length + (n + 1) := ⟨fuel - rs.length - 1, by omega⟩
    rw [walk_of_visited hb hc hlaid hvisited, walk_fail hq hr hfail]

end Contained

/-! ### What is seen of a walk -/

section Seen

variable {τ υ : Type*} {φ : σ → τ} {ψ : ρ → υ}

/-- What is seen of the states. -/
def Visit.seen (φ : σ → τ) (ψ : ρ → υ) : Visit σ ρ → Visit τ υ
  | .next s => .next (φ s)
  | .last s => .last (φ s)
  | .fail r => .fail (ψ r)

/-- What is seen of the end of a walk. -/
def seenEnd (φ : σ → τ) (ψ : ρ → υ) : Except ρ σ → Except υ τ
  | .ok s => .ok (φ s)
  | .error r => .error (ψ r)

/-- Acts that do the same to states that look the same make walks whose ends look the same. -/
theorem walk_seen_eq (hvisit : ∀ {s t : σ} (key_id ptr : ℕ), φ s = φ t →
      (visit s key_id ptr).map (Visit.seen φ ψ) = (visit t key_id ptr).map (Visit.seen φ ψ))
    (fuel p q : ℕ) {s t : σ} (h : φ s = φ t) :
    (walk H b visit fuel s p q).map (seenEnd φ ψ) =
      (walk H b visit fuel t p q).map (seenEnd φ ψ) := by
  induction fuel generalizing s t p q with
  | zero => rfl
  | succ fuel ih =>
    unfold walk
    split_ifs with hp
    · rcases readLE b 4 (p + H.key_id) with _ | key_id
      · rfl
      rcases readLE b 4 (p + H.payload_size) with _ | payload_size
      · rfl
      simp only [Option.bind_some]
      have hact := hvisit key_id (p + H.size) h
      generalize visit s key_id (p + H.size) = x at hact ⊢
      generalize visit t key_id (p + H.size) = y at hact ⊢
      cases x with
      | none =>
        rw [Option.map_none, eq_comm, Option.map_eq_none_iff] at hact
        rw [hact]
      | some x =>
        obtain ⟨y, rfl, hseen⟩ := Option.map_eq_some_iff.mp hact.symm
        simp only [Option.bind_some]
        cases x with
        | next s' =>
          cases y with
          | next t' => exact ih _ _ (Visit.next.inj hseen).symm
          | last _ => cases hseen
          | fail _ => cases hseen
        | last s' =>
          cases y with
          | next _ => cases hseen
          | last t' => exact ih _ _ (Visit.last.inj hseen).symm
          | fail _ => cases hseen
        | fail r =>
          cases y with
          | next _ => cases hseen
          | last _ => cases hseen
          | fail r' => exact congrArg (fun r => some (Except.error r)) (Visit.fail.inj hseen).symm
    · rw [Option.map_some, Option.map_some]
      exact congrArg (fun x => some (Except.ok x)) h

end Seen

/-! ### Reading a list into a state -/

section Fold

variable {α β : Type*} {read : σ → α → Option σ} {l : List α} {s s' : σ}

/-- Where what a reading needs does not depend on the state, all are made where each can be. -/
theorem foldlM_isSome_iff {P : α → Prop} (h : ∀ s a, (read s a).isSome ↔ P a) :
    (l.foldlM read s).isSome ↔ ∀ a ∈ l, P a := by
  induction l generalizing s with
  | nil => simp
  | cons a l ih =>
    rw [List.foldlM_cons, List.forall_mem_cons, ← h s a]
    rcases read s a with _ | s'
    · simp
    · rw [Option.isSome_some, eq_self, true_and]
      exact ih

/-- **The last one counts.** What each element with `q` sets and no other changes is, in the end, what
the last of them set. -/
theorem last_of_foldlM {g : σ → β} {val : α → β} {q : α → Prop} [DecidablePred q]
    (hq : ∀ a ∈ l, ∀ s s', read s a = some s' → g s' = if q a then val a else g s)
    (h : l.foldlM read s = some s') :
    g s' = ((l.filter fun a => q a).getLast?.map val).getD (g s) := by
  induction l generalizing s with
  | nil =>
    cases h
    rfl
  | cons a l ih =>
    rw [List.foldlM_cons] at h
    obtain ⟨t, ht, h⟩ := Option.bind_eq_some_iff.mp h
    rw [ih (fun a' ha' => hq a' (List.mem_cons_of_mem _ ha')) h, hq a List.mem_cons_self s t ht]
    split_ifs with ha
    · rw [List.filter_cons_of_pos (by simpa using ha), List.getLast?_cons]
      rcases (l.filter fun a => q a).getLast? with _ | b <;> rfl
    · rw [List.filter_cons_of_neg (by simpa using ha)]

end Fold

end AudioReachPal.Lib
