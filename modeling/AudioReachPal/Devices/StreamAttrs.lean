import AudioReachPal.Devices.Attr
import AudioReachPal.Lib.Multimap
import AudioReachPal.Types

/-!
# The streams of a device come and go

`insertStreamDeviceAttr` and `removeStreamDeviceAttr` on the multimap itself, whose entries name
their stream. The loop of the insertion has no end of its own: it stops in front of the first entry
that the new one may overtake, or at the end of the map, and the hint it gives is always a place the
priority may stand. A removal takes the first entry of the stream. So it undoes the insertion of a
stream that was not there (`attrs_undone`).

What `Attr` says of the entries in terms of their streams' attributes holds of the map as it is read
at one moment (`read_insertFrom`).
-/

namespace AudioReachPal.Devices

open AudioReachPal.Lib

/-! ### The calls -/

/-- What a call finds: the streams' attributes, the resource manager, and whether there is memory. -/
structure Moment where
  getStreamAttributes : StreamId → ℕ
  isComboHeadsetActive : StreamId → Bool
  rm : ResourceManager
  calloc : Bool

/-- `mStreamDevAttr`: the priority, the stream, and the attributes it asks for. -/
abbrev StreamAttrs := List (ℕ × StreamId × pal_device)

namespace Moment

variable (t : Moment)

/-- The stream of an entry, with the attributes that are asked of it. -/
def stream (s : StreamId) : Stream := ⟨t.getStreamAttributes s, t.isComboHeadsetActive s⟩

/-- The value of an entry as `Attr` has it. -/
def read (e : StreamId × pal_device) : StreamDevAttr := ⟨t.stream e.1, e.2⟩

/-- `inDevInfo.priority` for an entry. -/
def priority (e : StreamId × pal_device) : ℕ := ((t.read e).info t.rm).priority

end Moment

namespace StreamAttrs

variable (t : Moment) (m : StreamAttrs)

/-- The loop of `insertStreamDeviceAttr`, at the iterator `it` with the entries from there on. -/
def insertLoop (e : StreamId × pal_device) : (it : ℕ) → StreamAttrs → StreamAttrs
  | _, [] => Multimap.insert m (t.priority e) e
  | it, (prio, cur) :: rest =>
    if t.priority e < prio then Multimap.insertHint m it (t.priority e) e
    else if t.priority e = prio ∧ (t.read e).overtakes t.rm (t.read cur) then
      Multimap.insertHint m it (t.priority e) e
    else insertLoop e (it + 1) rest

/-- `Device::insertStreamDeviceAttr`; null pointers are `none`. -/
def insertStreamDeviceAttr (inDevAttr : Option pal_device) (streamHandle : Option StreamId) :
    StreamAttrs × ℤ :=
  match streamHandle, inDevAttr with
  | none, _ => (m, - EINVAL)
  | some _, none => (m, - EINVAL)
  | some streamHandle, some inDevAttr =>
    if !t.calloc then (m, - ENOMEM)
    else if m.isEmpty then
      (Multimap.insert m (t.priority (streamHandle, inDevAttr)) (streamHandle, inDevAttr), 0)
    else (insertLoop t m (streamHandle, inDevAttr) 0 m, 0)

/-- `Device::removeStreamDeviceAttr` -/
def removeStreamDeviceAttr (streamHandle : StreamId) : StreamAttrs :=
  m.eraseP fun p => p.2.1 == streamHandle

end StreamAttrs

inductive AttrCall where
  | insert (t : Moment) (inDevAttr : Option pal_device) (streamHandle : Option StreamId)
  | remove (streamHandle : StreamId)

/-- The map after one call. -/
def StreamAttrs.call (m : StreamAttrs) : AttrCall → StreamAttrs
  | .insert t inDevAttr streamHandle => (m.insertStreamDeviceAttr t inDevAttr streamHandle).1
  | .remove streamHandle => m.removeStreamDeviceAttr streamHandle

/-- The map of a device after the calls made on it. -/
def StreamAttrs.after (calls : List AttrCall) : StreamAttrs := calls.foldl StreamAttrs.call []

namespace StreamAttrs

variable {t : Moment} {m : StreamAttrs}

/-! ### Where an entry goes -/

/-- Where the loop puts an entry, among those that it has not passed. -/
def insertFrom (t : Moment) (e : StreamId × pal_device) : StreamAttrs → StreamAttrs
  | [] => [(t.priority e, e)]
  | (prio, cur) :: rest =>
    if t.priority e < prio ∨ t.priority e = prio ∧ (t.read e).overtakes t.rm (t.read cur) then
      (t.priority e, e) :: (prio, cur) :: rest
    else (prio, cur) :: insertFrom t e rest

/-- **The loop.** From any iterator with no larger priority in front, the entry goes where
`insertFrom` puts it: the hint is always one that fits. -/
theorem insertLoop_eq (e : StreamId × pal_device) (rest : StreamAttrs) :
    ∀ front : StreamAttrs, Multimap.Sorted (front ++ rest) → (∀ p ∈ front, p.1 ≤ t.priority e) →
      insertLoop t (front ++ rest) e front.length rest = front ++ insertFrom t e rest := by
  induction rest with
  | nil =>
    intro front _ hfront
    rw [List.append_nil]
    exact Multimap.insert_of_le hfront
  | cons p rest ih =>
    obtain ⟨prio, cur⟩ := p
    intro front hsorted hfront
    have hbehind : ∀ q ∈ (prio, cur) :: rest, prio ≤ q.1 := by
      intro q hq
      rcases List.mem_cons.mp hq with rfl | hq
      · exact Nat.le_refl _
      · exact (List.pairwise_cons.mp (List.pairwise_append.mp hsorted).2.1).1 q hq
    unfold insertLoop insertFrom
    by_cases hless : t.priority e < prio
    · rw [if_pos hless, if_pos (Or.inl hless)]
      exact Multimap.insertHint_append hfront fun q hq =>
        Nat.le_trans (Nat.le_of_lt hless) (hbehind q hq)
    · rw [if_neg hless]
      by_cases hequal : t.priority e = prio ∧ (t.read e).overtakes t.rm (t.read cur)
      · rw [if_pos hequal, if_pos (Or.inr hequal)]
        exact Multimap.insertHint_append hfront fun q hq => hequal.1 ▸ hbehind q hq
      · -- the entry at the iterator stays in front
        rw [if_neg hequal, if_neg (not_or.mpr ⟨hless, hequal⟩)]
        have hnext := ih (front ++ [(prio, cur)]) (by simpa using hsorted) (by
          intro q hq
          rcases List.mem_append.mp hq with hq | hq
          · exact hfront q hq
          · rw [List.mem_singleton.mp hq]
            exact Nat.le_of_not_lt hless)
        simpa using hnext

/-- The entry stands between entries of no larger priority and entries of no smaller one. -/
def Placed (m : StreamAttrs) (prio : ℕ) (e : StreamId × pal_device) (m' : StreamAttrs) : Prop :=
  ∃ front back, m = front ++ back ∧ m' = front ++ (prio, e) :: back ∧
    (∀ p ∈ front, p.1 ≤ prio) ∧ ∀ p ∈ back, prio ≤ p.1

theorem insertFrom_placed (e : StreamId × pal_device) (hm : Multimap.Sorted m) :
    Placed m (t.priority e) e (insertFrom t e m) := by
  induction m with
  | nil => exact ⟨[], [], rfl, rfl, by simp, by simp⟩
  | cons p rest ih =>
    obtain ⟨prio, cur⟩ := p
    obtain ⟨hbehind, hrest⟩ := List.pairwise_cons.mp hm
    unfold insertFrom
    split_ifs with hstop
    · have hle : t.priority e ≤ prio := by
        rcases hstop with hless | hequal
        · exact Nat.le_of_lt hless
        · exact Nat.le_of_eq hequal.1
      refine ⟨[], (prio, cur) :: rest, rfl, rfl, by simp, fun q hq => ?_⟩
      rcases List.mem_cons.mp hq with rfl | hq
      · exact hle
      · exact Nat.le_trans hle (hbehind q hq)
    · obtain ⟨front, back, hsplit, hput, hfront, hback⟩ := ih hrest
      refine ⟨(prio, cur) :: front, back, by rw [hsplit]; rfl, by rw [hput]; rfl, ?_, hback⟩
      intro q hq
      rcases List.mem_cons.mp hq with rfl | hq
      · exact Nat.le_of_not_lt fun hless => hstop (Or.inl hless)
      · exact hfront q hq

/-- **Reading the map.** Read at the time of the call, the entry goes where `Device.insertFrom` puts
its value among the values of the others. -/
theorem read_insertFrom (e : StreamId × pal_device) (m : StreamAttrs) :
    (insertFrom t e m).map (Prod.map id t.read) =
      Device.insertFrom t.rm (t.read e) (m.map (Prod.map id t.read)) := by
  induction m with
  | nil => rfl
  | cons p rest ih =>
    obtain ⟨prio, cur⟩ := p
    rw [List.map_cons]
    show _ = Device.insertFrom t.rm (t.read e) ((prio, t.read cur) :: _)
    unfold insertFrom Device.insertFrom
    by_cases hless : t.priority e < prio
    · rw [if_pos (Or.inl hless)]
      exact (if_pos hless).symm
    · by_cases hequal : t.priority e = prio ∧ (t.read e).overtakes t.rm (t.read cur)
      · rw [if_pos (Or.inr hequal)]
        exact ((if_neg hless).trans (if_pos hequal)).symm
      · rw [if_neg (not_or.mpr ⟨hless, hequal⟩), List.map_cons, ih]
        exact ((if_neg hless).trans (if_neg hequal)).symm

/-- **An insertion.** It leaves the map, or places the entry. -/
theorem insertStreamDeviceAttr_cases (hm : Multimap.Sorted m) (inDevAttr : Option pal_device)
    (streamHandle : Option StreamId) :
    (m.insertStreamDeviceAttr t inDevAttr streamHandle).1 = m ∨
      ∃ a s, inDevAttr = some a ∧ streamHandle = some s ∧
        Placed m (t.priority (s, a)) (s, a)
          (m.insertStreamDeviceAttr t inDevAttr streamHandle).1 := by
  cases streamHandle with
  | none => exact Or.inl rfl
  | some s =>
    cases inDevAttr with
    | none => exact Or.inl rfl
    | some a =>
      unfold insertStreamDeviceAttr
      split_ifs with hmem hempty
      · exact Or.inl rfl
      · refine Or.inr ⟨a, s, rfl, rfl, ?_⟩
        rw [List.isEmpty_iff.mp hempty]
        exact insertFrom_placed (s, a) Multimap.sorted_nil
      · have hloop : insertLoop t m (s, a) 0 m = insertFrom t (s, a) m :=
          insertLoop_eq (s, a) m [] hm (by simp)
        have hput := insertFrom_placed (t := t) (s, a) hm
        rw [← hloop] at hput
        exact Or.inr ⟨a, s, rfl, rfl, hput⟩

theorem Placed.sorted {prio : ℕ} {e : StreamId × pal_device} {m' : StreamAttrs}
    (h : Placed m prio e m') (hm : Multimap.Sorted m) : Multimap.Sorted m' := by
  obtain ⟨front, back, rfl, rfl, hfront, hback⟩ := h
  exact hm.between hfront hback

/-- The removal of an entry that is the only one of its stream. -/
theorem Placed.remove {prio : ℕ} {s : StreamId} {a : pal_device} {m' : StreamAttrs}
    (h : Placed m prio (s, a) m') (hs : ∀ p ∈ m, p.2.1 ≠ s) :
    m'.removeStreamDeviceAttr s = m := by
  obtain ⟨front, back, rfl, rfl, -, -⟩ := h
  have hfront : ∀ p ∈ front, ¬(p.2.1 == s) = true := by
    intro p hp
    simpa using hs p (List.mem_append_left _ hp)
  unfold removeStreamDeviceAttr
  rw [List.eraseP_append_right _ hfront, List.eraseP_cons_of_pos (by simp)]

theorem remove_of_notMem {s : StreamId} (hs : ∀ p ∈ m, p.2.1 ≠ s) :
    m.removeStreamDeviceAttr s = m :=
  List.eraseP_of_forall_not fun p hp => by simpa using hs p hp

/-! ### The order of the entries -/

theorem call_sorted (hm : Multimap.Sorted m) (c : AttrCall) : Multimap.Sorted (m.call c) := by
  cases c with
  | insert t inDevAttr streamHandle =>
    rcases insertStreamDeviceAttr_cases hm inDevAttr streamHandle with hsame | ⟨a, s, -, -, hput⟩
    · show Multimap.Sorted (m.insertStreamDeviceAttr t inDevAttr streamHandle).1
      rw [hsame]
      exact hm
    · exact hput.sorted hm
  | remove s => exact hm.sublist List.eraseP_sublist

theorem after_sorted (calls : List AttrCall) : Multimap.Sorted (after calls) := by
  have hrun : ∀ m : StreamAttrs, Multimap.Sorted m → Multimap.Sorted (calls.foldl call m) := by
    induction calls with
    | nil => exact fun m hm => hm
    | cons c calls ih => exact fun m hm => ih (m.call c) (call_sorted hm c)
  exact hrun [] Multimap.sorted_nil

/-- The entries of the other streams are the same ones in the same order. -/
theorem remove_others (m : StreamAttrs) (s : StreamId) :
    (m.removeStreamDeviceAttr s).filter (fun p => p.2.1 != s) = m.filter fun p => p.2.1 != s := by
  unfold removeStreamDeviceAttr
  induction m with
  | nil => rfl
  | cons p m ih =>
    by_cases hp : p.2.1 = s
    · rw [List.eraseP_cons_of_pos (by simpa using hp), List.filter_cons_of_neg (by simpa using hp)]
    · rw [List.eraseP_cons_of_neg (by simpa using hp), List.filter_cons_of_pos (by simpa using hp),
        List.filter_cons_of_pos (by simpa using hp), ih]

/-- An insertion of a stream that is not in the map, and its removal, leave the map as it was. -/
def Undone (m : StreamAttrs) : Prop :=
  ∀ s, (∀ p ∈ m, p.2.1 ≠ s) → ∀ t inDevAttr,
    (m.insertStreamDeviceAttr t inDevAttr (some s)).1.removeStreamDeviceAttr s = m

theorem undone_of_sorted (hm : Multimap.Sorted m) : Undone m := by
  intro s hs t inDevAttr
  rcases insertStreamDeviceAttr_cases hm inDevAttr (some s) with hsame | ⟨a, s', -, heq, hput⟩
  · rw [hsame]
    exact remove_of_notMem hs
  · cases heq
    exact hput.remove hs

/-- **Insertion and removal.** After any calls, a removal undoes the insertion of a new stream, the
entries stand by increasing priority value, and a removal leaves the other entries in their
order. -/
theorem attrs_undone (calls : List AttrCall) :
    Undone (after calls) ∧ Multimap.Sorted (after calls) ∧
      ∀ s, ((after calls).removeStreamDeviceAttr s).Sublist (after calls) ∧
        ((after calls).removeStreamDeviceAttr s).filter (fun p => p.2.1 != s) =
          (after calls).filter fun p => p.2.1 != s := by
  have hsorted := after_sorted calls
  exact ⟨undone_of_sorted hsorted, hsorted, fun s => ⟨List.eraseP_sublist, remove_others _ s⟩⟩

end StreamAttrs

end AudioReachPal.Devices
