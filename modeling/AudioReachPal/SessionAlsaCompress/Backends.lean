import AudioReachPal.Lib.RangeErase
import AudioReachPal.Streams.Defs

/-!
# The backend lists of a compress session

`connectSessionDevice` puts the backends of a device behind those of the session and takes them
out again when they cannot be connected; `disconnectSessionDevice` takes them out. Both erase
inside a range loop over the list, by device id.
-/

namespace AudioReachPal.SessionAlsaCompress

open AudioReachPal.Lib
open AudioReachPal.Streams

/-! ### The lists -/

/-- A backend: the id of its device, and its name. -/
abbrev AifBackEnd := pal_device_id_t × String

structure AifBackEnds where
  rxAifBackEnds : List AifBackEnd
  txAifBackEnds : List AifBackEnd

/-- `ResourceManager::getBackEndNames`, with the table of names. -/
def getBackEndNames (listAllBackEndIds : pal_device_id_t → String) :
    List pal_device_id_t → AifBackEnds
  | [] => ⟨[], []⟩
  | dev_id :: deviceList =>
    let backEnds := getBackEndNames listAllBackEndIds deviceList
    if isOutDevice dev_id then
      { backEnds with
        rxAifBackEnds := (dev_id, listAllBackEndIds dev_id) :: backEnds.rxAifBackEnds }
    else if isInDevice dev_id then
      { backEnds with
        txAifBackEnds := (dev_id, listAllBackEndIds dev_id) :: backEnds.txAifBackEnds }
    else backEnds

/-! ### The calls -/

/-- What a call returns: its status, or `none` for an exception. -/
abbrev Reply := Option ℤ

/-- Whether an entry has the device id of one of the backends that are connected or
disconnected. -/
def isOneOf (backEnds : List AifBackEnd) (elem : AifBackEnd) : Bool :=
  backEnds.any fun e => elem.1 == e.1

/-- `connectSessionDevice` in one direction, with what `SessionAlsaUtils::connectSessionDevice`
replies. -/
def connectBackEnds (connect : List AifBackEnd → Reply)
    (aifBackEndsToConnect aifBackEnds : List AifBackEnd) : Option (Reply × List AifBackEnd) :=
  match connect aifBackEndsToConnect with
  | none => some (none, aifBackEnds ++ aifBackEndsToConnect)
  | some status =>
    if status ≠ 0 then
      (rangeErase (isOneOf aifBackEndsToConnect) (aifBackEnds ++ aifBackEndsToConnect)).map
        fun aifBackEnds => (some status, aifBackEnds)
    else some (some status, aifBackEnds ++ aifBackEndsToConnect)

/-- `disconnectSessionDevice` in one direction, with what
`SessionAlsaUtils::disconnectSessionDevice` replies. -/
def disconnectBackEnds (disconnect : List AifBackEnd → Reply)
    (aifBackEndsToDisconnect aifBackEnds : List AifBackEnd) : Option (Reply × List AifBackEnd) :=
  match disconnect aifBackEndsToDisconnect with
  | none => some (none, aifBackEnds)
  | some status =>
    (rangeErase (isOneOf aifBackEndsToDisconnect) aifBackEnds).map
      fun aifBackEnds => (some status, aifBackEnds)

/-- One direction where it has backends. -/
def whereAny (f : List AifBackEnd → List AifBackEnd → Option (Reply × List AifBackEnd))
    (status : ℤ) (backEnds aifBackEnds : List AifBackEnd) : Option (Reply × List AifBackEnd) :=
  if backEnds.isEmpty then some (some status, aifBackEnds) else f backEnds aifBackEnds

/-- The two directions, one after the other; an exception leaves out the second. `none` is a look
beyond the end of a list. -/
def eachDirection (f : List AifBackEnd → List AifBackEnd → Option (Reply × List AifBackEnd))
    (backEnds st : AifBackEnds) : Option (Reply × AifBackEnds) :=
  match whereAny f 0 backEnds.rxAifBackEnds st.rxAifBackEnds with
  | none => none
  | some (none, rx) => some (none, { st with rxAifBackEnds := rx })
  | some (some status, rx) =>
    (whereAny f status backEnds.txAifBackEnds st.txAifBackEnds).map
      fun res => (res.1, ⟨rx, res.2⟩)

variable (listAllBackEndIds : pal_device_id_t → String)

/-- `SessionAlsaCompress::connectSessionDevice`. -/
def connectSessionDevice (connect : List AifBackEnd → Reply) (deviceToConnect : pal_device_id_t)
    (st : AifBackEnds) : Option (Reply × AifBackEnds) :=
  eachDirection (connectBackEnds connect) (getBackEndNames listAllBackEndIds [deviceToConnect]) st

/-- `SessionAlsaCompress::disconnectSessionDevice`. -/
def disconnectSessionDevice (disconnect : List AifBackEnd → Reply)
    (deviceToDisconnect : pal_device_id_t) (st : AifBackEnds) : Option (Reply × AifBackEnds) :=
  eachDirection (disconnectBackEnds disconnect)
    (getBackEndNames listAllBackEndIds [deviceToDisconnect]) st

/-- A call on the session, with what the mixer's side of it replies to the backends. -/
inductive DeviceCall where
  | connectSessionDevice (connect : List AifBackEnd → Reply) (deviceToConnect : pal_device_id_t)
  | disconnectSessionDevice (disconnect : List AifBackEnd → Reply)
      (deviceToDisconnect : pal_device_id_t)

def deviceStep (st : AifBackEnds) : DeviceCall → Option (Reply × AifBackEnds)
  | .connectSessionDevice connect dev => connectSessionDevice listAllBackEndIds connect dev st
  | .disconnectSessionDevice disconnect dev =>
    disconnectSessionDevice listAllBackEndIds disconnect dev st

/-- The lists after a run of calls, while no loop looks beyond the end of a list. -/
def deviceRun (st : AifBackEnds) : List DeviceCall → Option AifBackEnds
  | [] => some st
  | call :: calls =>
    match deviceStep listAllBackEndIds st call with
    | none => none
    | some res => deviceRun res.2 calls

/-! ### What the lists are to be -/

/-- The lists with the backends put behind them. -/
def AifBackEnds.append (st backEnds : AifBackEnds) : AifBackEnds :=
  ⟨st.rxAifBackEnds ++ backEnds.rxAifBackEnds, st.txAifBackEnds ++ backEnds.txAifBackEnds⟩

/-- The lists without the entries of the backends. -/
def AifBackEnds.without (st backEnds : AifBackEnds) : AifBackEnds :=
  ⟨st.rxAifBackEnds.filter fun elem => !isOneOf backEnds.rxAifBackEnds elem,
    st.txAifBackEnds.filter fun elem => !isOneOf backEnds.txAifBackEnds elem⟩

/-- What the call is to return: the reply of the mixer's side, which is not asked about a device
without a backend. -/
def DeviceCall.reply : DeviceCall → Reply
  | .connectSessionDevice connect dev =>
    if isOutDevice dev ∨ isInDevice dev then connect [(dev, listAllBackEndIds dev)] else some 0
  | .disconnectSessionDevice disconnect dev =>
    if isOutDevice dev ∨ isInDevice dev then disconnect [(dev, listAllBackEndIds dev)] else some 0

/-- The lists after a call with that reply: those of the connected backends, in the order in which
they were connected. -/
def AifBackEnds.after (st : AifBackEnds) (reply : Reply) : DeviceCall → AifBackEnds
  | .connectSessionDevice _ dev =>
    if reply = some 0 then st.append (getBackEndNames listAllBackEndIds [dev]) else st
  | .disconnectSessionDevice _ dev =>
    if reply = none then st else st.without (getBackEndNames listAllBackEndIds [dev])

/-- The lists that a call is to leave. -/
def AifBackEnds.follow (st : AifBackEnds) (call : DeviceCall) : AifBackEnds :=
  st.after listAllBackEndIds (call.reply listAllBackEndIds) call

/-- The call ends without a look beyond the end of a list, returns what it is to return, and leaves
the lists as they are to be. -/
def Follows (st : AifBackEnds) (call : DeviceCall) : Prop :=
  deviceStep listAllBackEndIds st call =
    some (call.reply listAllBackEndIds, st.follow listAllBackEndIds call)

/-! ### The list of a device -/

/-- The list of one direction. -/
def AifBackEnds.listOf (st : AifBackEnds) (rx : Bool) : List AifBackEnd :=
  if rx then st.rxAifBackEnds else st.txAifBackEnds

def AifBackEnds.withList (st : AifBackEnds) (rx : Bool) (l : List AifBackEnd) : AifBackEnds :=
  if rx then { st with rxAifBackEnds := l } else { st with txAifBackEnds := l }

/-- The condition on a call: a connection replies, and where it fails the list of the device's
direction has no entry of the device; at a disconnection that replies only the last entry of the
list may be of the device. -/
def Safe (st : AifBackEnds) : DeviceCall → Prop
  | .connectSessionDevice connect dev => (isOutDevice dev ∨ isInDevice dev) →
    ∃ status, connect [(dev, listAllBackEndIds dev)] = some status ∧
      (status ≠ 0 → ∀ elem ∈ st.listOf (isOutDevice dev), elem.1 ≠ dev)
  | .disconnectSessionDevice disconnect dev => (isOutDevice dev ∨ isInDevice dev) →
    disconnect [(dev, listAllBackEndIds dev)] = none ∨
      ∀ elem ∈ (st.listOf (isOutDevice dev)).dropLast, elem.1 ≠ dev

section Facts

variable {listAllBackEndIds} {st : AifBackEnds} {dev : pal_device_id_t} {b : AifBackEnd}

theorem withList_injective (rx : Bool) : Function.Injective (st.withList rx) := by
  intro l l' h
  cases rx with
  | true => exact congrArg AifBackEnds.rxAifBackEnds h
  | false => exact congrArg AifBackEnds.txAifBackEnds h

theorem withList_listOf (rx : Bool) : st.withList rx (st.listOf rx) = st := by
  cases rx <;> rfl

/-- A device of neither kind has no backend. -/
theorem getBackEndNames_of_none (h : ¬ (isOutDevice dev ∨ isInDevice dev)) :
    getBackEndNames listAllBackEndIds [dev] = ⟨[], []⟩ := by
  rw [not_or] at h
  unfold getBackEndNames
  simp only
  rw [if_neg h.1, if_neg h.2]
  rfl

/-- A device of either kind has one backend, in its direction. -/
theorem getBackEndNames_of_one (h : isOutDevice dev ∨ isInDevice dev) :
    getBackEndNames listAllBackEndIds [dev] =
      AifBackEnds.withList ⟨[], []⟩ (isOutDevice dev) [(dev, listAllBackEndIds dev)] := by
  unfold getBackEndNames
  by_cases hout : isOutDevice dev = true
  · simp only
    rw [if_pos hout, hout]
    rfl
  · simp only
    rw [if_neg hout, if_pos (h.resolve_left hout), Bool.eq_false_iff.mpr hout]
    rfl

theorem append_withList (rx : Bool) :
    st.append (AifBackEnds.withList ⟨[], []⟩ rx [b]) = st.withList rx (st.listOf rx ++ [b]) := by
  cases rx with
  | true => exact congrArg (AifBackEnds.mk _) (List.append_nil _)
  | false => exact congrArg (AifBackEnds.mk · _) (List.append_nil _)

theorem isOneOf_singleton {elem : AifBackEnd} : isOneOf [b] elem = true ↔ elem.1 = b.1 := by
  unfold isOneOf
  rw [List.any_cons, List.any_nil, Bool.or_false, beq_iff_eq]

theorem filter_isOneOf_nil (l : List AifBackEnd) : (l.filter fun elem => !isOneOf [] elem) = l :=
  List.filter_eq_self.mpr fun _ _ => rfl

theorem without_withList (rx : Bool) :
    st.without (AifBackEnds.withList ⟨[], []⟩ rx [b]) =
      st.withList rx ((st.listOf rx).filter fun elem => !isOneOf [b] elem) := by
  cases rx with
  | true => exact congrArg (AifBackEnds.mk _) (filter_isOneOf_nil _)
  | false => exact congrArg (AifBackEnds.mk · _) (filter_isOneOf_nil _)

variable {f : List AifBackEnd → List AifBackEnd → Option (Reply × List AifBackEnd)}

/-- With one backend the two directions are the call in its direction. -/
theorem eachDirection_withList (rx : Bool) :
    eachDirection f (AifBackEnds.withList ⟨[], []⟩ rx [b]) st =
      (f [b] (st.listOf rx)).map fun res => (res.1, st.withList rx res.2) := by
  cases rx with
  | true =>
    show eachDirection f ⟨[b], []⟩ st = (f [b] st.rxAifBackEnds).map _
    unfold eachDirection whereAny
    simp only [List.isEmpty_cons, List.isEmpty_nil, Bool.false_eq_true, if_false, if_true]
    cases f [b] st.rxAifBackEnds with
    | none => rfl
    | some res =>
      obtain ⟨reply, l⟩ := res
      cases reply <;> rfl
  | false => rfl

/-! ### One direction -/

theorem forall_isOneOf_singleton {l : List AifBackEnd} :
    (∀ elem ∈ l, ¬ isOneOf [b] elem = true) ↔ ∀ elem ∈ l, elem.1 ≠ b.1 :=
  forall₂_congr fun _ _ => not_congr isOneOf_singleton

/-- An exception leaves the backend on the list, a failure takes it out exactly where it is the
only one of its device. -/
theorem connectBackEnds_iff {connect : List AifBackEnd → Reply} {l : List AifBackEnd} :
    connectBackEnds connect [b] l =
        some (connect [b], if connect [b] = some 0 then l ++ [b] else l) ↔
      ∃ status, connect [b] = some status ∧ (status ≠ 0 → ∀ elem ∈ l, elem.1 ≠ b.1) := by
  unfold connectBackEnds
  cases hreply : connect [b] with
  | none =>
    constructor
    · intro h
      have hl := (Prod.mk.inj (Option.some.inj h)).2
      exact absurd hl (by simp)
    · rintro ⟨status, h, -⟩
      cases h
  | some status =>
    simp only
    by_cases hstatus : status = 0
    · rw [if_neg (not_not_intro hstatus)]
      constructor
      · intro _
        exact ⟨status, rfl, fun h => absurd hstatus h⟩
      · intro _
        rw [hstatus, if_pos rfl]
    · have hfailed : ¬ some status = some (0 : ℤ) := fun h => hstatus (Option.some.inj h)
      have herase := rangeErase_append_singleton (v := l) (r := l)
        (isOneOf_singleton (b := b).mpr rfl)
      rw [if_pos hstatus, if_neg hfailed]
      constructor
      · intro h
        obtain ⟨r, hr, -⟩ := Option.map_eq_some_iff.mp h
        have hone := (rangeErase_append_singleton (isOneOf_singleton.mpr rfl)).mp hr
        exact ⟨status, rfl, fun _ => forall_isOneOf_singleton.mp hone.1⟩
      · rintro ⟨status', hs, hsafe⟩
        cases hs
        rw [herase.mpr ⟨forall_isOneOf_singleton.mpr (hsafe hstatus), rfl⟩]
        rfl

/-- The entries of a device are taken out exactly where only the last entry is one of them. -/
theorem disconnectBackEnds_iff {disconnect : List AifBackEnd → Reply} {l : List AifBackEnd} :
    disconnectBackEnds disconnect [b] l = some (disconnect [b],
        if disconnect [b] = none then l else l.filter fun elem => !isOneOf [b] elem) ↔
      disconnect [b] = none ∨ ∀ elem ∈ l.dropLast, elem.1 ≠ b.1 := by
  unfold disconnectBackEnds
  cases hreply : disconnect [b] with
  | none =>
    constructor
    · intro _
      exact Or.inl rfl
    · intro _
      rfl
  | some status =>
    have hsome : ¬ some status = none := by simp
    simp only
    rw [if_neg hsome]
    constructor
    · intro h
      obtain ⟨r, hr, -⟩ := Option.map_eq_some_iff.mp h
      exact Or.inr (forall_isOneOf_singleton.mp (rangeErase_eq_some.mp hr).1)
    · intro h
      rw [rangeErase_eq_some.mpr ⟨forall_isOneOf_singleton.mpr (h.resolve_left hsome), rfl⟩]
      rfl

/-! ### The lists follow the calls -/

/-- In the direction of the device a call follows where its list does. -/
theorem map_withList_iff {x : Option (Reply × List AifBackEnd)} (rx : Bool) {reply : Reply}
    {l : List AifBackEnd} :
    x.map (fun res => (res.1, st.withList rx res.2)) = some (reply, st.withList rx l) ↔
      x = some (reply, l) := by
  cases x with
  | none => simp
  | some res =>
    rw [Option.map_some, Option.some_inj, Option.some_inj, Prod.ext_iff, Prod.ext_iff]
    exact and_congr_right fun _ => (withList_injective rx).eq_iff

/-- A call about a device without a backend leaves the lists. -/
theorem after_of_none (h : ¬ (isOutDevice dev ∨ isInDevice dev)) :
    st.append (getBackEndNames listAllBackEndIds [dev]) = st ∧
      st.without (getBackEndNames listAllBackEndIds [dev]) = st := by
  rw [getBackEndNames_of_none h]
  unfold AifBackEnds.append AifBackEnds.without
  simp only [List.append_nil, filter_isOneOf_nil, and_self]

theorem follows_connect_iff {connect : List AifBackEnd → Reply} :
    Follows listAllBackEndIds st (.connectSessionDevice connect dev) ↔
      Safe listAllBackEndIds st (.connectSessionDevice connect dev) := by
  unfold Follows AifBackEnds.follow
  by_cases hdev : isOutDevice dev ∨ isInDevice dev
  · have hafter : (if connect [(dev, listAllBackEndIds dev)] = some 0 then
        st.withList (isOutDevice dev)
          (st.listOf (isOutDevice dev) ++ [(dev, listAllBackEndIds dev)])
        else st) = st.withList (isOutDevice dev)
          (if connect [(dev, listAllBackEndIds dev)] = some 0 then
            st.listOf (isOutDevice dev) ++ [(dev, listAllBackEndIds dev)]
          else st.listOf (isOutDevice dev)) := by
      split_ifs
      · rfl
      · exact (withList_listOf _).symm
    have hreply : DeviceCall.reply listAllBackEndIds (.connectSessionDevice connect dev) =
        connect [(dev, listAllBackEndIds dev)] := if_pos hdev
    rw [hreply]
    unfold deviceStep connectSessionDevice AifBackEnds.after Safe
    simp only
    rw [getBackEndNames_of_one hdev, append_withList, hafter, eachDirection_withList,
      map_withList_iff, connectBackEnds_iff]
    exact ⟨fun h _ => h, fun h => h hdev⟩
  · have hreply : DeviceCall.reply listAllBackEndIds (.connectSessionDevice connect dev) =
        some 0 := if_neg hdev
    rw [hreply]
    unfold deviceStep connectSessionDevice AifBackEnds.after Safe
    simp only
    rw [if_pos trivial, (after_of_none hdev).1, getBackEndNames_of_none hdev]
    exact ⟨fun _ h => absurd h hdev, fun _ => rfl⟩

theorem follows_disconnect_iff {disconnect : List AifBackEnd → Reply} :
    Follows listAllBackEndIds st (.disconnectSessionDevice disconnect dev) ↔
      Safe listAllBackEndIds st (.disconnectSessionDevice disconnect dev) := by
  unfold Follows AifBackEnds.follow
  by_cases hdev : isOutDevice dev ∨ isInDevice dev
  · have hafter : (if disconnect [(dev, listAllBackEndIds dev)] = none then st
        else st.withList (isOutDevice dev) ((st.listOf (isOutDevice dev)).filter
          fun elem => !isOneOf [(dev, listAllBackEndIds dev)] elem)) =
        st.withList (isOutDevice dev) (if disconnect [(dev, listAllBackEndIds dev)] = none then
            st.listOf (isOutDevice dev)
          else (st.listOf (isOutDevice dev)).filter
            fun elem => !isOneOf [(dev, listAllBackEndIds dev)] elem) := by
      split_ifs
      · exact (withList_listOf _).symm
      · rfl
    have hreply : DeviceCall.reply listAllBackEndIds (.disconnectSessionDevice disconnect dev) =
        disconnect [(dev, listAllBackEndIds dev)] := if_pos hdev
    rw [hreply]
    unfold deviceStep disconnectSessionDevice AifBackEnds.after Safe
    simp only
    rw [getBackEndNames_of_one hdev, without_withList, hafter, eachDirection_withList,
      map_withList_iff, disconnectBackEnds_iff]
    exact ⟨fun h _ => h, fun h => h hdev⟩
  · have hreply : DeviceCall.reply listAllBackEndIds (.disconnectSessionDevice disconnect dev) =
        some 0 := if_neg hdev
    rw [hreply]
    unfold deviceStep disconnectSessionDevice AifBackEnds.after Safe
    simp only
    rw [if_neg (by simp), (after_of_none hdev).2, getBackEndNames_of_none hdev]
    exact ⟨fun _ h => absurd h hdev, fun _ => rfl⟩

theorem Safe.follows {call : DeviceCall} (h : Safe listAllBackEndIds st call) :
    Follows listAllBackEndIds st call := by
  cases call with
  | connectSessionDevice connect dev => exact follows_connect_iff.mpr h
  | disconnectSessionDevice disconnect dev => exact follows_disconnect_iff.mpr h

end Facts

/-- **The lists follow a call exactly when it is safe**: the erasing loop of a failed connection
finds no other entry of the device, and that of a disconnection none but the last. -/
theorem follows_iff (st : AifBackEnds) (call : DeviceCall) :
    Follows listAllBackEndIds st call ↔ Safe listAllBackEndIds st call := by
  cases call with
  | connectSessionDevice connect dev => exact follows_connect_iff
  | disconnectSessionDevice disconnect dev => exact follows_disconnect_iff

/-- A device is disconnected while another was connected after it: the loop looks beyond the end of
the list. -/
theorem not_follows_first : ¬ Follows (fun _ => "CODEC_DMA-LPAIF_WSA-RX-0")
    ⟨[(3, "CODEC_DMA-LPAIF_WSA-RX-0"), (8, "SLIM-DEV1-RX-7")], []⟩
    (.disconnectSessionDevice (fun _ => some 0) 3) := by
  intro h
  cases h

/-! ### Runs -/

/-- Every call of the run is safe at the lists that it is to meet. -/
def SafeAlong (st : AifBackEnds) : List DeviceCall → Prop
  | [] => True
  | call :: calls =>
    Safe listAllBackEndIds st call ∧ SafeAlong (st.follow listAllBackEndIds call) calls

/-- In a run of safe calls no loop looks beyond the end of a list, and the lists are those that the
calls are to leave. -/
theorem deviceRun_of_safeAlong {st : AifBackEnds} {calls : List DeviceCall}
    (h : SafeAlong listAllBackEndIds st calls) :
    deviceRun listAllBackEndIds st calls =
      some (calls.foldl (AifBackEnds.follow listAllBackEndIds) st) := by
  induction calls generalizing st with
  | nil => rfl
  | cons call calls ih =>
    obtain ⟨hsafe, hrest⟩ := h
    have hstep : deviceStep listAllBackEndIds st call = _ := hsafe.follows
    unfold deviceRun
    rw [hstep]
    exact ih hrest

end AudioReachPal.SessionAlsaCompress
