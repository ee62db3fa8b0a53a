import AudioReachPal.Types
import AudioReachPal.Lib.Runs
import AudioReachPal.Lib.SortUnique
import Mathlib.Data.Finset.Basic
import Mathlib.Tactic.Tauto
import Mathlib.Data.List.Nodup

/-!
# The switch of devices

`streamDevSwitch` takes pairs of a stream and a device to disconnect and pairs to connect. It locks
every active stream that the lists name, disconnects, connects and unlocks the streams again; the
loop that connects already unlocks. The mutex of the active streams is held meanwhile, so that the
same streams stay active. What the switch does is given as the list of its calls on the streams.
-/

namespace AudioReachPal.Rm

open AudioReachPal.Lib

/-! ### The switch -/

/-- The value of a `pal_device_id_t`. -/
abbrev pal_device_id_t := ℕ

def PAL_DEVICE_OUT_BLUETOOTH_A2DP : pal_device_id_t := 8
def PAL_DEVICE_OUT_BLUETOOTH_BLE : pal_device_id_t := 22
def PAL_DEVICE_OUT_BLUETOOTH_BLE_BROADCAST : pal_device_id_t := 23

/-- The null pointer to a stream. -/
def nullStream : StreamId := 0

/-- A pointer to a `pal_device`. -/
abbrev DeviceAttr := ℕ

/-- What the switch is told by the streams, the devices and the sound card. -/
structure SwitchEnv where
  isStreamActive : StreamId → Bool
  id : DeviceAttr → pal_device_id_t
  isDeviceReady : pal_device_id_t → Bool
  cardDown : Bool
  isIdle : StreamId → Bool
  disconnectStreamDeviceL : StreamId → pal_device_id_t → ℤ
  connectStreamDeviceL : StreamId → DeviceAttr → ℤ

/-- A call of the switch on a stream. -/
inductive SwitchCall where
  | ssrDownHandler (s : StreamId)
  | lockStreamMutex (s : StreamId)
  | disconnectStreamDeviceL (s : StreamId) (dev_id : pal_device_id_t)
  | connectStreamDeviceL (s : StreamId) (dattr : DeviceAttr)
  | unlockStreamMutex (s : StreamId)
  deriving DecidableEq, Repr

/-- The order of pairs. -/
def tupleLe (a b : ℕ × ℕ) : Prop := a.1 < b.1 ∨ (a.1 = b.1 ∧ a.2 ≤ b.2)

instance : DecidableRel tupleLe := fun a b => inferInstanceAs (Decidable (a.1 < b.1 ∨ _))

instance : Std.Total tupleLe := ⟨fun a b => by unfold tupleLe; omega⟩

instance : IsTrans (ℕ × ℕ) tupleLe := ⟨fun a b c => by unfold tupleLe; omega⟩

instance : Std.Antisymm tupleLe := ⟨fun a b hab hba => by
  unfold tupleLe at hab hba
  exact Prod.ext (by omega) (by omega)⟩

section Switch

variable (env : SwitchEnv)

/-- An entry that is skipped has no stream or an inactive one. -/
def SwitchEnv.takes (s : StreamId) : Bool := s ≠ nullStream && env.isStreamActive s

/-- The loop ends at the first entry that fails. -/
def streamDevDisconnectL : List (StreamId × pal_device_id_t) → ℤ × List SwitchCall
  | [] => (0, [])
  | (s, dev_id) :: rest =>
    if env.takes s then
      let status := env.disconnectStreamDeviceL s dev_id
      let tail := if status ≠ 0 then (status, []) else streamDevDisconnectL rest
      (tail.1, .disconnectStreamDeviceL s dev_id :: tail.2)
    else streamDevDisconnectL rest

/-- The loop goes on after an entry that fails. A stream is unlocked after its first entry. -/
def streamDevConnectL (connected_streams : List StreamId) (status : ℤ) :
    List (StreamId × DeviceAttr) → ℤ × List SwitchCall
  | [] => (status, [])
  | (s, dattr) :: rest =>
    if env.takes s then
      let tail := streamDevConnectL (s :: connected_streams) (env.connectStreamDeviceL s dattr)
        rest
      let unlock := if s ∈ connected_streams then [] else [.unlockStreamMutex s]
      (tail.1, .connectStreamDeviceL s dattr :: (unlock ++ tail.2))
    else streamDevConnectL connected_streams status rest

/-- The streams of the entries that are not skipped. -/
def SwitchEnv.streamsOf (entries : List (StreamId × ℕ)) : List StreamId :=
  (entries.map Prod.fst).filter env.takes

def uniqueStreamsList (streamDevDisconnectList streamDevConnectList : List (StreamId × ℕ)) :
    List StreamId :=
  sortUnique (· ≤ ·)
    (env.streamsOf streamDevDisconnectList ++ env.streamsOf streamDevConnectList)

def uniqueDevConnectionList (streamDevConnectList : List (StreamId × DeviceAttr)) :
    List DeviceAttr :=
  sortUnique (· ≤ ·) ((streamDevConnectList.filter fun e => env.takes e.1).map Prod.snd)

/-- The only device to connect is a Bluetooth device that is not ready. -/
def SwitchEnv.notReady (dattr : DeviceAttr) : Bool :=
  (env.id dattr = PAL_DEVICE_OUT_BLUETOOTH_A2DP ||
    env.id dattr = PAL_DEVICE_OUT_BLUETOOTH_BLE ||
    env.id dattr = PAL_DEVICE_OUT_BLUETOOTH_BLE_BROADCAST) && !env.isDeviceReady (env.id dattr)

def skipSwitch (streamDevConnectList : List (StreamId × DeviceAttr)) : Bool :=
  match uniqueDevConnectionList env streamDevConnectList with
  | [dattr] => env.notReady dattr
  | _ => false

def lockStreams (streams : List StreamId) : List SwitchCall :=
  streams.flatMap fun s =>
    (if env.cardDown && !env.isIdle s then [.ssrDownHandler s] else []) ++ [.lockStreamMutex s]

/-- The streams of the connect list leave the list, as they are unlocked already. -/
def removeConnected (streams : List StreamId) (streamDevConnectList : List (StreamId × DeviceAttr)) :
    List StreamId :=
  (env.streamsOf streamDevConnectList).foldl List.erase streams

/-- The switch with lists that are sorted and without repetitions. -/
def switchSorted (streamDevDisconnectList : List (StreamId × pal_device_id_t))
    (streamDevConnectList : List (StreamId × DeviceAttr)) : ℤ × List SwitchCall :=
  let streams := uniqueStreamsList env streamDevDisconnectList streamDevConnectList
  if skipSwitch env streamDevConnectList then (-ENODEV, [])
  else
    let disconnect := streamDevDisconnectL env streamDevDisconnectList
    if disconnect.1 ≠ 0 then
      (disconnect.1, lockStreams env streams ++ disconnect.2 ++ streams.map .unlockStreamMutex)
    else
      let connect := streamDevConnectL env [] 0 streamDevConnectList
      (connect.1, lockStreams env streams ++ disconnect.2 ++ connect.2 ++
        (removeConnected env streams streamDevConnectList).map .unlockStreamMutex)

def streamDevSwitch (streamDevDisconnectList : List (StreamId × pal_device_id_t))
    (streamDevConnectList : List (StreamId × DeviceAttr)) : ℤ × List SwitchCall :=
  switchSorted env (sortUnique tupleLe streamDevDisconnectList)
    (sortUnique tupleLe streamDevConnectList)

end Switch

/-! ### The discipline -/

/-- The streams that are locked, and those that had a connect call. -/
structure Locks where
  locked : Finset StreamId := ∅
  connected : Finset StreamId := ∅

/-- What a call asks of the locks: the handler of a restart locks the stream itself, the calls on
devices need the stream locked. With `again`, no more is asked of a stream's later connect calls. -/
def Locks.step (again : Bool) (σ : Locks) : SwitchCall → Option Locks
  | .ssrDownHandler s => if s ∈ σ.locked then none else some σ
  | .lockStreamMutex s =>
    if s ∈ σ.locked then none else some { σ with locked := insert s σ.locked }
  | .disconnectStreamDeviceL s _ => if s ∈ σ.locked then some σ else none
  | .connectStreamDeviceL s _ =>
    if s ∈ σ.locked ∨ (again = true ∧ s ∈ σ.connected) then
      some { σ with connected := insert s σ.connected }
    else none
  | .unlockStreamMutex s =>
    if s ∈ σ.locked then some { σ with locked := σ.locked.erase s } else none

/-- The calls go through, and leave no stream locked. -/
def Locks.Accepts (again : Bool) (calls : List SwitchCall) : Prop :=
  ∃ σ, run (Locks.step again) {} calls = some σ ∧ σ.locked = ∅

/-- Each stream is locked once and unlocked once. -/
def LockedOnce (streams : List StreamId) (calls : List SwitchCall) : Prop :=
  ∀ s ∈ streams, calls.count (.lockStreamMutex s) = 1 ∧ calls.count (.unlockStreamMutex s) = 1

/-- The active streams that two lists name. -/
def SwitchEnv.named (env : SwitchEnv) (streamDevDisconnectList streamDevConnectList :
    List (StreamId × ℕ)) : List StreamId :=
  env.streamsOf streamDevDisconnectList ++ env.streamsOf streamDevConnectList

namespace Locks

variable {again : Bool} {σ σ' : Locks} {env : SwitchEnv}

theorem count_run {s : StreamId} : ∀ {calls : List SwitchCall} {σ σ' : Locks},
    run (step again) σ calls = some σ' →
      calls.count (.lockStreamMutex s) + (if s ∈ σ.locked then 1 else 0) =
        calls.count (.unlockStreamMutex s) + if s ∈ σ'.locked then 1 else 0 := by
  intro calls
  induction calls with
  | nil =>
    rintro σ _ ⟨⟩
    rfl
  | cons c calls ih =>
    intro σ σ' h
    obtain ⟨τ, hstep, hrest⟩ := (run_cons_eq_some _).mp h
    have hih := ih hrest
    cases c with
    | ssrDownHandler u =>
      simp only [step] at hstep
      split_ifs at hstep
      cases hstep
      simpa using hih
    | lockStreamMutex u =>
      simp only [step] at hstep
      split_ifs at hstep with hu
      cases hstep
      by_cases hs : s = u
      · subst hs
        simp [hu] at hih ⊢
        omega
      · simpa [hs, Ne.symm hs, List.count_cons] using hih
    | disconnectStreamDeviceL u _ =>
      simp only [step] at hstep
      split_ifs at hstep
      cases hstep
      simpa using hih
    | connectStreamDeviceL u _ =>
      simp only [step] at hstep
      split_ifs at hstep
      cases hstep
      simpa using hih
    | unlockStreamMutex u =>
      simp only [step] at hstep
      split_ifs at hstep with hu
      cases hstep
      by_cases hs : s = u
      · subst hs
        simp [hu] at hih ⊢
        omega
      · simpa [hs, Ne.symm hs, List.count_cons] using hih

/-- Where all streams end unlocked, each is unlocked as often as it is locked. -/
theorem Accepts.count_eq {calls : List SwitchCall} (h : Accepts again calls) (s : StreamId) :
    calls.count (.lockStreamMutex s) = calls.count (.unlockStreamMutex s) := by
  obtain ⟨σ, hrun, hlocked⟩ := h
  simpa [hlocked] using count_run (s := s) hrun

theorem run_lockStreams : ∀ {streams : List StreamId} {σ : Locks}, streams.Nodup →
    (∀ s ∈ streams, s ∉ σ.locked) → run (step again) σ (lockStreams env streams) =
      some { σ with locked := σ.locked ∪ streams.toFinset } := by
  intro streams
  induction streams with
  | nil =>
    rintro ⟨locked, connected⟩ _ _
    simp [lockStreams]
  | cons s streams ih =>
    intro σ hnodup hfree
    obtain ⟨hs, hnodup⟩ := List.nodup_cons.mp hnodup
    have hnot : s ∉ σ.locked := hfree s List.mem_cons_self
    have hlock : run (step again) σ ((if env.cardDown && !env.isIdle s then
        [.ssrDownHandler s] else []) ++ [.lockStreamMutex s]) =
          some { σ with locked := insert s σ.locked } := by
      split_ifs <;> simp [run_cons, step, hnot]
    have hrest : ∀ u ∈ streams, u ∉ (insert s σ.locked) := by
      intro u hu
      simp only [Finset.mem_insert, not_or]
      exact ⟨fun he => hs (he ▸ hu), hfree u (List.mem_cons_of_mem _ hu)⟩
    have hsplit : lockStreams env (s :: streams) = ((if env.cardDown && !env.isIdle s then
        [.ssrDownHandler s] else []) ++ [.lockStreamMutex s]) ++ lockStreams env streams := by
      simp [lockStreams]
    have hunion : insert s σ.locked ∪ streams.toFinset =
        σ.locked ∪ (s :: streams).toFinset := by
      ext u
      simp only [Finset.mem_union, Finset.mem_insert, List.mem_toFinset, List.mem_cons]
      tauto
    rw [hsplit, run_append, hlock, Option.bind_some, ih hnodup hrest, hunion]

theorem run_unlock : ∀ {streams : List StreamId} {σ : Locks}, streams.Nodup →
    (∀ s ∈ streams, s ∈ σ.locked) → run (step again) σ (streams.map .unlockStreamMutex) =
      some { σ with locked := σ.locked \ streams.toFinset } := by
  intro streams
  induction streams with
  | nil =>
    intro σ _ _
    simp
  | cons s streams ih =>
    intro σ hnodup hlocked
    obtain ⟨hs, hnodup⟩ := List.nodup_cons.mp hnodup
    have hrest : ∀ u ∈ streams, u ∈ σ.locked.erase s := fun u hu =>
      Finset.mem_erase.mpr ⟨fun he => hs (he ▸ hu), hlocked u (List.mem_cons_of_mem _ hu)⟩
    rw [List.map_cons, run_cons]
    simp only [step, hlocked s List.mem_cons_self, if_true, Option.bind_some]
    have hdiff : σ.locked.erase s \ streams.toFinset = σ.locked \ (s :: streams).toFinset := by
      ext u
      simp only [Finset.mem_sdiff, Finset.mem_erase, List.mem_toFinset, List.mem_cons]
      tauto
    rw [ih hnodup hrest, hdiff]

theorem streamsOf_cons_of_takes {s : StreamId} {d : ℕ} {entries : List (StreamId × ℕ)}
    (h : env.takes s = true) : env.streamsOf ((s, d) :: entries) = s :: env.streamsOf entries := by
  simp [SwitchEnv.streamsOf, h]

theorem streamsOf_cons_of_not_takes {s : StreamId} {d : ℕ} {entries : List (StreamId × ℕ)}
    (h : ¬env.takes s = true) : env.streamsOf ((s, d) :: entries) = env.streamsOf entries := by
  simp [SwitchEnv.streamsOf, h]

theorem run_disconnect {σ : Locks} : ∀ {entries : List (StreamId × pal_device_id_t)},
    (∀ s ∈ env.streamsOf entries, s ∈ σ.locked) →
      run (step again) σ (streamDevDisconnectL env entries).2 = some σ := by
  intro entries
  induction entries with
  | nil => exact fun _ => rfl
  | cons e entries ih =>
    obtain ⟨s, dev_id⟩ := e
    intro hlocked
    unfold streamDevDisconnectL
    by_cases ht : env.takes s = true
    · rw [streamsOf_cons_of_takes ht, List.forall_mem_cons] at hlocked
      obtain ⟨hs, hrest⟩ := hlocked
      simp only [ht, if_true, run_cons, step, hs, Option.bind_some]
      split_ifs
      · rfl
      · exact ih hrest
    · rw [streamsOf_cons_of_not_takes ht] at hlocked
      simp only [ht, Bool.false_eq_true, if_false]
      exact ih hlocked

/-- The connect calls go through when no stream has two of them, or when the later ones need no
lock; they unlock their streams. -/
theorem run_connect : ∀ {entries : List (StreamId × DeviceAttr)} {C : List StreamId} {status : ℤ}
    {σ : Locks}, (∀ s ∈ env.streamsOf entries, s ∈ σ.locked ∨ s ∈ C) → (∀ s ∈ C, s ∉ σ.locked) →
    (∀ s, s ∈ σ.connected ↔ s ∈ C) →
    (again = true ∨ ((env.streamsOf entries).Nodup ∧ ∀ s ∈ env.streamsOf entries, s ∉ C)) →
    run (step again) σ (streamDevConnectL env C status entries).2 =
      some { locked := σ.locked \ (env.streamsOf entries).toFinset
             connected := σ.connected ∪ (env.streamsOf entries).toFinset } := by
  intro entries
  induction entries with
  | nil =>
    rintro C status ⟨locked, connected⟩ _ _ _ _
    simp [streamDevConnectL, SwitchEnv.streamsOf]
  | cons e entries ih =>
    obtain ⟨s, dattr⟩ := e
    intro C status σ hlocked hC hconn hok
    unfold streamDevConnectL
    by_cases ht : env.takes s = true
    · rw [streamsOf_cons_of_takes ht] at hlocked hok ⊢
      rw [List.forall_mem_cons] at hlocked
      obtain ⟨hs, hrest⟩ := hlocked
      have hconn' : ∀ u, u ∈ insert s σ.connected ↔ u ∈ s :: C := by
        intro u
        rw [Finset.mem_insert, List.mem_cons, hconn]
      have hunion : insert s σ.connected ∪ (env.streamsOf entries).toFinset =
          σ.connected ∪ (s :: env.streamsOf entries).toFinset := by
        ext u
        simp only [Finset.mem_union, Finset.mem_insert, List.mem_toFinset, List.mem_cons]
        tauto
      by_cases hsC : s ∈ C
      · -- a later connect call of the stream, which is unlocked
        have hagain : again = true := by
          rcases hok with hok | ⟨-, hok⟩
          · exact hok
          · exact absurd hsC (hok s List.mem_cons_self)
        have hstep : s ∈ σ.locked ∨ again = true ∧ s ∈ σ.connected :=
          Or.inr ⟨hagain, (hconn s).mpr hsC⟩
        have hdiff : σ.locked \ (env.streamsOf entries).toFinset =
            σ.locked \ (s :: env.streamsOf entries).toFinset := by
          ext u
          have hne : u ∈ σ.locked → u ≠ s := fun hu he => hC s hsC (he ▸ hu)
          simp
          tauto
        simp only [ht, hsC, if_true, List.nil_append, run_cons, step, hstep, Option.bind_some]
        rw [ih (σ := { σ with connected := insert s σ.connected }), hunion, hdiff]
        · exact fun u hu => (hrest u hu).imp_right (List.mem_cons_of_mem s)
        · rintro u hu
          rcases List.mem_cons.mp hu with rfl | hu
          · exact hC u hsC
          · exact hC u hu
        · exact hconn'
        · exact Or.inl hagain
      · -- the first one
        have hlock : s ∈ σ.locked := hs.resolve_right hsC
        have hdiff : σ.locked.erase s \ (env.streamsOf entries).toFinset =
            σ.locked \ (s :: env.streamsOf entries).toFinset := by
          ext u
          simp
          tauto
        simp only [ht, hsC, if_true, if_false, List.singleton_append, run_cons, step, hlock,
          true_or, Option.bind_some]
        rw [ih (σ := { locked := σ.locked.erase s, connected := insert s σ.connected }), hunion,
          hdiff]
        · intro u hu
          by_cases he : u = s
          · exact Or.inr (he ▸ List.mem_cons_self)
          · exact (hrest u hu).imp (fun h => Finset.mem_erase.mpr ⟨he, h⟩) (List.mem_cons_of_mem s)
        · rintro u hu
          rcases List.mem_cons.mp hu with rfl | hu
          · exact Finset.notMem_erase u _
          · exact fun hin => hC u hu (Finset.mem_of_mem_erase hin)
        · exact hconn'
        · refine hok.imp_right ?_
          rintro ⟨hnodup, hfresh⟩
          obtain ⟨hnot, hnodup⟩ := List.nodup_cons.mp hnodup
          refine ⟨hnodup, fun u hu hin => ?_⟩
          rcases List.mem_cons.mp hin with rfl | hin
          · exact hnot hu
          · exact hfresh u (List.mem_cons_of_mem _ hu) hin
    · rw [streamsOf_cons_of_not_takes ht] at hlocked hok ⊢
      simp only [ht, Bool.false_eq_true, if_false]
      exact ih hlocked hC hconn hok

/-- Where every connect call needs its stream locked, a stream has one of them. -/
theorem nodup_of_run_connect : ∀ {entries : List (StreamId × DeviceAttr)} {C : List StreamId}
    {status : ℤ} {σ σ' : Locks}, (∀ s ∈ C, s ∉ σ.locked) →
    run (step false) σ (streamDevConnectL env C status entries).2 = some σ' →
    (env.streamsOf entries).Nodup ∧ ∀ s ∈ env.streamsOf entries, s ∉ C := by
  intro entries
  induction entries with
  | nil =>
    intros
    simp [SwitchEnv.streamsOf]
  | cons e entries ih =>
    obtain ⟨s, dattr⟩ := e
    intro C status σ σ' hC hrun
    unfold streamDevConnectL at hrun
    by_cases ht : env.takes s = true
    · rw [streamsOf_cons_of_takes ht]
      by_cases hs : s ∈ σ.locked
      · have hsC : s ∉ C := fun hin => hC s hin hs
        have hC' : ∀ u ∈ s :: C, u ∉ σ.locked.erase s := by
          intro u hu
          rcases List.mem_cons.mp hu with rfl | hu
          · exact Finset.notMem_erase u _
          · exact fun hin => hC u hu (Finset.mem_of_mem_erase hin)
        simp only [ht, hs, hsC, if_true, if_false, run_cons, step, true_or, Option.bind_some,
          List.singleton_append] at hrun
        obtain ⟨hnodup, hfresh⟩ := ih hC' hrun
        refine ⟨List.nodup_cons.mpr ⟨fun hin => hfresh s hin List.mem_cons_self, hnodup⟩, ?_⟩
        refine List.forall_mem_cons.mpr ⟨hsC, fun u hu hin => ?_⟩
        exact hfresh u hu (List.mem_cons_of_mem s hin)
      · -- the call needs a lock that is not there
        simp [ht, hs, run_cons, step] at hrun
    · rw [streamsOf_cons_of_not_takes ht]
      simp only [ht, Bool.false_eq_true, if_false] at hrun
      exact ih hC hrun

end Locks

section Switch

variable {env : SwitchEnv}

/-- A disconnect fails exactly when the one of an entry that is not skipped does. -/
theorem streamDevDisconnectL_ne_zero_iff : ∀ {entries : List (StreamId × pal_device_id_t)},
    (streamDevDisconnectL env entries).1 ≠ 0 ↔
      ∃ e ∈ entries, env.takes e.1 = true ∧ env.disconnectStreamDeviceL e.1 e.2 ≠ 0 := by
  intro entries
  induction entries with
  | nil => simp [streamDevDisconnectL]
  | cons e entries ih =>
    obtain ⟨s, dev_id⟩ := e
    unfold streamDevDisconnectL
    by_cases ht : env.takes s = true
    · by_cases hfail : env.disconnectStreamDeviceL s dev_id = 0
      · simpa [ht, hfail] using ih
      · simp [ht, hfail]
    · simpa [ht] using ih

theorem mem_streamsOf {entries : List (StreamId × ℕ)} {s : StreamId} :
    s ∈ env.streamsOf entries ↔ env.takes s = true ∧ ∃ d, (s, d) ∈ entries := by
  simp [SwitchEnv.streamsOf, and_comm]

theorem mem_streamsOf_sortUnique {entries : List (StreamId × ℕ)} {s : StreamId} :
    s ∈ env.streamsOf (sortUnique tupleLe entries) ↔ s ∈ env.streamsOf entries := by
  simp only [mem_streamsOf, mem_sortUnique]

theorem mem_uniqueStreamsList {d c : List (StreamId × ℕ)} {s : StreamId} :
    s ∈ uniqueStreamsList env (sortUnique tupleLe d) (sortUnique tupleLe c) ↔
      s ∈ env.named d c := by
  rw [uniqueStreamsList, mem_sortUnique, SwitchEnv.named, List.mem_append, List.mem_append,
    mem_streamsOf_sortUnique, mem_streamsOf_sortUnique]

theorem nodup_uniqueStreamsList {d c : List (StreamId × ℕ)} :
    (uniqueStreamsList env d c).Nodup :=
  nodup_sortUnique _ _

theorem removeConnected_eq (streams : List StreamId) (c : List (StreamId × DeviceAttr)) :
    removeConnected env streams c = streams.diff (env.streamsOf c) :=
  (List.diff_eq_foldl streams (env.streamsOf c)).symm

/-- No stream that is not skipped is in two entries. -/
def SwitchEnv.OneDevice (env : SwitchEnv) (entries : List (StreamId × ℕ)) : Prop :=
  ∀ e ∈ entries, ∀ e' ∈ entries, env.takes e.1 = true → e.1 = e'.1 → e = e'

theorem nodup_streamsOf_iff {entries : List (StreamId × ℕ)} (h : entries.Nodup) :
    (env.streamsOf entries).Nodup ↔ env.OneDevice entries := by
  have htakes : ∀ e ∈ entries.filter (env.takes ∘ Prod.fst),
      e ∈ entries ∧ env.takes e.1 = true := fun e he => List.mem_filter.mp he
  rw [SwitchEnv.streamsOf, List.filter_map, List.nodup_map_iff_inj_on (h.filter _)]
  constructor
  · intro hinj e he e' he' ht heq
    refine hinj e (List.mem_filter.mpr ⟨he, ht⟩) e' (List.mem_filter.mpr ⟨he', ?_⟩) heq
    rw [Function.comp_apply, ← heq]
    exact ht
  · intro hone e he e' he' heq
    exact hone e (htakes e he).1 e' (htakes e' he').1 (htakes e he).2 heq

theorem oneDevice_sortUnique {entries : List (StreamId × ℕ)} :
    env.OneDevice (sortUnique tupleLe entries) ↔ env.OneDevice entries := by
  simp only [SwitchEnv.OneDevice, mem_sortUnique]

/-! ### Which calls the parts make -/

theorem count_lock_lockStreams {streams : List StreamId} (h : streams.Nodup) {s : StreamId}
    (hs : s ∈ streams) : (lockStreams env streams).count (.lockStreamMutex s) = 1 := by
  have hone : ∀ u, List.count (SwitchCall.lockStreamMutex s)
      ((if env.cardDown && !env.isIdle u then [.ssrDownHandler u] else []) ++
        [.lockStreamMutex u]) = if u = s then 1 else 0 := by
    intro u
    by_cases hu : u = s <;> split_ifs <;> simp [hu]
  have hcount : ∀ l : List StreamId,
      (lockStreams env l).count (.lockStreamMutex s) = l.count s := by
    intro l
    induction l with
    | nil => rfl
    | cons u l ih =>
      unfold lockStreams at ih ⊢
      rw [List.flatMap_cons, List.count_append, ih, hone, List.count_cons, Nat.add_comm]
      simp
  rw [hcount, List.count_eq_one_of_mem h hs]

theorem lock_notMem_disconnect (s : StreamId) : ∀ entries : List (StreamId × pal_device_id_t),
    SwitchCall.lockStreamMutex s ∉ (streamDevDisconnectL env entries).2 := by
  intro entries
  induction entries with
  | nil => simp [streamDevDisconnectL]
  | cons e entries ih =>
    obtain ⟨u, dev_id⟩ := e
    unfold streamDevDisconnectL
    by_cases ht : env.takes u = true
    · by_cases hfail : env.disconnectStreamDeviceL u dev_id = 0 <;> simp [ht, hfail, ih]
    · simpa [ht] using ih

theorem lock_notMem_connect (s : StreamId) : ∀ (entries : List (StreamId × DeviceAttr))
    (C : List StreamId) (status : ℤ),
    SwitchCall.lockStreamMutex s ∉ (streamDevConnectL env C status entries).2 := by
  intro entries
  induction entries with
  | nil => simp [streamDevConnectL]
  | cons e entries ih =>
    obtain ⟨u, dattr⟩ := e
    intro C status
    unfold streamDevConnectL
    by_cases ht : env.takes u = true
    · by_cases hC : u ∈ C <;> simp [ht, hC, ih]
    · simpa [ht] using ih C status

/-! ### The switch keeps the discipline -/

variable {d c : List (StreamId × ℕ)}

/-- What the switch does is to lock, to disconnect, and then either to unlock or to connect and to
unlock the rest. -/
theorem calls_eq (hskip : skipSwitch env (sortUnique tupleLe c) = false) :
    (streamDevSwitch env d c).2 =
      lockStreams env (uniqueStreamsList env (sortUnique tupleLe d) (sortUnique tupleLe c)) ++
        (streamDevDisconnectL env (sortUnique tupleLe d)).2 ++
          if (streamDevDisconnectL env (sortUnique tupleLe d)).1 ≠ 0 then
            (uniqueStreamsList env (sortUnique tupleLe d) (sortUnique tupleLe c)).map
              .unlockStreamMutex
          else (streamDevConnectL env [] 0 (sortUnique tupleLe c)).2 ++
            (removeConnected env
              (uniqueStreamsList env (sortUnique tupleLe d) (sortUnique tupleLe c))
              (sortUnique tupleLe c)).map .unlockStreamMutex := by
  unfold streamDevSwitch switchSorted
  simp only [hskip, Bool.false_eq_true, if_false]
  split_ifs <;> simp

/-- All streams are locked, and every disconnect call is made, before the switch parts. -/
theorem run_locked {again : Bool} (rest : List SwitchCall) :
    run (Locks.step again) {}
      (lockStreams env (uniqueStreamsList env (sortUnique tupleLe d) (sortUnique tupleLe c)) ++
        (streamDevDisconnectL env (sortUnique tupleLe d)).2 ++ rest) =
      run (Locks.step again) { locked := (uniqueStreamsList env (sortUnique tupleLe d)
        (sortUnique tupleLe c)).toFinset } rest := by
  have hlocks : run (Locks.step again) {}
      (lockStreams env (uniqueStreamsList env (sortUnique tupleLe d) (sortUnique tupleLe c))) =
        some { locked := (uniqueStreamsList env (sortUnique tupleLe d)
          (sortUnique tupleLe c)).toFinset } := by
    rw [Locks.run_lockStreams nodup_uniqueStreamsList (fun s _ => Finset.notMem_empty s)]
    simp
  have hnamed : ∀ s ∈ env.streamsOf (sortUnique tupleLe d),
      s ∈ (uniqueStreamsList env (sortUnique tupleLe d) (sortUnique tupleLe c)).toFinset := by
    intro s hs
    rw [List.mem_toFinset, uniqueStreamsList, mem_sortUnique]
    exact List.mem_append_left _ hs
  rw [List.append_assoc, run_append, hlocks, Option.bind_some, run_append,
    Locks.run_disconnect hnamed, Option.bind_some]

/-- Which calls go through is decided by the connect calls. -/
theorem accepts_iff {again : Bool} (hskip : skipSwitch env (sortUnique tupleLe c) = false) :
    Locks.Accepts again (streamDevSwitch env d c).2 ↔ again = true ∨
      (streamDevDisconnectL env (sortUnique tupleLe d)).1 ≠ 0 ∨ env.OneDevice c := by
  have hnodup : (uniqueStreamsList env (sortUnique tupleLe d) (sortUnique tupleLe c)).Nodup :=
    nodup_uniqueStreamsList
  have hone : (env.streamsOf (sortUnique tupleLe c)).Nodup ↔ env.OneDevice c := by
    rw [nodup_streamsOf_iff (nodup_sortUnique _ _), oneDevice_sortUnique]
  have hconnect : ∀ s ∈ env.streamsOf (sortUnique tupleLe c),
      s ∈ uniqueStreamsList env (sortUnique tupleLe d) (sortUnique tupleLe c) := by
    intro s hs
    rw [uniqueStreamsList, mem_sortUnique]
    exact List.mem_append_right _ hs
  unfold Locks.Accepts
  rw [calls_eq hskip, run_locked]
  generalize uniqueStreamsList env (sortUnique tupleLe d) (sortUnique tupleLe c) = U at *
  split_ifs with hfail
  · -- a disconnect fails: the streams are unlocked at once
    rw [Locks.run_unlock hnodup (fun s hs => List.mem_toFinset.mpr hs)]
    simp [hfail]
  · -- the connect calls unlock their streams, and the rest follows
    rw [run_append]
    constructor
    · rintro ⟨σ, hrun, -⟩
      cases again with
      | true => exact Or.inl rfl
      | false =>
        obtain ⟨τ, hτ, -⟩ := Option.bind_eq_some_iff.mp hrun
        exact Or.inr (Or.inr (hone.mp (Locks.nodup_of_run_connect (by simp) hτ).1))
    · intro hok
      have hlocked : ∀ s ∈ env.streamsOf (sortUnique tupleLe c), s ∈ U.toFinset ∨ s ∈ [] :=
        fun s hs => Or.inl (List.mem_toFinset.mpr (hconnect s hs))
      have hok' : again = true ∨ ((env.streamsOf (sortUnique tupleLe c)).Nodup ∧
          ∀ s ∈ env.streamsOf (sortUnique tupleLe c), s ∉ []) := by
        rcases hok with hok | hok | hok
        · exact Or.inl hok
        · exact absurd hok hfail
        · exact Or.inr ⟨hone.mpr hok, by simp⟩
      have hleft : ∀ s ∈ U.diff (env.streamsOf (sortUnique tupleLe c)),
          s ∈ U.toFinset \ (env.streamsOf (sortUnique tupleLe c)).toFinset := by
        intro s hs
        obtain ⟨hU, hC⟩ := hnodup.mem_sdiff_iff.mp hs
        simp [hU, hC]
      rw [Locks.run_connect hlocked (by simp) (by simp) hok', Option.bind_some, removeConnected_eq,
        Locks.run_unlock hnodup.diff hleft]
      refine ⟨_, rfl, ?_⟩
      ext s
      simp [hnodup.mem_sdiff_iff]

/-- Each named stream is locked in the first part only. -/
theorem count_lock (hskip : skipSwitch env (sortUnique tupleLe c) = false) {s : StreamId}
    (hs : s ∈ env.named d c) : (streamDevSwitch env d c).2.count (.lockStreamMutex s) = 1 := by
  have hlock : (lockStreams env (uniqueStreamsList env (sortUnique tupleLe d)
      (sortUnique tupleLe c))).count (.lockStreamMutex s) = 1 :=
    count_lock_lockStreams nodup_uniqueStreamsList (mem_uniqueStreamsList.mpr hs)
  have hunlock : ∀ l : List StreamId,
      SwitchCall.lockStreamMutex s ∉ l.map SwitchCall.unlockStreamMutex := by simp
  rw [calls_eq hskip, List.count_append, List.count_append, hlock,
    List.count_eq_zero_of_not_mem (lock_notMem_disconnect s _)]
  split_ifs
  · rw [List.count_eq_zero_of_not_mem (hunlock _)]
  · rw [List.count_append, List.count_eq_zero_of_not_mem (hunlock _),
      List.count_eq_zero_of_not_mem (lock_notMem_connect s _ _ _)]

/-- A switch that is skipped has an active stream to connect. -/
theorem named_of_skipSwitch (h : skipSwitch env (sortUnique tupleLe c) = true) :
    ∃ s, s ∈ env.named d c := by
  unfold skipSwitch at h
  split at h
  case h_1 dattr hdev =>
    have hmem : dattr ∈ uniqueDevConnectionList env (sortUnique tupleLe c) := by simp [hdev]
    rw [uniqueDevConnectionList, mem_sortUnique] at hmem
    obtain ⟨⟨s, _⟩, he, rfl⟩ := List.mem_map.mp hmem
    obtain ⟨he, ht⟩ := List.mem_filter.mp he
    rw [mem_sortUnique] at he
    exact ⟨s, List.mem_append_right _ (mem_streamsOf.mpr ⟨ht, _, he⟩)⟩
  case h_2 => exact absurd h (by simp)

theorem calls_of_skipSwitch (h : skipSwitch env (sortUnique tupleLe c) = true) :
    (streamDevSwitch env d c).2 = [] := by
  simp [streamDevSwitch, switchSorted, h]

/-- A switch that is not skipped makes calls that the locks accept, with one lock and one unlock of
each active stream. -/
theorem locks_of_not_skipSwitch (h : skipSwitch env (sortUnique tupleLe c) = false) :
    LockedOnce (env.named d c) (streamDevSwitch env d c).2 ∧
      Locks.Accepts true (streamDevSwitch env d c).2 := by
  have haccept : Locks.Accepts true (streamDevSwitch env d c).2 := (accepts_iff h).mpr (Or.inl rfl)
  refine ⟨fun s hs => ?_, haccept⟩
  have hlock := count_lock h hs
  exact ⟨hlock, haccept.count_eq s ▸ hlock⟩

/-- **The locks of a switch.** A switch that is not skipped locks and unlocks every active stream of
its lists once, disconnects and first connects each while it is locked, and leaves none locked. A
skipped one makes no call. -/
theorem streamDevSwitch_locks (env : SwitchEnv) (d c : List (StreamId × ℕ)) :
    if skipSwitch env (sortUnique tupleLe c) then (streamDevSwitch env d c).2 = []
    else LockedOnce (env.named d c) (streamDevSwitch env d c).2 ∧
      Locks.Accepts true (streamDevSwitch env d c).2 := by
  split_ifs with hskip
  · exact calls_of_skipSwitch hskip
  · rw [Bool.not_eq_true] at hskip
    exact locks_of_not_skipSwitch hskip

/-- Every connect call has its stream locked exactly where no active stream is connected to two
devices, or a disconnect fails before. -/
theorem lockDiscipline_iff (env : SwitchEnv) (d c : List (StreamId × ℕ)) :
    (LockedOnce (env.named d c) (streamDevSwitch env d c).2 ∧
      Locks.Accepts false (streamDevSwitch env d c).2) ↔
    skipSwitch env (sortUnique tupleLe c) = false ∧
      ((∃ e ∈ d, env.takes e.1 = true ∧ env.disconnectStreamDeviceL e.1 e.2 ≠ 0) ∨
        env.OneDevice c) := by
  have hfail : (streamDevDisconnectL env (sortUnique tupleLe d)).1 ≠ 0 ↔
      ∃ e ∈ d, env.takes e.1 = true ∧ env.disconnectStreamDeviceL e.1 e.2 ≠ 0 := by
    simp only [streamDevDisconnectL_ne_zero_iff, mem_sortUnique]
  cases hskip : skipSwitch env (sortUnique tupleLe c) with
  | true =>
    refine iff_of_false ?_ (by simp)
    rintro ⟨honce, -⟩
    obtain ⟨s, hs⟩ := named_of_skipSwitch (d := d) hskip
    have hcount := (honce s hs).1
    rw [calls_of_skipSwitch hskip] at hcount
    cases hcount
  | false =>
    have honce := (locks_of_not_skipSwitch (d := d) hskip).1
    rw [and_iff_right honce, and_iff_right rfl, accepts_iff hskip, hfail]
    simp

end Switch

/-- One stream to be connected to an A2DP device that is not ready. -/
def a2dpNotReady : SwitchEnv where
  isStreamActive s := s = 1
  id _ := PAL_DEVICE_OUT_BLUETOOTH_A2DP
  isDeviceReady _ := false
  cardDown := false
  isIdle _ := false
  disconnectStreamDeviceL _ _ := 0
  connectStreamDeviceL _ _ := 0

/-- The switch to a Bluetooth device that is not ready is skipped without a lock. -/
theorem not_lockDiscipline_notReady :
    ¬(LockedOnce (a2dpNotReady.named [(1, 3)] [(1, 7)])
        (streamDevSwitch a2dpNotReady [(1, 3)] [(1, 7)]).2 ∧
      Locks.Accepts false (streamDevSwitch a2dpNotReady [(1, 3)] [(1, 7)]).2) := by
  rintro ⟨honce, -⟩
  exact absurd (honce 1 (by decide)).1 (by decide)

/-- A stream that is connected to two devices has its second call without the lock. -/
example : (streamDevSwitch { a2dpNotReady with isDeviceReady := fun _ => true } []
    [(1, 7), (1, 8)]).2 = [.lockStreamMutex 1, .connectStreamDeviceL 1 7, .unlockStreamMutex 1,
      .connectStreamDeviceL 1 8] := by decide

end AudioReachPal.Rm
