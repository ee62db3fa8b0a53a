import AudioReachPal.Lib.Leases
import Mathlib.Data.Prod.Basic
import Mathlib.Logic.Function.Basic
import Mathlib.Logic.Relation
import Mathlib.Order.Nat

/-!
# Who owns the streams of the context manager

A `Usecase` object has a stream, and a map of a client has the object. The ledger is what the
commands do to the two, without the code that does it: a usecase is added with a started stream, it
is released with its stream closed, or, where a call fails at the wrong time, an object is left
behind, or a stored one without its stream.

The streams are on loan to the usecases, and the objects to the maps: the two `Leases` below. Adding
and releasing keep both exclusive and covered.
-/

namespace AudioReachPal.Context

open AudioReachPal.Lib

/-! ### The streams -/

/-- A stream by its handle. A handle that no `palStreamOpen` has given out is `unopened`. -/
inductive StreamStatus where
  | unopened
  | opened
  | started
  | closed
  deriving DecidableEq, Repr

/-- The stream was opened and is not closed. -/
def StreamStatus.Live (s : StreamStatus) : Prop := s = opened ∨ s = started

/-! ### The usecases -/

/-- The classes that `UsecaseFactory` knows. -/
inductive UsecaseClass where
  | UsecaseACD
  | UsecasePCMData
  | UsecaseUPD
  | UsecasePCMRenderer
  | UsecaseSDZ
  | UsecaseASR
  deriving DecidableEq, Repr

/-- `pal_stream` is the handle that `open` received, and 0 before that. -/
structure Usecase where
  usecase_id : ℕ
  type : UsecaseClass
  pal_stream : ℕ := 0
  deriving DecidableEq, Repr

/-! ### Who owns what -/

/-- What the commands do to the usecases and the streams, without the clients: the maps as one
function of both ids. -/
structure Ledger where
  stored : ℕ × ℕ → Option ℕ
  heap : ℕ → Option Usecase
  allocated : ℕ
  streams : ℕ → StreamStatus
  handles : ℕ
  closedAgain : List ℕ

namespace Ledger

variable (L : Ledger)

/-- The stream of a usecase. -/
def handle (p : ℕ) : ℕ :=
  match L.heap p with
  | some uc => uc.pal_stream
  | none => 0

/-- The client with the id `k.1` has a usecase under `k.2`, and its stream is `h`. -/
def Owns (k : ℕ × ℕ) (h : ℕ) : Prop :=
  ∃ p uc, L.stored k = some p ∧ L.heap p = some uc ∧ uc.pal_stream = h

/-- A new usecase under `k`, with a stream of its own that is started. -/
def add (k : ℕ × ℕ) (uc : Usecase) : Ledger :=
  { L with
      stored := Function.update L.stored k (some L.allocated)
      heap := Function.update L.heap L.allocated (some { uc with pal_stream := L.handles })
      allocated := L.allocated + 1
      streams := Function.update L.streams L.handles .started
      handles := L.handles + 1 }

/-- The stream `h` is closed if it was ever opened, and a stream that was closed before is noted
for both calls. -/
def stopAndClose (h : ℕ) : Ledger :=
  { L with
      streams := Function.update L.streams h
        (if L.streams h = .unopened then .unopened else .closed)
      closedAgain := if L.streams h = .closed then h :: h :: L.closedAgain else L.closedAgain }

/-- The usecase at `p` leaves the map and the heap. -/
def erase (k : ℕ × ℕ) (p : ℕ) : Ledger :=
  { L with stored := Function.update L.stored k none, heap := Function.update L.heap p none }

/-- A new object that no map has. -/
def leak (uc : Usecase) : Ledger :=
  { L with
      heap := Function.update L.heap L.allocated (some uc), allocated := L.allocated + 1 }

/-- A new object that no map has, and whose stream was opened and closed. -/
def leakClosed (uc : Usecase) : Ledger :=
  { L.leak { uc with pal_stream := L.handles } with
      streams := Function.update L.streams L.handles .closed, handles := L.handles + 1 }

/-- A stored usecase is closed and deleted. -/
def Release (L L' : Ledger) : Prop :=
  ∃ k p, L.stored k = some p ∧ L' = (L.stopAndClose (L.handle p)).erase k p

/-- A registration under `k` that goes as it should: nothing changes, or the usecase is added. -/
inductive Registered (k : ℕ × ℕ) : Ledger → Prop where
  | kept : Registered k L
  | added (uc : Usecase) (free : L.stored k = none) : Registered k (L.add k uc)

/-- A registration under `k` that leaves an object behind, or a stored usecase without a stream. -/
inductive Broken (k : ℕ × ℕ) : Ledger → Prop where
  | leaked (uc : Usecase) : Broken k (L.leak uc)
  | leakedClosed (uc : Usecase) : Broken k (L.leakClosed uc)
  | stopped (p : ℕ) (there : L.stored k = some p) : Broken k (L.stopAndClose (L.handle p))

variable {L}

theorem handle_of_heap {p : ℕ} {uc : Usecase} (h : L.heap p = some uc) :
    L.handle p = uc.pal_stream := by
  unfold handle
  rw [h]

/-! ### What holds of every ledger -/

/-- Addresses and handles are new when they are given out, a stored usecase is there, and no two
stored usecases have one stream. -/
structure Wellformed (L : Ledger) : Prop where
  fresh : ∀ p, L.allocated ≤ p → L.heap p = none
  unopened : ∀ h, L.handles ≤ h → L.streams h = .unopened
  alive : ∀ k p, L.stored k = some p → ∃ uc, L.heap p = some uc ∧ uc.pal_stream < L.handles
  unique : ∀ k k' h, L.Owns k h → L.Owns k' h → k = k'

namespace Wellformed

variable {k k' : ℕ × ℕ} {p h : ℕ} {uc : Usecase}

theorem lt_allocated (w : L.Wellformed) (hp : L.stored k = some p) : p < L.allocated := by
  obtain ⟨uc, huc, -⟩ := w.alive k p hp
  by_contra hge
  rw [w.fresh p (by omega)] at huc
  cases huc

theorem owns_handle (w : L.Wellformed) (hp : L.stored k = some p) : L.Owns k (L.handle p) := by
  obtain ⟨uc, huc, -⟩ := w.alive k p hp
  exact ⟨p, uc, hp, huc, (handle_of_heap huc).symm⟩

theorem lt_handles (w : L.Wellformed) (ho : L.Owns k h) : h < L.handles := by
  obtain ⟨p, uc, hp, huc, rfl⟩ := ho
  obtain ⟨uc', huc', hlt⟩ := w.alive k p hp
  rw [huc] at huc'
  cases huc'
  exact hlt

/-- A pointer is stored once. -/
theorem stored_inj (w : L.Wellformed) (hp : L.stored k = some p) (hp' : L.stored k' = some p) :
    k = k' :=
  w.unique k k' _ (w.owns_handle hp) (w.owns_handle hp')

theorem owns_leak (w : L.Wellformed) : (L.leak uc).Owns k h ↔ L.Owns k h := by
  refine exists_congr fun p => exists_congr fun u => and_congr_right fun hp => ?_
  have hne : p ≠ L.allocated := (w.lt_allocated hp).ne
  simp [leak, hne]

theorem leak (w : L.Wellformed) (uc : Usecase) : (L.leak uc).Wellformed where
  fresh p hp := by
    have hne : p ≠ L.allocated := by
      have : L.allocated + 1 ≤ p := hp
      omega
    have hle : L.allocated ≤ p := Nat.le_of_succ_le hp
    simp [Ledger.leak, hne, w.fresh p hle]
  unopened := w.unopened
  alive k p hp := by
    have hne : p ≠ L.allocated := (w.lt_allocated hp).ne
    obtain ⟨u, hu, hlt⟩ := w.alive k p hp
    exact ⟨u, by simp [Ledger.leak, hne, hu], hlt⟩
  unique k k' h ho ho' := w.unique k k' h (w.owns_leak.mp ho) (w.owns_leak.mp ho')

/-- One more handle, with a stream that is no usecase's. -/
theorem openStream (w : L.Wellformed) (s : StreamStatus) :
    Wellformed { L with
      streams := Function.update L.streams L.handles s, handles := L.handles + 1 } where
  fresh := w.fresh
  unopened h hh := by
    have hlt : L.handles < h := hh
    simp [hlt.ne', w.unopened h hlt.le]
  alive k p hp := by
    obtain ⟨u, hu, hlt⟩ := w.alive k p hp
    exact ⟨u, hu, hlt.trans (Nat.lt_succ_self _)⟩
  unique := w.unique

theorem leakClosed (w : L.Wellformed) (uc : Usecase) : (L.leakClosed uc).Wellformed :=
  (w.leak _).openStream .closed

theorem owns_add (w : L.Wellformed) (hk : L.stored k = none) :
    (L.add k uc).Owns k' h ↔ L.Owns k' h ∨ (k' = k ∧ h = L.handles) := by
  by_cases he : k' = k
  · subst he
    have hno : ¬L.Owns k' h := by
      rintro ⟨p, u, hp, -⟩
      rw [hk] at hp
      cases hp
    rw [or_iff_right hno]
    simp [Owns, add, eq_comm]
  · have hadd : (L.add k uc).Owns k' h ↔ (L.leak { uc with pal_stream := L.handles }).Owns k' h := by
      simp [Owns, add, Ledger.leak, he]
    rw [hadd, w.owns_leak]
    simp [he]

theorem add (w : L.Wellformed) (hk : L.stored k = none) : (L.add k uc).Wellformed where
  fresh := (w.leak _).fresh
  unopened := (w.openStream .started).unopened
  alive k' p hp := by
    by_cases he : k' = k
    · subst he
      have hpa : L.allocated = p := by simpa [Ledger.add] using hp
      subst hpa
      exact ⟨{ uc with pal_stream := L.handles }, by simp [Ledger.add], Nat.lt_succ_self _⟩
    · have hold : L.stored k' = some p := by simpa [Ledger.add, he] using hp
      obtain ⟨u, hu, hlt⟩ := (w.leak { uc with pal_stream := L.handles }).alive k' p hold
      exact ⟨u, hu, hlt.trans (Nat.lt_succ_self _)⟩
  unique i j h hi hj := by
    rcases (w.owns_add hk).mp hi with hi | ⟨hik, hih⟩ <;>
      rcases (w.owns_add hk).mp hj with hj | ⟨hjk, hjh⟩
    · exact w.unique i j h hi hj
    · exact absurd (w.lt_handles hi) (hjh ▸ lt_irrefl _)
    · exact absurd (w.lt_handles hj) (hih ▸ lt_irrefl _)
    · rw [hik, hjk]

theorem stopAndClose (w : L.Wellformed) (hp : L.stored k = some p) :
    (L.stopAndClose (L.handle p)).Wellformed where
  fresh := w.fresh
  unopened h hh := by
    have hne : h ≠ L.handle p := by
      rintro rfl
      exact absurd (w.lt_handles (w.owns_handle hp)) (not_lt.mpr hh)
    have hun : L.streams h = .unopened := w.unopened h hh
    simp [Ledger.stopAndClose, hne, hun]
  alive := w.alive
  unique := w.unique

theorem owns_erase (w : L.Wellformed) (hp : L.stored k = some p) :
    (L.erase k p).Owns k' h ↔ L.Owns k' h ∧ ¬(k' = k ∧ h = L.handle p) := by
  by_cases he : k' = k
  · subst he
    have hno : ¬(L.erase k' p).Owns k' h := by
      rintro ⟨q, u, hq, -⟩
      simp [erase] at hq
    refine iff_of_false hno ?_
    rintro ⟨⟨q, u, hq, hu, rfl⟩, hne⟩
    rw [hp] at hq
    cases hq
    exact hne ⟨rfl, (handle_of_heap hu).symm⟩
  · have hother : ∀ q, L.stored k' = some q → q ≠ p := fun q hq hqp =>
      he (w.stored_inj hq (hqp ▸ hp))
    constructor
    · rintro ⟨q, u, hq, hu, hh⟩
      have hq : L.stored k' = some q := by simpa [erase, he] using hq
      have hu : L.heap q = some u := by simpa [erase, hother q hq] using hu
      exact ⟨⟨q, u, hq, hu, hh⟩, fun h => he h.1⟩
    · rintro ⟨⟨q, u, hq, hu, hh⟩, -⟩
      exact ⟨q, u, by simpa [erase, he] using hq, by simpa [erase, hother q hq] using hu, hh⟩

theorem erase (w : L.Wellformed) (hp : L.stored k = some p) : (L.erase k p).Wellformed where
  fresh q hq := by
    have hne : q ≠ p := by
      rintro rfl
      exact absurd (w.lt_allocated hp) (not_lt.mpr hq)
    have hn : L.heap q = none := w.fresh q hq
    simp [Ledger.erase, hne, hn]
  unopened := w.unopened
  alive k' q hq := by
    have he : k' ≠ k := by
      rintro rfl
      simp [Ledger.erase] at hq
    have hq : L.stored k' = some q := by simpa [Ledger.erase, he] using hq
    have hne : q ≠ p := fun h => he (w.stored_inj hq (h ▸ hp))
    obtain ⟨u, hu, hlt⟩ := w.alive k' q hq
    exact ⟨u, by simpa [Ledger.erase, hne] using hu, hlt⟩
  unique i j h hi hj :=
    w.unique i j h ((w.owns_erase hp).mp hi).1 ((w.owns_erase hp).mp hj).1

theorem release {L' : Ledger} (w : L.Wellformed) (hr : L.Release L') : L'.Wellformed := by
  obtain ⟨k, p, hp, rfl⟩ := hr
  exact (w.stopAndClose hp).erase hp

theorem registered {L' : Ledger} (w : L.Wellformed) (hr : L.Registered k L') : L'.Wellformed := by
  cases hr with
  | kept => exact w
  | added uc free => exact w.add free

theorem broken {L' : Ledger} (w : L.Wellformed) (hr : L.Broken k L') : L'.Wellformed := by
  cases hr with
  | leaked uc => exact w.leak uc
  | leakedClosed uc => exact w.leakClosed uc
  | stopped p there => exact w.stopAndClose there

end Wellformed

/-! ### The usecases that run -/

/-- The usecase under `k` has a started stream. -/
def Runs (L : Ledger) (k : ℕ × ℕ) : Prop := ∃ h, L.Owns k h ∧ L.streams h = .started

namespace Wellformed

variable {k k' : ℕ × ℕ} {p : ℕ} {uc : Usecase}

theorem runs_leak (w : L.Wellformed) : (L.leak uc).Runs k ↔ L.Runs k :=
  exists_congr fun _ => and_congr_left fun _ => w.owns_leak

theorem runs_leakClosed (w : L.Wellformed) : (L.leakClosed uc).Runs k ↔ L.Runs k := by
  refine exists_congr fun h => ?_
  have howns : (L.leakClosed uc).Owns k h ↔ L.Owns k h := w.owns_leak
  rw [howns]
  refine and_congr_right fun ho => ?_
  have hne : h ≠ L.handles := (w.lt_handles ho).ne
  simp [Ledger.leakClosed, hne]

theorem runs_add (w : L.Wellformed) (hk : L.stored k = none) :
    (L.add k uc).Runs k' ↔ L.Runs k' ∨ k' = k := by
  constructor
  · rintro ⟨h, ho, hs⟩
    rcases (w.owns_add hk).mp ho with ho | ⟨rfl, -⟩
    · have hne : h ≠ L.handles := (w.lt_handles ho).ne
      exact Or.inl ⟨h, ho, by simpa [Ledger.add, hne] using hs⟩
    · exact Or.inr rfl
  · rintro (⟨h, ho, hs⟩ | rfl)
    · have hne : h ≠ L.handles := (w.lt_handles ho).ne
      exact ⟨h, (w.owns_add hk).mpr (Or.inl ho), by simpa [Ledger.add, hne] using hs⟩
    · exact ⟨L.handles, (w.owns_add hk).mpr (Or.inr ⟨rfl, rfl⟩), by simp [Ledger.add]⟩

/-- Only the usecase whose stream is closed stops running. -/
theorem runs_stopAndClose (w : L.Wellformed) (hp : L.stored k = some p) :
    (L.stopAndClose (L.handle p)).Runs k' ↔ L.Runs k' ∧ k' ≠ k := by
  have howner : L.Owns k (L.handle p) := w.owns_handle hp
  constructor
  · rintro ⟨h, ho, hs⟩
    have hne : h ≠ L.handle p := by
      rintro rfl
      by_cases hun : L.streams (L.handle p) = .unopened <;> simp [Ledger.stopAndClose, hun] at hs
    refine ⟨⟨h, ho, by simpa [Ledger.stopAndClose, hne] using hs⟩, ?_⟩
    rintro rfl
    -- a usecase has one stream
    obtain ⟨q, u, hq, hu, rfl⟩ := ho
    have hqp : q = p := Option.some.inj (Eq.trans (Eq.symm hq) hp)
    subst hqp
    exact hne (handle_of_heap hu).symm
  · rintro ⟨⟨h, ho, hs⟩, hne⟩
    have hh : h ≠ L.handle p := by
      rintro rfl
      exact hne (w.unique k' k _ ho howner)
    exact ⟨h, ho, by simpa [Ledger.stopAndClose, hh] using hs⟩

end Wellformed

/-! ### Nothing is lost, and nothing is closed twice -/

/-- Every stream that is open is the stream of one stored usecase, every stored usecase has a
started stream, no stream was stopped or closed after it was closed, and every object that is not
deleted is stored. -/
structure OwnedOnce (L : Ledger) : Prop where
  owned : ∀ h, (L.streams h).Live → ∃! k, L.Owns k h
  running : ∀ k p, L.stored k = some p →
    ∃ uc, L.heap p = some uc ∧ L.streams uc.pal_stream = .started
  closedOnce : L.closedAgain = []
  stored : ∀ p, (L.heap p).isSome → ∃ k, L.stored k = some p

/-- All keys are of one kind. -/
def kind (_ : ℕ × ℕ) : Option Unit := some ()

/-- The open streams, on loan to the stored usecases. -/
def streamLeases (L : Ledger) : Leases (ℕ × ℕ) Unit ℕ :=
  ⟨fun _ h => (L.streams h).Live, L.Owns⟩

/-- The objects on the heap, on loan to the maps. -/
def objectLeases (L : Ledger) : Leases (ℕ × ℕ) Unit ℕ :=
  ⟨fun _ p => (L.heap p).isSome, fun k p => L.stored k = some p⟩

variable {k : ℕ × ℕ} {p : ℕ} {uc : Usecase} {L' : Ledger}

theorem streams_handle (hrun : ∀ k p, L.stored k = some p →
    ∃ uc, L.heap p = some uc ∧ L.streams uc.pal_stream = .started) (hp : L.stored k = some p) :
    L.streams (L.handle p) = .started := by
  obtain ⟨uc, huc, hs⟩ := hrun k p hp
  rwa [handle_of_heap huc]

namespace OwnedOnce

theorem streams_covered (o : L.OwnedOnce) : L.streamLeases.Covered kind := by
  intro u h hlive
  obtain ⟨k, ho, -⟩ := o.owned h hlive
  exact ⟨k, rfl, ho⟩

theorem objects_covered (o : L.OwnedOnce) : L.objectLeases.Covered kind := by
  intro u p hp
  obtain ⟨k, hk⟩ := o.stored p hp
  exact ⟨k, rfl, hk⟩

theorem of_leases (w : L.Wellformed) (hs : L.streamLeases.Covered kind)
    (ho : L.objectLeases.Covered kind)
    (hrun : ∀ k p, L.stored k = some p →
      ∃ uc, L.heap p = some uc ∧ L.streams uc.pal_stream = .started)
    (hc : L.closedAgain = []) : L.OwnedOnce where
  owned h hlive := by
    obtain ⟨k, -, hk⟩ := hs () h hlive
    exact ⟨k, hk, fun k' hk' => w.unique k' k h hk' hk⟩
  running := hrun
  closedOnce := hc
  stored p hp := by
    obtain ⟨k, -, hk⟩ := ho () p hp
    exact ⟨k, hk⟩

end OwnedOnce

/-! ### Taking and giving back -/

theorem release_object (hp : L.stored k = some p) :
    Leases.Release kind k p L.objectLeases (L.erase k p).objectLeases where
  taken _ q := by
    by_cases hq : q = p
    · subst hq
      simp [objectLeases, Ledger.erase, kind]
    · simp [objectLeases, Ledger.erase, hq]
  holds k' q := by
    by_cases he : k' = k
    · subst he
      have hgone : ¬Function.update L.stored k' none k' = some q := by simp
      refine iff_of_false hgone ?_
      rintro ⟨hq, hne⟩
      exact hne ⟨rfl, Option.some.inj (Eq.trans (Eq.symm hq) hp)⟩
    · simp [objectLeases, Ledger.erase, he]
  held := hp

namespace Wellformed

theorem acquire_stream (w : L.Wellformed) (hk : L.stored k = none) :
    Leases.Acquire kind k L.handles L.streamLeases (L.add k uc).streamLeases where
  free _ _ := by
    have h := w.unopened L.handles le_rfl
    simp [streamLeases, StreamStatus.Live, h]
  taken _ h := by
    by_cases hh : h = L.handles
    · subst hh
      simp [streamLeases, Ledger.add, StreamStatus.Live, kind]
    · simp [streamLeases, Ledger.add, hh]
  holds _ _ := w.owns_add hk
  known := rfl

theorem acquire_object (w : L.Wellformed) (hk : L.stored k = none) :
    Leases.Acquire kind k L.allocated L.objectLeases (L.add k uc).objectLeases where
  free _ _ := by
    have h := w.fresh L.allocated le_rfl
    simp [objectLeases, h]
  taken _ p := by
    by_cases hp : p = L.allocated
    · subst hp
      simp [objectLeases, Ledger.add, kind]
    · simp [objectLeases, Ledger.add, hp]
  holds k' p := by
    by_cases he : k' = k
    · subst he
      have hno : ¬L.stored k' = some p := by simp [hk]
      change Function.update L.stored k' (some L.allocated) k' = some p ↔
        L.stored k' = some p ∨ (k' = k' ∧ p = L.allocated)
      rw [Function.update_self, Option.some.injEq, or_iff_right hno]
      exact ⟨fun h => ⟨rfl, h.symm⟩, fun h => h.2.symm⟩
    · simp [objectLeases, Ledger.add, he]
  known := rfl

theorem release_stream (w : L.Wellformed) (hp : L.stored k = some p)
    (hs : L.streams (L.handle p) = .started) :
    Leases.Release kind k (L.handle p) L.streamLeases
      ((L.stopAndClose (L.handle p)).erase k p).streamLeases where
  taken _ h := by
    by_cases hh : h = L.handle p
    · subst hh
      simp [streamLeases, Ledger.erase, Ledger.stopAndClose, hs, StreamStatus.Live, kind]
    · simp [streamLeases, Ledger.erase, Ledger.stopAndClose, hh]
  holds _ _ := (w.stopAndClose hp).owns_erase hp
  held := w.owns_handle hp

end Wellformed

/-! ### What keeps the law, and what does not -/

namespace OwnedOnce

theorem add (o : L.OwnedOnce) (w : L.Wellformed) (hk : L.stored k = none) :
    (L.add k uc).OwnedOnce := by
  refine of_leases (w.add hk) (o.streams_covered.acquire (w.acquire_stream hk))
    (o.objects_covered.acquire (w.acquire_object hk)) ?_ o.closedOnce
  intro k' p hp
  by_cases he : k' = k
  · subst he
    have hpa : L.allocated = p := by simpa [Ledger.add] using hp
    subst hpa
    exact ⟨{ uc with pal_stream := L.handles }, by simp [Ledger.add], by simp [Ledger.add]⟩
  · have hold : L.stored k' = some p := by simpa [Ledger.add, he] using hp
    obtain ⟨u, hu, hs⟩ := o.running k' p hold
    have hpa : p ≠ L.allocated := (w.lt_allocated hold).ne
    have hlt : u.pal_stream ≠ L.handles := (w.lt_handles ⟨p, u, hold, hu, rfl⟩).ne
    exact ⟨u, by simp [Ledger.add, hpa, hu], by simp [Ledger.add, hlt, hs]⟩

theorem release (o : L.OwnedOnce) (w : L.Wellformed) (hr : L.Release L') : L'.OwnedOnce := by
  have w' := w.release hr
  obtain ⟨k, p, hp, rfl⟩ := hr
  have hst := streams_handle o.running hp
  refine of_leases w' (o.streams_covered.release (w.release_stream hp hst))
    (o.objects_covered.release (release_object hp)) ?_ ?_
  · intro k' q hq
    have he : k' ≠ k := by
      rintro rfl
      simp [Ledger.erase] at hq
    have hold : L.stored k' = some q := by
      simpa [Ledger.erase, Ledger.stopAndClose, he] using hq
    have hne : q ≠ p := fun h => he (w.stored_inj hold (h ▸ hp))
    obtain ⟨u, hu, hs⟩ := o.running k' q hold
    -- two stored usecases have two streams
    have hother : u.pal_stream ≠ L.handle p := fun h =>
      he (w.unique k' k _ ⟨q, u, hold, hu, h⟩ (w.owns_handle hp))
    exact ⟨u, by simp [Ledger.erase, Ledger.stopAndClose, hne, hu],
      by simp [Ledger.erase, Ledger.stopAndClose, hother, hs]⟩
  · simp [Ledger.erase, Ledger.stopAndClose, hst, o.closedOnce]

theorem registered (o : L.OwnedOnce) (w : L.Wellformed) (hr : L.Registered k L') :
    L'.OwnedOnce := by
  cases hr with
  | kept => exact o
  | added uc free => exact o.add w free

end OwnedOnce

/-- An object that is left behind is in no map, and a stored usecase whose stream was closed has no
started one. -/
theorem Wellformed.not_ownedOnce (w : L.Wellformed) (hb : L.Broken k L') : ¬L'.OwnedOnce := by
  intro o
  have hlost : ¬∃ k, L.stored k = some L.allocated := by
    rintro ⟨k, hk⟩
    exact lt_irrefl _ (w.lt_allocated hk)
  cases hb with
  | leaked uc => exact hlost (o.stored L.allocated (by simp [Ledger.leak]))
  | leakedClosed uc => exact hlost (o.stored L.allocated (by simp [Ledger.leakClosed, Ledger.leak]))
  | stopped p there =>
    have hs : (L.stopAndClose (L.handle p)).streams (L.handle p) = .started :=
      streams_handle o.running there
    by_cases hun : L.streams (L.handle p) = .unopened <;> simp [Ledger.stopAndClose, hun] at hs

end Ledger

end AudioReachPal.Context
