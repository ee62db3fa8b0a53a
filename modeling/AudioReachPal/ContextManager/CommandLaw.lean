import AudioReachPal.ContextManager.CommandQueue
import Mathlib.Data.List.Nodup
import Mathlib.Logic.Function.Basic
import Mathlib.Order.Nat

/-!
# What the command queue must keep

Every command that arrives is processed once and in order, unless an SSR-down empties it from the
queue; none is `NULL`; what a command has in hand is not deleted; and the thread does not wait for
ever once it is told to exit. The numbering of the commands and the mutex of the clients are kept by
every step; the rest is kept by the steps that meet `Move.Ok`.
-/

namespace AudioReachPal.Context.Queue

open AudioReachPal.Lib

/-! ### The clients in the map -/

namespace Clients

/-- The map has clients that are not deleted, each once, and addresses are new when they are given
out. -/
structure Ok (C : Clients) : Prop where
  alive : ∀ k p : ℕ, C.see_clients[k]? = some p → C.deleted p = false ∧ p < C.allocated
  inj : ∀ k k' p : ℕ, C.see_clients[k]? = some p → C.see_clients[k']? = some p → k = k'
  fresh : ∀ p, C.allocated ≤ p → C.deleted p = false

variable {C C' : Clients} {k p : ℕ}

theorem Ok.congr (h : C.Ok) (hm : C'.see_clients = C.see_clients) (hd : C'.deleted = C.deleted)
    (ha : C'.allocated = C.allocated) : C'.Ok := by
  constructor
  · rw [hm, hd, ha]
    exact h.alive
  · rw [hm]
    exact h.inj
  · rw [hd, ha]
    exact h.fresh

theorem getElem?_create {k' : ℕ} : (C.create k).see_clients[k']? =
    if k = k' then some C.allocated else C.see_clients[k']? := by
  simp [create, Std.TreeMap.getElem?_insert]

theorem getElem?_erase {k' : ℕ} : (C.erase k p).see_clients[k']? =
    if k = k' then none else C.see_clients[k']? := by
  simp [erase, Std.TreeMap.getElem?_erase]

theorem Ok.create (h : C.Ok) : (C.create k).Ok := by
  have hlt : C.allocated < (C.create k).allocated := Nat.lt_succ_self _
  constructor
  · intro k' p hp
    rw [getElem?_create] at hp
    by_cases hk : k = k'
    · rw [if_pos hk] at hp
      cases hp
      exact ⟨h.fresh _ le_rfl, hlt⟩
    · rw [if_neg hk] at hp
      obtain ⟨hd, hp⟩ := h.alive k' p hp
      exact ⟨hd, hp.trans hlt⟩
  · intro i j p hi hj
    rw [getElem?_create] at hi hj
    by_cases hki : k = i <;> by_cases hkj : k = j
    · exact hki.symm.trans hkj
    · rw [if_pos hki] at hi
      rw [if_neg hkj] at hj
      cases hi
      exact absurd (h.alive j _ hj).2 (lt_irrefl _)
    · rw [if_neg hki] at hi
      rw [if_pos hkj] at hj
      cases hj
      exact absurd (h.alive i _ hi).2 (lt_irrefl _)
    · rw [if_neg hki] at hi
      rw [if_neg hkj] at hj
      exact h.inj i j p hi hj
  · intro p hp
    exact h.fresh p (Nat.le_of_succ_le hp)

theorem Ok.erase (h : C.Ok) (hk : C.see_clients[k]? = some p) : (C.erase k p).Ok := by
  constructor
  · intro k' q hq
    rw [getElem?_erase] at hq
    by_cases hkk : k = k'
    · rw [if_pos hkk] at hq
      cases hq
    · rw [if_neg hkk] at hq
      have hne : q ≠ p := by
        rintro rfl
        exact hkk (h.inj k k' q hk hq)
      obtain ⟨hd, hlt⟩ := h.alive k' q hq
      exact ⟨by simp [Clients.erase, hne, hd], hlt⟩
  · intro i j q hi hj
    rw [getElem?_erase] at hi hj
    by_cases hki : k = i
    · rw [if_pos hki] at hi
      cases hi
    · by_cases hkj : k = j
      · rw [if_pos hkj] at hj
        cases hj
      · rw [if_neg hki] at hi
        rw [if_neg hkj] at hj
        exact h.inj i j q hi hj
  · intro q hq
    have hne : q ≠ p := by
      rintro rfl
      exact absurd (h.alive k q hk).2 (not_lt.mpr hq)
    have hd : C.deleted q = false := h.fresh q hq
    simp [Clients.erase, hne, hd]

theorem head_mem (h : C.see_clients.toList.head? = some (k, p)) : C.see_clients[k]? = some p :=
  Std.TreeMap.mem_toList_iff_getElem?_eq_some.mp (List.mem_of_mem_head? h)

/-- The entry behind another one has another client. -/
theorem entryAfter_mem {k' p' : ℕ} (h : C.entryAfter k = some (k', p')) :
    C.see_clients[k']? = some p' ∧ k ≠ k' := by
  have hmem := List.mem_of_find?_eq_some h
  have hlt : k < k' := by simpa using List.find?_some h
  exact ⟨Std.TreeMap.mem_toList_iff_getElem?_eq_some.mp hmem, hlt.ne⟩

/-- What a step of the party `me` does to the clients, as far as the others depend on it: `gone` is
the client it deletes, and the holder of the mutex loses neither that nor its usecases. -/
structure Effect (me : Party) (gone : Option ℕ) (C C' : Clients) : Prop where
  entries : ∀ k p : ℕ, C.see_clients[k]? = some p → gone ≠ some p → C'.see_clients[k]? = some p
  deleted : ∀ p, C'.deleted p = false ↔ C.deleted p = false ∧ gone ≠ some p
  mutex : ∀ q, q ≠ me → C.see_client_mutex = some q → C'.see_client_mutex = some q
  usecases : ∀ q, q ≠ me → C.see_client_mutex = some q → C'.usecases = C.usecases

variable {me : Party}

theorem Effect.refl : Effect me none C C :=
  ⟨fun _ _ h _ => h, fun _ => by simp, fun _ _ h => h, fun _ _ _ => rfl⟩

theorem Effect.lock (h : C.see_client_mutex = none) : Effect me none C (C.lock me) := by
  refine ⟨fun _ _ h _ => h, fun p => ?_, ?_, fun _ _ _ => rfl⟩
  · change C.deleted p = false ↔ _
    simp
  · intro q _ hq
    rw [h] at hq
    cases hq

theorem Effect.unlock (h : C.see_client_mutex = some me) : Effect me none C C.unlock := by
  refine ⟨fun _ _ h _ => h, fun p => ?_, ?_, fun _ _ _ => rfl⟩
  · change C.deleted p = false ↔ _
    simp
  · intro q hne hq
    rw [h] at hq
    cases hq
    exact absurd rfl hne

theorem Effect.setUsecases {l : List ℕ} (h : C.see_client_mutex = some me) :
    Effect me none C (C.setUsecases p l) := by
  have hno : ∀ q, q ≠ me → C.see_client_mutex ≠ some q := by
    intro q hne hq
    rw [h] at hq
    cases hq
    exact hne rfl
  refine ⟨fun _ _ h _ => h, fun p => ?_, fun q hne hq => absurd hq (hno q hne),
    fun q hne hq => absurd hq (hno q hne)⟩
  change C.deleted p = false ↔ _
  simp

theorem Effect.create (h : C.see_clients[k]? = none) : Effect me none C (C.create k) := by
  refine ⟨?_, fun p => ?_, fun _ _ h => h, fun _ _ _ => rfl⟩
  · intro k' p hp _
    have hne : k ≠ k' := by
      rintro rfl
      rw [h] at hp
      cases hp
    rw [getElem?_create, if_neg hne]
    exact hp
  · change C.deleted p = false ↔ _
    simp

theorem Effect.erase (h : C.see_clients[k]? = some p) :
    Effect me (some p) C (C.erase k p) := by
  refine ⟨?_, ?_, fun _ _ h => h, fun _ _ _ => rfl⟩
  · intro k' q hq hne
    have hkk : k ≠ k' := by
      rintro rfl
      rw [h] at hq
      exact hne hq
    rw [getElem?_erase, if_neg hkk]
    exact hq
  · intro q
    by_cases hq : q = p
    · subst hq
      simp [Clients.erase]
    · simp [Clients.erase, hq, Ne.symm hq]

end Clients

/-! ### A close-all -/

namespace Closer

/-- The client that the next step deletes. -/
def gone : Closer → Option ℕ
  | .erasing _ p => some p
  | _ => none

/-- The mutex of the clients is held. -/
def Inside (cl : Closer) : Prop := ∃ k p, cl = .deleting k p

/-- The map has the entry that the loop stands at, unless its client is deleted. -/
def Stands (C : Clients) (cl : Closer) : Prop :=
  ∀ k p, cl.entry = some (k, p) → C.deleted p = false → C.see_clients[k]? = some p

variable {me : Party} {C C' : Clients} {cl cl' : Closer} {gone : Option ℕ}

theorem Stands.effect (h : cl.Stands C) (e : Clients.Effect me gone C C') : cl.Stands C' := by
  intro k p hp hd
  obtain ⟨hd, hne⟩ := (e.deleted p).mp hd
  exact e.entries k p (h k p hp hd) hne

/-- One step of a close-all. -/
theorem step_spec (ok : C.Ok) (hst : cl.Stands C)
    (hin : cl.Inside → C.see_client_mutex = some me) (h : cl.step me C = some (C', cl')) :
    C'.Ok ∧ Clients.Effect me cl.gone C C' ∧ cl'.Stands C' ∧
      (cl'.Inside → C'.see_client_mutex = some me) ∧
      ∀ p, cl'.client = some p → C'.deleted p = false := by
  cases cl with
  | begin =>
    cases h
    refine ⟨ok, .refl, ?_, by simp [Inside], ?_⟩
    · intro k p hp _
      exact Clients.head_mem hp
    · intro p hp
      obtain ⟨⟨k, p⟩, hhead, rfl⟩ := Option.map_eq_some_iff.mp hp
      exact (ok.alive k p (Clients.head_mem hhead)).1
  | next it_see_client =>
    cases it_see_client with
    | none =>
      cases h
      refine ⟨ok, .refl, ?_, ?_, ?_⟩ <;> simp [Stands, entry, Inside, client]
    | some e =>
      obtain ⟨k, p⟩ := e
      unfold step at h
      dsimp only at h
      by_cases hd : C.deleted p = true
      · rw [if_pos hd] at h
        cases h
      · rw [if_neg hd] at h
        cases h
        have hd : C.deleted p = false := by simpa using hd
        refine ⟨ok, .refl, ?_, by simp [Inside], ?_⟩
        · rintro _ _ ⟨⟩ -
          exact hst k p rfl hd
        · rintro _ ⟨⟩
          exact hd
  | locking k p =>
    unfold step at h
    dsimp only at h
    by_cases hd : C.deleted p = true
    · rw [if_pos hd] at h
      cases h
    · rw [if_neg hd] at h
      have hd : C.deleted p = false := by simpa using hd
      by_cases hm : C.see_client_mutex = none
      · rw [if_pos hm] at h
        cases h
        refine ⟨ok.congr rfl rfl rfl, .lock hm, ?_, fun _ => rfl, ?_⟩
        · rintro _ _ ⟨⟩ h
          exact hst k p rfl h
        · rintro _ ⟨⟩
          exact hd
      · rw [if_neg hm] at h
        cases h
  | deleting k p =>
    have hm : C.see_client_mutex = some me := hin ⟨k, p, rfl⟩
    unfold step at h
    dsimp only at h
    by_cases hd : C.deleted p = true
    · rw [if_pos hd] at h
      cases h
    · rw [if_neg hd] at h
      have hd : C.deleted p = false := by simpa using hd
      have hstay : ∀ k' q, some (k, p) = some (k', q) → C.see_clients[k']? = some q := by
        rintro _ _ ⟨⟩
        exact hst k p rfl hd
      cases hu : C.usecases p with
      | nil =>
        rw [hu] at h
        cases h
        refine ⟨ok.congr rfl rfl rfl, .unlock hm, fun k' q hq _ => hstay k' q hq,
          by simp [Inside], ?_⟩
        rintro _ ⟨⟩
        exact hd
      | cons u us =>
        rw [hu] at h
        cases h
        refine ⟨ok.congr rfl rfl rfl, .setUsecases hm, fun k' q hq _ => hstay k' q hq,
          fun _ => hm, ?_⟩
        rintro _ ⟨⟩
        exact hd
  | erasing k p =>
    unfold step at h
    dsimp only at h
    by_cases hd : C.deleted p = true
    · rw [if_pos hd] at h
      cases h
    · rw [if_neg hd] at h
      cases h
      have hk : C.see_clients[k]? = some p := hst k p rfl (by simpa using hd)
      have hafter : ∀ k' p', C.entryAfter k = some (k', p') →
          (C.erase k p).see_clients[k']? = some p' := by
        intro k' p' h
        obtain ⟨hmem, hne⟩ := Clients.entryAfter_mem h
        rw [Clients.getElem?_erase, if_neg hne]
        exact hmem
      refine ⟨ok.erase hk, .erase hk, fun k' p' h _ => hafter k' p' h, by simp [Inside], ?_⟩
      intro p' hp'
      obtain ⟨⟨k', p'⟩, h, rfl⟩ := Option.map_eq_some_iff.mp hp'
      exact ((ok.erase hk).alive k' p' (hafter k' p' h)).1
  | closed => cases h

end Closer

/-! ### The processing of a command -/

namespace Processing

def gone : Processing → Option ℕ
  | .closing cl => cl.gone
  | _ => none

def Inside : Processing → Prop
  | .locked _ _ | .using_ _ _ _ | .unlocking _ => True
  | .closing cl => cl.Inside
  | .lookup _ | .locking _ _ | .done => False

def Stands (C : Clients) (pr : Processing) : Prop := ∀ cl, pr = .closing cl → cl.Stands C

variable {ok : Bool} {C C' : Clients} {pr pr' : Processing}

/-- One step of a command. -/
theorem step_spec (hok : C.Ok) (hst : pr.Stands C)
    (hin : pr.Inside → C.see_client_mutex = some .worker)
    (h : pr.step ok C = some (C', pr')) :
    C'.Ok ∧ Clients.Effect .worker pr.gone C C' ∧ pr'.Stands C' ∧
      (pr'.Inside → C'.see_client_mutex = some .worker) ∧
      (∀ p, pr'.client = some p → C'.deleted p = false) ∧
      ∀ p uc, pr'.usecase = some (p, uc) → uc ∈ C'.usecases p := by
  cases pr with
  | lookup c =>
    cases c with
    | CommandRegister see_id usecase_id =>
      unfold step at h
      dsimp only at h
      cases hg : C.see_clients[see_id]? with
      | some p =>
        rw [hg] at h
        cases h
        refine ⟨hok, .refl, by simp [Stands], by simp [Inside], ?_, by simp [usecase]⟩
        rintro _ ⟨⟩
        exact (hok.alive _ _ hg).1
      | none =>
        rw [hg] at h
        cases h
        refine ⟨hok.create, .create hg, by simp [Stands], by simp [Inside], ?_, by simp [usecase]⟩
        rintro _ ⟨⟩
        exact hok.fresh _ le_rfl
    | CommandDeregister see_id usecase_id =>
      unfold step at h
      dsimp only at h
      cases hg : C.see_clients[see_id]? with
      | some p =>
        rw [hg] at h
        cases h
        refine ⟨hok, .refl, by simp [Stands], by simp [Inside], ?_, by simp [usecase]⟩
        rintro _ ⟨⟩
        exact (hok.alive _ _ hg).1
      | none =>
        rw [hg] at h
        cases h
        exact ⟨hok, .refl, by simp [Stands], by simp [Inside], by simp [client], by simp [usecase]⟩
    | CommandGetContextIDs see_id =>
      cases h
      exact ⟨hok, .refl, by simp [Stands], by simp [Inside], by simp [client], by simp [usecase]⟩
    | CommandCloseAll =>
      cases h
      refine ⟨hok, .refl, ?_, by simp [Inside, Closer.Inside],
        by simp [client, Closer.client, Closer.entry], by simp [usecase]⟩
      rintro _ ⟨⟩
      simp [Closer.Stands, Closer.entry]
  | locking p c =>
    unfold step at h
    dsimp only at h
    by_cases hd : C.deleted p = true
    · rw [if_pos hd] at h
      cases h
    · rw [if_neg hd] at h
      have hd : C.deleted p = false := by simpa using hd
      by_cases hm : C.see_client_mutex = none
      · rw [if_pos hm] at h
        cases h
        refine ⟨hok.congr rfl rfl rfl, .lock hm, by simp [Stands], fun _ => rfl, ?_,
          by simp [usecase]⟩
        rintro _ ⟨⟩
        exact hd
      · rw [if_neg hm] at h
        cases h
  | locked p c =>
    have hm : C.see_client_mutex = some .worker := hin trivial
    unfold step at h
    dsimp only at h
    by_cases hd : C.deleted p = true
    · rw [if_pos hd] at h
      cases h
    · rw [if_neg hd] at h
      cases h
      refine ⟨hok, .refl, by simp [Stands], fun _ => hm, ?_, ?_⟩
      · rintro _ ⟨⟩
        simpa using hd
      · intro q uc hq
        cases hf : (C.usecases p).find? (· = c.usecase_id) with
        | none => simp [usecase, hf] at hq
        | some u =>
          rw [hf] at hq
          cases hq
          exact List.mem_of_find?_eq_some hf
  | using_ p c uc =>
    have hm : C.see_client_mutex = some .worker := hin trivial
    unfold step at h
    dsimp only at h
    by_cases hd : C.deleted p = true
    · rw [if_pos hd] at h
      cases h
    · rw [if_neg hd] at h
      cases h
      refine ⟨hok.congr rfl rfl rfl, .setUsecases hm, by simp [Stands], fun _ => hm, ?_,
        by simp [usecase]⟩
      rintro _ ⟨⟩
      exact eq_false_of_ne_true hd
  | unlocking p =>
    have hm : C.see_client_mutex = some .worker := hin trivial
    unfold step at h
    dsimp only at h
    by_cases hd : C.deleted p = true
    · rw [if_pos hd] at h
      cases h
    · rw [if_neg hd] at h
      cases h
      exact ⟨hok.congr rfl rfl rfl, .unlock hm, by simp [Stands], by simp [Inside],
        by simp [client], by simp [usecase]⟩
  | closing cl =>
    by_cases hcl : cl = .closed
    · subst hcl
      cases h
      exact ⟨hok, .refl, by simp [Stands], by simp [Inside], by simp [client], by simp [usecase]⟩
    · have h : (cl.step .worker C).map (fun r => (r.1, Processing.closing r.2)) =
          some (C', pr') := by
        cases cl with
        | closed => exact absurd rfl hcl
        | begin | next _ | locking _ _ | deleting _ _ | erasing _ _ => exact h
      obtain ⟨⟨D, cl'⟩, hstep, heq⟩ := Option.map_eq_some_iff.mp h
      cases heq
      obtain ⟨hok', he, hst', hin', halive⟩ := Closer.step_spec hok (hst cl rfl) hin hstep
      refine ⟨hok', he, ?_, hin', halive, by simp [usecase]⟩
      rintro _ ⟨⟩
      exact hst'
  | done => cases h

end Processing

/-! ### The clients in a state -/

namespace Closer

/-- A loop of the party `me` fits the clients: its entry is there, and it holds the mutex where it
should. -/
structure Fits (me : Party) (C : Clients) (cl : Closer) : Prop where
  stands : cl.Stands C
  inside : cl.Inside → C.see_client_mutex = some me

theorem fits_begin {me : Party} {C : Clients} : begin.Fits me C :=
  ⟨by simp [Stands, entry], by simp [Inside]⟩

theorem Fits.effect {me q : Party} {C C' : Clients} {cl : Closer} {gone : Option ℕ}
    (h : cl.Fits q C) (hne : q ≠ me) (e : Clients.Effect me gone C C') : cl.Fits q C' :=
  ⟨h.stands.effect e, fun hin => e.mutex q hne (h.inside hin)⟩

end Closer

namespace Processing

/-- A command fits the clients: as a loop does, and its usecase is there. -/
structure Fits (C : Clients) (pr : Processing) : Prop where
  stands : pr.Stands C
  inside : pr.Inside → C.see_client_mutex = some .worker
  usecase : ∀ p uc, pr.usecase = some (p, uc) → uc ∈ C.usecases p

theorem fits_lookup {C : Clients} {c : RequestCommand} : (lookup c).Fits C :=
  ⟨by simp [Stands], by simp [Inside], by simp [Processing.usecase]⟩

/-- Nobody else deletes a usecase while the command holds the mutex. -/
theorem Fits.effect {me : Party} {C C' : Clients} {pr : Processing} {gone : Option ℕ}
    (h : pr.Fits C) (hne : Party.worker ≠ me) (e : Clients.Effect me gone C C') : pr.Fits C' := by
  refine ⟨fun cl hcl => (h.stands cl hcl).effect e, fun hin => e.mutex _ hne (h.inside hin), ?_⟩
  intro p uc hu
  have hin : pr.Inside := by
    cases pr with
    | using_ p c uc => trivial
    | lookup _ | locking _ _ | locked _ _ | unlocking _ | closing _ | done =>
      simp [Processing.usecase] at hu
  rw [e.usecases _ hne (h.inside hin)]
  exact h.usecase p uc hu

end Processing

def Worker.client : Worker → Option ℕ
  | .processing pr => pr.client
  | _ => none

def Worker.usecase : Worker → Option (ℕ × ℕ)
  | .processing pr => pr.usecase
  | _ => none

/-- Every loop and the command that is processed fit the clients. -/
structure ClientInv (s : State) : Prop where
  ok : s.clients.Ok
  worker : ∀ pr, s.worker = .processing pr → pr.Fits s.clients
  ssr : ∀ cl, s.ssr = .closing cl → cl.Fits .ssr s.clients
  deinit : ∀ cl, s.deinit = .closing cl → cl.Fits .deinit s.clients

section ClientInv

variable {s t : State} {C : Clients} {ok : Bool} {pr pr' : Processing} {cl cl' : Closer}

/-- A move that is not about the clients, and that takes nothing of theirs in hand. -/
theorem ClientInv.frame (i : ClientInv s) (hc : t.clients = s.clients)
    (hw : t.worker = s.worker ∨ ∀ pr, t.worker = .processing pr → ∃ c, pr = .lookup c)
    (hs : t.ssr = s.ssr ∨ ∀ cl, t.ssr = .closing cl → cl = .begin)
    (hd : t.deinit = s.deinit ∨ ∀ cl, t.deinit = .closing cl → cl = .begin) : ClientInv t := by
  constructor
  · rw [hc]
    exact i.ok
  · intro pr hpr
    rw [hc]
    rcases hw with hw | hw
    · exact i.worker pr (hw ▸ hpr)
    · obtain ⟨c, rfl⟩ := hw pr hpr
      exact Processing.fits_lookup
  · intro cl hcl
    rw [hc]
    rcases hs with hs | hs
    · exact i.ssr cl (hs ▸ hcl)
    · rw [hs cl hcl]
      exact Closer.fits_begin
  · intro cl hcl
    rw [hc]
    rcases hd with hd | hd
    · exact i.deinit cl (hd ▸ hcl)
    · rw [hd cl hcl]
      exact Closer.fits_begin

theorem ClientInv.stepWorker (i : ClientInv s) (hw : s.worker = .processing pr)
    (h : pr.step ok s.clients = some (C, pr')) :
    ClientInv { s with clients := C, worker := .processing pr' } ∧
      ∀ p, pr'.client = some p → C.deleted p = false := by
  have f := i.worker pr hw
  obtain ⟨hok, he, hst, hin, halive, huse⟩ := Processing.step_spec i.ok f.stands f.inside h
  refine ⟨⟨hok, ?_, ?_, ?_⟩, halive⟩
  · rintro _ ⟨⟩
    exact ⟨hst, hin, huse⟩
  · intro cl hcl
    exact (i.ssr cl hcl).effect (by decide) he
  · intro cl hcl
    exact (i.deinit cl hcl).effect (by decide) he

theorem ClientInv.stepSsr (i : ClientInv s) (hs : s.ssr = .closing cl)
    (h : cl.step .ssr s.clients = some (C, cl')) :
    ClientInv { s with clients := C, ssr := .closing cl' } ∧
      ∀ p, C.deleted p = false ↔ s.clients.deleted p = false ∧ cl.gone ≠ some p := by
  have f := i.ssr cl hs
  obtain ⟨hok, he, hst, hin, -⟩ := Closer.step_spec i.ok f.stands f.inside h
  refine ⟨⟨hok, ?_, ?_, ?_⟩, he.deleted⟩
  · intro pr hpr
    exact (i.worker pr hpr).effect (by decide) he
  · rintro _ ⟨⟩
    exact ⟨hst, hin⟩
  · intro cl hcl
    exact (i.deinit cl hcl).effect (by decide) he

theorem ClientInv.stepDeInit (i : ClientInv s) (hd : s.deinit = .closing cl)
    (h : cl.step .deinit s.clients = some (C, cl')) :
    ClientInv { s with clients := C, deinit := .closing cl' } ∧
      ∀ p, C.deleted p = false ↔ s.clients.deleted p = false ∧ cl.gone ≠ some p := by
  have f := i.deinit cl hd
  obtain ⟨hok, he, hst, hin, -⟩ := Closer.step_spec i.ok f.stands f.inside h
  refine ⟨⟨hok, ?_, ?_, ?_⟩, he.deleted⟩
  · intro pr hpr
    exact (i.worker pr hpr).effect (by decide) he
  · intro cl hcl
    exact (i.ssr cl hcl).effect (by decide) he
  · rintro _ ⟨⟩
    exact ⟨hst, hin⟩

end ClientInv

/-! ### The commands in a state -/

/-- The commands are numbered by their arrival, and those that no SSR-down has emptied from the
queue were taken out or are still there, in that order. -/
structure QueueInv (s : State) : Prop where
  inOrder : s.arrived.filter (fun e => e.1 ∉ s.emptied) = s.processed ++ s.request_cmd_queue
  numbered : s.arrived.map Prod.fst = List.range s.arrived.length
  known : ∀ n ∈ s.emptied, n < s.arrived.length

section QueueInv

variable {s t : State}

theorem QueueInv.frame (i : QueueInv s) (ha : t.arrived = s.arrived) (he : t.emptied = s.emptied)
    (hp : t.processed ++ t.request_cmd_queue = s.processed ++ s.request_cmd_queue) :
    QueueInv t := by
  constructor
  · rw [ha, he, hp]
    exact i.inOrder
  · rw [ha]
    exact i.numbered
  · rw [ha, he]
    exact i.known

theorem QueueInv.nodup (i : QueueInv s) : (s.arrived.map Prod.fst).Nodup := by
  rw [i.numbered]
  exact List.nodup_range

/-- No number is both of a processed command and of one in the queue. -/
theorem QueueInv.disjoint (i : QueueInv s) :
    ((s.processed ++ s.request_cmd_queue).map Prod.fst).Nodup := by
  rw [← i.inOrder]
  exact i.nodup.sublist (List.filter_sublist.map Prod.fst)

theorem QueueInv.push (i : QueueInv s) {c : Option RequestCommand}
    (ha : t.arrived = s.arrived ++ [(s.arrived.length, c)]) (he : t.emptied = s.emptied)
    (hp : t.processed = s.processed)
    (hq : t.request_cmd_queue = s.request_cmd_queue ++ [(s.arrived.length, c)]) : QueueInv t := by
  have hnew : s.arrived.length ∉ s.emptied := fun h => lt_irrefl _ (i.known _ h)
  constructor
  · rw [ha, he, hp, hq, List.filter_append, i.inOrder, List.append_assoc]
    simp [hnew]
  · rw [ha, List.map_append, i.numbered, List.length_append]
    simp [List.range_succ]
  · intro n hn
    rw [he] at hn
    rw [ha, List.length_append]
    exact (i.known n hn).trans_le (Nat.le_add_right _ _)

theorem QueueInv.empty (i : QueueInv s) (ha : t.arrived = s.arrived)
    (he : t.emptied = s.emptied ++ s.request_cmd_queue.map Prod.fst)
    (hp : t.processed = s.processed) (hq : t.request_cmd_queue = []) : QueueInv t := by
  have hnodup := i.disjoint
  rw [List.map_append] at hnodup
  have hdisj := List.disjoint_of_nodup_append hnodup
  constructor
  · have hsplit : s.arrived.filter (fun e => e.1 ∉ t.emptied) =
        (s.arrived.filter fun e => e.1 ∉ s.emptied).filter fun e =>
          e.1 ∉ s.request_cmd_queue.map Prod.fst := by
      rw [List.filter_filter, he]
      refine List.filter_congr fun e _ => ?_
      rw [Bool.eq_iff_iff]
      simp [and_comm]
    rw [ha, hsplit, i.inOrder, List.filter_append, hp, hq, List.append_nil]
    have hkeep : (s.processed.filter fun e => e.1 ∉ s.request_cmd_queue.map Prod.fst) =
        s.processed := by
      rw [List.filter_eq_self]
      intro e hmem
      simpa using hdisj (List.mem_map_of_mem (f := Prod.fst) hmem)
    have hdrop : (s.request_cmd_queue.filter fun e =>
        e.1 ∉ s.request_cmd_queue.map Prod.fst) = [] := by
      rw [List.filter_eq_nil_iff]
      intro e hmem
      have := List.mem_map_of_mem (f := Prod.fst) hmem
      simpa using this
    rw [hkeep, hdrop, List.append_nil]
  · rw [ha]
    exact i.numbered
  · intro n hn
    rw [he, List.mem_append] at hn
    rw [ha]
    rcases hn with hn | hn
    · exact i.known n hn
    · have hmem : n ∈ (s.processed ++ s.request_cmd_queue).map Prod.fst := by
        rw [List.map_append]
        exact List.mem_append_right _ hn
      rw [← i.inOrder] at hmem
      have hmem := (List.filter_sublist.map Prod.fst).subset hmem
      rw [i.numbered] at hmem
      exact List.mem_range.mp hmem

end QueueInv

/-! ### The law -/

def Callback.InFlight : Callback → Prop
  | .locking _ | .locked _ | .notify => True
  | .idle | .unlocking => False

def DeInit.Exiting : DeInit → Prop
  | .notify | .join | .done => True
  | .idle | .closing _ | .stopProxy | .setExit => False

/-- What the queue must keep: the commands that arrived and were not emptied from the queue are
those taken out and those still in it, in order, each once; no `NULL` was taken out; none is left
when the thread has ended; the client that a command has in hand, if only by the iterator of its
close-all, and its usecase are not deleted; and a thread that waits when it is told to exit will
still be notified. -/
structure Law (s : State) : Prop where
  inOrder : s.arrived.filter (fun e => e.1 ∉ s.emptied) = s.processed ++ s.request_cmd_queue
  once : (s.arrived.map Prod.fst).Nodup
  notNull : ∀ e ∈ s.processed, e.2 ≠ none
  complete : s.worker = .ended → s.request_cmd_queue = []
  client : ∀ p, s.worker.client = some p → s.clients.deleted p = false
  usecase : ∀ p uc, s.worker.usecase = some (p, uc) → uc ∈ s.clients.usecases p
  wakeUp : s.exit_cmd_thread_ = true → s.worker = .waiting →
    s.deinit = .notify ∨ s.callback.InFlight

/-- What every step keeps. -/
structure Inv (s : State) : Prop where
  clients : ClientInv s
  queue : QueueInv s
  exits : s.exit_cmd_thread_ = true → s.deinit.Exiting

/-- A `NULL` is at the front of the queue. -/
def State.NullNext (s : State) : Prop := ∃ n rest, s.request_cmd_queue = (n, none) :: rest

/-- The thread does not take a `NULL` out of the queue, does not end with commands in the queue, and
does not wait after the notification of the exit, unless a callback is about to notify it; no
command arrives after the thread has ended; and no close-all of another party deletes the client
that a command has in hand. -/
def Move.Ok (s : State) : Move → Prop
  | .worker _ =>
    match s.worker with
    | .test =>
      if s.exit_cmd_thread_ = true then s.request_cmd_queue = [] else ¬s.NullNext
    | .woken =>
      s.request_queue_mtx = none → s.exit_cmd_thread_ = false → ¬s.NullNext
    | .wait => s.exit_cmd_thread_ = true → s.deinit = .notify ∨ s.callback.InFlight
    | _ => True
  | .callback => ∀ e, s.callback = .locked e → s.worker ≠ .ended
  | .ssrDown => ∀ see_id p, s.ssr = .closing (.erasing see_id p) → s.worker.client ≠ some p
  | .deinit => ∀ see_id p, s.deinit = .closing (.erasing see_id p) → s.worker.client ≠ some p
  | .spuriousWakeUp | .call _ => True

section Moves

variable {ids : EventIds} {s t : State}

theorem Law.of_inv (i : Inv t) (hnull : ∀ e ∈ t.processed, e.2 ≠ none)
    (hcomplete : t.worker = .ended → t.request_cmd_queue = [])
    (hclient : ∀ p, t.worker.client = some p → t.clients.deleted p = false)
    (hwake : t.exit_cmd_thread_ = true → t.worker = .waiting →
      t.deinit = .notify ∨ t.callback.InFlight) : Law t := by
  refine ⟨i.queue.inOrder, i.queue.nodup, hnull, hcomplete, hclient, ?_, hwake⟩
  intro p uc hu
  cases hw : t.worker with
  | processing pr =>
    rw [hw] at hu
    exact (i.clients.worker pr hw).usecase p uc hu
  | start | test | wait | waiting | woken | ended | crashed =>
    rw [hw] at hu
    cases hu

/-! #### Taking a command out -/

theorem inv_take (i : Inv s) : Inv s.take := by
  unfold State.take
  split
  next h =>
    refine ⟨i.clients.frame rfl (Or.inr (by simp)) (Or.inl rfl) (Or.inl rfl),
      i.queue.frame rfl rfl rfl, i.exits⟩
  next n c rest h =>
    refine ⟨i.clients.frame rfl (Or.inr ?_) (Or.inl rfl) (Or.inl rfl),
      i.queue.frame rfl rfl (by simp [h]), i.exits⟩
    rintro _ ⟨⟩
    exact ⟨c, rfl⟩
  next n rest h =>
    exact ⟨i.clients.frame rfl (Or.inr (by simp)) (Or.inl rfl) (Or.inl rfl),
      i.queue.frame rfl rfl (by simp [h]), i.exits⟩

theorem law_take_iff (i : Inv s) (hnull : ∀ e ∈ s.processed, e.2 ≠ none) :
    Law s.take ↔ ¬s.NullNext := by
  have it := inv_take i
  constructor
  · rintro hl ⟨n, rest, hq⟩
    refine hl.notNull (n, none) ?_ rfl
    unfold State.take
    rw [hq]
    simp
  · intro hno
    unfold State.take at it ⊢
    split at it
    next h =>
      exact .of_inv it hnull (by simp) (by simp [Worker.client]) (by simp)
    next n c rest h =>
      refine .of_inv it ?_ (by simp) (by simp [Worker.client, Processing.client]) (by simp)
      intro e he
      rcases List.mem_append.mp he with he | he
      · exact hnull e he
      · rw [List.mem_singleton.mp he]
        simp
    next n rest h => exact absurd ⟨n, rest, h⟩ hno

/-! #### The thread -/

/-! The mutex of the queue is nothing that is kept. -/

theorem inv_lockQueue (me : Party) (i : Inv s) : Inv (s.lockQueue me) :=
  ⟨i.clients.frame rfl (Or.inl rfl) (Or.inl rfl) (Or.inl rfl), i.queue.frame rfl rfl rfl, i.exits⟩

theorem inv_unlockQueue (i : Inv s) : Inv s.unlockQueue :=
  ⟨i.clients.frame rfl (Or.inl rfl) (Or.inl rfl) (Or.inl rfl), i.queue.frame rfl rfl rfl, i.exits⟩

theorem law_lockQueue (me : Party) (l : Law s) : Law (s.lockQueue me) :=
  ⟨l.inOrder, l.once, l.notNull, l.complete, l.client, l.usecase, l.wakeUp⟩

theorem law_unlockQueue (l : Law s) : Law s.unlockQueue :=
  ⟨l.inOrder, l.once, l.notNull, l.complete, l.client, l.usecase, l.wakeUp⟩

/-- A place of the thread outside the processing of a command. -/
theorem inv_setWorker {w : Worker} (i : Inv s) (hw : ∀ pr, w ≠ .processing pr) :
    Inv { s with worker := w } :=
  ⟨i.clients.frame rfl (Or.inr fun pr h => absurd h (hw pr)) (Or.inl rfl) (Or.inl rfl),
    i.queue.frame rfl rfl rfl, i.exits⟩

theorem law_setWorker {w : Worker} (i : Inv s) (l : Law s) (hw : ∀ pr, w ≠ .processing pr)
    (hended : w = .ended → s.request_cmd_queue = [])
    (hwake : w = .waiting → s.exit_cmd_thread_ = true → s.deinit = .notify ∨ s.callback.InFlight) :
    Law { s with worker := w } := by
  refine .of_inv (inv_setWorker i hw) l.notNull hended ?_ (fun he hwait => hwake hwait he)
  intro p hp
  cases w with
  | processing pr => exact absurd rfl (hw pr)
  | start | test | wait | waiting | woken | ended | crashed => cases hp

theorem inv_worker {ok : Bool} (i : Inv s) (h : s.stepWorker ok = some t) : Inv t := by
  unfold State.stepWorker at h
  split at h
  next hw =>
    split_ifs at h
    cases h
    exact inv_setWorker (inv_lockQueue .worker i) (by simp)
  next hw =>
    split_ifs at h <;> cases h
    · exact inv_setWorker (inv_unlockQueue i) (by simp)
    · exact inv_setWorker i (by simp)
    · exact inv_take i
  next hw =>
    cases h
    exact inv_setWorker (inv_unlockQueue i) (by simp)
  next hw => cases h
  next hw =>
    split_ifs at h <;> cases h
    · exact inv_setWorker (inv_lockQueue .worker i) (by simp)
    · exact inv_take (inv_lockQueue .worker i)
  next hw =>
    cases h
    exact inv_setWorker i (by simp)
  next pr hpr hw =>
    obtain ⟨⟨C, pr'⟩, hstep, rfl⟩ := Option.map_eq_some_iff.mp h
    obtain ⟨hc, -⟩ := i.clients.stepWorker hw hstep
    exact ⟨hc, i.queue.frame rfl rfl rfl, i.exits⟩
  next hw => cases h
  next hw => cases h

theorem law_worker_iff {ok : Bool} (i : Inv s) (l : Law s) :
    (∀ t, s.stepWorker ok = some t → Law t) ↔ (Move.worker ok).Ok s := by
  unfold State.stepWorker Move.Ok
  dsimp only
  cases hw : s.worker with
  | start =>
    refine iff_of_true ?_ trivial
    dsimp only
    intro t h
    split_ifs at h
    cases h
    exact law_setWorker (inv_lockQueue .worker i) (law_lockQueue .worker l) (by simp) (by simp) (by simp)
  | test =>
    dsimp only
    by_cases he : s.exit_cmd_thread_ = true
    · rw [if_pos he, if_pos he]
      constructor
      · intro h
        exact (h _ rfl).complete rfl
      · rintro hq _ ⟨⟩
        exact law_setWorker (inv_unlockQueue i) (law_unlockQueue l) (by simp) (fun _ => hq)
          (by simp)
    · rw [if_neg he, if_neg he]
      by_cases hq : s.request_cmd_queue = []
      · rw [if_pos hq]
        refine iff_of_true ?_ ?_
        · rintro _ ⟨⟩
          exact law_setWorker i l (by simp) (by simp) (by simp)
        · rintro ⟨n, rest, hn⟩
          rw [hq] at hn
          cases hn
      · rw [if_neg hq, ← law_take_iff i l.notNull]
        simp
  | wait =>
    dsimp only
    constructor
    · intro h he
      exact (h _ rfl).wakeUp he rfl
    · rintro hok _ ⟨⟩
      exact law_setWorker (inv_unlockQueue i) (law_unlockQueue l) (by simp) (by simp)
        (fun _ => hok)
  | waiting => simp
  | woken =>
    dsimp only
    by_cases hm : s.request_queue_mtx = none
    · rw [if_pos hm]
      by_cases he : s.exit_cmd_thread_ = true
      · rw [if_pos he]
        refine iff_of_true ?_ (by simp [he])
        rintro _ ⟨⟩
        exact law_setWorker (inv_lockQueue .worker i) (law_lockQueue .worker l) (by simp) (by simp) (by simp)
      · rw [if_neg he]
        have hlaw := law_take_iff (inv_lockQueue .worker i) l.notNull
        have he : s.exit_cmd_thread_ = false := by simpa using he
        simp only [Option.some.injEq, forall_eq', hm, he, forall_const]
        exact hlaw
    · rw [if_neg hm]
      simp [hm]
  | processing pr =>
    refine iff_of_true ?_ trivial
    intro t h
    by_cases hd : pr = .done
    · subst hd
      cases h
      exact law_setWorker i l (by simp) (by simp) (by simp)
    · have h : (pr.step ok s.clients).map (fun r =>
          { s with clients := r.1, worker := .processing r.2 }) = some t := by
        cases pr with
        | done => exact absurd rfl hd
        | lookup _ | locking _ _ | locked _ _ | using_ _ _ _ | unlocking _ | closing _ => exact h
      obtain ⟨⟨C, pr'⟩, hstep, rfl⟩ := Option.map_eq_some_iff.mp h
      obtain ⟨hc, halive⟩ := i.clients.stepWorker hw hstep
      exact .of_inv ⟨hc, i.queue.frame rfl rfl rfl, i.exits⟩ l.notNull (by simp) halive (by simp)
  | ended => simp
  | crashed => simp

/-! #### The other parties -/

theorem inv_notify (i : Inv s) : Inv s.notify := by
  unfold State.notify
  split_ifs
  · exact inv_setWorker i (by simp)
  · exact i

theorem notify_not_waiting : s.notify.worker ≠ .waiting := by
  unfold State.notify
  split_ifs with h
  · simp
  · exact h

theorem law_notify (i : Inv s) (l : Law s) : Law s.notify := by
  unfold State.notify
  split_ifs
  · exact law_setWorker i l (by simp) (by simp) (by simp)
  · exact l

/-- A move of the callback or of one of the two handlers that leaves the clients and the commands
alone. -/
theorem inv_place {cb : Callback} {sd : SsrDown} {di : DeInit} {exit proxy : Bool} (i : Inv s)
    (hs : sd = s.ssr ∨ ∀ cl, sd = .closing cl → cl = .begin)
    (hd : di = s.deinit ∨ ∀ cl, di = .closing cl → cl = .begin)
    (he : exit = true → di.Exiting) :
    Inv { s with
      callback := cb, ssr := sd, deinit := di, exit_cmd_thread_ := exit, proxy_stream := proxy } :=
  ⟨i.clients.frame rfl (Or.inl rfl) hs hd, i.queue.frame rfl rfl rfl, he⟩

theorem law_place {cb : Callback} {sd : SsrDown} {di : DeInit} {exit proxy : Bool} (i : Inv s)
    (l : Law s) (hs : sd = s.ssr ∨ ∀ cl, sd = .closing cl → cl = .begin)
    (hd : di = s.deinit ∨ ∀ cl, di = .closing cl → cl = .begin)
    (he : exit = true → di.Exiting)
    (hwake : exit = true → s.worker = .waiting → di = .notify ∨ cb.InFlight) :
    Law { s with
      callback := cb, ssr := sd, deinit := di, exit_cmd_thread_ := exit, proxy_stream := proxy } :=
  .of_inv (inv_place i hs hd he) l.notNull l.complete l.client hwake

theorem inv_callback (i : Inv s) (h : s.stepCallback ids = some t) : Inv t := by
  unfold State.stepCallback at h
  cases hcb : s.callback with
  | idle =>
    rw [hcb] at h
    cases h
  | locking e =>
    rw [hcb] at h
    dsimp only at h
    split_ifs at h
    cases h
    exact inv_place (inv_lockQueue .callback i) (Or.inl rfl) (Or.inl rfl) i.exits
  | locked e =>
    rw [hcb] at h
    cases h
    exact ⟨i.clients.frame rfl (Or.inl rfl) (Or.inl rfl) (Or.inl rfl),
      i.queue.push rfl rfl rfl rfl, i.exits⟩
  | notify =>
    rw [hcb] at h
    cases h
    exact inv_place (inv_notify i) (Or.inl rfl) (Or.inl rfl) (inv_notify i).exits
  | unlocking =>
    rw [hcb] at h
    cases h
    exact inv_place (inv_unlockQueue i) (Or.inl rfl) (Or.inl rfl) i.exits

theorem law_callback_iff (i : Inv s) (l : Law s) :
    (∀ t, s.stepCallback ids = some t → Law t) ↔ Move.callback.Ok s := by
  have hinv : ∀ t, s.stepCallback ids = some t → Inv t := fun t h => inv_callback i h
  unfold State.stepCallback at hinv ⊢
  unfold Move.Ok
  cases hcb : s.callback with
  | idle => simp
  | locking e =>
    refine iff_of_true ?_ (by simp)
    dsimp only
    intro t h
    split_ifs at h
    cases h
    exact law_place (inv_lockQueue .callback i) (law_lockQueue .callback l) (Or.inl rfl)
      (Or.inl rfl) i.exits (fun _ _ => Or.inr trivial)
  | locked e =>
    rw [hcb] at hinv
    dsimp only at hinv ⊢
    constructor
    · intro h _ _ hended
      exact absurd ((h _ rfl).complete hended) (by simp)
    · rintro hok _ ⟨⟩
      exact .of_inv (hinv _ rfl) l.notNull (fun hended => absurd hended (hok e rfl)) l.client
        (fun _ _ => Or.inr trivial)
  | notify =>
    refine iff_of_true ?_ (by simp)
    rintro _ ⟨⟩
    exact law_place (inv_notify i) (law_notify i l) (Or.inl rfl) (Or.inl rfl) (inv_notify i).exits
      (fun _ hw => absurd hw notify_not_waiting)
  | unlocking =>
    refine iff_of_true ?_ (by simp)
    rintro _ ⟨⟩
    refine law_place (inv_unlockQueue i) (law_unlockQueue l) (Or.inl rfl) (Or.inl rfl) i.exits ?_
    intro he hw
    have hwake := l.wakeUp he hw
    rw [hcb] at hwake
    exact hwake.imp_right False.elim

/-- The step of a loop deletes the client that it is about to delete. -/
theorem client_kept_iff {C : Clients} {cl : Closer} (l : Law s)
    (hdel : ∀ p, C.deleted p = false ↔ s.clients.deleted p = false ∧ cl.gone ≠ some p) :
    (∀ p, s.worker.client = some p → C.deleted p = false) ↔
      ∀ see_id p, cl = .erasing see_id p → s.worker.client ≠ some p := by
  constructor
  · rintro h see_id p rfl hp
    exact ((hdel p).mp (h p hp)).2 rfl
  · intro h p hp
    refine (hdel p).mpr ⟨l.client p hp, ?_⟩
    intro hgone
    cases cl with
    | erasing see_id q =>
      cases hgone
      exact h see_id p rfl hp
    | begin | next _ | locking _ _ | deleting _ _ | closed => cases hgone

/-- A loop that is not at its end steps. -/
theorem ne_erasing_of_step {me : Party} {cl : Closer} (l : Law s)
    (h : cl.step me s.clients = none) :
    ∀ see_id p, cl = .erasing see_id p → s.worker.client ≠ some p := by
  rintro see_id p rfl hp
  have hd := l.client p hp
  simp [Closer.step, hd] at h

theorem inv_ssrDown (i : Inv s) (h : s.stepSsrDown = some t) : Inv t := by
  unfold State.stepSsrDown at h
  split at h
  next hs =>
    cases h
    exact inv_place i (Or.inr (by simp)) (Or.inl rfl) i.exits
  next hs =>
    cases h
    exact inv_place i (Or.inr (by simp)) (Or.inl rfl) i.exits
  next cl hcl hs =>
    obtain ⟨⟨C, cl'⟩, hstep, rfl⟩ := Option.map_eq_some_iff.mp h
    exact ⟨(i.clients.stepSsr hs hstep).1, i.queue.frame rfl rfl rfl, i.exits⟩
  next hs =>
    split_ifs at h
    cases h
    exact inv_place (inv_lockQueue .ssr i) (Or.inr (by simp)) (Or.inl rfl) i.exits
  next hs =>
    cases h
    exact ⟨i.clients.frame rfl (Or.inl rfl) (Or.inr (by simp)) (Or.inl rfl),
      i.queue.empty rfl rfl rfl rfl, i.exits⟩

theorem law_ssrDown_iff (i : Inv s) (l : Law s) :
    (∀ t, s.stepSsrDown = some t → Law t) ↔ Move.ssrDown.Ok s := by
  have hinv : ∀ t, s.stepSsrDown = some t → Inv t := fun t h => inv_ssrDown i h
  unfold Move.Ok
  cases hs : s.ssr with
  | idle =>
    unfold State.stepSsrDown
    rw [hs]
    refine iff_of_true ?_ (by simp)
    rintro _ ⟨⟩
    exact law_place i l (Or.inr (by simp)) (Or.inl rfl) i.exits l.wakeUp
  | closing cl =>
    by_cases hcl : cl = .closed
    · subst hcl
      unfold State.stepSsrDown
      rw [hs]
      refine iff_of_true ?_ (by simp)
      rintro _ ⟨⟩
      exact law_place i l (Or.inr (by simp)) (Or.inl rfl) i.exits l.wakeUp
    · have hstep : s.stepSsrDown = (cl.step .ssr s.clients).map fun r =>
          { s with clients := r.1, ssr := .closing r.2 } := by
        unfold State.stepSsrDown
        rw [hs]
        cases cl with
        | closed => exact absurd rfl hcl
        | begin | next _ | locking _ _ | deleting _ _ | erasing _ _ => rfl
      cases hc : cl.step .ssr s.clients with
      | none =>
        rw [hstep, hc]
        refine iff_of_true (by simp) ?_
        rintro see_id p ⟨⟩
        exact ne_erasing_of_step l hc see_id p rfl
      | some e =>
        obtain ⟨C, cl'⟩ := e
        rw [hc] at hstep
        have hdel := (i.clients.stepSsr hs hc).2
        have hiff := client_kept_iff l hdel
        rw [hstep]
        constructor
        · rintro h see_id p ⟨⟩
          exact hiff.mp (h _ rfl).client see_id p rfl
        · rintro hok _ ⟨⟩
          have hclient := hiff.mpr fun see_id p h => hok see_id p (by rw [h])
          exact .of_inv (hinv _ hstep) l.notNull l.complete hclient l.wakeUp
  | locking =>
    unfold State.stepSsrDown
    rw [hs]
    refine iff_of_true ?_ (by simp)
    dsimp only
    intro t h
    split_ifs at h
    cases h
    exact law_place (inv_lockQueue .ssr i) (law_lockQueue .ssr l) (Or.inr (by simp)) (Or.inl rfl)
      i.exits l.wakeUp
  | emptying =>
    unfold State.stepSsrDown at hinv ⊢
    rw [hs] at hinv ⊢
    refine iff_of_true ?_ (by simp)
    rintro _ ⟨⟩
    exact .of_inv (hinv _ rfl) l.notNull (fun _ => rfl) l.client l.wakeUp

theorem inv_deinit (i : Inv s) (h : s.stepDeInit = some t) : Inv t := by
  unfold State.stepDeInit at h
  split at h
  next hd =>
    cases h
    exact inv_place i (Or.inl rfl) (Or.inr (by simp)) fun he =>
      absurd (i.exits he) (by simp [hd, DeInit.Exiting])
  next hd =>
    cases h
    exact inv_place i (Or.inl rfl) (Or.inr (by simp)) fun he =>
      absurd (i.exits he) (by simp [hd, DeInit.Exiting])
  next cl hcl hd =>
    obtain ⟨⟨C, cl'⟩, hstep, rfl⟩ := Option.map_eq_some_iff.mp h
    exact ⟨(i.clients.stepDeInit hd hstep).1, i.queue.frame rfl rfl rfl, fun he =>
      absurd (i.exits he) (by simp [hd, DeInit.Exiting])⟩
  next hd =>
    cases h
    exact inv_place i (Or.inl rfl) (Or.inr (by simp)) fun he =>
      absurd (i.exits he) (by simp [hd, DeInit.Exiting])
  next hd =>
    cases h
    exact inv_place i (Or.inl rfl) (Or.inr (by simp)) (fun _ => trivial)
  next hd =>
    cases h
    exact inv_place (inv_notify i) (Or.inl rfl) (Or.inr (by simp)) (fun _ => trivial)
  next hd =>
    split_ifs at h
    cases h
    exact inv_place i (Or.inl rfl) (Or.inr (by simp)) (fun _ => trivial)
  next hd => cases h

theorem law_deinit_iff (i : Inv s) (l : Law s) :
    (∀ t, s.stepDeInit = some t → Law t) ↔ Move.deinit.Ok s := by
  have hinv : ∀ t, s.stepDeInit = some t → Inv t := fun t h => inv_deinit i h
  unfold Move.Ok
  cases hd : s.deinit with
  | idle =>
    have hexit : ¬s.exit_cmd_thread_ = true := fun he =>
      absurd (i.exits he) (by simp [hd, DeInit.Exiting])
    unfold State.stepDeInit
    rw [hd]
    refine iff_of_true ?_ (by simp)
    rintro _ ⟨⟩
    exact law_place i l (Or.inl rfl) (Or.inr (by simp)) (fun he => absurd he hexit)
      (fun he => absurd he hexit)
  | closing cl =>
    have hexit : ¬s.exit_cmd_thread_ = true := fun he =>
      absurd (i.exits he) (by simp [hd, DeInit.Exiting])
    by_cases hcl : cl = .closed
    · subst hcl
      unfold State.stepDeInit
      rw [hd]
      refine iff_of_true ?_ (by simp)
      rintro _ ⟨⟩
      exact law_place i l (Or.inl rfl) (Or.inr (by simp)) (fun he => absurd he hexit)
        (fun he => absurd he hexit)
    · have hstep : s.stepDeInit = (cl.step .deinit s.clients).map fun r =>
          { s with clients := r.1, deinit := .closing r.2 } := by
        unfold State.stepDeInit
        rw [hd]
        cases cl with
        | closed => exact absurd rfl hcl
        | begin | next _ | locking _ _ | deleting _ _ | erasing _ _ => rfl
      cases hc : cl.step .deinit s.clients with
      | none =>
        rw [hstep, hc]
        refine iff_of_true (by simp) ?_
        rintro see_id p ⟨⟩
        exact ne_erasing_of_step l hc see_id p rfl
      | some e =>
        obtain ⟨C, cl'⟩ := e
        rw [hc] at hstep
        have hdel := (i.clients.stepDeInit hd hc).2
        have hiff := client_kept_iff l hdel
        rw [hstep]
        constructor
        · rintro h see_id p ⟨⟩
          exact hiff.mp (h _ rfl).client see_id p rfl
        · rintro hok _ ⟨⟩
          have hclient := hiff.mpr fun see_id p h => hok see_id p (by rw [h])
          exact .of_inv (hinv _ hstep) l.notNull l.complete hclient fun he => absurd he hexit
  | stopProxy =>
    have hexit : ¬s.exit_cmd_thread_ = true := fun he =>
      absurd (i.exits he) (by simp [hd, DeInit.Exiting])
    unfold State.stepDeInit
    rw [hd]
    refine iff_of_true ?_ (by simp)
    rintro _ ⟨⟩
    exact law_place i l (Or.inl rfl) (Or.inr (by simp)) (fun he => absurd he hexit)
      (fun he => absurd he hexit)
  | setExit =>
    unfold State.stepDeInit
    rw [hd]
    refine iff_of_true ?_ (by simp)
    rintro _ ⟨⟩
    exact law_place i l (Or.inl rfl) (Or.inr (by simp)) (fun _ => trivial)
      (fun _ _ => Or.inl rfl)
  | notify =>
    unfold State.stepDeInit
    rw [hd]
    refine iff_of_true ?_ (by simp)
    rintro _ ⟨⟩
    exact law_place (inv_notify i) (law_notify i l) (Or.inl rfl) (Or.inr (by simp))
      (fun _ => trivial) (fun _ hw => absurd hw notify_not_waiting)
  | join =>
    unfold State.stepDeInit
    rw [hd]
    refine iff_of_true ?_ (by simp)
    dsimp only
    intro t h
    split_ifs at h with hended
    cases h
    exact law_place i l (Or.inl rfl) (Or.inr (by simp)) (fun _ => trivial)
      (fun _ hw => absurd hw (by rw [hended]; simp))
  | done =>
    unfold State.stepDeInit
    rw [hd]
    exact iff_of_true (by simp) (by simp)

/-! ### Runs -/

theorem inv_step {m : Move} (i : Inv s) (h : step ids s m = some t) : Inv t := by
  cases m with
  | worker ok => exact inv_worker i h
  | spuriousWakeUp =>
    unfold step at h
    dsimp only at h
    split_ifs at h
    cases h
    exact inv_setWorker i (by simp)
  | call e =>
    unfold step at h
    dsimp only at h
    split_ifs at h
    cases h
    exact inv_place i (Or.inl rfl) (Or.inl rfl) i.exits
  | callback => exact inv_callback i h
  | ssrDown => exact inv_ssrDown i h
  | deinit => exact inv_deinit i h

/-- A move keeps the law exactly when it meets its condition. -/
theorem law_step_iff (ids : EventIds) (m : Move) (i : Inv s) (l : Law s) :
    (∀ t, step ids s m = some t → Law t) ↔ m.Ok s := by
  cases m with
  | worker ok => exact law_worker_iff i l
  | spuriousWakeUp =>
    refine iff_of_true ?_ trivial
    unfold step
    dsimp only
    intro t h
    split_ifs at h
    cases h
    exact law_setWorker i l (by simp) (by simp) (by simp)
  | call e =>
    refine iff_of_true ?_ trivial
    unfold step
    dsimp only
    intro t h
    split_ifs at h
    cases h
    exact law_place i l (Or.inl rfl) (Or.inl rfl) i.exits (fun _ _ => Or.inr trivial)
  | callback => exact law_callback_iff i l
  | ssrDown => exact law_ssrDown_iff i l
  | deinit => exact law_deinit_iff i l

end Moves

theorem inv_init : Inv {} where
  clients := ⟨⟨by simp, by simp, fun _ _ => rfl⟩, by simp, by simp, by simp⟩
  queue := ⟨rfl, rfl, by simp⟩
  exits := by simp

theorem law_init : Law {} :=
  .of_inv inv_init (by simp) (by simp) (by simp [Worker.client]) (by simp)

end AudioReachPal.Context.Queue
