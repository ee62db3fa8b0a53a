import AudioReachPal.Sva.Defs
import AudioReachPal.Lib.Scatter

/-!
# Confidence levels of a recognition config

`fillConfLevels` and the two versions of `fillOpaqueConfLevels` turn the levels of a config, each
keyword with its users, into the byte array that is sent to the engine: the keywords first, and each
user's level at its user id. The three check that the levels are at most 100, count the bytes, and
refuse an id that is a keyword's, that is outside, or that they have met. So many distinct ids as
there are free places are all of them, and every byte is written once (`filled_once`).
-/

namespace AudioReachPal.Sva

open AudioReachPal.Lib

/-! ### What the loops see -/

/-- A keyword with its users, as far as its count says: `none` where that leads out of the array. -/
structure Keyword where
  level : ℤ
  users : List (Option st_user_levels)
  deriving DecidableEq, Repr

/-- A keyword whose users were all there. -/
structure KeywordLevels where
  level : ℤ
  users : List st_user_levels
  deriving DecidableEq, Repr

/-- The users of a keyword, in the structure of `version`. -/
def st_keyword_levels.keyword (version : ℕ) (kw : st_keyword_levels) : Keyword where
  level := storedLevel version kw.kw_level
  users := (List.range kw.num_user_levels).map fun j =>
    kw.user_levels[j]?.map fun user => ⟨user.user_id, storedLevel version user.level⟩

/-- The keywords of a sound model, in the structure of `version`. -/
def st_sound_model_conf_levels.keywords (version : ℕ) (sm : st_sound_model_conf_levels) :
    List (Option Keyword) :=
  (List.range sm.num_kw_levels).map fun i => sm.kw_levels[i]?.map (·.keyword version)

/-- A phrase with its users. -/
def pal_st_phrase_recognition_extra.keyword (phrase : pal_st_phrase_recognition_extra) :
    KeywordLevels where
  level := phrase.confidence_level
  users := phrase.levels.map fun user => ⟨user.user_id, user.level⟩

/-! ### The levels -/

/-- The loop over the users that checks their levels; a bad level is `some none`. -/
def checkUsers (bad : ℤ → Bool) : List (Option st_user_levels) → Option (Option (List st_user_levels))
  | [] => some (some [])
  | none :: _ => none
  | some user :: users =>
    if bad user.level then some none else (checkUsers bad users).map (Option.map (user :: ·))

/-- The loop over the keywords that checks their levels. The loops after it go over the same
entries, which are its result. -/
def checkLevels (bad : ℤ → Bool) : List (Option Keyword) → Option (Option (List KeywordLevels))
  | [] => some (some [])
  | none :: _ => none
  | some kw :: kws =>
    if bad kw.level then some none
    else (checkUsers bad kw.users).bind fun
      | none => some none
      | some users => (checkLevels bad kws).map (Option.map (⟨kw.level, users⟩ :: ·))

/-- The number of confidence levels: a keyword's users count where `model_id` is 0. -/
def num_conf_levels (model_id : ℕ) (kws : List KeywordLevels) : ℕ :=
  (kws.map fun kw => 1 + if model_id = 0 then kw.users.length else 0).sum

/-! ### The array -/

/-- The array and the user ids met, while the array is filled. -/
structure Filling where
  conf_levels : List ℕ
  user_id_tracker : List Bool

/-- A level as the byte that is stored. -/
def levelByte (level : ℤ) : ℕ := (level % 2 ^ 8).toNat

/-- The loop over the users of a keyword; `none` is an id that is refused. `adjust` is what is done
to a level before it is stored. -/
def fillUsers (adjust : ℤ → ℤ) (num_kw num : ℕ) :
    Filling → List st_user_levels → Option Filling
  | f, [] => some f
  | f, user :: users =>
    if user.user_id < num_kw ∨ num ≤ user.user_id then none
    else if f.user_id_tracker[user.user_id]?.getD false then none
    else
      fillUsers adjust num_kw num
        { conf_levels := f.conf_levels.set user.user_id (levelByte (adjust user.level))
          user_id_tracker := f.user_id_tracker.set user.user_id true } users

/-- The loop over the keywords, at keyword `i`. -/
def fillKeywords (adjust : ℤ → ℤ) (model_id num_kw num : ℕ) :
    (i : ℕ) → Filling → List KeywordLevels → Option Filling
  | _, f, [] => some f
  | i, f, kw :: kws =>
    if num ≤ i then none
    else
      let f := { f with conf_levels := f.conf_levels.set i (levelByte kw.level) }
      if model_id = 0 then
        (fillUsers adjust num_kw num f kw.users).bind fun f =>
          fillKeywords adjust model_id num_kw num (i + 1) f kws
      else fillKeywords adjust model_id num_kw num (i + 1) f kws

/-- What two `calloc` leave, and the loop. -/
def fill (adjust : ℤ → ℤ) (model_id : ℕ) (kws : List KeywordLevels) : Option Filling :=
  let num := num_conf_levels model_id kws
  fillKeywords adjust model_id kws.length num 0
    ⟨List.replicate num 0, List.replicate num false⟩ kws

/-! ### The functions -/

/-- The caller's two variables: the buffer, if one is returned, and its size. -/
structure ConfLevelsOut where
  conf_levels : Option (List ℕ)
  num_conf_levels : ℕ
  deriving DecidableEq, Repr

/-- What is left in them where a buffer was allocated and freed again. -/
def ConfLevelsOut.freed : ConfLevelsOut := ⟨none, 0⟩

/-- Which of the two `calloc` succeed. -/
structure Callocs where
  conf_levels : Bool
  user_id_tracker : Bool

/-- The end of the functions, once the keywords are read. -/
def fillOut (adjust : ℤ → ℤ) (model_id : ℕ) (kws : List KeywordLevels) : ConfLevelsOut × ℤ :=
  match fill adjust model_id kws with
  | none => (.freed, - EINVAL)
  | some f => (⟨some f.conf_levels, num_conf_levels model_id kws⟩, 0)

/-- `fillConfLevels`; `phrase_sm` is the number of phrases of the stream's model, if it has one. -/
def fillConfLevels (mem : Callocs) (model_id : ℕ) (phrase_sm : Option ℕ)
    (config : Option (List pal_st_phrase_recognition_extra)) (out : ConfLevelsOut) :
    ConfLevelsOut × ℤ :=
  match config with
  | none => (out, - EINVAL)
  | some phrases =>
    if phrases.length = 0 ∨ phrase_sm.any fun num_phrases => num_phrases < phrases.length then
      (out, - EINVAL)
    else if !mem.conf_levels then (out, - ENOMEM)
    else if !mem.user_id_tracker then (.freed, - ENOMEM)
    else
      let kws := phrases.map (·.keyword)
      let bad (level : ℤ) : Bool := level > ST_MAX_FSTAGE_CONF_LEVEL
      if kws.any fun kw => bad kw.level || kw.users.any fun user => bad user.level then
        (.freed, - EINVAL)
      else
        fillOut (fun level => if level < ST_MAX_FSTAGE_CONF_LEVEL then level
          else ST_MAX_FSTAGE_CONF_LEVEL) model_id kws

/-- The levels that `fillOpaqueConfLevels` refuses. -/
def badLevel (level : ℤ) : Bool := level < 0 || level > ST_MAX_FSTAGE_CONF_LEVEL

/-- `fillOpaqueConfLevels`, whose branches for the versions are the same but for their structures.
`none` is a count that leads out of its array. -/
def fillOpaqueConfLevels (mem : Callocs) (model_id : ℕ)
    (sm_levels : Option st_sound_model_conf_levels) (version : ℕ) (out : ConfLevelsOut) :
    Option (ConfLevelsOut × ℤ) :=
  match sm_levels with
  | none => some (out, - EINVAL)
  | some sm_levels =>
    (checkLevels badLevel (sm_levels.keywords version)).map fun
      | none => (out, - EINVAL)
      | some kws =>
        if num_conf_levels model_id kws = 0 then (out, - EINVAL)
        else if !mem.conf_levels then (out, - ENOMEM)
        else if !mem.user_id_tracker then (.freed, - ENOMEM)
        else fillOut id model_id kws

/-! ### Levels that pass -/

/-- The levels of a keyword and its users pass the check. -/
def KeywordLevels.Passes (bad : ℤ → Bool) (kw : KeywordLevels) : Prop :=
  bad kw.level = false ∧ ∀ user ∈ kw.users, bad user.level = false

theorem checkUsers_eq_some_iff {bad : ℤ → Bool} {entries : List (Option st_user_levels)} :
    ∀ {users : List st_user_levels}, checkUsers bad entries = some (some users) ↔
      entries = users.map some ∧ ∀ user ∈ users, bad user.level = false := by
  induction entries with
  | nil =>
    intro users
    cases users <;> simp [checkUsers]
  | cons entry entries ih =>
    intro users
    cases entry with
    | none => cases users <;> simp [checkUsers]
    | some user =>
      unfold checkUsers
      split_ifs with hbad
      · refine iff_of_false (by simp) ?_
        rintro ⟨heq, hall⟩
        cases users with
        | nil => simp at heq
        | cons user' users =>
          obtain ⟨rfl, -⟩ : user = user' ∧ entries = users.map some := by simpa using heq
          simp [hall user List.mem_cons_self] at hbad
      · cases users with
        | nil => simp
        | cons user' users =>
          constructor
          · intro h
            obtain ⟨read, hread, heq⟩ := Option.map_eq_some_iff.mp h
            obtain ⟨users', rfl, heq⟩ := Option.map_eq_some_iff.mp heq
            cases heq
            obtain ⟨rfl, hall⟩ := ih.mp hread
            refine ⟨rfl, fun u hu => ?_⟩
            rcases List.mem_cons.mp hu with rfl | hu
            · simpa using hbad
            · exact hall u hu
          · rintro ⟨heq, hall⟩
            obtain ⟨rfl, hentries⟩ : user = user' ∧ entries = users.map some := by simpa using heq
            have hrest := ih.mpr ⟨hentries, fun u hu => hall u (List.mem_cons_of_mem _ hu)⟩
            rw [hrest]
            rfl

/-- **The check passes** exactly where every entry is there and every level is good, and then the
keywords are the ones that were read. -/
theorem checkLevels_eq_some_iff {bad : ℤ → Bool} {entries : List (Option Keyword)} :
    ∀ {kws : List KeywordLevels}, checkLevels bad entries = some (some kws) ↔
      entries = kws.map (fun kw => some ⟨kw.level, kw.users.map some⟩) ∧
        ∀ kw ∈ kws, kw.Passes bad := by
  induction entries with
  | nil =>
    intro kws
    cases kws <;> simp [checkLevels]
  | cons entry entries ih =>
    intro kws
    cases entry with
    | none => cases kws <;> simp [checkLevels]
    | some entry =>
      obtain ⟨level, users⟩ := entry
      constructor
      · intro h
        unfold checkLevels at h
        by_cases hbad : bad level = true
        · simp [hbad] at h
        rw [if_neg hbad] at h
        obtain ⟨checked, hchecked, h⟩ := Option.bind_eq_some_iff.mp h
        cases checked with
        | none => simp at h
        | some users' =>
          obtain ⟨read, hread, h⟩ := Option.map_eq_some_iff.mp h
          obtain ⟨kws', rfl, rfl⟩ := Option.map_eq_some_iff.mp h
          obtain ⟨rfl, husers⟩ := checkUsers_eq_some_iff.mp hchecked
          obtain ⟨rfl, hkws⟩ := ih.mp hread
          refine ⟨rfl, fun kw hkw => ?_⟩
          rcases List.mem_cons.mp hkw with rfl | hkw
          · exact ⟨by simpa using hbad, husers⟩
          · exact hkws kw hkw
      · rintro ⟨heq, hall⟩
        cases kws with
        | nil => simp at heq
        | cons kw kws =>
          obtain ⟨hkw, hentries⟩ : Keyword.mk level users = ⟨kw.level, kw.users.map some⟩ ∧
              entries = kws.map fun kw => some ⟨kw.level, kw.users.map some⟩ := by simpa using heq
          cases hkw
          obtain ⟨hlevel, husers⟩ := hall kw List.mem_cons_self
          have hchecked := checkUsers_eq_some_iff.mpr ⟨rfl, husers⟩
          have hread := ih.mpr ⟨hentries, fun k hk => hall k (List.mem_cons_of_mem _ hk)⟩
          unfold checkLevels
          rw [if_neg (by simp [hlevel]), hchecked, Option.bind_some, hread]
          rfl

/-! ### What the loops write -/

/-- The users of all keywords. -/
def allUsers (kws : List KeywordLevels) : List st_user_levels := kws.flatMap (·.users)

def userWrites (adjust : ℤ → ℤ) (users : List st_user_levels) : List (ℕ × ℕ) :=
  users.map fun user => (user.user_id, levelByte (adjust user.level))

/-- The writes of the loop over the keywords, from keyword `i` on. -/
def levelWrites (adjust : ℤ → ℤ) : (i : ℕ) → List KeywordLevels → List (ℕ × ℕ)
  | _, [] => []
  | i, kw :: kws =>
    (i, levelByte kw.level) :: (userWrites adjust kw.users ++ levelWrites adjust (i + 1) kws)

/-- Ids that are accepted behind the ids `seen`. -/
def Accepted (num_kw num : ℕ) (seen : List ℕ) (users : List st_user_levels) : Prop :=
  (∀ user ∈ users, num_kw ≤ user.user_id ∧ user.user_id < num) ∧
    (seen ++ users.map (·.user_id)).Nodup

theorem accepted_cons {num_kw num : ℕ} {seen : List ℕ} {user : st_user_levels}
    {users : List st_user_levels} : Accepted num_kw num seen (user :: users) ↔
      (num_kw ≤ user.user_id ∧ user.user_id < num) ∧
        Accepted num_kw num (seen ++ [user.user_id]) users := by
  unfold Accepted
  rw [List.forall_mem_cons, List.map_cons, List.append_assoc, List.singleton_append, and_assoc]

theorem accepted_append {num_kw num : ℕ} {seen : List ℕ} {users users' : List st_user_levels} :
    Accepted num_kw num seen (users ++ users') ↔
      Accepted num_kw num seen users ∧
        Accepted num_kw num (seen ++ users.map (·.user_id)) users' := by
  unfold Accepted
  rw [List.forall_mem_append, List.map_append, ← List.append_assoc]
  constructor
  · rintro ⟨⟨husers, husers'⟩, hnodup⟩
    exact ⟨⟨husers, (List.nodup_append.mp hnodup).1⟩, husers', hnodup⟩
  · rintro ⟨⟨husers, -⟩, husers', hnodup⟩
    exact ⟨⟨husers, husers'⟩, hnodup⟩

/-- The tracker knows the ids that were met. -/
def Tracks (seen : List ℕ) (tracker : List Bool) : Prop :=
  ∀ k < tracker.length, tracker[k]?.getD false = true ↔ k ∈ seen

theorem Tracks.set {seen : List ℕ} {tracker : List Bool} (h : Tracks seen tracker) (id : ℕ) :
    Tracks (seen ++ [id]) (tracker.set id true) := by
  intro k hk
  rw [List.length_set] at hk
  by_cases hid : id = k
  · subst hid
    simp [List.getElem?_set_self hk]
  · rw [List.getElem?_set_ne hid, h k hk]
    simp [Ne.symm hid]

/-- The array and the tracker after the users. -/
def Filling.put (adjust : ℤ → ℤ) (f : Filling) (users : List st_user_levels) : Filling where
  conf_levels := scatter f.conf_levels (userWrites adjust users)
  user_id_tracker := scatter f.user_id_tracker (users.map fun user => (user.user_id, true))

theorem Filling.put_tracks {adjust : ℤ → ℤ} (users : List st_user_levels) :
    ∀ {f : Filling} {seen : List ℕ}, Tracks seen f.user_id_tracker →
      Tracks (seen ++ users.map (·.user_id)) (f.put adjust users).user_id_tracker := by
  induction users with
  | nil => exact fun {f seen} h => by simpa [Filling.put] using h
  | cons user users ih =>
    intro f seen h
    have hnext := ih (f := ⟨f.conf_levels, f.user_id_tracker.set user.user_id true⟩)
      (h.set user.user_id)
    rw [List.append_assoc, List.singleton_append] at hnext
    exact hnext

/-- **One keyword's users.** They are filled in exactly where their ids are accepted. -/
theorem fillUsers_eq_some_iff {adjust : ℤ → ℤ} {num_kw num : ℕ} (users : List st_user_levels) :
    ∀ {f f' : Filling} {seen : List ℕ}, f.user_id_tracker.length = num →
      Tracks seen f.user_id_tracker → seen.Nodup →
      (fillUsers adjust num_kw num f users = some f' ↔
        Accepted num_kw num seen users ∧ f' = f.put adjust users) := by
  induction users with
  | nil =>
    intro f f' seen _ _ hseen
    simp only [fillUsers, Accepted, List.not_mem_nil, false_implies, implies_true, List.map_nil,
      List.append_nil, hseen, and_self, true_and, Option.some.injEq]
    exact eq_comm
  | cons user users ih =>
    intro f f' seen hlen htracks hseen
    unfold fillUsers
    by_cases hout : user.user_id < num_kw ∨ num ≤ user.user_id
    · rw [if_pos hout]
      refine iff_of_false (by simp) ?_
      rintro ⟨hfree, -⟩
      obtain ⟨hrange, -⟩ := accepted_cons.mp hfree
      omega
    · have hrange : num_kw ≤ user.user_id ∧ user.user_id < num := by omega
      have htracked := htracks user.user_id (by omega)
      rw [if_neg hout]
      by_cases hmet : f.user_id_tracker[user.user_id]?.getD false = true
      · rw [if_pos hmet]
        refine iff_of_false (by simp) ?_
        rintro ⟨⟨-, hnodup⟩, -⟩
        rw [List.map_cons] at hnodup
        exact (List.nodup_append.mp hnodup).2.2 _ (htracked.mp hmet) _ List.mem_cons_self rfl
      · have hseen' : (seen ++ [user.user_id]).Nodup :=
          List.nodup_append.mpr ⟨hseen, by simp, by
            intro a ha b hb hab
            rw [List.mem_singleton.mp hb] at hab
            exact hmet (htracked.mpr (hab ▸ ha))⟩
        rw [if_neg hmet, ih (by rwa [List.length_set]) (htracks.set user.user_id) hseen',
          accepted_cons]
        exact ⟨fun ⟨hfree, heq⟩ => ⟨⟨hrange, hfree⟩, heq⟩, fun ⟨⟨_, hfree⟩, heq⟩ => ⟨hfree, heq⟩⟩

/-- **All keywords.** From keyword `i` on, the array is filled exactly where the places of the
keywords are inside and the ids of all users are accepted. -/
theorem fillKeywords_eq_some_iff {adjust : ℤ → ℤ} {num_kw num : ℕ} (kws : List KeywordLevels) :
    ∀ {f f' : Filling} {seen : List ℕ} {i : ℕ}, f.user_id_tracker.length = num →
      Tracks seen f.user_id_tracker → seen.Nodup → i + kws.length ≤ num →
      (fillKeywords adjust 0 num_kw num i f kws = some f' ↔
        Accepted num_kw num seen (allUsers kws) ∧
          f' = ⟨scatter f.conf_levels (levelWrites adjust i kws),
            scatter f.user_id_tracker ((allUsers kws).map fun user => (user.user_id, true))⟩) := by
  induction kws with
  | nil =>
    intro f f' seen i _ _ hseen _
    simp only [fillKeywords, Accepted, allUsers, levelWrites, List.flatMap_nil, List.not_mem_nil,
      false_implies, implies_true, List.map_nil, List.append_nil, hseen, and_self, true_and,
      scatter_nil, Option.some.injEq]
    exact eq_comm
  | cons kw kws ih =>
    intro f f' seen i hlen htracks hseen hin
    rw [List.length_cons] at hin
    have hall : allUsers (kw :: kws) = kw.users ++ allUsers kws := List.flatMap_cons
    obtain ⟨g, hg⟩ : ∃ g : Filling,
        g = ⟨f.conf_levels.set i (levelByte kw.level), f.user_id_tracker⟩ := ⟨_, rfl⟩
    have htracks' : Tracks seen g.user_id_tracker := hg ▸ htracks
    have hlen' : g.user_id_tracker.length = num := hg ▸ hlen
    have hput : (g.put adjust kw.users).user_id_tracker.length = num := by
      rw [← hlen']
      exact length_scatter
    have hresult : (⟨scatter f.conf_levels (levelWrites adjust i (kw :: kws)),
        scatter f.user_id_tracker
          ((kw.users ++ allUsers kws).map fun user => (user.user_id, true))⟩ : Filling) =
        ⟨scatter (g.put adjust kw.users).conf_levels (levelWrites adjust (i + 1) kws),
          scatter (g.put adjust kw.users).user_id_tracker
            ((allUsers kws).map fun user => (user.user_id, true))⟩ := by
      simp [hg, Filling.put, levelWrites, scatter_append]
    unfold fillKeywords
    rw [if_neg (by omega), if_pos rfl, hall, accepted_append, hresult]
    show ((fillUsers adjust num_kw num ⟨_, f.user_id_tracker⟩ kw.users).bind _ = some f' ↔ _)
    rw [← hg]
    constructor
    · intro h
      obtain ⟨t, ht, hrest⟩ := Option.bind_eq_some_iff.mp h
      obtain ⟨hkw, rfl⟩ := (fillUsers_eq_some_iff kw.users hlen' htracks' hseen).mp ht
      obtain ⟨hkws, rfl⟩ := (ih (i := i + 1) hput (Filling.put_tracks kw.users htracks') hkw.2
        (by omega)).mp hrest
      exact ⟨⟨hkw, hkws⟩, rfl⟩
    · rintro ⟨⟨hkw, hkws⟩, rfl⟩
      refine Option.bind_eq_some_iff.mpr
        ⟨_, (fillUsers_eq_some_iff kw.users hlen' htracks' hseen).mpr ⟨hkw, rfl⟩, ?_⟩
      exact (ih (i := i + 1) hput (Filling.put_tracks kw.users htracks') hkw.2
        (by omega)).mpr ⟨hkws, rfl⟩

/-- **Filling.** With user levels, the array is filled exactly where the ids of all users are
accepted. -/
theorem fill_eq_some_iff {adjust : ℤ → ℤ} {kws : List KeywordLevels} {f : Filling} :
    fill adjust 0 kws = some f ↔
      Accepted kws.length (num_conf_levels 0 kws) [] (allUsers kws) ∧
        f = ⟨scatter (List.replicate (num_conf_levels 0 kws) 0) (levelWrites adjust 0 kws),
          scatter (List.replicate (num_conf_levels 0 kws) false)
            ((allUsers kws).map fun user => (user.user_id, true))⟩ := by
  have hcount : 0 + kws.length ≤ num_conf_levels 0 kws := by
    unfold num_conf_levels
    induction kws with
    | nil => simp
    | cons kw kws ih =>
      rw [List.length_cons, List.map_cons, List.sum_cons]
      omega
  refine fillKeywords_eq_some_iff kws (by simp) ?_ List.nodup_nil hcount
  intro k hk
  rw [List.length_replicate] at hk
  simp [hk]

/-! ### Every byte once -/

/-- The levels of a keyword and its users can be sent. -/
def KeywordLevels.InRange (kw : KeywordLevels) : Prop :=
  (0 ≤ kw.level ∧ kw.level ≤ ST_MAX_FSTAGE_CONF_LEVEL) ∧
    ∀ user ∈ kw.users, 0 ≤ user.level ∧ user.level ≤ ST_MAX_FSTAGE_CONF_LEVEL

/-- The array holds the keywords' levels in order and each user's level at its id, and is written at
each place by one of them. -/
structure FilledOnce (kws : List KeywordLevels) (conf_levels : List ℕ) : Prop where
  size : conf_levels.length = kws.length + (allUsers kws).length
  keyword : ∀ i (h : i < kws.length), conf_levels[i]? = some (kws[i].level.toNat)
  user : ∀ user ∈ allUsers kws, conf_levels[user.user_id]? = some user.level.toNat
  once : (List.range kws.length ++ (allUsers kws).map (·.user_id)).Perm
    (List.range conf_levels.length)
  bounded : ∀ level ∈ conf_levels, level ≤ MAX_CONF_LEVEL_VALUE

theorem levelByte_of_inRange {level : ℤ} (h : 0 ≤ level ∧ level ≤ ST_MAX_FSTAGE_CONF_LEVEL) :
    levelByte level = level.toNat := by
  unfold levelByte
  unfold ST_MAX_FSTAGE_CONF_LEVEL at h
  omega

theorem num_conf_levels_eq (kws : List KeywordLevels) :
    num_conf_levels 0 kws = kws.length + (allUsers kws).length := by
  induction kws with
  | nil => rfl
  | cons kw kws ih =>
    have hall : allUsers (kw :: kws) = kw.users ++ allUsers kws := List.flatMap_cons
    have hnum : num_conf_levels 0 (kw :: kws) = 1 + kw.users.length + num_conf_levels 0 kws := rfl
    rw [hnum, hall, List.length_append, List.length_cons, ih]
    omega

theorem levelWrites_places (adjust : ℤ → ℤ) (kws : List KeywordLevels) (i : ℕ) :
    ((levelWrites adjust i kws).map Prod.fst).Perm
      (List.range' i kws.length ++ (allUsers kws).map (·.user_id)) := by
  induction kws generalizing i with
  | nil => exact List.Perm.refl _
  | cons kw kws ih =>
    have hall : allUsers (kw :: kws) = kw.users ++ allUsers kws := List.flatMap_cons
    have husers : (userWrites adjust kw.users).map Prod.fst = kw.users.map (·.user_id) := by
      simp [userWrites]
    rw [hall, levelWrites, List.map_cons, List.map_append, husers, List.map_append,
      List.length_cons, List.range'_succ, List.cons_append]
    refine List.Perm.cons _ (((ih (i + 1)).append_left _).trans ?_)
    exact List.perm_append_comm_assoc _ _ _

theorem mem_levelWrites_keyword (adjust : ℤ → ℤ) {kws : List KeywordLevels} {k : ℕ}
    (hk : k < kws.length) (i : ℕ) : (i + k, levelByte kws[k].level) ∈ levelWrites adjust i kws := by
  induction kws generalizing i k with
  | nil => simp at hk
  | cons kw kws ih =>
    cases k with
    | zero => exact List.mem_cons_self
    | succ k =>
      have hin := ih (by simpa using hk) (i + 1)
      refine List.mem_cons_of_mem _ (List.mem_append_right _ ?_)
      rw [show i + (k + 1) = i + 1 + k by omega]
      exact hin

theorem mem_levelWrites_user (adjust : ℤ → ℤ) {kws : List KeywordLevels} {user : st_user_levels}
    (h : user ∈ allUsers kws) (i : ℕ) :
    (user.user_id, levelByte (adjust user.level)) ∈ levelWrites adjust i kws := by
  induction kws generalizing i with
  | nil => simp [allUsers] at h
  | cons kw kws ih =>
    have hall : allUsers (kw :: kws) = kw.users ++ allUsers kws := List.flatMap_cons
    rw [hall] at h
    refine List.mem_cons_of_mem _ ?_
    rcases List.mem_append.mp h with h | h
    · exact List.mem_append_left _ (List.mem_map.mpr ⟨user, h, rfl⟩)
    · exact List.mem_append_right _ (ih h (i + 1))

/-- Every write is that of a keyword or of a user. -/
theorem levelWrites_cases {adjust : ℤ → ℤ} {kws : List KeywordLevels} {p : ℕ × ℕ} {i : ℕ}
    (h : p ∈ levelWrites adjust i kws) : (∃ kw ∈ kws, p.2 = levelByte kw.level) ∨
      ∃ user ∈ allUsers kws, p.2 = levelByte (adjust user.level) := by
  induction kws generalizing i with
  | nil => simp [levelWrites] at h
  | cons kw kws ih =>
    have hall : allUsers (kw :: kws) = kw.users ++ allUsers kws := List.flatMap_cons
    rcases List.mem_cons.mp h with rfl | h
    · exact Or.inl ⟨kw, List.mem_cons_self, rfl⟩
    · rcases List.mem_append.mp h with h | h
      · obtain ⟨user, huser, rfl⟩ := List.mem_map.mp h
        exact Or.inr ⟨user, hall ▸ List.mem_append_left _ huser, rfl⟩
      · rcases ih h with ⟨kw', hkw, hp⟩ | ⟨user, huser, hp⟩
        · exact Or.inl ⟨kw', List.mem_cons_of_mem _ hkw, hp⟩
        · exact Or.inr ⟨user, hall ▸ List.mem_append_right _ huser, hp⟩

/-- **Counting.** Where the loops refuse no id, every byte is written once. -/
theorem filled_once {adjust : ℤ → ℤ} {kws : List KeywordLevels} {f : Filling}
    (hadjust : ∀ level ≤ ST_MAX_FSTAGE_CONF_LEVEL, adjust level = level)
    (hrange : ∀ kw ∈ kws, kw.InRange) (hfill : fill adjust 0 kws = some f) :
    FilledOnce kws f.conf_levels := by
  obtain ⟨⟨hids, hnodup⟩, rfl⟩ := fill_eq_some_iff.mp hfill
  have hnum := num_conf_levels_eq kws
  have hsize : (List.replicate (num_conf_levels 0 kws) 0).length = num_conf_levels 0 kws :=
    List.length_replicate
  have honce : (List.range kws.length ++ (allUsers kws).map (·.user_id)).Perm
      (List.range (num_conf_levels 0 kws)) := by
    refine perm_range_of_nodup ?_ ?_ (by simp [hnum])
    · refine List.nodup_append.mpr ⟨List.nodup_range, by simpa using hnodup, ?_⟩
      intro a ha b hb hab
      obtain ⟨user, huser, rfl⟩ := List.mem_map.mp hb
      have hlow := (hids user huser).1
      have hhigh := List.mem_range.mp ha
      omega
    · intro k hk
      rcases List.mem_append.mp hk with hk | hk
      · have hlt := List.mem_range.mp hk
        omega
      · obtain ⟨user, huser, rfl⟩ := List.mem_map.mp hk
        exact (hids user huser).2
  have hplaces : ((levelWrites adjust 0 kws).map Prod.fst).Perm
      (List.range (List.replicate (num_conf_levels 0 kws) 0).length) := by
    rw [hsize]
    refine (levelWrites_places adjust kws 0).trans ?_
    rwa [← List.range_eq_range']
  have hkeys := hplaces.nodup_iff.mpr List.nodup_range
  have husers : ∀ user ∈ allUsers kws, 0 ≤ user.level ∧ user.level ≤ ST_MAX_FSTAGE_CONF_LEVEL := by
    intro user huser
    obtain ⟨kw, hkw, huser⟩ := List.mem_flatMap.mp huser
    exact (hrange kw hkw).2 user huser
  refine ⟨by simp [hnum], ?_, ?_, by simpa using honce, ?_⟩
  · intro i hi
    have hmem := mem_levelWrites_keyword adjust hi 0
    rw [Nat.zero_add, levelByte_of_inRange (hrange _ (List.getElem_mem hi)).1] at hmem
    exact getElem?_scatter_of_mem hkeys hmem (by rw [hsize, hnum]; omega)
  · intro user huser
    have hmem := mem_levelWrites_user adjust huser 0
    rw [hadjust _ (husers user huser).2, levelByte_of_inRange (husers user huser)] at hmem
    exact getElem?_scatter_of_mem hkeys hmem (by rw [hsize]; exact (hids user huser).2)
  · intro level hlevel
    obtain ⟨k, hk⟩ := mem_of_mem_scatter hplaces hlevel
    have hle : ∀ l : ℤ, 0 ≤ l ∧ l ≤ ST_MAX_FSTAGE_CONF_LEVEL →
        levelByte l ≤ MAX_CONF_LEVEL_VALUE := by
      intro l hl
      rw [levelByte_of_inRange hl]
      unfold ST_MAX_FSTAGE_CONF_LEVEL at hl
      unfold MAX_CONF_LEVEL_VALUE
      omega
    rcases levelWrites_cases hk with ⟨kw, hkw, hp⟩ | ⟨user, huser, hp⟩
    · exact Nat.le_trans (Nat.le_of_eq hp) (hle _ (hrange kw hkw).1)
    · rw [hadjust _ (husers user huser).2] at hp
      exact Nat.le_trans (Nat.le_of_eq hp) (hle _ (husers user huser))

/-! ### The three functions -/

/-- The keywords in use with the users in use, in the structure of `version`. -/
def st_sound_model_conf_levels.levels (version : ℕ) (sm : st_sound_model_conf_levels) :
    List KeywordLevels :=
  (sm.kw_levels.toList.take sm.num_kw_levels).map fun kw =>
    ⟨storedLevel version kw.kw_level,
      (kw.user_levels.toList.take kw.num_user_levels).map fun user =>
        ⟨user.user_id, storedLevel version user.level⟩⟩

/-- Indexing an array as far as a count that fits. -/
theorem map_getElem?_range {α β : Type*} {n m : ℕ} (v : Vector α n) (f : α → β) (h : m ≤ n) :
    (List.range m).map (fun i => v[i]?.map f) = ((v.toList.take m).map f).map some := by
  refine List.ext_getElem (by simp [h]) ?_
  intro i hi _
  have him : i < m := by simpa using hi
  have hin : i < n := Nat.lt_of_lt_of_le him h
  simp [hin]

/-- Counts that fit lead to entries that are there. -/
theorem keywords_of_fits {sm : st_sound_model_conf_levels} (h : sm.Fits) (version : ℕ) :
    sm.keywords version =
      (sm.levels version).map fun kw => some ⟨kw.level, kw.users.map some⟩ := by
  obtain ⟨hkws, husers⟩ := h
  unfold st_sound_model_conf_levels.keywords st_sound_model_conf_levels.levels
  rw [map_getElem?_range _ _ hkws, List.map_map, List.map_map]
  refine List.map_congr_left fun kw hkw => ?_
  have hread := map_getElem?_range kw.user_levels
    (fun user => (⟨user.user_id, storedLevel version user.level⟩ : st_user_levels))
    (husers kw hkw)
  simp [st_keyword_levels.keyword, hread]

/-- What a call leaves in the caller's variables, `out` before it: on success, without a model id,
the array filled once; after a failure no buffer of the call. -/
def Answers (model_id : ℕ) (kws : List KeywordLevels) (out : ConfLevelsOut)
    (r : ConfLevelsOut × ℤ) : Prop :=
  (r.2 = 0 → model_id = 0 → ∃ buf, r.1 = ⟨some buf, buf.length⟩ ∧ FilledOnce kws buf) ∧
    (r.2 ≠ 0 → r.1 = out ∨ r.1.conf_levels = none)

theorem answers_failed {model_id : ℕ} {kws : List KeywordLevels} {out out' : ConfLevelsOut}
    {status : ℤ} (hstatus : status ≠ 0) (hout : out' = out ∨ out'.conf_levels = none) :
    Answers model_id kws out (out', status) :=
  ⟨fun h => absurd h hstatus, fun _ => hout⟩

/-- The end of the functions, once the levels are checked. -/
theorem answers_fillOut {adjust : ℤ → ℤ} {model_id : ℕ} {kws : List KeywordLevels}
    {out : ConfLevelsOut} (hadjust : ∀ level ≤ ST_MAX_FSTAGE_CONF_LEVEL, adjust level = level)
    (hrange : ∀ kw ∈ kws, kw.InRange) : Answers model_id kws out (fillOut adjust model_id kws) := by
  unfold fillOut
  rcases hfill : fill adjust model_id kws with _ | f
  · exact answers_failed (by decide) (Or.inr rfl)
  · refine ⟨?_, fun h => absurd rfl h⟩
    rintro - rfl
    have honce := filled_once hadjust hrange hfill
    refine ⟨f.conf_levels, ?_, honce⟩
    show ConfLevelsOut.mk _ _ = _
    rw [honce.size, num_conf_levels_eq]

theorem fillConfLevels_answers (mem : Callocs) (model_id : ℕ) (phrase_sm : Option ℕ)
    (phrases : List pal_st_phrase_recognition_extra) (out : ConfLevelsOut) :
    Answers model_id (phrases.map (·.keyword)) out
      (fillConfLevels mem model_id phrase_sm (some phrases) out) := by
  unfold fillConfLevels
  dsimp only
  split_ifs with hphrases hmem hmem' hbad
  · exact answers_failed (by decide) (Or.inl rfl)
  · exact answers_failed (by decide) (Or.inl rfl)
  · exact answers_failed (by decide) (Or.inr rfl)
  · exact answers_failed (by decide) (Or.inr rfl)
  · refine answers_fillOut ?_ ?_
    · intro level hlevel
      split_ifs with hlt
      · rfl
      · exact Int.le_antisymm (Int.not_lt.mp hlt) hlevel
    · intro kw hkw
      have hall := List.any_eq_false.mp (Bool.not_eq_true _ ▸ hbad) kw hkw
      obtain ⟨phrase, -, rfl⟩ := List.mem_map.mp hkw
      simp only [Bool.or_eq_true, decide_eq_true_eq, List.any_eq_true, not_or, not_exists,
        not_and, Int.not_lt, gt_iff_lt] at hall
      refine ⟨⟨Int.natCast_nonneg _, hall.1⟩, fun user huser => ⟨?_, hall.2 user huser⟩⟩
      obtain ⟨level, -, rfl⟩ := List.mem_map.mp huser
      exact Int.natCast_nonneg _

theorem checkUsers_map_some (bad : ℤ → Bool) (users : List st_user_levels) :
    checkUsers bad (users.map some) ≠ none := by
  induction users with
  | nil => exact Option.some_ne_none _
  | cons user users ih =>
    show (if bad user.level then some none
      else (checkUsers bad (users.map some)).map (Option.map (user :: ·))) ≠ none
    split_ifs with hbad
    · exact Option.some_ne_none _
    · rwa [ne_eq, Option.map_eq_none_iff]

/-- No count leads out of an array where the entries are there. -/
theorem checkLevels_map_some (bad : ℤ → Bool) (kws : List KeywordLevels) :
    checkLevels bad (kws.map fun kw => some ⟨kw.level, kw.users.map some⟩) ≠ none := by
  induction kws with
  | nil => exact Option.some_ne_none _
  | cons kw kws ih =>
    rw [List.map_cons]
    unfold checkLevels
    split_ifs with hbad
    · exact Option.some_ne_none _
    · rcases hread : checkUsers bad (kw.users.map some) with _ | _ | users
      · exact absurd hread (checkUsers_map_some bad kw.users)
      · exact Option.some_ne_none _
      · rw [Option.bind_some]
        show Option.map _ _ ≠ none
        rwa [ne_eq, Option.map_eq_none_iff]

/-- Entries tell their keywords. -/
theorem keyword_entries_injective : Function.Injective fun kws : List KeywordLevels =>
    kws.map fun kw => (some ⟨kw.level, kw.users.map some⟩ : Option Keyword) := by
  refine List.map_injective_iff.mpr ?_
  rintro ⟨level, users⟩ ⟨level', users'⟩ h
  have heq : Keyword.mk level (users.map some) = ⟨level', users'.map some⟩ := Option.some.inj h
  obtain ⟨rfl, husers⟩ := Keyword.mk.inj heq
  obtain rfl : users = users' :=
    List.map_injective_iff.mpr (fun _ _ hsome => Option.some.inj hsome) husers
  rfl

theorem KeywordLevels.Passes.inRange {kw : KeywordLevels} (h : kw.Passes badLevel) :
    kw.InRange := by
  have hlevel : ∀ level : ℤ, badLevel level = false →
      0 ≤ level ∧ level ≤ ST_MAX_FSTAGE_CONF_LEVEL := by
    intro level hbad
    simp only [badLevel, Bool.or_eq_false_iff, decide_eq_false_iff_not] at hbad
    omega
  exact ⟨hlevel _ h.1, fun user huser => hlevel _ (h.2 user huser)⟩

theorem fillOpaqueConfLevels_answers (mem : Callocs) (model_id : ℕ)
    {sm : st_sound_model_conf_levels} (h : sm.Fits) (version : ℕ) (out : ConfLevelsOut) :
    ∃ r, fillOpaqueConfLevels mem model_id (some sm) version out = some r ∧
      Answers model_id (sm.levels version) out r := by
  have hentries := keywords_of_fits h version
  show ∃ r, (checkLevels badLevel (sm.keywords version)).map _ = some r ∧ _
  rcases hcheck : checkLevels badLevel (sm.keywords version) with _ | _ | kws
  · rw [hentries] at hcheck
    exact absurd hcheck (checkLevels_map_some _ _)
  · exact ⟨_, rfl, answers_failed (by decide) (Or.inl rfl)⟩
  · obtain ⟨heq, hpasses⟩ := checkLevels_eq_some_iff.mp hcheck
    obtain rfl : kws = sm.levels version := keyword_entries_injective (heq.symm.trans hentries)
    refine ⟨_, rfl, ?_⟩
    dsimp only
    split_ifs with hnum hmem hmem'
    · exact answers_failed (by decide) (Or.inl rfl)
    · exact answers_failed (by decide) (Or.inl rfl)
    · exact answers_failed (by decide) (Or.inr rfl)
    · exact answers_fillOut (fun _ _ => rfl) fun kw hkw => (hpasses kw hkw).inRange

/-- The function sees a config only as the list of its keywords. -/
theorem fillOpaqueConfLevels_congr (mem : Callocs) (model_id : ℕ)
    {sm sm' : st_sound_model_conf_levels} {version version' : ℕ} (out : ConfLevelsOut)
    (h : sm.keywords version = sm'.keywords version') :
    fillOpaqueConfLevels mem model_id (some sm) version out =
      fillOpaqueConfLevels mem model_id (some sm') version' out := by
  unfold fillOpaqueConfLevels
  dsimp only
  rw [h]

/-- **Confidence arrays are filled once.** Whatever the levels are, the two functions either fail and
return no buffer, or fill one in which every byte is the level of one keyword or of one user; and
configs of equal levels, in either structure, have equal answers. -/
theorem confLevels_filled_once (mem : Callocs) (model_id : ℕ) (out : ConfLevelsOut) :
    (∀ phrase_sm phrases, Answers model_id (phrases.map (·.keyword)) out
      (fillConfLevels mem model_id phrase_sm (some phrases) out)) ∧
    (∀ phrase_sm, fillConfLevels mem model_id phrase_sm none out = (out, - EINVAL)) ∧
    (∀ (sm : st_sound_model_conf_levels) (version : ℕ), sm.Fits →
      ∃ r, fillOpaqueConfLevels mem model_id (some sm) version out = some r ∧
        Answers model_id (sm.levels version) out r) ∧
    (∀ version, fillOpaqueConfLevels mem model_id none version out = some (out, - EINVAL)) ∧
    ∀ (sm sm' : st_sound_model_conf_levels) (version version' : ℕ), sm.Fits → sm'.Fits →
      sm.levels version = sm'.levels version' →
      fillOpaqueConfLevels mem model_id (some sm) version out =
        fillOpaqueConfLevels mem model_id (some sm') version' out := by
  refine ⟨fun phrase_sm phrases => fillConfLevels_answers mem model_id phrase_sm phrases out,
    fun _ => rfl, fun sm version h => fillOpaqueConfLevels_answers mem model_id h version out,
    fun _ => rfl, ?_⟩
  intro sm sm' version version' h h' heq
  refine fillOpaqueConfLevels_congr mem model_id out ?_
  rw [keywords_of_fits h, keywords_of_fits h', heq]

/-- Two keywords, the first with a user at id 2, as version 1 and as version 2. -/
def twoKeywords (sm_id : ℕ) : st_sound_model_conf_levels where
  sm_id := sm_id
  num_kw_levels := 2
  kw_levels := ((Vector.replicate ST_MAX_KEYWORDS .zero).set 0
    ⟨60, 1, (Vector.replicate ST_MAX_USERS .zero).set 0 ⟨2, 75⟩⟩).set 1
    ⟨40, 0, Vector.replicate ST_MAX_USERS .zero⟩

theorem confLevels_filled_once_twoKeywords :
    fillOpaqueConfLevels ⟨true, true⟩ 0 (some (twoKeywords 0)) 1 .freed =
        some (⟨some [60, 40, 75], 3⟩, 0) ∧
      fillOpaqueConfLevels ⟨true, true⟩ 0 (some (twoKeywords 0)) 1 .freed =
        fillOpaqueConfLevels ⟨true, true⟩ 0 (some (twoKeywords 1)) 2 .freed :=
  ⟨by decide, (confLevels_filled_once ⟨true, true⟩ 0 .freed).2.2.2.2 _ _ 1 2 (by decide) (by decide)
    (by decide)⟩

end AudioReachPal.Sva
