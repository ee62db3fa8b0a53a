import AudioReachPal.Sva.Defs

/-!
# The names of confidence levels

`SoundModelInfo::SetConfLevels` names the entries of a sound model's levels: the keyphrases, and
behind them each active pair of a user and a keyphrase. The names are how the levels of a stream and
those of the merged model are matched. The counter `k` of the pairs goes on from one keyphrase to
the next and is compared with the count of each, so a second keyphrase with users is cut short
(`setConfLevels_names_iff`).

A C string is the `String` of its bytes, one character each.
-/

namespace AudioReachPal.Sva

/-! ### Strings -/

def MAX_STRING_LEN : ℕ := 100 * 2
def MAX_KW_USERS_NAME_LEN : ℕ := 2 * MAX_STRING_LEN

/-- `strlcpy`: what is left in a buffer of `size` bytes. -/
def strlcpy (src : String) (size : ℕ) : String := String.ofList (src.toList.take (size - 1))

/-- `strlcat`, which leaves a full buffer as it is. -/
def strlcat (dst src : String) (size : ℕ) : String :=
  if size ≤ dst.length then dst
  else String.ofList ((dst.toList ++ src.toList).take (size - 1))

theorem strlcpy_of_lt {src : String} {size : ℕ} (h : src.length < size) : strlcpy src size = src := by
  unfold strlcpy
  rw [List.take_of_length_le (by rw [String.length_toList]; omega), String.ofList_toList]

theorem strlcat_of_lt {dst src : String} {size : ℕ} (h : dst.length + src.length < size) :
    strlcat dst src size = dst ++ src := by
  have hlen : (dst.toList ++ src.toList).length ≤ size - 1 := by
    rw [List.length_append, String.length_toList, String.length_toList]
    omega
  unfold strlcat
  rw [if_neg (by omega), List.take_of_length_le hlen, ← String.toList_append, String.ofList_toList]

/-! ### The loops -/

/-- The arguments of `setConfLevels`, which are the fields of the model's header of this kind:
the number of active pairs, the number of users of each keyphrase (a null pointer is `none`), and
the flags, by user and keyphrase. -/
structure listen_sound_model_header where
  numActiveUserKeywordPairs : ℕ
  numUsersSetPerKw : Option (List ℕ)
  userKeywordPairFlags : ℕ → ℕ → ℕ

/-- The state of the loops: the array of names, and the two counters. -/
structure Naming where
  names : List String
  ukw_idx : ℕ
  k : ℕ

/-- Writes a name at index `i` of the array; `none` is a write outside. -/
def writeName (names : List String) (i : ℕ) (name : String) : Option (List String) :=
  if i < names.length then some (names.set i name) else none

/-- The loop over the users, from user `j` on, for keyphrase `i`. -/
def nameUsers (hdr : listen_sound_model_header) (num_keyphrases i num_users_per_kw : ℕ)
    (keyphrase : String) : (j : ℕ) → List String → Naming → Option Naming
  | _, [], n => some n
  | j, user :: users, n =>
    if num_users_per_kw ≤ n.k then some n
    else if hdr.userKeywordPairFlags j i ≠ 0 then
      let name :=
        strlcat (strlcpy user MAX_KW_USERS_NAME_LEN) keyphrase MAX_KW_USERS_NAME_LEN
      (writeName n.names (num_keyphrases + n.ukw_idx) name).bind fun names =>
        nameUsers hdr num_keyphrases i num_users_per_kw keyphrase (j + 1) users
          ⟨names, n.ukw_idx + 1, n.k + 1⟩
    else nameUsers hdr num_keyphrases i num_users_per_kw keyphrase (j + 1) users n

/-- The loop over the keyphrases, from keyphrase `i` on. -/
def nameKeyphrases (hdr : listen_sound_model_header) (num_keyphrases : ℕ) (users : List String) :
    (i : ℕ) → List String → Naming → Option Naming
  | _, [], n => some n
  | i, keyphrase :: keyphrases, n =>
    (writeName n.names i (strlcpy keyphrase MAX_KW_USERS_NAME_LEN)).bind fun names =>
      match hdr.numUsersSetPerKw with
      | none => nameKeyphrases hdr num_keyphrases users (i + 1) keyphrases { n with names }
      | some num_users_per_kw =>
        num_users_per_kw[i]?.bind fun count =>
          (nameUsers hdr num_keyphrases i count keyphrase 0 users { n with names }).bind
            (nameKeyphrases hdr num_keyphrases users (i + 1) keyphrases)

/-- Which of the two allocations succeed. -/
structure NameAllocs where
  cf_levels_kw_users_ : Bool
  cf_levels_ : Bool

/-- `setConfLevels`. The two counts are 16 bits wide in the model's header, so their sum is exact. -/
def SoundModelInfo.setConfLevels {M : Type} (mem : NameAllocs) (info : SoundModelInfo M)
    (hdr : listen_sound_model_header) : Option (SoundModelInfo M × ℤ) :=
  let cf_levels_size_ := info.keyphrases_.length + hdr.numActiveUserKeywordPairs
  let info := { info with cf_levels_size_ }
  if cf_levels_size_ = 0 then some (info, 0)
  else if !mem.cf_levels_kw_users_ then some ({ info with cf_levels_kw_users_ := [] }, - ENOMEM)
  else
    let names := List.replicate cf_levels_size_ ""
    if !mem.cf_levels_ then
      some ({ info with cf_levels_kw_users_ := names, cf_levels_ := [] }, - ENOMEM)
    else
      (nameKeyphrases hdr info.keyphrases_.length info.users_ 0 info.keyphrases_ ⟨names, 0, 0⟩).map
        fun n =>
          ({ info with
              cf_levels_kw_users_ := n.names
              cf_levels_ := List.replicate cf_levels_size_ MAX_CONF_LEVEL_VALUE
              det_cf_levels_ := List.replicate cf_levels_size_ 0 }, 0)

/-! ### The entries -/

/-- What a level is for. -/
inductive Entry where
  | keyphrase (kw : String)
  | pair (user kw : String)
  deriving DecidableEq, Repr

/-- The name of an entry. -/
def Entry.name : Entry → String
  | keyphrase kw => kw
  | pair user kw => user ++ kw

/-- The active users of keyphrase `i`, from user `j` on. -/
def activeUsers (hdr : listen_sound_model_header) (i : ℕ) : (j : ℕ) → List String → List String
  | _, [] => []
  | j, user :: users =>
    if hdr.userKeywordPairFlags j i ≠ 0 then user :: activeUsers hdr i (j + 1) users
    else activeUsers hdr i (j + 1) users

/-- The pairs of the keyphrases, from keyphrase `i` on. -/
def activePairs (hdr : listen_sound_model_header) (users : List String) :
    (i : ℕ) → List String → List (List Entry)
  | _, [] => []
  | i, kw :: kws =>
    (activeUsers hdr i 0 users).map (.pair · kw) :: activePairs hdr users (i + 1) kws

/-- The entries of a model: the keyphrases in order, then for each keyphrase its active users. -/
def SoundModelInfo.entries {M : Type} (info : SoundModelInfo M) (hdr : listen_sound_model_header) :
    List Entry :=
  info.keyphrases_.map .keyphrase ++ (activePairs hdr info.users_ 0 info.keyphrases_).flatten

/-- The number of active users of each keyphrase. -/
def SoundModelInfo.counts {M : Type} (info : SoundModelInfo M) (hdr : listen_sound_model_header) :
    List ℕ :=
  (activePairs hdr info.users_ 0 info.keyphrases_).map List.length

/-- The header belongs to the model: its counts are those of its flags, and the names fit the
buffers that `SetKeyPhrases` and `SetUsers` allocate. -/
structure SoundModelInfo.Consistent {M : Type} (info : SoundModelInfo M)
    (hdr : listen_sound_model_header) : Prop where
  total : hdr.numActiveUserKeywordPairs = (info.counts hdr).sum
  counts : hdr.numUsersSetPerKw = some (info.counts hdr) ∨
    hdr.numUsersSetPerKw = none ∧ (info.counts hdr).sum = 0
  keyphrases : ∀ kw ∈ info.keyphrases_, kw.length < MAX_STRING_LEN
  users : ∀ user ∈ info.users_, user.length < MAX_STRING_LEN

/-- The names tell the entries: each entry has its own, none is empty, and entries that differ have
different names. -/
structure NamesEntries (entries : List Entry) (names : List String) : Prop where
  named : names = entries.map Entry.name
  nonempty : "" ∉ names
  distinct : ∀ e ∈ entries, ∀ e' ∈ entries, e.name = e'.name → e = e'

/-! ### What the loops write -/

/-- The users of each keyphrase that are reached, with `k` at its value before the first. -/
def reached {α : Type*} : (k : ℕ) → List (List α) → List (List α)
  | _, [] => []
  | k, pairs :: rest =>
    pairs.take (pairs.length - k) :: reached (k + (pairs.length - k)) rest

/-- The array: names of keyphrases that are written and some that are not, then the same for pairs. -/
def nameArray (kws : List String) (left : ℕ) (pairs : List String) (free : ℕ) : List String :=
  kws ++ (List.replicate left "" ++ (pairs ++ List.replicate free ""))

theorem writeName_append_cons (front back : List String) (x name : String) :
    writeName (front ++ x :: back) front.length name = some (front ++ name :: back) := by
  unfold writeName
  rw [if_pos (by simp), List.set_append_right _ _ (Nat.le_refl _), Nat.sub_self, List.set_cons_zero]

theorem writeName_keyphrase (kws pairs : List String) (left free : ℕ) (name : String) :
    writeName (nameArray kws (left + 1) pairs free) kws.length name =
      some (nameArray (kws ++ [name]) left pairs free) := by
  unfold nameArray
  rw [List.replicate_succ, List.cons_append, writeName_append_cons, List.append_assoc]
  rfl

theorem writeName_pair (kws pairs : List String) (left free : ℕ) (name : String) :
    writeName (nameArray kws left pairs (free + 1)) (kws.length + left + pairs.length) name =
      some (nameArray kws left (pairs ++ [name]) free) := by
  have hfront : nameArray kws left pairs (free + 1) =
      (kws ++ (List.replicate left "" ++ pairs)) ++ "" :: List.replicate free "" := by
    simp [nameArray, List.replicate_succ]
  have hlen : kws.length + left + pairs.length =
      (kws ++ (List.replicate left "" ++ pairs)).length := by
    simp [Nat.add_assoc]
  rw [hfront, hlen, writeName_append_cons]
  simp [nameArray]

/-- The loop over the users names as many active users as the counter leaves. -/
theorem nameUsers_eq (hdr : listen_sound_model_header) (i count : ℕ) (kw : String)
    (hkw : kw.length < MAX_STRING_LEN) (users : List String)
    (husers : ∀ user ∈ users, user.length < MAX_STRING_LEN) :
    ∀ (j : ℕ) (kws : List String) (left : ℕ) (pairs : List String) (free k : ℕ) (names : List String),
      names = ((activeUsers hdr i j users).take (count - k)).map (· ++ kw) →
      names.length ≤ free →
      nameUsers hdr (kws.length + left) i count kw j users
          ⟨nameArray kws left pairs free, pairs.length, k⟩ =
        some ⟨nameArray kws left (pairs ++ names) (free - names.length),
          (pairs ++ names).length, k + names.length⟩ := by
  induction users with
  | nil =>
    intro j kws left pairs free k names hnames _
    obtain rfl : names = [] := by simpa [activeUsers] using hnames
    simp [nameUsers]
  | cons user users ih =>
    intro j kws left pairs free k names hnames hfree
    have ih := ih fun u hu => husers u (List.mem_cons_of_mem _ hu)
    unfold nameUsers
    by_cases hk : count ≤ k
    · obtain rfl : names = [] := by simpa [Nat.sub_eq_zero_of_le hk] using hnames
      rw [if_pos hk]
      simp
    rw [if_neg hk]
    by_cases hflag : hdr.userKeywordPairFlags j i ≠ 0
    · have hcons : names = (user ++ kw) ::
          ((activeUsers hdr i (j + 1) users).take (count - (k + 1))).map (· ++ kw) := by
        rw [hnames, activeUsers, if_pos hflag, show count - k = count - (k + 1) + 1 by omega,
          List.take_succ_cons, List.map_cons]
      have hname : strlcat (strlcpy user MAX_KW_USERS_NAME_LEN) kw MAX_KW_USERS_NAME_LEN =
          user ++ kw := by
        have huser := husers user List.mem_cons_self
        unfold MAX_KW_USERS_NAME_LEN
        rw [strlcpy_of_lt (by omega), strlcat_of_lt (by omega)]
      obtain ⟨rest, rfl, hrest⟩ : ∃ rest, names = (user ++ kw) :: rest ∧
          rest = ((activeUsers hdr i (j + 1) users).take (count - (k + 1))).map (· ++ kw) :=
        ⟨_, hcons, rfl⟩
      rw [List.length_cons] at hfree
      obtain ⟨free, rfl⟩ : ∃ free', free = free' + 1 := ⟨free - 1, by omega⟩
      rw [if_pos hflag, hname]
      dsimp only
      rw [writeName_pair, Option.bind_some]
      have hind := ih (j + 1) kws left (pairs ++ [user ++ kw]) free (k + 1) rest hrest (by omega)
      rw [List.length_append, List.length_singleton] at hind
      rw [hind, List.append_assoc, List.singleton_append, List.length_cons,
        Nat.add_sub_add_right, Nat.add_assoc, Nat.add_comm 1]
    · rw [if_neg hflag]
      refine ih (j + 1) kws left pairs free k names ?_ hfree
      rw [hnames, activeUsers, if_neg hflag]

theorem length_reached_le {α : Type*} (pairs : List (List α)) (k : ℕ) :
    (reached k pairs).flatten.length ≤ pairs.flatten.length := by
  induction pairs generalizing k with
  | nil => exact Nat.le_refl _
  | cons pairs rest ih =>
    have hrest := ih (k + (pairs.length - k))
    simp only [reached, List.flatten_cons, List.length_append, List.length_take]
    omega

/-- Without counts the loop over the keyphrases copies each of them and names no pair. -/
theorem nameKeyphrases_of_none {hdr : listen_sound_model_header} (users : List String)
    (hcounts : hdr.numUsersSetPerKw = none) (num_keyphrases : ℕ) (rest : List String)
    (hrest : ∀ kw ∈ rest, kw.length < MAX_STRING_LEN) :
    ∀ (kws pairs : List String) (free ukw_idx k : ℕ),
      nameKeyphrases hdr num_keyphrases users kws.length rest
          ⟨nameArray kws rest.length pairs free, ukw_idx, k⟩ =
        some ⟨nameArray (kws ++ rest) 0 pairs free, ukw_idx, k⟩ := by
  induction rest with
  | nil =>
    intro kws pairs free ukw_idx k
    simp [nameKeyphrases]
  | cons kw rest ih =>
    intro kws pairs free ukw_idx k
    have hkw := hrest kw List.mem_cons_self
    have hcopy : strlcpy kw MAX_KW_USERS_NAME_LEN = kw :=
      strlcpy_of_lt (by unfold MAX_KW_USERS_NAME_LEN; omega)
    have hnext := ih (fun kw' hkw' => hrest kw' (List.mem_cons_of_mem _ hkw')) (kws ++ [kw]) pairs
      free ukw_idx k
    rw [List.length_append, List.append_assoc] at hnext
    unfold nameKeyphrases
    rw [hcopy, List.length_cons, writeName_keyphrase, Option.bind_some, hcounts]
    exact hnext

/-- The loop over the keyphrases copies each of them, and names the pairs that are reached. -/
theorem nameKeyphrases_of_counts {hdr : listen_sound_model_header} {users : List String}
    (husers : ∀ user ∈ users, user.length < MAX_STRING_LEN) (num_keyphrases : ℕ)
    (rest : List String) (hrest : ∀ kw ∈ rest, kw.length < MAX_STRING_LEN) :
    ∀ (kws pairs : List String) (free k : ℕ) (before : List ℕ) (later : List (List Entry))
      (names : List String),
      activePairs hdr users kws.length rest = later →
      before.length = kws.length → num_keyphrases = kws.length + rest.length →
      hdr.numUsersSetPerKw = some (before ++ later.map List.length) →
      names = (reached k later).flatten.map Entry.name → names.length ≤ free →
      ∃ ukw_idx k', nameKeyphrases hdr num_keyphrases users kws.length rest
          ⟨nameArray kws rest.length pairs free, pairs.length, k⟩ =
        some ⟨nameArray (kws ++ rest) 0 (pairs ++ names) (free - names.length), ukw_idx, k'⟩ := by
  induction rest with
  | nil =>
    rintro kws pairs free k before later names rfl - - - rfl -
    exact ⟨pairs.length, k, by simp [nameKeyphrases, activePairs, reached]⟩
  | cons kw rest ih =>
    rintro kws pairs free k before _ _ rfl hbefore hnum hcounts rfl hfree
    have hkw := hrest kw List.mem_cons_self
    have hcopy : strlcpy kw MAX_KW_USERS_NAME_LEN = kw :=
      strlcpy_of_lt (by unfold MAX_KW_USERS_NAME_LEN; omega)
    -- the users of this keyphrase, and the pairs of those behind it
    obtain ⟨active, hactive⟩ : ∃ active, activeUsers hdr kws.length 0 users = active := ⟨_, rfl⟩
    obtain ⟨later, hlater⟩ : ∃ later, activePairs hdr users (kws ++ [kw]).length rest = later :=
      ⟨_, rfl⟩
    have hpairs : activePairs hdr users kws.length (kw :: rest) =
        active.map (Entry.pair · kw) :: later := by
      rw [activePairs, hactive, ← hlater, List.length_append]
      rfl
    obtain ⟨own, hown⟩ : ∃ own, (active.take (active.length - k)).map (· ++ kw) = own := ⟨_, rfl⟩
    obtain ⟨others, hothers⟩ : ∃ others,
        (reached (k + (active.length - k)) later).flatten.map Entry.name = others := ⟨_, rfl⟩
    have hnames : (reached k (active.map (Entry.pair · kw) :: later)).flatten.map Entry.name =
        own ++ others := by
      simp [reached, ← List.map_take, Function.comp_def, Entry.name, ← hown, ← hothers]
    have hone : own.length = active.length - k := by
      rw [← hown, List.length_map, List.length_take]
      omega
    rw [hpairs, List.map_cons, List.length_map] at hcounts
    rw [hpairs, hnames, List.length_append] at hfree
    rw [hpairs, hnames]
    have hat : (before ++ active.length :: later.map List.length)[kws.length]? =
        some active.length := by
      rw [← hbefore, List.getElem?_append_right (Nat.le_refl _), Nat.sub_self]
      rfl
    have hsize : num_keyphrases = (kws ++ [kw]).length + rest.length := by
      rw [hnum]
      simp
      omega
    have husersLoop := nameUsers_eq hdr kws.length active.length kw hkw users husers 0 (kws ++ [kw])
      rest.length pairs free k own (by rw [hactive, hown]) (by omega)
    have hidx : (pairs ++ own).length = pairs.length + own.length := List.length_append
    have hkws : (kws ++ [kw]).length = kws.length + 1 := List.length_append
    have hwritten : (own ++ others).length = own.length + others.length := List.length_append
    rw [← hsize, hidx] at husersLoop
    obtain ⟨ukw_idx, k', hrestLoop⟩ := ih (fun kw' hkw' => hrest kw' (List.mem_cons_of_mem _ hkw'))
      (kws ++ [kw]) (pairs ++ own) (free - own.length) (k + own.length) (before ++ [active.length])
      later others hlater (by simp [hbefore]) hsize (by rw [hcounts, List.append_assoc]; rfl)
      (by rw [hone, hothers]) (by omega)
    rw [hkws, hidx, List.append_assoc, List.append_assoc, List.singleton_append] at hrestLoop
    refine ⟨ukw_idx, k', ?_⟩
    unfold nameKeyphrases
    rw [hcopy, List.length_cons, writeName_keyphrase, Option.bind_some, hcounts]
    show (Option.bind _ _) = _
    rw [hat, Option.bind_some]
    show (nameUsers hdr num_keyphrases kws.length active.length kw 0 users
      ⟨nameArray (kws ++ [kw]) rest.length pairs free, pairs.length, k⟩).bind _ = _
    rw [husersLoop, Option.bind_some, hwritten, ← Nat.sub_sub]
    exact hrestLoop

theorem flatten_reached_of_nil {α : Type*} {pairs : List (List α)} (h : pairs.flatten = []) (k : ℕ) :
    (reached k pairs).flatten = [] := by
  have hle := length_reached_le pairs k
  rw [h] at hle
  exact List.length_eq_zero_iff.mp (Nat.le_zero.mp hle)

/-- Behind a keyphrase with users all pairs are reached only where there are none. -/
theorem flatten_eq_nil_of_reached {α : Type*} (pairs : List (List α)) {k : ℕ} (hk : 0 < k)
    (h : (reached k pairs).flatten.length = pairs.flatten.length) : pairs.flatten = [] := by
  induction pairs generalizing k with
  | nil => rfl
  | cons own rest ih =>
    have hle := length_reached_le rest (k + (own.length - k))
    simp only [reached, List.flatten_cons, List.length_append, List.length_take] at h
    have hown : own.length = 0 := by omega
    have hrest := ih (k := k + (own.length - k)) (by omega) (by omega)
    rw [List.flatten_cons, hrest, List.length_eq_zero_iff.mp hown, List.append_nil]

/-- **The counter.** All pairs are reached exactly where at most one keyphrase has users. -/
theorem reached_all_iff {α : Type*} (pairs : List (List α)) :
    (reached 0 pairs).flatten.length = pairs.flatten.length ↔
      ((pairs.map List.length).filter (0 < ·)).length ≤ 1 := by
  induction pairs with
  | nil => simp [reached]
  | cons own rest ih =>
    rcases Nat.eq_zero_or_pos own.length with hown | hown
    · obtain rfl : own = [] := List.length_eq_zero_iff.mp hown
      simpa [reached] using ih
    · have hnil : ((rest.map List.length).filter (0 < ·)).length ≤ 0 ↔ rest.flatten = [] := by
        simp [List.filter_eq_nil_iff]
      rw [List.map_cons, List.filter_cons_of_pos (by simpa using hown), List.length_cons,
        Nat.add_le_add_iff_right (n := 1), hnil]
      simp only [reached, Nat.sub_zero, List.take_length, List.flatten_cons, List.length_append,
        Nat.add_left_cancel_iff, Nat.zero_add]
      constructor
      · exact flatten_eq_nil_of_reached rest hown
      · intro h
        rw [h, flatten_reached_of_nil h]

/-- Where all pairs are reached, they are the pairs. -/
theorem reached_eq_of_length {α : Type*} (pairs : List (List α)) (k : ℕ)
    (h : (reached k pairs).flatten.length = pairs.flatten.length) :
    (reached k pairs).flatten = pairs.flatten := by
  induction pairs generalizing k with
  | nil => rfl
  | cons own rest ih =>
    have hle := length_reached_le rest (k + (own.length - k))
    simp only [reached, List.flatten_cons, List.length_append, List.length_take] at h ⊢
    rw [ih _ (by omega), List.take_of_length_le (by omega)]

/-! ### The names -/

variable {M : Type} {info : SoundModelInfo M} {hdr : listen_sound_model_header}

/-- The pairs of a user and a keyphrase of the model. -/
def SoundModelInfo.pairs (info : SoundModelInfo M) (hdr : listen_sound_model_header) : List Entry :=
  (activePairs hdr info.users_ 0 info.keyphrases_).flatten

theorem counts_sum (info : SoundModelInfo M) (hdr : listen_sound_model_header) :
    (info.counts hdr).sum = (info.pairs hdr).length := by
  unfold SoundModelInfo.counts SoundModelInfo.pairs
  rw [List.length_flatten]

/-- **What is named**: the keyphrases, and the pairs that are reached; the names of the others stay
as they were allocated. -/
theorem nameKeyphrases_names (h : info.Consistent hdr) :
    ∃ names ukw_idx k, nameKeyphrases hdr info.keyphrases_.length info.users_ 0 info.keyphrases_
        ⟨List.replicate (info.keyphrases_.length + hdr.numActiveUserKeywordPairs) "", 0, 0⟩ =
          some ⟨info.keyphrases_ ++ (names ++
            List.replicate (hdr.numActiveUserKeywordPairs - names.length) ""), ukw_idx, k⟩ ∧
      names = (reached 0 (activePairs hdr info.users_ 0 info.keyphrases_)).flatten.map Entry.name := by
  have hstart : List.replicate (info.keyphrases_.length + hdr.numActiveUserKeywordPairs) "" =
      nameArray [] info.keyphrases_.length [] hdr.numActiveUserKeywordPairs := by
    simp [nameArray, List.replicate_append_replicate]
  have hend : ∀ names free, nameArray info.keyphrases_ 0 names free =
      info.keyphrases_ ++ (names ++ List.replicate free "") := fun _ _ => rfl
  have hle := length_reached_le (activePairs hdr info.users_ 0 info.keyphrases_) 0
  rw [hstart]
  rcases h.counts with hcounts | ⟨hcounts, hsum⟩
  · obtain ⟨ukw_idx, k, hloop⟩ := nameKeyphrases_of_counts h.users info.keyphrases_.length
      info.keyphrases_ h.keyphrases [] [] hdr.numActiveUserKeywordPairs 0 [] _ _ rfl rfl
      (Nat.zero_add _).symm (by rw [hcounts]; rfl) rfl
      (by rw [List.length_map, h.total, counts_sum]; exact hle)
    exact ⟨_, ukw_idx, k, hloop.trans (by rw [← hend]; rfl), rfl⟩
  · have hnil : (activePairs hdr info.users_ 0 info.keyphrases_).flatten = [] :=
      List.length_eq_zero_iff.mp ((counts_sum info hdr).symm.trans hsum)
    refine ⟨_, 0, 0, ?_, rfl⟩
    rw [flatten_reached_of_nil hnil, ← hend]
    exact nameKeyphrases_of_none info.users_ hcounts _ _ h.keyphrases [] [] _ 0 0

/-- A pair is of a keyphrase of the model. -/
theorem mem_activePairs {users : List String} {e : Entry} {kws : List String} {i : ℕ}
    (h : e ∈ (activePairs hdr users i kws).flatten) : ∃ user, ∃ kw ∈ kws, e = .pair user kw := by
  induction kws generalizing i with
  | nil => simp [activePairs] at h
  | cons kw kws ih =>
    rw [activePairs, List.flatten_cons] at h
    rcases List.mem_append.mp h with h | h
    · obtain ⟨user, -, rfl⟩ := List.mem_map.mp h
      exact ⟨user, kw, List.mem_cons_self, rfl⟩
    · obtain ⟨user, kw', hkw', rfl⟩ := ih h
      exact ⟨user, kw', List.mem_cons_of_mem _ hkw', rfl⟩

/-- Where at most one keyphrase has users, all pairs are of one. -/
theorem activePairs_single {users : List String} (kws : List String) (i : ℕ)
    (h : (((activePairs hdr users i kws).map List.length).filter (0 < ·)).length ≤ 1) :
    ∃ kw, ∀ e ∈ (activePairs hdr users i kws).flatten, ∃ user, e = .pair user kw := by
  induction kws generalizing i with
  | nil => exact ⟨"", by simp [activePairs]⟩
  | cons kw kws ih =>
    rcases hown : activeUsers hdr i 0 users with _ | ⟨user, own⟩
    · simp only [activePairs, hown, List.map_nil] at h ⊢
      exact ih (i + 1) h
    · have hnil : (activePairs hdr users (i + 1) kws).flatten = [] := by
        simpa [activePairs, hown, List.filter_eq_nil_iff] using h
      refine ⟨kw, fun e he => ?_⟩
      rw [activePairs, List.flatten_cons, hnil, List.append_nil] at he
      obtain ⟨user, -, rfl⟩ := List.mem_map.mp he
      exact ⟨user, rfl⟩

/-- At most one keyphrase has active users, no keyphrase is empty, and no user's name followed by
the keyphrase is a keyphrase. -/
structure SoundModelInfo.Separate (info : SoundModelInfo M) (hdr : listen_sound_model_header) :
    Prop where
  single : ((info.counts hdr).filter (0 < ·)).length ≤ 1
  nonempty : "" ∉ info.keyphrases_
  apart : ∀ e ∈ info.pairs hdr, e.name ∉ info.keyphrases_

/-- The names tell the entries exactly where the keyphrases and the pairs are separate. -/
theorem namesEntries_iff (h : info.Consistent hdr) {names : List String}
    (hnames : names =
      (reached 0 (activePairs hdr info.users_ 0 info.keyphrases_)).flatten.map Entry.name) :
    NamesEntries (info.entries hdr) (info.keyphrases_ ++ (names ++
      List.replicate (hdr.numActiveUserKeywordPairs - names.length) "")) ↔ info.Separate hdr := by
  have htotal : hdr.numActiveUserKeywordPairs = (info.pairs hdr).length :=
    h.total.trans (counts_sum info hdr)
  have hkws : (info.keyphrases_.map Entry.keyphrase).map Entry.name = info.keyphrases_ := by
    simp [Function.comp_def, Entry.name]
  have hmem : ∀ e, e ∈ info.entries hdr ↔
      (∃ kw ∈ info.keyphrases_, e = .keyphrase kw) ∨ e ∈ info.pairs hdr := by
    intro e
    simp [SoundModelInfo.entries, SoundModelInfo.pairs, eq_comm]
  constructor
  · intro hlaw
    refine ⟨?_, ?_, ?_⟩
    · refine (reached_all_iff _).mp (Nat.le_antisymm (length_reached_le _ 0) ?_)
      -- a pair that is not reached would leave an empty name
      by_contra hlt
      refine hlaw.nonempty (List.mem_append_right _ (List.mem_append_right _ ?_))
      refine List.mem_replicate.mpr ⟨?_, rfl⟩
      rw [hnames, List.length_map, htotal]
      unfold SoundModelInfo.pairs
      omega
    · exact fun hkw => hlaw.nonempty (List.mem_append_left _ hkw)
    · intro e he hkw
      obtain ⟨user, kw, -, rfl⟩ := mem_activePairs he
      have heq := hlaw.distinct _ ((hmem _).mpr (Or.inr he)) _
        ((hmem (.keyphrase (user ++ kw))).mpr (Or.inl ⟨_, hkw, rfl⟩)) rfl
      exact Entry.noConfusion heq
  · rintro ⟨hsingle, hnonempty, hapart⟩
    have hall := (reached_all_iff _).mpr hsingle
    have hpairs : names = (info.pairs hdr).map Entry.name := by
      rw [hnames, reached_eq_of_length _ _ hall]
      rfl
    have hfull : info.keyphrases_ ++ (names ++
        List.replicate (hdr.numActiveUserKeywordPairs - names.length) "") =
          (info.entries hdr).map Entry.name := by
      rw [hpairs, htotal, List.length_map, Nat.sub_self, List.replicate_zero, List.append_nil]
      unfold SoundModelInfo.entries
      rw [List.map_append, hkws]
      rfl
    obtain ⟨kw, hkw⟩ := activePairs_single info.keyphrases_ 0 hsingle
    rw [hfull]
    refine ⟨rfl, ?_, ?_⟩
    · intro hempty
      obtain ⟨e, he, hname⟩ := List.mem_map.mp hempty
      rcases (hmem e).mp he with ⟨kw, hkw, rfl⟩ | he
      · exact hnonempty (hname ▸ hkw)
      · obtain ⟨user, kw, hkw, rfl⟩ := mem_activePairs he
        exact hnonempty ((String.append_eq_empty_iff.mp hname).2 ▸ hkw)
    · intro e he e' he' hname
      rcases (hmem e).mp he with ⟨k, hk, rfl⟩ | he <;>
        rcases (hmem e').mp he' with ⟨k', hk', rfl⟩ | he'
      · exact congrArg Entry.keyphrase hname
      · exact absurd (hname ▸ hk) (hapart e' he')
      · exact absurd (hname ▸ hk') (hapart e he)
      · -- both pairs are of the one keyphrase that has users
        obtain ⟨user, rfl⟩ := hkw e he
        obtain ⟨user', rfl⟩ := hkw e' he'
        rw [(String.append_left_inj kw).mp hname]

/-- What `setConfLevels` is for: it ends, and where it succeeds it names all entries. -/
def SoundModelInfo.Names (mem : NameAllocs) (info : SoundModelInfo M)
    (hdr : listen_sound_model_header) : Prop :=
  ∃ info' status, info.setConfLevels mem hdr = some (info', status) ∧
    (status = 0 → info'.cf_levels_size_ = (info.entries hdr).length ∧
      NamesEntries (info.entries hdr) (info'.cf_levels_kw_users_.take info'.cf_levels_size_))

/-- **Names.** Where the memory is there, the entries of a model get their names exactly if at most
one keyphrase has active users, no keyphrase is empty, and no user's name followed by the keyphrase
is a keyphrase. -/
theorem setConfLevels_names_iff (mem : NameAllocs) (info : SoundModelInfo M)
    (hdr : listen_sound_model_header) (h : info.Consistent hdr) :
    info.Names mem hdr ↔
      (info.keyphrases_ ≠ [] ∧ (mem.cf_levels_kw_users_ && mem.cf_levels_) = false) ∨
        info.Separate hdr := by
  obtain ⟨names, ukw_idx, k, hloop, hnames⟩ := nameKeyphrases_names h
  have hsize : (info.entries hdr).length =
      info.keyphrases_.length + hdr.numActiveUserKeywordPairs := by
    rw [h.total, counts_sum]
    simp [SoundModelInfo.entries, SoundModelInfo.pairs]
  unfold SoundModelInfo.Names SoundModelInfo.setConfLevels
  by_cases hnil : info.keyphrases_ = []
  · have hentries : info.entries hdr = [] := by simp [SoundModelInfo.entries, hnil, activePairs]
    have hzero : info.keyphrases_.length + hdr.numActiveUserKeywordPairs = 0 := by
      rw [← hsize, hentries]
      rfl
    refine iff_of_true ⟨_, _, if_pos hzero, fun _ => ⟨hsize.symm, ?_⟩⟩ (Or.inr ?_)
    · rw [hentries]
      refine ⟨?_, ?_, fun e he => absurd he (by simp)⟩ <;> simp [hzero]
    · exact ⟨by simp [SoundModelInfo.counts, hnil, activePairs], by simp [hnil],
        fun e he => by simp [hnil]⟩
  · have hpos : info.keyphrases_.length + hdr.numActiveUserKeywordPairs ≠ 0 := by
      have := List.length_pos_iff.mpr hnil
      omega
    dsimp only
    rw [if_neg hpos]
    rcases hkw : mem.cf_levels_kw_users_ with _ | _
    · exact iff_of_true ⟨_, _, rfl, fun h0 => absurd h0 (by decide)⟩ (Or.inl ⟨hnil, rfl⟩)
    rcases hcf : mem.cf_levels_ with _ | _
    · exact iff_of_true ⟨_, _, rfl, fun h0 => absurd h0 (by decide)⟩ (Or.inl ⟨hnil, rfl⟩)
    have hfull : (info.keyphrases_ ++ (names ++
        List.replicate (hdr.numActiveUserKeywordPairs - names.length) "")).length ≤
          info.keyphrases_.length + hdr.numActiveUserKeywordPairs := by
      have hle := length_reached_le (activePairs hdr info.users_ 0 info.keyphrases_) 0
      rw [List.length_append, List.length_append, List.length_replicate, hnames, List.length_map,
        h.total, counts_sum]
      unfold SoundModelInfo.pairs
      omega
    rw [hloop, ← namesEntries_iff h hnames]
    constructor
    · rintro ⟨info', status, hrun, hlaw⟩
      cases hrun
      have hnamed := (hlaw rfl).2
      rw [List.take_of_length_le hfull] at hnamed
      exact Or.inr hnamed
    · rintro (⟨-, hmem⟩ | hlaw)
      · exact Bool.noConfusion hmem
      · refine ⟨_, _, rfl, fun _ => ⟨hsize.symm, ?_⟩⟩
        rw [List.take_of_length_le hfull]
        exact hlaw

/-! ### Two keyphrases with users -/

/-- A model of two keyphrases and a user who has trained both. -/
def twoTrained : SoundModelInfo Unit where
  sm_data_ := none
  sm_size_ := 0
  keyphrases_ := ["hello", "stop"]
  users_ := ["ann"]
  cf_levels_kw_users_ := []
  cf_levels_ := []
  det_cf_levels_ := []
  cf_levels_size_ := 0

def twoTrainedHeader : listen_sound_model_header := ⟨2, some [1, 1], fun _ _ => 1⟩

/-- The second pair keeps its empty name. -/
theorem setConfLevels_leaves_name : twoTrained.Consistent twoTrainedHeader ∧
    ((twoTrained.setConfLevels ⟨true, true⟩ twoTrainedHeader).map fun r =>
      (r.1.cf_levels_kw_users_, r.2)) = some (["hello", "stop", "annhello", ""], 0) ∧
    ¬ twoTrained.Names ⟨true, true⟩ twoTrainedHeader := by
  have hconsistent : twoTrained.Consistent twoTrainedHeader :=
    ⟨by decide, Or.inl (by decide), by decide, by decide⟩
  have hrun : ((twoTrained.setConfLevels ⟨true, true⟩ twoTrainedHeader).map fun r =>
      (r.1.cf_levels_kw_users_, r.2)) = some (["hello", "stop", "annhello", ""], 0) := by decide
  refine ⟨hconsistent, hrun, ?_⟩
  rintro ⟨info', status, hsome, hlaw⟩
  rw [hsome, Option.map_some, Option.some_inj, Prod.mk.injEq] at hrun
  obtain ⟨hnames, hstatus⟩ := hrun
  obtain ⟨hsize, hnamed⟩ := hlaw hstatus
  have hfour : (twoTrained.entries twoTrainedHeader).length = 4 := by decide
  have hempty := hnamed.nonempty
  rw [hnames, hsize, hfour] at hempty
  exact hempty (by decide)

/-- With one trained keyphrase, the names are right. -/
theorem setConfLevels_names_one :
    twoTrained.Names ⟨true, true⟩ ⟨1, some [0, 1], fun _ i => i⟩ :=
  (setConfLevels_names_iff ⟨true, true⟩ twoTrained _
    ⟨by decide, Or.inl (by decide), by decide, by decide⟩).mpr
      (Or.inr ⟨by decide, by decide, by decide⟩)

end AudioReachPal.Sva
