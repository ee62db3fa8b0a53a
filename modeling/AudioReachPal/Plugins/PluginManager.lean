import AudioReachPal.Types
import AudioReachPal.Lib.Runs
import AudioReachPal.Lib.MachineInt
import Mathlib.Data.List.Nodup
import Mathlib.Logic.Function.Basic

/-!
# The plugin manager

Each type of plugin has a vector of records, one for each library, with the keys that the library
serves. The first user of a record loads the library and looks its entry point up, the last one
unloads it. The entry point is handed out through a reference, and a call that leaves the reference
as it was is successful when it was not null. Every successful `dlopen` is a handle of its own here.
-/

namespace AudioReachPal.Plugins

open AudioReachPal.Lib

/-- The types of plugins, and the values of the enumeration's word that are none of them. -/
inductive pal_plugin_manager_t where
  | PAL_PLUGIN_MANAGER_STREAM
  | PAL_PLUGIN_MANAGER_SESSION
  | PAL_PLUGIN_MANAGER_DEVICE
  | PAL_PLUGIN_MANAGER_CONTROL
  | PAL_PLUGIN_MANAGER_CONFIG
  | other (value : ℕ)
  deriving DecidableEq, Repr

open pal_plugin_manager_t

/-- What `dlopen` returned, counted by the calls that succeeded. -/
abbrev Handle := ℕ

/-- An entry point, not null. -/
abbrev Symbol := ℕ

structure pm_item_t where
  handle : Option Handle
  libName : String
  keyNames : List String
  entryFunction : String
  plugin : Option Symbol
  refCount : ℕ
  deriving DecidableEq, Repr

structure PluginManager where
  registered : pal_plugin_manager_t → List pm_item_t := fun _ => []
  /-- How often `dlopen` succeeded. -/
  opened : ℕ := 0
  /-- The arguments of `dlclose` so far. -/
  closed : List Handle := []

/-- The types with a vector, in the order of the destructor. -/
def deinitOrder : List pal_plugin_manager_t :=
  [PAL_PLUGIN_MANAGER_STREAM, PAL_PLUGIN_MANAGER_SESSION, PAL_PLUGIN_MANAGER_DEVICE,
    PAL_PLUGIN_MANAGER_CONTROL, PAL_PLUGIN_MANAGER_CONFIG]

/-! ### Registration -/

/-- A library that is in the vector gets the first key of the item, another one is added. -/
def register (item : pm_item_t) : List pm_item_t → List pm_item_t
  | [] => [{ item with refCount := 0 }]
  | reg :: rest =>
    if item.libName = reg.libName then
      { reg with keyNames := reg.keyNames ++ item.keyNames.take 1 } :: rest
    else reg :: register item rest

namespace PluginManager

def registeredPlugin (pm : PluginManager) (item : pm_item_t) (type : pal_plugin_manager_t) :
    ℤ × PluginManager :=
  if type ∈ deinitOrder then
    (0, { pm with
      registered := Function.update pm.registered type (register item (pm.registered type)) })
  else (-EINVAL, pm)

/-- The manager after the items of the file were registered in order. -/
def ofTable (table : List (pm_item_t × pal_plugin_manager_t)) : PluginManager :=
  table.foldl (fun pm entry => (pm.registeredPlugin entry.1 entry.2).2) {}

/-! ### Opening and closing -/

/-- The record that the loops over the vector and over the keys stop at. -/
def findItem (items : List pm_item_t) (keyName : String) : Option pm_item_t :=
  items.find? fun item => keyName ∈ item.keyNames

/-- The vector with that record written. -/
def writeItem (keyName : String) (item' : pm_item_t) : List pm_item_t → List pm_item_t
  | [] => []
  | item :: rest =>
    if keyName ∈ item.keyNames then item' :: rest else item :: writeItem keyName item' rest

def setItem (pm : PluginManager) (type : pal_plugin_manager_t) (keyName : String)
    (item' : pm_item_t) : PluginManager :=
  { pm with
    registered := Function.update pm.registered type (writeItem keyName item' (pm.registered type)) }

/-- The end of a call that found its record: one more user, and the record's entry point. -/
def reference (pm : PluginManager) (type : pal_plugin_manager_t) (keyName : String)
    (item : pm_item_t) : ℤ × Option Symbol × PluginManager :=
  (if item.plugin = none then -EINVAL else 0, item.plugin,
    pm.setItem type keyName { item with refCount := word32 (item.refCount + 1) })

/-- `openPlugin`, with what the parameter `plugin` refers to before and after. `dlopen` says whether
a library can be loaded now, `dlsym` is the entry point that a loaded one has. -/
def openPlugin (dlsym : Handle → String → Option Symbol) (pm : PluginManager)
    (type : pal_plugin_manager_t) (keyName : String) (plugin : Option Symbol) (dlopen : Bool) :
    ℤ × Option Symbol × PluginManager :=
  if type ∈ deinitOrder then
    match findItem (pm.registered type) keyName with
    | none => (if plugin = none then -EINVAL else 0, plugin, pm)
    | some item =>
      if item.refCount = 0 then
        if dlopen then
          let handle := pm.opened
          let pm := { pm with opened := pm.opened + 1 }
          match dlsym handle item.entryFunction with
          | none =>
            -- the handle stays in the record
            (-EINVAL, plugin,
              { pm.setItem type keyName { item with handle := some handle, plugin := none } with
                closed := pm.closed ++ [handle] })
          | some symbol =>
            pm.reference type keyName { item with handle := some handle, plugin := some symbol }
        else pm.reference type keyName { item with handle := none }
      else pm.reference type keyName item
  else (-EINVAL, plugin, pm)

def closePlugin (pm : PluginManager) (type : pal_plugin_manager_t) (keyName : String) :
    ℤ × PluginManager :=
  if type ∈ deinitOrder then
    match findItem (pm.registered type) keyName with
    | none => (-EINVAL, pm)
    | some item =>
      if item.refCount = 0 then (0, pm)
      else if item.refCount = 1 then
        (0, { pm.setItem type keyName
                { item with handle := none, plugin := none, refCount := 0 } with
              closed := pm.closed ++ item.handle.toList })
      else (0, pm.setItem type keyName { item with refCount := item.refCount - 1 })
  else (-EINVAL, pm)

def deinitPluginItems (pm : PluginManager) (type : pal_plugin_manager_t) : PluginManager :=
  { pm with
    registered := Function.update pm.registered type <| (pm.registered type).map fun item =>
      { item with handle := none, plugin := none, refCount := 0 }
    closed := pm.closed ++ (pm.registered type).filterMap pm_item_t.handle }

/-- The destructor. -/
def deinit (pm : PluginManager) : PluginManager := deinitOrder.foldl deinitPluginItems pm

/-- The record's handle is one of an open library. -/
def IsOpen (pm : PluginManager) (h : Handle) : Prop := h < pm.opened ∧ h ∉ pm.closed

/-- The handles in the records. -/
def handles (pm : PluginManager) : List Handle :=
  deinitOrder.flatMap fun type => (pm.registered type).filterMap pm_item_t.handle

theorem deinit_closed (pm : PluginManager) : pm.deinit.closed = pm.closed ++ pm.handles := by
  simp [deinit, deinitOrder, deinitPluginItems, handles]

end PluginManager

open PluginManager

/-! ### Records of a vector -/

section Records

variable {items : List pm_item_t} {keyName : String} {item item' i : pm_item_t}

/-- The found record is one place of the vector. -/
theorem findItem_split (h : findItem items keyName = some item) :
    ∃ front back, items = front ++ item :: back ∧
      ∀ item', writeItem keyName item' items = front ++ item' :: back := by
  induction items with
  | nil => simp [findItem] at h
  | cons first rest ih =>
    by_cases hkey : keyName ∈ first.keyNames
    · obtain rfl : first = item := by simpa [findItem, hkey] using h
      exact ⟨[], rest, rfl, fun item' => by simp [writeItem, hkey]⟩
    · obtain ⟨front, back, heq, hwrite⟩ := ih (by simpa [findItem, hkey] using h)
      refine ⟨first :: front, back, by rw [heq, List.cons_append], fun item' => ?_⟩
      rw [writeItem, if_neg hkey, hwrite item', List.cons_append]

theorem findItem_mem (h : findItem items keyName = some item) :
    item ∈ items ∧ keyName ∈ item.keyNames :=
  ⟨List.mem_of_find?_eq_some h, by simpa using List.find?_some h⟩

/-- A record that keeps its library and its keys is found again. -/
theorem findItem_writeItem (h : findItem items keyName = some item)
    (hkeys : item'.keyNames = item.keyNames) :
    findItem (writeItem keyName item' items) keyName = some item' := by
  induction items with
  | nil => simp [findItem] at h
  | cons first rest ih =>
    by_cases hkey : keyName ∈ first.keyNames
    · obtain rfl : first = item := by simpa [findItem, hkey] using h
      simp [writeItem, hkey, findItem, hkeys]
    · have hrest := ih (by simpa [findItem, hkey] using h)
      rw [writeItem, if_neg hkey]
      simpa [findItem, hkey] using hrest

theorem libName_writeItem (h : findItem items keyName = some item)
    (hlib : item'.libName = item.libName) :
    (writeItem keyName item' items).map pm_item_t.libName = items.map pm_item_t.libName := by
  obtain ⟨front, back, heq, hwrite⟩ := findItem_split h
  rw [hwrite, heq]
  simp [hlib]

theorem mem_writeItem (h : findItem items keyName = some item)
    (hnodup : (items.map pm_item_t.libName).Nodup) (hi : i ∈ writeItem keyName item' items) :
    i = item' ∨ (i ∈ items ∧ i.libName ≠ item.libName) := by
  obtain ⟨front, back, heq, hwrite⟩ := findItem_split h
  rw [hwrite] at hi
  rw [heq, List.map_append, List.map_cons, List.nodup_append, List.nodup_cons] at hnodup
  obtain ⟨-, ⟨hback, -⟩, hfront⟩ := hnodup
  rcases List.mem_append.mp hi with hi | hi
  · refine Or.inr ⟨by simp [heq, hi], fun hlib => ?_⟩
    exact hfront _ (List.mem_map_of_mem hi) _ (by simp) hlib
  · rcases List.mem_cons.mp hi with rfl | hi
    · exact Or.inl rfl
    · exact Or.inr ⟨by simp [heq, hi], fun hlib => hback (hlib ▸ List.mem_map_of_mem hi)⟩

/-! ### Registered records -/

theorem mem_register (hi : i ∈ register item items) :
    (i = { item with refCount := 0 }) ∨
      ∃ j ∈ items, i.refCount = j.refCount ∧ i.handle = j.handle := by
  induction items with
  | nil => exact Or.inl (by simpa [register] using hi)
  | cons reg rest ih =>
    unfold register at hi
    split_ifs at hi with hlib
    · rcases List.mem_cons.mp hi with rfl | hi
      · exact Or.inr ⟨reg, by simp, rfl, rfl⟩
      · exact Or.inr ⟨i, by simp [hi], rfl, rfl⟩
    · rcases List.mem_cons.mp hi with rfl | hi
      · exact Or.inr ⟨i, by simp, rfl, rfl⟩
      · exact (ih hi).imp_right fun ⟨j, hj, heq⟩ => ⟨j, by simp [hj], heq⟩

theorem libName_register : (register item items).map pm_item_t.libName =
    if item.libName ∈ items.map pm_item_t.libName then items.map pm_item_t.libName
    else items.map pm_item_t.libName ++ [item.libName] := by
  induction items with
  | nil => simp [register]
  | cons reg rest ih =>
    unfold register
    by_cases hlib : item.libName = reg.libName
    · simp [hlib]
    · rw [if_neg hlib, List.map_cons, ih, List.map_cons]
      by_cases hrest : item.libName ∈ rest.map pm_item_t.libName
      · rw [if_pos hrest, if_pos (List.mem_cons_of_mem _ hrest)]
      · rw [if_neg hrest, if_neg (List.not_mem_cons_of_ne_of_not_mem hlib hrest), List.cons_append]

theorem nodup_libName_register (h : (items.map pm_item_t.libName).Nodup) :
    ((register item items).map pm_item_t.libName).Nodup := by
  rw [libName_register]
  split_ifs with hin
  · exact h
  · exact h.append (List.nodup_singleton _) (by simpa using hin)

end Records

/-- A library has one record, nothing is open, and other types have no vector. -/
structure Registered (pm : PluginManager) : Prop where
  libNames : ∀ type, ((pm.registered type).map pm_item_t.libName).Nodup
  unused : ∀ type, ∀ item ∈ pm.registered type, item.refCount = 0
  noHandle : ∀ type, ∀ item ∈ pm.registered type, item.handle = none
  noVector : ∀ type, type ∉ deinitOrder → pm.registered type = []
  opened : pm.opened = 0
  closed : pm.closed = []

theorem registeredPlugin_registered {pm : PluginManager} (h : Registered pm) {item : pm_item_t}
    (hitem : item.handle = none) (type : pal_plugin_manager_t) :
    Registered (pm.registeredPlugin item type).2 := by
  unfold PluginManager.registeredPlugin
  split_ifs with htype
  · have hmem : ∀ t, ∀ i ∈ Function.update pm.registered type
        (register item (pm.registered type)) t, i.refCount = 0 ∧ i.handle = none := by
      intro t i hi
      by_cases ht : t = type
      · subst ht
        rw [Function.update_self] at hi
        rcases mem_register hi with rfl | ⟨j, hj, hcount, hhandle⟩
        · exact ⟨rfl, hitem⟩
        · exact ⟨hcount.trans (h.unused t j hj), hhandle.trans (h.noHandle t j hj)⟩
      · rw [Function.update_of_ne ht] at hi
        exact ⟨h.unused t i hi, h.noHandle t i hi⟩
    refine ⟨fun t => ?_, fun t i hi => (hmem t i hi).1, fun t i hi => (hmem t i hi).2,
      fun t ht => ?_, h.opened, h.closed⟩
    · change ((Function.update pm.registered type _ t).map pm_item_t.libName).Nodup
      by_cases ht : t = type
      · subst ht
        rw [Function.update_self]
        exact nodup_libName_register (h.libNames t)
      · rw [Function.update_of_ne ht]
        exact h.libNames t
    · change Function.update pm.registered type _ t = []
      rw [Function.update_of_ne (by rintro rfl; exact ht htype)]
      exact h.noVector t ht
  · exact h

theorem ofTable_registered {table : List (pm_item_t × pal_plugin_manager_t)}
    (htable : ∀ entry ∈ table, entry.1.handle = none) : Registered (ofTable table) := by
  have hfold : ∀ pm, Registered pm → Registered
      (table.foldl (fun pm entry => (pm.registeredPlugin entry.1 entry.2).2) pm) := by
    induction table with
    | nil => exact fun pm h => h
    | cons entry rest ih =>
      intro pm h
      refine ih (fun e he => htable e (List.mem_cons_of_mem _ he)) _ ?_
      exact registeredPlugin_registered h (htable entry List.mem_cons_self) entry.2
  exact hfold _ ⟨fun _ => List.nodup_nil, fun _ _ h => absurd h List.not_mem_nil,
    fun _ _ h => absurd h List.not_mem_nil, fun _ _ => rfl, rfl, rfl⟩

/-! ### Users of the libraries -/

/-- The manager, and for each library the successful opens less the closes. -/
structure System where
  pm : PluginManager
  users : pal_plugin_manager_t → String → ℕ := fun _ _ => 0

inductive Call where
  | openPlugin (type : pal_plugin_manager_t) (keyName : String) (plugin : Option Symbol)
      (dlopen : Bool)
  | closePlugin (type : pal_plugin_manager_t) (keyName : String)
  deriving DecidableEq, Repr

namespace System

/-- The users when those of the key's library change. -/
def changeUsers (sys : System) (type : pal_plugin_manager_t) (keyName : String) (f : ℕ → ℕ) :
    pal_plugin_manager_t → String → ℕ :=
  match findItem (sys.pm.registered type) keyName with
  | none => sys.users
  | some item => fun t lib =>
    if t = type ∧ lib = item.libName then f (sys.users t lib) else sys.users t lib

variable (dlsym : Handle → String → Option Symbol)

/-- A call, and who uses the libraries after it. A library that nobody uses cannot lose a user. -/
def step (sys : System) : Call → System
  | .openPlugin type keyName plugin dlopen =>
    let res := sys.pm.openPlugin dlsym type keyName plugin dlopen
    { pm := res.2.2
      users := if res.1 = 0 then sys.changeUsers type keyName (· + 1) else sys.users }
  | .closePlugin type keyName =>
    { pm := (sys.pm.closePlugin type keyName).2
      users := sys.changeUsers type keyName (· - 1) }

/-- The libraries are loaded as they are used. -/
structure LoadedAsUsed (sys : System) : Prop where
  counted : ∀ type, ∀ item ∈ sys.pm.registered type, item.refCount = sys.users type item.libName
  isOpen_iff : ∀ type, ∀ item ∈ sys.pm.registered type,
    (∃ h, item.handle = some h ∧ sys.pm.IsOpen h) ↔ 0 < item.refCount
  closedOnce : sys.pm.deinit.closed.Nodup
  reloads : ∀ type keyName plugin item, type ∈ deinitOrder →
    findItem (sys.pm.registered type) keyName = some item → sys.users type item.libName = 0 →
    dlsym sys.pm.opened item.entryFunction ≠ none →
    (sys.pm.openPlugin dlsym type keyName plugin true).1 = 0

/-- What a call does right: the libraries are loaded as they are used after it, and an open that
returns 0 gives the entry point of the library that is registered for the key. -/
def ServedRight (sys : System) (call : Call) : Prop :=
  (sys.step dlsym call).LoadedAsUsed dlsym ∧
    ∀ type keyName plugin dlopen, call = .openPlugin type keyName plugin dlopen →
      (sys.pm.openPlugin dlsym type keyName plugin dlopen).1 = 0 →
      ∃ item h, findItem ((sys.step dlsym call).pm.registered type) keyName = some item ∧
        item.handle = some h ∧ (sys.step dlsym call).pm.IsOpen h ∧
        dlsym h item.entryFunction ≠ none ∧
        (sys.pm.openPlugin dlsym type keyName plugin dlopen).2.1 = dlsym h item.entryFunction

/-- The reference is null when the key is not registered; a library that has to be loaded is found
and has its entry point; and the count has room. -/
def loads (sys : System) : Call → Prop
  | .openPlugin type keyName plugin dlopen => type ∈ deinitOrder →
    match findItem (sys.pm.registered type) keyName with
    | none => plugin = none
    | some item => (item.refCount = 0 →
        dlopen = true ∧ dlsym sys.pm.opened item.entryFunction ≠ none) ∧
      item.refCount + 1 < 2 ^ 32
  | .closePlugin _ _ => True

/-- What the calls keep: a record that is used has its entry point. -/
structure Sound (sys : System) : Prop where
  libNames : ∀ type, ((sys.pm.registered type).map pm_item_t.libName).Nodup
  noVector : ∀ type, type ∉ deinitOrder → sys.pm.registered type = []
  counted : ∀ type, ∀ item ∈ sys.pm.registered type, item.refCount = sys.users type item.libName
  unloaded : ∀ type, ∀ item ∈ sys.pm.registered type, item.refCount = 0 → item.handle = none
  loaded : ∀ type, ∀ item ∈ sys.pm.registered type, 0 < item.refCount →
    ∃ h, item.handle = some h ∧ dlsym h item.entryFunction ≠ none ∧
      item.plugin = dlsym h item.entryFunction
  distinct : (sys.pm.closed ++ sys.pm.handles).Nodup
  below : ∀ h ∈ sys.pm.closed ++ sys.pm.handles, h < sys.pm.opened

variable {dlsym} {sys : System} {type t : pal_plugin_manager_t} {keyName : String}
  {item item' i : pm_item_t}

/-- One record's handle in those of all records. -/
theorem handles_setItem (pm : PluginManager) (htype : type ∈ deinitOrder)
    (h : findItem (pm.registered type) keyName = some item) :
    ∃ front back, pm.handles = front ++ (item.handle.toList ++ back) ∧
      ∀ item', (pm.setItem type keyName item').handles = front ++ (item'.handle.toList ++ back) := by
  obtain ⟨before, after, horder⟩ := List.append_of_mem htype
  have hnodup : (before ++ type :: after).Nodup := horder ▸ by decide
  rw [List.nodup_append, List.nodup_cons] at hnodup
  obtain ⟨-, ⟨hafter, -⟩, hbefore⟩ := hnodup
  obtain ⟨front, back, heq, hwrite⟩ := findItem_split h
  let f := fun t => (pm.registered t).filterMap pm_item_t.handle
  refine ⟨before.flatMap f ++ front.filterMap pm_item_t.handle,
    back.filterMap pm_item_t.handle ++ after.flatMap f, ?_, fun item' => ?_⟩
  · unfold PluginManager.handles
    rw [horder, List.flatMap_append, List.flatMap_cons, heq]
    cases hhandle : item.handle with
    | none => simp [f, hhandle]
    | some h => simp [f, hhandle]
  · have hother : ∀ ts : List pal_plugin_manager_t, type ∉ ts →
        (ts.flatMap fun t => ((pm.setItem type keyName item').registered t).filterMap
          pm_item_t.handle) = ts.flatMap f := by
      intro ts hts
      refine List.flatMap_congr fun t ht => ?_
      change (Function.update pm.registered type _ t).filterMap _ = _
      rw [Function.update_of_ne (by rintro rfl; exact hts ht)]
    unfold PluginManager.handles
    rw [horder, List.flatMap_append, List.flatMap_cons, hother _ hafter,
      hother _ fun hin => hbefore _ hin _ List.mem_cons_self rfl]
    have hself : (pm.setItem type keyName item').registered type = front ++ item' :: back := by
      change Function.update pm.registered type _ type = _
      rw [Function.update_self, hwrite]
    rw [hself]
    cases hhandle : item'.handle with
    | none => simp [hhandle]
    | some h => simp [hhandle]

theorem setItem_self (pm : PluginManager) (type : pal_plugin_manager_t) (keyName : String)
    (item' : pm_item_t) : (pm.setItem type keyName item').registered type =
    writeItem keyName item' (pm.registered type) := Function.update_self ..

theorem mem_setItem (hs : sys.Sound dlsym) (h : findItem (sys.pm.registered type) keyName = some item)
    (hi : i ∈ (sys.pm.setItem type keyName item').registered t) :
    (t = type ∧ i = item') ∨
      (i ∈ sys.pm.registered t ∧ ¬(t = type ∧ i.libName = item.libName)) := by
  by_cases ht : t = type
  · subst ht
    rw [setItem_self] at hi
    rcases mem_writeItem h (hs.libNames t) hi with rfl | ⟨hin, hlib⟩
    · exact Or.inl ⟨rfl, rfl⟩
    · exact Or.inr ⟨hin, fun hboth => hlib hboth.2⟩
  · change i ∈ Function.update sys.pm.registered type _ t at hi
    rw [Function.update_of_ne ht] at hi
    exact Or.inr ⟨hi, fun hboth => ht hboth.1⟩

theorem changeUsers_of_found (f : ℕ → ℕ) (h : findItem (sys.pm.registered type) keyName = some item)
    (lib : String) : sys.changeUsers type keyName f t lib =
      if t = type ∧ lib = item.libName then f (sys.users t lib) else sys.users t lib := by
  unfold changeUsers
  rw [h]

/-- A record with an open library, or none, is written with its users and handles in order. -/
theorem Sound.write (hs : sys.Sound dlsym) (htype : type ∈ deinitOrder)
    (h : findItem (sys.pm.registered type) keyName = some item) {pm' : PluginManager} {f : ℕ → ℕ}
    (hregistered : pm'.registered = (sys.pm.setItem type keyName item').registered)
    (hlib : item'.libName = item.libName) (hcount : item'.refCount = f item.refCount)
    (hunloaded : item'.refCount = 0 → item'.handle = none)
    (hloaded : 0 < item'.refCount → ∃ h, item'.handle = some h ∧
      dlsym h item'.entryFunction ≠ none ∧ item'.plugin = dlsym h item'.entryFunction)
    (hdistinct : (pm'.closed ++ pm'.handles).Nodup)
    (hbelow : ∀ h ∈ pm'.closed ++ pm'.handles, h < pm'.opened) :
    Sound dlsym { pm := pm', users := sys.changeUsers type keyName f } := by
  have hmem : ∀ t, ∀ i ∈ pm'.registered t, (t = type ∧ i = item') ∨
      (i ∈ sys.pm.registered t ∧ ¬(t = type ∧ i.libName = item.libName)) := by
    intro t i hi
    rw [hregistered] at hi
    exact mem_setItem hs h hi
  refine ⟨fun t => ?_, fun t ht => ?_, fun t i hi => ?_, fun t i hi => ?_, fun t i hi => ?_,
    hdistinct, hbelow⟩
  · change ((pm'.registered t).map pm_item_t.libName).Nodup
    rw [hregistered]
    by_cases ht : t = type
    · subst ht
      rw [setItem_self, libName_writeItem h hlib]
      exact hs.libNames t
    · change ((Function.update sys.pm.registered type _ t).map _).Nodup
      rw [Function.update_of_ne ht]
      exact hs.libNames t
  · change pm'.registered t = []
    rw [hregistered]
    change Function.update sys.pm.registered type _ t = []
    rw [Function.update_of_ne (by rintro rfl; exact ht htype)]
    exact hs.noVector t ht
  · change i.refCount = sys.changeUsers type keyName f t i.libName
    rw [changeUsers_of_found f h]
    rcases hmem t i hi with ⟨rfl, rfl⟩ | ⟨hin, hne⟩
    · rw [if_pos ⟨rfl, hlib⟩, hcount, hlib, hs.counted t item (findItem_mem h).1]
    · rw [if_neg hne]
      exact hs.counted t i hin
  · rcases hmem t i hi with ⟨rfl, rfl⟩ | ⟨hin, -⟩
    · exact hunloaded
    · exact hs.unloaded t i hin
  · rcases hmem t i hi with ⟨rfl, rfl⟩ | ⟨hin, -⟩
    · exact hloaded
    · exact hs.loaded t i hin

theorem mem_handles (pm : PluginManager) (htype : type ∈ deinitOrder)
    (hi : i ∈ pm.registered type) {h : Handle} (hh : i.handle = some h) : h ∈ pm.handles :=
  List.mem_flatMap.mpr ⟨type, htype, List.mem_filterMap.mpr ⟨i, hi, hh⟩⟩

theorem Sound.isOpen (hs : sys.Sound dlsym) (hi : i ∈ sys.pm.registered type) {h : Handle}
    (hh : i.handle = some h) : sys.pm.IsOpen h := by
  have htype : type ∈ deinitOrder := by
    by_contra hnone
    rw [hs.noVector type hnone] at hi
    exact List.not_mem_nil hi
  have hin := mem_handles sys.pm htype hi hh
  refine ⟨hs.below h (List.mem_append_right _ hin), fun hclosed => ?_⟩
  exact (List.nodup_append.mp hs.distinct).2.2 h hclosed h hin rfl

theorem Sound.loadedAsUsed (hs : sys.Sound dlsym) : sys.LoadedAsUsed dlsym := by
  refine ⟨hs.counted, fun type item hitem => ?_, ?_, ?_⟩
  · constructor
    · rintro ⟨h, hh, -⟩
      by_contra hzero
      rw [hs.unloaded type item hitem (by omega)] at hh
      cases hh
    · intro hpos
      obtain ⟨h, hh, -⟩ := hs.loaded type item hitem hpos
      exact ⟨h, hh, hs.isOpen hitem hh⟩
  · rw [PluginManager.deinit_closed]
    exact hs.distinct
  · intro type keyName plugin item htype hfind husers hsym
    have hcount := hs.counted type item (findItem_mem hfind).1
    obtain ⟨symbol, hsymbol⟩ := Option.ne_none_iff_exists'.mp hsym
    simp [PluginManager.openPlugin, htype, hfind, hcount, husers, hsymbol, reference]

/-! ### Opening -/

/-- One more user of a record that is loaded. -/
theorem Sound.reference (hs : sys.Sound dlsym) (htype : type ∈ deinitOrder)
    (hfind : findItem (sys.pm.registered type) keyName = some item) (hpos : 0 < item.refCount)
    (hroom : item.refCount + 1 < 2 ^ 32) :
    Sound dlsym { pm := (sys.pm.reference type keyName item).2.2
                  users := sys.changeUsers type keyName (· + 1) } := by
  obtain ⟨front, back, hhandles, hset⟩ := handles_setItem sys.pm htype hfind
  have hword : word32 (item.refCount + 1) = item.refCount + 1 := Nat.mod_eq_of_lt hroom
  have hsame : (sys.pm.reference type keyName item).2.2.handles = sys.pm.handles :=
    (hset _).trans hhandles.symm
  refine hs.write htype hfind rfl rfl hword ?_ (fun _ => ?_) ?_ ?_
  · intro hzero
    exact absurd (hword.symm.trans hzero) (Nat.succ_ne_zero _)
  · exact hs.loaded type item (findItem_mem hfind).1 hpos
  · rw [hsame]
    exact hs.distinct
  · rw [hsame]
    exact hs.below

/-- The first user of a record. -/
theorem Sound.load (hs : sys.Sound dlsym) (htype : type ∈ deinitOrder)
    (hfind : findItem (sys.pm.registered type) keyName = some item) (hzero : item.refCount = 0)
    {symbol : Symbol} (hsym : dlsym sys.pm.opened item.entryFunction = some symbol) :
    Sound dlsym
      { pm := { sys.pm.setItem type keyName { item with
                  handle := some sys.pm.opened, plugin := some symbol, refCount := 1 } with
                opened := sys.pm.opened + 1 }
        users := sys.changeUsers type keyName (· + 1) } := by
  obtain ⟨front, back, hhandles, hset⟩ := handles_setItem sys.pm htype hfind
  have hnone := hs.unloaded type item (findItem_mem hfind).1 hzero
  rw [hnone, Option.toList_none, List.nil_append] at hhandles
  have hdistinct := hs.distinct
  have hbelow := hs.below
  rw [hhandles] at hdistinct hbelow
  have hperm : (sys.pm.closed ++ (front ++ ([sys.pm.opened] ++ back))).Perm
      (sys.pm.opened :: (sys.pm.closed ++ (front ++ back))) := by
    have hmiddle : ((sys.pm.closed ++ front) ++ sys.pm.opened :: back).Perm
        (sys.pm.opened :: ((sys.pm.closed ++ front) ++ back)) := List.perm_middle
    simpa [List.append_assoc] using hmiddle
  refine hs.write htype hfind rfl rfl (by rw [hzero]) (fun h => by cases h) (fun _ => ?_) ?_ ?_
  · exact ⟨sys.pm.opened, rfl, by rw [hsym]; simp, hsym.symm⟩
  · change (sys.pm.closed ++ (sys.pm.setItem type keyName _).handles).Nodup
    rw [hset]
    refine hperm.nodup_iff.mpr (List.nodup_cons.mpr ⟨fun hin => ?_, hdistinct⟩)
    exact Nat.lt_irrefl _ (hbelow _ hin)
  · intro h hh
    change h ∈ sys.pm.closed ++ (sys.pm.setItem type keyName _).handles at hh
    rw [hset] at hh
    change h < sys.pm.opened + 1
    rcases List.mem_cons.mp (hperm.mem_iff.mp hh) with rfl | hin
    · exact Nat.lt_succ_self _
    · exact Nat.lt_succ_of_lt (hbelow h hin)

/-- The last user of a record. -/
theorem Sound.unload (hs : sys.Sound dlsym) (htype : type ∈ deinitOrder)
    (hfind : findItem (sys.pm.registered type) keyName = some item) (hone : item.refCount = 1) :
    Sound dlsym
      { pm := { sys.pm.setItem type keyName
                  { item with handle := none, plugin := none, refCount := 0 } with
                closed := sys.pm.closed ++ item.handle.toList }
        users := sys.changeUsers type keyName (· - 1) } := by
  obtain ⟨front, back, hhandles, hset⟩ := handles_setItem sys.pm htype hfind
  have hperm : (sys.pm.closed ++ item.handle.toList ++ (front ++ ([] ++ back))).Perm
      (sys.pm.closed ++ sys.pm.handles) := by
    rw [hhandles, List.append_assoc, List.nil_append]
    refine List.Perm.append_left _ ?_
    rw [← List.append_assoc, ← List.append_assoc]
    exact List.Perm.append_right _ List.perm_append_comm
  refine hs.write htype hfind rfl rfl (by rw [hone]) (fun _ => rfl)
    (fun h => absurd h (Nat.lt_irrefl 0)) ?_ ?_
  · change (sys.pm.closed ++ item.handle.toList ++ (sys.pm.setItem type keyName _).handles).Nodup
    rw [hset]
    exact hperm.nodup_iff.mpr hs.distinct
  · intro h hh
    change h ∈ sys.pm.closed ++ item.handle.toList ++ (sys.pm.setItem type keyName _).handles at hh
    rw [hset] at hh
    exact hs.below h (hperm.mem_iff.mp hh)

/-- A user of a record that has others. -/
theorem Sound.release (hs : sys.Sound dlsym) (htype : type ∈ deinitOrder)
    (hfind : findItem (sys.pm.registered type) keyName = some item) (hmany : 1 < item.refCount) :
    Sound dlsym
      { pm := sys.pm.setItem type keyName { item with refCount := item.refCount - 1 }
        users := sys.changeUsers type keyName (· - 1) } := by
  obtain ⟨front, back, hhandles, hset⟩ := handles_setItem sys.pm htype hfind
  have hsame : (sys.pm.setItem type keyName
      { item with refCount := item.refCount - 1 }).handles = sys.pm.handles :=
    (hset _).trans hhandles.symm
  refine hs.write htype hfind rfl rfl rfl ?_ (fun _ => ?_) ?_ ?_
  · intro hzero
    have hzero : item.refCount - 1 = 0 := hzero
    omega
  · exact hs.loaded type item (findItem_mem hfind).1 (by omega)
  · rw [hsame]
    exact hs.distinct
  · rw [hsame]
    exact hs.below

/-! ### All calls -/

theorem Sound.users_zero (hs : sys.Sound dlsym)
    (hfind : findItem (sys.pm.registered type) keyName = some item) (hzero : item.refCount = 0) :
    sys.changeUsers type keyName (· - 1) = sys.users := by
  funext t lib
  rw [changeUsers_of_found _ hfind]
  split_ifs with heq
  · obtain ⟨rfl, rfl⟩ := heq
    rw [← hs.counted t item (findItem_mem hfind).1, hzero]
  · rfl

theorem closePlugin_sound (hs : sys.Sound dlsym) :
    (sys.step dlsym (.closePlugin type keyName)).Sound dlsym := by
  simp only [step, closePlugin]
  by_cases htype : type ∈ deinitOrder
  · rw [if_pos htype]
    cases hfind : findItem (sys.pm.registered type) keyName with
    | none =>
      simp only [changeUsers, hfind]
      exact hs
    | some item =>
      by_cases hzero : item.refCount = 0
      · simp only [hzero, if_true, hs.users_zero hfind hzero]
        exact hs
      · by_cases hone : item.refCount = 1
        · simp only [hone, if_true, if_neg Nat.one_ne_zero]
          exact hs.unload htype hfind hone
        · simp only [hzero, hone, if_false]
          exact hs.release htype hfind (by omega)
  · have hfind : findItem (sys.pm.registered type) keyName = none := by
      rw [hs.noVector type htype]
      rfl
    simp only [if_neg htype, changeUsers, hfind]
    exact hs

/-- The record of the key after one more user, whoever was right. -/
theorem findItem_reference {pm : PluginManager} {items : List pm_item_t}
    (hitems : pm.registered type = items) (hfind : findItem items keyName = some item)
    (item' : pm_item_t) (hkeys : item'.keyNames = item.keyNames) :
    findItem ((pm.reference type keyName item').2.2.registered type) keyName =
      some { item' with refCount := word32 (item'.refCount + 1) } := by
  have hself := setItem_self pm type keyName
    { item' with refCount := word32 (item'.refCount + 1) }
  unfold reference
  rw [hself, hitems]
  exact findItem_writeItem hfind hkeys

theorem openPlugin_of_used (dlsym : Handle → String → Option Symbol) (htype : type ∈ deinitOrder)
    (hfind : findItem (sys.pm.registered type) keyName = some item) (hpos : item.refCount ≠ 0)
    (plugin : Option Symbol) (dlopen : Bool) :
    sys.pm.openPlugin dlsym type keyName plugin dlopen = sys.pm.reference type keyName item := by
  simp [openPlugin, htype, hfind, hpos]

theorem openPlugin_of_unloadable (dlsym : Handle → String → Option Symbol) (htype : type ∈ deinitOrder)
    (hfind : findItem (sys.pm.registered type) keyName = some item) (hzero : item.refCount = 0)
    (plugin : Option Symbol) : sys.pm.openPlugin dlsym type keyName plugin false =
      sys.pm.reference type keyName { item with handle := none } := by
  simp [openPlugin, htype, hfind, hzero]

theorem openPlugin_of_loadable (htype : type ∈ deinitOrder)
    (hfind : findItem (sys.pm.registered type) keyName = some item) (hzero : item.refCount = 0)
    {symbol : Symbol} (hsym : dlsym sys.pm.opened item.entryFunction = some symbol)
    (plugin : Option Symbol) : sys.pm.openPlugin dlsym type keyName plugin true =
      (0, some symbol, { sys.pm.setItem type keyName { item with
          handle := some sys.pm.opened, plugin := some symbol, refCount := 1 } with
        opened := sys.pm.opened + 1 }) := by
  simp [openPlugin, htype, hfind, hzero, hsym, reference, setItem, word32]

theorem openPlugin_of_noSymbol (htype : type ∈ deinitOrder)
    (hfind : findItem (sys.pm.registered type) keyName = some item) (hzero : item.refCount = 0)
    (hsym : dlsym sys.pm.opened item.entryFunction = none)
    (plugin : Option Symbol) : sys.pm.openPlugin dlsym type keyName plugin true =
      (-EINVAL, plugin, { sys.pm.setItem type keyName { item with
          handle := some sys.pm.opened, plugin := none } with
        opened := sys.pm.opened + 1, closed := sys.pm.closed ++ [sys.pm.opened] }) := by
  simp [openPlugin, htype, hfind, hzero, hsym, setItem]

/-- An open that meets the condition. -/
theorem openPlugin_sound (hs : sys.Sound dlsym) {plugin : Option Symbol} {dlopen : Bool}
    (hok : sys.loads dlsym (.openPlugin type keyName plugin dlopen)) :
    (sys.step dlsym (.openPlugin type keyName plugin dlopen)).Sound dlsym := by
  by_cases htype : type ∈ deinitOrder
  · have hok := hok htype
    cases hfind : findItem (sys.pm.registered type) keyName with
    | none =>
      rw [hfind] at hok
      subst hok
      simp only [step, openPlugin, if_pos htype, hfind, if_true]
      rw [if_neg (by decide)]
      exact hs
    | some item =>
      rw [hfind] at hok
      obtain ⟨hload, hroom⟩ := hok
      by_cases hzero : item.refCount = 0
      · obtain ⟨rfl, hsym⟩ := hload hzero
        obtain ⟨symbol, hsymbol⟩ := Option.ne_none_iff_exists'.mp hsym
        simp only [step, openPlugin_of_loadable htype hfind hzero hsymbol, if_true]
        exact hs.load htype hfind hzero hsymbol
      · obtain ⟨h, -, hsym, hplugin⟩ :=
          hs.loaded type item (findItem_mem hfind).1 (Nat.pos_of_ne_zero hzero)
        have hstatus : (sys.pm.reference type keyName item).1 = 0 :=
          if_neg (hplugin ▸ hsym)
        simp only [step, openPlugin_of_used dlsym htype hfind hzero, hstatus, if_true]
        exact hs.reference htype hfind (Nat.pos_of_ne_zero hzero) hroom
  · simp only [step, openPlugin, if_neg htype]
    rw [if_neg (by decide)]
    exact hs

/-- What an open that meets the condition returns. -/
theorem openPlugin_returns (hs : sys.Sound dlsym) {plugin : Option Symbol} {dlopen : Bool}
    (hok : sys.loads dlsym (.openPlugin type keyName plugin dlopen))
    (hzero : (sys.pm.openPlugin dlsym type keyName plugin dlopen).1 = 0) :
    ∃ item h, findItem ((sys.step dlsym (.openPlugin type keyName plugin dlopen)).pm.registered
        type) keyName = some item ∧ item.handle = some h ∧
      (sys.step dlsym (.openPlugin type keyName plugin dlopen)).pm.IsOpen h ∧
      dlsym h item.entryFunction ≠ none ∧
      (sys.pm.openPlugin dlsym type keyName plugin dlopen).2.1 = dlsym h item.entryFunction := by
  have hafter := openPlugin_sound hs hok
  by_cases htype : type ∈ deinitOrder
  · have hok := hok htype
    cases hfind : findItem (sys.pm.registered type) keyName with
    | none =>
      rw [hfind] at hok
      subst hok
      simp [openPlugin, htype, hfind, EINVAL] at hzero
    | some item =>
      rw [hfind] at hok
      -- the record that the call leaves, with what it hands out
      obtain ⟨item', hfind', hpos, hout⟩ : ∃ item', findItem ((sys.step dlsym
            (.openPlugin type keyName plugin dlopen)).pm.registered type) keyName = some item' ∧
          0 < item'.refCount ∧
          (sys.pm.openPlugin dlsym type keyName plugin dlopen).2.1 = item'.plugin := by
        by_cases hcount : item.refCount = 0
        · obtain ⟨rfl, hsym⟩ := hok.1 hcount
          obtain ⟨symbol, hsymbol⟩ := Option.ne_none_iff_exists'.mp hsym
          simp only [step, openPlugin_of_loadable htype hfind hcount hsymbol]
          refine ⟨{ item with
            handle := some sys.pm.opened, plugin := some symbol, refCount := 1 }, ?_, Nat.one_pos, rfl⟩
          rw [setItem_self]
          exact findItem_writeItem hfind rfl
        · simp only [step, openPlugin_of_used dlsym htype hfind hcount]
          refine ⟨_, findItem_reference rfl hfind _ rfl, ?_, rfl⟩
          have hword : word32 (item.refCount + 1) = item.refCount + 1 := Nat.mod_eq_of_lt hok.2
          change 0 < word32 (item.refCount + 1)
          omega
      obtain ⟨h, hh, hsym, hplugin⟩ := hafter.loaded type item' (findItem_mem hfind').1 hpos
      exact ⟨item', h, hfind', hh, hafter.isOpen (findItem_mem hfind').1 hh, hsym,
        hout.trans hplugin⟩
  · simp [openPlugin, htype, EINVAL] at hzero

/-- **A call serves right exactly when it meets the condition.** -/
theorem servedRight_iff (hs : sys.Sound dlsym) (call : Call) :
    sys.ServedRight dlsym call ↔ sys.loads dlsym call := by
  cases call with
  | closePlugin type keyName =>
    refine iff_of_true ⟨(closePlugin_sound hs).loadedAsUsed, ?_⟩ trivial
    rintro _ _ _ _ ⟨⟩
  | openPlugin type keyName plugin dlopen =>
    constructor
    · rintro ⟨hlaw, hreturned⟩ htype
      cases hfind : findItem (sys.pm.registered type) keyName with
      | none =>
        -- the call changes nothing, and returns 0 for what the reference held
        by_contra hplugin
        obtain ⟨item, h, hitem, -⟩ := hreturned type keyName plugin dlopen rfl
          (by simp [openPlugin, htype, hfind, hplugin])
        simp [step, openPlugin, htype, hfind] at hitem
      | some item =>
        have hmem := (findItem_mem hfind).1
        by_cases hzero : item.refCount = 0
        · refine ⟨fun _ => ?_, by omega⟩
          cases dlopen with
          | false =>
            -- a user without a library
            have hopen := openPlugin_of_unloadable dlsym htype hfind hzero plugin
            have hrecord := findItem_reference (Eq.refl (sys.pm.registered type)) hfind
              { item with handle := none } rfl
            have hiff := hlaw.isOpen_iff type
              { item with handle := none, refCount := word32 (item.refCount + 1) } (by
                simp only [step, hopen]
                exact (findItem_mem hrecord).1)
            obtain ⟨h, hh, -⟩ := hiff.mpr (by simp [hzero, word32])
            cases hh
          | true =>
            refine ⟨rfl, fun hsym => ?_⟩
            -- the handle is closed, and stays in the record
            have hopen := openPlugin_of_noSymbol htype hfind hzero hsym plugin
            obtain ⟨front, back, -, hset⟩ := handles_setItem sys.pm htype hfind
            have honce := hlaw.closedOnce
            rw [PluginManager.deinit_closed] at honce
            simp only [step, hopen] at honce
            change ((sys.pm.closed ++ [sys.pm.opened]) ++
              (sys.pm.setItem type keyName _).handles).Nodup at honce
            rw [hset] at honce
            exact (List.nodup_append.mp honce).2.2 sys.pm.opened (by simp) sys.pm.opened
              (by simp) rfl
        · refine ⟨fun h => absurd h hzero, ?_⟩
          -- a count without room wraps to zero
          by_contra hfull
          have hopen := openPlugin_of_used dlsym htype hfind hzero plugin dlopen
          have hrecord := findItem_reference (Eq.refl (sys.pm.registered type)) hfind item rfl
          obtain ⟨h, hh, hsym, hplugin⟩ := hs.loaded type item hmem (Nat.pos_of_ne_zero hzero)
          have hstatus : (sys.pm.reference type keyName item).1 = 0 := if_neg (hplugin ▸ hsym)
          have hcount := hlaw.counted type { item with refCount := word32 (item.refCount + 1) } (by
            simp only [step, hopen]
            exact (findItem_mem hrecord).1)
          simp only [step, hopen, hstatus, if_true, changeUsers_of_found _ hfind, true_and,
            ← hs.counted type item hmem] at hcount
          unfold word32 at hcount
          omega
    · intro hok
      refine ⟨(openPlugin_sound hs hok).loadedAsUsed, ?_⟩
      rintro _ _ _ _ ⟨⟩ hzero
      exact openPlugin_returns hs hok hzero

theorem sound_of_registered {pm : PluginManager} (h : Registered pm) :
    Sound dlsym { pm := pm } := by
  have hnone : pm.handles = [] := by
    refine List.flatMap_eq_nil_iff.mpr fun type _ => ?_
    exact List.filterMap_eq_nil_iff.mpr fun item hitem => h.noHandle type item hitem
  refine ⟨h.libNames, h.noVector, h.unused, fun type item hitem _ => h.noHandle type item hitem,
    fun type item hitem hpos => ?_, ?_, ?_⟩
  · exact absurd (h.unused type item hitem) (Nat.ne_of_gt hpos)
  · simp [h.closed, hnone]
  · simp [h.closed, hnone]

/-- **Plugin libraries.** After the items of a table are registered, each with a null handle, all
along a run of calls each is served right exactly when it meets `loads`. -/
theorem pluginsServed_along_iff {table : List (pm_item_t × pal_plugin_manager_t)}
    (htable : ∀ entry ∈ table, entry.1.handle = none) (calls : List Call) :
    Meets (fun sys call => some (step dlsym sys call)) (ServedRight dlsym)
        { pm := ofTable table } calls ↔
      Meets (fun sys call => some (step dlsym sys call)) (loads dlsym)
        { pm := ofTable table } calls := by
  have hkept : ∀ sys call sys', loads dlsym sys call → sys.Sound dlsym →
      some (step dlsym sys call) = some sys' → sys'.Sound dlsym := by
    rintro sys call _ hok hs ⟨⟩
    cases call with
    | openPlugin type keyName plugin dlopen => exact openPlugin_sound hs hok
    | closePlugin type keyName => exact closePlugin_sound hs
  exact meets_iff_of_kept hkept (fun sys call hs => servedRight_iff hs call)
    (sound_of_registered (ofTable_registered htable))

/-- One library for one key. -/
def voiceUi : pm_item_t where
  handle := none
  libName := "libpal_voiceui.so"
  keyNames := ["PAL_STREAM_VOICE_UI"]
  entryFunction := "CreateVoiceUIStream"
  plugin := none
  refCount := 0

def voiceUiTable : List (pm_item_t × pal_plugin_manager_t) := [(voiceUi, PAL_PLUGIN_MANAGER_STREAM)]

theorem pluginsServed_voiceUi :
    Meets (fun sys call => some (step (fun h _ => some h) sys call)) (ServedRight fun h _ => some h)
      { pm := ofTable voiceUiTable }
      [.openPlugin PAL_PLUGIN_MANAGER_STREAM "PAL_STREAM_VOICE_UI" none true,
        .closePlugin PAL_PLUGIN_MANAGER_STREAM "PAL_STREAM_VOICE_UI"] := by
  refine (pluginsServed_along_iff (by decide) _).mpr ⟨fun _ => ?_, ?_⟩
  · exact ⟨fun _ => ⟨rfl, by simp⟩, by decide⟩
  · rintro _ ⟨⟩
    exact ⟨trivial, fun _ _ => trivial⟩

/-- The library cannot be loaded the first time. It can later, but is not: the record has a user. -/
theorem not_pluginsServed_retry :
    ¬Meets (fun sys call => some (step (fun h _ => some h) sys call)) (ServedRight fun h _ => some h)
      { pm := ofTable voiceUiTable }
      [.openPlugin PAL_PLUGIN_MANAGER_STREAM "PAL_STREAM_VOICE_UI" none false] ∧
    ((step (fun h _ => some h) { pm := ofTable voiceUiTable }
      (.openPlugin PAL_PLUGIN_MANAGER_STREAM "PAL_STREAM_VOICE_UI" none false)).pm.openPlugin
        (fun h _ => some h) PAL_PLUGIN_MANAGER_STREAM "PAL_STREAM_VOICE_UI" none true).1 =
      -EINVAL := by
  refine ⟨fun h => ?_, by decide⟩
  obtain ⟨⟨hlaw, -⟩, -⟩ := h
  have hcount := hlaw.counted PAL_PLUGIN_MANAGER_STREAM { voiceUi with refCount := 1 } (by decide)
  exact absurd hcount (by decide)

end System

end AudioReachPal.Plugins
