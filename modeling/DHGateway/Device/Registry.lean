import Mathlib.Data.List.AList
import DHGateway.Common
import DHGateway.Core.Run

/-!
# The device registry

`server_manage` keeps its recorders three times: in `_platform_map` by identifier, in
`platform_list` in the order of their arrival, and in `platforms.json`. The file may not open when
it is to be written; then it stays behind.
-/

namespace DHGateway

/-- `xpack::json`, the library that turns the list into text and back. -/
structure XPack where
  encode : Platforms → String
  decode : String → Platforms

/-- What is relied on: `decode` undoes `encode`, and the text of an object is not empty. -/
structure XPack.Lawful (x : XPack) : Prop where
  decode_encode : ∀ l, x.decode (x.encode l) = l
  encode_ne : ∀ l, x.encode l ≠ ""

/-- `_platform_map`, `platform_list` and the content of `platforms.json`, if the file exists. -/
structure Registry where
  platformMap : AList fun _ : String => Platform
  platformList : Platforms
  file : Option String

namespace Registry

def boot (file : Option String) : Registry :=
  ⟨∅, ⟨[]⟩, file⟩

/-- `server_manage::readJsonFile`: a file that does not exist is created empty. -/
def readJsonFile (r : Registry) : String × Registry :=
  match r.file with
  | none => ("", { r with file := some "" })
  | some content => (content, r)

/-- `server_manage::writeJsonFile`; `opens` tells whether the file can be opened. -/
def writeJsonFile (r : Registry) (opens : Bool) (jsonData : String) : Bool × Registry :=
  if opens then (true, { r with file := some jsonData }) else (false, r)

/-- `_platform_map[p.deviceId] = p`. -/
def setEntry (m : AList fun _ : String => Platform) (p : Platform) :
    AList fun _ : String => Platform :=
  m.insert p.deviceId p

/-- `server_manage::init_platform`. -/
def initPlatform (x : XPack) (r : Registry) : Bool × Registry :=
  let (list, r) := r.readJsonFile
  if list = "" then (false, r)
  else
    let r := { r with platformList := x.decode list }
    if r.platformList.platforms = [] then (false, r)
    else (true, { r with platformMap := r.platformList.platforms.foldl setEntry r.platformMap })

/-- `server_manage::get_platform`. -/
def getPlatform (r : Registry) (k : String) : Option Platform :=
  r.platformMap.lookup k

/-- `server_manage::add_platform_for_local_file`. What `writeJsonFile` returns is not looked at,
here and in `update_platform_for_local_file`. -/
def addPlatformForLocalFile (x : XPack) (r : Registry) (opens : Bool) (save : Platform) :
    Registry :=
  let r := { r with platformList := ⟨r.platformList.platforms ++ [save]⟩ }
  (r.writeJsonFile opens (x.encode r.platformList)).2

/-- The loop of `update_platform_for_local_file`: the first platform with the identifier takes the
mark, and `none` when there is none. -/
def updateFirst (update : Platform) : List Platform → Option (List Platform)
  | [] => none
  | p :: ps =>
    if p.deviceId = update.deviceId then
      some ((if update.softDel then { p with softDel := update.softDel } else p) :: ps)
    else (updateFirst update ps).map (p :: ·)

/-- `server_manage::update_platform_for_local_file`. -/
def updatePlatformForLocalFile (x : XPack) (r : Registry) (opens : Bool) (update : Platform) :
    Bool × Registry :=
  match updateFirst update r.platformList.platforms with
  | none => (false, r)
  | some ps =>
    let r := { r with platformList := ⟨ps⟩ }
    (true, (r.writeJsonFile opens (x.encode r.platformList)).2)

/-- `server_manage::add_platform`: `insert` leaves an entry that is there already. -/
def addPlatform (x : XPack) (r : Registry) (opens : Bool) (p : Platform) : Registry :=
  let r := { r with
    platformMap := if p.deviceId ∈ r.platformMap then r.platformMap else setEntry r.platformMap p }
  r.addPlatformForLocalFile x opens p

/-- `server_manage::del_platform`. -/
def delPlatform (x : XPack) (r : Registry) (opens : Bool) (k : String) : Bool × Registry :=
  match r.platformMap.lookup k with
  | none => (false, r)
  | some it =>
    let it := { it with softDel := true }
    let r := { r with platformMap := r.platformMap.insert k it }
    (true, (r.updatePlatformForLocalFile x opens it).2)

/-- The loop at the end of `start_server` and in `device_upload_func`: the platforms that are not
deleted are put into the map. -/
def refresh (r : Registry) : Registry :=
  { r with
    platformMap :=
      (r.platformList.platforms.filter fun p => !p.softDel).foldl setEntry r.platformMap }

/-! ### The invariant -/

def ids (r : Registry) : List String :=
  r.platformList.platforms.map Platform.deviceId

def find (ps : List Platform) (k : String) : Option Platform :=
  ps.find? fun p => p.deviceId = k

/-- What `init_platform` reads from a file. -/
def load (x : XPack) : Option String → List Platform
  | none => []
  | some text => if text = "" then [] else (x.decode text).platforms

/-- The three copies agree: the map has the list's platforms under their identifiers, which are
distinct, and the file reads back as the list. -/
structure Agrees (x : XPack) (r : Registry) : Prop where
  nodup : r.ids.Nodup
  map : ∀ k, r.platformMap.lookup k = find r.platformList.platforms k
  file : load x r.file = r.platformList.platforms

/-- What is left of it where the file need not open: it is behind the list. -/
structure Mirrored (x : XPack) (r : Registry) : Prop where
  nodup : r.ids.Nodup
  map : ∀ k, r.platformMap.lookup k = find r.platformList.platforms k
  file : ((load x r.file).map Platform.deviceId).Sublist r.ids

lemma Agrees.mirrored {x : XPack} {r : Registry} (h : r.Agrees x) : r.Mirrored x where
  nodup := h.nodup
  map := h.map
  file := by
    rw [h.file]
    exact List.Sublist.refl _

lemma Mirrored.agrees {x : XPack} {r : Registry} (h : r.Mirrored x)
    (hfile : load x r.file = r.platformList.platforms) : r.Agrees x :=
  ⟨h.nodup, h.map, hfile⟩

lemma find_eq_some {ps : List Platform} {k : String} {p : Platform} (h : find ps k = some p) :
    p ∈ ps ∧ p.deviceId = k := by
  refine ⟨List.mem_of_find?_eq_some h, ?_⟩
  simpa using List.find?_some h

lemma find_of_mem {ps : List Platform} {p : Platform} (h : (ps.map Platform.deviceId).Nodup)
    (hp : p ∈ ps) : find ps p.deviceId = some p := by
  induction ps with
  | nil => exact absurd hp (by simp)
  | cons q ps ih =>
    rw [List.map_cons, List.nodup_cons] at h
    rw [find, List.find?_cons]
    rcases List.mem_cons.mp hp with rfl | hp
    · simp
    · have hne : q.deviceId ≠ p.deviceId := by
        intro heq
        exact h.1 (heq ▸ List.mem_map_of_mem hp)
      simp only [hne, decide_false]
      exact ih h.2 hp

lemma find_eq_none {ps : List Platform} {k : String} :
    find ps k = none ↔ k ∉ ps.map Platform.deviceId := by
  simp [find, List.find?_eq_none, List.mem_map]

/-- Entries that are put in one after the other: the last one for an identifier counts. -/
lemma lookup_foldl_setEntry (ps : List Platform) (m : AList fun _ : String => Platform)
    (k : String) (h : (ps.map Platform.deviceId).Nodup) :
    (ps.foldl setEntry m).lookup k = (find ps k).or (m.lookup k) := by
  induction ps generalizing m with
  | nil => rfl
  | cons p ps ih =>
    rw [List.map_cons, List.nodup_cons] at h
    have hcons : find (p :: ps) k = if p.deviceId = k then some p else find ps k := by
      rw [find, List.find?_cons]
      by_cases hk : p.deviceId = k <;> simp [hk, find]
    rw [List.foldl_cons, ih _ h.2, hcons]
    split_ifs with hk
    · subst hk
      rw [find_eq_none.mpr h.1, setEntry, AList.lookup_insert]
      rfl
    · rw [setEntry, AList.lookup_insert_ne fun heq => hk heq.symm]

/-- What `init_platform` makes of a registry: the platforms of the file are put into the map, and
they are the list from then on; a list is left alone only where the file says nothing. -/
lemma initPlatform_spec (x : XPack) (r : Registry) :
    load x (r.initPlatform x).2.file = load x r.file ∧
    (r.initPlatform x).2.platformMap = (load x r.file).foldl setEntry r.platformMap ∧
    ((r.initPlatform x).2.platformList.platforms = load x r.file ∨
      load x r.file = [] ∧ (r.initPlatform x).2.platformList = r.platformList) := by
  rcases r with ⟨m, l, _ | text⟩
  · simp [initPlatform, readJsonFile, load]
  · by_cases ht : text = ""
    · simp [initPlatform, readJsonFile, load, ht]
    · by_cases hd : (x.decode text).platforms = []
      · simp [initPlatform, readJsonFile, load, ht, hd]
      · simp [initPlatform, readJsonFile, load, ht, hd]

lemma initPlatform_boot_list (x : XPack) (file : Option String) :
    ((boot file).initPlatform x).2.platformList.platforms = load x file := by
  obtain ⟨_, _, hlist | ⟨hempty, hlist⟩⟩ := initPlatform_spec x (boot file)
  · exact hlist
  · have hempty : load x file = [] := hempty
    rw [hlist, hempty]
    rfl

/-- `init_platform` on a registry that has read nothing, or that agrees with its file already. -/
lemma init_agrees {x : XPack} {r : Registry}
    (hids : ((load x r.file).map Platform.deviceId).Nodup)
    (h : r = boot r.file ∨ r.Agrees x) : (r.initPlatform x).2.Agrees x := by
  obtain ⟨hfile, hmap, hlist⟩ := initPlatform_spec x r
  have hlist : (r.initPlatform x).2.platformList.platforms = load x r.file := by
    -- an empty list in the file leaves `platform_list` as it was
    rcases hlist with hlist | ⟨hempty, hlist⟩
    · exact hlist
    · rw [hlist]
      rcases h with h | h
      · rw [hempty, h]
        rfl
      · exact h.file.symm
  constructor
  · rw [ids, hlist]
    exact hids
  · intro k
    rw [hmap, lookup_foldl_setEntry _ _ _ hids, hlist]
    rcases h with h | h
    · rw [h]
      exact Option.or_none
    · rw [h.map k, h.file]
      exact Option.or_self
  · rw [hfile, hlist]

lemma boot_mirrored {x : XPack} {file : Option String}
    (hfile : ((load x file).map Platform.deviceId).Nodup) :
    ((boot file).initPlatform x).2.Mirrored x :=
  (init_agrees (r := boot file) hfile (Or.inl rfl)).mirrored

lemma load_encode {x : XPack} (hx : x.Lawful) (l : Platforms) :
    load x (some (x.encode l)) = l.platforms := by
  rw [load, if_neg (hx.encode_ne l), hx.decode_encode]

lemma writeJsonFile_eq (r : Registry) (opens : Bool) (jsonData : String) :
    (r.writeJsonFile opens jsonData).2 =
      { r with file := if opens then some jsonData else r.file } := by
  cases opens <;> rfl

/-- What `add_platform` makes of the list and the map does not depend on the file. -/
lemma addPlatform_list (x : XPack) (r : Registry) (opens : Bool) (p : Platform) :
    (r.addPlatform x opens p).platformList = ⟨r.platformList.platforms ++ [p]⟩ := by
  rw [addPlatform, addPlatformForLocalFile, writeJsonFile_eq]

lemma addPlatform_map (x : XPack) (r : Registry) (opens : Bool) (p : Platform) :
    (r.addPlatform x opens p).platformMap =
      if p.deviceId ∈ r.platformMap then r.platformMap else setEntry r.platformMap p := by
  rw [addPlatform, addPlatformForLocalFile, writeJsonFile_eq]

lemma addPlatform_file (x : XPack) (r : Registry) (opens : Bool) (p : Platform) :
    (r.addPlatform x opens p).file =
      if opens then some (x.encode ⟨r.platformList.platforms ++ [p]⟩) else r.file := by
  rw [addPlatform, addPlatformForLocalFile, writeJsonFile_eq]

lemma ids_addPlatform (x : XPack) (r : Registry) (opens : Bool) (p : Platform) :
    (r.addPlatform x opens p).ids = r.ids ++ [p.deviceId] := by
  rw [ids, addPlatform_list]
  exact List.map_append

/-- A list that is written where the file opens has all the identifiers that the file has. -/
lemma sublist_of_write {x : XPack} (hx : x.Lawful) {file : Option String} {l : Platforms}
    (opens : Bool)
    (h : ((load x file).map Platform.deviceId).Sublist (l.platforms.map Platform.deviceId)) :
    ((load x (if opens then some (x.encode l) else file)).map Platform.deviceId).Sublist
      (l.platforms.map Platform.deviceId) := by
  cases opens with
  | false => exact h
  | true => rw [if_pos rfl, load_encode hx]

lemma addPlatform_mirrored {x : XPack} (hx : x.Lawful) {r : Registry} (h : r.Mirrored x)
    (opens : Bool) {p : Platform} (hp : p.deviceId ∉ r.ids) :
    (r.addPlatform x opens p).Mirrored x := by
  have hnone : find r.platformList.platforms p.deviceId = none := find_eq_none.mpr hp
  have hmem : p.deviceId ∉ r.platformMap := by
    rw [← AList.lookup_eq_none, h.map, hnone]
  refine ⟨?_, fun k => ?_, ?_⟩
  · rw [ids_addPlatform]
    exact List.nodup_append.mpr ⟨h.nodup, List.nodup_singleton _, by
      rintro a ha b hb rfl
      exact hp (List.mem_singleton.mp hb ▸ ha)⟩
  · rw [addPlatform_map, addPlatform_list, if_neg hmem, find, List.find?_append]
    by_cases hk : k = p.deviceId
    · subst hk
      have hfind : List.find? (fun q => q.deviceId = p.deviceId) r.platformList.platforms = none :=
        hnone
      rw [hfind]
      simp [setEntry]
    · have hne : p.deviceId ≠ k := fun heq => hk heq.symm
      rw [setEntry, AList.lookup_insert_ne hk, h.map k]
      simp [find, hne]
  · -- whether or not the file is written, it has no identifier besides those of the list
    have hfile : ((load x r.file).map Platform.deviceId).Sublist
        ((r.platformList.platforms ++ [p]).map Platform.deviceId) := by
      rw [List.map_append]
      exact h.file.trans (List.sublist_append_left _ _)
    rw [addPlatform_file, ids, addPlatform_list]
    exact sublist_of_write hx opens hfile

lemma addPlatform_agrees {x : XPack} (hx : x.Lawful) {r : Registry} (h : r.Agrees x)
    {p : Platform} (hp : p.deviceId ∉ r.ids) : (r.addPlatform x true p).Agrees x :=
  (addPlatform_mirrored hx h.mirrored true hp).agrees (load_encode hx _)

/-- What the first-match update makes of a list with distinct identifiers. -/
lemma updateFirst_eq {ps : List Platform} {q : Platform} (hq : q ∈ ps)
    (hn : (ps.map Platform.deviceId).Nodup) :
    ∃ ps', updateFirst { q with softDel := true } ps = some ps' ∧
      ps'.map Platform.deviceId = ps.map Platform.deviceId ∧
      ∀ k, find ps' k = if k = q.deviceId then some { q with softDel := true } else find ps k := by
  induction ps with
  | nil => exact absurd hq (by simp)
  | cons p ps ih =>
    rw [List.map_cons, List.nodup_cons] at hn
    -- the first platform is the marked one, or has another identifier
    rcases List.mem_cons.mp hq with rfl | hq
    · refine ⟨{ q with softDel := true } :: ps, by simp [updateFirst], rfl, fun k => ?_⟩
      by_cases hk : k = q.deviceId
      · simp [find, hk]
      · have hne : q.deviceId ≠ k := fun heq => hk heq.symm
        simp [find, hk, hne]
    · have hne : p.deviceId ≠ q.deviceId := by
        intro heq
        exact hn.1 (heq ▸ List.mem_map_of_mem hq)
      obtain ⟨ps', hps', hids, hfind⟩ := ih hq hn.2
      refine ⟨p :: ps', by simp [updateFirst, hne, hps'], by simp [hids], fun k => ?_⟩
      have hk := hfind k
      simp only [find] at hk
      by_cases hpk : p.deviceId = k
      · subst hpk
        simp [find, hne]
      · simp [find, hpk, hk]

lemma delPlatform_spec {x : XPack} {r : Registry} (h : r.Mirrored x) (opens : Bool) {k : String}
    {q : Platform} (hq : r.platformMap.lookup k = some q) :
    q.deviceId = k ∧ ∃ ps', r.delPlatform x opens k = (true,
        ⟨r.platformMap.insert k { q with softDel := true }, ⟨ps'⟩,
          if opens then some (x.encode ⟨ps'⟩) else r.file⟩) ∧
      ps'.map Platform.deviceId = r.ids ∧
      ∀ k', find ps' k' = if k' = k then some { q with softDel := true }
        else find r.platformList.platforms k' := by
  obtain ⟨hmem, hid⟩ := find_eq_some ((h.map k).symm.trans hq)
  obtain ⟨ps', hps', hids, hfind⟩ := updateFirst_eq hmem h.nodup
  refine ⟨hid, ps', ?_, hids, fun k' => by rw [hfind k', hid]⟩
  simp [delPlatform, hq, updatePlatformForLocalFile, hps', writeJsonFile_eq]

lemma delPlatform_of_none {x : XPack} {r : Registry} {k : String}
    (hk : r.platformMap.lookup k = none) (opens : Bool) :
    r.delPlatform x opens k = (false, r) := by
  rw [delPlatform, hk]

lemma delPlatform_mirrored {x : XPack} (hx : x.Lawful) {r : Registry} (h : r.Mirrored x)
    (opens : Bool) (k : String) : (r.delPlatform x opens k).2.Mirrored x := by
  cases hk : r.platformMap.lookup k with
  | none =>
    rw [delPlatform_of_none hk]
    exact h
  | some q =>
    obtain ⟨_, ps', hdel, hids, hfind⟩ := delPlatform_spec h opens hk
    rw [hdel]
    refine ⟨?_, fun k' => ?_, sublist_of_write hx opens ?_⟩
    · rw [ids, hids]
      exact h.nodup
    · show (r.platformMap.insert k _).lookup k' = find ps' k'
      rw [hfind k']
      split_ifs with hk'
      · rw [hk', AList.lookup_insert]
      · rw [AList.lookup_insert_ne hk', h.map k']
    · rw [hids]
      exact h.file

lemma delPlatform_agrees {x : XPack} (hx : x.Lawful) {r : Registry} (h : r.Agrees x)
    (k : String) : (r.delPlatform x true k).2.Agrees x := by
  refine (delPlatform_mirrored hx h.mirrored true k).agrees ?_
  cases hk : r.platformMap.lookup k with
  | none =>
    rw [delPlatform_of_none hk]
    exact h.file
  | some q =>
    obtain ⟨_, ps', hdel, _⟩ := delPlatform_spec h.mirrored true hk
    rw [hdel]
    exact load_encode hx _

/-- The refresh writes entries that are there already. -/
lemma refresh_lookup {x : XPack} {r : Registry} (h : r.Mirrored x) (k : String) :
    r.refresh.platformMap.lookup k = r.platformMap.lookup k := by
  have hsub : ((r.platformList.platforms.filter fun p => !p.softDel).map Platform.deviceId).Nodup :=
    (List.filter_sublist.map Platform.deviceId).nodup h.nodup
  rw [refresh, lookup_foldl_setEntry _ _ _ hsub, h.map k]
  cases hf : find (r.platformList.platforms.filter fun p => !p.softDel) k with
  | none => rfl
  | some p =>
    obtain ⟨hp, rfl⟩ := find_eq_some hf
    rw [find_of_mem h.nodup (List.mem_of_mem_filter hp)]
    rfl

lemma refresh_mirrored {x : XPack} {r : Registry} (h : r.Mirrored x) : r.refresh.Mirrored x where
  nodup := h.nodup
  map := fun k => (refresh_lookup h k).trans (h.map k)
  file := h.file

lemma refresh_agrees {x : XPack} {r : Registry} (h : r.Agrees x) : r.refresh.Agrees x :=
  (refresh_mirrored h.mirrored).agrees h.file

/-- A registry whose copies agree has one entry in its map for each element of its list. -/
lemma Agrees.perm {x : XPack} {r : Registry} (h : r.Agrees x) :
    r.platformMap.keys.Perm r.ids := by
  apply (List.perm_ext_iff_of_nodup r.platformMap.keys_nodup h.nodup).mpr
  intro k
  rw [← AList.mem_keys, ← not_iff_not, ← AList.lookup_eq_none, h.map, find_eq_none, ids]

lemma Agrees.getPlatform {x : XPack} {r : Registry} (h : r.Agrees x) {p : Platform}
    (hp : p ∈ r.platformList.platforms) : r.getPlatform p.deviceId = some p :=
  (h.map p.deviceId).trans (find_of_mem h.nodup hp)

lemma Agrees.restart {x : XPack} {r : Registry} (h : r.Agrees x) :
    ((boot r.file).initPlatform x).2.platformList.platforms = r.platformList.platforms ∧
      ∀ k, ((boot r.file).initPlatform x).2.getPlatform k = r.getPlatform k := by
  have hlist := (initPlatform_boot_list x r.file).trans h.file
  have hids : ((load x (boot r.file).file).map Platform.deviceId).Nodup := by
    rw [show load x (boot r.file).file = r.platformList.platforms from h.file]
    exact h.nodup
  have hnew : ((boot r.file).initPlatform x).2.Agrees x := init_agrees hids (Or.inl rfl)
  refine ⟨hlist, fun k => ?_⟩
  rw [Registry.getPlatform, hnew.map, hlist, ← h.map, Registry.getPlatform]

/-! ### Soft deletion -/

def Deleted (r : Registry) (k : String) : Prop :=
  ∃ p, find r.platformList.platforms k = some p ∧ p.softDel = true

lemma Deleted.ne {x : XPack} {r : Registry} (h : r.Agrees x) {k : String} (hk : r.Deleted k)
    {p : Platform} (hp : p ∈ r.platformList.platforms) (hsoft : p.softDel = false) :
    p.deviceId ≠ k := by
  rintro rfl
  obtain ⟨q, hq, hdel⟩ := hk
  rw [find_of_mem h.nodup hp] at hq
  rw [Option.some.inj hq, hdel] at hsoft
  exact nomatch hsoft

lemma Deleted.mem {r : Registry} {k : String} (h : r.Deleted k) : k ∈ r.ids := by
  obtain ⟨p, hp, _⟩ := h
  by_contra hk
  rw [find_eq_none.mpr hk] at hp
  exact nomatch hp

lemma Deleted.addPlatform {r : Registry} {k : String} (h : r.Deleted k) (x : XPack)
    (opens : Bool) (p : Platform) : (r.addPlatform x opens p).Deleted k := by
  obtain ⟨q, hq, hdel⟩ := h
  refine ⟨q, ?_, hdel⟩
  rw [addPlatform_list, find, List.find?_append]
  exact congrArg (fun o => Option.or o _) hq

lemma Deleted.delPlatform {x : XPack} {r : Registry} (h : r.Mirrored x) {k : String}
    (hk : r.Deleted k) (opens : Bool) (k' : String) :
    (r.delPlatform x opens k').2.Deleted k := by
  cases hl : r.platformMap.lookup k' with
  | none =>
    rw [delPlatform_of_none hl]
    exact hk
  | some q =>
    obtain ⟨_, ps', hdel, _, hfind⟩ := delPlatform_spec h opens hl
    rw [hdel]
    obtain ⟨p, hp, hsoft⟩ := hk
    have hfk := hfind k
    split_ifs at hfk with heq
    · exact ⟨_, hfk, rfl⟩
    · exact ⟨p, hfk.trans hp, hsoft⟩

lemma delPlatform_deleted {x : XPack} {r : Registry} (h : r.Mirrored x) (opens : Bool)
    {k : String} (hk : k ∈ r.ids) : (r.delPlatform x opens k).2.Deleted k := by
  cases hl : r.platformMap.lookup k with
  | none =>
    rw [h.map, find_eq_none] at hl
    exact absurd hk hl
  | some q =>
    obtain ⟨_, ps', hdel, _, hfind⟩ := delPlatform_spec h opens hl
    rw [hdel]
    exact ⟨_, (hfind k).trans (if_pos rfl), rfl⟩

/-! ### Runs -/

inductive Op where
  | init
  | add (p : Platform)
  | del (k : String)
  | refresh

/-- A registry, and whether an `add_platform` or a successful `del_platform` has run. -/
structure History where
  registry : Registry
  written : Bool

namespace History

/-- After the first `init_platform`. -/
def started (x : XPack) (file : Option String) : History :=
  ⟨((boot file).initPlatform x).2, false⟩

def step (x : XPack) (s : History) : Op → Option History
  | .init => some { s with registry := (s.registry.initPlatform x).2 }
  | .add p => some ⟨s.registry.addPlatform x true p, true⟩
  | .del k =>
    let (found, r) := s.registry.delPlatform x true k
    some ⟨r, s.written || found⟩
  | .refresh => some { s with registry := s.registry.refresh }

/-- An added platform comes under an identifier of its own. -/
def Fresh (s : History) : Op → Prop
  | .add p => p.deviceId ∉ s.registry.ids
  | _ => True

/-- The copies agree, and what was written is the encoding of the list. -/
structure Consistent (x : XPack) (s : History) : Prop where
  agrees : s.registry.Agrees x
  written : s.written = true → s.registry.file = some (x.encode s.registry.platformList)

lemma Consistent.step {x : XPack} (hx : x.Lawful) {s s' : History} {op : Op}
    (h : s.Consistent x) (hfresh : s.Fresh op) (hs : s.step x op = some s') :
    s'.Consistent x := by
  cases op with
  -- what is read again is what was written
  | init =>
    rw [← Option.some.inj hs]
    refine ⟨init_agrees ?_ (Or.inr h.agrees), fun hw => ?_⟩
    · rw [h.agrees.file]
      exact h.agrees.nodup
    · have hfile := h.written hw
      have hread : s.registry.readJsonFile = (x.encode s.registry.platformList, s.registry) := by
        rw [readJsonFile, hfile]
      simp only [initPlatform, hread, if_neg (hx.encode_ne _), hx.decode_encode]
      split_ifs <;> exact hfile
  | add p =>
    rw [← Option.some.inj hs]
    exact ⟨addPlatform_agrees hx h.agrees hfresh, fun _ => rfl⟩
  | del k =>
    rw [← Option.some.inj hs]
    refine ⟨delPlatform_agrees hx h.agrees k, ?_⟩
    show (s.written || (s.registry.delPlatform x true k).1) = true →
      (s.registry.delPlatform x true k).2.file =
        some (x.encode (s.registry.delPlatform x true k).2.platformList)
    cases hk : s.registry.platformMap.lookup k with
    | none =>
      rw [delPlatform_of_none hk, Bool.or_false]
      exact h.written
    | some q =>
      obtain ⟨_, ps', hdel, _⟩ := delPlatform_spec h.agrees.mirrored true hk
      rw [hdel]
      exact fun _ => rfl
  | refresh =>
    rw [← Option.some.inj hs]
    exact ⟨refresh_agrees h.agrees, h.written⟩

/-- After any operations on a started registry its map has exactly the platforms of its list,
what was written to the file is the encoding of the list, and a restart rebuilds both. -/
theorem copies_agree {x : XPack} (hx : x.Lawful) {file : Option String}
    (hfile : ((load x file).map Platform.deviceId).Nodup) {ops : List Op} {s : History}
    (hrun : Run.run (step x) (started x file) ops = some s)
    (hfresh : Run.Meets (step x) Fresh (started x file) ops) :
    (s.registry.ids.Nodup ∧ s.registry.platformMap.keys.Perm s.registry.ids ∧
      ∀ p ∈ s.registry.platformList.platforms, s.registry.getPlatform p.deviceId = some p) ∧
    (s.written = true → s.registry.file = some (x.encode s.registry.platformList)) ∧
    ((boot s.registry.file).initPlatform x).2.platformList.platforms =
      s.registry.platformList.platforms ∧
    ∀ k, ((boot s.registry.file).initPlatform x).2.getPlatform k = s.registry.getPlatform k := by
  have hstart : (started x file).Consistent x :=
    ⟨init_agrees hfile (Or.inl rfl), fun hw => absurd hw (by simp [started])⟩
  have h : s.Consistent x :=
    Run.run_invariant (fun _ _ _ h hc hs => h.step hx hc hs) hstart hfresh hrun
  exact ⟨⟨h.agrees.nodup, h.agrees.perm, fun p hp => h.agrees.getPlatform hp⟩, h.written,
    h.agrees.restart⟩

end History

end Registry

end DHGateway
