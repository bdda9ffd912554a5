import DHGateway.Server.Announce

/-!
# Acknowledged deletions

`DEVICE_DELETE`, `DEVICE_DELETE_SOFT` and `DEVICE_DELETE_RECOVER` are all answered with the code
`0`, whatever the registry has. Only the soft deletion does something to it, and to the file only if
that opens. Earlier writes may have failed, so that the file need not say what the list does.
-/

namespace DHGateway

open Json Config

namespace Registry

variable {x : XPack} {r : Registry} {k : String}

/-! ### An invariant without distinct identifiers -/

/-- The map has its entries from the list, under their identifiers. -/
def Held (r : Registry) : Prop :=
  ∀ k p, r.platformMap.lookup k = some p → p.deviceId = k ∧ k ∈ r.ids

lemma foldl_setEntry_entry {ids : List String} {ps : List Platform}
    {m : AList fun _ : String => Platform}
    (hm : ∀ k p, m.lookup k = some p → p.deviceId = k ∧ k ∈ ids)
    (hps : ∀ p ∈ ps, p.deviceId ∈ ids) {k : String} {p : Platform}
    (h : (ps.foldl setEntry m).lookup k = some p) : p.deviceId = k ∧ k ∈ ids := by
  induction ps generalizing m with
  | nil => exact hm k p h
  | cons q ps ih =>
    refine ih (fun k' p' h' => ?_) (fun p' hp' => hps p' (List.mem_cons_of_mem q hp')) h
    by_cases hk : k' = q.deviceId
    · rw [setEntry, hk, AList.lookup_insert] at h'
      obtain rfl := Option.some.inj h'
      exact ⟨hk.symm, hk ▸ hps q List.mem_cons_self⟩
    · rw [setEntry, AList.lookup_insert_ne hk] at h'
      exact hm k' p' h'

lemma init_held (x : XPack) (file : Option String) : ((boot file).initPlatform x).2.Held := by
  obtain ⟨_, hmap, _⟩ := initPlatform_spec x (boot file)
  intro k p hp
  rw [hmap] at hp
  rw [ids, initPlatform_boot_list]
  refine foldl_setEntry_entry (fun k p h => ?_) (fun p hp => List.mem_map_of_mem hp) hp
  exact absurd h (by simp [boot])

lemma Held.refresh (h : r.Held) : r.refresh.Held := by
  intro k p hp
  refine foldl_setEntry_entry h (fun p hp => ?_) hp
  exact List.mem_map_of_mem (List.mem_of_mem_filter hp)

lemma Held.addPlatform (h : r.Held) (x : XPack) (opens : Bool) (p : Platform) :
    (r.addPlatform x opens p).Held := by
  intro k q hq
  rw [ids_addPlatform, List.mem_append, List.mem_singleton]
  rw [addPlatform_map] at hq
  split_ifs at hq
  · obtain ⟨hid, hmem⟩ := h k q hq
    exact ⟨hid, Or.inl hmem⟩
  · by_cases hk : k = p.deviceId
    · rw [setEntry, hk, AList.lookup_insert] at hq
      obtain rfl := Option.some.inj hq
      exact ⟨hk.symm, Or.inr hk⟩
    · rw [setEntry, AList.lookup_insert_ne hk] at hq
      obtain ⟨hid, hmem⟩ := h k q hq
      exact ⟨hid, Or.inl hmem⟩

def others (k : String) (ps : List Platform) : List Platform :=
  ps.filter fun p => p.deviceId ≠ k

lemma updateFirst_of_mem {ps : List Platform} {update : Platform} (hsoft : update.softDel = true)
    (h : update.deviceId ∈ ps.map Platform.deviceId) :
    ∃ ps', updateFirst update ps = some ps' ∧
      ps'.map Platform.deviceId = ps.map Platform.deviceId ∧
      others update.deviceId ps' = others update.deviceId ps ∧
      ∃ p, find ps' update.deviceId = some p ∧ p.softDel = true := by
  induction ps with
  | nil => exact absurd h (by simp)
  | cons p ps ih =>
    -- the loop of `update_platform_for_local_file` ends at the first recorder with the identifier
    by_cases hp : p.deviceId = update.deviceId
    · refine ⟨{ p with softDel := true } :: ps, ?_, rfl, ?_, { p with softDel := true }, ?_, rfl⟩
      · simp [updateFirst, hp, hsoft]
      · simp [others, hp]
      · simp [find, hp]
    · rw [List.map_cons, List.mem_cons] at h
      obtain ⟨ps', hps', hids, hothers, q, hq, hdel⟩ := ih (h.resolve_left (Ne.symm hp))
      refine ⟨p :: ps', ?_, ?_, ?_, q, ?_, hdel⟩
      · simp [updateFirst, hp, hps']
      · simp [hids]
      · simpa [others, hp] using hothers
      · simpa [find, hp] using hq

/-! ### What a deletion is for -/

/-- All copies have a platform under the identifier, with the given mark. -/
structure Present (x : XPack) (k : String) (softDel : Bool) (r : Registry) : Prop where
  map : ∃ p, r.getPlatform k = some p ∧ p.softDel = softDel
  list : ∃ p, find r.platformList.platforms k = some p ∧ p.softDel = softDel
  file : ∃ p, find (load x r.file) k = some p ∧ p.softDel = softDel

/-- No copy has the identifier. -/
structure Absent (x : XPack) (k : String) (r : Registry) : Prop where
  map : r.getPlatform k = none
  list : k ∉ r.ids
  file : k ∉ (load x r.file).map Platform.deviceId

/-- The other platforms are the same in all copies. -/
structure OthersSame (x : XPack) (k : String) (r r' : Registry) : Prop where
  map : ∀ k', k' ≠ k → r'.getPlatform k' = r.getPlatform k'
  list : others k r'.platformList.platforms = others k r.platformList.platforms
  file : others k (load x r'.file) = others k (load x r.file)

lemma OthersSame.refl (x : XPack) (k : String) (r : Registry) : r.OthersSame x k r :=
  ⟨fun _ _ => rfl, rfl, rfl⟩

/-- The file can take the mark of a device: it opens, and what it says of the others is what the
list says; or it does not open, and has the mark already. -/
def FileTakes (x : XPack) (k : String) (opens : Bool) (r : Registry) : Prop :=
  if opens then others k (load x r.file) = others k r.platformList.platforms
  else ∃ p, find (load x r.file) k = some p ∧ p.softDel = true

lemma Held.delPlatform_eq (h : r.Held) (x : XPack) (opens : Bool) {q : Platform}
    (hq : r.getPlatform k = some q) :
    ∃ ps', (r.delPlatform x opens k).2 =
        ⟨r.platformMap.insert k { q with softDel := true }, ⟨ps'⟩,
          if opens then some (x.encode ⟨ps'⟩) else r.file⟩ ∧
      ps'.map Platform.deviceId = r.ids ∧ others k ps' = others k r.platformList.platforms ∧
      ∃ p, find ps' k = some p ∧ p.softDel = true := by
  have hq : r.platformMap.lookup k = some q := hq
  obtain ⟨rfl, hmem⟩ := h k q hq
  obtain ⟨ps', hps', hids, hothers, hmark⟩ :=
    updateFirst_of_mem (show ({ q with softDel := true } : Platform).softDel = true from rfl) hmem
  refine ⟨ps', ?_, hids, hothers, hmark⟩
  simp [delPlatform, hq, updatePlatformForLocalFile, hps', writeJsonFile_eq]

lemma Held.getPlatform_delPlatform (h : r.Held) (x : XPack) (opens : Bool) {q : Platform}
    (hq : r.getPlatform k = some q) :
    (r.delPlatform x opens k).2.getPlatform k = some { q with softDel := true } := by
  obtain ⟨ps', hdel, _⟩ := h.delPlatform_eq x opens hq
  rw [hdel]
  exact AList.lookup_insert _

/-- A deletion takes effect in all copies just if the file can take it; the map and the list always
do. -/
lemma Held.delPlatform_iff (hx : x.Lawful) (h : r.Held) (opens : Bool) {q : Platform}
    (hq : r.getPlatform k = some q) :
    (r.delPlatform x opens k).2.Present x k true ∧
        r.OthersSame x k (r.delPlatform x opens k).2 ↔ r.FileTakes x k opens := by
  obtain ⟨ps', hdel, -, hothers, hmark⟩ := h.delPlatform_eq x opens hq
  rw [hdel, FileTakes]
  have hmap : ∃ p, (r.platformMap.insert k { q with softDel := true }).lookup k = some p ∧
      p.softDel = true := ⟨_, AList.lookup_insert _, rfl⟩
  have hrest : ∀ k', k' ≠ k → (r.platformMap.insert k { q with softDel := true }).lookup k' =
      r.platformMap.lookup k' := fun k' hk' => AList.lookup_insert_ne hk'
  cases opens with
  -- the whole list is written in place of what the file held
  | true =>
    have hload := load_encode hx ⟨ps'⟩
    constructor
    · rintro ⟨_, hsame⟩
      have hfile : others k (load x (some (x.encode ⟨ps'⟩))) = others k (load x r.file) :=
        hsame.file
      rw [if_pos rfl, ← hfile, hload, hothers]
    · intro hfile
      rw [if_pos rfl] at hfile
      refine ⟨⟨hmap, hmark, ?_⟩, ⟨hrest, hothers, ?_⟩⟩
      · rw [if_pos rfl, hload]
        exact hmark
      · rw [if_pos rfl, hload, hfile, hothers]
  -- the file is as it was, so it has to hold the mark already
  | false =>
    constructor
    · exact fun hpresent => hpresent.1.file
    · exact fun hfile => ⟨⟨hmap, hmark, hfile⟩, ⟨hrest, hothers, rfl⟩⟩

lemma Held.delPlatform (h : r.Held) (x : XPack) (opens : Bool) (k : String) :
    (r.delPlatform x opens k).2.Held := by
  cases hk : r.getPlatform k with
  | none =>
    rw [delPlatform_of_none hk]
    exact h
  | some q =>
    obtain ⟨hid, hmem⟩ := h k q hk
    obtain ⟨ps', hdel, hids, -⟩ := h.delPlatform_eq x opens hk
    rw [hdel]
    intro k' p hp
    rw [ids, hids]
    by_cases hk' : k' = k
    · rw [hk', AList.lookup_insert] at hp
      rw [← Option.some.inj hp, hk']
      exact ⟨hid, hmem⟩
    · rw [AList.lookup_insert_ne hk'] at hp
      exact h k' p hp

end Registry

namespace Server

variable {env : Env} {s : Server} {doc : Document} {a : TaskInput} {t : MsgType}

/-- Every event keeps the invariant; identifiers need not be distinct for it, and writes may
fail. -/
lemma step_held {s s' : Server} {e : Event} (h : s.registry.Held) (hs : step env s e = some s') :
    s'.registry.Held := by
  cases e with
  | task doc a =>
    rw [← Option.some.inj hs]
    cases handle_effect env s doc a with
    | quiet hq => exact hq.registry ▸ h
    | totalSync _ hreg => exact hreg ▸ h
    | add p _ _ _ hreg => exact hreg ▸ h.addPlatform env.xpack a.fileOpens p
    | del _ hreg => exact hreg ▸ h.delPlatform env.xpack a.fileOpens _
  | upload time =>
    rw [← Option.some.inj hs, uploadDevices_registry]
    exact h.refresh
  | restart tempPtzCmd msgId =>
    rw [← Option.some.inj hs]
    exact Registry.init_held env.xpack _

lemma held_of_run {file : Option String} {tempPtzCmd : ℕ} {msgId : ℤ} {es : List Event}
    (hrun : Run.run (step env) (startServer env file tempPtzCmd msgId []) es = some s) :
    s.registry.Held :=
  Run.reachable_invariant (fun _ _ _ h hs => step_held h hs) (Registry.init_held env.xpack file)
    hrun

/-! ### The three requests -/

def IsDelete (t : MsgType) : Prop :=
  t = .deviceDelete ∨ t = .deviceDeleteSoft ∨ t = .deviceDeleteRecover

def namedDevice (doc : Document) : Option String :=
  ((doc.getD .null).objectMember "data").bind (stringMember "deviceId")

/-- What the registry is like once a request has taken effect. -/
def Took (x : XPack) (k : String) (r : Registry) : MsgType → Prop
  | .deviceDelete => r.Absent x k
  | .deviceDeleteSoft => r.Present x k true
  | _ => r.Present x k false

/-- A request is answered. If the code is `0`, then it has taken effect for the device that it
names, and for no other one; and the code is not `0` if it names none that is known. -/
def Acknowledged (env : Env) (s : Server) (doc : Document) (t : MsgType) (s' : Server) : Prop :=
  ∃ m code, s'.sent = s.sent ++ [m] ∧ m.intMember "code" = some code ∧
    (code = 0 → ∀ k, namedDevice doc = some k →
      Took env.xpack k s'.registry t ∧ s.registry.OthersSame env.xpack k s'.registry) ∧
    ((∀ k, namedDevice doc = some k → s.registry.getPlatform k = none) → code ≠ 0)

/-- The request names a device that is known, and wants it marked as deleted, which the file can
take; or wants it back while nothing is marked. -/
def CanTake (env : Env) (s : Server) (doc : Document) (a : TaskInput) (t : MsgType) : Prop :=
  ∃ k p, namedDevice doc = some k ∧ s.registry.getPlatform k = some p ∧
    (t = .deviceDeleteSoft ∧ s.registry.FileTakes env.xpack k a.fileOpens ∨
      t = .deviceDeleteRecover ∧ s.registry.Present env.xpack k false)

lemma parsDeviceDeleteSoft_named {k : String} (hk : namedDevice doc = some k) (p : Platform) :
    (parsDeviceDeleteSoft doc p).2.deviceId = k := by
  rw [namedDevice] at hk
  simp only [parsDeviceDeleteSoft, parsDeviceSync, hk]

/-- What each of the requests comes to: the answer has the code `0`, and the registry changes only
if a device is marked. -/
lemma handle_delete (env : Env) (s : Server) (a : TaskInput) (ht : IsDelete t)
    (hdoc : getMsgType doc = some t) :
    (∃ m, (handle env s doc a).1.sent = s.sent ++ [m] ∧ m.intMember "code" = some 0) ∧
      (handle env s doc a).1.registry = if t = .deviceDeleteSoft then
        (s.registry.delPlatform env.xpack a.fileOpens
          (parsDeviceDeleteSoft doc (Platform.new a.newId)).2.deviceId).2 else s.registry := by
  rw [handle, hdoc]
  rcases ht with rfl | rfl | rfl <;> exact ⟨⟨_, rfl, rfl⟩, rfl⟩

/-- The answer of a request tells the truth just if it names a device for which there is something
it can do, or nothing to do. -/
lemma acknowledged_iff (hx : env.xpack.Lawful) (h : s.registry.Held) (ht : IsDelete t)
    (hdoc : getMsgType doc = some t) :
    Acknowledged env s doc t (handle env s doc a).1 ↔ CanTake env s doc a t := by
  obtain ⟨⟨m, hsent, hcode⟩, hreg⟩ := handle_delete env s a ht hdoc
  have hack : Acknowledged env s doc t (handle env s doc a).1 ↔
      ∃ k p, namedDevice doc = some k ∧ s.registry.getPlatform k = some p ∧
        Took env.xpack k (handle env s doc a).1.registry t ∧
        s.registry.OthersSame env.xpack k (handle env s doc a).1.registry := by
    constructor
    · rintro ⟨m', code, hsent', hcode', htook, hunknown⟩
      have hm : m = m' := by simpa using hsent.symm.trans hsent'
      rw [← hm, hcode] at hcode'
      obtain rfl := Option.some.inj hcode'
      by_contra hno
      apply hunknown _ rfl
      intro k hk
      cases hp : s.registry.getPlatform k with
      | none => rfl
      | some p => exact absurd ⟨k, p, hk, hp, htook rfl k hk⟩ hno
    · rintro ⟨k, p, hk, hp, htook⟩
      refine ⟨m, 0, hsent, hcode, fun _ k' hk' => ?_, fun hunknown => ?_⟩
      · obtain rfl : k = k' := Option.some.inj (hk.symm.trans hk')
        exact htook
      · rw [hunknown k hk] at hp
        exact nomatch hp
  rw [hack, CanTake]
  refine exists_congr fun k => exists_congr fun p => ?_
  refine and_congr_right fun hk => and_congr_right fun hp => ?_
  rw [hreg, parsDeviceDeleteSoft_named hk]
  rcases ht with rfl | rfl | rfl
  · -- the device stays where it is
    simp only [reduceCtorEq, if_false, false_and, or_self, iff_false]
    rintro ⟨habs, _⟩
    rw [Registry.Absent.map habs] at hp
    exact nomatch hp
  · simp only [if_true, reduceCtorEq, false_and, or_false, true_and]
    exact h.delPlatform_iff hx a.fileOpens hp
  · simp only [reduceCtorEq, if_false, false_and, false_or, true_and]
    exact ⟨fun htook => htook.1, fun hlive => ⟨hlive, .refl _ _ _⟩⟩

lemma recover_after_soft (env : Env) (h : s.registry.Held) {k : String} {p : Platform}
    {doc' : Document} (a a' : TaskInput)
    (hdoc : getMsgType doc = some .deviceDeleteSoft) (hk : namedDevice doc = some k)
    (hp : s.registry.getPlatform k = some p)
    (hdoc' : getMsgType doc' = some .deviceDeleteRecover) :
    (handle env (handle env s doc a).1 doc' a').1.registry.getPlatform k =
      some { p with softDel := true } := by
  obtain ⟨_, hsoft⟩ := handle_delete env s a (Or.inr (Or.inl rfl)) hdoc
  obtain ⟨_, hrecover⟩ := handle_delete env (handle env s doc a).1 a' (Or.inr (Or.inr rfl)) hdoc'
  rw [hrecover, if_neg (by decide), hsoft, if_pos rfl, parsDeviceDeleteSoft_named hk]
  exact h.getPlatform_delPlatform env.xpack a.fileOpens hp

/-- In every state of the server, the answer of a request to delete a device or to take that back
tells the truth exactly if the request names a known device and either marks it, which the file can
take, or wants it back while it is not marked; and no live device that is marked gets back to what
it was. -/
theorem delete_acknowledged_iff (hx : env.xpack.Lawful) {file : Option String} {tempPtzCmd : ℕ}
    {msgId : ℤ} {es : List Event}
    (hrun : Run.run (step env) (startServer env file tempPtzCmd msgId []) es = some s)
    (ht : IsDelete t) (hdoc : getMsgType doc = some t) :
    (Acknowledged env s doc t (handle env s doc a).1 ↔ CanTake env s doc a t) ∧
      ∀ k p doc' a', t = .deviceDeleteSoft → namedDevice doc = some k →
        s.registry.getPlatform k = some p → p.softDel = false →
        getMsgType doc' = some .deviceDeleteRecover →
        (handle env (handle env s doc a).1 doc' a').1.registry ≠ s.registry := by
  have h := held_of_run hrun
  refine ⟨acknowledged_iff hx h ht hdoc, ?_⟩
  rintro k p doc' a' rfl hk hp hlive hdoc' heq
  -- the recovery leaves the mark of the soft deletion in the map
  have hmarked := recover_after_soft env h a a' hdoc hk hp hdoc'
  rw [heq, hp] at hmarked
  have hsoft := congrArg Platform.softDel (Option.some.inj hmarked)
  rw [hlive] at hsoft
  exact nomatch hsoft

/-- A request for the recorder that `addRecorder` adds. -/
def aboutRecorder (msgType : String) : Document :=
  some (.obj [("msgId", .str "49542"), ("msgType", .str msgType),
    ("data", .obj [("deviceId", .str "1700733608331580")])])

def noFile : TaskInput :=
  { TaskInput.silent with fileOpens := false }

lemma fileTakes_of_saved {r : Registry} {k : String}
    (h : r.file = some (XPack.json.encode r.platformList)) : r.FileTakes XPack.json k true := by
  rw [Registry.FileTakes, if_pos rfl, h, Registry.load_encode XPack.json_lawful]

/-- A recorder that was added is marked by a soft deletion. -/
theorem delete_acknowledged_recorder :
    ∃ s, Run.run (step Env.plain) fresh [addRecorder] = some s ∧
      Acknowledged Env.plain s (aboutRecorder "DEVICE_DELETE_SOFT") .deviceDeleteSoft
        (handle Env.plain s (aboutRecorder "DEVICE_DELETE_SOFT") .silent).1 := by
  have hrun : ∃ s, Run.run (step Env.plain) fresh [addRecorder] = some s ∧
      (s.registry.getPlatform "1700733608331580").isSome = true ∧
      s.registry.file = some (XPack.json.encode s.registry.platformList) :=
    ⟨_, rfl, by decide, rfl⟩
  obtain ⟨s, hs, hknown, hsaved⟩ := hrun
  obtain ⟨p, hp⟩ := Option.isSome_iff_exists.mp hknown
  exact ⟨s, hs, (delete_acknowledged_iff XPack.json_lawful hs (Or.inr (Or.inl rfl))
    (by decide)).1.mpr ⟨_, p, rfl, hp, Or.inl ⟨rfl, fileTakes_of_saved hsaved⟩⟩⟩

/-- The deletion of a recorder, its recovery after a soft deletion, a soft deletion while the file
does not open, and the deletion of a device that nobody knows are answered with the code `0`;
nothing is done, or the file does not have it. -/
theorem delete_not_acknowledged :
    ¬ Acknowledged Env.plain fresh (aboutRecorder "DEVICE_DELETE_SOFT") .deviceDeleteSoft
        (handle Env.plain fresh (aboutRecorder "DEVICE_DELETE_SOFT") .silent).1 ∧
      ∃ s s', Run.run (step Env.plain) fresh [addRecorder] = some s ∧
        Run.run (step Env.plain) s [.task (aboutRecorder "DEVICE_DELETE_SOFT") .silent] = some s' ∧
        ¬ Acknowledged Env.plain s (aboutRecorder "DEVICE_DELETE") .deviceDelete
          (handle Env.plain s (aboutRecorder "DEVICE_DELETE") .silent).1 ∧
        ¬ Acknowledged Env.plain s (aboutRecorder "DEVICE_DELETE_SOFT") .deviceDeleteSoft
          (handle Env.plain s (aboutRecorder "DEVICE_DELETE_SOFT") noFile).1 ∧
        ¬ Acknowledged Env.plain s' (aboutRecorder "DEVICE_DELETE_RECOVER") .deviceDeleteRecover
          (handle Env.plain s' (aboutRecorder "DEVICE_DELETE_RECOVER") .silent).1 := by
  have hfresh : fresh.registry.Held := Registry.init_held XPack.json none
  have hadded : ∃ s, Run.run (step Env.plain) fresh [addRecorder] = some s ∧
      (s.registry.getPlatform "1700733608331580").isSome = true ∧
      s.registry.file = some (XPack.json.encode s.registry.platformList) ∧
      ∃ p, s.registry.platformList = ⟨[p]⟩ ∧ p.softDel = false :=
    ⟨_, rfl, by decide, rfl, _, rfl, rfl⟩
  obtain ⟨s, hs, hknown, hsaved, q, hlist, hlive⟩ := hadded
  obtain ⟨p, hp⟩ := Option.isSome_iff_exists.mp hknown
  have hheld : s.registry.Held := held_of_run hs
  refine ⟨?_, s, _, hs, rfl, ?_, ?_, ?_⟩
  · rw [acknowledged_iff XPack.json_lawful hfresh (Or.inr (Or.inl rfl)) (by decide)]
    rintro ⟨k, q, _, hq, _⟩
    exact nomatch hq
  · rw [acknowledged_iff XPack.json_lawful hheld (Or.inl rfl) (by decide)]
    rintro ⟨_, _, _, _, ⟨h, _⟩ | ⟨h, _⟩⟩
    · exact nomatch h
    · exact nomatch h
  · -- the recorder of the file is not marked
    rw [acknowledged_iff XPack.json_lawful hheld (Or.inr (Or.inl rfl)) (by decide)]
    rintro ⟨k, _, _, _, ⟨_, q', hq', hsoft⟩ | ⟨h, _⟩⟩
    · have hload : Registry.load XPack.json s.registry.file = [q] := by
        rw [hsaved, Registry.load_encode XPack.json_lawful, hlist]
      have hq' : Registry.find (Registry.load XPack.json s.registry.file) k = some q' := hq'
      rw [hload] at hq'
      obtain rfl := List.mem_singleton.mp (Registry.find_eq_some hq').1
      rw [hlive] at hsoft
      exact nomatch hsoft
    · exact nomatch h
  · have hmarked := step_held hheld
      (show step Env.plain s (.task (aboutRecorder "DEVICE_DELETE_SOFT") .silent) = _ from rfl)
    rw [acknowledged_iff XPack.json_lawful hmarked (Or.inr (Or.inr rfl)) (by decide)]
    rintro ⟨k, q, hk, _, ⟨h, _⟩ | ⟨_, hlive⟩⟩
    · exact nomatch h
    · obtain rfl : "1700733608331580" = k := Option.some.inj hk
      have hmark := hheld.getPlatform_delPlatform XPack.json true hp
      obtain ⟨q', hq', hsoft⟩ := hlive.map
      rw [Option.some.inj (hq'.symm.trans hmark)] at hsoft
      exact nomatch hsoft

end Server

end DHGateway
