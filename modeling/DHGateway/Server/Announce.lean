import DHGateway.Server.Handlers

/-!
# Announced devices

A device is announced by an entry of a `DEVICE_TOTAL_SYNC` and by a `DEVICE_SIGN_IN`. All of them
leave out what is marked as deleted; the mark is in the list and in the file, so that it outlives
the process.
-/

namespace DHGateway

open Json Config

def Announces (k : String) (m : Json) : Prop :=
  (m.stringMember "msgType" = some "DEVICE_TOTAL_SYNC" ∧
    ∃ l, m.memberAs asArray "data" = some l ∧ ∃ e ∈ l, e.stringMember "deviceId" = some k) ∨
  (m.stringMember "msgType" = some "DEVICE_SIGN_IN" ∧
    ∃ d, m.objectMember "data" = some d ∧ d.stringMember "deviceId" = some k)

/-! ### What the messages announce -/

variable {c : Config} {k : String}

lemma not_announces_of_type {m : Json} {msgId msgType : String} (h : Heads m msgId msgType)
    (hsync : msgType ≠ "DEVICE_TOTAL_SYNC") (hsign : msgType ≠ "DEVICE_SIGN_IN") :
    ¬ Announces k m := by
  rintro (⟨htype, _⟩ | ⟨htype, _⟩)
  · rw [h.msgType] at htype
    exact hsync (Option.some.inj htype)
  · rw [h.msgType] at htype
    exact hsign (Option.some.inj htype)

lemma not_announces_response (msgId : String) (code : ℤ) (msgType time : String) :
    ¬ Announces k (c.response msgId code msgType time) := by
  rintro (⟨_, l, hl, _⟩ | ⟨_, d, hd, _⟩)
  · exact nomatch hl
  · exact nomatch hd

lemma not_announces_responseRecordList (msgId : String) (code : ℤ) (msgType : String)
    (list : List Record) (time : String) :
    ¬ Announces k (c.responseRecordList msgId code msgType list time) := by
  rintro (⟨_, l, hl, _⟩ | ⟨_, d, hd, hk⟩)
  · exact nomatch hl
  · rw [← Option.some.inj hd] at hk
    exact nomatch hk

lemma deviceAddStep2_deviceId {platform : Platform} {msgId : ℤ} {time : String} :
    (∃ d, (c.deviceAddStep2 platform msgId time).1.objectMember "data" = some d ∧
      d.stringMember "deviceId" = some k) ↔ platform.deviceId = k := by
  constructor
  · rintro ⟨d, hd, hk⟩
    rw [← Option.some.inj hd] at hk
    exact Option.some.inj hk
  · rintro rfl
    exact ⟨_, rfl, rfl⟩

lemma announces_deviceAddStep2 {platform : Platform} {msgId : ℤ} {time : String} :
    Announces k (c.deviceAddStep2 platform msgId time).1 ↔ platform.deviceId = k := by
  constructor
  · rintro (⟨htype, _⟩ | ⟨_, hdata⟩)
    · rw [(deviceAddStep2_heads _ _ _).msgType] at htype
      exact absurd (Option.some.inj htype) (by decide)
    · exact deviceAddStep2_deviceId.mp hdata
  · intro hk
    exact Or.inr ⟨rfl, deviceAddStep2_deviceId.mpr hk⟩

lemma announces_deviceTotalSync {platformList : List Platform} {msgId : String}
    {times : Platform → String} :
    Announces k (c.deviceTotalSync platformList msgId times) ↔
      ∃ p ∈ platformList, p.softDel = false ∧ p.deviceId = k := by
  constructor
  · rintro (⟨_, l, hl, e, he, hk⟩ | ⟨htype, _⟩)
    · rw [← Option.some.inj hl, List.mem_map] at he
      obtain ⟨p, hp, rfl⟩ := he
      obtain ⟨hmem, hsoft⟩ := List.mem_filter.mp hp
      exact ⟨p, hmem, by simpa using hsoft, Option.some.inj hk⟩
    · rw [(deviceTotalSync_heads _ _ _).msgType] at htype
      exact absurd (Option.some.inj htype) (by decide)
  · rintro ⟨p, hp, hsoft, rfl⟩
    have hmem : p ∈ platformList.filter fun p => !p.softDel :=
      List.mem_filter.mpr ⟨hp, by simp [hsoft]⟩
    exact Or.inl ⟨rfl, _, rfl, _, List.mem_map_of_mem hmem, rfl⟩

namespace Server

variable {env : Env} {s : Server} {doc : Document} {a : TaskInput}

/-! ### What a task does to the registry and what it announces -/

/-- The registry is as it was, and nothing that was sent announces a device. -/
structure Quiet (s s' : Server) : Prop where
  registry : s'.registry = s.registry
  sent : ∃ new, s'.sent = s.sent ++ new ∧ ∀ m ∈ new, ∀ k, ¬ Announces k m

lemma Quiet.refl (s : Server) : s.Quiet s :=
  ⟨rfl, [], by simp, by simp⟩

lemma quiet_of_send {s s' : Server} {m : Json} (hreg : s'.registry = s.registry)
    (hsent : s'.sent = s.sent ++ [m]) (hm : ∀ k, ¬ Announces k m) : s.Quiet s' :=
  ⟨hreg, [m], hsent, by simpa using hm⟩

lemma quiet_of_sent {s s' : Server} (hreg : s'.registry = s.registry)
    (hsent : s'.sent = s.sent) : s.Quiet s' :=
  ⟨hreg, [], by simpa using hsent, by simp⟩

lemma withLogin_quiet {deviceId : String} {body : Server → LoginResults → Server × TaskEnd}
    (h : ∀ mgr results, s.Quiet (body { s with mgr := mgr } results).1) :
    s.Quiet (s.withLogin deviceId a body).1 := by
  rw [withLogin, lookupLogin]
  cases s.registry.getPlatform deviceId with
  | none => exact h s.mgr a.results
  | some p =>
    dsimp only
    rcases s.mgr.connetEquipment p.credentials a.results a.login with ⟨_ | ret, mgr, results⟩
    · exact quiet_of_sent rfl rfl
    · exact h mgr results

lemma withParsed_quiet {α : Type} {parsed : Except Fault (Bool × α)}
    {body : α → Server × TaskEnd} (h : ∀ v, s.Quiet (body v).1) :
    s.Quiet (s.withParsed parsed body).1 := by
  rcases parsed with f | ⟨_, v⟩
  · exact Quiet.refl s
  · exact h v

/-- What a task can come to: it is quiet, or it answers with the whole list, adds a recorder or
deletes one. -/
inductive Effect (env : Env) (s : Server) (doc : Document) (a : TaskInput) (s' : Server) : Prop
  | quiet (h : s.Quiet s')
  | totalSync (msgId : String) (hreg : s'.registry = s.registry)
      (hsent : s'.sent = s.sent ++
        [env.deviceTotalSync s.registry.platformList.platforms msgId a.times])
  | add (p : Platform) (answer : Json) (htype : getMsgType doc = some .deviceAdd)
      (hid : p.deviceId = a.newId) 
      (hreg : s'.registry = s.registry.addPlatform env.xpack a.fileOpens p)
      (hanswer : ∀ k, ¬ Announces k answer)
      (hsent : s'.sent = s.sent ++ [answer] ++ [(env.deviceAddStep2 p s.msgId a.signInTime).1])
  | del (answer : Json)
      (hreg : s'.registry = (s.registry.delPlatform env.xpack a.fileOpens
        (parsDeviceDeleteSoft doc (Platform.new a.newId)).2.deviceId).2)
      (hanswer : ∀ k, ¬ Announces k answer) (hsent : s'.sent = s.sent ++ [answer])

lemma acknowledge_effect (msgType : String) :
    Effect env s doc a (acknowledge env s doc a msgType).1 :=
  .quiet (quiet_of_send rfl rfl fun _ => not_announces_response _ _ _ _)

lemma parsDeviceAdd_deviceId (doc : Document) (p : Platform) :
    (parsDeviceAdd doc p).2.deviceId = p.deviceId := by
  rw [parsDeviceAdd]
  split <;> rfl

lemma deviceAdd_effect (ht : getMsgType doc = some .deviceAdd) :
    Effect env s doc a (deviceAdd env s doc a).1 := by
  have hid := parsDeviceAdd_deviceId doc (Platform.new a.newId)
  rw [deviceAdd]
  generalize parsDeviceAdd doc (Platform.new a.newId) = r at hid ⊢
  obtain ⟨_, p⟩ := r
  dsimp only at hid ⊢
  split
  · exact .quiet (Quiet.refl s)
  · rcases s.mgr.connetEquipment p.credentials a.results a.login with ⟨_ | ret, mgr, results⟩
    · exact .quiet (quiet_of_sent rfl rfl)
    · have hquiet : ∀ (p : Platform) (k : String), ¬ Announces k (env.deviceAddStep1 p a.time) :=
        fun p k => not_announces_of_type (deviceAddStep1_heads _ _) (by decide) (by decide)
      dsimp only
      split
      · exact .quiet (quiet_of_send rfl rfl (hquiet _))
      · exact .add { p with loginResults := ret } _ ht hid rfl (hquiet _) rfl

lemma channelSync_effect : Effect env s doc a (channelSync env s doc a).1 := by
  refine .quiet (withLogin_quiet fun mgr results => ?_)
  rcases getCameraList env results a.cameras with e | ⟨ret, list, calls⟩
  · exact quiet_of_sent rfl rfl
  · exact quiet_of_send rfl rfl fun _ =>
      not_announces_of_type (channelSync_heads _ _ _) (by decide) (by decide)

lemma channelPtzControl_effect : Effect env s doc a (channelPtzControl env s doc a).1 := by
  refine .quiet (withParsed_quiet fun ptz => withLogin_quiet fun mgr results => ?_)
  exact quiet_of_send rfl rfl fun _ => not_announces_response _ _ _ _

lemma channelPtzPreset_effect : Effect env s doc a (channelPtzPreset env s doc a).1 := by
  refine .quiet (withParsed_quiet fun temp => withLogin_quiet fun mgr results => ?_)
  exact quiet_of_send rfl rfl fun _ =>
    not_announces_of_type (ptzPresetList_heads _ _ _ _) (by decide) (by decide)

lemma channelRecordInfo_effect : Effect env s doc a (channelRecordInfo env s doc a).1 := by
  refine .quiet (withParsed_quiet fun temp => withLogin_quiet fun mgr results => ?_)
  rcases queryRecordFile env results temp.channel temp.startTime temp.endTime a.locals a.recordMem
    a.records with ⟨val, list, calls⟩
  exact quiet_of_send rfl rfl fun _ => not_announces_responseRecordList _ _ _ _ _

lemma channelPlay_effect : Effect env s doc a (channelPlay s doc a).1 :=
  .quiet (withParsed_quiet fun _ => withLogin_quiet fun _ _ => quiet_of_sent rfl rfl)

lemma channelPlayback_effect : Effect env s doc a (channelPlayback s doc a).1 :=
  .quiet (withParsed_quiet fun _ => withLogin_quiet fun _ _ => quiet_of_sent rfl rfl)

lemma handle_effect (env : Env) (s : Server) (doc : Document) (a : TaskInput) :
    Effect env s doc a (handle env s doc a).1 := by
  rw [handle]
  cases ht : getMsgType doc with
  | none => exact .quiet (Quiet.refl s)
  | some t =>
    cases t with
    | deviceAdd => exact deviceAdd_effect ht
    | channelSync => exact channelSync_effect
    | deviceTotalSync => exact .totalSync _ rfl rfl
    | deviceDelete => exact acknowledge_effect _
    | deviceDeleteSoft => exact .del _ rfl (fun _ => not_announces_response _ _ _ _) rfl
    | deviceDeleteRecover => exact acknowledge_effect _
    | channelDeleteSoft => exact acknowledge_effect _
    | channelDeleteRecover => exact acknowledge_effect _
    | channelPtzControl => exact channelPtzControl_effect
    | channelPtzPreset => exact channelPtzPreset_effect
    | channelRecordInfo => exact channelRecordInfo_effect
    | channelPlay => exact channelPlay_effect
    | channelPlayback => exact channelPlayback_effect
    | channelStopPlay => exact .quiet (quiet_of_sent rfl rfl)
    | gatewaySignIn | channel3dOperation | deviceRecordPause | deviceRecordResume
    | deviceRecordSpeed => exact .quiet (Quiet.refl s)

/-! ### The upload loops -/

/-- The loop over part of the list: it writes the map, and signs in what is not deleted. -/
lemma foldl_uploadDevice (time : String) (ps : List Platform) (s : Server) :
    (ps.foldl (uploadDevice env time) s).registry = { s.registry with
      platformMap := (ps.filter fun p => !p.softDel).foldl Registry.setEntry
        s.registry.platformMap } ∧
    ∃ new, (ps.foldl (uploadDevice env time) s).sent = s.sent ++ new ∧
      ∀ m ∈ new, ∃ p ∈ ps, p.softDel = false ∧ ∃ n, m = (env.deviceAddStep2 p n time).1 := by
  induction ps generalizing s with
  | nil => exact ⟨rfl, [], by simp, by simp⟩
  | cons p ps ih =>
    obtain ⟨hreg, new, hsent, hnew⟩ := ih (uploadDevice env time s p)
    rw [List.foldl_cons, hreg, hsent]
    have hrest : ∀ m ∈ new, ∃ q ∈ p :: ps, q.softDel = false ∧
        ∃ n, m = (env.deviceAddStep2 q n time).1 := by
      intro m hm
      obtain ⟨q, hq, h⟩ := hnew m hm
      exact ⟨q, List.mem_cons_of_mem _ hq, h⟩
    cases hsoft : p.softDel with
    | true =>
      have hskip : uploadDevice env time s p = s := by
        rw [uploadDevice, hsoft]
        rfl
      refine ⟨by simp [hskip, hsoft], new, by rw [hskip], hrest⟩
    | false =>
      have hput : uploadDevice env time s p = { s.send (env.deviceAddStep2 p s.msgId time).1 with
          registry := { s.registry with
            platformMap := Registry.setEntry s.registry.platformMap p }
          msgId := s.msgId + 1 } := by
        rw [uploadDevice, hsoft]
        rfl
      refine ⟨by simp [hput, hsoft], (env.deviceAddStep2 p s.msgId time).1 :: new, ?_, ?_⟩
      · rw [hput, send_sent, List.append_assoc, List.singleton_append]
      · intro m hm
        rcases List.mem_cons.mp hm with rfl | hm
        · exact ⟨p, List.mem_cons_self, hsoft, s.msgId, rfl⟩
        · exact hrest m hm

lemma uploadDevices_registry (time : String) :
    (uploadDevices env s time).registry = s.registry.refresh :=
  (foldl_uploadDevice time _ s).1

/-! ### Runs -/

/-- What happens to the gateway: a task, the loop that ends the start or one round of the upload
loop, and a restart of the process. -/
inductive Event where
  | task (doc : Document) (a : TaskInput)
  | upload (time : String)
  | restart (tempPtzCmd : ℕ) (msgId : ℤ)

def step (env : Env) (s : Server) : Event → Option Server
  | .task doc a => some (handle env s doc a).1
  | .upload time => some (uploadDevices env s time)
  | .restart tempPtzCmd msgId => some (startServer env s.registry.file tempPtzCmd msgId s.sent)

/-- A recorder that is added gets an identifier of its own. -/
def Fresh (s : Server) : Event → Prop
  | .task doc a => getMsgType doc = some .deviceAdd → a.newId ∉ s.registry.ids
  | _ => True

/-- What a task writes to the file can be written. -/
def Event.Saves : Event → Prop
  | .task _ a => a.fileOpens = true
  | _ => True

/-- The map has the list's recorders after every event, whether the file opens or not. -/
lemma step_mirrored (hx : env.xpack.Lawful) {s s' : Server} {e : Event}
    (h : s.registry.Mirrored env.xpack) (hfresh : s.Fresh e) (hs : step env s e = some s') :
    s'.registry.Mirrored env.xpack := by
  cases e with
  | task doc a =>
    rw [← Option.some.inj hs]
    cases handle_effect env s doc a with
    | quiet hq => exact hq.registry ▸ h
    | totalSync _ hreg => exact hreg ▸ h
    | add p _ htype hid hreg =>
      rw [hreg]
      exact Registry.addPlatform_mirrored hx h _ (hid ▸ hfresh htype)
    | del _ hreg =>
      rw [hreg]
      exact Registry.delPlatform_mirrored hx h _ _
  | upload time =>
    rw [← Option.some.inj hs, uploadDevices_registry]
    exact Registry.refresh_mirrored h
  | restart tempPtzCmd msgId =>
    rw [← Option.some.inj hs]
    exact Registry.boot_mirrored (h.file.nodup h.nodup)

lemma step_agrees (hx : env.xpack.Lawful) {s s' : Server} {e : Event}
    (h : s.registry.Agrees env.xpack) (hfresh : s.Fresh e) (hsaves : e.Saves)
    (hs : step env s e = some s') : s'.registry.Agrees env.xpack := by
  cases e with
  | task doc a =>
    have hopens : a.fileOpens = true := hsaves
    rw [← Option.some.inj hs]
    cases handle_effect env s doc a with
    | quiet hq => exact hq.registry ▸ h
    | totalSync _ hreg => exact hreg ▸ h
    | add p _ htype hid hreg =>
      rw [hreg, hopens]
      exact Registry.addPlatform_agrees hx h (hid ▸ hfresh htype)
    | del _ hreg =>
      rw [hreg, hopens]
      exact Registry.delPlatform_agrees hx h _
  | upload time =>
    rw [← Option.some.inj hs, uploadDevices_registry]
    exact Registry.refresh_agrees h
  | restart tempPtzCmd msgId =>
    rw [← Option.some.inj hs]
    refine Registry.init_agrees ?_ (Or.inl rfl)
    -- the file is that of the process before
    rw [show (Registry.boot s.registry.file).file = s.registry.file from rfl, h.file]
    exact h.nodup

lemma step_deleted {s s' : Server} {e : Event} {k : String} (h : s.registry.Agrees env.xpack)
    (hk : s.registry.Deleted k) (hfresh : s.Fresh e) (hs : step env s e = some s') :
    s'.registry.Deleted k ∧ ∃ new, s'.sent = s.sent ++ new ∧ ∀ m ∈ new, ¬ Announces k m := by
  cases e with
  | task doc a =>
    rw [← Option.some.inj hs]
    cases handle_effect env s doc a with
    | quiet hq =>
      obtain ⟨new, hsent, hnew⟩ := hq.sent
      exact ⟨hq.registry ▸ hk, new, hsent, fun m hm => hnew m hm k⟩
    | totalSync msgId hreg hsent =>
      refine ⟨hreg ▸ hk, _, hsent, ?_⟩
      rintro m hm
      rw [List.mem_singleton.mp hm, announces_deviceTotalSync]
      rintro ⟨p, hp, hsoft, hid⟩
      exact hk.ne h hp hsoft hid
    | add p answer htype hid hreg hanswer hsent =>
      rw [List.append_assoc] at hsent
      refine ⟨hreg ▸ hk.addPlatform env.xpack _ p, _, hsent, fun m hm => ?_⟩
      rcases List.mem_pair.mp hm with rfl | rfl
      · exact hanswer k
      · rw [announces_deviceAddStep2, hid]
        rintro rfl
        exact hfresh htype hk.mem
    | del answer hreg hanswer hsent =>
      refine ⟨hreg ▸ hk.delPlatform h.mirrored _ _, _, hsent, ?_⟩
      rintro m hm
      rw [List.mem_singleton.mp hm]
      exact hanswer k
  | upload time =>
    rw [← Option.some.inj hs]
    obtain ⟨_, new, hsent, hnew⟩ := foldl_uploadDevice time s.registry.platformList.platforms s
    refine ⟨?_, new, hsent, fun m hm => ?_⟩
    · rw [uploadDevices_registry]
      exact hk
    · obtain ⟨p, hp, hsoft, n, rfl⟩ := hnew m hm
      rw [announces_deviceAddStep2]
      exact hk.ne h hp hsoft
  -- the mark is in the file
  | restart tempPtzCmd msgId =>
    rw [← Option.some.inj hs]
    obtain ⟨p, hp, hdel⟩ := hk
    refine ⟨⟨p, ?_, hdel⟩, [], (List.append_nil _).symm, by simp⟩
    rw [startServer, h.restart.1, hp]

/-- The recorder is marked as deleted, and nothing that was sent after `base` announces it. -/
structure Withdrawn (env : Env) (k : String) (base : List Json) (s : Server) : Prop where
  agrees : s.registry.Agrees env.xpack
  deleted : s.registry.Deleted k
  sent : ∃ new, s.sent = base ++ new ∧ ∀ m ∈ new, ¬ Announces k m

lemma Withdrawn.step (hx : env.xpack.Lawful) {k : String} {base : List Json} {s s' : Server}
    {e : Event} (h : Withdrawn env k base s) (hfresh : s.Fresh e) (hsaves : e.Saves)
    (hs : step env s e = some s') : Withdrawn env k base s' := by
  obtain ⟨new, hsent, hnew⟩ := h.sent
  obtain ⟨hdel, new', hsent', hnew'⟩ := step_deleted h.agrees h.deleted hfresh hs
  refine ⟨step_agrees hx h.agrees hfresh hsaves hs, hdel, new ++ new', ?_, fun m hm => ?_⟩
  · rw [hsent', hsent, List.append_assoc]
  · rcases List.mem_append.mp hm with hm | hm
    · exact hnew m hm
    · exact hnew' m hm

lemma deviceDeleteSoft_withdrawn (hx : env.xpack.Lawful) (h : s.registry.Agrees env.xpack)
    (hopens : a.fileOpens = true)
    (hk : (parsDeviceDeleteSoft doc (Platform.new a.newId)).2.deviceId ∈ s.registry.ids) :
    Withdrawn env (parsDeviceDeleteSoft doc (Platform.new a.newId)).2.deviceId
      (deviceDeleteSoft env s doc a).1.sent (deviceDeleteSoft env s doc a).1 where
  agrees := by
    rw [deviceDeleteSoft, hopens]
    exact Registry.delPlatform_agrees hx h _
  deleted := Registry.delPlatform_deleted h.mirrored _ hk
  sent := ⟨[], by simp, by simp⟩

/-- Once a request has deleted a recorder of the registry, no message that is sent later announces
it, whatever is handled and however often the process is restarted, as long as recorders get
identifiers of their own and what is saved can be written. -/
theorem deleted_not_announced {env : Env} (hx : env.xpack.Lawful) {file : Option String}
    (hfile : ((Registry.load env.xpack file).map Platform.deviceId).Nodup) {tempPtzCmd : ℕ}
    {msgId : ℤ} {before after : List Event} {doc : Document} {a : TaskInput} {s t : Server}
    (hbefore : Run.run (step env) (startServer env file tempPtzCmd msgId []) before = some s)
    (hfreshBefore : Run.Meets (step env) Fresh (startServer env file tempPtzCmd msgId []) before)
    (hdoc : getMsgType doc = some .deviceDeleteSoft)
    (hk : (parsDeviceDeleteSoft doc (Platform.new a.newId)).2.deviceId ∈ s.registry.ids)
    (hafter : Run.run (step env) (handle env s doc a).1 after = some t)
    (hfreshAfter : Run.Meets (step env) Fresh (handle env s doc a).1 after)
    (hsaves : ∀ e ∈ before ++ .task doc a :: after, e.Saves) :
    ∀ m ∈ t.sent.drop (handle env s doc a).1.sent.length,
      ¬ Announces (parsDeviceDeleteSoft doc (Platform.new a.newId)).2.deviceId m := by
  have hstart : (startServer env file tempPtzCmd msgId []).registry.Agrees env.xpack :=
    Registry.init_agrees hfile (Or.inl rfl)
  rw [List.forall_mem_append, List.forall_mem_cons] at hsaves
  obtain ⟨hsavesBefore, hopens, hsavesAfter⟩ := hsaves
  have hagrees : s.registry.Agrees env.xpack :=
    Run.run_invariant (fun _ _ _ h hc hs => step_agrees hx h hc.1 hc.2 hs) hstart
      (Run.meets_and_of_forall hfreshBefore hsavesBefore) hbefore
  have hrun : (handle env s doc a).1 = (deviceDeleteSoft env s doc a).1 := by
    rw [handle, hdoc]
    rfl
  rw [hrun] at hafter hfreshAfter ⊢
  -- from the deletion on each step keeps the mark and announces others only
  obtain ⟨new, hsent, hnew⟩ := (Run.run_invariant (fun _ _ _ h hc hs => h.step hx hc.1 hc.2 hs)
    (deviceDeleteSoft_withdrawn hx hagrees hopens hk)
    (Run.meets_and_of_forall hfreshAfter hsavesAfter) hafter).sent
  rw [hsent, List.drop_left]
  exact hnew

def addRecorder : Event :=
  .task (some (.obj [("msgId", .str "49537"), ("msgType", .str "DEVICE_ADD"),
    ("data", .obj [("dataMap", .obj [("ip", .str "172.20.0.245"), ("port", .str "37777"),
      ("username", .str "admin"), ("password", .str "rj123456")])])]))
    { TaskInput.silent with login := ⟨9001, 0, 8⟩ }

def deleteRecorder : Document :=
  some (.obj [("msgId", .str "49540"), ("msgType", .str "DEVICE_DELETE_SOFT"),
    ("data", .obj [("deviceId", .str "1700733608331580")])])

/-- A full synchronisation, a restart, and the loop at the end of the start. -/
def laterEvents : List Event :=
  [.task (some (.obj [("msgId", .str "49541"), ("msgType", .str "DEVICE_TOTAL_SYNC")])) .silent,
    .restart 0 3, .upload "2023-11-24T08:00:00"]

theorem deleted_not_announced_recorder :
    ∃ s t, Run.run (step Env.plain) fresh [addRecorder] = some s ∧
      s.registry.ids = ["1700733608331580"] ∧
      Run.run (step Env.plain) (handle Env.plain s deleteRecorder .silent).1 laterEvents = some t ∧
      ∀ m ∈ t.sent.drop (handle Env.plain s deleteRecorder .silent).1.sent.length,
        ¬ Announces "1700733608331580" m := by
  refine ⟨_, _, rfl, rfl, rfl, ?_⟩
  have hfile : ((Registry.load Env.plain.xpack none).map Platform.deviceId).Nodup := List.nodup_nil
  have hadd : Run.Meets (step Env.plain) Fresh fresh [addRecorder] :=
    ⟨fun _ => List.not_mem_nil, fun _ _ => trivial⟩
  have hlater : ∀ s, Run.Meets (step Env.plain) Fresh s laterEvents := fun _ =>
    ⟨fun h => absurd h (by decide), fun _ _ => ⟨trivial, fun _ _ => ⟨trivial, fun _ _ => trivial⟩⟩⟩
  have hsaves : ∀ e ∈ [addRecorder] ++ .task deleteRecorder .silent :: laterEvents, e.Saves := by
    simp [addRecorder, laterEvents, Event.Saves, TaskInput.silent]
  have hdoc : getMsgType deleteRecorder = some .deviceDeleteSoft := by decide
  have hk : (parsDeviceDeleteSoft deleteRecorder (Platform.new TaskInput.silent.newId)).2.deviceId ∈
      ["1700733608331580"] := by decide
  exact deleted_not_announced XPack.json_lawful hfile rfl hadd hdoc hk rfl (hlater _) hsaves

end Server

end DHGateway
