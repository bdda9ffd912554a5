import DHGateway.Server.Announce

/-!
# What the platform knows of the recorders

The platform that the gateway serves learns of the recorders from `DEVICE_SIGN_IN`, takes the list
of a `DEVICE_TOTAL_SYNC` for its own, and strikes a recorder off when its `DEVICE_DELETE_SOFT` is
answered with the code `0`. What it knows then is what the gateway has.
-/

namespace DHGateway

open Json Config

/-- The recorders that are not marked as deleted, in the order of their arrival. -/
def Registry.active (r : Registry) : List String :=
  (r.platformList.platforms.filter fun p => !p.softDel).map Platform.deviceId

/-! ### The platform's side -/

namespace Roster

/-- The recorder of a `DEVICE_SIGN_IN`. -/
def signedIn (m : Json) : Option String :=
  (m.objectMember "data").bind (stringMember "deviceId")

/-- The recorders of a `DEVICE_TOTAL_SYNC`. -/
def listed (m : Json) : Option (List String) :=
  (m.memberAs asArray "data").map fun l => l.filterMap (stringMember "deviceId")

def hear (roster : List String) (m : Json) : List String :=
  if m.stringMember "msgType" = some "DEVICE_SIGN_IN" then
    match signedIn m with
    | some k => if k ∈ roster then roster else roster ++ [k]
    | none => roster
  else if m.stringMember "msgType" = some "DEVICE_TOTAL_SYNC" then (listed m).getD roster
  else roster

def named (doc : Document) : Option String :=
  ((doc.getD .null).objectMember "data").bind (stringMember "deviceId")

def withdraw (roster : List String) (doc : Document) (answers : List Json) : List String :=
  if getMsgType doc = some .deviceDeleteSoft ∧
      ∃ m ∈ answers, m.stringMember "msgType" = some "DEVICE_DELETE_SOFT" ∧
        m.intMember "code" = some 0 then
    roster.filter fun k => some k ≠ named doc
  else roster

/-- What the platform knows after an event: the answers to its request, if there was one, and the
other messages. -/
def told (roster : List String) (messages : List Json) : Server.Event → List String
  | .task doc _ => messages.foldl hear (withdraw roster doc messages)
  | .upload _ | .restart _ _ => messages.foldl hear roster

def Unheard (m : Json) : Prop := ∀ roster, hear roster m = roster

lemma foldl_hear {messages : List Json} (h : ∀ m ∈ messages, Unheard m) (roster : List String) :
    messages.foldl hear roster = roster := by
  induction messages generalizing roster with
  | nil => rfl
  | cons m messages ih =>
    rw [List.foldl_cons, h m List.mem_cons_self]
    exact ih (fun m' hm => h m' (List.mem_cons_of_mem m hm)) roster

variable {c : Config}

lemma unheard_of_type {m : Json} {msgId msgType : String} (h : Heads m msgId msgType)
    (hsign : msgType ≠ "DEVICE_SIGN_IN") (hsync : msgType ≠ "DEVICE_TOTAL_SYNC") : Unheard m := by
  intro roster
  rw [hear, h.msgType, if_neg (by simpa using hsign), if_neg (by simpa using hsync)]

lemma unheard_response (msgId : String) (code : ℤ) (msgType time : String) :
    Unheard (c.response msgId code msgType time) := by
  intro roster
  rw [hear]
  split_ifs <;> rfl

lemma unheard_responseRecordList (msgId : String) (code : ℤ) (msgType : String)
    (list : List Record) (time : String) :
    Unheard (c.responseRecordList msgId code msgType list time) := by
  intro roster
  rw [hear]
  split_ifs <;> rfl

lemma hear_deviceAddStep2 (roster : List String) (platform : Platform) (msgId : ℤ)
    (time : String) : hear roster (c.deviceAddStep2 platform msgId time).1 =
      if platform.deviceId ∈ roster then roster else roster ++ [platform.deviceId] := rfl

lemma unheard_deviceAddStep2 {roster : List String} {platform : Platform} {msgId : ℤ}
    {time : String} (h : platform.deviceId ∈ roster) :
    hear roster (c.deviceAddStep2 platform msgId time).1 = roster :=
  (hear_deviceAddStep2 ..).trans (if_pos h)

lemma hear_deviceTotalSync (roster : List String) (platformList : List Platform) (msgId : String)
    (times : Platform → String) : hear roster (c.deviceTotalSync platformList msgId times) =
      (platformList.filter fun p => !p.softDel).map Platform.deviceId := by
  show List.filterMap _ (List.map _ _) = _
  rw [List.filterMap_map]
  exact congrFun List.filterMap_eq_map' _

end Roster

/-! ### The gateway's side -/

namespace Registry

variable {x : XPack} {r : Registry}

lemma active_sublist (r : Registry) : r.active.Sublist r.ids :=
  List.filter_sublist.map Platform.deviceId

lemma active_addPlatform (r : Registry) (opens : Bool) {p : Platform} (hp : p.softDel = false) :
    (r.addPlatform x opens p).active = r.active ++ [p.deviceId] := by
  rw [active, addPlatform_list]
  simp [hp, active]

lemma active_updateFirst {update : Platform} (hdel : update.softDel = true)
    {ps ps' : List Platform} (hn : (ps.map Platform.deviceId).Nodup)
    (h : updateFirst update ps = some ps') :
    (ps'.filter fun p => !p.softDel).map Platform.deviceId =
      ((ps.filter fun p => !p.softDel).map Platform.deviceId).filter
        fun k => k ≠ update.deviceId := by
  induction ps generalizing ps' with
  | nil => exact nomatch h
  | cons p ps ih =>
    rw [List.map_cons, List.nodup_cons] at hn
    rw [updateFirst] at h
    split_ifs at h with hid
    · -- the identifier stands once, so none of the later recorders has it
      have hrest : ((ps.filter fun p => !p.softDel).map Platform.deviceId).filter
          (fun k => k ≠ update.deviceId) =
            (ps.filter fun p => !p.softDel).map Platform.deviceId := by
        apply List.filter_eq_self.mpr
        intro k hk
        have hmem := (List.filter_sublist.map Platform.deviceId).subset hk
        have hne : k ≠ update.deviceId := by
          rintro rfl
          exact hn.1 (hid ▸ hmem)
        simpa using hne
      rw [← Option.some.inj h, List.filter_cons_of_neg (by simp [hdel])]
      cases hsoft : p.softDel with
      | true => rw [List.filter_cons_of_neg (by simp [hsoft]), hrest]
      | false =>
        rw [List.filter_cons_of_pos (by simp [hsoft]), List.map_cons,
          List.filter_cons_of_neg (by simp [hid]), hrest]
    · obtain ⟨ps₁, hps, rfl⟩ := Option.map_eq_some_iff.mp h
      have ih := ih hn.2 hps
      cases hsoft : p.softDel <;> simp_all

lemma active_delPlatform (h : r.Mirrored x) (opens : Bool) (k : String) :
    (r.delPlatform x opens k).2.active = r.active.filter fun k' => k' ≠ k := by
  cases hk : r.platformMap.lookup k with
  | none =>
    rw [delPlatform_of_none hk, eq_comm, List.filter_eq_self]
    intro k' hk'
    -- a recorder that the map does not have is not in the list either
    have hne : k' ≠ k := by
      rintro rfl
      rw [h.map, find_eq_none] at hk
      exact hk (r.active_sublist.subset hk')
    simpa using hne
  | some q =>
    obtain ⟨hmem, hid⟩ := find_eq_some ((h.map k).symm.trans hk)
    obtain ⟨ps', hps', _⟩ := updateFirst_eq hmem h.nodup
    have hactive := active_updateFirst rfl h.nodup hps'
    rw [delPlatform, hk]
    simp only [updatePlatformForLocalFile, hps', writeJsonFile_eq]
    rw [← hid]
    exact hactive

end Registry

namespace Server

open Roster

variable {env : Env} {s s' : Server} {doc : Document} {a : TaskInput}

/-- The registry is as it was, and what was sent changes nothing for the platform. -/
structure Mute (s s' : Server) : Prop where
  registry : s'.registry = s.registry
  sent : ∃ new, s'.sent = s.sent ++ new ∧ ∀ m ∈ new, Unheard m

lemma Mute.refl (s : Server) : s.Mute s :=
  ⟨rfl, [], by simp, by simp⟩

lemma mute_of_send {m : Json} (hreg : s'.registry = s.registry) (hsent : s'.sent = s.sent ++ [m])
    (hm : Unheard m) : s.Mute s' :=
  ⟨hreg, [m], hsent, by simpa using hm⟩

lemma mute_of_sent (hreg : s'.registry = s.registry) (hsent : s'.sent = s.sent) : s.Mute s' :=
  ⟨hreg, [], by simpa using hsent, by simp⟩

lemma withLogin_mute {deviceId : String} {body : Server → LoginResults → Server × TaskEnd}
    (h : ∀ mgr results, s.Mute (body { s with mgr := mgr } results).1) :
    s.Mute (s.withLogin deviceId a body).1 := by
  rw [withLogin, lookupLogin]
  cases s.registry.getPlatform deviceId with
  | none => exact h s.mgr a.results
  | some p =>
    dsimp only
    rcases s.mgr.connetEquipment p.credentials a.results a.login with ⟨_ | ret, mgr, results⟩
    · exact mute_of_sent rfl rfl
    · exact h mgr results

lemma withParsed_mute {α : Type} {parsed : Except Fault (Bool × α)}
    {body : α → Server × TaskEnd} (h : ∀ v, s.Mute (body v).1) :
    s.Mute (s.withParsed parsed body).1 := by
  rcases parsed with f | ⟨_, v⟩
  · exact Mute.refl s
  · exact h v

lemma acknowledge_mute (msgType : String) : s.Mute (acknowledge env s doc a msgType).1 :=
  mute_of_send rfl rfl (unheard_response _ _ _ _)

lemma channelSync_mute : s.Mute (channelSync env s doc a).1 := by
  refine withLogin_mute fun mgr results => ?_
  rcases getCameraList env results a.cameras with e | ⟨ret, list, calls⟩
  · exact mute_of_sent rfl rfl
  · exact mute_of_send rfl rfl
      (unheard_of_type (channelSync_heads _ _ _) (by decide) (by decide))

lemma channelPtzControl_mute : s.Mute (channelPtzControl env s doc a).1 :=
  withParsed_mute fun _ => withLogin_mute fun _ _ =>
    mute_of_send rfl rfl (unheard_response _ _ _ _)

lemma channelPtzPreset_mute : s.Mute (channelPtzPreset env s doc a).1 :=
  withParsed_mute fun _ => withLogin_mute fun _ _ => mute_of_send rfl rfl
    (unheard_of_type (ptzPresetList_heads _ _ _ _) (by decide) (by decide))

lemma channelRecordInfo_mute : s.Mute (channelRecordInfo env s doc a).1 := by
  refine withParsed_mute fun temp => withLogin_mute fun mgr results => ?_
  rcases queryRecordFile env results temp.channel temp.startTime temp.endTime a.locals a.recordMem
    a.records with ⟨val, list, calls⟩
  exact mute_of_send rfl rfl (unheard_responseRecordList _ _ _ _ _)

/-- After the event the platform knows what the gateway has, if it did before. -/
def Informs (s : Server) (e : Event) (s' : Server) : Prop :=
  ∃ new, s'.sent = s.sent ++ new ∧ told s.registry.active new e = s'.registry.active

lemma withdraw_of_ne {roster : List String} {answers : List Json}
    (h : getMsgType doc ≠ some .deviceDeleteSoft) : withdraw roster doc answers = roster :=
  if_neg fun hand => h hand.1

lemma Mute.informs (h : s.Mute s') (hdoc : getMsgType doc ≠ some .deviceDeleteSoft) :
    s.Informs (.task doc a) s' := by
  obtain ⟨new, hsent, hnew⟩ := h.sent
  refine ⟨new, hsent, ?_⟩
  rw [told, withdraw_of_ne hdoc, foldl_hear hnew, h.registry]

/-- The identifier that the gateway deletes is the one that the request names, or the one that the
constructor has made. -/
lemma parsDeviceDeleteSoft_deviceId (doc : Document) (p : Platform) :
    (parsDeviceDeleteSoft doc p).2.deviceId = (named doc).getD p.deviceId := by
  rw [parsDeviceDeleteSoft, parsDeviceSync, named]
  cases ((doc.getD .null).objectMember "data").bind (stringMember "deviceId") <;> rfl

lemma deviceDeleteSoft_informs (h : s.registry.Agrees env.xpack) (hnew : a.newId ∉ s.registry.ids)
    (hdoc : getMsgType doc = some .deviceDeleteSoft) :
    s.Informs (.task doc a) (deviceDeleteSoft env s doc a).1 := by
  have hid : (parsDeviceDeleteSoft doc (Platform.new a.newId)).2.deviceId =
      (named doc).getD a.newId := parsDeviceDeleteSoft_deviceId doc (Platform.new a.newId)
  refine ⟨[env.response (parsDeviceDeleteSoft doc (Platform.new a.newId)).2.msgId 0
    "DEVICE_DELETE_SOFT" a.time], rfl, ?_⟩
  have hactive : (deviceDeleteSoft env s doc a).1.registry.active =
      s.registry.active.filter fun k => k ≠ (named doc).getD a.newId := by
    rw [← hid]
    exact Registry.active_delPlatform h.mirrored _ _
  rw [hactive, told, foldl_hear (by simpa using unheard_response _ _ _ _), withdraw,
    if_pos ⟨hdoc, _, List.mem_singleton_self _, rfl, rfl⟩]
  apply List.filter_congr
  intro k hk
  cases named doc with
  | some k' => simp
  | none =>
    -- without a name the handler looks for the fresh identifier, which no recorder has
    have hne : k ≠ a.newId := by
      rintro rfl
      exact hnew (s.registry.active_sublist.subset hk)
    simpa using hne

lemma parsDeviceAdd_softDel (doc : Document) (p : Platform) :
    (parsDeviceAdd doc p).2.softDel = p.softDel := by
  rw [parsDeviceAdd]
  split <;> rfl

lemma deviceAdd_informs (hnew : a.newId ∉ s.registry.ids)
    (hdoc : getMsgType doc = some .deviceAdd) :
    s.Informs (.task doc a) (deviceAdd env s doc a).1 := by
  have hne : getMsgType doc ≠ some .deviceDeleteSoft := by simp [hdoc]
  have hid := parsDeviceAdd_deviceId doc (Platform.new a.newId)
  have hsoft := parsDeviceAdd_softDel doc (Platform.new a.newId)
  rw [deviceAdd]
  generalize parsDeviceAdd doc (Platform.new a.newId) = r at hid hsoft ⊢
  obtain ⟨_, p⟩ := r
  dsimp only at hid hsoft ⊢
  split
  · exact (Mute.refl s).informs hne
  · rcases s.mgr.connetEquipment p.credentials a.results a.login with ⟨_ | ret, mgr, results⟩
    · exact Mute.informs (mute_of_sent rfl rfl) hne
    · have hstep1 : ∀ p : Platform, Unheard (env.deviceAddStep1 p a.time) :=
        fun p => unheard_of_type (deviceAddStep1_heads _ _) (by decide) (by decide)
      dsimp only
      split
      · have hmute : s.Mute (({ s with mgr := mgr }).send
            (env.deviceAddStep1 { p with loginResults := ret, loginErrMsg := "login fail" }
              a.time)) :=
          mute_of_send rfl rfl (hstep1 _)
        exact hmute.informs hne
      · have hfresh : p.deviceId ∉ s.registry.active := fun hmem =>
          hnew ((show p.deviceId = a.newId from hid) ▸ s.registry.active_sublist.subset hmem)
        refine ⟨[env.deviceAddStep1 { p with loginResults := ret } a.time,
          (env.deviceAddStep2 { p with loginResults := ret } s.msgId a.signInTime).1],
          List.append_assoc .., ?_⟩
        rw [told, withdraw_of_ne hne, List.foldl_cons, hstep1, List.foldl_cons, List.foldl_nil,
          hear_deviceAddStep2, if_neg hfresh]
        exact (s.registry.active_addPlatform a.fileOpens (p := { p with loginResults := ret })
          hsoft).symm

lemma uploadDevices_informs (time : String) :
    s.Informs (.upload time) (uploadDevices env s time) := by
  obtain ⟨hreg, new, hsent, hnew⟩ := foldl_uploadDevice time s.registry.platformList.platforms s
  refine ⟨new, hsent, ?_⟩
  have hactive : (uploadDevices env s time).registry.active = s.registry.active := by
    rw [uploadDevices_registry]
    rfl
  rw [hactive, told]
  -- each recorder that is signed in is known
  clear hsent hreg hactive
  induction new with
  | nil => rfl
  | cons m new ih =>
    obtain ⟨p, hp, hsoft, n, rfl⟩ := hnew _ List.mem_cons_self
    have hmem : p.deviceId ∈ s.registry.active :=
      List.mem_map_of_mem (List.mem_filter.mpr ⟨hp, by simp [hsoft]⟩)
    rw [List.foldl_cons, unheard_deviceAddStep2 hmem]
    exact ih fun m' hm => hnew m' (List.mem_cons_of_mem _ hm)

lemma handle_informs (h : s.registry.Agrees env.xpack) (hnew : a.newId ∉ s.registry.ids) :
    s.Informs (.task doc a) (handle env s doc a).1 := by
  rw [handle]
  cases ht : getMsgType doc with
  | none => exact (Mute.refl s).informs (by simp [ht])
  | some t =>
    have hmute : ∀ {s'}, t ≠ .deviceDeleteSoft → s.Mute s' → s.Informs (.task doc a) s' :=
      fun hne hs => hs.informs (by simpa [ht] using hne)
    cases t with
    | deviceAdd => exact deviceAdd_informs hnew ht
    | channelSync => exact hmute (by simp) channelSync_mute
    | deviceTotalSync =>
      refine ⟨_, rfl, ?_⟩
      rw [told, withdraw_of_ne (by simp [ht])]
      exact hear_deviceTotalSync (c := env.toConfig) s.registry.active
        s.registry.platformList.platforms (parsDeviceTotalSync doc "").2 a.times
    | deviceDelete => exact hmute (by simp) (acknowledge_mute _)
    | deviceDeleteSoft => exact deviceDeleteSoft_informs h hnew ht
    | deviceDeleteRecover => exact hmute (by simp) (acknowledge_mute _)
    | channelDeleteSoft => exact hmute (by simp) (acknowledge_mute _)
    | channelDeleteRecover => exact hmute (by simp) (acknowledge_mute _)
    | channelPtzControl => exact hmute (by simp) channelPtzControl_mute
    | channelPtzPreset => exact hmute (by simp) channelPtzPreset_mute
    | channelRecordInfo => exact hmute (by simp) channelRecordInfo_mute
    | channelPlay =>
      exact hmute (by simp)
        (withParsed_mute fun _ => withLogin_mute fun _ _ => mute_of_sent rfl rfl)
    | channelPlayback =>
      exact hmute (by simp)
        (withParsed_mute fun _ => withLogin_mute fun _ _ => mute_of_sent rfl rfl)
    | channelStopPlay => exact hmute (by simp) (mute_of_sent rfl rfl)
    | gatewaySignIn | channel3dOperation | deviceRecordPause | deviceRecordResume
    | deviceRecordSpeed => exact hmute (by simp) (Mute.refl s)

lemma restart_informs (h : s.registry.Agrees env.xpack) (tempPtzCmd : ℕ) (msgId : ℤ) :
    s.Informs (.restart tempPtzCmd msgId)
      (startServer env s.registry.file tempPtzCmd msgId s.sent) := by
  refine ⟨[], (List.append_nil _).symm, ?_⟩
  show s.registry.active = Registry.active _
  rw [Registry.active, Registry.active, startServer, h.restart.1]

end Server

/-! ### Both sides -/

structure Served where
  server : Server
  roster : List String

namespace Served

open Server

def start (env : Env) (tempPtzCmd : ℕ) (msgId : ℤ) : Served :=
  ⟨startServer env none tempPtzCmd msgId [], []⟩

/-- An event at the gateway, and the platform takes in what was sent. -/
def step (env : Env) (s : Served) (e : Event) : Option Served :=
  (Server.step env s.server e).map fun server =>
    ⟨server, Roster.told s.roster (server.sent.drop s.server.sent.length) e⟩

/-- The identifier that the constructor of a task's recorder has made is in use nowhere. -/
def Fresh (s : Served) : Event → Prop
  | .task _ a => a.newId ∉ s.server.registry.ids
  | .upload _ | .restart _ _ => True

/-- The copies of the registry agree, and the platform knows the recorders. -/
structure Inv (env : Env) (s : Served) : Prop where
  agrees : s.server.registry.Agrees env.xpack
  roster : s.roster = s.server.registry.active

lemma Inv.step {env : Env} (hx : env.xpack.Lawful) {s s' : Served} {e : Event} (h : s.Inv env)
    (hfresh : s.Fresh e) (hsaves : e.Saves) (hs : s.step env e = some s') : s'.Inv env := by
  obtain ⟨server, hserver, rfl⟩ := Option.map_eq_some_iff.mp hs
  have hagrees : server.registry.Agrees env.xpack := by
    refine step_agrees hx h.agrees ?_ hsaves hserver
    cases e with
    | task => exact fun _ => hfresh
    | _ => trivial
  -- what the event sends is what it does to the registry
  have hinforms : s.server.Informs e server := by
    cases e with
    | task doc a => exact Option.some.inj hserver ▸ handle_informs h.agrees hfresh
    | upload time => exact Option.some.inj hserver ▸ uploadDevices_informs time
    | restart tempPtzCmd msgId =>
      exact Option.some.inj hserver ▸ restart_informs h.agrees tempPtzCmd msgId
  obtain ⟨new, hsent, htold⟩ := hinforms
  refine ⟨hagrees, ?_⟩
  rw [hsent, List.drop_left, h.roster]
  exact htold

/-- From the first start on, over requests, uploads and restarts that come one after the other: what
the platform knows from the messages is at any time the list of the recorders that are not deleted,
which a `DEVICE_TOTAL_SYNC` would tell it, without duplicates. It is so as long as the constructors
of the recorders make identifiers that are not in use and what is saved can be written; the pool's
threads could handle requests at once, and then a recorder that is just added can be missing. -/
theorem roster_eq_active {env : Env} (hx : env.xpack.Lawful) {tempPtzCmd : ℕ} {msgId : ℤ}
    {as : List Event} {s : Served}
    (hrun : Run.run (step env) (start env tempPtzCmd msgId) as = some s)
    (hfresh : Run.Meets (step env) Fresh (start env tempPtzCmd msgId) as)
    (hsaves : ∀ e ∈ as, e.Saves) :
    s.roster = s.server.registry.active ∧ s.roster.Nodup := by
  have hstart : (start env tempPtzCmd msgId).Inv env :=
    ⟨Registry.init_agrees List.nodup_nil (Or.inl rfl), rfl⟩
  have h : s.Inv env := Run.run_invariant (fun _ _ _ h hc hs => h.step hx hc.1 hc.2 hs) hstart
    (Run.meets_and_of_forall hfresh hsaves) hrun
  refine ⟨h.roster, ?_⟩
  rw [h.roster]
  exact s.server.registry.active_sublist.nodup h.agrees.nodup

/-- A recorder is added, signed in once more, and deleted. -/
def addAndDelete : List Event :=
  [addRecorder, .upload "2023-11-24T08:00:00",
    .task deleteRecorder { TaskInput.silent with newId := "1700733608331581" }]

theorem roster_eq_active_recorder :
    ∃ s, Run.run (step Env.plain) (start Env.plain 0 3) addAndDelete = some s ∧
      s.server.registry.ids = ["1700733608331580"] ∧ s.server.registry.active = [] ∧
      s.roster = s.server.registry.active ∧ s.roster.Nodup := by
  refine ⟨_, rfl, rfl, rfl, ?_⟩
  have hfresh : Run.Meets (step Env.plain) Fresh (start Env.plain 0 3) addAndDelete := by
    refine ⟨List.not_mem_nil, fun s hs => ?_⟩
    obtain rfl := Option.some.inj hs
    refine ⟨trivial, fun s hs => ?_⟩
    have hids : s.server.registry.ids = ["1700733608331580"] := by
      rw [← Option.some.inj hs]
      rfl
    refine ⟨?_, fun _ _ => trivial⟩
    show _ ∉ s.server.registry.ids
    rw [hids]
    simp
  have hsaves : ∀ e ∈ addAndDelete, e.Saves := by
    simp [addAndDelete, addRecorder, Event.Saves, TaskInput.silent]
  exact roster_eq_active XPack.json_lawful rfl hfresh hsaves

end Served

end DHGateway
