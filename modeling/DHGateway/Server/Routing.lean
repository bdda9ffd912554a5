import DHGateway.Server.Announce
import DHGateway.Server.ChannelId
import DHGateway.Server.RequestData
import DHGateway.Server.SdkErrors

/-!
# Where a request ends up

A `CHANNEL_SYNC` lists the channels of a recorder, and the platform asks for them with the
identifiers of the list, at any time later. `Equipment_map` keeps a login as long as the process
lives, and the registry what it logs in with, so that these requests go to the device that has
listed the channel.
-/

namespace DHGateway

open Json

/-! ### Logins and entries that stay -/

namespace EquipmentMgr

/-- Every login of the one is a login of the other. -/
def Keeps (m m' : EquipmentMgr) : Prop :=
  ∀ key it, m.equipmentMap.lookup key = some it → m'.equipmentMap.lookup key = some it

lemma Keeps.refl (m : EquipmentMgr) : m.Keeps m :=
  fun _ _ h => h

lemma keeps_login (m : EquipmentMgr) (c : Credentials) (handle : LoginResults) (a : LoginAnswer) :
    m.Keeps (m.login c handle a).mgr := by
  intro key it h
  by_cases hmem : c.key ∈ m.equipmentMap
  · obtain ⟨it', hit'⟩ := mem_equipmentMap.mp hmem
    rw [login_cached hit']
    exact h
  · by_cases ha : a.handle = 0
    · rw [login_refused hmem ha]
      exact h
    · -- a login adds under a key that the map did not have
      have hne : key ≠ c.key := by
        rintro rfl
        exact hmem (mem_equipmentMap.mpr ⟨it, h⟩)
      rw [login_accepted hmem ha]
      exact (AList.lookup_insert_ne hne).trans h

lemma keeps_connetEquipment (m : EquipmentMgr) (c : Credentials) (handle : LoginResults)
    (a : LoginAnswer) : m.Keeps (m.connetEquipment c handle a).2.1 :=
  m.keeps_login c handle a

lemma lookup_of_connetEquipment {m mgr : EquipmentMgr} {c : Credentials}
    {handle results : LoginResults} {a : LoginAnswer}
    (h : m.connetEquipment c handle a = (.ok 0, mgr, results)) :
    mgr.equipmentMap.lookup c.key = some results := by
  by_cases hmem : c.key ∈ m.equipmentMap
  · obtain ⟨it, hit⟩ := mem_equipmentMap.mp hmem
    rw [connetEquipment, login_cached hit] at h
    cases h
    exact hit
  · by_cases ha : a.handle = 0
    · -- a refused login returns 1, or throws when its error has no text
      rw [connetEquipment, login_refused hmem ha] at h
      cases herr : loginErrMsg.lookup a.nError <;> simp [herr, Except.map] at h
    · rw [connetEquipment, login_accepted hmem ha] at h
      cases h
      exact AList.lookup_insert _

end EquipmentMgr

namespace Registry

variable {x : XPack} {r : Registry} {k : String} {p : Platform}

lemma getPlatform_addPlatform (h : r.getPlatform k = some p) (opens : Bool) (q : Platform) :
    (r.addPlatform x opens q).getPlatform k = some p := by
  rw [Registry.getPlatform, addPlatform_map]
  split_ifs with hmem
  · exact h
  · have hne : k ≠ q.deviceId := by
      rintro rfl
      exact hmem (AList.lookup_isSome.mp (Option.isSome_iff_exists.mpr ⟨p, h⟩))
    rw [setEntry, AList.lookup_insert_ne hne]
    exact h

/-- A deletion leaves what a recorder is logged in with. -/
lemma getPlatform_delPlatform (hr : r.Mirrored x) (h : r.getPlatform k = some p) (opens : Bool)
    (k' : String) : ∃ p', (r.delPlatform x opens k').2.getPlatform k = some p' ∧
      p'.credentials = p.credentials := by
  cases hl : r.platformMap.lookup k' with
  | none =>
    rw [delPlatform_of_none hl]
    exact ⟨p, h, rfl⟩
  | some q =>
    obtain ⟨_, ps', hdel, _⟩ := delPlatform_spec hr opens hl
    rw [hdel]
    -- the mark is all that changes of the recorder
    by_cases hk : k = k'
    · subst hk
      have hq : p = q := Option.some.inj (h.symm.trans hl)
      exact ⟨{ q with softDel := true }, AList.lookup_insert _, hq ▸ rfl⟩
    · exact ⟨p, (AList.lookup_insert_ne hk).trans h, rfl⟩

end Registry

namespace Server

variable {env : Env} {s s' : Server} {doc : Document} {a : TaskInput} {k : String}
  {login : LoginResults}

lemma withLogin_keeps {body : Server → LoginResults → Server × TaskEnd}
    (h : ∀ mgr results, (body { s with mgr := mgr } results).1.mgr = mgr) :
    s.mgr.Keeps (s.withLogin k a body).1.mgr := by
  rw [withLogin, lookupLogin]
  cases s.registry.getPlatform k with
  | none =>
    dsimp only
    rw [h s.mgr a.results]
    exact .refl _
  | some p =>
    have hkeeps := s.mgr.keeps_connetEquipment p.credentials a.results a.login
    dsimp only
    generalize s.mgr.connetEquipment p.credentials a.results a.login = r at hkeeps ⊢
    rcases r with ⟨_ | ret, mgr, results⟩
    · exact hkeeps
    · dsimp only [Except.map]
      rw [h mgr results]
      exact hkeeps

lemma withParsed_keeps {α : Type} {parsed : Except Fault (Bool × α)}
    {body : α → Server × TaskEnd} (h : ∀ v, s.mgr.Keeps (body v).1.mgr) :
    s.mgr.Keeps (s.withParsed parsed body).1.mgr := by
  rcases parsed with f | ⟨_, v⟩
  · exact .refl _
  · exact h v

lemma deviceAdd_keeps : s.mgr.Keeps (deviceAdd env s doc a).1.mgr := by
  rw [deviceAdd]
  generalize parsDeviceAdd doc (Platform.new a.newId) = r
  obtain ⟨_, p⟩ := r
  dsimp only
  have hkeeps := s.mgr.keeps_connetEquipment p.credentials a.results a.login
  split
  · exact .refl _
  · generalize s.mgr.connetEquipment p.credentials a.results a.login = r at hkeeps ⊢
    rcases r with ⟨_ | ret, mgr, results⟩
    · exact hkeeps
    · dsimp only
      split <;> exact hkeeps

lemma handle_keeps (env : Env) (s : Server) (doc : Document) (a : TaskInput) :
    s.mgr.Keeps (handle env s doc a).1.mgr := by
  rw [handle]
  cases getMsgType doc with
  | none => exact .refl _
  | some t =>
    cases t with
    | deviceAdd => exact deviceAdd_keeps
    | channelSync =>
      refine withLogin_keeps fun mgr results => ?_
      rcases getCameraList env results a.cameras with e | ⟨ret, list, calls⟩ <;> rfl
    | channelPtzControl => exact withParsed_keeps fun _ => withLogin_keeps fun _ _ => rfl
    | channelPtzPreset => exact withParsed_keeps fun _ => withLogin_keeps fun _ _ => rfl
    | channelRecordInfo => exact withParsed_keeps fun _ => withLogin_keeps fun _ _ => rfl
    | channelPlay => exact withParsed_keeps fun _ => withLogin_keeps fun _ _ => rfl
    | channelPlayback => exact withParsed_keeps fun _ => withLogin_keeps fun _ _ => rfl
    | _ => exact .refl _

lemma uploadDevices_mgr (env : Env) (s : Server) (time : String) :
    (uploadDevices env s time).mgr = s.mgr := by
  rw [uploadDevices]
  generalize s.registry.platformList.platforms = ps
  induction ps generalizing s with
  | nil => rfl
  | cons p ps ih =>
    rw [List.foldl_cons, ih, uploadDevice]
    split <;> rfl

/-! ### A recorder that is logged in -/

/-- The recorder is registered, and `Equipment_map` has its login. -/
def KeepsLogin (s : Server) (k : String) (login : LoginResults) : Prop :=
  ∃ p, s.registry.getPlatform k = some p ∧
    s.mgr.equipmentMap.lookup p.credentials.key = some login

lemma KeepsLogin.withLogin (h : s.KeepsLogin k login) (a : TaskInput)
    (body : Server → LoginResults → Server × TaskEnd) :
    s.withLogin k a body = body s login := by
  obtain ⟨p, hp, hit⟩ := h
  rw [Server.withLogin, lookupLogin, hp]
  dsimp only
  rw [EquipmentMgr.connetEquipment, EquipmentMgr.login_cached hit]
  rfl

/-- After a login that succeeds, the rest of a handler begins with the recorder logged in. -/
lemma LoggedIn.run (h : s.LoggedIn k a login) :
    ∃ mgr, ({ s with mgr := mgr } : Server).KeepsLogin k login ∧
      ∀ body, s.withLogin k a body = body { s with mgr := mgr } login := by
  obtain ⟨p, mgr, hp, hconnet⟩ := h
  refine ⟨mgr, ⟨p, hp, EquipmentMgr.lookup_of_connetEquipment hconnet⟩, fun body => ?_⟩
  rw [Server.withLogin, lookupLogin, hp]
  dsimp only
  rw [hconnet]
  rfl

/-- The process is not restarted, and recorders get identifiers of their own. -/
def Lives (s : Server) : Event → Prop
  | .restart _ _ => False
  | e => s.Fresh e

lemma Lives.fresh {e : Event} (h : s.Lives e) : s.Fresh e := by
  cases e with
  | restart => exact h.elim
  | task => exact h
  | upload => trivial

lemma KeepsLogin.step {e : Event} (hr : s.registry.Mirrored env.xpack) (h : s.KeepsLogin k login)
    (hlives : s.Lives e) (hs : step env s e = some s') : s'.KeepsLogin k login := by
  cases e with
  | restart => exact hlives.elim
  | upload time =>
    obtain ⟨p, hp, hit⟩ := h
    rw [← Option.some.inj hs]
    refine ⟨p, ?_, ?_⟩
    · rw [uploadDevices_registry]
      exact (Registry.refresh_lookup hr k).trans hp
    · rw [uploadDevices_mgr]
      exact hit
  | task doc a =>
    rw [← Option.some.inj hs]
    obtain ⟨p, hp, hit⟩ := h
    have hit' := handle_keeps env s doc a _ _ hit
    cases handle_effect env s doc a with
    | quiet hq => exact ⟨p, hq.registry ▸ hp, hit'⟩
    | totalSync _ hreg => exact ⟨p, hreg ▸ hp, hit'⟩
    | add q _ _ _ hreg => exact ⟨p, hreg ▸ Registry.getPlatform_addPlatform hp _ q, hit'⟩
    | del _ hreg =>
      -- the credentials outlive the mark, and with them the key of the login
      obtain ⟨p', hp', hc⟩ := Registry.getPlatform_delPlatform hr hp a.fileOpens
        (parsDeviceDeleteSoft doc (Platform.new a.newId)).2.deviceId
      exact ⟨p', hreg ▸ hp', hc ▸ hit'⟩

/-- The map has the list's recorders, and the recorder is logged in. -/
structure Stays (env : Env) (k : String) (login : LoginResults) (s : Server) : Prop where
  mirrored : s.registry.Mirrored env.xpack
  login : s.KeepsLogin k login

lemma Stays.step (hx : env.xpack.Lawful) {e : Event} (h : s.Stays env k login)
    (hlives : s.Lives e) (hs : Server.step env s e = some s') : s'.Stays env k login where
  mirrored := step_mirrored hx h.mirrored hlives.fresh hs
  login := h.login.step h.mirrored hlives hs

end Server

/-! ### Calls for a channel -/

namespace DeviceCall

def login : DeviceCall → LLONG
  | getDevConfig login _ | matrixGetCameras login _ | queryDevInfo login _
  | queryRemotDevState login _ | queryDevState login | ptzControlEx2 login _ _ _ _
  | queryPtzPreset login _ | makeKeyFrame login _ | realPlayByDataType login _
  | setDeviceMode login | playBackByDataType login _ _ | queryRecordFile login _ _ => login

def channel : DeviceCall → Option ℤ
  | getDevConfig _ _ | matrixGetCameras _ _ | queryDevInfo _ _ | queryDevState _
  | setDeviceMode _ => none
  | queryRemotDevState _ channel | ptzControlEx2 _ channel _ _ _ | queryPtzPreset _ channel
  | makeKeyFrame _ channel | realPlayByDataType _ channel | playBackByDataType _ channel _
  | queryRecordFile _ channel _ => some channel

/-- A call with a login, for this channel or for the whole device. -/
def For (c : DeviceCall) (h : LLONG) (n : ℤ) : Prop :=
  c.login = h ∧ ∀ n', c.channel = some n' → n' = n

lemma for_of_channel {c : DeviceCall} {h : LLONG} {n : ℤ} (hlogin : c.login = h)
    (hchannel : c.channel = some n) : c.For h n :=
  ⟨hlogin, fun _ hn => Option.some.inj (hn.symm.trans hchannel)⟩

lemma for_setDeviceMode (h : LLONG) (n : ℤ) : (setDeviceMode h).For h n :=
  ⟨rfl, fun _ hn => nomatch hn⟩

end DeviceCall

open DeviceCall

lemma getCameraList_login {env : Env} {login : LoginResults} {a : CameraAnswers} {ret : ℤ}
    {list : List Device} {cs : List DeviceCall}
    (h : getCameraList env login a = .ok (ret, list, cs)) : ∀ c ∈ cs, c.login = login.handle := by
  have hstate : ∀ i, ∀ c ∈ a.stateCalls login.handle i, c.login = login.handle := by
    intro i c hc
    rw [CameraAnswers.stateCalls] at hc
    split at hc <;> simp at hc
    · rcases hc with rfl | rfl <;> rfl
    · exact hc ▸ rfl
  simp only [getCameraList] at h
  split_ifs at h <;> cases h <;> intro c hc <;> simp at hc
  · exact hc ▸ rfl
  · rcases hc with rfl | rfl <;> rfl
  · rcases hc with rfl | rfl | rfl <;> rfl
  · rcases hc with rfl | rfl | rfl | ⟨i, -, hc⟩
    · rfl
    · rfl
    · rfl
    · exact hstate i c hc

lemma ptzControl_for (env : Env) (tempPtzCmd : ℕ) (login : LoginResults) (ptz : PtzCMD)
    (a : SdkResult) :
    ∀ c ∈ (ptzControl env tempPtzCmd login ptz a).2.2, c.For login.handle ptz.channel := by
  simp only [ptzControl]
  split <;> exact List.forall_mem_singleton.mpr (for_of_channel rfl rfl)

lemma queryPtzPreset_for (login : LoginResults) (channel : ℤ) (mem : Preset) (a : PresetAnswers) :
    ∀ c ∈ (queryPtzPreset login channel mem a).2.2, c.For login.handle channel := by
  simp only [queryPtzPreset]
  split <;> exact List.forall_mem_singleton.mpr (for_of_channel rfl rfl)

lemma queryRecordFile_for (env : Env) (login : LoginResults) (channel : ℤ) (start end' : String)
    (locals : QueryLocals) (mem : Record) (a : RecordAnswers) :
    ∀ c ∈ (queryRecordFile env login channel start end' locals mem a).2.2,
      c.For login.handle channel := by
  simp only [queryRecordFile]
  split_ifs
  · exact fun _ hc => absurd hc List.not_mem_nil
  · exact fun _ hc => absurd hc List.not_mem_nil
  all_goals exact List.forall_mem_singleton.mpr (for_of_channel rfl rfl)

lemma realSession_login (mem : PlaySession) (login : LoginResults) (realPlay : Play)
    (media : PlaySession.MediaAnswers) :
    (realSession mem login realPlay media).lLoginID = login.handle ∧
      (realSession mem login realPlay media).nChannel = realPlay.channel := by
  simp only [realSession, PlaySession.setMSAddr, PlaySession.connetMS, PlaySession.creatPacket]
  split_ifs <;> exact ⟨rfl, rfl⟩

lemma recordSession_login (mem : PlaySession) (login : LoginResults) (record : Record)
    (media : PlaySession.MediaAnswers) :
    (recordSession mem login record media).lLoginID = login.handle ∧
      (recordSession mem login record media).nChannel = record.channel := by
  simp only [recordSession, PlaySession.setMSAddr, PlaySession.connetMS, PlaySession.creatPacket]
  split_ifs <;> exact ⟨rfl, rfl⟩

lemma startRealStream_for (m : SessionMap PlaySession) (mem : PlaySession) (login : LoginResults)
    (realPlay : Play) (media : PlaySession.MediaAnswers) (a : PlaySession.StartAnswers) :
    ∀ c ∈ (startRealStream m mem login realPlay media a).calls,
      c.For login.handle realPlay.channel := by
  obtain ⟨hlogin, hchannel⟩ := realSession_login mem login realPlay media
  rw [startRealStream]
  split
  · rw [insertStarted_calls, PlaySession.startRealPlaySession]
    split
    · exact List.forall_mem_singleton.mpr (for_of_channel hlogin (congrArg some hchannel))
    · exact List.forall_mem_cons.mpr ⟨for_of_channel hlogin (congrArg some hchannel),
        List.forall_mem_singleton.mpr (for_of_channel hlogin (congrArg some hchannel))⟩
  · exact fun _ hc => absurd hc List.not_mem_nil

lemma startPlayBack_for (m : SessionMap PlaySession) (mem : PlaySession) (times : NetTimes)
    (login : LoginResults) (record : Record) (media : PlaySession.MediaAnswers)
    (a : PlaySession.StartAnswers) :
    ∀ c ∈ (startPlayBack m mem times login record media a).calls,
      c.For login.handle record.channel := by
  obtain ⟨hlogin, hchannel⟩ := recordSession_login mem login record media
  rw [startPlayBack]
  split
  · rw [insertStarted_calls, PlaySession.startRecordPlaySession]
    dsimp only
    rw [hlogin, hchannel]
    have hmode := for_setDeviceMode login.handle record.channel
    have hplay : (playBackByDataType login.handle record.channel
        (times.scan record.startTime record.endTime)).For login.handle record.channel :=
      for_of_channel rfl rfl
    split_ifs <;> simp [hmode, hplay]
  · exact fun _ hc => absurd hc List.not_mem_nil

/-! ### Requests for a channel -/

namespace SdkOp

def channel : SdkOp → Option ℤ
  | ptzControl channel _ _ | queryPtzPreset channel | startRealStream channel _ _ _ _
  | queryRecordFile channel _ _ | startPlayBack channel _ _ _ _ _ _ => some channel
  | stopPlay _ | deviceRecordPause _ | deviceRecordResume _ | deviceRecordSpeed _ _ => none

/-- An operation for which the device is not asked: the stream has a session already, or the window
is no time. -/
def Idle (s : Server) : SdkOp → Prop
  | startRealStream _ streamId _ _ _ | startPlayBack _ streamId _ _ _ _ _ => streamId ∈ s.sessions
  | queryRecordFile _ start end' =>
    (Scan.getTime Scan.dashed start).2 = true ∨ (Scan.getTime Scan.dashed end').2 = true
  | _ => False

end SdkOp

lemma request_channel {vars : HandlerVars} {doc : Json} {t : MsgType} {k id : String} {op : SdkOp}
    {n : ℤ} (hop : request vars (some doc) t = .ok (some ⟨some k, op⟩))
    (hid : doc.readAt asString ["data", "channelId"] = some id)
    (hn : ∀ channel, channelOf id channel = n) : op.channel = some n := by
  have htext : ∀ channel, channelOf (doc.text ["data", "channelId"]) channel = n := by
    rw [text_of_readAt hid]
    exact hn
  obtain ⟨data, hdata⟩ := exists_asObject_of_readAt hid
  cases t with
  | channelPtzControl =>
    obtain ⟨r, hr, hop⟩ := map_eq_ok.mp hop
    cases hop
    exact congrArg some ((parsPtzControl_eq hr) ▸ htext _)
  | channelPtzPreset =>
    obtain ⟨r, hr, hop⟩ := map_eq_ok.mp hop
    cases hop
    exact congrArg some ((parsPtzPreset_eq hr) ▸ htext _)
  | channelPlay =>
    obtain ⟨r, hr, hop⟩ := map_eq_ok.mp hop
    cases hop
    refine congrArg some ?_
    rcases parsChannelPlay_cases hr with ⟨hnone, _⟩ | ⟨_, _, heq⟩ | ⟨_, _, heq⟩
    · rw [hdata] at hnone
      exact nomatch hnone
    · exact heq ▸ htext _
    · exact heq ▸ htext _
  | channelRecordInfo =>
    obtain ⟨r, hr, hop⟩ := map_eq_ok.mp hop
    cases hop
    obtain ⟨w, hw, _⟩ := Option.bind_eq_some_iff.mp hid
    exact congrArg some ((parsChannelRecordInfo_eq (exists_obj_of_member hw) hr) ▸ htext _)
  | channelPlayback =>
    obtain ⟨r, hr, hop⟩ := map_eq_ok.mp hop
    cases hop
    exact congrArg some ((parsChannelPlayback_eq hr) ▸ htext _)
  | deviceRecordPause | deviceRecordResume | deviceRecordSpeed =>
    obtain ⟨r, hr, hop⟩ := map_eq_ok.mp hop
    cases hop
  | _ => cases hop

namespace Server

variable {env : Env} {s : Server} {doc : Document} {a : TaskInput} {k : String}
  {login : LoginResults} {n : ℤ}

/-- What a task has called: only under this login and for this channel, and nothing exactly where
the operation is idle. -/
def Called (s s' : Server) (h : LLONG) (op : SdkOp) : Prop :=
  ∃ cs, s'.calls = s.calls ++ cs ∧ (∀ c ∈ cs, ∀ n, op.channel = some n → c.For h n) ∧
    (cs = [] ↔ op.Idle s)

/-- The common part of the handlers: what they do after the login decides. -/
lemma called_of_parsed {α : Type} {parsed : Except Fault (Bool × α)} {deviceId : α → String}
    {body : α → Server → LoginResults → Server × TaskEnd} {op : SdkOp} (operation : α → SdkOp)
    (channel : α → ℤ)
    (hop : parsed.map (fun r => some (DeviceRequest.mk (some (deviceId r.2)) (operation r.2))) =
      .ok (some ⟨some k, op⟩))
    (h : s.KeepsLogin k login) (hchannel : ∀ v, (operation v).channel = some (channel v))
    (hbody : ∀ v, ∃ cs, (body v s login).1.calls = s.calls ++ cs ∧
      (∀ c ∈ cs, c.For login.handle (channel v)) ∧ (cs = [] ↔ (operation v).Idle s)) :
    s.Called (s.withParsed parsed fun v => s.withLogin (deviceId v) a (body v)).1 login.handle
      op := by
  obtain ⟨r, rfl, hop⟩ := map_eq_ok.mp hop
  cases hop
  obtain ⟨cs, hcalls, hcs, hidle⟩ := hbody r.2
  rw [withParsed, h.withLogin]
  refine ⟨cs, hcalls, fun c hc n hn => ?_, hidle⟩
  rw [hchannel] at hn
  exact Option.some.inj hn ▸ hcs c hc

lemma handle_called {speed : ℚ} {t : MsgType} {op : SdkOp} (hdoc : getMsgType doc = some t)
    (hop : request (a.vars speed) doc t = .ok (some ⟨some k, op⟩)) (h : s.KeepsLogin k login) :
    s.Called (handle env s doc a).1 login.handle op := by
  rw [handle, hdoc]
  cases t with
  | channelPtzControl =>
    refine called_of_parsed (fun ptz : PtzCMD => .ptzControl ptz.channel ptz.contrlCmd
      ptz.contrlParam) PtzCMD.channel hop h (fun _ => rfl) fun ptz => ?_
    exact ⟨_, rfl, ptzControl_for env _ login ptz _,
      iff_of_false (ptzControl_calls env _ login ptz _) id⟩
  | channelPtzPreset =>
    refine called_of_parsed (fun temp : Preset => .queryPtzPreset temp.channel) Preset.channel hop h
      (fun _ => rfl) fun temp => ?_
    exact ⟨_, rfl, queryPtzPreset_for login temp.channel _ _,
      iff_of_false (queryPtzPreset_calls login temp.channel _ _) id⟩
  | channelPlay =>
    refine called_of_parsed (fun temp : Play => .startRealStream temp.channel temp.streamId
      temp.sdpIp temp.port temp.streamMode) Play.channel hop h (fun _ => rfl) fun temp => ?_
    exact ⟨_, rfl, startRealStream_for _ _ login temp _ _, startRealStream_calls _ _ login temp _ _⟩
  | channelRecordInfo =>
    refine called_of_parsed (fun temp : Record => .queryRecordFile temp.channel temp.startTime
      temp.endTime) Record.channel hop h (fun _ => rfl) fun temp => ?_
    have hidle := queryRecordFile_cases env login temp.channel temp.startTime temp.endTime a.locals
      a.recordMem a.records
    refine ⟨_, rfl, queryRecordFile_for env login temp.channel _ _ _ _ _, ?_⟩
    -- the query is made unless one of the texts is no time
    rcases hidle with ⟨hfail, hret⟩ | ⟨hfail, hcalls⟩
    · exact iff_of_true (congrArg (fun r => r.2.2) hret) hfail
    · exact iff_of_false hcalls hfail
  | channelPlayback =>
    refine called_of_parsed (fun temp : Record => .startPlayBack temp.channel temp.streamId
      temp.startTime temp.endTime temp.sdpIp temp.port temp.streamMode) Record.channel hop h
      (fun _ => rfl) fun temp => ?_
    exact ⟨_, rfl, startPlayBack_for _ _ _ login temp _ _, startPlayBack_calls _ _ _ login temp _ _⟩
  | deviceRecordPause | deviceRecordResume | deviceRecordSpeed =>
    obtain ⟨r, hr, hop⟩ := map_eq_ok.mp hop
    cases hop
  | _ => cases hop

/-! ### From the list to the request -/

lemma exists_of_listed {c : Config} {deviceList : List Device} {platform : Platform}
    {time id : String} {e : Json}
    (he : e ∈ channelDetailList (c.channelSync deviceList platform time))
    (hid : e.stringMember "channelId" = some id) (hn : e.intMember "channelNum" = some n) :
    id = platform.deviceId ++ "#" ++ toString n ∧ -2 ^ 31 ≤ n ∧ n < 2 ^ 31 := by
  rw [channelDetailList_channelSync] at he
  obtain ⟨d, -, rfl⟩ := List.mem_map.mp he
  have hnum : (if -2 ^ 31 ≤ d.id ∧ d.id < 2 ^ 31 then some d.id else none) = some n := hn
  split_ifs at hnum with hrange
  cases hnum
  exact ⟨(Option.some.inj hid).symm, hrange⟩

lemma channelSync_lists {m : Json} (hlogin : s.LoggedIn k a login)
    (hname : (parsDeviceSync doc (Platform.new a.newId)).2.deviceId = k)
    (hm : (channelSync env s doc a).1.sent = s.sent ++ [m]) :
    (channelSync env s doc a).1.KeepsLogin k login ∧
      (∃ cs, (channelSync env s doc a).1.calls = s.calls ++ cs ∧ ∀ c ∈ cs, c.login = login.handle) ∧
      ∃ deviceList platform, platform.deviceId = k ∧
        m = env.channelSync deviceList platform a.time := by
  obtain ⟨mgr, hkept, hbody⟩ := hlogin.run
  cases hlist : getCameraList env login a.cameras with
  | error e =>
    have hrun : channelSync env s doc a = ({ s with mgr := mgr }, .thrown e) := by
      simp only [channelSync, hname, hbody, hlist]
    -- nothing is answered when the arrays of the list cannot be made
    rw [hrun] at hm
    exact absurd (congrArg List.length hm) (by simp)
  | ok r =>
    obtain ⟨ret, list, cs⟩ := r
    have hrun : channelSync env s doc a = ((({ s with mgr := mgr } : Server).call cs).send
        (env.channelSync list (parsDeviceSync doc (Platform.new a.newId)).2 a.time),
        .returned) := by
      simp only [channelSync, hname, hbody, hlist]
    rw [hrun] at hm ⊢
    refine ⟨hkept, ⟨cs, rfl, getCameraList_login hlist⟩, list, _, hname, ?_⟩
    exact (List.singleton_inj.mp (List.append_cancel_left hm)).symm

/-- A request that adds no recorder to a gateway that was started leaves the list's recorders in the
map. -/
lemma handle_mirrored {env : Env} (hx : env.xpack.Lawful) {file : Option String}
    (hfile : ((Registry.load env.xpack file).map Platform.deviceId).Nodup) {tempPtzCmd : ℕ}
    {msgId : ℤ} {before : List Event} {s : Server}
    (hbefore : Run.run (step env) (startServer env file tempPtzCmd msgId []) before = some s)
    (hfresh : Run.Meets (step env) Fresh (startServer env file tempPtzCmd msgId []) before)
    {doc : Document} (hdoc : getMsgType doc ≠ some .deviceAdd) (a : TaskInput) :
    (handle env s doc a).1.registry.Mirrored env.xpack := by
  have hstart : (startServer env file tempPtzCmd msgId []).registry.Mirrored env.xpack :=
    Registry.boot_mirrored hfile
  have hmirrored : s.registry.Mirrored env.xpack :=
    Run.run_invariant (fun _ _ _ h hc hs => step_mirrored hx h hc hs) hstart hfresh hbefore
  exact step_mirrored hx (e := .task doc a) hmirrored (fun hadd => absurd hadd hdoc) rfl

/-- A channel that a `CHANNEL_SYNC` has listed for a recorder is served on this recorder: as long as
the process lives, whatever is handled in between, a request with its identifier is for the number
of the list, and all the device calls of both requests are made with one login. The device is left
alone only where the stream is playing already or the window is no time.

The requests are handled one at a time. The recorders of the file have distinct identifiers, the
constructors make identifiers that are not in use, the one that the `CHANNEL_SYNC` names has no `#`
and its login succeeds; the request is for this recorder, not for the channel of another one. -/
theorem listed_channel_served {env : Env} (hx : env.xpack.Lawful) {file : Option String}
    (hfile : ((Registry.load env.xpack file).map Platform.deviceId).Nodup) {tempPtzCmd : ℕ}
    {msgId : ℤ} {before after : List Event} {s t : Server}
    (hbefore : Run.run (step env) (startServer env file tempPtzCmd msgId []) before = some s)
    (hfresh : Run.Meets (step env) Fresh (startServer env file tempPtzCmd msgId []) before)
    {sync : Document} {a : TaskInput} {k : String} {login : LoginResults} {m e : Json} {id : String}
    {n : ℤ} (hsync : getMsgType sync = some .channelSync)
    (hk : (parsDeviceSync sync (Platform.new a.newId)).2.deviceId = k) (hsep : '#' ∉ k.toList)
    (hlogin : s.LoggedIn k a login) (hm : (handle env s sync a).1.sent = s.sent ++ [m])
    (he : e ∈ channelDetailList m) (hid : e.stringMember "channelId" = some id)
    (hn : e.intMember "channelNum" = some n)
    (hafter : Run.run (step env) (handle env s sync a).1 after = some t)
    (hlives : Run.Meets (step env) Lives (handle env s sync a).1 after)
    {doc : Json} {b : TaskInput} {speed : ℚ} {ty : MsgType} {op : SdkOp}
    (hdoc : getMsgType (some doc) = some ty)
    (hop : request (b.vars speed) (some doc) ty = .ok (some ⟨some k, op⟩))
    (hdocId : doc.readAt asString ["data", "channelId"] = some id) :
    op.channel = some n ∧
      (∃ cs, (handle env s sync a).1.calls = s.calls ++ cs ∧ ∀ c ∈ cs, c.login = login.handle) ∧
      ∃ cs, (handle env t (some doc) b).1.calls = t.calls ++ cs ∧
        (∀ c ∈ cs, c.For login.handle n) ∧ (cs = [] ↔ op.Idle t) := by
  have hmirrored : (handle env s sync a).1.registry.Mirrored env.xpack :=
    handle_mirrored hx hfile hbefore hfresh (by simp [hsync]) a
  have hhandle : (handle env s sync a).1 = (channelSync env s sync a).1 := by
    rw [handle, hsync]
    rfl
  rw [hhandle] at hm hafter hlives hmirrored ⊢
  obtain ⟨hkept, hcalls, deviceList, platform, hplatform, rfl⟩ := channelSync_lists hlogin hk hm
  obtain ⟨rfl, hlo, hhi⟩ := exists_of_listed he hid hn
  have hstays : t.Stays env k login :=
    Run.run_invariant (fun _ _ _ h hc hs => h.step hx hc hs) ⟨hmirrored, hkept⟩ hlives hafter
  have hchannel : op.channel = some n := by
    refine request_channel hop hdocId fun channel => ?_
    exact channelOf_channelId (hplatform ▸ hsep) hlo hhi channel
  have hcalled : t.Called (handle env t (some doc) b).1 login.handle op :=
    handle_called hdoc hop hstays.login
  obtain ⟨cs, hcs, hfor, hidle⟩ := hcalled
  exact ⟨hchannel, hcalls, cs, hcs, fun c hc => hfor c hc n hchannel, hidle⟩

/-- A request for the channels of the recorder that `addRecorder` adds. -/
def syncRecorder : Document :=
  some (.obj [("msgId", .str "49542"), ("msgType", .str "CHANNEL_SYNC"),
    ("data", .obj [("deviceId", .str "1700733608331580")])])

def thirdChannel : TaskInput :=
  { TaskInput.silent with
    cameras := { TaskInput.silent.cameras with
      getDevConfig := ⟨true, 0⟩
      matrixGetCameras := ⟨true, 0⟩
      queryDevInfo := true
      szChannelName := fun i => if i = 3 then "IPC" else "" } }

def moveThird : Json :=
  .obj [("code", .num 0), ("msgId", .str "49543"), ("msgType", .str "CHANNEL_PTZ_CONTROL"),
    ("data", .obj [("deviceId", .str "1700733608331580"), ("channelId", .str "1700733608331580#3"),
      ("dataMap", .obj [("cmdCode", .num 8), ("cmdValue", .num 5)])])]

/-- The camera is moved although its recorder was deleted after the list. -/
theorem listed_channel_served_third :
    ∃ s t, Run.run (step Env.plain) fresh [addRecorder] = some s ∧
      Run.run (step Env.plain) (handle Env.plain s syncRecorder thirdChannel).1
        [.task deleteRecorder .silent] = some t ∧
      ∃ cs, (handle Env.plain t (some moveThird) .silent).1.calls = t.calls ++ cs ∧
        (∀ c ∈ cs, c.For 9001 3) ∧ (cs = [] ↔ (SdkOp.ptzControl 3 8 5).Idle t) := by
  refine ⟨_, _, rfl, rfl, ?_⟩
  have hfile : ((Registry.load Env.plain.xpack none).map Platform.deviceId).Nodup := List.nodup_nil
  have hadd : Run.Meets (step Env.plain) Fresh fresh [addRecorder] :=
    ⟨fun _ => List.not_mem_nil, fun _ _ => trivial⟩
  have hlives : ∀ s, Run.Meets (step Env.plain) Lives s [.task deleteRecorder .silent] := fun s =>
    ⟨fun h => absurd h (by decide), fun _ _ => trivial⟩
  have hsep : '#' ∉ "1700733608331580".toList := by decide
  have hop : request (TaskInput.silent.vars 0) (some moveThird) .channelPtzControl =
      .ok (some ⟨some "1700733608331580", .ptzControl 3 8 5⟩) := rfl
  have hk : (parsDeviceSync syncRecorder (Platform.new thirdChannel.newId)).2.deviceId =
      "1700733608331580" := rfl
  have hserved := listed_channel_served XPack.json_lawful hfile rfl hadd rfl hk hsep
    ⟨_, _, rfl, rfl⟩ rfl List.mem_cons_self rfl rfl rfl (hlives _) rfl hop rfl
  exact hserved.2.2

end Server

end DHGateway
