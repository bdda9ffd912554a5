import DHGateway.Server.Handlers

/-!
# Answers

Each of eleven types of request is to be answered by one message with its `msgId` and `msgType`. A
request goes without an answer where a login or the list of channels throws, and where a recorder
is added without an address.
-/

namespace DHGateway

open Config

/-- The types of message that are requests to be answered. -/
def MsgType.isRequest : MsgType → Bool
  | .deviceAdd | .channelSync | .deviceTotalSync | .deviceDelete | .deviceDeleteSoft
  | .deviceDeleteRecover | .channelDeleteSoft | .channelDeleteRecover | .channelPtzControl
  | .channelPtzPreset | .channelRecordInfo => true
  | _ => false

namespace Server

/-- A message is an answer to the request with this `msgId` and `msgType`. -/
def isAnswer (msgId msgType : String) (m : Json) : Bool :=
  m.stringMember "msgId" = some msgId ∧ m.stringMember "msgType" = some msgType

def AnsweredOnce (s s' : Server) (msgId msgType : String) : Prop :=
  (s'.sent.drop s.sent.length).countP (isAnswer msgId msgType) = 1

lemma answeredOnce_of_send {s s' : Server} {m : Json} {msgId msgType : String}
    (hsent : s'.sent = s.sent ++ [m]) (hm : Heads m msgId msgType) :
    s.AnsweredOnce s' msgId msgType := by
  have hans : isAnswer msgId msgType m = true := decide_eq_true ⟨hm.msgId, hm.msgType⟩
  rw [AnsweredOnce, hsent, List.drop_left, List.countP_singleton, if_pos hans]

lemma not_answeredOnce_of_sent {s s' : Server} {msgId msgType : String}
    (hsent : s'.sent = s.sent) : ¬ s.AnsweredOnce s' msgId msgType := by
  rw [AnsweredOnce, hsent, List.drop_length]
  exact Nat.zero_ne_one

/-- A message of another type behind the answer makes no difference. -/
lemma answeredOnce_of_send_send {s s' : Server} {m m' : Json} {msgId msgType id' type' : String}
    (hsent : s'.sent = s.sent ++ [m] ++ [m']) (hm : Heads m msgId msgType)
    (hm' : Heads m' id' type') (hne : type' ≠ msgType) : s.AnsweredOnce s' msgId msgType := by
  have hans : isAnswer msgId msgType m = true := decide_eq_true ⟨hm.msgId, hm.msgType⟩
  have hnot : ¬ isAnswer msgId msgType m' = true := by
    intro h
    have htype := (of_decide_eq_true h).2
    rw [hm'.msgType] at htype
    exact hne (Option.some.inj htype)
  rw [AnsweredOnce, hsent, List.append_assoc, List.drop_left]
  simp [hans, hnot]

/-! ### Logging in -/

def LoginThrows (s : Server) (deviceId : String) (a : TaskInput) : Prop :=
  ∃ p, s.registry.getPlatform deviceId = some p ∧ s.mgr.LoginThrows p.credentials a.login

/-- The channel count that a handler goes on with: after a failed lookup or login it is what the
storage held. -/
def chanNum (s : Server) (deviceId : String) (a : TaskInput) : ℤ :=
  match s.registry.getPlatform deviceId with
  | none => a.results.chanNum
  | some p => s.mgr.chanNum p.credentials a.results a.login

/-- The part that the handlers share either throws or goes on without having sent anything. -/
lemma withLogin_cases (s : Server) (deviceId : String) (a : TaskInput)
    (body : Server → LoginResults → Server × TaskEnd) :
    (s.LoginThrows deviceId a ∧ s.withLogin deviceId a body = (s, .thrown .outOfRange)) ∨
    (¬ s.LoginThrows deviceId a ∧ ∃ mgr results,
      s.withLogin deviceId a body = body { s with mgr := mgr } results ∧
        results.chanNum = s.chanNum deviceId a) := by
  cases hp : s.registry.getPlatform deviceId with
  -- without the recorder no login is made, and the handler goes on
  | none =>
    refine Or.inr ⟨?_, s.mgr, a.results, ?_, ?_⟩
    · rintro ⟨p, hp', _⟩
      rw [hp] at hp'
      exact nomatch hp'
    · rw [withLogin, lookupLogin, hp]
    · rw [chanNum, hp]
  | some p =>
    rcases s.mgr.connetEquipment_cases p.credentials a.results a.login with
      ⟨hthrows, results, hret⟩ | ⟨hthrows, ret, mgr, results, hret, hnum⟩
    · refine Or.inl ⟨⟨p, hp, hthrows⟩, ?_⟩
      rw [withLogin, lookupLogin, hp]
      dsimp only
      rw [hret]
      rfl
    · refine Or.inr ⟨?_, mgr, results, ?_, ?_⟩
      · rintro ⟨p', hp', h⟩
        rw [hp] at hp'
        exact hthrows (Option.some.inj hp' ▸ h)
      · rw [withLogin, lookupLogin, hp]
        dsimp only
        rw [hret]
        rfl
      · rw [chanNum, hp]
        exact hnum

/-! ### Which requests are answered -/

def ParserReturns (doc : Document) (a : TaskInput) : MsgType → Prop
  | .channelPtzControl => ∃ r, parsPtzControl doc (PtzCMD.new a.ptzMem) = .ok r
  | .channelPtzPreset => ∃ r, parsPtzPreset doc (Preset.new a.presetMem) = .ok r
  | .channelRecordInfo => ∃ r, parsChannelRecordInfo doc (Record.new a.recordMem) = .ok r
  | _ => True

/-- The requests without an answer: the login throws; a recorder without an address is added; the
channels of a recorder are listed for a count that is negative or too large. -/
def Unanswered (env : Env) (s : Server) (doc : Document) (a : TaskInput) : MsgType → Prop
  | .deviceAdd =>
    let p := (parsDeviceAdd doc (Platform.new a.newId)).2
    p.ip = "" ∨ s.mgr.LoginThrows p.credentials a.login
  | .channelSync =>
    let k := (parsDeviceSync doc (Platform.new a.newId)).2.deviceId
    s.LoginThrows k a ∨ s.chanNum k a < 0 ∨
      s.chanNum k a ≠ 0 ∧ env.maxDevices < s.chanNum k a
  | .channelPtzControl =>
    ∃ r, parsPtzControl doc (PtzCMD.new a.ptzMem) = .ok r ∧ s.LoginThrows r.2.deviceId a
  | .channelPtzPreset =>
    ∃ r, parsPtzPreset doc (Preset.new a.presetMem) = .ok r ∧ s.LoginThrows r.2.deviceId a
  | .channelRecordInfo =>
    ∃ r, parsChannelRecordInfo doc (Record.new a.recordMem) = .ok r ∧
      s.LoginThrows r.2.deviceId a
  | _ => False

variable {env : Env} {s : Server} {ms : List (String × Json)} {a : TaskInput} {msgId : String}

lemma withLogin_answered_iff {deviceId msgType : String} {T : Prop}
    {body : Server → LoginResults → Server × TaskEnd} (hT : T ↔ s.LoginThrows deviceId a)
    (hbody : ∀ mgr results, s.AnsweredOnce (body { s with mgr := mgr } results).1 msgId msgType) :
    s.AnsweredOnce (s.withLogin deviceId a body).1 msgId msgType ↔ ¬ T := by
  rw [hT]
  rcases s.withLogin_cases deviceId a body with ⟨hthrows, hrun⟩ | ⟨hthrows, mgr, results, hrun, _⟩
  · rw [hrun]
    exact iff_of_false (not_answeredOnce_of_sent rfl) (not_not_intro hthrows)
  · rw [hrun]
    exact iff_of_true (hbody mgr results) hthrows

lemma acknowledge_answered (msgType : String)
    (hid : (Json.obj ms).stringMember "msgId" = some msgId) :
    s.AnsweredOnce (acknowledge env s (some (.obj ms)) a msgType).1 msgId msgType := by
  refine answeredOnce_of_send rfl ?_
  rw [show msgId = (parsDeviceSync (some (.obj ms)) (Platform.new a.newId)).2.msgId by
    rw [parsDeviceSync_msgId, Option.getD_some, hid, Option.getD_some]]
  exact response_heads _ _ _ _

lemma deviceDeleteSoft_answered (hid : (Json.obj ms).stringMember "msgId" = some msgId) :
    s.AnsweredOnce (deviceDeleteSoft env s (some (.obj ms)) a).1 msgId "DEVICE_DELETE_SOFT" := by
  refine answeredOnce_of_send rfl ?_
  rw [show msgId = (parsDeviceSync (some (.obj ms)) (Platform.new a.newId)).2.msgId by
    rw [parsDeviceSync_msgId, Option.getD_some, hid, Option.getD_some]]
  exact response_heads _ _ _ _

lemma deviceTotalSync_answered (hid : (Json.obj ms).stringMember "msgId" = some msgId) :
    s.AnsweredOnce (deviceTotalSync env s (some (.obj ms)) a).1 msgId "DEVICE_TOTAL_SYNC" := by
  refine answeredOnce_of_send rfl ?_
  rw [show msgId = (parsDeviceTotalSync (some (.obj ms)) "").2 by
    rw [parsDeviceTotalSync_msgId, Option.getD_some, hid, Option.getD_some]]
  exact deviceTotalSync_heads _ _ _

lemma deviceAdd_answered_iff (hid : (Json.obj ms).stringMember "msgId" = some msgId) :
    s.AnsweredOnce (deviceAdd env s (some (.obj ms)) a).1 msgId "DEVICE_ADD" ↔
      ¬ Unanswered env s (some (.obj ms)) a .deviceAdd := by
  have hmsgId : (parsDeviceAdd (some (.obj ms)) (Platform.new a.newId)).2.msgId = msgId := by
    rw [parsDeviceAdd_msgId, hid, Option.getD_some]
  rw [deviceAdd, Unanswered]
  generalize parsDeviceAdd (some (.obj ms)) (Platform.new a.newId) = r at hmsgId ⊢
  obtain ⟨_, p⟩ := r
  dsimp only at hmsgId ⊢
  -- a recorder without an address gets no answer
  by_cases hip : p.ip = ""
  · rw [if_pos hip]
    exact iff_of_false (not_answeredOnce_of_sent rfl) (not_not_intro (Or.inl hip))
  · rw [if_neg hip]
    rcases s.mgr.connetEquipment_cases p.credentials a.results a.login with
      ⟨hthrows, results, hret⟩ | ⟨hthrows, ret, mgr, results, hret, -⟩
    · rw [hret]
      exact iff_of_false (not_answeredOnce_of_sent rfl) (not_not_intro (Or.inr hthrows))
    · rw [hret]
      refine iff_of_true ?_ (not_or.mpr ⟨hip, hthrows⟩)
      subst hmsgId
      dsimp only
      split
      · exact answeredOnce_of_send rfl (deviceAddStep1_heads _ _)
      · exact answeredOnce_of_send_send rfl (deviceAddStep1_heads _ _) (deviceAddStep2_heads _ _ _)
          (by decide)

lemma channelSync_answered_iff (hid : (Json.obj ms).stringMember "msgId" = some msgId) :
    s.AnsweredOnce (channelSync env s (some (.obj ms)) a).1 msgId "CHANNEL_SYNC" ↔
      ¬ Unanswered env s (some (.obj ms)) a .channelSync := by
  have hmsgId : (parsDeviceSync (some (.obj ms)) (Platform.new a.newId)).2.msgId = msgId := by
    rw [parsDeviceSync_msgId, Option.getD_some, hid, Option.getD_some]
  rw [channelSync, Unanswered]
  generalize parsDeviceSync (some (.obj ms)) (Platform.new a.newId) = r at hmsgId ⊢
  obtain ⟨_, p⟩ := r
  dsimp only at hmsgId ⊢
  rcases s.withLogin_cases p.deviceId a _ with ⟨hthrows, hrun⟩ | ⟨hthrows, mgr, results, hrun, hnum⟩
  · rw [hrun]
    exact iff_of_false (not_answeredOnce_of_sent rfl) (not_not_intro (Or.inl hthrows))
  · rw [hrun, ← hnum]
    by_cases hbad : results.chanNum < 0 ∨ results.chanNum ≠ 0 ∧ env.maxDevices < results.chanNum
    · obtain ⟨e, he⟩ := getCameraList_of_invalid a.cameras hbad
      rw [he]
      exact iff_of_false (not_answeredOnce_of_sent rfl) (not_not_intro (Or.inr hbad))
    · obtain ⟨ret, list, calls, hlist⟩ : ∃ ret list calls,
          getCameraList env results a.cameras = .ok (ret, list, calls) := by
        by_cases h0 : results.chanNum = 0
        · exact ⟨_, _, _, getCameraList_of_zero a.cameras h0⟩
        · obtain ⟨ret, list, cs, hlist⟩ := getCameraList_of_pos a.cameras
            (show 0 < results.chanNum by omega) (show results.chanNum ≤ env.maxDevices by omega)
          exact ⟨_, _, _, hlist⟩
      rw [hlist]
      subst hmsgId
      exact iff_of_true (answeredOnce_of_send rfl (channelSync_heads _ _ _))
        (not_or.mpr ⟨hthrows, hbad⟩)

lemma channelPtzControl_answered_iff (hid : (Json.obj ms).stringMember "msgId" = some msgId)
    (htype : (Json.obj ms).stringMember "msgType" = some "CHANNEL_PTZ_CONTROL")
    (hp : ParserReturns (some (.obj ms)) a .channelPtzControl) :
    s.AnsweredOnce (channelPtzControl env s (some (.obj ms)) a).1 msgId "CHANNEL_PTZ_CONTROL" ↔
      ¬ Unanswered env s (some (.obj ms)) a .channelPtzControl := by
  obtain ⟨r, hr⟩ := hp
  obtain ⟨hrid, hrtype⟩ := parsPtzControl_ids hr
  have hheads : r.2.msgId = msgId ∧ r.2.msgType = "CHANNEL_PTZ_CONTROL" :=
    ⟨Option.some.inj (hrid.symm.trans hid), Option.some.inj (hrtype.symm.trans htype)⟩
  rw [channelPtzControl, hr]
  refine withLogin_answered_iff (Json.exists_ok_iff hr fun r => s.LoginThrows r.2.deviceId a)
    fun mgr results => ?_
  rw [← hheads.1, ← hheads.2]
  exact answeredOnce_of_send rfl (response_heads _ _ _ _)

lemma channelPtzPreset_answered_iff (hid : (Json.obj ms).stringMember "msgId" = some msgId)
    (hp : ParserReturns (some (.obj ms)) a .channelPtzPreset) :
    s.AnsweredOnce (channelPtzPreset env s (some (.obj ms)) a).1 msgId "CHANNEL_PTZ_PRESET" ↔
      ¬ Unanswered env s (some (.obj ms)) a .channelPtzPreset := by
  obtain ⟨r, hr⟩ := hp
  have hmsgId : r.2.msgId = msgId :=
    Option.some.inj ((parsPtzPreset_ids hr).1.symm.trans hid)
  rw [channelPtzPreset, hr]
  refine withLogin_answered_iff (Json.exists_ok_iff hr fun r => s.LoginThrows r.2.deviceId a)
    fun mgr results => ?_
  rw [← hmsgId]
  exact answeredOnce_of_send rfl (ptzPresetList_heads _ _ _ _)

lemma channelRecordInfo_answered_iff (hid : (Json.obj ms).stringMember "msgId" = some msgId)
    (htype : (Json.obj ms).stringMember "msgType" = some "CHANNEL_RECORD_INFO")
    (hp : ParserReturns (some (.obj ms)) a .channelRecordInfo) :
    s.AnsweredOnce (channelRecordInfo env s (some (.obj ms)) a).1 msgId "CHANNEL_RECORD_INFO" ↔
      ¬ Unanswered env s (some (.obj ms)) a .channelRecordInfo := by
  obtain ⟨r, hr⟩ := hp
  obtain ⟨hrid, hrtype⟩ := parsChannelRecordInfo_ids hr
  have hheads : r.2.msgId = msgId ∧ r.2.msgType = "CHANNEL_RECORD_INFO" :=
    ⟨Option.some.inj (hrid.symm.trans hid), Option.some.inj (hrtype.symm.trans htype)⟩
  rw [channelRecordInfo, hr]
  refine withLogin_answered_iff (Json.exists_ok_iff hr fun r => s.LoginThrows r.2.deviceId a)
    fun mgr results => ?_
  rw [← hheads.1, ← hheads.2]
  exact answeredOnce_of_send rfl (responseRecordList_heads _ _ _ _ _)

/-- A request with a `msgId` that its parser returns on is answered exactly once by the time its
task has ended, unless it is one of those without an answer. -/
theorem answered_once_iff (env : Env) (s : Server) (a : TaskInput) {doc : Document} {t : MsgType}
    {msgId : String} (ht : getMsgType doc = some t) (hreq : t.isRequest = true)
    (hid : (doc.getD .null).stringMember "msgId" = some msgId) (hp : ParserReturns doc a t) :
    s.AnsweredOnce (handle env s doc a).1 msgId t.text ↔ ¬ Unanswered env s doc a t := by
  have htype := stringMember_of_getMsgType ht
  obtain ⟨ms, rfl⟩ := exists_obj_of_stringMember hid
  rw [handle, ht]
  cases t with
  | deviceAdd => exact deviceAdd_answered_iff hid
  | channelSync => exact channelSync_answered_iff hid
  | deviceTotalSync => exact iff_of_true (deviceTotalSync_answered hid) not_false
  | deviceDelete => exact iff_of_true (acknowledge_answered _ hid) not_false
  | deviceDeleteSoft => exact iff_of_true (deviceDeleteSoft_answered hid) not_false
  | deviceDeleteRecover => exact iff_of_true (acknowledge_answered _ hid) not_false
  | channelDeleteSoft => exact iff_of_true (acknowledge_answered _ hid) not_false
  | channelDeleteRecover => exact iff_of_true (acknowledge_answered _ hid) not_false
  | channelPtzControl => exact channelPtzControl_answered_iff hid htype hp
  | channelPtzPreset => exact channelPtzPreset_answered_iff hid hp
  | channelRecordInfo => exact channelRecordInfo_answered_iff hid htype hp
  | gatewaySignIn | channel3dOperation | channelPlay | channelPlayback | channelStopPlay
  | deviceRecordPause | deviceRecordResume | deviceRecordSpeed => exact nomatch hreq

def addNothing : Document :=
  some (.obj [("msgId", .str "49537"), ("msgType", .str "DEVICE_ADD"),
    ("data", .obj [("dataMap", .obj [("port", .str "8000"), ("username", .str "admin")])])])

/-- A recorder is added, and the device refuses the login with the error `14`. -/
def addRefused : Document :=
  some (.obj [("msgId", .str "49538"), ("msgType", .str "DEVICE_ADD"),
    ("data", .obj [("dataMap", .obj [("ip", .str "172.20.0.245"), ("port", .str "8000"),
      ("username", .str "admin"), ("password", .str "rj123456")])])])

theorem requests_without_answer :
    getMsgType addNothing = some .deviceAdd ∧
      (handle Env.plain fresh addNothing .silent).1.sent = fresh.sent ∧
      ¬ fresh.AnsweredOnce (handle Env.plain fresh addNothing .silent).1 "49537" "DEVICE_ADD" ∧
    getMsgType addRefused = some .deviceAdd ∧
      (handle Env.plain fresh addRefused { TaskInput.silent with login := ⟨0, 14, 0⟩ }) =
        (fresh, .thrown .outOfRange) ∧
      ¬ fresh.AnsweredOnce (handle Env.plain fresh addRefused
        { TaskInput.silent with login := ⟨0, 14, 0⟩ }).1 "49538" "DEVICE_ADD" := by
  refine ⟨by decide, rfl, not_answeredOnce_of_sent rfl, by decide, rfl,
    not_answeredOnce_of_sent rfl⟩

/-- A login that is refused with an error of the table is answered. -/
theorem answered_once_iff_refused :
    fresh.AnsweredOnce (handle Env.plain fresh addRefused .silent).1 "49538"
      MsgType.deviceAdd.text := by
  have htype : getMsgType addRefused = some .deviceAdd := by decide
  apply (answered_once_iff Env.plain fresh .silent htype rfl rfl trivial).mpr
  rintro (hip | hthrows)
  · exact absurd hip (by decide)
  · exact absurd hthrows.2.2 (by decide)

end Server

end DHGateway
