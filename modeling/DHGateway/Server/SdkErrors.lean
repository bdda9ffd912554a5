import DHGateway.Server.Handlers

/-!
# Failures of the device SDK

Four handlers answer a request with a code. It passes through the function of `sdk_wrap` that makes
the calls, the handler and the builder of the message, and each of them may drop it.
-/

namespace DHGateway

/-- The requests that are answered with a code of the SDK, as their parsers read them. -/
inductive SdkRequest where
  | channelSync (platform : Platform)
  | channelPtzControl (ptz : PtzCMD)
  | channelPtzPreset (preset : Preset)
  | channelRecordInfo (record : Record)

namespace SdkRequest

def msgType : SdkRequest → MsgType
  | channelSync _ => .channelSync
  | channelPtzControl _ => .channelPtzControl
  | channelPtzPreset _ => .channelPtzPreset
  | channelRecordInfo _ => .channelRecordInfo

def deviceId : SdkRequest → String
  | channelSync platform => platform.deviceId
  | channelPtzControl ptz => ptz.deviceId
  | channelPtzPreset preset => preset.deviceId
  | channelRecordInfo record => record.deviceId

/-- The handler's parser returns the request on the message. -/
def ReadFrom (r : SdkRequest) (doc : Document) (a : TaskInput) : Prop :=
  match r with
  | channelSync platform => (parsDeviceSync doc (Platform.new a.newId)).2 = platform
  | channelPtzControl ptz => ∃ b, parsPtzControl doc (PtzCMD.new a.ptzMem) = .ok (b, ptz)
  | channelPtzPreset preset => ∃ b, parsPtzPreset doc (Preset.new a.presetMem) = .ok (b, preset)
  | channelRecordInfo record =>
    ∃ b, parsChannelRecordInfo doc (Record.new a.recordMem) = .ok (b, record)

/-- The results of the calls that the operation depends on, as far as they are made: a list of the
cameras of no channel needs none, and neither does a window that is no time. -/
def results (r : SdkRequest) (env : Env) (login : LoginResults) (a : TaskInput) : List SdkResult :=
  match r with
  | channelSync _ =>
    if login.chanNum ≤ 0 ∨ env.maxDevices < login.chanNum then []
    else if !a.cameras.getDevConfig.ok then [a.cameras.getDevConfig]
    else [a.cameras.getDevConfig, a.cameras.matrixGetCameras]
  | channelPtzControl _ => [a.ptz]
  | channelPtzPreset _ => [a.presets.result]
  | channelRecordInfo record =>
    if (Scan.getTime Scan.dashed record.startTime).2 ∨ (Scan.getTime Scan.dashed record.endTime).2
    then [] else [a.records.result]

/-- The failure that is answered as a success on purpose: a query for records that timed out. -/
def Excused (r : SdkRequest) (env : Env) (c : SdkResult) : Prop :=
  match r with
  | channelRecordInfo _ => env.netNetworkError = dhSdkGetLastError c.lastError
  | _ => False

/-- When the code is kept on its way: the cameras could be listed; a movement was accepted, or the
request is one for a preset. -/
def Relayed (r : SdkRequest) (env : Env) (login : LoginResults) (a : TaskInput) : Prop :=
  match r with
  | channelSync _ => ∀ c ∈ r.results env login a, c.ok = true
  | channelPtzControl ptz =>
    a.ptz.ok = true ∨ ptz.contrlCmd = 130 ∨ ptz.contrlCmd = 129 ∨ ptz.contrlCmd = 131
  | channelPtzPreset _ | channelRecordInfo _ => True

end SdkRequest

namespace Server

/-- The recorder is registered and logged in with these results. -/
def LoggedIn (s : Server) (deviceId : String) (a : TaskInput) (login : LoginResults) : Prop :=
  ∃ p mgr, s.registry.getPlatform deviceId = some p ∧
    s.mgr.connetEquipment p.credentials a.results a.login = (.ok 0, mgr, login)

/-- One message with this code was sent between two states. -/
def AnsweredWith (s s' : Server) (code : ℤ) : Prop :=
  ∃ m, s'.sent = s.sent ++ [m] ∧ m.member "code" = some (.num code)

lemma answeredWith_unique {s s' : Server} {code code' : ℤ} (h : s.AnsweredWith s' code)
    (h' : s.AnsweredWith s' code') : code = code' := by
  obtain ⟨m, hsent, hm⟩ := h
  obtain ⟨m', hsent', hm'⟩ := h'
  rw [hsent, List.append_cancel_left_eq, List.singleton_inj] at hsent'
  rw [← hsent', hm] at hm'
  exact Json.num.inj (Option.some.inj hm')

/-- The handler of the request tells the peer how the calls ended. -/
structure FailuresReachPeer (s s' : Server) (env : Env) (r : SdkRequest) (login : LoginResults)
    (a : TaskInput) : Prop where
  failure : (∃ c ∈ r.results env login a, c.ok = false ∧ ¬ r.Excused env c) →
    ∃ code, code ≠ 0 ∧ s.AnsweredWith s' code
  success : r.results env login a ≠ [] → (∀ c ∈ r.results env login a, c.ok = true) →
    s.AnsweredWith s' 0

lemma withLogin_of_loggedIn {s : Server} {deviceId : String} {a : TaskInput} {login : LoginResults}
    (h : s.LoggedIn deviceId a login) :
    ∃ mgr, ∀ body, s.withLogin deviceId a body = body { s with mgr := mgr } login := by
  obtain ⟨p, mgr, hp, hlogin⟩ := h
  refine ⟨mgr, fun body => ?_⟩
  rw [withLogin, lookupLogin, hp]
  dsimp only
  rw [hlogin]
  rfl

lemma failuresReachPeer_of_one {s s' : Server} {env : Env} {r : SdkRequest} {login : LoginResults}
    {a : TaskInput} {c : SdkResult} {code : ℤ} (hresults : r.results env login a = [c])
    (hanswer : s.AnsweredWith s' code) (hok : c.ok = true → code = 0) :
    s.FailuresReachPeer s' env r login a ↔ (c.ok = true ∨ r.Excused env c ∨ code ≠ 0) := by
  constructor
  · intro h
    by_contra hno
    push Not at hno
    obtain ⟨hfail, hexc, hcode⟩ := hno
    obtain ⟨code', hne, hanswer'⟩ := h.failure
      ⟨c, hresults ▸ List.mem_singleton_self c, by simpa using hfail, hexc⟩
    exact hne (answeredWith_unique hanswer' hanswer ▸ hcode)
  · intro h
    constructor
    · rintro ⟨c', hc', hfail, hexc⟩
      rw [hresults, List.mem_singleton] at hc'
      subst hc'
      refine ⟨code, ?_, hanswer⟩
      rcases h with h | h | h
      · exact absurd (h.symm.trans hfail) (by simp)
      · exact absurd h hexc
      · exact h
    · intro _ hall
      have hc : c.ok = true := hall c (hresults ▸ List.mem_singleton_self c)
      exact hok hc ▸ hanswer

/-- A handler that answers with `0` whatever its calls returned. -/
lemma failuresReachPeer_of_zero {s s' : Server} {env : Env} {r : SdkRequest} {login : LoginResults}
    {a : TaskInput} (hexc : ∀ c, ¬ r.Excused env c) (hanswer : s.AnsweredWith s' 0) :
    s.FailuresReachPeer s' env r login a ↔ ∀ c ∈ r.results env login a, c.ok = true := by
  constructor
  · intro h c hc
    by_contra hfail
    obtain ⟨code, hne, hanswer'⟩ := h.failure ⟨c, hc, by simpa using hfail, hexc c⟩
    exact hne (answeredWith_unique hanswer' hanswer)
  · intro hall
    constructor
    · rintro ⟨c, hc, hfail, -⟩
      exact absurd ((hall c hc).symm.trans hfail) (by simp)
    · exact fun _ _ => hanswer

lemma failuresReachPeer_of_none {s s' : Server} {env : Env} {r : SdkRequest} {login : LoginResults}
    {a : TaskInput} (h : r.results env login a = []) : s.FailuresReachPeer s' env r login a where
  failure := by
    rintro ⟨c, hc, -⟩
    exact absurd (h ▸ hc) List.not_mem_nil
  success := fun hne => absurd h hne

end Server

/-- The list has an entry for every channel, also where a call failed. -/
lemma getCameraList_length {env : Env} {login : LoginResults} (a : CameraAnswers)
    (h : ¬ (login.chanNum ≤ 0 ∨ env.maxDevices < login.chanNum)) :
    ∃ ret list calls, getCameraList env login a = .ok (ret, list, calls) ∧ list.length ≠ 0 := by
  have hzero : ¬ login.chanNum = 0 := by omega
  have hneg : ¬ login.chanNum < 0 := by omega
  have hmax : ¬ env.maxDevices < login.chanNum := fun hlt => h (Or.inr hlt)
  have hlen : login.chanNum.toNat ≠ 0 := by omega
  simp only [getCameraList, if_neg hzero, if_neg hneg, if_neg hmax]
  split
  · exact ⟨_, _, _, rfl, by simpa using hlen⟩
  · split
    · exact ⟨_, _, _, rfl, by simpa using hlen⟩
    · exact ⟨_, _, _, rfl, by simpa using hlen⟩

/-- The returned value of `ptz_control`: an error only for presets. -/
lemma ptzControl_ret (env : Env) (tempPtzCmd : ℕ) (login : LoginResults) (ptz : PtzCMD)
    (a : SdkResult) :
    (ptzControl env tempPtzCmd login ptz a).1 =
      if ptz.contrlCmd = 130 ∨ ptz.contrlCmd = 129 ∨ ptz.contrlCmd = 131 then
        if a.ok then 0 else dhSdkGetLastError a.lastError
      else 0 := by
  by_cases h : ptz.contrlCmd = 130 ∨ ptz.contrlCmd = 129 ∨ ptz.contrlCmd = 131
  · have hit : (xhToDhPtzBaseCmd.lookup ptz.contrlCmd).isSome := by
      rcases h with h | h | h <;> rw [h] <;> rfl
    rw [if_pos h, ptzControl]
    simp only [if_pos (And.intro hit h)]
  · rw [if_neg h, ptzControl]
    simp only [if_neg fun hand => h (And.right hand)]

lemma queryPtzPreset_ret (login : LoginResults) (channel : ℤ) (mem : Preset) (a : PresetAnswers) :
    (queryPtzPreset login channel mem a).1 =
      if a.result.ok then 0 else dhSdkGetLastError a.result.lastError := by
  rw [queryPtzPreset]
  cases a.result.ok <;> rfl

/-- The returned value of `query_record_file` for a window of two times. -/
lemma queryRecordFile_ret (env : Env) (login : LoginResults) (channel : ℤ) {start end' : String}
    (locals : QueryLocals) (mem : Record) (a : RecordAnswers)
    (h : ¬ ((Scan.getTime Scan.dashed start).2 ∨ (Scan.getTime Scan.dashed end').2)) :
    (queryRecordFile env login channel start end' locals mem a).1 =
      if a.result.ok ∨ env.netNetworkError = dhSdkGetLastError a.result.lastError then 0
      else dhSdkGetLastError a.result.lastError := by
  have hs : ¬ (Scan.getTime Scan.dashed start).2 = true := fun hs => h (Or.inl hs)
  have he : ¬ (Scan.getTime Scan.dashed end').2 = true := fun he => h (Or.inr he)
  simp only [queryRecordFile, if_neg hs, if_neg he]
  cases hok : a.result.ok with
  | true => simp
  | false =>
    by_cases hnet : env.netNetworkError = dhSdkGetLastError a.result.lastError
    · simp [hnet]
    · simp [hnet]

namespace Server

variable {env : Env} {s : Server} {doc : Document} {a : TaskInput} {login : LoginResults}

lemma channelSync_failures_iff {platform : Platform}
    (hread : (SdkRequest.channelSync platform).ReadFrom doc a)
    (hlogin : s.LoggedIn platform.deviceId a login) :
    s.FailuresReachPeer (channelSync env s doc a).1 env (.channelSync platform) login a ↔
      ∀ c ∈ (SdkRequest.channelSync platform).results env login a, c.ok = true := by
  by_cases hnum : login.chanNum ≤ 0 ∨ env.maxDevices < login.chanNum
  · -- no call is made for a count that is no number of channels
    have hnone : (SdkRequest.channelSync platform).results env login a = [] := if_pos hnum
    refine iff_of_true (failuresReachPeer_of_none hnone) ?_
    rw [hnone]
    exact fun c hc => absurd hc List.not_mem_nil
  · -- the code tells only whether the list is empty, and its entries are there in any case
    refine failuresReachPeer_of_zero (r := .channelSync platform) (fun _ => not_false) ?_
    obtain ⟨ret, list, calls, hlist, hlen⟩ := getCameraList_length a.cameras hnum
    obtain ⟨mgr, hrun⟩ := withLogin_of_loggedIn hlogin
    have hplatform : (parsDeviceSync doc (Platform.new a.newId)).2 = platform := hread
    rw [channelSync]
    simp only [hplatform, hrun, hlist]
    refine ⟨_, rfl, ?_⟩
    rw [Config.channelSync_code, if_neg hlen]

/-- The handlers whose parser does not check what it reads: they answer with the code that their
function of `sdk_wrap` returned. -/
lemma withParsed_answers {α : Type} {parsed : Except Json.Fault (Bool × α)} {v : α} {d : α → String}
    (hread : ∃ b, parsed = .ok (b, v)) (hlogin : s.LoggedIn (d v) a login)
    {body : α → Server → LoginResults → Server × TaskEnd} {code : ℤ}
    (hbody : ∀ mgr, s.AnsweredWith (body v { s with mgr := mgr } login).1 code) :
    s.AnsweredWith (s.withParsed parsed fun v => s.withLogin (d v) a (body v)).1 code := by
  obtain ⟨b, hparsed⟩ := hread
  obtain ⟨mgr, hrun⟩ := withLogin_of_loggedIn hlogin
  rw [hparsed, withParsed, hrun]
  exact hbody mgr

lemma channelPtzControl_failures_iff {ptz : PtzCMD}
    (hread : (SdkRequest.channelPtzControl ptz).ReadFrom doc a)
    (hlogin : s.LoggedIn ptz.deviceId a login)
    (herr : a.ptz.ok = false → dhSdkGetLastError a.ptz.lastError ≠ 0) :
    s.FailuresReachPeer (channelPtzControl env s doc a).1 env (.channelPtzControl ptz) login a ↔
      (SdkRequest.channelPtzControl ptz).Relayed env login a := by
  have hanswer : s.AnsweredWith (channelPtzControl env s doc a).1
      (ptzControl env s.tempPtzCmd login ptz a.ptz).1 :=
    withParsed_answers (d := PtzCMD.deviceId) hread hlogin fun mgr => ⟨_, rfl, rfl⟩
  rw [ptzControl_ret] at hanswer
  refine (failuresReachPeer_of_one rfl hanswer ?_).trans ?_
  · intro hok
    simp [hok]
  · by_cases hpreset : ptz.contrlCmd = 130 ∨ ptz.contrlCmd = 129 ∨ ptz.contrlCmd = 131
    · refine iff_of_true ?_ (Or.inr hpreset)
      cases hok : a.ptz.ok with
      | true => exact Or.inl rfl
      | false => exact Or.inr (Or.inr (by simpa [hpreset] using herr hok))
    · -- the error of a movement is not returned
      rw [if_neg hpreset]
      constructor
      · rintro (hok | hexc | hne)
        · exact Or.inl hok
        · exact absurd hexc not_false
        · exact absurd rfl hne
      · exact fun h => Or.inl (h.resolve_right hpreset)

lemma channelPtzPreset_failures {preset : Preset}
    (hread : (SdkRequest.channelPtzPreset preset).ReadFrom doc a)
    (hlogin : s.LoggedIn preset.deviceId a login)
    (herr : a.presets.result.ok = false → dhSdkGetLastError a.presets.result.lastError ≠ 0) :
    s.FailuresReachPeer (channelPtzPreset env s doc a).1 env (.channelPtzPreset preset) login
      a := by
  have hanswer : s.AnsweredWith (channelPtzPreset env s doc a).1
      (queryPtzPreset login preset.channel a.presetMem a.presets).1 :=
    withParsed_answers (d := Preset.deviceId) hread hlogin fun mgr => ⟨_, rfl, rfl⟩
  rw [queryPtzPreset_ret] at hanswer
  refine (failuresReachPeer_of_one rfl hanswer ?_).mpr ?_
  · intro hok
    simp [hok]
  · cases hok : a.presets.result.ok with
    | true => exact Or.inl rfl
    | false => exact Or.inr (Or.inr (by simpa using herr hok))

lemma channelRecordInfo_failures {record : Record}
    (hread : (SdkRequest.channelRecordInfo record).ReadFrom doc a)
    (hlogin : s.LoggedIn record.deviceId a login)
    (herr : ∀ c ∈ (SdkRequest.channelRecordInfo record).results env login a, c.ok = false →
      dhSdkGetLastError c.lastError ≠ 0) :
    s.FailuresReachPeer (channelRecordInfo env s doc a).1 env (.channelRecordInfo record) login
      a := by
  by_cases hwindow : (Scan.getTime Scan.dashed record.startTime).2 ∨
      (Scan.getTime Scan.dashed record.endTime).2
  · exact failuresReachPeer_of_none (if_pos hwindow)
  · have hone : (SdkRequest.channelRecordInfo record).results env login a = [a.records.result] :=
      if_neg hwindow
    have hanswer : s.AnsweredWith (channelRecordInfo env s doc a).1
        (queryRecordFile env login record.channel record.startTime record.endTime a.locals
          a.recordMem a.records).1 :=
      withParsed_answers (d := Record.deviceId) hread hlogin fun mgr => ⟨_, rfl, rfl⟩
    rw [queryRecordFile_ret env login record.channel a.locals a.recordMem a.records hwindow]
      at hanswer
    refine (failuresReachPeer_of_one hone hanswer ?_).mpr ?_
    · intro hok
      simp [hok]
    · have herr' := herr a.records.result (hone ▸ List.mem_singleton_self _)
      cases hok : a.records.result.ok with
      | true => exact Or.inl rfl
      | false =>
        by_cases hnet : env.netNetworkError = dhSdkGetLastError a.records.result.lastError
        · -- the timeout, which is a success by design
          exact Or.inr (Or.inl hnet)
        · exact Or.inr (Or.inr (by simpa [hnet] using herr' hok))

/-- Whether failures of the SDK reach the peer: for a list of cameras if no call failed, for a
camera's movement if the call succeeded, and for presets and records in every case. -/
theorem sdk_failures_reach_peer_iff (env : Env) (s : Server) (doc : Document) (a : TaskInput)
    (login : LoginResults) (r : SdkRequest) (hread : r.ReadFrom doc a)
    (hlogin : s.LoggedIn r.deviceId a login)
    (herr : ∀ c ∈ r.results env login a, c.ok = false → dhSdkGetLastError c.lastError ≠ 0) :
    s.FailuresReachPeer (dispatch env s doc a r.msgType).1 env r login a ↔
      r.Relayed env login a := by
  cases r with
  | channelSync platform => exact channelSync_failures_iff hread hlogin
  | channelPtzControl ptz =>
    exact channelPtzControl_failures_iff hread hlogin (herr a.ptz (List.mem_singleton_self _))
  | channelPtzPreset preset =>
    have herr' := herr a.presets.result (List.mem_singleton_self _)
    exact iff_of_true (channelPtzPreset_failures hread hlogin herr') trivial
  | channelRecordInfo record =>
    exact iff_of_true (channelRecordInfo_failures hread hlogin herr) trivial

def oneRecorder : Server :=
  { Server.fresh with
    registry := Server.fresh.registry.addPlatform Env.plain.xpack true
      { Platform.new "17" with ip := "172.20.0.245", port := 37777, username := "admin" } }

/-- The login succeeds, and every other call fails with the error 1. -/
def failing : TaskInput :=
  { TaskInput.silent with
    login := ⟨100, 0, 4⟩
    cameras := { TaskInput.silent.cameras with getDevConfig := ⟨false, 1⟩ }
    ptz := ⟨false, 1⟩
    presets := ⟨⟨false, 1⟩, [], Nat.zero_le _⟩ }

def recorderLogin : LoginResults :=
  ⟨100, 4, 1, "172.20.0.245:37777:admin"⟩

def listChannels : Document :=
  some (.obj [("msgId", .str "72"), ("msgType", .str "CHANNEL_SYNC"),
    ("data", .obj [("deviceId", .str "17")])])

def moveCamera : Document :=
  some (.obj [("code", .num 0), ("msgId", .str "71"), ("msgType", .str "CHANNEL_PTZ_CONTROL"),
    ("data", .obj [("deviceId", .str "17"), ("channelId", .str "17#3"),
      ("dataMap", .obj [("cmdCode", .num 8), ("cmdValue", .num 5)])])])

def listPresets : Document :=
  some (.obj [("msgId", .str "73"), ("msgType", .str "CHANNEL_PTZ_PRESET"),
    ("data", .obj [("deviceId", .str "17"), ("channelId", .str "17#3")])])

theorem sdk_failures_reach_peer_presets :
    oneRecorder.FailuresReachPeer
      (dispatch Env.plain oneRecorder listPresets failing .channelPtzPreset).1 Env.plain
      (.channelPtzPreset ⟨"CHANNEL_PTZ_PRESET", "73", "17", 3, 0, ""⟩) recorderLogin failing := by
  refine (sdk_failures_reach_peer_iff Env.plain oneRecorder listPresets failing recorderLogin
    (.channelPtzPreset ⟨"CHANNEL_PTZ_PRESET", "73", "17", 3, 0, ""⟩) ⟨true, rfl⟩
    ⟨_, _, rfl, rfl⟩ ?_).mpr trivial
  intro c hc _
  rw [List.mem_singleton.mp hc]
  decide

/-- A list of channels that could not be got, and a movement that was refused, are answered with
the code 0. -/
theorem sdk_failures_dropped :
    oneRecorder.LoggedIn "17" failing recorderLogin ∧
      (SdkRequest.channelSync { Platform.new "17" with msgId := "72" }).ReadFrom listChannels
        failing ∧
      ¬ oneRecorder.FailuresReachPeer
        (dispatch Env.plain oneRecorder listChannels failing .channelSync).1 Env.plain
        (.channelSync { Platform.new "17" with msgId := "72" }) recorderLogin failing ∧
      (SdkRequest.channelPtzControl ⟨"CHANNEL_PTZ_CONTROL", "71", "17", 3, 8, 5, false⟩).ReadFrom
        moveCamera failing ∧
      ¬ oneRecorder.FailuresReachPeer
        (dispatch Env.plain oneRecorder moveCamera failing .channelPtzControl).1 Env.plain
        (.channelPtzControl ⟨"CHANNEL_PTZ_CONTROL", "71", "17", 3, 8, 5, false⟩) recorderLogin
        failing := by
  refine ⟨⟨_, _, rfl, rfl⟩, rfl, ?_, ⟨false, rfl⟩, ?_⟩
  · intro h
    obtain ⟨code, hne, hanswer⟩ :=
      h.failure ⟨⟨false, 1⟩, List.mem_singleton_self _, rfl, not_false⟩
    exact hne (answeredWith_unique hanswer ⟨_, rfl, rfl⟩)
  · intro h
    obtain ⟨code, hne, hanswer⟩ :=
      h.failure ⟨⟨false, 1⟩, List.mem_singleton_self _, rfl, not_false⟩
    exact hne (answeredWith_unique hanswer ⟨_, rfl, rfl⟩)

end Server

end DHGateway
