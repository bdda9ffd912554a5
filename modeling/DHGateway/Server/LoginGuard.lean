import DHGateway.Server.Handlers

/-!
# Requests for a device that is not logged in

Six handlers look a recorder up, log in and go on with the `LoginResults` whatever came of it. A
failed login leaves there what the storage held, apart from the handle. What follows is found out
for each of them: only `device_add` looks at the result.
-/

namespace DHGateway

/-- The handlers that look up a recorder and log in. -/
inductive Guarded where
  | channelSync
  | channelPtzControl
  | channelPtzPreset
  | channelPlay
  | channelRecordInfo
  | channelPlayback
  deriving DecidableEq

namespace Server

/-- The recorder is not registered, or `connet_equipment` returns a value other than `0`. -/
def LoginFails (s : Server) (deviceId : String) (a : TaskInput) : Prop :=
  s.registry.getPlatform deviceId = none ∨
    ∃ p n, s.registry.getPlatform deviceId = some p ∧
      (s.mgr.connetEquipment p.credentials a.results a.login).1 = .ok n ∧ n ≠ 0

/-- After a failed lookup or login a handler goes on with the channel count that the storage
held. -/
lemma lookupLogin_of_fails {s : Server} {deviceId : String} {a : TaskInput}
    (h : s.LoginFails deviceId a) :
    ∃ results, s.lookupLogin deviceId a = (.ok results, s) ∧
      results.chanNum = a.results.chanNum := by
  rcases h with hnone | ⟨p, n, hp, hret, hn⟩
  · refine ⟨a.results, ?_, rfl⟩
    rw [lookupLogin, hnone]
  · refine ⟨{ a.results with handle := 0 }, ?_, rfl⟩
    -- a login that succeeds returns 0, which this one does not
    have hzero : ∀ {r : LoginOutcome}, r.result = .ok true →
        (r.result.map fun ok => if !ok then (1 : ℤ) else 0) ≠ .ok n := by
      intro r hr heq
      rw [hr] at heq
      exact hn (Except.ok.inj heq).symm
    -- so the cache has none for the recorder, and `CLIENT_LoginWithHighLevelSecurity` is called
    have hmem : p.credentials.key ∉ s.mgr.equipmentMap := by
      intro hmem
      obtain ⟨it, hit⟩ := EquipmentMgr.mem_equipmentMap.mp hmem
      refine hzero ?_ hret
      rw [EquipmentMgr.login_cached hit]
    have hhandle : a.login.handle = 0 := by
      by_contra hne
      refine hzero ?_ hret
      rw [EquipmentMgr.login_accepted hmem hne]
    simp only [lookupLogin, hp, EquipmentMgr.connetEquipment] at hret ⊢
    rw [EquipmentMgr.login_refused hmem hhandle] at hret ⊢
    -- the result of an error without a text is that of `at`, which throws
    cases hl : loginErrMsg.lookup a.login.nError with
    | none =>
      rw [hl] at hret
      exact absurd hret (by simp [Except.map])
    | some text => rfl

lemma withLogin_of_fails {s : Server} {deviceId : String} {a : TaskInput}
    (h : s.LoginFails deviceId a) :
    ∃ results, (∀ body, s.withLogin deviceId a body = body s results) ∧
      results.chanNum = a.results.chanNum := by
  obtain ⟨results, hlogin, hnum⟩ := lookupLogin_of_fails h
  refine ⟨results, fun body => ?_, hnum⟩
  rw [withLogin, hlogin]

/-- Between two states no device operation was made, and the messages that were sent carry a code
other than `0`. -/
structure NoOperation (s s' : Server) : Prop where
  calls : s'.calls = s.calls
  codes : ∀ m ∈ s'.sent.drop s.sent.length, m.member "code" ≠ some (.num 0)

lemma NoOperation.refl (s : Server) : s.NoOperation s :=
  ⟨rfl, by simp⟩

lemma noOperation_iff_of_sent {s s' : Server} (cs : List DeviceCall)
    (hcalls : s'.calls = s.calls ++ cs) (hsent : s'.sent = s.sent) :
    s.NoOperation s' ↔ cs = [] := by
  constructor
  · intro h
    simpa [hcalls] using h.calls
  · rintro rfl
    exact ⟨by simpa using hcalls, by simp [hsent]⟩

lemma noOperation_iff_of_send {s s' : Server} (cs : List DeviceCall) {m : Json}
    (hcalls : s'.calls = s.calls ++ cs) (hsent : s'.sent = s.sent ++ [m]) :
    s.NoOperation s' ↔ cs = [] ∧ m.member "code" ≠ some (.num 0) := by
  constructor
  · intro h
    refine ⟨by simpa [hcalls] using h.calls, h.codes m ?_⟩
    simp [hsent]
  · rintro ⟨rfl, hm⟩
    refine ⟨by simpa using hcalls, ?_⟩
    simpa [hsent] using hm

end Server

namespace Guarded

open Server

def run (g : Guarded) (env : Env) (s : Server) (doc : Document) (a : TaskInput) :
    Server × TaskEnd :=
  match g with
  | channelSync => s.channelSync env doc a
  | channelPtzControl => s.channelPtzControl env doc a
  | channelPtzPreset => s.channelPtzPreset env doc a
  | channelPlay => s.channelPlay doc a
  | channelRecordInfo => s.channelRecordInfo env doc a
  | channelPlayback => s.channelPlayback doc a

def deviceId (g : Guarded) (doc : Document) (a : TaskInput) : Except Json.Fault String :=
  match g with
  | channelSync => .ok (parsDeviceSync doc (Platform.new a.newId)).2.deviceId
  | channelPtzControl => (parsPtzControl doc (PtzCMD.new a.ptzMem)).map fun r => r.2.deviceId
  | channelPtzPreset => (parsPtzPreset doc (Preset.new a.presetMem)).map fun r => r.2.deviceId
  | channelPlay => (parsChannelPlay doc (Play.new a.playMem)).map fun r => r.2.deviceId
  | channelRecordInfo =>
    (parsChannelRecordInfo doc (Record.new a.recordMem)).map fun r => r.2.deviceId
  | channelPlayback =>
    (parsChannelPlayback doc (Record.new a.recordMem)).map fun r => r.2.deviceId

/-- When the handler makes no operation after a failed login: for a channel count in the storage
that lists nothing, for a stream that has a session, and for a window that is no time; a camera is
moved and presets are queried in every case. -/
def Harmless (g : Guarded) (env : Env) (s : Server) (doc : Document) (a : TaskInput) : Prop :=
  match g with
  | channelSync => a.results.chanNum ≤ 0 ∨ env.maxDevices < a.results.chanNum
  | channelPtzControl | channelPtzPreset => False
  | channelPlay =>
    ∀ r, parsChannelPlay doc (Play.new a.playMem) = .ok r → r.2.streamId ∈ s.sessions
  | channelRecordInfo =>
    ∀ r, parsChannelRecordInfo doc (Record.new a.recordMem) = .ok r →
      (Scan.getTime Scan.dashed r.2.startTime).2 = true ∨
        (Scan.getTime Scan.dashed r.2.endTime).2 = true
  | channelPlayback =>
    ∀ r, parsChannelPlayback doc (Record.new a.recordMem) = .ok r → r.2.streamId ∈ s.sessions

variable {env : Env} {s : Server} {doc : Document} {a : TaskInput}

lemma channelSync_guards_iff
    (h : s.LoginFails (parsDeviceSync doc (Platform.new a.newId)).2.deviceId a) :
    s.NoOperation (s.channelSync env doc a).1 ↔ channelSync.Harmless env s doc a := by
  obtain ⟨results, hrun, hnum⟩ := withLogin_of_fails h
  have hsync : s.channelSync env doc a = _ := hrun _
  rw [hsync, Harmless, ← hnum]
  by_cases h0 : results.chanNum = 0
  · rw [getCameraList_of_zero a.cameras h0]
    refine iff_of_true ((noOperation_iff_of_send [] (by simp) rfl).mpr ⟨rfl, ?_⟩) (by omega)
    simp [Config.channelSync_code]
  · by_cases hbad : results.chanNum < 0 ∨ env.maxDevices < results.chanNum
    · -- the arrays for so many channels cannot be made, and the handler ends before it asks
      obtain ⟨e, he⟩ := getCameraList_of_invalid a.cameras (hbad.imp_right fun h => ⟨h0, h⟩)
      rw [he]
      exact iff_of_true (NoOperation.refl s) (by omega)
    · obtain ⟨ret, list, cs, hlist⟩ := getCameraList_of_pos a.cameras
        (show 0 < results.chanNum by omega) (show results.chanNum ≤ env.maxDevices by omega)
      rw [hlist]
      refine iff_of_false (fun hno => ?_) (by omega)
      exact List.cons_ne_nil _ _ ((noOperation_iff_of_send _ rfl rfl).mp hno).1

/-- The handlers whose parser does not check what it reads: `P` says when what they do after the
login is no operation. -/
lemma withParsed_guards_iff {α : Type} {parsed : Except Json.Fault (Bool × α)} {id : α → String}
    {body : α → Server → LoginResults → Server × TaskEnd} {P : Prop}
    (h : ∀ r, parsed = .ok r → s.LoginFails (id r.2) a)
    (hbody : ∀ r results, parsed = .ok r → (s.NoOperation (body r.2 s results).1 ↔ P)) :
    s.NoOperation (s.withParsed parsed fun v => s.withLogin (id v) a (body v)).1 ↔
      (∃ f, parsed.map (fun r => id r.2) = .error f) ∨ P := by
  cases hp : parsed with
  | error f => exact iff_of_true (NoOperation.refl s) (Or.inl ⟨f, rfl⟩)
  | ok r =>
    obtain ⟨results, hrun, _⟩ := withLogin_of_fails (h r hp)
    show s.NoOperation (s.withLogin (id r.2) a (body r.2)).1 ↔ _
    rw [hrun, hbody r results hp]
    exact ⟨Or.inr, fun h => h.resolve_left (by rintro ⟨f, ⟨⟩⟩)⟩

/-- A list of records: a window that is no time is answered with the code `1`. -/
lemma channelRecordInfo_guards_iff
    (h : ∀ r, parsChannelRecordInfo doc (Record.new a.recordMem) = .ok r →
      s.LoginFails r.2.deviceId a) :
    s.NoOperation (s.channelRecordInfo env doc a).1 ↔
      (∃ f, channelRecordInfo.deviceId doc a = .error f) ∨
        channelRecordInfo.Harmless env s doc a := by
  apply withParsed_guards_iff h
  intro r results hr
  rw [Harmless, Json.forall_ok_iff hr fun r => (Scan.getTime Scan.dashed r.2.startTime).2 = true ∨
    (Scan.getTime Scan.dashed r.2.endTime).2 = true]
  have hquery := queryRecordFile_cases env results r.2.channel r.2.startTime r.2.endTime a.locals
    a.recordMem a.records
  generalize queryRecordFile env results r.2.channel r.2.startTime r.2.endTime a.locals
    a.recordMem a.records = q at hquery ⊢
  obtain ⟨val, list, calls⟩ := q
  refine Iff.trans (noOperation_iff_of_send calls rfl rfl) ?_
  rw [Config.responseRecordList_code]
  -- the query ends before its call when one of the two texts is no time
  rcases hquery with ⟨hfail, hret⟩ | ⟨hfail, hcalls⟩
  · cases hret
    exact iff_of_true ⟨rfl, by simp⟩ hfail
  · exact iff_of_false (fun hno => hcalls hno.1) hfail

/-- After a failed lookup or login a handler makes no device operation and gives no answer of
success exactly when its message cannot be read or it is harmless. -/
theorem guards_iff (g : Guarded) (env : Env) (s : Server) (doc : Document) (a : TaskInput)
    (h : ∀ k, g.deviceId doc a = .ok k → s.LoginFails k a) :
    s.NoOperation (g.run env s doc a).1 ↔
      (∃ f, g.deviceId doc a = .error f) ∨ g.Harmless env s doc a := by
  have hmap : ∀ {α : Type} {parsed : Except Json.Fault (Bool × α)} {id : α → String},
      (∀ k, parsed.map (fun r => id r.2) = .ok k → s.LoginFails k a) →
      ∀ r, parsed = .ok r → s.LoginFails (id r.2) a := by
    intro α parsed id h r hr
    exact h _ (by rw [hr]; rfl)
  cases g with
  | channelSync =>
    rw [run, channelSync_guards_iff (h _ rfl)]
    exact ⟨Or.inr, fun h => h.resolve_left (by rintro ⟨f, ⟨⟩⟩)⟩
  | channelPtzControl =>
    apply withParsed_guards_iff (hmap h)
    intro r results _
    -- the handle is not looked at before the call
    refine iff_of_false (fun hno => ?_) not_false
    exact ptzControl_calls env _ _ _ _ ((noOperation_iff_of_send _ rfl rfl).mp hno).1
  | channelPtzPreset =>
    apply withParsed_guards_iff (hmap h)
    intro r results _
    refine iff_of_false (fun hno => ?_) not_false
    exact queryPtzPreset_calls _ _ _ _ ((noOperation_iff_of_send _ rfl rfl).mp hno).1
  | channelPlay =>
    apply withParsed_guards_iff (hmap h)
    intro r results hr
    rw [Harmless, Json.forall_ok_iff hr fun r => r.2.streamId ∈ s.sessions]
    refine Iff.trans (noOperation_iff_of_sent _ rfl rfl) ?_
    -- a stream that is there is answered without a call
    rw [startRealStream_calls]
  | channelRecordInfo => exact channelRecordInfo_guards_iff (hmap h)
  | channelPlayback =>
    apply withParsed_guards_iff (hmap h)
    intro r results hr
    rw [Harmless, Json.forall_ok_iff hr fun r => r.2.streamId ∈ s.sessions]
    refine Iff.trans (noOperation_iff_of_sent _ rfl rfl) ?_
    rw [startPlayBack_calls]

/-- A request to move the camera of a recorder that is not registered. -/
def moveUp : Document :=
  some (.obj [("code", .num 0), ("msgId", .str "71"), ("msgType", .str "CHANNEL_PTZ_CONTROL"),
    ("data", .obj [("deviceId", .str "17"), ("channelId", .str "17#3"),
      ("dataMap", .obj [("cmdCode", .num 8), ("cmdValue", .num 5)])])])

def stale : TaskInput :=
  { TaskInput.silent with results := ⟨77, 4, 0, ""⟩ }

/-- The camera is moved under the handle that the storage held, and the answer is a success. -/
theorem unknown_device_is_moved :
    Server.fresh.LoginFails "17" stale ∧ channelPtzControl.deviceId moveUp stale = .ok "17" ∧
      (channelPtzControl.run Env.plain Server.fresh moveUp stale).1.calls =
        [.ptzControlEx2 77 3 0 5 false] ∧
      (channelPtzControl.run Env.plain Server.fresh moveUp stale).1.sent =
        [Env.plain.response "71" 0 "CHANNEL_PTZ_CONTROL" "2023-11-23 18:14:22"] ∧
      ¬ Server.fresh.NoOperation
        (channelPtzControl.run Env.plain Server.fresh moveUp stale).1 := by
  refine ⟨Or.inl rfl, rfl, rfl, rfl, fun hno => ?_⟩
  exact List.cons_ne_nil _ _ hno.calls

theorem guards_iff_unknown_device :
    (∀ k, channelPtzControl.deviceId moveUp stale = .ok k → Server.fresh.LoginFails k stale) ∧
      (Server.fresh.NoOperation (channelPtzControl.run Env.plain Server.fresh moveUp stale).1 ↔
        (∃ f, channelPtzControl.deviceId moveUp stale = .error f) ∨
          channelPtzControl.Harmless Env.plain Server.fresh moveUp stale) := by
  have hfails : ∀ k, channelPtzControl.deviceId moveUp stale = .ok k →
      Server.fresh.LoginFails k stale := fun k _ => Or.inl rfl
  exact ⟨hfails, guards_iff channelPtzControl Env.plain Server.fresh moveUp stale hfails⟩

end Guarded

end DHGateway
