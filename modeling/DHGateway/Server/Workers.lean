import DHGateway.Core.Program
import DHGateway.Server.Announce

/-!
# Requests handled at once

The handlers as programs of the pool's workers, which interleave at accesses to shared state, at
calls of the SDKs, at `Sleep` and at `send_business_queueEx`; the loop at the end of `start_server`
runs beside them. A stream operation is one section here. Run alone, each program does what its
handler does.
-/

namespace DHGateway

open Json Config

/-- What a section of a task is. The answer of a `device_add` with a login that succeeded is told
apart, with the identifier of the device. -/
inductive Section where
  | memory
  | sdk
  | sleep
  | send
  | answerAdded (deviceId : String)

/-- A task of the pool for a message, or the loop at the end of `start_server`. -/
inductive PoolTask where
  | message (doc : Document) (a : TaskInput)
  | upload (signInTime : String)

abbrev Task := Program Server Section

namespace Task

/-! ### What the handlers share -/

/-- `send_business_queueEx`, with which most handlers end. -/
def sending (m : Json) : Task :=
  .act .send (fun s => s.send m) fun _ => .done

def calling (calls : List DeviceCall) (next : Task) : Task :=
  .act .sdk (fun s => s.call calls) fun _ => next

/-- `connet_equipment`. -/
def connecting (c : Credentials) (a : TaskInput) (body : ℤ → LoginResults → Task) : Task :=
  .act .sdk (fun s => { s with mgr := (s.mgr.connetEquipment c a.results a.login).2.1 }) fun s =>
    match s.mgr.connetEquipment c a.results a.login with
    | (.error _, _, _) => .done
    | (.ok ret, _, results) => body ret results

/-- `get_platform` and, if it finds the recorder, `connet_equipment`. -/
def lookingUp (deviceId : String) (a : TaskInput) (body : LoginResults → Task) : Task :=
  .act .memory id fun s =>
    match s.registry.getPlatform deviceId with
    | none => body a.results
    | some platform => connecting platform.credentials a fun _ results => body results

def parsed {α : Type} (parsed : Except Json.Fault (Bool × α)) (body : α → Task) : Task :=
  match parsed with
  | .error _ => .done
  | .ok (_, v) => body v

variable (env : Env) (doc : Document) (a : TaskInput)

/-- A `DEVICE_SIGN_IN`, which takes the next number. -/
def signingIn (platform : Platform) (signInTime : String) (next : Task) : Task :=
  .act .send (fun s =>
    let (json, msgId) := env.deviceAddStep2 platform s.msgId signInTime
    { s.send json with msgId := msgId }) fun _ => next

/-! ### The handlers -/

/-- `server_manage::channel_sync`. -/
def channelSync : Task :=
  let (_, tempPlatform) := parsDeviceSync doc (Platform.new a.newId)
  lookingUp tempPlatform.deviceId a fun results =>
    match getCameraList env results a.cameras with
    | .error _ => .done
    | .ok (_, tempList, calls) =>
      calling calls (sending (env.channelSync tempList tempPlatform a.time))

/-- The end of `device_add` after a login that succeeded: the answer, a second's sleep, the sign-in,
and only then `add_platform`. -/
def announcing (platform : Platform) : Task :=
  .act (.answerAdded platform.deviceId)
    (fun s => s.send (env.deviceAddStep1 platform a.time)) fun _ =>
  .act .sleep id fun _ =>
  signingIn env platform a.signInTime <|
  .act .memory
    (fun s => { s with registry := s.registry.addPlatform env.xpack a.fileOpens platform })
    fun _ => .done

/-- `server_manage::device_add`. -/
def deviceAdd : Task :=
  let (_, platform) := parsDeviceAdd doc (Platform.new a.newId)
  if platform.ip = "" then .done
  else
    connecting platform.credentials a fun ret _ =>
      let platform := { platform with loginResults := ret }
      if platform.loginResults ≠ 0 then
        sending (env.deviceAddStep1 { platform with loginErrMsg := "login fail" } a.time)
      else announcing env a platform

/-- `server_manage::device_total_sync`. -/
def deviceTotalSync : Task :=
  let (_, msgId) := parsDeviceTotalSync doc ""
  .act .memory id fun s =>
    sending (env.deviceTotalSync s.registry.platformList.platforms msgId a.times)

/-- The handlers that read the message and answer with the code `0`. -/
def acknowledge (msgType : String) : Task :=
  let (_, platform) := parsDeviceDeleteSoft doc (Platform.new a.newId)
  sending (env.response platform.msgId 0 msgType a.time)

/-- `server_manage::device_delete_soft`. -/
def deviceDeleteSoft : Task :=
  let (_, platform) := parsDeviceDeleteSoft doc (Platform.new a.newId)
  .act .memory (fun s => { s with
    registry := (s.registry.delPlatform env.xpack a.fileOpens platform.deviceId).2 }) fun _ =>
  sending (env.response platform.msgId 0 "DEVICE_DELETE_SOFT" a.time)

/-- `server_manage::channel_ptz_control`. -/
def channelPtzControl : Task :=
  parsed (parsPtzControl doc (PtzCMD.new a.ptzMem)) fun ptz =>
  lookingUp ptz.deviceId a fun results =>
  .act .sdk (fun s =>
    let (_, tempPtzCmd, calls) := ptzControl env s.tempPtzCmd results ptz a.ptz
    { s.call calls with tempPtzCmd := tempPtzCmd }) fun s =>
  sending (env.response ptz.msgId (ptzControl env s.tempPtzCmd results ptz a.ptz).1 ptz.msgType
    a.time)

/-- `server_manage::channel_ptz_preset`. -/
def channelPtzPreset : Task :=
  parsed (parsPtzPreset doc (Preset.new a.presetMem)) fun temp =>
  lookingUp temp.deviceId a fun results =>
    let (val, tempList, calls) := queryPtzPreset results temp.channel a.presetMem a.presets
    calling calls (sending (env.ptzPresetList temp tempList val a.time))

/-- `server_manage::channel_record_info`. -/
def channelRecordInfo : Task :=
  parsed (parsChannelRecordInfo doc (Record.new a.recordMem)) fun temp =>
  lookingUp temp.deviceId a fun results =>
    let (val, list, calls) := queryRecordFile env results temp.channel temp.startTime temp.endTime
      a.locals a.recordMem a.records
    calling calls (sending (env.responseRecordList temp.msgId val temp.msgType list a.time))

/-- `server_manage::channel_play`. -/
def channelPlay : Task :=
  parsed (parsChannelPlay doc (Play.new a.playMem)) fun temp =>
  lookingUp temp.deviceId a fun results =>
  .act .sdk (fun s =>
    let r := startRealStream s.sessions a.mem results temp a.media a.start
    { s.call r.calls with sessions := r.sessions }) fun _ => .done

/-- `server_manage::channel_playback`. -/
def channelPlayback : Task :=
  parsed (parsChannelPlayback doc (Record.new a.recordMem)) fun temp =>
  lookingUp temp.deviceId a fun results =>
  .act .sdk (fun s =>
    let r := startPlayBack s.sessions a.mem a.netTimes results temp a.media a.start
    { s.call r.calls with sessions := r.sessions }) fun _ => .done

/-- `server_manage::channel_stop_play`. -/
def channelStopPlay : Task :=
  let (_, key) := parsChannelStopPlay doc ""
  .act .sdk (fun s => { s with sessions := (stopPlay s.sessions key a.stop).2 }) fun _ => .done

/-- The `switch` of `handle_msg_func`. -/
def dispatch : MsgType → Task
  | .deviceAdd => deviceAdd env doc a
  | .channelSync => channelSync env doc a
  | .deviceTotalSync => deviceTotalSync env doc a
  | .deviceDelete => acknowledge env doc a "DEVICE_DELETE"
  | .deviceDeleteSoft => deviceDeleteSoft env doc a
  | .deviceDeleteRecover => acknowledge env doc a "DEVICE_DELETE_RECOVER"
  | .channelDeleteSoft => acknowledge env doc a "CHANNEL_DELETE_SOFT"
  | .channelDeleteRecover => acknowledge env doc a "CHANNEL_DELETE_RECOVER"
  | .channelPtzControl => channelPtzControl env doc a
  | .channelPtzPreset => channelPtzPreset env doc a
  | .channelPlay => channelPlay doc a
  | .channelRecordInfo => channelRecordInfo env doc a
  | .channelPlayback => channelPlayback doc a
  | .channelStopPlay => channelStopPlay doc a
  | .gatewaySignIn | .channel3dOperation => .done
  | .deviceRecordPause | .deviceRecordResume | .deviceRecordSpeed => .done

/-- The task that `handle_msg_func` puts into the pool. -/
def handle : Task :=
  match getMsgType doc with
  | none => .done
  | some t => dispatch env doc a t

/-- The loop over the platforms, from the `i`-th one on; platforms that are added meanwhile come
behind its end. -/
def uploading (signInTime : String) : ℕ → ℕ → Task
  | _, 0 => .done
  | i, n + 1 =>
    .act .memory id fun s =>
      match s.registry.platformList.platforms[i]? with
      | none => uploading signInTime (i + 1) n
      | some platform =>
        if !platform.softDel then
          .act .memory (fun s => { s with
            registry := { s.registry with
              platformMap := Registry.setEntry s.registry.platformMap platform } }) fun _ =>
          signingIn env platform signInTime (uploading signInTime (i + 1) n)
        else uploading signInTime (i + 1) n

def program : PoolTask → Task
  | .message doc a => handle env doc a
  | .upload signInTime =>
    .act .memory id fun s => uploading env signInTime 0 s.registry.platformList.platforms.length

/-! ### One task alone -/

lemma finish_connecting (c : Credentials) (a : TaskInput) (body : ℤ → LoginResults → Task)
    (s : Server) : (connecting c a body).finish s =
      match s.mgr.connetEquipment c a.results a.login with
      | (.error _, mgr, _) => { s with mgr := mgr }
      | (.ok ret, mgr, results) => (body ret results).finish { s with mgr := mgr } := by
  rw [connecting, Program.finish_act]
  rcases s.mgr.connetEquipment c a.results a.login with ⟨_ | _, _, _⟩
  · rfl
  · rfl

lemma finish_lookingUp {deviceId : String} {a : TaskInput} {body : LoginResults → Task}
    {body' : Server → LoginResults → Server × TaskEnd}
    (h : ∀ s results, (body results).finish s = (body' s results).1) (s : Server) :
    (lookingUp deviceId a body).finish s = (s.withLogin deviceId a body').1 := by
  rw [lookingUp, Program.finish_act, Server.withLogin, Server.lookupLogin]
  cases s.registry.getPlatform deviceId with
  | none => exact h s a.results
  | some p =>
    dsimp only [id_eq]
    rw [finish_connecting]
    rcases s.mgr.connetEquipment p.credentials a.results a.login with ⟨_ | _, mgr, results⟩
    · rfl
    · exact h _ results

lemma finish_parsed {α : Type} {p : Except Json.Fault (Bool × α)} {body : α → Task} {s : Server}
    {body' : α → Server × TaskEnd} (h : ∀ v, (body v).finish s = (body' v).1) :
    (parsed p body).finish s = (s.withParsed p body').1 := by
  rcases p with f | ⟨_, v⟩
  · rfl
  · exact h v

lemma finish_channelSync (env : Env) (doc : Document) (a : TaskInput) (s : Server) :
    (channelSync env doc a).finish s = (Server.channelSync env s doc a).1 := by
  rw [channelSync, Server.channelSync]
  rcases parsDeviceSync doc (Platform.new a.newId) with ⟨_, tempPlatform⟩
  refine finish_lookingUp (fun s results => ?_) s
  rcases getCameraList env results a.cameras with _ | ⟨_, _, _⟩
  · rfl
  · rfl

lemma finish_deviceAdd (env : Env) (doc : Document) (a : TaskInput) (s : Server) :
    (deviceAdd env doc a).finish s = (Server.deviceAdd env s doc a).1 := by
  rw [deviceAdd, Server.deviceAdd]
  rcases parsDeviceAdd doc (Platform.new a.newId) with ⟨_, platform⟩
  dsimp only
  split_ifs
  · rfl
  · rw [finish_connecting]
    rcases s.mgr.connetEquipment platform.credentials a.results a.login with ⟨_ | ret, mgr, _⟩
    · rfl
    · dsimp only
      split_ifs
      · rfl
      · rfl

lemma finish_uploading (env : Env) (signInTime : String) (n : ℕ) :
    ∀ (i : ℕ) (s : Server), (uploading env signInTime i n).finish s =
      ((s.registry.platformList.platforms.drop i).take n).foldl
        (Server.uploadDevice env signInTime) s := by
  induction n with
  | zero =>
    intro i s
    rfl
  | succ n ih =>
    intro i s
    rw [uploading, Program.finish_act]
    cases hp : s.registry.platformList.platforms[i]? with
    -- the loop is past the end, so the rest of its rounds do nothing
    | none =>
      have hlen := List.getElem?_eq_none_iff.mp hp
      have hend : s.registry.platformList.platforms.drop (i + 1) = [] :=
        List.drop_eq_nil_of_le (Nat.le_succ_of_le hlen)
      show (uploading env signInTime (i + 1) n).finish s = _
      rw [ih, hend, List.drop_eq_nil_of_le hlen, List.take_nil, List.take_nil]
    | some p =>
      have hdrop : s.registry.platformList.platforms.drop i =
          p :: s.registry.platformList.platforms.drop (i + 1) := by
        obtain ⟨hlt, rfl⟩ := List.getElem?_eq_some_iff.mp hp
        exact List.drop_eq_getElem_cons hlt
      rw [hdrop, List.take_succ_cons, List.foldl_cons]
      cases hsoft : p.softDel with
      | true =>
        have hskip : Server.uploadDevice env signInTime s p = s := by
          rw [Server.uploadDevice, hsoft]
          rfl
        rw [hskip, ← ih]
        simp [hsoft]
      | false =>
        -- the round leaves the list, which the next one reads again
        have hput : (Server.uploadDevice env signInTime s p).registry.platformList =
            s.registry.platformList := by
          rw [Server.uploadDevice, hsoft]
          rfl
        rw [← hput, ← ih]
        simp [hsoft, signingIn, Server.uploadDevice]

/-- A task that no other one interrupts does what its handler does. -/
theorem finish_handle (env : Env) (doc : Document) (a : TaskInput) (s : Server) :
    (handle env doc a).finish s = (Server.handle env s doc a).1 := by
  rw [handle, Server.handle]
  cases getMsgType doc with
  | none => rfl
  | some t =>
    cases t with
    | deviceAdd => exact finish_deviceAdd env doc a s
    | channelSync => exact finish_channelSync env doc a s
    | channelPtzControl => exact finish_parsed fun _ => finish_lookingUp (fun _ _ => rfl) s
    | channelPtzPreset => exact finish_parsed fun _ => finish_lookingUp (fun _ _ => rfl) s
    | channelRecordInfo => exact finish_parsed fun _ => finish_lookingUp (fun _ _ => rfl) s
    | channelPlay => exact finish_parsed fun _ => finish_lookingUp (fun _ _ => rfl) s
    | channelPlayback => exact finish_parsed fun _ => finish_lookingUp (fun _ _ => rfl) s
    | _ => rfl

theorem finish_upload (env : Env) (signInTime : String) (s : Server) :
    (program env (.upload signInTime)).finish s = Server.uploadDevices env s signInTime := by
  rw [program, Program.finish_act, id_eq, finish_uploading, List.drop_zero, List.take_length]
  rfl

/-- On the pool a message that comes alone is handled as by its handler. -/
theorem run_handle (env : Env) (doc : Document) (a : TaskInput) (s : Server) :
    ∃ n, Run.run (Program.Pool.step (program env)) ⟨s, []⟩
        (.start (.message doc a) :: List.replicate n (.advance 0)) =
      some ⟨(Server.handle env s doc a).1, [.done]⟩ := by
  obtain ⟨n, hrun⟩ := Program.Pool.run_alone (program env) (handle env doc a) s
  rw [finish_handle] at hrun
  exact ⟨n, hrun⟩

end Task

/-! ### What the peer is told -/

/-- A message tells that a device is there: the code `0` for a `DEVICE_ADD`, or a
`DEVICE_SIGN_IN`. -/
def Tells (k : String) (m : Json) : Prop :=
  (m.stringMember "msgType" = some "DEVICE_ADD" ∧ m.intMember "code" = some 0 ∧
    m.stringMember "data" = some k) ∨
  (m.stringMember "msgType" = some "DEVICE_SIGN_IN" ∧
    ∃ d, m.objectMember "data" = some d ∧ d.stringMember "deviceId" = some k)

section

variable {c : Config} {k : String}

lemma not_tells_of_type {m : Json} {msgId msgType : String} (h : Heads m msgId msgType)
    (hadd : msgType ≠ "DEVICE_ADD") (hsign : msgType ≠ "DEVICE_SIGN_IN") : ¬ Tells k m := by
  rintro (⟨htype, _⟩ | ⟨htype, _⟩)
  · rw [h.msgType] at htype
    exact hadd (Option.some.inj htype)
  · rw [h.msgType] at htype
    exact hsign (Option.some.inj htype)

lemma not_tells_response (msgId : String) (code : ℤ) (msgType time : String) :
    ¬ Tells k (c.response msgId code msgType time) := by
  rintro (⟨_, _, hd⟩ | ⟨_, d, hd, _⟩)
  · exact nomatch hd
  · exact nomatch hd

lemma not_tells_responseRecordList (msgId : String) (code : ℤ) (msgType : String)
    (list : List Record) (time : String) :
    ¬ Tells k (c.responseRecordList msgId code msgType list time) := by
  rintro (⟨_, _, hd⟩ | ⟨_, d, hd, hk⟩)
  · exact nomatch hd
  · rw [← Option.some.inj hd] at hk
    exact nomatch hk

lemma asInt_eq_zero {n : ℤ} : asInt (.num n) = some 0 ↔ n = 0 := by
  constructor
  · intro h
    rw [asInt] at h
    split_ifs at h
    exact Option.some.inj h
  · rintro rfl
    rfl

lemma tells_deviceAddStep1 {platform : Platform} {time : String} :
    Tells k (c.deviceAddStep1 platform time) ↔
      platform.loginResults = 0 ∧ platform.deviceId = k := by
  constructor
  · rintro (⟨_, hcode, hd⟩ | ⟨htype, _⟩)
    · exact ⟨asInt_eq_zero.mp hcode, Option.some.inj hd⟩
    · rw [(deviceAddStep1_heads _ _).msgType] at htype
      exact absurd (Option.some.inj htype) (by decide)
  · rintro ⟨hcode, rfl⟩
    exact Or.inl ⟨rfl, asInt_eq_zero.mpr hcode, rfl⟩

lemma tells_deviceAddStep2 {platform : Platform} {msgId : ℤ} {time : String} :
    Tells k (c.deviceAddStep2 platform msgId time).1 ↔ platform.deviceId = k := by
  constructor
  · rintro (⟨htype, _⟩ | ⟨_, hdata⟩)
    · rw [(deviceAddStep2_heads _ _ _).msgType] at htype
      exact absurd (Option.some.inj htype) (by decide)
    · exact deviceAddStep2_deviceId.mp hdata
  · intro hk
    exact Or.inr ⟨rfl, deviceAddStep2_deviceId.mpr hk⟩

end

namespace Server

/-- `get_platform` finds the device. -/
def Known (s : Server) (k : String) : Prop :=
  ∃ p, s.registry.getPlatform k = some p

/-- Every device that the peer was told of is found. -/
def Usable (s : Server) : Prop :=
  ∀ m ∈ s.sent, ∀ k, Tells k m → s.Known k

/-- What tasks rely on: no device is forgotten. -/
def Retains (s t : Server) : Prop :=
  ∀ k, s.Known k → t.Known k

lemma Retains.refl (s : Server) : s.Retains s :=
  fun _ hk => hk

lemma Retains.trans {s t u : Server} (hst : s.Retains t) (htu : t.Retains u) : s.Retains u :=
  fun k hk => htu k (hst k hk)

/-- A `device_add` whose login succeeded answers only when the device is there already. -/
def Allowed : Section → Server → Prop
  | .answerAdded k, s => s.Known k
  | _, _ => True

lemma known_iff {s : Server} {k : String} : s.Known k ↔ k ∈ s.registry.platformMap := by
  rw [← AList.lookup_isSome, Option.isSome_iff_exists]
  rfl

lemma known_setEntry {m : AList fun _ : String => Platform} {p : Platform} {k : String} :
    k ∈ Registry.setEntry m p ↔ k = p.deviceId ∨ k ∈ m :=
  AList.mem_insert m

lemma known_addPlatform (env : Env) (s : Server) (opens : Bool) (p : Platform) (k : String) :
    k ∈ (s.registry.addPlatform env.xpack opens p).platformMap ↔
      k = p.deviceId ∨ k ∈ s.registry.platformMap := by
  rw [Registry.addPlatform_map]
  split_ifs with hp
  · constructor
    · exact Or.inr
    · rintro (rfl | hk)
      · exact hp
      · exact hk
  · exact known_setEntry

lemma known_delPlatform (env : Env) (s : Server) (opens : Bool) (k k' : String) :
    k' ∈ (s.registry.delPlatform env.xpack opens k).2.platformMap ↔
      k' ∈ s.registry.platformMap := by
  cases hk : s.registry.platformMap.lookup k with
  | none => rw [Registry.delPlatform_of_none hk]
  | some it =>
    have hmem : k ∈ s.registry.platformMap := by
      rw [← AList.lookup_isSome, hk]
      rfl
    have hmap : (s.registry.delPlatform env.xpack opens k).2.platformMap =
        s.registry.platformMap.insert k { it with softDel := true } := by
      simp only [Registry.delPlatform, hk, Registry.updatePlatformForLocalFile,
        Registry.writeJsonFile_eq]
      split <;> rfl
    rw [hmap, AList.mem_insert]
    constructor
    · rintro (rfl | hk')
      · exact hmem
      · exact hk'
    · exact Or.inr

lemma Usable.of_retains {s t : Server} (h : s.Usable) (hretains : s.Retains t)
    (hsent : ∃ new, t.sent = s.sent ++ new ∧ ∀ m ∈ new, ∀ k, Tells k m → t.Known k) :
    t.Usable := by
  obtain ⟨new, hsent, hnew⟩ := hsent
  intro m hm k hk
  rw [hsent, List.mem_append] at hm
  rcases hm with hm | hm
  · exact hretains k (h m hm k hk)
  · exact hnew m hm k hk

lemma Usable.of_same {s t : Server} (h : s.Usable) (hreg : t.registry = s.registry)
    (hsent : t.sent = s.sent) : s.Retains t ∧ t.Usable := by
  have hretains : s.Retains t := by
    intro k hk
    rw [Known, hreg]
    exact hk
  exact ⟨hretains, h.of_retains hretains ⟨[], by simpa using hsent, by simp⟩⟩

lemma Usable.of_registry {s : Server} {r : Registry} (h : s.Usable)
    (hmap : ∀ k, k ∈ s.registry.platformMap → k ∈ r.platformMap) :
    s.Retains { s with registry := r } ∧ Usable { s with registry := r } := by
  have hretains : s.Retains { s with registry := r } := by
    intro k hk
    rw [known_iff] at hk ⊢
    exact hmap k hk
  exact ⟨hretains, h.of_retains hretains ⟨[], (List.append_nil _).symm, by simp⟩⟩

end Server

namespace Task

/-! ### Every task is safe -/

/-- Whatever others do, a task tells of no device before it is there, as long as the answers of
`device_add` do not. -/
abbrev Safe (p : Task) (s : Server) : Prop :=
  Program.Safe Server.Retains Server.Allowed Server.Usable p s

section

variable {l : Section} {f : Server → Server} {next : Server → Task} {s : Server}

lemma safe_act (hl : ∀ t, Server.Allowed l t)
    (h : ∀ t, s.Retains t → t.Usable → (t.Retains (f t) ∧ (f t).Usable) ∧ Safe (next t) (f t)) :
    Safe (.act l f next) s := by
  intro t hst ht
  obtain ⟨⟨hretains, husable⟩, hnext⟩ := h t hst ht
  exact ⟨iff_of_true (hl t) husable, fun _ => ⟨hretains, hnext⟩⟩

lemma safe_still (hl : ∀ t, Server.Allowed l t) (hreg : ∀ t, (f t).registry = t.registry)
    (hsent : ∀ t, (f t).sent = t.sent) (hnext : ∀ t u, Safe (next t) u) :
    Safe (.act l f next) s :=
  safe_act hl fun t _ ht => ⟨ht.of_same (hreg t) (hsent t), hnext t _⟩

lemma safe_reading (h : ∀ t u, Safe (next t) u) : Safe (.act .memory id next) s :=
  safe_still (fun _ => trivial) (fun _ => rfl) (fun _ => rfl) h

lemma safe_sending {m : Json} (h : ∀ k, ¬ Tells k m) : Safe (sending m) s := by
  refine safe_act (fun _ => trivial) fun t _ ht => ?_
  have hretains : t.Retains (t.send m) := fun _ hk => hk
  refine ⟨⟨hretains, ht.of_retains hretains ⟨[m], rfl, ?_⟩⟩, trivial⟩
  intro m' hm' k hk
  rw [List.mem_singleton.mp hm'] at hk
  exact absurd hk (h k)

lemma safe_calling {calls : List DeviceCall} {next : Task} (h : ∀ u, Safe next u) :
    Safe (calling calls next) s :=
  safe_still (fun _ => trivial) (fun _ => rfl) (fun _ => rfl) fun _ => h

lemma safe_connecting {c : Credentials} {a : TaskInput} {body : ℤ → LoginResults → Task}
    (h : ∀ ret results u, Safe (body ret results) u) : Safe (connecting c a body) s := by
  refine safe_still (fun _ => trivial) (fun _ => rfl) (fun _ => rfl) fun t u => ?_
  split
  · trivial
  · exact h _ _ u

lemma safe_lookingUp {deviceId : String} {a : TaskInput} {body : LoginResults → Task}
    (h : ∀ results u, Safe (body results) u) : Safe (lookingUp deviceId a body) s := by
  apply safe_reading
  intro t u
  split
  · exact h _ u
  · exact safe_connecting fun _ results u => h results u

lemma safe_parsed {α : Type} {p : Except Json.Fault (Bool × α)} {body : α → Task}
    (h : ∀ v, Safe (body v) s) : Safe (parsed p body) s := by
  rcases p with f | ⟨_, v⟩
  · trivial
  · exact h v

lemma safe_signingIn {env : Env} {platform : Platform} {signInTime : String} {next : Task}
    (hk : s.Known platform.deviceId) (h : ∀ u, s.Retains u → Safe next u) :
    Safe (signingIn env platform signInTime next) s := by
  refine safe_act (fun _ => trivial) fun t hst ht => ?_
  have hretains : t.Retains { t.send (env.deviceAddStep2 platform t.msgId signInTime).1 with
      msgId := t.msgId + 1 } := fun _ hk => hk
  refine ⟨⟨hretains, ht.of_retains hretains ⟨_, rfl, ?_⟩⟩, h _ hst⟩
  intro m hm k htells
  rw [List.mem_singleton.mp hm, tells_deviceAddStep2] at htells
  exact htells ▸ hst _ hk

variable (env : Env) (doc : Document) (a : TaskInput)

lemma safe_channelSync : Safe (channelSync env doc a) s := by
  rw [channelSync]
  rcases parsDeviceSync doc (Platform.new a.newId) with ⟨_, tempPlatform⟩
  apply safe_lookingUp
  intro results u
  rcases getCameraList env results a.cameras with _ | ⟨_, list, calls⟩
  · trivial
  · apply safe_calling
    intro u
    apply safe_sending
    intro k
    exact not_tells_of_type (channelSync_heads _ _ _) (by decide) (by decide)

/-- The answer is the only section of a task that can tell of a device too early; what follows
it can rely on its condition. -/
lemma safe_announcing {platform : Platform} (h0 : platform.loginResults = 0) :
    Safe (announcing env a platform) s := by
  intro t _ ht
  have hretains : t.Retains (t.send (env.deviceAddStep1 platform a.time)) := fun _ hk => hk
  refine ⟨⟨fun hk => ?_, fun husable => ?_⟩, fun hk => ⟨hretains, ?_⟩⟩
  · refine ht.of_retains hretains ⟨_, rfl, fun m hm k htells => ?_⟩
    rw [List.mem_singleton.mp hm, tells_deviceAddStep1] at htells
    exact htells.2 ▸ hk
  · apply husable (env.deviceAddStep1 platform a.time)
    · exact List.mem_append_right _ List.mem_cons_self
    · exact tells_deviceAddStep1.mpr ⟨h0, rfl⟩
  · -- asleep, the device stays known
    refine safe_act (fun _ => trivial) fun u htu hu => ⟨hu.of_same rfl rfl, ?_⟩
    refine safe_signingIn (htu _ (hretains _ hk)) fun v huv => ?_
    refine safe_act (fun _ => trivial) fun w hvw hw => ⟨?_, trivial⟩
    apply hw.of_registry
    intro k hk
    exact (Server.known_addPlatform env w a.fileOpens platform k).mpr (Or.inr hk)

lemma safe_deviceAdd : Safe (deviceAdd env doc a) s := by
  rw [deviceAdd]
  rcases parsDeviceAdd doc (Platform.new a.newId) with ⟨_, platform⟩
  dsimp only
  split_ifs
  · trivial
  · refine safe_connecting fun ret results u => ?_
    split_ifs with hret
    · refine safe_sending fun k => ?_
      rw [tells_deviceAddStep1]
      exact fun h => hret h.1
    · exact safe_announcing env a (not_not.mp hret)

lemma safe_deviceTotalSync : Safe (deviceTotalSync env doc a) s := by
  apply safe_reading
  intro t u
  apply safe_sending
  intro k
  exact not_tells_of_type (deviceTotalSync_heads _ _ _) (by decide) (by decide)

lemma safe_acknowledge (msgType : String) : Safe (acknowledge env doc a msgType) s :=
  safe_sending fun _ => not_tells_response _ _ _ _

lemma safe_deviceDeleteSoft : Safe (deviceDeleteSoft env doc a) s := by
  refine safe_act (fun _ => trivial) fun t _ ht => ⟨?_, ?_⟩
  · apply ht.of_registry
    intro k hk
    exact (Server.known_delPlatform env t a.fileOpens _ k).mpr hk
  · exact safe_sending fun _ => not_tells_response _ _ _ _

lemma safe_channelPtzControl : Safe (channelPtzControl env doc a) s := by
  apply safe_parsed
  intro ptz
  apply safe_lookingUp
  intro results u
  refine safe_still (fun _ => trivial) (fun _ => rfl) (fun _ => rfl) fun t u => ?_
  apply safe_sending
  intro k
  exact not_tells_response _ _ _ _

lemma safe_channelPtzPreset : Safe (channelPtzPreset env doc a) s := by
  apply safe_parsed
  intro temp
  apply safe_lookingUp
  intro results u
  apply safe_calling
  intro u
  apply safe_sending
  intro k
  exact not_tells_of_type (ptzPresetList_heads _ _ _ _) (by decide) (by decide)

lemma safe_channelRecordInfo : Safe (channelRecordInfo env doc a) s := by
  apply safe_parsed
  intro temp
  apply safe_lookingUp
  intro results u
  apply safe_calling
  intro u
  apply safe_sending
  intro k
  exact not_tells_responseRecordList _ _ _ _ _

lemma safe_channelPlay : Safe (channelPlay doc a) s := by
  apply safe_parsed
  intro temp
  apply safe_lookingUp
  intro results u
  exact safe_still (fun _ => trivial) (fun _ => rfl) (fun _ => rfl) fun _ _ => trivial

lemma safe_channelPlayback : Safe (channelPlayback doc a) s := by
  apply safe_parsed
  intro temp
  apply safe_lookingUp
  intro results u
  exact safe_still (fun _ => trivial) (fun _ => rfl) (fun _ => rfl) fun _ _ => trivial

lemma safe_channelStopPlay : Safe (channelStopPlay doc a) s :=
  safe_still (fun _ => trivial) (fun _ => rfl) (fun _ => rfl) fun _ _ => trivial

/-- Each platform is put into the map before it is signed in. -/
lemma safe_uploading (signInTime : String) (n : ℕ) :
    ∀ (i : ℕ) (s : Server), Safe (uploading env signInTime i n) s := by
  induction n with
  | zero =>
    intro i s
    trivial
  | succ n ih =>
    intro i s
    apply safe_reading
    intro t u
    split
    · exact ih (i + 1) u
    · rename_i platform _
      split_ifs
      · -- the recorder is in the map before its sign-in is sent
        refine safe_act (fun _ => trivial) fun v _ hv => ⟨?_, ?_⟩
        · apply hv.of_registry
          intro k hk
          exact Server.known_setEntry.mpr (Or.inr hk)
        · refine safe_signingIn ?_ fun w _ => ih (i + 1) w
          exact Server.known_iff.mpr (Server.known_setEntry.mpr (Or.inl rfl))
      · exact ih (i + 1) u

lemma safe_program (t : PoolTask) : Safe (program env t) s := by
  cases t with
  | upload signInTime =>
    apply safe_reading
    intro t u
    exact safe_uploading env signInTime _ 0 u
  | message doc a =>
    show Safe (handle env doc a) s
    rw [handle]
    cases getMsgType doc with
    | none => trivial
    | some t =>
      cases t with
      | deviceAdd => exact safe_deviceAdd env doc a
      | channelSync => exact safe_channelSync env doc a
      | deviceTotalSync => exact safe_deviceTotalSync env doc a
      | deviceDeleteSoft => exact safe_deviceDeleteSoft env doc a
      | deviceDelete | deviceDeleteRecover | channelDeleteSoft | channelDeleteRecover =>
        exact safe_acknowledge env doc a _
      | channelPtzControl => exact safe_channelPtzControl env doc a
      | channelPtzPreset => exact safe_channelPtzPreset env doc a
      | channelRecordInfo => exact safe_channelRecordInfo env doc a
      | channelPlay => exact safe_channelPlay doc a
      | channelPlayback => exact safe_channelPlayback doc a
      | channelStopPlay => exact safe_channelStopPlay doc a
      | gatewaySignIn | channel3dOperation | deviceRecordPause | deviceRecordResume
      | deviceRecordSpeed => trivial

end

end Task

namespace Server

/-- In every run of tasks on the pool, all devices that the peer was told of are found at all times
exactly if each `device_add` whose login succeeded answers when its device is there already. -/
theorem usable_iff {env : Env} {file : Option String} {tempPtzCmd : ℕ} {msgId : ℤ}
    {as : List (Program.Pool.Action PoolTask)} {t : Program.Pool Server Section}
    (hrun : Run.run (Program.Pool.step (Task.program env))
      ⟨startServer env file tempPtzCmd msgId [], []⟩ as = some t) :
    Run.Always (Program.Pool.step (Task.program env)) (fun s => s.shared.Usable)
        ⟨startServer env file tempPtzCmd msgId [], []⟩ as ↔
      Run.Meets (Program.Pool.step (Task.program env)) (Program.Pool.Keeps Allowed)
        ⟨startServer env file tempPtzCmd msgId [], []⟩ as := by
  refine Program.Pool.always_iff Retains.refl (fun _ _ _ => Retains.trans) ?_ ?_ hrun
  · exact fun t s _ => Task.safe_program env t
  · exact fun m hm => absurd hm List.not_mem_nil

def addRequest : Document :=
  some (.obj [("msgId", .str "49537"), ("msgType", .str "DEVICE_ADD"),
    ("data", .obj [("dataMap", .obj [("ip", .str "172.20.0.245"), ("port", .str "37777"),
      ("username", .str "admin"), ("password", .str "rj123456")])])])

def syncRequest : Document :=
  some (.obj [("msgId", .str "49538"), ("msgType", .str "CHANNEL_SYNC"),
    ("data", .obj [("deviceId", .str "1700733608331580")])])

/-- A `DEVICE_ADD` whose login is refused: the answer tells of no device. -/
theorem usable_iff_refused : Run.Always (Program.Pool.step (Task.program Env.plain))
    (fun s => s.shared.Usable) ⟨fresh, []⟩
    [.start (.message addRequest .silent), .advance 0, .advance 0] := by
  refine (usable_iff rfl).mpr ?_
  refine Run.meets_cons trivial rfl (Run.meets_cons ?_ rfl (Run.meets_cons ?_ rfl trivial))
  · exact (Program.Pool.keeps_advance_iff (l := Section.sdk) rfl).mpr trivial
  · exact (Program.Pool.keeps_advance_iff (l := Section.send) rfl).mpr trivial

/-- A `DEVICE_ADD` whose login succeeds: it has been answered with `0`, and a `CHANNEL_SYNC` for the
device does not find it. -/
theorem told_before_known :
    ∃ t, Run.run (Program.Pool.step (Task.program Env.plain)) ⟨fresh, []⟩
        [.start (.message addRequest { TaskInput.silent with login := ⟨9001, 0, 8⟩ }), .advance 0,
          .advance 0, .start (.message syncRequest .silent), .advance 1] = some t ∧
      t.shared.registry.getPlatform "1700733608331580" = none ∧ ¬ t.shared.Usable := by
  refine ⟨_, rfl, rfl, fun husable => ?_⟩
  obtain ⟨p, hp⟩ := husable _ List.mem_cons_self "1700733608331580"
    (tells_deviceAddStep1.mpr ⟨rfl, rfl⟩)
  exact nomatch hp

end Server

end DHGateway
