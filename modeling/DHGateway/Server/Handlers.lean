import DHGateway.Device.Codec
import DHGateway.Message.Parse
import DHGateway.Server.Sdk
import DHGateway.Session.Interleaving

/-!
# The request handlers

`server_manage`: its state, a handler for each type of message, and the dispatch of a pool task. A
task ends by returning, by an exception that the pool's worker catches, or by breaking the
contract of the JSON library while it reads the message.
-/

namespace DHGateway

/-- The state of the process: the registry, the logins, the sessions, `temp_ptz_cmd` and `msg_id`;
and what left it: the messages passed to `send_business_queueEx` and the device calls. -/
structure Server where
  registry : Registry
  mgr : EquipmentMgr
  sessions : SessionMap PlaySession
  tempPtzCmd : ℕ
  msgId : ℤ
  sent : List Json
  calls : List DeviceCall

inductive TaskEnd where
  | returned
  | thrown (e : Exn)
  | fault (f : Json.Fault)
  deriving DecidableEq

/-- What a task meets outside the gateway: the answers of the SDKs, the texts of the clock, the
identifier that the constructor of `Platform` makes, whether `platforms.json` opens when it is to be
written, and what uninitialised storage holds. -/
structure TaskInput extends Answers where
  newId : String
  fileOpens : Bool
  login : LoginAnswer
  cameras : CameraAnswers
  ptz : SdkResult
  presets : PresetAnswers
  records : RecordAnswers
  time : String
  signInTime : String
  times : Platform → String
  results : LoginResults
  ptzMem : PtzCMD
  presetMem : Preset
  playMem : Play
  recordMem : Record
  locals : QueryLocals

/-- The commands as the SDK numbers them, ASCII texts, and UTC. -/
def Env.plain : Env where
  mediaServerId := "29fc51254c0c4809a9f4851f994111a2"
  toUtf := id
  xpack := .json
  mktime := Scan.mktimeUtc
  dhPtz
    | .upControl => 0
    | .downControl => 1
    | .leftControl => 2
    | .rightControl => 3
    | .zoomAdd => 4
    | .zoomDec => 5
    | .focusAdd => 6
    | .focusDec => 7
    | .apertureAdd => 8
    | .apertureDec => 9
    | .pointMove => 10
    | .pointSet => 11
    | .pointDel => 12
    | .leftTop => 32
    | .rightTop => 33
    | .leftDown => 34
    | .rightDown => 35
  netNetworkError := 0x80000002
  maxDevices := 100000

/-- Every call of the SDKs fails, the file opens, and uninitialised storage holds zeros. -/
def TaskInput.silent : TaskInput where
  mem := .zeroed
  netTimes := .zeroed
  media := ⟨(-1, 0), 0, (-1, 0), 0, -1⟩
  start := ⟨false, 0, false, false, 0, 0⟩
  stop := ⟨fun _ => false, fun _ => 0, -1⟩
  newId := "1700733608331580"
  fileOpens := true
  login := ⟨0, 1, 0⟩
  cameras := ⟨⟨false, 0⟩, fun _ => "", ⟨false, 0⟩, fun _ => ⟨"", 0, "", ""⟩, false, [],
    fun _ => ⟨0, false⟩, fun _ => none, fun _ => none⟩
  ptz := ⟨false, 0⟩
  presets := ⟨⟨false, 0⟩, [], Nat.zero_le _⟩
  records := ⟨⟨false, 0⟩, [], Nat.zero_le _⟩
  time := "2023-11-23 18:14:22"
  signInTime := "2023-11-23T18:14:23"
  times _ := ""
  results := ⟨0, 0, 0, ""⟩
  ptzMem := ⟨"", "", "", 0, 0, 0, false⟩
  presetMem := ⟨"", "", "", 0, 0, ""⟩
  playMem := ⟨"", "", "", 0, 0, "", "", "", 0, "", "", ""⟩
  recordMem := ⟨"", "", "", 0, "", 0, "", "", 0, "", "", "", 0, "", "", "", ""⟩
  locals := ⟨.zeroed, fun _ => 0⟩

namespace Server

/-- `send_business_queueEx`. -/
def send (s : Server) (m : Json) : Server :=
  { s with sent := s.sent ++ [m] }

def call (s : Server) (cs : List DeviceCall) : Server :=
  { s with calls := s.calls ++ cs }

@[simp] lemma send_sent (s : Server) (m : Json) : (s.send m).sent = s.sent ++ [m] := rfl

@[simp] lemma send_calls (s : Server) (m : Json) : (s.send m).calls = s.calls := rfl

@[simp] lemma call_calls (s : Server) (cs : List DeviceCall) :
    (s.call cs).calls = s.calls ++ cs := rfl

/-! ### What the handlers share -/

/-- `get_platform` and, if it finds the recorder, `connet_equipment`. The result of the login is
not looked at: what follows runs with the `LoginResults` that there are. -/
def lookupLogin (s : Server) (deviceId : String) (a : TaskInput) :
    Except Exn LoginResults × Server :=
  match s.registry.getPlatform deviceId with
  | none => (.ok a.results, s)
  | some platform =>
    let (ret, mgr, results) := s.mgr.connetEquipment platform.credentials a.results a.login
    (ret.map fun _ => results, { s with mgr := mgr })

def withLogin (s : Server) (deviceId : String) (a : TaskInput)
    (body : Server → LoginResults → Server × TaskEnd) : Server × TaskEnd :=
  match s.lookupLogin deviceId a with
  | (.error e, s) => (s, .thrown e)
  | (.ok results, s) => body s results

/-- The rest of a handler after a parser that does not check what it reads. -/
def withParsed {α : Type} (s : Server) (parsed : Except Json.Fault (Bool × α))
    (body : α → Server × TaskEnd) : Server × TaskEnd :=
  match parsed with
  | .error f => (s, .fault f)
  | .ok (_, v) => body v

variable (env : Env) (s : Server) (doc : Document) (a : TaskInput)

/-! ### Devices -/

/-- `server_manage::channel_sync`. The result of `get_camera_list` is not looked at. -/
def channelSync : Server × TaskEnd :=
  let (_, tempPlatform) := parsDeviceSync doc (Platform.new a.newId)
  s.withLogin tempPlatform.deviceId a fun s results =>
    match getCameraList env results a.cameras with
    | .error e => (s, .thrown e)
    | .ok (_, tempList, calls) =>
      ((s.call calls).send (env.channelSync tempList tempPlatform a.time), .returned)

/-- `server_manage::device_add`. -/
def deviceAdd : Server × TaskEnd :=
  let (_, platform) := parsDeviceAdd doc (Platform.new a.newId)
  if platform.ip = "" then (s, .returned)
  else
    let (ret, mgr, _) := s.mgr.connetEquipment platform.credentials a.results a.login
    let s := { s with mgr := mgr }
    match ret with
    | .error e => (s, .thrown e)
    | .ok loginResults =>
      let platform := { platform with loginResults := loginResults }
      if platform.loginResults ≠ 0 then
        let platform := { platform with loginErrMsg := "login fail" }
        (s.send (env.deviceAddStep1 platform a.time), .returned)
      else
        let s := s.send (env.deviceAddStep1 platform a.time)
        let (json, msgId) := env.deviceAddStep2 platform s.msgId a.signInTime
        let s := { s.send json with msgId := msgId }
        ({ s with registry := s.registry.addPlatform env.xpack a.fileOpens platform },
          .returned)

/-- `server_manage::device_total_sync`. -/
def deviceTotalSync : Server × TaskEnd :=
  let (_, msgId) := parsDeviceTotalSync doc ""
  (s.send (env.deviceTotalSync s.registry.platformList.platforms msgId a.times), .returned)

/-- A handler that reads the message and answers with the code `0`. -/
def acknowledge (msgType : String) : Server × TaskEnd :=
  let (_, platform) := parsDeviceDeleteSoft doc (Platform.new a.newId)
  (s.send (env.response platform.msgId 0 msgType a.time), .returned)

/-- `server_manage::device_delete`. -/
def deviceDelete : Server × TaskEnd :=
  acknowledge env s doc a "DEVICE_DELETE"

/-- `server_manage::device_delete_soft`. The result of `del_platform` is not looked at. -/
def deviceDeleteSoft : Server × TaskEnd :=
  let (_, platform) := parsDeviceDeleteSoft doc (Platform.new a.newId)
  let s := { s with
    registry := (s.registry.delPlatform env.xpack a.fileOpens platform.deviceId).2 }
  (s.send (env.response platform.msgId 0 "DEVICE_DELETE_SOFT" a.time), .returned)

/-- `server_manage::device_delete_recover`. -/
def deviceDeleteRecover : Server × TaskEnd :=
  acknowledge env s doc a "DEVICE_DELETE_RECOVER"

/-- `server_manage::channel_delete_soft`. -/
def channelDeleteSoft : Server × TaskEnd :=
  acknowledge env s doc a "CHANNEL_DELETE_SOFT"

/-- `server_manage::channel_delete_recover`. -/
def channelDeleteRecover : Server × TaskEnd :=
  acknowledge env s doc a "CHANNEL_DELETE_RECOVER"

/-! ### Channels -/

/-- `server_manage::channel_ptz_control`. -/
def channelPtzControl : Server × TaskEnd :=
  s.withParsed (parsPtzControl doc (PtzCMD.new a.ptzMem)) fun ptz =>
  s.withLogin ptz.deviceId a fun s results =>
    let (val, tempPtzCmd, calls) := ptzControl env s.tempPtzCmd results ptz a.ptz
    let s := { s.call calls with tempPtzCmd := tempPtzCmd }
    (s.send (env.response ptz.msgId val ptz.msgType a.time), .returned)

/-- `server_manage::channel_ptz_preset`. -/
def channelPtzPreset : Server × TaskEnd :=
  s.withParsed (parsPtzPreset doc (Preset.new a.presetMem)) fun temp =>
  s.withLogin temp.deviceId a fun s results =>
    let (val, tempList, calls) := queryPtzPreset results temp.channel a.presetMem a.presets
    ((s.call calls).send (env.ptzPresetList temp tempList val a.time), .returned)

/-- `server_manage::channel_record_info`. -/
def channelRecordInfo : Server × TaskEnd :=
  s.withParsed (parsChannelRecordInfo doc (Record.new a.recordMem)) fun temp =>
  s.withLogin temp.deviceId a fun s results =>
    let (val, list, calls) := queryRecordFile env results temp.channel temp.startTime temp.endTime
      a.locals a.recordMem a.records
    ((s.call calls).send (env.responseRecordList temp.msgId val temp.msgType list a.time),
      .returned)

/-! ### Streams -/

/-- `server_manage::channel_play`. -/
def channelPlay : Server × TaskEnd :=
  s.withParsed (parsChannelPlay doc (Play.new a.playMem)) fun temp =>
  s.withLogin temp.deviceId a fun s results =>
    let r := startRealStream s.sessions a.mem results temp a.media a.start
    ({ s.call r.calls with sessions := r.sessions }, .returned)

/-- `server_manage::channel_playback`. -/
def channelPlayback : Server × TaskEnd :=
  s.withParsed (parsChannelPlayback doc (Record.new a.recordMem)) fun temp =>
  s.withLogin temp.deviceId a fun s results =>
    let r := startPlayBack s.sessions a.mem a.netTimes results temp a.media a.start
    ({ s.call r.calls with sessions := r.sessions }, .returned)

/-- `server_manage::channel_stop_play`. -/
def channelStopPlay : Server × TaskEnd :=
  let (_, key) := parsChannelStopPlay doc ""
  ({ s with sessions := (stopPlay s.sessions key a.stop).2 }, .returned)

/-! ### Dispatch -/

/-- The `switch` of `handle_msg_func`. Pausing, resuming and the speed of a playback change
nothing that is modelled here. -/
def dispatch : MsgType → Server × TaskEnd
  | .deviceAdd => deviceAdd env s doc a
  | .channelSync => channelSync env s doc a
  | .deviceTotalSync => deviceTotalSync env s doc a
  | .deviceDelete => deviceDelete env s doc a
  | .deviceDeleteSoft => deviceDeleteSoft env s doc a
  | .deviceDeleteRecover => deviceDeleteRecover env s doc a
  | .channelDeleteSoft => channelDeleteSoft env s doc a
  | .channelDeleteRecover => channelDeleteRecover env s doc a
  | .channelPtzControl => channelPtzControl env s doc a
  | .channelPtzPreset => channelPtzPreset env s doc a
  | .channelPlay => channelPlay s doc a
  | .channelRecordInfo => channelRecordInfo env s doc a
  | .channelPlayback => channelPlayback s doc a
  | .channelStopPlay => channelStopPlay s doc a
  | .gatewaySignIn | .channel3dOperation => (s, .returned)
  | .deviceRecordPause | .deviceRecordResume | .deviceRecordSpeed => (s, .returned)

/-- The task that `handle_msg_func` puts into the pool for a message. -/
def handle : Server × TaskEnd :=
  match getMsgType doc with
  | none => (s, .returned)
  | some t => dispatch env s doc a t

/-! ### Announcing the registered devices -/

/-- The body of the loop at the end of `start_server` and in `device_upload_func`. -/
def uploadDevice (signInTime : String) (s : Server) (platform : Platform) : Server :=
  if !platform.softDel then
    let s := { s with
      registry := { s.registry with
        platformMap := Registry.setEntry s.registry.platformMap platform } }
    let (json, msgId) := env.deviceAddStep2 platform s.msgId signInTime
    { s.send json with msgId := msgId }
  else s

/-- The whole loop. -/
def uploadDevices (signInTime : String) : Server :=
  s.registry.platformList.platforms.foldl (uploadDevice env signInTime) s

/-- `server_manage::start_server` on the file that there is, up to its loop: that one waits for the
queues to be connected, and tasks can be handled before it. The counter has been advanced by the
sign-ins and heartbeats of the public queue, `temp_ptz_cmd` is not initialised, and messages that
were sent before stay sent. -/
def startServer (file : Option String) (tempPtzCmd : ℕ) (msgId : ℤ) (sent : List Json) :
    Server where
  registry := ((Registry.boot file).initPlatform env.xpack).2
  mgr := .new
  sessions := ∅
  tempPtzCmd := tempPtzCmd
  msgId := msgId
  sent := sent
  calls := []

/-! ### A gateway to run things on -/

/-- A process that has no recorder, login or session yet. -/
def fresh : Server :=
  startServer Env.plain none 0 3 []

end Server

end DHGateway
