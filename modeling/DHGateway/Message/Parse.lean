import DHGateway.Common
import DHGateway.Core.Scan
import DHGateway.Message.Json

/-!
# Reading messages

The `pars_` functions of `gateway_msg.cpp` and `get_msg_type`. They fill a record of the caller,
so that a field the message does not have keeps what the record held. A document with a parse
error is the null value.
-/

namespace DHGateway

open Json

/-- `msg_type`. -/
inductive MsgType where
  | gatewaySignIn
  | deviceAdd
  | channelSync
  | deviceTotalSync
  | deviceDelete
  | deviceDeleteSoft
  | deviceDeleteRecover
  | channelDeleteSoft
  | channelDeleteRecover
  | channelPtzControl
  | channelPtzPreset
  | channel3dOperation
  | channelPlay
  | channelRecordInfo
  | channelPlayback
  | channelStopPlay
  | deviceRecordPause
  | deviceRecordResume
  | deviceRecordSpeed
  deriving DecidableEq

/-- `msg_type_map`. -/
def msgTypeMap : List (String × MsgType) :=
  [("GATEWAY_SIGN_IN", .gatewaySignIn), ("DEVICE_ADD", .deviceAdd), ("CHANNEL_SYNC", .channelSync),
    ("DEVICE_TOTAL_SYNC", .deviceTotalSync), ("DEVICE_DELETE_SOFT", .deviceDeleteSoft),
    ("DEVICE_DELETE", .deviceDelete), ("DEVICE_DELETE_RECOVER", .deviceDeleteRecover),
    ("CHANNEL_DELETE_SOFT", .channelDeleteSoft), ("CHANNEL_DELETE_RECOVER", .channelDeleteRecover),
    ("CHANNEL_PTZ_CONTROL", .channelPtzControl), ("CHANNEL_PTZ_PRESET", .channelPtzPreset),
    ("CHANNEL_3D_OPERATION", .channel3dOperation), ("CHANNEL_PLAY", .channelPlay),
    ("CHANNEL_RECORD_INFO", .channelRecordInfo), ("CHANNEL_PLAYBACK", .channelPlayback),
    ("CHANNEL_STOP_PLAY", .channelStopPlay), ("DEVICE_RECORD_PAUSE", .deviceRecordPause),
    ("DEVICE_RECORD_RESUME", .deviceRecordResume), ("DEVICE_RECORD_SPEED", .deviceRecordSpeed)]

def MsgType.text (t : MsgType) : String :=
  ((msgTypeMap.find? fun e => e.2 = t).map Prod.fst).getD ""

/-- `gateway_msg::get_msg_type`; `none` is the value `false`, which no type has. -/
def getMsgType (doc : Document) : Option MsgType :=
  ((doc.getD .null).stringMember "msgType").bind fun s => msgTypeMap.lookup s

lemma stringMember_of_getMsgType {doc : Document} {t : MsgType} (h : getMsgType doc = some t) :
    (doc.getD .null).stringMember "msgType" = some t.text := by
  obtain ⟨s, hs, ht⟩ := Option.bind_eq_some_iff.mp h
  have htext : ∀ e ∈ msgTypeMap, e.1 = e.2.text := by decide
  obtain ⟨before, after, hmap, _⟩ := List.lookup_eq_some_iff.mp ht
  have hmem : (s, t) ∈ msgTypeMap := by
    rw [hmap]
    exact List.mem_append_cons_self
  rw [hs, show s = t.text from htext _ hmem]

lemma exists_obj_of_stringMember {doc : Document} {name s : String}
    (h : (doc.getD .null).stringMember name = some s) : ∃ ms, doc = some (.obj ms) := by
  rcases doc with _ | _ | _ | _ | _ | _ | _ | ms
  case some.obj => exact ⟨ms, rfl⟩
  all_goals exact nomatch h

/-! ### Checked parsers -/

/-- `gateway_msg::pars_device_sync`. -/
def parsDeviceSync (doc : Document) (platform : Platform) : Bool × Platform :=
  let doc := doc.getD .null
  let platform := { platform with msgId := (doc.stringMember "msgId").getD platform.msgId }
  match (doc.objectMember "data").bind (stringMember "deviceId") with
  | some deviceId => (true, { platform with deviceId := deviceId })
  | none => (false, platform)

/-- `gateway_msg::pars_device_delete_soft`. -/
def parsDeviceDeleteSoft (doc : Document) (platform : Platform) : Bool × Platform :=
  parsDeviceSync doc platform

/-- `gateway_msg::pars_device_total_sync`. -/
def parsDeviceTotalSync (doc : Document) (msgId : String) : Bool × String :=
  match (doc.getD .null).stringMember "msgId" with
  | some msgId => (true, msgId)
  | none => (false, msgId)

/-- `gateway_msg::pars_device_add`. The identifier of the message is not taken over, and the port
is a string. -/
def parsDeviceAdd (doc : Document) (p : Platform) : Bool × Platform :=
  match (doc.getD .null).asObject with
  | none => (false, p)
  | some doc =>
    let dataMap := ((doc.objectMember "data").bind (objectMember "dataMap")).getD .null
    let p := { p with
      deviceType := (dataMap.intMember "deviceType").getD p.deviceType
      ip := (dataMap.stringMember "ip").getD p.ip
      port := ((dataMap.stringMember "port").map fun s : String => Scan.atoi s.toList).getD p.port
      username := (dataMap.stringMember "username").getD p.username
      password := (dataMap.stringMember "password").getD p.password }
    (true, { p with msgId := (doc.stringMember "msgId").getD p.msgId })

lemma parsDeviceSync_msgId (doc : Document) (platform : Platform) :
    (parsDeviceSync doc platform).2.msgId =
      ((doc.getD .null).stringMember "msgId").getD platform.msgId := by
  simp only [parsDeviceSync]
  split <;> rfl

lemma parsDeviceTotalSync_msgId (doc : Document) (msgId : String) :
    (parsDeviceTotalSync doc msgId).2 = ((doc.getD .null).stringMember "msgId").getD msgId := by
  rw [parsDeviceTotalSync]
  split
  · rename_i h
    rw [h]
    rfl
  · rename_i h
    rw [h]
    rfl

lemma parsDeviceAdd_msgId (ms : List (String × Json)) (p : Platform) :
    (parsDeviceAdd (some (.obj ms)) p).2.msgId =
      ((Json.obj ms).stringMember "msgId").getD p.msgId := rfl

/-- `gateway_msg::pars_channel_stop_play`. -/
def parsChannelStopPlay (doc : Document) (key : String) : Bool × String :=
  let data := (doc.getD .null).objectMember "data"
  (true, (data.bind (stringMember "streamId")).getD key)

/-- The names of the business queue: `strDynamicQueuename`, `strDynamicRoutekey` and
`strDynamicExchange`. -/
structure DynamicNames where
  queuename : String
  routekey : String
  exchange : String
  deriving DecidableEq

/-- `gateway_msg::pars_gateway_sign`. Each name that the message has replaces the one before; the
code is read and dropped. -/
def parsGatewaySign (doc : Document) (msgType : String) (names : DynamicNames) :
    Bool × String × DynamicNames :=
  match (doc.getD .null).asObject with
  | none => (false, msgType, names)
  | some doc =>
    let data := (doc.objectMember "data").getD .null
    let names := {
      exchange := (data.stringMember "mqExchange").getD names.exchange
      queuename := (data.stringMember "mqGetQueue").getD names.queuename
      routekey := (data.stringMember "mqSetQueue").getD names.routekey }
    (true, (doc.stringMember "msgType").getD msgType, names)

/-- `gateway_msg::isMySerialNum`, for the `mediaServerId` of the configuration. -/
def isMySerialNum (mediaServerId : String) (doc : Document) : Bool :=
  (doc.getD .null).stringMember "serialNum" = some mediaServerId

/-- `gateway_msg::pars_streamId`. That the document is an object is not checked. -/
def parsStreamId (doc : Document) (streamId : String) : Except Fault (Bool × String) :=
  match doc with
  | none => .ok (false, streamId)
  | some doc => do
    match ← doc.readMember asObject "data" with
    | none => .ok (false, streamId)
    | some data =>
      match ← data.readMember asString "streamId" with
      | none => .ok (false, streamId)
      | some streamId => .ok (true, streamId)

/-- `gateway_msg::pars_record_speed`. A speed without a fraction is not taken over. -/
def parsRecordSpeed (doc : Document) (speed : Rat) (streamId : String) :
    Except Fault (Bool × Rat × String) :=
  match doc with
  | none => .ok (false, speed, streamId)
  | some doc => do
    match ← doc.readMember asObject "data" with
    | none => .ok (false, speed, streamId)
    | some data =>
      let speed ← match ← data.readMember asObject "dataMap" with
        | none => pure speed
        | some dataMap => pure ((← dataMap.readMember asFloat "speed").getD speed)
      match ← data.readMember asString "streamId" with
      | none => .ok (false, speed, streamId)
      | some streamId => .ok (true, speed, streamId)

/-! ### Unchecked parsers -/

/-- The channel behind the first `'#'` of a channel identifier. -/
def channelOf (channelId : String) (channel : ℤ) : ℤ :=
  match channelId.toList.splitOn '#' with
  | _ :: token :: _ => Scan.atoi token
  | _ => channel

/-- `gateway_msg::pars_ptz_control`. -/
def parsPtzControl (doc : Document) (ptz : PtzCMD) : Except Fault (Bool × PtzCMD) :=
  match doc with
  | none => .ok (true, ptz)
  | some doc => do
    let _ ← doc.getInt "code"
    let data ← doc.at' "data"
    let channelId ← data.getString "channelId"
    let dataMap ← data.at' "dataMap"
    let cmdCode ← dataMap.getInt "cmdCode"
    let cmdValue ← dataMap.getInt "cmdValue"
    let deviceId ← data.getString "deviceId"
    let msgId ← doc.getString "msgId"
    let msgType ← doc.getString "msgType"
    .ok (false, { ptz with
      channel := channelOf channelId ptz.channel
      contrlCmd := (cmdCode % 2 ^ 32).toNat
      contrlParam := (cmdValue % 2 ^ 8).toNat
      deviceId := deviceId
      msgId := msgId
      msgType := msgType })

/-- `gateway_msg::pars_ptz_preset`. -/
def parsPtzPreset (doc : Document) (p : Preset) : Except Fault (Bool × Preset) :=
  match doc with
  | none => .ok (false, p)
  | some doc => do
    let msgId ← doc.getString "msgId"
    let msgType ← doc.getString "msgType"
    let data ← doc.at' "data"
    let deviceId ← data.getString "deviceId"
    let channelId ← data.getString "channelId"
    .ok ((channelId.toList.splitOn '#').length ≥ 2, { p with
      msgId := msgId
      msgType := msgType
      deviceId := deviceId
      channel := channelOf channelId p.channel })

lemma parsPtzControl_ids {doc : Json} {ptz : PtzCMD} {r : Bool × PtzCMD}
    (h : parsPtzControl (some doc) ptz = .ok r) :
    doc.stringMember "msgId" = some r.2.msgId ∧ doc.stringMember "msgType" = some r.2.msgType := by
  simp only [parsPtzControl, bind_eq_ok] at h
  obtain ⟨_, _, _, _, _, _, _, _, _, _, _, _, _, _, msgId, hid, msgType, hty, ⟨⟩⟩ := h
  exact ⟨getString_eq_ok.mp hid, getString_eq_ok.mp hty⟩

lemma parsPtzPreset_ids {doc : Json} {p : Preset} {r : Bool × Preset}
    (h : parsPtzPreset (some doc) p = .ok r) :
    doc.stringMember "msgId" = some r.2.msgId ∧ doc.stringMember "msgType" = some r.2.msgType := by
  simp only [parsPtzPreset, bind_eq_ok] at h
  obtain ⟨msgId, hid, msgType, hty, _, _, _, _, _, _, ⟨⟩⟩ := h
  exact ⟨getString_eq_ok.mp hid, getString_eq_ok.mp hty⟩

/-- `gateway_msg::pars_channel_play`. The stream identifier of `ssrcInfo` replaces the other. -/
def parsChannelPlay (doc : Document) (p : Play) : Except Fault (Bool × Play) :=
  match doc with
  | none => .ok (false, p)
  | some doc => do
    let msgType ← doc.getString "msgType"
    let msgId ← doc.getString "msgId"
    let p := { p with msgType := msgType, msgId := msgId }
    let data ← doc.at' "data"
    match data.asObject with
    | none => .ok (true, p)
    | some data =>
      let streamMode ← data.getInt "streamMode"
      let deviceId ← data.getString "deviceId"
      let channelId ← data.getString "channelId"
      let dispatchUrl ← data.getString "dispatchUrl"
      let streamId ← data.getString "streamId"
      let p := { p with
        streamMode := streamMode
        deviceId := deviceId
        channel := channelOf channelId p.channel
        dispatchUrl := dispatchUrl
        streamId := streamId }
      let ssrcInfo ← data.at' "ssrcInfo"
      match ssrcInfo.asObject with
      | none => .ok (true, p)
      | some ssrcInfo =>
        let ip ← ssrcInfo.getString "ip"
        let port ← ssrcInfo.getInt "port"
        let ssrc ← ssrcInfo.getString "ssrc"
        let sdpIp ← ssrcInfo.getString "sdpIp"
        -- the same member is written again: the media server's name for the stream wins
        let streamId ← ssrcInfo.getString "streamId"
        let mediaServerId ← ssrcInfo.getString "mediaServerId"
        .ok (true, { p with
          ip := ip
          port := port
          ssrc := ssrc
          sdpIp := sdpIp
          streamId := streamId
          mediaServerId := mediaServerId })

/-- `gateway_msg::pars_channel_record_info`. -/
def parsChannelRecordInfo (doc : Document) (record : Record) : Except Fault (Bool × Record) :=
  match (doc.getD .null).asObject with
  | none => .ok (false, record)
  | some doc => do
    -- members without a use must be there all the same, with their types
    let _ ← doc.getInt "code"
    let data ← doc.at' "data"
    let channelId ← data.getString "channelId"
    let deviceId ← data.getString "deviceId"
    let dataMap ← data.at' "dataMap"
    let startTime ← dataMap.getString "startTime"
    let endTime ← dataMap.getString "endTime"
    let _ ← doc.getBool "error"
    let msgId ← doc.getString "msgId"
    let msgType ← doc.getString "msgType"
    let _ ← doc.getString "serialNum"
    let _ ← doc.getString "time"
    .ok (true, { record with
      channel := channelOf channelId record.channel
      deviceId := deviceId
      startTime := startTime
      endTime := endTime
      msgId := msgId
      msgType := msgType })

lemma parsChannelRecordInfo_ids {ms : List (String × Json)} {record : Record} {r : Bool × Record}
    (h : parsChannelRecordInfo (some (.obj ms)) record = .ok r) :
    (obj ms).stringMember "msgId" = some r.2.msgId ∧
      (obj ms).stringMember "msgType" = some r.2.msgType := by
  simp only [parsChannelRecordInfo, Option.getD_some, asObject, bind_eq_ok] at h
  obtain ⟨_, _, _, _, _, _, _, _, _, _, _, _, _, _, _, _, msgId, hid, msgType, hty, _, _, _, _,
    ⟨⟩⟩ := h
  exact ⟨getString_eq_ok.mp hid, getString_eq_ok.mp hty⟩

/-- `gateway_msg::pars_channel_playback`. -/
def parsChannelPlayback (doc : Document) (record : Record) : Except Fault (Bool × Record) :=
  match doc with
  | none => .ok (false, record)
  | some doc => do
    let msgType ← doc.getString "msgType"
    let msgId ← doc.getString "msgId"
    let data ← doc.at' "data"
    let deviceId ← data.getString "deviceId"
    let channelId ← data.getString "channelId"
    let startTime ← data.getString "startTime"
    let endTime ← data.getString "endTime"
    let streamMode ← data.getInt "streamMode"
    let dispatchUrl ← data.getString "dispatchUrl"
    let streamId ← data.getString "streamId"
    let ssrcInfo ← data.at' "ssrcInfo"
    let ip ← ssrcInfo.getString "ip"
    let port ← ssrcInfo.getInt "port"
    let ssrc ← ssrcInfo.getString "ssrc"
    let sdpIp ← ssrcInfo.getString "sdpIp"
    let ssrcStreamId ← ssrcInfo.getString "streamId"
    let mediaServerId ← ssrcInfo.getString "mediaServerId"
    .ok (true, { record with
      msgType := msgType
      msgId := msgId
      deviceId := deviceId
      channel := channelOf channelId record.channel
      startTime := startTime
      endTime := endTime
      streamMode := streamMode
      dispatchUrl := dispatchUrl
      streamId := streamId
      ip := ip
      port := port
      ssrc := ssrc
      sdpIp := sdpIp
      ssrcStreamId := ssrcStreamId
      mediaServerId := mediaServerId })

end DHGateway
