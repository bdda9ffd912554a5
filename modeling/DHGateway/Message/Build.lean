import DHGateway.Common
import DHGateway.Core.Scan
import DHGateway.Message.Json

/-!
# Building messages

The builders of `gateway_msg.cpp`, up to the text that the writer makes of their document. Clock
texts are arguments.
-/

namespace DHGateway

/-- What the builders take from elsewhere: `mediaServerId` of the configuration, and the
conversion from GBK by the locale library. -/
structure Config where
  mediaServerId : String
  toUtf : String → String

namespace Config

variable (c : Config)

/-- `gateway_msg::response`. The message is `SUCCESS` for every code. -/
def response (msgId : String) (code : ℤ) (msgType time : String) : Json :=
  .obj [("serialNum", .str c.mediaServerId), ("msgType", .str msgType), ("msgId", .str msgId),
    ("time", .str time), ("code", .num code), ("msg", .str "SUCCESS"), ("data", .null)]

/-- What `gateway_sign_in` and `gateway_re_sign_in` build, for the counter `msg_id`, the address of
the host and the name and the value of the time-out. The prefix of the identifier is set back after
the number has been appended to it. -/
def signInMessage (msgType outTimeName : String) (outTime : ℤ) (localIp : String) (msgId : ℤ)
    (time : String) : Json × ℤ :=
  let msgId := msgId + 1
  let data := Json.obj [("id", .num 0), ("ip", .str localIp), ("port", .num 18082),
    ("protocol", .str "DH-DEVICE_NET_SDK_V6"), ("gatewayType", .str "OTHER"),
    (outTimeName, .str (toString outTime))]
  (.obj [("serialNum", .str c.mediaServerId), ("msgType", .str msgType),
    ("msgId", .str ("h_" ++ toString msgId)), ("time", .str time), ("code", .num 0),
    ("msg", .str "SUCCESS"), ("data", data)], msgId)

/-- `heartbeat_timeout`, in milliseconds. -/
def heartbeatTimeoutMs : ℤ := 1000

/-- `gateway_msg::gateway_sign_in`. -/
def gatewaySignIn (localIp : String) (msgId : ℤ) (time : String) (milliseconds : ℤ) : Json × ℤ :=
  c.signInMessage "GATEWAY_SIGN_IN" "outTime" (milliseconds + 3 * 60 * 1000) localIp msgId time

/-- `gateway_msg::gateway_re_sign_in`. -/
def gatewayReSignIn (localIp : String) (msgId : ℤ) (time : String) (milliseconds : ℤ) :
    Json × ℤ :=
  c.signInMessage "GATEWAY_RE_SIGN_IN" "outtime" (milliseconds + heartbeatTimeoutMs) localIp msgId
    time

/-- `gateway_msg::gateway_heartbeat`, for `heartbeatTimeout` of the configuration. -/
def gatewayHeartbeat (heartbeatTimeout msgId : ℤ) (time : String) (milliseconds : ℤ) :
    Json × ℤ :=
  let msgId := msgId + 1
  let data := milliseconds + heartbeatTimeoutMs * heartbeatTimeout + 30 * heartbeatTimeoutMs
  (.obj [("serialNum", .str c.mediaServerId), ("msgType", .str "GATEWAY_HEARTBEAT"),
    ("msgId", .str ("h_" ++ toString msgId)), ("time", .str time), ("code", .num 0),
    ("error", .str "false"), ("data", .str (toString data))], msgId)

/-- `gateway_msg::device_add` with step `1`. -/
def deviceAddStep1 (platform : Platform) (time : String) : Json :=
  .obj [("time", .str time), ("serialNum", .str c.mediaServerId), ("msgType", .str "DEVICE_ADD"),
    ("msgId", .str platform.msgId), ("code", .num platform.loginResults),
    ("msg", .str platform.loginErrMsg), ("data", .str platform.deviceId)]

/-- `gateway_msg::device_add` with another step, for the counter `msg_id`. Adding a value to a
document moves it, so `time` and `updatedAt` are null. -/
def deviceAddStep2 (platform : Platform) (msgId : ℤ) (time : String) : Json × ℤ :=
  let msgId := msgId + 1
  let data := Json.obj [("deviceId", .str platform.deviceId), ("lUserId", .num 4),
    ("username", .str platform.username),
    ("serialNumber", .str "DS-7808N-R2(C)0820230227CCRRL33683189WCVU"), ("name", .str ""),
    ("charset", .str "GB2312"), ("ip", .str platform.ip), ("port", .num platform.port),
    ("manufacturer", .str "dh"), ("online", .num 1), ("deviceType", .num 3), ("deleted", .num 0),
    ("password", .str platform.password), ("createdAt", .str time), ("updatedAt", .null)]
  (.obj [("serialNum", .str c.mediaServerId), ("msgType", .str "DEVICE_SIGN_IN"),
    ("msgId", .str ("b_" ++ toString msgId)), ("time", .null), ("code", .num 0),
    ("msg", .str "SUCCESS"), ("data", data)], msgId)

/-- An entry of `device_total_sync`. -/
def totalSyncEntry (platform : Platform) (time : String) : Json :=
  .obj [("deviceId", .str platform.deviceId), ("firmware", .str ""), ("ip", .str platform.ip),
    ("manufacturer", .str "dahua"), ("model", .str "DH-NVR4208-HDS2/H"), ("name", .str "NVR"),
    ("online", .num 1), ("port", .num platform.port), ("time", .str time)]

/-- `gateway_msg::device_total_sync`. The time of an entry refers to a string that is gone when
the document is written; `times` is what the memory holds then. -/
def deviceTotalSync (platformList : List Platform) (msgId : String) (times : Platform → String) :
    Json :=
  .obj [("code", .num 0),
    ("data", .arr ((platformList.filter fun p => !p.softDel).map fun p =>
      totalSyncEntry p (times p))),
    ("msg", .str "SUCCESS"), ("msgId", .str msgId), ("msgType", .str "DEVICE_TOTAL_SYNC"),
    ("serialNum", .str c.mediaServerId)]

/-- An entry of `channel_sync`. -/
def channelEntity (platform : Platform) (d : Device) : Json :=
  .obj [("channelId", .str (platform.deviceId ++ "#" ++ toString d.id)), ("channelNum", .num d.id),
    ("channelType", .num 1), ("encodeId", .str platform.deviceId),
    ("channelName", .str (c.toUtf d.name)), ("manufacturer", .str "DH"), ("ip", .str d.ip),
    ("port", .num d.port), ("password", .str "rj123456"), ("ptzType", .num 0),
    ("isIpChannel", .num 1), ("online", .num d.online.toInt), ("deleted", .num d.deleted)]

/-- `gateway_msg::channel_sync`. Devices without a name are left out. -/
def channelSync (deviceList : List Device) (platform : Platform) (time : String) : Json :=
  let channelDetailList := (deviceList.filter fun d => d.name ≠ "").map (c.channelEntity platform)
  let data := Json.obj [("total", .num deviceList.length), ("channelDetailList",
    .arr channelDetailList), ("num", .num channelDetailList.length)]
  .obj [("serialNum", .str c.mediaServerId), ("msgType", .str "CHANNEL_SYNC"),
    ("msgId", .str platform.msgId), ("time", .str time),
    ("code", .num (if deviceList.length = 0 then 1 else 0)),
    ("msg", .str (if deviceList.length = 0 then "channel list is null" else "SUCCESS")),
    ("data", data)]

/-- `gateway_msg::ptz_preset_list`. -/
def ptzPresetList (p : Preset) (presets : List Preset) (code : ℤ) (time : String) : Json :=
  .obj [("serialNum", .str c.mediaServerId), ("msgType", .str "CHANNEL_PTZ_PRESET"),
    ("msgId", .str p.msgId), ("time", .str time), ("code", .num code),
    ("msg", .str (if code = 0 then "SUCCESS" else "FAIL")),
    ("data", .arr (presets.map fun preset =>
      .obj [("presetId", .num preset.index), ("presetName", .str (c.toUtf preset.name))]))]

/-- A time of a record, read in the packed form and written in the dashed one. -/
def recordTime (time : String) : String :=
  Scan.putTime Scan.dashed (Scan.getTime Scan.packed time).1

/-- `gateway_msg::response_record_list`. -/
def responseRecordList (msgId : String) (code : ℤ) (msgType : String) (list : List Record)
    (time : String) : Json :=
  let recordList := list.map fun record =>
    Json.obj [("name", .str ""), ("filePath", .str ""), ("fileSize", .str ""), ("address", .str ""),
      ("startTime", .str (recordTime record.startTime)),
      ("endTime", .str (recordTime record.endTime))]
  .obj [("serialNum", .str c.mediaServerId), ("msgType", .str msgType), ("msgId", .str msgId),
    ("time", .str time), ("code", .num code), ("msg", .str "SUCCESS"),
    ("data", .obj [("sumNum", .num list.length), ("recordList", .arr recordList)])]

/-! ### What the messages say -/

variable {c}

lemma channelSync_code (deviceList : List Device) (platform : Platform) (time : String) :
    (c.channelSync deviceList platform time).member "code" =
      some (.num (if deviceList.length = 0 then 1 else 0)) := rfl

lemma responseRecordList_code (msgId : String) (code : ℤ) (msgType : String)
    (list : List Record) (time : String) :
    (c.responseRecordList msgId code msgType list time).member "code" = some (.num code) := rfl

/-- The `msgId` and the `msgType` of a message. -/
structure Heads (m : Json) (msgId msgType : String) : Prop where
  msgId : m.stringMember "msgId" = some msgId
  msgType : m.stringMember "msgType" = some msgType

lemma response_heads (msgId : String) (code : ℤ) (msgType time : String) :
    Heads (c.response msgId code msgType time) msgId msgType := ⟨rfl, rfl⟩

lemma gatewaySignIn_heads (localIp : String) (msgId : ℤ) (time : String) (milliseconds : ℤ) :
    Heads (c.gatewaySignIn localIp msgId time milliseconds).1 ("h_" ++ toString (msgId + 1))
      "GATEWAY_SIGN_IN" := ⟨rfl, rfl⟩

lemma gatewayReSignIn_heads (localIp : String) (msgId : ℤ) (time : String) (milliseconds : ℤ) :
    Heads (c.gatewayReSignIn localIp msgId time milliseconds).1 ("h_" ++ toString (msgId + 1))
      "GATEWAY_RE_SIGN_IN" := ⟨rfl, rfl⟩

lemma gatewayHeartbeat_heads (heartbeatTimeout msgId : ℤ) (time : String) (milliseconds : ℤ) :
    Heads (c.gatewayHeartbeat heartbeatTimeout msgId time milliseconds).1
      ("h_" ++ toString (msgId + 1)) "GATEWAY_HEARTBEAT" := ⟨rfl, rfl⟩

lemma deviceAddStep1_heads (platform : Platform) (time : String) :
    Heads (c.deviceAddStep1 platform time) platform.msgId "DEVICE_ADD" := ⟨rfl, rfl⟩

lemma deviceAddStep2_heads (platform : Platform) (msgId : ℤ) (time : String) :
    Heads (c.deviceAddStep2 platform msgId time).1 ("b_" ++ toString (msgId + 1))
      "DEVICE_SIGN_IN" := ⟨rfl, rfl⟩

lemma deviceTotalSync_heads (platformList : List Platform) (msgId : String)
    (times : Platform → String) :
    Heads (c.deviceTotalSync platformList msgId times) msgId "DEVICE_TOTAL_SYNC" := ⟨rfl, rfl⟩

lemma channelSync_heads (deviceList : List Device) (platform : Platform) (time : String) :
    Heads (c.channelSync deviceList platform time) platform.msgId "CHANNEL_SYNC" := ⟨rfl, rfl⟩

lemma ptzPresetList_heads (p : Preset) (presets : List Preset) (code : ℤ) (time : String) :
    Heads (c.ptzPresetList p presets code time) p.msgId "CHANNEL_PTZ_PRESET" := ⟨rfl, rfl⟩

lemma responseRecordList_heads (msgId : String) (code : ℤ) (msgType : String)
    (list : List Record) (time : String) :
    Heads (c.responseRecordList msgId code msgType list time) msgId msgType := ⟨rfl, rfl⟩

end Config

end DHGateway
