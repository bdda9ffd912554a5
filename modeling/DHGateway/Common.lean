import DHGateway.Core.Scan

/-!
# Shared records

The records of `common.h` and the handle types of the SDKs. Strings are C++ strings that hold no
NUL; `int` fields are integers. A local record that the source leaves uninitialised is an
argument of the function that declares it, so that nothing can be proved about its content.
-/

namespace DHGateway

/-- Handles of the device SDK; `0` is the failure value. -/
abbrev LLONG := ℤ

/-- Handles of the network SDK; `0` is `INVALID_NETHANDLE`. -/
abbrev NETHANDLE := ℕ

/-- `DHSDK_GetLastError`: the SDK's error code without its top bit. -/
def dhSdkGetLastError (code : UInt32) : ℤ :=
  (code &&& 0x7fffffff).toNat

/-- `LoginResults`. -/
structure LoginResults where
  handle : LLONG
  chanNum : ℤ
  uid : ℤ
  equipmentKey : String
  deriving DecidableEq

/-- `DispatchInfo`: the address of the media server. -/
structure DispatchInfo where
  ip : String
  port : ℤ
  linkType : ℤ

/-- `PtzCMD`. -/
structure PtzCMD where
  msgType : String
  msgId : String
  deviceId : String
  channel : ℤ
  contrlCmd : ℕ
  contrlParam : ℕ
  dwStop : Bool

/-- A `PtzCMD` over storage that held `mem`: only the strings and `dwStop` are initialised. -/
def PtzCMD.new (mem : PtzCMD) : PtzCMD :=
  { mem with msgType := "", msgId := "", deviceId := "", dwStop := false }

/-- `Preset`. -/
structure Preset where
  msgType : String
  msgId : String
  deviceId : String
  channel : ℤ
  index : ℤ
  name : String

/-- A `Preset` over storage that held `mem`. -/
def Preset.new (mem : Preset) : Preset :=
  { mem with msgType := "", msgId := "", deviceId := "", name := "" }

/-- `Play`. -/
structure Play where
  msgType : String
  msgId : String
  deviceId : String
  channel : ℤ
  streamMode : ℤ
  dispatchUrl : String
  streamId : String
  ip : String
  port : ℤ
  ssrc : String
  sdpIp : String
  mediaServerId : String

/-- A `Play` over storage that held `mem`. -/
def Play.new (mem : Play) : Play :=
  { mem with
    msgType := "", msgId := "", deviceId := "", dispatchUrl := "", streamId := "", ip := "",
    ssrc := "", sdpIp := "", mediaServerId := "" }

/-- `Record`: a playback request and, with the `file` fields, an entry of a record list. -/
structure Record where
  msgType : String
  msgId : String
  deviceId : String
  channel : ℤ
  fileName : String
  fileSize : ℤ
  startTime : String
  endTime : String
  streamMode : ℤ
  dispatchUrl : String
  streamId : String
  ip : String
  port : ℤ
  ssrc : String
  sdpIp : String
  ssrcStreamId : String
  mediaServerId : String

/-- A `Record` over storage that held `mem`. -/
def Record.new (mem : Record) : Record :=
  { mem with
    msgType := "", msgId := "", deviceId := "", fileName := "", startTime := "", endTime := "",
    dispatchUrl := "", streamId := "", ip := "", ssrc := "", sdpIp := "", ssrcStreamId := "",
    mediaServerId := "" }

/-- `Platform`: a registered recorder. -/
structure Platform where
  deviceType : ℤ
  deviceId : String
  ip : String
  port : ℤ
  username : String
  password : String
  msgId : String
  loginResults : ℤ
  loginErrMsg : String
  softDel : Bool
  deriving DecidableEq

/-- `Platform::Platform`. The identifier comes from the clock and a random number. -/
def Platform.new (deviceId : String) : Platform where
  deviceType := 0
  deviceId := deviceId
  ip := ""
  port := 0
  username := ""
  password := ""
  msgId := ""
  loginResults := 0
  loginErrMsg := "SUCCESS"
  softDel := false

/-- `Platforms`: the list that `platforms.json` stores. -/
structure Platforms where
  platforms : List Platform
  deriving DecidableEq

/-- `Device`: a channel of a recorder. -/
structure Device where
  id : ℤ
  name : String
  ip : String
  port : ℤ
  username : String
  password : String
  online : Bool
  deleted : ℤ

/-- `Device::Device`. -/
def Device.new : Device where
  id := 0
  name := ""
  ip := ""
  port := 0
  username := ""
  password := ""
  online := false
  deleted := 0

/-! ### Times for the SDK -/

/-- `NET_TIME`, as `%d` prints its numbers. -/
structure NetTime where
  dwYear : ℤ
  dwMonth : ℤ
  dwDay : ℤ
  dwHour : ℤ
  dwMinute : ℤ
  dwSecond : ℤ
  deriving DecidableEq

/-- `"%04d-%02d-%02d %02d:%02d:%02d"`. -/
def dashedFormat : List Scan.Item :=
  [.int 4, .lit '-', .int 2, .lit '-', .int 2, .lit ' ', .int 2, .lit ':', .int 2, .lit ':', .int 2]

namespace NetTime

def numbers (t : NetTime) : ℕ → ℤ
  | 0 => t.dwYear
  | 1 => t.dwMonth
  | 2 => t.dwDay
  | 3 => t.dwHour
  | 4 => t.dwMinute
  | _ => t.dwSecond

/-- A time after `sscanf` has stored the numbers that a text begins with. -/
def scan (t : NetTime) (text : String) : NetTime :=
  let v := Scan.assign (Scan.sscanf dashedFormat text.toList) t.numbers
  ⟨v 0, v 1, v 2, v 3, v 4, v 5⟩

end NetTime

/-- `stStartTime` and `stStopTime` of `startRecordPlaySession` and of `query_record_file`, which are
local variables without an initialiser. -/
structure NetTimes where
  stStartTime : NetTime
  stStopTime : NetTime
  deriving DecidableEq

namespace NetTimes

def zeroed : NetTimes :=
  ⟨⟨0, 0, 0, 0, 0, 0⟩, ⟨0, 0, 0, 0, 0, 0⟩⟩

/-- The times after both texts are read. Where a text says less than a time, the rest stays as it
was in the storage. -/
def scan (t : NetTimes) (startTime endTime : String) : NetTimes :=
  ⟨t.stStartTime.scan startTime, t.stStopTime.scan endTime⟩

end NetTimes

/-- The calls of the device SDK that take the handle or the channel count of a login. -/
inductive DeviceCall where
  | getDevConfig (login : LLONG) (count : ℤ)
  | matrixGetCameras (login : LLONG) (count : ℤ)
  | queryDevInfo (login : LLONG) (count : ℤ)
  | queryRemotDevState (login : LLONG) (channel : ℤ)
  | queryDevState (login : LLONG)
  | ptzControlEx2 (login : LLONG) (channel : ℤ) (cmd : ℕ) (param : ℕ) (stop : Bool)
  | queryPtzPreset (login : LLONG) (channel : ℤ)
  | makeKeyFrame (login : LLONG) (channel : ℤ)
  | realPlayByDataType (login : LLONG) (channel : ℤ)
  | setDeviceMode (login : LLONG)
  | playBackByDataType (login : LLONG) (channel : ℤ) (times : NetTimes)
  | queryRecordFile (login : LLONG) (channel : ℤ) (times : NetTimes)
  deriving DecidableEq

end DHGateway
