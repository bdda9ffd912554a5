import DHGateway.Device.Login
import DHGateway.Device.Registry
import DHGateway.Message.Build

/-!
# The device SDK

The functions of `sdk_wrap` that ask a recorder for its cameras, presets and records or move a
camera. They pass the handle of a login on as they get it.
-/

namespace DHGateway

/-- The `DH_PTZ_` and `DH_EXTPTZ_` commands of the SDK. -/
inductive DhPtz where
  | upControl
  | downControl
  | leftControl
  | rightControl
  | leftTop
  | rightTop
  | leftDown
  | rightDown
  | apertureDec
  | apertureAdd
  | zoomDec
  | zoomAdd
  | focusDec
  | focusAdd
  | pointMove
  | pointSet
  | pointDel
  deriving DecidableEq

/-- What the gateway is built with: the libraries for the registry's text and the local time, the
numbers of the SDK's header, and how many channels there is memory for. -/
structure Env extends Config where
  xpack : XPack
  mktime : Scan.Tm → ℤ
  dhPtz : DhPtz → ℕ
  netNetworkError : ℤ
  maxDevices : ℤ

/-- The result of an SDK call and the error behind it. -/
structure SdkResult where
  ok : Bool
  lastError : UInt32

/-! ### Cameras -/

/-- `DH_REMOTE_DEVICE`. -/
structure RemoteDevice where
  szIp : String
  nPort : ℤ
  szUserEx : String
  szPwdEx : String

/-- `NET_CAMERA_STATE_INFO`. -/
structure CameraState where
  nChannel : ℤ
  connected : Bool

/-- What the SDK answers while the cameras are listed. The arrays that it fills begin with zeros,
apart from `camera_state`, of which `stateMem` is the content. -/
structure CameraAnswers where
  getDevConfig : SdkResult
  szChannelName : ℕ → String
  matrixGetCameras : SdkResult
  stuRemoteDevice : ℕ → RemoteDevice
  queryDevInfo : Bool
  states : List CameraState
  stateMem : ℕ → CameraState
  /-- the state of a channel, if `CLIENT_QueryRemotDevState` succeeds for it -/
  queryRemotDevState : ℕ → Option Bool
  /-- the state, if `CLIENT_QueryDevState` succeeds after that -/
  queryDevState : ℕ → Option Bool

/-- `camera_state` at an index: what `CLIENT_QueryDevInfo` filled in, or else what the loop over
the channels did. -/
def CameraAnswers.cameraState (a : CameraAnswers) (i : ℕ) : CameraState :=
  if a.queryDevInfo then a.states.getD i (a.stateMem i)
  else ⟨i, ((a.queryRemotDevState i).orElse fun _ => a.queryDevState i).getD false⟩

def CameraAnswers.stateCalls (a : CameraAnswers) (handle : LLONG) (i : ℕ) : List DeviceCall :=
  .queryRemotDevState handle i ::
    if (a.queryRemotDevState i).isNone then [.queryDevState handle] else []

def CameraAnswers.device (a : CameraAnswers) (i : ℕ) : Device :=
  if (a.stuRemoteDevice i).szIp ≠ "192.168.0.0" then
    { Device.new with
      id := i
      name := a.szChannelName i
      ip := (a.stuRemoteDevice i).szIp
      port := (a.stuRemoteDevice i).nPort
      username := (a.stuRemoteDevice i).szUserEx
      password := (a.stuRemoteDevice i).szPwdEx
      online := (a.cameraState i).connected }
  else Device.new

/-- `sdk_wrap::get_camera_list`: the returned value, the list and the device calls. Resizing the
list throws for a count that is negative or too large. -/
def getCameraList (env : Env) (login : LoginResults) (a : CameraAnswers) :
    Except Exn (ℤ × List Device × List DeviceCall) :=
  let n := login.chanNum
  if n = 0 then .ok (0, [], [])
  else if n < 0 then .error .lengthError
  else if env.maxDevices < n then .error .badAlloc
  else
    let blank := List.replicate n.toNat Device.new
    let calls := [DeviceCall.getDevConfig login.handle n]
    -- the list keeps its blank entries when the function returns early
    if !a.getDevConfig.ok then .ok (dhSdkGetLastError a.getDevConfig.lastError, blank, calls)
    else
      let calls := calls ++ [.matrixGetCameras login.handle n]
      if !a.matrixGetCameras.ok then
        .ok (dhSdkGetLastError a.matrixGetCameras.lastError, blank, calls)
      else
        let calls := calls ++ [.queryDevInfo login.handle n]
        let calls :=
          -- a recorder that cannot answer for all channels is asked for each
          if a.queryDevInfo then calls
          else calls ++ (List.range n.toNat).flatMap (a.stateCalls login.handle)
        .ok (0, (List.range n.toNat).map a.device, calls)

lemma getCameraList_of_pos {env : Env} {login : LoginResults} (a : CameraAnswers)
    (hpos : 0 < login.chanNum) (hmax : login.chanNum ≤ env.maxDevices) :
    ∃ ret list cs, getCameraList env login a =
      .ok (ret, list, .getDevConfig login.handle login.chanNum :: cs) := by
  simp only [getCameraList, if_neg (Int.ne_of_gt hpos), if_neg (Int.not_lt.mpr (Int.le_of_lt hpos)),
    if_neg (Int.not_lt.mpr hmax)]
  split
  · exact ⟨_, _, _, rfl⟩
  · split
    · exact ⟨_, _, _, rfl⟩
    · cases a.queryDevInfo <;> exact ⟨_, _, _, rfl⟩

lemma getCameraList_of_zero {env : Env} {login : LoginResults} (a : CameraAnswers)
    (h : login.chanNum = 0) : getCameraList env login a = .ok (0, [], []) :=
  if_pos h

lemma getCameraList_of_invalid {env : Env} {login : LoginResults} (a : CameraAnswers)
    (h : login.chanNum < 0 ∨ login.chanNum ≠ 0 ∧ env.maxDevices < login.chanNum) :
    ∃ e, getCameraList env login a = .error e := by
  have hne : login.chanNum ≠ 0 := by omega
  simp only [getCameraList, if_neg hne]
  split
  · exact ⟨_, rfl⟩
  · rename_i hneg
    rw [if_pos (by omega)]
    exact ⟨_, rfl⟩

/-! ### Moving a camera -/

/-- `XH_TO_DH_PTZBASECMD`. -/
def xhToDhPtzBaseCmd : List (ℕ × DhPtz) :=
  [(8, .upControl), (4, .downControl), (2, .leftControl), (1, .rightControl), (10, .leftTop),
    (9, .rightTop), (6, .leftDown), (5, .rightDown), (72, .apertureDec), (68, .apertureAdd),
    (32, .zoomDec), (16, .zoomAdd), (65, .focusDec), (66, .focusAdd), (130, .pointMove),
    (129, .pointSet), (131, .pointDel)]

/-- `sdk_wrap::ptz_control`: the returned value, `temp_ptz_cmd` and the device call. A command that
the table does not have is sent as `0`. Apart from presets a failed call returns `0`. -/
def ptzControl (env : Env) (tempPtzCmd : ℕ) (login : LoginResults) (ptz : PtzCMD)
    (a : SdkResult) : ℤ × ℕ × List DeviceCall :=
  let it := xhToDhPtzBaseCmd.lookup ptz.contrlCmd
  let cmd := (it.map env.dhPtz).getD 0
  if it.isSome ∧ (ptz.contrlCmd = 130 ∨ ptz.contrlCmd = 129 ∨ ptz.contrlCmd = 131) then
    (if a.ok then 0 else dhSdkGetLastError a.lastError, tempPtzCmd,
      [.ptzControlEx2 login.handle ptz.channel cmd ptz.contrlParam false])
  else
    let stop := ptz.contrlCmd = 0 ∨ ptz.contrlCmd = 64
    let dwStop := if stop then true else ptz.dwStop
    let cmd := if stop then tempPtzCmd else cmd
    let contrlParam := if ptz.contrlParam > 8 then 8 else ptz.contrlParam
    (0, cmd, [.ptzControlEx2 login.handle ptz.channel cmd contrlParam dwStop])

lemma ptzControl_calls (env : Env) (tempPtzCmd : ℕ) (login : LoginResults) (ptz : PtzCMD)
    (a : SdkResult) : (ptzControl env tempPtzCmd login ptz a).2.2 ≠ [] := by
  simp only [ptzControl]
  split <;> exact List.cons_ne_nil _ _

/-! ### Presets -/

/-- `MAX_PRESETNUM`. -/
def maxPresetNum : ℕ := 128

/-- `NET_PTZ_PRESET`. -/
structure NetPtzPreset where
  nIndex : ℤ
  szName : String

/-- What the SDK answers to a query for presets; it fills at most the array it is given. -/
structure PresetAnswers where
  result : SdkResult
  presets : List NetPtzPreset
  length_le : presets.length ≤ maxPresetNum

/-- `sdk_wrap::query_ptz_preset`. -/
def queryPtzPreset (login : LoginResults) (channel : ℤ) (mem : Preset) (a : PresetAnswers) :
    ℤ × List Preset × List DeviceCall :=
  let calls := [DeviceCall.queryPtzPreset login.handle channel]
  if !a.result.ok then (dhSdkGetLastError a.result.lastError, [], calls)
  else
    (0, a.presets.map fun p =>
      { Preset.new mem with name := p.szName, index := p.nIndex % 2 ^ 32 }, calls)

lemma queryPtzPreset_calls (login : LoginResults) (channel : ℤ) (mem : Preset)
    (a : PresetAnswers) : (queryPtzPreset login channel mem a).2.2 ≠ [] := by
  simp only [queryPtzPreset]
  split <;> exact List.cons_ne_nil _ _

/-! ### Records -/

/-- The text of a time that `snprintf` puts into 32 bytes. -/
def NetTime.text (t : NetTime) : String :=
  String.ofList <| List.take 31 <|
    Scan.padInt 4 t.dwYear ++ Scan.padInt 2 t.dwMonth ++ Scan.padInt 2 t.dwDay ++
      Scan.padInt 2 t.dwHour ++ Scan.padInt 2 t.dwMinute ++ Scan.padInt 2 t.dwSecond

/-- `NET_RECORDFILE_INFO`. -/
structure NetRecordFile where
  starttime : NetTime
  endtime : NetTime
  size : ℤ
  filename : String

/-- What the SDK answers to a query for records; the array has room for 1024. -/
structure RecordAnswers where
  result : SdkResult
  files : List NetRecordFile
  length_le : files.length ≤ 1024

/-- `"%04d%02d%02d%02d%02d%02d"`. -/
def packedFormat : List Scan.Item :=
  [.int 4, .int 2, .int 2, .int 2, .int 2, .int 2]

/-- The `tm` that `CompareTime` makes of its numbers. -/
def tmOf (v : ℕ → ℤ) : Scan.Tm :=
  ⟨v 0 - 1900, v 1 - 1, v 2, v 3, v 4, v 5⟩

/-- `CompareTime`, for variables that hold `locals` to begin with: `0` for a time before the
other, `1` for one after it, `-1` for equal times. -/
def compareTime (env : Env) (locals : ℕ → ℤ) (strTime1 strTime2 : String) : ℤ :=
  let locals := Scan.assign (Scan.sscanf packedFormat strTime1.toList) locals
  let tmpBegTime := env.mktime (tmOf locals)
  let locals := Scan.assign (Scan.sscanf packedFormat strTime2.toList) locals
  let tmpEndTime := env.mktime (tmOf locals)
  if tmpEndTime = tmpBegTime then -1 else if tmpEndTime > tmpBegTime then 0 else 1

/-- What the local variables of `query_record_file` hold to begin with: the times for the SDK, and
those of `CompareTime`. -/
structure QueryLocals where
  times : NetTimes
  numbers : ℕ → ℤ

/-- The entry for a file of the list; a file that begins after the window has none. -/
def recordOf (env : Env) (locals : ℕ → ℤ) (mem : Record) (tempStart tempEnd : String)
    (file : NetRecordFile) : Option Record :=
  let startTime := file.starttime.text
  let endTime := file.endtime.text
  if compareTime env locals startTime tempEnd = 1 then none
  else
    some { Record.new mem with
      startTime := if compareTime env locals startTime tempStart = 0 then tempStart else startTime
      endTime := if compareTime env locals endTime tempEnd = 0 then endTime else tempEnd
      fileSize := file.size
      fileName := file.filename }

/-- `sdk_wrap::query_record_file`. The times go to the SDK as `sscanf` reads them; a network error
counts as one record of the whole window. -/
def queryRecordFile (env : Env) (login : LoginResults) (channel : ℤ) (start end' : String)
    (locals : QueryLocals) (mem : Record) (a : RecordAnswers) : ℤ × List Record × List DeviceCall :=
  let (startTm, startFails) := Scan.getTime Scan.dashed start
  if startFails then (1, [], [])
  else
    let tempStart := Scan.putTime Scan.packed startTm
    let (endTm, endFails) := Scan.getTime Scan.dashed end'
    if endFails then (1, [], [])
    else
      let tempEnd := Scan.putTime Scan.packed endTm
      let calls := [DeviceCall.queryRecordFile login.handle channel (locals.times.scan start end')]
      if !a.result.ok then
        let ret := dhSdkGetLastError a.result.lastError
        -- a timeout is taken for too many files, and the window is returned as one record
        if env.netNetworkError = ret then
          (0, [{ Record.new mem with startTime := start, endTime := end' }], calls)
        else (ret, [], calls)
      else (0, a.files.filterMap (recordOf env locals.numbers mem tempStart tempEnd), calls)

lemma queryRecordFile_cases (env : Env) (login : LoginResults) (channel : ℤ) (start end' : String)
    (locals : QueryLocals) (mem : Record) (a : RecordAnswers) :
    (((Scan.getTime Scan.dashed start).2 = true ∨ (Scan.getTime Scan.dashed end').2 = true) ∧
      queryRecordFile env login channel start end' locals mem a = (1, [], [])) ∨
    (¬ ((Scan.getTime Scan.dashed start).2 = true ∨ (Scan.getTime Scan.dashed end').2 = true) ∧
      (queryRecordFile env login channel start end' locals mem a).2.2 ≠ []) := by
  simp only [queryRecordFile]
  by_cases hs : (Scan.getTime Scan.dashed start).2 = true
  · exact Or.inl ⟨Or.inl hs, if_pos hs⟩
  · rw [if_neg hs]
    by_cases he : (Scan.getTime Scan.dashed end').2 = true
    · exact Or.inl ⟨Or.inr he, if_pos he⟩
    · rw [if_neg he]
      refine Or.inr ⟨not_or.mpr ⟨hs, he⟩, ?_⟩
      split
      · split <;> exact List.cons_ne_nil _ _
      · exact List.cons_ne_nil _ _

end DHGateway
