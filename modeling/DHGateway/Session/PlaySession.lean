import DHGateway.Common
import DHGateway.Core.ByteMem

/-!
# Play sessions

`PlaySession.cpp`: the constructor, the connection to the media server, the start of a real-time
or recorded stream and the sending of RTP packets. What the SDKs answer is an argument.
-/

namespace DHGateway

/-- `MaxGB28181RtpSendVideoMediaBufferLength`: the size of the send buffer. -/
def maxGB28181RtpSendVideoMediaBufferLength : ℕ := 1024 * 64

/-- `GB28181VideoStartTimestampFlag`. -/
def gb28181VideoStartTimestampFlag : UInt32 := 0xEFEFEFEF

/-- `PlaySession`, the fields that are read after they are written. -/
structure PlaySession where
  nMaxRtpSendVideoMediaBufferLength : ℤ
  szSendRtpVideoMediaBuffer : ByteMem.Mem
  nSendRtpVideoMediaBufferLength : ℕ
  nStartVideoTimestamp : UInt32
  nCurrentVideoTimestamp : UInt32
  nVideoRtpLen : UInt16
  streamId : String
  nChannel : ℤ
  isRun : Bool
  nVideoStreamID : ℤ
  psMuxer : ℕ
  hRtpPS : UInt32
  inputHandle : UInt32
  inputSsrc : UInt32
  msDispatch : DispatchInfo
  nMediaClient : NETHANDLE
  lLoginID : LLONG
  lDowloadPlayHandle : LLONG
  lRecordPlayHandle : LLONG
  lRealPlayHandle : LLONG

namespace PlaySession

def zeroed : PlaySession where
  nMaxRtpSendVideoMediaBufferLength := 0
  szSendRtpVideoMediaBuffer := fun _ => 0
  nSendRtpVideoMediaBufferLength := 0
  nStartVideoTimestamp := 0
  nCurrentVideoTimestamp := 0
  nVideoRtpLen := 0
  streamId := ""
  nChannel := 0
  isRun := false
  nVideoStreamID := 0
  psMuxer := 0
  hRtpPS := 0
  inputHandle := 0
  inputSsrc := 0
  msDispatch := ⟨"", 0, 0⟩
  nMediaClient := 0
  lLoginID := 0
  lDowloadPlayHandle := 0
  lRecordPlayHandle := 0
  lRealPlayHandle := 0

/-- `PlaySession::PlaySession` over storage that held `mem`. Fields that are not listed, among
them `_is_run`, `nStartVideoTimestamp`, `nMaxRtpSendVideoMediaBufferLength` and
`m_lDowloadPlayHandle`, keep what the storage held. -/
def new (mem : PlaySession) (handle : LLONG) (channel : ℤ) (streamid : String) : PlaySession :=
  { mem with
    lLoginID := handle
    lRealPlayHandle := 0
    lRecordPlayHandle := 0
    nChannel := channel
    streamId := streamid
    msDispatch := { mem.msDispatch with ip := "" }
    inputHandle := 0
    inputSsrc := 0
    nMediaClient := 0
    nVideoStreamID := -1
    nCurrentVideoTimestamp := 0
    nSendRtpVideoMediaBufferLength := 0 }

/-! ### Connecting to the media server -/

/-- What the network, RTP and muxer libraries answer while a session is connected. -/
structure MediaAnswers where
  /-- the result of `XHNetSDK_Connect` and the handle it stores when that is `0` -/
  connect : ℤ × NETHANDLE
  psMuxerCreate : ℕ
  rtpPacketStart : ℤ × UInt32
  rand : UInt32
  psMuxerAddStream : ℤ

/-- `PlaySession::connetMS`. A failed connect leaves the handle as it was. -/
def connetMS (s : PlaySession) (a : MediaAnswers) : ℤ × PlaySession :=
  if a.connect.1 = 0 then (0, { s with nMediaClient := a.connect.2 }) else (a.connect.1, s)

/-- `PlaySession::creat_packet` for H.264, the only type it is called for. -/
def creatPacket (s : PlaySession) (a : MediaAnswers) : Bool × PlaySession :=
  let s := { s with psMuxer := a.psMuxerCreate, hRtpPS := a.rtpPacketStart.2 }
  if a.rtpPacketStart.1 ≠ 0 then (false, s)
  else
    let s := { s with inputHandle := s.hRtpPS, inputSsrc := a.rand }
    if s.nVideoStreamID = -1 ∧ s.psMuxer ≠ 0 then
      (true, { s with nVideoStreamID := a.psMuxerAddStream })
    else (true, s)

/-- `PlaySession::setMSAddr`. -/
def setMSAddr (s : PlaySession) (a : MediaAnswers) (ip : String) (port linkType : ℤ) :
    Bool × PlaySession :=
  let s := { s with msDispatch := ⟨ip, port, linkType⟩ }
  let (nRet, s) := s.connetMS a
  (nRet = 0, (s.creatPacket a).2)

/-! ### Starting a stream -/

/-- What the device SDK answers while a stream is started. -/
structure StartAnswers where
  makeKeyFrame : Bool
  realPlayByDataType : LLONG
  /-- `CLIENT_SetDeviceMode` for the stream type -/
  setStreamType : Bool
  /-- `CLIENT_SetDeviceMode` for the record type -/
  setRecordType : Bool
  playBackByDataType : LLONG
  lastError : UInt32

/-- The outcome of starting a stream: the returned value, the session and the device calls. -/
structure Started where
  ret : ℤ
  session : PlaySession
  calls : List DeviceCall

/-- `PlaySession::startRealPlaySession`. A failed `CLIENT_MakeKeyFrame` returns the initial `0`,
and `_is_run` is set also when the stream could not be opened. -/
def startRealPlaySession (s : PlaySession) (a : StartAnswers) : Started :=
  let frame := DeviceCall.makeKeyFrame s.lLoginID s.nChannel
  if !a.makeKeyFrame then ⟨0, s, [frame]⟩
  else
    let play := DeviceCall.realPlayByDataType s.lLoginID s.nChannel
    let s := { s with lRealPlayHandle := a.realPlayByDataType }
    let ret := if s.lRealPlayHandle = 0 then dhSdkGetLastError a.lastError else 0
    ⟨ret, { s with isRun := true }, [frame, play]⟩

/-- `PlaySession::startRecordPlaySession`, for what its two times hold before they are read. -/
def startRecordPlaySession (s : PlaySession) (times : NetTimes) (a : StartAnswers)
    (record : Record) : Started :=
  let mode := DeviceCall.setDeviceMode s.lLoginID
  if !a.setStreamType then ⟨dhSdkGetLastError a.lastError, s, [mode]⟩
  else if !a.setRecordType then ⟨dhSdkGetLastError a.lastError, s, [mode, mode]⟩
  else
    let play := DeviceCall.playBackByDataType s.lLoginID s.nChannel
      (times.scan record.startTime record.endTime)
    let s := { s with lRecordPlayHandle := a.playBackByDataType }
    if s.lRecordPlayHandle = 0 then ⟨dhSdkGetLastError a.lastError, s, [mode, mode, play]⟩
    else ⟨0, { s with isRun := true }, [mode, mode, play]⟩

/-! ### Stopping a stream -/

/-- The three SDK streams that a session has a handle for. -/
inductive StreamKind where
  | record
  | real
  | download
  deriving DecidableEq

/-- `m_lRecordPlayHandle`, `m_lRealPlayHandle` or `m_lDowloadPlayHandle`. -/
def handle (s : PlaySession) : StreamKind → LLONG
  | .record => s.lRecordPlayHandle
  | .real => s.lRealPlayHandle
  | .download => s.lDowloadPlayHandle

/-- Set a handle to `0`. -/
def clearHandle (s : PlaySession) : StreamKind → PlaySession
  | .record => { s with lRecordPlayHandle := 0 }
  | .real => { s with lRealPlayHandle := 0 }
  | .download => { s with lDowloadPlayHandle := 0 }

/-- `PlaySession::disconnetMS`, for the result of `XHNetSDK_Disconnect`. -/
def disconnetMS (s : PlaySession) (val : ℤ) : PlaySession :=
  if s.nMediaClient = 0 then s
  else if val = 0 then { s with nMediaClient := 0 } else s

/-- What the SDKs answer while a session is stopped: `CLIENT_StopPlayBack`,
`CLIENT_StopRealPlayEx` or `CLIENT_StopDownload`, the error behind it, and
`XHNetSDK_Disconnect`. -/
structure StopAnswers where
  stop : StreamKind → Bool
  lastError : StreamKind → UInt32
  disconnect : ℤ

/-- The outcome of stopping a session: the returned value, the session and the stream handles
that were stopped. -/
structure Stopped where
  ret : ℤ
  session : PlaySession
  stops : List (StreamKind × LLONG)

/-- The block of `stopSession` for one kind of stream. -/
def stopHandle (a : StopAnswers) (r : Stopped) (k : StreamKind) : Stopped :=
  if r.session.handle k ≠ 0 then
    ⟨if a.stop k then r.ret else dhSdkGetLastError (a.lastError k), r.session.clearHandle k,
      r.stops ++ [(k, r.session.handle k)]⟩
  else r

/-- `PlaySession::stopSession`. -/
def stopSession (s : PlaySession) (a : StopAnswers) : Stopped :=
  let s := { s with isRun := false }
  if s.handle .record = 0 ∧ s.handle .download = 0 ∧ s.handle .real = 0 then ⟨0, s, []⟩
  else
    let r := [StreamKind.record, .real, .download].foldl (stopHandle a) ⟨0, s, []⟩
    { r with session := r.session.disconnetMS a.disconnect }

lemma handle_clearHandle_ne (s : PlaySession) {k k' : StreamKind} (h : k' ≠ k) :
    (s.clearHandle k).handle k' = s.handle k' := by
  cases k <;> cases k' <;> first | rfl | exact absurd rfl h

@[simp] lemma handle_disconnetMS (s : PlaySession) (val : ℤ) (k : StreamKind) :
    (s.disconnetMS val).handle k = s.handle k := by
  simp only [disconnetMS]
  split_ifs
  · rfl
  · cases k <;> rfl
  · rfl

/-! ### Sending RTP packets -/

/-- A call of `XHNetSDK_Write` and its result. -/
structure Write where
  clihandle : NETHANDLE
  data : List UInt8
  ret : ℤ

/-- What `sendMS` meets and does outside the session: the results of the writes by their number,
the writes made, and the ranges of the send buffer stored to as offset and length. -/
structure SendEnv where
  writeResult : ℕ → ℤ
  writes : List Write
  stores : List (ℕ × ℕ)

/-- The first `nSendRtpVideoMediaBufferLength` bytes of the send buffer. -/
def buffered (s : PlaySession) : List UInt8 :=
  ByteMem.read s.szSendRtpVideoMediaBuffer s.nSendRtpVideoMediaBufferLength

/-- Write out the send buffer; a failed write stops the session and forgets its connection. -/
def flushBuffer (s : PlaySession) (env : SendEnv) : ℤ × PlaySession × SendEnv :=
  let nSendRet := env.writeResult env.writes.length
  let env := { env with writes := env.writes ++ [⟨s.nMediaClient, s.buffered, nSendRet⟩] }
  if nSendRet ≠ 0 then (nSendRet, { s with isRun := false, nMediaClient := 0 }, env)
  else (nSendRet, { s with nSendRtpVideoMediaBufferLength := 0 }, env)

/-- The first flush condition: the rest of the buffer is too small. The `int` difference is
compared as a 32-bit unsigned number. -/
def spaceShort (s : PlaySession) (nDataLength : ℕ) : Prop :=
  s.nMediaClient ≠ 0 ∧
    (s.nMaxRtpSendVideoMediaBufferLength - s.nSendRtpVideoMediaBufferLength) % 2 ^ 32
      < ((nDataLength : ℤ) + 4) % 2 ^ 32 ∧
    0 < s.nSendRtpVideoMediaBufferLength

/-- The second flush condition: the packet begins a new frame. -/
def newFrame (s : PlaySession) : Prop :=
  s.nMediaClient ≠ 0 ∧ s.nStartVideoTimestamp ≠ gb28181VideoStartTimestampFlag ∧
    s.nStartVideoTimestamp ≠ s.nCurrentVideoTimestamp ∧ 0 < s.nSendRtpVideoMediaBufferLength

instance (s : PlaySession) (n : ℕ) : Decidable (s.spaceShort n) := by
  unfold spaceShort; infer_instance

instance (s : PlaySession) : Decidable s.newFrame := by
  unfold newFrame; infer_instance

/-- `htons` on a little-endian machine. -/
def htons (n : UInt16) : UInt16 :=
  UInt16.ofNat (n.toNat % 256 * 256 + n.toNat / 256)

/-- The bytes of a 16-bit number as they lie in memory, least significant first. -/
def bytes16 (n : UInt16) : List UInt8 :=
  [UInt8.ofNat (n.toNat % 256), UInt8.ofNat (n.toNat / 256)]

/-- The stores of `sendMS` into the send buffer: `'$'`, `0`, the length, the packet. -/
def storeFrame (s : PlaySession) (env : SendEnv) (data : List UInt8) : PlaySession × SendEnv :=
  let len := s.nSendRtpVideoMediaBufferLength
  let buf := ByteMem.memcpy s.szSendRtpVideoMediaBuffer (len + 0) [0x24]
  let buf := ByteMem.memcpy buf (len + 1) [0]
  let rtpLen := htons (UInt16.ofNat data.length)
  let buf := ByteMem.memcpy buf (len + 2) (bytes16 rtpLen)
  let buf := ByteMem.memcpy buf (len + 4) data
  ({ s with
     szSendRtpVideoMediaBuffer := buf
     nVideoRtpLen := rtpLen
     nStartVideoTimestamp := s.nCurrentVideoTimestamp
     nSendRtpVideoMediaBufferLength := len + (data.length + 4) },
   { env with stores := env.stores ++ [(len, data.length + 4)] })

/-- `nCurrentVideoTimestamp++`: the 32-bit counter of packets. -/
def tick (s : PlaySession) : PlaySession :=
  { s with nCurrentVideoTimestamp := s.nCurrentVideoTimestamp + 1 }

/-- `PlaySession::sendMS`. -/
def sendMS (s : PlaySession) (env : SendEnv) (data : List UInt8) : ℤ × PlaySession × SendEnv :=
  if s.isRun = false then (0, s, env)
  else
    let (ret₁, s, env) :=
      if s.spaceShort data.length then s.flushBuffer env else (0, s, env)
    if ret₁ ≠ 0 then (ret₁, s, env)
    else
      let s := s.tick
      let (ret₂, s, env) := if s.newFrame then s.flushBuffer env else (ret₁, s, env)
      if ret₂ ≠ 0 then (ret₂, s, env)
      else (ret₂, s.storeFrame env data)

/-- `GB28181RtpServer_rtp_packet_callback_func_send`. -/
def rtpPacketCallback (s : PlaySession) (env : SendEnv) (data : List UInt8) :
    PlaySession × SendEnv :=
  if s.isRun = false then (s, env) else (s.sendMS env data).2

/-- A sequence of `sendMS` calls. -/
def sendAll (s : PlaySession) (env : SendEnv) : List (List UInt8) → PlaySession × SendEnv
  | [] => (s, env)
  | p :: ps => let (_, s, env) := s.sendMS env p; s.sendAll env ps

end PlaySession

end DHGateway
