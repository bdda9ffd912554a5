import DHGateway.Session.Framing
import DHGateway.Session.Speed

/-!
# Leftover memory in a session

The constructor of `PlaySession` leaves members as the storage held them, and
`startRecordPlaySession` its local times. Two sessions that are constructed alike over two storages
get the same calls with the same answers; what they do towards the libraries and return is compared.
-/

namespace DHGateway

namespace PlaySession

/-- A packet of this length makes the session write out what it has buffered. -/
def Flushes (s : PlaySession) (nDataLength : ℕ) : Prop :=
  s.isRun = true ∧ (s.spaceShort nDataLength ∨ s.tick.newFrame)

/-- Behind a packet that was not stamped with the flag, every packet makes a connected session write
out what there is. -/
lemma flushes_iff_of_stamp {s : PlaySession} {n : ℕ}
    (hstamp : s.tick.nStartVideoTimestamp ≠ s.tick.nCurrentVideoTimestamp)
    (hflag : s.nStartVideoTimestamp ≠ gb28181VideoStartTimestampFlag) :
    s.Flushes n ↔
      s.isRun = true ∧ s.nMediaClient ≠ 0 ∧ 0 < s.nSendRtpVideoMediaBufferLength := by
  constructor
  · rintro ⟨hrun, hshort | hframe⟩
    · exact ⟨hrun, hshort.1, hshort.2.2⟩
    · exact ⟨hrun, hframe.1, hframe.2.2.2⟩
  · rintro ⟨hrun, hclient, hpos⟩
    exact ⟨hrun, Or.inr ⟨hclient, hflag, hstamp, hpos⟩⟩

/-- The members that sending packets leaves alone. -/
def fixed (s : PlaySession) : LLONG × ℤ × LLONG × LLONG × ℤ × UInt32 × UInt32 :=
  (s.lLoginID, s.nChannel, s.lRecordPlayHandle, s.lRealPlayHandle, s.nVideoStreamID, s.inputHandle,
    s.inputSsrc)

/-- A packet that makes the session write: the result of the write is returned, and a failed write
takes the connection away. -/
lemma sendMS_of_flushes {s : PlaySession} {w : ℤ} {data : List UInt8} (h : s.Flushes data.length) :
    let r := s.sendMS ⟨fun _ => w, [], []⟩ data
    r.1 = w ∧ r.2.2.writes = [⟨s.nMediaClient, s.buffered, w⟩] ∧ r.2.1.fixed = s.fixed ∧
      r.2.1.nMediaClient = if w = 0 then s.nMediaClient else 0 := by
  obtain ⟨hrun, hflush⟩ := h
  have hrun : ¬ s.isRun = false := by simp [hrun]
  by_cases h₁ : s.spaceShort data.length
  · -- the second flush wants a buffer that is not empty, which it is after the first
    have h₂ : ¬ ({ s with nSendRtpVideoMediaBufferLength := 0 } : PlaySession).tick.newFrame :=
      fun hn => absurd hn.2.2.2 (Nat.lt_irrefl 0)
    by_cases hw : w = 0
    · subst hw
      simp only [sendMS, if_neg hrun, if_pos h₁, flushBuffer_ok, if_neg h₂, ne_eq,
        not_true_eq_false, if_false, if_true]
      refine ⟨?_, ?_, ?_, ?_⟩ <;> trivial
    · simp only [sendMS, if_neg hrun, if_pos h₁, flushBuffer, hw, ne_eq, not_false_eq_true,
        if_true, if_false]
      refine ⟨?_, ?_, ?_, ?_⟩ <;> trivial
  · have h₂ : s.tick.newFrame := hflush.resolve_left h₁
    by_cases hw : w = 0
    · subst hw
      simp only [sendMS, if_neg hrun, if_neg h₁, if_pos h₂, flushBuffer_ok, ne_eq,
        not_true_eq_false, if_false, if_true]
      refine ⟨?_, ?_, ?_, ?_⟩ <;> trivial
    · simp only [sendMS, if_neg hrun, if_neg h₁, if_pos h₂, flushBuffer, hw, ne_eq,
        not_true_eq_false, not_false_eq_true, if_true, if_false]
      refine ⟨?_, ?_, ?_, ?_⟩ <;> trivial

lemma sendMS_of_not_flushes {s : PlaySession} {w : ℤ} {data : List UInt8}
    (h : ¬ s.Flushes data.length) :
    let r := s.sendMS ⟨fun _ => w, [], []⟩ data
    r.1 = 0 ∧ r.2.2.writes = [] ∧ r.2.1.fixed = s.fixed ∧
      r.2.1.nMediaClient = s.nMediaClient := by
  by_cases hrun : s.isRun = false
  · simp only [sendMS, if_pos hrun]
    refine ⟨?_, ?_, ?_, ?_⟩ <;> trivial
  · have hstay : ¬ (s.spaceShort data.length ∨ s.tick.newFrame) :=
      fun hf => h ⟨by simpa using hrun, hf⟩
    rw [not_or] at hstay
    simp only [sendMS, if_neg hrun, if_neg hstay.1, if_neg hstay.2, ne_eq, not_true_eq_false,
      if_false]
    refine ⟨?_, ?_, ?_, ?_⟩ <;> trivial

end PlaySession

namespace Leftover

/-- A session with the members that its calls and callbacks use beside those of `PlaySession`. -/
structure Session extends PlaySession where
  sBuffer : ℕ
  videoPTS : UInt64
  /-- `optionPS.alimod` -/
  alimod : ℤ
  isFrist : Bool
  nSpeed : ℚ
  bPause : Bool

/-- `PlaySession::PlaySession`. -/
def Session.new (mem : Session) (handle : LLONG) (channel : ℤ) (streamid : String) : Session :=
  { mem with
    toPlaySession := PlaySession.new mem.toPlaySession handle channel streamid
    isFrist := true
    nSpeed := 1 }

/-- The options that `creat_packet` passes to the RTP library; the payload is 96, a video as PS
stream, with 3600 ticks from frame to frame. -/
structure SessionOpt where
  handle : UInt32
  payload : ℕ
  ssrc : UInt32
  alimod : ℤ
  ttincre : ℤ

/-- The three calls of the SDK that change the speed. -/
inductive SpeedCall where
  | normal
  | fast
  | slow

/-- What a session does towards the libraries, and the values it returns. -/
inductive Observed where
  | connect (ip : String) (port : ℤ)
  | disconnect (clihandle : NETHANDLE)
  | write (clihandle : NETHANDLE) (data : List UInt8)
  | psMuxerCreate
  | psMuxerAddStream (muxer : ℕ)
  | psMuxerInput (muxer : ℕ) (stream : ℤ) (pts dts : UInt64) (data : List UInt8)
  | rtpPacketStart
  | rtpPacketSetSessionOpt (opt : SessionOpt)
  | rtpPacketInput (handle ssrc : UInt32) (data : List UInt8) (timestamp : ℕ)
  | device (c : DeviceCall)
  | stop (k : PlaySession.StreamKind) (handle : LLONG)
  | speed (c : SpeedCall) (handle : LLONG)
  | pause (handle : LLONG) (bPause : Bool)
  | returned (value : ℤ)
  | buffer (address : ℕ)

def Observed.download : Observed → Option LLONG
  | .stop .download handle => some handle
  | _ => none

/-- What comes in a callback of the device SDK. -/
inductive DataType where
  | h264
  | gbps
  | other
  deriving DecidableEq

/-- A call of a session, or a callback into it, with what the libraries answer. The callbacks that
the muxer and the RTP library make while they take data come behind the call that hands the data
over; they do not read `videoPTS`, which this call stores at its end. A failed `rtp_packet_start`
may keep the handle as it was. -/
inductive Call where
  | setMSAddr (ip : String) (port linkType : ℤ) (a : PlaySession.MediaAnswers) (keepsHandle : Bool)
  | startRealPlaySession (a : PlaySession.StartAnswers)
  | startRecordPlaySession (record : Record) (a : PlaySession.StartAnswers)
  | realData (type : DataType) (pBuffer : List UInt8)
  | recordData (type : DataType) (pBuffer : List UInt8)
  | psAlloc
  | psWrite (packet : List UInt8)
  | rtpPacket (data : List UInt8) (writeResult : ℤ)
  | sendMS (data : List UInt8) (writeResult : ℤ)
  | setSpeed (speed : ℚ) (answer : ℕ → Bool) (lastError : UInt32)
  | setSpeedType (type : ℤ) (answer : Bool) (lastError : UInt32)
  | pausePlayBack (bPause : Bool) (answer : Bool) (lastError : UInt32)
  | stopSession (a : PlaySession.StopAnswers)

namespace Session

/-! ### Connecting -/

/-- `PlaySession::creat_packet`. -/
def creatPacket (s : Session) (a : PlaySession.MediaAnswers) (keepsHandle : Bool) :
    Session × List Observed :=
  let hRtpPS := if a.rtpPacketStart.1 ≠ 0 ∧ keepsHandle then s.hRtpPS else a.rtpPacketStart.2
  let a := { a with rtpPacketStart := (a.rtpPacketStart.1, hRtpPS) }
  let opt := if a.rtpPacketStart.1 ≠ 0 then [] else
    [Observed.rtpPacketSetSessionOpt ⟨hRtpPS, 96, a.rand, s.alimod, 90000 / 25⟩]
  let stream := if a.rtpPacketStart.1 = 0 ∧ s.nVideoStreamID = -1 ∧ a.psMuxerCreate ≠ 0 then
    [Observed.psMuxerAddStream a.psMuxerCreate] else []
  ({ s with toPlaySession := (s.toPlaySession.creatPacket a).2 },
    [.psMuxerCreate, .rtpPacketStart] ++ opt ++ stream)

/-- `PlaySession::setMSAddr`. -/
def setMSAddr (s : Session) (ip : String) (port linkType : ℤ) (a : PlaySession.MediaAnswers)
    (keepsHandle : Bool) : Session × List Observed :=
  let s := { s with msDispatch := ⟨ip, port, linkType⟩ }
  let (nRet, p) := s.toPlaySession.connetMS a
  let (s, created) := { s with toPlaySession := p }.creatPacket a keepsHandle
  (s, .connect ip port :: created ++ [.returned (if nRet = 0 then 1 else 0)])

/-! ### Data of the device -/

/-- `PlaySession::es_to_ps`. -/
def esToPs (s : Session) (data : List UInt8) : Session × List Observed :=
  if s.psMuxer ≠ 0 then
    ({ s with videoPTS := s.videoPTS + 90000 / 25 },
      [.psMuxerInput s.psMuxer s.nVideoStreamID s.videoPTS s.videoPTS data])
  else (s, [])

/-- `PlaySession::ps_to_rtp`. Nothing changes in the session but the pointer to the data. -/
def psToRtp (s : Session) (data : List UInt8) : List Observed :=
  if 0 < s.hRtpPS then [.rtpPacketInput s.inputHandle s.inputSsrc data 0] else []

def startsStream (s : Session) (pBuffer : List UInt8) : Bool :=
  pBuffer.getD 4 0 = 0x67 && s.isFrist

/-- `RealDataCallbackEx`. -/
def realDataCallbackEx (s : Session) (type : DataType) (pBuffer : List UInt8) :
    Session × List Observed :=
  match type with
  | .h264 =>
    let (s', input) := s.esToPs pBuffer
    (if s.startsStream pBuffer then { s' with isFrist := false } else s', input)
  | .gbps => (s, s.psToRtp pBuffer)
  | .other => (s, [])

/-- `RecordDataCallbackEx2`. Where it ends without a `return` the value is none of the session's
and is not looked at. -/
def recordDataCallbackEx2 (s : Session) (type : DataType) (pBuffer : List UInt8) :
    Session × List Observed :=
  let (s', input) := s.realDataCallbackEx type pBuffer
  (s', input ++
    if type = .gbps ∨ (type = .h264 ∧ s.startsStream pBuffer) then [.returned 0] else [])

/-- `ps_write`. -/
def psWrite (s : Session) (packet : List UInt8) : List Observed :=
  (if s.isRun then s.psToRtp packet else []) ++ [.returned 1]

/-! ### Packets -/

/-- `PlaySession::sendMS`, with the result of its write. -/
def sendMS (s : Session) (data : List UInt8) (writeResult : ℤ) : ℤ × Session × List Observed :=
  let (ret, p, env) := s.toPlaySession.sendMS ⟨fun _ => writeResult, [], []⟩ data
  (ret, { s with toPlaySession := p }, env.writes.map fun w => .write w.clihandle w.data)

/-- `GB28181RtpServer_rtp_packet_callback_func_send`. -/
def rtpPacketCallback (s : Session) (data : List UInt8) (writeResult : ℤ) :
    Session × List Observed :=
  if s.isRun = false then (s, []) else (s.sendMS data writeResult).2

/-! ### Control -/

/-- How many calls of the SDK a loop makes: up to the first that succeeds. -/
def callsMade (answer : ℕ → Bool) : ℕ → ℕ → ℕ
  | 0, _ => 0
  | n + 1, i => if answer i then 1 else callsMade answer n (i + 1) + 1

/-- The end of `setSpeed`. -/
def changeSpeed (s : Session) (speed : ℚ) (dhRet : Bool) (lastError : UInt32)
    (calls : List SpeedCall) : Session × List Observed :=
  (if dhRet then { s with nSpeed := speed } else s,
    calls.map (.speed · s.lRecordPlayHandle) ++
      [.returned (if dhRet then 0 else dhSdkGetLastError lastError)])

/-- `PlaySession::setSpeed(float)`. -/
def setSpeed (s : Session) (speed : ℚ) (answer : ℕ → Bool) (lastError : UInt32) :
    Session × List Observed :=
  if speed = 1 then s.changeSpeed speed (answer 0) lastError [.normal]
  else if speed > s.nSpeed then
    let n := Speed.rounds speed s.nSpeed
    let r := Speed.loop id (2 * s.nSpeed) answer n 0 (speed, 0, true)
    s.changeSpeed r.1 r.2.2 lastError (List.replicate (callsMade answer n 0) .fast)
  else
    let n := Speed.rounds s.nSpeed speed
    let r := Speed.loop id (((1 / 2 : ℤ) : ℚ) * s.nSpeed) answer n 0 (speed, 0, true)
    s.changeSpeed r.1 r.2.2 lastError (List.replicate (callsMade answer n 0) .slow)

/-- The end of `setSpeed` in a session and in a player, whose rate is not looked at. -/
lemma changeSpeed_ended (s : Session) {p : Speed.Player} (c : Speed.Call) (hp : p.speed = s.nSpeed)
    (speed rate : ℚ) (dhRet : Bool) (calls : List SpeedCall) :
    (s.changeSpeed speed dhRet c.lastError calls).1.nSpeed =
        (p.ended c (speed, rate, dhRet)).speed ∧
      ∃ made ret, (s.changeSpeed speed dhRet c.lastError calls).2 = made ++ [.returned ret] ∧
        (p.ended c (speed, rate, dhRet)).last = some (ret, c.target) := by
  refine ⟨?_, _, _, rfl, rfl⟩
  cases dhRet with
  | true => rfl
  | false => exact hp.symm

/-- The speed that is recorded and the value that is returned are those of a player. -/
lemma setSpeed_player (s : Session) {p : Speed.Player} (c : Speed.Call) (hp : p.speed = s.nSpeed) :
    (s.setSpeed c.target c.answer c.lastError).1.nSpeed = (p.setSpeed c).speed ∧
      ∃ made ret, (s.setSpeed c.target c.answer c.lastError).2 = made ++ [.returned ret] ∧
        (p.setSpeed c).last = some (ret, c.target) := by
  by_cases hone : c.target = 1
  · rw [setSpeed, Speed.Player.setSpeed, if_pos hone, if_pos hone]
    exact s.changeSpeed_ended c hp _ _ _ _
  · by_cases hgt : c.target > s.nSpeed
    · obtain ⟨hspeed, hret⟩ := Speed.loop_speed id (fun r => 2 * r) (2 * s.nSpeed) c.answer
        (Speed.rounds c.target s.nSpeed) 0 c.target 0 p.rate true
      rw [setSpeed, Speed.Player.setSpeed, hp, if_neg hone, if_neg hone, if_pos hgt, if_pos hgt]
      dsimp only
      rw [hspeed, hret]
      exact s.changeSpeed_ended c hp _ _ _ _
    · obtain ⟨hspeed, hret⟩ := Speed.loop_speed id (fun r => r / 2)
        (((1 / 2 : ℤ) : ℚ) * s.nSpeed) c.answer (Speed.rounds s.nSpeed c.target) 0 c.target 0 p.rate
        true
      rw [setSpeed, Speed.Player.setSpeed, hp, if_neg hone, if_neg hone, if_neg hgt, if_neg hgt]
      -- `1 / 2` is 0 in the integers of the code, here as in the loop of `Speed`
      dsimp only
      rw [hspeed, hret]
      exact s.changeSpeed_ended c hp _ _ _ _

/-- `PlaySession::setSpeed(int)`: `_FastPlay` is 2 and `_SlowPlay` is 0. -/
def setSpeedType (s : Session) (type : ℤ) (answer : Bool) (lastError : UInt32) :
    Session × List Observed :=
  if type = 2 then s.changeSpeed (2 * s.nSpeed) answer lastError [.fast]
  else if type = 0 then s.changeSpeed (((1 / 2 : ℤ) : ℚ) * s.nSpeed) answer lastError [.slow]
  else s.changeSpeed 1 answer lastError [.normal]

/-- `PlaySession::pausePlayBack`. -/
def pausePlayBack (s : Session) (bPause : Bool) (answer : Bool) (lastError : UInt32) :
    Session × List Observed :=
  ({ s with bPause := if answer then bPause else !bPause },
    [.pause s.lRecordPlayHandle bPause,
      .returned (if answer then 0 else dhSdkGetLastError lastError)])

/-- `PlaySession::stopSession`. -/
def stopSession (s : Session) (a : PlaySession.StopAnswers) : Session × List Observed :=
  let r := s.toPlaySession.stopSession a
  let disconnect := if r.stops ≠ [] ∧ s.nMediaClient ≠ 0 then
    [Observed.disconnect s.nMediaClient] else []
  ({ s with toPlaySession := r.session },
    r.stops.map (fun k => .stop k.1 k.2) ++ disconnect ++ [.returned r.ret])

/-- One call, for what the local times of `startRecordPlaySession` hold to begin with. -/
def call (s : Session) (times : NetTimes) : Call → Session × List Observed
  | .setMSAddr ip port linkType a keepsHandle => s.setMSAddr ip port linkType a keepsHandle
  | .startRealPlaySession a =>
    let r := s.toPlaySession.startRealPlaySession a
    ({ s with toPlaySession := r.session }, r.calls.map .device ++ [.returned r.ret])
  | .startRecordPlaySession record a =>
    let r := s.toPlaySession.startRecordPlaySession times a record
    ({ s with toPlaySession := r.session }, r.calls.map .device ++ [.returned r.ret])
  | .realData type pBuffer => s.realDataCallbackEx type pBuffer
  | .recordData type pBuffer => s.recordDataCallbackEx2 type pBuffer
  | .psAlloc => (s, [.buffer s.sBuffer])
  | .psWrite packet => (s, s.psWrite packet)
  | .rtpPacket data writeResult => s.rtpPacketCallback data writeResult
  | .sendMS data writeResult =>
    let (ret, s, writes) := s.sendMS data writeResult
    (s, writes ++ [.returned ret])
  | .setSpeed speed answer lastError => s.setSpeed speed answer lastError
  | .setSpeedType type answer lastError => s.setSpeedType type answer lastError
  | .pausePlayBack bPause answer lastError => s.pausePlayBack bPause answer lastError
  | .stopSession a => s.stopSession a

end Session

/-! ### Two sessions -/

/-- Two sessions and what they have done. -/
structure Pair where
  fst : Session
  snd : Session
  fstDone : List Observed
  sndDone : List Observed

/-- Two sessions that are constructed alike over two storages. -/
def Pair.start (mem mem' : Session) (handle : LLONG) (channel : ℤ) (streamid : String) : Pair :=
  ⟨.new mem handle channel streamid, .new mem' handle channel streamid, [], []⟩

/-- The same call of both, and what the local times hold in the one and in the other. -/
structure BothCall where
  call : Call
  fstTimes : NetTimes
  sndTimes : NetTimes

def step (p : Pair) (c : BothCall) : Option Pair :=
  some ⟨(p.fst.call c.fstTimes c.call).1, (p.snd.call c.sndTimes c.call).1,
    p.fstDone ++ (p.fst.call c.fstTimes c.call).2, p.sndDone ++ (p.snd.call c.sndTimes c.call).2⟩

/-- The sessions have done the same, and have stopped no download: none of the calls starts one. -/
structure Same (p : Pair) : Prop where
  done : p.fstDone = p.sndDone
  downloads : p.fstDone.filterMap Observed.download = []

/-- The sessions treat a packet alike: both write out the same bytes, or neither does. -/
def PacketAgrees (s s' : Session) (nDataLength : ℕ) : Prop :=
  (s.Flushes nDataLength ↔ s'.Flushes nDataLength) ∧
    (s.Flushes nDataLength → s.buffered = s'.buffered)

/-- The members that a callback with data reads are alike. -/
def DataAgrees (s s' : Session) : DataType → Prop
  | .h264 => s.psMuxer = s'.psMuxer ∧ (s.psMuxer ≠ 0 → s.videoPTS = s'.videoPTS)
  | .gbps => 0 < s.hRtpPS ↔ 0 < s'.hRtpPS
  | .other => True

/-- The members that a call reads, and that the constructor leaves as they were, are alike in both
sessions; there is no handle of a download; and two times that go to the SDK are alike, so far as
the texts of the request leave them open. -/
def Agrees (s s' : Session) (times times' : NetTimes) : Call → Prop
  | .setMSAddr _ _ _ a _ => a.rtpPacketStart.1 = 0 → s.alimod = s'.alimod
  | .realData type _ | .recordData type _ => DataAgrees s s' type
  | .psAlloc => s.sBuffer = s'.sBuffer
  | .psWrite _ => (s.isRun = true ∧ 0 < s.hRtpPS) ↔ (s'.isRun = true ∧ 0 < s'.hRtpPS)
  | .rtpPacket data _ | .sendMS data _ => PacketAgrees s s' data.length
  | .stopSession _ => s.lDowloadPlayHandle = 0 ∧ s'.lDowloadPlayHandle = 0
  | .startRecordPlaySession record a => a.setStreamType = true → a.setRecordType = true →
      times.scan record.startTime record.endTime = times'.scan record.startTime record.endTime
  | .startRealPlaySession _ | .setSpeed _ _ _ | .setSpeedType _ _ _ | .pausePlayBack _ _ _ => True

/-- What the constructor and the calls keep alike. -/
structure Related (s s' : Session) : Prop where
  client : s.nMediaClient = s'.nMediaClient
  fixed : s.fixed = s'.fixed
  frist : s.isFrist = s'.isFrist
  speed : s.nSpeed = s'.nSpeed

lemma related_start (mem mem' : Session) (handle : LLONG) (channel : ℤ) (streamid : String) :
    Related (.new mem handle channel streamid) (.new mem' handle channel streamid) :=
  ⟨rfl, rfl, rfl, rfl⟩

/-- Two stops that have come equally far. -/
structure StopsAlike (r r' : PlaySession.Stopped) : Prop where
  ret : r.ret = r'.ret
  stops : r.stops = r'.stops
  handle : ∀ k, r.session.handle k = r'.session.handle k
  client : r.session.nMediaClient = r'.session.nMediaClient
  fixed : r.session.fixed = r'.session.fixed

lemma StopsAlike.disconnetMS {r r' : PlaySession.Stopped} (h : StopsAlike r r') (val : ℤ) :
    StopsAlike { r with session := r.session.disconnetMS val }
      { r' with session := r'.session.disconnetMS val } := by
  refine ⟨h.ret, h.stops, fun k => ?_, ?_, ?_⟩
  · simp only [PlaySession.handle_disconnetMS, h.handle k]
  · simp only [PlaySession.disconnetMS, h.client]
    split_ifs <;> first | rfl | exact h.client
  · simp only [PlaySession.disconnetMS, h.client]
    split_ifs <;> exact h.fixed

namespace Related

variable {s s' : Session}

lemma members (h : Related s s') :
    s.lLoginID = s'.lLoginID ∧ s.nChannel = s'.nChannel ∧
      s.lRecordPlayHandle = s'.lRecordPlayHandle ∧ s.lRealPlayHandle = s'.lRealPlayHandle ∧
      s.nVideoStreamID = s'.nVideoStreamID ∧ s.inputHandle = s'.inputHandle ∧
      s.inputSsrc = s'.inputSsrc := by
  simpa only [PlaySession.fixed, Prod.mk.injEq] using h.fixed

/-! ### One call of both -/

lemma sendMS (h : Related s s') (data : List UInt8) (w : ℤ) :
    ((s.sendMS data w).2.2 = (s'.sendMS data w).2.2 ↔ PacketAgrees s s' data.length) ∧
      (PacketAgrees s s' data.length → (s.sendMS data w).1 = (s'.sendMS data w).1 ∧
        Related (s.sendMS data w).2.1 (s'.sendMS data w).2.1) := by
  simp only [Session.sendMS, PacketAgrees]
  by_cases hf : s.Flushes data.length
  · obtain ⟨hret, hwrites, hfix, hclient⟩ := PlaySession.sendMS_of_flushes (w := w) hf
    by_cases hf' : s'.Flushes data.length
    · obtain ⟨hret', hwrites', hfix', hclient'⟩ := PlaySession.sendMS_of_flushes (w := w) hf'
      refine ⟨?_, fun _ => ⟨hret.trans hret'.symm, ?_, ?_, h.frist, h.speed⟩⟩
      · simp [hwrites, hwrites', hf, hf', h.client]
      · exact hclient.trans (h.client ▸ hclient'.symm)
      · exact hfix.trans (h.fixed.trans hfix'.symm)
    · obtain ⟨hret', hwrites', hfix', hclient'⟩ := PlaySession.sendMS_of_not_flushes (w := w) hf'
      refine ⟨?_, fun hp => absurd (hp.1.mp hf) hf'⟩
      simp [hwrites, hwrites', hf, hf']
  · obtain ⟨hret, hwrites, hfix, hclient⟩ := PlaySession.sendMS_of_not_flushes (w := w) hf
    by_cases hf' : s'.Flushes data.length
    · obtain ⟨hret', hwrites', hfix', hclient'⟩ := PlaySession.sendMS_of_flushes (w := w) hf'
      refine ⟨?_, fun hp => absurd (hp.1.mpr hf') hf⟩
      simp [hwrites, hwrites', hf, hf']
    · obtain ⟨hret', hwrites', hfix', hclient'⟩ := PlaySession.sendMS_of_not_flushes (w := w) hf'
      refine ⟨?_, fun _ => ⟨hret.trans hret'.symm, ?_, ?_, h.frist, h.speed⟩⟩
      · simp [hwrites, hwrites', hf, hf']
      · exact hclient.trans (h.client.trans hclient'.symm)
      · exact hfix.trans (h.fixed.trans hfix'.symm)

lemma creatPacket (h : Related s s') (a : PlaySession.MediaAnswers) (keepsHandle : Bool) :
    ((s.creatPacket a keepsHandle).2 = (s'.creatPacket a keepsHandle).2 ↔
      (a.rtpPacketStart.1 = 0 → s.alimod = s'.alimod)) ∧
    Related (s.creatPacket a keepsHandle).1 (s'.creatPacket a keepsHandle).1 := by
  obtain ⟨hlogin, hchannel, hrecord, hreal, hstream, hhandle, hssrc⟩ := h.members
  by_cases hstart : a.rtpPacketStart.1 = 0
  · constructor
    · simp [Session.creatPacket, hstart, hstream]
    · -- a video stream is added once, to a muxer that could be made
      by_cases hnew : s'.nVideoStreamID = -1 ∧ a.psMuxerCreate ≠ 0
      · constructor
        · simp [Session.creatPacket, PlaySession.creatPacket, hstart, hstream, hnew, h.client]
        · simp [Session.creatPacket, PlaySession.creatPacket, PlaySession.fixed, hstart, hnew,
            hlogin, hchannel, hrecord, hreal, hstream]
        · exact h.frist
        · exact h.speed
      · constructor
        · simp [Session.creatPacket, PlaySession.creatPacket, hstart, hstream, hnew, h.client]
        · simp [Session.creatPacket, PlaySession.creatPacket, PlaySession.fixed, hstart, hnew,
            hlogin, hchannel, hrecord, hreal, hstream]
        · exact h.frist
        · exact h.speed
  · -- `rtpPacketStart` failed, and nothing of the session is passed on
    constructor
    · simp [Session.creatPacket, hstart, hstream]
    · constructor
      · simp [Session.creatPacket, PlaySession.creatPacket, hstart, h.client]
      · simp [Session.creatPacket, PlaySession.creatPacket, PlaySession.fixed, hstart, hlogin,
          hchannel, hrecord, hreal, hstream, hhandle, hssrc]
      · exact h.frist
      · exact h.speed

lemma setMSAddr (h : Related s s') (ip : String) (port linkType : ℤ)
    (a : PlaySession.MediaAnswers) (keepsHandle : Bool) :
    ((s.setMSAddr ip port linkType a keepsHandle).2 =
        (s'.setMSAddr ip port linkType a keepsHandle).2 ↔
      (a.rtpPacketStart.1 = 0 → s.alimod = s'.alimod)) ∧
    Related (s.setMSAddr ip port linkType a keepsHandle).1
      (s'.setMSAddr ip port linkType a keepsHandle).1 := by
  by_cases hconnect : a.connect.1 = 0
  · simp only [Session.setMSAddr, PlaySession.connetMS, if_pos hconnect]
    have hrel : Related
        { s with msDispatch := ⟨ip, port, linkType⟩, nMediaClient := a.connect.2 }
        { s' with msDispatch := ⟨ip, port, linkType⟩, nMediaClient := a.connect.2 } :=
      ⟨rfl, h.fixed, h.frist, h.speed⟩
    obtain ⟨hsame, hrel⟩ := hrel.creatPacket a keepsHandle
    refine ⟨?_, hrel⟩
    rw [← hsame]
    simp
  · simp only [Session.setMSAddr, PlaySession.connetMS, if_neg hconnect]
    have hrel : Related { s with msDispatch := ⟨ip, port, linkType⟩ }
        { s' with msDispatch := ⟨ip, port, linkType⟩ } :=
      ⟨h.client, h.fixed, h.frist, h.speed⟩
    obtain ⟨hsame, hrel⟩ := hrel.creatPacket a keepsHandle
    refine ⟨?_, hrel⟩
    rw [← hsame]
    simp

lemma psToRtp_iff (h : Related s s') (data : List UInt8) :
    s.psToRtp data = s'.psToRtp data ↔ (0 < s.hRtpPS ↔ 0 < s'.hRtpPS) := by
  obtain ⟨-, -, -, -, -, hhandle, hssrc⟩ := h.members
  simp only [Session.psToRtp, hhandle, hssrc]
  split_ifs with h₁ h₂ h₂
  · simp [h₁, h₂]
  · simp [h₁, h₂]
  · simp [h₁, h₂]
  · simp [h₁, h₂]

lemma esToPs (h : Related s s') (data : List UInt8) :
    ((s.esToPs data).2 = (s'.esToPs data).2 ↔
      s.psMuxer = s'.psMuxer ∧ (s.psMuxer ≠ 0 → s.videoPTS = s'.videoPTS)) ∧
    Related (s.esToPs data).1 (s'.esToPs data).1 := by
  obtain ⟨-, -, -, -, hstream, -, -⟩ := h.members
  simp only [Session.esToPs, hstream]
  by_cases h₁ : s.psMuxer = 0
  · by_cases h₂ : s'.psMuxer = 0
    · exact ⟨by simp [h₁, h₂], by simpa [h₁, h₂] using h⟩
    · refine ⟨by simp [h₁, h₂, Ne.symm h₂], ?_⟩
      rw [if_neg (not_not_intro h₁), if_pos h₂]
      exact ⟨h.client, h.fixed, h.frist, h.speed⟩
  · by_cases h₂ : s'.psMuxer = 0
    · refine ⟨by simp [h₁, h₂], ?_⟩
      rw [if_pos h₁, if_neg (not_not_intro h₂)]
      exact ⟨h.client, h.fixed, h.frist, h.speed⟩
    · refine ⟨by simp [h₁, h₂], ?_⟩
      rw [if_pos h₁, if_pos h₂]
      exact ⟨h.client, h.fixed, h.frist, h.speed⟩

lemma realDataCallbackEx (h : Related s s') (type : DataType) (pBuffer : List UInt8) :
    ((s.realDataCallbackEx type pBuffer).2 = (s'.realDataCallbackEx type pBuffer).2 ↔
      DataAgrees s s' type) ∧
    Related (s.realDataCallbackEx type pBuffer).1 (s'.realDataCallbackEx type pBuffer).1 := by
  cases type with
  | h264 =>
    obtain ⟨hsame, hrel⟩ := h.esToPs pBuffer
    refine ⟨hsame, ?_⟩
    -- whether a stream starts depends on `_frist`, which the constructor sets
    have hstarts : s.startsStream pBuffer = s'.startsStream pBuffer := by
      rw [Session.startsStream, Session.startsStream, h.frist]
    simp only [Session.realDataCallbackEx, hstarts]
    split_ifs
    · exact ⟨hrel.client, hrel.fixed, rfl, hrel.speed⟩
    · exact hrel
  | gbps => exact ⟨h.psToRtp_iff pBuffer, h⟩
  | other => exact ⟨iff_of_true rfl trivial, h⟩

lemma recordDataCallbackEx2 (h : Related s s') (type : DataType) (pBuffer : List UInt8) :
    ((s.recordDataCallbackEx2 type pBuffer).2 = (s'.recordDataCallbackEx2 type pBuffer).2 ↔
      DataAgrees s s' type) ∧
    Related (s.recordDataCallbackEx2 type pBuffer).1
      (s'.recordDataCallbackEx2 type pBuffer).1 := by
  obtain ⟨hsame, hrel⟩ := h.realDataCallbackEx type pBuffer
  have hstarts : s.startsStream pBuffer = s'.startsStream pBuffer := by
    rw [Session.startsStream, Session.startsStream, h.frist]
  refine ⟨?_, hrel⟩
  simp only [Session.recordDataCallbackEx2, hstarts, List.append_cancel_right_eq]
  exact hsame

lemma psWrite_iff (h : Related s s') (packet : List UInt8) :
    s.psWrite packet = s'.psWrite packet ↔
      ((s.isRun = true ∧ 0 < s.hRtpPS) ↔ (s'.isRun = true ∧ 0 < s'.hRtpPS)) := by
  obtain ⟨-, -, -, -, -, hhandle, hssrc⟩ := h.members
  -- the handle and the SSRC go out with the packet, if it goes out at all
  have hpack : ∀ t : Session, (if t.isRun = true then t.psToRtp packet else []) =
      if t.isRun = true ∧ 0 < t.hRtpPS then
        [.rtpPacketInput t.inputHandle t.inputSsrc packet 0] else [] := by
    intro t
    by_cases hrun : t.isRun = true
    · simp [hrun, Session.psToRtp]
    · simp [hrun]
  simp only [Session.psWrite, List.append_cancel_right_eq, hpack, hhandle, hssrc]
  split_ifs with h₁ h₂ h₂
  · simp [h₁, h₂]
  · simp [h₁, h₂]
  · simp [h₁, h₂]
  · simp [h₁, h₂]

lemma rtpPacketCallback_eq (s : Session) (data : List UInt8) (w : ℤ) :
    s.rtpPacketCallback data w = (s.sendMS data w).2 := by
  rw [Session.rtpPacketCallback]
  split_ifs with hrun
  · simp [Session.sendMS, PlaySession.sendMS, hrun]
  · rfl

lemma stopHandle (a : PlaySession.StopAnswers) (k : PlaySession.StreamKind)
    {r r' : PlaySession.Stopped} (h : StopsAlike r r') :
    StopsAlike (PlaySession.stopHandle a r k) (PlaySession.stopHandle a r' k) := by
  have hclear : ∀ j, (r.session.clearHandle k).handle j = (r'.session.clearHandle k).handle j := by
    intro j
    by_cases hj : j = k
    · subst hj
      cases j <;> rfl
    · rw [PlaySession.handle_clearHandle_ne _ hj, PlaySession.handle_clearHandle_ne _ hj,
        h.handle j]
  have hfixed : (r.session.clearHandle k).fixed = (r'.session.clearHandle k).fixed := by
    have hfixed := h.fixed
    simp only [PlaySession.fixed, Prod.mk.injEq] at hfixed
    obtain ⟨hlogin, hchannel, hrecord, hreal, hstream, hhandle, hssrc⟩ := hfixed
    cases k <;>
      simp only [PlaySession.fixed, PlaySession.clearHandle, hlogin, hchannel, hrecord, hreal,
        hstream, hhandle, hssrc]
  have hclient : (r.session.clearHandle k).nMediaClient = (r'.session.clearHandle k).nMediaClient :=
    by cases k <;> exact h.client
  rw [PlaySession.stopHandle, PlaySession.stopHandle, h.handle k]
  by_cases hk : r'.session.handle k ≠ 0
  · rw [if_pos hk, if_pos hk]
    exact ⟨by rw [h.ret], by rw [h.stops], hclear, hclient, hfixed⟩
  · rw [if_neg hk, if_neg hk]
    exact h

lemma stopSession (h : Related s s') (a : PlaySession.StopAnswers)
    (hdown : s.lDowloadPlayHandle = s'.lDowloadPlayHandle) :
    (s.stopSession a).2 = (s'.stopSession a).2 ∧
      Related (s.stopSession a).1 (s'.stopSession a).1 := by
  obtain ⟨-, -, hrecord, hreal, -, -, -⟩ := h.members
  have hhandle : ∀ k, s.handle k = s'.handle k := by
    intro k
    cases k
    · exact hrecord
    · exact hreal
    · exact hdown
  have halike : StopsAlike (s.toPlaySession.stopSession a) (s'.toPlaySession.stopSession a) := by
    have hstart : StopsAlike ⟨0, { s.toPlaySession with isRun := false }, []⟩
        ⟨0, { s'.toPlaySession with isRun := false }, []⟩ := ⟨rfl, rfl, hhandle, h.client, h.fixed⟩
    -- the three handles one after the other, as `StopSession` goes through them
    have hstops := List.foldl_rel (l := [PlaySession.StreamKind.record, .real, .download]) hstart
      fun k _ _ _ => stopHandle a k
    have htest : ∀ t : PlaySession,
        (({ t with isRun := false } : PlaySession).handle .record = 0 ∧
          ({ t with isRun := false } : PlaySession).handle .download = 0 ∧
          ({ t with isRun := false } : PlaySession).handle .real = 0) ↔
        (t.handle .record = 0 ∧ t.handle .download = 0 ∧ t.handle .real = 0) := fun t => Iff.rfl
    simp only [PlaySession.stopSession, htest, hhandle]
    by_cases hnone : s'.handle .record = 0 ∧ s'.handle .download = 0 ∧ s'.handle .real = 0
    · rw [if_pos hnone, if_pos hnone]
      exact hstart
    · rw [if_neg hnone, if_neg hnone]
      exact hstops.disconnetMS a.disconnect
  refine ⟨?_, halike.client, halike.fixed, h.frist, h.speed⟩
  simp only [Session.stopSession, halike.stops, halike.ret, h.client]

lemma stopSession_stops (s : PlaySession) (a : PlaySession.StopAnswers) :
    (s.stopSession a).stops = [PlaySession.StreamKind.record, .real, .download].filterMap
      fun k => if s.handle k = 0 then none else some (k, s.handle k) := by
  by_cases hrecord : s.lRecordPlayHandle = 0 <;> by_cases hreal : s.lRealPlayHandle = 0 <;>
    by_cases hdown : s.lDowloadPlayHandle = 0 <;>
    simp [PlaySession.stopSession, PlaySession.stopHandle, PlaySession.handle,
      PlaySession.clearHandle, hrecord, hreal, hdown]

/-- The downloads that a session stops: what the storage held, if it is not zero. -/
lemma stopSession_downloads (s : Session) (a : PlaySession.StopAnswers) :
    (s.stopSession a).2.filterMap Observed.download =
      if s.lDowloadPlayHandle = 0 then [] else [s.lDowloadPlayHandle] := by
  have hstops : ∀ l : List (PlaySession.StreamKind × LLONG),
      (l.map fun k => Observed.stop k.1 k.2).filterMap Observed.download =
        l.filterMap fun k => if k.1 = .download then some k.2 else none := by
    intro l
    rw [List.filterMap_map]
    congr 1
    funext k
    obtain ⟨k, handle⟩ := k
    cases k <;> rfl
  have hrest : ∀ (c : Prop) [Decidable c] (ret : ℤ),
      ((if c then [Observed.disconnect s.nMediaClient] else []) ++
        [Observed.returned ret]).filterMap Observed.download = [] := by
    intro c _ ret
    split_ifs <;> rfl
  simp only [Session.stopSession, List.append_assoc]
  rw [List.filterMap_append, hstops, hrest, List.append_nil, stopSession_stops]
  by_cases hrecord : s.lRecordPlayHandle = 0 <;> by_cases hreal : s.lRealPlayHandle = 0 <;>
    by_cases hdown : s.lDowloadPlayHandle = 0 <;>
    simp [PlaySession.handle, hrecord, hreal, hdown]

lemma stopSession_iff (h : Related s s') (a : PlaySession.StopAnswers) :
    ((s.stopSession a).2 = (s'.stopSession a).2 ∧
      (s.stopSession a).2.filterMap Observed.download = []) ↔
    s.lDowloadPlayHandle = 0 ∧ s'.lDowloadPlayHandle = 0 := by
  have hnil : ∀ t : Session, (t.stopSession a).2.filterMap Observed.download = [] ↔
      t.lDowloadPlayHandle = 0 := by
    intro t
    rw [stopSession_downloads]
    by_cases hdown : t.lDowloadPlayHandle = 0
    · exact iff_of_true (if_pos hdown) hdown
    · rw [if_neg hdown]
      exact iff_of_false (List.cons_ne_nil _ _) hdown
  constructor
  · rintro ⟨heq, hdown⟩
    exact ⟨(hnil s).mp hdown, (hnil s').mp (heq ▸ hdown)⟩
  · rintro ⟨hdown, hdown'⟩
    exact ⟨(h.stopSession a (hdown.trans hdown'.symm)).1, (hnil s).mpr hdown⟩

lemma device_downloads (l : List DeviceCall) (ret : ℤ) :
    (l.map Observed.device ++ [Observed.returned ret]).filterMap Observed.download = [] := by
  rw [List.filterMap_append, List.filterMap_map]
  induction l with
  | nil => rfl
  | cons c l ih => exact ih

lemma data_downloads (s : Session) (type : DataType) (pBuffer : List UInt8) :
    (s.realDataCallbackEx type pBuffer).2.filterMap Observed.download = [] := by
  cases type with
  | h264 =>
    simp only [Session.realDataCallbackEx, Session.esToPs]
    split_ifs <;> rfl
  | gbps =>
    simp only [Session.realDataCallbackEx, Session.psToRtp]
    split_ifs <;> rfl
  | other => rfl

lemma write_downloads (s : Session) (data : List UInt8) (w : ℤ) :
    (s.sendMS data w).2.2.filterMap Observed.download = [] := by
  simp only [Session.sendMS, List.filterMap_map]
  generalize (s.toPlaySession.sendMS ⟨fun _ => w, [], []⟩ data).2.2.writes = l
  induction l with
  | nil => rfl
  | cons c l ih => exact ih

lemma changeSpeed_downloads (s : Session) (speed : ℚ) (dhRet : Bool) (lastError : UInt32)
    (calls : List SpeedCall) :
    (s.changeSpeed speed dhRet lastError calls).2.filterMap Observed.download = [] := by
  simp only [Session.changeSpeed, List.filterMap_append, List.filterMap_map]
  induction calls with
  | nil => rfl
  | cons c calls ih => exact ih

lemma call_downloads (s : Session) (times : NetTimes) {c : Call}
    (hc : ∀ a, c ≠ .stopSession a) : (s.call times c).2.filterMap Observed.download = [] := by
  cases c with
  | setMSAddr ip port linkType a keepsHandle =>
    simp only [Session.call, Session.setMSAddr, Session.creatPacket]
    split_ifs <;> rfl
  | startRealPlaySession a => exact device_downloads _ _
  | startRecordPlaySession record a => exact device_downloads _ _
  | realData type pBuffer => exact data_downloads s type pBuffer
  | recordData type pBuffer =>
    simp only [Session.call, Session.recordDataCallbackEx2]
    rw [List.filterMap_append, data_downloads]
    split_ifs <;> rfl
  | psAlloc => rfl
  | psWrite packet =>
    simp only [Session.call, Session.psWrite, Session.psToRtp]
    split_ifs <;> rfl
  | rtpPacket data w =>
    simp only [Session.call, rtpPacketCallback_eq]
    exact write_downloads s data w
  | sendMS data w =>
    show ((s.sendMS data w).2.2 ++ [Observed.returned (s.sendMS data w).1]).filterMap _ = []
    rw [List.filterMap_append, write_downloads]
    rfl
  | setSpeed speed answer lastError =>
    simp only [Session.call, Session.setSpeed]
    split_ifs
    · exact changeSpeed_downloads _ _ _ _ _
    · exact changeSpeed_downloads _ _ _ _ _
    · exact changeSpeed_downloads _ _ _ _ _
  | setSpeedType type answer lastError =>
    simp only [Session.call, Session.setSpeedType]
    split_ifs
    · exact changeSpeed_downloads _ _ _ _ _
    · exact changeSpeed_downloads _ _ _ _ _
    · exact changeSpeed_downloads _ _ _ _ _
  | pausePlayBack bPause answer lastError => rfl
  | stopSession a => exact absurd rfl (hc a)

lemma startRealPlaySession (h : Related s s') (times times' : NetTimes)
    (a : PlaySession.StartAnswers) :
    (s.call times (.startRealPlaySession a)).2 = (s'.call times' (.startRealPlaySession a)).2 ∧
      Related (s.call times (.startRealPlaySession a)).1
        (s'.call times' (.startRealPlaySession a)).1 := by
  obtain ⟨hlogin, hchannel, hrecord, hreal, hstream, hhandle, hssrc⟩ := h.members
  simp only [Session.call, PlaySession.startRealPlaySession]
  cases a.makeKeyFrame with
  | false => exact ⟨by simp [hlogin, hchannel], h⟩
  | true =>
    refine ⟨by simp [hlogin, hchannel], h.client, ?_, h.frist, h.speed⟩
    simp [PlaySession.fixed, hlogin, hchannel, hrecord, hstream, hhandle, hssrc]

/-- A playback of both sessions. The times are passed on if both modes could be set. -/
lemma startRecordPlaySession (h : Related s s') (times times' : NetTimes) (record : Record)
    (a : PlaySession.StartAnswers) :
    ((s.call times (.startRecordPlaySession record a)).2 =
        (s'.call times' (.startRecordPlaySession record a)).2 ↔
      Agrees s s' times times' (.startRecordPlaySession record a)) ∧
      Related (s.call times (.startRecordPlaySession record a)).1
        (s'.call times' (.startRecordPlaySession record a)).1 := by
  obtain ⟨hlogin, hchannel, hrecord, hreal, hstream, hhandle, hssrc⟩ := h.members
  simp only [Session.call, Agrees, PlaySession.startRecordPlaySession]
  cases a.setStreamType with
  | false => exact ⟨by simp [hlogin], h⟩
  | true =>
    cases a.setRecordType with
    | false => exact ⟨by simp [hlogin], h⟩
    | true =>
      by_cases hplay : a.playBackByDataType = 0
      · refine ⟨by simp [hlogin, hchannel, hplay], ?_, ?_, h.frist, h.speed⟩
        · simp [hplay, h.client]
        · simp [PlaySession.fixed, hplay, hlogin, hchannel, hreal, hstream, hhandle, hssrc]
      · refine ⟨by simp [hlogin, hchannel, hplay], ?_, ?_, h.frist, h.speed⟩
        · simp [hplay, h.client]
        · simp [PlaySession.fixed, hplay, hlogin, hchannel, hreal, hstream, hhandle, hssrc]

lemma changeSpeed (h : Related s s') (speed : ℚ) (dhRet : Bool) (lastError : UInt32)
    (calls : List SpeedCall) :
    (s.changeSpeed speed dhRet lastError calls).2 = (s'.changeSpeed speed dhRet lastError calls).2 ∧
      Related (s.changeSpeed speed dhRet lastError calls).1
        (s'.changeSpeed speed dhRet lastError calls).1 := by
  obtain ⟨-, -, hrecord, -, -, -, -⟩ := h.members
  simp only [Session.changeSpeed, hrecord]
  cases dhRet with
  | true => exact ⟨trivial, h.client, h.fixed, h.frist, rfl⟩
  | false => exact ⟨trivial, h⟩

lemma setSpeed (h : Related s s') (speed : ℚ) (answer : ℕ → Bool) (lastError : UInt32) :
    (s.setSpeed speed answer lastError).2 = (s'.setSpeed speed answer lastError).2 ∧
      Related (s.setSpeed speed answer lastError).1 (s'.setSpeed speed answer lastError).1 := by
  simp only [Session.setSpeed, h.speed]
  split_ifs
  · exact h.changeSpeed _ _ _ _
  · exact h.changeSpeed _ _ _ _
  · exact h.changeSpeed _ _ _ _

lemma setSpeedType (h : Related s s') (type : ℤ) (answer : Bool) (lastError : UInt32) :
    (s.setSpeedType type answer lastError).2 = (s'.setSpeedType type answer lastError).2 ∧
      Related (s.setSpeedType type answer lastError).1
        (s'.setSpeedType type answer lastError).1 := by
  simp only [Session.setSpeedType, h.speed]
  split_ifs
  · exact h.changeSpeed _ _ _ _
  · exact h.changeSpeed _ _ _ _
  · exact h.changeSpeed _ _ _ _

lemma pausePlayBack (h : Related s s') (bPause answer : Bool) (lastError : UInt32) :
    (s.pausePlayBack bPause answer lastError).2 = (s'.pausePlayBack bPause answer lastError).2 ∧
      Related (s.pausePlayBack bPause answer lastError).1
        (s'.pausePlayBack bPause answer lastError).1 := by
  obtain ⟨-, -, hrecord, -, -, -, -⟩ := h.members
  simp only [Session.pausePlayBack, hrecord]
  exact ⟨trivial, h.client, h.fixed, h.frist, h.speed⟩

/-! ### Every call -/

/-- Two calls other than stops do the same exactly if the members that they read are alike, and then
they leave the sessions alike. -/
lemma call_of_ne (h : Related s s') (times times' : NetTimes) {c : Call}
    (hc : ∀ a, c ≠ .stopSession a) :
    ((s.call times c).2 = (s'.call times' c).2 ↔ Agrees s s' times times' c) ∧
      (Agrees s s' times times' c → Related (s.call times c).1 (s'.call times' c).1) := by
  cases c with
  | setMSAddr ip port linkType a keepsHandle =>
    obtain ⟨hsame, hrel⟩ := h.setMSAddr ip port linkType a keepsHandle
    exact ⟨hsame, fun _ => hrel⟩
  | startRealPlaySession a =>
    obtain ⟨hsame, hrel⟩ := h.startRealPlaySession times times' a
    exact ⟨iff_of_true hsame trivial, fun _ => hrel⟩
  -- the only start that reads leftover memory: the times of the request
  | startRecordPlaySession record a =>
    obtain ⟨hsame, hrel⟩ := h.startRecordPlaySession times times' record a
    exact ⟨hsame, fun _ => hrel⟩
  | realData type pBuffer =>
    obtain ⟨hsame, hrel⟩ := h.realDataCallbackEx type pBuffer
    exact ⟨hsame, fun _ => hrel⟩
  | recordData type pBuffer =>
    obtain ⟨hsame, hrel⟩ := h.recordDataCallbackEx2 type pBuffer
    exact ⟨hsame, fun _ => hrel⟩
  | psAlloc => exact ⟨by simp [Session.call, Agrees], fun _ => h⟩
  | psWrite packet => exact ⟨h.psWrite_iff packet, fun _ => h⟩
  -- the packet goes through `sendMS`, and its result is dropped
  | rtpPacket data w =>
    obtain ⟨hsame, hrel⟩ := h.sendMS data w
    simp only [Session.call, rtpPacketCallback_eq]
    exact ⟨hsame, fun hp => (hrel hp).2⟩
  | sendMS data w =>
    obtain ⟨hsame, hrel⟩ := h.sendMS data w
    refine ⟨⟨fun heq => hsame.mp ?_, fun hp => ?_⟩, fun hp => (hrel hp).2⟩
    · exact (List.append_inj' heq rfl).1
    · show (s.sendMS data w).2.2 ++ [.returned (s.sendMS data w).1] =
        (s'.sendMS data w).2.2 ++ [.returned (s'.sendMS data w).1]
      rw [hsame.mpr hp, (hrel hp).1]
  | setSpeed speed answer lastError =>
    obtain ⟨hsame, hrel⟩ := h.setSpeed speed answer lastError
    exact ⟨iff_of_true hsame trivial, fun _ => hrel⟩
  | setSpeedType type answer lastError =>
    obtain ⟨hsame, hrel⟩ := h.setSpeedType type answer lastError
    exact ⟨iff_of_true hsame trivial, fun _ => hrel⟩
  | pausePlayBack bPause answer lastError =>
    obtain ⟨hsame, hrel⟩ := h.pausePlayBack bPause answer lastError
    exact ⟨iff_of_true hsame trivial, fun _ => hrel⟩
  | stopSession a => exact absurd rfl (hc a)

/-- Two calls do the same and stop no download exactly if the members that they read are alike. -/
lemma call (h : Related s s') (times times' : NetTimes) (c : Call) :
    ((s.call times c).2 = (s'.call times' c).2 ∧
        (s.call times c).2.filterMap Observed.download = [] ↔ Agrees s s' times times' c) ∧
      (Agrees s s' times times' c → Related (s.call times c).1 (s'.call times' c).1) := by
  by_cases hc : ∃ a, c = .stopSession a
  · obtain ⟨a, rfl⟩ := hc
    exact ⟨h.stopSession_iff a, fun hdown => (h.stopSession a (hdown.1.trans hdown.2.symm)).2⟩
  · have hc : ∀ a, c ≠ .stopSession a := fun a heq => hc ⟨a, heq⟩
    obtain ⟨hsame, hrel⟩ := h.call_of_ne times times' hc
    rw [hsame]
    exact ⟨and_iff_left (call_downloads s times hc), hrel⟩

end Related

/-- The capacity of the buffer, which nothing stores, decides only behind a packet that was stamped
with the flag: where the rest is alike, a packet is treated alike unless there. -/
lemma packetAgrees_of_stamp {s s' : Session} {n : ℕ} (h : Related s s') (hrun : s.isRun = s'.isRun)
    (hbuffer : s.buffered = s'.buffered)
    (hlen : s.nSendRtpVideoMediaBufferLength = s'.nSendRtpVideoMediaBufferLength)
    (hstart : s.nStartVideoTimestamp = s'.nStartVideoTimestamp)
    (hcurrent : s.nCurrentVideoTimestamp = s'.nCurrentVideoTimestamp)
    (hstamp : s.tick.nStartVideoTimestamp ≠ s.tick.nCurrentVideoTimestamp)
    (hflag : s.nStartVideoTimestamp ≠ gb28181VideoStartTimestampFlag) : PacketAgrees s s' n := by
  have hstamp' : s'.tick.nStartVideoTimestamp ≠ s'.tick.nCurrentVideoTimestamp := by
    show s'.nStartVideoTimestamp ≠ s'.nCurrentVideoTimestamp + 1
    rw [← hstart, ← hcurrent]
    exact hstamp
  refine ⟨?_, fun _ => hbuffer⟩
  rw [PlaySession.flushes_iff_of_stamp hstamp hflag,
    PlaySession.flushes_iff_of_stamp hstamp' (hstart ▸ hflag), hrun, h.client, hlen]

/-- Two sessions over two storages do the same in the whole of a run, and stop no download, exactly
if at each call the members that it reads, and that nothing has written before, are alike, the times
that it passes on are alike, and there is no handle of a download. -/
theorem same_iff_agrees (mem mem' : Session) (handle : LLONG) (channel : ℤ) (streamid : String)
    (cs : List BothCall) :
    Run.Always step Same (.start mem mem' handle channel streamid) cs ↔
      Run.Meets step (fun p c => Agrees p.fst p.snd c.fstTimes c.sndTimes c.call)
        (.start mem mem' handle channel streamid) cs := by
  have htotal : ∀ p c, ∃ p', step p c = some p' := fun p c => ⟨_, rfl⟩
  obtain ⟨p', hrun⟩ := Run.exists_run htotal (.start mem mem' handle channel streamid) cs
  refine Run.always_iff_meets (I := fun p => Related p.fst p.snd ∧ Same p) (fun p h => h.2) ?_ ?_
    ⟨related_start mem mem' handle channel streamid, rfl, rfl⟩ hrun
  · rintro p c p' ⟨hrel, hsame⟩ hc ⟨⟩
    obtain ⟨hcall, hnext⟩ := hrel.call c.fstTimes c.sndTimes c.call
    obtain ⟨hdone, hdown⟩ := hcall.mpr hc
    refine ⟨hnext hc, ?_, ?_⟩
    · show p.fstDone ++ _ = p.sndDone ++ _
      rw [hsame.done, hdone]
    · show (p.fstDone ++ _).filterMap _ = []
      rw [List.filterMap_append, hsame.downloads, hdown]
      rfl
  · -- what the call does differently cannot be made up for
    rintro p c p' ⟨hrel, hsame⟩ hc ⟨⟩ hafter
    have hdone : p.fstDone ++ (p.fst.call c.fstTimes c.call).2 =
        p.sndDone ++ (p.snd.call c.sndTimes c.call).2 := hafter.done
    have hdown : (p.fstDone ++ (p.fst.call c.fstTimes c.call).2).filterMap Observed.download = [] :=
      hafter.downloads
    rw [hsame.done, List.append_cancel_left_eq] at hdone
    rw [List.filterMap_append, hsame.downloads, List.nil_append] at hdown
    exact hc ((hrel.call c.fstTimes c.sndTimes c.call).1.mp ⟨hdone, hdown⟩)

def Session.zeroed : Session :=
  { PlaySession.zeroed with
    sBuffer := 0, videoPTS := 0, alimod := 0, isFrist := false, nSpeed := 0, bPause := false }

/-- A request to play a day, which does not say at which hour it begins. -/
def dayRecord : Record :=
  ⟨"", "", "", 3, "", 0, "2024-05-01", "2024-05-02 00:00:00", 2, "", "s1", "", 0, "", "", "", ""⟩

/-- A session that is stopped at once stops a download of the handle that the storage held; and a
session is played from the hour that the storage held, if the request says none. -/
theorem download_of_leftover :
    ¬ Run.Always step Same
      (.start .zeroed { Session.zeroed with lDowloadPlayHandle := 5 } 100 3 "s1")
      [⟨.stopSession ⟨fun _ => true, fun _ => 0, 0⟩, .zeroed, .zeroed⟩] ∧
    ¬ Run.Always step Same (.start .zeroed .zeroed 100 3 "s1")
      [⟨.startRecordPlaySession dayRecord ⟨true, 0, true, true, 6, 0⟩, .zeroed,
        { NetTimes.zeroed with stStartTime := ⟨0, 0, 0, 10, 0, 0⟩ }⟩] := by
  constructor
  · -- a handle of a download that the constructor never set is stopped
    intro h
    have hsame := h _ List.prefix_rfl _ rfl
    have hdown := congrArg (List.filterMap Observed.download) hsame.done
    exact absurd hdown (by decide)
  · -- a text without a time of day leaves the hour to what the stack held
    intro h
    have hsame := h _ List.prefix_rfl _ rfl
    have hrel := related_start .zeroed .zeroed 100 3 "s1"
    have htimes := (hrel.startRecordPlaySession _ _ _ _).1.mp hsame.done rfl rfl
    exact absurd htimes (by decide)

end Leftover

end DHGateway
