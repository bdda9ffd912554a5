import DHGateway.Server.ParserAccess

/-!
# The key of a stream

A stream is stored under the key that its start reads from the message, and later requests look it
up under the key that they read from theirs. The start of a live stream prefers another member
than all the others.
-/

namespace DHGateway

open Json

/-! ### Requests about a running stream -/

/-- The calls of the SDK for a playback. -/
inductive PlaybackCall where
  | pausePlayBack (handle : LLONG) (pause : Bool)
  | setSpeed (handle : LLONG) (speed : Rat)

/-- What `device_record_pause`, `device_record_resume` and `device_record_speed` of `sdk_wrap`
share: they look up a session and do something with it. -/
def onSession (m : SessionMap PlaySession) (key : String)
    (act : PlaySession → ℤ × List PlaybackCall) : ℤ × List PlaybackCall :=
  match m.getPlaySession key with
  | none => (-1, [])
  | some session => act session

/-- `PlaySession::pausePlayBack`. -/
def PlaySession.pausePlayBack (session : PlaySession) (pause : Bool) (a : SdkResult) :
    ℤ × List PlaybackCall :=
  (if a.ok then 0 else dhSdkGetLastError a.lastError,
    [.pausePlayBack session.lRecordPlayHandle pause])

/-- `PlaySession::setSpeed`, up to the calls that its floating point arithmetic leads to; `ret` is
what they come to. -/
def PlaySession.setSpeed (session : PlaySession) (speed : Rat) (ret : ℤ) :
    ℤ × List PlaybackCall :=
  (ret, [.setSpeed session.lRecordPlayHandle speed])

namespace Server

variable (s : Server) (doc : Document)

/-- `server_manage::device_record_pause`. -/
def deviceRecordPause (a : SdkResult) : Except Fault (ℤ × List PlaybackCall) := do
  let (_, streamId) ← parsStreamId doc ""
  return onSession s.sessions streamId fun session => session.pausePlayBack true a

/-- `server_manage::device_record_resume`. -/
def deviceRecordResume (a : SdkResult) : Except Fault (ℤ × List PlaybackCall) := do
  let (_, streamId) ← parsStreamId doc ""
  return onSession s.sessions streamId fun session => session.pausePlayBack false a

/-- `server_manage::device_record_speed`; `speed` is not initialised. -/
def deviceRecordSpeed (speed : Rat) (ret : ℤ) : Except Fault (ℤ × List PlaybackCall) := do
  let (_, speed, streamId) ← parsRecordSpeed doc speed ""
  return onSession s.sessions streamId fun session => session.setSpeed speed ret

end Server

/-! ### Keys -/

def streamIdOf (doc : Document) : Option String :=
  ((doc.getD .null).objectMember "data").bind (stringMember "streamId")

def ssrcInfoOf (doc : Document) : Option Json :=
  ((doc.getD .null).objectMember "data").bind (objectMember "ssrcInfo")

def IsStart (t : MsgType) : Prop :=
  t = .channelPlay ∨ t = .channelPlayback

def IsLater (t : MsgType) : Prop :=
  t = .channelStopPlay ∨ t = .deviceRecordPause ∨ t = .deviceRecordResume ∨ t = .deviceRecordSpeed

/-- The key under which the handler of a start stores the session. -/
def startKey (t : MsgType) (doc : Document) (a : TaskInput) : Except Fault String :=
  match t with
  | .channelPlay => (parsChannelPlay doc (Play.new a.playMem)).map fun r => r.2.streamId
  | _ => (parsChannelPlayback doc (Record.new a.recordMem)).map fun r => r.2.streamId

/-- The key that the handler of a later request looks up. -/
def lookupKey (t : MsgType) (doc : Document) (speed : Rat) : Except Fault String :=
  match t with
  | .channelStopPlay => .ok (parsChannelStopPlay doc "").2
  | .deviceRecordSpeed => (parsRecordSpeed doc speed "").map fun r => r.2.2
  | _ => (parsStreamId doc "").map fun r => r.2

/-- The media server has the stream under the same name, if it is asked for that. -/
def SameKey (t : MsgType) (doc : Document) : Prop :=
  t = .channelPlay → ∀ ssrcInfo, ssrcInfoOf doc = some ssrcInfo →
    ssrcInfo.stringMember "streamId" = streamIdOf doc

/-! ### What the parsers make of the key -/

lemma parsChannelPlay_streamId {doc : Json} {p : Play} {r : Bool × Play}
    (h : parsChannelPlay (some doc) p = .ok r) :
    (ssrcInfoOf (some doc) = none ∧ r.2.streamId = (streamIdOf (some doc)).getD p.streamId) ∨
      ∃ ssrcInfo id, ssrcInfoOf (some doc) = some ssrcInfo ∧ streamIdOf (some doc) = some id ∧
        ssrcInfo.stringMember "streamId" = some r.2.streamId := by
  simp only [parsChannelPlay, bind_eq_ok] at h
  obtain ⟨msgType, _, msgId, _, data, hdata, h⟩ := h
  have hmember : doc.objectMember "data" = data.asObject := by
    rw [objectMember, memberAs, at'_eq_ok.mp hdata, Option.bind_some]
  simp only [ssrcInfoOf, streamIdOf, Option.getD_some, hmember]
  cases hobj : data.asObject with
  -- without `data` the object keeps the name it was made with
  | none =>
    rw [hobj] at h
    obtain ⟨⟩ := h
    exact Or.inl ⟨rfl, rfl⟩
  | some data' =>
    simp only [hobj, bind_eq_ok] at h
    obtain ⟨streamMode, _, deviceId, _, channelId, _, dispatchUrl, _, streamId, hid, ssrcInfo,
      hssrc, h⟩ := h
    have hinfo : data'.objectMember "ssrcInfo" = ssrcInfo.asObject := by
      rw [objectMember, memberAs, at'_eq_ok.mp hssrc, Option.bind_some]
    simp only [Option.bind_some, hinfo, getString_eq_ok.mp hid]
    cases hssrcObj : ssrcInfo.asObject with
    -- without `ssrcInfo` the name is that of `data`
    | none =>
      rw [hssrcObj] at h
      obtain ⟨⟩ := h
      exact Or.inl ⟨rfl, rfl⟩
    -- the name in `ssrcInfo` is read last, over that of `data`
    | some ssrcInfo' =>
      simp only [hssrcObj, bind_eq_ok] at h
      obtain ⟨_, _, _, _, _, _, _, _, ssrcId, hssrcId, _, _, ⟨⟩⟩ := h
      exact Or.inr ⟨ssrcInfo', streamId, rfl, rfl, getString_eq_ok.mp hssrcId⟩

lemma parsChannelPlayback_streamId {doc : Json} {record : Record} {r : Bool × Record}
    (h : parsChannelPlayback (some doc) record = .ok r) :
    streamIdOf (some doc) = some r.2.streamId := by
  simp only [parsChannelPlayback, bind_eq_ok] at h
  obtain ⟨_, _, _, _, data, hdata, _, _, _, _, _, _, _, _, _, _, _, _, streamId, hid, _, _, _, _, _,
    _, _, _, _, _, _, _, _, _, ⟨⟩⟩ := h
  have hid : ((some data : Document).getD .null).stringMember "streamId" = some streamId :=
    getString_eq_ok.mp hid
  obtain ⟨ms, hms⟩ := exists_obj_of_stringMember hid
  obtain rfl := Option.some.inj hms
  have hmember : doc.objectMember "data" = some (obj ms) := by
    rw [objectMember, memberAs, at'_eq_ok.mp hdata]
    rfl
  rw [streamIdOf, Option.getD_some, hmember]
  exact hid

lemma lookupKey_eq {t : MsgType} (ht : IsLater t) {doc : Document} (hdoc : getMsgType doc = some t)
    (speed : Rat) : lookupKey t doc speed = .ok ((streamIdOf doc).getD "") := by
  obtain ⟨ms, rfl⟩ := exists_obj_of_stringMember (stringMember_of_getMsgType hdoc)
  obtain ⟨found, hstream⟩ := parsStreamId_obj ms ""
  obtain ⟨found', hspeed⟩ := parsRecordSpeed_obj ms speed ""
  rcases ht with rfl | rfl | rfl | rfl
  · rfl
  · exact congrArg (Except.map Prod.snd) hstream
  · exact congrArg (Except.map Prod.snd) hstream
  · exact congrArg (Except.map fun r => r.2.2) hspeed

/-- The key of a start is the stream it names, just if the media server has that too. -/
lemma startKey_eq_iff {t : MsgType} (ht : IsStart t) {doc : Document}
    (hdoc : getMsgType doc = some t) {a : TaskInput} {key : String}
    (hkey : startKey t doc a = .ok key) : (streamIdOf doc).getD "" = key ↔ SameKey t doc := by
  obtain ⟨ms, rfl⟩ := exists_obj_of_stringMember (stringMember_of_getMsgType hdoc)
  rcases ht with rfl | rfl
  · -- `CHANNEL_PLAY`, the one that takes its name from two places
    obtain ⟨r, hr, rfl⟩ := map_eq_ok.mp hkey
    rcases parsChannelPlay_streamId hr with ⟨hnone, hid⟩ | ⟨ssrcInfo, id, hinfo, hid, hssrc⟩
    · refine iff_of_true hid.symm ?_
      intro _ ssrcInfo hinfo
      rw [hnone] at hinfo
      exact nomatch hinfo
    · simp only [SameKey, hinfo, hid, Option.getD_some, Option.some.injEq, forall_eq', hssrc,
        true_imp_iff]
      exact eq_comm
  · obtain ⟨r, hr, rfl⟩ := map_eq_ok.mp hkey
    rw [parsChannelPlayback_streamId hr]
    exact iff_of_true rfl fun h => nomatch h

/-! ### What the handlers do with the key -/

namespace Server

variable {env : Env} {s : Server} {doc : Document} {a : TaskInput} {k : String}

lemma insertStarted_getPlaySession (m : SessionMap PlaySession) {key k : String} (h : k ≠ key)
    (r : PlaySession.Started) :
    (insertStarted m key r).sessions.getPlaySession k = m.getPlaySession k := by
  rw [insertStarted]
  split_ifs with hret
  · rfl
  · exact SessionMap.getPlaySession_insert_ne m r.session h

lemma withLogin_getPlaySession {deviceId : String}
    {body : Server → LoginResults → Server × TaskEnd}
    (h : ∀ s' results, s'.sessions = s.sessions →
      (body s' results).1.sessions.getPlaySession k = s.sessions.getPlaySession k) :
    (s.withLogin deviceId a body).1.sessions.getPlaySession k = s.sessions.getPlaySession k := by
  rw [withLogin, lookupLogin]
  cases s.registry.getPlatform deviceId with
  | none => exact h s a.results rfl
  | some p =>
    dsimp only
    rcases s.mgr.connetEquipment p.credentials a.results a.login with ⟨_ | ret, mgr, results⟩
    · rfl
    · exact h { s with mgr := mgr } results rfl

/-- A start stores nothing under other keys than its own. -/
lemma handle_start_sessions {t : MsgType} (ht : IsStart t) (hdoc : getMsgType doc = some t)
    {key : String} (hkey : startKey t doc a = .ok key) (hk : k ≠ key) :
    (handle env s doc a).1.sessions.getPlaySession k = s.sessions.getPlaySession k := by
  rw [handle, hdoc]
  rcases ht with rfl | rfl
  · obtain ⟨⟨ret, temp⟩, hr, rfl⟩ := map_eq_ok.mp hkey
    show (channelPlay s doc a).1.sessions.getPlaySession k = _
    rw [channelPlay, hr]
    refine withLogin_getPlaySession fun s' results hs => ?_
    show (startRealStream s'.sessions a.mem results temp a.media a.start).sessions.getPlaySession
      k = _
    rw [startRealStream, hs]
    split
    · exact insertStarted_getPlaySession _ hk _
    · rfl
  · obtain ⟨⟨ret, temp⟩, hr, rfl⟩ := map_eq_ok.mp hkey
    show (channelPlayback s doc a).1.sessions.getPlaySession k = _
    rw [channelPlayback, hr]
    refine withLogin_getPlaySession fun s' results hs => ?_
    show (startPlayBack s'.sessions a.mem a.netTimes results temp a.media
      a.start).sessions.getPlaySession k = _
    rw [startPlayBack, hs]
    split
    · exact insertStarted_getPlaySession _ hk _
    · rfl

/-- The handlers of later requests work on the session under their key, and no other. -/
lemma handle_later {t : MsgType} {speed : Rat} {key : String}
    (hkey : lookupKey t doc speed = .ok key) :
    (t = .channelStopPlay → (channelStopPlay s doc a).1.sessions =
      (stopPlay s.sessions key a.stop).2) ∧
    (t = .deviceRecordPause → ∀ r, deviceRecordPause s doc r =
      .ok (onSession s.sessions key fun session => session.pausePlayBack true r)) ∧
    (t = .deviceRecordResume → ∀ r, deviceRecordResume s doc r =
      .ok (onSession s.sessions key fun session => session.pausePlayBack false r)) ∧
    (t = .deviceRecordSpeed → ∀ ret, ∃ speed', deviceRecordSpeed s doc speed ret =
      .ok (onSession s.sessions key fun session => session.setSpeed speed' ret)) := by
  refine ⟨?_, ?_, ?_, ?_⟩
  · rintro rfl
    obtain rfl := Except.ok.inj hkey
    rfl
  · rintro rfl r
    obtain ⟨p, hp, rfl⟩ := map_eq_ok.mp hkey
    rw [deviceRecordPause, hp]
    rfl
  · rintro rfl r
    obtain ⟨p, hp, rfl⟩ := map_eq_ok.mp hkey
    rw [deviceRecordResume, hp]
    rfl
  · rintro rfl ret
    obtain ⟨p, hp, rfl⟩ := map_eq_ok.mp hkey
    rw [deviceRecordSpeed, hp]
    exact ⟨p.2.1, rfl⟩

/-- The session of a start is stored under its key only, and a later request for the stream looks
up that key, exactly if the message does not give another name to the media server. -/
theorem stream_key_iff (env : Env) (s : Server) {t t' : MsgType} (ht : IsStart t)
    (ht' : IsLater t') {doc doc' : Document}
    (hdoc : getMsgType doc = some t) (hdoc' : getMsgType doc' = some t') {key : String}
    (hkey : startKey t doc a = .ok key) (hsame : streamIdOf doc' = streamIdOf doc) (speed : Rat) :
    (∀ k, k ≠ key →
      (handle env s doc a).1.sessions.getPlaySession k = s.sessions.getPlaySession k) ∧
    (lookupKey t' doc' speed = .ok key ↔ SameKey t doc) := by
  refine ⟨fun k hk => handle_start_sessions ht hdoc hkey hk, ?_⟩
  rw [lookupKey_eq ht' hdoc' speed, hsame, ← startKey_eq_iff ht hdoc hkey]
  exact ⟨Except.ok.inj, congrArg Except.ok⟩

/-- A request for a live stream that the media server has under the given name. -/
def playAs (ssrcStreamId : String) : Document :=
  some (.obj [("msgType", .str "CHANNEL_PLAY"), ("msgId", .str "71710"),
    ("data", .obj [("streamMode", .num 2), ("deviceId", .str "17"), ("channelId", .str "17#0"),
      ("dispatchUrl", .str ""), ("streamId", .str "s1"),
      ("ssrcInfo", .obj [("ip", .str ""), ("port", .num 0), ("ssrc", .str ""),
        ("sdpIp", .str ""), ("streamId", .str ssrcStreamId), ("mediaServerId", .str "")])])])

def stopStream : Document :=
  some (.obj [("msgType", .str "CHANNEL_STOP_PLAY"), ("data", .obj [("streamId", .str "s1")])])

/-- Under the same name the stream is found. -/
theorem stream_key_same :
    lookupKey .channelStopPlay stopStream 0 = startKey .channelPlay (playAs "s1") .silent :=
  (stream_key_iff Env.plain fresh (Or.inl rfl) (Or.inl rfl)
    (show getMsgType (playAs "s1") = some .channelPlay by decide)
    (show getMsgType stopStream = some .channelStopPlay by decide)
    (show startKey .channelPlay (playAs "s1") TaskInput.silent = .ok "s1" from rfl) rfl 0).2.mpr
    (fun _ ssrcInfo h => by obtain rfl := Option.some.inj h; rfl)

/-- Under another name the stream runs on: it is stored under one key, and looked up under the
other. -/
theorem stream_key_differs :
    startKey .channelPlay (playAs "s2") .silent = .ok "s2" ∧
      lookupKey .channelStopPlay stopStream 0 = .ok "s1" ∧
      streamIdOf stopStream = streamIdOf (playAs "s2") ∧
      let started := { TaskInput.silent with start := ⟨true, 0, true, true, 0, 0⟩ }
      ((handle Env.plain fresh (playAs "s2") started).1.sessions.getPlaySession "s2").isSome ∧
      ((handle Env.plain (handle Env.plain fresh (playAs "s2") started).1 stopStream
        .silent).1.sessions.getPlaySession "s2").isSome := by
  refine ⟨rfl, rfl, rfl, ?_, ?_⟩
  · decide
  · decide

end Server

end DHGateway
