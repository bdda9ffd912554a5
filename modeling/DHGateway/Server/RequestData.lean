import DHGateway.Message.Readings
import DHGateway.Server.StreamKey

/-!
# What requests pass on

The handlers for cameras and streams have variables that a parser fills, and pass some of them on
to `sdk_wrap`, whether the parser has written them or not.
-/

namespace DHGateway

open Json

structure HandlerVars where
  ptz : PtzCMD
  preset : Preset
  play : Play
  record : Record
  key : String
  streamId : String
  speed : ℚ

/-- The variables as the handlers declare them: of the records only the strings and a flag are
initialised. -/
def TaskInput.vars (a : TaskInput) (speed : ℚ) : HandlerVars :=
  ⟨.new a.ptzMem, .new a.presetMem, .new a.playMem, .new a.recordMem, "", "", speed⟩

/-- The operations of `sdk_wrap` with what they use of a request. -/
inductive SdkOp where
  | ptzControl (channel : ℤ) (contrlCmd contrlParam : ℕ)
  | queryPtzPreset (channel : ℤ)
  | startRealStream (channel : ℤ) (streamId sdpIp : String) (port streamMode : ℤ)
  | queryRecordFile (channel : ℤ) (startTime endTime : String)
  | startPlayBack (channel : ℤ) (streamId startTime endTime sdpIp : String) (port streamMode : ℤ)
  | stopPlay (key : String)
  | deviceRecordPause (streamId : String)
  | deviceRecordResume (streamId : String)
  | deviceRecordSpeed (streamId : String) (speed : ℚ)

/-- An operation, and the recorder that the handler logs in to before it. -/
structure DeviceRequest where
  deviceId : Option String
  op : SdkOp

/-- What a handler makes of a message, when its variables hold `vars` before the parser is called.
No handler looks at the parser's result. -/
def request (vars : HandlerVars) (doc : Document) : MsgType → Except Fault (Option DeviceRequest)
  | .channelPtzControl => (parsPtzControl doc vars.ptz).map fun (_, ptz) =>
    some ⟨some ptz.deviceId, .ptzControl ptz.channel ptz.contrlCmd ptz.contrlParam⟩
  | .channelPtzPreset => (parsPtzPreset doc vars.preset).map fun (_, temp) =>
    some ⟨some temp.deviceId, .queryPtzPreset temp.channel⟩
  | .channelPlay => (parsChannelPlay doc vars.play).map fun (_, temp) =>
    some ⟨some temp.deviceId,
      .startRealStream temp.channel temp.streamId temp.sdpIp temp.port temp.streamMode⟩
  | .channelRecordInfo => (parsChannelRecordInfo doc vars.record).map fun (_, temp) =>
    some ⟨some temp.deviceId, .queryRecordFile temp.channel temp.startTime temp.endTime⟩
  | .channelPlayback => (parsChannelPlayback doc vars.record).map fun (_, temp) =>
    some ⟨some temp.deviceId, .startPlayBack temp.channel temp.streamId temp.startTime temp.endTime
      temp.sdpIp temp.port temp.streamMode⟩
  | .channelStopPlay => .ok (some ⟨none, .stopPlay (parsChannelStopPlay doc vars.key).2⟩)
  | .deviceRecordPause => (parsStreamId doc vars.streamId).map fun (_, streamId) =>
    some ⟨none, .deviceRecordPause streamId⟩
  | .deviceRecordResume => (parsStreamId doc vars.streamId).map fun (_, streamId) =>
    some ⟨none, .deviceRecordResume streamId⟩
  | .deviceRecordSpeed =>
    (parsRecordSpeed doc vars.speed vars.streamId).map fun (_, speed, streamId) =>
      some ⟨none, .deviceRecordSpeed streamId speed⟩
  | _ => .ok none

namespace Server

def loggedIn (s : Server) (a : TaskInput) : Option String → Except Exn LoginResults × Server
  | none => (.ok a.results, s)
  | some deviceId => s.lookupLogin deviceId a

def performs (s : Server) (a : TaskInput) (vars : HandlerVars) (doc : Document) (t : MsgType) :
    Option SdkOp :=
  match request vars doc t with
  | .ok (some r) => if (s.loggedIn a r.deviceId).1.isOk then some r.op else none
  | _ => none

end Server

/-- All that is passed on to an operation was assigned by the parser: it is the same whatever the
variables held. -/
def FromMessage (doc : Document) (t : MsgType) (op : SdkOp) : Prop :=
  ∀ vars r, request vars doc t = .ok (some r) → r.op = op

/-- The member `speed` of the member `dataMap` of `data`. -/
def speedOf (doc : Document) : Option ℚ :=
  (((doc.getD .null).objectMember "data").bind (objectMember "dataMap")).bind
    (memberAs asFloat "speed")

/-- On a message that its parser returns on, what it can still lack. -/
def Complete (doc : Document) : MsgType → Prop
  | .channelPtzControl | .channelPtzPreset | .channelRecordInfo | .channelPlayback =>
    '#' ∈ ((doc.getD .null).text ["data", "channelId"]).toList
  | .channelPlay =>
    (∃ data, (doc.getD .null).readAt asObject ["data"] = some data) ∧
      (∃ info, (doc.getD .null).readAt asObject ["data", "ssrcInfo"] = some info) ∧
      '#' ∈ ((doc.getD .null).text ["data", "channelId"]).toList
  | .channelStopPlay | .deviceRecordPause | .deviceRecordResume => (streamIdOf doc).isSome
  | .deviceRecordSpeed => (streamIdOf doc).isSome ∧ (speedOf doc).isSome
  | _ => True

/-- Only data of the message is passed on, and a message that lacks some is not acted on. -/
structure OnlyRequestData (s : Server) (a : TaskInput) (vars : HandlerVars) (doc : Document)
    (t : MsgType) : Prop where
  assigned : ∀ op, s.performs a vars doc t = some op → FromMessage doc t op
  lacking : ¬ Complete doc t → s.performs a vars doc t = none

/-! ### Values that a parser writes or keeps -/

lemma channelOf_of_not_mem {channelId : String} (h : '#' ∉ channelId.toList) (channel : ℤ) :
    channelOf channelId channel = channel := by
  rw [channelOf, List.splitOn_eq_singleton h]

lemma channelOf_of_mem {channelId : String} (h : '#' ∈ channelId.toList) (c c' : ℤ) :
    channelOf channelId c = channelOf channelId c' := by
  obtain ⟨before, after, hlist, hbefore⟩ := List.eq_append_cons_of_mem h
  rw [channelOf, channelOf, hlist, List.splitOn_append_cons_self_of_not_mem hbefore]
  obtain ⟨token, tokens, htokens⟩ := List.exists_cons_of_ne_nil (List.splitOn_ne_nil '#' after)
  rw [htokens]

section

variable {vars : HandlerVars} {f : HandlerVars → SdkOp}

/-- A channel in an operation comes from the message exactly if its identifier has a `'#'`. -/
lemma channel_iff {channelId : String} {get : HandlerVars → ℤ} {g : ℤ → SdkOp}
    (hg : ∀ c c', g c = g c' → c = c') (hget : ∀ c, ∃ vars', get vars' = c) :
    (∀ vars', g (channelOf channelId (get vars')) = g (channelOf channelId (get vars))) ↔
      '#' ∈ channelId.toList := by
  constructor
  · intro h
    by_contra hno
    obtain ⟨vars', hvars'⟩ := hget (get vars + 1)
    have heq := hg _ _ (h vars')
    rw [channelOf_of_not_mem hno, channelOf_of_not_mem hno, hvars'] at heq
    omega
  · intro hmem vars'
    rw [channelOf_of_mem hmem (get vars') (get vars)]

lemma getD_iff {α β : Type} {o : Option α} {get : HandlerVars → α} {g : α → β}
    (hg : ∀ x y, g x = g y → x = y) (hget : ∀ x, ∃ vars', get vars' = x)
    (hne : ∃ x, x ≠ get vars) :
    (∀ vars', g (o.getD (get vars')) = g (o.getD (get vars))) ↔ o.isSome := by
  cases o with
  | none =>
    refine iff_of_false (fun h => ?_) Bool.false_ne_true
    obtain ⟨x, hx⟩ := hne
    obtain ⟨vars', hvars'⟩ := hget x
    exact hx (hvars' ▸ hg _ _ (h vars'))
  | some x => exact iff_of_true (fun _ => rfl) rfl

end

lemma fromMessage_iff {doc : Document} {t : MsgType} {vars : HandlerVars} {r : DeviceRequest}
    {f : HandlerVars → DeviceRequest} (h : ∀ vars', request vars' doc t = .ok (some (f vars')))
    (hr : request vars doc t = .ok (some r)) :
    FromMessage doc t r.op ↔ ∀ vars', (f vars').op = (f vars).op := by
  obtain rfl : f vars = r := by
    rw [h vars] at hr
    exact Option.some.inj (Except.ok.inj hr)
  constructor
  · exact fun hfrom vars' => hfrom vars' _ (h vars')
  · intro hall vars' r' hr'
    rw [h vars'] at hr'
    rw [← Option.some.inj (Except.ok.inj hr')]
    exact hall vars'

/-! ### The requests of each type -/

section

variable {doc : Json} {vars : HandlerVars} {r : DeviceRequest}

lemma ptzControl_complete (hr : request vars (some doc) .channelPtzControl = .ok (some r)) :
    FromMessage (some doc) .channelPtzControl r.op ↔ Complete (some doc) .channelPtzControl := by
  obtain ⟨a, ha, -⟩ := map_eq_ok.mp hr
  have hshape := (parsPtzControl_returns doc vars.ptz).mp ⟨a, ha⟩
  -- whatever the handler's variables held, only the channel is left of them
  have hall : ∀ vars', request vars' (some doc) .channelPtzControl =
      .ok (some ⟨some (doc.text ["data", "deviceId"]),
        .ptzControl (channelOf (doc.text ["data", "channelId"]) vars'.ptz.channel)
          (doc.number ["data", "dataMap", "cmdCode"] % 2 ^ 32).toNat
          (doc.number ["data", "dataMap", "cmdValue"] % 2 ^ 8).toNat⟩) := by
    intro vars'
    obtain ⟨b, hb⟩ := (parsPtzControl_returns doc vars'.ptz).mpr hshape
    rw [request, hb]
    show Except.ok (some (DeviceRequest.mk (some b.2.deviceId) _)) = _
    rw [parsPtzControl_eq hb]
  rw [fromMessage_iff hall hr]
  refine channel_iff (g := fun c => .ptzControl c _ _) ?_ ?_
  · exact fun c c' h => (SdkOp.ptzControl.inj h).1
  · exact fun c => ⟨{ vars with ptz := { vars.ptz with channel := c } }, rfl⟩

lemma ptzPreset_complete (hr : request vars (some doc) .channelPtzPreset = .ok (some r)) :
    FromMessage (some doc) .channelPtzPreset r.op ↔ Complete (some doc) .channelPtzPreset := by
  obtain ⟨a, ha, -⟩ := map_eq_ok.mp hr
  have hshape := (parsPtzPreset_returns doc vars.preset).mp ⟨a, ha⟩
  have hall : ∀ vars', request vars' (some doc) .channelPtzPreset =
      .ok (some ⟨some (doc.text ["data", "deviceId"]),
        .queryPtzPreset (channelOf (doc.text ["data", "channelId"]) vars'.preset.channel)⟩) := by
    intro vars'
    obtain ⟨b, hb⟩ := (parsPtzPreset_returns doc vars'.preset).mpr hshape
    rw [request, hb]
    show Except.ok (some (DeviceRequest.mk (some b.2.deviceId) _)) = _
    rw [parsPtzPreset_eq hb]
  rw [fromMessage_iff hall hr]
  refine channel_iff (g := .queryPtzPreset) ?_ ?_
  · exact fun c c' h => SdkOp.queryPtzPreset.inj h
  · exact fun c => ⟨{ vars with preset := { vars.preset with channel := c } }, rfl⟩

lemma recordInfo_complete (hobj : ∃ ms, doc = .obj ms)
    (hr : request vars (some doc) .channelRecordInfo = .ok (some r)) :
    FromMessage (some doc) .channelRecordInfo r.op ↔ Complete (some doc) .channelRecordInfo := by
  obtain ⟨a, ha, -⟩ := map_eq_ok.mp hr
  have hshape := (parsChannelRecordInfo_returns hobj vars.record).mp ⟨a, ha⟩
  have hall : ∀ vars', request vars' (some doc) .channelRecordInfo =
      .ok (some ⟨some (doc.text ["data", "deviceId"]),
        .queryRecordFile (channelOf (doc.text ["data", "channelId"]) vars'.record.channel)
          (doc.text ["data", "dataMap", "startTime"])
          (doc.text ["data", "dataMap", "endTime"])⟩) := by
    intro vars'
    obtain ⟨b, hb⟩ := (parsChannelRecordInfo_returns hobj vars'.record).mpr hshape
    rw [request, hb]
    show Except.ok (some (DeviceRequest.mk (some b.2.deviceId) _)) = _
    rw [parsChannelRecordInfo_eq hobj hb]
  rw [fromMessage_iff hall hr]
  refine channel_iff (g := fun c => .queryRecordFile c _ _) ?_ ?_
  · exact fun c c' h => (SdkOp.queryRecordFile.inj h).1
  · exact fun c => ⟨{ vars with record := { vars.record with channel := c } }, rfl⟩

lemma playback_complete (hr : request vars (some doc) .channelPlayback = .ok (some r)) :
    FromMessage (some doc) .channelPlayback r.op ↔ Complete (some doc) .channelPlayback := by
  obtain ⟨a, ha, -⟩ := map_eq_ok.mp hr
  have hshape := (parsChannelPlayback_returns doc vars.record).mp ⟨a, ha⟩
  have hall : ∀ vars', request vars' (some doc) .channelPlayback =
      .ok (some ⟨some (doc.text ["data", "deviceId"]),
        .startPlayBack (channelOf (doc.text ["data", "channelId"]) vars'.record.channel)
          (doc.text ["data", "streamId"]) (doc.text ["data", "startTime"])
          (doc.text ["data", "endTime"]) (doc.text ["data", "ssrcInfo", "sdpIp"])
          (doc.number ["data", "ssrcInfo", "port"]) (doc.number ["data", "streamMode"])⟩) := by
    intro vars'
    obtain ⟨b, hb⟩ := (parsChannelPlayback_returns doc vars'.record).mpr hshape
    rw [request, hb]
    show Except.ok (some (DeviceRequest.mk (some b.2.deviceId) _)) = _
    rw [parsChannelPlayback_eq hb]
  rw [fromMessage_iff hall hr]
  refine channel_iff (g := fun c => .startPlayBack c _ _ _ _ _ _) ?_ ?_
  · exact fun c c' h => (SdkOp.startPlayBack.inj h).1
  · exact fun c => ⟨{ vars with record := { vars.record with channel := c } }, rfl⟩

/-- The request that `channel_play` makes of its record. -/
def realPlayRequest (p : Play) : DeviceRequest :=
  ⟨some p.deviceId, .startRealStream p.channel p.streamId p.sdpIp p.port p.streamMode⟩

lemma request_play {g : Play → Play} (hshape : (shapeOf .channelPlay).Matches doc)
    (hg : ∀ p b, parsChannelPlay (some doc) p = .ok b → b.2 = g p) (vars : HandlerVars) :
    request vars (some doc) .channelPlay = .ok (some (realPlayRequest (g vars.play))) := by
  obtain ⟨b, hb⟩ := (parsChannelPlay_returns doc vars.play).mpr hshape
  rw [request, hb, ← hg vars.play b hb]
  rfl

lemma play_complete (hr : request vars (some doc) .channelPlay = .ok (some r)) :
    FromMessage (some doc) .channelPlay r.op ↔ Complete (some doc) .channelPlay := by
  obtain ⟨a, ha, -⟩ := map_eq_ok.mp hr
  have hshape := (parsChannelPlay_returns doc vars.play).mp ⟨a, ha⟩
  rw [Complete, Option.getD_some]
  cases hdata : doc.readAt asObject ["data"] with
  -- neither the port nor any other field but the three at the top is assigned
  | none =>
    have hall := request_play (g := playHeads doc) hshape fun p b hb => by
      rcases parsChannelPlay_cases hb with ⟨-, h⟩ | ⟨⟨_, h⟩, -⟩ | ⟨⟨_, h⟩, -⟩
      · exact h
      · cases hdata.symm.trans h
      · cases hdata.symm.trans h
    rw [fromMessage_iff hall hr]
    refine iff_of_false (fun h => ?_) ?_
    · have heq := h { vars with play := { vars.play with port := vars.play.port + 1 } }
      have hport := (SdkOp.startRealStream.inj heq).2.2.2.1
      simp only [playHeads] at hport
      omega
    · rintro ⟨⟨_, hnone⟩, -⟩
      cases hnone
  | some data =>
    cases hinfo : doc.readAt asObject ["data", "ssrcInfo"] with
    | none =>
      have hall := request_play (g := playData doc) hshape fun p b hb => by
        rcases parsChannelPlay_cases hb with ⟨h, -⟩ | ⟨-, -, h⟩ | ⟨-, ⟨_, h⟩, -⟩
        · cases hdata.symm.trans h
        · exact h
        · cases hinfo.symm.trans h
      rw [fromMessage_iff hall hr]
      refine iff_of_false (fun h => ?_) ?_
      · have heq := h { vars with play := { vars.play with port := vars.play.port + 1 } }
        have hport := (SdkOp.startRealStream.inj heq).2.2.2.1
        simp only [playData, playHeads] at hport
        omega
      · rintro ⟨-, ⟨_, hnone⟩, -⟩
        cases hnone
    -- all is assigned but for the channel, which a text without `#` leaves
    | some info =>
      have hall := request_play (g := playSsrc doc) hshape fun p b hb => by
        rcases parsChannelPlay_cases hb with ⟨h, -⟩ | ⟨-, h, -⟩ | ⟨-, -, h⟩
        · cases hdata.symm.trans h
        · cases hinfo.symm.trans h
        · exact h
      rw [fromMessage_iff hall hr]
      refine Iff.trans (channel_iff (g := fun c => .startRealStream c _ _ _ _) ?_ ?_) ?_
      · exact fun c c' h => (SdkOp.startRealStream.inj h).1
      · exact fun c => ⟨{ vars with play := { vars.play with channel := c } }, rfl⟩
      · exact ⟨fun h => ⟨⟨data, rfl⟩, ⟨info, rfl⟩, h⟩, fun h => h.2.2⟩

end

section

variable {ms : List (String × Json)} {vars : HandlerVars} {r : DeviceRequest}

/-- Another stream identifier. -/
lemma exists_streamId_ne (streamId : String) : ∃ x, x ≠ streamId := by
  refine ⟨streamId ++ "#", fun h => ?_⟩
  have hlength := congrArg String.length h
  rw [String.length_append] at hlength
  exact absurd hlength (Nat.succ_ne_self _)

lemma stopPlay_complete (hr : request vars (some (obj ms)) .channelStopPlay = .ok (some r)) :
    FromMessage (some (obj ms)) .channelStopPlay r.op ↔
      Complete (some (obj ms)) .channelStopPlay := by
  have hall : ∀ vars', request vars' (some (obj ms)) .channelStopPlay =
      .ok (some ⟨none, .stopPlay ((streamIdOf (some (obj ms))).getD vars'.key)⟩) := fun _ => rfl
  rw [fromMessage_iff hall hr]
  refine getD_iff (g := SdkOp.stopPlay) ?_ ?_ (exists_streamId_ne vars.key)
  · exact fun x y h => SdkOp.stopPlay.inj h
  · exact fun x => ⟨{ vars with key := x }, rfl⟩

lemma recordPause_complete (hr : request vars (some (obj ms)) .deviceRecordPause = .ok (some r)) :
    FromMessage (some (obj ms)) .deviceRecordPause r.op ↔
      Complete (some (obj ms)) .deviceRecordPause := by
  have hall : ∀ vars', request vars' (some (obj ms)) .deviceRecordPause =
      .ok (some ⟨none, .deviceRecordPause ((streamIdOf (some (obj ms))).getD vars'.streamId)⟩) := by
    intro vars'
    obtain ⟨found, h⟩ := parsStreamId_obj ms vars'.streamId
    rw [request, h]
    rfl
  rw [fromMessage_iff hall hr]
  refine getD_iff (g := SdkOp.deviceRecordPause) ?_ ?_ (exists_streamId_ne vars.streamId)
  · exact fun x y h => SdkOp.deviceRecordPause.inj h
  · exact fun x => ⟨{ vars with streamId := x }, rfl⟩

lemma recordResume_complete (hr : request vars (some (obj ms)) .deviceRecordResume = .ok (some r)) :
    FromMessage (some (obj ms)) .deviceRecordResume r.op ↔
      Complete (some (obj ms)) .deviceRecordResume := by
  have hall : ∀ vars', request vars' (some (obj ms)) .deviceRecordResume =
      .ok (some ⟨none,
        .deviceRecordResume ((streamIdOf (some (obj ms))).getD vars'.streamId)⟩) := by
    intro vars'
    obtain ⟨found, h⟩ := parsStreamId_obj ms vars'.streamId
    rw [request, h]
    rfl
  rw [fromMessage_iff hall hr]
  refine getD_iff (g := SdkOp.deviceRecordResume) ?_ ?_ (exists_streamId_ne vars.streamId)
  · exact fun x y h => SdkOp.deviceRecordResume.inj h
  · exact fun x => ⟨{ vars with streamId := x }, rfl⟩

lemma recordSpeed_complete (hr : request vars (some (obj ms)) .deviceRecordSpeed = .ok (some r)) :
    FromMessage (some (obj ms)) .deviceRecordSpeed r.op ↔
      Complete (some (obj ms)) .deviceRecordSpeed := by
  have hall : ∀ vars', request vars' (some (obj ms)) .deviceRecordSpeed =
      .ok (some ⟨none, .deviceRecordSpeed ((streamIdOf (some (obj ms))).getD vars'.streamId)
        ((speedOf (some (obj ms))).getD vars'.speed)⟩) := by
    intro vars'
    obtain ⟨found, h⟩ := parsRecordSpeed_obj ms vars'.speed vars'.streamId
    rw [request, h]
    rfl
  rw [fromMessage_iff hall hr, Complete]
  simp only [SdkOp.deviceRecordSpeed.injEq, forall_and]
  refine and_congr ?_ ?_
  · refine getD_iff (g := id) (fun _ _ h => h) ?_ (exists_streamId_ne vars.streamId)
    exact fun x => ⟨{ vars with streamId := x }, rfl⟩
  · refine getD_iff (g := id) (fun _ _ h => h) ?_ ⟨vars.speed + 1, (lt_add_one _).ne'⟩
    exact fun x => ⟨{ vars with speed := x }, rfl⟩

end

/-! ### The condition -/

/-- On a message of its type, what a handler passes on comes from the message exactly if that is
complete. -/
lemma fromMessage_iff_complete {doc : Document} {t : MsgType} (hdoc : getMsgType doc = some t)
    {vars : HandlerVars} {r : DeviceRequest} (hr : request vars doc t = .ok (some r)) :
    FromMessage doc t r.op ↔ Complete doc t := by
  obtain ⟨ms, rfl⟩ := exists_obj_of_stringMember (stringMember_of_getMsgType hdoc)
  cases t with
  | channelPtzControl => exact ptzControl_complete hr
  | channelPtzPreset => exact ptzPreset_complete hr
  | channelPlay => exact play_complete hr
  | channelRecordInfo => exact recordInfo_complete ⟨ms, rfl⟩ hr
  | channelPlayback => exact playback_complete hr
  | channelStopPlay => exact stopPlay_complete hr
  | deviceRecordPause => exact recordPause_complete hr
  | deviceRecordResume => exact recordResume_complete hr
  | deviceRecordSpeed => exact recordSpeed_complete hr
  | gatewaySignIn | deviceAdd | channelSync | deviceTotalSync | deviceDelete | deviceDeleteSoft
  | deviceDeleteRecover | channelDeleteSoft | channelDeleteRecover | channel3dOperation =>
    cases Except.ok.inj hr

lemma complete_of_none {vars : HandlerVars} {doc : Document} {t : MsgType}
    (h : request vars doc t = .ok none) : Complete doc t := by
  cases t with
  | channelPtzControl | channelPtzPreset | channelPlay | channelRecordInfo | channelPlayback
  | deviceRecordPause | deviceRecordResume | deviceRecordSpeed =>
    obtain ⟨_, _, hnone⟩ := map_eq_ok.mp h
    cases hnone
  | channelStopPlay => cases Except.ok.inj h
  | gatewaySignIn | deviceAdd | channelSync | deviceTotalSync | deviceDelete | deviceDeleteSoft
  | deviceDeleteRecover | channelDeleteSoft | channelDeleteRecover | channel3dOperation =>
    trivial

lemma performs_eq {s : Server} {a : TaskInput} {vars : HandlerVars} {doc : Document} {t : MsgType}
    {r : DeviceRequest} (hr : request vars doc t = .ok (some r)) : s.performs a vars doc t =
      if (s.loggedIn a r.deviceId).1.isOk then some r.op else none := by
  rw [Server.performs, hr]

def LoginThrows (s : Server) (a : TaskInput) (vars : HandlerVars) (doc : Document) (t : MsgType) :
    Prop :=
  ∃ r e, request vars doc t = .ok (some r) ∧ (s.loggedIn a r.deviceId).1 = .error e

/-- For a message on which its parser returns, only its data is passed on to `sdk_wrap`, and nothing
is done when it lacks some, exactly if it lacks none or the login throws. -/
theorem onlyRequestData_iff {doc : Document} {t : MsgType} (hdoc : getMsgType doc = some t)
    {vars : HandlerVars} (hret : Returns (request vars doc t)) (s : Server) (a : TaskInput) :
    OnlyRequestData s a vars doc t ↔ Complete doc t ∨ LoginThrows s a vars doc t := by
  obtain ⟨o, ho⟩ := hret
  cases o with
  | none =>
    have hnone : s.performs a vars doc t = none := by rw [Server.performs, ho]
    refine iff_of_true ⟨fun op hop => ?_, fun _ => hnone⟩ (Or.inl (complete_of_none ho))
    cases hnone.symm.trans hop
  | some r =>
    have hfrom := fromMessage_iff_complete hdoc ho
    cases hlogin : (s.loggedIn a r.deviceId).1 with
    -- a login that throws ends the handler before it operates on the device
    | error e =>
      have hnone : s.performs a vars doc t = none := by
        rw [performs_eq ho, hlogin]
        rfl
      refine iff_of_true ⟨fun op hop => ?_, fun _ => hnone⟩ (Or.inr ⟨r, e, ho, hlogin⟩)
      cases hnone.symm.trans hop
    | ok results =>
      have hop : s.performs a vars doc t = some r.op := by
        rw [performs_eq ho, hlogin]
        rfl
      have hno : ¬ LoginThrows s a vars doc t := by
        rintro ⟨r', e, hr', herror⟩
        obtain rfl := Option.some.inj (Except.ok.inj (ho.symm.trans hr'))
        cases hlogin.symm.trans herror
      rw [or_iff_left hno, ← hfrom]
      constructor
      · exact fun h => h.assigned _ hop
      · intro h
        refine ⟨fun op hop' => ?_, fun hlacks => absurd (hfrom.mp h) hlacks⟩
        obtain rfl := Option.some.inj (hop.symm.trans hop')
        exact h

def presetMessage (channelId : String) : Json :=
  .obj [("msgId", .str "71709"), ("msgType", .str "CHANNEL_PTZ_PRESET"),
    ("data", .obj [("deviceId", .str "17"), ("channelId", .str channelId)])]

def speedMessage (speed : Json) : Json :=
  .obj [("msgType", .str "DEVICE_RECORD_SPEED"),
    ("data", .obj [("streamId", .str "a1"), ("dataMap", .obj [("speed", speed)])])]

/-- The presets of the channel `3`. -/
theorem onlyRequestData_iff_preset :
    OnlyRequestData Server.fresh .silent (TaskInput.silent.vars 0)
      (some (presetMessage "17#3")) .channelPtzPreset :=
  (onlyRequestData_iff (by decide) ⟨_, rfl⟩ _ _).mpr
    (Or.inl (show '#' ∈ "17#3".toList by decide))

/-- Without a `'#'` the channel is what the memory held, and so is the speed if it is an integer;
both operations are made. -/
theorem not_onlyRequestData :
    (Server.fresh.performs .silent { TaskInput.silent.vars 7 with preset.channel := 5 }
        (some (presetMessage "17")) .channelPtzPreset = some (.queryPtzPreset 5) ∧
      ¬ OnlyRequestData Server.fresh .silent { TaskInput.silent.vars 7 with preset.channel := 5 }
        (some (presetMessage "17")) .channelPtzPreset) ∧
    Server.fresh.performs .silent (TaskInput.silent.vars 7) (some (speedMessage (.num 2)))
        .deviceRecordSpeed = some (.deviceRecordSpeed "a1" 7) ∧
      ¬ OnlyRequestData Server.fresh .silent (TaskInput.silent.vars 7)
        (some (speedMessage (.num 2))) .deviceRecordSpeed := by
  refine ⟨⟨rfl, fun h => ?_⟩, rfl, fun h => ?_⟩
  · -- a channel id without `#` leaves the channel of the request before
    cases h.lacking (show '#' ∉ "17".toList by decide)
  · -- an integer is not `IsFloat`, so the speed is not read
    have hspeed : speedOf (some (speedMessage (.num 2))) = none := rfl
    have hlacking : ¬ Complete (some (speedMessage (.num 2))) .deviceRecordSpeed := by
      intro hcomplete
      rw [Complete, hspeed] at hcomplete
      cases hcomplete.2
    cases h.lacking hlacking

/-! ### In the handlers -/

/-- The device calls of an operation and the sessions after it, for what the handler meets. Pausing,
resuming and the speed of a playback change nothing that is modelled here. -/
def SdkOp.effects (env : Env) (s : Server) (login : LoginResults) (a : TaskInput) :
    SdkOp → List DeviceCall × SessionMap PlaySession
  | .ptzControl channel contrlCmd contrlParam =>
    ((DHGateway.ptzControl env s.tempPtzCmd login
      ⟨"", "", "", channel, contrlCmd, contrlParam, false⟩ a.ptz).2.2, s.sessions)
  | .queryPtzPreset channel =>
    ((DHGateway.queryPtzPreset login channel a.presetMem a.presets).2.2, s.sessions)
  | .startRealStream channel streamId sdpIp port streamMode =>
    let r := DHGateway.startRealStream s.sessions a.mem login
      ⟨"", "", "", channel, streamMode, "", streamId, "", port, "", sdpIp, ""⟩ a.media a.start
    (r.calls, r.sessions)
  | .queryRecordFile channel startTime endTime =>
    ((DHGateway.queryRecordFile env login channel startTime endTime a.locals a.recordMem
      a.records).2.2, s.sessions)
  | .startPlayBack channel streamId startTime endTime sdpIp port streamMode =>
    let r := DHGateway.startPlayBack s.sessions a.mem a.netTimes login
      ⟨"", "", "", channel, "", 0, startTime, endTime, streamMode, "", streamId, "", port, "",
        sdpIp, "", ""⟩ a.media a.start
    (r.calls, r.sessions)
  | .stopPlay key => ([], (DHGateway.stopPlay s.sessions key a.stop).2)
  | .deviceRecordPause _ | .deviceRecordResume _ | .deviceRecordSpeed _ _ => ([], s.sessions)

lemma handle_effects (env : Env) {s s' : Server} {a : TaskInput} {doc : Document} {t : MsgType}
    (hdoc : getMsgType doc = some t) {speed : ℚ} {r : DeviceRequest} {login : LoginResults}
    (hr : request (a.vars speed) doc t = .ok (some r))
    (hlogin : s.loggedIn a r.deviceId = (.ok login, s')) :
    (Server.handle env s doc a).1.calls = s'.calls ++ (r.op.effects env s' login a).1 ∧
      (Server.handle env s doc a).1.sessions = (r.op.effects env s' login a).2 := by
  obtain ⟨ms, rfl⟩ := exists_obj_of_stringMember (stringMember_of_getMsgType hdoc)
  rw [Server.handle, hdoc]
  cases t with
  | channelPtzControl =>
    obtain ⟨⟨b, ptz⟩, hparse, hreq⟩ := map_eq_ok.mp hr
    have hptz : ptz = _ := parsPtzControl_eq hparse
    -- the parser leaves `dwStop` as the constructor set it
    have hstop : ptz.dwStop = false := by
      rw [hptz]
      rfl
    obtain rfl := Option.some.inj hreq
    replace hparse : parsPtzControl (some (obj ms)) (PtzCMD.new a.ptzMem) = .ok (b, ptz) := hparse
    replace hlogin : s.lookupLogin ptz.deviceId a = (.ok login, s') := hlogin
    simp only [Server.dispatch, Server.channelPtzControl, hparse, Server.withParsed,
      Server.withLogin, hlogin, SdkOp.effects]
    rw [← hstop]
    exact ⟨rfl, rfl⟩
  | channelPtzPreset =>
    obtain ⟨⟨b, temp⟩, hparse, hreq⟩ := map_eq_ok.mp hr
    obtain rfl := Option.some.inj hreq
    replace hparse : parsPtzPreset (some (obj ms)) (Preset.new a.presetMem) = .ok (b, temp) :=
      hparse
    replace hlogin : s.lookupLogin temp.deviceId a = (.ok login, s') := hlogin
    simp only [Server.dispatch, Server.channelPtzPreset, hparse, Server.withParsed,
      Server.withLogin, hlogin, SdkOp.effects]
    exact ⟨rfl, rfl⟩
  | channelPlay =>
    obtain ⟨⟨b, temp⟩, hparse, hreq⟩ := map_eq_ok.mp hr
    obtain rfl := Option.some.inj hreq
    replace hparse : parsChannelPlay (some (obj ms)) (Play.new a.playMem) = .ok (b, temp) := hparse
    replace hlogin : s.lookupLogin temp.deviceId a = (.ok login, s') := hlogin
    simp only [Server.dispatch, Server.channelPlay, hparse, Server.withParsed, Server.withLogin,
      hlogin, SdkOp.effects]
    exact ⟨rfl, rfl⟩
  | channelRecordInfo =>
    obtain ⟨⟨b, temp⟩, hparse, hreq⟩ := map_eq_ok.mp hr
    obtain rfl := Option.some.inj hreq
    replace hparse : parsChannelRecordInfo (some (obj ms)) (Record.new a.recordMem) =
      .ok (b, temp) := hparse
    replace hlogin : s.lookupLogin temp.deviceId a = (.ok login, s') := hlogin
    simp only [Server.dispatch, Server.channelRecordInfo, hparse, Server.withParsed,
      Server.withLogin, hlogin, SdkOp.effects]
    exact ⟨rfl, rfl⟩
  | channelPlayback =>
    obtain ⟨⟨b, temp⟩, hparse, hreq⟩ := map_eq_ok.mp hr
    obtain rfl := Option.some.inj hreq
    replace hparse : parsChannelPlayback (some (obj ms)) (Record.new a.recordMem) =
      .ok (b, temp) := hparse
    replace hlogin : s.lookupLogin temp.deviceId a = (.ok login, s') := hlogin
    simp only [Server.dispatch, Server.channelPlayback, hparse, Server.withParsed,
      Server.withLogin, hlogin, SdkOp.effects]
    exact ⟨rfl, rfl⟩
  | channelStopPlay =>
    obtain rfl := Option.some.inj (Except.ok.inj hr)
    cases hlogin
    exact ⟨(List.append_nil _).symm, rfl⟩
  | deviceRecordPause | deviceRecordResume | deviceRecordSpeed =>
    obtain ⟨_, -, hreq⟩ := map_eq_ok.mp hr
    obtain rfl := Option.some.inj hreq
    cases hlogin
    exact ⟨(List.append_nil _).symm, rfl⟩
  | gatewaySignIn | deviceAdd | channelSync | deviceTotalSync | deviceDelete | deviceDeleteSoft
  | deviceDeleteRecover | channelDeleteSoft | channelDeleteRecover | channel3dOperation =>
    cases Except.ok.inj hr

end DHGateway
