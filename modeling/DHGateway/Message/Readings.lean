import DHGateway.Message.Parse

/-!
# What the parsers read of a message

The values that a message has at the end of a path of member names. A parser that returns has
filled its record with these, and kept what the record held in the fields that it did not write.
-/

namespace DHGateway

namespace Json

/-- The value of the expected type at the end of a path of member names. -/
def readAt {α : Type} (as : Json → Option α) : List String → Json → Option α
  | [], v => as v
  | name :: names, v => (v.member name).bind (readAt as names)

/-- The string at the end of a path, on messages that have one there. -/
def text (names : List String) (v : Json) : String :=
  (v.readAt asString names).getD ""

/-- The number at the end of a path, on messages that have one there. -/
def number (names : List String) (v : Json) : ℤ :=
  (v.readAt asInt names).getD 0

section

variable {v w : Json} {name : String} {names : List String}

lemma readAt_of_at' {α : Type} {as : Json → Option α} (h : v.at' name = .ok w) :
    v.readAt as (name :: names) = w.readAt as names := by
  rw [readAt, at'_eq_ok.mp h, Option.bind_some]

lemma text_of_at' (h : v.at' name = .ok w) : v.text (name :: names) = w.text names := by
  rw [text, readAt_of_at' h, text]

lemma number_of_at' (h : v.at' name = .ok w) : v.number (name :: names) = w.number names := by
  rw [number, readAt_of_at' h, number]

lemma text_of_getString {s : String} (h : v.getString name = .ok s) : v.text [name] = s := by
  have hread : v.readAt asString [name] = some s := getString_eq_ok.mp h
  rw [text, hread, Option.getD_some]

lemma number_of_getInt {n : ℤ} (h : v.getInt name = .ok n) : v.number [name] = n := by
  rw [getInt, bind_eq_ok] at h
  obtain ⟨u, hu, hn⟩ := h
  rw [number, readAt_of_at' hu, readAt, force_eq_ok.mp hn, Option.getD_some]

lemma text_of_readAt {s : String} (h : v.readAt asString names = some s) : v.text names = s := by
  rw [text, h, Option.getD_some]

lemma number_of_readAt {n : ℤ} (h : v.readAt asInt names = some n) : v.number names = n := by
  rw [number, h, Option.getD_some]

end

end Json

open Json

/-! ### Unchecked parsers -/

lemma parsPtzControl_eq {doc : Json} {ptz : PtzCMD} {r : Bool × PtzCMD}
    (h : parsPtzControl (some doc) ptz = .ok r) :
    r.2 = { ptz with
      channel := channelOf (doc.text ["data", "channelId"]) ptz.channel
      contrlCmd := (doc.number ["data", "dataMap", "cmdCode"] % 2 ^ 32).toNat
      contrlParam := (doc.number ["data", "dataMap", "cmdValue"] % 2 ^ 8).toNat
      deviceId := doc.text ["data", "deviceId"]
      msgId := doc.text ["msgId"]
      msgType := doc.text ["msgType"] } := by
  simp only [parsPtzControl, bind_eq_ok] at h
  obtain ⟨_, _, data, hdata, channelId, hchannel, dataMap, hmap, cmdCode, hcode, cmdValue, hvalue,
    deviceId, hdevice, msgId, hid, msgType, htype, ⟨⟩⟩ := h
  simp only [text_of_at' hdata, number_of_at' hdata, number_of_at' hmap,
    text_of_getString hchannel, number_of_getInt hcode, number_of_getInt hvalue,
    text_of_getString hdevice, text_of_getString hid, text_of_getString htype]

lemma parsPtzPreset_eq {doc : Json} {p : Preset} {r : Bool × Preset}
    (h : parsPtzPreset (some doc) p = .ok r) :
    r.2 = { p with
      msgId := doc.text ["msgId"]
      msgType := doc.text ["msgType"]
      deviceId := doc.text ["data", "deviceId"]
      channel := channelOf (doc.text ["data", "channelId"]) p.channel } := by
  simp only [parsPtzPreset, bind_eq_ok] at h
  obtain ⟨msgId, hid, msgType, htype, data, hdata, deviceId, hdevice, channelId, hchannel, ⟨⟩⟩ := h
  simp only [text_of_at' hdata, text_of_getString hid, text_of_getString htype,
    text_of_getString hdevice, text_of_getString hchannel]

lemma parsChannelRecordInfo_eq {doc : Json} {record : Record} {r : Bool × Record}
    (hobj : ∃ ms, doc = .obj ms) (h : parsChannelRecordInfo (some doc) record = .ok r) :
    r.2 = { record with
      channel := channelOf (doc.text ["data", "channelId"]) record.channel
      deviceId := doc.text ["data", "deviceId"]
      startTime := doc.text ["data", "dataMap", "startTime"]
      endTime := doc.text ["data", "dataMap", "endTime"]
      msgId := doc.text ["msgId"]
      msgType := doc.text ["msgType"] } := by
  obtain ⟨ms, rfl⟩ := hobj
  simp only [parsChannelRecordInfo, Option.getD_some, asObject, bind_eq_ok] at h
  obtain ⟨_, _, data, hdata, channelId, hchannel, deviceId, hdevice, dataMap, hmap, startTime,
    hstart, endTime, hend, _, _, msgId, hid, msgType, htype, _, _, _, _, ⟨⟩⟩ := h
  simp only [text_of_at' hdata, text_of_at' hmap, text_of_getString hchannel,
    text_of_getString hdevice, text_of_getString hstart, text_of_getString hend,
    text_of_getString hid, text_of_getString htype]

lemma parsChannelPlayback_eq {doc : Json} {record : Record} {r : Bool × Record}
    (h : parsChannelPlayback (some doc) record = .ok r) :
    r.2 = { record with
      msgType := doc.text ["msgType"]
      msgId := doc.text ["msgId"]
      deviceId := doc.text ["data", "deviceId"]
      channel := channelOf (doc.text ["data", "channelId"]) record.channel
      startTime := doc.text ["data", "startTime"]
      endTime := doc.text ["data", "endTime"]
      streamMode := doc.number ["data", "streamMode"]
      dispatchUrl := doc.text ["data", "dispatchUrl"]
      streamId := doc.text ["data", "streamId"]
      ip := doc.text ["data", "ssrcInfo", "ip"]
      port := doc.number ["data", "ssrcInfo", "port"]
      ssrc := doc.text ["data", "ssrcInfo", "ssrc"]
      sdpIp := doc.text ["data", "ssrcInfo", "sdpIp"]
      ssrcStreamId := doc.text ["data", "ssrcInfo", "streamId"]
      mediaServerId := doc.text ["data", "ssrcInfo", "mediaServerId"] } := by
  simp only [parsChannelPlayback, bind_eq_ok] at h
  obtain ⟨msgType, htype, msgId, hid, data, hdata, deviceId, hdevice, channelId, hchannel,
    startTime, hstart, endTime, hend, streamMode, hmode, dispatchUrl, hurl, streamId, hstream,
    ssrcInfo, hssrcInfo, ip, hip, port, hport, ssrc, hssrc, sdpIp, hsdp, ssrcStreamId, hssrcStream,
    mediaServerId, hmedia, ⟨⟩⟩ := h
  simp only [text_of_at' hdata, number_of_at' hdata, text_of_at' hssrcInfo,
    number_of_at' hssrcInfo, text_of_getString htype, text_of_getString hid,
    text_of_getString hdevice, text_of_getString hchannel, text_of_getString hstart,
    text_of_getString hend, number_of_getInt hmode, text_of_getString hurl,
    text_of_getString hstream, text_of_getString hip, number_of_getInt hport,
    text_of_getString hssrc, text_of_getString hsdp, text_of_getString hssrcStream,
    text_of_getString hmedia]

/-- What `pars_channel_play` writes first. -/
def playHeads (doc : Json) (p : Play) : Play :=
  { p with msgType := doc.text ["msgType"], msgId := doc.text ["msgId"] }

/-- What it writes of a message with an object as its `data`. -/
def playData (doc : Json) (p : Play) : Play :=
  { playHeads doc p with
    streamMode := doc.number ["data", "streamMode"]
    deviceId := doc.text ["data", "deviceId"]
    channel := channelOf (doc.text ["data", "channelId"]) p.channel
    dispatchUrl := doc.text ["data", "dispatchUrl"]
    streamId := doc.text ["data", "streamId"] }

/-- What it writes of a message with an object as its `ssrcInfo`. -/
def playSsrc (doc : Json) (p : Play) : Play :=
  { playData doc p with
    ip := doc.text ["data", "ssrcInfo", "ip"]
    port := doc.number ["data", "ssrcInfo", "port"]
    ssrc := doc.text ["data", "ssrcInfo", "ssrc"]
    sdpIp := doc.text ["data", "ssrcInfo", "sdpIp"]
    streamId := doc.text ["data", "ssrcInfo", "streamId"]
    mediaServerId := doc.text ["data", "ssrcInfo", "mediaServerId"] }

/-- The outcome of `pars_channel_play` depends on how far the message consists of objects. -/
lemma parsChannelPlay_cases {doc : Json} {p : Play} {r : Bool × Play}
    (h : parsChannelPlay (some doc) p = .ok r) :
    (doc.readAt asObject ["data"] = none ∧ r.2 = playHeads doc p) ∨
    ((∃ data, doc.readAt asObject ["data"] = some data) ∧
      doc.readAt asObject ["data", "ssrcInfo"] = none ∧ r.2 = playData doc p) ∨
    ((∃ data, doc.readAt asObject ["data"] = some data) ∧
      (∃ info, doc.readAt asObject ["data", "ssrcInfo"] = some info) ∧ r.2 = playSsrc doc p) := by
  simp only [parsChannelPlay, bind_eq_ok] at h
  obtain ⟨msgType, htype, msgId, hid, data, hdata, h⟩ := h
  have hread : doc.readAt asObject ["data"] = data.asObject := readAt_of_at' hdata
  rw [hread]
  rcases hobj : data.asObject with _ | obj
  · rw [hobj] at h
    cases h
    refine Or.inl ⟨rfl, ?_⟩
    simp only [playHeads, text_of_getString htype, text_of_getString hid]
  · obtain rfl : obj = data := by
      cases data <;> first | exact (Option.some.inj hobj).symm | cases hobj
    simp only [hobj, bind_eq_ok] at h
    obtain ⟨streamMode, hmode, deviceId, hdevice, channelId, hchannel, dispatchUrl, hurl, streamId,
      hstream, ssrcInfo, hssrcInfo, h⟩ := h
    -- what was written before the second object is looked for
    have hplay : playData doc p = { p with
        msgType := msgType
        msgId := msgId
        streamMode := streamMode
        deviceId := deviceId
        channel := channelOf channelId p.channel
        dispatchUrl := dispatchUrl
        streamId := streamId } := by
      simp only [playData, playHeads, text_of_at' hdata, number_of_at' hdata,
        text_of_getString htype, text_of_getString hid, number_of_getInt hmode,
        text_of_getString hdevice, text_of_getString hchannel, text_of_getString hurl,
        text_of_getString hstream]
    have hinfo : doc.readAt asObject ["data", "ssrcInfo"] = ssrcInfo.asObject :=
      (readAt_of_at' hdata).trans (readAt_of_at' hssrcInfo)
    rw [hinfo]
    rcases hobj' : ssrcInfo.asObject with _ | obj'
    · rw [hobj'] at h
      cases h
      exact Or.inr (Or.inl ⟨⟨obj, rfl⟩, rfl, hplay.symm⟩)
    · obtain rfl : obj' = ssrcInfo := by
        cases ssrcInfo <;> first | exact (Option.some.inj hobj').symm | cases hobj'
      simp only [hobj', bind_eq_ok] at h
      obtain ⟨ip, hip, port, hport, ssrc, hssrc, sdpIp, hsdp, ssrcStreamId, hssrcStream,
        mediaServerId, hmedia, ⟨⟩⟩ := h
      refine Or.inr (Or.inr ⟨⟨obj, rfl⟩, ⟨obj', rfl⟩, ?_⟩)
      simp only [playSsrc, hplay, text_of_at' hdata, number_of_at' hdata, text_of_at' hssrcInfo,
        number_of_at' hssrcInfo, text_of_getString hip, number_of_getInt hport,
        text_of_getString hssrc, text_of_getString hsdp, text_of_getString hssrcStream,
        text_of_getString hmedia]

end DHGateway
