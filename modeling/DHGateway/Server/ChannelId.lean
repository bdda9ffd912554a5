import DHGateway.Core.Calendar
import DHGateway.Message.Readings
import DHGateway.Server.ParserAccess

/-!
# Channel identifiers

`channel_sync` names a channel by its recorder and its number, with a `'#'` between them. Five
parsers take the number out of such a name again.
-/

namespace DHGateway

open Json

/-- The list of channels in a message that `channel_sync` built. -/
def channelDetailList (m : Json) : List Json :=
  (((m.objectMember "data").bind (memberAs asArray "channelDetailList")).getD [])

@[simp] lemma channelDetailList_channelSync (c : Config) (deviceList : List Device)
    (platform : Platform) (time : String) :
    channelDetailList (c.channelSync deviceList platform time) =
      (deviceList.filter fun d => d.name ≠ "").map (c.channelEntity platform) := rfl

/-! ### Taking a name apart -/

lemma toList_channelId (deviceId : String) (n : ℤ) :
    (deviceId ++ "#" ++ toString n).toList = deviceId.toList ++ '#' :: n.repr.toList := by
  rw [String.toList_append, String.toList_append, List.append_assoc]
  rfl

lemma splitOn_channelId {deviceId : String} (h : '#' ∉ deviceId.toList) (n : ℤ) :
    (deviceId ++ "#" ++ toString n).toList.splitOn '#' = [deviceId.toList, n.repr.toList] := by
  have hnum : '#' ∉ n.repr.toList := by
    intro hmem
    rcases Scan.eq_or_isDigit_of_mem_repr hmem with heq | hdigit
    · exact absurd heq (by decide)
    · exact absurd hdigit (by decide)
  rw [toList_channelId, List.splitOn_append_cons_self, List.splitOn_eq_singleton h,
    List.splitOn_eq_singleton hnum]
  rfl

lemma channelOf_channelId {deviceId : String} (h : '#' ∉ deviceId.toList) {n : ℤ}
    (hlo : -2 ^ 31 ≤ n) (hhi : n < 2 ^ 31) (channel : ℤ) :
    channelOf (deviceId ++ "#" ++ toString n) channel = n := by
  rw [channelOf, splitOn_channelId h]
  exact Scan.atoi_repr hlo hhi

lemma channelId_inj {deviceId deviceId' : String} (h : '#' ∉ deviceId.toList)
    (h' : '#' ∉ deviceId'.toList) {n n' : ℤ}
    (hname : deviceId ++ "#" ++ toString n = deviceId' ++ "#" ++ toString n') :
    deviceId = deviceId' ∧ n.repr = n'.repr := by
  have htokens := congrArg (fun s : String => s.toList.splitOn '#') hname
  simp only [splitOn_channelId h, splitOn_channelId h', List.cons.injEq, and_true] at htokens
  exact ⟨String.toList_inj.mp htokens.1, String.toList_inj.mp htokens.2⟩

/-- Every parser of a message with this channel identifier finds the channel `n`. -/
structure ReadBack (id : String) (n : ℤ) : Prop where
  ptzControl : ∀ doc ptz, (shapeOf .channelPtzControl).Matches doc →
    doc.readAt asString ["data", "channelId"] = some id →
    ∃ r, parsPtzControl (some doc) ptz = .ok r ∧ r.2.channel = n
  ptzPreset : ∀ doc p, (shapeOf .channelPtzPreset).Matches doc →
    doc.readAt asString ["data", "channelId"] = some id →
    ∃ r, parsPtzPreset (some doc) p = .ok r ∧ r.2.channel = n
  play : ∀ doc p, (shapeOf .channelPlay).Matches doc →
    doc.readAt asString ["data", "channelId"] = some id →
    ∃ r, parsChannelPlay (some doc) p = .ok r ∧ r.2.channel = n
  recordInfo : ∀ doc record, (shapeOf .channelRecordInfo).Matches doc →
    doc.readAt asString ["data", "channelId"] = some id →
    ∃ r, parsChannelRecordInfo (some doc) record = .ok r ∧ r.2.channel = n
  playback : ∀ doc record, (shapeOf .channelPlayback).Matches doc →
    doc.readAt asString ["data", "channelId"] = some id →
    ∃ r, parsChannelPlayback (some doc) record = .ok r ∧ r.2.channel = n

lemma exists_obj_of_member {v w : Json} {name : String} (h : v.member name = some w) :
    ∃ ms, v = .obj ms := by
  rcases v with _ | _ | _ | _ | _ | _ | ms
  case obj => exact ⟨ms, rfl⟩
  all_goals cases h

lemma exists_asObject_of_readAt {α : Type} {as : Json → Option α} {v : Json} {name next : String}
    {names : List String} {x : α} (h : v.readAt as (name :: next :: names) = some x) :
    ∃ w, v.readAt asObject [name] = some w := by
  obtain ⟨w, hw, h⟩ := Option.bind_eq_some_iff.mp h
  obtain ⟨u, hu, _⟩ := Option.bind_eq_some_iff.mp h
  obtain ⟨ms, rfl⟩ := exists_obj_of_member hu
  exact ⟨.obj ms, Option.bind_eq_some_iff.mpr ⟨.obj ms, hw, rfl⟩⟩

lemma readBack_of_channelOf {id : String} {n : ℤ} (h : ∀ channel, channelOf id channel = n) :
    ReadBack id n where
  ptzControl doc ptz hshape hid := by
    obtain ⟨r, hr⟩ := (parsPtzControl_returns doc ptz).mpr hshape
    refine ⟨r, hr, ?_⟩
    rw [parsPtzControl_eq hr, text_of_readAt hid]
    exact h _
  ptzPreset doc p hshape hid := by
    obtain ⟨r, hr⟩ := (parsPtzPreset_returns doc p).mpr hshape
    refine ⟨r, hr, ?_⟩
    rw [parsPtzPreset_eq hr, text_of_readAt hid]
    exact h _
  play doc p hshape hid := by
    obtain ⟨r, hr⟩ := (parsChannelPlay_returns doc p).mpr hshape
    obtain ⟨data, hdata⟩ := exists_asObject_of_readAt hid
    have hchannel : (playData doc p).channel = n := by
      show channelOf (doc.text ["data", "channelId"]) p.channel = n
      rw [text_of_readAt hid, h]
    refine ⟨r, hr, ?_⟩
    rcases parsChannelPlay_cases hr with ⟨hnone, _⟩ | ⟨_, _, heq⟩ | ⟨_, _, heq⟩
    · rw [hdata] at hnone
      exact absurd hnone (by simp)
    · rw [heq, hchannel]
    · rw [heq]
      exact hchannel
  recordInfo doc record hshape hid := by
    obtain ⟨data, hdata, _⟩ := Option.bind_eq_some_iff.mp hid
    have hobj := exists_obj_of_member hdata
    obtain ⟨r, hr⟩ := (parsChannelRecordInfo_returns hobj record).mpr hshape
    refine ⟨r, hr, ?_⟩
    rw [parsChannelRecordInfo_eq hobj hr, text_of_readAt hid]
    exact h _
  playback doc record hshape hid := by
    obtain ⟨r, hr⟩ := (parsChannelPlayback_returns doc record).mpr hshape
    refine ⟨r, hr, ?_⟩
    rw [parsChannelPlayback_eq hr, text_of_readAt hid]
    exact h _

/-! ### What `channel_sync` announces -/

/-- A recorder whose identifier has no separator, and channels that are numbered by an `int`. -/
structure Nameable (platform : Platform) (deviceList : List Device) : Prop where
  deviceId : '#' ∉ platform.deviceId.toList
  id : ∀ d ∈ deviceList, -2 ^ 31 ≤ d.id ∧ d.id < 2 ^ 31

lemma exists_of_mem_channelDetailList {c : Config} {deviceList : List Device}
    {platform : Platform} {time : String} (h : Nameable platform deviceList) {e : Json}
    (he : e ∈ channelDetailList (c.channelSync deviceList platform time)) :
    ∃ d ∈ deviceList,
      e.stringMember "channelId" = some (platform.deviceId ++ "#" ++ toString d.id) ∧
        e.intMember "channelNum" = some d.id := by
  rw [channelDetailList_channelSync] at he
  obtain ⟨d, hd, rfl⟩ := List.mem_map.mp he
  have hmem := List.mem_of_mem_filter hd
  exact ⟨d, hmem, rfl, if_pos (h.id d hmem)⟩

/-- Every channel identifier that `channel_sync` writes is read back by the parsers as the number
of its channel, and no two recorders or numbers have the same one. -/
theorem channelIds_round_trip {c c' : Config} {deviceList deviceList' : List Device}
    {platform platform' : Platform} {time time' : String} (h : Nameable platform deviceList)
    (h' : Nameable platform' deviceList') {e e' : Json}
    (he : e ∈ channelDetailList (c.channelSync deviceList platform time))
    (he' : e' ∈ channelDetailList (c'.channelSync deviceList' platform' time')) :
    ∃ id n, e.stringMember "channelId" = some id ∧ e.intMember "channelNum" = some n ∧
      ReadBack id n ∧
      (e'.stringMember "channelId" = some id →
        platform'.deviceId = platform.deviceId ∧ e'.intMember "channelNum" = some n) := by
  obtain ⟨d, hd, hid, hnum⟩ := exists_of_mem_channelDetailList h he
  obtain ⟨d', hd', hid', hnum'⟩ := exists_of_mem_channelDetailList h' he'
  obtain ⟨hlo, hhi⟩ := h.id d hd
  obtain ⟨hlo', hhi'⟩ := h'.id d' hd'
  refine ⟨_, _, hid, hnum, ?_, fun heq => ?_⟩
  · exact readBack_of_channelOf (channelOf_channelId h.deviceId hlo hhi)
  · rw [hid'] at heq
    obtain ⟨hdev, hrepr⟩ := channelId_inj h'.deviceId h.deviceId (Option.some.inj heq)
    refine ⟨hdev, ?_⟩
    rw [hnum', ← Scan.atoi_repr hlo' hhi', hrepr, Scan.atoi_repr hlo hhi]

/-- A recorder with one channel. -/
theorem channelIds_round_trip_first : ∃ id n,
    (Env.plain.channelEntity (Platform.new "17") { Device.new with name := "IPC" }).stringMember
      "channelId" = some id ∧ ReadBack id n := by
  have hname : Nameable (Platform.new "17") [{ Device.new with name := "IPC" }] :=
    ⟨by decide, by decide⟩
  have hmem : Env.plain.channelEntity (Platform.new "17") { Device.new with name := "IPC" } ∈
      channelDetailList (Env.plain.channelSync [{ Device.new with name := "IPC" }]
        (Platform.new "17") "") := List.mem_cons_self
  obtain ⟨id, n, hid, _, hread, _⟩ := channelIds_round_trip hname hname hmem hmem
  exact ⟨id, n, hid, hread⟩

end DHGateway
