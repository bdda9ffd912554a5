import DHGateway.Message.Shape
import DHGateway.Server.Handlers

/-!
# What the parsers ask of a message

Some parsers check each member before they read it, and return on every message; others read
members without asking, and return exactly on messages of one shape.
-/

namespace DHGateway

open Json

/-! ### Checked parsers, with every call of RapidJSON -/

namespace Json

section

variable {β : Type} (name : String) (ms : List (String × Json))

lemma ok_bind {α : Type} (a : α) (f : α → Except Fault β) : Except.ok a >>= f = f a := rfl

lemma readMember_bind {α : Type} (as : Json → Option α) (f : Option α → Except Fault β) :
    (obj ms).readMember as name >>= f = f ((obj ms).memberAs as name) := by
  rw [readMember_obj]
  rfl

lemma readString_bind (f : Option String → Except Fault β) :
    (obj ms).readMember asString name >>= f = f ((obj ms).stringMember name) :=
  readMember_bind name ms asString f

lemma readInt_bind (f : Option ℤ → Except Fault β) :
    (obj ms).readMember asInt name >>= f = f ((obj ms).intMember name) :=
  readMember_bind name ms asInt f

lemma readObject_bind (f : Option Json → Except Fault β) :
    (obj ms).readMember asObject name >>= f = f ((obj ms).objectMember name) :=
  readMember_bind name ms asObject f

end

lemma asObject_eq_some {v w : Json} : v.asObject = some w ↔ w = v ∧ ∃ ms, v = .obj ms := by
  constructor
  · rcases v with _ | _ | _ | _ | _ | _ | ms
    case obj =>
      intro h
      exact ⟨(Option.some.inj h).symm, ms, rfl⟩
    all_goals exact fun h => nomatch h
  · rintro ⟨rfl, ms, rfl⟩
    rfl

lemma exists_obj_of_objectMember {name : String} {v w : Json}
    (h : v.objectMember name = some w) : ∃ ms, w = .obj ms := by
  obtain ⟨u, _, hu⟩ := Option.bind_eq_some_iff.mp h
  obtain ⟨rfl, hms⟩ := asObject_eq_some.mp hu
  exact hms

end Json

namespace Raw

/-- `gateway_msg::pars_device_sync`. -/
def parsDeviceSync (doc : Document) (platform : Platform) : Except Fault (Bool × Platform) :=
  match (doc.getD .null).asObject with
  | none => .ok (false, platform)
  | some doc => do
    let _ ← doc.readMember asInt "code"
    let msgId ← doc.readMember asString "msgId"
    let platform := { platform with msgId := msgId.getD platform.msgId }
    match ← doc.readMember asObject "data" with
    | none => .ok (false, platform)
    | some data =>
      match ← data.readMember asString "deviceId" with
      | none => .ok (false, platform)
      | some deviceId => .ok (true, { platform with deviceId := deviceId })

/-- `gateway_msg::pars_device_total_sync`. -/
def parsDeviceTotalSync (doc : Document) (msgId : String) : Except Fault (Bool × String) :=
  match (doc.getD .null).asObject with
  | none => .ok (false, msgId)
  | some doc => do
    match ← doc.readMember asString "msgId" with
    | none => .ok (false, msgId)
    | some msgId => .ok (true, msgId)

/-- The `dataMap` part of `gateway_msg::pars_device_add`. -/
def parsDataMap (dataMap : Json) (p : Platform) : Except Fault Platform := do
  let deviceType ← dataMap.readMember asInt "deviceType"
  let _ ← dataMap.readMember asString "deviceId"
  let ip ← dataMap.readMember asString "ip"
  let port ← dataMap.readMember asString "port"
  let username ← dataMap.readMember asString "username"
  let password ← dataMap.readMember asString "password"
  .ok { p with
    deviceType := deviceType.getD p.deviceType
    ip := ip.getD p.ip
    port := (port.map fun s : String => Scan.atoi s.toList).getD p.port
    username := username.getD p.username
    password := password.getD p.password }

/-- `gateway_msg::pars_device_add`. -/
def parsDeviceAdd (doc : Document) (p : Platform) : Except Fault (Bool × Platform) :=
  match (doc.getD .null).asObject with
  | none => .ok (false, p)
  | some doc => do
    let _ ← doc.readMember asInt "code"
    let p ← match ← doc.readMember asObject "data" with
      | none => pure p
      | some data =>
        match ← data.readMember asObject "dataMap" with
        | none => pure p
        | some dataMap => parsDataMap dataMap p
    let _ ← doc.readMember asString "time"
    let _ ← doc.readMember asString "serialNum"
    let msgId ← doc.readMember asString "msgId"
    .ok (true, { p with msgId := msgId.getD p.msgId })

/-- `gateway_msg::pars_channel_stop_play`. -/
def parsChannelStopPlay (doc : Document) (key : String) : Except Fault (Bool × String) :=
  match (doc.getD .null).asObject with
  | none => .ok (true, key)
  | some doc => do
    match ← doc.readMember asObject "data" with
    | none => .ok (true, key)
    | some data =>
      let streamId ← data.readMember asString "streamId"
      .ok (true, streamId.getD key)

/-! They return on every message, with what the parsers above return. -/

lemma parsDeviceSync_eq (doc : Document) (platform : Platform) :
    parsDeviceSync doc platform = .ok (DHGateway.parsDeviceSync doc platform) := by
  rw [parsDeviceSync, DHGateway.parsDeviceSync]
  generalize doc.getD .null = doc
  rcases doc with _ | _ | _ | _ | _ | _ | ms
  case obj =>
    simp only [asObject, readInt_bind, readString_bind, readObject_bind]
    cases hdata : (obj ms).objectMember "data" with
    | none => rfl
    | some data =>
      obtain ⟨ms', rfl⟩ := exists_obj_of_objectMember hdata
      simp only [readString_bind, Option.bind_some]
      cases (obj ms').stringMember "deviceId" <;> rfl
  all_goals rfl

lemma parsDeviceTotalSync_eq (doc : Document) (msgId : String) :
    parsDeviceTotalSync doc msgId = .ok (DHGateway.parsDeviceTotalSync doc msgId) := by
  rw [parsDeviceTotalSync, DHGateway.parsDeviceTotalSync]
  generalize doc.getD .null = doc
  rcases doc with _ | _ | _ | _ | _ | _ | ms
  case obj =>
    simp only [asObject, readString_bind]
    cases (obj ms).stringMember "msgId" <;> rfl
  all_goals rfl

lemma parsDataMap_eq (ms : List (String × Json)) (p : Platform) :
    parsDataMap (obj ms) p = .ok { p with
      deviceType := ((obj ms).intMember "deviceType").getD p.deviceType
      ip := ((obj ms).stringMember "ip").getD p.ip
      port := (((obj ms).stringMember "port").map fun s : String =>
        Scan.atoi s.toList).getD p.port
      username := ((obj ms).stringMember "username").getD p.username
      password := ((obj ms).stringMember "password").getD p.password } := by
  simp only [parsDataMap, readInt_bind, readString_bind]

lemma parsDeviceAdd_eq (doc : Document) (p : Platform) :
    parsDeviceAdd doc p = .ok (DHGateway.parsDeviceAdd doc p) := by
  rw [parsDeviceAdd, DHGateway.parsDeviceAdd]
  generalize doc.getD .null = doc
  rcases doc with _ | _ | _ | _ | _ | _ | ms
  case obj =>
    simp only [asObject, readInt_bind, readObject_bind]
    cases hdata : (obj ms).objectMember "data" with
    | none =>
      simp only [pure_bind, readString_bind]
      rfl
    | some data =>
      obtain ⟨ms', rfl⟩ := exists_obj_of_objectMember hdata
      simp only [readObject_bind, Option.bind_some]
      cases hmap : (obj ms').objectMember "dataMap" with
      | none =>
        simp only [pure_bind, readString_bind]
        rfl
      | some dataMap =>
        obtain ⟨ms'', rfl⟩ := exists_obj_of_objectMember hmap
        simp only [parsDataMap_eq, ok_bind, readString_bind]
        rfl
  all_goals rfl

lemma parsChannelStopPlay_eq (doc : Document) (key : String) :
    parsChannelStopPlay doc key = .ok (DHGateway.parsChannelStopPlay doc key) := by
  rw [parsChannelStopPlay, DHGateway.parsChannelStopPlay]
  generalize doc.getD .null = doc
  rcases doc with _ | _ | _ | _ | _ | _ | ms
  case obj =>
    simp only [asObject, readObject_bind]
    cases hdata : (obj ms).objectMember "data" with
    | none => rfl
    | some data =>
      obtain ⟨ms', rfl⟩ := exists_obj_of_objectMember hdata
      exact readString_bind "streamId" ms' _
  all_goals rfl

end Raw

/-! ### Unchecked parsers -/

/-- The shape of the messages on which the parser for a type returns. -/
def shapeOf : MsgType → Shape
  | .channelPtzControl =>
    .obj [("code", .int),
      ("data", .obj [("channelId", .str), ("dataMap", .obj [("cmdCode", .int), ("cmdValue", .int)]),
        ("deviceId", .str)]),
      ("msgId", .str), ("msgType", .str)]
  | .channelPtzPreset =>
    .obj [("msgId", .str), ("msgType", .str),
      ("data", .obj [("deviceId", .str), ("channelId", .str)])]
  | .channelPlay =>
    .obj [("msgType", .str), ("msgId", .str),
      ("data", .ifObj [("streamMode", .int), ("deviceId", .str), ("channelId", .str),
        ("dispatchUrl", .str), ("streamId", .str),
        ("ssrcInfo", .ifObj [("ip", .str), ("port", .int), ("ssrc", .str), ("sdpIp", .str),
          ("streamId", .str), ("mediaServerId", .str)])])]
  | .channelRecordInfo =>
    .obj [("code", .int),
      ("data", .obj [("channelId", .str), ("deviceId", .str),
        ("dataMap", .obj [("startTime", .str), ("endTime", .str)])]),
      ("error", .bool), ("msgId", .str), ("msgType", .str), ("serialNum", .str), ("time", .str)]
  | .channelPlayback =>
    .obj [("msgType", .str), ("msgId", .str),
      ("data", .obj [("deviceId", .str), ("channelId", .str), ("startTime", .str),
        ("endTime", .str), ("streamMode", .int), ("dispatchUrl", .str), ("streamId", .str),
        ("ssrcInfo", .obj [("ip", .str), ("port", .int), ("ssrc", .str), ("sdpIp", .str),
          ("streamId", .str), ("mediaServerId", .str)])])]
  | _ => .any

lemma parsPtzControl_returns (doc : Json) (ptz : PtzCMD) :
    Returns (parsPtzControl (some doc) ptz) ↔ (shapeOf .channelPtzControl).Matches doc := by
  refine Iff.trans (returns_getInt fun _ => returns_at'.trans (exists_congr fun data =>
    and_congr_right fun _ => returns_getString fun _ => returns_at'.trans (exists_congr
    fun dataMap => and_congr_right fun _ => returns_getInt fun _ => returns_getInt fun _ =>
    returns_getString fun _ => returns_getString fun _ => returns_getString fun _ =>
    returns_ok _))) ?_
  simp only [shapeOf, Shape.Matches, HasFields, and_true]
  refine and_congr_right fun _ => ⟨?_, ?_⟩
  · rintro ⟨data, hdata, hchannel, dataMap, hmap, hcode, hvalue, hdevice, hid, htype⟩
    exact ⟨⟨data, hdata, hchannel, ⟨dataMap, hmap, hcode, hvalue⟩, hdevice⟩, hid, htype⟩
  · rintro ⟨⟨data, hdata, hchannel, ⟨dataMap, hmap, hcode, hvalue⟩, hdevice⟩, hid, htype⟩
    exact ⟨data, hdata, hchannel, dataMap, hmap, hcode, hvalue, hdevice, hid, htype⟩

lemma parsPtzPreset_returns (doc : Json) (p : Preset) :
    Returns (parsPtzPreset (some doc) p) ↔ (shapeOf .channelPtzPreset).Matches doc := by
  refine Iff.trans (returns_getString fun _ => returns_getString fun _ => returns_at'.trans
    (exists_congr fun data => and_congr_right fun _ => returns_getString fun _ =>
      returns_getString fun _ => returns_ok _)) ?_
  simp only [shapeOf, Shape.Matches, HasFields, and_true]

lemma parsChannelPlay_returns (doc : Json) (p : Play) :
    Returns (parsChannelPlay (some doc) p) ↔ (shapeOf .channelPlay).Matches doc := by
  refine Iff.trans (returns_getString fun _ => returns_getString fun _ => returns_at'.trans
    (exists_congr fun data => and_congr_right fun _ => returns_ifObj ⟨_, rfl⟩ fun data =>
      returns_getInt fun _ => returns_getString fun _ => returns_getString fun _ =>
      returns_getString fun _ => returns_getString fun _ => returns_at'.trans
      (exists_congr fun ssrcInfo => and_congr_right fun _ => returns_ifObj ⟨_, rfl⟩ fun ssrcInfo =>
        returns_getString fun _ => returns_getInt fun _ => returns_getString fun _ =>
        returns_getString fun _ => returns_getString fun _ => returns_getString fun _ =>
        returns_ok _))) ?_
  simp only [shapeOf, Shape.Matches, HasFields, and_true]

lemma parsChannelRecordInfo_returns {doc : Json} (hobj : ∃ ms, doc = .obj ms) (record : Record) :
    Returns (parsChannelRecordInfo (some doc) record) ↔
      (shapeOf .channelRecordInfo).Matches doc := by
  obtain ⟨ms, rfl⟩ := hobj
  refine Iff.trans (returns_getInt fun _ => returns_at'.trans (exists_congr fun data =>
    and_congr_right fun _ => returns_getString fun _ => returns_getString fun _ =>
    returns_at'.trans (exists_congr fun dataMap => and_congr_right fun _ =>
    returns_getString fun _ => returns_getString fun _ => returns_getBool fun _ =>
    returns_getString fun _ => returns_getString fun _ => returns_getString fun _ =>
    returns_getString fun _ => returns_ok _))) ?_
  simp only [shapeOf, Shape.Matches, HasFields, and_true]
  refine and_congr_right fun _ => ⟨?_, ?_⟩
  · rintro ⟨data, hdata, hchannel, hdevice, dataMap, hmap, hstart, hend, hrest⟩
    exact ⟨⟨data, hdata, hchannel, hdevice, dataMap, hmap, hstart, hend⟩, hrest⟩
  · rintro ⟨⟨data, hdata, hchannel, hdevice, dataMap, hmap, hstart, hend⟩, hrest⟩
    exact ⟨data, hdata, hchannel, hdevice, dataMap, hmap, hstart, hend, hrest⟩

lemma parsChannelPlayback_returns (doc : Json) (record : Record) :
    Returns (parsChannelPlayback (some doc) record) ↔ (shapeOf .channelPlayback).Matches doc := by
  refine Iff.trans (returns_getString fun _ => returns_getString fun _ => returns_at'.trans
    (exists_congr fun data => and_congr_right fun _ => returns_getString fun _ =>
      returns_getString fun _ => returns_getString fun _ => returns_getString fun _ =>
      returns_getInt fun _ => returns_getString fun _ => returns_getString fun _ =>
      returns_at'.trans (exists_congr fun ssrcInfo => and_congr_right fun _ =>
        returns_getString fun _ => returns_getInt fun _ => returns_getString fun _ =>
        returns_getString fun _ => returns_getString fun _ => returns_getString fun _ =>
        returns_ok _))) ?_
  simp only [shapeOf, Shape.Matches, HasFields, and_true]

/-- `pars_streamId` does not check that the document is an object, but dispatched ones are. -/
lemma parsStreamId_obj (ms : List (String × Json)) (streamId : String) :
    ∃ found, parsStreamId (some (obj ms)) streamId = .ok (found,
      (((obj ms).objectMember "data").bind (stringMember "streamId")).getD streamId) := by
  simp only [parsStreamId, readObject_bind]
  cases hdata : (obj ms).objectMember "data" with
  | none => exact ⟨_, rfl⟩
  | some data =>
    obtain ⟨ms', rfl⟩ := exists_obj_of_objectMember hdata
    simp only [readString_bind, Option.bind_some]
    cases (obj ms').stringMember "streamId" with
    | none => exact ⟨_, rfl⟩
    | some id => exact ⟨_, rfl⟩

lemma parsRecordSpeed_obj (ms : List (String × Json)) (speed : Rat) (streamId : String) :
    ∃ found, parsRecordSpeed (some (obj ms)) speed streamId = .ok (found,
      ((((obj ms).objectMember "data").bind (objectMember "dataMap")).bind
        (memberAs asFloat "speed")).getD speed,
      (((obj ms).objectMember "data").bind (stringMember "streamId")).getD streamId) := by
  simp only [parsRecordSpeed, readObject_bind]
  cases hdata : (obj ms).objectMember "data" with
  | none => exact ⟨_, rfl⟩
  | some data =>
    obtain ⟨ms', rfl⟩ := exists_obj_of_objectMember hdata
    simp only [readObject_bind, Option.bind_some]
    cases hmap : (obj ms').objectMember "dataMap" with
    | none =>
      simp only [pure_bind, readString_bind]
      cases (obj ms').stringMember "streamId" with
      | none => exact ⟨_, rfl⟩
      | some id => exact ⟨_, rfl⟩
    | some dataMap =>
      obtain ⟨ms'', rfl⟩ := exists_obj_of_objectMember hmap
      simp only [readMember_bind, pure_bind]
      cases hid : (obj ms').stringMember "streamId" with
      | none =>
        rw [show (obj ms').memberAs asString "streamId" = none from hid]
        exact ⟨_, rfl⟩
      | some id =>
        rw [show (obj ms').memberAs asString "streamId" = some id from hid]
        exact ⟨_, rfl⟩

/-! ### Dispatched messages -/

/-- The parser that the handler for a type calls on its records; `speed` is what the memory of the
speed holds. -/
def runParser (t : MsgType) (doc : Document) (a : TaskInput) (speed : Rat) : Except Fault Unit :=
  match t with
  | .gatewaySignIn | .channel3dOperation => .ok ()
  | .deviceAdd => (Raw.parsDeviceAdd doc (Platform.new a.newId)).map fun _ => ()
  | .deviceTotalSync => (Raw.parsDeviceTotalSync doc "").map fun _ => ()
  | .channelSync | .deviceDelete | .deviceDeleteSoft | .deviceDeleteRecover | .channelDeleteSoft
  | .channelDeleteRecover => (Raw.parsDeviceSync doc (Platform.new a.newId)).map fun _ => ()
  | .channelPtzControl => (parsPtzControl doc (PtzCMD.new a.ptzMem)).map fun _ => ()
  | .channelPtzPreset => (parsPtzPreset doc (Preset.new a.presetMem)).map fun _ => ()
  | .channelPlay => (parsChannelPlay doc (Play.new a.playMem)).map fun _ => ()
  | .channelRecordInfo => (parsChannelRecordInfo doc (Record.new a.recordMem)).map fun _ => ()
  | .channelPlayback => (parsChannelPlayback doc (Record.new a.recordMem)).map fun _ => ()
  | .channelStopPlay => (Raw.parsChannelStopPlay doc "").map fun _ => ()
  | .deviceRecordPause | .deviceRecordResume => (parsStreamId doc "").map fun _ => ()
  | .deviceRecordSpeed => (parsRecordSpeed doc speed "").map fun _ => ()

/-- On a message of its type a parser returns exactly if the message has the shape that the parser
takes for granted. -/
theorem runParser_returns_iff {doc : Document} {t : MsgType} (hdoc : getMsgType doc = some t)
    (a : TaskInput) (speed : Rat) :
    Returns (runParser t doc a speed) ↔ (shapeOf t).Matches (doc.getD .null) := by
  -- a message that has a type is an object
  obtain ⟨ms, rfl⟩ := exists_obj_of_stringMember (stringMember_of_getMsgType hdoc)
  -- the readers that test each member return on every document
  have hsync : ∀ p, Returns ((Raw.parsDeviceSync (some (obj ms)) p).map fun _ => ()) := by
    intro p
    rw [Raw.parsDeviceSync_eq]
    exact ⟨_, rfl⟩
  have hstream : Returns ((parsStreamId (some (obj ms)) "").map fun _ => ()) := by
    obtain ⟨found, h⟩ := parsStreamId_obj ms ""
    exact returns_map.mpr ⟨_, h⟩
  cases t with
  | channelPtzControl => exact returns_map.trans (parsPtzControl_returns (obj ms) _)
  | channelPtzPreset => exact returns_map.trans (parsPtzPreset_returns (obj ms) _)
  | channelPlay => exact returns_map.trans (parsChannelPlay_returns (obj ms) _)
  | channelRecordInfo => exact returns_map.trans (parsChannelRecordInfo_returns ⟨ms, rfl⟩ _)
  | channelPlayback => exact returns_map.trans (parsChannelPlayback_returns (obj ms) _)
  | gatewaySignIn | channel3dOperation => exact iff_of_true ⟨_, rfl⟩ trivial
  | deviceAdd =>
    refine iff_of_true (returns_map.mpr ?_) trivial
    exact ⟨_, Raw.parsDeviceAdd_eq _ _⟩
  | deviceTotalSync =>
    refine iff_of_true (returns_map.mpr ?_) trivial
    exact ⟨_, Raw.parsDeviceTotalSync_eq _ _⟩
  | channelSync | deviceDelete | deviceDeleteSoft | deviceDeleteRecover | channelDeleteSoft
  | channelDeleteRecover => exact iff_of_true (hsync _) trivial
  | channelStopPlay =>
    refine iff_of_true (returns_map.mpr ?_) trivial
    exact ⟨_, Raw.parsChannelStopPlay_eq _ _⟩
  | deviceRecordPause | deviceRecordResume => exact iff_of_true hstream trivial
  | deviceRecordSpeed =>
    obtain ⟨found, h⟩ := parsRecordSpeed_obj ms speed ""
    exact iff_of_true (returns_map.mpr ⟨_, h⟩) trivial

/-- A stop is read whatever it looks like. -/
theorem runParser_returns_stop :
    Returns (runParser .channelStopPlay
      (some (.obj [("msgType", .str "CHANNEL_STOP_PLAY"), ("data", .num 1)])) .silent 0) :=
  (runParser_returns_iff (show getMsgType _ = some .channelStopPlay by decide) .silent 0).mpr
    trivial

/-- A movement command that has nothing but its type cannot be read. -/
theorem runParser_faults :
    ¬ Returns (runParser .channelPtzControl
      (some (.obj [("msgType", .str "CHANNEL_PTZ_CONTROL")])) .silent 0) :=
  not_returns_error .noSuchMember

namespace Server

/-! ### What a task makes of it -/

variable {env : Env} {s : Server} {doc : Document} {a : TaskInput}

lemma withLogin_ne_fault {deviceId : String} {body : Server → LoginResults → Server × TaskEnd}
    (h : ∀ s results f, (body s results).2 ≠ .fault f) (f : Fault) :
    (s.withLogin deviceId a body).2 ≠ .fault f := by
  rw [withLogin]
  rcases s.lookupLogin deviceId a with ⟨e | results, s'⟩
  · exact fun hf => nomatch hf
  · exact h s' results f

lemma withParsed_fault_iff {α : Type} {parsed : Except Fault (Bool × α)}
    {body : α → Server × TaskEnd} (h : ∀ v f, (body v).2 ≠ .fault f) :
    (∃ f, (s.withParsed parsed body).2 = .fault f) ↔ ¬ Returns parsed := by
  rcases parsed with f | ⟨_, v⟩
  · exact iff_of_true ⟨f, rfl⟩ (not_returns_error f)
  · refine iff_of_false ?_ (not_not_intro ⟨_, rfl⟩)
    rintro ⟨f, hf⟩
    exact h v f hf

lemma channelSync_ne_fault (f : Fault) : (channelSync env s doc a).2 ≠ .fault f := by
  apply withLogin_ne_fault
  intro s results f
  dsimp only
  split
  · exact fun hf => nomatch hf
  · exact fun hf => nomatch hf

lemma deviceAdd_ne_fault (f : Fault) : (deviceAdd env s doc a).2 ≠ .fault f := by
  rw [deviceAdd]
  dsimp only
  split_ifs
  · exact fun hf => nomatch hf
  · split
    · exact fun hf => nomatch hf
    · split_ifs
      · exact fun hf => nomatch hf
      · exact fun hf => nomatch hf

/-- A task breaks the contract of the JSON library exactly if its message does not have the shape
that the parser takes for granted. -/
theorem handle_fault_iff {t : MsgType} (hdoc : getMsgType doc = some t) :
    (∃ f, (handle env s doc a).2 = .fault f) ↔ ¬ (shapeOf t).Matches (doc.getD .null) := by
  obtain ⟨ms, rfl⟩ := exists_obj_of_stringMember (stringMember_of_getMsgType hdoc)
  -- a type without a shape is read by a parser that returns on every document
  have hreturned : ∀ r : Server × TaskEnd, (∀ f, r.2 ≠ .fault f) →
      ((∃ f, r.2 = .fault f) ↔ ¬ Shape.any.Matches (obj ms)) := by
    intro r hr
    refine iff_of_false ?_ (not_not_intro trivial)
    rintro ⟨f, hf⟩
    exact hr f hf
  rw [handle, hdoc]
  cases t with
  | channelPtzControl =>
    refine Iff.trans (withParsed_fault_iff fun v => withLogin_ne_fault fun s results f => ?_)
      (not_congr (parsPtzControl_returns (obj ms) _))
    exact fun hf => nomatch hf
  | channelPtzPreset =>
    refine Iff.trans (withParsed_fault_iff fun v => withLogin_ne_fault fun s results f => ?_)
      (not_congr (parsPtzPreset_returns (obj ms) _))
    exact fun hf => nomatch hf
  | channelPlay =>
    refine Iff.trans (withParsed_fault_iff fun v => withLogin_ne_fault fun s results f => ?_)
      (not_congr (parsChannelPlay_returns (obj ms) _))
    exact fun hf => nomatch hf
  | channelRecordInfo =>
    refine Iff.trans (withParsed_fault_iff fun v => withLogin_ne_fault fun s results f => ?_)
      (not_congr (parsChannelRecordInfo_returns ⟨ms, rfl⟩ _))
    exact fun hf => nomatch hf
  | channelPlayback =>
    refine Iff.trans (withParsed_fault_iff fun v => withLogin_ne_fault fun s results f => ?_)
      (not_congr (parsChannelPlayback_returns (obj ms) _))
    exact fun hf => nomatch hf
  | channelSync => exact hreturned _ channelSync_ne_fault
  | deviceAdd => exact hreturned _ deviceAdd_ne_fault
  | deviceTotalSync | deviceDelete | deviceDeleteSoft | deviceDeleteRecover | channelDeleteSoft
  | channelDeleteRecover | channelStopPlay | gatewaySignIn | channel3dOperation
  | deviceRecordPause | deviceRecordResume | deviceRecordSpeed =>
    exact hreturned _ fun f hf => nomatch hf

end Server

end DHGateway
