import DHGateway.Core.MapIter
import DHGateway.Session.PlaySession

/-!
# The session manager

`SessionMange` and the functions of `sdk_wrap` that start and stop a stream through it, one call
at a time. The map is generic in what it holds: sessions here, pointers to them where several
calls are in progress at once.
-/

namespace DHGateway

/-- `session_map`, by stream identifier. -/
abbrev SessionMap (α : Type) := AList fun _ : String => α

namespace SessionMap

variable {α : Type}

/-- `SessionMange::GetPlaySession`. -/
def getPlaySession (m : SessionMap α) (key : String) : Option α :=
  m.lookup key

/-- `SessionMange::InsertPlaySession` of a session that is not null: `insert` leaves an entry that
is there already, and the result does not tell. -/
def insertPlaySession (m : SessionMap α) (key : String) (p : α) : Bool × SessionMap α :=
  (true, if key ∈ m then m else m.insert key p)

/-- `SessionMange::DelPlaySession`. -/
def delPlaySession (m : SessionMap α) (key : String) : SessionMap α :=
  m.erase key

/-- The body of the loop in `SessionMange::DisconnetPlaySession`. -/
def disconnetBody (getClihandle : α → NETHANDLE) (clihandle : NETHANDLE) (m : SessionMap α)
    (key : String) (p : α) : SessionMap α :=
  if clihandle = getClihandle p then m.erase key else m

/-- `SessionMange::DisconnetPlaySession`. The loop advances its iterator also where it has just
erased the entry that the iterator stands at. No loop that only erases takes more rounds than
these. -/
def disconnetPlaySession (m : SessionMap α) (getClihandle : α → NETHANDLE)
    (clihandle : NETHANDLE) : Except MapIter.Error (SessionMap α) :=
  (MapIter.loop (disconnetBody getClihandle clihandle) (m.keys.length + 1) m
    (MapIter.begin m)).getD (.ok m)

@[simp] lemma getPlaySession_insert_self (m : SessionMap α) {key : String} (p : α)
    (h : key ∉ m) : (m.insertPlaySession key p).2.getPlaySession key = some p := by
  rw [insertPlaySession, if_neg h]
  exact AList.lookup_insert m

lemma getPlaySession_insert_ne (m : SessionMap α) {key k : String} (p : α) (h : k ≠ key) :
    (m.insertPlaySession key p).2.getPlaySession k = m.getPlaySession k := by
  simp only [insertPlaySession, getPlaySession]
  split_ifs
  · rfl
  · exact AList.lookup_insert_ne h

lemma insertPlaySession_of_mem {m : SessionMap α} {key : String} (p : α) (h : key ∈ m) :
    (m.insertPlaySession key p).2 = m :=
  if_pos h

lemma mem_insertPlaySession (m : SessionMap α) (key k : String) (p : α) :
    k ∈ (m.insertPlaySession key p).2 ↔ k = key ∨ k ∈ m := by
  rw [insertPlaySession]
  split_ifs with h
  · constructor
    · exact Or.inr
    · rintro (rfl | hk)
      · exact h
      · exact hk
  · exact AList.mem_insert m

lemma mem_delPlaySession (m : SessionMap α) (key k : String) :
    k ∈ m.delPlaySession key ↔ k ≠ key ∧ k ∈ m :=
  AList.mem_erase

lemma getPlaySession_del_ne (m : SessionMap α) {key k : String} (h : k ≠ key) :
    (m.delPlaySession key).getPlaySession k = m.getPlaySession k :=
  AList.lookup_erase_ne h

lemma getPlaySession_del_self (m : SessionMap α) (key : String) :
    (m.delPlaySession key).getPlaySession key = none :=
  AList.lookup_erase key m

lemma getPlaySession_of_del {m : SessionMap α} {key k : String} {p : α}
    (h : (m.delPlaySession key).getPlaySession k = some p) : m.getPlaySession k = some p := by
  by_cases hk : k = key
  · rw [hk, getPlaySession_del_self] at h
    exact absurd h (by simp)
  · rwa [getPlaySession_del_ne m hk] at h

lemma getPlaySession_eq_none {m : SessionMap α} {key : String} :
    m.getPlaySession key = none ↔ key ∉ m :=
  AList.lookup_eq_none

lemma mem_of_getPlaySession {m : SessionMap α} {key : String} {p : α}
    (h : m.getPlaySession key = some p) : key ∈ m :=
  AList.lookup_isSome.mp (Option.isSome_iff_exists.mpr ⟨p, h⟩)

end SessionMap

/-! ### Starting and stopping streams -/

/-- The outcome of `start_real_stream` or `start_play_back`. -/
structure StreamStart where
  ret : ℤ
  sessions : SessionMap PlaySession
  calls : List DeviceCall

/-- The session that `start_real_stream` makes over storage that held `mem`, connected to the
media server when the request names one. -/
def realSession (mem : PlaySession) (login : LoginResults) (realPlay : Play)
    (media : PlaySession.MediaAnswers) : PlaySession :=
  let session := PlaySession.new mem login.handle realPlay.channel realPlay.streamId
  if realPlay.sdpIp ≠ "" then
    (session.setMSAddr media realPlay.sdpIp realPlay.port realPlay.streamMode).2
  else session

/-- The session that `start_play_back` makes. -/
def recordSession (mem : PlaySession) (login : LoginResults) (record : Record)
    (media : PlaySession.MediaAnswers) : PlaySession :=
  let session := PlaySession.new mem login.handle record.channel record.streamId
  if record.sdpIp ≠ "" then
    (session.setMSAddr media record.sdpIp record.port record.streamMode).2
  else session

/-- The common end of both: a started session is put into the map. -/
def insertStarted (m : SessionMap PlaySession) (key : String) (r : PlaySession.Started) :
    StreamStart :=
  if r.ret ≠ 0 then ⟨r.ret, m, r.calls⟩
  else
    let (inserted, m) := m.insertPlaySession key r.session
    if !inserted then ⟨1, m, r.calls⟩ else ⟨r.ret, m, r.calls⟩

/-- `sdk_wrap::start_real_stream`. -/
def startRealStream (m : SessionMap PlaySession) (mem : PlaySession) (login : LoginResults)
    (realPlay : Play) (media : PlaySession.MediaAnswers) (a : PlaySession.StartAnswers) :
    StreamStart :=
  match m.getPlaySession realPlay.streamId with
  | none =>
    insertStarted m realPlay.streamId
      ((realSession mem login realPlay media).startRealPlaySession a)
  | some _ => ⟨0, m, []⟩

/-- `sdk_wrap::start_play_back`. -/
def startPlayBack (m : SessionMap PlaySession) (mem : PlaySession) (times : NetTimes)
    (login : LoginResults) (record : Record) (media : PlaySession.MediaAnswers)
    (a : PlaySession.StartAnswers) : StreamStart :=
  match m.getPlaySession record.streamId with
  | none =>
    insertStarted m record.streamId
      ((recordSession mem login record media).startRecordPlaySession times a record)
  | some _ => ⟨0, m, []⟩

/-- `sdk_wrap::stop_play`. The session that is erased is the one that was stopped. -/
def stopPlay (m : SessionMap PlaySession) (key : String) (a : PlaySession.StopAnswers) :
    ℤ × SessionMap PlaySession :=
  match m.getPlaySession key with
  | none => (-1, m)
  | some session => ((session.stopSession a).ret, m.delPlaySession key)

lemma insertStarted_sessions (m : SessionMap PlaySession) (key : String)
    {r : PlaySession.Started} (h : r.ret = 0) :
    (insertStarted m key r).sessions = (m.insertPlaySession key r.session).2 := by
  rw [insertStarted, if_neg (not_not_intro h)]
  rfl

lemma insertStarted_calls (m : SessionMap PlaySession) (key : String) (r : PlaySession.Started) :
    (insertStarted m key r).calls = r.calls := by
  simp only [insertStarted]
  split_ifs <;> rfl

lemma startRealStream_calls (m : SessionMap PlaySession) (mem : PlaySession)
    (login : LoginResults) (realPlay : Play) (media : PlaySession.MediaAnswers)
    (a : PlaySession.StartAnswers) :
    (startRealStream m mem login realPlay media a).calls = [] ↔ realPlay.streamId ∈ m := by
  rw [startRealStream]
  split
  · rename_i hnone
    refine iff_of_false ?_ (SessionMap.getPlaySession_eq_none.mp hnone)
    rw [insertStarted_calls, PlaySession.startRealPlaySession]
    dsimp only
    split <;> exact List.cons_ne_nil _ _
  · rename_i p hp
    exact iff_of_true rfl (SessionMap.mem_of_getPlaySession hp)

lemma startPlayBack_calls (m : SessionMap PlaySession) (mem : PlaySession) (times : NetTimes)
    (login : LoginResults) (record : Record) (media : PlaySession.MediaAnswers)
    (a : PlaySession.StartAnswers) :
    (startPlayBack m mem times login record media a).calls = [] ↔ record.streamId ∈ m := by
  rw [startPlayBack]
  split
  · rename_i hnone
    refine iff_of_false ?_ (SessionMap.getPlaySession_eq_none.mp hnone)
    rw [insertStarted_calls, PlaySession.startRecordPlaySession]
    dsimp only
    split_ifs <;> simp
  · rename_i p hp
    exact iff_of_true rfl (SessionMap.mem_of_getPlaySession hp)

lemma realSession_buffer (mem : PlaySession) (login : LoginResults) (realPlay : Play)
    (media : PlaySession.MediaAnswers) :
    (realSession mem login realPlay media).nSendRtpVideoMediaBufferLength = 0 := by
  simp only [realSession, PlaySession.setMSAddr, PlaySession.connetMS, PlaySession.creatPacket]
  split_ifs <;> rfl

lemma recordSession_buffer (mem : PlaySession) (login : LoginResults) (record : Record)
    (media : PlaySession.MediaAnswers) :
    (recordSession mem login record media).nSendRtpVideoMediaBufferLength = 0 := by
  simp only [recordSession, PlaySession.setMSAddr, PlaySession.connetMS, PlaySession.creatPacket]
  split_ifs <;> rfl

end DHGateway
