import DHGateway.Session.SessionMange

/-!
# What a start reports

`start_real_stream` and `start_play_back` report with `0` that a stream runs. Beside the map stand
the handles that the SDK has returned and that have not been stopped since.
-/

namespace DHGateway

open PlaySession

abbrev OpenStreams := List (StreamKind × LLONG)

def openedBy (a : StartAnswers) : DeviceCall → Option (StreamKind × LLONG)
  | .realPlayByDataType _ _ =>
    if a.realPlayByDataType = 0 then none else some (.real, a.realPlayByDataType)
  | .playBackByDataType _ _ _ =>
    if a.playBackByDataType = 0 then none else some (.record, a.playBackByDataType)
  | _ => none

def StreamStart.openStreams (r : StreamStart) (a : StartAnswers) (opened : OpenStreams) :
    OpenStreams :=
  opened ++ r.calls.filterMap (openedBy a)

/-- The map has a session under the key whose stream of this kind is open. -/
def Runs (k : StreamKind) (m : SessionMap PlaySession) (opened : OpenStreams) (key : String) :
    Prop :=
  ∃ p, m.getPlaySession key = some p ∧ p.handle k ≠ 0 ∧ (k, p.handle k) ∈ opened

/-- A start reports what it did: for `0` the stream runs, and otherwise nothing has changed. -/
structure Reports (k : StreamKind) (m : SessionMap PlaySession) (opened : OpenStreams)
    (key : String) (a : StartAnswers) (r : StreamStart) : Prop where
  success : r.ret = 0 → Runs k r.sessions (r.openStreams a opened) key
  failure : r.ret ≠ 0 → r.sessions = m ∧ r.openStreams a opened = opened

/-! ### A new session -/

@[simp] lemma setMSAddr_handle (s : PlaySession) (media : MediaAnswers) (ip : String)
    (port linkType : ℤ) (k : StreamKind) :
    (s.setMSAddr media ip port linkType).2.handle k = s.handle k := by
  simp only [setMSAddr, connetMS, creatPacket]
  split_ifs <;> cases k <;> rfl

lemma realSession_handle (mem : PlaySession) (login : LoginResults) (realPlay : Play)
    (media : MediaAnswers) : (realSession mem login realPlay media).lRealPlayHandle = 0 := by
  show (realSession mem login realPlay media).handle .real = 0
  simp only [realSession]
  split_ifs
  · rw [setMSAddr_handle]
    rfl
  · rfl

/-- The two ways in which `startRealPlaySession` returns `0`, and the one in which it does not. -/
lemma startRealPlaySession_cases (s : PlaySession) (a : StartAnswers)
    (herr : dhSdkGetLastError a.lastError ≠ 0) :
    (a.makeKeyFrame = false ∧ (s.startRealPlaySession a).ret = 0 ∧
      (s.startRealPlaySession a).session = s) ∨
    (a.makeKeyFrame = true ∧ a.realPlayByDataType ≠ 0 ∧ (s.startRealPlaySession a).ret = 0 ∧
      (s.startRealPlaySession a).session.handle .real = a.realPlayByDataType ∧
      (s.startRealPlaySession a).calls.filterMap (openedBy a) = [(.real, a.realPlayByDataType)]) ∨
    (a.makeKeyFrame = true ∧ (s.startRealPlaySession a).ret ≠ 0 ∧
      (s.startRealPlaySession a).calls.filterMap (openedBy a) = []) := by
  cases hframe : a.makeKeyFrame with
  | false =>
    -- the function returns 0 when the key frame is refused
    refine Or.inl ⟨rfl, ?_⟩
    simp [startRealPlaySession, hframe]
  | true =>
    right
    by_cases hplay : a.realPlayByDataType = 0
    · refine Or.inr ⟨rfl, ?_⟩
      simp [startRealPlaySession, hframe, hplay, herr, openedBy]
    · refine Or.inl ⟨rfl, hplay, ?_⟩
      simp [startRealPlaySession, hframe, hplay, openedBy, handle, List.filterMap_cons]

/-- `startRecordPlaySession` returns `0` exactly for a stream that was opened. -/
lemma startRecordPlaySession_cases (s : PlaySession) (times : NetTimes) (a : StartAnswers)
    (record : Record) (herr : dhSdkGetLastError a.lastError ≠ 0) :
    (a.playBackByDataType ≠ 0 ∧ (s.startRecordPlaySession times a record).ret = 0 ∧
      (s.startRecordPlaySession times a record).session.handle .record = a.playBackByDataType ∧
      (s.startRecordPlaySession times a record).calls.filterMap (openedBy a) =
        [(.record, a.playBackByDataType)]) ∨
    ((s.startRecordPlaySession times a record).ret ≠ 0 ∧
      (s.startRecordPlaySession times a record).calls.filterMap (openedBy a) = []) := by
  cases hstream : a.setStreamType with
  | false => simp [startRecordPlaySession, hstream, herr, openedBy]
  | true =>
    cases hrecord : a.setRecordType with
    | false => simp [startRecordPlaySession, hstream, hrecord, herr, openedBy]
    | true =>
      by_cases hplay : a.playBackByDataType = 0
      · simp [startRecordPlaySession, hstream, hrecord, hplay, herr, openedBy]
      · simp [startRecordPlaySession, hstream, hrecord, hplay, openedBy, handle,
          List.filterMap_cons]

/-! ### The map after a start -/

variable {m : SessionMap PlaySession} {opened : OpenStreams} {key : String} {a : StartAnswers}

/-- A start that finds a session reports a stream that it has not looked at. -/
lemma reports_found_iff {k : StreamKind} :
    Reports k m opened key a ⟨0, m, []⟩ ↔ Runs k m opened key := by
  constructor
  · intro h
    simpa [StreamStart.openStreams] using h.success rfl
  · intro h
    refine ⟨fun _ => ?_, fun hne => absurd rfl hne⟩
    simpa [StreamStart.openStreams] using h

lemma reports_of_failed {k : StreamKind} {r : Started} (hret : r.ret ≠ 0)
    (hcalls : r.calls.filterMap (openedBy a) = []) :
    Reports k m opened key a (insertStarted m key r) := by
  rw [insertStarted, if_pos hret]
  exact ⟨fun h => absurd h hret, fun _ => ⟨rfl, by simp [StreamStart.openStreams, hcalls]⟩⟩

/-- A start that returned `0` reports truly exactly if the new session has the opened stream. -/
lemma reports_of_started_iff {k : StreamKind} {r : Started} (hkey : key ∉ m) (hret : r.ret = 0) :
    Reports k m opened key a (insertStarted m key r) ↔
      r.session.handle k ≠ 0 ∧
        (k, r.session.handle k) ∈ opened ++ r.calls.filterMap (openedBy a) := by
  have hcode : (insertStarted m key r).ret = 0 := by
    rw [insertStarted, if_neg (not_not_intro hret)]
    exact hret
  have hsession : (insertStarted m key r).sessions.getPlaySession key = some r.session := by
    rw [insertStarted_sessions m key hret]
    exact SessionMap.getPlaySession_insert_self m r.session hkey
  have hopen : (insertStarted m key r).openStreams a opened =
      opened ++ r.calls.filterMap (openedBy a) := by
    rw [StreamStart.openStreams, insertStarted_calls]
  constructor
  · intro h
    obtain ⟨p, hp, hne, hmem⟩ := h.success hcode
    rw [hsession] at hp
    rw [hopen] at hmem
    rw [Option.some.inj hp]
    exact ⟨hne, hmem⟩
  · rintro ⟨hne, hmem⟩
    refine ⟨fun _ => ⟨r.session, hsession, hne, hopen ▸ hmem⟩, fun h => absurd hcode h⟩

/-- The starts report truly exactly if: a session that is there already has an open stream of the
kind that is asked for, and for a new real-time stream the key frame could be made. -/
theorem start_reports_iff (m : SessionMap PlaySession) (opened : OpenStreams) (mem : PlaySession)
    (times : NetTimes) (login : LoginResults) (realPlay : Play) (record : Record)
    (media : MediaAnswers) (a : StartAnswers) (herr : dhSdkGetLastError a.lastError ≠ 0) :
    (Reports .real m opened realPlay.streamId a
        (startRealStream m mem login realPlay media a) ↔
      if realPlay.streamId ∈ m then Runs .real m opened realPlay.streamId
      else a.makeKeyFrame = true) ∧
    (Reports .record m opened record.streamId a (startPlayBack m mem times login record media a) ↔
      (record.streamId ∈ m → Runs .record m opened record.streamId)) := by
  constructor
  · rw [startRealStream]
    cases hkey : m.getPlaySession realPlay.streamId with
    -- a stream that is there is reported as started, whether it runs or not
    | some p => rw [if_pos (SessionMap.mem_of_getPlaySession hkey), reports_found_iff]
    | none =>
      have hnot := SessionMap.getPlaySession_eq_none.mp hkey
      rw [if_neg hnot]
      rcases startRealPlaySession_cases (realSession mem login realPlay media) a herr with
        ⟨hframe, hret, hsession⟩ | ⟨hframe, hplay, hret, hhandle, hcalls⟩ | ⟨hframe, hret, hcalls⟩
      · dsimp only
        rw [reports_of_started_iff hnot hret, hsession, hframe]
        exact iff_of_false (fun h => h.1 (realSession_handle mem login realPlay media)) (by simp)
      · dsimp only
        rw [reports_of_started_iff hnot hret, hhandle, hcalls]
        exact iff_of_true ⟨hplay, List.mem_append_right _ (List.mem_singleton_self _)⟩ hframe
      · exact iff_of_true (reports_of_failed hret hcalls) hframe
  · rw [startPlayBack]
    cases hkey : m.getPlaySession record.streamId with
    | some p =>
      rw [reports_found_iff]
      exact ⟨fun h _ => h, fun h => h (SessionMap.mem_of_getPlaySession hkey)⟩
    | none =>
      have hnot := SessionMap.getPlaySession_eq_none.mp hkey
      refine iff_of_true ?_ fun h => absurd h hnot
      rcases startRecordPlaySession_cases (recordSession mem login record media) times a record
        herr with ⟨hplay, hret, hhandle, hcalls⟩ | ⟨hret, hcalls⟩
      · dsimp only
        rw [reports_of_started_iff hnot hret, hhandle, hcalls]
        exact ⟨hplay, List.mem_append_right _ (List.mem_singleton_self _)⟩
      · exact reports_of_failed hret hcalls

/-- A play request for the stream `s1`. -/
def playRequest : Play :=
  ⟨"", "", "", 0, 2, "", "s1", "", 22000, "", "172.20.0.120", ""⟩

/-- A playback request for the stream `s1`. -/
def playbackRequest : Record :=
  ⟨"", "", "", 0, "", 0, "2023-11-21 00:00:00", "2023-11-21 08:00:00", 2, "", "s1", "", 22000, "",
    "172.20.0.120", "", ""⟩

/-- Both starts on a map without sessions, where every call succeeds. -/
theorem start_reports_first :
    Reports .real ∅ [] "s1" ⟨true, 5, true, true, 6, 1⟩
        (startRealStream ∅ zeroed ⟨100, 4, 1, ""⟩ playRequest ⟨(0, 7), 1, (0, 3), 11, 0⟩
          ⟨true, 5, true, true, 6, 1⟩) ∧
      Reports .record ∅ [] "s1" ⟨true, 5, true, true, 6, 1⟩
        (startPlayBack ∅ zeroed .zeroed ⟨100, 4, 1, ""⟩ playbackRequest ⟨(0, 7), 1, (0, 3), 11, 0⟩
          ⟨true, 5, true, true, 6, 1⟩) := by
  have herr : dhSdkGetLastError 1 ≠ 0 := by decide
  have h := start_reports_iff ∅ [] zeroed .zeroed ⟨100, 4, 1, ""⟩ playRequest playbackRequest
    ⟨(0, 7), 1, (0, 3), 11, 0⟩ ⟨true, 5, true, true, 6, 1⟩ herr
  constructor
  · refine h.1.mpr ?_
    rw [if_neg (AList.notMem_empty _)]
  · exact h.2.mpr fun hmem => absurd hmem (AList.notMem_empty _)

/-- `CLIENT_MakeKeyFrame` fails for the first play request. -/
theorem start_reports_failed_key_frame :
    ¬ Reports .real ∅ [] "s1" ⟨false, 0, true, true, 0, 1⟩
      (startRealStream ∅ zeroed ⟨100, 4, 1, ""⟩ playRequest ⟨(0, 7), 1, (0, 3), 11, 0⟩
        ⟨false, 0, true, true, 0, 1⟩) := by
  intro h
  obtain ⟨p, -, -, hmem⟩ := h.success rfl
  exact List.not_mem_nil hmem

end DHGateway
