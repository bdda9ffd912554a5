import Mathlib.Order.Interval.Set.Basic
import DHGateway.Core.Calendar
import DHGateway.Server.SdkErrors

/-!
# Record lists

The files that the SDK finds for a window of time, as the entries of a record list, and the times of
the entries on their way into the response.
-/

namespace DHGateway

open Scan (Moment)

def NetTime.ofMoment (t : Moment) : NetTime :=
  ⟨t.get .year, t.get .month, t.get .day, t.get .hour, t.get .minute, t.get .second⟩

lemma NetTime.scan_dashed (t : NetTime) (m : Moment) : t.scan m.dashed = .ofMoment m := by
  rw [scan, show dashedFormat = Scan.dashed.map Moment.scanItem from rfl, m.sscanf_dashed]
  rfl

lemma NetTimes.scan_dashed (t : NetTimes) (s e : Moment) :
    t.scan s.dashed e.dashed = ⟨.ofMoment s, .ofMoment e⟩ := by
  rw [scan, NetTime.scan_dashed, NetTime.scan_dashed]

/-- A file that ends after it begins. -/
structure RecordFile where
  start : Moment
  stop : Moment
  le : start ≤ stop
  size : ℤ
  filename : String

namespace RecordFile

def info (f : RecordFile) : NetRecordFile :=
  ⟨.ofMoment f.start, .ofMoment f.stop, f.size, f.filename⟩

def Meets (f : RecordFile) (s e : Moment) : Prop :=
  (Set.Icc f.start f.stop ∩ Set.Icc s e).Nonempty

instance (f : RecordFile) (s e : Moment) : Decidable (f.Meets s e) :=
  decidable_of_iff (max f.start s ≤ min f.stop e) <| by
    rw [Meets, Set.Icc_inter_Icc, Set.nonempty_Icc]

/-- The part of the file in the window, as a record. -/
def clip (f : RecordFile) (mem : Record) (s e : Moment) : Record :=
  { Record.new mem with
    startTime := (max f.start s).packed
    endTime := (min f.stop e).packed
    fileSize := f.size
    fileName := f.filename }

lemma meets_iff (f : RecordFile) {s e : Moment} (h : s ≤ e) :
    f.Meets s e ↔ f.start ≤ e ∧ s ≤ f.stop := by
  rw [Meets, Set.Icc_inter_Icc, Set.nonempty_Icc, sup_le_iff, le_inf_iff, le_inf_iff]
  constructor
  · rintro ⟨⟨-, hstart⟩, hstop, -⟩
    exact ⟨hstart, hstop⟩
  · rintro ⟨hstart, hstop⟩
    exact ⟨⟨f.le, hstart⟩, hstop, h⟩

end RecordFile

/-! ### Local times -/

/-- `mktime` counts the seconds of a moment, where the local time is `offset` seconds ahead of
UTC. -/
def Counts (env : Env) (offset : ℤ) (t : Moment) : Prop :=
  env.mktime t.tm = Scan.mktimeUtc t.tm - offset

/-- `mktime` where the local time is `offset` seconds ahead of UTC, at most a day: it counts the
seconds from the epoch on. -/
structure MktimeAt (env : Env) (offset : ℤ) : Prop where
  offset_le : offset ≤ 24 * 60 * 60
  eq : ∀ t : Scan.Tm, t.Valid → t.get .year ≤ 3000 → 0 ≤ Scan.mktimeUtc t - offset →
    env.mktime t = Scan.mktimeUtc t - offset

/-- A year after 1970 is more than a day after the epoch. -/
lemma le_mktimeUtc {t : Moment} (h : 1970 < t.get .year) : 24 * 60 * 60 ≤ Scan.mktimeUtc t.tm := by
  have hvalid : Scan.Tm.Valid ⟨71, 0, 1, 0, 0, 0⟩ := by decide
  let newYear : Moment := ⟨⟨71, 0, 1, 0, 0, 0⟩, hvalid⟩
  have hkey : newYear.key = 19710101000000 := rfl
  have hle : newYear ≤ t := by
    obtain ⟨hmonth, hday, hhour, hminute, hsecond⟩ := t.bounds
    show newYear.key ≤ t.key
    rw [hkey, Moment.key]
    omega
  have hsec : Scan.mktimeUtc newYear.tm = 31536000 := rfl
  have hmono : Scan.mktimeUtc newYear.tm ≤ Scan.mktimeUtc t.tm :=
    Scan.mktimeUtc_strictMono.monotone hle
  omega

lemma MktimeAt.counts {env : Env} {offset : ℤ} (h : MktimeAt env offset) {t : Moment}
    (hyear : t.get .year ≤ 3000)
    (hepoch : t.get .year = 1970 → 0 ≤ Scan.mktimeUtc t.tm - offset) : Counts env offset t := by
  refine h.eq t.tm t.valid hyear ?_
  by_cases h1970 : t.get .year = 1970
  · exact hepoch h1970
  · have hlo : 1970 ≤ t.get .year := t.valid.year.1
    have hle := le_mktimeUtc (t := t) (by omega)
    have hoffset := h.offset_le
    omega

/-- `mktime` eight hours ahead of UTC; it fails for times before the epoch. -/
def Env.utc8 : Env :=
  { Env.plain with
    mktime := fun t => if Scan.mktimeUtc t < 28800 then -1 else Scan.mktimeUtc t - 28800 }

lemma mktimeAt_utc8 : MktimeAt Env.utc8 28800 := by
  refine ⟨by decide, fun t _ _ h => ?_⟩
  show (if Scan.mktimeUtc t < 28800 then -1 else Scan.mktimeUtc t - 28800) = _
  rw [if_neg (by omega)]

/-- The texts of a moment that `query_record_file` makes are the packed ones. -/
lemma NetTime.text_ofMoment (t : Moment) : (NetTime.ofMoment t).text = t.packed := by
  have hlen := t.packed_length
  rw [Moment.packed, Scan.putTime_eq] at hlen ⊢
  have htext : Scan.padInt 4 (t.get .year) ++ Scan.padInt 2 (t.get .month) ++
      Scan.padInt 2 (t.get .day) ++ Scan.padInt 2 (t.get .hour) ++ Scan.padInt 2 (t.get .minute) ++
      Scan.padInt 2 (t.get .second) = Scan.packed.flatMap (Scan.putItem t.tm) := by
    simp only [Scan.packed, List.flatMap_cons, List.flatMap_nil, Moment.putItem_field,
      Scan.Field.range, List.append_nil, List.append_assoc]
  rw [NetTime.text, NetTime.ofMoment]
  dsimp only
  rw [htext, List.take_of_length_le]
  rw [String.toList_ofList] at hlen
  omega

section Compare

variable {env : Env} {offset : ℤ}

lemma tmOf_packed (t : Moment) (locals : ℕ → ℤ) :
    tmOf (Scan.assign (Scan.sscanf packedFormat t.packed.toList) locals) = t.tm := by
  rw [packedFormat, t.sscanf_packed]
  obtain ⟨⟨year, mon, mday, hour, min, sec⟩, hv⟩ := t
  simp [tmOf, Scan.assign, Moment.get, Scan.Tm.get]

/-- `CompareTime` on two packed texts compares the moments, where `mktime` counts them. -/
lemma compareTime_packed (locals : ℕ → ℤ) {a b : Moment} (ha : Counts env offset a)
    (hb : Counts env offset b) :
    (compareTime env locals a.packed b.packed = 0 ↔ a < b) ∧
      (compareTime env locals a.packed b.packed = 1 ↔ b < a) ∧
      (compareTime env locals a.packed b.packed = -1 ↔ b = a) := by
  have heq : env.mktime b.tm = env.mktime a.tm ↔ b = a := by
    rw [ha, hb, sub_left_inj]
    exact Scan.mktimeUtc_strictMono.injective.eq_iff
  have hlt : env.mktime b.tm > env.mktime a.tm ↔ a < b := by
    rw [ha, hb, gt_iff_lt, sub_lt_sub_iff_right]
    exact Scan.mktimeUtc_strictMono.lt_iff_lt
  simp only [compareTime, tmOf_packed, heq, hlt]
  rcases lt_trichotomy a b with h | h | h
  · simp [h, h.ne', h.le]
  · simp [h]
  · simp [h, h.ne, h.not_gt]

/-- `mktime` counts the times of a window and those of files. -/
structure Counted (env : Env) (offset : ℤ) (s e : Moment) (files : List RecordFile) : Prop where
  lower : Counts env offset s
  upper : Counts env offset e
  start : ∀ f ∈ files, Counts env offset f.start
  stop : ∀ f ∈ files, Counts env offset f.stop

/-- The entry that a file gets: also one that ends before the window has an entry. -/
lemma recordOf_info {s e : Moment} {files : List RecordFile} (h : Counted env offset s e files)
    (locals : ℕ → ℤ) (mem : Record) {f : RecordFile} (hf : f ∈ files) :
    recordOf env locals mem s.packed e.packed f.info =
      if e < f.start then none else some (f.clip mem s e) := by
  have hstart : (if f.start < s then s.packed else f.start.packed) = (max f.start s).packed := by
    split_ifs with h
    · rw [max_eq_right h.le]
    · rw [max_eq_left (not_lt.mp h)]
  have hstop : (if f.stop < e then f.stop.packed else e.packed) = (min f.stop e).packed := by
    split_ifs with h
    · rw [min_eq_left h.le]
    · rw [min_eq_right (not_lt.mp h)]
  simp only [recordOf, RecordFile.info, NetTime.text_ofMoment,
    (compareTime_packed locals (h.start f hf) h.upper).2.1,
    (compareTime_packed locals (h.start f hf) h.lower).1,
    (compareTime_packed locals (h.stop f hf) h.upper).1, hstart, hstop]
  rfl

end Compare

/-! ### Clipping -/

/-- The records of a window: those of the files that have a moment of it, in their order and each
cut down to the window. -/
structure Clipped (s e : Moment) (files : List RecordFile) (mem : Record) (records : List Record) :
    Prop where
  eq : records = (files.filter fun f => f.Meets s e).map fun f => f.clip mem s e
  within : ∀ r ∈ records, ∃ a b : Moment, r.startTime = a.packed ∧ r.endTime = b.packed ∧
    s ≤ a ∧ a ≤ b ∧ b ≤ e

lemma queryRecordFile_window (env : Env) (login : LoginResults) (channel : ℤ) (s e : Moment)
    (locals : QueryLocals) (mem : Record) (a : RecordAnswers) :
    queryRecordFile env login channel s.dashed e.dashed locals mem a =
      let calls := [DeviceCall.queryRecordFile login.handle channel
        ⟨.ofMoment s, .ofMoment e⟩]
      let ret := dhSdkGetLastError a.result.lastError
      if a.result.ok then
        (0, a.files.filterMap (recordOf env locals.numbers mem s.packed e.packed), calls)
      else if env.netNetworkError = ret then
        (0, [{ Record.new mem with startTime := s.dashed, endTime := e.dashed }], calls)
      else (ret, [], calls) := by
  rw [queryRecordFile, s.getTime_dashed, e.getTime_dashed, NetTimes.scan_dashed]
  cases a.result.ok <;> rfl

/-- What `query_record_file` appends for a window of two moments and the files found for it. -/
lemma queryRecordFile_files {env : Env} {offset : ℤ} {s e : Moment} {files : List RecordFile}
    (hcounted : Counted env offset s e files) (login : LoginResults) (channel : ℤ)
    (locals : QueryLocals) (mem : Record) {a : RecordAnswers} (hok : a.result.ok = true)
    (hfiles : a.files = files.map RecordFile.info) :
    (queryRecordFile env login channel s.dashed e.dashed locals mem a).2.1 =
      (files.filter fun f => f.start ≤ e).map fun f => f.clip mem s e := by
  have hloop : (queryRecordFile env login channel s.dashed e.dashed locals mem a).2.1 =
      a.files.filterMap (recordOf env locals.numbers mem s.packed e.packed) := by
    rw [queryRecordFile_window, hok]
    rfl
  -- the loop drops a file that starts after the window, and clips the others
  have hentry : ∀ f ∈ files, (recordOf env locals.numbers mem s.packed e.packed ∘
      RecordFile.info) f = if f.start ≤ e then some (f.clip mem s e) else none := by
    intro f hf
    rw [Function.comp_apply, recordOf_info hcounted _ mem hf]
    by_cases h : f.start ≤ e
    · rw [if_pos h, if_neg (not_lt.mpr h)]
    · rw [if_neg h, if_pos (not_le.mp h)]
  rw [hloop, hfiles, List.filterMap_map, List.filterMap_congr hentry]
  clear hfiles hloop hentry hcounted
  induction files with
  | nil => rfl
  | cons f files ih =>
    by_cases h : f.start ≤ e
    · simp [h, ih]
    · simp [h, ih]

/-- When the records are clipped: no file ends before the window. It is so wherever `mktime` counts
the times of the window and of the files. -/
theorem records_clipped_iff (env : Env) (offset : ℤ) (login : LoginResults) (channel : ℤ)
    (s e : Moment) (hwindow : s ≤ e) (locals : QueryLocals) (mem : Record) (a : RecordAnswers)
    (files : List RecordFile) (hcounted : Counted env offset s e files) (hok : a.result.ok = true)
    (hfiles : a.files = files.map RecordFile.info) :
    Clipped s e files mem
        (queryRecordFile env login channel s.dashed e.dashed locals mem a).2.1 ↔
      ∀ f ∈ files, s ≤ f.stop := by
  rw [queryRecordFile_files hcounted login channel locals mem hok hfiles]
  constructor
  · intro h f hf
    by_contra hbefore
    -- the file is kept, and its record ends before it begins
    have hstart : f.start ≤ e := (f.le.trans_lt (not_le.mp hbefore)).le.trans hwindow
    obtain ⟨b, c, hb, hc, hsb, hbc, hce⟩ := h.within (f.clip mem s e)
      (List.mem_map_of_mem (List.mem_filter.mpr ⟨hf, decide_eq_true hstart⟩))
    have hstop : min f.stop e = c := Moment.packed_injective hc
    have hle : s ≤ min f.stop e := hstop ▸ hsb.trans hbc
    exact hbefore (hle.trans (min_le_left _ _))
  · intro h
    have hfilter : (files.filter fun f => f.start ≤ e) = files.filter fun f => f.Meets s e := by
      refine List.filter_congr fun f hf => ?_
      rw [decide_eq_decide, f.meets_iff hwindow]
      exact ⟨fun hstart => ⟨hstart, h f hf⟩, And.left⟩
    refine ⟨by rw [hfilter], ?_⟩
    rintro r hr
    obtain ⟨f, hf, rfl⟩ := List.mem_map.mp hr
    obtain ⟨hmem, hstart⟩ := List.mem_filter.mp hf
    have hstart : f.start ≤ e := of_decide_eq_true hstart
    exact ⟨max f.start s, min f.stop e, rfl, rfl, le_max_right _ _,
      max_le (le_min f.le hstart) (le_min (h f hmem) hwindow), min_le_right _ _⟩

def mayFirst : Moment :=
  ⟨⟨124, 4, 1, 0, 0, 0⟩, by decide⟩

def maySecond : Moment :=
  ⟨⟨124, 4, 2, 0, 0, 0⟩, by decide⟩

def mayFile : RecordFile where
  start := ⟨⟨124, 4, 1, 10, 0, 0⟩, by decide⟩
  stop := ⟨⟨124, 4, 1, 11, 0, 0⟩, by decide⟩
  le := by decide
  size := 4096
  filename := "10.dav"

def mayQuery : RecordAnswers :=
  ⟨⟨true, 0⟩, [mayFile.info], by decide⟩

lemma counted_may : Counted Env.utc8 28800 mayFirst maySecond [mayFile] where
  lower := mktimeAt_utc8.counts (by decide) (by decide)
  upper := mktimeAt_utc8.counts (by decide) (by decide)
  start := List.forall_mem_singleton.mpr (mktimeAt_utc8.counts (by decide) (by decide))
  stop := List.forall_mem_singleton.mpr (mktimeAt_utc8.counts (by decide) (by decide))

theorem records_clipped_may :
    Clipped mayFirst maySecond [mayFile] (Record.new TaskInput.silent.recordMem)
      (queryRecordFile Env.utc8 TaskInput.silent.results 3 mayFirst.dashed maySecond.dashed
        TaskInput.silent.locals (Record.new TaskInput.silent.recordMem) mayQuery).2.1 := by
  refine (records_clipped_iff Env.utc8 28800 _ _ _ _ (by decide) _ _ mayQuery [mayFile] counted_may
    rfl rfl).mpr ?_
  intro f hf
  rw [List.mem_singleton.mp hf]
  decide

/-- The file of the first of May is listed for the second, from its start to the end of the file a
day before. -/
theorem records_before_window :
    (queryRecordFile Env.utc8 TaskInput.silent.results 3 maySecond.dashed maySecond.dashed
        TaskInput.silent.locals TaskInput.silent.recordMem mayQuery).2.1.map
        (fun r => (r.startTime, r.endTime)) = [("20240502000000", "20240501110000")] ∧
      ¬ Clipped maySecond maySecond [mayFile] TaskInput.silent.recordMem
        (queryRecordFile Env.utc8 TaskInput.silent.results 3 maySecond.dashed maySecond.dashed
          TaskInput.silent.locals TaskInput.silent.recordMem mayQuery).2.1 := by
  have hfiles : mayQuery.files = [mayFile].map RecordFile.info := rfl
  have hcounted : Counted Env.utc8 28800 maySecond maySecond [mayFile] :=
    ⟨counted_may.upper, counted_may.upper, counted_may.start, counted_may.stop⟩
  have hrecords := queryRecordFile_files hcounted TaskInput.silent.results 3
    TaskInput.silent.locals TaskInput.silent.recordMem rfl hfiles
  rw [hrecords]
  refine ⟨by decide, ?_⟩
  intro h
  have hlen := congrArg List.length h.eq
  exact absurd hlen (by decide)

/-! ### Times in the response -/

/-- The texts that a response gives as the times of its records. -/
def Json.recordTimes (m : Json) : Option (List (Option String × Option String)) :=
  ((m.objectMember "data").bind (Json.memberAs Json.asArray "recordList")).map fun l =>
    l.map fun item => (item.stringMember "startTime", item.stringMember "endTime")

lemma responseRecordList_times (c : Config) (msgId : String) (code : ℤ) (msgType : String)
    (list : List Record) (time : String) :
    (c.responseRecordList msgId code msgType list time).recordTimes =
      some (list.map fun r =>
        (some (Config.recordTime r.startTime), some (Config.recordTime r.endTime))) := by
  have hlist : (c.responseRecordList msgId code msgType list time).recordTimes =
      some ((list.map fun record =>
        Json.obj [("name", .str ""), ("filePath", .str ""), ("fileSize", .str ""),
          ("address", .str ""), ("startTime", .str (Config.recordTime record.startTime)),
          ("endTime", .str (Config.recordTime record.endTime))]).map fun item =>
        (item.stringMember "startTime", item.stringMember "endTime")) := rfl
  rw [hlist, List.map_map]
  rfl

def Denotes (text : String) (t : Moment) : Prop :=
  text = t.packed ∨ text = t.dashed

/-- The response to a query for the records of a window. If it is a success, then the times of the
records are in it as they were computed; and a query that timed out is a success, with a record that
is the whole window. -/
structure TimesReported (env : Env) (s e : Moment) (c : SdkResult) (list : List Record) (m : Json) :
    Prop where
  kept : m.member "code" = some (.num 0) → ∃ times, m.recordTimes = some times ∧
    List.Forall₂ (fun r p => ∀ t, (Denotes r.startTime t → p.1 = some t.dashed) ∧
      (Denotes r.endTime t → p.2 = some t.dashed)) list times
  timeout : c.ok = false → (c.lastError.toNat : ℤ) = env.netNetworkError →
    m.member "code" = some (.num 0) ∧ m.recordTimes = some [(some s.dashed, some e.dashed)]

lemma recordTime_packed (t : Moment) : Config.recordTime t.packed = t.dashed := by
  rw [Config.recordTime, t.getTime_packed]
  rfl

/-- A text with dashes is not read behind its year. -/
lemma recordTime_dashed (t : Moment) : Config.recordTime t.dashed ≠ t.dashed := by
  intro h
  have hread := congrArg (fun text => (Scan.getTime Scan.dashed text).2) h
  rw [Config.recordTime, t.getTime_packed_dashed] at hread
  simp only [t.getTime_year_only, t.getTime_dashed] at hread
  exact absurd hread (by decide)

lemma NetTime.space_notMem_text (t : NetTime) : ' ' ∉ t.text.toList := by
  have hpad : ∀ w n, ' ' ∉ Scan.padInt w n := by
    intro w n
    have hdigits : ' ' ∉ Nat.toDigits 10 n.natAbs := fun hmem =>
      absurd (Nat.isDigit_of_mem_toDigits (by decide) (by decide) hmem) (by decide)
    have hzeros : ∀ k, ' ' ∉ List.replicate k '0' := fun k hmem =>
      absurd (List.eq_of_mem_replicate hmem) (by decide)
    simp only [Scan.padInt]
    split_ifs
    · simp [hdigits]
    · simp [hdigits]
  rw [NetTime.text, String.toList_ofList]
  intro hmem
  have hmem := List.mem_of_mem_take hmem
  simp only [List.mem_append, hpad, or_self] at hmem

lemma space_mem_dashed (t : Moment) : ' ' ∈ t.dashed.toList := by
  rw [Moment.dashed, Scan.putTime_eq, String.toList_ofList]
  exact List.mem_flatMap.mpr ⟨.lit ' ', by simp [Scan.dashed], List.mem_singleton_self _⟩

lemma recordTime_of_denotes {text : String} {t : Moment} (hspace : ' ' ∉ text.toList)
    (h : Denotes text t) : Config.recordTime text = t.dashed := by
  rcases h with rfl | rfl
  · exact recordTime_packed t
  · exact absurd (space_mem_dashed t) hspace

lemma recordOf_times {env : Env} {locals : ℕ → ℤ} {mem r : Record} {s e : Moment}
    {file : NetRecordFile} (h : recordOf env locals mem s.packed e.packed file = some r) :
    ' ' ∉ r.startTime.toList ∧ ' ' ∉ r.endTime.toList := by
  have hpacked : ∀ t : Moment, ' ' ∉ t.packed.toList := by
    intro t
    rw [← NetTime.text_ofMoment]
    exact NetTime.space_notMem_text _
  rw [recordOf] at h
  by_cases hdrop : compareTime env locals file.starttime.text e.packed = 1
  · rw [if_pos hdrop] at h
    exact absurd h (Option.some_ne_none r).symm
  · rw [if_neg hdrop] at h
    rw [← Option.some.inj h]
    dsimp only
    constructor
    · split
      · exact hpacked s
      · exact file.starttime.space_notMem_text
    · split
      · exact file.endtime.space_notMem_text
      · exact hpacked e

/-- A response in which the times of the records have no space, to a query that did not time out. -/
lemma timesReported_of_noSpace {env : Env} {s e : Moment} {c : SdkResult} {list : List Record}
    {msgId msgType time : String} {code : ℤ}
    (hspace : ∀ r ∈ list, ' ' ∉ r.startTime.toList ∧ ' ' ∉ r.endTime.toList)
    (hc : c.ok = true ∨ (c.lastError.toNat : ℤ) ≠ env.netNetworkError) :
    TimesReported env s e c list (env.responseRecordList msgId code msgType list time) where
  kept := by
    intro _
    refine ⟨_, responseRecordList_times _ _ _ _ _ _, ?_⟩
    rw [List.forall₂_map_right_iff, List.forall₂_same]
    intro r hr t
    -- a text of a time that has no blank is read back as that time
    obtain ⟨hstart, hstop⟩ := hspace r hr
    exact ⟨fun h => congrArg some (recordTime_of_denotes hstart h),
      fun h => congrArg some (recordTime_of_denotes hstop h)⟩
  timeout := by
    intro hfail hraw
    rcases hc with hc | hc
    · exact absurd (hc.symm.trans hfail) (by decide)
    · exact absurd hraw hc

namespace Server

variable {env : Env} {srv : Server} {doc : Document} {a : TaskInput} {login : LoginResults}

lemma channelRecordInfo_sends {record : Record} {b : Bool} {srv' : Server}
    (hread : parsChannelRecordInfo doc (Record.new a.recordMem) = .ok (b, record))
    (hlogin : srv.lookupLogin record.deviceId a = (.ok login, srv')) :
    let r := queryRecordFile env login record.channel record.startTime record.endTime a.locals
      a.recordMem a.records
    (channelRecordInfo env srv doc a).1.sent =
      srv.sent ++ [env.responseRecordList record.msgId r.1 record.msgType r.2.1 a.time] := by
  have hsent : srv'.sent = srv.sent := by
    simp only [lookupLogin] at hlogin
    split at hlogin
    · rw [← (Prod.mk.inj hlogin).2]
    · rw [← (Prod.mk.inj hlogin).2]
  rw [channelRecordInfo, hread, withParsed, withLogin, hlogin, ← hsent]
  rfl

lemma sends_iff {record : Record} {p : Json → Prop}
    (hread : ∃ b, parsChannelRecordInfo doc (Record.new a.recordMem) = .ok (b, record))
    (hlogin : ∃ srv', srv.lookupLogin record.deviceId a = (.ok login, srv'))
    {r : ℤ × List Record × List DeviceCall} (hquery : queryRecordFile env login record.channel
      record.startTime record.endTime a.locals a.recordMem a.records = r) :
    (∃ m, (channelRecordInfo env srv doc a).1.sent = srv.sent ++ [m] ∧ p m) ↔
      p (env.responseRecordList record.msgId r.1 record.msgType r.2.1 a.time) := by
  subst hquery
  obtain ⟨b, hread⟩ := hread
  obtain ⟨srv', hlogin⟩ := hlogin
  have hsends : (channelRecordInfo env srv doc a).1.sent = _ :=
    channelRecordInfo_sends hread hlogin
  constructor
  · rintro ⟨m, hm, hp⟩
    obtain rfl := List.singleton_inj.mp (List.append_cancel_left (hsends.symm.trans hm))
    exact hp
  · exact fun hp => ⟨_, hsends, hp⟩

/-- A query that did not time out, of which the records have no space in their times. -/
lemma reported_of_noSpace {record : Record} {s e : Moment}
    (hread : ∃ b, parsChannelRecordInfo doc (Record.new a.recordMem) = .ok (b, record))
    (hlogin : ∃ srv', srv.lookupLogin record.deviceId a = (.ok login, srv'))
    (hspace : ∀ r ∈ (queryRecordFile env login record.channel record.startTime record.endTime
      a.locals a.recordMem a.records).2.1, ' ' ∉ r.startTime.toList ∧ ' ' ∉ r.endTime.toList)
    (hc : a.records.result.ok = true ∨
      (a.records.result.lastError.toNat : ℤ) ≠ env.netNetworkError) :
    ∃ m, (channelRecordInfo env srv doc a).1.sent = srv.sent ++ [m] ∧
      TimesReported env s e a.records.result (queryRecordFile env login record.channel
        record.startTime record.endTime a.locals a.recordMem a.records).2.1 m :=
  (sends_iff hread hlogin rfl).mpr (timesReported_of_noSpace hspace hc)

/-- A query that failed with an error that is a timeout behind the mask: the window goes out with
its texts read in the wrong form. -/
lemma not_reported_of_mask {record : Record} {s e : Moment}
    (hread : ∃ b, parsChannelRecordInfo doc (Record.new a.recordMem) = .ok (b, record))
    (hlogin : ∃ srv', srv.lookupLogin record.deviceId a = (.ok login, srv'))
    (hs : record.startTime = s.dashed) (he : record.endTime = e.dashed)
    (hok : a.records.result.ok = false)
    (hmask : env.netNetworkError = dhSdkGetLastError a.records.result.lastError) :
    ¬ ∃ m, (channelRecordInfo env srv doc a).1.sent = srv.sent ++ [m] ∧
      TimesReported env s e a.records.result (queryRecordFile env login record.channel
        record.startTime record.endTime a.locals a.recordMem a.records).2.1 m := by
  rw [sends_iff hread hlogin rfl, hs, he, queryRecordFile_window, hok]
  simp only [Bool.false_eq_true, if_false, if_pos hmask]
  intro h
  obtain ⟨times, htimes, hkept⟩ := h.kept rfl
  rw [responseRecordList_times] at htimes
  obtain rfl := Option.some.inj htimes
  -- the masked error is that of the network, and the list is the window itself
  have hfirst := (List.forall₂_cons.mp hkept).1 s
  exact recordTime_dashed s (Option.some.inj (hfirst.1 (Or.inr rfl)))

/-- A query that timed out, with an error that the mask changes: it is answered as a failure. -/
lemma not_reported_of_raw {record : Record} {s e : Moment}
    (hread : ∃ b, parsChannelRecordInfo doc (Record.new a.recordMem) = .ok (b, record))
    (hlogin : ∃ srv', srv.lookupLogin record.deviceId a = (.ok login, srv'))
    (hs : record.startTime = s.dashed) (he : record.endTime = e.dashed)
    (hok : a.records.result.ok = false)
    (hmask : env.netNetworkError ≠ dhSdkGetLastError a.records.result.lastError)
    (hraw : env.netNetworkError = a.records.result.lastError.toNat) :
    ¬ ∃ m, (channelRecordInfo env srv doc a).1.sent = srv.sent ++ [m] ∧
      TimesReported env s e a.records.result (queryRecordFile env login record.channel
        record.startTime record.endTime a.locals a.recordMem a.records).2.1 m := by
  rw [sends_iff hread hlogin rfl, hs, he, queryRecordFile_window, hok]
  simp only [Bool.false_eq_true, if_false, if_neg hmask]
  intro h
  -- the mask hides the timeout, and the list is empty
  have htimes := (h.timeout hok hraw.symm).2
  rw [responseRecordList_times] at htimes
  exact absurd (Option.some.inj htimes) (List.cons_ne_nil _ _).symm

/-- When the times of records survive to the response: the query succeeded, or it failed with an
error that is no timeout, neither as the SDK has it nor behind the mask. -/
theorem record_times_reported_iff (env : Env) (srv : Server) (doc : Document) (a : TaskInput)
    (login : LoginResults) (record : Record) (s e : Moment)
    (hread : ∃ b, parsChannelRecordInfo doc (Record.new a.recordMem) = .ok (b, record))
    (hlogin : ∃ srv', srv.lookupLogin record.deviceId a = (.ok login, srv'))
    (hs : record.startTime = s.dashed) (he : record.endTime = e.dashed) :
    (∃ m, (channelRecordInfo env srv doc a).1.sent = srv.sent ++ [m] ∧
      TimesReported env s e a.records.result (queryRecordFile env login record.channel
        record.startTime record.endTime a.locals a.recordMem a.records).2.1 m) ↔
      (a.records.result.ok = true ∨
        (env.netNetworkError ≠ dhSdkGetLastError a.records.result.lastError ∧
          env.netNetworkError ≠ a.records.result.lastError.toNat)) := by
  have hquery := queryRecordFile_window env login record.channel s e a.locals a.recordMem a.records
  rw [← hs, ← he] at hquery
  cases hok : a.records.result.ok with
  | true =>
    refine iff_of_true (reported_of_noSpace hread hlogin ?_ (Or.inl hok)) (Or.inl rfl)
    rw [hquery, hok]
    intro r hr
    obtain ⟨file, -, hentry⟩ := List.mem_filterMap.mp hr
    exact recordOf_times hentry
  | false =>
    simp only [Bool.false_eq_true, false_or]
    -- the code compares the masked error, and a timeout is told by the raw one
    by_cases hmask : env.netNetworkError = dhSdkGetLastError a.records.result.lastError
    · exact iff_of_false (not_reported_of_mask hread hlogin hs he hok hmask) fun h => h.1 hmask
    · by_cases hraw : env.netNetworkError = a.records.result.lastError.toNat
      · exact iff_of_false (not_reported_of_raw hread hlogin hs he hok hmask hraw)
          fun h => h.2 hraw
      · refine iff_of_true (reported_of_noSpace hread hlogin ?_ (Or.inr (Ne.symm hraw)))
          ⟨hmask, hraw⟩
        rw [hquery, hok]
        simp only [Bool.false_eq_true, if_false, if_neg hmask]
        exact fun r hr => absurd hr List.not_mem_nil

def listRecords : Document :=
  some (.obj [("serialNum", .str "29fc"), ("code", .num 0), ("error", .bool false),
    ("msgId", .str "74"), ("msgType", .str "CHANNEL_RECORD_INFO"),
    ("time", .str "2024-05-03 08:00:00"),
    ("data", .obj [("deviceId", .str "17"), ("channelId", .str "17#3"),
      ("dataMap", .obj [("startTime", .str "2024-05-01 00:00:00"),
        ("endTime", .str "2024-05-02 00:00:00")])])])

def timedOut (lastError : UInt32) : TaskInput :=
  { failing with records := { failing.records with result := ⟨false, lastError⟩ } }

def mayRecord : Record :=
  { Record.new failing.recordMem with
    channel := 3, deviceId := "17", startTime := mayFirst.dashed, endTime := maySecond.dashed,
    msgId := "74", msgType := "CHANNEL_RECORD_INFO" }

lemma mayRecord_read (lastError : UInt32) :
    parsChannelRecordInfo listRecords (Record.new (timedOut lastError).recordMem) =
        .ok (true, mayRecord) ∧
      ∃ srv', oneRecorder.lookupLogin mayRecord.deviceId (timedOut lastError) =
        (.ok recorderLogin, srv') := by
  have hfirst : mayFirst.dashed = "2024-05-01 00:00:00" := by decide
  have hsecond : maySecond.dashed = "2024-05-02 00:00:00" := by decide
  refine ⟨?_, _, rfl⟩
  rw [mayRecord, hfirst, hsecond]
  rfl

theorem record_times_reported_may :
    ∃ m, (channelRecordInfo Env.plain oneRecorder listRecords (timedOut 7)).1.sent =
        oneRecorder.sent ++ [m] ∧
      TimesReported Env.plain mayFirst maySecond (timedOut 7).records.result
        (queryRecordFile Env.plain recorderLogin mayRecord.channel mayRecord.startTime
          mayRecord.endTime (timedOut 7).locals (timedOut 7).recordMem (timedOut 7).records).2.1
        m :=
  (record_times_reported_iff Env.plain oneRecorder listRecords (timedOut 7) recorderLogin mayRecord
    mayFirst maySecond ⟨true, (mayRecord_read 7).1⟩ (mayRecord_read 7).2 rfl rfl).mpr
    (Or.inr (by decide))

/-- A timeout is answered as a failure; and where its number survives the mask, the response is a
success with a day 0. -/
theorem record_times_lost :
    (¬ ∃ m, (channelRecordInfo Env.plain oneRecorder listRecords (timedOut 0x80000002)).1.sent =
        oneRecorder.sent ++ [m] ∧
      TimesReported Env.plain mayFirst maySecond (timedOut 0x80000002).records.result
        (queryRecordFile Env.plain recorderLogin mayRecord.channel mayRecord.startTime
          mayRecord.endTime (timedOut 0x80000002).locals (timedOut 0x80000002).recordMem
          (timedOut 0x80000002).records).2.1 m) ∧
    ¬ ∃ m, (channelRecordInfo { Env.plain with netNetworkError := 2 } oneRecorder listRecords
        (timedOut 2)).1.sent = oneRecorder.sent ++ [m] ∧
      TimesReported { Env.plain with netNetworkError := 2 } mayFirst maySecond
        (timedOut 2).records.result
        (queryRecordFile { Env.plain with netNetworkError := 2 } recorderLogin mayRecord.channel
          mayRecord.startTime mayRecord.endTime (timedOut 2).locals (timedOut 2).recordMem
          (timedOut 2).records).2.1 m :=
  ⟨not_reported_of_raw ⟨true, (mayRecord_read _).1⟩ (mayRecord_read _).2 rfl rfl rfl (by decide)
      (by decide),
    not_reported_of_mask ⟨true, (mayRecord_read _).1⟩ (mayRecord_read _).2 rfl rfl rfl
      (by decide)⟩

end Server

end DHGateway
