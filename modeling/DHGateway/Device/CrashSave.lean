import DHGateway.Device.Codec

/-!
# Crashes while the registry is saved

`writeJsonFile` truncates `platforms.json` before it writes. The process can stop between any two
operations on the file, the file may not open, and what a restart finds is compared with the
registry before and after the change.
-/

namespace DHGateway

/-- What is relied on for texts that were cut short: no platform is read from them. A decoder that
throws on such a text is taken as one that reads nothing: `init_platform` has put nothing into the
registry, which stays empty. -/
def XPack.Torn (x : XPack) : Prop :=
  ∀ l n, 0 < n → n < (x.encode l).toList.length →
    (x.decode (String.ofList ((x.encode l).toList.take n))).platforms = []

lemma XPack.json_torn : XPack.json.Torn := by
  intro l n _ hn
  simp only [XPack.json, String.toList_ofList] at hn ⊢
  rw [Platforms.codec_local.dec_take hn]
  rfl

namespace Registry

/-! ### Operations on the file -/

/-- An operation on `platforms.json`: the opening of the stream, a byte that is written, the end. -/
inductive FileOp where
  | openTrunc
  | write (c : Char)
  | close

def FileOp.apply (file : Option String) : FileOp → Option String
  | .openTrunc => some ""
  | .write c => file.map (·.push c)
  | .close => file

/-- The operations of `writeJsonFile`, where the file opens. -/
def saveOps (jsonData : String) : List FileOp :=
  .openTrunc :: (jsonData.toList.map .write ++ [.close])

def applyOps (file : Option String) (ops : List FileOp) : Option String :=
  ops.foldl FileOp.apply file

lemma applyOps_append (file : Option String) (ops ops' : List FileOp) :
    applyOps file (ops ++ ops') = applyOps (applyOps file ops) ops' :=
  List.foldl_append

lemma applyOps_write (text : String) (cs : List Char) :
    applyOps (some text) (cs.map .write) = some (text ++ String.ofList cs) := by
  induction cs generalizing text with
  | nil => simp [applyOps]
  | cons c cs ih =>
    have hpush : applyOps (some text) ((c :: cs).map .write) =
        applyOps (some (text.push c)) (cs.map .write) := rfl
    rw [hpush, ih, String.push_eq_append, String.append_assoc, String.ofList_cons]

lemma applyOps_saveOps (file : Option String) (jsonData : String) :
    applyOps file (saveOps jsonData) = some jsonData := by
  have hopen : applyOps file (saveOps jsonData) =
      applyOps (some "") (jsonData.toList.map .write ++ [.close]) := rfl
  rw [hopen, applyOps_append, applyOps_write, String.empty_append, String.ofList_toList]
  rfl

lemma applyOps_take (file : Option String) (jsonData : String) {n : ℕ}
    (hn : n ≤ jsonData.toList.length) :
    applyOps file ((saveOps jsonData).take (n + 1)) =
      some (String.ofList (jsonData.toList.take n)) := by
  have htake : (saveOps jsonData).take (n + 1) =
      .openTrunc :: (jsonData.toList.take n).map .write := by
    rw [saveOps, List.take_succ_cons, List.take_append_of_le_length (by simpa using hn),
      List.map_take]
  have hopen : applyOps file (.openTrunc :: (jsonData.toList.take n).map .write) =
      applyOps (some "") ((jsonData.toList.take n).map .write) := rfl
  rw [htake, hopen, applyOps_write, String.empty_append]

/-! ### Changes -/

/-- A change of the registry that is saved. -/
inductive Change where
  | add (p : Platform)
  | del (k : String)

/-- `add_platform` or `del_platform`; `opens` tells whether the file can be opened. -/
def Change.after (x : XPack) (r : Registry) (opens : Bool) : Change → Registry
  | .add p => r.addPlatform x opens p
  | .del k => (r.delPlatform x opens k).2

/-- The operations on the file; a deletion that finds no recorder makes none. -/
def Change.ops (x : XPack) (r : Registry) : Change → List FileOp
  | .add p => saveOps (x.encode (r.addPlatform x true p).platformList)
  | .del k =>
    match r.platformMap.lookup k with
    | none => []
    | some it =>
      match updateFirst { it with softDel := true } r.platformList.platforms with
      | none => []
      | some ps => saveOps (x.encode ⟨ps⟩)

lemma updateFirst_ne_nil {update : Platform} {ps ps' : List Platform}
    (h : updateFirst update ps = some ps') : ps' ≠ [] := by
  cases ps with
  | nil => exact absurd h (by simp [updateFirst])
  | cons p ps =>
    rw [updateFirst] at h
    split_ifs at h with hid hdel
    · rw [← Option.some.inj h]
      exact List.cons_ne_nil _ _
    · rw [← Option.some.inj h]
      exact List.cons_ne_nil _ _
    · obtain ⟨qs, -, rfl⟩ := Option.map_eq_some_iff.mp h
      exact List.cons_ne_nil _ _

def Change.list (r : Registry) : Change → List Platform
  | .add p => r.platformList.platforms ++ [p]
  | .del k =>
    match r.platformMap.lookup k with
    | none => r.platformList.platforms
    | some it =>
      (updateFirst { it with softDel := true } r.platformList.platforms).getD
        r.platformList.platforms

/-- A change leaves the list and the file alone, or it saves a list that is not empty. -/
lemma Change.cases (x : XPack) (r : Registry) (c : Change) :
    ((∃ k, c = .del k) ∧ c.ops x r = [] ∧ c.list r = r.platformList.platforms ∧
      ∀ opens, (c.after x r opens).platformList = r.platformList ∧
        (c.after x r opens).file = r.file) ∨
    (c.ops x r = saveOps (x.encode ⟨c.list r⟩) ∧ c.list r ≠ [] ∧
      ∀ opens, (c.after x r opens).platformList = ⟨c.list r⟩ ∧
        (c.after x r opens).file = if opens then some (x.encode ⟨c.list r⟩) else r.file) := by
  cases c with
  | add p =>
    exact Or.inr ⟨rfl, by simp [Change.list],
      fun opens => ⟨addPlatform_list x r opens p, addPlatform_file x r opens p⟩⟩
  | del k =>
    simp only [Change.after, Change.ops, Change.list, delPlatform]
    cases hk : r.platformMap.lookup k with
    -- nothing is written for a recorder that the map does not have
    | none => exact Or.inl ⟨⟨k, rfl⟩, rfl, rfl, fun _ => ⟨rfl, rfl⟩⟩
    | some it =>
      simp only [updatePlatformForLocalFile]
      cases hps : updateFirst { it with softDel := true } r.platformList.platforms with
      -- nor for one that is in the map only
      | none => exact Or.inl ⟨⟨k, rfl⟩, rfl, rfl, fun _ => ⟨rfl, rfl⟩⟩
      | some ps =>
        refine Or.inr ⟨rfl, updateFirst_ne_nil hps, fun opens => ?_⟩
        rw [writeJsonFile_eq]
        exact ⟨rfl, rfl⟩

lemma Change.after_list (x : XPack) (r : Registry) (c : Change) (opens : Bool) :
    (c.after x r opens).platformList.platforms = c.list r := by
  rcases c.cases x r with ⟨-, -, hlist, hafter⟩ | ⟨-, -, hafter⟩
  · rw [(hafter opens).1, hlist]
  · rw [(hafter opens).1]

lemma Change.list_eq_nil (x : XPack) {r : Registry} {c : Change} (h : c.list r = []) :
    r.platformList.platforms = [] := by
  rcases c.cases x r with ⟨-, -, hlist, -⟩ | ⟨-, hne, -⟩
  · exact hlist ▸ h
  · exact absurd h hne

/-- How a change ends: the process stops after some of the operations, the file does not open, or
the change returns after all of them. -/
inductive SaveEnd where
  | stopped (n : ℕ)
  | openFailed
  | returned

def SaveEnd.file (e : SaveEnd) (x : XPack) (r : Registry) (c : Change) : Option String :=
  match e with
  | .stopped n => applyOps r.file ((c.ops x r).take n)
  | .openFailed => (c.after x r false).file
  | .returned => applyOps r.file (c.ops x r)

/-- Where the file opens and the process goes on, the file is the one of the registry's model. -/
lemma file_returned (x : XPack) (r : Registry) (c : Change) :
    SaveEnd.returned.file x r c = (c.after x r true).file := by
  rw [SaveEnd.file]
  rcases c.cases x r with ⟨-, hops, -, hafter⟩ | ⟨hops, -, hafter⟩
  · rw [hops, (hafter true).2]
    rfl
  · rw [hops, applyOps_saveOps, (hafter true).2, if_pos rfl]

lemma file_openFailed (x : XPack) (r : Registry) (c : Change) :
    SaveEnd.openFailed.file x r c = r.file := by
  rw [SaveEnd.file]
  rcases c.cases x r with ⟨-, -, -, hafter⟩ | ⟨-, -, hafter⟩
  · exact (hafter false).2
  · exact (hafter false).2

/-! ### Restarts -/

/-- A restart: `init_platform` of a new process. A file that is there but cannot be opened is
replaced by an empty one, if that can be opened. -/
def restart (x : XPack) (opens creates : Bool) (file : Option String) : Registry :=
  if file.isSome ∧ opens then ((boot file).initPlatform x).2
  else { boot file with file := if creates then some "" else file }

/-- The registry of a process that has read this list. -/
structure Loaded (r : Registry) (ps : List Platform) : Prop where
  list : r.platformList.platforms = ps
  map : r.platformMap = ps.foldl setEntry ∅

lemma restart_loaded (x : XPack) (opens creates : Bool) (file : Option String) :
    Loaded (restart x opens creates file) (if opens then load x file else []) := by
  by_cases hread : file.isSome ∧ opens
  · obtain ⟨-, hmap, -⟩ := initPlatform_spec x (boot file)
    rw [restart, if_pos hread, if_pos hread.2]
    exact ⟨initPlatform_boot_list x file, hmap⟩
  · have hnone : (if opens then load x file else []) = [] := by
      cases file with
      | none => cases opens <;> rfl
      | some text =>
        have hopens : opens = false := by simpa using hread
        rw [hopens]
        rfl
    rw [restart, if_neg hread, hnone]
    exact ⟨rfl, rfl⟩

lemma loaded_iff {x : XPack} {opens creates : Bool} {file : Option String} {ps : List Platform} :
    Loaded (restart x opens creates file) ps ↔ (if opens then load x file else []) = ps := by
  have hloaded := restart_loaded x opens creates file
  constructor
  · exact fun h => hloaded.list.symm.trans h.list
  · rintro rfl
    exact hloaded

/-! ### Crash safety -/

/-- A restart finds the registry as it was before the change or as it is after it, and an
`add_platform` that returns, which it does with `true` only, has its registry in the file. -/
structure Atomic (x : XPack) (r : Registry) (c : Change) (e : SaveEnd) (opens creates : Bool) :
    Prop where
  restart : Loaded (restart x opens creates (e.file x r c)) r.platformList.platforms ∨
    Loaded (restart x opens creates (e.file x r c)) (c.after x r true).platformList.platforms
  added : (∃ p, c = .add p) → (∀ n, e ≠ .stopped n) →
    load x (e.file x r c) = (c.after x r true).platformList.platforms

def SaveEnd.Untouched (ops : List FileOp) : SaveEnd → Prop
  | .stopped n => n = 0 ∨ ops = []
  | .openFailed => True
  | .returned => ops = []

/-- The process stopped between the truncation and the last byte. -/
def SaveEnd.Cut (ops : List FileOp) : SaveEnd → Prop
  | .stopped n => 0 < n ∧ n + 1 < ops.length
  | .openFailed | .returned => False

structure Survives (x : XPack) (r : Registry) (c : Change) (e : SaveEnd) (opens : Bool) :
    Prop where
  /-- The file opens for a platform that is added, or it said as much already. -/
  added : ∀ p, c = .add p → e = .openFailed → load x r.file = c.list r
  /-- Only a restart that has nothing to find may fail to open the file. -/
  opened : opens = false → r.platformList.platforms = []
  /-- Only a registry that was empty may be cut short. -/
  whole : opens = true → e.Cut (c.ops x r) → r.platformList.platforms = []
  /-- A file that is not touched says what it said before the change. -/
  untouched : opens = true → e.Untouched (c.ops x r) →
    load x r.file = r.platformList.platforms ∨ load x r.file = c.list r

section Saving

variable {x : XPack} {r : Registry} {c : Change} {e : SaveEnd}

lemma file_untouched (h : e.Untouched (c.ops x r)) : e.file x r c = r.file := by
  cases e with
  | stopped n =>
    rw [SaveEnd.file]
    rcases h with rfl | h
    · rfl
    · rw [h, List.take_nil]
      rfl
  | openFailed => exact file_openFailed x r c
  | returned =>
    have hops : c.ops x r = [] := h
    rw [SaveEnd.file, hops]
    rfl

lemma load_take (htorn : x.Torn) (l : Platforms) {n : ℕ} (hn : n < (x.encode l).toList.length) :
    load x (some (String.ofList ((x.encode l).toList.take n))) = [] := by
  rw [load]
  split_ifs with hempty
  · rfl
  · refine htorn l n (Nat.pos_of_ne_zero ?_) hn
    rintro rfl
    exact hempty rfl

lemma load_cut (htorn : x.Torn) (h : e.Cut (c.ops x r)) : load x (e.file x r c) = [] := by
  cases e with
  | openFailed => exact h.elim
  | returned => exact h.elim
  | stopped n =>
    obtain ⟨hpos, hlt⟩ : 0 < n ∧ n + 1 < (c.ops x r).length := h
    obtain ⟨n, rfl⟩ := Nat.exists_eq_succ_of_ne_zero hpos.ne'
    rcases c.cases x r with ⟨-, hops, -⟩ | ⟨hops, -⟩
    · rw [hops] at hlt
      exact absurd hlt (Nat.not_lt_zero _)
    · have hlen : (c.ops x r).length = (x.encode ⟨c.list r⟩).toList.length + 2 := by
        simp [hops, saveOps]
      rw [SaveEnd.file, hops, applyOps_take _ _ (by omega)]
      exact load_take htorn _ (by omega)

/-- Where the operations got to the last byte, the file says what was saved. -/
lemma load_whole (hx : x.Lawful) (hunt : ¬ e.Untouched (c.ops x r)) (hcut : ¬ e.Cut (c.ops x r)) :
    load x (e.file x r c) = c.list r := by
  rcases c.cases x r with ⟨-, hops, -⟩ | ⟨hops, -⟩
  · refine absurd ?_ hunt
    cases e with
    | stopped n => exact Or.inr hops
    | openFailed => trivial
    | returned => exact hops
  · have hfile : e.file x r c = some (x.encode ⟨c.list r⟩) := by
      cases e with
      | openFailed => exact absurd trivial hunt
      | returned => rw [SaveEnd.file, hops, applyOps_saveOps]
      | stopped n =>
        have hlen : (c.ops x r).length = (x.encode ⟨c.list r⟩).toList.length + 2 := by
          simp [hops, saveOps]
        have hn : n ≠ 0 := fun h => hunt (Or.inl h)
        have hlast : (c.ops x r).length ≤ n + 1 := by
          by_contra hlt
          exact hcut ⟨Nat.pos_of_ne_zero hn, by omega⟩
        rw [SaveEnd.file]
        -- the last operation closes the file, the one before writes the last byte
        by_cases hclosed : (c.ops x r).length ≤ n
        · rw [List.take_of_length_le hclosed, hops, applyOps_saveOps]
        · have hn : n = (x.encode ⟨c.list r⟩).toList.length + 1 := by omega
          rw [hops, hn, applyOps_take _ _ le_rfl, List.take_length, String.ofList_toList]
    rw [hfile, load_encode hx]

lemma restart_iff (hx : x.Lawful) (htorn : x.Torn) (opens creates : Bool) :
    (Loaded (restart x opens creates (e.file x r c)) r.platformList.platforms ∨
      Loaded (restart x opens creates (e.file x r c)) (c.after x r true).platformList.platforms) ↔
    (opens = false → r.platformList.platforms = []) ∧
    (opens = true → e.Cut (c.ops x r) → r.platformList.platforms = []) ∧
    (opens = true → e.Untouched (c.ops x r) →
      load x r.file = r.platformList.platforms ∨ load x r.file = c.list r) := by
  have hempty : [] = r.platformList.platforms ∨ [] = c.list r ↔
      r.platformList.platforms = [] := by
    constructor
    · rintro (h | h)
      · exact h.symm
      · exact Change.list_eq_nil x h.symm
    · exact fun h => Or.inl h.symm
  -- no operation, or the opening and not all that follows it
  have hexcl : e.Untouched (c.ops x r) → ¬ e.Cut (c.ops x r) := by
    intro hunt hcut
    cases e with
    | openFailed => exact hcut
    | returned => exact hcut
    | stopped n =>
      obtain ⟨hpos, hlt⟩ : 0 < n ∧ n + 1 < (c.ops x r).length := hcut
      rcases hunt with rfl | hops
      · exact Nat.lt_irrefl 0 hpos
      · rw [hops] at hlt
        exact Nat.not_lt_zero _ hlt
  rw [loaded_iff, loaded_iff, Change.after_list]
  cases opens with
  | false => simpa using hempty
  | true =>
    by_cases hunt : e.Untouched (c.ops x r)
    · simp [hunt, hexcl hunt, file_untouched hunt]
    · by_cases hcut : e.Cut (c.ops x r)
      · simpa [hunt, hcut, load_cut htorn hcut] using hempty
      · simp [hunt, hcut, load_whole hx hunt hcut]

lemma added_iff (hx : x.Lawful) :
    ((∃ p, c = .add p) → (∀ n, e ≠ .stopped n) →
      load x (e.file x r c) = (c.after x r true).platformList.platforms) ↔
    ∀ p, c = .add p → e = .openFailed → load x r.file = c.list r := by
  rw [Change.after_list]
  constructor
  · rintro h p hc rfl
    rw [← file_openFailed x r c]
    exact h ⟨p, hc⟩ fun n hn => SaveEnd.noConfusion hn
  · rintro h ⟨p, hc⟩ hend
    cases e with
    | stopped n => exact absurd rfl (hend n)
    | openFailed =>
      rw [file_openFailed]
      exact h p hc rfl
    | returned =>
      refine load_whole hx ?_ not_false
      subst hc
      exact List.cons_ne_nil _ _

/-- A change is saved at once exactly if it survives. -/
theorem save_atomic_iff (hx : x.Lawful) (htorn : x.Torn) (r : Registry) (c : Change)
    (e : SaveEnd) (opens creates : Bool) :
    Atomic x r c e opens creates ↔ Survives x r c e opens := by
  constructor
  · intro h
    obtain ⟨hopened, hwhole, hunt⟩ := (restart_iff hx htorn opens creates).mp h.restart
    exact ⟨(added_iff hx).mp h.added, hopened, hwhole, hunt⟩
  · intro h
    exact ⟨(restart_iff hx htorn opens creates).mpr ⟨h.opened, h.whole, h.untouched⟩,
      (added_iff hx).mpr h.added⟩

end Saving

def oneRecorder : Registry :=
  (boot none).addPlatform XPack.json true (Platform.new "1")

theorem save_atomic_deletion :
    Atomic XPack.json oneRecorder (.del "1") .returned true true := by
  refine (save_atomic_iff XPack.json_lawful XPack.json_torn oneRecorder (.del "1") .returned
    true true).mpr ⟨?_, ?_, ?_, ?_⟩
  · exact fun p hc => Change.noConfusion hc
  · exact fun h => Bool.noConfusion h
  · exact fun _ hcut => hcut.elim
  · exact fun _ hops => absurd hops (List.cons_ne_nil _ _)

/-- A process that stops behind the truncation leaves nothing, and a platform that is added while
the file does not open is not there after a restart. -/
theorem save_not_atomic :
    ¬ Atomic XPack.json oneRecorder (.del "1") (.stopped 1) true true ∧
      ¬ Atomic XPack.json oneRecorder (.add (Platform.new "2")) .openFailed true true := by
  constructor
  · intro h
    have hrestart := h.restart
    rw [loaded_iff, loaded_iff, Change.after_list] at hrestart
    rcases hrestart with hempty | hempty
    · exact absurd hempty (List.cons_ne_nil _ _).symm
    · exact absurd hempty (List.cons_ne_nil _ _).symm
  · intro h
    have hadded := h.added ⟨_, rfl⟩ fun n hn => SaveEnd.noConfusion hn
    have hsaved : load XPack.json oneRecorder.file = [Platform.new "1"] :=
      load_encode XPack.json_lawful ⟨[Platform.new "1"]⟩
    rw [file_openFailed, hsaved, Change.after_list] at hadded
    exact absurd (congrArg List.length hadded) (by decide)

end Registry

end DHGateway
