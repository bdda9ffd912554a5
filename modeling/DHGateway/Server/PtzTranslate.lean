import DHGateway.Message.Readings
import DHGateway.Server.PtzStop
import DHGateway.Server.SdkErrors

/-!
# Commands for a camera

A message names a command and its value by numbers. The value passes through a byte, and a command
that the table does not have is not refused.
-/

namespace DHGateway

open Json

def IsPresetCode (cmdCode : ℕ) : Prop :=
  cmdCode = 130 ∨ cmdCode = 129 ∨ cmdCode = 131

def IsStopCode (cmdCode : ℕ) : Prop :=
  cmdCode = 0 ∨ cmdCode = 64

instance (cmdCode : ℕ) : Decidable (IsPresetCode cmdCode) := by
  unfold IsPresetCode; infer_instance

instance (cmdCode : ℕ) : Decidable (IsStopCode cmdCode) := by
  unfold IsStopCode; infer_instance

namespace Server

/-- Between two states the SDK was called once, to move a camera by a command with a parameter. -/
def MovesBy (s s' : Server) (login : LoginResults) (channel : ℤ) (cmd param : ℕ) : Prop :=
  ∃ stop, s'.calls = s.calls ++ [.ptzControlEx2 login.handle channel cmd param stop]

/-- A command was passed to the SDK as its message says: a preset with its index, a movement with
its speed up to `8`, and a number that is no command not at all, which the answer tells. -/
structure Translated (env : Env) (s s' : Server) (login : LoginResults) (channel : ℤ)
    (cmdCode cmdValue : ℕ) : Prop where
  preset : ∀ cmd, xhToDhPtzBaseCmd.lookup cmdCode = some cmd → IsPresetCode cmdCode →
    s.MovesBy s' login channel (env.dhPtz cmd) cmdValue
  move : ∀ cmd, xhToDhPtzBaseCmd.lookup cmdCode = some cmd → ¬ IsPresetCode cmdCode →
    s.MovesBy s' login channel (env.dhPtz cmd) (min cmdValue 8)
  unknown : xhToDhPtzBaseCmd.lookup cmdCode = none → ¬ IsStopCode cmdCode →
    s'.calls = s.calls ∧ ∃ code, code ≠ 0 ∧ s.AnsweredWith s' code

/-- When a command is passed on so: a stop, and a command of the table whose value the byte does not
change, or changes to another one that is cut to `8`. -/
def Translatable (cmdCode cmdValue : ℕ) : Prop :=
  IsStopCode cmdCode ∨ (xhToDhPtzBaseCmd.lookup cmdCode).isSome = true ∧
    (cmdValue < 256 ∨ ¬ IsPresetCode cmdCode ∧ 8 ≤ cmdValue % 256)

lemma movesBy_iff {s s' : Server} {login : LoginResults} {channel : ℤ} {cmd param : ℕ}
    {stop : Bool} (h : s'.calls = s.calls ++ [.ptzControlEx2 login.handle channel cmd param stop])
    (param' : ℕ) : s.MovesBy s' login channel cmd param' ↔ param' = param := by
  constructor
  · rintro ⟨stop', h'⟩
    rw [h, List.append_cancel_left_eq, List.singleton_inj] at h'
    injection h' with _ _ _ hparam _
    exact hparam.symm
  · rintro rfl
    exact ⟨stop, h⟩

lemma translated_iff_movesBy {env : Env} {s s' : Server} {login : LoginResults} {channel : ℤ}
    {cmdCode cmdValue : ℕ} {cmd : DhPtz} (hcmd : xhToDhPtzBaseCmd.lookup cmdCode = some cmd) :
    s.Translated env s' login channel cmdCode cmdValue ↔
      s.MovesBy s' login channel (env.dhPtz cmd)
        (if IsPresetCode cmdCode then cmdValue else min cmdValue 8) := by
  constructor
  · intro h
    -- a preset takes the value as its number, a move as a speed of at most 8
    split_ifs with hpreset
    · exact h.preset cmd hcmd hpreset
    · exact h.move cmd hcmd hpreset
  · intro h
    refine ⟨?_, ?_, fun hnone => absurd (hnone.symm.trans hcmd) (by simp)⟩
    · intro cmd' hcmd' hpreset
      rw [if_pos hpreset] at h
      exact Option.some.inj (hcmd.symm.trans hcmd') ▸ h
    · intro cmd' hcmd' hpreset
      rw [if_neg hpreset] at h
      exact Option.some.inj (hcmd.symm.trans hcmd') ▸ h

lemma not_isStopCode {cmdCode : ℕ} {cmd : DhPtz}
    (hcmd : xhToDhPtzBaseCmd.lookup cmdCode = some cmd) : ¬ IsStopCode cmdCode := by
  have hnone : xhToDhPtzBaseCmd.lookup 0 = none ∧ xhToDhPtzBaseCmd.lookup 64 = none := by decide
  rintro (rfl | rfl)
  · exact absurd (hnone.1.symm.trans hcmd) (by simp)
  · exact absurd (hnone.2.symm.trans hcmd) (by simp)

/-! ### What `ptz_control` does with a command -/

section

variable (env : Env) (temp : ℕ) (login : LoginResults) {ptz : PtzCMD} (a : SdkResult)

lemma ptzControl_preset {cmd : DhPtz} (hcmd : xhToDhPtzBaseCmd.lookup ptz.contrlCmd = some cmd)
    (h : IsPresetCode ptz.contrlCmd) : (ptzControl env temp login ptz a).2.2 =
      [.ptzControlEx2 login.handle ptz.channel (env.dhPtz cmd) ptz.contrlParam false] := by
  simp only [ptzControl, hcmd, Option.map_some, Option.getD_some]
  rw [if_pos ⟨rfl, h⟩]

lemma ptzControl_move {cmd : DhPtz} (hcmd : xhToDhPtzBaseCmd.lookup ptz.contrlCmd = some cmd)
    (h : ¬ IsPresetCode ptz.contrlCmd) : (ptzControl env temp login ptz a).2.2 =
      [.ptzControlEx2 login.handle ptz.channel (env.dhPtz cmd) (min ptz.contrlParam 8)
        ptz.dwStop] := by
  have hstop : ¬ (ptz.contrlCmd = 0 ∨ ptz.contrlCmd = 64) := not_isStopCode hcmd
  have hmin : (if ptz.contrlParam > 8 then 8 else ptz.contrlParam) = min ptz.contrlParam 8 := by
    split_ifs <;> omega
  simp only [ptzControl, hcmd, Option.map_some, Option.getD_some, hstop, if_false, hmin]
  rw [if_neg fun hp => h hp.2]

end

lemma lookupLogin_frame {s s' : Server} {deviceId : String} {a : TaskInput}
    {ret : Except Exn LoginResults} (h : s.lookupLogin deviceId a = (ret, s')) :
    s'.calls = s.calls ∧ s'.sent = s.sent ∧ s'.tempPtzCmd = s.tempPtzCmd := by
  rw [lookupLogin] at h
  split at h
  · cases h
    exact ⟨rfl, rfl, rfl⟩
  · cases h
    exact ⟨rfl, rfl, rfl⟩

lemma channelPtzControl_calls (env : Env) {s s' : Server} {doc : Document} {a : TaskInput}
    {ptz : PtzCMD} {b : Bool} {login : LoginResults}
    (hparse : parsPtzControl doc (PtzCMD.new a.ptzMem) = .ok (b, ptz))
    (hlogin : s.lookupLogin ptz.deviceId a = (.ok login, s')) :
    (channelPtzControl env s doc a).1.calls =
        s.calls ++ (ptzControl env s.tempPtzCmd login ptz a.ptz).2.2 ∧
      s.AnsweredWith (channelPtzControl env s doc a).1
        (ptzControl env s.tempPtzCmd login ptz a.ptz).1 := by
  obtain ⟨hcalls, hsent, htemp⟩ := lookupLogin_frame hlogin
  rw [channelPtzControl, hparse]
  simp only [withParsed, withLogin, hlogin, htemp]
  refine ⟨?_, env.response ptz.msgId (ptzControl env s.tempPtzCmd login ptz a.ptz).1 ptz.msgType
    a.time, ?_, rfl⟩
  · rw [send_calls, ← hcalls]
    rfl
  · rw [send_sent, ← hsent]
    rfl

/-- A message with a command for a camera, which is handled with these results of the login. -/
structure Commands (s : Server) (doc : Json) (a : TaskInput) (cmdCode cmdValue : ℕ) (ptz : PtzCMD)
    (login : LoginResults) : Prop where
  type : getMsgType (some doc) = some .channelPtzControl
  code : doc.readAt asInt ["data", "dataMap", "cmdCode"] = some (cmdCode : ℤ)
  value : doc.readAt asInt ["data", "dataMap", "cmdValue"] = some (cmdValue : ℤ)
  parsed : ∃ b, parsPtzControl (some doc) (PtzCMD.new a.ptzMem) = .ok (b, ptz)
  login : ∃ s', s.lookupLogin ptz.deviceId a = (.ok login, s')

lemma lt_of_readAt {doc : Json} {names : List String} {n : ℕ}
    (h : doc.readAt asInt names = some (n : ℤ)) : n < 2 ^ 31 := by
  induction names generalizing doc with
  | nil =>
    rcases doc with _ | _ | m | _ | _ | _ | _
    -- `asInt` takes the numbers of an `int` only
    case num =>
      simp only [readAt, asInt] at h
      split_ifs at h with hm
      cases Option.some.inj h
      omega
    all_goals cases h
  | cons name names ih =>
    obtain ⟨w, _, hw⟩ := Option.bind_eq_some_iff.mp h
    exact ih hw

lemma Commands.ptz_eq {s : Server} {doc : Json} {a : TaskInput} {cmdCode cmdValue : ℕ}
    {ptz : PtzCMD} {login : LoginResults} (h : s.Commands doc a cmdCode cmdValue ptz login) :
    ptz.contrlCmd = cmdCode ∧ ptz.contrlParam = cmdValue % 256 := by
  obtain ⟨b, hparse⟩ := h.parsed
  have hptz : ptz = _ := parsPtzControl_eq hparse
  have hlt := lt_of_readAt h.code
  rw [hptz]
  dsimp only
  rw [number_of_readAt h.code, number_of_readAt h.value]
  constructor <;> omega

/-- A command is passed on as its message says exactly if it is translatable. -/
theorem ptz_translated_iff {env : Env} {s : Server} {doc : Json} {a : TaskInput}
    {cmdCode cmdValue : ℕ} {ptz : PtzCMD} {login : LoginResults}
    (h : s.Commands doc a cmdCode cmdValue ptz login) :
    s.Translated env (channelPtzControl env s (some doc) a).1 login ptz.channel cmdCode cmdValue ↔
      Translatable cmdCode cmdValue := by
  obtain ⟨hcode, hparam⟩ := h.ptz_eq
  obtain ⟨b, hparse⟩ := h.parsed
  obtain ⟨s', hlogin⟩ := h.login
  obtain ⟨hcalls, -⟩ := channelPtzControl_calls env hparse hlogin
  rw [Translatable]
  cases hcmd : xhToDhPtzBaseCmd.lookup cmdCode with
  | none =>
    by_cases hstop : IsStopCode cmdCode
    · refine iff_of_true ⟨?_, ?_, ?_⟩ (Or.inl hstop)
      · exact fun cmd hsome => absurd (hcmd.symm.trans hsome) (by simp)
      · exact fun cmd hsome => absurd (hcmd.symm.trans hsome) (by simp)
      · exact fun _ hno => absurd hstop hno
    · refine iff_of_false (fun ht => ?_) (by simp [hstop])
      rw [(ht.unknown hcmd hstop).1, List.self_eq_append_right] at hcalls
      exact ptzControl_calls env s.tempPtzCmd login ptz a.ptz hcalls
  | some cmd =>
    have hstop := not_isStopCode hcmd
    rw [translated_iff_movesBy hcmd]
    rw [← hcode] at hcmd
    by_cases hpreset : IsPresetCode cmdCode
    · rw [ptzControl_preset env _ login a.ptz hcmd (hcode ▸ hpreset), hparam] at hcalls
      rw [movesBy_iff hcalls, if_pos hpreset]
      simp only [hstop, hpreset, Option.isSome_some, not_true, false_and, or_false, false_or,
        true_and]
      omega
    · rw [ptzControl_move env _ login a.ptz hcmd (hcode ▸ hpreset), hparam] at hcalls
      rw [movesBy_iff hcalls, if_neg hpreset]
      simp only [hstop, hpreset, Option.isSome_some, not_false_eq_true, false_or, true_and]
      omega

def ptzMessage (cmdCode cmdValue : ℤ) : Json :=
  .obj [("code", .num 0), ("data", .obj [("channelId", .str "17#0"),
      ("dataMap", .obj [("cmdCode", .num cmdCode), ("cmdValue", .num cmdValue)]),
      ("deviceId", .str "17")]),
    ("msgId", .str "71709"), ("msgType", .str "CHANNEL_PTZ_CONTROL")]

def ptzParsed (cmdCode cmdValue : ℕ) : PtzCMD :=
  ⟨"CHANNEL_PTZ_CONTROL", "71709", "17", 0, cmdCode, cmdValue % 256, false⟩

/-- A movement to the left with the speed `5`. -/
theorem ptz_translated_iff_left :
    fresh.Translated Env.plain (channelPtzControl Env.plain fresh (some (ptzMessage 2 5))
      .silent).1 TaskInput.silent.results 0 2 5 := by
  have hcommands : fresh.Commands (ptzMessage 2 5) .silent 2 5 (ptzParsed 2 5)
      TaskInput.silent.results := ⟨by decide, rfl, rfl, ⟨false, rfl⟩, ⟨fresh, rfl⟩⟩
  exact (ptz_translated_iff hcommands).mpr (Or.inr (by decide))

/-- Preset `256` is sent as preset `0`, the speed `256` as `0` instead of `8`, and the number `3`,
which is no command, as the SDK's command `0` with a success as the answer. -/
theorem ptz_not_translated :
    ¬ fresh.Translated Env.plain (channelPtzControl Env.plain fresh (some (ptzMessage 130 256))
        .silent).1 TaskInput.silent.results 0 130 256 ∧
      ¬ fresh.Translated Env.plain (channelPtzControl Env.plain fresh (some (ptzMessage 8 256))
        .silent).1 TaskInput.silent.results 0 8 256 ∧
      ¬ fresh.Translated Env.plain (channelPtzControl Env.plain fresh (some (ptzMessage 3 5))
        .silent).1 TaskInput.silent.results 0 3 5 ∧
      fresh.AnsweredWith (channelPtzControl Env.plain fresh (some (ptzMessage 3 5)) .silent).1
        0 := by
  refine ⟨fun h => ?_, fun h => ?_, fun h => ?_, _, rfl, rfl⟩
  · -- the value is a byte: 256 names the preset 0
    obtain ⟨stop, hcalls⟩ := h.preset .pointMove (by decide) (by decide)
    cases stop <;> exact absurd hcalls (by decide)
  · obtain ⟨stop, hcalls⟩ := h.move .upControl (by decide) (by decide)
    cases stop <;> exact absurd hcalls (by decide)
  · -- a code that the table does not have is sent as the command 0
    have hcalls := (h.unknown (by decide) (by decide)).1
    exact absurd hcalls (by decide)

end Server

end DHGateway
