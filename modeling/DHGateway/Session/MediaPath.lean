import DHGateway.Core.Run
import DHGateway.Session.Leftover

/-!
# From the device to the media server

The data of a stream goes from the device through the RTP library, for H.264 data through the PS
muxer before, and through `sendMS` to the media server. The libraries call back while they take
data; another thread may stop the session at any point in between.
-/

namespace DHGateway

open Interleaved

/-- The PS muxer and the RTP library: the PS packets that the muxer writes for H.264 data, and the
RTP packets that are made of PS data. -/
structure MediaLibs where
  Muxer : Type
  Packetizer : Type
  psMuxerInput : Muxer → ℤ → UInt64 → List UInt8 → Muxer × List (List UInt8)
  rtpPacketInput : Packetizer → UInt32 → UInt32 → List UInt8 → Packetizer × List (List UInt8)

namespace MediaLibs

variable (L : MediaLibs) (handle ssrc : UInt32)

/-- One input of the RTP library, behind the packets that it has made before. -/
def feed (r : L.Packetizer × List (List UInt8)) (data : List UInt8) :
    L.Packetizer × List (List UInt8) :=
  let (packetizer, ps) := L.rtpPacketInput r.1 handle ssrc data
  (packetizer, r.2 ++ ps)

def packets (packetizer : L.Packetizer) (datas : List (List UInt8)) :
    L.Packetizer × List (List UInt8) :=
  datas.foldl (L.feed handle ssrc) (packetizer, [])

lemma packets_concat (packetizer : L.Packetizer) (datas : List (List UInt8)) (data : List UInt8) :
    L.packets handle ssrc packetizer (datas ++ [data]) =
      L.feed handle ssrc (L.packets handle ssrc packetizer datas) data := by
  rw [packets, List.foldl_append]
  rfl

end MediaLibs

namespace PlaySession

/-! ### What a running session holds back -/

/-- Of the frames in the send buffer there is one, or there are two where the first one was stamped
with the flag. -/
def Lag (s : PlaySession) (held : List (List UInt8)) : Prop :=
  held = [] ∨ s.nStartVideoTimestamp = s.nCurrentVideoTimestamp ∧
    (held.length ≤ 1 ∨
      s.nStartVideoTimestamp ≠ gb28181VideoStartTimestampFlag ∧ held.length ≤ 2)

/-- A session after the packets `ps`: the frames of the last ones wait in the send buffer. -/
def Holds (ps : List (List UInt8)) (s : PlaySession) (env : SendEnv) : Prop :=
  ∃ qs held, ps = qs ++ held ∧ env.sent = frames qs ∧ s.buffered = frames held ∧ s.Lag held

lemma Lag.length_le {s : PlaySession} {held : List (List UInt8)} (h : s.Lag held) :
    held.length ≤ 2 := by
  rcases h with rfl | ⟨_, h | ⟨_, h⟩⟩
  · exact Nat.zero_le 2
  · exact Nat.le_succ_of_le h
  · exact h

/-- Where a packet is put behind another one, that one was stamped with the flag. -/
lemma stamp_of_not_newFrame {s : PlaySession} (hconn : s.nMediaClient ≠ 0)
    (hstamp : s.nStartVideoTimestamp = s.nCurrentVideoTimestamp)
    (hpos : 0 < s.nSendRtpVideoMediaBufferLength) (hn : ¬ s.tick.newFrame) :
    s.nStartVideoTimestamp = gb28181VideoStartTimestampFlag := by
  by_contra hne
  refine hn ⟨hconn, hne, fun heq => ?_, hpos⟩
  have hone : (1 : UInt32) = 0 := by
    rw [← UInt32.add_right_inj s.nCurrentVideoTimestamp, UInt32.add_zero, ← hstamp]
    exact hstamp ▸ heq.symm
  exact absurd hone (by decide)

lemma Lag.concat {s : PlaySession} {env : SendEnv} {held : List (List UInt8)} {p : List UInt8}
    (h : s.Lag held) (hconn : s.nMediaClient ≠ 0) (hbuf : s.buffered = frames held)
    (hn : ¬ s.tick.newFrame) : (s.tick.storeFrame env p).1.Lag (held ++ [p]) := by
  refine Or.inr ⟨rfl, ?_⟩
  -- the buffer holds nothing yet, or packets of one picture
  rcases h with rfl | ⟨hstamp, hlen⟩
  · exact Or.inl le_rfl
  · cases held with
    | nil => exact Or.inl le_rfl
    | cons q held =>
      have hpos : 0 < s.nSendRtpVideoMediaBufferLength := by
        have hbytes := congrArg List.length hbuf
        rw [buffered, ByteMem.length_read, frames_cons, List.length_append, length_frame] at hbytes
        omega
      have hflag := stamp_of_not_newFrame hconn hstamp hpos hn
      have hone : (q :: held).length ≤ 1 := hlen.resolve_right fun h => h.1 hflag
      refine Or.inr ⟨?_, ?_⟩
      · show s.nCurrentVideoTimestamp + 1 ≠ gb28181VideoStartTimestampFlag
        rw [← hstamp, hflag]
        decide
      · rw [List.length_append, List.length_singleton]
        omega

/-- One call of `sendMS` writes out all frames but the last one or two, or its write fails. -/
lemma Holds.sendMS {ps : List (List UInt8)} {s : PlaySession} {env : SendEnv}
    (h : Holds ps s env) (hrun : s.isRun = true) (hconn : s.nMediaClient ≠ 0) {p : List UInt8}
    (hp : p.length ≤ 32764) : (s.sendMS env p).2.2.Failed ∨
      Holds (ps ++ [p]) (s.sendMS env p).2.1 (s.sendMS env p).2.2 := by
  obtain ⟨qs, held, rfl, hsent, hbuf, hlag⟩ := h
  rcases sendMS_cases s env p hrun with ⟨ret, hret, _, _, henv⟩ | ⟨_, heq⟩ | ⟨hn, heq⟩
  · left
    rw [henv]
    exact (SendEnv.failed_write _ _ _ _).mpr (Or.inr hret)
  · -- all that was held back is written, and the packet is alone in the buffer
    right
    rw [heq]
    refine ⟨qs ++ held, [p], rfl, ?_, ?_, Or.inr ⟨rfl, Or.inl le_rfl⟩⟩
    · rw [storeFrame_sent, SendEnv.sent_write, if_pos rfl, hsent, hbuf, frames_append]
    · rw [storeFrame_buffered _ _ (by omega)]
      simp [buffered]
  · right
    rw [heq]
    refine ⟨qs, held ++ [p], List.append_assoc .., hsent, ?_, hlag.concat hconn hbuf hn⟩
    rw [storeFrame_buffered _ _ (by omega), frames_append]
    show s.buffered ++ frame p = _
    rw [hbuf]
    simp

/-- What a session passes to the RTP library with every input. -/
def rtpInput (s : PlaySession) : UInt32 × UInt32 × UInt32 :=
  (s.hRtpPS, s.inputHandle, s.inputSsrc)

lemma rtpPacketCallback_rtpInput (s : PlaySession) (env : SendEnv) (data : List UInt8) :
    (s.rtpPacketCallback env data).1.rtpInput = s.rtpInput := by
  simp only [rtpPacketCallback, PlaySession.sendMS, flushBuffer]
  split_ifs <;> rfl

lemma disconnetMS_rtpInput (s : PlaySession) (val : ℤ) :
    (s.disconnetMS val).rtpInput = s.rtpInput := by
  simp only [disconnetMS]
  split_ifs <;> rfl

lemma disconnetMS_isRun (s : PlaySession) (val : ℤ) : (s.disconnetMS val).isRun = s.isRun := by
  simp only [disconnetMS]
  split_ifs <;> rfl

end PlaySession

/-- What is left to do in a callback of the device SDK: a call of the session that hands data on, or
a call of a library back into the session. -/
inductive MediaWork where
  | out (o : Leftover.Observed)
  | psWrite (packet : List UInt8)
  | rtpPacket (data : List UInt8)

/-- A stream on its way. The last three record the PS data that came from the device, what the RTP
library was given, and the packets that it has made. -/
structure MediaPath (L : MediaLibs) where
  session : Leftover.Session
  env : PlaySession.SendEnv
  muxer : L.Muxer
  packetizer : L.Packetizer
  work : List MediaWork
  stopped : Bool
  psData : List (List UInt8)
  given : List (List UInt8)
  made : List (List UInt8)

/-- What can happen next: a callback of the device SDK, which waits for the one before; a call in
it; `_is_run = false` at the beginning of `stopSession`, and `disconnetMS` at its end. -/
inductive MediaAction where
  | realData (type : Leftover.DataType) (pBuffer : List UInt8)
  | recordData (type : Leftover.DataType) (pBuffer : List UInt8)
  | go
  | stopSession
  | disconnetMS (val : ℤ)

/-- The device sends no H.264 data: both starts ask for `EM_REAL_DATA_TYPE_GBPS`. -/
def MediaAction.AsAsked : MediaAction → Prop
  | .realData type _ | .recordData type _ => type ≠ .h264
  | .go | .stopSession | .disconnetMS _ => True

namespace MediaPath

open Leftover (Observed DataType)

variable {L : MediaLibs}

def start (session : Leftover.Session) (writeResult : ℕ → ℤ) (muxer : L.Muxer)
    (packetizer : L.Packetizer) : MediaPath L :=
  ⟨session, .start writeResult, muxer, packetizer, [], false, [], [], []⟩

def callback (s : MediaPath L) (type : DataType) (pBuffer : List UInt8)
    (r : Leftover.Session × List Observed) : MediaPath L :=
  { s with
    session := r.1
    work := r.2.map .out
    psData := if type = .gbps then s.psData ++ [pBuffer] else s.psData }

def library (s : MediaPath L) (rest : List MediaWork) : Observed → MediaPath L
  | .psMuxerInput _ stream pts _ data =>
    let (muxer, ps) := L.psMuxerInput s.muxer stream pts data
    { s with muxer := muxer, work := ps.map .psWrite ++ rest }
  | .rtpPacketInput handle ssrc data _ =>
    let (packetizer, ps) := L.rtpPacketInput s.packetizer handle ssrc data
    { s with
      packetizer := packetizer
      work := ps.map .rtpPacket ++ rest
      given := s.given ++ [data]
      made := s.made ++ ps }
  | _ => { s with work := rest }

/-- One step. A call back of the RTP library is one, with the whole `sendMS`: where `stopSession`
runs between the test of `_is_run` and the write, the stop is taken to come after the call. -/
def step (s : MediaPath L) : MediaAction → Option (MediaPath L)
  | .realData type pBuffer =>
    if s.work.isEmpty then
      some (s.callback type pBuffer (s.session.realDataCallbackEx type pBuffer))
    else none
  | .recordData type pBuffer =>
    if s.work.isEmpty then
      some (s.callback type pBuffer (s.session.recordDataCallbackEx2 type pBuffer))
    else none
  -- what the libraries and the callbacks still have to do for the data, first things first
  | .go =>
    match s.work with
    | [] => none
    | .out o :: rest => some (s.library rest o)
    | .psWrite packet :: rest =>
      some { s with work := (s.session.psWrite packet).map .out ++ rest }
    | .rtpPacket data :: rest =>
      let (p, env) := s.session.toPlaySession.rtpPacketCallback s.env data
      some { s with session := { s.session with toPlaySession := p }, env := env, work := rest }
  | .stopSession =>
    some { s with
      session := { s.session with isRun := false }
      stopped := true }
  -- `StopSession` calls it at its end
  | .disconnetMS val =>
    if s.stopped then
      some { s with
        session := { s.session with toPlaySession := s.session.toPlaySession.disconnetMS val } }
    else none

/-! ### What a step does -/

/-- What the session itself, or the muxer, adds to the work: no packet, and inputs of the RTP
library under the session's own handle. -/
def Adds (s : MediaPath L) : MediaWork → Prop
  | .rtpPacket _ => False
  | .out (.rtpPacketInput handle ssrc _ _) =>
    handle = s.session.inputHandle ∧ ssrc = s.session.inputSsrc
  | _ => True

/-- The steps by what they do to the packets: they leave them, take an input to the RTP library,
pass a packet to `sendMS`, or belong to the end of the stream. -/
inductive Move (s : MediaPath L) : MediaPath L → Prop where
  | quiet {s' : MediaPath L} (hsession : s'.session.toPlaySession = s.session.toPlaySession)
    (henv : s'.env = s.env) (hstopped : s'.stopped = s.stopped)
    (hpacketizer : s'.packetizer = s.packetizer) (hgiven : s'.given = s.given)
    (hmade : s'.made = s.made) (hnext : ∀ data rest, s.work ≠ .rtpPacket data :: rest)
    (hwork : ∀ w ∈ s'.work, w ∈ s.work ∨ s.Adds w) :
    Move s s'
  | fed {handle ssrc : UInt32} {data : List UInt8} {ts : ℕ} {rest : List MediaWork}
    (hwork : s.work = .out (.rtpPacketInput handle ssrc data ts) :: rest) :
    Move s (s.library rest (.rtpPacketInput handle ssrc data ts))
  | sent {data : List UInt8} {rest : List MediaWork} (hwork : s.work = .rtpPacket data :: rest) :
    Move s { s with
      session := { s.session with
        toPlaySession := (s.session.toPlaySession.rtpPacketCallback s.env data).1 }
      env := (s.session.toPlaySession.rtpPacketCallback s.env data).2
      work := rest }
  | stop : Move s { s with session := { s.session with isRun := false }, stopped := true }
  | disconnect {val : ℤ} (hstopped : s.stopped = true) : Move s { s with
      session := { s.session with toPlaySession := s.session.toPlaySession.disconnetMS val } }

lemma mem_psToRtp {session : Leftover.Session} {packet : List UInt8} {o : Observed}
    (h : o ∈ session.psToRtp packet) :
    o = .rtpPacketInput session.inputHandle session.inputSsrc packet 0 := by
  rw [Leftover.Session.psToRtp] at h
  split_ifs at h
  · exact List.mem_singleton.mp h
  · exact absurd h List.not_mem_nil

lemma realDataCallbackEx_toPlaySession (session : Leftover.Session) (type : DataType)
    (pBuffer : List UInt8) :
    (session.realDataCallbackEx type pBuffer).1.toPlaySession = session.toPlaySession := by
  cases type with
  | h264 =>
    simp only [Leftover.Session.realDataCallbackEx, Leftover.Session.esToPs]
    split_ifs <;> rfl
  | _ => rfl

lemma input_of_realData {session : Leftover.Session} {type : DataType} {pBuffer : List UInt8}
    {handle ssrc : UInt32} {data : List UInt8} {ts : ℕ}
    (h : .rtpPacketInput handle ssrc data ts ∈ (session.realDataCallbackEx type pBuffer).2) :
    handle = session.inputHandle ∧ ssrc = session.inputSsrc := by
  cases type with
  | h264 =>
    simp only [Leftover.Session.realDataCallbackEx, Leftover.Session.esToPs] at h
    split_ifs at h <;> simp at h
  | gbps =>
    obtain ⟨rfl, rfl, _⟩ := Observed.rtpPacketInput.inj (mem_psToRtp h)
    exact ⟨rfl, rfl⟩
  | other => exact absurd h List.not_mem_nil

lemma move_callback {s : MediaPath L} {type : DataType} {pBuffer : List UInt8}
    {r : Leftover.Session × List Observed} (hwork : s.work = [])
    (hsession : r.1.toPlaySession = s.session.toPlaySession)
    (hinput : ∀ handle ssrc data ts, .rtpPacketInput handle ssrc data ts ∈ r.2 →
      handle = s.session.inputHandle ∧ ssrc = s.session.inputSsrc) :
    s.Move (s.callback type pBuffer r) := by
  refine .quiet hsession rfl rfl rfl rfl rfl (by simp [hwork]) fun w hw => Or.inr ?_
  obtain ⟨o, ho, rfl⟩ := List.mem_map.mp hw
  cases o with
  | rtpPacketInput handle ssrc data ts => exact hinput handle ssrc data ts ho
  | _ => trivial

lemma move_library {s : MediaPath L} {o : Observed} {rest : List MediaWork}
    (hwork : s.work = .out o :: rest) : s.Move (s.library rest o) := by
  have hrest : ∀ w ∈ rest, w ∈ s.work ∨ s.Adds w :=
    fun w hw => Or.inl (hwork ▸ List.mem_cons_of_mem _ hw)
  cases o with
  | rtpPacketInput handle ssrc data ts => exact .fed hwork
  | psMuxerInput muxer stream pts dts data =>
    refine .quiet rfl rfl rfl rfl rfl rfl (by simp [hwork]) fun w hw => ?_
    rcases List.mem_append.mp hw with hw | hw
    · obtain ⟨packet, _, rfl⟩ := List.mem_map.mp hw
      exact Or.inr trivial
    · exact hrest w hw
  | _ => exact .quiet rfl rfl rfl rfl rfl rfl (by simp [hwork]) hrest

lemma move_psWrite {s : MediaPath L} {packet : List UInt8} {rest : List MediaWork}
    (hwork : s.work = .psWrite packet :: rest) :
    s.Move { s with work := (s.session.psWrite packet).map .out ++ rest } := by
  refine .quiet rfl rfl rfl rfl rfl rfl (by simp [hwork]) fun w hw => ?_
  rcases List.mem_append.mp hw with hw | hw
  · obtain ⟨o, ho, rfl⟩ := List.mem_map.mp hw
    right
    rw [Leftover.Session.psWrite] at ho
    rcases List.mem_append.mp ho with ho | ho
    · split_ifs at ho
      · rw [mem_psToRtp ho]
        exact ⟨rfl, rfl⟩
      · exact absurd ho List.not_mem_nil
    · rw [List.mem_singleton.mp ho]
      trivial
  · exact Or.inl (hwork ▸ List.mem_cons_of_mem _ hw)

lemma step_move {s s' : MediaPath L} {a : MediaAction} (h : s.step a = some s') : s.Move s' := by
  cases a with
  | realData type pBuffer =>
    rw [step] at h
    split_ifs at h with hwork
    rw [← Option.some.inj h]
    exact move_callback (List.isEmpty_iff.mp hwork)
      (realDataCallbackEx_toPlaySession s.session type pBuffer) fun _ _ _ _ => input_of_realData
  | recordData type pBuffer =>
    rw [step] at h
    split_ifs at h with hwork
    rw [← Option.some.inj h]
    refine move_callback (List.isEmpty_iff.mp hwork)
      (realDataCallbackEx_toPlaySession s.session type pBuffer) fun _ _ _ _ hmem => ?_
    -- `RecordDataCallbackEx2` does what the real callback does, and may return
    rcases List.mem_append.mp hmem with hmem | hmem
    · exact input_of_realData hmem
    · split_ifs at hmem
      · exact nomatch List.mem_singleton.mp hmem
      · exact absurd hmem List.not_mem_nil
  | go =>
    rw [step] at h
    split at h
    next => exact nomatch h
    next o rest hwork =>
      rw [← Option.some.inj h]
      exact move_library hwork
    next packet rest hwork =>
      rw [← Option.some.inj h]
      exact move_psWrite hwork
    next data rest hwork =>
      rw [← Option.some.inj h]
      exact .sent hwork
  | stopSession =>
    rw [← Option.some.inj h]
    exact .stop
  | disconnetMS val =>
    rw [step] at h
    split_ifs at h with hstopped
    rw [← Option.some.inj h]
    exact .disconnect hstopped

/-! ### The packets and the frames -/

/-- How far a stream has come with the packets that went to `sendMS`: all frames but the last ones
are written; or the stream is over, and a part from the beginning was written. -/
inductive Streams (ps : List (List UInt8)) (s : MediaPath L) : Prop where
  | live (hstopped : s.stopped = false)
    (hframed : PlaySession.Framed ps s.session.toPlaySession s.env)
    (hholds : PlaySession.Holds ps s.session.toPlaySession s.env)
  | ended (hrun : s.session.isRun = false) (hended : s.stopped = true ∨ s.env.Failed)
    (hsent : ∃ qs, qs <+: ps ∧ s.env.sent = frames qs)

lemma Streams.congr {ps : List (List UInt8)} {s s' : MediaPath L} (h : s.Streams ps)
    (hsession : s'.session.toPlaySession = s.session.toPlaySession) (henv : s'.env = s.env)
    (hstopped : s'.stopped = s.stopped) : s'.Streams ps := by
  cases h with
  | live hs hf hh => exact .live (hstopped.trans hs) (hsession ▸ henv ▸ hf) (hsession ▸ henv ▸ hh)
  | ended hr he hs =>
    exact .ended ((congrArg PlaySession.isRun hsession).trans hr) (hstopped ▸ henv ▸ he) (henv ▸ hs)

lemma Streams.packet {ps : List (List UInt8)} {s : MediaPath L} (h : s.Streams ps)
    {data : List UInt8} (hlen : data.length ≤ 32764) (rest : List MediaWork) :
    Streams (ps ++ [data]) { s with
      session := { s.session with
        toPlaySession := (s.session.toPlaySession.rtpPacketCallback s.env data).1 }
      env := (s.session.toPlaySession.rtpPacketCallback s.env data).2
      work := rest } := by
  cases h with
  | live hstopped hframed hholds =>
    have hcall : s.session.toPlaySession.rtpPacketCallback s.env data =
        (s.session.toPlaySession.sendMS s.env data).2 :=
      if_neg (by simp [hframed.isRun])
    rw [hcall]
    rcases hframed.sendMS hlen with hnext | hbroken
    · refine .live hstopped hnext ?_
      exact (hholds.sendMS hframed.isRun hframed.connected hlen).resolve_left hnext.ok
    · exact .ended hbroken.isRun (Or.inr hbroken.failed) hbroken.sent
  -- `_is_run` is tested before the packet is looked at
  | ended hrun hended hsent =>
    obtain ⟨qs, hqs, hsent⟩ := hsent
    have hcall : s.session.toPlaySession.rtpPacketCallback s.env data =
        (s.session.toPlaySession, s.env) := if_pos hrun
    rw [hcall]
    exact .ended hrun hended ⟨qs, hqs.trans (List.prefix_append _ _), hsent⟩

/-- The invariant: what is made of the inputs goes to `sendMS` packet by packet, and the packets
that still have to go there come before all other work. -/
structure Inv (session : Leftover.Session) (packetizer : L.Packetizer) (s : MediaPath L) :
    Prop where
  rtpInput : s.session.rtpInput = session.rtpInput
  made : L.packets session.inputHandle session.inputSsrc packetizer s.given =
    (s.packetizer, s.made)
  inputs : ∀ handle ssrc data ts, .out (.rtpPacketInput handle ssrc data ts) ∈ s.work →
    handle = session.inputHandle ∧ ssrc = session.inputSsrc
  order : ∃ ps pending rest, s.made = ps ++ pending ∧ s.work = pending.map .rtpPacket ++ rest ∧
    (∀ data, .rtpPacket data ∉ rest) ∧ s.Streams ps

variable {session : Leftover.Session} {packetizer : L.Packetizer} {s s' : MediaPath L}

def Short (L : MediaLibs) : Prop :=
  ∀ packetizer handle ssrc data, ∀ p ∈ (L.rtpPacketInput packetizer handle ssrc data).2,
    p.length ≤ 32764

lemma Short.packets (hL : Short L) (handle ssrc : UInt32) (packetizer : L.Packetizer)
    (datas : List (List UInt8)) :
    ∀ p ∈ (L.packets handle ssrc packetizer datas).2, p.length ≤ 32764 := by
  induction datas using List.reverseRecOn with
  | nil => exact fun p hp => absurd hp List.not_mem_nil
  | append_singleton datas data ih =>
    intro p hp
    rw [MediaLibs.packets_concat, MediaLibs.feed] at hp
    rcases List.mem_append.mp hp with hp | hp
    · exact ih p hp
    · exact hL _ _ _ _ p hp

lemma Inv.order_of_next (h : s.Inv session packetizer)
    (hnext : ∀ data rest, s.work ≠ .rtpPacket data :: rest) :
    s.Streams s.made ∧ ∀ data, .rtpPacket data ∉ s.work := by
  obtain ⟨ps, pending, rest, hmade, hwork, hrest, hstreams⟩ := h.order
  cases pending with
  | nil =>
    rw [List.append_nil] at hmade
    rw [List.map_nil, List.nil_append] at hwork
    exact ⟨hmade ▸ hstreams, hwork ▸ hrest⟩
  | cons data pending => exact absurd hwork (hnext data _)

lemma Inv.step (hL : Short L) (h : s.Inv session packetizer) (hs : s.Move s') :
    s'.Inv session packetizer := by
  have hhandle : s.session.inputHandle = session.inputHandle :=
    congrArg (fun r => r.2.1) h.rtpInput
  have hssrc : s.session.inputSsrc = session.inputSsrc := congrArg (fun r => r.2.2) h.rtpInput
  cases hs with
  -- nothing comes out of the packetizer, and nothing of the session moves
  | quiet hsession henv hstopped hpacketizer hgiven hmade hnext hwork =>
    obtain ⟨hstreams, hnone⟩ := h.order_of_next hnext
    refine ⟨?_, ?_, fun handle ssrc data ts hmem => ?_, s'.made, [], s'.work, ?_, rfl, ?_, ?_⟩
    · rw [hsession]
      exact h.rtpInput
    · rw [hgiven, hpacketizer, hmade]
      exact h.made
    · rcases hwork _ hmem with hmem | hadds
      · exact h.inputs handle ssrc data ts hmem
      · exact ⟨hadds.1.trans hhandle, hadds.2.trans hssrc⟩
    · exact (List.append_nil _).symm
    · intro data hmem
      rcases hwork _ hmem with hmem | hadds
      · exact hnone data hmem
      · exact hadds
    · rw [hmade]
      exact hstreams.congr hsession henv hstopped
  | @fed handle ssrc data ts rest hwork =>
    obtain ⟨hstreams, hnone⟩ := h.order_of_next (by simp [hwork])
    obtain ⟨rfl, rfl⟩ := h.inputs handle ssrc data ts (hwork ▸ List.mem_cons_self)
    refine ⟨h.rtpInput, ?_, fun handle ssrc data ts hmem => ?_, s.made, _, rest, rfl, rfl, ?_, ?_⟩
    · show L.packets _ _ packetizer (s.given ++ [data]) = _
      rw [MediaLibs.packets_concat, h.made]
      rfl
    · rcases List.mem_append.mp hmem with hmem | hmem
      · obtain ⟨p, _, hp⟩ := List.mem_map.mp hmem
        exact nomatch hp
      · exact h.inputs handle ssrc data ts (hwork ▸ List.mem_cons_of_mem _ hmem)
    · exact fun data hmem => hnone data (hwork ▸ List.mem_cons_of_mem _ hmem)
    · exact hstreams.congr rfl rfl rfl
  | @sent data rest hwork =>
    obtain ⟨ps, pending, others, hmade, hpending, hothers, hstreams⟩ := h.order
    rw [hwork] at hpending
    cases pending with
    | nil =>
      rw [List.map_nil, List.nil_append] at hpending
      exact absurd (hpending ▸ List.mem_cons_self) (hothers data)
    | cons data' pending =>
      obtain ⟨hdata, hrest⟩ := List.cons.inj hpending
      obtain rfl := MediaWork.rtpPacket.inj hdata
      have hmem : data ∈ s.made := hmade ▸ List.mem_append_right ps List.mem_cons_self
      have hlen := hL.packets session.inputHandle session.inputSsrc packetizer s.given data
        (by rw [h.made]; exact hmem)
      refine ⟨?_, h.made, fun handle ssrc data ts hin => ?_, ps ++ [data], pending, others, ?_,
        hrest, hothers, hstreams.packet hlen rest⟩
      · exact (PlaySession.rtpPacketCallback_rtpInput _ _ _).trans h.rtpInput
      · exact h.inputs handle ssrc data ts (hwork ▸ List.mem_cons_of_mem _ hin)
      · rw [List.append_assoc]
        exact hmade
  -- what is buffered will not be written any more
  | stop =>
    obtain ⟨ps, pending, rest, hmade, hwork, hrest, hstreams⟩ := h.order
    refine ⟨h.rtpInput, h.made, h.inputs, ps, pending, rest, hmade, hwork, hrest, ?_⟩
    refine .ended rfl (Or.inl rfl) ?_
    cases hstreams with
    | live _ hframed _ =>
      obtain ⟨qs, rs, rfl, hsent, _⟩ := hframed.split
      exact ⟨qs, List.prefix_append qs rs, hsent⟩
    | ended _ _ hsent => exact hsent
  | @disconnect val hstopped =>
    obtain ⟨ps, pending, rest, hmade, hwork, hrest, hstreams⟩ := h.order
    refine ⟨?_, h.made, h.inputs, ps, pending, rest, hmade, hwork, hrest, ?_⟩
    · exact (PlaySession.disconnetMS_rtpInput _ _).trans h.rtpInput
    · cases hstreams with
      | live hgoing => exact absurd (hgoing.symm.trans hstopped) (by decide)
      | ended hrun hended hsent =>
        exact .ended ((PlaySession.disconnetMS_isRun _ _).trans hrun) hended hsent

lemma inv_start (hstarted : PlaySession.AsStarted session.toPlaySession)
    (hrun : session.isRun = true) (hconn : session.nMediaClient ≠ 0) (writeResult : ℕ → ℤ)
    (muxer : L.Muxer) :
    (start session writeResult muxer packetizer).Inv session packetizer := by
  have hframed := PlaySession.Framed.start writeResult hconn hrun hstarted.buffer
  refine ⟨rfl, rfl, fun _ _ _ _ h => absurd h List.not_mem_nil, [], [], [], rfl, rfl,
    fun _ => List.not_mem_nil, .live rfl hframed ?_⟩
  refine ⟨[], [], rfl, rfl, ?_, Or.inl rfl⟩
  show PlaySession.buffered session.toPlaySession = []
  rw [PlaySession.buffered, hstarted.buffer, ByteMem.read_zero]

/-! ### The end of a stream -/

lemma env_of_move (hrun : s.session.isRun = false) (hs : s.Move s') :
    s'.session.isRun = false ∧ s'.env = s.env := by
  cases hs with
  | quiet hsession henv => exact ⟨(congrArg PlaySession.isRun hsession).trans hrun, henv⟩
  | fed => exact ⟨hrun, rfl⟩
  | sent =>
    rw [show s.session.toPlaySession.rtpPacketCallback s.env _ = (s.session.toPlaySession, s.env)
      from if_pos hrun]
    exact ⟨hrun, rfl⟩
  | stop => exact ⟨rfl, rfl⟩
  | disconnect => exact ⟨(PlaySession.disconnetMS_isRun _ _).trans hrun, rfl⟩

lemma env_of_run (hrun : s.session.isRun = false) {as : List MediaAction}
    (h : Run.run step s as = some s') : s'.env = s.env := by
  have hinv : s'.session.isRun = false ∧ s'.env = s.env :=
    Run.reachable_invariant (I := fun t => t.session.isRun = false ∧ t.env = s.env)
      (fun t a t' ht hs => by
        obtain ⟨hrun', henv⟩ := env_of_move ht.1 (step_move hs)
        exact ⟨hrun', henv.trans ht.2⟩) ⟨hrun, rfl⟩ h
  exact hinv.2

/-! ### Data of the type that is asked for -/

def Plain : MediaWork → Prop
  | .psWrite _ | .out (.psMuxerInput _ _ _ _ _) => False
  | _ => True

/-- The PS data that the RTP library is still to be given. -/
def waiting (work : List MediaWork) : List (List UInt8) :=
  work.filterMap fun
    | .out (.rtpPacketInput _ _ data _) => some data
    | _ => none

/-- The RTP library gets what comes from the device. -/
structure Direct (s : MediaPath L) : Prop where
  plain : ∀ w ∈ s.work, Plain w
  given : s.given ++ waiting s.work = s.psData

lemma waiting_packets (ps : List (List UInt8)) (rest : List MediaWork) :
    waiting (ps.map .rtpPacket ++ rest) = waiting rest := by
  induction ps with
  | nil => rfl
  | cons p ps ih => exact ih

lemma direct_gbps (pBuffer : List UInt8) {os : List Observed} (h : s.Direct) (hwork : s.work = [])
    (hrtp : 0 < s.session.hRtpPS) (hos : os = [] ∨ os = [.returned 0]) :
    (s.callback .gbps pBuffer (s.session, s.session.psToRtp pBuffer ++ os)).Direct := by
  have hinput : s.session.psToRtp pBuffer =
      [.rtpPacketInput s.session.inputHandle s.session.inputSsrc pBuffer 0] := if_pos hrtp
  have hgiven : s.given = s.psData := by
    have hgiven := h.given
    rw [hwork] at hgiven
    exact (List.append_nil _).symm.trans hgiven
  rw [hinput]
  constructor
  · intro w hw
    obtain ⟨o, ho, rfl⟩ := List.mem_map.mp hw
    rcases List.mem_cons.mp ho with rfl | ho
    · trivial
    · rcases hos with rfl | rfl
      · exact absurd ho List.not_mem_nil
      · rw [List.mem_singleton.mp ho]
        trivial
  · show s.given ++ _ = s.psData ++ [pBuffer]
    rw [hgiven]
    rcases hos with rfl | rfl <;> rfl

lemma direct_other {pBuffer : List UInt8} (h : s.Direct) (hwork : s.work = []) :
    (s.callback .other pBuffer (s.session, [])).Direct := by
  constructor
  · exact fun w hw => absurd hw List.not_mem_nil
  · have hgiven := h.given
    rw [hwork] at hgiven
    exact hgiven

lemma Direct.rest {w : MediaWork} {rest : List MediaWork} (h : s.Direct)
    (hwork : s.work = w :: rest) : ∀ w ∈ rest, Plain w :=
  fun w hw => h.plain w (hwork ▸ List.mem_cons_of_mem _ hw)

lemma Direct.library {o : Observed} {rest : List MediaWork} (h : s.Direct)
    (hwork : s.work = .out o :: rest) : (s.library rest o).Direct := by
  have hgiven := h.given
  rw [hwork] at hgiven
  cases o with
  -- the muxer is not in the path of PS data
  | psMuxerInput => exact absurd (hwork ▸ List.mem_cons_self) (h.plain _)
  | rtpPacketInput handle ssrc data ts =>
    refine ⟨fun w hw => ?_, ?_⟩
    · rcases List.mem_append.mp hw with hw | hw
      · obtain ⟨p, _, rfl⟩ := List.mem_map.mp hw
        trivial
      · exact h.rest hwork w hw
    · show s.given ++ [data] ++ waiting (_ ++ rest) = s.psData
      rw [waiting_packets, List.append_assoc]
      exact hgiven
  | _ => exact ⟨h.rest hwork, hgiven⟩

lemma Direct.step (h : s.Direct) (hrtp : 0 < s.session.hRtpPS) {a : MediaAction} (ha : a.AsAsked)
    (hs : s.step a = some s') : s'.Direct := by
  cases a with
  | realData type pBuffer =>
    rw [MediaPath.step] at hs
    split_ifs at hs with hwork
    rw [← Option.some.inj hs]
    cases type with
    | h264 => exact absurd rfl ha
    | gbps =>
      have hcall := direct_gbps pBuffer h (List.isEmpty_iff.mp hwork) hrtp (Or.inl rfl)
      rw [List.append_nil] at hcall
      exact hcall
    | other => exact direct_other h (List.isEmpty_iff.mp hwork)
  | recordData type pBuffer =>
    rw [MediaPath.step] at hs
    split_ifs at hs with hwork
    rw [← Option.some.inj hs]
    cases type with
    | h264 => exact absurd rfl ha
    | gbps => exact direct_gbps pBuffer h (List.isEmpty_iff.mp hwork) hrtp (Or.inr rfl)
    | other => exact direct_other h (List.isEmpty_iff.mp hwork)
  | go =>
    rw [MediaPath.step] at hs
    split at hs
    next => exact nomatch hs
    next o rest hwork =>
      rw [← Option.some.inj hs]
      exact h.library hwork
    next packet rest hwork => exact absurd (hwork ▸ List.mem_cons_self) (h.plain (.psWrite packet))
    next data rest hwork =>
      rw [← Option.some.inj hs]
      have hgiven := h.given
      rw [hwork] at hgiven
      exact ⟨h.rest hwork, hgiven⟩
  | stopSession =>
    rw [← Option.some.inj hs]
    exact ⟨h.plain, h.given⟩
  | disconnetMS val =>
    rw [MediaPath.step] at hs
    split_ifs at hs
    rw [← Option.some.inj hs]
    exact ⟨h.plain, h.given⟩

/-- What the RTP library is given in a run with data of the type that is asked for. -/
lemma Inv.given_of_run {t : MediaPath L} (hL : Short L) (h : s.Inv session packetizer)
    (hd : s.Direct) (hrtp : 0 < session.hRtpPS) {as : List MediaAction}
    (has : ∀ a ∈ as, a.AsAsked) (hrun : Run.run MediaPath.step s as = some t) : t.Direct := by
  have hmeets : Run.Meets MediaPath.step (fun _ a => a.AsAsked) s as :=
    Run.meets_of_forall (fun a ha _ => has a ha) s
  have hinv : t.Inv session packetizer ∧ t.Direct :=
    Run.run_invariant (I := fun t => t.Inv session packetizer ∧ t.Direct)
      (fun t a t' ht ha hs => by
        have heq : t.session.hRtpPS = session.hRtpPS := congrArg Prod.fst ht.1.rtpInput
        exact ⟨ht.1.step hL (step_move hs), ht.2.step (heq ▸ hrtp) ha hs⟩) ⟨h, hd⟩ hmeets hrun
  exact hinv.2

/-- What the media server reads from the stream of a session is, packet by packet, a part from the
beginning of what the RTP library makes of its inputs. While nobody stops the session and no write
fails, all of them are written but the last one or two; afterwards nothing is. Where the device
sends PS data, as it is asked to, these inputs are what it sends. -/
theorem media_received (hL : Short L) (hstarted : PlaySession.AsStarted session.toPlaySession)
    (hrunning : session.isRun = true) (hconn : session.nMediaClient ≠ 0) {writeResult : ℕ → ℤ}
    {muxer : L.Muxer} {as : List MediaAction}
    (hrun : Run.run step (start session writeResult muxer packetizer) as = some s) :
    (∃ qs, qs <+: (L.packets session.inputHandle session.inputSsrc packetizer s.given).2 ∧
      readFrames s.env.sent = some qs ∧
      (s.stopped = false → ¬ s.env.Failed → s.work = [] → ∃ held, held.length ≤ 2 ∧
        (L.packets session.inputHandle session.inputSsrc packetizer s.given).2 = qs ++ held)) ∧
    (s.stopped = true ∨ s.env.Failed → ∀ bs t, Run.run step s bs = some t → t.env = s.env) ∧
    (0 < session.hRtpPS → (∀ a ∈ as, a.AsAsked) → s.work = [] → s.given = s.psData) := by
  have hstart : (start session writeResult muxer packetizer).Inv session packetizer :=
    inv_start hstarted hrunning hconn writeResult muxer
  have h : s.Inv session packetizer :=
    Run.reachable_invariant (fun _ _ _ h hs => h.step hL (step_move hs)) hstart hrun
  -- packets of this size are framed so that the reader finds them again
  have hread : ∀ {qs}, qs <+: s.made → readFrames (frames qs) = some qs := by
    intro qs hqs
    refine readFrames_frames fun q hq => ?_
    have hlen := hL.packets session.inputHandle session.inputSsrc packetizer s.given q
      (by rw [h.made]; exact hqs.subset hq)
    omega
  rw [h.made]
  obtain ⟨ps, pending, rest, hmade, hwork, _, hstreams⟩ := h.order
  refine ⟨?_, ?_, fun hrtp has hidle => ?_⟩
  · cases hstreams with
    | live hgoing hframed hholds =>
      obtain ⟨qs, held, hps, hsent, _, hlag⟩ := hholds
      have hqs : qs <+: s.made := by
        rw [hmade, hps, List.append_assoc]
        exact List.prefix_append _ _
      refine ⟨qs, hqs, hsent ▸ hread hqs, fun _ _ hidle => ⟨held, hlag.length_le, ?_⟩⟩
      -- no work is left, so each packet is sent or in the buffer
      have hnone : pending = [] := by
        rw [hidle] at hwork
        exact List.map_eq_nil_iff.mp (List.append_eq_nil_iff.mp hwork.symm).1
      show s.made = qs ++ held
      rw [hmade, hnone, List.append_nil, hps]
    | ended _ hended hsent =>
      obtain ⟨qs, hqs, hsent⟩ := hsent
      have hqs : qs <+: s.made := hqs.trans (hmade ▸ List.prefix_append _ _)
      refine ⟨qs, hqs, hsent ▸ hread hqs, fun hgoing hok _ => ?_⟩
      rcases hended with hstopped | hfailed
      · exact absurd (hgoing.symm.trans hstopped) (by decide)
      · exact absurd hfailed hok
  · intro hended bs t hbs
    cases hstreams with
    | live hgoing hframed _ =>
      rcases hended with hstopped | hfailed
      · exact absurd (hgoing.symm.trans hstopped) (by decide)
      · exact absurd hfailed hframed.ok
    | ended hover => exact env_of_run hover hbs
  · have hdirect : (start session writeResult muxer packetizer).Direct :=
      ⟨fun w hw => absurd hw List.not_mem_nil, rfl⟩
    have hgiven := (hstart.given_of_run hL hdirect hrtp has hrun).given
    rw [hidle] at hgiven
    exact (List.append_nil _).symm.trans hgiven

def bigEndian (width n : ℕ) : List UInt8 :=
  (List.range width).reverse.map fun i => UInt8.ofNat (n / 256 ^ i)

/-- A header of version 2 with the payload type 96, and the data that fits into a packet. -/
def rtpPacket (seq timestamp : ℕ) (ssrc : UInt32) (data : List UInt8) : List UInt8 :=
  [0x80, 96] ++ bigEndian 2 seq ++ bigEndian 4 timestamp ++ bigEndian 4 ssrc.toNat ++ data.take 1400

def onePacket : MediaLibs where
  Muxer := Unit
  Packetizer := ℕ
  psMuxerInput _ _ _ data := ((), [data])
  rtpPacketInput seq _ ssrc data := (seq + 1, [rtpPacket seq (seq * 3600) ssrc data])

lemma short_onePacket : Short onePacket := by
  intro seq _ ssrc data p hp
  rw [List.mem_singleton.mp hp]
  have htake := List.length_take_le 1400 data
  simp only [rtpPacket, bigEndian, List.length_append, List.length_map, List.length_reverse,
    List.length_range, List.length_cons, List.length_nil]
  omega

/-- A real-time stream that was started with a connection to the media server. -/
def realStream : Leftover.Session where
  toPlaySession := ((realSession .zeroed ⟨9001, 8, 1, "172.20.0.245:37777:admin"⟩
    ⟨"CHANNEL_PLAY", "49550", "1700733608331580", 3, 0, "", "s3", "", 30000, "", "172.20.0.10", ""⟩
    ⟨(0, 7), 1, (0, 5), 42, 0⟩).startRealPlaySession ⟨true, 55, true, true, 0, 0⟩).session
  sBuffer := 0
  videoPTS := 0
  alimod := 0
  isFrist := true
  nSpeed := 1
  bPause := false

def streaming : MediaPath onePacket :=
  start realStream (fun _ => 0) () (0 : ℕ)

/-- Two buffers of PS data and what the library makes of them. -/
def twoBuffers : List MediaAction :=
  [.realData .gbps [1, 2], .go, .go, .realData .gbps [3], .go, .go]

theorem media_received_two :
    ∃ s, Run.run step streaming twoBuffers = some s ∧
      s.given = [[1, 2], [3]] ∧ ∃ qs, qs <+: s.made ∧ readFrames s.env.sent = some qs := by
  have hrun : Run.run step streaming twoBuffers = some _ := rfl
  have hstarted : PlaySession.AsStarted realStream.toPlaySession := .real _ _ _ _ _
  have hasked : ∀ a ∈ twoBuffers, a.AsAsked := by simp [twoBuffers, MediaAction.AsAsked]
  obtain ⟨⟨qs, hqs, hread, _⟩, _, hgiven⟩ :=
    media_received short_onePacket hstarted rfl (by decide) hrun
  exact ⟨_, hrun, hgiven (by decide) hasked rfl, qs, hqs, hread⟩

end MediaPath

end DHGateway
