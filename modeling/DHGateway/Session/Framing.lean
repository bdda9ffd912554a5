import DHGateway.Core.Interleaved
import DHGateway.Session.SessionMange

/-!
# Media framing

What `sendMS` hands to the media server. A send buffer is flushed before every packet, but for
the packet after the one that was stamped `gb28181VideoStartTimestampFlag`: there two frames can
share the buffer, and this is why it has room for two packets.
-/

namespace DHGateway

open Interleaved

namespace PlaySession

/-! ### One call of `sendMS` -/

lemma bytes16_htons {n : ℕ} (h : n < 65536) :
    bytes16 (htons (UInt16.ofNat n)) = [UInt8.ofNat (n / 256), UInt8.ofNat (n % 256)] := by
  have hn : (UInt16.ofNat n).toNat = n := by simp; omega
  have hs : (htons (UInt16.ofNat n)).toNat = n % 256 * 256 + n / 256 := by
    simp only [htons, hn, UInt16.toNat_ofNat']
    omega
  have hhi : (n % 256 * 256 + n / 256) % 256 = n / 256 := by omega
  have hlo : (n % 256 * 256 + n / 256) / 256 = n % 256 := by omega
  rw [bytes16, hs, hhi, hlo]

lemma storeFrame_buffered (s : PlaySession) (env : SendEnv) {p : List UInt8}
    (h : p.length < 65536) : (s.storeFrame env p).1.buffered = s.buffered ++ frame p := by
  have hcopy : (s.storeFrame env p).1.szSendRtpVideoMediaBuffer =
      ByteMem.memcpy s.szSendRtpVideoMediaBuffer s.nSendRtpVideoMediaBufferLength (frame p) := by
    -- the four copies lie one behind the other: `$`, the channel, the length and the packet
    have h₁ := ByteMem.memcpy_memcpy s.szSendRtpVideoMediaBuffer
      s.nSendRtpVideoMediaBufferLength [0x24] [0]
    have h₂ := ByteMem.memcpy_memcpy s.szSendRtpVideoMediaBuffer
      s.nSendRtpVideoMediaBufferLength [0x24, 0] (bytes16 (htons (UInt16.ofNat p.length)))
    have h₃ := ByteMem.memcpy_memcpy s.szSendRtpVideoMediaBuffer
      s.nSendRtpVideoMediaBufferLength (header p.length) p
    simp only [List.length_cons, List.length_nil, Nat.zero_add, List.cons_append,
      List.nil_append] at h₁ h₂
    simp only [bytes16_htons h] at h₂
    simp only [storeFrame, Nat.add_zero, bytes16_htons h, h₁, h₂]
    exact h₃
  have hlen : p.length + 4 = (frame p).length := by simp
  simp only [buffered, hcopy]
  simp only [storeFrame, hlen]
  exact ByteMem.read_memcpy _ _ _

lemma flushBuffer_ok (s : PlaySession) {env : SendEnv}
    (h : env.writeResult env.writes.length = 0) :
    s.flushBuffer env = (0, { s with nSendRtpVideoMediaBufferLength := 0 },
      { env with writes := env.writes ++ [Write.mk s.nMediaClient s.buffered 0] }) := by
  simp [flushBuffer, h]

lemma flushBuffer_fail (s : PlaySession) {env : SendEnv}
    (h : env.writeResult env.writes.length ≠ 0) :
    s.flushBuffer env = (env.writeResult env.writes.length,
      { s with isRun := false, nMediaClient := 0 },
      { env with writes := env.writes ++
          [Write.mk s.nMediaClient s.buffered (env.writeResult env.writes.length)] }) := by
  simp [flushBuffer, h]

/-- What a call of `sendMS` on a running session can do: a write fails, or the packet goes into
the emptied buffer, or it goes behind what is buffered and `newFrame` did not ask for a flush. -/
theorem sendMS_cases (s : PlaySession) (env : SendEnv) (p : List UInt8) (h : s.isRun = true) :
    (∃ ret : ℤ, ret ≠ 0 ∧ (s.sendMS env p).2.1.isRun = false ∧
      (s.sendMS env p).2.1.nMediaClient = 0 ∧ (s.sendMS env p).2.2 =
        { env with writes := env.writes ++ [Write.mk s.nMediaClient s.buffered ret] }) ∨
    (s.nMediaClient ≠ 0 ∧ (s.sendMS env p).2 =
      { s.tick with nSendRtpVideoMediaBufferLength := 0 }.storeFrame
        { env with writes := env.writes ++ [Write.mk s.nMediaClient s.buffered 0] } p) ∨
    (¬ s.tick.newFrame ∧ (s.sendMS env p).2 = s.tick.storeFrame env p) := by
  have hrun : ¬ s.isRun = false := by simp [h]
  by_cases h₁ : s.spaceShort p.length
  · by_cases hw : env.writeResult env.writes.length = 0
    · -- the first flush: the frame that follows finds the buffer empty, so there is no second one
      right; left
      refine ⟨h₁.1, ?_⟩
      have h₂ : ¬ ({ s with nSendRtpVideoMediaBufferLength := 0 } : PlaySession).tick.newFrame :=
        fun hn => absurd hn.2.2.2 (Nat.lt_irrefl 0)
      rw [sendMS, if_neg hrun, if_pos h₁, flushBuffer_ok s hw]
      simp only [ne_eq, not_true_eq_false, if_false, if_neg h₂]
      rfl
    · left
      refine ⟨_, hw, ?_⟩
      rw [sendMS, if_neg hrun, if_pos h₁, flushBuffer_fail s hw]
      simp only [ne_eq, hw, not_false_eq_true, if_true, and_self]
  · by_cases h₂ : s.tick.newFrame
    · by_cases hw : env.writeResult env.writes.length = 0
      · -- the second flush, before the packet of a new picture
        right; left
        refine ⟨h₂.1, ?_⟩
        rw [sendMS, if_neg hrun, if_neg h₁]
        simp only [ne_eq, not_true_eq_false, if_false, if_pos h₂, flushBuffer_ok s.tick hw]
        rfl
      · left
        refine ⟨_, hw, ?_⟩
        rw [sendMS, if_neg hrun, if_neg h₁]
        simp only [ne_eq, not_true_eq_false, if_false, if_pos h₂, flushBuffer_fail s.tick hw, hw,
          not_false_eq_true, if_true, true_and]
        rfl
    · -- no flush: the packet is put behind what is there
      right; right
      refine ⟨h₂, ?_⟩
      rw [sendMS, if_neg hrun, if_neg h₁]
      simp only [ne_eq, not_true_eq_false, if_false, if_neg h₂]

lemma sendMS_stopped {s : PlaySession} (env : SendEnv) (p : List UInt8) (h : s.isRun = false) :
    (s.sendMS env p).2 = (s, env) := by
  simp [sendMS, h]

/-! ### The bytes sent and the bounds of the stores -/

/-- The surroundings of a session that has sent nothing, for given results of the writes. -/
def SendEnv.start (writeResult : ℕ → ℤ) : SendEnv :=
  ⟨writeResult, [], []⟩

def SendEnv.sent (env : SendEnv) : List UInt8 :=
  env.writes.flatMap fun w => if w.ret = 0 then w.data else []

def SendEnv.Failed (env : SendEnv) : Prop :=
  ∃ w ∈ env.writes, w.ret ≠ 0

def SendEnv.InBounds (env : SendEnv) : Prop :=
  ∀ r ∈ env.stores, r.1 + r.2 ≤ maxGB28181RtpSendVideoMediaBufferLength

lemma SendEnv.sent_write (env : SendEnv) (h : NETHANDLE) (data : List UInt8) (ret : ℤ) :
    SendEnv.sent { env with writes := env.writes ++ [Write.mk h data ret] } =
      env.sent ++ if ret = 0 then data else [] := by
  simp [SendEnv.sent]

lemma SendEnv.failed_write (env : SendEnv) (h : NETHANDLE) (data : List UInt8) (ret : ℤ) :
    SendEnv.Failed { env with writes := env.writes ++ [Write.mk h data ret] } ↔
      env.Failed ∨ ret ≠ 0 := by
  simp [SendEnv.Failed, or_and_right, exists_or]

@[simp] lemma storeFrame_sent (s : PlaySession) (env : SendEnv) (p : List UInt8) :
    (s.storeFrame env p).2.sent = env.sent := rfl

@[simp] lemma storeFrame_failed (s : PlaySession) (env : SendEnv) (p : List UInt8) :
    (s.storeFrame env p).2.Failed ↔ env.Failed := Iff.rfl

lemma storeFrame_inBounds (s : PlaySession) (env : SendEnv) (p : List UInt8) :
    (s.storeFrame env p).2.InBounds ↔ env.InBounds ∧
      s.nSendRtpVideoMediaBufferLength + (p.length + 4) ≤
        maxGB28181RtpSendVideoMediaBufferLength := by
  simp only [SendEnv.InBounds, storeFrame, List.forall_mem_append, List.forall_mem_singleton]

/-! ### A connected session -/

/-- How far the buffer of a connected session can be filled. Only a packet stamped with the flag
leaves its frame there for the next one, whose own stamp is not the flag. -/
def Room (s : PlaySession) : Prop :=
  s.nSendRtpVideoMediaBufferLength = 0 ∨
    s.nStartVideoTimestamp = s.nCurrentVideoTimestamp ∧
      (s.nSendRtpVideoMediaBufferLength ≤ 32768 ∨
        s.nStartVideoTimestamp ≠ gb28181VideoStartTimestampFlag ∧
          s.nSendRtpVideoMediaBufferLength ≤ maxGB28181RtpSendVideoMediaBufferLength)

/-- A connected session after the packets `ps`, no write having failed. -/
structure Framed (ps : List (List UInt8)) (s : PlaySession) (env : SendEnv) : Prop where
  isRun : s.isRun = true
  connected : s.nMediaClient ≠ 0
  ok : ¬ env.Failed
  split : ∃ qs rs, ps = qs ++ rs ∧ env.sent = frames qs ∧ s.buffered = frames rs
  room : s.Room
  inBounds : env.InBounds

/-- A session after the packets `ps`, a write having failed. -/
structure Broken (ps : List (List UInt8)) (s : PlaySession) (env : SendEnv) : Prop where
  isRun : s.isRun = false
  failed : env.Failed
  sent : ∃ qs, qs <+: ps ∧ env.sent = frames qs
  inBounds : env.InBounds

lemma Room.le {s : PlaySession} (h : s.Room) :
    s.nSendRtpVideoMediaBufferLength ≤ maxGB28181RtpSendVideoMediaBufferLength := by
  rcases h with h | ⟨_, h | ⟨_, h⟩⟩
  · omega
  · exact le_trans h (by decide)
  · exact h

/-- There is room for a packet that comes without a flush. -/
lemma Room.tick_storeFrame {s : PlaySession} (env : SendEnv) {p : List UInt8} (h : s.Room)
    (hc : s.nMediaClient ≠ 0) (hn : ¬ s.tick.newFrame) (hp : p.length ≤ 32764) :
    (s.tick.storeFrame env p).1.Room ∧
      s.nSendRtpVideoMediaBufferLength + (p.length + 4) ≤
        maxGB28181RtpSendVideoMediaBufferLength := by
  have hmax : maxGB28181RtpSendVideoMediaBufferLength = 65536 := rfl
  simp only [newFrame, tick] at hn
  simp only [Room, storeFrame, tick, true_and]
  rcases h with h | ⟨hst, hlen⟩
  · refine ⟨Or.inr (Or.inl ?_), ?_⟩ <;> omega
  · by_cases hpos : s.nSendRtpVideoMediaBufferLength = 0
    · refine ⟨Or.inr (Or.inl ?_), ?_⟩ <;> omega
    · -- no flush although bytes are buffered: the last packet was stamped with the flag
      have hflag : s.nStartVideoTimestamp = gb28181VideoStartTimestampFlag := by
        by_contra hne
        refine hn ⟨hc, hne, ?_, by omega⟩
        rw [hst]
        intro heq
        have hone : (1 : UInt32) = 0 := by
          rw [← UInt32.add_right_inj s.nCurrentVideoTimestamp, ← heq, UInt32.add_zero]
        exact absurd hone (by decide)
      have hsmall : s.nSendRtpVideoMediaBufferLength ≤ 32768 := by
        rcases hlen with hlen | ⟨hne, _⟩
        · exact hlen
        · exact absurd hflag hne
      have hnext : s.nCurrentVideoTimestamp + 1 ≠ gb28181VideoStartTimestampFlag := by
        rw [← hst, hflag]
        decide
      refine ⟨Or.inr (Or.inr ⟨hnext, ?_⟩), ?_⟩ <;> omega

lemma Framed.sendMS {ps : List (List UInt8)} {s : PlaySession} {env : SendEnv}
    (h : Framed ps s env) {p : List UInt8} (hp : p.length ≤ 32764) :
    Framed (ps ++ [p]) (s.sendMS env p).2.1 (s.sendMS env p).2.2 ∨
      Broken (ps ++ [p]) (s.sendMS env p).2.1 (s.sendMS env p).2.2 := by
  have hmax : maxGB28181RtpSendVideoMediaBufferLength = 65536 := rfl
  obtain ⟨qs, rs, hps, hsent, hbuf⟩ := h.split
  rcases sendMS_cases s env p h.isRun with ⟨ret, hret, hstop, _, henv⟩ | ⟨_, heq⟩ | ⟨hn, heq⟩
  · right
    rw [henv]
    refine ⟨hstop, ?_, ⟨qs, ?_, ?_⟩, h.inBounds⟩
    · exact (SendEnv.failed_write _ _ _ _).mpr (Or.inr hret)
    · rw [hps, List.append_assoc]
      exact List.prefix_append _ _
    · rw [SendEnv.sent_write, if_neg hret, List.append_nil, hsent]
  · left
    rw [heq]
    refine ⟨h.isRun, h.connected, ?_, ⟨qs ++ rs, [p], by rw [hps], ?_, ?_⟩, ?_, ?_⟩
    · rw [storeFrame_failed, SendEnv.failed_write]
      rintro (hf | hf)
      · exact h.ok hf
      · exact hf rfl
    · rw [storeFrame_sent, SendEnv.sent_write, if_pos rfl, hsent, hbuf, frames_append]
    · rw [storeFrame_buffered _ _ (by omega)]
      simp [buffered]
    · refine Or.inr ⟨rfl, Or.inl ?_⟩
      simp only [storeFrame]
      omega
    · rw [storeFrame_inBounds]
      refine ⟨h.inBounds, ?_⟩
      show 0 + (p.length + 4) ≤ _
      omega
  · left
    obtain ⟨hroom, hfit⟩ := h.room.tick_storeFrame env h.connected hn hp
    rw [heq]
    refine ⟨h.isRun, h.connected, h.ok, ⟨qs, rs ++ [p], ?_, hsent, ?_⟩, hroom, ?_⟩
    · rw [hps, List.append_assoc]
    · rw [storeFrame_buffered _ _ (by omega), frames_append]
      show s.buffered ++ frame p = _
      rw [hbuf]
      simp
    · rw [storeFrame_inBounds]
      exact ⟨h.inBounds, hfit⟩

lemma Broken.sendMS {ps : List (List UInt8)} {s : PlaySession} {env : SendEnv}
    (h : Broken ps s env) (p : List UInt8) :
    Broken (ps ++ [p]) (s.sendMS env p).2.1 (s.sendMS env p).2.2 := by
  obtain ⟨qs, hqs, hsent⟩ := h.sent
  rw [sendMS_stopped env p h.isRun]
  exact ⟨h.isRun, h.failed, ⟨qs, hqs.trans (List.prefix_append _ _), hsent⟩, h.inBounds⟩

lemma Broken.sendAll {ps : List (List UInt8)} {s : PlaySession} {env : SendEnv}
    (h : Broken ps s env) (rs : List (List UInt8)) :
    Broken (ps ++ rs) (s.sendAll env rs).1 (s.sendAll env rs).2 := by
  induction rs generalizing ps s env with
  | nil => simpa [PlaySession.sendAll] using h
  | cons p rs ih => simpa [PlaySession.sendAll] using ih (h.sendMS p)

lemma Framed.sendAll {ps : List (List UInt8)} {s : PlaySession} {env : SendEnv}
    (h : Framed ps s env) {rs : List (List UInt8)} (hlen : ∀ p ∈ rs, p.length ≤ 32764) :
    Framed (ps ++ rs) (s.sendAll env rs).1 (s.sendAll env rs).2 ∨
      Broken (ps ++ rs) (s.sendAll env rs).1 (s.sendAll env rs).2 := by
  induction rs generalizing ps s env with
  | nil => exact Or.inl (by simpa [PlaySession.sendAll] using h)
  | cons p rs ih =>
    have hrest : ∀ q ∈ rs, q.length ≤ 32764 := fun q hq => hlen q (List.mem_cons_of_mem _ hq)
    rcases h.sendMS (hlen p List.mem_cons_self) with hf | hb
    · simpa [PlaySession.sendAll] using ih hf hrest
    · right
      simpa [PlaySession.sendAll] using hb.sendAll rs

lemma Framed.start {s : PlaySession} (writeResult : ℕ → ℤ) (hconn : s.nMediaClient ≠ 0)
    (hrun : s.isRun = true) (hempty : s.nSendRtpVideoMediaBufferLength = 0) :
    Framed [] s (SendEnv.start writeResult) where
  isRun := hrun
  connected := hconn
  ok := by simp [SendEnv.Failed, SendEnv.start]
  split := ⟨[], [], rfl, rfl, by simp [buffered, hempty]⟩
  room := Or.inl hempty
  inBounds := by simp [SendEnv.InBounds, SendEnv.start]

/-- What a connected session hands to the media server: the frames of a prefix of the packets,
and while no write has failed the frames of all of them are sent or buffered. -/
theorem sendAll_framing (s : PlaySession) (writeResult : ℕ → ℤ) (ps : List (List UInt8))
    (hconn : s.nMediaClient ≠ 0) (hrun : s.isRun = true)
    (hempty : s.nSendRtpVideoMediaBufferLength = 0) (hlen : ∀ p ∈ ps, p.length ≤ 32764) :
    (∃ qs, qs <+: ps ∧ (s.sendAll (SendEnv.start writeResult) ps).2.sent = frames qs ∧
      readFrames (s.sendAll (SendEnv.start writeResult) ps).2.sent = some qs) ∧
    (¬ (s.sendAll (SendEnv.start writeResult) ps).2.Failed →
      (s.sendAll (SendEnv.start writeResult) ps).2.sent ++
          (s.sendAll (SendEnv.start writeResult) ps).1.buffered = frames ps ∧
        (s.sendAll (SendEnv.start writeResult) ps).1.nSendRtpVideoMediaBufferLength ≤
          maxGB28181RtpSendVideoMediaBufferLength ∧
        readFrames ((s.sendAll (SendEnv.start writeResult) ps).2.sent ++
          (s.sendAll (SendEnv.start writeResult) ps).1.buffered) = some ps) := by
  have hread : ∀ {qs : List (List UInt8)}, qs <+: ps → readFrames (frames qs) = some qs := by
    intro qs hqs
    apply readFrames_frames
    intro q hq
    have := hlen q (hqs.subset hq)
    omega
  have hinv := (Framed.start writeResult hconn hrun hempty).sendAll hlen
  rw [List.nil_append] at hinv
  -- either no write has failed, or the session has stopped at the first that did
  rcases hinv with hf | hb
  · obtain ⟨qs, rs, hps, hsent, hbuf⟩ := hf.split
    have hpre : qs <+: ps := ⟨rs, hps.symm⟩
    have hall : (s.sendAll (SendEnv.start writeResult) ps).2.sent ++
        (s.sendAll (SendEnv.start writeResult) ps).1.buffered = frames ps := by
      rw [hsent, hbuf, hps, frames_append]
    refine ⟨⟨qs, hpre, hsent, hsent ▸ hread hpre⟩, fun _ => ⟨hall, hf.room.le, ?_⟩⟩
    rw [hall]
    exact hread List.prefix_rfl
  · obtain ⟨qs, hqs, hsent⟩ := hb.sent
    exact ⟨⟨qs, hqs, hsent, hsent ▸ hread hqs⟩, fun hok => absurd hb.failed hok⟩

/-- Two packets on a connection whose second write fails: the first frame is sent. -/
theorem sendAll_framing_two_packets :
    (({ zeroed with nMediaClient := 7, isRun := true }.sendAll
        (SendEnv.start fun i => if i = 0 then 0 else 1) [[1], [2], [3]]).2.sent =
      [0x24, 0, 0, 1, 1]) ∧
    ∃ qs, qs <+: [[1], [2], [3]] ∧
      ({ zeroed with nMediaClient := 7, isRun := true }.sendAll
        (SendEnv.start fun i => if i = 0 then 0 else 1) [[1], [2], [3]]).2.sent = frames qs := by
  refine ⟨by decide, ?_⟩
  obtain ⟨⟨qs, hqs, hsent, _⟩, _⟩ :=
    sendAll_framing { zeroed with nMediaClient := 7, isRun := true }
      (fun i => if i = 0 then 0 else 1) [[1], [2], [3]] (by decide) rfl rfl (by decide)
  exact ⟨qs, hqs, hsent⟩

/-! ### Sessions as they are started -/

/-- A session as `start_real_stream` or `start_play_back` leave it. -/
inductive AsStarted : PlaySession → Prop where
  | real (mem : PlaySession) (login : LoginResults) (realPlay : Play) (media : MediaAnswers)
      (a : StartAnswers) :
      AsStarted ((realSession mem login realPlay media).startRealPlaySession a).session
  | record (mem : PlaySession) (times : NetTimes) (login : LoginResults) (record : Record)
      (media : MediaAnswers) (a : StartAnswers) :
      AsStarted ((recordSession mem login record media).startRecordPlaySession times a
        record).session

lemma AsStarted.buffer {s : PlaySession} (h : AsStarted s) :
    s.nSendRtpVideoMediaBufferLength = 0 := by
  cases h with
  | real mem login realPlay media a =>
    simp only [startRealPlaySession]
    split <;> exact realSession_buffer mem login realPlay media
  | record mem times login record media a =>
    simp only [startRecordPlaySession]
    split_ifs <;> exact recordSession_buffer mem login record media

lemma sendMS_unconnected {s : PlaySession} (env : SendEnv) (p : List UInt8)
    (hrun : s.isRun = true) (hconn : s.nMediaClient = 0) :
    (s.sendMS env p).2 = s.tick.storeFrame env p := by
  have hrun : ¬ s.isRun = false := by simp [hrun]
  have h₁ : ¬ s.spaceShort p.length := fun h => h.1 hconn
  have h₂ : ¬ s.tick.newFrame := fun h => h.1 hconn
  rw [sendMS, if_neg hrun, if_neg h₁]
  simp only [ne_eq, not_true_eq_false, if_false, if_neg h₂]

/-- Without a connection the packets pile up, and the last store is the farthest. -/
lemma sendAll_unconnected (ps : List (List UInt8)) {s : PlaySession} {env : SendEnv}
    (hrun : s.isRun = true) (hconn : s.nMediaClient = 0) :
    (s.sendAll env ps).2.InBounds ↔ env.InBounds ∧
      (ps ≠ [] → s.nSendRtpVideoMediaBufferLength + (frames ps).length ≤
        maxGB28181RtpSendVideoMediaBufferLength) := by
  induction ps generalizing s env with
  | nil => simp [sendAll]
  | cons p ps ih =>
    have hstep := sendMS_unconnected env p hrun hconn
    -- without a connection neither flush runs, so the frames pile up
    have hnext := @ih (s.tick.storeFrame env p).1 (s.tick.storeFrame env p).2 hrun hconn
    have hlen : (s.tick.storeFrame env p).1.nSendRtpVideoMediaBufferLength =
        s.nSendRtpVideoMediaBufferLength + (p.length + 4) := rfl
    have hfit : (s.tick.storeFrame env p).2.InBounds ↔ env.InBounds ∧
        s.nSendRtpVideoMediaBufferLength + (p.length + 4) ≤
          maxGB28181RtpSendVideoMediaBufferLength := storeFrame_inBounds s.tick env p
    rw [sendAll]
    simp only [hstep]
    rw [hnext, hfit, hlen, and_assoc]
    apply and_congr_right
    intro _
    rw [frames_cons, List.length_append, length_frame]
    cases ps with
    | nil => simp
    | cons q qs =>
      constructor
      · rintro ⟨_, h⟩ _
        have := h (List.cons_ne_nil q qs)
        omega
      · intro h
        have := h (List.cons_ne_nil p (q :: qs))
        exact ⟨by omega, fun _ => by omega⟩

/-- When the send buffer of a running session is not overrun: its connection was made, or the
frames of all packets fit. -/
theorem sendBuffer_inBounds_iff (s : PlaySession) (writeResult : ℕ → ℤ) (ps : List (List UInt8))
    (hs : AsStarted s) (hrun : s.isRun = true) (hlen : ∀ p ∈ ps, p.length ≤ 32764) :
    (s.sendAll (SendEnv.start writeResult) ps).2.InBounds ↔
      s.nMediaClient ≠ 0 ∨
        (ps.map fun p => p.length + 4).sum ≤ maxGB28181RtpSendVideoMediaBufferLength := by
  rw [← length_frames]
  by_cases hconn : s.nMediaClient = 0
  · have hstart : (SendEnv.start writeResult).InBounds := by
      simp [SendEnv.InBounds, SendEnv.start]
    rw [sendAll_unconnected ps hrun hconn, hs.buffer, Nat.zero_add]
    constructor
    · rintro ⟨_, h⟩
      by_cases hps : ps = []
      · exact Or.inr (by simp [hps])
      · exact Or.inr (h hps)
    · rintro (h | h)
      · exact absurd hconn h
      · exact ⟨hstart, fun _ => h⟩
  · -- with a connection the flush before the copy keeps the length below the buffer's
    refine ⟨fun _ => Or.inl hconn, fun _ => ?_⟩
    rcases (Framed.start writeResult hconn hrun hs.buffer).sendAll hlen with hf | hb
    · exact hf.inBounds
    · exact hb.inBounds

/-- A real-time session of which the device stream was started and the media server refused the
connection. -/
def unconnected : PlaySession :=
  ((realSession zeroed ⟨3, 8, 0, "10.0.0.2:37777:admin"⟩
      ⟨"CHANNEL_PLAY", "1", "d1", 0, 2, "", "s1", "10.0.0.9", 9000, "", "10.0.0.9", ""⟩
      ⟨(-1, 0), 1, (0, 1), 0, 1⟩).startRealPlaySession ⟨true, 5, true, true, 0, 0⟩).session

lemma asStarted_unconnected : AsStarted unconnected :=
  AsStarted.real _ _ _ _ _

/-- The third packet of 32764 bytes is stored behind the end of the buffer of an unconnected
session. -/
theorem unconnected_overrun :
    AsStarted unconnected ∧ unconnected.isRun = true ∧ unconnected.nMediaClient = 0 ∧
      (∀ p ∈ List.replicate 3 (List.replicate 32764 (0 : UInt8)), p.length ≤ 32764) ∧
      ¬ (unconnected.sendAll (SendEnv.start fun _ => 0)
        (List.replicate 3 (List.replicate 32764 0))).2.InBounds := by
  refine ⟨asStarted_unconnected, rfl, rfl, ?_, ?_⟩
  · intro p hp
    rw [List.eq_of_mem_replicate hp, List.length_replicate]
  · rw [sendAll_unconnected _ rfl rfl]
    rintro ⟨_, h⟩
    have hover := h (by rw [ne_eq, List.replicate_eq_nil_iff]; decide)
    rw [length_frames, List.map_replicate, List.length_replicate] at hover
    exact absurd hover (by decide)

/-- One packet of an unconnected session is inside the buffer. -/
theorem sendBuffer_inBounds_iff_unconnected :
    (unconnected.sendAll (SendEnv.start fun _ => 0) [[1, 2, 3]]).2.InBounds :=
  (sendBuffer_inBounds_iff unconnected (fun _ => 0) [[1, 2, 3]] asStarted_unconnected rfl
    (by decide)).mpr (Or.inr (by decide))

end PlaySession

end DHGateway
