import Mathlib.Data.List.Nodup
import DHGateway.Core.Calendar
import DHGateway.Core.Run
import DHGateway.Message.Build

/-!
# Identifiers of the gateway's own messages

`server_manage` and `client_manage` have a `gateway_msg` of their own, each with its own counter.
Both number messages with the prefix `h_`: the first the sign-in and the first heartbeat, the second
the heartbeats after that and the repeated sign-ins.
-/

namespace DHGateway

open Json

namespace MsgIds

/-- How far `start_server` has come. -/
inductive Stage where
  | starting
  | signedIn
  | running
  deriving DecidableEq

/-- The process: whether the heartbeat thread runs, the counters of `server_manage::gm` and
`client_manage::gm`, and the messages built for sending. -/
structure Process where
  stage : Stage
  heartbeats : Bool
  server : ℤ
  client : ℤ
  sent : List Json

/-- The builders' calls, with the clock's texts and the address of the host, and the start of the
heartbeat thread in `connet_business`. -/
inductive Event where
  | signIn (localIp time : String) (milliseconds : ℤ)
  | firstHeartbeat (time : String) (milliseconds : ℤ)
  | reSignIn (localIp time : String) (milliseconds : ℤ)
  | connetBusiness
  | heartbeat (time : String) (milliseconds : ℤ)
  | deviceAdd (platform : Platform) (time : String)

/-- The value of a `gateway_msg`'s counter that cannot be increased, `LLONG_MAX`. -/
def llongMax : ℤ := 2 ^ 63 - 1

/-- A process that has done nothing yet: the constructors set the counters to `1`. -/
def Process.start : Process :=
  ⟨.starting, false, 1, 1, []⟩

/-- A message of `server_manage::gm`. A run ends where the counter would overflow, which C++ leaves
undefined. -/
def Process.byServer (s : Process) (r : Json × ℤ) : Option Process :=
  if s.server = llongMax then none else some { s with server := r.2, sent := s.sent ++ [r.1] }

/-- A message of `client_manage::gm`. -/
def Process.byClient (s : Process) (r : Json × ℤ) : Option Process :=
  if s.client = llongMax then none else some { s with client := r.2, sent := s.sent ++ [r.1] }

/-- A step of the process. `start_server` sends the sign-in and a heartbeat before it starts the
threads for the queues, and the heartbeat thread is started by one of these. -/
def step (c : Config) (heartbeatTimeout : ℤ) (s : Process) : Event → Option Process
  | .signIn localIp time ms =>
    if s.stage = .starting then
      { s with stage := .signedIn }.byServer (c.gatewaySignIn localIp s.server time ms)
    else none
  | .firstHeartbeat time ms =>
    if s.stage = .signedIn then
      { s with stage := .running }.byServer (c.gatewayHeartbeat heartbeatTimeout s.server time ms)
    else none
  | .reSignIn localIp time ms =>
    if s.stage = .running then s.byClient (c.gatewayReSignIn localIp s.client time ms) else none
  | .connetBusiness => if s.stage = .running then some { s with heartbeats := true } else none
  | .heartbeat time ms =>
    if s.heartbeats then s.byClient (c.gatewayHeartbeat heartbeatTimeout s.client time ms) else none
  | .deviceAdd platform time =>
    if s.stage = .running then s.byServer (c.deviceAddStep2 platform s.server time) else none

def Process.ids (s : Process) : List (Option String) :=
  s.sent.map fun m => m.stringMember "msgId"

def Distinct (s : Process) : Prop :=
  s.ids.Nodup

/-- The message, if the step sends one, is numbered by `server_manage::gm`. -/
def ByServer (_ : Process) : Event → Prop
  | .reSignIn _ _ _ | .heartbeat _ _ => False
  | _ => True

/-- An identifier that `server_manage::gm` made when its counter was `n`. -/
def IdOf (n : ℤ) (id : Option String) : Prop :=
  id = some ("h_" ++ toString n) ∨ id = some ("b_" ++ toString n)

/-- A number is used once. -/
lemma IdOf.eq {n n' : ℤ} {id : Option String} (h : IdOf n id) (h' : IdOf n' id) : n = n' := by
  have hpre : ∀ {p q : String}, p.length = 2 → q.length = 2 →
      some (p ++ toString n) = some (q ++ toString n') → n = n' := by
    intro p q hp hq heq
    have hlist := congrArg String.toList (Option.some.inj heq)
    rw [String.toList_append, String.toList_append] at hlist
    have hlen : p.toList.length = q.toList.length := by
      rw [String.length_toList, String.length_toList, hp, hq]
    have htail := (List.append_inj hlist hlen).2
    exact Scan.repr_injective (String.toList_inj.mp htail)
  rcases h with rfl | rfl <;> rcases h' with h' | h'
  · exact hpre rfl rfl h'
  · exact hpre rfl rfl h'
  · exact hpre rfl rfl h'
  · exact hpre rfl rfl h'

/-- As long as only `server_manage::gm` has numbered messages: its counter is ahead of all numbers
used, the number 2 went to the sign-in, and the other counter is where it began. -/
structure Numbered (s : Process) : Prop where
  distinct : Distinct s
  used : ∀ id ∈ s.ids, ∃ n ≤ s.server, IdOf n id
  signIn : s.stage ≠ .starting → some "h_2" ∈ s.ids
  starting : s.stage = .starting → s.server = 1
  client : s.client = 1
  heartbeats : s.heartbeats = true → s.stage ≠ .starting

lemma Numbered.byServer {s s' : Process} (hI : Numbered s) {g : Stage} {m : Json} {id : String}
    (hm : m.stringMember "msgId" = some id) (hid : IdOf (s.server + 1) (some id))
    (hstage : g ≠ .starting) (hsign : s.stage = .starting → id = "h_2")
    (hs : { s with stage := g }.byServer (m, s.server + 1) = some s') : Numbered s' := by
  simp only [Process.byServer] at hs
  split at hs
  · exact absurd hs (by simp)
  · cases hs
    have hids : (s.sent ++ [m]).map (fun m => m.stringMember "msgId") = s.ids ++ [some id] := by
      rw [List.map_append, List.map_singleton, hm, Process.ids]
    constructor
    · show ((s.sent ++ [m]).map fun m => m.stringMember "msgId").Nodup
      rw [hids]
      refine List.nodup_append.mpr ⟨hI.distinct, List.nodup_singleton _, ?_⟩
      rintro a ha b hb rfl
      obtain ⟨n, hn, hna⟩ := hI.used a ha
      rw [List.mem_singleton] at hb
      -- the counter was below this number for all the others
      have heq := hna.eq (hb ▸ hid)
      omega
    · intro a ha
      have ha' : a ∈ s.ids ++ [some id] := hids ▸ ha
      rcases List.mem_append.mp ha' with ha' | ha'
      · obtain ⟨n, hn, hna⟩ := hI.used a ha'
        exact ⟨n, by show n ≤ s.server + 1; omega, hna⟩
      · rw [List.mem_singleton.mp ha']
        exact ⟨s.server + 1, le_rfl, hid⟩
    · intro _
      have hmem : some "h_2" ∈ s.ids ++ [some id] := by
        -- the message is the sign-in, or `h_2` was used before
        by_cases hstart : s.stage = .starting
        · rw [hsign hstart]
          exact List.mem_append_right _ (List.mem_singleton_self _)
        · exact List.mem_append_left _ (hI.signIn hstart)
      show some "h_2" ∈ (s.sent ++ [m]).map fun m => m.stringMember "msgId"
      rw [hids]
      exact hmem
    · exact fun h => absurd h hstage
    · exact hI.client
    · exact fun _ => hstage

/-- The first message of `client_manage::gm` has the identifier of the sign-in. -/
lemma Numbered.byClient {s s' : Process} (hI : Numbered s) (hstage : s.stage ≠ .starting) {m : Json}
    (hm : m.stringMember "msgId" = some ("h_" ++ toString (s.client + 1)))
    (hs : s.byClient (m, s.client + 1) = some s') : ¬ Distinct s' := by
  simp only [Process.byClient] at hs
  split at hs
  · exact absurd hs (by simp)
  · cases hs
    intro hd
    have hids : (s.sent ++ [m]).map (fun m => m.stringMember "msgId") = s.ids ++ [some "h_2"] := by
      rw [List.map_append, List.map_singleton, hm, hI.client, Process.ids]
      rfl
    have hd' : (s.ids ++ [some "h_2"]).Nodup := hids ▸ hd
    exact (List.nodup_append.mp hd').2.2 _ (hI.signIn hstage) _ (List.mem_singleton_self _) rfl

variable {c : Config} {heartbeatTimeout : ℤ}

lemma step_numbered {s s' : Process} {e : Event} (hI : Numbered s) (hc : ByServer s e)
    (hs : step c heartbeatTimeout s e = some s') : Numbered s' := by
  cases e with
  | signIn localIp time ms =>
    simp only [step] at hs
    split at hs
    · rename_i hstage
      have hid := (c.gatewaySignIn_heads localIp s.server time ms).msgId
      refine hI.byServer (g := .signedIn) hid (Or.inl rfl) (by decide) ?_ hs
      intro _
      rw [hI.starting hstage]
      rfl
    · exact absurd hs (by simp)
  | firstHeartbeat time ms =>
    simp only [step] at hs
    split at hs
    · rename_i hstage
      have hid := (c.gatewayHeartbeat_heads heartbeatTimeout s.server time ms).msgId
      refine hI.byServer (g := .running) hid (Or.inl rfl) (by decide) ?_ hs
      rw [hstage]
      exact fun h => absurd h (by decide)
    · exact absurd hs (by simp)
  | reSignIn => exact absurd hc not_false
  | heartbeat => exact absurd hc not_false
  -- the thread is started, and nothing is sent
  | connetBusiness =>
    simp only [step] at hs
    split at hs
    · rename_i hstage
      cases hs
      exact ⟨hI.distinct, hI.used, hI.signIn, hI.starting, hI.client,
        fun _ => by rw [hstage]; decide⟩
    · exact absurd hs (by simp)
  | deviceAdd platform time =>
    simp only [step] at hs
    split at hs
    · rename_i hstage
      have hid := (c.deviceAddStep2_heads platform s.server time).msgId
      refine hI.byServer (g := s.stage) hid (Or.inr rfl) (by rw [hstage]; decide) ?_ hs
      rw [hstage]
      exact fun h => absurd h (by decide)
    · exact absurd hs (by simp)

lemma step_repeats {s s' : Process} {e : Event} (hI : Numbered s) (hc : ¬ ByServer s e)
    (hs : step c heartbeatTimeout s e = some s') : ¬ Distinct s' := by
  cases e with
  | reSignIn localIp time ms =>
    simp only [step] at hs
    split at hs
    · rename_i hstage
      have hid := (c.gatewayReSignIn_heads localIp s.client time ms).msgId
      exact hI.byClient (by rw [hstage]; decide) hid hs
    · exact absurd hs (by simp)
  | heartbeat time ms =>
    simp only [step] at hs
    split at hs
    · rename_i hthread
      have hid := (c.gatewayHeartbeat_heads heartbeatTimeout s.client time ms).msgId
      exact hI.byClient (hI.heartbeats hthread) hid hs
    · exact absurd hs (by simp)
  | signIn | firstHeartbeat | connetBusiness | deviceAdd => exact absurd trivial hc

/-- In every state of a run the identifiers are pairwise distinct, exactly if no message was built
by `client_manage::gm`. -/
theorem ids_distinct_iff (c : Config) (heartbeatTimeout : ℤ) {es : List Event} {s : Process}
    (hrun : Run.run (step c heartbeatTimeout) .start es = some s) :
    Run.Always (step c heartbeatTimeout) Distinct .start es ↔
      Run.Meets (step c heartbeatTimeout) ByServer .start es := by
  refine Run.always_iff_meets (I := Numbered) (fun _ h => h.distinct)
    (fun _ _ _ hI hc hs => step_numbered hI hc hs) (fun _ _ _ hI hc hs => step_repeats hI hc hs)
    ⟨?_, ?_, ?_, ?_, rfl, ?_⟩ hrun
  · exact List.nodup_nil
  · exact fun id hid => absurd hid List.not_mem_nil
  · exact fun h => absurd rfl h
  · exact fun _ => rfl
  · exact fun h => absurd h (by decide)

/-- The sign-in, the first heartbeat and a recorder that is announced. -/
theorem ids_distinct_server :
    Run.Always (step ⟨"29fc51254c0c4809a9f4851f994111a2", id⟩ 60) Distinct .start
      [.signIn "172.20.0.10" "2023-11-23 18:14:22" 1700734462000,
        .firstHeartbeat "2023-11-23 18:14:22" 1700734462000,
        .deviceAdd (Platform.new "17") "2023-11-23T18:14:30"] := by
  refine (ids_distinct_iff _ _ rfl).mpr ?_
  exact Run.meets_of_forall (by simp [ByServer]) _

/-- The first message of the heartbeat thread has the identifier `h_2` of the sign-in. -/
theorem ids_repeat :
    ¬ Run.Always (step ⟨"29fc51254c0c4809a9f4851f994111a2", id⟩ 60) Distinct .start
      [.signIn "172.20.0.10" "2023-11-23 18:14:22" 1700734462000,
        .firstHeartbeat "2023-11-23 18:14:22" 1700734462000, .connetBusiness,
        .heartbeat "2023-11-23 18:14:42" 1700734482000] := by
  intro h
  have hd := h _ List.prefix_rfl _ rfl
  have hids : [some "h_2", some "h_3", some "h_2"].Nodup := hd
  exact absurd hids (by decide)

end MsgIds

end DHGateway
