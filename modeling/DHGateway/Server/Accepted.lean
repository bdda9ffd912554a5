import DHGateway.Core.Run
import DHGateway.Server.Handlers

/-!
# Accepted credentials

A login that is in `Equipment_map` is granted without asking the device. Its key leaves out the
password, and joins the other three parts with a character that they may contain. What is granted
was accepted exactly as long as no two credentials of one key meet; a recorder is added on the
word of such a login.
-/

namespace DHGateway

open Config

/-- The server, with the login calls that the SDK accepted and their handles, the logins that
returned `true` and theirs, and the credentials of each recorder whose addition was answered with
the result `0`. -/
structure Logins where
  server : Server
  accepted : List (Credentials × LLONG)
  granted : List (Credentials × LLONG)
  added : List Credentials

/-- A call of `EquipmentMgr::Login`, or a request to add a recorder. -/
inductive LoginAction where
  | login (c : Credentials) (handle : LoginResults) (a : LoginAnswer)
  | deviceAdd (doc : Document) (a : TaskInput)

/-- A `DEVICE_ADD` with the login result `0`. -/
def isAddSuccess (m : Json) : Bool :=
  m.stringMember "msgType" = some "DEVICE_ADD" ∧ m.intMember "code" = some 0

namespace Logins

variable {env : Env}

/-- A process that has not logged in yet, with the registry and whatever else `s` has. -/
def start (s : Server) : Logins :=
  ⟨{ s with mgr := .new }, [], [], []⟩

/-- What a login adds to the accepted and the granted ones. -/
def note (l : Logins) (c : Credentials) (a : LoginAnswer) (r : LoginOutcome) : Logins :=
  { l with
    accepted := EquipmentMgr.accept l.accepted c a r
    granted := if r.result = .ok true then l.granted ++ [(c, r.handle.handle)] else l.granted }

def requested (doc : Document) (a : TaskInput) : Platform :=
  (parsDeviceAdd doc (Platform.new a.newId)).2

def step (env : Env) (l : Logins) : LoginAction → Option Logins
  | .login c handle a =>
    let r := l.server.mgr.login c handle a
    some ({ l with server := { l.server with mgr := r.mgr } }.note c a r)
  | .deviceAdd doc a =>
    let server := (l.server.deviceAdd env doc a).1
    let c := (requested doc a).credentials
    let l' := { l with
      server := server
      added :=
        if (server.sent.drop l.server.sent.length).any isAddSuccess then l.added ++ [c]
        else l.added }
    if (requested doc a).ip = "" then some l'
    else some (l'.note c a.login (l.server.mgr.login c a.results a.login))

def credentials : LoginAction → Option Credentials
  | .login c _ _ => some c
  | .deviceAdd doc a =>
    if (requested doc a).ip = "" then none else some (requested doc a).credentials

/-- No call was accepted before with other credentials that have the same key. -/
def SameCredentials (l : Logins) (act : LoginAction) : Prop :=
  ∀ c, credentials act = some c → ∀ e ∈ l.accepted, e.1.key = c.key → e.1 = c

/-- Every login that returned `true` returned the handle of a call that was accepted with just its
credentials, and recorders were answered with the result `0` and stored only with credentials that
were accepted. -/
structure Sound (known : List Platform) (l : Logins) : Prop where
  granted : ∀ e ∈ l.granted, e ∈ l.accepted
  added : ∀ c ∈ l.added, ∃ h, (c, h) ∈ l.accepted
  stored : ∀ p ∈ l.server.registry.platformList.platforms,
    p ∈ known ∨ ∃ h, (p.credentials, h) ∈ l.accepted

/-- What a request to add a recorder comes to. It is answered with the result `0` and the recorder
is stored exactly when the login returns `true`. -/
lemma deviceAdd_spec (env : Env) (s : Server) (doc : Document) (a : TaskInput) :
    ((requested doc a).ip = "" ∧ (s.deviceAdd env doc a).1 = s) ∨
    ((requested doc a).ip ≠ "" ∧
      (s.deviceAdd env doc a).1.mgr =
        (s.mgr.login (requested doc a).credentials a.results a.login).mgr ∧
      ((s.mgr.login (requested doc a).credentials a.results a.login).result ≠ .ok true ∧
          (s.deviceAdd env doc a).1.registry = s.registry ∧
          ((s.deviceAdd env doc a).1.sent.drop s.sent.length).any isAddSuccess = false ∨
        (s.mgr.login (requested doc a).credentials a.results a.login).result = .ok true ∧
          (∃ p, p.credentials = (requested doc a).credentials ∧
            (s.deviceAdd env doc a).1.registry.platformList.platforms =
              s.registry.platformList.platforms ++ [p]) ∧
          ((s.deviceAdd env doc a).1.sent.drop s.sent.length).any isAddSuccess = true)) := by
  rw [Server.deviceAdd]
  simp only [requested]
  rcases parsDeviceAdd doc (Platform.new a.newId) with ⟨_, p⟩
  dsimp only
  by_cases hip : p.ip = ""
  · rw [if_pos hip]
    exact Or.inl ⟨hip, rfl⟩
  · rw [if_neg hip, EquipmentMgr.connetEquipment]
    refine Or.inr ⟨hip, ?_⟩
    rcases s.mgr.login p.credentials a.results a.login with ⟨e | _ | _, mgr, handle, asked⟩
    · refine ⟨rfl, Or.inl ⟨by simp, rfl, ?_⟩⟩
      show (s.sent.drop s.sent.length).any isAddSuccess = false
      rw [List.drop_length]
      rfl
    · refine ⟨rfl, Or.inl ⟨by simp, rfl, ?_⟩⟩
      show (List.drop s.sent.length (s.sent ++ [_])).any isAddSuccess = false
      rw [List.drop_left]
      rfl
    · refine ⟨rfl, Or.inr ⟨rfl, ⟨{ p with loginResults := 0 }, rfl, ?_⟩, ?_⟩⟩
      · exact congrArg Platforms.platforms (Registry.addPlatform_list _ _ _ _)
      show (List.drop s.sent.length (s.sent ++ [_] ++ [_])).any isAddSuccess = true
      rw [List.append_assoc, List.drop_left]
      rfl

/-- The manager caches the accepted logins, and all that was granted was accepted. -/
structure Inv (known : List Platform) (l : Logins) : Prop where
  caches : l.server.mgr.Caches l.accepted
  sound : l.Sound known

/-- A login for which `l'` has been prepared: what it adds is accepted if the login was granted on
an accepted call. -/
lemma Sound.note {known : List Platform} {l l' : Logins} (h : l.Sound known) {c : Credentials}
    {a : LoginAnswer} {r : LoginOutcome} (hacc : l'.accepted = l.accepted)
    (hgranted : l'.granted = l.granted)
    (hadded : ∀ c' ∈ l'.added, c' ∈ l.added ∨ r.result = .ok true ∧ c' = c)
    (hstored : ∀ p ∈ l'.server.registry.platformList.platforms,
      p ∈ l.server.registry.platformList.platforms ∨ r.result = .ok true ∧ p.credentials = c)
    (hr : r.result = .ok true → (c, r.handle.handle) ∈ EquipmentMgr.accept l.accepted c a r) :
    (l'.note c a r).Sound known := by
  constructor
  · intro e he
    simp only [Logins.note, hacc, hgranted] at he ⊢
    -- a login that is not granted adds nothing
    split_ifs at he with htrue
    · rcases List.mem_append.mp he with he | he
      · exact EquipmentMgr.mem_accept (h.granted e he)
      · rw [List.mem_singleton.mp he]
        exact hr htrue
    · exact EquipmentMgr.mem_accept (h.granted e he)
  · intro c' hc'
    simp only [Logins.note, hacc]
    rcases hadded c' hc' with hold | ⟨htrue, rfl⟩
    · obtain ⟨handle, hh⟩ := h.added c' hold
      exact ⟨handle, EquipmentMgr.mem_accept hh⟩
    · exact ⟨_, hr htrue⟩
  · intro p hp
    simp only [Logins.note, hacc]
    rcases hstored p hp with hold | ⟨htrue, rfl⟩
    · refine (h.stored p hold).imp_right ?_
      rintro ⟨handle, hh⟩
      exact ⟨handle, EquipmentMgr.mem_accept hh⟩
    · exact Or.inr ⟨_, hr htrue⟩

lemma step_deviceAdd_of_empty {l : Logins} {doc : Document} {a : TaskInput}
    (hip : (requested doc a).ip = "") : step env l (.deviceAdd doc a) = some l := by
  rcases deviceAdd_spec env l.server doc a with ⟨_, hs⟩ | ⟨hne, _⟩
  · simp only [step, if_pos hip, hs, List.drop_length]
    rfl
  · exact absurd hip hne

lemma Inv.step {known : List Platform} {l l' : Logins} {act : LoginAction}
    (h : l.Inv known) (hsame : l.SameCredentials act) (hs : Logins.step env l act = some l') :
    l'.Inv known := by
  cases act with
  | login c handle a =>
    rw [← Option.some.inj hs]
    refine ⟨h.caches.login c handle a, h.sound.note rfl rfl ?_ ?_ fun htrue => ?_⟩
    · exact fun _ => Or.inl
    · exact fun _ => Or.inl
    · exact (h.caches.granted_iff htrue).mpr (hsame c rfl)
  | deviceAdd doc a =>
    rcases deviceAdd_spec env l.server doc a with ⟨hip, _⟩ | ⟨hip, hmgr, hcases⟩
    · rw [step_deviceAdd_of_empty hip] at hs
      exact Option.some.inj hs ▸ h
    · simp only [Logins.step, if_neg hip] at hs
      rw [← Option.some.inj hs]
      refine ⟨?_, h.sound.note rfl rfl (fun c' hc' => ?_) (fun p hp => ?_) fun htrue => ?_⟩
      · show (l.server.deviceAdd env doc a).1.mgr.Caches _
        rw [hmgr]
        exact h.caches.login _ _ _
      · rcases hcases with ⟨_, _, hany⟩ | ⟨htrue, _, hany⟩
        · simp only [hany, Bool.false_eq_true, if_false] at hc'
          exact Or.inl hc'
        · simp only [hany, if_true] at hc'
          exact (List.mem_append.mp hc').imp_right fun hc' => ⟨htrue, List.mem_singleton.mp hc'⟩
      · -- the recorder is stored only behind a login that was granted
        rcases hcases with ⟨_, hreg, _⟩ | ⟨htrue, ⟨q, hq, hreg⟩, _⟩
        · dsimp only at hp
          rw [hreg] at hp
          exact Or.inl hp
        · dsimp only at hp
          rw [hreg] at hp
          refine (List.mem_append.mp hp).imp_right fun hp => ⟨htrue, ?_⟩
          rw [List.mem_singleton.mp hp, hq]
      · exact (h.caches.granted_iff htrue).mpr (hsame _ (if_neg hip))

/-- A login with other credentials than the cached ones is granted without having been accepted. -/
lemma Inv.unsound {known : List Platform} {l l' : Logins} {act : LoginAction}
    (h : l.Inv known) (hsame : ¬ l.SameCredentials act) (hs : Logins.step env l act = some l') :
    ¬ l'.Sound known := by
  simp only [SameCredentials, not_forall] at hsame
  obtain ⟨c, hc, e, he, hkey, hne⟩ := hsame
  have hmem : c.key ∈ l.server.mgr.equipmentMap := hkey ▸ h.caches.mem e he
  obtain ⟨it, hit⟩ := EquipmentMgr.mem_equipmentMap.mp hmem
  -- the cache answers for the other password, and grants what was not accepted
  have hgranted : ∀ (l₀ : Logins) (handle : LoginResults) (a : LoginAnswer),
      l₀.accepted = l.accepted →
      ¬ (l₀.note c a (l.server.mgr.login c handle a)).Sound known := by
    intro l₀ handle a hacc hsound
    have htrue : (l.server.mgr.login c handle a).result = .ok true := by
      rw [EquipmentMgr.login_cached hit]
    have hmem := hsound.granted (c, (l.server.mgr.login c handle a).handle.handle) (by
      simp [Logins.note, htrue])
    simp only [Logins.note, hacc] at hmem
    exact hne ((h.caches.granted_iff htrue).mp hmem e he hkey)
  cases act with
  | login c' handle a =>
    rw [← Option.some.inj hs]
    rw [← Option.some.inj hc] at hgranted
    exact hgranted _ handle a rfl
  | deviceAdd doc a =>
    rw [credentials] at hc
    split_ifs at hc with hip
    simp only [Logins.step, if_neg hip] at hs
    rw [← Option.some.inj hs]
    rw [← Option.some.inj hc] at hgranted
    exact hgranted _ a.results a.login rfl

lemma start_inv (s : Server) : (start s).Inv s.registry.platformList.platforms where
  caches := EquipmentMgr.caches_new
  sound := ⟨fun _ h => absurd h List.not_mem_nil, fun _ h => absurd h List.not_mem_nil,
    fun _ h => Or.inl h⟩

lemma exists_step (env : Env) (l : Logins) (act : LoginAction) :
    ∃ l', step env l act = some l' := by
  cases act with
  | login c handle a => exact ⟨_, rfl⟩
  | deviceAdd doc a =>
    simp only [step]
    split <;> exact ⟨_, rfl⟩

/-- All that is granted, answered with the result `0` or stored in a run was accepted with just
these credentials, exactly if no step logs in with a key that was accepted with others. -/
theorem sound_iff (env : Env) (s : Server) (as : List LoginAction) :
    Run.Always (step env) (Sound s.registry.platformList.platforms) (start s) as ↔
      Run.Meets (step env) SameCredentials (start s) as := by
  obtain ⟨l, hrun⟩ := Run.exists_run (exists_step env) (start s) as
  exact Run.always_iff_meets (I := Inv s.registry.platformList.platforms) (fun _ h => h.sound)
    (fun _ _ _ h hsame hs => h.step hsame hs) (fun _ _ _ h hsame hs => h.unsound hsame hs)
    (start_inv s) hrun

/-- The right password, and then a request to add the recorder with another one, which the device
would refuse. -/
def wrongPassword : List LoginAction :=
  [.login ⟨"172.20.0.245", 37777, "admin", "rj123456"⟩ TaskInput.silent.results ⟨9001, 0, 8⟩,
    .deviceAdd
      (some (.obj [("msgId", .str "49538"), ("msgType", .str "DEVICE_ADD"),
        ("data", .obj [("dataMap", .obj [("ip", .str "172.20.0.245"), ("port", .str "37777"),
          ("username", .str "admin"), ("password", .str "guess")])])])) .silent]

def sameKey : List LoginAction :=
  [.login ⟨"10.0.0.1:1", 2, "b", "p"⟩ TaskInput.silent.results ⟨9001, 0, 8⟩,
    .login ⟨"10.0.0.1", 1, "2:b", "q"⟩ TaskInput.silent.results ⟨0, 2, 0⟩]

/-- The wrong password is granted, answered and stored; the other user gets a foreign handle. -/
theorem unaccepted_granted :
    (∃ l, Run.run (step Env.plain) (start .fresh) wrongPassword = some l ∧
      l.accepted = [(⟨"172.20.0.245", 37777, "admin", "rj123456"⟩, 9001)] ∧
      l.granted = [(⟨"172.20.0.245", 37777, "admin", "rj123456"⟩, 9001),
        (⟨"172.20.0.245", 37777, "admin", "guess"⟩, 9001)] ∧
      l.added = [⟨"172.20.0.245", 37777, "admin", "guess"⟩] ∧
      l.server.registry.platformList.platforms.map Platform.credentials =
        [⟨"172.20.0.245", 37777, "admin", "guess"⟩] ∧
      ∃ e ∈ l.granted, e ∉ l.accepted) ∧
    (∃ l, Run.run (step Env.plain) (start .fresh) sameKey = some l ∧
      l.accepted = [(⟨"10.0.0.1:1", 2, "b", "p"⟩, 9001)] ∧
      (⟨"10.0.0.1", 1, "2:b", "q"⟩, 9001) ∈ l.granted ∧
      ∃ e ∈ l.granted, e ∉ l.accepted) := by
  refine ⟨⟨_, rfl, ?_, ?_, ?_, ?_, ?_⟩, ⟨_, rfl, ?_, ?_, ?_⟩⟩ <;> decide

end Logins

end DHGateway
