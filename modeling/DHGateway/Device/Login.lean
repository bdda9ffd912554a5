import Mathlib.Data.List.AList
import DHGateway.Common

/-!
# Logging in

`EquipmentMgr::Login` and `sdk_wrap::connet_equipment`. A login that succeeded is kept in
`Equipment_map` under the address, the port and the user name, joined with colons.
-/

namespace DHGateway

/-- What a login is asked for. The texts are copied into the SDK's record, whose fields are taken
to be long enough for them. -/
structure Credentials where
  ip : String
  port : ℤ
  userName : String
  pwd : String
  deriving DecidableEq

/-- The key of a login in `Equipment_map`. -/
def Credentials.key (c : Credentials) : String :=
  c.ip ++ ":" ++ toString c.port ++ ":" ++ c.userName

def Platform.credentials (p : Platform) : Credentials :=
  ⟨p.ip, p.port, p.username, p.password⟩

/-- What `CLIENT_LoginWithHighLevelSecurity` answers. -/
structure LoginAnswer where
  handle : LLONG
  nError : ℤ
  nChanNum : ℤ
  deriving DecidableEq

/-- The exceptions that a task can end with. -/
inductive Exn where
  | outOfRange
  | lengthError
  | badAlloc
  deriving DecidableEq

/-- `LoginErrMsg`. -/
def loginErrMsg : List (ℤ × String) :=
  [(1, "密码不正确"), (2, "用户名不存在"), (3, "登录超时"), (4, "帐号已登录"), (5, "帐号已被锁定"),
    (6, "帐号被列为黑名单"), (7, "资源不足，系统忙"), (8, "子连接失败"), (9, "主连接失败"),
    (10, "超过最大用户连接数"), (11, "只支持3代协议"), (12, "设备未插入U盾或U盾信息错误"),
    (13, "客户端IP地址没有登录权限"), (18, "设备未初始化，无法登陆")]

/-- `_uid` and `Equipment_map`. -/
structure EquipmentMgr where
  uid : ℤ
  equipmentMap : AList fun _ : String => LoginResults

/-- The outcome of a login: the result or what was thrown, the manager, the results that the
caller passed in, and whether the SDK was asked. -/
structure LoginOutcome where
  result : Except Exn Bool
  mgr : EquipmentMgr
  handle : LoginResults
  asked : Bool

namespace EquipmentMgr

/-- `EquipmentMgr::EquipmentMgr`. -/
def new : EquipmentMgr := ⟨0, ∅⟩

/-- What a login that the SDK accepted makes of the caller's results. -/
def accepted (m : EquipmentMgr) (c : Credentials) (a : LoginAnswer) : LoginResults :=
  ⟨a.handle, a.nChanNum, m.uid + 1, c.key⟩

/-- `EquipmentMgr::Login`. A failure sets only the handle, and throws where the table of error
texts does not have the error. -/
def login (m : EquipmentMgr) (c : Credentials) (handle : LoginResults) (a : LoginAnswer) :
    LoginOutcome :=
  match m.equipmentMap.lookup c.key with
  | some it => ⟨.ok true, m, it, false⟩
  | none =>
    if a.handle = 0 then
      let handle := { handle with handle := 0 }
      match loginErrMsg.lookup a.nError with
      | none => ⟨.error .outOfRange, m, handle, true⟩
      | some _ => ⟨.ok false, m, handle, true⟩
    else
      let handle := m.accepted c a
      ⟨.ok true, ⟨m.uid + 1, m.equipmentMap.insert c.key handle⟩, handle, true⟩

/-- `sdk_wrap::connet_equipment`: `1` for a login that failed. -/
def connetEquipment (m : EquipmentMgr) (c : Credentials) (handle : LoginResults)
    (a : LoginAnswer) : Except Exn ℤ × EquipmentMgr × LoginResults :=
  let r := m.login c handle a
  (r.result.map fun ok => if !ok then 1 else 0, r.mgr, r.handle)

variable {m : EquipmentMgr} {c : Credentials} {handle : LoginResults} {a : LoginAnswer}

lemma mem_equipmentMap : c.key ∈ m.equipmentMap ↔ ∃ it, m.equipmentMap.lookup c.key = some it := by
  rw [← AList.lookup_isSome, Option.isSome_iff_exists]

lemma login_cached {it : LoginResults} (h : m.equipmentMap.lookup c.key = some it) :
    m.login c handle a = ⟨.ok true, m, it, false⟩ := by
  rw [login, h]

lemma login_accepted (h : c.key ∉ m.equipmentMap) (ha : a.handle ≠ 0) :
    m.login c handle a = ⟨.ok true, ⟨m.uid + 1, m.equipmentMap.insert c.key (m.accepted c a)⟩,
      m.accepted c a, true⟩ := by
  rw [login, AList.lookup_eq_none.mpr h]
  exact if_neg ha

lemma login_refused (h : c.key ∉ m.equipmentMap) (ha : a.handle = 0) :
    m.login c handle a =
      ⟨if (loginErrMsg.lookup a.nError).isSome then .ok false else .error .outOfRange, m,
        { handle with handle := 0 }, true⟩ := by
  rw [login, AList.lookup_eq_none.mpr h]
  simp only [ha, if_true]
  cases loginErrMsg.lookup a.nError <;> rfl

/-- A login throws: the SDK is asked, refuses, and gives an error without a text. -/
def LoginThrows (m : EquipmentMgr) (c : Credentials) (a : LoginAnswer) : Prop :=
  c.key ∉ m.equipmentMap ∧ a.handle = 0 ∧ loginErrMsg.lookup a.nError = none

/-- The channel count after a login: that of the cached or of the new one, or what the storage of
the results held. -/
def chanNum (m : EquipmentMgr) (c : Credentials) (handle : LoginResults) (a : LoginAnswer) : ℤ :=
  match m.equipmentMap.lookup c.key with
  | some it => it.chanNum
  | none => if a.handle = 0 then handle.chanNum else a.nChanNum

lemma connetEquipment_cases (m : EquipmentMgr) (c : Credentials) (handle : LoginResults)
    (a : LoginAnswer) :
    (m.LoginThrows c a ∧
      ∃ results, m.connetEquipment c handle a = (.error .outOfRange, m, results)) ∨
    (¬ m.LoginThrows c a ∧
      ∃ ret m' results, m.connetEquipment c handle a = (.ok ret, m', results) ∧
        results.chanNum = m.chanNum c handle a) := by
  cases hl : m.equipmentMap.lookup c.key with
  | some it =>
    have hmem : c.key ∈ m.equipmentMap := mem_equipmentMap.mpr ⟨it, hl⟩
    refine Or.inr ⟨fun h => h.1 hmem, 0, m, it, ?_, ?_⟩
    · rw [connetEquipment, login_cached hl]
      rfl
    · rw [chanNum, hl]
  | none =>
    have hmem : c.key ∉ m.equipmentMap := AList.lookup_eq_none.mp hl
    by_cases ha : a.handle = 0
    · rw [connetEquipment, login_refused hmem ha]
      -- `at` throws for an error that the table of texts does not have
      cases herr : loginErrMsg.lookup a.nError with
      | none => exact Or.inl ⟨⟨hmem, ha, herr⟩, _, rfl⟩
      | some text =>
        refine Or.inr ⟨fun h => ?_, 1, m, _, rfl, ?_⟩
        · rw [h.2.2] at herr
          exact nomatch herr
        · simp only [chanNum, hl, ha, if_true]
    · rw [connetEquipment, login_accepted hmem ha]
      refine Or.inr ⟨fun h => ha h.2.1, 0, _, _, rfl, ?_⟩
      simp only [chanNum, hl, ha, if_false, accepted]

/-! ### What the SDK has accepted -/

/-- The calls of `CLIENT_LoginWithHighLevelSecurity` that succeeded so far, with their handles,
after a login. -/
def accept (accepted : List (Credentials × LLONG)) (c : Credentials) (a : LoginAnswer)
    (r : LoginOutcome) : List (Credentials × LLONG) :=
  if r.asked = true ∧ a.handle ≠ 0 then accepted ++ [(c, a.handle)] else accepted

/-- The manager has a login for each accepted call, under its key, and no two of these keys are
equal. -/
structure Caches (m : EquipmentMgr) (accepted : List (Credentials × LLONG)) : Prop where
  entry : ∀ k it, m.equipmentMap.lookup k = some it →
    ∃ c, c.key = k ∧ (c, it.handle) ∈ accepted
  mem : ∀ e ∈ accepted, e.1.key ∈ m.equipmentMap
  unique : ∀ e ∈ accepted, ∀ e' ∈ accepted, e.1.key = e'.1.key → e = e'

lemma caches_new : Caches new [] where
  entry := fun _ _ h => nomatch h
  mem := fun _ h => absurd h List.not_mem_nil
  unique := fun _ h => absurd h List.not_mem_nil

lemma mem_accept {accepted : List (Credentials × LLONG)} {e : Credentials × LLONG}
    {r : LoginOutcome} (h : e ∈ accepted) : e ∈ accept accepted c a r := by
  rw [accept]
  split
  · exact List.mem_append_left _ h
  · exact h

lemma accept_of_refused {accepted : List (Credentials × LLONG)} {r : LoginOutcome}
    (ha : a.handle = 0) : accept accepted c a r = accepted :=
  if_neg fun h => h.2 ha

lemma Caches.login {accepted : List (Credentials × LLONG)} (h : m.Caches accepted)
    (c : Credentials) (handle : LoginResults) (a : LoginAnswer) :
    (m.login c handle a).mgr.Caches (accept accepted c a (m.login c handle a)) := by
  by_cases hmem : c.key ∈ m.equipmentMap
  · obtain ⟨it, hit⟩ := mem_equipmentMap.mp hmem
    rw [login_cached hit, accept, if_neg (by simp)]
    exact h
  · by_cases ha : a.handle = 0
    · rw [accept_of_refused ha, login_refused hmem ha]
      exact h
    · rw [login_accepted hmem ha, accept, if_pos ⟨rfl, ha⟩]
      -- no login was accepted under this key before
      have hnew : ∀ e ∈ accepted, e.1.key ≠ c.key := by
        intro e he heq
        exact hmem (heq ▸ h.mem e he)
      constructor
      · intro k it hit
        by_cases hk : k = c.key
        · rw [hk, AList.lookup_insert] at hit
          refine ⟨c, hk.symm, ?_⟩
          rw [← Option.some.inj hit]
          exact List.mem_append_right _ List.mem_cons_self
        · rw [AList.lookup_insert_ne hk] at hit
          obtain ⟨c', hkey, hc'⟩ := h.entry k it hit
          exact ⟨c', hkey, List.mem_append_left _ hc'⟩
      · intro e he
        rw [AList.mem_insert]
        rcases List.mem_append.mp he with he | he
        · exact Or.inr (h.mem e he)
        · exact Or.inl (congrArg (fun e => e.1.key) (List.mem_singleton.mp he))
      · intro e he e' he' heq
        rcases List.mem_append.mp he with he | he <;> rcases List.mem_append.mp he' with he' | he'
        · exact h.unique e he e' he' heq
        · rw [List.mem_singleton.mp he'] at heq
          exact absurd heq (hnew e he)
        · rw [List.mem_singleton.mp he] at heq
          exact absurd heq.symm (hnew e' he')
        · rw [List.mem_singleton.mp he, List.mem_singleton.mp he']

/-- A login that returns `true` returns the handle of a call that was accepted with just these
credentials, if and only if no call was accepted before with others that have the same key. -/
lemma Caches.granted_iff {accepted : List (Credentials × LLONG)} (h : m.Caches accepted)
    (htrue : (m.login c handle a).result = .ok true) :
    (c, (m.login c handle a).handle.handle) ∈ accept accepted c a (m.login c handle a) ↔
      ∀ e ∈ accepted, e.1.key = c.key → e.1 = c := by
  by_cases hmem : c.key ∈ m.equipmentMap
  · obtain ⟨it, hit⟩ := mem_equipmentMap.mp hmem
    obtain ⟨c', hkey, hc'⟩ := h.entry _ it hit
    rw [login_cached hit, accept, if_neg (by simp)]
    constructor
    · intro hc e he heq
      exact congrArg Prod.fst (h.unique e he _ hc heq)
    · intro hall
      exact hall _ hc' hkey ▸ hc'
  · by_cases ha : a.handle = 0
    · rw [login_refused hmem ha] at htrue
      dsimp only at htrue
      split at htrue <;> exact nomatch htrue
    · rw [login_accepted hmem ha, accept, if_pos ⟨rfl, ha⟩]
      apply iff_of_true (List.mem_append_right _ List.mem_cons_self)
      intro e he heq
      exact absurd (heq ▸ h.mem e he) hmem

end EquipmentMgr

end DHGateway
