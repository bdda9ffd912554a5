import Mathlib.Algebra.Field.Rat
import Mathlib.Algebra.Order.Ring.Int
import Mathlib.Tactic.Common

/-!
# JSON values

`rapidjson::Value` as the gateway reads and builds it. Reading a member is checked, as the code
does it behind `HasMember` and `IsString`, or unchecked, as `operator[]` and `GetString` are: there
RapidJSON's contract can be broken, and the reading does not return.
-/

namespace DHGateway

/-- A JSON value. The members of an object are looked up by the first of their name. -/
inductive Json where
  | null
  | bool (b : Bool)
  | num (n : ℤ)
  | real (x : Rat)
  | str (s : String)
  | arr (elements : List Json)
  | obj (members : List (String × Json))

/-- What a message text is parsed into; `none` for a text with a parse error. -/
abbrev Document := Option Json

namespace Json

/-! ### Checked reading -/

/-- The member of an object, if the value is an object that has it. -/
def member (name : String) : Json → Option Json
  | obj ms => ms.lookup name
  | _ => none

/-- `GetString` behind `IsString`. -/
def asString : Json → Option String
  | str s => some s
  | _ => none

/-- `GetInt` behind `IsInt`: integers of 32 bits. -/
def asInt : Json → Option ℤ
  | num n => if -2 ^ 31 ≤ n ∧ n < 2 ^ 31 then some n else none
  | _ => none

/-- `GetBool` behind `IsBool`. -/
def asBool : Json → Option Bool
  | bool b => some b
  | _ => none

/-- `GetDouble` behind `IsFloat`: a number with a fraction or an exponent, in the range of a
`float`. -/
def asFloat : Json → Option Rat
  | real x => if -34028234 * 10 ^ 31 ≤ x ∧ x ≤ 34028234 * 10 ^ 31 then some x else none
  | _ => none

/-- The value behind `IsObject`. -/
def asObject : Json → Option Json
  | obj ms => some (obj ms)
  | _ => none

/-- The value behind `IsArray`. -/
def asArray : Json → Option (List Json)
  | arr l => some l
  | _ => none

def memberAs {α : Type} (as : Json → Option α) (name : String) (v : Json) : Option α :=
  (v.member name).bind as

/-- `if (v.HasMember(name) && v[name].IsString())`. -/
def stringMember (name : String) : Json → Option String :=
  memberAs asString name

/-- `if (v.HasMember(name) && v[name].IsInt())`. -/
def intMember (name : String) : Json → Option ℤ :=
  memberAs asInt name

/-- `if (v.HasMember(name) && v[name].IsObject())`. -/
def objectMember (name : String) : Json → Option Json :=
  memberAs asObject name

/-! ### Unchecked reading -/

/-- How RapidJSON's contract can be broken. -/
inductive Fault where
  | notAnObject
  | noSuchMember
  | wrongType
  deriving DecidableEq

/-- `operator[]`. -/
def at' (name : String) : Json → Except Fault Json
  | obj ms =>
    match ms.lookup name with
    | some v => .ok v
    | none => .error .noSuchMember
  | _ => .error .notAnObject

/-- An unchecked `GetString`, `GetInt` or `GetBool`. -/
def force {α : Type} (as : Json → Option α) (v : Json) : Except Fault α :=
  match as v with
  | some a => .ok a
  | none => .error .wrongType

/-- `v[name].GetString()`. -/
def getString (name : String) (v : Json) : Except Fault String := do
  force asString (← v.at' name)

/-- `v[name].GetInt()`. -/
def getInt (name : String) (v : Json) : Except Fault ℤ := do
  force asInt (← v.at' name)

/-- `v[name].GetBool()`. -/
def getBool (name : String) (v : Json) : Except Fault Bool := do
  force asBool (← v.at' name)

/-- `HasMember`, which only an object may be asked. -/
def hasMember (name : String) : Json → Except Fault Bool
  | obj ms => .ok (ms.lookup name).isSome
  | _ => .error .notAnObject

/-- `if (v.HasMember(name) && v[name].Is..()) .. v[name].Get..()`, as the calls it consists of. -/
def readMember {α : Type} (as : Json → Option α) (name : String) (v : Json) :
    Except Fault (Option α) := do
  if ← v.hasMember name then
    if (as (← v.at' name)).isSome then
      return some (← force as (← v.at' name))
    else return none
  else return none

lemma bind_eq_ok {ε α β : Type} {x : Except ε α} {f : α → Except ε β} {b : β} :
    x >>= f = .ok b ↔ ∃ a, x = .ok a ∧ f a = .ok b := by
  cases x with
  | error e => exact ⟨fun h => (nomatch h), by rintro ⟨_, ⟨⟩, _⟩⟩
  | ok a => exact ⟨fun h => ⟨a, rfl, h⟩, by rintro ⟨_, ⟨⟩, h⟩; exact h⟩

lemma map_eq_ok {ε α β : Type} {x : Except ε α} {f : α → β} {b : β} :
    x.map f = .ok b ↔ ∃ a, x = .ok a ∧ f a = b := by
  cases x with
  | error e => exact ⟨fun h => (nomatch h), by rintro ⟨_, ⟨⟩, _⟩⟩
  | ok a =>
    constructor
    · exact fun h => ⟨a, rfl, Except.ok.inj h⟩
    · rintro ⟨_, ⟨⟩, h⟩
      exact congrArg Except.ok h

lemma exists_ok_iff {ε α : Type} {x : Except ε α} {r : α} (hr : x = .ok r) (P : α → Prop) :
    (∃ r', x = .ok r' ∧ P r') ↔ P r := by
  subst hr
  constructor
  · rintro ⟨r', ⟨⟩, h⟩
    exact h
  · exact fun h => ⟨r, rfl, h⟩

lemma forall_ok_iff {ε α : Type} {x : Except ε α} {r : α} (hr : x = .ok r) (P : α → Prop) :
    (∀ r', x = .ok r' → P r') ↔ P r := by
  subst hr
  constructor
  · exact fun h => h r rfl
  · rintro h r' ⟨⟩
    exact h

lemma force_eq_ok {α : Type} {as : Json → Option α} {v : Json} {a : α} :
    force as v = .ok a ↔ as v = some a := by
  rw [force]
  cases as v <;> simp

lemma at'_eq_ok {name : String} {v w : Json} : v.at' name = .ok w ↔ v.member name = some w := by
  rcases v with _ | _ | _ | _ | _ | _ | ms
  case obj =>
    show (match ms.lookup name with
      | some v => Except.ok v
      | none => Except.error Fault.noSuchMember) = Except.ok w ↔ ms.lookup name = some w
    cases ms.lookup name <;> simp
  all_goals exact ⟨fun h => (nomatch h), fun h => (nomatch h)⟩

lemma readMember_obj {α : Type} (as : Json → Option α) (name : String)
    (ms : List (String × Json)) :
    (obj ms).readMember as name = .ok ((obj ms).memberAs as name) := by
  have hhas : (obj ms).hasMember name = .ok (ms.lookup name).isSome := rfl
  have hmember : (obj ms).memberAs as name = (ms.lookup name).bind as := rfl
  rw [readMember, hhas, hmember]
  cases hv : ms.lookup name with
  | none => rfl
  | some v =>
    have hat : (obj ms).at' name = .ok v := at'_eq_ok.mpr hv
    rw [hat]
    show (if (as v).isSome = true then force as v >>= fun a => pure (some a) else pure none) =
      Except.ok (as v)
    cases ha : as v with
    | none => rfl
    | some a =>
      have hforce : force as v = .ok a := force_eq_ok.mpr ha
      rw [hforce]
      rfl

lemma getString_eq_ok {name s : String} {v : Json} :
    v.getString name = .ok s ↔ v.stringMember name = some s := by
  rw [getString, bind_eq_ok, stringMember, memberAs, Option.bind_eq_some_iff]
  simp only [at'_eq_ok, force_eq_ok]

end Json

end DHGateway
