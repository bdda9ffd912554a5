import DHGateway.Message.Json

/-!
# Shapes of JSON values

A shape says which members a value must have, and of which types, for a sequence of unchecked
readings to return. The rules for readings one after the other take a parser apart.
-/

namespace DHGateway

namespace Json

/-- What is asked of a value: nothing, a type, members, or members if it is an object. -/
inductive Shape where
  | any
  | str
  | int
  | bool
  | obj (fields : List (String × Shape))
  | ifObj (fields : List (String × Shape))

mutual

def Shape.Matches : Shape → Json → Prop
  | .any, _ => True
  | .str, v => ∃ s, asString v = some s
  | .int, v => ∃ n, asInt v = some n
  | .bool, v => ∃ b, asBool v = some b
  | .obj fields, v => HasFields fields v
  | .ifObj fields, v => ∀ w, v.asObject = some w → HasFields fields w

def HasFields : List (String × Shape) → Json → Prop
  | [], _ => True
  | (name, shape) :: fields, v =>
    (∃ w, v.member name = some w ∧ shape.Matches w) ∧ HasFields fields v

end

def Returns {α : Type} (x : Except Fault α) : Prop :=
  ∃ a, x = .ok a

section Returns

variable {α β : Type} {name : String} {v : Json}

lemma returns_ok (a : α) : Returns (.ok a) ↔ True :=
  iff_true_intro ⟨a, rfl⟩

lemma not_returns_error (f : Fault) : ¬ Returns (.error f : Except Fault α) := by
  rintro ⟨a, ha⟩
  exact nomatch ha

lemma returns_map {x : Except Fault α} {f : α → β} : Returns (x.map f) ↔ Returns x := by
  cases x with
  | error e => exact iff_of_false (not_returns_error e) (not_returns_error e)
  | ok a => exact iff_of_true ⟨_, rfl⟩ ⟨_, rfl⟩

lemma returns_bind {x : Except Fault α} {f : α → Except Fault β} :
    Returns (x >>= f) ↔ ∃ a, x = .ok a ∧ Returns (f a) := by
  simp only [Returns, bind_eq_ok]
  constructor
  · rintro ⟨b, a, ha, hb⟩
    exact ⟨a, ha, b, hb⟩
  · rintro ⟨a, ha, b, hb⟩
    exact ⟨b, a, ha, hb⟩

lemma returns_at' {f : Json → Except Fault β} :
    Returns (v.at' name >>= f) ↔ ∃ w, v.member name = some w ∧ Returns (f w) := by
  simp only [returns_bind, at'_eq_ok]

lemma returns_force {as : Json → Option α} {f : α → Except Fault β} {P : Prop}
    (hf : ∀ a, Returns (f a) ↔ P) :
    Returns ((v.at' name >>= fun w => force as w) >>= f) ↔
      (∃ w, v.member name = some w ∧ ∃ a, as w = some a) ∧ P := by
  simp only [returns_bind, bind_eq_ok, at'_eq_ok, force_eq_ok, hf]
  constructor
  · rintro ⟨a, ⟨w, hw, ha⟩, hP⟩
    exact ⟨⟨w, hw, a, ha⟩, hP⟩
  · rintro ⟨⟨w, hw, a, ha⟩, hP⟩
    exact ⟨a, ⟨w, hw, ha⟩, hP⟩

lemma returns_getString {f : String → Except Fault β} {P : Prop}
    (hf : ∀ s, Returns (f s) ↔ P) :
    Returns (v.getString name >>= f) ↔ (∃ w, v.member name = some w ∧ Shape.str.Matches w) ∧ P :=
  returns_force hf

lemma returns_getInt {f : ℤ → Except Fault β} {P : Prop} (hf : ∀ n, Returns (f n) ↔ P) :
    Returns (v.getInt name >>= f) ↔ (∃ w, v.member name = some w ∧ Shape.int.Matches w) ∧ P :=
  returns_force hf

lemma returns_getBool {f : Bool → Except Fault β} {P : Prop} (hf : ∀ b, Returns (f b) ↔ P) :
    Returns (v.getBool name >>= f) ↔ (∃ w, v.member name = some w ∧ Shape.bool.Matches w) ∧ P :=
  returns_force hf

lemma returns_ifObj {x : Except Fault β} {f : Json → Except Fault β} {P : Json → Prop}
    (hx : Returns x) (hf : ∀ w, Returns (f w) ↔ P w) :
    Returns (match v.asObject with
      | none => x
      | some w => f w) ↔ ∀ w, v.asObject = some w → P w := by
  cases v.asObject with
  | none => exact iff_of_true hx (fun w hw => nomatch hw)
  | some w =>
    refine (hf w).trans ⟨?_, fun h => h w rfl⟩
    rintro h w' ⟨⟩
    exact h

end Returns

end Json

end DHGateway
