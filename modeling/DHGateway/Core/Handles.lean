import Mathlib.Logic.Function.Basic
import Mathlib.Tactic.Common

/-!
# Handles and their owners

Handles are numbered in the order in which they are made. An owner has one handle in use and one
that is set aside, to be disposed of later. No handle may be forgotten before it is destroyed, or
destroyed twice.
-/

/-- How many handles there are, how often each was destroyed, what the owners have, and whether a
disposal found nothing set aside or something that was destroyed already. -/
structure Handles (ω : Type*) where
  count : ℕ
  destroyed : ℕ → ℕ
  inUse : ω → Option ℕ
  aside : ω → Option ℕ
  misused : Bool

namespace Handles

/-- What happens to handles: a new one replaces the one in use, or nothing does; the one in use is
destroyed, and forgotten; it is set aside; the one set aside is disposed of, and may be destroyed
and forgotten by that. -/
inductive Act (ω : Type*) where
  | skip
  | create (o : ω) (made : Bool)
  | destroy (o : ω) (forgotten : Bool)
  | setAside (o : ω)
  | dispose (o : ω) (destroyed forgotten : Bool)

section

variable {ω : Type*}

/-- The counts after the handle behind a pointer was destroyed. -/
def destroy (destroyed : ℕ → ℕ) : Option ℕ → ℕ → ℕ
  | none => destroyed
  | some c => Function.update destroyed c (destroyed c + 1)

/-- There is a handle that was set aside and still exists. -/
def Pending (h : Handles ω) (o : ω) : Prop :=
  ∃ c, h.aside o = some c ∧ h.destroyed c = 0

instance (h : Handles ω) (o : ω) : Decidable (h.Pending o) :=
  match hc : h.aside o with
  | none => isFalse (by rintro ⟨c, hc', _⟩; rw [hc] at hc'; exact nomatch hc')
  | some c =>
    decidable_of_iff (h.destroyed c = 0)
      ⟨fun h0 => ⟨c, hc, h0⟩, by rintro ⟨d, hd, h0⟩; rw [hc] at hd; cases hd; exact h0⟩

def Holds (h : Handles ω) (o : ω) (c : ℕ) : Prop :=
  h.inUse o = some c ∨ h.aside o = some c

/-- Every handle is held or was destroyed, none was destroyed twice, and disposals were right. -/
structure Kept (h : Handles ω) : Prop where
  held : ∀ c < h.count, (∃ o, h.Holds o c) ∨ h.destroyed c = 1
  once : ∀ c, h.destroyed c ≤ 1
  used : h.misused = false

/-- The invariant: only handles that were made are held, each by one owner. -/
structure Inv (h : Handles ω) : Prop extends Kept h where
  known : ∀ o c, h.Holds o c → c < h.count
  own : ∀ o o' c, h.Holds o c → h.Holds o' c → o = o'

/-- A step that forgets no handle and destroys none again. -/
def Cond (h : Handles ω) : Act ω → Prop
  | .skip => True
  | .create o _ => ∀ c, h.inUse o = some c → h.aside o = some c ∨ h.destroyed c = 1
  | .destroy o _ => ∀ c, h.inUse o = some c → h.destroyed c = 0
  | .setAside o => ∀ c, h.aside o = some c → h.inUse o = some c ∨ h.destroyed c = 1
  | .dispose o _ _ => h.Pending o

/-- The pointers may change as long as each handle stays with its owner or is destroyed. -/
lemma Inv.of_holds {h h' : Handles ω} (hI : h.Inv) (hcount : h'.count = h.count)
    (honce : ∀ c, h'.destroyed c ≤ 1) (hused : h'.misused = false)
    (hsub : ∀ o c, h'.Holds o c → h.Holds o c)
    (hheld : ∀ o c, h.Holds o c → h'.Holds o c ∨ h'.destroyed c = 1)
    (hgone : ∀ c, h.destroyed c = 1 → h'.destroyed c = 1) : h'.Inv where
  held := by
    intro c hc
    rcases hI.held c (hcount ▸ hc) with ⟨o, ho⟩ | hdead
    · exact (hheld o c ho).imp (fun h => ⟨o, h⟩) id
    · exact Or.inr (hgone c hdead)
  once := honce
  used := hused
  known := fun o c ho => hcount ▸ hI.known o c (hsub o c ho)
  own := fun o o' c ho ho' => hI.own o o' c (hsub o c ho) (hsub o' c ho')

lemma destroy_spec {h : Handles ω} {p : Option ℕ} (hp : ∀ c, p = some c → h.destroyed c = 0)
    (honce : ∀ c, h.destroyed c ≤ 1) :
    (∀ c, destroy h.destroyed p c ≤ 1) ∧ (∀ c, h.destroyed c = 1 → destroy h.destroyed p c = 1) ∧
      ∀ c, p = some c → destroy h.destroyed p c = 1 := by
  cases p with
  | none => exact ⟨honce, fun _ hc => hc, fun c hc => nomatch hc⟩
  | some d =>
    have hd := hp d rfl
    have hself : destroy h.destroyed (some d) d = 1 := by
      rw [destroy, Function.update_self, hd]
    have hne : ∀ c, c ≠ d → destroy h.destroyed (some d) c = h.destroyed c := fun c hc =>
      Function.update_of_ne hc _ _
    refine ⟨fun c => ?_, fun c hc => ?_, ?_⟩
    · by_cases hcd : c = d
      · rw [hcd]
        exact Nat.le_of_eq hself
      · rw [hne c hcd]
        exact honce c
    · by_cases hcd : c = d
      · rw [hcd, hself]
      · rw [hne c hcd, hc]
    · rintro c ⟨⟩
      exact hself

/-- A handle that nobody has and that exists is lost. -/
lemma not_kept_of_lost {h : Handles ω} {c : ℕ} (hlt : c < h.count) (hno : ∀ o, ¬ h.Holds o c)
    (hlive : h.destroyed c ≠ 1) : ¬ h.Kept := by
  intro hk
  rcases hk.held c hlt with ⟨o, ho⟩ | hdead
  · exact hno o ho
  · exact hlive hdead

end

section

variable {ω : Type*} [DecidableEq ω] {h : Handles ω} {o : ω}

def step (h : Handles ω) : Act ω → Handles ω
  | .skip => h
  | .create o true => { h with
      count := h.count + 1
      destroyed := Function.update h.destroyed h.count 0
      inUse := Function.update h.inUse o (some h.count) }
  | .create o false => { h with inUse := Function.update h.inUse o none }
  | .destroy o forgotten => { h with
      destroyed := destroy h.destroyed (h.inUse o)
      inUse := if forgotten then Function.update h.inUse o none else h.inUse }
  | .setAside o => { h with aside := Function.update h.aside o (h.inUse o) }
  | .dispose o destroyed forgotten => { h with
      destroyed := if destroyed then destroy h.destroyed (h.aside o) else h.destroyed
      aside := if destroyed && forgotten then Function.update h.aside o none else h.aside
      misused := h.misused || !decide (h.Pending o) }

/-! ### Steps that keep the invariant -/

lemma update_eq_some {p : ω → Option ℕ} {q : Option ℕ} {o' : ω} {c : ℕ} :
    Function.update p o q o' = some c ↔ (o' = o ∧ q = some c) ∨ (o' ≠ o ∧ p o' = some c) := by
  by_cases ho : o' = o
  · subst ho
    simp
  · simp [ho]

lemma Inv.forget (hI : h.Inv)
    (hc : ∀ c, h.inUse o = some c → h.aside o = some c ∨ h.destroyed c = 1) :
    (h.step (.create o false)).Inv := by
  refine hI.of_holds rfl hI.once hI.used ?_ ?_ fun _ hc => hc
  · rintro o' c (ho | ho)
    · rcases update_eq_some.mp ho with ⟨_, hnone⟩ | ⟨_, ho⟩
      · exact nomatch hnone
      · exact Or.inl ho
    · exact Or.inr ho
  · rintro o' c (ho | ho)
    · by_cases hoo : o' = o
      · subst hoo
        exact (hc c ho).imp Or.inr id
      · exact Or.inl (Or.inl (update_eq_some.mpr (Or.inr ⟨hoo, ho⟩)))
    · exact Or.inl (Or.inr ho)

lemma Inv.create (hI : h.Inv)
    (hc : ∀ c, h.inUse o = some c → h.aside o = some c ∨ h.destroyed c = 1) :
    (h.step (.create o true)).Inv := by
  -- the handle in use is given up first
  have hI := hI.forget hc
  -- and the new one is held by its owner only
  have hholds : ∀ {o' c}, (h.step (.create o true)).Holds o' c →
      (o' = o ∧ c = h.count) ∨ (h.step (.create o false)).Holds o' c := by
    rintro o' c (ho | ho)
    · rcases update_eq_some.mp ho with ⟨hoo, hcount⟩ | ⟨hoo, ho⟩
      · exact Or.inl ⟨hoo, (Option.some.inj hcount).symm⟩
      · exact Or.inr (Or.inl (update_eq_some.mpr (Or.inr ⟨hoo, ho⟩)))
    · exact Or.inr (Or.inr ho)
  constructor
  · constructor
    · intro c hlt
      rcases Nat.lt_succ_iff_lt_or_eq.mp hlt with hlt | rfl
      · rcases hI.held c hlt with ⟨o', ho | ho⟩ | hdead
        · rcases update_eq_some.mp ho with ⟨_, hnone⟩ | hother
          · exact nomatch hnone
          · exact Or.inl ⟨o', Or.inl (update_eq_some.mpr (Or.inr hother))⟩
        · exact Or.inl ⟨o', Or.inr ho⟩
        · exact Or.inr ((Function.update_of_ne (Nat.ne_of_lt hlt) _ _).trans hdead)
      · exact Or.inl ⟨o, Or.inl (update_eq_some.mpr (Or.inl ⟨rfl, rfl⟩))⟩
    · intro c
      show Function.update h.destroyed h.count 0 c ≤ 1
      by_cases hcc : c = h.count
      · rw [hcc, Function.update_self]
        exact Nat.zero_le 1
      · rw [Function.update_of_ne hcc]
        exact hI.once c
    · exact hI.used
  · intro o' c ho
    rcases hholds ho with ⟨_, rfl⟩ | ho
    · exact Nat.lt_succ_self _
    · exact Nat.lt_succ_of_lt (hI.known o' c ho)
  · intro o' o'' c ho ho'
    rcases hholds ho with ⟨rfl, rfl⟩ | ho
    · rcases hholds ho' with ⟨rfl, _⟩ | ho'
      · rfl
      · exact absurd (hI.known o'' _ ho') (Nat.lt_irrefl _)
    · rcases hholds ho' with ⟨rfl, rfl⟩ | ho'
      · exact absurd (hI.known o' _ ho) (Nat.lt_irrefl _)
      · exact hI.own o' o'' c ho ho'

lemma Inv.destroy (hI : h.Inv) (hc : ∀ c, h.inUse o = some c → h.destroyed c = 0)
    (forgotten : Bool) : (h.step (.destroy o forgotten)).Inv := by
  obtain ⟨honce, hgone, hdead⟩ := destroy_spec hc hI.once
  have hkept : (h.step (.destroy o false)).Inv := by
    refine hI.of_holds rfl honce hI.used ?_ ?_ hgone
    · exact fun _ _ ho => ho
    · exact fun _ _ ho => Or.inl ho
  cases forgotten with
  | false => exact hkept
  | true => exact hkept.forget fun c ho => Or.inr (hdead c ho)

lemma Inv.setAside (hI : h.Inv)
    (hc : ∀ c, h.aside o = some c → h.inUse o = some c ∨ h.destroyed c = 1) :
    (h.step (.setAside o)).Inv := by
  refine hI.of_holds rfl hI.once hI.used ?_ ?_ fun _ hc => hc
  · rintro o' c (ho | ho)
    · exact Or.inl ho
    · rcases update_eq_some.mp ho with ⟨rfl, ho⟩ | ⟨_, ho⟩
      · exact Or.inl ho
      · exact Or.inr ho
  · rintro o' c (ho | ho)
    · exact Or.inl (Or.inl ho)
    · by_cases hoo : o' = o
      · subst hoo
        exact (hc c ho).imp Or.inl id
      · exact Or.inl (Or.inr (update_eq_some.mpr (Or.inr ⟨hoo, ho⟩)))

lemma Inv.dispose (hI : h.Inv) (hc : h.Pending o) (destroyed forgotten : Bool) :
    (h.step (.dispose o destroyed forgotten)).Inv := by
  have hused : (h.misused || !decide (h.Pending o)) = false := by
    rw [hI.used, decide_eq_true hc]
    rfl
  obtain ⟨d, hd, hd0⟩ := hc
  have hfirst : ∀ c, h.aside o = some c → h.destroyed c = 0 := by
    intro c hc
    rw [hd] at hc
    exact Option.some.inj hc ▸ hd0
  obtain ⟨honce, hgone, hdead⟩ := destroy_spec hfirst hI.once
  cases destroyed with
  -- the destruction may have failed, or the pointer be kept
  | false =>
    refine hI.of_holds rfl ?_ hused ?_ ?_ ?_
    · exact hI.once
    · exact fun _ _ ho => ho
    · exact fun _ _ ho => Or.inl ho
    · exact fun _ hc => hc
  | true =>
    cases forgotten with
    | false =>
      refine hI.of_holds rfl honce hused ?_ ?_ hgone
      · exact fun _ _ ho => ho
      · exact fun _ _ ho => Or.inl ho
    | true =>
      refine hI.of_holds rfl honce hused ?_ ?_ hgone
      · rintro o' c (ho | ho)
        · exact Or.inl ho
        · rcases update_eq_some.mp ho with ⟨_, hnone⟩ | ⟨_, ho⟩
          · exact nomatch hnone
          · exact Or.inr ho
      · rintro o' c (ho | ho)
        · exact Or.inl (Or.inl ho)
        · by_cases hoo : o' = o
          · subst hoo
            exact Or.inr (hdead c ho)
          · exact Or.inl (Or.inr (update_eq_some.mpr (Or.inr ⟨hoo, ho⟩)))

/-- A step under the condition keeps the invariant. -/
theorem Inv.step {a : Act ω} (hI : h.Inv) (hc : h.Cond a) : (h.step a).Inv := by
  cases a with
  | skip => exact hI
  | create o made =>
    cases made with
    | false => exact hI.forget hc
    | true => exact hI.create hc
  | destroy o forgotten => exact hI.destroy hc forgotten
  | setAside o => exact hI.setAside hc
  | dispose o destroyed forgotten => exact hI.dispose hc destroyed forgotten

/-! ### Steps that break it -/

lemma Inv.create_lost (hI : h.Inv) {c : ℕ} (ho : h.inUse o = some c) (haside : h.aside o ≠ some c)
    (hlive : h.destroyed c ≠ 1) (made : Bool) : ¬ (h.step (.create o made)).Kept := by
  have hlt := hI.known o c (Or.inl ho)
  have hno : ∀ o', o' ≠ o → ¬ h.Holds o' c := fun o' hne ho' =>
    hne (hI.own o' o c ho' (Or.inl ho))
  cases made with
  | false =>
    refine not_kept_of_lost hlt ?_ hlive
    rintro o' (ho' | ho')
    · rcases update_eq_some.mp ho' with ⟨_, hnone⟩ | ⟨hne, ho'⟩
      · exact nomatch hnone
      · exact hno o' hne (Or.inl ho')
    · by_cases hoo : o' = o
      · exact haside (hoo ▸ ho')
      · exact hno o' hoo (Or.inr ho')
  | true =>
    refine not_kept_of_lost (Nat.lt_succ_of_lt hlt) ?_ ?_
    · -- the new handle is another one
      rintro o' (ho' | ho')
      · rcases update_eq_some.mp ho' with ⟨_, hnew⟩ | ⟨hne, ho'⟩
        · exact Nat.ne_of_gt hlt (Option.some.inj hnew)
        · exact hno o' hne (Or.inl ho')
      · by_cases hoo : o' = o
        · exact haside (hoo ▸ ho')
        · exact hno o' hoo (Or.inr ho')
    · intro hdead
      rw [← hdead] at hlive
      exact hlive (Function.update_of_ne (Nat.ne_of_lt hlt) _ _).symm

lemma Inv.setAside_lost (hI : h.Inv) {c : ℕ} (ho : h.aside o = some c)
    (huse : h.inUse o ≠ some c) (hlive : h.destroyed c ≠ 1) : ¬ (h.step (.setAside o)).Kept := by
  refine not_kept_of_lost (hI.known o c (Or.inr ho)) ?_ hlive
  have hno : ∀ o', o' ≠ o → ¬ h.Holds o' c := fun o' hne ho' =>
    hne (hI.own o' o c ho' (Or.inr ho))
  rintro o' (ho' | ho')
  · by_cases hoo : o' = o
    · exact huse (hoo ▸ ho')
    · exact hno o' hoo (Or.inl ho')
  · rcases update_eq_some.mp ho' with ⟨_, hsame⟩ | ⟨hne, ho'⟩
    · exact huse hsame
    · exact hno o' hne (Or.inr ho')

lemma destroy_twice {c : ℕ} (ho : h.inUse o = some c) (hdead : h.destroyed c ≠ 0)
    (forgotten : Bool) : ¬ (h.step (.destroy o forgotten)).Kept := by
  intro hk
  have hle : destroy h.destroyed (h.inUse o) c ≤ 1 := hk.once c
  rw [ho, Handles.destroy, Function.update_self] at hle
  exact hdead (Nat.le_zero.mp (Nat.le_of_succ_le_succ hle))

lemma dispose_misused (hno : ¬ h.Pending o) (destroyed forgotten : Bool) :
    ¬ (h.step (.dispose o destroyed forgotten)).Kept := by
  intro hk
  have hused : (h.misused || !decide (h.Pending o)) = false := hk.used
  rw [decide_eq_false hno, Bool.not_false, Bool.or_true] at hused
  exact nomatch hused

/-- A step that does not meet the condition loses a handle, destroys one again, or disposes of
nothing. -/
theorem Inv.not_kept {a : Act ω} (hI : h.Inv) (hc : ¬ h.Cond a) : ¬ (h.step a).Kept := by
  cases a with
  | skip => exact absurd trivial hc
  | create o made =>
    simp only [Cond, not_forall, not_or] at hc
    obtain ⟨c, ho, haside, hlive⟩ := hc
    exact hI.create_lost ho haside hlive made
  | destroy o forgotten =>
    simp only [Cond, not_forall] at hc
    obtain ⟨c, ho, hdead⟩ := hc
    exact destroy_twice ho hdead forgotten
  | setAside o =>
    simp only [Cond, not_forall, not_or] at hc
    obtain ⟨c, ho, huse, hlive⟩ := hc
    exact hI.setAside_lost ho huse hlive
  | dispose o destroyed forgotten => exact dispose_misused hc destroyed forgotten

end

end Handles
