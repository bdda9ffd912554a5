import Mathlib.Tactic.Common
import Mathlib.Tactic.Ring

/-!
# The order of texts of digits

Texts of the same number of decimal digits are in the order of the numbers that they say.
-/

namespace Digits

variable {ds es : List Char}

def number (ds : List Char) : ℕ :=
  Nat.ofDigitChars 10 ds 0

def digit (d : Char) : ℕ :=
  d.toNat - '0'.toNat

@[simp] lemma number_nil : number [] = 0 := Nat.ofDigitChars_nil

lemma number_append (ds es : List Char) :
    number (ds ++ es) = 10 ^ es.length * number ds + number es := by
  rw [number, Nat.ofDigitChars_append, Nat.ofDigitChars_eq_ofDigitChars_zero]
  rfl

lemma number_cons (d : Char) (ds : List Char) :
    number (d :: ds) = 10 ^ ds.length * digit d + number ds := by
  rw [number, Nat.ofDigitChars_cons, Nat.ofDigitChars_eq_ofDigitChars_zero, Nat.mul_zero,
    Nat.zero_add]
  rfl

lemma digit_spec {d : Char} (h : d.isDigit = true) : digit d < 10 ∧ d.toNat = digit d + 48 := by
  have hlo : 48 ≤ d.toNat := by
    rw [Char.isDigit, Bool.and_eq_true, decide_eq_true_eq] at h
    exact UInt32.le_iff_toNat_le.mp h.1
  have hhi : d.toNat ≤ 57 := by
    rw [Char.isDigit, Bool.and_eq_true, decide_eq_true_eq, decide_eq_true_eq] at h
    exact UInt32.le_iff_toNat_le.mp h.2
  have hdigit : digit d = d.toNat - 48 := rfl
  omega

lemma char_lt_iff {d e : Char} : d < e ↔ d.toNat < e.toNat :=
  UInt32.lt_iff_toNat_lt

lemma number_lt (hds : ∀ d ∈ ds, d.isDigit = true) : number ds < 10 ^ ds.length := by
  induction ds with
  | nil => exact Nat.one_pos
  | cons d ds ih =>
    obtain ⟨hd, hds⟩ := List.forall_mem_cons.mp hds
    have hlt := ih hds
    have hdigit : 10 ^ ds.length * digit d ≤ 10 ^ ds.length * 9 :=
      Nat.mul_le_mul_left _ (Nat.le_of_lt_succ (digit_spec hd).1)
    rw [number_cons, List.length_cons, Nat.pow_succ]
    omega

lemma lt_iff_of_digits {p a b m n : ℕ} (hm : m < p) (hn : n < p) :
    p * a + m < p * b + n ↔ a < b ∨ a = b ∧ m < n := by
  rcases lt_trichotomy a b with h | rfl | h
  · have hle : p * a + p ≤ p * b := by
      calc p * a + p = p * (a + 1) := by ring
        _ ≤ p * b := Nat.mul_le_mul_left p h
    simp only [h, true_or, iff_true]
    omega
  · simp
  · have hle : p * b + p ≤ p * a := by
      calc p * b + p = p * (b + 1) := by ring
        _ ≤ p * a := Nat.mul_le_mul_left p h
    have hne : a ≠ b := h.ne'
    simp only [h.not_gt, hne, false_and, or_self, iff_false]
    omega

theorem lt_iff_number_lt (hlen : ds.length = es.length) (hds : ∀ d ∈ ds, d.isDigit = true)
    (hes : ∀ e ∈ es, e.isDigit = true) : ds < es ↔ number ds < number es := by
  induction ds generalizing es with
  | nil =>
    rw [List.eq_nil_of_length_eq_zero hlen.symm]
    simp
  | cons d ds ih =>
    cases es with
    | nil => cases hlen
    | cons e es =>
      obtain ⟨hd, hds⟩ := List.forall_mem_cons.mp hds
      obtain ⟨he, hes⟩ := List.forall_mem_cons.mp hes
      have hlen : ds.length = es.length := Nat.succ.inj hlen
      have hd' := (digit_spec hd).2
      have he' := (digit_spec he).2
      have hlt : d < e ↔ digit d < digit e := by
        rw [char_lt_iff]
        omega
      have heq : d = e ↔ digit d = digit e := by
        rw [← Char.toNat_inj]
        omega
      -- the texts are compared as their first digits and then the rest, and so are the numbers
      rw [List.cons_lt_cons_iff, number_cons, number_cons, hlen,
        lt_iff_of_digits (hlen ▸ number_lt hds) (number_lt hes), ih hlen hds hes, hlt, heq]

lemma eq_of_number_eq (hlen : ds.length = es.length) (hds : ∀ d ∈ ds, d.isDigit = true)
    (hes : ∀ e ∈ es, e.isDigit = true) (h : number ds = number es) : ds = es := by
  induction ds generalizing es with
  | nil => exact (List.eq_nil_of_length_eq_zero hlen.symm).symm
  | cons d ds ih =>
    cases es with
    | nil => cases hlen
    | cons e es =>
      obtain ⟨hd, hds⟩ := List.forall_mem_cons.mp hds
      obtain ⟨he, hes⟩ := List.forall_mem_cons.mp hes
      have hlen : ds.length = es.length := Nat.succ.inj hlen
      have hm : number ds < 10 ^ es.length := hlen ▸ number_lt hds
      have hn : number es < 10 ^ es.length := number_lt hes
      have hlt := (lt_iff_of_digits (a := digit d) (b := digit e) hm hn).not.mp
      have hgt := (lt_iff_of_digits (a := digit e) (b := digit d) hn hm).not.mp
      rw [number_cons, number_cons, hlen] at h
      rw [h] at hlt hgt
      have hlt := hlt (Nat.lt_irrefl _)
      have hgt := hgt (Nat.lt_irrefl _)
      have hdigit : d = e := by
        rw [← Char.toNat_inj, (digit_spec hd).2, (digit_spec he).2]
        omega
      rw [hdigit, ih hlen hds hes (by omega)]

end Digits
