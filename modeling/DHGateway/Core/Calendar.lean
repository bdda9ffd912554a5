import Mathlib.Data.Int.ConditionallyCompleteOrder
import Mathlib.Data.List.TakeWhile
import Mathlib.Tactic.IntervalCases
import Mathlib.Tactic.Linarith
import DHGateway.Core.Scan

/-!
# Calendar times

Times of the Gregorian calendar from 1970 to 9999 in their chronological order. What is written in a
format is read back in it, and `mktime` for UTC keeps the order.
-/

namespace Scan

/-! ### Digits -/

/-- A number with leading zeros: how many characters there are, that they are digits, and which
number they say. -/
lemma padInt_spec {w n : ℕ} (hw : 0 < w) (h : n < 10 ^ w) :
    (padInt w n).length = w ∧ (∀ d ∈ padInt w n, d.isDigit = true) ∧
      Nat.ofDigitChars 10 (padInt w n) 0 = n := by
  have hlen : (Nat.toDigits 10 n).length ≤ w :=
    (Nat.length_toDigits_le_iff (by decide) hw).mpr h
  have hpad : padInt w n =
      List.replicate (w - (Nat.toDigits 10 n).length) '0' ++ Nat.toDigits 10 n := by
    rw [padInt, if_neg (Int.not_lt.mpr (Int.natCast_nonneg n)), Int.natAbs_natCast]
  rw [hpad]
  refine ⟨?_, ?_, ?_⟩
  · rw [List.length_append, List.length_replicate]
    omega
  · intro d hd
    rcases List.mem_append.mp hd with hd | hd
    · rw [List.eq_of_mem_replicate hd]
      rfl
    · exact Nat.isDigit_of_mem_toDigits (by decide) (by decide) hd
  · rw [Nat.ofDigitChars_append, Nat.ofDigitChars_replicate_zero, Nat.mul_zero,
      Nat.ofDigitChars_ten_toDigits]

lemma takeDigits_append {w : ℕ} {ds : List Char} (hlen : ds.length = w)
    (hds : ∀ d ∈ ds, d.isDigit = true) (rest : List Char) :
    takeDigits w (ds ++ rest) = (ds, rest) := by
  have htake : ((ds ++ rest).take w).takeWhile Char.isDigit = ds := by
    rw [← hlen, List.take_left]
    exact List.takeWhile_eq_self_iff.mpr hds
  simp only [takeDigits, htake, List.drop_left]

lemma isSpace_of_isDigit {d : Char} (h : d.isDigit = true) : isSpace d = false := by
  have hd : 48 ≤ d.val.toNat := by
    rw [Char.isDigit, Bool.and_eq_true, decide_eq_true_eq] at h
    exact UInt32.le_iff_toNat_le.mp h.1
  have hne : d ≠ ' ' := by
    rintro rfl
    exact absurd hd (by decide)
  rw [isSpace, decide_eq_false hne, Bool.false_or]
  exact Bool.and_eq_false_iff.mpr (Or.inr (decide_eq_false (by unfold Char.toNat; omega)))

lemma skipSpace_cons {d : Char} (h : d.isDigit = true) (cs : List Char) :
    skipSpace (d :: cs) = d :: cs := by
  rw [skipSpace, List.dropWhile_cons_of_neg (by simp [isSpace_of_isDigit h])]

lemma sign_cons {d : Char} (h : d.isDigit = true) (cs : List Char) :
    sign (d :: cs) = (false, false, d :: cs) := by
  rw [sign]
  · rintro cs' ⟨⟩
    exact absurd h (by decide)
  · rintro cs' ⟨⟩
    exact absurd h (by decide)

lemma padInt_cons {w n : ℕ} (hw : 0 < w) (h : n < 10 ^ w) :
    ∃ d ds, padInt w n = d :: ds ∧ d.isDigit = true := by
  obtain ⟨hlen, hds, -⟩ := padInt_spec hw h
  cases hpad : padInt w n with
  | nil =>
    rw [hpad] at hlen
    exact absurd hlen (by simp; omega)
  | cons d ds =>
    rw [hpad] at hds
    exact ⟨d, ds, rfl, hds d List.mem_cons_self⟩

lemma scanInt_padInt {w n : ℕ} (hw : 0 < w) (h : n < 10 ^ w) (rest : List Char) :
    scanInt w (padInt w n ++ rest) = some ((n : ℤ), rest) := by
  obtain ⟨hlen, hds, hvalue⟩ := padInt_spec hw h
  obtain ⟨d, ds, hpad, hd⟩ := padInt_cons hw h
  have htake := takeDigits_append hlen hds rest
  rw [hpad] at htake hvalue ⊢
  rw [List.cons_append] at htake ⊢
  simp only [scanInt, skipSpace_cons hd, sign_cons hd, Bool.false_eq_true, if_false, htake]
  simp [value, hvalue]

lemma toList_repr_negSucc (m : ℕ) :
    (Int.negSucc m).repr.toList = '-' :: Nat.toDigits 10 (m + 1) := by
  show ("-" ++ (m + 1).repr).toList = _
  rw [String.toList_append, Nat.toList_repr]
  rfl

lemma eq_or_isDigit_of_mem_repr {n : ℤ} {d : Char} (h : d ∈ n.repr.toList) :
    d = '-' ∨ d.isDigit = true := by
  cases n with
  | ofNat m =>
    have hmem : d ∈ Nat.toDigits 10 m := Nat.toList_repr ▸ h
    exact Or.inr (Nat.isDigit_of_mem_toDigits (by decide) (by decide) hmem)
  | negSucc m =>
    rw [toList_repr_negSucc] at h
    rcases List.mem_cons.mp h with rfl | hmem
    · exact Or.inl rfl
    · exact Or.inr (Nat.isDigit_of_mem_toDigits (by decide) (by decide) hmem)

lemma toDigits_injective {m n : ℕ} (h : Nat.toDigits 10 m = Nat.toDigits 10 n) : m = n := by
  rw [← Nat.ofDigitChars_ten_toDigits (n := m), h, Nat.ofDigitChars_ten_toDigits]

lemma toDigits_ne_cons {m : ℕ} {cs : List Char} : Nat.toDigits 10 m ≠ '-' :: cs := by
  intro h
  have hmem : '-' ∈ Nat.toDigits 10 m := h ▸ List.mem_cons_self
  exact absurd (Nat.isDigit_of_mem_toDigits (by decide) (by decide) hmem) (by decide)

lemma repr_injective {m n : ℤ} (h : m.repr = n.repr) : m = n := by
  have hlist : m.repr.toList = n.repr.toList := congrArg String.toList h
  have hnat : ∀ k : ℕ, (Int.ofNat k).repr.toList = Nat.toDigits 10 k := fun _ => Nat.toList_repr
  cases m with
  | ofNat m =>
    cases n with
    | ofNat n =>
      rw [hnat, hnat] at hlist
      rw [toDigits_injective hlist]
    -- one of the two texts has a minus
    | negSucc n =>
      rw [hnat, toList_repr_negSucc] at hlist
      exact absurd hlist toDigits_ne_cons
  | negSucc m =>
    cases n with
    | ofNat n =>
      rw [hnat, toList_repr_negSucc] at hlist
      exact absurd hlist.symm toDigits_ne_cons
    | negSucc n =>
      rw [toList_repr_negSucc, toList_repr_negSucc] at hlist
      have heq := toDigits_injective (List.cons.inj hlist).2
      rw [Nat.succ.inj heq]

/-- `atoi` reads back what `std::to_string` wrote, for every `int`. -/
lemma atoi_repr {n : ℤ} (hlo : -2 ^ 31 ≤ n) (hhi : n < 2 ^ 31) : atoi n.repr.toList = n := by
  -- no `int` is changed by taking the nearest one
  have hclamp : max (-2 ^ 31) (min (2 ^ 31 - 1) n) = n := by omega
  have htake : ∀ m : ℕ, (Nat.toDigits 10 m).takeWhile Char.isDigit = Nat.toDigits 10 m :=
    fun m => List.takeWhile_eq_self_iff.mpr fun d hd =>
      Nat.isDigit_of_mem_toDigits (by decide) (by decide) hd
  rw [atoi]
  cases n with
  | ofNat m =>
    obtain ⟨d, ds, hds⟩ := List.exists_cons_of_ne_nil (Nat.toDigits_ne_nil (n := m) (b := 10))
    have hd : d.isDigit = true :=
      Nat.isDigit_of_mem_toDigits (by decide) (by decide) (hds ▸ List.mem_cons_self)
    have htext : (Int.ofNat m).repr.toList = d :: ds := Nat.toList_repr.trans hds
    rw [htext, skipSpace_cons hd, sign_cons hd, ← hds]
    dsimp only
    rw [htake, value, Nat.ofDigitChars_ten_toDigits]
    exact hclamp
  | negSucc m =>
    rw [toList_repr_negSucc]
    show max (-2 ^ 31) (min (2 ^ 31 - 1)
      (value true ((Nat.toDigits 10 (m + 1)).takeWhile Char.isDigit))) = _
    rw [htake, value, Nat.ofDigitChars_ten_toDigits]
    exact hclamp

/-! ### Times in a format -/

def putItem (t : Tm) : TimeItem → List Char
  | .lit c => [c]
  | .field .year => padInt 0 (t.get .year)
  | .field f => padInt 2 (t.get f)

lemma putTime_eq (format : List TimeItem) (t : Tm) :
    putTime format t = String.ofList (format.flatMap (putItem t)) := rfl

lemma Field.width_pos (f : Field) : 0 < f.range.1 := by
  cases f <;> decide

lemma Field.digits_of_range (f : Field) {n : ℤ} (hlo : f.range.2.1 ≤ n) (hhi : n ≤ f.range.2.2) :
    ∃ m : ℕ, n = m ∧ m < 10 ^ f.range.1 := by
  have hrange : 0 ≤ f.range.2.1 ∧ f.range.2.2 < 10 ^ f.range.1 := by
    cases f <;> decide
  obtain ⟨m, rfl⟩ := Int.eq_ofNat_of_zero_le (hrange.1.trans hlo)
  exact ⟨m, rfl, by exact_mod_cast hhi.trans_lt hrange.2⟩

lemma timeGet_field {f : Field} {n : ℤ} (hlo : f.range.2.1 ≤ n) (hhi : n ≤ f.range.2.2)
    (items : List TimeItem) (t : Tm) (rest : List Char) :
    timeGet (.field f :: items) t (padInt f.range.1 n ++ rest) =
      if rest = [] then (t.set f n, false) else timeGet items (t.set f n) rest := by
  obtain ⟨m, rfl, hm⟩ := f.digits_of_range hlo hhi
  obtain ⟨hlen, hds, hvalue⟩ := padInt_spec f.width_pos hm
  obtain ⟨d, ds, hpad, hd⟩ := padInt_cons f.width_pos hm
  have htake := takeDigits_append hlen hds rest
  have hn : value false (padInt f.range.1 m) = m := by
    rw [value, hvalue]
    rfl
  have hne : padInt f.range.1 m ≠ [] := by
    rw [hpad]
    exact List.cons_ne_nil _ _
  rw [show padInt f.range.1 m ++ rest = d :: (ds ++ rest) by rw [hpad, List.cons_append], timeGet]
  rw [← List.cons_append, ← hpad]
  simp only [htake, hn]
  rw [if_neg (by simp only [hne, false_or, not_or, not_lt]; exact ⟨hlo, hhi⟩)]

/-! ### Moments -/

def monthDays (year month : ℤ) : ℤ :=
  if month = 2 then if year % 4 = 0 ∧ (year % 100 ≠ 0 ∨ year % 400 = 0) then 29 else 28
  else if month = 4 ∨ month = 6 ∨ month = 9 ∨ month = 11 then 30
  else 31

lemma monthDays_le (year month : ℤ) : monthDays year month ≤ 31 := by
  unfold monthDays
  split_ifs <;> decide

/-- A calendar time from 1970 to 9999, with a day that its month has. -/
structure Tm.Valid (t : Tm) : Prop where
  year : 1970 ≤ t.get .year ∧ t.get .year ≤ 9999
  month : 1 ≤ t.get .month ∧ t.get .month ≤ 12
  day : 1 ≤ t.get .day ∧ t.get .day ≤ monthDays (t.get .year) (t.get .month)
  hour : 0 ≤ t.get .hour ∧ t.get .hour ≤ 23
  minute : 0 ≤ t.get .minute ∧ t.get .minute ≤ 59
  second : 0 ≤ t.get .second ∧ t.get .second ≤ 59

instance (t : Tm) : Decidable t.Valid :=
  decidable_of_iff
    ((1970 ≤ t.get .year ∧ t.get .year ≤ 9999) ∧ (1 ≤ t.get .month ∧ t.get .month ≤ 12) ∧
      (1 ≤ t.get .day ∧ t.get .day ≤ monthDays (t.get .year) (t.get .month)) ∧
      (0 ≤ t.get .hour ∧ t.get .hour ≤ 23) ∧ (0 ≤ t.get .minute ∧ t.get .minute ≤ 59) ∧
      (0 ≤ t.get .second ∧ t.get .second ≤ 59))
    ⟨fun ⟨y, mo, d, h, mi, s⟩ => ⟨y, mo, d, h, mi, s⟩,
      fun ⟨y, mo, d, h, mi, s⟩ => ⟨y, mo, d, h, mi, s⟩⟩

structure Moment where
  tm : Tm
  valid : tm.Valid

namespace Moment

def get (t : Moment) (f : Field) : ℤ :=
  t.tm.get f

lemma get_range (t : Moment) (f : Field) : f.range.2.1 ≤ t.get f ∧ t.get f ≤ f.range.2.2 := by
  have hv := t.valid
  cases f with
  | year => exact ⟨le_trans (by decide) hv.year.1, hv.year.2⟩
  | month => exact hv.month
  | day => exact ⟨hv.day.1, hv.day.2.trans (monthDays_le _ _)⟩
  | hour => exact hv.hour
  | minute => exact hv.minute
  | second => exact ⟨hv.second.1, hv.second.2.trans (by decide)⟩

lemma bounds (t : Moment) : (1 ≤ t.get .month ∧ t.get .month ≤ 12) ∧
    (1 ≤ t.get .day ∧ t.get .day ≤ 31) ∧ (0 ≤ t.get .hour ∧ t.get .hour ≤ 23) ∧
    (0 ≤ t.get .minute ∧ t.get .minute ≤ 59) ∧ (0 ≤ t.get .second ∧ t.get .second ≤ 59) :=
  ⟨t.valid.month, t.get_range .day, t.valid.hour, t.valid.minute, t.valid.second⟩

lemma get_digits (t : Moment) (f : Field) : ∃ n : ℕ, t.get f = n ∧ n < 10 ^ f.range.1 :=
  f.digits_of_range (t.get_range f).1 (t.get_range f).2

lemma putItem_field (t : Moment) (f : Field) :
    putItem t.tm (.field f) = padInt f.range.1 (t.get f) := by
  cases f with
  | year =>
    obtain ⟨n, hn⟩ := Int.eq_ofNat_of_zero_le (a := t.tm.get .year) (by linarith [t.valid.year.1])
    have hlen : ¬ (Nat.toDigits 10 n).length ≤ 3 := by
      rw [Nat.length_toDigits_le_iff (by decide) (by decide)]
      have h := t.valid.year.1
      omega
    rw [putItem, get, hn]
    simp only [padInt, if_neg (Int.not_lt.mpr (Int.natCast_nonneg n)), Int.natAbs_natCast]
    rw [show 0 - (Nat.toDigits 10 n).length = 0 by omega,
      show Field.year.range.1 - (Nat.toDigits 10 n).length = 0 from
        Nat.sub_eq_zero_of_le (Nat.lt_of_not_le hlen)]
  | _ => rfl

/-! ### Order -/

/-- The fields of a moment as one number. -/
def key (t : Moment) : ℤ :=
  ((((t.get .year * 100 + t.get .month) * 100 + t.get .day) * 100 + t.get .hour) * 100 +
    t.get .minute) * 100 + t.get .second

lemma key_injective : Function.Injective key := by
  intro a b h
  have hfield : ∀ f, a.get f = b.get f := by
    have ha := a.bounds
    have hb := b.bounds
    unfold key at h
    intro f
    cases f <;> omega
  obtain ⟨⟨ya, ma, da, ha', mina, sa⟩, hva⟩ := a
  obtain ⟨⟨yb, mb, db, hb', minb, sb⟩, hvb⟩ := b
  have hy := hfield .year
  have hm := hfield .month
  have hd := hfield .day
  have hh := hfield .hour
  have hmin := hfield .minute
  have hs := hfield .second
  simp only [get, Tm.get] at hy hm hd hh hmin hs
  congr <;> omega

/-- Moments are in their chronological order. -/
instance : LinearOrder Moment :=
  LinearOrder.lift' key key_injective

lemma lt_iff {a b : Moment} : a < b ↔ a.key < b.key :=
  Iff.rfl

/-! ### Texts of a moment -/

/-- A format in which white space stands before fields only. -/
def Readable : List TimeItem → Bool
  | [] => true
  | .field _ :: items => Readable items
  | .lit c :: items =>
    (!isSpace c || items.head?.any fun | .field _ => true | .lit _ => false) && Readable items

/-- What a text in a format says about a moment, read into a `tm`. -/
def readInto (t : Moment) : List TimeItem → Tm → Tm
  | [], t₀ => t₀
  | .lit _ :: items, t₀ => readInto t items t₀
  | .field f :: items, t₀ => readInto t items (t₀.set f (t.get f))

lemma putItem_cons (t : Moment) (f : Field) :
    ∃ d ds, putItem t.tm (.field f) = d :: ds ∧ d.isDigit = true := by
  obtain ⟨n, hn, hlt⟩ := t.get_digits f
  rw [putItem_field, hn]
  exact padInt_cons f.width_pos hlt

lemma timeGet_putItem (t : Moment) {format : List TimeItem} (h : Readable format = true)
    (t₀ : Tm) :
    timeGet format t₀ (format.flatMap (putItem t.tm)) = (t.readInto format t₀, false) := by
  induction format generalizing t₀ with
  | nil => rfl
  | cons item items ih =>
    cases item with
    | field f =>
      obtain ⟨hlo, hhi⟩ := t.get_range f
      rw [List.flatMap_cons, putItem_field, timeGet_field hlo hhi, ih h]
      rw [readInto]
      -- the text ends behind this field only if the format does
      split_ifs with hend
      · cases items with
        | nil => rfl
        | cons item items =>
          cases item with
          | lit c => exact absurd hend (List.cons_ne_nil _ _)
          | field g =>
            obtain ⟨d, ds, hcons, -⟩ := t.putItem_cons g
            rw [List.flatMap_cons, hcons] at hend
            exact absurd hend (List.cons_ne_nil _ _)
      · rfl
    | lit c =>
      obtain ⟨hspace, hitems⟩ := Bool.and_eq_true_iff.mp h
      rw [List.flatMap_cons, putItem, List.singleton_append, timeGet, readInto]
      -- white space is dropped up to the next field, which begins with a digit
      by_cases hc : isSpace c = true
      · rw [if_pos hc]
        rw [hc, Bool.not_true, Bool.false_or] at hspace
        cases items with
        | nil => exact absurd hspace (by decide)
        | cons item items =>
          cases item with
          | lit c => exact absurd hspace (by simp)
          | field g =>
            obtain ⟨d, ds, hcons, hd⟩ := t.putItem_cons g
            rw [← ih hitems, List.flatMap_cons, hcons]
            rw [skipSpace, List.dropWhile_cons_of_pos hc, ← skipSpace, List.cons_append,
              skipSpace_cons hd]
      · rw [if_neg hc, if_pos rfl, ih hitems]

lemma getTime_putTime (t : Moment) {f : Field} {items : List TimeItem}
    (h : Readable (.field f :: items) = true) :
    getTime (.field f :: items) (putTime (.field f :: items) t.tm) =
      (t.readInto (.field f :: items) ⟨0, 0, 0, 0, 0, 0⟩, false) := by
  obtain ⟨d, ds, hcons, hd⟩ := t.putItem_cons f
  rw [← timeGet_putItem t h, getTime, putTime_eq, String.toList_ofList, List.flatMap_cons, hcons,
    List.cons_append, skipSpace_cons hd]

def dashed (t : Moment) : String :=
  putTime Scan.dashed t.tm

def packed (t : Moment) : String :=
  putTime Scan.packed t.tm

lemma readInto_all (t : Moment) : t.readInto Scan.dashed ⟨0, 0, 0, 0, 0, 0⟩ = t.tm ∧
    t.readInto Scan.packed ⟨0, 0, 0, 0, 0, 0⟩ = t.tm := by
  obtain ⟨⟨year, mon, mday, hour, min, sec⟩, hv⟩ := t
  constructor <;>
    simp only [Scan.dashed, Scan.packed, readInto, Tm.set, get, Tm.get, add_sub_cancel_right]

@[simp]
lemma getTime_dashed (t : Moment) : getTime Scan.dashed t.dashed = (t.tm, false) := by
  rw [dashed, Scan.dashed, t.getTime_putTime (by decide), ← Scan.dashed, t.readInto_all.1]

@[simp]
lemma getTime_packed (t : Moment) : getTime Scan.packed t.packed = (t.tm, false) := by
  rw [packed, Scan.packed, t.getTime_putTime (by decide), ← Scan.packed, t.readInto_all.2]

lemma ext {a b : Moment} (h : a.tm = b.tm) : a = b := by
  cases a
  cases b
  cases h
  rfl

/-- A text with dashes is not read as digits behind its year. -/
lemma getTime_packed_dashed (t : Moment) :
    getTime Scan.packed t.dashed = (⟨t.tm.year, 0, 0, 0, 0, 0⟩, true) := by
  obtain ⟨d, ds, hcons, hd⟩ := t.putItem_cons .year
  obtain ⟨hlo, hhi⟩ := t.get_range .year
  have htext : skipSpace t.dashed.toList = padInt Field.year.range.1 (t.get .year) ++
      ('-' :: Scan.dashed.tail.tail.flatMap (putItem t.tm)) := by
    rw [← putItem_field, dashed, putTime_eq, String.toList_ofList, Scan.dashed, List.flatMap_cons,
      hcons, List.cons_append, skipSpace_cons hd]
    rfl
  rw [getTime, htext, Scan.packed, timeGet_field hlo hhi, if_neg (List.cons_ne_nil _ _)]
  simp [timeGet, takeDigits, Tm.set, get, Tm.get]

/-- A date of which the year only is set has no text that can be read. -/
lemma getTime_year_only (t : Moment) :
    (getTime Scan.dashed (putTime Scan.dashed ⟨t.tm.year, 0, 0, 0, 0, 0⟩)).2 = true := by
  obtain ⟨d, ds, hcons, hd⟩ := t.putItem_cons .year
  obtain ⟨hlo, hhi⟩ := t.get_range .year
  have htail : Scan.dashed.tail.flatMap (putItem ⟨0, 0, 0, 0, 0, 0⟩) =
      ['-', '0', '1', '-', '0', '0', ' ', '0', '0', ':', '0', '0', ':', '0', '0'] := by
    decide
  have htext : skipSpace (putTime Scan.dashed ⟨t.tm.year, 0, 0, 0, 0, 0⟩).toList =
      padInt Field.year.range.1 (t.get .year) ++
        Scan.dashed.tail.flatMap (putItem ⟨0, 0, 0, 0, 0, 0⟩) := by
    have hyear : putItem ⟨t.tm.year, 0, 0, 0, 0, 0⟩ (.field .year) = d :: ds := hcons
    rw [← putItem_field, putTime_eq, String.toList_ofList, Scan.dashed, List.flatMap_cons, hyear,
      hcons, List.cons_append, skipSpace_cons hd]
    rfl
  rw [getTime, htext, htail, Scan.dashed, timeGet_field hlo hhi, if_neg (List.cons_ne_nil _ _)]
  -- the month is read as 1, and there is no day 0
  rfl

lemma packed_injective : Function.Injective packed := by
  intro a b h
  have hread := congrArg (getTime Scan.packed) h
  rw [getTime_packed, getTime_packed] at hread
  exact ext (congrArg Prod.fst hread)

lemma sscanf_fields (t : Moment) (fs : List Field) :
    sscanf (fs.map fun f => .int f.range.1) (fs.flatMap fun f => putItem t.tm (.field f)) =
      fs.map t.get := by
  induction fs with
  | nil => rfl
  | cons f fs ih =>
    obtain ⟨n, hn, hlt⟩ := t.get_digits f
    rw [List.map_cons, List.flatMap_cons, List.map_cons, putItem_field, hn, sscanf,
      scanInt_padInt f.width_pos hlt]
    exact congrArg _ ih

lemma sscanf_packed (t : Moment) :
    sscanf [.int 4, .int 2, .int 2, .int 2, .int 2, .int 2] t.packed.toList =
      [t.get .year, t.get .month, t.get .day, t.get .hour, t.get .minute, t.get .second] := by
  rw [packed, putTime_eq, String.toList_ofList]
  exact t.sscanf_fields [.year, .month, .day, .hour, .minute, .second]

/-- The part of a `sscanf` format that reads what a part of a time format writes. -/
def scanItem : TimeItem → Item
  | .field f => .int f.range.1
  | .lit c => .lit c

def fields : List TimeItem → List Field
  | [] => []
  | .field f :: items => f :: fields items
  | .lit _ :: items => fields items

lemma sscanf_putItem (t : Moment) {format : List TimeItem} (h : Readable format = true) :
    sscanf (format.map scanItem) (format.flatMap (putItem t.tm)) = (fields format).map t.get := by
  induction format with
  | nil => rfl
  | cons item items ih =>
    cases item with
    | field f =>
      obtain ⟨n, hn, hlt⟩ := t.get_digits f
      rw [List.map_cons, List.flatMap_cons, fields, List.map_cons, putItem_field, hn, scanItem,
        sscanf, scanInt_padInt f.width_pos hlt]
      exact congrArg _ (ih h)
    | lit c =>
      obtain ⟨hspace, hitems⟩ := Bool.and_eq_true_iff.mp h
      rw [List.map_cons, List.flatMap_cons, fields, ← ih hitems, scanItem, putItem,
        List.singleton_append, sscanf]
      -- as in the other reader
      by_cases hc : isSpace c = true
      · rw [if_pos hc]
        rw [hc, Bool.not_true, Bool.false_or] at hspace
        cases items with
        | nil => exact absurd hspace (by decide)
        | cons item items =>
          cases item with
          | lit c => exact absurd hspace (by simp)
          | field g =>
            obtain ⟨d, ds, hcons, hd⟩ := t.putItem_cons g
            rw [List.flatMap_cons, hcons, skipSpace, List.dropWhile_cons_of_pos hc, ← skipSpace,
              List.cons_append, skipSpace_cons hd]
      · rw [if_neg hc]
        exact if_pos rfl

lemma sscanf_dashed (t : Moment) :
    sscanf (Scan.dashed.map scanItem) t.dashed.toList =
      [t.get .year, t.get .month, t.get .day, t.get .hour, t.get .minute, t.get .second] := by
  rw [dashed, putTime_eq, String.toList_ofList]
  exact t.sscanf_putItem (by decide)

lemma packed_length (t : Moment) : t.packed.toList.length = 14 := by
  have hfield : ∀ f, (putItem t.tm (.field f)).length = f.range.1 := by
    intro f
    obtain ⟨n, hn, hlt⟩ := t.get_digits f
    rw [putItem_field, hn]
    exact (padInt_spec f.width_pos hlt).1
  rw [packed, putTime_eq, String.toList_ofList]
  simp [Scan.packed, hfield, Field.range]

end Moment

/-! ### Seconds since 1970 -/

/-- The day before the first of a month; months are counted from January of year 0. -/
def monthStart (n : ℤ) : ℤ :=
  daysFromCivil (n / 12) (n % 12 + 1) 0

lemma daysFromCivil_day (year month day : ℤ) :
    daysFromCivil year month day = daysFromCivil year month 0 + day := by
  simp only [daysFromCivil]
  omega

/-- A month begins when the days of the month before are over. -/
lemma monthStart_succ (n : ℤ) :
    monthStart (n + 1) = monthStart n + monthDays (n / 12) (n % 12 + 1) := by
  obtain ⟨y, m, hn, hlo, hhi⟩ : ∃ y m, n = 12 * y + m ∧ 0 ≤ m ∧ m < 12 :=
    ⟨n / 12, n % 12, by omega, by omega, by omega⟩
  have hy : n / 12 = y := by omega
  have hm : n % 12 = m := by omega
  by_cases hdec : m = 11
  · have hy' : (n + 1) / 12 = y + 1 := by omega
    have hm' : (n + 1) % 12 = 0 := by omega
    rw [monthStart, monthStart, hy, hm, hy', hm', hdec]
    simp only [daysFromCivil, monthDays]
    norm_num
    omega
  · have hy' : (n + 1) / 12 = y := by omega
    have hm' : (n + 1) % 12 = m + 1 := by omega
    rw [monthStart, monthStart, hy, hm, hy', hm']
    simp only [daysFromCivil, monthDays]
    interval_cases m <;> norm_num <;> (try split_ifs) <;> omega

lemma monthStart_strictMono : StrictMono monthStart := by
  refine strictMono_int_of_lt_succ fun n => ?_
  rw [monthStart_succ]
  have hpos : 28 ≤ monthDays (n / 12) (n % 12 + 1) := by
    unfold monthDays
    split_ifs <;> decide
  omega

/-- The month of a moment, counted from January of year 0. -/
def Moment.month (t : Moment) : ℤ :=
  t.get .year * 12 + (t.get .month - 1)

lemma mktimeUtc_eq (t : Moment) :
    mktimeUtc t.tm = (((monthStart t.month + t.get .day) * 24 + t.get .hour) * 60 +
      t.get .minute) * 60 + t.get .second := by
  obtain ⟨hlo, hhi⟩ := t.valid.month
  have hyear : t.month / 12 = t.tm.year + 1900 + t.tm.mon / 12 := by
    simp only [Moment.month, Moment.get, Tm.get] at hlo hhi ⊢
    omega
  have hmonth : t.month % 12 = t.tm.mon % 12 := by
    simp only [Moment.month, Moment.get, Tm.get]
    omega
  rw [mktimeUtc, monthStart, hyear, hmonth, daysFromCivil_day]
  rfl

lemma Moment.day_le (t : Moment) : monthStart t.month + t.get .day ≤ monthStart (t.month + 1) := by
  have hm := t.valid.month
  have hyear : t.month / 12 = t.get .year := by
    simp only [Moment.month, Moment.get] at hm ⊢
    omega
  have hmonth : t.month % 12 + 1 = t.get .month := by
    simp only [Moment.month, Moment.get] at hm ⊢
    omega
  rw [monthStart_succ, hyear, hmonth]
  exact Int.add_le_add_left t.valid.day.2 _

/-- `mktime` for UTC keeps the order of times. -/
theorem mktimeUtc_strictMono : StrictMono fun t : Moment => mktimeUtc t.tm := by
  intro a b h
  have hkey := Moment.lt_iff.mp h
  have ha := a.bounds
  have hb := b.bounds
  -- the day decides, and within a day the time
  have hday : monthStart a.month + a.get .day < monthStart b.month + b.get .day ∨
      monthStart a.month + a.get .day = monthStart b.month + b.get .day ∧
        (a.get .hour * 100 + a.get .minute) * 100 + a.get .second <
          (b.get .hour * 100 + b.get .minute) * 100 + b.get .second := by
    rcases lt_trichotomy a.month b.month with hm | hm | hm
    · have hle := monthStart_strictMono.monotone (Int.add_one_le_iff.mpr hm)
      have hend := a.day_le
      omega
    · rw [hm]
      simp only [Moment.month, Moment.key] at hm hkey
      omega
    · simp only [Moment.month, Moment.key] at hm hkey
      omega
  simp only [mktimeUtc_eq]
  omega

end Scan
