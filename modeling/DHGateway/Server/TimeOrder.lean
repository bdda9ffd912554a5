import DHGateway.Core.DigitOrder
import DHGateway.Server.RecordList

/-!
# The order of times

`CompareTime` parses two texts of 14 digits, counts the seconds since 1970 and compares the counts.
On texts that denote times this is the order of the texts.
-/

namespace DHGateway

open Scan (Moment)

/-- The number that `n` digits of a text say, from a place on. -/
def digitsAt (s : String) (i n : ℕ) : ℤ :=
  Digits.number ((s.toList.drop i).take n)

/-- The fields of a text `YYYYMMDDHHMMSS`. -/
def timeOf (s : String) : Scan.Tm :=
  ⟨digitsAt s 0 4 - 1900, digitsAt s 4 2 - 1, digitsAt s 6 2, digitsAt s 8 2, digitsAt s 10 2,
    digitsAt s 12 2⟩

/-- A text of 14 digits that denotes a time of the years from 1970 to 3000, and not one before the
epoch where the local time is `offset` seconds ahead of UTC. -/
structure IsTime (offset : ℤ) (s : String) : Prop where
  length : s.toList.length = 14
  isDigit : ∀ d ∈ s.toList, d.isDigit = true
  valid : (timeOf s).Valid
  year : (timeOf s).get .year ≤ 3000
  epoch : (timeOf s).get .year = 1970 → 0 ≤ Scan.mktimeUtc (timeOf s) - offset

/-! ### The texts of moments -/

lemma number_take_drop (n : ℕ) (l : List Char) : Digits.number l =
    10 ^ (l.length - n) * Digits.number (l.take n) + Digits.number (l.drop n) := by
  rw [← List.length_drop, ← Digits.number_append, List.take_append_drop]

lemma number_eq {s : String} (h : s.toList.length = 14) : (Digits.number s.toList : ℤ) =
    ((((digitsAt s 0 4 * 100 + digitsAt s 4 2) * 100 + digitsAt s 6 2) * 100 +
      digitsAt s 8 2) * 100 + digitsAt s 10 2) * 100 + digitsAt s 12 2 := by
  have hyear := number_take_drop 4 s.toList
  have hmonth := number_take_drop 2 (s.toList.drop 4)
  have hday := number_take_drop 2 (s.toList.drop 6)
  have hhour := number_take_drop 2 (s.toList.drop 8)
  have hminute := number_take_drop 2 (s.toList.drop 10)
  have hsecond := number_take_drop 2 (s.toList.drop 12)
  have hend : s.toList.drop 14 = [] := List.drop_eq_nil_of_le h.le
  simp only [List.drop_drop, List.length_drop, h, Nat.reduceAdd, Nat.reduceSub, Nat.reducePow,
    hend, Digits.number_nil] at hyear hmonth hday hhour hminute hsecond
  simp only [digitsAt, List.drop_zero]
  omega

lemma field_spec (t : Moment) (f : Scan.Field) :
    (Scan.padInt f.range.1 (t.get f)).length = f.range.1 ∧
      (∀ d ∈ Scan.padInt f.range.1 (t.get f), d.isDigit = true) ∧
      (Digits.number (Scan.padInt f.range.1 (t.get f)) : ℤ) = t.get f := by
  obtain ⟨n, hn, hlt⟩ := t.get_digits f
  obtain ⟨hlen, hdigits, hvalue⟩ := Scan.padInt_spec f.width_pos hlt
  rw [hn]
  exact ⟨hlen, hdigits, congrArg Int.ofNat hvalue⟩

lemma packed_spec (t : Moment) : (∀ d ∈ t.packed.toList, d.isDigit = true) ∧
    (Digits.number t.packed.toList : ℤ) = t.key := by
  have htext : t.packed.toList =
      Scan.padInt 4 (t.get .year) ++ (Scan.padInt 2 (t.get .month) ++
        (Scan.padInt 2 (t.get .day) ++ (Scan.padInt 2 (t.get .hour) ++
          (Scan.padInt 2 (t.get .minute) ++ Scan.padInt 2 (t.get .second))))) := by
    simp only [Moment.packed, Scan.putTime_eq, String.toList_ofList, Scan.packed,
      List.flatMap_cons, List.flatMap_nil, Moment.putItem_field, Scan.Field.range, List.append_nil]
  obtain ⟨-, hdyear, hyear⟩ := field_spec t .year
  obtain ⟨hlmonth, hdmonth, hmonth⟩ := field_spec t .month
  obtain ⟨hlday, hdday, hday⟩ := field_spec t .day
  obtain ⟨hlhour, hdhour, hhour⟩ := field_spec t .hour
  obtain ⟨hlminute, hdminute, hminute⟩ := field_spec t .minute
  obtain ⟨hlsecond, hdsecond, hsecond⟩ := field_spec t .second
  simp only [Scan.Field.range] at *
  constructor
  · intro d hd
    rw [htext] at hd
    simp only [List.mem_append] at hd
    rcases hd with hd | hd | hd | hd | hd | hd
    · exact hdyear d hd
    · exact hdmonth d hd
    · exact hdday d hd
    · exact hdhour d hd
    · exact hdminute d hd
    · exact hdsecond d hd
  · rw [htext]
    simp only [Digits.number_append, List.length_append, hlmonth, hlday, hlhour, hlminute,
      hlsecond, Moment.key, Nat.reduceAdd, Nat.reducePow, Nat.cast_add, Nat.cast_mul,
      Nat.cast_ofNat, hyear, hmonth, hday, hhour, hminute, hsecond]
    omega

lemma IsTime.exists_moment {offset : ℤ} {s : String} (h : IsTime offset s) :
    ∃ t : Moment, t.tm = timeOf s ∧ s = t.packed := by
  refine ⟨⟨timeOf s, h.valid⟩, rfl, ?_⟩
  obtain ⟨hdigits, hnumber⟩ := packed_spec ⟨timeOf s, h.valid⟩
  apply String.toList_inj.mp
  -- two texts of one length are the same when their numbers are
  apply Digits.eq_of_number_eq
  · rw [h.length, Moment.packed_length]
  · exact h.isDigit
  · exact hdigits
  · apply Int.ofNat.inj
    show (Digits.number s.toList : ℤ) = _
    rw [number_eq h.length]
    refine Eq.trans ?_ hnumber.symm
    simp only [Moment.key, Moment.get, Scan.Tm.get, timeOf]
    omega

/-- The texts are in the order of their moments. -/
lemma packed_lt_iff {a b : Moment} : a.packed < b.packed ↔ a < b := by
  obtain ⟨ha, hkeya⟩ := packed_spec a
  obtain ⟨hb, hkeyb⟩ := packed_spec b
  have hlen : a.packed.toList.length = b.packed.toList.length := by
    rw [Moment.packed_length, Moment.packed_length]
  rw [Moment.lt_iff, ← hkeya, ← hkeyb, Int.ofNat_lt]
  exact Digits.lt_iff_number_lt hlen ha hb

/-! ### The order -/

/-- `cmp` is the order of the texts for which `P` holds: `0` before, `1` after, `-1` equal. -/
structure TimeOrder (P : String → Prop) (cmp : String → String → ℤ) : Prop where
  before : ∀ a b, P a → P b → (cmp a b = 0 ↔ a < b)
  after : ∀ a b, P a → P b → (cmp a b = 1 ↔ b < a)
  equal : ∀ a b, P a → P b → (cmp a b = -1 ↔ a = b)
  antisymm : ∀ a b, P a → P b → (cmp a b = 0 ↔ cmp b a = 1)
  trans : ∀ a b c, P a → P b → P c → cmp a b = 0 → cmp b c = 0 → cmp a c = 0

lemma IsTime.exists_counted {env : Env} {offset : ℤ} (hmktime : MktimeAt env offset) {s : String}
    (h : IsTime offset s) : ∃ t : Moment, s = t.packed ∧ Counts env offset t := by
  obtain ⟨t, ht, hs⟩ := h.exists_moment
  refine ⟨t, hs, hmktime.counts ?_ ?_⟩
  · rw [Moment.get, ht]
    exact h.year
  · rw [Moment.get, ht]
    exact h.epoch

/-- `CompareTime` is chronological, whatever its variables hold to begin with. -/
theorem compareTime_timeOrder {env : Env} {offset : ℤ} (hmktime : MktimeAt env offset)
    (locals : ℕ → ℤ) : TimeOrder (IsTime offset) (compareTime env locals) := by
  -- on texts of times the three results are those of comparing the texts
  have hcompare : ∀ a b, IsTime offset a → IsTime offset b →
      (compareTime env locals a b = 0 ↔ a < b) ∧ (compareTime env locals a b = 1 ↔ b < a) ∧
        (compareTime env locals a b = -1 ↔ a = b) := by
    intro a b ha hb
    obtain ⟨t, rfl, ht⟩ := ha.exists_counted hmktime
    obtain ⟨u, rfl, hu⟩ := hb.exists_counted hmktime
    rw [packed_lt_iff, packed_lt_iff, Moment.packed_injective.eq_iff, eq_comm (a := t)]
    exact compareTime_packed locals ht hu
  constructor
  · exact fun a b ha hb => (hcompare a b ha hb).1
  · exact fun a b ha hb => (hcompare a b ha hb).2.1
  · exact fun a b ha hb => (hcompare a b ha hb).2.2
  · intro a b ha hb
    rw [(hcompare a b ha hb).1, (hcompare b a hb ha).2.1]
  · intro a b c ha hb hc
    rw [(hcompare a b ha hb).1, (hcompare b c hb hc).1, (hcompare a c ha hc).1]
    exact fun hab hbc => String.lt_trans hab hbc

lemma isTime_leapDay : IsTime 28800 "20240229235959" ∧ IsTime 28800 "20240301000000" := by
  constructor
  · exact ⟨by decide, List.all_eq_true.mp (by decide), by decide, by decide, by decide⟩
  · exact ⟨by decide, List.all_eq_true.mp (by decide), by decide, by decide, by decide⟩

/-- The last second of a leap day is before the first of the next month. -/
theorem compareTime_leapDay : TimeOrder (IsTime 28800) (compareTime Env.utc8 fun _ => 0) ∧
    compareTime Env.utc8 (fun _ => 0) "20240229235959" "20240301000000" = 0 := by
  have horder := compareTime_timeOrder mktimeAt_utc8 fun _ => 0
  refine ⟨horder, ?_⟩
  rw [horder.before _ _ isTime_leapDay.1 isTime_leapDay.2]
  decide

end DHGateway
