import Mathlib.Algebra.Order.Ring.Int

/-!
# Numbers and times in text

The functions of the C and C++ library that read numbers and calendar times from text and write
them: `atoi`, `sscanf`, `std::get_time`, `std::put_time`. Texts are lists of characters.
-/

namespace Scan

/-- `isspace`. -/
def isSpace (c : Char) : Bool :=
  c = ' ' || (9 ≤ c.toNat && c.toNat ≤ 13)

def skipSpace (cs : List Char) : List Char :=
  cs.dropWhile isSpace

/-- At most `w` digits and what follows them. -/
def takeDigits (w : ℕ) (cs : List Char) : List Char × List Char :=
  let ds := (cs.take w).takeWhile Char.isDigit
  (ds, cs.drop ds.length)

/-- An optional sign: whether there is one, whether it is a minus, and what follows it. -/
def sign : List Char → Bool × Bool × List Char
  | '-' :: cs => (true, true, cs)
  | '+' :: cs => (true, false, cs)
  | cs => (false, false, cs)

def value (neg : Bool) (ds : List Char) : ℤ :=
  let n : ℤ := Nat.ofDigitChars 10 ds 0
  if neg then -n else n

/-- `atoi`. C leaves a value that is no `int` undefined; here it is the nearest `int`. -/
def atoi (cs : List Char) : ℤ :=
  let (_, neg, cs) := sign (skipSpace cs)
  max (-2 ^ 31) (min (2 ^ 31 - 1) (value neg (cs.takeWhile Char.isDigit)))

/-! ### Formatted input -/

/-- A part of a `sscanf` format: a number of at most so many characters, or a character; a space
stands for any white space. -/
inductive Item where
  | int (width : ℕ)
  | lit (c : Char)

/-- `%d` with a width. -/
def scanInt (width : ℕ) (cs : List Char) : Option (ℤ × List Char) :=
  let (signed, neg, cs) := sign (skipSpace cs)
  let (ds, rest) := takeDigits (if signed then width - 1 else width) cs
  if ds = [] then none else some (value neg ds, rest)

/-- `sscanf`: the values assigned before the first part that does not match. -/
def sscanf : List Item → List Char → List ℤ
  | [], _ => []
  | .int w :: items, cs =>
    match scanInt w cs with
    | none => []
    | some (n, cs) => n :: sscanf items cs
  | .lit c :: items, cs =>
    if isSpace c then sscanf items (skipSpace cs)
    else
      match cs with
      | [] => []
      | d :: cs => if c = d then sscanf items cs else []

/-- Variables after `sscanf` has assigned the first of them. -/
def assign (vs : List ℤ) (locals : ℕ → ℤ) : ℕ → ℤ :=
  fun i => vs.getD i (locals i)

/-! ### Formatted output -/

/-- `%0wd`. -/
def padInt (w : ℕ) (n : ℤ) : List Char :=
  let ds := Nat.toDigits 10 n.natAbs
  if n < 0 then '-' :: (List.replicate (w - 1 - ds.length) '0' ++ ds)
  else List.replicate (w - ds.length) '0' ++ ds

/-! ### Calendar times -/

/-- `struct tm`, with months from `0` and years from 1900. -/
structure Tm where
  year : ℤ
  mon : ℤ
  mday : ℤ
  hour : ℤ
  min : ℤ
  sec : ℤ
  deriving DecidableEq

/-- A member of `struct tm` in a time format: `%Y`, `%m`, `%d`, `%H`, `%M`, `%S`. -/
inductive Field where
  | year
  | month
  | day
  | hour
  | minute
  | second
  deriving DecidableEq

/-- How many digits a field has, and its least and greatest value. -/
def Field.range : Field → ℕ × ℤ × ℤ
  | .year => (4, 0, 9999)
  | .month => (2, 1, 12)
  | .day => (2, 1, 31)
  | .hour => (2, 0, 23)
  | .minute => (2, 0, 59)
  | .second => (2, 0, 60)

def Tm.set (t : Tm) : Field → ℤ → Tm
  | .year, n => { t with year := n - 1900 }
  | .month, n => { t with mon := n - 1 }
  | .day, n => { t with mday := n }
  | .hour, n => { t with hour := n }
  | .minute, n => { t with min := n }
  | .second, n => { t with sec := n }

def Tm.get (t : Tm) : Field → ℤ
  | .year => t.year + 1900
  | .month => t.mon + 1
  | .day => t.mday
  | .hour => t.hour
  | .minute => t.min
  | .second => t.sec

inductive TimeItem where
  | field (f : Field)
  | lit (c : Char)

/-- `%Y-%m-%d %H:%M:%S`. -/
def dashed : List TimeItem :=
  [.field .year, .lit '-', .field .month, .lit '-', .field .day, .lit ' ', .field .hour, .lit ':',
    .field .minute, .lit ':', .field .second]

/-- `%Y%m%d%H%M%S`. -/
def packed : List TimeItem :=
  [.field .year, .field .month, .field .day, .field .hour, .field .minute, .field .second]

/-- The loop of `std::time_get::get`: the time read so far and whether it failed. The text may end
behind a field, where the loop ends without a failure. -/
def timeGet : List TimeItem → Tm → List Char → Tm × Bool
  | [], t, _ => (t, false)
  | _ :: _, t, [] => (t, true)
  | .lit c :: items, t, d :: cs =>
    if isSpace c then timeGet items t (skipSpace (d :: cs))
    else if c = d then timeGet items t cs else (t, true)
  | .field f :: items, t, d :: cs =>
    let (width, lo, hi) := f.range
    let (ds, rest) := takeDigits width (d :: cs)
    let n := value false ds
    if ds = [] ∨ n < lo ∨ hi < n then (t, true)
    else if rest = [] then (t.set f n, false)
    else timeGet items (t.set f n) rest

/-- `ss >> std::get_time(&t, format)` for a zeroed `t`, and whether `ss.fail()` holds then. -/
def getTime (format : List TimeItem) (text : String) : Tm × Bool :=
  timeGet format ⟨0, 0, 0, 0, 0, 0⟩ (skipSpace text.toList)

/-- `std::put_time`. A year has as many digits as it needs. -/
def putTime (format : List TimeItem) (t : Tm) : String :=
  String.ofList <| format.flatMap fun
    | .lit c => [c]
    | .field .year => padInt 0 (t.get .year)
    | .field f => padInt 2 (t.get f)

/-- The days from 1970-01-01 to a date of the Gregorian calendar, with years that begin in March so
that a leap day is the last one. -/
def daysFromCivil (year month day : ℤ) : ℤ :=
  let y := if month ≤ 2 then year - 1 else year
  let doy := (153 * (if month ≤ 2 then month + 9 else month - 3) + 2) / 5 + day - 1
  y * 365 + y / 4 - y / 100 + y / 400 + doy - 719468

/-- `mktime` where the local time is UTC. -/
def mktimeUtc (t : Tm) : ℤ :=
  let days := daysFromCivil (t.year + 1900 + t.mon / 12) (t.mon % 12 + 1) t.mday
  ((days * 24 + t.hour) * 60 + t.min) * 60 + t.sec

example : mktimeUtc ⟨123, 10, 21, 8, 5, 0⟩ = 1700553900 := by decide

example : getTime dashed "2023-11-21 08:05:00" = (⟨123, 10, 21, 8, 5, 0⟩, false) := by decide

example : (getTime dashed "2023-13-21 00:00:00").2 = true := by decide

end Scan
