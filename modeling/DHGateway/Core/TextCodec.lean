import Mathlib.Data.Int.Notation
import Mathlib.Data.Nat.Notation
import Mathlib.Tactic.Common

/-!
# Text codecs

An encoder into text with a decoder that reads its value back from the front of any text that
begins with it. Codecs are put together from those of their parts; the law is a field, so every
codec that can be built reads back what it writes.
-/

/-- An encoder and a decoder that undoes it at the front of a text. -/
structure TextCodec (α : Type) where
  enc : α → List Char
  dec : List Char → Option (α × List Char)
  dec_enc : ∀ a rest, dec (enc a ++ rest) = some (a, rest)

namespace TextCodec

variable {α β : Type}

/-! ### Fixed text -/

def strip : List Char → List Char → Option (List Char)
  | [], cs => some cs
  | _ :: _, [] => none
  | s :: ss, c :: cs => if s = c then strip ss cs else none

@[simp] lemma strip_append (s rest : List Char) : strip s (s ++ rest) = some rest := by
  induction s with
  | nil => rfl
  | cons c s ih => simp [strip, ih]

def after (s : List Char) (c : TextCodec α) : TextCodec α where
  enc a := s ++ c.enc a
  dec cs := (strip s cs).bind c.dec
  dec_enc a rest := by simp [c.dec_enc]

def followedBy (c : TextCodec α) (s : List Char) : TextCodec α where
  enc a := c.enc a ++ s
  dec cs := (c.dec cs).bind fun r => (strip s r.2).map fun rest => (r.1, rest)
  dec_enc a rest := by simp [c.dec_enc]

/-! ### Pairs and isomorphic types -/

def pair (c : TextCodec α) (d : TextCodec β) : TextCodec (α × β) where
  enc p := c.enc p.1 ++ d.enc p.2
  dec cs := (c.dec cs).bind fun r => (d.dec r.2).map fun q => ((r.1, q.1), q.2)
  dec_enc p rest := by simp [c.dec_enc, d.dec_enc]

/-- The values of `β` by way of `α`. -/
def via (c : TextCodec α) (f : α → β) (g : β → α) (h : ∀ b, f (g b) = b) : TextCodec β where
  enc b := c.enc (g b)
  dec cs := (c.dec cs).map fun r => (f r.1, r.2)
  dec_enc b rest := by simp [c.dec_enc, h]

/-! ### Truth values and numbers -/

/-- `true` and `false`. -/
def bool : TextCodec Bool where
  enc b := if b then "true".toList else "false".toList
  dec cs :=
    match strip "true".toList cs with
    | some rest => some (true, rest)
    | none => (strip "false".toList cs).map fun rest => (false, rest)
  dec_enc b rest := by
    cases b
    · rfl
    · rfl

/-- The digits at the front of a text and what follows them. -/
def digits (cs : List Char) : List Char × List Char :=
  (cs.takeWhile Char.isDigit, cs.dropWhile Char.isDigit)

lemma digits_append (ds : List Char) {c : Char} (rest : List Char) (h : ∀ d ∈ ds, d.isDigit = true)
    (hc : c.isDigit = false) : digits (ds ++ c :: rest) = (ds, c :: rest) := by
  rw [digits, List.takeWhile_append_of_pos h, List.dropWhile_append_of_pos h]
  simp [hc]

/-- A natural number in decimal, up to a character that is no digit. -/
def nat (c : Char) (hc : c.isDigit = false) : TextCodec ℕ where
  enc n := Nat.toDigits 10 n ++ [c]
  dec cs :=
    let (ds, rest) := digits cs
    (strip [c] rest).map fun rest => (Nat.ofDigitChars 10 ds 0, rest)
  dec_enc n rest := by
    have hd : ∀ d ∈ Nat.toDigits 10 n, d.isDigit = true := fun d hd =>
      Nat.isDigit_of_mem_toDigits (by decide) (by decide) hd
    rw [List.append_assoc, List.singleton_append, digits_append _ _ hd hc]
    simp [strip, Nat.ofDigitChars_ten_toDigits]

/-- An integer in decimal, up to a character that is no digit. -/
def int (c : Char) (hc : c.isDigit = false) : TextCodec ℤ where
  enc
    | .ofNat n => (nat c hc).enc n
    | .negSucc n => '-' :: (nat c hc).enc (n + 1)
  dec
    | '-' :: cs => ((nat c hc).dec cs).map fun r => (-(r.1 : ℤ), r.2)
    | cs => ((nat c hc).dec cs).map fun r => ((r.1 : ℤ), r.2)
  dec_enc n rest := by
    cases n with
    | negSucc n => simp [(nat c hc).dec_enc, Int.negSucc_eq]
    | ofNat n =>
      have hne : ∀ cs, (nat c hc).enc n ++ rest ≠ '-' :: cs := by
        intro cs heq
        obtain ⟨d, ds, hds⟩ := List.exists_cons_of_ne_nil (Nat.toDigits_ne_nil (n := n) (b := 10))
        have hd : d.isDigit = true :=
          Nat.isDigit_of_mem_toDigits (by decide) (by decide) (hds ▸ List.mem_cons_self)
        simp only [nat, hds, List.cons_append, List.cons.injEq] at heq
        rw [heq.1] at hd
        exact absurd hd (by decide)
      have hdec := (nat c hc).dec_enc n rest
      split
      · rename_i cs heq
        exact absurd heq (hne cs)
      · rw [hdec]
        rfl

/-! ### Strings -/

def escape (c : Char) : List Char :=
  if c = '"' ∨ c = '\\' then ['\\', c] else [c]

def unescape : List Char → Option (List Char × List Char)
  | [] => none
  | '"' :: cs => some ([], cs)
  | '\\' :: d :: cs => (unescape cs).map fun r => (d :: r.1, r.2)
  | c :: cs => (unescape cs).map fun r => (c :: r.1, r.2)

lemma unescape_escaped (d : Char) (cs : List Char) :
    unescape ('\\' :: d :: cs) = (unescape cs).map fun r => (d :: r.1, r.2) := by
  rw [unescape]

lemma unescape_cons {c : Char} (hq : c ≠ '"') (hb : c ≠ '\\') (cs : List Char) :
    unescape (c :: cs) = (unescape cs).map fun r => (c :: r.1, r.2) := by
  rw [unescape]
  · exact hq
  · exact fun _ _ hc _ => hb hc

lemma unescape_escape (s rest : List Char) :
    unescape (s.flatMap escape ++ '"' :: rest) = some (s, rest) := by
  induction s with
  | nil => rfl
  | cons c s ih =>
    rw [List.flatMap_cons, List.append_assoc, escape]
    split
    · show unescape ('\\' :: c :: (s.flatMap escape ++ '"' :: rest)) = _
      rw [unescape_escaped, ih]
      rfl
    · rename_i h
      rw [not_or] at h
      rw [List.singleton_append, unescape_cons h.1 h.2, ih]
      rfl

def str : TextCodec String where
  enc s := '"' :: (s.toList.flatMap escape ++ ['"'])
  dec cs := (strip ['"'] cs).bind fun cs => (unescape cs).map fun r => (String.ofList r.1, r.2)
  dec_enc s rest := by
    simp [strip, unescape_escape]

/-! ### Lists -/

/-- The items of a list, with commas between them, up to the closing bracket. -/
def encItems (c : TextCodec α) : α → List α → List Char
  | a, [] => c.enc a ++ [']']
  | a, b :: as => c.enc a ++ ',' :: encItems c b as

/-- Read items, at most `fuel` of them. -/
def decItems (c : TextCodec α) : ℕ → List Char → Option (List α × List Char)
  | 0, _ => none
  | fuel + 1, cs =>
    match c.dec cs with
    | some (a, ',' :: cs) => (decItems c fuel cs).map fun r => (a :: r.1, r.2)
    | some (a, ']' :: cs) => some ([a], cs)
    | _ => none

lemma decItems_encItems (c : TextCodec α) (a : α) (as : List α) (rest : List Char) :
    ∀ fuel, as.length < fuel →
      decItems c fuel (encItems c a as ++ rest) = some (a :: as, rest) := by
  induction as generalizing a with
  | nil =>
    intro fuel hfuel
    obtain ⟨fuel, rfl⟩ : ∃ k, fuel = k + 1 := ⟨fuel - 1, by omega⟩
    simp [decItems, encItems, c.dec_enc]
  | cons b as ih =>
    intro fuel hfuel
    obtain ⟨fuel, rfl⟩ : ∃ k, fuel = k + 1 := ⟨fuel - 1, by omega⟩
    have hrest := ih b fuel (by simpa using hfuel)
    simp [decItems, encItems, c.dec_enc, hrest]

lemma length_encItems (c : TextCodec α) (a : α) (as : List α) :
    as.length < (encItems c a as).length := by
  induction as generalizing a with
  | nil => simp [encItems]
  | cons b as ih =>
    have := ih b
    simp only [encItems, List.length_append, List.length_cons]
    omega

/-- A list in brackets, of items that begin with `o`. -/
def list (o : Char) (ho : o ≠ ']') (c : TextCodec α) : TextCodec (List α) where
  enc
    | [] => ['[', ']']
    | a :: as => '[' :: encItems (after [o] c) a as
  dec
    | '[' :: ']' :: cs => some ([], cs)
    | '[' :: cs => decItems (after [o] c) cs.length cs
    | _ => none
  dec_enc as rest := by
    cases as with
    | nil => rfl
    | cons a as =>
      have hfuel : as.length < (encItems (after [o] c) a as ++ rest).length := by
        rw [List.length_append]
        exact Nat.lt_add_right _ (length_encItems _ a as)
      have hdec := decItems_encItems (after [o] c) a as rest _ hfuel
      have hhead : ∃ cs, encItems (after [o] c) a as ++ rest = o :: cs := by
        cases as <;> exact ⟨_, rfl⟩
      obtain ⟨cs, hcs⟩ := hhead
      rw [hcs] at hdec
      -- the items begin with `o`, which does not close the list
      show (match '[' :: (encItems (after [o] c) a as ++ rest) with
        | '[' :: ']' :: cs => some ([], cs)
        | '[' :: cs => decItems (after [o] c) cs.length cs
        | _ => none) = _
      rw [hcs]
      split
      · rename_i heq
        simp only [List.cons.injEq, true_and] at heq
        exact absurd heq.1 ho
      · rename_i heq
        simp only [List.cons.injEq, true_and] at heq
        rw [← heq]
        exact hdec
      · rename_i h
        exact absurd rfl (h _)

/-! ### Texts that are cut short -/

/-- What the codec reads at the front of a text it reads at the front of every longer one. -/
def Local (c : TextCodec α) : Prop :=
  ∀ ⦃cs a rest⦄, c.dec cs = some (a, rest) → ∀ more, c.dec (cs ++ more) = some (a, rest ++ more)

lemma Local.dec_take {c : TextCodec α} (h : c.Local) {a : α} {n : ℕ} (hn : n < (c.enc a).length) :
    c.dec ((c.enc a).take n) = none := by
  cases hdec : c.dec ((c.enc a).take n) with
  | none => rfl
  | some r =>
    have hwhole := h hdec ((c.enc a).drop n)
    have hread := c.dec_enc a []
    rw [List.append_nil] at hread
    rw [List.take_append_drop, hread] at hwhole
    have hnil : r.2 ++ (c.enc a).drop n = [] := (Prod.mk.inj (Option.some.inj hwhole)).2.symm
    have hlen := congrArg List.length (List.append_eq_nil_iff.mp hnil).2
    rw [List.length_drop, List.length_nil] at hlen
    omega

lemma strip_eq_some {s cs rest : List Char} : strip s cs = some rest ↔ cs = s ++ rest := by
  constructor
  · intro h
    induction s generalizing cs with
    | nil => exact Option.some.inj h
    | cons d s ih =>
      cases cs with
      | nil => exact absurd h (by simp [strip])
      | cons c cs =>
        rw [strip] at h
        split_ifs at h with hd
        rw [hd, ih h, List.cons_append]
  · rintro rfl
    exact strip_append s rest

lemma strip_local {s cs rest : List Char} (h : strip s cs = some rest) (more : List Char) :
    strip s (cs ++ more) = some (rest ++ more) := by
  rw [strip_eq_some.mp h, List.append_assoc, strip_append]

lemma Local.after {c : TextCodec α} (h : c.Local) (s : List Char) : (after s c).Local := by
  intro cs a rest hdec more
  obtain ⟨cs', hstrip, hdec⟩ := Option.bind_eq_some_iff.mp hdec
  exact Option.bind_eq_some_iff.mpr ⟨_, strip_local hstrip more, h hdec more⟩

lemma Local.followedBy {c : TextCodec α} (h : c.Local) (s : List Char) :
    (c.followedBy s).Local := by
  intro cs a rest hdec more
  obtain ⟨r, hread, hdec⟩ := Option.bind_eq_some_iff.mp hdec
  obtain ⟨rest', hstrip, hr⟩ := Option.map_eq_some_iff.mp hdec
  cases hr
  exact Option.bind_eq_some_iff.mpr ⟨_, h hread more,
    Option.map_eq_some_iff.mpr ⟨_, strip_local hstrip more, rfl⟩⟩

lemma Local.pair {c : TextCodec α} {d : TextCodec β} (hc : c.Local) (hd : d.Local) :
    (c.pair d).Local := by
  intro cs a rest hdec more
  obtain ⟨r, hread, hdec⟩ := Option.bind_eq_some_iff.mp hdec
  obtain ⟨q, hread', hq⟩ := Option.map_eq_some_iff.mp hdec
  cases hq
  exact Option.bind_eq_some_iff.mpr ⟨_, hc hread more,
    Option.map_eq_some_iff.mpr ⟨_, hd hread' more, rfl⟩⟩

lemma Local.via {c : TextCodec α} (h : c.Local) {f : α → β} {g : β → α} (hf : ∀ b, f (g b) = b) :
    (c.via f g hf).Local := by
  intro cs b rest hdec more
  obtain ⟨r, hread, hr⟩ := Option.map_eq_some_iff.mp hdec
  cases hr
  exact Option.map_eq_some_iff.mpr ⟨_, h hread more, rfl⟩

lemma bool_local : bool.Local := by
  intro cs b rest hdec more
  have hcs : cs = bool.enc b ++ rest := by
    simp only [bool] at hdec
    cases htrue : strip "true".toList cs with
    | some rest' =>
      rw [htrue] at hdec
      cases hdec
      exact strip_eq_some.mp htrue
    | none =>
      rw [htrue] at hdec
      obtain ⟨rest', hfalse, hr⟩ := Option.map_eq_some_iff.mp hdec
      cases hr
      exact strip_eq_some.mp hfalse
  rw [hcs, List.append_assoc, bool.dec_enc]

lemma nat_local {c : Char} (hc : c.isDigit = false) : (nat c hc).Local := by
  intro cs n rest hdec more
  obtain ⟨rest', hstrip, hn⟩ := Option.map_eq_some_iff.mp hdec
  cases hn
  have hcs : cs = cs.takeWhile Char.isDigit ++ c :: rest := by
    have hdrop := strip_eq_some.mp hstrip
    calc cs = cs.takeWhile Char.isDigit ++ cs.dropWhile Char.isDigit :=
          List.takeWhile_append_dropWhile.symm
      _ = cs.takeWhile Char.isDigit ++ c :: rest := congrArg _ hdrop
  have hds : ∀ d ∈ cs.takeWhile Char.isDigit, d.isDigit = true :=
    List.all_eq_true.mp List.all_takeWhile
  have hread : digits (cs ++ more) = (cs.takeWhile Char.isDigit, c :: (rest ++ more)) := by
    conv_lhs => rw [hcs, List.append_assoc, List.cons_append]
    exact digits_append _ _ hds hc
  simp only [nat, hread]
  simp [strip]

lemma int_local {c : Char} (hc : c.isDigit = false) : (TextCodec.int c hc).Local := by
  intro cs n rest hdec more
  cases cs with
  | nil =>
    have hnone : (TextCodec.int c hc).dec [] = none := by
      simp [TextCodec.int, nat, digits, strip]
    exact absurd (hnone.symm.trans hdec) (by simp)
  | cons d cs =>
    by_cases hd : d = '-'
    · subst hd
      obtain ⟨r, hread, hr⟩ := Option.map_eq_some_iff.mp hdec
      cases hr
      exact Option.map_eq_some_iff.mpr ⟨_, nat_local hc hread more, rfl⟩
    · -- without a minus the number is read from the first character on
      have hplus : ∀ cs, (TextCodec.int c hc).dec (d :: cs) =
          ((nat c hc).dec (d :: cs)).map fun r => ((r.1 : ℤ), r.2) := by
        intro cs
        simp only [TextCodec.int]
        split
        · rename_i heq
          exact absurd (List.cons.inj heq).1 hd
        · rfl
      rw [hplus] at hdec
      rw [List.cons_append, hplus]
      obtain ⟨r, hread, hr⟩ := Option.map_eq_some_iff.mp hdec
      cases hr
      exact Option.map_eq_some_iff.mpr ⟨_, nat_local hc hread more, rfl⟩

lemma unescape_local {cs a rest : List Char} (h : unescape cs = some (a, rest))
    (more : List Char) : unescape (cs ++ more) = some (a, rest ++ more) := by
  induction cs using unescape.induct generalizing a with
  | case1 => exact absurd h (by simp [unescape])
  | case2 cs =>
    rw [unescape] at h
    cases h
    rfl
  | case3 d cs ih =>
    rw [unescape_escaped] at h
    obtain ⟨r, hread, hr⟩ := Option.map_eq_some_iff.mp h
    cases hr
    rw [List.cons_append, List.cons_append, unescape_escaped, ih hread]
    rfl
  | case4 c cs hq hb ih =>
    have hslash : c ≠ '\\' := by
      rintro rfl
      cases cs with
      | nil => exact absurd h (by simp [unescape])
      | cons d cs => exact hb d cs rfl rfl
    rw [unescape_cons hq hslash] at h
    obtain ⟨r, hread, hr⟩ := Option.map_eq_some_iff.mp h
    cases hr
    rw [List.cons_append, unescape_cons hq hslash, ih hread]
    rfl

lemma str_local : str.Local := by
  intro cs a rest hdec more
  obtain ⟨cs', hstrip, hdec⟩ := Option.bind_eq_some_iff.mp hdec
  obtain ⟨r, hread, hr⟩ := Option.map_eq_some_iff.mp hdec
  cases hr
  exact Option.bind_eq_some_iff.mpr ⟨_, strip_local hstrip more,
    Option.map_eq_some_iff.mpr ⟨_, unescape_local hread more, rfl⟩⟩

lemma decItems_local {c : TextCodec α} (h : c.Local) {fuel : ℕ} {cs rest : List Char} {as : List α}
    (hdec : decItems c fuel cs = some (as, rest)) (more : List Char) {fuel' : ℕ}
    (hfuel : fuel ≤ fuel') : decItems c fuel' (cs ++ more) = some (as, rest ++ more) := by
  induction fuel generalizing cs as fuel' with
  | zero => exact absurd hdec (by simp [decItems])
  | succ fuel ih =>
    -- there is fuel for as many items as before
    obtain ⟨fuel', rfl⟩ : ∃ k, fuel' = k + 1 := ⟨fuel' - 1, by omega⟩
    rw [decItems] at hdec ⊢
    split at hdec
    · rename_i a cs' hitem
      obtain ⟨r, hread, hr⟩ := Option.map_eq_some_iff.mp hdec
      cases hr
      rw [h hitem more]
      simp only [List.cons_append]
      rw [ih hread (by omega)]
      rfl
    · rename_i a cs' hitem
      cases hdec
      rw [h hitem more]
      rfl
    · exact absurd hdec (by simp)

lemma list_local {o : Char} (ho : o ≠ ']') {c : TextCodec α} (h : c.Local) :
    (list o ho c).Local := by
  intro cs as rest hdec more
  simp only [list] at hdec ⊢
  split at hdec
  · cases hdec
    rfl
  · rename_i cs' hne
    have hitems := decItems_local (h.after [o]) hdec more
      (show cs'.length ≤ (cs' ++ more).length by simp)
    cases cs' with
    | nil => exact absurd hdec (by simp [decItems])
    | cons d cs' =>
      simp only [List.cons_append] at hitems ⊢
      split
      · -- the longer text closes the list at once only if the shorter one does
        rename_i heq
        simp only [List.cons.injEq, true_and] at heq
        exact absurd (by rw [heq.1]) (hne cs')
      · rename_i heq
        rw [← (List.cons.inj heq).2]
        exact hitems
      · rename_i hno
        exact absurd rfl (hno _)
  · exact absurd hdec (by simp)

end TextCodec
