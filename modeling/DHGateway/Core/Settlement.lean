import Mathlib.Data.List.Range
import Mathlib.Tactic.Common

/-!
# Settling deliveries

A channel of a message broker on which deliveries are numbered from `1`. A delivery with
acknowledgements stays outstanding until it is settled; a negative acknowledgement for several
deliveries returns all that are outstanding up to its number, and so does closing the channel for
all of them.
-/

namespace Settlement

/-- The number of deliveries, and which of them are outstanding, acknowledged or returned to the
queue. -/
structure Channel where
  delivered : ℕ
  outstanding : List ℕ
  acked : List ℕ
  returned : List ℕ

namespace Channel

def new : Channel := ⟨0, [], [], []⟩

def nextTag (c : Channel) : ℕ := c.delivered + 1

/-- The next delivery; one that needs no acknowledgement counts as acknowledged. -/
def deliver (c : Channel) (noAck : Bool) : Channel :=
  if noAck then { c with delivered := c.nextTag, acked := c.acked ++ [c.nextTag] }
  else { c with delivered := c.nextTag, outstanding := c.outstanding ++ [c.nextTag] }

/-- A negative acknowledgement up to a number, with requeueing. -/
def nackUpTo (c : Channel) (tag : ℕ) : Channel :=
  { c with
    outstanding := c.outstanding.filter fun t => !decide (t ≤ tag)
    returned := c.returned ++ c.outstanding.filter fun t => decide (t ≤ tag) }

def close (c : Channel) : Channel :=
  { c with outstanding := [], returned := c.returned ++ c.outstanding }

/-- Each delivery is outstanding, acknowledged or returned, and only once. -/
def Accounted (c : Channel) : Prop :=
  ∀ tag, c.outstanding.count tag + c.acked.count tag + c.returned.count tag =
    if 1 ≤ tag ∧ tag ≤ c.delivered then 1 else 0

lemma accounted_new : new.Accounted := by
  intro tag
  rw [if_neg]
  · rfl
  · intro h
    have : tag ≤ 0 := h.2
    omega

lemma Accounted.deliver {c : Channel} (h : c.Accounted) (noAck : Bool) :
    (c.deliver noAck).Accounted := by
  intro tag
  have htag := h tag
  have hnew : [c.delivered + 1].count tag = if tag = c.delivered + 1 then 1 else 0 := by
    by_cases hk : tag = c.delivered + 1
    · simp [hk]
    · rw [if_neg hk, List.count_eq_zero_of_not_mem (by simpa using hk)]
  cases noAck <;>
    simp only [Channel.deliver, nextTag, Bool.false_eq_true, if_false, if_true, List.count_append,
      hnew] <;>
    split_ifs at htag ⊢ <;> omega

lemma Accounted.nackUpTo {c : Channel} (h : c.Accounted) (upTo : ℕ) :
    (c.nackUpTo upTo).Accounted := by
  intro tag
  rw [← show _ = (if 1 ≤ tag ∧ tag ≤ (c.nackUpTo upTo).delivered then 1 else 0) from h tag]
  simp only [Channel.nackUpTo, List.count_append]
  by_cases hle : tag ≤ upTo
  · have hkept : tag ∉ c.outstanding.filter fun t => !decide (t ≤ upTo) := by
      simp [hle]
    rw [List.count_eq_zero_of_not_mem hkept, List.count_filter (by simpa using hle)]
    omega
  · have hgone : tag ∉ c.outstanding.filter fun t => decide (t ≤ upTo) := by
      simp [hle]
    rw [List.count_eq_zero_of_not_mem hgone, List.count_filter (by simpa using hle)]
    omega

lemma Accounted.close {c : Channel} (h : c.Accounted) : c.close.Accounted := by
  intro tag
  rw [← show _ = (if 1 ≤ tag ∧ tag ≤ c.close.delivered then 1 else 0) from h tag]
  simp only [Channel.close, List.count_append, List.count_nil]
  omega

lemma Accounted.count_returned {c : Channel} (h : c.Accounted) {tag : ℕ} (h1 : 1 ≤ tag)
    (hn : tag ≤ c.delivered) (hout : tag ∉ c.outstanding) (hack : tag ∉ c.acked) :
    c.returned.count tag = 1 := by
  have hcount := h tag
  rw [if_pos ⟨h1, hn⟩, List.count_eq_zero_of_not_mem hout,
    List.count_eq_zero_of_not_mem hack] at hcount
  omega

end Channel

end Settlement
