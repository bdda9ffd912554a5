import Mathlib.Data.List.Range
import Mathlib.Tactic.Common

/-!
# Byte memory

A block of memory addressed from its first byte, with `memcpy` into it and reading of its first
bytes. The block has no end: an access beyond the size of the object that lives there is visible
as an address, so that staying inside the object is something to prove.
-/

namespace ByteMem

abbrev Mem := ℕ → UInt8

/-- Copy `bs` to the addresses from `off` on. -/
def memcpy (m : Mem) (off : ℕ) (bs : List UInt8) : Mem :=
  fun i => if off ≤ i then (bs[i - off]?).getD (m i) else m i

/-- The first `n` bytes of a block. -/
def read (m : Mem) (n : ℕ) : List UInt8 :=
  (List.range n).map m

@[simp] lemma read_zero (m : Mem) : read m 0 = [] := rfl

@[simp] lemma length_read (m : Mem) (n : ℕ) : (read m n).length = n := by simp [read]

lemma memcpy_below (m : Mem) {off i : ℕ} (bs : List UInt8) (h : i < off) :
    memcpy m off bs i = m i := by
  simp [memcpy, Nat.not_le.mpr h]

lemma memcpy_at (m : Mem) (off : ℕ) {j : ℕ} {bs : List UInt8} (h : j < bs.length) :
    memcpy m off bs (off + j) = bs[j] := by
  simp [memcpy, h]

lemma memcpy_memcpy (m : Mem) (off : ℕ) (xs ys : List UInt8) :
    memcpy (memcpy m off xs) (off + xs.length) ys = memcpy m off (xs ++ ys) := by
  funext i
  simp only [memcpy]
  by_cases hoff : off ≤ i
  · by_cases hx : off + xs.length ≤ i
    · have hle : xs.length ≤ i - off := by omega
      have hsub : i - (off + xs.length) = i - off - xs.length := by omega
      simp [hoff, hx, List.getElem?_append_right hle, hsub, List.getElem?_eq_none hle]
    · have hlt : i - off < xs.length := by omega
      simp [hoff, hx, List.getElem?_append_left hlt]
  · have hx : ¬ off + xs.length ≤ i := by omega
    simp [hoff, hx]

/-- Bytes copied right behind the first `n` are read back behind them. -/
lemma read_memcpy (m : Mem) (n : ℕ) (bs : List UInt8) :
    read (memcpy m n bs) (n + bs.length) = read m n ++ bs := by
  simp only [read, List.range_add, List.map_append, List.map_map]
  congr 1
  · apply List.map_congr_left
    intro i hi
    exact memcpy_below m bs (List.mem_range.mp hi)
  · apply List.ext_getElem
    · simp
    · intro j h₁ h₂
      simp only [List.getElem_map, List.getElem_range, Function.comp_apply]
      exact memcpy_at m n h₂

end ByteMem
