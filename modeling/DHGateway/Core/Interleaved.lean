import Mathlib.Algebra.Order.Ring.Int
import Mathlib.Data.List.Infix
import Mathlib.Tactic.Common

/-!
# Interleaved framing

Packets on a byte stream, each behind a four byte header: `'$'`, a channel byte `0` and the
length of the packet in two bytes, most significant first. A stream of frames reads back as its
packets by the length fields alone.
-/

namespace Interleaved

/-- The header of a packet of `n` bytes. -/
def header (n : ℕ) : List UInt8 :=
  [0x24, 0, UInt8.ofNat (n / 256), UInt8.ofNat (n % 256)]

def frame (p : List UInt8) : List UInt8 :=
  header p.length ++ p

/-- The stream of the packets `ps`. -/
def frames (ps : List (List UInt8)) : List UInt8 :=
  ps.flatMap frame

@[simp] lemma length_header (n : ℕ) : (header n).length = 4 := rfl

@[simp] lemma length_frame (p : List UInt8) : (frame p).length = p.length + 4 := by
  simp [frame, Nat.add_comm]

@[simp] lemma frames_nil : frames [] = [] := rfl

@[simp] lemma frames_cons (p : List UInt8) (ps : List (List UInt8)) :
    frames (p :: ps) = frame p ++ frames ps := rfl

@[simp] lemma frames_append (ps qs : List (List UInt8)) :
    frames (ps ++ qs) = frames ps ++ frames qs := by
  simp [frames]

/-- Read the packet at the front of a stream, by its length field. -/
def readFrame : List UInt8 → Option (List UInt8 × List UInt8)
  | _ :: _ :: hi :: lo :: rest =>
    let n := hi.toNat * 256 + lo.toNat
    if n ≤ rest.length then some (rest.take n, rest.drop n) else none
  | _ => none

/-- Read a whole stream, at most `fuel` packets of it. -/
def readFramesUpTo : ℕ → List UInt8 → Option (List (List UInt8))
  | _, [] => some []
  | 0, _ :: _ => none
  | fuel + 1, bs =>
    match readFrame bs with
    | none => none
    | some (p, rest) => (readFramesUpTo fuel rest).map (p :: ·)

/-- Read a whole stream. No frame is empty, so there are not more frames than bytes. -/
def readFrames (bs : List UInt8) : Option (List (List UInt8)) :=
  readFramesUpTo bs.length bs

lemma length_field {n : ℕ} (h : n < 65536) :
    (UInt8.ofNat (n / 256)).toNat * 256 + (UInt8.ofNat (n % 256)).toNat = n := by
  have hhi : (UInt8.ofNat (n / 256)).toNat = n / 256 := by simp; omega
  have hlo : (UInt8.ofNat (n % 256)).toNat = n % 256 := by simp
  rw [hhi, hlo]
  omega

lemma readFrame_frame {p : List UInt8} (rest : List UInt8) (h : p.length < 65536) :
    readFrame (frame p ++ rest) = some (p, rest) := by
  simp only [frame, header, List.cons_append, List.nil_append, readFrame, length_field h]
  simp

lemma readFramesUpTo_frames {ps : List (List UInt8)} (h : ∀ p ∈ ps, p.length < 65536) :
    ∀ fuel, ps.length ≤ fuel → readFramesUpTo fuel (frames ps) = some ps := by
  induction ps with
  | nil => intro fuel _; cases fuel <;> rfl
  | cons p ps ih =>
    intro fuel hfuel
    obtain ⟨fuel, rfl⟩ : ∃ k, fuel = k + 1 := ⟨fuel - 1, by simp at hfuel; omega⟩
    have hread := readFrame_frame (frames ps) (h p List.mem_cons_self)
    have hrest := ih (fun q hq => h q (List.mem_cons_of_mem _ hq)) fuel (by simpa using hfuel)
    have hne : frame p ++ frames ps = 0x24 :: 0 :: UInt8.ofNat (p.length / 256) ::
        UInt8.ofNat (p.length % 256) :: (p ++ frames ps) := rfl
    rw [frames_cons, hne, readFramesUpTo, ← hne, hread]
    · simp [hrest]
    · simp

lemma length_le_frames (ps : List (List UInt8)) : ps.length ≤ (frames ps).length := by
  induction ps with
  | nil => simp
  | cons p ps ih => simp; omega

/-- A stream of frames reads back as its packets, in order. -/
theorem readFrames_frames {ps : List (List UInt8)} (h : ∀ p ∈ ps, p.length < 65536) :
    readFrames (frames ps) = some ps :=
  readFramesUpTo_frames h _ (length_le_frames ps)

lemma length_frames (ps : List (List UInt8)) :
    (frames ps).length = (ps.map fun p => p.length + 4).sum := by
  induction ps with
  | nil => rfl
  | cons p ps ih => simp [ih]

end Interleaved
