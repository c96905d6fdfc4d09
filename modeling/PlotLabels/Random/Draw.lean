import PlotLabels.Random.ChaCha
/-!
# Drawing below a bound

A number below `n` from a stream of 32-bit words: a word `v` is widened to 64 bits and
multiplied by `n`; the high half of the product is the number, and the word is kept when
the low half lies in the accepted zone `(n << lz n) - 1`, where `lz n` counts the leading
zero bits of `n`. A rejected word is dropped and the next one tried. After `UInt32.size`
rejected words in a row the model takes the next word unchecked, where the program would go on
trying; the model assumes that no stream rejects that many words in a row.

* `zone`: the largest accepted low half.
* `draw`: the number and the stream after the accepted word.
* `draw_lt`: the number is below the bound.
-/

namespace PlotLabels.Random

open ChaCha

/-- The number of zero bits above the highest set bit of a word; 32 for zero. -/
def leadingZeros (n : UInt32) : Nat :=
  if n = 0 then 32 else 31 - n.toNat.log2

/-- The largest low half that is accepted for the bound `n`: `n` shifted up until its top
bit is set, less one, in 32-bit arithmetic. -/
def zone (n : UInt32) : UInt32 :=
  (n <<< (leadingZeros n).toUInt32) - 1

/-- The high and low halves of the 64-bit product of two words. -/
def wideMul (v n : UInt32) : UInt32 × UInt32 :=
  let m := v.toUInt64 * n.toUInt64
  ((m >>> 32).toUInt32, m.toUInt32)

/-- Try words until one is accepted, at most `fuel` of them after the first; the last word
tried answers when the fuel runs out. The loop this stands for has no bound, so the two agree
on every stream that does not reject `fuel + 1` words in a row. That no stream the program
meets does so for the fuel `draw` gives is an assumption of the model, not a fact proved here:
the accepted zone holds at least half of all low halves, but whether a stream's words fall in
it depends on the stream. Where the fuel did run out, the answer is still below `n`. -/
def drawWithin (n : UInt32) : Nat → Stream → UInt32 × Stream
  | 0, s =>
    let (v, s) := s.next
    ((wideMul v n).1, s)
  | fuel + 1, s =>
    let (v, s) := s.next
    let (hi, lo) := wideMul v n
    if lo ≤ zone n then (hi, s) else drawWithin n fuel s

/-- A number below `n`, and the stream after the word that gave it, for a stream that does
not reject `UInt32.size + 1` words in a row (the assumption of `drawWithin`). -/
def draw (n : UInt32) (s : Stream) : UInt32 × Stream :=
  drawWithin n UInt32.size s

theorem wideMul_fst_lt (v n : UInt32) (hn : 0 < n.toNat) : (wideMul v n).1.toNat < n.toNat := by
  have hv := v.toNat_lt
  have hn' := n.toNat_lt
  simp only [wideMul, UInt64.toNat_toUInt32, UInt64.toNat_shiftRight, UInt64.toNat_mul,
    UInt32.toNat_toUInt64]
  have hprod : v.toNat * n.toNat < 2 ^ 64 := by
    calc v.toNat * n.toNat < 2 ^ 32 * 2 ^ 32 := Nat.mul_lt_mul'' hv hn'
      _ = 2 ^ 64 := by decide
  rw [Nat.mod_eq_of_lt hprod]
  have h32 : (32 : UInt64).toNat % 64 = 32 := rfl
  rw [h32, Nat.shiftRight_eq_div_pow]
  have hlt : v.toNat * n.toNat / 2 ^ 32 < n.toNat := by
    rw [Nat.div_lt_iff_lt_mul (by decide)]
    calc v.toNat * n.toNat < 2 ^ 32 * n.toNat := Nat.mul_lt_mul_of_pos_right hv hn
      _ = n.toNat * 2 ^ 32 := Nat.mul_comm _ _
  rw [Nat.mod_eq_of_lt (by omega)]
  exact hlt

/-- The number drawn is below the bound. -/
theorem drawWithin_lt (n : UInt32) (hn : 0 < n.toNat) :
    ∀ (fuel : Nat) (s : Stream), (drawWithin n fuel s).1.toNat < n.toNat
  | 0, s => wideMul_fst_lt _ _ hn
  | fuel + 1, s => by
    simp only [drawWithin]
    split
    · exact wideMul_fst_lt _ _ hn
    · exact drawWithin_lt n hn fuel _

/-- The number drawn is below the bound. -/
theorem draw_lt (n : UInt32) (hn : 0 < n.toNat) (s : Stream) : (draw n s).1.toNat < n.toNat :=
  drawWithin_lt n hn _ s

end PlotLabels.Random
