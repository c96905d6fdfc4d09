import PlotLabels.Hash.Sha3
import PlotLabels.Random.Draw
import PlotLabels.Label
import PlotLabels.Style
/-!
# Seeds and candidates

A seed is the opaque text a name is derived from, usually a hexadecimal puzzle hash. Each
attempt at naming it hashes a salt: the seed itself on attempt zero, and the seed, a hyphen
and the attempt's decimal numeral after that. So seed `x` on attempt 1 and seed `x-1` on
attempt 0 share a salt.

The candidate is the label tried for a seed on one attempt. The SHA3-256 digest of the salt
keys a ChaCha20 word stream; three draws from it pick a colour, then an animal, then an
adjective, each below its list's size; the style shows two of the three words, capitalised.

* `Seed.salted`: the salt of an attempt; `Seed.salted_zero`, `Seed.salted_ne_zero`: the two
  cases.
* `Candidate.stream`: the word stream of a salt.
* `Candidate.indices`: the three positions drawn, each below its list's size.
* `Candidate.picks`: the words at those positions.
* `candidate`: the label of a seed, an attempt and a style.
-/

namespace PlotLabels

/-! ## Seeds and salts -/

/-- The text a name is derived from. -/
abbrev Seed := String

/-- The text hashed for attempt `attempt` at naming `seed`. -/
def Seed.salted (seed : Seed) (attempt : UInt32) : String :=
  if attempt = 0 then seed else seed ++ "-" ++ toString attempt.toNat

@[simp] theorem Seed.salted_zero (seed : Seed) : seed.salted 0 = seed := rfl

theorem Seed.salted_ne_zero (seed : Seed) {attempt : UInt32} (h : attempt ≠ 0) :
    seed.salted attempt = seed ++ "-" ++ toString attempt.toNat := by
  simp [Seed.salted, h]

/-! ## Candidates -/

open Vocabulary

namespace Candidate

/-- The word stream keyed by the digest of the salt's UTF-8 bytes. -/
def stream (salt : String) : Random.ChaCha.Stream :=
  { key := Hash.Sha3.sha3_256 salt.toUTF8 }

/-- A position below `n`, for a list of `n` words, and the stream after it. -/
def drawIndex (n : Nat) (hn : 0 < n) (hsmall : n < UInt32.size) (s : Random.ChaCha.Stream) :
    Fin n × Random.ChaCha.Stream :=
  have hn32 : n.toUInt32.toNat = n := by
    simp only [Nat.toUInt32, UInt32.toNat_ofNat']
    exact Nat.mod_eq_of_lt hsmall
  (⟨(Random.draw n.toUInt32 s).1.toNat,
      by have h := Random.draw_lt n.toUInt32 (by omega) s; omega⟩,
    (Random.draw n.toUInt32 s).2)

/-- The three positions drawn for a salt: a colour, an animal and an adjective, in this
order, each from the stream the previous draw left. -/
structure Indices where
  colour : Fin colours.size
  animal : Fin animals.size
  adjective : Fin adjectives.size

/-- The positions drawn for a salt. -/
def indices (salt : String) : Indices :=
  let s := stream salt
  let (c, s) := drawIndex colours.size (by simp) (by simp only [colours_size]; decide) s
  let (a, s) := drawIndex animals.size (by simp) (by simp only [animals_size]; decide) s
  let (j, _) := drawIndex adjectives.size (by simp) (by simp only [adjectives_size]; decide) s
  ⟨c, a, j⟩

/-- The words at the drawn positions. -/
def picks (salt : String) : Style.Picks :=
  let i := indices salt
  ⟨colours[i.colour], animals[i.animal], adjectives[i.adjective]⟩

end Candidate

/-- The label tried for `seed` on attempt `attempt` in style `style`. -/
def candidate (seed : Seed) (attempt : UInt32) (style : Style) : Label :=
  let (a, b) := style.select (Candidate.picks (seed.salted attempt))
  Label.compose a b

end PlotLabels
