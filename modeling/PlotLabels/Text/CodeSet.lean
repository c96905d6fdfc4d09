/-!
# Sets of code points, and the blank characters

The character classes of the Unicode Character Database are long runs of consecutive code
points, so a class is stored as its runs: inclusive ranges `(lo, hi)`, sorted, disjoint and
not touching. Membership is a binary search over the ranges.

The blank characters are the characters with the Unicode property White_Space (Unicode
17.0): the ASCII tab, line feed, vertical tab, form feed, carriage return and space, the
next-line control, the no-break space, the Ogham space mark, the spaces from en quad to hair
space, the line and paragraph separators, the narrow no-break space, the medium mathematical
space and the ideographic space. Zero-width spaces are not blank.

* `CodeSet.contains`: whether a character lies in one of the ranges.
* `CodeSet.containsCode`: the same for a code point given as a number.
* `isBlank`: whether a character is blank.
* `trimBlank`: a text without its leading and trailing blank characters.
-/

namespace PlotLabels.Text

/-- A set of code points as sorted, disjoint inclusive ranges. -/
structure CodeSet where
  ranges : Array (Nat × Nat)

namespace CodeSet

/-- Whether the code point `n` lies in one of the ranges with index in `[lo, hi)`. -/
def searchBetween (s : CodeSet) (n : Nat) (lo hi : Nat) : Bool :=
  if lo < hi then
    let mid := (lo + hi) / 2
    match s.ranges[mid]? with
    | some (a, b) =>
      if n < a then s.searchBetween n lo mid
      else if b < n then s.searchBetween n (mid + 1) hi
      else true
    | none => false
  else false
termination_by hi - lo

/-- Whether the code point `n` is in the set. -/
def containsCode (s : CodeSet) (n : Nat) : Bool :=
  s.searchBetween n 0 s.ranges.size

/-- Whether the character `c` is in the set. -/
def contains (s : CodeSet) (c : Char) : Bool :=
  s.containsCode c.toNat

end CodeSet

/-! ## Blank characters and trimming -/

/-- The characters with the property White_Space. -/
def whiteSpace : CodeSet := ⟨#[
    (0x9, 0xD), (0x20, 0x20), (0x85, 0x85), (0xA0, 0xA0), (0x1680, 0x1680),
    (0x2000, 0x200A), (0x2028, 0x2029), (0x202F, 0x202F), (0x205F, 0x205F), (0x3000, 0x3000)]⟩

/-- Whether a character is blank. -/
def isBlank (c : Char) : Bool :=
  whiteSpace.contains c

/-- The characters of a text without its blank prefix and blank suffix. -/
def trimBlankList (cs : List Char) : List Char :=
  ((cs.dropWhile isBlank).reverse.dropWhile isBlank).reverse

/-- A text without its leading and trailing blank characters. -/
def trimBlank (s : String) : String :=
  String.ofList (trimBlankList s.toList)

end PlotLabels.Text
