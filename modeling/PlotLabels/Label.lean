import PlotLabels.Text.CaseMap
/-!
# Labels

A label is two capitalised words joined by one space, such as `Violet Alpaca`. A
capitalised word is an upper-case ASCII letter followed by lower-case ASCII letters only.

* `Label.text`: the words joined by a space; labels are ordered by their text.
* `Label.parse?`: splits a text at its first space and accepts it when both parts are
  capitalised words.
* `Label.compose`: the label of two words, each with its first character in upper case.
-/

namespace PlotLabels

/-- Two words shown as one name. -/
structure Label where
  first : String
  second : String
  deriving DecidableEq, Repr, Hashable

namespace Label

/-- The words joined by one space. -/
def text (l : Label) : String :=
  l.first ++ " " ++ l.second

/-- The two words. -/
def words (l : Label) : String × String :=
  (l.first, l.second)

/-- An upper-case ASCII letter followed by lower-case ASCII letters. -/
def IsCapitalised : List Char → Bool
  | c :: cs => c.isUpper && cs.all Char.isLower
  | [] => false

/-- The characters before the first space, and those after it, if there is a space. -/
def splitAtSpace (cs : List Char) : Option (List Char × List Char) :=
  match cs.dropWhile (· ≠ ' ') with
  | [] => none
  | _ :: rest => some (cs.takeWhile (· ≠ ' '), rest)

/-- The label a text spells, if it is two capitalised words separated by its first space. -/
def parse? (s : String) : Option Label :=
  match splitAtSpace s.toList with
  | some (a, b) =>
    if IsCapitalised a && IsCapitalised b then some ⟨String.ofList a, String.ofList b⟩ else none
  | none => none

/-- A word with its first character in upper case, by the full Unicode mapping (`ß` becomes
`SS`); the rest of the word is kept. -/
def capitalise (w : String) : String :=
  match w.toList with
  | c :: cs => String.ofList (Text.toUpperList c ++ cs)
  | [] => ""

/-- The label of two words, such as two vocabulary words. -/
def compose (a b : String) : Label :=
  ⟨capitalise a, capitalise b⟩

instance : LT Label := ⟨fun a b => a.text < b.text⟩

instance (a b : Label) : Decidable (a < b) :=
  inferInstanceAs (Decidable (a.text < b.text))

/-- Labels are compared by their texts, byte by byte. -/
def compare (a b : Label) : Ordering :=
  Ord.compare a.text b.text

@[simp] theorem text_mk (a b : String) : (Label.mk a b).text = a ++ " " ++ b := rfl

@[simp] theorem words_mk (a b : String) : (Label.mk a b).words = (a, b) := rfl

end Label

end PlotLabels
