import PlotLabels.Text.Alphanumeric
import PlotLabels.Text.Cased
import PlotLabels.Text.CaseMap
/-!
# Words of an identifier, and its snake and camel cases

An identifier is cut into words, then written again in one case style.

Cutting: every character that is neither a letter nor a number separates pieces and is
dropped. Inside a piece, a word ends

* after a lower-case character followed by an upper-case one (`xmlHttp` → `xml`, `Http`);
* before the last of a run of upper-case characters that is followed by a lower-case one
  (`XMLHttp` → `XML`, `Http`).

Characters without case (digits, most scripts) carry on the case of the character before
them. Snake case writes the words in lower case joined by `_`; lower camel case writes the
first word in lower case and every later word with its first character in upper case and the
rest in lower case. Lowering turns a `Σ` that ends a word into `ς`.

* `pieces`, `pieceWords`, `splitWords`: the words of an identifier.
* `lowerWord`, `capitalWord`: the two ways of writing a word.
* `toSnakeCase`, `toLowerCamelCase`.
-/

namespace PlotLabels.Text

/-- The case of the last cased character since the last cut. -/
inductive WordMode where
  | boundary
  | lower
  | upper
  deriving DecidableEq

/-- The runs of letters and numbers between separators; a separator ends a run, so two
separators in a row leave an empty run between them. -/
def pieces : List Char → List (List Char)
  | [] => [[]]
  | c :: cs =>
    let rest := pieces cs
    if isAlphanumeric c then
      match rest with
      | p :: ps => (c :: p) :: ps
      | [] => [[c]]
    else [] :: rest

/-- The words of a piece, given the characters `cur` of the word being read and the mode
before the next character. -/
def pieceWords : List Char → List Char → WordMode → List (List Char)
  | [], _, _ => []
  | [c], cur, _ => [cur ++ [c]]
  | c :: tl@(next :: _), cur, mode =>
    let nextMode :=
      if isLowercase c then WordMode.lower else if isUppercase c then WordMode.upper else mode
    if nextMode = .lower ∧ isUppercase next then
      (cur ++ [c]) :: pieceWords tl [] .boundary
    else if mode = .upper ∧ isUppercase c ∧ isLowercase next then
      cur :: pieceWords tl [c] .boundary
    else pieceWords tl (cur ++ [c]) nextMode

/-- The words of an identifier, in order. -/
def splitWords (s : String) : List (List Char) :=
  (pieces s.toList).flatMap fun p => pieceWords p [] .boundary

/-- A word in lower case; a `Σ` at its end becomes the final sigma `ς`. -/
def lowerWord : List Char → List Char
  | [] => []
  | [c] => if c = 'Σ' then ['ς'] else toLowerList c
  | c :: cs => toLowerList c ++ lowerWord cs

/-- A word with its first character in upper case and the rest in lower case. -/
def capitalWord : List Char → List Char
  | [] => []
  | c :: cs => toUpperList c ++ lowerWord cs

/-- The identifier in snake case: `pool_wallet_status`. -/
def toSnakeCase (s : String) : String :=
  "_".intercalate ((splitWords s).map fun w => String.ofList (lowerWord w))

/-- The identifier in lower camel case: `poolWalletStatus`. -/
def toLowerCamelCase (s : String) : String :=
  match splitWords s with
  | [] => ""
  | w :: ws => String.ofList (lowerWord w ++ ws.flatMap capitalWord)

end PlotLabels.Text
