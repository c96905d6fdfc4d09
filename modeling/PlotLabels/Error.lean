import PlotLabels.Candidate
import PlotLabels.Json.Decode
/-!
# Naming errors

Every way naming can fail, as causes, with the one function that words them. Texts the
user gave (a rejected label, a style name, an attempts value) are shown quoted; seeds and
labels the program itself holds are shown as they are. Labels are read from text and from
JSON here too, since a text that is no label is refused with one of these errors.

* `ConfigProblem`: why a configuration is refused.
* `NamingError`: why a name could not be given.
* `NamingError.message`: the words of an error.
* `Label.read`: the label a text spells, or `invalidLabel`.
* `Label.decode`: the label a JSON string spells; the error of a rejected string is the
  invalid-label text itself.
* `Label.toJson`: a label written as a JSON string, its text.
-/

namespace PlotLabels

/-- Why an allocator configuration is refused. -/
inductive ConfigProblem where
  /-- A style name that is none of the three. -/
  | unknownStyle (name : String)
  /-- A limit of zero attempts. -/
  | noAttempts
  /-- An attempts value from the environment that is not a 32-bit unsigned numeral. -/
  | attemptsNotANumber (value : String)

/-- The words of a configuration problem. -/
def ConfigProblem.message : ConfigProblem → String
  | .unknownStyle name =>
    "unknown label style " ++ Text.quote name ++
      ", valid values are \"color-animal\", \"adjective-animal\" or \"adjective-color\""
  | .noAttempts => "max_attempts must be at least 1"
  | .attemptsNotANumber value =>
    "PLOTNFT_NAMES_MAX_ATTEMPTS must be a positive integer, got " ++ Text.quote value

/-- Why a seed could not be named, or a record read. -/
inductive NamingError where
  /-- Every attempt's candidate is held by another seed. -/
  | labelSpaceExhausted (seed : Seed) (attempts : UInt32)
  /-- The label is held by another seed. -/
  | labelTaken (label : Label) (owner : Seed)
  /-- The seed already holds another label. -/
  | seedAlreadyLabelled (seed : Seed) (label : Label)
  /-- The text is not two capitalised words separated by a space. -/
  | invalidLabel (text : String)
  /-- The configuration is refused. -/
  | invalidConfig (problem : ConfigProblem)
  /-- A plot NFT record could not be decoded. -/
  | deserialisation (reason : Json.DecodeError)
  /-- A plot NFT record has an empty puzzle hash, so there is nothing to name. -/
  | missingSeed
  /-- A thread panicked while it held the lock of a shared allocator. -/
  | registryLockPoisoned

/-- The words of a naming error. -/
def NamingError.message : NamingError → String
  | .labelSpaceExhausted seed attempts =>
    "Label space exhausted for seed " ++ seed ++ " after " ++ toString attempts.toNat ++ " attempts"
  | .labelTaken label owner =>
    "Label " ++ label.text ++ " is already assigned to seed " ++ owner
  | .seedAlreadyLabelled seed label =>
    "Seed " ++ seed ++ " is already labelled as " ++ label.text
  | .invalidLabel text =>
    "Invalid label " ++ Text.quote text ++
      ", expected two capitalised words separated by a single space"
  | .invalidConfig problem => "Invalid name allocator configuration: " ++ problem.message
  | .deserialisation reason => "Could not deserialise plot NFT record: " ++ reason.message
  | .missingSeed => "Plot NFT record has an empty p2 singleton puzzle hash"
  | .registryLockPoisoned => "The shared name registry lock was poisoned"

/-! ## Reading labels -/

namespace Label

/-- The label a text spells, or the error naming the text. -/
def read (s : String) : Except NamingError Label :=
  match parse? s with
  | some l => .ok l
  | none => .error (.invalidLabel s)

/-- The label of a JSON string. -/
def decode : Json.Decoder Label := fun v => do
  let s ← Json.Decode.string v
  match read s with
  | .ok l => pure l
  | .error e => .error (.custom e.message)

/-- The JSON form of a label: its text, as a string. -/
def toJson (l : Label) : Json.Value :=
  .string l.text

end Label

end PlotLabels
