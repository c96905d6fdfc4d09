import PlotLabels.Error
import PlotLabels.Text.CodeSet
/-!
# Allocator configuration

How many attempts an allocator makes per seed, and which style its labels have. The default
is 1000 attempts in the colour-animal style. A configuration is valid when it allows at
least one attempt.

In JSON the fields are `max-attempts` and `style`; a missing field keeps its default and
other members are ignored. Two environment values override a configuration:
`PLOTNFT_NAMES_MAX_ATTEMPTS`, a 32-bit unsigned numeral, and `PLOTNFT_NAMES_STYLE`, a style
name, each read with its blank ends trimmed; the result is then validated.

A style is read from its name, and from JSON as a string naming it or an object whose one
member is named for it and holds `null`.

* `Style.read`, `Style.decode`: a style from its name, and from a JSON value.
* `Config`, `Config.validate`.
* `Config.readAttempts`: the numerals accepted for the attempts value.
* `Config.withOverrides`: the environment applied to a configuration.
* `Config.decode`, `Config.toJson`: the JSON form.
-/

namespace PlotLabels

/-! ## Styles by name -/

namespace Style

/-- The style of a name, or the configuration error naming it. -/
def read (s : String) : Except NamingError Style :=
  match ofName? s with
  | some st => .ok st
  | none => .error (.invalidConfig (.unknownStyle s))

/-- The style named `name`; a value that comes with the name must be `null`. -/
def decodeVariant (name : String) (value : Option Json.Value) : Except Json.DecodeError Style :=
  match ofName? name, value with
  | none, _ => .error (.unknownVariant name (all.map Style.name))
  | some st, none => .ok st
  | some st, some v => (Json.Decode.unit v).map fun _ => st

/-- The style of a JSON value: a name, or an object with exactly one member. -/
def decode : Json.Decoder Style
  | .string s => decodeVariant s none
  | .object [(k, v)] => decodeVariant k (some v)
  | .object _ => .error (.invalidValue .map "map with a single key")
  | v => .error (.invalidType v.unexpected "string or map")

end Style

/-! ## Configurations -/

/-- How an allocator names seeds. -/
structure Config where
  /-- Candidates tried per seed before giving up. -/
  maxAttempts : UInt32 := 1000
  /-- The style of the labels. -/
  style : Style := .colorAnimal

namespace Config

/-- The variable that overrides the number of attempts. -/
def attemptsVariable : String := "PLOTNFT_NAMES_MAX_ATTEMPTS"

/-- The variable that overrides the style. -/
def styleVariable : String := "PLOTNFT_NAMES_STYLE"

/-- A configuration allows at least one attempt. -/
def validate (c : Config) : Except NamingError Unit :=
  if c.maxAttempts = 0 then .error (.invalidConfig .noAttempts) else .ok ()

/-- The value of a non-empty run of ASCII digits. -/
def digitValue (cs : List Char) : Option Nat :=
  if cs.isEmpty || !cs.all Char.isDigit then none
  else some (cs.foldl (fun n c => 10 * n + (c.toNat - '0'.toNat)) 0)

/-- A 32-bit unsigned numeral: an optional `+` and at least one ASCII digit, leading zeros
allowed, of value below `2^32`. -/
def readAttempts (s : String) : Option UInt32 :=
  let cs := match s.toList with
    | '+' :: rest => rest
    | cs => cs
  match digitValue cs with
  | some n => if n < UInt32.size then some n.toUInt32 else none
  | none => none

/-- The configuration with the environment's values applied, then validated. The attempts
value is reported untrimmed when it is not a numeral. -/
def withOverrides (c : Config) (lookup : String → Option String) : Except NamingError Config := do
  let c ← match lookup attemptsVariable with
    | some value =>
      match readAttempts (Text.trimBlank value) with
      | some n => pure { c with maxAttempts := n }
      | none => throw (.invalidConfig (.attemptsNotANumber value))
    | none => pure c
  let c ← match lookup styleVariable with
    | some value => do
      let st ← Style.read (Text.trimBlank value)
      pure { c with style := st }
    | none => pure c
  c.validate
  pure c

/-- The field `max-attempts`. -/
def attemptsField : Json.FieldSpec UInt32 := ⟨"max-attempts", Json.Decode.u32, some 1000⟩

/-- The field `style`. -/
def styleField : Json.FieldSpec Style := ⟨"style", Style.decode, some .colorAnimal⟩

/-- A configuration from JSON; missing fields keep their defaults. -/
def decode : Json.Decoder Config := fun v => do
  let r ← Json.Record.ofValue "AllocatorConfig" [attemptsField.check, styleField.check] v
  let maxAttempts ← r.get 0 attemptsField
  let style ← r.get 1 styleField
  r.close
  pure ⟨maxAttempts, style⟩

/-- The JSON form of a configuration. -/
def toJson (c : Config) : Json.Value :=
  .object [("max-attempts", .ofNat c.maxAttempts.toNat), ("style", .string c.style.name)]

end Config

end PlotLabels
