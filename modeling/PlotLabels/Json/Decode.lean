import PlotLabels.Json.Value
import PlotLabels.Text.Quoted
/-!
# Decoding values into records

Turning a JSON value into a typed value, and the errors that say why it failed. An error
names what was found, as `Unexpected`, and what was expected, in words such as `u32`,
`a string` or `struct PoolConfig`.

A record is decoded from an object or from an array:

* from an object, the members are visited in key order; a member whose key is a field is
  decoded at once and its error is the answer; other members are skipped. Then the fields
  are assembled in their declared order, and a field without a member takes its default or
  is reported missing;
* from an array, the fields are taken from the items in declared order; a missing item
  takes the field's default, or fails with the number of items read so far; items left over
  fail with the array's length.

* `Unexpected`, `DecodeError`, `DecodeError.message`.
* `Decoder` and the decoders of numbers, strings and optional values.
* `FieldSpec`, `Record.ofValue`, `Record.get`, `Record.close`: the record protocol above.
-/

namespace PlotLabels.Json

/-- What a decoder found instead of what it expected. -/
inductive Unexpected where
  | unit
  | bool (b : Bool)
  | unsigned (n : Nat)
  | signed (n : Int)
  | float (x : Float)
  | str (s : String)
  | seq
  | map

/-- The words for what was found; texts are quoted and doubles written shortest. -/
def Unexpected.text : Unexpected → String
  | .unit => "null"
  | .bool b => "boolean `" ++ toString b ++ "`"
  | .unsigned n => "integer `" ++ toString n ++ "`"
  | .signed n => "integer `" ++ toString n ++ "`"
  | .float x => "floating point `" ++ floatText x ++ "`"
  | .str s => "string " ++ Text.quote s
  | .seq => "sequence"
  | .map => "map"

/-- What a value is, as an error names it. -/
def Value.unexpected : Value → Unexpected
  | .null => .unit
  | .bool b => .bool b
  | .number (.nat n) => .unsigned n.toNat
  | .number (.neg n) => .signed n.toInt
  | .number (.float x) => .float x
  | .string s => .str s
  | .array _ => .seq
  | .object _ => .map

/-- Why a value could not be decoded. -/
inductive DecodeError where
  /-- A value of the wrong kind. -/
  | invalidType (found : Unexpected) (expected : String)
  /-- A value of the right kind out of range. -/
  | invalidValue (found : Unexpected) (expected : String)
  /-- An array of the wrong length. -/
  | invalidLength (length : Nat) (expected : String)
  /-- A required field without a member. -/
  | missingField (field : String)
  /-- A name that is none of the variants. -/
  | unknownVariant (name : String) (variants : List String)
  /-- A rule of the decoded type itself. -/
  | custom (message : String)

/-- The variant names, each between backticks, as a list in words. -/
def variantList : List String → String
  | [] => "there are no variants"
  | [a] => "expected `" ++ a ++ "`"
  | [a, b] => "expected `" ++ a ++ "` or `" ++ b ++ "`"
  | vs => "expected one of " ++ ", ".intercalate (vs.map fun v => "`" ++ v ++ "`")

/-- The text of a decoding error. -/
def DecodeError.message : DecodeError → String
  | .invalidType found expected => "invalid type: " ++ found.text ++ ", expected " ++ expected
  | .invalidValue found expected => "invalid value: " ++ found.text ++ ", expected " ++ expected
  | .invalidLength n expected => "invalid length " ++ toString n ++ ", expected " ++ expected
  | .missingField field => "missing field `" ++ field ++ "`"
  | .unknownVariant name variants => "unknown variant `" ++ name ++ "`, " ++ variantList variants
  | .custom message => message

/-- A way of reading a typed value out of a JSON value. -/
abbrev Decoder (α : Type) := Value → Except DecodeError α

namespace Decode

/-- A non-negative integer not above `max`, named `name` in errors. -/
def unsigned (name : String) (max : Nat) : Decoder Nat
  | .number (.nat n) => if n.toNat ≤ max then .ok n.toNat else .error (.invalidValue (.unsigned n.toNat) name)
  | .number (.neg n) => .error (.invalidValue (.signed n.toInt) name)
  | v => .error (.invalidType v.unexpected name)

/-- A 64-bit unsigned integer. -/
def u64 : Decoder UInt64 := fun v => (unsigned "u64" (UInt64.size - 1) v).map Nat.toUInt64

/-- A 32-bit unsigned integer. -/
def u32 : Decoder UInt32 := fun v => (unsigned "u32" (UInt32.size - 1) v).map Nat.toUInt32

/-- An 8-bit unsigned integer. -/
def u8 : Decoder UInt8 := fun v => (unsigned "u8" (UInt8.size - 1) v).map Nat.toUInt8

/-- A string. -/
def string : Decoder String
  | .string s => .ok s
  | v => .error (.invalidType v.unexpected "a string")

/-- An optional value: `null` is absent. -/
def option {α : Type} (d : Decoder α) : Decoder (Option α)
  | .null => .ok none
  | v => (d v).map some

/-- The unit value, which only `null` gives. -/
def unit : Decoder Unit
  | .null => .ok ()
  | v => .error (.invalidType v.unexpected "unit")

end Decode

/-- A field of a record: its name, its decoder, and its default if it may be missing. -/
structure FieldSpec (α : Type) where
  name : String
  decode : Decoder α
  default : Option α := none

/-- A field's decoder with the result dropped, to check a member in visiting order. -/
def FieldSpec.check {α : Type} (f : FieldSpec α) : String × Decoder Unit :=
  (f.name, fun v => (f.decode v).map fun _ => ())

/-- The members or items a record is decoded from, with the record's name and field count
for errors. -/
structure Record where
  name : String
  fieldCount : Nat
  source : Sum (List (String × Value)) (List Value)

namespace Record

/-- Visit the members of an object in key order, decoding those named by `checks`; the
first failure is the answer. -/
def visitMembers (checks : List (String × Decoder Unit)) : List (String × Value) → Except DecodeError Unit
  | [] => .ok ()
  | (k, v) :: rest =>
    match checks.lookup k with
    | some check => check v >>= fun _ => visitMembers checks rest
    | none => visitMembers checks rest

/-- Open a value as the record `name` with the given fields: an object has its members
checked in key order, an array is taken as it is, anything else is of the wrong kind. -/
def ofValue (name : String) (checks : List (String × Decoder Unit)) : Decoder Record
  | .object fs => visitMembers checks fs >>= fun _ => .ok ⟨name, checks.length, .inl fs⟩
  | .array xs => .ok ⟨name, checks.length, .inr xs⟩
  | v => .error (.invalidType v.unexpected ("struct " ++ name))

/-- The field at position `index` of the record. -/
def get {α : Type} (r : Record) (index : Nat) (f : FieldSpec α) : Except DecodeError α :=
  match r.source with
  | .inl fs =>
    match fs.lookup f.name, f.default with
    | some v, _ => f.decode v
    | none, some d => .ok d
    | none, none => .error (.missingField f.name)
  | .inr xs =>
    match xs[index]?, f.default with
    | some v, _ => f.decode v
    | none, some d => .ok d
    | none, none =>
      .error (.invalidLength index
        ("struct " ++ r.name ++ " with " ++ toString r.fieldCount ++ " elements"))

/-- The end of the record: an array may not hold more items than fields. -/
def close (r : Record) : Except DecodeError Unit :=
  match r.source with
  | .inl _ => .ok ()
  | .inr xs =>
    if xs.length > r.fieldCount then .error (.invalidLength xs.length "fewer elements in array")
    else .ok ()

end Record

end PlotLabels.Json
