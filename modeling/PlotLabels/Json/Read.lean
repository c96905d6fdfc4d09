import PlotLabels.Json.Value
/-!
# Reading JSON

The text of one JSON document, read into a `Value`. Blanks are the space, tab, line feed and
carriage return. Strings take the escapes `\" \\ \/ \b \f \n \r \t` and `\uXXXX`, where a
surrogate pair stands for one character and a lone surrogate is refused, as is a raw
control character. Numbers follow the JSON grammar (no leading zeros, digits after a point
and in an exponent) and take their kind and value from `Literal.toNumber`. Containers nest
at most 127 deep. Nothing but blanks may follow the document.

A text that is not a document is refused with the first fault met when reading from the
left, and the place of that fault: its line, and its column counted in bytes from the start
of the line. The place is where reading stood when the fault showed: for a character that is
looked at but not taken (a misplaced bracket, a missing colon) it is just past the first
byte of that character, and for a part that was taken (a bad escape, a number too large) it
is just past the part.

* `ReadFault`, `ReadError`: why and where a text is not a document; `ReadError.message`.
* `read`: the value of a document.
-/

namespace PlotLabels.Json

/-- Why a text is not a JSON document. -/
inductive ReadFault where
  | eofValue
  | eofString
  | eofList
  | eofObject
  | expectedValue
  | expectedIdent
  | expectedColon
  | expectedListCommaOrEnd
  | expectedObjectCommaOrEnd
  | invalidNumber
  | numberOutOfRange
  | invalidEscape
  | controlCharacter
  | loneSurrogate
  | unexpectedEndOfHexEscape
  | keyMustBeAString
  | trailingComma
  | trailingCharacters
  | recursionLimitExceeded
  deriving DecidableEq, Repr

/-- The description of a fault. -/
def ReadFault.message : ReadFault → String
  | .eofValue => "EOF while parsing a value"
  | .eofString => "EOF while parsing a string"
  | .eofList => "EOF while parsing a list"
  | .eofObject => "EOF while parsing an object"
  | .expectedValue => "expected value"
  | .expectedIdent => "expected ident"
  | .expectedColon => "expected `:`"
  | .expectedListCommaOrEnd => "expected `,` or `]`"
  | .expectedObjectCommaOrEnd => "expected `,` or `\x7d`"
  | .invalidNumber => "invalid number"
  | .numberOutOfRange => "number out of range"
  | .invalidEscape => "invalid escape"
  | .controlCharacter => "control character (\\u0000-\\u001F) found while parsing a string"
  | .loneSurrogate => "lone leading surrogate in hex escape"
  | .unexpectedEndOfHexEscape => "unexpected end of hex escape"
  | .keyMustBeAString => "key must be a string"
  | .trailingComma => "trailing comma"
  | .trailingCharacters => "trailing characters"
  | .recursionLimitExceeded => "recursion limit exceeded"

/-- A fault and its place: the line, from one, and the column, in bytes from the line's
start. -/
structure ReadError where
  fault : ReadFault
  line : Nat
  column : Nat
  deriving DecidableEq, Repr

/-- The description of a fault and its place. -/
def ReadError.message (e : ReadError) : String :=
  e.fault.message ++ " at line " ++ toString e.line ++ " column " ++ toString e.column

namespace Read

/-- What is left of the text after a part has been read. -/
abbrev Input := List Char

/-- A fault, and how many bytes of the text lie after its place. -/
abbrev Failure := ReadFault × Nat

/-- The deepest nesting of arrays and objects that is read. -/
def maxDepth : Nat := 127

/-- The number of bytes of a text in UTF-8. -/
def byteCount (cs : Input) : Nat :=
  cs.foldr (fun c n => c.utf8Size + n) 0

/-- A fault found where reading stands, before the text `cs`. -/
def here (f : ReadFault) (cs : Input) : Failure :=
  (f, byteCount cs)

/-- A fault found at the next character of `cs`, placed just past its first byte. -/
def ahead (f : ReadFault) (cs : Input) : Failure :=
  (f, byteCount cs - 1)

/-- The text without leading blanks. -/
def skipBlank (cs : Input) : Input :=
  cs.dropWhile fun c => c == ' ' || c == '\n' || c == '\t' || c == '\r'

/-- A leading run of decimal digits, as numbers, and the rest. -/
def digits (cs : Input) : List Nat × Input :=
  (cs.takeWhile Char.isDigit |>.map (fun c => c.toNat - '0'.toNat), cs.dropWhile Char.isDigit)

/-- The value of a hexadecimal digit. -/
def hexValue (c : Char) : Option Nat :=
  if c.isDigit then some (c.toNat - '0'.toNat)
  else if 'a' ≤ c ∧ c ≤ 'f' then some (c.toNat - 'a'.toNat + 10)
  else if 'A' ≤ c ∧ c ≤ 'F' then some (c.toNat - 'A'.toNat + 10)
  else none

/-- Four hexadecimal digits. The four bytes are taken whatever they are: fewer than four
left is the end of the text, four that are not all digits a bad escape placed after them. -/
def hex4 (cs : Input) : Except Failure (Nat × Input) :=
  if byteCount cs < 4 then .error (.eofString, 0)
  else
    match cs with
    | a :: b :: c :: d :: rest =>
      match hexValue a, hexValue b, hexValue c, hexValue d with
      | some a, some b, some c, some d => .ok (((a * 16 + b) * 16 + c) * 16 + d, rest)
      | _, _, _, _ => .error (.invalidEscape, byteCount cs - 4)
    | _ => .error (.invalidEscape, byteCount cs - 4)

/-- The character of a `\u` escape whose four digits have been read: a surrogate pair is
completed by the escape that follows it. -/
def unicodeEscape (n : Nat) (rest : Input) : Except Failure (Char × Input) :=
  if 0xDC00 ≤ n ∧ n ≤ 0xDFFF then .error (here .loneSurrogate rest)
  else if 0xD800 ≤ n ∧ n ≤ 0xDBFF then
    match rest with
    | [] => .error (.eofString, 0)
    | '\\' :: rest =>
      match rest with
      | [] => .error (.eofString, 0)
      | 'u' :: rest => do
        let (low, rest) ← hex4 rest
        if 0xDC00 ≤ low ∧ low ≤ 0xDFFF then
          .ok (Char.ofNat (0x10000 + (n - 0xD800) * 0x400 + (low - 0xDC00)), rest)
        else .error (here .loneSurrogate rest)
      | cs => .error (ahead .unexpectedEndOfHexEscape cs)
    | cs => .error (ahead .unexpectedEndOfHexEscape cs)
  else .ok (Char.ofNat n, rest)

/-- The character a one-letter escape stands for. -/
def simpleEscape (e : Char) : Option Char :=
  if e == '"' then some '"' else if e == '\\' then some '\\'
  else if e == '/' then some '/' else if e == 'b' then some '\x08'
  else if e == 'f' then some '\x0c' else if e == 'n' then some '\n'
  else if e == 'r' then some '\r' else if e == 't' then some '\t' else none

/-- The characters of a string up to its closing quote, read into `acc` (reversed), for at
most `fuel` characters. -/
def stringBody (acc : List Char) : Nat → Input → Except Failure (String × Input)
  | 0, _ => .error (.eofString, 0)
  | _ + 1, [] => .error (.eofString, 0)
  | fuel + 1, c :: rest =>
    if c == '"' then .ok (String.ofList acc.reverse, rest)
    else if c == '\\' then
      match rest with
      | [] => .error (.eofString, 0)
      | e :: rest' =>
        match simpleEscape e with
        | some ch => stringBody (ch :: acc) fuel rest'
        | none =>
          if e == 'u' then
            match hex4 rest' >>= fun (n, r) => unicodeEscape n r with
            | .ok (ch, r) => stringBody (ch :: acc) fuel r
            | .error err => .error err
          else .error (ahead .invalidEscape rest)
    else if c.toNat < 0x20 then .error (here .controlCharacter rest)
    else stringBody (c :: acc) fuel rest

/-- A string whose opening quote has been read. -/
def string (cs : Input) : Except Failure (String × Input) :=
  stringBody [] (cs.length + 1) cs

/-- How many exponent digits are read until the exponent passes the 32-bit signed range,
the digit that passes it included; `none` when it stays in range. -/
def exponentOverflow (ds : List Nat) : Option Nat :=
  go 0 0 ds
where
  /-- The scan, with the value `acc` of the `count` digits read so far. -/
  go (acc count : Nat) : List Nat → Option Nat
    | [] => none
    | d :: ds =>
      if acc * 10 + d > 2147483647 then some (count + 1) else go (acc * 10 + d) (count + 1) ds

/-- A number literal after its optional minus sign. -/
def number (negative : Bool) (cs : Input) : Except Failure (Number × Input) :=
  match cs with
  | [] => .error (.eofValue, 0)
  | '0' :: rest =>
    match rest with
    | c :: _ => if c.isDigit then .error (ahead .invalidNumber rest) else literalRest [0] rest
    | [] => literalRest [0] rest
  | c :: rest =>
    if c.isDigit then
      let (whole, rest) := digits cs
      literalRest whole rest
    else .error (ahead .invalidNumber (c :: rest))
where
  /-- The optional fraction and exponent after the whole digits. -/
  literalRest (whole : List Nat) (cs : Input) : Except Failure (Number × Input) := do
    let (fraction, cs) ← match cs with
      | '.' :: rest =>
        let (ds, rest') := digits rest
        if ds.isEmpty then
          if rest'.isEmpty then Except.error (.eofValue, 0)
          else Except.error (ahead .invalidNumber rest')
        else pure (some ds, rest')
      | _ => pure (none, cs)
    let (exponent, cs) ← match cs with
      | e :: rest =>
        if e == 'e' || e == 'E' then
          let (expNegative, rest) := match rest with
            | '+' :: r => (false, r)
            | '-' :: r => (true, r)
            | r => (false, r)
          match rest with
          | [] => Except.error (.eofValue, 0)
          | d :: more =>
            if d.isDigit then
              let (ds, rest') := digits rest
              pure (some (expNegative, ds), rest')
            else Except.error (ahead .invalidNumber (d :: more))
        else pure (none, cs)
      | [] => pure (none, cs)
    match Literal.toNumber ⟨negative, whole, fraction, exponent⟩ with
    | .ok n => pure (n, cs)
    | .error .outOfRange =>
      -- An exponent that leaves the 32-bit range stops the reading at its passing digit.
      match exponent.bind fun (_, ds) => (exponentOverflow ds).map fun k => ds.length - k with
      | some unread => .error (.numberOutOfRange, unread + byteCount cs)
      | none => .error (here .numberOutOfRange cs)

/-- The rest of the text after a keyword such as `null`, whose first letter has been read. -/
def keyword : List Char → Input → Except Failure Input
  | [], cs => .ok cs
  | _ :: _, [] => .error (.eofValue, 0)
  | w :: ws, c :: cs => if c == w then keyword ws cs else .error (ahead .expectedIdent (c :: cs))

mutual

/-- A value, after blanks, at nesting depth `depth`, in at most `fuel` steps. -/
def value : Nat → Nat → Input → Except Failure (Value × Input)
  | 0, _, _ => .error (.eofValue, 0)
  | fuel + 1, depth, cs =>
    match skipBlank cs with
    | [] => .error (.eofValue, 0)
    | c :: rest =>
      if c == 'n' then (keyword ['u', 'l', 'l'] rest).map fun r => (.null, r)
      else if c == 't' then (keyword ['r', 'u', 'e'] rest).map fun r => (.bool true, r)
      else if c == 'f' then (keyword ['a', 'l', 's', 'e'] rest).map fun r => (.bool false, r)
      else if c == '"' then (string rest).map fun (s, r) => (.string s, r)
      else if c == '-' then (number true rest).map fun (n, r) => (.number n, r)
      else if c.isDigit then (number false (c :: rest)).map fun (n, r) => (.number n, r)
      else if c == '[' then
        if depth + 1 > maxDepth then .error (ahead .recursionLimitExceeded (c :: rest))
        else
          match skipBlank rest with
          | ']' :: r => .ok (.array [], r)
          | [] => .error (.eofList, 0)
          | r => items fuel (depth + 1) [] r
      else if c == '{' then
        if depth + 1 > maxDepth then .error (ahead .recursionLimitExceeded (c :: rest))
        else
          match skipBlank rest with
          | '}' :: r => .ok (.object [], r)
          | [] => .error (.eofObject, 0)
          | r => members fuel (depth + 1) [] r
      else .error (ahead .expectedValue (c :: rest))

/-- The items of an array from its next item on, after those in `acc` (reversed). -/
def items : Nat → Nat → List Value → Input → Except Failure (Value × Input)
  | 0, _, _, _ => .error (.eofValue, 0)
  | fuel + 1, depth, acc, cs => do
    let (v, rest) ← value fuel depth cs
    match skipBlank rest with
    | ',' :: r =>
      match skipBlank r with
      | ']' :: r' => .error (ahead .trailingComma (']' :: r'))
      | [] => .error (.eofValue, 0)
      | _ => items fuel depth (v :: acc) r
    | ']' :: r => .ok (.array (v :: acc).reverse, r)
    | [] => .error (.eofList, 0)
    | r => .error (ahead .expectedListCommaOrEnd r)

/-- The members of an object from its next key on, added to `acc`. -/
def members : Nat → Nat → List (String × Value) → Input → Except Failure (Value × Input)
  | 0, _, _, _ => .error (.eofValue, 0)
  | fuel + 1, depth, acc, cs =>
    match skipBlank cs with
    | '"' :: rest => do
      let (k, rest) ← string rest
      match skipBlank rest with
      | ':' :: rest =>
        let (v, rest) ← value fuel depth rest
        let acc := Value.insertField k v acc
        match skipBlank rest with
        | ',' :: r =>
          match skipBlank r with
          | '}' :: r' => .error (ahead .trailingComma ('}' :: r'))
          | [] => .error (.eofValue, 0)
          | _ => members fuel depth acc r
        | '}' :: r => .ok (.object acc, r)
        | [] => .error (.eofObject, 0)
        | r => .error (ahead .expectedObjectCommaOrEnd r)
      | [] => .error (.eofObject, 0)
      | r => .error (ahead .expectedColon r)
    | [] => .error (.eofValue, 0)
    | r => .error (ahead .keyMustBeAString r)

end

/-- The line and column of the byte at `index` of a text: lines count from one, columns are
the bytes between the line's start and the place. -/
def place (cs : Input) (index : Nat) : Nat × Nat :=
  let (_, line, start) := cs.foldl (fun (acc : Nat × Nat × Nat) c =>
    let (offset, line, start) := acc
    if offset < index ∧ c == '\n' then (offset + c.utf8Size, line + 1, offset + 1)
    else (offset + c.utf8Size, line, start)) (0, 1, 0)
  (line, index - start)

/-- A failure placed in the text `cs`. -/
def locate (cs : Input) (failure : Failure) : ReadError :=
  let (line, column) := place cs (byteCount cs - failure.2)
  ⟨failure.1, line, column⟩

end Read

/-- The value of a JSON document. -/
def read (text : String) : Except ReadError Value :=
  let cs := text.toList
  match Read.value (3 * cs.length + 3) 0 cs with
  | .error failure => .error (Read.locate cs failure)
  | .ok (v, rest) =>
    match Read.skipBlank rest with
    | [] => .ok v
    | r => .error (Read.locate cs (Read.ahead .trailingCharacters r))

end PlotLabels.Json
