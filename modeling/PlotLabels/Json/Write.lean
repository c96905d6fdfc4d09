import PlotLabels.Json.Value
/-!
# Writing JSON

The compact text of a value: no blanks, members in their stored (sorted) order, numbers as
`Number.text` writes them. In strings the quote and the backslash are escaped, control
characters are written as `\b \f \n \r \t` or `\u00XX`, and every other character, ASCII
or not, stands as itself.

* `escapeChar`, `quoteString`: the text of a string.
* `Value.write`: the text of a value.
-/

namespace PlotLabels.Json

/-- The text of one character inside a JSON string. -/
def escapeChar (c : Char) : String :=
  if c == '"' then "\\\""
  else if c == '\\' then "\\\\"
  else if c == '\n' then "\\n"
  else if c == '\r' then "\\r"
  else if c == '\t' then "\\t"
  else if c == '\x08' then "\\b"
  else if c == '\x0c' then "\\f"
  else if c.toNat < 0x20 then
    let h := Nat.toDigits 16 c.toNat
    "\\u" ++ String.ofList (List.replicate (4 - h.length) '0' ++ h)
  else c.toString

/-- A string between quotes, escaped. -/
def quoteString (s : String) : String :=
  "\"" ++ String.join (s.toList.map escapeChar) ++ "\""

mutual

/-- The compact text of a value. -/
def Value.write : Value → String
  | .null => "null"
  | .bool true => "true"
  | .bool false => "false"
  | .number n => n.text
  | .string s => quoteString s
  | .array items => "[" ++ Value.writeItems items ++ "]"
  | .object fs => "\x7b" ++ Value.writeMembers fs ++ "\x7d"

/-- The items of an array, separated by commas. -/
def Value.writeItems : List Value → String
  | [] => ""
  | [v] => v.write
  | v :: vs => v.write ++ "," ++ Value.writeItems vs

/-- The members of an object, separated by commas. -/
def Value.writeMembers : List (String × Value) → String
  | [] => ""
  | [(k, v)] => quoteString k ++ ":" ++ v.write
  | (k, v) :: rest => quoteString k ++ ":" ++ v.write ++ "," ++ Value.writeMembers rest

end

end PlotLabels.Json
