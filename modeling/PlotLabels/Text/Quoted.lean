import PlotLabels.Text.GraphemeExtend
import PlotLabels.Text.Printable
/-!
# Quoted text

The form in which messages show a text the user gave: between double quotes, with the
backslash escapes `\0`, `\t`, `\r`, `\n`, `\\` and `\"`, and every character that would
not show as itself, a grapheme extender or a character that does not print, written as
`\u{…}` with its code point in lower-case hexadecimal without leading zeros. The single
quote and every other printable character stand as they are.

* `hexDigits`: the code point numeral of an escape.
* `escapeChar`: the written form of one character.
* `quote`: the written form of a text.
-/

namespace PlotLabels.Text

/-- The lower-case hexadecimal numeral of `n`, without leading zeros. -/
def hexDigits (n : Nat) : String :=
  String.ofList (Nat.toDigits 16 n)

/-- The escape `\u{…}` of a character. -/
def unicodeEscape (c : Char) : String :=
  "\\u" ++ "\x7b" ++ hexDigits c.toNat ++ "\x7d"

/-- The written form of one character inside quotes. -/
def escapeChar (c : Char) : String :=
  if c = '\x00' then "\\0"
  else if c = '\t' then "\\t"
  else if c = '\r' then "\\r"
  else if c = '\n' then "\\n"
  else if c = '\\' then "\\\\"
  else if c = '"' then "\\\""
  else if isGraphemeExtend c then unicodeEscape c
  else if isPrintable c then c.toString
  else unicodeEscape c

/-- A text between double quotes, each character in its written form. -/
def quote (s : String) : String :=
  "\"" ++ String.join (s.toList.map escapeChar) ++ "\""

end PlotLabels.Text
