import TagStore.Text.Printable
/-!
# Text.Quoted

The quoted form of a text, as error messages show names: double quotes around it, a
backslash before `"` and `\`, the escapes `\0`, `\t`, `\r` and `\n`, and every other
character that `isHidden` names written as `\u{…}` with its code in lower-case hex
without leading zeros. Everything else is written as it is.
-/

namespace TagStore.Text

/-- Lower-case hexadecimal digits of a number, without leading zeros. -/
def hexText (n : Nat) : String :=
  String.ofList (Nat.toDigits 16 n)

/-- Append the quoted form of one character. -/
def quoteChar (acc : String) (c : Char) : String :=
  if c.toNat == 0 then acc ++ "\\0"
  else if c == '\t' then acc ++ "\\t"
  else if c == '\r' then acc ++ "\\r"
  else if c == '\n' then acc ++ "\\n"
  else if c == '\\' then acc ++ "\\\\"
  else if c == '"' then acc ++ "\\\""
  else if isHidden c then acc ++ "\\u\x7b" ++ hexText c.toNat ++ "\x7d"
  else acc.push c

/-- The quoted form of a text. -/
def quote (s : String) : String :=
  (s.foldl quoteChar "\"").push '"'

end TagStore.Text
