import TagStore.Json.Value
/-!
# Json.Write

The text of a value. The compact form has no blanks; the pretty form puts each item
and field on its own line, indented by two spaces per level, with `": "` after a key,
and writes an empty array or object as `[]` or `{}` (in braces).

A string is quoted with `"` and `\` escaped, the control characters backspace, form
feed, newline, carriage return and tab by their letter escapes, the other control
characters below U+0020 as `\u00xx` in lower-case hex, and everything else written as it
is. A number is written as `Number.render` says.
-/

namespace TagStore.Json

/-- The hex digit of a value below 16, in lower case. -/
def hexDigit (n : Nat) : Char :=
  if n < 10 then Char.ofNat (48 + n) else Char.ofNat (87 + n)

/-- The escaped form of one character inside a quoted string. -/
def escapeChar (acc : String) (c : Char) : String :=
  if c == '"' then acc ++ "\\\""
  else if c == '\\' then acc ++ "\\\\"
  else if c == '\n' then acc ++ "\\n"
  else if c == '\r' then acc ++ "\\r"
  else if c == '\t' then acc ++ "\\t"
  else if c.toNat == 8 then acc ++ "\\b"
  else if c.toNat == 12 then acc ++ "\\f"
  else if c.toNat < 32 then
    ((acc ++ "\\u00").push (hexDigit (c.toNat / 16))).push (hexDigit (c.toNat % 16))
  else acc.push c

/-- Append a quoted string. -/
def writeString (acc : String) (s : String) : String :=
  (s.foldl escapeChar (acc.push '"')).push '"'

mutual
/-- Append the compact text of a value. -/
def write (acc : String) : Json → String
  | .null => acc ++ "null"
  | .bool b => acc ++ (if b then "true" else "false")
  | .number n => acc ++ n.render
  | .string s => writeString acc s
  | .array xs => (writeItems (acc.push '[') true xs).push ']'
  | .object fs => (writeFields (acc.push '\x7b') true fs).push '\x7d'

/-- Append array items separated by commas. -/
def writeItems (acc : String) (first : Bool) : List Json → String
  | [] => acc
  | x :: xs => writeItems (write (if first then acc else acc.push ',') x) false xs

/-- Append object fields separated by commas. -/
def writeFields (acc : String) (first : Bool) : List (String × Json) → String
  | [] => acc
  | (k, v) :: rest =>
    writeFields (write ((writeString (if first then acc else acc.push ',') k).push ':') v) false rest
end

/-- The compact text of a value. -/
def render (j : Json) : String := write "" j

/-- Two spaces per level. -/
def indent (acc : String) (depth : Nat) : String :=
  acc ++ String.ofList (List.replicate (2 * depth) ' ')

mutual
/-- Append the pretty text of a value standing at nesting `depth`. -/
def writePretty (acc : String) (depth : Nat) : Json → String
  | .array [] => acc ++ "[]"
  | .object [] => acc ++ "\x7b\x7d"
  | .array xs => (indent ((writePrettyItems (acc.push '[') depth true xs).push '\n') depth).push ']'
  | .object fs =>
    (indent ((writePrettyFields (acc.push '\x7b') depth true fs).push '\n') depth).push '\x7d'
  | j => write acc j

/-- Append array items, each on its own line. -/
def writePrettyItems (acc : String) (depth : Nat) (first : Bool) : List Json → String
  | [] => acc
  | x :: xs =>
    let acc := indent (acc ++ (if first then "\n" else ",\n")) (depth + 1)
    writePrettyItems (writePretty acc (depth + 1) x) depth false xs

/-- Append object fields, each on its own line. -/
def writePrettyFields (acc : String) (depth : Nat) (first : Bool) :
    List (String × Json) → String
  | [] => acc
  | (k, v) :: rest =>
    let acc := indent (acc ++ (if first then "\n" else ",\n")) (depth + 1)
    writePrettyFields (writePretty (writeString acc k ++ ": ") (depth + 1) v) depth false rest
end

/-- The pretty text of a value. -/
def renderPretty (j : Json) : String := writePretty "" 0 j

end TagStore.Json
