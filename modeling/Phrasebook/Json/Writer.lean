import Phrasebook.Json.Value

/-!
Writing a JSON value in one line. Inside a text only quotes, backslashes and control characters are
escaped.
-/

namespace Phrasebook.Json

/-- A code point as it stands inside a text. -/
def escapedPoint (c : CodePoint) : Text :=
  if c = '"' then "\\\""
  else if c = '\\' then "\\\\"
  else if c = '\n' then "\\n"
  else if c = '\r' then "\\r"
  else if c = '\t' then "\\t"
  else if c = '\x0c' then "\\f"
  else if c = '\x08' then "\\b"
  else if c.val < 0x20 then "\\u" ++ Text.hex 4 c.val
  else [c]

def writtenText (t : Text) : Text :=
  "\"" ++ t.flatMap escapedPoint ++ "\""

def writtenInteger : Int → Text
  | .ofNat n => Text.ofNat n
  | .negSucc n => "-" ++ Text.ofNat (n + 1)

mutual

/-- The text of a value. A real number has no text of its own and is written as zero. -/
def written : Json → Text
  | .null => "null"
  | .boolean true => "true"
  | .boolean false => "false"
  | .integer n => writtenInteger n
  | .real => "0.0"
  | .text t => writtenText t
  | .array items => "[" ++ writtenItems items ++ "]"
  | .object members => "\x7b" ++ writtenMembers members ++ "\x7d"

def writtenItems : List Json → Text
  | [] => []
  | [v] => written v
  | v :: vs => written v ++ ", " ++ writtenItems vs

def writtenMembers : List (Text × Json) → Text
  | [] => []
  | [(k, v)] => writtenText k ++ ": " ++ written v
  | (k, v) :: ms => writtenText k ++ ": " ++ written v ++ ", " ++ writtenMembers ms

end

end Phrasebook.Json
