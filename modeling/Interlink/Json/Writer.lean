import Interlink.Data

/-!
# Writing JSON text

A tree is written on one line or indented by two spaces a level. A tagged value
is a record with one member, named by the tag.
-/

namespace Interlink.Json

/-- A hexadecimal digit in lower case. -/
def hexDigit (n : Nat) : Char := Nat.digitChar (n % 16)

/-- A character as it stands between quotes. -/
def escape (c : Char) : List Char :=
  if c = '"' then ['\\', '"']
  else if c = '\\' then ['\\', '\\']
  else if c = '\x08' then ['\\', 'b']
  else if c = '\x0c' then ['\\', 'f']
  else if c = '\n' then ['\\', 'n']
  else if c = '\r' then ['\\', 'r']
  else if c = '\t' then ['\\', 't']
  else if c.toNat < 0x20 then ['\\', 'u', '0', '0', hexDigit (c.toNat / 16), hexDigit c.toNat]
  else [c]

/-- A text in quotes. -/
def quote (s : String) : String := String.ofList ('"' :: s.toList.flatMap escape ++ ['"'])

/-- A number. A value that is no number, or is infinite, has no JSON text and is
written as nothing. -/
def number : Number → String
  | .int n => toString n
  | .float (.finite negative m q) =>
    (Binary64.finite negative m q).render .compact
  | .float _ => "null"

/-- A container: its parts stand on lines of their own if there is an
indentation, and side by side if there is none. -/
def enclose (opening closing : String) (indent : Option Nat) (parts : List String) : String :=
  if parts = [] then opening ++ closing
  else
    match indent with
    | none => opening ++ ",".intercalate parts ++ closing
    | some n =>
      let margin := "\n" ++ String.ofList (List.replicate (2 * (n + 1)) ' ')
      let close := "\n" ++ String.ofList (List.replicate (2 * n) ' ')
      opening ++ margin ++ ("," ++ margin).intercalate parts ++ close ++ closing

/-- What stands between a name and its value. -/
def colon (indent : Option Nat) : String := if indent.isSome then ": " else ":"

mutual

/-- A tree as text; `indent` is the level of indentation, if there is one. -/
def write (indent : Option Nat) : Data → String
  | .null => "null"
  | .bool b => if b then "true" else "false"
  | .number n => number n
  | .text s => quote s
  | .list ds => enclose "[" "]" indent (writeItems (indent.map (· + 1)) ds)
  | .record ms => enclose "\x7b" "\x7d" indent (writeMembers (indent.map (· + 1)) ms)
  | .tagged tag d =>
    enclose "\x7b" "\x7d" indent
      [quote tag ++ colon indent ++ write (indent.map (· + 1)) d]

def writeItems (indent : Option Nat) : List Data → List String
  | [] => []
  | d :: rest => write indent d :: writeItems indent rest

def writeMembers (indent : Option Nat) : List (String × Data) → List String
  | [] => []
  | (k, d) :: rest => (quote k ++ colon indent ++ write indent d) :: writeMembers indent rest

end

/-- A tree on one line. -/
def compact (d : Data) : String := write none d

/-- A tree with a line for every part. -/
def pretty (d : Data) : String := write (some 0) d

end Interlink.Json
