import EntityScaffold.Json.Value

/-!
JSON values as text, in two forms. The compact form has no blanks; the spread form puts every item and
every member on a line of its own, indented by two spaces for each level, and leaves empty arrays and
objects on one line.
-/

namespace EntityScaffold.Json

def hexDigit (n : Nat) : Char := (Nat.toDigits 16 n).headD '0'

/-- a character within a string: quotes, backslashes and control characters are escaped -/
def escapeChar (c : Char) : String :=
  match c with
  | '"' => "\\\""
  | '\\' => "\\\\"
  | '\x08' => "\\b"
  | '\x0c' => "\\f"
  | '\n' => "\\n"
  | '\r' => "\\r"
  | '\t' => "\\t"
  | c =>
    if c.toNat < 0x20 then "\\u00" ++ String.ofList [hexDigit (c.toNat / 16), hexDigit (c.toNat % 16)]
    else c.toString

def stringText (s : String) : String :=
  "\"" ++ s.toList.foldl (fun text c => text ++ escapeChar c) "" ++ "\""

def Number.text : Number → String
  | .integer n => String.ofList (Decimal.intText n)
  | .decimal d => String.ofList d.text

def leafText : Json → String
  | .null => "null"
  | .bool b => if b then "true" else "false"
  | .number n => n.text
  | .string s => stringText s
  | .array _ => "[]"
  | .object _ => "\x7b\x7d"

/-! ## Compact form -/

mutual

/-- a value without blanks -/
def compact : Json → String
  | .array items => "[" ++ compactItems items ++ "]"
  | .object members => "\x7b" ++ compactMembers members ++ "\x7d"
  | leaf => leafText leaf

def compactItems : List Json → String
  | [] => ""
  | [item] => compact item
  | item :: rest => compact item ++ "," ++ compactItems rest

def compactMembers : List (String × Json) → String
  | [] => ""
  | [(key, value)] => stringText key ++ ":" ++ compact value
  | (key, value) :: rest => stringText key ++ ":" ++ compact value ++ "," ++ compactMembers rest

end

/-! ## Spread form -/

def newLine (level : Nat) : String := "\n" ++ String.ofList (List.replicate (2 * level) ' ')

mutual

/-- a value that starts on a line of this level -/
def spreadAt (level : Nat) : Json → String
  | .array (item :: rest) =>
    "[" ++ spreadItems (level + 1) (item :: rest) ++ newLine level ++ "]"
  | .object (member :: rest) =>
    "\x7b" ++ spreadMembers (level + 1) (member :: rest) ++ newLine level ++ "\x7d"
  | leaf => leafText leaf

def spreadItems (level : Nat) : List Json → String
  | [] => ""
  | [item] => newLine level ++ spreadAt level item
  | item :: rest => newLine level ++ spreadAt level item ++ "," ++ spreadItems level rest

def spreadMembers (level : Nat) : List (String × Json) → String
  | [] => ""
  | [(key, value)] => newLine level ++ stringText key ++ ": " ++ spreadAt level value
  | (key, value) :: rest =>
    newLine level ++ stringText key ++ ": " ++ spreadAt level value ++ ","
      ++ spreadMembers level rest

end

/-- a value on lines of their own for items and members -/
def spread (j : Json) : String := spreadAt 0 j

end EntityScaffold.Json
