import EntityScaffold.Toml.Item

/-!
Scanning TOML: the parts of a text that hold no nested values. A scanner takes characters off the
front of the text or fails.
-/

namespace EntityScaffold.Toml

/-- takes characters off the front of a text, or fails -/
abbrev Scan := StateT (List Char) Option

/-- the text begins like this; if so, it is taken off -/
def accept (text : String) : Scan Bool := fun cs =>
  match text.toList.isPrefixOf? cs with
  | some rest => some (true, rest)
  | none => some (false, cs)

/-- the text must begin like this -/
def expect (text : String) : Scan Unit := fun cs =>
  (text.toList.isPrefixOf? cs).map fun rest => ((), rest)

/-- the characters of a kind at the front -/
def takeAll (p : Char → Bool) : Scan (List Char) := fun cs =>
  some (cs.takeWhile p, cs.dropWhile p)

def peek : Scan (Option Char) := fun cs => some (cs.head?, cs)

def place : Scan Nat := fun cs => some (cs.length, cs)

/-- a scanner together with the stretch it took -/
def spanned {α : Type} (scan : Scan α) : Scan (α × Span) := do
  let start ← place
  let a ← scan
  let stop ← place
  return (a, ⟨start, stop⟩)

/-! ## Blanks and comments -/

def isSpace (c : Char) : Bool := c = ' ' || c = '\t'

/-- a character that can stand in a text on one line -/
def isPlain (c : Char) : Bool := c = '\t' || (' ' ≤ c && c ≠ '\x7f')

def skipSpaces : Scan Unit := do let _ ← takeAll isSpace

/-- a comment, if one starts here -/
def skipComment : Scan Unit := do
  if ← accept "#" then
    let _ ← takeAll isPlain

def endLine : Scan Unit := do
  skipSpaces
  skipComment
  if ← accept "\n" then return
  if ← accept "\r\n" then return
  if (← peek).isSome then failure

/-- spaces, comments and line ends; at most `n` lines -/
def skipLines : Nat → Scan Unit
  | 0 => return
  | n + 1 => do
    skipSpaces
    skipComment
    if ← accept "\n" then skipLines n
    else if ← accept "\r\n" then skipLines n
    else return

/-! ## Strings -/

/-- the character of an escape sequence of hexadecimal digits -/
def escapedCodePoint? (digits : List Char) : Option Char :=
  let value? (c : Char) : Option Nat :=
    if c.isDigit then some (c.toNat - '0'.toNat)
    else if 'a' ≤ c && c ≤ 'f' then some (c.toNat - 'a'.toNat + 10)
    else if 'A' ≤ c && c ≤ 'F' then some (c.toNat - 'A'.toNat + 10)
    else none
  ((digits.mapM value?).map fun values => values.foldl (fun n d => 16 * n + d) 0).bind fun n =>
    if n.isValidChar then some (Char.ofNat n) else none

/-- the character of a short escape sequence -/
def shortEscape? : Char → Option Char
  | 'b' => some '\x08'
  | 't' => some '\t'
  | 'n' => some '\n'
  | 'f' => some '\x0c'
  | 'r' => some '\r'
  | '"' => some '"'
  | '\\' => some '\\'
  | _ => none

def consRead (c : Char) (read : Option (List Char × List Char)) : Option (List Char × List Char) :=
  read.map fun (text, rest) => (c :: text, rest)

/-- the rest of a string in double quotes -/
def readBasic : List Char → Option (List Char × List Char)
  | '"' :: rest => some ([], rest)
  | '\\' :: 'u' :: a :: b :: c :: d :: rest =>
    (escapedCodePoint? [a, b, c, d]).bind fun x => consRead x (readBasic rest)
  | '\\' :: 'U' :: a :: b :: c :: d :: e :: f :: g :: h :: rest =>
    (escapedCodePoint? [a, b, c, d, e, f, g, h]).bind fun x => consRead x (readBasic rest)
  | '\\' :: c :: rest => (shortEscape? c).bind fun x => consRead x (readBasic rest)
  | c :: rest => if isPlain c then consRead c (readBasic rest) else none
  | [] => none

/-- the rest of a string in single quotes -/
def readLiteral : List Char → Option (List Char × List Char)
  | '\x27' :: rest => some ([], rest)
  | c :: rest => if isPlain c then consRead c (readLiteral rest) else none
  | [] => none

/-- a line end, which a string over several lines holds as a line feed -/
def isLineEnd (cs : List Char) : Bool := ['\n'].isPrefixOf cs || ['\r', '\n'].isPrefixOf cs

/-- the quotes that close a string over several lines: three, with up to two more that belong to the
string -/
def closing? (quote : Char) (cs : List Char) : Option (List Char × List Char) :=
  ([quote, quote, quote].isPrefixOf? cs).map fun rest =>
    let extra := (rest.takeWhile (· = quote)).take 2
    (extra, rest.drop extra.length)

/-- the rest of a string in triple double quotes; `skipping` after a backslash at the end of a line,
which takes all blanks up to the next text along -/
def readMultiBasic (skipping : Bool) : List Char → Option (List Char × List Char)
  | '\\' :: 'u' :: a :: b :: c :: d :: rest =>
    (escapedCodePoint? [a, b, c, d]).bind fun x => consRead x (readMultiBasic false rest)
  | '\\' :: 'U' :: a :: b :: c :: d :: e :: f :: g :: h :: rest =>
    (escapedCodePoint? [a, b, c, d, e, f, g, h]).bind fun x =>
      consRead x (readMultiBasic false rest)
  | '\\' :: c :: rest =>
    if isLineEnd ((c :: rest).dropWhile isSpace) then readMultiBasic true (c :: rest)
    else (shortEscape? c).bind fun x => consRead x (readMultiBasic false rest)
  | '\r' :: '\n' :: rest =>
    if skipping then readMultiBasic true rest else consRead '\n' (readMultiBasic false rest)
  | c :: rest =>
    if skipping && (isSpace c || c = '\n') then readMultiBasic true rest
    else
      match closing? '"' (c :: rest) with
      | some closed => some closed
      | none => if isPlain c || c = '\n' then consRead c (readMultiBasic false rest) else none
  | [] => none

/-- the rest of a string in triple single quotes -/
def readMultiLiteral : List Char → Option (List Char × List Char)
  | '\r' :: '\n' :: rest => consRead '\n' (readMultiLiteral rest)
  | c :: rest =>
    match closing? '\x27' (c :: rest) with
    | some closed => some closed
    | none => if isPlain c || c = '\n' then consRead c (readMultiLiteral rest) else none
  | [] => none

/-- a line end right after the opening quotes is no part of the string -/
def dropLineEnd : List Char → List Char
  | '\n' :: rest => rest
  | '\r' :: '\n' :: rest => rest
  | cs => cs

def scanShortString : Scan String := do
  if ← accept "\"" then
    let text ← fun cs => readBasic cs
    return String.ofList text
  else
    expect "'"
    let text ← fun cs => readLiteral cs
    return String.ofList text

def scanString : Scan String := do
  if ← accept "\"\"\"" then
    let text ← fun cs => readMultiBasic false (dropLineEnd cs)
    return String.ofList text
  else if ← accept "'''" then
    let text ← fun cs => readMultiLiteral (dropLineEnd cs)
    return String.ofList text
  else scanShortString

/-! ## Numbers -/

/-- digits with single underscores between them, the underscores left out -/
def digits? (isDigit : Char → Bool) (text : List Char) : Option (List Char) :=
  if (text.splitOn '_').all fun group => group ≠ [] && group.all isDigit then
    some (text.filter (· ≠ '_'))
  else none

def hexDigitValue (c : Char) : Nat :=
  if c.isDigit then c.toNat - '0'.toNat
  else if 'a' ≤ c then c.toNat - 'a'.toNat + 10
  else c.toNat - 'A'.toNat + 10

def valueInBase (base : Nat) (digits : List Char) : Nat :=
  digits.foldl (fun n c => base * n + hexDigitValue c) 0

/-- an integer of 64 bits -/
def inRange? (n : Int) : Option Int :=
  if Int64.minValue.toInt ≤ n && n ≤ Int64.maxValue.toInt then some n else none

def splitSign : List Char → Bool × List Char
  | '-' :: rest => (true, rest)
  | '+' :: rest => (false, rest)
  | text => (false, text)

/-- a number has no zeros before its other digits -/
def hasPlainStart (digits : List Char) : Bool := digits.length ≤ 1 || digits.head? ≠ some '0'

/-- digits of an integer in base ten -/
def wholeDigits? (text : List Char) : Option (List Char) :=
  (digits? Char.isDigit text).bind fun ds => if hasPlainStart text then some ds else none

/-- the integer that a text writes -/
def integer? (text : List Char) : Option Int :=
  let isHex (c : Char) := c.isDigit || ('a' ≤ c && c ≤ 'f') || ('A' ≤ c && c ≤ 'F')
  match text with
  | '0' :: 'x' :: rest => (digits? isHex rest).bind fun ds => inRange? (valueInBase 16 ds)
  | '0' :: 'o' :: rest =>
    (digits? (fun c => '0' ≤ c && c ≤ '7') rest).bind fun ds => inRange? (valueInBase 8 ds)
  | '0' :: 'b' :: rest =>
    (digits? (fun c => c = '0' || c = '1') rest).bind fun ds => inRange? (valueInBase 2 ds)
  | _ =>
    let (negative, body) := splitSign text
    (wholeDigits? body).bind fun ds =>
      inRange? (if negative then -(valueInBase 10 ds : Int) else valueInBase 10 ds)

/-- the exponent that a text writes, after the letter `e` -/
def exponent? (text : List Char) : Option Int :=
  let (negative, body) := splitSign text
  (digits? Char.isDigit body).map fun ds =>
    if negative then -(valueInBase 10 ds : Int) else valueInBase 10 ds

/-- the floating-point number that a text writes, of two equally near decimals of its double the one
of larger size; a number below all doubles is infinite, one above them is refused -/
def floating? (text : List Char) : Option Floating :=
  let (negative, body) := splitSign text
  if body = "inf".toList then some (.infinite negative)
  else if body = "nan".toList then some .notANumber
  else
    let isE (c : Char) := c = 'e' || c = 'E'
    let mantissa := body.takeWhile (!isE ·)
    let whole := mantissa.takeWhile (· ≠ '.')
    let fraction := mantissa.drop whole.length
    let afterE := body.drop mantissa.length
    if fraction = [] && afterE = [] then none
    else do
      let ds ← wholeDigits? whole
      let fs ← if fraction = [] then some [] else digits? Char.isDigit (fraction.drop 1)
      let e ← if afterE = [] then some 0 else exponent? (afterE.drop 1)
      match Json.Decimal.nearest? .up negative (valueInBase 10 (ds ++ fs)) (e - fs.length) with
      | some d => return .finite d
      | none => if negative then return .infinite true else none

/-! ## Dates and times -/

def fixedDigits? (text : List Char) (count : Nat) : Option Nat :=
  if text.length = count && text.all Char.isDigit then some (valueInBase 10 text) else none

def daysIn (year month : Nat) : Nat :=
  if month = 2 then
    if year % 4 = 0 && (year % 100 ≠ 0 || year % 400 = 0) then 29 else 28
  else if [4, 6, 9, 11].contains month then 30
  else 31

/-- a date such as `1979-05-27` -/
def isDate (text : List Char) : Bool :=
  match text.splitOn '-' with
  | [y, m, d] =>
    match fixedDigits? y 4, fixedDigits? m 2, fixedDigits? d 2 with
    | some year, some month, some day =>
      1 ≤ month && month ≤ 12 && 1 ≤ day && day ≤ daysIn year month
    | _, _, _ => false
  | _ => false

def isTwoDigits (text : List Char) (limit : Nat) : Bool := (fixedDigits? text 2).any (· ≤ limit)

/-- a time such as `07:32:00.5` -/
def isTime (text : List Char) : Bool :=
  let clock := text.takeWhile (· ≠ '.')
  let fraction := text.drop clock.length
  (fraction = [] || (1 < fraction.length && (fraction.drop 1).all Char.isDigit))
    && match clock.splitOn ':' with
      | [h, m, s] => isTwoDigits h 23 && isTwoDigits m 59 && isTwoDigits s 60
      | _ => false

/-- a time with the distance from universal time that may follow it -/
def isTimeWithOffset (text : List Char) : Bool :=
  let time := text.takeWhile fun c => !(['Z', 'z', '+', '-'].contains c)
  isTime time
    && match text.drop time.length with
      | [] => true
      | ['Z'] => true
      | ['z'] => true
      | sign :: offset =>
        (sign = '+' || sign = '-')
          && match offset.splitOn ':' with
            | [h, m] => isTwoDigits h 23 && isTwoDigits m 59
            | _ => false

def isDatetime (text : List Char) : Bool :=
  match text.drop 10 with
  | [] => isDate text || isTime text
  | c :: time =>
    (isDate (text.take 10) && ['T', 't', ' '].contains c && isTimeWithOffset time) || isTime text

/-! ## Leaves -/

/-- a character of a number, a date or a time -/
def isNumberChar (c : Char) : Bool := c.isAlphanum || ['+', '-', '_', '.', ':'].contains c

/-- the characters of a number, a date or a time; a space may stand between date and time -/
def numberToken : Scan (List Char) := do
  let token ← takeAll isNumberChar
  match ← get with
  | ' ' :: c :: rest =>
    if isDate token && c.isDigit then
      set (c :: rest)
      let time ← takeAll isNumberChar
      return token ++ ' ' :: time
    else return token
  | _ => return token

/-- the value of a number, a date or a time -/
def numberLeaf? (token : List Char) : Option Leaf :=
  if isDatetime token then some .datetime
  else
    match integer? token with
    | some n => some (.integer n)
    | none => (floating? token).map .floating

/-- a value that holds no other value -/
def scanLeaf : Scan Leaf := do
  match ← peek with
  | some '"' | some '\x27' => return .string (← scanString)
  | _ =>
    if ← accept "true" then return .boolean true
    else if ← accept "false" then return .boolean false
    else
      let token ← numberToken
      fun cs => (numberLeaf? token).map (·, cs)

/-! ## Keys -/

/-- a character of a key without quotes -/
def isBareChar (c : Char) : Bool := c.isAlphanum || c = '_' || c = '-'

/-- a key, or one part of a dotted key -/
def scanSimpleKey : Scan Key := do
  let (name, span) ← spanned do
    match ← peek with
    | some '"' | some '\x27' => scanShortString
    | _ =>
      let name ← takeAll isBareChar
      if name = [] then failure
      return String.ofList name
  return ⟨name, span⟩

/-- a dotted key of at most `n` parts -/
def scanKey : Nat → Scan (List Key)
  | 0 => failure
  | n + 1 => do
    skipSpaces
    let key ← scanSimpleKey
    skipSpaces
    if ← accept "." then return key :: (← scanKey n) else return [key]

end EntityScaffold.Toml
