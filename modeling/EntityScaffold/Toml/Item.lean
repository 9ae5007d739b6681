import EntityScaffold.Json.Decimal

/-!
TOML documents as data. Every value and every key remembers the stretch of text it was read from, so
that a fault can be shown at its place.
-/

namespace EntityScaffold.Toml

/-- a stretch of a text, its ends given by the number of characters from there to the end of the
text -/
structure Span where
  start : Nat
  stop : Nat
deriving DecidableEq, Repr

/-- a key, or one part of a dotted key -/
structure Key where
  name : String
  span : Span
deriving DecidableEq, Repr

/-- a floating-point value -/
inductive Floating
  | finite (d : Json.Decimal)
  | infinite (negative : Bool)
  | notANumber
deriving DecidableEq, Repr

/-- a value that holds no other value -/
inductive Leaf
  | string (s : String)
  | integer (n : Int)
  | floating (f : Floating)
  | boolean (b : Bool)
  | datetime
deriving DecidableEq, Repr

/-- how a table came about -/
inductive TableKind
  /-- written in braces as a value -/
  | inlined
  /-- by a header of its own -/
  | headed
  /-- by a header that goes through it -/
  | implied
  /-- by a dotted key -/
  | dotted
deriving DecidableEq, Repr

/-- what stands under a key -/
inductive Item
  | leaf (value : Leaf) (span : Span)
  | array (items : List Item) (span : Span)
  /-- a table; only one in braces or with a header is written in one piece -/
  | table (kind : TableKind) (entries : List (Key × Item)) (span : Option Span)
  /-- the tables of repeated double headers -/
  | tables (elements : List (Span × List (Key × Item)))
deriving Repr

/-- the entries of a table, in the order of the document -/
abbrev Entries := List (Key × Item)

def Span.across? (spans : List Span) : Option Span :=
  match spans.head?, spans.getLast? with
  | some first, some last => some ⟨first.start, last.stop⟩
  | _, _ => none

/-- the stretch an item was read from, if it was written in one piece -/
def Item.span? : Item → Option Span
  | .leaf _ span => some span
  | .array _ span => some span
  | .table _ _ span => span
  | .tables elements => Span.across? (elements.map (·.1))

/-- what stands under a name -/
def find? (name : String) (entries : Entries) : Option Item :=
  (entries.find? (·.1.name = name)).map (·.2)

def replace (name : String) (item : Item) (entries : Entries) : Entries :=
  entries.map fun e => if e.1.name = name then (e.1, item) else e

end EntityScaffold.Toml
