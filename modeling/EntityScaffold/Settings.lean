import EntityScaffold.Plan
import EntityScaffold.Text.Bytes
import EntityScaffold.Toml.Document

/-!
Settings of a project, read from a TOML document. Every key may be left out; a key without a meaning
is a fault. Faults are found in the order of the document and shown with the line they stand on.
-/

namespace EntityScaffold

open Toml

structure Settings where
  /-- the directory that artifacts are written to -/
  outputDir : String
  /-- structural problems are errors -/
  strict : Bool
  strategy : Emission.Strategy
  /-- entities may be built at the same time; this changes no result -/
  parallel : Bool
  kinds : List ArtifactKind
deriving DecidableEq, Repr

/-- the settings of a project that says nothing -/
def Settings.default : Settings := ⟨"generated", false, .topological, true, ArtifactKind.all⟩

/-! ## Faults -/

/-- what is wrong with a well-formed document -/
inductive Fault
  | unknownKey (name : String)
  | unknownChoice (name : String) (choices : List String)
  | wrongType (shown expected : String)
  /-- a choice that is not written as a text -/
  | malformedChoice (reason : String)
deriving DecidableEq, Repr

/-- the reason settings cannot be read -/
inductive SettingsError
  /-- the document is not well formed -/
  | malformed
  /-- a fault at a stretch of the text -/
  | fault (span : Span) (fault : Fault)
deriving DecidableEq, Repr

def settingKeys : List String := ["output_dir", "strict", "ordering", "parallel", "artifacts"]

def choiceList (names : List String) : String :=
  match names.map fun name => "`" ++ name ++ "`" with
  | [a, b] => a ++ " or " ++ b
  | quoted => "one of " ++ String.intercalate ", " quoted

def Fault.message : Fault → String
  | .unknownKey name => "unknown field `" ++ name ++ "`, expected " ++ choiceList settingKeys
  | .unknownChoice name choices =>
    "unknown variant `" ++ name ++ "`, expected " ++ choiceList choices
  | .wrongType shown expected => "invalid type: " ++ shown ++ ", expected " ++ expected
  | .malformedChoice reason => reason

/-! ## Reading -/

/-- a floating-point number without an exponent -/
def floatingText : Floating → String
  | .infinite negative => if negative then "-inf" else "inf"
  | .notANumber => "NaN"
  | .finite d =>
    let ds := Nat.toDigits 10 d.digits
    let point := ds.length + d.exponent
    let sign := if d.negative then ['-'] else []
    let body :=
      if 0 ≤ d.exponent then ds ++ List.replicate d.exponent.toNat '0' ++ ['.', '0']
      else if 0 < point then ds.take point.toNat ++ '.' :: ds.drop point.toNat
      else '0' :: '.' :: (List.replicate (-point).toNat '0' ++ ds)
    String.ofList (sign ++ body)

/-- a value as a fault shows it -/
def shownItem : Item → String
  | .leaf (.string s) _ => "string " ++ String.ofList (Text.quote s)
  | .leaf (.integer n) _ => "integer `" ++ toString n ++ "`"
  | .leaf (.floating f) _ => "floating point `" ++ floatingText f ++ "`"
  | .leaf (.boolean b) _ => "boolean `" ++ (if b then "true" else "false") ++ "`"
  | .leaf .datetime _ => "map"
  | .array _ _ => "sequence"
  | .table _ _ _ => "map"
  | .tables _ => "sequence"

/-- a fault at an item, with the stretch of the text it is shown at if the item was written in one
piece -/
abbrev Checked (α : Type) := Except (Option Span × Fault) α

def wrongType {α : Type} (item : Item) (expected : String) : Checked α :=
  .error (item.span?, .wrongType (shownItem item) expected)

def booleanOf : Item → Checked Bool
  | .leaf (.boolean b) _ => .ok b
  | item => wrongType item "a boolean"

def pathOf : Item → Checked String
  | .leaf (.string s) _ => .ok s
  | item => wrongType item "path string"

def choiceNamed {α : Type} (choices : List (String × α)) (span : Option Span) (name : String) :
    Checked α :=
  match choices.lookup name with
  | some a => .ok a
  | none => .error (span, .unknownChoice name (choices.map (·.1)))

/-- the type of a value as a choice names it that has no room for one -/
def leafType : Leaf → String
  | .string _ => "string"
  | .integer _ => "integer"
  | .floating _ => "float"
  | .boolean _ => "boolean"
  | .datetime => "datetime"

/-- what is wrong with an item that stands under the name of a choice; an empty one is in order -/
def payloadFault? : Item → Option String
  | .array items _ => if items.isEmpty then none else some "expected empty table"
  | .table _ entries _ => if entries.isEmpty then none else some "expected empty table"
  | .tables elements => if elements.isEmpty then none else some "expected empty array"
  | .leaf leaf _ => some ("expected table, found " ++ leafType leaf)

/-- one of several choices: its name, or a table with the name as its only key and nothing under
it -/
def choiceOf {α : Type} (choices : List (String × α)) (item : Item) : Checked α :=
  let malformed (span : Option Span) (reason : String) : Checked α :=
    .error (span, .malformedChoice reason)
  match item with
  | .leaf (.string name) _ => choiceNamed choices item.span? name
  | .table _ [(key, inner)] _ => do
    let a ← choiceNamed choices (some key.span) key.name
    match payloadFault? inner with
    | none => .ok a
    | some reason => malformed (inner.span?.or item.span?) reason
  | .table _ [] _ => malformed item.span? "wanted exactly 1 element, found 0 elements"
  | .table _ _ _ => malformed item.span? "wanted exactly 1 element, more than 1 element"
  | _ => malformed item.span? "wanted string or table"

def choicesOf {α : Type} (choices : List (String × α)) : Item → Checked (List α)
  | .array items _ => items.mapM (choiceOf choices)
  | .tables elements =>
    elements.mapM fun (span, entries) => choiceOf choices (.table .headed entries (some span))
  | item => wrongType item "a sequence"

/-- the strategies as a document names them -/
def strategyChoices : List (String × Emission.Strategy) :=
  [Emission.Strategy.fanOut, .topological].map fun s => (s.name, s)

/-- the kinds of artifact as a document names them -/
def kindChoices : List (String × ArtifactKind) := ArtifactKind.all.map fun k => (k.name, k)

/-- the settings with one entry of the document taken in. A fault at an item that was not written in
one piece is shown at its key. -/
def Settings.take (s : Settings) (entry : Key × Item) : Except SettingsError Settings :=
  let (key, item) := entry
  let checked : Checked Settings :=
    match key.name with
    | "output_dir" => do .ok { s with outputDir := ← pathOf item }
    | "strict" => do .ok { s with strict := ← booleanOf item }
    | "ordering" => do .ok { s with strategy := ← choiceOf strategyChoices item }
    | "parallel" => do .ok { s with parallel := ← booleanOf item }
    | "artifacts" => do .ok { s with kinds := ← choicesOf kindChoices item }
    | name => .error (some key.span, .unknownKey name)
  checked.mapError fun (span, fault) => .fault ((span.or item.span?).getD key.span) fault

/-- the settings that a document gives -/
def Settings.read (text : String) : Except SettingsError Settings :=
  match Toml.read? text.toList with
  | none => .error .malformed
  | some entries => entries.foldlM Settings.take .default

/-! ## Showing faults -/

def spaces (n : Nat) : List Char := List.replicate n ' '

/-- the line on which a stretch of a text starts, with marks under the stretch -/
def excerpt (text : List Char) (span : Span) : List Char :=
  let before := text.take (text.length - span.start)
  let line := before.count '\n'
  let column := (before.reverse.takeWhile (· ≠ '\n')).length
  let content := ((text.splitOn '\n')[line]?).getD []
  let number := Nat.toDigits 10 (line + 1)
  let stretch := Text.byteCount ((text.drop before.length).take (span.start - span.stop))
  let marks := max 1 (min stretch (Text.byteCount content - column))
  let margin := spaces (number.length + 1) ++ ['|']
  "TOML parse error at line ".toList ++ number ++ ", column ".toList
    ++ Nat.toDigits 10 (column + 1) ++ ['\n']
    ++ margin ++ ['\n']
    ++ number ++ " | ".toList ++ content ++ ['\n']
    ++ margin ++ spaces (column + 1) ++ List.replicate marks '^' ++ ['\n']

/-- the reason settings cannot be read, with the place in the document -/
def SettingsError.message (text : String) : SettingsError → String
  | .malformed => "Invalid configuration: TOML parse error\n"
  | .fault span found =>
    "Invalid configuration: " ++ String.ofList (excerpt text.toList span) ++ found.message ++ "\n"

end EntityScaffold
