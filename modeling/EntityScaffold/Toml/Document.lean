import EntityScaffold.Toml.Scan

/-!
Reading a TOML document: key-value pairs, and headers that say which table the pairs after them belong
to. A key is given once, and a table is defined in one way only: by one header, by dotted keys, or in
braces.
-/

namespace EntityScaffold.Toml

/-! ## Tables -/

/-- change the table that a path of keys leads to. Tables missing on the way are made, as the kind
`missing`; the last of repeated tables stands for all. Dotted keys do not go through a table that has
a header, and no path goes through a value. -/
def updateAt (missing : TableKind) (change : TableKind → Entries → Option Entries) :
    List Key → TableKind → Entries → Option Entries
  | [], kind, entries => change kind entries
  | key :: path, _, entries =>
    match find? key.name entries with
    | none => do
      let inner ← updateAt missing change path missing []
      return entries ++ [(key, .table missing inner none)]
    | some (.table kind inner span) =>
      if kind = .inlined || (missing = .dotted && kind = .headed) then none
      else do
        let inner ← updateAt missing change path kind inner
        return replace key.name (.table kind inner span) entries
    | some (.tables elements) => do
      let (span, last) ← elements.getLast?
      let inner ← updateAt missing change path .headed last
      return replace key.name (.tables (elements.dropLast ++ [(span, inner)])) entries
    | some _ => none

def insertNew (key : Key) (item : Item) (entries : Entries) : Option Entries :=
  if (find? key.name entries).isSome then none else some (entries ++ [(key, item)])

/-- entries with one more pair under a dotted key; a table that a dotted key leads into must have been
made by dotted keys -/
def addPair (path : List Key) (item : Item) (entries : Entries) : Option Entries := do
  let key ← path.getLast?
  let inside := path.dropLast
  updateAt .dotted
    (fun kind entries =>
      if inside ≠ [] && kind ≠ .dotted then none else insertNew key item entries)
    inside .headed entries

/-! ## Values -/

/-- how deep arrays and tables in braces may stand in each other, and how many parts a key may have -/
def nestingLimit : Nat := 79

mutual

/-- a value in which arrays and tables in braces stand at most `n` deep -/
def scanItem (n : Nat) : Scan Item := do
  let start ← place
  if ← accept "[" then
    match n with
    | 0 => failure
    | n + 1 =>
      let items ← scanItems n (start + 1)
      return .array items ⟨start, ← place⟩
  else if ← accept "\x7b" then
    match n with
    | 0 => failure
    | n + 1 =>
      skipSpaces
      if ← accept "\x7d" then return .table .inlined [] (some ⟨start, ← place⟩)
      let entries ← scanPairs n (start + 1) []
      return .table .inlined entries (some ⟨start, ← place⟩)
  else
    let leaf ← scanLeaf
    return .leaf leaf ⟨start, ← place⟩
termination_by (n, 0)

/-- the items of an array up to its closing bracket, at most `fuel` of them -/
def scanItems : Nat → Nat → Scan (List Item)
  | _, 0 => failure
  | n, fuel + 1 => do
    skipLines (← place)
    if ← accept "]" then return []
    let item ← scanItem n
    skipLines (← place)
    if ← accept "," then return item :: (← scanItems n fuel)
    expect "]"
    return [item]
termination_by n fuel => (n, fuel + 1)

/-- the pairs of a table in braces up to its closing brace, at most `fuel` of them -/
def scanPairs : Nat → Nat → Entries → Scan Entries
  | _, 0, _ => failure
  | n, fuel + 1, entries => do
    let path ← scanKey nestingLimit
    expect "="
    skipSpaces
    let item ← scanItem n
    skipSpaces
    let entries ← fun cs => (addPair path item entries).map (·, cs)
    if ← accept "," then scanPairs n fuel entries
    else
      expect "\x7d"
      return entries
termination_by n fuel => (n, fuel + 1)

end

/-! ## Documents -/

/-- a header: the tables it goes through, the one it names, and the stretch of it and its pairs -/
structure Header where
  parents : List Key
  key : Key
  /-- the header stands in double brackets -/
  repeated : Bool
  span : Span
deriving DecidableEq, Repr

def Header.ofPath? (path : List Key) (repeated : Bool) (span : Span) : Option Header :=
  path.getLast?.map fun key => ⟨path.dropLast, key, repeated, span⟩

/-- a document in the course of reading: the tables that are complete, the last header, and the
entries under it -/
structure Draft where
  root : Entries
  header : Option Header
  current : Entries

def Draft.start : Draft := ⟨[], none, []⟩

def pushTable (key : Key) (table : Span × Entries) (entries : Entries) : Option Entries :=
  match find? key.name entries with
  | some (.tables elements) => some (replace key.name (.tables (elements ++ [table])) entries)
  | some _ => none
  | none => some (entries ++ [(key, .tables [table])])

/-- all tables, that under the last header among them -/
def Draft.close (d : Draft) : Option Entries :=
  match d.header with
  | none => some d.current
  | some h =>
    updateAt .implied
      (fun _ entries =>
        if h.repeated then pushTable h.key (h.span, d.current) entries
        else some (entries ++ [(h.key, .table .headed d.current (some h.span))]))
      h.parents .headed d.root

/-- the entries of a table that a header may define: one that so far was only gone through -/
def claimed (key : Key) (entries : Entries) : Option Entries :=
  match find? key.name entries with
  | none => some []
  | some (.table .implied inner _) => some inner
  | some _ => none

/-- the entries of the table that a header names, as the header finds them -/
def claimedAt (key : Key) : List Key → Entries → Option Entries
  | [], entries => claimed key entries
  | parent :: parents, entries =>
    match find? parent.name entries with
    | none => some []
    | some (.table _ inner _) => claimedAt key parents inner
    | some (.tables elements) => elements.getLast?.bind fun last => claimedAt key parents last.2
    | some _ => none

/-- what a header starts with: the entries of its table, and all other tables -/
def Header.start (h : Header) (root : Entries) : Option (Entries × Entries) :=
  if h.repeated then
    (updateAt .implied
      (fun _ entries =>
        match find? h.key.name entries with
        | none => some (entries ++ [(h.key, .tables [])])
        | some (.tables _) => some entries
        | some _ => none)
      h.parents .headed root).map fun root => ([], root)
  else do
    let current ← claimedAt h.key h.parents root
    let root ← updateAt .implied
      (fun _ entries => some (entries.filter (·.1.name ≠ h.key.name))) h.parents .headed root
    return (current, root)

def Draft.addHeader (d : Draft) (h : Header) : Option Draft := do
  let (current, root) ← h.start (← d.close)
  return ⟨root, some h, current⟩

/-- the header with a further pair under it, that ends with a value -/
def Header.extend (h : Header) (value : Span) : Header :=
  { h with span := ⟨h.span.start, value.stop⟩ }

/-- a pair under the last header -/
def Draft.addPair (d : Draft) (path : List Key) (item : Item) : Option Draft := do
  let current ← Toml.addPair path item d.current
  let header :=
    match item.span? with
    | some value => d.header.map (·.extend value)
    | none => d.header
  return { d with current, header }

/-- a header between brackets -/
def scanHeader (repeated : Bool) (start : Nat) (closing : String) : Scan Header := do
  let path ← scanKey nestingLimit
  expect closing
  let span : Span := ⟨start, ← place⟩
  endLine
  fun cs => (Header.ofPath? path repeated span).map (·, cs)

/-- one line of the document, which a value may continue over several -/
def scanLine (d : Draft) : Scan Draft := do
  let start ← place
  if ← accept "[[" then
    let header ← scanHeader true start "]]"
    fun cs => (d.addHeader header).map (·, cs)
  else if ← accept "[" then
    let header ← scanHeader false start "]"
    fun cs => (d.addHeader header).map (·, cs)
  else
    let path ← scanKey nestingLimit
    expect "="
    skipSpaces
    let item ← scanItem nestingLimit
    endLine
    fun cs => (d.addPair path item).map (·, cs)

/-- the lines of a document, at most `n` of them -/
def scanLines : Nat → Draft → Scan Draft
  | 0, d => return d
  | n + 1, d => do
    skipLines (← place)
    if (← peek).isNone then return d
    let d ← scanLine d
    scanLines n d

/-- the entries of a document; none when it is not well formed -/
def read? (text : List Char) : Option Entries := do
  let body := (['\ufeff'].isPrefixOf? text).getD text
  let (d, _) ← (scanLines (body.length + 1) .start).run body
  d.close

end EntityScaffold.Toml
