import EntityScaffold.Plan

/-!
Arguments of the command line. Options have a long and a short spelling and may stand anywhere after
the subcommand; those that all subcommands share may stand before it as well. An option is given once,
unless it collects its values. Whatever does not fit is a usage error.
-/

namespace EntityScaffold.CommandLine

/-! ## Options -/

structure Spec where
  long : String
  short : Option Char
  takesValue : Bool
  /-- the option may be given several times -/
  repeats : Bool
deriving DecidableEq, Repr

/-- an option as it was given; one that takes no value has an empty one -/
structure Given where
  long : String
  value : String
deriving DecidableEq, Repr

/-- what one argument gives -/
structure Piece where
  options : List Given
  /-- the last option took the next argument as its value -/
  tookNext : Bool
  /-- the argument was read to its end -/
  sound : Bool
deriving DecidableEq, Repr

/-- options and the other arguments, in order -/
structure Scanned where
  options : List Given
  positionals : List String
  /-- the arguments were read to their end; else the options are those before the fault -/
  sound : Bool
deriving DecidableEq, Repr

def valued (long : String) (short : Option Char) (repeats : Bool) : Spec :=
  ⟨long, short, true, repeats⟩

def switch (long : String) (short : Option Char) : Spec := ⟨long, short, false, false⟩

/-- the argument is an option, not a value -/
def isOption (arg : String) : Bool := arg.toList.head? = some '-' && arg ≠ "-"

/-- nothing was read, for a fault -/
def Piece.fault : Piece := ⟨[], false, false⟩

def Piece.one (long value : String) (tookNext : Bool) : Piece := ⟨[⟨long, value⟩], tookNext, true⟩

/-- the option with the next argument as its value, which must not be an option -/
def Piece.withNext (long : String) : Option String → Piece
  | some value => if isOption value then .fault else .one long value true
  | none => .fault

/-- the options of a group of short spellings such as `-vw`; `next?` is the argument after the group,
which an option at the end of the group may take -/
def scanShorts (specs : List Spec) (next? : Option String) : List Char → Piece
  | [] => ⟨[], false, true⟩
  | c :: rest =>
    match specs.find? (·.short = some c) with
    | none => .fault
    | some spec =>
      if spec.takesValue then
        match rest with
        | [] => .withNext spec.long next?
        | '=' :: value => .one spec.long (String.ofList value) false
        | value => .one spec.long (String.ofList value) false
      else
        let piece := scanShorts specs next? rest
        { piece with options := ⟨spec.long, ""⟩ :: piece.options }

/-- the option of a long spelling such as `output=web` -/
def scanLong (specs : List Spec) (next? : Option String) (text : List Char) : Piece :=
  let name := text.takeWhile (· ≠ '=')
  let attached := text.drop name.length
  match specs.find? (·.long.toList = name) with
  | none => .fault
  | some spec =>
    if spec.takesValue then
      match attached with
      | _ :: value => .one spec.long (String.ofList value) false
      | [] => .withNext spec.long next?
    else if attached = [] then .one spec.long "" false
    else .fault

/-- what an argument gives that is an option -/
def scanOption (specs : List Spec) (next? : Option String) (arg : String) : Piece :=
  match arg.toList with
  | '-' :: '-' :: text => scanLong specs next? text
  | '-' :: shorts => scanShorts specs next? shorts
  | _ => .fault

/-- options and the other arguments; `--` ends the options. With `leading`, scanning stops at the
first argument that is no option, which stays in place with all that follow. With `skip`, the first
argument is already taken. -/
def scan (specs : List Spec) (leading : Bool) : Bool → List String → Scanned
  | _, [] => ⟨[], [], true⟩
  | true, _ :: rest => scan specs leading false rest
  | false, arg :: rest =>
    if arg = "--" then ⟨[], rest, !leading⟩
    else if isOption arg then
      let piece := scanOption specs rest.head? arg
      if piece.sound then
        let s := scan specs leading piece.tookNext rest
        { s with options := piece.options ++ s.options }
      else ⟨piece.options, [], false⟩
    else if leading then ⟨[], arg :: rest, true⟩
    else
      let s := scan specs leading false rest
      { s with positionals := arg :: s.positionals }

/-- no option that is given once is given again -/
def Scanned.isOnce (specs : List Spec) (s : Scanned) : Bool :=
  specs.all fun spec => spec.repeats || s.options.countP (·.long = spec.long) ≤ 1

def Scanned.has (s : Scanned) (long : String) : Bool := s.options.any (·.long = long)

def Scanned.values (s : Scanned) (long : String) : List String :=
  (s.options.filter (·.long = long)).map (·.value)

def Scanned.value? (s : Scanned) (long : String) : Option String := (s.values long).head?

/-! ## Commands -/

structure GenerateCommand where
  source : String
  output : Option String
  entities : List String
  all : Bool
  dryRun : Bool
  strict : Bool
  strategy : Option Emission.Strategy
  sequential : Bool
  kinds : List ArtifactKind
deriving DecidableEq, Repr

/-- what the program is asked to do -/
inductive Command
  | generate (command : GenerateCommand)
  | check (source : String) (strict : Bool)
  | format (source : String) (write : Bool)
deriving DecidableEq, Repr

structure Invocation where
  command : Command
  settings : Option String
deriving DecidableEq, Repr

/-- the outcome of reading the arguments -/
inductive Reading
  | invocation (i : Invocation)
  | version
  | usage
deriving DecidableEq, Repr

/-- the options that all commands share -/
def sharedSpecs : List Spec :=
  [valued "config" (some 'c') false, ⟨"verbose", some 'v', false, true⟩]

def generateSpecs : List Spec :=
  [valued "output" (some 'o') false, valued "entity" (some 'e') true, switch "all" none,
    switch "dry-run" none, switch "strict" none, valued "ordering" none false,
    switch "sequential" none, valued "artifact" (some 'a') true]

def checkSpecs : List Spec := [switch "strict" none]

def formatSpecs : List Spec := [switch "write" (some 'w')]

def Scanned.source? (s : Scanned) : Option String :=
  match s.positionals with
  | [path] => if path = "" then none else some path
  | _ => none

/-- an optional path, which must not be empty; the outer option is a usage error -/
def Scanned.path? (s : Scanned) (long : String) : Option (Option String) :=
  match s.value? long with
  | some "" => none
  | value => some value

/-- options read with the specifications of a command -/
def scanCommand (specs : List Spec) (args : List String) : Option Scanned :=
  let s := scan (specs ++ sharedSpecs) false false args
  if s.sound && s.isOnce (specs ++ sharedSpecs) then some s else none

/-- the command to generate -/
def generateCommand? (s : Scanned) : Option Command := do
  let source ← s.source?
  let output ← s.path? "output"
  let strategy ←
    match s.value? "ordering" with
    | none => some none
    | some name => (Emission.Strategy.ofName? name).map some
  let kinds ← (s.values "artifact").mapM ArtifactKind.ofName?
  if s.has "all" && s.has "entity" then none
  else
    return .generate {
      source, output, strategy, kinds
      entities := s.values "entity"
      all := s.has "all"
      dryRun := s.has "dry-run"
      strict := s.has "strict"
      sequential := s.has "sequential" }

/-- the command of a subcommand's name and its arguments, with the settings file it names -/
def command? (name : String) (args : List String) : Option (Command × Option String) :=
  match name with
  | "generate" => do
    let s ← scanCommand generateSpecs args
    return (← generateCommand? s, ← s.path? "config")
  | "check" => do
    let s ← scanCommand checkSpecs args
    return (.check (← s.source?) (s.has "strict"), ← s.path? "config")
  | "fmt" => do
    let s ← scanCommand formatSpecs args
    return (.format (← s.source?) (s.has "write"), ← s.path? "config")
  | _ => none

/-- the options that may stand before the subcommand -/
def leadingSpecs : List Spec := sharedSpecs ++ [switch "version" (some 'V')]

/-- the options ask for the version before any of them is at fault; a settings file is named once,
and its name is not empty -/
def asksVersion (settings : Bool) : List Given → Bool
  | [] => false
  | option :: rest =>
    if option.long = "version" then true
    else if option.long = "config" then !settings && option.value ≠ "" && asksVersion true rest
    else asksVersion settings rest

/-- the invocation that arguments make up. The version is told as soon as it is asked for, whatever
stands behind. -/
def readArguments (args : List String) : Reading :=
  let s := scan leadingSpecs true false args
  if asksVersion false s.options then .version
  else
    match s.positionals, s.path? "config" with
    | name :: rest, some outer =>
      match s.sound && s.isOnce leadingSpecs, command? name rest with
      | true, some (command, inner) => .invocation ⟨command, inner.or outer⟩
      | _, _ => .usage
    | _, _ => .usage

end EntityScaffold.CommandLine
