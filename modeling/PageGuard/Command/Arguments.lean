/-!
# Command line arguments

A command line is a subcommand with its options.  Options have a long name and perhaps a letter; an
option with a value takes it after an equals sign or from the next argument, which must not look
like an option.  No option is given twice.
-/

namespace PageGuard.Command

/-- An option of a subcommand. -/
structure OptionSpec where
  long : String
  short : Option Char := none
  takesValue : Bool := true
  /-- Whether the value is a whole number of 32 bits. -/
  isNumber : Bool := false
deriving DecidableEq, Inhabited

/-- What help is about. -/
inductive Topic where
  | all
  | compile
  | validate
  | info
  | run
  | help
deriving DecidableEq, Inhabited

/-- Why a command line is no command. -/
inductive Usage where
  /-- It asks for help. -/
  | help (topic : Topic)
  | wrong
deriving DecidableEq, Inhabited

/-- Where a database is run. -/
structure RunOptions where
  database : String
  html : String
  url : String
  tab : Int := 1
  config : Option String := none
  whitelist : Option String := none
  popular : Option String := none
  aggressive : Bool := false
deriving DecidableEq, Inhabited

/-- A command. -/
inductive Action where
  | compile (input output : String) (verbose : Bool)
  | validate (input : String)
  | info (input : String)
  | run (options : RunOptions)
deriving DecidableEq, Inhabited

/-! ## Arguments -/

/-- An argument by its form. -/
inductive Argument where
  | word
  /-- Two hyphens, after which nothing is an option. -/
  | separator
  | long (name : String) (value : Option String)
  | letters (cs : List Char)
deriving DecidableEq, Inhabited

/-- The form of an argument. -/
def Argument.ofText (text : String) : Argument :=
  match text.toList with
  | ['-', '-'] => .separator
  | '-' :: '-' :: rest =>
    match rest.dropWhile (· ≠ '=') with
    | '=' :: value => .long (.ofList (rest.takeWhile (· ≠ '='))) (some (.ofList value))
    | _ => .long (.ofList rest) none
  | '-' :: c :: rest => .letters (c :: rest)
  | _ => .word

/-- The options given so far, by long name. -/
abbrev Given := List (String × String)

/-- The whole number of 32 bits that a text writes. -/
def number? (text : String) : Option Int :=
  let (sign, digits) : Int × List Char := match text.toList with
    | '-' :: rest => (-1, rest)
    | '+' :: rest => (1, rest)
    | cs => (1, cs)
  if digits.isEmpty || !digits.all Char.isDigit then none
  else
    let n : Int := sign * (digits.foldl (fun n d => 10 * n + (d.toNat - '0'.toNat)) 0 : Nat)
    if -2147483648 ≤ n ∧ n ≤ 2147483647 then some n else none

/-- Adds an option, which must not be given yet. -/
def give (spec : OptionSpec) (value : String) (given : Given) : Except Usage Given :=
  if given.any fun g => g.1 = spec.long then .error .wrong
  else if spec.isNumber && (number? value).isNone then .error .wrong
  else .ok (given ++ [(spec.long, value)])

/-- Reads letters after one hyphen.  An option that is left takes its value from the next
argument. -/
def readLetters (topic : Topic) (specs : List OptionSpec) :
    List Char → Given → Except Usage (Given × Option OptionSpec)
  | [], given => .ok (given, none)
  | c :: rest, given =>
    match specs.find? fun s => s.short = some c with
    | none => .error (if c = 'h' then .help topic else .wrong)
    | some spec =>
      if spec.takesValue then
        match rest with
        | [] => .ok (given, some spec)
        | '=' :: value => (give spec (.ofList value) given).map (·, none)
        | value => (give spec (.ofList value) given).map (·, none)
      else do readLetters topic specs rest (← give spec "" given)

/-- Reads an option with a long name. -/
def readLong (topic : Topic) (specs : List OptionSpec) (name : String) (value : Option String)
    (given : Given) : Except Usage (Given × Option OptionSpec) :=
  match specs.find? fun s => s.long = name with
  | none => .error (if name = "help" ∧ value = none then .help topic else .wrong)
  | some spec =>
    match spec.takesValue, value with
    | true, some v => (give spec v given).map (·, none)
    | true, none => .ok (given, some spec)
    | false, some _ => .error .wrong
    | false, none => (give spec "" given).map (·, none)

/-- Reads options up to the first word, and gives the arguments from there on. -/
def readOptions (topic : Topic) (specs : List OptionSpec) :
    List String → Given → Except Usage (Given × List String)
  | [], given => .ok (given, [])
  | text :: rest, given => do
    let step : Except Usage (Option (Given × Option OptionSpec)) :=
      match Argument.ofText text with
      | .word => .ok none
      | .separator => if rest.isEmpty then .ok (some (given, none)) else .error .wrong
      | .long name value => (readLong topic specs name value given).map some
      | .letters cs => (readLetters topic specs cs given).map some
    match ← step with
    | none => return (given, text :: rest)
    | some (given, none) => readOptions topic specs rest given
    | some (given, some spec) =>
      match rest with
      | value :: rest =>
        if Argument.ofText value = .word then do
          readOptions topic specs rest (← give spec value given)
        else .error .wrong
      | [] => .error .wrong

/-! ## Subcommands -/

/-- The option that every subcommand knows. -/
def verboseSpec : OptionSpec := { long := "verbose", short := some 'v', takesValue := false }

/-- The options of a subcommand. -/
def Topic.specs : Topic → List OptionSpec
  | .compile =>
    [{ long := "input", short := some 'i' }, { long := "output", short := some 'o' }, verboseSpec]
  | .validate | .info => [{ long := "input", short := some 'i' }, verboseSpec]
  | .run => [
    { long := "database", short := some 'd' },
    { long := "html" },
    { long := "url" },
    { long := "tab", isNumber := true },
    { long := "config" },
    { long := "whitelist" },
    { long := "popular" },
    { long := "aggressive", takesValue := false },
    verboseSpec]
  | .all | .help => [verboseSpec]

/-- The subcommand of a name. -/
def topic? (name : String) : Option Topic :=
  if name = "compile" then some .compile
  else if name = "validate" then some .validate
  else if name = "info" then some .info
  else if name = "run" then some .run
  else if name = "help" then some .help
  else none

/-- The value of an option that must be given. -/
def need (name : String) (given : Given) : Except Usage String :=
  match given.lookup name with
  | some v => .ok v
  | none => .error .wrong

/-- The command of a subcommand with its options. -/
def build (topic : Topic) (verbose : Bool) (given : Given) : Except Usage Action := do
  match topic with
  | .compile =>
    return .compile (← need "input" given) ((given.lookup "output").getD "heuristics.json")
      (verbose || (given.lookup "verbose").isSome)
  | .validate => return .validate (← need "input" given)
  | .info => return .info (← need "input" given)
  | .run => return .run {
      database := ← need "database" given
      html := ← need "html" given
      url := ← need "url" given
      tab := ((given.lookup "tab").bind number?).getD 1
      config := given.lookup "config"
      whitelist := given.lookup "whitelist"
      popular := given.lookup "popular"
      aggressive := (given.lookup "aggressive").isSome }
  | .all | .help => .error .wrong

/-- What is asked for after the word `help`. -/
def readHelp : List String → Usage
  | [] => .help .all
  | [name] =>
    match topic? name with
    | some topic => .help topic
    | none => .wrong
  | _ => .wrong

/-- The command of a command line. -/
def Action.ofArguments (arguments : List String) : Except Usage Action := do
  let (before, rest) ← readOptions .all Topic.all.specs arguments []
  match rest with
  | [] => .error .wrong
  | name :: rest =>
    match topic? name with
    | none => .error .wrong
    | some .help => .error (readHelp rest)
    | some topic =>
      let (given, rest) ← readOptions topic topic.specs rest []
      if rest.isEmpty then build topic (before.lookup "verbose").isSome given else .error .wrong

end PageGuard.Command
