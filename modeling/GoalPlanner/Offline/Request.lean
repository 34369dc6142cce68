import GoalPlanner.Decimal.Reader
import GoalPlanner.Document.Place
import GoalPlanner.Offline.Report

/-!
# Requests for offline planning

What the command line asks for (`Request`), read from its arguments (`Request.read`). Long options take their value from
the next argument or after an equals sign and may be shortened as long as one option fits. First every argument is told
for what it is (`classify`), so that an option that could be several is refused before any other is looked at; behind
two dashes nothing is an option.
-/

namespace GoalPlanner.Offline

open Document (Place)

/-- What is asked for. -/
structure Request where
  domain : Place
  goal : Option String
  overrides : List String
  prunes : Bool
  form : Form
  settings : Option Place
  level : Option String

/-- The options of the command line. -/
inductive Flag
  | help
  | domain
  | goal
  | override
  | prunes
  | form
  | settings
  | level
  deriving DecidableEq, Repr

/-- An option by its name. -/
def flags : List (String × Flag) :=
  [("--help", .help), ("--system", .domain), ("--goal", .goal), ("--state", .override), ("--prune", .prunes),
    ("--format", .form), ("--config", .settings), ("--log-level", .level)]

/-- The name of an option. -/
def Flag.name : Flag → String
  | help => "-h/--help"
  | f => ((flags.find? fun e => e.2 == f).map Prod.fst).getD ""

/-- What an argument is. -/
inductive Argument
  /-- An option, and the value behind its equals sign if there is one. -/
  | flag (f : Flag) (value : Option String)
  /-- Something that starts like an option and is none. -/
  | unknown (text : String)
  /-- The two dashes behind which nothing is an option. -/
  | separator
  | plain (text : String)

/-- Why there is no request. -/
inductive Refusal
  | complaint (text : String)
  /-- The list of options is asked for instead. -/
  | help

/-- Whether a text looks like a negative number, in digits of any script; a line may end behind it. -/
def isNegativeNumber (cs : List Char) : Bool :=
  let isDigit (c : Char) : Bool := (Decimal.digit? c).isSome
  match cs with
  | '-' :: r =>
    let r := if r.getLast? == some '\n' then r.dropLast else r
    match r.dropWhile isDigit with
    | [] => !r.isEmpty
    | '.' :: places => !places.isEmpty && places.all isDigit
    | _ => false
  | _ => false

/-- Splits a text at the first equals sign. -/
def splitValue (s : String) : String × Option String :=
  match s.toList.dropWhile (· != '=') with
  | [] => (s, none)
  | _ :: value => (String.ofList (s.toList.takeWhile (· != '=')), some (String.ofList value))

/-- The value that stands behind the short option for help, which takes none: what follows it, with or without an equals
sign. The option may be given several times in one argument; what stands behind the last of them is the value. -/
def helpValue? : List Char → Option (List Char)
  | ['='] => some []
  | r =>
    let rest := (if r.head? == some '=' then r.tail else r).dropWhile (· == 'h')
    if rest.isEmpty then none else some rest

/-- What an argument of the command line is, or the complaint about it. -/
def classify (s : String) : Except String Argument :=
  let (name, value) := splitValue s
  match s.toList with
  | '-' :: 'h' :: r => .ok (.flag .help ((helpValue? r).map String.ofList))
  | '-' :: second :: r =>
    match flags.lookup s, value.bind fun _ => flags.lookup name with
    | some f, _ => .ok (.flag f none)
    | none, some f => .ok (.flag f value)
    | none, none =>
      match if second == '-' then flags.filter fun e => e.1.startsWith name else [] with
      | [(_, f)] => .ok (.flag f value)
      | e :: f :: es =>
        .error ("ambiguous option: " ++ s ++ " could match " ++ ", ".intercalate ((e :: f :: es).map Prod.fst))
      | [] => .ok (if isNegativeNumber ('-' :: second :: r) || s.contains ' ' then .plain s else .unknown s)
  | _ => .ok (.plain s)

/-- What the arguments of the command line are. -/
def classifyAll : List String → Except String (List Argument)
  | [] => .ok []
  | s :: rest =>
    if s == "--" then .ok (.separator :: rest.map .plain)
    else do return (← classify s) :: (← classifyAll rest)

/-- What has been read so far. -/
structure Partial where
  domain : Option Place
  goal : Option String
  overrides : List String
  prunes : Bool
  form : Form
  settings : Option Place
  level : Option String
  /-- Arguments that nothing is known about. -/
  others : List String

/-- An argument that nothing is known about. -/
def Partial.skip (q : Partial) (text : String) : Partial := { q with others := q.others ++ [text] }

/-- An option with its value. -/
def Partial.add (q : Partial) (f : Flag) (value : String) : Except Refusal Partial :=
  match f with
  | .domain => .ok { q with domain := some (Place.ofString value) }
  | .goal => .ok { q with goal := some value }
  | .override => .ok { q with overrides := q.overrides ++ [value] }
  | .help | .prunes => .error (.complaint s!"argument {f.name}: ignored explicit argument {Text.quoted value}")
  | .form =>
    if value == "json" then .ok { q with form := .json }
    else if value == "table" then .ok { q with form := .table }
    else .error
      (.complaint s!"argument --format: invalid choice: {Text.quoted value} (choose from 'json', 'table')")
  | .settings => .ok { q with settings := some (Place.ofString value) }
  | .level => .ok { q with level := some value }

/-- Reads arguments one after the other. -/
def readAll (q : Partial) : List Argument → Except Refusal Partial
  | [] => .ok q
  | .plain s :: rest => readAll (q.skip s) rest
  | .unknown s :: rest => readAll (q.skip s) rest
  | .separator :: rest => readAll (q.skip "--") rest
  | .flag .help none :: _ => .error .help
  | .flag .prunes none :: rest => readAll { q with prunes := true } rest
  | .flag f (some value) :: rest => do readAll (← q.add f value) rest
  | .flag f none :: .plain value :: rest => do readAll (← q.add f value) rest
  | .flag f none :: _ => .error (.complaint s!"argument {f.name}: expected one argument")

/-- The request that arguments make, or why there is none. -/
def Request.read (args : List String) : Except Refusal Request := do
  let arguments ← (classifyAll args).mapError .complaint
  let q ← readAll ⟨none, none, [], false, .json, none, none, []⟩ arguments
  match q.domain with
  | none => .error (.complaint "the following arguments are required: --system")
  | some domain =>
    if q.others.isEmpty then .ok ⟨domain, q.goal, q.overrides, q.prunes, q.form, q.settings, q.level⟩
    else .error (.complaint ("unrecognized arguments: " ++ " ".intercalate q.others))

end GoalPlanner.Offline
