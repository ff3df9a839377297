import TestScaffold.Render.Options

namespace TestScaffold.CommandLine

inductive Inquiry where
  | version | help
  deriving DecidableEq, Repr

structure Settings where
  inquiry : Option Inquiry := none
  offline : Bool := false
  assistBodies : Bool := false
  insert : Bool := false
  output : Option String := none
  verbose : Bool := false
  tests : Render.Options := {}
  deriving DecidableEq, Repr

inductive Command where
  | answer (i : Inquiry)
  | unitTests (source : String) (s : Settings)
  | interfaceTests (source : String) (s : Settings)
  | showConfig
  | checkConnection
  deriving DecidableEq, Repr

inductive UsageError where
  | unknownOption (name : String)
  | missingValue (name : String)
  | unexpectedValue (name : String)
  | missingCommand
  | unknownCommand (name : String)
  | missingSource
  | unexpectedArgument (argument : String)
  | badPath (path : String)
  deriving DecidableEq, Repr

def UsageError.message : UsageError → String
  | .unknownOption name => "No such option: " ++ name
  | .missingValue name => "Option " ++ name ++ " needs a value"
  | .unexpectedValue name => "Option " ++ name ++ " takes no value"
  | .missingCommand => "A command is missing"
  | .unknownCommand name => "No such command: " ++ name
  | .missingSource => "A source is missing"
  | .unexpectedArgument argument => "Unexpected argument: " ++ argument
  | .badPath path => "Not a path: " ++ path

inductive Effect where
  | flag (set : Settings → Settings)
  | value (set : String → Settings → Settings)

structure Switch where
  long : String
  short : Option Char := none
  effect : Effect

namespace Switch

def inquiry (long : String) (short : Option Char) (i : Inquiry) : Switch :=
  ⟨long, short, .flag fun s => { s with inquiry := s.inquiry <|> some i }⟩

def help : Switch := inquiry "--help" none .help

def version : Switch := inquiry "--version" (some 'v') .version

def flag (long : String) (set : Settings → Settings) : Switch := ⟨long, none, .flag set⟩

def shared : List Switch :=
  [help,
   flag "--offline" fun s => { s with offline := true },
   flag "--insert" fun s => { s with insert := true },
   flag "--verbose" fun s => { s with verbose := true },
   ⟨"--output", some 'o', .value fun path s => { s with output := some path }⟩]

def part (name : String) (set : Bool → Render.Options → Render.Options) : List Switch :=
  [flag ("--" ++ name) fun s => { s with tests := set true s.tests },
   flag ("--no-" ++ name) fun s => { s with tests := set false s.tests }]

def ofUnitTests : List Switch :=
  flag "--assist-bodies" (fun s => { s with assistBodies := true }) :: shared

def ofInterfaceTests : List Switch :=
  part "suggestions" (fun b o => { o with suggestions := b }) ++
  part "state-tests" (fun b o => { o with stateTests := b }) ++
  part "navigation-tests" (fun b o => { o with navigationTests := b }) ++
  part "comments" (fun b o => { o with comments := b }) ++
  part "launch-arguments" (fun b o => { o with launchArguments := b }) ++
  shared

end Switch

def longEffect? (switches : List Switch) (name : String) : Option Effect :=
  (switches.find? (·.long == name)).map (·.effect)

def shortEffect? (switches : List Switch) (c : Char) : Option Effect :=
  (switches.find? (·.short == some c)).map (·.effect)

structure Pending where
  name : String
  set : String → Settings → Settings

def shortRun (switches : List Switch) (s : Settings) :
    List Char → Except UsageError (Settings × Option Pending)
  | [] => .ok (s, none)
  | c :: cs =>
    let name := String.ofList ['-', c]
    match shortEffect? switches c with
    | none => .error (.unknownOption name)
    | some (.flag set) => shortRun switches (set s) cs
    | some (.value set) =>
      if cs.isEmpty then .ok (s, some ⟨name, set⟩) else .ok (set (String.ofList cs) s, none)

def applyOption (switches : List Switch) (s : Settings) (argument : String) :
    Except UsageError (Settings × Option Pending) :=
  let cs := argument.toList
  let name := String.ofList (cs.takeWhile (· != '='))
  let value? := if cs.contains '=' then some (String.ofList ((cs.dropWhile (· != '=')).drop 1)) else none
  match longEffect? switches name, value? with
  | some (.flag set), none => .ok (set s, none)
  | some (.flag _), some _ => .error (.unexpectedValue name)
  | some (.value set), none => .ok (s, some ⟨name, set⟩)
  | some (.value set), some v => .ok (set v s, none)
  | none, _ =>
    if cs.take 2 = ['-', '-'] then .error (.unknownOption name) else shortRun switches s (cs.drop 1)

def isOption (argument : String) : Bool :=
  argument.toList.head? == some '-' && argument.length > 1

def readOptions (switches : List Switch) (mixed : Bool) (s : Settings) :
    List String → Except UsageError (Settings × List String)
  | [] => .ok (s, [])
  | a :: rest =>
    if a == "--" then .ok (s, rest)
    else if isOption a then
      match applyOption switches s a, rest with
      | .error e, _ => .error e
      | .ok (t, none), rest => readOptions switches mixed t rest
      | .ok (_, some p), [] => .error (.missingValue p.name)
      | .ok (t, some p), v :: rest => readOptions switches mixed (p.set v t) rest
    else if mixed then (readOptions switches mixed s rest).map fun r => (r.1, a :: r.2)
    else .ok (s, a :: rest)

def checkOutput (s : Settings) : Except UsageError Unit :=
  match s.output with
  | some path => if path.contains '\x00' then .error (.badPath path) else .ok ()
  | none => .ok ()

def withSource (switches : List Switch) (command : String → Settings → Command)
    (arguments : List String) : Except UsageError Command := do
  let (s, rest) ← readOptions switches true {} arguments
  match s.inquiry, rest with
  | some i, _ => return .answer i
  | none, [] => throw .missingSource
  | none, [source] => do
    checkOutput s
    return command source s
  | none, _ :: extra :: _ => throw (.unexpectedArgument extra)

def withoutSource (command : Command) (arguments : List String) : Except UsageError Command := do
  let (s, rest) ← readOptions [Switch.help] true {} arguments
  match s.inquiry, rest with
  | some i, _ => return .answer i
  | none, [] => return command
  | none, extra :: _ => throw (.unexpectedArgument extra)

def command? : String → Option (List String → Except UsageError Command)
  | "unit" => some (withSource Switch.ofUnitTests .unitTests)
  | "ui" => some (withSource Switch.ofInterfaceTests .interfaceTests)
  | "config" => some (withoutSource .showConfig)
  | "check-connection" => some (withoutSource .checkConnection)
  | _ => none

def readInquiry : List String → Except UsageError (Settings × List String) :=
  readOptions [Switch.version, Switch.help] false {}

def parse (arguments : List String) : Except UsageError Command := do
  let (s, rest) ← readInquiry arguments
  match s.inquiry, rest with
  | some i, _ => return .answer i
  | none, [] => throw .missingCommand
  | none, name :: more =>
    match command? name with
    | some read => read more
    | none =>
      let (s, _) ← readInquiry rest
      match s.inquiry with
      | some i => return .answer i
      | none => throw (.unknownCommand name)

end TestScaffold.CommandLine
