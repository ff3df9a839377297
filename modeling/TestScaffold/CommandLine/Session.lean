import TestScaffold.CommandLine.Arguments
import TestScaffold.CommandLine.Console
import TestScaffold.CommandLine.Directory
import TestScaffold.Config.Decode
import TestScaffold.Pipeline
import TestScaffold.Render.Insertion
import TestScaffold.Service.Client
import TestScaffold.Text.Lines

/-!
What a command does: the code it puts out, the lines it writes to the console, the files it leaves
behind and the code it exits with.
-/

namespace TestScaffold.CommandLine

structure Surroundings where
  environment : Environment := []
  input : String := ""
  directory : Directory := {}
  service : Config → Service
  network : Nat → Delivery
  depthLimit : Nat

structure Progress where
  output : String := ""
  console : List String := []
  levels : List LogLevel := []
  directory : Directory := {}
  trace : Trace := {}
  client : Client := {}

inductive Failure where
  | config (e : ConfigError)
  | fault (f : Fault)
  | service (b : Breakdown)
  | path (e : PathError)
  | markup (e : Text.Markup.MarkupError)

inductive Stop where
  | exit (code : Nat)
  | failed (f : Failure)

abbrev Session := ExceptT Stop (StateM Progress)

namespace Session

def exit {α : Type} (code : Nat) : Session α := throw (.exit code)

def fail {α : Type} (f : Failure) : Session α := throw (.failed f)

def display (lines : Except Text.Markup.MarkupError (List String)) : Session Unit :=
  match lines with
  | .error e => fail (.markup e)
  | .ok lines => modify fun p => { p with console := p.console ++ lines }

def say (text : String) : Session Unit := display (Console.lines text)

def configured (w : Surroundings) : Session Config :=
  match Config.ofEnvironment w.environment with
  | .ok c => return c
  | .error e => fail (.config e)

def setUpLogging (c : Config) : Session Unit :=
  modify fun p => { p with levels := p.levels ++ [c.logLevel] }

def adjust (s : Settings) (c : Config) : Config :=
  let c := if s.offline then { c with escalation := { c.escalation with enabled := false } } else c
  if s.verbose then { c with logLevel := .debug } else c

def readSource (w : Surroundings) (path : String) : Session String := do
  let text? ←
    if path == "-" then pure (some w.input)
    else
      match w.directory.read path with
      | .ok text? => pure text?
      | .error e => fail (.path e)
  match text? with
  | some text => return String.ofList (Text.unixLines text.toList)
  | none =>
    say ("[red]Error: " ++ path ++ " is not a file[/red]")
    exit 2

def perform {α : Type} (r : Run α) : Session α := do
  let (result, trace) := r.run (← get).trace
  modify fun p => { p with trace }
  match result with
  | .ok a => return a
  | .error f => fail (.fault f)

def writeFile (path text : String) : Session Unit := do
  match (← get).directory.write path text with
  | .ok directory => modify fun p => { p with directory }
  | .error e => fail (.path e)

def endedByNewline (text : String) : String :=
  if text.toList.getLast? = some '\n' then text else text ++ "\n"

def putOut (text : String) : Session Unit :=
  let text := String.ofList (Text.withoutScreenCodes text.toList)
  modify fun p => { p with output := p.output ++ text }

def textOf? (metadata : Entries Json) (name : String) : Option String :=
  match metadata.get? name with
  | some (.string s) => some s
  | _ => none

def sayProblem (problem : Problem) (metadata : Entries Json) : Session Unit := do
  say ("[bold red]✗ " ++ problem.userMessage ++ "[/bold red]")
  match (textOf? metadata "category").filter (!·.isEmpty) with
  | some category => say ("[dim]category: " ++ category ++ "[/dim]")
  | none => pure ()

def deliver (s : Settings) (kind : String) (report : Report) : Session Unit := do
  match report.outcome with
  | .error problem =>
    sayProblem problem report.metadata
    exit 1
  | .ok code =>
    let code :=
      if s.insert then Render.insertion code kind (textOf? report.metadata "view_name") else code
    for warning in report.warnings do
      say ("[yellow]Warning: " ++ warning ++ "[/yellow]")
    match s.output with
    | some path =>
      writeFile path code
      say ("[bold green]✓ Wrote " ++ plainPath path ++ "[/bold green]")
    | none => putOut (endedByNewline code)
    match report.metadata.get? "external" with
    | some (.bool true) => say "[dim]Generated with help from the generative service[/dim]"
    | _ => pure ()

def generate (w : Surroundings) (s : Settings) (path kind : String)
    (run : Coordinator → String → Run Report) : Session Unit := do
  let c := adjust s (← configured w)
  setUpLogging c
  let source ← readSource w path
  deliver s kind (← perform (run (.ofConfig c (w.service c)) source))

def settingRows (c : Config) : List (List String) :=
  [["Setting", "Value"],
   ["Log Level", c.logLevel.name],
   ["Provider", c.service.provider.name],
   ["Model", c.service.model]] ++
  (if c.service.provider = .completions then [["Endpoint", c.service.endpoint]] else []) ++
  [["API Key", if c.apiKey?.isSome then "[green]set[/green]" else "[red]missing[/red]"],
   ["Lookahead Window", toString c.lookahead],
   ["Escalation", if c.escalation.enabled then "enabled" else "disabled"],
   ["Escalation Available", if c.escalationAvailable then "True" else "False"],
   ["Escalation Timeout", Decimal.wholeText c.escalation.timeout ++ "s"]]

def variableLines : List String :=
  ["[dim]Configure via environment variables:[/dim]",
   "SCAFFOLD_LOG_LEVEL, SCAFFOLD_PROVIDER, SCAFFOLD_MODEL, SCAFFOLD_ENDPOINT",
   "SCAFFOLD_LOOKAHEAD_WINDOW, SCAFFOLD_ESCALATION_ENABLED, SCAFFOLD_ESCALATION_TIMEOUT",
   "OPENAI_API_KEY, ANTHROPIC_API_KEY, AZURE_OPENAI_API_KEY, SCAFFOLD_API_KEY"]

def showConfig (w : Surroundings) : Session Unit := do
  let c ← configured w
  display (Console.tableLines "Current Configuration" (settingRows c))
  variableLines.forM say

def checkConnection (w : Surroundings) : Session Unit := do
  let c ← configured w
  setUpLogging c
  say ("[bold]Checking connection:[/bold] " ++ c.service.provider.name ++ " / " ++ c.service.model)
  let (result, client) := (Client.checkConnection w.depthLimit c w.network).run (← get).client
  modify fun p => { p with client := { client with isOpen := false } }
  match result with
  | .ok _ => say "[bold green]✓ Connection successful[/bold green]"
  | .error (.failed problem) =>
    say ("[bold red]✗ " ++ problem.userMessage ++ "[/bold red]")
    exit 1
  | .error b => fail (.service b)

def versionLine : String := "swiftscaffold v1.0.0"

def helpText : String :=
  "\n".intercalate
    ["swiftscaffold [--version] [--help] COMMAND",
     "",
     "unit SOURCE [--offline] [--assist-bodies] [--insert] [--output FILE] [--verbose]",
     "ui SOURCE [--offline] [--no-suggestions] [--no-state-tests] [--no-navigation-tests]",
     "   [--no-comments] [--no-launch-arguments] [--insert] [--output FILE] [--verbose]",
     "config",
     "check-connection",
     ""]

def ofCommand (w : Surroundings) : Command → Session Unit
  | .answer .version => say versionLine
  | .answer .help => putOut helpText
  | .unitTests path s =>
    generate w s path "unit" fun c source => Pipeline.unitTests c source s.assistBodies
  | .interfaceTests path s =>
    generate w s path "ui" fun c source => Pipeline.interfaceTests c source (some s.tests)
  | .showConfig => showConfig w
  | .checkConnection => checkConnection w

end Session

structure Outcome where
  stop : Stop
  progress : Progress

def Stop.code : Stop → Nat
  | .exit code => code
  | .failed _ => 1

def execute (w : Surroundings) (command : Command) : Outcome :=
  match (Session.ofCommand w command).run { directory := w.directory } with
  | (.ok _, p) => ⟨.exit 0, p⟩
  | (.error stop, p) => ⟨stop, p⟩

end TestScaffold.CommandLine
