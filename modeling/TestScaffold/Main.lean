import TestScaffold.CommandLine.Session

namespace TestScaffold.CommandLine

def variableNames : List String :=
  ["SCAFFOLD_LOG_LEVEL", "SCAFFOLD_PROVIDER", "SCAFFOLD_MODEL", "SCAFFOLD_ENDPOINT",
   "SCAFFOLD_TEMPERATURE", "SCAFFOLD_LOOKAHEAD_WINDOW", "SCAFFOLD_ESCALATION_ENABLED",
   "SCAFFOLD_ESCALATION_TIMEOUT", "SCAFFOLD_API_KEY", "OPENAI_API_KEY", "ANTHROPIC_API_KEY",
   "AZURE_OPENAI_API_KEY", "AZURE_OPENAI_ENDPOINT", "AZURE_OPENAI_API_VERSION",
   "AZURE_OPENAI_DEPLOYMENT_NAME"]

def readEnvironment : IO Environment :=
  variableNames.filterMapM fun name => do return (← IO.getEnv name).map (name, ·)

def Command.paths : Command → List String
  | .unitTests source s | .interfaceTests source s => source :: s.output.toList
  | .answer _ | .showConfig | .checkConnection => []

def Command.readsInput : Command → Bool
  | .unitTests source _ | .interfaceTests source _ => source == "-"
  | .answer _ | .showConfig | .checkConnection => false

def placesOn (path : String) : List Place :=
  let parts := pathParts path
  (List.range parts.length).map fun n =>
    (parts.take (n + 1)).foldl Place.down ⟨!(pathRoot path).isEmpty, []⟩

def look (d : Directory) (p : Place) : IO Directory := do
  let there := (← IO.currentDir) / p.text
  if ← there.isDir then return { d with folders := p.text :: d.folders }
  else if ← there.pathExists then
    return { d with files := d.files.put p.text (← IO.FS.readFile there) }
  else return d

def survey (command : Command) : IO Directory :=
  (command.paths.flatMap placesOn).foldlM look {}

def store (before after : Directory) : IO Unit :=
  after.files.forM fun f => do
    if before.files.get? f.1 != some f.2 then IO.FS.writeFile ((← IO.currentDir) / f.1) f.2

def Failure.message : Failure → String
  | .config .notANumber => "A variable does not hold a number"
  | .config (.invalid paths) => "Not valid: " ++ ", ".intercalate (paths.map (".".intercalate ·))
  | .fault (.known p) => p.text
  | .fault _ => "A reply of the service cannot be used"
  | .service (.failed p) => p.text
  | .service _ => "The service cannot be asked"
  | .path .noFolder => "There is no such folder"
  | .path .throughFile => "The path leads through a file"
  | .path .tooLong => "The path is too long"
  | .path .isFolder => "The path is that of a folder"
  | .markup _ => "A text is not marked up as it should be"

def depthLimit : Nat := 990

def unreachable (c : Config) : Service where
  provider := c.service.provider.name
  model := c.service.modelName
  answer _ := .failed .network "No way to the service"
  depthLimit := depthLimit

def follow (command : Command) : IO UInt32 := do
  let environment ← readEnvironment
  let input ← if command.readsInput then (← IO.getStdin).readToEnd else pure ""
  let directory ← survey command
  let network _ := Delivery.failed "No way to the service"
  let surroundings : Surroundings :=
    { environment, input, directory, service := unreachable, network, depthLimit }
  let o := execute surroundings command
  store directory o.progress.directory
  o.progress.console.forM fun line => IO.eprintln line
  IO.print o.progress.output
  match o.stop with
  | .failed f => IO.eprintln f.message
  | .exit _ => pure ()
  return UInt32.ofNat o.stop.code

end TestScaffold.CommandLine

def main (arguments : List String) : IO UInt32 :=
  match TestScaffold.CommandLine.parse arguments with
  | .ok command => TestScaffold.CommandLine.follow command
  | .error e => do
    IO.eprintln e.message
    return 2
