import SchemaScript.Command.Arguments
import SchemaScript.Config.Config
import SchemaScript.Config.LogFilter
import SchemaScript.Script.Generate
import SchemaScript.Snapshot.FileName
import SchemaScript.Store.Store

/-!
# SchemaScript.Command.Run

The commands, as programs that make requests to the file system: `generate` writes a script, `check`
reports foreign keys without a target, `list` shows the projects in a directory.

* `Outcome`: exit code and output of a command.
* `runArguments`: a list of arguments carried out.
-/

namespace SchemaScript

/-- What a command leaves behind besides files: an exit code, the text on its standard output, and
the lines on its standard error. -/
structure Outcome where
  exit : Nat
  output : String
  errors : List String
deriving DecidableEq

namespace Outcome

def success (output : String) : Outcome := ⟨0, output, []⟩

def failure (message : String) : Outcome := ⟨1, "", [message]⟩

/-- The outcome with lines in front of the errors. -/
def warn (o : Outcome) (lines : List String) : Outcome := { o with errors := lines ++ o.errors }

/-- The end of a program that cannot go on. -/
def stopped : Outcome := ⟨101, "", []⟩

end Outcome

inductive CommandError where
  | unreadable (path : String) (error : FileError)
  | snapshot (error : Snapshot.Error)
  | unwritable (path : String) (error : FileError)
  | store (error : StoreError)
  | namesExhausted
deriving DecidableEq

def CommandError.message : CommandError → String
  | unreadable path error => "Failed to read " ++ path ++ ": " ++ error.message
  | snapshot error => error.message
  | unwritable path error => "Failed to write " ++ path ++ ": " ++ error.message
  | store error => error.message
  | namesExhausted => "No name is left for a foreign key"

def Outcome.ofExcept : Except CommandError Outcome → Outcome
  | .ok outcome => outcome
  | .error e => .failure ("Error: " ++ e.message)

/-- What a run depends on besides files: the time, the random words, and the filter of the events
that the environment sets. -/
structure Surroundings where
  time : Instant
  words : WordSource
  logFilter : Option String := none

/-- The options of a configuration as changed by the arguments, which take precedence. -/
def GenerateArguments.apply (a : GenerateArguments) (o : ScriptOptions) : ScriptOptions where
  defaultSchema := a.schema.getD o.defaultSchema
  batchSeparator := a.separator.getD o.batchSeparator
  includeHeader := o.includeHeader && !a.noHeader
  alignColumns := o.alignColumns || a.align

def loadSnapshot (path : String) : Program (Except CommandError Project) := do
  match ← readText path with
  | .error e => return .error (.unreadable path e)
  | .ok text => return (Snapshot.ofText text).mapError .snapshot

/-- The file that a script is written to: the given path, or a file named for the project in the
directory at that path. -/
def outputPath (path : String) (p : Project) : Program String := do
  if ← Program.isDirectory path Program.done then
    return joinPath path (scriptFileName p.name)
  else
    return path

/-- Writes the script of a project to standard output or to a file. -/
def runGenerate (a : GenerateArguments) (config : Config) (around : Surroundings) :
    Program (Except CommandError Outcome) := do
  match ← loadSnapshot a.input with
  | .error e => return .error e
  | .ok p =>
    match generate (a.apply config.generator) p around.time around.words with
    | none => return .error .namesExhausted
    | some generated =>
      match a.output with
      | none => return .ok (.success generated.script)
      | some path =>
        let path ← outputPath path p
        match ← writeText path generated.script with
        | .error e => return .error (.unwritable path e)
        | .ok _ => return .ok (.success "")

/-- The line about a foreign key whose target is missing. -/
def danglingLine (t : Table) (k : ForeignKey) : String :=
  t.schema ++ "." ++ t.name ++ ": foreign key " ++ k.name.getD "(unnamed)"
    ++ " references unknown table " ++ k.refSchema ++ "." ++ k.refTable ++ "\n"

def checkReport (o : ScriptOptions) (p : Project) : Outcome :=
  let p := p.resolveSchemas o.defaultSchema
  match (TableLookup.ofProject o.defaultSchema p).dangling p with
  | [] =>
    .success (p.name ++ ": " ++ Text.decimalText p.tables.length
      ++ " tables, no unresolved foreign keys\n")
  | missing => ⟨1, String.join (missing.map fun (t, k) => danglingLine t k), []⟩

/-- Reports the foreign keys of a project whose target is missing. -/
def runCheck (input : String) (config : Config) : Program (Except CommandError Outcome) := do
  match ← loadSnapshot input with
  | .error e => return .error e
  | .ok p => return .ok (checkReport config.generator p)

/-- The table of the projects in a directory. -/
def listReport (directory : String) (projects : List ProjectSummary) : String :=
  if projects.isEmpty then "No projects in " ++ directory ++ "\n"
  else
    let ids := Alignment.ofTexts ("ID" :: projects.map (·.id))
    let names := Alignment.ofTexts ("NAME" :: projects.map (·.name))
    ids.pad "ID" ++ "  " ++ names.pad "NAME" ++ "  TABLES\n"
      ++ String.join (projects.map fun p =>
        ids.pad p.id ++ "  " ++ names.pad p.name ++ "  " ++ Text.decimalText p.tables ++ "\n")

def runList (directory : String) : Program (Except CommandError Outcome) := do
  match (← (Store.mk directory).list).1 with
  | .error e => return .error (.store e)
  | .ok projects => return .ok (.success (listReport directory projects))

def runCommand (command : Command) (config : Config) (around : Surroundings) :
    Program (Except CommandError Outcome) :=
  match command with
  | .generate a => runGenerate a config around
  | .check input => runCheck input config
  | .list directory => runList directory

def versionText : String := "rustddl 0.1.0\n"

def usageText : String :=
  "Usage: rustddl [OPTIONS] <COMMAND>\n\n"
    ++ "Commands:\n"
    ++ "  generate  Render a project snapshot as a T-SQL script\n"
    ++ "  check     Validate a snapshot and report foreign keys whose target table is missing\n"
    ++ "  list      List the projects stored in a directory\n"
    ++ "  help      Print this message\n\n"
    ++ "Options:\n"
    ++ "  -c, --config <CONFIG>  Configuration file (default: ./.rustddl.json when present)\n"
    ++ "  -h, --help             Print help\n"
    ++ "  -V, --version          Print version\n"

/-- The filter of the events where the configuration sets none. -/
def standardFilter : String := "warn"

/-- Carries out a request. The configuration is read before the command starts, and the filter of
the events is reported on. -/
def runRequest (request : Request) (around : Surroundings) : Program Outcome := do
  match request with
  | .help => return .success usageText
  | .version => return .success versionText
  | .run path command =>
    match ← Config.load path with
    | .error e => return .failure e.message
    | .ok config =>
      match LogFilter.report around.logFilter (config.logLevel.getD standardFilter) with
      | none => return .stopped
      | some lines => return (Outcome.ofExcept (← runCommand command config around)).warn lines

/-- Carries out what a list of arguments asks for. Arguments that make no sense end with exit
code 2. -/
def runArguments (arguments : List String) (around : Surroundings) : Program Outcome :=
  match Request.ofArguments arguments with
  | .error e => return ⟨2, "", ["error: " ++ e.message]⟩
  | .ok request => runRequest request around

/-- The script of the project in a text, with the standard options. -/
def generateScript (text : String) (around : Surroundings) : Except CommandError String := do
  let p ← (Snapshot.ofText text).mapError .snapshot
  match generate .standard p around.time around.words with
  | some generated => return generated.script
  | none => throw .namesExhausted

end SchemaScript
