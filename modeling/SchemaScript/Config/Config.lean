import SchemaScript.Files.Program
import SchemaScript.Json.Record
import SchemaScript.Script.Options

/-!
# SchemaScript.Config.Config

The configuration file. Every member may be absent. Without a path the file in the working directory
is read if it is there; a file that is asked for has to be there.
-/

namespace SchemaScript

structure Config where
  generator : ScriptOptions
  /-- How much is reported along the way. -/
  logLevel : Option String
deriving DecidableEq

namespace Config

open Json (Record)

def generatorFormat : Record ScriptOptions where
  title := "GeneratorOptions"
  blank := .standard
  fields := [
    .defaulted "defaultSchema" .string (·.defaultSchema) ({ · with defaultSchema := · }),
    .defaulted "batchSeparator" .string (·.batchSeparator) ({ · with batchSeparator := · }),
    .defaulted "includeHeader" .bool (·.includeHeader) ({ · with includeHeader := · }),
    .defaulted "alignColumns" .bool (·.alignColumns) ({ · with alignColumns := · })]

def standard : Config := ⟨.standard, none⟩

def format : Record Config where
  title := "ConfigFile"
  blank := standard
  fields := [
    .defaulted "generator" generatorFormat.codec (·.generator) ({ · with generator := · }),
    .defaulted "logLevel" (Json.Codec.string.optional) (·.logLevel) ({ · with logLevel := · })]

/-- The text of a configuration, on one line. -/
def toText (c : Config) : String :=
  String.ofList (format.write c).compact

/-- The file that is read when no other is asked for. -/
def defaultPath : String := ".rustddl.json"

inductive Error where
  | notFound (path : String)
  | unreadable (path : String) (error : FileError)
  | malformed (path : String) (fault : Json.Error)
deriving DecidableEq

def Error.message : Error → String
  | notFound path => "Configuration file not found: " ++ path
  | unreadable path error => "Failed to read " ++ path ++ ": " ++ error.message
  | malformed path fault => "Invalid JSON in " ++ path ++ ": " ++ fault.message

def loadFrom (path : String) : Program (Except Error Config) := do
  match ← readText path with
  | .error .notFound => return .error (.notFound path)
  | .error e => return .error (.unreadable path e)
  | .ok text => return (Json.readAll format.read text).mapError (.malformed path)

/-- The configuration in the file at `path`, or in the default file if there is one. -/
def load (path : Option String) : Program (Except Error Config) := do
  match path with
  | some path => loadFrom path
  | none =>
    if ← Program.present defaultPath Program.done then loadFrom defaultPath
    else return .ok standard

end Config
end SchemaScript
