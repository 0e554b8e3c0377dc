/-!
# SchemaScript.Command.Arguments

The arguments of the command line. Options may stand before and after the other arguments of a
subcommand, in the forms `--name value`, `--name=value`, `-n value` and `-nvalue`; after `--` nothing
is an option. The first fault ends the reading, and so does a request for help or for the version.

* `Command`: the subcommands with their arguments.
* `Flag`: the options; `gather` reads those of one subcommand.
* `Request.ofArguments`: what a list of arguments asks for.
-/

namespace SchemaScript

structure GenerateArguments where
  input : String
  output : Option String
  schema : Option String
  separator : Option String
  noHeader : Bool
  align : Bool
deriving DecidableEq

inductive Command where
  | generate (arguments : GenerateArguments)
  | check (input : String)
  | list (directory : String)
deriving DecidableEq

inductive Request where
  | run (config : Option String) (command : Command)
  | help
  | version
deriving DecidableEq

inductive UsageError where
  | unexpected (argument : String)
  | missingValue (option : String)
  | repeated (option : String)
  | needlessValue (option : String)
  | unknownCommand (name : String)
  | missingCommand
  | missingArgument (name : String)
deriving DecidableEq

def UsageError.message : UsageError → String
  | unexpected argument => "unexpected argument '" ++ argument ++ "' found"
  | missingValue option => "a value is required for '" ++ option ++ "' but none was supplied"
  | repeated option => "the argument '" ++ option ++ "' cannot be used multiple times"
  | needlessValue option => "unexpected value for '" ++ option ++ "' found"
  | unknownCommand name => "unrecognized subcommand '" ++ name ++ "'"
  | missingCommand => "a subcommand is required but none was provided"
  | missingArgument name => "the argument <" ++ name ++ "> was not provided"

inductive Flag where
  | config
  | output
  | schema
  | separator
  | noHeader
  | align
  | help
  | version
deriving DecidableEq

namespace Flag

def long : Flag → String
  | config => "config"
  | output => "output"
  | schema => "schema"
  | separator => "separator"
  | noHeader => "no-header"
  | align => "align"
  | help => "help"
  | version => "version"

def letter? : Flag → Option Char
  | config => some 'c'
  | output => some 'o'
  | help => some 'h'
  | version => some 'V'
  | _ => none

def takesValue : Flag → Bool
  | config | output | schema | separator => true
  | _ => false

/-- Whether the value of an option is a path, which must not be empty. -/
def takesPath : Flag → Bool
  | config | output => true
  | _ => false

/-- The option as it is written. -/
def text (f : Flag) : String :=
  "--" ++ f.long

end Flag

/-- What ends the reading of arguments before their end. -/
inductive Interruption where
  | help
  | version
  | fault (error : UsageError)

/-- The options and other arguments read so far, the latest first. -/
structure Gathered where
  options : List (Flag × String)
  others : List String

namespace Gathered

def empty : Gathered := ⟨[], []⟩

def has (g : Gathered) (f : Flag) : Bool :=
  (g.options.lookup f).isSome

def value? (g : Gathered) (f : Flag) : Option String :=
  g.options.lookup f

def give (g : Gathered) (f : Flag) (value : String) : Except Interruption Gathered :=
  if g.has f then .error (.fault (.repeated f.text))
  else if f.takesPath && value.isEmpty then .error (.fault (.missingValue f.text))
  else .ok { g with options := (f, value) :: g.options }

/-- Takes an option that has no value; `value` is what stands after an equals sign, which there must
not be. -/
def raise (g : Gathered) (f : Flag) (value : Option String) : Except Interruption Gathered :=
  if value.isSome then .error (.fault (.needlessValue f.text))
  else
    match f with
    | .help => .error .help
    | .version => .error .version
    | f => g.give f ""

/-- Takes an argument that is no option; there may be `limit` of them, and none is empty. -/
def other (g : Gathered) (limit : Nat) (argument : String) : Except Interruption Gathered :=
  if limit ≤ g.others.length then .error (.fault (.unexpected argument))
  else if argument.isEmpty then .error (.fault (.missingValue argument))
  else .ok { g with others := argument :: g.others }

end Gathered

inductive Meaning where
  /-- Everything after it is no option. -/
  | escape
  /-- An option, perhaps with a value in the same argument. -/
  | option (flag : Flag) (value : Option String)
  | unknown
  | other
deriving DecidableEq

/-- The name before the first equals sign, and the value after it. -/
def splitValue (cs : List Char) : String × Option String :=
  (String.ofList (cs.takeWhile (· != '=')),
    match cs.dropWhile (· != '=') with
    | [] => none
    | _ :: value => some (String.ofList value))

/-- A value without the equals sign in front of it. -/
def dropEquals : List Char → List Char
  | '=' :: cs => cs
  | cs => cs

/-- What an argument means where the options `known` are allowed. A single hyphen is no option. What
follows the letter of an option without a value does not matter, since every such option ends the
reading. -/
def Meaning.of (known : List Flag) (argument : String) : Meaning :=
  match argument.toList with
  | ['-', '-'] => .escape
  | '-' :: '-' :: cs =>
    let (name, value) := splitValue cs
    match known.find? (·.long == name) with
    | some f => .option f value
    | none => .unknown
  | '-' :: c :: cs =>
    match known.find? (·.letter? == some c), cs with
    | some f, [] => .option f none
    | some f, value =>
      if f.takesValue then .option f (some (String.ofList (dropEquals value))) else .option f none
    | none, _ => .unknown
  | _ => .other

/-- Whether an argument can be the value of the option before it. -/
def isValue (argument : String) : Bool :=
  argument == "-" || argument.toList.head? != some '-'

/-- Reads the arguments of a subcommand with the options `known` and at most `limit` others. -/
def gather (known : List Flag) (limit : Nat) (g : Gathered) :
    List String → Except Interruption Gathered
  | [] => .ok g
  | argument :: rest =>
    match Meaning.of known argument with
    | .escape => rest.foldlM (fun g a => g.other limit a) g
    | .unknown => .error (.fault (.unexpected argument))
    | .other =>
      match g.other limit argument with
      | .error e => .error e
      | .ok g => gather known limit g rest
    | .option f value =>
      if !f.takesValue then
        match g.raise f value with
        | .error e => .error e
        | .ok g => gather known limit g rest
      else
        match value with
        | some v =>
          match g.give f v with
          | .error e => .error e
          | .ok g => gather known limit g rest
        | none =>
          match rest with
          | [] => .error (.fault (.missingValue f.text))
          | v :: rest =>
            if isValue v then
              match g.give f v with
              | .error e => .error e
              | .ok g => gather known limit g rest
            else .error (.fault (.missingValue f.text))

/-- Reads the options before the subcommand. Gives the configuration path among them, the name of the
subcommand and the arguments after it. -/
def splitCommand (g : Gathered) :
    List String → Except Interruption (Gathered × String × List String)
  | [] => .error (.fault .missingCommand)
  | argument :: rest =>
    match Meaning.of [.config, .help, .version] argument with
    | .escape =>
      match rest with
      | [] => .error (.fault .missingCommand)
      | a :: _ => .error (.fault (.unexpected a))
    | .unknown => .error (.fault (.unexpected argument))
    | .other => .ok (g, argument, rest)
    | .option f value =>
      if !f.takesValue then
        match g.raise f value with
        | .error e => .error e
        | .ok g => splitCommand g rest
      else
        match value with
        | some v =>
          match g.give f v with
          | .error e => .error e
          | .ok g => splitCommand g rest
        | none =>
          match rest with
          | [] => .error (.fault (.missingValue f.text))
          | v :: rest =>
            if isValue v then
              match g.give f v with
              | .error e => .error e
              | .ok g => splitCommand g rest
            else .error (.fault (.missingValue f.text))

def generateFlags : List Flag :=
  [.config, .output, .schema, .separator, .noHeader, .align, .help]

/-- The one argument of a subcommand that is no option. -/
def soleArgument (name : String) (g : Gathered) : Except Interruption String :=
  match g.others with
  | [argument] => .ok argument
  | _ => .error (.fault (.missingArgument name))

/-- The request of the subcommand `name` with its arguments; `config` is the configuration path given
before it, which one given after it replaces. -/
def commandRequest (config : Option String) (name : String) (arguments : List String) :
    Except Interruption Request := do
  let request (g : Gathered) (command : Command) : Request :=
    .run ((g.value? .config).orElse fun _ => config) command
  if name = "generate" then
    let g ← gather generateFlags 1 .empty arguments
    let input ← soleArgument "INPUT" g
    return request g (.generate
      { input
        output := g.value? .output
        schema := g.value? .schema
        separator := g.value? .separator
        noHeader := g.has .noHeader
        align := g.has .align })
  else if name = "check" then
    let g ← gather [.config, .help] 1 .empty arguments
    return request g (.check (← soleArgument "INPUT" g))
  else if name = "list" then
    let g ← gather [.config, .help] 1 .empty arguments
    return request g (.list (← soleArgument "DIR" g))
  else if name = "help" then
    match arguments with
    | [] => throw .help
    | [a] =>
      if ["generate", "check", "list", "help"].contains a then throw .help
      else throw (.fault (.unknownCommand a))
    | _ :: a :: _ => throw (.fault (.unknownCommand a))
  else
    throw (.fault (.unknownCommand name))

def Request.ofArguments (arguments : List String) : Except UsageError Request :=
  let read : Except Interruption Request := do
    let (g, name, rest) ← splitCommand .empty arguments
    commandRequest (g.value? .config) name rest
  match read with
  | .ok request => .ok request
  | .error .help => .ok .help
  | .error .version => .ok .version
  | .error (.fault e) => .error e

end SchemaScript
