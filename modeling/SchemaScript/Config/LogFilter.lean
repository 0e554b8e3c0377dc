import SchemaScript.Text.Split
import SchemaScript.Unicode.Alphanumeric
import SchemaScript.Unicode.WhiteSpace

/-!
# SchemaScript.Config.LogFilter

The setting that says which events are shown: directives between commas. A directive is a level
(`info`), a target (`store`), a target with a level (`store=debug`), or one of these with a span and
a field of it (`store[save{id}]=debug`). A directive that cannot be read is left out, with a line
about it.

* `LogFilter.check`: whether a directive can be read.
* `LogFilter.warnings`: the lines about the directives that are left out.
* `LogFilter.report`: the lines about the filter in force, where the environment may set another one.
-/

namespace SchemaScript
namespace LogFilter

inductive Fault where
  | malformed
  | unknownLevel
  /-- A part begins or ends inside a character. -/
  | brokenCharacter
deriving DecidableEq

def Fault.message : Fault → String
  | malformed => "invalid filter directive"
  | unknownLevel =>
    "error parsing level filter: expected one of \"off\", \"error\", \"warn\", \"info\", "
      ++ "\"debug\", \"trace\", or a number 0-5"
  | brokenCharacter => "a part begins or ends inside a character"

/-- The names of the levels, from none to all. -/
def levelNames : List String := ["off", "error", "warn", "info", "debug", "trace"]

/-- A numeral for 0 to 5, with any number of zeros and at most one plus sign in front. -/
def isLevelNumeral (cs : List Char) : Bool :=
  let digits := if cs.head? = some '+' then cs.tail else cs
  !digits.isEmpty
    && match digits.dropWhile (· == '0') with
      | [] => true
      | [c] => '1' ≤ c && c ≤ '5'
      | _ => false

/-- A level is a name in any case or a numeral. -/
def isLevel (cs : List Char) : Bool :=
  isLevelNumeral cs || levelNames.contains (String.ofList (cs.map Char.toLower))

/-- The text after the first `n` bytes, if a character ends there. -/
def dropBytes : List Char → Nat → Option (List Char)
  | cs, 0 => some cs
  | [], _ + 1 => none
  | c :: cs, n + 1 => if c.utf8Size ≤ n + 1 then dropBytes cs (n + 1 - c.utf8Size) else none

/-- The part of a directive that is being read, and the byte at which its text begins. -/
inductive Part where
  | beginning
  /-- A level or a target: only what follows tells them apart. -/
  | target
  | span (first : Nat)
  | field (first : Nat)
  | afterField
  | afterSpan
  | level (first : Nat)
deriving DecidableEq

namespace Part

/-- Accepts `next` if the text between two bytes of a directive consists of whole characters. -/
def cut (directive : List Char) (first last : Nat) (next : Part) : Except Fault Part :=
  if (dropBytes directive first).isSome && (dropBytes directive last).isSome then .ok next
  else .error .brokenCharacter

/-- The part after the character `c`, which stands at byte `i` of the trimmed directive. -/
def step (directive : List Char) (i : Nat) (c : Char) : Part → Except Fault Part
  | beginning =>
    if c = '[' then .ok (span (i + 1))
    else if Unicode.isAlphanumeric c || ['-', ':', '_'].contains c then .ok target
    else .error .malformed
  | target =>
    if c = '=' then cut directive 0 i (level (i + 1))
    else if c = '[' then cut directive 0 i (span (i + 1))
    else .ok target
  | span first =>
    if c = ']' then cut directive first i afterSpan
    else if c = '{' then cut directive first i (field (i + 1))
    else .ok (span first)
  | field first =>
    if c = '}' then
      match cut directive first i afterField with
      | .error f => .error f
      | .ok next => if first = i then .error .malformed else .ok next
    else .ok (field first)
  | afterField => if c = ']' then .ok afterSpan else .error .malformed
  | afterSpan => if c = '=' then .ok (level (i + 1)) else .error .malformed
  | level first => .ok (level first)

/-- The part after all the characters of a text that starts at byte `i`. -/
def read (directive : List Char) : List Char → Nat → Part → Except Fault Part
  | [], _, part => .ok part
  | c :: cs, i, part =>
    match part.step directive i c with
    | .error f => .error f
    | .ok next => read directive cs (i + c.utf8Size) next

/-- Whether a directive may end in a part. An absent level stands for all events. -/
def finish (directive : List Char) : Part → Except Fault Unit
  | target | afterSpan => .ok ()
  | level first =>
    match dropBytes directive first with
    | none => .error .brokenCharacter
    | some text => if text.isEmpty || isLevel text then .ok () else .error .unknownLevel
  | _ => .error .malformed

end Part

/-- Whether a directive can be read. White space at its ends is passed over, yet the parts are cut
from the whole of it: positions are counted from the first character that is no white space, so the
level of ` a=info`, with a space in front, is the unknown `=info`. -/
def check (directive : List Char) : Except Fault Unit :=
  match Part.read directive (Unicode.trimChars directive) 0 .beginning with
  | .error f => .error f
  | .ok part => part.finish directive

def directives (filter : String) : List (List Char) :=
  (Text.split (· == ',') filter.toList).filter (!·.isEmpty)

def fault? (directive : List Char) : Option Fault :=
  match check directive with
  | .ok _ => none
  | .error f => some f

/-- The line about a directive that is left out. -/
def warning (directive : List Char) (f : Fault) : String :=
  "ignoring `" ++ String.ofList directive ++ "`: " ++ f.message

/-- The lines about the directives of a filter that are left out. A part that begins or ends inside
a character cannot be passed over: then the filter as a whole is refused. -/
def warnings (filter : String) : Option (List String) :=
  let ds := directives filter
  if ds.any fun d => fault? d == some .brokenCharacter then none
  else some (ds.filterMap fun d => (fault? d).map (warning d))

/-- The fault of the first directive that cannot be read. -/
def firstFault? (filter : String) : Option Fault :=
  (directives filter).findSome? fault?

/-- The lines about the filter in force. That is the one of the environment, if all of its directives
can be read, and the configured one if not. -/
def report (environment : Option String) (configured : String) : Option (List String) :=
  match environment.map firstFault? with
  | some none => some []
  | some (some .brokenCharacter) => none
  | _ => warnings configured

end LogFilter
end SchemaScript
