import SchemaScript.Json.Error

/-!
# SchemaScript.Json.Literal

String literals of JSON. `encode` writes the characters between the quotes; `decode` reads them
back, up to and including the closing quote.

Code points above U+FFFF may be written as a pair of surrogate escapes; a surrogate escape outside
such a pair is a fault.
-/

namespace SchemaScript
namespace Json

/-- How one character is written in a string literal: only quotes, backslashes and the characters
below U+0020 are escaped. -/
def encodeChar (c : Char) : List Char :=
  match c with
  | '"' => ['\\', '"']
  | '\\' => ['\\', '\\']
  | '\x08' => ['\\', 'b']
  | '\x0c' => ['\\', 'f']
  | '\n' => ['\\', 'n']
  | '\r' => ['\\', 'r']
  | '\t' => ['\\', 't']
  | c =>
    if c.toNat < 0x20 then
      ['\\', 'u', '0', '0', Text.hexDigit (c.toNat / 16), Text.hexDigit c.toNat]
    else
      [c]

/-- The characters of a string literal without its quotes. -/
def encode (cs : List Char) : List Char :=
  cs.flatMap encodeChar

def hexValue (c : Char) : Option Nat :=
  let n := c.toNat
  if 48 ≤ n ∧ n ≤ 57 then some (n - 48)
  else if 97 ≤ n ∧ n ≤ 102 then some (n - 87)
  else if 65 ≤ n ∧ n ≤ 70 then some (n - 55)
  else none

/-- The code unit written by four hexadecimal digits. -/
def codeUnit (a b c d : Char) : Option Nat := do
  return 4096 * (← hexValue a) + 256 * (← hexValue b) + 16 * (← hexValue c) + (← hexValue d)

/-- The fault of an escape whose four digits are broken: a text with fewer than four bytes left
has ended too soon. -/
def brokenDigits (rest : List Char) : Error :=
  if (String.ofList rest).utf8ByteSize < 4 then .endInString else .invalidEscape

/-- The character of a one-letter escape. -/
def shortEscape (c : Char) : Option Char :=
  match c with
  | '"' => some '"'
  | '\\' => some '\\'
  | '/' => some '/'
  | 'b' => some '\x08'
  | 'f' => some '\x0c'
  | 'n' => some '\n'
  | 'r' => some '\r'
  | 't' => some '\t'
  | _ => none

/-- A code unit that starts a pair. -/
def isHighSurrogate (n : Nat) : Bool := 0xD800 ≤ n && n ≤ 0xDBFF

/-- A code unit that ends a pair. -/
def isLowSurrogate (n : Nat) : Bool := 0xDC00 ≤ n && n ≤ 0xDFFF

def pairValue (high low : Nat) : Nat :=
  (high - 0xD800) * 0x400 + (low - 0xDC00) + 0x10000

/-- Reads the rest of a string literal after its opening quote; `done` holds the characters read so
far, last first. Gives the characters and what follows the closing quote. -/
def decodeFrom (done : List Char) : List Char → Except Error (List Char × List Char)
  | [] => .error .endInString
  | c :: rest =>
    if c = '"' then .ok (done.reverse, rest)
    else if c = '\\' then
      match rest with
      | [] => .error .endInString
      | e :: rest =>
        if e = 'u' then
          match rest with
          | a :: b :: c :: d :: rest' =>
            match codeUnit a b c d with
            | none => .error (brokenDigits rest)
            | some unit =>
              if isLowSurrogate unit then .error .loneSurrogate
              else if isHighSurrogate unit then
                match rest' with
                | [] => .error .endInString
                | slash :: rest' =>
                  if slash = '\\' then
                    match rest' with
                    | [] => .error .endInString
                    | u :: rest' =>
                      if u = 'u' then
                        match rest' with
                        | a :: b :: c :: d :: rest'' =>
                          match codeUnit a b c d with
                          | none => .error (brokenDigits rest')
                          | some low =>
                            if isLowSurrogate low then
                              decodeFrom (Char.ofNat (pairValue unit low) :: done) rest''
                            else .error .loneSurrogate
                        | short => .error (brokenDigits short)
                      else .error .brokenPair
                  else .error .brokenPair
              else decodeFrom (Char.ofNat unit :: done) rest'
          | short => .error (brokenDigits short)
        else
          match shortEscape e with
          | some x => decodeFrom (x :: done) rest
          | none => .error .invalidEscape
    else if c.toNat < 0x20 then .error .controlCharacter
    else decodeFrom (c :: done) rest

/-- Reads a string literal after its opening quote. -/
def decode (input : List Char) : Except Error (List Char × List Char) :=
  decodeFrom [] input

/-- Passes over a string literal after its opening quote. Escapes have to be well formed, but
surrogates need not pair up. -/
def skipLiteral : List Char → Except Error (List Char)
  | [] => .error .endInString
  | c :: rest =>
    if c = '"' then .ok rest
    else if c = '\\' then
      match rest with
      | [] => .error .endInString
      | e :: rest =>
        if e = 'u' then
          match rest with
          | a :: b :: c :: d :: rest' =>
            if (codeUnit a b c d).isSome then skipLiteral rest' else .error (brokenDigits rest)
          | short => .error (brokenDigits short)
        else if (shortEscape e).isSome then skipLiteral rest
        else .error .invalidEscape
    else if c.toNat < 0x20 then .error .controlCharacter
    else skipLiteral rest

end Json
end SchemaScript
