import SchemaScript.Text.Digits
import SchemaScript.Unicode.Printable

/-!
# SchemaScript.Text.Quoted

Text in double quotes for messages, so that every character can be seen: quotes, backslashes and
the usual controls have short escapes, and a character that cannot be shown by itself is written
as its code point.
-/

namespace SchemaScript
namespace Text

/-- How one character is written between the quotes. -/
def quotedChar (c : Char) : List Char :=
  match c with
  | '"' => ['\\', '"']
  | '\\' => ['\\', '\\']
  | '\n' => ['\\', 'n']
  | '\r' => ['\\', 'r']
  | '\t' => ['\\', 't']
  | '\x00' => ['\\', '0']
  | c =>
    if Unicode.isPrintable c then [c]
    else '\\' :: 'u' :: '{' :: Nat.toDigits 16 c.toNat ++ ['}']

/-- `s` between double quotes, every character visible. -/
def quoted (s : String) : String :=
  String.ofList ('"' :: s.toList.flatMap quotedChar ++ ['"'])

end Text
end SchemaScript
