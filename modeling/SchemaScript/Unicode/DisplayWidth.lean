import SchemaScript.Unicode.DisplayWidth.Table

/-!
# SchemaScript.Unicode.DisplayWidth

The number of columns a text takes in a monospace display. A character counts 0, 1 or 2 columns by
itself, but some sequences count less or more than their characters: emoji with a variation
selector, joined emoji, flags, and ligatures of several scripts. The text is therefore read from
its end, and a character is counted in view of what follows it.

* `Context`: what matters of the text that follows.
* `advance`: columns of a character before a context, and the context it makes for the one before.
* `displayWidth`: columns of a text.
-/

namespace SchemaScript
namespace Unicode

/-- What stands after a character, as far as it can change the columns that character takes. -/
inductive Follower where
  | plain
  | lineFeed
  | emojiModifier
  /-- One regional indicator. -/
  | flagLetter
  /-- Two or more regional indicators. -/
  | flagLetters
  | emoji
  | joinedEmoji
  | joinedKeycap
  /-- Regional indicators before a joined emoji: one, an even number, an odd number from three. -/
  | joinedFlagLetter
  | joinedFlagEven
  | joinedFlagOdd
  /-- The end of a tag sequence before a joined emoji, after so many digits and so many letters. -/
  | joinedTagEnd
  | joinedTagDigits (count : Nat)
  | joinedTagLetters (count : Nat)
  | vowelSignE
  | vowelSignAi
  | alef
  /-- The letters of the ligatures below take a joiner into account. -/
  | lamed (joined : Bool)
  | ya (joined : Bool)
  | vowelBeforeYa
  | tifinagh (joined : Bool)
  | tifinaghJoiner
  | lisuTone
  | orkhonI (joined : Bool)
  | coengLetter
deriving DecidableEq

/-- A variation selector that changes columns. -/
inductive Selector where
  | emoji
  | text
  | fullWidth
deriving DecidableEq

/-- What follows a character: the variation selectors in between, each of which still waits for its
base, and the text after them. -/
structure Context where
  follower : Follower
  emoji : Bool
  text : Bool
  fullWidth : Bool
deriving DecidableEq

namespace Follower

/-- Marks and joiners stand between the letters of these ligatures without breaking them. -/
def isLigature : Follower → Bool
  | lamed _ | ya _ | vowelBeforeYa | tifinagh _ | tifinaghJoiner | lisuTone | orkhonI _
  | coengLetter => true
  | _ => false

/-- Whether a variation selector leaves the follower in reach of the character before it. -/
def isSteadfast (f : Follower) : Bool := f.isLigature || f == alef

/-- Whether the follower is joined to the emoji before it. -/
def isJoined (f : Follower) : Bool := f == joinedEmoji || f == joinedKeycap

/-- The follower once a joiner stands in front of it. -/
def join : Follower → Follower
  | lamed _ => lamed true
  | ya _ => ya true
  | tifinagh _ => tifinagh true
  | orkhonI _ => orkhonI true
  | f => f

end Follower

namespace Context

/-- The context `f` with no selector in between. -/
def before (f : Follower) : Context := ⟨f, false, false, false⟩

/-- The context at the end of a text, and after any character that needs no attention. -/
def plain : Context := before .plain

/-- Marks selector `s` as waiting. -/
def await (x : Context) : Selector → Context
  | .emoji => { x with emoji := true }
  | .text => { x with text := true }
  | .fullWidth => { x with fullWidth := true }

/-- The context once selector `s` has been read. A joined emoji stays in reach of the character
that asks for a picture. -/
def select (x : Context) (s : Selector) : Context :=
  let kept := x.follower.isSteadfast || (s == .emoji && x.follower.isJoined)
  (if kept then x else plain).await s

/-- The context once a request for a picture has found no base. -/
def dropEmoji (x : Context) : Context :=
  if x.follower.isSteadfast then { x with emoji := false } else plain

end Context

/-- Whether `c` lies between `first` and `last`. -/
def between (first last : Nat) (c : Char) : Bool :=
  first ≤ c.toNat && c.toNat ≤ last

/-- Regional indicators, which pair up to flags. -/
def isFlagLetter (c : Char) : Bool := between 0x1F1E6 0x1F1FF c

/-- The five skin tones. -/
def isSkinTone (c : Char) : Bool := between 0x1F3FB 0x1F3FF c

/-- The consonants of the Tifinagh script that form ligatures. -/
def isTifinaghConsonant (c : Char) : Bool := between 0x2D31 0x2D65 c || c.toNat == 0x2D6F

def isLam (c : Char) : Bool :=
  between 0x6B5 0x6B8 c || [0x644, 0x76A, 0x8A6, 0x8C7].contains c.toNat

/-- Khmer letters that take a subscript form after U+17D2. -/
def isCoengLetter (c : Char) : Bool :=
  between 0x1780 0x1782 c || between 0x1784 0x1787 c || between 0x1789 0x178C c
    || between 0x178E 0x1793 c || between 0x1795 0x1798 c || between 0x179B 0x179D c
    || [0x17A0, 0x17A2, 0x17A7, 0x17AB, 0x17AC, 0x17AF].contains c.toNat

/-- Marks that are ignored by default, and so do not interrupt a ligature. -/
def isIgnoredMark (c : Char) : Bool :=
  between 0x17B4 0x17B5 c || between 0x180B 0x180D c || between 0xFE00 0xFE0F c
    || between 0xE0100 0xE01EF c || [0x34F, 0x180F].contains c.toNat

/-- The selector that a character is. -/
def selectorOf (c : Char) : Option Selector :=
  match c.toNat with
  | 0xFE0F => some .emoji
  | 0xFE0E => some .text
  | 0xFE01 => some .fullWidth
  | _ => none

/-- Curly quotation marks, which have a full-width form. -/
def isQuotationMark (c : Char) : Bool := [0x2018, 0x2019, 0x201C, 0x201D].contains c.toNat

/-- What the character `c` is for the one before it, whatever follows `c`. -/
def followerOf (c : Char) : Follower :=
  if isSkinTone c then .emojiModifier
  else if isFlagLetter c then .flagLetter
  else if emojiPresentation.contains c then .emoji
  else if alef.contains c then .alef
  else if isTifinaghConsonant c then .tifinagh false
  else if isCoengLetter c then .coengLetter
  else
    match c.toNat with
    | 0x5DC => .lamed false
    | 0x1A10 => .ya false
    | 0xA4FC | 0xA4FD => .lisuTone
    | 0x10C03 => .orkhonI false
    | 0x16D67 => .vowelSignE
    | 0x16D68 => .vowelSignAi
    | _ => .plain

/-- Columns of a character that stands alone. -/
def aloneWidth (c : Char) : Nat :=
  match c.toNat with
  | 0x17A4 => 2
  | 0x17D8 => 3
  | _ => if zeroWidth.contains c then 0 else if wide.contains c then 2 else 1

/-- Columns of `c` and the context it makes, when nothing that follows matters. -/
def alone (c : Char) : Int × Context :=
  (aloneWidth c, .before (followerOf c))

/-- The sequences: columns of `c` before `f` and the context they make together, if `c` and `f`
form one. -/
def combine (f : Follower) (c : Char) : Option (Int × Context) :=
  let n := c.toNat
  match f with
  | .alef =>
    if isLam c then some (0, .plain)
    else if joiningTransparent.contains c then some (0, .before .alef)
    else none
  | .lamed true => if n = 0x5D0 then some (0, .plain) else none
  | .coengLetter => if n = 0x17D2 then some (-1, .plain) else none
  | .ya true => if n = 0x1A17 then some (0, .before .vowelBeforeYa) else none
  | .vowelBeforeYa => if n = 0x1A15 then some (0, .plain) else none
  | .tifinagh joined =>
    if n = 0x2D7F then some (1, .before .tifinaghJoiner)
    else if joined && isTifinaghConsonant c then some (0, .plain)
    else none
  | .tifinaghJoiner => if isTifinaghConsonant c then some (-1, .plain) else none
  | .lisuTone => if between 0xA4F8 0xA4FB c then some (0, .plain) else none
  | .orkhonI true => if n = 0x10C32 then some (0, .plain) else none
  | .emojiModifier =>
    if emojiModifierBase.contains c then some (0, .before .emoji)
    else if n = 0x200D then some (0, .before .joinedEmoji)
    else none
  | .flagLetter => if isFlagLetter c then some (1, .before .flagLetters) else none
  | .flagLetters =>
    if isFlagLetter c then some (1, .before .flagLetters)
    else if n = 0x200D then some (0, .before .joinedEmoji)
    else none
  | .emoji => if n = 0x200D then some (0, .before .joinedEmoji) else none
  | .joinedEmoji =>
    if n = 0x20E3 then some (0, .before .joinedKeycap)
    else if isFlagLetter c then some (1, .before .joinedFlagLetter)
    else if isSkinTone c then some (0, .before .emojiModifier)
    else if n = 0xE007F then some (0, .before .joinedTagEnd)
    else if emojiPresentation.contains c then some (0, .before .emoji)
    else none
  | .joinedFlagLetter => if isFlagLetter c then some (-1, .before .joinedFlagEven) else none
  | .joinedFlagEven =>
    if isFlagLetter c then some (3, .before .joinedFlagOdd)
    else if n = 0x200D then some (0, .before .joinedEmoji)
    else none
  | .joinedFlagOdd =>
    if isFlagLetter c then some (-1, .before .joinedFlagEven)
    else if n = 0x200D then some (0, .before .joinedEmoji)
    else none
  | .joinedTagEnd =>
    if between 0xE0061 0xE007A c then some (0, .before (.joinedTagLetters 1))
    else if between 0xE0030 0xE0039 c then some (0, .before (.joinedTagDigits 1))
    else none
  | .joinedTagLetters k =>
    if between 0xE0061 0xE007A c && k < 6 then some (0, .before (.joinedTagLetters (k + 1)))
    else if between 0xE0030 0xE0039 c && k < 5 then some (0, .before (.joinedTagDigits 1))
    else if n = 0x1F3F4 && 3 ≤ k then some (0, .before .emoji)
    else none
  | .joinedTagDigits k =>
    if between 0xE0030 0xE0039 c && k < 3 then some (0, .before (.joinedTagDigits (k + 1)))
    else if n = 0x1F3F4 && k = 3 then some (0, .before .emoji)
    else none
  | .vowelSignE =>
    if n = 0x16D63 || n = 0x16D69 then some (0, .plain)
    else if n = 0x16D67 then some (0, .before .vowelSignAi)
    else if n = 0x16D68 then some (1, .before .vowelSignE)
    else none
  | .vowelSignAi => if n = 0x16D63 then some (0, .plain) else none
  | _ => none

/-- Columns of `c` before `f`, with no selector in between. A joiner or an ignored mark is passed
over inside a ligature. -/
def advanceJoin (f : Follower) (c : Char) : Int × Context :=
  if f.isLigature && c.toNat == 0x200D then (0, .before f.join)
  else if f.isLigature && isIgnoredMark c then (0, .before f)
  else (combine f c).getD (alone c)

/-- Columns of a character above U+00A0 before a context in which no request for a picture
waits. -/
def advanceMark (x : Context) (c : Char) : Int × Context :=
  match selectorOf c with
  | some s => (0, x.select s)
  | none =>
    if x.text && textVariationBase.contains c then (1, .plain)
    else if x.fullWidth && isQuotationMark c then (2, .plain)
    else advanceJoin x.follower c

/-- Columns of `c` before context `x`, and the context they make for the character before. -/
def advance (c : Char) (x : Context) : Int × Context :=
  if x.emoji && emojiVariationBase.contains c then
    (if x.follower.isJoined then 0 else 2, .before .emoji)
  else
    let y := if x.emoji then x.dropEmoji else x
    if c.toNat ≤ 0xA0 then
      if c = '\n' then (1, .before .lineFeed)
      else if c = '\r' ∧ y = .before .lineFeed then (0, .plain)
      else (1, .plain)
    else
      advanceMark y c

/-- Columns of a text and the context it makes for what stands before it. -/
def scanWidth (cs : List Char) : Int × Context :=
  cs.foldr (fun c (w, x) => let (d, x') := advance c x; (w + d, x')) (0, .plain)

def displayWidth (s : String) : Nat :=
  (scanWidth s.toList).1.toNat

end Unicode
end SchemaScript
