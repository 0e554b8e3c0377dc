/-!
# SchemaScript.Digest.Md5

The MD5 message digest, on lists of bytes.

* `digest`: the four words of the digest.
* `tag`: a stable 31-bit number for a text, from the first four bytes of its digest.
-/

namespace SchemaScript
namespace Md5

structure State where
  a : UInt32
  b : UInt32
  c : UInt32
  d : UInt32

/-- The chaining words before the first block. -/
def initial : State :=
  ⟨0x67452301, 0xefcdab89, 0x98badcfe, 0x10325476⟩

/-- The whole part of `2 ^ 32 * |sin i|` for `i` from 1 to 64. -/
def sines : List UInt32 := [
  0xd76aa478, 0xe8c7b756, 0x242070db, 0xc1bdceee, 0xf57c0faf, 0x4787c62a, 0xa8304613, 0xfd469501,
  0x698098d8, 0x8b44f7af, 0xffff5bb1, 0x895cd7be, 0x6b901122, 0xfd987193, 0xa679438e, 0x49b40821,
  0xf61e2562, 0xc040b340, 0x265e5a51, 0xe9b6c7aa, 0xd62f105d, 0x02441453, 0xd8a1e681, 0xe7d3fbc8,
  0x21e1cde6, 0xc33707d6, 0xf4d50d87, 0x455a14ed, 0xa9e3e905, 0xfcefa3f8, 0x676f02d9, 0x8d2a4c8a,
  0xfffa3942, 0x8771f681, 0x6d9d6122, 0xfde5380c, 0xa4beea44, 0x4bdecfa9, 0xf6bb4b60, 0xbebfbc70,
  0x289b7ec6, 0xeaa127fa, 0xd4ef3085, 0x04881d05, 0xd9d4d039, 0xe6db99e5, 0x1fa27cf8, 0xc4ac5665,
  0xf4292244, 0x432aff97, 0xab9423a7, 0xfc93a039, 0x655b59c3, 0x8f0ccc92, 0xffeff47d, 0x85845dd1,
  0x6fa87e4f, 0xfe2ce6e0, 0xa3014314, 0x4e0811a1, 0xf7537e82, 0xbd3af235, 0x2ad7d2bb, 0xeb86d391]

/-- The rotations of step `i`: four amounts per round of sixteen steps, in turn. -/
def rotation (i : Nat) : UInt32 :=
  match i / 16, i % 4 with
  | 0, 0 => 7 | 0, 1 => 12 | 0, 2 => 17 | 0, _ => 22
  | 1, 0 => 5 | 1, 1 => 9 | 1, 2 => 14 | 1, _ => 20
  | 2, 0 => 4 | 2, 1 => 11 | 2, 2 => 16 | 2, _ => 23
  | _, 0 => 6 | _, 1 => 10 | _, 2 => 15 | _, _ => 21

/-- The word of the block that step `i` reads. -/
def wordIndex (i : Nat) : Nat :=
  match i / 16 with
  | 0 => i
  | 1 => (5 * i + 1) % 16
  | 2 => (3 * i + 5) % 16
  | _ => 7 * i % 16

/-- The bitwise function of step `i`. -/
def mix (i : Nat) (b c d : UInt32) : UInt32 :=
  match i / 16 with
  | 0 => (b &&& c) ||| (~~~b &&& d)
  | 1 => (d &&& b) ||| (~~~d &&& c)
  | 2 => b ^^^ c ^^^ d
  | _ => c ^^^ (b ||| ~~~d)

/-- The bits of `w` moved `n` places up, those that leave at the top coming in at the bottom. -/
def rotateLeft (w n : UInt32) : UInt32 :=
  (w <<< n) ||| (w >>> (32 - n))

/-- One step on block `words`. -/
def step (words : List UInt32) (s : State) (i : Nat) : State :=
  let sum := s.a + mix i s.b s.c s.d + sines.getD i 0 + words.getD (wordIndex i) 0
  ⟨s.d, s.b + rotateLeft sum (rotation i), s.b, s.c⟩

/-- The chaining words after one block of sixteen words. -/
def compress (s : State) (words : List UInt32) : State :=
  let t := (List.range 64).foldl (step words) s
  ⟨s.a + t.a, s.b + t.b, s.c + t.c, s.d + t.d⟩

/-- Groups of four bytes as words, least significant byte first. -/
def toWords : List UInt8 → List UInt32
  | p :: q :: r :: s :: rest =>
    (p.toUInt32 ||| q.toUInt32 <<< 8 ||| r.toUInt32 <<< 16 ||| s.toUInt32 <<< 24) :: toWords rest
  | _ => []

/-- A length as eight bytes, least significant first. -/
def lengthBytes (n : Nat) : List UInt8 :=
  (List.range 8).map fun i => UInt8.ofNat (n >>> (8 * i))

/-- The message with a one bit, zeros up to 8 bytes short of a whole block, and its length in
bits. -/
def pad (message : List UInt8) : List UInt8 :=
  message ++ 0x80 :: List.replicate ((119 - message.length % 64) % 64) 0
    ++ lengthBytes (8 * message.length)

/-- The chaining words after `count` blocks. -/
def compressBlocks : Nat → State → List UInt32 → State
  | 0, s, _ => s
  | count + 1, s, words => compressBlocks count (compress s (words.take 16)) (words.drop 16)

def digest (message : List UInt8) : State :=
  let words := toWords (pad message)
  compressBlocks (words.length / 16) initial words

/-- The first four bytes of the digest of a text as a big-endian number without its top bit. -/
def tag (text : String) : UInt32 :=
  let a := (digest text.toUTF8.toList).a
  ((a &&& 0xff) <<< 24 ||| ((a >>> 8) &&& 0xff) <<< 16 ||| ((a >>> 16) &&& 0xff) <<< 8
    ||| (a >>> 24)) &&& 0x7fffffff

end Md5
end SchemaScript
