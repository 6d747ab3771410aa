/-!
# MD5

The message digest of RFC 1321, on lists of bytes.

* `Md5.padded`: the message with its closing bit, zeros and length, a whole number of blocks.
* `Md5.compress`: one block folded into the four chaining words.
* `Md5.digest`: the digest, read as an unsigned number of 128 bits with the most significant byte
  first.
-/

namespace Interleave.Md5

/-- The four chaining words. -/
structure State where
  a : UInt32
  b : UInt32
  c : UInt32
  d : UInt32

def initial : State := ⟨0x67452301, 0xefcdab89, 0x98badcfe, 0x10325476⟩

/-- The integer parts of 2^32 times the absolute sines of 1, 2, …, 64 radians. -/
def sines : Array UInt32 := #[
  0xd76aa478, 0xe8c7b756, 0x242070db, 0xc1bdceee, 0xf57c0faf, 0x4787c62a, 0xa8304613, 0xfd469501,
  0x698098d8, 0x8b44f7af, 0xffff5bb1, 0x895cd7be, 0x6b901122, 0xfd987193, 0xa679438e, 0x49b40821,
  0xf61e2562, 0xc040b340, 0x265e5a51, 0xe9b6c7aa, 0xd62f105d, 0x02441453, 0xd8a1e681, 0xe7d3fbc8,
  0x21e1cde6, 0xc33707d6, 0xf4d50d87, 0x455a14ed, 0xa9e3e905, 0xfcefa3f8, 0x676f02d9, 0x8d2a4c8a,
  0xfffa3942, 0x8771f681, 0x6d9d6122, 0xfde5380c, 0xa4beea44, 0x4bdecfa9, 0xf6bb4b60, 0xbebfbc70,
  0x289b7ec6, 0xeaa127fa, 0xd4ef3085, 0x04881d05, 0xd9d4d039, 0xe6db99e5, 0x1fa27cf8, 0xc4ac5665,
  0xf4292244, 0x432aff97, 0xab9423a7, 0xfc93a039, 0x655b59c3, 0x8f0ccc92, 0xffeff47d, 0x85845dd1,
  0x6fa87e4f, 0xfe2ce6e0, 0xa3014314, 0x4e0811a1, 0xf7537e82, 0xbd3af235, 0x2ad7d2bb, 0xeb86d391]

/-- How far step `i` rotates: four amounts for each round of sixteen steps, in turn. -/
def rotation (i : Nat) : UInt32 :=
  #[7, 12, 17, 22, 5, 9, 14, 20, 4, 11, 16, 23, 6, 10, 15, 21].getD (4 * (i / 16) + i % 4) 0

def rotateLeft (x k : UInt32) : UInt32 :=
  (x <<< k) ||| (x >>> (32 - k))

/-- The word of the block that step `i` reads. -/
def wordIndex (i : Nat) : Nat :=
  match i / 16 with
  | 0 => i
  | 1 => (5 * i + 1) % 16
  | 2 => (3 * i + 5) % 16
  | _ => 7 * i % 16

/-- The round function of step `i`. -/
def mix (i : Nat) (s : State) : UInt32 :=
  match i / 16 with
  | 0 => (s.b &&& s.c) ||| (~~~s.b &&& s.d)
  | 1 => (s.d &&& s.b) ||| (~~~s.d &&& s.c)
  | 2 => s.b ^^^ s.c ^^^ s.d
  | _ => s.c ^^^ (s.b ||| ~~~s.d)

/-- Step `i` on the block of sixteen words that begins at `start`. -/
def step (words : Array UInt32) (start : Nat) (s : State) (i : Nat) : State :=
  let sum := s.a + mix i s + sines.getD i 0 + words.getD (start + wordIndex i) 0
  ⟨s.d, s.b + rotateLeft sum (rotation i), s.b, s.c⟩

def compress (words : Array UInt32) (s : State) (start : Nat) : State :=
  let t := (List.range 64).foldl (step words start) s
  ⟨s.a + t.a, s.b + t.b, s.c + t.c, s.d + t.d⟩

/-- The lowest `count` bytes of a number, least significant first. -/
def littleEndian (count n : Nat) : List UInt8 :=
  (List.range count).map fun i => UInt8.ofNat (n >>> (8 * i))

def padded (message : List UInt8) : List UInt8 :=
  let size := message.length
  message ++ 0x80 :: List.replicate ((119 - size % 64) % 64) 0 ++ littleEndian 8 (8 * size)

/-- Bytes taken in fours, least significant first. -/
def words : List UInt8 → List UInt32
  | b₀ :: b₁ :: b₂ :: b₃ :: rest =>
    (b₀.toUInt32 ||| b₁.toUInt32 <<< 8 ||| b₂.toUInt32 <<< 16 ||| b₃.toUInt32 <<< 24) :: words rest
  | _ => []

def bytes (s : State) : List UInt8 :=
  [s.a, s.b, s.c, s.d].flatMap fun word => littleEndian 4 word.toNat

def digest (message : List UInt8) : Nat :=
  let ws := (words (padded message)).toArray
  let final := (List.range (ws.size / 16)).foldl (fun s k => compress ws s (16 * k)) initial
  (bytes final).foldl (fun n b => n * 256 + b.toNat) 0

end Interleave.Md5
