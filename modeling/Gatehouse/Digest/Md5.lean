/-!
# MD5

The message digest MD5 as four words. A message is padded to whole blocks of sixteen words; each
block is mixed into the state in 64 steps.
-/

namespace Gatehouse.Digest.Md5

structure State where
  a : UInt32
  b : UInt32
  c : UInt32
  d : UInt32
deriving DecidableEq, Repr

namespace State

def initial : State := ⟨0x67452301, 0xefcdab89, 0x98badcfe, 0x10325476⟩

def add (s t : State) : State := ⟨s.a + t.a, s.b + t.b, s.c + t.c, s.d + t.d⟩

def words (s : State) : List UInt32 := [s.a, s.b, s.c, s.d]

end State

/-- The number added in each step: 2^32 times the sine of the step's number, without sign and
fraction. -/
def addends : Array UInt32 := #[
  0xd76aa478, 0xe8c7b756, 0x242070db, 0xc1bdceee, 0xf57c0faf, 0x4787c62a, 0xa8304613, 0xfd469501,
  0x698098d8, 0x8b44f7af, 0xffff5bb1, 0x895cd7be, 0x6b901122, 0xfd987193, 0xa679438e, 0x49b40821,
  0xf61e2562, 0xc040b340, 0x265e5a51, 0xe9b6c7aa, 0xd62f105d, 0x02441453, 0xd8a1e681, 0xe7d3fbc8,
  0x21e1cde6, 0xc33707d6, 0xf4d50d87, 0x455a14ed, 0xa9e3e905, 0xfcefa3f8, 0x676f02d9, 0x8d2a4c8a,
  0xfffa3942, 0x8771f681, 0x6d9d6122, 0xfde5380c, 0xa4beea44, 0x4bdecfa9, 0xf6bb4b60, 0xbebfbc70,
  0x289b7ec6, 0xeaa127fa, 0xd4ef3085, 0x04881d05, 0xd9d4d039, 0xe6db99e5, 0x1fa27cf8, 0xc4ac5665,
  0xf4292244, 0x432aff97, 0xab9423a7, 0xfc93a039, 0x655b59c3, 0x8f0ccc92, 0xffeff47d, 0x85845dd1,
  0x6fa87e4f, 0xfe2ce6e0, 0xa3014314, 0x4e0811a1, 0xf7537e82, 0xbd3af235, 0x2ad7d2bb, 0xeb86d391]

/-- How far each step rotates, four amounts by turns in each round of sixteen steps. -/
def rotations : Array (Array UInt32) :=
  #[#[7, 12, 17, 22], #[5, 9, 14, 20], #[4, 11, 16, 23], #[6, 10, 15, 21]]

def rotate (x n : UInt32) : UInt32 := (x <<< n) ||| (x >>> (32 - n))

/-- The mixing function of a round. -/
def mix (round : Nat) (b c d : UInt32) : UInt32 :=
  match round with
  | 0 => (b &&& c) ||| (~~~b &&& d)
  | 1 => (d &&& b) ||| (~~~d &&& c)
  | 2 => b ^^^ c ^^^ d
  | _ => c ^^^ (b ||| ~~~d)

/-- The word of the block that a step takes in. -/
def wordIndex (i : Nat) : Nat :=
  match i / 16 with
  | 0 => i % 16
  | 1 => (5 * i + 1) % 16
  | 2 => (3 * i + 5) % 16
  | _ => (7 * i) % 16

def step (block : Array UInt32) (s : State) (i : Nat) : State :=
  let sum := s.a + mix (i / 16) s.b s.c s.d + addends.getD i 0 + block.getD (wordIndex i) 0
  let turn := (rotations.getD (i / 16) #[]).getD (i % 4) 0
  -- the words change places, so that every step is written alike
  ⟨s.d, s.b + rotate sum turn, s.b, s.c⟩

def absorb (s : State) (block : Array UInt32) : State :=
  s.add ((List.range 64).foldl (step block) s)

/-- The bytes of a number, the least one first. -/
def littleBytes (count n : Nat) : List UInt8 :=
  (List.range count).map fun i => UInt8.ofNat (n >>> (8 * i))

/-- The message with a final one bit, zeros up to eight bytes before the end of a block, and its
length in bits. -/
def pad (message : List UInt8) : List UInt8 :=
  message ++ [0x80] ++ List.replicate ((55 + 64 - message.length % 64) % 64) 0 ++
    littleBytes 8 (8 * message.length)

/-- Words of four bytes, the least one first. -/
def toWords : List UInt8 → List UInt32
  | b0 :: b1 :: b2 :: b3 :: r =>
    (b0.toUInt32 ||| b1.toUInt32 <<< 8 ||| b2.toUInt32 <<< 16 ||| b3.toUInt32 <<< 24) :: toWords r
  | _ => []

def absorbAll (s : State) (words : List UInt32) : State :=
  if _h : words = [] then s
  else absorbAll (absorb s (words.take 16).toArray) (words.drop 16)
termination_by words.length
decreasing_by
  have : 0 < words.length := List.length_pos_iff.2 ‹_›
  simp only [List.length_drop]
  omega

def digest (message : List UInt8) : List UInt32 :=
  (absorbAll .initial (toWords (pad message))).words

/-- The digest of the UTF-8 form of a text. -/
def ofText (s : String) : List UInt32 := digest s.toUTF8.toList

/-- A digest has four words, so it is never empty. -/
theorem ofText_ne_nil (s : String) : ofText s ≠ [] := List.cons_ne_nil _ _

end Gatehouse.Digest.Md5
