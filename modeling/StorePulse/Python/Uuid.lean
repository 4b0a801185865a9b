import StorePulse.Python.Values

/-!
# Named UUIDs

`uuid.uuid5`: the first sixteen bytes of the SHA-1 of the namespace and the name,
with the bits of the version and of the variant set.  Words and bytes are
numbers.
-/

namespace StorePulse

/-! ## SHA-1 -/

namespace Sha1

/-- The number of some bytes, or of some words of 32 bits. -/
def bigEndian (width : Nat) (digits : List Nat) : Nat :=
  digits.foldl (fun n digit => n <<< width ||| digit) 0

/-- The last `count` bytes of a number. -/
def toBytes (count n : Nat) : List Nat :=
  (List.range count).map fun i => n >>> (8 * (count - 1 - i)) % 256

/-- How many words there are. -/
def wordSize : Nat := 0x100000000

/-- Rotate a word to the left. -/
def rotl (n x : Nat) : Nat := (x <<< n ||| x >>> (32 - n)) % wordSize

/-- The five words of the state. -/
structure State where
  a : Nat
  b : Nat
  c : Nat
  d : Nat
  e : Nat

/-- The state before the first block. -/
def State.initial : State := ⟨0x67452301, 0xefcdab89, 0x98badcfe, 0x10325476, 0xc3d2e1f0⟩

/-- The function and the constant of a round. -/
def State.mix (s : State) (t : Nat) : Nat × Nat :=
  if t < 20 then ((s.b &&& s.c) ^^^ ((0xffffffff ^^^ s.b) &&& s.d), 0x5a827999)
  else if t < 40 then (s.b ^^^ s.c ^^^ s.d, 0x6ed9eba1)
  else if t < 60 then ((s.b &&& s.c) ^^^ (s.b &&& s.d) ^^^ (s.c &&& s.d), 0x8f1bbcdc)
  else (s.b ^^^ s.c ^^^ s.d, 0xca62c1d6)

/-- A round with its word of the schedule. -/
def State.round (s : State) (word : Nat × Nat) : State :=
  let (f, k) := s.mix word.2
  ⟨(rotl 5 s.a + f + s.e + k + word.1) % wordSize, s.a, rotl 30 s.b, s.c, s.d⟩

/-- The next `n` words of a schedule.  The last word comes first. -/
def extend : Nat → List Nat → List Nat
  | 0, words => words
  | n + 1, words =>
      let word := words.getD 2 0 ^^^ words.getD 7 0 ^^^ words.getD 13 0 ^^^ words.getD 15 0
      extend n (rotl 1 word :: words)

/-- The eighty words of a block. -/
def schedule (block : List Nat) : List Nat :=
  let words := (List.range 16).map fun i => bigEndian 8 ((block.drop (4 * i)).take 4)
  (extend 64 words.reverse).reverse

/-- Take a block into the state. -/
def State.compress (s : State) (block : List Nat) : State :=
  let s' := (schedule block).zipIdx.foldl State.round s
  ⟨(s.a + s'.a) % wordSize, (s.b + s'.b) % wordSize, (s.c + s'.c) % wordSize,
    (s.d + s'.d) % wordSize, (s.e + s'.e) % wordSize⟩

/-- The message, a one bit, zeros and the length in bits, in whole blocks. -/
def pad (message : List Nat) : List Nat :=
  message ++ [0x80] ++ List.replicate ((64 - (message.length + 9) % 64) % 64) 0 ++
    toBytes 8 (8 * message.length)

/-- The digest, as a number of 160 bits. -/
def digest (message : List Nat) : Nat :=
  let padded := pad message
  let blocks := (List.range (padded.length / 64)).map fun i => (padded.drop (64 * i)).take 64
  let s := blocks.foldl State.compress State.initial
  bigEndian 32 [s.a, s.b, s.c, s.d, s.e]

example : digest [0x61, 0x62, 0x63] = 0xa9993e364706816aba3e25717850c26c9cd0d89d := by
  decide +kernel

end Sha1

/-! ## UUIDs -/

/-- Some bits of a UUID, set to a value. -/
def UUID.setBits (id : UUID) (mask bits : Nat) : UUID :=
  (id &&& (0xffffffffffffffffffffffffffffffff ^^^ mask)) ||| bits

/-- `uuid.uuid5`. -/
def uuid5 (namespaceId : UUID) (name : String) : UUID :=
  let bytes := name.toList.flatMap fun c => (String.utf8EncodeChar c).map UInt8.toNat
  let hash := Sha1.digest (Sha1.toBytes 16 namespaceId ++ bytes) >>> 32
  (UUID.setBits hash (0xc000 <<< 48) (0x8000 <<< 48)).setBits (0xf000 <<< 64) (5 <<< 76)

end StorePulse
