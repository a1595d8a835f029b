/-!
# Digests

The SHA-256 digest of a text, by which two texts are told apart without keeping them. The message is
padded to whole blocks of 64 bytes (`size_padded`), each block is stretched to 64 words, and a state
of eight words is stirred with them, round by round.
-/

namespace LineKin.Digest

/-- The constants of the rounds: the first 32 bits of the fractional parts of the cube roots of the
first 64 primes. -/
def roundConstants : List UInt32 :=
  [0x428a2f98, 0x71374491, 0xb5c0fbcf, 0xe9b5dba5, 0x3956c25b, 0x59f111f1, 0x923f82a4, 0xab1c5ed5,
   0xd807aa98, 0x12835b01, 0x243185be, 0x550c7dc3, 0x72be5d74, 0x80deb1fe, 0x9bdc06a7, 0xc19bf174,
   0xe49b69c1, 0xefbe4786, 0x0fc19dc6, 0x240ca1cc, 0x2de92c6f, 0x4a7484aa, 0x5cb0a9dc, 0x76f988da,
   0x983e5152, 0xa831c66d, 0xb00327c8, 0xbf597fc7, 0xc6e00bf3, 0xd5a79147, 0x06ca6351, 0x14292967,
   0x27b70a85, 0x2e1b2138, 0x4d2c6dfc, 0x53380d13, 0x650a7354, 0x766a0abb, 0x81c2c92e, 0x92722c85,
   0xa2bfe8a1, 0xa81a664b, 0xc24b8b70, 0xc76c51a3, 0xd192e819, 0xd6990624, 0xf40e3585, 0x106aa070,
   0x19a4c116, 0x1e376c08, 0x2748774c, 0x34b0bcb5, 0x391c0cb3, 0x4ed8aa4a, 0x5b9cca4f, 0x682e6ff3,
   0x748f82ee, 0x78a5636f, 0x84c87814, 0x8cc70208, 0x90befffa, 0xa4506ceb, 0xbef9a3f7, 0xc67178f2]

/-- The eight words of a digest under way. -/
structure State where
  /-- The first word. -/
  a : UInt32
  /-- The second word. -/
  b : UInt32
  /-- The third word. -/
  c : UInt32
  /-- The fourth word. -/
  d : UInt32
  /-- The fifth word. -/
  e : UInt32
  /-- The sixth word. -/
  f : UInt32
  /-- The seventh word. -/
  g : UInt32
  /-- The eighth word. -/
  h : UInt32
  deriving DecidableEq

namespace State

/-- The words before the first block: the first 32 bits of the fractional parts of the square roots
of the first eight primes. -/
def initial : State :=
  ⟨0x6a09e667, 0xbb67ae85, 0x3c6ef372, 0xa54ff53a,
   0x510e527f, 0x9b05688c, 0x1f83d9ab, 0x5be0cd19⟩

/-- Two states, word by word. -/
def add (s t : State) : State :=
  ⟨s.a + t.a, s.b + t.b, s.c + t.c, s.d + t.d, s.e + t.e, s.f + t.f, s.g + t.g, s.h + t.h⟩

/-- The words in order. -/
def words (s : State) : List UInt32 := [s.a, s.b, s.c, s.d, s.e, s.f, s.g, s.h]

end State

/-- A word turned to the right. -/
def turn (word : UInt32) (bits : UInt32) : UInt32 := (word >>> bits) ||| (word <<< (32 - bits))

/-- One round with a constant and a word of the block. -/
def round (s : State) (constant word : UInt32) : State :=
  let choice := (s.e &&& s.f) ^^^ (~~~s.e &&& s.g)
  let majority := (s.a &&& s.b) ^^^ (s.a &&& s.c) ^^^ (s.b &&& s.c)
  let x := s.h + (turn s.e 6 ^^^ turn s.e 11 ^^^ turn s.e 25) + choice + constant + word
  let y := (turn s.a 2 ^^^ turn s.a 13 ^^^ turn s.a 22) + majority
  ⟨x + y, s.a, s.b, s.c, s.d + x, s.e, s.f, s.g⟩

/-- The next word behind the sixteen words `w` that came last. -/
def nextWord (w : Array UInt32) : UInt32 :=
  let back (n : Nat) : UInt32 := w.getD (w.size - n) 0
  let x := back 15
  let y := back 2
  back 16 + (turn x 7 ^^^ turn x 18 ^^^ (x >>> 3)) + back 7 + (turn y 17 ^^^ turn y 19 ^^^ (y >>> 10))

/-- The 64 words of a block, of which the first sixteen are the block itself. -/
def schedule (block : List UInt32) : Array UInt32 :=
  (List.range 48).foldl (fun w _ => w.push (nextWord w)) block.toArray

/-- The state after one more block. -/
def absorb (s : State) (block : List UInt32) : State :=
  let stirred := (roundConstants.zip (schedule block).toList).foldl
    (fun s step => round s step.1 step.2) s
  s.add stirred

/-- A number as bytes, the highest one first. -/
def bytesOf (n count : Nat) : List UInt8 :=
  (List.range count).reverse.map fun i => (n >>> (8 * i)).toUInt8

/-- The number of zero bytes between a message and its length. -/
def zeroCount (size : Nat) : Nat := (119 - size % 64) % 64

/-- A message, a mark, zeros up to eight bytes before the end of a block, and the length in bits. -/
def padded (message : ByteArray) : ByteArray :=
  let tail := 0x80 :: (List.replicate (zeroCount message.size) 0 ++ bytesOf (8 * message.size) 8)
  tail.foldl ByteArray.push message

/-- The word that starts at a byte of a message. -/
def wordAt (message : ByteArray) (i : Nat) : UInt32 :=
  let byte (j : Nat) : UInt32 := if h : j < message.size then message[j].toUInt32 else 0
  (byte i <<< 24) ||| (byte (i + 1) <<< 16) ||| (byte (i + 2) <<< 8) ||| byte (i + 3)

/-- The sixteen words of a block of a message. -/
def blockAt (message : ByteArray) (i : Nat) : List UInt32 :=
  (List.range 16).map fun j => wordAt message (64 * i + 4 * j)

/-- The digest of a message. -/
def ofBytes (message : ByteArray) : State :=
  let whole := padded message
  (List.range (whole.size / 64)).foldl (fun s i => absorb s (blockAt whole i)) .initial

/-- The digits of a word to base sixteen, in lower case. -/
def hexWord (word : UInt32) : List Char :=
  (List.range 8).reverse.map fun i => Nat.digitChar ((word.toNat >>> (4 * i)) % 16)

/-- The digest of a text in UTF-8, written with 64 digits to base sixteen. -/
def ofText (text : String) : String :=
  String.ofList ((ofBytes text.toUTF8).words.flatMap hexWord)

theorem size_foldl_push (bytes : List UInt8) (message : ByteArray) :
    (bytes.foldl ByteArray.push message).size = message.size + bytes.length := by
  induction bytes generalizing message with
  | nil => rfl
  | cons b bytes ih => rw [List.foldl_cons, ih, ByteArray.size_push, List.length_cons]; omega

/-- A padded message consists of whole blocks. -/
theorem size_padded (message : ByteArray) : (padded message).size % 64 = 0 := by
  simp only [padded, size_foldl_push, List.length_cons, List.length_append, List.length_replicate,
    bytesOf, List.length_map, List.length_reverse, List.length_range, zeroCount]
  omega

end LineKin.Digest
