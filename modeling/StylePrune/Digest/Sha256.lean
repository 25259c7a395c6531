/-!
# SHA-256

The digest of a list of bytes: the message is padded to whole blocks of 64 bytes, and each block is
worked into eight words.
-/

namespace StylePrune.Sha256

abbrev Word := UInt32

def rotr (x n : Word) : Word := (x >>> n) ||| (x <<< (32 - n))

def choose (x y z : Word) : Word := (x &&& y) ^^^ (~~~x &&& z)

def majority (x y z : Word) : Word := (x &&& y) ^^^ (x &&& z) ^^^ (y &&& z)

def bigSigma0 (x : Word) : Word := rotr x 2 ^^^ rotr x 13 ^^^ rotr x 22

def bigSigma1 (x : Word) : Word := rotr x 6 ^^^ rotr x 11 ^^^ rotr x 25

def smallSigma0 (x : Word) : Word := rotr x 7 ^^^ rotr x 18 ^^^ (x >>> 3)

def smallSigma1 (x : Word) : Word := rotr x 17 ^^^ rotr x 19 ^^^ (x >>> 10)

/-- The first 32 bits of the fractional parts of the cube roots of the first 64 primes. -/
def roundConstants : List Word := [
  0x428a2f98, 0x71374491, 0xb5c0fbcf, 0xe9b5dba5, 0x3956c25b, 0x59f111f1, 0x923f82a4, 0xab1c5ed5,
  0xd807aa98, 0x12835b01, 0x243185be, 0x550c7dc3, 0x72be5d74, 0x80deb1fe, 0x9bdc06a7, 0xc19bf174,
  0xe49b69c1, 0xefbe4786, 0x0fc19dc6, 0x240ca1cc, 0x2de92c6f, 0x4a7484aa, 0x5cb0a9dc, 0x76f988da,
  0x983e5152, 0xa831c66d, 0xb00327c8, 0xbf597fc7, 0xc6e00bf3, 0xd5a79147, 0x06ca6351, 0x14292967,
  0x27b70a85, 0x2e1b2138, 0x4d2c6dfc, 0x53380d13, 0x650a7354, 0x766a0abb, 0x81c2c92e, 0x92722c85,
  0xa2bfe8a1, 0xa81a664b, 0xc24b8b70, 0xc76c51a3, 0xd192e819, 0xd6990624, 0xf40e3585, 0x106aa070,
  0x19a4c116, 0x1e376c08, 0x2748774c, 0x34b0bcb5, 0x391c0cb3, 0x4ed8aa4a, 0x5b9cca4f, 0x682e6ff3,
  0x748f82ee, 0x78a5636f, 0x84c87814, 0x8cc70208, 0x90befffa, 0xa4506ceb, 0xbef9a3f7, 0xc67178f2]

/-- The eight words that blocks are worked into. -/
structure State where
  a : Word
  b : Word
  c : Word
  d : Word
  e : Word
  f : Word
  g : Word
  h : Word
deriving DecidableEq, Repr

/-- The first 32 bits of the fractional parts of the square roots of the first eight primes. -/
def initial : State :=
  ⟨0x6a09e667, 0xbb67ae85, 0x3c6ef372, 0xa54ff53a, 0x510e527f, 0x9b05688c, 0x1f83d9ab, 0x5be0cd19⟩

/-- One round, with the sum of the word of the schedule and the constant of the round. -/
def round (s : State) (wk : Word) : State :=
  let t1 := s.h + bigSigma1 s.e + choose s.e s.f s.g + wk
  let t2 := bigSigma0 s.a + majority s.a s.b s.c
  ⟨t1 + t2, s.a, s.b, s.c, s.d + t1, s.e, s.f, s.g⟩

/-- The next word of the schedule, from the sixteen before it. -/
def nextWord (window : List Word) : Word :=
  smallSigma1 (window.getD 14 0) + window.getD 9 0 + smallSigma0 (window.getD 1 0) +
    window.getD 0 0

/-- `count` words of the schedule, from a window of sixteen on. -/
def schedule : Nat → List Word → List Word
  | 0, _ => []
  | count + 1, window =>
    window.headD 0 :: schedule count (window.drop 1 ++ [nextWord window])

def word (bytes : List UInt8) : Word := bytes.foldl (fun w b => (w <<< 8) ||| b.toUInt32) 0

/-- The words of a block, four bytes to each. -/
def words : Nat → List UInt8 → List Word
  | 0, _ => []
  | count + 1, bytes => word (bytes.take 4) :: words count (bytes.drop 4)

def State.add (s t : State) : State :=
  ⟨s.a + t.a, s.b + t.b, s.c + t.c, s.d + t.d, s.e + t.e, s.f + t.f, s.g + t.g, s.h + t.h⟩

/-- Works a block of 64 bytes into the state. -/
def block (s : State) (bytes : List UInt8) : State :=
  let sums := List.zipWith (· + ·) (schedule 64 (words 16 bytes)) roundConstants
  s.add (sums.foldl round s)

/-- Works `count` blocks into the state. -/
def blocks : Nat → State → List UInt8 → State
  | 0, s, _ => s
  | count + 1, s, bytes => blocks count (block s (bytes.take 64)) (bytes.drop 64)

/-- The bytes of a number, the lowest last. -/
def bigEndian : Nat → Nat → List UInt8
  | 0, _ => []
  | width + 1, n => bigEndian width (n / 256) ++ [UInt8.ofNat n]

/-- The message with a one bit, zeros and its length in bits, as whole blocks. -/
def padded (message : List UInt8) : List UInt8 :=
  let zeros := (119 - message.length % 64) % 64
  message ++ [0x80] ++ List.replicate zeros 0 ++ bigEndian 8 (8 * message.length)

def State.bytes (s : State) : List UInt8 :=
  [s.a, s.b, s.c, s.d, s.e, s.f, s.g, s.h].flatMap fun w => bigEndian 4 w.toNat

/-- The digest of a message. -/
def digest (message : List UInt8) : List UInt8 :=
  let text := padded message
  (blocks (text.length / 64) initial text).bytes

def hexByte (b : UInt8) : List Char :=
  [Nat.digitChar (b.toNat / 16), Nat.digitChar (b.toNat % 16)]

/-- The digest in hexadecimal digits. -/
def hex (message : List UInt8) : String := String.ofList ((digest message).flatMap hexByte)

end StylePrune.Sha256
