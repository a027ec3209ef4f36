import Mathlib.Algebra.Group.Nat.Defs
import Mathlib.Data.List.Basic

/-!
# SHA-256 on byte strings

FIPS 180-4 on natural numbers below `2 ^ 32`, written with structural recursion so that the kernel
can evaluate a digest.  Nothing here is specific to one program.

* `Sha256.compress`: one block, sixteen 32-bit words, folded into the eight chaining words.
-/

namespace EsscherMarket.Lib.Sha256

/-- The words are natural numbers; every operation reduces modulo this. -/
def wordSize : Nat := 4294967296

def add32 (x y : Nat) : Nat := (x + y) % wordSize

def rotr (x n : Nat) : Nat := (x >>> n ||| x <<< (32 - n)) % wordSize

def ch (x y z : Nat) : Nat := (x &&& y) ^^^ ((wordSize - 1 - x) &&& z)

def maj (x y z : Nat) : Nat := (x &&& y) ^^^ (x &&& z) ^^^ (y &&& z)

def bigSigma0 (x : Nat) : Nat := rotr x 2 ^^^ rotr x 13 ^^^ rotr x 22

def bigSigma1 (x : Nat) : Nat := rotr x 6 ^^^ rotr x 11 ^^^ rotr x 25

def smallSigma0 (x : Nat) : Nat := rotr x 7 ^^^ rotr x 18 ^^^ x >>> 3

def smallSigma1 (x : Nat) : Nat := rotr x 17 ^^^ rotr x 19 ^^^ x >>> 10

/-- The sixty-four round constants of FIPS 180-4, section 4.2.2. -/
def roundConstants : List Nat :=
  [0x428a2f98, 0x71374491, 0xb5c0fbcf, 0xe9b5dba5, 0x3956c25b, 0x59f111f1, 0x923f82a4, 0xab1c5ed5,
   0xd807aa98, 0x12835b01, 0x243185be, 0x550c7dc3, 0x72be5d74, 0x80deb1fe, 0x9bdc06a7, 0xc19bf174,
   0xe49b69c1, 0xefbe4786, 0x0fc19dc6, 0x240ca1cc, 0x2de92c6f, 0x4a7484aa, 0x5cb0a9dc, 0x76f988da,
   0x983e5152, 0xa831c66d, 0xb00327c8, 0xbf597fc7, 0xc6e00bf3, 0xd5a79147, 0x06ca6351, 0x14292967,
   0x27b70a85, 0x2e1b2138, 0x4d2c6dfc, 0x53380d13, 0x650a7354, 0x766a0abb, 0x81c2c92e, 0x92722c85,
   0xa2bfe8a1, 0xa81a664b, 0xc24b8b70, 0xc76c51a3, 0xd192e819, 0xd6990624, 0xf40e3585, 0x106aa070,
   0x19a4c116, 0x1e376c08, 0x2748774c, 0x34b0bcb5, 0x391c0cb3, 0x4ed8aa4a, 0x5b9cca4f, 0x682e6ff3,
   0x748f82ee, 0x78a5636f, 0x84c87814, 0x8cc70208, 0x90befffa, 0xa4506ceb, 0xbef9a3f7, 0xc67178f2]

structure Working where
  a : Nat
  b : Nat
  c : Nat
  d : Nat
  e : Nat
  f : Nat
  g : Nat
  h : Nat
  deriving DecidableEq

def initial : Working :=
  ⟨0x6a09e667, 0xbb67ae85, 0x3c6ef372, 0xa54ff53a, 0x510e527f, 0x9b05688c, 0x1f83d9ab, 0x5be0cd19⟩

/-- The message schedule: `n` further words from a window of the last sixteen. -/
def schedule : Nat → List Nat → List Nat
  | 0, window => window
  | n + 1, window =>
    match window with
    | [] => []
    | w :: rest =>
      let next := add32 (add32 (smallSigma1 (rest.getD 13 0)) (rest.getD 8 0))
        (add32 (smallSigma0 (rest.getD 0 0)) w)
      w :: schedule n (rest ++ [next])

def round (v : Working) (kw : Nat × Nat) : Working :=
  let t1 := add32 (add32 v.h (bigSigma1 v.e)) (add32 (ch v.e v.f v.g) (add32 kw.1 kw.2))
  let t2 := add32 (bigSigma0 v.a) (maj v.a v.b v.c)
  ⟨add32 t1 t2, v.a, v.b, v.c, add32 v.d t1, v.e, v.f, v.g⟩

def compress (h : Working) (block : List Nat) : Working :=
  let v := (roundConstants.zip (schedule 48 block)).foldl round h
  ⟨add32 h.a v.a, add32 h.b v.b, add32 h.c v.c, add32 h.d v.d,
   add32 h.e v.e, add32 h.f v.f, add32 h.g v.g, add32 h.h v.h⟩

/-- Big-endian words of a byte string whose length is a multiple of four. -/
def words : List Nat → List Nat
  | b0 :: b1 :: b2 :: b3 :: rest => (b0 * 16777216 + b1 * 65536 + b2 * 256 + b3) :: words rest
  | _ => []

/-- The `n` low bytes of `x`, most significant first. -/
def bytesBE : Nat → Nat → List Nat
  | 0, _ => []
  | n + 1, x => (x / 256 ^ n) % 256 :: bytesBE n x

/-- The message followed by `0x80`, zeros up to 56 modulo 64, and the bit length. -/
def padding (message : List Nat) : List Nat :=
  let zeros := (119 - message.length % 64) % 64
  message ++ 0x80 :: (List.replicate zeros 0 ++ bytesBE 8 (message.length * 8))

/-- Fold the words of the padded message block by block. -/
def blocks : Nat → Working → List Nat → Working
  | 0, h, _ => h
  | n + 1, h, ws => blocks n (compress h (ws.take 16)) (ws.drop 16)

/-- The hexadecimal digit of a number below sixteen. -/
def hexDigit (n : Nat) : Char := Char.ofNat (if n < 10 then 48 + n else 87 + n)

def hexBytes (bytes : List Nat) : List Char :=
  bytes.flatMap fun b => [hexDigit (b / 16), hexDigit (b % 16)]

def digestBytes (message : List Nat) : List Nat :=
  let ws := words (padding message)
  let v := blocks (ws.length / 16) initial ws
  [v.a, v.b, v.c, v.d, v.e, v.f, v.g, v.h].flatMap (bytesBE 4)

/-- The lowercase hexadecimal digest of a byte string. -/
def hexdigest (message : List UInt8) : String :=
  String.ofList (hexBytes (digestBytes (message.map UInt8.toNat)))

example : hexdigest [97, 98, 99] =
    "ba7816bf8f01cfea414140de5dae2223b00361a396177a9cb410ff61f20015ad" := by
  decide +kernel

end EsscherMarket.Lib.Sha256
