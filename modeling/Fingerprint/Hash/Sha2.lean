import Fingerprint.Hash.Sha1

/-! # SHA-2

One construction over two word sizes: 32-bit words and 64 steps, and 64-bit words and 80 steps. The
constants of the steps are the fractions of the cube roots of the first primes, and the starting
values fractions of square roots of primes. -/
set_option autoImplicit false
namespace Fingerprint.Hash

class Word (ω : Type) extends Add ω, AndOp ω, XorOp ω, Complement ω, Inhabited ω where
  rotateRight : ω → ω → ω
  shiftRight : ω → ω → ω
  toNat : ω → Nat

@[inline] def rotateRight32 (x n : UInt32) : UInt32 := (x >>> n) ||| (x <<< (32 - n))

@[inline] def rotateRight64 (x n : UInt64) : UInt64 := (x >>> n) ||| (x <<< (64 - n))

instance : Word UInt32 := ⟨rotateRight32, (· >>> ·), UInt32.toNat⟩

instance : Word UInt64 := ⟨rotateRight64, (· >>> ·), UInt64.toNat⟩

namespace Sha2

structure Family (ω : Type) where
  wordLength : Nat
  read : Array UInt8 → Nat → ω
  constants : List ω
  /-- The two rotations and the shift of each function that extends the words of a block. -/
  extend0 : ω × ω × ω
  extend1 : ω × ω × ω
  /-- The three rotations of each function that mixes the chaining words. -/
  mix0 : ω × ω × ω
  mix1 : ω × ω × ω

structure State (ω : Type) where
  a : ω
  b : ω
  c : ω
  d : ω
  e : ω
  f : ω
  g : ω
  h : ω

variable {ω : Type} [Word ω]

@[inline] def small (r : ω × ω × ω) (x : ω) : ω :=
  Word.rotateRight x r.1 ^^^ Word.rotateRight x r.2.1 ^^^ Word.shiftRight x r.2.2

@[inline] def large (r : ω × ω × ω) (x : ω) : ω :=
  Word.rotateRight x r.1 ^^^ Word.rotateRight x r.2.1 ^^^ Word.rotateRight x r.2.2

@[specialize] def extend (family : Family ω) (words : Array ω) (i : Nat) : Array ω :=
  words.push (small family.extend1 (words.getD (i - 2) default) + words.getD (i - 7) default +
    small family.extend0 (words.getD (i - 15) default) + words.getD (i - 16) default)

@[specialize] def schedule (family : Family ω) (block : Array UInt8) : Array ω :=
  (List.range' 16 (family.constants.length - 16)).foldl (extend family)
    ((Array.range 16).map (family.read block))

@[specialize] def step (family : Family ω) (x : State ω) (constant word : ω) : State ω :=
  let choice := (x.e &&& x.f) ^^^ (~~~x.e &&& x.g)
  let majority := (x.a &&& x.b) ^^^ (x.a &&& x.c) ^^^ (x.b &&& x.c)
  let t1 := x.h + large family.mix1 x.e + choice + constant + word
  let t2 := large family.mix0 x.a + majority
  ⟨t1 + t2, x.a, x.b, x.c, x.d + t1, x.e, x.f, x.g⟩

@[specialize] def steps (family : Family ω) (x : State ω) : List ω → List ω → State ω
  | constant :: constants, word :: words =>
    steps family (step family x constant word) constants words
  | _, _ => x

def State.add (x y : State ω) : State ω :=
  ⟨x.a + y.a, x.b + y.b, x.c + y.c, x.d + y.d, x.e + y.e, x.f + y.f, x.g + y.g, x.h + y.h⟩

def State.bytes (wordLength : Nat) (x : State ω) : Bytes :=
  [x.a, x.b, x.c, x.d, x.e, x.f, x.g, x.h].flatMap fun w => bigEndian wordLength (Word.toNat w)

@[specialize] def compress (family : Family ω) (x : State ω) (block : Array UInt8) : State ω :=
  x.add (steps family x family.constants (schedule family block).toList)

@[specialize] def scheme (family : Family ω) (start : State ω) (digestLength : Nat) :
    Scheme (State ω) where
  blockLength := 16 * family.wordLength
  start := start
  compress := compress family
  padding := lengthPadding (16 * family.wordLength) (2 * family.wordLength) bigEndian
  output := fun x => (x.bytes family.wordLength).take digestLength

def narrow : Family UInt32 where
  wordLength := 4
  read := bigWord
  constants :=
    [0x428a2f98, 0x71374491, 0xb5c0fbcf, 0xe9b5dba5, 0x3956c25b, 0x59f111f1, 0x923f82a4,
     0xab1c5ed5, 0xd807aa98, 0x12835b01, 0x243185be, 0x550c7dc3, 0x72be5d74, 0x80deb1fe,
     0x9bdc06a7, 0xc19bf174, 0xe49b69c1, 0xefbe4786, 0x0fc19dc6, 0x240ca1cc, 0x2de92c6f,
     0x4a7484aa, 0x5cb0a9dc, 0x76f988da, 0x983e5152, 0xa831c66d, 0xb00327c8, 0xbf597fc7,
     0xc6e00bf3, 0xd5a79147, 0x06ca6351, 0x14292967, 0x27b70a85, 0x2e1b2138, 0x4d2c6dfc,
     0x53380d13, 0x650a7354, 0x766a0abb, 0x81c2c92e, 0x92722c85, 0xa2bfe8a1, 0xa81a664b,
     0xc24b8b70, 0xc76c51a3, 0xd192e819, 0xd6990624, 0xf40e3585, 0x106aa070, 0x19a4c116,
     0x1e376c08, 0x2748774c, 0x34b0bcb5, 0x391c0cb3, 0x4ed8aa4a, 0x5b9cca4f, 0x682e6ff3,
     0x748f82ee, 0x78a5636f, 0x84c87814, 0x8cc70208, 0x90befffa, 0xa4506ceb, 0xbef9a3f7,
     0xc67178f2]
  extend0 := (7, 18, 3)
  extend1 := (17, 19, 10)
  mix0 := (2, 13, 22)
  mix1 := (6, 11, 25)

def bigWord64 (block : Array UInt8) (i : Nat) : UInt64 :=
  .ofNat ((bigWord block (2 * i)).toNat * 0x100000000 + (bigWord block (2 * i + 1)).toNat)

def wide : Family UInt64 where
  wordLength := 8
  read := bigWord64
  constants :=
    [0x428a2f98d728ae22, 0x7137449123ef65cd, 0xb5c0fbcfec4d3b2f, 0xe9b5dba58189dbbc,
     0x3956c25bf348b538, 0x59f111f1b605d019, 0x923f82a4af194f9b, 0xab1c5ed5da6d8118,
     0xd807aa98a3030242, 0x12835b0145706fbe, 0x243185be4ee4b28c, 0x550c7dc3d5ffb4e2,
     0x72be5d74f27b896f, 0x80deb1fe3b1696b1, 0x9bdc06a725c71235, 0xc19bf174cf692694,
     0xe49b69c19ef14ad2, 0xefbe4786384f25e3, 0x0fc19dc68b8cd5b5, 0x240ca1cc77ac9c65,
     0x2de92c6f592b0275, 0x4a7484aa6ea6e483, 0x5cb0a9dcbd41fbd4, 0x76f988da831153b5,
     0x983e5152ee66dfab, 0xa831c66d2db43210, 0xb00327c898fb213f, 0xbf597fc7beef0ee4,
     0xc6e00bf33da88fc2, 0xd5a79147930aa725, 0x06ca6351e003826f, 0x142929670a0e6e70,
     0x27b70a8546d22ffc, 0x2e1b21385c26c926, 0x4d2c6dfc5ac42aed, 0x53380d139d95b3df,
     0x650a73548baf63de, 0x766a0abb3c77b2a8, 0x81c2c92e47edaee6, 0x92722c851482353b,
     0xa2bfe8a14cf10364, 0xa81a664bbc423001, 0xc24b8b70d0f89791, 0xc76c51a30654be30,
     0xd192e819d6ef5218, 0xd69906245565a910, 0xf40e35855771202a, 0x106aa07032bbd1b8,
     0x19a4c116b8d2d0c8, 0x1e376c085141ab53, 0x2748774cdf8eeb99, 0x34b0bcb5e19b48a8,
     0x391c0cb3c5c95a63, 0x4ed8aa4ae3418acb, 0x5b9cca4f7763e373, 0x682e6ff3d6b2b8a3,
     0x748f82ee5defb2fc, 0x78a5636f43172f60, 0x84c87814a1f0ab72, 0x8cc702081a6439ec,
     0x90befffa23631e28, 0xa4506cebde82bde9, 0xbef9a3f7b2c67915, 0xc67178f2e372532b,
     0xca273eceea26619c, 0xd186b8c721c0c207, 0xeada7dd6cde0eb1e, 0xf57d4f7fee6ed178,
     0x06f067aa72176fba, 0x0a637dc5a2c898a6, 0x113f9804bef90dae, 0x1b710b35131c471b,
     0x28db77f523047d84, 0x32caab7b40c72493, 0x3c9ebe0a15c9bebc, 0x431d67c49c100d4c,
     0x4cc5d4becb3e42b6, 0x597f299cfc657e2a, 0x5fcb6fab3ad6faec, 0x6c44198c4a475817]
  extend0 := (1, 8, 7)
  extend1 := (19, 61, 6)
  mix0 := (28, 34, 39)
  mix1 := (14, 18, 41)

def sha256 : Scheme (State UInt32) :=
  scheme narrow ⟨0x6a09e667, 0xbb67ae85, 0x3c6ef372, 0xa54ff53a,
    0x510e527f, 0x9b05688c, 0x1f83d9ab, 0x5be0cd19⟩ 32

def sha384 : Scheme (State UInt64) :=
  scheme wide ⟨0xcbbb9d5dc1059ed8, 0x629a292a367cd507, 0x9159015a3070dd17,
    0x152fecd8f70e5939, 0x67332667ffc00b31, 0x8eb44a8768581511,
    0xdb0c2e0d64f98fa7, 0x47b5481dbefa4fa4⟩ 48

def sha512 : Scheme (State UInt64) :=
  scheme wide ⟨0x6a09e667f3bcc908, 0xbb67ae8584caa73b, 0x3c6ef372fe94f82b,
    0xa54ff53a5f1d36f1, 0x510e527fade682d1, 0x9b05688c2b3e6c1f,
    0x1f83d9abfb41bd6b, 0x5be0cd19137e2179⟩ 64

end Sha2
end Fingerprint.Hash
