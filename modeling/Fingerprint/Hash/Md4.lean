import Fingerprint.Hash.Stream

/-! # MD4

Forty-eight steps over the sixteen words of a block, in three rounds; each round has its own mixing
function, constant, order of words and shifts. -/
set_option autoImplicit false
namespace Fingerprint.Hash.Md4

structure Round where
  mix : UInt32 → UInt32 → UInt32 → UInt32
  constant : UInt32
  words : List Nat
  shifts : List UInt32

def rounds : List Round :=
  [⟨fun b c d => (b &&& c) ||| (~~~b &&& d), 0, List.range 16, [3, 7, 11, 19]⟩,
   ⟨fun b c d => (b &&& c) ||| (b &&& d) ||| (c &&& d), 0x5a827999,
    [0, 4, 8, 12, 1, 5, 9, 13, 2, 6, 10, 14, 3, 7, 11, 15], [3, 5, 9, 13]⟩,
   ⟨fun b c d => b ^^^ c ^^^ d, 0x6ed9eba1,
    [0, 8, 4, 12, 2, 10, 6, 14, 1, 9, 5, 13, 3, 11, 7, 15], [3, 9, 11, 15]⟩]

structure Step where
  mix : UInt32 → UInt32 → UInt32 → UInt32
  constant : UInt32
  word : Nat
  shift : UInt32

def steps : List Step :=
  rounds.flatMap fun r =>
    r.words.zipIdx.map fun (word, i) => ⟨r.mix, r.constant, word, r.shifts.getD (i % 4) 0⟩

def step (words : Array UInt32) (x : Quad) (s : Step) : Quad :=
  let sum := x.a + s.mix x.b x.c x.d + words.getD s.word 0 + s.constant
  ⟨x.d, rotateLeft sum s.shift, x.b, x.c⟩

def compress (x : Quad) (block : Array UInt8) : Quad :=
  let words := (Array.range 16).map (littleWord block)
  x.add (steps.foldl (step words) x)

def scheme : Scheme Quad where
  blockLength := 64
  start := Quad.start
  compress := compress
  padding := lengthPadding 64 8 littleEndian
  output := Quad.bytes

end Fingerprint.Hash.Md4
