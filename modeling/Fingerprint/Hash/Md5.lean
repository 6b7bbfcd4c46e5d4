import Fingerprint.Hash.Stream

/-! # MD5

Sixty-four steps over the sixteen words of a block, in four rounds; each round has its own mixing
function, its order of words and its shifts. -/
set_option autoImplicit false
namespace Fingerprint.Hash.Md5

/-- The integer part of `2 ^ 32 * |sin i|` for `i` from 1 to 64. -/
def sines : List UInt32 :=
  [0xd76aa478, 0xe8c7b756, 0x242070db, 0xc1bdceee, 0xf57c0faf, 0x4787c62a, 0xa8304613,
   0xfd469501, 0x698098d8, 0x8b44f7af, 0xffff5bb1, 0x895cd7be, 0x6b901122, 0xfd987193,
   0xa679438e, 0x49b40821, 0xf61e2562, 0xc040b340, 0x265e5a51, 0xe9b6c7aa, 0xd62f105d,
   0x02441453, 0xd8a1e681, 0xe7d3fbc8, 0x21e1cde6, 0xc33707d6, 0xf4d50d87, 0x455a14ed,
   0xa9e3e905, 0xfcefa3f8, 0x676f02d9, 0x8d2a4c8a, 0xfffa3942, 0x8771f681, 0x6d9d6122,
   0xfde5380c, 0xa4beea44, 0x4bdecfa9, 0xf6bb4b60, 0xbebfbc70, 0x289b7ec6, 0xeaa127fa,
   0xd4ef3085, 0x04881d05, 0xd9d4d039, 0xe6db99e5, 0x1fa27cf8, 0xc4ac5665, 0xf4292244,
   0x432aff97, 0xab9423a7, 0xfc93a039, 0x655b59c3, 0x8f0ccc92, 0xffeff47d, 0x85845dd1,
   0x6fa87e4f, 0xfe2ce6e0, 0xa3014314, 0x4e0811a1, 0xf7537e82, 0xbd3af235, 0x2ad7d2bb,
   0xeb86d391]

structure Round where
  mix : UInt32 → UInt32 → UInt32 → UInt32
  /-- The word that step `i` of the round takes. -/
  word : Nat → Nat
  shifts : List UInt32

def rounds : List Round :=
  [⟨fun b c d => (b &&& c) ||| (~~~b &&& d), fun i => i, [7, 12, 17, 22]⟩,
   ⟨fun b c d => (d &&& b) ||| (~~~d &&& c), fun i => (5 * i + 1) % 16, [5, 9, 14, 20]⟩,
   ⟨fun b c d => b ^^^ c ^^^ d, fun i => (3 * i + 5) % 16, [4, 11, 16, 23]⟩,
   ⟨fun b c d => c ^^^ (b ||| ~~~d), fun i => 7 * i % 16, [6, 10, 15, 21]⟩]

structure Step where
  mix : UInt32 → UInt32 → UInt32 → UInt32
  word : Nat
  shift : UInt32
  sine : UInt32

def steps : List Step :=
  (rounds.zipIdx.flatMap fun (r, n) =>
    (List.range 16).map fun i =>
      ⟨r.mix, r.word i, r.shifts.getD (i % 4) 0, sines.getD (16 * n + i) 0⟩)

def step (words : Array UInt32) (x : Quad) (s : Step) : Quad :=
  let sum := x.a + s.mix x.b x.c x.d + s.sine + words.getD s.word 0
  ⟨x.d, x.b + rotateLeft sum s.shift, x.b, x.c⟩

def compress (x : Quad) (block : Array UInt8) : Quad :=
  let words := (Array.range 16).map (littleWord block)
  x.add (steps.foldl (step words) x)

def scheme : Scheme Quad where
  blockLength := 64
  start := Quad.start
  compress := compress
  padding := lengthPadding 64 8 littleEndian
  output := Quad.bytes

end Fingerprint.Hash.Md5
