import Fingerprint.Hash.Stream

/-! # SHA-1

The sixteen words of a block are extended to eighty; four rounds of twenty steps, each with its own
mixing function and constant, take one word a step. -/
set_option autoImplicit false
namespace Fingerprint.Hash

def bigWord (block : Array UInt8) (i : Nat) : UInt32 :=
  .ofNat (byteAt block (4 * i) * 0x1000000 + byteAt block (4 * i + 1) * 0x10000 +
    byteAt block (4 * i + 2) * 0x100 + byteAt block (4 * i + 3))

namespace Sha1

structure State where
  a : UInt32
  b : UInt32
  c : UInt32
  d : UInt32
  e : UInt32

def start : State := ⟨0x67452301, 0xefcdab89, 0x98badcfe, 0x10325476, 0xc3d2e1f0⟩

def extend (words : Array UInt32) (i : Nat) : Array UInt32 :=
  words.push (rotateLeft (words.getD (i - 3) 0 ^^^ words.getD (i - 8) 0 ^^^
    words.getD (i - 14) 0 ^^^ words.getD (i - 16) 0) 1)

def schedule (block : Array UInt8) : Array UInt32 :=
  (List.range' 16 64).foldl extend ((Array.range 16).map (bigWord block))

structure Round where
  mix : UInt32 → UInt32 → UInt32 → UInt32
  constant : UInt32

def rounds : List Round :=
  [⟨fun b c d => (b &&& c) ||| (~~~b &&& d), 0x5a827999⟩,
   ⟨fun b c d => b ^^^ c ^^^ d, 0x6ed9eba1⟩,
   ⟨fun b c d => (b &&& c) ||| (b &&& d) ||| (c &&& d), 0x8f1bbcdc⟩,
   ⟨fun b c d => b ^^^ c ^^^ d, 0xca62c1d6⟩]

def steps : List (Round × Nat) :=
  rounds.zipIdx.flatMap fun (r, n) => (List.range' (20 * n) 20).map fun i => (r, i)

def step (words : Array UInt32) (x : State) : Round × Nat → State
  | (r, i) =>
    let t := rotateLeft x.a 5 + r.mix x.b x.c x.d + x.e + r.constant + words.getD i 0
    ⟨t, x.a, rotateLeft x.b 30, x.c, x.d⟩

def State.add (x y : State) : State :=
  ⟨x.a + y.a, x.b + y.b, x.c + y.c, x.d + y.d, x.e + y.e⟩

def compress (x : State) (block : Array UInt8) : State :=
  x.add (steps.foldl (step (schedule block)) x)

def scheme : Scheme State where
  blockLength := 64
  start := start
  compress := compress
  padding := lengthPadding 64 8 bigEndian
  output := fun x => [x.a, x.b, x.c, x.d, x.e].flatMap fun w => bigEndian 4 w.toNat

end Sha1
end Fingerprint.Hash
