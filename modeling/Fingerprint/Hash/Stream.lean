import Fingerprint.Text.Basic

/-! # Streaming hashes

A scheme hashes a message block by block: it starts from a fixed chaining value, folds each full
block into it, closes with a padding that depends on the length alone, and reads the digest off the
last chaining value. A stream is a scheme at work on a message of which some part has come in; it
takes the message byte by byte, so where the pieces of the message were cut leaves no trace. -/
set_option autoImplicit false
namespace Fingerprint.Hash

structure Scheme (σ : Type) where
  blockLength : Nat
  start : σ
  compress : σ → Array UInt8 → σ
  /-- What follows a message of the given length, up to the end of a block. -/
  padding : Nat → Bytes
  output : σ → Bytes

structure Stream (σ : Type) where
  state : σ
  /-- The bytes since the last full block. -/
  pending : Array UInt8
  length : Nat

variable {σ : Type}

def Scheme.empty (s : Scheme σ) : Stream σ := ⟨s.start, #[], 0⟩

def Scheme.push (s : Scheme σ) : Stream σ → UInt8 → Stream σ
  | ⟨state, pending, length⟩, b =>
    let pending := pending.push b
    if pending.size = s.blockLength then ⟨s.compress state pending, #[], length + 1⟩
    else ⟨state, pending, length + 1⟩

def Scheme.absorb (s : Scheme σ) (stream : Stream σ) (message : Bytes) : Stream σ :=
  message.foldl s.push stream

/-- The digest of what has come in; the stream itself can go on. -/
def Scheme.finish (s : Scheme σ) (stream : Stream σ) : Bytes :=
  s.output (s.absorb stream (s.padding stream.length)).state

def Scheme.digest (s : Scheme σ) (message : Bytes) : Bytes := s.finish (s.absorb s.empty message)

theorem Scheme.absorb_append (s : Scheme σ) (stream : Stream σ) (a b : Bytes) :
    s.absorb stream (a ++ b) = s.absorb (s.absorb stream a) b := List.foldl_append

def littleEndian : Nat → Nat → Bytes
  | 0, _ => []
  | count + 1, n => .ofNat (n % 256) :: littleEndian count (n / 256)

def bigEndian (count n : Nat) : Bytes := (littleEndian count n).reverse

/-- A one bit, zeros, and the length in bits as `count` bytes, up to the end of a block. -/
def lengthPadding (blockLength count : Nat) (write : Nat → Nat → Bytes) (length : Nat) :
    Bytes :=
  let used := (length + 1 + count) % blockLength
  let zeros := (blockLength - used) % blockLength
  0x80 :: (List.replicate zeros 0 ++ write count (8 * length))

def byteAt (block : Array UInt8) (i : Nat) : Nat := (block.getD i 0).toNat

def littleWord (block : Array UInt8) (i : Nat) : UInt32 :=
  .ofNat (byteAt block (4 * i) + byteAt block (4 * i + 1) * 0x100 +
    byteAt block (4 * i + 2) * 0x10000 + byteAt block (4 * i + 3) * 0x1000000)

def rotateLeft (x n : UInt32) : UInt32 := (x <<< n) ||| (x >>> (32 - n))

structure Quad where
  a : UInt32
  b : UInt32
  c : UInt32
  d : UInt32

namespace Quad

def start : Quad := ⟨0x67452301, 0xefcdab89, 0x98badcfe, 0x10325476⟩

def add (x y : Quad) : Quad := ⟨x.a + y.a, x.b + y.b, x.c + y.c, x.d + y.d⟩

def bytes (x : Quad) : Bytes :=
  [x.a, x.b, x.c, x.d].flatMap fun w => littleEndian 4 w.toNat

end Quad
end Fingerprint.Hash
