import Fingerprint.Hash.Md2
import Fingerprint.Hash.Md4
import Fingerprint.Hash.Md5
import Fingerprint.Hash.Sha2
import Fingerprint.Text.Quoted

/-! # The standard algorithms

The seven algorithms with their names, the length of their digests, and a running computation of
any of them. -/
set_option autoImplicit false
namespace Fingerprint.Hash

inductive Algorithm where
  | md5
  | sha1
  | sha256
  | md2
  | md4
  | sha384
  | sha512
deriving DecidableEq

namespace Algorithm

def core : List Algorithm := [md5, sha1, sha256]

def further : List Algorithm := [md2, md4, sha384, sha512]

def name : Algorithm → Text
  | md5 => "md5"
  | sha1 => "sha1"
  | sha256 => "sha256"
  | md2 => "md2"
  | md4 => "md4"
  | sha384 => "sha384"
  | sha512 => "sha512"

def digestLength : Algorithm → Nat
  | md5 | md2 | md4 => 16
  | sha1 => 20
  | sha256 => 32
  | sha384 => 48
  | sha512 => 64

def isExtended : Algorithm → Bool
  | md5 | sha1 | sha256 => false
  | md2 | md4 | sha384 | sha512 => true

def State : Algorithm → Type
  | md5 | md4 => Quad
  | sha1 => Sha1.State
  | sha256 => Sha2.State UInt32
  | md2 => Md2.State
  | sha384 | sha512 => Sha2.State UInt64

def scheme : (a : Algorithm) → Scheme a.State
  | md5 => Md5.scheme
  | sha1 => Sha1.scheme
  | sha256 => Sha2.sha256
  | md2 => Md2.scheme
  | md4 => Md4.scheme
  | sha384 => Sha2.sha384
  | sha512 => Sha2.sha512

def hexDigest (a : Algorithm) (message : Bytes) : Text := Bytes.hex (a.scheme.digest message)

end Algorithm

structure Running where
  algorithm : Algorithm
  stream : Stream algorithm.State

namespace Running

def start (a : Algorithm) : Running := ⟨a, a.scheme.empty⟩

def absorb (r : Running) (message : Bytes) : Running :=
  ⟨r.algorithm, r.algorithm.scheme.absorb r.stream message⟩

def hexDigest (r : Running) : Text := Bytes.hex (r.algorithm.scheme.finish r.stream)

end Running
end Fingerprint.Hash
