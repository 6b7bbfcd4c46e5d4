import Fingerprint.Hash.Algorithm

/-! # Hashing block by block

A standard describes the hash of a finished message: pad it, cut it into full blocks, fold the
blocks into the chaining value, read the digest off (`Scheme.Digests`). A stream gets there while
the message is still coming in. `Scheme.Follows` ties a stream to what has come in so far: full
blocks are folded, the bytes since the last of them wait, and the length is counted. A byte that
comes in keeps it (`follows_push`), hence so does any way to cut the message (`follows_absorb`), and
since padding ends on a block nothing waits at the end (`digests_digest`). The digests of all
algorithms have their promised lengths (`length_digest`). -/
set_option autoImplicit false
namespace Fingerprint.Hash

section Scheme
variable {σ : Type}

/-- `blocks` are full, and one after another they make up the message. -/
def Scheme.Cuts (s : Scheme σ) (blocks : List (Array UInt8)) (message : Bytes) : Prop :=
  (∀ block ∈ blocks, block.size = s.blockLength) ∧ blocks.flatMap Array.toList = message

def Scheme.foldBlocks (s : Scheme σ) (blocks : List (Array UInt8)) : σ :=
  blocks.foldl s.compress s.start

def Scheme.Digests (s : Scheme σ) (message digest : Bytes) : Prop :=
  ∃ blocks, s.Cuts blocks (message ++ s.padding message.length) ∧
    digest = s.output (s.foldBlocks blocks)

structure Scheme.Follows (s : Scheme σ) (stream : Stream σ) (message : Bytes) : Prop where
  folded : ∃ blocks full, s.Cuts blocks full ∧ stream.state = s.foldBlocks blocks ∧
    message = full ++ stream.pending.toList
  waiting : stream.pending.size < s.blockLength
  counted : stream.length = message.length

/-- Blocks have a length, and padding leads every message up to the end of a block. -/
structure Scheme.Padded (s : Scheme σ) : Prop where
  positive : 0 < s.blockLength
  complete : ∀ length, (length + (s.padding length).length) % s.blockLength = 0

theorem Scheme.cuts_nil (s : Scheme σ) : s.Cuts [] [] := ⟨by simp, rfl⟩

theorem Scheme.cuts_snoc (s : Scheme σ) (blocks : List (Array UInt8)) (message : Bytes)
    (block : Array UInt8) (cut : s.Cuts blocks message) (full : block.size = s.blockLength) :
    s.Cuts (blocks ++ [block]) (message ++ block.toList) := by
  obtain ⟨sizes, joined⟩ := cut
  refine ⟨?_, ?_⟩
  · intro other member
    rcases List.mem_append.mp member with earlier | last
    · exact sizes other earlier
    · rw [List.mem_singleton.mp last]
      exact full
  · simp [joined]

theorem Scheme.cuts_length (s : Scheme σ) (blocks : List (Array UInt8)) (message : Bytes)
    (cut : s.Cuts blocks message) : message.length % s.blockLength = 0 := by
  obtain ⟨sizes, joined⟩ := cut
  subst joined
  induction blocks with
  | nil => simp
  | cons block rest ih =>
      have size := sizes block (List.mem_cons_self ..)
      have tail := ih fun other member => sizes other (List.mem_cons_of_mem _ member)
      rw [List.flatMap_cons, List.length_append, Array.length_toList, size]
      rw [Nat.add_mod_left]
      exact tail

theorem Scheme.foldBlocks_snoc (s : Scheme σ) (blocks : List (Array UInt8))
    (block : Array UInt8) :
    s.foldBlocks (blocks ++ [block]) = s.compress (s.foldBlocks blocks) block := by
  simp [Scheme.foldBlocks]

theorem Scheme.follows_empty (s : Scheme σ) (padded : s.Padded) : s.Follows s.empty [] :=
  ⟨⟨[], [], s.cuts_nil, rfl, rfl⟩, padded.positive, rfl⟩

theorem Scheme.follows_push (s : Scheme σ) (padded : s.Padded) (stream : Stream σ)
    (message : Bytes) (b : UInt8) (follows : s.Follows stream message) :
    s.Follows (s.push stream b) (message ++ [b]) := by
  obtain ⟨state, pending, length⟩ := stream
  obtain ⟨⟨blocks, full, cut, folded, split⟩, waiting, counted⟩ := follows
  dsimp only at folded split waiting counted
  have counted' : length + 1 = (message ++ [b]).length := by simp [counted]
  -- The byte either completes a block, which is folded, or joins those that wait.
  by_cases complete : (pending.push b).size = s.blockLength
  · have pushed : s.push ⟨state, pending, length⟩ b =
        ⟨s.compress state (pending.push b), #[], length + 1⟩ := by
      simp only [Scheme.push, if_pos complete]
    rw [pushed]
    refine ⟨⟨blocks ++ [pending.push b], _, s.cuts_snoc _ _ _ cut complete, ?_, ?_⟩,
      padded.positive, counted'⟩
    · rw [s.foldBlocks_snoc, folded]
    · simp [split]
  · have pushed : s.push ⟨state, pending, length⟩ b = ⟨state, pending.push b, length + 1⟩ := by
      simp only [Scheme.push, if_neg complete]
    rw [pushed]
    refine ⟨⟨blocks, full, cut, folded, ?_⟩, ?_, counted'⟩
    · simp [split]
    · dsimp only
      rw [Array.size_push] at complete ⊢
      omega

theorem Scheme.follows_absorb (s : Scheme σ) (padded : s.Padded) (stream : Stream σ)
    (message more : Bytes) (follows : s.Follows stream message) :
    s.Follows (s.absorb stream more) (message ++ more) := by
  induction more generalizing stream message with
  | nil =>
      rw [List.append_nil]
      exact follows
  | cons b rest ih =>
      have next := ih (s.push stream b) (message ++ [b])
        (s.follows_push padded stream message b follows)
      rw [List.append_assoc] at next
      exact next

/-- On a message that ends on a block nothing waits, and the state is the fold of all its blocks. -/
theorem Scheme.state_of_follows (s : Scheme σ) (stream : Stream σ) (message : Bytes)
    (follows : s.Follows stream message) (complete : message.length % s.blockLength = 0) :
    ∃ blocks, s.Cuts blocks message ∧ stream.state = s.foldBlocks blocks := by
  obtain ⟨⟨blocks, full, cut, folded, split⟩, waiting, -⟩ := follows
  have fullLength := s.cuts_length blocks full cut
  have pendingLength : stream.pending.size % s.blockLength = 0 := by
    rw [split, List.length_append, Nat.add_mod, fullLength, Nat.zero_add, Nat.mod_mod,
      Array.length_toList] at complete
    exact complete
  have none : stream.pending.size = 0 := by
    rw [Nat.mod_eq_of_lt waiting] at pendingLength
    exact pendingLength
  have nothing : stream.pending.toList = [] := by
    rw [← List.length_eq_zero_iff, Array.length_toList]
    exact none
  rw [nothing, List.append_nil] at split
  subst split
  exact ⟨blocks, cut, folded⟩

theorem Scheme.digests_digest (s : Scheme σ) (padded : s.Padded) (message : Bytes) :
    s.Digests message (s.digest message) := by
  have whole : s.Follows (s.absorb s.empty message) message :=
    s.follows_absorb padded s.empty [] message (s.follows_empty padded)
  have counted : (s.absorb s.empty message).length = message.length := whole.counted
  have closed := s.follows_absorb padded _ message (s.padding message.length) whole
  have complete : (message ++ s.padding message.length).length % s.blockLength = 0 := by
    rw [List.length_append]
    exact padded.complete message.length
  obtain ⟨blocks, cut, state⟩ := s.state_of_follows _ _ closed complete
  refine ⟨blocks, cut, ?_⟩
  rw [Scheme.digest, Scheme.finish, counted, state]

theorem Scheme.state_absorb (s : Scheme σ) (P : σ → Prop)
    (kept : ∀ state block, P state → P (s.compress state block)) (stream : Stream σ)
    (message : Bytes) (start : P stream.state) : P (s.absorb stream message).state := by
  induction message generalizing stream with
  | nil => exact start
  | cons b rest ih =>
      apply ih (s.push stream b)
      obtain ⟨state, pending, length⟩ := stream
      simp only [Scheme.push]
      split
      · exact kept _ _ start
      · exact start

theorem Scheme.length_digest (s : Scheme σ) (P : σ → Prop) (count : Nat) (start : P s.start)
    (kept : ∀ state block, P state → P (s.compress state block))
    (output : ∀ state, P state → (s.output state).length = count) (message : Bytes) :
    (s.digest message).length = count :=
  output _ (s.state_absorb P kept _ _ (s.state_absorb P kept s.empty message start))

end Scheme

/-! ## Padding -/

theorem length_littleEndian (count n : Nat) : (littleEndian count n).length = count := by
  induction count generalizing n with
  | zero => rfl
  | succ count ih => simp [littleEndian, ih]

theorem length_bigEndian (count n : Nat) : (bigEndian count n).length = count := by
  rw [bigEndian, List.length_reverse, length_littleEndian]

theorem add_zeros_mod (blockLength used : Nat) (positive : 0 < blockLength) :
    (used + (blockLength - used % blockLength) % blockLength) % blockLength = 0 := by
  have small := Nat.mod_lt used positive
  by_cases aligned : used % blockLength = 0
  · rw [aligned, Nat.sub_zero, Nat.mod_self, Nat.add_zero, aligned]
  · have short : blockLength - used % blockLength < blockLength := by omega
    have whole : used % blockLength + (blockLength - used % blockLength) = blockLength := by omega
    rw [Nat.mod_eq_of_lt short, Nat.add_mod, Nat.mod_eq_of_lt short, whole, Nat.mod_self]

theorem lengthPadding_complete (blockLength count : Nat) (write : Nat → Nat → Bytes)
    (positive : 0 < blockLength) (written : ∀ n, (write count n).length = count) (length : Nat) :
    (length + (lengthPadding blockLength count write length).length) % blockLength = 0 := by
  have size : length + (lengthPadding blockLength count write length).length =
      (length + 1 + count) +
        (blockLength - (length + 1 + count) % blockLength) % blockLength := by
    simp only [lengthPadding, List.length_cons, List.length_append, List.length_replicate, written]
    omega
  rw [size]
  exact add_zeros_mod blockLength (length + 1 + count) positive

theorem Md2.padded : Md2.scheme.Padded := by
  refine ⟨by decide, ?_⟩
  intro length
  simp only [Md2.scheme, List.length_replicate]
  omega

theorem Sha2.scheme_padded {ω : Type} [Word ω] (family : Sha2.Family ω) (start : Sha2.State ω)
    (digestLength : Nat) (positive : 0 < family.wordLength) :
    (Sha2.scheme family start digestLength).Padded := by
  have block : 0 < 16 * family.wordLength := by omega
  exact ⟨block, lengthPadding_complete _ _ bigEndian block (length_bigEndian _)⟩

theorem Algorithm.padded (a : Algorithm) : a.scheme.Padded := by
  cases a with
  | md5 => exact ⟨by decide, lengthPadding_complete 64 8 _ (by decide) (length_littleEndian 8)⟩
  | md4 => exact ⟨by decide, lengthPadding_complete 64 8 _ (by decide) (length_littleEndian 8)⟩
  | sha1 => exact ⟨by decide, lengthPadding_complete 64 8 _ (by decide) (length_bigEndian 8)⟩
  | md2 => exact Md2.padded
  | sha256 => exact Sha2.scheme_padded Sha2.narrow _ _ (by decide)
  | sha384 => exact Sha2.scheme_padded Sha2.wide _ _ (by decide)
  | sha512 => exact Sha2.scheme_padded Sha2.wide _ _ (by decide)

/-! ## Lengths of digests -/

theorem Quad.length_bytes (x : Quad) : x.bytes.length = 16 := by
  simp [Quad.bytes, length_littleEndian]

theorem Sha2.length_bytes {ω : Type} [Word ω] (wordLength : Nat) (x : Sha2.State ω) :
    (x.bytes wordLength).length = 8 * wordLength := by
  simp only [Sha2.State.bytes, List.flatMap_cons, List.flatMap_nil, List.length_append,
    length_bigEndian, List.length_nil]
  omega

theorem size_foldl {τ β : Type} (step : τ × Array UInt8 → β → τ × Array UInt8) (more : Nat)
    (grows : ∀ state b, (step state b).2.size = state.2.size + more) (rest : List β)
    (state : τ × Array UInt8) :
    (rest.foldl step state).2.size = state.2.size + more * rest.length := by
  induction rest generalizing state with
  | nil => rfl
  | cons b rest ih =>
      rw [List.foldl_cons, ih, grows, List.length_cons, Nat.mul_add]
      omega

theorem Md2.size_pass (t : UInt8) (bytes : Array UInt8) :
    (Md2.pass t bytes).2.size = bytes.size := by
  rw [Md2.pass, ← Array.foldl_toList, size_foldl _ 1]
  · rw [Array.length_toList, Nat.one_mul]
    exact Nat.zero_add _
  · intro state b
    exact Array.size_push _

theorem Md2.size_mix (buffer block : Array UInt8) (size : buffer.size = 16) :
    (Md2.mix buffer block).size = 16 := by
  unfold Md2.mix
  simp only [Array.size_extract]
  rw [size_foldl _ 0]
  · simp only [Array.size_append]
    omega
  · intro state i
    exact Md2.size_pass state.1 state.2

theorem Md2.size_compress (x : Md2.State) (block : Array UInt8) (size : x.buffer.size = 16) :
    (Md2.scheme.compress x block).buffer.size = 16 := by
  simp only [Md2.scheme, Md2.compress]
  exact Md2.size_mix x.buffer block size

theorem Md2.length_output (x : Md2.State) (size : x.buffer.size = 16) :
    (Md2.scheme.output x).length = 16 := by
  simp only [Md2.scheme, Array.length_toList]
  exact Md2.size_mix x.buffer x.checksum size

theorem Algorithm.length_digest (a : Algorithm) (message : Bytes) :
    (a.scheme.digest message).length = a.digestLength := by
  cases a with
  | md5 =>
      exact Md5.scheme.length_digest (fun _ => True) 16 trivial (fun _ _ _ => trivial)
        (fun x _ => x.length_bytes) message
  | md4 =>
      exact Md4.scheme.length_digest (fun _ => True) 16 trivial (fun _ _ _ => trivial)
        (fun x _ => x.length_bytes) message
  | sha1 =>
      refine Sha1.scheme.length_digest (fun _ => True) 20 trivial (fun _ _ _ => trivial) ?_ message
      intro x _
      simp [Sha1.scheme, length_bigEndian]
  | md2 =>
      exact Md2.scheme.length_digest (fun x => x.buffer.size = 16) 16 Array.size_replicate
        Md2.size_compress Md2.length_output message
  | sha256 =>
      refine Sha2.sha256.length_digest (fun _ => True) 32 trivial (fun _ _ _ => trivial) ?_ message
      intro x _
      exact List.length_take_of_le (by rw [Sha2.length_bytes]; decide)
  | sha384 =>
      refine Sha2.sha384.length_digest (fun _ => True) 48 trivial (fun _ _ _ => trivial) ?_ message
      intro x _
      exact List.length_take_of_le (by rw [Sha2.length_bytes]; decide)
  | sha512 =>
      refine Sha2.sha512.length_digest (fun _ => True) 64 trivial (fun _ _ _ => trivial) ?_ message
      intro x _
      exact List.length_take_of_le (by rw [Sha2.length_bytes]; decide)

end Fingerprint.Hash
