import Fingerprint.Proofs.Service.SinglePass

/-! # What happens to files

A call for a file does nothing to it unless everything else is in order. Then it reads the file into
hashers that take in what the descriptors in use do (`ReadsFile`); descriptors do so, and services for
one algorithm and for several at once. From this alone follows what happens to the file: it is opened
once, read until a reply is empty, meets a fault or brings in a piece that some hasher does not take,
and closed last (`FileTrace`). Where every piece is taken in, the file alone decides what happens to
it (`FileTrace.eq_of_unfailing`). -/
set_option autoImplicit false
namespace Fingerprint
variable {η : Type}

namespace Descriptor

def fed (d : Descriptor η) (vs : List Value) : Except Error η :=
  d.newHasher >>= fun h => vs.foldlM d.update h

def TakesIn (d : Descriptor η) (vs : List Value) : Prop := ∃ h, d.fed vs = .ok h

structure Opens (d : Descriptor η) (path size : Value) (t : Text) : Prop where
  resolved : Input.path path = .ok t
  positive : size.nonpositive = .ok false
  available : ∃ h, d.newHasher = .ok h

theorem TakesIn.of_append (d : Descriptor η) (vs more : List Value)
    (whole : d.TakesIn (vs ++ more)) : d.TakesIn vs := by
  obtain ⟨h, fed⟩ := whole
  obtain ⟨h₀, made, run⟩ := (bind_eq_ok_iff _ _ _).mp fed
  rw [List.foldlM_append, bind_eq_ok_iff] at run
  obtain ⟨h₁, first, -⟩ := run
  exact ⟨h₁, (bind_eq_ok_iff _ _ _).mpr ⟨h₀, made, first⟩⟩

theorem takesIn_iff (d : Descriptor η) (h : η) (made : d.newHasher = .ok h) (vs : List Value) :
    d.TakesIn vs ↔ ∃ h', vs.foldlM d.update h = .ok h' := by
  unfold TakesIn fed
  rw [made]
  rfl

theorem opens_iff (d : Descriptor η) (path size : Value) (t : Text) :
    d.Opens path size t ↔ ∃ h, d.prepareFile path size = .ok (t, h) := by
  constructor
  · rintro ⟨resolved, positive, h, made⟩
    refine ⟨h, ?_⟩
    unfold prepareFile
    rw [resolved, positive, made]
    rfl
  · rintro ⟨h, prepared⟩
    obtain ⟨resolved, positive, made⟩ := d.prepareFile_eq_ok path size t h prepared
    exact ⟨resolved, positive, h, made⟩

end Descriptor

/-- All descriptors in use take these pieces in, and one of them does not take the next, if any. -/
structure TakenBy (used : Descriptor η → Prop) (pieces taken : List Value) : Prop where
  all : ∀ d, used d → d.TakesIn taken
  ends : pieces = taken ∨
    ∃ v rest, pieces = taken ++ v :: rest ∧ ∃ d, used d ∧ ¬ d.TakesIn (taken ++ [v])

theorem TakenBy.eq_of_unfailing {used : Descriptor η → Prop} (pieces taken : List Value)
    (takes : TakenBy used pieces taken) (unfailing : ∀ d, used d → d.TakesIn pieces) :
    pieces = taken := by
  rcases takes.ends with all | ⟨v, rest, split, d, isUsed, refused⟩
  · exact all
  · -- Who takes all pieces in takes in the first of them, so nobody refuses `v`.
    have whole := unfailing d isUsed
    rw [split, List.append_cons] at whole
    exact absurd (whole.of_append d _ _) refused

/-- What happens to the file at the path that is ready to be opened: nothing if there is none. Each
piece that is taken in takes one read, and one more read ends reading. -/
inductive FileTrace (ready : Text → Prop) (used : Descriptor η → Prop) (sources : Text → Source)
    (size : Value) : List FileEvent → Prop where
  | unopened (never : ∀ t, ¬ ready t) : FileTrace ready used sources size []
  | refused (t : Text) (opened : ready t) (f : Fault) (refuses : sources t = .refused f) :
      FileTrace ready used sources size [.opened t "rb"]
  | closed (t : Text) (opened : ready t) (opens : (sources t).Opens) (taken : List Value)
      (takes : TakenBy used (Reply.pieces ((sources t).replies size)) taken) :
      FileTrace ready used sources size
        (.opened t "rb" :: (List.replicate (taken.length + 1) (.read size) ++ [.closed]))

def Source.wholeTrace (source : Source) (path : Text) (size : Value) : List FileEvent :=
  match source with
  | .refused _ => [.opened path "rb"]
  | _ => .opened path "rb" ::
      (List.replicate ((Reply.pieces (source.replies size)).length + 1) (.read size) ++ [.closed])

/-- The call reads the file at the path that is ready into a state that takes in what the
descriptors in use do, and makes its result of it. It opens nothing if no path is ready. -/
inductive ReadsFile {α : Type} (ready : Text → Prop) (used : Descriptor η → Prop)
    (sources : Text → Source) (size : Value) : Except Error α × List FileEvent → Prop where
  | unready (never : ∀ t, ¬ ready t) (result : Except Error α) :
      ReadsFile ready used sources size (result, [])
  | reads {σ : Type} (t : Text) (opened : ready t) (alone : ∀ t', ready t' → t' = t)
      (step : σ → Value → Except Error σ) (s : σ)
      (agrees : ∀ vs, (∃ s', vs.foldlM step s = .ok s') ↔ ∀ d, used d → d.TakesIn vs)
      (finish : σ → Except Error α) : ReadsFile ready used sources size
        ((consume (sources t) t size step s).1 >>= finish, (consume (sources t) t size step s).2)

section
variable {α : Type} {ready ready' : Text → Prop} {used used' : Descriptor η → Prop}
  {sources : Text → Source} {size : Value} {call : Except Error α × List FileEvent}

theorem ReadsFile.congr (sameReady : ∀ t, ready t ↔ ready' t) (sameUsed : ∀ d, used d ↔ used' d)
    (reads : ReadsFile ready used sources size call) :
    ReadsFile ready' used' sources size call := by
  rw [← show ready = ready' from funext fun t => propext (sameReady t),
    ← show used = used' from funext fun d => propext (sameUsed d)]
  exact reads

theorem FileTrace.eq_of_unfailing (events : List FileEvent) (t : Text)
    (trace : FileTrace ready used sources size events) (opened : ready t)
    (only : ∀ t', ready t' → t' = t)
    (unfailing : ∀ d, used d → d.TakesIn (Reply.pieces ((sources t).replies size))) :
    events = (sources t).wholeTrace t size := by
  cases trace with
  | unopened never => exact absurd opened (never t)
  | refused t' opened' f refuses =>
      rw [only t' opened'] at refuses ⊢
      rw [refuses]
      rfl
  | closed t' opened' opens taken takes =>
      rw [only t' opened'] at opens takes ⊢
      rw [← takes.eq_of_unfailing _ _ unfailing]
      cases source : sources t with
      | refused f => exact absurd source (opens f)
      | stored content => rfl
      | scripted replies => rfl

theorem ReadsFile.alone (reads : ReadsFile ready used sources size call) (t : Text)
    (opened : ready t) : ∀ t', ready t' → t' = t := by
  cases reads with
  | unready never => exact absurd opened (never t)
  | reads t₀ _ alone => exact fun t' other => (alone t' other).trans (alone t opened).symm

theorem ReadsFile.trace (reads : ReadsFile ready used sources size call) :
    FileTrace ready used sources size call.2 := by
  cases reads with
  | unready never => exact .unopened never
  | reads t opened _ step s agrees finish =>
      by_cases refused : ∃ f, sources t = .refused f
      · obtain ⟨f, refuses⟩ := refused
        rw [refuses]
        exact .refused t opened f refuses
      · have opens : (sources t).Opens := fun f same => refused ⟨f, same⟩
        obtain ⟨taken, counted, fed, ends⟩ := reads_of_feed step s 0 ((sources t).replies size)
        rw [consume_events step _ t size s opens, counted, Nat.zero_add]
        -- The last read brought in the piece that was not taken, or it ended the file.
        refine .closed t opened opens taken ⟨(agrees taken).mp fed, ?_⟩
        rcases ends with all | ⟨v, rest, e, split, failed⟩
        · exact Or.inl all
        · refine Or.inr ⟨v, rest, split, ?_⟩
          have never : ¬ ∀ d, used d → d.TakesIn (taken ++ [v]) := by
            intro each
            obtain ⟨s', run⟩ := (agrees (taken ++ [v])).mpr each
            rw [failed] at run
            cases run
          simpa only [not_forall, exists_prop] using never

end

theorem Descriptor.reads_computeFile (d : Descriptor η) (sources : Text → Source)
    (path size : Value) :
    ReadsFile (d.Opens path size) (· = d) sources size (d.computeFile sources path size) := by
  unfold computeFile
  cases prepared : d.prepareFile path size with
  | error e =>
      refine .unready (fun t opens => ?_) _
      obtain ⟨h, ready⟩ := (d.opens_iff path size t).mp opens
      rw [prepared] at ready
      cases ready
  | ok opened =>
      obtain ⟨t, h⟩ := opened
      have ready := (d.opens_iff path size t).mpr ⟨h, prepared⟩
      obtain ⟨-, -, made⟩ := d.prepareFile_eq_ok path size t h prepared
      have alone (t' : Text) (opens : d.Opens path size t') : t' = t :=
        Except.ok.inj (opens.resolved.symm.trans ready.resolved)
      refine .reads t ready alone d.update h (fun vs => ?_) d.finalize
      rw [← d.takesIn_iff h made]
      simp only [forall_eq]

namespace Service
variable (s : Service η)

def OpensFor (algorithm path : Value) (t : Text) : Prop :=
  ∃ d, s.catalog.get? algorithm = some d ∧ d.Opens path s.chunkSize t

structure OpensForAll (path algorithms : Value) (t : Text) : Prop where
  listed : ∃ members, algorithms.members = .ok members ∧
    ∀ a ∈ members, ∃ d, s.catalog.get? a = some d ∧ ∃ h, d.newHasher = .ok h
  resolved : Input.path path = .ok t

def Uses (algorithms : Value) (d : Descriptor η) : Prop :=
  ∃ members, algorithms.members = .ok members ∧ ∃ a ∈ members, s.catalog.get? a = some d

theorem reads_computeFile (sources : Text → Source) (algorithm path : Value) :
    ReadsFile (s.OpensFor algorithm path) (s.catalog.get? algorithm = some ·) sources s.chunkSize
      (s.computeFile sources algorithm path) := by
  unfold computeFile
  cases looked : s.require algorithm with
  | error e =>
      refine .unready ?_ _
      rintro t ⟨d, found, -⟩
      rw [(s.require_eq_ok_iff algorithm d).mpr found] at looked
      cases looked
  | ok d =>
      have found := (s.require_eq_ok_iff algorithm d).mp looked
      refine (d.reads_computeFile sources path s.chunkSize).congr ?_ ?_
      · simp [OpensFor, found]
      · simp [found, eq_comm]

/-! ## Several algorithms -/

theorem prepareMany_eq_ok_iff (path algorithms : Value) (t : Text)
    (hashers : List (Descriptor η × η)) :
    s.prepareMany path algorithms = .ok (t, hashers) ↔ ∃ members ds,
      algorithms.members = .ok members ∧ s.requireAll [] members = .ok ds ∧
        Input.path path = .ok t ∧ newHashers ds = .ok hashers := by
  unfold prepareMany
  simp only [bind_eq_ok_iff, mapError_eq_ok_iff]
  constructor
  · rintro ⟨members, listed, ds, looked, t', resolved, hs, made, same⟩
    cases same
    exact ⟨members, ds, listed, looked, resolved, made⟩
  · rintro ⟨members, ds, listed, looked, resolved, made⟩
    exact ⟨members, listed, ds, looked, t, resolved, hashers, made, rfl⟩

theorem opensForAll_iff (path algorithms : Value) (t : Text) :
    s.OpensForAll path algorithms t ↔
      ∃ hashers, s.prepareMany path algorithms = .ok (t, hashers) := by
  simp only [prepareMany_eq_ok_iff]
  constructor
  · rintro ⟨⟨members, listed, each⟩, resolved⟩
    obtain ⟨ds, looked⟩ := (s.requireAll_returns_iff members).mpr fun a member => by
      obtain ⟨d, found, -⟩ := each a member
      exact ⟨d, found⟩
    obtain ⟨hashers, made⟩ := (lockstep_newHashers.returns_iff ⟨[], rfl⟩ ds).mpr fun d member => by
      obtain ⟨a, mentioned, found⟩ := (s.mem_requireAll_iff ds members looked d).mp member
      obtain ⟨d', found', h, made⟩ := each a mentioned
      rw [found] at found'
      cases found'
      exact ⟨(d, h), (map_eq_ok_iff _ _ _).mpr ⟨h, made, rfl⟩⟩
    exact ⟨hashers, members, ds, listed, looked, resolved, made⟩
  · rintro ⟨hashers, members, ds, listed, looked, resolved, made⟩
    refine ⟨⟨members, listed, fun a mentioned => ?_⟩, resolved⟩
    obtain ⟨d, found⟩ := (s.requireAll_returns_iff members).mp ⟨ds, looked⟩ a mentioned
    have member := (s.mem_requireAll_iff ds members looked d).mpr ⟨a, mentioned, found⟩
    obtain ⟨_, alone⟩ := (lockstep_newHashers.returns_iff ⟨[], rfl⟩ ds).mp ⟨hashers, made⟩ d member
    obtain ⟨h, available, -⟩ := (map_eq_ok_iff _ _ _).mp alone
    exact ⟨d, found, h, available⟩

theorem takeAll_nil (vs : List Value) :
    vs.foldlM (fun hs piece => updateAll (η := η) piece hs) [] = .ok [] := by
  induction vs with
  | nil => rfl
  | cons v rest ih =>
      rw [List.foldlM_cons]
      exact ih

theorem takeAll_returns_iff (ds : List (Descriptor η)) (hashers : List (Descriptor η × η))
    (made : newHashers ds = .ok hashers) (vs : List Value) :
    (∃ hs, vs.foldlM (fun hs piece => updateAll piece hs) hashers = .ok hs) ↔
      ∀ d ∈ ds, d.TakesIn vs := by
  have chain := lockstep_newHashers.bind (lockstep_takeAll (η := η) vs)
  have whole := chain.returns_iff ⟨[], takeAll_nil vs⟩ ds
  rw [made] at whole
  refine whole.trans (forall₂_congr fun d _ => ?_)
  unfold Descriptor.TakesIn Descriptor.fed
  simp only [bind_eq_ok_iff, map_eq_ok_iff]
  constructor
  · rintro ⟨_, _, ⟨h₀, made, rfl⟩, h, fed, -⟩
    exact ⟨h, h₀, made, fed⟩
  · rintro ⟨h, h₀, made, fed⟩
    exact ⟨(d, h), (d, h₀), ⟨h₀, made, rfl⟩, h, fed, rfl⟩

theorem reads_computeFileMany (sources : Text → Source) (path algorithms : Value) :
    ReadsFile (s.OpensForAll path algorithms) (s.Uses algorithms) sources s.chunkSize
      (s.computeFileMany sources path algorithms) := by
  unfold computeFileMany
  cases prepared : s.prepareMany path algorithms with
  | error e =>
      refine .unready (fun t opens => ?_) _
      obtain ⟨hashers, ready⟩ := (s.opensForAll_iff path algorithms t).mp opens
      rw [prepared] at ready
      cases ready
  | ok opened =>
      obtain ⟨t, hashers⟩ := opened
      have ready := (s.opensForAll_iff path algorithms t).mpr ⟨hashers, prepared⟩
      obtain ⟨members, ds, listed, looked, -, made⟩ :=
        (s.prepareMany_eq_ok_iff path algorithms t hashers).mp prepared
      have uses (d : Descriptor η) : d ∈ ds ↔ s.Uses algorithms d := by
        rw [s.mem_requireAll_iff ds members looked, Uses, listed]
        simp
      have alone (t' : Text) (opens : s.OpensForAll path algorithms t') : t' = t :=
        Except.ok.inj (opens.resolved.symm.trans ready.resolved)
      refine .reads t ready alone (fun hs piece => updateAll piece hs) hashers (fun vs => ?_)
        finalizeAll
      rw [takeAll_returns_iff ds hashers made]
      exact forall_congr' fun d => imp_congr_left (uses d)

end Service
end Fingerprint
