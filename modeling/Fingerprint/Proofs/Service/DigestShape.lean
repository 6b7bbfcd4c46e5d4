import Fingerprint.Proofs.Descriptor.Standard
import Fingerprint.Proofs.Service.SinglePass

/-! # The shape of digests

`Leaves` lists every way in which a text leaves as a digest: from a descriptor or from a service,
of data or of a file, for one algorithm or for several. Each such text has passed `finalize` on a
hasher that the strategy's own steps can reach (`reached_of_leaves`). It has the promised length and
it is hexadecimal, but for one line feed that the check on lines lets slip at its end; that slip is
there exactly when a hasher that can be reached answers with it. -/
set_option autoImplicit false
namespace Fingerprint
variable {η : Type}

/-- The hashers that one call can come to, by a single update or by one for each piece read. -/
inductive Descriptor.Reached (d : Descriptor η) : η → Prop where
  | data (v content : Value) (h₀ h : η) (taken : Input.data v = .ok content)
      (made : d.newHasher = .ok h₀) (fed : d.update h₀ content = .ok h) : Reached d h
  | file (replies : List Reply) (h₀ h : η) (made : d.newHasher = .ok h₀)
      (fed : (feed d.update h₀ 0 replies).1 = .ok h) : Reached d h

/-- A text is given as a digest, by a descriptor or for what a catalog has under a name. -/
inductive Leaves (sources : Text → Source) : Option (Descriptor η) → Text → Prop where
  | computeData (d : Descriptor η) (v : Value) (t : Text)
      (run : d.computeData v = .ok t) : Leaves sources (some d) t
  | hashData (d : Descriptor η) (v : Value) (t : Text)
      (run : d.hashData v = .ok (some t)) : Leaves sources (some d) t
  | computeFile (d : Descriptor η) (path size : Value) (t : Text)
      (run : (d.computeFile sources path size).1 = .ok t) : Leaves sources (some d) t
  | hashFile (d : Descriptor η) (path size : Value) (t : Text)
      (run : (d.hashFile sources path size).1 = .ok (some t)) : Leaves sources (some d) t
  | serviceComputeData (s : Service η) (algorithm v : Value) (t : Text)
      (run : s.computeData algorithm v = .ok t) : Leaves sources (s.catalog.get? algorithm) t
  | serviceHashData (s : Service η) (algorithm v : Value) (t : Text) (records : List Record)
      (run : s.hashData algorithm v = .ok (some t, records)) :
      Leaves sources (s.catalog.get? algorithm) t
  | serviceComputeFile (s : Service η) (algorithm path : Value) (t : Text)
      (run : (s.computeFile sources algorithm path).1 = .ok t) :
      Leaves sources (s.catalog.get? algorithm) t
  | serviceHashFile (s : Service η) (algorithm path : Value) (t : Text) (records : List Record)
      (run : (s.hashFile sources algorithm path).1 = .ok (some t, records)) :
      Leaves sources (s.catalog.get? algorithm) t
  | serviceComputeFileMany (s : Service η) (path algorithms : Value) (name t : Text)
      (digests : List (Text × Text))
      (run : (s.computeFileMany sources path algorithms).1 = .ok digests)
      (member : (name, t) ∈ digests) : Leaves sources (s.catalog.get? (.text name)) t
  | serviceHashFileMany (s : Service η) (path algorithms : Value) (name t : Text)
      (digests : List (Text × Text)) (records : List Record)
      (run : (s.hashFileMany sources path algorithms).1 = .ok (some digests, records))
      (member : (name, t) ∈ digests) : Leaves sources (s.catalog.get? (.text name)) t

/-! ## What leaves has passed the check -/

theorem reached_of_computeData (d : Descriptor η) (v : Value) (t : Text)
    (run : d.computeData v = .ok t) : ∃ h, d.Reached h ∧ d.finalize h = .ok t := by
  obtain ⟨content, h₀, h, taken, made, fed, done⟩ := (d.computeData_eq_ok_iff v t).mp run
  exact ⟨h, .data v content h₀ h taken made fed, done⟩

theorem reached_of_runFile (d : Descriptor η) (source : Source) (path : Text) (size : Value)
    (t : Text) (run : d.runFile source path size = .ok t) :
    ∃ h, d.Reached h ∧ d.finalize h = .ok t := by
  obtain ⟨h₀, h, made, fed, done⟩ := (d.runFile_eq_ok_iff source path size t).mp run
  have opens := opens_of_consume source path size _ h₀ h fed
  rw [consume_opened source path size _ _ opens, mapError_eq_ok_iff] at fed
  exact ⟨h, .file _ h₀ h made fed, done⟩

theorem reached_of_computeFile (d : Descriptor η) (sources : Text → Source) (path size : Value)
    (t : Text) (run : (d.computeFile sources path size).1 = .ok t) :
    ∃ h, d.Reached h ∧ d.finalize h = .ok t := by
  obtain ⟨p, -, alone⟩ := d.runFile_of_computeFile sources path size t run
  exact reached_of_runFile d _ p size t alone

theorem Service.found_of_computeData (s : Service η) (algorithm v : Value) (t : Text)
    (run : s.computeData algorithm v = .ok t) :
    ∃ d, s.catalog.get? algorithm = some d ∧ d.computeData v = .ok t := by
  obtain ⟨d, looked, alone⟩ := (bind_eq_ok_iff _ _ t).mp run
  exact ⟨d, (s.require_eq_ok_iff algorithm d).mp looked, alone⟩

theorem Service.found_of_computeFile (s : Service η) (sources : Text → Source)
    (algorithm path : Value) (t : Text) (run : (s.computeFile sources algorithm path).1 = .ok t) :
    ∃ d, s.catalog.get? algorithm = some d ∧
      (d.computeFile sources path s.chunkSize).1 = .ok t := by
  unfold computeFile at run
  cases looked : s.require algorithm with
  | error e =>
      rw [looked] at run
      cases run
  | ok d =>
      rw [looked] at run
      exact ⟨d, (s.require_eq_ok_iff algorithm d).mp looked, run⟩

theorem reached_of_computeFileMany (s : Service η) (sources : Text → Source)
    (path algorithms : Value) (name t : Text) (digests : List (Text × Text))
    (run : (s.computeFileMany sources path algorithms).1 = .ok digests)
    (member : (name, t) ∈ digests) :
    ∃ d h, s.catalog.get? (.text name) = some d ∧ d.Reached h ∧ d.finalize h = .ok t := by
  obtain ⟨d, p, looked, -, alone⟩ :=
    s.entry_of_computeFileMany sources path algorithms digests run (name, t) member
  obtain ⟨h, reached, done⟩ := reached_of_runFile d _ p _ t alone
  exact ⟨d, h, (s.require_eq_ok_iff _ d).mp looked, reached, done⟩

theorem reached_of_leaves (sources : Text → Source) (found : Option (Descriptor η)) (t : Text)
    (leaves : Leaves sources found t) :
    ∃ d h, found = some d ∧ d.Reached h ∧ d.finalize h = .ok t := by
  have ofData (d : Descriptor η) (v : Value) (run : d.computeData v = .ok t) :
      ∃ d' h, some d = some d' ∧ d'.Reached h ∧ d'.finalize h = .ok t := by
    obtain ⟨h, reached, done⟩ := reached_of_computeData d v t run
    exact ⟨d, h, rfl, reached, done⟩
  have ofFile (d : Descriptor η) (path size : Value)
      (run : (d.computeFile sources path size).1 = .ok t) :
      ∃ d' h, some d = some d' ∧ d'.Reached h ∧ d'.finalize h = .ok t := by
    obtain ⟨h, reached, done⟩ := reached_of_computeFile d sources path size t run
    exact ⟨d, h, rfl, reached, done⟩
  cases leaves with
  | computeData d v _ run => exact ofData d v run
  | hashData d v _ run => exact ofData d v ((collapse_eq_some_iff _ t).mp run)
  | computeFile d path size _ run => exact ofFile d path size run
  | hashFile d path size _ run => exact ofFile d path size ((collapse_eq_some_iff _ t).mp run)
  | serviceComputeData s algorithm v _ run =>
      obtain ⟨d, same, alone⟩ := s.found_of_computeData algorithm v t run
      rw [same]
      exact ofData d v alone
  | serviceHashData s algorithm v _ records run =>
      have strict := reported_eq_some _ _ _ t records run
      obtain ⟨d, same, alone⟩ := s.found_of_computeData algorithm v t strict
      rw [same]
      exact ofData d v alone
  | serviceComputeFile s algorithm path _ run =>
      obtain ⟨d, same, alone⟩ := s.found_of_computeFile sources algorithm path t run
      rw [same]
      exact ofFile d path s.chunkSize alone
  | serviceHashFile s algorithm path _ records run =>
      have strict := reported_eq_some _ _ _ t records run
      obtain ⟨d, same, alone⟩ := s.found_of_computeFile sources algorithm path t strict
      rw [same]
      exact ofFile d path s.chunkSize alone
  | serviceComputeFileMany s path algorithms name _ digests run member =>
      exact reached_of_computeFileMany s sources path algorithms name t digests run member
  | serviceHashFileMany s path algorithms name _ digests records run member =>
      have strict := reported_eq_some _ _ _ digests records run
      exact reached_of_computeFileMany s sources path algorithms name t digests strict member

/-! ## The one slip -/

theorem shape_of_finalize (d : Descriptor η) (h : η) (t : Text) (done : d.finalize h = .ok t) :
    t.IsHex d.hexLength ∨ t.IsHexFeed d.hexLength := by
  obtain ⟨-, promised, line⟩ := (d.finalize_eq_ok_iff h t).mp done
  exact Text.isHex_or_isHexFeed d.hexLength t promised line

/-- The promised length is even, so a digit stands before a line feed in its last place. -/
theorem isHexLine_of_isHexFeed (d : Descriptor η) (t : Text) (fed : t.IsHexFeed d.hexLength) :
    t.isHexLine = true := by
  have long : 1 < d.hexLength := by
    obtain ⟨digits, hex, -⟩ := fed
    have counted := hex.1
    unfold Descriptor.hexLength at counted ⊢
    omega
  exact fed.isHexLine long

theorem finalize_of_isHexFeed (d : Descriptor η) (h : η) (t : Text)
    (fed : t.IsHexFeed d.hexLength) (answer : d.strategy.hexDigest h = .ok (.text t)) :
    d.finalize h = .ok t :=
  (d.finalize_eq_ok_iff h t).mpr ⟨answer, fed.length_eq, isHexLine_of_isHexFeed d t fed⟩

theorem leaves_of_reached (d : Descriptor η) (h : η) (t : Text) (reached : d.Reached h)
    (done : d.finalize h = .ok t) : ∃ sources, Leaves sources (some d) t := by
  cases reached with
  | data v content h₀ _ taken made fed =>
      refine ⟨fun _ => .stored [], .computeData d v t ?_⟩
      exact (d.computeData_eq_ok_iff v t).mpr ⟨content, h₀, h, taken, made, fed, done⟩
  | file replies h₀ _ made fed =>
      refine ⟨fun _ => .scripted replies, .computeFile d (.text []) (.int 1) t ?_⟩
      rw [d.computeFile_fst _ _ _ rfl]
      have whole : (consume (.scripted replies) [] (.int 1) d.update h₀).1 = .ok h := by
        rw [consume_opened _ _ _ _ _ (by rintro f ⟨⟩), mapError_eq_ok_iff]
        exact fed
      exact (d.runFile_eq_ok_iff _ _ _ t).mpr ⟨h₀, h, made, whole, done⟩

/-- The standard hashers never slip. -/
theorem isHex_of_leaves_standard (faults : List (Hash.Algorithm × Fault)) (extended : Value)
    (d : Descriptor Hasher) (offered : d ∈ (Catalog.standard faults extended).descriptors)
    (sources : Text → Source) (t : Text) (leaves : Leaves sources (some d) t) :
    t.IsHex d.hexLength := by
  rw [Catalog.standard_descriptors] at offered
  obtain ⟨a, -, rfl⟩ := List.mem_map.mp offered
  obtain ⟨d', h, same, reached, done⟩ := reached_of_leaves sources _ t leaves
  cases same
  have taken : ∃ content, h.HasTaken a content := by
    cases reached with
    | data v content h₀ _ _ made fed =>
        have start := Descriptor.taken_of_newHasher faults a h₀ made
        exact Descriptor.update_keeps_taken faults a h₀ content h ⟨[], start⟩ fed
    | file replies h₀ _ made fed =>
        have start := Descriptor.taken_of_newHasher faults a h₀ made
        exact feed_keeps _ _ (Descriptor.update_keeps_taken faults a) h₀ h 0 replies ⟨[], start⟩ fed
  obtain ⟨content, taken⟩ := taken
  rw [Descriptor.finalize_of_taken faults a content h taken] at done
  cases done
  rw [Descriptor.standard_hexLength]
  exact a.isHex_hexDigest content

/-- What leaves is a digest of its algorithm, or one short of its last digit with a line feed there;
the latter never happens to an algorithm whose strategy never answers so. -/
theorem digest_shape :
    (∀ (sources : Text → Source) (found : Option (Descriptor η)) (t : Text),
      Leaves sources found t → ∃ d, found = some d ∧ (t.length : Int) = 2 * d.digestLength ∧
        (t.IsHex (2 * d.digestLength) ↔ ¬ t.IsHexFeed (2 * d.digestLength))) ∧
    ∀ d : Descriptor η,
      (∀ sources t, Leaves sources (some d) t → t.IsHex (2 * d.digestLength)) ↔
        ∀ h t, d.Reached h → d.strategy.hexDigest h = .ok (.text t) →
          ¬ t.IsHexFeed (2 * d.digestLength) := by
  constructor
  · intro sources found t leaves
    obtain ⟨d, h, same, -, done⟩ := reached_of_leaves sources found t leaves
    obtain ⟨-, promised, -⟩ := (d.finalize_eq_ok_iff h t).mp done
    refine ⟨d, same, promised, fun hex fed => fed.not_isHex hex, fun unfed => ?_⟩
    exact (shape_of_finalize d h t done).resolve_right unfed
  · intro d
    constructor
    · intro safe h t reached answer fed
      have done := finalize_of_isHexFeed d h t fed answer
      obtain ⟨sources, leaves⟩ := leaves_of_reached d h t reached done
      exact fed.not_isHex (safe sources t leaves)
    · intro never sources t leaves
      obtain ⟨d', h, same, reached, done⟩ := reached_of_leaves sources (some d) t leaves
      cases same
      obtain ⟨answer, -, -⟩ := (d.finalize_eq_ok_iff h t).mp done
      exact (shape_of_finalize d h t done).resolve_right (never h t reached answer)

/-- One digit and a line feed pass for the two digits of an algorithm of one byte. -/
theorem malformed_digest_leaves :
    let d : Descriptor Hasher := .ofStrategy (Service.fixedStrategy "x" "a\n")
    d.computeData (.text "abc") = .ok "a\n" ∧
      Leaves (fun _ => .stored []) (some d) "a\n" ∧
      ¬ Text.IsHex (2 * d.digestLength) "a\n" := by
  intro d
  have run : d.computeData (.text "abc") = .ok "a\n" := rfl
  refine ⟨run, .computeData d (.text "abc") "a\n" run, ?_⟩
  rintro ⟨-, units⟩
  have last := units 10 (by decide)
  rw [Text.lineFeed_not_hex] at last
  cases last

end Fingerprint
