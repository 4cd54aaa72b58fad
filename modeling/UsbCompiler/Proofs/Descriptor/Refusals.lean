import UsbCompiler.Proofs.Results
import UsbCompiler.Proofs.Descriptor.Records
import UsbCompiler.Descriptor.Stream

/-!
# `UsbCompiler.Proofs.Descriptor.Refusals` — why a descriptor is not written

A descriptor is refused because something is not there that it refers to, because some number is too large, or because
its text has no code units. Only the first is an inconsistency: an interface without a configuration, an endpoint
without an interface, and a string that has no index.

## Contents
- `Stream.kind_of_writeRecord`, `kind_of_writeString`, `kind_of_increment`, `kind_of_closeConfiguration`: numbers that
  are too large and texts without code units.
- `Stream.writeFields_eq_error`: fields that could not be determined, or numbers that are too large.
- `Stream.beginConfiguration_eq_error`, `beginInterface_eq_error` and `writeEndpoint_eq_error`: what is not there.
-/

namespace UsbCompiler

/-- A source without an index is unknown. -/
theorem StringPool.lookup_eq_error_iff {pool : StringPool} {source : StringSource} {e : Error} :
    pool.lookup source = .error e ↔ pool.index? source = none ∧ e = .unknownString source := by
  unfold lookup
  cases pool.index? source with
  | none => exact ⟨fun h => ⟨rfl, (Except.error.inj h).symm⟩, fun h => congrArg Except.error h.2.symm⟩
  | some index => exact ⟨nofun, nofun⟩

theorem InterfaceHeader.fields_eq_error {header : InterfaceHeader} {strings : StringPool} {e : Error}
    (h : header.fields strings = .error e) :
    strings.index? header.string = none ∧ e = .unknownString header.string := by
  unfold fields at h
  cases hlookup : strings.lookup header.string with
  | error found =>
    rw [hlookup] at h
    cases h
    exact StringPool.lookup_eq_error_iff.mp hlookup
  | ok index =>
    rw [hlookup] at h
    cases h

theorem ConfigurationHeader.fields_eq_error {header : ConfigurationHeader} {strings : StringPool} {e : Error}
    (h : header.fields strings = .error e) :
    strings.index? header.string = none ∧ e = .unknownString header.string := by
  unfold fields at h
  cases hlookup : strings.lookup header.string with
  | error found =>
    rw [hlookup] at h
    cases h
    exact StringPool.lookup_eq_error_iff.mp hlookup
  | ok index =>
    rw [hlookup] at h
    cases h

namespace Stream

variable {stream : Stream} {strings : StringPool} {e : Error}

/-! ## Numbers that are too large, and texts without code units -/

theorem kind_of_writeRecord {type : Int} {payload : Bytes}
    (h : (stream.writeRecord type payload).result = .error e) : e.kind ≠ .inconsistent := by
  unfold writeRecord at h
  split at h
  · cases h
    show Error.Kind.configuration ≠ .inconsistent
    decide
  · split at h
    · cases h
    · cases h
      decide

theorem kind_of_writeString {text : Text} (h : (stream.writeString text).result = .error e) :
    e.kind ≠ .inconsistent := by
  unfold writeString at h
  split at h
  · cases h
    decide
  · exact kind_of_writeRecord h

theorem kind_of_increment {place : Nat} (h : stream.increment place = .error e) : e.kind ≠ .inconsistent := by
  unfold increment at h
  split at h
  · cases h
    decide
  · split at h
    · cases h
      decide
    · cases h

theorem kind_of_closeConfiguration (h : stream.closeConfiguration = .error e) : e.kind ≠ .inconsistent := by
  unfold closeConfiguration at h
  split at h
  · cases h
  · split at h
    · cases h
    · cases h
      decide

/-- A standard descriptor is inconsistent only if its fields are. -/
theorem writeFields_eq_error {type : StandardDescriptor} {fields : Except Error (List Field)}
    (h : (stream.writeFields type fields).result = .error e) : fields = .error e ∨ e.kind ≠ .inconsistent := by
  unfold writeFields at h
  cases fields with
  | error found =>
    cases h
    exact .inl rfl
  | ok known =>
    right
    have hbind : (Except.ok known >>= pack) = pack known := rfl
    rw [hbind] at h
    cases hpack : pack known with
    | ok payload =>
      rw [hpack] at h
      exact kind_of_writeRecord h
    | error found =>
      rw [hpack] at h
      cases h
      unfold pack at hpack
      split at hpack
      · cases hpack
      · cases hpack
        decide

/-! ## What is not there -/

theorem beginConfiguration_eq_error {header : ConfigurationHeader}
    (h : (stream.beginConfiguration header strings).result = .error e) :
    strings.index? header.string = none ∧ e = .unknownString header.string ∨ e.kind ≠ .inconsistent := by
  unfold beginConfiguration at h
  cases hclose : stream.closeConfiguration with
  | error found =>
    rw [hclose] at h
    cases h
    exact .inr (kind_of_closeConfiguration hclose)
  | ok closed =>
    rw [hclose] at h
    exact (writeFields_eq_error h).imp_left ConfigurationHeader.fields_eq_error

/-- An interface is inconsistent without a configuration, or if its string has no index. -/
theorem beginInterface_eq_error {header : InterfaceHeader}
    (h : (stream.beginInterface header strings).result = .error e) :
    stream.configuration = none ∧ e = .interfaceOutsideConfiguration
      ∨ (strings.index? header.string = none ∧ e = .unknownString header.string) ∨ e.kind ≠ .inconsistent := by
  unfold beginInterface at h
  cases hopen : stream.configuration with
  | none =>
    rw [hopen] at h
    cases h
    exact .inl ⟨rfl, rfl⟩
  | some start =>
    right
    rw [hopen] at h
    simp only at h
    cases hincrement : stream.increment (start + 4) with
    | error found =>
      rw [hincrement] at h
      cases h
      exact .inr (kind_of_increment hincrement)
    | ok counted =>
      rw [hincrement] at h
      exact (writeFields_eq_error h).imp_left InterfaceHeader.fields_eq_error

/-- An endpoint is inconsistent without an interface. -/
theorem writeEndpoint_eq_error {descriptor : Endpoint.Descriptor}
    (h : (stream.writeEndpoint descriptor).result = .error e) :
    stream.endpointCount = none ∧ e = .endpointOutsideInterface ∨ e.kind ≠ .inconsistent := by
  unfold writeEndpoint at h
  cases hopen : stream.endpointCount with
  | none =>
    rw [hopen] at h
    cases h
    exact .inl ⟨rfl, rfl⟩
  | some place =>
    right
    rw [hopen] at h
    simp only at h
    cases hincrement : stream.increment place with
    | error found =>
      rw [hincrement] at h
      cases h
      exact kind_of_increment hincrement
    | ok counted =>
      rw [hincrement] at h
      exact (writeFields_eq_error h).resolve_left nofun

end Stream

end UsbCompiler
