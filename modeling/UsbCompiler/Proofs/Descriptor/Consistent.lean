import UsbCompiler.Proofs.Descriptor.Refusals
import UsbCompiler.Proofs.Descriptor.Standalone
import UsbCompiler.Proofs.StringPool

/-!
# `UsbCompiler.Proofs.Descriptor.Consistent` — compiling is never inconsistent

What a description refers to is there when it is written: all of its strings are given indexes first, its interfaces
follow the configuration and endpoints follow their interface. If a device cannot be compiled, then because of what
somebody asked for.

## Contents
- `Stream.marks_of_beginInterface`, `marks_of_writeExtra`, `marks_of_writeEndpoint`: what stays open.
- `Description.kind_of_writeInterface`, `kind_of_configurationDescriptor`, `kind_of_deviceDescriptor` and
  `kind_of_compiledStrings`: the parts.
- `Description.kind_of_compile`: the whole.
-/

namespace UsbCompiler

namespace Stream

variable {stream next : Stream} {strings : StringPool} {e : Error}

/-! ## What stays open -/

theorem marks_of_increment {place : Nat} (h : stream.increment place = .ok next) :
    next.configuration = stream.configuration ∧ next.endpointCount = stream.endpointCount := by
  obtain ⟨_, _, _, rfl⟩ := increment_eq_ok_iff.mp h
  exact ⟨rfl, rfl⟩

theorem marks_of_beginConfiguration {header : ConfigurationHeader}
    (h : (stream.beginConfiguration header strings).commit = .ok next) : next.configuration ≠ none := by
  obtain ⟨_, _, _, _, _, rfl⟩ := commit_beginConfiguration_eq_ok_iff.mp h
  exact nofun

/-- An interface that has begun is open, and so is its configuration. -/
theorem marks_of_beginInterface {header : InterfaceHeader}
    (h : (stream.beginInterface header strings).commit = .ok next) :
    next.configuration ≠ none ∧ next.endpointCount ≠ none := by
  obtain ⟨start, counted, _, hstart, hincrement, _, _, rfl⟩ := commit_beginInterface_eq_ok_iff.mp h
  refine ⟨?_, nofun⟩
  show counted.configuration ≠ none
  rw [(marks_of_increment hincrement).1, hstart]
  exact nofun

theorem marks_of_writeExtra {extra : ExtraDescriptor} (h : (stream.writeExtra extra).commit = .ok next) :
    next.configuration = stream.configuration ∧ next.endpointCount = stream.endpointCount := by
  obtain ⟨_, _, rfl⟩ := commit_writeRecord_eq_ok_iff.mp h
  exact ⟨rfl, rfl⟩

theorem marks_of_writeEndpoint {descriptor : Endpoint.Descriptor}
    (h : (stream.writeEndpoint descriptor).commit = .ok next) :
    next.configuration = stream.configuration ∧ next.endpointCount = stream.endpointCount := by
  obtain ⟨_, counted, _, hincrement, _, rfl⟩ := commit_writeEndpoint_eq_ok_iff.mp h
  obtain ⟨hconfiguration, hinterface⟩ := marks_of_increment hincrement
  exact ⟨hconfiguration, hinterface⟩

theorem kind_of_complete (h : stream.complete.result = .error e) : e.kind ≠ .inconsistent := by
  unfold complete at h
  cases hclose : stream.closeConfiguration with
  | error found =>
    rw [hclose] at h
    cases h
    exact kind_of_closeConfiguration hclose
  | ok closed =>
    rw [hclose] at h
    cases h

/-- The bytes of a single write fail as the write does, or because of a number that is too large. -/
theorem andThen_complete_eq_error {outcome : Outcome Stream Unit}
    (h : (outcome.andThen fun stream _ => stream.complete).result = .error e) :
    outcome.result = .error e ∨ e.kind ≠ .inconsistent := by
  rcases Outcome.andThen_eq_error_iff.mp h with hwrite | ⟨_, _, hcomplete⟩
  · exact .inl hwrite
  · exact .inr (kind_of_complete hcomplete)

end Stream

namespace Description

variable {description : Description} {strings : StringPool} {stream next : Stream} {e : Error}

/-! ## The configuration -/

/-- Writing an interface leaves the configuration open. -/
theorem configuration_of_writeInterface {interface : Interface}
    (h : writeInterface strings stream interface = .ok next) :
    next.configuration ≠ none := by
  unfold writeInterface at h
  obtain ⟨begun, hbegin, h⟩ := bind_eq_ok_iff.mp h
  obtain ⟨extended, hextras, hendpoints⟩ := bind_eq_ok_iff.mp h
  have hextended : extended.configuration ≠ none :=
    foldlM_keeps (P := fun stream : Stream => stream.configuration ≠ none)
      (fun _ _ _ hs hstep => (Stream.marks_of_writeExtra hstep).1 ▸ hs) (Stream.marks_of_beginInterface hbegin).1 hextras
  exact foldlM_keeps (P := fun stream : Stream => stream.configuration ≠ none)
    (fun _ _ _ hs hstep => (Stream.marks_of_writeEndpoint hstep).1 ▸ hs) hextended hendpoints

/-- An interface of an open configuration is not inconsistent if its string has an index. -/
theorem kind_of_writeInterface {interface : Interface} (hopen : stream.configuration ≠ none)
    (hknown : interface.header.string ∈ strings.sources) (h : writeInterface strings stream interface = .error e) :
    e.kind ≠ .inconsistent := by
  unfold writeInterface at h
  rcases bind_eq_error_iff.mp h with hbegin | ⟨begun, hbegin, h⟩
  · rcases Stream.beginInterface_eq_error (Outcome.commit_eq_error_iff.mp hbegin) with ⟨hnone, _⟩ | ⟨hunknown, _⟩ | hkind
    · exact absurd hnone hopen
    · exact absurd hknown (StringPool.index?_eq_none_iff.mp hunknown)
    · exact hkind
  · -- From here on there is an interface that endpoints can belong to.
    have hbegun := (Stream.marks_of_beginInterface hbegin).2
    have hextra : ∀ (s : Stream) (extra : ExtraDescriptor) (next : Stream), s.endpointCount ≠ none →
        (s.writeExtra extra).commit = .ok next → next.endpointCount ≠ none :=
      fun _ _ _ hs hstep => (Stream.marks_of_writeExtra hstep).2 ▸ hs
    have hendpoint : ∀ (s : Stream) (descriptor : Endpoint.Descriptor) (next : Stream), s.endpointCount ≠ none →
        (s.writeEndpoint descriptor).commit = .ok next → next.endpointCount ≠ none :=
      fun _ _ _ hs hstep => (Stream.marks_of_writeEndpoint hstep).2 ▸ hs
    rcases bind_eq_error_iff.mp h with hextras | ⟨extended, hextras, hendpoints⟩
    · obtain ⟨_, _, _, _, hstep⟩ := exists_of_foldlM_eq_error hextra hbegun hextras
      exact Stream.kind_of_writeRecord (Outcome.commit_eq_error_iff.mp hstep)
    · have hextended := foldlM_keeps hextra hbegun hextras
      obtain ⟨_, _, hs, _, hstep⟩ := exists_of_foldlM_eq_error hendpoint hextended hendpoints
      rcases Stream.writeEndpoint_eq_error (Outcome.commit_eq_error_iff.mp hstep) with ⟨hnone, _⟩ | hkind
      · exact absurd hnone hs
      · exact hkind

theorem kind_of_configurationDescriptor (hknown : ∀ source ∈ description.stringSources, source ∈ strings.sources)
    (h : description.configurationDescriptor strings = .error e) : e.kind ≠ .inconsistent := by
  unfold configurationDescriptor at h
  rcases bind_eq_error_iff.mp h with hbegin | ⟨begun, hbegin, h⟩
  · rcases Stream.beginConfiguration_eq_error (Outcome.commit_eq_error_iff.mp hbegin) with ⟨hunknown, _⟩ | hkind
    · exact absurd (hknown _ (by simp [stringSources])) (StringPool.index?_eq_none_iff.mp hunknown)
    · exact hkind
  · rcases bind_eq_error_iff.mp h with hfold | ⟨written, _, hcomplete⟩
    · obtain ⟨_, interface, hs, hinterface, hstep⟩ := exists_of_foldlM_eq_error
        (fun _ _ _ _ hstep => configuration_of_writeInterface hstep) (Stream.marks_of_beginConfiguration hbegin) hfold
      exact kind_of_writeInterface hs (hknown _ (List.mem_append_right _ (List.mem_map_of_mem hinterface))) hstep
    · exact Stream.kind_of_complete hcomplete

/-! ## The other parts -/

theorem kind_of_deviceDescriptor (hknown : ∀ source ∈ description.stringSources, source ∈ strings.sources)
    (h : description.deviceDescriptor strings = .error e) : e.kind ≠ .inconsistent := by
  have hfields : description.device.fields 1 strings = .ok _ := DeviceHeader.fields_eq_ok_iff.mpr
    ⟨_, _, _, StringPool.index?_of_mem (hknown _ (by simp [stringSources])),
      StringPool.index?_of_mem (hknown _ (by simp [stringSources])),
      StringPool.index?_of_mem (hknown _ (by simp [stringSources])), rfl⟩
  rcases Stream.andThen_complete_eq_error h with hwrite | hkind
  · rcases Stream.writeFields_eq_error hwrite with hnone | hkind
    · rw [hfields] at hnone
      cases hnone
    · exact hkind
  · exact hkind

theorem kind_of_compileString {source : StringSource} (h : compileString source = .error e) :
    e.kind ≠ .inconsistent := by
  unfold compileString at h
  cases source with
  | unset | marked mark =>
    rcases Stream.andThen_complete_eq_error (map_eq_error_iff.mp h) with hwrite | hkind
    · rcases Stream.writeFields_eq_error hwrite with hnone | hkind
      · cases hnone
      · exact hkind
    · exact hkind
  | literal text =>
    rcases Stream.andThen_complete_eq_error (map_eq_error_iff.mp h) with hwrite | hkind
    · exact Stream.kind_of_writeString hwrite
    · exact hkind
  | external identifier => cases h

theorem kind_of_compiledStrings (h : compiledStrings strings = .error e) : e.kind ≠ .inconsistent := by
  obtain ⟨_, _, hstring⟩ := exists_of_mapM_eq_error h
  exact kind_of_compileString (map_eq_error_iff.mp hstring)

theorem kind_of_check (h : description.check = .error e) : e.kind ≠ .inconsistent := by
  unfold check at h
  split at h
  · cases h
    decide
  · split at h
    · cases h
      show Error.Kind.configuration ≠ .inconsistent
      decide
    · cases h

theorem kind_of_strings (h : description.strings = .error e) : e.kind ≠ .inconsistent := by
  unfold strings StringPool.internAll at h
  obtain ⟨_, _, _, _, hstep⟩ := exists_of_foldlM_eq_error (P := fun _ => True) (fun _ _ _ _ _ => trivial) trivial h
  rw [StringPool.eq_of_intern_eq_error (map_eq_error_iff.mp hstep)]
  decide

/-! ## The whole -/

/-- **Compiling is never inconsistent.** -/
theorem kind_of_compile (h : description.compile = .error e) : e.kind ≠ .inconsistent := by
  unfold compile at h
  rcases bind_eq_error_iff.mp h with hcheck | ⟨_, _, h⟩
  · exact kind_of_check hcheck
  rcases bind_eq_error_iff.mp h with hstrings | ⟨strings, hstrings, h⟩
  · exact kind_of_strings hstrings
  have hknown : ∀ source ∈ description.stringSources, source ∈ strings.sources := by
    obtain ⟨_, rfl⟩ := StringPool.internAll_empty_eq_ok_iff.mp hstrings
    exact fun source hsource => List.mem_eraseDups.mpr (List.mem_cons_of_mem _ hsource)
  rcases bind_eq_error_iff.mp h with hdevice | ⟨_, _, h⟩
  · exact kind_of_deviceDescriptor hknown hdevice
  rcases bind_eq_error_iff.mp h with hconfiguration | ⟨_, _, h⟩
  · exact kind_of_configurationDescriptor hknown hconfiguration
  rcases bind_eq_error_iff.mp h with hanswers | ⟨_, _, h⟩
  · exact kind_of_compiledStrings hanswers
  · cases h

end Description

end UsbCompiler
