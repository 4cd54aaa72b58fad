import UsbCompiler.Descriptor.Stream
import UsbCompiler.Proofs.Descriptor.Records

/-!
# `UsbCompiler.Proofs.Descriptor.Writing` — what writing and patching do to a stream

A stream only grows at its end, and its three patches go to places inside of records that have been written
before. A patch of a count turns a record into the same record with another count, and the patch of the length
does the same to a configuration, wherever the record stands. So the places never have to be looked at again.

## Contents
- `Stream.commit_writeRecord_eq_ok_iff`, `commit_writeString_eq_ok_iff` and `commit_writeFields_eq_ok_iff`:
  descriptors at the end.
- `Stream.increment_record_eq_ok_iff`, `increment_configuration`, `increment_interface`: the count in a record goes
  up.
- `Stream.closeConfiguration_record_eq_ok_iff`, `close_record`: the length of a configuration is filled in.
- `Stream.commit_beginConfiguration_eq_ok_iff`, `commit_beginInterface_eq_ok_iff` and `commit_writeEndpoint_eq_ok_iff`:
  the standard descriptors that are counted, on any stream.
-/

namespace UsbCompiler

/-! ## Fields with other counts -/

theorem InterfaceHeader.fits_counted {header : InterfaceHeader} {string endpoints : Nat}
    (h : ∀ field ∈ header.counted string 0, field.Fits) (hendpoints : endpoints ≤ 255) :
    ∀ field ∈ header.counted string endpoints, field.Fits := by
  simp only [counted, List.forall_mem_cons] at h ⊢
  obtain ⟨hnumber, halternate, _, hrest⟩ := h
  refine ⟨hnumber, halternate, ⟨by simp only; omega, ?_⟩, hrest⟩
  show (endpoints : Int) < 0x100
  omega

theorem ConfigurationHeader.fits_counted {header : ConfigurationHeader} {string length interfaces : Nat}
    (h : ∀ field ∈ header.counted string 0 0, field.Fits) (hlength : length < 0x10000)
    (hinterfaces : interfaces ≤ 255) : ∀ field ∈ header.counted string length interfaces, field.Fits := by
  simp only [counted, List.forall_mem_cons] at h ⊢
  obtain ⟨_, _, hrest⟩ := h
  refine ⟨⟨by simp only; omega, ?_⟩, ⟨by simp only; omega, ?_⟩, hrest⟩
  · show (length : Int) < 0x10000
    omega
  · show (interfaces : Int) < 0x100
    omega

namespace Stream

variable {stream next : Stream}

/-! ## Descriptors at the end -/

theorem commit_writeRecord_eq_ok_iff {type : Int} {payload : Bytes} :
    (stream.writeRecord type payload).commit = .ok next
      ↔ payload.length ≤ 253 ∧ (0 ≤ type ∧ type < 0x100)
        ∧ next = stream.append (Record.bytes ⟨UInt8.ofNat type.toNat, payload⟩) := by
  rw [Outcome.commit_eq_ok_iff]
  constructor
  · rintro ⟨⟨_, hresult⟩, rfl⟩
    obtain ⟨hsmall, hrange⟩ := writeRecord_eq_ok_iff.mp hresult
    exact ⟨hsmall, hrange, state_writeRecord hresult⟩
  · rintro ⟨hsmall, hrange, rfl⟩
    have hresult : (stream.writeRecord type payload).result = .ok () :=
      writeRecord_eq_ok_iff.mpr ⟨hsmall, hrange⟩
    exact ⟨⟨(), hresult⟩, state_writeRecord hresult⟩

/-- A text is written exactly if it has code units and the record has room for them. -/
theorem commit_writeString_eq_ok_iff {text : Text} :
    (stream.writeString text).commit = .ok next
      ↔ ∃ units, Utf16.encode? text = some units ∧ (textPayload units).length ≤ 253
        ∧ next = stream.append (Record.bytes ⟨3, textPayload units⟩) := by
  unfold writeString
  cases Utf16.encode? text with
  | none => exact ⟨nofun, nofun⟩
  | some units =>
    constructor
    · intro h
      obtain ⟨hsmall, _, rfl⟩ := commit_writeRecord_eq_ok_iff.mp h
      exact ⟨units, rfl, hsmall, rfl⟩
    · rintro ⟨_, hsame, hsmall, rfl⟩
      cases hsame
      exact commit_writeRecord_eq_ok_iff.mpr ⟨hsmall, by decide, rfl⟩

/-- A standard descriptor is written exactly if its fields are known and fit, and the record has room for
    them. -/
theorem commit_writeFields_eq_ok_iff {type : StandardDescriptor} {fields : Except Error (List Field)} :
    (stream.writeFields type fields).commit = .ok next
      ↔ ∃ known, fields = .ok known ∧ (∀ field ∈ known, field.Fits) ∧ (type.record known).size ≤ 255
        ∧ next = stream.append (type.record known).bytes := by
  have hcode : 0 ≤ type.code ∧ type.code < 0x100 := by cases type <;> decide
  unfold writeFields
  constructor
  · intro h
    cases hpack : fields >>= pack with
    | error e =>
      rw [hpack] at h
      cases h
    | ok payload =>
      rw [hpack] at h
      obtain ⟨known, rfl, hpacked⟩ := bind_eq_ok_iff.mp hpack
      obtain ⟨hfits, rfl⟩ := pack_eq_ok_iff.mp hpacked
      obtain ⟨hsmall, _, hnext⟩ := commit_writeRecord_eq_ok_iff.mp h
      refine ⟨known, rfl, hfits, ?_, hnext⟩
      show (known.flatMap Field.bytes).length + 2 ≤ 255
      omega
  · rintro ⟨known, rfl, hfits, hsmall, rfl⟩
    have hsmall : (known.flatMap Field.bytes).length + 2 ≤ 255 := hsmall
    have hpack : (.ok known >>= pack) = .ok (known.flatMap Field.bytes) := pack_eq_ok_iff.mpr ⟨hfits, rfl⟩
    rw [hpack]
    exact commit_writeRecord_eq_ok_iff.mpr ⟨by omega, hcode, rfl⟩

/-! ## Patches -/

/-- **Counting.** A count that stands behind two bytes of payload goes up in place, unless it is full. -/
theorem increment_record_eq_ok_iff {front rest tail : Bytes} {type a b : UInt8} {count : Nat} (hcount : count ≤ 255)
    (hbytes : stream.bytes = front ++ (Record.bytes ⟨type, a :: b :: UInt8.ofNat count :: tail⟩ ++ rest)) :
    stream.increment (front.length + 4) = .ok next
      ↔ count < 255 ∧ next = { stream with
        bytes := front ++ (Record.bytes ⟨type, a :: b :: UInt8.ofNat (count + 1) :: tail⟩ ++ rest) } := by
  -- The record, split in front of its count.
  let size := UInt8.ofNat (Record.size ⟨type, a :: b :: UInt8.ofNat count :: tail⟩)
  have hsplit (n : UInt8) : front ++ (Record.bytes ⟨type, a :: b :: n :: tail⟩ ++ rest)
      = (front ++ [size, type, a, b]) ++ n :: (tail ++ rest) := by
    rw [List.append_assoc]
    rfl
  have hlength : (front ++ [size, type, a, b]).length = front.length + 4 := List.length_append
  have hfound : stream.bytes[front.length + 4]? = some (UInt8.ofNat count) := by
    rw [hbytes, hsplit, ← hlength, List.getElem?_append_right (Nat.le_refl _), Nat.sub_self]
    rfl
  have hset : stream.bytes.set (front.length + 4) (UInt8.ofNat count + 1)
      = front ++ (Record.bytes ⟨type, a :: b :: UInt8.ofNat (count + 1) :: tail⟩ ++ rest) := by
    rw [hbytes, hsplit, hsplit, ← hlength, List.set_append_right _ _ (Nat.le_refl _), Nat.sub_self,
      List.set_cons_zero, UInt8.ofNat_add]
    rfl
  have hfull : UInt8.ofNat count ≠ 0xFF ↔ count < 255 := by
    rw [Ne, ← UInt8.toNat_inj, UInt8.toNat_ofNat']
    show ¬count % 2 ^ 8 = 255 ↔ count < 255
    omega
  rw [increment_eq_ok_iff, hfound]
  constructor
  · rintro ⟨found, hsame, hroom, rfl⟩
    cases hsame
    exact ⟨hfull.mp hroom, by rw [hset]⟩
  · rintro ⟨hroom, rfl⟩
    exact ⟨_, rfl, hfull.mpr hroom, by rw [hset]⟩

theorem increment_configuration {header : ConfigurationHeader} {string count : Nat} {rest : Bytes}
    (hcount : count ≤ 255)
    (hbytes : stream.bytes
      = (StandardDescriptor.configuration.record (header.counted string 0 count)).bytes ++ rest)
    (h : stream.increment 4 = .ok next) :
    count + 1 ≤ 255 ∧ next = { stream with
      bytes := (StandardDescriptor.configuration.record (header.counted string 0 (count + 1))).bytes ++ rest } :=
  (@increment_record_eq_ok_iff stream next [] rest _ _ _ _ count hcount hbytes).mp h

theorem increment_interface {front rest : Bytes} {header : InterfaceHeader} {string count : Nat}
    (hcount : count ≤ 255)
    (hbytes : stream.bytes
      = front ++ ((StandardDescriptor.interface.record (header.counted string count)).bytes ++ rest))
    (h : stream.increment (front.length + 4) = .ok next) :
    count + 1 ≤ 255 ∧ next = { stream with
      bytes := front
        ++ ((StandardDescriptor.interface.record (header.counted string (count + 1))).bytes ++ rest) } :=
  (@increment_record_eq_ok_iff stream next front rest _ _ _ _ count hcount hbytes).mp h

/-- **Closing.** The length of a configuration reaches from its record to the end of the stream. -/
theorem closeConfiguration_record_eq_ok_iff {header : ConfigurationHeader} {string length count : Nat}
    {front rest : Bytes} (hopen : stream.configuration = some front.length)
    (hbytes : stream.bytes
      = front ++ ((StandardDescriptor.configuration.record (header.counted string length count)).bytes ++ rest)) :
    stream.closeConfiguration = .ok next
      ↔ 9 + rest.length < 0x10000 ∧ next = { stream with
        bytes := front ++ ((StandardDescriptor.configuration.record
          (header.counted string (9 + rest.length) count)).bytes ++ rest) } := by
  have hsize : stream.size = front.length + (9 + rest.length) := by
    rw [size, hbytes, List.length_append, List.length_append, Record.length_bytes]
    rfl
  have hspan : stream.size - front.length = 9 + rest.length := by omega
  have hplace : front.length + 4 ≤ stream.size := by omega
  have hpatched (n : Nat) : overwrite stream.bytes (front.length + 2) (Width.word.encode n)
      = front ++ ((StandardDescriptor.configuration.record (header.counted string n count)).bytes ++ rest) := by
    rw [hbytes, overwrite, List.take_length_add_append, List.append_assoc, List.append_assoc]
    rw [Nat.add_assoc, List.drop_length_add_append]
    rfl
  unfold closeConfiguration
  rw [hopen]
  simp only
  rw [hspan, hpatched]
  by_cases hroom : 9 + rest.length < 0x10000
  · rw [if_pos ⟨hplace, hroom⟩, Except.ok.injEq]
    exact ⟨fun h => ⟨hroom, h.symm⟩, fun h => h.2.symm⟩
  · rw [if_neg fun h => hroom h.2]
    refine ⟨fun h => ?_, fun h => absurd h.1 hroom⟩
    cases h

/-- The length of a configuration at the start is the one of the whole stream. -/
theorem close_record {header : ConfigurationHeader} {string count : Nat} {rest : Bytes}
    (hopen : stream.configuration = some 0)
    (hbytes : stream.bytes
      = (StandardDescriptor.configuration.record (header.counted string 0 count)).bytes ++ rest)
    (h : stream.closeConfiguration = .ok next) :
    stream.size < 0x10000 ∧ next.bytes
      = (StandardDescriptor.configuration.record (header.counted string stream.size count)).bytes ++ rest := by
  have hsize : stream.size = 9 + rest.length := by
    rw [size, hbytes, List.length_append, Record.length_bytes]
    rfl
  obtain ⟨hroom, rfl⟩ :=
    (@closeConfiguration_record_eq_ok_iff stream next header string 0 count [] rest hopen hbytes).mp h
  rw [hsize]
  exact ⟨hroom, rfl⟩

/-! ## Configurations, interfaces and endpoints -/

/-- **A configuration.** It closes the one that is open, and its record comes at the end. -/
theorem commit_beginConfiguration_eq_ok_iff {header : ConfigurationHeader} {strings : StringPool} :
    (stream.beginConfiguration header strings).commit = .ok next
      ↔ ∃ closed string, stream.closeConfiguration = .ok closed ∧ strings.index? header.string = some string
        ∧ (∀ field ∈ header.counted string 0 0, field.Fits)
        ∧ next = { closed with configuration := some closed.size, endpointCount := none : Stream }.append
          (StandardDescriptor.configuration.record (header.counted string 0 0)).bytes := by
  have hsmall (string : Nat) : (StandardDescriptor.configuration.record (header.counted string 0 0)).size ≤ 255 := by
    show 9 ≤ 255
    decide
  unfold beginConfiguration
  constructor
  · intro h
    cases hclose : stream.closeConfiguration with
    | error e =>
      rw [hclose] at h
      cases h
    | ok closed =>
      rw [hclose] at h
      obtain ⟨known, hknown, hfits, _, rfl⟩ := commit_writeFields_eq_ok_iff.mp h
      obtain ⟨string, hstring, rfl⟩ := ConfigurationHeader.fields_eq_ok_iff.mp hknown
      exact ⟨closed, string, rfl, hstring, hfits, rfl⟩
  · rintro ⟨closed, string, hclose, hstring, hfits, rfl⟩
    have hknown := ConfigurationHeader.fields_eq_ok_iff.mpr ⟨string, hstring, rfl⟩
    rw [hclose]
    exact commit_writeFields_eq_ok_iff.mpr ⟨_, hknown, hfits, hsmall string, rfl⟩

/-- **An interface.** It is counted in the configuration that is open, and its record comes at the end. -/
theorem commit_beginInterface_eq_ok_iff {header : InterfaceHeader} {strings : StringPool} :
    (stream.beginInterface header strings).commit = .ok next
      ↔ ∃ start counted string, stream.configuration = some start ∧ stream.increment (start + 4) = .ok counted
        ∧ strings.index? header.string = some string ∧ (∀ field ∈ header.counted string 0, field.Fits)
        ∧ next = { counted with endpointCount := some (counted.size + 4) : Stream }.append
          (StandardDescriptor.interface.record (header.counted string 0)).bytes := by
  have hsmall (string : Nat) : (StandardDescriptor.interface.record (header.counted string 0)).size ≤ 255 := by
    show 9 ≤ 255
    decide
  unfold beginInterface
  constructor
  · intro h
    split at h
    · cases h
    · next start hstart =>
      cases hcount : stream.increment (start + 4) with
      | error e =>
        rw [hcount] at h
        cases h
      | ok counted =>
        rw [hcount] at h
        obtain ⟨known, hknown, hfits, _, rfl⟩ := commit_writeFields_eq_ok_iff.mp h
        obtain ⟨string, hstring, rfl⟩ := InterfaceHeader.fields_eq_ok_iff.mp hknown
        exact ⟨start, counted, string, hstart, hcount, hstring, hfits, rfl⟩
  · rintro ⟨start, counted, string, hstart, hcount, hstring, hfits, rfl⟩
    have hknown := InterfaceHeader.fields_eq_ok_iff.mpr ⟨string, hstring, rfl⟩
    rw [hstart]
    simp only [hcount]
    exact commit_writeFields_eq_ok_iff.mpr ⟨_, hknown, hfits, hsmall string, rfl⟩

/-- **An endpoint.** It is counted in the interface that is open, and its record comes at the end. -/
theorem commit_writeEndpoint_eq_ok_iff {descriptor : Endpoint.Descriptor} :
    (stream.writeEndpoint descriptor).commit = .ok next
      ↔ ∃ place counted, stream.endpointCount = some place ∧ stream.increment place = .ok counted
        ∧ (∀ field ∈ descriptor.fields, field.Fits) ∧ next = counted.append descriptor.record.bytes := by
  have hsmall : (StandardDescriptor.endpoint.record descriptor.fields).size ≤ 255 := by
    show 7 ≤ 255
    decide
  unfold writeEndpoint
  constructor
  · intro h
    split at h
    · cases h
    · next place hplace =>
      cases hcount : stream.increment place with
      | error e =>
        rw [hcount] at h
        cases h
      | ok counted =>
        rw [hcount] at h
        obtain ⟨known, hknown, hfits, _, hnext⟩ := commit_writeFields_eq_ok_iff.mp h
        cases hknown
        exact ⟨place, counted, hplace, hcount, hfits, hnext⟩
  · rintro ⟨place, counted, hplace, hcount, hfits, rfl⟩
    rw [hplace]
    simp only [hcount]
    exact commit_writeFields_eq_ok_iff.mpr ⟨_, rfl, hfits, hsmall, rfl⟩

end Stream

end UsbCompiler
