import UsbCompiler.Proofs.Descriptor.Completing

/-!
# `UsbCompiler.Proofs.Descriptor.Room` — room for one more endpoint

The interface that is open tells of a number of endpoints, in a byte that was written before any of them. As long as
this byte is not full, an endpoint whose numbers fit is written, whatever else is in the stream and however it came
there. The byte is zero when the interface begins and goes up with each endpoint. Nothing else that is written behind
the interface touches it: descriptors only go to the end, and the length that is filled in when bytes are taken out
stands in front of it. Endpoints that are refused for their numbers have been counted by then, so they take up room
as well.

## Contents
- `Stream.endpoints?` and `HasRoom`: the number of endpoints that the open interface tells of.
- `Stream.exists_increment` and `HasRoom.exists_writeEndpoint`: an endpoint is written where there is room.
- `Stream.exists_append_writeRecord`, `exists_append_writeString` and `exists_append_writeFields`: descriptors only go
  to the end.
- `Stream.InInterface`: streams in an interface, by the calls since it began.
- `InInterface.endpoints?_eq` and `InInterface.hasRoom`: the number of endpoints is the number of calls to write one.
-/

namespace UsbCompiler.Stream

variable {stream next : Stream} {n : Nat}

/-- The number of endpoints that the open interface tells of. -/
def endpoints? (stream : Stream) : Option UInt8 := stream.endpointCount.bind fun place => stream.bytes[place]?

theorem endpoints?_eq_some_iff {count : UInt8} :
    stream.endpoints? = some count ↔ ∃ place, stream.endpointCount = some place ∧ stream.bytes[place]? = some count :=
  Option.bind_eq_some_iff

/-- **Room for one more.** The interface that is open tells of fewer than 255 endpoints. -/
def HasRoom (stream : Stream) : Prop := ∃ count, stream.endpoints? = some count ∧ count < 0xFF

/-- Where there is room, the number goes up. -/
theorem exists_increment {count : UInt8} (hcount : stream.endpoints? = some count) (hroom : count < 0xFF) :
    ∃ place, stream.endpointCount = some place ∧ place < stream.bytes.length
      ∧ stream.increment place = .ok { stream with bytes := stream.bytes.set place (count + 1) } := by
  obtain ⟨place, hplace, hfound⟩ := endpoints?_eq_some_iff.mp hcount
  obtain ⟨hinside, _⟩ := List.getElem?_eq_some_iff.mp hfound
  exact ⟨place, hplace, hinside, increment_eq_ok_iff.mpr ⟨count, hfound, UInt8.ne_of_lt hroom, rfl⟩⟩

/-- **An endpoint where there is room.** It is written behind all that was there, of which nothing but the count
    changes. -/
theorem HasRoom.exists_writeEndpoint (hroom : stream.HasRoom) {descriptor : Endpoint.Descriptor}
    (hfits : ∀ field ∈ descriptor.fields, field.Fits) :
    ∃ place count, stream.endpointCount = some place ∧ stream.bytes[place]? = some count
      ∧ (stream.writeEndpoint descriptor).commit = .ok { stream with
        bytes := stream.bytes.set place (count + 1) ++ descriptor.record.bytes } := by
  obtain ⟨count, hcount, hless⟩ := hroom
  obtain ⟨place, hplace, hinside, hincrement⟩ := exists_increment hcount hless
  refine ⟨place, count, hplace, ?_, ?_⟩
  · rw [endpoints?, hplace] at hcount
    exact hcount
  · exact commit_writeEndpoint_eq_ok_iff.mpr ⟨place, _, hplace, hincrement, hfits, rfl⟩

/-! ## Writing at the end -/

theorem append_nil (stream : Stream) : stream.append [] = stream := by
  rw [append, List.append_nil]

/-- A descriptor goes to the end, as far as it is written at all. -/
theorem exists_append_writeRecord (stream : Stream) (type : Int) (payload : Bytes) :
    ∃ more, (stream.writeRecord type payload).state = stream.append more := by
  unfold writeRecord
  split
  · exact ⟨[], stream.append_nil.symm⟩
  · split
    · exact ⟨_, rfl⟩
    · exact ⟨_, rfl⟩

theorem exists_append_writeString (stream : Stream) (text : Text) :
    ∃ more, (stream.writeString text).state = stream.append more := by
  unfold writeString
  split
  · exact ⟨[], stream.append_nil.symm⟩
  · exact exists_append_writeRecord ..

theorem exists_append_writeFields (stream : Stream) (type : StandardDescriptor) (fields : Except Error (List Field)) :
    ∃ more, (stream.writeFields type fields).state = stream.append more := by
  unfold writeFields
  split
  · exact ⟨[], stream.append_nil.symm⟩
  · exact exists_append_writeRecord ..

/-- What is written at the end is not counted. -/
theorem endpoints?_append {count : UInt8} (h : stream.endpoints? = some count) (more : Bytes) :
    (stream.append more).endpoints? = some count := by
  obtain ⟨place, hplace, hfound⟩ := endpoints?_eq_some_iff.mp h
  obtain ⟨hinside, _⟩ := List.getElem?_eq_some_iff.mp hfound
  refine endpoints?_eq_some_iff.mpr ⟨place, hplace, ?_⟩
  rw [append, List.getElem?_append_left hinside]
  exact hfound

/-! ## Streams in an interface -/

/-- **Streams in an interface.** The interface that is open has begun, after any calls, some of which may have failed.
    Since then there were `n` calls that write an endpoint, and any others that begin neither an interface nor a
    configuration. Calls count whether they fail or not. -/
inductive InInterface : Stream → Nat → Prop where
  | begun {earlier : List Call} {header : InterfaceHeader} {strings : StringPool} {next : Stream} :
      ((Outcome.run attempt empty earlier).beginInterface header strings).commit = .ok next → InInterface next 0
  | endpoint {stream : Stream} {n : Nat} (descriptor : Endpoint.Descriptor) :
      InInterface stream n → InInterface (stream.writeEndpoint descriptor).state (n + 1)
  | other {stream : Stream} {n : Nat} {call : Call} :
      call.rank = 0 → InInterface stream n → InInterface (stream.attempt call).state n

/-- Calls keep the marks apart, whether they fail or not. -/
theorem apart_run (calls : List Call) : (Outcome.run attempt empty calls).Apart := by
  induction calls using List.reverseRecOn with
  | nil => exact apart_empty
  | append_singleton calls call ih =>
    rw [Outcome.run_append]
    exact (blind_attempt ih call).apart

/-- An interface begins with no endpoints. -/
theorem endpoints?_of_beginInterface {header : InterfaceHeader} {strings : StringPool}
    (h : (stream.beginInterface header strings).commit = .ok next) : next.endpoints? = some 0 := by
  obtain ⟨_, counted, string, _, _, _, _, rfl⟩ := commit_beginInterface_eq_ok_iff.mp h
  let record := StandardDescriptor.interface.record (header.counted string 0)
  have hcount : (counted.bytes ++ record.bytes)[counted.bytes.length + 4]? = some 0 := by
    rw [List.getElem?_append_right (Nat.le_add_right ..), Nat.add_sub_cancel_left]
    rfl
  exact endpoints?_eq_some_iff.mpr ⟨counted.size + 4, rfl, hcount⟩

/-- An endpoint is counted before its numbers are looked at. -/
theorem endpoints?_writeEndpoint {count : UInt8} (h : stream.endpoints? = some count) (hroom : count < 0xFF)
    (descriptor : Endpoint.Descriptor) : (stream.writeEndpoint descriptor).state.endpoints? = some (count + 1) := by
  obtain ⟨place, hplace, hinside, hincrement⟩ := exists_increment h hroom
  let counted : Stream := { stream with bytes := stream.bytes.set place (count + 1) }
  have hcounted : counted.endpoints? = some (count + 1) :=
    endpoints?_eq_some_iff.mpr ⟨place, hplace, List.getElem?_set_self hinside⟩
  obtain ⟨more, hmore⟩ := exists_append_writeFields counted .endpoint (.ok descriptor.fields)
  have hstate : (stream.writeEndpoint descriptor).state = counted.append more := by
    rw [writeEndpoint, hplace]
    simp only [hincrement]
    exact hmore
  rw [hstate]
  exact endpoints?_append hcounted more

/-- The length of the configuration that is open stands in front of the count. -/
theorem endpoints?_blanked (hapart : stream.Apart) : stream.blanked.endpoints? = stream.endpoints? := by
  cases hopen : stream.endpointCount with
  | none => simp only [endpoints?, blanked, hopen, Option.bind_none]
  | some place =>
    simp only [endpoints?, blanked, hopen, Option.bind_some, getElem?_blankLength (hapart.place_ne hopen)]

/-- So it can be filled in without a change to the count. -/
theorem endpoints?_complete (hapart : stream.Apart) : stream.complete.state.endpoints? = stream.endpoints? := by
  rw [← endpoints?_blanked (blind_complete hapart).apart, blanked_complete, endpoints?_blanked hapart]

/-- Calls that begin nothing and write no endpoint leave the count as it is. -/
theorem endpoints?_attempt (hapart : stream.Apart) {count : UInt8} (h : stream.endpoints? = some count) {call : Call}
    (hcall : call.rank = 0) : (stream.attempt call).state.endpoints? = some count := by
  have hend {state : Stream} (happend : ∃ more, state = stream.append more) : state.endpoints? = some count := by
    obtain ⟨more, rfl⟩ := happend
    exact endpoints?_append h more
  cases call with
  | record type payload => exact hend (exists_append_writeRecord ..)
  | extra descriptor => exact hend (exists_append_writeRecord ..)
  | device header configurations strings => exact hend (exists_append_writeFields ..)
  | text text => exact hend (exists_append_writeString ..)
  | languages languages => exact hend (exists_append_writeFields ..)
  | complete => exact (endpoints?_complete hapart).trans h
  | configuration header strings | interface header strings | endpoint descriptor => simp [Call.rank] at hcall

/-- **Endpoints are counted.** The open interface tells of as many endpoints as there were calls to write one. -/
theorem InInterface.endpoints?_eq (h : stream.InInterface n) (hn : n ≤ 0xFF) :
    stream.Apart ∧ stream.endpoints? = some (UInt8.ofNat n) := by
  induction h with
  | @begun earlier header strings _ hbegin =>
    have hblind := blind_attempt (apart_run earlier) (.interface header strings)
    obtain ⟨_, hstate⟩ := Outcome.commit_eq_ok_iff.mp hbegin
    exact ⟨hstate ▸ hblind.apart, endpoints?_of_beginInterface hbegin⟩
  | @endpoint stream n descriptor _ ih =>
    obtain ⟨hapart, hcount⟩ := ih (by omega)
    have hroom : UInt8.ofNat n < 0xFF := by
      rw [UInt8.lt_iff_toNat_lt, UInt8.toNat_ofNat']
      show n % 2 ^ 8 < 255
      omega
    refine ⟨(blind_attempt hapart (.endpoint descriptor)).apart, ?_⟩
    rw [endpoints?_writeEndpoint hcount hroom descriptor, UInt8.ofNat_add]
    rfl
  | other hcall _ ih =>
    obtain ⟨hapart, hcount⟩ := ih hn
    exact ⟨(blind_attempt hapart _).apart, endpoints?_attempt hapart hcount hcall⟩

/-- With fewer than 255 of them there is room for another one. -/
theorem InInterface.hasRoom (h : stream.InInterface n) (hn : n < 0xFF) : stream.HasRoom := by
  obtain ⟨_, hcount⟩ := h.endpoints?_eq (Nat.le_of_lt hn)
  refine ⟨_, hcount, ?_⟩
  rw [UInt8.lt_iff_toNat_lt, UInt8.toNat_ofNat']
  show n % 2 ^ 8 < 255
  omega

end UsbCompiler.Stream
