import UsbCompiler.Proofs.Descriptor.Run
import UsbCompiler.Proofs.Runs
import UsbCompiler.Proofs.StringPool.Asked

/-!
# `UsbCompiler.Proofs.Descriptor.Completing` — bytes can be taken out at any time

Taking bytes out writes into the stream: the length of the configuration that is open is filled in, as it is at
that time. The next descriptor makes this length wrong, and it is filled in again before anybody can see it. In
between nothing reads it, whatever has failed before. Calls that fail leave counts raised, and marks that point
beyond the end of the stream or at the bytes of other descriptors; but the count of endpoints that is raised next
never stands in front of the count of interfaces, and both stand behind the length.

A stream is therefore compared with the same stream without that length. Every call does the same to both, and
taking bytes out makes no difference between them.

## Contents
- `blankLength`: bytes without the length of a configuration.
- `Stream.blanked` and `Stream.Apart`: streams without it, and marks that keep away from it.
- `Stream.attempt`: a call that can fail.
- `Stream.Blind` and `Stream.blind_attempt`: no call sees the length. Calls that go on from a later stream
  (`Stream.goOn`) close a configuration first (`Stream.blind_close`) or raise a count (`Stream.blind_increment`).
- `Emitter`: a stream together with its strings, as it is written to call by call.
- `Emitter.results_completed`: bytes taken out any number of times.
-/

namespace UsbCompiler

/-! ## Bytes without a length -/

/-- Bytes with zeros for the length of the configuration that starts at a place. -/
def blankLength : Option Nat → Bytes → Bytes
  | none, bytes => bytes
  | some start, bytes => (bytes.set (start + 2) 0).set (start + 3) 0

section Bytes

variable {configuration : Option Nat} {bytes : Bytes}

/-- Two bytes written over inside are two bytes set. -/
theorem overwrite_pair {place : Nat} (inside : place + 2 ≤ bytes.length) (a b : UInt8) :
    overwrite bytes place [a, b] = (bytes.set place a).set (place + 1) b := by
  obtain ⟨front, rest, rfl, rfl⟩ : ∃ front rest, bytes = front ++ rest ∧ place = front.length :=
    ⟨bytes.take place, bytes.drop place, (List.take_append_drop place bytes).symm,
      (List.length_take_of_le (by omega)).symm⟩
  rw [List.length_append] at inside
  rcases rest with _ | ⟨x, _ | ⟨y, rest⟩⟩
  · simp only [List.length_nil] at inside
    omega
  · simp only [List.length_cons, List.length_nil] at inside
    omega
  · simp [overwrite, List.set_append_right]

/-- Setting two neighbours again undoes the first time. -/
theorem set_pair_set_pair (bytes : Bytes) (place : Nat) (a b c d : UInt8) :
    ((((bytes.set place a).set (place + 1) b).set place c).set (place + 1) d)
      = (bytes.set place c).set (place + 1) d := by
  rw [List.set_comm b c (by omega), List.set_set, List.set_set]

theorem set_append_set (bytes more : Bytes) (place : Nat) (byte : UInt8) :
    (bytes.set place byte ++ more).set place byte = (bytes ++ more).set place byte := by
  rw [List.set_append, List.set_append, List.length_set]
  split
  · rw [List.set_set]
  · next houtside => rw [List.set_eq_of_length_le (Nat.not_lt.mp houtside)]

@[simp] theorem length_blankLength : (blankLength configuration bytes).length = bytes.length := by
  cases configuration with
  | none => rfl
  | some start => rw [blankLength, List.length_set, List.length_set]

@[simp] theorem blankLength_blankLength :
    blankLength configuration (blankLength configuration bytes) = blankLength configuration bytes := by
  cases configuration with
  | none => rfl
  | some start => exact set_pair_set_pair bytes (start + 2) 0 0 0 0

/-- What comes behind may lie in the length, if the configuration itself was never written. -/
theorem blankLength_append (more : Bytes) :
    blankLength configuration (blankLength configuration bytes ++ more)
      = blankLength configuration (bytes ++ more) := by
  cases configuration with
  | none => rfl
  | some start =>
    simp only [blankLength]
    rw [List.set_comm _ _ (by omega), set_append_set, List.set_comm _ _ (by omega), set_append_set]

/-- Other places keep their bytes. -/
theorem getElem?_blankLength {place : Nat}
    (h : ∀ start, configuration = some start → place ≠ start + 2 ∧ place ≠ start + 3) :
    (blankLength configuration bytes)[place]? = bytes[place]? := by
  cases configuration with
  | none => rfl
  | some start =>
    obtain ⟨hlow, hhigh⟩ := h start rfl
    rw [blankLength, List.getElem?_set_ne hhigh.symm, List.getElem?_set_ne hlow.symm]

/-- Other places can be set before or after. -/
theorem blankLength_set {place : Nat} (byte : UInt8)
    (h : ∀ start, configuration = some start → place ≠ start + 2 ∧ place ≠ start + 3) :
    blankLength configuration (bytes.set place byte) = (blankLength configuration bytes).set place byte := by
  cases configuration with
  | none => rfl
  | some start =>
    obtain ⟨hlow, hhigh⟩ := h start rfl
    rw [blankLength, blankLength, List.set_comm _ _ hlow, List.set_comm _ _ hhigh]

end Bytes

namespace Stream

variable {stream next : Stream}

/-! ## Streams without the open length -/

/-- A stream without the length of the configuration that is open. -/
def blanked (stream : Stream) : Stream :=
  { stream with bytes := blankLength stream.configuration stream.bytes }

@[simp] theorem size_blanked : stream.blanked.size = stream.size := length_blankLength

@[simp] theorem blanked_blanked : stream.blanked.blanked = stream.blanked := by
  simp only [blanked, blankLength_blankLength]

/-- **Marks apart.** The endpoint count of the interface that is open stands behind the length and the interface count
    of the configuration that is open. -/
def Apart (stream : Stream) : Prop :=
  ∀ start place, stream.configuration = some start → stream.endpointCount = some place → start + 4 ≤ place

theorem apart_empty : empty.Apart := nofun

/-- So the count of endpoints does not stand in the length. -/
theorem Apart.place_ne (h : stream.Apart) {place : Nat} (hplace : stream.endpointCount = some place) :
    ∀ start, stream.configuration = some start → place ≠ start + 2 ∧ place ≠ start + 3 := by
  intro start hstart
  have hbehind := h start place hstart hplace
  omega

/-- Closing a configuration does not look at the length that was there. -/
theorem closeConfiguration_blanked : stream.blanked.closeConfiguration = stream.closeConfiguration := by
  obtain ⟨bytes, configuration, endpointCount⟩ := stream
  cases configuration with
  | none => rfl
  | some start =>
    simp only [closeConfiguration, size_blanked]
    simp only [blanked]
    split
    · next hinside =>
      have hlength : start + 2 + 2 ≤ bytes.length := hinside.1
      rw [Width.encode, overwrite_pair hlength, overwrite_pair (by rwa [length_blankLength]), blankLength,
        set_pair_set_pair]
    · rfl

/-- Closing a configuration changes nothing but the length. -/
theorem blanked_of_closeConfiguration (h : stream.closeConfiguration = .ok next) : next.blanked = stream.blanked := by
  obtain ⟨bytes, configuration, endpointCount⟩ := stream
  cases configuration with
  | none =>
    cases h
    rfl
  | some start =>
    simp only [closeConfiguration] at h
    split at h
    · next hinside =>
      cases h
      have hlength : start + 2 + 2 ≤ bytes.length := hinside.1
      simp only [blanked, Width.encode, overwrite_pair hlength, blankLength, set_pair_set_pair]
    · cases h

/-- Counting anywhere else works as if the length were not there. -/
theorem increment_blanked {place : Nat}
    (h : ∀ start, stream.configuration = some start → place ≠ start + 2 ∧ place ≠ start + 3) :
    stream.blanked.increment place = (stream.increment place).map blanked := by
  unfold increment
  simp only [blanked, getElem?_blankLength h]
  split
  · rfl
  · split
    · rfl
    · simp only [Except.map, blanked, blankLength_set _ h]

/-! ## Calls that can fail -/

/-- What a stream answers to a call: its bytes if they are taken out. -/
inductive Answer where
  | written
  | bytes (bytes : Bytes)
deriving DecidableEq

/-- A call on a stream, with the stream that it leaves behind if it fails. -/
def attempt (stream : Stream) : Call → Outcome Stream Answer
  | .record type payload => (stream.writeRecord type payload).map fun _ => .written
  | .extra descriptor => (stream.writeExtra descriptor).map fun _ => .written
  | .device header configurations strings =>
    (stream.writeDevice header configurations strings).map fun _ => .written
  | .configuration header strings => (stream.beginConfiguration header strings).map fun _ => .written
  | .interface header strings => (stream.beginInterface header strings).map fun _ => .written
  | .endpoint descriptor => (stream.writeEndpoint descriptor).map fun _ => .written
  | .text text => (stream.writeString text).map fun _ => .written
  | .languages languages => (stream.writeLanguages languages).map fun _ => .written
  | .complete => stream.complete.map .bytes

/-! ## No call sees the length -/

/-- Goes on from a later stream if it is reached. -/
def goOn {α : Type} (stream : Stream) (reached : Except Error Stream) (rest : Stream → Outcome Stream α) :
    Outcome Stream α :=
  match reached with
  | .error e => .fail stream e
  | .ok later => rest later

/-- **Blind operations.** An operation does the same to a stream and to the one without the open length, up to the
    length that is open afterwards, and keeps marks apart from it. -/
structure Blind {α : Type} (operation : Stream → Outcome Stream α) (stream : Stream) : Prop where
  result : (operation stream.blanked).result = (operation stream).result
  state : (operation stream.blanked).state.blanked = (operation stream).state.blanked
  apart : (operation stream).state.Apart

section Blind

variable {α β : Type} {operation : Stream → Outcome Stream α}

theorem Blind.map (h : Blind operation stream) (f : α → β) : Blind (fun s => (operation s).map f) stream :=
  ⟨congrArg (Except.map f) h.result, h.state, h.apart⟩

/-- An operation that goes on with another one from a later stream is as blind as the other one. -/
theorem Blind.of_eq {other : Stream → Outcome Stream α} (h : Blind other next)
    (hblanked : operation stream.blanked = other next.blanked) (hsame : operation stream = other next) :
    Blind operation stream := by
  refine ⟨?_, ?_, ?_⟩
  · rw [hblanked, hsame]
    exact h.result
  · rw [hblanked, hsame]
    exact h.state
  · rw [hsame]
    exact h.apart

/-- An operation that is refused leaves the stream as it is. -/
theorem blind_fail (hstream : stream.Apart) (e : Error) :
    Blind (fun s => .fail s e : Stream → Outcome Stream α) stream :=
  ⟨rfl, blanked_blanked, hstream⟩

/-- An operation that closes the configuration first goes on from one and the same stream. -/
theorem blind_close (hstream : stream.Apart) {rest : Stream → Outcome Stream α}
    (hrest : ∀ closed, stream.closeConfiguration = .ok closed → (rest closed).state.Apart) :
    Blind (fun s => s.goOn s.closeConfiguration rest) stream := by
  cases hclose : stream.closeConfiguration with
  | error e =>
    refine (blind_fail hstream e).of_eq ?_ ?_
    · simp only [goOn, closeConfiguration_blanked, hclose]
    · simp only [goOn, hclose]
  | ok closed =>
    refine ⟨?_, ?_, ?_⟩
    · simp only [goOn, closeConfiguration_blanked, hclose]
    · simp only [goOn, closeConfiguration_blanked, hclose]
    · simp only [goOn, hclose]
      exact hrest closed hclose

/-- An operation that raises a count elsewhere first is as blind as the rest of it. -/
theorem blind_increment (hstream : stream.Apart) {place : Nat} {rest : Stream → Outcome Stream α}
    (hplace : ∀ start, stream.configuration = some start → place ≠ start + 2 ∧ place ≠ start + 3)
    (hrest : ∀ counted, stream.increment place = .ok counted → Blind rest counted) :
    Blind (fun s => s.goOn (s.increment place) rest) stream := by
  have hblanked := increment_blanked hplace
  cases hcount : stream.increment place with
  | error e =>
    rw [hcount] at hblanked
    refine (blind_fail hstream e).of_eq ?_ ?_
    · simp only [goOn, hblanked, Except.map]
    · simp only [goOn, hcount]
  | ok counted =>
    rw [hcount] at hblanked
    refine (hrest counted hcount).of_eq ?_ ?_
    · simp only [goOn, hblanked, Except.map]
    · simp only [goOn, hcount]

end Blind

theorem blanked_append (bytes : Bytes) : (stream.blanked.append bytes).blanked = (stream.append bytes).blanked := by
  simp only [blanked, append, blankLength_append]

theorem Apart.append (hstream : stream.Apart) (bytes : Bytes) : (stream.append bytes).Apart := hstream

theorem blind_writeRecord (hstream : stream.Apart) (type : Int) (payload : Bytes) :
    Blind (·.writeRecord type payload) stream := by
  unfold writeRecord
  split
  · exact blind_fail hstream _
  · split
    · exact ⟨rfl, blanked_append _, hstream.append _⟩
    · exact ⟨rfl, blanked_append _, hstream.append _⟩

theorem blind_writeString (hstream : stream.Apart) (text : Text) : Blind (·.writeString text) stream := by
  unfold writeString
  split
  · exact blind_fail hstream _
  · exact blind_writeRecord hstream _ _

theorem blind_writeFields (hstream : stream.Apart) (type : StandardDescriptor) (fields : Except Error (List Field)) :
    Blind (·.writeFields type fields) stream := by
  unfold writeFields
  split
  · exact blind_fail hstream _
  · exact blind_writeRecord hstream _ _

/-- A new configuration has no interface whose count could be in the way. -/
theorem blind_beginConfiguration (hstream : stream.Apart) (header : ConfigurationHeader) (strings : StringPool) :
    Blind (·.beginConfiguration header strings) stream := by
  refine blind_close hstream fun closed _ => ?_
  have hopened : Apart { closed with configuration := some closed.size, endpointCount := none } := by
    intro first place _ hplace
    cases hplace
  exact (blind_writeFields hopened .configuration (header.fields strings)).apart

/-- A new interface begins behind the interface count of its configuration, which has just been found. -/
theorem blind_beginInterface (hstream : stream.Apart) (header : InterfaceHeader) (strings : StringPool) :
    Blind (·.beginInterface header strings) stream := by
  cases hopen : stream.configuration with
  | none =>
    refine (blind_fail hstream .interfaceOutsideConfiguration).of_eq ?_ ?_
    · simp only [beginInterface, blanked, hopen]
    · simp only [beginInterface, hopen]
  | some start =>
    have hplace : ∀ first, stream.configuration = some first → start + 4 ≠ first + 2 ∧ start + 4 ≠ first + 3 := by
      intro first hfirst
      rw [hopen] at hfirst
      cases hfirst
      omega
    let begun (counted : Stream) : Stream := { counted with endpointCount := some (counted.size + 4) }
    have hrest (counted : Stream) (hcount : stream.increment (start + 4) = .ok counted) :
        Blind (fun counted => (begun counted).writeFields .interface (header.fields strings)) counted := by
      have hbegun : (begun counted).Apart := by
        obtain ⟨count, hfound, _, rfl⟩ := increment_eq_ok_iff.mp hcount
        obtain ⟨hinside, _⟩ := List.getElem?_eq_some_iff.mp hfound
        intro first place hfirst hlast
        have hfirst : stream.configuration = some first := hfirst
        rw [hopen] at hfirst
        cases hfirst
        cases hlast
        simp only [size, List.length_set]
        omega
      refine (blind_writeFields hbegun .interface (header.fields strings)).of_eq ?_ rfl
      simp only [begun, size_blanked]
      rfl
    refine (blind_increment hstream hplace hrest).of_eq ?_ ?_
    · simp only [beginInterface, blanked, hopen]
      rfl
    · simp only [beginInterface, hopen]
      rfl

theorem blind_writeEndpoint (hstream : stream.Apart) (descriptor : Endpoint.Descriptor) :
    Blind (·.writeEndpoint descriptor) stream := by
  cases hopen : stream.endpointCount with
  | none =>
    refine (blind_fail hstream .endpointOutsideInterface).of_eq ?_ ?_
    · simp only [writeEndpoint, blanked, hopen]
    · simp only [writeEndpoint, hopen]
  | some place =>
    have hrest (counted : Stream) (hcount : stream.increment place = .ok counted) :
        Blind (·.writeFields .endpoint (.ok descriptor.fields)) counted := by
      have hcounted : counted.Apart := by
        obtain ⟨_, _, _, rfl⟩ := increment_eq_ok_iff.mp hcount
        exact hstream
      exact blind_writeFields hcounted .endpoint (.ok descriptor.fields)
    refine (blind_increment hstream (hstream.place_ne hopen) hrest).of_eq ?_ ?_
    · simp only [writeEndpoint, blanked, hopen]
      rfl
    · simp only [writeEndpoint, hopen]
      rfl

theorem Apart.of_closeConfiguration (hstream : stream.Apart) (h : stream.closeConfiguration = .ok next) :
    next.Apart := by
  unfold closeConfiguration at h
  split at h
  · cases h
    exact hstream
  · split at h
    · cases h
      exact hstream
    · cases h

theorem blind_complete (hstream : stream.Apart) : Blind complete stream :=
  blind_close hstream fun _ hclose => hstream.of_closeConfiguration hclose

/-- **No call sees the open length.** -/
theorem blind_attempt (hstream : stream.Apart) (call : Call) : Blind (·.attempt call) stream := by
  cases call with
  | record type payload => exact (blind_writeRecord hstream type payload).map _
  | extra descriptor => exact (blind_writeRecord hstream descriptor.type descriptor.data).map _
  | device header configurations strings => exact (blind_writeFields hstream .device _).map _
  | configuration header strings => exact (blind_beginConfiguration hstream header strings).map _
  | interface header strings => exact (blind_beginInterface hstream header strings).map _
  | endpoint descriptor => exact (blind_writeEndpoint hstream descriptor).map _
  | text text => exact (blind_writeString hstream text).map _
  | languages languages => exact (blind_writeFields hstream .string _).map _
  | complete => exact (blind_complete hstream).map _

/-! ## Taking bytes out -/

/-- Taking bytes out changes nothing but the open length. -/
theorem blanked_complete (stream : Stream) : stream.complete.state.blanked = stream.blanked := by
  cases hclose : stream.closeConfiguration with
  | error e => simp only [complete, hclose, Outcome.fail]
  | ok closed =>
    simp only [complete, hclose, Outcome.ok]
    exact blanked_of_closeConfiguration hclose

/-- Calls on two streams that differ in the open length alone. -/
theorem attempt_of_blanked_eq {other : Stream} (hstream : stream.Apart) (hother : other.Apart)
    (h : stream.blanked = other.blanked) (call : Call) :
    (stream.attempt call).result = (other.attempt call).result
      ∧ (stream.attempt call).state.blanked = (other.attempt call).state.blanked := by
  have hleft := blind_attempt hstream call
  have hright := blind_attempt hother call
  rw [← hleft.result, ← hright.result, ← hleft.state, ← hright.state, h]
  exact ⟨rfl, rfl⟩

end Stream

/-! ## Streams with their strings -/

/-- A stream and the pool of the strings that its descriptors show. -/
structure Emitter where
  stream : Stream := {}
  strings : StringPool := .empty
deriving DecidableEq

namespace Emitter

/-- A call: the index of a string is asked for, or the number of bytes that have been written, or the stream is
    called. Calls on the stream that look strings up use the pool as it is then. -/
inductive Call where
  | intern (source : StringSource)
  | position
  | write (call : StringPool → Stream.Call)

/-- Takes the bytes out. -/
def Call.complete : Call := .write fun _ => .complete

/-- What is answered to a call. -/
inductive Answer where
  | index (index : Nat)
  | position (size : Nat)
  | stream (answer : Stream.Answer)
deriving DecidableEq

/-- A call, with the state that it leaves behind, failed or not. -/
def perform (emitter : Emitter) : Call → Outcome Emitter Answer
  | .intern source =>
    let outcome := emitter.strings.ask source
    ⟨{ emitter with strings := outcome.state }, outcome.result.map .index⟩
  | .position => .ok emitter (.position emitter.stream.size)
  | .write call =>
    let outcome := emitter.stream.attempt (call emitter.strings)
    ⟨{ emitter with stream := outcome.state }, outcome.result.map .stream⟩

/-- Emitters that differ in the open length at most. -/
structure Alike (one other : Emitter) : Prop where
  apart : one.stream.Apart
  otherApart : other.stream.Apart
  blanked : one.stream.blanked = other.stream.blanked
  strings : one.strings = other.strings

theorem alike_empty : Alike {} {} := ⟨Stream.apart_empty, Stream.apart_empty, rfl, rfl⟩

variable {one other : Emitter}

theorem Alike.size_eq (h : Alike one other) : one.stream.size = other.stream.size := by
  rw [← Stream.size_blanked, h.blanked, Stream.size_blanked]

/-- The same call has the same answer, and keeps emitters alike. -/
theorem Alike.perform (h : Alike one other) (call : Call) :
    (one.perform call).result = (other.perform call).result
      ∧ Alike (one.perform call).state (other.perform call).state := by
  obtain ⟨stream, strings⟩ := one
  obtain ⟨otherStream, otherStrings⟩ := other
  obtain ⟨hapart, hother, hblanked, hstrings⟩ := h
  cases hstrings
  cases call with
  | intern source => exact ⟨rfl, hapart, hother, hblanked, rfl⟩
  | position =>
    have hsize := Alike.size_eq ⟨hapart, hother, hblanked, rfl⟩
    refine ⟨?_, hapart, hother, hblanked, rfl⟩
    simp only [Emitter.perform, Outcome.ok]
    rw [hsize]
  | write call =>
    obtain ⟨hresult, hstate⟩ := Stream.attempt_of_blanked_eq hapart hother hblanked (call strings)
    refine ⟨?_, ?_, ?_, hstate, rfl⟩
    · simp only [Emitter.perform]
      rw [hresult]
    · exact (Stream.blind_attempt hapart (call strings)).apart
    · exact (Stream.blind_attempt hother (call strings)).apart

/-- One more time the bytes are taken out, and nothing else can tell. -/
theorem Alike.complete (h : Alike one other) : Alike (one.perform .complete).state other where
  apart := (Stream.blind_complete h.apart).apart
  otherApart := h.otherApart
  blanked := (Stream.blanked_complete one.stream).trans h.blanked
  strings := h.strings

/-- **Bytes can be taken out at any time.** Insert calls that take the bytes out at any places of any calls, failing
    ones included: all other calls, later ones that take bytes out among them, have the same results, and the same
    number of bytes has been written. Bytes that are taken out twice in a row are the same, or fail alike. -/
theorem results_completed (padded : List (Option Call)) :
    let calls := padded.filterMap id
    let completed := padded.map (·.getD .complete)
    Outcome.kept padded (Outcome.results perform {} completed) = Outcome.results perform {} calls
      ∧ (Outcome.run perform {} completed).stream.size = (Outcome.run perform {} calls).stream.size
      ∧ ∃ result, Outcome.results perform (Outcome.run perform {} completed) [.complete, .complete]
        = [result, result] := by
  intro calls completed
  have hcall (one other : Emitter) (call : Call) (h : Alike one other) :
      (one.perform call).result = (other.perform call).result
        ∧ Alike (one.perform call).state (other.perform call).state := h.perform call
  have hcomplete (one other : Emitter) (h : Alike one other) : Alike (one.perform .complete).state other := h.complete
  obtain ⟨hresults, hrun⟩ := Outcome.results_inserted hcall hcomplete padded alike_empty
  let last := Outcome.run perform {} completed
  have hlast : Alike last last := ⟨hrun.apart, hrun.apart, rfl, rfl⟩
  have htwice : ((last.perform .complete).state.perform .complete).result = (last.perform .complete).result :=
    (hlast.complete.perform .complete).1
  refine ⟨hresults, hrun.size_eq, (last.perform .complete).result, ?_⟩
  show [(last.perform .complete).result, ((last.perform .complete).state.perform .complete).result] = _
  rw [htwice]

/-- A configuration whose string is unknown is refused, but stays open. The length that is filled in from then on
    belongs to another descriptor, and so does the count that an interface raises; bytes taken out in between do
    not change what comes out in the end. -/
theorem results_completed_refused :
    let padded : List (Option Call) := [
      some (.write fun strings => .configuration { string := .literal "late" } strings), none,
      some (.intern (.literal "late")), some (.write fun _ => .record 0x24 [1, 2, 3]), none,
      some (.write fun strings => .interface {} strings), none, none, some .position, some .complete]
    Outcome.kept padded (Outcome.results perform {} (padded.map (·.getD .complete)))
      = [.error (.unknownString (.literal "late")), .ok (.index 1), .ok (.stream .written), .ok (.stream .written),
        .ok (.position 14), .ok (.stream (.bytes [5, 0x24, 14, 0, 4, 9, 4, 0, 0, 0, 0, 0, 0, 0]))] := by
  intro padded
  rw [(results_completed padded).1]
  rfl

end Emitter

end UsbCompiler
