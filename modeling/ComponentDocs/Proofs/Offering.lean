import ComponentDocs.Proofs.Steps
import ComponentDocs.Sink

/-! Texts offered to a sink one after another, up to the first that it refuses. What the
sink has taken depends only on the joined bytes, however the texts were cut. -/
namespace ComponentDocs

namespace Sink

def HasRoom (sink : Sink) (size : Nat) : Prop := ∀ room, sink.room = some room → size ≤ room

/-- The sink after it took all of `bytes` in so many writes. -/
def took (sink : Sink) (bytes : ByteArray) (writes : Nat) : Sink :=
  { sink with
    taken := sink.taken ++ bytes
    calls := List.replicate writes (.write true) ++ sink.calls
    room := sink.room.map (· - bytes.size) }

/-- The sink after `writes` complete writes and one that it cut, when it had room for
`room` of the bytes offered in all of them. -/
def cut (sink : Sink) (bytes : ByteArray) (room writes : Nat) : Sink :=
  { sink with
    taken := sink.taken ++ bytes.extract 0 room
    calls := .write false :: (List.replicate writes (.write true) ++ sink.calls)
    room := some 0 }

def refusal (sink : Sink) : Failure := sink.writeFailure.getD .noProgress

theorem hasRoom_append {sink : Sink} {first second : Nat} :
    sink.HasRoom (first + second) ↔
      sink.HasRoom first ∧ ∀ room, sink.room = some room → second ≤ room - first := by
  constructor
  · intro fits
    refine ⟨fun room limited => ?_, fun room limited => ?_⟩ <;>
      · have := fits room limited
        omega
  · rintro ⟨fits, left⟩ room limited
    have := fits room limited
    have := left room limited
    omega

theorem hasRoom_of_endless {sink : Sink} (endless : sink.room = none) (size : Nat) : sink.HasRoom size := by
  intro room limited
  rw [endless] at limited
  cases limited

theorem write_of_hasRoom {sink : Sink} {bytes : ByteArray} (fits : sink.HasRoom bytes.size) :
    sink.write bytes = (.ok (), sink.took bytes 1) := by
  cases limited : sink.room with
  | none => simp [write, took, limited]
  | some room => simp [write, took, limited, fits room limited]

theorem write_of_lt {sink : Sink} {bytes : ByteArray} {room : Nat} (limited : sink.room = some room)
    (short : room < bytes.size) :
    sink.write bytes = (.error sink.refusal, sink.cut bytes room 0) := by
  have exceeds : ¬ bytes.size ≤ room := by omega
  simp [write, cut, refusal, limited, exceeds]

def bytesOf (text : List Char) : ByteArray := (String.ofList text).toUTF8

theorem bytesOf_append (first second : List Char) :
    bytesOf (first ++ second) = bytesOf first ++ bytesOf second := by
  simp only [bytesOf, String.ofList_append, String.toUTF8_eq_toByteArray, String.toByteArray_append]

theorem bytesOf_injective {first second : List Char} (same : bytesOf first = bytesOf second) :
    first = second := by
  have strings : String.ofList first = String.ofList second :=
    String.toByteArray_inj.mp (by simpa only [bytesOf, String.toUTF8_eq_toByteArray] using same)
  exact String.ofList_injective strings

theorem took_took (sink : Sink) (first second : ByteArray) (writes : Nat) :
    (sink.took first 1).took second writes = sink.took (first ++ second) (writes + 1) := by
  simp only [took, ByteArray.append_assoc, ByteArray.size_append, Option.map_map,
    Function.comp_def, Nat.sub_sub, List.replicate_succ', List.replicate_zero, List.nil_append,
    List.append_assoc]

theorem took_cut (sink : Sink) (first second : ByteArray) {room : Nat} (fits : first.size ≤ room)
    (writes : Nat) :
    (sink.took first 1).cut second (room - first.size) writes =
      sink.cut (first ++ second) room (writes + 1) := by
  have whole : first.extract 0 room = first := by
    simpa only [Nat.max_eq_left fits] using
      (ByteArray.extract_zero_max_size (a := first) (i := room))
  simp only [took, cut, ByteArray.extract_append, whole, Nat.zero_sub, ByteArray.append_assoc,
    List.replicate_succ', List.replicate_zero, List.nil_append, List.append_assoc]

theorem cut_append (sink : Sink) (first second : ByteArray) {room : Nat} (short : room ≤ first.size) :
    sink.cut (first ++ second) room 0 = sink.cut first room 0 := by
  have beyond : second.extract (0 - first.size) (room - first.size) = .empty := by
    rw [Nat.sub_eq_zero_of_le short, Nat.zero_sub, ByteArray.extract_same]
  simp only [cut, ByteArray.extract_append, beyond, ByteArray.append_empty]

theorem offer_of_hasRoom {sink : Sink} {texts : List (List Char)}
    (fits : sink.HasRoom (bytesOf texts.flatten).size) :
    eachStep writeText texts sink = (.ok (), sink.took (bytesOf texts.flatten) texts.length) := by
  induction texts generalizing sink with
  | nil => simp [eachStep, took, bytesOf]
  | cons text texts ih =>
    rw [List.flatten_cons, bytesOf_append, ByteArray.size_append, hasRoom_append] at fits
    have rest : (sink.took (bytesOf text) 1).HasRoom (bytesOf texts.flatten).size := by
      intro room limited
      obtain ⟨before, known, rfl⟩ := Option.map_eq_some_iff.mp limited
      exact fits.2 before known
    have first : writeText text sink = (.ok (), sink.took (bytesOf text) 1) :=
      write_of_hasRoom fits.1
    simp only [eachStep, first]
    rw [ih rest, took_took, List.flatten_cons, bytesOf_append, List.length_cons]

/-- A sink without room for all texts takes as many bytes as it has room for, and nothing
is offered to it after the write that it cut. -/
theorem offer_of_lt {sink : Sink} {texts : List (List Char)} {room : Nat}
    (limited : sink.room = some room) (short : room < (bytesOf texts.flatten).size) :
    ∃ writes, eachStep writeText texts sink =
      (.error sink.refusal, sink.cut (bytesOf texts.flatten) room writes) := by
  induction texts generalizing sink room with
  | nil => simp [bytesOf] at short
  | cons text texts ih =>
    rw [List.flatten_cons, bytesOf_append] at short ⊢
    rw [ByteArray.size_append] at short
    by_cases here : room < (bytesOf text).size
    · have refused : writeText text sink = (.error sink.refusal, sink.cut (bytesOf text) room 0) :=
        write_of_lt limited here
      refine ⟨0, ?_⟩
      simp only [eachStep, refused]
      rw [cut_append _ _ _ (Nat.le_of_lt here)]
    · have fits : (bytesOf text).size ≤ room := by omega
      have taken : writeText text sink = (.ok (), sink.took (bytesOf text) 1) := by
        apply write_of_hasRoom
        intro other known
        rw [limited] at known
        cases known
        exact fits
      have left : (sink.took (bytesOf text) 1).room = some (room - (bytesOf text).size) := by
        simp only [took, limited, Option.map_some]
      obtain ⟨writes, offered⟩ := ih left (by omega)
      refine ⟨writes + 1, ?_⟩
      simp only [eachStep, taken]
      rw [offered, took_cut _ _ _ fits]
      rfl

end Sink

end ComponentDocs
