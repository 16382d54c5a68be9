import ComponentDocs.Proofs.Offering

/-! Texts in UTF-8. All bytes of a character beyond ASCII lie beyond ASCII, so an ASCII piece
stands among the bytes of a text only where it stands among its characters. -/
namespace ComponentDocs

namespace Text

open String (utf8EncodeChar)

def IsAscii (text : List Char) : Prop := ∀ c ∈ text, c.toNat < 128

theorem encode_of_lt {c : Char} (ascii : c.toNat < 128) : utf8EncodeChar c = [UInt8.ofNat c.toNat] := by
  have bound : c.val.toNat ≤ 127 := Nat.le_of_lt_succ ascii
  simp only [utf8EncodeChar, if_pos bound]
  rfl

theorem le_of_mem_encode {c : Char} (beyond : 128 ≤ c.toNat) {byte : UInt8}
    (inside : byte ∈ utf8EncodeChar c) : 128 ≤ byte.toNat := by
  have beyond : ¬ c.val.toNat ≤ 127 := Nat.not_le_of_lt beyond
  have small : c.val.toNat < 0x110000 := by
    rcases c.valid with low | ⟨-, high⟩
    · exact Nat.lt_trans low (by decide)
    · exact high
  simp only [utf8EncodeChar, if_neg beyond] at inside
  split at inside
  · simp only [List.mem_cons, List.not_mem_nil, or_false] at inside
    rcases inside with rfl | rfl <;> simp only [UInt8.toNat_ofNat'] <;> omega
  split at inside
  · simp only [List.mem_cons, List.not_mem_nil, or_false] at inside
    rcases inside with rfl | rfl | rfl <;> simp only [UInt8.toNat_ofNat'] <;> omega
  · simp only [List.mem_cons, List.not_mem_nil, or_false] at inside
    rcases inside with rfl | rfl | rfl | rfl <;> simp only [UInt8.toNat_ofNat'] <;> omega

theorem eq_of_mem_encode {a c : Char} (ascii : a.toNat < 128)
    (inside : UInt8.ofNat a.toNat ∈ utf8EncodeChar c) : c = a := by
  have known : (UInt8.ofNat a.toNat).toNat = a.toNat := by
    rw [UInt8.toNat_ofNat']
    omega
  have small : c.toNat < 128 := by
    apply Nat.lt_of_not_le
    intro beyond
    have := le_of_mem_encode beyond inside
    omega
  rw [encode_of_lt small, List.mem_singleton] at inside
  have same := congrArg UInt8.toNat inside
  rw [known, UInt8.toNat_ofNat'] at same
  exact Char.toNat_inj.mp (by omega)

/-- Bytes are cut at an ASCII byte where the text is cut at its character. -/
theorem split_at_ascii {a : Char} (ascii : a.toNat < 128) {text : List Char} {before after : List UInt8}
    (cut : text.flatMap utf8EncodeChar = before ++ UInt8.ofNat a.toNat :: after) :
    ∃ front back, text = front ++ a :: back ∧ before = front.flatMap utf8EncodeChar ∧
      after = back.flatMap utf8EncodeChar := by
  induction text generalizing before with
  | nil => simp at cut
  | cons c rest ih =>
    have behind {between : List UInt8} (starts : before = utf8EncodeChar c ++ between)
        (cut : rest.flatMap utf8EncodeChar = between ++ UInt8.ofNat a.toNat :: after) :
        ∃ front back, c :: rest = front ++ a :: back ∧ before = front.flatMap utf8EncodeChar ∧
          after = back.flatMap utf8EncodeChar := by
      obtain ⟨front, back, rfl, rfl, rfl⟩ := ih cut
      exact ⟨c :: front, back, rfl, by rw [starts, List.flatMap_cons], rfl⟩
    rw [List.flatMap_cons] at cut
    rcases List.append_eq_append_iff.mp cut with ⟨between, starts, cut⟩ | ⟨rest', whole, cut⟩
    · exact behind starts cut
    · cases rest' with
      | nil =>
        rw [List.append_nil] at whole
        exact @behind [] (by rw [whole, List.append_nil]) cut.symm
      | cons byte others =>
        -- The byte is one of those of `c`, so it is all of them.
        obtain ⟨rfl, rfl⟩ := List.cons.inj cut
        obtain rfl : c = a := eq_of_mem_encode ascii (by rw [whole]; simp)
        rw [encode_of_lt ascii] at whole
        obtain ⟨rfl, rfl⟩ : before = [] ∧ others = [] := by
          cases before with
          | nil => exact ⟨rfl, (List.cons.inj whole).2.symm⟩
          | cons => simp at whole
        exact ⟨[], rest, rfl, rfl, rfl⟩

theorem ascii_prefix {piece text : List Char} (ascii : IsAscii piece) {after : List UInt8}
    (cut : text.flatMap utf8EncodeChar = piece.flatMap utf8EncodeChar ++ after) :
    ∃ back, text = piece ++ back ∧ after = back.flatMap utf8EncodeChar := by
  induction piece generalizing text with
  | nil => exact ⟨text, rfl, cut.symm⟩
  | cons a piece ih =>
    have small : a.toNat < 128 := ascii a List.mem_cons_self
    rw [List.flatMap_cons, encode_of_lt small, List.append_assoc] at cut
    rw [← List.nil_append ([_] ++ _)] at cut
    obtain ⟨front, back, rfl, nothing, behind⟩ := split_at_ascii small cut
    obtain rfl : front = [] := by
      cases front with
      | nil => rfl
      | cons c front =>
        have encoded := (List.append_eq_nil_iff.mp nothing.symm).1
        exact absurd encoded String.utf8EncodeChar_ne_nil
    obtain ⟨rest, rfl, rfl⟩ := ih (fun c inside => ascii c (List.mem_cons_of_mem _ inside)) behind.symm
    exact ⟨rest, rfl, rfl⟩

/-- An ASCII piece of the bytes of a text is a piece of the text. -/
theorem split_around_ascii {piece text : List Char} (ascii : IsAscii piece) (solid : piece ≠ [])
    {before after : List UInt8}
    (cut : text.flatMap utf8EncodeChar = before ++ (piece.flatMap utf8EncodeChar ++ after)) :
    ∃ front back, text = front ++ (piece ++ back) ∧ before = front.flatMap utf8EncodeChar ∧
      after = back.flatMap utf8EncodeChar := by
  obtain ⟨a, piece, rfl⟩ := List.exists_cons_of_ne_nil solid
  have small : a.toNat < 128 := ascii a List.mem_cons_self
  rw [List.flatMap_cons, encode_of_lt small, List.append_assoc] at cut
  obtain ⟨front, back, rfl, rfl, behind⟩ := split_at_ascii small cut
  obtain ⟨rest, rfl, rfl⟩ :=
    ascii_prefix (fun c inside => ascii c (List.mem_cons_of_mem _ inside)) behind.symm
  exact ⟨front, rest, rfl, rfl, rfl⟩

end Text

namespace Sink

theorem toList_bytesOf (text : List Char) :
    (bytesOf text).data.toList = text.flatMap String.utf8EncodeChar := by
  rw [bytesOf, String.toUTF8_eq_toByteArray, String.toByteArray_ofList, List.utf8Encode,
    List.toList_data_toByteArray]

theorem bytesOf_split {piece text : List Char} (ascii : Text.IsAscii piece) (solid : piece ≠ [])
    {before after : ByteArray} (cut : bytesOf text = before ++ bytesOf piece ++ after) :
    ∃ front back, text = front ++ (piece ++ back) ∧ before = bytesOf front ∧ after = bytesOf back := by
  have lists := congrArg (fun bytes => bytes.data.toList) cut
  simp only [ByteArray.toList_data_append, toList_bytesOf, List.append_assoc] at lists
  obtain ⟨front, back, rfl, first, last⟩ := Text.split_around_ascii ascii solid lists
  have same {bytes : ByteArray} {text : List Char}
      (known : bytes.data.toList = text.flatMap String.utf8EncodeChar) : bytes = bytesOf text := by
    rw [← toList_bytesOf] at known
    exact ByteArray.ext (Array.toList_inj.mp known)
  exact ⟨front, back, rfl, same first, same last⟩

theorem cut_at (bytes : ByteArray) {length : Nat} (within : length ≤ bytes.size) :
    bytes.extract 0 length ++ bytes.extract length bytes.size = bytes := by
  rw [← ByteArray.extract_eq_extract_append_extract length (Nat.zero_le _) within,
    ByteArray.extract_zero_size]

end Sink

/-- The mark stands among the bytes just once, and that is at their end. -/
def EndsOnce (mark bytes : ByteArray) : Prop :=
  ∃ front, bytes = front ++ mark ∧
    ∀ before after, bytes = before ++ mark ++ after → before = front ∧ after = .empty

/-- An ASCII mark that only ends a text only ends its bytes. -/
theorem endsOnce_bytesOf {front mark : List Char} (ascii : Text.IsAscii mark) (solid : mark ≠ [])
    (once : ∀ before after, front ++ mark = before ++ (mark ++ after) → after = []) :
    EndsOnce (Sink.bytesOf mark) (Sink.bytesOf (front ++ mark)) := by
  refine ⟨Sink.bytesOf front, Sink.bytesOf_append front mark, fun before after cut => ?_⟩
  obtain ⟨first, last, same, rfl, rfl⟩ := Sink.bytesOf_split ascii solid cut
  obtain rfl := once first last same
  rw [List.append_nil] at same
  exact ⟨by rw [List.append_cancel_right same], rfl⟩

end ComponentDocs
