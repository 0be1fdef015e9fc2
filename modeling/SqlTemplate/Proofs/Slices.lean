import Mathlib
import SqlTemplate.Proofs.Texts

/-!
# Bytes and slices

A text is the UTF-8 encoding of its characters. A place in it is counted in bytes, and a slice is
taken from one place to another, which fails unless both are edges of characters. At an edge, the
characters ahead tell the bytes ahead; in particular, the next byte is that of an ASCII character
exactly if the next character is this one.
-/

namespace SqlTemplate

/-- Why a program that works on bytes has to stop. -/
inductive Panic where
  /-- The ends of a slice are out of order, out of range, or within a character. -/
  | slice (first last : Nat)
  /-- A place would lie before the start of the text. -/
  | underflow
  deriving DecidableEq

namespace Text

/-- The bytes of a text. -/
def utf8 (text : String) : List UInt8 :=
  text.toByteArray.data.toList

def byte? (text : String) (place : Nat) : Option UInt8 :=
  (utf8 text)[place]?

/-- Whether a place lies between two characters of a text, or at one of its ends. -/
abbrev IsEdge (text : String) (place : Nat) : Prop :=
  (⟨place⟩ : String.Pos.Raw).IsValid text

/-- The part of a text between two places. -/
def slice (text : String) (first last : Nat) : Except Panic String :=
  if edges : first ≤ last ∧ IsEdge text first ∧ IsEdge text last then
    .ok (text.extract ⟨⟨first⟩, edges.2.1⟩ ⟨⟨last⟩, edges.2.2⟩)
  else .error (.slice first last)

example : slice "é" 0 1 = .error (.slice 0 1) := by decide +kernel

theorem utf8_eq (text : String) : utf8 text = text.toList.flatMap String.utf8EncodeChar := by
  have encoded : text.toByteArray = text.toList.utf8Encode := by
    conv_lhs => rw [← String.ofList_toList (s := text), String.toByteArray_ofList]
  rw [utf8, encoded, List.utf8Encode, List.toList_data_toByteArray]

theorem length_utf8 (text : String) : (utf8 text).length = text.utf8ByteSize := by
  rw [utf8, Array.length_toList]
  rfl

theorem utf8_injective {first second : String} (same : utf8 first = utf8 second) :
    first = second := by
  rw [← String.toByteArray_inj]
  exact ByteArray.ext (Array.toList_inj.mp same)

theorem length_flatMap_utf8EncodeChar (characters : List Char) :
    (characters.flatMap String.utf8EncodeChar).length = bytes characters := by
  simp [bytes, List.length_flatMap]

/-- The characters that are encoded as one byte. -/
abbrev IsAscii (c : Char) : Prop :=
  c.utf8Size = 1

theorem utf8EncodeChar_of_isAscii {c : Char} (ascii : IsAscii c) :
    String.utf8EncodeChar c = [c.toUInt8] :=
  String.utf8EncodeChar_eq_singleton ascii

theorem isAscii_iff {c : Char} : IsAscii c ↔ c.toNat ≤ 127 := by
  rw [IsAscii, Char.utf8Size_eq_one_iff, UInt32.le_iff_toNat_le]
  rfl

theorem toNat_toUInt8_of_isAscii {c : Char} (ascii : IsAscii c) : c.toUInt8.toNat = c.toNat := by
  have small := isAscii_iff.mp ascii
  have same : c.toUInt8.toNat = c.toNat % 256 := rfl
  omega

theorem toUInt8_inj_of_isAscii {c d : Char} (ascii : IsAscii c) (asciiToo : IsAscii d)
    (same : c.toUInt8 = d.toUInt8) : c = d := by
  have sameNumber := congrArg UInt8.toNat same
  rw [toNat_toUInt8_of_isAscii ascii, toNat_toUInt8_of_isAscii asciiToo] at sameNumber
  exact Char.toNat_inj.mp sameNumber

theorem le_of_mem_utf8EncodeChar {c : Char} (wide : ¬IsAscii c) {byte : UInt8}
    (member : byte ∈ String.utf8EncodeChar c) : 128 ≤ byte.toNat := by
  have large : ¬c.val.toNat ≤ 127 := isAscii_iff.not.mp wide
  unfold String.utf8EncodeChar at member
  dsimp only at member
  rw [if_neg large] at member
  split at member
  · simp only [List.mem_cons, List.not_mem_nil, or_false] at member
    rcases member with rfl | rfl <;> simp only [UInt8.toNat_ofNat'] <;> omega
  split at member
  all_goals simp only [List.mem_cons, List.not_mem_nil, or_false] at member
  · rcases member with rfl | rfl | rfl <;> simp only [UInt8.toNat_ofNat'] <;> omega
  · rcases member with rfl | rfl | rfl | rfl <;> simp only [UInt8.toNat_ofNat'] <;> omega

/-- No byte of a character is the byte of another one that is encoded as one byte. -/
theorem eq_of_mem_utf8EncodeChar {c mark : Char} (ascii : IsAscii mark)
    (member : mark.toUInt8 ∈ String.utf8EncodeChar c) : c = mark := by
  by_cases asciiToo : IsAscii c
  · rw [utf8EncodeChar_of_isAscii asciiToo, List.mem_singleton] at member
    exact toUInt8_inj_of_isAscii asciiToo ascii member.symm
  · have large := le_of_mem_utf8EncodeChar asciiToo member
    rw [toNat_toUInt8_of_isAscii ascii] at large
    have small := isAscii_iff.mp ascii
    omega

theorem exists_slice {text : String} {first last : Nat} (ordered : first ≤ last)
    (firstEdge : IsEdge text first) (lastEdge : IsEdge text last) :
    ∃ part, slice text first last = .ok part :=
  ⟨_, dif_pos ⟨ordered, firstEdge, lastEdge⟩⟩

/-- What a slice holds, if it could be taken. -/
theorem parts_of_slice {text part : String} {first last : Nat}
    (taken : slice text first last = .ok part) :
    first ≤ last ∧ last ≤ text.utf8ByteSize ∧
      utf8 part = ((utf8 text).drop first).take (last - first) := by
  unfold slice at taken
  split at taken
  · next edges =>
    obtain rfl := Except.ok.inj taken
    refine ⟨edges.1, edges.2.2.le_rawEndPos, ?_⟩
    rw [utf8, String.toByteArray_extract, ByteArray.data_extract, Array.toList_extract,
      List.extract_eq_take_drop]
    rfl
  · cases taken

/-- Whether the characters from a place on are the given ones. -/
def Ahead (text : String) (place : Nat) (rest : List Char) : Prop :=
  ∃ front, text.toList = front ++ rest ∧ bytes front = place

namespace Ahead

variable {text : String} {place : Nat} {rest : List Char}

theorem start (text : String) : Ahead text 0 text.toList :=
  ⟨[], rfl, rfl⟩

theorem append {part : List Char} (ahead : Ahead text place (part ++ rest)) :
    Ahead text (place + bytes part) rest := by
  obtain ⟨front, split, rfl⟩ := ahead
  exact ⟨front ++ part, by rw [split, List.append_assoc], bytes_append front part⟩

theorem tail {c : Char} (ahead : Ahead text place (c :: rest)) :
    Ahead text (place + c.utf8Size) rest := by
  obtain ⟨front, split, rfl⟩ := ahead
  exact ⟨front ++ [c], by rw [split, List.append_assoc]; rfl, bytes_append front [c]⟩

theorem tail_of_isAscii {c : Char} (ahead : Ahead text place (c :: rest)) (ascii : IsAscii c) :
    Ahead text (place + 1) rest := by
  rw [← ascii]
  exact ahead.tail

theorem isEdge (ahead : Ahead text place rest) : IsEdge text place := by
  obtain ⟨front, split, rfl⟩ := ahead
  rw [IsEdge, String.Pos.Raw.isValid_iff_exists_append]
  refine ⟨String.ofList front, String.ofList rest, ?_, ?_⟩
  · rw [← String.ofList_append, ← split, String.ofList_toList]
  · rw [String.rawEndPos, utf8ByteSize_eq_bytes, String.toList_ofList]

theorem add_bytes (ahead : Ahead text place rest) : place + bytes rest = text.utf8ByteSize := by
  obtain ⟨front, split, rfl⟩ := ahead
  rw [utf8ByteSize_eq_bytes, split, bytes_append]

theorem byte?_add (ahead : Ahead text place rest) (i : Nat) :
    byte? text (place + i) = (rest.flatMap String.utf8EncodeChar)[i]? := by
  obtain ⟨front, split, rfl⟩ := ahead
  rw [byte?, utf8_eq, split, List.flatMap_append, ← length_flatMap_utf8EncodeChar,
    List.getElem?_append_right (Nat.le_add_right _ _), Nat.add_sub_cancel_left]

theorem byte?_eq_none (ahead : Ahead text place []) : byte? text place = none :=
  ahead.byte?_add 0

/-- The bytes of the next character. -/
theorem byte?_of_lt {c : Char} (ahead : Ahead text place (c :: rest)) {i : Nat}
    (inside : i < c.utf8Size) :
    ∃ byte ∈ String.utf8EncodeChar c, byte? text (place + i) = some byte := by
  rw [← String.length_utf8EncodeChar] at inside
  refine ⟨(String.utf8EncodeChar c)[i], List.getElem_mem inside, ?_⟩
  rw [ahead.byte?_add, List.flatMap_cons, List.getElem?_append_left inside]
  exact List.getElem?_eq_getElem inside

theorem byte?_eq_some {mark : Char} (ahead : Ahead text place (mark :: rest))
    (ascii : IsAscii mark) : byte? text place = some mark.toUInt8 := by
  obtain ⟨byte, member, found⟩ := ahead.byte?_of_lt mark.utf8Size_pos
  rw [utf8EncodeChar_of_isAscii ascii] at member
  rw [← List.mem_singleton.mp member]
  exact found

/-- The next byte is that of an ASCII character exactly if this is the next character. -/
theorem byte?_eq_some_iff {mark : Char} (ahead : Ahead text place rest) (ascii : IsAscii mark) :
    byte? text place = some mark.toUInt8 ↔ rest.head? = some mark := by
  cases rest with
  | nil => simp [ahead.byte?_eq_none]
  | cons c rest =>
    constructor
    · intro found
      obtain ⟨byte, member, foundToo⟩ := ahead.byte?_of_lt c.utf8Size_pos
      obtain rfl := Option.some.inj (foundToo.symm.trans found)
      exact congrArg some (eq_of_mem_utf8EncodeChar ascii member)
    · intro next
      obtain rfl := Option.some.inj next
      exact ahead.byte?_eq_some ascii

theorem slice_eq {part : List Char} (ahead : Ahead text place (part ++ rest)) :
    slice text place (place + bytes part) = .ok (String.ofList part) := by
  obtain ⟨taken, ok⟩ :=
    exists_slice (Nat.le_add_right place (bytes part)) ahead.isEdge ahead.append.isEdge
  obtain ⟨-, -, content⟩ := parts_of_slice ok
  obtain ⟨front, split, rfl⟩ := ahead
  rw [ok]
  apply congrArg Except.ok
  apply utf8_injective
  rw [content, utf8_eq, split, utf8_eq, String.toList_ofList, List.flatMap_append,
    List.flatMap_append, ← length_flatMap_utf8EncodeChar, ← length_flatMap_utf8EncodeChar,
    List.drop_left, Nat.add_sub_cancel_left, List.take_left]

end Ahead

end Text

end SqlTemplate
