import Mathlib.Data.String.Basic
import RecordFilter.Text.Utf8

/-!
# Bytes of a string

A part of a string starts as many bytes into it as the characters before it
take up. So the place of a part is a position between characters, and what is
cut out there is the part.
-/

namespace RecordFilter

theorem utf8Length_eq_utf8Len (text : List Char) :
    utf8Length text = String.utf8Len text := by
  induction text with
  | nil => rfl
  | cons c rest ih =>
      rw [utf8Length_cons, String.utf8Len_cons, ih, Nat.add_comm]

theorem utf8Length_pos {text : List Char} (hne : text ≠ []) :
    0 < utf8Length text := by
  cases text with
  | nil => contradiction
  | cons c rest =>
      have hc := c.utf8Size_pos
      rw [utf8Length_cons]
      omega

theorem utf8Length_toList (text : String) :
    utf8Length text.toList = text.utf8ByteSize := by
  rw [utf8Length_eq_utf8Len, ← String.utf8ByteSize_ofList, String.ofList_toList]

section Split

variable {text : String} {before part after : List Char}

theorem isValid_of_split (hsplit : text.toList = before ++ after) :
    String.Pos.Raw.IsValid text ⟨utf8Length before⟩ := by
  rw [String.Pos.Raw.isValid_iff_exists_append]
  refine ⟨String.ofList before, String.ofList after, ?_, ?_⟩
  · rw [← String.ofList_append, ← hsplit, String.ofList_toList]
  · rw [String.rawEndPos, String.utf8ByteSize_ofList, utf8Length_eq_utf8Len]

theorem extract_of_split (hsplit : text.toList = before ++ (part ++ after)) :
    String.Pos.Raw.extract text ⟨utf8Length before⟩
      ⟨utf8Length before + utf8Length part⟩ = String.ofList part := by
  have htext : text = String.ofList (before ++ part ++ after) := by
    rw [List.append_assoc, ← hsplit, String.ofList_toList]
  rw [htext, utf8Length_eq_utf8Len, utf8Length_eq_utf8Len]
  exact String.extract_of_valid before part after

theorem get_of_split {c : Char} (hsplit : text.toList = before ++ c :: after) :
    String.Pos.Raw.get text ⟨utf8Length before⟩ = c := by
  have htext : text = String.ofList (before ++ c :: after) := by
    rw [← hsplit, String.ofList_toList]
  rw [htext, utf8Length_eq_utf8Len, String.get_of_valid]
  rfl

theorem extract_front_of_split (hsplit : text.toList = before ++ after) :
    String.Pos.Raw.extract text 0 ⟨utf8Length before⟩ =
      String.ofList before := by
  have hfront : text.toList = [] ++ (before ++ after) := hsplit
  have hextract := extract_of_split hfront
  rw [utf8Length_nil, Nat.zero_add] at hextract
  exact hextract

theorem extract_back_of_split (hsplit : text.toList = before ++ after) :
    String.Pos.Raw.extract text ⟨utf8Length before⟩ text.rawEndPos =
      String.ofList after := by
  have hback : text.toList = before ++ (after ++ []) := by
    rw [List.append_nil, hsplit]
  have hend : text.rawEndPos = ⟨utf8Length before + utf8Length after⟩ := by
    rw [← utf8Length_append, ← hsplit, utf8Length_toList]
    rfl
  rw [hend]
  exact extract_of_split hback

end Split

theorem exists_split_of_isValid {text : String} {position : String.Pos.Raw}
    (hvalid : position.IsValid text) (hinside : position < text.rawEndPos) :
    ∃ before after, text.toList = before ++ position.get text :: after ∧
      position = ⟨utf8Length before⟩ := by
  rcases String.Pos.Raw.isValid_iff_exists_append.mp hvalid with
    ⟨front, back, rfl, rfl⟩
  have hget := String.get_of_valid front.toList back.toList
  rw [String.ofList_append, String.ofList_toList, String.ofList_toList,
    ← String.utf8ByteSize_ofList, String.ofList_toList] at hget
  cases hback : back.toList with
  | nil =>
      rw [String.toList_eq_nil_iff.mp hback] at hinside
      simp [String.Pos.Raw.lt_iff] at hinside
  | cons c after =>
      rw [hback] at hget
      refine ⟨front.toList, after, ?_, ?_⟩
      · rw [String.toList_append, hback, String.rawEndPos, hget]
        rfl
      · rw [utf8Length_toList]
        rfl

end RecordFilter
