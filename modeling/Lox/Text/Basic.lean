/-!
Texts as lists of characters, and their form in bytes.

A text has a size in bytes and a UTF-8 form, and some byte strings spell a text. Everything else
in the library works on characters.
-/

set_option autoImplicit false
set_option relaxedAutoImplicit false

namespace Lox

/-- A text is its characters in order. -/
abbrev Text := List Char

namespace Text

/-- The number of bytes that a text takes in UTF-8. -/
def size (text : Text) : Nat := text.foldr (fun c rest => c.utf8Size + rest) 0

def utf8 (text : Text) : List UInt8 := text.flatMap String.utf8EncodeChar

def ofUtf8? (bytes : List UInt8) : Option Text :=
  (String.fromUTF8? ⟨bytes.toArray⟩).map String.toList

def ofNat (n : Nat) : Text := Nat.toDigits 10 n

def join (separator : Text) (texts : List Text) : Text := separator.intercalate texts

/-- Texts in order, each on a line of its own, without a line feed after the last. -/
def lines (texts : List Text) : Text := join ['\n'] texts

theorem size_nil : size [] = 0 := rfl

theorem size_cons (c : Char) (text : Text) : size (c :: text) = c.utf8Size + size text :=
  rfl

theorem size_append (left right : Text) : size (left ++ right) = size left + size right := by
  induction left with
  | nil => rw [List.nil_append, size_nil, Nat.zero_add]
  | cons c left ih => rw [List.cons_append, size_cons, size_cons, ih, Nat.add_assoc]

theorem size_pos {text : Text} (nonempty : text ≠ []) : 0 < size text := by
  obtain ⟨c, rest, rfl⟩ := List.exists_cons_of_ne_nil nonempty
  have positive := Char.utf8Size_pos c
  rw [size_cons]
  omega

theorem length_utf8 (text : Text) : (utf8 text).length = size text := by
  induction text with
  | nil => rfl
  | cons c text ih =>
      simp only [utf8, List.flatMap_cons, List.length_append] at ih ⊢
      rw [ih, String.length_utf8EncodeChar, size_cons]

theorem utf8_append (left right : Text) : utf8 (left ++ right) = utf8 left ++ utf8 right := by
  simp [utf8]

end Text

end Lox
