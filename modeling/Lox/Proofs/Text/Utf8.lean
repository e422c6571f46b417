import Lox.Text.Basic

/-!
Texts and the bytes that spell them.

Every text is read back from its spelling, so some bytes spell one text or none. Only a line feed is
spelled with the byte of a line feed: wherever such a byte stands, a text can be cut.
-/

set_option autoImplicit false
set_option relaxedAutoImplicit false

namespace Lox.Text

variable {text : Text} {bytes : List UInt8} {c : Char}

section spelling

private theorem toByteArray_ofList (text : Text) :
    (String.ofList text).toByteArray = ⟨text.utf8.toArray⟩ := by
  rw [String.toByteArray_ofList]
  ext1
  exact List.data_toByteArray

theorem ofUtf8?_utf8 (text : Text) : ofUtf8? text.utf8 = some text := by
  have valid := (String.ofList text).isValidUTF8
  have same : String.fromUTF8 _ valid = String.ofList text := rfl
  rw [ofUtf8?, ← toByteArray_ofList, String.fromUTF8?, dif_pos valid, same, Option.map_some,
    String.toList_ofList]

theorem utf8_of_ofUtf8? (spelled : ofUtf8? bytes = some text) : text.utf8 = bytes := by
  obtain ⟨string, decoded, rfl⟩ := Option.map_eq_some_iff.mp spelled
  unfold String.fromUTF8? at decoded
  split at decoded
  · obtain rfl := Option.some.inj decoded
    have whole := toByteArray_ofList (String.fromUTF8 ⟨bytes.toArray⟩ ‹_›).toList
    rw [String.ofList_toList] at whole
    exact (congrArg (fun array => array.data.toList) whole).symm
  · contradiction

theorem ofUtf8?_eq_some_iff : ofUtf8? bytes = some text ↔ text.utf8 = bytes := by
  constructor
  · exact utf8_of_ofUtf8?
  · rintro rfl
    exact ofUtf8?_utf8 text

theorem ofUtf8?_eq_none_iff : ofUtf8? bytes = none ↔ ∀ text : Text, text.utf8 ≠ bytes := by
  simp [Option.eq_none_iff_forall_ne_some, ofUtf8?_eq_some_iff]

end spelling

section cut

theorem drop_utf8_append (front behind : Text) :
    (utf8 (front ++ behind)).drop front.size = behind.utf8 := by
  rw [utf8_append, ← length_utf8]
  exact List.drop_left

theorem take_utf8_append (front behind : Text) :
    (utf8 (front ++ behind)).take front.size = front.utf8 := by
  rw [utf8_append, ← length_utf8]
  exact List.take_left

end cut

section lineFeed

private theorem lineFeed_mem_utf8EncodeChar : 10 ∈ String.utf8EncodeChar c ↔ c = '\n' := by
  have code : c = '\n' ↔ c.val.toNat = 10 := by
    rw [← Char.val_inj, ← UInt32.toNat_inj]
    rfl
  have byte (n : Nat) : (10 : UInt8) = UInt8.ofNat n ↔ n % 256 = 10 := by
    rw [← UInt8.toNat_inj, UInt8.toNat_ofNat']
    exact eq_comm
  rw [code]
  unfold String.utf8EncodeChar
  dsimp only
  split
  · simp only [List.mem_singleton, byte]
    omega
  -- Every byte of a character beyond ASCII is at least 128.
  · split
    · simp only [List.mem_cons, List.not_mem_nil, or_false, byte]
      omega
    · split <;>
      · simp only [List.mem_cons, List.not_mem_nil, or_false, byte]
        omega

theorem lineFeed_mem_utf8 : 10 ∈ text.utf8 ↔ '\n' ∈ text := by
  simp [utf8, lineFeed_mem_utf8EncodeChar]

theorem utf8_lineFeed_cons (text : Text) : utf8 ('\n' :: text) = 10 :: text.utf8 := rfl

theorem utf8_concat_lineFeed (text : Text) : utf8 (text ++ ['\n']) = text.utf8 ++ [10] := by
  rw [utf8_append, utf8_lineFeed_cons]
  rfl

end lineFeed

end Lox.Text
