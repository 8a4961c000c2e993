/-!
# Text and its bytes

Bodies, files and pipes carry bytes; names and messages are text. `bytes` and `ofBytes?` go
between the two by UTF-8.

* `ofBytes?_bytes`: every text is read back from its own bytes.
* `bytes_append`: the bytes of two texts in a row are those of the one, then of the other.
-/

namespace StarSurvey.Text

/-- The UTF-8 bytes of a text. -/
def bytes (s : String) : List UInt8 := s.toByteArray.data.toList

/-- The text with these UTF-8 bytes, if there is one. -/
def ofBytes? (bs : List UInt8) : Option String := String.fromUTF8? ⟨bs.toArray⟩

/-- How many bytes in front are the bytes of a text. -/
def validLength (bs : List UInt8) : Nat :=
  ((List.range (bs.length + 1)).reverse.find? fun n => (ofBytes? (bs.take n)).isSome).getD 0

def charBytes (c : Char) : List UInt8 := String.utf8EncodeChar c

theorem ofBytes?_bytes (s : String) : ofBytes? (bytes s) = some s := by
  have h : (⟨(bytes s).toArray⟩ : ByteArray) = s.toByteArray := by simp [bytes]
  simp only [ofBytes?, String.fromUTF8?, h, dif_pos s.isValidUTF8]
  rfl

theorem bytes_append (s t : String) : bytes (s ++ t) = bytes s ++ bytes t := by
  simp [bytes, String.toByteArray_append]

end StarSurvey.Text
