/-! # Texts in bytes

A text is kept in files and in the environment as its bytes in UTF-8. Not all bytes
are a text.
-/

namespace DeployTree.Text

/-- The bytes of a text. -/
def encode (text : String) : List UInt8 := text.toUTF8.data.toList

/-- The text of some bytes, if they are one. -/
def decode? (bytes : List UInt8) : Option String := String.fromUTF8? ⟨bytes.toArray⟩

end DeployTree.Text
