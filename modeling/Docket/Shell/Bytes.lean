import Docket.Text.Utf8

/-! Bytes as texts: a shell knows bytes only, and each stands as the character of its number. -/

namespace Docket.Shell.Bytes

/-- The text of bytes. -/
def toText (bytes : List UInt8) : Text :=
  bytes.map fun byte => Char.ofNat byte.toNat

/-- The bytes of a text. -/
def ofText (text : Text) : List UInt8 :=
  text.map fun char => UInt8.ofNat char.toNat

/-- The bytes of the UTF-8 form of a text, as a text. -/
def encode (text : Text) : Text :=
  toText (Text.utf8 text)

/-- The text whose UTF-8 form bytes are. -/
def decode (text : Text) : Text :=
  Text.ofUtf8Lossy (ofText text)

/-- Bytes come back from their text. -/
theorem ofText_toText (bytes : List UInt8) : ofText (toText bytes) = bytes := by
  -- Every number of a byte is the number of a character.
  induction bytes with
  | nil => rfl
  | cons byte rest ih =>
    have small : byte.toNat < 0xd800 := Nat.lt_trans byte.toNat_lt (by decide)
    have valid : byte.toNat.isValidChar := Or.inl small
    simp only [toText, ofText, List.map_cons, List.map_map] at ih ⊢
    rw [ih, Char.ofNat, dif_pos valid]
    exact congrArg (· :: rest) UInt8.ofNat_toNat

end Docket.Shell.Bytes
