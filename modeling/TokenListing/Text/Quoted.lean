import TokenListing.Text.Combining
import TokenListing.Text.Unprintable

/-! # Quoted characters

A character is shown between single quotes. Five controls and marks have short escapes,
a character that cannot be seen alone is given by its code point in hexadecimal, and every
other character stands for itself. Those that cannot be seen are the combining and the unprintable
ones, and the fillers, joiners and selectors with the property Default_Ignorable_Code_Point, of
which a display that does not support them shows nothing.
-/
namespace TokenListing.Text

/-- The code points with the property Default_Ignorable_Code_Point. -/
def ignorableRanges : CodeRanges :=
  [(0xAD, 0xAD), (0x34F, 0x34F), (0x61C, 0x61C), (0x115F, 0x1160), (0x17B4, 0x17B5),
    (0x180B, 0x180F), (0x200B, 0x200F), (0x202A, 0x202E), (0x2060, 0x206F), (0x3164, 0x3164),
    (0xFE00, 0xFE0F), (0xFEFF, 0xFEFF), (0xFFA0, 0xFFA0), (0xFFF0, 0xFFF8), (0x1BCA0, 0x1BCA3),
    (0x1D173, 0x1D17A), (0xE0000, 0xE0FFF)]

def isIgnorable (c : Char) : Bool :=
  ignorableRanges.contains c.toNat

def hexadecimal (n : Nat) : String :=
  String.ofList (Nat.toDigits 16 n)

def escaped (c : Char) : String :=
  match c with
  | '\x00' => "\\0"
  | '\t' => "\\t"
  | '\r' => "\\r"
  | '\n' => "\\n"
  | '\'' => "\\'"
  | '\\' => "\\\\"
  | c =>
    if isCombining c || isIgnorable c || isUnprintable c then
      "\\u\x7b" ++ hexadecimal c.toNat ++ "\x7d"
    else String.singleton c

def quoted (c : Char) : String :=
  "'" ++ escaped c ++ "'"

end TokenListing.Text
