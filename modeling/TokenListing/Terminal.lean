import TokenListing.Text.Utf8

/-! # Text for terminals

A text can switch attributes of a terminal on and off by control sequences. Elsewhere the sequences
are taken out, and with them every control character that does not lay out the text. A machine
follows the sequences byte by byte. The characters of the layout count even inside an unfinished
escape or control sequence, and the text right after them is shown too; the sequence goes on at the
next control character.
-/
namespace TokenListing.Terminal

def styled (attributes : List String) (text : String) : String :=
  String.join (attributes.map fun code => "\x1b[" ++ code ++ "m") ++ text ++ "\x1b[0m"

inductive State where
  | text
  | escape
  | escapeTail
  | control
  /-- Before the first byte of a device string's header. -/
  | deviceStart
  /-- After a parameter byte of a device string's header. -/
  | deviceParameter
  /-- After an intermediate byte of a device string's header. -/
  | deviceIntermediate
  /-- In the body of a device string or in a string without a header. -/
  | string
  | command
  deriving DecidableEq, Repr

def isIntermediate (byte : UInt8) : Bool :=
  0x20 ≤ byte && byte ≤ 0x2F

def isParameter (byte : UInt8) : Bool :=
  0x30 ≤ byte && byte ≤ 0x3F

def isFinal (byte : UInt8) : Bool :=
  0x40 ≤ byte && byte ≤ 0x7E

def isLayout (byte : UInt8) : Bool :=
  byte == 0x9 || byte == 0xA || byte == 0xC || byte == 0xD

def beginsGraphic (byte : UInt8) : Bool :=
  (0x20 ≤ byte && byte ≤ 0x7E) || (Text.Utf8.width byte).any (1 < ·)

namespace State

/-- The state after a byte. The cancelling characters and the escape character act everywhere. -/
def next (state : State) (byte : UInt8) : State :=
  if byte = 0x18 ∨ byte = 0x1A then text
  else if byte = 0x1B then escape
  else
    match state with
    | text => text
    | escape =>
      if isIntermediate byte then escapeTail
      else if byte = 0x5B then control
      else if byte = 0x5D then command
      else if byte = 0x50 then deviceStart
      else if byte = 0x58 ∨ byte = 0x5E ∨ byte = 0x5F then string
      else if isParameter byte || isFinal byte then text
      else escape
    | escapeTail => if isParameter byte || isFinal byte then text else escapeTail
    | control => if isFinal byte then text else control
    | deviceStart =>
      if isIntermediate byte then deviceIntermediate
      else if isParameter byte then deviceParameter
      else if isFinal byte then string
      else deviceStart
    | deviceParameter =>
      if isIntermediate byte then deviceIntermediate
      else if 0x3C ≤ byte ∧ byte ≤ 0x7E then string
      else deviceParameter
    | deviceIntermediate =>
      if isParameter byte || isFinal byte then string else deviceIntermediate
    | string => if byte = 0x9C then text else string
    | command => if byte = 0x07 then text else command

def shows : State → UInt8 → Bool
  | text, byte => beginsGraphic byte || isLayout byte
  | escape, byte | escapeTail, byte | control, byte => isLayout byte
  | _, _ => false

end State

/-- The bytes that are shown. The first `rest` of them belong to a character already begun, and
`shown` tells whether the byte before was shown: text goes on in whatever state it began. -/
def shownBytes : Nat → Bool → State → List UInt8 → List UInt8
  | _, _, _, [] => []
  | rest + 1, shown, state, byte :: bytes => byte :: shownBytes rest shown state bytes
  | 0, shown, state, byte :: bytes =>
    if (if shown then State.text else state).shows byte then
      let rest := (Text.Utf8.width byte).getD 1 - 1
      byte :: shownBytes rest true (if rest = 0 then state else .text) bytes
    else shownBytes 0 false (state.next byte) bytes

def plainBytes (text : String) : ByteArray :=
  ⟨(shownBytes 0 false .text text.toUTF8.data.toList).toArray⟩

end TokenListing.Terminal
