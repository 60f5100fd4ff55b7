import Gatehouse.Text.AsciiCase
import Gatehouse.Text.Hex
import Gatehouse.Text.Utf8

/-!
# Escapes

A byte may be written as a percent sign and two hexadecimal digits. Controls and all beyond ASCII
always are; which other characters are depends on the part of the address.
-/
namespace Gatehouse.Url

def escapedByte (b : UInt8) : List Char := '%' :: (Hex.ofBytes [b]).map Text.upperAscii

/-- A text with marked characters as their escaped bytes. -/
def escape (isMarked : Char → Bool) (text : List Char) : List Char :=
  text.flatMap fun c =>
    if decide (c.toNat < 0x20) || decide (0x7F ≤ c.toNat) || isMarked c then
      (Utf8.encode [c]).flatMap escapedByte
    else [c]

def isMarkedInFragment (c : Char) : Bool := " \"<>`".toList.contains c

def isMarkedInQuery (c : Char) : Bool := " \"#<>".toList.contains c

def isMarkedInWebQuery (c : Char) : Bool := c == '\'' || isMarkedInQuery c

def isMarkedInPath (c : Char) : Bool := "#?\x7b\x7d".toList.contains c || isMarkedInFragment c

def isMarkedInUser (c : Char) : Bool := "/:;=@[\\]^|".toList.contains c || isMarkedInPath c

/-- The bytes of a text whose escapes are decoded. -/
def percentDecode : List UInt8 → List UInt8
  | 0x25 :: high :: low :: rest =>
    match Hex.value? high, Hex.value? low with
    | some h, some l => UInt8.ofNat (h * 16 + l) :: percentDecode rest
    | _, _ => 0x25 :: percentDecode (high :: low :: rest)
  | b :: rest => b :: percentDecode rest
  | [] => []

/-- The text of escaped bytes, if they are well-formed. -/
def unescape? (text : List Char) : Option (List Char) :=
  Utf8.decode? (percentDecode (Utf8.encode text))

end Gatehouse.Url
