import Gatehouse.Text.Utf8

/-!
# Names and values of headers on the wire

A value is a list of bytes. Those that are visible ASCII throughout are also a text.
-/
namespace Gatehouse.HeaderValue

/-- Visible ASCII and the tab. -/
def isVisible (b : UInt8) : Bool := (0x20 ≤ b && b < 0x7F) || b == 0x09

/-- The text of a value, if all of it is visible. -/
def visibleText? (value : List UInt8) : Option (List Char) :=
  if value.all isVisible then some (value.map fun b => Char.ofNat b.toNat) else none

/-- A byte that a value may have: no control but the tab. -/
def isLegal (b : UInt8) : Bool := (0x20 ≤ b && b != 0x7F) || b == 0x09

/-- A text as a value, if it can be one. -/
def ofText? (text : String) : Option (List UInt8) :=
  if (bytesOf text).all isLegal then some (bytesOf text) else none

/-- A character that names are made of. -/
def isNameChar (c : Char) : Bool :=
  (decide (c.toNat < 0x80) && c.isAlphanum) || "!#$%&'*+-.^_`|~".toList.contains c

def isLegalName (name : String) : Bool := !name.isEmpty && name.toList.all isNameChar

end Gatehouse.HeaderValue
