import Gatehouse.Json.Basic
import Gatehouse.Number.Shortest
import Gatehouse.Text.Hex

/-!
# JSON text

Compact text: no blanks, fields in the order of the object. Only quotes, backslashes and controls
are escaped, so every other character stands for itself.
-/
namespace Gatehouse.Json

def escapedChar (c : Char) : List Char :=
  if c = '"' then ['\\', '"']
  else if c = '\\' then ['\\', '\\']
  else if c = '\n' then ['\\', 'n']
  else if c = '\r' then ['\\', 'r']
  else if c = '\t' then ['\\', 't']
  else if c.toNat = 0x08 then ['\\', 'b']
  else if c.toNat = 0x0C then ['\\', 'f']
  else if c.toNat < 0x20 then
    ['\\', 'u', '0', '0', Hex.digit (c.toNat / 16), Hex.digit (c.toNat % 16)]
  else [c]

def escaped (text : List Char) : List Char := text.flatMap escapedChar

def printText (text : String) : List Char := '"' :: escaped text.toList ++ ['"']

def printInt (value : Int) : List Char :=
  if value < 0 then '-' :: Nat.toDigits 10 value.natAbs else Nat.toDigits 10 value.toNat

mutual

def print : Json → List Char
  | .null => "null".toList
  | .bool true => "true".toList
  | .bool false => "false".toList
  | .integer value => printInt value
  | .float value => Shortest.text value
  | .string text => printText text
  | .array [] => ['[', ']']
  | .array (item :: rest) => '[' :: print item ++ printItems rest
  | .object [] => ['{', '}']
  | .object ((key, value) :: rest) =>
    '{' :: printText key ++ ':' :: print value ++ printFields rest

/-- The items after the first one, and the bracket. -/
def printItems : List Json → List Char
  | [] => [']']
  | item :: rest => ',' :: print item ++ printItems rest

/-- The fields after the first one, and the brace. -/
def printFields : List (String × Json) → List Char
  | [] => ['}']
  | (key, value) :: rest => ',' :: printText key ++ ':' :: print value ++ printFields rest

end

def text (value : Json) : String := String.ofList (print value)

end Gatehouse.Json
