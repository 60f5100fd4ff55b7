import Gatehouse.Text.Hex
import Gatehouse.Text.Invisible

/-!
# Quoted text for people

Values that appear in messages stand between double quotes. Quotes, backslashes and the common
controls have short escapes, everything else invisible is written by its code point.
-/
namespace Gatehouse.Text

def quotedChar (c : Char) : List Char :=
  if c = '"' then ['\\', '"']
  else if c = '\\' then ['\\', '\\']
  else if c = '\n' then ['\\', 'n']
  else if c = '\r' then ['\\', 'r']
  else if c = '\t' then ['\\', 't']
  else if c = Char.ofNat 0 then ['\\', '0']
  else if isInvisible c then
    ['\\', 'u', Char.ofNat 0x7B] ++ (Hex.ofNat c.toNat).toList ++ ['}']
  else [c]

def quoted (text : String) : String :=
  String.ofList ('"' :: text.toList.flatMap quotedChar ++ ['"'])

end Gatehouse.Text
