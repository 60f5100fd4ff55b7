import Gatehouse.Url.Address
import Gatehouse.Url.Domain
import Gatehouse.Url.Fault
import Gatehouse.Url.Scheme

/-!
# Hosts

A host is a name or a number. Schemes of no known kind take any text for a name.
-/
namespace Gatehouse.Url

inductive Host
  | name (text : List Char)
  | version4 (number : Nat)
  | version6 (pieces : List Nat)

namespace Host

def isEmpty : Host → Bool
  | .name [] => true
  | _ => false

def text : Host → List Char
  | .name text => text
  | .version4 number => version4Text number
  | .version6 pieces => '[' :: version6Text pieces ++ [']']

/-- An address between brackets. -/
def ofBrackets (text : List Char) : Except Fault Host :=
  let inner := (text.drop 1).dropLast
  if text.getLast? = some ']' ∧ 2 ≤ text.length then
    match version6? inner with
    | some pieces => .ok (.version6 pieces)
    | none => .error .badVersion6
  else .error .badVersion6

/-- A host of a scheme that names machines. -/
def parse (text : List Char) : Except Fault Host :=
  if text.head? = some '[' then ofBrackets text
  else
    match domain? text with
    | none => .error .badDomain
    | some [] => .error .emptyHost
    | some found =>
      if endsInNumber found then
        match version4? found with
        | some number => .ok (.version4 number)
        | none => .error .badVersion4
      else .ok (.name found)

def isOpaqueForbidden (c : Char) : Bool :=
  c.toNat == 0 || isInnerBlank c || " #/:<>?@[\\]^|".toList.contains c

/-- A host of any other scheme. -/
def parseOpaque (text : List Char) : Except Fault Host :=
  if text.head? = some '[' then ofBrackets text
  else if text.any isOpaqueForbidden then .error .badDomainCharacter
  else .ok (.name (escape (fun _ => false) text))

end Host

end Gatehouse.Url
