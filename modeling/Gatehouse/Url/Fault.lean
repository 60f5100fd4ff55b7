/-!
# Why a text is no address
-/
namespace Gatehouse.Url

inductive Fault
  | relative
  | emptyHost
  | badDomain
  | badPort
  | badVersion4
  | badVersion6
  | badDomainCharacter
deriving DecidableEq

def Fault.message : Fault → String
  | .relative => "relative URL without a base"
  | .emptyHost => "empty host"
  | .badDomain => "invalid international domain name"
  | .badPort => "invalid port number"
  | .badVersion4 => "invalid IPv4 address"
  | .badVersion6 => "invalid IPv6 address"
  | .badDomainCharacter => "invalid domain character"

end Gatehouse.Url
