/-!
# Schemes

An address begins with its scheme. Blanks and controls around an address do not count, tabs and
line ends inside it neither.
-/
namespace Gatehouse.Url

def isOuterBlank (c : Char) : Bool := decide (c.toNat ≤ 0x20)

def isInnerBlank (c : Char) : Bool := c == '\t' || c == '\n' || c == '\r'

/-- The characters of an address that count. -/
def significant (text : List Char) : List Char :=
  ((((text.dropWhile isOuterBlank).reverse.dropWhile isOuterBlank).reverse).filter
    fun c => !isInnerBlank c)

def isSchemeChar (c : Char) : Bool :=
  (decide (c.toNat < 0x80) && c.isAlphanum) || c == '+' || c == '-' || c == '.'

/-- The scheme in lower case and what follows its colon. -/
def splitScheme (text : List Char) : Option (List Char × List Char) :=
  match text with
  | [] => none
  | c :: _ =>
    if c.isAlpha then
      match text.dropWhile isSchemeChar with
      | ':' :: rest => some ((text.takeWhile isSchemeChar).map Char.toLower, rest)
      | _ => none
    else none

/-- How a scheme reads what follows it. -/
inductive Kind
  | web
  | file
  | plain
deriving DecidableEq

def kindOf (scheme : List Char) : Kind :=
  let name := String.ofList scheme
  if name = "file" then .file
  else if ["http", "https", "ws", "wss", "ftp"].contains name then .web
  else .plain

/-- The port that goes without saying. -/
def impliedPort? (scheme : List Char) : Option Nat :=
  match String.ofList scheme with
  | "http" => some 80
  | "ws" => some 80
  | "https" => some 443
  | "wss" => some 443
  | "ftp" => some 21
  | _ => none

/-- Whether a character separates parts of a path. -/
def isSlash (kind : Kind) (c : Char) : Bool := c == '/' || (c == '\\' && kind != .plain)

/-- Whether a character ends the part with user, host and port. -/
def endsAuthority (kind : Kind) (c : Char) : Bool := isSlash kind c || c == '?' || c == '#'

end Gatehouse.Url
