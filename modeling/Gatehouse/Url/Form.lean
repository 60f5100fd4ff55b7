import Gatehouse.Url.Basic

/-!
# Parameters of requests

Parameters are written as a form behind what the query already holds.
-/
namespace Gatehouse.Url

/-- A text in a form: letters, digits and four marks stand for themselves, a plus for a space. -/
def formText (text : String) : List Char :=
  text.toList.flatMap fun c =>
    if (decide (c.toNat < 0x80) && c.isAlphanum) || ['*', '-', '.', '_'].contains c then [c]
    else if c = ' ' then ['+']
    else (Utf8.encode [c]).flatMap escapedByte

def form (params : List (String × String)) : List Char :=
  ['&'].intercalate (params.map fun (name, value) => formText name ++ '=' :: formText value)

/-- An address with some more parameters in its query. -/
def withParams (url : Url) (params : List (String × String)) : Url :=
  if params.isEmpty then url
  else
    match url.query with
    | some (c :: query) => { url with query := some (c :: query ++ '&' :: form params) }
    | _ => { url with query := some (form params) }

/-- Whether user and password are texts that can be told apart from the address. -/
def Authority.hasReadableUser (authority : Authority) : Bool :=
  (unescape? authority.user).any fun user =>
    !user.isEmpty || (authority.password.bind unescape?).isSome

/-- An address without its user, who is told in a header. -/
def withoutUser (url : Url) : Url :=
  { url with
    authority := url.authority.map fun authority =>
      if authority.hasReadableUser then { authority with user := [], password := none }
      else authority }

/-- Whether a request can be sent to an address: its text is not too long, and its host holds only
characters that a request may. -/
def isSendable (url : Url) : Bool :=
  decide (url.text.length ≤ 65534)
    && url.hostAndPort.all fun c => !"\"`\x7b\x7d".toList.contains c

end Gatehouse.Url
