import Gatehouse.Json.Basic
import Gatehouse.Text.LetterCase

/-!
# Redaction

A key is sensitive when its lower form has a sensitive fragment anywhere in it. The value under a
sensitive key becomes the marker, whatever it was; everything else stays, at any depth.
-/
namespace Gatehouse.Redaction

def marker : String := "[REDACTED]"

def fragments : List String :=
  ["password", "token", "secret", "apikey", "api_key", "authorization", "accesstoken",
    "access_token", "refreshtoken", "refresh_token", "creditcard", "credit_card", "cardnumber",
    "card_number", "cvv", "ssn", "pin"]

/-- Whether `piece` stands somewhere in `text`. -/
def occurs (piece : List Char) : List Char → Bool
  | [] => piece.isEmpty
  | c :: rest => piece.isPrefixOf (c :: rest) || occurs piece rest

def isSensitive (key : String) : Bool :=
  let lower := Text.lower key.toList
  fragments.any fun fragment => occurs fragment.toList lower

mutual

def redact : Json → Json
  | .array items => .array (redactItems items)
  | .object fields => .object (redactFields fields)
  | .null => .null
  | .bool value => .bool value
  | .integer value => .integer value
  | .float value => .float value
  | .string text => .string text

def redactItems : List Json → List Json
  | [] => []
  | item :: rest => redact item :: redactItems rest

def redactFields : List (String × Json) → List (String × Json)
  | [] => []
  | (key, value) :: rest =>
    (key, if isSensitive key then .string marker else redact value) :: redactFields rest

end

end Gatehouse.Redaction
