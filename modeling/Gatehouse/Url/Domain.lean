import Gatehouse.Text.Composition
import Gatehouse.Text.Joining
import Gatehouse.Url.Direction
import Gatehouse.Url.Escape
import Gatehouse.Url.PlainForm
import Gatehouse.Url.Punycode

/-!
# Domain names

A host is a name once its escapes are decoded. It is brought to its plain form and cut into labels
at the points. A label may spell other characters in ASCII; then what it spells has to be in plain
form already. A label with characters beyond ASCII is sent in its ASCII spelling.
-/
namespace Gatehouse.Url

def isAscii (text : List Char) : Bool := text.all fun c => decide (c.toNat < 0x80)

/-- ASCII characters that no name has: controls, the space, and the marks of addresses. -/
def isForbidden (c : Char) : Bool :=
  decide (c.toNat ≤ 0x20) || c.toNat == 0x7F || "%#/:<>?@[\\]^|".toList.contains c

/-- The plain form of a text, if it may be a name. -/
def plainName? (text : List Char) : Option (List Char) := do
  let forms ← text.mapM plainForm?
  let name := forms.flatten
  let name := if isAscii name then name else Text.composed name
  if name.any isForbidden then none else some name

/-! ## Labels -/

/-- Marks a label that spells other characters. -/
def spellingMark : List Char := ['x', 'n', '-', '-']

/-- Whether a label that was spelled in ASCII could have been written out. -/
def isPlain (label : List Char) : Bool :=
  (label.all fun c => plainForm? c == some [c]) && Text.composed label == label
    && !spellingMark.isPrefixOf label

/-- The label that a label of a name stands for. -/
def readLabel? (label : List Char) : Option (List Char) :=
  match label with
  | 'x' :: 'n' :: '-' :: '-' :: spelling =>
    if 2000 < spelling.length then none
    else (Punycode.decode? spelling).filter isPlain
  | _ => some label

/-- Marks that kill the vowel of the letter before them. -/
def isVowelKiller (c : Char) : Bool := Text.markClass c == 9

/-- Whether the joiners of a label stand where they change how it is written: behind a mark that
kills a vowel, or, to keep letters apart, between letters that would join. `before` holds the
characters to the left, last first. -/
def joinersStand : List Char → List Char → Bool
  | _, [] => true
  | before, c :: rest =>
    let keepsApart :=
      c.toNat == 0x200C && (before.dropWhile Text.isPassedOver).head?.any Text.joinsNext
        && (rest.dropWhile Text.isPassedOver).head?.any Text.joinsPrevious
    (!(c.toNat == 0x200C || c.toNat == 0x200D) || before.head?.any isVowelKiller
        || (!before.isEmpty && keepsApart))
      && joinersStand (c :: before) rest

/-- Whether a label may stand in a name: it does not begin with a mark, its joiners stand where
they may, and it is no longer than can be spelled. -/
def isSoundLabel (label : List Char) : Bool :=
  isAscii label
    || (!label.head?.any Text.isMark && joinersStand [] label && decide (label.length ≤ 1000))

/-- A label as it is sent. -/
def sentLabel (label : List Char) : List Char :=
  if isAscii label then label else spellingMark ++ Punycode.encode label

/-! ## Names -/

/-- The name of a host as it is sent, if the host is a name. -/
def domain? (host : List Char) : Option (List Char) := do
  let name ← plainName? (← unescape? host)
  let labels := name.splitOn '.'
  let read ← labels.mapM readLabel?
  if read.all isSoundLabel && (!read.any (·.any isFromRight) || read.all readsOneWay) then
    some (['.'].intercalate (labels.map sentLabel))
  else none

end Gatehouse.Url
