import Gatehouse.Number.Digits
import Gatehouse.Text.Alphanumeric
import Gatehouse.Text.Blank

/-!
# Patterns

A directive may ask for a field whose value fits a pattern, which is a regular expression. Here
only its form matters: whether brackets are closed, signs of repetition have something to repeat,
and escapes and flags are known. A closing brace cannot occur, so nothing that needs one is sound.
-/
namespace Gatehouse.Pattern

/-- What the flags in force say: whether characters beyond ASCII are characters, and whether blanks
are left out. -/
structure Flags where
  unicode : Bool
  spaced : Bool

/-! ## Escapes -/

/-- What one place of a class, or of a text, may be. -/
inductive Unit
  | character (point : Nat)
  | several
  | place

/-- A code point of so many hexadecimal digits. -/
def hexUnit? (digits : Nat) (text : List Char) : Option (Unit × List Char) :=
  let spelled := text.take digits
  let point := Digits.number 16 spelled
  if spelled.length = digits ∧ spelled.all Digits.isHex ∧ point.isValidChar then
    some (.character point, text.drop digits)
  else none

/-- Whether a character is a sign without a meaning of its own behind a backslash. -/
def isSign (c : Char) : Bool :=
  decide (c.toNat < 0x80) && !c.isAlphanum && c != '<' && c != '>'

/-- An escape behind its backslash. -/
def escape? (flags : Flags) : List Char → Option (Unit × List Char)
  | [] => none
  | c :: rest =>
    if c = 'x' then hexUnit? 2 rest
    else if c = 'u' then hexUnit? 4 rest
    else if c = 'U' then hexUnit? 8 rest
    else if c = 'p' ∨ c = 'P' then
      match rest with
      | kind :: rest =>
        if flags.unicode ∧ "clmnpsz".toList.contains kind.toLower then some (.several, rest)
        else none
      | [] => none
    else if "dsw".toList.contains c then some (.several, rest)
    else if "DSW".toList.contains c then if flags.unicode then some (.several, rest) else none
    else if "bB<>".toList.contains c then if flags.unicode then none else some (.place, rest)
    else if c = 'A' ∨ c = 'z' then some (.place, rest)
    else if c = 'a' then some (.character 0x07, rest)
    else if c = 'f' then some (.character 0x0C, rest)
    else if c = 't' then some (.character 0x09, rest)
    else if c = 'n' then some (.character 0x0A, rest)
    else if c = 'r' then some (.character 0x0D, rest)
    else if c = 'v' then some (.character 0x0B, rest)
    else if isSign c then some (.character c.toNat, rest)
    else none

/-! ## Classes -/

/-- One item of a class. -/
def classUnit? (flags : Flags) : List Char → Option (Unit × List Char)
  | [] => none
  | '\\' :: rest =>
    match escape? flags rest with
    | some (.place, _) => none
    | found => found
  | c :: rest => some (.character c.toNat, rest)

/-- An item of a class, or a range of characters from one to another. -/
def classItem? (flags : Flags) (text : List Char) : Option (List Char) :=
  match classUnit? flags text with
  | none => none
  | some (first, '-' :: next :: rest) =>
    if next = ']' ∨ next = '-' then some ('-' :: next :: rest)
    else
      match first, classUnit? flags (next :: rest) with
      | .character low, some (.character high, rest) => if low ≤ high then some rest else none
      | _, _ => none
  | some (_, rest) => some rest

def classNames : List String :=
  ["alnum", "alpha", "ascii", "blank", "cntrl", "digit", "graph", "lower", "print", "punct",
    "space", "upper", "word", "xdigit"]

/-- What follows a named class behind its opening bracket, if there is one. -/
def namedClass? (text : List Char) : Option (List Char) :=
  match text with
  | ':' :: rest =>
    let rest := if rest.head? = some '^' then rest.drop 1 else rest
    let name := rest.takeWhile (· != ':')
    match rest.drop name.length with
    | ':' :: ']' :: rest => if classNames.contains (String.ofList name) then some rest else none
    | _ => none
  | _ => none

/-- What follows the opening of a class: a bracket that stands first is no end. -/
def openClass (text : List Char) : List Char :=
  let text := if text.head? = some '^' then text.drop 1 else text
  let items := text.dropWhile (· == '-')
  if items.length = text.length ∧ items.head? = some ']' then items.drop 1 else items

/-- What follows a class of which so many brackets are open. -/
def behindClass? (flags : Flags) : Nat → Nat → List Char → Option (List Char)
  | 0, _, _ => none
  | _, _, [] => none
  | budget + 1, depth, text@(c :: rest) =>
    if c = '[' then
      match namedClass? rest with
      | some rest => behindClass? flags budget depth rest
      | none => behindClass? flags budget (depth + 1) (openClass rest)
    else if c = ']' then
      if depth ≤ 1 then some rest else behindClass? flags budget (depth - 1) rest
    else if (c = '&' ∨ c = '-' ∨ c = '~') ∧ rest.head? = some c then
      behindClass? flags budget depth (rest.drop 1)
    else (classItem? flags text).bind (behindClass? flags budget depth)

/-! ## Groups -/

/-- How a group begins: with a name, with flags of its own, or as a change of flags alone. -/
inductive Opening
  | plain
  | named (name : List Char)
  | flagged (flags : Flags)
  | change (flags : Flags)

def isNameChar (isFirst : Bool) (c : Char) : Bool :=
  c == '_' || (if isFirst then Text.isAlphanumeric c && !c.isDigit
    else ['.', '[', ']'].contains c || Text.isAlphanumeric c)

def groupName? (text : List Char) : Option (Opening × List Char) :=
  let name := text.takeWhile (· != '>')
  match text.drop name.length with
  | [] => none
  | _ :: rest =>
    match name with
    | [] => none
    | c :: more =>
      if isNameChar true c && more.all (isNameChar false) then some (.named name, rest) else none

/-- The flags that a list of letters sets and, behind a hyphen, takes back. -/
def Flags.change (flags : Flags) (letters : List Char) : Flags :=
  let set := letters.takeWhile (· != '-')
  let unset := letters.drop set.length
  { unicode := (flags.unicode || set.contains 'u') && !unset.contains 'u'
    spaced := (flags.spaced || set.contains 'x') && !unset.contains 'x' }

/-- Whether a list of flags is sound: known letters, each once, and no hyphen at the end. -/
def areFlags (letters : List Char) : Bool :=
  (letters.all fun c => "imsUuxR-".toList.contains c) && decide letters.Nodup
    && letters.getLast? != some '-'

def groupFlags? (flags : Flags) (text : List Char) : Option (Opening × List Char) :=
  let letters := text.takeWhile fun c => c != ':' && c != ')'
  if !areFlags letters then none
  else
    match text.drop letters.length with
    | ':' :: rest => some (.flagged (flags.change letters), rest)
    | ')' :: rest => if letters.isEmpty then none else some (.change (flags.change letters), rest)
    | _ => none

/-- A group behind its opening bracket. -/
def group? (flags : Flags) (text : List Char) : Option (Opening × List Char) :=
  match text with
  | '?' :: '!' :: _ => none
  | '?' :: '<' :: '!' :: _ => none
  | '?' :: 'P' :: '<' :: rest => groupName? rest
  | '?' :: '<' :: rest => groupName? rest
  | '?' :: rest => groupFlags? flags rest
  | rest => some (.plain, rest)

/-! ## Patterns -/

/-- Where the reader of a pattern stands: the flags in force, those outside of each open group, the
names of groups, and whether there is something to repeat. -/
structure Reader where
  flags : Flags
  outer : List Flags
  names : List (List Char)
  isRepeatable : Bool

/-- Reads one element, and gives what follows it. -/
def Reader.step? (r : Reader) (c : Char) (rest : List Char) : Option (Reader × List Char) :=
  let whole : Reader := { r with isRepeatable := true }
  let fresh : Reader := { r with isRepeatable := false }
  if r.flags.spaced ∧ Text.isBlank c then some (r, rest)
  else if r.flags.spaced ∧ c = '#' then some (r, rest.dropWhile (· != '\n'))
  else
    match c with
    | '(' => do
      let (opening, rest) ← group? r.flags rest
      match opening with
      | .plain => return ({ fresh with outer := r.flags :: r.outer }, rest)
      | .named name =>
        if r.names.contains name then none
        else return ({ fresh with outer := r.flags :: r.outer, names := name :: r.names }, rest)
      | .flagged flags => return ({ fresh with outer := r.flags :: r.outer, flags := flags }, rest)
      | .change flags => return ({ fresh with flags := flags }, rest)
    | ')' =>
      match r.outer with
      | [] => none
      | flags :: outer => some ({ whole with flags := flags, outer := outer }, rest)
    | '|' => some (fresh, rest)
    | '[' =>
      if !r.flags.unicode && rest.head? == some '^' then none
      else (behindClass? r.flags (rest.length + 1) 1 (openClass rest)).map (whole, ·)
    | '\\' => (escape? r.flags rest).map fun found => (whole, found.2)
    | '.' => if r.flags.unicode then some (whole, rest) else none
    | '{' => none
    | _ =>
      if ['*', '+', '?'].contains c then if r.isRepeatable then some (r, rest) else none
      else some (whole, rest)

def Reader.accepts : Nat → Reader → List Char → Bool
  | 0, _, _ => false
  | _, r, [] => r.outer.isEmpty
  | budget + 1, r, c :: rest =>
    match r.step? c rest with
    | none => false
    | some (r, rest) => r.accepts budget rest

/-- Whether a text is a pattern. -/
def isSound (text : List Char) : Bool :=
  Reader.accepts (text.length + 1) ⟨⟨true, false⟩, [], [], false⟩ text

/-! ## Numbers

A value that is a number is met as such. All of them are patterns too but those with a plus sign. -/

/-- A decimal literal without its sign. -/
def isDecimal (text : List Char) : Bool :=
  let whole := text.takeWhile Char.isDigit
  let rest := text.drop whole.length
  let part := if rest.head? = some '.' then (rest.drop 1).takeWhile Char.isDigit else []
  let rest := if rest.head? = some '.' then rest.drop (part.length + 1) else rest
  let isExponent (text : List Char) : Bool :=
    let digits := if text.head?.any ['+', '-'].contains then text.drop 1 else text
    !digits.isEmpty && digits.all Char.isDigit
  !(whole.isEmpty && part.isEmpty)
    && (rest.isEmpty || (rest.head?.any ['e', 'E'].contains && isExponent (rest.drop 1)))

def isPositiveNumber (text : List Char) : Bool :=
  match text with
  | '+' :: rest =>
    isDecimal rest || ["inf", "infinity", "nan"].contains (String.ofList (rest.map Char.toLower))
  | _ => false

/-- Whether a text may be the value of a field. -/
def isValue (text : List Char) : Bool := isPositiveNumber text || isSound text

end Gatehouse.Pattern
