/-!
# Blank characters

The characters with the White_Space property, and trimming. A text trimmed twice is trimmed once.
-/
namespace Gatehouse.Text

/-- The White_Space property: the ASCII blanks, next line, and the Unicode spaces and separators. -/
def isBlank (c : Char) : Bool :=
  let n := c.toNat
  (0x9 ≤ n && n ≤ 0xD) || n == 0x20 || n == 0x85 || n == 0xA0 || n == 0x1680
    || (0x2000 ≤ n && n ≤ 0x200A) || n == 0x2028 || n == 0x2029 || n == 0x202F
    || n == 0x205F || n == 0x3000

def trimStart (text : List Char) : List Char := text.dropWhile isBlank

def trimEnd (text : List Char) : List Char := (text.reverse.dropWhile isBlank).reverse

def trim (text : List Char) : List Char := trimEnd (trimStart text)

def trimmed (text : String) : String := String.ofList (trim text.toList)

/-- A text with nothing but blanks, the empty text included. -/
def allBlank (text : List Char) : Bool := text.all isBlank

theorem trimStart_eq_nil_iff (text : List Char) : trimStart text = [] ↔ allBlank text = true := by
  induction text with
  | nil => simp [trimStart, allBlank]
  | cons c rest ih =>
    by_cases blank : isBlank c <;> simp_all [trimStart, allBlank]

theorem trimStart_head (text : List Char) (c : Char) (rest : List Char)
    (shape : trimStart text = c :: rest) : isBlank c = false := by
  induction text with
  | nil => simp [trimStart] at shape
  | cons d tail ih =>
    by_cases blank : isBlank d
    · simp only [trimStart, List.dropWhile_cons, blank, if_true] at shape
      exact ih shape
    · simp only [trimStart, List.dropWhile_cons, blank] at shape
      simp_all

end Gatehouse.Text
