/-!
# Letter case of ASCII text

Only the letters A to Z change; every other character, accented letters included, stays.
Two texts agree up to case exactly when their lowered forms are equal.
-/
namespace Gatehouse.Text

/-- `c` in lower case when it is an ASCII letter. -/
def lowerAscii (c : Char) : Char :=
  if 'A' ≤ c ∧ c ≤ 'Z' then Char.ofNat (c.toNat + 32) else c

/-- `c` in upper case when it is an ASCII letter. -/
def upperAscii (c : Char) : Char :=
  if 'a' ≤ c ∧ c ≤ 'z' then Char.ofNat (c.toNat - 32) else c

def lowered (text : String) : String := String.ofList (text.toList.map lowerAscii)

def uppered (text : String) : String := String.ofList (text.toList.map upperAscii)

/-- Equality of names that may be spelled in any ASCII letter case. -/
def sameName (left right : String) : Bool := lowered left == lowered right

@[simp] theorem sameName_iff (left right : String) :
    sameName left right = true ↔ lowered left = lowered right := by
  simp [sameName]

theorem sameName_refl (name : String) : sameName name name = true := by simp

theorem sameName_comm (left right : String) : sameName left right = sameName right left := by
  simp [sameName, Bool.beq_comm]

end Gatehouse.Text
