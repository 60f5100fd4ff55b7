import Gatehouse.Number.Binary64

/-!
# JSON values

The values that log metadata, request bodies and response bodies carry. Integers and binary64
numbers are different values. An object lists its fields by ascending key, each key once; `insert`
keeps that order and lets the later of two equal keys win.
-/
namespace Gatehouse

inductive Json
  | null
  | bool (value : Bool)
  | integer (value : Int)
  | float (value : Binary64)
  | string (text : String)
  | array (items : List Json)
  | object (fields : List (String × Json))

namespace Json

instance : Inhabited Json := ⟨.null⟩

/-- The fields of an object. -/
abbrev Fields := List (String × Json)

def Fields.insert (key : String) (value : Json) : Fields → Fields
  | [] => [(key, value)]
  | (k, v) :: rest =>
    if key < k then (key, value) :: (k, v) :: rest
    else if key = k then (key, value) :: rest
    else (k, v) :: Fields.insert key value rest

/-- The fields of a list of pairs in any order. -/
def Fields.ofList (pairs : List (String × Json)) : Fields :=
  pairs.foldl (fun fields pair => Fields.insert pair.1 pair.2 fields) []

def Fields.find? (fields : Fields) (key : String) : Option Json :=
  (List.find? (fun field => field.1 == key) fields).map (·.2)

/-- An object from pairs in any order. -/
def ofPairs (pairs : List (String × Json)) : Json := .object (Fields.ofList pairs)

def ofNat (n : Nat) : Json := .integer n

/-- Text or null. -/
def ofText? (text : Option String) : Json := text.elim .null .string

def ofNat? (n : Option Nat) : Json := n.elim .null ofNat

/-- The integers that have an exact form: those of 64 bits, signed or unsigned. -/
def InRange (value : Int) : Prop := -0x8000000000000000 ≤ value ∧ value < 0x10000000000000000

/-- Every integer is in range and every object's keys ascend. -/
inductive WellFormed : Json → Prop
  | null : WellFormed .null
  | bool (value : Bool) : WellFormed (.bool value)
  | integer {value : Int} : InRange value → WellFormed (.integer value)
  | float (value : Binary64) : WellFormed (.float value)
  | string (text : String) : WellFormed (.string text)
  | array {items : List Json} : (∀ item ∈ items, WellFormed item) → WellFormed (.array items)
  | object {fields : Fields} : fields.Pairwise (fun a b => a.1 < b.1) →
      (∀ field ∈ fields, WellFormed field.2) → WellFormed (.object fields)

end Json

end Gatehouse
