import Gatehouse.Log.Logger

/-!
# Sinks that keep records

Several lists of records, one for each capturing sink.
-/
namespace Gatehouse

abbrev Captures := List (List Record)

/-- A sink that adds to the list at a place. -/
def Sink.capture (place : Nat) : Sink Captures Unit where
  write := fun record captures => (.ok (), captures.modify place (· ++ [record]))
  flush := fun captures => (.ok (), captures)

/-- A sink that refuses every record. -/
def Sink.refuse {World : Type} : Sink World Unit where
  write := fun _ world => (.error (), world)
  flush := fun world => (.ok (), world)

/-- Sinks of which some capture; those have the places from `first` on. -/
def Sink.captures (first : Nat) : List Bool → List (Sink Captures Unit)
  | [] => []
  | true :: rest => .capture first :: captures (first + 1) rest
  | false :: rest => .refuse :: captures first rest

/-- The records of a list at a level. -/
def atLevel (records : List Record) (level : Level) : List Record :=
  records.filter fun record => record.level == level

end Gatehouse
