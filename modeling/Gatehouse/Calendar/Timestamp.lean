import Gatehouse.Calendar.Date

/-!
# Instants of universal time

Whole seconds since the start of 1970, and nanoseconds. A leap second is the second before it with
a thousand million nanoseconds or more, and prints as second 60.
-/
namespace Gatehouse

structure Timestamp where
  seconds : Int
  nanos : Nat
deriving DecidableEq

namespace Timestamp

def date (time : Timestamp) : Date := ⟨time.seconds / 86400⟩

def secondOfDay (time : Timestamp) : Nat := (time.seconds % 86400).toNat

/-- The nanoseconds into the printed second. -/
def subsecond (time : Timestamp) : Nat := time.nanos % 1000000000

/-- Hours, minutes and seconds of the day. -/
def printClock (time : Timestamp) : List Char :=
  let second := time.secondOfDay
  Date.padded 2 (second / 3600) ++ ':' :: Date.padded 2 (second / 60 % 60)
    ++ ':' :: Date.padded 2 (second % 60 + time.nanos / 1000000000)

/-- A fraction to the millisecond; the rest is cut off. -/
def printMillis (time : Timestamp) : List Char := '.' :: Date.padded 3 (time.subsecond / 1000000)

/-- A fraction of three, six or nine digits, as many as it needs, or none. -/
def printFraction (time : Timestamp) : List Char :=
  let nanos := time.subsecond
  if nanos = 0 then []
  else if nanos % 1000000 = 0 then '.' :: Date.padded 3 (nanos / 1000000)
  else if nanos % 1000 = 0 then '.' :: Date.padded 6 (nanos / 1000)
  else '.' :: Date.padded 9 nanos

/-- The form of log lines in JSON. -/
def printMachine (time : Timestamp) : List Char :=
  time.date.print ++ 'T' :: time.printClock ++ time.printMillis ++ ['Z']

/-- The form of log lines for people. -/
def printHuman (time : Timestamp) : List Char :=
  time.date.print ++ ' ' :: time.printClock ++ time.printMillis

/-- The form of instants in documents. -/
def printExact (time : Timestamp) : List Char :=
  time.date.print ++ 'T' :: time.printClock ++ time.printFraction ++ ['Z']

end Timestamp

end Gatehouse
