import Stencil.Calendar.Date

/-!
# Moments

A day with a time of day, and the zone it is meant in if one is known.
-/

namespace Stencil

/-- A zone: its distance from universal time in seconds, and its name if it has one. -/
structure Zone where
  offset : Int
  name : Option String
deriving DecidableEq, Inhabited, Repr

/-- A day and a time of day to the microsecond. -/
structure Moment where
  date : Date
  hour : Nat
  minute : Nat
  second : Nat
  micro : Nat
  zone : Option Zone
deriving DecidableEq, Inhabited, Repr

namespace Zone

def utc : Zone := ⟨0, some "UTC"⟩

def toText (z : Zone) (colon : String) : String :=
  let size := z.offset.natAbs
  let seconds := size % 60
  (if z.offset < 0 then "-" else "+") ++ Date.padded 2 (size / 3600) ++ colon ++
    Date.padded 2 (size / 60 % 60) ++ (if seconds = 0 then "" else colon ++ Date.padded 2 seconds)

end Zone

namespace Moment

/-- The moment with these parts, if there is one. -/
def make? (date : Date) (hour minute second micro : Nat) (zone : Option Zone) : Option Moment :=
  if hour < 24 ∧ minute < 60 ∧ second < 60 ∧ micro < 1000000 then
    some ⟨date, hour, minute, second, micro, zone⟩
  else none

/-- The microseconds from the last day of year 0 to the moment, as its own clock shows it. -/
def clock (m : Moment) : Int :=
  ((((m.date.ordinal * 24 + m.hour) * 60 + m.minute) * 60 + m.second) * 1000000 + m.micro : Nat)

/-- The same in universal time, where the zone is known. -/
def universal (m : Moment) : Int := m.clock - ((m.zone.map (·.offset)).getD 0) * 1000000

/-- The moment as `YYYY-MM-DD HH:MM:SS`, with microseconds only where there are some and the zone
where it is known, and `between` between day and time. -/
def toTextWith (between : String) (m : Moment) : String :=
  m.date.toText ++ between ++ Date.padded 2 m.hour ++ ":" ++ Date.padded 2 m.minute ++ ":" ++
    Date.padded 2 m.second ++ (if m.micro = 0 then "" else "." ++ Date.padded 6 m.micro) ++
    match m.zone with
    | some z => z.toText ":"
    | none => ""

def toText (m : Moment) : String := toTextWith " " m

/-- Two moments are the same if both zones are known and universal time agrees, or neither is known
and their clocks agree. -/
def same (a b : Moment) : Bool :=
  match a.zone, b.zone with
  | some _, some _ => a.universal == b.universal
  | none, none => a.clock == b.clock
  | _, _ => false

/-- The order of two moments; none if the zone of only one of them is known. -/
def order? (a b : Moment) : Option Ordering :=
  match a.zone, b.zone with
  | some _, some _ => some (compare a.universal b.universal)
  | none, none => some (compare a.clock b.clock)
  | _, _ => none

end Moment

end Stencil
