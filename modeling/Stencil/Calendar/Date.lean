/-!
# Dates

Days of the Gregorian calendar, carried back before its introduction, from year 1 to year 9999.
-/

namespace Stencil

structure Date where
  year : Nat
  month : Nat
  day : Nat
deriving DecidableEq, Inhabited, Repr

namespace Date

def isLeap (year : Nat) : Bool := year % 4 == 0 && (year % 100 != 0 || year % 400 == 0)

def daysIn (year month : Nat) : Nat :=
  match month with
  | 2 => if isLeap year then 29 else 28
  | 4 | 6 | 9 | 11 => 30
  | _ => 31

def make? (year month day : Nat) : Option Date :=
  if 1 ≤ year ∧ year ≤ 9999 ∧ 1 ≤ month ∧ month ≤ 12 ∧ 1 ≤ day ∧ day ≤ daysIn year month then
    some ⟨year, month, day⟩
  else none

/-- The days of the year before the first of a month. -/
def daysBefore (year : Nat) : (month : Nat) → Nat
  | 0 | 1 => 0
  | m + 2 => daysBefore year (m + 1) + daysIn year (m + 1)

/-- The number of the day in its year, from 1. -/
def dayOfYear (d : Date) : Nat := daysBefore d.year d.month + d.day

/-- The days since the last day of year 0. -/
def ordinal (d : Date) : Nat :=
  let y := d.year - 1
  y * 365 + y / 4 - y / 100 + y / 400 + d.dayOfYear

/-- The day of the week, Monday being 0. -/
def weekday (d : Date) : Nat := (d.ordinal + 6) % 7

/-- The month and the day of the `n`-th day of a year, counted from month `m` on. -/
def monthAndDay (year m n : Nat) : (tries : Nat) → Nat × Nat
  | 0 => (m, n)
  | tries + 1 =>
      if n ≤ daysIn year m then (m, n) else monthAndDay year (m + 1) (n - daysIn year m) tries

/-- The day with a number in a year. -/
def ofDayOfYear (year n : Nat) : Date :=
  let (m, d) := monthAndDay year 1 n 12
  ⟨year, m, d⟩

/-- The day that has `n` days up to it since the last day of year 0; none outside of the
calendar. -/
def ofOrdinal? (n : Nat) : Option Date :=
  if n = 0 then none
  else
    let guess := (n * 400) / 146097 + 1
    let first := fun (y : Nat) => ((⟨y, 1, 1⟩ : Date)).ordinal
    let year :=
      if n < first guess then guess - 1
      else if first (guess + 1) ≤ n then guess + 1
      else guess
    if year = 0 ∨ 9999 < year then none else some (ofDayOfYear year (n - first year + 1))

/-- A number with at least `width` digits. -/
def padded (width n : Nat) : String :=
  let digits := Nat.toDigits 10 n
  String.ofList (List.replicate (width - digits.length) '0' ++ digits)

/-- The day as `YYYY-MM-DD`. -/
def toText (d : Date) : String :=
  padded 4 d.year ++ "-" ++ padded 2 d.month ++ "-" ++ padded 2 d.day

def order (a b : Date) : Ordering := compare a.ordinal b.ordinal

end Date

end Stencil
