import Stencil.Calendar.Date
import Stencil.Number.Numeral
import Stencil.Text.Case

/-!
# Which number is the day

A date in free form gives up to three numbers, and some of them say what they are: a month by its
name, a year by more than two digits. The others are told apart by their size and their order: month
before day before year, unless a number is too large for its place.
-/

namespace Stencil.FreeForm

open Stencil.Text

/-! ## Words -/

/-- A token in small letters. -/
def word (token : List Char) : String := String.ofList (lower token)

/-- The place of the list that holds a word. -/
def placeIn? (lists : List (List String)) (token : List Char) : Option Nat :=
  lists.findIdx? fun names => names.contains (word token)

def weekdayWords : List (List String) :=
  [["mon", "monday"], ["tue", "tuesday"], ["wed", "wednesday"], ["thu", "thursday"],
    ["fri", "friday"], ["sat", "saturday"], ["sun", "sunday"]]

def monthWords : List (List String) :=
  [["jan", "january"], ["feb", "february"], ["mar", "march"], ["apr", "april"], ["may"],
    ["jun", "june"], ["jul", "july"], ["aug", "august"], ["sep", "sept", "september"],
    ["oct", "october"], ["nov", "november"], ["dec", "december"]]

def unitWords : List (List String) :=
  [["h", "hour", "hours"], ["m", "minute", "minutes"], ["s", "second", "seconds"]]

def halfDayWords : List (List String) := [["am", "a"], ["pm", "p"]]

/-- The words and marks that mean nothing by themselves. -/
def fillers : List String :=
  [" ", ".", ",", ";", "-", "/", "'", "at", "on", "and", "ad", "m", "t", "of", "st", "nd", "rd",
    "th"]

/-- The number of the day of the week that a token names, Monday being 0. -/
def weekday? (token : List Char) : Option Nat := placeIn? weekdayWords token

/-- The number of the month that a token names. -/
def month? (token : List Char) : Option Nat := (placeIn? monthWords token).map (· + 1)

/-- The unit that a token names: 0 for hours, 1 for minutes, 2 for seconds. -/
def unit? (token : List Char) : Option Nat := placeIn? unitWords token

/-- The half of the day that a token names: 0 for the morning, 1 for the afternoon. -/
def halfDay? (token : List Char) : Option Nat := placeIn? halfDayWords token

def isFiller (token : List Char) : Bool := fillers.contains (word token)

/-- Whether a token names universal time. -/
def namesUtc (token : List Char) : Bool := ["utc", "gmt", "z"].contains (word token)

/-! ## Decimal numbers -/

/-- A decimal number: its digits, and how many of them are behind the point. -/
structure Decimal where
  digits : Nat
  places : Nat

/-- The number that a token of digits with at most one point spells. -/
def Decimal.ofToken? (token : List Char) : Option Decimal :=
  if token.all isDigit then
    if token.isEmpty then none else some ⟨Numeral.digitsValue token, 0⟩
  else if Numeral.isPointed token then
    let places := ((token.dropWhile isDigit).drop 1).length
    some ⟨Numeral.digitsValue (token.filter isDigit), places⟩
  else none

/-- The part before the point. -/
def Decimal.whole (d : Decimal) : Nat := d.digits / Nat.pow 10 d.places

/-- Sixty times the part behind the point, without its own such part; none if there is nothing
behind the point. -/
def Decimal.sixtieths? (d : Decimal) : Option Nat :=
  let fraction := d.digits % Nat.pow 10 d.places
  if fraction = 0 then none else some (60 * fraction / Nat.pow 10 d.places)

def whole? (token : List Char) : Option Nat :=
  if !token.isEmpty && token.all isDigit then some (Numeral.digitsValue token) else none

/-! ## Telling the numbers apart -/

/-- What a number can be known to be. -/
inductive Label
  | year | month | day
deriving DecidableEq

/-- The numbers of a date, and which of them are known. -/
structure DayParts where
  values : List Nat
  fullYear : Bool
  yearAt : Option Nat
  monthAt : Option Nat
  dayAt : Option Nat

namespace DayParts

def empty : DayParts := ⟨[], false, none, none, none⟩

def push (p : DayParts) (n : Nat) (label : Option Label) : Option DayParts :=
  let here := p.values.length
  let p := { p with values := p.values ++ [n] }
  match label with
  | none => some p
  | some .year => if p.yearAt.isSome then none else some { p with yearAt := some here }
  | some .month => if p.monthAt.isSome then none else some { p with monthAt := some here }
  | some .day => if p.dayAt.isSome then none else some { p with dayAt := some here }

/-- One more number, a year if it is too large for anything else. -/
def pushLarge (p : DayParts) (n : Nat) (isLarge : Bool) (label : Option Label) : Option DayParts :=
  if isLarge then
    if label = none ∨ label = some .year then { p with fullYear := true }.push n (some .year)
    else none
  else p.push n label

/-- One more number as it is written; more than two digits make it a year. -/
def pushToken (p : DayParts) (token : List Char) (label : Option Label) : Option DayParts := do
  p.pushLarge (← whole? token) (2 < token.length) label

/-- One more number by its value; a value above a hundred makes it a year. -/
def pushValue (p : DayParts) (d : Decimal) : Option DayParts :=
  p.pushLarge d.whole (100 * Nat.pow 10 d.places < d.digits) none

def pushMonth (p : DayParts) (n : Nat) : Option DayParts := p.push n (some .month)

/-- Whether a number could still be the day. A month outside of the calendar refuses to say. -/
def couldBeDay (p : DayParts) (d : Decimal) : Option Bool :=
  let within := fun last => Nat.pow 10 d.places ≤ d.digits && d.digits ≤ last * Nat.pow 10 d.places
  if p.dayAt.isSome then some false
  else match p.monthAt with
    | none => some (within 31)
    | some m =>
        let month := p.values.getD m 0
        let year := match p.yearAt with
          | some y => p.values.getD y 0
          | none => 2000
        if 1 ≤ month ∧ month ≤ 12 then some (within (Date.daysIn year month)) else none

/-- A date of which some parts may be missing. -/
structure Partial where
  year : Option Nat
  month : Option Nat
  day : Option Nat

/-- The parts by the places that are known. -/
def byPlace (p : DayParts) (y m d : Option Nat) : Partial :=
  let at1 := fun (i : Option Nat) => i.bind fun i => p.values[i]?
  ⟨at1 y, at1 m, at1 d⟩

/-- The date of numbers whose places are known, all or all but one of three; none if that does not
settle it. -/
def known? (p : DayParts) : Option Partial :=
  let places := [p.yearAt, p.monthAt, p.dayAt].filterMap id
  if places.length = p.values.length ∧ places ≠ [] then
    some (p.byPlace p.yearAt p.monthAt p.dayAt)
  else if p.values.length = 3 ∧ places.length = 2 then
    let missing := [0, 1, 2].find? fun i => !places.contains i
    some (p.byPlace (if p.yearAt.isSome then p.yearAt else missing)
      (if p.monthAt.isSome then p.monthAt else missing)
      (if p.dayAt.isSome then p.dayAt else missing))
  else none

/-- The date that three numbers stand for. -/
def three (p : DayParts) (a b c : Nat) : Partial :=
  match p.monthAt with
  | some 0 => if 31 < b then ⟨some b, some a, some c⟩ else ⟨some c, some a, some b⟩
  | some 1 => if 31 < a then ⟨some a, some b, some c⟩ else ⟨some c, some b, some a⟩
  | some _ => if 31 < b then ⟨some b, some c, some a⟩ else ⟨some a, some c, some b⟩
  | none =>
      if 31 < a ∨ p.yearAt = some 0 then ⟨some a, some b, some c⟩
      else if 12 < a then ⟨some c, some b, some a⟩
      else ⟨some c, some a, some b⟩

/-- The date that two numbers stand for. -/
def two (p : DayParts) (a b : Nat) : Partial :=
  match p.monthAt with
  | some i =>
      let (month, other) := if i = 0 then (a, b) else (b, a)
      if 31 < other then ⟨some other, some month, none⟩ else ⟨none, some month, some other⟩
  | none =>
      if 31 < a then ⟨some a, some b, none⟩
      else if 31 < b then ⟨some b, some a, none⟩
      else ⟨none, some a, some b⟩

/-- The date that the numbers stand for; refused if there are more than three. -/
def resolve? (p : DayParts) : Option Partial :=
  match p.known? with
  | some d => some d
  | none =>
      match p.values with
      | [] => some ⟨none, none, none⟩
      | [a] =>
          if p.monthAt.isSome then some ⟨none, some a, none⟩
          else if 31 < a then some ⟨some a, none, none⟩ else some ⟨none, none, some a⟩
      | [a, b] => some (p.two a b)
      | [a, b, c] => some (p.three a b c)
      | _ => none

end DayParts

end Stencil.FreeForm
