import Stencil.Calendar.Moment
import Stencil.Failure
import Stencil.Text.Case

/-!
# Writing moments by directives

A format in which a percent sign and a letter stand for a part of a moment. Between the two there
may be flags that choose how a part is filled up or cased, a least width, and a letter that asks for
other forms, of which there are none. What is no directive is written as it stands.

The zone and the microseconds are put in first, where their letters stand right behind the percent
sign. A format ends at a null character, and a result that is far longer than its format is empty.
-/

namespace Stencil.Directive

/-! ## Parts of a moment -/

/-- The days of the week, Monday first. -/
def weekdays : List String :=
  ["Monday", "Tuesday", "Wednesday", "Thursday", "Friday", "Saturday", "Sunday"]

def months : List String :=
  ["January", "February", "March", "April", "May", "June", "July", "August", "September", "October",
    "November", "December"]

def weekdayName (m : Moment) : String := weekdays.getD m.date.weekday ""

def monthName (m : Moment) : String := months.getD (m.date.month - 1) ""

/-- The first three letters of a name. -/
def short (s : String) : String := String.ofList (s.toList.take 3)

/-- The number of weeks of the year that have begun by a moment, when weeks begin on the day that
`since` counts from. -/
def weekOfYear (m : Moment) (since : Nat) : Nat := (m.date.dayOfYear + 6 - since) / 7

/-- The week to which a day belongs when weeks belong to the year of their Thursday: year and
week. -/
def thursdayWeek (d : Date) : Nat × Nat :=
  let thursday := d.ordinal + 3 - d.weekday
  match Date.ofOrdinal? thursday with
  | some t => (t.year, (t.dayOfYear - 1) / 7 + 1)
  | none => (d.year + 1, 1)

def hour12 (m : Moment) : Nat := if m.hour % 12 = 0 then 12 else m.hour % 12

def halfDay (m : Moment) : String := if m.hour < 12 then "AM" else "PM"

/-- The seconds since the start of 1970 on the clock of the moment. -/
def epochSeconds (m : Moment) : Int := m.clock / 1000000 - 719163 * 86400

/-! ## Filling up -/

/-- How a directive is asked to write its part. -/
structure Style where
  /-- The flag that says how to fill up: `0`, `_` or `-`. -/
  pad : Option Char
  upper : Bool
  swap : Bool
  width : Nat
  /-- The letter that asks for another form: `E` or `O`. -/
  form : Option Char

def Style.plain : Style := ⟨none, false, false, 0, none⟩

def padded (c : Char) (width : Nat) (text : List Char) : List Char :=
  List.replicate (width - text.length) c ++ text

/-- A text filled up to the width. -/
def fill (s : Style) (text : List Char) : List Char :=
  padded (if s.pad = some '0' then '0' else ' ') s.width text

def capital (c : Char) : Char :=
  match Text.upperOf c with
  | [d] => d
  | _ => c

/-- A text in the case that is asked for, filled up. -/
def words (s : Style) (text : List Char) : List Char :=
  fill s (if s.upper then text.map capital else text)

/-- A number with at least `digits` digits, filled up with `usual` unless the flags say
otherwise. -/
def number (s : Style) (digits : Nat) (usual : Char) (n : Nat) : List Char :=
  let text := Nat.toDigits 10 n
  match s.pad.getD usual with
  | '-' => padded ' ' s.width text
  | '_' => padded ' ' (max digits s.width) text
  | _ => padded '0' (max digits s.width) text

/-- A name. The flag that swaps case writes it in upper case. -/
def name (s : Style) (text : String) : List Char :=
  words { s with upper := s.upper || s.swap } text.toList

/-- Morning or afternoon in small letters or in capitals. -/
def halfDayText (m : Moment) (s : Style) (small : Bool) : List Char :=
  fill s ((halfDay m).toList.map fun c => if small || s.swap then c.toLower else c)

/-! ## Directives -/

/-- The letters that have no other form by `E`. -/
def plainByE : List Char := "aAbBdDeFgGhHIjklmMSUVwW%".toList

/-- The letters that have no other form by `O`. -/
def plainByO : List Char := "aAcDFxXY%".toList

/-- Whether a letter may be written in the form that is asked for. -/
def allows (form : Option Char) (letter : Char) : Bool :=
  match form with
  | some 'E' => !plainByE.contains letter
  | some _ => !plainByO.contains letter
  | none => true

/-- The part that a letter stands for, for the letters of a single part. -/
def simple? (m : Moment) (s : Style) (letter : Char) : Option (List Char) :=
  match letter with
  | 'a' => some (name s (short (weekdayName m)))
  | 'A' => some (name s (weekdayName m))
  | 'b' | 'h' => some (name s (short (monthName m)))
  | 'B' => some (name s (monthName m))
  | 'C' => some (number s 1 '0' (m.date.year / 100))
  | 'd' => some (number s 2 '0' m.date.day)
  | 'e' => some (number s 2 '_' m.date.day)
  | 'g' => some (number s 2 '0' ((thursdayWeek m.date).1 % 100))
  | 'G' => some (number s 1 '0' (thursdayWeek m.date).1)
  | 'H' => some (number s 2 '0' m.hour)
  | 'I' => some (number s 2 '0' (hour12 m))
  | 'j' => some (number s 3 '0' m.date.dayOfYear)
  | 'k' => some (number s 2 '_' m.hour)
  | 'l' => some (number s 2 '_' (hour12 m))
  | 'm' => some (number s 2 '0' m.date.month)
  | 'M' => some (number s 2 '0' m.minute)
  | 'n' => some (fill s ['\n'])
  | 'p' => some (if s.upper && !s.swap then words s (halfDay m).toList else halfDayText m s false)
  | 'P' => some (halfDayText m s true)
  | 's' =>
      let n := epochSeconds m
      some (fill s ((if n < 0 then ['-'] else []) ++ Nat.toDigits 10 n.natAbs))
  | 'S' => some (number s 2 '0' m.second)
  | 't' => some (fill s ['\t'])
  | 'u' => some (number s 1 '0' (m.date.weekday + 1))
  | 'U' => some (number s 2 '0' (weekOfYear m ((m.date.weekday + 1) % 7)))
  | 'V' => some (number s 2 '0' (thursdayWeek m.date).2)
  | 'w' => some (number s 1 '0' ((m.date.weekday + 1) % 7))
  | 'W' => some (number s 2 '0' (weekOfYear m m.date.weekday))
  | 'y' => some (number s 2 '0' (m.date.year % 100))
  | 'Y' => some (number s 1 '0' m.date.year)
  | 'z' => some (if m.zone.isSome then "+0000".toList else [])
  | 'Z' => some (if m.zone.isSome then "UTC".toList else [])
  | '%' => some (fill s ['%'])
  | _ => none

/-- The directives that a letter for several parts stands for. -/
def composite? (letter : Char) : Option (List Char) :=
  match letter with
  | 'c' => some "a b e H:M:S Y".toList
  | 'D' | 'x' => some "m/d/y".toList
  | 'F' => some "Y-m-d".toList
  | 'r' => some "I:M:S p".toList
  | 'R' => some "H:M".toList
  | 'T' | 'X' => some "H:M:S".toList
  | _ => none

/-- The text of a letter; none if it is no directive. -/
def write? (m : Moment) (s : Style) (letter : Char) : Option (List Char) :=
  if allows s.form letter then
    match composite? letter with
    | some letters =>
        some (words s (letters.flatMap fun c =>
          if c.isAlpha then (simple? m .plain c).getD [] else [c]))
    | none => simple? m s letter
  else none

/-- The flags at the start of a text, and what follows them. -/
def flags (s : Style) : List Char → Style × List Char
  | [] => (s, [])
  | c :: cs =>
      if c = '_' ∨ c = '-' ∨ c = '0' then flags { s with pad := some c } cs
      else if c = '^' then flags { s with upper := true } cs
      else if c = '#' then flags { s with swap := true } cs
      else (s, c :: cs)

/-- The letter for another form at the start of a text, and what follows it. -/
def formLetter : List Char → Option Char × List Char
  | 'E' :: cs => (some 'E', cs)
  | 'O' :: cs => (some 'O', cs)
  | cs => (none, cs)

/-- What the text behind a percent sign writes if it begins with a directive, and how many of its
characters belong to that. What is none stands for itself, but a percent sign at its end only for
that sign. No width is above `most`. -/
def directive (m : Moment) (most : Nat) (cs : List Char) : List Char × Nat :=
  let (s, rest) := flags .plain cs
  let digits := rest.takeWhile Char.isDigit
  let width := digits.foldl (fun n c => min most (n * 10 + (c.toNat - 0x30))) 0
  let (form, rest) := formLetter (rest.dropWhile Char.isDigit)
  let s := { s with width, form }
  match rest with
  | [] => (words s ('%' :: cs), cs.length)
  | letter :: more =>
      let n := cs.length - more.length
      match write? m s letter with
      | some text => (text, n)
      | none => (words s (if letter = '%' then ['%'] else '%' :: cs.take n), n)

/-! ## Formats -/

/-- The distance of the zone as `+HHMM`, nothing where the zone is not known. It has to be less than
a day. -/
def offsetText (m : Moment) : Except Failure (List Char) :=
  match m.zone with
  | none => .ok []
  | some z => if z.offset.natAbs < 86400 then .ok (z.toText "").toList else .error .badValue

/-- The name of the zone as it stands in a format. -/
def zoneText (m : Moment) : List Char :=
  ((m.zone.bind (·.name)).getD "").toList.flatMap fun c => if c = '%' then ['%', '%'] else [c]

/-- The format with the zone and the microseconds put in. -/
def putIn (m : Moment) : List Char → Except Failure (List Char)
  | '%' :: c :: cs => do
      let rest ← putIn m cs
      if c = 'z' then .ok ((← offsetText m) ++ rest)
      else if c = 'Z' then .ok (zoneText m ++ rest)
      else if c = 'f' then .ok ((Date.padded 6 m.micro).toList ++ rest)
      else .ok ('%' :: c :: rest)
  | c :: cs => do .ok (c :: (← putIn m cs))
  | [] => .ok []

/-- The text of a format from a place on, where the next `skip` characters belong to a directive
that is already written. -/
def writeFrom (m : Moment) (most : Nat) : (skip : Nat) → List Char → List Char
  | _, [] => []
  | skip + 1, _ :: cs => writeFrom m most skip cs
  | 0, c :: cs =>
      if c = '%' then
        let (text, n) := directive m most cs
        text ++ writeFrom m most n cs
      else c :: writeFrom m most 0 cs

/-- A moment written by a format. The result is empty if it fills the room for it, which is 256
characters for each of the format, rounded up to a power of two. -/
def format (m : Moment) (cs : List Char) : Except Failure (List Char) := do
  let cs ← putIn m (cs.takeWhile (· != '\x00'))
  let room := max 1024 (256 * cs.length).nextPowerOfTwo
  let text := writeFrom m room 0 cs
  .ok (if text.length < room then text else [])

end Stencil.Directive
