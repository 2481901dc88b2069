import Stencil.Calendar.Moment
import Stencil.Failure

/-!
# Dates and moments in documents

A day by year, month and day, and perhaps a time of day behind a `T` or blanks, with a fraction of
seconds and a zone. A day by itself has two digits for month and day.
-/

namespace Stencil.Yaml.Timestamp

/-- The digits of a date and a time. -/
structure Parts where
  year : List Char
  month : List Char
  day : List Char
  time : Option (List Char × List Char × List Char)
  fraction : List Char
  /-- The sign, hours and minutes of a zone; no sign and no digits for universal time. -/
  zone : Option (Option Char × List Char × List Char)

/-- Between `least` and `most` digits, as many as there are. -/
def digits? (least most : Nat) (cs : List Char) : Option (List Char × List Char) :=
  let ds := (cs.take most).takeWhile Char.isDigit
  if least ≤ ds.length then some (ds, cs.drop ds.length) else none

/-- The text behind a mark. -/
def behind? (mark : Char) : List Char → Option (List Char)
  | c :: cs => if c = mark then some cs else none
  | [] => none

def isBlank (c : Char) : Bool := c == ' ' || c == '\t'

/-- The zone at the end of a moment. -/
def zone? (cs : List Char) : Option (Option (Option Char × List Char × List Char)) :=
  match cs with
  | [] => some none
  | cs =>
      match cs.dropWhile isBlank with
      | ['Z'] => some (some (none, [], []))
      | sign :: rest => do
          if sign ≠ '+' ∧ sign ≠ '-' then none
          else
            let (hours, rest) ← digits? 1 2 rest
            match rest with
            | [] => some (some (some sign, hours, []))
            | rest => do
                let (minutes, rest) ← digits? 2 2 (← behind? ':' rest)
                if rest.isEmpty then some (some (some sign, hours, minutes)) else none
      | [] => none

/-- The time of day behind a date. -/
def time? (cs : List Char) :
    Option ((List Char × List Char × List Char) × List Char × List Char) := do
  let (hour, rest) ← digits? 1 2 cs
  let (minute, rest) ← digits? 2 2 (← behind? ':' rest)
  let (second, rest) ← digits? 2 2 (← behind? ':' rest)
  match rest with
  | '.' :: rest =>
      some ((hour, minute, second), rest.takeWhile Char.isDigit, rest.dropWhile Char.isDigit)
  | rest => some ((hour, minute, second), [], rest)

/-- What separates a date from a time: a `T` or blanks. -/
def behindSeparator? : List Char → Option (List Char)
  | c :: cs =>
      if c = 'T' ∨ c = 't' then some cs
      else if isBlank c then some (cs.dropWhile isBlank)
      else none
  | [] => none

/-- The parts of a text that has the form of a date or a moment. -/
def parts? (cs : List Char) : Option Parts := do
  let (year, rest) ← digits? 4 4 cs
  let (month, rest) ← digits? 1 2 (← behind? '-' rest)
  let (day, rest) ← digits? 1 2 (← behind? '-' rest)
  match rest with
  | [] => some ⟨year, month, day, none, [], none⟩
  | rest => do
      let (time, fraction, rest) ← time? (← behindSeparator? rest)
      some ⟨year, month, day, some time, fraction, ← zone? rest⟩

/-- Whether a plain text is a date or a moment. -/
def isPlain (cs : List Char) : Bool :=
  match parts? cs with
  | some p => p.time.isSome || (p.month.length == 2 && p.day.length == 2)
  | none => false

def number (ds : List Char) : Nat := ds.foldl (fun n d => n * 10 + (d.toNat - 0x30)) 0

/-- The zone of some parts; refused if it is a day or more from universal time. -/
def zoneOf : Option (Option Char × List Char × List Char) → Except Failure (Option Zone)
  | none => .ok none
  | some (none, _, _) => .ok (some .utc)
  | some (some sign, hours, minutes) =>
      let seconds : Nat := (number hours * 60 + number minutes) * 60
      if 86400 ≤ seconds then .error .badValue
      else if seconds = 0 then .ok (some .utc)
      else .ok (some ⟨if sign = '-' then -seconds else seconds, none⟩)

/-- The day or the moment of some parts; refused if there is none. -/
def valueOf (p : Parts) : Except Failure (Date ⊕ Moment) := do
  let date? := Date.make? (number p.year) (number p.month) (number p.day)
  match p.time with
  | none =>
      match date? with
      | some d => .ok (.inl d)
      | none => .error .badValue
  | some (hour, minute, second) => do
      let micro := number ((p.fraction ++ List.replicate (6 - p.fraction.length) '0').take 6)
      let zone ← zoneOf p.zone
      match date?.bind fun d =>
          Moment.make? d (number hour) (number minute) (number second) micro zone with
      | some m => .ok (.inr m)
      | none => .error .badValue

end Stencil.Yaml.Timestamp
