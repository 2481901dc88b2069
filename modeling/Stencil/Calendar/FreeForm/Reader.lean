import Stencil.Calendar.FreeForm.Parts
import Stencil.Calendar.FreeForm.Token
import Stencil.Calendar.Moment

/-!
# Reading dates in free form

The tokens of a text are taken one after the other. A number is a time if a colon, a unit or a half
of the day goes with it, or if the date is complete; else it is one of the numbers of the date.
Names of months, days and zones and distances from universal time are understood, words without a
meaning are passed over, and anything else means that the text is no date. Parts that are missing
are those of a given day; years of two digits are those nearest to it.
-/

namespace Stencil.FreeForm

open Stencil.Text

/-- What is known so far. -/
structure Known where
  day : DayParts
  weekday : Option Nat
  hour : Option Nat
  minute : Option Nat
  second : Option Nat
  micro : Option Nat
  zoneName : Option (List Char)
  zoneOffset : Option Int

def Known.nothing : Known := ⟨.empty, none, none, none, none, none, none, none⟩

abbrev Tokens := Array (List Char)

def Tokens.isMark (ts : Tokens) (i : Nat) (c : Char) : Bool := ts[i]? == some [c]

/-! ## Times -/

/-- Seconds with a fraction or without: seconds and microseconds. -/
def secondsOf? (token : List Char) : Option (Nat × Nat) :=
  match splitOn '.' token with
  | [s] => do some (← whole? s, 0)
  | [s, f] => do
      let digits := (f ++ List.replicate (6 - f.length) '0').take 6
      some (← whole? s, ← whole? digits)
  | _ => none
where
  splitOn (mark : Char) : List Char → List (List Char)
    | [] => [[]]
    | c :: cs =>
        if c = mark then [] :: splitOn mark cs
        else match splitOn mark cs with
          | [] => [[c]]
          | part :: parts => (c :: part) :: parts

/-- The hour on a clock of twenty-four hours. -/
def adjustHour (hour half : Nat) : Nat :=
  if hour < 12 ∧ half = 1 then hour + 12 else if hour = 12 ∧ half = 0 then 0 else hour

/-- The knowledge with minutes that may have a fraction. -/
def Known.setMinutes (k : Known) (d : Decimal) : Known :=
  { k with minute := some d.whole, second := d.sixtieths? }

/-- The knowledge with a number of a unit. -/
def Known.setUnit? (k : Known) (token : List Char) (unit : Nat) : Option Known := do
  let d ← Decimal.ofToken? token
  match unit with
  | 0 =>
      let k := { k with hour := some d.whole }
      match d.sixtieths? with
      | some m => some { k with minute := some m }
      | none => some k
  | 1 => some (k.setMinutes d)
  | 2 => do
      let (s, us) ← secondsOf? token
      some { k with second := some s, micro := some us }
  | _ => some k

/-- The place of the unit that goes with the number at a place. -/
def unitPlace? (ts : Tokens) (i : Nat) : Option Nat :=
  let isUnit := fun j => ((ts[j]?).bind unit?).isSome
  if isUnit (i + 1) then some (i + 1)
  else if ts.isMark (i + 1) ' ' && isUnit (i + 2) then some (i + 2)
  else if 0 < i ∧ isUnit (i - 1) then some (i - 1)
  else if 1 < i ∧ i + 1 = ts.size ∧ ts.isMark (i - 1) ' ' ∧ isUnit (i - 2) then some (i - 2)
  else none

/-! ## Numbers -/

/-- Digits in a row that hold a whole time or a whole date. -/
def packed? (k : Known) (token : List Char) : Option Known := do
  let part := fun a b => whole? ((token.drop a).take b)
  if token.length = 6 ∨ (6 < token.length ∧ token.findIdx? (· == '.') = some 6) then
    if k.day.values.isEmpty && !token.contains '.' then
      let day ← k.day.pushToken (token.take 2) none
      let day ← day.pushToken ((token.drop 2).take 2) none
      let day ← day.pushToken (token.drop 4) none
      some { k with day }
    else
      let hour ← part 0 2
      let minute ← part 2 2
      let (second, micro) ← secondsOf? (token.drop 4)
      some { k with hour := some hour, minute := some minute, second := some second,
                    micro := some micro }
  else
    let day ← k.day.pushToken (token.take 4) (some .year)
    let day ← day.pushToken ((token.drop 4).take 2) none
    let day ← day.pushToken ((token.drop 6).take 2) none
    let k := { k with day }
    if 8 < token.length then
      let k := { k with hour := some (← part 8 2), minute := some (← part 10 2) }
      if 12 < token.length then some { k with second := some (← whole? (token.drop 12)) }
      else some k
    else some k

/-- A number with a mark behind it that separates the parts of a date. -/
def separated? (ts : Tokens) (i : Nat) (token : List Char) (k : Known) : Option (Known × Nat) := do
  let sep ← ts[i + 1]?
  let day ← k.day.pushToken token none
  match ts[i + 2]? with
  | none => some ({ k with day }, i + 1)
  | some next =>
      if isFiller next then some ({ k with day }, i + 1)
      else
        let day ←
          if !next.isEmpty && next.all isDigit then day.pushToken next none
          else do day.pushMonth (← month? next)
        if ts[i + 3]? = some sep then
          let third ← ts[i + 4]?
          let day ← match month? third with
            | some m => day.pushMonth m
            | none => day.pushToken third none
          some ({ k with day }, i + 4)
        else some ({ k with day }, i + 2)

/-- The knowledge after the number at a place, and the last place that belongs to it. -/
def number? (ts : Tokens) (i : Nat) (k : Known) : Option (Known × Nat) := do
  let token ← ts[i]?
  let value ← Decimal.ofToken? token
  let n := token.length
  let next := ts[i + 1]?
  let noTimeMark : Bool := match next with
    | none => true
    | some t => t != [':'] && (unit? t).isNone
  if k.day.values.length = 3 ∧ (n = 2 ∨ n = 4) ∧ k.hour.isNone ∧ noTimeMark then
    let k := { k with hour := some (← whole? (token.take 2)) }
    if n = 4 then some ({ k with minute := some (← whole? (token.drop 2)) }, i) else some (k, i)
  else if n = 6 ∨ (6 < n ∧ token.findIdx? (· == '.') = some 6) ∨ n = 8 ∨ n = 12 ∨ n = 14 then
    some (← packed? k token, i)
  else
    match unitPlace? ts i with
    | some j => do
        let unit ← (ts[j]?).bind unit?
        if i < j then some (← k.setUnit? token unit, j)
        else some (← k.setUnit? token (unit + 1), i)
    | none =>
        if ts.isMark (i + 1) ':' && (ts[i + 2]?).isSome then
          let minutes ← Decimal.ofToken? (← ts[i + 2]?)
          let k := { k with hour := some value.whole }.setMinutes minutes
          if ts.isMark (i + 3) ':' && (ts[i + 4]?).isSome then
            let (s, us) ← secondsOf? (← ts[i + 4]?)
            some ({ k with second := some s, micro := some us }, i + 4)
          else some (k, i + 2)
        else if next = some ['-'] ∨ next = some ['/'] ∨ next = some ['.'] then
          separated? ts i token k
        else if (next.map isFiller).getD true then
          match (ts[i + 2]?).bind halfDay? with
          | some half => some ({ k with hour := some (adjustHour value.whole half) }, i + 2)
          | none => do some ({ k with day := ← k.day.pushValue value }, i + 1)
        else
          match next.bind halfDay? with
          | some half =>
              if value.digits < 24 * Nat.pow 10 value.places then
                some ({ k with hour := some (adjustHour value.whole half) }, i + 1)
              else dayOnly value
          | none => dayOnly value
where
  /-- A number that can only be the day. -/
  dayOnly (value : Decimal) : Option (Known × Nat) := do
    if ← k.day.couldBeDay value then some ({ k with day := ← k.day.pushValue value }, i) else none

/-! ## Words and marks -/

/-- The knowledge after the name of a month at a place, and the last place that belongs to it. -/
def monthName? (today : Date) (ts : Tokens) (i : Nat) (month : Nat) (k : Known) :
    Option (Known × Nat) := do
  let day ← k.day.pushMonth month
  match ts[i + 1]? with
  | none => some ({ k with day }, i)
  | some next =>
      if next = ['-'] ∨ next = ['/'] then
        let day ← day.pushToken (← ts[i + 2]?) none
        if ts[i + 3]? = some next then
          let day ← day.pushToken (← ts[i + 4]?) none
          some ({ k with day }, i + 4)
        else some ({ k with day }, i + 2)
      else if ts.isMark (i + 1) ' ' && ts.isMark (i + 3) ' ' && (ts[i + 4]?).isSome &&
          ((ts[i + 2]?).map word) == some "of" then
        let token ← ts[i + 4]?
        if token.all isDigit then
          let year := century today (Numeral.digitsValue token) false
          let day ← day.pushToken (Nat.toDigits 10 year) (some .year)
          some ({ k with day }, i + 4)
        else some ({ k with day }, i + 4)
      else some ({ k with day }, i)
where
  /-- A year of two digits in the century that puts it nearest to today. -/
  century (today : Date) (year : Nat) (full : Bool) : Nat :=
    if 100 ≤ year ∨ full then year
    else
      let y := year + today.year / 100 * 100
      if today.year + 50 ≤ y then y - 100 else if y + 50 < today.year then y + 100 else y

/-- Whether a token can be the name of a zone. -/
def couldBeZone (k : Known) (offset : Option Int) (token : List Char) : Bool :=
  k.hour.isSome && k.zoneName.isNone && offset.isNone && token.length ≤ 5 &&
    (token.all (fun c => 'A' ≤ c && c ≤ 'Z') || token == ['z'])

/-- The knowledge after a distance from universal time whose sign is at a place, and the last place
that belongs to it. -/
def offset? (ts : Tokens) (i : Nat) (k : Known) : Option (Known × Nat) := do
  let sign : Int := if ts.isMark i '+' then 1 else -1
  let digits ← ts[i + 1]?
  let (hours, minutes, j) ←
    if digits.length = 4 then do
      some (← whole? (digits.take 2), ← whole? (digits.drop 2), i)
    else if ts.isMark (i + 2) ':' then do
      some (← whole? digits, ← whole? (← ts[i + 3]?), i + 2)
    else if digits.length ≤ 2 then do some (← whole? digits, 0, i)
    else none
  let k := { k with zoneOffset := some (sign * (hours * 3600 + minutes * 60 : Nat)) }
  match ts[j + 4]? with
  | some name =>
      if ((ts[j + 2]?).map isFiller).getD false && ts.isMark (j + 3) '(' && ts.isMark (j + 5) ')' &&
          3 ≤ name.length && couldBeZone k none name then
        some ({ k with zoneName := some name }, j + 5)
      else some (k, j + 1)
  | none => some (k, j + 1)

/-- A token that `float` understands without digits. -/
def isNumberWord (token : List Char) : Bool := ["inf", "infinity", "nan"].contains (word token)

/-- What is known after the tokens from a place on, for at most `tries` of them. -/
def readFrom (today : Date) : (tries : Nat) → Tokens → Nat → Known → Option Known
  | 0, _, _, k => some k
  | tries + 1, ts, i, k =>
      match ts[i]? with
      | none => some k
      | some token =>
          if (token.head?.map isDigit).getD false && (Numeral.readFloat? token).isSome then do
            let (k, j) ← number? ts i k
            readFrom today tries ts (j + 1) k
          else if isNumberWord token then none
          else if let some n := weekday? token then
            readFrom today tries ts (i + 1) { k with weekday := some n }
          else if let some n := month? token then do
            let (k, j) ← monthName? today ts i n k
            readFrom today tries ts (j + 1) k
          else if let some half := halfDay? token then do
            let hour ← k.hour
            if hour ≤ 12 then
              readFrom today tries ts (i + 1) { k with hour := some (adjustHour hour half) }
            else none
          else if couldBeZone k k.zoneOffset token then
            if ts.isMark (i + 1) '+' || ts.isMark (i + 1) '-' then
              let other := if ts.isMark (i + 1) '+' then ['-'] else ['+']
              let name := if namesUtc token then none else some token
              readFrom today tries (ts.setIfInBounds (i + 1) other) (i + 1)
                { k with zoneName := name, zoneOffset := none }
            else
              readFrom today tries ts (i + 1) { k with zoneName := some token, zoneOffset := none }
          else if k.hour.isSome && (token == ['+'] || token == ['-']) then do
            let (k, j) ← offset? ts i k
            readFrom today tries ts (j + 1) k
          else if isFiller token then readFrom today tries ts (i + 1) k
          else none

/-! ## The moment -/

def zoneOf (k : Known) : Option Zone :=
  let isZ := k.zoneName = some ['Z'] ∨ k.zoneName = some ['z']
  if (k.zoneOffset = some 0 ∧ k.zoneName.isNone) ∨ isZ then some .utc
  else
    let offset :=
      if k.zoneOffset ≠ some 0 ∧ (k.zoneName.map namesUtc).getD false then some 0 else k.zoneOffset
    if k.zoneName = some "UTC".toList then some .utc
    else match offset with
      | some 0 => some .utc
      | some n => some ⟨n, k.zoneName.map String.ofList⟩
      | none => none

/-- The moment that is known, its missing parts taken from a day at midnight. -/
def momentOf? (today : Date) (k : Known) : Option Moment := do
  let parts ← k.day.resolve?
  let year := parts.year.map fun y => monthName?.century today y k.day.fullYear
  let found := year.isSome || parts.month.isSome || parts.day.isSome || k.hour.isSome ||
    k.weekday.isSome || k.minute.isSome || k.second.isSome || k.zoneName.isSome ||
    k.zoneOffset.isSome
  if !found then none
  else
    let y := year.getD today.year
    let m := parts.month.getD today.month
    let d := parts.day.getD (min today.day (Date.daysIn y m))
    let date ← Date.make? y m d
    let date ← match k.weekday, parts.day with
      | some w, none => Date.ofOrdinal? (date.ordinal + (w + 7 - date.weekday) % 7)
      | _, _ => some date
    Moment.make? date (k.hour.getD 0) (k.minute.getD 0) (k.second.getD 0) (k.micro.getD 0)
      (zoneOf k)

/-- The moment that a text means; none if it is no date. -/
def read? (today : Date) (cs : List Char) : Option Moment := do
  let ts := (tokens cs).toArray
  momentOf? today (← readFrom today (ts.size + 1) ts 0 .nothing)

end Stencil.FreeForm
