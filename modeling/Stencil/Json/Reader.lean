import Stencil.Failure
import Stencil.Number.Numeral
import Stencil.Value.Equality

/-!
# Reading JSON

One value with blanks around it. Besides the standard's numbers the words for infinities and for
what is not a number are read. Of two entries with one key the later value counts, in the place of
the earlier one. Whole numbers past the limit of digits are refused for their length and not for
their form.
-/

namespace Stencil.Json

open Stencil.Text

/-- Blanks between the parts of a document. -/
def isGap (c : Char) : Bool := c == ' ' || c == '\t' || c == '\n' || c == '\r'

def skipGap (cs : List Char) : List Char := cs.dropWhile isGap

/-! ## Strings -/

/-- The value of four hexadecimal digits. -/
def unit? : List Char → Option (Nat × List Char)
  | a :: b :: c :: d :: rest => do
      let n := (((← hexValue? a) * 16 + (← hexValue? b)) * 16 + (← hexValue? c)) * 16 +
        (← hexValue? d)
      some (n, rest)
  | _ => none

/-- The second half of a pair of units, behind the first. -/
def lowHalf? : List Char → Option (Nat × List Char)
  | '\\' :: 'u' :: cs => do
      let (n, rest) ← unit? cs
      if 0xDC00 ≤ n ∧ n < 0xE000 then some (n, rest) else none
  | _ => none

/-- The character written by its units. -/
def unitChar? (cs : List Char) : Option (Char × List Char) := do
  let (n, rest) ← unit? cs
  if 0xD800 ≤ n ∧ n < 0xDC00 then
    match lowHalf? rest with
    | some (m, rest) => some (Char.ofNat (0x10000 + (n - 0xD800) * 0x400 + (m - 0xDC00)), rest)
    | none => some ('\uFFFD', rest)
  else if 0xDC00 ≤ n ∧ n < 0xE000 then some ('\uFFFD', rest)
  else some (Char.ofNat n, rest)

/-- What a letter after a backslash stands for. -/
def escape? (c : Char) : Option Char :=
  match c with
  | '"' => some '"'
  | '\\' => some '\\'
  | '/' => some '/'
  | 'b' => some '\x08'
  | 'f' => some '\x0c'
  | 'n' => some '\n'
  | 'r' => some '\r'
  | 't' => some '\t'
  | _ => none

/-- The rest of a string behind its opening quote. -/
def readString : (fuel : Nat) → List Char → Except Failure (List Char × List Char)
  | 0, _ => .error .notJson
  | _ + 1, [] => .error .notJson
  | fuel + 1, c :: cs =>
      if c = '"' then .ok ([], cs)
      else if c = '\\' then
        match cs with
        | [] => .error .notJson
        | 'u' :: rest =>
            match unitChar? rest with
            | none => .error .notJson
            | some (d, rest) => do
                let (ds, rest) ← readString fuel rest
                .ok (d :: ds, rest)
        | e :: rest =>
            match escape? e with
            | none => .error .notJson
            | some d => do
                let (ds, rest) ← readString fuel rest
                .ok (d :: ds, rest)
      else if c.toNat < 0x20 then .error .notJson
      else do
        let (ds, rest) ← readString fuel cs
        .ok (c :: ds, rest)

/-! ## Numbers -/

/-- The digits of the whole part: a zero, or digits that begin with none. -/
def wholeDigits (cs : List Char) : List Char × List Char :=
  match cs with
  | '0' :: rest => (['0'], rest)
  | _ => (cs.takeWhile Char.isDigit, cs.dropWhile Char.isDigit)

/-- The digits behind a point, if there are any. -/
def fractionDigits : List Char → List Char × List Char
  | '.' :: rest =>
      let ds := rest.takeWhile Char.isDigit
      if ds.isEmpty then ([], '.' :: rest) else (ds, rest.dropWhile Char.isDigit)
  | cs => ([], cs)

/-- The exponent, if there is one. -/
def exponentPart (cs : List Char) : Option Int × List Char :=
  match cs with
  | e :: rest =>
      if e = 'e' ∨ e = 'E' then
        let (negative, body) := Numeral.splitSign rest
        let ds := body.takeWhile Char.isDigit
        if ds.isEmpty then (none, cs)
        else
          let n : Int := Numeral.digitsValue ds
          (some (if negative then -n else n), body.dropWhile Char.isDigit)
      else (none, cs)
  | [] => (none, [])

def readNumber (cs : List Char) : Except Failure (Value × List Char) :=
  let (negative, body) := match cs with
    | '-' :: rest => (true, rest)
    | _ => (false, cs)
  let (digits, afterWhole) := wholeDigits body
  if digits.isEmpty then .error .notJson
  else
    let (fraction, afterFraction) := fractionDigits afterWhole
    let (exponent, rest) := exponentPart afterFraction
    if fraction.isEmpty && exponent.isNone then
      match Numeral.wholeValue? (if negative then '-' :: digits else digits) with
      | some n => .ok (.int n, rest)
      | none => .error .badValue
    else
      .ok (.float (Binary64.ofDecimal negative (Numeral.digitsValue (digits ++ fraction))
        (exponent.getD 0 - fraction.length)), rest)

/-- The values that are written as words. -/
def words : List (List Char × Value) :=
  [("null".toList, .null), ("true".toList, .bool true), ("false".toList, .bool false),
    ("NaN".toList, .float .nan), ("Infinity".toList, .float (.infinite false)),
    ("-Infinity".toList, .float (.infinite true))]

def readWord? (cs : List Char) : Option (Value × List Char) :=
  words.findSome? fun (word, v) => (afterPhrase? word cs).map fun rest => (v, rest)

/-! ## Documents -/

mutual

/-- A value without blanks in front. -/
def readValue : (fuel : Nat) → List Char → Except Failure (Value × List Char)
  | 0, _ => .error .notJson
  | fuel + 1, cs =>
      match readWord? cs with
      | some (v, rest) => .ok (v, rest)
      | none =>
          match cs with
          | '"' :: rest => do
              let (s, rest) ← readString (rest.length + 1) rest
              .ok (Value.ofChars s, rest)
          | '[' :: rest =>
              match skipGap rest with
              | ']' :: rest => .ok (.list [], rest)
              | rest => do
                  let (items, rest) ← readItems fuel rest
                  .ok (.list items, rest)
          | '\x7b' :: rest =>
              match skipGap rest with
              | '\x7d' :: rest => .ok (.mapping [], rest)
              | rest => do
                  let (entries, rest) ← readEntries fuel rest
                  .ok (.mapping (Value.ofEntries entries), rest)
          | cs => readNumber cs

def readItems : (fuel : Nat) → List Char → Except Failure (List Value × List Char)
  | 0, _ => .error .notJson
  | fuel + 1, cs => do
      let (v, rest) ← readValue fuel cs
      match skipGap rest with
      | ']' :: rest => .ok ([v], rest)
      | ',' :: rest => do
          let (vs, rest) ← readItems fuel (skipGap rest)
          .ok (v :: vs, rest)
      | _ => .error .notJson

def readEntries : (fuel : Nat) → List Char → Except Failure (List (Value × Value) × List Char)
  | 0, _ => .error .notJson
  | fuel + 1, '"' :: cs => do
      let (key, rest) ← readString (cs.length + 1) cs
      match skipGap rest with
      | ':' :: rest => do
          let (v, rest) ← readValue fuel (skipGap rest)
          let entry := (Value.ofChars key, v)
          match skipGap rest with
          | '\x7d' :: rest => .ok ([entry], rest)
          | ',' :: rest => do
              let (entries, rest) ← readEntries fuel (skipGap rest)
              .ok (entry :: entries, rest)
          | _ => .error .notJson
      | _ => .error .notJson
  | _ + 1, _ => .error .notJson

end

def read (cs : List Char) : Except Failure Value := do
  let (v, rest) ← readValue (2 * cs.length + 2) (skipGap cs)
  if (skipGap rest).isEmpty then .ok v else .error .notJson

def readText (s : String) : Except Failure Value := read s.toList

end Stencil.Json
