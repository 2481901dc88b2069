import Stencil.Yaml.Timestamp

/-!
# Tags

A tag says what sort of value a part of a document is. Plain text without a tag has the tag that its
form shows: truth values are words, numbers can be written in several bases and with low lines
between their digits, and what has no such form is text.
-/

namespace Stencil.Yaml

inductive Tag
  | null | bool | int | float | str | binary | timestamp
  | seq | map | set | omap | pairs
  /-- The key under which a mapping takes over the entries of others. -/
  | merge
  /-- The key under which a mapping has its own value. -/
  | ownValue
  | other (text : String)
deriving DecidableEq, Repr

namespace Tag

/-- What the standard tags begin with. -/
def standardLead : String := "tag:yaml.org,2002:"

/-- The standard tags by what follows the lead. -/
def standardNames : List (String × Tag) :=
  [("null", .null), ("bool", .bool), ("int", .int), ("float", .float), ("str", .str),
    ("binary", .binary), ("timestamp", .timestamp), ("seq", .seq), ("map", .map), ("set", .set),
    ("omap", .omap), ("pairs", .pairs), ("merge", .merge), ("value", .ownValue)]

def ofText (s : String) : Tag :=
  match standardNames.find? fun e => standardLead ++ e.1 == s with
  | some (_, t) => t
  | none => .other s

/-! ## The forms of plain text -/

def truthWords : List (String × Bool) :=
  [("yes", true), ("no", false), ("true", true), ("false", false), ("on", true), ("off", false)]

/-- A word in small letters, in capitals, or in small letters behind one capital. -/
def isInUsualCase (word s : String) : Bool :=
  s == word || s == word.toUpper || s == word.capitalize

def isNull (s : String) : Bool := s == "" || s == "~" || isInUsualCase "null" s

def isDigitOrLine (c : Char) : Bool := c.isDigit || c == '_'

def unsigned : List Char → List Char
  | c :: cs => if c = '+' ∨ c = '-' then cs else c :: cs
  | [] => []

/-- What is behind the parts of a number in base sixty, each a colon and one digit or two below
sixty; none if there is no such part. -/
def behindSixtieths? : List Char → Option (List Char)
  | ':' :: a :: b :: cs =>
      if a.isDigit then
        if b.isDigit && a ≤ '5' then (behindSixtieths? cs).orElse fun _ => some cs
        else (behindSixtieths? (b :: cs)).orElse fun _ => some (b :: cs)
      else none
  | [':', a] => if a.isDigit then some [] else none
  | _ => none

/-- What is behind a number in base sixty of at least two parts. -/
def behindBaseSixty? (cs : List Char) : Option (List Char) :=
  if (cs.head?.map Char.isDigit).getD false then behindSixtieths? (cs.dropWhile isDigitOrLine)
  else none

/-- The forms of whole numbers: in base two, eight, ten, sixteen or sixty. -/
def isInt (cs : List Char) : Bool :=
  let body := unsigned cs
  let nonEmpty := fun (p : Char → Bool) (ds : List Char) => !ds.isEmpty && ds.all p
  match body with
  | '0' :: 'b' :: ds => nonEmpty (fun c => c == '0' || c == '1' || c == '_') ds
  | '0' :: 'x' :: ds =>
      nonEmpty (fun c => c.isDigit || ('a' ≤ c && c ≤ 'f') || ('A' ≤ c && c ≤ 'F') || c == '_') ds
  | '0' :: ds => ds.all fun c => ('0' ≤ c && c ≤ '7') || c == '_'
  | d :: ds =>
      d.isDigit && (ds.all isDigitOrLine || behindBaseSixty? body == some [])
  | [] => false

/-- An exponent with its sign, or nothing. -/
def isExponent : List Char → Bool
  | [] => true
  | e :: sign :: ds =>
      (e == 'e' || e == 'E') && (sign == '+' || sign == '-') && !ds.isEmpty && ds.all Char.isDigit
  | _ => false

/-- The forms of numbers with a point: with digits in front of it or only behind it, in base sixty,
and the words for infinities and for what is not a number. -/
def isFloat (cs : List Char) : Bool :=
  let body := unsigned cs
  let word := String.ofList cs
  let leads := (body.head?.map Char.isDigit).getD false
  let decimal := leads &&
    match body.dropWhile isDigitOrLine with
    | '.' :: rest => isExponent (rest.dropWhile isDigitOrLine)
    | _ => false
  let fraction :=
    match cs with
    | '.' :: d :: rest => d.isDigit && isExponent (rest.dropWhile isDigitOrLine)
    | _ => false
  let inSixtieths :=
    match behindBaseSixty? body with
    | some ('.' :: rest) => rest.all isDigitOrLine
    | _ => false
  decimal || fraction || inSixtieths ||
    [".inf", ".Inf", ".INF"].contains (String.ofList body) || [".nan", ".NaN", ".NAN"].contains word

/-- The tag that the form of a plain text shows. -/
def ofPlain (s : String) : Tag :=
  let cs := s.toList
  if truthWords.any fun e => isInUsualCase e.1 s then .bool
  else if isFloat cs then .float
  else if isInt cs then .int
  else if s == "<<" then .merge
  else if isNull s then .null
  else if Timestamp.isPlain cs then .timestamp
  else if s == "=" then .ownValue
  else .str

end Tag

end Stencil.Yaml
