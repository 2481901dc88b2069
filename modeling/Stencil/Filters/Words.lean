import Stencil.Text.Case
import Stencil.Text.Trim

/-!
# Words in different cases

Text as one word with capitals inside, or as words with low lines, hyphens or blanks between them.
Words end at blanks, hyphens and low lines, and within a word before a capital that follows a small
letter.
-/

namespace Stencil.Words

open Stencil.Text

def upperFirst : List Char → List Char
  | [] => []
  | c :: cs => upperOf c ++ cs

def lowerFirst : List Char → List Char
  | [] => []
  | c :: cs => lower [c] ++ cs

/-- The text with the first character of every word in upper case, where `atStart` says whether a
word can begin at the first character, and words are separated by the characters in `isGap`. -/
def capitalize (isGap : Char → Bool) : (atStart : Bool) → List Char → List Char
  | _, [] => []
  | atStart, c :: cs =>
      if isGap c then c :: capitalize isGap true cs
      else (if atStart then upperOf c else [c]) ++ capitalize isGap false cs

/-- Hyphens and low lines as blanks. -/
def spaced (cs : List Char) : List Char :=
  cs.map fun c => if c = '-' ∨ c = '_' then ' ' else c

/-- The words in one, each with a capital, the first character as it was if that was small. -/
def camelCase (cs : List Char) : List Char :=
  let joined := (capitalize isBlank true (spaced cs)).filter (· != ' ')
  match cs with
  | c :: _ => if isLower c then lowerFirst joined else joined
  | [] => joined

/-- The words in one, each with a capital. -/
def pascalCase (cs : List Char) : List Char := upperFirst (camelCase cs)

def isSmall (c : Char) : Bool := 'a' ≤ c && c ≤ 'z'

def isCapital (c : Char) : Bool := 'A' ≤ c && c ≤ 'Z'

/-- The text with a low line before each capital that follows a small letter. -/
def separateHumps : List Char → List Char
  | c :: d :: cs =>
      if isSmall c && isCapital d then c :: '_' :: separateHumps (d :: cs)
      else c :: separateHumps (d :: cs)
  | cs => cs

/-- The words in small letters with low lines between them. -/
def snakeCase (cs : List Char) : List Char :=
  lower ((separateHumps (camelCase cs)).map fun c => if c = ' ' ∨ c = '-' then '_' else c)

/-- The words in small letters with hyphens between them. -/
def kebabCase (cs : List Char) : List Char :=
  (snakeCase cs).map fun c => if c = '_' then '-' else c

/-- The words with capitals and with blanks for low lines. A hyphen also begins a word. -/
def titleCase (cs : List Char) : List Char :=
  capitalize (fun c => isBlank c || c == '-') true (cs.map fun c => if c = '_' then ' ' else c)

/-! ## Names of options -/

def isSmallOrDigit (c : Char) : Bool := isSmall c || c.isDigit

/-- The text with a low line before each capital that follows a small letter or a digit. -/
def separateParts : List Char → List Char
  | c :: d :: cs =>
      if isSmallOrDigit c && isCapital d then c :: '_' :: separateParts (d :: cs)
      else c :: separateParts (d :: cs)
  | cs => cs

/-- A name in small letters, with low lines where its parts began with capitals. -/
def optionName (name : String) : String := String.ofList (lower (separateParts name.toList))

end Stencil.Words
