import Stencil.Number.Numeral

/-!
# The tokens of a path

Names, bare or in quotes, whole numbers, words in backquotes and marks. Blanks and line ends between
tokens mean nothing. A backslash inside quotes stands for the character behind it.
-/

namespace Stencil.JsonPath

open Stencil.Text

inductive Token
  | name (s : String)
  | number (n : Int)
  | operator (s : String)
  | having
  | lacking
  | twoDots
  | mark (c : Char)
deriving DecidableEq, Repr

/-- Why a text is no path. -/
inductive Fault
  /-- It does not have the form of one. -/
  | form
  /-- It holds a number with too many digits. -/
  | tooLong
deriving DecidableEq, Repr

/-- A Han character of the first block or a face of the first block of faces. -/
def isHanOrFace (c : Char) : Bool :=
  (0x4E00 ≤ c.toNat && c.toNat ≤ 0x9FA5) || (0x1F600 ≤ c.toNat && c.toNat ≤ 0x1F64F)

/-- A character that can begin a bare name. -/
def beginsName (c : Char) : Bool :=
  ('a' ≤ c && c ≤ 'z') || ('A' ≤ c && c ≤ 'Z') || c == '_' || c == '@' || isHanOrFace c

/-- A character inside a bare name. -/
def isNameChar (c : Char) : Bool := beginsName c || c.isDigit || c == '-'

/-- The marks that are tokens by themselves. -/
def marks : List Char := ['*', '.', '[', ']', '(', ')', '$', ',', ':', '|', '&', '~']

/-- A bare name, or one of the two words with a meaning. -/
def Token.ofName (cs : List Char) : Token :=
  let s := String.ofList cs
  if s = "where" then .having else if s = "wherenot" then .lacking else .name s

/-- The text up to the closing quote, and what is behind it. -/
def quoted? (quote : Char) : List Char → Option (List Char × List Char)
  | [] => none
  | '\\' :: c :: cs =>
      if c = '\n' then none else (quoted? quote cs).map fun (text, rest) => (c :: text, rest)
  | c :: cs =>
      if c = quote then some ([], cs)
      else if c = '\\' then none
      else (quoted? quote cs).map fun (text, rest) => (c :: text, rest)

/-- The tokens of a text, at most `tries` of them. -/
def tokensFrom : (tries : Nat) → List Char → Except Fault (List Token)
  | 0, _ => .ok []
  | _ + 1, [] => .ok []
  | tries + 1, c :: cs => do
      let number := fun (sign : List Char) (text : List Char) =>
        match Numeral.wholeValue? (sign ++ text.takeWhile isDigit) with
        | some n => do .ok (.number n :: (← tokensFrom tries (text.dropWhile isDigit)))
        | none => .error .tooLong
      if c = ' ' ∨ c = '\t' ∨ c = '\n' then tokensFrom tries cs
      else if beginsName c then
        let name := Token.ofName (c :: cs.takeWhile isNameChar)
        .ok (name :: (← tokensFrom tries (cs.dropWhile isNameChar)))
      else if isDigit c then number [] (c :: cs)
      else if c = '-' && (cs.head?.map isDigit).getD false then number ['-'] cs
      else if c = '\'' ∨ c = '"' ∨ c = '\x60' then
        match quoted? c cs with
        | none => .error .form
        | some (text, rest) =>
            let s := String.ofList text
            .ok ((if c = '\x60' then .operator s else .name s) :: (← tokensFrom tries rest))
      else if c = '.' && cs.head? == some '.' then
        .ok (.twoDots :: (← tokensFrom tries (cs.drop 1)))
      else if marks.contains c then .ok (.mark c :: (← tokensFrom tries cs))
      else .error .form

def tokens (cs : List Char) : Except Fault (List Token) := tokensFrom cs.length cs

end Stencil.JsonPath
