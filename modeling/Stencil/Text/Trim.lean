import Stencil.Text.Class

/-!
# Cutting and trimming text

Text is worked on as a list of characters. Trimming drops a class of characters from one end or from
both; cutting splits a text at a character or a phrase.
-/

namespace Stencil.Text

/-- Drops the characters in `p` from the end. -/
def dropEndWhile (p : Char → Bool) (cs : List Char) : List Char :=
  (cs.reverse.dropWhile p).reverse

def trimWhile (p : Char → Bool) (cs : List Char) : List Char :=
  dropEndWhile p (cs.dropWhile p)

/-- Drops blanks from both ends. -/
def trim (cs : List Char) : List Char := trimWhile isBlank cs

def trimmed (s : String) : String := String.ofList (trim s.toList)

/-- What follows `lead`, if the text begins with it. -/
def afterPhrase? : (lead cs : List Char) → Option (List Char)
  | [], cs => some cs
  | _ :: _, [] => none
  | p :: ps, c :: cs => if p = c then afterPhrase? ps cs else none

/-- Replaces every occurrence of the phrase `p :: ps`, from left to right, by `new`. -/
def replacePhrase (p : Char) (ps new : List Char) : (cs : List Char) → List Char
  | [] => []
  | c :: cs =>
      if (p :: ps).isPrefixOf (c :: cs) then
        new ++ replacePhrase p ps new (cs.drop ps.length)
      else c :: replacePhrase p ps new cs
termination_by cs => cs.length
decreasing_by all_goals simp_wf; try omega

/-- Replaces every occurrence of `old` by `new`. The empty phrase occurs before every character and
at the end. -/
def replaceAll (old new : List Char) (cs : List Char) : List Char :=
  match old with
  | [] => new ++ cs.flatMap (fun c => c :: new)
  | p :: ps => replacePhrase p ps new cs

/-- The parts of a text between the separators, at least one. -/
def splitOn (sep : Char) : List Char → List (List Char)
  | [] => [[]]
  | c :: cs =>
      if c = sep then [] :: splitOn sep cs
      else match splitOn sep cs with
        | [] => [[c]]
        | part :: parts => (c :: part) :: parts

/-- The parts put together with `sep` between neighbours. -/
def joinWith (sep : List Char) : List (List Char) → List Char
  | [] => []
  | [part] => part
  | part :: parts => part ++ sep ++ joinWith sep parts

end Stencil.Text
