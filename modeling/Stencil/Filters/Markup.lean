/-!
# Plain text and markup

Tags are taken out of a text, and line breaks are marked in it.
-/

namespace Stencil.Markup

/-- The text without its tags: everything from a `<` to the next `>`. -/
def stripTags : (tries : Nat) → List Char → List Char
  | 0, cs => cs
  | _ + 1, [] => []
  | tries + 1, c :: cs =>
      if c = '<' then
        match cs.dropWhile (· != '>') with
        | _ :: rest => stripTags tries rest
        | [] => c :: cs
      else c :: stripTags tries cs

def withoutTags (cs : List Char) : List Char := stripTags cs.length cs

/-- The text with `mark` in front of every line end. A pair of different line end characters counts
as one line end. -/
def markLineEnds (mark : List Char) : List Char → List Char
  | '\r' :: '\n' :: cs => mark ++ '\r' :: '\n' :: markLineEnds mark cs
  | '\n' :: '\r' :: cs => mark ++ '\n' :: '\r' :: markLineEnds mark cs
  | '\n' :: cs => mark ++ '\n' :: markLineEnds mark cs
  | '\r' :: cs => mark ++ '\r' :: markLineEnds mark cs
  | c :: cs => c :: markLineEnds mark cs
  | [] => []

/-- A letter thirteen places on in the alphabet; every other character as it is. -/
def rotate (c : Char) : Char :=
  let turn := fun (base : Nat) => Char.ofNat (base + (c.toNat - base + 13) % 26)
  if 'a' ≤ c && c ≤ 'z' then turn 0x61 else if 'A' ≤ c && c ≤ 'Z' then turn 0x41 else c

end Stencil.Markup
