import RegularModels.Text.CasingTable
import RegularModels.Text.CharRange

/-!
# Lower case

Full lower-casing of a text.  Two characters go beyond a one-to-one mapping:
the capital I with a dot becomes an i followed by a combining dot, and a capital
sigma at the end of a word becomes a final sigma.
-/

namespace RegularModels.Text

/-- The lower-case form of a character that stands alone. -/
def lowerChar (char : Char) : List Char :=
  let code := char.toNat
  if code = 0x130 then ['i', '\u0307']
  else
    match lowerRanges.find? fun (first, last, distance, _) =>
        first ≤ code && code ≤ last && (code - first) % distance == 0 with
    | some (_, _, _, difference) => [Char.ofNat (code + difference).toNat]
    | none => [char]

/-- The nearest character that is not case-ignorable is cased. -/
def meetsCased (chars : List Char) : Bool :=
  (chars.dropWhile (inRanges caseIgnorableRanges)).head?.any (inRanges casedRanges)

/--
A capital sigma ends a word when a cased character stands before it and none
after it, case-ignorable characters apart.
-/
def endsWord (before after : List Char) : Bool :=
  meetsCased before && !meetsCased after

/-- Lower-case `chars`, which follow `before`, given in reverse. -/
def lowerAfter (before : List Char) : List Char → List Char
  | [] => []
  | char :: rest =>
    (if char = 'Σ' then (if endsWord before rest then ['ς'] else ['σ'])
      else lowerChar char) ++ lowerAfter (char :: before) rest

/-- A text in lower case; the form of a sigma depends on what stands around it. -/
def lower (text : String) : String :=
  String.ofList (lowerAfter [] text.toList)

end RegularModels.Text
