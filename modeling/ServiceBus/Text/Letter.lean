import ServiceBus.Text.Ranges
import ServiceBus.Text.LetterTable
import ServiceBus.Text.CaseTable

/-
ServiceBus.Text.Letter — letters, digits and small letters of all scripts.

`lowerCase` writes a text in small letters: capital by capital from the table,
with the two exceptions of the Unicode standard. Capital I with a dot above
becomes two characters; capital sigma becomes its final form at the end of a
word.
-/
namespace ServiceBus.Text

/-- Letters of any script. -/
def isLetter (c : Char) : Bool :=
  if c.toNat < 128 then c.isAlpha else inRanges LetterTable.alphabetic c.toNat

/-- Letters and numbers of any script. -/
def isLetterOrNumber (c : Char) : Bool :=
  if c.toNat < 128 then c.isAlphanum
  else inRanges LetterTable.alphabetic c.toNat || inRanges LetterTable.numeric c.toNat

/-- Whether a character has case. -/
def isCased (c : Char) : Bool := inRanges CaseTable.cased c.toNat

/-- Whether a character is passed over where case depends on neighbours. -/
def isCaseIgnorable (c : Char) : Bool := inRanges CaseTable.caseIgnorable c.toNat

/-- The small letter of a capital; any other character is its own. -/
def smallLetter (c : Char) : Char :=
  if c.toNat < 128 then c.toLower
  else
    let n := c.toNat
    match CaseTable.smallLetters.find? fun (first, last, step, _) =>
        first ≤ n && n ≤ last && (n - first) % step == 0 with
    | some (first, _, _, target) => Char.ofNat (target + (n - first))
    | none => c

/-- Whether the first character that is not passed over has case. -/
def nextIsCased (cs : List Char) : Bool :=
  match cs.dropWhile isCaseIgnorable with
  | [] => false
  | c :: _ => isCased c

/-- Small letters for `cs`, where `before` holds the characters in front of
`cs`, nearest first. -/
def lowerFrom (before : List Char) : List Char → List Char
  | [] => []
  | c :: rest =>
    let small :=
      if c.toNat = 0x130 then ['i', Char.ofNat 0x307]
      else if c.toNat = 0x3A3 then
        if nextIsCased before && !nextIsCased rest then [Char.ofNat 0x3C2]
        else [Char.ofNat 0x3C3]
      else [smallLetter c]
    small ++ lowerFrom (c :: before) rest

/-- A text in small letters. -/
def lowerCase (s : String) : String := String.ofList (lowerFrom [] s.toList)

end ServiceBus.Text
