import ServiceBus.Text.Ranges
import ServiceBus.Text.GraphicTable

/-
ServiceBus.Text.Quotation — texts in quotation marks, for running text.

  - Tab, line ends and the null character stand by their letters, the quotation
    mark and the backslash behind a backslash.
  - A character without a shape of its own, such as a blank other than U+0020,
    a combining mark or an unassigned code point, stands by its number.
  - Any other character stands for itself.
-/
namespace ServiceBus.Text

/-- Whether a character has a shape of its own: it is a letter, mark, number,
punctuation or symbol that neither joins the character in front of it nor may
be left out. -/
def isGraphic (c : Char) : Bool :=
  if c.toNat < 128 then 32 < c.toNat && c.toNat < 127
  else
    inRanges GraphicTable.graphic c.toNat && !inRanges GraphicTable.graphemeExtend c.toNat &&
      !inRanges GraphicTable.defaultIgnorable c.toNat

/-- A character by its number. -/
def byNumber (c : Char) : List Char := "\\u\x7b".toList ++ Nat.toDigits 16 c.toNat ++ ['\x7d']

/-- A character between quotation marks. -/
def quoteChar : Char → List Char
  | '"' => ['\\', '"']
  | '\\' => ['\\', '\\']
  | '\n' => ['\\', 'n']
  | '\r' => ['\\', 'r']
  | '\t' => ['\\', 't']
  | '\x00' => ['\\', '0']
  | c => if c = ' ' || isGraphic c then [c] else byNumber c

/-- A text in quotation marks. -/
def quoted (s : String) : String := String.ofList ('"' :: s.toList.flatMap quoteChar ++ ['"'])

end ServiceBus.Text
