import ServiceBus.Schema
import ServiceBus.Text.Blank
import ServiceBus.Decimal.Integer

/-
ServiceBus.ErrorCodes — lists of the codes that classify failures.

As text, the codes are separated by any mixture of commas and blanks; all of
them must be signed numbers of 32 bits, or none is taken.
-/
namespace ServiceBus

/-! ## Codes with a fixed meaning -/
namespace Code

def connectionFailed : Int32 := 101503
def timeout : Int32 := 101504
def blockingCallFailed : Int32 := 101508
def handOffFailed : Int32 := 101509
def defaultEndpointSuspended : Int32 := 303000
def addressEndpointSuspended : Int32 := 303001
def wsdlEndpointSuspended : Int32 := 303002

end Code

/-- A list of error codes. -/
structure ErrorCodes where
  codes : List Int32
deriving Repr, DecidableEq, Inhabited

namespace ErrorCodes

/-- No codes. -/
def none : ErrorCodes := ⟨[]⟩

/-- Whether a code is listed. -/
def contains (l : ErrorCodes) (code : Int32) : Bool := l.codes.contains code

/-- Whether no code is listed. -/
def isEmpty (l : ErrorCodes) : Bool := l.codes.isEmpty

/-- What separates codes in a text. -/
def isSeparator (c : Char) : Bool := c = ',' || Text.isBlank c

/-- Reads one code. -/
def readCode? (cs : List Char) : Option Int32 :=
  (Decimal.readInteger? Width.int32 cs).map Int32.ofInt

/-- The codes that a text lists, if every word of it is a code. -/
def ofChars? (cs : List Char) : Option ErrorCodes :=
  ((Text.words isSeparator cs).mapM readCode?).map ErrorCodes.mk

/-- Reads a list of codes from a text. -/
def ofText (s : String) : Except SchemaError ErrorCodes :=
  match ofChars? s.toList with
  | some l => .ok l
  | Option.none => .error (.refused
      ("The error codes should be specified as valid numbers separated by commas : " ++ s))

/-- The decimal text of a code. -/
def codeText (code : Int32) : List Char := Decimal.integerText code.toInt

/-- The codes separated by commas. -/
def toChars : List Int32 → List Char
  | [] => []
  | [c] => codeText c
  | c :: rest => codeText c ++ ',' :: toChars rest

/-- The text of a list of codes. -/
def text (l : ErrorCodes) : String := String.ofList (toChars l.codes)

/-- Reads a list of codes from a value. -/
def read (v : Value) : Except SchemaError ErrorCodes :=
  (Schema.list Schema.int32 v).map ErrorCodes.mk

/-- The value of a list of codes. -/
def write (l : ErrorCodes) : Value := .list (l.codes.map fun c => .int c.toInt)

end ErrorCodes

end ServiceBus
