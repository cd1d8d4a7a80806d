import CpuIdentity.Catalogue.Model
import CpuIdentity.Text.Basic
import CpuIdentity.Text.Numeral

/-!
# Models and lineages given as text

A model is found by its symbolic name, with or without the lead that all names share, and a lineage
by its word. Blank characters around the name and the case of ASCII letters do not count. An error
keeps the text as it was given.

A model number is written in hexadecimal after `0x`, in decimal, or as the name of a model. Which of
the three a text means is settled by its first characters, so a text that starts like a hexadecimal
number is never tried as anything else.
-/

namespace CpuIdentity

inductive CatalogueError where
  | unknownModel (given : Text)
  | unknownLineage (given : Text)
  deriving DecidableEq, Repr

def CatalogueError.message : CatalogueError → Text
  | .unknownModel given => "Unknown Intel Family-6 model name: " ++ given
  | .unknownLineage given =>
    "Unknown lineage: " ++ given ++ " (expected core, hybrid, atom or xeon-phi)"

/-- The symbol that a text spells: trimmed, in upper case, and without one common lead. -/
def Model.spelledSymbol (t : Text) : Text :=
  let upper := (Text.trim t).map Char.toUpper
  (Text.dropLead? Model.nameLead upper).getD upper

def Model.ofName (t : Text) : Except CatalogueError Model :=
  match Model.all.find? fun m => m.symbol = Model.spelledSymbol t with
  | some m => .ok m
  | none => .error (.unknownModel t)

def Lineage.ofName (t : Text) : Except CatalogueError Lineage :=
  match Lineage.all.find? fun l => l.name = (Text.trim t).map Char.toLower with
  | some l => .ok l
  | none => .error (.unknownLineage t)

/-- Why a text gives no model number. The text is kept trimmed. -/
inductive NumberError where
  | hexadecimal (given : Text) (reason : Text.NumeralError)
  | decimal (given : Text) (reason : Text.NumeralError)
  | name (cause : CatalogueError)
  deriving DecidableEq, Repr

/-- What follows the mark of a hexadecimal number. -/
def hexadecimal? (t : Text) : Option Text := Text.dropLead? "0x" t <|> Text.dropLead? "0X" t

/-- Whether a text is a decimal number: one ASCII digit or more, and nothing else. -/
def isDecimal (t : Text) : Bool := !t.isEmpty && t.all Char.isDigit

/-- The model number that a trimmed text gives. -/
def Model.readTrimmedNumber (t : Text) : Except NumberError UInt8 :=
  match hexadecimal? t with
  | some digits =>
    match Text.readNumeral 16 255 digits with
    | .ok n => .ok (UInt8.ofNat n)
    | .error reason => .error (.hexadecimal t reason)
  | none =>
    if isDecimal t then
      match Text.readNumeral 10 255 t with
      | .ok n => .ok (UInt8.ofNat n)
      | .error reason => .error (.decimal t reason)
    else
      match Model.ofName t with
      | .ok m => .ok m.number
      | .error cause => .error (.name cause)

/-- The model number that a text gives. Blank characters around it do not count. -/
def Model.readNumber (t : Text) : Except NumberError UInt8 := Model.readTrimmedNumber (Text.trim t)

end CpuIdentity
