import CpuIdentity.Catalogue.Name
import CpuIdentity.Text.Numeral
import CpuIdentity.Text.Quoted

/-!
# Errors

What can go wrong, by cause. Each error has a message for readers and a report that names its cause
and quotes its value, so the report stays on one line whatever the value holds. A fault of the operating
system is told by its number, with the words that the system has for it.
-/

namespace CpuIdentity

/-- A fault reported by the operating system. -/
structure Errno where
  code : Nat
  symbol : Text
  text : Text
  /-- The kind that the fault is filed under. -/
  kind : Text
  deriving DecidableEq, Repr

namespace Errno

def notPermitted : Errno := ⟨1, "EPERM", "Operation not permitted", "PermissionDenied"⟩

def accessDenied : Errno := ⟨13, "EACCES", "Permission denied", "PermissionDenied"⟩

def nameTooLong : Errno := ⟨36, "ENAMETOOLONG", "File name too long", "InvalidFilename"⟩

def addressInUse : Errno := ⟨98, "EADDRINUSE", "Address already in use", "AddrInUse"⟩

def addressNotAvailable : Errno :=
  ⟨99, "EADDRNOTAVAIL", "Cannot assign requested address", "AddrNotAvailable"⟩

/-- The fault by symbol and words. -/
def bySymbol (e : Errno) : Text := e.symbol ++ ": " ++ e.text

/-- The fault by words and number. -/
def byNumber (e : Errno) : Text := e.text ++ " (os error " ++ Text.decimal e.code ++ ")"

end Errno

inductive IoError where
  | os (fault : Errno)
  | other (detail : Text)
  deriving DecidableEq, Repr

namespace IoError

def message : IoError → Text
  | .os fault => fault.byNumber
  | .other detail => detail

/-- The fault with all that is known of it. -/
def report : IoError → Text
  | .os fault =>
    "Os \x7b code: " ++ Text.decimal fault.code ++ ", kind: " ++ fault.kind ++ ", message: " ++
      Text.quote fault.text ++ " \x7d"
  | .other detail => "Custom \x7b kind: Other, error: " ++ Text.quote detail ++ " \x7d"

end IoError

inductive MetricError where
  /-- A metric of the same name is registered already. -/
  | registered
  /-- Any other fault, told in words. -/
  | other (detail : Text)
  deriving DecidableEq, Repr

namespace MetricError

def message : MetricError → Text
  | .registered => "Duplicate metrics collector registration attempted"
  | .other detail => "Error: " ++ detail

def report : MetricError → Text
  | .registered => "AlreadyReg"
  | .other detail => "Msg(" ++ Text.quote detail ++ ")"

end MetricError

inductive Error where
  | unsupportedVendor (vendor : Text)
  | unsupportedFamily (family : UInt32)
  | catalogue (cause : CatalogueError)
  | configuration (detail : Text)
  | parse (detail : Text)
  | io (cause : IoError)
  | metric (cause : MetricError)
  deriving DecidableEq, Repr

/-- The cause of a catalogue error, with its text quoted. -/
def CatalogueError.report : CatalogueError → Text
  | .unknownModel given => "UnknownModelName(" ++ Text.quote given ++ ")"
  | .unknownLineage given => "UnknownLineage(" ++ Text.quote given ++ ")"

namespace Error

def message : Error → Text
  | .unsupportedVendor vendor =>
    "Unsupported CPU vendor: " ++ vendor ++ " (only GenuineIntel is catalogued)"
  | .unsupportedFamily family =>
    "Unsupported CPU family: 0x" ++ Text.hexUpper family.toNat ++
      " (only Intel family 6 is catalogued)"
  | .catalogue cause => "Catalogue error: " ++ cause.message
  | .configuration detail => "Configuration error: " ++ detail
  | .parse detail => "Parse error: " ++ detail
  | .io cause => "IO error: " ++ cause.message
  | .metric cause => "Prometheus error: " ++ cause.message

/-- The cause of an error, with its value quoted. -/
def report : Error → Text
  | .unsupportedVendor vendor => "UnsupportedVendor(" ++ Text.quote vendor ++ ")"
  | .unsupportedFamily family => "UnsupportedFamily(" ++ Text.decimal family.toNat ++ ")"
  | .catalogue cause => "Catalogue(" ++ cause.report ++ ")"
  | .configuration detail => "ConfigError(" ++ Text.quote detail ++ ")"
  | .parse detail => "ParseError(" ++ Text.quote detail ++ ")"
  | .io cause => "IoError(" ++ cause.report ++ ")"
  | .metric cause => "PrometheusError(" ++ cause.report ++ ")"

/-- The error of a text that gives no model number. -/
def ofNumberError : NumberError → Error
  | .hexadecimal given reason =>
    .parse ("Invalid hex model number " ++ given ++ ": " ++ reason.message)
  | .decimal given reason => .parse ("Invalid model number " ++ given ++ ": " ++ reason.message)
  | .name cause => .catalogue cause

end Error

end CpuIdentity
