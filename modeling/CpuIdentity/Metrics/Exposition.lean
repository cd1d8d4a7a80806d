import CpuIdentity.Error

/-!
# The text exposition format

Metrics are published as families. A family has a name, a help text, a type and series; a series has
labels and a value. In print a family is a help line, a type line and one line for each series. Line
feeds, backslashes and, in label values, double quotes are escaped, so no value can end its line.
-/

namespace CpuIdentity.Exposition

inductive Kind where
  | counter
  | gauge
  deriving DecidableEq, Repr

def Kind.word : Kind → Text
  | .counter => "counter"
  | .gauge => "gauge"

structure Label where
  name : Text
  value : Text
  deriving DecidableEq, Repr

/-- One measured value under its labels. -/
structure Series where
  labels : List Label
  value : Nat
  deriving DecidableEq, Repr

structure Family where
  name : Text
  help : Text
  kind : Kind
  series : List Series
  deriving DecidableEq, Repr

/-- How a character stands in a help text. -/
def escapeHelp (c : Char) : Text :=
  if c = '\\' then "\\\\" else if c = '\n' then "\\n" else [c]

/-- How a character stands in a label value. -/
def escapeValue (c : Char) : Text := if c = '"' then "\\\"" else escapeHelp c

def Label.text (l : Label) : Text := l.name ++ "=\"" ++ l.value.flatMap escapeValue ++ "\""

/-- The labels of a series in print: in braces, or nothing if there are none. -/
def labelsText (ls : List Label) : Text :=
  if ls = [] then [] else "\x7b" ++ Text.joinWith "," (ls.map Label.text) ++ "\x7d"

/-- A series of the family with a name, in print. -/
def Series.text (name : Text) (s : Series) : Text :=
  Text.line (name ++ labelsText s.labels ++ " " ++ Text.decimal s.value)

/-- The help line of a family; an empty help text has none. -/
def Family.helpLine (f : Family) : Text :=
  if f.help = [] then []
  else Text.line ("# HELP " ++ f.name ++ " " ++ f.help.flatMap escapeHelp)

def Family.typeLine (f : Family) : Text := Text.line ("# TYPE " ++ f.name ++ " " ++ f.kind.word)

def Family.text (f : Family) : Text :=
  f.helpLine ++ f.typeLine ++ f.series.flatMap (Series.text f.name)

/-- The fault of a family that cannot be printed, if it has one: it needs a series and a name. -/
def Family.fault? (f : Family) : Option Text :=
  if f.series = [] then some "MetricFamily has no metrics"
  else if f.name = [] then some "MetricFamily has no name"
  else none

/-- Families in print, unless one of them cannot be printed. -/
def encode : List Family → Except Error Text
  | [] => .ok []
  | f :: fs =>
    match f.fault? with
    | some detail => .error (.metric (.other detail))
    | none => (encode fs).map (f.text ++ ·)

def startsName (c : Char) : Bool := c.isAlpha || c = '_' || c = ':'

def continuesName (c : Char) : Bool := startsName c || c.isDigit

def isMetricName : Text → Bool
  | [] => false
  | c :: cs => startsName c && cs.all continuesName

theorem all_of_isMetricName {name : Text} (h : isMetricName name = true) :
    ∀ c ∈ name, continuesName c = true := by
  cases name with
  | nil => cases h
  | cons c cs =>
    exact Text.all_of_first_and_rest (fun d hd => by rw [continuesName, hd, Bool.true_or]) h

def contentType : Text := "text/plain; version=0.0.4"

end CpuIdentity.Exposition
