import CpuIdentity.Text.Quoted

/-!
# Texts on a terminal

A terminal acts on control characters and control sequences instead of showing them. A log line
escapes the characters that can make it do so. A message leaves out control sequences, and control
characters other than blanks.
-/

namespace CpuIdentity.Terminal

/-- Whether a character is one that a log line escapes: escape, bell, backspace, form feed, delete, or
    one of the controls above ASCII. -/
def isControlling (c : Char) : Bool :=
  c ∈ ['\x1b', '\x07', '\x08', '\x0c', '\x7f'] || (0x80 ≤ c.toNat && c.toNat ≤ 0x9F)

/-- A character in a log line. -/
def escape (c : Char) : Text :=
  if !isControlling c then [c]
  else if c.toNat < 0x80 then "\\x" ++ (Text.hexPadded 2 c.toNat).map Char.toLower
  else Text.escapeCode c

def escaped (t : Text) : Text := t.flatMap escape

/-- Where a terminal stands in what it reads. -/
inductive State where
  | text
  /-- After an escape character. -/
  | escape
  /-- After an escape character and blanks or punctuation. -/
  | intermediate
  /-- In the parameters of a control sequence. -/
  | parameters
  /-- In a command to the operating system, up to a bell. -/
  | command
  /-- At the start of a control string for a device. -/
  | device
  /-- In the parameters of a control string for a device. -/
  | deviceParameters
  /-- After the blanks or punctuation of a control string for a device. -/
  | deviceIntermediate
  /-- In the data of a string, up to a string terminator. -/
  | data
  deriving DecidableEq, Repr

/-- Whether a character lies in a range. -/
def isBetween (low high c : Char) : Bool := low ≤ c && c ≤ high

/-- Whether a character is a control character that moves the place of writing. -/
def isMotion (c : Char) : Bool := c ∈ ['\t', '\n', '\x0c', '\r']

/-- Whether a character is a string terminator, or looks like one among its bytes. -/
def holdsTerminator (c : Char) : Bool := (String.utf8EncodeChar c).contains 0x9C

/-- Whether a character that is read in a state is shown. Inside of strings nothing is. -/
def State.shows (s : State) (c : Char) : Bool :=
  match s with
  | .text => isMotion c || (' ' ≤ c && c ≠ '\x7f')
  | .escape | .intermediate | .parameters => isMotion c
  | _ => false

/-- The state after an escape character and one more. -/
def afterEscape (c : Char) : State :=
  if c = '[' then .parameters
  else if c = ']' then .command
  else if c = 'P' then .device
  else if c ∈ ['X', '^', '_'] then .data
  else if isBetween ' ' '/' c then .intermediate
  else if isBetween '0' '~' c then .text
  else .escape

/-- The state after one more character of the control string for a device that is read in state `s`;
    a private mark from `<` to `?` leads to `marked`. -/
def afterDevice (s marked : State) (c : Char) : State :=
  if isBetween ' ' '/' c then .deviceIntermediate
  else if isBetween '0' ';' c then .deviceParameters
  else if isBetween '<' '?' c then marked
  else if isBetween '@' '~' c then .data
  else s

/-- The state after a character that is not shown. An escape character starts anew, and two others
    cancel. -/
def State.next (s : State) (c : Char) : State :=
  if c = '\x1b' then .escape
  else if c = '\x18' ∨ c = '\x1a' then .text
  else
    match s with
    | .text => .text
    | .escape => afterEscape c
    | .intermediate => if isBetween '0' '~' c then .text else .intermediate
    | .parameters => if isBetween '@' '~' c then .text else .parameters
    | .command => if c = '\x07' then .text else .command
    | .device => afterDevice .device .deviceParameters c
    | .deviceParameters => afterDevice .deviceParameters .data c
    | .deviceIntermediate =>
      if isBetween '0' '~' c then .data else .deviceIntermediate
    | .data => if holdsTerminator c then .text else .data

/-- How far a text has been read: the state, and whether the character before was shown. -/
structure Reading where
  state : State
  showing : Bool
  deriving DecidableEq, Repr

namespace Reading

/-- Whether the next character is shown. Once a character has been shown, what follows is plain text
    up to a character that plain text does not show. -/
def shows (r : Reading) (c : Char) : Bool :=
  if r.showing then State.text.shows c else r.state.shows c

/-- The reading after one more character. A sequence that a shown character interrupts stays open,
    unless the character is beyond ASCII. -/
def next (r : Reading) (c : Char) : Reading :=
  if r.shows c then ⟨if c.toNat < 0x80 then r.state else .text, true⟩
  else ⟨r.state.next c, false⟩

end Reading

/-- What is shown of a text that is read on. -/
def plainFrom (r : Reading) : Text → Text
  | [] => []
  | c :: cs => if r.shows c then c :: plainFrom (r.next c) cs else plainFrom (r.next c) cs

def plain (t : Text) : Text := plainFrom ⟨.text, false⟩ t

example : plain "a\x1b[31mb\x1b]0;title\x07c\x01\td" = ("abc\td" : Text) := by decide +kernel
example : plain "\x1b[\tab\x01cd\x1bPq\u00dce" = ("\tabde" : Text) := by decide +kernel
example : escaped "a\x1b[1m\u0085" = ("a\\x1b[1m\\u\x7b85\x7d" : Text) := by decide +kernel

end CpuIdentity.Terminal
