import CpuIdentity.Text.Numeral

/-!
# Socket addresses

An address and a port, in the usual notation: `127.0.0.1:80`, `[::1]:80`. Each reader takes what it
wants from the front of a text and returns the rest; an address has to use up the whole text.
-/

namespace CpuIdentity

/-- An address of version 4 by its four octets. -/
structure AddressV4 where
  a : Nat
  b : Nat
  c : Nat
  d : Nat
  deriving DecidableEq, Repr

/-- An address with a port. One of version 6 has eight groups, and a scope that is zero if none is
    given. -/
inductive SocketAddress where
  | v4 (address : AddressV4) (port : Nat)
  | v6 (groups : List Nat) (scope : Nat) (port : Nat)
  deriving DecidableEq, Repr

namespace SocketAddress

/-- The rest of a text after one given character. -/
def skip? (c : Char) : Text → Option Text
  | [] => none
  | c' :: t => if c' = c then some t else none

/-- How numbers are written in one place of an address. -/
structure NumberForm where
  base : Nat
  /-- The most digits that may be written, if that is limited. -/
  width : Option Nat
  leadingZeros : Bool
  limit : Nat

/-- An octet: up to three decimal digits. -/
def octet : NumberForm := ⟨10, some 3, false, 255⟩

/-- A group: up to four hexadecimal digits. -/
def group : NumberForm := ⟨16, some 4, true, 65535⟩

def portNumber : NumberForm := ⟨10, none, true, 65535⟩

def scopeNumber : NumberForm := ⟨10, none, true, 4294967295⟩

/-- Reads the longest run of digits at the front as a number. -/
def readNumber (f : NumberForm) (t : Text) : Option (Nat × Text) :=
  let ds := t.map (Text.digitValue? f.base) |>.takeWhile Option.isSome |>.filterMap id
  let n := Text.ofDigits f.base 0 ds
  if ds = [] ∨ f.width.any (· < ds.length) ∨
      (f.leadingZeros = false ∧ ds.head? = some 0 ∧ 1 < ds.length) ∨ f.limit < n then none
  else some (n, t.drop ds.length)

/-- Reads a separator and what follows it, or, at the start of a sequence, an item alone. -/
def readItem (first : Bool) (separator : Char) (read : Text → Option (α × Text)) (t : Text) :
    Option (α × Text) :=
  if first then read t else (skip? separator t).bind read

def readV4 (t : Text) : Option (AddressV4 × Text) := do
  let (a, t) ← readItem true '.' (readNumber octet) t
  let (b, t) ← readItem false '.' (readNumber octet) t
  let (c, t) ← readItem false '.' (readNumber octet) t
  let (d, t) ← readItem false '.' (readNumber octet) t
  some (⟨a, b, c, d⟩, t)

/-- The two groups that an address of version 4 fills inside one of version 6. -/
def AddressV4.groups (x : AddressV4) : List Nat := [x.a * 256 + x.b, x.c * 256 + x.d]

/-- What a run of groups reads as. -/
structure Groups where
  groups : List Nat
  dotted : Bool
  rest : Text

/-- Reads as many groups as there are, at most `room`. The last two may be an address of version 4,
    which ends the run. -/
def readGroups : (room : Nat) → (first : Bool) → Text → Groups
  | 0, _, t => ⟨[], false, t⟩
  | room + 1, first, t =>
    match (if 1 ≤ room then readItem first ':' readV4 t else none) with
    | some (x, rest) => ⟨AddressV4.groups x, true, rest⟩
    | none =>
      match readItem first ':' (readNumber group) t with
      | some (g, rest) =>
        let r := readGroups room false rest
        ⟨g :: r.groups, r.dotted, r.rest⟩
      | none => ⟨[], false, t⟩

/-- Reads the eight groups of an address of version 6. A double colon stands for one zero group or
    more, and no address of version 4 stands before it. -/
def readV6 (t : Text) : Option (List Nat × Text) :=
  let front := readGroups 8 true t
  if front.groups.length = 8 then some (front.groups, front.rest)
  else if front.dotted then none
  else do
    let t ← skip? ':' front.rest
    let t ← skip? ':' t
    let back := readGroups (7 - front.groups.length) true t
    let zeros := List.replicate (8 - front.groups.length - back.groups.length) 0
    some (front.groups ++ zeros ++ back.groups, back.rest)

def readPort (t : Text) : Option (Nat × Text) := (skip? ':' t).bind (readNumber portNumber)

/-- Reads a scope, if there is one. -/
def readScope (t : Text) : Nat × Text :=
  ((skip? '%' t).bind (readNumber scopeNumber)).getD (0, t)

def readSocketV4 (t : Text) : Option (SocketAddress × Text) := do
  let (x, t) ← readV4 t
  let (port, t) ← readPort t
  some (.v4 x port, t)

def readSocketV6 (t : Text) : Option (SocketAddress × Text) := do
  let t ← skip? '[' t
  let (groups, t) ← readV6 t
  let (scope, t) := readScope t
  let t ← skip? ']' t
  let (port, t) ← readPort t
  some (.v6 groups scope port, t)

/-- The socket address that a text spells from its first character to its last. -/
def ofText? (t : Text) : Option SocketAddress :=
  match readSocketV4 t <|> readSocketV6 t with
  | some (x, []) => some x
  | _ => none

def AddressV4.text (x : AddressV4) : Text :=
  Text.joinWith "." ([x.a, x.b, x.c, x.d].map Text.decimal)

/-- Groups in print, in lower-case hexadecimal between colons. -/
def groupsText (gs : List Nat) : Text := Text.joinWith ":" (gs.map Text.hexLower)

/-- The length of the run of zeros at the front. -/
def zeroRun (gs : List Nat) : Nat := (gs.takeWhile (· = 0)).length

/-- The start and the length of the first of the longest runs of zeros. -/
def longestZeros : List Nat → Nat × Nat
  | [] => (0, 0)
  | g :: gs =>
    if (longestZeros gs).2 ≤ zeroRun (g :: gs) then (0, zeroRun (g :: gs))
    else ((longestZeros gs).1 + 1, (longestZeros gs).2)

/-- An address of version 6 in print. A mapped address of version 4 keeps its dotted form; otherwise
    the first of the longest runs of two zeros or more is left out. -/
def groupsV6Text (gs : List Nat) : Text :=
  match gs with
  | [0, 0, 0, 0, 0, 65535, x, y] =>
    "::ffff:" ++ AddressV4.text ⟨x / 256, x % 256, y / 256, y % 256⟩
  | _ =>
    let (start, length) := longestZeros gs
    if 1 < length then groupsText (gs.take start) ++ "::" ++ groupsText (gs.drop (start + length))
    else groupsText gs

/-- A scope in print; the scope zero is left out. -/
def scopeText (scope : Nat) : Text := if scope = 0 then [] else "%" ++ Text.decimal scope

def text : SocketAddress → Text
  | .v4 x port => AddressV4.text x ++ ":" ++ Text.decimal port
  | .v6 groups scope port =>
    "[" ++ groupsV6Text groups ++ scopeText scope ++ "]:" ++ Text.decimal port

example : (ofText? "[1:0:0:2::3]:09").map text = some ("[1:0:0:2::3]:9" : Text) := by
  decide +kernel

end SocketAddress

end CpuIdentity
