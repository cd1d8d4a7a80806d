import CpuIdentity.Metrics.Exposition

/-!
# A reader of the text exposition format

The reader follows the rules of the format and not the printer. Lines end at line feeds; blanks and
tabs may stand between the parts of a line; a line that is empty or starts with a hash says nothing,
unless the word after the hash is `HELP` or `TYPE`; any other line is one series of the metric that it
names. Values are whole numbers, and a series with a time of its own is not read.
-/

namespace CpuIdentity.Exposition

/-- Whether a character may start the name of a label. -/
def startsLabel (c : Char) : Bool := c.isAlpha || c = '_'

/-- Whether a character may stand inside the name of a label. -/
def continuesLabel (c : Char) : Bool := startsLabel c || c.isDigit

/-- Whether a text is the name of a label. -/
def isLabelName : Text → Bool
  | [] => false
  | c :: cs => startsLabel c && cs.all continuesLabel

namespace Reader

/-- The lines of a text, each without the line feed that ends it. A text that ends inside a line has
    none. -/
def lines? : Text → Option (List Text)
  | [] => some []
  | c :: cs =>
    if c = '\n' then (lines? cs).map ([] :: ·)
    else
      match lines? cs with
      | some (l :: ls) => some ((c :: l) :: ls)
      | _ => none

/-- What separates the parts of a line. -/
def isSpace (c : Char) : Bool := c = ' ' || c = '\t'

/-- The text without the spaces in front. -/
def skip (t : Text) : Text := t.dropWhile isSpace

/-- The first word of a text, after the spaces in front of it, and what follows. -/
def word (t : Text) : Text × Text :=
  ((skip t).takeWhile fun c => !isSpace c, (skip t).dropWhile fun c => !isSpace c)

/-- What follows a character, if it comes next but for spaces. -/
def expect (c : Char) (t : Text) : Option Text :=
  match skip t with
  | [] => none
  | d :: t => if d = c then some t else none

/-- What a character after a backslash stands for in a help text. -/
def unescapeHelp? (c : Char) : Option Char :=
  if c = '\\' then some '\\' else if c = 'n' then some '\n' else none

/-- What a character after a backslash stands for in a label value. -/
def unescapeValue? (c : Char) : Option Char := if c = '"' then some '"' else unescapeHelp? c

/-- A help text, with its escapes undone. -/
def readHelp : Text → Option Text
  | [] => some []
  | '\\' :: [] => none
  | '\\' :: c :: t => (unescapeHelp? c).bind fun d => (readHelp t).map (d :: ·)
  | c :: t => (readHelp t).map (c :: ·)

/-- A label value up to the quote that ends it, with its escapes undone, and what follows. -/
def readValue : Text → Option (Text × Text)
  | [] => none
  | '"' :: t => some ([], t)
  | '\\' :: [] => none
  | '\\' :: c :: t =>
    (unescapeValue? c).bind fun d => (readValue t).map fun r => (d :: r.1, r.2)
  | c :: t => (readValue t).map fun r => (c :: r.1, r.2)

/-- A label, and what follows. -/
def readLabel (t : Text) : Option (Label × Text) :=
  let name := (skip t).takeWhile continuesLabel
  if isLabelName name then do
    let t ← expect '=' ((skip t).dropWhile continuesLabel)
    let t ← expect '"' t
    let (value, t) ← readValue t
    return (⟨name, value⟩, t)
  else none

theorem length_skip_le (t : Text) : (skip t).length ≤ t.length :=
  (List.dropWhile_sublist _).length_le

theorem length_expect {c : Char} {t rest : Text} (h : expect c t = some rest) :
    rest.length < t.length := by
  have shorter := length_skip_le t
  unfold expect at h
  split at h
  case h_1 => cases h
  case h_2 d t' ht =>
    rw [ht, List.length_cons] at shorter
    split at h
    case isTrue => cases h; exact shorter
    case isFalse => cases h

theorem length_readValue {t rest v : Text} (h : readValue t = some (v, rest)) :
    rest.length < t.length := by
  fun_induction readValue t generalizing v with
  | case1 => cases h
  | case2 => cases h; simp
  | case3 => cases h
  | case4 c t ih =>
    obtain ⟨d, -, h⟩ := Option.bind_eq_some_iff.1 h
    obtain ⟨r, hr, hv⟩ := Option.map_eq_some_iff.1 h
    cases hv
    have := ih hr
    simp only [List.length_cons]
    omega
  | case5 c t _ _ _ ih =>
    obtain ⟨r, hr, hv⟩ := Option.map_eq_some_iff.1 h
    cases hv
    have := ih hr
    simp only [List.length_cons]
    omega

theorem length_readLabel {t rest : Text} {l : Label} (h : readLabel t = some (l, rest)) :
    rest.length < t.length := by
  unfold readLabel at h
  dsimp only at h
  split at h
  case isTrue =>
    obtain ⟨t1, h1, h⟩ := Option.bind_eq_some_iff.1 h
    obtain ⟨t2, h2, h⟩ := Option.bind_eq_some_iff.1 h
    obtain ⟨⟨v, t3⟩, h3, h⟩ := Option.bind_eq_some_iff.1 h
    cases h
    have first := (List.dropWhile_sublist (l := skip t) continuesLabel).length_le
    have := length_skip_le t
    have := length_expect h1
    have := length_expect h2
    have := length_readValue h3
    dsimp only
    omega
  case isFalse => cases h

/-- The labels up to the brace that ends them, and what follows. -/
def readLabels (t : Text) : Option (List Label × Text) :=
  match _ : readLabel t with
  | none => (expect '\x7d' t).map fun t => ([], t)
  | some (l, rest) =>
    match _ : expect ',' rest with
    | some rest' => (readLabels rest').map fun r => (l :: r.1, r.2)
    | none => (expect '\x7d' rest).map fun t => ([l], t)
termination_by t.length
decreasing_by exact Nat.lt_trans (length_expect ‹_›) (length_readLabel ‹_›)

/-- The labels of a series, which may have none, and what follows. -/
def readBraces (t : Text) : Option (List Label × Text) :=
  match expect '\x7b' t with
  | some t => readLabels t
  | none => some ([], t)

/-- A whole number in decimal. -/
def readNumber (t : Text) : Option Nat :=
  if t ≠ [] ∧ t.all Char.isDigit then
    some (Text.ofDigits 10 0 (t.map fun c => c.toNat - '0'.toNat))
  else none

/-- The type with a word. -/
def readKind (t : Text) : Option Kind := [Kind.counter, Kind.gauge].find? fun k => k.word = t

/-- What a line says. -/
inductive Line where
  | nothing
  | help (name help : Text)
  | kind (name : Text) (kind : Kind)
  | series (name : Text) (series : Series)

/-- A line that starts with a hash, from behind the hash. -/
def readComment (t : Text) : Option Line :=
  let (keyword, t) := word t
  if keyword = ("HELP" : Text) then
    let (name, t) := word t
    if isMetricName name then (readHelp (skip t)).map (.help name) else none
  else if keyword = ("TYPE" : Text) then
    let (name, t) := word t
    let (kind, t) := word t
    if isMetricName name ∧ skip t = [] then (readKind kind).map (.kind name) else none
  else some .nothing

/-- A line with a series. -/
def readSeries (t : Text) : Option Line :=
  let name := t.takeWhile continuesName
  let t := t.dropWhile continuesName
  if isMetricName name then do
    let (labels, t) ← readBraces t
    let (value, t) := word t
    if skip t = [] then (readNumber value).map fun n => .series name ⟨labels, n⟩ else none
  else none

/-- A line. -/
def readLine (t : Text) : Option Line :=
  match skip t with
  | [] => some .nothing
  | '#' :: t => readComment t
  | c :: t => readSeries (c :: t)

/-- What is known of a family so far. -/
structure Draft where
  name : Text
  help : Option Text
  kind : Option Kind
  series : List Series

/-- The draft for a name, and the drafts under it. It is the one on top if that has the name, and else
    a new one. -/
def draftFor (name : Text) : List Draft → Draft × List Draft
  | [] => (⟨name, none, none, []⟩, [])
  | d :: ds => if d.name = name then (d, ds) else (⟨name, none, none, []⟩, d :: ds)

/-- Enters a line into the drafts, of which the latest is on top. Help and type come at most once and
    before any series. -/
def enter (ds : List Draft) : Line → Option (List Draft)
  | .nothing => some ds
  | .help name help =>
    let (d, ds) := draftFor name ds
    if d.help = none ∧ d.series = [] then some ({ d with help := some help } :: ds) else none
  | .kind name kind =>
    let (d, ds) := draftFor name ds
    if d.kind = none ∧ d.series = [] then some ({ d with kind := some kind } :: ds) else none
  | .series name s =>
    let (d, ds) := draftFor name ds
    some ({ d with series := d.series ++ [s] } :: ds)

/-- The family of a draft; it needs a type. -/
def Draft.family? (d : Draft) : Option Family :=
  d.kind.map fun k => ⟨d.name, d.help.getD [], k, d.series⟩

/-- The families that a text tells, each name in one place. -/
def read (t : Text) : Option (List Family) := do
  let ls ← lines? t
  let ls ← ls.mapM readLine
  let ds ← ls.foldlM enter []
  if (ds.map Draft.name).Nodup then ds.reverse.mapM Draft.family? else none

end Reader

end CpuIdentity.Exposition
