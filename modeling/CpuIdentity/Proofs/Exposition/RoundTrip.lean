import CpuIdentity.Proofs.Exposition.Scanning

/-!
# Reading what the printer writes

Printed families are read back as they are, whatever their label values and help texts hold: a line
that is printed is read as what it says, no line holds a line feed, and the lines of a family make one
draft.
-/

namespace CpuIdentity.Exposition

namespace Reader

/-- A line in print. -/
def Line.text : Line → Text
  | .nothing => []
  | .help name told => "# HELP " ++ name ++ " " ++ told.flatMap escapeHelp
  | .kind name k => "# TYPE " ++ name ++ " " ++ k.word
  | .series name s => name ++ labelsText s.labels ++ " " ++ Text.decimal s.value

/-- What a line has to keep to for a reader: its names are names, and a help text starts with no space,
    since spaces before it are not a part of it. -/
def Line.Readable : Line → Prop
  | .nothing => True
  | .help name told => isMetricName name = true ∧ Stops isSpace told
  | .kind name _ => isMetricName name = true
  | .series name s => isMetricName name = true ∧ ∀ l ∈ s.labels, isLabelName l.name = true

theorem stops_escapeHelp {help : Text} (h : Stops isSpace help) :
    Stops isSpace (help.flatMap escapeHelp) := by
  cases help with
  | nil => exact stops_nil _
  | cons c help =>
    have hc : isSpace c = false := h c rfl
    rw [List.flatMap_cons]
    by_cases hb : c = '\\'
    · rw [hb]
      exact stops_cons (by decide)
    by_cases hn : c = '\n'
    · rw [hn]
      exact stops_cons (by decide)
    · rw [escapeHelp_plain hb hn]
      exact stops_cons hc

/-- The kind of a family is read back from its word. -/
theorem readKind_word (kind : Kind) : readKind kind.word = some kind := by
  cases kind <;> decide

/-- A word of letters holds no space. -/
theorem not_isSpace_of_all_isAlpha {w : Text} (h : w.all Char.isAlpha = true) :
    ∀ c ∈ w, isSpace c = false := by
  intro c hc
  have letter := List.all_eq_true.1 h c hc
  exact not_isSpace_of_class letter (by decide) (by decide)

theorem not_isSpace_of_mem_word (kind : Kind) : ∀ c ∈ kind.word, isSpace c = false := by
  cases kind with
  | counter => exact not_isSpace_of_all_isAlpha (by decide)
  | gauge => exact not_isSpace_of_all_isAlpha (by decide)

/-- A help line is read back. -/
theorem readComment_help {name help : Text} (hn : isMetricName name = true)
    (hh : Stops isSpace help) :
    readComment (" HELP " ++ name ++ " " ++ help.flatMap escapeHelp) = some (.help name help) := by
  let rest := help.flatMap escapeHelp
  have shape : (" HELP " : Text) ++ name ++ " " ++ rest =
      ' ' :: (("HELP" : Text) ++ ' ' :: (name ++ ' ' :: rest)) := by
    rw [List.append_assoc, List.append_assoc]
    rfl
  have keyword : word (' ' :: (("HELP" : Text) ++ ' ' :: (name ++ ' ' :: rest))) =
      (("HELP" : Text), ' ' :: (name ++ ' ' :: rest)) := by
    rw [word_space, word_append_space _ (not_isSpace_of_all_isAlpha (by decide)) (by decide)]
  have named : word (' ' :: (name ++ ' ' :: rest)) = (name, ' ' :: rest) := by
    rw [word_space, word_append_space _ (not_isSpace_of_isMetricName hn) (ne_nil_of_isMetricName hn)]
  have told : readHelp (skip (' ' :: rest)) = some help := by
    rw [skip_space, skip_of_stops (stops_escapeHelp hh), readHelp_escape]
  unfold readComment
  rw [shape, keyword]
  simp only [if_true, named, hn, told, Option.map_some]

/-- A line that tells the kind of a family is read back. -/
theorem readComment_kind {name : Text} (hn : isMetricName name = true) (kind : Kind) :
    readComment (" TYPE " ++ name ++ " " ++ kind.word) = some (.kind name kind) := by
  have shape : (" TYPE " : Text) ++ name ++ " " ++ kind.word =
      ' ' :: (("TYPE" : Text) ++ ' ' :: (name ++ ' ' :: kind.word)) := by
    rw [List.append_assoc, List.append_assoc]
    rfl
  have keyword : word (' ' :: (("TYPE" : Text) ++ ' ' :: (name ++ ' ' :: kind.word))) =
      (("TYPE" : Text), ' ' :: (name ++ ' ' :: kind.word)) := by
    rw [word_space, word_append_space _ (not_isSpace_of_all_isAlpha (by decide)) (by decide)]
  have named : word (' ' :: (name ++ ' ' :: kind.word)) = (name, ' ' :: kind.word) := by
    rw [word_space, word_append_space _ (not_isSpace_of_isMetricName hn) (ne_nil_of_isMetricName hn)]
  have last : word (' ' :: kind.word) = (kind.word, []) := by
    rw [word_space, word_self (not_isSpace_of_mem_word kind) (by cases kind <;> decide)]
  have other : ¬("TYPE" : Text) = ("HELP" : Text) := by decide
  unfold readComment
  rw [shape, keyword]
  simp only [if_neg other, if_true, named, last, hn, readKind_word, Option.map_some]
  rfl

/-- The name of a series ends where its labels begin. -/
theorem stops_continuesName (ls : List Label) (t : Text) :
    Stops continuesName (labelsText ls ++ ' ' :: t) := by
  cases ls with
  | nil => exact stops_cons (by decide)
  | cons l ls =>
    rw [labelsText_cons]
    exact stops_cons (by decide)

theorem expect_brace_decimal (n : Nat) : expect '\x7b' (' ' :: Text.decimal n) = none := by
  have blanks := not_isSpace_of_mem_decimal n
  have digits : ∀ c ∈ Text.decimal n, c ≠ '\x7b' := fun c hc =>
    ne_of_class (isDigit_of_mem_decimal hc) (by decide)
  cases h : Text.decimal n with
  | nil => exact absurd h (decimal_ne_nil n)
  | cons d ds =>
    rw [h] at blanks digits
    have other := digits d List.mem_cons_self
    rw [expect, skip_space, skip_of_stops (stops_cons (blanks d List.mem_cons_self))]
    exact if_neg other

theorem append_space_append (a b t : Text) : a ++ b ++ " " ++ t = a ++ (b ++ ' ' :: t) := by
  rw [List.append_assoc, List.append_assoc]
  rfl

/-- A series is read back from its line, with its labels and its value. -/
theorem readSeries_text {name : Text} (hn : isMetricName name = true) {s : Series}
    (hs : ∀ l ∈ s.labels, isLabelName l.name = true) :
    readSeries (Line.series name s).text = some (.series name s) := by
  let number := ' ' :: Text.decimal s.value
  have shape : (Line.series name s).text = name ++ (labelsText s.labels ++ number) :=
    append_space_append name (labelsText s.labels) (Text.decimal s.value)
  have inside := all_of_isMetricName hn
  have ends : Stops continuesName (labelsText s.labels ++ number) := stops_continuesName _ _
  have labels : readBraces (labelsText s.labels ++ number) = some (s.labels, number) :=
    readBraces_labelsText hs (expect_brace_decimal s.value)
  have last : word number = (Text.decimal s.value, []) := by
    rw [word_space, word_self (not_isSpace_of_mem_decimal s.value) (decimal_ne_nil s.value)]
  unfold readSeries
  simp only [shape, takeWhile_of_stops inside ends, dropWhile_of_stops inside ends, hn, if_true,
    labels, Option.bind_eq_bind, Option.bind_some, last, readNumber_decimal, Option.map_some]
  rfl

/-- A line that is printed says what it was printed for. -/
theorem readLine_text {l : Line} (h : l.Readable) : readLine l.text = some l := by
  cases l with
  | nothing => rfl
  | help name help =>
    have start : skip (Line.help name help).text = (Line.help name help).text :=
      skip_of_stops (stops_cons (by decide))
    rw [readLine, start]
    exact readComment_help h.1 h.2
  | kind name kind =>
    have start : skip (Line.kind name kind).text = (Line.kind name kind).text :=
      skip_of_stops (stops_cons (by decide))
    rw [readLine, start]
    exact readComment_kind h kind
  | series name s =>
    have read := readSeries_text h.1 h.2
    have inside := all_of_isMetricName h.1
    cases name with
    | nil => exact absurd rfl (ne_nil_of_isMetricName h.1)
    | cons c cs =>
      have hc := inside c List.mem_cons_self
      have start : skip (Line.series (c :: cs) s).text = (Line.series (c :: cs) s).text :=
        skip_of_stops (stops_cons (not_isSpace_of_class hc (by decide) (by decide)))
      have noHash : c ≠ '#' := ne_of_class hc (by decide)
      rw [readLine, start]
      have shape : (Line.series (c :: cs) s).text =
          c :: (cs ++ labelsText s.labels ++ " " ++ Text.decimal s.value) := rfl
      rw [shape] at read ⊢
      split
      case h_1 none => cases none
      case h_2 t hash => exact absurd (List.cons.inj hash).1 noHash
      case h_3 d t _ same => rw [← same]; exact read

/-- What is in no part and not between the parts is not in what is joined of them. -/
theorem not_mem_joinWith {c : Char} {separator : Text} {ts : List Text} (hs : c ∉ separator)
    (ht : ∀ t ∈ ts, c ∉ t) : c ∉ Text.joinWith separator ts := by
  unfold Text.joinWith
  induction ts with
  | nil => exact List.not_mem_nil
  | cons t ts ih =>
    have first := ht t List.mem_cons_self
    have rest := ih fun t' h' => ht t' (List.mem_cons_of_mem t h')
    cases ts with
    | nil =>
      rw [List.intercalate_singleton]
      exact first
    | cons t' ts =>
      rw [List.intercalate_cons_cons]
      simp only [List.mem_append, not_or]
      exact ⟨⟨first, hs⟩, rest⟩

/-- A text whose escapes have no line feeds has none once it is escaped. -/
theorem newline_not_mem_flatMap {escape : Char → Text} (h : ∀ c, '\n' ∉ escape c) (t : Text) :
    '\n' ∉ t.flatMap escape := by
  intro hm
  obtain ⟨c, -, hc⟩ := List.mem_flatMap.1 hm
  exact h c hc

theorem newline_not_mem_name {name : Text} (h : isMetricName name = true) : '\n' ∉ name :=
  fun hm => ne_of_class (all_of_isMetricName h _ hm) (by decide) rfl

theorem newline_not_mem_label {l : Label} (h : isLabelName l.name = true) : '\n' ∉ l.text := by
  have name : '\n' ∉ l.name := fun hm =>
    ne_of_class (all_of_isLabelName h _ hm) (by decide) rfl
  have value := newline_not_mem_flatMap newline_not_mem_escapeValue l.value
  have opening : '\n' ∉ ("=\"" : Text) := by decide
  have closing : '\n' ∉ ("\"" : Text) := by decide
  unfold Label.text
  simp only [List.mem_append, not_or]
  exact ⟨⟨⟨name, opening⟩, value⟩, closing⟩

theorem newline_not_mem_labelsText {ls : List Label} (h : ∀ l ∈ ls, isLabelName l.name = true) :
    '\n' ∉ labelsText ls := by
  have labels : ∀ t ∈ ls.map Label.text, '\n' ∉ t := by
    intro t ht
    obtain ⟨l, hl, rfl⟩ := List.mem_map.1 ht
    exact newline_not_mem_label (h l hl)
  have comma : '\n' ∉ ("," : Text) := by decide
  have joined := not_mem_joinWith comma labels
  have opening : '\n' ∉ ("\x7b" : Text) := by decide
  have closing : '\n' ∉ ("\x7d" : Text) := by decide
  unfold labelsText
  split
  · exact List.not_mem_nil
  · simp only [List.mem_append, not_or]
    exact ⟨⟨opening, joined⟩, closing⟩

/-- A line that is printed is one line. -/
theorem newline_not_mem_text {l : Line} (h : l.Readable) : '\n' ∉ l.text := by
  have space : '\n' ∉ (" " : Text) := by decide
  cases l with
  | nothing => exact List.not_mem_nil
  | help name help =>
    have keyword : '\n' ∉ ("# HELP " : Text) := by decide
    have told := newline_not_mem_flatMap newline_not_mem_escapeHelp help
    unfold Line.text
    simp only [List.mem_append, not_or]
    exact ⟨⟨⟨keyword, newline_not_mem_name h.1⟩, space⟩, told⟩
  | kind name kind =>
    have keyword : '\n' ∉ ("# TYPE " : Text) := by decide
    have told : '\n' ∉ kind.word := by cases kind <;> decide
    unfold Line.text
    simp only [List.mem_append, not_or]
    exact ⟨⟨⟨keyword, newline_not_mem_name h⟩, space⟩, told⟩
  | series name s =>
    have number : '\n' ∉ Text.decimal s.value := fun hm =>
      ne_of_class (isDigit_of_mem_decimal hm) (by decide) rfl
    unfold Line.text
    simp only [List.mem_append, not_or]
    exact ⟨⟨⟨newline_not_mem_name h.1, newline_not_mem_labelsText h.2⟩, space⟩, number⟩

/-! ## Families -/

/-- The lines of a family. -/
def said (f : Family) : List Line :=
  (if f.help = [] then [] else [.help f.name f.help]) ++
    .kind f.name f.kind :: f.series.map (.series f.name)

/-- What a family has to keep to for a reader. -/
structure Readable (f : Family) : Prop where
  name : isMetricName f.name = true
  help : Stops isSpace f.help
  labels : ∀ s ∈ f.series, ∀ l ∈ s.labels, isLabelName l.name = true

/-- The draft that holds all of a family. -/
def drafted (f : Family) : Draft :=
  ⟨f.name, if f.help = [] then none else some f.help, some f.kind, f.series⟩

/-- The text of a family is made of its lines. -/
theorem text_eq_said (f : Family) : f.text = ((said f).map Line.text).flatMap Text.line := by
  have series : ((f.series.map (Line.series f.name)).map Line.text).flatMap Text.line =
      f.series.flatMap (Series.text f.name) := by
    rw [List.map_map, List.flatMap_map]
    rfl
  unfold Family.text Family.helpLine said
  rw [List.map_append, List.flatMap_append, List.map_cons, List.flatMap_cons, series,
    List.append_assoc]
  split
  · rfl
  · rw [List.map_singleton, List.flatMap_singleton]
    rfl

/-- Every line of a family that can be read can be read. -/
theorem Readable.line {f : Family} (h : Readable f) : ∀ l ∈ said f, l.Readable := by
  intro l hl
  unfold said at hl
  rcases List.mem_append.1 hl with hl | hl
  · split at hl
    · cases hl
    · obtain rfl := List.mem_singleton.1 hl
      exact ⟨h.name, h.help⟩
  · rcases List.mem_cons.1 hl with rfl | hl
    · exact h.name
    · obtain ⟨s, hs, rfl⟩ := List.mem_map.1 hl
      exact ⟨h.name, h.labels s hs⟩

/-- The draft of a family is completed to the family. -/
theorem family?_drafted (f : Family) : (drafted f).family? = some f := by
  unfold Draft.family? drafted
  by_cases h : f.help = []
  · obtain ⟨name, help, kind, series⟩ := f
    obtain rfl : help = [] := h
    rfl
  · rw [if_neg h]
    rfl

/-- A name that no draft has begins a new one. -/
theorem draftFor_new {name : Text} {ds : List Draft} (h : ∀ d ∈ ds, d.name ≠ name) :
    draftFor name ds = (⟨name, none, none, []⟩, ds) := by
  cases ds with
  | nil => rfl
  | cons d ds => exact if_neg (h d List.mem_cons_self)

/-- A name continues the draft that has it. -/
theorem draftFor_self (d : Draft) (ds : List Draft) : draftFor d.name (d :: ds) = (d, ds) :=
  if_pos rfl

/-- The series of the draft on top are put to it one after the other. -/
theorem foldlM_enter_series (d : Draft) (ds : List Draft) (ss : List Series) :
    (ss.map (Line.series d.name)).foldlM enter (d :: ds) =
      some ({ d with series := d.series ++ ss } :: ds) := by
  induction ss generalizing d with
  | nil => simp
  | cons s ss ih =>
    have first : enter (d :: ds) (.series d.name s) =
        some ({ d with series := d.series ++ [s] } :: ds) := by
      simp only [enter, draftFor_self]
    have rest := ih { d with series := d.series ++ [s] }
    rw [List.map_cons, List.foldlM_cons, first, Option.bind_eq_bind, Option.bind_some, rest]
    simp

/-- The lines of a family of a new name leave its draft on top. -/
theorem foldlM_enter_said {f : Family} {ds : List Draft} (new : ∀ d ∈ ds, d.name ≠ f.name) :
    (said f).foldlM enter ds = some (drafted f :: ds) := by
  have told : (if f.help = [] then [] else [Line.help f.name f.help]).foldlM enter ds =
      some (if f.help = [] then ds else ⟨f.name, some f.help, none, []⟩ :: ds) := by
    split
    · rfl
    · rw [List.foldlM_cons, enter, draftFor_new new]
      rfl
  let typed : Draft := { drafted f with series := [] }
  have kind : enter (if f.help = [] then ds else ⟨f.name, some f.help, none, []⟩ :: ds)
      (.kind f.name f.kind) = some (typed :: ds) := by
    have top := draftFor_self ⟨f.name, some f.help, none, []⟩ ds
    unfold typed drafted
    by_cases h : f.help = []
    · simp only [enter, if_pos h, draftFor_new new, and_self, if_true]
    · simp only [enter, if_neg h, top, and_self, if_true]
  have series := foldlM_enter_series typed ds f.series
  rw [said, List.foldlM_append, told, Option.bind_eq_bind, Option.bind_some, List.foldlM_cons, kind,
    Option.bind_eq_bind, Option.bind_some]
  exact series

/-- The lines of families of different names leave their drafts, the last on top. -/
theorem foldlM_enter_families {fs : List Family} {ds : List Draft}
    (apart : (fs.map Family.name).Nodup) (new : ∀ f ∈ fs, ∀ d ∈ ds, d.name ≠ f.name) :
    (fs.flatMap said).foldlM enter ds = some ((fs.map drafted).reverse ++ ds) := by
  -- The drafts so far are generalised: what is asked of them is only that no family to come is theirs.
  induction fs generalizing ds with
  | nil => rfl
  | cons f fs ih =>
    obtain ⟨others, apart⟩ := List.nodup_cons.1 apart
    have first := foldlM_enter_said (new f List.mem_cons_self)
    have still : ∀ g ∈ fs, ∀ d ∈ drafted f :: ds, d.name ≠ g.name := by
      intro g hg d hd
      rcases List.mem_cons.1 hd with rfl | hd
      · intro same
        exact others (List.mem_map.2 ⟨g, hg, same.symm⟩)
      · exact new g (List.mem_cons_of_mem f hg) d hd
    rw [List.flatMap_cons, List.foldlM_append, first, Option.bind_eq_bind, Option.bind_some,
      ih apart still]
    simp

/-- What is read back item by item is read back as a list. -/
theorem mapM_eq_some {α β : Type} {f : α → Option β} {g : β → α} {l : List β}
    (h : ∀ b ∈ l, f (g b) = some b) : (l.map g).mapM f = some l := by
  induction l with
  | nil => rfl
  | cons b l ih =>
    rw [List.map_cons, List.mapM_cons, h b List.mem_cons_self,
      ih fun b' h' => h b' (List.mem_cons_of_mem b h')]
    rfl

section Families

variable {fs : List Family}

theorem flatMap_text (fs : List Family) :
    fs.flatMap Family.text = ((fs.flatMap said).map Line.text).flatMap Text.line := by
  have each : Family.text = fun f => ((said f).map Line.text).flatMap Text.line :=
    funext text_eq_said
  rw [each, List.map_flatMap, List.flatMap_assoc]

theorem readable_of_mem_said (h : ∀ f ∈ fs, Readable f) : ∀ l ∈ fs.flatMap said, l.Readable := by
  intro l hl
  obtain ⟨f, hf, hl⟩ := List.mem_flatMap.1 hl
  exact (h f hf).line l hl

theorem newline_not_mem_lines (h : ∀ f ∈ fs, Readable f) :
    ∀ t ∈ (fs.flatMap said).map Line.text, '\n' ∉ t := by
  intro t ht
  obtain ⟨l, hl, rfl⟩ := List.mem_map.1 ht
  exact newline_not_mem_text (readable_of_mem_said h l hl)

/-- The lines of families that can be read are found in their text. -/
theorem lines?_text (h : ∀ f ∈ fs, Readable f) :
    lines? (fs.flatMap Family.text) = some ((fs.flatMap said).map Line.text) := by
  rw [flatMap_text, lines?_flatMap_line (newline_not_mem_lines h)]

/-- Each of these lines is read back. -/
theorem mapM_readLine_text (h : ∀ f ∈ fs, Readable f) :
    ((fs.flatMap said).map Line.text).mapM readLine = some (fs.flatMap said) :=
  mapM_eq_some fun l hl => readLine_text (readable_of_mem_said h l hl)

/-- Families in print are read back as they are. -/
theorem read_text (h : ∀ f ∈ fs, Readable f) (apart : (fs.map Family.name).Nodup) :
    read (fs.flatMap Family.text) = some fs := by
  have drafts : (fs.flatMap said).foldlM enter [] = some (fs.map drafted).reverse := by
    rw [foldlM_enter_families apart fun _ _ d hd => absurd hd List.not_mem_nil, List.append_nil]
  have names : (((fs.map drafted).reverse).map Draft.name).Nodup := by
    rw [List.map_reverse, List.map_map]
    exact (List.reverse_perm _).nodup_iff.2 apart
  have families : (fs.map drafted).mapM Draft.family? = some fs :=
    mapM_eq_some fun f _ => family?_drafted f
  unfold read
  simp only [lines?_text h, mapM_readLine_text h, drafts, Option.bind_eq_bind, Option.bind_some,
    if_pos names, List.reverse_reverse, families]

end Families

end Reader

end CpuIdentity.Exposition
