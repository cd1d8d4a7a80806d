import CpuIdentity.CommandLine.Arguments
import Mathlib.Data.List.TakeWhile

/-!
# Reading a command line group by group

An option stands on a command line as a group: a switch alone, or a setting with its value, which is
attached to it or is the next argument. Reading a group is entering what it stands for, and then
reading the rest. A value of its own is entered later than it is read, but this can only change which
of several faults is reported, never a result and never a call for help.
-/

namespace CpuIdentity.Arguments

/-- What an option enters: a switch is turned on, or a setting is given a value. -/
inductive Entry where
  | on (s : Switch)
  | value (s : Setting) (given : Text)

/-- The option that makes an entry. -/
def Entry.option : Entry → Switch ⊕ Setting
  | .on s => .inl s
  | .value s _ => .inr s

/-- An option as it stands on a command line. -/
inductive Group where
  | switch (s : Switch)
  /-- The verbose switch by its letter. -/
  | letter
  /-- A setting with its value after an equals sign. -/
  | attached (s : Setting) (given : Text)
  /-- A setting with the next argument for its value. -/
  | separate (s : Setting) (given : Text)

namespace Group

/-- The arguments that a group is made of. -/
def args : Group → List Text
  | .switch s => ["--" ++ s.word]
  | .letter => ["-v"]
  | .attached s given => ["--" ++ s.word ++ "=" ++ given]
  | .separate s given => ["--" ++ s.word, given]

/-- What a group enters. -/
def entry : Group → Entry
  | .switch s => .on s
  | .letter => .on .verbose
  | .attached s given => .value s given
  | .separate s given => .value s given

end Group

/-- An argument that can be a value by itself: it does not start with a dash, or it is one dash. -/
def IsValue (arg : Text) : Prop := arg = "-" ∨ arg.head? ≠ some '-'

/-- A value that is the next argument must not look like an option; an attached one may. -/
def Group.Fits : Group → Prop
  | .separate _ given => IsValue given
  | _ => True

/-! ## Forms of arguments -/

section Forms

variable {arg word given letters : Text} {value : Option Text}

/-- Whatever can be a value is plain, and nothing else is. -/
theorem form_plain_iff : Form.of arg = .plain ↔ IsValue arg := by
  unfold Form.of IsValue
  split <;> simp_all [List.head?_eq_some_iff]

theorem eq_of_form_terminator (h : Form.of arg = .terminator) : arg = "--" := by
  unfold Form.of at h
  split at h <;> simp_all

theorem eq_of_form_short (h : Form.of arg = .short letters) : arg = '-' :: letters := by
  unfold Form.of at h
  split at h <;> simp_all

theorem ne_nil_of_form_short (h : Form.of arg = .short letters) : letters ≠ [] := by
  unfold Form.of at h
  split at h <;> simp_all

/-- What follows two dashes is a word, and a value if there is an equals sign. -/
theorem form_of_dashes {t : Text} (present : t ≠ []) :
    Form.of ("--" ++ t) = .long (t.takeWhile (· ≠ '='))
      (if '=' ∈ t then some ((t.dropWhile (· ≠ '=')).drop 1) else none) := by
  cases t with
  | nil => exact absurd rfl present
  | cons c t => rfl

/-- A word without an equals sign has no value attached. -/
theorem form_word (h : '=' ∉ word) (present : word ≠ []) :
    Form.of ("--" ++ word) = .long word none := by
  have whole : word.takeWhile (· ≠ '=') = word :=
    List.takeWhile_eq_self_iff.2 (Text.all_ne_of_not_mem h)
  rw [form_of_dashes present, whole, if_neg h]

/-- The first equals sign ends the word, and any other is part of the value. -/
theorem form_word_given (h : '=' ∉ word) :
    Form.of ("--" ++ word ++ "=" ++ given) = .long word (some given) := by
  have before := Text.all_ne_of_not_mem h
  have joined : ("--" ++ word ++ "=" ++ given : Text) = "--" ++ (word ++ '=' :: given) := by simp
  have inside : '=' ∈ word ++ '=' :: given := List.mem_append_right _ List.mem_cons_self
  rw [joined, form_of_dashes (List.ne_nil_of_mem inside), if_pos inside,
    List.takeWhile_append_of_pos before, List.dropWhile_append_of_pos before]
  simp

/-- An argument with two dashes is a word, or a word with a value. -/
theorem eq_of_form_long (h : Form.of arg = .long word value) :
    (value = none ∧ arg = "--" ++ word) ∨
      ∃ given, value = some given ∧ arg = "--" ++ word ++ "=" ++ given := by
  have dashes : ∃ t : Text, t ≠ [] ∧ arg = "--" ++ t := by
    unfold Form.of at h
    split at h
    case h_2 t other => exact ⟨t, fun nothing => other (by rw [nothing]), rfl⟩
    all_goals cases h
  obtain ⟨t, present, rfl⟩ := dashes
  by_cases inside : '=' ∈ t
  · obtain ⟨front, back, rfl, first⟩ := List.eq_append_cons_of_mem inside
    have joined : ("--" ++ (front ++ '=' :: back) : Text) = "--" ++ front ++ "=" ++ back := by simp
    rw [joined, form_word_given first] at h
    obtain ⟨rfl, rfl⟩ := Form.long.inj h
    exact .inr ⟨back, rfl, joined⟩
  · rw [form_word inside present] at h
    obtain ⟨rfl, rfl⟩ := Form.long.inj h
    exact .inl ⟨rfl, rfl⟩

end Forms

/-- The word of a switch names it. -/
theorem ofWord?_switch (s : Switch) : Named.ofWord? s.word = some (.switch s) := by
  cases s <;> rfl

/-- The word of a setting names it. -/
theorem ofWord?_setting (s : Setting) : Named.ofWord? s.word = some (.setting s) := by
  cases s <;> rfl

theorem equals_not_mem_switch (s : Switch) : '=' ∉ s.word := by
  cases s <;> decide

theorem equals_not_mem_setting (s : Setting) : '=' ∉ s.word := by
  cases s <;> decide

/-- The word that names an option. -/
def Named.word : Named → Text
  | .switch s => s.word
  | .setting s => s.word
  | .help => "help"

/-- An option is named by its own word only. -/
theorem word_of_ofWord? {word : Text} {option : Named} (h : Named.ofWord? word = some option) :
    word = option.word := by
  unfold Named.ofWord? at h
  split at h
  case isTrue help =>
    cases h
    exact help
  case isFalse =>
    split at h
    case h_1 s _ found =>
      cases h
      have same := List.find?_some found
      exact (of_decide_eq_true same).symm
    case h_2 s _ found =>
      cases h
      have same := List.find?_some found
      exact (of_decide_eq_true same).symm
    case h_3 => cases h

variable {d d' : Draft} {pending : Option Pending} {s : Setting} {given arg : Text}
  {args : List Text}

/-- Enters what a group stands for. -/
def enter (d : Draft) : Entry → Except Rejection Draft
  | .on s => enterSwitch d s
  | .value s given => enterSetting d s given

/-- Enters one thing after the other. -/
def enterAll (d : Draft) : List Entry → Except Rejection Draft
  | [] => .ok d
  | e :: es => enter d e >>= fun d => enterAll d es

/-- An outcome that reports a fault: it is no result and no call for help. -/
def Faulty {α : Type} (o : Except Rejection α) : Prop := ∃ r, o = .error r ∧ r ≠ .help

theorem faulty_error {α : Type} {r : Rejection} (h : r ≠ .help) :
    Faulty (.error r : Except Rejection α) := ⟨r, rfl, h⟩

/-- No entry asks for help. -/
theorem enter_ne_help (d : Draft) (e : Entry) : enter d e ≠ .error .help := by
  cases e with
  | on s => cases s <;> simp only [enter, enterSwitch] <;> split <;> simp
  | value s given =>
    cases s with
    | listen =>
      simp only [enter, enterSetting]
      split
      · simp
      · split <;> simp
    | lineage => simp only [enter, enterSetting]; split <;> simp
    | model => simp only [enter, enterSetting]; split <;> simp
    | scope => simp only [enter, enterSetting]; split <;> simp

theorem ne_help_of_enter {e : Entry} {r : Rejection} (h : enter d e = .error r) : r ≠ .help := by
  rintro rfl
  exact enter_ne_help d e h

/-- Entries never ask for help, however many there are. -/
theorem enterAll_ne_help (d : Draft) (es : List Entry) : enterAll d es ≠ .error .help := by
  induction es generalizing d with
  | nil => nofun
  | cons e es ih =>
    rw [enterAll]
    cases entered : enter d e with
    | ok d => exact ih d
    | error r =>
      intro help
      exact ne_help_of_enter entered (Except.error.inj help)

/-- An argument that begins with two dashes is read as a word, and reading goes on. -/
theorem read_of_long {word : Text} {value : Option Text} (form : Form.of arg = .long word value) :
    read d pending (arg :: args) = readLong d pending word value >>= fun r => read r.1 r.2 args := by
  simp only [read, form]
  cases readLong d pending word value <;> rfl

/-- An argument that begins with one dash is read letter by letter, and reading goes on. -/
theorem read_of_short {letters : Text} (form : Form.of arg = .short letters) :
    read d pending (arg :: args) =
      readLetters d pending letters >>= fun d => read d none args := by
  simp only [read, form]
  cases readLetters d pending letters <;> rfl

/-- A plain argument is the value of the setting that waits for one. -/
theorem read_of_plain (form : Form.of arg = .plain) :
    read d (some ⟨s, none⟩) (arg :: args) = read d (some ⟨s, some arg⟩) args := by
  simp only [read, form]

/-- What ends with a fault other than help ends so whatever would follow. -/
theorem faulty_bind {α β : Type} {x : Except Rejection α} (h : Faulty x)
    (f : α → Except Rejection β) : Faulty (x >>= f) := by
  obtain ⟨r, rfl, other⟩ := h
  exact faulty_error other

/-! ## Entering early or late -/

section Late

variable {r : Rejection}

/-- A word is read after the pending setting has been settled. -/
theorem readLong_of_settle (h : settle d pending = .ok d') (word : Text) (value : Option Text) :
    readLong d pending word value = readLong d' none word value := by
  unfold readLong
  rw [h]
  rfl

/-- Letters are read after the pending setting has been settled. -/
theorem readLetters_of_settle (h : settle d pending = .ok d') (letters : Text) :
    readLetters d pending letters = readLetters d' none letters := by
  cases letters with
  | nil => exact h
  | cons c letters =>
    unfold readLetters
    rw [h]
    rfl

/-- A setting that cannot be settled is a fault, whatever word comes next. -/
theorem faulty_readLong (h : settle d pending = .error r) (other : r ≠ .help) (word : Text)
    (value : Option Text) : Faulty (readLong d pending word value) := by
  unfold readLong
  rw [h]
  cases Named.ofWord? word with
  | none => exact faulty_error nofun
  | some option =>
    cases option with
    | help =>
      cases value with
      | none => exact faulty_error other
      | some value => exact faulty_error nofun
    | switch s =>
      cases value with
      | none => exact faulty_error other
      | some value => exact faulty_error nofun
    | setting s =>
      cases value with
      | none => exact faulty_error other
      | some value => exact faulty_error other

/-- A setting that cannot be settled is a fault, whatever letters come next. -/
theorem faulty_readLetters (h : settle d pending = .error r) (other : r ≠ .help) (letters : Text) :
    Faulty (readLetters d pending letters) := by
  unfold readLetters
  rw [h]
  cases letters with
  | nil => exact faulty_error other
  | cons c letters =>
    by_cases known : isLetter c = true
    · simp only [if_pos known]
      exact faulty_error other
    · simp only [if_neg known]
      exact faulty_error nofun

/-- What can be entered may as well be entered at once. -/
theorem read_of_settle (h : settle d pending = .ok d') (args : List Text) :
    read d pending args = read d' none args := by
  cases args with
  | nil => exact h
  | cons arg args =>
    cases form : Form.of arg with
    | terminator =>
      simp only [read, form]
      cases args with
      | nil => exact h
      | cons next args => rfl
    | long word value => rw [read_of_long form, read_of_long form, readLong_of_settle h]
    | short letters => rw [read_of_short form, read_of_short form, readLetters_of_settle h]
    | plain =>
      simp only [read, form]
      rcases pending with _ | ⟨s, _ | given⟩
      · rfl
      · cases h
      · rfl

/-- What cannot be entered is a fault, unless a value for it comes next. -/
theorem faulty_read (h : settle d pending = .error r) (other : r ≠ .help)
    (next : ∀ s, pending = some ⟨s, none⟩ → ∀ arg, args.head? = some arg → ¬IsValue arg) :
    Faulty (read d pending args) := by
  cases args with
  | nil =>
    rw [read, h]
    exact faulty_error other
  | cons arg args =>
    cases form : Form.of arg with
    | terminator =>
      simp only [read, form]
      cases args with
      | nil =>
        rw [h]
        exact faulty_error other
      | cons next args => exact faulty_error nofun
    | long word value =>
      rw [read_of_long form]
      exact faulty_bind (faulty_readLong h other word value) _
    | short letters =>
      rw [read_of_short form]
      exact faulty_bind (faulty_readLetters h other letters) _
    | plain =>
      simp only [read, form]
      rcases pending with _ | ⟨s, _ | given⟩
      · cases h
      · exact absurd (form_plain_iff.1 form) (next s rfl arg rfl)
      · exact faulty_error nofun

end Late

/-- Two outcomes that are the same, or differ in the fault that they report. -/
def Agree {α : Type} (o o' : Except Rejection α) : Prop := o = o' ∨ Faulty o ∧ Faulty o'

/-- The word of a setting makes it wait for its value. -/
theorem read_word (s : Setting) :
    read d none (("--" ++ s.word) :: args) = read d (some ⟨s, none⟩) args := by
  have form : Form.of ("--" ++ s.word) = .long s.word none :=
    form_word (equals_not_mem_setting s) (by cases s <;> decide)
  rw [read_of_long form]
  unfold readLong
  rw [ofWord?_setting]
  rfl

theorem readLetters_verbose (d : Draft) (more : Text) :
    readLetters d none ('v' :: more) = enterSwitch d .verbose >>= fun d => enterLetters d more := by
  have entered : readLetters d none ('v' :: more) = enterLetters d ('v' :: more) := rfl
  rw [entered, enterLetters, if_pos rfl]
  cases enterSwitch d .verbose <;> rfl

/-- Reading a group is entering it and reading the rest. -/
theorem read_group {g : Group} (fits : g.Fits) (d : Draft) (args : List Text) :
    Agree (read d none (g.args ++ args)) (enter d g.entry >>= fun d => read d none args) := by
  cases g with
  | switch s =>
    left
    have form : Form.of ("--" ++ s.word) = .long s.word none :=
      form_word (equals_not_mem_switch s) (by cases s <;> decide)
    have entered : readLong d none s.word none = (enterSwitch d s).map (·, none) := by
      unfold readLong
      rw [ofWord?_switch]
      rfl
    show read d none (("--" ++ s.word) :: args) = _
    rw [read_of_long form, entered, Group.entry, enter]
    cases enterSwitch d s <;> rfl
  | letter =>
    left
    have form : Form.of "-v" = .short "v" := rfl
    show read d none ("-v" :: args) = _
    have entered : readLetters d none "v" = _ := readLetters_verbose d []
    rw [read_of_short form, entered, Group.entry, enter]
    cases enterSwitch d .verbose <;> rfl
  | attached s given =>
    left
    have form : Form.of ("--" ++ s.word ++ "=" ++ given) = .long s.word (some given) :=
      form_word_given (equals_not_mem_setting s)
    have entered : readLong d none s.word (some given) =
        (enterSetting d s given).map (·, none) := by
      unfold readLong
      rw [ofWord?_setting]
      rfl
    show read d none (("--" ++ s.word ++ "=" ++ given) :: args) = _
    rw [read_of_long form, entered, Group.entry, enter]
    cases enterSetting d s given <;> rfl
  | separate s given =>
    have opened : read d none ((Group.separate s given).args ++ args) =
        read d (some ⟨s, some given⟩) args :=
      (read_word s).trans (read_of_plain (form_plain_iff.2 fits))
    have settled : settle d (some ⟨s, some given⟩) = enter d (.value s given) := rfl
    rw [opened, Group.entry]
    cases entered : enter d (.value s given) with
    | ok d' => exact .inl (read_of_settle (settled.trans entered) args)
    | error r =>
      have other := ne_help_of_enter entered
      exact .inr ⟨faulty_read (settled.trans entered) other nofun, faulty_error other⟩

/-! ## Reading groups -/

section Agreement

variable {α β : Type} {o o' o'' : Except Rejection α}

theorem not_faulty_ok (a : α) : ¬Faulty (Except.ok a : Except Rejection α) := by
  rintro ⟨r, ⟨⟩, -⟩

theorem not_faulty_help : ¬Faulty (Except.error .help : Except Rejection α) := by
  rintro ⟨r, same, other⟩
  exact other (Except.error.inj same).symm

/-- Outcomes that agree with a third one in turn agree. -/
theorem Agree.trans (h : Agree o o') (h' : Agree o' o'') : Agree o o'' := by
  rcases h with rfl | ⟨fault, fault'⟩
  · exact h'
  · rcases h' with rfl | ⟨-, fault''⟩
    · exact .inr ⟨fault, fault'⟩
    · exact .inr ⟨fault, fault''⟩

/-- Outcomes agree if all that can follow the same beginning agrees. -/
theorem Agree.bind (x : Except Rejection β) {f f' : β → Except Rejection α}
    (h : ∀ b, Agree (f b) (f' b)) : Agree (x >>= f) (x >>= f') := by
  cases x with
  | ok b => exact h b
  | error r => exact .inl rfl

/-- Outcomes that agree are the same unless one of them is a fault. -/
theorem Agree.eq_iff (h : Agree o o') (sound : ¬Faulty o'') : o = o'' ↔ o' = o'' := by
  rcases h with rfl | ⟨fault, fault'⟩
  · exact Iff.rfl
  · constructor
    · rintro rfl
      exact absurd fault sound
    · rintro rfl
      exact absurd fault' sound

end Agreement

/-- Reading groups is entering them one after the other and reading the rest. -/
theorem read_groups {gs : List Group} (fit : ∀ g ∈ gs, g.Fits) (d : Draft) (args : List Text) :
    Agree (read d none (gs.flatMap Group.args ++ args))
      (enterAll d (gs.map Group.entry) >>= fun d => read d none args) := by
  induction gs generalizing d with
  | nil => exact .inl rfl
  | cons g gs ih =>
    obtain ⟨first, rest⟩ := List.forall_mem_cons.1 fit
    rw [List.flatMap_cons, List.append_assoc, List.map_cons, enterAll]
    refine (read_group first d _).trans ?_
    rw [bind_assoc]
    exact Agree.bind _ fun d => ih rest d

/-- An argument that calls for help: the word, or a letter for it before any letter that is none and
    before the verbose switch is repeated. -/
def CallsHelp (verbose : Prop) (arg : Text) : Prop :=
  arg = "--help" ∨ "-h" <+: arg ∨ "-vh" <+: arg ∧ ¬verbose

/-- An argument that calls for help gets it, whatever follows. -/
theorem read_of_callsHelp (h : CallsHelp (d.verbose = true) arg) (args : List Text) :
    read d none (arg :: args) = .error .help := by
  rcases h with rfl | ⟨more, rfl⟩ | ⟨⟨more, rfl⟩, quiet⟩
  · have form : Form.of "--help" = .long "help" none := rfl
    rw [read_of_long form]
    rfl
  · have form : Form.of ("-h" ++ more) = .short ("h" ++ more) := rfl
    rw [read_of_short form]
    rfl
  · have form : Form.of ("-vh" ++ more) = .short ("vh" ++ more) := rfl
    have entered : readLetters d none ("vh" ++ more) = _ := readLetters_verbose d ("h" ++ more)
    rw [read_of_short form, entered, enterSwitch, if_neg quiet]
    rfl

/-- What stands in front of a command line that is read without a fault. -/
inductive Front (d : Draft) : List Text → Prop where
  | nothing : Front d []
  | terminator : Front d ["--"]
  | group {g : Group} (fits : g.Fits) (rest : List Text) : Front d (g.args ++ rest)
  | help {arg : Text} (calls : CallsHelp (d.verbose = true) arg) (rest : List Text) :
      Front d (arg :: rest)

theorem front_of_word {word : Text} {value : Option Text}
    (sound : ¬Faulty (readLong d none word value >>= fun r => read r.1 r.2 args))
    (spelled : (value = none ∧ arg = "--" ++ word) ∨
      ∃ given, value = some given ∧ arg = "--" ++ word ++ "=" ++ given) :
    Front d (arg :: args) := by
  unfold readLong at sound
  cases named : Named.ofWord? word with
  | none =>
    rw [named] at sound
    exact (sound (faulty_error nofun)).elim
  | some option =>
    rw [named] at sound
    obtain rfl := word_of_ofWord? named
    rcases spelled with ⟨rfl, rfl⟩ | ⟨given, rfl, rfl⟩
    · cases option with
      | help => exact .help (.inl rfl) args
      | switch s => exact .group (g := .switch s) trivial args
      | setting s =>
        have opened : ¬Faulty (read d (some ⟨s, none⟩) args) := sound
        -- The setting is open, so a value has to come next.
        cases args with
        | nil => exact (opened (faulty_error nofun)).elim
        | cons next args =>
          by_cases value : IsValue next
          · exact .group (g := .separate s next) value args
          · refine absurd (faulty_read (r := .missingValue s) rfl nofun ?_) opened
            rintro s' - arg ⟨⟩
            exact value
    · cases option with
      | help => exact (sound (faulty_error nofun)).elim
      | switch s => exact (sound (faulty_error nofun)).elim
      | setting s => exact .group (g := .attached s given) trivial args

/-- After the verbose switch only a call for help may come. -/
theorem help_of_letters (on : d.verbose = true) {letters : Text} (present : letters ≠ [])
    (sound : ¬Faulty (enterLetters d letters)) : "h" <+: letters := by
  cases letters with
  | nil => exact absurd rfl present
  | cons c more =>
    unfold enterLetters at sound
    by_cases verbose : c = 'v'
    · rw [if_pos verbose, enterSwitch, if_pos on] at sound
      exact (sound (faulty_error nofun)).elim
    · rw [if_neg verbose] at sound
      by_cases help : c = 'h'
      · rw [help]
        exact List.prefix_append "h" more
      · rw [if_neg help] at sound
        exact (sound (faulty_error nofun)).elim

theorem front_of_letters {letters : Text} (present : letters ≠ [])
    (sound : ¬Faulty (readLetters d none letters)) (args : List Text) :
    Front d (('-' :: letters) :: args) := by
  cases letters with
  | nil => exact absurd rfl present
  | cons c more =>
    by_cases verbose : c = 'v'
    · subst verbose
      rw [readLetters_verbose] at sound
      by_cases on : d.verbose = true
      · rw [enterSwitch, if_pos on] at sound
        exact (sound (faulty_error nofun)).elim
      · rw [enterSwitch, if_neg on] at sound
        by_cases alone : more = []
        · rw [alone]
          exact .group (g := .letter) trivial args
        · obtain ⟨rest, rfl⟩ := help_of_letters rfl alone sound
          exact .help (.inr (.inr ⟨⟨rest, rfl⟩, on⟩)) args
    · by_cases help : c = 'h'
      · subst help
        exact .help (.inr (.inl ⟨more, rfl⟩)) args
      · have unknown : ¬isLetter c = true := by simp [isLetter, verbose, help]
        unfold readLetters at sound
        simp only [if_neg unknown] at sound
        exact (sound (faulty_error nofun)).elim

/-- A reading without a fault begins with a front: nothing, two dashes alone, a group or a call for
    help. -/
theorem front_of_read (sound : ¬Faulty (read d none args)) : Front d args := by
  cases args with
  | nil => exact .nothing
  | cons arg args =>
    cases form : Form.of arg with
    | terminator =>
      obtain rfl := eq_of_form_terminator form
      simp only [read, form] at sound
      cases args with
      | nil => exact .terminator
      | cons next args => exact (sound (faulty_error nofun)).elim
    | long word value =>
      rw [read_of_long form] at sound
      exact front_of_word sound (eq_of_form_long form)
    | short letters =>
      rw [read_of_short form] at sound
      obtain rfl := eq_of_form_short form
      have letters := fun fault => sound (faulty_bind fault _)
      exact front_of_letters (ne_nil_of_form_short form) letters args
    | plain =>
      simp only [read, form] at sound
      exact (sound (faulty_error nofun)).elim

/-- Groups spell a command line: it is their arguments one after the other, and two dashes alone may
    stand at its end. -/
structure Spells (gs : List Group) (args : List Text) : Prop where
  fit : ∀ g ∈ gs, g.Fits
  parts : args = gs.flatMap Group.args ∨ args = gs.flatMap Group.args ++ [("--" : Text)]

/-- Reading the arguments of groups agrees with entering the groups one after the other. -/
theorem agree_read {gs : List Group} (h : Spells gs args) (d : Draft) :
    Agree (read d none args) (enterAll d (gs.map Group.entry)) := by
  have ended (tail : List Text) (finish : ∀ d, read d none tail = .ok d) :
      Agree (read d none (gs.flatMap Group.args ++ tail)) (enterAll d (gs.map Group.entry)) := by
    have agree := read_groups h.fit d tail
    have same : (enterAll d (gs.map Group.entry) >>= fun d => read d none tail) =
        enterAll d (gs.map Group.entry) := by
      simp only [finish]
      exact bind_pure _
    rwa [same] at agree
  rcases h.parts with rfl | rfl
  · have alone := ended [] fun _ => rfl
    rwa [List.append_nil] at alone
  · exact ended ["--"] fun _ => rfl

/-- A command line that is read without a fault is spelled by groups, or calls for help after some. -/
theorem spells_of_read (sound : ¬Faulty (read d none args)) :
    (∃ gs, Spells gs args) ∨
    ∃ (gs : List Group) (d' : Draft) (arg : Text) (rest : List Text), (∀ g ∈ gs, g.Fits) ∧
      enterAll d (gs.map Group.entry) = .ok d' ∧
      args = gs.flatMap Group.args ++ arg :: rest ∧ CallsHelp (d'.verbose = true) arg := by
  -- Each group takes an argument or two off the front, so the induction is on the length.
  induction size : args.length using Nat.strongRecOn generalizing d args with
  | ind n ih =>
    cases front_of_read sound with
    | nothing => exact .inl ⟨[], nofun, .inl rfl⟩
    | terminator => exact .inl ⟨[], nofun, .inr rfl⟩
    | @help arg calls rest => exact .inr ⟨[], d, arg, rest, nofun, rfl, rfl, calls⟩
    | @group g fits rest =>
      have shorter : rest.length < n := by
        have present : 0 < g.args.length := by cases g <;> exact Nat.succ_pos _
        rw [List.length_append] at size
        omega
      have whole := read_group fits d rest
      have sound' : ¬Faulty (enter d g.entry >>= fun d => read d none rest) := by
        rcases whole with same | ⟨fault, -⟩
        · rwa [same] at sound
        · exact absurd fault sound
      cases entered : enter d g.entry with
      | error r =>
        rw [entered] at sound'
        exact (sound' (faulty_error (ne_help_of_enter entered))).elim
      | ok d₁ =>
        rw [entered] at sound'
        rcases ih rest.length shorter sound' rfl with
          ⟨gs, fit, parts⟩ | ⟨gs, d', arg, more, fit, all, parts, calls⟩
        · refine .inl ⟨g :: gs, List.forall_mem_cons.2 ⟨fits, fit⟩, ?_⟩
          rw [List.flatMap_cons, List.append_assoc]
          exact parts.imp (congrArg (g.args ++ ·)) (congrArg (g.args ++ ·))
        · refine .inr ⟨g :: gs, d', arg, more, List.forall_mem_cons.2 ⟨fits, fit⟩, ?_, ?_, calls⟩
          · rw [List.map_cons, enterAll, entered]
            exact all
          · rw [List.flatMap_cons, List.append_assoc, parts]

/-- Help is reached exactly after groups that could all be entered. -/
theorem read_eq_help_iff : read d none args = .error .help ↔
    ∃ (gs : List Group) (d' : Draft) (arg : Text) (rest : List Text), (∀ g ∈ gs, g.Fits) ∧
      enterAll d (gs.map Group.entry) = .ok d' ∧
      args = gs.flatMap Group.args ++ arg :: rest ∧ CallsHelp (d'.verbose = true) arg := by
  constructor
  · intro help
    have sound : ¬Faulty (read d none args) := by
      rw [help]
      exact not_faulty_help
    refine (spells_of_read sound).resolve_left ?_
    rintro ⟨gs, spells⟩
    have entered := ((agree_read spells d).eq_iff not_faulty_help).1 help
    exact enterAll_ne_help _ _ entered
  · rintro ⟨gs, d', arg, rest, fit, entered, rfl, calls⟩
    have agree := read_groups fit d (arg :: rest)
    rw [entered] at agree
    exact (agree.eq_iff not_faulty_help).2 (read_of_callsHelp calls rest)

end CpuIdentity.Arguments
