import CpuIdentity.CommandLine.Arguments

/-!
# The verbose switch on the command line

No option looks at the verbose switch but the switch itself. So a command line that does not enter it
can be preceded by it, and then means the same and is verbose.
-/

namespace CpuIdentity.Arguments

/-- The draft with the verbose switch entered. -/
def Draft.loud (d : Draft) : Draft := { d with verbose := true }

/-- A step of reading that leaves the verbose switch alone: if the switch is not entered after it, it
    was not before, and entering it before changes nothing else. -/
def Ignores (f : Draft → Except Rejection Draft) : Prop :=
  ∀ d d', f d = .ok d' → d'.verbose = false → d.verbose = false ∧ f d.loud = .ok d'.loud

theorem ignores_ok : Ignores .ok := by
  intro d d' h quiet
  cases h
  exact ⟨quiet, rfl⟩

/-- Two steps that ignore the switch ignore it one after the other. -/
theorem Ignores.bind {f g : Draft → Except Rejection Draft} (hf : Ignores f) (hg : Ignores g) :
    Ignores fun d => match f d with
      | .ok d => g d
      | .error r => .error r := by
  intro d d' h quiet
  dsimp only at h ⊢
  cases first : f d with
  | error r =>
    rw [first] at h
    cases h
  | ok d₁ =>
    rw [first] at h
    obtain ⟨quiet₁, second⟩ := hg d₁ d' h quiet
    obtain ⟨quiet₀, first'⟩ := hf d d₁ first quiet₁
    rw [first']
    exact ⟨quiet₀, second⟩

theorem Ignores.map {f : Draft → Except Rejection Draft} (hf : Ignores f) {β : Type} {b b' : β}
    {d d' : Draft} (h : (f d).map (·, b) = .ok (d', b')) (quiet : d'.verbose = false) :
    d.verbose = false ∧ (f d.loud).map (·, b) = .ok (d'.loud, b') := by
  cases result : f d with
  | error r =>
    rw [result] at h
    cases h
  | ok d₁ =>
    rw [result] at h
    cases h
    obtain ⟨before, result'⟩ := hf d d' result quiet
    rw [result']
    exact ⟨before, rfl⟩

theorem ignores_enterSwitch (s : Switch) : Ignores fun d => enterSwitch d s := by
  intro d d' h quiet
  cases s <;> simp only [enterSwitch] at h ⊢ <;> split at h <;> cases h
  case list.isFalse off => exact ⟨quiet, if_neg off⟩
  case metrics.isFalse off => exact ⟨quiet, if_neg off⟩
  -- The switch itself cannot be entered and not be.
  case verbose.isFalse => cases quiet

theorem ignores_enterSetting (s : Setting) (value : Text) :
    Ignores fun d => enterSetting d s value := by
  intro d d' h quiet
  cases s <;> simp only [enterSetting] at h ⊢ <;> split at h
  case lineage.isFalse off => cases h; exact ⟨quiet, if_neg off⟩
  case model.isFalse off => cases h; exact ⟨quiet, if_neg off⟩
  case scope.isFalse off => cases h; exact ⟨quiet, if_neg off⟩
  case listen.isFalse off =>
    cases address : SocketAddress.ofText? value with
    | none =>
      rw [address] at h
      cases h
    | some x =>
      rw [address] at h
      cases h
      exact ⟨quiet, if_neg off⟩
  all_goals cases h

/-- A pending setting is settled alike, with the switch or without. -/
theorem ignores_settle (pending : Option Pending) : Ignores fun d => settle d pending := by
  intro d d' h quiet
  match pending with
  | none =>
    cases h
    exact ⟨quiet, rfl⟩
  | some ⟨s, none⟩ => cases h
  | some ⟨s, some value⟩ => exact ignores_enterSetting s value d d' h quiet

theorem ignores_enterLetters (letters : Text) : Ignores fun d => enterLetters d letters := by
  induction letters with
  | nil =>
    intro d d' h quiet
    cases h
    exact ⟨quiet, rfl⟩
  | cons c cs ih =>
    intro d d' h quiet
    simp only [enterLetters] at h ⊢
    by_cases verbose : c = 'v'
    · rw [if_pos verbose] at h ⊢
      exact (ignores_enterSwitch .verbose).bind ih d d' h quiet
    · rw [if_neg verbose] at h
      split at h <;> cases h

/-- Letters are read alike, with the switch or without. -/
theorem ignores_readLetters (pending : Option Pending) (letters : Text) :
    Ignores fun d => readLetters d pending letters := by
  intro d d' h quiet
  cases letters with
  | nil => exact ignores_settle pending d d' h quiet
  | cons c cs =>
    simp only [readLetters] at h ⊢
    by_cases known : isLetter c = true
    · rw [if_pos known] at h ⊢
      exact (ignores_settle pending).bind (ignores_enterLetters (c :: cs)) d d' h quiet
    · rw [if_neg known] at h
      cases h

/-- An option with two dashes is entered after the open setting, and may leave a setting open. -/
theorem Ignores.afterSettling {f : Draft → Except Rejection Draft} (hf : Ignores f)
    {pending p p' : Option Pending} {d d' : Draft}
    (h : (match settle d pending with
      | .error r => Except.error r
      | .ok d => (f d).map (·, p)) = .ok (d', p')) (quiet : d'.verbose = false) :
    d.verbose = false ∧ (match settle d.loud pending with
      | .error r => Except.error r
      | .ok d => (f d).map (·, p)) = .ok (d'.loud, p') := by
  cases settled : settle d pending with
  | error r =>
    rw [settled] at h
    cases h
  | ok d₁ =>
    rw [settled] at h
    obtain ⟨quiet₁, entered⟩ := hf.map h quiet
    obtain ⟨quiet₀, settled'⟩ := ignores_settle pending d d₁ settled quiet₁
    dsimp only at settled'
    rw [settled']
    exact ⟨quiet₀, entered⟩

/-- A word is read alike, with the switch or without. -/
theorem readLong_loud {d d' : Draft} {pending pending' : Option Pending} {word : Text}
    {value : Option Text} (h : readLong d pending word value = .ok (d', pending'))
    (quiet : d'.verbose = false) :
    d.verbose = false ∧ readLong d.loud pending word value = .ok (d'.loud, pending') := by
  unfold readLong at h ⊢
  cases named : Named.ofWord? word with
  | none =>
    rw [named] at h
    cases h
  | some option =>
    rw [named] at h
    match option, value with
    | .help, none =>
      simp only at h
      split at h <;> cases h
    | .help, some value => cases h
    | .switch s, none => exact (ignores_enterSwitch s).afterSettling h quiet
    | .switch s, some value => cases h
    | .setting s, none => exact ignores_ok.afterSettling h quiet
    | .setting s, some value => exact (ignores_enterSetting s value).afterSettling h quiet

/-- All arguments are read alike, with the switch or without. -/
theorem ignores_read (args : List Text) (pending : Option Pending) :
    Ignores fun d => read d pending args := by
  induction args generalizing pending with
  | nil => exact ignores_settle pending
  | cons arg args ih =>
    intro d d' h quiet
    simp only [read] at h ⊢
    cases form : Form.of arg with
    | terminator =>
      rw [form] at h
      cases args with
      | nil => exact ignores_settle pending d d' h quiet
      | cons next _ => cases h
    | long word value =>
      rw [form] at h
      simp only at h ⊢
      cases first : readLong d pending word value with
      | error r =>
        rw [first] at h
        cases h
      | ok result =>
        rw [first] at h
        obtain ⟨quiet₁, second⟩ := ih result.2 result.1 d' h quiet
        obtain ⟨quiet₀, first'⟩ := readLong_loud first quiet₁
        rw [first']
        exact ⟨quiet₀, second⟩
    | short letters =>
      rw [form] at h
      exact (ignores_readLetters pending letters).bind (ih none) d d' h quiet
    | plain =>
      rw [form] at h
      match pending with
      | none => cases h
      | some ⟨s, none⟩ => exact ih (some ⟨s, some arg⟩) d d' h quiet
      | some ⟨s, some _⟩ => cases h

/-- A command line that is not verbose may be preceded by the verbose switch, and is then the same but
    for this. -/
theorem parse_verbose {args : List Text} {a : Arguments} (parsed : parse args = .ok a)
    (quiet : a.verbose = false) : parse ("-v" :: args) = .ok { a with verbose := true } := by
  unfold parse at parsed ⊢
  cases result : read {} none args with
  | error r =>
    rw [result] at parsed
    cases parsed
  | ok d =>
    rw [result] at parsed
    have finished : a.verbose = d.verbose ∧ finish d.loud = .ok { a with verbose := true } := by
      simp only [finish] at parsed ⊢
      split at parsed
      case isTrue => cases parsed
      case isFalse fits =>
        cases parsed
        exact ⟨rfl, if_neg fits⟩
    have loudly : read {} none ("-v" :: args) = .ok d.loud :=
      (ignores_read args none {} d result (finished.1 ▸ quiet)).2
    rw [loudly]
    exact finished.2

end CpuIdentity.Arguments
