import CpuIdentity.Proofs.Build.Branch

/-!
# Reading a version text

The full text of a version tells apart all that a version shows. The number ends where the first space
after it is, the position is what follows, and its last at sign stands between the branch and the
commit. So the branch may have anything in it: at signs, brackets, or what looks like another
position.
-/

namespace CpuIdentity

namespace Version

/-- What a version shows of itself. -/
structure Fields where
  number : Text
  branch : Text
  commit : Text
  hasPosition : Bool
  deriving DecidableEq, Repr

def fields (v : Version) : Fields := ⟨shown v.number, shown v.branch, shown v.commit, v.hasPosition⟩

/-- What stands before the last occurrence of a character and what follows it, if it occurs. -/
def splitLast? (c : Char) (t : Text) : Option (Text × Text) :=
  match t.reverse.dropWhile (· ≠ c) with
  | [] => none
  | _ :: front => some (front.reverse, (t.reverse.takeWhile (· ≠ c)).reverse)

/-- The branch and the commit in a position, with the space before it. -/
def readPosition? (t : Text) : Option (Text × Text) :=
  (Text.dropLead? " (git: " t).bind fun inner =>
    if inner.getLast? = some ')' then splitLast? '@' inner.dropLast else none

/-- What a full version text tells of the version. -/
def readFull? (t : Text) : Option Fields :=
  (Text.dropLead? "powertelemetry " t).bind fun told =>
    match told.dropWhile (· ≠ ' ') with
    | [] => some ⟨told, unknown, unknown, false⟩
    | rest => (readPosition? rest).map fun position =>
        ⟨told.takeWhile (· ≠ ' '), position.1, position.2, true⟩

/-- What follows the last separator is split off. -/
theorem splitLast?_append {c : Char} {back : Text} (h : c ∉ back) (front : Text) :
    splitLast? c (front ++ c :: back) = some (front, back) := by
  have plain := Text.all_ne_of_not_mem (mt List.mem_reverse.1 h)
  have turned : (front ++ c :: back).reverse = back.reverse ++ c :: front.reverse := by simp
  unfold splitLast?
  rw [turned, List.dropWhile_append_of_pos plain, List.takeWhile_append_of_pos plain]
  simp

/-- A position is read back if its commit has no separator in it. -/
theorem readPosition?_position {commit : Text} (h : '@' ∉ commit) (branch : Text) :
    readPosition? (" (git: " ++ branch ++ "@" ++ commit ++ ")") = some (branch, commit) := by
  have grouped (lead : Text) : lead ++ branch ++ "@" ++ commit ++ ")" =
      lead ++ ((branch ++ '@' :: commit) ++ [')']) := by
    simp
  unfold readPosition?
  rw [grouped, Text.dropLead?_append, Option.bind_some, List.getLast?_concat, if_pos rfl,
    List.dropLast_concat]
  exact splitLast?_append h branch

/-- The number is read up to the end or to the space that the rest begins with. -/
theorem readFull?_append {number : Text} (h : ' ' ∉ number) {rest : Text}
    (ends : ∀ c ∈ rest.head?, c = ' ') :
    readFull? ("powertelemetry " ++ (number ++ rest)) =
      if rest = [] then some ⟨number, unknown, unknown, false⟩
      else (readPosition? rest).map fun position => ⟨number, position.1, position.2, true⟩ := by
  have plain := Text.all_ne_of_not_mem h
  unfold readFull?
  rw [Text.dropLead?_append, Option.bind_some, List.dropWhile_append_of_pos plain,
    List.takeWhile_append_of_pos plain]
  cases rest with
  | nil =>
    rw [List.append_nil, if_pos rfl]
    rfl
  | cons c rest =>
    have same : c = ' ' := ends c rfl
    subst same
    have stops : (' ' :: rest).dropWhile (· ≠ ' ') = ' ' :: rest := rfl
    have before : number ++ (' ' :: rest).takeWhile (· ≠ ' ') = number := List.append_nil number
    rw [stops, before, if_neg (List.cons_ne_nil _ _)]

theorem not_mem_shown {c : Char} {field : Text} (h : c ∉ field) (other : c ∉ unknown) :
    c ∉ shown field := by
  unfold shown
  by_cases empty : field = []
  · rw [if_pos empty]
    exact other
  · rw [if_neg empty]
    exact h

/-- A build has no position exactly if it has neither a commit nor a branch. -/
theorem hasPosition_iff (number branch commit : Text) :
    (ofBuild number branch commit).hasPosition = true ↔ ¬(commit = [] ∧ NamesNone branch) := by
  by_cases none : NamesNone branch
  · rw [hasPosition_of_namesNone none]
    exact not_congr (and_iff_left none).symm
  · have known : branchName branch ≠ [] := by
      rw [branchName_of_not_namesNone none]
      exact fun blank => none (.inl blank)
    have has : (ofBuild number branch commit).hasPosition = true := by
      simp [hasPosition, ofBuild, known]
    exact iff_of_true has fun empty => none empty.2

-- The leads are variables, since matching one literal text against another would spell them out.
theorem joinWith_position (program number lead branch commit : Text) :
    Text.joinWith " " ([program, number] ++ [lead ++ branch ++ "@" ++ commit ++ ")"]) =
      (program ++ " ") ++ number ++ ((" " ++ lead) ++ branch ++ "@" ++ commit ++ ")") := by
  simp [Text.joinWith]

/-- The full text of a build that has a position. -/
theorem full_of_hasPosition {v : Version} (h : v.hasPosition = true) :
    v.full = "powertelemetry " ++ shown v.number ++
      (" (git: " ++ shown v.branch ++ "@" ++ shown v.commit ++ ")") := by
  have program : programName ++ " " = ("powertelemetry " : Text) := rfl
  have lead : (" " : Text) ++ ("(git: " : Text) = (" (git: " : Text) := rfl
  have joined := joinWith_position programName (shown v.number) "(git: " (shown v.branch)
    (shown v.commit)
  rw [program, lead] at joined
  rw [full, if_pos h]
  exact joined

/-- What follows the number in the full text of a version. -/
def positionPart (v : Version) : Text :=
  if v.hasPosition then " (git: " ++ shown v.branch ++ "@" ++ shown v.commit ++ ")" else []

/-- The full text of a build: the program, the version and the position, if there is one. -/
theorem full_eq (number branch commit : Text) :
    (ofBuild number branch commit).full = "powertelemetry " ++ shown number ++
      (ofBuild number branch commit).positionPart := by
  by_cases h : (ofBuild number branch commit).hasPosition = true
  · rw [full_of_hasPosition h, positionPart, if_pos h]
    rfl
  · obtain ⟨rfl, none⟩ := Classical.not_not.1 (mt (hasPosition_iff number branch commit).2 h)
    rw [full_of_namesNone none, positionPart, if_neg h, List.append_nil]

theorem positionPart_eq_nil_iff (number branch commit : Text) :
    (ofBuild number branch commit).positionPart = [] ↔ commit = [] ∧ NamesNone branch := by
  unfold positionPart
  by_cases h : (ofBuild number branch commit).hasPosition = true
  · rw [if_pos h]
    constructor
    · intro empty
      simp at empty
    · exact fun bare => absurd bare ((hasPosition_iff number branch commit).1 h)
  · rw [if_neg h]
    exact iff_of_true rfl (Classical.not_not.1 (mt (hasPosition_iff number branch commit).2 h))

/-- The reader takes off the full text what the version shows. -/
theorem readFull?_full {number commit : Text} (hn : ' ' ∉ number) (hc : '@' ∉ commit)
    (branch : Text) :
    readFull? (ofBuild number branch commit).full = some (ofBuild number branch commit).fields := by
  have plain : ' ' ∉ shown number := not_mem_shown hn (by decide)
  have single : '@' ∉ shown commit := not_mem_shown hc (by decide)
  have starts : ∀ c ∈ (ofBuild number branch commit).positionPart.head?, c = ' ' := by
    unfold positionPart
    by_cases h : (ofBuild number branch commit).hasPosition = true
    · rw [if_pos h]
      rintro c ⟨⟩
      rfl
    · rw [if_neg h]
      nofun
  rw [full_eq, List.append_assoc, readFull?_append plain starts]
  by_cases bare : commit = [] ∧ NamesNone branch
  · have nowhere := mt (hasPosition_iff number branch commit).1 (not_not_intro bare)
    rw [if_pos ((positionPart_eq_nil_iff number branch commit).2 bare), fields,
      Bool.eq_false_iff.2 nowhere]
    obtain ⟨rfl, none⟩ := bare
    rw [ofBuild, branchName_of_namesNone none]
    rfl
  · have has := (hasPosition_iff number branch commit).2 bare
    have read := readPosition?_position single (shown (branchName branch))
    rw [if_neg (mt (positionPart_eq_nil_iff number branch commit).1 bare), positionPart, if_pos has,
      fields, has]
    exact congrArg (Option.map _) read

/-- The full text of a version is the program name, the number, and no more exactly if there is
    neither a commit nor a branch. Otherwise what follows is the branch and the commit in brackets. A
    number without spaces and a commit without at signs can be read off it, and so can the branch,
    whatever it is. Versions with the same full text show the same. -/
theorem full_tells_fields {number commit : Text} (hn : ' ' ∉ number) (hc : '@' ∉ commit)
    (branch : Text) :
    let v := ofBuild number branch commit
    readFull? v.full = some v.fields ∧
      ShowsBranch branch v.fields.branch ∧
      (∃ rest : Text, v.full = "powertelemetry " ++ shown number ++ rest ∧
        (rest = [] ↔ commit = [] ∧ NamesNone branch) ∧
        (rest ≠ [] → rest = " (git: " ++ v.fields.branch ++ "@" ++ shown commit ++ ")")) ∧
      ∀ number' branch' commit' : Text, ' ' ∉ number' → '@' ∉ commit' →
        (ofBuild number' branch' commit').full = v.full →
          (ofBuild number' branch' commit').fields = v.fields := by
  intro v
  refine ⟨readFull?_full hn hc branch, showsBranch_branchName branch,
    ⟨v.positionPart, full_eq number branch commit, positionPart_eq_nil_iff number branch commit, ?_⟩,
    ?_⟩
  · intro present
    have bare := mt (positionPart_eq_nil_iff number branch commit).2 present
    exact if_pos ((hasPosition_iff number branch commit).2 bare)
  · intro number' branch' commit' hn' hc' same
    have read := readFull?_full hn' hc' branch'
    rw [same, readFull?_full hn hc branch] at read
    exact (Option.some.inj read).symm

/-- A branch may look like the end of its position and the start of another one. -/
theorem full_tells_fields_bracketed :
    let branch : Text := "fix) (git: a@b"
    ' ' ∉ ("2.0" : Text) ∧ '@' ∉ ("a1b2c3d" : Text) ∧
      (ofBuild "2.0" branch "a1b2c3d").full =
        ("powertelemetry 2.0 (git: fix) (git: a@b@a1b2c3d)" : Text) ∧
      readFull? "powertelemetry 2.0 (git: fix) (git: a@b@a1b2c3d)" =
        some ⟨"2.0", branch, "a1b2c3d", true⟩ ∧
      (ofBuild "2.0" (" " ++ branch ++ "\n") "a1b2c3d").fields =
        (ofBuild "2.0" branch "a1b2c3d").fields := by
  intro branch
  have plain : ' ' ∉ ("2.0" : Text) := by decide
  have single : '@' ∉ ("a1b2c3d" : Text) := by decide
  have full : (ofBuild "2.0" branch "a1b2c3d").full =
      ("powertelemetry 2.0 (git: fix) (git: a@b@a1b2c3d)" : Text) := by decide +kernel
  obtain ⟨read, -, -, unique⟩ := full_tells_fields plain single branch
  refine ⟨plain, single, full, ?_, unique _ _ _ plain single (by decide +kernel)⟩
  rw [full] at read
  rw [read]
  decide +kernel

end Version

end CpuIdentity
