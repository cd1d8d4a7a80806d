import CpuIdentity.Program
import CpuIdentity.Proofs.CommandLine.Reading
import Mathlib.Data.List.Nodup

/-!
# Which command lines are accepted

A command line is accepted exactly if groups spell it that enter no option twice, give the listening
address as a socket address, and restrict no listing that they do not ask for. What it means is told by
its entries alone, in whatever order they are made. Any other command line is rejected, and help is what
it gets if it calls for help after groups that could all be entered.
-/

namespace CpuIdentity.Arguments

variable {es es' : List Entry} {d d' : Draft} {e : Entry}

/-- Entries that can be made together: no option makes two of them, and a listening address is a socket
    address. -/
structure Consistent (es : List Entry) : Prop where
  once : (es.map Entry.option).Nodup
  address : ∀ given, .value .listen given ∈ es → ∃ x, SocketAddress.ofText? given = some x

/-- Consistent entries that restrict a listing only if they ask for one. -/
structure Proper (es : List Entry) : Prop extends Consistent es where
  restricts : ∀ given, .value .lineage given ∈ es → .on .list ∈ es

/-- What a draft holds after some entries. -/
structure Holds (es : List Entry) (d : Draft) : Prop where
  list : d.list = true ↔ .on .list ∈ es
  metrics : d.metrics = true ↔ .on .metrics ∈ es
  verbose : d.verbose = true ↔ .on .verbose ∈ es
  lineage : ∀ t, d.lineage = some t ↔ .value .lineage t ∈ es
  model : ∀ t, d.model = some t ↔ .value .model t ∈ es
  scope : ∀ t, d.scope = some t ↔ .value .scope t ∈ es
  listen : ∀ x, d.listen = some x ↔
    ∃ t, .value .listen t ∈ es ∧ SocketAddress.ofText? t = some x

/-- What an argument record has to be for some entries. -/
structure Describes (es : List Entry) (a : Arguments) : Prop where
  list : a.list = true ↔ .on .list ∈ es
  metrics : a.metrics = true ↔ .on .metrics ∈ es
  verbose : a.verbose = true ↔ .on .verbose ∈ es
  lineage : ∀ t, a.lineage = some t ↔ .value .lineage t ∈ es
  model : ∀ t, a.model = some t ↔ .value .model t ∈ es
  scope : ∀ t, .value .scope t ∈ es → a.scope = t
  noScope : (∀ t, .value .scope t ∉ es) → a.scope = ("powertelemetry" : Text)
  listen : ∀ x, a.listen = some x ↔
    ∃ t, .value .listen t ∈ es ∧ SocketAddress.ofText? t = some x

theorem mem_options_switch {s : Switch} : .inl s ∈ es.map Entry.option ↔ .on s ∈ es := by
  constructor
  · intro h
    obtain ⟨e, member, same⟩ := List.mem_map.1 h
    cases e with
    | on s' =>
      cases same
      exact member
    | value s' given => cases same
  · exact List.mem_map_of_mem

theorem mem_options_setting {s : Setting} :
    .inr s ∈ es.map Entry.option ↔ ∃ given, .value s given ∈ es := by
  constructor
  · intro h
    obtain ⟨e, member, same⟩ := List.mem_map.1 h
    cases e with
    | on s' => cases same
    | value s' given =>
      cases same
      exact ⟨given, member⟩
  · rintro ⟨given, member⟩
    exact List.mem_map_of_mem member

theorem consistent_nil : Consistent [] := ⟨List.nodup_nil, nofun⟩

/-- Entries stay consistent when the last of them are left out. -/
theorem Consistent.front (h : Consistent (es ++ es')) : Consistent es := by
  refine ⟨?_, fun given member => h.address given (List.mem_append_left _ member)⟩
  have once := h.once
  rw [List.map_append] at once
  exact once.of_append_left

/-- Consistency does not depend on the order of the entries. -/
theorem Consistent.perm (h : Consistent es) (same : es.Perm es') : Consistent es' where
  once := (same.map Entry.option).nodup_iff.1 h.once
  address given member := h.address given (same.mem_iff.2 member)

theorem Proper.perm (h : Proper es) (same : es.Perm es') : Proper es' where
  toConsistent := h.toConsistent.perm same
  restricts given member := same.mem_iff.1 (h.restricts given (same.mem_iff.2 member))

/-- What entries describe does not depend on their order. -/
theorem Describes.perm {a : Arguments} (h : Describes es a) (same : es.Perm es') :
    Describes es' a where
  list := h.list.trans same.mem_iff
  metrics := h.metrics.trans same.mem_iff
  verbose := h.verbose.trans same.mem_iff
  lineage t := (h.lineage t).trans same.mem_iff
  model t := (h.model t).trans same.mem_iff
  scope t member := h.scope t (same.mem_iff.2 member)
  noScope none := h.noScope fun t member => none t (same.mem_iff.1 member)
  listen x := by simpa only [same.mem_iff] using h.listen x

/-- Entries tell one argument record. -/
theorem Describes.unique {a a' : Arguments} (h : Describes es a) (h' : Describes es a') : a = a' := by
  have scope : a.scope = a'.scope := by
    by_cases given : ∃ t, .value .scope t ∈ es
    · obtain ⟨t, member⟩ := given
      rw [h.scope t member, h'.scope t member]
    · rw [h.noScope (not_exists.1 given), h'.noScope (not_exists.1 given)]
  have list := Bool.eq_iff_iff.2 (h.list.trans h'.list.symm)
  have metrics := Bool.eq_iff_iff.2 (h.metrics.trans h'.metrics.symm)
  have verbose := Bool.eq_iff_iff.2 (h.verbose.trans h'.verbose.symm)
  have lineage := Option.ext fun t => (h.lineage t).trans (h'.lineage t).symm
  have model := Option.ext fun t => (h.model t).trans (h'.model t).symm
  have listen := Option.ext fun x => (h.listen x).trans (h'.listen x).symm
  cases a
  cases a'
  simp only at *
  subst list metrics verbose lineage model listen scope
  rfl

/-- One more entry is consistent with the others if its option is free and its address is one. -/
theorem consistent_concat_iff : Consistent (es ++ [e]) ↔ Consistent es ∧
    e.option ∉ es.map Entry.option ∧
    ∀ given, e = .value .listen given → ∃ x, SocketAddress.ofText? given = some x := by
  constructor
  · rintro ⟨once, address⟩
    rw [List.map_append, List.map_singleton, ← List.concat_eq_append, List.nodup_concat] at once
    refine ⟨⟨once.2, fun given h => address given (List.mem_append_left _ h)⟩, once.1, ?_⟩
    rintro given rfl
    exact address given (List.mem_append_right _ List.mem_cons_self)
  · rintro ⟨⟨once, address⟩, free, valid⟩
    constructor
    · rw [List.map_append, List.map_singleton, ← List.concat_eq_append, List.nodup_concat]
      exact ⟨free, once⟩
    · intro given h
      rcases List.mem_append.1 h with h | h
      · exact address given h
      · exact valid given (List.mem_singleton.1 h).symm

/-! ## Drafts -/

theorem holds_nil : Holds [] {} := by
  constructor <;> simp

/-- An option that is taken cannot be entered again. -/
theorem Holds.enter_of_taken (hc : Consistent es) (h : Holds es d)
    (taken : e.option ∈ es.map Entry.option) : ∃ r, enter d e = .error r := by
  cases e with
  | on s =>
    have member := mem_options_switch.1 taken
    cases s with
    | list => exact ⟨_, if_pos (h.list.2 member)⟩
    | metrics => exact ⟨_, if_pos (h.metrics.2 member)⟩
    | verbose => exact ⟨_, if_pos (h.verbose.2 member)⟩
  | value s given =>
    obtain ⟨t, member⟩ := mem_options_setting.1 taken
    cases s with
    | lineage => exact ⟨_, if_pos (Option.isSome_of_eq_some ((h.lineage t).2 member))⟩
    | model => exact ⟨_, if_pos (Option.isSome_of_eq_some ((h.model t).2 member))⟩
    | scope => exact ⟨_, if_pos (Option.isSome_of_eq_some ((h.scope t).2 member))⟩
    | listen =>
      obtain ⟨x, valid⟩ := hc.address t member
      exact ⟨_, if_pos (Option.isSome_of_eq_some ((h.listen x).2 ⟨t, member, valid⟩))⟩

theorem enter_of_no_address {given : Text} (invalid : SocketAddress.ofText? given = none) :
    ∃ r, enter d (.value .listen given) = .error r := by
  simp only [enter, enterSetting, invalid]
  split
  · exact ⟨_, rfl⟩
  · exact ⟨_, rfl⟩

/-- An option that is free can be entered, and the draft holds it then. -/
theorem Holds.enter_of_free (h : Holds es d) (free : e.option ∉ es.map Entry.option)
    (address : ∀ given, e = .value .listen given → ∃ x, SocketAddress.ofText? given = some x) :
    ∃ d', enter d e = .ok d' ∧ Holds (es ++ [e]) d' := by
  cases e with
  | on s =>
    have off : .on s ∉ es := fun member => free (mem_options_switch.2 member)
    cases s with
    | list =>
      refine ⟨_, if_neg fun on => off (h.list.1 on), ?_⟩
      constructor <;> simp [h.metrics, h.verbose, h.lineage, h.model, h.scope, h.listen]
    | metrics =>
      refine ⟨_, if_neg fun on => off (h.metrics.1 on), ?_⟩
      constructor <;> simp [h.list, h.verbose, h.lineage, h.model, h.scope, h.listen]
    | verbose =>
      refine ⟨_, if_neg fun on => off (h.verbose.1 on), ?_⟩
      constructor <;> simp [h.list, h.metrics, h.lineage, h.model, h.scope, h.listen]
  | value s given =>
    have absent : ∀ t, .value s t ∉ es := fun t member => free (mem_options_setting.2 ⟨t, member⟩)
    cases s with
    | lineage =>
      have empty : d.lineage = none :=
        Option.eq_none_iff_forall_ne_some.2 fun t held => absent t ((h.lineage t).1 held)
      refine ⟨_, if_neg (by simp [empty]), ?_⟩
      constructor <;>
        simp [h.list, h.metrics, h.verbose, h.model, h.scope, h.listen, absent, eq_comm]
    | model =>
      have empty : d.model = none :=
        Option.eq_none_iff_forall_ne_some.2 fun t held => absent t ((h.model t).1 held)
      refine ⟨_, if_neg (by simp [empty]), ?_⟩
      constructor <;>
        simp [h.list, h.metrics, h.verbose, h.lineage, h.scope, h.listen, absent, eq_comm]
    | scope =>
      have empty : d.scope = none :=
        Option.eq_none_iff_forall_ne_some.2 fun t held => absent t ((h.scope t).1 held)
      refine ⟨_, if_neg (by simp [empty]), ?_⟩
      constructor <;>
        simp [h.list, h.metrics, h.verbose, h.lineage, h.model, h.listen, absent, eq_comm]
    | listen =>
      obtain ⟨x, valid⟩ := address given rfl
      have empty : d.listen = none := by
        refine Option.eq_none_iff_forall_ne_some.2 fun y held => ?_
        obtain ⟨t, member, -⟩ := (h.listen y).1 held
        exact absent t member
      have entered : enter d (.value .listen given) = .ok { d with listen := some x } := by
        simp [enter, enterSetting, empty, valid]
      refine ⟨_, entered, ?_⟩
      constructor <;>
        simp [h.list, h.metrics, h.verbose, h.lineage, h.model, h.scope, absent, valid]

/-- An entry that is not consistent with those before it cannot be made. -/
theorem Holds.enter_of_not_consistent (hc : Consistent es) (h : Holds es d)
    (other : ¬Consistent (es ++ [e])) : ∃ r, enter d e = .error r := by
  by_cases taken : e.option ∈ es.map Entry.option
  · exact h.enter_of_taken hc taken
  · have invalid : ∃ given, e = .value .listen given ∧ SocketAddress.ofText? given = none := by
      by_contra valid
      refine other (consistent_concat_iff.2 ⟨hc, taken, fun given same => ?_⟩)
      rw [← Option.ne_none_iff_exists']
      exact fun none => valid ⟨given, same, none⟩
    obtain ⟨given, rfl, none⟩ := invalid
    exact enter_of_no_address none

/-- Entries are made one after the other exactly if they are consistent. -/
theorem Holds.outcome (hc : Consistent es) (h : Holds es d) (es' : List Entry) :
    (Consistent (es ++ es') ∧ ∃ d', enterAll d es' = .ok d' ∧ Holds (es ++ es') d') ∨
      (¬Consistent (es ++ es') ∧ ∃ r, enterAll d es' = .error r) := by
  induction es' generalizing es d with
  | nil =>
    rw [List.append_nil]
    exact .inl ⟨hc, d, rfl, h⟩
  | cons e es' ih =>
    rw [List.append_cons, enterAll]
    by_cases next : Consistent (es ++ [e])
    · obtain ⟨-, free, address⟩ := consistent_concat_iff.1 next
      obtain ⟨d₁, entered, h₁⟩ := h.enter_of_free free address
      rw [entered]
      exact ih next h₁
    · obtain ⟨r, fault⟩ := h.enter_of_not_consistent hc next
      rw [fault]
      exact .inr ⟨fun whole => next whole.front, r, rfl⟩

/-- What comes of making entries from the start. -/
theorem enterAll_outcome (es : List Entry) :
    (Consistent es ∧ ∃ d, enterAll {} es = .ok d ∧ Holds es d) ∨
      (¬Consistent es ∧ ∃ r, enterAll {} es = .error r) :=
  holds_nil.outcome consistent_nil es

/-- A draft is finished exactly if its entries are proper. -/
theorem Holds.finish (hc : Consistent es) (h : Holds es d) :
    (Proper es ∧ ∃ a, finish d = .ok a ∧ Describes es a) ∨
      (¬Proper es ∧ finish d = .error .lineageWithoutList) := by
  by_cases restricts : ∀ given, .value .lineage given ∈ es → .on .list ∈ es
  · left
    have fits : ¬(d.lineage.isSome && !d.list) = true := by
      rw [Bool.and_eq_true, Option.isSome_iff_exists]
      rintro ⟨⟨t, held⟩, off⟩
      rw [h.list.2 (restricts t ((h.lineage t).1 held))] at off
      cases off
    refine ⟨⟨hc, restricts⟩, _, if_neg fits,
      ⟨h.list, h.metrics, h.verbose, h.lineage, h.model, ?_, ?_, h.listen⟩⟩
    · intro t member
      show d.scope.getD _ = t
      rw [(h.scope t).2 member]
      rfl
    · intro none
      have empty : d.scope = .none :=
        Option.eq_none_iff_forall_ne_some.2 fun t held => none t ((h.scope t).1 held)
      show d.scope.getD _ = _
      rw [empty]
      rfl
  · right
    refine ⟨fun proper => restricts proper.restricts, if_pos ?_⟩
    obtain ⟨t, member, alone⟩ : ∃ t, .value .lineage t ∈ es ∧ .on .list ∉ es := by
      simpa using restricts
    rw [(h.lineage t).2 member, Bool.eq_false_iff.2 fun on => alone (h.list.1 on)]
    rfl

/-! ## Command lines -/

/-- A command line that calls for help after groups that can all be entered. -/
def AsksHelp (args : List Text) : Prop :=
  ∃ (gs : List Group) (arg : Text) (rest : List Text), (∀ g ∈ gs, g.Fits) ∧
    Consistent (gs.map Group.entry) ∧ args = gs.flatMap Group.args ++ arg :: rest ∧
    CallsHelp (.on .verbose ∈ gs.map Group.entry) arg

variable {args args' : List Text} {gs gs' : List Group} {a : Arguments}

theorem finish_ne_help (d : Draft) : finish d ≠ .error .help := by
  unfold finish
  split <;> simp

/-- Arguments that are spelled are accepted exactly if their entries are proper. -/
theorem parse_of_spells (h : Spells gs args) :
    (Proper (gs.map Group.entry) ∧ ∃ a, parse args = .ok a ∧ Describes (gs.map Group.entry) a) ∨
      (¬Proper (gs.map Group.entry) ∧ ∀ a, parse args ≠ .ok a) := by
  have agree := agree_read h {}
  unfold parse
  rcases enterAll_outcome (gs.map Group.entry) with ⟨hc, d, entered, holds⟩ | ⟨other, r, entered⟩
  · rw [(agree.eq_iff (not_faulty_ok d)).2 entered]
    rcases holds.finish hc with ⟨proper, a, finished, describes⟩ | ⟨other, finished⟩
    · exact .inl ⟨proper, a, finished, describes⟩
    · refine .inr ⟨other, fun a => ?_⟩
      show finish d ≠ .ok a
      rw [finished]
      nofun
  · refine .inr ⟨fun proper => other proper.toConsistent, fun a => ?_⟩
    cases outcome : read {} none args with
    | ok d =>
      have entered' := (agree.eq_iff (not_faulty_ok d)).1 outcome
      rw [entered] at entered'
      cases entered'
    | error r => nofun

/-- Arguments that are accepted are spelled. -/
theorem exists_spells_of_parse (h : parse args = .ok a) : ∃ gs, Spells gs args := by
  unfold parse at h
  cases outcome : read {} none args with
  | error r =>
    rw [outcome] at h
    cases h
  | ok d =>
    have sound : ¬Faulty (read {} none args) := by
      rw [outcome]
      exact not_faulty_ok d
    refine (spells_of_read sound).resolve_right ?_
    rintro ⟨gs, d', arg, rest, called⟩
    rw [read_eq_help_iff.2 ⟨gs, d', arg, rest, called⟩] at outcome
    cases outcome

/-- Help is what a command line gets exactly if it asks for it. -/
theorem parse_eq_help_iff : parse args = .error .help ↔ AsksHelp args := by
  have reading : parse args = .error .help ↔ read {} none args = .error .help := by
    unfold parse
    cases read {} none args with
    | ok d =>
      refine iff_of_false (finish_ne_help d) ?_
      nofun
    | error r => simp
  rw [reading, read_eq_help_iff]
  constructor
  · rintro ⟨gs, d, arg, rest, fit, entered, parts, calls⟩
    rcases enterAll_outcome (gs.map Group.entry) with ⟨hc, d', entered', holds⟩ | ⟨-, r, fault⟩
    · rw [entered] at entered'
      obtain rfl := Except.ok.inj entered'
      rw [CallsHelp, holds.verbose] at calls
      exact ⟨gs, arg, rest, fit, hc, parts, calls⟩
    · rw [entered] at fault
      cases fault
  · rintro ⟨gs, arg, rest, fit, hc, parts, calls⟩
    rcases enterAll_outcome (gs.map Group.entry) with ⟨-, d, entered, holds⟩ | ⟨other, -⟩
    · rw [CallsHelp, ← holds.verbose] at calls
      exact ⟨gs, d, arg, rest, fit, entered, parts, calls⟩
    · exact absurd hc other

/-- A command line is accepted exactly if groups spell it that enter no option twice, a socket address
    as the listening address, and a lineage only beside a listing. The record is the one that their
    entries tell, so it is the same for the groups in any order. Any other command line is rejected:
    with help and the exit status 0 if it calls for help after groups that can be entered, else with a
    fault and the exit status 2. -/
theorem parse_iff_spelled (args : List Text) :
    ((∃ a, parse args = .ok a) ↔ ∃ gs, Spells gs args ∧ Proper (gs.map Group.entry)) ∧
    (∀ gs a, Spells gs args → parse args = .ok a → Describes (gs.map Group.entry) a ∧
      ∀ gs' args', gs.Perm gs' → Spells gs' args' → parse args' = .ok a) ∧
    (parse args = .error .help ↔ AsksHelp args) ∧
    ((¬∃ gs, Spells gs args ∧ Proper (gs.map Group.entry)) → ∃ r, parse args = .error r ∧
      ∀ b m network, (Program.execute b m network args).status = if r = .help then 0 else 2) := by
  have accepted : (∃ a, parse args = .ok a) ↔
      ∃ gs, Spells gs args ∧ Proper (gs.map Group.entry) := by
    constructor
    · rintro ⟨a, parsed⟩
      obtain ⟨gs, spells⟩ := exists_spells_of_parse parsed
      rcases parse_of_spells spells with ⟨proper, -⟩ | ⟨-, never⟩
      · exact ⟨gs, spells, proper⟩
      · exact absurd parsed (never a)
    · rintro ⟨gs, spells, proper⟩
      rcases parse_of_spells spells with ⟨-, a, parsed, -⟩ | ⟨other, -⟩
      · exact ⟨a, parsed⟩
      · exact absurd proper other
  refine ⟨accepted, ?_, parse_eq_help_iff, ?_⟩
  · intro gs a spells parsed
    rcases parse_of_spells spells with ⟨proper, a', parsed', describes⟩ | ⟨-, never⟩
    · rw [parsed] at parsed'
      obtain rfl := Except.ok.inj parsed'
      refine ⟨describes, fun gs' args' same spells' => ?_⟩
      have entries := same.map Group.entry
      rcases parse_of_spells spells' with ⟨-, a', parsed', describes'⟩ | ⟨other, -⟩
      · rw [parsed', describes'.unique (describes.perm entries)]
      · exact absurd (proper.perm entries) other
    · exact absurd parsed (never a)
  · intro rejected
    cases outcome : parse args with
    | ok a => exact absurd (accepted.1 ⟨a, outcome⟩) rejected
    | error r =>
      refine ⟨r, rfl, fun b m network => ?_⟩
      rw [Program.execute, outcome]
      cases r <;> rfl

/-- Values that look like options are attached, and two dashes end the line. The options in another
    order mean the same; a lineage alone is rejected, and with it a later call for help is not. -/
theorem parse_iff_spelled_reversed :
    let gs : List Group := [.separate .lineage "-", .switch .list, .attached .scope [],
      .attached .model "--x=-", .letter]
    let a : Arguments := ⟨true, some "-", some "--x=-", false, none, [], true⟩
    let alone : List Text := ["--lineage", "core"]
    Spells gs ["--lineage", "-", "--list", "--namespace=", "--model=--x=-", "-v", "--"] ∧
      Describes (gs.map Group.entry) a ∧
      parse ["-v", "--model=--x=-", "--namespace=", "--list", "--lineage", "-"] = .ok a ∧
      (¬∃ gs, Spells gs alone ∧ Proper (gs.map Group.entry)) ∧
      (∃ r, parse alone = .error r ∧ r ≠ .help) ∧ AsksHelp (alone ++ [("-vh!" : Text)]) := by
  intro gs a alone
  have fit : ∀ g ∈ gs, g.Fits := by
    simp only [gs, List.forall_mem_cons]
    exact ⟨.inl rfl, trivial, trivial, trivial, trivial, nofun⟩
  have fit' : ∀ g ∈ gs.reverse, g.Fits := fun g hg => fit g (List.mem_reverse.1 hg)
  have spells : Spells gs
      ["--lineage", "-", "--list", "--namespace=", "--model=--x=-", "-v", "--"] :=
    ⟨fit, .inr rfl⟩
  have parsed : parse ["--lineage", "-", "--list", "--namespace=", "--model=--x=-", "-v", "--"] =
      .ok a := by decide +kernel
  obtain ⟨describes, orders⟩ := (parse_iff_spelled _).2.1 gs a spells parsed
  have refused : parse alone = .error .lineageWithoutList := by decide +kernel
  have rejected : ¬∃ gs, Spells gs alone ∧ Proper (gs.map Group.entry) := by
    rw [← (parse_iff_spelled alone).1, refused]
    rintro ⟨a, ⟨⟩⟩
  obtain ⟨r, outcome, -⟩ := (parse_iff_spelled alone).2.2.2 rejected
  refine ⟨spells, describes, ?_, rejected, ⟨r, outcome, ?_⟩, ?_⟩
  · exact orders gs.reverse _ (List.reverse_perm gs).symm ⟨fit', .inl rfl⟩
  · rw [refused] at outcome
    cases outcome
    nofun
  · exact (parse_iff_spelled _).2.2.1.1 (by decide +kernel)

end CpuIdentity.Arguments
