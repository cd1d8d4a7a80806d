import CpuIdentity.Metrics.Exporter
import CpuIdentity.Proofs.Text.Quoted

/-!
# What the text of an error tells

An error of the program's own making carries one value, a text or a number. Its message and its report
both have the value between a lead and a tail that are fixed for its kind. No lead begins with that of
another kind, so the text tells the kind whatever the value is, and between lead and tail it tells the
value. In a report texts are quoted, which keeps it on one line.
-/

namespace CpuIdentity

namespace Error

/-- The kinds of errors that carry a value of the program's own. -/
inductive Kind where
  | vendor
  | family
  | model
  | lineage
  | configuration
  | parse
  | metric
  deriving DecidableEq, Repr

namespace Kind

/-- What an error of a kind carries. -/
def Value : Kind → Type
  | .family => UInt32
  | _ => Text

def error : (k : Kind) → k.Value → Error
  | .vendor, t => .unsupportedVendor t
  | .family, n => .unsupportedFamily n
  | .model, t => .catalogue (.unknownModel t)
  | .lineage, t => .catalogue (.unknownLineage t)
  | .configuration, t => .configuration t
  | .parse, t => .parse t
  | .metric, t => .metric (.other t)

/-- What stands before the value in a report. -/
def reportLead : Kind → Text
  | .vendor => "UnsupportedVendor("
  | .family => "UnsupportedFamily("
  | .model => "Catalogue(" ++ "UnknownModelName("
  | .lineage => "Catalogue(" ++ "UnknownLineage("
  | .configuration => "ConfigError("
  | .parse => "ParseError("
  | .metric => "PrometheusError(" ++ "Msg("

/-- What stands behind the value in a report. -/
def reportTail : Kind → Text
  | .model | .lineage | .metric => ")" ++ ")"
  | _ => ")"

/-- The value in a report: a text is quoted, a number is in decimal. -/
def quoted : (k : Kind) → k.Value → Text
  | .family, n => Text.decimal (UInt32.toNat n)
  | .vendor, t | .model, t | .lineage, t | .configuration, t | .parse, t | .metric, t => Text.quote t

/-- What stands before the value in a message. -/
def messageLead : Kind → Text
  | .vendor => "Unsupported CPU vendor: "
  | .family => "Unsupported CPU family: 0x"
  | .model => "Catalogue error: " ++ "Unknown Intel Family-6 model name: "
  | .lineage => "Catalogue error: " ++ "Unknown lineage: "
  | .configuration => "Configuration error: "
  | .parse => "Parse error: "
  | .metric => "Prometheus error: " ++ "Error: "

/-- What stands behind the value in a message. -/
def messageTail : Kind → Text
  | .vendor => " (only GenuineIntel is catalogued)"
  | .family => " (only Intel family 6 is catalogued)"
  | .lineage => " (expected core, hybrid, atom or xeon-phi)"
  | .model | .configuration | .parse | .metric => []

/-- The value in a message: a text is itself, a number is in hexadecimal. -/
def plain : (k : Kind) → k.Value → Text
  | .family, n => Text.hexUpper (UInt32.toNat n)
  | .vendor, t | .model, t | .lineage, t | .configuration, t | .parse, t | .metric, t => t

variable {k k' : Kind}

theorem report_error (k : Kind) (v : k.Value) :
    (k.error v).report = k.reportLead ++ (k.quoted v ++ k.reportTail) := by
  have nested (a b v c d : Text) : a ++ (b ++ v ++ c) ++ d = (a ++ b) ++ (v ++ (c ++ d)) := by simp
  cases k with
  | vendor | family | configuration | parse => exact List.append_assoc ..
  | model | lineage | metric => exact nested ..

theorem message_error (k : Kind) (v : k.Value) :
    (k.error v).message = k.messageLead ++ (k.plain v ++ k.messageTail) := by
  have nested (a b v c : Text) : a ++ (b ++ v ++ c) = (a ++ b) ++ (v ++ c) := by simp
  have last (a b v : Text) : a ++ (b ++ v) = (a ++ b) ++ (v ++ []) := by simp
  cases k with
  | vendor | family => exact List.append_assoc ..
  | lineage => exact nested ..
  | model | metric => exact last ..
  | configuration | parse => exact congrArg _ (List.append_nil _).symm

theorem reportLead_apart (k k' : Kind) (h : k.reportLead <+: k'.reportLead) : k = k' := by
  revert h
  cases k <;> cases k' <;> decide

theorem messageLead_apart (k k' : Kind) (h : k.messageLead <+: k'.messageLead) : k = k' := by
  revert h
  cases k <;> cases k' <;> decide

/-- Where no lead begins with another one, a text has one lead, whatever follows it. -/
theorem eq_of_lead {lead : Kind → Text} (apart : ∀ k k', lead k <+: lead k' → k = k') {t t' : Text}
    (same : lead k ++ t = lead k' ++ t') : k = k' := by
  have other : lead k' <+: lead k ++ t := same ▸ List.prefix_append (lead k') t'
  rcases List.prefix_or_prefix_of_prefix (List.prefix_append (lead k) t) other with shorter | shorter
  · exact apart k k' shorter
  · exact (apart k' k shorter).symm

theorem quoted_injective {v v' : k.Value} (h : k.quoted v = k.quoted v') : v = v' := by
  cases k with
  | family => exact UInt32.toNat_inj.1 (Text.decimal_injective h)
  | vendor | model | lineage | configuration | parse | metric => exact Text.quote_injective h

theorem plain_injective {v v' : k.Value} (h : k.plain v = k.plain v') : v = v' := by
  cases k with
  | family => exact UInt32.toNat_inj.1 (Text.hexUpper_injective h)
  | vendor | model | lineage | configuration | parse | metric => exact h

/-- What is made of a lead, a value and a tail tells the kind and the value. -/
theorem eq_of_parts {lead tail : Kind → Text} {shown : (k : Kind) → k.Value → Text}
    (apart : ∀ k k', lead k <+: lead k' → k = k')
    (injective : ∀ k (v v' : k.Value), shown k v = shown k v' → v = v') {v : k.Value} {v' : k'.Value}
    (same : lead k ++ (shown k v ++ tail k) = lead k' ++ (shown k' v' ++ tail k')) :
    k.error v = k'.error v' := by
  obtain rfl := eq_of_lead apart same
  rw [injective k v v' (List.append_cancel_right (List.append_cancel_left same))]

theorem printable_report (k : Kind) (v : k.Value) : Text.Printable (k.error v).report := by
  have lead : Text.Printable k.reportLead := by
    cases k <;> exact Text.printable_of_ascii (by decide)
  have tail : Text.Printable k.reportTail := by
    cases k <;> exact Text.printable_of_ascii (by decide)
  have value : Text.Printable (k.quoted v) := by
    cases k with
    | family => exact (Text.denotes_decimal _).printable (by decide)
    | vendor | model | lineage | configuration | parse | metric => exact Text.printable_quote v
  rw [report_error]
  exact lead.append (value.append tail)

end Kind

/-- An error that carries a value of the program's own: no fault of the system outside, and no metric
    that is registered twice. -/
def Told (e : Error) : Prop := (∀ cause, e ≠ .io cause) ∧ e ≠ .metric .registered

variable {e e' : Error}

theorem Told.exists_kind (h : e.Told) : ∃ (k : Kind) (v : k.Value), e = k.error v := by
  match e, h with
  | .unsupportedVendor t, _ => exact ⟨.vendor, t, rfl⟩
  | .unsupportedFamily n, _ => exact ⟨.family, n, rfl⟩
  | .catalogue (.unknownModel t), _ => exact ⟨.model, t, rfl⟩
  | .catalogue (.unknownLineage t), _ => exact ⟨.lineage, t, rfl⟩
  | .configuration t, _ => exact ⟨.configuration, t, rfl⟩
  | .parse t, _ => exact ⟨.parse, t, rfl⟩
  | .metric (.other t), _ => exact ⟨.metric, t, rfl⟩
  | .io cause, h => exact absurd rfl (h.1 cause)
  | .metric .registered, h => exact absurd rfl h.2

theorem told_configuration (detail : Text) : (Error.configuration detail).Told := ⟨nofun, nofun⟩

theorem Told.printable_report (h : e.Told) : Text.Printable e.report := by
  obtain ⟨k, v, rfl⟩ := h.exists_kind
  exact k.printable_report v

theorem Told.eq_of_report (h : e.Told) (h' : e'.Told) (same : e.report = e'.report) : e = e' := by
  obtain ⟨k, v, rfl⟩ := h.exists_kind
  obtain ⟨k', v', rfl⟩ := h'.exists_kind
  rw [Kind.report_error, Kind.report_error] at same
  exact Kind.eq_of_parts Kind.reportLead_apart (fun _ _ _ => Kind.quoted_injective) same

theorem Told.eq_of_message (h : e.Told) (h' : e'.Told) (same : e.message = e'.message) : e = e' := by
  obtain ⟨k, v, rfl⟩ := h.exists_kind
  obtain ⟨k', v', rfl⟩ := h'.exists_kind
  rw [Kind.message_error, Kind.message_error] at same
  exact Kind.eq_of_parts Kind.messageLead_apart (fun _ _ _ => Kind.plain_injective) same

end Error

namespace Config

/-- A scope that is refused is quoted in the error. -/
theorem eq_configuration_of_create {scope : Text} {hostname : Option Text} {e : Error}
    (h : create scope hostname = .error e) :
    e = .configuration ("Invalid metric namespace: " ++ Text.quote scope) := by
  unfold create at h
  split at h
  · cases h
  · exact (Except.error.inj h).symm

/-- Two scopes that are refused leave two errors, though each is quoted twice in its report. -/
theorem scope_eq_of_report {scope scope' : Text} {hostname hostname' : Option Text} {e e' : Error}
    (h : create scope hostname = .error e) (h' : create scope' hostname' = .error e')
    (same : e.report = e'.report) : scope = scope' := by
  rw [eq_configuration_of_create h, eq_configuration_of_create h'] at same
  have detail := (Error.told_configuration _).eq_of_report (Error.told_configuration _) same
  exact Text.quote_injective (List.append_cancel_left (Error.configuration.inj detail))

end Config

end CpuIdentity
