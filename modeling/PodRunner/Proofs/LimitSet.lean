import PodRunner.Proofs.QuantityPattern

/-!
# Limits of a container

A quantity is read from a text exactly if the text is that quantity with white space around it
(`Quantity.read_eq_ok_iff`), and a text that cannot be read comes back as it was given
(`Quantity.read_eq_error_iff`).  A set of limits has an entry for each text that is not blank
(`Limits.parse_eq_ok_iff`).  There is no set where one of the texts cannot be read, and of two that
cannot the one for the processor is reported (`Limits.parse_eq_error_iff`).  `Limits.grammar` has
all of this in one place.
-/

namespace PodRunner

namespace Quantity

variable {raw : String} {s : List Char} {q : Quantity} {f : LimitFault}

theorem Written.ne_nil (h : Written s) : s ≠ [] := by
  obtain ⟨sign, m, x, parts⟩ := h
  simp [parts.whole, parts.mantissa.ne_nil]

theorem toList_trimmed (raw : String) : (Blank.trimmed raw).toList = Blank.trim raw.toList :=
  String.toList_ofList

theorem isEmpty_trimmed (raw : String) : (Blank.trimmed raw).isEmpty = Blank.blank raw := by
  rw [Bool.eq_iff_iff, Blank.blank_iff, ← toList_trimmed, String.toList_eq_nil_iff,
    String.isEmpty_iff]

theorem read_eq (raw : String) : read raw =
    if Written (Blank.trim raw.toList) then .ok ⟨Blank.trimmed raw⟩
    else .error ⟨raw, if Blank.blank raw then .empty else .malformed⟩ := by
  have shaped : shaped (Blank.trimmed raw).toList ↔ Written (Blank.trim raw.toList) := by
    rw [shaped_iff, toList_trimmed]
  unfold read parse
  simp only [isEmpty_trimmed, shaped]
  by_cases blank : Blank.blank raw
  · have none : ¬ Written (Blank.trim raw.toList) := fun h => h.ne_nil (Blank.blank_iff.1 blank)
    rw [if_pos blank, if_neg none, if_pos blank]
    rfl
  · by_cases written : Written (Blank.trim raw.toList)
    · rw [if_neg blank, if_pos written, if_pos written]
      rfl
    · rw [if_neg blank, if_neg written, if_neg written, if_neg blank]
      rfl

/-- A quantity is read where it stands with nothing but white space around it. -/
theorem read_eq_ok_iff : read raw = .ok q ↔
    Blank.Padded Blank.isBlank q.text.toList raw.toList ∧ Written q.text.toList := by
  rw [read_eq, ← Blank.trim_eq_iff]
  constructor
  · intro h
    split at h
    · next written =>
      cases h
      rw [toList_trimmed]
      exact ⟨rfl, written⟩
    · cases h
  · rintro ⟨trimmed, written⟩
    rw [trimmed, if_pos written, Blank.trimmed, trimmed, String.ofList_toList]

theorem read_eq_error_iff : read raw = .error f ↔
    f = ⟨raw, if Blank.blank raw then .empty else .malformed⟩ ∧
      ∀ s, Blank.Padded Blank.isBlank s raw.toList → ¬ Written s := by
  have one : (∀ s, Blank.Padded Blank.isBlank s raw.toList → ¬ Written s) ↔
      ¬ Written (Blank.trim raw.toList) := by
    simp only [← Blank.trim_eq_iff, forall_eq']
  rw [one, read_eq]
  split
  · next written => simp [written]
  · next none =>
    exact ⟨fun h => ⟨(Except.error.inj h).symm, none⟩, fun h => congrArg Except.error h.1.symm⟩

/-- What was read is read again as it is. -/
theorem read_text (h : read raw = .ok q) : read q.text = .ok q := by
  obtain ⟨padded, written⟩ := read_eq_ok_iff.1 h
  exact read_eq_ok_iff.2 ⟨Blank.padded_self padded.head padded.last, written⟩

theorem read_bind_read (raw : String) : (read raw).bind (fun q => read q.text) = read raw := by
  cases h : read raw with
  | error f => rfl
  | ok q =>
    simp only [Except.bind]
    exact read_text h

end Quantity

namespace Limits

variable {raw cpu memory : String} {q : Quantity} {f : LimitFault} {l : Limits}

/-- The text sets the limit. -/
def Sets (raw : String) (q : Quantity) : Prop := Blank.blank raw = false ∧ Quantity.read raw = .ok q

/-- The text is there and cannot be read. -/
def Fails (raw : String) (f : LimitFault) : Prop :=
  Blank.blank raw = false ∧ Quantity.read raw = .error f

theorem parseOne_eq_error_iff : parseOne raw = .error f ↔ Fails raw f := by
  unfold parseOne Fails
  cases blank : Blank.blank raw with
  | true => simp
  | false => cases read : Quantity.read raw <;> simp [Except.map]

theorem parseOne_eq_ok_iff {limit : Option Quantity} : parseOne raw = .ok limit ↔
    (∀ f, ¬ Fails raw f) ∧ ∀ q, limit = some q ↔ Sets raw q := by
  unfold parseOne Fails Sets
  cases blank : Blank.blank raw with
  | true => simpa using eq_comm.trans Option.eq_none_iff_forall_ne_some
  | false =>
    cases read : Quantity.read raw with
    | error f => simp [Except.map]
    | ok q => cases limit <;> simp [Except.map, eq_comm]

theorem exists_parseOne_iff : (∃ limit, parseOne raw = .ok limit) ↔ ∀ f, ¬ Fails raw f := by
  simp only [← parseOne_eq_error_iff]
  cases parseOne raw <;> simp

theorem parse_eq_ok : parse cpu memory = .ok l ↔
    parseOne cpu = .ok l.cpu ∧ parseOne memory = .ok l.memory := by
  unfold parse
  obtain ⟨c, m⟩ := l
  cases parseOne cpu <;> cases parseOne memory <;> simp [bind, Except.bind, pure, Except.pure]

theorem parse_eq_error : parse cpu memory = .error f ↔
    parseOne cpu = .error f ∨ (∃ limit, parseOne cpu = .ok limit) ∧ parseOne memory = .error f := by
  unfold parse
  cases parseOne cpu <;> cases parseOne memory <;> simp [bind, Except.bind, pure, Except.pure]

theorem mem_entries {kind : String} : (kind, q) ∈ l.entries ↔
    kind = "cpu" ∧ l.cpu = some q ∨ kind = "memory" ∧ l.memory = some q := by
  simp [entries, eq_comm, and_comm]

/-- The set has an entry for each text that sets a limit, and no other. -/
theorem parse_eq_ok_iff : parse cpu memory = .ok l ↔
    (∀ raw ∈ [cpu, memory], ∀ f, ¬ Fails raw f) ∧ ∀ kind q, (kind, q) ∈ l.entries ↔
      ∃ raw, (kind, raw) ∈ [("cpu", cpu), ("memory", memory)] ∧ Sets raw q := by
  have entry : ∀ kind q, (∃ raw, (kind, raw) ∈ [("cpu", cpu), ("memory", memory)] ∧ Sets raw q) ↔
      kind = "cpu" ∧ Sets cpu q ∨ kind = "memory" ∧ Sets memory q := by
    intro kind q
    simp [or_and_right, exists_or, and_assoc]
  have readable : (∀ raw ∈ [cpu, memory], ∀ f, ¬ Fails raw f) ↔
      (∀ f, ¬ Fails cpu f) ∧ ∀ f, ¬ Fails memory f := by
    simp
  simp only [parse_eq_ok, parseOne_eq_ok_iff, readable, entry, mem_entries]
  constructor
  · rintro ⟨⟨readsCpu, setsCpu⟩, readsMemory, setsMemory⟩
    refine ⟨⟨readsCpu, readsMemory⟩, ?_⟩
    intro kind q
    rw [setsCpu, setsMemory]
  · rintro ⟨⟨readsCpu, readsMemory⟩, sets⟩
    refine ⟨⟨readsCpu, ?_⟩, readsMemory, ?_⟩
    · intro q
      simpa using sets "cpu" q
    · intro q
      simpa using sets "memory" q

/-- A set fails with the first of its texts that cannot be read. -/
theorem parse_eq_error_iff : parse cpu memory = .error f ↔
    Fails cpu f ∨ (∀ f, ¬ Fails cpu f) ∧ Fails memory f := by
  rw [parse_eq_error, parseOne_eq_error_iff, parseOne_eq_error_iff, exists_parseOne_iff]

/-- Limits are read by the grammar of quantities.  The grammar is that of the pattern, and it leaves
one way to part a quantity.  What was read is read again as it is; what cannot be read is reported as
it was given.  A set of limits has an entry for each text that is not blank, or else it fails with
the first of them that cannot be read. -/
theorem grammar :
    (∀ s, s ∈ Quantity.pattern.matches' ↔ Quantity.Written s) ∧
    (∀ s, Quantity.Written s ↔ ∃! parts : List Char × List Char × List Char,
      Quantity.Parts s parts.1 parts.2.1 parts.2.2) ∧
    (∀ raw q, Quantity.read raw = .ok q ↔
      Blank.Padded Blank.isBlank q.text.toList raw.toList ∧ Quantity.Written q.text.toList) ∧
    (∀ raw, (Quantity.read raw).bind (fun q => Quantity.read q.text) = Quantity.read raw) ∧
    (∀ raw f, Quantity.read raw = .error f ↔
      f = ⟨raw, if Blank.blank raw then .empty else .malformed⟩ ∧
        ∀ s, Blank.Padded Blank.isBlank s raw.toList → ¬ Quantity.Written s) ∧
    (∀ cpu memory l, parse cpu memory = .ok l ↔
      (∀ raw ∈ [cpu, memory], ∀ f, ¬ Fails raw f) ∧ ∀ kind q, (kind, q) ∈ l.entries ↔
        ∃ raw, (kind, raw) ∈ [("cpu", cpu), ("memory", memory)] ∧ Sets raw q) ∧
    (∀ cpu memory f, parse cpu memory = .error f ↔
      Fails cpu f ∨ (∀ f, ¬ Fails cpu f) ∧ Fails memory f) :=
  ⟨fun _ => Quantity.mem_pattern_iff, fun _ => Quantity.written_iff,
    fun _ _ => Quantity.read_eq_ok_iff, Quantity.read_bind_read,
    fun _ _ => Quantity.read_eq_error_iff, fun _ _ _ => parse_eq_ok_iff,
    fun _ _ _ => parse_eq_error_iff⟩

end Limits

end PodRunner
