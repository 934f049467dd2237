import Mathlib.Data.List.Forall2
import Mathlib.Data.List.Nodup
import Mathlib.Data.String.Basic
import PodRunner.Decode

/-!
# Reading records

What is read from a record depends on the values of its fields and not on their places.  A reading
that is put together field by field gives back what was written (`Reads`), and it does not care
whether a field is missing or has the value that stands for a missing one (`Indifferent`).  There is
one rule for each way in which readings are put together.  Where fields are read in the order of
their keys, the fault that is reported is that of the first one at fault (`mapError_seq`).
-/

namespace PodRunner

/-! ## Objects -/

namespace Value

/-- The keys are in ascending order, each of them once. -/
def Ascending (fields : List (String × Value)) : Prop :=
  (fields.map Prod.fst).Pairwise (· < ·)

variable {fields : List (String × Value)}

theorem mem_insertField {k : String} {v : Value} {f : String × Value}
    (h : f ∈ insertField k v fields) : f = (k, v) ∨ f ∈ fields := by
  induction fields with
  | nil => exact .inl (List.mem_singleton.1 h)
  | cons g fields ih =>
    obtain ⟨k', v'⟩ := g
    unfold insertField at h
    split_ifs at h
    · simpa using h
    · rcases List.mem_cons.1 h with rfl | h
      · exact .inl rfl
      · exact .inr (List.mem_cons_of_mem _ h)
    · rcases List.mem_cons.1 h with rfl | h
      · exact .inr List.mem_cons_self
      · exact (ih h).imp_right (List.mem_cons_of_mem _)

theorem Ascending.insertField (h : Ascending fields) (k : String) (v : Value) :
    Ascending (insertField k v fields) := by
  induction fields with
  | nil => simp [Ascending, Value.insertField]
  | cons g fields ih =>
    obtain ⟨k', v'⟩ := g
    obtain ⟨first, rest⟩ := List.pairwise_cons.1 h
    unfold Value.insertField
    split_ifs with before same
    · refine List.pairwise_cons.2 ⟨fun l hl => ?_, h⟩
      rcases List.mem_cons.1 hl with rfl | hl
      · exact before
      · exact before.trans (first l hl)
    · rw [same]
      exact h
    · have after : k' < k := lt_of_le_of_ne (not_lt.1 before) (Ne.symm same)
      refine List.pairwise_cons.2 ⟨fun l hl => ?_, ih rest⟩
      obtain ⟨f, hf, rfl⟩ := List.mem_map.1 hl
      rcases mem_insertField hf with rfl | hf
      · exact after
      · exact first _ (List.mem_map_of_mem hf)

theorem ascending_fields_ofFields (fields : List (String × Value)) :
    Ascending (ofFields fields).fields := by
  suffices along : ∀ acc, Ascending acc →
      Ascending (fields.foldl (fun acc f => Value.insertField f.1 f.2 acc) acc) from
    along [] List.Pairwise.nil
  intro acc h
  induction fields generalizing acc with
  | nil => exact h
  | cons f fields ih => exact ih _ (h.insertField f.1 f.2)

theorem Ascending.nodup (h : Ascending fields) : (fields.map Prod.fst).Nodup :=
  h.imp fun before => before.ne

end Value

/-! ## Fields -/

section Lookup

variable {ν : Type} {fields : List (String × ν)} {key : String} {v : ν}

theorem mem_of_lookup (h : fields.lookup key = some v) : (key, v) ∈ fields := by
  obtain ⟨before, after, rfl, -⟩ := List.lookup_eq_some_iff.1 h
  exact List.mem_append_right _ List.mem_cons_self

theorem lookup_of_mem (distinct : (fields.map Prod.fst).Nodup) (h : (key, v) ∈ fields) :
    fields.lookup key = some v := by
  obtain ⟨before, after, rfl⟩ := List.append_of_mem h
  rw [List.map_append, List.map_cons, List.nodup_append] at distinct
  refine List.lookup_eq_some_iff.2 ⟨before, after, rfl, fun f hf => ?_⟩
  have other : f.1 ≠ key := distinct.2.2 f.1 (List.mem_map_of_mem hf) key List.mem_cons_self
  exact bne_iff_ne.2 other.symm

end Lookup

namespace Fields

variable {ν α : Type} {src : Fields ν} {key : String} {read : ν → Decoded α} {dflt : Option α}
variable {a : α}

/-- The value of a field. -/
def value? (src : Fields ν) (key : String) : Option ν := src.entries.lookup key

theorem find?_go_eq (key : String) (i : Nat) (entries : List (String × ν)) :
    (find?.go key i entries).map Prod.snd = entries.lookup key := by
  induction entries generalizing i with
  | nil => rfl
  | cons f entries ih =>
    obtain ⟨k, v⟩ := f
    rw [find?.go, List.lookup_cons]
    by_cases same : k = key
    · rw [if_pos same, same, beq_self_eq_true]
      rfl
    · rw [if_neg same, beq_false_of_ne (Ne.symm same)]
      exact ih (i + 1)

theorem value?_of_find? {i : Nat} {v : ν} (h : src.find? key = some (i, v)) :
    src.value? key = some v := by
  rw [value?, ← find?_go_eq key 0]
  exact congrArg (Option.map Prod.snd) h

theorem value?_eq_none_iff : src.value? key = none ↔ src.find? key = none := by
  rw [value?, ← find?_go_eq key 0]
  exact Option.map_eq_none_iff

theorem fieldOr_of_value? {v : ν} (there : src.value? key = some v) (h : read v = .ok a) :
    src.fieldOr key read dflt = .ok a := by
  cases found : src.find? key with
  | none =>
    rw [value?_eq_none_iff.2 found] at there
    cases there
  | some f =>
    obtain rfl : f.2 = v := Option.some.inj ((value?_of_find? found).symm.trans there)
    simp only [fieldOr, found, h]
    rfl

theorem optional_of_missing {d : α} (missing : src.value? key = none) :
    src.optional key read d = .ok d := by
  unfold optional fieldOr
  rw [value?_eq_none_iff.1 missing]

/-- A field gives what is read from its value, or what stands for one that is not there. -/
theorem cases_of_fieldOr (h : src.fieldOr key read dflt = .ok a) :
    (∃ v, src.value? key = some v ∧ read v = .ok a) ∨ src.value? key = none ∧ dflt = some a := by
  unfold fieldOr at h
  cases found : src.find? key with
  | none =>
    refine .inr ⟨value?_eq_none_iff.2 found, ?_⟩
    cases dflt with
    | none => simp only [found] at h; cases h
    | some d => simp only [found] at h; exact congrArg some (Except.ok.inj h)
  | some f =>
    refine .inl ⟨f.2, value?_of_find? found, ?_⟩
    simp only [found] at h
    cases gives : read f.2 with
    | error e => rw [gives] at h; cases h
    | ok b => rw [gives] at h; exact congrArg Except.ok (Except.ok.inj h)

end Fields

/-! ## Parts of a reading -/

namespace Reading

variable {α β : Type}

theorem exists_of_map {f : α → β} {x : Reading α} {b : β} (h : (f <$> x : Reading β) = .ok b) :
    ∃ a, x = .ok a ∧ f a = b := by
  cases x with
  | error e => cases h
  | ok a => exact ⟨a, rfl, Except.ok.inj h⟩

theorem error_of_map {f : α → β} {x : Reading α} {e : Nat × DecodeError}
    (h : (f <$> x : Reading β) = .error e) : x = .error e := by
  cases x with
  | error e' => exact congrArg Except.error (Except.error.inj h)
  | ok a => cases h

theorem exists_of_seq {f : Reading (α → β)} {x : Reading α} {b : β}
    (h : (f <*> x : Reading β) = .ok b) : ∃ g a, f = .ok g ∧ x = .ok a ∧ g a = b := by
  cases f with
  | error e =>
    cases x with
    | error e' =>
      have either : (if e'.1 < e.1 then Except.error e' else Except.error e) = Except.ok b := h
      split at either <;> cases either
    | ok a => cases h
  | ok g =>
    cases x with
    | error e => cases h
    | ok a => exact ⟨g, a, rfl, rfl, Except.ok.inj h⟩

end Reading

section Rules

variable {ν α β : Type} {R : Fields ν → Reading α} {F : Fields ν → Reading (α → β)}
variable {fields fields' : List (String × ν)} {required required' : List String} {key : String}
variable {read : ν → Decoded α} {dflt : Option α} {v : ν} {a : α}

/-- Whatever else a record has, these fields give this value. -/
def Reads (R : Fields ν → Reading α) (fields : List (String × ν)) (a : α) : Prop :=
  ∀ src : Fields ν, (∀ f ∈ fields, src.value? f.1 = some f.2) → R src = .ok a

theorem reads_field (h : read v = .ok a) :
    Reads (fun src => src.fieldOr key read dflt) [(key, v)] a := by
  intro src there
  exact Fields.fieldOr_of_value? (there (key, v) (List.mem_singleton_self _)) h

theorem reads_optional {d : α} (h : read v = .ok a) :
    Reads (fun src => src.optional key read d) [(key, v)] a := reads_field h

theorem Reads.map (h : Reads R fields a) (g : α → β) :
    Reads (fun src => g <$> R src) fields (g a) := by
  intro src there
  show g <$> R src = _
  rw [h src there]
  rfl

theorem Reads.seq {g : α → β} (hf : Reads F fields g) (h : Reads R fields' a) :
    Reads (fun src => F src <*> R src) (fields ++ fields') (g a) := by
  intro src there
  obtain ⟨first, second⟩ := List.forall_mem_append.1 there
  show F src <*> R src = _
  rw [hf src first, h src second]
  rfl

/-- The field is the same, or the value stands where it is missing. -/
def Level (v : ν) (o o' : Option ν) : Prop :=
  o' = o ∨ o = none ∧ o' = some v ∨ o = some v ∧ o' = none

theorem Level.symm {o o' : Option ν} (h : Level v o o') : Level v o' o := by
  rcases h with same | ⟨missing, there⟩ | ⟨there, missing⟩
  · exact .inl same.symm
  · exact .inr (.inr ⟨there, missing⟩)
  · exact .inr (.inl ⟨missing, there⟩)

/-- The reading does not care whether fields that are not required have these values or are
missing. -/
def Indifferent (R : Fields ν → Reading α) (required : List String)
    (dflts : List (String × ν)) : Prop :=
  ∀ src src' : Fields ν,
    (∀ key ∈ required, src'.value? key = src.value? key ∨ src.value? key = none) →
    (∀ f ∈ dflts, Level f.2 (src.value? f.1) (src'.value? f.1)) →
    ∀ a, R src = .ok a → R src' = .ok a

theorem indifferent_required : Indifferent (fun src => src.required key read) [key] [] := by
  intro src src' same _ a h
  rcases Fields.cases_of_fieldOr h with ⟨v, there, gives⟩ | ⟨_, ⟨⟩⟩
  rcases same key (List.mem_singleton_self _) with same | missing
  · exact Fields.fieldOr_of_value? (same.trans there) gives
  · rw [missing] at there
    cases there

theorem indifferent_optional {d : α} (h : read v = .ok d) :
    Indifferent (fun src => src.optional key read d) [] [(key, v)] := by
  intro src src' _ level a given
  replace given : src.optional key read d = .ok a := given
  show src'.optional key read d = .ok a
  rcases level (key, v) (List.mem_singleton_self _) with same | ⟨missing, there⟩ | ⟨there, missing⟩
  · rcases Fields.cases_of_fieldOr given with ⟨w, there, gives⟩ | ⟨missing, dflt⟩
    · exact Fields.fieldOr_of_value? (same.trans there) gives
    · rw [← Option.some.inj dflt]
      exact Fields.optional_of_missing (same.trans missing)
  · rw [← given, Fields.optional_of_missing missing]
    exact Fields.fieldOr_of_value? there h
  · rw [← given, Fields.optional_of_missing missing]
    exact (Fields.fieldOr_of_value? there h).symm

theorem Indifferent.map (h : Indifferent R required fields) (g : α → β) :
    Indifferent (fun src => g <$> R src) required fields := by
  intro src src' same level b given
  obtain ⟨a, ha, rfl⟩ := Reading.exists_of_map given
  show g <$> R src' = _
  rw [h src src' same level a ha]
  rfl

theorem Indifferent.seq (hf : Indifferent F required fields)
    (h : Indifferent R required' fields') :
    Indifferent (fun src => F src <*> R src) (required ++ required') (fields ++ fields') := by
  intro src src' same level b given
  obtain ⟨g, a, hg, ha, rfl⟩ := Reading.exists_of_seq given
  obtain ⟨same₁, same₂⟩ := List.forall_mem_append.1 same
  obtain ⟨level₁, level₂⟩ := List.forall_mem_append.1 level
  show F src' <*> R src' = _
  rw [hf src src' same₁ level₁ g hg, h src src' same₂ level₂ a ha]
  rfl

end Rules

/-! ## Whole records -/

namespace Value

variable {fields : List (String × Value)} {k : String} {v : Value}

theorem mem_of_field? (h : (ofFields fields).field? k = some v) : (k, v) ∈ fields := by
  rw [field?_ofFields] at h
  exact List.mem_reverse.1 (mem_of_lookup h)

theorem field?_of_mem (distinct : (fields.map Prod.fst).Nodup) (h : (k, v) ∈ fields) :
    (ofFields fields).field? k = some v := by
  rw [field?_ofFields]
  refine lookup_of_mem ?_ (List.mem_reverse.2 h)
  rw [List.map_reverse]
  exact List.nodup_reverse.2 distinct

theorem field?_append (fields extra : List (String × Value)) (k : String) :
    (ofFields (fields ++ extra)).field? k =
      ((ofFields extra).field? k).or ((ofFields fields).field? k) := by
  rw [field?_ofFields, field?_ofFields, field?_ofFields, List.reverse_append, List.lookup_append]

end Value

section Records

variable {α : Type} {R : Fields Value → Reading α} {name : String} {declared : List String}
variable {fields extra : List (String × Value)} {xs : List Value} {a : α}

/-- The fields of an object. -/
def Fields.ofObject (name : String) (declared : List String) (v : Value) : Fields Value :=
  ⟨name, declared, false, v.fields, v.fields.length⟩

theorem record_of_fields {ν : Type} [Format ν] {R : Fields ν → Reading α} {v : ν} {src : Fields ν}
    (h : Format.fields name declared v = .ok src) : Format.record name declared R v =
      match R src with
      | .error e => .error e.2
      | .ok a =>
        if src.positional ∧ declared.length < src.size then .error (.tooMany src.size)
        else .ok a := by
  simp only [Format.record, h, bind, Except.bind]
  cases R src <;> rfl

theorem record_ofFields (R : Fields Value → Reading α) (name : String) (declared : List String)
    (fields : List (String × Value)) : Format.record name declared R (Value.ofFields fields) =
      Except.mapError Prod.snd (R (.ofObject name declared (.ofFields fields))) := by
  have distinct : Outline.distinct declared ((Value.ofFields fields).fields.map Prod.fst) = true :=
    List.all_eq_true.2 fun k _ => decide_eq_true
      (List.nodup_iff_count_le_one.1 (Value.ascending_fields_ofFields fields).nodup k)
  have outline : Format.fields name declared (Value.ofFields fields) =
      .ok (Fields.ofObject name declared (.ofFields fields)) := if_pos distinct
  rw [record_of_fields outline]
  cases R (.ofObject name declared (.ofFields fields)) <;> rfl

theorem record_ofFields_eq_ok_iff : Format.record name declared R (Value.ofFields fields) = .ok a ↔
    R (.ofObject name declared (.ofFields fields)) = .ok a := by
  rw [record_ofFields]
  cases R (.ofObject name declared (.ofFields fields)) with
  | error e => exact iff_of_false nofun nofun
  | ok a => exact ⟨fun h => congrArg _ (Except.ok.inj h), fun h => congrArg _ (Except.ok.inj h)⟩

/-- What is written as an object is read back. -/
theorem Reads.record_ofFields (h : Reads R fields a) (distinct : (fields.map Prod.fst).Nodup) :
    Format.record name declared R (Value.ofFields fields) = .ok a :=
  record_ofFields_eq_ok_iff.2 (h _ fun _ hf => Value.field?_of_mem distinct hf)

/-- What is written as the list of its fields is read back. -/
theorem Reads.record_list (h : Reads R (declared.zip xs) a) (distinct : declared.Nodup)
    (length : declared.length = xs.length) :
    Format.record name declared R (Value.list xs) = .ok a := by
  have keys : (declared.zip xs).map Prod.fst = declared := List.map_fst_zip length.le
  have read : R ⟨name, declared, true, declared.zip xs, xs.length⟩ = .ok a :=
    h _ fun _ hf => lookup_of_mem (keys.symm ▸ distinct) hf
  have outline : Format.fields name declared (Value.list xs) =
      .ok ⟨name, declared, true, declared.zip xs, xs.length⟩ := rfl
  rw [record_of_fields outline, read]
  exact if_neg fun surplus => Nat.lt_irrefl _ (length ▸ surplus.2)

/-- Only missing fields are added; known ones are added with the value that they have in `dflt`. -/
def Adds (declared : List String) (dflt : Value) (fields extra : List (String × Value)) : Prop :=
  ∀ f ∈ extra, (Value.ofFields fields).field? f.1 = none ∧
    (f.1 ∈ declared → dflt.field? f.1 = some f.2)

theorem Adds.cases {dflt : Value} (h : Adds declared dflt fields extra) (k : String) :
    (Value.ofFields (fields ++ extra)).field? k = (Value.ofFields fields).field? k ∨
      (Value.ofFields fields).field? k = none ∧
        ∃ v, (Value.ofFields (fields ++ extra)).field? k = some v ∧
          (k ∈ declared → dflt.field? k = some v) := by
  rw [Value.field?_append]
  cases added : (Value.ofFields extra).field? k with
  | none => exact .inl rfl
  | some v =>
    obtain ⟨missing, known⟩ := h (k, v) (Value.mem_of_field? added)
    exact .inr ⟨missing, v, rfl, known⟩

/-- It makes no difference to add fields that have their values in the record `all`. -/
theorem Indifferent.record_append {required : List String} {dflts all : List (String × Value)}
    (h : Indifferent R required dflts) (keys : all.map Prod.fst = declared)
    (distinct : declared.Nodup) (listed : dflts ⊆ all)
    (adds : Adds declared (.ofFields all) fields extra)
    (read : Format.record name declared R (Value.ofFields fields) = .ok a) :
    Format.record name declared R (Value.ofFields (fields ++ extra)) = .ok a := by
  rw [record_ofFields_eq_ok_iff] at read ⊢
  refine h _ _ (fun key _ => ?_) (fun f hf => ?_) a read
  · rcases adds.cases key with same | ⟨missing, -⟩
    · exact .inl same
    · exact .inr missing
  · have known : f.1 ∈ declared := keys ▸ List.mem_map_of_mem (listed hf)
    have has : (Value.ofFields all).field? f.1 = some f.2 :=
      Value.field?_of_mem (keys.symm ▸ distinct) (listed hf)
    rcases adds.cases f.1 with same | ⟨missing, v, there, value⟩
    · exact .inl same
    · obtain rfl : f.2 = v := Option.some.inj (has.symm.trans (value known))
      exact .inr (.inl ⟨missing, there⟩)

end Records

/-! ## Faults -/

section Faults

variable {α β : Type} {src : Fields Value} {key key' : String} {n i j : Nat} {v w : Value}
variable {fields : List (String × Value)}

theorem le_of_go (h : Fields.find?.go key n fields = some (i, v)) : n ≤ i := by
  induction fields generalizing n with
  | nil => cases h
  | cons f fields ih =>
    unfold Fields.find?.go at h
    split_ifs at h with here
    · cases h
      exact Nat.le_refl _
    · exact (Nat.le_succ n).trans (ih h)

/-- Of two fields the one of the smaller key stands first. -/
theorem Value.Ascending.lt_of_go (h : Value.Ascending fields) (order : key < key')
    (hk : Fields.find?.go key n fields = some (i, v))
    (hk' : Fields.find?.go key' n fields = some (j, w)) : i < j := by
  induction fields generalizing n with
  | nil => cases hk
  | cons f fields ih =>
    obtain ⟨first, rest⟩ := List.pairwise_cons.1 h
    unfold Fields.find?.go at hk hk'
    split_ifs at hk hk' with here here' here'
    · exact absurd (here.symm.trans here') order.ne
    · cases hk
      exact le_of_go hk'
    · -- The field of the greater key cannot stand before the other one.
      have there := congrArg (Option.map Prod.snd) hk
      rw [Fields.find?_go_eq] at there
      have after : f.1 < key := first key (List.mem_map_of_mem (mem_of_lookup there))
      exact absurd (order.trans (here' ▸ after)) (lt_irrefl _)
    · exact ih rest hk hk'

/-- What a field gives: what is read from its value, or what stands for one that is not there. -/
def readOr (read : Value → Decoded α) (dflt : α) : Option Value → Decoded α
  | some v => read v
  | none => .ok dflt

theorem mapError_optional (src : Fields Value) (key : String) (read : Value → Decoded α)
    (dflt : α) : Except.mapError Prod.snd (src.optional key read dflt) =
      readOr read dflt (src.value? key) := by
  unfold Fields.optional Fields.fieldOr
  cases found : src.find? key with
  | none =>
    rw [Fields.value?_eq_none_iff.2 found]
    rfl
  | some f =>
    rw [Fields.value?_of_find? found]
    show Except.mapError Prod.snd ((read f.2).mapError (f.1, ·)) = read f.2
    cases read f.2 <;> rfl

theorem place_of_error {read : Value → Decoded α} {dflt : α} {e : Nat × DecodeError}
    (h : src.optional key read dflt = .error e) : ∃ v, src.find? key = some (e.1, v) := by
  unfold Fields.optional Fields.fieldOr at h
  cases found : src.find? key with
  | none =>
    simp only [found] at h
    cases h
  | some f =>
    simp only [found] at h
    cases gives : read f.2 with
    | ok a =>
      rw [gives] at h
      cases h
    | error e' =>
      rw [gives] at h
      cases h
      exact ⟨f.2, rfl⟩

theorem mapError_map (f : α → β) (x : Reading α) :
    Except.mapError Prod.snd (f <$> x : Reading β) =
      (f <$> Except.mapError Prod.snd x : Decoded β) := by
  cases x <;> rfl

/-- Of two readings whose faults stand in order, the first one is that of the first reading. -/
theorem mapError_seq {f : Reading (α → β)} {x : Reading α}
    (order : ∀ e e', f = .error e → x = .error e' → e.1 < e'.1) :
    Except.mapError Prod.snd (f <*> x : Reading β) =
      (Except.mapError Prod.snd f <*> Except.mapError Prod.snd x : Decoded β) := by
  cases f with
  | ok g => cases x <;> rfl
  | error e =>
    cases x with
    | ok a => rfl
    | error e' =>
      have first : ¬ e'.1 < e.1 := Nat.lt_asymm (order e e' rfl rfl)
      show Except.mapError Prod.snd (if e'.1 < e.1 then Except.error e' else Except.error e) = _
      rw [if_neg first]
      rfl

theorem map_seq_eq_ok_iff {γ : Type} {f : α → β → γ} {x : Decoded α} {y : Decoded β} {c : γ} :
    f <$> x <*> y = .ok c ↔ ∃ a b, x = .ok a ∧ y = .ok b ∧ f a b = c := by
  cases x with
  | error e => exact iff_of_false nofun (by simp)
  | ok a =>
    cases y with
    | error e => exact iff_of_false nofun (by simp)
    | ok b => simp [Seq.seq, Except.map, Except.bind]

end Faults

/-! ## Lists -/

theorem mapM_eq_ok_iff {ε α β : Type} {f : α → Except ε β} {xs : List α} {ys : List β} :
    xs.mapM f = .ok ys ↔ List.Forall₂ (fun x y => f x = .ok y) xs ys := by
  induction xs generalizing ys with
  | nil =>
    constructor
    · rintro ⟨⟩
      exact .nil
    · rintro ⟨⟩
      rfl
  | cons x xs ih =>
    rw [List.mapM_cons, List.forall₂_cons_left_iff]
    constructor
    · intro h
      cases first : f x with
      | error e => simp [first, bind, Except.bind] at h
      | ok y =>
        cases rest : xs.mapM f with
        | error e => simp [first, rest, bind, Except.bind] at h
        | ok zs =>
          simp only [first, rest, bind, Except.bind] at h
          exact ⟨y, zs, rfl, ih.1 rest, (Except.ok.inj h).symm⟩
    · rintro ⟨y, zs, first, rest, rfl⟩
      rw [first, ih.2 rest]
      rfl

end PodRunner
