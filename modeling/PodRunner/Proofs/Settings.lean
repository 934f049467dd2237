import PodRunner.Config
import PodRunner.Proofs.Records

/-!
# Configurations as documents

A configuration is read back from what is written of it, with its records as objects or as lists of
their fields.  Fields that are left out are read as those of the default records, so it makes no
difference to write them, and unknown fields make no difference either
(`Config.reads_back`).
-/

namespace PodRunner

/-! ## Single fields -/

section Fields

variable (key : String)

theorem reads_text (dflt s : String) :
    Reads (fun src : Fields Value => src.optional key Format.text dflt) [(key, .text s)] s :=
  reads_field rfl

theorem option_ofText? (s : Option String) :
    Format.option Format.text (Value.ofText? s) = .ok s := by
  cases s <;> rfl

theorem reads_text? (s : Option String) :
    Reads (fun src : Fields Value => src.maybe key Format.text) [(key, .ofText? s)] s :=
  reads_optional (option_ofText? s)

theorem reads_flag (dflt b : Bool) :
    Reads (fun src : Fields Value => src.optional key Format.flag dflt) [(key, .bool b)] b :=
  reads_field rfl

theorem natural_ofNat (kind : String) (n : Nat) : Format.natural kind (Value.ofNat n) = .ok n := by
  have positive : (0 : Int) ≤ n := Int.natCast_nonneg n
  show (if (0 : Int) ≤ n then .ok (n : Int).toNat
    else .error (.wrongValue (.int n) kind) : Decoded Nat) = _
  rw [if_pos positive]
  rfl

theorem reads_natural (kind : String) (dflt n : Nat) :
    Reads (fun src : Fields Value => src.optional key (Format.natural kind) dflt)
      [(key, .ofNat n)] n :=
  reads_field (natural_ofNat kind n)

theorem indifferent_text (s : String) : Indifferent
    (fun src : Fields Value => src.optional key Format.text s) [] [(key, .text s)] :=
  indifferent_optional rfl

theorem indifferent_text? : Indifferent
    (fun src : Fields Value => src.maybe key Format.text) [] [(key, .null)] :=
  indifferent_optional rfl

theorem indifferent_flag (b : Bool) : Indifferent
    (fun src : Fields Value => src.optional key Format.flag b) [] [(key, .bool b)] :=
  indifferent_optional rfl

theorem indifferent_natural (kind : String) (n : Nat) : Indifferent
    (fun src : Fields Value => src.optional key (Format.natural kind) n) [] [(key, .ofNat n)] :=
  indifferent_optional (natural_ofNat kind n)

end Fields

/-- A list is read back if each of its items is. -/
theorem list_map {α : Type} {read : Value → Decoded α} {write : α → Value}
    (h : ∀ a, read (write a) = .ok a) (xs : List α) :
    Format.list read (.list (xs.map write)) = .ok xs := by
  show (xs.map write).mapM read = .ok xs
  rw [mapM_eq_ok_iff, List.forall₂_map_left_iff]
  exact List.forall₂_same.2 fun a _ => h a

/-! ## Settings of a cluster -/

namespace ClusterSettings

theorem reads_readFields (s : ClusterSettings) :
    Reads readFields (fieldNames.zip s.fieldValues) s := by
  have r := (reads_text "namespace" defaultNamespace s.ns).map mk
  have r := r.seq (reads_text? "host" s.host)
  have r := r.seq (reads_text? "kubeconfig" s.kubeconfig)
  have r := r.seq (reads_text? "context" s.context)
  have r := r.seq (reads_flag "acceptInvalidCerts" false s.acceptInvalidCerts)
  have r := r.seq (reads_text? "image" s.image)
  have r := r.seq (reads_text "helperImage" defaultHelperImage s.helperImage)
  have r := r.seq (reads_text "cpus" "" s.cpus)
  have r := r.seq (reads_text "memory" "" s.memory)
  have r := r.seq (reads_text "serviceCpus" "" s.serviceCpus)
  have r := r.seq (reads_text "serviceMemory" "" s.serviceMemory)
  have r := r.seq (reads_flag "allowPrivileged" false s.allowPrivileged)
  have r := r.seq
    (reads_natural "pollIntervalSeconds" "u64" defaultPollInterval s.pollIntervalSeconds)
  have r := r.seq (reads_natural "pollTimeoutSeconds" "u64" defaultPollTimeout s.pollTimeoutSeconds)
  exact r

theorem indifferent_readFields : Indifferent readFields []
    (fieldNames.zip (fieldValues {})) := by
  have r := (indifferent_text "namespace" defaultNamespace).map mk
  have r := r.seq (indifferent_text? "host")
  have r := r.seq (indifferent_text? "kubeconfig")
  have r := r.seq (indifferent_text? "context")
  have r := r.seq (indifferent_flag "acceptInvalidCerts" false)
  have r := r.seq (indifferent_text? "image")
  have r := r.seq (indifferent_text "helperImage" defaultHelperImage)
  have r := r.seq (indifferent_text "cpus" "")
  have r := r.seq (indifferent_text "memory" "")
  have r := r.seq (indifferent_text "serviceCpus" "")
  have r := r.seq (indifferent_text "serviceMemory" "")
  have r := r.seq (indifferent_flag "allowPrivileged" false)
  have r := r.seq (indifferent_natural "pollIntervalSeconds" "u64" defaultPollInterval)
  exact r.seq (indifferent_natural "pollTimeoutSeconds" "u64" defaultPollTimeout)

theorem nodup_fieldNames : fieldNames.Nodup := by decide

theorem read_toValue (s : ClusterSettings) : read s.toValue = .ok s :=
  s.reads_readFields.record_ofFields nodup_fieldNames

theorem read_toPositional (s : ClusterSettings) : read s.toPositional = .ok s :=
  s.reads_readFields.record_list nodup_fieldNames rfl

end ClusterSettings

/-! ## Runners -/

namespace Runner

/-- The reading of a runner gives it back from any way of writing settings that are read back. -/
theorem reads_readFields {write : ClusterSettings → Value}
    (h : ∀ s, ClusterSettings.read (write s) = .ok s) (r : Runner) :
    Reads readFields (fieldNames.zip [Value.text r.name, Value.text r.executor, Value.text r.token,
      write r.cluster]) r := by
  have name : Reads (fun src : Fields Value => src.required "name" Format.text)
      [("name", .text r.name)] r.name := reads_field rfl
  have r' := (name.map mk).seq (reads_text "executor" defaultExecutor r.executor)
  have r' := r'.seq (reads_text "token" "" r.token)
  exact r'.seq (reads_optional (h r.cluster))

theorem indifferent_readFields {v : Value} (h : ClusterSettings.read v = .ok {}) :
    Indifferent readFields ["name"]
      [("executor", .text defaultExecutor), ("token", .text ""), ("kubernetes", v)] := by
  have name : Indifferent (fun src : Fields Value => src.required "name" Format.text) ["name"] [] :=
    indifferent_required
  have r := (name.map mk).seq (indifferent_text "executor" defaultExecutor)
  have r := r.seq (indifferent_text "token" "")
  exact r.seq (indifferent_optional h)

/-- Empty settings are those of a runner without settings. -/
theorem read_append_settings {fields : List (String × Value)} {r : Runner}
    (missing : (Value.ofFields fields).field? "kubernetes" = none) :
    read (Value.ofFields (fields ++ [("kubernetes", .object [])])) = .ok r ↔
      read (Value.ofFields fields) = .ok r := by
  let empty : Value := .object []
  let lacking : Fields Value := .ofObject "RunnerConfig" fieldNames (.ofFields fields)
  let having : Fields Value :=
    .ofObject "RunnerConfig" fieldNames (.ofFields (fields ++ [("kubernetes", empty)]))
  have value (key : String) : having.value? key =
      if key = "kubernetes" then some empty else lacking.value? key := by
    show (Value.ofFields (fields ++ [("kubernetes", empty)])).field? key = _
    rw [Value.field?_append, Value.field?_ofFields [_], List.reverse_singleton, Value.lookup_cons]
    split <;> rfl
  have other (key : String) (h : key ≠ "kubernetes") : having.value? key = lacking.value? key :=
    (value key).trans (if_neg h)
  have level : ∀ f ∈ [("executor", .text defaultExecutor), ("token", .text ""),
      ("kubernetes", empty)], Level f.2 (lacking.value? f.1) (having.value? f.1) := by
    rw [List.forall_mem_cons, List.forall_mem_cons, List.forall_mem_singleton]
    exact ⟨.inl (other _ (by decide)), .inl (other _ (by decide)), .inr (.inl ⟨missing, value _⟩)⟩
  have name := other "name" (by decide)
  have indifferent := indifferent_readFields (show ClusterSettings.read empty = .ok {} from rfl)
  unfold read
  rw [record_ofFields_eq_ok_iff, record_ofFields_eq_ok_iff]
  constructor
  · exact indifferent having lacking (List.forall_mem_singleton.2 (.inl name.symm))
      (fun f hf => (level f hf).symm) r
  · exact indifferent lacking having (List.forall_mem_singleton.2 (.inl name)) level r

theorem nodup_fieldNames : fieldNames.Nodup := by decide

theorem read_toValue (r : Runner) : read r.toValue = .ok r :=
  (r.reads_readFields ClusterSettings.read_toValue).record_ofFields nodup_fieldNames

theorem read_toPositional (r : Runner) : read r.toPositional = .ok r :=
  (r.reads_readFields ClusterSettings.read_toPositional).record_list nodup_fieldNames rfl

end Runner

/-! ## Configurations -/

namespace Config

theorem reads_readFields {write : Runner → Value} (h : ∀ r, Runner.read (write r) = .ok r)
    (c : Config) :
    Reads readFields
      (fieldNames.zip [Value.ofNat c.concurrent, Value.list (c.runners.map write)]) c := by
  have r := (reads_natural "concurrent" "usize" defaultConcurrent c.concurrent).map mk
  exact r.seq (reads_optional (list_map h c.runners))

theorem indifferent_readFields : Indifferent readFields []
    [("concurrent", Value.ofNat defaultConcurrent), ("runners", Value.list [])] := by
  have r := (indifferent_natural "concurrent" "usize" defaultConcurrent).map mk
  exact r.seq (indifferent_optional rfl)

theorem nodup_fieldNames : fieldNames.Nodup := by decide

theorem read_toValue (c : Config) : read c.toValue = .ok c :=
  (c.reads_readFields Runner.read_toValue).record_ofFields nodup_fieldNames

theorem read_toPositional (c : Config) : read c.toPositional = .ok c :=
  (c.reads_readFields Runner.read_toPositional).record_list nodup_fieldNames rfl

/-- What is written of a configuration is read back, with its records as objects or as lists of
their fields.  What is read from an object stays the same if missing fields are added with the
values that they have in the default record, or unknown fields with any values.  A runner without
settings is read like one with empty settings. -/
theorem reads_back :
    (∀ c : Config, read c.toValue = .ok c ∧ read c.toPositional = .ok c) ∧
      (∀ fields extra c, Adds fieldNames (toValue {}) fields extra →
        read (Value.ofFields fields) = .ok c →
        read (Value.ofFields (fields ++ extra)) = .ok c) ∧
      (∀ name fields extra r, Adds Runner.fieldNames (Runner.toValue { name }) fields extra →
        Runner.read (Value.ofFields fields) = .ok r →
        Runner.read (Value.ofFields (fields ++ extra)) = .ok r) ∧
      (∀ fields extra s, Adds ClusterSettings.fieldNames (ClusterSettings.toValue {}) fields extra →
        ClusterSettings.read (Value.ofFields fields) = .ok s →
        ClusterSettings.read (Value.ofFields (fields ++ extra)) = .ok s) ∧
      ∀ fields r, (Value.ofFields fields).field? "kubernetes" = none →
        (Runner.read (Value.ofFields (fields ++ [("kubernetes", .object [])])) = .ok r ↔
          Runner.read (Value.ofFields fields) = .ok r) := by
  refine ⟨fun c => ⟨c.read_toValue, c.read_toPositional⟩, fun fields extra c adds => ?_,
    fun name fields extra r adds => ?_, fun fields extra s adds => ?_, fun fields r missing => ?_⟩
  · exact indifferent_readFields.record_append rfl nodup_fieldNames (List.Subset.refl _) adds
  · have settings := ClusterSettings.read_toValue {}
    exact (Runner.indifferent_readFields settings).record_append rfl Runner.nodup_fieldNames
      (List.subset_cons_self _ _) adds
  · exact ClusterSettings.indifferent_readFields.record_append rfl
      ClusterSettings.nodup_fieldNames (List.Subset.refl _) adds
  · exact Runner.read_append_settings missing

/-- Settings that name an image only, a runner of which only the name is given, and a configuration
with such a runner. -/
theorem sample_reads_back :
    let settings : List (String × Value) := [("image", .text "i")]
    let runner : List (String × Value) := [("name", .text "r")]
    let config : List (String × Value) := [("runners", .list [.ofFields runner])]
    ClusterSettings.read (Value.ofFields (settings ++ [("host", .null), ("cpus", .text "")])) =
        .ok { image := some "i" } ∧
      Runner.read (Value.ofFields (runner ++ [("token", .text ""), ("tags", .list [])])) =
        .ok { name := "r" } ∧
      Config.read (Value.ofFields (config ++ [("concurrent", .ofNat 1)])) =
        .ok { runners := [{ name := "r" }] } ∧
      Runner.read (Value.ofFields (runner ++ [("kubernetes", .object [])])) =
        .ok { name := "r" } := by
  intro settings runner config
  obtain ⟨-, ofConfig, ofRunner, ofSettings, lacking⟩ := reads_back
  have tags : "tags" ∉ Runner.fieldNames := by decide
  refine ⟨ofSettings settings _ _ ?_ rfl, ofRunner "r" runner _ _ ?_ rfl,
    ofConfig config _ _ ?_ rfl, (lacking _ _ rfl).2 rfl⟩
  · exact List.forall_mem_cons.2
      ⟨⟨rfl, fun _ => rfl⟩, List.forall_mem_singleton.2 ⟨rfl, fun _ => rfl⟩⟩
  · exact List.forall_mem_cons.2 ⟨⟨rfl, fun _ => rfl⟩,
      List.forall_mem_singleton.2 ⟨rfl, fun known => absurd known tags⟩⟩
  · exact List.forall_mem_singleton.2 ⟨rfl, fun _ => rfl⟩

end Config

end PodRunner
