import PodRunner.Proofs.Images
import PodRunner.Proofs.Records

/-!
# Options of a job

An object gives options if its image is a text, null or missing and its services are a list of texts
or missing (`JobOptions.Given`).  Decoding accepts exactly the options that an object gives and that
have no blank name in them.  Of the blank names it reports the image first, and then the first
service.  Nothing else in the object makes a difference (`JobOptions.decode_decides`).
-/

namespace PodRunner.JobOptions

/-- What an image field gives. -/
inductive GivesImage : Option Value → Option String → Prop
  | missing : GivesImage none none
  | null : GivesImage (some .null) none
  | text (image : String) : GivesImage (some (.text image)) (some image)

/-- What a services field gives. -/
inductive GivesServices : Option Value → List String → Prop
  | missing : GivesServices none []
  | list (services : List String) : GivesServices (some (.list (services.map .text))) services

/-- The object gives these options, whatever else it holds. -/
structure Given (v : Value) (o : JobOptions) : Prop where
  image : GivesImage (v.field? "image") o.image
  services : GivesServices (v.field? "services") o.services

/-- The service of this number is the first one with a blank name. -/
def FirstBlank (services : List String) (i : Nat) : Prop :=
  ∃ h : i < services.length, ¬ Visible services[i] ∧ ∀ j, ∀ hj : j < i, Visible services[j]

variable {o : JobOptions} {fields : List (String × Value)} {i : Nat}

/-! ## Reading -/

/-- The image is read before the services. -/
theorem read_ofFields (fields : List (String × Value)) : read (Value.ofFields fields) =
    mk <$> readOr (Format.option Format.text) none ((Value.ofFields fields).field? "image") <*>
      readOr (Format.list Format.text) [] ((Value.ofFields fields).field? "services") := by
  let src : Fields Value := .ofObject "JobOptions" fieldNames (.ofFields fields)
  let image : Reading (Option String) := src.maybe "image" Format.text
  let services : Reading (List String) := src.optional "services" (Format.list Format.text) []
  have order : ∀ e e', mk <$> image = .error e → services = .error e' → e.1 < e'.1 := by
    intro e e' faulty faulty'
    obtain ⟨v, place⟩ := place_of_error (Reading.error_of_map faulty)
    obtain ⟨w, place'⟩ := place_of_error faulty'
    exact (Value.ascending_fields_ofFields fields).lt_of_go (by decide) place place'
  let first : Reading (List String → JobOptions) := mk <$> image
  let whole : Reading JobOptions := first <*> services
  calc read (Value.ofFields fields)
    _ = Except.mapError Prod.snd whole := record_ofFields _ _ _ _
    _ = Except.mapError Prod.snd first <*> Except.mapError Prod.snd services := mapError_seq order
    _ = mk <$> Except.mapError Prod.snd image <*> Except.mapError Prod.snd services :=
      congrArg (· <*> Except.mapError Prod.snd services) (mapError_map mk image)
    _ = _ := congrArg₂ (fun (i : Decoded (Option String)) (s : Decoded (List String)) =>
      mk <$> i <*> s) (mapError_optional ..) (mapError_optional ..)

theorem readOr_image_eq_ok_iff {given : Option Value} {image : Option String} :
    readOr (Format.option Format.text) none given = .ok image ↔ GivesImage given image := by
  constructor
  · intro h
    rcases given with _ | (_ | b | n | x | s | xs | fs)
    · cases h
      exact .missing
    · cases h
      exact .null
    all_goals cases h
    exact .text s
  · rintro (_ | _ | s) <;> rfl

theorem text_eq_ok_iff {v : Value} {s : String} : Format.text v = .ok s ↔ v = .text s := by
  constructor
  · intro h
    cases v
    case text t => exact congrArg Value.text (Except.ok.inj h)
    all_goals cases h
  · rintro rfl
    rfl

theorem list_text_eq_ok_iff {xs : List Value} {services : List String} :
    Format.list Format.text (Value.list xs) = .ok services ↔ xs = services.map .text := by
  show xs.mapM Format.text = .ok services ↔ _
  simp only [mapM_eq_ok_iff, text_eq_ok_iff]
  rw [← List.forall₂_map_right_iff, List.forall₂_eq_eq_eq]

theorem readOr_services_eq_ok_iff {given : Option Value} {services : List String} :
    readOr (Format.list Format.text) [] given = .ok services ↔ GivesServices given services := by
  constructor
  · intro h
    rcases given with _ | (_ | b | n | x | s | xs | fs)
    · cases h
      exact .missing
    case some.list =>
      obtain rfl := list_text_eq_ok_iff.1 h
      exact .list services
    all_goals cases h
  · rintro (_ | services)
    · rfl
    · exact list_text_eq_ok_iff.2 rfl

theorem read_ofFields_eq_ok_iff :
    read (Value.ofFields fields) = .ok o ↔ Given (Value.ofFields fields) o := by
  rw [read_ofFields, map_seq_eq_ok_iff]
  simp only [readOr_image_eq_ok_iff, readOr_services_eq_ok_iff]
  constructor
  · rintro ⟨image, services, givesImage, givesServices, rfl⟩
    exact ⟨givesImage, givesServices⟩
  · rintro ⟨givesImage, givesServices⟩
    exact ⟨o.image, o.services, givesImage, givesServices, rfl⟩

/-! ## Faults -/

theorem fault?_eq_blankImage_iff : o.fault? = some .blankImage ↔ ¬ o.ImageVisible := by
  rw [imageVisible_iff]
  by_cases blank : o.image.any Blank.blank
  · simp [fault?, blank]
  · simp [fault?, blank]

theorem fault?_eq_blankService_iff :
    o.fault? = some (.blankService i) ↔ o.ImageVisible ∧ FirstBlank o.services i := by
  rw [imageVisible_iff]
  by_cases blank : o.image.any Blank.blank
  · simp [fault?, blank]
  · simp [fault?, blank, FirstBlank, visible_iff, List.findIdx?_eq_some_iff_getElem]

theorem fault?_ne_undecodable (e : DecodeError) : o.fault? ≠ some (.undecodable e) := by
  by_cases blank : o.image.any Blank.blank
  · simp [fault?, blank]
  · simp [fault?, blank]

/-! ## Decoding -/

/-- An object is read, and what was read is looked at for faults. -/
theorem decode_ofFields (fields : List (String × Value)) : decode (Value.ofFields fields) =
    match (read (Value.ofFields fields) : Decoded JobOptions) with
    | .error e => .error (.invalidOptions (.undecodable e))
    | .ok o =>
      match o.fault? with
      | some f => .error (.invalidOptions f)
      | none => .ok o := rfl

theorem decode_eq_ok_iff : decode (Value.ofFields fields) = .ok o ↔
    read (Value.ofFields fields) = .ok o ∧ o.fault? = none := by
  rw [decode_ofFields]
  cases (read (Value.ofFields fields) : Decoded JobOptions) with
  | error e => simp
  | ok o' =>
    dsimp only
    constructor
    · cases fault : o'.fault? with
      | some f => simp
      | none =>
        rintro ⟨⟩
        exact ⟨rfl, fault⟩
    · rintro ⟨⟨⟩, faultless⟩
      simp [faultless]

theorem decode_eq_fault_iff {f : OptionsFault} (decoded : ∀ e, f ≠ .undecodable e) :
    decode (Value.ofFields fields) = .error (.invalidOptions f) ↔
      ∃ o, read (Value.ofFields fields) = .ok o ∧ o.fault? = some f := by
  rw [decode_ofFields]
  cases (read (Value.ofFields fields) : Decoded JobOptions) with
  | error e => simp [(decoded e).symm]
  | ok o => cases fault : o.fault? <;> simp [fault]

theorem exists_decode_eq_undecodable_iff :
    (∃ e, decode (Value.ofFields fields) = .error (.invalidOptions (.undecodable e))) ↔
      ¬ ∃ o, read (Value.ofFields fields) = .ok o := by
  rw [decode_ofFields]
  cases (read (Value.ofFields fields) : Decoded JobOptions) with
  | error e => simp
  | ok o =>
    have readable (e : DecodeError) := o.fault?_ne_undecodable e
    cases fault : o.fault? with
    | some f => simpa [fault] using readable
    | none => simp [fault]

/-- What is decoded depends on the image and the services alone. -/
theorem decode_congr {fields fields' : List (String × Value)}
    (image : (Value.ofFields fields).field? "image" = (Value.ofFields fields').field? "image")
    (services :
      (Value.ofFields fields).field? "services" = (Value.ofFields fields').field? "services") :
    decode (Value.ofFields fields) = decode (Value.ofFields fields') := by
  have same : (read (Value.ofFields fields) : Decoded JobOptions) =
      read (Value.ofFields fields') := by
    rw [read_ofFields, read_ofFields, image, services]
  rw [decode_ofFields, decode_ofFields, same]

theorem given_toValue (o : JobOptions) : Given o.toValue o := by
  let written : List (String × Value) :=
    [("image", .ofText? o.image), ("services", .texts o.services)]
  have distinct : (written.map Prod.fst).Nodup := show fieldNames.Nodup by decide
  have image : o.toValue.field? "image" = some (.ofText? o.image) :=
    Value.field?_of_mem distinct List.mem_cons_self
  have services : o.toValue.field? "services" = some (.texts o.services) :=
    Value.field?_of_mem distinct (List.mem_cons_of_mem _ (List.mem_singleton_self _))
  constructor
  · rw [image]
    cases o.image with
    | none => exact .null
    | some i => exact .text i
  · rw [services]
    exact .list o.services

/-- An object is accepted exactly if it gives options without a blank name, and what it gives is
what is decoded.  A blank image is reported before any service, and then the first blank service; an
object that gives no options is refused as one that cannot be read.  Fields besides the image and
the services make no difference, null is decoded like an empty object, and options that were
accepted are read back from what is written of them. -/
theorem decode_decides :
    (∀ fields, let v := Value.ofFields fields
      (∀ o, decode v = .ok o ↔ Given v o ∧ o.ImageVisible ∧ ∀ s ∈ o.services, Visible s) ∧
      (decode v = .error (.invalidOptions .blankImage) ↔ ∃ o, Given v o ∧ ¬ o.ImageVisible) ∧
      (∀ i, decode v = .error (.invalidOptions (.blankService i)) ↔
        ∃ o, Given v o ∧ o.ImageVisible ∧ FirstBlank o.services i) ∧
      ((∃ e, decode v = .error (.invalidOptions (.undecodable e))) ↔ ¬ ∃ o, Given v o)) ∧
    (∀ fields fields', let v := Value.ofFields fields
      let v' := Value.ofFields fields'
      v.field? "image" = v'.field? "image" → v.field? "services" = v'.field? "services" →
        decode v = decode v') ∧
    decode .null = decode (.object []) ∧
    ∀ payload o, decode payload = .ok o → decode o.toValue = .ok o := by
  have accepts (fields) (o : JobOptions) : decode (Value.ofFields fields) = .ok o ↔
      Given (Value.ofFields fields) o ∧ o.ImageVisible ∧ ∀ s ∈ o.services, Visible s := by
    rw [decode_eq_ok_iff, read_ofFields_eq_ok_iff, fault?_eq_none_iff]
  refine ⟨fun fields => ⟨accepts fields, ?_, fun i => ?_, ?_⟩, fun _ _ => decode_congr, rfl,
    fun payload o decoded => ?_⟩
  · have other (e : DecodeError) : OptionsFault.blankImage ≠ .undecodable e := nofun
    simp only [decode_eq_fault_iff other, read_ofFields_eq_ok_iff, fault?_eq_blankImage_iff]
  · have other (e : DecodeError) : OptionsFault.blankService i ≠ .undecodable e := nofun
    simp only [decode_eq_fault_iff other, read_ofFields_eq_ok_iff, fault?_eq_blankService_iff]
  · simp only [exists_decode_eq_undecodable_iff, read_ofFields_eq_ok_iff]
  · exact (accepts _ o).2 ⟨o.given_toValue, visible_of_decode decoded⟩

/-- An image with a service whose name is blank, tags besides, and the image alone. -/
theorem sample_decode_decides :
    let fields : List (String × Value) :=
      [("image", .text "ruby"), ("services", .list [.text "db", .text " "])]
    let tagged : List (String × Value) := ("tags", .null) :: fields
    let imageOnly : JobOptions := { image := some "ruby" }
    decode (Value.ofFields tagged) = .error (.invalidOptions (.blankService 1)) ∧
      decode (Value.ofFields fields) = decode (Value.ofFields tagged) ∧
      decode imageOnly.toValue = .ok imageOnly := by
  intro fields tagged imageOnly
  obtain ⟨verdict, others, -, again⟩ := decode_decides
  have given : Given (Value.ofFields tagged) { image := some "ruby", services := ["db", " "] } :=
    ⟨.text "ruby", .list ["db", " "]⟩
  have ruby : Visible "ruby" := ⟨'r', by decide +kernel, by decide⟩
  have db : Visible "db" := ⟨'d', by decide +kernel, by decide⟩
  have blank : ¬ Visible " " := fun visible => visible_iff.1 visible (by decide +kernel)
  have first : FirstBlank ["db", " "] 1 := by
    refine ⟨by decide, blank, fun j hj => ?_⟩
    obtain rfl : j = 0 := by omega
    exact db
  have own : ImageVisible imageOnly := by
    rintro _ ⟨⟩
    exact ruby
  have accepted : decode (Value.ofFields [("image", .text "ruby")]) = .ok imageOnly :=
    ((verdict _).1 _).2 ⟨⟨.text "ruby", .missing⟩, own, nofun⟩
  refine ⟨((verdict tagged).2.2.1 1).2 ⟨_, given, ?_, first⟩, others _ _ rfl rfl,
    again _ _ accepted⟩
  rintro _ ⟨⟩
  exact ruby

end PodRunner.JobOptions
