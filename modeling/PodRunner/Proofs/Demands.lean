import PodRunner.Proofs.History
import PodRunner.Proofs.LimitSet

/-!
# What a preparation demands

Checks in order accept what meets all of their demands, and refuse anything else with what is
reported of the first demand that is not met (`Decides`).  There is one rule for each way in which
checks are put together; from these follow the demands of a runner's settings
(`ClusterSettings.decides_validate`), of limits (`Prepared.decides_readLimits`) and of a whole job
(`Prepared.decides_resolve`).  A preparation demands a connection besides.  If it succeeds, the job
is told its image, and its pod is made from what was settled (`Executor.prepare_decides`).
-/

namespace PodRunner

/-! ## Checks in order -/

/-- What must hold, and what may be reported where it does not. -/
structure Demand where
  holds : Prop
  report : Error → Prop

/-- What must hold, with the one error for it. -/
def Demand.of (holds : Prop) (e : Error) : Demand := ⟨holds, (· = e)⟩

/-- The error is reported of the first demand that does not hold. -/
inductive FirstBroken : List Demand → Error → Prop
  | here {d : Demand} {ds : List Demand} {e : Error} : ¬ d.holds → d.report e →
    FirstBroken (d :: ds) e
  | later {d : Demand} {ds : List Demand} {e : Error} : d.holds → FirstBroken ds e →
    FirstBroken (d :: ds) e

/-- The outcome is a value, and one with the property, if all demands hold, and otherwise what is
reported of the first one that does not. -/
structure Decides {α : Type} (r : Except Error α) (ds : List Demand) (P : α → Prop) : Prop where
  accepts : (∃ a, r = .ok a) ↔ ∀ d ∈ ds, d.holds
  refuses : ∀ e, r = .error e ↔ FirstBroken ds e
  settles : ∀ a, r = .ok a → P a

section Rules

variable {α β : Type} {r : Except Error α} {ds es : List Demand} {P : α → Prop} {e : Error}

theorem firstBroken_cons {d : Demand} :
    FirstBroken (d :: ds) e ↔ ¬ d.holds ∧ d.report e ∨ d.holds ∧ FirstBroken ds e := by
  constructor
  · rintro (⟨broken, reported⟩ | ⟨holds, rest⟩)
    · exact .inl ⟨broken, reported⟩
    · exact .inr ⟨holds, rest⟩
  · rintro (⟨broken, reported⟩ | ⟨holds, rest⟩)
    · exact .here broken reported
    · exact .later holds rest

theorem firstBroken_append :
    FirstBroken (ds ++ es) e ↔ FirstBroken ds e ∨ (∀ d ∈ ds, d.holds) ∧ FirstBroken es e := by
  induction ds with
  | nil =>
    have nothing : ¬ FirstBroken [] e := by rintro ⟨⟩
    simp [nothing]
  | cons d ds ih =>
    rw [List.cons_append, firstBroken_cons, firstBroken_cons, ih, List.forall_mem_cons]
    tauto

theorem decides_ok {a : α} (h : P a) : Decides (.ok a) [] P where
  accepts := by simp
  refuses e := by constructor <;> rintro ⟨⟩
  settles b same := Except.ok.inj same ▸ h

/-- A sequence of checks has the demands of its first part and then those of its second part. -/
theorem Decides.bind {f : α → Except Error β} {R : β → Prop} (h : Decides r ds P)
    (next : ∀ a, P a → Decides (f a) es R) : Decides (r >>= f) (ds ++ es) R := by
  cases r with
  | error e =>
    -- The second part is not reached, so none of its demands is reported.
    have broken : ¬ ∀ d ∈ ds, d.holds := by
      rw [← h.accepts]
      rintro ⟨a, ⟨⟩⟩
    refine ⟨⟨?_, fun hold => ?_⟩, fun e' => ?_, ?_⟩
    · rintro ⟨b, ⟨⟩⟩
    · exact absurd (fun d hd => hold d (List.mem_append_left es hd)) broken
    · rw [firstBroken_append, ← h.refuses, or_iff_left fun later => broken later.1]
      exact ⟨fun same => congrArg Except.error (Except.error.inj same),
        fun same => congrArg Except.error (Except.error.inj same)⟩
    · rintro b ⟨⟩
  | ok a =>
    -- All demands of the first part hold, so what is reported is left to the second part.
    have hold : ∀ d ∈ ds, d.holds := h.accepts.1 ⟨a, rfl⟩
    have unbroken : ∀ e, ¬ FirstBroken ds e := by
      intro e broken
      cases (h.refuses e).2 broken
    have rest := next a (h.settles a rfl)
    refine ⟨?_, fun e => ?_, rest.settles⟩
    · rw [List.forall_mem_append, and_iff_right hold]
      exact rest.accepts
    · rw [firstBroken_append, or_iff_right (unbroken e), and_iff_right hold]
      exact rest.refuses e

theorem Decides.met {d : Demand} (hold : d.holds) (h : Decides r ds P) : Decides r (d :: ds) P where
  accepts := by
    rw [List.forall_mem_cons, and_iff_right hold]
    exact h.accepts
  refuses e := by
    rw [firstBroken_cons, or_iff_right fun here => here.1 hold, and_iff_right hold]
    exact h.refuses e
  settles := h.settles

theorem decides_error {d : Demand} (broken : ¬ d.holds) (reports : ∀ e', d.report e' ↔ e' = e) :
    Decides (.error e) (d :: ds) P where
  accepts := by
    refine ⟨?_, fun hold => absurd (hold d List.mem_cons_self) broken⟩
    rintro ⟨a, ⟨⟩⟩
  refuses e' := by
    rw [firstBroken_cons, or_iff_left fun later => broken later.1, and_iff_right broken, reports]
    exact ⟨fun same => (Except.error.inj same).symm, fun same => congrArg Except.error same.symm⟩
  settles := by rintro a ⟨⟩

/-- Something is refused, or else it is checked further. -/
theorem Decides.unless {broken holds : Prop} [Decidable broken] (meaning : holds ↔ ¬ broken)
    (h : Decides r ds P) : Decides (if broken then .error e else r) (.of holds e :: ds) P := by
  by_cases refused : broken
  · rw [if_pos refused]
    exact decides_error (fun hold => meaning.1 hold refused) fun _ => Iff.rfl
  · rw [if_neg refused]
    exact h.met (meaning.2 refused)

/-- What is missing is refused, and what is there is checked further. -/
theorem Decides.option {o : Option β} {f : β → Except Error α} {Found : β → Prop}
    (meaning : ∀ b, o = some b ↔ Found b) (h : ∀ b, Found b → Decides (f b) ds P) :
    Decides (o.elim (.error e) f) (.of (∃ b, Found b) e :: ds) P := by
  cases o with
  | none =>
    refine decides_error ?_ fun _ => Iff.rfl
    rintro ⟨b, found⟩
    cases (meaning b).2 found
  | some b =>
    have found : Found b := (meaning b).1 rfl
    exact (h b found).met ⟨b, found⟩

end Rules

/-! ## The demands on a job -/

/-- The settings are those of a cluster that pods can be placed in. -/
def ClusterSettings.demands (s : ClusterSettings) : List Demand :=
  [.of (¬ Blank.blank s.ns) (.config .blankNamespace),
    .of (0 < s.pollIntervalSeconds) (.config .noInterval),
    .of (s.pollIntervalSeconds ≤ s.pollTimeoutSeconds)
      (.config (.shortTimeout s.pollTimeoutSeconds s.pollIntervalSeconds)),
    .of (¬ Blank.blank s.helperImage) (.config .blankHelperImage)]

theorem ClusterSettings.validate_eq (s : ClusterSettings) : s.validate =
    if Blank.blank s.ns then .error (.config .blankNamespace)
    else if s.pollIntervalSeconds = 0 then .error (.config .noInterval)
    else if s.pollTimeoutSeconds < s.pollIntervalSeconds then
      .error (.config (.shortTimeout s.pollTimeoutSeconds s.pollIntervalSeconds))
    else if Blank.blank s.helperImage then .error (.config .blankHelperImage)
    else .ok () := by
  unfold validate fault?
  split_ifs <;> rfl

theorem ClusterSettings.decides_validate (s : ClusterSettings) :
    Decides s.validate s.demands fun _ => True := by
  rw [validate_eq]
  refine .unless Iff.rfl (.unless Nat.pos_iff_ne_zero (.unless Nat.not_lt.symm ?_))
  exact .unless Iff.rfl (decides_ok trivial)

namespace Limits

/-- The text sets no limit, or is a quantity with white space around it. -/
def Readable (raw : String) : Prop :=
  Blank.blank raw ∨ ∃ s, Blank.Padded Blank.isBlank s raw.toList ∧ Quantity.Written s

def demand (raw : String) : Demand := .of (Readable raw) (.invalidQuantity raw .malformed)

/-- The limits are those that the texts set. -/
structure SetBy (l : Limits) (cpu memory : String) : Prop where
  cpu : ∀ q, l.cpu = some q ↔ Sets cpu q
  memory : ∀ q, l.memory = some q ↔ Sets memory q

theorem fails_iff {raw : String} {f : LimitFault} :
    Fails raw f ↔ ¬ Readable raw ∧ f = ⟨raw, .malformed⟩ := by
  rw [Fails, Quantity.read_eq_error_iff, Readable]
  cases Blank.blank raw <;> simp [and_comm]

theorem decides_parseOne (raw : String) :
    Decides ((parseOne raw).mapError LimitFault.toError) [demand raw]
      fun limit => ∀ q, limit = some q ↔ Sets raw q := by
  cases parsed : parseOne raw with
  | ok limit =>
    obtain ⟨unfailing, sets⟩ := parseOne_eq_ok_iff.1 parsed
    have readable : Readable raw := by
      by_contra unreadable
      exact unfailing _ (fails_iff.2 ⟨unreadable, rfl⟩)
    exact (decides_ok sets).met readable
  | error f =>
    obtain ⟨unreadable, rfl⟩ := fails_iff.1 (parseOne_eq_error_iff.1 parsed)
    exact decides_error unreadable fun _ => Iff.rfl

/-- Of a sequence the first failure is renamed, wherever it comes from. -/
theorem mapError_bind {ε ε' α β : Type} (r : Except ε α) (f : α → Except ε β) (g : ε → ε') :
    (r >>= f).mapError g = r.mapError g >>= fun a => (f a).mapError g := by
  cases r <;> rfl

theorem decides_parse (cpu memory : String) :
    Decides ((parse cpu memory).mapError LimitFault.toError) [demand cpu, demand memory]
      fun l => l.SetBy cpu memory := by
  rw [parse, mapError_bind]
  refine (decides_parseOne cpu).bind fun c setsCpu => ?_
  rw [mapError_bind]
  refine (decides_parseOne memory).bind fun m setsMemory => ?_
  exact decides_ok ⟨setsCpu, setsMemory⟩

end Limits

namespace Prepared

/-- The image of a job is its own, or else the runner's. -/
def ImageOf (runner : Runner) (job : Job) (image : String) : Prop :=
  job.options.image = some image ∨ job.options.image = none ∧ runner.cluster.image = some image

/-- What a job demands of itself and of the runner, in order. -/
def demands (runner : Runner) (job : Job) : List Demand :=
  .of (¬ job.shell.passFile) (.unsupportedShell job.shell.name) ::
    (runner.cluster.demands ++
      [.of (∃ image, ImageOf runner job image) (.config .noImage),
        .of (job.variables.privileged → runner.cluster.allowPrivileged) .privilegedNotAllowed,
        Limits.demand runner.cluster.serviceCpus, Limits.demand runner.cluster.serviceMemory,
        Limits.demand runner.cluster.cpus, Limits.demand runner.cluster.memory])

/-- The job is settled as it was declared, with the limits that the settings set. -/
structure Settles (runner : Runner) (job : Job) (p : Prepared) : Prop where
  ofRunner : p.runner = runner
  ofJob : p.job = job
  image : ImageOf runner job p.image
  privileged : p.privileged = job.variables.privileged
  serviceLimits : p.serviceLimits.SetBy runner.cluster.serviceCpus runner.cluster.serviceMemory
  buildLimits : p.buildLimits.SetBy runner.cluster.cpus runner.cluster.memory

theorem decides_readLimits (s : ClusterSettings) :
    Decides ((readLimits s).mapError LimitFault.toError)
      [Limits.demand s.serviceCpus, Limits.demand s.serviceMemory, Limits.demand s.cpus,
        Limits.demand s.memory]
      fun l => l.1.SetBy s.serviceCpus s.serviceMemory ∧ l.2.SetBy s.cpus s.memory := by
  rw [readLimits, Limits.mapError_bind]
  refine (Limits.decides_parse _ _).bind fun service setsService => ?_
  rw [Limits.mapError_bind]
  refine (Limits.decides_parse _ _).bind fun build setsBuild => ?_
  exact decides_ok ⟨setsService, setsBuild⟩

/-- The checks of a job, put together from simpler ones. -/
theorem resolve_eq_checks (runner : Runner) (job : Job) : resolve runner job =
    if job.shell.passFile then .error (.unsupportedShell job.shell.name)
    else runner.cluster.validate >>= fun _ =>
      (job.options.image <|> runner.cluster.image).elim (.error (.config .noImage)) fun image =>
        if job.variables.privileged && !runner.cluster.allowPrivileged then
          .error .privilegedNotAllowed
        else (readLimits runner.cluster).mapError LimitFault.toError >>= fun l =>
          .ok ⟨runner, job, image, job.variables.privileged, l.2, l.1⟩ := by
  cases image : (job.options.image <|> runner.cluster.image) <;>
    simp only [resolve, image] <;> rfl

theorem orElse_eq_some_iff (runner : Runner) (job : Job) (image : String) :
    (job.options.image <|> runner.cluster.image) = some image ↔ ImageOf runner job image := by
  cases own : job.options.image <;> simp [ImageOf, own]

/-- A job is settled if all its demands hold, and otherwise the first broken one is reported. -/
theorem decides_resolve (runner : Runner) (job : Job) :
    Decides (resolve runner job) (demands runner job) (Settles runner job) := by
  rw [resolve_eq_checks]
  refine .unless Iff.rfl (runner.cluster.decides_validate.bind fun _ _ => ?_)
  refine .option (orElse_eq_some_iff runner job) fun image named => ?_
  have allowed : (job.variables.privileged → runner.cluster.allowPrivileged) ↔
      ¬ (job.variables.privileged && !runner.cluster.allowPrivileged) := by
    simp
  refine .unless allowed ((decides_readLimits runner.cluster).bind fun l set => ?_)
  exact decides_ok ⟨rfl, rfl, named, rfl, set.1, set.2⟩

section

variable {runner : Runner} {job : Job} {p : Prepared} (resolved : resolve runner job = .ok p)
include resolved

theorem settles_of_resolve : Settles runner job p := (decides_resolve runner job).settles p resolved

theorem holds_of_resolve : ∀ d ∈ demands runner job, d.holds :=
  (decides_resolve runner job).accepts.1 ⟨p, resolved⟩

end

/-- The image, the limits and the privilege of each container are those that were settled. -/
theorem map_containers (p : Prepared) :
    p.podSpec.containers.map (fun k => (k.image, k.limits, k.privileged)) =
      (p.image, p.buildLimits, p.privileged) ::
        (p.runner.cluster.helperImage, p.serviceLimits, p.privileged) ::
          p.job.options.services.map fun image => (image, p.serviceLimits, p.privileged) := by
  have services : p.services.map (fun k => (k.image, k.limits, k.privileged)) =
      p.job.options.services.map fun image => (image, p.serviceLimits, p.privileged) := by
    conv => rhs; rw [← List.zipIdx_map_fst 0 p.job.options.services]
    rw [Prepared.services, List.map_map, List.map_map]
    rfl
  show _ :: _ :: p.services.map _ = _
  rw [services]
  rfl

end Prepared

/-! ## The demands of a preparation -/

namespace Executor

section

variable {connect : ClusterSettings → Except Error Unit} {x y : Executor} {runner : Runner}
variable {job : Job} {w : World} {p : Prepared} {polling : PollSettings}

theorem prepare_fst (connect : ClusterSettings → Except Error Unit) (x : Executor)
    (runner : Runner) (job : Job) (w : World) : (x.prepare connect runner job w).1 =
      Prepared.resolve runner job >>= fun _ =>
        if x.connected then .ok () else connect runner.cluster := by
  unfold prepare
  cases Prepared.resolve runner job with
  | error e => rfl
  | ok p =>
    show _ = if x.connected then .ok () else connect runner.cluster
    cases (if x.connected then .ok () else connect runner.cluster : Except Error Unit) <;> rfl

/-- A preparation that succeeds keeps what was settled, and tells the job its image. -/
theorem prepare_of_ok (h : (x.prepare connect runner job w).1 = .ok ()) :
    ∃ p, Prepared.resolve runner job = .ok p ∧
      x.prepare connect runner job w =
        (.ok (),
          { x with connected := true, prepared := some p, polling := some runner.cluster.poll },
          w.record (.output job.trace (Trace.line (greeting p.image)))) := by
  unfold prepare at h ⊢
  cases settled : Prepared.resolve runner job with
  | error e =>
    rw [settled] at h
    cases h
  | ok p =>
    refine ⟨p, rfl, ?_⟩
    rw [settled] at h
    cases connection : (if x.connected then .ok () else connect runner.cluster :
        Except Error Unit) with
    | error e =>
      simp only [connection] at h
      cases h
    | ok => simp only

/-! ## The pod of a settled job -/

theorem Turn.prepared_eq {op : Operation} {r : Result} {es : List Event}
    (turn : Turn x op r es y) (unsettling : accepted? op r = none) :
    y.prepared = x.prepared ∧ y.polling = x.polling := by
  cases turn with
  | accepted => cases unsettling
  | _ => exact ⟨rfl, rfl⟩

/-- A run that finds no pod makes the one of the settled job, first of all. -/
theorem Turn.makes {step : Step} {abort : Option Nat} {r : Result} {es : List Event}
    (turn : Turn x (.run step abort) r es y) (prepared : x.prepared = some p)
    (waits : x.polling = some polling) (free : x.pod = none) :
    ∃ answer later, es = .create p.podSpec answer :: later := by
  cases turn with
  | unprepared lacking => simp [prepared, waits] at lacking
  | uncreated same =>
    obtain rfl := Option.some.inj (same.symm.trans prepared)
    exact ⟨_, _, rfl⟩
  | made same =>
    obtain rfl := Option.some.inj (same.symm.trans prepared)
    exact ⟨_, _, rfl⟩
  | reused _ _ held =>
    rw [free] at held
    cases held

/-- Whatever is done until another job is settled, a run that finds no pod makes this one. -/
def Makes (connect : ClusterSettings → Except Error Unit) (x : Executor) (spec : JobPod) : Prop :=
  ∀ c ops w pre m post step abort, history connect c x ops w = pre ++ m :: post →
    (∀ n ∈ pre, accepted? n.op n.result = none) → m.op = .run step abort → m.before.pod = none →
    ∃ answer later, m.events = .create spec answer :: later

theorem makes_podSpec (connect : ClusterSettings → Except Error Unit)
    (prepared : x.prepared = some p) (waits : x.polling = some polling) :
    x.Makes connect p.podSpec := by
  intro c ops w pre m post step abort h unsettled op free
  -- What is prepared changes with the next job only.
  obtain ⟨kept, turn⟩ := history_induction connect c
    (I := fun ms z => (∀ n ∈ ms, accepted? n.op n.result = none) →
      z.prepared = some p ∧ z.polling = some polling)
    (fun _ => ⟨prepared, waits⟩)
    (fun ms m known turn none_accepted => by
      obtain ⟨before, now⟩ := List.forall_mem_append.1 none_accepted
      obtain ⟨samePrepared, samePolling⟩ :=
        Turn.prepared_eq turn (now m (List.mem_singleton_self m))
      rw [samePrepared, samePolling]
      exact known before) h
  obtain ⟨stillPrepared, stillWaits⟩ := kept unsettled
  rw [Moment.IsTurn, op] at turn
  exact turn.makes stillPrepared stillWaits free

end

/-! ## Preparations -/

variable (reach : ClusterSettings → Except ConnectionFault Unit)

/-- What a preparation demands, in order: all that the job demands, and then a connection. -/
def demands (x : Executor) (runner : Runner) (job : Job) : List Demand :=
  Prepared.demands runner job ++
    [⟨x.connected ∨ reach runner.cluster = .ok (),
      fun e => ∃ f, reach runner.cluster = .error f ∧ e = .connection f⟩]

theorem decides_connection (x : Executor) (s : ClusterSettings) :
    Decides (if x.connected then .ok () else (reach s).mapError .connection)
      [⟨x.connected ∨ reach s = .ok (), fun e => ∃ f, reach s = .error f ∧ e = .connection f⟩]
      fun _ => True := by
  by_cases connected : x.connected
  · rw [if_pos connected]
    exact (decides_ok trivial).met (.inl connected)
  · rw [if_neg connected]
    cases reached : reach s with
    | ok => exact (decides_ok trivial).met (.inr rfl)
    | error f => exact decides_error (by simp [connected]) (by simp)

/-- A preparation succeeds if all that it demands holds, and otherwise it fails with what is
reported of the first demand that does not.  If it succeeds, the job is settled as declared and is
told its image, and nothing else happens; and until another job is settled, the pod that is made
has the images, the limits and the privilege that were settled. -/
theorem prepare_decides (x : Executor) (runner : Runner) (job : Job) (w : World) :
    let connect (s : ClusterSettings) := (reach s).mapError Error.connection
    let prepared := x.prepare connect runner job w
    Decides prepared.1 (demands reach x runner job) fun _ => ∃ p,
      Prepared.Settles runner job p ∧
      prepared.2.2 = w.record (.output job.trace
        (Trace.line ("Using Kubernetes executor with image " ++ p.image ++ " ..."))) ∧
      prepared.2.1.Makes connect p.podSpec ∧
      p.podSpec.containers.map (fun k => (k.image, k.limits, k.privileged)) =
        (p.image, p.buildLimits, p.privileged) ::
          (runner.cluster.helperImage, p.serviceLimits, p.privileged) ::
            job.options.services.map fun image => (image, p.serviceLimits, p.privileged) := by
  intro connect prepared
  have checks := Prepared.decides_resolve runner job
  have decided : Decides prepared.1 (demands reach x runner job) fun _ => True := by
    rw [prepare_fst]
    exact checks.bind fun _ _ => decides_connection reach x runner.cluster
  refine ⟨decided.accepts, decided.refuses, fun _ succeeded => ?_⟩
  obtain ⟨p, resolved, whole⟩ := prepare_of_ok succeeded
  have settled := checks.settles p resolved
  have contents := p.map_containers
  rw [settled.ofRunner, settled.ofJob] at contents
  have kept : prepared.2.1.prepared = some p := congrArg (·.2.1.prepared) whole
  have waits : prepared.2.1.polling = some runner.cluster.poll := congrArg (·.2.1.polling) whole
  exact ⟨p, settled, congrArg (·.2.2) whole, makes_podSpec connect kept waits, contents⟩

open Sample in
/-- Of settings with two faults the first one is reported.  A job without a fault lacks a connection
with one executor; with another one it is prepared, and then its pod is made. -/
theorem sample_prepare_decides :
    let connect (_ : ClusterSettings) : Except Error Unit := .error (.connection .unusable)
    let faulty : Runner := { runner with cluster := { ns := " ", pollIntervalSeconds := 0 } }
    let ready := (fresh true).prepare connect runner job {}
    ((fresh false).prepare connect faulty job {}).1 = .error (.config .blankNamespace) ∧
      ((fresh false).prepare connect runner job {}).1 = .error (.connection .unusable) ∧
      ready.1 = .ok () ∧
      ∃ p : Prepared, p.image = "ruby:2.3" ∧ ∃ answer later,
        (moment connect cluster ready.2.1 (.run step none) {}).events =
          .create p.podSpec answer :: later := by
  intro connect faulty ready
  let reach (_ : ClusterSettings) : Except ConnectionFault Unit := .error .unusable
  have met : ∀ d ∈ Prepared.demands runner job, d.holds :=
    (Prepared.decides_resolve runner job).accepts.1 ⟨_, rfl⟩
  have accepted := prepare_decides reach (fresh true) runner job {}
  have succeeds : ready.1 = .ok () := by
    obtain ⟨_, same⟩ := accepted.accepts.2 (List.forall_mem_append.2 ⟨met, by simp [fresh]⟩)
    exact same
  refine ⟨?_, ?_, succeeds, ?_⟩
  · refine ((prepare_decides reach (fresh false) faulty job {}).refuses _).2 ?_
    have blank : Blank.blank faulty.cluster.ns := by decide +kernel
    exact .later Bool.false_ne_true (.here (not_not_intro blank) rfl)
  · refine ((prepare_decides reach (fresh false) runner job {}).refuses _).2 ?_
    exact firstBroken_append.2 (.inr ⟨met, .here (by simp [fresh, reach]) ⟨_, rfl, rfl⟩⟩)
  · obtain ⟨p, settled, -, makes, -⟩ := accepted.settles () succeeds
    obtain ⟨answer, later, made⟩ :=
      makes cluster [.run step none] {} [] _ [] step none rfl (by simp) rfl rfl
    have image : some "ruby:2.3" = some p.image :=
      settled.image.elim (fun own => by cases own) fun default => default.2
    exact ⟨p, (Option.some.inj image).symm, answer, later, made⟩

end Executor

end PodRunner
