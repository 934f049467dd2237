import PodRunner.Proofs.Messages
import PodRunner.Proofs.SessionEnd

/-!
# What is delivered

A session is taken that sends no status but its last and no message that is too long
(`Transfer.delivered`).  At any time the server has a beginning of the input, and the trace is made
of beginnings of the outputs, whatever the frames are cut into, and in whatever order the caller, its
relays, the connection and the server act.  When the caller returns, the trace has all output, and
the result is that of the final status.  A server that ends the session before it has the whole
input may have the caller give up instead (`Transfer.exists_reaches_refused`), but not one that waits
for all of it.  The output may well come in the order of the frames (`Transfer.exists_reaches`), which
is the order of `Session.output`.  What comes after a message that is too long may be lost
(`Transfer.exists_reaches_choked`).
-/

namespace PodRunner.Api

/-! ## One frame after the other -/

namespace Transfer

section Orderly

variable {lib : Library} {enough : List UInt8 → Prop} {input received trace : List UInt8}
variable {phase : Phase} {unsent incoming : List Message}

/-- A session that is under way, with nothing on its way but messages. -/
def calm (phase : Phase) (received : List UInt8) (unsent incoming : List Message)
    (trace : List UInt8) : Transfer :=
  { phase, received, unsent, incoming, trace }

/-- The connection makes every step that it may make. -/
def Permits (lib : Library) : Prop :=
  ∀ {t t'}, Wire lib.room lib.limit lib.fault t t' → lib.step t t'

theorem start_eq (s : Session) (script : String) :
    start s script = calm (.writing (Session.wholeInput script)) [] s.messages [] [] := by
  rw [start, Session.inputBytes_eq]
  rfl

/-- The server can send everything when it has enough. -/
theorem run_emit (had : enough received) (unsent incoming : List Message) :
    Run lib enough (calm phase received unsent incoming trace)
      (calm phase received [] (incoming ++ unsent) trace) := by
  induction unsent generalizing incoming with
  | nil =>
    rw [List.append_nil]
    exact .refl
  | cons m ms ih =>
    have emit : Step lib enough (calm phase received (m :: ms) incoming trace)
        (calm phase received ms (incoming ++ [m]) trace) := .serve (.emit rfl (.inr had))
    have more := ih (incoming ++ [m])
    rw [List.append_assoc] at more
    exact .head emit more

variable (permits : Permits lib)

include permits

/-- The input can be written and sent byte by byte. -/
theorem run_write (left received : List UInt8) :
    Run lib enough (calm (.writing left) received unsent incoming trace)
      (calm (.writing []) (received ++ left) unsent incoming trace) := by
  induction left generalizing received with
  | nil =>
    rw [List.append_nil]
    exact .refl
  | cons b left ih =>
    have write : Step lib enough (calm (.writing (b :: left)) received unsent incoming trace)
        { calm (.writing left) received unsent incoming trace with stdin := [b] } :=
      .own (@Own.write _ _ (b :: left) 1 rfl rfl Nat.one_pos (Nat.succ_pos _) lib.roomy)
    have send : Step lib enough
        { calm (.writing left) received unsent incoming trace with stdin := [b] }
        (calm (.writing left) (received ++ [b]) unsent incoming trace) :=
      .wire (permits (.send rfl Nat.one_pos (n := 1) (Nat.le_refl 1)))
    have more := ih (received ++ [b])
    rw [List.append_assoc] at more
    exact .head write (.head send more)

/-- A frame can be carried to the trace byte by byte. -/
theorem run_bytes (o : Output) (bytes trace : List UInt8) (small : bytes.length + 1 ≤ lib.limit) :
    Run lib enough
      (calm phase received unsent (.frame ⟨o.channel, bytes⟩ :: incoming) trace)
      (calm phase received unsent (.frame ⟨o.channel, []⟩ :: incoming) (trace ++ bytes)) := by
  induction bytes generalizing trace with
  | nil =>
    rw [List.append_nil]
    exact .refl
  | cons b bytes ih =>
    let piped : Transfer :=
      { calm phase received unsent (.frame ⟨o.channel, bytes⟩ :: incoming) trace with
        pipes := Function.update (fun _ => []) o [b] }
    have deliver : Step lib enough
        (calm phase received unsent (.frame ⟨o.channel, b :: bytes⟩ :: incoming) trace) piped :=
      .wire <| permits <| @Wire.deliver _ _ _ _ ⟨o.channel, b :: bytes⟩ incoming o 1
        ⟨rfl, rfl, small⟩ rfl Nat.one_pos (Nat.succ_pos _) lib.roomy
    have here : piped.pipes o = [b] := by simp [piped]
    have relay : Step lib enough piped { piped with
        pipes := Function.update piped.pipes o ((piped.pipes o).drop 1)
        trace := trace ++ (piped.pipes o).take 1 } :=
      .own (.relay rfl Nat.one_pos (by decide) (here ▸ Nat.le_refl 1))
    have drained : Function.update piped.pipes o [] = fun _ => [] := by simp [piped]
    rw [here] at relay
    simp only [List.drop_one, List.tail_cons, List.take_succ_cons, List.take_zero, drained] at relay
    have more := ih (trace ++ [b]) (Nat.le_of_succ_le small)
    rw [List.append_assoc] at more
    exact .head deliver (.head relay more)

/-- Frames can be carried to the trace one after the other. -/
theorem run_frames (fs : List Frame) (trace : List UInt8)
    (short : ∀ f ∈ fs, f.bytes.length + 1 ≤ lib.limit) :
    Run lib enough (calm phase received unsent (fs.map .frame ++ incoming) trace)
      (calm phase received unsent incoming (trace ++ fs.flatMap Session.outputOf)) := by
  induction fs generalizing trace with
  | nil =>
    rw [List.flatMap_nil, List.append_nil]
    exact .refl
  | cons f fs ih =>
    obtain ⟨small, short⟩ := List.forall_mem_cons.1 short
    have frame : Run lib enough
        (calm phase received unsent (.frame f :: (fs.map .frame ++ incoming)) trace)
        (calm phase received unsent (fs.map .frame ++ incoming)
          (trace ++ Session.outputOf f)) := by
      obtain ⟨channel, bytes⟩ := f
      by_cases shown : Session.isOutput channel = true
      · obtain ⟨o, rfl⟩ := Session.exists_channel shown
        rw [Session.outputOf, if_pos shown]
        exact (run_bytes permits o bytes trace small).tail
          (.wire (permits (.pass ⟨rfl, rfl, lib.lenient⟩ (.inl rfl))))
      · rw [Session.outputOf, if_neg shown, List.append_nil]
        exact .single
          (.wire (permits (.pass ⟨rfl, rfl, small⟩ (.inr (Session.no_channel shown)))))
    have more := ih (trace ++ Session.outputOf f) short
    rw [List.append_assoc] at more
    exact frame.trans more

/-- A message that is too long can be the end of a session whose input is written. -/
theorem exists_run_choked {m : Message} (long : lib.limit < m.length) :
    ∃ t, Run lib enough (calm (.writing []) received unsent (m :: incoming) trace) t ∧
      t.phase = .returned (.error (.stream lib.fault)) ∧ t.trace = trace := by
  let choked : Transfer := { calm (.writing []) received unsent (m :: incoming) trace with
    ended := some (.error lib.fault) }
  let deaf : Transfer := { choked with
    phase := .draining none, relaying := Function.update (fun _ => true) .out false }
  let stopped : Transfer := { deaf with relaying := Function.update deaf.relaying .err false }
  have gone : choked.ended ≠ none := Option.some_ne_none _
  have choke : Run lib enough (calm (.writing []) received unsent (m :: incoming) trace) choked :=
    .single (.wire (permits (.tooLong rfl rfl long)))
  have drain : Run lib enough choked { choked with phase := .draining none } :=
    .head (.own (.flush rfl)) (.single (.own (.resolve rfl (.inr gone))))
  have stop : Run lib enough { choked with phase := .draining none } stopped :=
    .head (.own (.stop (o := .out) rfl rfl gone)) (.single (.own (.stop (o := .err) rfl rfl gone)))
  have off : ∀ o, stopped.relaying o = false := fun o => by cases o <;> rfl
  have finish : Step lib enough stopped
      { stopped with phase := .returned (outcome none (.error lib.fault)) } :=
    .own (.finish rfl off rfl)
  exact ⟨_, ((choke.trans drain).trans stop).tail finish, rfl, rfl⟩

/-- When the status has arrived, a caller that still writes can be refused. -/
theorem exists_run_refused {left : List UInt8} {text : String} {v : ExecStatus} (more : left ≠ [])
    (small : text.utf8ByteSize + 1 ≤ lib.limit) (content : text ≠ "")
    (decodes : Session.status? text = some v) :
    ∃ t, Run lib enough
        (calm (.writing left) received unsent (.status (some text) :: incoming) trace) t ∧
      t.phase = .broken ∧ t.status = some v := by
  let told : Transfer := { calm (.writing left) received unsent incoming trace with
    status := some v }
  let gone : Transfer := { told with ended := some (.ok ()) }
  have tell : Step lib enough
      (calm (.writing left) received unsent (.status (some text) :: incoming) trace) told :=
    .wire (permits (.status ⟨rfl, rfl, small⟩ content decodes))
  have leave : Step lib enough told gone := .wire (permits (.leave rfl (Option.some_ne_none v)))
  have refuse : Step lib enough gone { gone with phase := .broken, relaying := fun _ => false } :=
    .own (.refused rfl more (Option.some_ne_none _))
  exact ⟨_, .head tell (.head leave (.single refuse)), rfl, rfl⟩

end Orderly

section Ending

variable {lib : Library} {enough : List UInt8 → Prop} {t t' : Transfer}

/-- There is no output any more. -/
def Silent (t : Transfer) : Prop := (∀ o, t.pipes o = []) ∧ ∀ m ∈ t.rest, m.isFrame = false

theorem silent_of_pop {m : Message} {ms : List Message} {status : Option ExecStatus}
    {ended : Option (Except String Unit)} (h : Silent t) (next : t.incoming = m :: ms) :
    Silent { t with incoming := ms, status, ended } := by
  refine ⟨h.1, fun m' hm' => h.2 m' ?_⟩
  rw [rest_of_next next]
  exact List.mem_cons_of_mem _ hm'

theorem Silent.step (h : Silent t) (step : Step lib enough t t') :
    Silent t' ∧ t'.trace = t.trace := by
  cases step with
  | own step =>
    cases step with
    | @relay o n _ some _ there =>
      rw [h.1 o] at there
      exact absurd (Nat.lt_of_lt_of_le some there) (Nat.lt_irrefl 0)
    | _ => exact ⟨h, rfl⟩
  | wire step =>
    cases lib.sound step with
    | @deliver f ms o n taken =>
      have frame := h.2 (.frame f) (by rw [rest_of_next taken.next]; exact List.mem_cons_self)
      cases frame
    | pass taken | skip taken | status taken | undecodable taken | close taken | lost taken =>
      exact ⟨silent_of_pop h taken.next, rfl⟩
    | send | tooLong | leave | hangUp => exact ⟨h, rfl⟩
  | serve step =>
    cases step with
    | emit next =>
      refine ⟨⟨h.1, fun m hm => h.2 m ?_⟩, rfl⟩
      rw [rest, next]
      simpa [rest] using hm

theorem Silent.run (h : Silent t) (run : Run lib enough t t') : t'.trace = t.trace := by
  have silent : Silent t' ∧ t'.trace = t.trace := by
    induction run with
    | refl => exact ⟨h, rfl⟩
    | tail _ step ih =>
      obtain ⟨silent, same⟩ := ih.1.step step
      exact ⟨silent, same.trans ih.2⟩
  exact silent.2

/-- What goes on with one server goes on with every server that is content with less. -/
theorem Run.mono {less : List UInt8 → Prop} (content : ∀ part, enough part → less part)
    (run : Run lib enough t t') : Run lib less t t' := by
  refine Relation.ReflTransGen.mono (fun _ _ step => ?_) _ _ run
  cases step with
  | own step => exact .own step
  | wire step => exact .wire step
  | serve step =>
    cases step with
    | emit next ready => exact .serve (.emit next (ready.imp_right (content _)))

end Ending

/-! ## Every session -/

section Sessions

variable {lib : Library} {enough : List UInt8 → Prop} {s : Session} {script : String}
variable {t : Transfer} {r : Except ClusterError Unit}
variable (plain : ∀ f ∈ s.frames, f.channel ≠ 3) (ends : s.hangs = false)

include plain ends

theorem kept_of_reaches (reached : Reaches lib enough s script t) :
    Kept lib enough (Session.wholeInput script) s.messages t := by
  rw [← Session.inputBytes_eq]
  exact (kept_start lib enough script (Session.ordered_messages plain ends)
    (Session.exists_closes plain ends)).run reached

omit plain ends in
/-- The server can have the whole input before it sends anything. -/
theorem reaches_written (permits : Permits lib) (whole : enough (Session.wholeInput script)) :
    Reaches lib enough s script
      (calm (.writing []) (Session.wholeInput script) [] s.messages []) := by
  rw [Reaches, start_eq]
  exact (run_write permits _ []).trans (run_emit whole s.messages [])

/-- At any time the trace is made of beginnings of the two outputs. -/
theorem exists_interleave (reached : Reaches lib enough s script t) :
    ∃ out err, out <+: s.carried 1 ∧ err <+: s.carried 2 ∧ Interleave out err t.trace := by
  obtain ⟨read, begun, woven⟩ := (kept_of_reaches plain ends reached).output.exists_woven
  simp only [Session.payload_messages plain ends] at begun
  exact ⟨read .out, read .err, begun .out, begun .err, woven⟩

/-- A caller that returns has the result of the session, also if a message was too long. -/
theorem eq_result_of_returned (reached : Reaches lib enough s script t)
    (returned : t.phase = .returned r) (quiet : lib.fault = "")
    (usual : lib.limit = Session.limit) : r = s.result := by
  rw [(kept_of_reaches plain ends reached).eq_verdict returned, quiet, usual,
    Session.verdict_messages_eq_result plain ends]

variable (fits : s.Fits lib.limit)

include fits

/-- With a server that waits for the whole input the caller does not give up. -/
theorem returned_of_patient (patient : ∀ part, enough part → part = Session.wholeInput script)
    (reached : Reaches lib enough s script t) (came : t.phase.result? = some r) :
    t.phase = .returned r ∧ t.received = Session.wholeInput script := by
  have kept := kept_of_reaches plain ends reached
  obtain ⟨part, begun, had⟩ := kept.answered (fits.messages plain ends) came
  obtain rfl := patient part had
  have complete : t.received = Session.wholeInput script :=
    kept.input.received_prefix.eq_of_length_le begun.length_le
  exact ⟨(result?_eq_some came).resolve_right fun broken => kept.input.received_ne broken complete,
    complete⟩

/-- With a connection that may make every step, a session can write its output in the order of the
frames. -/
theorem exists_reaches (permits : Permits lib) (whole : enough (Session.wholeInput script)) :
    ∃ t r, Reaches lib enough s script t ∧ t.phase = .returned r ∧
      t.trace = s.frames.flatMap Session.outputOf := by
  let input := Session.wholeInput script
  let patient : List UInt8 → Prop := (· = input)
  let written := calm (.writing []) input [] s.ending (s.frames.flatMap Session.outputOf)
  have reached : Reaches lib patient s script written := by
    have had : patient input := rfl
    have frames : Run lib patient
        (calm (.writing []) input [] (s.frames.map .frame ++ s.ending) []) written :=
      run_frames permits s.frames [] fits.frames
    rw [← Session.messages_eq plain ends] at frames
    exact (reaches_written permits had).trans frames
  have silent : Silent written := by
    refine ⟨fun _ => rfl, fun m hm => ?_⟩
    have last : m ∈ s.ending := (List.mem_append.1 hm).resolve_right List.not_mem_nil
    exact Session.frameless_ending last
  obtain ⟨t, r, run, came⟩ := (kept_of_reaches plain ends reached).exists_over rfl
  have ended : Reaches lib patient s script t := reached.trans run
  have returned := (returned_of_patient plain ends fits (fun _ same => same) ended came).1
  refine ⟨t, r, Run.mono (fun part same => ?_) ended, returned, silent.run run⟩
  rw [show part = Session.wholeInput script from same]
  exact whole

/-- A caller that still writes when the status has arrived gives up, if the server was content with
nothing. -/
theorem exists_reaches_refused (permits : Permits lib) (hasty : enough []) {v : ExecStatus}
    (decoded : s.status.bind Session.status? = some v) :
    ∃ t, Reaches lib enough s script t ∧ t.phase = .broken ∧ t.status = some v := by
  obtain ⟨text, sent, decodes⟩ := Option.bind_eq_some_iff.1 decoded
  have content : text ≠ "" := by
    rintro rfl
    cases decodes
  have more : Session.wholeInput script ≠ [] :=
    List.append_ne_nil_of_right_ne_nil _ (by decide +kernel)
  have frames : Reaches lib enough s script
      (calm (.writing (Session.wholeInput script)) [] [] s.ending
        (s.frames.flatMap Session.outputOf)) := by
    rw [Reaches, start_eq]
    refine (run_emit hasty s.messages []).trans ?_
    rw [List.nil_append, Session.messages_eq plain ends]
    exact run_frames permits s.frames [] fits.frames
  rw [Session.ending, sent] at frames
  have small := fits.status text sent
  obtain ⟨t, refused, told⟩ := exists_run_refused permits more small content decodes
  exact ⟨t, frames.trans refused, told⟩

omit fits

/-- The output after a message that is too long may be lost, even if the server waits for the whole
input. -/
theorem exists_reaches_choked (permits : Permits lib) (whole : enough (Session.wholeInput script))
    {f : Frame} {fs gs : List Frame} (split : s.frames = fs ++ f :: gs)
    (short : ∀ g ∈ fs, g.bytes.length + 1 ≤ lib.limit) (long : lib.limit < f.bytes.length + 1) :
    ∃ t, Reaches lib enough s script t ∧ t.phase = .returned (.error (.stream lib.fault)) ∧
      t.trace = fs.flatMap Session.outputOf := by
  have before : Reaches lib enough s script
      (calm (.writing []) (Session.wholeInput script) []
        (.frame f :: (gs.map .frame ++ s.ending)) (fs.flatMap Session.outputOf)) := by
    refine (reaches_written permits whole).trans ?_
    rw [Session.messages_eq plain ends, split, List.map_append, List.append_assoc]
    exact run_frames permits fs [] short
  obtain ⟨t, choked, ended⟩ := exists_run_choked (m := .frame f) permits long
  exact ⟨t, before.trans choked, ended⟩

end Sessions

/-- A session with a script has come to its end as it should, with the result `r`. -/
structure Delivered (lib : Library) (enough : List UInt8 → Prop) (s : Session)
    (r : Except ClusterError Unit) (t : Transfer) : Prop where
  /-- The server has had enough of the input. -/
  answered : t.Answered enough
  /-- The trace has all that the two channels of output carry, each in its order. -/
  output : Interleave (s.carried 1) (s.carried 2) t.trace
  /-- A status that can be read decides, however the session ended. -/
  decided : ∀ status, s.status.bind Session.status? = some status → r = status.result
  /-- Without one the session has failed; it is said to have been closed without a status only if
  this is so. -/
  undecided : s.status.bind Session.status? = none → ∃ detail, r = .error (.stream detail) ∧
    (detail = Session.unexplained ↔
      s.closed = true ∧ (s.status = none ∨ s.status = some ""))
  /-- The result is that of the session, but for what the connection says of a fault. -/
  result : lib.fault = "" → lib.limit = Session.limit → r = s.result

/-- When the caller returns, everything has been delivered. -/
theorem delivered_of_returned {lib : Library} {enough : List UInt8 → Prop} {s : Session}
    {script : String} {t : Transfer} {r : Except ClusterError Unit}
    (plain : ∀ f ∈ s.frames, f.channel ≠ 3) (ends : s.hangs = false) (fits : s.Fits lib.limit)
    (reached : Reaches lib enough s script t) (returned : t.phase = .returned r) :
    Delivered lib enough s r t := by
  have kept := kept_of_reaches plain ends reached
  have short := fits.messages plain ends
  have woven := kept.woven short returned
  simp only [Woven, Session.payload_messages plain ends] at woven
  have came : t.phase.result? = some r := by rw [returned]; rfl
  obtain rfl := kept.eq_verdict returned
  exact ⟨kept.answered short came, woven,
    fun _ => Session.verdict_of_decoded plain ends fits lib.lenient,
    Session.verdict_of_undecoded plain ends fits lib.lenient lib.foreign,
    eq_result_of_returned plain ends reached returned⟩

/-- Two outputs and something else in small frames, then a status, and no ceremony. -/
def sampleSession : Session where
  frames := [⟨1, [104, 105]⟩, ⟨2, [33]⟩, ⟨7, [0]⟩, ⟨1, [10]⟩]
  status := some "\x7b\"status\": \"Success\"\x7d"
  closed := false

theorem fits_sampleSession : sampleSession.Fits Session.limit := by
  refine ⟨by decide, fun text sent => ?_⟩
  obtain rfl := Option.some.inj sent
  decide +kernel

theorem decoded_sampleSession :
    sampleSession.status.bind Session.status? = some ⟨some "Success", none, none, []⟩ := by
  decide +kernel

/-- A connection with pipes and messages of usual size. -/
def sampleLibrary : Library := .free 1024 Session.limit "lost" (by decide) (by decide) (by decide)

/-- A session with a message that is too long before its output. -/
def sampleFlood : Session where
  frames := [⟨4, List.replicate Session.limit 120⟩, ⟨1, [104, 105]⟩]
  status := some "\x7b\"status\": \"Success\"\x7d"

end Transfer

end PodRunner.Api
