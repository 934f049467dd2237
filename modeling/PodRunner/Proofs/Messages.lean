import Mathlib.Data.List.TakeWhile
import PodRunner.Proofs.Streaming

/-!
# The messages of a session

What a session that sends no status but its last has on its channels (`Session.payload_messages`),
and what its messages come to: its result (`Session.verdict_messages_eq_result`), which is that of
the status, if one arrives that can be read (`Session.verdict_of_decoded`).
-/

namespace PodRunner.Api

namespace Session

/-- What a session carries on a channel, all frames taken together. -/
def carried (s : Session) (channel : Nat) : List UInt8 :=
  (s.frames.filter (·.channel = channel)).flatMap (·.bytes)

/-- No message of the session is longer than so many bytes, with that of its channel. -/
structure Fits (s : Session) (limit : Nat) : Prop where
  frames : ∀ f ∈ s.frames, f.bytes.length + 1 ≤ limit
  status : ∀ text, s.status = some text → text.utf8ByteSize + 1 ≤ limit

/-- The script, a newline if it has text and does not end in one, and the command that ends the
shell. -/
def wholeInput (script : String) : List UInt8 :=
  Utf8.encode script ++
    (if script.toList = [] ∨ script.toList.getLast? = some '\n' then [] else Utf8.encode "\n") ++
      Utf8.encode "exit\n"

theorem inputBytes_eq (script : String) : inputBytes script = wholeInput script := by
  unfold inputBytes input wholeInput
  by_cases ended : script.toList = [] ∨ script.toList.getLast? = some '\n'
  · have test : (script.toList.isEmpty || script.toList.getLast? = some '\n') = true := by
      simpa using ended
    rw [if_pos test, if_pos ended, List.append_nil]
    exact List.flatMap_append
  · have test : ¬ (script.toList.isEmpty || script.toList.getLast? = some '\n') = true := by
      simpa using ended
    rw [if_neg test, if_neg ended, List.append_assoc]
    exact List.flatMap_append

variable {s : Session} {limit : Nat} {fault : String}

theorem messages_eq (plain : ∀ f ∈ s.frames, f.channel ≠ 3) (ends : s.hangs = false) :
    s.messages = s.frames.map .frame ++ s.ending := by
  have frames : s.frames.map Message.ofFrame = s.frames.map .frame :=
    List.map_congr_left fun f hf => if_neg (plain f hf)
  rw [messages, frames, ends]
  rfl

theorem frameless_ending {m : Message} (hm : m ∈ s.ending) : m.isFrame = false := by
  rcases List.mem_append.1 hm with hm | hm
  · obtain ⟨text, -, rfl⟩ := List.mem_map.1 hm
    rfl
  · rw [List.mem_singleton.1 hm]
    cases s.closed <;> rfl

theorem payload_frames (o : Output) (fs : List Frame) :
    payload o (fs.map .frame) = (fs.filter (·.channel = o.channel)).flatMap (·.bytes) := by
  induction fs with
  | nil => rfl
  | cons f fs ih =>
    rw [List.map_cons, payload_cons, ih]
    by_cases carried : f.channel = o.channel <;> simp [Message.payload, carried]

/-! ## What they come to -/

theorem status?_empty : status? "" = none := by
  rfl

/-- A status text arrives, or there is none or one without content. -/
theorem statusText?_cases (s : Session) :
    (s.statusText? = none ∧ (s.status = none ∨ s.status = some "")) ∨
      ∃ text, text ≠ "" ∧ s.status = some text ∧ s.statusText? = some text := by
  unfold statusText?
  cases s.status with
  | none => exact .inl ⟨rfl, .inl rfl⟩
  | some text =>
    by_cases content : text = ""
    · subst content
      exact .inl ⟨rfl, .inr rfl⟩
    · exact .inr ⟨text, content, rfl, by simp [content]⟩

/-- Frames that are taken decide nothing. -/
theorem verdict_frames (fs : List Frame) (ms : List Message)
    (short : ∀ f ∈ fs, f.bytes.length + 1 ≤ limit) :
    Transfer.verdict limit fault (fs.map .frame ++ ms) = Transfer.verdict limit fault ms := by
  induction fs with
  | nil => rfl
  | cons f fs ih =>
    obtain ⟨small, short⟩ := List.forall_mem_cons.1 short
    exact (Transfer.verdict_frame small).trans (ih short)

/-- A frame that is not taken is the end. -/
theorem verdict_overlong (fs : List Frame) (ms : List Message)
    (long : ¬ ∀ f ∈ fs, f.bytes.length + 1 ≤ limit) :
    Transfer.verdict limit fault (fs.map .frame ++ ms) = .error (.stream fault) := by
  induction fs with
  | nil => exact absurd (fun _ hf => absurd hf List.not_mem_nil) long
  | cons f fs ih =>
    by_cases small : f.bytes.length + 1 ≤ limit
    · refine (Transfer.verdict_frame small).trans (ih fun short => long ?_)
      exact List.forall_mem_cons.2 ⟨small, short⟩
    · exact Transfer.verdict_of_long (Nat.not_le.1 small)

/-- What the last messages come to. -/
theorem verdict_ending (s : Session) (lenient : 0 < limit) :
    Transfer.verdict limit fault s.ending =
      match s.statusText? with
      | none => .error (.stream (if s.closed then unexplained else fault))
      | some text =>
        if text.utf8ByteSize + 1 ≤ limit then
          match status? text with
          | some status => status.result
          | none => .error (.stream fault)
        else .error (.stream fault) := by
  have last : Transfer.verdict limit fault [if s.closed then .close else .lost] =
      .error (.stream (if s.closed then unexplained else fault)) := by
    cases s.closed <;> rw [Transfer.verdict.eq_def] <;> exact if_neg (Nat.not_lt_zero _)
  rw [ending, statusText?]
  cases status : s.status with
  | none => exact last
  | some text =>
    show Transfer.verdict limit fault
      (.status (some text) :: [if s.closed then .close else .lost]) = _
    by_cases content : text = ""
    · subst content
      have small : ¬ limit < (Message.status (some "")).length := Nat.not_lt.2 lenient
      rw [Transfer.verdict, if_neg small, if_pos rfl]
      exact last
    · have kept : (some text).filter (!·.isEmpty) = some text := by simp [content]
      rw [kept]
      by_cases small : text.utf8ByteSize + 1 ≤ limit
      · have taken : ¬ limit < (Message.status (some text)).length := Nat.not_lt.2 small
        rw [Transfer.verdict, if_neg taken, if_neg (by simpa using content), Option.bind_some]
        simp only [if_pos small]
        cases decoded : status? text <;> rfl
      · simp only [if_neg small]
        exact Transfer.verdict_of_long (Nat.not_le.1 small)

section Plain

variable (plain : ∀ f ∈ s.frames, f.channel ≠ 3) (ends : s.hangs = false)

include plain ends

theorem payload_messages (o : Output) : payload o s.messages = s.carried o.channel := by
  rw [messages_eq plain ends, payload_append, payload_eq_nil (fun _ => frameless_ending),
    List.append_nil, payload_frames, carried]

theorem ordered_messages :
    s.messages.Pairwise fun m m' => m.isFrame = true ∨ m'.closes = true := by
  rw [messages_eq plain ends, List.pairwise_append]
  refine ⟨List.pairwise_map.2 (List.pairwise_of_forall fun _ _ => .inl rfl), ?_, ?_⟩
  · unfold ending
    cases s.status <;> cases s.closed <;> simp [Message.closes]
  · intro m hm m' _
    obtain ⟨f, -, rfl⟩ := List.mem_map.1 hm
    exact .inl rfl

theorem exists_closes : ∃ m ∈ s.messages, m.closes = true := by
  refine ⟨if s.closed then .close else .lost, ?_, ?_⟩
  · rw [messages_eq plain ends]
    simp [ending]
  · cases s.closed <;> rfl

theorem Fits.messages (fits : s.Fits limit) : ∀ m ∈ s.messages, m.length ≤ limit := by
  rw [messages_eq plain ends, ending]
  intro m hm
  rcases List.mem_append.1 hm with hm | hm
  · obtain ⟨f, hf, rfl⟩ := List.mem_map.1 hm
    exact fits.frames f hf
  rcases List.mem_append.1 hm with hm | hm
  · obtain ⟨text, sent, rfl⟩ := List.mem_map.1 hm
    exact fits.status text (Option.mem_toList.1 sent)
  · rw [List.mem_singleton.1 hm]
    cases s.closed <;> exact Nat.zero_le _

/-- What the messages of a session come to, if none is too long. -/
theorem verdict_messages (fits : s.Fits limit) (lenient : 0 < limit) :
    Transfer.verdict limit fault s.messages =
      match s.statusText? with
      | none => .error (.stream (if s.closed then unexplained else fault))
      | some text =>
        match status? text with
        | some status => status.result
        | none => .error (.stream fault) := by
  rw [messages_eq plain ends, verdict_frames _ _ fits.frames, verdict_ending s lenient]
  cases arrives : s.statusText? with
  | none => rfl
  | some text =>
    obtain ⟨sent, -⟩ := Option.filter_eq_some_iff.1 arrives
    exact if_pos (fits.status text sent)

/-- A status that can be read decides. -/
theorem verdict_of_decoded (fits : s.Fits limit) (lenient : 0 < limit) {v : ExecStatus}
    (decoded : s.status.bind status? = some v) :
    Transfer.verdict limit fault s.messages = v.result := by
  rw [verdict_messages plain ends fits lenient]
  rcases s.statusText?_cases with ⟨-, none | empty⟩ | ⟨text, -, sent, arrives⟩
  · rw [none] at decoded
    cases decoded
  · rw [empty, Option.bind_some, status?_empty] at decoded
    cases decoded
  · rw [sent, Option.bind_some] at decoded
    rw [arrives]
    simp only [decoded]

/-- Without a status that can be read there is a fault, which is that there was none only if this is
so. -/
theorem verdict_of_undecoded (fits : s.Fits limit) (lenient : 0 < limit)
    (foreign : fault ≠ unexplained) (undecoded : s.status.bind status? = none) :
    ∃ detail, Transfer.verdict limit fault s.messages = .error (.stream detail) ∧
      (detail = unexplained ↔ s.closed = true ∧ (s.status = none ∨ s.status = some "")) := by
  rw [verdict_messages plain ends fits lenient]
  rcases s.statusText?_cases with ⟨nothing, contentless⟩ | ⟨text, content, sent, arrives⟩
  · rw [nothing]
    refine ⟨_, rfl, ?_⟩
    cases s.closed with
    | true => exact iff_of_true rfl ⟨rfl, contentless⟩
    | false => exact iff_of_false foreign fun h => by cases h.1
  · rw [sent, Option.bind_some] at undecoded
    rw [arrives]
    simp only [undecoded]
    refine ⟨_, rfl, iff_of_false foreign ?_⟩
    rintro ⟨-, none | empty⟩
    · rw [sent] at none
      cases none
    · rw [sent] at empty
      exact content (Option.some.inj empty)

/-- The messages of any session come to its result, if nothing is said of faults. -/
theorem verdict_messages_eq_result : Transfer.verdict Session.limit "" s.messages = s.result := by
  rw [messages_eq plain ends, result]
  by_cases short : ∀ f ∈ s.frames, f.bytes.length + 1 ≤ Session.limit
  · have all : (!s.frames.all takesFrame) = false := by
      simpa [takesFrame, takes] using short
    rw [verdict_frames _ _ short, verdict_ending s (by decide), all, if_neg Bool.false_ne_true]
    cases s.statusText? with
    | none => rfl
    | some text =>
      by_cases small : text.utf8ByteSize + 1 ≤ Session.limit
      · have taken : (!takes text.utf8ByteSize) = false := by rw [takes, decide_eq_true small]; rfl
        cases decoded : status? text <;>
          simp only [decoded, if_pos small, taken, if_neg Bool.false_ne_true]
      · have taken : (!takes text.utf8ByteSize) = true := by rw [takes, decide_eq_false small]; rfl
        simp only [if_neg small, taken, if_true]
  · have all : (!s.frames.all takesFrame) = true := by
      simpa [takesFrame, takes] using short
    rw [verdict_overlong _ _ short, all, if_pos rfl]

end Plain

/-! ## Their output -/

/-- The output in a frame. -/
def outputOf (f : Frame) : List UInt8 := if isOutput f.channel then f.bytes else []

theorem flatten_filter (fs : List Frame) :
    ((fs.filter fun f => isOutput f.channel && !f.bytes.isEmpty).map (·.bytes)).flatten =
      fs.flatMap outputOf := by
  induction fs with
  | nil => rfl
  | cons f fs ih =>
    rw [List.flatMap_cons, ← ih, outputOf]
    by_cases shown : isOutput f.channel = true
    · cases bytes : f.bytes <;> simp [shown, bytes]
    · simp [shown]

/-- If every frame is taken, all output is. -/
theorem flatten_output (short : ∀ f ∈ s.frames, f.bytes.length + 1 ≤ Session.limit) :
    s.output.flatten = s.frames.flatMap outputOf := by
  have all : s.frames.takeWhile takesFrame = s.frames :=
    List.takeWhile_eq_self_iff.2 fun f hf => decide_eq_true (short f hf)
  rw [output, all, flatten_filter]

theorem exists_channel {channel : Nat} (shown : isOutput channel = true) :
    ∃ o : Output, channel = o.channel := by
  have : channel = 1 ∨ channel = 2 := by simpa [isOutput] using shown
  rcases this with rfl | rfl
  · exact ⟨.out, rfl⟩
  · exact ⟨.err, rfl⟩

theorem no_channel {channel : Nat} (hidden : ¬ isOutput channel = true) (o : Output) :
    channel ≠ o.channel := by
  rintro rfl
  exact hidden (by cases o <;> rfl)

end Session

end PodRunner.Api
