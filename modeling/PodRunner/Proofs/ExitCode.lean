import PodRunner.Api.ExecStatus
import PodRunner.Proofs.QuantityGrammar

/-!
# Exit codes

A failed command has an exit code if and only if the first cause that is named for it has a number
of 32 bits for its message, be it with white space around it (`ExecStatus.Carries`).  The code is
that very number: none is cut down to 32 bits, and no later cause stands in for the first one
(`ExecStatus.result_decides`).
-/

namespace PodRunner.Api

/-! ## Numbers -/

/-- Decimal digits denote a number, with a sign before them or without one. -/
inductive Denotes : List Char → Int → Prop
  | bare {ds : List Char} : Quantity.Digits ds → Denotes ds (Nat.ofDigitChars 10 ds 0)
  | plus {ds : List Char} : Quantity.Digits ds → Denotes ('+' :: ds) (Nat.ofDigitChars 10 ds 0)
  | minus {ds : List Char} : Quantity.Digits ds → Denotes ('-' :: ds) (-Nat.ofDigitChars 10 ds 0)

variable {s ds : List Char} {v : Int} {n : Nat}

theorem denotes_plus_iff :
    Denotes ('+' :: ds) v ↔ Quantity.Digits ds ∧ (Nat.ofDigitChars 10 ds 0 : Int) = v := by
  constructor
  · intro h
    cases h with
    | bare h => exact absurd (h.digit '+' List.mem_cons_self) (by decide)
    | plus h => exact ⟨h, rfl⟩
  · rintro ⟨h, rfl⟩
    exact .plus h

theorem denotes_minus_iff :
    Denotes ('-' :: ds) v ↔ Quantity.Digits ds ∧ -(Nat.ofDigitChars 10 ds 0 : Int) = v := by
  constructor
  · intro h
    cases h with
    | bare h => exact absurd (h.digit '-' List.mem_cons_self) (by decide)
    | minus h => exact ⟨h, rfl⟩
  · rintro ⟨h, rfl⟩
    exact .minus h

theorem denotes_bare_iff (noMinus : ∀ ds, s ≠ '-' :: ds) (noPlus : ∀ ds, s ≠ '+' :: ds) :
    Denotes s v ↔ Quantity.Digits s ∧ (Nat.ofDigitChars 10 s 0 : Int) = v := by
  constructor
  · intro h
    cases h with
    | bare h => exact ⟨h, rfl⟩
    | plus h => exact absurd rfl (noPlus _)
    | minus h => exact absurd rfl (noMinus _)
  · rintro ⟨h, rfl⟩
    exact .bare h

theorem digits_toString (n : Nat) : Quantity.Digits (toString n).toList := by
  rw [Nat.toString_eq_repr, Nat.toList_repr]
  exact ⟨Nat.toDigits_ne_nil, fun c hc => Nat.isDigit_of_mem_toDigits (by omega) (by omega) hc⟩

theorem ofDigitChars_toString (n : Nat) : Nat.ofDigitChars 10 (toString n).toList 0 = n := by
  rw [Nat.toString_eq_repr, Nat.toList_repr, Nat.ofDigitChars_ten_toDigits]

/-- The decimal text of a number denotes it. -/
theorem denotes_toString (v : Int) : Denotes (toString v).toList v := by
  cases v with
  | ofNat n =>
    have h := Denotes.bare (digits_toString n)
    rwa [ofDigitChars_toString] at h
  | negSucc n =>
    have text : (toString (Int.negSucc n)).toList = '-' :: (toString (n + 1)).toList :=
      String.toList_append
    have h := Denotes.minus (digits_toString (n + 1))
    rw [text]
    rwa [ofDigitChars_toString] at h

/-- There is no white space in what denotes a number. -/
theorem Denotes.not_isBlank (h : Denotes s v) : ∀ c ∈ s, ¬ Blank.isBlank c := by
  have digit {ds : List Char} (h : Quantity.Digits ds) : ∀ c ∈ ds, ¬ Blank.isBlank c := by
    intro c hc
    obtain ⟨low, high⟩ : 48 ≤ c.toNat ∧ c.toNat ≤ 57 := Char.isDigit_iff_toNat.1 (h.digit c hc)
    simp only [Blank.isBlank, Bool.or_eq_true, Bool.and_eq_true, decide_eq_true_eq, beq_iff_eq]
    omega
  cases h with
  | bare h => exact digit h
  | plus h => exact List.forall_mem_cons.2 ⟨by decide, digit h⟩
  | minus h => exact List.forall_mem_cons.2 ⟨by decide, digit h⟩

namespace ExecStatus

theorem digits?_eq_some_iff :
    digits? s = some n ↔ Quantity.Digits s ∧ Nat.ofDigitChars 10 s 0 = n := by
  have refused : (s.isEmpty ∨ ¬ s.all Char.isDigit) ↔ ¬ Quantity.Digits s := by
    rw [← Quantity.digits_iff, Quantity.digits, Bool.and_eq_true, Bool.not_eq_true', not_and_or,
      Bool.not_eq_false]
  rw [digits?, Nat.ofDigitChars_eq_foldl]
  by_cases h : Quantity.Digits s
  · rw [if_neg (by rwa [refused, not_not]), Option.some_inj, and_iff_right h]
  · rw [if_pos (refused.2 h)]
    simp [h]

theorem map_digits?_eq_some_iff {f : Nat → Int} : (digits? s).map f = some v ↔
    Quantity.Digits s ∧ f (Nat.ofDigitChars 10 s 0) = v := by
  simp only [Option.map_eq_some_iff, digits?_eq_some_iff, and_assoc, exists_and_left,
    exists_eq_left']

/-- The numbers of 32 bits are read, and all others are refused. -/
theorem int32?_eq_some_iff : int32? s = some v ↔ Denotes s v ∧ -2 ^ 31 ≤ v ∧ v ≤ 2 ^ 31 - 1 := by
  have bounds : (-Int.pow 2 31 ≤ v ∧ v < Int.pow 2 31) ↔ -2 ^ 31 ≤ v ∧ v ≤ 2 ^ 31 - 1 :=
    and_congr_right fun _ => Int.le_sub_one_iff.symm
  unfold int32?
  rw [Option.filter_eq_some_iff, decide_eq_true_iff, bounds]
  refine and_congr_left fun _ => ?_
  split
  · next ds =>
    rw [denotes_minus_iff]
    refine Iff.trans (iff_of_eq (congrArg (· = some v) ?_))
      (map_digits?_eq_some_iff (f := fun n => -(n : Int)))
    cases digits? ds <;> rfl
  · rw [denotes_plus_iff]
    exact map_digits?_eq_some_iff
  · next noMinus noPlus =>
    rw [denotes_bare_iff noMinus noPlus]
    exact map_digits?_eq_some_iff

/-! ## Statuses -/

/-- The cause is the first one that is named for the exit code. -/
def FirstNamed (s : ExecStatus) (cause : Cause) : Prop :=
  ∃ before after, s.causes = before ++ cause :: after ∧ cause.reason = some "ExitCode" ∧
    ∀ c ∈ before, c.reason ≠ some "ExitCode"

/-- The message of the first cause that is named for the exit code is this number, with white space
around it, and the number has 32 bits. -/
def Carries (s : ExecStatus) (v : Int) : Prop :=
  (∃ cause message word, s.FirstNamed cause ∧ cause.message = some message ∧
    Blank.Padded Blank.isBlank word message.toList ∧ Denotes word v) ∧
  -2 ^ 31 ≤ v ∧ v ≤ 2 ^ 31 - 1

/-- What a status tells of a failure: its message, else its reason, else the same for all. -/
inductive Tells (s : ExecStatus) : String → Prop
  | message {text : String} : s.message = some text → Tells s text
  | reason {text : String} : s.message = none → s.reason = some text → Tells s text
  | neither : s.message = none → s.reason = none → Tells s "command failed"

variable {status : ExecStatus} {cause : Cause}

theorem find?_causes_eq_some_iff :
    status.causes.find? (·.reason = some "ExitCode") = some cause ↔ status.FirstNamed cause := by
  rw [List.find?_eq_some_iff_append, FirstNamed]
  simp only [decide_eq_true_eq, Bool.not_eq_eq_eq_not, Bool.not_true, decide_eq_false_iff_not]
  grind

theorem exitCode?_eq_some_iff : status.exitCode? = some v ↔ status.Carries v := by
  simp only [exitCode?, Option.bind_eq_bind, Option.bind_eq_some_iff, find?_causes_eq_some_iff,
    int32?_eq_some_iff]
  constructor
  · rintro ⟨cause, first, message, told, number, bounds⟩
    exact ⟨⟨cause, message, _, first, told, Blank.trim_eq_iff.1 rfl, number⟩, bounds⟩
  · rintro ⟨⟨cause, message, word, first, told, padded, number⟩, bounds⟩
    rw [← Blank.trim_eq_iff.2 padded] at number
    exact ⟨cause, first, message, told, number, bounds⟩

theorem tells_failureText (status : ExecStatus) : status.Tells status.failureText := by
  rw [failureText]
  cases message : status.message with
  | some text => exact .message message
  | none =>
    cases reason : status.reason with
    | some text => exact .reason message reason
    | none => exact .neither message reason

/-- Whatever causes come before it and whatever white space is around it, the decimal text of a
number of 32 bits gives that number. -/
theorem carries_of_toString {before after : List Cause} {message : String} {front back : List Char}
    (causes : status.causes = before ++ ⟨some "ExitCode", some message⟩ :: after)
    (others : ∀ c ∈ before, c.reason ≠ some "ExitCode")
    (text : message.toList = front ++ (toString v).toList ++ back)
    (blankFront : ∀ c ∈ front, Blank.isBlank c) (blankBack : ∀ c ∈ back, Blank.isBlank c)
    (bounds : -2 ^ 31 ≤ v ∧ v ≤ 2 ^ 31 - 1) : status.Carries v := by
  have bare := (denotes_toString v).not_isBlank
  refine ⟨⟨_, message, (toString v).toList, ⟨before, after, causes, rfl, others⟩, rfl, ?_,
    denotes_toString v⟩, bounds⟩
  exact {
    around := ⟨front, back, text, blankFront, blankBack⟩
    head := fun c hc => bare c (List.mem_of_mem_head? hc)
    last := fun c hc => bare c (List.mem_of_mem_getLast? hc) }

/-- A command succeeded if and only if its status says so in this one word.  Any other status is a
failure with the exit code that the status carries, and without one if it carries none, told as the
status tells it.  It carries every number of 32 bits that the first cause named for it gives as a
decimal text, whatever the causes before it and the white space around it are. -/
theorem result_decides (status : ExecStatus) :
    (status.result = .ok () ↔ status.status = some "Success") ∧
    (status.status ≠ some "Success" → ∃ code text,
      status.result = .error (.commandFailed code text) ∧ status.Tells text ∧
      (∀ v, code = some v ↔ status.Carries v) ∧ (code = none ↔ ∀ v, ¬ status.Carries v) ∧
      ∀ (before after : List Cause) (front back : List Char) (message : String) (v : Int),
        status.causes = before ++ ⟨some "ExitCode", some message⟩ :: after →
        (∀ c ∈ before, c.reason ≠ some "ExitCode") →
        message.toList = front ++ (toString v).toList ++ back →
        (∀ c ∈ front, Blank.isBlank c) → (∀ c ∈ back, Blank.isBlank c) →
        -2 ^ 31 ≤ v ∧ v ≤ 2 ^ 31 - 1 → code = some v) := by
  have failed (other : status.status ≠ some "Success") :
      status.result = .error (.commandFailed status.exitCode? status.failureText) := if_neg other
  refine ⟨⟨fun succeeded => ?_, fun success => if_pos success⟩, fun other => ?_⟩
  · by_contra other
    rw [failed other] at succeeded
    cases succeeded
  · refine ⟨_, _, failed other, status.tells_failureText, fun _ => exitCode?_eq_some_iff, ?_, ?_⟩
    · simp only [Option.eq_none_iff_forall_ne_some, ne_eq, exitCode?_eq_some_iff]
    · intro before after front back message v causes others text blankFront blankBack bounds
      exact exitCode?_eq_some_iff.2
        (carries_of_toString causes others text blankFront blankBack bounds)

/-- The least number of 32 bits, after a cause of another name, before another code and with a tab
and a space that is not broken around it. -/
theorem sample_result_decides :
    let status : ExecStatus :=
      ⟨some "Failure", some "NonZeroExitCode", none, [⟨some "Other", some "1"⟩,
        ⟨some "ExitCode", some "\t-2147483648\u00a0"⟩, ⟨some "ExitCode", some "2"⟩]⟩
    status.result = .error (.commandFailed (some (-2147483648)) "NonZeroExitCode") := by
  intro status
  obtain ⟨code, text, failed, told, -, -, carried⟩ := (result_decides status).2 (by decide)
  have least := carried [_] [_] ['\t'] ['\u00a0'] _ (-2147483648) rfl (by decide)
    (by decide +kernel) (by simp [Blank.isBlank]) (by simp [Blank.isBlank]) (by norm_num)
  cases told with
  | message same => cases same
  | reason _ same =>
    cases same
    rw [failed, least]
  | neither _ same => cases same

end ExecStatus

end PodRunner.Api
