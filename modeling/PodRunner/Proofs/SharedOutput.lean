import PodRunner.Proofs.LossyText
import PodRunner.Trace

/-!
# Output that is written from several places

A buffer is written to through handles.  Handles can be copied, and a copy is a handle on the same
buffer (`Buffer.Step`).  Whatever is done with handles, each of them shows the text that is in all
the bytes that were written through it, through the handles that it stems from and through their
copies, in the order of writing; how these bytes were cut into pieces does not matter
(`Buffer.contents?_decides`).
-/

namespace PodRunner.Buffer

/-! ## Entries -/

/-- A call that writes to a buffer. -/
inductive Entry where
  | bytes (bs : List UInt8)
  | line (message : String)
  | warning (message : String)
  | error (message : String)

/-- The buffer after a call. -/
def enter (b : Buffer) : Entry → Buffer
  | .bytes bs => b.write bs
  | .line message => b.println message
  | .warning message => b.warningln message
  | .error message => b.errorln message

/-- The bytes that a call appends: those that it is given, or a line with its mark. -/
def Entry.written : Entry → List UInt8
  | .bytes bs => bs
  | .line message => Utf8.standard (message ++ "\n")
  | .warning message => Utf8.standard ("WARNING: " ++ message ++ "\n")
  | .error message => Utf8.standard ("ERROR: " ++ message ++ "\n")

theorem bytes_enter (b : Buffer) (e : Entry) : (b.enter e).bytes = b.bytes ++ e.written := by
  cases e with
  | bytes bs => exact bytes_write b bs
  | line message => exact (bytes_write b _).trans (congrArg _ (Utf8.encode_eq _))
  | warning message => exact (bytes_write b _).trans (congrArg _ (Utf8.encode_eq _))
  | error message => exact (bytes_write b _).trans (congrArg _ (Utf8.encode_eq _))

/-! ## Handles -/

/-- A handle on a buffer: the one that came with the buffer of this number, or a copy. -/
inductive Handle where
  | made (number : Nat)
  | copy (original : Handle) (number : Nat)
  deriving DecidableEq

/-- The number of the buffer that came with the handle, or with the one from which it stems. -/
def Handle.root : Handle → Nat
  | made number => number
  | copy original _ => original.root

/-- What is done with handles. -/
inductive Use where
  | create (number : Nat)
  | copy (original : Handle) (number : Nat)
  | enter (handle : Handle) (e : Entry)

/-- The buffers, and where among them the handles point that there are. -/
structure Heap where
  buffers : List Buffer := []
  address : Handle → Option Nat := fun _ => none

namespace Heap

/-- With one buffer more, and the handle on it. -/
def create (s : Heap) (number : Nat) : Heap :=
  ⟨s.buffers ++ [empty], Function.update s.address (.made number) (some s.buffers.length)⟩

/-- With one handle more, which points here. -/
def copy (s : Heap) (h : Handle) (number a : Nat) : Heap :=
  ⟨s.buffers, Function.update s.address (.copy h number) (some a)⟩

/-- After a call on the buffer that is here. -/
def enter (s : Heap) (a : Nat) (e : Entry) : Heap :=
  ⟨s.buffers.modify a (Buffer.enter · e), s.address⟩

/-- What a handle shows. -/
def contents? (s : Heap) (h : Handle) : Option String :=
  (s.address h).bind fun a => s.buffers[a]?.map contents

end Heap

/-- One use of a handle.  A buffer comes with one new handle on it, and a copy points where the
original does. -/
inductive Step : Heap → Use → Heap → Prop
  | create {s : Heap} {number : Nat} : s.address (.made number) = none →
    Step s (.create number) (s.create number)
  | copy {s : Heap} {h : Handle} {number a : Nat} : s.address h = some a →
    s.address (.copy h number) = none → Step s (.copy h number) (s.copy h number a)
  | enter {s : Heap} {h : Handle} {e : Entry} {a : Nat} : s.address h = some a →
    Step s (.enter h e) (s.enter a e)

/-- What can have been done from the beginning on, with what has become of it. -/
inductive Reaches : List Use → Heap → Prop
  | start : Reaches [] {}
  | step {us : List Use} {u : Use} {s s' : Heap} : Reaches us s → Step s u s' →
    Reaches (us ++ [u]) s'

/-- What is written by a use to the buffer of this number. -/
def Use.written (root : Nat) : Use → List UInt8
  | .enter h e => if h.root = root then e.written else []
  | _ => []

/-- All that was written to the buffer of this number, in order. -/
def written (us : List Use) (root : Nat) : List UInt8 := us.flatMap (Use.written root)

variable {us us' : List Use} {u : Use} {s s' : Heap} {h h' : Handle} {e : Entry}
variable {root number a : Nat}

namespace Heap

theorem address_create_self :
    (s.create number).address (.made number) = some s.buffers.length :=
  Function.update_self ..

theorem address_create_of_ne (other : h ≠ .made number) :
    (s.create number).address h = s.address h := Function.update_of_ne other ..

theorem address_copy_self : (s.copy h number a).address (.copy h number) = some a :=
  Function.update_self ..

theorem address_copy_of_ne (other : h' ≠ .copy h number) :
    (s.copy h number a).address h' = s.address h' := Function.update_of_ne other ..

theorem address_copy_made :
    (s.copy h number a).address (.made root) = s.address (.made root) :=
  address_copy_of_ne Handle.noConfusion

end Heap

theorem written_snoc : written (us ++ [u]) root = written us root ++ u.written root := by
  rw [written, List.flatMap_append, List.flatMap_singleton]
  rfl

theorem written_create : written (us ++ [.create number]) root = written us root :=
  written_snoc.trans (List.append_nil _)

theorem written_copy : written (us ++ [.copy h number]) root = written us root :=
  written_snoc.trans (List.append_nil _)

theorem written_enter_self :
    written (us ++ [.enter h e]) h.root = written us h.root ++ e.written := by
  rw [written_snoc, Use.written, if_pos rfl]

theorem written_enter_of_ne (other : h.root ≠ root) :
    written (us ++ [.enter h e]) root = written us root := by
  rw [written_snoc, Use.written, if_neg other, List.append_nil]

/-! ## What every step keeps -/

/-- Handles point where the handles point from which they stem, and no two buffers come to be one;
each has what was written to it. -/
structure Kept (us : List Use) (s : Heap) : Prop where
  stems : ∀ h a, s.address h = some a → s.address (.made h.root) = some a
  apart : ∀ m n a, s.address (.made m) = some a → s.address (.made n) = some a → m = n
  holds : ∀ n a, s.address (.made n) = some a →
    s.buffers[a]?.map bytes = some (written us n)
  unmade : ∀ n, s.address (.made n) = none → written us n = []

theorem kept_start : Kept [] {} where
  stems := nofun
  apart := nofun
  holds := nofun
  unmade _ _ := rfl

theorem Kept.lt_length (kept : Kept us s) (points : s.address (.made root) = some a) :
    a < s.buffers.length := by
  obtain ⟨b, found, -⟩ := Option.map_eq_some_iff.1 (kept.holds root a points)
  exact (List.getElem?_eq_some_iff.1 found).1

theorem Kept.create (kept : Kept us s) (fresh : s.address (.made number) = none) :
    Kept (us ++ [.create number]) (s.create number) := by
  have old {h : Handle} {a : Nat} (points : s.address h = some a) :
      (s.create number).address h = some a := by
    refine (Heap.address_create_of_ne ?_).trans points
    rintro rfl
    cases fresh.symm.trans points
  have cases {h : Handle} {a : Nat} (points : (s.create number).address h = some a) :
      h = .made number ∧ a = s.buffers.length ∨ s.address h = some a := by
    by_cases new : h = .made number
    · subst new
      exact .inl ⟨rfl, Option.some.inj (points.symm.trans Heap.address_create_self)⟩
    · rw [Heap.address_create_of_ne new] at points
      exact .inr points
  constructor
  case stems =>
    intro h a points
    rcases cases points with ⟨rfl, -⟩ | before
    · exact points
    · exact old (kept.stems h a before)
  case apart =>
    intro m n a hm hn
    -- No handle can have pointed to the new buffer, as there was none at its place.
    rcases cases hm with ⟨new, rfl⟩ | before <;> rcases cases hn with ⟨new', here⟩ | before'
    · exact Handle.made.inj (new.trans new'.symm)
    · exact absurd (kept.lt_length before') (Nat.lt_irrefl _)
    · exact absurd (here ▸ kept.lt_length before) (Nat.lt_irrefl _)
    · exact kept.apart m n a before before'
  case holds =>
    intro n a points
    rw [written_create, Heap.create]
    rcases cases points with ⟨new, rfl⟩ | before
    · obtain rfl := Handle.made.inj new
      rw [List.getElem?_concat_length, kept.unmade n fresh]
      rfl
    · rw [List.getElem?_append_left (kept.lt_length before)]
      exact kept.holds n a before
  case unmade =>
    intro n unmade
    rw [written_create]
    refine kept.unmade n ?_
    by_contra made
    obtain ⟨a, points⟩ := Option.ne_none_iff_exists'.1 made
    cases (old points).symm.trans unmade

theorem Kept.copy (kept : Kept us s) (points : s.address h = some a) :
    Kept (us ++ [.copy h number]) (s.copy h number a) := by
  constructor
  case stems =>
    intro h' a' points'
    rw [Heap.address_copy_made]
    by_cases new : h' = .copy h number
    · subst new
      obtain rfl := Option.some.inj (points'.symm.trans Heap.address_copy_self)
      exact kept.stems h a' points
    · rw [Heap.address_copy_of_ne new] at points'
      exact kept.stems h' a' points'
  case apart =>
    intro m n a hm hn
    rw [Heap.address_copy_made] at hm hn
    exact kept.apart m n a hm hn
  case holds =>
    intro n a here
    rw [Heap.address_copy_made] at here
    rw [written_copy]
    exact kept.holds n a here
  case unmade =>
    intro n unmade
    rw [Heap.address_copy_made] at unmade
    rw [written_copy]
    exact kept.unmade n unmade

/-- A call reaches the buffer of the handle's root, and no other. -/
theorem Kept.enter (kept : Kept us s) (points : s.address h = some a) :
    Kept (us ++ [.enter h e]) (s.enter a e) := by
  have stem := kept.stems h a points
  constructor
  case stems => exact kept.stems
  case apart => exact kept.apart
  case holds =>
    intro n a' here
    obtain ⟨b, found, is⟩ := Option.map_eq_some_iff.1 (kept.holds n a' here)
    by_cases own : h.root = n
    · subst own
      obtain rfl := Option.some.inj (stem.symm.trans here)
      rw [written_enter_self, ← is, Heap.enter, List.getElem?_modify_eq, found]
      exact congrArg some (bytes_enter b e)
    · have other : a ≠ a' := by
        rintro rfl
        exact own (kept.apart _ _ a stem here)
      rw [written_enter_of_ne own, ← is, Heap.enter, List.getElem?_modify_ne _ _ other, found]
      rfl
  case unmade =>
    intro n unmade
    have other : h.root ≠ n := by
      rintro rfl
      cases stem.symm.trans unmade
    rw [written_enter_of_ne other]
    exact kept.unmade n unmade

theorem Kept.step (kept : Kept us s) (step : Step s u s') : Kept (us ++ [u]) s' := by
  cases step with
  | create fresh => exact kept.create fresh
  | copy points _ => exact kept.copy points
  | enter points => exact kept.enter points

theorem Kept.of_reaches (reached : Reaches us s) : Kept us s := by
  induction reached with
  | start => exact kept_start
  | step _ step ih => exact ih.step step

/-! ## What handles show -/

/-- A handle shows what was written to the buffer of the handle from which it stems. -/
theorem contents?_of_reaches (reached : Reaches us s) (born : (s.address h).isSome) :
    s.contents? h = some (Utf8.decode (written us h.root)) := by
  have kept := Kept.of_reaches reached
  obtain ⟨a, points⟩ := Option.isSome_iff_exists.1 born
  have holds := kept.holds h.root a (kept.stems h a points)
  obtain ⟨b, found, is⟩ := Option.map_eq_some_iff.1 holds
  rw [Heap.contents?, points, Option.bind_some, found, Option.map_some, contents, is]

/-- These calls, each through its handle. -/
def calls (cs : List (Handle × Entry)) : List Use := cs.map fun c => .enter c.1 c.2

variable {cs : List (Handle × Entry)}

/-- Calls through handles that there are can always be made. -/
theorem Reaches.calls (reached : Reaches us s) (born : ∀ c ∈ cs, (s.address c.1).isSome) :
    ∃ s', Reaches (us ++ calls cs) s' ∧ s'.address = s.address := by
  induction cs generalizing us s with
  | nil => exact ⟨s, by rwa [Buffer.calls, List.map_nil, List.append_nil], rfl⟩
  | cons c cs ih =>
    obtain ⟨a, points⟩ := Option.isSome_iff_exists.1 (born c List.mem_cons_self)
    obtain ⟨s', reached', same⟩ := ih (reached.step (.enter points))
      fun c' later => born c' (List.mem_cons_of_mem c later)
    rw [List.append_assoc] at reached'
    exact ⟨s', reached', same⟩

theorem written_calls (own : ∀ c ∈ cs, c.1.root = root) :
    written (us ++ calls cs) root = written us root ++ cs.flatMap (·.2.written) := by
  rw [written, List.flatMap_append, calls, List.flatMap_map, written]
  refine congrArg _ (List.flatMap_congr fun c hc => ?_)
  rw [Use.written, if_pos (own c hc)]

/-- A handle shows the one text that is read in all the bytes written to its buffer, whichever calls
wrote them, through whichever handles; so where the same bytes were written, in other pieces, the
same is shown.  If the bytes are those of a text, it is that text; and calls through handles on the
buffer that bring it to that can always be made, however they cut the text. -/
theorem contents?_decides (reached : Reaches us s) (born : (s.address h).isSome) :
    ∃ text, s.contents? h = some text ∧
      Utf8.Lossy (written us h.root) text.toList ∧
      (∀ t : String, Utf8.Lossy (written us h.root) t.toList → t = text) ∧
      (∀ (us' : List Use) (s' : Heap) (h' : Handle), Reaches us' s' → (s'.address h').isSome →
        written us' h'.root = written us h.root → s'.contents? h' = some text) ∧
      (∀ t : String, written us h.root = Utf8.standard t → text = t) ∧
      ∀ (t : String) (cs : List (Handle × Entry)),
        (∀ c ∈ cs, (s.address c.1).isSome ∧ c.1.root = h.root) →
        written us h.root ++ cs.flatMap (·.2.written) = Utf8.standard t →
        ∃ s', Reaches (us ++ calls cs) s' ∧ s'.contents? h = some t := by
  have standard (t : String) : Utf8.decode (Utf8.standard t) = t :=
    (Utf8.lossy_standard t).decode_eq
  refine ⟨Utf8.decode (written us h.root), contents?_of_reaches reached born,
    Utf8.lossy_decode _, fun t lossy => lossy.decode_eq.symm, ?_, ?_, ?_⟩
  · intro us' s' h' reached' born' same
    rw [contents?_of_reaches reached' born', same]
  · intro t whole
    rw [whole, standard]
  · intro t cs own whole
    obtain ⟨s', reached', same⟩ := reached.calls fun c hc => (own c hc).1
    refine ⟨s', reached', ?_⟩
    rw [contents?_of_reaches reached' (by rwa [same]), written_calls fun c hc => (own c hc).2,
      whole, standard]

/-- A letter of two bytes, one of them written through a handle and one through its copy. -/
theorem sample_contents?_decides :
    let us : List Use := [.create 0, .copy (.made 0) 0]
    let s := (Heap.create {} 0).copy (.made 0) 0 0
    let cs : List (Handle × Entry) :=
      [(.made 0, .bytes [0xC3]), (.copy (.made 0) 0, .bytes [0xA9])]
    Reaches us s ∧ (s.address (.made 0)).isSome ∧
      ∃ s', Reaches (us ++ calls cs) s' ∧ s'.contents? (.made 0) = some "é" := by
  intro us s cs
  have reached : Reaches us s := ((Reaches.start.step (.create rfl)).step (.copy rfl rfl))
  refine ⟨reached, rfl, ?_⟩
  obtain ⟨_, _, _, _, _, _, reading⟩ := contents?_decides (h := .made 0) reached rfl
  exact reading "é" cs (by decide) (by decide)

end PodRunner.Buffer
