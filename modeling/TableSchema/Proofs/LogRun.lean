import TableSchema.Proofs.Log
import Mathlib.Data.List.SplitBy

/-!
What a whole run writes.

Choosing a mode begins a session, which lasts up to the next choice and depends on nothing before
it. Informing, each message stands for itself. Debugging, a marked message keeps its line open, and
messages fall into groups: marked ones, and the first one without a mark, which ends the line. Main
statement: `trace_sessions`.
-/

namespace TableSchema.Log

/-- What each of a list of steps writes, where every step has a time of its own. -/
def trace (mode : Mode) : List (String × Step) → List Output
  | [] => []
  | (time, s) :: steps => (step time mode s).2 :: trace (step time mode s).1 steps

def modeAfter (mode : Mode) (steps : List (String × Step)) : Mode :=
  steps.foldl (fun mode s => (step s.1 mode s.2).1) mode

/-- A run is a trace in which all times are the same. -/
theorem run_eq_trace (time : String) (mode : Mode) (steps : List Step) :
    run time mode steps = trace mode (steps.map (time, ·)) := by
  induction steps generalizing mode with
  | nil => rfl
  | cons s steps ih => exact congrArg _ (ih _)

lemma trace_append (mode : Mode) (steps steps' : List (String × Step)) :
    trace mode (steps ++ steps') = trace mode steps ++ trace (modeAfter mode steps) steps' := by
  induction steps generalizing mode with
  | nil => rfl
  | cons s steps ih => exact congrArg _ (ih _)

/-! ### Messages and their groups -/

structure Message where
  time : String
  level : Level
  text : String

namespace Message

def toStep (m : Message) : String × Step := (m.time, .message m.level m.text)

/-- What is seen of the message, in either mode. -/
def shown (m : Message) : String := unmarked m.text ++ lineEnd m.text

end Message

/-- Messages in groups. In each of them all but the last are marked, and each but the last of them
ends with a message that is not. -/
structure Grouped (groups : List (List Message)) (messages : List Message) : Prop where
  flatten_eq : groups.flatten = messages
  ne_nil : ∀ g ∈ groups, g ≠ []
  marked : ∀ g ∈ groups, ∀ m ∈ g.dropLast, isMarked m.text = true
  ended : ∀ g ∈ groups.dropLast, ∀ m ∈ g.getLast?, isMarked m.text = false

/-- What each message of a group writes: the first one has a header. -/
def groupTexts : List Message → List String
  | [] => []
  | m :: ms => (header m.time m.level ++ m.shown) :: ms.map Message.shown

lemma forall_mem_dropLast {α : Type} {P : α → Prop} {l : List α} (h : l.IsChain fun a _ => P a) :
    ∀ a ∈ l.dropLast, P a := by
  induction l with
  | nil => simp
  | cons a l ih =>
    cases l with
    | nil => simp
    | cons b l =>
      obtain ⟨ha, hl⟩ := List.isChain_cons_cons.mp h
      rw [List.dropLast_cons_cons]
      exact List.forall_mem_cons.mpr ⟨ha, ih hl⟩

/-- A group goes on after a marked message and ends after another one. -/
lemma exists_grouped (messages : List Message) : ∃ groups, Grouped groups messages := by
  let r : Message → Message → Bool := fun m _ => isMarked m.text
  refine ⟨messages.splitBy r, List.flatten_splitBy r messages,
    fun g hg => List.ne_nil_of_mem_splitBy hg,
    fun g hg => forall_mem_dropLast (List.isChain_of_mem_splitBy hg), ?_⟩
  refine forall_mem_dropLast ((List.isChain_getLast_head_splitBy r messages).imp ?_)
  rintro g _ ⟨hg, _, hlast⟩ m hm
  rw [List.getLast?_eq_some_getLast hg] at hm
  exact Option.some.inj hm ▸ hlast

/-- **The text of a group**: the header of its first message, the texts without their marks, and a
line end if one of them had no mark. -/
lemma join_groupTexts {m : Message} {ms : List Message}
    (h : ∀ x ∈ (m :: ms).dropLast, isMarked x.text = true) :
    String.join (groupTexts (m :: ms)) =
      header m.time m.level ++ String.join ((m :: ms).map fun x => unmarked x.text) ++
        if ∃ x ∈ m :: ms, isMarked x.text = false then "\n" else "" := by
  have hshown : String.join ((m :: ms).map Message.shown) =
      String.join ((m :: ms).map fun x => unmarked x.text) ++
        if ∃ x ∈ m :: ms, isMarked x.text = false then "\n" else "" := by
    induction ms generalizing m with
    | nil =>
      rcases hm : isMarked m.text <;> simp [Message.shown, lineEnd, hm]
    | cons x ms ih =>
      rw [List.dropLast_cons_cons, List.forall_mem_cons] at h
      rw [List.map_cons, String.join_cons, ih h.2, List.map_cons, String.join_cons]
      simp [Message.shown, lineEnd, h.1, String.append_assoc]
  rw [groupTexts, String.join_cons, String.append_assoc, ← String.join_cons, ← List.map_cons,
    hshown, String.append_assoc]

/-! ### Single sessions -/

/-- What a message writes in the informing mode, if it is not too light. -/
def informed (m : Message) : Output :=
  if Level.info.rank ≤ m.level.rank then
    { out := unmarked m.text ++ if isMarked m.text = true then "" else "\n" }
  else {}

lemma step_informing (m : Message) :
    step m.time .informing (.message m.level m.text) = (.informing, informed m) := by
  unfold step Mode.write informed lineEnd
  by_cases h : m.level.rank < Level.info.rank
  · simp [Mode.threshold, h]
  · simp [Mode.threshold, h]

lemma trace_informing (messages : List Message) :
    trace .informing (messages.map Message.toStep) = messages.map informed := by
  induction messages with
  | nil => rfl
  | cons m messages ih =>
    rw [List.map_cons, Message.toStep, trace, step_informing, ih]
    rfl

lemma step_debugging (lineOpen : Bool) (m : Message) :
    step m.time (.debugging lineOpen) (.message m.level m.text) =
      (.debugging (isMarked m.text),
        { err := (if lineOpen then "" else header m.time m.level) ++ m.shown }) := by
  simp [step, Mode.write, Mode.threshold, Level.rank, Message.shown, String.append_assoc]

/-- A group leaves its line open if its last message is marked. -/
lemma trace_group (lineOpen : Bool) {g : List Message} (hg : g ≠ [])
    (h : ∀ m ∈ g.dropLast, isMarked m.text = true) (rest : List (String × Step)) :
    trace (.debugging lineOpen) (g.map Message.toStep ++ rest) =
      (if lineOpen then g.map Message.shown else groupTexts g).map (fun t => { err := t }) ++
        trace (.debugging (isMarked (g.getLast hg).text)) rest := by
  induction g generalizing lineOpen with
  | nil => exact absurd rfl hg
  | cons m g ih =>
    rw [List.map_cons, List.cons_append, Message.toStep, trace, step_debugging]
    cases g with
    | nil => cases lineOpen <;> simp [groupTexts]
    | cons x g =>
      rw [List.dropLast_cons_cons, List.forall_mem_cons] at h
      rw [h.1, ih true (by simp) h.2]
      cases lineOpen <;> simp [groupTexts]

lemma trace_debugging {groups : List (List Message)} {messages : List Message}
    (h : Grouped groups messages) :
    trace (.debugging false) (messages.map Message.toStep) =
      (groups.flatMap groupTexts).map fun t => { err := t } := by
  obtain ⟨rfl, hne, hmarked, hended⟩ := h
  induction groups with
  | nil => rfl
  | cons g groups ih =>
    rw [List.forall_mem_cons] at hne hmarked
    rw [List.flatten_cons, List.map_append, trace_group false hne.1 hmarked.1,
      List.flatMap_cons, List.map_append]
    cases groups with
    | nil => rfl
    | cons g' groups =>
      rw [List.dropLast_cons_cons, List.forall_mem_cons] at hended
      -- the line is closed before the next group begins
      rw [hended.1 _ (List.getLast?_eq_some_getLast hne.1), ih hne.2 hmarked.2 hended.2]
      rfl

/-! ### All sessions -/

/-- A choice of mode, and the messages up to the next one. -/
structure Session where
  time : String
  debug : Bool
  messages : List Message

namespace Session

def steps (s : Session) : List (String × Step) :=
  (s.time, .mode s.debug) :: s.messages.map Message.toStep

def outputs (s : Session) : List Output :=
  trace (if s.debug then .debugging false else .informing) (s.messages.map Message.toStep)

/-- Steps that begin with a choice of mode are those of some sessions. -/
lemma exists_sessions (time : String) (debug : Bool) (rest : List (String × Step)) :
    ∃ messages sessions, List.flatMap steps (⟨time, debug, messages⟩ :: sessions) =
      (time, .mode debug) :: rest := by
  induction rest generalizing time debug with
  | nil => exact ⟨[], [], rfl⟩
  | cons s rest ih =>
    obtain ⟨time', debug' | ⟨level, text⟩⟩ := s
    · obtain ⟨messages, sessions, h⟩ := ih time' debug'
      exact ⟨[], ⟨time', debug', messages⟩ :: sessions, congrArg _ h⟩
    · obtain ⟨messages, sessions, h⟩ := ih time debug
      refine ⟨⟨time', level, text⟩ :: messages, sessions, ?_⟩
      exact congrArg (fun tail => (time, .mode debug) :: (time', .message level text) :: tail)
        (List.cons.inj h).2

/-- **Sessions are independent** of each other and of the mode before the first. -/
lemma trace_flatMap (mode : Mode) (sessions : List Session) :
    trace mode (sessions.flatMap steps) = sessions.flatMap fun s => {} :: s.outputs := by
  induction sessions generalizing mode with
  | nil => rfl
  | cons s sessions ih =>
    obtain ⟨time, debug, messages⟩ := s
    rw [List.flatMap_cons, trace_append, ih, List.flatMap_cons]
    cases debug <;> rfl

end Session

/-- **A whole run** is made of sessions. Informing, each message that is not too light goes to
standard output, without its marks, and with a line end if it has none. Debugging, messages go to
standard error in groups, and a group has one header. Nothing else is written. Marks are what a text
is cut at. -/
theorem trace_sessions (mode : Mode) (time : String) (debug : Bool)
    (rest : List (String × Step)) :
    ∃ sessions : List Session, sessions.flatMap Session.steps = (time, .mode debug) :: rest ∧
      trace mode ((time, .mode debug) :: rest) = sessions.flatMap (fun s => {} :: s.outputs) ∧
      ∀ s ∈ sessions,
        (s.debug = false → s.outputs = s.messages.map fun m =>
          if Level.info.rank ≤ m.level.rank then
            { out := unmarked m.text ++ if isMarked m.text = true then "" else "\n" }
          else {}) ∧
        (s.debug = true → ∃ groups, Grouped groups s.messages ∧
          s.outputs = (groups.flatMap groupTexts).map (fun t => { err := t }) ∧
          ∀ m ms, m :: ms ∈ groups → String.join (groupTexts (m :: ms)) =
            m.time ++ " :: " ++ m.level.name ++ " :: root :: " ++
              String.join ((m :: ms).map fun x => unmarked x.text) ++
                if ∃ x ∈ m :: ms, isMarked x.text = false then "\n" else "") ∧
        ∀ m ∈ s.messages, ∃ parts, Cuts m.text.toList parts ∧
          unmarked m.text = String.ofList parts.flatten ∧
          (isMarked m.text = true ↔ 1 < parts.length) := by
  obtain ⟨messages, sessions, hsteps⟩ := Session.exists_sessions time debug rest
  refine ⟨_, hsteps, hsteps ▸ Session.trace_flatMap mode _, fun s _ => ⟨?_, ?_, fun m _ => ?_⟩⟩
  · intro hdebug
    rw [Session.outputs, hdebug]
    exact trace_informing s.messages
  · intro hdebug
    obtain ⟨groups, hgroups⟩ := exists_grouped s.messages
    refine ⟨groups, hgroups, ?_, fun m ms hg => join_groupTexts (hgroups.marked _ hg)⟩
    rw [Session.outputs, hdebug]
    exact trace_debugging hgroups
  · obtain ⟨parts, hparts⟩ := exists_cuts m.text.toList
    have h := hparts.removeMarks_eq
    exact ⟨parts, hparts, by rw [unmarked, h], by rw [isMarked, h, decide_eq_true_iff]⟩

example : run "T" .initial
    [.mode true, .message .info "a[!n]", .message .error "b[!n]", .message .debug "c",
      .message .info "d[!n]", .mode true, .message .warning "e"] =
    [{}, { err := "T :: INFO :: root :: a" }, { err := "b" }, { err := "c\n" },
      { err := "T :: INFO :: root :: d" }, {}, { err := "T :: WARNING :: root :: e\n" }] := by
  decide +kernel

end TableSchema.Log
