import JavaLex.Proofs.Shell.OpenInput
import JavaLex.Proofs.Shell.Submission

/-! # Turns of a session

A session is a sequence of turns, one for each submission up to the exit command. What a turn does
is determined by its text and by two things about the turns before it: how many of them were source
text, and how often comments were switched.
-/

namespace JavaLex

/-- A submission, and the session that answers it. -/
structure Turn where
  session : Session
  text : List Char
deriving DecidableEq

namespace Turn

def reply (turn : Turn) : Reply :=
  (turn.session.respond turn.text).1

def transcript (directory : Directory) (turn : Turn) : Transcript :=
  turn.session.writes directory turn.reply

def unit? (directory : Directory) (turn : Turn) : Option SourceUnit :=
  match turn.reply with
  | .scan source => some source
  | .load path => (directory.load path).toOption
  | .print _ => none
  | .exit => none

/-- The submission is source text, neither blank nor a command. -/
def isSource (turn : Turn) : Bool :=
  !(Charset.trim turn.text).isEmpty && (Command.parse? turn.text).isNone

def isSwitch (turn : Turn) : Bool :=
  (Command.parse? turn.text).any fun (command, _) => command = .comments

end Turn

namespace Session

/-- The turns of a session, up to the exit command or the last submission. -/
def turns (session : Session) : List (List Char) → List Turn
  | [] => []
  | text :: texts =>
      ⟨session, text⟩ ::
        if (session.respond text).1 = .exit then [] else (session.respond text).2.turns texts

/-- The session that some turns lead to from the start. -/
def after (options : Options) (earlier : List Turn) : Session where
  options := { options with
    keepComments := Nat.repeat not (earlier.countP Turn.isSwitch) options.keepComments }
  count := earlier.countP Turn.isSource

end Session

/-! ## One turn -/

theorem Directory.name_of_load {directory : Directory} {path : String} {unit : SourceUnit}
    (loaded : directory.load path = .ok unit) : unit.name = path := by
  unfold load at loaded
  split at loaded
  · obtain rfl := Except.ok.inj loaded
    rfl
  · cases loaded

theorem Command.parse?_of_blank {text : List Char} (blank : Charset.trim text = []) :
    Command.parse? text = none := by
  rw [parse?, blank]

namespace Session

variable {session : Session} {text : List Char}

theorem respond_of_blank (blank : Charset.trim text = []) :
    session.respond text = (.print .empty, session) := by
  rw [respond, blank]
  rfl

theorem respond_of_command {command : Command} {argument : Option (List Char)}
    (parsed : Command.parse? text = some (command, argument)) :
    session.respond text = session.obey argument command := by
  have some : Charset.trim text ≠ [] := by
    intro blank
    rw [Command.parse?_of_blank blank] at parsed
    cases parsed
  rw [respond, if_neg (by simpa using some), parsed]

theorem respond_of_source (source : (Turn.mk session text).isSource = true) :
    session.respond text =
      (.scan (session.nextUnit text), { session with count := session.count + 1 }) := by
  simp only [Turn.isSource, Bool.and_eq_true, Bool.not_eq_true', Option.isNone_iff_eq_none]
    at source
  rw [respond, source.1, source.2]
  rfl

end Session

namespace Turn

variable {turn : Turn} {directory : Directory}

theorem unparsed_of_isSource (source : turn.isSource = true) :
    Command.parse? turn.text = none :=
  Option.isNone_iff_eq_none.mp (Bool.and_eq_true_iff.mp source).2

theorem blank_or_command_or_source (turn : Turn) :
    Charset.trim turn.text = [] ∨
      (∃ command argument, Command.parse? turn.text = some (command, argument)) ∨
        turn.isSource = true := by
  by_cases blank : Charset.trim turn.text = []
  · exact .inl blank
  · cases parsed : Command.parse? turn.text with
    | some result => exact .inr (.inl ⟨result.1, result.2, rfl⟩)
    | none => exact .inr (.inr (by simp [isSource, blank, parsed]))

/-- Comments are switched by the comments command, and source text is counted. -/
theorem respond_snd (turn : Turn) :
    (turn.session.respond turn.text).2 =
      ⟨{ turn.session.options with
          keepComments := turn.session.options.keepComments ^^ turn.isSwitch },
        turn.session.count + turn.isSource.toNat⟩ := by
  rcases turn.blank_or_command_or_source with blank | ⟨command, argument, parsed⟩ | source
  · have unparsed := Command.parse?_of_blank blank
    simp [Session.respond_of_blank blank, isSwitch, isSource, blank, unparsed]
  · have switch : turn.isSwitch = decide (command = .comments) := by
      rw [isSwitch, parsed]
      rfl
    have uncounted : turn.isSource = false := by simp [isSource, parsed]
    rw [Session.respond_of_command parsed, switch, uncounted]
    cases command with
    | load => cases argument <;> simp [Session.obey]
    | _ => simp [Session.obey, Session.toggleComments]
  · have unparsed := unparsed_of_isSource source
    simp [Session.respond_of_source source, isSwitch, source, unparsed]

theorem reply_eq_exit_iff (turn : Turn) :
    turn.reply = .exit ↔ ∃ argument, Command.parse? turn.text = some (.exit, argument) := by
  rw [reply]
  rcases turn.blank_or_command_or_source with blank | ⟨command, argument, parsed⟩ | source
  · simp [Session.respond_of_blank blank, Command.parse?_of_blank blank]
  · rw [Session.respond_of_command parsed]
    cases command with
    | load => cases argument <;> simp [Session.obey, parsed]
    | _ => simp [Session.obey, parsed]
  · simp [Session.respond_of_source source, unparsed_of_isSource source]

end Turn

/-! ## Turn by turn -/

namespace Session

variable {options : Options} {earlier before later : List Turn} {turn : Turn}
  {texts : List (List Char)}

theorem after_append (options : Options) (earlier : List Turn) (turn : Turn) :
    after options (earlier ++ [turn]) =
      ⟨{ (after options earlier).options with
          keepComments := (after options earlier).options.keepComments ^^ turn.isSwitch },
        (after options earlier).count + turn.isSource.toNat⟩ := by
  cases switch : turn.isSwitch <;> cases source : turn.isSource <;>
    simp [after, List.countP_append, switch, source, Nat.repeat]

theorem respond_after (options : Options) (earlier : List Turn) (text : List Char) :
    ((after options earlier).respond text).2 =
      after options (earlier ++ [⟨after options earlier, text⟩]) :=
  (Turn.respond_snd ⟨after options earlier, text⟩).trans (after_append options earlier _).symm

/-- The session of a turn is the one that the turns before it lead to, and the exit command is
the last turn. -/
theorem session_eq_after (split : (after options earlier).turns texts = before ++ turn :: later) :
    turn.session = after options (earlier ++ before) ∧ (turn.reply = .exit → later = []) := by
  induction texts generalizing earlier before with
  | nil => simp [turns] at split
  | cons text texts ih =>
      rw [turns] at split
      cases before with
      | nil =>
          obtain ⟨rfl, rest⟩ := List.cons.inj split
          refine ⟨by rw [List.append_nil], fun exit => ?_⟩
          rw [← rest]
          exact if_pos exit
      | cons first before =>
          obtain ⟨rfl, rest⟩ := List.cons.inj split
          split at rest
          · simp at rest
          · rw [respond_after] at rest
            have goesOn := ih rest
            rwa [List.append_assoc] at goesOn

theorem exists_unanswered (session : Session) (texts : List (List Char)) :
    ∃ rest, texts = (session.turns texts).map Turn.text ++ rest ∧
      ((session.turns texts).any (·.reply == .exit) = false → rest = []) := by
  induction texts generalizing session with
  | nil => exact ⟨[], rfl, fun _ => rfl⟩
  | cons text texts ih =>
      rw [turns]
      split
      · next exit =>
        refine ⟨texts, rfl, fun goesOn => ?_⟩
        simp [Turn.reply, exit] at goesOn
      · obtain ⟨rest, same, ended⟩ := ih (session.respond text).2
        refine ⟨rest, congrArg (text :: ·) same, fun goesOn => ended ?_⟩
        exact (Bool.or_eq_false_iff.mp goesOn).2

/-- A session writes what its turns write, and takes leave unless it was told to exit. -/
theorem answer_eq (directory : Directory) (session : Session) (texts : List (List Char)) :
    session.answer directory texts =
      (session.turns texts).foldr (fun turn more => turn.transcript directory ++ more)
        (if (session.turns texts).any (·.reply == .exit) then .empty
          else .output endOfInput) := by
  induction texts generalizing session with
  | nil => rfl
  | cons text texts ih =>
      have reply : (Turn.mk session text).reply = (session.respond text).1 := rfl
      have wrote : (Turn.mk session text).transcript directory =
          session.writes directory (session.respond text).1 := rfl
      rw [answer, turns]
      split
      · next later exit =>
        rw [exit] at reply wrote
        simp [exit, reply, wrote, writes]
        rfl
      · next given later goesOn same =>
        rw [same] at reply wrote
        have going : (given == Reply.exit) = false := beq_false_of_ne goesOn
        rw [same, if_neg goesOn, List.foldr_cons, List.any_cons, reply, wrote, going,
          Bool.false_or, ← ih]

/-- The lines that the turns take are whole submissions. What is left of the input is cut off by
its end, or not read after the exit command. -/
theorem exists_partition {editor : LineEditor} {options : Options} {input : List Char}
    (joins : editor.Joins (isIncomplete options) input) (session : Session) :
    let turns := session.turns (editor.submissions (isIncomplete options) input)
    ∃ groups tail rest, InputLine.Cut (List.flatten groups ++ tail ++ rest) input ∧
      turns.map Turn.text = groups.map InputLine.joined ∧
      (∀ group ∈ groups, InputLine.IsSubmission (isIncomplete options) group) ∧
      InputLine.StaysOpen (isIncomplete options) [] tail ∧
      if turns.any (·.reply == .exit) then tail = [] else rest = [] := by
  intro turns
  obtain ⟨lines, cut⟩ := InputLine.exists_cut input
  obtain ⟨groups, tail, rfl, joined, each, stays⟩ := joins.exists_groups cut (List.suffix_refl _)
  obtain ⟨unanswered, texts, ended⟩ :=
    session.exists_unanswered (editor.submissions (isIncomplete options) input)
  obtain ⟨answered, left, rfl, same, others⟩ := List.map_eq_append_iff.mp (joined.symm.trans texts)
  have whole : ∀ group ∈ answered, InputLine.IsSubmission (isIncomplete options) group :=
    fun group member => each group (List.mem_append_left left member)
  rw [List.flatten_append] at cut
  by_cases exited : turns.any (·.reply == .exit) = true
  · refine ⟨answered, [], left.flatten ++ tail, ?_, same.symm, whole,
      InputLine.staysOpen_nil _ [], ?_⟩
    · rwa [List.append_nil, ← List.append_assoc]
    · rw [if_pos exited]
  · have none : unanswered = [] := ended (by simpa using exited)
    rw [none, List.map_eq_nil_iff] at others
    rw [others, List.flatten_nil, List.append_nil] at cut
    refine ⟨answered, tail, [], ?_, same.symm, whole, stays, ?_⟩
    · rwa [List.append_nil]
    · rw [if_neg exited]

end Session

/-! ## Whole sessions -/

namespace Turn

/-- What a turn does after the earlier ones. -/
structure Answers (directory : Directory) (options : Options) (earlier : List Turn)
    (turn : Turn) : Prop where
  /-- Every comments command before it has switched comments, and nothing else has. -/
  options_eq : turn.session.options = { options with
    keepComments := Nat.repeat not (earlier.countP isSwitch) options.keepComments }
  /-- The unit that is scanned is shown. -/
  shown : ∀ unit, turn.unit? directory = some unit →
    turn.transcript directory = turn.session.showUnit unit
  blank : Charset.trim turn.text = [] → turn.unit? directory = none
  /-- Only the load command scans a unit, the one at its path and under this name. -/
  command : ∀ command argument, Command.parse? turn.text = some (command, argument) →
    ∀ unit, turn.unit? directory = some unit ↔
      command = .load ∧ argument = some unit.name.toList ∧ directory.load unit.name = .ok unit
  /-- Source text is scanned under its number. -/
  source : turn.isSource = true → turn.unit? directory =
    some ⟨"<repl:" ++ toString (earlier.countP isSource + 1) ++ ">", String.ofList turn.text⟩
  /-- Source text leaves no comment and no bracket open. -/
  closed : turn.isSource = true → ∀ unit, turn.unit? directory = some unit →
    (unit.tokenize turn.session.options).hasOpenComment = false ∧
      (unit.tokenize turn.session.options).depth ≤ 0

variable {directory : Directory} {turn : Turn} {unit : SourceUnit}

theorem shown_of_unit? (scanned : turn.unit? directory = some unit) :
    turn.transcript directory = turn.session.showUnit unit := by
  rw [unit?] at scanned
  rw [transcript]
  cases reply : turn.reply with
  | scan source =>
      rw [reply] at scanned
      obtain rfl := Option.some.inj scanned
      rfl
  | load path =>
      rw [reply] at scanned
      cases loaded : directory.load path with
      | ok source =>
          simp only [loaded] at scanned
          obtain rfl := Option.some.inj scanned
          rw [Session.writes, loaded]
          rfl
      | error cause =>
          simp only [loaded] at scanned
          cases scanned
  | print | exit =>
      rw [reply] at scanned
      cases scanned

theorem unit?_of_blank (blank : Charset.trim turn.text = []) : turn.unit? directory = none := by
  rw [unit?, reply, Session.respond_of_blank blank]

theorem unit?_of_source (source : turn.isSource = true) :
    turn.unit? directory = some (turn.session.nextUnit turn.text) := by
  rw [unit?, reply, Session.respond_of_source source]

theorem unit?_of_command {command : Command} {argument : Option (List Char)}
    (parsed : Command.parse? turn.text = some (command, argument)) (unit : SourceUnit) :
    turn.unit? directory = some unit ↔
      command = .load ∧ argument = some unit.name.toList ∧
        directory.load unit.name = .ok unit := by
  rw [unit?, reply, Session.respond_of_command parsed]
  constructor
  · intro scanned
    cases command with
    | load =>
        cases argument with
        | none => cases scanned
        | some path =>
            cases loaded : directory.load (String.ofList path) with
            | ok source =>
                simp only [Session.obey, loaded] at scanned
                obtain rfl := Option.some.inj scanned
                have name := Directory.name_of_load loaded
                rw [name, String.toList_ofList]
                exact ⟨rfl, rfl, loaded⟩
            | error cause =>
                simp only [Session.obey, loaded] at scanned
                cases scanned
    | help | exit | clear | version | comments => cases scanned
  · rintro ⟨rfl, rfl, loaded⟩
    simp only [Session.obey, String.ofList_toList, loaded]
    rfl

end Turn

/-- Let an editor join the lines of an input as it should, and let the input have fewer than 2 ^ 31
bytes. The lines up to the exit command are cut, in order, into submissions and at most one
incomplete rest, and each submission is a turn of the session. Blank submissions and commands scan
nothing, but that the load command scans the file at its path under the name of the path; source
text is scanned under its number, with comments switched once by each comments command before it,
and leaves no comment and no bracket open. A word is enough to count the open brackets of every
text that is checked on the way. -/
theorem session_turns (editor : LineEditor) (directory : Directory) (options : Options)
    {input : List Char} (room : byteSize input < 2147483648)
    (joins : editor.Joins (isIncomplete options) input) :
    let turns :=
      (Session.start options).turns (editor.submissions (isIncomplete options) input)
    let exited := turns.any (·.reply == .exit)
    Session.run editor directory options input =
        .output banner ++
          turns.foldr (fun turn more => turn.transcript directory ++ more)
            (if exited then .empty else .output endOfInput) ++
          .output "\n" ∧
      (∀ text, byteSize text ≤ byteSize input →
        isIncomplete? options text = some (isIncomplete options text)) ∧
      (∃ groups tail rest, InputLine.Cut (List.flatten groups ++ tail ++ rest) input ∧
        turns.map Turn.text = groups.map InputLine.joined ∧
        (∀ group ∈ groups, InputLine.IsSubmission (isIncomplete options) group) ∧
        InputLine.StaysOpen (isIncomplete options) [] tail ∧
        if exited then tail = [] else rest = []) ∧
      ∀ earlier turn later, turns = earlier ++ turn :: later →
        turn.Answers directory options earlier ∧
          (turn.reply = .exit ↔ ∃ argument, Command.parse? turn.text = some (.exit, argument)) ∧
          (turn.reply = .exit → later = []) := by
  intro turns exited
  have partition := Session.exists_partition joins (.start options)
  refine ⟨?answers, ?counts, partition, ?turns⟩
  case answers => rw [Session.run, Session.answer_eq]
  case counts =>
    intro text within
    exact isIncomplete?_eq options (by omega)
  case turns =>
    intro earlier turn later split
    have fromStart : (Session.after options []).turns
        (editor.submissions (isIncomplete options) input) = earlier ++ turn :: later := split
    obtain ⟨session, last⟩ := Session.session_eq_after fromStart
    rw [List.nil_append] at session
    have complete : isIncomplete options turn.text = false := by
      obtain ⟨groups, -, -, -, texts, each, -⟩ := partition
      have member : turn.text ∈ turns.map Turn.text :=
        List.mem_map.mpr ⟨turn, by simp [split], rfl⟩
      rw [texts] at member
      obtain ⟨group, found, same⟩ := List.mem_map.mp member
      exact same ▸ (each group found).complete
    have options_eq : turn.session.options = { options with
        keepComments := Nat.repeat not (earlier.countP Turn.isSwitch) options.keepComments } := by
      rw [session, Session.after]
    refine ⟨⟨options_eq, fun unit => Turn.shown_of_unit?, Turn.unit?_of_blank,
      fun command argument parsed => Turn.unit?_of_command parsed, ?_, ?_⟩,
      turn.reply_eq_exit_iff, last⟩
    · intro source
      rw [Turn.unit?_of_source source, Session.nextUnit, session, Session.after]
    · intro source unit scanned
      rw [Turn.unit?_of_source source] at scanned
      obtain rfl := Option.some.inj scanned
      rw [options_eq]
      exact closed_of_complete (Turn.unparsed_of_isSource source) complete _ _

/-- The third submission is scanned with comments, as the second unit, and the fourth ends the
session. -/
theorem session_turns_comments :
    byteSize "f(\n1)\n.comments\n/* c */ b\n.exit\nc".toList < 2147483648 ∧
      LineEditor.piped.Joins (isIncomplete .usual)
        "f(\n1)\n.comments\n/* c */ b\n.exit\nc".toList ∧
      ∃ turn ∈ (Session.start .usual).turns (LineEditor.piped.submissions (isIncomplete .usual)
          "f(\n1)\n.comments\n/* c */ b\n.exit\nc".toList),
        turn.text = "/* c */ b".toList ∧ turn.session.options.keepComments = true ∧
          turn.unit? .empty = some ⟨"<repl:2>", "/* c */ b"⟩ := by
  have room : byteSize "f(\n1)\n.comments\n/* c */ b\n.exit\nc".toList < 2147483648 := by
    decide +kernel
  have joins : LineEditor.piped.Joins (isIncomplete .usual)
      "f(\n1)\n.comments\n/* c */ b\n.exit\nc".toList := LineEditor.piped_joins _ _
  let earlier : List Turn :=
    [⟨⟨.usual, 0⟩, "f(\n1)".toList⟩, ⟨⟨.usual, 1⟩, ".comments".toList⟩]
  let turn : Turn := ⟨⟨⟨true, false⟩, 1⟩, "/* c */ b".toList⟩
  let later : List Turn := [⟨⟨⟨true, false⟩, 2⟩, ".exit".toList⟩]
  have split : (Session.start .usual).turns (LineEditor.piped.submissions (isIncomplete .usual)
      "f(\n1)\n.comments\n/* c */ b\n.exit\nc".toList) = earlier ++ turn :: later := by
    decide +kernel
  obtain ⟨-, -, -, each⟩ := session_turns .piped .empty .usual room joins
  obtain ⟨answers, -, -⟩ := each earlier turn later split
  refine ⟨room, joins, turn, by rw [split]; simp, rfl, ?_, ?_⟩
  · rw [answers.options_eq]
    decide +kernel
  · rw [answers.source (by decide +kernel)]
    decide +kernel

/-- A file may bear the name of a numbered unit, and the load command scans it under this name.
Where a line has as many opening parentheses as a word can count, the check has no answer. -/
theorem load_numbered :
    (∃ turn ∈ (Session.start .usual).turns (LineEditor.piped.submissions (isIncomplete .usual)
        ".load <repl:1>\n".toList),
      (Command.parse? turn.text).isSome = true ∧
        ∃ unit, turn.unit? ⟨[("<repl:1>", .file "/*".toUTF8)]⟩ = some unit ∧
          unit.name = "<repl:1>" ∧
          (unit.tokenize turn.session.options).hasOpenComment = true) ∧
      isIncomplete? .usual (List.replicate 2147483648 '(') = none := by
  constructor
  · refine ⟨⟨.start .usual, ".load <repl:1>".toList⟩, by decide +kernel, by decide +kernel,
      ⟨"<repl:1>", "/*"⟩, by decide +kernel, rfl, by decide +kernel⟩
  · exact isIncomplete?_leftParens .usual (Nat.le_refl _)

end JavaLex
