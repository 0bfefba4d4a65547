import DiceNotation.Proofs.Play.Framing
import DiceNotation.Proofs.Session.Commands
import DiceNotation.Session.Shell

/-!
# The shell line by line

The shell does what rolling its lines one after the other does, each on an empty desk and with the numbers that the
line before leaves. It stops at an interruption or a word for leaving and reads nothing after that; a line that is
rejected shows its error and leaves everything else as if it were not there. A line whose error the console refuses
makes its roll fail, and the shell with it.
-/

set_option autoImplicit false

namespace DiceNotation

variable {State : Type}

/-! ## Rolling one expression after the other -/

namespace Session

/-- Rolls that all succeed: each expression is rolled once, on an empty desk that goes on from the source that the
roll before leaves. The desks hold what each roll shows, draws and remarks. -/
inductive RollsThrough (console : Console) (generator : Generator State) (settings : Settings) (threshold : Level) :
    State → List Text → List (Desk State) → State → Prop where
  | nil {source : State} : RollsThrough console generator settings threshold source [] [] source
  | cons {source last : State} {expression : Text} {reports : List Report} {own : Desk State}
      {rest : List Text} {desks : List (Desk State)} :
      (roll console generator settings expression 1).on { source, journal := { threshold } } = (.ok reports, own) →
      RollsThrough console generator settings threshold own.source rest desks last →
      RollsThrough console generator settings threshold source (expression :: rest) (own :: desks) last

variable {console : Console} {generator : Generator State} {settings : Settings} {threshold : Level}
  {source middle last : State} {expression : Text} {earlier later : List Text} {desks front back : List (Desk State)}

theorem RollsThrough.append (first : RollsThrough console generator settings threshold source earlier front middle)
    (second : RollsThrough console generator settings threshold middle later back last) :
    RollsThrough console generator settings threshold source (earlier ++ later) (front ++ back) last := by
  induction first with
  | nil => exact second
  | cons rolled _ ih => exact .cons rolled (ih second)

theorem RollsThrough.split
    (rolled : RollsThrough console generator settings threshold source (earlier ++ later) desks last) :
    ∃ front back middle, desks = front ++ back ∧ front.length = earlier.length ∧
      RollsThrough console generator settings threshold source earlier front middle ∧
      RollsThrough console generator settings threshold middle later back last := by
  induction earlier generalizing source desks with
  | nil => exact ⟨[], desks, source, rfl, rfl, .nil, rolled⟩
  | cons expression earlier ih =>
      cases rolled with
      | cons own rest =>
          obtain ⟨front, back, middle, rfl, size, first, second⟩ := ih rest
          exact ⟨_ :: front, back, middle, rfl, congrArg (· + 1) size, .cons own first, second⟩

/-- A rejected expression that was rolled has been reported. -/
theorem reported_of_roll_of_rejected {error : NotationError} {reports : List Report} {desk own : Desk State}
    (failed : Bag.ofText expression = .error (.rejected error))
    (played : (roll console generator settings expression 1).on desk = (.ok reports, own)) :
    Reported desk expression error own := by
  cases taken : console.takes (errorEvent expression error) with
  | false =>
      obtain ⟨finish, broke, _⟩ := exists_on_readBag_of_refused desk failed taken
      have same := (on_commands_of_failure generator settings broke).1 1
      rw [played] at same
      cases same
  | true =>
      obtain ⟨finish, read, reported⟩ := exists_on_readBag_of_reported desk failed taken
      have same := (on_commands_of_none generator settings read).1 1
      rw [played] at same
      cases same
      exact reported

/-- A rejected expression is one error and no draw, and the other rolls are the same without it. -/
theorem RollsThrough.without_rejected {error : NotationError}
    (rolled : RollsThrough console generator settings threshold source (earlier ++ expression :: later) desks last)
    (failed : Bag.ofText expression = .error (.rejected error)) :
    ∃ front own back, desks = front ++ own :: back ∧ front.length = earlier.length ∧
      own.events = [errorEvent expression error] ∧ own.draws.toList = [] ∧
      RollsThrough console generator settings threshold source (earlier ++ later) (front ++ back) last := by
  obtain ⟨front, back, middle, rfl, size, first, second⟩ := rolled.split
  cases second with
  | @cons _ _ _ _ own _ back played rest =>
      have reported := reported_of_roll_of_rejected failed played
      refine ⟨front, own, back, rfl, size, ?_, ?_, ?_⟩
      · rw [Desk.events, reported.shown]
        rfl
      · rw [reported.draws]
        rfl
      · rw [reported.source] at rest
        exact first.append rest

end Session

namespace Shell

/-! ## What is read -/

/-- The shell does not go on after this input. -/
def Input.ends : Input → Bool
  | .interruption => true
  | .line text => isQuit (Text.trimmed Text.isBlank text)

/-- The expression that a line stands for: without the blanks at its ends, or the default one when nothing is left. -/
def lineExpression (settings : Settings) (text : Text) : Text :=
  let line := Text.trimmed Text.isBlank text
  if line.isEmpty then settings.defaultExpression else line

def Input.expression? (settings : Settings) : Input → Option Text
  | .interruption => none
  | .line text => some (lineExpression settings text)

/-- The expressions that are rolled: those of the lines before the first input that ends the shell. -/
def asked (settings : Settings) (inputs : List Input) : List Text :=
  (inputs.takeWhile fun input => !input.ends).filterMap (Input.expression? settings)

/-- The inputs after the first one that ends the shell. -/
def unread (inputs : List Input) : List Input :=
  (inputs.dropWhile fun input => !input.ends).tail

/-- What is shown before each input is read. -/
def prompts (prompting : Bool) : List Console.Event :=
  if prompting then [Display.prompt] else []

variable {console : Console} {generator : Generator State} {settings : Settings} {prompting : Bool}
  {inputs : List Input} {input : Input} {desk opened middle finish : Desk State} {desks : List (Desk State)}
  {last : State}

/-- What lies on `finish` is what lay on `opened` and then what lies on each desk, with a prompt before each of them
and one at the end if there are prompts. -/
structure Gathers (prompting : Bool) (opened : Desk State) (desks : List (Desk State)) (finish : Desk State) :
    Prop where
  events : finish.events =
    opened.events ++ (desks.flatMap fun own => prompts prompting ++ own.events) ++ prompts prompting
  draws : finish.draws.toList = opened.draws.toList ++ desks.flatMap fun own => own.draws.toList
  remarks : finish.journal.remarks = opened.journal.remarks ++ desks.flatMap fun own => own.journal.remarks

/-! ## Steps -/

/-- The desk after asking for an input. -/
def prompted (prompting : Bool) (desk : Desk State) : Desk State :=
  { desk with shown := prompts prompting ++ desk.shown }

theorem on_ask : (ask console prompting).on desk = (.ok (), prompted prompting desk) := by
  cases prompting with
  | false => rfl
  | true => exact Play.on_present_eq_ok_iff.mpr ⟨console.takes_ordinary _ Display.isOrdinary_prompt, rfl⟩

theorem events_prompted : (prompted prompting desk).events = desk.events ++ prompts prompting := by
  cases prompting
  · exact (List.append_nil _).symm
  · exact List.reverse_cons

theorem on_loop_nil :
    (loop console generator settings prompting []).on desk = (.ok [], prompted prompting desk) := by
  rw [loop, Play.on_bind, on_ask]
  rfl

theorem on_loop_of_ends (ends : input.ends = true) :
    (loop console generator settings prompting (input :: inputs)).on desk = (.ok inputs, prompted prompting desk) := by
  have stops : step console generator settings input = pure false := by
    cases input with
    | interruption => rfl
    | line text => exact if_pos ends
  rw [loop, Play.on_bind, on_ask]
  simp only [stops]
  rfl

theorem on_loop_of_line {text : Text} (goesOn : (Input.line text).ends = false) :
    (loop console generator settings prompting (.line text :: inputs)).on desk =
      match (Session.roll console generator settings (lineExpression settings text) 1).on (prompted prompting desk) with
      | (.ok _, middle) => (loop console generator settings prompting inputs).on middle
      | (.error failure, middle) => (.error failure, middle) := by
  have rolls : step console generator settings (.line text) =
      (do
        let _ ← Session.roll console generator settings (lineExpression settings text) 1
        return true) :=
    if_neg (ne_true_of_eq_false goesOn)
  rw [loop, Play.on_bind, on_ask]
  simp only [rolls, Play.on_bind]
  rcases (Session.roll console generator settings (lineExpression settings text) 1).on (prompted prompting desk) with
    ⟨_ | _, middle⟩ <;> rfl

theorem asked_of_ends (ends : input.ends = true) : asked settings (input :: inputs) = [] := by
  simp [asked, ends]

theorem unread_of_ends (ends : input.ends = true) : unread (input :: inputs) = inputs := by
  simp [unread, ends]

theorem asked_of_line {text : Text} (goesOn : (Input.line text).ends = false) :
    asked settings (.line text :: inputs) = lineExpression settings text :: asked settings inputs := by
  simp [asked, goesOn, Input.expression?]

theorem unread_of_line {text : Text} (goesOn : (Input.line text).ends = false) :
    unread (.line text :: inputs) = unread inputs := by
  simp [unread, goesOn]

/-! ## Runs -/

theorem gathers_nil : Gathers prompting desk [] (prompted prompting desk) where
  events := by simp [events_prompted]
  draws := (List.append_nil _).symm
  remarks := (List.append_nil _).symm

theorem Gathers.cons {own : Desk State} (extended : (prompted prompting desk).Extends own middle)
    (rest : Gathers prompting middle desks finish) : Gathers prompting desk (own :: desks) finish where
  events := by
    rw [rest.events, extended.events, events_prompted, List.flatMap_cons]
    simp only [List.append_assoc]
  draws := by
    rw [rest.draws, extended.draws, List.flatMap_cons, List.append_assoc]
    rfl
  remarks := by
    rw [rest.remarks, extended.remarks, List.flatMap_cons, List.append_assoc]
    rfl

variable (prompting inputs) in
/-- One line of the shell: its roll is the one on an empty desk, and what it shows is put after what was there. -/
theorem exists_on_loop_of_line {text : Text} {reports : List Report} {own : Desk State}
    (goesOn : (Input.line text).ends = false)
    (played : (Session.roll console generator settings (lineExpression settings text) 1).on desk.cleared =
      (.ok reports, own)) :
    ∃ middle, (prompted prompting desk).Extends own middle ∧
      (loop console generator settings prompting (.line text :: inputs)).on desk =
        (loop console generator settings prompting inputs).on middle := by
  obtain ⟨outcome, _, middle, alone, here, extended⟩ :=
    (Session.local_roll console generator settings (lineExpression settings text) 1).exists_on (prompted prompting desk)
  obtain ⟨rfl, rfl⟩ := Prod.mk.inj (alone.symm.trans played)
  rw [on_loop_of_line goesOn, here]
  exact ⟨middle, extended, rfl⟩

theorem exists_on_loop
    (rolled : Session.RollsThrough console generator settings desk.journal.threshold desk.source (asked settings inputs)
      desks last) :
    ∃ finish, (loop console generator settings prompting inputs).on desk = (.ok (unread inputs), finish) ∧
      finish.source = last ∧ Gathers prompting desk desks finish := by
  induction inputs generalizing desk desks with
  | nil =>
      cases rolled
      exact ⟨_, on_loop_nil, rfl, gathers_nil⟩
  | cons input inputs ih =>
      cases ends : input.ends with
      | true =>
          rw [asked_of_ends ends] at rolled
          cases rolled
          rw [unread_of_ends ends]
          exact ⟨_, on_loop_of_ends ends, rfl, gathers_nil⟩
      | false =>
          cases input with
          | interruption => cases ends
          | line text =>
              rw [asked_of_line ends] at rolled
              rw [unread_of_line ends]
              cases rolled with
              | cons played rest =>
                  obtain ⟨middle, extended, stepped⟩ := exists_on_loop_of_line prompting inputs ends played
                  have threshold : middle.journal.threshold = desk.journal.threshold := extended.threshold
                  rw [← extended.source, ← threshold] at rest
                  obtain ⟨finish, ran, source, gathers⟩ := ih rest
                  exact ⟨finish, stepped.trans ran, source, .cons extended gathers⟩

theorem rollsThrough_of_loop {rest : List Input}
    (ran : (loop console generator settings prompting inputs).on desk = (.ok rest, finish)) :
    ∃ desks last, Session.RollsThrough console generator settings desk.journal.threshold desk.source
      (asked settings inputs) desks last := by
  induction inputs generalizing desk with
  | nil => exact ⟨[], desk.source, .nil⟩
  | cons input inputs ih =>
      cases ends : input.ends with
      | true =>
          rw [asked_of_ends ends]
          exact ⟨[], desk.source, .nil⟩
      | false =>
          cases input with
          | interruption => cases ends
          | line text =>
              obtain ⟨outcome, own, middle, alone, here, extended⟩ :=
                (Session.local_roll console generator settings (lineExpression settings text) 1).exists_on
                  (prompted prompting desk)
              rw [on_loop_of_line ends, here] at ran
              rw [asked_of_line ends]
              cases outcome with
              | error failure => cases ran
              | ok reports =>
                  obtain ⟨desks, last, rolled⟩ := ih ran
                  have threshold : middle.journal.threshold = desk.journal.threshold := extended.threshold
                  rw [extended.source, threshold] at rolled
                  exact ⟨own :: desks, last, .cons alone rolled⟩

/-! ## Lines that are left out -/

theorem asked_append {before : List Input} (goesOn : ∀ input ∈ before, input.ends = false) (later : List Input) :
    asked settings (before ++ later) = before.filterMap (Input.expression? settings) ++ asked settings later := by
  rw [asked, List.takeWhile_append_of_pos (by simpa using goesOn), List.filterMap_append]
  rfl

theorem unread_append {before : List Input} (goesOn : ∀ input ∈ before, input.ends = false) (later : List Input) :
    unread (before ++ later) = unread later := by
  rw [unread, List.dropWhile_append_of_pos (by simpa using goesOn)]
  rfl

theorem length_filterMap_expression? {before : List Input} (goesOn : ∀ input ∈ before, input.ends = false) :
    (before.filterMap (Input.expression? settings)).length = before.length := by
  refine List.filterMap_length_eq_length.mpr fun input member => ?_
  cases input with
  | interruption => cases goesOn _ member
  | line text => rfl

theorem on_showBanner_eq_ok_iff :
    (Display.showBanner console settings.defaultExpression).on desk = (.ok (), opened) ↔
      console.takes (Display.banner settings.defaultExpression) = true ∧
        { desk with shown := Display.banner settings.defaultExpression :: desk.shown } = opened :=
  Play.on_present_eq_ok_iff

theorem exists_on_run (prompting : Bool)
    (rolled : Session.RollsThrough console generator settings desk.journal.threshold desk.source (asked settings inputs)
      desks last)
    (welcomed : (Display.showBanner console settings.defaultExpression).on desk = (.ok (), opened)) :
    ∃ finish, (run console generator settings prompting inputs).on desk = (.ok (unread inputs), finish) ∧
      finish.source = last ∧ Gathers prompting opened desks finish := by
  rw [run, Play.on_bind, welcomed]
  obtain ⟨_, shown⟩ := on_showBanner_eq_ok_iff.mp welcomed
  have source : opened.source = desk.source := by rw [← shown]
  have journal : opened.journal = desk.journal := by rw [← shown]
  rw [← source, ← journal] at rolled
  exact exists_on_loop rolled

/-- The shell fails only where its banner is refused or one of its rolls fails. -/
theorem run_succeeds_iff :
    (∃ rest finish, (run console generator settings prompting inputs).on desk = (.ok rest, finish)) ↔
      console.takes (Display.banner settings.defaultExpression) = true ∧
        ∃ desks last, Session.RollsThrough console generator settings desk.journal.threshold desk.source
          (asked settings inputs) desks last := by
  constructor
  · intro given
    obtain ⟨rest, finish, ran⟩ := given
    obtain ⟨_, opened, welcomed, looped⟩ := Play.on_bind_eq_ok_iff.mp ran
    obtain ⟨taken, rfl⟩ := on_showBanner_eq_ok_iff.mp welcomed
    -- The banner lies on the desk now, but neither the source nor the journal has changed.
    have rolled := rollsThrough_of_loop looped
    exact ⟨taken, rolled⟩
  · intro given
    obtain ⟨taken, desks, last, rolled⟩ := given
    obtain ⟨finish, ran, _⟩ := exists_on_run prompting rolled (on_showBanner_eq_ok_iff.mpr ⟨taken, rfl⟩)
    exact ⟨_, finish, ran⟩

/-- The shell is the sequence of its lines, after a banner; where the console refuses the banner, the shell fails with
it and reads nothing. -/
theorem run_rolls_lines (prompting : Bool)
    (rolled : Session.RollsThrough console generator settings desk.journal.threshold desk.source (asked settings inputs)
      desks last) :
    if console.takes (Display.banner settings.defaultExpression) then
      ∃ opened finish, (Display.showBanner console settings.defaultExpression).on desk = (.ok (), opened) ∧
        (run console generator settings prompting inputs).on desk = (.ok (unread inputs), finish) ∧
        finish.source = last ∧ Gathers prompting opened desks finish ∧
        ∀ before text later error, inputs = before ++ .line text :: later →
          (∀ input ∈ before, input.ends = false) → (Input.line text).ends = false →
          Bag.ofText (lineExpression settings text) = .error (.rejected error) →
          ∃ front own back without, desks = front ++ own :: back ∧ front.length = before.length ∧
            own.events = [Session.errorEvent (lineExpression settings text) error] ∧ own.draws.toList = [] ∧
            (run console generator settings prompting (before ++ later)).on desk = (.ok (unread inputs), without) ∧
            without.source = last ∧ Gathers prompting opened (front ++ back) without
    else (run console generator settings prompting inputs).on desk = (.error .unshowable, desk) := by
  split
  · next taken =>
      obtain ⟨opened, welcomed⟩ :
          ∃ opened, (Display.showBanner console settings.defaultExpression).on desk = (.ok (), opened) :=
        ⟨_, on_showBanner_eq_ok_iff.mpr ⟨taken, rfl⟩⟩
      obtain ⟨finish, ran, source, gathers⟩ := exists_on_run prompting rolled welcomed
      refine ⟨opened, finish, welcomed, ran, source, gathers, ?_⟩
      rintro before text later error rfl goesOn line failed
      rw [asked_append goesOn, asked_of_line line] at rolled
      obtain ⟨front, own, back, rfl, size, shown, drawn, others⟩ := rolled.without_rejected failed
      rw [← asked_append goesOn] at others
      obtain ⟨without, ranWithout, sourceWithout, gathersWithout⟩ := exists_on_run prompting others welcomed
      rw [unread_append goesOn] at ranWithout
      rw [unread_append goesOn, unread_of_line line]
      exact ⟨front, own, back, without, rfl, size.trans (length_filterMap_expression? goesOn), shown, drawn,
        ranWithout, sourceWithout, gathersWithout⟩
  · next refused =>
      have unwelcomed : (Display.showBanner console settings.defaultExpression).on desk = (.error .unshowable, desk) :=
        Play.on_present_of_refused (eq_false_of_ne_true refused)
      rw [run, Play.on_bind, unwelcomed]

/-- Two dice, a rejected line between them, and a word for leaving before a line that is not read. -/
theorem run_rolls_lines_around_rejected :
    let settings : Settings := { showRolls := false }
    let desk : Desk Source := { source := .script [4, 12, 3] }
    let before := [Input.line (Text.of "  D6 ")]
    let later := [Input.line [], .line (Text.of " Quit"), .line (Text.of "d6")]
    ∃ opened finish without, (Display.showBanner .matching settings.defaultExpression).on desk = (.ok (), opened) ∧
      (run .matching Source.generator settings false (before ++ .line (Text.of "x") :: later)).on desk =
        (.ok [.line (Text.of "d6")], finish) ∧
      finish.source = .script [3] ∧
      finish.events = opened.events ++ [.print (Text.of "1d6 = [bold]4[/bold]"),
        .print (Text.of "[bold red]Could not parse[/bold red] 'x': Dice group (x) is neither dice nor bonus."),
        .print (Text.of "1d20 = [bold]12[/bold]")] ∧
      (run .matching Source.generator settings false (before ++ later)).on desk =
        (.ok [.line (Text.of "d6")], without) ∧
      without.source = .script [3] := by
  intro settings desk before later
  let shows (source : Source) (draws : Draws) (line : Text) : Desk Source := { source, draws, shown := [.print line] }
  let report (size value : Int) : Report := .ofParts [.dice (.ofValues { size } [value])]
  have first : (Session.roll .matching Source.generator settings (Text.of "D6") 1).on desk =
      (.ok [report 6 4], shows (.script [12, 3]) ⟨[⟨1, 6, 1⟩]⟩ (Text.of "1d6 = [bold]4[/bold]")) := by
    decide +kernel
  have second : (Session.roll .matching Source.generator settings (Text.of "x") 1).on { source := .script [12, 3] } =
      (.ok [], shows (.script [12, 3]) {}
        (Text.of "[bold red]Could not parse[/bold red] 'x': Dice group (x) is neither dice nor bonus.")) := by
    decide +kernel
  have third : (Session.roll .matching Source.generator settings (Text.of "1d20") 1).on { source := .script [12, 3] } =
      (.ok [report 20 12], shows (.script [3]) ⟨[⟨1, 20, 1⟩]⟩ (Text.of "1d20 = [bold]12[/bold]")) := by
    decide +kernel
  have expressions : asked settings (before ++ .line (Text.of "x") :: later) =
      [Text.of "D6", Text.of "x", Text.of "1d20"] := by
    decide +kernel
  have rolled : Session.RollsThrough .matching Source.generator settings desk.journal.threshold desk.source
      (asked settings (before ++ .line (Text.of "x") :: later)) [_, _, _] (.script [3]) :=
    expressions.symm ▸ Session.RollsThrough.cons first (.cons second (.cons third .nil))
  have failed : Bag.ofText (lineExpression settings (Text.of "x")) =
      .error (.rejected (.notDiceOrBonus (Text.of "x"))) := by
    decide +kernel
  have taken : Console.matching.takes (Display.banner settings.defaultExpression) = true := rfl
  have runs := run_rolls_lines false rolled
  rw [if_pos taken] at runs
  obtain ⟨opened, finish, welcomed, ran, source, gathers, leaving⟩ := runs
  obtain ⟨_, _, _, without, _, _, _, _, ranWithout, sourceWithout, _⟩ :=
    leaving before (Text.of "x") later _ rfl (by decide +kernel) (by decide +kernel) failed
  exact ⟨opened, finish, without, welcomed, ran, source, gathers.events.trans (List.append_nil _), ranWithout,
    sourceWithout⟩

end Shell
end DiceNotation
