import DiceNotation.Text.Basic

/-!
# Laws of runs

The runs of a text are read off from its left end: a character outside the class adds nothing, and a
stretch of the class that the next character ends is one run.
-/

set_option autoImplicit false

namespace DiceNotation.Text

variable {belongs : Char → Bool}

/-- The run that is open at the left end of a text, and the finished runs after it. -/
private def openRuns (belongs : Char → Bool) (text : Text) : Text × List Text :=
  text.foldr
    (fun char (current, finished) =>
      if belongs char then (char :: current, finished)
      else if current.isEmpty then ([], finished)
      else ([], current :: finished))
    (([] : Text), ([] : List Text))

private theorem runs_eq_openRuns (text : Text) :
    text.runs belongs =
      if (openRuns belongs text).1.isEmpty then (openRuns belongs text).2
      else (openRuns belongs text).1 :: (openRuns belongs text).2 :=
  rfl

private theorem openRuns_cons_of_not {char : Char} (outside : belongs char = false)
    (rest : Text) : openRuns belongs (char :: rest) = ([], rest.runs belongs) := by
  rw [runs_eq_openRuns]
  change (if belongs char then (char :: (openRuns belongs rest).1, (openRuns belongs rest).2)
    else if (openRuns belongs rest).1.isEmpty then ([], (openRuns belongs rest).2)
    else ([], (openRuns belongs rest).1 :: (openRuns belongs rest).2)) = _
  rw [if_neg (by simp [outside])]
  split <;> rfl

private theorem openRuns_append {run : Text} (inside : ∀ char ∈ run, belongs char = true)
    (rest : Text) :
    openRuns belongs (run ++ rest) =
      (run ++ (openRuns belongs rest).1, (openRuns belongs rest).2) := by
  induction run with
  | nil => rfl
  | cons char run ih =>
      have head : belongs char = true := inside char List.mem_cons_self
      have tail := ih fun other member => inside other (List.mem_cons_of_mem _ member)
      change (if belongs char then
        (char :: (openRuns belongs (run ++ rest)).1, (openRuns belongs (run ++ rest)).2)
        else _) = _
      rw [if_pos head, tail]
      rfl

/-- Nothing of the class stands at the left end of a text. -/
def StartsOutside (belongs : Char → Bool) (text : Text) : Prop :=
  ∀ char ∈ text.head?, belongs char = false

theorem startsOutside_nil : StartsOutside belongs [] := by
  intro char member
  cases member

theorem startsOutside_cons {char : Char} {rest : Text} :
    StartsOutside belongs (char :: rest) ↔ belongs char = false := by
  simp [StartsOutside]

private theorem openRuns_of_startsOutside {rest : Text} (start : StartsOutside belongs rest) :
    openRuns belongs rest = ([], rest.runs belongs) := by
  cases rest with
  | nil => rfl
  | cons char rest =>
      have outside := startsOutside_cons.mp start
      rw [openRuns_cons_of_not outside rest, runs_eq_openRuns (char :: rest),
        openRuns_cons_of_not outside rest]
      rfl

@[simp] theorem runs_nil : Text.runs belongs [] = [] := rfl

theorem runs_cons_of_not {char : Char} (outside : belongs char = false) (rest : Text) :
    Text.runs belongs (char :: rest) = rest.runs belongs := by
  rw [runs_eq_openRuns, openRuns_cons_of_not outside]
  rfl

/-- A stretch outside the class adds no run. -/
theorem runs_append_of_not {skipped : Text} (outside : ∀ char ∈ skipped, belongs char = false)
    (rest : Text) : Text.runs belongs (skipped ++ rest) = rest.runs belongs := by
  induction skipped with
  | nil => rfl
  | cons char skipped ih =>
      rw [List.cons_append, runs_cons_of_not (outside char List.mem_cons_self)]
      exact ih fun other member => outside other (List.mem_cons_of_mem _ member)

/-- A stretch of the class up to the next character outside of it is one run. -/
theorem runs_append {run rest : Text} (nonempty : run ≠ [])
    (inside : ∀ char ∈ run, belongs char = true) (ended : StartsOutside belongs rest) :
    Text.runs belongs (run ++ rest) = run :: rest.runs belongs := by
  rw [runs_eq_openRuns, openRuns_append inside, openRuns_of_startsOutside ended]
  simp [nonempty]

/-! ## The stretch at the left end -/

theorem startsOutside_dropWhile (text : Text) :
    StartsOutside belongs (text.dropWhile belongs) := by
  intro char member
  have kept := List.head?_dropWhile_not belongs text
  rw [Option.mem_def.mp member] at kept
  simpa using kept

theorem takeWhile_append {run rest : Text} (inside : ∀ char ∈ run, belongs char = true)
    (ended : StartsOutside belongs rest) : (run ++ rest).takeWhile belongs = run := by
  rw [List.takeWhile_append_of_pos inside]
  cases rest with
  | nil => simp
  | cons char rest => simp [startsOutside_cons.mp ended]

theorem dropWhile_append {run rest : Text} (inside : ∀ char ∈ run, belongs char = true)
    (ended : StartsOutside belongs rest) : (run ++ rest).dropWhile belongs = rest := by
  rw [List.dropWhile_append_of_pos inside]
  cases rest with
  | nil => rfl
  | cons char rest => simp [startsOutside_cons.mp ended]

/-- A text that starts outside the class is a stretch outside of it, a run, and a text that starts outside
again. The run is empty only when nothing is left. -/
theorem exists_skipped_run {text : Text} (nonempty : text ≠ [])
    (start : StartsOutside belongs text) :
    ∃ skipped run rest : Text, text = skipped ++ (run ++ rest) ∧ skipped ≠ [] ∧
      (∀ char ∈ skipped, belongs char = false) ∧ (∀ char ∈ run, belongs char = true) ∧
      StartsOutside belongs rest ∧ (run = [] → rest = []) := by
  induction text with
  | nil => exact absurd rfl nonempty
  | cons char text ih =>
      have outside := startsOutside_cons.mp start
      cases text with
      | nil =>
          exact ⟨[char], [], [], rfl, by simp, by simpa using outside, by simp,
            startsOutside_nil, fun _ => rfl⟩
      | cons next text =>
          by_cases inside : belongs next = true
          · refine ⟨[char], (next :: text).takeWhile belongs, (next :: text).dropWhile belongs,
              ?_, by simp, by simpa using outside, ?_, startsOutside_dropWhile _, ?_⟩
            · rw [List.takeWhile_append_dropWhile]
              rfl
            · intro other member
              exact List.all_eq_true.mp List.all_takeWhile other member
            · simp [inside]
          · obtain ⟨skipped, run, rest, same, _, skippedOutside, runInside, ended, last⟩ :=
              ih (by simp) (startsOutside_cons.mpr (by simpa using inside))
            refine ⟨char :: skipped, run, rest, by rw [same]; rfl, by simp, ?_, runInside, ended,
              last⟩
            intro other member
            rcases List.mem_cons.mp member with rfl | later
            · exact outside
            · exact skippedOutside other later

end DiceNotation.Text
