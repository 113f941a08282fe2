import Mathlib.Data.List.Basic
import StagedQuery.Shell

set_option relaxedAutoImplicit false
set_option autoImplicit false

/-!
# What a session reads and does

Which commands and statements the shell reads in its lines depends on the lines and on the pending
text alone, and not on the database. What the session does is to carry them out, one after the
other, until one of them ends it.

## Main definitions

* `Shell.IsStatementLine` — the lines that are no commands.
* `Shell.Reading` — a command or a statement.
* `Shell.read`, `Shell.readAll` — what is read in a line and in lines, and what is pending behind
  them.
* `Shell.perform` — what is read is carried out.
* `Shell.Prompted`, `Shell.sessionEnd` — what a session shows.
* `Shell.Performs` — a session carries out what it reads.

## Main results

* `Shell.feed_eq` — a line carries out what is read in it.
* `Shell.performs_readAll` — **a session carries out what is read in its lines.**
-/

namespace StagedQuery

namespace Shell

/-! ## Runs of statements -/

/-- Running statements leaves nothing pending that was not pending before. -/
lemma runAll_pending (now printed : String) (s : Shell) (texts : List String) :
    (runAll now printed s texts).shell.pending = s.pending := by
  induction texts generalizing printed s with
  | nil => rfl
  | cons sql texts ih =>
    rw [runAll]
    split
    · exact ih _ _
    · exact ih _ _
    · rfl

/-! ## What is read -/

/-- A line that does not begin with a point, blanks apart. -/
def IsStatementLine (line : String) : Prop := (stripBlanks line.toList).head? ≠ some '.'

instance (line : String) : Decidable (IsStatementLine line) := inferInstanceAs (Decidable (_ ≠ _))

/-- A command by its words, or a statement. -/
inductive Reading where
  | command (parts : List String)
  | statement (sql : String)
deriving DecidableEq

/-- What the shell reads in a line behind a pending text, and what is pending behind the line. -/
def read (pending line : String) : List Reading × String :=
  if pending = "" ∧ ¬IsStatementLine line then ([.command (words line)], "")
  else
    let text := pending ++ line ++ "\n"
    if isComplete text then ((statementTexts text).map .statement, "") else ([], text)

/-- What the shell reads in lines behind a pending text, and what is pending behind the lines. -/
def readAll (pending : String) : List String → List Reading × String
  | [] => ([], pending)
  | line :: rest =>
    let first := read pending line
    ((first.1 ++ (readAll first.2 rest).1), (readAll first.2 rest).2)

/-- Lines that stand behind others are read behind what these leave pending. -/
lemma readAll_append (pending : String) (ls more : List String) :
    readAll pending (ls ++ more) =
      ((readAll pending ls).1 ++ (readAll (readAll pending ls).2 more).1,
        (readAll (readAll pending ls).2 more).2) := by
  induction ls generalizing pending with
  | nil => rfl
  | cons line rest ih => simp only [List.cons_append, readAll, ih, List.append_assoc]

/-- A line behind a pending text is no command. -/
lemma read_of_not_command {pending line : String} (h : pending = "" → IsStatementLine line) :
    read pending line =
      if isComplete (pending ++ line ++ "\n") then
        ((statementTexts (pending ++ line ++ "\n")).map .statement, "")
      else ([], pending ++ line ++ "\n") := by
  rw [read, if_neg fun hcommand => hcommand.2 (h hcommand.1)]

/-- A command is read in a line that begins with a point, where nothing is pending. -/
lemma read_command {line : String} (h : ¬IsStatementLine line) :
    read "" line = ([.command (words line)], "") := if_pos ⟨rfl, h⟩

/-! ## What is done -/

/-- What the shell prints for a command or a statement, and how it goes on. -/
def Reading.turn (now : String) (s : Shell) : Reading → Turn
  | command parts => s.command parts
  | statement sql => runAll now "" s [sql]

/-- Carries out commands and statements in turn, after `printed` was printed. -/
def perform (now printed : String) (s : Shell) : List Reading → Turn
  | [] => ⟨printed, s, .more⟩
  | r :: rest =>
    let turn := r.turn now s
    match turn.course with
    | .more => perform now (printed ++ turn.output) turn.shell rest
    | course => ⟨printed ++ turn.output, turn.shell, course⟩

section Perform

variable (now printed : String) (s : Shell)

/-- A command leaves pending what was pending before. -/
lemma command_pending (parts : List String) : (s.command parts).shell.pending = s.pending := by
  unfold command
  dsimp only
  split
  · rfl
  split
  · rfl
  split
  · rfl
  split
  · split <;> rfl
  split <;> rfl

/-- What is carried out leaves pending what was pending before. -/
lemma perform_pending (rs : List Reading) :
    (perform now printed s rs).shell.pending = s.pending := by
  induction rs generalizing printed s with
  | nil => rfl
  | cons r rs ih =>
    have hturn : (r.turn now s).shell.pending = s.pending := by
      cases r with
      | command parts => exact command_pending s parts
      | statement sql => exact runAll_pending now "" s [sql]
    rw [perform]
    split
    · rw [ih, hturn]
    · exact hturn

/-- What was printed before stays in front. -/
lemma perform_printed (rs : List Reading) :
    perform now printed s rs =
      ⟨printed ++ (perform now "" s rs).output, (perform now "" s rs).shell,
        (perform now "" s rs).course⟩ := by
  induction rs generalizing printed s with
  | nil => simp [perform]
  | cons r rs ih =>
    rw [perform, perform]
    split
    · rw [ih, ih ("" ++ _)]
      simp [String.append_assoc]
    · simp

/-- **One thing after the other:** what is read later is carried out if the session goes on until
then. -/
lemma perform_append (rs more : List Reading) :
    perform now printed s (rs ++ more) =
      match (perform now printed s rs).course with
      | .more => perform now (perform now printed s rs).output (perform now printed s rs).shell more
      | _ => perform now printed s rs := by
  induction rs generalizing printed s with
  | nil => rfl
  | cons r rs ih =>
    rw [List.cons_append, perform, perform]
    cases hcourse : (r.turn now s).course with
    | more => exact ih _ _
    | leave => rfl
    | crashed fault => rfl

/-- Statements are carried out by running them in turn. -/
lemma perform_statements (texts : List String) :
    perform now printed s (texts.map .statement) = runAll now printed s texts := by
  induction texts generalizing printed s with
  | nil => rfl
  | cons sql texts ih =>
    rw [List.map_cons, perform, Reading.turn, runAll, runAll]
    cases s.database.run now sql with
    | mk result after =>
      cases result with
      | ok r => simp only [runAll, ih, String.empty_append]
      | error abort =>
        cases abort with
        | overrun limit => simp only [runAll, ih, String.empty_append]
        | crashed fault => simp only [String.append_empty]

end Perform

/-! ## Sessions -/

/-- Texts with a prompt in front of each. -/
inductive Prompted : List String → String → Prop
  | nil : Prompted [] ""
  | cons {answers : List String} {shown : String} (s : Shell) (answer : String)
    (h : Prompted answers shown) : Prompted (answer :: answers) (s.prompt ++ answer ++ shown)

/-- The end of a session whose statements ran as `ran`, after it showed something and left a text
pending. -/
def sessionEnd (ran : Turn) (shown pending : String) : Turn :=
  match ran.course with
  | .more =>
    let s : Shell := ⟨ran.shell.database, pending, ran.shell.tracing⟩
    ⟨shown ++ s.prompt ++ farewell, s, .leave⟩
  | course => ⟨shown, ran.shell, course⟩

/-- A session on lines carries out commands and statements: it shows what they print, with a prompt
in front of the answer to each line, and ends as they end, or else with a text pending. -/
def Performs (now printed : String) (s : Shell) (ls : List String) (rs : List Reading)
    (pending : String) : Prop :=
  ∃ answers shown, Prompted answers shown ∧
    String.join answers = (perform now "" ⟨s.database, "", s.tracing⟩ rs).output ∧
    feedAll now printed s ls =
      sessionEnd (perform now "" ⟨s.database, "", s.tracing⟩ rs) (printed ++ shown) pending

/-- Behind a line in which something is read, nothing is pending. -/
lemma read_pending {pending line : String} (h : (read pending line).1 ≠ []) :
    (read pending line).2 = "" := by
  revert h
  rw [read]
  dsimp only
  split_ifs
  · exact fun _ => rfl
  · exact fun _ => rfl
  · exact fun h => absurd rfl h

/-- **A line carries out what is read in it.** -/
lemma feed_eq (now : String) (s : Shell) (line : String) :
    feed now s line =
      let ran := perform now "" ⟨s.database, "", s.tracing⟩ (read s.pending line).1
      ⟨ran.output, ⟨ran.shell.database, (read s.pending line).2, ran.shell.tracing⟩,
        ran.course⟩ := by
  obtain ⟨database, pending, tracing⟩ := s
  by_cases hcommand : pending = "" ∧ ¬IsStatementLine line
  · obtain ⟨rfl, hline⟩ := hcommand
    have his : isCommand ⟨database, "", tracing⟩ line = true := by
      rw [isCommand, not_not.mp hline]
      rfl
    have hpending := command_pending ⟨database, "", tracing⟩ (words line)
    rw [feed, his, if_pos rfl, read_command hline]
    simp only [perform, Reading.turn]
    generalize command ⟨database, "", tracing⟩ (words line) = turn at hpending
    obtain ⟨output, ⟨database', pending', tracing'⟩, course⟩ := turn
    obtain rfl : pending' = "" := hpending
    cases course <;> simp
  · have his : isCommand ⟨database, pending, tracing⟩ line = false := by
      rw [isCommand, Bool.and_eq_false_iff, String.isEmpty_eq_false_iff, beq_eq_false_iff_ne]
      by_contra hnot
      rw [not_or, not_not] at hnot
      exact hcommand hnot
    rw [feed, his, if_neg Bool.false_ne_true, read, if_neg hcommand, pendingWith]
    dsimp only
    split
    · have hpending := runAll_pending now "" ⟨database, "", tracing⟩
        (statementTexts (pending ++ line ++ "\n"))
      rw [perform_statements]
      generalize runAll now "" ⟨database, "", tracing⟩
        (statementTexts (pending ++ line ++ "\n")) = turn at hpending
      obtain ⟨output, ⟨database', pending', tracing'⟩, course⟩ := turn
      obtain rfl : pending' = "" := hpending
      rfl
    · rfl

/-- **A session carries out what is read in its lines,** in order.

**Proof sketch.** Induction on the lines. Each line carries out what is read in it. If the session
goes on, the rest is carried out behind that; if it ends, something was read in the line, so that
nothing is pending. -/
theorem performs_readAll (now printed : String) (s : Shell) (ls : List String) :
    Performs now printed s ls (readAll s.pending ls).1 (readAll s.pending ls).2 := by
  induction ls generalizing printed s with
  | nil => exact ⟨[], "", .nil, rfl, by simp [feedAll, readAll, perform, sessionEnd]⟩
  | cons line rest ih =>
    have hfeed := feed_eq now s line
    have hpending := perform_pending now "" ⟨s.database, "", s.tracing⟩ (read s.pending line).1
    have hread : (read s.pending line).1 ≠ [] → (read s.pending line).2 = "" := read_pending
    have hmore : (read s.pending line).1 = [] →
        (perform now "" ⟨s.database, "", s.tracing⟩ (read s.pending line).1).course = .more := by
      intro hnil
      rw [hnil]
      rfl
    dsimp only at hfeed
    rw [Performs, feedAll, hfeed, readAll, perform_append]
    generalize perform now "" ⟨s.database, "", s.tracing⟩ (read s.pending line).1 = ran at *
    obtain ⟨output, ⟨database, pending, tracing⟩, course⟩ := ran
    obtain rfl : pending = "" := hpending
    cases course with
    | more =>
      obtain ⟨answers, shown, hshown, hjoin, hsession⟩ :=
        ih (printed ++ (s.prompt ++ output)) ⟨database, (read s.pending line).2, tracing⟩
      refine ⟨output :: answers, _, .cons s output hshown, ?_, ?_⟩
      · rw [perform_printed, String.join_cons, hjoin]
      · rw [perform_printed]
        simp only [String.append_assoc] at hsession ⊢
        rw [hsession]
        simp [sessionEnd]
    | leave | crashed =>
      have hnone : (read s.pending line).2 = "" := hread fun hnil => by cases hmore hnil
      refine ⟨[output], _, .cons s output .nil, by simp, ?_⟩
      simp [sessionEnd, hnone, String.append_assoc]

end Shell

end StagedQuery
