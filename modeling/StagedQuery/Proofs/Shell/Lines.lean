import StagedQuery.Proofs.Shell.Readings
import StagedQuery.Proofs.Sql.CompleteTexts

set_option relaxedAutoImplicit false
set_option autoImplicit false

/-!
# Lines and statements

The shell collects lines until the collected text holds a semicolon outside quotes. Then it runs the
whole text: the statements that end in a semicolon, and also what stands behind the last one. So a
line that ends a statement and begins another one runs the other one as it stands. Where no line
does so, the statements that run are the complete ones of the input, however it is cut into lines.

## Main definitions

* `Shell.cut` — the texts that the shell runs one by one, and what is pending behind them.
* `Shell.ranTexts` — the statements that run.
* `Shell.Closed` — lines of which none begins a statement behind another one.

## Main results

* `Shell.feedAll_eq` — a session runs the statements of its texts, in order.
* `Shell.join_cut` — the texts and the pending one are the input.
* `Shell.feedAll_statements` — what runs, and when it is what the input says.
* `Shell.feedAll_openText` — a session in which something else runs.
-/

namespace StagedQuery

namespace Shell

/-! ## Texts of lines -/

/-- The texts that the shell runs one by one, each up to the end of the line that completes it, and
what is pending behind them. -/
def cut (pending : String) : List String → List String × String
  | [] => ([], pending)
  | line :: rest =>
    let text := pending ++ line ++ "\n"
    if isComplete text then (text :: (cut "" rest).1, (cut "" rest).2) else cut text rest

/-- The statements that the shell runs. -/
def ranTexts (pending : String) (ls : List String) : List String :=
  (cut pending ls).1.flatMap statementTexts

/-- Lines of which none begins a statement behind another one: only blanks stand behind the last
semicolon of every text that runs. -/
def Closed (pending : String) (ls : List String) : Prop :=
  ∀ text ∈ (cut pending ls).1, openText text = ""

/-- **The texts and the pending one are the input**, line by line. Every text that runs is complete,
and what is pending is not. -/
lemma join_cut {pending : String} (h : isComplete pending = false) (ls : List String) :
    String.join (cut pending ls).1 ++ (cut pending ls).2 = pending ++ lines ls ∧
      (∀ text ∈ (cut pending ls).1, isComplete text = true) ∧
      isComplete (cut pending ls).2 = false := by
  induction ls generalizing pending with
  | nil => simpa [cut, lines] using h
  | cons line rest ih =>
    have hlines : pending ++ lines (line :: rest) = (pending ++ line ++ "\n") ++ lines rest := by
      simp [lines, String.append_assoc]
    rw [hlines, cut]
    split
    · next hcomplete =>
      obtain ⟨hjoin, htexts, hpending⟩ := ih (show isComplete "" = false from rfl)
      refine ⟨?_, List.forall_mem_cons.mpr ⟨hcomplete, htexts⟩, hpending⟩
      rw [String.join_cons, String.append_assoc, hjoin, String.empty_append]
    · next hcomplete => exact ih (by simpa using hcomplete)

/-- **Of closed lines the complete statements of the input run.** -/
lemma ranTexts_of_closed {pending : String} (h : isComplete pending = false) {ls : List String}
    (hclosed : Closed pending ls) : ranTexts pending ls = completeTexts (pending ++ lines ls) := by
  obtain ⟨hjoin, -, hpending⟩ := join_cut h ls
  rw [← hjoin, ranTexts]
  rw [Closed] at hclosed
  generalize (cut pending ls).1 = texts at hclosed
  induction texts with
  | nil => simp [completeTexts_of_incomplete hpending]
  | cons text texts ih =>
    obtain ⟨hopen, hrest⟩ := List.forall_mem_cons.mp hclosed
    rw [List.flatMap_cons, ih hrest, statementTexts_eq, if_pos hopen, List.append_nil,
      String.join_cons, String.append_assoc, completeTexts_append hopen]

/-! ## Sessions -/

/-- In lines that are no commands the statements of the texts are read. -/
lemma readAll_statementLines (pending : String) {ls : List String}
    (hlines : ∀ line ∈ ls, IsStatementLine line) :
    readAll pending ls = ((ranTexts pending ls).map .statement, (cut pending ls).2) := by
  induction ls generalizing pending with
  | nil => rfl
  | cons line rest ih =>
    obtain ⟨hline, hrest⟩ := List.forall_mem_cons.mp hlines
    rw [readAll, read_of_not_command fun _ => hline, ranTexts, cut]
    split
    · rw [ih "" hrest, List.flatMap_cons, List.map_append]
      rfl
    · rw [ih _ hrest, List.nil_append]
      rfl

/-- **A session runs the statements of its texts, in order.** It shows what they print, with
prompts between, and ends as they end.

**Proof sketch.** These statements are what is read in lines that are no commands, and a session
carries out what it reads. -/
theorem feedAll_eq (now printed : String) (s : Shell) {ls : List String}
    (hlines : ∀ line ∈ ls, IsStatementLine line) :
    ∃ answers shown, Prompted answers shown ∧
      String.join answers =
        (runAll now "" ⟨s.database, "", s.tracing⟩ (ranTexts s.pending ls)).output ∧
      feedAll now printed s ls =
        sessionEnd (runAll now "" ⟨s.database, "", s.tracing⟩ (ranTexts s.pending ls))
          (printed ++ shown) (cut s.pending ls).2 := by
  have hperforms := performs_readAll now printed s ls
  rwa [readAll_statementLines s.pending hlines, Performs, perform_statements] at hperforms

/-- **What a session runs.** Let nothing complete be pending, and no line be a command. Then the
session runs the statements of its texts in order, which are the complete ones and what stands open
behind them; the texts with what is pending at the end are the input. If the lines are closed, the
complete statements of the input run, in whichever closed lines the same tokens come. -/
theorem feedAll_statements (now printed : String) {s : Shell} {ls : List String}
    (hpending : isComplete s.pending = false) (hlines : ∀ line ∈ ls, IsStatementLine line) :
    (∃ answers shown, Prompted answers shown ∧
      String.join answers =
        (runAll now "" ⟨s.database, "", s.tracing⟩ (ranTexts s.pending ls)).output ∧
      feedAll now printed s ls =
        sessionEnd (runAll now "" ⟨s.database, "", s.tracing⟩ (ranTexts s.pending ls))
          (printed ++ shown) (cut s.pending ls).2) ∧
    (ranTexts s.pending ls = (cut s.pending ls).1.flatMap fun text =>
      completeTexts text ++ if openText text = "" then [] else [openText text]) ∧
    (String.join (cut s.pending ls).1 ++ (cut s.pending ls).2 = s.pending ++ lines ls ∧
      (∀ text ∈ (cut s.pending ls).1, isComplete text = true) ∧
      isComplete (cut s.pending ls).2 = false) ∧
    (Closed s.pending ls → ranTexts s.pending ls = completeTexts (s.pending ++ lines ls)) ∧
    ∀ ls', Closed s.pending ls → Closed s.pending ls' →
      SameTokens (s.pending ++ lines ls) (s.pending ++ lines ls') →
      List.Forall₂ SameTokens (ranTexts s.pending ls) (ranTexts s.pending ls') := by
  refine ⟨feedAll_eq now printed s hlines, ?_, join_cut hpending ls, ranTexts_of_closed hpending,
    fun ls' hclosed hclosed' hsame => ?_⟩
  · rw [ranTexts]
    exact congrArg (List.flatMap · _) (funext statementTexts_eq)
  · rw [ranTexts_of_closed hpending hclosed, ranTexts_of_closed hpending hclosed']
    exact hsame.completeTexts

/-- Two lines that are broken in one place or another run one statement of the same tokens. -/
theorem feedAll_statements_broken :
    ranTexts "" ["DROP TABLE IF", "EXISTS a;"] = ["DROP TABLE IF\nEXISTS a"] ∧
      List.Forall₂ SameTokens (ranTexts "" ["DROP TABLE IF", "EXISTS a;"])
        (ranTexts "" ["DROP TABLE", "IF EXISTS a;"]) := by
  have hlines : ∀ line ∈ ["DROP TABLE IF", "EXISTS a;"], IsStatementLine line := by decide +kernel
  obtain ⟨-, -, -, hclosed, hmoved⟩ :=
    feedAll_statements "" "" (s := on (.empty ⟨[], []⟩ .standard)) rfl hlines
  have h : Closed "" ["DROP TABLE IF", "EXISTS a;"] := by
    rw [Closed]
    decide +kernel
  have h' : Closed "" ["DROP TABLE", "IF EXISTS a;"] := by
    rw [Closed]
    decide +kernel
  have htokens : (tokenize ("" ++ lines ["DROP TABLE IF", "EXISTS a;"])).toOption.map
      (·.map Token.content) = (tokenize ("" ++ lines ["DROP TABLE", "IF EXISTS a;"])).toOption.map
        (·.map Token.content) := by
    decide +kernel
  have hsome : (tokenize ("" ++ lines ["DROP TABLE IF", "EXISTS a;"])).toOption.isSome = true := by
    decide +kernel
  obtain ⟨ts, hts⟩ := Option.isSome_iff_exists.mp hsome
  rw [hts, Option.map_some] at htokens
  obtain ⟨ts', hts', hsame⟩ := Option.map_eq_some_iff.mp htokens.symm
  rw [toOption_eq_some] at hts hts'
  refine ⟨(hclosed h).trans (by decide +kernel), ?_⟩
  exact hmoved _ h h' ⟨ts, ts', hts, hts', hsame.symm⟩

/-- Two lines of which the first one begins a statement behind another one. The input has two
complete statements, of which neither fails; but the beginning of the second one runs with the first
line, and its end with the other. -/
theorem feedAll_openText :
    (∀ line ∈ ["DROP TABLE IF EXISTS a; DROP TABLE", "IF EXISTS b;"], IsStatementLine line) ∧
      completeTexts (lines ["DROP TABLE IF EXISTS a; DROP TABLE", "IF EXISTS b;"]) =
        ["DROP TABLE IF EXISTS a", "DROP TABLE\nIF EXISTS b"] ∧
      ranTexts "" ["DROP TABLE IF EXISTS a; DROP TABLE", "IF EXISTS b;"] =
        ["DROP TABLE IF EXISTS a", "DROP TABLE", "IF EXISTS b"] ∧
      (runAll "" "" (on (.empty ⟨[], []⟩ .standard))
        ["DROP TABLE IF EXISTS a", "DROP TABLE\nIF EXISTS b"]).output =
          lines ["Table 'a' does not exist (skipped)", "", "Table 'b' does not exist (skipped)", ""] ∧
      (feed "" (on (.empty ⟨[], []⟩ .standard)) "DROP TABLE IF EXISTS a; DROP TABLE").output =
        lines ["Table 'a' does not exist (skipped)", "",
          "ERROR: Invalid DROP TABLE syntax: Expected table name (line 1, col 11): end of input",
          "Expected: DROP TABLE [IF EXISTS] name", ""] := by
  decide +kernel

end Shell

end StagedQuery
