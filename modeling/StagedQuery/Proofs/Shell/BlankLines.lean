import StagedQuery.Proofs.Shell.Readings
import StagedQuery.Proofs.Sql.CompleteTexts

set_option relaxedAutoImplicit false
set_option autoImplicit false

/-!
# Blank lines

A blank line is pending like every other line that is no command. It belongs to no statement, since
statements are taken without outer blanks; but a command is read only where nothing is pending at
all. So a blank line makes no difference to the statements behind it, and it hides a command that
stands on the next line: that is read as the beginning of a statement.

## Main definitions

* `IsBlankText` — texts of blanks alone.

## Main results

* `Shell.readAll_blanks` — blanks in front of the pending text do not matter to what is read, unless
  a command stands behind nothing else.
* `Shell.readAll_point` — what is read behind a pending text that begins with a point.
* `Shell.feedAll_blankLine` — when a blank line makes no difference, and what is read when it does.
* `Shell.feedAll_blankCommand` — a session in which a blank line hides a command.
-/

namespace StagedQuery

/-! ## Blank texts -/

/-- Only blanks, if anything. -/
def IsBlankText (s : String) : Prop := ∀ c ∈ s.toList, isBlank c = true

instance (s : String) : Decidable (IsBlankText s) := inferInstanceAs (Decidable (∀ c ∈ _, _ = _))

/-- Blanks one behind the other are blanks. -/
lemma IsBlankText.append {s t : String} (hs : IsBlankText s) (ht : IsBlankText t) :
    IsBlankText (s ++ t) := by
  rw [IsBlankText, String.toList_append]
  exact List.forall_mem_append.mpr ⟨hs, ht⟩

/-- The end of a line is blank. -/
lemma isBlankText_newline : IsBlankText "\n" := by decide

/-- Blanks are sealed. -/
lemma IsBlankText.sealed {s : String} (h : IsBlankText s) : Sealed none s.toList := by
  rw [IsBlankText] at h
  generalize s.toList = cs at h ⊢
  induction cs with
  | nil => rfl
  | cons c cs ih =>
    obtain ⟨hc, hcs⟩ := List.forall_mem_cons.mp h
    exact (sealed_blank hc).append (ih hcs)

/-- Blanks in front of a text do not complete a statement. -/
lemma isComplete_blanks {blanks : String} (h : IsBlankText blanks) (text : String) :
    isComplete (blanks ++ text) = isComplete text := by
  rw [isComplete, String.toList_append, h.sealed.complete, isComplete]

/-- Blanks in front of a script belong to none of its statements. -/
lemma statementTexts_blanks {blanks : String} (h : IsBlankText blanks) (text : String) :
    statementTexts (blanks ++ text) = statementTexts text := by
  obtain ⟨piece, pieces, hpieces, -⟩ := exists_piecesFrom none text.toList
  have hmore : piecesFrom none (blanks ++ text).toList = (blanks.toList ++ piece) :: pieces := by
    rw [String.toList_append, h.sealed.pieces hpieces]
  rw [statementTexts, hmore, statementTexts, hpieces]
  exact strippedTexts_cons_append h piece pieces

/-- A text without its outer blanks begins where its first blanks end. -/
lemma head?_stripBlanks (cs : List Char) :
    (stripBlanks cs).head? = (cs.dropWhile isBlank).head? := by
  obtain ⟨rest, hrest⟩ : stripBlanks cs <+: cs.dropWhile isBlank :=
    List.rdropWhile_prefix isBlank _
  cases hstripped : stripBlanks cs with
  | nil => rw [List.dropWhile_eq_nil_iff.mpr (stripBlanks_eq_nil_iff.mp hstripped)]
  | cons c ds =>
    rw [← hrest, hstripped]
    rfl

namespace Shell

/-! ## Lines -/

/-- A blank line is no command. -/
lemma IsStatementLine.of_blank {line : String} (h : IsBlankText line) : IsStatementLine line := by
  rw [IsStatementLine, stripBlanks_eq_nil_iff.mpr h]
  simp

/-- A text that begins with a point does so behind blanks and in front of other text. -/
lemma not_isStatementLine_append {line : String} (h : ¬IsStatementLine line) {blanks : String}
    (hblanks : IsBlankText blanks) (more : String) :
    ¬IsStatementLine (blanks ++ (line ++ more)) := by
  rw [IsStatementLine, not_not, head?_stripBlanks] at h ⊢
  obtain ⟨rest, hrest⟩ := List.head?_eq_some_iff.mp h
  rw [String.toList_append, String.toList_append, List.dropWhile_append_of_pos hblanks,
    List.dropWhile_append, hrest]
  rfl

/-- **The first statement of a script that begins with a point** begins with it. -/
lemma statementTexts_point {text : String} (h : ¬IsStatementLine text) :
    ∃ sql more, statementTexts text = sql :: more ∧ sql.toList.head? = some '.' := by
  rw [IsStatementLine, not_not, head?_stripBlanks] at h
  obtain ⟨rest, hrest⟩ := List.head?_eq_some_iff.mp h
  obtain ⟨piece, pieces, hpieces, -⟩ := exists_piecesFrom none rest
  have hblanks : IsBlankText (String.ofList (text.toList.takeWhile isBlank)) := by
    rw [IsBlankText, String.toList_ofList]
    exact fun c hc => mem_takeWhile hc
  have hpoint : Sealed none ['.'] := ⟨by decide, rfl⟩
  have hsplit : text.toList = text.toList.takeWhile isBlank ++ ('.' :: rest) := by
    rw [← hrest, List.takeWhile_append_dropWhile]
  have hsealed := hblanks.sealed
  rw [IsBlankText] at hblanks
  rw [String.toList_ofList] at hblanks hsealed
  generalize text.toList.takeWhile isBlank = gap at hsplit hblanks hsealed
  have hfirst := hsealed.pieces (hpoint.pieces hpieces)
  have hhead : (stripBlanks (gap ++ ('.' :: piece))).head? = some '.' := by
    rw [head?_stripBlanks, List.dropWhile_append_of_pos hblanks]
    rfl
  obtain ⟨ds, hds⟩ := List.head?_eq_some_iff.mp hhead
  refine ⟨String.ofList (stripBlanks (gap ++ ('.' :: piece))), strippedTexts pieces, ?_, ?_⟩
  · rw [statementTexts, hsplit]
    simp only [List.singleton_append] at hfirst
    rw [hfirst, List.map_cons, hds]
    rfl
  · rw [String.toList_ofList, hhead]

/-! ## What is read behind blanks -/

section Readings

variable {blanks blanks' text line : String}

/-- Blanks in front of the pending text are left pending with it, and make no difference to a line
that is not a command. -/
lemma read_blanks (hblanks : IsBlankText blanks)
    (hline : blanks ++ text = "" → IsStatementLine line) :
    read (blanks ++ text) line =
      if isComplete (text ++ line ++ "\n") then
        ((statementTexts (text ++ line ++ "\n")).map .statement, "")
      else ([], blanks ++ (text ++ line ++ "\n")) := by
  have hassoc : blanks ++ text ++ line ++ "\n" = blanks ++ (text ++ line ++ "\n") := by
    simp only [String.append_assoc]
  rw [read_of_not_command hline, hassoc, isComplete_blanks hblanks, statementTexts_blanks hblanks]

/-- In a blank line behind blanks nothing is read. -/
lemma read_blankLine (hblanks : IsBlankText blanks) (hline : IsBlankText line) :
    read blanks line = ([], blanks ++ (line ++ "\n")) := by
  have hnone : isComplete (line ++ "\n") = false := by
    rw [isComplete_blanks hline]
    rfl
  have hassoc : blanks = blanks ++ "" := String.append_empty.symm
  rw [hassoc, read_blanks hblanks fun _ => .of_blank hline, String.empty_append, hnone,
    if_neg Bool.false_ne_true, ← hassoc]

/-- **Blanks in front of the pending text do not matter** to what is read, unless nothing is pending
and a command comes.

**Proof sketch.** Induction on the lines. If a line completes the text, the same statements are read
and nothing is pending; if not, the line is pending behind the same blanks. -/
lemma readAll_blanks (hblanks : IsBlankText blanks) (hblanks' : IsBlankText blanks')
    {ls : List String} (hfirst : blanks ++ text = "" → ∀ line ∈ ls.head?, IsStatementLine line)
    (hfirst' : blanks' ++ text = "" → ∀ line ∈ ls.head?, IsStatementLine line) :
    (readAll (blanks ++ text) ls).1 = (readAll (blanks' ++ text) ls).1 := by
  induction ls generalizing text with
  | nil => rfl
  | cons line rest ih =>
    rw [readAll, read_blanks hblanks fun h => hfirst h line rfl, readAll,
      read_blanks hblanks' fun h => hfirst' h line rfl]
    split
    · rfl
    · have hpending : ∀ s : String, s ++ (text ++ line ++ "\n") ≠ "" := by simp
      exact ih (fun h => absurd h (hpending _)) fun h => absurd h (hpending _)

/-- **Behind a pending text that begins with a point** no command is read first, but the statement
that begins with it, if anything is read.

**Proof sketch.** Induction on the lines. What is pending goes on to begin with the point until a
line completes it. -/
lemma readAll_point (htext : text ≠ "") (hpoint : ¬IsStatementLine text) (ls : List String) :
    (readAll text ls).1 = [] ∨
      ∃ sql more, (readAll text ls).1 = .statement sql :: more ∧ sql.toList.head? = some '.' := by
  induction ls generalizing text with
  | nil => exact .inl rfl
  | cons line rest ih =>
    have hmore : ¬IsStatementLine (text ++ line ++ "\n") := by
      have hnone : IsBlankText "" := by decide
      have h := not_isStatementLine_append hpoint hnone (line ++ "\n")
      rwa [String.empty_append, ← String.append_assoc] at h
    rw [readAll, read_of_not_command fun h => absurd h htext]
    split
    · obtain ⟨sql, others, hsql, hhead⟩ := statementTexts_point hmore
      exact .inr ⟨sql, _, by rw [hsql]; rfl, hhead⟩
    · exact ih (by simp) hmore

/-- **A command behind a blank line is not read.** The statement that begins with its line is, if
anything. -/
lemma readAll_blankCommand (hblanks : IsBlankText blanks) (hne : blanks ≠ "")
    (hline : ¬IsStatementLine line) (rest : List String) :
    (readAll blanks (line :: rest)).1 = [] ∨
      ∃ sql more, (readAll blanks (line :: rest)).1 = .statement sql :: more ∧
        sql.toList.head? = some '.' := by
  have hpoint := not_isStatementLine_append hline hblanks "\n"
  rw [← String.append_assoc] at hpoint
  rw [readAll, read_of_not_command fun h => absurd h hne]
  split
  · obtain ⟨sql, others, hsql, hhead⟩ := statementTexts_point hpoint
    exact .inr ⟨sql, _, by rw [hsql]; rfl, hhead⟩
  · exact readAll_point (by simp) hpoint rest

/-! ## A blank line among others -/

section BlankLine

variable {pending blank : String} {before after : List String}

/-- What is read with a blank line where at most blanks are pending. -/
lemma readAll_blankLine (hpending : IsBlankText (readAll pending before).2)
    (hblank : IsBlankText blank) :
    (readAll pending (before ++ blank :: after)).1 = (readAll pending before).1 ++
      (readAll ((readAll pending before).2 ++ (blank ++ "\n")) after).1 := by
  rw [readAll_append, readAll, read_blankLine hpending hblank, List.nil_append]

/-- A command is read where nothing is pending. -/
lemma readAll_command (hempty : (readAll pending before).2 = "") (hline : ¬IsStatementLine line)
    (rest : List String) :
    (readAll pending (before ++ line :: rest)).1 =
      (readAll pending before).1 ++ .command (words line) :: (readAll "" rest).1 := by
  rw [readAll_append, hempty, readAll, read_command hline]
  rfl

/-- **A blank line makes no difference** to what is read, unless nothing was pending before it and a
command stands behind it. -/
lemma readAll_blankLine_eq_iff (hpending : IsBlankText (readAll pending before).2)
    (hblank : IsBlankText blank) :
    (readAll pending (before ++ blank :: after)).1 = (readAll pending (before ++ after)).1 ↔
      ((readAll pending before).2 = "" → ∀ line ∈ after.head?, IsStatementLine line) := by
  have hblanks := hpending.append (hblank.append isBlankText_newline)
  have hne : (readAll pending before).2 ++ (blank ++ "\n") ≠ "" := by simp
  rw [readAll_blankLine hpending hblank]
  constructor
  · intro heq hempty line hline
    by_contra hpoint
    obtain ⟨rest, rfl⟩ := List.head?_eq_some_iff.mp hline
    rw [readAll_command hempty hpoint, List.append_cancel_left_eq] at heq
    rcases readAll_blankCommand hblanks hne hpoint rest with hnone | ⟨sql, more, hmore, -⟩
    · cases hnone.symm.trans heq
    · cases hmore.symm.trans heq
  · intro hfirst
    have heq : (readAll ((readAll pending before).2 ++ (blank ++ "\n") ++ "") after).1 =
        (readAll ((readAll pending before).2 ++ "") after).1 :=
      readAll_blanks hblanks hpending (fun h => absurd h (by simp))
        (by rwa [String.append_empty])
    rw [String.append_empty, String.append_empty] at heq
    rw [heq, readAll_append]

end BlankLine

end Readings

/-! ## Sessions with a blank line -/

/-- Sessions that carry out the same things end with the same database and tracing, and in the same
way. -/
lemma Performs.same_end {now printed printed' : String} {s : Shell} {ls ls' : List String}
    {rs : List Reading} {pending pending' : String} (h : Performs now printed s ls rs pending)
    (h' : Performs now printed' s ls' rs pending') :
    (feedAll now printed s ls).shell.database = (feedAll now printed' s ls').shell.database ∧
      (feedAll now printed s ls).shell.tracing = (feedAll now printed' s ls').shell.tracing ∧
      (feedAll now printed s ls).course = (feedAll now printed' s ls').course := by
  obtain ⟨-, shown, -, -, hend⟩ := h
  obtain ⟨-, shown', -, -, hend'⟩ := h'
  rw [hend, hend', sessionEnd, sessionEnd]
  split <;> exact ⟨rfl, rfl, rfl⟩

/-- **Blank lines.** Let a blank line stand where at most blanks are pending. Every session carries
out what is read in its lines. With the blank line the same is read as without it exactly if
something was pending before it or no command stands on the next line; then both sessions end alike.
If there is such a command, it is not read: what is read instead, if anything, begins with the
statement that begins with its line. -/
theorem feedAll_blankLine (now printed : String) (s : Shell) {before : List String}
    {blank : String} (hpending : IsBlankText (readAll s.pending before).2)
    (hblank : IsBlankText blank) (after : List String) :
    (∀ ls, Performs now printed s ls (readAll s.pending ls).1 (readAll s.pending ls).2) ∧
    ((readAll s.pending (before ++ blank :: after)).1 = (readAll s.pending (before ++ after)).1 ↔
      ((readAll s.pending before).2 = "" → ∀ line ∈ after.head?, IsStatementLine line)) ∧
    (((readAll s.pending before).2 = "" → ∀ line ∈ after.head?, IsStatementLine line) →
      let withBlank := feedAll now printed s (before ++ blank :: after)
      let without := feedAll now printed s (before ++ after)
      withBlank.shell.database = without.shell.database ∧
        withBlank.shell.tracing = without.shell.tracing ∧ withBlank.course = without.course) ∧
    ∀ line rest, after = line :: rest → (readAll s.pending before).2 = "" →
      ¬IsStatementLine line →
        (readAll s.pending (before ++ after)).1 =
          (readAll s.pending before).1 ++ .command (words line) :: (readAll "" rest).1 ∧
        ∃ instead, (readAll s.pending (before ++ blank :: after)).1 =
            (readAll s.pending before).1 ++ instead ∧
          (instead = [] ∨
            ∃ sql more, instead = .statement sql :: more ∧ sql.toList.head? = some '.') := by
  have hreads := fun ls => performs_readAll now printed s ls
  have hsame : (readAll s.pending (before ++ blank :: after)).1 =
      (readAll s.pending (before ++ after)).1 ↔
        ((readAll s.pending before).2 = "" → ∀ line ∈ after.head?, IsStatementLine line) :=
    readAll_blankLine_eq_iff hpending hblank
  have hblanks := hpending.append (hblank.append isBlankText_newline)
  refine ⟨hreads, hsame, fun hfirst => ?_, ?_⟩
  · have hmore := hreads (before ++ blank :: after)
    rw [hsame.mpr hfirst] at hmore
    exact hmore.same_end (hreads (before ++ after))
  · rintro line rest rfl hempty hline
    exact ⟨readAll_command hempty hline rest, _, readAll_blankLine hpending hblank,
      readAll_blankCommand hblanks (by simp) hline rest⟩

/-- A blank line behind a statement makes no difference to a statement on two lines, and it hides a
command. -/
theorem feedAll_blankLine_hidden :
    (IsBlankText (readAll "" ["DROP TABLE a;"]).2 ∧ IsBlankText " \t") ∧
      (readAll "" ["DROP TABLE a;", " \t", "DROP TABLE", "b;"]).1 =
        [.statement "DROP TABLE a", .statement "DROP TABLE\nb"] ∧
      (readAll "" ["DROP TABLE a;", ".tables", ";"]).1 =
        [.statement "DROP TABLE a", .command [".tables"]] ∧
      (readAll "" ["DROP TABLE a;", " \t", ".tables", ";"]).1 ≠
        (readAll "" ["DROP TABLE a;", ".tables", ";"]).1 := by
  have hpending : IsBlankText (readAll "" ["DROP TABLE a;"]).2 := by decide +kernel
  have hblank : IsBlankText " \t" := by decide
  have hempty : (readAll "" ["DROP TABLE a;"]).2 = "" := by decide +kernel
  have hblankLine := feedAll_blankLine "" "" (on (.empty ⟨[], []⟩ .standard)) hpending hblank
  refine ⟨⟨hpending, hblank⟩, ?_, by decide +kernel, fun heq => ?_⟩
  · refine ((hblankLine ["DROP TABLE", "b;"]).2.1.mpr fun _ => ?_).trans (by decide +kernel)
    decide +kernel
  · have hline := (hblankLine [".tables", ";"]).2.1.mp heq hempty ".tables" rfl
    exact absurd hline (by decide +kernel)

/-- A session on an empty line and a command, on a new shell. The command is not read, but is
pending at the end. -/
theorem feedAll_blankCommand :
    (readAll "" []).2 = "" ∧ IsBlankText "" ∧
      (readAll "" [".tables"]).1 = [.command [".tables"]] ∧ (readAll "" ["", ".tables"]).1 = [] ∧
      (feedAll "" "" (on (.empty ⟨[], []⟩ .standard)) [".tables"]).output =
        "stagedb> (no tables)\nstagedb> \n" ∧
      (feedAll "" "" (on (.empty ⟨[], []⟩ .standard)) ["", ".tables"]).output =
        "stagedb> ....> ....> \n" := by
  decide +kernel

end Shell

end StagedQuery
