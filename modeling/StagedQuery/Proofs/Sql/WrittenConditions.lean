import StagedQuery.Proofs.Sql.Conditions
import StagedQuery.Proofs.Sql.Written

set_option relaxedAutoImplicit false
set_option autoImplicit false

/-!
# Written conditions

The written form of a condition is read back as the same tree. Every branch stands in parentheses,
and a branch in parentheses is a single condition for the grammar, whatever stands around it. So the
shape of the tree is free: the parentheses say what the associativity of chains would not.

## Main definitions

* `Test.IsWritable`, `Predicate.IsWritable` — the tests and conditions whose written form can stand
  for them.

## Main results

* `written_test`, `written_predicate` — a test and a condition are written as their texts.
* `readPredicate_text` — a condition is read from its text.
-/

namespace StagedQuery

/-! ## What can be written -/

/-- A test whose operands can be written: the operands are writable, a choice has items, and a test
for `null` keeps no operand, since it shows none. -/
def Test.IsWritable : Test → Prop
  | .isNull operand | .isNotNull operand => operand = .null
  | .between low high => low.IsWritable ∧ high.IsWritable
  | .oneOf choices => choices ≠ [] ∧ ∀ v ∈ choices, v.IsWritable
  | .like pattern => pattern.IsWritable
  | .compare _ operand => operand.IsWritable

/-- A condition whose columns can be names and whose tests can be written. -/
def Predicate.IsWritable : Predicate → Prop
  | .leaf column test => IsName column ∧ test.IsWritable
  | .and left right | .or left right => left.IsWritable ∧ right.IsWritable

/-! ## Tests -/

/-- No comparison sign has a separator in it. -/
lemma not_mem_separators_of_relation (r : Relation) : ∀ c ∈ r.text.toList, c ∉ separators := by
  cases r <;> decide

/-- **A comparison sign** is one token: a separator behind it makes no longer sign of it. -/
lemma written_relation (r : Relation) : Written (Spelling [.relation r]) r.text.toList () := by
  obtain ⟨c, word, htext⟩ : ∃ c word, r.text.toList = c :: word := by cases r <;> exact ⟨_, _, rfl⟩
  rw [htext]
  refine written_token (by simp) (fun rest hrest => ?_) fun t ht _ =>
    spelled_single.mpr ⟨t, rfl, ht⟩
  refine .relation htext fun s d hd hlonger => ?_
  exact not_mem_separators_of_relation s d (by simp [hlonger]) (hrest d hd)

/-- **A test is written** as its operator with its operands. -/
lemma written_test {test : Test} (h : test.IsWritable) :
    Written TestPhrase test.text.toList test := by
  cases test with
  | isNull operand =>
    obtain rfl : operand = .null := h
    refine ((written_keyword .IS).spaced written_null).imp ?_
    rintro _ ⟨is, null, rfl, his, hnull⟩
    exact .isNull (spelled_append his hnull)
  | isNotNull operand =>
    obtain rfl : operand = .null := h
    refine ((written_keyword .IS).spaced ((written_keyword .NOT).spaced written_null)).imp ?_
    rintro _ ⟨is, _, rfl, his, nt, null, rfl, hnt, hnull⟩
    exact .isNotNull (spelled_append his (spelled_append hnt hnull))
  | between low high =>
    have htext : (Test.between low high).text.toList = "BETWEEN".toList ++
        ' ' :: (low.literal.toList ++ ' ' :: ("AND".toList ++ ' ' :: high.literal.toList)) := by
      simp [Test.text]
    rw [htext]
    refine ((written_keyword .BETWEEN).spaced ((written_literal h.1).spaced
      ((written_keyword .AND).spaced (written_literal h.2)))).imp ?_
    rintro _ ⟨b, _, rfl, hb, low, _, rfl, hlow, a, high, rfl, ha, hhigh⟩
    exact .between hb hlow ha hhigh
  | oneOf choices =>
    have hchoices := written_commaList Value.literal h.1 fun v hv => written_literal (h.2 v hv)
    have htext : (Test.oneOf choices).text.toList = "IN".toList ++
        ' ' :: ('(' :: ((Value.commaJoin (choices.map Value.literal)).toList ++ [')'])) := by
      simp [Test.text]
    rw [htext]
    refine ((written_keyword .IN).spaced hchoices.parenthesized).imp ?_
    rintro _ ⟨i, _, rfl, hi, o, _, rfl, ho, items, c, rfl, hitems, hc⟩
    exact .oneOf hi ho hitems hc
  | like pattern =>
    have htext : (Test.like pattern).text.toList =
        "LIKE".toList ++ ' ' :: pattern.literal.toList := by
      simp [Test.text]
    rw [htext]
    refine ((written_keyword .LIKE).spaced (written_literal h)).imp ?_
    rintro _ ⟨l, pattern, rfl, hl, hpattern⟩
    exact .like hl hpattern
  | compare r operand =>
    have htext : (Test.compare r operand).text.toList =
        r.text.toList ++ ' ' :: operand.literal.toList := by
      simp [Test.text]
    rw [htext]
    refine ((written_relation r).spaced (written_literal h)).imp ?_
    rintro _ ⟨sign, operand, rfl, hsign, hoperand⟩
    exact .compare hsign hoperand

/-! ## Conditions -/

/-- Two conditions with a keyword between them, in parentheses. -/
lemma written_branch {k : Keyword} {join : Predicate → Predicate → Predicate}
    {left right : Predicate} {cs ds : List Char} (hleft : Written (Condition .test) cs left)
    (hright : Written (Condition .test) ds right)
    (hjoin : ∀ ts o us, Condition .test ts left → Spelled [.keyword k] o →
      Condition .test us right → Condition .orExpr (ts ++ (o ++ us)) (join left right)) :
    Written (Condition .test) ('(' :: ((cs ++ ' ' :: (k.text.toList ++ ' ' :: ds)) ++ [')']))
      (join left right) := by
  refine (hleft.spaced ((written_keyword k).spaced hright)).parenthesized.imp ?_
  rintro _ ⟨o, _, rfl, ho, _, c, rfl, ⟨ts, _, rfl, hts, a, us, rfl, ha, hus⟩, hc⟩
  exact .group ho (hjoin ts a us hts ha hus) hc

/-- **A condition of any shape is written** as one single condition.

**Proof sketch.** Induction on the tree. A branch stands in parentheses, in which its two sides are
single conditions again: a conjunction of two, or two alternatives of one condition each. -/
lemma written_predicate {p : Predicate} (h : p.IsWritable) :
    Written (Condition .test) p.text.toList p := by
  induction p with
  | leaf column test =>
    have htext : (Predicate.leaf column test).text.toList =
        column.toList ++ ' ' :: test.text.toList := by
      simp [Predicate.text]
    rw [htext]
    refine ((written_name h.1).spaced (written_test h.2)).imp ?_
    rintro _ ⟨n, ts, rfl, hn, hts⟩
    exact .leaf hn hts
  | and left right ihleft ihright =>
    have htext : (Predicate.and left right).text.toList = '(' :: ((left.text.toList ++
        ' ' :: ("AND".toList ++ ' ' :: right.text.toList)) ++ [')']) := by
      simp [Predicate.text]
    rw [htext]
    exact written_branch (k := .AND) (ihleft h.1) (ihright h.2) fun ts a us hts ha hus =>
      .orSingle (.and hts ha (.andSingle hus))
  | or left right ihleft ihright =>
    have htext : (Predicate.or left right).text.toList = '(' :: ((left.text.toList ++
        ' ' :: ("OR".toList ++ ' ' :: right.text.toList)) ++ [')']) := by
      simp [Predicate.text]
    rw [htext]
    exact written_branch (k := .OR) (ihleft h.1) (ihright h.2) fun ts o us hts ho hus =>
      .or (.andSingle hts) ho (.orSingle (.andSingle hus))

/-- A condition is read from a text whose tokens derive it. -/
lemma readPredicate_of_lexed {text : String} {p : Predicate} {ws : List (TokenKind × String)}
    (hlexed : Lexed text.toList ws)
    (h : ∀ ts : List Token, ts.map Token.content = ws → Condition .orExpr ts p) :
    readPredicate text = .ok p := by
  obtain ⟨body, last, htokens, hbody, hlast⟩ := exists_tokenize_of_lexed hlexed
  have hcondition := h body hbody
  have hrun : (Parser.wholeCondition text.toList).run' (body ++ [last]) = .ok p :=
    Parser.run'_eq_ok.mpr ((wholeCondition_iff hcondition.proper hlast).mpr hcondition)
  simp only [readPredicate, htokens, bind, Except.bind, hrun]

/-- **A condition is read back from its text**, whatever its shape: its columns can be keywords, and
its literals `null`, integers of either sign that are not too long, and text of any characters. -/
theorem readPredicate_text {p : Predicate} (h : p.IsWritable) : readPredicate p.text = .ok p := by
  obtain ⟨ws, -, hlexed, hphrase⟩ := (written_predicate h).exists_lexed
  exact readPredicate_of_lexed hlexed fun ts hts => .orSingle (.andSingle (hphrase ts hts))

/-- A condition that leans to the left, on a column whose name is a keyword. -/
theorem readPredicate_text_leaning : ∃ p : Predicate,
    p.text = "((select BETWEEN -5 AND 'it''s' AND a IN (NULL, 7)) AND b IS NOT NULL)" ∧
      readPredicate p.text = .ok p := by
  have hselect : IsName "select" :=
    ⟨⟨_, _, rfl, by decide +kernel, by decide +kernel⟩, by decide +kernel⟩
  have ha : IsName "a" := ⟨⟨_, _, rfl, by decide +kernel, by decide +kernel⟩, by decide +kernel⟩
  have hb : IsName "b" := ⟨⟨_, _, rfl, by decide +kernel, by decide +kernel⟩, by decide +kernel⟩
  have hfive : (Value.int (-5)).IsWritable := by decide +kernel
  have hseven : (Value.int 7).IsWritable := by decide +kernel
  refine ⟨.and (.and (.leaf "select" (.between (.int (-5)) (.text "it's")))
    (.leaf "a" (.oneOf [.null, .int 7]))) (.leaf "b" (.isNotNull .null)), by decide +kernel, ?_⟩
  refine readPredicate_text ⟨⟨⟨hselect, hfive, trivial⟩, ha, by simp, ?_⟩, hb, rfl⟩
  intro v hv
  rcases List.mem_pair.mp hv with rfl | rfl
  · trivial
  · exact hseven

end StagedQuery
