import FederatedSearch.Index.ExpressionText

/-!
The grammar of match expressions over the tokens of a text. A word of the language itself is
no text, a scope belongs to the text or the parentheses behind it, AND binds closer than OR,
and a chain of operands with one connective is one group. Parentheses leave no trace in the
tree. No other tokens than those of an expression are taken up by it, and it is read in one
way only.
-/

namespace FederatedSearch.Index

inductive MatchTree where
  | text (letters : List Char)
  | soughtIn (columns : List (List Char)) (sought : MatchTree)
  | group (connective : Connective) (parts : List MatchTree)

namespace MatchTree

def grouped (connective : Connective) : List MatchTree → MatchTree
  | [part] => part
  | parts => .group connective parts

inductive IsChain (connective : Connective) (isPart : List QueryToken → MatchTree → Prop) :
    List QueryToken → List MatchTree → Prop
  | last {tokens : List QueryToken} {part : MatchTree} :
      isPart tokens part → IsChain connective isPart tokens [part]
  | more {tokens rest : List QueryToken} {part : MatchTree} {parts : List MatchTree} :
      isPart tokens part → IsChain connective isPart rest parts →
      IsChain connective isPart (tokens ++ .word connective.word :: rest) (part :: parts)

inductive IsScope : List QueryToken → List (List Char) → Prop
  | name {name : List Char} : name ∉ reservedWords → IsScope [.word name] [name]
  | names {names : List (List Char)} : names ≠ [] → (∀ name ∈ names, name ∉ reservedWords) →
      IsScope (.openBrace :: names.map .word ++ [.closeBrace]) names

mutual

inductive IsPrimary : List QueryToken → MatchTree → Prop
  | word {letters : List Char} : letters ∉ reservedWords →
      IsPrimary [.word letters] (.text letters)
  | phrase {letters : List Char} : IsPrimary [.phrase letters] (.text letters)
  | parentheses {tokens : List QueryToken} {tree : MatchTree} :
      IsExpression tokens tree → IsPrimary (.openParen :: tokens ++ [.closeParen]) tree

inductive IsOperand : List QueryToken → MatchTree → Prop
  | unrestricted {tokens : List QueryToken} {tree : MatchTree} :
      IsPrimary tokens tree → IsOperand tokens tree
  | restricted {scope tokens : List QueryToken} {columns : List (List Char)} {tree : MatchTree} :
      IsScope scope columns → IsPrimary tokens tree →
      IsOperand (scope ++ .colon :: tokens) (.soughtIn columns tree)

inductive IsConjunction : List QueryToken → MatchTree → Prop
  | chain {tokens : List QueryToken} {parts : List MatchTree} :
      IsChain .and IsOperand tokens parts → IsConjunction tokens (grouped .and parts)

inductive IsExpression : List QueryToken → MatchTree → Prop
  | chain {tokens : List QueryToken} {parts : List MatchTree} :
      IsChain .or IsConjunction tokens parts → IsExpression tokens (grouped .or parts)

end

/-- The rest does not begin with one of the tokens. -/
def NotBefore (barred rest : List QueryToken) : Prop := ∀ token ∈ rest.head?, token ∉ barred

/-- Where something begins that is shorter than the limit, nothing else of its kind begins,
as long as none of the barred tokens stands behind either of them. -/
def Delimited {Tree : Type} (isKind : List QueryToken → Tree → Prop)
    (barred : List QueryToken) (limit : Nat) : Prop :=
  ∀ ⦃first rest second others : List QueryToken⦄ ⦃tree other : Tree⦄, first.length < limit →
    isKind first tree → isKind second other → NotBefore barred rest → NotBefore barred others →
    first ++ rest = second ++ others → first = second ∧ tree = other

section

variable {barred : List QueryToken} {limit : Nat}

theorem not_before_nil : NotBefore barred [] := by
  intro token ahead
  cases ahead

theorem not_before_cons {token : QueryToken} {rest : List QueryToken} :
    NotBefore barred (token :: rest) ↔ token ∉ barred := by
  simp [NotBefore]

theorem not_before_tail {token : QueryToken} {rest : List QueryToken}
    (clear : NotBefore (token :: barred) rest) : NotBefore barred rest := by
  intro next ahead among
  exact clear next ahead (List.mem_cons_of_mem token among)

theorem chain_delimited {connective : Connective}
    {isPart : List QueryToken → MatchTree → Prop} (parts : Delimited isPart barred limit)
    (free : .word connective.word ∉ barred) :
    Delimited (IsChain connective isPart) (.word connective.word :: barred) limit := by
  intro first rest second others trees others' short chain
  have joined (following : List QueryToken) :
      NotBefore barred (.word connective.word :: following) := not_before_cons.mpr free
  induction chain generalizing second others' with
  | last part =>
      intro otherChain clear otherClear same
      cases otherChain with
      | last other =>
          have alike := parts short part other (not_before_tail clear)
            (not_before_tail otherClear) same
          exact ⟨alike.1, congrArg (fun tree => [tree]) alike.2⟩
      | more other otherRest =>
          rw [List.append_assoc] at same
          have alike := parts short part other (not_before_tail clear) (joined _) same
          rw [alike.1] at same
          rw [List.append_cancel_left same] at clear
          exact absurd (List.mem_cons_self) (not_before_cons.mp clear)
  | more part chain ih =>
      intro otherChain clear otherClear same
      rw [List.append_assoc] at same
      simp only [List.length_append, List.length_cons] at short
      cases otherChain with
      | last other =>
          have alike := parts (by omega) part other (joined _) (not_before_tail otherClear) same
          rw [alike.1] at same
          rw [← List.append_cancel_left same] at otherClear
          exact absurd (List.mem_cons_self) (not_before_cons.mp otherClear)
      | more other otherRest =>
          rw [List.append_assoc] at same
          have alike := parts (by omega) part other (joined _) (joined _) same
          rw [alike.1] at same
          have behind := List.append_cancel_left same
          have alikeRest := ih (by omega) otherRest clear otherClear (List.cons.inj behind).2
          exact ⟨by rw [alike.1, alikeRest.1], by rw [alike.2, alikeRest.2]⟩

theorem conjunction_delimited (operands : Delimited IsOperand [.colon] limit) :
    Delimited IsConjunction [.word Connective.and.word, .colon] limit := by
  intro first rest second others tree other short conjunction otherConjunction clear otherClear same
  obtain ⟨chain⟩ := conjunction
  obtain ⟨otherChain⟩ := otherConjunction
  have alike := chain_delimited operands (by decide) short chain otherChain clear otherClear same
  exact ⟨alike.1, congrArg (grouped .and) alike.2⟩

theorem expression_delimited_of_operands (operands : Delimited IsOperand [.colon] limit) :
    Delimited IsExpression
      [.word Connective.or.word, .word Connective.and.word, .colon] limit := by
  intro first rest second others tree other short expression otherExpression clear otherClear same
  obtain ⟨chain⟩ := expression
  obtain ⟨otherChain⟩ := otherExpression
  have alike := chain_delimited (conjunction_delimited operands) (by decide) short chain
    otherChain clear otherClear same
  exact ⟨alike.1, congrArg (grouped .or) alike.2⟩

/-- A closing parenthesis ends an expression, so parentheses are read like the expression
inside them. -/
theorem primary_delimited (expressions : Delimited IsExpression
      [.word Connective.or.word, .word Connective.and.word, .colon] limit) :
    Delimited IsPrimary [] (limit + 1) := by
  intro first rest second others tree other short primary otherPrimary _ _ same
  cases primary with
  | word free =>
      cases otherPrimary <;> simp_all
  | phrase =>
      cases otherPrimary <;> simp_all
  | @parentheses tokens tree expression =>
      cases otherPrimary with
      | word free => simp at same
      | phrase => simp at same
      | @parentheses otherTokens other otherExpression =>
          simp only [List.cons_append, List.append_assoc, List.cons.injEq, true_and,
            List.nil_append] at same
          simp only [List.length_append, List.length_cons, List.length_nil] at short
          have alike := expressions (by omega) expression otherExpression
            (not_before_cons.mpr (by decide)) (not_before_cons.mpr (by decide)) same
          exact ⟨by rw [alike.1], alike.2⟩

theorem names_delimited {names others : List (List Char)} {rest after : List QueryToken}
    (same : names.map QueryToken.word ++ .closeBrace :: rest =
      others.map QueryToken.word ++ .closeBrace :: after) : names = others ∧ rest = after := by
  induction names generalizing others with
  | nil =>
      cases others with
      | nil => simpa using same
      | cons other others => simp at same
  | cons name names ih =>
      cases others with
      | nil => simp at same
      | cons other others =>
          simp only [List.map_cons, List.cons_append, List.cons.injEq,
            QueryToken.word.injEq] at same
          obtain ⟨sameNames, sameRest⟩ := ih same.2
          exact ⟨by rw [same.1, sameNames], sameRest⟩

theorem scope_delimited {scope other rest after : List QueryToken}
    {columns others : List (List Char)} (isScope : IsScope scope columns)
    (isOther : IsScope other others) (same : scope ++ rest = other ++ after) :
    scope = other ∧ columns = others ∧ rest = after := by
  cases isScope with
  | name free =>
      cases isOther with
      | name otherFree => simp_all
      | names filled otherFree => simp at same
  | names filled free =>
      cases isOther with
      | name otherFree => simp at same
      | names otherFilled otherFree =>
          simp only [List.cons_append, List.append_assoc, List.cons.injEq, true_and,
            List.nil_append] at same
          obtain ⟨rfl, sameRest⟩ := names_delimited same
          exact ⟨rfl, rfl, sameRest⟩

theorem primary_is_no_scope {tokens scope rest after : List QueryToken} {tree : MatchTree}
    {columns : List (List Char)} (primary : IsPrimary tokens tree)
    (isScope : IsScope scope columns) (clear : NotBefore [.colon] rest) :
    tokens ++ rest ≠ scope ++ .colon :: after := by
  intro same
  cases isScope with
  | name free =>
      cases primary with
      | word letters =>
          rw [List.singleton_append, List.singleton_append, List.cons.injEq] at same
          rw [same.2] at clear
          exact not_before_cons.mp clear (List.mem_singleton_self _)
      | phrase => simp at same
      | parentheses expression => simp at same
  | names filled free => cases primary <;> simp at same

theorem operand_delimited (primaries : Delimited IsPrimary [] limit) :
    Delimited IsOperand [.colon] limit := by
  intro first rest second others tree other short operand otherOperand clear otherClear same
  have all (following : List QueryToken) : NotBefore [] following := by simp [NotBefore]
  cases operand with
  | unrestricted primary =>
      cases otherOperand with
      | unrestricted otherPrimary => exact primaries short primary otherPrimary (all _) (all _) same
      | restricted isScope otherPrimary =>
          rw [List.append_assoc] at same
          exact absurd same (primary_is_no_scope primary isScope clear)
  | restricted isScope primary =>
      rw [List.append_assoc] at same
      cases otherOperand with
      | unrestricted otherPrimary =>
          exact absurd same.symm (primary_is_no_scope otherPrimary isScope otherClear)
      | restricted otherScope otherPrimary =>
          rw [List.append_assoc] at same
          simp only [List.length_append, List.length_cons] at short
          obtain ⟨rfl, rfl, behind⟩ := scope_delimited isScope otherScope same
          have alike := primaries (by omega) primary otherPrimary (all _) (all _)
            (List.cons.inj behind).2
          exact ⟨by rw [alike.1], by rw [alike.2]⟩

end

/-- Each level of the grammar is delimited if the one below it is, and an expression in
parentheses is shorter than what it stands in. -/
theorem expression_delimited (limit : Nat) : Delimited IsExpression
    [.word Connective.or.word, .word Connective.and.word, .colon] limit := by
  induction limit with
  | zero =>
      intro first rest second others tree other short
      exact absurd short (Nat.not_lt_zero _)
  | succ limit ih =>
      exact expression_delimited_of_operands (operand_delimited (primary_delimited ih))

theorem expression_unique {tokens : List QueryToken} {tree other : MatchTree}
    (expression : IsExpression tokens tree) (otherExpression : IsExpression tokens other) :
    tree = other :=
  (expression_delimited _ (Nat.lt_succ_self _) expression otherExpression not_before_nil
    not_before_nil rfl).2

end MatchTree

end FederatedSearch.Index
