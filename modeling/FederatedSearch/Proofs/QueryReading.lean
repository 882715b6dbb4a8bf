import FederatedSearch.Index.SearchIndex
import FederatedSearch.Proofs.QueryText

/-!
How an index reads the text of a query that a tree asks of it. It is asked for just that
query, since its reader takes up the tokens of an expression from any place at which an
expression may stand. Behind a null character nothing is read, so that there must be none.
-/

namespace FederatedSearch

open FederatedSearch.Index FederatedSearch.Text

namespace Index

def AwaitingToken.after? (awaiting : AwaitingToken) (tokens : List QueryToken) :
    Option AwaitingToken := tokens.foldlM AwaitingToken.next? awaiting

theorem after_append (awaiting : AwaitingToken) (first second : List QueryToken) :
    awaiting.after? (first ++ second) = (awaiting.after? first).bind (·.after? second) :=
  List.foldlM_append

theorem after_cons (awaiting : AwaitingToken) (token : QueryToken) (rest : List QueryToken) :
    awaiting.after? (token :: rest) = (awaiting.next? token).bind (·.after? rest) :=
  List.foldlM_cons

theorem after_nil (awaiting : AwaitingToken) : awaiting.after? [] = some awaiting := rfl

theorem scope_taken (column : Option Column) (inside : List OpenGroup)
    (rest : List QueryToken) :
    (AwaitingToken.operand inside).after? (scopeTokens column ++ .colon :: rest) =
      (AwaitingToken.sought column inside).after? rest := by
  cases column with
  | none => rfl
  | some column =>
      simp only [scopeTokens, List.singleton_append, after_cons, AwaitingToken.next?,
        String.ofList_toList, Column.named_of_name, Option.map_some, Option.bind_some]

theorem term_taken (term : Term) (inside : List OpenGroup) :
    (AwaitingToken.operand inside).after? term.tokens =
      some (.connective (.term term) inside) := by
  rw [Term.tokens, scope_taken]
  cases quoted : needsPhrase term.text.toList with
  | true => simp [after_cons, after_nil, AwaitingToken.next?]
  | false =>
      have free := word_not_reserved quoted
      simp [after_cons, after_nil, AwaitingToken.next?, free]

theorem connective_taken {known : Option Connective} {connective : Connective}
    (same : known = none ∨ known = some connective) (part : Expression)
    (earlier : List Expression) (inside : List OpenGroup) :
    (AwaitingToken.connective part (⟨known, earlier⟩ :: inside)).next?
        (.word connective.word) =
      some (.operand (⟨some connective, part :: earlier⟩ :: inside)) := by
  cases connective <;> simp [AwaitingToken.next?, OpenGroup.continue?, same, Connective.word]

/-- The reader takes up the expression wherever one may stand. -/
def IsTaken (expression : Expression) : Prop := ∀ inside,
  (AwaitingToken.operand inside).after? expression.tokens = some (.connective expression inside)

theorem parts_taken (connective : Connective) {parts : List Expression} (nonempty : parts ≠ [])
    (each : ∀ part ∈ parts, IsTaken part) (earlier : List Expression)
    (inside : List OpenGroup) :
    (AwaitingToken.operand (⟨some connective, earlier⟩ :: inside)).after?
        (Expression.tokensOfAll connective parts ++ [.closeParen]) =
      some (.connective (.group connective (earlier.reverse ++ parts)) inside) := by
  induction parts, nonempty using Expression.parts_induction generalizing earlier with
  | last part =>
      have here := each part List.mem_cons_self (⟨some connective, earlier⟩ :: inside)
      rw [Expression.tokensOfAll, after_append, here]
      simp [after_cons, after_nil, AwaitingToken.next?, OpenGroup.close]
  | more part second others ih =>
      have here := each part List.mem_cons_self (⟨some connective, earlier⟩ :: inside)
      have behind := ih (fun other member => each other (List.mem_cons_of_mem part member))
        (part :: earlier)
      rw [Expression.tokensOfAll, List.append_assoc, after_append, here, Option.bind_some,
        List.cons_append, after_cons, connective_taken (Or.inr rfl), Option.bind_some, behind,
        List.reverse_cons, List.append_assoc, List.singleton_append]
      simp

theorem taken_of_proper {expression : Expression} (proper : expression.IsProper) :
    IsTaken expression := by
  induction proper with
  | @term sought ending => exact term_taken sought
  | @group connective first second rest proper ih =>
      intro inside
      have one := ih first List.mem_cons_self (⟨none, []⟩ :: inside)
      have others : ∀ part ∈ second :: rest, IsTaken part := fun part member =>
        ih part (List.mem_cons_of_mem first member)
      have behind := parts_taken connective (List.cons_ne_nil _ _) others [first] inside
      have opened : (AwaitingToken.operand inside).next? .openParen =
          some (.operand (⟨none, []⟩ :: inside)) := rfl
      rw [Expression.tokens, List.cons_append, after_cons, opened, Option.bind_some,
        Expression.tokensOfAll, List.append_assoc, after_append, one, Option.bind_some,
        List.cons_append, after_cons, connective_taken (Or.inl rfl), Option.bind_some, behind]
      · rfl
      · simp

theorem expression_read {expression : Expression} (proper : expression.IsProper) :
    Expression.read? expression.write = some expression := by
  have lexed := Expression.lexed_of_proper proper [] [] (by simp [EndsWord]) (by rw [queryTokens?])
  rw [List.append_nil, List.append_nil] at lexed
  have taken := taken_of_proper proper []
  unfold AwaitingToken.after? at taken
  simp [Expression.read?, lexed, taken]

/-- The letter or mark with which expressions may begin. -/
def Opens (c : Char) : Prop := isBlank c = false ∧ isQuerySpace c = false ∧ c ≠ '*'

instance (c : Char) : Decidable (Opens c) := inferInstanceAs (Decidable (_ ∧ _ ∧ _))

theorem write_opening (expression : Expression) :
    ∃ c, expression.write.head? = some c ∧ Opens c := by
  cases expression with
  | group connective parts => exact ⟨'(', rfl, by decide⟩
  | term sought =>
      obtain ⟨column, text⟩ := sought
      cases column with
      | none => exact ⟨'\x7b', rfl, by decide⟩
      | some column =>
          cases column with
          | title => exact ⟨'t', rfl, by decide⟩
          | description => exact ⟨'d', rfl, by decide⟩
          | content => exact ⟨'c', rfl, by decide⟩

theorem write_ending {expression : Expression} (proper : expression.IsProper) :
    ∃ c ∈ expression.write.getLast?, isBlank c = false := by
  cases proper with
  | group parts => exact ⟨')', List.getLast?_concat, by decide⟩
  | @term sought ending =>
      obtain ⟨c, isLast, filled⟩ := ending
      have last : sought.text.toList.getLast? = some c := isLast
      rw [Expression.write, writeTerm, List.getLast?_append]
      by_cases quoted : needsPhrase sought.text.toList = true
      · refine ⟨')', ?_, by decide⟩
        rw [if_pos quoted, List.getLast?_cons, List.getLast?_concat]
        rfl
      · refine ⟨c, ?_, filled⟩
        rw [if_neg quoted, List.getLast?_cons, last]
        rfl

theorem trim_of_filled {text : List Char} (starts : ∃ c ∈ text.head?, isBlank c = false)
    (ends : ∃ c ∈ text.getLast?, isBlank c = false) : trim text = text := by
  have untouched {text : List Char} (filled : ∃ c ∈ text.head?, isBlank c = false) :
      trimStart text = text := by
    obtain ⟨c, isFirst, notBlank⟩ := filled
    cases text with
    | nil => cases isFirst
    | cons first rest =>
        cases isFirst
        rw [trimStart, List.dropWhile_cons_of_neg]
        simp [notBlank]
  rw [trim, untouched starts, trimEnd, untouched, List.reverse_reverse]
  rw [List.head?_reverse]
  exact ends

theorem everything_asked :
    SearchIndex.asked? EngineQuery.everything.write = some .everything := by
  have star : trim EngineQuery.everything.write.toList = ['*'] := by decide
  rw [SearchIndex.asked?, star]
  rfl

theorem expression_asked {expression : Expression} (proper : expression.IsProper)
    (clear : '\x00' ∉ expression.write) :
    SearchIndex.asked? (EngineQuery.matching expression).write = some (.matching expression) := by
  obtain ⟨c, starts, filled, noSpace, noStar⟩ := write_opening expression
  have trimmed := trim_of_filled ⟨c, starts, filled⟩ (write_ending proper)
  have whole : SearchIndex.readText expression.write = expression.write := by
    rw [SearchIndex.readText, List.takeWhile_eq_self_iff]
    intro letter member
    rw [decide_eq_true_eq]
    rintro rfl
    exact clear member
  have notEmpty : expression.write ≠ [] := by
    intro empty
    rw [empty] at starts
    cases starts
  have notStar : expression.write ≠ ['*'] := by
    intro star
    rw [star] at starts
    exact noStar (Option.some.inj starts).symm
  have notBlank : expression.write.all isQuerySpace = false := by
    rw [List.all_eq_false]
    exact ⟨c, List.mem_of_head? starts, by simp [noSpace]⟩
  rw [SearchIndex.asked?, EngineQuery.write, String.toList_ofList]
  simp [trimmed, whole, notEmpty, notStar, notBlank, expression_read proper]

end Index

/-- What a tree asks of an index is what the index is asked by the text of it. -/
theorem Query.engine_query_is_asked (query : Query)
    (clear : '\x00' ∉ query.fullTextPart.engineQuery.write.toList) :
    SearchIndex.asked? query.fullTextPart.engineQuery.write =
      some query.fullTextPart.engineQuery := by
  have written := sought_part_written query
  unfold fullTextPart at clear ⊢
  generalize query.soughtPart? = part?, query.expression? = expression? at written clear
  cases written with
  | none => exact everything_asked
  | some written =>
      apply expression_asked written.1
      simpa [EngineQuery.write] using clear

end FederatedSearch
