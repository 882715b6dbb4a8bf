import Mathlib.Data.List.Forall2
import Mathlib.Data.List.TakeWhile
import FederatedSearch.Proofs.Exclusion
import FederatedSearch.Proofs.MatchText

/-!
What the text of a query to an index says. It asks for everything if nothing is sought by
the tree outside of its negations. Else its only reading is what is left of the tree without
them, with the texts as they stand in the tree, trimmed.
-/

namespace FederatedSearch

open FederatedSearch.Index FederatedSearch.Text

namespace Text

theorem trim_eq_nil_iff (text : List Char) : trim text = [] ↔ text.all isBlank = true := by
  unfold trim trimEnd trimStart
  rw [List.reverse_eq_nil_iff, List.dropWhile_eq_nil_iff, List.all_eq_true]
  constructor
  · intro blank
    have none : text.dropWhile isBlank = [] := by
      apply drop_while_all_blank
      rw [List.all_eq_true]
      intro c member
      exact blank c (List.mem_reverse.mpr member)
    exact List.dropWhile_eq_nil_iff.mp none
  · intro blank c member
    have sublist := (List.dropWhile_sublist isBlank (l := text)).subset
    exact blank c (sublist (List.mem_reverse.mp member))

theorem trimmed_empty_iff (text : String) : trimmed text = "" ↔ isBlankText text = true := by
  rw [isBlankText, ← trim_eq_nil_iff, ← trimmed_to_list, String.toList_eq_nil_iff]

theorem last_of_trim {text : List Char} (filled : text.all isBlank = false) :
    ∃ c ∈ (trim text).getLast?, isBlank c = false := by
  cases last : (trim text).getLast? with
  | none =>
      rw [List.getLast?_eq_none_iff, trim_eq_nil_iff, filled] at last
      cases last
  | some c =>
      have ending := List.head?_dropWhile_not isBlank (trimStart text).reverse
      rw [trim, trimEnd, List.getLast?_reverse, trimStart] at last
      rw [last] at ending
      exact ⟨c, rfl, ending⟩

end Text

namespace Query

def seeksText (leaf : Query) : Bool :=
  leaf.fullTextLeaf?.any fun sought => !isBlankText sought.text

/-- What is left of a group. A child that is left alone takes its place. -/
def regrouped (operator : LogicalOperator) : List Query → Option Query
  | [] => none
  | [child] => some child
  | children => some (.logical operator children)

mutual

/-- What is left of a tree without its negations and without the leaves that seek no text. -/
def soughtPart? : Query → Option Query
  | .logical operator children =>
      if operator.isNegation then none else regrouped operator (soughtParts children)
  | leaf => if leaf.seeksText then some leaf else none

def soughtParts : List Query → List Query
  | [] => []
  | child :: rest => (soughtPart? child).toList ++ soughtParts rest

end

/-- The tree of a match expression says the same as a tree of leaves that seek texts: each
text is sought in its column, or in all columns, and groups are groups. -/
inductive Denotes : Query → MatchTree → Prop
  | inColumn {leaf : Query} {column : Column} {text : String} :
      leaf.fullTextLeaf? = some ⟨some column, text⟩ →
      Denotes leaf (.soughtIn [column.name.toList] (.text (trim text.toList)))
  | inAnyColumn {leaf : Query} {text : String} : leaf.fullTextLeaf? = some ⟨none, text⟩ →
      Denotes leaf (.soughtIn ["title".toList, "description".toList, "content".toList]
        (.text (trim text.toList)))
  | conjunction {children : List Query} {parts : List MatchTree} :
      List.Forall₂ Denotes children parts → Denotes (.logical .and children) (.group .and parts)
  | alternatives {children : List Query} {parts : List MatchTree} :
      List.Forall₂ Denotes children parts → Denotes (.logical .or children) (.group .or parts)

/-- The expression is fit to be written, and says the same as the tree. -/
def IsWrittenAs (part : Query) (expression : Expression) : Prop :=
  expression.IsProper ∧ part.Denotes expression.matchTree

theorem match_trees_eq (parts : List Expression) :
    Expression.matchTrees parts = parts.map Expression.matchTree := by
  induction parts with
  | nil => rfl
  | cons part rest ih => rw [Expression.matchTrees, ih, List.map_cons]

theorem written_groups {parts : List Query} {expressions : List Expression}
    (written : List.Forall₂ IsWrittenAs parts expressions) :
    (∀ expression ∈ expressions, expression.IsProper) ∧
      List.Forall₂ Denotes parts (expressions.map Expression.matchTree) := by
  have flipped : List.Forall₂ (fun (expression : Expression) (part : Query) =>
      expression.IsProper ∧ part.Denotes expression.matchTree) expressions parts := written.flip
  obtain ⟨proper, denote⟩ := (List.forall₂_and_left _ _).mp flipped
  exact ⟨proper, List.forall₂_map_right_iff.mpr denote.flip⟩

theorem regrouped_written {operator : LogicalOperator} {connective : Connective}
    (same : connective? operator = some connective) {parts : List Query}
    {expressions : List Expression} (written : List.Forall₂ IsWrittenAs parts expressions) :
    Option.Rel IsWrittenAs (regrouped operator parts)
      (Expression.combine connective expressions) := by
  cases written with
  | nil => exact .none
  | cons first others =>
      cases others with
      | nil => exact .some first
      | cons second others =>
          have all := List.Forall₂.cons first (.cons second others)
          obtain ⟨proper, denote⟩ := written_groups all
          apply Option.Rel.some
          apply And.intro (.group proper)
          rw [Expression.matchTree, match_trees_eq]
          cases operator with
          | and =>
              cases same
              exact .conjunction denote
          | or =>
              cases same
              exact .alternatives denote
          | not | nor => cases same

theorem leaf_written {leaf : Query} (isLeaf : leaf.isLeaf = true) :
    Option.Rel IsWrittenAs leaf.soughtPart? leaf.expression? := by
  have part : leaf.soughtPart? = if leaf.seeksText then some leaf else none := by
    cases leaf with
    | logical operator children => cases isLeaf
    | comparison | textSearch | field | literal => rfl
  rw [part, seeksText, expression_leaf leaf isLeaf, askedTerm?]
  cases fullText : leaf.fullTextLeaf? with
  | none => exact .none
  | some sought =>
      obtain ⟨column, text⟩ := sought
      rw [Option.any_some, Option.bind_some, FullTextLeaf.term?]
      cases blank : isBlankText text with
      | true =>
          have empty := (trimmed_empty_iff text).mpr blank
          simp only [empty, Bool.not_true, Bool.false_eq_true, if_false, if_true]
          exact .none
      | false =>
          have filled : trimmed text ≠ "" := by
            rw [ne_eq, trimmed_empty_iff, blank]
            exact Bool.false_ne_true
          simp only [filled, Bool.not_false, if_false, if_true]
          apply Option.Rel.some
          constructor
          · apply Expression.IsProper.term
            rw [trimmed_to_list]
            exact last_of_trim blank
          · rw [Expression.matchTree, Term.matchTree, trimmed_to_list]
            cases column with
            | some column => exact .inColumn fullText
            | none => exact .inAnyColumn fullText

theorem sought_parts_written {children : List Query}
    (each : ∀ child ∈ children, Option.Rel IsWrittenAs child.soughtPart? child.expression?) :
    List.Forall₂ IsWrittenAs (soughtParts children) (expressions children) := by
  induction children with
  | nil => exact .nil
  | cons child rest ih =>
      have behind := ih fun other member => each other (List.mem_cons_of_mem child member)
      have here := each child List.mem_cons_self
      rw [soughtParts, expressions]
      generalize child.soughtPart? = part, child.expression? = expression at here
      cases here with
      | none => exact behind
      | some written => exact .cons written behind

/-- What is left of a tree is what the engine is asked about it. -/
theorem sought_part_written (query : Query) :
    Option.Rel IsWrittenAs query.soughtPart? query.expression? := by
  induction query using operator_induction with
  | and children ih => exact regrouped_written rfl (sought_parts_written ih)
  | or children ih => exact regrouped_written rfl (sought_parts_written ih)
  | not children ih | nor children ih => exact .none
  | leaf node isLeaf => exact leaf_written isLeaf

/-- The text is the star if nothing is left of the tree, and else a match expression which
has one tree, and that says what is left. -/
theorem engine_query_text_reads_as_sought_part (query : Query) :
    (query.soughtPart? = none ∧ query.fullTextPart.engineQuery.write = "*") ∨
      ∃ part tokens tree, query.soughtPart? = some part ∧
        queryTokens? query.fullTextPart.engineQuery.write.toList = some tokens ∧
        part.Denotes tree ∧ ∀ reading, MatchTree.IsExpression tokens reading ↔ reading = tree := by
  have written := sought_part_written query
  unfold fullTextPart
  generalize query.soughtPart? = part?, query.expression? = expression? at written
  cases written with
  | none => exact Or.inl ⟨rfl, rfl⟩
  | @some part expression written =>
      have lexed := Expression.lexed_of_proper written.1 [] [] (by simp [EndsWord])
        (by rw [queryTokens?])
      rw [List.append_nil, List.append_nil] at lexed
      refine Or.inr ⟨part, expression.tokens, expression.matchTree, rfl, ?_, written.2,
        written_reads_iff written.1⟩
      rw [EngineQuery.write, String.toList_ofList]
      exact lexed

example : (Query.fieldText "title" "a OR \"b\"").fullTextPart.engineQuery.write =
    "title:(\"a OR \"\"b\"\"\")" := by decide

end Query

end FederatedSearch
