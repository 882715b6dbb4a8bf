import FederatedSearch.Proofs.MatchGrammar
import FederatedSearch.Proofs.EngineAnswers

/-!
The text of a query to an index. It is made of the tokens of its expression, whatever
characters the texts in it hold: a text that is no single word is one phrase, and a single
word ends before the mark or space behind it. As a match expression the text has one tree,
and that is the tree of the expression.
-/

namespace FederatedSearch

open FederatedSearch.Index FederatedSearch.Text

namespace Index

def scopeTokens : Option Column → List QueryToken
  | some column => [.word column.name.toList]
  | none => .openBrace :: (Column.all.map (·.name.toList)).map .word ++ [.closeBrace]

def Term.tokens (term : Term) : List QueryToken :=
  let text := term.text.toList
  scopeTokens term.column ++ .colon ::
    if needsPhrase text then [.openParen, .phrase text, .closeParen] else [.word text]

def Term.matchTree (term : Term) : MatchTree :=
  .soughtIn (term.columns.map (·.name.toList)) (.text term.text.toList)

namespace Expression

mutual

def tokens : Expression → List QueryToken
  | .term sought => sought.tokens
  | .group connective parts => .openParen :: tokensOfAll connective parts ++ [.closeParen]

def tokensOfAll (connective : Connective) : List Expression → List QueryToken
  | [] => []
  | [part] => tokens part
  | part :: rest => tokens part ++ .word connective.word :: tokensOfAll connective rest

end

mutual

def matchTree : Expression → MatchTree
  | .term sought => sought.matchTree
  | .group connective parts => .group connective (matchTrees parts)

def matchTrees : List Expression → List MatchTree
  | [] => []
  | part :: rest => matchTree part :: matchTrees rest

end

/-- Induction on the parts of a group, of which there is a last one. -/
theorem parts_induction {motive : (parts : List Expression) → parts ≠ [] → Prop}
    (last : ∀ part, motive [part] (List.cons_ne_nil part []))
    (more : ∀ part second others, motive (second :: others) (List.cons_ne_nil second others) →
      motive (part :: second :: others) (List.cons_ne_nil part (second :: others)))
    (parts : List Expression) (nonempty : parts ≠ []) : motive parts nonempty := by
  induction parts with
  | nil => exact absurd rfl nonempty
  | cons part others ih =>
      cases others with
      | nil => exact last part
      | cons second others => exact more part second others (ih (List.cons_ne_nil _ _))

/-- Its texts end in characters that are not blank, and its groups have several parts. -/
inductive IsProper : Expression → Prop
  | term {sought : Term} : (∃ c ∈ sought.text.toList.getLast?, isBlank c = false) →
      IsProper (.term sought)
  | group {connective : Connective} {first second : Expression} {rest : List Expression} :
      (∀ part ∈ first :: second :: rest, IsProper part) →
      IsProper (.group connective (first :: second :: rest))

end Expression

def EndsWord (rest : List Char) : Prop := ∀ c ∈ rest.head?, isWordChar c = false

section

variable {rest : List Char} {following : List QueryToken}

theorem ends_word_cons {c : Char} : EndsWord (c :: rest) ↔ isWordChar c = false := by
  simp [EndsWord]

theorem mark_lexed {c : Char} {mark : QueryToken} (punctuation : punctuation? c = some mark)
    (lexed : queryTokens? rest = some following) :
    queryTokens? (c :: rest) = some (mark :: following) := by
  have marks : c = '(' ∨ c = ')' ∨ c = '\x7b' ∨ c = '\x7d' ∨ c = ':' := by
    unfold punctuation? at punctuation
    split at punctuation <;> simp_all
  rw [queryTokens?]
  rcases marks with rfl | rfl | rfl | rfl | rfl <;>
    simp [isQuerySpace, isWordChar, punctuation, lexed]

theorem space_lexed (lexed : queryTokens? rest = some following) :
    queryTokens? (' ' :: rest) = some following := by
  rw [queryTokens?, if_pos (by decide), lexed]

theorem word_lexed {letters : List Char} (nonempty : letters ≠ [])
    (wordChars : letters.all isWordChar = true) (ends : EndsWord rest)
    (lexed : queryTokens? rest = some following) :
    queryTokens? (letters ++ rest) = some (.word letters :: following) := by
  cases letters with
  | nil => exact absurd rfl nonempty
  | cons c letters =>
      rw [List.all_cons, Bool.and_eq_true, List.all_eq_true] at wordChars
      have noSpace : isQuerySpace c = false := by
        apply Bool.eq_false_iff.mpr
        intro space
        simp only [isQuerySpace, Bool.or_eq_true, beq_iff_eq] at space
        rcases space with ((rfl | rfl) | rfl) | rfl <;> cases wordChars.1
      have noneTaken : rest.takeWhile isWordChar = [] ∧ rest.dropWhile isWordChar = rest := by
        cases rest with
        | nil => exact ⟨rfl, rfl⟩
        | cons next rest =>
            have stops := ends_word_cons.mp ends
            simp [stops]
      rw [List.cons_append, queryTokens?, noSpace, if_neg (by simp), if_pos wordChars.1,
        List.takeWhile_append_of_pos wordChars.2, List.dropWhile_append_of_pos wordChars.2,
        noneTaken.1, noneTaken.2, lexed, List.append_nil]
      rfl

theorem phrase_read (text : List Char) (ends : rest.head? ≠ some '"') :
    readPhrase? (doubleQuotes text ++ '"' :: rest) = some (text, rest) := by
  induction text with
  | nil =>
      rw [doubleQuotes, List.nil_append, readPhrase?]
      intro after same
      rw [same] at ends
      exact ends rfl
  | cons c text ih =>
      by_cases quote : c = '"'
      · subst quote
        rw [doubleQuotes, if_pos rfl, List.cons_append, List.cons_append, readPhrase?, ih]
        rfl
      · rw [doubleQuotes, if_neg quote, List.cons_append, readPhrase?, ih]
        · rfl
        all_goals simp_all

theorem phrase_lexed (text : List Char) (ends : rest.head? ≠ some '"')
    (lexed : queryTokens? rest = some following) :
    queryTokens? (phrase text ++ rest) = some (.phrase text :: following) := by
  have read := phrase_read text ends
  rw [phrase, List.cons_append, List.cons_append, List.append_assoc, List.singleton_append,
    queryTokens?, if_neg (by decide), if_neg (by decide), if_pos rfl]
  split
  · next letters after readHere =>
      rw [read] at readHere
      cases readHere
      rw [lexed]
      rfl
  · next readHere =>
      rw [read] at readHere
      cases readHere

theorem column_name_lexed (column : Column) (ends : EndsWord rest)
    (lexed : queryTokens? rest = some following) :
    queryTokens? (column.name.toList ++ rest) = some (.word column.name.toList :: following) := by
  have wordChars : column.name.toList ≠ [] ∧ column.name.toList.all isWordChar = true := by
    cases column <;> decide
  exact word_lexed wordChars.1 wordChars.2 ends lexed

theorem scope_lexed (column : Option Column) (ends : EndsWord rest)
    (lexed : queryTokens? rest = some following) :
    queryTokens? (writeScope column ++ rest) = some (scopeTokens column ++ following) := by
  cases column with
  | some column => exact column_name_lexed column ends lexed
  | none =>
      have close := mark_lexed (c := '\x7d') rfl lexed
      have content := column_name_lexed .content (ends_word_cons.mpr (by decide)) close
      have description := column_name_lexed .description (ends_word_cons.mpr (by decide))
        (space_lexed content)
      have title := column_name_lexed .title (ends_word_cons.mpr (by decide))
        (space_lexed description)
      exact mark_lexed (c := '\x7b') rfl title

theorem term_lexed {term : Term} (filled : term.text.toList ≠ []) (ends : EndsWord rest)
    (lexed : queryTokens? rest = some following) :
    queryTokens? (writeTerm term ++ rest) = some (term.tokens ++ following) := by
  have colonEnds (sought : List Char) : EndsWord (':' :: sought) := ends_word_cons.mpr (by decide)
  simp only [writeTerm, Term.tokens, List.append_assoc, List.cons_append]
  apply scope_lexed _ (colonEnds _)
  apply mark_lexed rfl
  by_cases quoted : needsPhrase term.text.toList = true
  · rw [if_pos quoted, if_pos quoted]
    have close := mark_lexed (c := ')') rfl lexed
    have inside := phrase_lexed term.text.toList (by simp) close
    have opened := mark_lexed (c := '(') rfl inside
    simpa using opened
  · rw [if_neg quoted, if_neg quoted]
    have wordChars : term.text.toList.all isWordChar = true := by
      rw [needsPhrase, Bool.or_eq_true, not_or, Bool.not_eq_true, List.any_eq_false] at quoted
      rw [List.all_eq_true]
      intro c member
      simpa using quoted.1 c member
    exact word_lexed filled wordChars ends lexed

namespace Expression

/-- The text is read as the tokens of the expression, whatever may follow. -/
def IsLexed (expression : Expression) : Prop := ∀ rest following, EndsWord rest →
  queryTokens? rest = some following →
  queryTokens? (expression.write ++ rest) = some (expression.tokens ++ following)

theorem parts_lexed (connective : Connective) {parts : List Expression} (nonempty : parts ≠ [])
    (each : ∀ part ∈ parts, part.IsLexed) (ends : EndsWord rest)
    (lexed : queryTokens? rest = some following) :
    queryTokens? (writeParts connective parts ++ rest) =
      some (tokensOfAll connective parts ++ following) := by
  induction parts, nonempty using parts_induction with
  | last part => exact each part (List.mem_singleton_self part) rest following ends lexed
  | more part second others ih =>
      have behind := ih fun other member => each other (List.mem_cons_of_mem part member)
      have letters : connective.word ≠ [] ∧ connective.word.all isWordChar = true := by
        cases connective <;> decide
      have word := word_lexed letters.1 letters.2 (ends_word_cons.mpr (by decide))
        (space_lexed behind)
      have joined := each part List.mem_cons_self _ _ (ends_word_cons.mpr (by decide))
        (space_lexed word)
      simpa [writeParts, tokensOfAll] using joined

theorem lexed_of_proper {expression : Expression} (proper : expression.IsProper) :
    expression.IsLexed := by
  induction proper with
  | @term sought ending =>
      intro rest following ends lexed
      have filled : sought.text.toList ≠ [] := by
        rintro empty
        obtain ⟨c, isLast, _⟩ := ending
        rw [empty] at isLast
        cases isLast
      exact term_lexed filled ends lexed
  | @group connective first second others proper ih =>
      intro rest following ends lexed
      have close := mark_lexed (c := ')') rfl lexed
      have inside := parts_lexed connective (List.cons_ne_nil _ _) ih
        (ends_word_cons.mpr (by decide)) close
      have opened := mark_lexed (c := '(') rfl inside
      simpa [write, tokens] using opened

end Expression

end

section

open MatchTree

theorem scope_derived (column : Option Column) (text : String) :
    IsScope (scopeTokens column) ((Term.columns ⟨column, text⟩).map (·.name.toList)) := by
  cases column with
  | some column => exact .name (by cases column <;> decide)
  | none => exact .names (by decide) (by decide)

theorem word_not_reserved {text : List Char} (single : needsPhrase text = false) :
    text ∉ reservedWords := by
  intro reserved
  have upper : text.map Char.toUpper = text := by
    have each : ∀ word ∈ reservedWords, word.map Char.toUpper = word := by decide
    exact each text reserved
  rw [needsPhrase, Bool.or_eq_false_iff, upper] at single
  have contained : reservedWords.contains text = true := List.contains_iff_mem.mpr reserved
  rw [contained] at single
  cases single.2

theorem term_derived (term : Term) : IsOperand term.tokens term.matchTree := by
  apply IsOperand.restricted (scope_derived term.column term.text)
  cases quoted : needsPhrase term.text.toList with
  | true =>
      -- The phrase alone between the parentheses is an expression of one operand.
      have phrase : IsOperand [.phrase term.text.toList] (.text term.text.toList) :=
        .unrestricted .phrase
      have inside := IsExpression.chain (.last (.chain (.last phrase)))
      exact .parentheses inside
  | false => exact .word (word_not_reserved quoted)

theorem parts_derived (connective : Connective) {isPart : List QueryToken → MatchTree → Prop}
    {parts : List Expression} (nonempty : parts ≠ [])
    (each : ∀ part ∈ parts, isPart part.tokens part.matchTree) :
    IsChain connective isPart (Expression.tokensOfAll connective parts)
      (Expression.matchTrees parts) := by
  induction parts, nonempty using Expression.parts_induction with
  | last part => exact .last (each part (List.mem_singleton_self part))
  | more part second others ih =>
      have behind := ih fun other member => each other (List.mem_cons_of_mem part member)
      exact .more (each part List.mem_cons_self) behind

/-- Parts with ANDs between them are one conjunction, and with ORs between them each is one. -/
theorem derived_of_proper {expression : Expression} (proper : expression.IsProper) :
    IsOperand expression.tokens expression.matchTree := by
  induction proper with
  | term ending => exact term_derived _
  | @group connective first second rest proper ih =>
      apply IsOperand.unrestricted
      apply IsPrimary.parentheses
      cases connective with
      | and => exact .chain (.last (.chain (parts_derived .and (List.cons_ne_nil _ _) ih)))
      | or =>
          have each (part : Expression) (member : part ∈ first :: second :: rest) :
              IsConjunction part.tokens part.matchTree := .chain (.last (ih part member))
          exact .chain (parts_derived .or (List.cons_ne_nil _ _) each)

/-- What is written down has the tree of the expression as its one reading. -/
theorem written_reads_iff {expression : Expression} (proper : expression.IsProper)
    (tree : MatchTree) : IsExpression expression.tokens tree ↔ tree = expression.matchTree := by
  have derived : IsExpression expression.tokens expression.matchTree :=
    .chain (.last (.chain (.last (derived_of_proper proper))))
  constructor
  · intro other
    exact expression_unique other derived
  · rintro rfl
    exact derived

end

end Index

end FederatedSearch
