import FederatedSearch.Index.Expression
import FederatedSearch.Text.Blank

/-!
The text of queries to an index, written and read. A term is written behind the column
or columns that it is sought in; a text that is no single word, or is a word of the
language itself, is quoted and put in parentheses, its quotes doubled. Groups stand in
parentheses, and a star asks for everything.
-/

namespace FederatedSearch.Index

/-- Words may hold ASCII letters, digits, the underscore and all characters beyond ASCII. -/
def isWordChar (c : Char) : Bool := c.isAlphanum || c == '_' || 0x80 ≤ c.toNat

def Connective.word : Connective → List Char
  | .and => ['A', 'N', 'D']
  | .or => ['O', 'R']

def reservedWords : List (List Char) :=
  [['A', 'N', 'D'], ['O', 'R'], ['N', 'O', 'T'], ['N', 'E', 'A', 'R']]

/-- The text has to be quoted. Reserved words are quoted in whatever case. -/
def needsPhrase (text : List Char) : Bool :=
  text.any (fun c => !isWordChar c) || reservedWords.contains (text.map Char.toUpper)

def doubleQuotes : List Char → List Char
  | [] => []
  | c :: rest => if c = '"' then '"' :: '"' :: doubleQuotes rest else c :: doubleQuotes rest

def phrase (text : List Char) : List Char := '"' :: doubleQuotes text ++ ['"']

def writeScope : Option Column → List Char
  | some column => column.name.toList
  | none => '\x7b' :: "title description content".toList ++ ['\x7d']

def writeTerm (term : Term) : List Char :=
  let text := term.text.toList
  writeScope term.column ++ ':' ::
    if needsPhrase text then '(' :: phrase text ++ [')'] else text

mutual

def Expression.write : Expression → List Char
  | .term sought => writeTerm sought
  | .group connective parts => '(' :: writeParts connective parts ++ [')']

def writeParts (connective : Connective) : List Expression → List Char
  | [] => []
  | [part] => part.write
  | part :: rest => part.write ++ ' ' :: connective.word ++ ' ' :: writeParts connective rest

end

def EngineQuery.write : EngineQuery → String
  | .everything => "*"
  | .matching expression => String.ofList expression.write

inductive QueryToken where
  | openParen | closeParen | openBrace | closeBrace | colon
  | word (letters : List Char)
  | phrase (text : List Char)
deriving DecidableEq

/-- The text of a phrase behind its opening quote, and what follows the closing one. -/
def readPhrase? : List Char → Option (List Char × List Char)
  | [] => none
  | '"' :: '"' :: rest => (readPhrase? rest).map fun (text, after) => ('"' :: text, after)
  | '"' :: rest => some ([], rest)
  | c :: rest => (readPhrase? rest).map fun (text, after) => (c :: text, after)

theorem read_phrase_length {input text after : List Char}
    (read : readPhrase? input = some (text, after)) : after.length < input.length := by
  fun_induction readPhrase? input generalizing text after with
  | case1 => simp at read
  | case2 rest induction =>
      obtain ⟨⟨inner, suffix⟩, found, same⟩ := Option.map_eq_some_iff.1 read
      cases same
      have shorter := induction found
      simp only [List.length_cons]
      omega
  | case3 rest =>
      cases read
      simp
  | case4 c rest _ _ induction =>
      obtain ⟨⟨inner, suffix⟩, found, same⟩ := Option.map_eq_some_iff.1 read
      cases same
      have shorter := induction found
      simp only [List.length_cons]
      omega

def punctuation? : Char → Option QueryToken
  | '(' => some .openParen
  | ')' => some .closeParen
  | '\x7b' => some .openBrace
  | '\x7d' => some .closeBrace
  | ':' => some .colon
  | _ => none

def isQuerySpace (c : Char) : Bool := c == ' ' || c == '\t' || c == '\n' || c == '\r'

def queryTokens? (input : List Char) : Option (List QueryToken) :=
  match input with
  | [] => some []
  | c :: rest =>
      if isQuerySpace c then queryTokens? rest
      else if isWordChar c then
        (queryTokens? (rest.dropWhile isWordChar)).map
          (.word (c :: rest.takeWhile isWordChar) :: ·)
      else if c = '"' then
        match _read : readPhrase? rest with
        | some (text, after) => (queryTokens? after).map (.phrase text :: ·)
        | none => none
      else
        match punctuation? c with
        | some token => (queryTokens? rest).map (token :: ·)
        | none => none
termination_by input.length
decreasing_by
  all_goals simp only [List.length_cons]
  · omega
  · have shorter := (List.dropWhile_sublist isWordChar (l := rest)).length_le
    omega
  · have shorter := read_phrase_length _read
    omega
  · omega

/-- An open group: its connective once there is one, and its parts, last one first. -/
structure OpenGroup where
  connective : Option Connective
  parts : List Expression

/-- What may come next; `inside` holds the open groups, innermost first. -/
inductive AwaitingToken where
  | operand (inside : List OpenGroup)
  /-- Inside the braces of a scope, behind these columns. -/
  | scopeColumn (columns : List (List Char)) (inside : List OpenGroup)
  | colon (scope : Option Column) (inside : List OpenGroup)
  | sought (scope : Option Column) (inside : List OpenGroup)
  | quoted (scope : Option Column) (inside : List OpenGroup)
  | closing (term : Term) (inside : List OpenGroup)
  /-- Behind a complete expression. -/
  | connective (expression : Expression) (inside : List OpenGroup)

def OpenGroup.close (group : OpenGroup) (last : Expression) : Expression :=
  match group.connective with
  | some connective => .group connective (last :: group.parts).reverse
  | none => last

def OpenGroup.continue? (group : OpenGroup) (part : Expression) (connective : Connective) :
    Option OpenGroup :=
  if group.connective = none ∨ group.connective = some connective then
    some ⟨some connective, part :: group.parts⟩
  else none

def AwaitingToken.next? : AwaitingToken → QueryToken → Option AwaitingToken
  | .operand inside, .openParen => some (.operand (⟨none, []⟩ :: inside))
  | .operand inside, .openBrace => some (.scopeColumn [] inside)
  | .operand inside, .word letters =>
      (Column.named? (String.ofList letters)).map fun column => .colon (some column) inside
  | .scopeColumn columns inside, .word letters => some (.scopeColumn (letters :: columns) inside)
  | .scopeColumn columns inside, .closeBrace =>
      if columns.reverse = Column.all.map (·.name.toList) then some (.colon none inside) else none
  | .colon scope inside, .colon => some (.sought scope inside)
  | .sought scope inside, .word letters =>
      if reservedWords.contains letters then none
      else some (.connective (.term ⟨scope, String.ofList letters⟩) inside)
  | .sought scope inside, .openParen => some (.quoted scope inside)
  | .quoted scope inside, .phrase text => some (.closing ⟨scope, String.ofList text⟩ inside)
  | .closing term inside, .closeParen => some (.connective (.term term) inside)
  | .connective part (group :: inside), .closeParen =>
      some (.connective (group.close part) inside)
  | .connective part (group :: inside), .word letters =>
      if letters = Connective.and.word then
        (group.continue? part .and).map fun group => .operand (group :: inside)
      else if letters = Connective.or.word then
        (group.continue? part .or).map fun group => .operand (group :: inside)
      else none
  | _, _ => none

def Expression.read? (text : List Char) : Option Expression := do
  let tokens ← queryTokens? text
  match ← tokens.foldlM AwaitingToken.next? (.operand []) with
  | .connective expression [] => some expression
  | _ => none

/-- The query that a text writes down; blanks around it do not count. -/
def EngineQuery.read? (text : String) : Option EngineQuery :=
  let trimmed := Text.trim text.toList
  if trimmed = [] ∨ trimmed = ['*'] then some .everything
  else (Expression.read? trimmed).map .matching

end FederatedSearch.Index
