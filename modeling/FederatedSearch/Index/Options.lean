import FederatedSearch.Decimal.Precision
import FederatedSearch.Settings.Basic

/-!
Options of an index: where it is kept, how it splits texts into words, and what it shows
of the records it finds.
-/

namespace FederatedSearch.Index

structure IndexOptions where
  path : String
  /-- Words are known by their stems. -/
  stemming : Bool
  /-- Divides a rank before it becomes a score. -/
  scoreDivisor : Float
  /-- The length of a snippet in words. -/
  snippetTokens : Nat
  /-- The length of the preview of a row that is found without being sought, in characters. -/
  previewLength : Nat
  /-- Stands for the text that a snippet leaves out at its ends. -/
  ellipsis : String

namespace IndexOptions

def standard : IndexOptions :=
  { path := "./fts-index.db", stemming := true, scoreDivisor := 10, snippetTokens := 32
    previewLength := 200, ellipsis := "..." }

def ofSettings (settings : IndexSettings) : IndexOptions :=
  { standard with path := settings.path, stemming := settings.stemming }

def maxSnippetTokens : Nat := 64

/-- Sets the length of snippets, which is at least one and at most the longest one. -/
def withSnippetTokens (options : IndexOptions) (count : Nat) : IndexOptions :=
  { options with snippetTokens := max 1 (min count maxSnippetTokens) }

def tokenizer (options : IndexOptions) : String :=
  if options.stemming then "porter unicode61" else "unicode61"

def tableDefinition (options : IndexOptions) : String :=
  "CREATE VIRTUAL TABLE IF NOT EXISTS content_fts USING fts5(content_id UNINDEXED, title, " ++
    "description, content, tokenize='" ++ options.tokenizer ++ "')"

end IndexOptions

/-- The score of a rank: a rank is the lower the better, and scores end at one. -/
def scoreOfRank (rank divisor : Float) : Float32 :=
  let score := Float.exp (rank / divisor)
  if score < 1 then toSingle score else 1

end FederatedSearch.Index
