import FederatedSearch.Proofs.Exclusion

/-!
Texts that stand in a record as they are spelled. Text and record are lower-cased one by one,
and the form of a capital sigma depends on what stands around it. So a text is found wherever
it stands if each of its capital sigmas is settled by the text itself, and only then.
-/

namespace FederatedSearch

open FederatedSearch.Text FederatedSearch.ExclusionFilter

namespace Text

/-- The nearest of the characters that case does not ignore. -/
def neighbour? (text : List Char) : Option Char := (text.dropWhile isCaseIgnorable).head?

/-- Nothing that may come before and after changes the form of the capital sigma between two
texts, of which the one before it is read backwards. -/
def sigmaSettled (before after : List Char) : Bool :=
  (neighbour? after).any isCased || (neighbour? before).any (!isCased ·) ||
    (neighbour? before).isSome && (neighbour? after).isSome

/-- The capital sigmas of a text of which `before` has been read are settled. -/
def sigmasSettled (before : List Char) : List Char → Bool
  | [] => true
  | c :: rest => (c != 'Σ' || sigmaSettled before rest) && sigmasSettled (c :: before) rest

/-- Lower-cases a text between two others, of which the first one is read backwards. -/
def lowerBetween (before : List Char) : List Char → List Char → List Char
  | [], _ => []
  | c :: rest, after =>
      (if c = 'Σ' then [lowerSigma before (rest ++ after)] else lowerChar c) ++
        lowerBetween (c :: before) rest after

theorem continues_word_eq (text : List Char) :
    continuesWord text = (neighbour? text).any isCased := by
  unfold continuesWord neighbour?
  cases text.dropWhile isCaseIgnorable <;> rfl

theorem neighbour_append (near far : List Char) :
    neighbour? (near ++ far) = (neighbour? near).or (neighbour? far) := by
  induction near with
  | nil => rfl
  | cons c rest induction =>
      unfold neighbour? at induction ⊢
      by_cases ignored : isCaseIgnorable c = true
      · rw [List.cons_append, List.dropWhile_cons_of_pos ignored,
          List.dropWhile_cons_of_pos ignored, induction]
      · rw [List.cons_append, List.dropWhile_cons_of_neg ignored,
          List.dropWhile_cons_of_neg ignored]
        rfl

theorem neighbour_nil : neighbour? [] = none := rfl

theorem neighbour_letter : neighbour? ['a'] = some 'a' := by decide +kernel

theorem cased_letter : isCased 'a' = true := by decide +kernel

theorem lower_after_eq (before text : List Char) :
    lowerAfter before text = lowerBetween before text [] := by
  induction text generalizing before with
  | nil => rfl
  | cons c rest induction => rw [lowerAfter, lowerBetween, induction, List.append_nil]

theorem lower_between_append (before first second after : List Char) :
    lowerBetween before (first ++ second) after =
      lowerBetween before first (second ++ after) ++
        lowerBetween (first.reverse ++ before) second after := by
  induction first generalizing before with
  | nil => rfl
  | cons c rest induction =>
      rw [List.cons_append, lowerBetween, lowerBetween, induction, List.reverse_cons,
        List.append_assoc, List.append_assoc, List.append_assoc]
      rfl

theorem settled_sigma {before after : List Char} (settled : sigmaSettled before after = true)
    (outerBefore outerAfter : List Char) :
    lowerSigma (before ++ outerBefore) (after ++ outerAfter) = lowerSigma before after := by
  unfold sigmaSettled at settled
  unfold lowerSigma
  simp only [continues_word_eq, neighbour_append]
  cases left : neighbour? before <;> cases right : neighbour? after <;>
    simp_all [Option.or]

/-- The capital sigmas that are settled make a text lower-case alike in every context. -/
theorem settled_lower_between {before text : List Char}
    (settled : sigmasSettled before text = true) (outerBefore outerAfter : List Char) :
    lowerBetween (before ++ outerBefore) text outerAfter = lowerBetween before text [] := by
  induction text generalizing before with
  | nil => rfl
  | cons c rest induction =>
      rw [sigmasSettled, Bool.and_eq_true] at settled
      have others := induction settled.2
      rw [List.cons_append] at others
      rw [lowerBetween, lowerBetween, others]
      by_cases sigma : c = 'Σ'
      · have here : sigmaSettled before rest = true := by simpa [sigma] using settled.1
        rw [if_pos sigma, if_pos sigma, settled_sigma here, List.append_nil]
      · rw [if_neg sigma, if_neg sigma]

theorem settled_text_stands {needle text : List Char} (settled : sigmasSettled [] needle = true)
    (within : needle <:+: text) : lower needle <:+: lower text := by
  obtain ⟨before, after, same⟩ := within
  have alone := settled_lower_between settled before.reverse after
  have parts : lower text = lowerBetween [] before (needle ++ after) ++ lower needle ++
      lowerBetween (before ++ needle).reverse after [] := by
    unfold lower
    rw [← same, lower_after_eq, lower_after_eq, List.append_assoc, lower_between_append,
      lower_between_append, ← alone, List.append_nil, List.append_nil, List.append_nil,
      List.nil_append, List.reverse_append, List.append_assoc]
  rw [parts]
  exact List.infix_append _ _ _

/-- A form of the capital sigma that a context never brings about by itself is at most as
frequent in that context. -/
theorem count_lower_between_le {form : Char} {farBefore farAfter : List Char}
    (rarer : ∀ before after, lowerSigma (before ++ farBefore) (after ++ farAfter) = form →
      lowerSigma before after = form) (before text after : List Char) :
    (lowerBetween (before ++ farBefore) text (after ++ farAfter)).count form ≤
      (lowerBetween before text after).count form := by
  induction text generalizing before with
  | nil => exact Nat.le_refl _
  | cons c rest induction =>
      have others := induction (c :: before)
      rw [List.cons_append] at others
      rw [lowerBetween, lowerBetween, List.count_append, List.count_append]
      apply Nat.add_le_add _ others
      by_cases sigma : c = 'Σ'
      · have here := rarer before (rest ++ after)
        rw [if_pos sigma, if_pos sigma, ← List.append_assoc, List.count_singleton,
          List.count_singleton]
        split <;> simp_all
      · apply Nat.le_of_eq
        rw [if_neg sigma, if_neg sigma]

theorem unsettled_sigma {before text : List Char} (unsettled : sigmasSettled before text = false) :
    ∃ first second, text = first ++ 'Σ' :: second ∧
      sigmaSettled (first.reverse ++ before) second = false := by
  induction text generalizing before with
  | nil => cases unsettled
  | cons c rest induction =>
      rw [sigmasSettled, Bool.and_eq_false_iff] at unsettled
      rcases unsettled with here | later
      · simp only [Bool.or_eq_false_iff, bne_eq_false_iff_eq] at here
        exact ⟨[], rest, by rw [here.1]; rfl, here.2⟩
      · obtain ⟨first, second, same, free⟩ := induction later
        refine ⟨c :: first, second, by rw [same]; rfl, ?_⟩
        rw [List.reverse_cons, List.append_assoc]
        exact free

theorem count_lower_between_lt {form : Char} {farBefore farAfter first second : List Char}
    (rarer : ∀ before after, lowerSigma (before ++ farBefore) (after ++ farAfter) = form →
      lowerSigma before after = form)
    (had : lowerSigma first.reverse second = form)
    (lost : lowerSigma (first.reverse ++ farBefore) (second ++ farAfter) ≠ form) :
    (lowerBetween farBefore (first ++ 'Σ' :: second) farAfter).count form <
      (lower (first ++ 'Σ' :: second)).count form := by
  have left := count_lower_between_le rarer [] first ('Σ' :: second)
  have right := count_lower_between_le rarer ('Σ' :: first.reverse) second []
  simp only [List.nil_append, List.cons_append] at left right
  unfold lower
  rw [lower_after_eq, lower_between_append, lower_between_append]
  simp only [lowerBetween, if_true, List.append_nil, List.count_append, List.cons_append, had,
    List.count_cons_self, List.count_cons_of_ne lost]
  omega

/-- A letter behind a text may take the final form from a sigma, and never brings it about. -/
theorem final_form_rarer (before after : List Char)
    (isFinal : lowerSigma (before ++ []) (after ++ ['a']) = 'ς') :
    lowerSigma before after = 'ς' := by
  unfold lowerSigma at isFinal ⊢
  simp only [continues_word_eq, neighbour_append] at isFinal ⊢
  cases left : neighbour? before <;> cases right : neighbour? after <;>
    simp_all [neighbour_nil, neighbour_letter]

theorem inner_form_rarer (before after : List Char)
    (inner : lowerSigma (before ++ ['a']) (after ++ []) = 'σ') :
    lowerSigma before after = 'σ' := by
  unfold lowerSigma at inner ⊢
  simp only [continues_word_eq, neighbour_append] at inner ⊢
  cases left : neighbour? before <;> cases right : neighbour? after <;>
    simp_all [neighbour_nil, neighbour_letter]

theorem unsettled_form {before after : List Char} (free : sigmaSettled before after = false) :
    (lowerSigma before after = 'ς' ∧ lowerSigma (before ++ []) (after ++ ['a']) ≠ 'ς') ∨
      (lowerSigma before after = 'σ' ∧ lowerSigma (before ++ ['a']) (after ++ []) ≠ 'σ') := by
  unfold sigmaSettled at free
  unfold lowerSigma
  simp only [continues_word_eq, neighbour_append]
  cases left : neighbour? before <;> cases right : neighbour? after <;>
    simp_all [neighbour_nil, neighbour_letter, cased_letter]

theorem lower_append_letter (text : List Char) :
    lower (text ++ ['a']) = lowerBetween [] text ['a'] ++ ['a'] := by
  unfold lower
  rw [lower_after_eq, lower_between_append]
  rfl

theorem lower_letter_append (text : List Char) :
    lower ('a' :: text) = 'a' :: lowerBetween ['a'] text [] := by
  unfold lower
  rw [lower_after_eq]
  rfl

/-- Some text holds the other one as it is spelled, but not lower-cased. -/
theorem unsettled_text_lost {needle : List Char}
    (unsettled : sigmasSettled [] needle = false) :
    ∃ text, needle <:+: text ∧ ¬ lower needle <:+: lower text := by
  obtain ⟨first, second, same, free⟩ := unsettled_sigma unsettled
  rw [List.append_nil] at free
  rcases unsettled_form free with ⟨had, lost⟩ | ⟨had, lost⟩
  · have fewer := count_lower_between_lt final_form_rarer had lost
    rw [← same] at fewer
    refine ⟨needle ++ ['a'], List.infix_append [] _ _, ?_⟩
    intro within
    have atMost := within.sublist.count_le 'ς'
    rw [lower_append_letter, List.count_append] at atMost
    have last : ['a'].count 'ς' = 0 := rfl
    omega
  · have fewer := count_lower_between_lt inner_form_rarer had lost
    rw [← same] at fewer
    refine ⟨'a' :: needle, List.infix_cons (List.infix_refl needle), ?_⟩
    intro within
    have atMost := within.sublist.count_le 'σ'
    rw [lower_letter_append, List.count_cons_of_ne (by decide)] at atMost
    omega

end Text

/-- Whoever looks for the text in records, wherever or only in the column, finds it there: the
searches accept the record, and the text as an excluded term rules it out. -/
structure FoundIn (sought : String) (record : Record) (column : Column) : Prop where
  anywhere : ∃ test, (Query.textSearch none sought).compile = .ok test ∧ test record = true
  searched : ∀ reference : FieldRef, reference.column? = some column →
    ∃ test, (Query.textSearch (some reference) sought).compile = .ok test ∧ test record = true
  contained : ∀ (reference : FieldRef) (value : Literal), reference.column? = some column →
    value.asText? = some sought →
      ∃ test, (Query.comparison reference .contains value).compile = .ok test ∧ test record = true
  excluded : ∀ terms : List ExcludedTerm, ⟨sought, none⟩ ∈ terms →
    (ExclusionFilter.ofTerms terms).excludes record = true
  excludedByColumn : ∀ (terms : List ExcludedTerm) (name : String),
    Column.named? name = some column → ⟨sought, some name⟩ ∈ terms →
      (ExclusionFilter.ofTerms terms).excludes record = true

namespace Query

theorem column_excludes_iff {record : Record} {column : Column} {text : String}
    (holds : record.column column = some text) {name : String}
    (named : Column.named? name = some column) (sought : String) :
    termExcludes record ⟨sought, some name⟩ = true ↔
      lower sought.toList <:+: lower text.toList := by
  rw [← occurs_in_iff_infix]
  unfold termExcludes searchedTexts Record.columnNamed
  simp only [named, Option.bind_some, holds, Option.toList_some, List.any_cons, List.any_nil,
    Bool.or_false]
  rfl

theorem excludes_of_column {record : Record} {column : Column} {text : String}
    (holds : record.column column = some text) {sought : String}
    (within : lower sought.toList <:+: lower text.toList) :
    termExcludes record ⟨sought, none⟩ = true := by
  have listed : column ∈ Column.all := by cases column <;> decide
  have searched : text ∈ searchedTexts record none :=
    List.mem_filterMap.mpr ⟨column, listed, holds⟩
  apply List.any_eq_true.mpr
  refine ⟨text, searched, ?_⟩
  rw [occursIgnoringCase, occurs_in_iff_infix]
  exact within

theorem excludes_of_term {terms : List ExcludedTerm} {term : ExcludedTerm} {record : Record}
    (filled : isBlankText term.term = false) (listed : term ∈ terms)
    (applies : termExcludes record term = true) :
    (ExclusionFilter.ofTerms terms).excludes record = true := by
  apply List.any_eq_true.mpr
  exact ⟨term, List.mem_filter.mpr ⟨listed, by rw [filled]; rfl⟩, applies⟩

theorem search_accepts {leaf : Query} {found : FullTextLeaf} (search : leaf.isSearch = true)
    (same : leaf.fullTextLeaf? = some found) {record : Record}
    (applies : termExcludes record (.ofTerm ⟨found.column, found.text⟩) = true) :
    ∃ test, leaf.compile = .ok test ∧ test record = true := by
  obtain ⟨test, compiled, accepts⟩ := search_compiles search same
  have isLeaf : leaf.isLeaf = true := by
    cases leaf with
    | logical operator children => cases search
    | comparison | textSearch | field | literal => rfl
  refine ⟨test, ?_, (accepts record).trans applies⟩
  rw [compile, compile_leaf false false leaf isLeaf]
  exact compiled

/-- Every way of looking for a text comes down to the lower-cased texts. -/
theorem found_in_iff {sought : String} (filled : isBlankText sought = false) {record : Record}
    {column : Column} {text : String} (holds : record.column column = some text) :
    FoundIn sought record column ↔ lower sought.toList <:+: lower text.toList := by
  have named := Column.named_of_name column
  constructor
  · intro found
    have excluded := found.excludedByColumn [⟨sought, some column.name⟩] column.name named
      (List.mem_singleton_self _)
    obtain ⟨term, listed, applies⟩ := List.any_eq_true.mp excluded
    have same := List.mem_singleton.mp (List.mem_filter.mp listed).1
    rw [same] at applies
    exact (column_excludes_iff holds named sought).mp applies
  · intro within
    have inColumn := (column_excludes_iff holds named sought).mpr within
    have somewhere := excludes_of_column holds within
    exact {
      anywhere := by
        have same : (textSearch none sought).fullTextLeaf? = some ⟨none, sought⟩ := rfl
        exact search_accepts rfl same somewhere
      searched := by
        intro reference leads
        have same : (textSearch (some reference) sought).fullTextLeaf? =
            some ⟨some column, sought⟩ := by rw [fullTextLeaf?, leads, Option.map_some]
        exact search_accepts rfl same inColumn
      contained := by
        intro reference value leads spelled
        have same : (comparison reference .contains value).fullTextLeaf? =
            some ⟨some column, sought⟩ := by
          rw [fullTextLeaf?, FullTextLeaf.ofComparison?, leads, spelled]
          rfl
        exact search_accepts rfl same inColumn
      excluded := fun terms listed => excludes_of_term filled listed somewhere
      excludedByColumn := fun terms name given listed =>
        excludes_of_term filled listed ((column_excludes_iff holds given sought).mpr within) }

/-- A text is found wherever it stands if it settles its capital sigmas itself, and only then. -/
theorem verbatim_text_found_iff (sought : String) (filled : sought ≠ "")
    (bare : trimmed sought = sought) :
    (∀ (record : Record) (column : Column) (text : String), record.column column = some text →
        sought.toList <:+: text.toList → FoundIn sought record column) ↔
      sigmasSettled [] sought.toList = true := by
  have notBlank : isBlankText sought = false := by
    rw [← bare]
    exact trimmed_not_blank sought (by rw [bare]; exact filled)
  constructor
  · intro found
    rw [← Bool.not_eq_false]
    intro unsettled
    obtain ⟨text, within, missed⟩ := unsettled_text_lost unsettled
    let record := Record.plain "note" (String.ofList text) ⟨0, 0⟩
    have holds : record.column .content = some (String.ofList text) := rfl
    have stands : sought.toList <:+: (String.ofList text).toList := by
      rw [String.toList_ofList]
      exact within
    have foundHere := (found_in_iff notBlank holds).mp (found record .content _ holds stands)
    rw [String.toList_ofList] at foundHere
    exact missed foundHere
  · intro settled record column text holds within
    exact (found_in_iff notBlank holds).mpr (settled_text_stands settled within)

theorem verbatim_sofia_found :
    "ΣΟΦΙΑ" ≠ "" ∧ trimmed "ΣΟΦΙΑ" = "ΣΟΦΙΑ" ∧
      ∀ (record : Record) (column : Column) (text : String), record.column column = some text →
        "ΣΟΦΙΑ".toList <:+: text.toList → FoundIn "ΣΟΦΙΑ" record column :=
  ⟨by decide, by decide +kernel,
    (verbatim_text_found_iff "ΣΟΦΙΑ" (by decide) (by decide +kernel)).mpr (by decide +kernel)⟩

def attention : Record := Record.plain "note" "ΠΡΟΣΟΧΗ" ⟨0, 0⟩

/-- The sigma that ends the text goes on in the record. -/
theorem cut_word_not_found :
    "ΠΡΟΣ" ≠ "" ∧ trimmed "ΠΡΟΣ" = "ΠΡΟΣ" ∧ attention.column .content = some "ΠΡΟΣΟΧΗ" ∧
      "ΠΡΟΣ".toList <:+: "ΠΡΟΣΟΧΗ".toList ∧
      (∃ test, (textSearch none "ΠΡΟΣ").compile = .ok test ∧ test attention = false) ∧
      (ExclusionFilter.ofTerms [⟨"ΠΡΟΣ", none⟩]).excludes attention = false ∧
      ¬ FoundIn "ΠΡΟΣ" attention .content := by
  have missed : anyColumnContains (lower "ΠΡΟΣ".toList) attention = false := by decide +kernel
  have leaks : (ExclusionFilter.ofTerms [⟨"ΠΡΟΣ", none⟩]).excludes attention = false := by
    decide +kernel
  refine ⟨by decide, by decide +kernel, rfl, ⟨[], "ΟΧΗ".toList, by decide +kernel⟩,
    ⟨_, rfl, missed⟩, leaks, ?_⟩
  intro found
  have excluded := found.excluded [⟨"ΠΡΟΣ", none⟩] (List.mem_singleton_self _)
  rw [leaks] at excluded
  cases excluded

end Query

end FederatedSearch
