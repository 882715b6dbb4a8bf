import FederatedSearch.Proofs.Truth

/-!
What compilation makes of a tree: the first fault in it, or else the test that the tree
says, in full or with the full-text leaves relaxed.
-/

namespace FederatedSearch

namespace Query

def leafHolds (record : Record) (leaf : Query) : Bool :=
  match leaf.compileLeaf with
  | .ok predicate => predicate record
  | .error _ => false

/-- How compilation reads the leaves of a tree that stands below negations whose number is
odd or not: relaxed, a full-text leaf counts as what cannot make the tree fail. -/
def reading (relax negated : Bool) (record : Record) : Valuation := fun place leaf =>
  if relax && leaf.isFullTextLeaf then !(negated ^^ place.isNegative) else leaf.leafHolds record

theorem reading_below (relax negated : Bool) (record : Record) (step : Step) :
    (reading relax negated record).below step =
      reading relax (negated ^^ step.operator.isNegation) record := by
  funext place leaf
  simp only [Valuation.below, reading, Place.isNegative, Bool.xor_assoc]

mutual

/-- The first fault that keeps a tree from being a condition. A negation is judged by its
first child. -/
def fault? : Query → Option CompileError
  | .logical operator [] => some (.noChildren operator)
  | .logical .not (child :: _) => fault? child
  | .logical _ (child :: rest) => (fault? child).or (firstFault rest)
  | leaf =>
      match leaf.compileLeaf with
      | .ok _ => none
      | .error error => some error

def firstFault : List Query → Option CompileError
  | [] => none
  | child :: rest => (fault? child).or (firstFault rest)

end

theorem first_fault_eq (children : List Query) :
    firstFault children = children.findSome? fault? := by
  induction children with
  | nil => rfl
  | cons child rest induction =>
      rw [firstFault, induction, List.findSome?_cons]
      cases child.fault? <;> rfl

def checked (query : Query) (test : Predicate) : Except CompileError Predicate :=
  match query.fault? with
  | some error => .error error
  | none => .ok test

theorem checked_error_iff {query : Query} {test : Predicate} {error : CompileError} :
    query.checked test = .error error ↔ query.fault? = some error := by
  unfold checked
  cases query.fault? <;> simp

theorem checked_ok_iff {query : Query} {test predicate : Predicate} :
    query.checked test = .ok predicate ↔ query.fault? = none ∧ test = predicate := by
  unfold checked
  cases query.fault? <;> simp

theorem column_field {field : RecordField} {column : Column}
    (isColumn : field.column? = some column) :
    field = .title ∨ field = .description ∨ field = .content := by
  cases field <;> simp [RecordField.column?] at isColumn ⊢

theorem resolve_of_column {reference : FieldRef} {column : Column}
    (found : reference.column? = some column) :
    ∃ field, RecordField.resolve reference = .ok field ∧ field.column? = some column := by
  unfold FieldRef.column? at found
  cases resolved : RecordField.resolve reference with
  | error error => simp only [resolved, reduceCtorEq] at found
  | ok field => exact ⟨field, rfl, by simpa only [resolved] using found⟩

theorem comparison_full_text {reference : FieldRef} {operator : ComparisonOperator}
    {value : Literal} {found : FullTextLeaf}
    (same : (comparison reference operator value).fullTextLeaf? = some found) :
    (operator = .equal ∨ operator = .contains) ∧ value.asText? = some found.text ∧
      ∃ column, reference.column? = some column ∧ found.column = some column := by
  have textual : (operator = .equal ∨ operator = .contains) ∧
      FullTextLeaf.ofComparison? reference value = some found := by
    cases operator <;> simp [fullTextLeaf?] at same ⊢ <;> exact same
  obtain ⟨isTextual, made⟩ := textual
  obtain ⟨column, named, made⟩ := Option.bind_eq_some_iff.mp made
  obtain ⟨text, spelled, made⟩ := Option.bind_eq_some_iff.mp made
  cases made
  exact ⟨isTextual, spelled, column, named, rfl⟩

/-- What an index decides is a condition on records too. -/
theorem full_text_leaf_compiles (leaf : Query) (fullText : leaf.isFullTextLeaf = true) :
    ∃ predicate, leaf.compileLeaf = .ok predicate := by
  obtain ⟨found, same⟩ := Option.isSome_iff_exists.mp fullText
  cases leaf with
  | logical operator children => simp [fullTextLeaf?] at same
  | field reference => simp [fullTextLeaf?] at same
  | textSearch reference sought =>
      cases reference with
      | none => exact ⟨_, rfl⟩
      | some reference =>
          obtain ⟨column, named, _⟩ := Option.map_eq_some_iff.mp same
          obtain ⟨field, resolved, isColumn⟩ := resolve_of_column named
          simp only [compileLeaf, compileTextSearch, resolved]
          rcases column_field isColumn with rfl | rfl | rfl <;> exact ⟨_, rfl⟩
  | comparison reference operator value =>
      obtain ⟨isTextual, spelled, column, named, _⟩ := comparison_full_text same
      obtain ⟨field, resolved, isColumn⟩ := resolve_of_column named
      have lowered : value.lowerText reference.path = .ok (Text.lowered found.text) := by
        rw [Literal.lowerText, spelled]
      rcases isTextual with rfl | rfl <;>
        rcases column_field isColumn with rfl | rfl | rfl <;>
          simp [compileLeaf, compileComparison, resolved, compileTexts, RecordField.supports,
            lowered, bind, Except.bind, pure, Except.pure]
  | literal value =>
      cases value with
      | text sought => exact ⟨_, rfl⟩
      | number sought => exact ⟨_, rfl⟩
      | null | bool | instant | list => cases same

def joined (operator : LogicalOperator) (tests : List Predicate) : Predicate :=
  fun record => combined operator (tests.map fun test => test record)

theorem joined_and : joined .and = Predicate.all := by
  funext tests record
  rw [joined, combined, Predicate.all, List.all_map]
  rfl

theorem joined_or : joined .or = Predicate.any := by
  funext tests record
  rw [joined, combined, Predicate.any, List.any_map]
  rfl

theorem joined_nor : joined .nor = fun tests => (Predicate.any tests).negate := by
  funext tests record
  rw [joined, combined, Predicate.negate, Predicate.any, List.any_map]
  rfl

theorem joined_not (test : Predicate) : joined .not [test] = test.negate := by
  funext record
  simp [joined, combined, Predicate.negate]

theorem compile_children {Result : Type} (first : Except CompileError Predicate)
    (others : Except CompileError (List Predicate)) (join : List Predicate → Result) :
    (do let test ← first; return join (test :: (← others))) =
      (do let test ← first; return test :: (← others)).map join := by
  cases first with
  | error error => rfl
  | ok test => cases others <;> rfl

theorem compile_logical (relax negated : Bool) (operator : LogicalOperator) (child : Query)
    (rest : List Query) :
    compileWith relax negated (.logical operator (child :: rest)) =
      (compileAll relax (negated ^^ operator.isNegation)
        (considered operator (child :: rest))).map (joined operator) := by
  cases operator with
  | and =>
      rw [joined_and, considered, compileAll, LogicalOperator.isNegation, Bool.xor_false]
      exact compile_children _ _ _
  | or =>
      rw [joined_or, considered, compileAll, LogicalOperator.isNegation, Bool.xor_false]
      exact compile_children _ _ _
  | nor =>
      rw [joined_nor, considered, compileAll, LogicalOperator.isNegation, Bool.xor_true]
      exact compile_children _ _ fun tests => (Predicate.any tests).negate
  | not =>
      rw [compileWith, considered, List.take_succ_cons, List.take_zero, compileAll, compileAll,
        LogicalOperator.isNegation, Bool.xor_true]
      cases compileWith relax (!negated) child with
      | error error => rfl
      | ok test => exact congrArg Except.ok (joined_not test).symm

theorem fault_logical (operator : LogicalOperator) (child : Query) (rest : List Query) :
    (logical operator (child :: rest)).fault? =
      firstFault (considered operator (child :: rest)) := by
  cases operator with
  | not =>
      rw [fault?, considered, List.take_succ_cons, List.take_zero, firstFault, firstFault]
      cases fault? child <;> rfl
  | and | or | nor => rw [fault?, considered, firstFault]; simp

theorem compile_leaf (relax negated : Bool) (leaf : Query) (isLeaf : leaf.isLeaf = true) :
    leaf.compileWith relax negated =
      if relax && leaf.isFullTextLeaf then .ok (Predicate.constant !negated)
      else leaf.compileLeaf := by
  cases leaf with
  | logical operator children => cases isLeaf
  | comparison | textSearch | field | literal => rfl

theorem fault_leaf (leaf : Query) (isLeaf : leaf.isLeaf = true) :
    leaf.fault? =
      match leaf.compileLeaf with
      | .ok _ => none
      | .error error => some error := by
  cases leaf with
  | logical operator children => cases isLeaf
  | comparison | textSearch | field | literal => rfl

theorem compile_leaf_checked (leaf : Query) (isLeaf : leaf.isLeaf = true) :
    leaf.compileLeaf = leaf.checked fun record => leaf.leafHolds record := by
  unfold checked leafHolds
  rw [fault_leaf leaf isLeaf]
  cases leaf.compileLeaf <;> rfl

/-- The children of a node are compiled one after the other up to the first fault. -/
theorem compile_all_eq (relax negated : Bool) (children : List Query)
    (each : ∀ child ∈ children, child.compileWith relax negated =
      child.checked fun record => child.truth (reading relax negated record)) :
    compileAll relax negated children =
      match firstFault children with
      | some error => .error error
      | none => .ok (children.map fun child record =>
          child.truth (reading relax negated record)) := by
  induction children with
  | nil => rfl
  | cons child rest induction =>
      have others := induction fun other member => each other (by simp [member])
      rw [compileAll, each child (by simp), others, firstFault, checked]
      cases child.fault? with
      | some error => rfl
      | none => cases firstFault rest <;> rfl

theorem mem_of_considered {operator : LogicalOperator} {children : List Query} {child : Query}
    (member : child ∈ considered operator children) : child ∈ children := by
  cases operator with
  | not => exact List.mem_of_mem_take member
  | and | or | nor => exact member

theorem compile_leaf_eq_checked (relax negated : Bool) (leaf : Query)
    (isLeaf : leaf.isLeaf = true) :
    leaf.compileWith relax negated =
      leaf.checked fun record => leaf.truth (reading relax negated record) := by
  simp only [compile_leaf _ _ _ isLeaf, truth_leaf _ _ isLeaf, reading]
  by_cases relaxed : (relax && leaf.isFullTextLeaf) = true
  · have fullText : leaf.isFullTextLeaf = true := (Bool.and_eq_true_iff.mp relaxed).2
    obtain ⟨predicate, compiled⟩ := full_text_leaf_compiles leaf fullText
    have faultless : leaf.fault? = none := by rw [fault_leaf leaf isLeaf, compiled]
    simp only [if_pos relaxed, checked, faultless, Place.isNegative, Bool.xor_false]
    rfl
  · simp only [if_neg relaxed]
    exact compile_leaf_checked leaf isLeaf

/-- A compiled tree is the test of what the tree says, and only a fault prevents it. -/
theorem compile_eq_checked (relax negated : Bool) (query : Query) :
    query.compileWith relax negated =
      query.checked fun record => query.truth (reading relax negated record) := by
  induction query using node_induction generalizing negated with
  | leaf node isLeaf => exact compile_leaf_eq_checked relax negated node isLeaf
  | logical operator children induction =>
      cases children with
      | nil => rfl
      | cons child rest =>
          have each : ∀ other ∈ considered operator (child :: rest),
              other.compileWith relax (negated ^^ operator.isNegation) =
                other.checked fun record =>
                  other.truth (reading relax (negated ^^ operator.isNegation) record) :=
            fun other member => induction other (mem_of_considered member) _
          rw [compile_logical, checked, fault_logical, compile_all_eq _ _ _ each]
          cases firstFault (considered operator (child :: rest)) with
          | some error => rfl
          | none =>
              apply congrArg Except.ok
              funext record
              have below : ∀ index, (reading relax negated record).below ⟨operator, index⟩ =
                  reading relax (negated ^^ operator.isNegation) record :=
                fun index => reading_below relax negated record ⟨operator, index⟩
              rw [joined, truth_logical below, List.map_map]
              rfl

theorem compile_error_iff {relax negated : Bool} {query : Query} {error : CompileError} :
    query.compileWith relax negated = .error error ↔ query.fault? = some error := by
  rw [compile_eq_checked, checked_error_iff]

theorem compile_ok_iff {relax negated : Bool} {query : Query} {predicate : Predicate} :
    query.compileWith relax negated = .ok predicate ↔ query.fault? = none ∧
      (fun record => query.truth (reading relax negated record)) = predicate := by
  rw [compile_eq_checked, checked_ok_iff]

end Query

end FederatedSearch
