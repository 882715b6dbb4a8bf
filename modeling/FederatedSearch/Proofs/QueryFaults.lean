import FederatedSearch.Federation.Basic
import FederatedSearch.Proofs.DeMorgan
import FederatedSearch.Proofs.NegatedLeaves

/-!
Faults of query trees. A tree is no condition if a node has a fault at a place that is evaluated:
it is a leaf that is no condition, or a group without children. The check of a query asks only for
the test behind the engine. It meets every fault of a leaf, but a tree without a leaf for that
test passes with whatever empty groups it has.
-/

namespace FederatedSearch

/-- Evaluation takes the step: from a negation it goes to the first child only. -/
def Step.isHeeded (step : Step) : Bool := step.operator != .not || step.index == 0

def Place.isHeeded (place : Place) : Bool := place.all Step.isHeeded

namespace Query

theorem mem_considered_iff {operator : LogicalOperator} {children : List Query} {child : Query} :
    child ∈ considered operator children ↔
      ∃ index, children[index]? = some child ∧ Step.isHeeded ⟨operator, index⟩ = true := by
  cases operator with
  | and | or | nor => simp [considered, Step.isHeeded, List.mem_iff_getElem?]
  | not =>
      cases children with
      | nil => simp [considered]
      | cons first rest =>
          rw [considered, List.take_succ_cons, List.take_zero, List.mem_singleton]
          constructor
          · rintro rfl
            exact ⟨0, rfl, rfl⟩
          · rintro ⟨index, found, heeded⟩
            obtain rfl : index = 0 := by simpa [Step.isHeeded] using heeded
            exact (Option.some.inj found).symm

/-- What is wrong with a node by itself, whatever stands below it. -/
def ownFault? : Query → Option CompileError
  | .logical operator [] => some (.noChildren operator)
  | .logical _ _ => none
  | leaf =>
      match leaf.compileLeaf with
      | .ok _ => none
      | .error error => some error

theorem own_fault_leaf (leaf : Query) (isLeaf : leaf.isLeaf = true) :
    leaf.ownFault? = leaf.fault? := by
  cases leaf with
  | logical operator children => cases isLeaf
  | comparison | textSearch | field | literal => rfl

theorem node_below_logical {operator : LogicalOperator} {children : List Query} {step : Step}
    {rest : Place} {node : Query}
    (there : (logical operator children).nodeAt? (step :: rest) = some node) :
    step.operator = operator ∧
      ∃ child, children[step.index]? = some child ∧ child.nodeAt? rest = some node := by
  rw [nodeAt?] at there
  split at there
  · next same => exact ⟨same, Option.bind_eq_some_iff.mp there⟩
  · cases there

theorem faultless_places {query node : Query} {place : Place} (faultless : query.fault? = none)
    (there : query.nodeAt? place = some node) (heeded : place.isHeeded = true) :
    node.ownFault? = none := by
  induction query using node_induction generalizing place with
  | leaf leaf isLeaf =>
      obtain ⟨_, rfl⟩ := (node_below_leaf isLeaf).mp there
      rw [own_fault_leaf node isLeaf, faultless]
  | logical operator children ih =>
      cases place with
      | nil =>
          cases there
          cases children with
          | nil => cases faultless
          | cons child others => rfl
      | cons step rest =>
          obtain ⟨rfl, child, found, below⟩ := node_below_logical there
          obtain ⟨stepHeeded, restHeeded⟩ := Bool.and_eq_true_iff.mp heeded
          have among := List.mem_of_getElem? found
          rw [fault_of_filled _ (List.ne_nil_of_mem among), List.findSome?_eq_none_iff] at faultless
          have looked := faultless child (mem_considered_iff.mpr ⟨step.index, found, stepHeeded⟩)
          exact ih child among looked below restHeeded

/-- The fault of a tree is that of a node at a place that is evaluated. -/
theorem fault_at_place {query : Query} {error : CompileError} (faulty : query.fault? = some error) :
    ∃ place node, query.nodeAt? place = some node ∧ place.isHeeded = true ∧
      node.ownFault? = some error := by
  induction query using node_induction with
  | leaf leaf isLeaf =>
      exact ⟨[], leaf, rfl, rfl, (own_fault_leaf leaf isLeaf).trans faulty⟩
  | logical operator children ih =>
      rw [fault_of_node] at faulty
      split at faulty
      · next empty =>
          cases List.isEmpty_iff.mp empty
          exact ⟨[], _, rfl, rfl, faulty⟩
      · obtain ⟨child, looked, childFaulty⟩ := List.exists_of_findSome?_eq_some faulty
        obtain ⟨index, found, stepHeeded⟩ := mem_considered_iff.mp looked
        obtain ⟨place, node, below, restHeeded, own⟩ :=
          ih child (List.mem_of_getElem? found) childFaulty
        refine ⟨⟨operator, index⟩ :: place, node, ?_, ?_, own⟩
        · simp [nodeAt?, found, below]
        · exact Bool.and_eq_true_iff.mpr ⟨stepHeeded, restHeeded⟩

theorem structured_of_place {query leaf : Query} {place : Place}
    (there : query.nodeAt? place = some leaf) (isLeaf : leaf.isLeaf = true)
    (structured : leaf.isFullTextLeaf = false) : query.hasStructuredLeaf = true := by
  induction query using node_induction generalizing place with
  | leaf node nodeIsLeaf =>
      obtain ⟨_, rfl⟩ := (node_below_leaf nodeIsLeaf).mp there
      rw [structured_leaf_of_leaf leaf isLeaf, structured, Bool.not_false]
  | logical operator children ih =>
      cases place with
      | nil =>
          cases there
          cases isLeaf
      | cons step rest =>
          obtain ⟨rfl, child, found, below⟩ := node_below_logical there
          have among := List.mem_of_getElem? found
          rw [structured_logical, List.any_eq_true]
          exact ⟨child, among, ih child among below⟩

theorem structured_of_fault {leaf : Query} {error : CompileError} (isLeaf : leaf.isLeaf = true)
    (faulty : leaf.ownFault? = some error) : leaf.isFullTextLeaf = false := by
  apply Bool.eq_false_iff.mpr
  intro fullText
  obtain ⟨predicate, compiled⟩ := full_text_leaf_compiles leaf fullText
  rw [own_fault_leaf leaf isLeaf, fault_leaf leaf isLeaf, compiled] at faulty
  cases faulty

/-- A group without children stands at a place that is evaluated. -/
def HasEmptyGroup (query : Query) : Prop :=
  ∃ place operator, query.nodeAt? place = some (.logical operator []) ∧ place.isHeeded = true

/-- The only faults without a leaf for the test behind the engine are empty groups. -/
theorem empty_group_of_fault {query : Query} (fullText : query.hasStructuredLeaf = false)
    {error : CompileError} (faulty : query.fault? = some error) :
    query.HasEmptyGroup ∧ ∃ operator, error = .noChildren operator := by
  obtain ⟨place, node, there, heeded, own⟩ := fault_at_place faulty
  cases isLeaf : node.isLeaf with
  | true =>
      rw [structured_of_place there isLeaf (structured_of_fault isLeaf own)] at fullText
      cases fullText
  | false =>
      obtain ⟨operator, children, rfl⟩ :
          ∃ operator children, node = .logical operator children := by
        cases node with
        | logical operator children => exact ⟨operator, children, rfl⟩
        | comparison | textSearch | field | literal => cases isLeaf
      cases children with
      | cons child rest => cases own
      | nil => exact ⟨⟨place, operator, there, heeded⟩, operator, (Option.some.inj own).symm⟩

theorem fault_of_empty_group {query : Query} (empty : query.HasEmptyGroup) :
    ∃ error, query.fault? = some error := by
  obtain ⟨place, operator, there, heeded⟩ := empty
  cases fault : query.fault? with
  | none => cases faultless_places fault there heeded
  | some error => exact ⟨error, rfl⟩

theorem compile_structured_error_iff {query : Query} {error : CompileError} :
    query.compileStructured = .error error ↔
      query.hasStructuredLeaf = true ∧ query.compile = .error error := by
  have sameErrors : query.compileRelaxed = .error error ↔ query.compile = .error error := by
    rw [compileRelaxed, compile, compile_error_iff, compile_error_iff]
  rw [compileStructured, ← sameErrors]
  cases query.hasStructuredLeaf with
  | false => simp
  | true => cases query.compileRelaxed <;> simp [Except.map]

theorem leaf_fault_is_met {query leaf : Query} {place : Place} {error : CompileError}
    (there : query.nodeAt? place = some leaf) (isLeaf : leaf.isLeaf = true)
    (heeded : place.isHeeded = true) (faulty : leaf.compileLeaf = .error error) :
    ∃ first, query.compileStructured = .error first := by
  have own : leaf.ownFault? = some error := by
    rw [own_fault_leaf leaf isLeaf, fault_leaf leaf isLeaf, faulty]
  have structured := structured_of_place there isLeaf (structured_of_fault isLeaf own)
  cases fault : query.fault? with
  | none =>
      rw [faultless_places fault there heeded] at own
      cases own
  | some first =>
      exact ⟨first, compile_structured_error_iff.mpr ⟨structured, compile_error_iff.mpr fault⟩⟩

theorem check_query_iff {settings : SearchSettings} {query : Query}
    (shallow : query.depth ≤ settings.maxQueryDepth)
    (small : query.nodeCount ≤ settings.maxQueryNodes) :
    Federation.checkQuery settings query = .ok query ↔
      ∀ error, query.compileStructured ≠ .error error := by
  rw [Federation.checkQuery, if_neg (Nat.not_lt.mpr shallow), if_neg (Nat.not_lt.mpr small)]
  cases query.compileStructured <;> simp

/-- The check fails as the tree does, unless the fault is an empty group that it does not meet. -/
theorem errors_alike_iff (query : Query) :
    (∀ error, query.compileStructured = .error error ↔ query.compile = .error error) ↔
      query.hasStructuredLeaf = true ∨ ¬query.HasEmptyGroup := by
  constructor
  · intro alike
    cases structured : query.hasStructuredLeaf with
    | true => exact Or.inl rfl
    | false =>
        refine Or.inr fun empty => ?_
        obtain ⟨error, faulty⟩ := fault_of_empty_group empty
        have met := (alike error).mpr (compile_error_iff.mpr faulty)
        rw [(compile_structured_error_iff.mp met).1] at structured
        cases structured
  · intro covered error
    rw [compile_structured_error_iff]
    refine ⟨And.right, fun failed => ⟨?_, failed⟩⟩
    rcases covered with structured | noneEmpty
    · exact structured
    · apply eq_true_of_ne_false
      intro fullText
      exact noneEmpty (empty_group_of_fault fullText (compile_error_iff.mp failed)).1

theorem empty_group_passes {query : Query} (fullText : query.hasStructuredLeaf = false)
    (empty : query.HasEmptyGroup) :
    query.compileStructured = .ok none ∧
      ∃ operator, query.compile = .error (.noChildren operator) := by
  obtain ⟨error, faulty⟩ := fault_of_empty_group empty
  obtain ⟨_, operator, rfl⟩ := empty_group_of_fault fullText faulty
  refine ⟨?_, operator, compile_error_iff.mpr faulty⟩
  rw [compileStructured, fullText, if_neg Bool.false_ne_true]

/-- The check of a query reports the fault of the tree, unless the tree has no leaf for the test
behind the engine. Then a group without children, at a place that is evaluated, passes the check,
and it is the only fault that does. -/
theorem check_reports_fault_iff (query : Query) :
    (∀ error, query.compileStructured = .error error ↔
      query.hasStructuredLeaf = true ∧ query.compile = .error error) ∧
    ((∀ error, query.compileStructured = .error error ↔ query.compile = .error error) ↔
      query.hasStructuredLeaf = true ∨ ¬query.HasEmptyGroup) ∧
    (query.hasStructuredLeaf = false → query.HasEmptyGroup →
      query.compileStructured = .ok none ∧
        ∃ operator, query.compile = .error (.noChildren operator)) ∧
    (∀ place leaf error, query.nodeAt? place = some leaf → leaf.isLeaf = true →
      place.isHeeded = true → leaf.compileLeaf = .error error →
        ∃ first, query.compileStructured = .error first) ∧
    (∀ settings : SearchSettings, query.depth ≤ settings.maxQueryDepth →
      query.nodeCount ≤ settings.maxQueryNodes →
        (Federation.checkQuery settings query = .ok query ↔
          query.hasStructuredLeaf = false ∨ ∀ error, query.compile ≠ .error error)) := by
  refine ⟨fun error => compile_structured_error_iff, errors_alike_iff query, empty_group_passes,
    ?_, ?_⟩
  · intro place leaf error there isLeaf heeded faulty
    exact leaf_fault_is_met there isLeaf heeded faulty
  · intro settings shallow small
    rw [check_query_iff shallow small]
    simp only [ne_eq, compile_structured_error_iff, not_and]
    cases query.hasStructuredLeaf <;> simp

def rustAndNothing : Query := .and [.text "rust", .or []]

/-- The tree is no condition, since a group is empty, and passes the check all the same. With a
condition on tags beside it the group is noticed. -/
theorem empty_alternatives_pass :
    rustAndNothing.compile = .error (.noChildren .or) ∧
    rustAndNothing.compileStructured = .ok none ∧
    Federation.checkQuery .standard rustAndNothing = .ok rustAndNothing ∧
    (Query.and [rustAndNothing, .compare "tags" .equal (.text "work")]).compileStructured =
      .error (.noChildren .or) := by
  refine ⟨rfl, rfl, ?_, rfl⟩
  exact (check_query_iff (by decide) (by decide)).mpr fun error => nofun

end Query

end FederatedSearch
