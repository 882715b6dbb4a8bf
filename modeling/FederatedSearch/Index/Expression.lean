import FederatedSearch.Record

/-!
Match expressions: what the engine of an index is asked. A term is a text to be found
in one column or in any of them; groups combine expressions.
-/

namespace FederatedSearch.Index

structure Term where
  /-- The column to look in; without one, all of them. -/
  column : Option Column
  text : String
deriving DecidableEq

def Term.columns (term : Term) : List Column :=
  match term.column with
  | some column => [column]
  | none => Column.all

inductive Connective where
  | and | or
deriving DecidableEq

inductive Expression where
  | term (term : Term)
  | group (connective : Connective) (parts : List Expression)

inductive EngineQuery where
  | everything
  | matching (expression : Expression)

namespace Expression

theorem induction {motive : Expression → Prop}
    (term : ∀ sought, motive (.term sought))
    (group : ∀ connective parts, (∀ part ∈ parts, motive part) →
      motive (.group connective parts)) (expression : Expression) : motive expression :=
  Expression.rec (motive_1 := motive) (motive_2 := fun parts => ∀ part ∈ parts, motive part)
    term group (by simp) (fun part parts first others => by simp [first]; exact others) expression

mutual

/-- What an expression says, if it is known which terms hold. -/
def holds (decides : Term → Bool) : Expression → Bool
  | .term sought => decides sought
  | .group .and parts => allHold decides parts
  | .group .or parts => anyHolds decides parts

def allHold (decides : Term → Bool) : List Expression → Bool
  | [] => true
  | part :: rest => holds decides part && allHold decides rest

def anyHolds (decides : Term → Bool) : List Expression → Bool
  | [] => false
  | part :: rest => holds decides part || anyHolds decides rest

end

mutual

def terms : Expression → List Term
  | .term sought => [sought]
  | .group _ parts => termsOfAll parts

def termsOfAll : List Expression → List Term
  | [] => []
  | part :: rest => terms part ++ termsOfAll rest

end

/-- Several parts make a group, one part stands for itself, and none is no expression. -/
def combine (connective : Connective) : List Expression → Option Expression
  | [] => none
  | [part] => some part
  | parts => some (.group connective parts)

end Expression

def EngineQuery.holds (decides : Term → Bool) : EngineQuery → Bool
  | .everything => true
  | .matching expression => expression.holds decides

def EngineQuery.isMatchAll : EngineQuery → Bool
  | .everything => true
  | .matching _ => false

end FederatedSearch.Index
