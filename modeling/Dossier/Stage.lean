import Dossier.Collection.Aggregate
import Dossier.Collection.Arrange
import Dossier.Collection.Edit
import Dossier.Collection.Find
import Dossier.Collection.Group
import Dossier.Collection.Page
import Dossier.Collection.Reshape

/-! Stages: the steps that make one collection from another. A chain of them can be run at once or
kept for later. A step that is another one under a second name, or with an operator filled in, is no
stage of its own: `filter`, `reject`, `except` and `whereEq` stand for the stage that they are. -/

namespace Dossier

inductive Stage (μ : Type) where
  | find (q : Query.Source)
  | not (q : Query.Source)
  | findBy (p : Value → Bool)
  | notBy (p : Value → Bool)
  | whereOp (field operator : String) (operand : Value)
  | map (f : Value → Nat → Value)
  | pluck (path : String)
  | each (visitor : Value → Nat → Bool)
  | concat (items : List Value)
  | slice (start : Nat) (stop : Option Nat)
  | pad (size : Nat) (fill : Value) (side : Collection.Side)
  | compact
  | only (paths : List String)
  | forget (paths : List String)
  | sort
  | sortByKey (path : String) (direction : Direction)
  | sortBy (compare : Value → Value → Ordering)
  | unique
  | uniqueBy (s : Selector)
  | chunk (size : Nat)
  | shuffle (draws : List Nat)
  | random (count : Nat) (draws : List Nat)
  | push (item : Value)
  | unshift (item : Value)
  | when (condition : Bool) (f : Collection μ → Collection μ)
  | whenElse (condition : Bool) (f g : Collection μ → Collection μ)
  | whenEmpty (f : Collection μ → Collection μ)
  | whenNotEmpty (f : Collection μ → Collection μ)
  | dump

namespace Stage

variable {μ : Type}

/-- Equality with an operand, by the operator of that name. -/
def whereEq (field : String) (operand : Value) : Stage μ := whereOp field "eq" operand

def filter (p : Value → Bool) : Stage μ := findBy p

def reject (p : Value → Bool) : Stage μ := notBy p

def except (paths : List String) : Stage μ := forget paths

/-- Runs a stage. -/
def run (c : Collection μ) : Stage μ → Except Fault (Collection μ)
  | find q => c.find q
  | not q => c.not q
  | findBy p => .ok (c.findBy p)
  | notBy p => .ok (c.notBy p)
  | whereOp field operator operand => c.whereOp field operator operand
  | map f => .ok (c.map f)
  | pluck path => .ok (c.pluck path)
  | each visitor => .ok (c.each visitor)
  | concat items => .ok (c.concat items)
  | slice start stop => .ok (c.slice start stop)
  | pad size fill side => .ok (c.pad size fill side)
  | compact => .ok c.compact
  | only paths => c.only paths
  | forget paths => .ok (c.forget paths)
  | sort => .ok c.sort
  | sortByKey path direction => .ok (c.sortByKey path direction)
  | sortBy compare => .ok (c.sortBy compare)
  | unique => .ok c.unique
  | uniqueBy s => .ok (c.uniqueBy s)
  | chunk size => .ok (c.chunk size)
  | shuffle draws => .ok (c.shuffle draws)
  | random count draws => .ok (c.random count draws)
  | push item => .ok (c.push item)
  | unshift item => .ok (c.unshift item)
  | when condition f => .ok (c.when condition f)
  | whenElse condition f g => .ok (c.whenElse condition f g)
  | whenEmpty f => .ok (c.whenEmpty f)
  | whenNotEmpty f => .ok (c.whenNotEmpty f)
  | dump => .ok c

end Stage

/-- A link of a chain: a stage, or a registration for the links that follow. -/
inductive Link (μ : Type) where
  | stage (s : Stage μ)
  | addOperator (name : String) (op : Operator)
  | addMacro (name : String) (body : μ)

/-- Runs a link at once. -/
def Link.run {μ : Type} (c : Collection μ) : Link μ → Except Fault (Collection μ)
  | stage s => s.run c
  | addOperator name op => c.addOperator name op
  | addMacro name body => c.addMacro name body

/-- Runs a chain at once, up to the first failure. -/
def Link.runAll {μ : Type} (c : Collection μ) (links : List (Link μ)) :
    Except Fault (Collection μ) :=
  links.foldlM Link.run c

end Dossier
