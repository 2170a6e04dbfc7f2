import Dossier.Collection.Basic

/-! Picking items by query or by condition. -/

namespace Dossier.Collection

variable {μ : Type}

def findBy (c : Collection μ) (p : Value → Bool) : Collection μ := c.collect (c.items.filter p)

def notBy (c : Collection μ) (p : Value → Bool) : Collection μ :=
  c.collect (c.items.filter fun item => !p item)

def findOneBy (c : Collection μ) (p : Value → Bool) : Option Value := c.items.find? p

/-- The items that satisfy a query. -/
def find (c : Collection μ) (q : Query.Source) : Except Fault (Collection μ) :=
  return c.findBy (← c.context.matcher q).holds

/-- The items that do not satisfy a query. -/
def not (c : Collection μ) (q : Query.Source) : Except Fault (Collection μ) :=
  return c.notBy (← c.context.matcher q).holds

/-- The first item that satisfies a query. -/
def findOne (c : Collection μ) (q : Query.Source) : Except Fault (Option Value) :=
  return c.findOneBy (← c.context.matcher q).holds

/-- The items whose field satisfies an operator. -/
def whereOp (c : Collection μ) (field operator : String) (operand : Value) :
    Except Fault (Collection μ) :=
  if field = "" then .error .emptyWhereField
  else c.find (.built (Query.empty.satisfying field (Operator.canonicalName operator) operand))

def whereEq (c : Collection μ) (field : String) (operand : Value) : Except Fault (Collection μ) :=
  c.whereOp field "eq" operand

/-- The items that carry something. -/
def compact (c : Collection μ) : Collection μ := c.notBy Value.isBlank

/-- The items that satisfy a condition, and the others. -/
def partition (c : Collection μ) (p : Value → Bool) : Collection μ × Collection μ :=
  (c.findBy p, c.notBy p)

def every (c : Collection μ) (p : Value → Bool) : Bool := c.items.all p

def any (c : Collection μ) (p : Value → Bool) : Bool := c.items.any p

def firstWhere (c : Collection μ) (p : Value → Bool) : Option Value := c.findOneBy p

def lastWhere (c : Collection μ) (p : Value → Bool) : Option Value := c.items.reverse.find? p

def indexOf (c : Collection μ) (p : Value → Bool) : Option Nat := c.items.findIdx? p

end Dossier.Collection
