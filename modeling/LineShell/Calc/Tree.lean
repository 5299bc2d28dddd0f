import LineShell.Calc.Chain

/-!
# Expression trees

An expression with its grouping made plain. A tree is grouped by precedence when every operator
binds at least as tightly on its left as it does itself, and more tightly on its right; so
operators of one tier group from the left. Read from left to right a tree is a chain, and a chain
has one tree that is grouped by precedence.

A tree has a value when every application in it has one. Otherwise some applications fail though
their operands have values; `firstFailure?` names the one that comes first when applications are
ordered by tier, and from left to right within a tier.

Main statements: `value?_node` and `toChain_node`, the equations of an application.
-/

namespace LineShell

namespace Calc

/-- An expression with its grouping. -/
inductive Tree where
  /-- A number. -/
  | number (d : Decimal)
  /-- An operator applied to what two expressions come to. -/
  | node (o : Operator) (left right : Tree)
deriving DecidableEq, Repr

/-- How tightly a tier binds. -/
def Tier.rank : Tier → Nat
  | powers => 2
  | products => 1
  | sums => 0

namespace Tree

/-- The chain that a tree is when it is read from left to right. -/
def toChain : Tree → Chain
  | number d => ⟨d, []⟩
  | node o l r => ⟨l.toChain.first, l.toChain.rest ++ (o, r.toChain.first) :: r.toChain.rest⟩

/-- Reading an application from left to right: the left operand, the operator, the right operand. -/
theorem toChain_node (o : Operator) (l r : Tree) :
    (node o l r).toChain =
      ⟨l.toChain.first, l.toChain.rest ++ (o, r.toChain.first) :: r.toChain.rest⟩ := rfl

/-! ### Grouping -/

/-- Whether a tree is a number or applies, last of all, an operator of this rank or a tighter
one. -/
def BindsAtLeast (rank : Nat) : Tree → Prop
  | number _ => True
  | node o _ _ => rank ≤ o.tier.rank

/-- The trees that are grouped by precedence. -/
inductive IsGrouped : Tree → Prop where
  /-- A number. -/
  | number (d : Decimal) : IsGrouped (.number d)
  /-- An application whose left operand binds as tightly as it does, and whose right operand binds
  more tightly. -/
  | node {o : Operator} {l r : Tree} (left : IsGrouped l) (right : IsGrouped r)
      (atLeft : l.BindsAtLeast o.tier.rank) (atRight : r.BindsAtLeast (o.tier.rank + 1)) :
      IsGrouped (.node o l r)

/-! ### Values -/

/-- The value of a tree, if every application in it has one. -/
def value? : Tree → Option Decimal
  | number d => some d
  | node o l r => do (o.apply (← l.value?) (← r.value?)).toOption

theorem value?_node (o : Operator) (l r : Tree) :
    (node o l r).value? =
      l.value?.bind fun a => r.value?.bind fun b => (o.apply a b).toOption := rfl

/-- The failure of an application whose operands have values. -/
def failureOf (o : Operator) : Option Decimal → Option Decimal → List Failure
  | some a, some b => match o.apply a b with
    | .ok _ => []
    | .error f => [f]
  | _, _ => []

/-- The failures of the applications of one tier, from left to right. -/
def failures (t : Tier) : Tree → List Failure
  | number _ => []
  | node o l r =>
      l.failures t ++ (if o.tier = t then failureOf o l.value? r.value? else []) ++ r.failures t

/-- The failure that comes first, by tier and then from left to right. -/
def firstFailure? (x : Tree) : Option Failure :=
  (x.failures .powers ++ x.failures .products ++ x.failures .sums).head?

end Tree

end Calc

end LineShell
