import FilterPrep.FlagSet

/-!
# Condition trees

A condition is the constant `true`, a flag, or a combination by negation, conjunction and
disjunction. `render` writes a tree with all its brackets, `eval` folds it over a flag set.
-/

namespace FilterPrep.Condition

inductive Expr where
  | truth
  | flag (name : Text)
  | not (operand : Expr)
  | and (left right : Expr)
  | or (left right : Expr)
  deriving DecidableEq, Repr

namespace Expr

/-- The tree of a single name: the word `true` is the constant. -/
def ofName (name : Text) : Expr := if name = "true".toList then truth else flag name

/-- The value of a condition; flags that are not enabled count as false. -/
def eval (flags : FlagSet) : Expr → Bool
  | truth => true
  | flag name => flags.isEnabled name
  | not operand => !operand.eval flags
  | and left right => left.eval flags && right.eval flags
  | or left right => left.eval flags || right.eval flags

/-- The text of a tree, with brackets around every conjunction and disjunction. -/
def render : Expr → Text
  | truth => "true".toList
  | flag name => name
  | not operand => '!' :: operand.render
  | and left right => '(' :: left.render ++ " && ".toList ++ right.render ++ [')']
  | or left right => '(' :: left.render ++ " || ".toList ++ right.render ++ [')']

/-- The names of the flags that a condition reads, from left to right. -/
def flags : Expr → List Text
  | truth => []
  | flag name => [name]
  | not operand => operand.flags
  | and left right => left.flags ++ right.flags
  | or left right => left.flags ++ right.flags

end Expr

/-! ### Trees in prefix order -/

/-- One node of a tree, without its operands. -/
inductive Node where
  | truth
  | flag (name : Text)
  | not
  | and
  | or
  deriving DecidableEq, Repr

namespace Expr

def nodes : Expr → List Node
  | truth => [.truth]
  | flag name => [.flag name]
  | not operand => .not :: operand.nodes
  | and left right => .and :: (left.nodes ++ right.nodes)
  | or left right => .or :: (left.nodes ++ right.nodes)

/-- Puts one node in front of the trees that follow it; `none` when operands are missing. -/
def pushNode (node : Node) (operands : List Expr) : Option (List Expr) :=
  match node, operands with
  | .truth, rest => some (truth :: rest)
  | .flag name, rest => some (ofName name :: rest)
  | .not, operand :: rest => some (operand.not :: rest)
  | .and, left :: right :: rest => some (left.and right :: rest)
  | .or, left :: right :: rest => some (left.or right :: rest)
  | _, _ => none

def ofNodes? (nodes : List Node) : Option Expr :=
  match nodes.foldrM pushNode [] with
  | some [tree] => some tree
  | _ => none

end Expr

end FilterPrep.Condition
