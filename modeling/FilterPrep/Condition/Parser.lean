import FilterPrep.Condition.Expr
import FilterPrep.Condition.Token

/-!
# Reading conditions

`||` binds loosest, then `&&`, then `!`; chains of one operator group to the left. The reader goes
through the tokens once. For the place it stands at and for every open bracket around it, it keeps
what has been read of that group: the disjunction left of the last `||`, the conjunction left of
the last `&&` and the number of pending negations.
-/

namespace FilterPrep.Condition

inductive SyntaxError where
  /-- An operand is missing. -/
  | emptyCondition
  | incorrectBrackets (condition : Text)
  /-- A token that cannot stand where it does, `offset` bytes into the condition. -/
  | unexpectedToken (token : Text) (offset : Nat) (condition : Text)
  deriving DecidableEq, Repr

def SyntaxError.message : SyntaxError → Text
  | emptyCondition => "Empty condition".toList
  | incorrectBrackets condition => "Incorrect brackets: ".toList ++ condition
  | unexpectedToken token offset condition =>
    "Unexpected '".toList ++ token ++ "' at ".toList ++ Text.ofNat offset ++
      " in condition: ".toList ++ condition

/-- Reads on with `depth` brackets open. -/
def balancedFrom : (depth : Nat) → Text → Bool
  | depth, [] => depth == 0
  | depth, '(' :: t => balancedFrom (depth + 1) t
  | 0, ')' :: _ => false
  | depth + 1, ')' :: t => balancedFrom depth t
  | depth, _ :: t => balancedFrom depth t

/-- Whether no bracket closes before it opens and all of them are closed. -/
def bracketsBalanced (t : Text) : Bool := balancedFrom 0 t

/-- What has been read of a group up to the place where its next operand starts. -/
structure Group where
  disjunction : Option Expr
  conjunction : Option Expr
  negations : Nat

namespace Group

def start : Group := ⟨none, none, 0⟩

def negate (group : Group) : Group := { group with negations := group.negations + 1 }

/-- The conjunction that ends with the operand `last`. -/
def closeAnd (group : Group) (last : Expr) : Expr :=
  let operand := Nat.repeat Expr.not group.negations last
  match group.conjunction with
  | some left => left.and operand
  | none => operand

/-- The whole group, when it ends with the operand `last`. -/
def close (group : Group) (last : Expr) : Expr :=
  match group.disjunction with
  | some left => left.or (group.closeAnd last)
  | none => group.closeAnd last

/-- The group after its operand `last` and an `&&`. -/
def thenAnd (group : Group) (last : Expr) : Group :=
  ⟨group.disjunction, some (group.closeAnd last), 0⟩

/-- The group after its operand `last` and an `||`. -/
def thenOr (group : Group) (last : Expr) : Group := ⟨some (group.close last), none, 0⟩

end Group

mutual

/-- Reads on where an operand has to start, inside `group` and the open groups `outer`. -/
def readOperand (condition : Text) (outer : List Group) (group : Group) :
    List Token → Except SyntaxError Expr
  | [] => .error .emptyCondition
  | token :: tokens =>
    match token.kind with
    | .name => readOperator condition outer group (Expr.ofName token.text) tokens
    | .openBracket => readOperand condition (group :: outer) .start tokens
    | .not => readOperand condition outer group.negate tokens
    | _ => .error .emptyCondition

/-- Reads on behind the operand `last` of `group`. -/
def readOperator (condition : Text) (outer : List Group) (group : Group) (last : Expr) :
    List Token → Except SyntaxError Expr
  | [] => if outer.isEmpty then .ok (group.close last) else .error (.incorrectBrackets condition)
  | token :: tokens =>
    match token.kind, outer with
    | .and, _ => readOperand condition outer (group.thenAnd last) tokens
    | .or, _ => readOperand condition outer (group.thenOr last) tokens
    | .closeBracket, around :: outer =>
      readOperator condition outer around (group.close last) tokens
    | _, _ => .error (.unexpectedToken token.text token.offset condition)

end

/-- Reads a condition; white space around it does not matter. -/
def Expr.ofText (text : Text) : Except SyntaxError Expr :=
  let condition := Text.trim text
  if condition.isEmpty then .error .emptyCondition
  else if !bracketsBalanced condition then .error (.incorrectBrackets condition)
  else readOperand condition [] .start (Token.ofText condition)

def evaluate (flags : FlagSet) (text : Text) : Except SyntaxError Bool :=
  (Expr.ofText text).map (Expr.eval flags)

end FilterPrep.Condition
