import Unflatten.Condition.Lexeme

/-!
# Trees of conditions

The lexemes are inserted one after the other at the right edge of a tree. A new node goes below the
last operand as long as it binds more strongly than that, and else takes the last operand for its
own first one. Brackets start a tree of their own. Commas make tuples, and semicolons chains of
which the last value counts. An operator may be left with too few operands, which only shows when
the tree is evaluated.
-/

set_option autoImplicit false

namespace Unflatten.Condition

inductive Operator where
  | group
  | call (function : String)
  | negate
  | not
  | binary (op : BinaryOperator)
  | assign (isPlain : Bool)
  deriving DecidableEq, Repr

namespace Operator

def precedence : Operator → Nat
  | group => 200
  | call _ => 190
  | negate => 110
  | not => 110
  | assign _ => 50
  | binary op =>
    match op with
    | .power => 120
    | .multiply | .divide | .remainder => 100
    | .add | .subtract => 95
    | .equal | .different | .greater | .less | .greaterOrEqual | .lessOrEqual => 80
    | .and => 75
    | .or => 70

def takesOne : Operator → Bool
  | group | call _ | negate | not => true
  | binary _ | assign _ => false

/-- Whether of two such operators in a row the second one binds more strongly. -/
def chainsRight : Operator → Bool
  | call _ => true
  | assign isPlain => isPlain
  | _ => false

end Operator

inductive Node where
  | constant (datum : Datum)
  | variable (name : String)
  | assigned (name : String)
  | bare (op : Operator)
  | one (op : Operator) (first : Node)
  | two (op : Operator) (first second : Node)
  | tuple (items : List Node)
  | chain (items : List Node)

namespace Node

def operator? : Node → Option Operator
  | bare op => some op
  | one op _ => some op
  | two op _ _ => some op
  | _ => none

/-- Constants and names bind as strongly as brackets. -/
def precedence (node : Node) : Nat :=
  (node.operator?.map Operator.precedence).getD Operator.group.precedence

def chainsRight (node : Node) : Bool :=
  (node.operator?.map Operator.chainsRight).getD false

def isGroup (node : Node) : Bool :=
  node.operator? == some .group

def bindsWithin (new last : Node) : Bool :=
  last.precedence < new.precedence ||
    (last.precedence == new.precedence && last.chainsRight && new.chainsRight)

/-- The new node with the last operand for its first one. Brackets do not take operands from the
outside. -/
def takeOperand? (atTop : Bool) (new last : Node) : Option Node :=
  match new with
  | bare op => if op == .group && (atTop || last.isGroup) then none else some (one op last)
  | _ => none

def insert? (new : Node) : Node → Option Node
  | bare op => some (one op new)
  | one op first =>
    if op.takesOne then
      if new.bindsWithin first then (insert? new first).map (one op)
      else (takeOperand? false new first).map (one op)
    else some (two op first new)
  | two op first second =>
    if new.bindsWithin second then (insert? new second).map (two op first)
    else (takeOperand? false new second).map (two op first)
  | _ => none

/-- Insertion into what stands between two commas. -/
def insertItem? (item : Option Node) (new : Node) : Option Node :=
  match item with
  | none => some new
  | some last => if new.bindsWithin last then insert? new last else takeOperand? true new last

end Node

/-- What stands between two brackets so far: the items before the last semicolon, those before the
last comma, and the current one. The earlier ones are kept backwards. -/
structure Level where
  chain : List Node := []
  tuple : List Node := []
  item : Option Node := none

namespace Level

def itemNode (level : Level) : Node :=
  match level.item with
  | none => .bare .group
  | some node => .one .group node

def tupleNode (level : Level) : Node :=
  if level.tuple.isEmpty then level.itemNode
  else .tuple (level.tuple.reverse ++ [level.itemNode])

def node (level : Level) : Node :=
  if level.chain.isEmpty then
    if level.tuple.isEmpty then level.itemNode else .one .group level.tupleNode
  else .one .group (.chain (level.chain.reverse ++ [level.tupleNode]))

def insert? (level : Level) (new : Node) : Option Level :=
  (Node.insertItem? level.item new).map fun item => { level with item := some item }

end Level

def nodeOf (afterValue : Bool) (lexeme : Lexeme) (next : Option Lexeme) : Node :=
  match lexeme with
  | .constant datum => .constant datum
  | .minus => .bare (if afterValue then .binary .subtract else .negate)
  | .operator op => .bare (.binary op)
  | .not => .bare .not
  | .assign isPlain => .bare (.assign isPlain)
  | .word name =>
    match next with
    | none => .variable name
    | some next =>
      if next.isAssign then .assigned name
      else if next.startsValue then .bare (.call name)
      else .variable name
  | _ => .bare .group

/-- Builds a tree on the innermost level; `outer` are the levels around it. -/
def build? (afterValue : Bool) (level : Level) (outer : List Level) :
    List Lexeme → Option Node
  | [] => if outer.isEmpty then some level.node else none
  | lexeme :: rest =>
    match lexeme with
    | .opening => build? false {} (level :: outer) rest
    | .closing =>
      match outer with
      | [] => none
      | around :: others =>
        match around.insert? level.node with
        | some around => build? true around others rest
        | none => none
    | .comma => build? false { level with tuple := level.itemNode :: level.tuple, item := none } outer rest
    | .semicolon =>
      build? false { chain := level.tupleNode :: level.chain } outer rest
    | _ =>
      match level.insert? (nodeOf afterValue lexeme rest.head?) with
      | some level => build? lexeme.endsValue level outer rest
      | none => none

def tree? (text : String) : Option Node :=
  (lexemes? text).bind (build? false {} [])

end Unflatten.Condition
