import Unflatten.Program.Basic

/-!
# Programs as text

One line for each step, programs within steps one level deeper, and the register of the result in
the last line.
-/

set_option autoImplicit false

namespace Unflatten

def registerText (register : Register) : String :=
  "r" ++ Digits.text register

def registerList (registers : List Register) : String :=
  Text.join ", " (registers.map registerText)

def SequenceForm.word : SequenceForm → String
  | list => "List"
  | array => "Array"
  | tuple => "Tuple"

def indentation (depth : Nat) : String :=
  Text.repeated (2 * depth) ' '

mutual

def stepLines (depth : Nat) : Step → List String
  | .read column conversion into =>
    [indentation depth ++ registerText into ++ " = read #" ++ Digits.text column.index ++ " '"
      ++ column.name ++ "' via " ++ conversion.describe]
  | .constant value into =>
    [indentation depth ++ registerText into ++ " = constant " ++ value.display]
  | .construct _ constructor arguments into =>
    [indentation depth ++ registerText into ++ " = new " ++ constructor.signature ++ "["
      ++ registerList arguments ++ "]"]
  | .produce factory into =>
    [indentation depth ++ registerText into ++ " = factory " ++ factory.produces.name]
  | .reuse existing _ update create into =>
    (indentation depth ++ registerText into ++ " = reuse " ++ registerText existing)
      :: programLines (depth + 1) update
      ++ (indentation depth ++ "otherwise") :: programLines (depth + 1) create
  | .project source field into =>
    [indentation depth ++ registerText into ++ " = " ++ registerText source ++ "." ++ field]
  | .assign target field source =>
    [indentation depth ++ registerText target ++ "." ++ field ++ " = " ++ registerText source]
  | .startSequence type into =>
    [indentation depth ++ registerText into ++ " = new "
      ++ (type.map SequenceTypeOf.name).getD "list"]
  | .addItem _ target item =>
    [indentation depth ++ registerText target ++ " += " ++ registerText item]
  | .startMap type into =>
    [indentation depth ++ registerText into ++ " = new "
      ++ (type.map DictionaryTypeOf.name).getD "map"]
  | .addEntry _ target key item =>
    [indentation depth ++ registerText target ++ "[\"" ++ key ++ "\"] = " ++ registerText item]
  | .pack form items into =>
    [indentation depth ++ registerText into ++ " = " ++ form.word ++ "(" ++ registerList items
      ++ ")"]
  | .select branches fallback into =>
    (indentation depth ++ registerText into ++ " = select") :: branchLines depth branches
      ++ (indentation depth ++ "otherwise") :: programLines (depth + 1) fallback
  | .fail failure => [indentation depth ++ "fail: " ++ failure.message]

def stepsLines (depth : Nat) : List Step → List String
  | [] => []
  | step :: rest => stepLines depth step ++ stepsLines depth rest

def programLines (depth : Nat) : ProgramOf Step → List String
  | ⟨steps, result⟩ => stepsLines depth steps ++ [indentation depth ++ "=> " ++ registerText result]

def branchLines (depth : Nat) : List (BranchOf Step) → List String
  | [] => []
  | ⟨_, label, program⟩ :: rest =>
    (indentation depth ++ "when " ++ label) :: programLines (depth + 1) program
      ++ branchLines depth rest

end

def programText (program : Program) : String :=
  String.join ((programLines 0 program).map (· ++ "\n"))

end Unflatten
