import Unflatten.Target.Basic

/-!
# Tokens of targets

The token of a target identifies it in a cache key. A descriptor is written with its name and its
identity, a bound reference like the object type that it is bound to, and an unbound one by its
name alone.
-/

set_option autoImplicit false

namespace Unflatten

def identityText (ident : Nat) : String :=
  String.ofList (Nat.toDigits 16 ident)

def descriptorToken (kind name : String) (ident : Nat) : String :=
  kind ++ ":" ++ name ++ "#" ++ identityText ident

namespace Target

mutual

def token (bindings : Bindings) : Target → String
  | scalar type => type.name
  | nullable inner => token bindings inner ++ "?"
  | enum type => descriptorToken "enum" type.name type.ident
  | any => "any"
  | dynamic => "dynamic"
  | object type => descriptorToken "object" type.name type.ident
  | reference ref =>
    match bindings.find? ref with
    | some type => descriptorToken "object" type.name type.ident
    | none => "unbound:" ++ ref.name
  | list element => "list<" ++ token bindings element ++ ">"
  | sequence ⟨ident, name, element, _, _⟩ =>
    descriptorToken "collection" name ident ++ "<" ++ token bindings element ++ ">"
  | map value => "map<" ++ token bindings value ++ ">"
  | dictionary ⟨ident, name, value, _, _⟩ =>
    descriptorToken "concrete-map" name ident ++ "<" ++ token bindings value ++ ">"
  | array element => "array<" ++ token bindings element ++ ">"
  | tuple slots => "tuple<" ++ Text.join "," (tokens bindings slots) ++ ">"

def tokens (bindings : Bindings) : List Target → List String
  | [] => []
  | slot :: rest => token bindings slot :: tokens bindings rest

end

end Target

end Unflatten
