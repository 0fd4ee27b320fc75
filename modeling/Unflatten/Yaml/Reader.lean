import Unflatten.Markup
import Unflatten.Yaml.Lexeme

/-!
# Reading YAML

A document is built from lexemes by recursive descent. A block collection goes on as long as its
entries or keys stand in its column; what belongs to an entry or a key stands further right, but the
entries of a list may stand in the column of their key. The depth of the descent is bounded by the
count of lexemes.
-/

set_option autoImplicit false

namespace Unflatten.Yaml

def emptyNode : Markup := .plain ""

/-- A plain scalar with the lines that continue it. -/
def foldPlain (least : Nat) (text : String) : List Lexeme → String × List Lexeme
  | ⟨column, .plain more⟩ :: rest =>
    if least ≤ column then foldPlain least (text ++ " " ++ more) rest
    else (text, ⟨column, .plain more⟩ :: rest)
  | rest => (text, rest)

abbrev Found (α : Type) := Option (α × List Lexeme)

mutual

/-- A node inside flow brackets; nothing stands for the empty scalar. -/
def flowNode : Nat → List Lexeme → Found Markup
  | 0, _ => none
  | limit + 1, lexemes =>
    match lexemes with
    | ⟨_, .plain text⟩ :: rest =>
      let folded := foldPlain 0 text rest
      some (.plain folded.1, folded.2)
    | ⟨_, .quoted text⟩ :: rest => some (.string text, rest)
    | ⟨_, .openList⟩ :: rest =>
      (flowItems limit rest).map fun (items, rest) => (.list items, rest)
    | ⟨_, .openMap⟩ :: rest =>
      (flowEntries limit rest).map fun (entries, rest) => (.mapping entries, rest)
    | ⟨_, .comma⟩ :: _ => some (emptyNode, lexemes)
    | ⟨_, .closeList⟩ :: _ => some (emptyNode, lexemes)
    | ⟨_, .closeMap⟩ :: _ => some (emptyNode, lexemes)
    | _ => none

/-- Items up to the closing bracket. An item with a colon is a mapping of one entry. -/
def flowItems : Nat → List Lexeme → Found (List Markup)
  | 0, _ => none
  | limit + 1, lexemes =>
    match lexemes with
    | ⟨_, .closeList⟩ :: rest => some ([], rest)
    | ⟨_, .comma⟩ :: _ => none
    | _ =>
      match flowNode limit lexemes with
      | none => none
      | some (item, ⟨_, .colon⟩ :: rest) =>
        match item.text?, flowNode limit rest with
        | some key, some (value, rest) => flowMore limit (.mapping [(key, value)]) rest
        | _, _ => none
      | some (item, rest) => flowMore limit item rest

/-- What follows an item: a comma and further items, or the closing bracket. -/
def flowMore : Nat → Markup → List Lexeme → Found (List Markup)
  | 0, _, _ => none
  | limit + 1, item, lexemes =>
    match lexemes with
    | ⟨_, .comma⟩ :: rest =>
      (flowItems limit rest).map fun (items, rest) => (item :: items, rest)
    | ⟨_, .closeList⟩ :: rest => some ([item], rest)
    | _ => none

/-- Entries up to the closing brace. A key without a colon has the empty scalar for its value. -/
def flowEntries : Nat → List Lexeme → Found (List (String × Markup))
  | 0, _ => none
  | limit + 1, lexemes =>
    match lexemes with
    | ⟨_, .closeMap⟩ :: rest => some ([], rest)
    | ⟨_, .comma⟩ :: _ => none
    | _ =>
      match flowNode limit lexemes with
      | none => none
      | some (node, rest) =>
        match node.text? with
        | none => none
        | some key =>
          match rest with
          | ⟨_, .colon⟩ :: rest =>
            match flowNode limit rest with
            | none => none
            | some (value, rest) => flowMoreEntries limit (key, value) rest
          | _ => flowMoreEntries limit (key, emptyNode) rest

def flowMoreEntries :
    Nat → String × Markup → List Lexeme → Found (List (String × Markup))
  | 0, _, _ => none
  | limit + 1, entry, lexemes =>
    match lexemes with
    | ⟨_, .comma⟩ :: rest =>
      (flowEntries limit rest).map fun (entries, rest) => (entry :: entries, rest)
    | ⟨_, .closeMap⟩ :: rest => some ([entry], rest)
    | _ => none

end

mutual

/-- A node that stands in the column `least` or further right; otherwise there is none. -/
def blockNode (least : Nat) : Nat → List Lexeme → Found Markup
  | 0, _ => none
  | limit + 1, lexemes =>
    match lexemes with
    | [] => some (emptyNode, [])
    | ⟨column, kind⟩ :: rest =>
      if column < least then some (emptyNode, lexemes)
      else
        match kind with
        | .entry =>
          (blockItems column limit lexemes).map fun (items, rest) => (.list items, rest)
        | .key _ =>
          (blockEntries column limit lexemes).map fun (entries, rest) => (.mapping entries, rest)
        | .plain text =>
          let folded := foldPlain least text rest
          some (.plain folded.1, folded.2)
        | .quoted text => some (.string text, rest)
        | .openList => flowNode limit lexemes
        | .openMap => flowNode limit lexemes
        | _ => none

def blockItems (column : Nat) : Nat → List Lexeme → Found (List Markup)
  | 0, _ => none
  | limit + 1, lexemes =>
    match lexemes with
    | ⟨here, .entry⟩ :: rest =>
      if here = column then
        match blockNode (column + 1) limit rest with
        | none => none
        | some (item, rest) =>
          (blockItems column limit rest).map fun (items, rest) => (item :: items, rest)
      else some ([], lexemes)
    | _ => some ([], lexemes)

def blockEntries (column : Nat) : Nat → List Lexeme → Found (List (String × Markup))
  | 0, _ => none
  | limit + 1, lexemes =>
    match lexemes with
    | ⟨here, .key key⟩ :: rest =>
      if here = column then
        match blockValue column limit rest with
        | none => none
        | some (value, rest) =>
          (blockEntries column limit rest).map fun (entries, rest) => ((key, value) :: entries, rest)
      else some ([], lexemes)
    | _ => some ([], lexemes)

def blockValue (column : Nat) : Nat → List Lexeme → Found Markup
  | 0, _ => none
  | limit + 1, lexemes =>
    match lexemes with
    | ⟨here, .entry⟩ :: _ =>
      if here = column then
        (blockItems column limit lexemes).map fun (items, rest) => (.list items, rest)
      else blockNode (column + 1) limit lexemes
    | _ => blockNode (column + 1) limit lexemes

end

/-- One document with nothing behind it but the mark of its end. -/
def ofLexemes? (lexemes : List Lexeme) : Option Markup :=
  let body :=
    match lexemes with
    | ⟨_, .documentStart⟩ :: rest => rest
    | _ => lexemes
  match blockNode 0 (4 * lexemes.length + 4) body with
  | some (document, []) => some document
  | some (document, [⟨_, .documentEnd⟩]) => some document
  | _ => none

def read? (text : String) : Option Markup :=
  (lexemes? text).bind ofLexemes?

end Unflatten.Yaml
