import Unflatten.Number.Digits

/-!
# Lexemes of YAML

The scanner cuts a text into scalars, keys and marks and notes their columns. It keeps the depth of
flow brackets and whether a block collection may start where it stands: at the start of a line and
behind the dash of an entry. Anchors, tags, block scalars and complex keys are refused.
-/

set_option autoImplicit false

namespace Unflatten.Yaml

inductive Kind where
  | entry
  | key (text : String)
  | plain (text : String)
  | quoted (text : String)
  | openList
  | closeList
  | openMap
  | closeMap
  | comma
  | colon
  | documentStart
  | documentEnd
  deriving DecidableEq, Repr

structure Lexeme where
  column : Nat
  kind : Kind
  deriving DecidableEq, Repr

/-- Texts are kept backwards and remember their first column. `afterQuoted` waits for the colon of
a key, `folding` counts the line ends within a text. -/
inductive Mode where
  | gap
  | comment
  | plain (start : Nat) (reversed : List Char)
  | single (start : Nat) (reversed : List Char)
  | singleQuote (start : Nat) (reversed : List Char)
  | double (start : Nat) (reversed : List Char)
  | escape (start : Nat) (reversed : List Char)
  | hex (start : Nat) (reversed : List Char) (digits value : Nat)
  | folding (isDouble : Bool) (start : Nat) (reversed : List Char) (lines : Nat)
  | afterQuoted (start : Nat) (text : String)

structure State where
  mode : Mode := .gap
  column : Nat := 0
  depth : Nat := 0
  mayStart : Bool := true
  isSpaced : Bool := true
  skip : Nat := 0

def isSpace (c : Char) : Bool :=
  c = ' ' || c = '\t'

def isBreak (c : Char) : Bool :=
  c = '\n' || c = '\r'

def isFlowMark (c : Char) : Bool :=
  c = ',' || c = '[' || c = ']' || c = '\x7b' || c = '\x7d'

def endsToken (next : Option Char) : Bool :=
  match next with
  | none => true
  | some c => isSpace c || isBreak c

def reservedStarts : List Char :=
  ['&', '*', '!', '|', '>', '%', '@', '\x60', ',']

abbrev Step := Option (List Lexeme × State)

namespace State

def advanced (state : State) : State :=
  { state with column := state.column + 1, isSpaced := false }

def onSpace (state : State) : State :=
  { state with column := state.column + 1, isSpaced := true }

def onBreak (state : State) : State :=
  { state with mode := .gap, column := 0, mayStart := state.depth == 0, isSpaced := true }

def mark (state : State) (kind : Kind) : Step :=
  some ([⟨state.column, kind⟩], { state.advanced with mayStart := false })

/-- A scalar in front of a colon is a key, in a flow collection it is followed by a colon. -/
def close (state : State) (start : Nat) (kind : Kind) (text : String) (hasColon : Bool) : Step :=
  if 0 < state.depth then
    some (⟨start, kind⟩ :: if hasColon then [⟨state.column, .colon⟩] else [],
      { state.advanced with mode := .gap })
  else if hasColon then
    if state.mayStart then
      some ([⟨start, .key text⟩], { state.advanced with mode := .gap, mayStart := false })
    else none
  else some ([⟨start, kind⟩], { state with mode := .gap, mayStart := false })

/-- A character between tokens; `rest` is what follows it. Tabs do not indent. -/
def stepGap (state : State) (c : Char) (rest : List Char) : Step :=
  let next := rest.head?
  if isSpace c then
    if c = '\t' && state.depth = 0 && state.mayStart then none else some ([], state.onSpace)
  else if isBreak c then some ([], state.onBreak)
  else if c = '#' then
    if state.isSpaced then some ([], { state.advanced with mode := .comment }) else none
  else if c = '"' then some ([], { state.advanced with mode := .double state.column [] })
  else if c = '\'' then some ([], { state.advanced with mode := .single state.column [] })
  else if c = '[' then
    (state.mark .openList).map fun (out, state) => (out, { state with depth := state.depth + 1 })
  else if c = '\x7b' then
    (state.mark .openMap).map fun (out, state) => (out, { state with depth := state.depth + 1 })
  else if c = ']' || c = '\x7d' then
    if state.depth = 0 then none
    else
      (state.mark (if c = ']' then .closeList else .closeMap)).map fun (out, state) =>
        (out, { state with depth := state.depth - 1 })
  else if c = ',' && 0 < state.depth then state.mark .comma
  else if c = ':' && 0 < state.depth then state.mark .colon
  else if c = ':' && endsToken next then none
  else if c = '?' && (0 < state.depth || endsToken next) then none
  else if c = '-' && endsToken next then
    if state.depth = 0 && state.mayStart then
      some ([⟨state.column, .entry⟩], state.advanced)
    else none
  else if c ∈ reservedStarts then none
  else some ([], { state.advanced with mode := .plain state.column [c] })

def plainText (reversed : List Char) : String :=
  String.ofList (reversed.dropWhile isSpace).reverse

def stepPlain (state : State) (start : Nat) (reversed : List Char) (c : Char)
    (rest : List Char) : Step :=
  let text := plainText reversed
  if c = ':' && endsToken rest.head? then state.close start (.plain text) text true
  else if c = ':' && 0 < state.depth && (rest.head?.map isFlowMark).getD false then none
  else
    let isEnd :=
      isBreak c || (0 < state.depth && isFlowMark c) ||
        (c = '#' && (reversed.head?.map isSpace).getD false)
    if isEnd then
      let closed := { state with mode := .gap, mayStart := false, isSpaced := c = '#' }
      (closed.stepGap c rest).map fun (out, state) => (⟨start, .plain text⟩ :: out, state)
    else some ([], { state.advanced with mode := .plain start (c :: reversed) })

def escaped? : Char → Option Char
  | '0' => some '\x00'
  | 'a' => some '\x07'
  | 'b' => some '\x08'
  | 't' => some '\t'
  | '\t' => some '\t'
  | 'n' => some '\n'
  | 'v' => some '\x0b'
  | 'f' => some '\x0c'
  | 'r' => some '\r'
  | 'e' => some '\x1b'
  | ' ' => some ' '
  | '"' => some '"'
  | '/' => some '/'
  | '\\' => some '\\'
  | 'N' => some '\x85'
  | '_' => some '\xa0'
  | 'L' => some '\u2028'
  | 'P' => some '\u2029'
  | _ => none

def hexLength? : Char → Option Nat
  | 'x' => some 2
  | 'u' => some 4
  | 'U' => some 8
  | _ => none

/-- Line ends within a quoted text become one blank, or one line end less than there are. -/
def folded (reversed : List Char) (lines : Nat) : List Char :=
  if lines = 1 then ' ' :: reversed else List.replicate (lines - 1) '\n' ++ reversed

def startFold (state : State) (isDouble : Bool) (start : Nat) (reversed : List Char) : State :=
  { state with
    mode := .folding isDouble start (reversed.dropWhile isSpace) 1
    column := 0 }

def stepSingle (state : State) (start : Nat) (reversed : List Char) (c : Char) : State :=
  if c = '\'' then { state.advanced with mode := .singleQuote start reversed }
  else if c = '\n' then state.startFold false start reversed
  else { state.advanced with mode := .single start (c :: reversed) }

def stepDouble (state : State) (start : Nat) (reversed : List Char) (c : Char) : State :=
  if c = '"' then
    { state.advanced with mode := .afterQuoted start (String.ofList reversed.reverse) }
  else if c = '\\' then { state.advanced with mode := .escape start reversed }
  else if c = '\n' then state.startFold true start reversed
  else { state.advanced with mode := .double start (c :: reversed) }

/-- Behind a quoted text: a colon makes it a key, also behind blanks. -/
def stepAfterQuoted (state : State) (start : Nat) (text : String) (c : Char)
    (rest : List Char) : Step :=
  if isSpace c then some ([], state.onSpace)
  else if c = ':' && (0 < state.depth || endsToken rest.head?) then
    state.close start (.quoted text) text true
  else
    let closed := { state with mode := .gap, mayStart := false }
    (closed.stepGap c rest).map fun (out, state) => (⟨start, .quoted text⟩ :: out, state)

def isMarker (c : Char) (chars : List Char) : Bool :=
  chars.take 3 == [c, c, c] && endsToken (chars.drop 3).head?

def step (state : State) (c : Char) (rest : List Char) : Step :=
  match state.mode with
  | .gap =>
    if state.column = 0 && state.depth = 0 && isMarker '-' (c :: rest) then
      some ([⟨0, .documentStart⟩], { state.advanced with mayStart := false, skip := 2 })
    else if state.column = 0 && state.depth = 0 && isMarker '.' (c :: rest) then
      some ([⟨0, .documentEnd⟩], { state.advanced with mayStart := false, skip := 2 })
    else state.stepGap c rest
  | .comment => some ([], if isBreak c then state.onBreak else state.advanced)
  | .plain start reversed => state.stepPlain start reversed c rest
  | .single start reversed => some ([], state.stepSingle start reversed c)
  | .singleQuote start reversed =>
    if c = '\'' then some ([], { state.advanced with mode := .single start ('\'' :: reversed) })
    else state.stepAfterQuoted start (String.ofList reversed.reverse) c rest
  | .double start reversed => some ([], state.stepDouble start reversed c)
  | .escape start reversed =>
    if c = '\n' then
      some ([], { state with mode := .folding true start reversed 0, column := 0 })
    else
      match escaped? c, hexLength? c with
      | some plain, _ => some ([], { state.advanced with mode := .double start (plain :: reversed) })
      | none, some digits => some ([], { state.advanced with mode := .hex start reversed digits 0 })
      | none, none => none
  | .hex start reversed digits value =>
    match Digits.hexValue? c with
    | none => none
    | some digit =>
      let value := 16 * value + digit
      if digits ≤ 1 then
        if value.isValidChar then
          some ([], { state.advanced with mode := .double start (Char.ofNat value :: reversed) })
        else none
      else some ([], { state.advanced with mode := .hex start reversed (digits - 1) value })
  | .folding isDouble start reversed lines =>
    if c = '\n' then
      some ([], { state with mode := .folding isDouble start reversed (lines + 1), column := 0 })
    else if isSpace c || c = '\r' then some ([], state.advanced)
    else
      let text := if lines = 0 then reversed else folded reversed lines
      some ([], if isDouble then state.stepDouble start text c else state.stepSingle start text c)
  | .afterQuoted start text => state.stepAfterQuoted start text c rest

/-- The end of the text, which no quoted text and no flow collection may reach. -/
def finish (state : State) : Option (List Lexeme) :=
  if 0 < state.depth then none
  else
    match state.mode with
    | .gap => some []
    | .comment => some []
    | .plain start reversed => some [⟨start, .plain (plainText reversed)⟩]
    | .singleQuote start reversed => some [⟨start, .quoted (String.ofList reversed.reverse)⟩]
    | .afterQuoted start text => some [⟨start, .quoted text⟩]
    | _ => none

end State

def scan (state : State) : List Char → Option (List Lexeme)
  | [] => state.finish
  | c :: rest =>
    if 0 < state.skip then
      scan { state with skip := state.skip - 1, column := state.column + 1 } rest
    else
      match state.step c rest with
      | none => none
      | some (out, next) => (scan next rest).map (out ++ ·)

def lexemes? (text : String) : Option (List Lexeme) :=
  scan {} text.toList

end Unflatten.Yaml
