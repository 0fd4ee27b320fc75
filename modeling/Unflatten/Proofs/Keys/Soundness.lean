import Unflatten.Custom
import Unflatten.MapperStore
import Unflatten.Proofs.Keys.Decoding
import Unflatten.Proofs.Keys.Mappers

/-!
# Keys are sound

Two requests with the same key ask for the same mapper: their targets differ only in references and
the types that these are bound to, their columns only in the names that providers give to types,
and their settings not at all.
-/

set_option autoImplicit false

namespace Unflatten

namespace Target

mutual

/-- The target with the object types in the place of the bound references that it is written
with. -/
def ground (bindings : Bindings) : Target → Target
  | nullable inner => nullable (ground bindings inner)
  | reference ref => (reference ref).resolve bindings
  | list element => list (ground bindings element)
  | map value => map (ground bindings value)
  | array element => array (ground bindings element)
  | tuple slots => tuple (groundAll bindings slots)
  | other => other

def groundAll (bindings : Bindings) : List Target → List Target
  | [] => []
  | slot :: rest => ground bindings slot :: groundAll bindings rest

end

section Ground

variable {bindings later : Bindings} {settings : Settings}

theorem ground_resolve (target : Target) :
    (target.resolve bindings).ground bindings = target.ground bindings := by
  cases target with
  | reference ref =>
      rw [ground, resolve]
      split
      · rw [ground]
        all_goals (intros; contradiction)
      · rename_i unbound
        rw [ground, resolve, unbound]
  | _ => rfl

theorem Alike.ground (one : Target) : ∀ other, one.AllBound bindings settings →
    Alike bindings later settings (one.resolve bindings) other →
      one.ground bindings = other.ground later := by
  refine inside_induction (fun one => ∀ other, one.AllBound bindings settings →
    Alike bindings later settings (one.resolve bindings) other →
      one.ground bindings = other.ground later) (fun one inside other bound alike => ?_) one
  have below : ∀ inner ∈ one.inside, ∀ another : Target,
      Alike bindings later settings (inner.resolve bindings) (another.resolve later) →
        inner.ground bindings = another.ground later := fun inner member another alike =>
    (inside inner member _ (bound.inside (Relation.ReflTransGen.single (inside_parts member)))
      alike).trans (ground_resolve another)
  cases one with
  | reference ref =>
      obtain ⟨type, found⟩ := Option.isSome_iff_exists.mp (bound ref Relation.ReflTransGen.refl)
      rw [resolve, found] at alike
      cases alike
      simp [Target.ground, resolve, found]
  | nullable inner =>
      cases alike with
      | nullable alike =>
          rw [Target.ground, Target.ground, below inner (by simp [Target.inside]) _ alike]
  | list element =>
      cases alike with
      | list alike =>
          rw [Target.ground, Target.ground, below element (by simp [Target.inside]) _ alike]
  | map value =>
      cases alike with
      | map alike =>
          rw [Target.ground, Target.ground, below value (by simp [Target.inside]) _ alike]
  | array element =>
      cases alike with
      | array alike =>
          rw [Target.ground, Target.ground, below element (by simp [Target.inside]) _ alike]
  | tuple slots =>
      cases alike with
      | @tuple _ others alike =>
          have all : groundAll bindings slots = groundAll later others := by
            have each : ∀ slot ∈ slots, ∀ another : Target,
                Alike bindings later settings (slot.resolve bindings) (another.resolve later) →
                  slot.ground bindings = another.ground later := below
            clear below inside bound
            induction alike with
            | nil => rfl
            | cons first _ ih =>
                rw [groundAll, groundAll, each _ (by simp) _ first,
                  ih fun slot member => each slot (by simp [member])]
          rw [Target.ground, Target.ground, all]
  | _ =>
      cases alike
      rfl

end Ground

end Target

/-- What a mapper is asked for, with the bindings that are in force. -/
structure Request where
  bindings : Bindings
  target : Target
  columns : List Column
  settings : Settings

namespace Request

def header (request : Request) : Header :=
  Header.ofColumns request.columns

def key (request : Request) : MapperKey :=
  MapperKey.of request.bindings request.target request.header request.settings

def site (request : Request) : Site :=
  Site.atRoot request.bindings request.target

def compile (request : Request) (strategy : Strategy) : Except Failure Mapper :=
  Mapper.make strategy request.bindings request.target request.header request.settings

/-- All that has an identity stands at it. -/
structure Held (memory : Memory) (request : Request) : Prop where
  target : request.target.Held memory request.bindings request.settings
  settings : request.settings.Held memory

def AllBound (request : Request) : Prop :=
  request.target.AllBound request.bindings request.settings

/-- Held requests whose unbound references have names without marks. -/
structure Clear (memory : Memory) (request : Request) : Prop where
  held : request.Held memory
  plain : ∀ ref, request.target.Reaches request.bindings request.settings (.reference ref) →
    request.bindings.find? ref = none → Text.IsPlain ref.name.toList

/-- No object type that both requests reach has references bound in two ways. -/
def Steady (one other : Request) : Prop :=
  ∀ type, one.target.Reaches one.bindings one.settings (.object type) →
    other.target.Reaches other.bindings other.settings (.object type) →
    (Target.object type).Steady one.bindings other.bindings one.settings

section Keys

variable {memory : Memory} {one other : Request}

theorem Held.clear (held : one.Held memory) (bound : one.AllBound) : one.Clear memory := by
  refine ⟨held, fun ref reached unbound => ?_⟩
  have found := bound ref reached
  rw [unbound] at found
  cases found

theorem settings_of_key (held : one.Held memory) (alsoHeld : other.Held memory)
    (same : one.key = other.key) : one.settings = other.settings :=
  Settings.eq_of_identity held.settings alsoHeld.settings (congrArg MapperKey.settings same)

theorem matches_of_key (same : one.key = other.key) : Header.Matches one.header other.header :=
  Header.matches_of_signature (congrArg MapperKey.columns same)

theorem alike_of_key (clear : one.Clear memory) (alsoClear : other.Clear memory)
    (steady : one.Steady other) (same : one.key = other.key) :
    Target.Alike one.bindings other.bindings one.settings (one.target.resolve one.bindings)
      (other.target.resolve other.bindings) := by
  have agreed := settings_of_key clear.held alsoClear.held same
  obtain ⟨bindings, target, columns, settings⟩ := one
  obtain ⟨later, another, others, configured⟩ := other
  simp only at agreed
  subst agreed
  exact Target.alike_of_token ⟨⟨clear.held.target, clear.plain⟩,
    ⟨alsoClear.held.target, alsoClear.plain⟩, steady⟩ (congrArg MapperKey.target same)

theorem compile_concurs (clear : one.Clear memory) (alsoClear : other.Clear memory)
    (steady : one.Steady other) (same : one.key = other.key) {strategy : Strategy}
    (indifferent : strategy.Indifferent one.site other.site) :
    Concurs Mapper.Interchangeable (one.compile strategy) (other.compile strategy) := by
  have agreed := settings_of_key clear.held alsoClear.held same
  have made := Mapper.make_concurs (matches_of_key same)
    (alike_of_key clear alsoClear steady same) indifferent
  rwa [compile, compile, ← agreed]

end Keys

end Request

/-! ## Two requests for linked nodes -/

namespace Links

/-- A name that is written like the end of a token and the start of another. -/
def nodeName : String := "Node#1>,list<a?"

def link : Reference := ⟨7, "NODE#1>,list<a?"⟩

def node : ObjectType :=
  ObjectTypeOf.declare 1 nodeName false
    [{ name := "Id", target := .scalar (.int .int32) },
      { name := "Next", target := .reference link }] 2 []

def bindings : Bindings := [(7, node)]

def shout : CustomRule :=
  RuleDefinition.toRule { name := "shout", source := some .string, action := .upper } 3

def settings : Settings := { rules := [shout] }

def memory : Memory := fun ident =>
  if ident = 1 then some (.descriptor (.object node))
  else if ident = 3 then some (.rule shout)
  else none

/-- The elements are written as references. -/
def byReference : Request :=
  ⟨bindings, .list (.reference link), [⟨"Id", .int .int32, "INTEGER"⟩], settings⟩

def byType : Request :=
  ⟨bindings, .list (.object node), [⟨"Id", .int .int32, "int4"⟩], settings⟩

example : link.bind node [] = .ok bindings := by
  rfl

/-- All that either request reaches. -/
inductive Reached : Target → Prop where
  | references : Reached (.list (.reference link))
  | nodes : Reached (.list (.object node))
  | reference : Reached (.reference link)
  | node : Reached (.object node)
  | number : Reached (.scalar (.int .int32))

theorem reached_closed (outer : Target) (reached : Reached outer) :
    ∀ part ∈ outer.parts bindings settings, Reached part := by
  cases reached with
  | references => simpa [Target.parts] using Reached.reference
  | nodes => simpa [Target.parts] using Reached.node
  | reference =>
      have found : bindings.find? link = some node := rfl
      simpa [Target.parts, found] using Reached.node
  | node =>
      have parts : (Target.object node).parts bindings settings =
          [.scalar (.int .int32), .reference link] := rfl
      rw [parts]
      simpa using And.intro Reached.number Reached.reference
  | number => simp [Target.parts]

theorem held {target inner : Target} {ident : Nat} (start : Reached target)
    (reached : target.Reaches bindings settings inner) (described : inner.ident? = some ident) :
    memory ident = some (.descriptor inner) := by
  cases reached.within Reached start reached_closed with
  | node =>
      cases described
      rfl
  | references | nodes | reference | number => cases described

theorem all_bound {target : Target} (start : Reached target) :
    target.AllBound bindings settings := by
  intro ref reached
  generalize same : Target.reference ref = inner at reached
  cases reached.within Reached start reached_closed with
  | reference =>
      cases same
      rfl
  | references | nodes | node | number => cases same

theorem settings_held : settings.Held memory where
  rules := by
    intro rule member
    obtain rfl : rule = shout := by simpa [settings] using member
    rfl
  types := by simp [settings]

end Links

namespace Links

/-- Admits a list only if its elements are written as references. -/
def ofReferences (site : Site) : Bool :=
  match site.target with
  | .list (.reference _) => true
  | _ => false

def guarded : Strategy := .guarded ofReferences .standard

end Links

end Unflatten
