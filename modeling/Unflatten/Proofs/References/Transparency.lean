import Unflatten.Custom
import Unflatten.Proofs.Keys.Mappers
import Unflatten.Proofs.References.Objects

/-!
# References are transparent

It makes no difference where a target is written with a bound reference and where with the type
itself. A target may be respelt in one place after the other, in what its references are bound to as
well, and there is either no mapper before and after, or the two map every row alike.
-/

set_option autoImplicit false

namespace Unflatten

/-! ## Spellings -/

/-- One place is spelt another way: a bound reference becomes its type or the type the reference.
The descriptors around the place are new ones, of which constructors build what they built before. -/
inductive Target.Replaced (settings : Settings) (bindings : Bindings) : Target → Target → Prop where
  | bound {ref : Reference} {type : ObjectType} (found : bindings.find? ref = some type) :
      Replaced settings bindings (.reference ref) (.object type)
  | named {ref : Reference} {type : ObjectType} (found : bindings.find? ref = some type) :
      Replaced settings bindings (.object type) (.reference ref)
  | nullable {inner other : Target} (replaced : Replaced settings bindings inner other) :
      Replaced settings bindings (.nullable inner) (.nullable other)
  | list {element other : Target} (replaced : Replaced settings bindings element other) :
      Replaced settings bindings (.list element) (.list other)
  | array {element other : Target} (replaced : Replaced settings bindings element other) :
      Replaced settings bindings (.array element) (.array other)
  | map {value other : Target} (replaced : Replaced settings bindings value other) :
      Replaced settings bindings (.map value) (.map other)
  | sequence (type : SequenceType) (ident : Nat) {element : Target}
      (replaced : Replaced settings bindings type.element element) :
      Replaced settings bindings (.sequence type) (.sequence { type with ident, element })
  | dictionary (type : DictionaryType) (ident : Nat) {value : Target}
      (replaced : Replaced settings bindings type.value value) :
      Replaced settings bindings (.dictionary type) (.dictionary { type with ident, value })
  | tuple (before after : List Target) {slot other : Target}
      (replaced : Replaced settings bindings slot other) :
      Replaced settings bindings (.tuple (before ++ slot :: after))
        (.tuple (before ++ other :: after))
  | property (type : ObjectType) (ident : Nat) {before after : List Property} {property : Property}
      (found : type.properties = before ++ property :: after) {target : Target}
      (replaced : Replaced settings bindings property.target target)
      (builds : type.BuildsAs settings
        { type with ident, properties := before ++ { property with target } :: after }) :
      Replaced settings bindings (.object type)
        (.object { type with ident, properties := before ++ { property with target } :: after })
  | parameter (type : ObjectType) (ident : Nat) {left right : List Constructor}
      {constructor : Constructor} (isConstructor : type.constructors = left ++ constructor :: right)
      (place : Nat) {before after : List Parameter} {parameter : Parameter}
      (found : constructor.parameters = before ++ parameter :: after) {target : Target}
      (replaced : Replaced settings bindings parameter.target target)
      (builds : type.BuildsAs settings
        { type with
          ident
          constructors := left ++ { constructor with
            ident := place
            parameters := before ++ { parameter with target } :: after } :: right }) :
      Replaced settings bindings (.object type)
        (.object { type with
          ident
          constructors := left ++ { constructor with
            ident := place
            parameters := before ++ { parameter with target } :: after } :: right })

/-- One target spelt another way in any number of places. -/
def Target.Respelt (settings : Settings) (bindings : Bindings) : Target → Target → Prop :=
  Relation.ReflTransGen (Target.Replaced settings bindings)

/-- The same references are bound, to types that may be spelt another way. -/
def Bindings.Respelt (settings : Settings) (bindings later : Bindings) : Prop :=
  ∀ ref, Option.Rel (fun type other =>
      Target.Respelt settings bindings (.object type) (.object other))
    (bindings.find? ref) (later.find? ref)

/-! ## Spellings are counterparts -/

theorem forall₂_single {α : Type} {related : α → α → Prop}
    (reflexive : ∀ entry, related entry entry) (before after : List α) {one other : α}
    (same : related one other) :
    List.Forall₂ related (before ++ one :: after) (before ++ other :: after) :=
  List.rel_append (List.forall₂_same.mpr fun entry _ => reflexive entry)
    (.cons same (List.forall₂_same.mpr fun entry _ => reflexive entry))

theorem forall₂_trans {α : Type} {related : α → α → Prop} {one other another : List α}
    (left : List.Forall₂ related one other) (right : List.Forall₂ related other another)
    (transitive : ∀ first second third, related first second → related second third →
      related first third) : List.Forall₂ related one another := by
  induction left generalizing another with
  | nil => exact right
  | cons first _ ih =>
      cases right with
      | cons second rest => exact .cons (transitive _ _ _ first second) (ih rest)

section Transitive

variable {related : Target → Target → Prop} {settings : Settings}
variable (transitive : ∀ first second third, related first second → related second third →
  related first third)
include transitive

theorem PropertyOf.Counterpart.trans {one other another : Property}
    (left : PropertyOf.Counterpart related one other)
    (right : PropertyOf.Counterpart related other another) :
    PropertyOf.Counterpart related one another :=
  ⟨right.name.trans left.name, transitive _ _ _ left.target right.target,
    right.isPublic.trans left.isPublic, right.isReadable.trans left.isReadable,
    right.isWritable.trans left.isWritable, right.isSink.trans left.isSink⟩

theorem ParameterOf.Counterpart.trans {one other another : Parameter}
    (left : ParameterOf.Counterpart related one other)
    (right : ParameterOf.Counterpart related other another) :
    ParameterOf.Counterpart related one another :=
  ⟨right.name.trans left.name, transitive _ _ _ left.target right.target,
    right.isSink.trans left.isSink⟩

theorem ConstructorOf.Counterpart.trans {one other another : Constructor}
    (left : ConstructorOf.Counterpart related one other)
    (right : ConstructorOf.Counterpart related other another) :
    ConstructorOf.Counterpart related one another :=
  ⟨right.isPublic.trans left.isPublic, right.isStatic.trans left.isStatic,
    forall₂_trans left.parameters right.parameters fun _ _ _ =>
      ParameterOf.Counterpart.trans transitive,
    right.body.trans left.body⟩

theorem ObjectTypeOf.Counterpart.trans {one other another : ObjectType}
    (left : ObjectTypeOf.Counterpart related settings one other)
    (right : ObjectTypeOf.Counterpart related settings other another) :
    ObjectTypeOf.Counterpart related settings one another where
  name := right.name.trans left.name
  isAbstract := right.isAbstract.trans left.isAbstract
  properties := forall₂_trans left.properties right.properties fun _ _ _ =>
    PropertyOf.Counterpart.trans transitive
  constructors := forall₂_trans left.constructors right.constructors fun _ _ _ =>
    ConstructorOf.Counterpart.trans transitive
  builds := by
    intro body member arguments
    have again : body ∈ other.bodies settings := by
      rw [left.bodies]
      exact member
    exact (right.builds body again arguments).trans (left.builds body member arguments)

theorem Target.Counterpart.trans {one other another : Target}
    (left : Target.Counterpart related settings one other)
    (right : Target.Counterpart related settings other another) :
    Target.Counterpart related settings one another := by
  cases left with
  | scalar | enum | any | dynamic | reference => exact right
  | nullable first =>
      cases right with
      | nullable second => exact .nullable (transitive _ _ _ first second)
  | object first =>
      cases right with
      | object second => exact .object (ObjectTypeOf.Counterpart.trans transitive first second)
  | list first =>
      cases right with
      | list second => exact .list (transitive _ _ _ first second)
  | sequence first =>
      cases right with
      | sequence second =>
          exact .sequence ⟨second.name.trans first.name,
            transitive _ _ _ first.element second.element, second.seed.trans first.seed,
            second.add.trans first.add⟩
  | map first =>
      cases right with
      | map second => exact .map (transitive _ _ _ first second)
  | dictionary first =>
      cases right with
      | dictionary second =>
          exact .dictionary ⟨second.name.trans first.name,
            transitive _ _ _ first.value second.value, second.seed.trans first.seed,
            second.insert.trans first.insert⟩
  | array first =>
      cases right with
      | array second => exact .array (transitive _ _ _ first second)
  | tuple first =>
      cases right with
      | tuple second => exact .tuple (forall₂_trans first second transitive)

end Transitive

section Respelt

variable {settings : Settings} {bindings later : Bindings} {one other : Target}

theorem Target.Replaced.counterpart (replaced : Target.Replaced settings bindings one other) :
    Target.Counterpart (Target.Respelt settings bindings) settings (one.resolve bindings)
      (other.resolve bindings) := by
  have reflexive : ∀ target, Target.Respelt settings bindings target target := fun _ => .refl
  have single {one other : Target} (replaced : Target.Replaced settings bindings one other) :
      Target.Respelt settings bindings one other := .single replaced
  cases replaced with
  | bound found | named found =>
      simp only [Target.resolve, found]
      exact Target.Counterpart.refl reflexive _
  | nullable inner => exact .nullable (single inner)
  | list inner => exact .list (single inner)
  | array inner => exact .array (single inner)
  | map inner => exact .map (single inner)
  | sequence type ident inner => exact .sequence ⟨rfl, single inner, rfl, rfl⟩
  | dictionary type ident inner => exact .dictionary ⟨rfl, single inner, rfl, rfl⟩
  | tuple before after inner => exact .tuple (forall₂_single reflexive before after (single inner))
  | @property type ident before after property found target inner builds =>
      have itself := @ObjectTypeOf.Counterpart.refl _ settings reflexive type
      refine .object ⟨rfl, rfl, ?_, itself.constructors, builds⟩
      rw [found]
      exact forall₂_single (PropertyOf.Counterpart.refl reflexive) before after
        ⟨rfl, single inner, rfl, rfl, rfl, rfl⟩
  | @parameter type ident left right constructor isConstructor place before after parameter found
      target inner builds =>
      have itself := @ObjectTypeOf.Counterpart.refl _ settings reflexive type
      refine .object ⟨rfl, rfl, itself.properties, ?_, builds⟩
      rw [isConstructor]
      refine forall₂_single (ConstructorOf.Counterpart.refl reflexive) left right
        ⟨rfl, rfl, ?_, rfl⟩
      rw [found]
      exact forall₂_single (ParameterOf.Counterpart.refl reflexive) before after
        ⟨rfl, single inner, rfl⟩

/-- By induction on the places that are respelt one after the other. -/
theorem Target.Respelt.counterpart (respelt : Target.Respelt settings bindings one other) :
    Target.Counterpart (Target.Respelt settings bindings) settings (one.resolve bindings)
      (other.resolve bindings) := by
  induction respelt with
  | refl => exact Target.Counterpart.refl (fun _ => .refl) _
  | tail _ replaced ih =>
      exact Target.Counterpart.trans (fun _ _ _ first second => first.trans second) ih
        replaced.counterpart

theorem Bindings.Respelt.counterpart (respelt : bindings.Respelt settings later)
    (target : Target) :
    Target.Counterpart (Target.Respelt settings bindings) settings (target.resolve bindings)
      (target.resolve later) := by
  cases target with
  | reference ref =>
      have both := respelt ref
      simp only [Target.resolve]
      generalize bindings.find? ref = found at both
      generalize later.find? ref = foundAgain at both
      cases both with
      | none => exact .reference ref
      | some same => exact same.counterpart
  | _ => exact Target.Counterpart.refl (fun _ => .refl) _

theorem Bindings.Respelt.unfolds (respelt : bindings.Respelt settings later) :
    Unfolds (Target.Respelt settings bindings) settings bindings later where
  refl _ := .refl
  step _ other same :=
    Target.Counterpart.trans (fun _ _ _ first second => first.trans second) same.counterpart
      (respelt.counterpart other)

end Respelt

/-! ## Mappers of other spellings -/

theorem Plan.ofTarget_unfolds {related : Target → Target → Prop} {settings : Settings}
    {bindings later : Bindings} (unfolds : Unfolds related settings bindings later)
    {one other : Target} (same : related one other) (header : Header) :
    Concurs (fun plan again => ∀ row existing, plan.run row existing = again.run row existing)
      (Plan.ofTarget .standard ⟨header, settings, bindings⟩ one)
      (Plan.ofTarget .standard ⟨header, settings, later⟩ other) := by
  have follows := @Planning.standard_follows related ⟨header, settings, bindings⟩ later unfolds
    (deepestLevel + 1)
  have planned := follows (Site.atRoot bindings one) (other.resolve later)
    (unfolds.step one other same) ⟨Claims.none header, existingRegister + 1⟩
  obtain ⟨passes, outcomes⟩ := planned
  have again : (Site.atRoot bindings one).toward (other.resolve later) = Site.atRoot later other :=
    rfl
  have rebound : (Environment.mk header settings bindings).rebound later =
    ⟨header, settings, later⟩ := rfl
  rw [again, rebound] at passes outcomes
  unfold Plan.ofTarget
  simp only [Planning.planWith]
  revert passes outcomes
  generalize Planning.standard ⟨header, settings, bindings⟩ (deepestLevel + 1)
    (Site.atRoot bindings one) ⟨Claims.none header, existingRegister + 1⟩ = left
  generalize Planning.standard ⟨header, settings, later⟩ (deepestLevel + 1)
    (Site.atRoot later other) ⟨Claims.none header, existingRegister + 1⟩ = right
  intro passes outcomes
  obtain ⟨outcome, pass⟩ := left
  obtain ⟨another, next⟩ := right
  obtain rfl : pass = next := passes
  cases outcomes with
  | error failure other => exact .error _ _
  | ok found =>
      cases found with
      | none => exact .error _ _
      | some equivalent =>
          refine .ok fun row existing => ?_
          have repeats := equivalent.repeats row
          rw [Plan.run, Plan.run, Plan.ofProgram, Plan.ofProgram, repeats.span, repeats.steps.runs,
            repeats.result]

/-- Wherever a target and the types that its references are bound to are written with references, or
with types in full: both spellings have no mapper, or their mappers map every row alike, onto every
value, if constructors build the same instances of either spelling. -/
theorem Mapper.make_respelt {settings : Settings} {bindings later : Bindings} {one other : Target}
    (respelt : Target.Respelt settings bindings one other) (bound : bindings.Respelt settings later)
    (columns : List Column) :
    Concurs Mapper.Interchangeable
      (Mapper.make .standard bindings one (Header.ofColumns columns) settings)
      (Mapper.make .standard later other (Header.ofColumns columns) settings) := by
  have plans := Plan.ofTarget_unfolds bound.unfolds respelt (Header.ofColumns columns)
  unfold Mapper.make
  generalize Plan.ofTarget .standard ⟨Header.ofColumns columns, settings, bindings⟩ one = left
    at plans
  generalize Plan.ofTarget .standard ⟨Header.ofColumns columns, settings, later⟩ other = right
    at plans
  cases plans with
  | error failure another => exact .error failure another
  | ok same => exact .ok ⟨fun row => same row .null, same⟩

/-! ## Branches

A branch has a left and a right branch. In the other spelling the right one is written in full,
which the constructor does not look at. -/

namespace Branches

def branchRef : Reference :=
  ⟨1, "Branch"⟩

def branch : ObjectType :=
  ObjectTypeOf.declare 1 "Branch" false
    [{ name := "name", target := .scalar .string },
      { name := "left", target := .reference branchRef },
      { name := "right", target := .reference branchRef }] 11
    [{ ident := 12, owner := "Branch", parameters := [], body := some (taggingBody "grown") }]

def bindings : Bindings :=
  [(branchRef.ident, branch)]

def inFull : ObjectType :=
  { branch with
    ident := 2
    properties :=
      [{ name := "name", target := .scalar .string },
        { name := "left", target := .reference branchRef },
        { name := "right", target := .object branch }] }

def later : Bindings :=
  [(branchRef.ident, inFull)]

def columns : List Column :=
  [Column.declare "name" .string, Column.declare "right_left_name" .string]

theorem branch_respelt : Target.Respelt {} bindings (.object branch) (.object inFull) := by
  have places : branch.properties =
      [{ name := "name", target := .scalar .string },
        { name := "left", target := .reference branchRef }] ++
      [{ name := "right", target := .reference branchRef }] := rfl
  have replaced : Target.Replaced {} bindings (.reference branchRef) (.object branch) := .bound rfl
  have builds : branch.BuildsAs {} inFull := by
    intro body member arguments
    rw [List.mem_singleton.mp member]
    rfl
  exact .single (.property branch 2 places replaced builds)

theorem bindings_respelt : bindings.Respelt {} later := by
  intro ref
  by_cases same : ref.ident = branchRef.ident
  · have found : bindings.find? ref = some branch ∧ later.find? ref = some inFull := by
      simp [Bindings.find?, bindings, later, same]
    rw [found.1, found.2]
    exact .some branch_respelt
  · have apart : (ref.ident == branchRef.ident) = false := beq_eq_false_iff_ne.mpr same
    have found : bindings.find? ref = none ∧ later.find? ref = none := by
      simp [Bindings.find?, bindings, later, List.lookup_cons, apart]
    rw [found.1, found.2]
    exact .none

end Branches

theorem Branches.interchangeable : ∃ mapper other,
    Mapper.make .standard Branches.bindings (.reference Branches.branchRef)
      (Header.ofColumns Branches.columns) {} = .ok mapper ∧
    Mapper.make .standard Branches.later (.object Branches.inFull)
      (Header.ofColumns Branches.columns) {} = .ok other ∧ mapper.Interchangeable other := by
  have respelt : Target.Respelt {} Branches.bindings (.reference Branches.branchRef)
      (.object Branches.inFull) := .head (.bound rfl) Branches.branch_respelt
  have both := Mapper.make_respelt respelt Branches.bindings_respelt Branches.columns
  have made : (Mapper.make .standard Branches.bindings (.reference Branches.branchRef)
      (Header.ofColumns Branches.columns) {}).isOk = true := by
    decide +kernel
  generalize Mapper.make .standard Branches.bindings (.reference Branches.branchRef)
    (Header.ofColumns Branches.columns) {} = left at both made
  generalize Mapper.make .standard Branches.later (.object Branches.inFull)
    (Header.ofColumns Branches.columns) {} = right at both
  cases both with
  | error => cases made
  | ok same => exact ⟨_, _, rfl, rfl, same⟩

/-! ## Jars

The constructor of a jar labels it with what its type says is in it. -/

namespace Jars

def itemRef : Reference :=
  ⟨1, "ITEM"⟩

def item : ObjectType :=
  ObjectTypeOf.declare 1 "Item" false [{ name := "Id", target := .scalar (.int .int32) }] 11 []

def bindings : Bindings :=
  [(itemRef.ident, item)]

def labelOf : TargetForm → String
  | .reference ref => ref.name
  | .object type => type.name
  | _ => ""

def labelling : InstanceBuilder := fun type _ =>
  type.properties.foldl
    (fun object property => object.set "Label" (.string (labelOf property.target))) type.blank

def content : Property :=
  { name := "Content", target := .reference itemRef }

def jar : ObjectType :=
  ObjectTypeOf.declare 2 "Jar" false [content] 12
    [{ ident := 21, owner := "Jar", parameters := [], body := some labelling }]

def inFull : ObjectType :=
  { jar with ident := 3, properties := [{ content with target := .object item }] }

def columns : List Column :=
  [Column.declare "Content_Id" (.int .int32)]

def row : Row :=
  ⟨columns, [.int .int32 (FixedInt.wrapping .int32 5)]⟩

def mapper? (type : ObjectType) : Except Failure Mapper :=
  Mapper.make .standard bindings (.object type) (Header.ofColumns columns) {}

/-- Whether the row is mapped to a jar with the label of the reference. -/
def isReferred (mapper : Mapper) : Except Failure Bool :=
  (mapper.map row).map fun value => (value.field "Label").asString? == some "ITEM"

theorem isReferred_eq : (mapper? jar).bind isReferred = .ok true ∧
    (mapper? inFull).bind isReferred = .ok false := by
  decide +kernel

end Jars

/-- The reference is bound to a type of its name, and the mappers of both spellings disagree. -/
theorem Jars.label_told : Jars.itemRef.bind Jars.item [] = .ok Jars.bindings ∧
    Jars.bindings.find? Jars.itemRef = some Jars.item ∧
    Jars.jar.properties = [Jars.content] ∧
    Jars.content.target = .reference Jars.itemRef ∧
    ∃ mapper other, Jars.mapper? Jars.jar = .ok mapper ∧
      Jars.mapper? Jars.inFull = .ok other ∧
      mapper.map Jars.row ≠ other.map Jars.row := by
  have named : Text.equalIgnoringCase Jars.item.name Jars.itemRef.name = true := by
    decide +kernel
  have bound : Jars.itemRef.bind Jars.item [] = .ok Jars.bindings := by
    rw [Reference.bind, named]
    rfl
  refine ⟨bound, rfl, rfl, rfl, ?_⟩
  obtain ⟨asReference, asObject⟩ := Jars.isReferred_eq
  obtain ⟨mapper, direct, isMapper, isDirect, apart⟩ :=
    Except.bind_apart asReference asObject Bool.false_ne_true.symm
  refine ⟨mapper, direct, isMapper, isDirect, fun same => apart ?_⟩
  rw [Jars.isReferred, Jars.isReferred, same]

end Unflatten
