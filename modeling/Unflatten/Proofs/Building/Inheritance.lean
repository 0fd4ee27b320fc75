import Mathlib.Data.List.Infix
import Unflatten.Proofs.Building.Merging

/-!
# Inherited properties

A type has the properties of all types that it extends, directly or not. They stand in the order of
descent, the oldest type first and the own properties last. A name that several types declare
belongs to the nearest of them alone: its property is the very one that this type has itself.
-/

set_option autoImplicit false

namespace Unflatten

theorem ObjectDefinition.declares_congr (definition : ObjectDefinition) {name other : String}
    (same : Text.equalIgnoringCase name other = true) :
    definition.declares name = definition.declares other := by
  rw [Text.equalIgnoringCase_iff] at same
  have alike (own : PropertyDefinition) :
      Text.equalIgnoringCase own.name name = Text.equalIgnoringCase own.name other := by
    rw [Bool.eq_iff_iff, Text.equalIgnoringCase_iff, Text.equalIgnoringCase_iff, same]
  simp only [declares, alike]

namespace Shape

/-! ## Lines of descent -/

/-- A type and all that it extends, the nearest first, up to one that extends nothing. -/
inductive Lineage (outline : ShapeOutline) : List ObjectDefinition → Prop where
  | root {definition : ObjectDefinition} (declared : definition ∈ outline.types)
      (noBase : definition.base = none) : Lineage outline [definition]
  | heir {definition parent : ObjectDefinition} {older : List ObjectDefinition} {name : String}
      (declared : definition ∈ outline.types) (extended : definition.base = some name)
      (named : typeKey name = typeKey parent.name) (line : Lineage outline (parent :: older)) :
      Lineage outline (definition :: parent :: older)

/-- The properties that the types of a line declare, from the oldest type to the nearest one, without
those whose names a nearer type declares again. -/
def lineProperties (line : List ObjectDefinition) : List PropertyDefinition :=
  (line.zip line.inits).reverse.flatMap fun (definition, nearer) =>
    definition.properties.filter fun own => !nearer.any (·.declares own.name)

theorem lineProperties_cons (definition : ObjectDefinition) (older : List ObjectDefinition) :
    lineProperties (definition :: older) =
      ((lineProperties older).filter fun own => !definition.declares own.name) ++
        definition.properties := by
  simp only [lineProperties, List.inits_cons, List.zip_cons_cons, List.zip_map_right,
    List.reverse_cons, ← List.map_reverse, List.flatMap_append, List.flatMap_map,
    List.filter_flatMap, List.filter_filter]
  simp

/-! ## What a shape makes of a property -/

/-- The text means the target among the types of the shape, where a reference may stand for the type
of a name to which it is bound. Of the names in the text all are found that the shape has types
of. -/
def Denotes (shape : Shape) (text : String) (target : Target) : Prop :=
  ∃ lookUp, readTarget lookUp text = .ok target ∧
    (∀ name found, lookUp name = some found →
      shape.lookUp name = some found ∨
        ∃ ref type, found = .reference ref ∧ shape.bindings.find? ref = some type ∧
          shape.lookUp name = some (.object type)) ∧
    ∀ name ∈ namesIn text, lookUp name = none → shape.lookUp name = none

/-- The property has the name, the visibility, the mark of a sink and the type of its definition. -/
def Declares (shape : Shape) (definition : PropertyDefinition) (property : Property) : Prop :=
  property = definition.declare property.target ∧ shape.Denotes definition.type property.target

theorem Declares.names {shape : Shape} {definitions : List PropertyDefinition}
    {properties : List Property} (each : List.Forall₂ shape.Declares definitions properties) :
    properties.map PropertyOf.name = definitions.map PropertyDefinition.name := by
  induction each with
  | nil => rfl
  | cons declares _ ih =>
      rw [List.map_cons, List.map_cons, ih, declares.1]
      rfl

/-- The property of the nearest type on the line that declares the name. -/
inductive Inherits (shape : Shape) (name : String) (property : Property) :
    List ObjectDefinition → Prop where
  | own {holder : ObjectDefinition} {older : List ObjectDefinition} {own : PropertyDefinition}
      {type : ObjectType} (isOwn : own ∈ holder.properties)
      (named : Text.equalIgnoringCase own.name name = true)
      (built : shape.lookUp holder.name = some (.object type))
      (member : property ∈ type.properties) (declares : shape.Declares own property) :
      Inherits shape name property (holder :: older)
  | handed {nearer : ObjectDefinition} {older : List ObjectDefinition}
      (silent : nearer.declares name = false) (later : Inherits shape name property older) :
      Inherits shape name property (nearer :: older)

variable {outline : ShapeOutline} {draft : Draft} {shape : Shape}
variable {definition : ObjectDefinition} {type : ObjectType}

/-- A shape with the types of a finished draft. -/
structure Finishes (outline : ShapeOutline) (draft : Draft) (shape : Shape) : Prop where
  complete : draft.Complete outline
  merged : draft.Merged
  types : shape.types = draft.built
  bindings : shape.bindings = draft.bindings

theorem ofOutline_finishes {next left : Nat}
    (loaded : ofOutline next outline = .ok (shape, left)) :
    ∃ draft, Finishes outline draft shape := by
  rw [ofOutline_eq] at loaded
  cases built : (buildTypes outline).leaves { next } with
  | error failure =>
      rw [built] at loaded
      cases loaded
  | ok draft =>
      rw [built] at loaded
      have complete := buildTypes_complete built
      dsimp only [Except.bind] at loaded
      cases finished : finish outline draft with
      | error failure =>
          rw [finished] at loaded
          cases loaded
      | ok made =>
          rw [finished] at loaded
          cases loaded
          obtain ⟨types, bindings, -⟩ := (finish_meets complete).ends finished
          exact ⟨draft, complete, buildTypes_merged built, types, bindings⟩

namespace Finishes

theorem lookUp (finishes : Finishes outline draft shape) (name : String) :
    shape.lookUp name = draft.built.get? (typeKey name) := by
  rw [Shape.lookUp, finishes.types]

theorem declares (finishes : Finishes outline draft shape) {definition : PropertyDefinition}
    {property : Property} (holds : draft.Holds definition property) :
    shape.Declares definition property := by
  obtain ⟨same, lookUp, read, foresees, finds⟩ := holds
  refine ⟨same, lookUp, read, fun name found looked => ?_, fun name mentioned missing => ?_⟩
  · rw [finishes.lookUp, finishes.bindings]
    rcases foresees name found looked with built | ⟨ref, rfl, referenced⟩
    · exact Or.inl built
    · obtain ⟨type, bound, -⟩ := finishes.complete.knows ⟨typeKey name, referenced⟩
      have built := (finishes.complete.sound.bound referenced type).mp bound
      exact Or.inr ⟨ref, type, rfl, bound, built⟩
  · rw [finishes.lookUp]
    exact (finds name mentioned missing).1

theorem merges (finishes : Finishes outline draft shape) (declared : definition ∈ outline.types) :
    ∃ type, draft.built.get? (typeKey definition.name) = some (.object type) ∧
      draft.Merges definition type := by
  have isDefinition : TypeDefinition.object definition ∈ definitionsOf outline :=
    List.mem_append_left _ (List.mem_append_left _ (List.mem_map_of_mem declared))
  have defined := finishes.complete.defined.mpr ⟨isDefinition, rfl⟩
  obtain ⟨target, built⟩ := finishes.complete.built defined
  obtain ⟨type, rfl⟩ := (finishes.complete.sound.named defined built).2 rfl
  obtain ⟨again, isAgain, merges⟩ := finishes.merged _ type built
  cases defined.symm.trans isAgain
  exact ⟨type, built, merges⟩

/-- What a type extends is required first, so that every line comes to an end. -/
theorem lineage (finishes : Finishes outline draft shape) (declared : definition ∈ outline.types) :
    ∃ older, Lineage outline (definition :: older) := by
  obtain ⟨type, built, -⟩ := finishes.merges declared
  obtain ⟨same, defined, -⟩ := finishes.merged _ type built
  have settled := finishes.complete.sound.settled defined built
  clear same defined built type
  generalize isKey : typeKey definition.name = key at settled
  induction settled generalizing definition with
  | intro key _ ih =>
      obtain ⟨type, built, given, own, -, hands, -⟩ := finishes.merges declared
      obtain ⟨again, defined, -⟩ := finishes.merged _ type built
      have isDefinition : TypeDefinition.object definition ∈ definitionsOf outline :=
        List.mem_append_left _ (List.mem_append_left _ (List.mem_map_of_mem declared))
      have defined := finishes.complete.defined.mpr ⟨isDefinition, rfl⟩
      cases hands with
      | none noBase => exact ⟨[], .root declared noBase⟩
      | @base name base extended baseBuilt =>
          obtain ⟨parent, parentDefined, -⟩ := finishes.merged _ base baseBuilt
          obtain ⟨isParent, parentKey⟩ := finishes.complete.defined.mp parentDefined
          have parentDeclared : parent ∈ outline.types := by
            simpa [definitionsOf] using isParent
          have requires : Requires draft.definitions key (typeKey name) := by
            refine ⟨_, isKey ▸ defined, mem_requirements.mpr (Or.inr ?_)⟩
            exact ⟨name, extended, rfl, _, parentDefined⟩
          obtain ⟨older, line⟩ := ih _ requires parentDeclared parentKey
          exact ⟨parent :: older, .heir declared extended parentKey.symm line⟩

end Finishes

/-! ## Own properties -/

section Own

variable {definitions : List PropertyDefinition} {own : List Property} {name : String}

theorem filter_own_none (holds : List.Forall₂ draft.Holds definitions own)
    (silent : ∀ one ∈ definitions, Text.equalIgnoringCase one.name name = false) :
    own.filter (fun property => Text.equalIgnoringCase property.name name) = [] := by
  induction holds with
  | nil => rfl
  | @cons one property rest others same later ih =>
      obtain ⟨here, behind⟩ := List.forall_mem_cons.mp silent
      have named : property.name = one.name := by rw [same.1]; rfl
      rw [List.filter_cons_of_neg (by rw [named, here]; exact Bool.false_ne_true), ih behind]

theorem filter_own (holds : List.Forall₂ draft.Holds definitions own)
    (distinct : definitions.Pairwise fun one other =>
      Text.equalIgnoringCase one.name other.name = false)
    (declared : definitions.any (fun one => Text.equalIgnoringCase one.name name) = true) :
    ∃ one ∈ definitions, ∃ property, Text.equalIgnoringCase one.name name = true ∧
      draft.Holds one property ∧
      own.filter (fun property => Text.equalIgnoringCase property.name name) = [property] := by
  induction holds with
  | nil => cases declared
  | @cons one property rest others same later ih =>
      obtain ⟨here, behind⟩ := List.pairwise_cons.mp distinct
      have named : property.name = one.name := by rw [same.1]; rfl
      by_cases isOne : Text.equalIgnoringCase one.name name = true
      · have silent : ∀ other ∈ rest, Text.equalIgnoringCase other.name name = false := by
          intro other member
          rw [Bool.eq_false_iff]
          intro isOther
          have alike := Text.equalIgnoringCase_trans isOne (Text.equalIgnoringCase_symm isOther)
          rw [here other member] at alike
          cases alike
        refine ⟨one, List.mem_cons_self, property, isOne, same, ?_⟩
        rw [List.filter_cons_of_pos (by rw [named]; exact isOne), filter_own_none later silent]
      · rw [List.any_cons, Bool.eq_false_iff.mpr isOne, Bool.false_or] at declared
        obtain ⟨other, member, found, isOther, holds, only⟩ := ih behind declared
        refine ⟨other, List.mem_cons_of_mem _ member, found, isOther, holds, ?_⟩
        rw [List.filter_cons_of_neg (by rw [named]; exact isOne), only]

theorem filter_handed (definition : ObjectDefinition) (given : List Property) (name : String) :
    (given.filter fun property => !definition.declares property.name).filter
        (fun property => Text.equalIgnoringCase property.name name) =
      if definition.declares name then []
      else given.filter fun property => Text.equalIgnoringCase property.name name := by
  have sameName (property : Property) :
      (Text.equalIgnoringCase property.name name && !definition.declares property.name) =
        (Text.equalIgnoringCase property.name name && !definition.declares name) := by
    cases same : Text.equalIgnoringCase property.name name with
    | false => rfl
    | true => rw [definition.declares_congr same]
  rw [List.filter_filter]
  simp only [sameName]
  cases definition.declares name with
  | false => simp
  | true => simp

end Own

/-! ## Lines -/

namespace Finishes

variable {line older : List ObjectDefinition} {name : String}

section Types

variable (finishes : Finishes outline draft shape) (declared : definition ∈ outline.types)
variable (built : draft.built.get? (typeKey definition.name) = some (.object type))
include finishes declared built

theorem root_properties (noBase : definition.base = none) :
    List.Forall₂ draft.Holds definition.properties type.properties := by
  obtain ⟨again, isAgain, given, own, properties, hands, holds⟩ := finishes.merges declared
  cases built.symm.trans isAgain
  cases hands with
  | none => rwa [properties, List.nil_append]
  | base extended => cases noBase.symm.trans extended

theorem heir_properties {baseName : String} (extended : definition.base = some baseName) :
    ∃ base own, draft.built.get? (typeKey baseName) = some (.object base) ∧
      type.properties =
        (base.properties.filter fun property => !definition.declares property.name) ++ own ∧
      List.Forall₂ draft.Holds definition.properties own := by
  obtain ⟨again, isAgain, given, own, properties, hands, holds⟩ := finishes.merges declared
  cases built.symm.trans isAgain
  cases hands with
  | none noBase => cases noBase.symm.trans extended
  | @base other base isBase baseBuilt =>
      cases extended.symm.trans isBase
      exact ⟨base, own, baseBuilt, properties, holds⟩

end Types

theorem lineProperties (finishes : Finishes outline draft shape) (lineage : Lineage outline line)
    (isLine : line = definition :: older)
    (built : draft.built.get? (typeKey definition.name) = some (.object type)) :
    List.Forall₂ draft.Holds (Shape.lineProperties line) type.properties := by
  induction lineage generalizing definition older type with
  | root declared noBase =>
      cases isLine
      have holds := finishes.root_properties declared built noBase
      simpa [lineProperties_cons, Shape.lineProperties] using holds
  | heir declared extended named line ih =>
      cases isLine
      obtain ⟨base, own, baseBuilt, properties, holds⟩ :=
        finishes.heir_properties declared built extended
      have above := ih rfl (named ▸ baseBuilt)
      rw [lineProperties_cons, properties]
      refine List.rel_append ?_ holds
      refine List.rel_filter (fun one property same => ?_) above
      have named : property.name = one.name := by rw [same.1]; rfl
      simp only [named]

theorem inherits_own {given own : List Property} (finishes : Finishes outline draft shape)
    (distinct : definition.properties.Pairwise fun one other =>
      Text.equalIgnoringCase one.name other.name = false)
    (built : draft.built.get? (typeKey definition.name) = some (.object type))
    (properties : type.properties = given ++ own)
    (holds : List.Forall₂ draft.Holds definition.properties own)
    (declares : definition.declares name = true) :
    ∃ property, shape.Inherits name property (definition :: older) ∧
      own.filter (fun other => Text.equalIgnoringCase other.name name) = [property] := by
  obtain ⟨one, isOne, property, named, holdsOne, only⟩ := filter_own holds distinct declares
  have isOwn : property ∈ own := List.mem_of_mem_filter (only ▸ List.mem_singleton_self _)
  have member : property ∈ type.properties := properties ▸ List.mem_append_right _ isOwn
  have looked := (finishes.lookUp definition.name).trans built
  exact ⟨property, .own isOne named looked member (finishes.declares holdsOne), only⟩

/-- By induction on the line: a type either declares the name itself, and then lets go of the base's
property, or has what its base has. -/
theorem inherits (finishes : Finishes outline draft shape)
    (distinct : ∀ definition ∈ outline.types, definition.properties.Pairwise fun one other =>
      Text.equalIgnoringCase one.name other.name = false)
    (lineage : Lineage outline line) (isLine : line = definition :: older)
    (built : draft.built.get? (typeKey definition.name) = some (.object type))
    (declared : ∃ ancestor ∈ line, ancestor.declares name = true) :
    ∃ property, shape.Inherits name property line ∧
      type.properties.filter (fun other => Text.equalIgnoringCase other.name name) =
        [property] := by
  induction lineage generalizing definition older type with
  | root isDeclared noBase =>
      cases isLine
      obtain ⟨ancestor, isAncestor, declares⟩ := declared
      obtain rfl := List.mem_singleton.mp isAncestor
      exact finishes.inherits_own (distinct _ isDeclared) built (List.nil_append _).symm
        (finishes.root_properties isDeclared built noBase) declares
  | @heir definition parent older _ isDeclared extended named line ih =>
      cases isLine
      obtain ⟨base, own, baseBuilt, properties, holds⟩ :=
        finishes.heir_properties isDeclared built extended
      rw [properties, List.filter_append, filter_handed]
      cases declares : definition.declares name with
      | true =>
          obtain ⟨property, inherits, only⟩ :=
            finishes.inherits_own (distinct _ isDeclared) built properties holds declares
          exact ⟨property, inherits, by simp [only]⟩
      | false =>
          have silent : own.filter (fun other => Text.equalIgnoringCase other.name name) = [] :=
            filter_own_none holds fun one member => by
              simpa using List.any_eq_false.mp declares one member
          obtain ⟨ancestor, isAncestor, declaresAbove⟩ := declared
          have above : ancestor ∈ parent :: older := by
            rcases List.mem_cons.mp isAncestor with rfl | above
            · rw [declares] at declaresAbove
              cases declaresAbove
            · exact above
          obtain ⟨property, inherits, only⟩ :=
            ih rfl (named ▸ baseBuilt) ⟨ancestor, above, declaresAbove⟩
          exact ⟨property, .handed declares inherits, by simp [silent, only]⟩

end Finishes

/-! ## Shapes -/

/-- Every type of a shape has a line of descent that ends. For each line, however long, its
properties are those that the types of the line declare and no nearer one declares again, in the
order of descent, and for every name that is declared on the line it has one property, which is the
one of the nearest type that declares the name. -/
theorem ofOutline_inherits {next left : Nat}
    (loaded : ofOutline next outline = .ok (shape, left))
    (distinct : ∀ definition ∈ outline.types, definition.properties.Pairwise fun one other =>
      Text.equalIgnoringCase one.name other.name = false)
    (declared : definition ∈ outline.types) :
    (∃ older, Lineage outline (definition :: older)) ∧
    ∀ older, Lineage outline (definition :: older) → ∃ type,
      shape.lookUp definition.name = some (.object type) ∧
      List.Forall₂ shape.Declares (lineProperties (definition :: older)) type.properties ∧
      ∀ ancestor ∈ definition :: older, ∀ own ∈ ancestor.properties, ∃ property,
        shape.Inherits own.name property (definition :: older) ∧
        type.properties.filter (fun other => Text.equalIgnoringCase other.name own.name) =
          [property] := by
  obtain ⟨draft, finishes⟩ := ofOutline_finishes loaded
  refine ⟨finishes.lineage declared, fun older lineage => ?_⟩
  obtain ⟨type, built, -⟩ := finishes.merges declared
  refine ⟨type, (finishes.lookUp definition.name).trans built, ?_, ?_⟩
  · exact (finishes.lineProperties lineage rfl built).imp fun _ _ holds => finishes.declares holds
  · intro ancestor isAncestor own isOwn
    have declares : ancestor.declares own.name = true :=
      List.any_eq_true.mpr ⟨own, isOwn, Text.equalIgnoringCase_refl own.name⟩
    exact finishes.inherits distinct lineage rfl built ⟨ancestor, isAncestor, declares⟩

/-! ## Vessels

A ferry is a ship and a ship is a vessel. The ship declares the length of a vessel anew, in other
letters and as one that is not to be written.
-/

namespace Vessels

def plain (name type : String) : PropertyDefinition :=
  ⟨name, type, false, false, false, false⟩

def vessel : ObjectDefinition :=
  ⟨"Vessel", true, none, [plain "Name" "string", plain "Length" "int32"], [], none, none, []⟩

def ship : ObjectDefinition :=
  ⟨"Ship", false, some "vessel",
    [plain "Sister" "Ferry?", ⟨"LENGTH", "int64", false, true, false, false⟩], [], none, none, []⟩

def ferry : ObjectDefinition :=
  ⟨"Ferry", false, some "SHIP", [plain "Cars" "int32"], [], none, none, []⟩

def fleet : ShapeOutline :=
  ⟨"Ferry", {}, [], [], [ferry, ship, vessel], [], []⟩

theorem descent : Lineage fleet [ferry, ship, vessel] := by
  have isVessel : vessel ∈ fleet.types := by simp [fleet]
  have isShip : ship ∈ fleet.types := by simp [fleet]
  have isFerry : ferry ∈ fleet.types := by simp [fleet]
  exact .heir isFerry rfl (by decide) (.heir isShip rfl (by decide) (.root isVessel rfl))

theorem distinct : ∀ definition ∈ fleet.types, definition.properties.Pairwise fun one other =>
    Text.equalIgnoringCase one.name other.name = false := by
  decide +kernel

theorem loads : ∃ shape left, ofOutline 0 fleet = .ok (shape, left) := by
  have succeeds : (ofOutline 0 fleet).isOk = true := by decide +kernel
  cases loaded : ofOutline 0 fleet with
  | error failure =>
      rw [loaded] at succeeds
      cases succeeds
  | ok made => exact ⟨made.1, made.2, rfl⟩

end Vessels

theorem Vessels.length_inherited : ∃ shape left type property,
    ofOutline 0 Vessels.fleet = .ok (shape, left) ∧
    shape.lookUp "Ferry" = some (.object type) ∧
    type.properties.map PropertyOf.name = ["Name", "Sister", "LENGTH", "Cars"] ∧
    type.properties.filter (fun other => Text.equalIgnoringCase other.name "Length") = [property] ∧
    property.isWritable = false := by
  obtain ⟨shape, left, loaded⟩ := Vessels.loads
  have isFerry : Vessels.ferry ∈ Vessels.fleet.types := by simp [Vessels.fleet]
  obtain ⟨type, looked, holds, each⟩ :=
    (ofOutline_inherits loaded Vessels.distinct isFerry).2 _ Vessels.descent
  obtain ⟨property, inherits, only⟩ := each Vessels.vessel (by simp) (Vessels.plain "Length" "int32")
    (by simp [Vessels.vessel])
  refine ⟨shape, left, type, property, loaded, looked, ?_, only, ?_⟩
  · rw [Declares.names holds]
    decide +kernel
  · cases inherits with
    | own isOwn named =>
        obtain rfl := List.mem_singleton.mp isOwn
        exact absurd named (by decide +kernel)
    | handed _ inherits =>
        cases inherits with
        | own isOwn named _ _ declares =>
            rcases List.mem_cons.mp isOwn with rfl | isOwn
            · exact absurd named (by decide +kernel)
            · obtain rfl := List.mem_singleton.mp isOwn
              rw [declares.1]
              rfl
        | handed silent => exact absurd silent (by decide +kernel)

end Shape

end Unflatten
