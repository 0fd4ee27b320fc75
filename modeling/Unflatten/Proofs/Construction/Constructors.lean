import Unflatten.Proofs.Construction.Instances

/-!
# Constructors and assignments

A constructor that stores its arguments in the properties of their names is only another way to set
these properties: mapping with it and mapping without it give the same instance for every row, or
fail for the same rows. The constructor must not take untyped parameters, since an untyped property
whose column is taken is set to null again.
-/

set_option autoImplicit false

namespace Unflatten

section Implicit

variable {type : ObjectType} {header : Header} {settings : Settings}

/-- The same type with nothing but the constructor that every concrete type has. -/
def ObjectTypeOf.unconstructed (type : ObjectType) (ident implicit : Nat) : ObjectType :=
  ObjectTypeOf.declare ident type.name false type.properties implicit []

theorem ObjectTypeOf.IsFlat.unconstructed (flat : type.IsFlat) (ident implicit : Nat) :
    (type.unconstructed ident implicit).IsFlat :=
  ⟨rfl, flat.leaves, flat.assignable, flat.noSinks, flat.distinct⟩

theorem Header.Suits.unconstructed (suits : header.Suits type settings.separator)
    (ident implicit : Nat) :
    header.Suits (type.unconstructed ident implicit) settings.separator :=
  ⟨suits.indexed, suits.distinct, suits.noMembers⟩

theorem ObjectTypeOf.unconstructed_chooses (ident implicit : Nat) {own : Option TypePolicy}
    (unpreferred : own.bind TypePolicy.preferred = none) (view : View) :
    ∃ constructor, (type.unconstructed ident implicit).chooseConstructor own view settings =
        .ok constructor ∧
      constructor.Fills (type.unconstructed ident implicit) header := by
  refine ⟨⟨implicit, type.name, true, false, [], none⟩, ?_, ?_⟩
  · simp [unconstructed, declare, chooseConstructor, unpreferred, View.best?, View.score?]
  · exact ⟨rfl, by simp, by simp, by simp, by simp⟩

end Implicit

theorem Header.ofColumns_suits {columns : List Column} {type : ObjectType} {separator : String}
    (distinct : columns.Pairwise fun one other => foldName one.name ≠ foldName other.name)
    (noMembers : ∀ column ∈ Header.ofColumns columns, ∀ property ∈ type.properties,
      ¬ column.Extends property.name separator) :
    (Header.ofColumns columns).Suits type separator := by
  refine ⟨Header.ofColumns_wellIndexed columns, ?_, noMembers⟩
  have names : (Header.ofColumns columns).map HeaderColumn.folded =
      columns.map fun column => foldName column.name := by
    apply List.ext_getElem
    · simp [Header.ofColumns]
    · intro index _ _
      simp [Header.ofColumns]
  rw [← @List.pairwise_map _ _ HeaderColumn.folded (fun one other => one ≠ other), names,
    List.pairwise_map]
  exact distinct

/-! ## Contacts

A contact is made from its name, its number and a remark that may be of any type; what it is tagged
with is not for the constructor. The columns are in another case and in another order. -/

namespace Contacts

def making : Constructor :=
  { ident := 21, owner := "Contact"
    parameters :=
      [{ name := "NAME", target := .scalar .string },
        { name := "id", target := .scalar (.int .int32) },
        { name := "Remark", target := .nullable .any }] }

def contact : ObjectType :=
  { ident := 20, name := "Contact"
    properties :=
      [{ name := "Id", target := .scalar (.int .int32) },
        { name := "Name", target := .scalar .string },
        { name := "Tag", target := .any }, { name := "remark", target := .nullable .any }]
    constructors := [making] }

def columns : List Column :=
  [Column.declare "remark" (.int .int32), Column.declare "tag" .string,
    Column.declare "ID" (.int .int64), Column.declare "name" .string]

theorem contact_flat : contact.IsFlat where
  isConcrete := rfl
  leaves := by decide
  assignable := by decide
  noSinks := by decide
  distinct := by decide

theorem making_fills : making.Fills contact (Header.ofColumns columns) where
  stores := rfl
  areFor := by
    intro parameter member
    simp only [making, List.mem_cons, List.not_mem_nil, or_false] at member
    rcases member with rfl | rfl | rfl
    · exact ⟨{ name := "Name", target := .scalar .string }, by simp [contact], by decide, rfl⟩
    · exact ⟨{ name := "Id", target := .scalar (.int .int32) }, by simp [contact], by decide, rfl⟩
    · exact ⟨{ name := "remark", target := .nullable .any }, by simp [contact], by decide, rfl⟩
  typed := by decide
  sinks := by decide
  distinct := by decide

theorem making_chosen : contact.chooseConstructor none
    ⟨Header.ofColumns columns, Claims.none (Header.ofColumns columns), .root⟩ {} = .ok making := by
  rfl

end Contacts

/-- A row is mapped to the same instance whether its cells go through a constructor or are assigned,
for every constructor that the columns lead to. -/
theorem Mapper.map_constructed {settings : Settings} {types : Entries TypePolicy}
    {bindings : Bindings} {columns : List Column} {type : ObjectType} {constructor : Constructor}
    (flat : type.IsFlat)
    (distinct : columns.Pairwise fun one other => foldName one.name ≠ foldName other.name)
    (noMembers : ∀ column ∈ Header.ofColumns columns, ∀ property ∈ type.properties,
      ¬ column.Extends property.name settings.separator)
    (fills : constructor.Fills type (Header.ofColumns columns))
    (unmade : ∀ own, settings.ofType? type.name = some own →
      own.factory = none ∧ own.subtypes = [])
    (chosen : type.chooseConstructor (settings.ofType? type.name)
      ⟨Header.ofColumns columns, Claims.none (Header.ofColumns columns), .root⟩ settings =
        .ok constructor)
    (plain : ∀ own, types.get? type.name = some own →
      own.preferred = none ∧ own.factory = none ∧ own.subtypes = [])
    (ident implicit : Nat) :
    ∃ constructed assigned,
      Mapper.make .standard bindings (.object type) (Header.ofColumns columns) settings =
        .ok constructed ∧
      Mapper.make .standard bindings (.object (type.unconstructed ident implicit))
        (Header.ofColumns columns) { settings with types } = .ok assigned ∧
      ∀ row value, constructed.map row = .ok value ↔ assigned.map row = .ok value := by
  have suits := Header.ofColumns_suits distinct noMembers
  have unpreferred : (types.get? type.name).bind TypePolicy.preferred = none := by
    cases own : types.get? type.name with
    | none => rfl
    | some policy => exact (plain policy own).1
  obtain ⟨implicitly, alsoChosen, alsoFills⟩ :=
    @ObjectTypeOf.unconstructed_chooses type (Header.ofColumns columns) { settings with types }
      ident implicit _ unpreferred
      ⟨Header.ofColumns columns, Claims.none (Header.ofColumns columns), .root⟩
  obtain ⟨constructed, made, filled⟩ :=
    @Mapper.map_filled settings bindings columns type constructor flat suits fills unmade chosen
  obtain ⟨assigned, alsoMade, alsoFilled⟩ :=
    @Mapper.map_filled { settings with types } bindings columns (type.unconstructed ident implicit)
      implicitly (flat.unconstructed ident implicit) (suits.unconstructed ident implicit) alsoFills
      (fun own found => (plain own found).2) alsoChosen
  refine ⟨constructed, assigned, made, alsoMade, fun row value => ?_⟩
  rw [Except.ok_iff_toOption, Except.ok_iff_toOption, filled row, alsoFilled row]
  exact Iff.rfl

theorem Contacts.constructed_as_assigned :
    ∃ constructed assigned,
      Mapper.make .standard [] (.object Contacts.contact) (Header.ofColumns Contacts.columns) {} =
        .ok constructed ∧
      Mapper.make .standard [] (.object (Contacts.contact.unconstructed 22 23))
        (Header.ofColumns Contacts.columns) {} = .ok assigned ∧
      ∀ row value, constructed.map row = .ok value ↔ assigned.map row = .ok value :=
  @Mapper.map_constructed {} [] [] Contacts.columns Contacts.contact Contacts.making
    Contacts.contact_flat (by decide) (by decide) Contacts.making_fills
    (fun _ impossible => by cases impossible) Contacts.making_chosen
    (fun _ impossible => by cases impossible) 22 23

/-! ## Boxes

A box holds anything, and so does the parameter of its constructor. -/

namespace Boxes

def making : Constructor :=
  { ident := 31, owner := "Box", parameters := [{ name := "content", target := .any }] }

def box : ObjectType :=
  { ident := 30, name := "Box", properties := [{ name := "Content", target := .any }]
    constructors := [making] }

def columns : List Column :=
  [Column.declare "content" (.int .int32)]

def five : Value :=
  .int .int32 (FixedInt.wrapping .int32 5)

def row : Row :=
  ⟨columns, [five]⟩

def constructed : Except Failure Mapper :=
  Mapper.make .standard [] (.object box) (Header.ofColumns columns) {}

def assigned : Except Failure Mapper :=
  Mapper.make .standard [] (.object (box.unconstructed 32 33)) (Header.ofColumns columns) {}

def content (mapper : Mapper) : Except Failure (Option Int) :=
  (mapper.map row).map fun value => (value.field "Content").asInt?

theorem constructed_content : constructed.bind content = .ok none := by
  decide +kernel

theorem assigned_content : assigned.bind content = .ok (some 5) := by
  decide +kernel

end Boxes

/-- What is assigned to an untyped property is kept, but what a constructor has stored there is
replaced by null. -/
theorem Boxes.content_lost :
    Boxes.box.IsFlat ∧
      (∀ parameter ∈ Boxes.making.parameters, ∃ property ∈ Boxes.box.properties,
        parameter.IsFor property) ∧
      Boxes.box.chooseConstructor none
          ⟨Header.ofColumns Boxes.columns, Claims.none (Header.ofColumns Boxes.columns), .root⟩ {} =
        .ok Boxes.making ∧
      ¬ ∃ constructed assigned, Boxes.constructed = .ok constructed ∧
        Boxes.assigned = .ok assigned ∧
        ∀ row value, constructed.map row = .ok value ↔ assigned.map row = .ok value := by
  refine ⟨⟨rfl, by decide, by decide, by decide, by decide⟩, ?_, rfl, ?_⟩
  · intro parameter member
    obtain rfl := List.mem_singleton.mp member
    exact ⟨{ name := "Content", target := .any }, by simp [Boxes.box], by decide, rfl⟩
  · rintro ⟨constructed, assigned, made, alsoMade, same⟩
    have lost := Boxes.constructed_content
    have kept := Boxes.assigned_content
    rw [made] at lost
    rw [alsoMade] at kept
    obtain ⟨value, mapped, isEmpty⟩ := Except.map_eq_ok lost
    have alike : Boxes.content assigned = .ok none := by
      rw [Boxes.content, (same Boxes.row value).mp mapped]
      exact congrArg Except.ok isEmpty
    cases alike.symm.trans kept

end Unflatten
