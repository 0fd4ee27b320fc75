import Unflatten.Mapper
import Unflatten.Proofs.Nesting.Shallow
import Unflatten.Proofs.Scopes.Groups

/-!
# Nesting ends by narrowing

Each member puts at least two bytes more in front of the names in its scope, and on the way to it
at most two levels are spent: one for a container and one for the member. A scope in which there
are columns is in front of their names, so where names are short recursive types run out of columns
long before they run out of levels.
-/

set_option autoImplicit false

namespace Unflatten

/-! ## Lengths -/

namespace Scope

/-- The bytes that a name in the scope has at least, and one more where there is a member. -/
def taken (scope : Scope) : Nat :=
  match scope.exact with
  | none => 0
  | some exact => Text.byteLength exact.toList + 1

def leadLength (scope : Scope) : Nat :=
  Text.byteLength scope.lead.toList

variable {scope : Scope} {name separator : String}

theorem member_taken (scope : Scope) (name separator : String) :
    (scope.member name separator).taken = scope.leadLength + foldedLength name + 1 := by
  simp [member, taken, leadLength, foldedLength]

theorem member_leadLength (scope : Scope) (name separator : String) :
    (scope.member name separator).leadLength =
      scope.leadLength + foldedLength name + foldedLength separator := by
  simp [member, leadLength, foldedLength, Nat.add_assoc]

theorem taken_le_of_contains {column : HeaderColumn} (led : scope.taken ≤ scope.leadLength)
    (contains : scope.contains column = true) :
    scope.taken ≤ Text.byteLength column.folded.toList + 1 := by
  rw [Scope.contains, Bool.and_eq_true, Bool.or_eq_true, Bool.and_eq_true] at contains
  rcases contains.2 with exact | ⟨leads, -⟩
  · rw [beq_iff_eq] at exact
    rw [taken, exact]
  · have within := Text.byteLength_le_of_prefix (List.isPrefixOf_iff_prefix.mp leads)
    rw [leadLength] at led
    omega

end Scope

/-! ## Shapes that narrow -/

namespace Target

/-- A leaf or an object type. -/
def IsSingle (target : Target) : Prop :=
  match target with
  | object _ => True
  | reference _ => True
  | other => other.isLeaf = true

/-- A leaf, an object type with named members and no sinks, a sequence of such or a map. What is in
the parts is not said here. -/
def Narrows (settings : Settings) : Target → Prop
  | object type =>
    (∀ property ∈ type.properties, property.name ≠ "" ∧ property.isSink = false) ∧
    ∀ constructor, UsableConstructor settings type constructor →
      ∀ parameter ∈ constructor.parameters, parameter.name ≠ "" ∧ parameter.isSink = false
  | list element => element.IsSingle
  | array element => element.IsSingle
  | sequence type => type.element.IsSingle
  | map _ => True
  | dictionary _ => True
  | reference _ => True
  | other => other.isLeaf = true

theorem IsSingle.resolve {target : Target} (single : target.IsSingle) (bindings : Bindings) :
    (target.resolve bindings).IsSingle := by
  cases target with
  | reference ref =>
      rw [Target.resolve]
      split
      · trivial
      · trivial
  | _ => exact single

end Target

namespace Planning

section Containers

variable {bindings : Bindings} {settings : Settings} {whole inner : Target}

theorem IsElement.narrows (isElement : IsElement whole inner) (narrows : whole.Narrows settings) :
    ¬ whole.IsSingle ∧ inner.IsSingle ∧ inner ∈ whole.parts bindings settings := by
  rcases isElement with rfl | rfl | ⟨type, rfl, rfl⟩
  · exact ⟨by simp [Target.IsSingle, Target.isLeaf, Target.leaf?], narrows, by simp [Target.parts]⟩
  · exact ⟨by simp [Target.IsSingle, Target.isLeaf, Target.leaf?], narrows, by simp [Target.parts]⟩
  · exact ⟨by simp [Target.IsSingle, Target.isLeaf, Target.leaf?], narrows, by simp [Target.parts]⟩

theorem IsEntry.part (isEntry : IsEntry whole inner) : inner ∈ whole.parts bindings settings := by
  rcases isEntry with rfl | ⟨type, rfl, rfl⟩
  · simp [Target.parts]
  · simp [Target.parts]

end Containers

/-- The names in the scope are longer with each member, and no member is in front at the root. -/
structure Led (site : Site) : Prop where
  lead : site.scope.taken ≤ site.scope.leadLength
  root : site.isRoot = true → site.scope.taken = 0

/-- So many levels are enough for the site. An object type may come one level later than a
container, which has its elements still below it. -/
structure Enough (levels : Nat) (site : Site) : Prop where
  some : 0 < levels
  container : ¬ site.target.IsSingle → deepestLevel ≤ levels + site.scope.taken
  single : deepestLevel ≤ levels + site.scope.taken + 1

section Sites

variable {env : Environment} {site : Site} {levels : Nat}

/-- The longest folded name that is sure not to meet the limit. -/
def longestName : Nat := 60

theorem Populated.taken_le (short : ∀ column ∈ env.header,
    Text.byteLength column.folded.toList ≤ longestName) (led : Led site)
    (populated : Populated env site) : site.scope.taken ≤ longestName + 1 := by
  rcases populated with root | ⟨column, member, contains⟩
  · have none := led.root root
    omega
  · have within := Scope.taken_le_of_contains led.lead contains
    have few := short column member
    omega

theorem Led.member (led : Led site) {name : String} (target : Target)
    (existing : Option Register) (separated : env.settings.separator ≠ "") (named : name ≠ "") :
    Led (site.member env name target existing) ∧
      site.scope.taken + 2 ≤ (site.member env name target existing).scope.taken := by
  have separator := foldedLength_pos separated
  have further := foldedLength_pos named
  have taken : (site.member env name target existing).scope.taken =
      site.scope.leadLength + foldedLength name + 1 :=
    Scope.member_taken site.scope name env.settings.separator
  have lead : (site.member env name target existing).scope.leadLength =
      site.scope.leadLength + foldedLength name + foldedLength env.settings.separator :=
    Scope.member_leadLength site.scope name env.settings.separator
  have before := led.lead
  refine ⟨⟨by omega, fun root => ?_⟩, by omega⟩
  cases root

theorem Led.element (led : Led site) {target : Target} : Led (site.element env target) := by
  refine ⟨led.lead, fun root => ?_⟩
  cases root

end Sites

section Narrowing

variable {env : Environment} {site : Site} {levels : Nat}

/-- By induction on the levels. Where there are columns in scope few bytes are taken, so a level is
left for what is in the site; a member takes two bytes more and is one level further down. -/
theorem standard_shallow (separated : env.settings.separator ≠ "")
    (short : ∀ column ∈ env.header, Text.byteLength column.folded.toList ≤ longestName)
    (led : Led site) (enough : Enough levels site)
    (narrows : site.target.Everywhere env.bindings env.settings
      (Target.Narrows env.settings)) :
    Shallow (standard env levels site) := by
  induction levels generalizing site with
  | zero => exact absurd enough.some (Nat.lt_irrefl 0)
  | succ levels ih =>
      have here := narrows.here
      have memberShallow : Populated env site → ∀ name target existing, name ≠ "" →
          target.Everywhere env.bindings env.settings (Target.Narrows env.settings) →
          Shallow (standard env levels (site.member env name target existing)) := by
        intro populated name target existing named inner
        have few := populated.taken_le short led
        obtain ⟨ledMember, further⟩ := led.member target existing separated named
        have before := enough.single
        simp only [deepestLevel, longestName] at before few
        refine ih ledMember ⟨by omega, fun _ => ?_, ?_⟩ inner.resolve
        · simp only [deepestLevel]
          omega
        · simp only [deepestLevel]
          omega
      have elementShallow : Populated env site → ¬ site.target.IsSingle →
          ∀ element, element.IsSingle →
          element.Everywhere env.bindings env.settings (Target.Narrows env.settings) →
          Shallow (standard env levels (site.element env element)) := by
        intro populated isContainer element single inner
        have few := populated.taken_le short led
        have before := enough.container isContainer
        have same : (site.element env element).scope.taken = site.scope.taken := rfl
        simp only [deepestLevel, longestName] at before few
        refine ih led.element ⟨by omega, fun notSingle => ?_, ?_⟩ inner.resolve
        · exact absurd (single.resolve env.bindings) notSingle
        · simp only [deepestLevel]
          omega
      refine shallow_inOrder fun planner member => ?_
      simp only [standardPlanners, List.mem_cons, List.not_mem_nil, or_false] at member
      rcases member with rfl | rfl | rfl | rfl | rfl | rfl | rfl
      · exact shallow_planUntypedMember
      · exact shallow_planLeaf
      · refine shallow_planTuple fun slots isTuple => ?_
        rw [isTuple] at here
        cases here
      · refine shallow_planArray fun populated element isElement => ?_
        obtain ⟨isContainer, single, part⟩ := isElement.narrows here
        exact elementShallow populated isContainer element single (narrows.part part)
      · refine shallow_planDictionary fun populated value isEntry segment named => ?_
        exact memberShallow populated segment value none named (narrows.part isEntry.part)
      · refine shallow_planSequence fun populated element isElement => ?_
        obtain ⟨isContainer, single, part⟩ := isElement.narrows here
        exact elementShallow populated isContainer element single (narrows.part part)
      · refine shallow_planObject fun populated declared isObject type stands => ?_
        rw [isObject] at narrows
        have inner : (Target.object type).Everywhere env.bindings env.settings
            (Target.Narrows env.settings) := by
          rcases stands with rfl | part
          · exact narrows
          · exact narrows.part part
        obtain ⟨properties, parameters⟩ := inner.here
        refine ⟨fun property member => ?_, fun constructor usable parameter member => ?_⟩
        · obtain ⟨named, noSink⟩ := properties property member
          refine ⟨noSink, fun existing => ?_⟩
          exact memberShallow populated property.name property.target existing named
            (inner.part (Target.property_parts member))
        · obtain ⟨named, noSink⟩ := parameters constructor usable parameter member
          refine ⟨noSink, ?_⟩
          exact memberShallow populated parameter.name parameter.target none named
            (inner.part (Target.constructor_parts usable member))

end Narrowing

end Planning

/-- Types that narrow, recursive ones too, have mappers for columns with short names or are refused
for another reason than their depth. -/
theorem Mapper.make_not_tooDeep {columns : List Column} {settings : Settings} {bindings : Bindings}
    {target : Target}
    (narrows : target.Everywhere bindings settings (Target.Narrows settings))
    (separated : settings.separator ≠ "")
    (short : ∀ column ∈ columns, foldedLength column.name ≤ Planning.longestName) (name : String) :
    Mapper.make .standard bindings target (Header.ofColumns columns) settings ≠
      .error (.shape (.tooDeep name)) := by
  have shallow : Planning.Shallow (Planning.standard ⟨Header.ofColumns columns, settings, bindings⟩
      (deepestLevel + 1) (Site.atRoot bindings target)) := by
    refine Planning.standard_shallow separated (fun column member => ?_)
      ⟨Nat.zero_le _, fun _ => rfl⟩ ⟨Nat.succ_pos _, fun _ => ?_, ?_⟩ narrows.resolve
    · obtain ⟨⟨declared, index⟩, found, rfl⟩ := List.mem_map.mp member
      exact short declared (List.mem_zipIdx_iff_getElem?.mp found |> List.mem_of_getElem?)
    · omega
    · omega
  intro refused
  have planned : Plan.ofTarget .standard ⟨Header.ofColumns columns, settings, bindings⟩ target =
      .error (.tooDeep name) := by
    rw [Mapper.make] at refused
    cases found : Plan.ofTarget .standard ⟨Header.ofColumns columns, settings, bindings⟩ target with
    | ok plan =>
        rw [found] at refused
        cases refused
    | error failure =>
        rw [found] at refused
        cases refused
        rfl
  unfold Plan.ofTarget at planned
  dsimp only at planned
  split at planned
  · cases planned
  · cases planned
  · rename_i failure next failed
    cases planned
    exact shallow _ next name failed

/-! ## Folders

A folder has folders in it and a list of links, each of which refers to a folder again. -/

namespace Folders

def folderRef : Reference :=
  ⟨1, "Folder"⟩

def link : ObjectType :=
  ObjectTypeOf.declare 2 "Link" false
    [{ name := "to", target := .reference folderRef },
      { name := "label", target := .scalar .string }] 12 []

def folder : ObjectType :=
  ObjectTypeOf.declare 1 "Folder" false
    [{ name := "name", target := .scalar .string },
      { name := "inner", target := .reference folderRef },
      { name := "links", target := .list (.object link) }] 11 []

def bindings : Bindings :=
  [(folderRef.ident, folder)]

def columns : List Column :=
  [Column.declare "name" .string, Column.declare "inner_inner_name" .string,
    Column.declare "links_to_links_label" .string]

theorem folder_narrows :
    (Target.reference folderRef).Everywhere bindings {} (Target.Narrows {}) := by
  let closed : List Target :=
    [.reference folderRef, .object folder, .list (.object link), .object link, .scalar .string]
  have parts : ∀ outer ∈ closed, outer.parts bindings {} ⊆ closed := by
    simp [closed, Target.parts, ObjectTypeOf.targets, ConstructorOf.targets, folder, link,
      folderRef, bindings, Bindings.find?, ObjectTypeOf.declare, Settings.ofType?, Entries.get?]
  have narrow : ∀ inner ∈ closed, inner.Narrows {} := by
    simp [closed, Target.Narrows, Target.IsSingle, Target.isLeaf, Target.leaf?, UsableConstructor,
      folder, link, ObjectTypeOf.declare, Settings.ofType?, Entries.get?]
  exact fun inner reached =>
    narrow inner (Target.Reaches.within (· ∈ closed) (by simp [closed])
      (fun outer member part isPart => parts outer member isPart) reached)

end Folders

theorem Folders.not_tooDeep :
    (Target.reference Folders.folderRef).Everywhere Folders.bindings {} (Target.Narrows {}) ∧
    (∀ column ∈ Folders.columns, foldedLength column.name ≤ Planning.longestName) ∧
    ∀ name, Mapper.make .standard Folders.bindings (.reference Folders.folderRef)
      (Header.ofColumns Folders.columns) {} ≠ .error (.shape (.tooDeep name)) := by
  have short : ∀ column ∈ Folders.columns,
      foldedLength column.name ≤ Planning.longestName := by
    decide +kernel
  exact ⟨Folders.folder_narrows, short,
    Mapper.make_not_tooDeep Folders.folder_narrows (by decide) short⟩

end Unflatten
