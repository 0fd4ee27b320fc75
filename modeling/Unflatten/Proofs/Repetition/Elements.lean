import Unflatten.Proofs.Construction.Columns
import Unflatten.Proofs.Construction.Flat
import Unflatten.Proofs.Nesting.Elements
import Unflatten.Proofs.Planning.Instances

/-!
# Elements from repeated columns

Columns that share a name are taken in the order of the header. `Reaped` says how many of them have
been claimed so far: a search finds the next one, and claiming it leaves the columns of all other
names as they were. One element of a list takes the next column of each property. So the element at
a place holds the cells of the columns at this place among those with their names, and elements are
kept as long as one property has a column left.
-/

set_option autoImplicit false

namespace Unflatten

/-! ## Columns of one name -/

namespace Header

def bearing (header : Header) (name : String) : List HeaderColumn :=
  header.filter fun column => column.folded == foldName name

/-- Of the columns with the name, the first `count` are claimed and the others are free. -/
def Reaped (header : Header) (claims : Claims) (name : String) (count : Nat) : Prop :=
  (header.bearing name).filter (fun column => !claims.isClaimed column.index) =
    (header.bearing name).drop count

/-- The converted cell of a property in the instance at this place: that of the column at this place
among those with its name, or the default of the property if there are fewer. It is `none` if the
conversion fails. -/
def cellAt? (header : Header) (rules : List ConversionRule) (row : Row) (count : Nat)
    (property : Property) : Option Value :=
  match property.target.leaf?, (header.bearing property.name)[count]? with
  | some leaf, some column =>
    (readColumn row ⟨column.index, column.name⟩
      (Conversion.select rules leaf column.type)).toOption
  | _, _ => some property.target.defaultValue

variable {header : Header} {claims : Claims} {name other : String} {count : Nat}
variable {column : HeaderColumn}

theorem mem_bearing :
    column ∈ header.bearing name ↔ column ∈ header ∧ column.folded = foldName name := by
  rw [bearing, List.mem_filter, beq_iff_eq]

theorem bearing_nodup (indexed : header.WellIndexed) : (header.bearing name).Nodup :=
  (indexed.nodup.of_map _).filter _

theorem bearing_drop (found : (header.bearing name)[count]? = some column) :
    (header.bearing name).drop count = column :: (header.bearing name).drop (count + 1) := by
  obtain ⟨inside, rfl⟩ := List.getElem?_eq_some_iff.mp found
  exact List.drop_eq_getElem_cons inside

theorem bearing_mem (found : (header.bearing name)[count]? = some column) :
    column ∈ header ∧ column.folded = foldName name :=
  mem_bearing.mp (List.mem_of_getElem? found)

namespace Reaped

theorem start : header.Reaped (Claims.none header) name 0 := by
  simp [Reaped, Claims.isClaimed_none]

theorem find? (reaped : header.Reaped claims name count) :
    header.find? claims .root (foldName name) = (header.bearing name)[count]? := by
  have same : header.find? claims .root (foldName name) =
      ((header.bearing name).filter fun column => !claims.isClaimed column.index).head? := by
    rw [Header.find?, Header.available, List.find?_filter, ← List.head?_filter, bearing,
      List.filter_filter]
    congr 1
    apply List.filter_congr
    intro column _
    rw [Bool.eq_iff_iff]
    simp [Scope.root_contains, Scope.root_nameWithin]
  rw [same, reaped, List.head?_drop]

theorem isFree (reaped : header.Reaped claims name count)
    (found : (header.bearing name)[count]? = some column) :
    claims.isClaimed column.index = false := by
  have left : column ∈ (header.bearing name).drop count := by
    rw [bearing_drop found]
    exact List.mem_cons_self
  rw [← reaped, List.mem_filter] at left
  simpa using left.2

theorem isTaken (indexed : header.WellIndexed) (reaped : header.Reaped claims name (count + 1))
    (found : (header.bearing name)[count]? = some column) :
    claims.isClaimed column.index = true := by
  by_contra free
  have left : column ∈ (header.bearing name).drop (count + 1) := by
    rw [← reaped, List.mem_filter]
    exact ⟨List.mem_of_getElem? found, by simpa using free⟩
  have apart : ((header.bearing name).drop count).Nodup :=
    (bearing_nodup indexed).sublist (List.drop_sublist count _)
  rw [bearing_drop found] at apart
  exact (List.nodup_cons.mp apart).1 left

theorem exhausted (reaped : header.Reaped claims name count)
    (few : (header.bearing name).length ≤ count) : header.Reaped claims name (count + 1) := by
  rw [Reaped, reaped, List.drop_of_length_le few, List.drop_of_length_le (Nat.le_succ_of_le few)]

section Claims

variable (indexed : header.WellIndexed) (sized : claims.length = header.length)
include indexed sized

theorem claim (reaped : header.Reaped claims name count)
    (found : (header.bearing name)[count]? = some column) :
    header.Reaped (claims.claim column.index) name (count + 1) := by
  have inside : column.index < claims.length := by
    rw [sized]
    exact indexed.inside (bearing_mem found).1
  have fewer : (header.bearing name).filter
        (fun other => !(claims.claim column.index).isClaimed other.index) =
      ((header.bearing name).drop count).filter fun other => other.index != column.index := by
    rw [← reaped, List.filter_filter]
    apply List.filter_congr
    intro other _
    rw [Bool.eq_iff_iff, Bool.not_eq_true', ← Bool.not_eq_true, Claims.isClaimed_claim inside]
    simp [not_or]
  have apart : ((header.bearing name).drop count).Nodup :=
    (bearing_nodup indexed).sublist (List.drop_sublist count _)
  rw [bearing_drop found] at apart fewer
  rw [Reaped, fewer, List.filter_cons_of_neg (by simp), List.filter_eq_self]
  intro other member
  rw [bne_iff_ne]
  intro same
  have isOther : other ∈ header := (mem_bearing.mp (List.mem_of_mem_drop member)).1
  have identical := List.inj_on_of_nodup_map indexed.nodup isOther (bearing_mem found).1 same
  rw [identical] at member
  exact (List.nodup_cons.mp apart).1 member

theorem apart (reaped : header.Reaped claims other count) (member : column ∈ header)
    (differs : foldName other ≠ column.folded) :
    header.Reaped (claims.claim column.index) other count := by
  have inside : column.index < claims.length := by
    rw [sized]
    exact indexed.inside member
  rw [Reaped, ← reaped]
  apply List.filter_congr
  intro another isAnother
  obtain ⟨isColumn, named⟩ := mem_bearing.mp isAnother
  have distinct : another.index ≠ column.index := by
    intro same
    rw [List.inj_on_of_nodup_map indexed.nodup isColumn member same] at named
    exact differs named.symm
  rw [Bool.eq_iff_iff, Bool.not_eq_true', Bool.not_eq_true', ← Bool.not_eq_true,
    ← Bool.not_eq_true, Claims.isClaimed_claim inside]
  simp [distinct]

end Claims

end Reaped

end Header

/-! ## The greatest number of columns -/

/-- The largest number of columns that share the name of one property, 0 without properties. -/
def Header.repetitions (header : Header) (properties : List Property) : Nat :=
  (properties.map fun property => (header.bearing property.name).length).max?.getD 0

theorem Header.lt_repetitions {header : Header} {properties : List Property} {count : Nat} :
    count < header.repetitions properties ↔
      ∃ property ∈ properties, count < (header.bearing property.name).length := by
  rw [repetitions]
  cases found : (properties.map fun property => (header.bearing property.name).length).max? with
  | none =>
      rw [List.max?_eq_none_iff, List.map_eq_nil_iff] at found
      simp [found]
  | some greatest =>
      obtain ⟨member, most⟩ := List.max?_eq_some_iff.mp found
      obtain ⟨property, isProperty, rfl⟩ := List.mem_map.mp member
      rw [Option.getD_some]
      constructor
      · intro less
        exact ⟨property, isProperty, less⟩
      · rintro ⟨other, isOther, less⟩
        exact Nat.lt_of_lt_of_le less (most _ (List.mem_map.mpr ⟨other, isOther, rfl⟩))

/-! ## Elements -/

/-- A flat type of typed properties with nothing but a constructor without parameters. -/
structure ObjectTypeOf.IsPlain (type : ObjectType) : Prop where
  flat : type.IsFlat
  typed : ∀ property ∈ type.properties, ∀ leaf, property.target.leaf? = some leaf →
    leaf.isAny = false
  constructed : ∃ constructor, type.constructors = [constructor] ∧ constructor.isPublic = true ∧
    constructor.isStatic = false ∧ constructor.parameters = [] ∧ constructor.body = none

namespace Planning

variable {env : Environment} {recurse : Planner} {row : Row} {site : Site} {pass next : Pass}
variable {type : ObjectType} {target : Register} {count levels : Nat}

/-! ## Properties -/

/-- What setting a property does in the element at a place: its next column is claimed, if there is
one, and the field is set to the cell at this place. -/
structure Reaps (env : Environment) (target : Register) (count : Nat) (property : Property)
    (pass : Pass) (steps : List Step) (next : Pass) : Prop where
  reaped : env.header.Reaped next.claims property.name (count + 1)
  others : ∀ (other : String) (taken : Nat), foldName other ≠ foldName property.name →
    env.header.Reaped pass.claims other taken → env.header.Reaped next.claims other taken
  idle : (env.header.bearing property.name).length ≤ count → next.claims = pass.claims
  sets : (steps = [] ∧ ∀ row, env.header.cellAt? env.rules row count property =
      some property.target.defaultValue) ∨
    ∀ row before, Alters row target steps next before
      ((env.header.cellAt? env.rules row count property).map fun value =>
        before.setField property.name value)

section Properties

variable (indexed : env.header.WellIndexed) (atRoot : site.scope = .root)
include indexed atRoot

theorem setProperty_reaps {property : Property} {leaf : Leaf}
    (isLeaf : property.target.leaf? = some leaf) (isScalar : leaf.isAny = false)
    (sized : pass.claims.length = env.header.length) (known : target < pass.nextRegister)
    (reaped : env.header.Reaped pass.claims property.name count) :
    ∃ steps next, Gives (setProperty env recurse site target property) pass steps next ∧
      Reaps env target count property pass steps next := by
  have scalar : property.target.leaf?.filter (fun leaf => !leaf.isAny) = some leaf := by
    rw [isLeaf]
    simp [isScalar]
  have search := reaped.find?
  rw [← atRoot] at search
  have sets {steps : List Step} {next : Pass} :=
    @setProperty_leaf env recurse site pass next leaf property target steps scalar
  rw [search] at sets
  cases found : (env.header.bearing property.name)[count]? with
  | none =>
      rw [found] at sets
      have few := List.getElem?_eq_none_iff.mp found
      refine ⟨[], pass, sets (gives_pure.mpr ⟨rfl, rfl⟩), reaped.exhausted few,
        fun _ _ _ same => same, fun _ => rfl, Or.inl ⟨rfl, fun row => ?_⟩⟩
      rw [Header.cellAt?, found]
      cases property.target.leaf? <;> rfl
  | some column =>
      have reads : Gives (read env column leaf) pass _ _ := gives_read.mpr ⟨rfl, rfl⟩
      have planned :=
        (read_planned (Header.find?_unclaimed indexed sized (search.trans found)) reads).1
      obtain ⟨isColumn, named⟩ := Header.bearing_mem found
      rw [found] at sets
      refine ⟨_, _, sets (gives_bind.mpr ⟨_, _, reads, gives_pure.mpr ⟨rfl, rfl⟩⟩),
        reaped.claim indexed sized found, fun other taken differs same => ?_, fun few => ?_,
        Or.inr fun row before => ?_⟩
      · exact same.apart indexed sized isColumn (by rwa [named])
      · rw [List.getElem?_eq_none_iff.mpr few] at found
        cases found
      · rw [Header.cellAt?, isLeaf, found]
        exact Alters.assigned planned (read_evaluates reads) known

variable (plain : type.IsPlain) (reliable : Reliable env recurse)
include plain reliable

theorem setEach_reaps {properties : List Property}
    (members : ∀ property ∈ properties, property ∈ type.properties)
    (distinct : properties.Pairwise fun one other => foldName one.name ≠ foldName other.name)
    (sized : pass.claims.length = env.header.length) (known : target < pass.nextRegister)
    (reaped : ∀ property ∈ properties, env.header.Reaped pass.claims property.name count) :
    ∃ steps next,
      Gives (setEach (setProperty env recurse site target) properties) pass steps next ∧
      (∀ property ∈ properties, env.header.Reaped next.claims property.name (count + 1)) ∧
      (∀ (other : String) (taken : Nat),
        (∀ property ∈ properties, foldName other ≠ foldName property.name) →
        env.header.Reaped pass.claims other taken → env.header.Reaped next.claims other taken) ∧
      ((∀ property ∈ properties, (env.header.bearing property.name).length ≤ count) →
        next.claims = pass.claims) ∧
      ∀ row names object, (∀ property ∈ properties, foldName property.name ∉ names) →
        type.reached? (env.header.cellAt? env.rules row count) names = some object →
        Alters row target steps next object.toValue
          ((type.reached? (env.header.cellAt? env.rules row count)
            (properties.map (fun property => foldName property.name) ++ names)).map
              Object.toValue) := by
  have planned {property : Property} {pass next : Pass} {steps : List Step}
      (sized : pass.claims.length = env.header.length) (known : target < pass.nextRegister)
      (given : Gives (setProperty env recurse site target property) pass steps next) :
      Block [target] [target] pass steps next :=
    setProperty_planned indexed reliable sized known given
  induction properties generalizing pass with
  | nil =>
      refine ⟨[], pass, gives_pure.mpr ⟨rfl, rfl⟩, by simp, fun _ _ _ same => same, fun _ => rfl,
        fun row names object _ isObject => ?_⟩
      rw [List.map_nil, List.nil_append, isObject]
      exact Alters.nil
  | cons property rest ih =>
      obtain ⟨apart, distinct⟩ := List.pairwise_cons.mp distinct
      have isProperty := members property (by simp)
      obtain ⟨leaf, isLeaf⟩ :=
        Option.isSome_iff_exists.mp (plain.flat.leaves property isProperty)
      obtain ⟨first, middle, set, reaps⟩ := setProperty_reaps indexed atRoot isLeaf
        (plain.typed property isProperty leaf isLeaf) sized known (reaped property (by simp))
      have onward := (planned sized known set).onward
      have stillSized := onward.length.trans sized
      have stillKnown := Nat.lt_of_lt_of_le known onward.registers
      obtain ⟨others, next, setRest, reapedRest, frame, idle, alters⟩ := ih
        (fun other member => members other (by simp [member])) distinct stillSized stillKnown
        fun other member => reaps.others other.name count (apart other member).symm
          (reaped other (by simp [member]))
      have upward := (setEach_planned planned stillSized stillKnown setRest).onward
      refine ⟨first ++ others, next, setEach_next set setRest, ?_, ?_, ?_, ?_⟩
      · intro other member
        rcases List.mem_cons.mp member with rfl | member
        · exact frame _ _ apart reaps.reaped
        · exact reapedRest other member
      · intro other taken differs same
        exact frame other taken (fun property member => differs property (by simp [member]))
          (reaps.others other taken (differs property (by simp)) same)
      · intro few
        rw [idle fun property member => few property (by simp [member]),
          reaps.idle (few property (by simp))]
      · intro row names object unknown isObject
        -- The head of the list of names has been set first, so it is moved to where the rest ends.
        rw [List.map_cons, List.cons_append, ObjectTypeOf.reached?_middle]
        have here : Alters row target first middle object.toValue
            ((type.reached? (env.header.cellAt? env.rules row count)
              (foldName property.name :: names)).map Object.toValue) := by
          rcases reaps.sets with ⟨rfl, isDefault⟩ | sets
          · rw [ObjectTypeOf.reached?_default plain.flat isProperty (unknown property (by simp))
              (isDefault row), isObject]
            exact Alters.nil
          · rw [ObjectTypeOf.reached?_cons plain.flat isProperty, isObject, Option.bind_some,
              Option.map_map]
            exact sets row object.toValue
        refine Alters.append upward.registers here ?_ ?_
        · intro value reached
          obtain ⟨further, isFurther, rfl⟩ := Option.map_eq_some_iff.mp reached
          refine alters row _ further (fun other member => ?_) isFurther
          rw [List.mem_cons, not_or]
          exact ⟨(apart other member).symm, unknown other (by simp [member])⟩
        · intro failed
          rw [Option.map_eq_none_iff] at failed ⊢
          exact ObjectTypeOf.reached?_none (fun name member => List.mem_append_right _ member)
            failed

end Properties

/-! ## Elements -/

/-- The element at a place, if its cells can be converted. -/
def elementAt? (env : Environment) (type : ObjectType) (row : Row) (count : Nat) : Option Value :=
  (type.reached? (env.header.cellAt? env.rules row count)
    (type.properties.map fun property => foldName property.name)).map Object.toValue

theorem standard_exhausted (none : env.header.available pass.claims site.scope = []) :
    Gives (standard env (levels + 1) (site.element env (.object type))) pass Option.none pass := by
  have absent : Gives (planObject env (standard env levels) (site.element env (.object type))) pass
      Option.none pass := by
    unfold planObject
    refine gives_bind.mpr ⟨true, _, gives_isAbsent.mpr ⟨?_, rfl⟩, gives_pure.mpr ⟨rfl, rfl⟩⟩
    have same : env.header.available pass.claims (site.element env (.object type)).scope = [] :=
      none
    rw [same]
    rfl
  rw [standard_object rfl]
  exact inOrder_later absent (gives_pure.mpr ⟨rfl, rfl⟩)

section Elements

variable (plain : type.IsPlain) (unset : env.settings.ofType? type.name = none)
include plain unset

theorem planInstance_plain :
    ∃ program, Gives (planInstance env recurse site type none) pass program pass.advanced ∧
      ∀ row, Evaluates row none program pass.advanced (some type.blank.toValue) := by
  obtain ⟨constructor, only, isPublic, isInstance, noParameters, noBody⟩ := plain.constructed
  have chosen : type.chooseConstructor (env.settings.ofType? type.name)
      ⟨env.header, pass.claims, site.scope⟩ env.settings = .ok constructor := by
    simp [ObjectTypeOf.chooseConstructor, unset, plain.flat.isConcrete, only, View.best?,
      View.score?, isPublic, isInstance, noParameters]
  have unmade : (env.settings.ofType? type.name).bind TypePolicy.factory = none := by
    rw [unset]
    rfl
  have arguments : Gives (planArguments env recurse site constructor.parameters) pass [] pass := by
    rw [noParameters]
    exact gives_pure.mpr ⟨rfl, rfl⟩
  refine ⟨_, planInstance_constructs unmade chosen arguments, fun row => ?_⟩
  have builds := (@Gathers.nil row pass).constructs type constructor
  simpa [gathered, ConstructorOf.construct, noBody, ConstructorOf.bindArguments, noParameters]
    using builds

variable (indexed : env.header.WellIndexed) (atRoot : site.scope = .root)
variable (sized : pass.claims.length = env.header.length)
variable (reaped : ∀ property ∈ type.properties,
  env.header.Reaped pass.claims property.name count)
include indexed atRoot sized reaped

theorem planSingle_reaps (reliable : Reliable env recurse) (isNew : site.existing = none) :
    ∃ program next,
      Gives (planSingle env recurse site type (env.settings.ofType? type.name)) pass program
        next ∧
      (∀ property ∈ type.properties,
        env.header.Reaped next.claims property.name (count + 1)) ∧
      ((∀ property ∈ type.properties, (env.header.bearing property.name).length ≤ count) →
        next.claims = pass.claims) ∧
      ∀ row, Evaluates row none program next (elementAt? env type row count) := by
  obtain ⟨create, created, blank⟩ :=
    @planInstance_plain env recurse site pass type plain unset
  have isPlanned := planInstance_planned indexed reliable sized created
  have started : Gives (reuseOrCreate site .object create) pass.advanced create pass.advanced := by
    rw [reuseOrCreate, isNew]
    exact gives_pure.mpr ⟨rfl, rfl⟩
  have stillSized : pass.advanced.claims.length = env.header.length := sized
  obtain ⟨assigns, next, set, reapedNext, -, idle, alters⟩ := setEach_reaps indexed atRoot plain
    reliable (fun _ member => member) plain.flat.distinct stillSized isPlanned.below reaped
  have whole : Gives (setProperties env recurse site type create.result) pass.advanced assigns
      next :=
    setProperties_all plain.flat.assignable plain.flat.noSinks set
  have onward := (setProperties_planned indexed reliable stillSized isPlanned.below whole).onward
  have concrete : concreteOf type (env.settings.ofType? type.name) = type := by
    rw [unset]
    rfl
  have unmade : (env.settings.ofType? type.name).bind TypePolicy.factory = none := by
    rw [unset]
    rfl
  refine ⟨_, next, planSingle_assigned concrete unmade created started whole, reapedNext, idle,
    fun row => ?_⟩
  refine Evaluates.filled onward.registers (blank row) (fun value isBlank => ?_) nofun
  cases isBlank
  have all := alters row [] type.blank (by simp) ObjectTypeOf.reached?_nil
  rw [List.append_nil] at all
  exact all

theorem standard_reaps (offered : env.header.available pass.claims site.scope ≠ []) :
    ∃ program next,
      Gives (standard env (levels + 1) (site.element env (.object type))) pass (some program)
        next ∧
      (∀ property ∈ type.properties,
        env.header.Reaped next.claims property.name (count + 1)) ∧
      ((∀ property ∈ type.properties, (env.header.bearing property.name).length ≤ count) →
        next.claims = pass.claims) ∧
      ∀ row, Evaluates row none program next (elementAt? env type row count) := by
  obtain ⟨program, next, single, reapedNext, idle, evaluates⟩ :=
    @planSingle_reaps env (standard env levels) (site.element env (.object type)) pass type count
      plain unset indexed atRoot sized reaped (standard_reliable indexed levels) rfl
  have present : (!(site.element env (.object type)).isRoot &&
      (env.header.available pass.claims (site.element env (.object type)).scope).isEmpty) =
        false := by
    rw [Bool.and_eq_false_iff]
    exact Or.inr (List.isEmpty_eq_false_iff.mpr offered)
  have object : Gives (planObject env (standard env levels) (site.element env (.object type))) pass
      (some program) next :=
    planObject_single rfl present (fun own found => by rw [unset] at found; cases found) single
  exact ⟨program, next, standardPlanners_object rfl object, reapedNext, idle, evaluates⟩

end Elements

/-! ## All elements -/

section Repetition

variable (plain : type.IsPlain) (unset : env.settings.ofType? type.name = none)
variable (indexed : env.header.WellIndexed) (atRoot : site.scope = .root)
include plain unset indexed atRoot

/-- From the element at a place on there is one element for each repetition that is left. The loop
ends where an element would find no column of its properties. -/
theorem elements_loop {left : Nat}
    (rest : count + left = env.header.repetitions type.properties)
    (sized : pass.claims.length = env.header.length)
    (reaped : ∀ property ∈ type.properties,
      env.header.Reaped pass.claims property.name count) (items : List Program) :
    ∃ others last next,
      ElementLoop env (standard env (levels + 1)) site (.object type) items pass
        (.ok (items ++ others)) next ∧
      last.nextRegister ≤ next.nextRegister ∧
      ∀ row, Gathers row pass others ((List.range' count left).map (elementAt? env type row))
        last := by
  have reliable := standard_reliable indexed (levels + 1)
  have element := fun {pass : Pass} {count : Nat} => @standard_reaps env site pass type count levels
    plain unset indexed atRoot
  induction left generalizing count pass items with
  | zero =>
      have few : ∀ property ∈ type.properties,
          (env.header.bearing property.name).length ≤ count := by
        intro property member
        by_contra more
        have less : count < env.header.repetitions type.properties :=
          Header.lt_repetitions.mpr ⟨property, member, Nat.not_le.mp more⟩
        lia
      by_cases offered : env.header.available pass.claims site.scope = []
      · refine ⟨[], pass, _, ?_, Nat.le_refl _, fun row => Gathers.nil⟩
        rw [List.append_nil]
        exact .declined (standard_exhausted offered)
      · obtain ⟨program, between, planned, -, idle, -⟩ := element sized reaped offered
        have onward := (reliable.new sized rfl planned).block.onward.registers
        refine ⟨[], pass, { between with claims := pass.claims }, ?_, onward,
          fun row => Gathers.nil⟩
        rw [List.append_nil]
        refine .fruitless planned ?_
        rw [idle few]
        exact Nat.lt_irrefl _
  | succ left ih =>
      obtain ⟨property, isProperty, more⟩ := Header.lt_repetitions.mp
        (show count < env.header.repetitions type.properties by lia)
      have found := List.getElem?_eq_getElem more
      obtain ⟨isColumn, -⟩ := Header.bearing_mem found
      have isFree := (reaped property isProperty).isFree found
      have offered : env.header.available pass.claims site.scope ≠ [] := by
        refine List.ne_nil_of_mem (List.mem_filter.mpr ⟨isColumn, ?_⟩)
        rw [atRoot, Scope.root_contains, isFree]
        rfl
      obtain ⟨program, between, planned, reapedNext, -, evaluates⟩ := element sized reaped offered
      have isNew := reliable.new sized rfl planned
      have onward := isNew.block.onward
      have claims : pass.claims.count < between.claims.count :=
        (Claims.count_lt_iff onward.length onward.claims).mpr
          ⟨_, (reapedNext property isProperty).isTaken indexed found, isFree⟩
      obtain ⟨others, last, next, loop, ends, gathers⟩ := ih (show count + 1 + left = _ by lia)
        (onward.length.trans sized) reapedNext (items ++ [program])
      refine ⟨program :: others, last, next, .kept planned claims ?_, ends, fun row => ?_⟩
      · rw [List.append_assoc] at loop
        exact loop
      · exact Gathers.cons isNew (evaluates row) (gathers row)

theorem planElements_repeated (sized : pass.claims.length = env.header.length)
    (reaped : ∀ property ∈ type.properties, env.header.Reaped pass.claims property.name 0) :
    ∃ items last next,
      Gives (planElements env (standard env (levels + 1)) site (.object type)) pass items next ∧
      last.nextRegister ≤ next.nextRegister ∧
      ∀ row, Gathers row pass items
        ((List.range (env.header.repetitions type.properties)).map (elementAt? env type row))
        last := by
  obtain ⟨items, last, next, loop, ends, gathers⟩ := @elements_loop env site pass type 0 levels
    plain unset indexed atRoot _ (Nat.zero_add _) sized reaped []
  have given := (planElements_loop (standard_reliable indexed (levels + 1)) rfl sized).mp loop
  rw [← List.range_eq_range'] at gathers
  exact ⟨items, last, next, given, ends, gathers⟩

end Repetition

end Planning

end Unflatten
