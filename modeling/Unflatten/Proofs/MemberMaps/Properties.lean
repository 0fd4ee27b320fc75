import Unflatten.Proofs.MemberMaps.Contents

/-!
# Maps in properties

Every property that is set has its turn: sinks come last and see the unnamed columns, any other
property sees the columns of its member. The map that stands in a property in the end is the one
that its own turn has put there, or the one that the instance was made with.
-/

set_option autoImplicit false

namespace Unflatten

namespace Planning

/-! ## Turns -/

/-- The properties that are set, in the order of their turns. -/
def assigned (type : ObjectType) : List Property :=
  plainProperties type ++ sinkProperties type

def setMember (env : Environment) (recurse : Planner) (site : Site) (target : Register)
    (property : Property) : Planning (List Step) :=
  if property.isSink then setSink env recurse site target property
  else setProperty env recurse site target property

/-- The scope in which a property sees its columns. -/
def scopeOf (env : Environment) (site : Site) (pass : Pass) (property : Property) : Scope :=
  if property.isSink then
    .among (env.header.nameless pass.claims site.scope env.settings.sentinel)
  else site.scope.member property.name env.settings.separator

variable {env : Environment} {recurse : Planner} {site : Site} {row : Row} {pass next : Pass}
variable {target : Register} {steps : List Step} {property : Property} {type : ObjectType}

section Each

variable {assign : Property → Planning (List Step)} {left right : List Property}

theorem setEach_append {first others : List Step} {middle : Pass}
    (planned : Gives (setEach assign left) pass first middle)
    (later : Gives (setEach assign right) middle others next) :
    Gives (setEach assign (left ++ right)) pass (first ++ others) next := by
  induction left generalizing pass first with
  | nil =>
      obtain ⟨rfl, rfl⟩ := gives_pure.mp planned
      exact later
  | cons property rest ih =>
      obtain ⟨steps, between, more, here, planRest, rfl⟩ := setEach_cons planned
      rw [List.append_assoc]
      exact setEach_next here (ih planRest)

theorem setEach_split (given : Gives (setEach assign (left ++ right)) pass steps next) :
    ∃ first middle others, Gives (setEach assign left) pass first middle ∧
      Gives (setEach assign right) middle others next ∧ steps = first ++ others := by
  induction left generalizing pass steps with
  | nil => exact ⟨[], pass, steps, gives_pure.mpr ⟨rfl, rfl⟩, given, rfl⟩
  | cons property rest ih =>
      obtain ⟨here, between, more, planned, planRest, rfl⟩ := setEach_cons given
      obtain ⟨first, middle, others, left, right, rfl⟩ := ih planRest
      exact ⟨here ++ first, middle, others, setEach_next planned left, right,
        (List.append_assoc _ _ _).symm⟩

end Each

theorem setProperties_inTurn
    (given : Gives (setProperties env recurse site type target) pass steps next) :
    Gives (setEach (setMember env recurse site target) (assigned type)) pass steps next := by
  obtain ⟨plain, middle, sinks, planPlain, planSinks, rfl⟩ := setProperties_gives given
  have isPlain : setEach (setMember env recurse site target) (plainProperties type) =
      setEach (setProperty env recurse site target) (plainProperties type) := by
    refine setEach_congr fun property member => if_neg ?_
    simpa using (List.mem_filter.mp member).2
  have isSink : setEach (setMember env recurse site target) (sinkProperties type) =
      setEach (setSink env recurse site target) (sinkProperties type) :=
    setEach_congr fun property member => if_pos (List.mem_filter.mp member).2
  rw [← isPlain] at planPlain
  rw [← isSink] at planSinks
  exact setEach_append planPlain planSinks

section Planned

variable (indexed : env.header.WellIndexed) (reliable : Reliable env recurse)
variable (sized : pass.claims.length = env.header.length) (known : target < pass.nextRegister)
include indexed reliable sized known

theorem setMember_planned (given : Gives (setMember env recurse site target property) pass steps
    next) : Block [target] [target] pass steps next := by
  unfold setMember at given
  split at given
  · exact setSink_planned reliable sized known given
  · exact setProperty_planned indexed reliable sized known given

theorem setMember_stable {invariant : Value → Prop}
    (stable : ∀ held value, invariant held → invariant (held.setField property.name value))
    (given : Gives (setMember env recurse site target property) pass steps next) :
    Keeps row target invariant steps next := by
  unfold setMember at given
  split at given
  · exact setSink_stable reliable sized known stable given
  · exact setProperty_stable indexed reliable sized known stable given

end Planned

/-! ## The turn of a map -/

/-- Nothing or an empty map. -/
def Hollow (value : Value) : Prop :=
  value = .null ∨ value = .map []

/-- New maps of this kind are empty. -/
def StartsEmpty (kind : Option DictionaryType) : Prop :=
  ∀ start, newMap kind = .ok start → start = .map []

/-- The value is an object, and this is what its field holds, if it has the field. -/
def FieldIs (name : String) (content : Option Value) (value : Value) : Prop :=
  ∃ object : Object, value = object.toValue ∧ object.get? name = content

theorem FieldIs.setField {name other : String} {content : Option Value} {held : Value}
    (fieldIs : FieldIs name content held) (differs : other ≠ name) (value : Value) :
    FieldIs name content (held.setField other value) := by
  obtain ⟨object, rfl, isField⟩ := fieldIs
  exact ⟨object.set other value, rfl,
    (Entries.get?_insert_of_ne _ _ differs.symm).trans isField⟩

theorem FieldIs.setField_same {name : String} {content : Option Value} {held : Value}
    (fieldIs : FieldIs name content held) (value : Value) :
    FieldIs name (some value) (held.setField name value) := by
  obtain ⟨object, rfl, -⟩ := fieldIs
  exact ⟨object.set name value, rfl, Entries.get?_insert_self _ _ _⟩

theorem Started.empty {kind : Option DictionaryType} {present start : Value}
    (hollow : Hollow present) (startsEmpty : StartsEmpty kind)
    (started : Started kind present start) : start = .map [] := by
  rcases started with ⟨accepts, rfl⟩ | isNew
  · rcases hollow with rfl | same
    · cases kind with
      | none => cases accepts
      | some type => cases accepts
    · exact same
  · exact startsEmpty start isNew

/-- The field holds what the node has filled, for all columns that its scope offered. -/
def FilledIn (env : Environment) (row : Row) (leaf : Leaf) (kind : Option DictionaryType)
    (groups : List Namesakes) (name : String) (content : Option Value) (value : Value) : Prop :=
  ∃ start filled, FieldIs name (some filled) value ∧ Filled env row leaf groups start filled ∧
    ((∃ found, content = some found ∧ Hollow found) → StartsEmpty kind → start = .map [])

section Turns

variable {levels : Nat} {leaf : Leaf} {kind : Option DictionaryType}
variable (indexed : env.header.WellIndexed)

include indexed in
theorem setMember_fills (sized : pass.claims.length = env.header.length)
    (known : target < pass.nextRegister) (isMap : property.target.IsMapOf leaf kind)
    (given : Gives (setMember env (standard env levels) site target property) pass steps next) :
    (steps = [] ∧ next.claims = pass.claims) ∨
      (next.claims.count = pass.claims.count +
          (env.header.available pass.claims (scopeOf env site pass property)).length ∧
        ∀ content, Brings row target (FieldIs property.name content)
          (FilledIn env row leaf kind
            (env.header.namesakes pass.claims (scopeOf env site pass property)) property.name
            content) steps next) := by
  have reliable : Reliable env (standard env levels) := standard_reliable indexed levels
  unfold setMember at given
  unfold scopeOf
  split at given
  · rename_i isSink
    rw [if_pos isSink]
    obtain ⟨found, sink, rfl⟩ := setSink_gives given
    cases found with
    | none => exact Or.inl ⟨rfl, by rw [planSink_declines reliable sink]⟩
    | some value =>
        have planned := planSink_planned reliable sized sink
        rcases planSink_gives sink with ⟨impossible, -⟩ | member
        · cases impossible
        have isMapHere : (sinkSite env site pass property.target).target.IsMapOf leaf kind := by
          rwa [sinkSite, isMap.resolve]
        have existing : ∀ register,
            (sinkSite env site pass property.target).existing = some register →
              register < pass.nextRegister := by
          simp [sinkSite]
        have fills : _ ∧ Yields row _ _ _ value next :=
          standard_fills indexed sized existing isMapHere member .null
        obtain ⟨count, yields⟩ := fills
        refine Or.inr ⟨count, fun content => ?_⟩
        refine Brings.added (fun held => held.setField property.name) planned yields known
          (fun registers => by rw [runStep]) ?_
        rintro held filled fieldIs ⟨start, started, isFilled⟩
        exact ⟨start, filled, fieldIs.setField_same filled, isFilled,
          fun _ startsEmpty => started.empty (Or.inl rfl) startsEmpty⟩
  · rename_i notSink
    rw [if_neg notSink]
    rcases setProperty_gives given with ⟨other, isLeaf, -⟩ | ⟨-, found, member, rfl⟩
    · rw [isMap.notLeaf] at isLeaf
      cases isLeaf
    · cases found with
      | none => exact Or.inl ⟨rfl, by rw [standard_declines member]; rfl⟩
      | some value =>
          have existing : ∀ register,
              (site.member env property.name property.target (some pass.nextRegister)).existing =
                some register → register < pass.advanced.nextRegister :=
            Register.known_existing rfl (Nat.lt_succ_self _)
          have isMapHere : (site.member env property.name property.target
              (some pass.nextRegister)).target.IsMapOf leaf kind := by
            rwa [Site.member, isMap.resolve]
          have sized : pass.advanced.claims.length = env.header.length := sized
          have planned := reliable.plans sized existing member
          have fills (present : Value) : _ ∧ Yields row _ _ _ value next :=
            standard_fills indexed sized existing isMapHere member present
          refine Or.inr ⟨(fills .null).1, fun content => ?_⟩
          refine Brings.member known planned (fun present => (fills present).2) ?_
          rintro held filled fieldIs ⟨start, started, isFilled⟩
          refine ⟨start, filled, fieldIs.setField_same filled, isFilled, ?_⟩
          rintro ⟨found, rfl, hollow⟩ startsEmpty
          obtain ⟨object, rfl, isField⟩ := fieldIs
          rw [Object.field_toValue isField] at started
          exact started.empty hollow startsEmpty

theorem setEach_turn {earlier later : List Property} {levels : Nat}
    (indexed : env.header.WellIndexed) (sized : pass.claims.length = env.header.length)
    (known : target < pass.nextRegister) (isMap : property.target.IsMapOf leaf kind)
    (named : ∀ other ∈ earlier ++ later, other.name ≠ property.name)
    (given : Gives (setEach (setMember env (standard env levels) site target)
      (earlier ++ property :: later)) pass steps next) :
    ∃ before after first own,
      Gives (setEach (setMember env (standard env levels) site target) earlier) pass first before ∧
      Gives (setMember env (standard env levels) site target property) before own after ∧
      ((after.claims = before.claims ∧ ∀ content,
          Keeps row target (FieldIs property.name content) steps next) ∨
        (after.claims.count = before.claims.count +
            (env.header.available before.claims (scopeOf env site before property)).length ∧
          ∀ content, Brings row target (FieldIs property.name content)
            (FilledIn env row leaf kind
              (env.header.namesakes before.claims (scopeOf env site before property))
              property.name content) steps next)) := by
  have reliable : Reliable env (standard env levels) := standard_reliable indexed levels
  have plans {other : Property} {pass next : Pass} {steps : List Step}
      (sized : pass.claims.length = env.header.length) (known : target < pass.nextRegister)
      (given : Gives (setMember env (standard env levels) site target other) pass steps next) :
      Block [target] [target] pass steps next :=
    setMember_planned indexed reliable sized known given
  have keeps {properties : List Property} {pass next : Pass} {steps : List Step}
      {invariant : Value → Prop} (sized : pass.claims.length = env.header.length)
      (known : target < pass.nextRegister)
      (stable : ∀ other ∈ properties, ∀ held value,
        invariant held → invariant (held.setField other.name value))
      (given : Gives (setEach (setMember env (standard env levels) site target) properties) pass
        steps next) : Keeps row target invariant steps next :=
    setEach_keeps plans (fun other member _ _ _ sized known given =>
      setMember_stable indexed reliable sized known (stable other member) given) sized known given
  obtain ⟨first, before, others, planFirst, planOthers, rfl⟩ := setEach_split given
  obtain ⟨own, after, last, planOwn, planLast, rfl⟩ := setEach_cons planOthers
  have onwardFirst := (setEach_planned plans sized known planFirst).onward
  have sizedBefore := onwardFirst.length.trans sized
  have knownBefore := Nat.lt_of_lt_of_le known onwardFirst.registers
  have onwardOwn := (plans sizedBefore knownBefore planOwn).onward
  have sizedAfter := onwardOwn.length.trans sizedBefore
  have knownAfter := Nat.lt_of_lt_of_le knownBefore onwardOwn.registers
  have onwardLast := (setEach_planned plans sizedAfter knownAfter planLast).onward
  have keepsFirst (content : Option Value) :
      Keeps row target (FieldIs property.name content) first before := by
    refine keeps sized known (fun other member held value fieldIs => ?_) planFirst
    exact fieldIs.setField (named other (List.mem_append_left _ member)) value
  refine ⟨before, after, first, own, planFirst, planOwn, ?_⟩
  rcases setMember_fills indexed sizedBefore knownBefore isMap planOwn with
    ⟨rfl, unclaimed⟩ | ⟨count, fills⟩
  · refine Or.inl ⟨unclaimed, fun content => ?_⟩
    have keepsLast : Keeps row target (FieldIs property.name content) last next := by
      refine keeps sizedAfter knownAfter (fun other member held value fieldIs => ?_) planLast
      exact fieldIs.setField (named other (List.mem_append_right _ member)) value
    exact Keeps.append (Nat.le_trans onwardOwn.registers onwardLast.registers) (keepsFirst content)
      keepsLast
  · refine Or.inr ⟨count, fun content => ?_⟩
    refine Brings.append (Nat.le_trans onwardOwn.registers onwardLast.registers)
      (keepsFirst content) (Brings.append onwardLast.registers (fills content) ?_)
    refine keeps sizedAfter knownAfter (fun other member held value => ?_) planLast
    rintro ⟨start, filled, fieldIs, rest⟩
    exact ⟨start, filled, fieldIs.setField (named other (List.mem_append_right _ member)) value,
      rest⟩

end Turns

end Planning

end Unflatten
