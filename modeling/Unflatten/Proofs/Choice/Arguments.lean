import Unflatten.Proofs.Choice.Progress

/-!
# Arguments and the columns for them

The choice of a constructor looks at each parameter apart from the others, all with the same columns
in view; the arguments are planned one after the other, each from what the earlier ones have left.
What an argument may read was offered to its parameter in that view. A column that a parameter takes
is one that its argument reads, unless it reads another or an earlier argument has read this one.
-/

set_option autoImplicit false

namespace Unflatten

/-- What is left in the scope of a site. -/
def Site.view (env : Environment) (site : Site) (pass : Pass) : View :=
  ⟨env.header, pass.claims, site.scope⟩

/-- The argument of the parameter may be planned from the column. -/
inductive View.Offers (view : View) (settings : Settings) (parameter : Parameter)
    (column : HeaderColumn) : Prop where
  | named (isLeaf : parameter.target.isLeaf = true) (sees : view.Sees column)
      (bears : view.scope.nameWithin column = foldName parameter.name)
  | member (isNested : parameter.target.isLeaf = false)
      (covers : (view.scope.member parameter.name settings.separator).Covers column)
  | nameless (isSink : parameter.isSink = true) (sees : view.Sees column)
      (unnamed : column.folded = foldName settings.sentinel)

/-- The argument of the parameter cannot do without a column while this one is free. The columns of
a member come before those without a name, whether or not it has a place for them. -/
inductive Environment.Takes (env : Environment) (view : View) (parameter : Parameter)
    (column : HeaderColumn) : Prop where
  | named (isLeaf : parameter.target.isLeaf = true) (sees : view.Sees column)
      (bears : view.scope.nameWithin column = foldName parameter.name)
  | member (isNested : parameter.target.isLeaf = false)
      (sees : (view.within parameter.name env.settings.separator).Sees column)
      (feeds : env.Feeds column (parameter.target.resolve env.bindings)
        (view.scope.member parameter.name env.settings.separator))
  | nameless (isSink : parameter.isSink = true) (sees : view.Sees column)
      (unnamed : column.folded = foldName env.settings.sentinel)
      (alone : parameter.target.isLeaf = false →
        view.bind? env.settings parameter = some .sink)
      (feeds : ∀ indices, column.index ∈ indices →
        env.Feeds column (parameter.target.resolve env.bindings) (.among indices))

section Later

variable {env : Environment} {settings : Settings} {parameter : Parameter} {column : HeaderColumn}
variable {site : Site} {pass next : Pass}

theorem View.Sees.later {header : Header} {scope : Scope}
    (sees : View.Sees ⟨header, pass.claims, scope⟩ column)
    (isFree : next.claims.isClaimed column.index = false) :
    View.Sees ⟨header, next.claims, scope⟩ column :=
  ⟨sees.isColumn, isFree, sees.inScope⟩

theorem View.Sees.earlier {header : Header} {scope : Scope}
    (sees : View.Sees ⟨header, next.claims, scope⟩ column) (onward : pass.Onward next) :
    View.Sees ⟨header, pass.claims, scope⟩ column := by
  refine ⟨sees.isColumn, Bool.eq_false_iff.mpr fun claimed => ?_, sees.inScope⟩
  have later : next.claims.isClaimed column.index = false := sees.isFree
  rw [onward.claims column.index claimed] at later
  cases later

theorem View.Offers.earlier (offers : (site.view env next).Offers settings parameter column)
    (onward : pass.Onward next) : (site.view env pass).Offers settings parameter column := by
  cases offers with
  | named isLeaf sees bears => exact .named isLeaf (sees.earlier onward) bears
  | member isNested covers => exact .member isNested covers
  | nameless isSink sees unnamed => exact .nameless isSink (sees.earlier onward) unnamed

theorem View.bind?_sink_iff {view : View} (isNested : parameter.target.isLeaf = false) :
    view.bind? settings parameter = some .sink ↔
      view.header.hasColumn view.claims view.scope (foldName parameter.name) = false ∧
        view.header.hasMember view.claims view.scope parameter.name settings.separator = false ∧
        parameter.isSink = true ∧
        ∃ column, view.Sees column ∧ column.folded = foldName settings.sentinel := by
  rw [← View.nameless_nonempty_iff]
  unfold bind?
  rw [isNested]
  cases view.header.hasColumn view.claims view.scope (foldName parameter.name) with
  | true => simp
  | false =>
      cases view.header.hasMember view.claims view.scope parameter.name settings.separator with
      | true => simp
      | false => simp

theorem View.bind?_sink_later (isNested : parameter.target.isLeaf = false)
    (bound : (site.view env pass).bind? settings parameter = some .sink)
    (onward : pass.Onward next) (sees : (site.view env next).Sees column)
    (unnamed : column.folded = foldName settings.sentinel) :
    (site.view env next).bind? settings parameter = some .sink := by
  obtain ⟨noColumn, noMember, isSink, -⟩ := (bind?_sink_iff isNested).mp bound
  refine (bind?_sink_iff isNested).mpr ⟨?_, ?_, isSink, column, sees, unnamed⟩
  · refine Bool.eq_false_iff.mpr fun found => ?_
    obtain ⟨other, alsoSees, bears⟩ := View.hasColumn_iff.mp found
    cases noColumn.symm.trans (View.hasColumn_iff.mpr ⟨other, alsoSees.earlier onward, bears⟩)
  · refine Bool.eq_false_iff.mpr fun found => ?_
    obtain ⟨other, alsoSees⟩ := View.hasMember_iff.mp found
    cases noMember.symm.trans (View.hasMember_iff.mpr ⟨other, alsoSees.earlier onward⟩)

namespace Environment.Takes

theorem sees {view : View} (takes : env.Takes view parameter column) :
    column ∈ view.header ∧ view.claims.isClaimed column.index = false := by
  cases takes with
  | named _ sees => exact ⟨sees.isColumn, sees.isFree⟩
  | member _ sees => exact ⟨sees.isColumn, sees.isFree⟩
  | nameless _ sees => exact ⟨sees.isColumn, sees.isFree⟩

theorem of_serves {view : View} (isLeaf : parameter.target.isLeaf = true)
    (serves : view.Serves env.settings parameter column) : env.Takes view parameter column := by
  cases serves with
  | named sees bears => exact .named isLeaf sees bears
  | member isNested => cases isLeaf.symm.trans isNested
  | nameless isSink sees unnamed =>
      have resolved : (parameter.target.resolve env.bindings).isLeaf = true := by
        rw [Target.isLeaf, Target.leaf?_resolve]
        exact isLeaf
      exact .nameless isSink sees unnamed (fun isNested => by cases isLeaf.symm.trans isNested)
        fun indices member => .leaf resolved (Scope.among_contains.mpr member)

theorem later (takes : env.Takes (site.view env pass) parameter column)
    (onward : pass.Onward next) (isFree : next.claims.isClaimed column.index = false) :
    env.Takes (site.view env next) parameter column := by
  cases takes with
  | named isLeaf sees bears => exact .named isLeaf (sees.later isFree) bears
  | member isNested sees feeds =>
      exact .member isNested (sees.later isFree) feeds
  | nameless isSink sees unnamed alone feeds =>
      have stillSees := sees.later isFree
      exact .nameless isSink stillSees unnamed
        (fun isNested => View.bind?_sink_later isNested (alone isNested) onward stillSees unnamed)
        feeds

end Environment.Takes

end Later

namespace Planning

variable {env : Environment} {column : HeaderColumn} {recurse : Planner} {site : Site}
variable {pass next : Pass} {program : Program} {result : Option Program} {parameter : Parameter}

/-! ## What arguments take -/

section Takes

variable (indexed : env.header.WellIndexed) (diligent : Diligent env column recurse)
variable (sized : pass.claims.length = env.header.length)

include diligent sized

theorem planSink_grows {target : Target} (sees : (site.view env pass).Sees column)
    (unnamed : column.folded = foldName env.settings.sentinel)
    (feeds : ∀ indices, column.index ∈ indices →
      env.Feeds column (target.resolve env.bindings) (.among indices))
    (given : Gives (planSink env recurse site target) pass result next) :
    (∃ program, result = some program) ∧ pass.Grows next := by
  have offered : column.index ∈
      env.header.nameless pass.claims site.scope env.settings.sentinel :=
    List.mem_map_of_mem (List.mem_filter.mpr
      ⟨View.mem_available_iff.mpr sees, beq_iff_eq.mpr unnamed⟩)
  unfold planSink at given
  rw [gives_bind] at given
  obtain ⟨found, between, same, given⟩ := given
  obtain ⟨rfl, rfl⟩ := gives_claims.mp same
  dsimp only at given
  rw [List.isEmpty_eq_false_iff.mpr (List.ne_nil_of_mem offered), if_neg (by simp)] at given
  exact diligent rfl (feeds _ offered) ⟨by simp, sized, sees.isColumn, sees.isFree⟩ given

theorem planMemberArgument_grows (isNested : parameter.target.isLeaf = false)
    (sees : ((site.view env pass).within parameter.name env.settings.separator).Sees column)
    (feeds : env.Feeds column (parameter.target.resolve env.bindings)
      (site.scope.member parameter.name env.settings.separator))
    (given : Gives (planNamedArgument env recurse site parameter) pass result next) :
    (∃ program, result = some program) ∧ pass.Grows next := by
  have noLeaf : parameter.target.leaf? = none := by
    rwa [Target.isLeaf, Option.isSome_eq_false_iff, Option.isNone_iff_eq_none] at isNested
  have hasMember : env.header.hasMember pass.claims site.scope parameter.name
      env.settings.separator = true :=
    (@View.hasMember_iff (site.view env pass) _ _).mpr ⟨column, sees⟩
  unfold planNamedArgument at given
  rw [gives_bind] at given
  obtain ⟨column?, between, found, given⟩ := given
  obtain ⟨-, rfl⟩ := gives_find?.mp found
  rw [noLeaf] at given
  dsimp only at given
  rw [gives_bind] at given
  obtain ⟨present, between, found, given⟩ := given
  obtain ⟨rfl, rfl⟩ := gives_hasMember.mp found
  rw [hasMember, Bool.or_true, if_pos rfl] at given
  exact diligent rfl feeds ⟨by simp [Site.member], sized, sees.isColumn, sees.isFree⟩ given

omit diligent in
theorem planLeafArgument_gives (indexed : env.header.WellIndexed)
    (isLeaf : parameter.target.isLeaf = true)
    (given : Gives (planNamedArgument env recurse site parameter) pass result next) :
    ((∃ program, result = some program) ∧ pass.Grows next) ∨
      (result = none ∧ next = pass ∧
        env.header.hasColumn pass.claims site.scope (foldName parameter.name) = false) := by
  obtain ⟨leaf, isLeaf⟩ := Option.isSome_iff_exists.mp isLeaf
  unfold planNamedArgument at given
  rw [gives_bind] at given
  obtain ⟨column?, between, found, given⟩ := given
  obtain ⟨rfl, rfl⟩ := gives_find?.mp found
  rw [isLeaf] at given
  dsimp only at given
  cases named : env.header.find? between.claims site.scope (foldName parameter.name) with
  | none =>
      rw [named] at given
      obtain ⟨rfl, rfl⟩ := gives_pure.mp given
      exact .inr ⟨rfl, rfl, by rw [Header.hasColumn, named]; rfl⟩
  | some first =>
      rw [named] at given
      obtain ⟨program, rfl, reads⟩ := gives_planned.mp given
      have unclaimed := Header.find?_unclaimed indexed sized named
      exact .inl ⟨⟨program, rfl⟩,
        (read_planned unclaimed reads).2.grows unclaimed (List.mem_singleton.mpr rfl)⟩

omit diligent sized in
theorem planNamedArgument_sink (isNested : parameter.target.isLeaf = false)
    (bound : (site.view env pass).bind? env.settings parameter = some .sink)
    (given : Gives (planNamedArgument env recurse site parameter) pass result next) :
    result = none ∧ next = pass := by
  have noLeaf : parameter.target.leaf? = none := by
    rwa [Target.isLeaf, Option.isSome_eq_false_iff, Option.isNone_iff_eq_none] at isNested
  obtain ⟨noColumn, noMember, -⟩ := (View.bind?_sink_iff isNested).mp bound
  unfold planNamedArgument at given
  rw [gives_bind] at given
  obtain ⟨column?, between, found, given⟩ := given
  obtain ⟨rfl, rfl⟩ := gives_find?.mp found
  rw [noLeaf] at given
  dsimp only at given
  rw [gives_bind] at given
  obtain ⟨present, between, found, given⟩ := given
  obtain ⟨rfl, rfl⟩ := gives_hasMember.mp found
  rw [Header.hasColumn] at noColumn
  dsimp only [Site.view] at noColumn noMember
  rw [noColumn, noMember, Bool.or_false, if_neg (by simp)] at given
  exact gives_pure.mp given

theorem planArgument_grows (indexed : env.header.WellIndexed)
    (takes : env.Takes (site.view env pass) parameter column)
    (given : Gives (planArgument env recurse site parameter) pass program next) :
    pass.Grows next := by
  unfold planArgument at given
  rw [gives_bind] at given
  obtain ⟨named, middle, planned, given⟩ := given
  have finish (grows : (∃ program, named = some program) ∧ pass.Grows middle) :
      pass.Grows next := by
    obtain ⟨⟨found, rfl⟩, grows⟩ := grows
    obtain ⟨-, rfl⟩ := gives_pure.mp given
    exact grows
  cases takes with
  | named isLeaf sees bears =>
      rcases planLeafArgument_gives sized indexed isLeaf planned with grows | ⟨-, -, missing⟩
      · exact finish grows
      · have found := (@View.hasColumn_iff (site.view env pass) _).mpr ⟨column, sees, bears⟩
        cases missing.symm.trans found
  | member isNested sees feeds =>
      exact finish (planMemberArgument_grows diligent sized isNested sees feeds planned)
  | nameless isSink sees unnamed alone feeds =>
      have left : ((∃ program, named = some program) ∧ pass.Grows middle) ∨
          (named = none ∧ middle = pass) := by
        cases isLeaf : parameter.target.isLeaf with
        | true =>
            rcases planLeafArgument_gives sized indexed isLeaf planned with grows | ⟨none, same, -⟩
            · exact .inl grows
            · exact .inr ⟨none, same⟩
        | false => exact .inr (planNamedArgument_sink isLeaf (alone isLeaf) planned)
      rcases left with grows | ⟨rfl, rfl⟩
      · exact finish grows
      · dsimp only at given
        rw [isSink, if_pos rfl, gives_bind] at given
        obtain ⟨sunk, between, sink, given⟩ := given
        obtain ⟨⟨found, rfl⟩, grows⟩ := planSink_grows diligent sized sees unnamed feeds sink
        obtain ⟨-, rfl⟩ := gives_pure.mp given
        exact grows

end Takes

/-! ## What arguments are offered -/

section Offers

variable (indexed : env.header.WellIndexed) (planLocal : Local env 0 recurse)
variable (isColumn : column ∈ env.header) (sized : pass.claims.length = env.header.length)
variable (isFree : pass.claims.isClaimed column.index = false)
variable (isClaimed : next.claims.isClaimed column.index = true)
include indexed planLocal isColumn sized isFree isClaimed

theorem planSink_offered {target : Target}
    (given : Gives (planSink env recurse site target) pass result next) :
    (site.view env pass).Sees column ∧ column.folded = foldName env.settings.sentinel := by
  rcases planSink_gives given with ⟨-, rfl⟩ | given
  · cases isFree.symm.trans isClaimed
  · by_cases covers : (sinkSite env site pass target).scope.Covers column
    · obtain ⟨other, isOther, same⟩ := List.mem_map.mp (Scope.among_covers.mp covers)
      obtain ⟨isAvailable, unnamed⟩ := List.mem_filter.mp isOther
      have sees := (@View.mem_available_iff (site.view env pass) other).mp isAvailable
      obtain rfl := List.inj_on_of_nodup_map indexed.nodup sees.isColumn isColumn same
      exact ⟨sees, beq_iff_eq.mp unnamed⟩
    · have spared := site_spare planLocal isColumn sized covers given
      cases isFree.symm.trans (spared.symm.trans isClaimed)

theorem planNamedArgument_offered
    (given : Gives (planNamedArgument env recurse site parameter) pass result next) :
    (site.view env pass).Offers env.settings parameter column := by
  rcases planNamedArgument_gives given with ⟨-, rfl⟩ | ⟨leaf, other, _, -, isLeaf, found, reads⟩ |
    ⟨notLeaf, member⟩
  · cases isFree.symm.trans isClaimed
  · have bears := List.find?_some found
    have sees := (@View.mem_available_iff (site.view env pass) other).mp
      (List.mem_of_find?_eq_some found)
    obtain ⟨-, rfl⟩ := gives_read.mp reads
    have inside : other.index < pass.claims.length := sized ▸ indexed.inside sees.isColumn
    rcases (Claims.isClaimed_claim inside column.index).mp isClaimed with same | earlier
    · obtain rfl := List.inj_on_of_nodup_map indexed.nodup isColumn sees.isColumn same
      exact .named (by rw [Target.isLeaf, isLeaf]; rfl) sees (beq_iff_eq.mp bears)
    · cases isFree.symm.trans earlier
  · by_cases covers : (site.scope.member parameter.name env.settings.separator).Covers column
    · exact .member (by rw [Target.isLeaf, notLeaf]; rfl) covers
    · have spared := site_spare planLocal isColumn sized covers member
      cases isFree.symm.trans (spared.symm.trans isClaimed)

theorem planArgument_offered (reliable : Reliable env recurse)
    (given : Gives (planArgument env recurse site parameter) pass program next) :
    (site.view env pass).Offers env.settings parameter column := by
  rcases planArgument_gives given with named | ⟨middle, declined, way⟩
  · exact planNamedArgument_offered indexed planLocal isColumn sized isFree isClaimed named
  · obtain rfl := planNamedArgument_declines reliable declined
    rcases way with ⟨isSink, sink⟩ | ⟨between, unsunk, default⟩
    · obtain ⟨sees, unnamed⟩ :=
        planSink_offered indexed planLocal isColumn sized isFree isClaimed sink
      exact .nameless isSink sees unnamed
    · have same : between = middle := by
        rcases unsunk with same | refused
        · exact same
        · exact planSink_declines reliable refused
      obtain ⟨-, rfl⟩ := gives_constant.mp default
      rw [same] at isClaimed
      cases isFree.symm.trans isClaimed

end Offers

/-! ## Arguments in turn -/

/-- The argument at a place is planned from a pass in which only the arguments before it have
claimed anything. -/
theorem planArguments_place (indexed : env.header.WellIndexed) (reliable : Reliable env recurse)
    {parameters : List Parameter} {arguments : List Program} {place : Nat} {argument : Program}
    (sized : pass.claims.length = env.header.length)
    (given : Gives (planArguments env recurse site parameters) pass arguments next)
    (isParameter : parameters[place]? = some parameter)
    (isArgument : arguments[place]? = some argument) :
    ∃ before after, pass.Onward before ∧ Planned none before argument after ∧
      Gives (planArgument env recurse site parameter) before argument after ∧
      ∀ index, before.claims.isClaimed index = true → pass.claims.isClaimed index = true ∨
        ∃ earlier ∈ arguments.take place, index ∈ programColumns earlier := by
  induction parameters generalizing pass arguments place with
  | nil => cases isParameter
  | cons first rest ih =>
      obtain ⟨program, middle, others, planned, later, rfl⟩ := planArguments_cons given
      have isPlanned := planArgument_planned indexed reliable sized planned
      cases place with
      | zero =>
          obtain rfl := Option.some.inj isParameter
          obtain rfl := Option.some.inj isArgument
          exact ⟨pass, middle, Pass.Onward.refl, isPlanned, planned, fun _ claimed => .inl claimed⟩
      | succ place =>
          have onward := isPlanned.block.onward
          obtain ⟨before, after, further, argumentPlanned, given, claims⟩ :=
            ih (onward.length.trans sized) later isParameter isArgument
          refine ⟨before, after, onward.trans further, argumentPlanned, given,
            fun index claimed => ?_⟩
          rw [List.take_succ_cons]
          rcases claims index claimed with before | ⟨earlier, member, isRead⟩
          · rcases (isPlanned.block.columns index).mp before with start | isRead
            · exact .inl start
            · exact .inr ⟨program, by simp, by rwa [programColumns_eq]⟩
          · exact .inr ⟨earlier, List.mem_cons_of_mem _ member, isRead⟩

theorem planArguments_length {parameters : List Parameter} {arguments : List Program}
    (given : Gives (planArguments env recurse site parameters) pass arguments next) :
    arguments.length = parameters.length := by
  induction parameters generalizing pass arguments with
  | nil =>
      obtain ⟨rfl, -⟩ := gives_pure.mp given
      rfl
  | cons first rest ih =>
      obtain ⟨program, middle, others, -, later, rfl⟩ := planArguments_cons given
      rw [List.length_cons, List.length_cons, ih later]

end Planning

end Unflatten
