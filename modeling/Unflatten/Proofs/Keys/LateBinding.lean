import Unflatten.Proofs.Keys.Sessions

/-!
# References bound between calls

A reference is bound once and for all, so what a target reached when all references below its object
types were bound is what it reaches ever after. A mapper that was made then stays as good as a fresh
one, while references that a target is written with may be bound at any time: its key tells.
-/

set_option autoImplicit false

namespace Unflatten

theorem Reference.bind_extends {ref : Reference} {type : ObjectType} {bindings later : Bindings}
    (bound : ref.bind type bindings = .ok later) : later.Extends bindings := by
  intro other found before
  unfold Reference.bind at bound
  split at bound
  · cases bound
  · split at bound
    · cases bound
    · rename_i unbound
      obtain rfl := Except.ok.inj bound
      have apart : (other.ident == ref.ident) = false := by
        rw [beq_eq_false_iff_ne]
        intro same
        rw [Bindings.find?, ← same] at unbound
        rw [Bindings.find?, unbound] at before
        cases before
      rw [Bindings.find?, List.lookup_cons, apart]
      exact before

theorem Bindings.Extends.refl (bindings : Bindings) : bindings.Extends bindings :=
  fun _ _ found => found

theorem Bindings.Extends.trans {first second third : Bindings} (later : third.Extends second)
    (earlier : second.Extends first) : third.Extends first :=
  fun ref type found => later ref type (earlier ref type found)

inductive Event where
  | bind (ref : Reference) (type : ObjectType)
  | ask (call : Call)

/-- The bindings in force and the store that all calls share. -/
structure Session where
  bindings : Bindings := []
  store : MapperStore := {}

/-- References that every object type of the target has are bound, and the other references have
plain names. -/
structure Call.Settled (memory : Memory) (bindings : Bindings) (call : Call) : Prop where
  clear : (call.request bindings).Clear memory
  bound : ∀ type, call.target.Reaches bindings call.settings (.object type) →
    (Target.object type).AllBound bindings call.settings
  standard : call.strategy = .standard

namespace Session

/-- A reference that cannot be bound leaves everything as it is. -/
def perform (session : Session) : Event → Session
  | .bind ref type =>
    match ref.bind type session.bindings with
    | .ok bindings => { session with bindings }
    | .error _ => session
  | .ask call => { session with store := (call.ask session.bindings session.store).2 }

def after (session : Session) (events : List Event) : Session :=
  events.foldl perform session

/-- Every call is settled at its time. -/
def Orderly (memory : Memory) : Session → List Event → Prop
  | _, [] => True
  | session, .bind ref type :: rest => Orderly memory (session.perform (.bind ref type)) rest
  | session, .ask call :: rest =>
    call.Settled memory session.bindings ∧ Orderly memory (session.perform (.ask call)) rest

/-- Whatever stands in the store was made for a call that was settled under bindings that are still
in force. -/
def Kept (memory : Memory) (session : Session) : Prop :=
  session.store.FilledBy fun call before =>
    call.Settled memory before ∧ session.bindings.Extends before

section Histories

variable {memory : Memory} {session : Session} {call : Call}

theorem Kept.bind (kept : session.Kept memory) (ref : Reference) (type : ObjectType) :
    (session.perform (.bind ref type)).Kept memory := by
  unfold perform
  dsimp only
  split
  · rename_i later bound
    exact kept.mono fun call before made => ⟨made.1, (Reference.bind_extends bound).trans made.2⟩
  · exact kept

theorem Kept.ask (kept : session.Kept memory) (settled : call.Settled memory session.bindings) :
    (session.perform (.ask call)).Kept memory :=
  MapperStore.FilledBy.ask kept ⟨settled, Bindings.Extends.refl _⟩

theorem Kept.after (kept : session.Kept memory) {events : List Event}
    (orderly : session.Orderly memory events) : (session.after events).Kept memory := by
  induction events generalizing session with
  | nil => exact kept
  | cons event rest ih =>
      cases event with
      | bind ref type => exact ih (kept.bind ref type) orderly
      | ask call => exact ih (kept.ask orderly.1) orderly.2

theorem Kept.serves (kept : session.Kept memory)
    (clear : (call.request session.bindings).Clear memory) (standard : call.strategy = .standard) :
    Call.Serves (call.ask session.bindings session.store).1 (call.fresh session.bindings) := by
  refine MapperStore.FilledBy.serves kept fun earlier before made same => ?_
  obtain ⟨settled, grown⟩ := made
  have steady : (earlier.request before).Steady (call.request session.bindings) :=
    fun type reached _ => (settled.bound type reached).steady grown
  have indifferent : Strategy.standard.Indifferent (earlier.request before).site
      (call.request session.bindings).site := by
    simp [Strategy.Indifferent]
  have concurs := Request.compile_concurs settled.clear clear steady same indifferent
  rwa [Call.fresh, Call.fresh, settled.standard, standard]

/-- In every history of bindings and calls each answer is as good as a mapper that is made at that
moment, as long as earlier calls were settled. -/
theorem ask_serves {events : List Event} (orderly : Orderly memory {} events)
    (clear : (call.request (after {} events).bindings).Clear memory)
    (standard : call.strategy = .standard) :
    Call.Serves (call.ask (after {} events).bindings (after {} events).store).1
      (call.fresh (after {} events).bindings) := by
  have empty : Kept memory {} := by
    intro entry member
    cases member
  exact (empty.after orderly).serves clear standard

end Histories

end Session

/-! ## A reference that is bound late -/

namespace Leaves

def late : Reference := ⟨7, "leaf"⟩

def leaf : ObjectType :=
  ObjectTypeOf.declare 1 "Leaf" false [{ name := "Id", target := .scalar (.int .int32) }] 2 []

def node : ObjectType :=
  ObjectTypeOf.declare 3 "Node" false [{ name := "Child", target := .reference late }] 4 []

def memory : Memory := fun ident =>
  if ident = 1 then some (.descriptor (.object leaf)) else none

def leaves : Call :=
  ⟨.standard, .list (.reference late), [Column.declare "Id" (.int .int32)], {}⟩

/-- The elements are unbound in the first call and bound in the second one. -/
def events : List Event := [.ask leaves, .bind late leaf, .ask leaves]

inductive Reached : Target → Prop where
  | leaves : Reached (.list (.reference late))
  | reference : Reached (.reference late)
  | leaf : Reached (.object leaf)
  | number : Reached (.scalar (.int .int32))

section Bound

variable {bindings : Bindings}
  (bound : ∀ type, bindings.find? late = some type → type = leaf)

theorem leaf_bound : (Target.object leaf).AllBound bindings {} := by
  intro ref reached
  have closed := reached.within
    (fun target => target = .object leaf ∨ target = .scalar (.int .int32)) (Or.inl rfl)
    fun outer known part member => by
      rcases known with rfl | rfl
      · have parts : (Target.object leaf).parts bindings {} = [.scalar (.int .int32)] := rfl
        rw [parts] at member
        exact Or.inr (List.mem_singleton.mp member)
      · cases member
  rcases closed with same | same
  · cases same
  · cases same

include bound

theorem reached_closed (outer : Target) (reached : Reached outer) :
    ∀ part ∈ outer.parts bindings {}, Reached part := by
  cases reached with
  | leaves => simpa [Target.parts] using Reached.reference
  | reference =>
      intro part member
      cases found : bindings.find? late with
      | none => simp [Target.parts, found] at member
      | some type =>
          obtain rfl := bound type found
          obtain rfl : part = .object leaf := by simpa [Target.parts, found] using member
          exact Reached.leaf
  | leaf =>
      have parts : (Target.object leaf).parts bindings {} = [.scalar (.int .int32)] := rfl
      rw [parts]
      simpa using Reached.number
  | number => simp [Target.parts]

theorem settled : leaves.Settled memory bindings where
  clear := by
    have unset : Settings.Held memory {} :=
      ⟨fun _ member => (by cases member), fun _ member => (by cases member)⟩
    refine ⟨⟨fun inner ident reached described => ?_, unset⟩, fun ref reached _ => ?_⟩
    · cases reached.within Reached Reached.leaves (reached_closed bound) with
      | leaf =>
          cases described
          rfl
      | leaves | reference | number => cases described
    · generalize same : Target.reference ref = inner at reached
      cases reached.within Reached Reached.leaves (reached_closed bound) with
      | reference =>
          cases same
          decide
      | leaves | leaf | number => cases same
  bound := by
    intro type reached
    generalize same : Target.object type = inner at reached
    cases reached.within Reached Reached.leaves (reached_closed bound) with
    | leaf =>
        cases same
        exact leaf_bound
    | leaves | reference | number => cases same
  standard := rfl

end Bound

theorem unbound_before (type : ObjectType) (found : Bindings.find? [] late = some type) :
    type = leaf := by
  cases found

theorem bound_after (type : ObjectType) (found : Bindings.find? [(7, leaf)] late = some type) :
    type = leaf := by
  cases found
  rfl

theorem orderly : Session.Orderly memory {} events :=
  ⟨settled unbound_before, settled bound_after, trivial⟩

-- The mapper of the second call is given.
example :
    (leaves.ask (Session.after {} events).bindings (Session.after {} events).store).1.map
      Prod.fst = .ok 1 := by
  decide +kernel

end Leaves

theorem Leaves.leaves_served :
    Call.Serves
      (Leaves.leaves.ask (Session.after {} Leaves.events).bindings
        (Session.after {} Leaves.events).store).1
      (Leaves.leaves.fresh (Session.after {} Leaves.events).bindings) :=
  Session.ask_serves Leaves.orderly (Leaves.settled Leaves.bound_after).clear rfl

namespace Leaves

/-! ## A reference below an object type -/

def parent : Call :=
  ⟨.standard, .object node, [Column.declare "Child_Id" (.int .int32)], {}⟩

def row : Row :=
  ⟨[Column.declare "Child_Id" (.int .int32)], [.int .int32 (FixedInt.wrapping .int32 5)]⟩

/-- The session after a call for the parent and the binding of its child. -/
def session : Session :=
  Session.after {} [.ask parent, .bind late leaf]

/-- Whether the child is left out. -/
def lacksChild (mapper : Mapper) : Except Failure Bool :=
  (mapper.map row).map fun value => (value.field "Child").isNull

theorem parent_answered :
    ((parent.ask session.bindings session.store).1.bind fun found => lacksChild found.2) =
      .ok true := by
  decide +kernel

theorem parent_fresh : ((parent.fresh session.bindings).bind lacksChild) = .ok false := by
  decide +kernel

end Leaves

/-- A reference of a property is no part of the key: the mapper that was made before it was bound
leaves the child out for ever. -/
theorem Leaves.parent_not_served :
    ¬ Call.Serves
      (Leaves.parent.ask Leaves.session.bindings Leaves.session.store).1
      (Leaves.parent.fresh Leaves.session.bindings) := by
  intro serves
  have answered := Leaves.parent_answered
  have fresh := Leaves.parent_fresh
  revert serves answered fresh
  generalize (Leaves.parent.ask Leaves.session.bindings Leaves.session.store).1 = answer
  generalize Leaves.parent.fresh Leaves.session.bindings = made
  intro serves answered fresh
  cases serves with
  | error => cases answered
  | @ok found mapper same =>
      have mapped : Leaves.lacksChild found.2 = Leaves.lacksChild mapper := by
        rw [Leaves.lacksChild, Leaves.lacksChild, same.maps]
      have different : (Except.ok true : Except Failure Bool) = Except.ok false :=
        answered.symm.trans (mapped.trans fresh)
      cases different

end Unflatten
