import Mathlib.Data.List.Induction
import RecordQuery.Proofs.Outcome
import RecordQuery.Proofs.Table.Registries
import RecordQuery.Table.Session

/-!
# Histories of sessions

A host program opens connections, registers record types on one of them or for all, and prepares
statements, in any order. What a connection knows under a name depends on two things: the types
that were registered on it, and the type that it found shared when it first prepared a statement
after the name was shared. Types registered on the connection are never replaced by shared ones,
but a shared type whose name a table has exactly comes before one whose name differs in case. A
shared type that was taken over stays, even where the name is shared again with another type.
-/

namespace RecordQuery

namespace Session

/-! ## Operations -/

/-- What a host program does to a session. -/
inductive Operation where
  | connect (files : Files) (name : String) (options : TableOptions)
  | register (number : Nat) (name : String) (type : RecordType)
  | share (name : String) (type : RecordType)
  | prepare (number : Nat) (sql : String)
  | execute (number : Nat) (prepared : Prepared) (args : List Value)

/-- The session behind an operation. One that is refused leaves the session as it is, except that
a refused statement was prepared all the same. -/
def perform (session : Session) : Operation → Session
  | .connect files name options =>
      match session.connect files name options with
      | .ok (_, opened) => opened
      | .error _ => session
  | .register number name type => session.register number name type
  | .share name type => session.share name type
  | .prepare number sql => (session.prepare number sql).2
  | .execute number prepared args =>
      match session.execute number prepared args with
      | .ok changed => changed
      | .error _ => session

/-- The session behind operations in turn. -/
def run (session : Session) (operations : List Operation) : Session :=
  operations.foldl perform session

theorem run_snoc (session : Session) (operations : List Operation) (last : Operation) :
    session.run (operations ++ [last]) = (session.run operations).perform last :=
  List.foldl_append ..

/-- What a prepared statement registers, unless it is refused. -/
def registration? (prepared : Prepared) (args : List Value) :
    Option (Sql.Registration × RecordType) :=
  match prepared.statement with
  | .select _ => none
  | .register registration => (registration.type args).toOption.map (registration, ·)

/-- The name and the type that an operation registers on a connection. -/
def Operation.own? (number : Nat) : Operation → Option (String × RecordType)
  | .register other name type => if other = number then some (name, type) else none
  | .execute other prepared args =>
      if other = number then
        (registration? prepared args).map fun (registration, type) => (registration.name, type)
      else none
  | _ => none

/-- The name and the type that an operation registers for all connections. -/
def Operation.shared? : Operation → Option (String × RecordType)
  | .share name type => some (name, type)
  | .execute _ prepared args =>
      (registration? prepared args).bind fun (registration, type) =>
        if registration.everywhere then some (registration.name, type) else none
  | _ => none

/-- Whether a connection prepares a statement. -/
def Operation.prepares (number : Nat) : Operation → Bool
  | .prepare other _ => other == number
  | _ => false

/-! ## What an operation changes -/

/-- A registry with one more registration, where there is one. -/
def noted (registry : TypeRegistry) : Option (String × RecordType) → TypeRegistry
  | none => registry
  | some (name, type) => registry.register name type

/-- The types that a connection knows; none before it is opened. -/
def typesOf (session : Session) (number : Nat) : TypeRegistry :=
  ((session.connections[number]?).map (·.types)).getD .empty

def isOpen (session : Session) (number : Nat) : Bool := number < session.connections.length

variable {session : Session} {number : Nat} {operations : List Operation}

/-- A statement that is executed registers its type for all connections, where it says so, and on
its own. -/
theorem perform_execute (session : Session) (number : Nat) (prepared : Prepared)
    (args : List Value) :
    session.perform (.execute number prepared args) =
      match registration? prepared args with
      | none => session
      | some (registration, type) =>
          (if registration.everywhere then session.share registration.name type
            else session).register number registration.name type := by
  rw [perform, execute, registration?]
  cases prepared.statement with
  | select select => rfl
  | register registration =>
      dsimp only
      cases registration.type args with
      | error error => rfl
      | ok type => rfl

theorem shared_perform (session : Session) (operation : Operation) :
    (session.perform operation).shared = noted session.shared operation.shared? := by
  cases operation with
  | connect files name options =>
      rw [perform, connect]
      cases Connection.connect files name options <;> rfl
  | register number name type => rfl
  | share name type => rfl
  | prepare number sql => rfl
  | execute number prepared args =>
      rw [perform_execute, Operation.shared?]
      cases registration? prepared args with
      | none => rfl
      | some found =>
          obtain ⟨registration, type⟩ := found
          cases everywhere : registration.everywhere <;> simp [everywhere, noted, share] <;> rfl

theorem typesOf_of_not_isOpen (closed : session.isOpen number = false) :
    session.typesOf number = .empty := by
  rw [typesOf, List.getElem?_eq_none (by simpa [isOpen] using closed)]
  rfl

/-- A change of one connection changes what that connection knows, if it is open. -/
theorem typesOf_update (session : Session) (number other : Nat) (change : Connection → Connection)
    (image : TypeRegistry → TypeRegistry) (same : ∀ own, (change own).types = image own.types) :
    (session.update other change).typesOf number =
      if other = number ∧ session.isOpen number then image (session.typesOf number)
      else session.typesOf number := by
  rw [typesOf, update, List.getElem?_modify, Option.map_eq_map, Option.map_map, typesOf]
  by_cases inside : number < session.connections.length
  · rw [List.getElem?_eq_getElem inside, isOpen, decide_eq_true inside]
    by_cases here : other = number <;> simp [here, same]
  · rw [List.getElem?_eq_none (Nat.le_of_not_lt inside), isOpen, decide_eq_false inside]
    simp

theorem typesOf_register (session : Session) (number other : Nat) (name : String)
    (type : RecordType) :
    (session.register other name type).typesOf number =
      if other = number ∧ session.isOpen number then (session.typesOf number).register name type
      else session.typesOf number :=
  typesOf_update session number other _ (·.register name type) fun _ => rfl

/-- A connection that is opened knows no type, and the others are not affected. -/
theorem typesOf_connect (session : Session) (number : Nat) (files : Files) (name : String)
    (options : TableOptions) :
    (session.perform (.connect files name options)).typesOf number = session.typesOf number := by
  rw [perform, connect]
  cases made : Connection.connect files name options with
  | error error => rfl
  | ok connection =>
      rcases Outcome.bind_eq_ok.1 made with ⟨location, -, same⟩
      cases same
      change (((session.connections ++ [_])[number]?).map Connection.types).getD .empty = _
      rw [typesOf, List.getElem?_append]
      split
      · rfl
      · rename_i beyond
        rw [List.getElem?_eq_none (Nat.le_of_not_lt beyond)]
        cases number - session.connections.length <;> rfl

/-- The types that an open connection knows change where it registers one itself, and where it
takes the shared ones over as it prepares a statement. -/
theorem typesOf_perform (session : Session) (number : Nat) (operation : Operation) :
    (session.perform operation).typesOf number =
      if session.isOpen number then
        if operation.prepares number then (session.typesOf number).merge session.shared
        else noted (session.typesOf number) (operation.own? number)
      else .empty := by
  -- The changes of a connection that is not open are changes of nothing.
  have closed (none : session.isOpen number = false) : session.typesOf number = .empty :=
    typesOf_of_not_isOpen none
  cases operation with
  | connect files name options =>
      rw [typesOf_connect]
      cases opened : session.isOpen number with
      | false => exact closed opened
      | true => rfl
  | register other name type =>
      rw [perform, typesOf_register, Operation.own?]
      cases opened : session.isOpen number with
      | false => simp [closed opened]
      | true => by_cases here : other = number <;> simp [here, Operation.prepares, noted]
  | share name type =>
      cases opened : session.isOpen number with
      | false => exact closed opened
      | true => rfl
  | prepare other sql =>
      have merged := typesOf_update session number other (·.adopt session.shared)
        (·.merge session.shared) fun _ => rfl
      rw [perform, prepare, merged, Operation.prepares]
      cases opened : session.isOpen number with
      | false => simp [closed opened]
      | true => by_cases here : other = number <;> simp [here, Operation.own?, noted]
  | execute other prepared args =>
      rw [perform_execute, Operation.own?]
      cases registration? prepared args with
      | none =>
          cases opened : session.isOpen number with
          | false => exact closed opened
          | true => simp [Operation.prepares, noted]
      | some found =>
          obtain ⟨registration, type⟩ := found
          have same : (if registration.everywhere then session.share registration.name type
              else session).typesOf number = session.typesOf number ∧
              (if registration.everywhere then session.share registration.name type
                else session).isOpen number = session.isOpen number := by
            split <;> exact ⟨rfl, rfl⟩
          dsimp only
          rw [typesOf_register, same.1, same.2]
          cases opened : session.isOpen number with
          | false => simp [closed opened]
          | true => by_cases here : other = number <;> simp [here, Operation.prepares, noted]

/-! ## What a connection knows -/

/-- The type that was last registered under a name. -/
def latest? (registrations : List (String × RecordType)) (name : String) : Option RecordType :=
  registrations.reverse.lookup name

/-- The types that operations register on a connection behind its opening, in order. -/
def ownOn (number : Nat) : Session → List Operation → List (String × RecordType)
  | _, [] => []
  | session, operation :: rest =>
      (if session.isOpen number then operation.own? number else none).toList ++
        ownOn number (session.perform operation) rest

/-- The type that a connection finds shared under a name when it first prepares a statement after
the name is shared. -/
def adopted? (number : Nat) (name : String) : Session → List Operation → Option RecordType
  | _, [] => none
  | session, operation :: rest =>
      (if session.isOpen number && operation.prepares number then session.shared.get? name
        else none).or (adopted? number name (session.perform operation) rest)

theorem latest?_snoc (registrations : List (String × RecordType)) (name given : String)
    (type : RecordType) : latest? (registrations ++ [(name, type)]) given =
      if given = name then some type else latest? registrations given := by
  rw [latest?, List.reverse_append, List.reverse_singleton, List.singleton_append,
    List.lookup_cons]
  by_cases same : given = name
  · simp [same]
  · have differ : (given == name) = false := by simpa using same
    simp [same, differ, latest?]

theorem ownOn_snoc (number : Nat) (session : Session) (operations : List Operation)
    (last : Operation) : ownOn number session (operations ++ [last]) =
      ownOn number session operations ++
        (if (session.run operations).isOpen number then last.own? number else none).toList := by
  induction operations generalizing session with
  | nil =>
      rw [List.nil_append, ownOn, ownOn, ownOn, List.append_nil, List.nil_append]
      rfl
  | cons first rest ih =>
      rw [List.cons_append, ownOn, ih, ownOn, List.append_assoc]
      rfl

theorem adopted?_append (number : Nat) (name : String) (session : Session)
    (first second : List Operation) : adopted? number name session (first ++ second) =
      (adopted? number name session first).or
        (adopted? number name (session.run first) second) := by
  induction first generalizing session with
  | nil =>
      rw [List.nil_append, adopted?, Option.none_or]
      rfl
  | cons operation rest ih =>
      rw [List.cons_append, adopted?, ih, adopted?, Option.or_assoc]
      rfl

theorem adopted?_snoc (number : Nat) (name : String) (session : Session)
    (operations : List Operation) (last : Operation) :
    adopted? number name session (operations ++ [last]) =
      (adopted? number name session operations).or
        (if (session.run operations).isOpen number && last.prepares number then
          (session.run operations).shared.get? name else none) := by
  rw [adopted?_append, adopted?, adopted?, Option.or_none]

theorem distinct_noted {registry : TypeRegistry} (distinct : registry.Distinct)
    (entry : Option (String × RecordType)) : (noted registry entry).Distinct := by
  cases entry with
  | none => exact distinct
  | some entry => exact distinct.register entry.1 entry.2

theorem distinct_shared (operations : List Operation) :
    (empty.run operations).shared.Distinct := by
  induction operations using List.reverseRecOn with
  | nil => exact (List.nodup_nil : ([] : List String).Nodup)
  | append_singleton operations last ih =>
      rw [run_snoc, shared_perform]
      exact distinct_noted ih _

/-- All connections share what was last registered for all of them. -/
theorem get?_shared (operations : List Operation) (name : String) :
    (empty.run operations).shared.get? name =
      latest? (operations.filterMap Operation.shared?) name := by
  induction operations using List.reverseRecOn with
  | nil => rfl
  | append_singleton operations last ih =>
      rw [run_snoc, shared_perform, List.filterMap_append]
      cases shared : last.shared? with
      | none => simpa [shared, noted] using ih
      | some entry =>
          have single : [last].filterMap Operation.shared? = [entry] := by simp [shared]
          rw [noted, TypeRegistry.get?_register, single, latest?_snoc, ih]

/-- A connection knows its own latest registrations, and the types that it took over under names
of which it registered none. -/
structure Knows (number : Nat) (operations : List Operation) : Prop where
  distinct : ((empty.run operations).typesOf number).Distinct
  own : ∀ name type, latest? (ownOn number empty operations) name = some type →
    ((empty.run operations).typesOf number).get? name = some type
  adopted : ∀ name, name ∉ (ownOn number empty operations).map Prod.fst →
    ((empty.run operations).typesOf number).get? name = adopted? number name empty operations

/-- A statement that is prepared registers nothing on its own. -/
theorem Operation.own?_of_prepares {operation : Operation}
    (prepares : operation.prepares number = true) : operation.own? number = none := by
  cases operation with
  | prepare other sql => rfl
  | _ => cases prepares

/-- What one more operation lets a connection know, by the three ways in which it can change the
types of the connection. -/
theorem Knows.snoc (knows : Knows number operations) (last : Operation) :
    Knows number (operations ++ [last]) := by
  have step := typesOf_perform (empty.run operations) number last
  rw [← run_snoc] at step
  have registered := ownOn_snoc number empty operations last
  have taken (name : String) := adopted?_snoc number name empty operations last
  cases opened : (empty.run operations).isOpen number with
  | false =>
      have same : (empty.run (operations ++ [last])).typesOf number =
          (empty.run operations).typesOf number := by
        rw [step, opened, typesOf_of_not_isOpen opened]
        rfl
      simp only [opened, Bool.false_eq_true, if_false, Bool.false_and, Option.toList_none,
        List.append_nil, Option.or_none] at registered taken
      exact {
        distinct := same ▸ knows.distinct
        own := by rw [same, registered]; exact knows.own
        adopted := by simp only [same, registered, taken]; exact knows.adopted }
  | true =>
      rw [opened, if_pos rfl] at step
      simp only [opened, Bool.true_and, if_true] at registered taken
      cases prepares : last.prepares number with
      | true =>
          rw [Operation.own?_of_prepares prepares, Option.toList_none,
            List.append_nil] at registered
          simp only [prepares, if_true] at step taken
          refine ⟨?_, ?_, ?_⟩
          · rw [step]
            exact knows.distinct.merge (distinct_shared operations)
          · intro name type own
            rw [registered] at own
            rw [step, TypeRegistry.get?_merge, knows.own name type own]
            rfl
          · intro name foreign
            rw [registered] at foreign
            rw [step, TypeRegistry.get?_merge, knows.adopted name foreign, taken]
      | false =>
          simp only [prepares, Bool.false_eq_true, if_false, Option.or_none] at step taken
          refine ⟨step ▸ distinct_noted knows.distinct _, ?_, ?_⟩
          · intro name type own
            rw [registered] at own
            cases entry : last.own? number with
            | none =>
                rw [entry, Option.toList_none, List.append_nil] at own
                rw [step, entry]
                exact knows.own name type own
            | some entry' =>
                obtain ⟨given, newest⟩ := entry'
                rw [entry, Option.toList_some, latest?_snoc] at own
                rw [step, entry, noted, TypeRegistry.get?_register]
                split at own
                · rename_i same
                  rw [if_pos same, own]
                · rename_i differ
                  rw [if_neg differ, knows.own name type own]
          · intro name foreign
            rw [registered, List.map_append, List.mem_append, not_or] at foreign
            rw [taken, ← knows.adopted name foreign.1, step]
            cases entry : last.own? number with
            | none => rfl
            | some entry' =>
                rw [entry] at foreign
                rw [noted, TypeRegistry.get?_register, if_neg (by simpa using foreign.2)]

theorem knows (number : Nat) (operations : List Operation) : Knows number operations := by
  induction operations using List.reverseRecOn with
  | nil =>
      exact {
        distinct := (List.nodup_nil : ([] : List String).Nodup)
        own := nofun
        adopted := fun _ _ => rfl }
  | append_singleton operations last ih => exact ih.snoc last

/-- A table is of a type on a connection, in whatever order the types are kept there. -/
def Resolves (session : Session) (number : Nat) (table : String) (type : RecordType) : Prop :=
  (session.typesOf number).Resolves table type

/-! ## Two connections -/

def noFiles : Files := ⟨"/", fun _ => none⟩

def bare : Connection := ⟨⟨"data", "data"⟩, .standard, .empty⟩

/-- Connects to a directory of which nothing is asked. -/
def opening : Operation := .connect noFiles "data" .standard

/-- Records with a number. -/
def numbered : RecordType := ⟨"Foo", [("Id", .scalar .int)]⟩

/-- Records with a name. -/
def named : RecordType := ⟨"foo", [("Name", .scalar .string)]⟩

theorem numbered_ne_named : numbered ≠ named :=
  fun same => absurd (congrArg RecordType.name same) (by decide)

theorem sameLetters_foo : Text.sameLetters "Foo" "foo" = true := by decide +kernel

/-- A session with two connections that know no types. -/
def two : Session := ⟨.empty, [bare, bare]⟩

theorem perform_opening (session : Session) : session.perform opening =
    { session with connections := session.connections ++ [bare] } := by
  have place : Location.parse noFiles "data" = .ok ⟨"data", "data"⟩ :=
    Outcome.toOption_eq_some.1 (by decide +kernel)
  rw [opening, perform, connect, Connection.connect, place]
  rfl

theorem run_opening (operations : List Operation) :
    empty.run (opening :: opening :: operations) = two.run operations := by
  rw [run, List.foldl_cons, List.foldl_cons, perform_opening, perform_opening]
  rfl

theorem ownOn_opening (number : Nat) (operations : List Operation) :
    ownOn number empty (opening :: opening :: operations) = ownOn number two operations := by
  rw [ownOn, ownOn, perform_opening, perform_opening]
  simp only [opening, Operation.own?, ite_self, Option.toList_none, List.nil_append]
  rfl

theorem adopted?_opening (number : Nat) (name : String) (operations : List Operation) :
    adopted? number name empty (opening :: opening :: operations) =
      adopted? number name two operations := by
  rw [adopted?, adopted?, perform_opening, perform_opening]
  simp only [opening, Operation.prepares, Bool.and_false, Bool.false_eq_true, if_false,
    Option.none_or]
  rfl

/-! ## Own types -/

/-- The type that a connection last registered under a name stays the type of the table of exactly
this name. It is also that of a table whose name differs in case, as long as the connection took
over no type, and registered none, whose name differs from this one in case only. -/
theorem resolves_own {name table : String} {type : RecordType}
    (own : latest? (ownOn number empty operations) name = some type)
    (single : ∀ other ∈ (ownOn number empty operations).map Prod.fst,
      Text.sameLetters other name = true → other = name)
    (named : table = name ∨ Text.sameLetters name table = true ∧
      ∀ other, Text.sameLetters other name = true → other ≠ name →
        adopted? number other empty operations = none) :
    (empty.run operations).Resolves number table type := by
  have knows := knows number operations
  have known := knows.own name type own
  rcases named with rfl | ⟨letters, alone⟩
  · exact (knows.distinct.resolves_iff known).2 rfl
  · refine knows.distinct.resolves_of_only known letters fun other inside alike => ?_
    have alike' : Text.sameLetters other name = true := by
      rw [Text.sameLetters, beq_iff_eq] at alike letters ⊢
      exact alike.trans letters.symm
    by_contra differ
    have foreign : other ∉ (ownOn number empty operations).map Prod.fst :=
      fun registered => differ (single other registered alike')
    have found := knows.adopted other foreign
    rw [alone other alike' differ] at found
    exact TypeRegistry.get?_eq_none_iff.1 found inside

/-- A type of one connection, and one of another name that both share. -/
def apart : List Operation :=
  [opening, opening, .register 0 "Foo" numbered, .share "Bar" named, .prepare 0 ""]

/-- The shared type of another name leaves the own one alone. -/
theorem resolves_own_apart :
    latest? (ownOn 0 empty apart) "Foo" = some numbered ∧
      (empty.run apart).Resolves 0 "foo" numbered := by
  have own : latest? (ownOn 0 empty apart) "Foo" = some numbered := by
    rw [apart, ownOn_opening]
    rfl
  have names : (ownOn 0 empty apart).map Prod.fst = ["Foo"] := by
    rw [apart, ownOn_opening]
    rfl
  refine ⟨own, resolves_own own ?_ (.inr ⟨sameLetters_foo, ?_⟩)⟩
  · intro other registered _
    rw [names] at registered
    exact List.mem_singleton.1 registered
  · intro other alike _
    have differ : other ≠ "Bar" := by
      rintro rfl
      revert alike
      decide +kernel
    rw [apart, adopted?_opening]
    change (TypeRegistry.get? ⟨[("Bar", named)]⟩ other).or none = none
    rw [Option.or_none, TypeRegistry.get?_eq_none_iff]
    exact fun inside => differ (List.mem_singleton.1 inside)

/-- A type of one connection. -/
def owned : List Operation := [opening, opening, .register 0 "Foo" numbered]

/-- A type of one connection, and one whose name differs in case that both share. -/
def overtaken : List Operation := owned ++ [.share "foo" named, .prepare 0 ""]

/-- A table has the type that the connection registered, until the connection takes over a shared
type that has exactly the name of the table. -/
theorem own_type_overtaken :
    (ownOn 0 empty overtaken).map Prod.fst = ["Foo"] ∧
      latest? (ownOn 0 empty overtaken) "Foo" = some numbered ∧
      (empty.run owned).Resolves 0 "foo" numbered ∧
      ¬ (empty.run overtaken).Resolves 0 "foo" numbered := by
  have before : (empty.run owned).typesOf 0 = ⟨[("Foo", numbered)]⟩ := by
    rw [owned, run_opening]
    rfl
  have behind : ((empty.run overtaken).typesOf 0).get? "foo" = some named := by
    rw [overtaken, owned, List.cons_append, List.cons_append, run_opening]
    rfl
  refine ⟨?_, ?_, ?_, ?_⟩
  · rw [overtaken, owned, List.cons_append, List.cons_append, ownOn_opening]
    rfl
  · rw [overtaken, owned, List.cons_append, List.cons_append, ownOn_opening]
    rfl
  · refine (knows 0 owned).distinct.resolves_of_only (by rw [before]; rfl) sameLetters_foo ?_
    rw [before]
    exact fun given inside _ => List.mem_singleton.1 inside
  · exact mt ((knows 0 overtaken).distinct.resolves_iff behind).1 numbered_ne_named

/-! ## Shared types -/

/-- A connection that registers nothing under a name takes the type over that it first finds there,
and keeps it. So the type that was last shared under the name by the time of a statement is that of
the table from then on exactly where no earlier statement found another one. -/
theorem resolves_shared_iff {earlier later : List Operation} {name sql : String}
    {type : RecordType} (opened : (empty.run earlier).isOpen number = true)
    (foreign : name ∉
      (ownOn number empty (earlier ++ .prepare number sql :: later)).map Prod.fst)
    (shared : latest? (earlier.filterMap Operation.shared?) name = some type) :
    (empty.run (earlier ++ .prepare number sql :: later)).Resolves number name type ↔
      ∀ old, adopted? number name empty earlier = some old → old = type := by
  have knows := knows number (earlier ++ .prepare number sql :: later)
  have known := knows.adopted name foreign
  have here : (Operation.prepare number sql).prepares number = true := beq_self_eq_true number
  rw [adopted?_append, adopted?, opened, here, get?_shared, shared] at known
  simp only [Bool.and_self, if_true, Option.some_or] at known
  cases found : adopted? number name empty earlier with
  | none =>
      rw [found, Option.none_or] at known
      exact ⟨fun _ => nofun, fun _ => (knows.distinct.resolves_iff known).2 rfl⟩
  | some old =>
      rw [found, Option.some_or] at known
      refine (knows.distinct.resolves_iff known).trans ?_
      exact ⟨fun same other first => (Option.some.inj first).symm.trans same.symm,
        fun each => (each old rfl).symm⟩

/-- Both connections share a type. -/
def sharing : List Operation := [opening, opening, .share "Foo" numbered]

/-- A type that is shared is that of its table on a connection that did not register it. -/
theorem resolves_shared_sharing :
    (empty.run sharing).isOpen 1 = true ∧
      (empty.run (sharing ++ [.prepare 1 ""])).Resolves 1 "Foo" numbered := by
  have opened : (empty.run sharing).isOpen 1 = true := by
    rw [sharing, run_opening]
    rfl
  have nothing : adopted? 1 "Foo" empty sharing = none := by
    rw [sharing, adopted?_opening]
    rfl
  refine ⟨opened, (resolves_shared_iff opened ?_ rfl).2 ?_⟩
  · rw [sharing, List.cons_append, List.cons_append, ownOn_opening]
    exact nofun
  · rw [nothing]
    exact nofun

/-- Both connections share a type under a name, and then another one. -/
def resharing : List Operation := sharing ++ [.prepare 1 "", .share "Foo" named, .prepare 1 ""]

/-- A connection that registered nothing keeps the type that it found first when another one is
shared under its name. -/
theorem shared_type_kept :
    ownOn 1 empty resharing = [] ∧
      latest? (resharing.filterMap Operation.shared?) "Foo" = some named ∧
      (empty.run resharing).Resolves 1 "Foo" numbered ∧
      ¬ (empty.run resharing).Resolves 1 "Foo" named := by
  have known : ((empty.run resharing).typesOf 1).get? "Foo" = some numbered := by
    rw [resharing, sharing, List.cons_append, List.cons_append, run_opening]
    rfl
  have only (type : RecordType) : (empty.run resharing).Resolves 1 "Foo" type ↔ type = numbered :=
    (knows 1 resharing).distinct.resolves_iff known
  refine ⟨?_, rfl, (only _).2 rfl, mt (only _).1 numbered_ne_named.symm⟩
  rw [resharing, sharing, List.cons_append, List.cons_append, ownOn_opening]
  rfl

end Session

end RecordQuery
