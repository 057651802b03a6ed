import FivegLab.FaultInjection.Interleaving

/-!
# Isolation of two impairments

Each injector is verified alone, relying on what the other one does to the
shared environment: it never adds or deletes the first one's filter, except by
deleting a `clsact` that it had created itself.  The parallel rule then covers
all interleavings.
-/

namespace FivegLab

/-- The injector that created the `clsact` qdisc that is present. -/
def owner (log : List Issued) : Option Side :=
  log.foldl (fun current issued =>
    match issued.operation, issued.succeeded with
    | .addClsact, true => some issued.side
    | .deleteClsact, true => none
    | _, _ => current) none

/-- The side has deleted a `clsact` that it had marked as created by itself. -/
def DeletedClsact (side : Side) (log : List Issued) : Prop :=
  ∃ issued ∈ log, issued.side = side ∧ issued.operation = .deleteClsact ∧
    issued.succeeded = true ∧ issued.injector.createdClsact = true

@[simp]
theorem deletedClsact_append_iff {side : Side} {log more : List Issued} :
    DeletedClsact side (log ++ more) ↔ DeletedClsact side log ∨ DeletedClsact side more := by
  simp only [DeletedClsact, List.mem_append, or_and_right, exists_or]

@[simp]
theorem deletedClsact_singleton_iff {side : Side} {issued : Issued} :
    DeletedClsact side [issued] ↔ issued.side = side ∧ issued.operation = .deleteClsact ∧
      issued.succeeded = true ∧ issued.injector.createdClsact = true := by
  simp only [DeletedClsact, List.mem_singleton, exists_eq_left]

/-- The side has added its filter, and what follows is all that has been carried
out since. -/
def AddedFilter (side : Side) (log since : List Issued) : Prop :=
  ∃ before injector, log =
    before ++ ⟨side, injector, .addFilter side.rule.preference side.rule.handle, true⟩ :: since

theorem AddedFilter.append {side : Side} {log since : List Issued}
    (added : AddedFilter side log since) (more : List Issued) :
    AddedFilter side (log ++ more) (since ++ more) := by
  rcases added with ⟨before, injector, rfl⟩
  exact ⟨before, injector, by simp⟩

/-- A deletion of `clsact` since the filter was added is one in the whole log. -/
theorem AddedFilter.deletedClsact {side second : Side} {log since : List Issued}
    (added : AddedFilter side log since) (deleted : DeletedClsact second since) :
    DeletedClsact second log := by
  rcases added with ⟨before, injector, rfl⟩
  rw [List.append_cons]
  exact deletedClsact_append_iff.mpr (.inr deleted)

/-- What holds of the shared environment after any allowed commands. -/
structure Consistent (initial : Environment) (shared : Shared) : Prop where
  running_eq : shared.environment.running = initial.running
  foreign_filters : ∀ key, (∀ side : Side, key ≠ side.rule.key) →
    (key ∈ shared.environment.filters ↔ key ∈ initial.filters)
  owned : shared.environment.clsact = true → initial.clsact = true ∨ owner shared.log ≠ none
  owner_present : owner shared.log ≠ none → shared.environment.clsact = true
  kept : initial.clsact = true → shared.environment.clsact = true
  deleted_absent : ∀ side, DeletedClsact side shared.log → initial.clsact = false

/-- What a side relies on while the other one acts. -/
structure Relies (initial : Environment) (side : Side) (before after : Shared) : Prop where
  consistent : Consistent initial after
  filter_own : side.rule.key ∈ after.environment.filters →
    side.rule.key ∈ before.environment.filters
  filter_kept : ∃ more, after.log = before.log ++ more ∧
    (side.rule.key ∈ before.environment.filters →
      side.rule.key ∈ after.environment.filters ∨ DeletedClsact side.other more)
  owner_own : owner after.log = some side → owner before.log = some side

theorem Relies.refl {initial : Environment} {side : Side} {shared : Shared}
    (consistent : Consistent initial shared) : Relies initial side shared shared :=
  ⟨consistent, id, ⟨[], by simp, .inl⟩, id⟩

theorem Relies.trans {initial : Environment} {side : Side} {first second third : Shared}
    (left : Relies initial side first second) (right : Relies initial side second third) :
    Relies initial side first third where
  consistent := right.consistent
  filter_own present := left.filter_own (right.filter_own present)
  filter_kept := by
    rcases left.filter_kept with ⟨more, logged, kept⟩
    rcases right.filter_kept with ⟨further, loggedFurther, keptFurther⟩
    refine ⟨more ++ further, by rw [loggedFurther, logged, List.append_assoc], fun present => ?_⟩
    rw [deletedClsact_append_iff]
    rcases kept present with present | deleted
    · exact (keptFurther present).imp_right .inr
    · exact .inr (.inl deleted)
  owner_own owned := left.owner_own (right.owner_own owned)

/-- What an injector of a side may do to the shared environment. -/
def Operation.AllowedFor (initial : Environment) (side : Side) (injector : FaultInjector) :
    Operation → Prop
  | .addFilter preference handle => (preference, handle) = side.rule.key
  | .deleteFilter preference handle => (preference, handle) = side.rule.key
  | .deleteClsact => initial.clsact = false ∧ injector.createdClsact = true
  | .addClsact => True
  | operation => operation.reads = true

def AllowedCall (initial : Environment) (side : Side) (op : (Runner.observing FaultInjector).Op) :
    Prop :=
  (operationOf op.2.command).AllowedFor initial side op.1

@[simp]
theorem owner_append (log : List Issued) (issued : Issued) :
    owner (log ++ [issued]) =
      match issued.operation, issued.succeeded with
      | .addClsact, true => some issued.side
      | .deleteClsact, true => none
      | _, _ => owner log := by
  simp [owner, List.foldl_append]

/-- A command succeeds with its effect, or changes nothing. -/
theorem atomically_cases {side : Side} {before after : Shared}
    {op : (Runner.observing FaultInjector).Op} {reply : (Runner.observing FaultInjector).Reply op}
    (answer : atomically side before op reply after) :
    ((operationOf op.2.command).Possible before.environment ∧
      after = ⟨(operationOf op.2.command).effect before.environment,
        before.log ++ [⟨side, op.1, operationOf op.2.command, true⟩]⟩) ∨
    after = ⟨before.environment,
      before.log ++ [⟨side, op.1, operationOf op.2.command, false⟩]⟩ := by
  rcases reply with error | result
  · exact .inr answer.2
  · simp only [atomically] at answer
    by_cases success : result.returncode = 0
    · rw [if_pos success] at answer
      exact .inl ⟨answer.1, answer.2.2⟩
    · rw [if_neg success] at answer
      exact .inr answer.2

section

variable {initial : Environment} {side second : Side} {before : Shared} {injector : FaultInjector}
  {operation : Operation}

/-- A command that changes nothing keeps what all sides rely on. -/
theorem Consistent.idle (consistent : Consistent initial before) {issued : Issued}
    (owner_eq : owner (before.log ++ [issued]) = owner before.log)
    (deleted_iff : ∀ side, DeletedClsact side (before.log ++ [issued]) ↔
      DeletedClsact side before.log) :
    Consistent initial ⟨before.environment, before.log ++ [issued]⟩ where
  running_eq := consistent.running_eq
  foreign_filters := consistent.foreign_filters
  owned := by simpa only [owner_eq] using consistent.owned
  owner_present := by simpa only [owner_eq] using consistent.owner_present
  kept := consistent.kept
  deleted_absent side deleted := consistent.deleted_absent side ((deleted_iff side).mp deleted)

theorem Relies.idle (consistent : Consistent initial before) {issued : Issued}
    (owner_eq : owner (before.log ++ [issued]) = owner before.log)
    (deleted_iff : ∀ side, DeletedClsact side (before.log ++ [issued]) ↔
      DeletedClsact side before.log) :
    Relies initial second before ⟨before.environment, before.log ++ [issued]⟩ where
  consistent := consistent.idle owner_eq deleted_iff
  filter_own := id
  filter_kept := ⟨[issued], rfl, .inl⟩
  owner_own := by
    intro owned
    exact owner_eq ▸ owned

theorem Consistent.addClsact (consistent : Consistent initial before) :
    Consistent initial ⟨before.environment.withClsact,
      before.log ++ [⟨side, injector, .addClsact, true⟩]⟩ where
  running_eq := consistent.running_eq
  foreign_filters := consistent.foreign_filters
  owned := by simp
  owner_present := by simp
  kept := by simp
  deleted_absent side deleted := consistent.deleted_absent side (by simpa using deleted)

theorem Consistent.deleteClsact (consistent : Consistent initial before)
    (absent : initial.clsact = false) :
    Consistent initial ⟨before.environment.withoutClsact,
      before.log ++ [⟨side, injector, .deleteClsact, true⟩]⟩ where
  running_eq := consistent.running_eq
  foreign_filters key _ := by simp [initial.filters_need_clsact absent]
  owned := by simp
  owner_present := by simp
  kept := by simp [absent]
  deleted_absent _ _ := absent

theorem Consistent.addFilter (consistent : Consistent initial before)
    (present : before.environment.clsact = true) {preference handle : String}
    (own : (preference, handle) = side.rule.key) :
    Consistent initial ⟨before.environment.withFilter (preference, handle),
      before.log ++ [⟨side, injector, .addFilter preference handle, true⟩]⟩ where
  running_eq := consistent.running_eq
  foreign_filters key foreign := by
    simpa [Environment.withFilter_filters, present, own, foreign side] using
      consistent.foreign_filters key foreign
  owned := by simpa using consistent.owned
  owner_present := by simpa using consistent.owner_present
  kept := consistent.kept
  deleted_absent side deleted := consistent.deleted_absent side (by simpa using deleted)

theorem Consistent.deleteFilter (consistent : Consistent initial before)
    {preference handle : String} (own : (preference, handle) = side.rule.key) :
    Consistent initial ⟨before.environment.withoutFilter (preference, handle),
      before.log ++ [⟨side, injector, .deleteFilter preference handle, true⟩]⟩ where
  running_eq := consistent.running_eq
  foreign_filters key foreign := by
    simpa [own, foreign side] using consistent.foreign_filters key foreign
  owned := by simpa using consistent.owned
  owner_present := by simpa using consistent.owner_present
  kept := consistent.kept
  deleted_absent side deleted := consistent.deleted_absent side (by simpa using deleted)

/-- An allowed command keeps the environment consistent, and stays within what
the other side relies on. -/
theorem guarantee {after : Shared} {op : (Runner.observing FaultInjector).Op}
    {reply : (Runner.observing FaultInjector).Reply op}
    (consistent : Consistent initial before) (allowed : AllowedCall initial side op)
    (answer : atomically side before op reply after) :
    Consistent initial after ∧ ∀ second, second ≠ side → Relies initial second before after := by
  unfold AllowedCall at allowed
  rcases atomically_cases answer with ⟨possible, rfl⟩ | rfl
  · generalize operationOf op.2.command = operation at allowed possible
    cases operation with
    | addClsact =>
        refine ⟨consistent.addClsact, fun second different => ?_⟩
        refine ⟨consistent.addClsact, id, ⟨_, rfl, .inl⟩, ?_⟩
        intro owned
        simp only [owner_append, Option.some.injEq] at owned
        exact absurd owned.symm different
    | deleteClsact =>
        refine ⟨consistent.deleteClsact allowed.1, fun second different => ?_⟩
        refine ⟨consistent.deleteClsact allowed.1, ?_, ⟨_, rfl, fun _ => .inr ?_⟩, ?_⟩
        · simp [Operation.effect]
        · rw [← Side.eq_other different.symm]
          exact deletedClsact_singleton_iff.mpr ⟨rfl, rfl, rfl, allowed.2⟩
        · simp
    | addFilter preference handle =>
        have own : (preference, handle) = side.rule.key := allowed
        refine ⟨consistent.addFilter possible.1 own, fun second different => ?_⟩
        have key_ne := Side.key_ne different
        refine ⟨consistent.addFilter possible.1 own, ?_, ⟨_, rfl, fun present => .inl ?_⟩, ?_⟩
        · simp [Operation.effect, Environment.withFilter_filters, possible.1, own, key_ne]
        · simp [Operation.effect, Environment.withFilter_filters, possible.1, present]
        · simp
    | deleteFilter preference handle =>
        have own : (preference, handle) = side.rule.key := allowed
        refine ⟨consistent.deleteFilter own, fun second different => ?_⟩
        have key_ne := Side.key_ne different
        refine ⟨consistent.deleteFilter own, ?_, ⟨_, rfl, fun present => .inl ?_⟩, ?_⟩
        · simp [Operation.effect, own]
        · simp [Operation.effect, own, key_ne, present]
        · simp
    | stop | start | restart => cases allowed
    | showFilters | showQdiscs | list | inspect | other =>
        exact ⟨consistent.idle (by simp) (by simp), fun _ _ =>
          .idle consistent (by simp) (by simp)⟩
  · exact ⟨consistent.idle (by simp) (by simp), fun _ _ =>
      .idle consistent (by simp) (by simp)⟩

end

/-- What a side may own of the shared environment: its filter is installed, or
the `clsact` qdisc is its own, only when the given conditions hold. -/
structure Holds (side : Side) (filter clsact : Prop) (shared : Shared) : Prop where
  filter_only : side.rule.key ∈ shared.environment.filters → filter
  clsact_only : owner shared.log = some side → clsact

namespace Holds

variable {initial : Environment} {side : Side} {filter clsact : Prop} {shared after : Shared}

theorem mono (holds : Holds side filter clsact shared) {filter' clsact' : Prop}
    (filter_implies : filter → filter') (clsact_implies : clsact → clsact') :
    Holds side filter' clsact' shared :=
  ⟨fun present => filter_implies (holds.filter_only present),
    fun owned => clsact_implies (holds.clsact_only owned)⟩

theorem relies (holds : Holds side filter clsact shared)
    (interference : Relies initial side shared after) : Holds side filter clsact after :=
  ⟨fun present => holds.filter_only (interference.filter_own present),
    fun owned => holds.clsact_only (interference.owner_own owned)⟩

theorem failed (holds : Holds side filter clsact shared) (injector : FaultInjector)
    (operation : Operation) :
    Holds side filter clsact
      ⟨shared.environment, shared.log ++ [⟨side, injector, operation, false⟩]⟩ :=
  ⟨holds.filter_only, fun owned => holds.clsact_only (by simpa using owned)⟩

end Holds

/-- The flags of an impairment injector agree with each other, and `clsact` is
marked as created only when it was absent initially. -/
structure Marked (fault : FaultSpec) (initial : Environment) (injector : FaultInjector) :
    Prop where
  fault_eq : injector.fault = fault
  created_absent : injector.createdClsact = true → initial.clsact = false
  armed : injector.createdClsact = true ∨ injector.filterCleanupRequired = true →
    injector.cleanupRequired = true

theorem Marked.record {fault : FaultSpec} {initial : Environment} {injector : FaultInjector}
    (marked : Marked fault initial injector) (command : Command) :
    Marked fault initial (injector.record command) :=
  ⟨marked.fault_eq, marked.created_absent, marked.armed⟩

/-- The answers to one side while the other one acts. -/
abbrev beside (initial : Environment) (side : Side) :
    Answers (Runner.observing FaultInjector) Shared :=
  interfered (Relies initial side) (atomically side)

/-- The obligation to call allowed operations only. -/
abbrev permits (initial : Environment) (side : Side) :
    Shared → (Runner.observing FaultInjector).Op → Shared → Prop :=
  fun _ op _ => AllowedCall initial side op

namespace FaultInjector

open Routine (ensures_bind ensures_update ensures_state ensures_ofExcept ensures_attempt
  ensures_pure ensures_raise)

section

variable {fault : FaultSpec} {service interface : String} {initial : Environment} {side : Side}
  {injector : FaultInjector} {shared : Shared} {filter clsact : Prop}

/-- A command of an injector that the other one may act before. -/
theorem run_beside {command : Command} {timeout : ℕ} (operation : Operation)
    {post : Except Raised CompletedProcess → FaultInjector → Shared → Prop}
    (meaning : operationOf command = operation)
    (allowed : operation.AllowedFor initial side (injector.record command))
    (succeeds : ∀ result met, Relies initial side shared met →
      operation.Possible met.environment → operation.Truthful met.environment result.stdout →
      post (.ok result) (injector.record command) ⟨operation.effect met.environment,
        met.log ++ [⟨side, injector.record command, operation, true⟩]⟩)
    (fails : ∀ error met, Relies initial side shared met →
      post (.error error) (injector.record command) ⟨met.environment,
        met.log ++ [⟨side, injector.record command, operation, false⟩]⟩) :
    (run command timeout).Ensures (beside initial side) (permits initial side) post injector
      shared := by
  subst operation
  simp only [run, ensures_bind, ensures_update, ensures_callRunner]
  rintro (error | result) after ⟨met, interference, answer⟩
  · rcases answer with ⟨_, rfl⟩
    exact ⟨allowed, fails error met interference⟩
  · refine ⟨allowed, ?_⟩
    simp only [atomically] at answer
    by_cases success : result.returncode = 0
    · rw [if_pos success] at answer
      rcases answer with ⟨possible, truthful, rfl⟩
      simpa [success] using succeeds result met interference possible truthful
    · rw [if_neg success] at answer
      rcases answer with ⟨_, rfl⟩
      simpa [success] using fails _ met interference

variable (targeted : fault.Targeted service interface)

include targeted

theorem filterAbsent_beside {post : Except Raised Bool → FaultInjector → Shared → Prop}
    (known : impairmentRules fault.type = some side.rule) (fault_eq : injector.fault = fault)
    (holds : Holds side filter clsact shared)
    (succeeds : ∀ absent command after, Holds side (filter ∧ absent = false) clsact after →
      post (.ok absent) (injector.record command) after)
    (fails : ∀ error command after, Holds side filter clsact after →
      post (.error error) (injector.record command) after) :
    filterAbsent.Ensures (beside initial side) (permits initial side) post injector shared := by
  simp only [filterAbsent, ensures_bind, ensures_state, fault_eq,
    targeted.filterShowCommand_eq known, ensures_ofExcept]
  refine run_beside (.showFilters side.rule.preference) rfl rfl ?_ ?_
  · intro result met interference _ truthful
    have holdsMet := holds.relies interference
    refine succeeds _ _ _ ⟨fun present => ⟨holdsMet.filter_only present, ?_⟩, fun owned => ?_⟩
    · by_contra shown
      have blank : Text.strip result.stdout = "" := by simpa using shown
      exact truthful.mp blank _ present rfl
    · exact holdsMet.clsact_only (by simpa using owned)
  · intro error met interference
    exact fails _ _ _ ((holds.relies interference).failed _ _)

theorem clsactPresent_beside {post : Except Raised Bool → FaultInjector → Shared → Prop}
    (fault_eq : injector.fault = fault) (holds : Holds side filter clsact shared)
    (succeeds : ∀ present command after, (present = false → initial.clsact = false) →
      Holds side filter (clsact ∧ present = true) after →
      post (.ok present) (injector.record command) after)
    (fails : ∀ error command after, Holds side filter clsact after →
      post (.error error) (injector.record command) after) :
    clsactPresent.Ensures (beside initial side) (permits initial side) post injector shared := by
  simp only [clsactPresent, ensures_bind, ensures_state, fault_eq,
    targeted.qdiscShowCommand_eq, ensures_ofExcept]
  refine run_beside .showQdiscs rfl rfl ?_ ?_
  · intro result met interference _ truthful
    have holdsMet := holds.relies interference
    have consistent := interference.consistent
    have seen : decide (Text.Contains result.stdout "qdisc clsact") = met.environment.clsact :=
      Bool.eq_iff_iff.mpr (decide_eq_true_iff.trans truthful)
    refine succeeds _ _ _ ?_ ⟨holdsMet.filter_only, fun owned => ?_⟩
    · intro hidden
      by_contra present
      rw [seen, consistent.kept (by simpa using present)] at hidden
      cases hidden
    · have owned : owner met.log = some side := by simpa using owned
      refine ⟨holdsMet.clsact_only owned, ?_⟩
      rw [seen, consistent.owner_present (by simp [owned])]
  · intro error met interference
    exact fails _ _ _ ((holds.relies interference).failed _ _)

theorem prepareClsact_beside (marked : Marked fault initial injector)
    (holds : Holds side False False shared) :
    prepareClsact.Ensures (beside initial side) (permits initial side)
      (fun _ after later => Marked fault initial after ∧
        Holds side False (after.createdClsact = true) later) injector shared := by
  simp only [prepareClsact, ensures_bind]
  refine clsactPresent_beside targeted marked.fault_eq holds ?_ ?_
  · intro present showCommand met absent holdsMet
    cases present with
    | true => exact ⟨marked.record _, holdsMet.mono id (·.1.elim)⟩
    | false =>
        have armed : Marked fault initial (injector.record showCommand).armClsact :=
          ⟨marked.fault_eq, fun _ => absent rfl, fun _ => rfl⟩
        simp only [Bool.false_eq_true, if_false, ensures_bind, ensures_update, ensures_state,
          armed.fault_eq, targeted.clsactAddCommand_eq, ensures_ofExcept]
        refine run_beside .addClsact rfl trivial ?_ ?_
        · intro result later interference _ _
          have holdsLater := holdsMet.relies interference
          exact ⟨armed.record _, holdsLater.filter_only, fun _ => rfl⟩
        · intro error later interference
          exact ⟨armed.record _, ((holdsMet.relies interference).failed _ _).mono id (·.1.elim)⟩
  · intro error showCommand met holdsMet
    exact ⟨marked.record _, holdsMet.mono id False.elim⟩

theorem addFilter_beside (known : impairmentRules fault.type = some side.rule)
    (marked : Marked fault initial injector)
    (holds : Holds side False (injector.createdClsact = true) shared) :
    addFilter.Ensures (beside initial side) (permits initial side)
      (fun ended after later => Marked fault initial after ∧
        Holds side (after.filterCleanupRequired = true) (after.createdClsact = true) later ∧
        (ended = .ok () → side.rule.key ∈ later.environment.filters ∧
          AddedFilter side later.log [])) injector shared := by
  have armed : Marked fault initial injector.armFilter :=
    ⟨marked.fault_eq, marked.created_absent, fun _ => rfl⟩
  simp only [addFilter, ensures_bind, ensures_update, ensures_state, armed.fault_eq,
    targeted.filterAddCommand_eq known, ensures_ofExcept]
  refine run_beside (.addFilter side.rule.preference side.rule.handle) rfl rfl ?_ ?_
  · intro result met interference possible _
    have holdsMet := holds.relies interference
    refine ⟨⟨armed.fault_eq, armed.created_absent, armed.armed⟩, ⟨fun _ => rfl, ?_⟩,
      fun _ => ⟨?_, met.log, _, rfl⟩⟩
    · intro owned
      exact holdsMet.clsact_only (by simpa using owned)
    · simp [Operation.effect, Environment.withFilter_filters, possible.1, ImpairmentRule.key]
  · intro error met interference
    exact ⟨armed.record _, ((holds.relies interference).failed _ _).mono False.elim id, by simp⟩

/-- However `apply` ends, the flags account for what the side owns; when it
returns, its filter is installed. -/
theorem apply_beside (known : impairmentRules fault.type = some side.rule)
    (holds : Holds side False False shared) :
    apply.Ensures (beside initial side) (permits initial side)
      (fun ended after later => Marked fault initial after ∧
        Holds side (after.filterCleanupRequired = true) (after.createdClsact = true) later ∧
        (ended = .ok () → side.rule.key ∈ later.environment.filters ∧
          AddedFilter side later.log [])) { fault } shared := by
  have fresh : Marked fault initial { fault } := ⟨rfl, by simp, by simp⟩
  rcases notService known with ⟨notNone, notStop, notRestart⟩
  simp only [apply, applyImpairment, ensures_bind, ensures_state, notNone, notStop, notRestart,
    known, if_false, if_true, Option.isSome_some]
  refine filterAbsent_beside targeted known rfl holds ?_ ?_
  · intro absent showCommand met holdsMet
    cases absent with
    | false => exact ⟨fresh.record _, holdsMet.mono (·.1.elim) False.elim, by simp⟩
    | true =>
        simp only [if_true, ensures_bind]
        have unowned : Holds side False False met := holdsMet.mono (·.1) id
        refine (prepareClsact_beside targeted (fresh.record showCommand) unowned).mono ?_
        rintro (error | _) after later ⟨marked, prepared⟩
        · exact ⟨marked, prepared.mono False.elim id, by simp⟩
        · exact addFilter_beside targeted known marked prepared
  · intro error showCommand met holdsMet
    exact ⟨fresh.record _, holdsMet.mono False.elim False.elim, by simp⟩

/-- What a failed deletion should delete is verified to be gone. -/
theorem verifiedAbsent_beside (known : impairmentRules fault.type = some side.rule)
    (marked : Marked fault initial injector) (holds : Holds side filter clsact shared)
    {command : Command} :
    (verifiedAbsent command).Ensures (beside initial side) (permits initial side)
      (fun ended after later => Marked fault initial after ∧ after.SameFlags injector ∧
        Holds side filter clsact later ∧
        (ended = .ok true → if "filter" ∈ command then Holds side False clsact later
          else Holds side filter False later)) injector shared := by
  simp only [verifiedAbsent, ensures_bind, ensures_state, marked.fault_eq, known,
    Option.isSome_some, if_true]
  by_cases mentions : "filter" ∈ command
  · simp only [mentions, if_true]
    refine filterAbsent_beside targeted known marked.fault_eq holds ?_ ?_
    · intro absent showCommand met holdsMet
      refine ⟨marked.record _, .record _ _, holdsMet.mono (·.1) id, ?_⟩
      rintro ⟨⟩
      exact holdsMet.mono (by simp) id
    · intro error showCommand met holdsMet
      exact ⟨marked.record _, .record _ _, holdsMet, by simp⟩
  · simp only [mentions, if_false, ensures_bind]
    refine clsactPresent_beside targeted marked.fault_eq holds ?_ ?_
    · intro present showCommand met _ holdsMet
      refine ⟨marked.record _, .record _ _, holdsMet.mono id (·.1), ?_⟩
      intro absent
      have hidden : present = false := by simpa using absent
      exact holdsMet.mono id (by simp [hidden])
    · intro error showCommand met holdsMet
      exact ⟨marked.record _, .record _ _, holdsMet, by simp⟩

/-- A round of the rollback that is not skipped: without an error, the side no
longer owns what the command deletes. -/
theorem removeStep_beside (known : impairmentRules fault.type = some side.rule)
    (marked : Marked fault initial injector) (holds : Holds side filter clsact shared)
    {command : Command} (operation : Operation) (meaning : operationOf command = operation)
    (due : ¬("filter" ∈ command ∧ injector.filterCleanupRequired = false))
    (allowed : operation.AllowedFor initial side injector)
    (deleted : ∀ met injector, Holds side filter clsact met →
      if "filter" ∈ command then
        Holds side False clsact ⟨operation.effect met.environment,
          met.log ++ [⟨side, injector, operation, true⟩]⟩
      else Holds side filter False ⟨operation.effect met.environment,
          met.log ++ [⟨side, injector, operation, true⟩]⟩) :
    (removeStep command).Ensures (beside initial side) (permits initial side)
      (fun ended after later => Marked fault initial after ∧ after.SameFlags injector ∧
        (ended = .ok [] → if "filter" ∈ command then Holds side False clsact later
          else Holds side filter False later)) injector shared := by
  simp only [removeStep, ensures_bind, ensures_state, due, if_false, ensures_attempt]
  refine run_beside operation meaning ?_ ?_ ?_
  · cases operation <;> exact allowed
  · intro result met interference _ _
    exact ⟨marked.record _, .record _ _, fun _ => deleted met _ (holds.relies interference)⟩
  · intro error met interference
    have holdsMet := (holds.relies interference).failed (injector.record command) operation
    cases runtime : error.isRuntimeError with
    | false =>
        simp only [runtime, Bool.false_eq_true, if_false, ensures_raise]
        exact ⟨marked.record _, .record _ _, by simp⟩
    | true =>
        simp only [runtime, if_true, ensures_bind, ensures_attempt]
        refine (verifiedAbsent_beside targeted known (marked.record command) holdsMet).mono ?_
        rintro (failure | absent) final later ⟨finalMarked, same, _, verified⟩
        · cases passed : failure.isRuntimeError with
          | false =>
              simp only [passed, Bool.false_eq_true, if_false, ensures_raise]
              exact ⟨finalMarked, same.trans (.record _ _), by simp⟩
          | true =>
              simp only [passed, if_true, ensures_pure]
              exact ⟨finalMarked, same.trans (.record _ _), by simp⟩
        · cases absent with
          | false => exact ⟨finalMarked, same.trans (.record _ _), by simp⟩
          | true => exact ⟨finalMarked, same.trans (.record _ _), fun _ => verified rfl⟩

/-- The filter's round of the rollback, skipped when no filter was ever due. -/
theorem removeStep_filter_beside (known : impairmentRules fault.type = some side.rule)
    (marked : Marked fault initial injector)
    (holds : Holds side (injector.filterCleanupRequired = true) clsact shared) :
    (removeStep (side.rule.deleteLine service interface)).Ensures (beside initial side)
      (permits initial side)
      (fun ended after later => Marked fault initial after ∧ after.SameFlags injector ∧
        (ended = .ok [] → Holds side False clsact later)) injector shared := by
  have mentions := side.rule.filter_mem_deleteLine service interface
  cases due : injector.filterCleanupRequired with
  | false =>
      simp only [removeStep, ensures_bind, ensures_state, due, mentions, and_self, if_true,
        ensures_pure]
      exact ⟨marked, ⟨rfl, rfl, rfl, rfl⟩, fun _ => holds.mono (by simp [due]) id⟩
  | true =>
      refine (removeStep_beside targeted known marked holds
        (.deleteFilter side.rule.preference side.rule.handle) rfl (by simp [due]) rfl ?_).mono ?_
      · intro met injector holdsMet
        rw [if_pos mentions]
        refine ⟨by simp [Operation.effect, ImpairmentRule.key], fun owned => ?_⟩
        exact holdsMet.clsact_only (by simpa using owned)
      · rintro ended after later ⟨afterMarked, same, released⟩
        refine ⟨afterMarked, same, fun none => ?_⟩
        simpa only [if_pos mentions] using released none

/-- The `clsact` round of the rollback, due only for a `clsact` marked as created. -/
theorem removeStep_clsact_beside (known : impairmentRules fault.type = some side.rule)
    (marked : Marked fault initial injector) (created : injector.createdClsact = true)
    (holds : Holds side filter clsact shared) :
    (removeStep (clsactDeleteLine service interface)).Ensures (beside initial side)
      (permits initial side)
      (fun ended _ later => ended = .ok [] → Holds side filter False later) injector shared := by
  have mentions := targeted.filter_not_mem_clsactDelete
  refine (removeStep_beside targeted known marked holds .deleteClsact rfl
    (fun skipped => mentions skipped.1) ⟨marked.created_absent created, created⟩ ?_).mono ?_
  · intro met injector _
    rw [if_neg mentions]
    exact ⟨by simp [Operation.effect], by simp⟩
  · rintro ended after later ⟨_, _, released⟩ none
    simpa only [if_neg mentions] using released none

theorem removeLoop_beside (known : impairmentRules fault.type = some side.rule)
    (marked : Marked fault initial injector)
    (holds : Holds side (injector.filterCleanupRequired = true)
      (injector.createdClsact = true) shared) :
    (removeLoop (side.rule.deleteLine service interface ::
        if injector.createdClsact then [clsactDeleteLine service interface] else [])).Ensures
      (beside initial side) (permits initial side)
      (fun ended _ later => ended = .ok [] → Holds side False False later) injector shared := by
  simp only [removeLoop, ensures_bind]
  refine (removeStep_filter_beside targeted known marked holds).mono ?_
  rintro (error | errors) after later ⟨afterMarked, same, released⟩
  · simp
  · cases created : injector.createdClsact with
    | false =>
        simp only [Bool.false_eq_true, if_false, removeLoop, ensures_pure, List.append_nil]
        exact fun none => (released none).mono id (by simp [created])
    | true =>
        simp only [if_true, removeLoop, ensures_bind, ensures_pure, List.append_nil]
        have releasedFilter : Holds side (errors ≠ []) True later := by
          refine ⟨fun present none => ?_, fun _ => trivial⟩
          subst none
          exact (released rfl).filter_only present
        refine (removeStep_clsact_beside targeted known afterMarked
          (same.createdClsact_eq.trans created) releasedFilter).mono ?_
        rintro (error | more) final last releasedClsact
        · simp
        · intro none
          simp only [Except.ok.injEq, List.append_eq_nil_iff] at none
          exact (releasedClsact (by rw [none.2])).mono (· none.1) id

/-- A rollback that returns leaves nothing that its side owns. -/
theorem remove_beside (known : impairmentRules fault.type = some side.rule)
    (marked : Marked fault initial injector)
    (holds : Holds side (injector.filterCleanupRequired = true)
      (injector.createdClsact = true) shared) :
    remove.Ensures (beside initial side) (permits initial side)
      (fun ended _ later => ended = .ok () → Holds side False False later) injector shared := by
  by_cases idle : injector.applied = false ∧ injector.cleanupRequired = false
  · simp only [remove, ensures_bind, ensures_state, idle, and_self, if_true, ensures_pure]
    intro _
    have unarmed : ¬(injector.createdClsact = true ∨ injector.filterCleanupRequired = true) :=
      fun due => by simpa [idle.2] using marked.armed due
    exact holds.mono (fun due => unarmed (.inr due)) (fun due => unarmed (.inl due))
  · simp only [remove, ensures_bind, ensures_state, idle, if_false, ensures_ofExcept,
      rollbackCommands_eq targeted known marked.fault_eq]
    refine (removeLoop_beside targeted known marked holds).mono ?_
    rintro (error | errors) after later released
    · simp
    · cases errors with
      | nil => exact fun _ => released rfl
      | cons error errors => simp

end

end FaultInjector

/-- What a side has established at its milestones. -/
def Established (impairments : Impairments) (initial : Environment) (side : Side) :
    Milestone → Shared → Prop
  | .applied outcome injector, shared => Marked (impairments.fault side) initial injector ∧
      Holds side (injector.filterCleanupRequired = true) (injector.createdClsact = true) shared ∧
      (outcome = .ok () → ∃ since, AddedFilter side shared.log since ∧
        (side.rule.key ∈ shared.environment.filters ∨ DeletedClsact side.other since))
  | .removed outcome _, shared => outcome = .ok () → Holds side False False shared

section

variable {impairments : Impairments} {initial : Environment} {side : Side}
  {before after : Shared}

theorem Established.relies {milestone : Milestone}
    (established : Established impairments initial side milestone before)
    (interference : Relies initial side before after) :
    Established impairments initial side milestone after := by
  cases milestone with
  | applied outcome injector =>
      rcases established with ⟨marked, holds, installed⟩
      refine ⟨marked, holds.relies interference, fun returned => ?_⟩
      rcases installed returned with ⟨since, added, installed⟩
      rcases interference.filter_kept with ⟨more, logged, kept⟩
      refine ⟨since ++ more, by rw [logged]; exact added.append more, ?_⟩
      rw [deletedClsact_append_iff]
      rcases installed with present | deleted
      · exact (kept present).imp_right .inr
      · exact .inr (.inl deleted)
  | removed outcome injector => exact fun returned => (established returned).relies interference

theorem Impairments.known (impairments : Impairments) (side : Side) :
    impairmentRules (impairments.fault side).type = some side.rule := by
  rw [impairments.type_eq]
  exact side.impairmentRules_faultType

theorem applyThread_withstands {shared : Shared} (holds : Holds side False False shared) :
    (applyThread (impairments.fault side)).Withstands (Relies initial side) (atomically side)
      (AllowedCall initial side) (Established impairments initial side) shared := by
  have ensured : FaultInjector.apply.Ensures (beside initial side) (permits initial side) _ _ _ :=
    FaultInjector.apply_beside (impairments.targeted side) (impairments.known side) holds
  refine Program.satisfies_bind.mpr (Program.Satisfies.mono ensured ?_)
  rintro ⟨outcome, injector⟩ later ⟨marked, holdsLater, installed⟩
  refine ⟨marked, holdsLater, fun returned => ?_⟩
  rcases installed returned with ⟨present, added⟩
  exact ⟨[], added, .inl present⟩

theorem removeThread_withstands {injector : FaultInjector} {shared : Shared}
    (marked : Marked (impairments.fault side) initial injector)
    (holds : Holds side (injector.filterCleanupRequired = true)
      (injector.createdClsact = true) shared) :
    (removeThread injector).Withstands (Relies initial side) (atomically side)
      (AllowedCall initial side) (Established impairments initial side) shared :=
  Program.satisfies_bind.mpr (FaultInjector.remove_beside (impairments.targeted side)
    (impairments.known side) marked holds)

theorem Consistent.start (initial : Environment) : Consistent initial ⟨initial, []⟩ where
  running_eq := rfl
  foreign_filters _ _ := Iff.rfl
  owned := .inl
  owner_present owned := absurd rfl owned
  kept := id
  deleted_absent side deleted := by simp [DeletedClsact] at deleted

/-- In every configuration of an interleaving, the environment is consistent and
both sides have established what their milestones say. -/
theorem Impairments.Reaches.established {duo : Duo} (reached : impairments.Reaches initial duo)
    (clean : ∀ side : Side, ∀ key ∈ initial.filters, key.1 ≠ side.rule.preference) :
    Consistent initial duo.world ∧ ∀ side, (duo.threads side).Withstands (Relies initial side)
      (atomically side) (AllowedCall initial side) (Established impairments initial side)
      duo.world := by
  refine Interleaves.withstands reached (fun side world => Relies.refl)
    (fun side first second third => Relies.trans)
    (fun side milestone before after => Established.relies)
    (fun side before op reply after => guarantee) ?_ (Consistent.start initial) ?_
  · rintro side (⟨outcome, injector⟩ | ⟨outcome, injector⟩) program shared established resumes
    · cases resumes
      exact removeThread_withstands established.1 established.2.1
    · cases resumes
  · intro side
    refine applyThread_withstands ⟨fun present => ?_, by simp [Impairments.start, owner]⟩
    exact clean side side.rule.key present rfl

/-- When neither side owns anything, the environment is the initial one. -/
theorem Consistent.eq_initial {shared : Shared} (consistent : Consistent initial shared)
    (clean : ∀ side : Side, ∀ key ∈ initial.filters, key.1 ≠ side.rule.preference)
    (released : ∀ side, Holds side False False shared) : shared.environment = initial := by
  have unowned : owner shared.log = none := by
    by_contra owned
    rcases Option.ne_none_iff_exists'.mp owned with ⟨side, owned⟩
    exact (released side).clsact_only owned
  refine Environment.ext consistent.running_eq ?_ ?_
  · refine Bool.eq_iff_iff.mpr ⟨fun present => ?_, consistent.kept⟩
    exact (consistent.owned present).resolve_right (by simp [unowned])
  · ext key
    by_cases foreign : ∀ side : Side, key ≠ side.rule.key
    · exact consistent.foreign_filters key foreign
    · push Not at foreign
      rcases foreign with ⟨side, rfl⟩
      exact ⟨fun present => ((released side).filter_only present).elim,
        fun present => absurd rfl (clean side _ present)⟩

end

/-- What two impairments leave of each other. -/
structure Isolated (impairments : Impairments) (initial : Environment) : Prop where
  /-- Once applied, a filter stays installed until its own `remove` begins,
  unless `clsact` was absent initially and the other injector, which had created
  it, has deleted it since the filter was added. -/
  installed : ∀ duo side injector, impairments.Reaches initial duo →
    duo.threads side = .done (.applied (.ok ()) injector) →
    ∃ since, AddedFilter side duo.world.log since ∧
      (side.rule.key ∈ duo.world.environment.filters ∨
        initial.clsact = false ∧ DeletedClsact side.other since)
  /-- Two rollbacks that returned have restored the environment. -/
  restored : ∀ duo, impairments.Reaches initial duo →
    (∀ side, ∃ injector, duo.threads side = .done (.removed (.ok ()) injector)) →
    duo.world.environment = initial

end FivegLab
