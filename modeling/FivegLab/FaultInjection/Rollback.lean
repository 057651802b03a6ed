import FivegLab.FaultInjection.Environment

/-!
# Rollback under unreliable commands

A mutating command may take effect or not, whatever it reports, and may be
interrupted; a read may fail, but tells the truth when it succeeds.  In every
such environment the flags of an injector account for whatever its commands may
have left behind, and a rollback that returns has put everything back.

The invariant is `Accounted`: what still differs from the initial environment is
what the flags say the injector may have changed.
-/

namespace FivegLab

/-- What a failed or interrupted operation may leave behind. -/
def Operation.MayLeave (operation : Operation) (before after : Environment) : Prop :=
  after = before ∨ after = operation.effect before ∨ after = operation.cutShort before

/-- The answers of an environment whose commands are unreliable. -/
def unreliable : Answers (Runner.observing FaultInjector) Environment :=
  fun before op reply after =>
    match reply with
    | .ok result =>
        if result.returncode = 0 then
          after = (operationOf op.2.command).effect before ∧
            (operationOf op.2.command).Truthful before result.stdout
        else (operationOf op.2.command).MayLeave before after
    | .error _ => (operationOf op.2.command).MayLeave before after

/-- The obligation that a relation between injector and environment holds before
and after every command. -/
def throughout (good : FaultInjector → Environment → Prop) :
    Environment → (Runner.observing FaultInjector).Op → Environment → Prop :=
  fun before op after => good op.1 before ∧ good op.1 after

namespace FaultInjector

open Routine (ensures_bind ensures_update)

variable {good : FaultInjector → Environment → Prop} {injector : FaultInjector}
  {environment : Environment}

/-- A command of an injector: whatever it leaves behind must be good, and then
either it succeeded with its effect, or an exception was raised. -/
theorem run_ensures {command : Command} {timeout : ℕ} (operation : Operation)
    {post : Except Raised CompletedProcess → FaultInjector → Environment → Prop}
    (meaning : operationOf command = operation)
    (good_left : ∀ after, operation.MayLeave environment after →
      good (injector.record command) after)
    (succeeds : ∀ result, operation.Truthful environment result.stdout →
      post (.ok result) (injector.record command) (operation.effect environment))
    (fails : ∀ error after, operation.MayLeave environment after →
      post (.error error) (injector.record command) after) :
    (run command timeout).Ensures unreliable (throughout good) post injector environment := by
  subst operation
  have good_before := good_left environment (.inl rfl)
  simp only [run, ensures_bind, ensures_update, ensures_callRunner]
  rintro (error | result) after answer
  · exact ⟨⟨good_before, good_left after answer⟩, fails error after answer⟩
  · simp only [unreliable] at answer
    by_cases success : result.returncode = 0
    · simp only [success, if_true] at answer
      rcases answer with ⟨rfl, truthful⟩
      refine ⟨⟨good_before, good_left _ (.inr (.inl rfl))⟩, ?_⟩
      simpa [success] using succeeds result truthful
    · simp only [success, if_false] at answer
      refine ⟨⟨good_before, good_left after answer⟩, ?_⟩
      simpa [success] using fails _ after answer

end FaultInjector

/-- The flags of an impairment injector account for every difference between the
environment and the initial one. -/
structure Accounted (fault : FaultSpec) (rule : ImpairmentRule) (initial : Environment)
    (injector : FaultInjector) (environment : Environment) : Prop where
  fault_eq : injector.fault = fault
  running_eq : environment.running = initial.running
  filters_eq : environment.filters = initial.filters ∨
    injector.filterCleanupRequired = true ∧ environment.filters = insert rule.key initial.filters
  filter_absent : injector.filterCleanupRequired = true → rule.key ∉ initial.filters
  clsact_eq : injector.createdClsact = false → environment.clsact = initial.clsact
  created_absent : injector.createdClsact = true → initial.clsact = false
  armed : environment ≠ initial → injector.applied = true ∨ injector.cleanupRequired = true

namespace Accounted

variable {fault : FaultSpec} {rule : ImpairmentRule} {initial environment after : Environment}
  {injector : FaultInjector} {command : Command}

theorem record (accounted : Accounted fault rule initial injector environment) :
    Accounted fault rule initial (injector.record command) environment :=
  ⟨accounted.fault_eq, accounted.running_eq, accounted.filters_eq, accounted.filter_absent,
    accounted.clsact_eq, accounted.created_absent, accounted.armed⟩

theorem markApplied (accounted : Accounted fault rule initial injector environment) :
    Accounted fault rule initial injector.markApplied environment :=
  ⟨accounted.fault_eq, accounted.running_eq, accounted.filters_eq, accounted.filter_absent,
    accounted.clsact_eq, accounted.created_absent, fun _ => .inl rfl⟩

theorem disarm (accounted : Accounted fault rule initial injector initial) :
    Accounted fault rule initial injector.disarm initial :=
  ⟨accounted.fault_eq, accounted.running_eq, accounted.filters_eq, accounted.filter_absent,
    accounted.clsact_eq, accounted.created_absent, by simp⟩

theorem fresh (fault : FaultSpec) (rule : ImpairmentRule) (initial : Environment) :
    Accounted fault rule initial { fault } initial where
  fault_eq := rfl
  running_eq := rfl
  filters_eq := .inl rfl
  filter_absent := by simp
  clsact_eq := by simp
  created_absent := by simp
  armed := by simp

/-- With its filters and its `clsact` back, the environment is the initial one. -/
theorem eq_initial (accounted : Accounted fault rule initial injector environment)
    (filters : environment.filters = initial.filters)
    (clsact : environment.clsact = initial.clsact) : environment = initial :=
  Environment.ext accounted.running_eq clsact filters

theorem addClsact (accounted : Accounted fault rule initial injector environment)
    (created : injector.createdClsact = true) (cleanup : injector.cleanupRequired = true)
    (left : Operation.addClsact.MayLeave environment after) :
    Accounted fault rule initial injector after := by
  rcases left with rfl | rfl | rfl
  · exact accounted
  all_goals exact ⟨accounted.fault_eq, accounted.running_eq, accounted.filters_eq,
    accounted.filter_absent, by simp [created], accounted.created_absent, fun _ => .inr cleanup⟩

theorem deleteClsact (accounted : Accounted fault rule initial injector environment)
    (created : injector.createdClsact = true)
    (armed : injector.applied = true ∨ injector.cleanupRequired = true)
    (left : Operation.deleteClsact.MayLeave environment after) :
    Accounted fault rule initial injector after := by
  have empty : initial.filters = ∅ := initial.filters_need_clsact (accounted.created_absent created)
  rcases left with rfl | rfl | rfl
  · exact accounted
  all_goals exact ⟨accounted.fault_eq, accounted.running_eq, .inl empty.symm,
    accounted.filter_absent, by simp [created], accounted.created_absent, fun _ => armed⟩

theorem addFilter (accounted : Accounted fault rule initial injector environment)
    (cleanup : injector.cleanupRequired = true) (filter : injector.filterCleanupRequired = true)
    (left : (Operation.addFilter rule.preference rule.handle).MayLeave environment after) :
    Accounted fault rule initial injector after := by
  have filters : (environment.withFilter rule.key).filters = initial.filters ∨
      (environment.withFilter rule.key).filters = insert rule.key initial.filters := by
    rw [Environment.withFilter_filters]
    rcases accounted.filters_eq with unchanged | ⟨_, added⟩
    · by_cases clsact : environment.clsact = true
      · exact .inr (by simp [clsact, unchanged])
      · exact .inl (by simp [clsact, unchanged])
    · exact .inr (by simp [added])
  rcases left with rfl | rfl | rfl
  · exact accounted
  all_goals exact ⟨accounted.fault_eq, accounted.running_eq, filters.imp_right (⟨filter, ·⟩),
    accounted.filter_absent, accounted.clsact_eq, accounted.created_absent, fun _ => .inr cleanup⟩

/-- Deleting the injector's filter restores the filters. -/
theorem withoutFilter_filters (accounted : Accounted fault rule initial injector environment)
    (filter : injector.filterCleanupRequired = true) :
    (environment.withoutFilter rule.key).filters = initial.filters := by
  have absent := accounted.filter_absent filter
  rcases accounted.filters_eq with unchanged | ⟨_, added⟩
  · simp [unchanged, absent]
  · simp [added, absent]

theorem deleteFilter (accounted : Accounted fault rule initial injector environment)
    (filter : injector.filterCleanupRequired = true)
    (armed : injector.applied = true ∨ injector.cleanupRequired = true)
    (left : (Operation.deleteFilter rule.preference rule.handle).MayLeave environment after) :
    Accounted fault rule initial injector after := by
  rcases left with rfl | rfl | rfl
  · exact accounted
  all_goals exact ⟨accounted.fault_eq, accounted.running_eq,
    .inl (accounted.withoutFilter_filters filter), accounted.filter_absent,
    accounted.clsact_eq, accounted.created_absent, fun _ => armed⟩

/-- When no filter of the rule's preference is seen, the filters are back. -/
theorem filters_of_absent (accounted : Accounted fault rule initial injector environment)
    (absent : ∀ key ∈ environment.filters, key.1 ≠ rule.preference) :
    environment.filters = initial.filters := by
  rcases accounted.filters_eq with unchanged | ⟨_, added⟩
  · exact unchanged
  · exact absurd rfl (absent rule.key (by simp [added]))

end Accounted

namespace FaultInjector

open Routine (ensures_bind ensures_update ensures_state ensures_ofExcept ensures_attempt
  ensures_pure ensures_raise)

section Impairment

variable {fault : FaultSpec} {service interface : String} {rule : ImpairmentRule}
  {initial environment : Environment} {injector : FaultInjector}
  (targeted : fault.Targeted service interface)

include targeted

theorem filterAbsent_ensures {post : Except Raised Bool → FaultInjector → Environment → Prop}
    (known : impairmentRules fault.type = some rule)
    (accounted : Accounted fault rule initial injector environment)
    (succeeds : ∀ absent command,
      (absent = true ↔ ∀ key ∈ environment.filters, key.1 ≠ rule.preference) →
        post (.ok absent) (injector.record command) environment)
    (fails : ∀ error command, post (.error error) (injector.record command) environment) :
    filterAbsent.Ensures unreliable (throughout (Accounted fault rule initial)) post injector
      environment := by
  simp only [filterAbsent, ensures_bind, ensures_state, accounted.fault_eq,
    targeted.filterShowCommand_eq known, ensures_ofExcept]
  refine run_ensures (.showFilters rule.preference) rfl ?_ ?_ ?_
  · rintro after (rfl | rfl | rfl) <;> exact accounted.record
  · intro result truthful
    exact succeeds _ _ (by simpa [Operation.Truthful] using truthful)
  · rintro error after (rfl | rfl | rfl) <;> exact fails _ _

theorem clsactPresent_ensures {post : Except Raised Bool → FaultInjector → Environment → Prop}
    (accounted : Accounted fault rule initial injector environment)
    (succeeds : ∀ command, post (.ok environment.clsact) (injector.record command) environment)
    (fails : ∀ error command, post (.error error) (injector.record command) environment) :
    clsactPresent.Ensures unreliable (throughout (Accounted fault rule initial)) post injector
      environment := by
  simp only [clsactPresent, ensures_bind, ensures_state, accounted.fault_eq,
    targeted.qdiscShowCommand_eq, ensures_ofExcept]
  refine run_ensures .showQdiscs rfl ?_ ?_ ?_
  · rintro after (rfl | rfl | rfl) <;> exact accounted.record
  · intro result truthful
    have seen : environment.clsact = decide (Text.Contains result.stdout "qdisc clsact") :=
      Bool.eq_iff_iff.mpr (truthful.symm.trans (decide_eq_true_iff).symm)
    have continued := succeeds
      ["docker", "compose", "exec", "-T", service, "tc", "qdisc", "show", "dev", interface]
    rw [seen] at continued
    exact continued
  · rintro error after (rfl | rfl | rfl) <;> exact fails _ _

theorem prepareClsact_ensures {post : Except Raised Unit → FaultInjector → Environment → Prop}
    (accounted : Accounted fault rule initial injector initial)
    (succeeds : ∀ after environment, Accounted fault rule initial after environment →
      post (.ok ()) after environment)
    (fails : ∀ error after environment, Accounted fault rule initial after environment →
      post (.error error) after environment) :
    prepareClsact.Ensures unreliable (throughout (Accounted fault rule initial)) post injector
      initial := by
  simp only [prepareClsact, ensures_bind]
  refine clsactPresent_ensures targeted accounted ?_ ?_
  · intro showCommand
    by_cases present : initial.clsact = true
    · simp only [present, if_true]
      exact succeeds _ _ accounted.record
    · have absent : initial.clsact = false := by simpa using present
      have armed : Accounted fault rule initial (injector.record showCommand).armClsact initial :=
        ⟨accounted.fault_eq, rfl, .inl rfl, accounted.filter_absent, by simp [armClsact],
          fun _ => absent, by simp⟩
      simp only [absent, ensures_bind, ensures_update, ensures_state, Bool.false_eq_true, if_false,
        armed.fault_eq, targeted.clsactAddCommand_eq, ensures_ofExcept]
      refine run_ensures .addClsact rfl ?_ ?_ ?_
      · intro after left
        exact (armed.addClsact rfl rfl left).record
      · intro result _
        exact succeeds _ _ (armed.addClsact rfl rfl (.inr (.inl rfl))).record
      · intro error after left
        exact fails _ _ _ (armed.addClsact rfl rfl left).record
  · intro error command
    exact fails _ _ _ accounted.record

theorem addFilter_ensures (known : impairmentRules fault.type = some rule)
    (accounted : Accounted fault rule initial injector environment)
    (keyAbsent : rule.key ∉ initial.filters) :
    addFilter.Ensures unreliable (throughout (Accounted fault rule initial))
      (fun _ => Accounted fault rule initial) injector environment := by
  have armed : Accounted fault rule initial injector.armFilter environment :=
    ⟨accounted.fault_eq, accounted.running_eq, accounted.filters_eq.imp_right fun added =>
      ⟨rfl, added.2⟩, fun _ => keyAbsent, accounted.clsact_eq, accounted.created_absent,
      fun _ => .inr rfl⟩
  simp only [addFilter, ensures_bind, ensures_update, ensures_state, armed.fault_eq,
    targeted.filterAddCommand_eq known, ensures_ofExcept]
  refine run_ensures (.addFilter rule.preference rule.handle) rfl ?_ ?_ ?_
  · intro after left
    exact (armed.addFilter rfl rfl left).record
  · intro result _
    exact (armed.addFilter rfl rfl (.inr (.inl rfl))).record.markApplied
  · intro error after left
    exact (armed.addFilter rfl rfl left).record

/-- However applying an impairment ends, its flags account for the environment. -/
theorem applyImpairment_ensures (known : impairmentRules fault.type = some rule)
    (accounted : Accounted fault rule initial injector initial) :
    applyImpairment.Ensures unreliable (throughout (Accounted fault rule initial))
      (fun _ => Accounted fault rule initial) injector initial := by
  simp only [applyImpairment, ensures_bind]
  refine filterAbsent_ensures targeted known accounted ?_ ?_
  · rintro (_ | _) showCommand absent
    · exact accounted.record
    · have keyAbsent : rule.key ∉ initial.filters := fun present =>
        absent.mp rfl rule.key present rfl
      simp only [if_true, ensures_bind]
      refine prepareClsact_ensures targeted accounted.record ?_ ?_
      · intro after environment prepared
        exact addFilter_ensures targeted known prepared keyAbsent
      · intro error after environment prepared
        exact prepared
  · intro error command
    exact accounted.record

theorem apply_impairment_ensures (known : impairmentRules fault.type = some rule)
    (accounted : Accounted fault rule initial injector initial) :
    apply.Ensures unreliable (throughout (Accounted fault rule initial))
      (fun _ => Accounted fault rule initial) injector initial := by
  rcases notService known with ⟨notNone, notStop, notRestart⟩
  simp only [apply, ensures_bind, ensures_state, accounted.fault_eq, notNone, notStop, notRestart,
    known, if_false, if_true, Option.isSome_some]
  exact applyImpairment_ensures targeted known accounted

/-- A failed deletion is made up for by a read that verifies absence. -/
theorem verifiedAbsent_ensures (known : impairmentRules fault.type = some rule)
    (accounted : Accounted fault rule initial injector environment) {command : Command} :
    (verifiedAbsent command).Ensures unreliable (throughout (Accounted fault rule initial))
      (fun ended after later => later = environment ∧
        Accounted fault rule initial after environment ∧ after.SameFlags injector ∧
        (ended = .ok true → if "filter" ∈ command then environment.filters = initial.filters
          else environment.clsact = false)) injector environment := by
  simp only [verifiedAbsent, ensures_bind, ensures_state, accounted.fault_eq, known,
    Option.isSome_some, if_true]
  by_cases filter : "filter" ∈ command
  · simp only [filter, if_true]
    refine filterAbsent_ensures targeted known accounted ?_ ?_
    · rintro absent showCommand seen
      refine ⟨rfl, accounted.record, .record _ _, ?_⟩
      rintro ⟨⟩
      exact accounted.filters_of_absent (seen.mp rfl)
    · intro error showCommand
      exact ⟨rfl, accounted.record, .record _ _, by simp⟩
  · simp only [filter, if_false, ensures_bind]
    refine clsactPresent_ensures targeted accounted ?_ ?_
    · intro showCommand
      refine ⟨rfl, accounted.record, .record _ _, ?_⟩
      intro absent
      simpa using absent
    · intro error showCommand
      exact ⟨rfl, accounted.record, .record _ _, by simp⟩

/-- A round of the rollback that is not skipped: without an error, what its
command restores is restored. -/
theorem removeStep_ensures (known : impairmentRules fault.type = some rule)
    {command : Command} (operation : Operation) (meaning : operationOf command = operation)
    (due : ¬("filter" ∈ command ∧ injector.filterCleanupRequired = false))
    {restored : Environment → Prop}
    (accounted_left : ∀ after, operation.MayLeave environment after →
      Accounted fault rule initial injector after)
    (restored_effect : restored (operation.effect environment))
    (restored_absent : ∀ after, Accounted fault rule initial injector after →
      (if "filter" ∈ command then after.filters = initial.filters else after.clsact = false) →
        restored after) :
    (removeStep command).Ensures unreliable (throughout (Accounted fault rule initial))
      (fun ended after later => Accounted fault rule initial after later ∧
        after.SameFlags injector ∧ (ended = .ok [] → restored later)) injector environment := by
  simp only [removeStep, ensures_bind, ensures_state, due, if_false, ensures_attempt]
  refine run_ensures operation meaning ?_ ?_ ?_
  · intro after left
    exact (accounted_left after left).record
  · intro result _
    exact ⟨(accounted_left _ (.inr (.inl rfl))).record, .record _ _, fun _ => restored_effect⟩
  · intro error after left
    have accounted := accounted_left after left
    cases runtime : error.isRuntimeError with
    | false =>
        simp only [runtime, Bool.false_eq_true, if_false, ensures_raise]
        exact ⟨accounted.record, .record _ _, by simp⟩
    | true =>
        simp only [runtime, if_true, ensures_bind, ensures_attempt]
        refine (verifiedAbsent_ensures targeted known accounted.record).mono ?_
        rintro (failure | absent) final later ⟨rfl, finalAccounted, same, verified⟩
        · cases passed : failure.isRuntimeError with
          | false =>
              simp only [passed, Bool.false_eq_true, if_false, ensures_raise]
              exact ⟨finalAccounted, same.trans (.record _ _), by simp⟩
          | true =>
              simp only [passed, if_true, ensures_pure]
              exact ⟨finalAccounted, same.trans (.record _ _), by simp⟩
        · cases absent with
          | false => exact ⟨finalAccounted, same.trans (.record _ _), by simp⟩
          | true =>
              exact ⟨finalAccounted, same.trans (.record _ _), fun _ =>
                restored_absent _ accounted (verified rfl)⟩

/-- The filter's round of the rollback, skipped when no filter was ever due. -/
theorem removeStep_filter_ensures (known : impairmentRules fault.type = some rule)
    (accounted : Accounted fault rule initial injector environment)
    (armed : injector.applied = true ∨ injector.cleanupRequired = true) :
    (removeStep (rule.deleteLine service interface)).Ensures unreliable
      (throughout (Accounted fault rule initial))
      (fun ended after later => Accounted fault rule initial after later ∧
        after.SameFlags injector ∧ (ended = .ok [] → later.filters = initial.filters))
      injector environment := by
  cases filter : injector.filterCleanupRequired with
  | false =>
      have unchanged : environment.filters = initial.filters :=
        accounted.filters_eq.resolve_right (by simp [filter])
      simp only [removeStep, ensures_bind, ensures_state, filter, rule.filter_mem_deleteLine,
        and_self, if_true, ensures_pure]
      exact ⟨accounted, ⟨rfl, rfl, rfl, rfl⟩, fun _ => unchanged⟩
  | true =>
      refine removeStep_ensures targeted known (.deleteFilter rule.preference rule.handle) rfl
        (by simp [filter])
        (fun after left => accounted.deleteFilter filter armed left)
        (accounted.withoutFilter_filters filter) ?_
      intro after _ absent
      simpa [rule.filter_mem_deleteLine] using absent

/-- The `clsact` round of the rollback, due only for a `clsact` marked as created. -/
theorem removeStep_clsact_ensures (known : impairmentRules fault.type = some rule)
    (accounted : Accounted fault rule initial injector environment)
    (armed : injector.applied = true ∨ injector.cleanupRequired = true)
    (created : injector.createdClsact = true) :
    (removeStep (clsactDeleteLine service interface)).Ensures unreliable
      (throughout (Accounted fault rule initial))
      (fun ended after later => Accounted fault rule initial after later ∧
        after.SameFlags injector ∧ (ended = .ok [] → later = initial)) injector environment := by
  have absent : initial.clsact = false := accounted.created_absent created
  have empty : initial.filters = ∅ := initial.filters_need_clsact absent
  have other := targeted.filter_not_mem_clsactDelete
  refine removeStep_ensures targeted known .deleteClsact rfl (fun skipped => other skipped.1)
    (fun after left => accounted.deleteClsact created armed left) ?_ ?_
  · exact Environment.ext accounted.running_eq absent.symm empty.symm
  · intro after afterAccounted gone
    rw [if_neg other] at gone
    exact afterAccounted.eq_initial ((after.filters_need_clsact gone).trans empty.symm)
      (gone.trans absent.symm)

theorem removeLoop_ensures (known : impairmentRules fault.type = some rule)
    (accounted : Accounted fault rule initial injector environment)
    (armed : injector.applied = true ∨ injector.cleanupRequired = true) :
    (removeLoop (rule.deleteLine service interface ::
        if injector.createdClsact then [clsactDeleteLine service interface] else [])).Ensures
      unreliable
      (throughout (Accounted fault rule initial))
      (fun ended after later => Accounted fault rule initial after later ∧
        (ended = .ok [] → later = initial)) injector environment := by
  simp only [removeLoop, ensures_bind]
  refine (removeStep_filter_ensures targeted known accounted armed).mono ?_
  rintro (error | errors) after later ⟨afterAccounted, same, filters⟩
  · exact ⟨afterAccounted, by simp⟩
  · cases created : injector.createdClsact with
    | false =>
        simp only [Bool.false_eq_true, if_false, removeLoop, ensures_pure, List.append_nil]
        refine ⟨afterAccounted, fun none => ?_⟩
        exact afterAccounted.eq_initial (filters none)
          (afterAccounted.clsact_eq (same.createdClsact_eq.trans created))
    | true =>
        simp only [if_true, removeLoop, ensures_bind, ensures_pure, List.append_nil]
        refine (removeStep_clsact_ensures targeted known afterAccounted ?_ ?_).mono ?_
        · rwa [same.applied_eq, same.cleanupRequired_eq]
        · exact same.createdClsact_eq.trans created
        · rintro (error | more) final last ⟨finalAccounted, _, restored⟩
          · exact ⟨finalAccounted, by simp⟩
          · refine ⟨finalAccounted, fun none => restored ?_⟩
            simp only [Except.ok.injEq, List.append_eq_nil_iff] at none
            rw [none.2]

/-- However a rollback ends, the flags account for the environment; when it
returns, the environment is the initial one. -/
theorem remove_impairment_ensures (known : impairmentRules fault.type = some rule)
    (accounted : Accounted fault rule initial injector environment) :
    remove.Ensures unreliable (throughout (Accounted fault rule initial))
      (fun ended after later => Accounted fault rule initial after later ∧
        (ended = .ok () → later = initial)) injector environment := by
  by_cases idle : injector.applied = false ∧ injector.cleanupRequired = false
  · simp only [remove, ensures_bind, ensures_state, idle, and_self, if_true, ensures_pure]
    refine ⟨accounted, fun _ => ?_⟩
    by_contra changed
    simpa [idle.1, idle.2] using accounted.armed changed
  · have armed : injector.applied = true ∨ injector.cleanupRequired = true := by
      simpa [-not_and, not_and_or] using idle
    simp only [remove, ensures_bind, ensures_state, idle, if_false, ensures_ofExcept,
      rollbackCommands_eq targeted known accounted.fault_eq]
    refine (removeLoop_ensures targeted known accounted armed).mono ?_
    rintro (error | errors) after later ⟨afterAccounted, restored⟩
    · exact ⟨afterAccounted, by simp⟩
    · cases errors with
      | nil =>
          cases restored rfl
          exact ⟨afterAccounted.disarm, fun _ => rfl⟩
      | cons error errors => exact ⟨afterAccounted, by simp⟩

end Impairment

end FaultInjector

/-- The flags of a service injector account for a target that does not run. -/
structure ServiceAccounted (fault : FaultSpec) (initial : Environment)
    (injector : FaultInjector) (environment : Environment) : Prop where
  fault_eq : injector.fault = fault
  only_running : ∃ running, environment = initial.withRunning running
  armed : environment ≠ initial → injector.applied = true ∨ injector.cleanupRequired = true

namespace ServiceAccounted

variable {fault : FaultSpec} {initial environment after : Environment} {injector : FaultInjector}
  {command : Command}

theorem record (accounted : ServiceAccounted fault initial injector environment) :
    ServiceAccounted fault initial (injector.record command) environment :=
  ⟨accounted.fault_eq, accounted.only_running, accounted.armed⟩

theorem markApplied (accounted : ServiceAccounted fault initial injector environment) :
    ServiceAccounted fault initial injector.markApplied environment :=
  ⟨accounted.fault_eq, accounted.only_running, fun _ => .inl rfl⟩

theorem fresh (fault : FaultSpec) (initial : Environment) :
    ServiceAccounted fault initial { fault } initial :=
  ⟨rfl, ⟨initial.running, rfl⟩, by simp⟩

theorem disarm (accounted : ServiceAccounted fault initial injector initial) :
    ServiceAccounted fault initial injector.disarm initial :=
  ⟨accounted.fault_eq, accounted.only_running, by simp⟩

theorem withRunning (accounted : ServiceAccounted fault initial injector environment)
    (armed : injector.applied = true ∨ injector.cleanupRequired = true) (running : Bool) :
    ServiceAccounted fault initial injector (environment.withRunning running) := by
  rcases accounted.only_running with ⟨before, rfl⟩
  exact ⟨accounted.fault_eq, ⟨running, rfl⟩, fun _ => armed⟩

/-- A service command leaves a target that runs or not, and nothing else. -/
theorem mayLeave (accounted : ServiceAccounted fault initial injector environment)
    (armed : injector.applied = true ∨ injector.cleanupRequired = true) {operation : Operation}
    (service : operation = .stop ∨ operation = .start ∨ operation = .restart)
    (left : operation.MayLeave environment after) :
    ServiceAccounted fault initial injector after := by
  rcases service with rfl | rfl | rfl <;> rcases left with rfl | rfl | rfl
  all_goals first | exact accounted | exact accounted.withRunning armed _

end ServiceAccounted

namespace FaultInjector

open Routine (ensures_bind ensures_update ensures_state ensures_ofExcept ensures_attempt
  ensures_pure ensures_raise)

section Service

variable {fault : FaultSpec} {service : String} {initial environment : Environment}
  {injector : FaultInjector} (target : validatedService fault.target = .ok service)

/-- Reading the state of a container changes neither flags nor environment. -/
theorem containerState_ensures
    {post : Except Raised (Option ContainerState) → FaultInjector → Environment → Prop}
    (accounted : ServiceAccounted fault initial injector environment)
    (ended : ∀ result after, after.SameFlags injector →
      ServiceAccounted fault initial after environment → post result after environment) :
    (containerState service).Ensures unreliable (throughout (ServiceAccounted fault initial)) post
      injector environment := by
  simp only [containerState, ensures_bind]
  refine run_ensures .list rfl ?_ ?_ ?_
  · rintro after (rfl | rfl | rfl) <;> exact accounted.record
  · intro listed _
    dsimp only
    cases Text.splitlines (Text.strip listed.stdout) with
    | nil =>
        simp only [ensures_pure]
        exact ended _ _ (.record _ _) accounted.record
    | cons containerId rest =>
        simp only [ensures_bind]
        refine run_ensures .inspect (operationOf_inspect _ _) ?_ ?_ ?_
        · rintro after (rfl | rfl | rfl) <;> exact accounted.record.record
        · intro inspected _
          have same : ((injector.record _).record _).SameFlags injector :=
            .trans (.record ["docker", "inspect", "--format", inspectFormat, containerId] _)
              (.record ["docker", "compose", "ps", "--all", "-q", service] _)
          dsimp only
          split
          · exact ended _ _ same accounted.record.record
          · exact ended _ _ same accounted.record.record
        · rintro error after (rfl | rfl | rfl) <;>
            exact ended _ _ (.trans (.record _ _) (.record _ _)) accounted.record.record
  · rintro error after (rfl | rfl | rfl) <;> exact ended _ _ (.record _ _) accounted.record

theorem runService_ensures {command : Command} {timeout : ℕ} (operation : Operation)
    (isService : operation = .stop ∨ operation = .start ∨ operation = .restart)
    (meaning : operationOf command = operation)
    {post : Except Raised CompletedProcess → FaultInjector → Environment → Prop}
    (accounted : ServiceAccounted fault initial injector environment)
    (armed : injector.applied = true ∨ injector.cleanupRequired = true)
    (succeeds : ∀ result after, after = operation.effect environment →
      ServiceAccounted fault initial (injector.record command) after →
        post (.ok result) (injector.record command) after)
    (fails : ∀ error after, ServiceAccounted fault initial (injector.record command) after →
      post (.error error) (injector.record command) after) :
    (run command timeout).Ensures unreliable (throughout (ServiceAccounted fault initial)) post
      injector environment := by
  have left_accounted : ∀ after, operation.MayLeave environment after →
      ServiceAccounted fault initial (injector.record command) after := fun after left =>
    (accounted.mayLeave armed isService left).record
  refine run_ensures operation meaning left_accounted ?_ ?_
  · intro result _
    exact succeeds result _ rfl (left_accounted _ (.inr (.inl rfl)))
  · intro error after left
    exact fails error after (left_accounted after left)

/-- The command of a service fault, run after the cleanup was armed. -/
theorem runFirstApplyCommand_ensures (operation : Operation) {command : Command}
    (isService : operation = .stop ∨ operation = .start ∨ operation = .restart)
    (meaning : operationOf command = operation)
    (commands : fault.applyCommands = .ok [command])
    (accounted : ServiceAccounted fault initial injector environment)
    (armed : injector.applied = true ∨ injector.cleanupRequired = true) :
    (runFirstApplyCommand >>= fun _ => Routine.update markApplied).Ensures unreliable
      (throughout (ServiceAccounted fault initial)) (fun _ => ServiceAccounted fault initial)
      injector environment := by
  simp only [runFirstApplyCommand, ensures_bind, ensures_state, accounted.fault_eq, commands,
    ensures_ofExcept]
  refine runService_ensures operation isService meaning accounted armed ?_ ?_
  · intro result after _ afterAccounted
    exact afterAccounted.markApplied
  · intro error after afterAccounted
    exact afterAccounted

include target

theorem applyCommands_stop_eq (isStop : fault.type = "stop_service") :
    fault.applyCommands = .ok [["docker", "compose", "stop", service]] := by
  simp only [FaultSpec.applyCommands, isStop, target, String.reduceEq, if_false, if_true]
  rfl

theorem applyCommands_restart_eq (isRestart : fault.type = "restart_service") :
    fault.applyCommands = .ok [["docker", "compose", "restart", service]] := by
  simp only [FaultSpec.applyCommands, isRestart, target, String.reduceEq, if_false, if_true]
  rfl

/-- However applying a service fault ends, its flags account for the target. -/
theorem apply_service_ensures
    (isService : fault.type = "stop_service" ∨ fault.type = "restart_service")
    (accounted : ServiceAccounted fault initial injector initial) :
    apply.Ensures unreliable (throughout (ServiceAccounted fault initial))
      (fun _ => ServiceAccounted fault initial) injector initial := by
  rcases isService with isStop | isRestart
  · have armed : ServiceAccounted fault initial injector.armCleanup initial :=
      ⟨accounted.fault_eq, accounted.only_running, fun _ => .inr rfl⟩
    have ensured := runFirstApplyCommand_ensures .stop (.inl rfl) rfl
      (applyCommands_stop_eq target isStop) armed (.inr rfl)
    simp only [ensures_bind] at ensured
    simp only [apply, ensures_bind, ensures_state, accounted.fault_eq, isStop, String.reduceEq,
      if_false, if_true, ensures_update]
    exact ensured
  · simp only [apply, ensures_bind, ensures_state, accounted.fault_eq, isRestart, String.reduceEq,
      if_false, if_true, target, ensures_ofExcept]
    refine containerState_ensures accounted ?_
    rintro (error | _ | before) after same afterAccounted
    · exact afterAccounted
    · exact afterAccounted
    · cases running : before.running with
      | false =>
          simp only [running, Bool.false_eq_true, if_false, ensures_raise]
          exact afterAccounted
      | true =>
          have armed : ServiceAccounted fault initial (after.armRestart before.startedAt) initial :=
            ⟨afterAccounted.fault_eq, afterAccounted.only_running, fun _ => .inr rfl⟩
          have ensured := runFirstApplyCommand_ensures .restart (.inr (.inr rfl)) rfl
            (applyCommands_restart_eq target isRestart) armed (.inr rfl)
          simp only [ensures_bind] at ensured
          simp only [running, if_true, ensures_bind, ensures_update]
          exact ensured

/-- The rollback of a service fault: without an error, the target runs again. -/
theorem removeStart_ensures
    (isService : fault.type = "stop_service" ∨ fault.type = "restart_service")
    (initiallyRunning : initial.running = true)
    (accounted : ServiceAccounted fault initial injector environment)
    (armed : injector.applied = true ∨ injector.cleanupRequired = true) :
    (removeLoop [["docker", "compose", "start", service]]).Ensures unreliable
      (throughout (ServiceAccounted fault initial))
      (fun ended after later => ServiceAccounted fault initial after later ∧
        (ended = .ok [] → later = initial)) injector environment := by
  have notFilter : "filter" ∉ ["docker", "compose", "start", service] := by
    have member := validatedService_mem target
    rintro mentions
    have : "filter" = service := by simpa using mentions
    subst this
    simp [allowedServices] at member
  have notImpairment : impairmentRules fault.type = none := by
    rcases isService with type | type <;> simp [type, impairmentRules]
  simp only [removeLoop, removeStep, ensures_bind, ensures_state, notFilter, false_and, if_false,
    ensures_attempt, ensures_pure, List.append_nil]
  refine runService_ensures .start (.inr (.inl rfl)) rfl accounted armed ?_ ?_
  · rintro result after rfl afterAccounted
    refine ⟨afterAccounted, fun _ => ?_⟩
    rcases accounted.only_running with ⟨running, rfl⟩
    exact Environment.ext initiallyRunning.symm rfl rfl
  · intro error after afterAccounted
    cases runtime : error.isRuntimeError with
    | false =>
        simp only [runtime, Bool.false_eq_true, if_false, ensures_raise]
        exact ⟨afterAccounted, by simp⟩
    | true =>
        simp only [runtime, if_true, verifiedAbsent, ensures_bind, ensures_attempt, ensures_state,
          afterAccounted.fault_eq, notImpairment, Option.isSome_none, Bool.false_eq_true,
          if_false, ensures_pure]
        exact ⟨afterAccounted, by simp⟩

/-- However a rollback ends, the flags account for the target; when it returns,
the environment is the initial one. -/
theorem remove_service_ensures
    (isService : fault.type = "stop_service" ∨ fault.type = "restart_service")
    (initiallyRunning : initial.running = true)
    (accounted : ServiceAccounted fault initial injector environment) :
    remove.Ensures unreliable (throughout (ServiceAccounted fault initial))
      (fun ended after later => ServiceAccounted fault initial after later ∧
        (ended = .ok () → later = initial)) injector environment := by
  by_cases idle : injector.applied = false ∧ injector.cleanupRequired = false
  · simp only [remove, ensures_bind, ensures_state, idle, and_self, if_true, ensures_pure]
    refine ⟨accounted, fun _ => ?_⟩
    by_contra changed
    simpa [idle.1, idle.2] using accounted.armed changed
  · have armed : injector.applied = true ∨ injector.cleanupRequired = true := by
      simpa [-not_and, not_and_or] using idle
    have commands : injector.rollbackCommands = .ok [["docker", "compose", "start", service]] := by
      have notNone : fault.type ≠ "none" := by
        rcases isService with type | type <;> simp [type]
      simp only [rollbackCommands, accounted.fault_eq, notNone, isService, target, if_false,
        if_true]
      rfl
    simp only [remove, ensures_bind, ensures_state, idle, if_false, commands, ensures_ofExcept]
    refine (removeStart_ensures target isService initiallyRunning accounted armed).mono ?_
    rintro (error | errors) after later ⟨afterAccounted, restored⟩
    · exact ⟨afterAccounted, by simp⟩
    · cases errors with
      | nil =>
          cases restored rfl
          exact ⟨afterAccounted.disarm, fun _ => rfl⟩
      | cons error errors => exact ⟨afterAccounted, by simp⟩

end Service

end FaultInjector

/-- An injector between the calls of its methods, and its environment: fresh and
applied, however `apply` ended, and then removed any number of times. -/
inductive Session (fault : FaultSpec) (initial : Environment) :
    FaultInjector → Environment → Prop
  | applied {trace outcome injector environment}
      (runs : FaultInjector.apply.Runs { fault } trace outcome injector)
      (admits : Admits unreliable initial trace environment) :
      Session fault initial injector environment
  | removed {injector environment trace outcome injector' environment'}
      (session : Session fault initial injector environment)
      (runs : FaultInjector.remove.Runs injector trace outcome injector')
      (admits : Admits unreliable environment trace environment') :
      Session fault initial injector' environment'

/-- The instants of a session: between the methods, and before and after every
command of a method that is still running. -/
inductive Instant (fault : FaultSpec) (initial : Environment) :
    FaultInjector → Environment → Prop
  | fresh : Instant fault initial { fault } initial
  | between {injector environment} (session : Session fault initial injector environment) :
      Instant fault initial injector environment
  | applyBefore {trace environment after} {event : Event (Runner.observing FaultInjector)}
      (emits : FaultInjector.apply.Emits { fault } (trace ++ [event]))
      (admits : Admits unreliable initial trace environment)
      (answer : unreliable environment event.op event.reply after) :
      Instant fault initial event.op.1 environment
  | applyAfter {trace environment after} {event : Event (Runner.observing FaultInjector)}
      (emits : FaultInjector.apply.Emits { fault } (trace ++ [event]))
      (admits : Admits unreliable initial trace environment)
      (answer : unreliable environment event.op event.reply after) :
      Instant fault initial event.op.1 after
  | removeBefore {injector start trace environment after}
      {event : Event (Runner.observing FaultInjector)}
      (session : Session fault initial injector start)
      (emits : FaultInjector.remove.Emits injector (trace ++ [event]))
      (admits : Admits unreliable start trace environment)
      (answer : unreliable environment event.op event.reply after) :
      Instant fault initial event.op.1 environment
  | removeAfter {injector start trace environment after}
      {event : Event (Runner.observing FaultInjector)}
      (session : Session fault initial injector start)
      (emits : FaultInjector.remove.Emits injector (trace ++ [event]))
      (admits : Admits unreliable start trace environment)
      (answer : unreliable environment event.op event.reply after) :
      Instant fault initial event.op.1 after

section

variable {fault : FaultSpec} {initial environment : Environment} {injector : FaultInjector}
  {good : FaultInjector → Environment → Prop}

/-- An invariant that `apply` establishes and `remove` keeps holds between all
methods of a session. -/
theorem Session.invariant (session : Session fault initial injector environment)
    (apply_good : FaultInjector.apply.Ensures unreliable (throughout good)
      (fun _ => good) { fault } initial)
    (remove_good : ∀ injector environment, good injector environment →
      FaultInjector.remove.Ensures unreliable (throughout good)
        (fun ended after later => good after later ∧ (ended = .ok () → later = initial))
        injector environment) : good injector environment := by
  induction session with
  | applied runs admits => exact apply_good.of_runs runs admits
  | removed _ runs admits ih => exact ((remove_good _ _ ih).of_runs runs admits).1

/-- The same invariant holds at every instant. -/
theorem Instant.invariant (instant : Instant fault initial injector environment)
    (fresh_good : good { fault } initial)
    (apply_good : FaultInjector.apply.Ensures unreliable (throughout good)
      (fun _ => good) { fault } initial)
    (remove_good : ∀ injector environment, good injector environment →
      FaultInjector.remove.Ensures unreliable (throughout good)
        (fun ended after later => good after later ∧ (ended = .ok () → later = initial))
        injector environment) : good injector environment := by
  cases instant with
  | fresh => exact fresh_good
  | between session => exact session.invariant apply_good remove_good
  | applyBefore emits admits answer => exact (apply_good.of_emits emits admits answer).1
  | applyAfter emits admits answer => exact (apply_good.of_emits emits admits answer).2
  | removeBefore session emits admits answer =>
      have ensured := remove_good _ _ (session.invariant apply_good remove_good)
      exact (ensured.of_emits emits admits answer).1
  | removeAfter session emits admits answer =>
      have ensured := remove_good _ _ (session.invariant apply_good remove_good)
      exact (ensured.of_emits emits admits answer).2

end

/-- Rollback of a fault is exact from an initial environment. -/
structure RollbackExact (fault : FaultSpec) (initial : Environment) : Prop where
  /-- Whenever the environment differs from the initial one, a cleanup is due. -/
  armed : ∀ injector environment, Instant fault initial injector environment →
    environment ≠ initial → injector.applied = true ∨ injector.cleanupRequired = true
  /-- A `clsact` qdisc that was there at the start is never deleted. -/
  preserved : ∀ injector environment, Instant fault initial injector environment →
    initial.clsact = true → environment.clsact = true
  /-- A rollback that returns has restored the environment, and with it the
  target of a service fault. -/
  restored : ∀ injector environment trace injector' environment',
    Session fault initial injector environment →
    FaultInjector.remove.Runs injector trace (.ok ()) injector' →
    Admits unreliable environment trace environment' →
    environment' = initial ∧
      (fault.type ∈ ["stop_service", "restart_service"] → environment'.running = true)

/-- Rollback is exact for every supported fault with an allowed target, whatever
the commands of the session do. -/
theorem rollback_exact (fault : FaultSpec) (initial : Environment)
    (supported : fault.type ∈
      ["stop_service", "restart_service", "n2_impairment", "n3_impairment"])
    (service interface : String) (targeted : fault.Targeted service interface)
    (initiallyRunning : fault.type ∈ ["stop_service", "restart_service"] →
      initial.running = true) : RollbackExact fault initial := by
  by_cases isService : fault.type = "stop_service" ∨ fault.type = "restart_service"
  · have running := initiallyRunning (by simpa using isService)
    have apply_good := FaultInjector.apply_service_ensures targeted.service_eq isService
      (ServiceAccounted.fresh fault initial)
    have remove_good : ∀ injector environment, ServiceAccounted fault initial injector environment →
        _ := fun injector environment =>
      FaultInjector.remove_service_ensures targeted.service_eq isService running
    have accounted_of_instant : ∀ injector environment,
        Instant fault initial injector environment →
          ServiceAccounted fault initial injector environment := fun _ _ instant =>
      instant.invariant (ServiceAccounted.fresh fault initial) apply_good remove_good
    constructor
    · intro injector environment instant
      exact (accounted_of_instant injector environment instant).armed
    · intro injector environment instant present
      rcases (accounted_of_instant injector environment instant).only_running with ⟨_, rfl⟩
      exact present
    · intro injector environment trace injector' environment' session runs admits
      have accounted := session.invariant apply_good remove_good
      rcases ((remove_good _ _ accounted).of_runs runs admits).2 rfl with rfl
      exact ⟨rfl, initiallyRunning⟩
  · obtain ⟨rule, known⟩ : ∃ rule, impairmentRules fault.type = some rule := by
      rcases not_or.mp isService with ⟨notStop, notRestart⟩
      simp only [List.mem_cons, notStop, notRestart, List.not_mem_nil, or_false,
        false_or] at supported
      rcases supported with type | type <;> simp [type, impairmentRules]
    have apply_good : FaultInjector.apply.Ensures unreliable
        (throughout (Accounted fault rule initial)) (fun _ => Accounted fault rule initial)
        { fault } initial :=
      FaultInjector.apply_impairment_ensures targeted known (Accounted.fresh fault rule initial)
    have remove_good : ∀ injector environment, Accounted fault rule initial injector environment →
        _ := fun injector environment =>
      FaultInjector.remove_impairment_ensures targeted known
    have accounted_of_instant : ∀ injector environment,
        Instant fault initial injector environment →
          Accounted fault rule initial injector environment := fun _ _ instant =>
      instant.invariant (Accounted.fresh fault rule initial) apply_good remove_good
    constructor
    · intro injector environment instant
      exact (accounted_of_instant injector environment instant).armed
    · intro injector environment instant present
      have accounted := accounted_of_instant injector environment instant
      have uncreated : injector.createdClsact = false := by
        by_contra created
        simp [accounted.created_absent (by simpa using created)] at present
      exact (accounted.clsact_eq uncreated).trans present
    · intro injector environment trace injector' environment' session runs admits
      have accounted := session.invariant apply_good remove_good
      rcases ((remove_good _ _ accounted).of_runs runs admits).2 rfl with rfl
      exact ⟨rfl, initiallyRunning⟩

/-- The N3 impairment of the gNB, with a foreign filter under a foreign `clsact`. -/
theorem rollback_exact_n3 :
    RollbackExact ⟨"n3_impairment", some "gnb", some "eth0"⟩
      ⟨true, true, {("1", "0x1")}, by simp⟩ :=
  rollback_exact _ _ (by simp) "gnb" "eth0" ⟨rfl, rfl⟩ (by simp)

end FivegLab
