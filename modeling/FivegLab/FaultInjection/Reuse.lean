import FivegLab.FaultInjection.Interleaving
import FivegLab.Program.Play

/-!
# Reusing an injector

One injector applies and removes its impairment several times, and between the
cycles others add or delete `clsact`.  The flag that the injector created `clsact`
outlives the cycle that set it, so a later rollback deletes a `clsact` that was
there before.
-/

namespace FivegLab

open Routine (ensures_bind ensures_update)

/-- Every command succeeds; the world remembers the commands. -/
def succeeding : Answers (Runner.observing FaultInjector) (Environment × List Command) :=
  fun before op reply after => ∃ result, reply = .ok result ∧ result.returncode = 0 ∧
    (operationOf op.2.command).Truthful before.1 result.stdout ∧
    after = ((operationOf op.2.command).effect before.1, before.2 ++ [op.2.command])

/-- A cycle: the environment in which it began, and the commands of its rollback. -/
structure Cycle where
  begun : Environment
  removed : List Command

/-- The rollback does not delete a `clsact` that was there when the cycle began. -/
def Cycle.Preserves (cycle : Cycle) : Prop :=
  cycle.begun.clsact = true → ∀ command ∈ cycle.removed, operationOf command ≠ .deleteClsact

/-- The complete cycles of an injector, and where they have led to: between two of
them, others add or delete `clsact`. -/
inductive Cycles (fault : FaultSpec) : List Cycle → FaultInjector → Environment → Prop
  | fresh (environment : Environment) : Cycles fault [] { fault } environment
  | interfered {cycles injector environment after}
      (history : Cycles fault cycles injector environment)
      (changed : after = environment.withClsact ∨ after = environment.withoutClsact) :
      Cycles fault cycles injector after
  | cycle {cycles injector environment applyTrace applied impaired commands removeTrace after final
      removed}
      (history : Cycles fault cycles injector environment)
      (applies : FaultInjector.apply.Runs injector applyTrace (.ok ()) applied)
      (applyAdmits : Admits succeeding (environment, []) applyTrace (impaired, commands))
      (removes : FaultInjector.remove.Runs applied removeTrace (.ok ()) after)
      (removeAdmits : Admits succeeding (impaired, []) removeTrace (final, removed)) :
      Cycles fault (cycles ++ [⟨environment, removed⟩]) after final

namespace FaultInjector

variable {fault : FaultSpec} {service interface : String} {rule : ImpairmentRule}
  {injector : FaultInjector} {world : Environment × List Command}
  {obligation : Environment × List Command → (Runner.observing FaultInjector).Op →
    Environment × List Command → Prop}

/-- A command of an injector succeeds with its effect. -/
theorem run_succeeds {command : Command} {timeout : ℕ}
    {post : Except Raised CompletedProcess → FaultInjector → Environment × List Command → Prop}
    (ends : ∀ result, (operationOf command).Truthful world.1 result.stdout →
      post (.ok result) (injector.record command)
        ((operationOf command).effect world.1, world.2 ++ [command])) :
    (run command timeout).Ensures succeeding (fun _ _ _ => True) post injector world := by
  simp only [run, ensures_bind, ensures_update, ensures_callRunner]
  rintro reply after ⟨result, rfl, success, truthful, rfl⟩
  refine ⟨trivial, ?_⟩
  simpa [success] using ends result truthful

/-- Whether `clsact` is present is what the environment says. -/
theorem clsactPresent_succeeds (targeted : fault.Targeted service interface)
    (fault_eq : injector.fault = fault)
    {post : Except Raised Bool → FaultInjector → Environment × List Command → Prop}
    (ends : ∀ command commands, post (.ok world.1.clsact) (injector.record command)
      (world.1, commands)) :
    clsactPresent.Ensures succeeding (fun _ _ _ => True) post injector world := by
  simp only [clsactPresent, ensures_bind, Routine.ensures_state, fault_eq,
    targeted.qdiscShowCommand_eq, Routine.ensures_ofExcept]
  refine run_succeeds fun result truthful => ?_
  have seen : world.1.clsact = decide (Text.Contains result.stdout "qdisc clsact") :=
    Bool.eq_iff_iff.mpr (truthful.symm.trans decide_eq_true_iff.symm)
  have continued := ends
    ["docker", "compose", "exec", "-T", service, "tc", "qdisc", "show", "dev", interface]
  rw [seen] at continued
  exact continued _

/-- What applying an impairment leaves behind when `clsact` was present or not. -/
structure AppliedTo (fault : FaultSpec) (injector : FaultInjector) (present : Bool)
    (after : FaultInjector) : Prop where
  fault_eq : after.fault = fault
  applied_eq : after.applied = true
  filter_eq : after.filterCleanupRequired = true
  created_eq : after.createdClsact = (injector.createdClsact || !present)

theorem addFilter_succeeds (targeted : fault.Targeted service interface)
    (known : impairmentRules fault.type = some rule) {present : Bool} {before : FaultInjector}
    (fault_eq : injector.fault = fault)
    (created_eq : injector.createdClsact = (before.createdClsact || !present)) :
    addFilter.Ensures succeeding (fun _ _ _ => True)
      (fun ended after _ => ended = .ok () → AppliedTo fault before present after)
      injector world := by
  have armed : injector.armFilter.fault = fault := fault_eq
  simp only [addFilter, ensures_bind, ensures_update, Routine.ensures_state, armed,
    targeted.filterAddCommand_eq known, Routine.ensures_ofExcept]
  refine run_succeeds fun result _ => ?_
  exact fun _ => ⟨fault_eq, rfl, rfl, created_eq⟩

theorem applyImpairment_succeeds (targeted : fault.Targeted service interface)
    (known : impairmentRules fault.type = some rule) (fault_eq : injector.fault = fault) :
    applyImpairment.Ensures succeeding (fun _ _ _ => True)
      (fun ended after _ => ended = .ok () → AppliedTo fault injector world.1.clsact after)
      injector world := by
  simp only [applyImpairment, filterAbsent, ensures_bind, Routine.ensures_state, fault_eq,
    targeted.filterShowCommand_eq known, Routine.ensures_ofExcept]
  refine run_succeeds fun shown _ => ?_
  simp only [Routine.ensures_pure]
  split
  case isTrue =>
    simp only [prepareClsact, ensures_bind]
    have same :
        (injector.record ["docker", "compose", "exec", "-T", service, "tc", "filter", "show",
        "dev", interface, "egress", "pref", rule.preference]).fault = fault := fault_eq
    refine clsactPresent_succeeds targeted same fun command commands => ?_
    change Routine.Ensures _ _ _ (if world.1.clsact = true then _ else _) _ _
    split
    case isTrue present =>
      simp only [Routine.ensures_pure]
      exact addFilter_succeeds targeted known fault_eq (by simp [present])
    case isFalse absent =>
      have armed : (armClsact ((injector.record ["docker", "compose", "exec", "-T", service, "tc",
          "filter", "show", "dev", interface, "egress", "pref", rule.preference]).record
            command)).fault = fault := fault_eq
      simp only [ensures_bind, ensures_update, Routine.ensures_state, Routine.ensures_ofExcept,
        armed, targeted.clsactAddCommand_eq]
      refine run_succeeds fun added _ => ?_
      simp only [Routine.ensures_pure]
      exact addFilter_succeeds targeted known fault_eq (by simp [armClsact, absent])
  case isFalse => simp

theorem apply_succeeds (targeted : fault.Targeted service interface)
    (known : impairmentRules fault.type = some rule) (fault_eq : injector.fault = fault) :
    apply.Ensures succeeding (fun _ _ _ => True)
      (fun ended after _ => ended = .ok () → AppliedTo fault injector world.1.clsact after)
      injector world := by
  rcases notService known with ⟨notNone, notStop, notRestart⟩
  simp only [apply, ensures_bind, Routine.ensures_state, fault_eq, notNone, notStop, notRestart,
    known, if_false, if_true, Option.isSome_some]
  exact applyImpairment_succeeds targeted known fault_eq

/-- A round of the rollback that is not skipped. -/
theorem removeStep_succeeds {command : Command}
    (due : ¬("filter" ∈ command ∧ injector.filterCleanupRequired = false))
    {post : Except Raised (List String) → FaultInjector → Environment × List Command → Prop}
    (ends : post (.ok []) (injector.record command)
      ((operationOf command).effect world.1, world.2 ++ [command])) :
    (removeStep command).Ensures succeeding (fun _ _ _ => True) post injector world := by
  simp only [removeStep, ensures_bind, Routine.ensures_state, if_neg due, Routine.ensures_attempt]
  exact run_succeeds fun result _ => ends

/-- The commands of the rollback of an injector. -/
def rollbackLines (rule : ImpairmentRule) (service interface : String) (created : Bool) :
    List Command :=
  rule.deleteLine service interface ::
    if created then [clsactDeleteLine service interface] else []

/-- The rollback of an applied impairment deletes the filter, and `clsact` when the
flag is set that the injector created it, now or in an earlier cycle. -/
theorem remove_succeeds (targeted : fault.Targeted service interface)
    (known : impairmentRules fault.type = some rule) {present : Bool} {before : FaultInjector}
    (applied : AppliedTo fault before present injector) :
    remove.Ensures succeeding (fun _ _ _ => True)
      (fun _ after later => after.fault = fault ∧ after.createdClsact = injector.createdClsact ∧
        later.2 = world.2 ++ rollbackLines rule service interface injector.createdClsact)
      injector world := by
  have active : ¬(injector.applied = false ∧ injector.cleanupRequired = false) := by
    simp [applied.applied_eq]
  have dueFilter : ¬("filter" ∈ rule.deleteLine service interface ∧
      injector.filterCleanupRequired = false) := by
    simp [applied.filter_eq]
  simp only [remove, ensures_bind, Routine.ensures_state, if_neg active,
    rollbackCommands_eq targeted known applied.fault_eq, Routine.ensures_ofExcept, removeLoop]
  refine removeStep_succeeds dueFilter ?_
  cases created : injector.createdClsact with
  | false =>
      simp only [Bool.false_eq_true, if_false, removeLoop, Routine.ensures_pure, List.append_nil,
        ensures_update, rollbackLines]
      exact ⟨applied.fault_eq, created, trivial⟩
  | true =>
      have dueClsact : ¬("filter" ∈ clsactDeleteLine service interface ∧
          (injector.record (rule.deleteLine service interface)).filterCleanupRequired = false) := by
        simp [targeted.filter_not_mem_clsactDelete]
      simp only [if_true, removeLoop, ensures_bind]
      refine removeStep_succeeds dueClsact ?_
      simp only [Routine.ensures_pure, List.append_nil, ensures_update, rollbackLines, if_true]
      exact ⟨applied.fault_eq, created, by simp⟩

/-- An impairment that was applied has an allowed target and interface. -/
theorem targeted_of_apply (known : impairmentRules fault.type = some rule)
    (fault_eq : injector.fault = fault) {trace : List (Event (Runner.observing FaultInjector))}
    {after : FaultInjector} (applies : apply.Runs injector trace (.ok ()) after) :
    ∃ service interface, fault.Targeted service interface := by
  rcases notService known with ⟨notNone, notStop, notRestart⟩
  simp only [apply, Routine.runs_state_bind_iff, fault_eq, notNone, notStop, notRestart, known,
    if_false, if_true, Option.isSome_some, applyImpairment] at applies
  rcases Routine.runs_bind_ok_iff.mp applies with ⟨_, absent, _, _, _, shown, _⟩
  simp only [filterAbsent, Routine.runs_state_bind_iff, fault_eq] at shown
  rcases Routine.runs_bind_ok_iff.mp shown with ⟨_, command, _, _, _, built, _⟩
  have show_eq := (Routine.runs_ofExcept_iff.mp built).2.1
  simp only [FaultSpec.filterShowCommand, FaultSpec.tcCommand, eq_comm (a := Except.ok command),
    Except.bind_ok_iff] at show_eq
  rcases show_eq with ⟨_, _, interface, interface_eq, service, service_eq, _⟩
  exact ⟨service, interface, service_eq, interface_eq⟩

end FaultInjector

/-- The answers of commands that all succeed. -/
def obliging : Responder (Runner.observing FaultInjector) (Environment × List Command) :=
  fun world op =>
    (.ok ⟨0, (operationOf op.2.command).output world.1, ""⟩,
      ((operationOf op.2.command).effect world.1, world.2 ++ [op.2.command]))

theorem obliging_succeeds (before : Environment × List Command)
    (op : (Runner.observing FaultInjector).Op) (reply : Except Raised CompletedProcess)
    (after : Environment × List Command) (answered : obliging.answers before op reply after) :
    succeeding before op reply after := by
  cases answered
  exact ⟨_, rfl, rfl, Operation.output_truthful _ _, rfl⟩

namespace Cycles

variable {fault : FaultSpec} {rule : ImpairmentRule} {cycles : List Cycle}
  {injector : FaultInjector}
  {environment : Environment}

/-- What one cycle does: the rollback deletes `clsact` when it was absent at the
beginning of this cycle or of one whose flag is still set. -/
theorem cycle_spec (known : impairmentRules fault.type = some rule)
    (fault_eq : injector.fault = fault)
    {applied after : FaultInjector} {impaired final : Environment} {commands removed : List Command}
    {applyTrace removeTrace : List (Event (Runner.observing FaultInjector))}
    (applies : FaultInjector.apply.Runs injector applyTrace (.ok ()) applied)
    (applyAdmits : Admits succeeding (environment, []) applyTrace (impaired, commands))
    (removes : FaultInjector.remove.Runs applied removeTrace (.ok ()) after)
    (removeAdmits : Admits succeeding (impaired, []) removeTrace (final, removed)) :
    after.fault = fault ∧
      after.createdClsact = (injector.createdClsact || !environment.clsact) ∧
      ((∀ command ∈ removed, operationOf command ≠ .deleteClsact) ↔
        after.createdClsact = false) := by
  rcases FaultInjector.targeted_of_apply known fault_eq applies with ⟨service, interface, targeted⟩
  have appliedTo :=
    (FaultInjector.apply_succeeds targeted known fault_eq).of_runs applies applyAdmits rfl
  rcases (FaultInjector.remove_succeeds targeted known appliedTo).of_runs removes removeAdmits with
    ⟨after_fault, created, removed_eq⟩
  refine ⟨after_fault, created.trans appliedTo.created_eq, ?_⟩
  have filterLine : operationOf (rule.deleteLine service interface) ≠ .deleteClsact := by
    change Operation.deleteFilter _ _ ≠ _
    simp
  have clsactLine : operationOf (clsactDeleteLine service interface) = .deleteClsact := rfl
  simp only [List.nil_append] at removed_eq
  rw [removed_eq, created, FaultInjector.rollbackLines]
  cases applied.createdClsact with
  | false => simp [filterLine]
  | true => simp [filterLine, clsactLine]

/-- Between the cycles, the flag says whether some cycle began without `clsact`. -/
theorem created_iff (known : impairmentRules fault.type = some rule)
    (history : Cycles fault cycles injector environment) :
    injector.fault = fault ∧
      (injector.createdClsact = false ↔ ∀ cycle ∈ cycles, cycle.begun.clsact = true) := by
  induction history with
  | fresh => simp
  | interfered _ _ ih => exact ih
  | cycle _ applies applyAdmits removes removeAdmits ih =>
      rcases cycle_spec known ih.1 applies applyAdmits removes removeAdmits with
        ⟨fault_eq, created, _⟩
      refine ⟨fault_eq, ?_⟩
      simp only [created, Bool.or_eq_false_iff, ih.2, Bool.not_eq_false', List.mem_append,
        List.mem_singleton, or_imp, forall_and, forall_eq]

/-- The rollbacks of a history preserve every `clsact` they must preserve exactly when
no cycle finds `clsact` present after another one has found it absent. -/
theorem preserves_iff (known : (impairmentRules fault.type).isSome)
    (history : Cycles fault cycles injector environment) :
    (∀ cycle ∈ cycles, cycle.Preserves) ↔ cycles.Pairwise fun earlier later =>
      later.begun.clsact = true → earlier.begun.clsact = true := by
  rcases Option.isSome_iff_exists.mp known with ⟨rule, known⟩
  induction history with
  | fresh => simp
  | interfered _ _ ih => exact ih
  | cycle earlier applies applyAdmits removes removeAdmits ih =>
      rcases earlier.created_iff known with ⟨fault_eq, created_iff⟩
      rcases cycle_spec known fault_eq applies applyAdmits removes removeAdmits with
        ⟨_, created, deletes⟩
      simp only [List.mem_append, List.mem_singleton, or_imp, forall_and, forall_eq,
        List.pairwise_append, List.pairwise_singleton, true_and, ih]
      refine and_congr_right fun _ => ?_
      rw [Cycle.Preserves]
      refine ⟨fun preserves before mem present => ?_, fun kept present => ?_⟩
      · have uncreated := deletes.mp (preserves present)
        rw [created, Bool.or_eq_false_iff] at uncreated
        exact created_iff.mp uncreated.1 before mem
      · refine deletes.mpr ?_
        rw [created, Bool.or_eq_false_iff]
        refine ⟨created_iff.mpr fun before mem => kept before mem present, ?_⟩
        simpa using present

/-- Carry out a cycle whose commands all succeed. -/
def carryOut (injector : FaultInjector) (environment : Environment) :
    Option (FaultInjector × Environment × List Command) :=
  match (FaultInjector.apply injector).play obliging (environment, []) with
  | some ((.ok (), applied), impaired, _) =>
      match (FaultInjector.remove applied).play obliging (impaired, []) with
      | some ((.ok (), after), final, removed) => some (after, final, removed)
      | _ => none
  | _ => none

theorem carriedOut (history : Cycles fault cycles injector environment) {after : FaultInjector}
    {final : Environment} {removed : List Command}
    (carried : carryOut injector environment = some (after, final, removed)) :
    Cycles fault (cycles ++ [⟨environment, removed⟩]) after final := by
  unfold carryOut at carried
  split at carried
  case h_1 applied impaired commands appliesPlayed =>
    split at carried
    case h_1 removesPlayed =>
      cases carried
      rcases Program.runs_of_play appliesPlayed with ⟨applies, applyAdmits⟩
      rcases Program.runs_of_play removesPlayed with ⟨removes, removeAdmits⟩
      exact .cycle history applies (applyAdmits.mono obliging_succeeds) removes
        (removeAdmits.mono obliging_succeeds)
    case h_2 => cases carried
  case h_2 => cases carried

end Cycles

/-- The N3 impairment of the gNB. -/
def n3Fault : FaultSpec := ⟨"n3_impairment", some "gnb", some "eth0"⟩

/-- The running gNB without traffic control. -/
def plainEnvironment : Environment := ⟨true, false, ∅, unfiltered⟩

/-- The running gNB with a `clsact` of someone else. -/
def sharedEnvironment : Environment := plainEnvironment.withClsact

/-- Two cycles that find `clsact` present, which others have deleted and added again
in between. -/
theorem preserves_iff_n3 : ∃ first second middle final injector environment,
    Cycles n3Fault [first] middle final ∧ Cycles n3Fault [first, second] injector environment ∧
    first.begun = sharedEnvironment ∧ second.begun = final.withoutClsact.withClsact ∧
    first.begun.clsact = true ∧ second.begun.clsact = true ∧
    first.Preserves ∧ second.Preserves := by
  have carried : ∃ after final removed later last again,
      Cycles.carryOut { fault := n3Fault } sharedEnvironment = some (after, final, removed) ∧
      Cycles.carryOut after final.withoutClsact.withClsact = some (later, last, again) :=
    ⟨_, _, _, _, _, _, rfl, rfl⟩
  rcases carried with ⟨after, final, removed, later, last, again, carriedFirst, carriedSecond⟩
  have first := (Cycles.fresh sharedEnvironment).carriedOut carriedFirst
  have changed := (first.interfered (.inr rfl)).interfered (.inl rfl)
  have history := changed.carriedOut carriedSecond
  have preserves := (Cycles.preserves_iff rfl history).mpr (by simp [sharedEnvironment])
  exact ⟨_, _, _, _, _, _, first, history, rfl, rfl, rfl, rfl, preserves _ (by simp),
    preserves _ (by simp)⟩

/-- A cycle that finds no `clsact`, then a `clsact` of someone else: the second
rollback deletes it. -/
theorem preserves_lost : ¬∀ fault cycles injector environment, (impairmentRules fault.type).isSome →
    Cycles fault cycles injector environment → ∀ cycle ∈ cycles, cycle.Preserves := by
  intro preserves
  have carried : ∃ after final removed later last again,
      Cycles.carryOut { fault := n3Fault } plainEnvironment = some (after, final, removed) ∧
      Cycles.carryOut after final.withClsact = some (later, last, again) ∧
      ∃ command ∈ again, operationOf command = .deleteClsact :=
    ⟨_, _, _, _, _, _, rfl, rfl, _, List.mem_cons_of_mem _ List.mem_cons_self, rfl⟩
  rcases carried with
    ⟨after, final, removed, later, last, again, first, second, command, mem, deletes⟩
  have history := ((Cycles.fresh plainEnvironment).carriedOut first).interfered (.inl rfl)
  have kept := preserves _ _ _ _ rfl (history.carriedOut second) ⟨final.withClsact, again⟩ (by simp)
  exact kept rfl command mem deletes

end FivegLab
