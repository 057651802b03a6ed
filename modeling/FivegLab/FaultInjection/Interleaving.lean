import FivegLab.FaultInjection.Environment
import FivegLab.Program.Interference

/-!
# Two impairments at once

An N2 and an N3 injector act on one interface, each through its own `apply` and
then its own `remove`, command by command in any order.  The `clsact` qdisc is
shared, and rollback removes it when the injector created it, with every filter
under it.  So the injector that created `clsact` takes the other's filter with
it; nothing else disturbs a filter, and when both rollbacks have returned the
environment is the initial one.
-/

namespace FivegLab

/-- The two impairments. -/
inductive Side
  | n2
  | n3
  deriving DecidableEq, Repr

namespace Side

def faultType : Side → String
  | .n2 => "n2_impairment"
  | .n3 => "n3_impairment"

def rule : Side → ImpairmentRule
  | .n2 => n2Rule
  | .n3 => n3Rule

def other : Side → Side
  | .n2 => .n3
  | .n3 => .n2

theorem impairmentRules_faultType (side : Side) :
    impairmentRules side.faultType = some side.rule := by
  cases side <;> simp [faultType, impairmentRules, rule]

theorem eq_other {side second : Side} (different : second ≠ side) : second = side.other := by
  cases side <;> cases second <;> simp_all [other]

theorem key_ne {side second : Side} (different : second ≠ side) :
    second.rule.key ≠ side.rule.key := by
  cases side <;> cases second <;> simp_all [rule, ImpairmentRule.key, n2Rule, n3Rule]

end Side

/-- The faults of the two injectors, on the same interface of the same service. -/
structure Impairments where
  fault : Side → FaultSpec
  service : String
  interface : String
  type_eq : ∀ side, (fault side).type = side.faultType
  targeted : ∀ side, (fault side).Targeted service interface

/-- An operation that leaves the environment as it is. -/
def Operation.reads : Operation → Bool
  | .showFilters _ | .showQdiscs | .list | .inspect | .other => true
  | _ => false

/-- What the kernel requires of the environment for an operation to succeed. -/
def Operation.Possible : Operation → Environment → Prop
  | .addClsact, environment => environment.clsact = false
  | .deleteClsact, environment => environment.clsact = true
  | .addFilter preference handle, environment =>
      environment.clsact = true ∧ (preference, handle) ∉ environment.filters
  | .deleteFilter preference handle, environment => (preference, handle) ∈ environment.filters
  | _, _ => True

instance (operation : Operation) (environment : Environment) :
    Decidable (operation.Possible environment) := by
  cases operation <;> unfold Operation.Possible <;> infer_instance

/-- What a successful operation prints. -/
def Operation.output : Operation → Environment → String
  | .showFilters preference, environment =>
      if ∃ key ∈ environment.filters, key.1 = preference then "filter" else ""
  | .showQdiscs, environment => if environment.clsact then "qdisc clsact" else "qdisc noqueue"
  | .inspect, environment =>
      if environment.running then "true|running|start|none" else "false|exited|start|none"
  | _, _ => ""

theorem Operation.output_truthful (operation : Operation) (environment : Environment) :
    operation.Truthful environment (operation.output environment) := by
  cases operation with
  | showFilters preference =>
      simp only [Truthful, output]
      split
      · rename_i shown
        rcases shown with ⟨key, member, same⟩
        refine ⟨fun blank => absurd blank (by decide), fun absent => ?_⟩
        exact absurd same (absent key member)
      · rename_i hidden
        refine ⟨fun _ key member same => hidden ⟨key, member, same⟩, fun _ => by decide⟩
  | showQdiscs =>
      cases present : environment.clsact <;> simp only [Truthful, output, present] <;> decide
  | inspect =>
      cases running : environment.running with
      | false =>
          simp only [Truthful, output, running]
          exact ⟨"exited", "start", "none", by decide⟩
      | true =>
          simp only [Truthful, output, running]
          exact ⟨"running", "start", "none", by decide⟩
  | _ => trivial

/-- A command that was carried out: by whom, in which state of the injector,
what it was, and whether it succeeded. -/
structure Issued where
  side : Side
  injector : FaultInjector
  operation : Operation
  succeeded : Bool

/-- The environment of both injectors, and the commands carried out so far. -/
structure Shared where
  environment : Environment
  log : List Issued

/-- The answers of the shared environment to one side.  A change succeeds exactly
when it is possible, and has no effect otherwise; a read may fail, and tells the
truth when it succeeds. -/
def atomically (side : Side) : Answers (Runner.observing FaultInjector) Shared :=
  fun before op reply after =>
    match reply with
    | .ok result =>
        if result.returncode = 0 then
          (operationOf op.2.command).Possible before.environment ∧
          (operationOf op.2.command).Truthful before.environment result.stdout ∧
          after = ⟨(operationOf op.2.command).effect before.environment,
            before.log ++ [⟨side, op.1, operationOf op.2.command, true⟩]⟩
        else
          ((operationOf op.2.command).reads = true ∨
            ¬(operationOf op.2.command).Possible before.environment) ∧
          after = ⟨before.environment,
            before.log ++ [⟨side, op.1, operationOf op.2.command, false⟩]⟩
    | .error _ =>
        (operationOf op.2.command).reads = true ∧
        after = ⟨before.environment,
          before.log ++ [⟨side, op.1, operationOf op.2.command, false⟩]⟩

/-- The kernel as it is: every possible operation succeeds. -/
def kernel (side : Side) : Responder (Runner.observing FaultInjector) Shared :=
  fun before op =>
    let operation := operationOf op.2.command
    if operation.Possible before.environment then
      (.ok ⟨0, operation.output before.environment, ""⟩,
        ⟨operation.effect before.environment, before.log ++ [⟨side, op.1, operation, true⟩]⟩)
    else
      (.ok ⟨2, "", "RTNETLINK answers: No such file or directory"⟩,
        ⟨before.environment, before.log ++ [⟨side, op.1, operation, false⟩]⟩)

theorem kernel_atomically {side : Side} {before after : Shared}
    {op : (Runner.observing FaultInjector).Op} {reply : (Runner.observing FaultInjector).Reply op}
    (answer : (kernel side).answers before op reply after) :
    atomically side before op reply after := by
  simp only [Responder.answers, kernel] at answer
  split at answer
  · rename_i possible
    cases answer
    exact ⟨possible, Operation.output_truthful _ _, rfl⟩
  · rename_i impossible
    cases answer
    exact ⟨.inr impossible, rfl⟩

/-- How far an injector has come: the end of `apply`, and the end of `remove`. -/
inductive Milestone
  | applied (outcome : Except Raised Unit) (injector : FaultInjector)
  | removed (outcome : Except Raised Unit) (injector : FaultInjector)

abbrev InjectorThread := Program (Runner.observing FaultInjector) Milestone

def applyThread (fault : FaultSpec) : InjectorThread :=
  (FaultInjector.apply { fault }).bind fun ended => .done (.applied ended.1 ended.2)

def removeThread (injector : FaultInjector) : InjectorThread :=
  (FaultInjector.remove injector).bind fun ended => .done (.removed ended.1 ended.2)

/-- After `apply`, however it ended, comes one `remove`. -/
def resumeThread : Milestone → Option InjectorThread
  | .applied _ injector => some (removeThread injector)
  | .removed _ _ => none

abbrev Duo := Configuration Side (Runner.observing FaultInjector) Milestone Shared

namespace Impairments

def start (impairments : Impairments) (initial : Environment) : Duo where
  threads side := applyThread (impairments.fault side)
  world := ⟨initial, []⟩

/-- The configurations of an interleaving of the two injectors. -/
abbrev Reaches (impairments : Impairments) (initial : Environment) (duo : Duo) : Prop :=
  Interleaves atomically resumeThread (impairments.start initial) duo

/-- Neither impairment disturbs the other. -/
structure Undisturbed (impairments : Impairments) (initial : Environment) : Prop where
  /-- Once applied, a filter stays installed until its own `remove` begins. -/
  installed : ∀ duo side injector, impairments.Reaches initial duo →
    duo.threads side = .done (.applied (.ok ()) injector) →
    side.rule.key ∈ duo.world.environment.filters
  /-- Two rollbacks that returned have restored the environment. -/
  restored : ∀ duo, impairments.Reaches initial duo →
    (∀ side, ∃ injector, duo.threads side = .done (.removed (.ok ()) injector)) →
    duo.world.environment = initial

end Impairments

/-- The two impairments of the gNB. -/
def gnbImpairments : Impairments where
  fault side := ⟨side.faultType, some "gnb", some "eth0"⟩
  service := "gnb"
  interface := "eth0"
  type_eq _ := rfl
  targeted _ := ⟨rfl, rfl⟩

/-- A running target without traffic control. -/
def bareEnvironment : Environment := ⟨true, false, ∅, unfiltered⟩

/-- N2 is applied and creates `clsact`, N3 is applied under it, and the rollback
of N2 deletes `clsact`. -/
def overlap : Option Duo := do
  let applied ← (gnbImpairments.start bareEnvironment).advance kernel .n2
  let both ← applied.advance kernel .n3
  let removing ← both.resumed resumeThread .n2
  removing.advance kernel .n2

/-- N3 stands applied, without its filter. -/
def n3Lost (duo : Duo) : Bool :=
  match duo.threads .n3 with
  | .done (.applied (.ok _) _) => Side.n3.rule.key ∉ duo.world.environment.filters
  | _ => false

theorem n3Lost_overlap : overlap.map n3Lost = some true := by
  decide

end FivegLab
