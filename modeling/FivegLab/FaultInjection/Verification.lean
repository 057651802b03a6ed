import FivegLab.FaultInjection.Environment
import FivegLab.Program.Play
import FivegLab.Words

/-!
# Verifying an impairment

What the verification of an applied impairment finds in the output of
`tc filter show`: five texts, wherever they stand.
-/

namespace FivegLab

open Routine (runs_bind_ok_iff runs_state_bind_iff runs_update_bind_iff runs_pure_bind_iff
  runs_ofExcept_iff runs_pure_iff)

/-- The tokens of each filter entry: those behind a token `filter`, up to the next
one. -/
def filterEntries (output : String) : List (List String) :=
  ((Text.words output).splitOn "filter").tail

/-- The five fields that make a filter the one of the rule. -/
def ImpairmentRule.fields (rule : ImpairmentRule) : List (String × String) :=
  [("handle", rule.handle), ("ip_proto", rule.protocol), ("dst_ip", rule.peerIp),
    ("dst_port", rule.port), ("action", "drop")]

/-- The texts that the verification looks for. -/
def ImpairmentRule.markers (rule : ImpairmentRule) : List String :=
  rule.fields.map fun field => field.1 ++ " " ++ field.2

/-- The entry has all fields of the rule, as whole tokens. -/
def ImpairmentRule.Carries (rule : ImpairmentRule) (entry : List String) : Prop :=
  ∀ field ∈ rule.fields, [field.1, field.2] <:+: entry

instance (rule : ImpairmentRule) (entry : List String) : Decidable (rule.Carries entry) :=
  inferInstanceAs (Decidable (∀ field ∈ rule.fields, [field.1, field.2] <:+: entry))

/-- A single entry of the output is the filter of the rule. -/
def ImpairmentRule.Shown (rule : ImpairmentRule) (output : String) : Prop :=
  ∃ entry ∈ filterEntries output, rule.Carries entry

instance (rule : ImpairmentRule) (output : String) : Decidable (rule.Shown output) :=
  inferInstanceAs (Decidable (∃ entry ∈ filterEntries output, rule.Carries entry))

/-- The output has tokens that the verification takes for the field: one that ends
with its name, and behind it one that begins with its value, in whatever case. -/
def Sighted (field : String × String) (output : String) : Prop :=
  ∃ name value, [name, value] <:+: Text.words output ∧
    Text.EndsWith (Text.lower name) field.1 ∧ Text.StartsWith (Text.lower value) field.2

/-- How tokens that are taken for the fields of the rule need not be those of one
entry. -/
inductive ImpairmentRule.Misleading (rule : ImpairmentRule) (output : String) : Prop
  /-- Longer tokens are taken for a field, or such with capital letters, or tokens in
  front of the first entry; no entry has the field. -/
  | nearMiss (field : String × String) (member : field ∈ rule.fields)
      (sighted : Sighted field output)
      (nowhere : ∀ entry ∈ filterEntries output, ¬[field.1, field.2] <:+: entry)
  /-- Each field is in an entry, but in different ones. -/
  | scattered
      (each : ∀ field ∈ rule.fields, ∃ entry ∈ filterEntries output,
        [field.1, field.2] <:+: entry)
      (apart : ∀ entry ∈ filterEntries output, ∃ field ∈ rule.fields,
        ¬[field.1, field.2] <:+: entry)

/-- The lower-cased output has all markers, from misleading tokens. -/
structure ImpairmentRule.Confuses (rule : ImpairmentRule) (output : String) : Prop where
  markers : ∀ marker ∈ rule.markers, Text.Contains (Text.lower output) marker
  misleading : rule.Misleading output

/-- Where a text occurs that is a name, a blank and a value, there are tokens that
are taken for the field. -/
theorem sighted_of_contains {field : String × String} {output : String}
    (name : ∀ c ∈ field.1.toList, Text.isSpace c = false) (named : field.1.toList ≠ [])
    (value : ∀ c ∈ field.2.toList, Text.isSpace c = false) (valued : field.2.toList ≠ [])
    (occurs : Text.Contains (Text.lower output) (field.1 ++ " " ++ field.2)) :
    Sighted field output := by
  have blank : Text.isSpace ' ' = true := rfl
  rw [Text.Contains, Text.lower, String.toList_ofList, String.toList_append,
    String.toList_append, List.append_assoc] at occurs
  rcases Text.wordsChars_pair blank name named value valued occurs with
    ⟨word, next, ⟨before, after, split⟩, suffix, start⟩
  rw [Text.wordsChars_lower] at split
  rcases List.map_eq_append_iff.mp split.symm with ⟨front, back, words, frontLower, backLower⟩
  rcases List.map_eq_append_iff.mp frontLower with ⟨early, pair, rfl, _, pairLower⟩
  rcases List.map_eq_cons_iff.mp pairLower with ⟨first, others, rfl, rfl, othersLower⟩
  rcases List.map_eq_cons_iff.mp othersLower with ⟨second, none, rfl, rfl, noneLower⟩
  rw [List.map_eq_nil_iff] at noneLower
  subst none
  refine ⟨.ofList first, .ofList second, ?_, ?_, ?_⟩
  · exact ⟨early.map .ofList, back.map .ofList, by rw [Text.words, words]; simp⟩
  · rwa [Text.EndsWith, Text.lower, String.toList_ofList, String.toList_ofList]
  · rwa [Text.StartsWith, Text.lower, String.toList_ofList, String.toList_ofList]

/-- The text is one word. -/
def isWord (text : String) : Bool := !text.toList.isEmpty && text.toList.all (!Text.isSpace ·)

theorem isWord_iff {text : String} :
    isWord text = true ↔ text.toList ≠ [] ∧ ∀ c ∈ text.toList, Text.isSpace c = false := by
  simp [isWord]

theorem n2Rule_words :
    n2Rule.fields.all (fun field => isWord field.1 && isWord field.2) = true := by
  decide +kernel

theorem n3Rule_words :
    n3Rule.fields.all (fun field => isWord field.1 && isWord field.2) = true := by
  decide +kernel

/-- A marker of one of the rules, in the lower-cased output, sights its field. -/
theorem ImpairmentRule.sighted {type : String} {rule : ImpairmentRule}
    (known : impairmentRules type = some rule) {output : String} {field : String × String}
    (member : field ∈ rule.fields)
    (occurs : Text.Contains (Text.lower output) (field.1 ++ " " ++ field.2)) :
    Sighted field output := by
  have visible : rule.fields.all (fun field => isWord field.1 && isWord field.2) = true := by
    unfold impairmentRules at known
    split at known
    · cases known
      exact n2Rule_words
    · split at known
      · cases known
        exact n3Rule_words
      · cases known
  have both := List.all_eq_true.mp visible field member
  rw [Bool.and_eq_true, isWord_iff, isWord_iff] at both
  rcases both with ⟨⟨named, name⟩, valued, value⟩
  exact sighted_of_contains name named value valued occurs

/-- An entry that carries the rule leaves nothing to mislead. -/
theorem ImpairmentRule.Shown.not_misleading {rule : ImpairmentRule} {output : String}
    (shown : rule.Shown output) : ¬rule.Misleading output := by
  rcases shown with ⟨entry, listed, carries⟩
  intro misleading
  cases misleading with
  | nearMiss field member _ nowhere => exact nowhere entry listed (carries field member)
  | scattered _ apart =>
      rcases apart entry listed with ⟨field, member, missing⟩
      exact missing (carries field member)

/-- What `tc filter show` printed at the preference of the rule, whenever it was
called. -/
def ImpairmentRule.Printed (rule : ImpairmentRule) (output : String)
    (trace : List (Event (Runner.observing FaultInjector))) : Prop :=
  ∀ event ∈ trace, operationOf event.op.2.command = .showFilters rule.preference →
    ∀ result, event.reply = .ok result → result.stdout = output

namespace FaultInjector

variable {fault : FaultSpec} {service interface : String} {rule : ImpairmentRule}
  {injector : FaultInjector} {output : String}

/-- Some run of the verification returns `True` on the output. -/
def VerifiesOn (injector : FaultInjector) (rule : ImpairmentRule) (output : String) : Prop :=
  ∃ trace after, verifyApplied.Runs injector trace (.ok true) after ∧ rule.Printed output trace

/-- A command that returns has exited with 0. -/
theorem run_runs_ok_iff {command : Command} {timeout : ℕ} {result : CompletedProcess}
    {trace : List (Event (Runner.observing FaultInjector))} {after : FaultInjector} :
    (run command timeout).Runs injector trace (.ok result) after ↔
      trace = [⟨(injector.record command, ⟨command, timeout⟩), .ok result⟩] ∧
        after = injector.record command ∧ result.returncode = 0 := by
  change (Program.call (I := Runner.observing FaultInjector)
    (injector.record command, ⟨command, timeout⟩) _).Runs trace (Except.ok result, after) ↔ _
  rw [Program.runs_call_iff]
  constructor
  · rintro ⟨error | completed, rest, rfl, runs⟩
    · cases runs
    · change Routine.Runs (if completed.returncode ≠ 0 then _ else pure completed)
        (injector.record command) rest (.ok result) after at runs
      split at runs
      case isTrue => simp at runs
      case isFalse success =>
        rcases runs_pure_iff.mp runs with ⟨rfl, same, rfl⟩
        cases same
        exact ⟨rfl, rfl, by simpa using success⟩
  · rintro ⟨rfl, rfl, success⟩
    refine ⟨.ok result, [], rfl, ?_⟩
    change Routine.Runs (if result.returncode ≠ 0 then _ else pure result)
      (injector.record command) [] (.ok result) (injector.record command)
    rw [if_neg (by simp [success])]
    exact runs_pure_iff.mpr ⟨rfl, rfl, rfl⟩

/-- The verification returns `True` when its body does. -/
theorem verifying_runs_true_iff {body : InjectorM Bool}
    {trace : List (Event (Runner.observing FaultInjector))} {after : FaultInjector} :
    (verifying body).Runs injector trace (.ok true) after ↔
      body.Runs { injector with lastVerificationError := none } trace (.ok true) after := by
  simp only [verifying]
  rw [runs_update_bind_iff, runs_bind_ok_iff]
  constructor
  · rintro ⟨first, ended, middle, rest, rfl, ran, returns⟩
    rcases Routine.runs_attempt_iff.mp ran with ⟨_, same, runs⟩
    cases same
    cases ended with
    | ok verified =>
        rcases runs_pure_iff.mp returns with ⟨rfl, same, rfl⟩
        cases same
        simpa using runs
    | error error =>
        dsimp only at returns
        split at returns
        · rw [runs_update_bind_iff] at returns
          simp at returns
        · simp at returns
  · intro runs
    exact ⟨trace, .ok true, after, [], by simp, Routine.runs_attempt_iff.mpr ⟨_, rfl, runs⟩,
      runs_pure_iff.mpr ⟨rfl, rfl, rfl⟩⟩

theorem verifyApplied_runs_true_iff (known : impairmentRules fault.type = some rule)
    (targeted : fault.Targeted service interface) (fault_eq : injector.fault = fault)
    {trace : List (Event (Runner.observing FaultInjector))} {after : FaultInjector} :
    verifyApplied.Runs injector trace (.ok true) after ↔ ∃ result,
      (run ["docker", "compose", "exec", "-T", service, "tc", "filter", "show", "dev", interface,
        "egress", "pref", rule.preference] 10).Runs { injector with lastVerificationError := none }
          trace (.ok result) after ∧
        ∀ marker ∈ rule.markers, Text.Contains (Text.lower result.stdout) marker := by
  rcases notService known with ⟨notNone, notStop, notRestart⟩
  rw [verifyApplied, verifying_runs_true_iff]
  simp only [runs_state_bind_iff, fault_eq, notNone, notStop, notRestart, known, if_false, if_true,
    Option.isSome_some, impairmentRulePresent, FaultSpec.impairmentRule_eq known,
    targeted.filterShowCommand_eq known, Routine.ofExcept, runs_pure_bind_iff]
  rw [runs_bind_ok_iff]
  constructor
  · rintro ⟨first, result, middle, rest, rfl, ran, returns⟩
    rcases runs_pure_iff.mp returns with ⟨rfl, found, rfl⟩
    refine ⟨result, by simpa using ran, ?_⟩
    exact of_decide_eq_true (Except.ok.inj found).symm
  · rintro ⟨result, ran, found⟩
    refine ⟨trace, result, after, [], by simp, ran, runs_pure_iff.mpr ⟨rfl, ?_, rfl⟩⟩
    exact congrArg Except.ok (decide_eq_true found).symm

/-- The verification finds the markers anywhere in the lower-cased output. -/
theorem verifiesOn_iff (known : impairmentRules fault.type = some rule)
    (targeted : fault.Targeted service interface) (fault_eq : injector.fault = fault) :
    injector.VerifiesOn rule output ↔
      ∀ marker ∈ rule.markers, Text.Contains (Text.lower output) marker := by
  simp only [VerifiesOn, verifyApplied_runs_true_iff known targeted fault_eq, run_runs_ok_iff]
  constructor
  · rintro ⟨_, _, ⟨result, ⟨rfl, rfl, _⟩, found⟩, printed⟩
    rw [← printed _ List.mem_cons_self rfl result rfl]
    exact found
  · intro found
    refine ⟨_, _, ⟨⟨0, output, ""⟩, ⟨rfl, rfl, rfl⟩, found⟩, ?_⟩
    intro event mem _ result replied
    rcases List.mem_singleton.mp mem with rfl
    cases replied
    rfl

end FaultInjector

/-- The output for the filter that an N3 impairment installs. -/
def n3Output : String :=
  "filter protocol ip pref 2152 flower chain 0\nfilter protocol ip pref 2152 flower chain 0 " ++
  "handle 0x4e33\n  eth_type ipv4\n  ip_proto udp\n  dst_ip 10.45.0.30\n  dst_port 2152\n" ++
  "  not_in_hw\n\taction order 1: gact action drop\n\t random type none pass val 0\n"

/-- The output for a filter on another port, whose number begins with the port of the
rule. -/
def longerPortOutput : String :=
  "filter protocol ip pref 2152 flower chain 0 handle 0x4e33\n  eth_type ipv4\n  ip_proto udp\n" ++
  "  dst_ip 10.45.0.30\n  dst_port 21520\n  not_in_hw\n\taction order 1: gact action drop\n"

end FivegLab
