import FivegLab.UpfEntrypoint.Basic
import Mathlib.Data.Finset.Basic

/-!
# The network behind the entrypoint

The tunnel interface and the NAT rules: what the commands of the script do to them, and
what is safe with the marks of what the script has created.
-/

namespace FivegLab.UpfEntrypoint

open Routine Script

/-- Is there an `ogstun`, and which subnets have their NAT rule? -/
structure Net where
  tun : Bool
  rules : Finset String
  deriving DecidableEq

/-- What a command does to the network, when it succeeds. -/
def effect : List String → Net → Net
  | ["ip", "tuntap", "add", "name", "ogstun", "mode", "tun"], net => { net with tun := true }
  | ["ip", "link", "del", "ogstun"], net => { net with tun := false }
  | ["iptables", "-t", "nat", "-A", "POSTROUTING", "-s", subnet, "!", "-o", "ogstun", "-j",
      "MASQUERADE"], net => { net with rules := insert subnet net.rules }
  | ["iptables", "-t", "nat", "-D", "POSTROUTING", "-s", subnet, "!", "-o", "ogstun", "-j",
      "MASQUERADE"], net => { net with rules := net.rules.erase subnet }
  | _, net => net

/-- What a command looks for. -/
def query : List String → Net → Option Bool
  | ["ip", "link", "show", "ogstun"], net => some net.tun
  | ["iptables", "-t", "nat", "-C", "POSTROUTING", "-s", subnet, "!", "-o", "ogstun", "-j",
      "MASQUERADE"], net => some (decide (subnet ∈ net.rules))
  | _, _ => none

/-- A command that succeeds has its effect, and one that fails may have it; what a command
does not find is not there. -/
def Net.answers : Answers Shell Net := fun before op reply after =>
  match op, reply with
  | .run args, finished =>
      (after = before ∨ after = effect args before) ∧
        (finished.status = 0 → after = effect args before) ∧
        ∀ there, query args before = some there → finished.status ≠ 0 → there = false
  | .exec _, failed => after = before ∧ failed ≠ some 0
  | _, _ => after = before

theorem effect_deleteTun (net : Net) : effect deleteTun net = { net with tun := false } := rfl

theorem effect_appendNat (subnet : String) (net : Net) :
    effect (appendNat subnet) net = { net with rules := insert subnet net.rules } := rfl

theorem effect_deleteNat (subnet : String) (net : Net) :
    effect (deleteNat subnet) net = { net with rules := net.rules.erase subnet } := rfl

theorem query_showTun (net : Net) : query showTun net = some net.tun := rfl

theorem query_checkNat (subnet : String) (net : Net) :
    query (checkNat subnet) net = some (decide (subnet ∈ net.rules)) := rfl

/-- A command that leaves the network as it is. -/
def Quiet (args : List String) : Prop := ∀ net, effect args net = net

theorem quiet_showTun : Quiet showTun := fun _ => rfl

theorem quiet_checkNat (subnet : String) : Quiet (checkNat subnet) := fun _ => rfl

theorem quiet_showSysctl (key : String) : Quiet (showSysctl key) := fun _ => rfl

theorem quiet_replaceAddress4 (address : String) : Quiet (replaceAddress "-4" address) :=
  fun _ => rfl

theorem quiet_replaceAddress6 (address : String) : Quiet (replaceAddress "-6" address) :=
  fun _ => rfl

theorem quiet_setLinkUp : Quiet setLinkUp := fun _ => rfl

theorem quiet_showAddress (family : String) : Quiet (showAddress family) := fun _ => rfl

theorem quiet_showLink : Quiet showLink := fun _ => rfl

theorem quiet_sleepTen : Quiet sleepTen := fun _ => rfl

/-- Nothing that was there is gone. -/
def Kept (start now : Net) : Prop := (start.tun = true → now.tun = true) ∧ start.rules ⊆ now.rules

/-- What is marked as created was not there at the start, and everything else is as it was. -/
structure Safe (subnet : String) (start : Net) (vars : Vars) (now : Net) : Prop where
  tun_created : vars.createdTun = true → start.tun = false
  tun_same : vars.createdTun = false → now.tun = start.tun
  nat_created : vars.createdNat = true → subnet ∉ start.rules
  nat_near : now.rules = start.rules ∨ now.rules = insert subnet start.rules
  nat_same : vars.createdNat = false → now.rules = start.rules

/-- A command may change what the script has marked as created. -/
def Permitted (subnet : String) (vars : Vars) (args : List String) : Prop :=
  Quiet args ∨ (args = addTun ∨ args = deleteTun) ∧ vars.createdTun = true ∨
    (args = appendNat subnet ∨ args = deleteNat subnet) ∧ vars.createdNat = true

section

variable {subnet : String} {start now after : Net} {vars : Vars} {args : List String}

theorem Safe.kept (safe : Safe subnet start vars now) : Kept start now := by
  refine ⟨fun present => ?_, ?_⟩
  · cases created : vars.createdTun with
    | true => exact absurd present (by simp [safe.tun_created created])
    | false => exact safe.tun_same created ▸ present
  · rcases safe.nat_near with same | added
    · rw [same]
    · rw [added]
      exact Finset.subset_insert _ _

/-- What is not there now was not there at the start. -/
theorem Safe.tun_absent (safe : Safe subnet start vars now) (absent : now.tun = false) :
    start.tun = false := by
  cases created : vars.createdTun with
  | true => exact safe.tun_created created
  | false => exact safe.tun_same created ▸ absent

theorem Safe.rule_absent (safe : Safe subnet start vars now) (absent : subnet ∉ now.rules) :
    subnet ∉ start.rules :=
  fun present => absent (safe.kept.2 present)

theorem Safe.restored (safe : Safe subnet start vars now) (tun : now.tun = start.tun)
    (rules : now.rules = start.rules) : now = start := by
  cases now
  cases start
  simp_all

theorem Safe.createTun (safe : Safe subnet start vars now) (absent : now.tun = false) :
    Safe subnet start { vars with createdTun := true } now where
  tun_created _ := safe.tun_absent absent
  tun_same := nofun
  nat_created := safe.nat_created
  nat_near := safe.nat_near
  nat_same := safe.nat_same

theorem Safe.createNat (safe : Safe subnet start vars now) (absent : subnet ∉ now.rules) :
    Safe subnet start { vars with createdNat := true } now where
  tun_created := safe.tun_created
  tun_same := safe.tun_same
  nat_created _ := safe.rule_absent absent
  nat_near := safe.nat_near
  nat_same := nofun

theorem Safe.cleaned (safe : Safe subnet start vars now) (restored : now = start) :
    Safe subnet start { vars with createdNat := false, createdTun := false } now where
  tun_created := nofun
  tun_same _ := restored ▸ rfl
  nat_created := nofun
  nat_near := safe.nat_near
  nat_same _ := restored ▸ rfl

/-- The effect of a permitted command is safe. -/
theorem Safe.effect (safe : Safe subnet start vars now) (permitted : Permitted subnet vars args) :
    Safe subnet start vars (effect args now) := by
  rcases permitted with quiet | ⟨rfl | rfl, created⟩ | ⟨rfl | rfl, created⟩
  · rw [quiet now]
    exact safe
  · exact ⟨safe.tun_created, by simp [created], safe.nat_created, safe.nat_near, safe.nat_same⟩
  · exact ⟨safe.tun_created, by simp [created], safe.nat_created, safe.nat_near, safe.nat_same⟩
  · refine ⟨safe.tun_created, safe.tun_same, safe.nat_created, .inr ?_, by simp [created]⟩
    rw [effect_appendNat]
    rcases safe.nat_near with same | added
    · rw [same]
    · rw [added, Finset.insert_idem]
  · refine ⟨safe.tun_created, safe.tun_same, safe.nat_created, .inl ?_, by simp [created]⟩
    rw [effect_deleteNat]
    rcases safe.nat_near with same | added
    · rw [same, Finset.erase_eq_of_notMem (safe.nat_created created)]
    · rw [added, Finset.erase_insert (safe.nat_created created)]

theorem Safe.answered {finished : Finished} (safe : Safe subnet start vars now)
    (permitted : Permitted subnet vars args) (answer : Net.answers now (.run args) finished after) :
    Safe subnet start vars after := by
  rcases answer.1 with rfl | rfl
  · exact safe
  · exact safe.effect permitted

theorem quiet_answered {finished : Finished} (quiet : Quiet args)
    (answer : Net.answers now (.run args) finished after) : after = now := by
  rcases answer.1 with rfl | rfl
  · rfl
  · exact quiet now

end

end FivegLab.UpfEntrypoint
