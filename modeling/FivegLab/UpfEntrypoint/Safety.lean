import FivegLab.Program.Play
import FivegLab.UpfEntrypoint.Network

/-!
# The safety of the entrypoint

What the script leaves behind in the network, however it ends, and what it has verified
when it tells that it succeeded or becomes the network function.
-/

namespace FivegLab.UpfEntrypoint

open Routine Script

/-- The network, and the events so far. -/
abbrev World := Net × List (Event Shell)

def Answered (args : List String) (stdout : String) (seen : List (Event Shell)) : Prop :=
  ⟨.run args, (⟨0, stdout⟩ : Finished)⟩ ∈ seen

def Required (key expected : String) (seen : List (Event Shell)) : Prop :=
  ∃ stdout, Answered (showSysctl key) stdout seen ∧ substitution stdout = expected

/-- A line of the text is selected. -/
def Selected (accepts : List Char → Bool) (text : String) : Prop :=
  ∃ line ∈ textLines text, accepts line = true

def Shown (args : List String) (accepts : List Char → Bool) (seen : List (Event Shell)) : Prop :=
  ∃ stdout, Answered args stdout seen ∧ Selected accepts (substitution stdout)

/-- The interface has its addresses and is up. -/
structure Configured (settings : Settings) (seen : List (Event Shell)) : Prop where
  ipv6 : Required "net.ipv6.conf.ogstun.disable_ipv6" "0" seen
  addr4 : Shown (showAddress "-4") (hasText ("inet " ++ settings.addr4 ++ " ")) seen
  addr6 : Shown (showAddress "-6") (hasText ("inet6 " ++ settings.addr6 ++ " ")) seen
  link : Shown showLink isLinkUp seen

/-- Everything that the script is to verify has been verified. -/
structure Verified (settings : Settings) (seen : List (Event Shell)) : Prop where
  forwards : Required "net.ipv4.ip_forward" "1" seen
  allIpv6 : Required "net.ipv6.conf.all.disable_ipv6" "0" seen
  defaultIpv6 : Required "net.ipv6.conf.default.disable_ipv6" "0" seen
  tun : Configured settings seen
  nat : settings.nat = true → ∃ stdout, Answered (checkNat settings.subnet) stdout seen

/-- What holds when the script tells that it succeeded, and when it becomes the network
function. -/
def Announced (settings : Settings) (start : Net) (world : World) : ShellOp → Prop
  | .echo line => line = passLine ∧ settings.checkOnly = true ∧ world.1 = start ∧
      start.tun = false ∧ Verified settings world.2
  | .exec args => args = settings.command ∧ settings.checkOnly = false ∧ Verified settings world.2
  | _ => True

/-- What holds at every event. -/
def obligation (settings : Settings) (start : Net) (before : World) (op : ShellOp)
    (after : World) : Prop :=
  Kept start after.1 ∧ Announced settings start before op

section

variable {settings : Settings} {start : Net} {traps : Traps} {exiting : Bool}
  {known more : Vars → World → Prop} {args : List String}

/-- The network is safe, and more is known. -/
def Knowing (settings : Settings) (start : Net) (traps : Traps) (known : Vars → World → Prop)
    (vars : Vars) (world : World) : Prop :=
  vars.traps = traps ∧ Safe settings.subnet start vars world.1 ∧ known vars world

/-- A status after which the trap still finds a safe network. -/
def Stopped (settings : Settings) (start : Net) (traps : Traps) (exiting : Bool) (status : ℕ)
    (vars : Vars) (world : World) : Prop :=
  vars.traps = traps ∧ Safe settings.subnet start vars world.1 ∧ status ≠ 0 ∧
    (exiting = true → ⟨.signal true, true⟩ ∈ world.2)

/-- From what is known the script goes on to what it learns, or stops in a safe network. -/
abbrev Proceeds {α : Type} (settings : Settings) (start : Net) (traps : Traps) (exiting : Bool)
    (known : Vars → World → Prop) (script : Script Vars α)
    (learned : α → Vars → World → Prop) : Prop :=
  Triple Net.answers.recorded (obligation settings start) (Knowing settings start traps known)
    script (fun value => Knowing settings start traps (learned value))
    (Stopped settings start traps exiting)

/-- What stays known as long as the network stays as it is. -/
def Grows (known : Vars → World → Prop) : Prop :=
  ∀ vars now seen event, known vars (now, seen) → known vars (now, seen ++ [event])

/-- What is known from the events. -/
def Recorded (fact : List (Event Shell) → Prop) : Prop :=
  ∀ seen event, fact seen → fact (seen ++ [event])

theorem Grows.and (grows : Grows known) (grows' : Grows more) :
    Grows fun vars world => known vars world ∧ more vars world :=
  fun vars now seen event holds =>
    ⟨grows vars now seen event holds.1, grows' vars now seen event holds.2⟩

theorem Recorded.grows {fact : List (Event Shell) → Prop} (recorded : Recorded fact) :
    Grows fun _ world => fact world.2 :=
  fun _ _ seen event holds => recorded seen event holds

theorem grows_const (holds : Prop) : Grows fun _ _ => holds := fun _ _ _ _ same => same

theorem recorded_answered (args : List String) (stdout : String) :
    Recorded (Answered args stdout) :=
  fun _ _ member => List.mem_append_left _ member

theorem recorded_required (key expected : String) : Recorded (Required key expected) := by
  intro seen event ⟨stdout, answered, same⟩
  exact ⟨stdout, recorded_answered _ _ seen event answered, same⟩

/-- The event is recorded, and the network is as before. -/
theorem recorded_same {world after : World} {op : ShellOp} {reply : op.Reply}
    (answer : Net.answers.recorded world op reply after) (same : after.1 = world.1) :
    after = (world.1, world.2 ++ [⟨op, reply⟩]) :=
  Prod.ext same answer.2

/-- A signal that arrives when this is known, and how the script stops then. -/
theorem survives_of_stops {fails : ℕ → Vars → World → Prop} (grows : Grows known)
    (stops : ∀ vars now seen, Knowing settings start traps known vars (now, seen) →
      fails 1 vars (now, seen ++ [⟨.signal exiting, true⟩])) :
    Survives Net.answers.recorded (obligation settings start) exiting
      (Knowing settings start traps known) fails := by
  intro vars world arrived after holds answer
  rcases recorded_same answer answer.1 with rfl
  refine ⟨⟨holds.2.1.kept, trivial⟩, ⟨holds.1, holds.2.1, grows _ _ _ _ holds.2.2⟩, ?_⟩
  rintro rfl
  exact stops vars world.1 world.2 holds

theorem survives_knowing (grows : Grows known) :
    Survives Net.answers.recorded (obligation settings start) exiting
      (Knowing settings start traps known) (Stopped settings start traps exiting) := by
  refine survives_of_stops grows fun vars now seen holds => ?_
  refine ⟨holds.1, holds.2.1, Nat.one_ne_zero, fun isExiting => List.mem_append_right _ ?_⟩
  rw [isExiting]
  exact List.mem_singleton_self _

/-- A command that changes nothing, and what it tells. -/
theorem triple_query (grows : Grows known) (quiet : Quiet args) :
    Proceeds settings start traps exiting known (command args exiting)
      (fun finished vars world => known vars world ∧ ⟨.run args, finished⟩ ∈ world.2 ∧
        ∀ there, query args world.1 = some there → finished.status ≠ 0 → there = false) := by
  refine triple_command ?_ ?_
  · intro vars world finished after holds answer
    rcases recorded_same answer (quiet_answered quiet answer.1) with rfl
    rcases holds with ⟨armed, safe, holds⟩
    refine ⟨⟨safe.kept, trivial⟩, armed, safe, grows _ _ _ _ holds, ?_, answer.1.2.2⟩
    exact List.mem_append_right _ (List.mem_singleton_self _)
  · intro finished
    refine survives_knowing (grows.and fun vars now seen event holds => ?_)
    exact ⟨List.mem_append_left _ holds.1, holds.2⟩

/-- A command that is permitted, and what it changes when it succeeds. -/
theorem triple_change (told : Vars → Net → Prop) (grows : Grows known)
    (moves : ∀ vars now seen, known vars (now, seen) → known vars (effect args now, seen))
    (permitted : ∀ vars world, known vars world → Permitted settings.subnet vars args)
    (succeeds : ∀ vars now seen, known vars (now, seen) → Safe settings.subnet start vars now →
      told vars (effect args now)) :
    Proceeds settings start traps exiting known (command args exiting)
      (fun finished vars world => known vars world ∧
        (finished.status = 0 → told vars world.1)) := by
  refine triple_command ?_ ?_
  · intro vars world finished after holds answer
    rcases world with ⟨now, seen⟩
    rcases after with ⟨later, seen'⟩
    rcases holds with ⟨armed, safe, holds⟩
    rcases answer with ⟨answer, same⟩
    have same : seen' = seen ++ [⟨.run args, finished⟩] := same
    subst same
    have safe' := safe.answered (permitted vars _ holds) answer
    refine ⟨⟨safe'.kept, trivial⟩, armed, safe', grows _ _ _ _ ?_, fun succeeded => ?_⟩
    · rcases answer.1 with same | changed
      · have same : later = now := same
        exact same ▸ holds
      · have changed : later = effect args now := changed
        exact changed ▸ moves vars now seen holds
    · have changed : later = effect args now := answer.2.1 succeeded
      exact changed ▸ succeeds vars now seen holds safe
  · intro finished
    refine survives_knowing fun vars now seen event holds => ?_
    exact ⟨grows vars now seen event holds.1, holds.2⟩

theorem triple_tell {line : String} (grows : Grows known) :
    Proceeds settings start traps exiting known (warn line exiting)
      (fun _ vars world => known vars world ∧ ⟨.warn line, ()⟩ ∈ world.2) := by
  refine triple_warn ?_ ?_
  · intro vars world after holds answer
    rcases recorded_same answer answer.1 with rfl
    rcases holds with ⟨armed, safe, holds⟩
    refine ⟨⟨safe.kept, trivial⟩, armed, safe, grows _ _ _ _ holds, ?_⟩
    exact List.mem_append_right _ (List.mem_singleton_self _)
  · refine survives_knowing fun vars now seen event holds => ?_
    exact ⟨grows vars now seen event holds.1, List.mem_append_left _ holds.2⟩

theorem triple_deleting {created : Bool} (told : Vars → Net → Prop) (grows : Grows known)
    (moves : ∀ vars now seen, known vars (now, seen) → known vars (effect args now, seen))
    (permitted : created = true → ∀ vars world, known vars world →
      Permitted settings.subnet vars args)
    (succeeds : created = true → ∀ vars now seen, known vars (now, seen) →
      Safe settings.subnet start vars now → told vars (effect args now))
    (otherwise : created = false → ∀ vars now seen, known vars (now, seen) →
      Safe settings.subnet start vars now → told vars now) :
    Proceeds settings start traps exiting known (deleting created args exiting)
      (fun failed vars world => known vars world ∧ (failed = false → told vars world.1)) := by
  refine Triple.ite ?_ ?_
  · intro isCreated
    have changed : Proceeds settings start traps exiting known (command args exiting)
        (fun finished vars world => known vars world ∧
          (finished.status = 0 → told vars world.1)) :=
      triple_change told grows moves (permitted isCreated) (succeeds isCreated)
    have deleted : Proceeds settings start traps exiting known (Script.succeeds args exiting)
        (fun deleted vars world => known vars world ∧ (deleted = true → told vars world.1)) := by
      refine triple_succeeds changed fun finished vars world holds => ?_
      refine ⟨holds.1, holds.2.1, holds.2.2.1, fun succeeded => holds.2.2.2 ?_⟩
      exact of_decide_eq_true succeeded
    refine deleted.bind fun done => triple_pure fun vars world holds => ?_
    refine ⟨holds.1, holds.2.1, holds.2.2.1, fun succeeded => holds.2.2.2 ?_⟩
    rwa [Bool.not_eq_false'] at succeeded
  · intro notCreated
    rw [Bool.not_eq_true] at notCreated
    refine triple_pure fun vars world holds => ⟨holds.1, holds.2.1, holds.2.2, fun _ => ?_⟩
    exact otherwise notCreated vars world.1 world.2 holds.2.2 holds.2.1

/-- After the cleanup the network is as it was, or it is told that it may not be. -/
theorem triple_cleanup {fact : List (Event Shell) → Prop} (recorded : Recorded fact) :
    Proceeds settings start traps exiting (fun _ world => fact world.2)
      (cleanup settings.subnet exiting) (fun cleaned _ world => fact world.2 ∧
        if cleaned = true then world.1 = start else ⟨.warn cleanupFailed, ()⟩ ∈ world.2) := by
  refine triple_state_bind fun kept => ?_
  have same : Grows fun vars world => vars = kept ∧ fact world.2 :=
    fun vars now seen event holds => ⟨holds.1, recorded seen event holds.2⟩
  have deletesNat : Proceeds settings start traps exiting
      (fun vars world => vars = kept ∧ fact world.2)
      (deleting kept.createdNat (deleteNat settings.subnet) exiting)
      (fun failed vars world => (vars = kept ∧ fact world.2) ∧
        (failed = false → world.1.rules = start.rules)) := by
    refine triple_deleting (fun _ now => now.rules = start.rules) same (fun _ _ _ holds => holds)
      ?_ ?_ ?_
    · intro created vars world holds
      exact .inr (.inr ⟨.inr rfl, holds.1 ▸ created⟩)
    · intro created vars now seen holds safe
      have created : vars.createdNat = true := holds.1 ▸ created
      rw [effect_deleteNat]
      rcases safe.nat_near with same | added
      · rw [same]
        exact Finset.erase_eq_of_notMem (safe.nat_created created)
      · rw [added]
        exact Finset.erase_insert (safe.nat_created created)
    · intro notCreated vars now seen holds safe
      exact safe.nat_same (holds.1 ▸ notCreated)
  have deletesTun (natFailed : Bool) : Proceeds settings start traps exiting
      (fun vars world => (vars = kept ∧ fact world.2) ∧
        (natFailed = false → world.1.rules = start.rules))
      (deleting kept.createdTun deleteTun exiting)
      (fun failed vars world => ((vars = kept ∧ fact world.2) ∧
        (natFailed = false → world.1.rules = start.rules)) ∧
        (failed = false → world.1.tun = start.tun)) := by
    refine triple_deleting (fun _ now => now.tun = start.tun) ?_ (fun _ _ _ holds => holds) ?_ ?_ ?_
    · exact fun vars now seen event holds => ⟨same vars now seen event holds.1, holds.2⟩
    · intro created vars world holds
      exact .inr (.inl ⟨.inr rfl, holds.1.1 ▸ created⟩)
    · intro created vars now seen holds safe
      have created : vars.createdTun = true := holds.1.1 ▸ created
      rw [effect_deleteTun]
      exact (safe.tun_created created).symm
    · intro notCreated vars now seen holds safe
      exact safe.tun_same (holds.1.1 ▸ notCreated)
  have finishes (natFailed tunFailed : Bool) : Proceeds settings start traps exiting
      (fun vars world => ((vars = kept ∧ fact world.2) ∧
        (natFailed = false → world.1.rules = start.rules)) ∧
        (tunFailed = false → world.1.tun = start.tun))
      (if natFailed = true ∨ tunFailed = true then do
        warn cleanupFailed exiting
        return false
      else do
        update fun vars => { vars with createdNat := false, createdTun := false }
        return true)
      (fun cleaned _ world => fact world.2 ∧
        if cleaned = true then world.1 = start else ⟨.warn cleanupFailed, ()⟩ ∈ world.2) := by
    refine Triple.ite ?_ ?_
    · intro _
      refine Triple.bind (triple_tell ?_) fun _ => triple_pure ?_
      · exact fun vars now seen event holds =>
          ⟨⟨same vars now seen event holds.1.1, holds.1.2⟩, holds.2⟩
      · intro vars world holds
        exact ⟨holds.1, holds.2.1, holds.2.2.1.1.1.2, holds.2.2.2⟩
    · intro succeeded
      rw [not_or, Bool.not_eq_true, Bool.not_eq_true] at succeeded
      refine Triple.bind (triple_update fun vars world holds => ?_) fun _ =>
        triple_pure fun _ _ holds => holds
      rcases holds with ⟨armed, safe, ⟨⟨_, holds⟩, rules⟩, tun⟩
      have restored : world.1 = start := safe.restored (tun succeeded.2) (rules succeeded.1)
      exact ⟨armed, safe.cleaned restored, holds, restored⟩
  refine Triple.mono (Triple.bind deletesNat fun natFailed =>
    (deletesTun natFailed).bind (finishes natFailed)) ?_ (fun _ _ _ holds => holds)
      (fun _ _ _ holds => holds)
  exact fun vars world holds => ⟨holds.2.1, holds.2.2.1, holds.1, holds.2.2.2⟩

theorem Knowing.stopped {vars : Vars} {world : World} {status : ℕ}
    (holds : Knowing settings start traps known vars world) (failed : status ≠ 0) :
    Stopped settings start traps false status vars world :=
  ⟨holds.1, holds.2.1, failed, nofun⟩

theorem triple_must_query (grows : Grows known) (quiet : Quiet args) :
    Proceeds settings start traps false known (must args)
      (fun stdout vars world => known vars world ∧ Answered args stdout world.2) := by
  refine triple_must (triple_query grows quiet) ?_ ?_
  · exact fun stdout vars world holds => ⟨holds.1, holds.2.1, holds.2.2.1, holds.2.2.2.1⟩
  · exact fun finished vars world holds failed => holds.stopped failed

theorem triple_must_change (grows : Grows known)
    (moves : ∀ vars now seen, known vars (now, seen) → known vars (effect args now, seen))
    (permitted : ∀ vars world, known vars world → Permitted settings.subnet vars args) :
    Proceeds settings start traps false known (must args) (fun _ => known) := by
  have changed : Proceeds settings start traps false known (command args)
      (fun finished vars world => known vars world ∧ (finished.status = 0 → True)) :=
    triple_change (fun _ _ => True) grows moves permitted fun _ _ _ _ _ => trivial
  refine triple_must changed ?_ ?_
  · exact fun stdout vars world holds => ⟨holds.1, holds.2.1, holds.2.2.1⟩
  · exact fun finished vars world holds failed => holds.stopped failed

/-- What a condition tells of what it looks for. -/
theorem triple_present {there : Net → Bool} (grows : Grows known) (quiet : Quiet args)
    (looks : ∀ net, query args net = some (there net)) :
    Proceeds settings start traps false known (succeeds args)
      (fun present vars world => known vars world ∧
        (present = false → there world.1 = false)) := by
  refine triple_succeeds (triple_query grows quiet) fun finished vars world holds => ?_
  refine ⟨holds.1, holds.2.1, holds.2.2.1, fun absent => ?_⟩
  exact holds.2.2.2.2 _ (looks world.1) (of_decide_eq_false absent)

theorem triple_requireSysctl (grows : Grows known) (key expected : String) :
    Proceeds settings start traps false known (requireSysctl key expected)
      (fun _ vars world => known vars world ∧ Required key expected world.2) := by
  refine Triple.bind (triple_must_query grows (quiet_showSysctl key)) fun printed =>
    Triple.ite ?_ ?_
  · intro _
    refine Triple.bind (triple_tell ?_) fun _ => triple_raise ?_
    · exact grows.and (recorded_answered _ _).grows
    · exact fun vars world holds => holds.stopped Nat.one_ne_zero
  · intro same
    rw [not_not] at same
    exact triple_pure fun vars world holds =>
      ⟨holds.1, holds.2.1, holds.2.2.1, printed, holds.2.2.2, same⟩

theorem triple_select_of {accepts : List Char → Bool} {text : String} (grows : Grows known) :
    Proceeds settings start traps false known (select accepts text)
      (fun _ vars world => known vars world ∧ Selected accepts text) := by
  refine triple_select ?_ ?_ ?_
  · intro lines vars world after holds answer accepted
    rcases recorded_same answer answer.1 with rfl
    exact ⟨⟨holds.2.1.kept, trivial⟩, holds.1, holds.2.1, grows _ _ _ _ holds.2.2, accepted⟩
  · exact survives_knowing fun vars now seen event holds =>
      ⟨grows vars now seen event holds.1, holds.2⟩
  · exact fun vars world holds => holds.stopped Nat.one_ne_zero

theorem triple_selectTun {addr4 addr6 link : String} (grows : Grows known) :
    Proceeds settings start traps false known (selectTun settings addr4 addr6 link)
      (fun _ vars world => ((known vars world ∧
        Selected (hasText ("inet " ++ settings.addr4 ++ " ")) (substitution addr4)) ∧
        Selected (hasText ("inet6 " ++ settings.addr6 ++ " ")) (substitution addr6)) ∧
        Selected isLinkUp (substitution link)) :=
  Triple.bind (triple_select_of grows) fun _ =>
    Triple.bind (triple_select_of (grows.and (grows_const _))) fun _ =>
      triple_select_of ((grows.and (grows_const _)).and (grows_const _))

theorem triple_checkSysctls (grows : Grows known) :
    Proceeds settings start traps false known checkSysctls (fun _ vars world =>
      ((known vars world ∧ Required "net.ipv4.ip_forward" "1" world.2) ∧
        Required "net.ipv6.conf.all.disable_ipv6" "0" world.2) ∧
        Required "net.ipv6.conf.default.disable_ipv6" "0" world.2) := by
  have first := grows.and (recorded_required "net.ipv4.ip_forward" "1").grows
  have second := first.and (recorded_required "net.ipv6.conf.all.disable_ipv6" "0").grows
  exact Triple.bind (triple_requireSysctl grows _ _) fun _ =>
    Triple.bind (triple_requireSysctl first _ _) fun _ => triple_requireSysctl second _ _

/-- The mark is set before the interface is created. -/
theorem triple_provideTun {fact : List (Event Shell) → Prop} (recorded : Recorded fact) :
    Proceeds settings start traps false (fun _ world => fact world.2) (provideTun settings)
      (fun _ _ world => fact world.2) := by
  refine Triple.bind (triple_present recorded.grows quiet_showTun query_showTun) fun present =>
    Triple.ite ?_ ?_
  · intro _
    refine Triple.ite ?_ ?_
    · intro _
      refine Triple.bind (triple_tell ?_) fun _ => triple_raise ?_
      · exact fun vars now seen event holds => ⟨recorded seen event holds.1, holds.2⟩
      · exact fun vars world holds => holds.stopped Nat.one_ne_zero
    · intro _
      exact triple_pure fun vars world holds => ⟨holds.1, holds.2.1, holds.2.2.1⟩
  · intro absent
    rw [Bool.not_eq_true] at absent
    have marked : Grows fun vars world => vars.createdTun = true ∧ fact world.2 :=
      fun vars now seen event holds => ⟨holds.1, recorded seen event holds.2⟩
    refine Triple.bind (triple_update fun vars world holds => ?_) fun _ =>
      (survives_knowing marked).pending.bind fun _ =>
        (triple_must_change marked (fun _ _ _ holds => holds) ?_).bind fun _ => triple_pure ?_
    · exact ⟨holds.1, holds.2.1.createTun (holds.2.2.2 absent), rfl, holds.2.2.1⟩
    · exact fun vars world holds => .inr (.inl ⟨.inl rfl, holds.1⟩)
    · exact fun vars world holds => ⟨holds.1, holds.2.1, holds.2.2.2⟩

theorem triple_must_quiet (grows : Grows known) (quiet : Quiet args) :
    Proceeds settings start traps false known (must args) (fun _ => known) :=
  (triple_must_query grows quiet).mono (fun _ _ holds => holds)
    (fun _ _ _ holds => ⟨holds.1, holds.2.1, holds.2.2.1⟩) (fun _ _ _ holds => holds)

theorem triple_configureTun (grows : Grows known) :
    Proceeds settings start traps false known (configureTun settings)
      (fun _ vars world => known vars world ∧ Configured settings world.2) := by
  have ipv6 := grows.and (recorded_required "net.ipv6.conf.ogstun.disable_ipv6" "0").grows
  refine Triple.bind (triple_requireSysctl grows _ _) fun _ =>
    Triple.bind (triple_must_quiet ipv6 (quiet_replaceAddress4 settings.addr4)) fun _ =>
    Triple.bind (triple_must_quiet ipv6 (quiet_replaceAddress6 settings.addr6)) fun _ =>
    Triple.bind (triple_must_quiet ipv6 quiet_setLinkUp) fun _ =>
    Triple.bind (triple_must_query ipv6 (quiet_showAddress "-4")) fun addr4 => ?_
  have shown4 := ipv6.and (recorded_answered (showAddress "-4") addr4).grows
  refine Triple.bind (triple_must_query shown4 (quiet_showAddress "-6")) fun addr6 => ?_
  have shown6 := shown4.and (recorded_answered (showAddress "-6") addr6).grows
  refine Triple.bind (triple_must_query shown6 quiet_showLink) fun link => ?_
  have shown := shown6.and (recorded_answered showLink link).grows
  refine (triple_selectTun shown).mono (fun _ _ holds => holds) ?_ (fun _ _ _ holds => holds)
  intro _ vars world holds
  rcases holds with ⟨armed, safe, ⟨⟨answered, line4⟩, line6⟩, line⟩
  rcases answered with ⟨⟨⟨⟨holds, required⟩, answered4⟩, answered6⟩, answered⟩
  exact ⟨armed, safe, holds, required, ⟨addr4, answered4, line4⟩, ⟨addr6, answered6, line6⟩, link,
    answered, line⟩

/-- The mark is set before the rule is added. -/
theorem triple_addNat {fact : List (Event Shell) → Prop} (recorded : Recorded fact) :
    Proceeds settings start traps false (fun _ world => fact world.2) (addNat settings.subnet)
      (fun _ _ world => fact world.2) := by
  refine Triple.bind (triple_present recorded.grows (quiet_checkNat _) (query_checkNat _))
    fun present => Triple.ite ?_ ?_
  · intro _
    exact triple_pure fun vars world holds => ⟨holds.1, holds.2.1, holds.2.2.1⟩
  · intro absent
    rw [Bool.not_eq_true] at absent
    have marked : Grows fun vars world => vars.createdNat = true ∧ fact world.2 :=
      fun vars now seen event holds => ⟨holds.1, recorded seen event holds.2⟩
    refine Triple.bind (triple_update fun vars world holds => ?_) fun _ =>
      (survives_knowing marked).pending.bind fun _ =>
        (triple_must_change marked (fun _ _ _ holds => holds) ?_).bind fun _ => triple_pure ?_
    · have notThere := of_decide_eq_false (holds.2.2.2 absent)
      exact ⟨holds.1, holds.2.1.createNat notThere, rfl, holds.2.2.1⟩
    · exact fun vars world holds => .inr (.inr ⟨.inl rfl, holds.1⟩)
    · exact fun vars world holds => ⟨holds.1, holds.2.1, holds.2.2.2⟩

theorem triple_provideNat {fact : List (Event Shell) → Prop} (recorded : Recorded fact) :
    Proceeds settings start traps false (fun _ world => fact world.2) (provideNat settings)
      (fun _ _ world => fact world.2 ∧
        (settings.nat = true → ∃ stdout, Answered (checkNat settings.subnet) stdout world.2)) := by
  refine Triple.ite ?_ ?_
  · intro _
    refine Triple.bind (triple_addNat recorded) fun _ =>
      Triple.bind (triple_must_query recorded.grows (quiet_checkNat _)) fun stdout =>
        triple_pure fun vars world holds => ?_
    exact ⟨holds.1, holds.2.1, holds.2.2.1, fun _ => ⟨stdout, holds.2.2.2⟩⟩
  · intro disabled
    exact triple_pure fun vars world holds =>
      ⟨holds.1, holds.2.1, holds.2.2, fun enabled => absurd enabled disabled⟩

end

theorem recorded_shown (args : List String) (accepts : List Char → Bool) :
    Recorded (Shown args accepts) := by
  intro seen event ⟨stdout, answered, selected⟩
  exact ⟨stdout, recorded_answered _ _ seen event answered, selected⟩

theorem recorded_configured (settings : Settings) : Recorded (Configured settings) := by
  intro seen event configured
  exact ⟨recorded_required _ _ seen event configured.ipv6,
    recorded_shown _ _ seen event configured.addr4, recorded_shown _ _ seen event configured.addr6,
    recorded_shown _ _ seen event configured.link⟩

theorem recorded_verified (settings : Settings) : Recorded (Verified settings) := by
  intro seen event verified
  refine ⟨recorded_required _ _ seen event verified.forwards,
    recorded_required _ _ seen event verified.allIpv6,
    recorded_required _ _ seen event verified.defaultIpv6,
    recorded_configured _ seen event verified.tun, fun enabled => ?_⟩
  rcases verified.nat enabled with ⟨stdout, answered⟩
  exact ⟨stdout, recorded_answered _ _ seen event answered⟩

/-- Only the probe ends with status 0, when everything is as it was. -/
def Succeeds (settings : Settings) (start : Net) (status : ℕ) (world : World) : Prop :=
  status = 0 → settings.checkOnly = true ∧ world.1 = start ∧ ⟨.echo passLine, ()⟩ ∈ world.2

/-- With the traps reset, the network is as it was, or everything has been verified. -/
def Released (settings : Settings) (start : Net) (status : ℕ) (vars : Vars)
    (world : World) : Prop :=
  vars.traps = .reset ∧
    (world.1 = start ∨ settings.checkOnly = false ∧ Verified settings world.2) ∧
    Succeeds settings start status world

/-- How the script stops before the trap runs. -/
def Halted (settings : Settings) (start : Net) (status : ℕ) (vars : Vars) (world : World) : Prop :=
  Stopped settings start .set false status vars world ∨ Released settings start status vars world

/-- How the script exits. -/
structure Settled (settings : Settings) (start : Net) (status : ℕ) (vars : Vars)
    (world : World) : Prop where
  network : world.1 = start ∨ ⟨.warn cleanupFailed, ()⟩ ∈ world.2 ∨
    ⟨.signal true, true⟩ ∈ world.2 ∨
    vars.traps = .reset ∧ settings.checkOnly = false ∧ Verified settings world.2
  success : Succeeds settings start status world

section

variable {α : Type} {settings : Settings} {start : Net} {known : Vars → World → Prop}
  {script : Script Vars α} {learned : α → Vars → World → Prop}

theorem Proceeds.halting (proceeds : Proceeds settings start .set false known script learned) :
    Triple Net.answers.recorded (obligation settings start) (Knowing settings start .set known)
      script (fun value => Knowing settings start .set (learned value)) (Halted settings start) :=
  proceeds.mono (fun _ _ holds => holds) (fun _ _ _ holds => holds) fun _ _ _ => Or.inl

theorem triple_failing (status : ℕ) (failed : status ≠ 0) {post : α → Vars → World → Prop} :
    Triple Net.answers.recorded (obligation settings start) (Knowing settings start .set known)
      (raise status : Script Vars α) post (Halted settings start) :=
  triple_raise fun _ _ holds => .inl (holds.stopped failed)

/-- The traps are reset, and a signal only stops the script. -/
theorem triple_release (grows : Grows known)
    (same : ∀ vars world, known vars world → known { vars with traps := .reset } world)
    (released : ∀ vars world, known vars world →
      world.1 = start ∨ settings.checkOnly = false ∧ Verified settings world.2) :
    Triple Net.answers.recorded (obligation settings start) (Knowing settings start .set known)
      release (fun _ => Knowing settings start .reset known) (Halted settings start) := by
  have resets : Triple Net.answers.recorded (obligation settings start)
      (Knowing settings start .set known)
      (update fun vars => { vars with traps := .reset } : Script Vars Unit)
      (fun _ => Knowing settings start .reset known) (Halted settings start) := by
    refine triple_update fun vars world holds => ?_
    rcases holds.2.1 with ⟨tunCreated, tunSame, natCreated, natNear, natSame⟩
    exact ⟨rfl, ⟨tunCreated, tunSame, natCreated, natNear, natSame⟩, same vars world holds.2.2⟩
  refine resets.bind fun _ => Survives.pending (survives_of_stops grows ?_)
  intro vars now seen holds
  refine .inr ⟨holds.1, ?_, nofun⟩
  exact released vars _ (grows vars now seen _ holds.2.2)

/-- The probe takes everything back before it tells that it succeeded. -/
theorem triple_conclude (checkOnly : settings.checkOnly = true) :
    Triple Net.answers.recorded (obligation settings start)
      (Knowing settings start .set fun _ world => Verified settings world.2) (conclude settings)
      (fun _ _ _ => True) (Halted settings start) := by
  have cleaned : Proceeds settings start .set false (fun _ world => Verified settings world.2)
      (cleanup settings.subnet false) (fun cleaned _ world => Verified settings world.2 ∧
        if cleaned = true then world.1 = start else ⟨.warn cleanupFailed, ()⟩ ∈ world.2) :=
    triple_cleanup (recorded_verified settings)
  refine cleaned.halting.bind fun done => Triple.ite (fun _ => triple_failing 1 Nat.one_ne_zero) ?_
  intro isDone
  have isDone : done = true := by simpa using isDone
  have restored : Grows fun _ world => Verified settings world.2 ∧ world.1 = start :=
    fun _ now seen event holds => ⟨recorded_verified settings seen event holds.1, holds.2⟩
  have looked : Proceeds settings start .set false
      (fun _ world => Verified settings world.2 ∧ world.1 = start) (succeeds showTun)
      (fun present _ world => (Verified settings world.2 ∧ world.1 = start) ∧
        (present = false → world.1.tun = false)) :=
    triple_present restored quiet_showTun query_showTun
  have told (present : Bool) : Grows fun _ world =>
      (Verified settings world.2 ∧ world.1 = start) ∧ (present = false → world.1.tun = false) :=
    fun vars now seen event holds => ⟨restored vars now seen event holds.1, holds.2⟩
  refine Triple.bind (looked.halting.mono ?_ (fun _ _ _ holds => holds) fun _ _ _ holds => holds)
    fun remains => Triple.ite ?_ ?_
  · intro vars world holds
    refine ⟨holds.1, holds.2.1, holds.2.2.1, ?_⟩
    have same := holds.2.2.2
    rwa [if_pos isDone] at same
  · intro _
    exact (Proceeds.halting (triple_tell (told remains))).bind fun _ =>
      triple_failing 1 Nat.one_ne_zero
  · intro gone
    rw [Bool.not_eq_true] at gone
    have announced : Grows fun _ world => world.1 = start ∧ ⟨.echo passLine, ()⟩ ∈ world.2 :=
      fun _ _ _ _ holds => ⟨holds.1, List.mem_append_left _ holds.2⟩
    have echoes : Triple Net.answers.recorded (obligation settings start)
        (Knowing settings start .reset fun _ world =>
          (Verified settings world.2 ∧ world.1 = start) ∧ (remains = false → world.1.tun = false))
        (echo passLine)
        (fun _ => Knowing settings start .reset fun _ world =>
          world.1 = start ∧ ⟨.echo passLine, ()⟩ ∈ world.2)
        (Halted settings start) := by
      refine triple_echo ?_ (survives_of_stops announced ?_)
      · intro vars world after holds answer
        rcases recorded_same answer answer.1 with rfl
        rcases holds with ⟨reset, safe, ⟨verified, restored⟩, absent⟩
        have unmade : start.tun = false := restored ▸ absent gone
        refine ⟨⟨safe.kept, rfl, checkOnly, restored, unmade, verified⟩, reset, safe, restored, ?_⟩
        exact List.mem_append_right _ (List.mem_singleton_self _)
      · intro vars now seen holds
        exact .inr ⟨holds.1, .inl holds.2.2.1, nofun⟩
    refine Triple.bind (triple_release (told remains) (fun _ _ holds => holds)
      fun _ _ holds => .inl holds.1.2) fun _ => echoes.bind fun _ => triple_raise ?_
    exact fun vars world holds => .inr ⟨holds.1, .inl holds.2.2.1, fun _ =>
      ⟨checkOnly, holds.2.2⟩⟩

/-- Nothing is taken back from behind the verification on. -/
theorem triple_start (starts : settings.checkOnly = false) :
    Triple Net.answers.recorded (obligation settings start)
      (Knowing settings start .set fun _ world => Verified settings world.2)
      (UpfEntrypoint.start settings) (fun _ _ _ => True) (Halted settings start) := by
  have verified : Grows fun _ world => Verified settings world.2 :=
    (recorded_verified settings).grows
  have slept : Proceeds settings start .set false (fun _ world => Verified settings world.2)
      (must sleepTen) (fun _ _ world => Verified settings world.2) :=
    triple_must_quiet verified quiet_sleepTen
  have becomes : Triple Net.answers.recorded (obligation settings start)
      (Knowing settings start .reset fun _ world => Verified settings world.2)
      (call (I := Shell) (.exec settings.command) : Script Vars (Option ℕ))
      (fun failed => Knowing settings start .reset fun _ world =>
        Verified settings world.2 ∧ failed ≠ some 0) (Halted settings start) := by
    refine triple_call fun vars world holds failed after answer => ?_
    rcases recorded_same answer answer.1.1 with rfl
    rcases holds with ⟨reset, safe, holds⟩
    exact ⟨⟨safe.kept, rfl, starts, holds⟩, reset, safe, recorded_verified _ _ _ holds,
      answer.1.2⟩
  refine slept.halting.bind fun _ => Triple.bind (triple_release verified (fun _ _ holds => holds)
    fun _ _ holds => .inr ⟨starts, holds⟩) fun _ => becomes.bind fun failed => ?_
  cases failed with
  | none => exact triple_pure fun _ _ _ => trivial
  | some status =>
      refine triple_raise fun vars world holds => .inr ⟨holds.1, .inr ⟨starts, holds.2.2.1⟩, ?_⟩
      intro succeeded
      exact absurd (congrArg some succeeded) holds.2.2.2

theorem triple_prepare :
    Proceeds settings start .set false (fun _ _ => True) (prepare settings)
      (fun _ _ world => Verified settings world.2) := by
  have sysctls : Recorded fun seen =>
      ((True ∧ Required "net.ipv4.ip_forward" "1" seen) ∧
        Required "net.ipv6.conf.all.disable_ipv6" "0" seen) ∧
        Required "net.ipv6.conf.default.disable_ipv6" "0" seen := by
    intro seen event holds
    exact ⟨⟨⟨trivial, recorded_required _ _ seen event holds.1.1.2⟩,
      recorded_required _ _ seen event holds.1.2⟩, recorded_required _ _ seen event holds.2⟩
  have configured : Recorded fun seen =>
      (((True ∧ Required "net.ipv4.ip_forward" "1" seen) ∧
        Required "net.ipv6.conf.all.disable_ipv6" "0" seen) ∧
        Required "net.ipv6.conf.default.disable_ipv6" "0" seen) ∧ Configured settings seen :=
    fun seen event holds => ⟨sysctls seen event holds.1, recorded_configured _ seen event holds.2⟩
  refine Triple.bind (triple_checkSysctls (grows_const True)) fun _ =>
    Triple.bind (triple_provideTun sysctls) fun _ =>
    Triple.bind (triple_configureTun sysctls.grows) fun _ =>
      (triple_provideNat configured).mono (fun _ _ holds => holds) ?_ fun _ _ _ holds => holds
  intro _ vars world holds
  rcases holds with ⟨armed, safe, ⟨⟨⟨⟨_, forwards⟩, allIpv6⟩, defaultIpv6⟩, tun⟩, nat⟩
  exact ⟨armed, safe, forwards, allIpv6, defaultIpv6, tun, nat⟩

theorem triple_bootstrap :
    Triple Net.answers.recorded (obligation settings start)
      (Knowing settings start .set fun _ _ => True) (bootstrap settings)
      (fun _ _ _ => True) (Halted settings start) := by
  refine triple_prepare.halting.bind fun _ => Triple.ite ?_ ?_
  · exact triple_conclude
  · intro starts
    rw [Bool.not_eq_true] at starts
    exact triple_start starts

/-- The trap takes back what the script has created, or it is told that it could not. -/
theorem triple_exitTrap {status : ℕ} (failed : status ≠ 0) :
    Triple Net.answers.recorded (obligation settings start)
      (Knowing settings start .set fun _ _ => True) (exitTrap settings.subnet)
      (fun _ => Settled settings start status)
      (fun status => Settled settings start status) := by
  have always : Recorded fun _ => True := fun _ _ _ => trivial
  have cleaned : Proceeds settings start .set true (fun _ _ => True)
      (cleanup settings.subnet true) (fun cleaned _ world => True ∧
        if cleaned = true then world.1 = start else ⟨.warn cleanupFailed, ()⟩ ∈ world.2) :=
    triple_cleanup always
  refine Triple.bind (cleaned.mono (fun _ _ holds => holds) (fun _ _ _ holds => holds) ?_)
    fun done => Triple.ite ?_ ?_
  · intro status vars world stopped
    exact ⟨.inr (.inr (.inl (stopped.2.2.2 rfl))), fun succeeded =>
      absurd succeeded stopped.2.2.1⟩
  · intro isDone
    refine triple_pure fun vars world holds => ?_
    have same := holds.2.2.2
    rw [if_pos isDone] at same
    exact ⟨.inl same, fun succeeded => absurd succeeded failed⟩
  · intro notDone
    refine triple_raise fun vars world holds => ?_
    have told := holds.2.2.2
    rw [if_neg notDone] at told
    exact ⟨.inr (.inl told), fun succeeded => absurd succeeded Nat.one_ne_zero⟩

end

/-- What the environment and the arguments ask for. -/
def given (environment : Environment) (args : List String) : Settings where
  addr4 := environment.ipv4TunAddr.getD ""
  subnet := environment.ipv4TunSubnet.getD ""
  addr6 := environment.ipv6TunAddr.getD ""
  nat := environment.enableNat = some "true"
  checkOnly := args.head? = some "--check"
  command := args

section

variable {environment : Environment} {args : List String} {start : Net}

/-- Nothing has happened yet. -/
def Fresh (start : Net) (vars : Vars) (world : World) : Prop := vars = {} ∧ world = (start, [])

theorem triple_required {settings : Settings} (value : Option String) :
    Triple Net.answers.recorded (obligation settings start) (Fresh start) (required value)
      (fun text vars world => Fresh start vars world ∧ value = some text)
      (fun status => Settled settings start status) := by
  have settled (vars : Vars) (world : World) (fresh : Fresh start vars world) :
      Settled settings start 2 vars world :=
    ⟨.inl (congrArg Prod.fst fresh.2), nofun⟩
  cases value with
  | none => exact triple_raise settled
  | some text =>
      refine Triple.ite (fun _ => triple_raise settled) ?_
      intro _
      exact triple_pure fun vars world fresh => ⟨fresh, rfl⟩

theorem triple_refuse {settings given : Settings} (message : String) :
    Triple Net.answers.recorded (obligation settings start) (Fresh start)
      (refuse message : Script Vars Settings) (fun value vars world => Fresh start vars world ∧
        value = given) (fun status => Settled settings start status) := by
  have warned : Triple Net.answers.recorded (obligation settings start) (Fresh start)
      (call (I := Shell) (.warn message) : Script Vars Unit)
      (fun _ _ world => world.1 = start) (fun status => Settled settings start status) := by
    refine triple_call fun vars world fresh _ after answer => ?_
    rcases fresh with ⟨rfl, rfl⟩
    have same : after.1 = start := answer.1
    exact ⟨⟨same ▸ ⟨id, subset_rfl⟩, trivial⟩, same⟩
  exact warned.bind fun _ => triple_raise fun _ _ same => ⟨.inl same, nofun⟩

theorem triple_readSettings :
    Triple Net.answers.recorded (obligation (given environment args) start) (Fresh start)
      (readSettings environment args)
      (fun settings vars world => Fresh start vars world ∧ settings = given environment args)
      (fun status => Settled (given environment args) start status) := by
  refine Triple.bind (triple_required _) fun addr4 => Triple.of_fact fun given4 =>
    Triple.bind (triple_required _) fun subnet => Triple.of_fact fun givenSubnet =>
    Triple.bind (triple_required _) fun addr6 => Triple.of_fact fun given6 =>
    Triple.bind (triple_required _) fun enableNat => Triple.of_fact fun givenNat =>
    Triple.ite (fun _ => triple_refuse _) fun _ => Triple.ite (fun _ => triple_refuse _) fun _ =>
      triple_pure fun vars world fresh => ⟨fresh, ?_⟩
  simp [given, given4, givenSubnet, given6, givenNat]

theorem Fresh.knowing {settings : Settings} {vars : Vars} {world : World}
    (fresh : Fresh start vars world) :
    Knowing settings start .set (fun _ _ => True) { vars with traps := .set } world := by
  rcases fresh with ⟨rfl, rfl⟩
  exact ⟨rfl, ⟨nofun, fun _ => rfl, nofun, .inl rfl, fun _ => rfl⟩, trivial⟩

theorem triple_upfEntrypoint :
    Triple Net.answers.recorded (obligation (given environment args) start) (Fresh start)
      (upfEntrypoint environment args) (fun _ _ _ => True)
      (fun status => Settled (given environment args) start status) := by
  refine Triple.bind triple_readSettings fun settings => Triple.of_fact ?_
  rintro rfl
  refine Triple.bind (triple_update fun vars world fresh => fresh.knowing) fun _ =>
    triple_onExit triple_bootstrap ?_ ?_
  · intro status
    by_cases succeeded : status = 0
    · refine ⟨fun vars world holds => ?_⟩
      rcases holds with ⟨armed, stopped | released⟩
      · exact absurd succeeded stopped.2.2.1
      · exact absurd (released.1.symm.trans (of_decide_eq_true armed)) nofun
    · refine (triple_exitTrap succeeded).mono ?_ (fun _ _ _ holds => holds) fun _ _ _ holds => holds
      intro vars world holds
      rcases holds with ⟨armed, stopped | released⟩
      · exact ⟨stopped.1, stopped.2.1, trivial⟩
      · exact absurd (released.1.symm.trans (of_decide_eq_true armed)) nofun
  · intro status vars world unarmed halted
    rcases halted with stopped | released
    · exact absurd stopped.1 (of_decide_eq_false unarmed)
    · rcases released with ⟨reset, restored | verified, success⟩
      · exact ⟨.inl restored, success⟩
      · exact ⟨.inr (.inr (.inr ⟨reset, verified⟩)), success⟩

end

def labEnvironment : Environment :=
  ⟨some "10.45.0.1/16", some "10.45.0.0/16", some "2001:db8:cafe::1/48", some "true"⟩

/-- What the commands print once the interface has its addresses. -/
def labPrints : List String → String
  | ["sysctl", "-n", "net.ipv4.ip_forward"] => "1\n"
  | ["sysctl", "-n", _] => "0\n"
  | ["ip", "-o", "-4", "addr", "show", "dev", "ogstun"] =>
      "3: ogstun    inet 10.45.0.1/16 scope global ogstun\n"
  | ["ip", "-o", "-6", "addr", "show", "dev", "ogstun"] =>
      "3: ogstun    inet6 2001:db8:cafe::1/48 scope global \n"
  | ["ip", "-o", "link", "show", "dev", "ogstun"] =>
      "3: ogstun: <POINTOPOINT,MULTICAST,NOARP,UP,LOWER_UP> mtu 1500 state UNKNOWN \n"
  | _ => ""

/-- Every command succeeds, and no signal arrives. -/
def labShell : Responder Shell Net := fun net op =>
  match op with
  | .run args => (⟨if query args net = some false then 1 else 0, labPrints args⟩, effect args net)
  | .echo _ => ((), net)
  | .warn _ => ((), net)
  | .grep _ => ((), net)
  | .signal _ => (false, net)
  | .exec _ => (none, net)

theorem labShell_answers (before : Net) (op : ShellOp) (reply : op.Reply) (after : Net)
    (answer : labShell.answers before op reply after) : Net.answers before op reply after := by
  have same : labShell before op = (reply, after) := answer
  cases op with
  | run args =>
      rcases Prod.mk.injEq _ _ _ _ ▸ same with ⟨rfl, rfl⟩
      refine ⟨.inr rfl, fun _ => rfl, fun there looks failed => ?_⟩
      by_cases absent : query args before = some false
      · exact Option.some.inj (looks.symm.trans absent)
      · exact absurd (if_neg absent) failed
  | exec args =>
      rcases Prod.mk.injEq _ _ _ _ ▸ same with ⟨rfl, rfl⟩
      exact ⟨rfl, nofun⟩
  | echo line => exact (congrArg Prod.snd same).symm
  | warn line => exact (congrArg Prod.snd same).symm
  | grep lines => exact (congrArg Prod.snd same).symm
  | signal exiting => exact (congrArg Prod.snd same).symm

section

variable {environment : Environment} {args : List String} {start : Net}

/-- However the script exits, the network is as it was, unless it is told that the cleanup
failed, a signal cut the cleanup short, or the traps were reset for the network function;
status 0 is that of a probe that was taken back. -/
theorem upfEntrypoint_settles {trace : List (Event Shell)} {status : ℕ} {after : Vars}
    {final : Net} (runs : (upfEntrypoint environment args).Runs {} trace (.error status) after)
    (admits : Admits Net.answers start trace final) :
    (final = start ∨ ⟨.warn cleanupFailed, ()⟩ ∈ trace ∨ ⟨.signal true, true⟩ ∈ trace ∨
      after.traps = .reset ∧ args.head? ≠ some "--check" ∧
        Verified (given environment args) trace) ∧
    (status = 0 → args.head? = some "--check" ∧ final = start ∧
      ⟨.echo passLine, ()⟩ ∈ trace) := by
  have settled : Settled (given environment args) start status after (final, [] ++ trace) :=
    triple_upfEntrypoint.of_runs ⟨rfl, rfl⟩ runs (admits.recorded [])
  rcases settled with ⟨network, success⟩
  rw [List.nil_append] at network success
  refine ⟨?_, fun succeeded => ?_⟩
  · rcases network with restored | told | cut | ⟨reset, starts, verified⟩
    · exact .inl restored
    · exact .inr (.inl told)
    · exact .inr (.inr (.inl cut))
    · exact .inr (.inr (.inr ⟨reset, of_decide_eq_false starts, verified⟩))
  · rcases success succeeded with ⟨checks, restored, told⟩
    exact ⟨of_decide_eq_true checks, restored, told⟩

/-- The probe in the lab. -/
theorem upfEntrypoint_settles_lab : ∃ trace after final,
    (upfEntrypoint labEnvironment ["--check"]).Runs {} trace (.error 0) after ∧
      Admits Net.answers ⟨false, ∅⟩ trace final ∧ final = ⟨false, ∅⟩ ∧
      ⟨.echo passLine, ()⟩ ∈ trace := by
  have played : ∃ after final, (upfEntrypoint labEnvironment ["--check"] {}).play labShell
      ⟨false, ∅⟩ = some ((.error 0, after), final) := ⟨_, _, rfl⟩
  rcases played with ⟨after, final, played⟩
  rcases Program.runs_of_play played with ⟨runs, admits⟩
  have admits := admits.mono labShell_answers
  have settles := upfEntrypoint_settles runs admits
  exact ⟨_, after, final, runs, admits, (settles.2 rfl).2⟩

/-- At every moment what was there is still there, and the script only tells that it
succeeded, or becomes the network function, when everything has been verified. -/
theorem upfEntrypoint_announces {trace : List (Event Shell)} {event : Event Shell}
    {now later : Net} (emits : (upfEntrypoint environment args).Emits {} (trace ++ [event]))
    (admits : Admits Net.answers start trace now)
    (answer : Net.answers now event.op event.reply later) :
    Kept start later ∧ Announced (given environment args) start (now, trace) event.op := by
  have recorded : Net.answers.recorded (now, [] ++ trace) event.op event.reply
      (later, [] ++ trace ++ [event]) := ⟨answer, rfl⟩
  have obliged : obligation (given environment args) start (now, [] ++ trace) event.op
      (later, [] ++ trace ++ [event]) :=
    triple_upfEntrypoint.of_emits ⟨rfl, rfl⟩ emits (admits.recorded []) recorded
  exact obliged

/-- In the lab, everything is verified before the network function starts. -/
theorem upfEntrypoint_announces_lab : ∃ trace now,
    (upfEntrypoint labEnvironment ["open5gs-upfd"]).Emits {}
      (trace ++ [⟨.exec ["open5gs-upfd"], none⟩]) ∧ Admits Net.answers ⟨false, ∅⟩ trace now ∧
      Verified (given labEnvironment ["open5gs-upfd"]) trace := by
  have played : ∃ after final, (upfEntrypoint labEnvironment ["open5gs-upfd"] {}).play labShell
      ⟨false, ∅⟩ = some ((.ok (), after), final) := ⟨_, _, rfl⟩
  rcases played with ⟨after, final, played⟩
  rcases Program.runs_of_play played with ⟨runs, admits⟩
  have ends : ∃ trace, (upfEntrypoint labEnvironment ["open5gs-upfd"] {}).transcript labShell
      ⟨false, ∅⟩ = trace ++ [⟨.exec ["open5gs-upfd"], none⟩] :=
    ⟨((upfEntrypoint labEnvironment ["open5gs-upfd"] {}).transcript labShell ⟨false, ∅⟩).dropLast,
      rfl⟩
  rcases ends with ⟨trace, ends⟩
  rw [ends] at runs admits
  rcases admits_append_iff.mp (admits.mono labShell_answers) with ⟨now, admits, last⟩
  rcases admits_cons_iff.mp last with ⟨later, answer, _⟩
  exact ⟨trace, now, runs.emits, admits,
    (upfEntrypoint_announces runs.emits admits answer).2.2.2⟩

end

end FivegLab.UpfEntrypoint
