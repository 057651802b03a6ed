import FivegLab.JsonRereading
import FivegLab.Program.Callers
import FivegLab.RuntimePreflight.Order

/-!
# The files of the probes

What the files that a preflight writes are decoded to, behind the interpolation of
Compose: the documents of the probes, built from the services that were resolved,
whatever the environment holds.  A probe joins no network, and of the mounts of its
service it has those of the logs and of the bootstrap script.
-/

namespace FivegLab.RuntimePreflight

open JsonDecoder
open Routine (attempt ofExcept raise)

section

variable {printFloat : String → String} {limits : Limits}

/-- What can be read at a depth can be read further out. -/
theorem readable_outward (value : Json) : ∀ {depth outer : ℕ}, outer ≤ depth →
    Readable printFloat limits depth value → Readable printFloat limits outer value := by
  induction value using Json.induction with
  | array items ih =>
      intro depth outer further readable
      rcases readable with ⟨within, each⟩
      rw [readableItems_iff] at each
      refine ⟨by omega, readableItems_iff.mpr fun item member => ?_⟩
      exact ih item member (by omega) (each item member)
  | object fields ih =>
      intro depth outer further readable
      rcases readable with ⟨within, distinct, each⟩
      rw [readableFields_iff] at each
      refine ⟨by omega, distinct, readableFields_iff.mpr fun field member => ?_⟩
      exact ih field member (by omega) (each field member)
  | int value =>
      intro depth outer further readable
      exact readable
  | float printed =>
      intro depth outer further readable
      exact readable
  | null | bool | string =>
      intro depth outer further readable
      trivial

variable (printFloat limits) in
/-- The fields are those of a mapping that can be read, with values at a depth. -/
def ReadableMapping (depth : ℕ) (fields : Fields) : Prop :=
  (fields.map Prod.fst).Nodup ∧ ReadableFields printFloat limits depth fields

variable {depth : ℕ} {fields others : Fields} {key : String} {value : Json}

theorem readable_object (within : depth + 1 ≤ limits.depth)
    (mapping : ReadableMapping printFloat limits (depth + 1) fields) :
    Readable printFloat limits depth (.object fields) := ⟨within, mapping.1, mapping.2⟩

theorem readableMapping_nil : ReadableMapping printFloat limits depth [] :=
  ⟨List.nodup_nil, trivial⟩

theorem mem_setField {other : String × Json} (member : other ∈ setField key value fields) :
    other ∈ fields ∨ other = (key, value) := by
  induction fields with
  | nil => exact .inr (List.mem_singleton.mp member)
  | cons field fields ih =>
      rcases field with ⟨name, old⟩
      rw [setField] at member
      split at member
      case isTrue same =>
        rcases List.mem_cons.mp member with rfl | kept
        · exact .inr (by rw [same])
        · exact .inl (List.mem_cons_of_mem _ kept)
      case isFalse =>
        rcases List.mem_cons.mp member with rfl | kept
        · exact .inl List.mem_cons_self
        · exact (ih kept).imp_left (List.mem_cons_of_mem _)

theorem setField_nodup (distinct : (fields.map Prod.fst).Nodup) :
    ((setField key value fields).map Prod.fst).Nodup := by
  induction fields with
  | nil => exact List.nodup_singleton _
  | cons field fields ih =>
      rcases field with ⟨name, old⟩
      rw [List.map_cons, List.nodup_cons] at distinct
      rw [setField]
      split
      case isTrue same => exact List.nodup_cons.mpr distinct
      case isFalse other =>
        refine List.nodup_cons.mpr ⟨?_, ih distinct.2⟩
        intro member
        rcases List.mem_map.mp member with ⟨found, known, same⟩
        rcases mem_setField known with kept | rfl
        · exact distinct.1 (List.mem_map.mpr ⟨found, kept, same⟩)
        · exact other same.symm

theorem ReadableMapping.setField (mapping : ReadableMapping printFloat limits depth fields)
    (readable : Readable printFloat limits depth value) :
    ReadableMapping printFloat limits depth (setField key value fields) := by
  refine ⟨setField_nodup mapping.1, readableFields_iff.mpr fun field member => ?_⟩
  rcases mem_setField member with kept | rfl
  · exact readableFields_iff.mp mapping.2 field kept
  · exact readable

theorem ReadableMapping.merge (mapping : ReadableMapping printFloat limits depth fields)
    (each : ReadableFields printFloat limits depth others) :
    ReadableMapping printFloat limits depth (merge fields others) := by
  induction others generalizing fields with
  | nil => exact mapping
  | cons other others ih =>
      rcases other with ⟨key, value⟩
      exact ih (mapping.setField each.1) each.2

theorem ReadableMapping.lookup (mapping : ReadableMapping printFloat limits depth fields)
    (found : Json.lookup key fields = some value) : Readable printFloat limits depth value := by
  rw [Json.lookup, Option.map_eq_some_iff] at found
  rcases found with ⟨field, found, rfl⟩
  have member := List.mem_reverse.mp (List.mem_of_find?_eq_some found)
  exact readableFields_iff.mp mapping.2 field member

/-- What is found in a mapping that can be read. -/
theorem readable_index {document : Json} (readable : Readable printFloat limits depth document)
    (found : document.index key = .ok value) : Readable printFloat limits (depth + 1) value := by
  cases document with
  | object fields =>
      rw [Json.index] at found
      split at found
      case h_1 inside known =>
        rw [Except.ok.injEq] at found
        rw [← found]
        exact ReadableMapping.lookup ⟨readable.2.1, readable.2.2⟩ known
      case h_2 => cases found
  | _ => cases found

theorem readable_strings (within : depth + 1 ≤ limits.depth) (texts : List String) :
    Readable printFloat limits depth (.strings texts) := by
  refine ⟨within, readableItems_iff.mpr ?_⟩
  simp [Readable]

theorem keptSettings_nodup (fields : Fields) : ((keptSettings fields).map Prod.fst).Nodup := by
  have names (keys : List String) : ((keys.filterMap fun key =>
      (Json.lookup key fields).map fun value => (key, value)).map Prod.fst).Sublist keys := by
    induction keys with
    | nil => exact List.Sublist.slnil
    | cons key keys ih =>
        rw [List.filterMap_cons]
        cases Json.lookup key fields with
        | none => exact ih.cons _
        | some value => exact ih.cons_cons _
  exact (names probeSettings).nodup (by decide)

theorem readableMapping_keptSettings (settings : ReadableMapping printFloat limits depth fields) :
    ReadableMapping printFloat limits depth (keptSettings fields) := by
  have kept (keys : List String) : ReadableFields printFloat limits depth (keys.filterMap fun key =>
      (Json.lookup key fields).map fun value => (key, value)) := by
    refine readableFields_iff.mpr fun field member => ?_
    rcases List.mem_filterMap.mp member with ⟨key, -, found⟩
    rcases Option.map_eq_some_iff.mp found with ⟨value, known, rfl⟩
    exact settings.lookup known
  exact ⟨keptSettings_nodup fields, kept probeSettings⟩

theorem readableMapping_isolated (settings : ReadableMapping printFloat limits depth fields)
    (within : depth + 1 ≤ limits.depth) :
    ReadableMapping printFloat limits depth (isolated fields) := by
  refine (readableMapping_keptSettings settings).merge ⟨trivial, trivial, ?_, trivial⟩
  exact ⟨within, List.nodup_singleton _, trivial, trivial⟩

theorem ReadableMapping.withScript (mapping : ReadableMapping printFloat limits depth fields)
    (within : depth + 1 ≤ limits.depth) (script : String) :
    ReadableMapping printFloat limits depth (withScript script fields) :=
  mapping.merge ⟨readable_strings within _, readable_strings within _, trivial⟩

/-- A mount of a service, in its long form. -/
theorem readableMapping_mountOf {item : Json} {mount : Fields}
    (readable : Readable printFloat limits depth item) (found : mountOf item = some mount) :
    ReadableMapping printFloat limits (depth + 1) mount := by
  cases item with
  | string text =>
      rw [mountOf, Option.map_eq_some_iff] at found
      rcases found with ⟨⟨source, target, options⟩, -, rfl⟩
      have keys : ["source", "target", "type", "read_only"].Nodup := by decide
      exact ⟨keys, trivial, trivial, trivial, trivial, trivial⟩
  | object fields =>
      rw [mountOf, Option.some.injEq] at found
      rw [← found]
      exact ⟨readable.2.1, readable.2.2⟩
  | _ => cases found

theorem readableMapping_mountAt (settings : ReadableMapping printFloat limits depth fields)
    (target : Json) : ReadableMapping printFloat limits (depth + 2) (mountAt fields target) := by
  rw [mountAt]
  split
  case h_1 items found =>
    have readable := settings.lookup found
    cases first : items.findSome? (mountWithTarget target) with
    | none => exact readableMapping_nil
    | some mount =>
        rcases List.exists_of_findSome?_eq_some first with ⟨item, member, targeted⟩
        rw [mountWithTarget, Option.filter_eq_some_iff] at targeted
        exact readableMapping_mountOf (readableItems_iff.mp readable.2 item member) targeted.1
  case h_2 => exact readableMapping_nil

theorem readable_mounts (within : depth + 2 ≤ limits.depth) {mounts : List Fields}
    (each : ∀ mount ∈ mounts, ReadableMapping printFloat limits (depth + 2) mount) :
    Readable printFloat limits depth (.array (mounts.map .object)) := by
  refine ⟨by omega, readableItems_iff.mpr fun item member => ?_⟩
  rcases List.mem_map.mp member with ⟨mount, known, rfl⟩
  exact readable_object within (each mount known)

theorem readable_elements {items : List Json} (readable : Readable printFloat limits depth value)
    (found : value.elements = .ok items) :
    ∀ item ∈ items, Readable printFloat limits (depth + 1) item := by
  cases value with
  | array elements =>
      rw [Json.elements, Except.ok.injEq] at found
      rw [← found]
      exact readableItems_iff.mp readable.2
  | object fields =>
      rw [Json.elements, Except.ok.injEq] at found
      rw [← found]
      exact List.forall_mem_map.mpr fun field _ => trivial
  | string text =>
      rw [Json.elements, Except.ok.injEq] at found
      rw [← found]
      exact List.forall_mem_map.mpr fun c _ => trivial
  | _ => cases found

theorem readable_pairOf {position : ℕ} {field : String × Json}
    (readable : Readable printFloat limits depth value)
    (found : pairOf position value = .ok field) : Readable printFloat limits depth field.2 := by
  unfold pairOf at found
  split at found
  case h_1 => cases found
  case h_2 first second elements =>
    rcases Except.bind_ok_iff.mp found with ⟨key, -, same⟩
    cases same
    refine readable_outward second (Nat.le_succ depth) ?_
    exact readable_elements readable elements second (List.mem_cons_of_mem _ List.mem_cons_self)
  case h_3 => cases found

theorem readableFields_pairsOf {position : ℕ} {items : List Json} {pairs : Fields}
    (readable : ∀ item ∈ items, Readable printFloat limits depth item)
    (found : pairsOf position items = .ok pairs) :
    ReadableFields printFloat limits depth pairs := by
  induction items generalizing position pairs with
  | nil =>
      cases found
      trivial
  | cons item items ih =>
      rw [List.forall_mem_cons] at readable
      rcases Except.bind_ok_iff.mp found with ⟨pair, first, found⟩
      rcases Except.bind_ok_iff.mp found with ⟨rest, others, same⟩
      cases same
      exact ⟨readable_pairOf readable.1 first, ih readable.2 others⟩

/-- What `dict` takes out of a value that can be read. -/
theorem readableMapping_dictOf {mapping : Fields}
    (readable : Readable printFloat limits depth value) (found : dictOf value = .ok mapping) :
    ReadableMapping printFloat limits (depth + 1) mapping := by
  unfold dictOf at found
  split at found
  case h_1 =>
    cases found
    exact ⟨readable.2.1, readable.2.2⟩
  case h_2 =>
    rcases Except.bind_ok_iff.mp found with ⟨items, elements, found⟩
    rcases Except.bind_ok_iff.mp found with ⟨pairs, paired, same⟩
    cases same
    exact readableMapping_nil.merge
      (readableFields_pairsOf (readable_elements readable elements) paired)

theorem readableMapping_bootstrapProbe {command : List String} {probe : Fields}
    (settings : ReadableMapping printFloat limits depth fields) (within : depth + 2 ≤ limits.depth)
    (built : bootstrapProbe fields command = .ok probe) :
    ReadableMapping printFloat limits depth probe := by
  rcases Except.bind_ok_iff.mp built with ⟨entrypoint, entered, built⟩
  rcases Except.bind_ok_iff.mp built with ⟨target, -, same⟩
  cases same
  have outer : depth + 1 ≤ limits.depth := by omega
  have entry : Readable printFloat limits depth entrypoint := by
    rw [Json.index] at entered
    split at entered
    case h_1 known =>
      cases entered
      exact settings.lookup known
    case h_2 => cases entered
  have mounts : Readable printFloat limits depth (.array
      ([mountAt fields (.string Config.logTarget), mountAt fields target].map .object)) := by
    refine readable_mounts within ?_
    rw [List.forall_mem_cons, List.forall_mem_singleton]
    exact ⟨readableMapping_mountAt settings _, readableMapping_mountAt settings _⟩
  exact (readableMapping_isolated settings outer).merge
    ⟨entry, readable_strings outer command, mounts, trivial⟩

theorem readableMapping_logProbe {service name : String} {probe : Fields}
    (settings : ReadableMapping printFloat limits depth fields) (within : depth + 2 ≤ limits.depth)
    (built : logProbe fields service name = .ok probe) :
    ReadableMapping printFloat limits depth probe := by
  rcases Except.bind_ok_iff.mp built with ⟨environment, mapped, same⟩
  cases same
  have outer : depth + 1 ≤ limits.depth := by omega
  have scripted := (readableMapping_isolated settings outer).withScript outer logScript
  have given : Readable printFloat limits depth ((Json.lookup "environment"
      (withScript logScript (isolated fields))).getD (.object [])) := by
    cases found : Json.lookup "environment" (withScript logScript (isolated fields)) with
    | none => exact ⟨outer, List.nodup_nil, trivial⟩
    | some value => exact scripted.lookup found
  have own : ReadableFields printFloat limits (depth + 1)
      [("PROBE_FILE", .string name), ("NF_LOG_FILE", .string (service ++ ".log"))] :=
    ⟨trivial, trivial, trivial⟩
  have merged := (readableMapping_dictOf given mapped).merge own
  have mounts : Readable printFloat limits depth
      (.array ([mountAt fields (.string Config.logTarget)].map .object)) :=
    readable_mounts within (List.forall_mem_singleton.mpr (readableMapping_mountAt settings _))
  exact scripted.merge ⟨readable_object outer merged, mounts, trivial⟩

theorem readableMapping_probeService {role : ProbeRole} {service name marker : String}
    {probe : Fields} (settings : ReadableMapping printFloat limits depth fields)
    (within : depth + 2 ≤ limits.depth)
    (built : probeService fields role service name = .ok (probe, marker)) :
    ReadableMapping printFloat limits depth probe := by
  have outer : depth + 1 ≤ limits.depth := by omega
  cases role with
  | mongo =>
      cases built
      exact (readableMapping_isolated settings outer).withScript outer mongoScript
  | init =>
      rcases Except.bind_ok_iff.mp built with ⟨found, making, same⟩
      cases same
      exact readableMapping_bootstrapProbe settings within making
  | bootstrap =>
      rcases Except.bind_ok_iff.mp built with ⟨found, making, same⟩
      cases same
      exact readableMapping_bootstrapProbe settings within making
  | logs =>
      rcases Except.bind_ok_iff.mp built with ⟨found, making, same⟩
      cases same
      exact readableMapping_logProbe settings within making

/-- The document of a probe can be read, as far as the service and the volume can. -/
theorem readable_probeDocument {role : ProbeRole} {service name marker : String}
    {volumeName document : Json} (settings : ReadableMapping printFloat limits 3 fields)
    (volume : Readable printFloat limits 3 volumeName) (deep : 5 ≤ limits.depth)
    (built : probeDocument fields role service name volumeName = .ok (document, marker)) :
    Readable printFloat limits 0 document := by
  rcases Except.bind_ok_iff.mp built with ⟨⟨probe, found⟩, served, same⟩
  cases same
  have mapping := readableMapping_probeService settings deep served
  have services : Readable printFloat limits 1 (.object [("probe", .object probe)]) :=
    ⟨by omega, List.nodup_singleton _, readable_object (by omega) mapping, trivial⟩
  rw [composeDocument]
  split
  case isTrue => exact ⟨by omega, List.nodup_singleton _, services, trivial⟩
  case isFalse =>
    have keys : ["services", "volumes"].Nodup := by decide
    have names : ["external", "name"].Nodup := by decide
    refine ⟨by omega, keys, services, ⟨by omega, List.nodup_singleton _, ⟨by omega, names, ?_⟩,
      trivial⟩, trivial⟩
    exact ⟨trivial, volume, trivial⟩

end

def ProbeRole.command : ProbeRole → List String
  | .init => []
  | .logs => ["-ec", logScript]
  | .bootstrap => ["--check"]
  | .mongo => ["-ec", mongoScript]

/-- A mount of the service with the logs, or with the script of its entrypoint. -/
def Mounts (settings mount : Fields) : Prop :=
  ∃ items item target, Json.lookup "volumes" settings = some (.array items) ∧ item ∈ items ∧
    mountOf item = some mount ∧ (Json.lookup "target" mount).getD .null = target ∧
    (target = .string Config.logTarget ∨ ∃ entrypoint,
      Json.lookup "entrypoint" settings = some entrypoint ∧ second entrypoint = .ok target)

/-- The settings that a probe of a role has of its own: it is isolated, runs the
bootstrap of its service or a shell script, and a log probe adds the names of its
files to the environment of its service. -/
inductive OwnSetting (settings : Fields) (service name : String) : ProbeRole → String → Json → Prop
  | network {role} : OwnSetting settings service name role "network_mode" (.string "none")
  | restart {role} : OwnSetting settings service name role "restart" (.string "no")
  | healthcheck {role} : OwnSetting settings service name role "healthcheck"
      (.object [("disable", .bool true)])
  | command {role : ProbeRole} :
      OwnSetting settings service name role "command" (.strings role.command)
  | bootstrap {role entrypoint} (kind : role = .init ∨ role = .bootstrap)
      (given : Json.lookup "entrypoint" settings = some entrypoint) :
      OwnSetting settings service name role "entrypoint" entrypoint
  | shell {role} (kind : role = .logs ∨ role = .mongo) :
      OwnSetting settings service name role "entrypoint" (.strings ["/bin/sh"])
  | environment {given}
      (mapping : dictOf ((Json.lookup "environment" settings).getD (.object [])) = .ok given) :
      OwnSetting settings service name .logs "environment" (.object (merge given
        [("PROBE_FILE", .string name), ("NF_LOG_FILE", .string (service ++ ".log"))]))
  | volumes {role} {mounts : List Fields} (kind : role ≠ .mongo)
      (each : ∀ mount ∈ mounts, mount = [] ∨ Mounts settings mount) :
      OwnSetting settings service name role "volumes" (.array (mounts.map .object))

/-- The probe has no network, runs the command of its role, and takes from the service no
more than the settings of probes, in so far as it has none of its own. -/
structure Confined (settings : Fields) (role : ProbeRole) (service name : String)
    (probe : Fields) : Prop where
  network : ("network_mode", .string "none") ∈ probe
  command : ("command", .strings role.command) ∈ probe
  entrypoint : ∃ entrypoint, OwnSetting settings service name role "entrypoint" entrypoint ∧
    ("entrypoint", entrypoint) ∈ probe
  fields : ∀ field ∈ probe, OwnSetting settings service name role field.1 field.2 ∨
    (∀ value, ¬OwnSetting settings service name role field.1 value) ∧
      field.1 ∈ probeSettings ∧ Json.lookup field.1 settings = some field.2

section

variable {fields others settings : Fields} {key : String} {value : Json} {field : String × Json}

theorem mem_setField_self : (key, value) ∈ setField key value fields := by
  induction fields with
  | nil => exact List.mem_singleton_self _
  | cons field fields ih =>
      rcases field with ⟨name, old⟩
      rw [setField]
      split
      case isTrue same => exact same ▸ List.mem_cons_self
      case isFalse => exact List.mem_cons_of_mem _ ih

theorem mem_setField_of_ne (member : field ∈ fields) (other : field.1 ≠ key) :
    field ∈ setField key value fields := by
  induction fields with
  | nil => cases member
  | cons first fields ih =>
      rcases first with ⟨name, old⟩
      rw [setField]
      rcases List.mem_cons.mp member with rfl | member
      · rw [if_neg other]
        exact List.mem_cons_self
      · split
        · exact List.mem_cons_of_mem _ member
        · exact List.mem_cons_of_mem _ (ih member)

theorem mem_merge (member : field ∈ merge fields others) : field ∈ fields ∨ field ∈ others := by
  induction others generalizing fields with
  | nil => exact .inl member
  | cons other others ih =>
      rcases ih member with early | late
      · rcases mem_setField early with kept | rfl
        · exact .inl kept
        · exact .inr List.mem_cons_self
      · exact .inr (List.mem_cons_of_mem _ late)

/-- A field stays, unless it is written again. -/
theorem mem_merge_of_fresh (member : field ∈ fields) (fresh : field.1 ∉ others.map Prod.fst) :
    field ∈ merge fields others := by
  induction others generalizing fields with
  | nil => exact member
  | cons other others ih =>
      rw [List.map_cons, List.mem_cons, not_or] at fresh
      exact ih (mem_setField_of_ne member fresh.1) fresh.2

/-- A field is there that was written last. -/
theorem mem_merge_of_mem (member : field ∈ others) (distinct : (others.map Prod.fst).Nodup) :
    field ∈ merge fields others := by
  induction others generalizing fields with
  | nil => cases member
  | cons other others ih =>
      rw [List.map_cons, List.nodup_cons] at distinct
      rcases List.mem_cons.mp member with rfl | member
      · change field ∈ merge (setField field.1 field.2 fields) others
        exact mem_merge_of_fresh mem_setField_self distinct.1
      · exact ih member distinct.2

theorem merge_nodup (distinct : (fields.map Prod.fst).Nodup) :
    ((merge fields others).map Prod.fst).Nodup := by
  induction others generalizing fields with
  | nil => exact distinct
  | cons other others ih => exact ih (setField_nodup distinct)

theorem merge_append (fields others last : Fields) :
    merge fields (others ++ last) = merge (merge fields others) last :=
  List.foldl_append

/-- A field that is written last has the value that is written. -/
theorem mem_of_mem_merge (distinct : (fields.map Prod.fst).Nodup)
    (distinctOthers : (others.map Prod.fst).Nodup) (member : field ∈ merge fields others)
    (written : field.1 ∈ others.map Prod.fst) : field ∈ others := by
  rcases List.mem_map.mp written with ⟨other, given, same⟩
  have kept : other ∈ merge fields others := mem_merge_of_mem given distinctOthers
  rwa [← List.inj_on_of_nodup_map (merge_nodup distinct) kept member same]

theorem lookup_cons {name : String} :
    Json.lookup key ((name, value) :: fields) =
      (Json.lookup key fields).or (if name = key then some value else none) := by
  rw [Json.lookup, Json.lookup, List.reverse_cons, List.find?_append]
  cases List.find? (fun field => decide (field.1 = key)) fields.reverse with
  | some found => rfl
  | none =>
      by_cases same : name = key
      · simp [same]
      · simp [same]

theorem lookup_setField_of_ne {other : String} (different : key ≠ other) :
    Json.lookup other (setField key value fields) = Json.lookup other fields := by
  induction fields with
  | nil =>
      rw [setField, lookup_cons, if_neg different]
      rfl
  | cons field fields ih =>
      rcases field with ⟨name, old⟩
      rw [setField]
      split
      case isTrue same => rw [lookup_cons, lookup_cons, same, if_neg different, if_neg different]
      case isFalse => rw [lookup_cons, lookup_cons, ih]

theorem lookup_merge_of_fresh (fresh : key ∉ others.map Prod.fst) :
    Json.lookup key (merge fields others) = Json.lookup key fields := by
  induction others generalizing fields with
  | nil => rfl
  | cons other others ih =>
      rw [List.map_cons, List.mem_cons, not_or] at fresh
      exact (ih fresh.2).trans (lookup_setField_of_ne (Ne.symm fresh.1))

theorem lookup_keptSettings (listed : key ∈ probeSettings) :
    Json.lookup key (keptSettings settings) = Json.lookup key settings := by
  have kept (keys : List String) : Json.lookup key (keys.filterMap fun key =>
      (Json.lookup key settings).map fun value => (key, value)) =
        if key ∈ keys then Json.lookup key settings else none := by
    induction keys with
    | nil => rfl
    | cons name keys ih =>
        rw [List.filterMap_cons]
        cases found : Json.lookup name settings with
        | none =>
            rw [Option.map_none, ih]
            by_cases same : key = name
            · simp [same, found]
            · simp [same]
        | some value =>
            rw [Option.map_some, lookup_cons, ih]
            by_cases same : name = key
            · subst same
              rw [found, if_pos rfl, if_pos List.mem_cons_self]
              split
              · rfl
              · rfl
            · simp [same, Ne.symm same]
  exact (kept probeSettings).trans (if_pos listed)

/-- The settings that isolate a probe. -/
def isolation : Fields :=
  [("network_mode", .string "none"), ("restart", .string "no"),
    ("healthcheck", .object [("disable", .bool true)])]

variable {role : ProbeRole} {service name : String}

/-- The settings of a service, over which own settings are written: those that isolate,
and others, which are all that there are. -/
theorem confined_merge (distinct : ((isolation ++ others).map Prod.fst).Nodup)
    (own : ∀ field ∈ others, OwnSetting settings service name role field.1 field.2)
    (complete : ∀ key value, OwnSetting settings service name role key value →
      key ∈ (isolation ++ others).map Prod.fst)
    (command : ("command", .strings role.command) ∈ others)
    (entrypoint : ∃ value, ("entrypoint", value) ∈ others) :
    Confined settings role service name (merge (isolated settings) others) := by
  have whole : merge (isolated settings) others =
      merge (keptSettings settings) (isolation ++ others) := (merge_append _ _ _).symm
  have keptDistinct : ((keptSettings settings).map Prod.fst).Nodup :=
    keptSettings_nodup settings
  have given {field : String × Json} (member : field ∈ isolation ++ others) :
      field ∈ merge (keptSettings settings) (isolation ++ others) :=
    mem_merge_of_mem member distinct
  rw [whole]
  constructor
  · exact given List.mem_cons_self
  · exact given (List.mem_append_right _ command)
  · rcases entrypoint with ⟨value, member⟩
    exact ⟨value, own _ member, given (List.mem_append_right _ member)⟩
  · intro field member
    by_cases written : field.1 ∈ (isolation ++ others).map Prod.fst
    · left
      rcases List.mem_append.mp (mem_of_mem_merge keptDistinct distinct member written) with
        isolating | other
      · simp only [isolation, List.mem_cons, List.not_mem_nil, or_false] at isolating
        rcases isolating with rfl | rfl | rfl
        · exact .network
        · exact .restart
        · exact .healthcheck
      · exact own field other
    · right
      refine ⟨fun value owned => written (complete _ _ owned), ?_⟩
      rcases mem_merge member with kept | other
      · rcases List.mem_filterMap.mp kept with ⟨key, listed, found⟩
        rcases Option.map_eq_some_iff.mp found with ⟨value, known, rfl⟩
        exact ⟨listed, known⟩
      · exact absurd (List.mem_map_of_mem other) written

theorem mounts_mountAt {target : Json} (allowed : target = .string Config.logTarget ∨
    ∃ entrypoint, Json.lookup "entrypoint" settings = some entrypoint ∧
      second entrypoint = .ok target) :
    mountAt settings target = [] ∨ Mounts settings (mountAt settings target) := by
  rw [mountAt]
  split
  case h_1 items found =>
    cases first : items.findSome? (mountWithTarget target) with
    | none => exact .inl rfl
    | some mount =>
        rcases List.exists_of_findSome?_eq_some first with ⟨item, member, targeted⟩
        rw [mountWithTarget, Option.filter_eq_some_iff, decide_eq_true_eq] at targeted
        exact .inr ⟨items, item, target, found, member, targeted.1, targeted.2, allowed⟩
  case h_2 => exact .inl rfl

theorem lookup_of_index (found : (Json.object settings).index key = .ok value) :
    Json.lookup key settings = some value := by
  rw [Json.index] at found
  split at found
  case h_1 known =>
    cases found
    exact known
  case h_2 => cases found

theorem confined_bootstrapProbe (kind : role = .init ∨ role = .bootstrap) {probe : Fields}
    (built : bootstrapProbe settings role.command = .ok probe) :
    Confined settings role service name probe := by
  rcases Except.bind_ok_iff.mp built with ⟨entrypoint, entered, making⟩
  rcases Except.bind_ok_iff.mp making with ⟨target, targeted, same⟩
  cases same
  have found := lookup_of_index entered
  have keys : ["network_mode", "restart", "healthcheck", "entrypoint", "command",
    "volumes"].Nodup := by decide
  refine confined_merge keys ?_ ?_ (by simp) ⟨entrypoint, List.mem_cons_self⟩
  · simp only [List.mem_cons, List.not_mem_nil, or_false, forall_eq_or_imp, forall_eq]
    refine ⟨.bootstrap kind found, .command, .volumes ?_ ?_⟩
    · rcases kind with rfl | rfl
      · simp
      · simp
    · rw [List.forall_mem_cons, List.forall_mem_singleton]
      exact ⟨mounts_mountAt (.inl rfl), mounts_mountAt (.inr ⟨entrypoint, found, targeted⟩)⟩
  · intro key value owned
    cases owned with
    | environment => simp at kind
    | _ => simp [isolation]

theorem confined_logProbe {probe : Fields} (built : logProbe settings service name = .ok probe) :
    Confined settings .logs service name probe := by
  rcases Except.bind_ok_iff.mp built with ⟨environment, mapped, same⟩
  cases same
  have kept : Json.lookup "environment" (withScript logScript (isolated settings)) =
      Json.lookup "environment" settings := by
    rw [withScript, lookup_merge_of_fresh (by simp), isolated, lookup_merge_of_fresh (by simp),
      lookup_keptSettings (by decide)]
  rw [kept] at mapped
  have keys : ["network_mode", "restart", "healthcheck", "entrypoint", "command", "environment",
    "volumes"].Nodup := by decide
  rw [withScript, ← merge_append]
  refine confined_merge keys ?_ ?_ (List.mem_cons_of_mem _ List.mem_cons_self)
    ⟨_, List.mem_cons_self⟩
  · simp only [List.cons_append, List.nil_append, List.mem_cons, List.not_mem_nil, or_false,
      forall_eq_or_imp, forall_eq]
    refine ⟨.shell (.inl rfl), .command, .environment mapped, ?_⟩
    have mounts : ∀ mount ∈ [mountAt settings (.string Config.logTarget)],
        mount = [] ∨ Mounts settings mount :=
      List.forall_mem_singleton.mpr (mounts_mountAt (.inl rfl))
    exact .volumes (by simp) mounts
  · intro key value owned
    cases owned with
    | _ => simp [isolation]

theorem confined_mongoProbe :
    Confined settings .mongo service name (withScript mongoScript (isolated settings)) := by
  have keys : ["network_mode", "restart", "healthcheck", "entrypoint", "command"].Nodup := by
    decide
  refine confined_merge keys ?_ ?_ (List.mem_cons_of_mem _ List.mem_cons_self)
    ⟨_, List.mem_cons_self⟩
  · simp only [List.mem_cons, List.not_mem_nil, or_false, forall_eq_or_imp, forall_eq]
    exact ⟨.shell (.inr rfl), .command⟩
  · intro key value owned
    cases owned with
    | volumes kind => exact absurd rfl kind
    | _ => simp [isolation]

/-- Every probe is confined. -/
theorem confined_probeService {marker : String} {probe : Fields}
    (built : probeService settings role service name = .ok (probe, marker)) :
    Confined settings role service name probe := by
  cases role with
  | mongo =>
      cases built
      exact confined_mongoProbe
  | init =>
      rcases Except.bind_ok_iff.mp built with ⟨found, making, same⟩
      cases same
      exact confined_bootstrapProbe (.inl rfl) making
  | bootstrap =>
      rcases Except.bind_ok_iff.mp built with ⟨found, making, same⟩
      cases same
      exact confined_bootstrapProbe (.inr rfl) making
  | logs =>
      rcases Except.bind_ok_iff.mp built with ⟨found, making, same⟩
      cases same
      exact confined_logProbe making

end

/-- The operation writes no file, or one that is expected. -/
def Writes (expected : String → Prop) : PreflightOp → Prop
  | .host (.writeText _ text) => expected text
  | _ => True

section

variable {α : Type} {expected wider : String → Prop}

theorem writes_onHost {op : HostOp} (silent : Writes expected (.host op)) :
    (onHost (Routine.call (I := Host) op)).Calls (Writes expected) :=
  fun _ => ⟨silent, fun _ => trivial⟩

theorem writes_execute (args : List String) (timeout : ℕ) :
    (execute args timeout).Calls (Writes expected) := by
  rw [execute_eq]
  exact Routine.calls_bind (Routine.calls_call trivial) fun _ => Routine.calls_ofExcept _

theorem writes_writeText (path : Path) {text : String} (known : expected text) :
    (onHost (Host.writeText path text)).Calls (Writes expected) := by
  rw [Host.writeText, onHost_fallible]
  exact Routine.calls_bind (Routine.calls_call known) fun _ => Routine.calls_ofExcept _

theorem writes_readText (path : Path) :
    (onHost (Host.readText path)).Calls (Writes expected) := by
  rw [Host.readText, onHost_fallible]
  exact Routine.calls_bind (Routine.calls_call trivial) fun _ => Routine.calls_ofExcept _

theorem writes_withTemporaryDirectory {body : Path → PreflightM α}
    (within : ∀ directory, (body directory).Calls (Writes expected)) :
    (withTemporaryDirectory body).Calls (Writes expected) := by
  refine Routine.calls_bind ?_ fun directory => Routine.calls_bind
    (Routine.calls_attempt (within directory)) fun _ => Routine.calls_bind ?_ fun _ =>
      Routine.calls_ofExcept _
  · exact Routine.calls_bind (Routine.calls_call trivial) fun _ => Routine.calls_ofExcept _
  · exact Routine.calls_bind (Routine.calls_call trivial) fun _ => Routine.calls_ofExcept _

theorem writes_runtimeTools : runtimeTools.Calls (Writes expected) := by
  refine Routine.calls_bind (writes_onHost trivial) fun system => ?_
  split
  · exact Routine.calls_pure _
  · refine Routine.calls_bind (writes_execute _ _) fun daemon => ?_
    split
    · refine Routine.calls_bind (writes_execute _ _) fun compose => ?_
      split
      · exact Routine.calls_pure _
      · exact Routine.calls_pure _
    · exact Routine.calls_pure _

theorem writes_cleanupProbe (name : String) : (cleanupProbe name).Calls (Writes expected) :=
  Routine.calls_bind (writes_execute _ _) fun _ => Routine.calls_bind (writes_execute _ _) fun _ =>
    Routine.calls_pure _

theorem writes_cleanup (role : ProbeRole) (name : String) (path : Path) :
    (cleanup role name path).Calls (Writes expected) := by
  refine Routine.calls_bind (writes_cleanupProbe name) fun container => ?_
  split
  · refine Routine.calls_bind ?_ fun _ => Routine.calls_pure _
    exact Routine.calls_bind (writes_execute _ _) fun _ =>
      Routine.calls_bind (writes_cleanupProbe _) fun _ => Routine.calls_pure _
  · exact Routine.calls_pure _

theorem writes_watchProbe (service : String) (role : ProbeRole) (name marker : String)
    (path : Path) : (watchProbe service role name marker path).Calls (Writes expected) := by
  have restores (oldInt previousTerm : Disposition) :
      (restoreHandlers oldInt previousTerm).Calls (Writes expected) :=
    Routine.calls_bind (writes_onHost trivial) fun _ =>
      Routine.calls_bind (writes_onHost trivial) fun _ => Routine.calls_pure _
  have protects (previous : Disposition) :
      (protectedCleanup previous role name path).Calls (Writes expected) :=
    Routine.calls_bind (writes_onHost trivial) fun _ =>
      Routine.calls_bind (writes_onHost trivial) fun _ =>
        Routine.calls_bind (Routine.calls_attempt (writes_cleanup role name path)) fun _ =>
          Routine.calls_bind (restores _ _) fun _ => Routine.calls_ofExcept _
  exact Routine.calls_bind (writes_onHost trivial) fun previous =>
    Routine.calls_bind (Routine.calls_attempt (writes_execute _ _)) fun _ =>
      Routine.calls_bind (protects previous) fun _ =>
        Routine.calls_bind (Routine.calls_ofExcept _) fun _ => Routine.calls_pure _

/-- The text of a document of a probe. -/
def ProbeText (settings : Fields) (role : ProbeRole) (service : String) (volumeName : Json)
    (text : String) : Prop :=
  ∃ name document marker, probeDocument settings role service name volumeName =
    .ok (document, marker) ∧ text = doubleDollars (document.dumps .plain 0)

theorem writes_runProbe (service : String) (settings : Fields) (role : ProbeRole)
    (volumeName : Json) (known : ∀ text, ProbeText settings role service volumeName text →
      expected text) :
    (runProbe service settings role volumeName).Calls (Writes expected) := by
  refine Routine.calls_bind (Routine.calls_call trivial) fun hex => ?_
  refine Routine.calls_ofExcept_bind fun found built => ?_
  refine writes_withTemporaryDirectory fun directory => ?_
  exact Routine.calls_bind (writes_writeText _ (known _ ⟨_, found.1, found.2, built, rfl⟩))
    fun _ => writes_watchProbe _ _ _ _ _

/-- The text of a document of one of the probes of a plan. -/
def PlannedText (services volumeName : Json) (plan : List (String × ProbeRole))
    (text : String) : Prop :=
  ∃ service role settings, (service, role) ∈ plan ∧
    serviceSettings services service = .ok settings ∧
    ProbeText settings role service volumeName text

theorem writes_runProbes (services volumeName : Json) (plan : List (String × ProbeRole))
    (checks : List CapabilityCheck)
    (known : ∀ text, PlannedText services volumeName plan text → expected text) :
    (runProbes services volumeName plan checks).Calls (Writes expected) := by
  induction plan generalizing checks with
  | nil => exact Routine.calls_pure _
  | cons next plan ih =>
      rcases next with ⟨service, role⟩
      rw [runProbes]
      split
      · exact Routine.calls_pure _
      · refine Routine.calls_ofExcept_bind fun settings served => ?_
        refine Routine.calls_bind (writes_runProbe service settings role volumeName ?_)
          fun found => ih _ ?_
        · intro text built
          exact known text ⟨service, role, settings, List.mem_cons_self, served, built⟩
        · rintro text ⟨other, role, settings, member, built⟩
          exact known text ⟨other, role, settings, List.mem_cons_of_mem _ member, built⟩

variable [Library]

theorem writes_inspectImages (platform : String) (services : Json) (names : List String) :
    (inspectImages platform services names).Calls (Writes expected) := by
  induction names with
  | nil => exact Routine.calls_pure _
  | cons name names ih =>
      exact Routine.calls_bind (Routine.calls_ofExcept _) fun _ =>
        Routine.calls_bind (writes_execute _ _) fun _ => Routine.calls_bind ih fun _ =>
          Routine.calls_pure _

theorem writes_resolveCompose (repoRoot : Path) (stdout : String) :
    (resolveCompose repoRoot stdout).Calls (Writes expected) := by
  have loads (path : Path) : (loadYaml path).Calls (Writes expected) := by
    refine Routine.calls_bind (writes_readText path) fun text =>
      Routine.calls_bind (Routine.calls_ofExcept _) fun value => ?_
    split
    · exact Routine.calls_pure _
    · exact Routine.calls_raise _
  exact Routine.calls_bind (Routine.calls_ofExcept _) fun _ =>
    Routine.calls_bind (Routine.calls_ofExcept _) fun _ =>
      Routine.calls_bind (Routine.calls_ofExcept _) fun _ =>
        Routine.calls_bind (loads _) fun _ =>
          Routine.calls_bind (Routine.calls_ofExcept _) fun _ => Routine.calls_pure _

theorem writes_prepareVolume (compose : Json) :
    (prepareVolume compose).Calls (Writes expected) :=
  Routine.calls_bind (Routine.calls_ofExcept _) fun _ =>
    Routine.calls_bind (Routine.calls_ofExcept _) fun _ =>
      Routine.calls_bind (Routine.calls_ofExcept _) fun _ =>
        Routine.calls_bind (writes_execute _ _) fun _ => Routine.calls_pure _

/-- The name of the volume is the one that was resolved. -/
theorem prepareVolume_runs {compose volumeName : Json} {check : CapabilityCheck}
    {before after : Unit} {trace : List (Event PreflightHost)}
    (runs : (prepareVolume compose).Runs before trace (.ok (volumeName, check)) after) :
    logVolumeName compose = .ok volumeName := by
  rw [prepareVolume, Routine.runs_bind_ok_iff] at runs
  rcases runs with ⟨_, named, _, _, -, found, runs⟩
  rw [Routine.runs_bind_ok_iff] at runs
  rcases runs with ⟨_, project, _, _, -, -, runs⟩
  rw [Routine.runs_bind_ok_iff] at runs
  rcases runs with ⟨_, args, _, _, -, -, runs⟩
  rw [Routine.runs_bind_ok_iff] at runs
  rcases runs with ⟨_, prepared, _, _, -, -, runs⟩
  rw [Routine.runs_pure_iff, Except.ok.injEq, Prod.mk.injEq] at runs
  rw [runs.2.1.1]
  exact (Routine.runs_ofExcept_iff.mp found).2.1.symm

/-- Nothing is written but the documents of the planned probes. -/
theorem writes_checkRuntime (environment : CapabilityCheck) (resolved : Resolved) (mongodb : Bool)
    (known : ∀ volumeName text, logVolumeName resolved.compose = .ok volumeName →
      PlannedText resolved.services volumeName (probePlan mongodb) text → expected text) :
    (checkRuntime environment resolved mongodb).Calls (Writes expected) := by
  refine Routine.calls_bind (writes_inspectImages _ _ _) fun images => ?_
  dsimp only
  split
  · exact Routine.calls_pure _
  · refine Routine.calls_bind_of_runs (writes_prepareVolume _) fun _ _ prepared _ runs => ?_
    exact writes_runProbes _ _ _ _ fun text => known prepared.1 text (prepareVolume_runs runs)

end

section

variable [Library] {printFloat : String → String} {limits : Limits}

variable (printFloat limits) in
/-- In any environment, the interpolated text is decoded to the document of a planned
probe, which is confined to its service and declares no more than the volume of the
logs. -/
def ReadsAsProbe (resolved : Resolved) (mongodb : Bool) (text : String) : Prop :=
  ∃ service role settings name probe others, (service, role) ∈ probePlan mongodb ∧
    serviceSettings resolved.services service = .ok settings ∧
    Confined settings role service name probe ∧
    (probe.map Prod.fst).Nodup ∧
    (others = [] ∨ ∃ name, logVolumeName resolved.compose = .ok name ∧
      others = [("volumes", .object [(Config.logVolume,
        .object [("external", .bool true), ("name", name)])])]) ∧
    ∀ environment : Interpolation.Environment, ∃ read : String,
      Interpolation.interpolate environment text.toList = some read.toList ∧
      loads printFloat limits read =
        .ok (.object (("services", .object [("probe", .object probe)]) :: others))

omit [Library] in
theorem composeDocument_eq (probe : Fields) (role : ProbeRole) (volumeName : Json) :
    ∃ others, composeDocument probe role volumeName =
        .object (("services", .object [("probe", .object probe)]) :: others) ∧
      (others = [] ∨ others = [("volumes", .object [(Config.logVolume,
        .object [("external", .bool true), ("name", volumeName)])])]) := by
  refine ⟨_, rfl, ?_⟩
  split
  · exact .inl rfl
  · exact .inr rfl

omit [Library] in
theorem readable_serviceSettings {resolved : Json} {service : String} {settings : Fields}
    {services : Json} (readable : Readable printFloat limits 0 resolved)
    (indexed : resolved.index "services" = .ok services)
    (served : serviceSettings services service = .ok settings) :
    ReadableMapping printFloat limits 3 settings := by
  have inner := readable_index readable indexed
  rcases Except.bind_ok_iff.mp served with ⟨value, found, same⟩
  have service := readable_index inner found
  cases value with
  | object fields =>
      cases same
      exact ⟨service.2.1, service.2.2⟩
  | _ => cases same

omit [Library] in
theorem readable_logVolumeName {compose name : Json}
    (readable : Readable printFloat limits 0 compose)
    (named : logVolumeName compose = .ok name) : Readable printFloat limits 3 name := by
  rcases Except.bind_ok_iff.mp named with ⟨volumes, indexed, named⟩
  rcases Except.bind_ok_iff.mp named with ⟨volume, found, named⟩
  exact readable_index (readable_index (readable_index readable indexed) found) named

/-- The text of a planned probe is read as its document. -/
theorem readsAsProbe_of_planned {resolved : Resolved} {mongodb : Bool} {volumeName : Json}
    {stdout text : String} (deep : 5 ≤ limits.depth)
    (readable : Readable printFloat limits 0 resolved.compose)
    (from_ : ResolvedFrom stdout resolved)
    (named : logVolumeName resolved.compose = .ok volumeName)
    (planned : PlannedText resolved.services volumeName (probePlan mongodb) text) :
    ReadsAsProbe printFloat limits resolved mongodb text := by
  rcases planned with ⟨service, role, settings, member, served, name, document, marker, built, rfl⟩
  have mapping := readable_serviceSettings readable from_.2.1 served
  have volume := readable_logVolumeName readable named
  have readableDocument := readable_probeDocument mapping volume deep built
  rcases Except.bind_ok_iff.mp built with ⟨⟨probe, found⟩, making, same⟩
  cases same
  rcases composeDocument_eq probe role volumeName with ⟨others, document, declared⟩
  refine ⟨service, role, settings, name, probe, others, member, served,
    confined_probeService making,
    (readableMapping_probeService mapping deep making).1, ?_, fun environment => ?_⟩
  · refine declared.imp_right fun same => ⟨volumeName, named, same⟩
  · refine ⟨(composeDocument probe role volumeName).dumps .plain 0, ?_, ?_⟩
    · rw [doubleDollars, String.toList_ofList, Interpolation.interpolate_double]
    · have blank : ∀ c ∈ "".toList, isSpace c = true := by simp
      have read := loads_dumps standard_plain readableDocument blank
      rw [ordered_of_unsorted rfl, String.append_empty] at read
      rw [← document]
      exact read

theorem resolveCompose_runs {repoRoot : Path} {stdout : String} {resolved : Resolved}
    {before after : Unit} {trace : List (Event PreflightHost)}
    (runs : (resolveCompose repoRoot stdout).Runs before trace (.ok resolved) after) :
    ResolvedFrom stdout resolved := by
  have notes := issuing_resolveCompose repoRoot stdout (fun _ => True) [] fun _ _ => trivial
  rcases notes.of_runs runs with ⟨issued, -, ended⟩
  exact ended.2

omit [Library] in
/-- The configuration was printed. -/
theorem composeConfig_runs {config : CompletedProcess} {before after : Unit}
    {trace : List (Event PreflightHost)}
    (runs : (execute composeConfig).Runs before trace (.ok config) after)
    (zero : config.returncode = 0) :
    ∃ stderr, trace = [⟨.host (.spawn composeConfig [] 15), .exited 0 config.stdout stderr⟩] := by
  rw [execute_eq, Routine.runs_bind_ok_iff] at runs
  rcases runs with ⟨_, ended, _, _, rfl, asked, runs⟩
  rcases Routine.runs_call_iff.mp asked with ⟨_, rfl, same, -⟩
  cases same
  rw [Routine.runs_ofExcept_iff] at runs
  rcases (ofEnd_exits_iff (· = config.stdout) runs.2.1.symm).mp ⟨zero, rfl⟩ with
    ⟨_, stderr, rfl, rfl⟩
  exact ⟨stderr, by rw [runs.1, List.append_nil]⟩

/-- Whatever a preflight writes, wherever it stops, is decoded to the document of a probe
that is confined to its service in the configuration that was resolved. -/
theorem runRuntimePreflight_written {repoRoot path : Path} {mongodb : Bool} {text : String}
    {trace : List (Event PreflightHost)} {reply : Except Raised Unit}
    (decodes : ∀ text, JsonLibrary.loads text = loads printFloat limits text)
    (prints : PrintsFloats printFloat limits) (deep : 5 ≤ limits.depth)
    (emits : (runRuntimePreflight repoRoot mongodb).Emits () trace)
    (written : ⟨.host (.writeText path text), reply⟩ ∈ trace) :
    ∃ stdout stderr resolved,
      ⟨.host (.spawn composeConfig [] 15), .exited 0 stdout stderr⟩ ∈ trace ∧
      ResolvedFrom stdout resolved ∧ ReadsAsProbe printFloat limits resolved mongodb text := by
  rcases List.append_of_mem written with ⟨start, rest, rfl⟩
  have unwritten : ¬Writes (fun _ => False) (.host (.writeText path text)) := id
  have ends {α : Type} {value : α} {before : Unit} {start : List (Event PreflightHost)} :
      ¬(pure value : PreflightM α).Emits before
        (start ++ ⟨.host (.writeText path text), reply⟩ :: rest) := fun emits =>
    unwritten ((Routine.calls_pure value).of_emits emits _
      (List.mem_append_right _ List.mem_cons_self))
  rcases Routine.emits_bind_of_calls writes_runtimeTools emits unwritten with
    ⟨first, environment, _, start, rfl, -, emits⟩
  dsimp only at emits
  split at emits
  case isTrue => exact absurd emits ends
  rcases Routine.emits_bind_of_calls (writes_execute _ _) emits unwritten with
    ⟨configuring, config, _, start, rfl, configured, emits⟩
  split at emits
  case isTrue => exact absurd emits ends
  case isFalse zero =>
  rcases Routine.emits_bind_of_calls (Routine.calls_attempt (writes_resolveCompose _ _)) emits
    unwritten with ⟨resolving, ended, _, start, rfl, resolves, checked⟩
  split at checked
  case h_1 error =>
    split at checked
    · exact absurd checked ends
    · exact absurd ((Routine.calls_raise error).of_emits checked _
        (List.mem_append_right _ List.mem_cons_self)) unwritten
  case h_2 resolved =>
  split at checked
  case isTrue => exact absurd checked ends
  case isFalse =>
  rcases Routine.runs_attempt_iff.mp resolves with ⟨_, same, resolves⟩
  cases same
  have from_ := resolveCompose_runs resolves
  rcases composeConfig_runs configured (not_not.mp zero) with ⟨stderr, rfl⟩
  refine ⟨config.stdout, stderr, resolved, by simp, from_, ?_⟩
  have readable : Readable printFloat limits 0 resolved.compose := by
    have loaded := from_.1
    rw [decodes] at loaded
    exact readable_of_loads prints loaded
  have calls := writes_checkRuntime environment resolved mongodb fun volumeName text named
    planned => readsAsProbe_of_planned deep readable from_ named planned
  exact calls.of_emits checked _ (List.mem_append_right _ List.mem_cons_self)

end

/-- The documents of the lab, with the decoder. -/
abbrev labDecoder : Library :=
  { labLibrary with loads := loads (fun _ => "0.0") ⟨4300, 1000⟩ }

theorem labResolved_readable : Readable (fun _ => "0.0") ⟨4300, 1000⟩ 0 labResolved := by
  have zero : ShortInt ⟨4300, 1000⟩ 0 := by
    rw [ShortInt]
    decide
  have one : ShortInt ⟨4300, 1000⟩ 1 := by
    rw [ShortInt]
    decide
  simp [labResolved, labProbed, Readable, ReadableFields, ReadableItems, Json.strings, zero, one]

theorem labDecoder_loads : labDecoder.loads (labResolved.dumps .plain 0) = .ok labResolved := by
  have blank : ∀ c ∈ "".toList, isSpace c = true := by simp
  have read := loads_dumps standard_plain labResolved_readable blank
  rwa [ordered_of_unsorted rfl, String.append_empty] at read

theorem labDecoder_transcript :
    (@runRuntimePreflight labDecoder (.ofText "/lab") false ()).transcript labHost 0 =
      (@runRuntimePreflight labLibrary (.ofText "/lab") false ()).transcript labHost 0 := by
  unfold runRuntimePreflight
  refine Routine.transcript_bind_congr fun environment _ world _ => ?_
  dsimp only
  split
  · rfl
  refine Routine.transcript_bind_congr fun config _ after played => ?_
  have printed : config.stdout = labResolved.dumps .plain 0 := by
    rw [execute_eq] at played
    cases played
    rfl
  split
  · rfl
  have same : @resolveCompose labDecoder (.ofText "/lab") config.stdout =
      @resolveCompose labLibrary (.ofText "/lab") config.stdout := by
    rw [printed]
    unfold resolveCompose
    change (ofExcept (labDecoder.loads _) >>= _) = (ofExcept (.ok labResolved) >>= _)
    rw [labDecoder_loads]
    rfl
  rw [same]
  rfl

theorem printsFloats_zero : PrintsFloats (fun _ => "0.0") ⟨4300, 1000⟩ := by
  intro text printed rest read
  rw [scanNumber] at read
  dsimp only at read
  split at read
  · cases read
  · split at read
    · rcases Decoding.outcome_bind_ok_iff.mp read with ⟨_, _, same⟩
      cases same
    · cases read
      exact .inr rfl

def isWriting : PreflightOp → Bool
  | .host (.writeText _ _) => true
  | _ => false

/-- In the lab, the files are decoded to documents of probes. -/
theorem labDecoder_written : ∃ path text reply stdout stderr resolved,
    (⟨.host (.writeText path text), reply⟩ : Event PreflightHost) ∈
      (@runRuntimePreflight labDecoder (.ofText "/lab") false ()).transcript labHost 0 ∧
    ⟨.host (.spawn composeConfig [] 15), .exited 0 stdout stderr⟩ ∈
      (@runRuntimePreflight labDecoder (.ofText "/lab") false ()).transcript labHost 0 ∧
    @ResolvedFrom labDecoder stdout resolved ∧
    ReadsAsProbe (fun _ => "0.0") ⟨4300, 1000⟩ resolved false text := by
  let := labDecoder
  have writes : ((@runRuntimePreflight labLibrary (.ofText "/lab") false ()).transcript
      labHost 0).any (fun event => isWriting event.op) = true := by
    decide +kernel
  rw [← labDecoder_transcript, List.any_eq_true] at writes
  rcases writes with ⟨⟨op, reply⟩, member, written⟩
  dsimp only at written
  unfold isWriting at written
  split at written
  case h_2 => cases written
  case h_1 path text =>
    rcases runRuntimePreflight_written (fun _ => rfl) printsFloats_zero (by decide)
      (Program.emits_transcript _ _) member with ⟨stdout, stderr, resolved, found⟩
    exact ⟨path, text, reply, stdout, stderr, resolved, member, found⟩

end FivegLab.RuntimePreflight
