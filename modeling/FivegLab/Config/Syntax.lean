import FivegLab.Config.Compose

/-!
# Short and long Compose syntax

The same contract is checked on a Compose file, with short texts for variables,
mounts and devices, and on the document that Compose resolves, with mappings.
`LongForm` says that one document is another one in long form; both pass the same
checks.
-/

namespace FivegLab.Config

open Yaml

/-- The mapping of a mount: its source, its target, its type and whether it is
read-only, which may be left out when it is not. -/
structure DescribesMount (source target : String) (readOnly : Bool) (mount : Entries) : Prop where
  source_eq : lookup "source" mount = some (.text source)
  target_eq : lookup "target" mount = some (.text target)
  type_eq : lookup "type" mount = some (.text
    (if source.toList.head? ∈ [some '.', some '/', some '~'] then "bind" else "volume"))
  readOnly_eq : lookup "read_only" mount = some (.bool readOnly) ∨
    readOnly = false ∧ lookup "read_only" mount = none

/-- The mapping of a device, whose permissions may be left out when they are the
default. -/
structure DescribesDevice (source target permissions : String) (device : Entries) : Prop where
  source_eq : lookup "source" device = some (.text source)
  target_eq : lookup "target" device = some (.text target)
  permissions_eq : lookup "permissions" device = some (.text permissions) ∨
    permissions = "rwm" ∧ lookup "permissions" device = none

/-- A text that is neither `source:target` nor `source:target:options`, or no text. -/
def NotShort (item : Yaml) : Prop :=
  ∀ text, item = .text text → text.toList.count ':' ≠ 1 ∧ text.toList.count ':' ≠ 2

/-- A mount, and its long form. -/
inductive LongMount : Yaml → Yaml → Prop
  | plain {source target : String} {mount : Entries} (source_free : ':' ∉ source.toList)
      (target_free : ':' ∉ target.toList) (describes : DescribesMount source target false mount) :
      LongMount (.text (source ++ ":" ++ target)) (.mapping mount)
  | options {source target options : String} {mount : Entries}
      (source_free : ':' ∉ source.toList) (target_free : ':' ∉ target.toList)
      (options_free : ':' ∉ options.toList)
      (describes : DescribesMount source target
        (decide ("ro".toList ∈ options.toList.splitOn ',')) mount) :
      LongMount (.text (source ++ ":" ++ target ++ ":" ++ options)) (.mapping mount)
  | same {item : Yaml} (notShort : NotShort item) : LongMount item item

/-- A device, and its long form. -/
inductive LongDevice : Yaml → Yaml → Prop
  | plain {source target : String} {device : Entries} (source_free : ':' ∉ source.toList)
      (target_free : ':' ∉ target.toList) (describes : DescribesDevice source target "rwm" device) :
      LongDevice (.text (source ++ ":" ++ target)) (.mapping device)
  | permissions {source target permissions : String} {device : Entries}
      (source_free : ':' ∉ source.toList) (target_free : ':' ∉ target.toList)
      (permissions_free : ':' ∉ permissions.toList)
      (describes : DescribesDevice source target permissions device) :
      LongDevice (.text (source ++ ":" ++ target ++ ":" ++ permissions)) (.mapping device)
  | same {item : Yaml} (notShort : NotShort item) : LongDevice item item

/-- The value that an item of the form `key=value` gives to a key. -/
def assignedTo (key : String) : Yaml → Option String
  | .text item =>
      if '=' ∉ key.toList ∧ key.toList ++ ['='] <+: item.toList then
        some (.ofList (item.toList.drop (key.toList.length + 1)))
      else none
  | _ => none

/-- An environment, and its long form: the last item for a key gives its value. -/
inductive LongEnvironment : Yaml → Yaml → Prop
  | list {items : List Yaml} {entries : Entries} (assigned : ∀ key,
      lookup key entries = (items.reverse.findSome? (assignedTo key)).map .text) :
      LongEnvironment (.list items) (.mapping entries)
  | same {value : Yaml} (notList : ∀ items, value ≠ .list items) : LongEnvironment value value

/-- A list, and the list of the long forms of its items. -/
inductive LongItems (long : Yaml → Yaml → Prop) : Yaml → Yaml → Prop
  | list {items longs : List Yaml} (each : List.Forall₂ long items longs) :
      LongItems long (.list items) (.list longs)
  | same {value : Yaml} (notList : ∀ items, value ≠ .list items) : LongItems long value value

/-- A mapping and its long form, or another value. -/
inductive LongMapping (long : Entries → Entries → Prop) : Yaml → Yaml → Prop
  | mapping {entries longs : Entries} (rewritten : long entries longs) :
      LongMapping long (.mapping entries) (.mapping longs)
  | same {value : Yaml} (notMapping : ∀ entries, value ≠ .mapping entries) :
      LongMapping long value value

structure LongService (service long : Entries) : Prop where
  environment : Option.Rel LongEnvironment (lookup "environment" service)
    (lookup "environment" long)
  volumes : Option.Rel (LongItems LongMount) (lookup "volumes" service) (lookup "volumes" long)
  devices : Option.Rel (LongItems LongDevice) (lookup "devices" service) (lookup "devices" long)
  rest : ∀ key, key ≠ "environment" → key ≠ "volumes" → key ≠ "devices" →
    lookup key long = lookup key service

def LongServices (services long : Entries) : Prop :=
  ∀ name, Option.Rel (LongMapping LongService) (lookup name services) (lookup name long)

/-- A Compose document, and its long form. -/
structure LongForm (compose long : Entries) : Prop where
  services : Option.Rel (LongMapping LongServices) (lookup "services" compose)
    (lookup "services" long)
  rest : ∀ key, key ≠ "services" → lookup key long = lookup key compose

theorem splitOn_plain {source target : String} (source_free : ':' ∉ source.toList)
    (target_free : ':' ∉ target.toList) :
    (source ++ ":" ++ target).toList.splitOn ':' = [source.toList, target.toList] := by
  have joined : ([':'].intercalate [source.toList, target.toList]).splitOn ':' =
      [source.toList, target.toList] :=
    List.splitOn_intercalate ':' (by simp [source_free, target_free]) (by simp)
  simpa [List.intercalate] using joined

theorem splitOn_options {source target options : String} (source_free : ':' ∉ source.toList)
    (target_free : ':' ∉ target.toList) (options_free : ':' ∉ options.toList) :
    (source ++ ":" ++ target ++ ":" ++ options).toList.splitOn ':' =
      [source.toList, target.toList, options.toList] := by
  have joined : ([':'].intercalate [source.toList, target.toList, options.toList]).splitOn ':' =
      [source.toList, target.toList, options.toList] :=
    List.splitOn_intercalate ':' (by simp [source_free, target_free, options_free]) (by simp)
  simpa [List.intercalate] using joined

theorem shortParts_plain {source target : String} (source_free : ':' ∉ source.toList)
    (target_free : ':' ∉ target.toList) :
    shortParts (source ++ ":" ++ target) = some (source, target, none) := by
  simp only [shortParts, splitOn_plain source_free target_free, String.ofList_toList]

theorem shortParts_options {source target options : String} (source_free : ':' ∉ source.toList)
    (target_free : ':' ∉ target.toList) (options_free : ':' ∉ options.toList) :
    shortParts (source ++ ":" ++ target ++ ":" ++ options) =
    some (source, target, some options) := by
  simp only [shortParts, splitOn_options source_free target_free options_free,
    String.ofList_toList]

theorem mountType_eq (source : String) : mountType source =
    if source.toList.head? ∈ [some '.', some '/', some '~'] then "bind" else "volume" := by
  rw [mountType]
  refine if_congr ?_ rfl rfl
  have dot : (".".toList : List Char) = ['.'] := rfl
  have slash : ("/".toList : List Char) = ['/'] := rfl
  have tilde : ("~".toList : List Char) = ['~'] := rfl
  simp only [Text.StartsWith, dot, slash, tilde]
  cases source.toList with
  | nil => simp
  | cons c rest => simp [List.cons_prefix_cons, eq_comm]

/-- Two mounts that the checks cannot tell apart. -/
structure SameMount (mount other : Entries) : Prop where
  type : entry mount "type" = entry other "type"
  source : lookup "source" mount = lookup "source" other
  readOnly_true : isTrue (entry mount "read_only") = isTrue (entry other "read_only")
  readOnly_truthy : ((lookup "read_only" mount).getD (.bool false)).truthy =
    ((lookup "read_only" other).getD (.bool false)).truthy

theorem SameMount.refl (mount : Entries) : SameMount mount mount := ⟨rfl, rfl, rfl, rfl⟩

theorem SameMount.entry_source {mount other : Entries} (same : SameMount mount other) :
    entry mount "source" = entry other "source" := by
  rw [entry, entry, same.source]

theorem SameMount.bindsFile_eq [Unicode] {mount other : Entries} (same : SameMount mount other)
    (ending : String) : bindsFile mount ending = bindsFile other ending := by
  simp only [bindsFile, same.type, same.source, same.readOnly_true]

/-- What a short text describes cannot be told from its mapping. -/
theorem DescribesMount.sameMount {source target : String} {options : Option String}
    {mount : Entries} (describes : DescribesMount source target (options.any readOnly) mount) :
    SameMount (shortMount source target options) mount := by
  have short_type : entry (shortMount source target options) "type" =
      .text (mountType source) := rfl
  have short_source : lookup "source" (shortMount source target options) =
      some (.text source) := rfl
  have short_readOnly : lookup "read_only" (shortMount source target options) =
      some (.bool (options.any readOnly)) := rfl
  refine ⟨?_, ?_, ?_, ?_⟩
  · rw [short_type, entry, describes.type_eq, mountType_eq]
    rfl
  · rw [short_source, describes.source_eq]
  · rcases describes.readOnly_eq with written | ⟨writable, omitted⟩
    · simp only [entry, written, short_readOnly]
    · simp only [entry, omitted, short_readOnly, writable]
      rfl
  · rcases describes.readOnly_eq with written | ⟨writable, omitted⟩
    · simp only [written, short_readOnly]
    · simp only [omitted, short_readOnly, writable]
      rfl

theorem DescribesMount.withTarget {source path : String} {options : Option String}
    {mount : Entries} (describes : DescribesMount source path (options.any readOnly) mount)
    (target : String) :
    Option.Rel SameMount
      ((some (shortMount source path options)).filter fun mount =>
        isText (entry mount "target") target)
      ((some mount).filter fun mount => isText (entry mount "target") target) := by
  have sameTarget : entry mount "target" = entry (shortMount source path options) "target" := by
    rw [entry, describes.target_eq]
    rfl
  simp only [Option.filter_some, sameTarget]
  split
  · exact .some describes.sameMount
  · exact .none

theorem LongMount.withTarget {item long : Yaml} (rewritten : LongMount item long)
    (target : String) :
    Option.Rel SameMount (mountWithTarget target item) (mountWithTarget target long) := by
  cases rewritten with
  | plain source_free target_free describes =>
      simp only [mountWithTarget, mountOf, shortParts_plain source_free target_free,
        Option.map_some]
      have short : DescribesMount _ _ ((none : Option String).any readOnly) _ := describes
      exact short.withTarget target
  | options source_free target_free options_free describes =>
      simp only [mountWithTarget, mountOf, shortParts_options source_free target_free options_free,
        Option.map_some]
      rename_i source path options mount
      have short : DescribesMount source path ((some options).any readOnly) mount := describes
      exact short.withTarget target
  | same notShort =>
      cases mountWithTarget target item with
      | none => exact .none
      | some mount => exact .some (.refl mount)

theorem findMount_long {items longs : List Yaml} (each : List.Forall₂ LongMount items longs)
    (target : String) :
    SameMount ((items.findSome? (mountWithTarget target)).getD [])
      ((longs.findSome? (mountWithTarget target)).getD []) := by
  induction each with
  | nil => exact .refl _
  | @cons item long items longs rewritten _ ih =>
      simp only [List.findSome?_cons]
      have head := rewritten.withTarget target
      generalize mountWithTarget target item = found at head ⊢
      generalize mountWithTarget target long = found' at head ⊢
      cases head with
      | none => exact ih
      | some same => exact same

theorem LongDevice.isTunDevice_eq [Unicode] {item long : Yaml} (rewritten : LongDevice item long) :
    isTunDevice long = isTunDevice item := by
  have described {source target permissions : String} {device : Entries}
      (describes : DescribesDevice source target permissions device) :
      deviceFields (.mapping device) = some (source, target, permissions) := by
    simp only [deviceFields, describes.source_eq, describes.target_eq]
    rcases describes.permissions_eq with written | ⟨default, omitted⟩
    · rw [written]
      rfl
    · rw [omitted, default]
      rfl
  cases rewritten with
  | plain source_free target_free describes =>
      have short := shortParts_plain source_free target_free
      simp only [isTunDevice, described describes]
      simp only [deviceFields, short, Option.map_some, Option.getD_none]
  | permissions source_free target_free permissions_free describes =>
      have short := shortParts_options source_free target_free permissions_free
      simp only [isTunDevice, described describes]
      simp only [deviceFields, short, Option.map_some, Option.getD_some]
  | same => rfl

theorem exposesTunDevice_long [Unicode] {devices longs : Yaml}
    (rewritten : LongItems LongDevice devices longs) :
    exposesTunDevice longs = exposesTunDevice devices := by
  cases rewritten with
  | list each =>
      simp only [exposesTunDevice]
      induction each with
      | nil => rfl
      | cons head _ ih => simp only [List.any_cons, head.isTunDevice_eq, ih]
  | same => rfl

/-- The key of an assignment ends at the first `=`. -/
theorem assignment_of_item {key value : List Char} (free : '=' ∉ key) :
    assignment (.ofList (key ++ '=' :: value)) = some (.ofList key, .ofList value) := by
  have keep : ∀ c ∈ key, decide (c ≠ '=') = true := by
    intro c member
    simp only [decide_eq_true_eq]
    rintro rfl
    exact free member
  have taken : (key ++ '=' :: value).takeWhile (fun c => decide (c ≠ '=')) = key := by
    rw [List.takeWhile_append_of_pos keep]
    simp
  have dropped : (key ++ '=' :: value).dropWhile (fun c => decide (c ≠ '=')) = '=' :: value := by
    rw [List.dropWhile_append_of_pos keep]
    simp
  rw [assignment, String.toList_ofList, if_pos (by simp), taken, dropped]
  rfl

theorem assignedTo_of_item {name value : List Char} (free : '=' ∉ name) (key : String) :
    assignedTo key (.text (.ofList (name ++ '=' :: value))) =
      if String.ofList name = key then some (.ofList value) else none := by
  by_cases same : String.ofList name = key
  · subst same
    have starts : name ++ ['='] <+: name ++ '=' :: value := by
      rw [List.prefix_append_right_inj]
      simp
    have dropped : (name ++ '=' :: value).drop (name.length + 1) = value := by
      rw [List.drop_append]
      simp
    simp only [assignedTo, String.toList_ofList, free, not_false_eq_true, starts, and_self, if_true,
      dropped]
  · rw [if_neg same, assignedTo, if_neg]
    rw [String.toList_ofList]
    rintro ⟨keyFree, rest, chars⟩
    have items : assignment (.ofList (key.toList ++ '=' :: rest)) =
        assignment (.ofList (name ++ '=' :: value)) := by
      rw [← chars]
      simp
    rw [assignment_of_item keyFree, assignment_of_item free] at items
    simp only [Option.some.injEq, Prod.mk.injEq, String.ofList_toList] at items
    exact same items.1.symm

/-- The variable of an item is the one that it assigns. -/
theorem variableOf_cases (item : Yaml) (key : String) :
    (variableOf item = none ∧ assignedTo key item = none) ∨
    ∃ name value, variableOf item = some (.text name, .text value) ∧
      assignedTo key item = if name = key then some value else none := by
  cases item with
  | text item =>
      by_cases member : '=' ∈ item.toList
      · rcases List.eq_append_cons_of_mem member with ⟨name, value, chars, free⟩
        have item_eq : item = .ofList (name ++ '=' :: value) := by
          rw [← chars, String.ofList_toList]
        subst item_eq
        refine .inr ⟨.ofList name, .ofList value, ?_, assignedTo_of_item free key⟩
        rw [variableOf, assignment_of_item free]
        rfl
      · refine .inl ⟨?_, ?_⟩
        · rw [variableOf, assignment, if_neg member]
          rfl
        · rw [assignedTo, if_neg]
          rintro ⟨_, starts⟩
          exact member (starts.subset (by simp))
  | _ => exact .inl ⟨rfl, rfl⟩

/-- A list sets a variable to what its last item for it assigns. -/
theorem lookup_composeEnvironment (items : List Yaml) (key : String) :
    lookup key (composeEnvironment (.list items)) =
      (items.reverse.findSome? (assignedTo key)).map .text := by
  rw [lookup, composeEnvironment, ← List.filterMap_reverse]
  induction items.reverse with
  | nil => rfl
  | cons item rest ih =>
      rcases variableOf_cases item key with ⟨unset, unassigned⟩ | ⟨name, value, sets, assigns⟩
      · rw [List.filterMap_cons_none unset, List.findSome?_cons, unassigned]
        exact ih
      · rw [List.filterMap_cons_some sets, List.findSome?_cons, assigns, List.find?_cons]
        by_cases same : name = key
        · simp [same]
        · simpa [same] using ih

theorem composeEnvironment_long {value long : Yaml} (rewritten : LongEnvironment value long)
    (key : String) :
    entry (composeEnvironment long) key = entry (composeEnvironment value) key := by
  cases rewritten with
  | list assigned =>
      rw [entry, entry, lookup_composeEnvironment, composeEnvironment, assigned key]
  | same => rfl

/-- What a key leads to, when nothing stands for a missing value. -/
theorem rel_entry {long : Yaml → Yaml → Prop} (null : long .null .null) {entries longs : Entries}
    {key : String} (related : Option.Rel long (lookup key entries) (lookup key longs)) :
    long (entry entries key) (entry longs key) := by
  unfold entry
  generalize lookup key entries = found at related ⊢
  generalize lookup key longs = found' at related ⊢
  cases related with
  | none => exact null
  | some same => exact same

namespace LongMapping

variable {service long : Yaml}

/-- Only the variables, the mounts and the devices of a service are rewritten. -/
theorem nested_eq (rewritten : LongMapping LongService service long) {key : String}
    (keys : List Key) (notEnvironment : key ≠ "environment") (notVolumes : key ≠ "volumes")
    (notDevices : key ≠ "devices") :
    nested long (.name key :: keys) = nested service (.name key :: keys) := by
  cases rewritten with
  | mapping rewritten =>
      simp only [nested, entry, rewritten.rest key notEnvironment notVolumes notDevices]
  | same => rfl

theorem get_eq (rewritten : LongMapping LongService service long) {key : String} (default : Yaml)
    (notEnvironment : key ≠ "environment") (notVolumes : key ≠ "volumes")
    (notDevices : key ≠ "devices") : long.get key default = service.get key default := by
  cases rewritten with
  | mapping rewritten =>
      simp only [Yaml.get, rewritten.rest key notEnvironment notVolumes notDevices]
  | same => rfl

theorem orEmpty (rewritten : LongMapping LongService service long) :
    LongMapping LongService service.orEmpty long.orEmpty := by
  have filled (entries : Entries) : (Yaml.mapping entries).orEmpty = .mapping entries := by
    cases entries <;> rfl
  cases rewritten with
  | mapping rewritten =>
      rw [filled, filled]
      exact .mapping rewritten
  | same notMapping =>
      rw [Yaml.orEmpty]
      split
      · exact .same notMapping
      · exact .mapping ⟨.none, .none, .none, fun _ _ _ _ => rfl⟩

theorem environment (rewritten : LongMapping LongService service long) (key : String) :
    entry (composeEnvironment (nested long [.name "environment"])) key =
      entry (composeEnvironment (nested service [.name "environment"])) key := by
  cases rewritten with
  | mapping rewritten =>
      exact composeEnvironment_long (rel_entry (.same (by simp)) rewritten.environment) key
  | same => rfl

theorem mountAt (rewritten : LongMapping LongService service long) (target : String) :
    SameMount (mountAt service target) (mountAt long target) := by
  cases rewritten with
  | @mapping entries longs rewritten =>
      have volumes := rel_entry (.same (by simp)) rewritten.volumes
      simp only [Config.mountAt, nested]
      generalize entry entries "volumes" = found at volumes ⊢
      generalize entry longs "volumes" = found' at volumes ⊢
      cases volumes with
      | list each => exact findMount_long each target
      | same => exact .refl _
  | same => exact .refl _

end LongMapping

namespace LongForm

variable {compose long : Entries}

theorem services_long (form : LongForm compose long) :
    LongMapping LongServices (entry compose "services") (entry long "services") :=
  rel_entry (.same (by simp)) form.services

theorem service (form : LongForm compose long) (name : String) :
    LongMapping LongService (nestedNames compose ["services", name])
      (nestedNames long ["services", name]) := by
  have services := form.services_long
  simp only [nestedNames, List.map_cons, List.map_nil, nested]
  generalize entry compose "services" = found at services ⊢
  generalize entry long "services" = found' at services ⊢
  cases services with
  | mapping rewritten => exact rel_entry (.same (by simp)) (rewritten name)
  | same notMapping =>
      cases found with
      | mapping entries => exact absurd rfl (notMapping entries)
      | _ => exact .same (by simp)

/-- A place in a service that is not rewritten. -/
theorem nested_service (form : LongForm compose long) (name key : String) (keys : List String)
    (notEnvironment : key ≠ "environment") (notVolumes : key ≠ "volumes")
    (notDevices : key ≠ "devices") :
    nestedNames long ("services" :: name :: key :: keys) =
      nestedNames compose ("services" :: name :: key :: keys) := by
  have split (document : Entries) : nestedNames document ("services" :: name :: key :: keys) =
      nested (nestedNames document ["services", name]) (.name key :: keys.map .name) := by
    rw [nestedNames, nestedNames, ← nested_append]
    rfl
  rw [split, split]
  exact (form.service name).nested_eq _ notEnvironment notVolumes notDevices

theorem environment (form : LongForm compose long) (name key : String) :
    entry (composeEnvironment (nestedNames long ["services", name, "environment"])) key =
      entry (composeEnvironment (nestedNames compose ["services", name, "environment"])) key := by
  have split (document : Entries) : nestedNames document ["services", name, "environment"] =
      nested (nestedNames document ["services", name]) [.name "environment"] := by
    rw [nestedNames, nestedNames, ← nested_append]
    rfl
  rw [split, split]
  exact (form.service name).environment key

theorem serviceIp_eq [Unicode] (form : LongForm compose long) (name : String) :
    serviceIp long name = serviceIp compose name := by
  have networks := form.nested_service name "networks" ["core", "ipv4_address"] (by simp) (by simp)
    (by simp)
  rw [serviceIp, serviceIp, networks]

theorem entry_eq (form : LongForm compose long) {key : String} (other : key ≠ "services") :
    entry long key = entry compose key := by
  rw [entry, entry, form.rest key other]

theorem nested_other (form : LongForm compose long) {key : String} (keys : List String)
    (other : key ≠ "services") : nestedNames long (key :: keys) =
      nestedNames compose (key :: keys) := by
  simp only [nestedNames, List.map_cons, nested, form.entry_eq other]

variable [Unicode]

theorem runtimeLogInitializer_eq (form : LongForm compose long) :
    runtimeLogInitializer long = runtimeLogInitializer compose := by
  have init := (form.service "log-init").orEmpty
  have volumes : entry long "volumes" = entry compose "volumes" := form.entry_eq (by simp)
  have volumeOk : logVolumeOk long = logVolumeOk compose := by
    rw [logVolumeOk, logVolumeOk, form.nested_other _ (by simp), form.entry_eq (by simp)]
  have script :=
    (init.mountAt logInitScript).bindsFile_eq ("/scripts/" ++ "prepare_runtime_logs.sh")
  simp only [runtimeLogInitializer, volumes, volumeOk, getIs, readonlyScript, script,
    init.get_eq _ (by simp : "user" ≠ _) (by simp) (by simp),
    init.get_eq _ (by simp : "network_mode" ≠ _) (by simp) (by simp),
    init.get_eq _ (by simp : "read_only" ≠ _) (by simp) (by simp),
    init.get_eq _ (by simp : "privileged" ≠ _) (by simp) (by simp),
    init.get_eq _ (by simp : "cap_drop" ≠ _) (by simp) (by simp),
    init.get_eq _ (by simp : "cap_add" ≠ _) (by simp) (by simp),
    init.get_eq _ (by simp : "entrypoint" ≠ _) (by simp) (by simp)]

omit [Unicode] in
theorem runtimeLogs_eq (form : LongForm compose long) (name : String) :
    runtimeLogs long name = runtimeLogs compose name := by
  have service := (form.service name).orEmpty
  have mount := service.mountAt logTarget
  simp only [runtimeLogs, getIs, ← mount.type, ← mount.entry_source, ← mount.readOnly_truthy,
    service.nested_eq _ (by simp : "depends_on" ≠ _) (by simp) (by simp),
    service.get_eq _ (by simp : "user" ≠ _) (by simp) (by simp)]

theorem validateLoggingContract_eq (form : LongForm compose long) :
    validateLoggingContract long = validateLoggingContract compose := by
  have logs : runtimeLogs long = runtimeLogs compose := funext form.runtimeLogs_eq
  rw [validateLoggingContract, validateLoggingContract, form.runtimeLogInitializer_eq, logs]

omit [Unicode] in
/-- The UPF is rewritten too, or it is no mapping in either form. -/
theorem upfService_long (form : LongForm compose long) :
    LongService (upfService compose) (upfService long) := by
  have service := form.service "upf"
  rw [upfService, upfService]
  generalize nestedNames compose ["services", "upf"] = found at service ⊢
  generalize nestedNames long ["services", "upf"] = found' at service ⊢
  cases service with
  | mapping rewritten => exact rewritten
  | same notMapping =>
      cases found with
      | mapping entries => exact absurd rfl (notMapping entries)
      | _ => exact ⟨.none, .none, .none, fun _ _ _ _ => rfl⟩

end LongForm

namespace LongService

variable {service long : Entries}

theorem entry_eq (rewritten : LongService service long) {key : String}
    (notEnvironment : key ≠ "environment") (notVolumes : key ≠ "volumes")
    (notDevices : key ≠ "devices") : entry long key = entry service key := by
  rw [entry, entry, rewritten.rest key notEnvironment notVolumes notDevices]

variable [Unicode]

theorem validateUpfBootstrapContract_eq (rewritten : LongService service long) :
    validateUpfBootstrapContract long = validateUpfBootstrapContract service := by
  have environment (key : String) : entry (composeEnvironment (entry long "environment")) key =
      entry (composeEnvironment (entry service "environment")) key :=
    composeEnvironment_long (rel_entry (.same (by simp)) rewritten.environment) key
  have mapping : LongMapping LongService (.mapping service) (.mapping long) := .mapping rewritten
  have script := (mapping.mountAt upfScript).bindsFile_eq ("/scripts/" ++ "upf-entrypoint.sh")
  have sysctls := rewritten.rest "sysctls" (by simp) (by simp) (by simp)
  have entrypoint : entry long "entrypoint" = entry service "entrypoint" :=
    rewritten.entry_eq (by simp) (by simp) (by simp)
  simp only [validateUpfBootstrapContract, environment, readonlyScript, script, sysctls, entrypoint]

theorem exposesTunDevice_eq (rewritten : LongService service long) :
    exposesTunDevice (entry long "devices") = exposesTunDevice (entry service "devices") :=
  exposesTunDevice_long (rel_entry (.same (by simp)) rewritten.devices)

end LongService

/-- A Compose document and its long form get the same checks. -/
theorem longForm_checks [Unicode] {compose long : Entries} (form : LongForm compose long)
    (upfConfig bsf : Entries) :
    validateContainerRuntimeContract long = validateContainerRuntimeContract compose ∧
      validateUpfAddressAlignment long upfConfig = validateUpfAddressAlignment compose upfConfig ∧
      validateBsfContract long bsf = validateBsfContract compose bsf := by
  refine ⟨?_, ?_, ?_⟩
  · have upf := form.upfService_long
    have user : entry (upfService long) "user" = entry (upfService compose) "user" :=
      upf.entry_eq (by simp) (by simp) (by simp)
    have capabilities := upf.rest "cap_add" (by simp) (by simp) (by simp)
    have privileged := upf.rest "privileged" (by simp) (by simp) (by simp)
    simp only [validateContainerRuntimeContract, form.environment, user, capabilities, privileged,
      upf.exposesTunDevice_eq, form.validateLoggingContract_eq, upf.validateUpfBootstrapContract_eq]
  · simp only [validateUpfAddressAlignment, tunnelAligned, form.environment]
  · have service := (form.service "bsf").orEmpty
    have mount := service.mountAt "/opt/open5gs/etc/open5gs/bsf.yaml"
    have condition := form.nested_service "pcf" "depends_on" ["bsf", "condition"]
        (by simp) (by simp)
      (by simp)
    simp only [validateBsfContract, getIs, form.serviceIp_eq, condition, mount.bindsFile_eq,
      service.get_eq _ (by simp : "command" ≠ _) (by simp) (by simp)]

/-- A document whose only service is the UPF. -/
def upfCompose (environment volumes devices : Yaml) : Entries :=
  [(.text "services", .mapping [(.text "upf", .mapping [(.text "user", .text "0:0"),
    (.text "environment", environment), (.text "volumes", volumes), (.text "devices", devices)])])]

theorem upfCompose_long {environment volumes devices environment' volumes' devices' : Yaml}
    (environments : LongEnvironment environment environment')
    (mounts : LongItems LongMount volumes volumes')
    (tunnels : LongItems LongDevice devices devices') :
    LongForm (upfCompose environment volumes devices)
      (upfCompose environment' volumes' devices') := by
  refine ⟨.some (.mapping fun name => ?_), fun key other => ?_⟩
  · by_cases upf : name = "upf"
    · subst upf
      refine .some (.mapping ⟨.some environments, .some mounts, .some tunnels, ?_⟩)
      intro key notEnvironment notVolumes notDevices
      simp [lookup, Ne.symm notEnvironment, Ne.symm notVolumes, Ne.symm notDevices]
    · simp [lookup, Ne.symm upf]
  · simp [lookup, upfCompose, Ne.symm other]

/-- The UPF of the lab, in short and in long form. -/
theorem longForm_checks_upf :
    @validateContainerRuntimeContract asciiTables (upfCompose
      (.mapping [(.text "ENABLE_NAT", .text "true")])
      (.list [.mapping [(.text "source", .text "./scripts/upf-entrypoint.sh"),
        (.text "target", .text "/lab/upf-entrypoint.sh"), (.text "type", .text "bind"),
        (.text "read_only", .bool true)]])
      (.list [.mapping [(.text "source", .text "/dev/net/tun"),
        (.text "target", .text "/dev/net/tun"),
        (.text "permissions", .text "rwm")]])) =
    @validateContainerRuntimeContract asciiTables (upfCompose
      (.list [.text "ENABLE_NAT=false", .text "ENABLE_NAT=true"])
      (.list [.text ("./scripts/upf-entrypoint.sh" ++ ":" ++ "/lab/upf-entrypoint.sh" ++
        ":" ++ "ro")])
      (.list [.text ("/dev/net/tun" ++ ":" ++ "/dev/net/tun")])) := by
  let := asciiTables
  refine (longForm_checks (upfCompose_long (.list fun key => ?_) (.list ?_) (.list ?_)) [] []).1
  · have disabled : assignedTo key (.text "ENABLE_NAT=false") =
        if "ENABLE_NAT" = key then some "false" else none :=
      assignedTo_of_item (by decide : '=' ∉ "ENABLE_NAT".toList) key
    have enabled : assignedTo key (.text "ENABLE_NAT=true") =
        if "ENABLE_NAT" = key then some "true" else none :=
      assignedTo_of_item (by decide : '=' ∉ "ENABLE_NAT".toList) key
    simp only [lookup, List.reverse_cons, List.reverse_nil, List.nil_append, List.cons_append,
      List.find?_cons, List.find?_nil, List.findSome?_cons, List.findSome?_nil, disabled, enabled]
    by_cases nat : "ENABLE_NAT" = key <;> simp [nat]
  · exact .cons (.options (by decide) (by decide) (by decide) ⟨rfl, rfl, rfl, .inl rfl⟩) .nil
  · exact .cons (.plain (by decide) (by decide) ⟨rfl, rfl, .inl rfl⟩) .nil

end FivegLab.Config
