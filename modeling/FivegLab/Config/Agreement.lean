import FivegLab.Config.Repository
import Mathlib.Data.List.Chain
import Mathlib.Data.List.Pairwise

/-!
# The identity of a validated configuration

What a passing validation says about the fields that identify the network and its
subscriber: where each document gives them, and when all of the documents give the
same value.
-/

namespace FivegLab.Config

open Yaml

/-- The numbers of the network: `mcc` and `mnc`. -/
def plmnValues (documents : RepoDocuments) (key : String) : List Yaml := [
  nested (.mapping documents.amf)
    [.name "amf", .name "guami", .index 0, .name "plmn_id", .name key],
  nested (.mapping documents.gnb) [.name key],
  nested (.mapping documents.ue) [.name key],
  nested (.mapping documents.subscriber) [.name "subscriber", .name key],
  nested (.mapping documents.nrf)
    [.name "nrf", .name "serving", .index 0, .name "plmn_id", .name key]]

def tacValues (documents : RepoDocuments) : List Yaml := [
  nested (.mapping documents.amf) [.name "amf", .name "tai", .index 0, .name "tac"],
  nested (.mapping documents.gnb) [.name "tac"]]

/-- The fields of the slice: `sst` and `sd`. -/
def sliceValues (documents : RepoDocuments) (key : String) : List Yaml := [
  nested (.mapping documents.smf)
    [.name "smf", .name "info", .index 0, .name "s_nssai", .index 0, .name key],
  nested (.mapping documents.amf)
    [.name "amf", .name "plmn_support", .index 0, .name "s_nssai", .index 0, .name key],
  nested (.mapping documents.gnb) [.name "slices", .index 0, .name key],
  nested (.mapping documents.ue) [.name "configured-nssai", .index 0, .name key],
  nested (.mapping documents.subscriber) [.name "slice", .name key]]

def dnnValues (documents : RepoDocuments) : List Yaml := [
  nested (.mapping documents.smf) [.name "smf", .name "session", .index 0, .name "dnn"],
  nested (.mapping documents.upf) [.name "upf", .name "session", .index 0, .name "dnn"],
  nested (.mapping documents.subscriber) [.name "session", .name "dnn"],
  nested (.mapping documents.ue) [.name "sessions", .index 0, .name "apn"]]

/-- A credential of the UE and of its subscriber: OPc and the authentication field. -/
def credentialValues (documents : RepoDocuments) (key subscriberKey : String) : List Yaml := [
  nested (.mapping documents.ue) [.name key],
  nested (.mapping documents.subscriber) [.name "subscriber", .name subscriberKey]]

variable [Unicode]

/-- Every document gives the field, and all of them the same printed value. -/
structure Common (values : List Yaml) : Prop where
  present : .null ∉ values
  same : ∀ value ∈ values, ∀ other ∈ values, value.printed = other.printed

/-- A complete identity that all documents have in common. -/
structure CommonIdentity (documents : RepoDocuments) : Prop where
  mcc : Common (plmnValues documents "mcc")
  mnc : Common (plmnValues documents "mnc")
  tac : Common (tacValues documents)
  sst : Common (sliceValues documents "sst")
  sd : Common (sliceValues documents "sd")
  dnn : Common (dnnValues documents)
  opc : Common (credentialValues documents "op" "opc")
  authentication : Common (credentialValues documents "amf" "amf")

/-- A field that some document leaves out is given by another one, which does not
print it as a missing value is printed. -/
def Printed (values : List Yaml) : Prop := .null ∈ values → ∃ value ∈ values, value.printed ≠ "None"

/-- A field that some document leaves out is given by another one, and its equal
values are printed alike. -/
structure Compared (values : List Yaml) : Prop where
  given : .null ∈ values → ∃ value ∈ values, value ≠ .null
  printed : ∀ value ∈ values, ∀ other ∈ values, equal value other → value.printed = other.printed

/-- No field of the identity is left out by every document that gives it, and the
fields that are compared as numbers are written alike. -/
structure Anchored (documents : RepoDocuments) : Prop where
  mcc : Printed (plmnValues documents "mcc")
  mnc : Printed (plmnValues documents "mnc")
  tac : Compared (tacValues documents)
  sst : Compared (sliceValues documents "sst")
  sd : Printed (sliceValues documents "sd")
  dnn : Printed (dnnValues documents)
  opc : Printed (credentialValues documents "op" "opc")
  authentication : Printed (credentialValues documents "amf" "amf")

omit [Unicode] in
theorem eq_null_of_equal {value : Yaml} (compared : equal value .null = true) : value = .null := by
  cases value with
  | null => rfl
  | float printed number => cases number <;> simp [equal, number] at compared
  | _ => simp [equal, number] at compared

omit [Unicode] in
theorem eq_null_of_null_equal {value : Yaml} (compared : equal .null value = true) :
    value = .null := by
  cases value with
  | null => rfl
  | _ => simp [equal, number] at compared

omit [Unicode] in
theorem null_iff_of_equal {value other : Yaml} (compared : equal value other = true) :
    value = .null ↔ other = .null := by
  constructor
  · rintro rfl
    exact eq_null_of_null_equal compared
  · rintro rfl
    exact eq_null_of_equal compared

omit [Unicode] in
/-- A chain of equal images has one image. -/
theorem constant_of_isChain {α β : Type} {image : α → β} {values : List α}
    (linked : values.IsChain fun value next => image value = image next) :
    ∀ value ∈ values, ∀ other ∈ values, image value = image other := by
  have : Trans (fun value next : α => image value = image next)
      (fun value next => image value = image next)
      (fun value next => image value = image next) := ⟨Eq.trans⟩
  have : Std.Symm fun value next : α => image value = image next := ⟨fun _ _ same => same.symm⟩
  intro value valueMem other otherMem
  exact List.Pairwise.forall_of_forall (R := fun value next => image value = image next)
    (fun _ _ => rfl) linked.pairwise valueMem otherMem

/-- The condition gives the value, if it gives any. -/
def Gives {α : Type} (condition : Except Raised α) (value : α) : Prop :=
  ∀ found, condition = .ok found → found = value

omit [Unicode] in
theorem gives_ok {α : Type} {value given : α} (same : value = given) : Gives (.ok value) given := by
  intro found read
  cases read
  exact same

omit [Unicode] in
/-- A chain that holds has compared every value with the next one. -/
theorem isChain_of_chain {α : Type} {compare : α → α → Bool} {conditions : List (Except Raised α)}
    {values : List α} (given : List.Forall₂ Gives conditions values)
    (holds : chain compare conditions = .ok true) :
    values.IsChain fun value next => compare value next = true := by
  induction given with
  | nil => exact .nil
  | cons first rest ih =>
      cases rest with
      | nil => exact .singleton _
      | cons second rest =>
          rw [chain] at holds
          simp only [Except.bind_ok_iff] at holds
          rcases holds with ⟨value, firstRead, next, secondRead, holds⟩
          rcases first value firstRead with rfl
          rcases second next secondRead with rfl
          split at holds
          next compared => exact .cons_cons compared (ih holds)
          next => cases holds

theorem same_of_chain {values : List Yaml}
    (linked : values.IsChain fun value next => samePrinted value next = true) :
    ∀ value ∈ values, ∀ other ∈ values, value.printed = other.printed :=
  constant_of_isChain (linked.imp fun _ _ same => by simpa [samePrinted] using same)

/-- Documents that print a field alike have it in common as soon as one of them gives
it. -/
theorem common_iff_printed {values : List Yaml}
    (linked : values.IsChain fun value next => samePrinted value next = true) :
    Common values ↔ Printed values := by
  have same := same_of_chain linked
  constructor
  · intro common missing
    exact absurd missing common.present
  · intro printed
    refine ⟨fun missing => ?_, same⟩
    rcases printed missing with ⟨value, valueMem, given⟩
    exact given (same value valueMem .null missing)

theorem common_iff_compared {values : List Yaml}
    (linked : values.IsChain fun value next => equal value next = true) :
    Common values ↔ Compared values := by
  constructor
  · intro common
    exact ⟨fun missing => absurd missing common.present,
      fun value valueMem other otherMem _ => common.same value valueMem other otherMem⟩
  · intro compared
    have nulls : ∀ value ∈ values, ∀ other ∈ values, (value = .null) = (other = .null) :=
      constant_of_isChain (linked.imp fun _ _ same => propext (null_iff_of_equal same))
    refine ⟨fun missing => ?_, ?_⟩
    · rcases compared.given missing with ⟨value, valueMem, given⟩
      exact given ((nulls value valueMem .null missing).mpr rfl)
    · refine constant_of_isChain (linked.imp_of_mem_imp ?_)
      intro value next valueMem nextMem same
      exact compared.printed value valueMem next nextMem same

section

omit [Unicode]

theorem entry_listFirst (value : Yaml) (key : String) :
    entry (listFirst value) key = nested value [.index 0, .name key] := by
  cases value with
  | list items =>
      cases items with
      | nil => rfl
      | cons first items => cases first <;> rfl
  | _ => rfl

theorem entry_nested_listFirst (data : Entries) (names : List String) (key : String) :
    entry (listFirst (nestedNames data names)) key =
      nested (.mapping data) (names.map .name ++ [.index 0, .name key]) := by
  rw [entry_listFirst, nestedNames, nested_append]

theorem entry_listFirst_entry (data : Entries) (name key : String) :
    entry (listFirst (entry data name)) key =
      nested (.mapping data) [.name name, .index 0, .name key] := by
  rw [entry_listFirst]
  rfl

/-- The first slice of the first item of a list. -/
theorem entry_slice (data : Entries) (names : List String) (key : String) :
    entry (listFirst (entry (listFirst (nestedNames data names)) "s_nssai")) key =
      nested (.mapping data)
        (names.map .name ++ [.index 0, .name "s_nssai", .index 0, .name key]) := by
  rw [entry_listFirst, entry_nested_listFirst, ← nested_append, List.append_assoc]
  rfl

theorem gives_plmnOf (data : Entries) (names : List String) (key : String) :
    Gives ((plmnOf (nestedNames data names)).get key)
      (nested (.mapping data) (names.map .name ++ [.index 0, .name "plmn_id", .name key])) := by
  intro found read
  have entries : nested (.mapping data)
      (names.map .name ++ [.index 0, .name "plmn_id", .name key]) =
      nested (entry (listFirst (nestedNames data names)) "plmn_id") [.name key] := by
    rw [entry_nested_listFirst, ← nested_append, List.append_assoc]
    rfl
  rw [entries, entry]
  rw [plmnOf] at read
  cases given : lookup "plmn_id" (listFirst (nestedNames data names)) with
  | none =>
      rw [given] at read
      cases read
      rfl
  | some plmn =>
      rw [given] at read
      cases plmn with
      | mapping entries =>
          cases read
          rfl
      | _ => cases read

theorem gives_item {data : Entries} {root : Yaml} {name : String}
    (present : item data name = .ok root) (key : String) :
    Gives (root.get key) (nested (.mapping data) [.name name, .name key]) := by
  intro found read
  have given : entry data name = root := by
    rw [item] at present
    rw [entry]
    split at present
    next value looked =>
      cases present
      rw [looked]
      rfl
    next => cases present
  rw [nested, given]
  cases root with
  | mapping entries =>
      cases read
      rfl
  | _ => cases read

end

/-- The validation completes, and all of its checks pass. -/
def Passes (documents : RepoDocuments) : Prop :=
  ∃ checks, validateRepo documents = .ok checks ∧ ChecksPass checks

instance (documents : RepoDocuments) : Decidable (Passes documents) :=
  match completed : validateRepo documents with
  | .ok checks => decidable_of_iff (ChecksPass checks) (by simp [Passes, completed])
  | .error _ => .isFalse (by simp [Passes, completed])

variable {documents : RepoDocuments}

theorem plmnCheck_passes {root : Yaml} {name key detail : String} {checked : Check}
    (subscriber : item documents.subscriber "subscriber" = .ok root)
    (completed : plmnCheck documents root name key detail = .ok checked)
    (passes : checked.status ≠ .fail) : Common (plmnValues documents key) ↔
      Printed (plmnValues documents key) := by
  simp only [plmnCheck, Except.bind_ok_iff] at completed
  rcases completed with ⟨same, holds, checks⟩
  cases checks
  rw [check_passes_iff.1 passes] at holds
  refine common_iff_printed (isChain_of_chain ?_ holds)
  exact .cons (gives_plmnOf _ _ key) (.cons (gives_ok rfl) (.cons (gives_ok rfl)
    (.cons (gives_item subscriber key) (.cons (gives_plmnOf _ _ key) .nil))))

theorem tacCheck_passes (passes : (tacCheck documents).status ≠ .fail) :
    Common (tacValues documents) ↔ Compared (tacValues documents) := by
  have same := check_passes_iff.1 passes
  exact common_iff_compared (.cons_cons same (.singleton _))

theorem sessionChecks_passes {session : Yaml} {checks : List Check}
    (subscriber : item documents.subscriber "session" = .ok session)
    (completed : sessionChecks documents session = .ok checks) (passes : ChecksPass checks) :
    Common (dnnValues documents) ↔ Printed (dnnValues documents) := by
  simp only [sessionChecks, Except.bind_ok_iff] at completed
  rcases completed with ⟨sameDnn, holds, samePool, -, reported⟩
  cases reported
  have same := check_passes_iff.1 (passes _ List.mem_cons_self)
  rw [same] at holds
  refine common_iff_printed (isChain_of_chain ?_ holds)
  exact .cons (gives_ok (entry_nested_listFirst _ _ _))
    (.cons (gives_ok (entry_nested_listFirst _ _ _))
    (.cons (gives_item subscriber "dnn") (.cons (gives_ok (entry_listFirst_entry _ _ _)) .nil)))

/-- The slices of the AMF, the gNB, the UE and the subscriber are compared with each
other, and the slice of the SMF with that of the AMF. -/
theorem sliceChecks_pass {slice : Yaml} {checks policy : List Check}
    (subscriber : item documents.subscriber "slice" = .ok slice)
    (advertised : validatePolicyAndSliceSelection documents.compose documents.amf documents.smf
      documents.pcf = .ok policy)
    (completed : sliceChecks documents slice = .ok checks)
    (policyPasses : ChecksPass policy) (passes : ChecksPass checks) :
    (Common (sliceValues documents "sst") ↔ Compared (sliceValues documents "sst")) ∧
      (Common (sliceValues documents "sd") ↔ Printed (sliceValues documents "sd")) := by
  simp only [sliceChecks, Except.bind_ok_iff] at completed
  rcases completed with ⟨sameSst, sst, sameSd, sd, reported⟩
  cases reported
  rw [check_passes_iff.1 (passes _ List.mem_cons_self)] at sst
  rw [check_passes_iff.1 (passes _ (List.mem_cons_of_mem _ List.mem_cons_self))] at sd
  simp only [validatePolicyAndSliceSelection, Except.bind_ok_iff] at advertised
  rcases advertised with ⟨nssfPresent, -, pcfRequired, -, reported⟩
  cases reported
  have bypass := check_passes_iff.1 (policyPasses _ (List.mem_cons_of_mem _ List.mem_cons_self))
  simp only [Bool.and_eq_true] at bypass
  rcases bypass with ⟨-, ⟨smfSst, smfSd⟩, -⟩
  have given (key : String) : List.Forall₂ Gives
      [.ok (entry (listFirst (entry (listFirst (nestedNames documents.amf ["amf", "plmn_support"]))
        "s_nssai")) key), .ok (entry (listFirst (entry documents.gnb "slices")) key),
        .ok (entry (listFirst (entry documents.ue "configured-nssai")) key), slice.get key]
      (sliceValues documents key).tail :=
    .cons (gives_ok (entry_slice _ _ key)) (.cons (gives_ok (entry_listFirst_entry _ _ key))
      (.cons (gives_ok (entry_listFirst_entry _ _ key)) (.cons (gives_item subscriber key) .nil)))
  rw [entry_slice, entry_slice] at smfSst smfSd
  exact ⟨common_iff_compared (.cons_cons smfSst (isChain_of_chain (given "sst") sst)),
    common_iff_printed (.cons_cons smfSd (isChain_of_chain (given "sd") sd))⟩

theorem credentialCheck_passes {root : Yaml} {name key subscriberKey detail : String}
    {checked : Check} (subscriber : item documents.subscriber "subscriber" = .ok root)
    (completed : credentialCheck documents.ue root name key subscriberKey detail = .ok checked)
    (passes : checked.status ≠ .fail) : Common (credentialValues documents key subscriberKey) ↔
      Printed (credentialValues documents key subscriberKey) := by
  simp only [credentialCheck, Except.bind_ok_iff] at completed
  rcases completed with ⟨value, read, checks⟩
  cases checks
  have same := check_passes_iff.1 passes
  rw [gives_item subscriber subscriberKey value read] at same
  exact common_iff_printed (.cons_cons same (.singleton _))

/-- In a configuration that passes the validation, the identity is complete and common
exactly when no field of it is left out everywhere and no numbers that are equal are
written in two ways. -/
theorem validateRepo_identity (validated : Passes documents) :
    CommonIdentity documents ↔ Anchored documents := by
  rcases validated with ⟨checks, completed, passes⟩
  simp only [validateRepo, Except.bind_ok_iff] at completed
  obtain ⟨required, -, policy, policyRan, startup, -, bsf, -, addresses, -, root, rootRead,
    mcc, mccRan, mnc, mncRan, session, sessionRead, sessions, sessionRan, slice, sliceRead,
    slices, sliceRan, credentials, credentialsRan, runtime, -, reported⟩ := completed
  cases reported
  simp only [credentialChecks, Except.bind_ok_iff] at credentialsRan
  rcases credentialsRan with ⟨supi, -, publicKey, -, key, -, opc, opcRan, amf, amfRan, reported⟩
  cases reported
  have mccIff := plmnCheck_passes rootRead mccRan (passes _ (by simp))
  have mncIff := plmnCheck_passes rootRead mncRan (passes _ (by simp))
  have tacIff := tacCheck_passes (passes (tacCheck documents) (by simp))
  have dnnIff := sessionChecks_passes sessionRead sessionRan
    fun check member => passes check (by simp [member])
  obtain ⟨sstIff, sdIff⟩ := sliceChecks_pass sliceRead policyRan sliceRan
    (fun check member => passes check (by simp [member]))
    (fun check member => passes check (by simp [member]))
  have opcIff := credentialCheck_passes rootRead opcRan (passes _ (by simp))
  have amfIff := credentialCheck_passes rootRead amfRan (passes _ (by simp))
  constructor
  · rintro ⟨mcc, mnc, tac, sst, sd, dnn, opc, authentication⟩
    exact ⟨mccIff.1 mcc, mncIff.1 mnc, tacIff.1 tac, sstIff.1 sst, sdIff.1 sd, dnnIff.1 dnn,
      opcIff.1 opc, amfIff.1 authentication⟩
  · rintro ⟨mcc, mnc, tac, sst, sd, dnn, opc, authentication⟩
    exact ⟨mccIff.2 mcc, mncIff.2 mnc, tacIff.2 tac, sstIff.2 sst, sdIff.2 sd, dnnIff.2 dnn,
      opcIff.2 opc, amfIff.2 authentication⟩

section

omit [Unicode]

/-- A service with its address, and the other fields of the service. -/
def labService (address : String) (fields : List (String × Yaml)) : Yaml :=
  record (("networks", record [("core", record [("ipv4_address", .text address)])]) :: fields)

/-- A network function that logs to the log volume. -/
def labFunction (address : String) (fields : List (String × Yaml)) (volumes : List Yaml)
    (dependencies : List (String × Yaml)) (user : String := "999:999") : Yaml :=
  labService address ([("user", .text user),
    ("volumes", .list (.text "open5gs-logs:/var/log/open5gs" :: volumes)),
    ("depends_on", record (("log-init",
      record [("condition", .text "service_completed_successfully")]) :: dependencies))] ++ fields)

/-- The Compose document, as far as it is validated. -/
def labCompose : Entries := record.entries [
  ("name", .text "lab"),
  ("volumes", record [("open5gs-logs", .null)]),
  ("services", record [
    ("log-init", record [("user", .text "0:0"), ("network_mode", .text "none"),
      ("read_only", .bool true), ("cap_drop", .list [.text "ALL"]),
      ("cap_add", .list [.text "CHOWN", .text "FOWNER", .text "DAC_OVERRIDE"]),
      ("entrypoint", .list [.text "/bin/sh", .text "/lab/prepare-runtime-logs.sh"]),
      ("volumes", .list [.text "open5gs-logs:/var/log/open5gs",
        .text "./scripts/prepare_runtime_logs.sh:/lab/prepare-runtime-logs.sh:ro"])]),
    ("mongodb", labService "10.45.0.10"
      [("environment", .list [.text "GLIBC_TUNABLES=glibc.pthread.rseq=1"])]),
    ("nrf", labFunction "10.45.0.11" [] [] []),
    ("ausf", labFunction "10.45.0.12" [] [] []),
    ("udm", labFunction "10.45.0.13" [] [] []),
    ("udr", labFunction "10.45.0.14"
      [("environment", .list [.text "DB_URI=mongodb://mongodb/open5gs"])] [] []),
    ("pcf", labFunction "10.45.0.15"
      [("environment", .list [.text "DB_URI=mongodb://mongodb/open5gs"])] []
      [("bsf", record [("condition", .text "service_started")])]),
    ("bsf", labFunction "10.45.0.16"
      [("command", .list [.text "open5gs-bsfd", .text "-c",
        .text "/opt/open5gs/etc/open5gs/bsf.yaml"])]
      [.text "./configs/open5gs/bsf.yaml:/opt/open5gs/etc/open5gs/bsf.yaml:ro"] []),
    ("amf", labFunction "10.45.0.20" [] [] []),
    ("smf", labFunction "10.45.0.21" [] [] []),
    ("upf", labFunction "10.45.0.22" [
      ("cap_add", .list [.text "NET_ADMIN"]),
      ("devices", .list [.text "/dev/net/tun:/dev/net/tun"]),
      ("entrypoint", .list [.text "/bin/sh", .text "/lab/upf-entrypoint.sh"]),
      ("sysctls", record [("net.ipv4.ip_forward", .int 1),
        ("net.ipv6.conf.all.disable_ipv6", .int 0),
        ("net.ipv6.conf.default.disable_ipv6", .int 0)]),
      ("environment", .list [.text "IPV4_TUN_ADDR=10.45.1.1/24",
        .text "IPV4_TUN_SUBNET=10.45.1.0/24", .text "IPV6_TUN_ADDR=::1/64",
        .text "ENABLE_NAT=true"])]
      [.text "./scripts/upf-entrypoint.sh:/lab/upf-entrypoint.sh:ro"] [] "0:0"),
    ("gnb", labService "10.45.0.40" []),
    ("ue", labService "10.45.0.41" []),
    ("dn-server", labService "10.45.0.50" [])])]

/-- The documents of the lab, with an MCC or without one. -/
def labDocuments (mcc : List (String × Yaml)) : RepoDocuments where
  compose := labCompose
  amf := record.entries [("amf", record [
    ("ngap", record [("server", .list [record [("address", .text "10.45.0.20")]])]),
    ("guami", .list [record [("plmn_id", record (("mnc", .text "01") :: mcc))]]),
    ("tai", .list [record [("tac", .int 1)]]),
    ("plmn_support", .list [record [("s_nssai",
      .list [record [("sst", .int 1), ("sd", .text "000001")]])]]),
    ("time", record [("t3512", record [("value", .int 540)])])])]
  smf := record.entries [("smf", record [
    ("pfcp", record [("client", record [("upf", .list [record
      [("address", .text "10.45.0.22")]])])]),
    ("session", .list [record [("subnet", .text "10.45.1.0/24"), ("dnn", .text "internet")]]),
    ("info", .list [record [("s_nssai", .list [record [("sst", .int 1), ("sd", .text "000001"),
      ("dnn", .list [.text "internet"])]])]])])]
  upf := record.entries [("upf", record [("session", .list [record
    [("subnet", .text "10.45.1.0/24"), ("gateway", .text "10.45.1.1"),
      ("dnn", .text "internet")]])])]
  nrf := record.entries [("nrf", record [("serving", .list [record
    [("plmn_id", record (("mnc", .text "01") :: mcc))]])])]
  pcf := record.entries [("db_uri", .text "mongodb://mongodb/open5gs"),
    ("pcf", record
      [("sbi", record [("server", .list [record [("address", .text "10.45.0.15")]])])])]
  udr := record.entries [("db_uri", .text "mongodb://mongodb/open5gs")]
  bsf := record.entries [("bsf", record [("sbi", record [
    ("server", .list [record [("address", .text "10.45.0.16"), ("port", .int 7777)]]),
    ("client", record [("nrf", .list [record [("uri", .text "http://10.45.0.11:7777")]])])])])]
  gnb := record.entries ([("mnc", .text "01"), ("tac", .int 1), ("ngapIp", .text "10.45.0.40"),
    ("gtpIp", .text "10.45.0.40"), ("amfConfigs", .list [record [("address", .text "10.45.0.20")]]),
    ("slices", .list [record [("sst", .int 1), ("sd", .text "000001")]])] ++ mcc)
  ue := record.entries ([("supi", .text "imsi-001010000000001"), ("mnc", .text "01"),
    ("key", .text "465B5CE8B199B49FAA5F0A2EE238A6BC"),
    ("op", .text "E8ED289DEBA952E4283B54E88E6183CA"), ("amf", .text "8000"),
    ("sessions", .list [record [("apn", .text "internet")]]),
    ("configured-nssai", .list [record [("sst", .int 1), ("sd", .text "000001")]]),
    ("integrityMaxRate", record [("uplink", .text "full"), ("downlink", .text "full")])] ++ mcc)
  subscriber := record.entries [
    ("subscriber", record ([("supi", .text "imsi-001010000000001"), ("mnc", .text "01"),
      ("key", .text "465B5CE8B199B49FAA5F0A2EE238A6BC"),
      ("opc", .text "E8ED289DEBA952E4283B54E88E6183CA"), ("amf", .text "8000")] ++ mcc)),
    ("slice", record [("sst", .int 1), ("sd", .text "000001")]),
    ("session", record [("dnn", .text "internet"), ("ue_ipv4_pool", .text "10.45.1.0/24")])]

end

/-- A text that every document gives. -/
theorem printed_replicate {text : String} (count : ℕ) :
    Printed (List.replicate count (.text text)) := by
  intro missing
  cases List.eq_of_mem_replicate missing

/-- A number that every document gives. -/
theorem compared_replicate (value : ℤ) (count : ℕ) :
    Compared (List.replicate count (.int value)) := by
  refine ⟨fun missing => ?_, ?_⟩
  · cases List.eq_of_mem_replicate missing
  · intro value valueMem other otherMem _
    rw [List.eq_of_mem_replicate valueMem, List.eq_of_mem_replicate otherMem]

omit [Unicode] in
/-- The configuration of the lab passes, and its identity is complete. -/
theorem validateRepo_identity_lab :
    @CommonIdentity asciiTables (labDocuments [("mcc", .text "001")]) := by
  let := asciiTables
  have mcc : plmnValues (labDocuments [("mcc", .text "001")]) "mcc" =
      List.replicate 5 (.text "001") := rfl
  have mnc : plmnValues (labDocuments [("mcc", .text "001")]) "mnc" =
      List.replicate 5 (.text "01") := rfl
  have tac : tacValues (labDocuments [("mcc", .text "001")]) = List.replicate 2 (.int 1) := rfl
  have sst : sliceValues (labDocuments [("mcc", .text "001")]) "sst" =
      List.replicate 5 (.int 1) := rfl
  have sd : sliceValues (labDocuments [("mcc", .text "001")]) "sd" =
      List.replicate 5 (.text "000001") := rfl
  have dnn : dnnValues (labDocuments [("mcc", .text "001")]) =
      List.replicate 4 (.text "internet") := rfl
  have opc : credentialValues (labDocuments [("mcc", .text "001")]) "op" "opc" =
      List.replicate 2 (.text "E8ED289DEBA952E4283B54E88E6183CA") := rfl
  have amf : credentialValues (labDocuments [("mcc", .text "001")]) "amf" "amf" =
      List.replicate 2 (.text "8000") := rfl
  refine (validateRepo_identity (by decide +kernel)).2 ⟨?_, ?_, ?_, ?_, ?_, ?_, ?_, ?_⟩
  · exact mcc ▸ printed_replicate 5
  · exact mnc ▸ printed_replicate 5
  · exact tac ▸ compared_replicate 1 2
  · exact sst ▸ compared_replicate 1 5
  · exact sd ▸ printed_replicate 5
  · exact dnn ▸ printed_replicate 4
  · exact opc ▸ printed_replicate 2
  · exact amf ▸ printed_replicate 2

omit [Unicode] in
/-- Without an MCC in any document the configuration passes too. -/
theorem validateRepo_mcc_lost :
    ¬ ∀ documents, @Passes asciiTables documents → @CommonIdentity asciiTables documents := by
  let := asciiTables
  intro complete
  have identity := complete (labDocuments []) (by decide +kernel)
  have mcc : plmnValues (labDocuments []) "mcc" = List.replicate 5 .null := rfl
  have present := identity.mcc.present
  rw [mcc] at present
  exact present (by simp)

end FivegLab.Config
