import FivegLab.Config.Compose

/-!
# Validating the repository

`validate_repo` over the configuration documents of the repository: the checks it
reports, or the exception of the first document that has another shape than the
validation expects.
-/

namespace FivegLab.Config

open Yaml

/-- The configuration documents that the validation loads. -/
structure RepoDocuments where
  compose : Entries
  amf : Entries
  smf : Entries
  upf : Entries
  nrf : Entries
  pcf : Entries
  udr : Entries
  bsf : Entries
  gnb : Entries
  ue : Entries
  subscriber : Entries

def requiredNfs : List String :=
  ["mongodb", "nrf", "ausf", "udm", "udr", "pcf", "bsf", "amf", "smf", "upf", "gnb", "ue",
    "dn-server"]

def labDbUri : String := "mongodb://mongodb/open5gs"

def gprsTimer3MaxValue : ℤ := 31

variable [Unicode]

/-- `first == second == ...`: nothing is evaluated after the first difference. -/
def chain {α : Type} (same : α → α → Bool) : List (Except Raised α) → Except Raised Bool
  | first :: second :: rest => do
      let value ← first
      let next ← second
      if same value next then chain same (second :: rest) else return false
  | _ => return true

/-- `str(first) == str(second)`. -/
def samePrinted (first second : Yaml) : Bool := first.printed = second.printed

def validatePolicyAndSliceSelection (compose amf smf pcf : Entries) :
    Except Raised (List Check) := do
  let services := (lookup "services" compose).getD (.mapping [])
  let server := listFirst (nestedNames pcf ["pcf", "sbi", "server"])
  let amfSlice := listFirst (entry (listFirst (nestedNames amf ["amf", "plmn_support"])) "s_nssai")
  let smfSlice := listFirst (entry (listFirst (nestedNames smf ["smf", "info"])) "s_nssai")
  let smfDnns := (lookup "dnn" smfSlice).getD (.list [])
  let sessionDnn := entry (listFirst (nestedNames smf ["smf", "session"])) "dnn"
  let nssfPresent ← services.contains "nssf"
  let advertises := equal (entry smfSlice "sst") (entry amfSlice "sst") &&
    samePrinted (entry smfSlice "sd") (entry amfSlice "sd") &&
    match smfDnns with
    | .list dnns => dnns.any (equal sessionDnn)
    | _ => false
  let pcfRequired ← conjunction [
    services.contains "pcf",
    .ok (some (entry server "address").printed = serviceIp compose "pcf"),
    .ok ((entry pcf "db_uri").printed = labDbUri)]
  return [
    check "open5gs_2_8_pcf_required_mode" pcfRequired
      "Open5GS 2.8.0 PCF must be present, use the Compose SBI IP, and use lab MongoDB",
    check "open5gs_2_8_nssf_bypass_mode" (!nssfPresent && advertises)
      ("NSSF is intentionally omitted only while SMF advertises the matching " ++
        "S-NSSAI/DNN to NRF")]

/-- The units in which the AMF encodes a timer. -/
def timerUnits : List ℤ := [2, 30, 60, 600, 3600, 36000, 1152000]

def timerOk : Yaml → Bool
  | .int timer => timerUnits.any fun unit =>
      timer % unit = 0 && 1 ≤ timer / unit && timer / unit ≤ gprsTimer3MaxValue
  | _ => false

/-- The database checks of one network function. -/
def validateDbUri (compose : Entries) (name : String) (config : Entries) :
    Except Raised (List Check) := do
  let environment := composeEnvironment (nestedNames compose ["services", name, "environment"])
  let ok ← conjunction [
    .ok (isText (entry config "db_uri") labDbUri),
    do
      let nestedUri ← (nestedNames config [name]).orEmpty.contains "db_uri"
      return !nestedUri]
  return [
    check ("open5gs_2_8_" ++ name ++ "_db_uri") ok
      (Text.upper name ++ " requires root-level db_uri=" ++ labDbUri ++ "; " ++ name ++
        ".db_uri is not a supported key."),
    check ("open5gs_2_8_" ++ name ++ "_db_environment")
      (isText (entry environment "DB_URI") labDbUri)
      ("Compose " ++ name ++ ".environment.DB_URI must explicitly target lab MongoDB; " ++
        "Open5GS gives DB_URI precedence over YAML and the pinned image " ++
        "inherits mongodb://mongo/open5gs.")]

def validateStartupContract (compose amf pcf udr : Entries) : Except Raised (List Check) := do
  let timer := check "open5gs_2_8_amf_t3512"
    (timerOk (nestedNames amf ["amf", "time", "t3512", "value"]))
    ("AMF requires a positive integer amf.time.t3512.value in seconds that " ++
      "Open5GS 2.8.0 can encode as GPRS Timer 3 (upstream default: 540).")
  let pcfChecks ← validateDbUri compose "pcf" pcf
  let udrChecks ← validateDbUri compose "udr" udr
  return timer :: (pcfChecks ++ udrChecks)

/-- `re.fullmatch(r"[0-9a-fA-F]{64}", key)`. -/
def isPublicKey : Yaml → Bool
  | .text key => key.toList.length = 64 && key.toList.all IpAddress.isHexDigit
  | _ => false

/-- A rate is one of the two that the UE knows. -/
def rateKnown (ue : Entries) (direction : String) : Bool :=
  let rate := nestedNames ue ["integrityMaxRate", direction]
  isText rate "full" || isText rate "64kbps"

def validateUeStartupContract (ue : Entries) : List Check :=
  [check "ueransim_3_3_home_network_public_key" ((lookup "homeNetworkPublicKey" ue).all isPublicKey)
    ("UERANSIM 3.3.0 requires exactly 64 hexadecimal homeNetworkPublicKey " ++
      "characters when present, including with protectionScheme=0."),
  check "ueransim_3_3_integrity_max_rate" (rateKnown ue "uplink" && rateKnown ue "downlink")
    ("UERANSIM 3.3.0 requires integrityMaxRate.uplink and .downlink; " ++
      "each must be full or 64kbps.")]

/-- `sorted(set(names))`: texts by their order, numbers by their value. -/
def sortedNames (names : List Yaml) : Except Raised (List Yaml) :=
  match texts? names with
  | some texts => .ok ((texts.dedup.insertionSort (· ≤ ·)).map .text)
  | none =>
      if names.all fun name => names.all (equal name) then .ok (names.take 1)
      else if names.all fun name => name.number.isSome then
        .ok (names.insertionSort fun first second =>
          first.number.getD 0 ≤ second.number.getD 0)
      else .error ⟨.typeError, "'<' not supported between instances of names"⟩

/-- The addresses of one service. -/
def serviceAddresses : Yaml → List String
  | .mapping service =>
      match (lookup "networks" service).getD (.mapping []) with
      | .mapping networks => networks.filterMap fun network =>
          match network.2 with
          | .mapping config => (lookup "ipv4_address" config).map printed
          | _ => none
      | _ => []
  | _ => []

def collectStaticIps : Yaml → Except Raised (List String)
  | .mapping services => .ok (services.flatMap fun service => serviceAddresses service.2)
  | value => .error ⟨.attributeError, "'" ++ value.typeName ++ "' object has no attribute 'values'"⟩

def validateIps (values : List String) : List Check :=
  match values.filter fun value => !IpAddress.valid value with
  | [] => [⟨"valid_ip_addresses", .pass, "all static IP addresses parse"⟩]
  | invalid => invalid.map fun value => ⟨"valid_ip_addresses", .fail, "invalid=" ++ value⟩

def requiredNetworkFunctions (services : Yaml) : Except Raised Check := do
  let names ← services.elements
  let sorted ← sortedNames names
  return check "required_network_functions"
    (requiredNfs.all fun name => names.any (equal (.text name)))
    ("services=" ++ (Yaml.list sorted).printed)

def addressChecks (services : Yaml) : Except Raised (List Check) := do
  let addresses ← collectStaticIps services
  return check "unique_static_container_ips" addresses.Nodup (reprTexts addresses) ::
    validateIps addresses

/-- `list_first(value).get("plmn_id", {})`. -/
def plmnOf (value : Yaml) : Yaml := (lookup "plmn_id" (listFirst value)).getD (.mapping [])

/-- A number of the network, in the order in which the documents are compared. -/
def plmnCheck (documents : RepoDocuments) (subscriberRoot : Yaml) (name key detail : String) :
    Except Raised Check := do
  let same ← chain samePrinted [
    (plmnOf (nestedNames documents.amf ["amf", "guami"])).get key,
    .ok (entry documents.gnb key),
    .ok (entry documents.ue key),
    subscriberRoot.get key,
    (plmnOf (nestedNames documents.nrf ["nrf", "serving"])).get key]
  return check name same detail

def tacCheck (documents : RepoDocuments) : Check :=
  check "tac_consistent"
    (equal (nested (.mapping documents.amf) [.name "amf", .name "tai", .index 0, .name "tac"])
      (entry documents.gnb "tac"))
    "AMF TAI TAC must match gNB TAC"

def ngapChecks (documents : RepoDocuments) : List Check :=
  let amfNgap := (entry (listFirst (nestedNames documents.amf ["amf", "ngap", "server"]))
    "address").printed
  let gnbAmf := (entry (listFirst (entry documents.gnb "amfConfigs")) "address").printed
  let ngapIp := (entry documents.gnb "ngapIp").printed
  let gtpIp := (entry documents.gnb "gtpIp").printed
  [check "amf_ngap_ip_matches_compose" (some amfNgap = serviceIp documents.compose "amf") amfNgap,
    check "gnb_points_to_amf_ngap" (gnbAmf = amfNgap) gnbAmf,
    check "gnb_ngap_ip_matches_compose" (some ngapIp = serviceIp documents.compose "gnb") ngapIp,
    check "gnb_gtp_ip_matches_compose" (some gtpIp = serviceIp documents.compose "gnb") gtpIp]

def sessionChecks (documents : RepoDocuments) (subscriberSession : Yaml) :
    Except Raised (List Check) := do
  let smfSession := listFirst (nestedNames documents.smf ["smf", "session"])
  let upfSession := listFirst (nestedNames documents.upf ["upf", "session"])
  let ueSession := listFirst (entry documents.ue "sessions")
  let sameDnn ← chain samePrinted [
    .ok (entry smfSession "dnn"),
    .ok (entry upfSession "dnn"),
    subscriberSession.get "dnn",
    .ok (entry ueSession "apn")]
  let samePool ← chain samePrinted [
    .ok (entry smfSession "subnet"),
    .ok (entry upfSession "subnet"),
    subscriberSession.get "ue_ipv4_pool"]
  let pfcp := listFirst (nestedNames documents.smf ["smf", "pfcp", "client", "upf"])
  return [
    check "dnn_consistent" sameDnn "DNN/APN must match SMF, UPF, subscriber, and UE",
    check "ue_ipv4_pool_consistent" samePool "SMF/UPF/subscriber UE pool must match",
    check "smf_upf_pfcp_ip_consistent"
      (some (entry pfcp "address").printed = serviceIp documents.compose "upf")
      "SMF N4 client must target UPF PFCP IP"]

def sliceChecks (documents : RepoDocuments) (subscriberSlice : Yaml) :
    Except Raised (List Check) := do
  let amfSlice :=
    listFirst (entry (listFirst (nestedNames documents.amf ["amf", "plmn_support"])) "s_nssai")
  let gnbSlice := listFirst (entry documents.gnb "slices")
  let ueSlice := listFirst (entry documents.ue "configured-nssai")
  let sameSst ← chain equal [
    .ok (entry amfSlice "sst"),
    .ok (entry gnbSlice "sst"),
    .ok (entry ueSlice "sst"),
    subscriberSlice.get "sst"]
  let sameSd ← chain samePrinted [
    .ok (entry amfSlice "sd"),
    .ok (entry gnbSlice "sd"),
    .ok (entry ueSlice "sd"),
    subscriberSlice.get "sd"]
  return [
    check "sst_consistent" sameSst "SST must match AMF, gNB, UE, and subscriber",
    check "sd_consistent" sameSd "SD must match AMF, gNB, UE, and subscriber"]

/-- `^head[...]{count}$`, which lets a line end follow. -/
def isLineOf (head : List Char) (member : Char → Bool) (count : ℕ) (text : String) : Bool :=
  let line := if text.toList.getLast? = some '\n' then text.toList.dropLast else text.toList
  let rest := line.drop head.length
  head <+: line && rest.length = count && rest.all member

/-- One field of the UE must be printed as one field of the subscriber. -/
def credentialCheck (ue : Entries) (subscriberRoot : Yaml)
    (name key subscriberKey detail : String) :
    Except Raised Check := do
  let value ← subscriberRoot.get subscriberKey
  return check name (samePrinted (entry ue key) value) detail

def credentialChecks (ue : Entries) (subscriberRoot : Yaml) : Except Raised (List Check) := do
  let supi := (entry ue "supi").printed
  let sameSupi ← credentialCheck ue subscriberRoot "supi_matches_subscriber" "supi" "supi"
    "UE SUPI must match subscriber"
  let key ← subscriberRoot.get "key"
  let sameKey ← credentialCheck ue subscriberRoot "ue_key_matches_subscriber" "key" "key"
    "UE K must match subscriber"
  let sameOpc ← credentialCheck ue subscriberRoot "ue_opc_matches_subscriber" "op" "opc"
    "UE OPc must match subscriber"
  let sameAmf ← credentialCheck ue subscriberRoot "ue_amf_matches_subscriber" "amf" "amf"
    "UE AMF auth field must match subscriber"
  return [
    check "supi_format"
      (isLineOf "imsi-".toList (fun c => (Unicode.decimal c).isSome) 15 supi) supi,
    sameSupi,
    check "subscriber_key_format" (isLineOf [] IpAddress.isHexDigit 32 key.printed)
      "subscriber K must be 16-byte hex",
    sameKey, sameOpc, sameAmf]

/-- An image without a version. -/
def isFloating (image : String) : Bool := Text.EndsWith image ":latest" || image = "latest"

def validateImageDefaults (compose : Entries) : List Check :=
  let images := [entry compose "x-open5gs-image", entry compose "x-ueransim-image",
    nestedNames compose ["services", "mongodb", "image"],
    nestedNames compose ["services", "open5gs-dbctl", "image"],
    nestedNames compose ["services", "dn-server", "image"]].map printed
  let floating := images.filter isFloating
  check "critical_images_not_latest" floating.isEmpty ("floating=" ++ reprTexts floating) ::
    if Text.Contains (" ".intercalate images) "$\x7b" then
      [warning "image_overrides_supported"
        "Images can be overridden by environment variables; defaults remain pinned."]
    else []

def validateRepo (documents : RepoDocuments) : Except Raised (List Check) := do
  let services := (lookup "services" documents.compose).getD (.mapping [])
  let required ← requiredNetworkFunctions services
  let policy ← validatePolicyAndSliceSelection documents.compose documents.amf documents.smf
    documents.pcf
  let startup ← validateStartupContract documents.compose documents.amf documents.pcf documents.udr
  let bsf ← validateBsfContract documents.compose documents.bsf
  let addresses ← addressChecks services
  let subscriberRoot ← item documents.subscriber "subscriber"
  let mcc ← plmnCheck documents subscriberRoot "mcc_consistent" "mcc"
    "MCC must match NRF, AMF, gNB, UE, and subscriber"
  let mnc ← plmnCheck documents subscriberRoot "mnc_consistent" "mnc"
    "MNC must match NRF, AMF, gNB, UE, and subscriber"
  let subscriberSession ← item documents.subscriber "session"
  let session ← sessionChecks documents subscriberSession
  let subscriberSlice ← item documents.subscriber "slice"
  let slice ← sliceChecks documents subscriberSlice
  let credentials ← credentialChecks documents.ue subscriberRoot
  let runtime ← validateContainerRuntimeContract documents.compose
  return required :: (policy ++ startup ++ validateUeStartupContract documents.ue ++ bsf ++
    addresses ++ [mcc, mnc, tacCheck documents] ++ ngapChecks documents ++ session ++ slice ++
    credentials ++ validateImageDefaults documents.compose ++ runtime ++
    validateUpfAddressAlignment documents.compose documents.upf)

end FivegLab.Config
