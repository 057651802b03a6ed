import FivegLab.Config.Agreement
import FivegLab.Regex

/-!
# The formats of the credentials

Which texts the checks of the SUPI, of the subscriber's key and of the public key
of the home network accept.
-/

namespace FivegLab.Config

open Yaml

/-- The text is a head and a number of further characters of a kind. -/
def Formatted (head : List Char) (member : Char → Bool) (count : ℕ) (text : List Char) : Prop :=
  ∃ body, text = head ++ body ∧ body.length = count ∧ ∀ c ∈ body, member c

/-- `head[...]{count}`. -/
def formatRegex (head : List Char) (member : Char → Bool) (count : ℕ) : Regex :=
  .sequence (.literal (· = ·) head) (.repeated member count)

section

variable {head : List Char} {member : Char → Bool} {count : ℕ}

theorem matches_literal_eq_iff {before : Option Char} {taken rest : List Char} :
    (Regex.literal (· = ·) head).Matches before taken rest ↔ taken = head := by
  induction head generalizing before taken with
  | nil => exact Regex.matches_nothing_iff
  | cons c head ih =>
      simp only [Regex.literal, Regex.matches_sequence_iff, Regex.matches_one_iff, ih,
        decide_eq_true_eq]
      constructor
      · rintro ⟨_, _, rfl, ⟨_, rfl, rfl⟩, rfl⟩
        rfl
      · rintro rfl
        exact ⟨[c], head, rfl, ⟨c, rfl, rfl⟩, rfl⟩

theorem matches_formatRegex_iff {before : Option Char} {taken rest : List Char} :
    (formatRegex head member count).Matches before taken rest ↔
      Formatted head member count taken := by
  simp only [formatRegex, Regex.matches_sequence_iff, matches_literal_eq_iff,
    Regex.matches_repeated_iff]
  constructor
  · rintro ⟨_, body, rfl, rfl, length, members⟩
    exact ⟨body, rfl, length, members⟩
  · rintro ⟨body, rfl, length, members⟩
    exact ⟨head, body, rfl, rfl, length, members⟩

/-- No line end is part of a text of such a form. -/
theorem Formatted.not_mem {text : List Char} (formatted : Formatted head member count text)
    {c : Char} (absent : c ∉ head) (foreign : member c = false) : c ∉ text := by
  rcases formatted with ⟨body, rfl, _, members⟩
  rw [List.mem_append, not_or]
  refine ⟨absent, fun present => ?_⟩
  rw [members c present] at foreign
  cases foreign

/-- `$` also matches in front of a line end that ends the text. -/
theorem isLineOf_iff_formatted {text : String} (absent : '\n' ∉ head)
    (foreign : member '\n' = false) :
    isLineOf head member count text = true ↔
      Formatted head member count text.toList ∨
        ∃ line, text.toList = line ++ ['\n'] ∧ Formatted head member count line := by
  have whole : ∀ line : List Char,
      (decide (head <+: line) && decide ((line.drop head.length).length = count) &&
        (line.drop head.length).all member) = true ↔ Formatted head member count line := by
    intro line
    simp only [Bool.and_eq_true, decide_eq_true_eq, List.all_eq_true]
    constructor
    · rintro ⟨⟨⟨body, rfl⟩, length⟩, members⟩
      rw [List.drop_left] at length members
      exact ⟨body, rfl, length, members⟩
    · rintro ⟨body, rfl, length, members⟩
      rw [List.drop_left]
      exact ⟨⟨List.prefix_append _ _, length⟩, members⟩
  rw [isLineOf]
  split
  case isTrue ended =>
    rcases List.getLast?_eq_some_iff.mp ended with ⟨line, split⟩
    rw [split, List.dropLast_concat, whole]
    constructor
    · intro formatted
      exact .inr ⟨line, rfl, formatted⟩
    · rintro (formatted | ⟨line', same, formatted⟩)
      · exact absurd (by simp) (formatted.not_mem absent foreign)
      · rwa [List.append_cancel_right same]
  case isFalse notEnded =>
    rw [whole]
    constructor
    · exact .inl
    · rintro (formatted | ⟨line, same, _⟩)
      · exact formatted
      · rw [same, List.getLast?_concat] at notEnded
        exact absurd rfl notEnded

/-- The check is that of `re.match` with the anchored expression. -/
theorem isLineOf_iff_matches {text : String} (absent : '\n' ∉ head)
    (foreign : member '\n' = false) :
    isLineOf head member count text = true ↔ ∃ taken rest, text.toList = taken ++ rest ∧
      (formatRegex head member count).Matches none taken rest ∧ (rest = [] ∨ rest = ['\n']) := by
  rw [isLineOf_iff_formatted absent foreign]
  simp only [matches_formatRegex_iff]
  constructor
  · rintro (formatted | ⟨line, split, formatted⟩)
    · exact ⟨_, [], (List.append_nil _).symm, formatted, .inl rfl⟩
    · exact ⟨line, _, split, formatted, .inr rfl⟩
  · rintro ⟨taken, _, split, formatted, rfl | rfl⟩
    · rw [List.append_nil] at split
      exact .inl (split ▸ formatted)
    · exact .inr ⟨taken, split, formatted⟩

end

/-- `imsi-` and 15 ASCII digits. -/
def IsSupi (text : String) : Prop := Formatted "imsi-".toList IpAddress.isDigit 15 text.toList

/-- 16 bytes in hexadecimal digits. -/
def IsSubscriberKey (text : String) : Prop := Formatted [] IpAddress.isHexDigit 32 text.toList

/-- A text of 64 hexadecimal digits. -/
def IsHomeNetworkKey (key : Yaml) : Prop :=
  ∃ text, key = .text text ∧ Formatted [] IpAddress.isHexDigit 64 text.toList

theorem isPublicKey_iff {key : Yaml} : isPublicKey key = true ↔ IsHomeNetworkKey key := by
  cases key with
  | text text =>
      simp only [isPublicKey, IsHomeNetworkKey, Formatted, Bool.and_eq_true, decide_eq_true_eq,
        List.all_eq_true, List.nil_append]
      constructor
      · rintro ⟨length, members⟩
        exact ⟨text, rfl, _, rfl, length, members⟩
      · rintro ⟨_, ⟨⟩, _, rfl, length, members⟩
        exact ⟨length, members⟩
  | _ =>
      refine iff_of_false Bool.false_ne_true ?_
      rintro ⟨_, ⟨⟩, _⟩

/-- A text that is read as a SUPI and is none: a line end follows it, or one of its
digits is none of ASCII. -/
def MisreadSupi [Unicode] (text : String) : Prop :=
  ∃ digits ending, text.toList = "imsi-".toList ++ digits ++ ending ∧ digits.length = 15 ∧
    (∀ c ∈ digits, (Unicode.decimal c).isSome) ∧
    (ending = ['\n'] ∨ ending = [] ∧ ∃ c ∈ digits, IpAddress.isDigit c = false)

/-- A key that a line end follows. -/
def MisreadKey (text : String) : Prop :=
  ∃ digits, text.toList = digits ++ ['\n'] ∧ digits.length = 32 ∧
    ∀ c ∈ digits, IpAddress.isHexDigit c

/-- The decimal digits of ASCII are the ten that there are. -/
def KnowsAscii (tables : Unicode) : Prop :=
  ∀ c, c.toNat < 0x80 → (tables.decimal c).isSome = IpAddress.isDigit c

theorem isAscii_of_isDigit {c : Char} (digit : IpAddress.isDigit c = true) : c.toNat < 0x80 := by
  simp only [IpAddress.isDigit, Bool.and_eq_true, decide_eq_true_eq, Char.le_def,
    UInt32.le_iff_toNat_le] at digit
  have upper : c.toNat ≤ 57 := digit.2
  omega

/-- A check that accepts the good texts and the misread ones is exact where nothing is
misread. -/
theorem exact_iff_not_misread {accepts good misread : Prop} (splits : accepts ↔ good ∨ misread)
    (exclusive : good → ¬misread) : (accepts ↔ good) ↔ ¬misread := by
  constructor
  · intro exactly found
    exact exclusive (exactly.mp (splits.mpr (.inr found))) found
  · intro absent
    rw [splits, or_iff_left absent]

section

variable [tables : Unicode] {text : String}

theorem supi_accepted_iff (known : KnowsAscii tables) :
    isLineOf "imsi-".toList (fun c => (Unicode.decimal c).isSome) 15 text = true ↔
      IsSupi text ∨ MisreadSupi text := by
  have lineEnd : (Unicode.decimal '\n').isSome = false := known '\n' (by decide)
  have decimals : ∀ c, IpAddress.isDigit c = true → (Unicode.decimal c).isSome = true := by
    intro c digit
    rw [known c (isAscii_of_isDigit digit), digit]
  rw [isLineOf_iff_formatted (by decide) lineEnd]
  constructor
  · rintro (⟨digits, split, length, members⟩ | ⟨_, split, digits, rfl, length, members⟩)
    · by_cases ascii : ∀ c ∈ digits, IpAddress.isDigit c = true
      · exact .inl ⟨digits, split, length, ascii⟩
      · push Not at ascii
        rcases ascii with ⟨c, member, other⟩
        refine .inr ⟨digits,
          [], by rw [split, List.append_nil], length, members, .inr ⟨rfl, c, member, ?_⟩⟩
        simpa using other
    · exact .inr ⟨digits, _, split, length, members, .inl rfl⟩
  · rintro (⟨digits, split, length, ascii⟩ | ⟨digits, _, split, length, members, rfl | ⟨rfl, _⟩⟩)
    · exact .inl ⟨digits, split, length, fun c member => decimals c (ascii c member)⟩
    · exact .inr ⟨_, split, digits, rfl, length, members⟩
    · exact .inl ⟨digits, by rw [split, List.append_nil], length, members⟩

theorem IsSupi.not_misread (supi : IsSupi text) : ¬MisreadSupi text := by
  rcases supi with ⟨digits, split, length, ascii⟩
  rintro ⟨others, ending, split', length', _, rfl | ⟨rfl, c, member, other⟩⟩
  · rw [split, List.append_assoc, List.append_cancel_left_eq] at split'
    have longer := congrArg List.length split'
    rw [List.length_append, length, length'] at longer
    simp at longer
  · rw [split, List.append_nil, List.append_cancel_left_eq] at split'
    rw [← split'] at member
    rw [ascii c member] at other
    cases other

omit tables in
theorem key_accepted_iff :
    isLineOf [] IpAddress.isHexDigit 32 text = true ↔ IsSubscriberKey text ∨ MisreadKey text := by
  rw [isLineOf_iff_formatted List.not_mem_nil (by decide)]
  refine or_congr_right ⟨?_, ?_⟩
  · rintro ⟨line, split, digits, same, length, members⟩
    rw [List.nil_append] at same
    exact ⟨line, split, same ▸ length, same ▸ members⟩
  · rintro ⟨digits, split, length, members⟩
    exact ⟨digits, split, digits, rfl, length, members⟩

omit tables in
theorem IsSubscriberKey.not_misread (key : IsSubscriberKey text) : ¬MisreadKey text := by
  rcases key with ⟨digits, split, length, _⟩
  rintro ⟨others, split', length', _⟩
  rw [split, List.nil_append] at split'
  have longer := congrArg List.length split'
  rw [List.length_append, length, length'] at longer
  simp at longer

end

/-- The statuses that are reported under a name. -/
def reported (checks : List Check) (name : String) : List CheckStatus :=
  (checks.filter (·.name = name)).map Check.status

/-- The check with a name passes: there is one, and no other. -/
def CheckPasses (checks : List Check) (name : String) : Prop := reported checks name = [.pass]

def formatChecks : List String :=
  ["supi_format", "subscriber_key_format", "ueransim_3_3_home_network_public_key"]

/-- None of the checks is one of a format. -/
def Foreign (checks : List Check) : Prop := ∀ check ∈ checks, check.name ∉ formatChecks

theorem reported_append (first rest : List Check) (name : String) :
    reported (first ++ rest) name = reported first name ++ reported rest name := by
  rw [reported, List.filter_append, List.map_append]
  rfl

theorem Foreign.reported_eq_nil {checks : List Check} (foreign : Foreign checks) {name : String}
    (known : name ∈ formatChecks) : reported checks name = [] := by
  rw [reported, List.filter_eq_nil_iff.mpr, List.map_nil]
  intro check member same
  rw [decide_eq_true_eq] at same
  exact foreign check member (same ▸ known)

@[simp]
theorem check_name (name : String) (ok : Bool) (detail : String) :
    (check name ok detail).name = name :=
  rfl

theorem check_status_eq_pass_iff {name detail : String} {ok : Bool} :
    (check name ok detail).status = .pass ↔ ok = true := by
  cases ok <;> simp [check]

theorem Foreign.append {first rest : List Check} (foreign : Foreign first) (more : Foreign rest) :
    Foreign (first ++ rest) := by
  intro check member
  rcases List.mem_append.mp member with early | late
  · exact foreign check early
  · exact more check late

variable [tables : Unicode] {documents : RepoDocuments} {checks : List Check}

theorem foreign_policy {compose amf smf pcf : Entries}
    (completed : validatePolicyAndSliceSelection compose amf smf pcf = .ok checks) :
    Foreign checks := by
  simp only [validatePolicyAndSliceSelection, Except.bind_ok_iff] at completed
  rcases completed with ⟨_, -, _, -, ⟨⟩⟩
  simp [Foreign, formatChecks]

omit tables in
theorem foreign_dbUri {compose config : Entries} {name : String}
    (completed : validateDbUri compose name config = .ok checks)
    (known : name = "pcf" ∨ name = "udr") : Foreign checks := by
  simp only [validateDbUri, Except.bind_ok_iff] at completed
  rcases completed with ⟨_, -, ⟨⟩⟩
  rcases known with rfl | rfl
  · simp [Foreign, formatChecks]
  · simp [Foreign, formatChecks]

omit tables in
theorem foreign_startup {compose amf pcf udr : Entries}
    (completed : validateStartupContract compose amf pcf udr = .ok checks) : Foreign checks := by
  simp only [validateStartupContract, Except.bind_ok_iff] at completed
  rcases completed with ⟨_, pcfRan, _, udrRan, ⟨⟩⟩
  have timer : Foreign [check "open5gs_2_8_amf_t3512"
      (timerOk (nestedNames amf ["amf", "time", "t3512", "value"]))
      ("AMF requires a positive integer amf.time.t3512.value in seconds that " ++
        "Open5GS 2.8.0 can encode as GPRS Timer 3 (upstream default: 540).")] := by
    simp [Foreign, formatChecks]
  exact timer.append ((foreign_dbUri pcfRan (.inl rfl)).append (foreign_dbUri udrRan (.inr rfl)))

theorem foreign_bsf {compose bsf : Entries}
    (completed : validateBsfContract compose bsf = .ok checks) : Foreign checks := by
  simp only [validateBsfContract, Except.bind_ok_iff] at completed
  rcases completed with ⟨_, -, ⟨⟩⟩
  simp [Foreign, formatChecks]

theorem foreign_addresses {services : Yaml} (completed : addressChecks services = .ok checks) :
    Foreign checks := by
  simp only [addressChecks, Except.bind_ok_iff] at completed
  rcases completed with ⟨addresses, -, ⟨⟩⟩
  rw [Foreign, List.forall_mem_cons]
  refine ⟨by simp [formatChecks], ?_⟩
  rw [validateIps]
  split
  · simp [formatChecks]
  · intro check member
    rcases List.mem_map.mp member with ⟨_, _, rfl⟩
    simp [formatChecks]

theorem foreign_session {session : Yaml}
    (completed : sessionChecks documents session = .ok checks) :
    Foreign checks := by
  simp only [sessionChecks, Except.bind_ok_iff] at completed
  rcases completed with ⟨_, -, _, -, ⟨⟩⟩
  simp [Foreign, formatChecks]

theorem foreign_slice {slice : Yaml} (completed : sliceChecks documents slice = .ok checks) :
    Foreign checks := by
  simp only [sliceChecks, Except.bind_ok_iff] at completed
  rcases completed with ⟨_, -, _, -, ⟨⟩⟩
  simp [Foreign, formatChecks]

omit tables in
theorem runtimeLogs_name {compose : Entries} {names : List String}
    (completed : names.mapM (runtimeLogs compose) = .ok checks) :
    ∀ check ∈ checks, ∃ name ∈ names, check.name = name ++ "_runtime_logs" := by
  induction names generalizing checks with
  | nil =>
      cases completed
      simp
  | cons name names ih =>
      simp only [List.mapM_cons, Except.bind_ok_iff] at completed
      rcases completed with ⟨first, firstRan, rest, restRan, ⟨⟩⟩
      simp only [runtimeLogs, Except.bind_ok_iff] at firstRan
      rcases firstRan with ⟨_, -, ⟨⟩⟩
      rw [List.forall_mem_cons]
      refine ⟨⟨name, List.mem_cons_self, rfl⟩, fun check member => ?_⟩
      rcases ih restRan check member with ⟨other, known, named⟩
      exact ⟨other, List.mem_cons_of_mem _ known, named⟩

theorem foreign_logging {compose : Entries}
    (completed : validateLoggingContract compose = .ok checks) : Foreign checks := by
  simp only [validateLoggingContract, Except.bind_ok_iff] at completed
  rcases completed with ⟨initializer, initializerRan, logs, logsRan, ⟨⟩⟩
  simp only [runtimeLogInitializer, Except.bind_ok_iff] at initializerRan
  rcases initializerRan with ⟨_, -, ⟨⟩⟩
  rw [Foreign, List.forall_mem_cons]
  refine ⟨by simp [formatChecks], fun check member => ?_⟩
  rcases runtimeLogs_name logsRan check member with ⟨name, known, named⟩
  have foreign : ∀ name ∈ "log-init" :: open5gsNfs, name ++ "_runtime_logs" ∉ formatChecks := by
    decide
  rw [named]
  exact foreign name known

theorem foreign_runtime {compose : Entries}
    (completed : validateContainerRuntimeContract compose = .ok checks) : Foreign checks := by
  simp only [validateContainerRuntimeContract, Except.bind_ok_iff] at completed
  rcases completed with ⟨logging, loggingRan, bootstrap, bootstrapRan, ⟨⟩⟩
  simp only [validateUpfBootstrapContract, Except.bind_ok_iff] at bootstrapRan
  rcases bootstrapRan with ⟨_, -, ⟨⟩⟩
  refine Foreign.append (Foreign.append ?_ (foreign_logging loggingRan)) ?_
  · simp [Foreign, formatChecks]
  · simp [Foreign, formatChecks]

theorem foreign_required {services : Yaml} {required : Check}
    (completed : requiredNetworkFunctions services = .ok required) : Foreign [required] := by
  simp only [requiredNetworkFunctions, Except.bind_ok_iff] at completed
  rcases completed with ⟨_, -, _, -, ⟨⟩⟩
  simp [Foreign, formatChecks]

theorem foreign_identity {root : Yaml} {mcc mnc : Check}
    (mccRan : plmnCheck documents root "mcc_consistent" "mcc"
      "MCC must match NRF, AMF, gNB, UE, and subscriber" = .ok mcc)
    (mncRan : plmnCheck documents root "mnc_consistent" "mnc"
      "MNC must match NRF, AMF, gNB, UE, and subscriber" = .ok mnc) :
    Foreign [mcc, mnc, tacCheck documents] := by
  simp only [plmnCheck, Except.bind_ok_iff] at mccRan mncRan
  rcases mccRan with ⟨_, -, ⟨⟩⟩
  rcases mncRan with ⟨_, -, ⟨⟩⟩
  simp [Foreign, formatChecks, tacCheck]

theorem foreign_ngap : Foreign (ngapChecks documents) := by
  simp [Foreign, formatChecks, ngapChecks]

theorem foreign_images {compose : Entries} : Foreign (validateImageDefaults compose) := by
  rw [validateImageDefaults, Foreign, List.forall_mem_cons]
  refine ⟨by simp [formatChecks], ?_⟩
  split
  · simp [formatChecks, warning]
  · simp

theorem foreign_alignment {compose upf : Entries} :
    Foreign (validateUpfAddressAlignment compose upf) := by
  simp [Foreign, formatChecks, validateUpfAddressAlignment]

/-- Only the start-up contract of the UE and the credentials have checks of formats. -/
theorem validateRepo_reported (completed : validateRepo documents = .ok checks) :
    ∃ root credentials, item documents.subscriber "subscriber" = .ok root ∧
      credentialChecks documents.ue root = .ok credentials ∧ ∀ name ∈ formatChecks,
        reported checks name =
          reported (validateUeStartupContract documents.ue) name ++ reported credentials name := by
  simp only [validateRepo, Except.bind_ok_iff] at completed
  obtain ⟨required, requiredRan, policy, policyRan, startup, startupRan, bsf, bsfRan, addresses,
    addressesRan, root, rootRead, mcc, mccRan, mnc, mncRan, session, -, sessions,
      sessionRan, slice, -,
    slices, sliceRan, credentials, credentialsRan, runtime, runtimeRan, ⟨⟩⟩ := completed
  refine ⟨root, credentials, rootRead, credentialsRan, fun name known => ?_⟩
  rw [← List.singleton_append]
  simp only [reported_append, (foreign_required requiredRan).reported_eq_nil known,
    (foreign_policy policyRan).reported_eq_nil known,
    (foreign_startup startupRan).reported_eq_nil known, (foreign_bsf bsfRan).reported_eq_nil known,
    (foreign_addresses addressesRan).reported_eq_nil known,
    (foreign_identity mccRan mncRan).reported_eq_nil known, foreign_ngap.reported_eq_nil known,
    (foreign_session sessionRan).reported_eq_nil known,
    (foreign_slice sliceRan).reported_eq_nil known, foreign_images.reported_eq_nil known,
    (foreign_runtime runtimeRan).reported_eq_nil known, foreign_alignment.reported_eq_nil known,
    List.nil_append, List.append_nil]

/-- The key of the subscriber. -/
def subscriberKey (documents : RepoDocuments) : Yaml :=
  nested (.mapping documents.subscriber) [.name "subscriber", .name "key"]

/-- Each check of a format passes exactly for the texts that it names. -/
structure FormatsExact (documents : RepoDocuments) (checks : List Check) : Prop where
  supi : CheckPasses checks "supi_format" ↔ IsSupi (entry documents.ue "supi").printed
  key : CheckPasses checks "subscriber_key_format" ↔
    IsSubscriberKey (subscriberKey documents).printed
  publicKey : ∀ key, lookup "homeNetworkPublicKey" documents.ue = some key →
    (CheckPasses checks "ueransim_3_3_home_network_public_key" ↔ IsHomeNetworkKey key)

/-- What the checks of the formats accept. -/
theorem validateRepo_formats (completed : validateRepo documents = .ok checks) :
    (CheckPasses checks "supi_format" ↔ isLineOf "imsi-".toList
      (fun c => (Unicode.decimal c).isSome) 15 (entry documents.ue "supi").printed = true) ∧
    (CheckPasses checks "subscriber_key_format" ↔
      isLineOf [] IpAddress.isHexDigit 32 (subscriberKey documents).printed = true) ∧
    ∀ key, lookup "homeNetworkPublicKey" documents.ue = some key →
      (CheckPasses checks "ueransim_3_3_home_network_public_key" ↔ isPublicKey key = true) := by
  rcases validateRepo_reported completed with ⟨root, credentials, rootRead, credentialsRan, sorted⟩
  simp only [credentialChecks, credentialCheck, Except.bind_ok_iff] at credentialsRan
  rcases credentialsRan with
    ⟨_, ⟨_, -, ⟨⟩⟩, key, keyRead, _, ⟨_, -, ⟨⟩⟩, _, ⟨_, -, ⟨⟩⟩, _, ⟨_, -, ⟨⟩⟩, ⟨⟩⟩
  rw [gives_item rootRead "key" key keyRead] at sorted
  refine ⟨?_, ?_, fun publicKey found => ?_⟩
  · rw [CheckPasses, sorted _ (by decide)]
    simp [reported, validateUeStartupContract, check_status_eq_pass_iff]
  · rw [CheckPasses, sorted _ (by decide)]
    simp [reported, validateUeStartupContract, check_status_eq_pass_iff, subscriberKey]
  · rw [CheckPasses, sorted _ (by decide)]
    simp [reported, validateUeStartupContract, check_status_eq_pass_iff, found]

/-- In a repository whose validation completes, the checks of the formats are exact
unless the SUPI or the key is misread. -/
theorem formatsExact_iff (known : KnowsAscii tables)
    (completed : validateRepo documents = .ok checks) :
    FormatsExact documents checks ↔
      ¬MisreadSupi (entry documents.ue "supi").printed ∧
      ¬MisreadKey (subscriberKey documents).printed := by
  rcases validateRepo_formats completed with ⟨supi, key, publicKey⟩
  have supiIff := exact_iff_not_misread
    (@supi_accepted_iff tables (entry documents.ue "supi").printed known) IsSupi.not_misread
  have keyIff := exact_iff_not_misread (@key_accepted_iff (subscriberKey documents).printed)
    IsSubscriberKey.not_misread
  rw [← supiIff, ← keyIff, ← supi, ← key]
  constructor
  · rintro ⟨supiExact, keyExact, _⟩
    exact ⟨supiExact, keyExact⟩
  · rintro ⟨supiExact, keyExact⟩
    exact ⟨supiExact, keyExact, fun value found => (publicKey value found).trans isPublicKey_iff⟩

omit tables in
theorem knowsAscii_asciiTables : KnowsAscii asciiTables := by
  intro c _
  change (if '0' ≤ c ∧ c ≤ '9' then some (c.toNat - 48) else none).isSome = _
  rw [IpAddress.isDigit, ← Bool.decide_and]
  split
  case isTrue digit => exact (decide_eq_true digit).symm
  case isFalse other => exact (decide_eq_false other).symm

omit tables in
/-- The formats of the lab's configuration. -/
theorem formatsExact_iff_lab :
    ∃ checks, @validateRepo asciiTables (labDocuments [("mcc", .text "001")]) = .ok checks ∧
      @FormatsExact asciiTables (labDocuments [("mcc", .text "001")]) checks := by
  let := asciiTables
  have passes : Passes (labDocuments [("mcc", .text "001")]) := by decide +kernel
  rcases passes with ⟨checks, completed, _⟩
  have digits : "001010000000001".toList.all IpAddress.isDigit = true := by decide +kernel
  have hexDigits : "465B5CE8B199B49FAA5F0A2EE238A6BC".toList.all IpAddress.isHexDigit = true := by
    decide +kernel
  have supi : IsSupi (entry (labDocuments [("mcc", .text "001")]).ue "supi").printed :=
    ⟨"001010000000001".toList, by decide +kernel, rfl, List.all_eq_true.mp digits⟩
  have key : IsSubscriberKey (subscriberKey (labDocuments [("mcc", .text "001")])).printed :=
    ⟨"465B5CE8B199B49FAA5F0A2EE238A6BC".toList, by decide +kernel, rfl,
      List.all_eq_true.mp hexDigits⟩
  exact ⟨checks, completed, (formatsExact_iff knowsAscii_asciiTables completed).mpr
    ⟨supi.not_misread, key.not_misread⟩⟩

/-- The configuration of the lab, with the subscriber's key in a block of its own, which
ends with the end of its line. -/
def blockDocuments : RepoDocuments :=
  { labDocuments [("mcc", .text "001")] with
    subscriber := record.entries [
      ("subscriber", record [("supi", .text "imsi-001010000000001"), ("mcc", .text "001"),
        ("mnc", .text "01"), ("key", .text "465B5CE8B199B49FAA5F0A2EE238A6BC\n"),
        ("opc", .text "E8ED289DEBA952E4283B54E88E6183CA"), ("amf", .text "8000")]),
      ("slice", record [("sst", .int 1), ("sd", .text "000001")]),
      ("session", record [("dnn", .text "internet"), ("ue_ipv4_pool", .text "10.45.1.0/24")])] }

omit tables in
/-- A key that a line end follows passes. -/
theorem not_formatsExact_block :
    ¬∀ (_ : Unicode) documents checks, validateRepo documents = .ok checks →
      FormatsExact documents checks := by
  intro exactly
  let := asciiTables
  have completes : (validateRepo blockDocuments).toOption.isSome = true := by decide +kernel
  cases completed : validateRepo blockDocuments with
  | error error =>
      rw [completed] at completes
      cases completes
  | ok checks =>
      have key := (exactly asciiTables blockDocuments checks completed).key
      have accepted :
          isLineOf [] IpAddress.isHexDigit 32 (subscriberKey blockDocuments).printed = true := by
        decide +kernel
      rcases key.mp ((validateRepo_formats completed).2.1.mpr accepted) with ⟨body, same, length, _⟩
      rw [List.nil_append] at same
      rw [← same] at length
      exact absurd length (by decide +kernel)

end FivegLab.Config
