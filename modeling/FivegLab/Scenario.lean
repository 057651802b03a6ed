import Mathlib.Data.List.Basic

/-!
# Scenarios

A scenario as `parse_scenario` builds it: the checks it makes before it returns
one are fields of the record.
-/

namespace FivegLab

/-- The fault of a scenario. -/
structure FaultSpec where
  type : String
  target : Option String
  value : Option String
  deriving DecidableEq, Repr

def faultTypes : List String :=
  ["none", "subscriber_key_mismatch", "unknown_subscriber", "dnn_mismatch", "snssai_mismatch",
    "restart_service", "stop_service", "n2_impairment", "n3_impairment"]

def taxonomy : List String :=
  ["CONFIGURATION", "AUTHENTICATION", "SUBSCRIBER", "SESSION_MANAGEMENT", "CONTROL_PLANE",
    "USER_PLANE", "TRANSPORT", "SERVICE_COMPONENT", "RECOVERY", "ENVIRONMENT", "UNKNOWN"]

/-- The names of the events that the log parser can recognise. -/
def allEventNames : List String :=
  ["ng_setup", "registration_request", "authentication_failure", "authentication",
    "security_mode", "registration_reject", "registration_accept", "pdu_session_request",
    "pdu_session_reject", "pdu_session_accept", "pfcp_association", "pfcp_session_establishment",
    "pfcp_session_failure", "ue_tunnel_created", "user_plane_success", "user_plane_failure",
    "component_recovery", "component_failure", "error", "unclassified_relevant"]

def maxTimeoutSeconds : ℕ := 1800

structure Scenario where
  id : String
  title : String
  category : String
  description : String
  preconditions : List String
  fault : FaultSpec
  expectedControlPlane : String
  expectedUserPlane : String
  expectedEvents : List String
  forbiddenEvents : List String
  recoveryAction : String
  recoveryExpectation : String
  timeoutSeconds : ℕ
  runtimeValidated : Bool
  fault_known : fault.type ∈ faultTypes
  timeout_bounds : 0 < timeoutSeconds ∧ timeoutSeconds ≤ maxTimeoutSeconds
  category_known : category ∈ taxonomy
  events_known : ∀ event ∈ expectedEvents ++ forbiddenEvents, event ∈ allEventNames

/-- `scenarios/baseline_e2e.yaml`. -/
def baselineE2e : Scenario where
  id := "baseline_e2e"
  title := "Healthy registration, PDU session, and DN traffic"
  category := "USER_PLANE"
  description := "Validate the healthy one-UE baseline before any failure scenario is interpreted."
  preconditions := ["Linux preflight passes.", "Configuration validator passes.",
    "Subscriber is provisioned in Open5GS DB."]
  fault := ⟨"none", none, none⟩
  expectedControlPlane :=
    "NG setup, registration, authentication, security mode, and PDU session complete."
  expectedUserPlane := "UE tunnel exists and interface-bound traffic reaches the DN test server."
  expectedEvents := ["ng_setup", "registration_request", "authentication", "security_mode",
    "registration_accept", "pdu_session_request", "pdu_session_accept", "ue_tunnel_created",
    "user_plane_success"]
  forbiddenEvents := ["authentication_failure", "registration_reject", "pdu_session_reject",
    "user_plane_failure"]
  recoveryAction := "none"
  recoveryExpectation := "Baseline must remain healthy; no recovery action is expected."
  timeoutSeconds := 300
  runtimeValidated := true
  fault_known := by decide
  timeout_bounds := by decide
  category_known := by decide
  events_known := by decide

/-- `scenarios/n3_impairment.yaml`. -/
def n3Impairment : Scenario where
  id := "n3_impairment"
  title := "N3 GTP-U impairment"
  category := "TRANSPORT"
  description :=
    "Drop only gNB egress UDP traffic to the UPF on GTP-U port 2152 with a tagged tc filter."
  preconditions := ["baseline_e2e has passed in the same runtime environment.",
    "tc flower and clsact are available inside the target container."]
  fault := ⟨"n3_impairment", some "gnb", some "eth0"⟩
  expectedControlPlane := "Registration/control plane may remain healthy."
  expectedUserPlane := "UE tunnel traffic degrades or fails while impairment is active."
  expectedEvents := ["user_plane_failure"]
  forbiddenEvents := []
  recoveryAction := "Remove the exact UDP/2152 tc filter, remove clsact only if this run " ++
    "created it, and rerun baseline assertions."
  recoveryExpectation := "Full baseline control-plane, session, tunnel, and user-plane state " ++
    "must pass after impairment is removed."
  timeoutSeconds := 420
  runtimeValidated := false
  fault_known := by decide
  timeout_bounds := by decide
  category_known := by decide
  events_known := by decide

end FivegLab
