import Mathlib.Data.List.Basic

/-! What a first setup can choose (`setup-catalog.ts`), and the actions a choice comes to
(`setup-execution.ts`).

An id that is a text of parts is modelled by its parts.
-/

set_option autoImplicit false

namespace SpaceApp.Setup

inductive SetupFeatureKind where
  | agent | dock | pane | widget | utility
  deriving DecidableEq

structure SetupFeatureId where
  kind : SetupFeatureKind
  rawId : String
  deriving DecidableEq

inductive SetupAvailability where
  | available | installable | unavailable | forbidden
  deriving DecidableEq

inductive SetupCostClass where
  | free | providerBilled | localResources | unknown
  deriving DecidableEq

structure SetupFeature where
  id : SetupFeatureId
  dependencies : List SetupFeatureId := []
  costClass : SetupCostClass := .free
  deriving DecidableEq

def agentFeature (rawId : String) : SetupFeatureId := ⟨.agent, rawId⟩
def opencode : SetupFeatureId := agentFeature "opencode"

def agents : List SetupFeature :=
  ["opencode", "codex", "claude", "gemini", "autohand", "qwen", "kimi", "grok", "deepseek", "cursor", "copilot",
    "hermes", "omp", "qoder", "muse", "droid"].map fun typeId =>
      { id := agentFeature typeId, costClass := if typeId = "opencode" then .free else .unknown }

def workspace : List SetupFeature := [
  { id := ⟨.pane, "chat"⟩, dependencies := [opencode] },
  { id := ⟨.dock, "rooms"⟩ },
  { id := ⟨.dock, "tasks"⟩ },
  { id := ⟨.dock, "agent-files"⟩ },
  { id := ⟨.dock, "settings"⟩ },
  { id := ⟨.pane, "browser"⟩ },
  { id := ⟨.dock, "clipboard"⟩ },
  { id := ⟨.dock, "links"⟩ },
  { id := ⟨.dock, "agent-sessions"⟩ },
  { id := ⟨.widget, "clock"⟩ },
  { id := ⟨.widget, "countdown-timer"⟩ },
  { id := ⟨.dock, "media"⟩ },
  { id := ⟨.pane, "youtube"⟩ },
  { id := ⟨.utility, "snip"⟩ },
  { id := ⟨.pane, "files"⟩ },
  { id := ⟨.pane, "demos"⟩, costClass := .localResources },
  { id := ⟨.dock, "source-control"⟩ },
  { id := ⟨.dock, "cli"⟩ },
  { id := ⟨.utility, "worktrees"⟩, dependencies := [⟨.dock, "source-control"⟩] },
  { id := ⟨.dock, "room-agent"⟩, dependencies := [opencode] },
  { id := ⟨.dock, "shared-chat"⟩ },
  { id := ⟨.dock, "streaming"⟩, costClass := .unknown },
  { id := ⟨.pane, "databases"⟩ },
  { id := ⟨.pane, "vnc"⟩ },
  { id := ⟨.pane, "live"⟩, costClass := .providerBilled },
  { id := ⟨.pane, "harness"⟩ },
  { id := ⟨.widget, "pushup-reminder"⟩ },
  { id := ⟨.widget, "spaceapp-promo"⟩ },
  { id := ⟨.widget, "ai-quota"⟩ },
  { id := ⟨.widget, "streaming-metrics"⟩, dependencies := [⟨.dock, "streaming"⟩] },
  { id := ⟨.utility, "asteroids"⟩ },
  { id := ⟨.utility, "osk"⟩ },
  { id := ⟨.utility, "system-health"⟩ }]

def SETUP_CATALOG : List SetupFeature := agents ++ workspace

structure SetupIssue where
  featureId : SetupFeatureId
  reason : SetupAvailability

structure SetupResolution where
  requestedIds : List SetupFeatureId
  effectiveIds : List SetupFeatureId
  dependencyIds : List SetupFeatureId
  issues : List SetupIssue

structure Visits where
  effective : List SetupFeatureId := []
  issueMap : List (SetupFeatureId × SetupAvailability) := []
  visited : List (SetupFeatureId × Bool) := []

def byId (id : SetupFeatureId) : Option SetupFeature := SETUP_CATALOG.find? fun entry => entry.id = id

/-- `depth` is more than the visits that can be under way at once, each of another entry. -/
def visit (availability : SetupFeatureId → Option SetupAvailability) :
    Nat → List SetupFeatureId → SetupFeatureId → Visits → Except String (Bool × Visits)
  | 0, _, _, _ => .error "Setup dependency cycle"
  | depth + 1, visiting, id, visits =>
    if id ∈ visiting then .error "Setup dependency cycle"
    else
      match visits.visited.lookup id with
      | some previous => .ok (previous, visits)
      | none =>
        match byId id with
        | none => .error "Unknown setup dependency"
        | some entry =>
          match (availability id).getD .unavailable with
          | .unavailable => .ok (false, { visits with
              issueMap := (id, .unavailable) :: visits.issueMap, visited := (id, false) :: visits.visited })
          | .forbidden => .ok (false, { visits with
              issueMap := (id, .forbidden) :: visits.issueMap, visited := (id, false) :: visits.visited })
          | _ => do
            let (ready, visits) ← entry.dependencies.foldlM (fun (ready, visits) dependency => do
              let (found, visits) ← visit availability depth (id :: visiting) dependency visits
              pure (ready && found, visits)) (true, visits)
            pure (ready, { visits with
              effective := if ready then id :: visits.effective else visits.effective
              visited := (id, ready) :: visits.visited })

def resolveSetupSelection (requestedIds : List SetupFeatureId)
    (availability : SetupFeatureId → Option SetupAvailability) : Except String SetupResolution := do
  if requestedIds.any fun id => (byId id).isNone then throw "Unknown setup feature"
  let visits ← SETUP_CATALOG.foldlM (fun visits entry => do
    if entry.id ∈ requestedIds then
      let (_, visits) ← visit availability (SETUP_CATALOG.length + 1) [] entry.id visits
      pure visits
    else pure visits) ({} : Visits)
  let ordered := SETUP_CATALOG.map (·.id)
  pure {
    requestedIds := ordered.filter (· ∈ requestedIds)
    effectiveIds := ordered.filter (· ∈ visits.effective)
    dependencyIds := ordered.filter fun id => id ∈ visits.effective && id ∉ requestedIds
    issues := ordered.filterMap fun id => (visits.issueMap.lookup id).map fun reason => { featureId := id, reason } }

def getSetupDependencyClosure (requestedIds : List SetupFeatureId) : Except String (List SetupFeatureId) := do
  let resolution ← resolveSetupSelection requestedIds fun id => (byId id).map fun _ => .available
  pure resolution.effectiveIds

inductive SetupActionId where
  | prepareOpencode | verifyAgentTask | connectProvider | checkService
  | applySettings | ensureStarterRoom | writeInstallationMemory
  | verifyLiveAudio | verifyDatabase | verifyRemoteDesktop
  | verifyHarness | verifyStreaming | verifyCapture
  deriving DecidableEq

/-- `action:${featureId}:${actionId}`. -/
structure PlanActionId where
  feature : SetupFeatureId
  action : SetupActionId
  deriving DecidableEq

structure SetupPlanAction where
  id : PlanActionId
  featureId : SetupFeatureId
  actionId : SetupActionId
  dependsOn : List PlanActionId
  deriving DecidableEq

def actionFor (featureId : SetupFeatureId) : SetupActionId :=
  if featureId = ⟨.pane, "live"⟩ then .verifyLiveAudio
  else if featureId = ⟨.pane, "databases"⟩ then .verifyDatabase
  else if featureId = ⟨.pane, "vnc"⟩ then .verifyRemoteDesktop
  else if featureId = ⟨.pane, "harness"⟩ then .verifyHarness
  else if featureId = ⟨.dock, "streaming"⟩ ∨ featureId = ⟨.widget, "streaming-metrics"⟩ then .verifyStreaming
  else if featureId = ⟨.utility, "snip"⟩ then .verifyCapture
  else if featureId.kind = .agent ∨ featureId = ⟨.pane, "chat"⟩ ∨ featureId = ⟨.dock, "room-agent"⟩ then .verifyAgentTask
  else .checkService

def finalActionId (featureId : SetupFeatureId) : PlanActionId := ⟨featureId, actionFor featureId⟩

def prepareOpencodeId : PlanActionId := ⟨opencode, .prepareOpencode⟩
def applySettingsId : PlanActionId := ⟨⟨.dock, "settings"⟩, .applySettings⟩
def ensureStarterRoomId : PlanActionId := ⟨⟨.dock, "rooms"⟩, .ensureStarterRoom⟩
def writeInstallationMemoryId : PlanActionId := ⟨opencode, .writeInstallationMemory⟩

def SetupPlanAction.of (id : PlanActionId) (dependsOn : List PlanActionId) : SetupPlanAction :=
  { id, featureId := id.feature, actionId := id.action, dependsOn }

def checksOf (effectiveIds : List SetupFeatureId) (feature : SetupFeature) : List SetupPlanAction :=
  let dependsOn := (feature.dependencies.filter (· ∈ effectiveIds)).map finalActionId
  if feature.id = opencode then
    [.of prepareOpencodeId [], .of (finalActionId feature.id) (dependsOn ++ [prepareOpencodeId])]
  else [.of (finalActionId feature.id) dependsOn]

def buildActions (effectiveIds : List SetupFeatureId) : List SetupPlanAction :=
  let entries := SETUP_CATALOG.filter fun feature => feature.id ∈ effectiveIds
  let actions := entries.flatMap (checksOf effectiveIds)
  actions ++ [
    .of applySettingsId (actions.map (·.id)),
    .of ensureStarterRoomId [applySettingsId],
    .of writeInstallationMemoryId [ensureStarterRoomId]]

def installationActions (action : SetupActionId) : Bool :=
  action = .prepareOpencode || action = .connectProvider || action = .applySettings || action = .ensureStarterRoom ||
    action = .writeInstallationMemory

inductive HumanInputKind where
  | providerLogin | apiCredential | microphone | osPermission | resourceDecision
  deriving DecidableEq

structure SetupHumanInput where
  featureId : SetupFeatureId
  kind : HumanInputKind
  reasonCode : String
  deriving DecidableEq

def entriesWithHumanInputs : List SetupHumanInput :=
  (SETUP_CATALOG.filter fun feature => feature.id.kind = .agent && feature.id ≠ opencode).map (fun feature =>
    { featureId := feature.id, kind := .providerLogin, reasonCode := "AGENT_CONNECTION_REQUIRED" }) ++ [
    { featureId := ⟨.pane, "live"⟩, kind := .apiCredential, reasonCode := "LIVE_PROVIDER_REQUIRED" },
    { featureId := ⟨.pane, "databases"⟩, kind := .apiCredential, reasonCode := "DATABASE_CONNECTION_REQUIRED" },
    { featureId := ⟨.pane, "vnc"⟩, kind := .providerLogin, reasonCode := "REMOTE_DESKTOP_REQUIRED" },
    { featureId := ⟨.pane, "harness"⟩, kind := .providerLogin, reasonCode := "HARNESS_CONNECTION_REQUIRED" },
    { featureId := ⟨.dock, "streaming"⟩, kind := .apiCredential, reasonCode := "STREAMING_DESTINATION_REQUIRED" },
    { featureId := ⟨.utility, "snip"⟩, kind := .osPermission, reasonCode := "CAPTURE_PERMISSION_REQUIRED" }]

end SpaceApp.Setup
