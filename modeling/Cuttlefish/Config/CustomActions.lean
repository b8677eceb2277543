import Mathlib.Data.List.Sort
import Cuttlefish.Foundation.Json
import Cuttlefish.Utils.FlagParser

/-! # Custom actions

`CustomActionConfigImpl` of `host/libs/config/custom_actions.cpp`: what the flags and the config
files say about the actions of each instance. -/

namespace Cuttlefish.Config

open FlagParser Json

structure ControlPanelButton where
  command : Text
  title : Text
  iconName : Text
  deriving DecidableEq

structure DeviceState where
  lidSwitchOpen : Option Bool
  hingeAngleValue : Option Int
  deriving DecidableEq

structure CustomShellActionConfig where
  button : ControlPanelButton
  shellCommand : Text
  deriving DecidableEq

structure CustomActionServerConfig where
  server : Text
  buttons : List ControlPanelButton
  deriving DecidableEq

structure CustomDeviceStateActionConfig where
  button : ControlPanelButton
  deviceStates : List DeviceState
  deriving DecidableEq

structure InstanceActions where
  customShellActions : List CustomShellActionConfig
  customActionServers : List CustomActionServerConfig
  customDeviceStateActions : List CustomDeviceStateActionConfig
  customActionInstanceId : Text
  deriving DecidableEq

/-- The parser of jsoncpp, and what it makes of doubles. -/
structure Jsoncpp where
  parseJson : Text → Option Json
  realToString : UInt64 → Text
  realToInt : UInt64 → Option Int
  realToBool : UInt64 → Bool

/-! ## Reading actions

None is where the library throws. -/

section

variable (jsoncpp : Jsoncpp)

def asString : Json → Option Text
  | .null => some []
  | .bool value => some (if value then "true".toList else "false".toList)
  | .int value => some (Decimal.print value)
  | .real bits => some (jsoncpp.realToString bits)
  | .string value => some value
  | _ => none

def asBool : Json → Option Bool
  | .null => some false
  | .bool value => some value
  | .int value => some (value ≠ 0)
  | .real bits => some (jsoncpp.realToBool bits)
  | _ => none

def asInt : Json → Option Int
  | .null => some 0
  | .bool value => some (if value then 1 else 0)
  | .int value => if Decimal.FitsInt value then some value else none
  | .real bits => jsoncpp.realToInt bits
  | _ => none

def valuesOf : Json → List Json
  | .array elements => elements
  | .object members => members.map (·.2)
  | _ => []

def isMember (members : List (Text × Json)) (name : Text) : Bool := (members.lookup name).isSome

def getButton (buttonEntry : Json) : Option ControlPanelButton := do
  let entry ← buttonEntry.members?
  let command ← asString jsoncpp (member entry "command".toList)
  let title ← asString jsoncpp (member entry "title".toList)
  let iconName ← asString jsoncpp (member entry "icon_name".toList)
  return { command, title, iconName }

def getCustomShellActionConfigFromJson (dictionary : List (Text × Json)) :
    Option CustomShellActionConfig := do
  let button ← getButton jsoncpp (member dictionary "button".toList)
  let shellCommand ← asString jsoncpp (member dictionary "shell_command".toList)
  return { button, shellCommand }

def getCustomActionServerConfigFromJson (dictionary : List (Text × Json)) :
    Option CustomActionServerConfig := do
  let buttons ← (valuesOf (member dictionary "buttons".toList)).mapM (getButton jsoncpp)
  let server ← asString jsoncpp (member dictionary "server".toList)
  return { server, buttons }

def getDeviceState (deviceStateEntry : Json) : Option DeviceState := do
  let entry ← deviceStateEntry.members?
  let lidSwitchOpen ←
    if isMember entry "lid_switch_open".toList then
      (asBool jsoncpp (member entry "lid_switch_open".toList)).map some
    else some none
  let hingeAngleValue ←
    if isMember entry "hinge_angle_value".toList then
      (asInt jsoncpp (member entry "hinge_angle_value".toList)).map some
    else some none
  return { lidSwitchOpen, hingeAngleValue }

def getCustomDeviceStateActionConfigFromJson (dictionary : List (Text × Json)) :
    Option CustomDeviceStateActionConfig := do
  let button ← getButton jsoncpp (member dictionary "button".toList)
  let deviceStates ←
    (valuesOf (member dictionary "device_states".toList)).mapM (getDeviceState jsoncpp)
  return { button, deviceStates }

def getCustomActionInstanceIDFromJson (dictionary : List (Text × Json)) : Option Text :=
  asString jsoncpp (member dictionary "instance_id".toList)

theorem mapM_map {First Second Third : Type} {read : Second → Option Third}
    {write : First → Second} {result : First → Third} {values : List First}
    (reads : ∀ value ∈ values, read (write value) = some (result value)) :
    (values.map write).mapM read = some (values.map result) := by
  induction values with
  | nil => rfl
  | cons value values induction =>
      rw [List.forall_mem_cons] at reads
      rw [List.map_cons, List.mapM_cons, reads.1, induction reads.2]
      rfl

/-! ## Adding actions -/

def InstanceActions.empty (customActionInstanceId : Text) : InstanceActions :=
  ⟨[], [], [], customActionInstanceId⟩

def printSize (size : Nat) : Text := Decimal.print size

def addEmptyJsonCustomActionConfigs (instanceActions : List InstanceActions) :
    List InstanceActions :=
  instanceActions ++ [InstanceActions.empty (printSize instanceActions.length)]

def addActions (instanceActions : List InstanceActions) (instanceAction : InstanceActions) :
    List Json → Option (Bool × List InstanceActions)
  | [] =>
      let named :=
        if instanceAction.customActionInstanceId = "-1".toList then
          { instanceAction with customActionInstanceId := printSize instanceActions.length }
        else instanceAction
      some (true, instanceActions ++ [named])
  | customAction :: customActions => do
      let dictionary ← customAction.members?
      let hasInstanceId := isMember dictionary "instance_id".toList
      let hasShellCommand := isMember dictionary "shell_command".toList
      let hasServer := isMember dictionary "server".toList
      let hasDeviceStates := isMember dictionary "device_states".toList
      if [hasShellCommand, hasServer, hasDeviceStates, hasInstanceId].count true ≠ 1 then
        some (false, instanceActions)
      else if hasShellCommand then
        let config ← getCustomShellActionConfigFromJson jsoncpp dictionary
        addActions instanceActions { instanceAction with
          customShellActions := instanceAction.customShellActions ++ [config] } customActions
      else if hasServer then
        let config ← getCustomActionServerConfigFromJson jsoncpp dictionary
        addActions instanceActions { instanceAction with
          customActionServers := instanceAction.customActionServers ++ [config] } customActions
      else if hasDeviceStates then
        let config ← getCustomDeviceStateActionConfigFromJson jsoncpp dictionary
        addActions instanceActions { instanceAction with
          customDeviceStateActions := instanceAction.customDeviceStateActions ++ [config] }
          customActions
      else
        let config ← getCustomActionInstanceIDFromJson jsoncpp dictionary
        if instanceAction.customActionInstanceId ≠ "-1".toList then
          addActions (instanceActions ++ [instanceAction]) (InstanceActions.empty config)
            customActions
        else
          addActions instanceActions { instanceAction with customActionInstanceId := config }
            customActions

def addJsonCustomActionConfigs (customActionArray : Json)
    (instanceActions : List InstanceActions) : Option (Bool × List InstanceActions) :=
  match customActionArray with
  | .array customActions =>
      addActions jsoncpp instanceActions (InstanceActions.empty "-1".toList) customActions
  | _ => some (false, instanceActions)

/-! ## The flags -/

structure CustomActionConfig where
  customActionConfig : List Text
  instanceActions : List InstanceActions
  deriving DecidableEq

def CustomActionConfig.initial : CustomActionConfig := ⟨[], []⟩

/-- The files that a config can be read from. -/
structure ConfigFiles where
  defaultCustomActionConfig : Text
  contents : Text → Option Text

def isUnset (value : Text) : Bool :=
  value = "unset".toList ∨ value = "\"unset\"".toList

def addJson (message : String) (customActionArray : Json)
    (instanceActions : List InstanceActions) : Result Unit × List InstanceActions :=
  match addJsonCustomActionConfigs jsoncpp customActionArray instanceActions with
  | none => (.error (.abort "exception of the JSON library"), instanceActions)
  | some (false, instanceActions) => (.error (.err message), instanceActions)
  | some (true, instanceActions) => (.ok (), instanceActions)

def customActionConfigFlag (files : ConfigFiles) : Flag CustomActionConfig :=
  gflagsCompatFlag "custom_action_config".toList fun found config =>
    if found.value ≠ [] ∧ isUnset found.value then
      (.ok (), { config with
        customActionConfig := config.customActionConfig ++ [files.defaultCustomActionConfig] })
    else if found.value ≠ [] ∧ files.contents found.value = none then
      (.error (.err ("custom_action_config file " ++ quoted found.value ++ " does not exist.")),
        config)
    else
      (.ok (), { config with customActionConfig := config.customActionConfig ++ [found.value] })

def setCustomActions (found : FlagMatch) (config : CustomActionConfig) :
    Result Unit × CustomActionConfig :=
  if isUnset found.value then
    (.ok (), { config with
      instanceActions := addEmptyJsonCustomActionConfigs config.instanceActions })
  else
    match jsoncpp.parseJson found.value with
    | none => (.error (.err "Could not read custom actions config flag"), config)
    | some customActionArray =>
        let (result, instanceActions) :=
          addJson jsoncpp "AddJsonCustomActionConfigs(custom_action_array)" customActionArray
            config.instanceActions
        (result, { config with instanceActions })

def customActionsFlag : Flag CustomActionConfig :=
  gflagsCompatFlag "custom_actions".toList (setCustomActions jsoncpp)

def addConfigFiles (files : ConfigFiles) :
    List Text → List InstanceActions → Result (List InstanceActions)
  | [], instanceActions => .ok instanceActions
  | config :: configs, instanceActions =>
      if config = [] then
        addConfigFiles files configs (addEmptyJsonCustomActionConfigs instanceActions)
      else
        match files.contents config with
        | none => .error (.err "ReadFileToString(config, &config_contents, true)")
        | some contents =>
            match jsoncpp.parseJson contents with
            | none => .error (.err "ParseJson(config_contents)")
            | some customActionArray =>
                match addJson jsoncpp ("Failed to parse config at " ++ quoted config)
                    customActionArray instanceActions with
                | (.error failure, _) => .error failure
                | (.ok (), instanceActions) => addConfigFiles files configs instanceActions

def process (files : ConfigFiles) (args : List Text) : Result (List InstanceActions) := do
  let parsed := (customActionConfigFlag files).parse args CustomActionConfig.initial
  parsed.status
  let parsed := (customActionsFlag jsoncpp).parse parsed.arguments parsed.value
  parsed.status
  let config := parsed.value
  let configs :=
    if config.customActionConfig = [] then [files.defaultCustomActionConfig]
    else config.customActionConfig
  addConfigFiles jsoncpp files configs config.instanceActions

end

/-! ## Asking for actions -/

def notBehind : Text → Text → Bool
  | [], _ => true
  | _ :: _, [] => false
  | first :: firsts, second :: seconds =>
      first.toNat < second.toNat || (first.toNat = second.toNat && notBehind firsts seconds)

/-- `CuttlefishConfig::Instances`: the ids are names of members. -/
def instances (ids : List Text) : List Text :=
  ids.insertionSort fun first second => notBehind first second

def getInstanceOrder (ids : List Text) (idStr : Text) : Nat :=
  (instances ids).findIdx fun id => id = idStr

def actionsOf (ids : List Text) (instanceActions : List InstanceActions) (idStr : Text) :
    Option InstanceActions :=
  let instanceIndex := if idStr = [] then 0 else getInstanceOrder ids idStr
  instanceActions[if instanceIndex ≥ instanceActions.length then 0 else instanceIndex]?

def customShellActions (ids : List Text) (instanceActions : List InstanceActions) (idStr : Text) :
    List CustomShellActionConfig :=
  ((actionsOf ids instanceActions idStr).map (·.customShellActions)).getD []

def customActionServers (ids : List Text) (instanceActions : List InstanceActions)
    (idStr : Text) : List CustomActionServerConfig :=
  ((actionsOf ids instanceActions idStr).map (·.customActionServers)).getD []

def customDeviceStateActions (ids : List Text) (instanceActions : List InstanceActions)
    (idStr : Text) : List CustomDeviceStateActionConfig :=
  ((actionsOf ids instanceActions idStr).map (·.customDeviceStateActions)).getD []

end Cuttlefish.Config
