import Cuttlefish.Confui.Message
import Cuttlefish.Foundation.Substrings
import Cuttlefish.RunCvd.BootStateMachine

/-! # The kernel log monitor

`KernelLogServer` puts lines together from what it reads, looks for the messages of the stages in
them and calls the subscribers. -/

namespace Cuttlefish.KernelLogMonitor

open Confui (ascii)
open RunCvd (Event)

inductive EventFormat
  | bare
  | keyValuePair
  | withPrefix
  deriving DecidableEq

structure Stage where
  stage : Bytes
  event : Event
  format : EventFormat

def stageTable : List Stage :=
  [⟨ascii "VIRTUAL_DEVICE_BOOT_STARTED", .bootStarted, .bare⟩,
    ⟨ascii "VIRTUAL_DEVICE_BOOT_PENDING", .bootPending, .withPrefix⟩,
    ⟨ascii "VIRTUAL_DEVICE_BOOT_COMPLETED", .bootCompleted, .bare⟩,
    ⟨ascii "VIRTUAL_DEVICE_BOOT_FAILED", .bootFailed, .withPrefix⟩,
    ⟨ascii "VIRTUAL_DEVICE_NETWORK_MOBILE_CONNECTED", .mobileNetworkConnected, .bare⟩,
    ⟨ascii "VIRTUAL_DEVICE_NETWORK_WIFI_CONNECTED", .wifiNetworkConnected, .bare⟩,
    ⟨ascii "VIRTUAL_DEVICE_NETWORK_ETHERNET_CONNECTED", .ethernetNetworkConnected, .bare⟩,
    ⟨ascii "init: starting service 'adbd'...", .adbdStarted, .bare⟩,
    ⟨ascii "init: starting service 'fastbootd'...", .fastbootStarted, .bare⟩,
    ⟨ascii "Listening for fastboot command on tcp", .fastbootStarted, .bare⟩,
    ⟨ascii "Started Fastboot over TCP", .fastbootStarted, .bare⟩,
    ⟨ascii "VIRTUAL_DEVICE_SCREEN_CHANGED", .screenChanged, .keyValuePair⟩,
    ⟨ascii "U-Boot 20", .bootloaderLoaded, .bare⟩,
    ⟨ascii "] Linux version", .kernelLoaded, .bare⟩,
    ⟨ascii "VIRTUAL_DEVICE_DISPLAY_POWER_MODE_CHANGED", .displayPowerModeChanged, .keyValuePair⟩,
    ⟨ascii "PM: hibernation: hibernation exit", .hibernationExited, .bare⟩,
    ⟨ascii "PM: hibernation: hibernation exit", .adbdStarted, .bare⟩]

def lineFeed : UInt8 := 10

/-! ## Messages -/

abbrev Metadata := List (Bytes × Bytes)

structure Message where
  event : Event
  metadata : Metadata
  deriving DecidableEq

def setMember (key value : Bytes) : Metadata → Metadata
  | [] => [(key, value)]
  | (other, old) :: rest =>
      if other = key then (other, value) :: rest else (other, old) :: setMember key value rest

def isSpace (byte : UInt8) : Bool := byte = 32 || (9 ≤ byte && byte ≤ 13)

def trim (field : Bytes) : Bytes :=
  ((field.dropWhile isSpace).reverse.dropWhile isSpace).reverse

def addField (metadata : Metadata) (field : Bytes) : Metadata :=
  match (trim field).splitOn 61 with
  | [key, value] => setMember key value metadata
  | _ => metadata

def keyValues (text : Bytes) : Metadata := (text.splitOn 32).foldl addField []

/-- The message of a stage that is found at a position of the line. -/
def Stage.message (stage : Stage) (line : Bytes) (pos : Nat) : Message where
  event := stage.event
  metadata :=
    if stage.format = .keyValuePair then keyValues (line.drop (pos + stage.stage.length)) else []

/-! ## Subscribers -/

inductive SubscriptionAction
  | continueSubscription
  | cancelSubscription
  deriving DecidableEq

structure Delivery (Subscriber : Type) where
  message : Message
  calls : List (Subscriber × SubscriptionAction)

abbrev EventCallback (Subscriber Shared : Type) :=
  Subscriber → Message → Shared → SubscriptionAction × Shared

def swap {Element : Type} (elements : List Element) (first second : Nat) : List Element :=
  match elements[first]?, elements[second]? with
  | some atFirst, some atSecond => (elements.set first atSecond).set second atFirst
  | _, _ => elements

variable {Subscriber Shared : Type}

/-- The loop of `ProcessSubscriptions` with the number of active subscriptions that are still to
be called; `idx` of them have continued. -/
def processFrom (callback : EventCallback Subscriber Shared) (message : Message) (idx : Nat) :
    (remaining : Nat) → List Subscriber → Shared →
      List (Subscriber × SubscriptionAction) × List Subscriber × Shared
  | 0, subscribers, shared => ([], subscribers.take idx, shared)
  | remaining + 1, subscribers, shared =>
      match subscribers[idx]? with
      | none => ([], subscribers, shared)
      | some subscriber =>
          let (action, shared) := callback subscriber message shared
          let (calls, kept, shared) :=
            match action with
            | .continueSubscription =>
                processFrom callback message (idx + 1) remaining subscribers shared
            | .cancelSubscription =>
                processFrom callback message idx remaining
                  (swap subscribers idx (idx + remaining)) shared
          ((subscriber, action) :: calls, kept, shared)

/-! ## The server -/

structure KernelLogServer (Subscriber Shared : Type) where
  line : Bytes
  subscribers : List Subscriber
  shared : Shared
  logFile : Bytes
  deliveries : List (Delivery Subscriber)

namespace KernelLogServer

variable (callback : EventCallback Subscriber Shared) (server : KernelLogServer Subscriber Shared)

def processSubscriptions (message : Message) : KernelLogServer Subscriber Shared :=
  let (calls, subscribers, shared) :=
    processFrom callback message 0 server.subscribers.length server.subscribers server.shared
  { server with
    subscribers, shared, deliveries := server.deliveries ++ [⟨message, calls⟩] }

def detectStage (stage : Stage) : KernelLogServer Subscriber Shared :=
  match Substrings.position stage.stage server.line with
  | none => server
  | some pos => server.processSubscriptions callback (stage.message server.line pos)

def detectStages : KernelLogServer Subscriber Shared :=
  stageTable.foldl (detectStage callback) server

def handleByte (byte : UInt8) : KernelLogServer Subscriber Shared :=
  let server :=
    if byte = lineFeed then { server.detectStages callback with line := [] } else server
  { server with line := server.line ++ [byte] }

structure LogRead where
  bytes : Bytes
  nonempty : bytes ≠ []
  fits : bytes.length ≤ 256
  written : Option Nat

inductive ReadOutcome
  | failed
  | ended
  | read (read : LogRead)

def handleIncomingMessage : ReadOutcome → Bool × KernelLogServer Subscriber Shared
  | .failed | .ended => (false, server)
  | .read read =>
      match read.written with
      | none => (false, server)
      | some count =>
          (true, read.bytes.foldl (handleByte callback)
            { server with logFile := server.logFile ++ read.bytes.take count })

def handleIncomingMessages (outcomes : List ReadOutcome) : KernelLogServer Subscriber Shared :=
  outcomes.foldl (fun server outcome => (server.handleIncomingMessage callback outcome).2) server

def subscribeToEvents (subscriber : Subscriber) : KernelLogServer Subscriber Shared :=
  { server with subscribers := server.subscribers ++ [subscriber] }

end KernelLogServer

end Cuttlefish.KernelLogMonitor
