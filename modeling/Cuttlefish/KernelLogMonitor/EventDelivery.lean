import Cuttlefish.KernelLogMonitor.KernelLogServer
import Mathlib.Data.List.Basic

/-! # Delivery of kernel log events -/

namespace Cuttlefish.KernelLogMonitor

open Confui (ascii)

variable {Subscriber Shared : Type}

/-! ## Subscriptions -/

def continuing (calls : List (Subscriber × SubscriptionAction)) : List Subscriber :=
  (calls.filter fun call => call.2 = .continueSubscription).map (·.1)

theorem mem_continuing {subscriber : Subscriber}
    {calls : List (Subscriber × SubscriptionAction)} :
    subscriber ∈ continuing calls ↔ (subscriber, .continueSubscription) ∈ calls := by
  constructor
  · intro member
    rcases List.mem_map.mp member with ⟨⟨other, action⟩, isCall, rfl⟩
    rcases List.mem_filter.mp isCall with ⟨isIn, isAction⟩
    obtain rfl : action = .continueSubscription := of_decide_eq_true isAction
    exact isIn
  · intro isIn
    exact List.mem_map.mpr ⟨_, List.mem_filter.mpr ⟨isIn, by simp⟩, rfl⟩

theorem nodup_continuing {calls : List (Subscriber × SubscriptionAction)}
    (distinct : (calls.map (·.1)).Nodup) : (continuing calls).Nodup :=
  distinct.sublist (List.filter_sublist.map _)

theorem swap_last {Element : Type} (kept middle cancelled : List Element) (first last : Element) :
    swap (kept ++ first :: (middle ++ last :: cancelled)) kept.length
        (kept.length + (middle.length + 1)) =
      kept ++ last :: (middle ++ first :: cancelled) := by
  have atFirst : (kept ++ first :: (middle ++ last :: cancelled))[kept.length]? = some first := by
    rw [List.getElem?_append_right (Nat.le_refl _), Nat.sub_self, List.getElem?_cons_zero]
  have atLast : (kept ++ first :: (middle ++ last :: cancelled))[kept.length + (middle.length + 1)]?
      = some last := by
    rw [List.getElem?_append_right (Nat.le_add_right _ _), Nat.add_sub_cancel_left,
      List.getElem?_cons_succ, List.getElem?_append_right (Nat.le_refl _), Nat.sub_self,
      List.getElem?_cons_zero]
  rw [swap, atFirst, atLast]
  dsimp only
  rw [List.set_append_right _ _ (Nat.le_refl _), Nat.sub_self, List.set_cons_zero,
    List.set_append_right _ _ (Nat.le_add_right _ _), Nat.add_sub_cancel_left, List.set_cons_succ,
    List.set_append_right _ _ (Nat.le_refl _), Nat.sub_self, List.set_cons_zero]

theorem swap_self {Element : Type} (elements : List Element) (index : Nat) :
    swap elements index index = elements := by
  cases found : elements[index]? with
  | none => rw [swap, found]
  | some element =>
      rcases List.getElem?_eq_some_iff.mp found with ⟨inside, same⟩
      rw [swap, found]
      dsimp only
      rw [List.set_set, ← same, List.set_getElem_self]

theorem processFrom_spec (callback : EventCallback Subscriber Shared) (message : Message)
    (remaining : Nat) (kept pending cancelled : List Subscriber) (shared : Shared)
    (isRemaining : pending.length = remaining) :
    ∃ calls final, processFrom callback message kept.length remaining
        (kept ++ (pending ++ cancelled)) shared = (calls, kept ++ continuing calls, final) ∧
      (calls.map (·.1)).Perm pending := by
  induction remaining generalizing kept pending cancelled shared with
  | zero =>
      rcases List.eq_nil_of_length_eq_zero isRemaining with rfl
      refine ⟨[], shared, ?_, .nil⟩
      rw [processFrom, List.take_left]
      simp [continuing]
  | succ remaining induction =>
      rcases List.exists_cons_of_length_eq_add_one isRemaining with ⟨first, rest, rfl⟩
      have isRest : rest.length = remaining := Nat.succ.inj isRemaining
      have atFirst : (kept ++ (first :: rest ++ cancelled))[kept.length]? = some first := by
        rw [List.getElem?_append_right (Nat.le_refl _), Nat.sub_self]
        rfl
      rw [processFrom, atFirst]
      dsimp only
      rcases called : callback first message shared with ⟨action, between⟩
      cases action with
      | continueSubscription =>
          rcases induction (kept ++ [first]) rest cancelled between isRest with
            ⟨calls, final, isRun, permuted⟩
          have placed : kept ++ (first :: rest ++ cancelled) =
              kept ++ [first] ++ (rest ++ cancelled) := by simp
          rw [List.length_append, List.length_singleton] at isRun
          refine ⟨(first, .continueSubscription) :: calls, final, ?_, permuted.cons first⟩
          dsimp only
          rw [placed, isRun]
          simp [continuing]
      | cancelSubscription =>
          have swapped : ∃ others, others.Perm rest ∧ others.length = remaining ∧
              swap (kept ++ (first :: rest ++ cancelled)) kept.length (kept.length + remaining) =
                kept ++ (others ++ (first :: cancelled)) := by
            rcases List.eq_nil_or_concat' rest with rfl | ⟨middle, last, rfl⟩
            · obtain rfl : remaining = 0 := isRest.symm
              exact ⟨[], .nil, rfl, swap_self _ _⟩
            · have isMiddle : remaining = middle.length + 1 := by
                rw [← isRest, List.length_append, List.length_singleton]
              refine ⟨last :: middle, (List.perm_append_singleton last middle).symm,
                isMiddle.symm, ?_⟩
              have placed : kept ++ (first :: (middle ++ [last]) ++ cancelled) =
                  kept ++ first :: (middle ++ last :: cancelled) := by simp
              rw [isMiddle, placed]
              exact swap_last kept middle cancelled first last
          rcases swapped with ⟨others, permutedOthers, isOthers, isSwapped⟩
          rcases induction kept others (first :: cancelled) between isOthers with
            ⟨calls, final, isRun, permuted⟩
          refine ⟨(first, .cancelSubscription) :: calls, final, ?_,
            (permuted.trans permutedOthers).cons first⟩
          dsimp only
          rw [isSwapped, isRun]
          simp [continuing]

inductive Served : List Subscriber → List (Delivery Subscriber) → List Subscriber → Prop
  | done {subscribers : List Subscriber} : Served subscribers [] subscribers
  | deliver {subscribers final : List Subscriber} {delivery : Delivery Subscriber}
      {deliveries : List (Delivery Subscriber)}
      (called : (delivery.calls.map (·.1)).Perm subscribers)
      (rest : Served (continuing delivery.calls) deliveries final) :
      Served subscribers (delivery :: deliveries) final

theorem Served.trans {subscribers between final : List Subscriber}
    {first second : List (Delivery Subscriber)} (served : Served subscribers first between)
    (later : Served between second final) : Served subscribers (first ++ second) final := by
  induction served with
  | done => exact later
  | deliver called _ induction => exact .deliver called (induction later)

def Delivery.callsOf [DecidableEq Subscriber] (delivery : Delivery Subscriber)
    (subscriber : Subscriber) : List SubscriptionAction :=
  (delivery.calls.filter fun call => call.1 = subscriber).map (·.2)

def CalledUntilCancel [DecidableEq Subscriber] (subscriber : Subscriber) :
    List (Delivery Subscriber) → Prop
  | [] => True
  | delivery :: deliveries =>
      (delivery.callsOf subscriber = [.continueSubscription] ∧
          CalledUntilCancel subscriber deliveries) ∨
        (delivery.callsOf subscriber = [.cancelSubscription] ∧
          ∀ later ∈ deliveries, later.callsOf subscriber = [])

section Calls

variable [DecidableEq Subscriber] {subscribers final : List Subscriber}
  {deliveries : List (Delivery Subscriber)} {subscriber : Subscriber}

theorem callsOf_of_not_mem {delivery : Delivery Subscriber}
    (notCalled : subscriber ∉ delivery.calls.map (·.1)) : delivery.callsOf subscriber = [] := by
  rw [Delivery.callsOf, List.map_eq_nil_iff, List.filter_eq_nil_iff]
  intro call isCall isOf
  exact notCalled (List.mem_map.mpr ⟨call, isCall, of_decide_eq_true isOf⟩)

theorem Served.not_called (served : Served subscribers deliveries final)
    (notIn : subscriber ∉ subscribers) :
    ∀ delivery ∈ deliveries, delivery.callsOf subscriber = [] := by
  induction served with
  | done => simp
  | @deliver subscribers final delivery deliveries called rest induction =>
      have notCalled : subscriber ∉ delivery.calls.map (·.1) := fun isCalled =>
        notIn (called.mem_iff.mp isCalled)
      rw [List.forall_mem_cons]
      refine ⟨callsOf_of_not_mem notCalled, induction fun continues => notCalled ?_⟩
      exact List.mem_map_of_mem (mem_continuing.mp continues)

theorem callsOf_of_mem {delivery : Delivery Subscriber} {action : SubscriptionAction}
    (distinct : (delivery.calls.map (·.1)).Nodup) (called : (subscriber, action) ∈ delivery.calls) :
    delivery.callsOf subscriber = [action] := by
  rcases List.append_of_mem called with ⟨before, behind, isCalls⟩
  rw [isCalls, List.map_append, List.map_cons, List.nodup_append] at distinct
  rcases distinct with ⟨-, distinctBehind, disjoint⟩
  have notBefore : before.filter (fun call => call.1 = subscriber) = [] :=
    List.filter_eq_nil_iff.mpr fun call isCall isOf => disjoint _
      (List.mem_map.mpr ⟨call, isCall, rfl⟩) _ List.mem_cons_self (of_decide_eq_true isOf)
  have notBehind : behind.filter (fun call => call.1 = subscriber) = [] :=
    List.filter_eq_nil_iff.mpr fun call isCall isOf => (List.nodup_cons.mp distinctBehind).1
      (List.mem_map.mpr ⟨call, isCall, of_decide_eq_true isOf⟩)
  rw [Delivery.callsOf, isCalls, List.filter_append, List.filter_cons_of_pos (by simp), notBefore,
    notBehind]
  rfl

theorem Served.calledUntilCancel (served : Served subscribers deliveries final)
    (distinct : subscribers.Nodup) (isSubscriber : subscriber ∈ subscribers) :
    CalledUntilCancel subscriber deliveries := by
  induction served with
  | done => trivial
  | @deliver subscribers final delivery deliveries called rest induction =>
      have distinctCalls := called.nodup_iff.mpr distinct
      rcases List.mem_map.mp (called.mem_iff.mpr isSubscriber) with ⟨⟨other, action⟩, isCall, rfl⟩
      have once := callsOf_of_mem distinctCalls isCall
      cases action with
      | continueSubscription =>
          exact .inl ⟨once, induction (nodup_continuing distinctCalls) (mem_continuing.mpr isCall)⟩
      | cancelSubscription =>
          refine .inr ⟨once, rest.not_called fun continues => ?_⟩
          have both := callsOf_of_mem distinctCalls (mem_continuing.mp continues)
          rw [once] at both
          cases both

end Calls

/-! ## Lines -/

def terminatedLines (stream : Bytes) : List Bytes := (stream.splitOn lineFeed).dropLast

def lineMessages (line : Bytes) : List Message :=
  (stageTable.filter fun stage => stage.stage <:+: line).map fun stage =>
    stage.message line ((Substrings.position stage.stage line).getD 0)

def linesFrom (line : Bytes) : Bytes → List Bytes
  | [] => []
  | byte :: stream =>
      if byte = lineFeed then line :: linesFrom [] stream else linesFrom (line ++ [byte]) stream

def restFrom (line : Bytes) : Bytes → Bytes
  | [] => line
  | byte :: stream =>
      if byte = lineFeed then restFrom [] stream else restFrom (line ++ [byte]) stream

theorem linesFrom_append (line first second : Bytes) :
    linesFrom line (first ++ second) =
      linesFrom line first ++ linesFrom (restFrom line first) second := by
  induction first generalizing line with
  | nil => rfl
  | cons byte first induction =>
      rw [List.cons_append, linesFrom, linesFrom, restFrom]
      by_cases ends : byte = lineFeed
      · rw [if_pos ends, if_pos ends, if_pos ends, induction, List.cons_append]
      · rw [if_neg ends, if_neg ends, if_neg ends, induction]

theorem linesFrom_eq (line stream : Bytes) :
    linesFrom line stream = ((stream.splitOn lineFeed).modifyHead (line ++ ·)).dropLast := by
  induction stream generalizing line with
  | nil => simp [linesFrom]
  | cons byte stream induction =>
      rw [linesFrom, List.splitOn_eq_splitOnP, List.splitOnP_cons_eq_if_modifyHead,
        ← List.splitOn_eq_splitOnP]
      rcases List.exists_cons_of_ne_nil
        (List.splitOn_ne_nil lineFeed stream) with ⟨first, rest, isSplit⟩
      by_cases ends : byte = lineFeed
      · rw [if_pos ends, if_pos (by simp [ends]), induction, isSplit]
        simp
      · rw [if_neg ends, if_neg (by simp [ends]), induction, isSplit]
        cases rest <;> simp

theorem linesFrom_nil (stream : Bytes) : linesFrom [] stream = terminatedLines stream := by
  rw [linesFrom_eq, terminatedLines]
  rcases List.exists_cons_of_ne_nil (List.splitOn_ne_nil lineFeed stream) with
    ⟨first, rest, isSplit⟩
  rw [isSplit]
  rfl

theorem stageTable_plain (stage : Stage) (isStage : stage ∈ stageTable) :
    stage.stage ≠ [] ∧ lineFeed ∉ stage.stage := by
  have plain : ∀ stage ∈ stageTable, stage.stage ≠ [] ∧ lineFeed ∉ stage.stage := by
    unfold stageTable ascii
    -- the kernel is slow to decode literals
    repeat rw [String.toList_ofList]
    decide +kernel
  exact plain stage isStage

theorem lineMessages_eq (line : Bytes) :
    lineMessages line = stageTable.filterMap fun stage =>
      (Substrings.position stage.stage line).map (stage.message line) := by
  unfold lineMessages
  induction stageTable with
  | nil => rfl
  | cons stage stages induction =>
      cases found : Substrings.position stage.stage line with
      | none =>
          have absent := Substrings.position_eq_none.mp found
          rw [List.filter_cons_of_neg (by simpa using absent), induction,
            List.filterMap_cons_none (by rw [found]; rfl)]
      | some pos =>
          have present := Substrings.position_isSome.mp (Option.isSome_of_eq_some found)
          rw [List.filter_cons_of_pos (by simpa using present), List.map_cons, induction,
            List.filterMap_cons_some (by rw [found]; rfl), found, Option.getD_some]

theorem lineMessages_lineFeed (line : Bytes) :
    lineMessages (lineFeed :: line) = lineMessages line := by
  rw [lineMessages_eq, lineMessages_eq]
  apply List.filterMap_congr
  intro stage isStage
  rcases stageTable_plain stage isStage with ⟨nonempty, notIn⟩
  rw [Substrings.position_cons nonempty notIn, Option.map_map]
  congr 1
  funext pos
  rw [Function.comp, Stage.message, Stage.message, Nat.add_right_comm, List.drop_succ_cons]

/-! ## The server -/

namespace KernelLogServer

def Delivers (server final : KernelLogServer Subscriber Shared) (messages : List Message) : Prop :=
  ∃ deliveries, final.deliveries = server.deliveries ++ deliveries ∧
    deliveries.map (·.message) = messages ∧
    Served server.subscribers deliveries final.subscribers

theorem Delivers.trans {server between final : KernelLogServer Subscriber Shared}
    {first second : List Message} (delivers : server.Delivers between first)
    (later : between.Delivers final second) : server.Delivers final (first ++ second) := by
  rcases delivers with ⟨deliveries, isDeliveries, isFirst, served⟩
  rcases later with ⟨laterDeliveries, isLater, isSecond, servedLater⟩
  refine ⟨deliveries ++ laterDeliveries, ?_, ?_, served.trans servedLater⟩
  · rw [isLater, isDeliveries, List.append_assoc]
  · rw [List.map_append, isFirst, isSecond]

theorem Delivers.nothing {server final : KernelLogServer Subscriber Shared}
    (sameDeliveries : final.deliveries = server.deliveries)
    (sameSubscribers : final.subscribers = server.subscribers) : server.Delivers final [] :=
  ⟨[], by rw [sameDeliveries, List.append_nil], rfl, sameSubscribers ▸ .done⟩

variable (callback : EventCallback Subscriber Shared) (server : KernelLogServer Subscriber Shared)

theorem processSubscriptions_delivers (message : Message) :
    server.Delivers (server.processSubscriptions callback message) [message] ∧
      (server.processSubscriptions callback message).line = server.line := by
  rcases processFrom_spec callback message
    server.subscribers.length [] server.subscribers [] server.shared rfl with
      ⟨calls, shared, isRun, permuted⟩
  rw [List.nil_append, List.append_nil, List.length_nil] at isRun
  unfold processSubscriptions
  rw [isRun]
  exact ⟨⟨[⟨message, calls⟩], rfl, rfl, .deliver permuted .done⟩, rfl⟩

theorem detectStages_delivers :
    server.Delivers (server.detectStages callback) (lineMessages server.line) := by
  have detects : ∀ stages : List Stage,
      server.Delivers (stages.foldl (detectStage callback) server)
        (stages.filterMap fun stage =>
          (Substrings.position stage.stage server.line).map (stage.message server.line)) := by
    intro stages
    induction stages generalizing server with
    | nil => exact .nothing rfl rfl
    | cons stage stages induction =>
        rw [List.foldl_cons, List.filterMap_cons]
        cases found : Substrings.position stage.stage server.line with
        | none =>
            have isSame : server.detectStage callback stage = server := by
              rw [detectStage, found]
            rw [isSame]
            exact induction server
        | some pos =>
            have detected : server.detectStage callback stage =
                server.processSubscriptions callback (stage.message server.line pos) := by
              rw [detectStage, found]
            rcases server.processSubscriptions_delivers callback
              (stage.message server.line pos) with ⟨delivers, sameLine⟩
            have rest := induction (server.processSubscriptions callback
              (stage.message server.line pos))
            rw [sameLine] at rest
            rw [detected]
            exact delivers.trans rest
  rw [lineMessages_eq]
  exact detects stageTable

def HasLine (line : Bytes) : Prop := server.line = line ∨ server.line = lineFeed :: line

theorem HasLine.lineMessages {server : KernelLogServer Subscriber Shared} {line : Bytes}
    (hasLine : server.HasLine line) : lineMessages server.line = lineMessages line := by
  rcases hasLine with same | behind
  · rw [same]
  · rw [behind, lineMessages_lineFeed]

theorem handleByte_deliveries (byte : UInt8) : (server.handleByte callback byte).deliveries =
    if byte = lineFeed then (server.detectStages callback).deliveries else server.deliveries := by
  unfold handleByte
  generalize server.detectStages callback = detected
  split <;> rfl

theorem handleByte_subscribers (byte : UInt8) : (server.handleByte callback byte).subscribers =
    if byte = lineFeed then (server.detectStages callback).subscribers
    else server.subscribers := by
  unfold handleByte
  generalize server.detectStages callback = detected
  split <;> rfl

theorem handleByte_line (byte : UInt8) : (server.handleByte callback byte).line =
    if byte = lineFeed then [byte] else server.line ++ [byte] := by
  unfold handleByte
  generalize server.detectStages callback = detected
  split <;> rfl

theorem handleByte_delivers (byte : UInt8) :
    server.Delivers (server.handleByte callback byte)
      (if byte = lineFeed then lineMessages server.line else []) := by
  by_cases ends : byte = lineFeed
  · rcases server.detectStages_delivers callback with ⟨deliveries, isDeliveries, isMessages, served⟩
    refine ⟨deliveries, ?_, ?_, ?_⟩
    · rw [handleByte_deliveries, if_pos ends, isDeliveries]
    · rw [isMessages, if_pos ends]
    · rw [handleByte_subscribers, if_pos ends]
      exact served
  · rw [if_neg ends]
    apply Delivers.nothing
    · rw [handleByte_deliveries, if_neg ends]
    · rw [handleByte_subscribers, if_neg ends]

theorem HasLine.handleByte {server : KernelLogServer Subscriber Shared} {line : Bytes}
    (hasLine : server.HasLine line) (byte : UInt8) :
    (server.handleByte callback byte).HasLine
      (if byte = lineFeed then [] else line ++ [byte]) := by
  rw [HasLine, handleByte_line]
  by_cases ends : byte = lineFeed
  · rw [if_pos ends, if_pos ends, ends]
    exact .inr rfl
  · rw [if_neg ends, if_neg ends]
    rcases hasLine with same | behind
    · exact .inl (congrArg (· ++ [byte]) same)
    · exact .inr (congrArg (· ++ [byte]) behind)

theorem handleBytes_delivers (bytes line : Bytes) (hasLine : server.HasLine line) :
    server.Delivers (bytes.foldl (handleByte callback) server)
        ((linesFrom line bytes).flatMap lineMessages) ∧
      (bytes.foldl (handleByte callback) server).HasLine (restFrom line bytes) := by
  induction bytes generalizing server line with
  | nil => exact ⟨.nothing rfl rfl, hasLine⟩
  | cons byte bytes induction =>
      have delivers := server.handleByte_delivers callback byte
      have hasNext := hasLine.handleByte callback byte
      rw [List.foldl_cons, linesFrom, restFrom]
      by_cases ends : byte = lineFeed
      · rw [if_pos ends, hasLine.lineMessages] at delivers
        rw [if_pos ends] at hasNext
        rcases induction _ _ hasNext with ⟨rest, hasRest⟩
        rw [if_pos ends, if_pos ends, List.flatMap_cons]
        exact ⟨delivers.trans rest, hasRest⟩
      · rw [if_neg ends] at delivers hasNext
        rcases induction _ _ hasNext with ⟨rest, hasRest⟩
        rw [if_neg ends, if_neg ends]
        exact ⟨delivers.trans rest, hasRest⟩

/-- The bytes of a read that is written to the log file. -/
def ReadOutcome.logged : ReadOutcome → Bytes
  | .failed | .ended => []
  | .read found => found.bytes

def ReadOutcome.WriteSucceeds : ReadOutcome → Prop
  | .failed | .ended => True
  | .read found => found.written.isSome

theorem handleIncomingMessage_delivers {line : Bytes} (hasLine : server.HasLine line)
    {outcome : ReadOutcome} (succeeds : outcome.WriteSucceeds) :
    server.Delivers (server.handleIncomingMessage callback outcome).2
        ((linesFrom line outcome.logged).flatMap lineMessages) ∧
      (server.handleIncomingMessage callback outcome).2.HasLine (restFrom line outcome.logged) := by
  cases outcome with
  | failed => exact ⟨.nothing rfl rfl, hasLine⟩
  | ended => exact ⟨.nothing rfl rfl, hasLine⟩
  | read found =>
      rcases Option.isSome_iff_exists.mp succeeds with ⟨count, isCount⟩
      have logged : server.HasLine line := hasLine
      have handled := handleBytes_delivers callback
        { server with logFile := server.logFile ++ found.bytes.take count } found.bytes line hasLine
      rw [handleIncomingMessage, isCount]
      exact handled

theorem handleIncomingMessages_delivers (outcomes : List ReadOutcome) (line : Bytes)
    (hasLine : server.HasLine line)
    (succeed : ∀ outcome ∈ outcomes, outcome.WriteSucceeds) :
    server.Delivers (server.handleIncomingMessages callback outcomes)
      ((linesFrom line (outcomes.flatMap (·.logged))).flatMap lineMessages) := by
  induction outcomes generalizing server line with
  | nil => exact .nothing rfl rfl
  | cons outcome outcomes induction =>
      rcases List.forall_mem_cons.mp succeed with ⟨succeeds, later⟩
      rcases server.handleIncomingMessage_delivers callback hasLine succeeds with
        ⟨delivers, hasRest⟩
      rw [List.flatMap_cons, linesFrom_append, List.flatMap_append]
      exact delivers.trans (induction _ _ hasRest later)

def started (subscribers : List Subscriber) (shared : Shared) (logFile : Bytes) :
    KernelLogServer Subscriber Shared :=
  subscribers.foldl subscribeToEvents ⟨[], [], shared, logFile, []⟩

theorem started_eq (subscribers : List Subscriber) (shared : Shared) (logFile : Bytes) :
    started subscribers shared logFile = ⟨[], subscribers, shared, logFile, []⟩ := by
  have subscribes : ∀ before : List Subscriber,
      subscribers.foldl subscribeToEvents
        (⟨[], before, shared, logFile, []⟩ : KernelLogServer Subscriber Shared) =
      ⟨[], before ++ subscribers, shared, logFile, []⟩ := by
    induction subscribers with
    | nil => simp
    | cons subscriber subscribers induction =>
        intro before
        rw [List.foldl_cons, subscribeToEvents, induction, List.append_assoc]
        rfl
  exact subscribes []

/-- The events of all lines are produced once in order, whatever the boundaries of the reads, and
each subscriber is called once with each of them until it cancels. -/
theorem events_delivered_once [DecidableEq Subscriber] (subscribers : List Subscriber)
    (distinct : subscribers.Nodup) (shared : Shared) (logFile : Bytes)
    (outcomes : List ReadOutcome) (succeed : ∀ outcome ∈ outcomes, outcome.WriteSucceeds)
    {stream : Bytes} (isSplit : outcomes.flatMap (·.logged) = stream) :
    let final := (started subscribers shared logFile).handleIncomingMessages callback outcomes
    final.deliveries.map (·.message) = (terminatedLines stream).flatMap lineMessages ∧
      (∀ subscriber ∈ subscribers, CalledUntilCancel subscriber final.deliveries) ∧
      ∀ subscriber ∉ subscribers, ∀ delivery ∈ final.deliveries,
        delivery.callsOf subscriber = [] := by
  intro final
  rcases (started subscribers shared logFile).handleIncomingMessages_delivers callback outcomes []
      (.inl (by rw [started_eq])) succeed with ⟨deliveries, isDeliveries, isMessages, served⟩
  rw [started_eq] at isDeliveries served
  rw [isSplit, linesFrom_nil] at isMessages
  have isAll : final.deliveries = deliveries := by
    change ((started subscribers shared logFile).handleIncomingMessages callback
      outcomes).deliveries = deliveries
    rw [started_eq, isDeliveries, List.nil_append]
  rw [isAll]
  refine ⟨isMessages, fun subscriber isSubscriber => ?_, fun subscriber notSubscriber => ?_⟩
  · exact served.calledUntilCancel distinct isSubscriber
  · exact served.not_called notSubscriber

def screenChangedReads : List ReadOutcome :=
  [.read ⟨ascii "VIRTUAL_DEVICE_SCREEN", by decide, by decide, some 21⟩,
    .read ⟨ascii "_CHANGED a=b\n", by decide, by decide, some 13⟩]

def cancelling : EventCallback Bool Unit := fun subscriber _ _ =>
  (if subscriber then .continueSubscription else .cancelSubscription, ())

theorem events_delivered_once_screen_changed :
    ((started [false, true] () []).handleIncomingMessages cancelling
        screenChangedReads).deliveries.map (·.message) =
      [⟨.screenChanged, [(ascii "a", ascii "b")]⟩] ∧
      ∀ subscriber ∈ [false, true], CalledUntilCancel subscriber
        ((started [false, true] () []).handleIncomingMessages cancelling
          screenChangedReads).deliveries := by
  have succeed : ∀ outcome ∈ screenChangedReads, outcome.WriteSucceeds := by
    simp [screenChangedReads, ReadOutcome.WriteSucceeds]
  have delivered :=
    events_delivered_once cancelling [false, true] (by decide) () [] screenChangedReads succeed rfl
  have isMessages : (terminatedLines (screenChangedReads.flatMap (·.logged))).flatMap lineMessages =
      [⟨.screenChanged, [(ascii "a", ascii "b")]⟩] := by
    rw [show lineMessages = _ from funext lineMessages_eq]
    unfold stageTable ascii
    repeat rw [String.toList_ofList]
    decide +kernel
  dsimp only at delivered
  rw [isMessages] at delivered
  generalize (started [false, true] () []).handleIncomingMessages cancelling screenChangedReads =
    final at delivered ⊢
  exact ⟨delivered.1, delivered.2.1⟩

end KernelLogServer

end Cuttlefish.KernelLogMonitor
