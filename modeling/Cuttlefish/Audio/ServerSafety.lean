import Cuttlefish.Audio.AudioHandler

/-! # Safety of the audio server

Which messages of the guest the audio server survives. -/

namespace Cuttlefish.Audio

/-! ## Supported requests -/

/-- The parameters that `SetStreamParameters` takes for a stream. -/
def PcmInfo.Accepts (info : PcmInfo) (channels format rate : UInt8) : Prop :=
  (bitsPerSample format).isSome ∧ (sampleRate rate).isSome ∧
    info.channelsMin ≤ channels.toNat ∧ channels.toNat ≤ info.channelsMax

/-- The samples that a stream can carry: there are functions to convert those that are
played, and those that are captured take whole bytes. -/
def PcmInfo.Handles (info : PcmInfo) (bits : Nat) : Prop :=
  match info.direction with
  | .playback => bits ∈ [8, 16, 32]
  | .capture => 8 ≤ bits

namespace Config

variable (config : Config)

/-- The streams of a query exist. -/
def Covers (startId count : UInt32) : Prop :=
  startId.toNat < config.streams.length ∧
    startId.toNat + count.toNat ≤ config.streams.length

def Has (streamId : UInt32) (direction : Direction) : Prop :=
  ∃ info, config.pcmInfos[streamId.toNat]? = some info ∧ info.direction = direction

/-- The requests that the server can carry out. -/
def Supports : Request → Prop
  | .command (.pcmInfo startId count) | .command (.chmapInfo startId count) =>
      config.Covers startId count
  | .command (.setParams streamId channels format rate) =>
      ∃ info bits, config.pcmInfos[streamId.toNat]? = some info ∧
        info.Accepts channels format rate ∧ bitsPerSample format = some bits ∧ info.Handles bits
  | .command (.prepare streamId) | .command (.release streamId) | .command (.start streamId)
  | .command (.stop streamId) => streamId.toNat < config.streams.length
  | .command (.jackInfo _ _) | .command .jackRemap | .command (.unknown _) => False
  | .playback streamId => config.Has streamId .playback
  | .capture streamId => config.Has streamId .capture

end Config

/-- The sockets on which requests arrive, each with the replies to them. -/
inductive Socket
  | control
  | tx
  | rx
  deriving DecidableEq

def Request.socket : Request → Socket
  | .command _ => .control
  | .playback _ => .tx
  | .capture _ => .rx

def onSocket (socket : Socket) (requests : List Request) : List Request :=
  requests.filter fun request => request.socket = socket

def System.pending (state : System) : List Request :=
  state.mixing.toList.map fun playback => .playback playback.streamId

/-- The server is running and goes on to take commands. On every socket the replies are to
the requests received there, in their order, and none but one for a buffer in the mixer is
left out. What the server cannot carry out it has refused. -/
structure Safe (config : Config) (state : System) : Prop where
  running : state.fault = none
  listening : state.controlEnd ≠ some .notSent
  answered : ∀ socket, onSocket socket state.received =
    onSocket socket (state.replies.map Prod.fst ++ state.pending)
  awaited : ∀ request ∈ state.pending, config.Supports request
  refused : ∀ answered ∈ state.replies, ¬ config.Supports answered.1 → answered.2.code ≠ .ok

/-! ## What the guest has to avoid -/

def Label.WellSized : Label → Prop
  | .control message _ => message.length ≤ 24
  | .playback message _ | .capture message _ _ _ =>
      message.length ≤ 12 ∧
        (message.length = 12 → (Transfer.decode message).WithinBounds)
  | .mix _ | .mixerLoop | .accept => True

/-- The end of a query is not taken for another one in 32 bits, and formats that a stream
cannot carry are not set. -/
def Command.Careful (config : Config) : Command → Prop
  | .pcmInfo startId count | .chmapInfo startId count =>
      startId.toNat < config.streams.length →
        startId.toNat + count.toNat < 2 ^ 32 ∨
          config.streams.length < (startId + count).toNat
  | .setParams streamId channels format rate =>
      ∀ info bits, config.pcmInfos[streamId.toNat]? = some info →
        info.Accepts channels format rate → bitsPerSample format = some bits → info.Handles bits
  | .prepare _ | .release _ | .start _ | .stop _ | .jackInfo _ _ | .jackRemap | .unknown _ => True

/-- There is memory for the entries of a query and for the reply, and the socket takes it. -/
def Grants.Allow (grants : Grants) (command : Command) : Prop :=
  (command.infoSize ≠ 0 → grants.entries command.infoSize = true) ∧
    grants.reply (4 + command.infoSize) = true ∧ grants.sent (4 + command.infoSize) = true

instance (grants : Grants) (command : Command) : Decidable (grants.Allow command) :=
  inferInstanceAs (Decidable (_ ∧ _ ∧ _))

def StreamDesc.Configured (desc : StreamDesc) : Prop :=
  desc.sampleRate ≠ 0 ∧ desc.bitsPerSample ≠ 0 ∧ desc.channels ≠ 0

instance (desc : StreamDesc) : Decidable desc.Configured := inferInstanceAs (Decidable (_ ∧ _ ∧ _))

/-- The source does not deliver right after it has failed. -/
def AudioSource.Steady (source : AudioSource) : Prop :=
  ∀ call samplesPerChannel, source.answer call samplesPerChannel = .failed →
    ∀ count, source.answer (call + 1) samplesPerChannel ≠ .delivered count

/-- There is room for the replies, a stream that is used has parameters, captured audio is
asked for on existing streams, in buffers that have room for what is held, and the source is
steady. -/
def Careful (config : Config) (state : System) : Label → Prop
  | .control message grants =>
      ∀ command, Command.decode message = some command →
        command.Careful config ∧ grants.Allow command
  | .playback message sent =>
      sent = true ∧ ∀ transfer desc, receiveTransfer message = .ok (some transfer) →
        state.descs[transfer.streamId.toNat]? = some desc →
          config.Has transfer.streamId .playback → desc.active = true → desc.Configured
  | .capture message source _ sent =>
      sent = true ∧ ∀ transfer, receiveTransfer message = .ok (some transfer) →
        ∃ desc, state.descs[transfer.streamId.toNat]? = some desc ∧
          (config.Has transfer.streamId .capture → desc.active = true →
            desc.Configured ∧ desc.held ≤ transfer.bufferLength.toNat ∧ source.Steady)
  | .mix sent => sent = true
  | .mixerLoop | .accept => True

/-! ## The tables -/

section

variable {config : Config}

theorem length_table {Info : Type} (empty : Info) (info : StreamSettings → Info) :
    (config.table empty info).length = config.streams.length := by
  have preserved : ∀ (settings : List StreamSettings) (table : List Info),
      (settings.foldl (fun table settings =>
        table.set (config.streamId settings) (info settings)) table).length = table.length := by
    intro settings
    induction settings with
    | nil => exact fun _ => rfl
    | cons first rest induction =>
        intro table
        rw [List.foldl_cons, induction, List.length_set]
  rw [Config.table, preserved, List.length_replicate]

theorem mem_table {Info : Type} {empty entry : Info} {info : StreamSettings → Info}
    (member : entry ∈ config.table empty info) :
    entry = empty ∨ ∃ settings, entry = info settings := by
  have preserved : ∀ (settings : List StreamSettings) (table : List Info),
      (∀ entry ∈ table, entry = empty ∨ ∃ settings, entry = info settings) →
      ∀ entry ∈ settings.foldl (fun table settings =>
        table.set (config.streamId settings) (info settings)) table,
          entry = empty ∨ ∃ settings, entry = info settings := by
    intro settings
    induction settings with
    | nil => exact fun _ before => before
    | cons first rest induction =>
        intro table before
        apply induction
        intro entry member
        rcases List.mem_or_eq_of_mem_set member with old | new
        · exact before entry old
        · exact .inr ⟨first, new⟩
  apply preserved _ _ _ entry member
  intro entry member
  exact .inl (List.eq_of_mem_replicate member)

theorem length_pcmInfos : config.pcmInfos.length = config.streams.length := length_table ..

theorem length_chmapInfos : config.chmapInfos.length = config.streams.length := length_table ..

theorem channelsMax_le {info : PcmInfo} (member : info ∈ config.pcmInfos) :
    info.channelsMax ≤ 6 := by
  rcases mem_table member with rfl | ⟨settings, rfl⟩
  · exact Nat.zero_le _
  · exact getChannelsCount_le _

/-! ## Commands -/

theorem infoRange_ok {Info : Type} {table : List Info} {startId count : UInt32}
    (length : table.length = config.streams.length)
    (careful : startId.toNat < config.streams.length →
      startId.toNat + count.toNat < 2 ^ 32 ∨ config.streams.length < (startId + count).toNat) :
    ∃ infos, infoRange table startId count = .ok infos ∧
      (infos ≠ none → config.Covers startId count) := by
  unfold infoRange
  rw [← length] at careful
  dsimp only
  split
  next => exact ⟨none, rfl, absurd rfl⟩
  next within =>
    rw [not_or, Nat.not_le, Nat.not_lt] at within
    rcases within with ⟨starts, ends⟩
    have noWrap : (startId + count).toNat = startId.toNat + count.toNat := by
      rw [UInt32.toNat_add]
      rcases careful starts with small | large
      · exact Nat.mod_eq_of_lt small
      · exact absurd large (Nat.not_lt.mpr ends)
    rw [noWrap] at ends
    have all : ((table.drop startId.toNat).take count.toNat).length = count.toNat := by
      rw [List.length_take, List.length_drop]
      omega
    rw [if_neg (Nat.not_lt.mpr ends), if_neg (absurd all)]
    exact ⟨_, rfl, fun _ => ⟨length ▸ starts, length ▸ ends⟩⟩

def StreamDesc.Handled (info : PcmInfo) (desc : StreamDesc) : Prop :=
  desc.channels ≤ info.channelsMax ∧
    (desc.bitsPerSample = 0 ∨ info.Handles desc.bitsPerSample)

theorem StreamDesc.Configured.mixable {desc : StreamDesc}
    (configured : desc.Configured) {info : PcmInfo} (member : info ∈ config.pcmInfos)
    (direction : info.direction = .playback) (handled : desc.Handled info) {transfer : Transfer}
    (within : transfer.WithinBounds) :
    Playback.Mixable ⟨transfer.streamId, desc.sampleRate, desc.channels, desc.bitsPerSample,
      transfer.bufferLength.toNat⟩ := by
  rcases configured with ⟨rate, bits, channels⟩
  refine ⟨⟨Nat.pos_of_ne_zero channels, handled.1.trans (channelsMax_le member)⟩,
    Nat.pos_of_ne_zero rate, ?_, within.2.trans (Nat.sub_le ..)⟩
  have handles := handled.2.resolve_left bits
  rw [PcmInfo.Handles, direction] at handles
  exact handles

theorem onSocket_append (socket : Socket) (first second : List Request) :
    onSocket socket (first ++ second) = onSocket socket first ++ onSocket socket second :=
  List.filter_append ..

theorem onSocket_other {socket : Socket} {request : Request} (other : request.socket ≠ socket) :
    onSocket socket [request] = [] := by
  rw [onSocket, List.filter_cons_of_neg (by simpa using other), List.filter_nil]

/-- What every step keeps, where some requests may still be without a reply. -/
structure Healthy (config : Config) (state : System) (owed : List Request) : Prop where
  running : state.fault = none
  listening : state.controlEnd ≠ some .notSent
  answered : ∀ socket, onSocket socket state.received =
    onSocket socket (state.replies.map Prod.fst ++ state.pending ++ owed)
  refused : ∀ answered ∈ state.replies, ¬ config.Supports answered.1 → answered.2.code ≠ .ok
  length : state.descs.length = config.streams.length
  handled : ∀ (index : Nat) info desc, config.pcmInfos[index]? = some info →
    state.descs[index]? = some desc → desc.Handled info
  mixing : ∀ playback, state.mixing = some playback →
    playback.Mixable ∧ config.Supports (.playback playback.streamId)
  mixer : state.mixer.Fits config.mixer

variable {state : System} {owed : List Request}

theorem Healthy.safe (healthy : Healthy config state []) : Safe config state where
  running := healthy.running
  listening := healthy.listening
  answered := by
    intro socket
    rw [healthy.answered, List.append_nil]
  awaited := by
    intro request member
    rcases List.mem_map.mp member with ⟨playback, isMixing, rfl⟩
    exact (healthy.mixing playback (Option.mem_toList.mp isMixing)).2
  refused := healthy.refused

theorem healthy_initial (config : Config) : Healthy config (System.initial config) [] where
  running := rfl
  listening := Option.some_ne_none Ending.notSent |>.symm
  answered := fun _ => rfl
  refused := by
    intro answered member
    exact absurd member List.not_mem_nil
  length := List.length_replicate
  handled := by
    intro index info desc _ isDesc
    rw [List.eq_of_mem_replicate (List.mem_of_getElem? isDesc)]
    exact ⟨Nat.zero_le _, .inl rfl⟩
  mixing := by
    intro playback isMixing
    cases isMixing
  mixer := Mixer.fits_initial config.mixer

theorem receiveTransfer_ok {message : Bytes} (small : message.length ≤ 12)
    (within : message.length = 12 → (Transfer.decode message).WithinBounds) :
    ∃ transfer, receiveTransfer message = .ok transfer ∧
      ∀ sent, transfer = some sent → sent.WithinBounds := by
  rw [receiveTransfer, if_neg (Nat.not_lt.mpr small)]
  split
  · exact ⟨none, rfl, nofun⟩
  next large =>
    have bounds := within (by omega)
    rw [if_pos bounds]
    refine ⟨_, rfl, ?_⟩
    rintro sent ⟨⟩
    exact bounds

/-! ## Captured audio -/

section

variable {desc : StreamDesc} {source : AudioSource} {length : Nat}

theorem getMoreAudioData_eq (channels : desc.channels ≠ 0) (call : Nat) :
    desc.getMoreAudioData source call = .ok (source.answer call desc.samplesPerChannel) := by
  rw [StreamDesc.getMoreAudioData]
  split
  next count isAnswer => rw [if_neg channels, isAnswer]
  next => rfl

theorem readBuffer_ok (source : AudioSource) (channels : desc.channels ≠ 0) (rounds call : Nat)
    {bytesRead : Nat} (inside : bytesRead ≤ length) :
    ∃ result, desc.readBuffer source length rounds call bytesRead = .ok result ∧
      ∀ calls bytes, result = some (calls, bytes) → bytes ≤ length ∧
        (length - bytes ≤ desc.bytesPerRequest ∨
          ∃ last, calls = last + 1 ∧ source.answer last desc.samplesPerChannel = .failed) := by
  induction rounds generalizing call bytesRead with
  | zero => exact ⟨none, rfl, nofun⟩
  | succ rounds induction =>
      rw [StreamDesc.readBuffer]
      split
      next less =>
        refine ⟨_, rfl, ?_⟩
        rintro calls bytes ⟨⟩
        exact ⟨inside, .inl less.le⟩
      next enough =>
        have room : bytesRead + desc.bytesPerRequest ≤ length := by omega
        rw [if_neg (Nat.not_lt.mpr room), getMoreAudioData_eq channels]
        cases isAnswer : source.answer call desc.samplesPerChannel with
        | failed =>
            refine ⟨_, rfl, ?_⟩
            rintro calls bytes ⟨⟩
            exact ⟨inside, .inr ⟨call, rfl, isAnswer⟩⟩
        | muted =>
            refine ⟨_, rfl, ?_⟩
            rintro calls bytes ⟨⟩
            exact ⟨Nat.le_refl _, .inl (by omega)⟩
        | delivered count =>
            apply induction
            have bounded := source.bounded call _ count isAnswer
            have received : count * desc.bytesPerSample * desc.channels ≤ desc.bytesPerRequest :=
              Nat.mul_le_mul_right _ (Nat.mul_le_mul_right _ bounded)
            omega

theorem StreamDesc.Configured.captureAudio (configured : desc.Configured)
    (room : desc.held ≤ length) (steady : source.Steady) (rounds : Nat) :
    ∃ held, desc.captureAudio source length rounds = .ok held := by
  have channels := configured.2.2
  rcases readBuffer_ok source channels rounds 0 room with ⟨result, isResult, stopped⟩
  rw [StreamDesc.captureAudio, if_neg (Nat.not_lt.mpr room), isResult]
  cases result with
  | none => exact ⟨none, rfl⟩
  | some result =>
      rcases stopped result.1 result.2 rfl with ⟨inside, reason⟩
      dsimp only
      rw [StreamDesc.readRest, getMoreAudioData_eq channels]
      split
      · exact ⟨_, rfl⟩
      · cases isAnswer : source.answer result.1 desc.samplesPerChannel with
        | failed => exact ⟨_, rfl⟩
        | muted => exact ⟨_, rfl⟩
        | delivered count =>
            dsimp only
            rcases reason with little | ⟨last, isLast, failed⟩
            · rw [if_neg (Nat.not_lt.mpr little)]
              exact ⟨_, rfl⟩
            · rw [isLast] at isAnswer
              exact absurd isAnswer (steady last _ failed count)

end

namespace Healthy

theorem receive (healthy : Healthy config state []) (request : Request) :
    Healthy config (state.receive request) [request] := by
  refine { healthy with answered := ?_ }
  intro socket
  have before := healthy.answered socket
  rw [List.append_nil] at before
  rw [System.receive, onSocket_append, before, ← onSocket_append]
  rfl

theorem reply {request : Request} (healthy : Healthy config state [request])
    (first : onSocket request.socket state.pending = []) {reply : Reply}
    (supported : reply.code = .ok → config.Supports request) :
    Healthy config (state.reply request reply) [] := by
  refine { healthy with answered := ?_, refused := ?_ }
  · intro socket
    have swapped : onSocket socket state.pending ++ onSocket socket [request] =
        onSocket socket [request] ++ onSocket socket state.pending := by
      by_cases same : request.socket = socket
      · rw [← same, first, List.append_nil, List.nil_append]
      · rw [onSocket_other same, List.append_nil, List.nil_append]
    have before := healthy.answered socket
    rw [onSocket_append, onSocket_append, List.append_assoc, swapped] at before
    rw [List.append_nil, System.reply, List.map_append, onSocket_append, onSocket_append,
      List.append_assoc]
    exact before
  · intro answered member unsupported
    rcases List.mem_append.mp member with before | now
    · exact healthy.refused answered before unsupported
    · rw [List.mem_singleton.mp now] at unsupported ⊢
      exact fun ok => unsupported (supported ok)

theorem modify (healthy : Healthy config state owed) (index : Nat) {set : StreamDesc → StreamDesc}
    (kept : ∀ info desc, config.pcmInfos[index]? = some info → desc.Handled info →
      (set desc).Handled info) :
    Healthy config { state with descs := state.descs.modify index set } owed := by
  refine { healthy with length := ?_, handled := ?_ }
  · rw [List.length_modify]
    exact healthy.length
  · intro other info desc isInfo isDesc
    rw [List.getElem?_modify] at isDesc
    rcases Option.map_eq_some_iff.mp isDesc with ⟨before, isBefore, rfl⟩
    have handled := healthy.handled other info before isInfo isBefore
    split
    next same => exact kept info before (same ▸ isInfo) handled
    next => exact handled

theorem withMixer (healthy : Healthy config state owed) {mixer : Mixer}
    (fits : mixer.Fits config.mixer) : Healthy config { state with mixer } owed :=
  { healthy with mixer := fits }

theorem withCounters (healthy : Healthy config state owed)
    (frameCounters : UInt32 → Option FrameCounter) :
    Healthy config { state with frameCounters } owed :=
  { healthy with }

def Done (config : Config) (owed : List Request) (command : Command) (done : Reply × System) :
    Prop :=
  Healthy config done.2 owed ∧ (done.1.code = .ok → config.Supports (.command command))

theorem setStreamParameters (healthy : Healthy config state owed) {streamId : UInt32}
    {channels format rate : UInt8}
    (careful : (Command.setParams streamId channels format rate).Careful config) :
    Done config owed (.setParams streamId channels format rate)
      (state.setStreamParameters config streamId channels format rate) := by
  rw [System.setStreamParameters]
  split
  · exact ⟨healthy, nofun⟩
  next info isInfo =>
    split
    next bits samples isBits isSamples =>
      split
      · exact ⟨healthy, nofun⟩
      next inRange =>
        rw [not_or, Nat.not_lt, Nat.not_lt] at inRange
        have accepts : info.Accepts channels format rate := by
          rw [PcmInfo.Accepts, isBits, isSamples]
          exact ⟨rfl, rfl, inRange⟩
        have handles := careful info bits isInfo accepts isBits
        refine ⟨healthy.modify _ ?_, fun _ => ⟨info, bits, isInfo, accepts, isBits, handles⟩⟩
        intro other desc isOther _
        obtain rfl : info = other := Option.some.inj (isInfo.symm.trans isOther)
        exact ⟨inRange.2, .inr handles⟩
    next => exact ⟨healthy, nofun⟩

theorem controlStream (healthy : Healthy config state owed) {streamId : UInt32} {next : System}
    (after : Healthy config next owed) {command : Command}
    (supported : streamId.toNat < config.streams.length → config.Supports (.command command)) :
    Done config owed command (state.controlStream config streamId next) := by
  rw [System.controlStream]
  split
  · exact ⟨healthy, nofun⟩
  next exists_ =>
    rw [length_pcmInfos, Nat.not_le] at exists_
    exact ⟨after, fun _ => supported exists_⟩

theorem activate (healthy : Healthy config state owed) (index : Nat) (active : Bool) :
    Healthy config { state with
      descs := state.descs.modify index fun desc => { desc with active } } owed :=
  healthy.modify index fun _ _ _ handled => handled

theorem execute (healthy : Healthy config state owed) {command : Command}
    (careful : command.Careful config) :
    ∃ done, state.execute config command = .ok done ∧ Done config owed command done := by
  cases command with
  | pcmInfo startId count =>
      rcases infoRange_ok length_pcmInfos careful with ⟨infos, isInfos, covers⟩
      rw [System.execute, System.streamsInfo, isInfos]
      refine ⟨_, rfl, healthy, ?_⟩
      cases infos with
      | none => nofun
      | some infos => exact fun _ => covers nofun
  | chmapInfo startId count =>
      rcases infoRange_ok length_chmapInfos careful with ⟨infos, isInfos, covers⟩
      rw [System.execute, System.chmapsInfo, isInfos]
      refine ⟨_, rfl, healthy, ?_⟩
      cases infos with
      | none => nofun
      | some infos => exact fun _ => covers nofun
  | jackInfo startId count =>
      have none_ : infoRange ([] : List Unit) startId count = .ok none := by
        rw [infoRange, if_pos (.inl (Nat.zero_le _))]
      rw [System.execute, System.jacksInfo, none_]
      exact ⟨_, rfl, healthy, nofun⟩
  | setParams streamId channels format rate =>
      exact ⟨_, rfl, healthy.setStreamParameters careful⟩
  | prepare streamId => exact ⟨_, rfl, healthy.controlStream healthy id⟩
  | release streamId => exact ⟨_, rfl, healthy.controlStream healthy id⟩
  | start streamId =>
      have counted := healthy.withCounters
        (Function.update state.frameCounters streamId (some ⟨0, 1⟩))
      exact ⟨_, rfl, counted.controlStream (counted.activate _ true) id⟩
  | stop streamId =>
      refine ⟨_, rfl, healthy.controlStream ?_ id⟩
      exact (healthy.activate _ false).withMixer ⟨healthy.mixer.chunk, healthy.mixer.active⟩
  | jackRemap => exact ⟨_, rfl, healthy, nofun⟩
  | unknown code => exact ⟨_, rfl, healthy, nofun⟩

theorem pending_other {socket : Socket} (other : socket ≠ .tx) (state : System) :
    onSocket socket state.pending = [] := by
  refine List.filter_eq_nil_iff.mpr ?_
  intro request member
  rcases List.mem_map.mp member with ⟨playback, -, rfl⟩
  exact fun same => other (of_decide_eq_true same).symm

theorem cmdReply {command : Command} (healthy : Healthy config state [.command command])
    {reply : Reply} (supported : reply.code = .ok → config.Supports (.command command))
    {grants : Grants} (allow : grants.Allow command) :
    ∃ next, state.cmdReply command reply grants = .ok next ∧ Healthy config next [] := by
  rw [System.cmdReply, if_neg (ne_false_of_eq_true allow.2.1), if_neg (ne_false_of_eq_true allow.2.2)]
  have first : onSocket .control state.pending = [] := pending_other (by decide) state
  exact ⟨_, rfl, healthy.reply first supported⟩

theorem control (healthy : Healthy config state []) {message : Bytes}
    (small : message.length ≤ 24) {grants : Grants}
    (careful : Careful config state (.control message grants)) :
    ∃ next, state.control config message grants = .ok next ∧ Healthy config next [] := by
  rw [System.control, receiveCommand, if_neg (Nat.not_lt.mpr small)]
  cases decoded : Command.decode message with
  | none =>
      have listening : some Ending.tooSmall ≠ some .notSent := by decide
      exact ⟨_, rfl, { healthy with listening }⟩
  | some command =>
      rcases careful command decoded with ⟨careful, allow⟩
      have memory : ¬ (command.infoSize ≠ 0 ∧ grants.entries command.infoSize = false) := by
        rintro ⟨entries, none_⟩
        exact absurd (allow.1 entries) (ne_true_of_eq_false none_)
      rcases (healthy.receive (.command command)).execute careful with
        ⟨done, isDone, after, supported⟩
      dsimp only
      rw [if_neg memory, isDone]
      exact after.cmdReply supported allow

/-! ## Playback -/

theorem exists_info {streamId : UInt32}
    (exists_ : ¬ config.pcmInfos.length ≤ streamId.toNat) :
    ∃ info, config.pcmInfos[streamId.toNat]? = some info ∧
      System.isCapture config streamId = .ok (info.direction = .capture) := by
  have isInfo := List.getElem?_eq_getElem (Nat.lt_of_not_le exists_)
  refine ⟨_, isInfo, ?_⟩
  rw [System.isCapture, isInfo]

theorem exists_desc (healthy : Healthy config state owed) {streamId : UInt32}
    (exists_ : ¬ config.pcmInfos.length ≤ streamId.toNat) :
    ∃ desc, state.descs[streamId.toNat]? = some desc := by
  rw [length_pcmInfos, ← healthy.length] at exists_
  exact ⟨_, List.getElem?_eq_getElem (Nat.lt_of_not_le exists_)⟩

theorem sendStatus {request : Request} (healthy : Healthy config state [request])
    (first : onSocket request.socket state.pending = []) {code : Status}
    (supported : code = .ok → config.Supports request) :
    Healthy config (state.sendStatus request code true) [] :=
  healthy.reply first supported

theorem startMixing {streamId : UInt32} (healthy : Healthy config state [.playback streamId])
    (free : state.mixing = none) {playback : Playback} (same : playback.streamId = streamId)
    (mixable : playback.Mixable) (supported : config.Supports (.playback streamId)) :
    Healthy config { state with mixing := some playback } [] := by
  refine { healthy with answered := ?_, mixing := ?_ }
  · intro socket
    have before := healthy.answered socket
    rw [System.pending, free] at before
    rw [List.append_nil, System.pending, Option.toList_some, List.map_singleton, same]
    simpa only [Option.toList_none, List.map_nil, List.append_nil] using before
  · intro other isMixing
    rcases Option.some.inj isMixing with rfl
    exact ⟨mixable, same ▸ supported⟩

theorem onPlaybackBuffer {transfer : Transfer}
    (healthy : Healthy config state [.playback transfer.streamId]) (free : state.mixing = none)
    (within : transfer.WithinBounds)
    (careful : ∀ desc, state.descs[transfer.streamId.toNat]? = some desc →
      config.Has transfer.streamId .playback → desc.active = true → desc.Configured) :
    ∃ next, state.onPlaybackBuffer config true transfer = .ok next ∧ Healthy config next [] := by
  have first : onSocket .tx state.pending = [] := by
    rw [System.pending, free]
    rfl
  unfold System.onPlaybackBuffer
  dsimp only
  split
  · exact ⟨_, rfl, healthy.sendStatus first (absurd · (by decide))⟩
  next exists_ =>
    rcases exists_info exists_ with ⟨info, isInfo, isCapture⟩
    rw [isCapture]
    dsimp only [bind, Except.bind]
    cases direction : info.direction with
    | capture => exact ⟨_, rfl, healthy.sendStatus first (absurd · (by decide))⟩
    | playback =>
        have has : config.Has transfer.streamId .playback := ⟨info, isInfo, direction⟩
        rcases healthy.exists_desc exists_ with ⟨desc, isDesc⟩
        rw [if_neg (by decide), isDesc]
        dsimp only
        split
        · exact ⟨_, rfl, healthy.sendStatus first fun _ => has⟩
        next active =>
          have configured := careful desc isDesc has (Bool.eq_true_of_not_eq_false active)
          have handled := healthy.handled _ info desc isInfo isDesc
          have mixable :=
            configured.mixable (List.mem_of_getElem? isInfo) direction handled within
          exact ⟨_, rfl, healthy.startMixing free rfl mixable has⟩

theorem playback (healthy : Healthy config state []) (free : state.mixing = none)
    {message : Bytes} {transfer : Option Transfer}
    (received : receiveTransfer message = .ok transfer)
    (within : ∀ sent, transfer = some sent → sent.WithinBounds)
    (careful : Careful config state (.playback message true)) :
    ∃ next, state.playback config message true = .ok next ∧ Healthy config next [] := by
  rw [System.playback, received]
  cases transfer with
  | none => exact ⟨_, rfl, { healthy with }⟩
  | some transfer =>
      exact ((healthy.receive (.playback transfer.streamId)).withCounters _).onPlaybackBuffer free
        (within transfer rfl) fun desc => careful.2 transfer desc received

theorem takeBack (healthy : Healthy config state []) {playback : Playback}
    (isMixing : state.mixing = some playback) :
    Healthy config { state with mixing := none } [.playback playback.streamId] := by
  refine { healthy with answered := ?_, mixing := ?_ }
  · intro socket
    have before := healthy.answered socket
    rw [List.append_nil, System.pending, isMixing, Option.toList_some, List.map_singleton] at before
    simpa only [System.pending, Option.toList_none, List.map_nil, List.append_nil] using before
  · intro other isOther
    cases isOther

theorem mix (healthy : Healthy config state []) {playback : Playback}
    (isMixing : state.mixing = some playback) :
    ∃ next, state.mix config playback true = .ok next ∧ Healthy config next [] := by
  rcases healthy.mixing playback isMixing with ⟨mixable, supported⟩
  rcases healthy.mixer.onPlayback mixable with ⟨mixer, isMixer, fits⟩
  rw [System.mix, isMixer]
  exact ⟨_, rfl, ((healthy.takeBack isMixing).withMixer fits).sendStatus rfl fun _ => supported⟩

theorem mixerLoop (healthy : Healthy config state []) :
    ∃ mixer, state.mixer.mixerLoop config.mixer = .ok mixer ∧
      Healthy config { state with mixer } [] := by
  rcases healthy.mixer.mixerLoop with ⟨mixer, isMixer, fits⟩
  exact ⟨mixer, isMixer, healthy.withMixer fits⟩

/-! ## Capture -/

theorem onCaptureBuffer {transfer : Transfer}
    (healthy : Healthy config state [.capture transfer.streamId]) {desc : StreamDesc}
    (isDesc : state.descs[transfer.streamId.toNat]? = some desc) {source : AudioSource}
    (careful : config.Has transfer.streamId .capture → desc.active = true →
      desc.Configured ∧ desc.held ≤ transfer.bufferLength.toNat ∧ source.Steady) (rounds : Nat) :
    ∃ next, state.onCaptureBuffer config source rounds true transfer = .ok next ∧
      ∀ after, next = some after → Healthy config after [] := by
  have first (state : System) : onSocket .rx state.pending = [] := pending_other (by decide) state
  rw [System.onCaptureBuffer]
  dsimp only
  rw [isDesc]
  dsimp only
  split
  · refine ⟨_, rfl, ?_⟩
    rintro after ⟨⟩
    exact healthy.sendStatus (first state) (absurd · (by decide))
  next exists_ =>
    rcases exists_info exists_ with ⟨info, isInfo, isCapture⟩
    rw [isCapture]
    dsimp only [bind, Except.bind]
    cases direction : info.direction with
    | playback =>
        refine ⟨_, rfl, ?_⟩
        rintro after ⟨⟩
        exact healthy.sendStatus (first state) (absurd · (by decide))
    | capture =>
        have has : config.Has transfer.streamId .capture := ⟨info, isInfo, direction⟩
        rw [if_neg (by decide)]
        split
        · refine ⟨_, rfl, ?_⟩
          rintro after ⟨⟩
          exact healthy.sendStatus (first state) fun _ => has
        next active =>
          rcases careful has (Bool.eq_true_of_not_eq_false active) with ⟨configured, room, steady⟩
          rcases configured.captureAudio room steady rounds with ⟨held, isHeld⟩
          rw [isHeld]
          refine ⟨_, rfl, ?_⟩
          intro after isAfter
          rcases Option.map_eq_some_iff.mp isAfter with ⟨held, -, rfl⟩
          have kept : Healthy config { state with
              descs := state.descs.modify transfer.streamId.toNat fun desc => { desc with held } }
              [.capture transfer.streamId] :=
            healthy.modify _ fun _ _ _ handled => handled
          exact kept.sendStatus (first _) fun _ => has

theorem capture (healthy : Healthy config state []) {message : Bytes}
    {transfer : Option Transfer} (received : receiveTransfer message = .ok transfer)
    {source : AudioSource} {rounds : Nat}
    (careful : Careful config state (.capture message source rounds true)) :
    ∃ next, state.capture config source rounds message true = .ok next ∧
      ∀ after, next = some after → Healthy config after [] := by
  rw [System.capture, received]
  cases transfer with
  | none =>
      refine ⟨_, rfl, ?_⟩
      rintro after ⟨⟩
      exact { healthy with }
  | some transfer =>
      rcases careful.2 transfer received with ⟨desc, isDesc, ready⟩
      exact ((healthy.receive (.capture transfer.streamId)).withCounters _).onCaptureBuffer isDesc
        ready rounds

/-! ## Steps -/

theorem step (healthy : Healthy config state []) {label : Label} (wellSized : label.WellSized)
    (careful : Careful config state label) {next : System}
    (stepped : step config state label = some next) : Healthy config next [] := by
  have running : ¬ state.fault.isSome = true := by
    rw [healthy.running]
    decide
  unfold Audio.step at stepped
  rw [if_neg running] at stepped
  cases label with
  | control message grants =>
      rcases healthy.control wellSized careful with ⟨after, isAfter, healthyAfter⟩
      rcases Option.ite_none_left_eq_some.mp stepped with ⟨-, controlled⟩
      rw [isAfter] at controlled
      rcases Option.some.inj controlled with rfl
      exact healthyAfter
  | playback message sent =>
      obtain rfl : sent = true := careful.1
      rcases Option.ite_none_left_eq_some.mp stepped with ⟨waits, played⟩
      have free : state.mixing = none :=
        Option.not_isSome_iff_eq_none.mp fun mixing => waits (.inr mixing)
      rcases receiveTransfer_ok wellSized.1 wellSized.2 with ⟨transfer, received, within⟩
      rcases healthy.playback free received within careful with ⟨after, isAfter, healthyAfter⟩
      rw [isAfter] at played
      rcases Option.some.inj played with rfl
      exact healthyAfter
  | mix sent =>
      obtain rfl : sent = true := careful
      rcases Option.map_eq_some_iff.mp stepped with ⟨playback, isMixing, mixed⟩
      rcases healthy.mix isMixing with ⟨after, isAfter, healthyAfter⟩
      rw [isAfter] at mixed
      exact mixed ▸ healthyAfter
  | capture message source rounds sent =>
      obtain rfl : sent = true := careful.1
      rcases receiveTransfer_ok wellSized.1 wellSized.2 with ⟨transfer, received, -⟩
      rcases healthy.capture received careful with ⟨after, isAfter, healthyAfter⟩
      rcases Option.ite_none_left_eq_some.mp stepped with ⟨-, captured⟩
      rw [isAfter] at captured
      exact healthyAfter next captured
  | mixerLoop =>
      rcases healthy.mixerLoop with ⟨mixer, isMixer, healthyAfter⟩
      dsimp only at stepped
      rw [isMixer] at stepped
      rcases Option.some.inj stepped with rfl
      exact healthyAfter
  | accept =>
      rcases Option.ite_none_right_eq_some.mp stepped with ⟨-, accepted⟩
      rcases Option.some.inj accepted with rfl
      exact { healthy with listening := Option.some_ne_none Ending.notSent |>.symm }

end Healthy

end

/-- Well-sized messages that avoid what `Careful` excludes never end the server, all requests
in them are answered, and those it does not support are refused. -/
theorem audio_server_safe (config : Config) (labels : List Label)
    (wellSized : ∀ label ∈ labels, label.WellSized)
    (careful : Run.Along (step config) (Careful config) (System.initial config) labels) :
    Run.Always (step config) (Safe config) (System.initial config) labels := by
  have kept : ∀ state label next, Healthy config state [] →
      Careful config state label ∧ label.WellSized → step config state label = some next →
        Healthy config next [] := by
    rintro state label next healthy ⟨careful, wellSized⟩ stepped
    exact healthy.step wellSized careful stepped
  exact Run.always_of_along kept (fun state healthy => healthy.safe) (healthy_initial config)
    (careful.and_mem wellSized)

/-! ## Two streams -/

def twoStreams : Config :=
  ⟨[⟨0, .stereo, .capture⟩, ⟨0, .stereo, .playback⟩], ⟨.stereo, 48000⟩⟩

/-- So many bytes of memory, and a socket that takes 208 KiB. -/
def surroundings (memory : Nat) : Grants :=
  ⟨fun size => size ≤ memory, fun size => size ≤ memory, fun size => size ≤ 212992⟩

def control (memory : Nat) (words : List UInt32) : Label :=
  .control (LittleEndian.encodeWords words) (surroundings memory)

def setParams (streamId format : UInt32) : Label :=
  control (2 ^ 36) [0x0101, streamId, 0, 0, 0, 2 + format * 0x100 + 7 * 0x10000]

def start (streamId : UInt32) : Label := control (2 ^ 36) [0x0104, streamId]

def pcmInfo (memory : Nat) (startId count : UInt32) : Label :=
  control memory [0x0100, startId, count, 0]

def play (streamId length : UInt32) : Label :=
  .playback (LittleEndian.encodeWords [streamId, 0, length]) true

def fullSource : AudioSource where
  answer _ samplesPerChannel := .delivered samplesPerChannel
  bounded := by
    rintro call samplesPerChannel count ⟨⟩
    exact Nat.le_refl _

def captureInto (streamId length : UInt32) : Label :=
  .capture (LittleEndian.encodeWords [streamId, 0, length]) fullSource 10 true

instance : ∀ label : Label, Decidable label.WellSized
  | .control _ _ => inferInstanceAs (Decidable (_ ≤ _))
  | .playback _ _ | .capture _ _ _ _ => inferInstanceAs (Decidable (_ ∧ (_ → _)))
  | .mix _ | .mixerLoop | .accept => isTrue trivial

def captureAndPlay : List Label :=
  [setParams 0 5, start 0, captureInto 0 4000, pcmInfo (2 ^ 36) 1 2, setParams 1 5, start 1, play 1 16,
    .mix true]

theorem audio_server_safe_two_streams :
    (∀ label ∈ captureAndPlay, label.WellSized) ∧
      Run.Always (step twoStreams) (Safe twoStreams) (System.initial twoStreams)
        captureAndPlay := by
  have wellSized : ∀ label ∈ captureAndPlay, label.WellSized := by decide
  have careful : Run.Along (step twoStreams) (Careful twoStreams) (System.initial twoStreams)
      captureAndPlay := by
    refine .cons rfl ?_ (.cons rfl ?_ (.cons rfl ?_ (.cons rfl ?_ (.cons rfl ?_ (.cons rfl ?_
      (.cons rfl ?_ (.cons rfl rfl trivial)))))))
    · rintro command ⟨⟩
      refine ⟨?_, by decide⟩
      rintro info bits ⟨⟩ _ ⟨⟩
      exact (by decide : 8 ≤ 16)
    · rintro command ⟨⟩
      exact ⟨trivial, by decide⟩
    · refine ⟨rfl, ?_⟩
      rintro transfer ⟨⟩
      exact ⟨_, rfl, fun _ _ => ⟨by decide, by decide, nofun⟩⟩
    · rintro command ⟨⟩
      exact ⟨fun _ => .inl (by decide), by decide⟩
    · rintro command ⟨⟩
      refine ⟨?_, by decide⟩
      rintro info bits ⟨⟩ _ ⟨⟩
      exact (by decide : 16 ∈ [8, 16, 32])
    · rintro command ⟨⟩
      exact ⟨trivial, by decide⟩
    · refine ⟨rfl, ?_⟩
      rintro transfer desc ⟨⟩ ⟨⟩ _ _
      decide
  exact ⟨wellSized, audio_server_safe twoStreams captureAndPlay wellSized careful⟩

/-- Messages that end the server: captured audio is asked for on a stream that does not
exist; a stream is played without parameters; samples of 24 bits and of 64 bits are played;
more is held than the second buffer takes; a query has so many streams that the sum of its
fields is zero; there is no memory for the streams of a query; and the reply with them is too
large for the socket. -/
def endings : List (List Label) :=
  [[captureInto 2 16],
    [start 1, play 1 16, .mix true],
    [setParams 1 11, start 1, play 1 16, .mix true],
    [setParams 1 20, start 1, play 1 16, .mix true],
    [setParams 0 5, start 0, captureInto 0 16, captureInto 0 16],
    [pcmInfo (2 ^ 38) 1 0xffffffff],
    [pcmInfo (2 ^ 36) 0 0xffffffff],
    [pcmInfo (2 ^ 36) 0 0x01000000]]

theorem outcomes_of_endings :
    endings.map (fun labels =>
        (Run.run (step twoStreams) (System.initial twoStreams) labels).map fun final =>
          (final.fault, final.controlEnd)) =
      [some (some .outOfRange, none), some (some .divisionByZero, none),
        some (some .check, none), some (some .outOfRange, none),
        some (some .outsideBuffer, none), some (some .outOfRange, none),
        some (some .badAlloc, none), some (none, some .notSent)] := by
  decide +kernel

theorem audio_server_ends :
    endings.Forall fun labels => (∀ label ∈ labels, label.WellSized) ∧
      ¬ Run.Always (step twoStreams) (Safe twoStreams) (System.initial twoStreams) labels := by
  have wellSized : ∀ labels ∈ endings, ∀ label ∈ labels, label.WellSized := by decide
  rw [List.forall_iff_forall_mem]
  intro labels member
  refine ⟨wellSized labels member, ?_⟩
  intro always
  have outcome := List.mem_map_of_mem (f := fun labels =>
    (Run.run (step twoStreams) (System.initial twoStreams) labels).map fun final =>
      (final.fault, final.controlEnd)) member
  rw [outcomes_of_endings] at outcome
  cases reached : Run.run (step twoStreams) (System.initial twoStreams) labels with
  | none =>
      rw [reached] at outcome
      exact absurd outcome (by decide)
  | some final =>
      have safe := always.final reached
      have listening := safe.listening
      rw [reached, Option.map_some, safe.running] at outcome
      generalize final.controlEnd = ending at outcome listening
      revert outcome listening
      rcases ending with - | - | - <;> decide

end Cuttlefish.Audio
