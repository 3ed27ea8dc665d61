/-
This file proves what a sending run puts on the wire. Each loop is given a
message and a schedule of what every `send` accepts; whatever the schedule, the
accepted bytes are a prefix of the message, they are all of it when the loop
reports success, and a schedule without failures is always a success. A failure is met
exactly if the sends before it do not fill all the buffers.

A run of `send_file` is then described by the message it sends and the response
it reads.
-/

import UniversalAirdrop.TcpClient
import UniversalAirdrop.Library.Filling

namespace UniversalAirdrop

open Imperative Streams Filling

/-! ### The bytes of a log -/

@[simp] theorem wire_append (first second : List ClientEvent) :
    wire (first ++ second) = wire first ++ wire second := List.flatMap_append

@[simp] theorem wire_sent (bytes : Bytes) : wire [.sent bytes] = bytes := by
  simp [wire]

@[simp] theorem wire_reportProgress (reportsProgress : Bool) (totalSent totalSize : ℕ) :
    wire (reportProgress reportsProgress totalSent totalSize) = [] := by
  cases reportsProgress <;> rfl

/-! ### One send -/

/-- No `send` of a schedule fails. -/
def Reliable (sends : ℕ → SendOutcome) : Prop := ∀ index, ∃ count, sends index = .accepts count

/-- How much a `send` accepts of a buffer that has enough. -/
def SendOutcome.amount : SendOutcome → ℕ
  | .accepts asked => min (max 1 asked) sendMax
  | _ => 0

def amounts (sends : ℕ → SendOutcome) : ℕ → ℕ := fun index => (sends index).amount

/-- The outcome of the `send` at which sending stops. -/
def SendStop.outcome : SendStop → SendOutcome
  | .failed => .fails
  | .killed => .brokenPipe

/-- What one `send` does. -/
theorem ClientSocket.send_cases (socket : ClientSocket) (bytes : Bytes) :
    (∃ asked after, socket.sends 0 = .accepts asked ∧
      socket.send bytes = (.ok (min (amounts socket.sends 0) bytes.length), after) ∧
      (∀ index, after.sends index = socket.sends (1 + index)) ∧
      wire after.log = wire socket.log ++ bytes.take (min (amounts socket.sends 0) bytes.length)) ∨
    ∃ stop after, socket.sends 0 = stop.outcome ∧ socket.send bytes = (.error stop, after) ∧
      wire after.log = wire socket.log := by
  have silent : wire (socket.log ++ [.sendFailed]) = wire socket.log := by
    rw [wire_append]
    exact List.append_nil _
  unfold ClientSocket.send
  cases asked : socket.sends 0 with
  | fails => exact Or.inr ⟨.failed, _, rfl, rfl, silent⟩
  | brokenPipe => exact Or.inr ⟨.killed, _, rfl, rfl, silent⟩
  | accepts asks =>
    have amount : min (amounts socket.sends 0) bytes.length =
        min (max 1 asks) (min sendMax bytes.length) := by
      rw [amounts, asked, SendOutcome.amount, min_assoc]
    refine Or.inl ⟨asks, _, rfl, by rw [amount], fun index => by rw [Nat.add_comm 1], ?_⟩
    rw [wire_append, wire_sent, amount]

/-! ### Following a schedule -/

/-- A sending call or loop makes the next sends of the schedule, and all of them accept, except that
the last one is where it stopped. When it has not stopped they have just filled its buffers, and
otherwise not all of them. -/
def Follows (start : ClientSocket) (sizes : List ℕ) {Value : Type}
    (result : Except SendStop Value × ClientSocket) : Prop :=
  ∃ made, (∀ index < made, ∃ count, start.sends index = .accepts count) ∧
    match result.1 with
    | .ok _ => Exact (amounts start.sends) sizes made ∧
        ∀ index, result.2.sends index = start.sends (made + index)
    | .error stop => start.sends made = stop.outcome ∧ ¬ Fills (amounts start.sends) sizes made

namespace Follows

variable {start middle : ClientSocket} {sizes more : List ℕ} {First Second : Type}

theorem nil (socket : ClientSocket) : Follows socket [] (.ok (), socket) :=
  ⟨0, nofun, exact_nil _, fun index => by rw [Nat.zero_add]⟩

/-- One call after another. -/
theorem append {value : First} {result : Except SendStop Second × ClientSocket}
    (before : Follows start sizes (.ok value, middle)) (next : Follows middle more result) :
    Follows start (sizes ++ more) result := by
  obtain ⟨made, accepted, filled, shifted⟩ := before
  obtain ⟨further, acceptedLater, left⟩ := next
  have amountsLeft : amounts middle.sends = after (amounts start.sends) made :=
    funext fun index => congrArg SendOutcome.amount (shifted index)
  refine ⟨made + further, fun index earlier => ?_, ?_⟩
  · by_cases first : index < made
    · exact accepted index first
    · obtain ⟨count, accepts⟩ := acceptedLater (index - made) (by omega)
      rw [shifted, Nat.add_sub_of_le (not_lt.mp first)] at accepts
      exact ⟨count, accepts⟩
  · obtain ⟨outcome, socket⟩ := result
    cases outcome with
    | ok value =>
      obtain ⟨filledLater, shiftedLater⟩ := left
      rw [amountsLeft] at filledLater
      exact ⟨filled.append filledLater, fun index => by
        rw [shiftedLater, shifted, Nat.add_assoc]⟩
    | error stop =>
      obtain ⟨stopped, unfilled⟩ := left
      rw [amountsLeft] at unfilled
      exact ⟨(shifted further).symm.trans stopped, filled.fills_append_iff.not.mpr unfilled⟩

/-- What a call that has stopped would have done next does not matter. -/
theorem of_error {stop : SendStop} (stopped : @Follows start sizes First (.error stop, middle))
    (others : List ℕ) : @Follows start (sizes ++ others) Second (.error stop, middle) := by
  obtain ⟨made, accepted, failed, unfilled⟩ := stopped
  exact ⟨made, accepted, failed, not_fills_append unfilled⟩

/-- On a schedule without failures no call stops. -/
theorem ok_of_reliable {result : Except SendStop First × ClientSocket}
    (follows : Follows start sizes result) (reliable : Reliable start.sends) :
    ∃ value, result.1 = .ok value := by
  obtain ⟨made, accepted, left⟩ := follows
  obtain ⟨outcome, socket⟩ := result
  obtain ⟨count, accepts⟩ := reliable made
  cases outcome with
  | ok value => exact ⟨value, rfl⟩
  | error stop =>
    have stopped : start.sends made = stop.outcome := left.1
    rw [accepts] at stopped
    cases stop <;> cases stopped

/-- A call stops at a `send` exactly if those before it accept and do not fill its buffers. -/
theorem error_iff {result : Except SendStop First × ClientSocket} {stop : SendStop}
    (follows : Follows start sizes result) :
    result.1 = .error stop ↔ ∃ index, start.sends index = stop.outcome ∧
      (∀ earlier < index, ∃ count, start.sends earlier = .accepts count) ∧
      ¬ Fills (amounts start.sends) sizes index := by
  obtain ⟨made, accepted, left⟩ := follows
  obtain ⟨outcome, socket⟩ := result
  have refused (stop : SendStop) (count : ℕ) : stop.outcome ≠ .accepts count := by
    cases stop <;> exact nofun
  constructor
  · rintro rfl
    exact ⟨made, left.1, accepted, left.2⟩
  · rintro ⟨index, stopped, acceptedBefore, unfilled⟩
    -- The call has made no send past this one.
    have upTo : made ≤ index := by
      by_contra past
      obtain ⟨count, accepts⟩ := accepted index (not_le.mp past)
      exact refused stop count (stopped.symm.trans accepts)
    cases outcome with
    | ok value => exact absurd (left.1.fills.mono upTo) unfilled
    | error other =>
      have stoppedAt : start.sends made = other.outcome := left.1
      obtain earlier | rfl := upTo.lt_or_eq
      · obtain ⟨count, accepts⟩ := acceptedBefore made earlier
        exact absurd (stoppedAt.symm.trans accepts) (refused other count)
      · rw [stoppedAt] at stopped
        cases stop <;> cases other <;> first | rfl | cases stopped

end Follows

/-! ### Sending a message -/

/-- What a sending loop makes of a message in buffers of these sizes: it follows the schedule, an
end without a stop means that all of the message was accepted, and a stop that less of it was. -/
structure Transmits (start : ClientSocket) (sizes : List ℕ) (message : Bytes)
    (result : Except SendStop Unit × ClientSocket) : Prop where
  follows : Follows start sizes result
  whole : result.1 = .ok () → wire result.2.log = wire start.log ++ message
  part : ∀ stop, result.1 = .error stop →
    ∃ count < message.length, wire result.2.log = wire start.log ++ message.take count

namespace Transmits

variable {start middle : ClientSocket} {sizes more : List ℕ} {first second : Bytes}
  {result : Except SendStop Unit × ClientSocket}

theorem nil (socket : ClientSocket) : Transmits socket [] [] (.ok (), socket) :=
  ⟨Follows.nil socket, fun _ => (List.append_nil _).symm, nofun⟩

/-- Two messages one after the other. -/
theorem append (before : Transmits start sizes first (.ok (), middle))
    (next : Transmits middle more second result) :
    Transmits start (sizes ++ more) (first ++ second) result where
  follows := before.follows.append next.follows
  whole success := by rw [next.whole success, before.whole rfl, List.append_assoc]
  part stop failure := by
    obtain ⟨count, fewer, accepted⟩ := next.part stop failure
    refine ⟨first.length + count, ?_, ?_⟩
    · rw [List.length_append]
      omega
    · rw [accepted, before.whole rfl, List.take_length_add_append, List.append_assoc]

/-- A failure in the first message is a failure of both. -/
theorem append_of_error {stop : SendStop}
    (before : Transmits start sizes first (.error stop, middle)) (others : List ℕ) :
    Transmits start (sizes ++ others) (first ++ second) (.error stop, middle) where
  follows := before.follows.of_error others
  whole := nofun
  part _ _ := by
    obtain ⟨count, fewer, accepted⟩ := before.part stop rfl
    refine ⟨count, ?_, ?_⟩
    · rw [List.length_append]
      omega
    · rw [accepted, List.take_append_of_le_length fewer.le]

/-- Reports between the messages accept no bytes. -/
theorem report (before : Transmits start sizes first (.ok (), middle)) (reportsProgress : Bool)
    (totalSent totalSize : ℕ) :
    Transmits start sizes first (.ok (), { middle with
      log := middle.log ++ reportProgress reportsProgress totalSent totalSize }) where
  follows := before.follows
  whole _ := by
    show wire (middle.log ++ _) = _
    rw [wire_append, wire_reportProgress, List.append_nil, before.whole rfl]
  part := nofun

end Transmits

/-- At the head of every pass of `send_all` the counted bytes were accepted. They are what the sends
so far have accepted, each of which found the buffer unfilled. -/
structure SendInvariant (start : ClientSocket) (data : Bytes) (state : SendState) : Prop where
  accepted : wire state.socket.log = wire start.log ++ data.take state.total
  made : ∃ made, (∀ index < made, ∃ count, start.sends index = .accepts count) ∧
    (∀ index, state.socket.sends index = start.sends (made + index)) ∧
    (∀ earlier < made, ∑ index ∈ Finset.range earlier, amounts start.sends index < data.length) ∧
    state.total = min (∑ index ∈ Finset.range made, amounts start.sends index) data.length

theorem sendAllLoop_pass {start : ClientSocket} {data : Bytes} {state next : SendState}
    (holds : SendInvariant start data state)
    (stepped : (sendAllLoop data).step state = .inl next) : SendInvariant start data next := by
  obtain ⟨accepted, made, acceptedAll, shifted, unfilled, total⟩ := holds
  simp only [sendAllLoop] at stepped
  split at stepped
  case isFalse => cases stepped
  case isTrue unfinished =>
    obtain ⟨asked, socket, accepts, sent, shiftedOnce, wired⟩ | ⟨stop, socket, -, failed, -⟩ :=
      state.socket.send_cases (data.drop state.total)
    · rw [sent] at stepped
      cases stepped
      have amount : amounts state.socket.sends 0 = amounts start.sends made := by
        rw [amounts, shifted, Nat.add_zero]
        rfl
      rw [shifted, Nat.add_zero] at accepts
      rw [amount, List.length_drop] at wired ⊢
      refine ⟨?_, made + 1, fun index earlier => ?_, fun index => ?_, fun earlier before => ?_, ?_⟩
      · rw [wired, accepted, List.append_assoc, ← List.take_add]
      · obtain before | rfl := Nat.lt_succ_iff_lt_or_eq.mp earlier
        · exact acceptedAll index before
        · exact ⟨asked, accepts⟩
      · rw [shiftedOnce, shifted, Nat.add_assoc]
      · obtain before | rfl := Nat.lt_succ_iff_lt_or_eq.mp before
        · exact unfilled earlier before
        · omega
      · show state.total + min _ (data.length - state.total) = _
        rw [Finset.sum_range_succ]
        omega
    · rw [failed] at stepped
      cases stepped

theorem sendAllLoop_leave {start : ClientSocket} {data : Bytes} {state : SendState}
    {result : Except SendStop Unit × ClientSocket} (holds : SendInvariant start data state)
    (stepped : (sendAllLoop data).step state = .inr result) :
    Transmits start [data.length] data result := by
  obtain ⟨accepted, made, acceptedAll, shifted, unfilled, total⟩ := holds
  simp only [sendAllLoop] at stepped
  split at stepped
  case isFalse complete =>
    cases stepped
    refine ⟨⟨made, acceptedAll, exact_singleton unfilled (by omega), shifted⟩, fun _ => ?_, nofun⟩
    rw [accepted, List.take_of_length_le (not_lt.mp complete)]
  case isTrue unfinished =>
    obtain ⟨asked, socket, -, sent, -⟩ | ⟨stop, socket, stopped, failed, wired⟩ :=
      state.socket.send_cases (data.drop state.total)
    · rw [sent] at stepped
      cases stepped
    · rw [failed] at stepped
      cases stepped
      rw [shifted, Nat.add_zero] at stopped
      refine ⟨⟨made, acceptedAll, stopped, fills_singleton.not.mpr (by omega)⟩, nofun,
        fun _ _ => ⟨state.total, unfinished, wired.trans accepted⟩⟩

/-- `send_all` transmits its buffer. -/
theorem sendAll_transmits (start : ClientSocket) (data : Bytes) :
    Transmits start [data.length] data (sendAll start data) :=
  (sendAllLoop data).run_spec (SendInvariant start data) (Transmits start [data.length] data)
    ⟨(List.append_nil _).symm, 0, nofun, fun index => by rw [Nat.zero_add], nofun,
      (Nat.zero_min _).symm⟩
    (fun _ _ => sendAllLoop_pass) fun _ _ => sendAllLoop_leave

/-- The number of chunks that hold `size` bytes: the quotient, rounded up. -/
def chunkCount (size : ℕ) : ℕ := (size + chunkSize - 1) / chunkSize

/-- The sizes of the chunks: full ones, and what is left. -/
def chunkSizes (size : ℕ) : List ℕ :=
  List.replicate (size / chunkSize) chunkSize ++
    if size % chunkSize = 0 then [] else [size % chunkSize]

@[simp] theorem chunkSizes_zero : chunkSizes 0 = [] := rfl

/-- The first chunk, and those of what is left. -/
theorem chunkSizes_of_pos {size : ℕ} (positive : 0 < size) :
    chunkSizes size = min chunkSize size :: chunkSizes (size - min chunkSize size) := by
  by_cases full : chunkSize ≤ size
  · have quotient : size / chunkSize = (size - chunkSize) / chunkSize + 1 :=
      Nat.div_eq_sub_div (by decide) full
    rw [Nat.min_eq_left full, chunkSizes, chunkSizes, quotient, List.replicate_succ,
      Nat.mod_eq_sub_mod full, List.cons_append]
  · have short : size < chunkSize := not_le.mp full
    rw [Nat.min_eq_right short.le, Nat.sub_self, chunkSizes, Nat.div_eq_of_lt short,
      Nat.mod_eq_of_lt short, if_neg positive.ne']
    rfl

/-- At the head of every pass of the chunk loop the counted bytes were accepted, in chunks of which
others are left. -/
structure ChunkInvariant (start : ClientSocket) (payload : Bytes) (state : ChunkState) :
    Prop where
  bounded : state.totalSent ≤ payload.length
  accepted : ∃ sizes, sizes ++ chunkSizes (payload.length - state.totalSent) =
      chunkSizes payload.length ∧
    Transmits start sizes (payload.take state.totalSent) (.ok (), state.socket)

/-- The buffer of a chunk. -/
theorem length_chunk (payload : Bytes) (totalSent : ℕ) :
    ((payload.drop totalSent).take (min chunkSize (payload.length - totalSent))).length =
      min chunkSize (payload.length - totalSent) := by
  rw [List.length_take, List.length_drop]
  omega

theorem chunkLoop_pass {reportsProgress : Bool} {start : ClientSocket} {payload : Bytes}
    {state next : ChunkState} (holds : ChunkInvariant start payload state)
    (stepped : (chunkLoop reportsProgress payload).step state = .inl next) :
    ChunkInvariant start payload next := by
  simp only [chunkLoop] at stepped
  split at stepped
  case isFalse => cases stepped
  case isTrue unfinished =>
    split at stepped
    case h_1 => cases stepped
    case h_2 socket sent =>
      cases stepped
      obtain ⟨sizes, all, accepted⟩ := holds.accepted
      have chunk := sendAll_transmits state.socket
        ((payload.drop state.totalSent).take (min chunkSize (payload.length - state.totalSent)))
      rw [sent, length_chunk] at chunk
      refine ⟨?_, sizes ++ [min chunkSize (payload.length - state.totalSent)], ?_, ?_⟩
      · show state.totalSent + _ ≤ payload.length
        omega
      · rw [List.append_assoc, List.singleton_append, ← Nat.sub_sub,
          ← chunkSizes_of_pos (Nat.sub_pos_of_lt unfinished), all]
      · rw [List.take_add]
        exact (accepted.append chunk).report _ _ _

theorem chunkLoop_leave {reportsProgress : Bool} {start : ClientSocket} {payload : Bytes}
    {state : ChunkState} {result : Except SendStop Unit × ClientSocket}
    (holds : ChunkInvariant start payload state)
    (stepped : (chunkLoop reportsProgress payload).step state = .inr result) :
    Transmits start (chunkSizes payload.length) payload result := by
  obtain ⟨bounded, sizes, all, accepted⟩ := holds
  simp only [chunkLoop] at stepped
  split at stepped
  case isFalse complete =>
    cases stepped
    have whole : state.totalSent = payload.length := Nat.le_antisymm bounded (not_lt.mp complete)
    rw [whole, Nat.sub_self, chunkSizes_zero, List.append_nil] at all
    rwa [whole, List.take_length, all] at accepted
  case isTrue unfinished =>
    split at stepped
    case h_2 => cases stepped
    case h_1 stop socket failed =>
      cases stepped
      have chunk := sendAll_transmits state.socket
        ((payload.drop state.totalSent).take (min chunkSize (payload.length - state.totalSent)))
      rw [failed, length_chunk] at chunk
      -- What comes after the chunk that failed is left.
      rw [chunkSizes_of_pos (Nat.sub_pos_of_lt unfinished), ← List.singleton_append,
        ← List.append_assoc] at all
      have both : Transmits start (chunkSizes payload.length)
          (payload.take (state.totalSent + min chunkSize (payload.length - state.totalSent)) ++
            payload.drop (state.totalSent + min chunkSize (payload.length - state.totalSent)))
          (.error stop, socket) := by
        rw [← all, List.take_add]
        exact (accepted.append chunk).append_of_error _
      rwa [List.take_append_drop] at both

/-- The chunk loop transmits its payload. -/
theorem chunkLoop_transmits (reportsProgress : Bool) (start : ClientSocket) (payload : Bytes) :
    Transmits start (chunkSizes payload.length) payload
      ((chunkLoop reportsProgress payload).run { socket := start, totalSent := 0 }) :=
  (chunkLoop reportsProgress payload).run_spec (ChunkInvariant start payload)
    (Transmits start (chunkSizes payload.length) payload)
    ⟨Nat.zero_le _, [], rfl, Transmits.nil start⟩ (fun _ _ => chunkLoop_pass)
    fun _ _ => chunkLoop_leave

/-- The sizes of the buffers of a message: the header, and the chunks of the payload. -/
def bufferSizes (header : FileHeader) (payload : Bytes) : List ℕ :=
  (serializeFileHeader header).length :: chunkSizes payload.length

/-- The header is transmitted and then the payload. -/
theorem transmit_transmits (reportsProgress : Bool) (start : ClientSocket)
    (header : FileHeader) (payload : Bytes) :
    Transmits start (bufferSizes header payload) (serializeFileHeader header ++ payload)
      (transmit reportsProgress start header payload) := by
  have headerSent := sendAll_transmits start (serializeFileHeader header)
  unfold transmit
  cases sent : sendAll start (serializeFileHeader header) with
  | mk outcome socket =>
    rw [sent] at headerSent
    cases outcome with
    | error stop => exact headerSent.append_of_error _
    | ok value => exact headerSent.append (chunkLoop_transmits reportsProgress socket payload)

/-! ### The run of a sender -/

/-- The run gets to reading the response: there is a connection, and all of the message was
sent. -/
structure ReachesResponse (sender : Sender) (network : Network) (header : FileHeader)
    (payload : Bytes) : Prop where
  socketCreated : network.socketCreated = true
  addressValid : network.addressValid = true
  connected : network.connected = true
  transmitted : (transmit sender.reportsProgress { sends := network.sends, log := [] } header
    payload).1 = .ok ()

@[simp] theorem wire_awaitResponse (reply : Channel UInt8) :
    wire (awaitResponse reply).events = [] := by
  unfold awaitResponse
  cases reply.recv (respBufSize - 1) with
  | chunk resp after => rfl
  | ended ending => cases ending <;> rfl

/-- The number of an acknowledgement has one digit. -/
theorem containsAck_iff {resp : Bytes} : containsAck resp = true ↔ (52 : UInt8) ∈ resp := by
  have digits : Numeral.decimal MsgType.fileAck.code = [52] := by decide
  rw [containsAck, decide_eq_true_iff, digits]
  exact List.singleton_infix_iff 52 resp

/-- The response counts as a success exactly when the first read returns bytes with the number
in them. -/
theorem awaitResponse_result_true_iff {reply : Channel UInt8} :
    (awaitResponse reply).result = .ok true ↔
      ∃ resp after, reply.recv (respBufSize - 1) = .chunk resp after ∧
        containsAck resp = true := by
  unfold awaitResponse
  cases reply.recv (respBufSize - 1) with
  | chunk resp after =>
    constructor
    · intro success
      exact ⟨resp, after, rfl, Except.ok.inj success⟩
    · rintro ⟨resp', after', same, success⟩
      cases same
      exact congrArg Except.ok success
  | ended ending =>
    refine iff_of_false ?_ nofun
    cases ending with
    | silent => exact nofun
    | failed => exact nofun
    | closed =>
      intro success
      have empty : containsAck [] = false := by decide
      rw [show containsAck [] = true from Except.ok.inj success] at empty
      cases empty

section Run

variable {sender : Sender} {network : Network} {header : FileHeader} {payload : Bytes}

/-- What a connected run does once its sending loops have ended. -/
def conclude (reply : Channel UInt8) : Except SendStop Unit → ClientAct Bool
  | .ok () => awaitResponse reply
  | .error .failed => do
    Act.emit .close
    return false
  | .error .killed => Act.halt .killed

/-- A connected run logs the calls of its loops and concludes. -/
theorem sendPayload_of_connected (created : network.socketCreated = true)
    (valid : network.addressValid = true) (connected : network.connected = true)
    {outcome : Except SendStop Unit} {socket : ClientSocket}
    (transmitted : transmit sender.reportsProgress { sends := network.sends, log := [] } header
      payload = (outcome, socket)) :
    (sendPayload sender network header payload).events = .openSocket ::
        (socket.log ++ (conclude (network.reply (wire socket.log)) outcome).events) ∧
      (sendPayload sender network header payload).result =
        (conclude (network.reply (wire socket.log)) outcome).result := by
  have accepted : ¬ (¬ network.addressValid = true ∨ ¬ network.connected = true) := by
    simp [valid, connected]
  rw [sendPayload, if_neg (not_not_intro created), if_neg accepted, transmitted]
  cases outcome with
  | ok value => exact ⟨rfl, rfl⟩
  | error stop =>
    cases stop with
    | failed => exact ⟨rfl, rfl⟩
    | killed => exact ⟨rfl, rfl⟩

/-- A run that gets to the response logs the sending of the whole message, and then does as it
does with the response. -/
theorem sendPayload_eq_of_reaches (reaches : ReachesResponse sender network header payload) :
    ∃ log, wire log = serializeFileHeader header ++ payload ∧
      (sendPayload sender network header payload).events = .openSocket :: (log ++
        (awaitResponse (network.reply (serializeFileHeader header ++ payload))).events) ∧
      (sendPayload sender network header payload).result =
        (awaitResponse (network.reply (serializeFileHeader header ++ payload))).result := by
  have transmitted := reaches.transmitted
  have sent := transmit_transmits sender.reportsProgress
    { sends := network.sends, log := [] } header payload
  cases run : transmit sender.reportsProgress { sends := network.sends, log := [] } header
      payload with
  | mk outcome socket =>
    rw [run] at sent transmitted
    obtain rfl : outcome = .ok () := transmitted
    have whole : wire socket.log = serializeFileHeader header ++ payload := sent.whole rfl
    obtain ⟨events, result⟩ := sendPayload_of_connected reaches.socketCreated
      reaches.addressValid reaches.connected run
    rw [whole] at events result
    exact ⟨socket.log, whole, events, result⟩

/-- What a run that gets to the response has sent is the whole message, and its result is what
it makes of the response. -/
theorem sendPayload_of_reaches (reaches : ReachesResponse sender network header payload) :
    wire (sendPayload sender network header payload).events =
        serializeFileHeader header ++ payload ∧
      (sendPayload sender network header payload).result =
        (awaitResponse (network.reply (serializeFileHeader header ++ payload))).result := by
  obtain ⟨log, whole, events, result⟩ := sendPayload_eq_of_reaches reaches
  refine ⟨?_, result⟩
  rw [events]
  show wire ([.openSocket] ++ (log ++ _)) = _
  rw [wire_append, wire_append, wire_awaitResponse, List.append_nil, whole]
  rfl

/-- A run that reports success got to the response. -/
theorem reaches_of_sendPayload_true
    (success : (sendPayload sender network header payload).result = .ok true) :
    ReachesResponse sender network header payload := by
  unfold sendPayload at success
  by_cases created : network.socketCreated = true
  case neg =>
    rw [if_pos created] at success
    cases success
  case pos =>
    rw [if_neg (not_not_intro created)] at success
    by_cases refused : ¬ network.addressValid = true ∨ ¬ network.connected = true
    · rw [if_pos refused] at success
      cases success
    · rw [if_neg refused] at success
      rw [not_or, not_not, not_not] at refused
      cases run : transmit sender.reportsProgress { sends := network.sends, log := [] } header
          payload with
      | mk outcome socket =>
        cases outcome with
        | error stop =>
          rw [run] at success
          cases stop <;> cases success
        | ok value => exact ⟨created, refused.1, refused.2, by rw [run]⟩

/-- A run over a connection whose sends do not fail gets to the response. -/
theorem reaches_of_reliable (created : network.socketCreated = true)
    (valid : network.addressValid = true) (connected : network.connected = true)
    (reliable : Reliable network.sends) : ReachesResponse sender network header payload := by
  obtain ⟨value, transmitted⟩ := (transmit_transmits sender.reportsProgress
    { sends := network.sends, log := [] } header payload).follows.ok_of_reliable reliable
  exact ⟨created, valid, connected, transmitted⟩

end Run

end UniversalAirdrop
