/-
This file takes `handle_client` apart into the steps it can be interrupted
between: one `recv` of the header or of the payload, the creation of the
directory, the decoding, the save, the response and the log line after it. A
phase is a place between two steps, with what the handler holds there.

The steps are those of the whole run: what is left to do in a phase is one step
and then what is left in the phase it leads to.
-/

import UniversalAirdrop.Receiving

namespace UniversalAirdrop

open Imperative Streams

/-! ### Phases and steps -/

/-- A place between two steps of a handler, with what the handler holds there. -/
inductive Phase
  | readingHeader (state : HeaderState)
  | makingDirectory (header : FileHeader) (overflow : Bytes) (inbound : Channel UInt8)
  | readingPayload (header : FileHeader) (state : PayloadState)
  | decoding (header : FileHeader) (payload : Bytes)
  | saving (header : FileHeader) (data : Bytes)
  | responding (ok : Bool)
  | reporting (ok : Bool)
  | ended

/-- The phase a handler starts in. -/
def Phase.start (connection : Connection) : Phase :=
  .readingHeader { inbound := connection.inbound, headerStr := [] }

/-- The thread of the handler has not returned. -/
def Phase.live : Phase → Bool
  | .ended => false
  | _ => true

/-- The next step reads the receive directory or the passphrase of the server object. -/
def Phase.readsMember : Phase → Bool
  | .makingDirectory .. => true
  | .decoding header _ => header.encrypted
  | .saving .. => true
  | .reporting ok => ok
  | _ => false

/-- One step of `handle_client`. -/
def Phase.advance (server : TcpServer) (host : Host) (connection : Connection) :
    Phase → ServerAct Phase
  | .readingHeader state =>
    match headerLoop.step state with
    | .inl next => pure (.readingHeader next)
    | .inr .blocked => Act.halt .blocked
    | .inr .failed => do
      Act.emit .close
      return .ended
    | .inr (.found headerStr overflow inbound) => do
      match ← call (parseFileHeader headerStr) with
      | none =>
        Act.emit .close
        return .ended
      | some header => return .makingDirectory header overflow inbound
  | .makingDirectory header overflow inbound => do
    Act.emit (.makeDirectory (cStr server.receiveDir))
    call (vectorReserve host.allocates header.size.toNat)
    return .readingPayload header (payloadEntry header.size.toNat overflow inbound)
  | .readingPayload header state =>
    match (payloadLoop header.size.toNat).step state with
    | .inl next => pure (.readingPayload header next)
    | .inr .blocked => Act.halt .blocked
    | .inr (.ended payload) => pure (.decoding header payload)
  | .decoding header payload => do
    match ← Act.lift (plaintextOf server host header payload) with
    | none => return .responding false
    | some data => return .saving header data
  | .saving header data => do
    let ok ← writeFile host.storage server.receiveDir header.filename data
    return .responding ok
  | .responding ok => do
    Act.emit (.send (respStr (ackOrErr ok)))
    if connection.brokenPipe then Act.halt .killed
    else return .reporting ok
  | .reporting _ => do
    -- After a save, the log line names the receive directory.
    Act.emit .close
    return .ended
  | .ended => return .ended

/-- What is left of a run of `handle_client` in a phase. -/
def Phase.remaining (server : TcpServer) (host : Host) (connection : Connection) :
    Phase → ServerAct Unit
  | .readingHeader state =>
    match headerLoop.run state with
    | .blocked => Act.halt .blocked
    | .failed => Act.emit .close
    | .found headerStr overflow inbound => do
      match ← call (parseFileHeader headerStr) with
      | none => Act.emit .close
      | some header => receiveFile server host connection header overflow inbound
  | .makingDirectory header overflow inbound =>
    receiveFile server host connection header overflow inbound
  | .readingPayload header state =>
    match (payloadLoop header.size.toNat).run state with
    | .blocked => Act.halt .blocked
    | .ended payload => do
      let ok ← savePayload server host header payload
      respond connection ok
  | .decoding header payload => do
    let ok ← savePayload server host header payload
    respond connection ok
  | .saving header data => do
    let ok ← writeFile host.storage server.receiveDir header.filename data
    respond connection ok
  | .responding ok => respond connection ok
  | .reporting _ => Act.emit .close
  | .ended => return ()

theorem remaining_start (server : TcpServer) (host : Host) (connection : Connection) :
    (Phase.start connection).remaining server host connection =
      handleClient server host connection := rfl

/-- What is left to do is one step and then what is left after it. -/
theorem remaining_eq_advance (server : TcpServer) (host : Host) (connection : Connection)
    (phase : Phase) :
    phase.remaining server host connection =
      phase.advance server host connection >>= Phase.remaining server host connection := by
  cases phase with
  | readingHeader state =>
    rw [Phase.remaining, Phase.advance]
    cases stepped : headerLoop.step state with
    | inl next =>
      rw [headerLoop.run_of_continue stepped]
      rfl
    | inr read =>
      rw [headerLoop.run_of_leave stepped]
      cases read with
      | blocked => rfl
      | failed => rfl
      | found headerStr overflow inbound =>
        dsimp only
        cases parseFileHeader headerStr with
        | error fault => rfl
        | ok parsed => cases parsed <;> rfl
  | makingDirectory header overflow inbound =>
    rw [Phase.remaining, Phase.advance, receiveFile]
    cases vectorReserve host.allocates header.size.toNat <;> rfl
  | readingPayload header state =>
    rw [Phase.remaining, Phase.advance]
    cases stepped : (payloadLoop header.size.toNat).step state with
    | inl next =>
      rw [(payloadLoop header.size.toNat).run_of_continue stepped]
      rfl
    | inr read =>
      rw [(payloadLoop header.size.toNat).run_of_leave stepped]
      cases read <;> rfl
  | decoding header payload =>
    rw [Phase.remaining, Phase.advance, savePayload_eq]
    cases plaintextOf server host header payload with
    | error fault => rfl
    | ok plaintext => cases plaintext <;> rfl
  | saving header data =>
    rw [Phase.advance, Act.bind_assoc]
    rfl
  | responding ok =>
    rw [Phase.remaining, Phase.advance, respond]
    cases connection.brokenPipe <;> rfl
  | reporting ok => rfl
  | ended => rfl

end UniversalAirdrop
