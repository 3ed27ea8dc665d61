/-
This file models `TcpServer::handle_client`: the loop that reads up to the
newline after the header, the loop that reads the payload, the branch that
decrypts, and the response.

The peer is a channel: the bytes it sends, the number of bytes each `recv`
returns, and how the stream ends. The handler is a computation over the calls it
makes. It runs on a detached thread without an exception handler, so a run that
ends in an exception ends the process.
-/

import UniversalAirdrop.Protocol
import UniversalAirdrop.Crypto
import UniversalAirdrop.FileTransfer

namespace UniversalAirdrop

open Imperative Streams

/-! ### The server and its surroundings -/

/-- The members the handler reads. The receive directory is a C string. -/
structure TcpServer where
  receiveDir : Bytes
  passphrase : Bytes
  noNul : (0 : UInt8) ∉ receiveDir

/-- What the handler depends on besides the peer: the allocator, OpenSSL and the storage. -/
structure Host where
  allocates : ℕ → Bool
  openssl : OpenSsl
  storage : Storage

/-- An accepted connection: what the peer sends, and whether it is broken by the time the
response is sent, so that the kernel answers with a signal. -/
structure Connection where
  inbound : Channel UInt8
  brokenPipe : Bool

/-- A host on which nothing fails. -/
def Host.healthy : Host where
  allocates _ := true
  openssl := .keyMarked
  storage := .healthy

/-- A server with the default receive directory and a passphrase. -/
def sampleServer : TcpServer where
  receiveDir := ascii "./received"
  passphrase := ascii "mypass"
  noNul := by decide

/-- A connection whose peer sends `stream` and closes. -/
def closedAfter (stream : Bytes) : Connection where
  inbound := { rest := stream, cuts := fun _ => 4096, ending := .closed }
  brokenPipe := false

/-- The place of a received file. -/
def TcpServer.receivedPath (server : TcpServer) (filename : Bytes) : Location :=
  locate (server.receiveDir ++ pathSeparator :: filename)

/-- Files of different names are different files in the receive directory, if the names are
entries of it. -/
theorem TcpServer.receivedPath_inj (server : TcpServer) {first second : Bytes}
    (entry : pathStyle.Entry first) (noNul : (0 : UInt8) ∉ first)
    (other : pathStyle.Entry second) (noNul' : (0 : UInt8) ∉ second) :
    server.receivedPath first = server.receivedPath second ↔ first = second := by
  have whole {name : Bytes} (noNul : (0 : UInt8) ∉ name) :
      cStr (server.receiveDir ++ pathSeparator :: name) =
        server.receiveDir ++ pathSeparator :: name := by
    refine cStr_of_notMem ?_
    rw [List.mem_append, List.mem_cons, not_or, not_or]
    exact ⟨server.noNul, by decide, noNul⟩
  rw [receivedPath, receivedPath, locate, locate, whole noNul, whole noNul']
  exact entry.resolve_inj other

/-- The size of the handler's receive buffer. -/
def bufSize : ℕ := 4096

/-! ### The header loop -/

structure HeaderState where
  inbound : Channel UInt8
  headerStr : Bytes

inductive HeaderRead
  | found (headerStr overflow : Bytes) (inbound : Channel UInt8)
  | failed
  | blocked

/-- Collect the header up to the newline. What follows the newline in its chunk is overflow. -/
def headerLoop : Loop HeaderState HeaderRead where
  step state :=
    match state.inbound.recv bufSize with
    | .ended .silent => .inr .blocked
    | .ended _ => .inr .failed
    | .chunk chunk after =>
      match cut headerDelim chunk with
      | some (before, overflow) => .inr (.found (state.headerStr ++ before) overflow after)
      | none => .inl { inbound := after, headerStr := state.headerStr ++ chunk }
  measure state := state.inbound.rest.length
  decreases := by
    intro state next stepped
    split at stepped
    case h_1 => cases stepped
    case h_2 => cases stepped
    case h_3 chunk after received =>
      split at stepped
      case h_1 => cases stepped
      case h_2 =>
        cases stepped
        exact Channel.length_of_recv_chunk (by decide) received

/-! ### The payload loop -/

structure PayloadState where
  inbound : Channel UInt8
  payload : Bytes
  received : ℕ

inductive PayloadRead
  | ended (payload : Bytes)
  | blocked

/-- Receive until the declared size is there. A failing `recv` leaves the loop with what has
arrived. -/
def payloadLoop (size : ℕ) : Loop PayloadState PayloadRead where
  step state :=
    if state.received < size then
      match state.inbound.recv (min chunkSize (size - state.received)) with
      | .ended .silent => .inr .blocked
      | .ended _ => .inr (.ended state.payload)
      | .chunk chunk after =>
        .inl { inbound := after
               payload := state.payload ++ chunk
               received := state.received + chunk.length }
    else .inr (.ended state.payload)
  measure state := state.inbound.rest.length
  decreases := by
    intro state next stepped
    split at stepped
    case isFalse => cases stepped
    case isTrue unfinished =>
      split at stepped
      case h_1 => cases stepped
      case h_2 => cases stepped
      case h_3 chunk after received =>
        cases stepped
        refine Channel.length_of_recv_chunk ?_ received
        have positive : 0 < chunkSize := by decide
        omega

/-- The state the payload loop is entered in: the overflow counts as payload, as far as the
declared size goes. -/
def payloadEntry (size : ℕ) (overflow : Bytes) (inbound : Channel UInt8) : PayloadState :=
  let taken := overflow.take (min overflow.length size)
  { inbound, payload := taken, received := taken.length }

/-! ### Saving and responding -/

/-- Decrypt the payload if the header says so, and write it. -/
def savePayload (server : TcpServer) (host : Host) (header : FileHeader) (payload : Bytes) :
    ServerAct Bool :=
  if header.encrypted then
    if server.passphrase = [] then return false
    else do
      match ← call (deserializeEncrypted payload) with
      | none => return false
      | some blob =>
        let decrypted ← Act.lift (decrypt host.openssl blob server.passphrase)
        -- An empty result is taken for a failure.
        if decrypted = [] then return false
        else writeFile host.storage server.receiveDir header.filename decrypted
  else writeFile host.storage server.receiveDir header.filename payload

/-- The text of the response. -/
def respStr (type : MsgType) : Bytes :=
  magic ++ fieldDelim :: Numeral.decimal type.code ++ [fieldDelim]

def ackOrErr (ok : Bool) : MsgType := if ok then .fileAck else .fileErr

/-- Send the response and close the socket. -/
def respond (connection : Connection) (ok : Bool) : ServerAct Unit := do
  Act.emit (.send (respStr (ackOrErr ok)))
  if connection.brokenPipe then Act.halt .killed
  else Act.emit .close

/-- The handler once the header was parsed. -/
def receiveFile (server : TcpServer) (host : Host) (connection : Connection)
    (header : FileHeader) (overflow : Bytes) (inbound : Channel UInt8) : ServerAct Unit := do
  Act.emit (.makeDirectory (cStr server.receiveDir))
  call (vectorReserve host.allocates header.size.toNat)
  match (payloadLoop header.size.toNat).run
      (payloadEntry header.size.toNat overflow inbound) with
  | .blocked => Act.halt .blocked
  | .ended payload =>
    let ok ← savePayload server host header payload
    respond connection ok

/-- `handle_client`. -/
def handleClient (server : TcpServer) (host : Host) (connection : Connection) :
    ServerAct Unit :=
  match headerLoop.run { inbound := connection.inbound, headerStr := [] } with
  | .blocked => Act.halt .blocked
  | .failed => Act.emit .close
  | .found headerStr overflow inbound => do
    match ← call (parseFileHeader headerStr) with
    | none => Act.emit .close
    | some header => receiveFile server host connection header overflow inbound

/-! ### Reading a log -/

/-- The files a run hands to write-file, with their data. -/
def savedFiles (events : List ServerEvent) : List (Bytes × Bytes × Bytes) :=
  events.filterMap fun
    | .writeFile dir filename data => some (dir, filename, data)
    | _ => none

/-- The responses a run sends. -/
def responses (events : List ServerEvent) : List Bytes :=
  events.filterMap fun
    | .send bytes => some bytes
    | _ => none

@[simp] theorem savedFiles_append (first second : List ServerEvent) :
    savedFiles (first ++ second) = savedFiles first ++ savedFiles second :=
  List.filterMap_append

@[simp] theorem responses_append (first second : List ServerEvent) :
    responses (first ++ second) = responses first ++ responses second :=
  List.filterMap_append

theorem respStr_fileErr_ne_fileAck : respStr .fileErr ≠ respStr .fileAck := by decide

@[simp] theorem savedFiles_writeFile (storage : Storage) (dir filename data : Bytes) :
    savedFiles (writeFile storage dir filename data).events = [(dir, filename, data)] := by
  obtain ⟨calls, events, inside⟩ := writeFile_events storage dir filename data
  rw [events]
  refine congrArg (List.cons (dir, filename, data)) (List.filterMap_eq_nil_iff.mpr ?_)
  intro event member
  rcases inside event member with rfl | ⟨-, rfl⟩ | ⟨offset, bytes, -, rfl⟩ <;> rfl

@[simp] theorem responses_writeFile (storage : Storage) (dir filename data : Bytes) :
    responses (writeFile storage dir filename data).events = [] := by
  obtain ⟨calls, events, inside⟩ := writeFile_events storage dir filename data
  rw [events]
  refine List.filterMap_eq_nil_iff.mpr fun event member => ?_
  rcases List.mem_cons.mp member with rfl | member
  · rfl
  · rcases inside event member with rfl | ⟨-, rfl⟩ | ⟨offset, bytes, -, rfl⟩ <;> rfl

theorem close_notMem_writeFile (storage : Storage) (dir filename data : Bytes) :
    .close ∉ (writeFile storage dir filename data).events := by
  obtain ⟨calls, events, inside⟩ := writeFile_events storage dir filename data
  rw [events, List.mem_cons, not_or]
  refine ⟨nofun, fun member => ?_⟩
  rcases inside _ member with same | ⟨-, same⟩ | ⟨offset, bytes, -, same⟩ <;> cases same

end UniversalAirdrop
