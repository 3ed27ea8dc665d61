/-
This file models `TcpClient::send_file`: the loop that sends all of a buffer, the
loop that sends the payload in chunks, and the one read of the response.

The kernel decides how many bytes each `send` accepts; a schedule carries these
decisions. A `send` on a connection that the peer has broken raises a signal, and
as the program neither handles nor suppresses it, the process is killed.
-/

import Mathlib.Data.List.Infix
import UniversalAirdrop.Protocol
import UniversalAirdrop.Crypto
import UniversalAirdrop.FileTransfer

namespace UniversalAirdrop

open Imperative Streams

/-! ### The socket -/

/-- The calls of a sending run. -/
inductive ClientEvent
  | openSocket
  | sent (bytes : Bytes)
  | sendFailed
  | progress (sent total : ℕ)
  | close
  deriving DecidableEq, Repr

abbrev ClientAct := Act ClientEvent Halt

/-- The most bytes one `send` can report, as its result is kept in an `int`. -/
def sendMax : ℕ := 2 ^ 31 - 1

/-- What the kernel does with one `send`: it accepts some bytes, the call returns an error, or the
connection is broken and a signal is raised. -/
inductive SendOutcome
  | accepts (count : ℕ)
  | fails
  | brokenPipe
  deriving DecidableEq, Repr

/-- Why sending stopped before its end. -/
inductive SendStop
  | failed
  | killed
  deriving DecidableEq, Repr

/-- A connected socket: the outcome of each coming `send`, and the calls so far. -/
structure ClientSocket where
  sends : ℕ → SendOutcome
  log : List ClientEvent

/-- Send some of the bytes: at least one, unless the call fails. -/
def ClientSocket.send (socket : ClientSocket) (bytes : Bytes) :
    Except SendStop ℕ × ClientSocket :=
  let sends := fun index => socket.sends (index + 1)
  match socket.sends 0 with
  | .fails => (.error .failed, { sends, log := socket.log ++ [.sendFailed] })
  | .brokenPipe => (.error .killed, { sends, log := socket.log ++ [.sendFailed] })
  | .accepts asked =>
    let count := min (max 1 asked) (min sendMax bytes.length)
    (.ok count, { sends, log := socket.log ++ [.sent (bytes.take count)] })

/-- The bytes a run's socket has accepted. -/
def wire (events : List ClientEvent) : Bytes :=
  events.flatMap fun
    | .sent bytes => bytes
    | _ => []

/-! ### The sending loops -/

structure SendState where
  socket : ClientSocket
  total : ℕ

/-- The loop of `send_all`. -/
def sendAllLoop (data : Bytes) : Loop SendState (Except SendStop Unit × ClientSocket) where
  step state :=
    if state.total < data.length then
      match state.socket.send (data.drop state.total) with
      | (.error stop, socket) => .inr (.error stop, socket)
      | (.ok count, socket) => .inl { socket, total := state.total + count }
    else .inr (.ok (), state.socket)
  measure state := data.length - state.total
  decreases := by
    intro state next stepped
    split at stepped
    case isFalse => cases stepped
    case isTrue unfinished =>
      unfold ClientSocket.send at stepped
      have positive : 0 < sendMax := by decide
      cases asked : state.socket.sends 0 with
      | fails | brokenPipe =>
        rw [asked] at stepped
        cases stepped
      | accepts asks =>
        rw [asked] at stepped
        cases stepped
        simp only [List.length_drop]
        omega

/-- `send_all`. -/
def sendAll (socket : ClientSocket) (data : Bytes) : Except SendStop Unit × ClientSocket :=
  (sendAllLoop data).run { socket, total := 0 }

structure ChunkState where
  socket : ClientSocket
  totalSent : ℕ

/-- The callback after a chunk, if there is a callback. -/
def reportProgress (reportsProgress : Bool) (totalSent totalSize : ℕ) : List ClientEvent :=
  if reportsProgress then [.progress totalSent totalSize] else []

/-- Send the payload in chunks, and report after each one. -/
def chunkLoop (reportsProgress : Bool) (payload : Bytes) :
    Loop ChunkState (Except SendStop Unit × ClientSocket) where
  step state :=
    if state.totalSent < payload.length then
      let chunk := min chunkSize (payload.length - state.totalSent)
      match sendAll state.socket ((payload.drop state.totalSent).take chunk) with
      | (.error stop, socket) => .inr (.error stop, socket)
      | (.ok (), socket) =>
        let totalSent := state.totalSent + chunk
        let log := socket.log ++ reportProgress reportsProgress totalSent payload.length
        .inl { socket := { socket with log }, totalSent }
    else .inr (.ok (), state.socket)
  measure state := payload.length - state.totalSent
  decreases := by
    intro state next stepped
    split at stepped
    case isFalse => cases stepped
    case isTrue unfinished =>
      dsimp only at stepped
      split at stepped
      case h_1 => cases stepped
      case h_2 =>
        cases stepped
        have positive : 0 < chunkSize := by decide
        show payload.length - (state.totalSent + _) < payload.length - state.totalSent
        omega

/-! ### Sending a file -/

/-- What the sender depends on: the files it can read, OpenSSL, the random bytes of this call,
and whether the caller passed a callback. -/
structure Sender where
  readable : Bytes → Option Bytes
  openssl : OpenSsl
  random : Randomness
  reportsProgress : Bool

/-- The other side as the sender meets it: whether a socket can be had, the address is valid and
the connection is made, the outcome of each `send`, and what is answered to the accepted bytes. -/
structure Network where
  socketCreated : Bool
  addressValid : Bool
  connected : Bool
  sends : ℕ → SendOutcome
  reply : Bytes → Channel UInt8

def respBufSize : ℕ := 128

/-- Whether a response is taken for an acknowledgement: its number stands somewhere in it. -/
def containsAck (resp : Bytes) : Bool := Numeral.decimal MsgType.fileAck.code <:+: resp

/-- The payload of a file, which is encrypted if there is a passphrase. -/
def payloadOf (sender : Sender) (file : FileData) (passphrase : Bytes) : Except Halt Bytes :=
  if passphrase = [] then .ok file.bytes
  else do
    let blob ← encrypt sender.openssl sender.random file.bytes passphrase
    return serializeEncrypted blob

/-- The header that announces a payload. -/
def headerOf (filename payload passphrase : Bytes) : FileHeader where
  filename := filename
  size := UInt64.ofNat payload.length
  encrypted := passphrase ≠ []

/-- Send a header and a payload. -/
def transmit (reportsProgress : Bool) (socket : ClientSocket) (header : FileHeader)
    (payload : Bytes) : Except SendStop Unit × ClientSocket :=
  match sendAll socket (serializeFileHeader header) with
  | (.error stop, socket) => (.error stop, socket)
  | (.ok (), socket) => (chunkLoop reportsProgress payload).run { socket, totalSent := 0 }

/-- Read the response with one `recv`, close the socket and report. A failing `recv` returns -1,
which the string is constructed with as its length. -/
def awaitResponse (reply : Channel UInt8) : ClientAct Bool :=
  match reply.recv (respBufSize - 1) with
  | .ended .silent => Act.halt .blocked
  | .ended .failed => Act.halt (.threw .lengthError)
  | .ended .closed => do
    Act.emit .close
    return containsAck []
  | .chunk resp _ => do
    Act.emit .close
    return containsAck resp

/-- `send_file` from the socket on. -/
def sendPayload (sender : Sender) (network : Network) (header : FileHeader) (payload : Bytes) :
    ClientAct Bool :=
  if ¬ network.socketCreated then return false
  else do
    Act.emit .openSocket
    if ¬ network.addressValid ∨ ¬ network.connected then
      Act.emit .close
      return false
    else
      match transmit sender.reportsProgress { sends := network.sends, log := [] } header
          payload with
      | (.error .failed, socket) => do
        Act.emitAll socket.log
        Act.emit .close
        return false
      | (.error .killed, socket) => do
        Act.emitAll socket.log
        Act.halt .killed
      | (.ok (), socket) => do
        Act.emitAll socket.log
        awaitResponse (network.reply (wire socket.log))

/-- `send_file`. -/
def sendFile (sender : Sender) (network : Network) (filepath passphrase : Bytes) :
    ClientAct Bool :=
  match readFile sender.readable filepath with
  | none => return false
  | some file => do
    let payload ← Act.lift (payloadOf sender file passphrase)
    sendPayload sender network (headerOf file.filename payload passphrase) payload

end UniversalAirdrop
