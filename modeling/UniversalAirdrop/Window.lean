/-
This file models `MainWindow` with the workers of `gui_helpers.cpp`: what a click
does, what the threads of the workers post to the event loop, and what the event
loop makes of it.

A signal that is emitted in another thread is posted and handled later. Stopping a
scan clears the list but takes nothing out of the queue, so what was found before
comes into the list of the next scan.
-/

import UniversalAirdrop.CommandLine
import UniversalAirdrop.UdpDiscovery
import UniversalAirdrop.Library.Mailbox

namespace UniversalAirdrop

open Imperative FirstSeen Mailbox

/-! ### The three tabs -/

/-- The value of a spin box for ports. -/
structure SpinPort where
  port : ℕ
  atLeast : 1024 ≤ port
  atMost : port ≤ 65535

/-- A spin box takes the value in its range that is closest. -/
def SpinPort.setValue (value : ℕ) : SpinPort where
  port := max 1024 (min value 65535)
  atLeast := le_max_left _ _
  atMost := max_le (by decide) (min_le_right _ _)

/-- The fields that the user fills in. A text is its UTF-8. -/
structure Form where
  name : Bytes
  ip : Bytes
  port : SpinPort
  file : Bytes
  passphrase : Bytes
  recvPort : SpinPort
  dir : Bytes
  recvPassphrase : Bytes

/-- What Qt does with texts: what is left of bytes that become a text, a text without the space at
its ends, and the row that `QString` formats for a device. -/
structure Toolkit where
  fromStdString : Bytes → Bytes
  trimmed : Bytes → Bytes
  label : DeviceInfo → Bytes

/-- `devices_` and the rows of the list. -/
structure DiscoverTab where
  devices : List DeviceInfo
  rows : List Bytes

def DiscoverTab.empty : DiscoverTab where
  devices := []
  rows := []

/-- `on_device_found`. -/
def DiscoverTab.onDeviceFound (toolkit : Toolkit) (tab : DiscoverTab) (device : DeviceInfo) :
    DiscoverTab where
  devices := tab.devices ++ [device]
  rows := tab.rows ++ [toolkit.label device]

inductive SendStatus
  | blank
  | sending
  | sent
  | failed
  deriving DecidableEq, Repr

/-- Whether the button can be clicked, the progress bar and the status of the send tab. -/
structure SendTab where
  enabled : Bool
  progress : ℤ
  status : SendStatus
  deriving DecidableEq, Repr

/-- The signals of a `SendWorker`. -/
inductive SendSignal
  | progress (sent total : ℕ)
  | finished (success : Bool)
  deriving DecidableEq, Repr

/-- A progress bar ignores a value that is not in its range. -/
def SendTab.setValue (tab : SendTab) (value : ℤ) : SendTab :=
  if 0 ≤ value ∧ value ≤ 100 then { tab with progress := value } else tab

/-- The two slots that are connected to the signals of a `SendWorker`. -/
def SendTab.handle (tab : SendTab) : SendSignal → SendTab
  | .progress sent total =>
    tab.setValue (toInt (percent (UInt64.ofNat sent) (UInt64.ofNat total)).toNat)
  | .finished success =>
    let tab := { tab with enabled := true, status := if success then .sent else .failed }
    if success then tab.setValue 100 else tab

/-- The send tab after a click on its button. -/
def SendTab.started : SendTab where
  enabled := false
  progress := 0
  status := .sending

/-! ### The workers -/

/-- A started `DiscoveryWorker`: its `UdpDiscovery`, whether that could start, and its table. -/
structure DiscoveryWorker where
  discovery : UdpDiscovery
  listening : Bool
  listener : Listener

/-- A `SendWorker` in its thread: where it sends to, the calls of its callback that are still to
come, and how `send_file` ends. -/
structure SendWorker where
  ip : Bytes
  port : UInt16
  left : List (ℕ × ℕ)
  result : Except Halt Bool

/-- A started `ReceiveWorker`: what its server was given, and whether that could start. -/
structure ReceiveWorker where
  port : UInt16
  dir : Bytes
  passphrase : Bytes
  listening : Bool

/-- What `send_file` returns is emitted. -/
def lastSignal : Except Halt Bool → List SendSignal
  | .ok success => [.finished success]
  | .error _ => []

/-- The signals of `SendWorker::send`. -/
def signals (transfer : ClientAct Bool) : List SendSignal :=
  (progressOf transfer.events).map (fun report => .progress report.1 report.2) ++
    lastSignal transfer.result

/-- A worker in whose thread `send` starts. -/
def SendWorker.begin (ip : Bytes) (port : UInt16) (transfer : ClientAct Bool) : SendWorker where
  ip
  port
  left := progressOf transfer.events
  result := transfer.result

/-- The signals that a worker is still to emit. -/
def SendWorker.coming (worker : SendWorker) : List SendSignal :=
  worker.left.map (fun report => .progress report.1 report.2) ++ lastSignal worker.result

/-! ### The window -/

/-- What is posted to the event loop. -/
inductive Posted
  | deviceFound (device : DeviceInfo)
  | send (signal : SendSignal)
  deriving DecidableEq, Repr

/-- The window, its workers, and what is posted. An exception or a signal in a thread of a worker
ends the process. -/
structure Window where
  form : Form
  discover : DiscoverTab
  sendTab : SendTab
  receiveChecked : Bool
  receiveStatus : Option UInt16
  discovery : Option DiscoveryWorker
  senders : List SendWorker
  receiver : Option ReceiveWorker
  posted : List Posted
  ended : Bool

/-- The window as it is constructed. -/
def Window.start (form : Form) : Window where
  form
  discover := .empty
  sendTab := { enabled := true, progress := 0, status := .blank }
  receiveChecked := false
  receiveStatus := none
  discovery := none
  senders := []
  receiver := none
  posted := []
  ended := false

/-- What the user does, and what the event loop and the threads of the workers do. The outcome of
system calls comes with the action that makes them. -/
inductive Action
  | edit (form : Form)
  | doubleClick (row : ℕ)
  | scan (listening : Bool)
  | send (sender : Sender) (network : Network)
  | toggleReceive (listening : Bool)
  | deliver
  | hear (datagram : Datagram)
  | work (index : ℕ)

namespace Window

/-- The slot of a double click on a row. -/
def onDoubleClicked (toolkit : Toolkit) (window : Window) (row : ℕ) : Window :=
  match window.discover.devices[row]? with
  | some device => { window with form := { window.form with
      ip := toolkit.fromStdString device.ip
      port := .setValue device.tcpPort.toNat } }
  | none => window

/-- `on_scan_clicked`. What is posted stays posted when the worker is deleted. -/
def onScanClicked (toolkit : Toolkit) (window : Window) (listening : Bool) : Window :=
  match window.discovery with
  | some _ => { window with discovery := none, discover := .empty }
  | none =>
    let name := toolkit.trimmed window.form.name
    if name = [] then window
    else { window with discovery := some {
      discovery := { deviceName := name, hasCallback := true }
      listening
      listener := .empty } }

/-- What a worker sends with the fields as they are. -/
def transfer (toolkit : Toolkit) (window : Window) (sender : Sender) (network : Network) :
    ClientAct Bool :=
  sendFile { sender with reportsProgress := true } network (toolkit.trimmed window.form.file)
    window.form.passphrase

/-- `on_send_clicked`. -/
def onSendClicked (toolkit : Toolkit) (window : Window) (sender : Sender) (network : Network) :
    Window :=
  let ip := toolkit.trimmed window.form.ip
  let port := UInt16.ofNat window.form.port.port
  let filepath := toolkit.trimmed window.form.file
  if ip = [] ∨ filepath = [] then window
  else { window with
    sendTab := .started
    senders := window.senders ++ [.begin ip port (window.transfer toolkit sender network)] }

/-- `on_receive_toggled`. The status says that the port is listened on whether or not it is. -/
def onReceiveToggled (toolkit : Toolkit) (window : Window) (listening : Bool) : Window :=
  let checked := !window.receiveChecked
  if checked then
    let port := UInt16.ofNat window.form.recvPort.port
    { window with
      receiveChecked := checked
      receiveStatus := some port
      receiver := some { port, dir := toolkit.trimmed window.form.dir,
                         passphrase := window.form.recvPassphrase, listening } }
  else { window with receiveChecked := checked, receiveStatus := none, receiver := none }

/-- The event loop handles what was posted first. -/
def deliver (toolkit : Toolkit) (window : Window) : Option Window :=
  match window.posted with
  | [] => none
  | .deviceFound device :: posted =>
    some { window with discover := window.discover.onDeviceFound toolkit device, posted }
  | .send signal :: posted =>
    some { window with sendTab := window.sendTab.handle signal, posted }

/-- The `listen_loop` of the scan takes a datagram. Its callback emits what it is called with. -/
def hear (window : Window) (datagram : Datagram) : Option Window :=
  match window.discovery with
  | none => none
  | some worker =>
    if worker.listening then
      match listenStep worker.discovery worker.listener datagram with
      | .error _ => some { window with ended := true }
      | .ok listener =>
        let found := listener.found.drop worker.listener.found.length
        some { window with
          discovery := some { worker with listener }
          posted := window.posted ++ found.map .deviceFound }
    else none

/-- A `SendWorker` emits its next signal. Its thread ends when it has emitted the last one. -/
def work (window : Window) (index : ℕ) : Option Window :=
  match window.senders[index]? with
  | none => none
  | some worker =>
    match worker.left with
    | (sent, total) :: left => some { window with
        senders := window.senders.set index { worker with left }
        posted := window.posted ++ [.send (.progress sent total)] }
    | [] =>
      match worker.result with
      | .ok success => some { window with
          senders := window.senders.eraseIdx index
          posted := window.posted ++ [.send (.finished success)] }
      | .error .blocked => none
      | .error _ => some { window with ended := true }

/-- What an action does, unless it cannot be taken. -/
def act (toolkit : Toolkit) (window : Window) (action : Action) : Option Window :=
  if window.ended then none
  else
    match action with
    | .edit form => some { window with form }
    | .doubleClick row =>
      if row < window.discover.rows.length then some (window.onDoubleClicked toolkit row) else none
    | .scan listening => some (window.onScanClicked toolkit listening)
    | .send sender network =>
      if window.sendTab.enabled then some (window.onSendClicked toolkit sender network) else none
    | .toggleReceive listening => some (window.onReceiveToggled toolkit listening)
    | .deliver => window.deliver toolkit
    | .hear datagram => window.hear datagram
    | .work index => window.work index


/-! ### Runs -/

/-- Actions that are taken one after another, each allowed where it is taken. -/
inductive Run (toolkit : Toolkit) (allowed : Window → Action → Prop) (first : Window) :
    List Action → Window → Prop
  | nil : Run toolkit allowed first [] first
  | act {actions : List Action} {window next : Window} {action : Action}
      (before : Run toolkit allowed first actions window) (allows : allowed window action)
      (acts : window.act toolkit action = some next) :
      Run toolkit allowed first (actions ++ [action]) next

section Steps

variable {toolkit : Toolkit} {window next : Window} {action : Action}

/-- The devices that are posted. -/
def foundIn (posted : List Posted) : List DeviceInfo :=
  posted.filterMap fun
    | .deviceFound device => some device
    | .send _ => none

/-- The signals of a `SendWorker` that are posted. -/
def signalsIn (posted : List Posted) : List SendSignal :=
  posted.filterMap fun
    | .deviceFound _ => none
    | .send signal => some signal

@[simp] theorem foundIn_deviceFound (device : DeviceInfo) (posted : List Posted) :
    foundIn (.deviceFound device :: posted) = device :: foundIn posted := rfl

@[simp] theorem foundIn_send (signal : SendSignal) (posted : List Posted) :
    foundIn (.send signal :: posted) = foundIn posted := rfl

@[simp] theorem signalsIn_deviceFound (device : DeviceInfo) (posted : List Posted) :
    signalsIn (.deviceFound device :: posted) = signalsIn posted := rfl

@[simp] theorem signalsIn_send (signal : SendSignal) (posted : List Posted) :
    signalsIn (.send signal :: posted) = signal :: signalsIn posted := rfl

theorem foundIn_append (posted more : List Posted) :
    foundIn (posted ++ more) = foundIn posted ++ foundIn more := List.filterMap_append

theorem signalsIn_append (posted more : List Posted) :
    signalsIn (posted ++ more) = signalsIn posted ++ signalsIn more := List.filterMap_append

theorem foundIn_map_deviceFound (devices : List DeviceInfo) :
    foundIn (devices.map .deviceFound) = devices := by
  induction devices with
  | nil => rfl
  | cons device rest inductionHypothesis =>
    rw [List.map_cons, foundIn_deviceFound, inductionHypothesis]

theorem signalsIn_map_deviceFound (devices : List DeviceInfo) :
    signalsIn (devices.map .deviceFound) = [] := by
  induction devices with
  | nil => rfl
  | cons device rest inductionHypothesis =>
    rw [List.map_cons, signalsIn_deviceFound, inductionHypothesis]

/-- The fields that the send button needs are filled in. -/
def Filled (toolkit : Toolkit) (window : Window) : Prop :=
  toolkit.trimmed window.form.ip ≠ [] ∧ toolkit.trimmed window.form.file ≠ []

/-- Everything that an action can do. -/
inductive Effect (toolkit : Toolkit) (window : Window) : Action → Window → Prop
  | edit (form : Form) : Effect toolkit window (.edit form) { window with form }
  | fill {row : ℕ} {device : DeviceInfo} (chosen : window.discover.devices[row]? = some device) :
      Effect toolkit window (.doubleClick row) { window with form := { window.form with
        ip := toolkit.fromStdString device.ip
        port := .setValue device.tcpPort.toNat } }
  | missRow {row : ℕ} (shown : row < window.discover.rows.length)
      (missing : window.discover.devices[row]? = none) :
      Effect toolkit window (.doubleClick row) window
  | stopScan {listening : Bool} (scanning : window.discovery ≠ none) :
      Effect toolkit window (.scan listening)
        { window with discovery := none, discover := .empty }
  | startScan {listening : Bool} (idle : window.discovery = none) (name : Bytes) :
      Effect toolkit window (.scan listening) { window with discovery := some {
        discovery := { deviceName := name, hasCallback := true }
        listening
        listener := .empty } }
  | warnName {listening : Bool} (idle : window.discovery = none) :
      Effect toolkit window (.scan listening) window
  | startSender {sender : Sender} {network : Network} (enabled : window.sendTab.enabled = true)
      (filled : window.Filled toolkit) :
      Effect toolkit window (.send sender network) { window with
        sendTab := .started
        senders := window.senders ++ [.begin (toolkit.trimmed window.form.ip)
          (UInt16.ofNat window.form.port.port) (window.transfer toolkit sender network)] }
  | warnFields {sender : Sender} {network : Network} (enabled : window.sendTab.enabled = true)
      (missing : ¬ window.Filled toolkit) : Effect toolkit window (.send sender network) window
  | startReceiver {listening : Bool} (dir passphrase : Bytes) :
      Effect toolkit window (.toggleReceive listening) { window with
        receiveChecked := true
        receiveStatus := some (UInt16.ofNat window.form.recvPort.port)
        receiver := some { port := UInt16.ofNat window.form.recvPort.port
                           dir, passphrase, listening } }
  | stopReceiver {listening : Bool} :
      Effect toolkit window (.toggleReceive listening)
        { window with receiveChecked := false, receiveStatus := none, receiver := none }
  | found {device : DeviceInfo} {posted : List Posted}
      (waiting : window.posted = .deviceFound device :: posted) :
      Effect toolkit window .deliver
        { window with discover := window.discover.onDeviceFound toolkit device, posted }
  | signal {signal : SendSignal} {posted : List Posted}
      (waiting : window.posted = .send signal :: posted) :
      Effect toolkit window .deliver
        { window with sendTab := window.sendTab.handle signal, posted }
  | hear {datagram : Datagram} {worker : DiscoveryWorker} {listener : Listener}
      (scanning : window.discovery = some worker)
      (stepped : listenStep worker.discovery worker.listener datagram = .ok listener) :
      Effect toolkit window (.hear datagram) { window with
        discovery := some { worker with listener }
        posted := window.posted ++
          (listener.found.drop worker.listener.found.length).map .deviceFound }
  | report {index : ℕ} {worker : SendWorker} {sent total : ℕ} {left : List (ℕ × ℕ)}
      (there : window.senders[index]? = some worker) (more : worker.left = (sent, total) :: left) :
      Effect toolkit window (.work index) { window with
        senders := window.senders.set index { worker with left }
        posted := window.posted ++ [.send (.progress sent total)] }
  | finish {index : ℕ} {worker : SendWorker} {success : Bool}
      (there : window.senders[index]? = some worker) (finished : worker.left = [])
      (returned : worker.result = .ok success) :
      Effect toolkit window (.work index) { window with
        senders := window.senders.eraseIdx index
        posted := window.posted ++ [.send (.finished success)] }
  | crashListener {datagram : Datagram} :
      Effect toolkit window (.hear datagram) { window with ended := true }
  | crashSender {index : ℕ} : Effect toolkit window (.work index) { window with ended := true }

theorem effect_of_scan (toolkit : Toolkit) (window : Window) (listening : Bool) :
    Effect toolkit window (.scan listening) (window.onScanClicked toolkit listening) := by
  unfold onScanClicked
  split
  case h_1 worker scanning => exact Effect.stopScan (scanning ▸ Option.some_ne_none worker)
  case h_2 idle =>
    dsimp only
    split
    · exact Effect.warnName idle
    · exact Effect.startScan idle _

theorem effect_of_send {sender : Sender} {network : Network}
    (enabled : window.sendTab.enabled = true) :
    Effect toolkit window (.send sender network) (window.onSendClicked toolkit sender network) := by
  unfold onSendClicked
  dsimp only
  split
  case isTrue missing =>
    exact Effect.warnFields enabled fun filled => missing.elim filled.1 filled.2
  case isFalse filled => exact Effect.startSender enabled (not_or.mp filled)

theorem effect_of_toggle (toolkit : Toolkit) (window : Window) (listening : Bool) :
    Effect toolkit window (.toggleReceive listening)
      (window.onReceiveToggled toolkit listening) := by
  unfold onReceiveToggled
  dsimp only
  cases window.receiveChecked with
  | true => exact Effect.stopReceiver
  | false => exact Effect.startReceiver _ _

theorem effect_of_deliver (delivers : window.deliver toolkit = some next) :
    Effect toolkit window .deliver next := by
  unfold deliver at delivers
  split at delivers
  case h_1 => cases delivers
  case h_2 device posted waiting =>
    cases delivers
    exact Effect.found waiting
  case h_3 signal posted waiting =>
    cases delivers
    exact Effect.signal waiting

theorem effect_of_hear {datagram : Datagram} (hears : window.hear datagram = some next) :
    Effect toolkit window (.hear datagram) next := by
  unfold hear at hears
  split at hears
  case h_1 => cases hears
  case h_2 worker scanning =>
    split at hears
    case isFalse => cases hears
    case isTrue listening =>
      split at hears
      case h_1 fault throws =>
        cases hears
        exact Effect.crashListener
      case h_2 listener stepped =>
        cases hears
        exact Effect.hear scanning stepped

theorem effect_of_work {index : ℕ} (works : window.work index = some next) :
    Effect toolkit window (.work index) next := by
  unfold work at works
  split at works
  case h_1 => cases works
  case h_2 worker there =>
    split at works
    case h_1 sent total left more =>
      cases works
      exact Effect.report there more
    case h_2 finished =>
      split at works
      case h_1 success returned =>
        cases works
        exact Effect.finish there finished returned
      case h_2 => cases works
      case h_3 =>
        cases works
        exact Effect.crashSender

/-- An action does nothing else. -/
theorem effect_of_act (acts : window.act toolkit action = some next) :
    Effect toolkit window action next := by
  unfold act at acts
  split at acts
  case isTrue => cases acts
  case isFalse alive =>
    cases action with
    | edit form =>
      cases acts
      exact Effect.edit form
    | doubleClick row =>
      dsimp only at acts
      split at acts <;> cases acts
      unfold onDoubleClicked
      split
      case h_1 device chosen => exact Effect.fill chosen
      case h_2 missing => exact Effect.missRow ‹_› missing
    | scan listening =>
      cases acts
      exact effect_of_scan toolkit window listening
    | send sender network =>
      dsimp only at acts
      split at acts <;> cases acts
      exact effect_of_send ‹_›
    | toggleReceive listening =>
      cases acts
      exact effect_of_toggle toolkit window listening
    | deliver => exact effect_of_deliver acts
    | hear datagram => exact effect_of_hear acts
    | work index => exact effect_of_work acts

theorem alive_of_act (acts : window.act toolkit action = some next) : window.ended = false := by
  unfold act at acts
  split at acts
  case isTrue => cases acts
  case isFalse alive => exact Bool.eq_false_iff.mpr alive

end Steps

/-! ### The receive tab -/

/-- The button is checked and the status names a port exactly while there is a receiver of that
port. -/
structure Receiving (window : Window) : Prop where
  checked : window.receiveChecked = window.receiver.isSome
  status : window.receiveStatus = window.receiver.map ReceiveWorker.port
  port : ∀ worker, window.receiver = some worker → 1024 ≤ worker.port.toNat

section Receivers

variable {toolkit : Toolkit} {window next : Window} {action : Action}

theorem Receiving.act (receiving : Receiving window)
    (acts : window.act toolkit action = some next) : Receiving next := by
  obtain ⟨checked, status, port⟩ := receiving
  cases effect_of_act acts with
  | startReceiver dir passphrase =>
    refine ⟨rfl, rfl, ?_⟩
    rintro worker ⟨⟩
    show 1024 ≤ (UInt16.ofNat window.form.recvPort.port).toNat
    rw [UInt16.toNat_ofNat_of_lt' (Nat.lt_of_le_of_lt window.form.recvPort.atMost (by decide))]
    exact window.form.recvPort.atLeast
  | stopReceiver => exact ⟨rfl, rfl, nofun⟩
  | _ => exact ⟨checked, status, port⟩

/-- In every window that can be reached. A server with the port that the status names is bound to
that port if it starts, and what its session announces is where it listens exactly if it is the
default one. -/
theorem receiving_of_run {allowed : Window → Action → Prop} {form : Form} {actions : List Action}
    (run : Run toolkit allowed (start form) actions window) :
    Receiving window ∧ ∀ port sockets, window.receiveStatus = some port →
      let session := Session.receiveWorker port
      session.server.boundPort sockets = port ∧
        (session.Names sockets (some port) (session.payload sockets) ↔ port = defaultTcpPort) := by
  have receiving : Receiving window := by
    induction run with
    | nil => exact ⟨rfl, rfl, nofun⟩
    | act before allows acts inductionHypothesis => exact inductionHypothesis.act acts
  refine ⟨receiving, fun port sockets shown => ?_⟩
  rw [receiving.status, Option.map_eq_some_iff] at shown
  obtain ⟨worker, there, rfl⟩ := shown
  have large := receiving.port worker there
  intro session
  refine ⟨if_neg fun zero => ?_, (names_iff session sockets _).trans Option.some_inj⟩
  have none : (worker.port.toNat : ℕ) = 0 := congrArg UInt16.toNat zero
  omega

end Receivers

/-! ### A sample -/

/-- Texts as they are typed. -/
def plainToolkit : Toolkit where
  fromStdString text := text
  trimmed text := text
  label device := device.name

/-- A form that is filled in but for the receiver. -/
def sampleForm : Form where
  name := ascii "me"
  ip := []
  port := .setValue 9090
  file := ascii "a"
  passphrase := []
  recvPort := .setValue 9090
  dir := ascii "./received"
  recvPassphrase := []

/-- A connection on which the sends take eleven bytes at a time. -/
def sampleNetwork : Network :=
  (Transfer.sample (ascii "a") (ascii "hi") []).network (Link.sample fun _ => 11)

end Window

end UniversalAirdrop
