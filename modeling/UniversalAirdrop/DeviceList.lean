/-
This file proves what the list of the window holds: the devices that the scan has
found, in their order, and before them what an earlier scan had posted when it was
stopped. It follows a row of the list from the datagram that announced the device to
the sender that is given its address.
-/

import UniversalAirdrop.Window

namespace UniversalAirdrop

open FirstSeen Mailbox

namespace Window

/-! ### The list of devices -/

/-- What the scan of the window has found. -/
def table (window : Window) : List DeviceInfo :=
  match window.discovery with
  | some worker => worker.listener.devices
  | none => []

/-- Every click on the scan button starts a scan, or only shows the warning. -/
def Unstopped (window : Window) (action : Action) : Prop :=
  ∀ listening, action = .scan listening → window.discovery = none

/-- The list is empty, and these devices are posted: the window is new, or a scan was stopped. -/
inductive Cleared (toolkit : Toolkit) : List DeviceInfo → Window → Prop
  | start (form : Form) : Cleared toolkit [] (start form)
  | stop {window stopped : Window} {listening : Bool} (scanning : window.discovery ≠ none)
      (stops : window.act toolkit (.scan listening) = some stopped) :
      Cleared toolkit (foundIn window.posted) stopped

/-- The scan has listened to datagrams that were heard. -/
def Listened (actions : List Action) (worker : DiscoveryWorker) : Prop :=
  worker.discovery.hasCallback = true ∧ ∃ datagrams, Parses datagrams ∧
    listenLoop worker.discovery datagrams .empty = .ok worker.listener ∧
    ∀ datagram ∈ datagrams, Action.hear datagram ∈ actions

/-- What is left over and what the scan has found is in the list, or is posted. -/
structure Listed (toolkit : Toolkit) (leftover : List DeviceInfo) (actions : List Action)
    (window : Window) : Prop where
  consumed : Consumed (DiscoverTab.onDeviceFound toolkit) .empty (leftover ++ window.table)
    window.discover (foundIn window.posted) []
  listened : ∀ worker, window.discovery = some worker → Listened actions worker

section List

variable {toolkit : Toolkit} {leftover : List DeviceInfo} {actions : List Action}
  {first window next : Window} {action : Action}

theorem table_of_some {worker : DiscoveryWorker} (scanning : window.discovery = some worker) :
    window.table = worker.listener.devices := by
  rw [table, scanning]

theorem table_of_none (idle : window.discovery = none) : window.table = [] := by
  rw [table, idle]

theorem Listened.mono {worker : DiscoveryWorker} {more : List Action}
    (listened : Listened actions worker) (subset : actions ⊆ more) : Listened more worker := by
  obtain ⟨calls, datagrams, parses, ran, heard⟩ := listened
  exact ⟨calls, datagrams, parses, ran, fun datagram member => subset (heard datagram member)⟩

theorem Listened.found_eq {worker : DiscoveryWorker} (listened : Listened actions worker) :
    worker.listener.found = worker.listener.devices := by
  obtain ⟨calls, datagrams, parses, ran, -⟩ := listened
  obtain ⟨last, ranToo, reports, -⟩ := listenLoop_empty worker.discovery parses
  cases ran.symm.trans ranToo
  rw [reports, if_pos calls]

/-- One more datagram is heard. -/
theorem Listened.hear {worker : DiscoveryWorker} {listener : Listener} {datagram : Datagram}
    (listened : Listened actions worker)
    (stepped : listenStep worker.discovery worker.listener datagram = .ok listener) :
    Listened (actions ++ [.hear datagram]) { worker with listener } := by
  obtain ⟨calls, datagrams, parses, ran, heard⟩ := listened
  refine ⟨calls, datagrams ++ [datagram], fun other member => ?_, ?_, fun other member => ?_⟩
  · obtain before | last := List.mem_append.mp member
    · exact parses other before
    · rw [List.mem_singleton.mp last]
      intro fault throws
      rw [listenStep_eq, throws] at stepped
      cases stepped
  · rw [listenLoop, List.foldlM_append]
    rw [listenLoop] at ran
    rw [ran]
    show (listenStep worker.discovery worker.listener datagram >>= pure) = _
    rw [stepped]
    rfl
  · obtain before | last := List.mem_append.mp member
    · exact List.mem_append_left _ (heard other before)
    · rw [List.mem_singleton.mp last]
      exact List.mem_append_right _ (List.mem_singleton_self _)

/-- A step appends to the table. -/
theorem devices_prefix_of_listenStep {discovery : UdpDiscovery} {state listener : Listener}
    {datagram : Datagram} (stepped : listenStep discovery state datagram = .ok listener) :
    state.devices <+: listener.devices := by
  rw [listenStep_eq] at stepped
  cases accepted : parseDiscovery datagram.received with
  | error fault =>
    rw [accepted] at stepped
    cases stepped
  | ok message =>
    rw [accepted] at stepped
    cases stepped
    cases message with
    | none => exact List.prefix_rfl
    | some parsed => exact devices_prefix_learn state discovery _

theorem Cleared.listed (cleared : Cleared toolkit leftover first) :
    Listed toolkit leftover [] first := by
  cases cleared with
  | start form => exact ⟨Consumed.queue _ _ _, nofun⟩
  | @stop window _ listening scanning stops =>
    cases effect_of_act stops with
    | stopScan =>
      refine ⟨?_, nofun⟩
      show Consumed _ _ (foundIn window.posted ++ []) _ (foundIn window.posted) []
      rw [List.append_nil]
      exact Consumed.queue _ _ _
    | startScan idle => exact absurd idle scanning
    | warnName idle => exact absurd idle scanning

/-- Every action but a click that stops a scan keeps what is in the list or posted. -/
theorem Listed.act (listed : Listed toolkit leftover actions window)
    (unstopped : Unstopped window action) (acts : window.act toolkit action = some next) :
    Listed toolkit leftover (actions ++ [action]) next := by
  obtain ⟨consumed, listened⟩ := listed
  have kept (worker : DiscoveryWorker) (scanning : window.discovery = some worker) :
      Listened (actions ++ [action]) worker :=
    (listened worker scanning).mono (List.subset_append_left _ _)
  cases effect_of_act acts with
  | stopScan scanning => exact absurd (unstopped _ rfl) scanning
  | startScan idle name =>
    rw [table_of_none idle] at consumed
    refine ⟨consumed, fun worker scanning => ?_⟩
    cases scanning
    exact ⟨rfl, [], fun datagram member => absurd member List.not_mem_nil, rfl,
      fun datagram member => absurd member List.not_mem_nil⟩
  | found waiting =>
    rw [waiting, foundIn_deviceFound] at consumed
    exact ⟨consumed.deliver, kept⟩
  | signal waiting =>
    rw [waiting, foundIn_send] at consumed
    exact ⟨consumed, kept⟩
  | @hear datagram worker listener scanning stepped =>
    have before := listened worker scanning
    have after := before.hear stepped
    obtain ⟨fresh, table⟩ := devices_prefix_of_listenStep stepped
    have news : listener.found.drop worker.listener.found.length = fresh := by
      have found : listener.found = listener.devices := after.found_eq
      rw [found, before.found_eq, ← table, List.drop_left]
    refine ⟨?_, fun other same => ?_⟩
    · show Consumed _ _ (leftover ++ listener.devices) window.discover (foundIn (_ ++ _)) []
      rw [news, foundIn_append, foundIn_map_deviceFound, ← table, ← List.append_assoc,
        ← table_of_some scanning]
      exact consumed.extend fresh
    · cases same
      exact after
  | report | finish =>
    rw [← List.append_nil (foundIn window.posted)] at consumed
    exact ⟨by rw [foundIn_append]; exact consumed, kept⟩
  | _ => exact ⟨consumed, kept⟩

theorem Listed.mono {more : List Action} (listed : Listed toolkit leftover actions window)
    (subset : actions ⊆ more) : Listed toolkit leftover more window :=
  ⟨listed.consumed, fun worker scanning => (listed.listened worker scanning).mono subset⟩

theorem Listed.of_run (cleared : Cleared toolkit leftover first)
    (run : Run toolkit Unstopped first actions window) :
    Listed toolkit leftover actions window := by
  induction run with
  | nil => exact cleared.listed
  | act before allows acts inductionHypothesis => exact inductionHypothesis.act allows acts

theorem foldl_onDeviceFound (toolkit : Toolkit) (tab : DiscoverTab) (devices : List DeviceInfo) :
    devices.foldl (DiscoverTab.onDeviceFound toolkit) tab =
      { devices := tab.devices ++ devices
        rows := tab.rows ++ devices.map toolkit.label } := by
  induction devices generalizing tab with
  | nil => rw [List.foldl_nil, List.map_nil, List.append_nil, List.append_nil]
  | cons device rest inductionHypothesis =>
    rw [List.foldl_cons, inductionHypothesis]
    simp [DiscoverTab.onDeviceFound]

/-- The rows are the labels of the devices, and the devices are followed by those that are
posted. -/
theorem Listed.devices_eq (listed : Listed toolkit leftover actions window) :
    window.discover.rows = window.discover.devices.map toolkit.label ∧
      window.discover.devices ++ foundIn window.posted = leftover ++ window.table := by
  obtain ⟨done, all, folded⟩ := listed.consumed
  rw [foldl_onDeviceFound] at folded
  rw [folded, all, List.append_nil]
  exact ⟨rfl, rfl⟩

theorem Listened.table_eq {worker : DiscoveryWorker} (listened : Listened actions worker) :
    ∃ datagrams, (∀ datagram ∈ datagrams, Action.hear datagram ∈ actions) ∧
      worker.listener.devices =
        firstSeen DeviceInfo.key (UniversalAirdrop.heard worker.discovery datagrams) := by
  obtain ⟨-, datagrams, parses, ran, heard⟩ := listened
  obtain ⟨last, ranToo, -, devices⟩ := listenLoop_empty worker.discovery parses
  cases ran.symm.trans ranToo
  exact ⟨datagrams, heard, devices⟩

theorem Listed.nodup_table (listed : Listed toolkit leftover actions window) :
    (window.table.map DeviceInfo.key).Nodup := by
  cases scanning : window.discovery with
  | none =>
    rw [table_of_none scanning]
    exact List.nodup_nil
  | some worker =>
    obtain ⟨datagrams, -, devices⟩ := (listed.listened worker scanning).table_eq
    rw [table_of_some scanning, devices]
    exact nodup_map_firstSeen _ _

/-- From a click that stops a scan on, until the next one, and from the beginning until the first
one: the list and what is posted are together what was posted at that click, followed by the table
of the scan that is running, which is what was announced to it. So all devices of the list and what
is posted are different exactly as long as nothing was posted that comes a second time. -/
theorem list_of_run (cleared : Cleared toolkit leftover first)
    (run : Run toolkit Unstopped first actions window) :
    window.discover.rows = window.discover.devices.map toolkit.label ∧
    window.discover.devices ++ foundIn window.posted = leftover ++ window.table ∧
    (∀ worker, window.discovery = some worker → ∃ datagrams,
      (∀ datagram ∈ datagrams, Action.hear datagram ∈ actions) ∧ window.table =
        firstSeen DeviceInfo.key (UniversalAirdrop.heard worker.discovery datagrams)) ∧
    (((window.discover.devices ++ foundIn window.posted).map DeviceInfo.key).Nodup ↔
      (leftover.map DeviceInfo.key).Nodup ∧
        ∀ device ∈ leftover, ∀ other ∈ window.table, device.key ≠ other.key) := by
  have listed := Listed.of_run cleared run
  obtain ⟨rows, devices⟩ := listed.devices_eq
  refine ⟨rows, devices, fun worker scanning => ?_, ?_⟩
  · rw [table_of_some scanning]
    exact (listed.listened worker scanning).table_eq
  · rw [devices, List.map_append, List.nodup_append, and_iff_right listed.nodup_table]
    simp only [List.mem_map, forall_exists_index, and_imp, forall_apply_eq_imp_iff₂]

/-! ### From a row to a sender -/

/-- A datagram that was heard announces the device. -/
def Announced (actions : List Action) (device : DeviceInfo) : Prop :=
  ∃ datagram discovery, Action.hear datagram ∈ actions ∧
    announced discovery datagram = some device

theorem Announced.mono {more : List Action} {device : DeviceInfo}
    (announced : Announced actions device) (subset : actions ⊆ more) : Announced more device := by
  obtain ⟨datagram, discovery, heard, announces⟩ := announced
  exact ⟨datagram, discovery, subset heard, announces⟩

/-- What is in the list or posted was announced, if what is left over was. -/
theorem Listed.announced (listed : Listed toolkit leftover actions window)
    (origin : ∀ device ∈ leftover, Announced actions device) {device : DeviceInfo}
    (member : device ∈ window.discover.devices ++ foundIn window.posted) :
    Announced actions device := by
  rw [listed.devices_eq.2] at member
  obtain before | found := List.mem_append.mp member
  · exact origin device before
  · cases scanning : window.discovery with
    | none =>
      rw [table_of_none scanning] at found
      exact absurd found List.not_mem_nil
    | some worker =>
      obtain ⟨datagrams, heard, devices⟩ := (listed.listened worker scanning).table_eq
      rw [table_of_some scanning, devices] at found
      obtain ⟨datagram, among, announces⟩ :=
        mem_heard.mp (List.mem_of_find?_eq_some (find?_of_mem_firstSeen _ found))
      exact ⟨datagram, worker.discovery, heard datagram among, announces⟩

/-- In a whole run what is left over was announced, whichever scan it is from. -/
theorem listed_of_run {allowed : Window → Action → Prop} {form : Form}
    (run : Run toolkit allowed (start form) actions window) :
    ∃ leftover, Listed toolkit leftover actions window ∧
      ∀ device ∈ leftover, Announced actions device := by
  induction run with
  | nil => exact ⟨[], (Cleared.start form).listed, nofun⟩
  | @act actions window next action before allows acts inductionHypothesis =>
    obtain ⟨leftover, listed, origin⟩ := inductionHypothesis
    have more : actions ⊆ actions ++ [action] := List.subset_append_left _ _
    by_cases unstopped : Unstopped window action
    · exact ⟨leftover, listed.act unstopped acts, fun device member =>
        (origin device member).mono more⟩
    · obtain ⟨listening, clicks⟩ := not_forall.mp unstopped
      obtain ⟨rfl, scanning⟩ := Classical.not_imp.mp clicks
      refine ⟨foundIn window.posted, (Cleared.stop scanning acts).listed.mono nofun,
        fun device member => ?_⟩
      exact (listed.announced origin (List.mem_append_right _ member)).mono more

/-- The fields of the address and the port are left as they are, and no row is clicked twice. What
is typed or chosen goes into other fields. -/
def AddressKept (window : Window) (action : Action) : Prop :=
  (∀ form, action = .edit form → form.ip = window.form.ip ∧ form.port = window.form.port) ∧
    ∀ row, action ≠ .doubleClick row

theorem address_of_act (kept : AddressKept window action)
    (acts : window.act toolkit action = some next) :
    next.form.ip = window.form.ip ∧ next.form.port = window.form.port := by
  cases effect_of_act acts with
  | edit form => exact kept.1 form rfl
  | fill => exact absurd rfl (kept.2 _)
  | _ => exact ⟨rfl, rfl⟩

theorem address_of_run (run : Run toolkit AddressKept first actions window) :
    window.form.ip = first.form.ip ∧ window.form.port = first.form.port := by
  induction run with
  | nil => exact ⟨rfl, rfl⟩
  | act before kept acts inductionHypothesis =>
    obtain ⟨ip, port⟩ := address_of_act kept acts
    exact ⟨ip.trans inductionHypothesis.1, port.trans inductionHypothesis.2⟩

/-- A double click on a row and later a click on the send button, when a file is filled in: whatever
else happens in between, the sender is given the address and the port of the device that the row
shows, as a datagram announced it, unless the port is one that the spin box cannot hold. -/
theorem dials_row {allowed : Window → Action → Prop} {form : Form} {more : List Action}
    {filled ready sending : Window} {row : ℕ} {sender : Sender} {network : Network}
    (run : Run toolkit allowed (start form) actions window)
    (sources : ∀ datagram, Action.hear datagram ∈ actions → datagram.source ≠ [] ∧
      toolkit.trimmed (toolkit.fromStdString datagram.source) = datagram.source)
    (chosen : window.act toolkit (.doubleClick row) = some filled)
    (waits : Run toolkit AddressKept filled more ready)
    (sends : ready.act toolkit (.send sender network) = some sending)
    (file : toolkit.trimmed ready.form.file ≠ []) :
    ∃ device worker, Announced actions device ∧
      window.discover.rows[row]? = some (toolkit.label device) ∧
      sending.senders = ready.senders ++ [worker] ∧ worker.ip = device.ip ∧
      worker.port.toNat = max 1024 device.tcpPort.toNat := by
  obtain ⟨leftover, listed, origin⟩ := listed_of_run run
  have rows := listed.devices_eq.1
  cases effect_of_act chosen with
  | missRow shown missing =>
    rw [rows, List.length_map, ← not_le, ← List.getElem?_eq_none_iff] at shown
    exact absurd missing shown
  | @fill _ device there =>
    obtain ⟨datagram, discovery, heard, announces⟩ :=
      listed.announced origin (List.mem_append_left _ (List.mem_of_getElem? there))
    obtain ⟨nonempty, same⟩ := sources datagram heard
    rw [ip_of_announced announces] at nonempty same
    -- The two fields are as the double click left them.
    obtain ⟨address, port⟩ := address_of_run waits
    have ip : toolkit.trimmed ready.form.ip = device.ip := by rw [address, same]
    cases effect_of_act sends with
    | warnFields enabled missing => exact absurd ⟨ip ▸ nonempty, file⟩ missing
    | startSender =>
      refine ⟨device, _, ⟨datagram, discovery, heard, announces⟩, ?_, rfl, ip, ?_⟩
      · rw [rows, List.getElem?_map, there, Option.map_some]
      · show (UInt16.ofNat ready.form.port.port).toNat = _
        have most := device.tcpPort.toNat_lt
        rw [port, UInt16.toNat_ofNat_of_lt']
        · show max 1024 (min device.tcpPort.toNat 65535) = _
          omega
        · exact Nat.lt_of_le_of_lt (SpinPort.atMost _) (by decide)

end List

/-! ### A window that meets a device -/

def samplePeer : DeviceInfo := ⟨ascii "pc", ascii "Linux", 9090, ascii "10.0.0.2"⟩

def sampleDatagram : Datagram := ⟨ascii "UAIRDROP:1:pc:Linux:9090", ascii "10.0.0.2"⟩

/-- The window in which the scan has started. -/
def scanning : Window :=
  { start sampleForm with discovery := some ⟨⟨ascii "me", true⟩, true, .empty⟩ }

/-- The window in which the scan has heard the device. -/
def heardPeer : Window :=
  { start sampleForm with
    discovery := some ⟨⟨ascii "me", true⟩, true, ⟨[samplePeer], [samplePeer]⟩⟩
    posted := [.deviceFound samplePeer] }

theorem hear_samplePeer :
    scanning.act plainToolkit (.hear sampleDatagram) = some heardPeer := by
  have stepped : listenStep ⟨ascii "me", true⟩ .empty sampleDatagram =
      .ok ⟨[samplePeer], [samplePeer]⟩ := by decide +kernel
  show scanning.hear sampleDatagram = _
  unfold hear scanning
  dsimp only
  rw [stepped]
  rfl

theorem run_heardPeer : Run plainToolkit (fun _ _ => True) (start sampleForm)
    [.scan true, .hear sampleDatagram] heardPeer := by
  have clicked : (start sampleForm).act plainToolkit (.scan true) = some scanning := rfl
  exact (Run.nil.act trivial clicked).act trivial hear_samplePeer

/-- The window in which the event loop has put the device into the list. -/
def listedPeer : Window :=
  { heardPeer with discover := ⟨[samplePeer], [ascii "pc"]⟩, posted := [] }

/-- A scan that is stopped before the device comes into the list. -/
theorem list_after_stop : ∃ window, Run plainToolkit Unstopped
      { heardPeer with discovery := none } [.deliver] window ∧
    window.discovery = none ∧ window.discover.devices = [samplePeer] := by
  have stops : heardPeer.act plainToolkit (.scan true) =
      some { heardPeer with discovery := none } := rfl
  have delivers : ({ heardPeer with discovery := none } : Window).act plainToolkit .deliver =
      some { listedPeer with discovery := none } := rfl
  have allows : Unstopped { heardPeer with discovery := none } .deliver :=
    fun listening same => Action.noConfusion same
  have run := Run.nil.act allows delivers
  have list := list_of_run (Cleared.stop (Option.some_ne_none _) stops) run
  refine ⟨_, run, rfl, ?_⟩
  rw [← List.append_nil (DiscoverTab.devices _)]
  exact list.2.1

/-- The window in which the device was chosen. -/
def chosenPeer : Window := listedPeer.onDoubleClicked plainToolkit 0

/-- The window in which a file was chosen after that. -/
def browsedFile : Window := { chosenPeer with form := { chosenPeer.form with file := ascii "b" } }

/-- The device is chosen, then a file, and the file is sent. -/
theorem dials_samplePeer : ∃ (sending : Window) (worker : SendWorker),
    browsedFile.act plainToolkit (.send reportingSender sampleNetwork) = some sending ∧
      sending.senders = [worker] ∧ worker.ip = ascii "10.0.0.2" := by
  have run : Run plainToolkit (fun _ _ => True) (start sampleForm)
      [.scan true, .hear sampleDatagram, .deliver] listedPeer :=
    run_heardPeer.act trivial rfl
  have only : ∀ datagram, Action.hear datagram ∈ [.scan true, .hear sampleDatagram, .deliver] →
      datagram = sampleDatagram := by
    intro datagram member
    simpa using member
  have chosen : listedPeer.act plainToolkit (.doubleClick 0) = some chosenPeer := rfl
  have kept : AddressKept chosenPeer (.edit browsedFile.form) :=
    ⟨fun form same => by cases same; exact ⟨rfl, rfl⟩, fun row same => Action.noConfusion same⟩
  have browses : Run plainToolkit AddressKept chosenPeer [.edit browsedFile.form] browsedFile :=
    Run.nil.act kept rfl
  have sends : browsedFile.act plainToolkit (.send reportingSender sampleNetwork) = some _ := rfl
  obtain ⟨device, worker, ⟨datagram, discovery, heard, announces⟩, -, senders, ip, -⟩ :=
    dials_row run (fun datagram heard => by rw [only datagram heard]; exact ⟨by decide, rfl⟩)
      chosen browses sends (by decide)
  refine ⟨_, worker, sends, senders, ip.trans ?_⟩
  rw [← ip_of_announced announces, only datagram heard]
  rfl

end Window

end UniversalAirdrop
