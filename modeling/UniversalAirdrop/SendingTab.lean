/-
This file proves what the send tab of the window shows. The button cannot be
clicked while a file is sent, so there is never more than one sender, and what the
tab shows is what the signals of that sender that were handled say.

The button can be clicked again when `send_file` has returned. There are ways in
which it never returns.
-/

import UniversalAirdrop.Window

namespace UniversalAirdrop

open Imperative Mailbox

namespace Window

/-! ### The signals of a transfer -/

/-- The calls of the callback as signals. -/
def progressSignals (reports : List (ℕ × ℕ)) : List SendSignal :=
  reports.map fun report => .progress report.1 report.2

/-- What the progress bar shows after a call of the callback. -/
def barStep (value : ℤ) (report : ℕ × ℕ) : ℤ :=
  let next := toInt (percent (UInt64.ofNat report.1) (UInt64.ofNat report.2)).toNat
  if 0 ≤ next ∧ next ≤ 100 then next else value

/-- What the progress bar shows after some calls of the callback. -/
def bar (reports : List (ℕ × ℕ)) : ℤ := reports.foldl barStep 0

theorem handle_progress (tab : SendTab) (report : ℕ × ℕ) :
    tab.handle (.progress report.1 report.2) =
      { tab with progress := barStep tab.progress report } := by
  rw [SendTab.handle, SendTab.setValue, barStep]
  generalize toInt _ = next
  split <;> rfl

theorem foldl_progressSignals (tab : SendTab) (reports : List (ℕ × ℕ)) :
    (progressSignals reports).foldl SendTab.handle tab =
      { tab with progress := reports.foldl barStep tab.progress } := by
  rw [progressSignals, List.foldl_map]
  induction reports generalizing tab with
  | nil => rfl
  | cons report rest inductionHypothesis =>
    rw [List.foldl_cons, List.foldl_cons, handle_progress, inductionHypothesis]

/-- The first signals of a transfer are reports, unless they are all. -/
theorem signals_prefix {transfer : ClientAct Bool} {done : List SendSignal}
    (first : done <+: signals transfer) :
    (∃ seen, seen <+: progressOf transfer.events ∧ done = progressSignals seen) ∨
    ∃ success, transfer.result = .ok success ∧
      done = progressSignals (progressOf transfer.events) ++ [.finished success] := by
  have reported {front : List SendSignal}
      (short : front <+: progressSignals (progressOf transfer.events)) :
      ∃ seen, seen <+: progressOf transfer.events ∧ front = progressSignals seen := by
    rw [List.prefix_iff_eq_take] at short
    refine ⟨(progressOf transfer.events).take front.length, List.take_prefix _ _, ?_⟩
    rw [progressSignals, List.map_take]
    exact short
  rw [signals] at first
  cases result : transfer.result with
  | error reason =>
    rw [result, lastSignal, List.append_nil] at first
    exact Or.inl (reported first)
  | ok success =>
    rw [result, lastSignal, List.prefix_concat_iff] at first
    obtain all | short := first
    · exact Or.inr ⟨success, rfl, all⟩
    · exact Or.inl (reported short)

/-! ### One transfer at a time -/

/-- Nothing is sent, and nothing that was sent is still posted. -/
structure Idle (window : Window) : Prop where
  enabled : window.sendTab.enabled = true
  senders : window.senders = []
  signals : signalsIn window.posted = []

/-- A transfer is under way, or what it has emitted is posted or was handled. -/
structure Transferring (transfer : ClientAct Bool) (window : Window) : Prop where
  consumed : Consumed SendTab.handle .started (signals transfer) window.sendTab
    (signalsIn window.posted) (window.senders.flatMap SendWorker.coming)
  sender : (∃ worker, window.senders = [worker] ∧ worker.result = transfer.result) ∨
    window.senders = [] ∧ ∃ success, transfer.result = .ok success

section Transfers

variable {toolkit : Toolkit} {transfer : ClientAct Bool} {window next : Window} {action : Action}

/-- What the tab shows: it is sending, or it shows the end. -/
theorem Transferring.cases (transferring : Transferring transfer window) :
    (∃ seen, seen <+: progressOf transfer.events ∧
      window.sendTab = { SendTab.started with progress := bar seen }) ∨
    ∃ success, transfer.result = .ok success ∧
      window.sendTab = SendTab.handle { SendTab.started with
        progress := bar (progressOf transfer.events) } (.finished success) ∧
      window.senders = [] ∧ signalsIn window.posted = [] := by
  obtain ⟨done, all, folded⟩ := transferring.consumed
  have first : done <+: signals transfer :=
    ⟨_, by rw [all, List.append_assoc]⟩
  obtain ⟨seen, short, rfl⟩ | ⟨success, returned, rfl⟩ := signals_prefix first
  · refine Or.inl ⟨seen, short, ?_⟩
    rw [folded, foldl_progressSignals]
    rfl
  · refine Or.inr ⟨success, returned, ?_, ?_⟩
    · rw [folded, List.foldl_concat, foldl_progressSignals]
      rfl
    · -- Everything was handled, so nothing is posted, and no sender has anything to emit.
      rw [signals, returned, lastSignal, progressSignals, List.append_assoc _ (signalsIn _),
        List.self_eq_append_right, List.append_eq_nil_iff] at all
      obtain ⟨posted, coming⟩ := all
      refine ⟨?_, posted⟩
      obtain ⟨worker, only, result⟩ | ⟨gone, -⟩ := transferring.sender
      · rw [only, List.flatMap_singleton, SendWorker.coming, result, returned, lastSignal] at coming
        exact absurd (List.append_eq_nil_iff.mp coming).2 (List.cons_ne_nil _ _)
      · exact gone

/-- When the button can be clicked, nothing is sent. -/
theorem Transferring.idle (transferring : Transferring transfer window)
    (enabled : window.sendTab.enabled = true) : Idle window := by
  obtain ⟨seen, -, tab⟩ | ⟨success, -, -, senders, posted⟩ := transferring.cases
  · rw [tab] at enabled
    cases enabled
  · exact ⟨enabled, senders, posted⟩

/-- No click starts a sender. -/
def Unsent (toolkit : Toolkit) (window : Window) (action : Action) : Prop :=
  ∀ sender network, action = .send sender network → ¬ window.Filled toolkit

theorem unsent_work (window : Window) (index : ℕ) : Unsent toolkit window (.work index) :=
  fun _ _ same => Action.noConfusion same

theorem unsent_deliver (window : Window) : Unsent toolkit window .deliver :=
  fun _ _ same => Action.noConfusion same

/-- A click on the button of a window that sends nothing. -/
theorem Idle.click (idle : Idle window) (filled : window.Filled toolkit) {sender : Sender}
    {network : Network} (clicked : window.act toolkit (.send sender network) = some next) :
    Transferring (window.transfer toolkit sender network) next := by
  cases effect_of_act clicked with
  | warnFields enabled missing => exact absurd filled missing
  | startSender =>
    refine ⟨?_, Or.inl ⟨_, by rw [idle.senders]; rfl, rfl⟩⟩
    show Consumed _ _ _ _ (signalsIn window.posted) ((window.senders ++ [_]).flatMap _)
    rw [idle.signals, idle.senders, List.nil_append, List.flatMap_singleton]
    exact Consumed.start _ _ _

theorem Idle.act (idle : Idle window) (unsent : Unsent toolkit window action)
    (acts : window.act toolkit action = some next) : Idle next := by
  obtain ⟨enabled, senders, signals⟩ := idle
  cases effect_of_act acts with
  | startSender _ filled => exact absurd filled (unsent _ _ rfl)
  | found waiting =>
    rw [waiting, signalsIn_deviceFound] at signals
    exact ⟨enabled, senders, signals⟩
  | signal waiting =>
    rw [waiting, signalsIn_send] at signals
    exact absurd signals (List.cons_ne_nil _ _)
  | hear =>
    refine ⟨enabled, senders, ?_⟩
    rw [signalsIn_append, signalsIn_map_deviceFound, List.append_nil]
    exact signals
  | report there | finish there =>
    rw [senders] at there
    cases there
  | _ => exact ⟨enabled, senders, signals⟩

/-- The sender that acts is the only one. -/
theorem Transferring.only {transfer : ClientAct Bool} (transferring : Transferring transfer window)
    {index : ℕ} {worker : SendWorker} (there : window.senders[index]? = some worker) :
    window.senders = [worker] ∧ index = 0 ∧ worker.result = transfer.result := by
  obtain ⟨only, senders, result⟩ | ⟨gone, -⟩ := transferring.sender
  · rw [senders] at there
    obtain ⟨inside, same⟩ := List.getElem?_eq_some_iff.mp there
    obtain rfl : index = 0 := Nat.lt_one_iff.mp inside
    obtain rfl : only = worker := same
    exact ⟨senders, rfl, result⟩
  · rw [gone] at there
    cases there

theorem Transferring.act (transferring : Transferring transfer window)
    (unsent : Unsent toolkit window action) (acts : window.act toolkit action = some next) :
    Transferring transfer next := by
  have alone := @Transferring.only window transfer transferring
  obtain ⟨consumed, sender⟩ := transferring
  cases effect_of_act acts with
  | startSender _ filled => exact absurd filled (unsent _ _ rfl)
  | found waiting =>
    rw [waiting, signalsIn_deviceFound] at consumed
    exact ⟨consumed, sender⟩
  | signal waiting =>
    rw [waiting, signalsIn_send] at consumed
    exact ⟨consumed.deliver, sender⟩
  | hear =>
    refine ⟨?_, sender⟩
    rw [signalsIn_append, signalsIn_map_deviceFound, List.append_nil]
    exact consumed
  | @report index worker sent total left there more =>
    obtain ⟨senders, rfl, result⟩ := alone there
    refine ⟨?_, Or.inl ⟨{ worker with left }, by rw [senders]; rfl, result⟩⟩
    show Consumed _ _ _ _ (signalsIn (_ ++ _)) ((window.senders.set 0 _).flatMap _)
    rw [senders, List.flatMap_singleton, SendWorker.coming, more, List.map_cons,
      List.cons_append] at consumed
    rw [senders, signalsIn_append, List.set_cons_zero, List.flatMap_singleton]
    exact consumed.post
  | @finish index worker success there finished returned =>
    obtain ⟨senders, rfl, result⟩ := alone there
    refine ⟨?_, Or.inr ⟨by rw [senders]; rfl, success, result ▸ returned⟩⟩
    show Consumed _ _ _ _ (signalsIn (_ ++ _)) ((window.senders.eraseIdx 0).flatMap _)
    rw [senders, List.flatMap_singleton, SendWorker.coming, finished, returned] at consumed
    rw [senders, signalsIn_append, List.eraseIdx_cons_zero, List.flatMap_nil]
    exact consumed.post
  | _ => exact ⟨consumed, sender⟩

/-- The button can be clicked only when nothing is sent. -/
theorem enabled_of_click {sender : Sender} {network : Network}
    (clicked : window.act toolkit (.send sender network) = some next) :
    window.sendTab.enabled = true := by
  cases effect_of_act clicked with
  | startSender enabled => exact enabled
  | warnFields enabled => exact enabled

/-- In every window that can be reached nothing is sent, or one file is. -/
theorem idle_or_transferring {allowed : Window → Action → Prop} {form : Form}
    {actions : List Action} (run : Run toolkit allowed (start form) actions window) :
    Idle window ∨ ∃ transfer, Transferring transfer window := by
  induction run with
  | nil => exact Or.inl ⟨rfl, rfl, rfl⟩
  | @act actions window next action before allows acts inductionHypothesis =>
    by_cases unsent : Unsent toolkit window action
    · exact inductionHypothesis.imp (fun idle => idle.act unsent acts)
        fun ⟨transfer, transferring⟩ => ⟨transfer, transferring.act unsent acts⟩
    · obtain ⟨sender, clicks⟩ := not_forall.mp unsent
      obtain ⟨network, clicks⟩ := not_forall.mp clicks
      obtain ⟨rfl, filled⟩ := Classical.not_imp.mp clicks
      have idle : Idle window := inductionHypothesis.elim id
        fun ⟨transfer, transferring⟩ => transferring.idle (enabled_of_click acts)
      exact Or.inr ⟨_, idle.click (not_not.mp filled) acts⟩

/-- A click on the button of a window that can be reached. -/
theorem transferring_of_click {allowed : Window → Action → Prop} {form : Form}
    {actions : List Action} (run : Run toolkit allowed (start form) actions window)
    (filled : window.Filled toolkit) {sender : Sender} {network : Network}
    (clicked : window.act toolkit (.send sender network) = some next) :
    Transferring (window.transfer toolkit sender network) next := by
  have idle : Idle window := (idle_or_transferring run).elim id
    fun ⟨earlier, transferring⟩ => transferring.idle (enabled_of_click clicked)
  exact idle.click filled clicked

theorem Transferring.of_run {last : Window} {actions : List Action}
    (transferring : Transferring transfer window)
    (run : Run toolkit (Unsent toolkit) window actions last) : Transferring transfer last := by
  induction run with
  | nil => exact transferring
  | act before unsent acts inductionHypothesis => exact inductionHypothesis.act unsent acts

end Transfers

/-! ### What the tab shows -/

/-- The percentage that was shown last. -/
def lastShown (percentages : List UInt64) : ℤ :=
  percentages.getLast?.elim 0 fun percentage => percentage.toNat

/-- A transfer sends nothing, or it sends the payload that is made of a file. -/
theorem sendFile_cases (sender : Sender) (network : Network) (filepath passphrase : Bytes) :
    ((sendFile sender network filepath passphrase).events = [] ∧
      (sendFile sender network filepath passphrase).result ≠ .ok true) ∨
    ∃ file payload, readFile sender.readable filepath = some file ∧
      payloadOf sender file passphrase = .ok payload ∧
      sendFile sender network filepath passphrase =
        sendPayload sender network (headerOf file.filename payload passphrase) payload := by
  cases read : readFile sender.readable filepath with
  | none =>
    rw [sendFile, read]
    exact Or.inl ⟨rfl, fun same => Bool.false_ne_true (Except.ok.inj same)⟩
  | some file =>
    cases built : payloadOf sender file passphrase with
    | error fault =>
      rw [sendFile, read]
      dsimp only
      rw [built]
      exact Or.inl ⟨rfl, fun same => by cases same⟩
    | ok payload =>
      refine Or.inr ⟨file, payload, rfl, built, ?_⟩
      rw [sendFile, read]
      dsimp only
      rw [built]
      rfl

/-- The whole message of the file has been accepted. -/
def Accepted (sender : Sender) (filepath passphrase : Bytes) (transfer : ClientAct Bool) : Prop :=
  ∃ file payload, readFile sender.readable filepath = some file ∧
    payloadOf sender file passphrase = .ok payload ∧ wire transfer.events =
      serializeFileHeader (headerOf file.filename payload passphrase) ++ payload

/-- What the bar shows of a transfer that reports is the percentage that was shown last. -/
theorem bar_eq {header payload : Bytes} {events : List ClientEvent}
    (reported : Reported header payload events) (fits : payload.length * 100 < 2 ^ 64)
    {seen : List (ℕ × ℕ)} (first : seen <+: progressOf events) :
    bar seen = lastShown (seen.map fun report =>
      percent (UInt64.ofNat report.1) (UInt64.ofNat report.2)) := by
  obtain rfl | ⟨before, report, rfl⟩ := List.eq_nil_or_concat seen
  · rfl
  · rw [List.concat_eq_append] at first ⊢
    have member := first.subset (List.mem_append_right _ (List.mem_singleton_self report))
    have among : percent (UInt64.ofNat report.1) (UInt64.ofNat report.2) ∈ shown events :=
      List.mem_map_of_mem member
    have within := UInt64.le_iff_toNat_le.mp (reported.shown_le fits among)
    have hundred : (100 : UInt64).toNat = 100 := rfl
    rw [bar, List.foldl_concat, List.map_append, List.map_singleton, lastShown,
      List.getLast?_concat, barStep, toInt_of_lt (by omega), Option.elim_some, if_pos (by omega)]

section Tab

variable {toolkit : Toolkit} {sender : Sender} {network : Network} {filepath passphrase : Bytes}
  {transfer : ClientAct Bool} {window : Window}

/-- What the bar shows, and that it shows 100 only when the socket has accepted all. -/
theorem bar_of_sendFile (called : sender.reportsProgress = true)
    (same : transfer = sendFile sender network filepath passphrase)
    (fits : ∀ file payload, readFile sender.readable filepath = some file →
      payloadOf sender file passphrase = .ok payload → payload.length * 100 < 2 ^ 64) :
    (shown transfer.events).Pairwise (· ≤ ·) ∧
    (∀ seen, seen <+: progressOf transfer.events →
      bar seen = lastShown (seen.map fun report =>
        percent (UInt64.ofNat report.1) (UInt64.ofNat report.2)) ∧
      (bar seen = 100 → Accepted sender filepath passphrase transfer)) ∧
    (transfer.result = .ok true → Accepted sender filepath passphrase transfer) := by
  obtain ⟨silent, failed⟩ | ⟨file, payload, read, built, sends⟩ :=
    sendFile_cases sender network filepath passphrase
  · rw [← same] at silent failed
    rw [shown, silent]
    refine ⟨List.Pairwise.nil, fun seen first => ⟨?_, ?_⟩,
      fun success => absurd success failed⟩
    · rw [List.prefix_nil.mp first]
      rfl
    · rw [List.prefix_nil.mp first]
      exact nofun
  · rw [← same] at sends
    have small := fits file payload read built
    have reported := sendPayload_reported sender network (headerOf file.filename payload passphrase)
      payload called
    rw [← sends] at reported
    have nonempty : serializeFileHeader (headerOf file.filename payload passphrase) ≠ [] := by
      simp [serializeFileHeader]
    refine ⟨reported.shown_monotone small, fun seen first =>
      ⟨bar_eq reported small first, fun full => ?_⟩, fun success => ?_⟩
    · -- The percentage that was shown last was 100, so it is among those that were shown.
      rw [bar_eq reported small first, lastShown] at full
      cases last : (seen.map fun report =>
          percent (UInt64.ofNat report.1) (UInt64.ofNat report.2)).getLast? with
      | none =>
        rw [last] at full
        cases full
      | some percentage =>
        rw [last] at full
        have hundred : percentage = 100 := UInt64.toNat_inj.mp (Int.ofNat_inj.mp full)
        have among : 100 ∈ shown transfer.events :=
          hundred ▸ (first.map _).subset (List.mem_of_getLast? last)
        exact ⟨file, payload, read, built, ((reported.hundred_iff nonempty small).mp among).2⟩
    · rw [sends] at success
      have accepted := (sendPayload_of_reaches (reaches_of_sendPayload_true success)).1
      exact ⟨file, payload, read, built, sends ▸ accepted⟩

/-- From a click on the send button on, whatever else happens until it is clicked again: there is no
second sender. While the button cannot be clicked the status is "Sending..." and the bar shows the
last of some first percentages of this transfer, which never go back. When it can be clicked again,
`send_file` has returned, and the status and the bar say what. The bar shows 100 only if the socket
has accepted the whole message. -/
theorem send_of_run {allowed : Window → Action → Prop} {form : Form} {before after : List Action}
    {window sending last : Window}
    (run : Run toolkit allowed (start form) before window) (filled : window.Filled toolkit)
    (clicked : window.act toolkit (.send sender network) = some sending)
    (waits : Run toolkit (Unsent toolkit) sending after last)
    (fits : ∀ file payload,
      readFile sender.readable (toolkit.trimmed window.form.file) = some file →
      payloadOf sender file window.form.passphrase = .ok payload → payload.length * 100 < 2 ^ 64) :
    let transfer := window.transfer toolkit sender network
    last.senders.length ≤ 1 ∧ (shown transfer.events).Pairwise (· ≤ ·) ∧
    ((last.sendTab.enabled = false ∧ last.sendTab.status = .sending ∧
        ∃ percentages, percentages <+: shown transfer.events ∧
          last.sendTab.progress = lastShown percentages) ∨
      ∃ success, transfer.result = .ok success ∧ last.sendTab = {
        enabled := true
        progress := if success then 100 else lastShown (shown transfer.events)
        status := if success then .sent else .failed }) ∧
    (last.sendTab.progress = 100 →
      Accepted sender (toolkit.trimmed window.form.file) window.form.passphrase transfer) := by
  intro transfer
  have transferring := (transferring_of_click run filled clicked).of_run waits
  obtain ⟨monotone, bars, accepted⟩ := @bar_of_sendFile { sender with reportsProgress := true }
    network _ _ transfer rfl rfl fits
  have single : last.senders.length ≤ 1 := by
    obtain ⟨worker, only, -⟩ | ⟨gone, -⟩ := transferring.sender
    · rw [only]
      exact le_rfl
    · rw [gone]
      exact Nat.zero_le 1
  refine ⟨single, monotone, ?_⟩
  obtain ⟨seen, first, tab⟩ | ⟨success, returned, tab, -, -⟩ := transferring.cases
  · obtain ⟨value, full⟩ := bars seen first
    rw [tab]
    exact ⟨Or.inl ⟨rfl, rfl, _, first.map _, value⟩, full⟩
  · obtain ⟨value, full⟩ := bars _ List.prefix_rfl
    rw [tab]
    cases success with
    | true => exact ⟨Or.inr ⟨true, returned, rfl⟩, fun _ => accepted returned⟩
    | false =>
      refine ⟨Or.inr ⟨false, returned, ?_⟩, full⟩
      rw [if_neg Bool.false_ne_true, shown, ← value]
      rfl

end Tab

/-! ### Whether the button comes back -/

section Draining

variable {toolkit : Toolkit} {window : Window}

theorem Run.trans {allowed : Window → Action → Prop} {first middle last : Window}
    {actions more : List Action} (run : Run toolkit allowed first actions middle)
    (rest : Run toolkit allowed middle more last) :
    Run toolkit allowed first (actions ++ more) last := by
  induction rest with
  | nil =>
    rw [List.append_nil]
    exact run
  | act before allows acts inductionHypothesis =>
    rw [← List.append_assoc]
    exact inductionHypothesis.act allows acts

/-- The event loop can handle all that is posted. -/
theorem exists_delivered (alive : window.ended = false) :
    ∃ actions last, Run toolkit (Unsent toolkit) window actions last ∧ last.posted = [] ∧
      last.senders = window.senders ∧ last.ended = false := by
  induction waiting : window.posted generalizing window with
  | nil => exact ⟨[], window, Run.nil, waiting, rfl, alive⟩
  | cons event posted inductionHypothesis =>
    have delivers : ∃ next, window.act toolkit .deliver = some next ∧ next.posted = posted ∧
        next.senders = window.senders ∧ next.ended = false := by
      unfold Window.act
      rw [if_neg (Bool.eq_false_iff.mp alive)]
      dsimp only
      unfold deliver
      rw [waiting]
      cases event with
      | deviceFound device => exact ⟨_, rfl, rfl, rfl, alive⟩
      | send signal => exact ⟨_, rfl, rfl, rfl, alive⟩
    obtain ⟨next, acts, rest, senders, stillAlive⟩ := delivers
    obtain ⟨actions, last, run, empty, same, end_⟩ := inductionHypothesis stillAlive rest
    exact ⟨_, last, (Run.nil.act (unsent_deliver window) acts).trans run, empty,
      same.trans senders, end_⟩

/-- A sender whose `send_file` returns can emit all its signals. -/
theorem exists_emitted {worker : SendWorker} {success : Bool} (alive : window.ended = false)
    (only : window.senders = [worker]) (returned : worker.result = .ok success) :
    ∃ actions last, Run toolkit (Unsent toolkit) window actions last ∧ last.senders = [] ∧
      last.ended = false := by
  have there (window : Window) (worker : SendWorker) (only : window.senders = [worker]) :
      window.senders[0]? = some worker := by rw [only]; rfl
  induction more : worker.left generalizing window worker with
  | nil =>
    refine ⟨[.work 0], { window with
        senders := window.senders.eraseIdx 0
        posted := window.posted ++ [.send (.finished success)] },
      Run.nil.act (unsent_work window 0) ?_, ?_, alive⟩
    · unfold Window.act
      rw [if_neg (Bool.eq_false_iff.mp alive)]
      dsimp only
      unfold work
      rw [there window worker only]
      dsimp only
      rw [more, returned]
    · rw [only]
      rfl
  | cons report left inductionHypothesis =>
    have acts : window.act toolkit (.work 0) = some { window with
        senders := window.senders.set 0 { worker with left }
        posted := window.posted ++ [.send (.progress report.1 report.2)] } := by
      unfold Window.act
      rw [if_neg (Bool.eq_false_iff.mp alive)]
      dsimp only
      unfold work
      rw [there window worker only]
      dsimp only
      rw [more]
    obtain ⟨actions, last, run, rest⟩ := @inductionHypothesis { window with
        senders := window.senders.set 0 { worker with left }
        posted := window.posted ++ [.send (.progress report.1 report.2)] }
      { worker with left } alive (by rw [only]; rfl) returned rfl
    exact ⟨_, last, (Run.nil.act (unsent_work window 0) acts).trans run, rest⟩

/-- After a click on the send button there is a way to go on in which the button can be clicked
again exactly if `send_file` returns. Otherwise it cannot be clicked, whatever happens. -/
theorem enabled_again_iff {allowed : Window → Action → Prop} {form : Form} {before : List Action}
    {sending : Window} {sender : Sender} {network : Network}
    (run : Run toolkit allowed (start form) before window) (filled : window.Filled toolkit)
    (clicked : window.act toolkit (.send sender network) = some sending) :
    (∃ after last, Run toolkit (Unsent toolkit) sending after last ∧
        last.sendTab.enabled = true) ↔
      ∃ success, (window.transfer toolkit sender network).result = .ok success := by
  have transferring := transferring_of_click run filled clicked
  constructor
  · rintro ⟨after, last, waits, again⟩
    obtain ⟨seen, -, tab⟩ | ⟨success, returned, -⟩ := (transferring.of_run waits).cases
    · rw [tab] at again
      cases again
    · exact ⟨success, returned⟩
  · rintro ⟨success, returned⟩
    have alive : sending.ended = false := by
      have before := alive_of_act clicked
      cases effect_of_act clicked <;> exact before
    have emitted : ∃ actions last,
        Run toolkit (Unsent toolkit) sending actions last ∧ last.senders = [] ∧
          last.ended = false := by
      obtain ⟨worker, only, result⟩ | ⟨gone, -⟩ := transferring.sender
      · exact exists_emitted alive only (result.trans returned)
      · exact ⟨[], _, Run.nil, gone, alive⟩
    obtain ⟨actions, middle, first, gone, stillAlive⟩ := emitted
    obtain ⟨more, last, second, empty, senders, -⟩ := exists_delivered stillAlive
    have consumed := (transferring.of_run (first.trans second)).consumed
    rw [empty, senders, gone] at consumed
    refine ⟨_, last, first.trans second, ?_⟩
    rw [consumed.all, signals, returned, lastSignal, List.foldl_concat, SendTab.handle]
    cases success <;> rfl

end Draining

/-- A window that is to send a file. -/
def fileChosen : Window := start { sampleForm with ip := ascii "10.0.0.2" }

/-- The address is typed into a new window. -/
theorem run_fileChosen : Run plainToolkit (fun _ _ => True) (start sampleForm)
    [.edit fileChosen.form] fileChosen := Run.nil.act trivial rfl

theorem filled_fileChosen : fileChosen.Filled plainToolkit := ⟨by decide, by decide⟩

/-- The window in which the button was clicked. -/
def sendingFile : Window := fileChosen.onSendClicked plainToolkit reportingSender sampleNetwork

theorem click_fileChosen :
    fileChosen.act plainToolkit (.send reportingSender sampleNetwork) = some sendingFile := rfl

/-- The window in which the bar shows what was reported last. -/
def shownFile : Window :=
  { sendingFile with
    sendTab := { SendTab.started with progress := 100 }
    senders := sendingFile.senders.map fun worker => { worker with left := [] } }

/-- The window in which the end was handled. -/
def sentFile : Window :=
  { sendingFile with
    sendTab := { enabled := true, progress := 100, status := .sent }
    senders := [] }

theorem transfer_fileChosen :
    progressOf (fileChosen.transfer plainToolkit reportingSender sampleNetwork).events = [(2, 2)] ∧
      (fileChosen.transfer plainToolkit reportingSender sampleNetwork).result = .ok true := by
  constructor <;> decide +kernel

theorem run_shownFile :
    Run plainToolkit (Unsent plainToolkit) sendingFile [.work 0, .deliver] shownFile := by
  have works : sendingFile.act plainToolkit (.work 0) =
      some { shownFile with sendTab := .started, posted := [.send (.progress 2 2)] } := by
    have there : sendingFile.senders[0]? = some (.begin (ascii "10.0.0.2") 9090
      (fileChosen.transfer plainToolkit reportingSender sampleNetwork)) := rfl
    show sendingFile.work 0 = _
    unfold work
    rw [there]
    dsimp only
    rw [SendWorker.begin, transfer_fileChosen.1]
    rfl
  have handles : SendTab.handle .started (.progress 2 2) =
      { SendTab.started with progress := 100 } := by decide +kernel
  have delivers : ({ shownFile with sendTab := .started, posted := [.send (.progress 2 2)] } :
      Window).act plainToolkit .deliver = some shownFile := by
    show some { shownFile with sendTab := SendTab.handle .started (.progress 2 2) } = _
    rw [handles]
    rfl
  exact (Run.nil.act (unsent_work _ 0) works).act (unsent_deliver _) delivers

theorem run_sentFile :
    Run plainToolkit (Unsent plainToolkit) sendingFile [.work 0, .deliver, .work 0, .deliver]
      sentFile := by
  have works : shownFile.act plainToolkit (.work 0) =
      some { shownFile with senders := [], posted := [.send (.finished true)] } := by
    have there : shownFile.senders[0]? = some { SendWorker.begin (ascii "10.0.0.2") 9090
      (fileChosen.transfer plainToolkit reportingSender sampleNetwork) with left := [] } := rfl
    show shownFile.work 0 = _
    unfold work
    rw [there]
    dsimp only
    rw [SendWorker.begin, transfer_fileChosen.2]
    rfl
  exact (run_shownFile.act (unsent_work _ 0) works).act (unsent_deliver _) rfl

/-- The bar shows 100 while the button is disabled and after it, as all was accepted. -/
theorem send_fileChosen :
    shownFile.sendTab = { SendTab.started with progress := 100 } ∧
    sentFile.sendTab = { enabled := true, progress := 100, status := .sent } ∧
    Accepted reportingSender (ascii "a") []
      (fileChosen.transfer plainToolkit reportingSender sampleNetwork) := by
  have fits : ∀ file payload, readFile reportingSender.readable (ascii "a") = some file →
      payloadOf reportingSender file [] = .ok payload → payload.length * 100 < 2 ^ 64 := by
    intro file payload read built
    cases read
    cases built
    decide
  obtain ⟨-, -, -, accepted⟩ :=
    send_of_run run_fileChosen filled_fileChosen click_fileChosen run_shownFile fits
  obtain ⟨-, -, ⟨enabled, -⟩ | ⟨success, -, tab⟩, -⟩ :=
    send_of_run run_fileChosen filled_fileChosen click_fileChosen run_sentFile fits
  · cases enabled
  · exact ⟨rfl, rfl, accepted rfl⟩

theorem enabled_again_fileChosen : ∃ after last, Run plainToolkit (Unsent plainToolkit)
    (fileChosen.onSendClicked plainToolkit reportingSender sampleNetwork) after last ∧
      last.sendTab.enabled = true := by
  refine (enabled_again_iff run_fileChosen filled_fileChosen click_fileChosen).mpr ⟨true, ?_⟩
  decide +kernel

end Window

end UniversalAirdrop
