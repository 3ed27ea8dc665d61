/-
This file models the two sockets of a `UdpDiscovery` over `start`, `stop` and the
destructor, and proves when each descriptor is closed exactly once.

The three exits of `start` on a failure close what is open by then, and leave
the descriptors they have closed in the members. `stop` closes what it finds in
the members, so after such an exit it closes a number that is no longer the
object's, or that has become that of another socket.
-/

import UniversalAirdrop.Library.Ledger

namespace UniversalAirdrop

open Ledger

/-! ### The members and the calls -/

abbrev Descriptor := ℕ

/-- How the system calls of one `start` end: what the two calls of `socket` return, where `none`
is `INVALID_SOCK`, and whether `bind` succeeds. -/
structure StartCalls where
  broadcastSocket : Option Descriptor
  listenSocket : Option Descriptor
  binds : Bool
  deriving DecidableEq, Repr

/-- The members of a `UdpDiscovery` that `start` and `stop` change, and the descriptors that were
obtained and closed. -/
structure UdpSockets where
  broadcastSock : Option Descriptor
  listenSock : Option Descriptor
  running : Bool
  ledger : List (Entry Descriptor)

def UdpSockets.constructed : UdpSockets where
  broadcastSock := none
  listenSock := none
  running := false
  ledger := []

/-- `UdpDiscovery::start`. -/
def UdpSockets.start (sockets : UdpSockets) (calls : StartCalls) : Bool × UdpSockets :=
  match calls.broadcastSocket with
  | none => (false, { sockets with broadcastSock := none })
  | some broadcast =>
    match calls.listenSocket with
    | none =>
      (false, { sockets with
        broadcastSock := some broadcast
        listenSock := none
        ledger := sockets.ledger ++ [.acquired broadcast] ++ [.released broadcast] })
    | some listen =>
      let ledger := sockets.ledger ++ [.acquired broadcast] ++ [.acquired listen]
      if calls.binds then
        (true, { broadcastSock := some broadcast
                 listenSock := some listen
                 running := true
                 ledger })
      else
        (false, { sockets with
          broadcastSock := some broadcast
          listenSock := some listen
          ledger := ledger ++ [.released broadcast] ++ [.released listen] })

/-- Close a member if it is not `INVALID_SOCK`. -/
def sockClose (ledger : List (Entry Descriptor)) : Option Descriptor → List (Entry Descriptor)
  | none => ledger
  | some sock => ledger ++ [.released sock]

/-- `UdpDiscovery::stop`, which the destructor calls too. -/
def UdpSockets.stop (sockets : UdpSockets) : UdpSockets where
  broadcastSock := none
  listenSock := none
  running := false
  ledger := sockClose (sockClose sockets.ledger sockets.broadcastSock) sockets.listenSock

/-- A call the owner of the object makes. -/
inductive DiscoveryCall
  | start (calls : StartCalls)
  | stop
  deriving DecidableEq, Repr

def UdpSockets.perform (sockets : UdpSockets) : DiscoveryCall → UdpSockets
  | .start calls => (sockets.start calls).2
  | .stop => sockets.stop

/-- The object after some calls. -/
def reached (calls : List DiscoveryCall) : UdpSockets := calls.foldl UdpSockets.perform .constructed

/-- The object after some calls and its destructor. -/
def destructed (calls : List DiscoveryCall) : UdpSockets := (reached calls).stop

/-! ### Sequences of calls -/

/-- The kernel hands out numbers that are not open. -/
def StartCalls.Possible (calls : StartCalls) (sockets : UdpSockets) : Prop :=
  ∀ broadcast, calls.broadcastSocket = some broadcast → broadcast ∉ held sockets.ledger ∧
    ∀ listen, calls.listenSocket = some listen → listen ∉ insert broadcast (held sockets.ledger)

/-- Every `start` is called while the object is not running. -/
def Permitted : List DiscoveryCall → Prop :=
  Throughout fun before call => ∀ calls, call = .start calls →
    (reached before).running = false ∧ calls.Possible (reached before)

theorem permitted_append_stop {calls : List DiscoveryCall} :
    Permitted (calls ++ [.stop]) ↔ Permitted calls := by
  rw [Permitted, throughout_append_singleton]
  simp

theorem permitted_append_start {calls : List DiscoveryCall} {attempt : StartCalls} :
    Permitted (calls ++ [.start attempt]) ↔
      Permitted calls ∧ (reached calls).running = false ∧ attempt.Possible (reached calls) := by
  rw [Permitted, throughout_append_singleton]
  simp

/-- Each descriptor is closed exactly once and none after it was closed, and a `start` that fails
leaves both members invalid. -/
structure ClosesOnce (calls : List DiscoveryCall) : Prop where
  disciplined : Disciplined (destructed calls).ledger
  once : ∀ sock, (destructed calls).ledger.count (.acquired sock) =
    (destructed calls).ledger.count (.released sock)
  reset : Throughout (fun before call => ∀ attempt, call = .start attempt →
    ((reached before).start attempt).1 = false →
      ((reached before).start attempt).2.broadcastSock = none ∧
        ((reached before).start attempt).2.listenSock = none) calls

/-- A `start` gets its first socket and fails after that. -/
def StartCalls.FailsLate (calls : StartCalls) : Prop :=
  calls.broadcastSocket ≠ none ∧ (calls.listenSocket = none ∨ calls.binds = false)

/-- A `start` that fails late keeps what it has closed in a member. -/
theorem start_of_failsLate (sockets : UdpSockets) {calls : StartCalls} (late : calls.FailsLate) :
    (sockets.start calls).1 = false ∧
      (sockets.start calls).2.broadcastSock = calls.broadcastSocket := by
  obtain ⟨opened, fails⟩ := late
  obtain ⟨broadcast, opened⟩ := Option.ne_none_iff_exists'.mp opened
  rw [UdpSockets.start, opened]
  rcases fails with unopened | unbound
  · rw [unopened]
    exact ⟨rfl, rfl⟩
  · rw [unbound]
    cases calls.listenSocket with
    | none => exact ⟨rfl, rfl⟩
    | some listen => exact ⟨rfl, rfl⟩

/-- A `start` that gets no first socket leaves an object without sockets as it is. -/
theorem start_of_unopened {sockets : UdpSockets} {calls : StartCalls}
    (unopened : calls.broadcastSocket = none) (idle : sockets.broadcastSock = none) :
    sockets.start calls = (false, sockets) := by
  rw [UdpSockets.start, unopened]
  show (false, { sockets with broadcastSock := none }) = _
  rw [← idle]

/-- A `start` on which nothing fails. -/
theorem start_of_binds (sockets : UdpSockets) {calls : StartCalls} {broadcast listen : Descriptor}
    (opened : calls.broadcastSocket = some broadcast) (listens : calls.listenSocket = some listen)
    (binds : calls.binds = true) :
    sockets.start calls =
      (true, { broadcastSock := some broadcast
               listenSock := some listen
               running := true
               ledger := sockets.ledger ++ [.acquired broadcast] ++ [.acquired listen] }) := by
  rw [UdpSockets.start, opened, listens, binds]
  rfl

/-- A `start` that gets its first socket and does not fail late. -/
theorem of_not_failsLate {calls : StartCalls} {broadcast : Descriptor}
    (opened : calls.broadcastSocket = some broadcast) (early : ¬ calls.FailsLate) :
    ∃ listen, calls.listenSocket = some listen ∧ calls.binds = true := by
  have first : calls.broadcastSocket ≠ none := Option.ne_none_iff_exists'.mpr ⟨_, opened⟩
  rw [StartCalls.FailsLate, not_and, not_or] at early
  obtain ⟨listens, binds⟩ := early first
  obtain ⟨listen, listens⟩ := Option.ne_none_iff_exists'.mp listens
  exact ⟨listen, listens, Bool.eq_true_of_not_eq_false binds⟩

/-- A `start` that fails, but not late, gets no socket at all. -/
theorem unopened_of_fails {sockets : UdpSockets} {calls : StartCalls} (early : ¬ calls.FailsLate)
    (fails : (sockets.start calls).1 = false) : calls.broadcastSocket = none := by
  cases opened : calls.broadcastSocket with
  | none => rfl
  | some broadcast =>
    obtain ⟨listen, listens, binds⟩ := of_not_failsLate opened early
    rw [start_of_binds sockets opened listens binds] at fails
    cases fails

/-! ### The object owns what its members say -/

/-- The open descriptors are those in the members, and there are none unless it runs. -/
structure UdpSockets.Owned (sockets : UdpSockets) : Prop where
  fresh : Fresh sockets.ledger
  disciplined : Disciplined sockets.ledger
  members : ∀ sock, sock ∈ held sockets.ledger ↔
    sockets.broadcastSock = some sock ∨ sockets.listenSock = some sock
  different : ∀ sock, sockets.broadcastSock = some sock → sockets.listenSock ≠ some sock
  idle : sockets.running = false → sockets.broadcastSock = none ∧ sockets.listenSock = none

/-- Closing a member whose descriptor is open. -/
theorem sockClose_spec {ledger : List (Entry Descriptor)} {sock : Option Descriptor}
    (fresh : Fresh ledger) (disciplined : Disciplined ledger)
    (opened : ∀ descriptor, sock = some descriptor → descriptor ∈ held ledger) :
    Fresh (sockClose ledger sock) ∧ Disciplined (sockClose ledger sock) ∧
      ∀ other, other ∈ held (sockClose ledger sock) ↔ other ∈ held ledger ∧ sock ≠ some other := by
  cases sock with
  | none => exact ⟨fresh, disciplined, fun other => by simp [sockClose]⟩
  | some descriptor =>
    refine ⟨fresh_append_released.mpr fresh,
      disciplined_append_released.mpr ⟨disciplined, opened descriptor rfl⟩, fun other => ?_⟩
    rw [sockClose, held_append_singleton, Entry.apply, Finset.mem_erase, and_comm, ne_comm]
    simp

namespace UdpSockets.Owned

theorem constructed : UdpSockets.constructed.Owned where
  fresh := fresh_nil
  disciplined := disciplined_nil
  members sock := by simp [UdpSockets.constructed]
  different sock same := by cases same
  idle _ := ⟨rfl, rfl⟩

variable {sockets : UdpSockets}

/-- Nothing is held by an object that does not run. -/
theorem held_eq_empty (owned : sockets.Owned) (stopped : sockets.running = false) :
    held sockets.ledger = ∅ := by
  obtain ⟨broadcast, listen⟩ := owned.idle stopped
  refine Finset.eq_empty_of_forall_notMem fun sock member => ?_
  rw [owned.members, broadcast, listen] at member
  rcases member with same | same <;> cases same

/-- A `start` that does not fail late keeps both sockets or obtains none. -/
theorem start (owned : sockets.Owned) (stopped : sockets.running = false) {calls : StartCalls}
    (possible : calls.Possible sockets) (early : ¬ calls.FailsLate) :
    (sockets.start calls).2.Owned := by
  cases opened : calls.broadcastSocket with
  | none =>
    rw [start_of_unopened opened (owned.idle stopped).1]
    exact owned
  | some broadcast =>
    obtain ⟨listen, listens, binds⟩ := of_not_failsLate opened early
    obtain ⟨broadcastNew, listenNew⟩ := possible broadcast opened
    have nothing := owned.held_eq_empty stopped
    have opening : held (sockets.ledger ++ [.acquired broadcast]) =
        insert broadcast (held sockets.ledger) := held_append_singleton _ _
    rw [start_of_binds sockets opened listens binds]
    refine ⟨?_, ?_, fun sock => ?_, fun sock same other => ?_, fun halted => ?_⟩
    · refine fresh_append_acquired.mpr ⟨fresh_append_acquired.mpr ⟨owned.fresh, broadcastNew⟩, ?_⟩
      rw [opening]
      exact listenNew listen listens
    · exact disciplined_append_acquired.mpr (disciplined_append_acquired.mpr owned.disciplined)
    · show sock ∈ held (sockets.ledger ++ [Entry.acquired broadcast] ++ [Entry.acquired listen]) ↔
        some broadcast = some sock ∨ some listen = some sock
      rw [held_append_singleton, opening, nothing]
      simp [Entry.apply, eq_comm, or_comm]
    · cases same
      cases other
      exact listenNew _ listens (Finset.mem_insert_self _ _)
    · cases halted

/-- `stop` closes what the members hold, and nothing is open after it. -/
theorem stop (owned : sockets.Owned) :
    sockets.stop.Owned ∧ held sockets.stop.ledger = ∅ := by
  obtain ⟨fresh, disciplined, afterFirst⟩ := sockClose_spec owned.fresh owned.disciplined
    fun sock same => (owned.members sock).mpr (Or.inl same)
  obtain ⟨fresh, disciplined, afterBoth⟩ := sockClose_spec fresh disciplined
    fun sock same => (afterFirst sock).mpr
      ⟨(owned.members sock).mpr (Or.inr same), fun first => owned.different sock first same⟩
  have nothing : held sockets.stop.ledger = ∅ := by
    refine Finset.eq_empty_of_forall_notMem fun sock member => ?_
    obtain ⟨stillOpen, notListen⟩ := (afterBoth sock).mp member
    obtain ⟨member, notBroadcast⟩ := (afterFirst sock).mp stillOpen
    exact ((owned.members sock).mp member).elim notBroadcast notListen
  refine ⟨⟨fresh, disciplined, fun sock => ?_, fun sock same => ?_, fun _ => ⟨rfl, rfl⟩⟩, nothing⟩
  · rw [nothing]
    simp [UdpSockets.stop]
  · cases same

end UdpSockets.Owned

/-- After a `start` that fails late, `stop` closes a descriptor that is closed. -/
theorem not_disciplined_of_failsLate (sockets : UdpSockets) {calls : StartCalls}
    (late : calls.FailsLate) : ¬ Disciplined (sockets.start calls).2.stop.ledger := by
  obtain ⟨opened, fails⟩ := late
  obtain ⟨broadcast, opened⟩ := Option.ne_none_iff_exists'.mp opened
  rw [UdpSockets.start, opened]
  cases listens : calls.listenSocket with
  | none =>
    intro disciplined
    exact notMem_held_released (disciplined_append_released.mp disciplined).2
  | some listen =>
    rw [fails.resolve_left fun none => by rw [listens] at none; cases none]
    intro disciplined
    let closed : List (Entry Descriptor) := sockets.ledger ++ [.acquired broadcast] ++
      [.acquired listen] ++ [.released broadcast] ++ [.released listen]
    have twice : Disciplined (closed ++ [Entry.released broadcast] ++ [Entry.released listen]) :=
      disciplined
    have again : broadcast ∈ held closed :=
      (disciplined_append_released.mp (disciplined_append_released.mp twice).1).2
    rw [held_append_singleton] at again
    exact notMem_held_released (Finset.mem_of_mem_erase again)

/-! ### Every sequence of calls -/

/-- After calls of which no `start` fails late, the open descriptors are those in the members. -/
theorem owned_reached {calls : List DiscoveryCall} (permitted : Permitted calls)
    (early : ∀ attempt, .start attempt ∈ calls → ¬ attempt.FailsLate) :
    (reached calls).Owned := by
  induction calls using List.reverseRecOn with
  | nil => exact UdpSockets.Owned.constructed
  | append_singleton front last inductionHypothesis =>
    obtain ⟨permittedFront, permittedLast⟩ := throughout_append_singleton.mp permitted
    have owned := inductionHypothesis permittedFront fun attempt member =>
      early attempt (List.mem_append_left _ member)
    rw [reached, List.foldl_concat]
    cases last with
    | stop => exact owned.stop.1
    | start attempt =>
      obtain ⟨stopped, possible⟩ := permittedLast attempt rfl
      exact owned.start stopped possible
        (early attempt (List.mem_append_right _ (List.mem_singleton_self _)))

/-- Each descriptor is closed exactly once and a failing `start` leaves nothing behind exactly when
no `start` fails after it has got its first socket. -/
theorem closesOnce_iff {calls : List DiscoveryCall} (permitted : Permitted calls) :
    ClosesOnce calls ↔ ∀ attempt, .start attempt ∈ calls → ¬ attempt.FailsLate := by
  constructor
  · intro closesOnce attempt member late
    obtain ⟨before, after, split⟩ := List.append_of_mem member
    obtain ⟨fails, stale⟩ := start_of_failsLate (reached before) late
    have reset := (closesOnce.reset before _ after split attempt rfl fails).1
    rw [stale] at reset
    exact late.1 reset
  · intro early
    obtain ⟨owned, nothing⟩ := (owned_reached permitted early).stop
    refine ⟨owned.disciplined, fun sock => ?_, ?_⟩
    · have counts := count_acquired owned.fresh owned.disciplined sock
      rwa [nothing, if_neg (Finset.notMem_empty sock)] at counts
    · rintro before call after rfl attempt rfl fails
      have stopped := (permitted before _ after rfl attempt rfl).1
      have before := owned_reached (Throughout.of_append permitted) fun earlier member =>
        early earlier (List.mem_append_left _ member)
      have unopened := unopened_of_fails
        (early attempt (List.mem_append_right _ List.mem_cons_self)) fails
      rw [start_of_unopened unopened (before.idle stopped).1]
      exact before.idle stopped

/-- An object that is started, stopped and started again without a socket. -/
theorem closesOnce_restarted :
    ClosesOnce [.start ⟨some 3, some 4, true⟩, .stop, .start ⟨none, none, true⟩] := by
  have first : Permitted [.start ⟨some 3, some 4, true⟩] := by
    refine permitted_append_start.mpr ⟨throughout_nil _, rfl, fun broadcast same => ?_⟩
    cases same
    refine ⟨by decide, fun listen same => ?_⟩
    cases same
    decide
  have second : Permitted [.start ⟨some 3, some 4, true⟩, .stop] := permitted_append_stop.mpr first
  have third : Permitted [.start ⟨some 3, some 4, true⟩, .stop, .start ⟨none, none, true⟩] := by
    refine permitted_append_start.mpr ⟨second, rfl, fun broadcast same => ?_⟩
    cases same
  refine (closesOnce_iff third).mpr fun attempt member late => ?_
  have either : attempt = ⟨some 3, some 4, true⟩ ∨ attempt = ⟨none, none, true⟩ := by
    simpa using member
  rcases either with rfl | rfl
  · exact late.2.elim (by decide) (by decide)
  · exact late.1 rfl

/-- `bind` fails, the result is ignored, and the destructor runs. -/
theorem not_closesOnce_unbound : ¬ ClosesOnce [.start ⟨some 3, some 4, false⟩] := by
  intro closesOnce
  have held := closesOnce.disciplined [.acquired 3, .acquired 4, .released 3, .released 4] _
    [.released 4] rfl 3 rfl
  exact absurd held (by decide)

end UniversalAirdrop
