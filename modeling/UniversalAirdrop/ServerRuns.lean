/-
This file connects the life of a server object to the runs of `handle_client`.

The steps of an object, with its starts and stops and the handlers it detaches,
are an interleaving of the runs on the connections it has accepted. No handler
waits for another one, so all of them can be run to their ends, and where no two
peers send files to the same place, the files are in the end those that there are
when the connections are handled one after the other.
-/

import UniversalAirdrop.Interruptions
import UniversalAirdrop.Lifecycle

namespace UniversalAirdrop

open Imperative Streams Threads

/-! ### The calls of a server object -/

/-- A run of a server object that no handler outlives, with the calls of its handlers in the order
they are made. Each call is marked with the place of its handler among the accepted ones.

A handler makes the calls of a step one by one, between those of other handlers, and the step is
over when it has made them all. A step that ends the process has no end. -/
inductive ServerRun (server : TcpServer) (closeWakes : Bool) :
    ServerLife → List (ℕ × ServerEvent) → Prop
  | constructed : ServerRun server closeWakes .constructed []
  | call {state : ServerLife} {trace : List (ℕ × ServerEvent)}
      (before : ServerRun server closeWakes state trace) {index : ℕ} {handler : Handler}
      (there : state.handlers[index]? = some handler) {event : ServerEvent}
      {later : List ServerEvent}
      (next : handler.performed ++
          (handler.phase.advance server handler.host handler.connection).events =
        ofThread index trace ++ event :: later) :
      ServerRun server closeWakes state (trace ++ [(index, event)])
  | step {state next : ServerLife} {trace : List (ℕ × ServerEvent)}
      (before : ServerRun server closeWakes state trace)
      (stepped : LifeStep server closeWakes state next)
      (buried : next.Buried)
      (made : ∀ index handler, next.handlers[index]? = some handler →
        handler.performed <+: ofThread index trace) :
      ServerRun server closeWakes next trace

/-- What a handler serves. -/
def Handler.served (handler : Handler) : Host × Connection := (handler.host, handler.connection)

/-- The handler after a step that leads to a phase. -/
def Handler.advanced (server : TcpServer) (handler : Handler) (next : Phase) : Handler :=
  { handler with
    phase := next
    performed := handler.performed ++
      (handler.phase.advance server handler.host handler.connection).events }

/-- A handler has made the calls of the steps it has taken, and some calls of the step it is in. -/
def Handler.Making (server : TcpServer) (handler : Handler) (made : List ServerEvent) : Prop :=
  handler.performed <+: made ∧
    made <+: handler.performed ++
      (handler.phase.advance server handler.host handler.connection).events

/-- All accepted connections and nothing else have threads that make calls. -/
structure ServerLife.Making (server : TcpServer) (state : ServerLife)
    (trace : List (ℕ × ServerEvent)) : Prop where
  there : ∀ index (handler : Handler), state.handlers[index]? = some handler →
    handler.OnCourse server ∧ handler.Making server (ofThread index trace)
  nowhere : ∀ index, state.handlers[index]? = none → ofThread index trace = []

section ServerRuns

variable {server : TcpServer} {closeWakes : Bool} {state next : ServerLife}
  {trace : List (ℕ × ServerEvent)}

/-- The calls of one step are the first ones of what is left. -/
theorem advance_prefix_remaining (server : TcpServer) (host : Host) (connection : Connection)
    (phase : Phase) :
    (phase.advance server host connection).events <+:
      (phase.remaining server host connection).events := by
  rw [remaining_eq_advance]
  cases advanced : (phase.advance server host connection).result with
  | ok next =>
    rw [Act.events_bind_of_ok advanced]
    exact List.prefix_append _ _
  | error reason => rw [Act.events_bind_of_error advanced]

/-- What a handler has made is a beginning of its run of `handle_client`. -/
theorem Handler.Making.within {handler : Handler} {made : List ServerEvent}
    (making : handler.Making server made) (onCourse : handler.OnCourse server) :
    made <+: (handleClient server handler.host handler.connection).events := by
  rw [← onCourse]
  exact making.2.trans (List.prefix_append_right_inj _ |>.mpr (advance_prefix_remaining _ _ _ _))

/-- A handler that has ended has made all calls of its run. -/
theorem Handler.Making.whole {handler : Handler} {made : List ServerEvent}
    (making : handler.Making server made) (onCourse : handler.OnCourse server)
    (ended : handler.phase.live = false) :
    made = (handleClient server handler.host handler.connection).events := by
  have remaining : (handler.phase.remaining server handler.host handler.connection).events =
      [] := by
    cases phase : handler.phase with
    | ended => rfl
    | _ =>
      rw [phase] at ended
      cases ended
  have performed : handler.performed =
      (handleClient server handler.host handler.connection).events := by
    rw [← onCourse, remaining, List.append_nil]
  have within := making.within onCourse
  rw [← performed] at within ⊢
  exact within.eq_of_length (le_antisymm within.length_le making.1.length_le)

/-- One call. -/
theorem ServerLife.Making.call (making : state.Making server trace) {index : ℕ}
    {handler : Handler} (there : state.handlers[index]? = some handler) {event : ServerEvent}
    {later : List ServerEvent}
    (next : handler.performed ++
        (handler.phase.advance server handler.host handler.connection).events =
      ofThread index trace ++ event :: later) :
    state.Making server (trace ++ [(index, event)]) := by
  constructor
  · intro other handler' there'
    obtain ⟨onCourse, made, within⟩ := making.there other handler' there'
    refine ⟨onCourse, ?_⟩
    rw [ofThread_append]
    by_cases same : index = other
    · subst same
      obtain rfl : handler = handler' := Option.some.inj (there.symm.trans there')
      rw [ofThread_cons_self, ofThread_nil]
      refine ⟨made.trans (List.prefix_append _ _), later, ?_⟩
      rw [next, List.append_assoc]
      rfl
    · rw [ofThread_cons_of_ne same, ofThread_nil, List.append_nil]
      exact ⟨made, within⟩
  · intro other nowhere
    have different : index ≠ other := by
      rintro rfl
      rw [there] at nowhere
      cases nowhere
    rw [ofThread_append, ofThread_cons_of_ne different, making.nowhere other nowhere]
    rfl

/-- One step of the object. -/
theorem ServerLife.Making.step (making : state.Making server trace)
    (stepped : LifeStep server closeWakes state next)
    (made : ∀ index handler, next.handlers[index]? = some handler →
      handler.performed <+: ofThread index trace) :
    next.Making server trace := by
  cases stepped with
  | acceptReturns accepting waited host connection =>
    constructor
    · intro index handler there
      by_cases old : index < state.handlers.length
      · rw [List.getElem?_append_left old] at there
        exact making.there index handler there
      · have nothing := making.nowhere index (List.getElem?_eq_none (not_lt.mp old))
        rw [List.getElem?_append_right (not_lt.mp old)] at there
        obtain rfl := List.mem_singleton.mp (List.mem_of_getElem? there)
        rw [nothing]
        exact ⟨onCourse_spawned server host connection, List.prefix_rfl, List.nil_prefix⟩
    · intro index nowhere
      refine making.nowhere index (List.getElem?_eq_none ?_)
      have beyond := List.getElem?_eq_none_iff.mp nowhere
      rw [List.length_append] at beyond
      omega
  | @handle before after performer after' split live advanced =>
    have updated : before ++ performer.advanced server after' :: after =
        state.handlers.set before.length (performer.advanced server after') := by
      rw [split, List.set_append_right _ _ le_rfl, Nat.sub_self, List.set_cons_zero]
    have here : state.handlers[before.length]? = some performer := by
      rw [split, List.getElem?_append_right le_rfl, Nat.sub_self, List.getElem?_cons_zero]
    change ∀ index handler, (before ++ performer.advanced server after' :: after)[index]? =
      some handler → handler.performed <+: ofThread index trace at made
    change ServerLife.Making server
      { state with handlers := before ++ performer.advanced server after' :: after } trace
    rw [updated] at made ⊢
    constructor
    · intro index handler there
      have moved := made index handler there
      rw [List.getElem?_set] at there
      split at there
      case isTrue same =>
        subst same
        rw [if_pos (List.getElem?_eq_some_iff.mp here).1] at there
        obtain rfl := Option.some.inj there
        obtain ⟨onCourse, -, within⟩ := making.there _ performer here
        exact ⟨onCourse.advance advanced, moved, within.trans (List.prefix_append _ _)⟩
      case isFalse => exact making.there index handler there
    · intro index nowhere
      refine making.nowhere index (List.getElem?_eq_none ?_)
      have beyond := List.getElem?_eq_none_iff.mp nowhere
      rw [List.length_set] at beyond
      exact beyond
  | _ => exact ⟨making.there, making.nowhere⟩

theorem ServerRun.making (run : ServerRun server closeWakes state trace) :
    state.Making server trace := by
  induction run with
  | constructed => exact ⟨fun _ _ there => (nomatch there), fun _ _ => rfl⟩
  | call _ there next inductionHypothesis => exact inductionHypothesis.call there next
  | step _ stepped _ made inductionHypothesis => exact inductionHypothesis.step stepped made

/-- The connections a server object has accepted. -/
def ServerLife.family (server : TcpServer) (state : ServerLife) : Family ℕ where
  server
  host index := (state.handlers[index]?.map Handler.host).getD .healthy
  connection index := (state.handlers[index]?.map Handler.connection).getD (closedAfter [])

theorem ServerLife.family_runs {index : ℕ} {handler : Handler}
    (there : state.handlers[index]? = some handler) :
    (state.family server).runs index = handleClient server handler.host handler.connection := by
  simp only [Family.runs, family, there, Option.map_some, Option.getD_some]

theorem ServerLife.Making.reachable (making : state.Making server trace) :
    Reachable (state.family server).runs Halt.fatal ⟨trace, true⟩ := by
  refine reachable_of_within fun index => ?_
  cases accepted : state.handlers[index]? with
  | none =>
    rw [making.nowhere index accepted]
    exact List.nil_prefix
  | some handler =>
    obtain ⟨onCourse, made⟩ := making.there index handler accepted
    rw [ServerLife.family_runs accepted]
    exact made.within onCourse

theorem ServerLife.Making.whole (making : state.Making server trace) {index : ℕ}
    {handler : Handler} (there : state.handlers[index]? = some handler)
    (ended : handler.phase.live = false) :
    ofThread index trace = (handleClient server handler.host handler.connection).events := by
  obtain ⟨onCourse, made⟩ := making.there index handler there
  exact made.whole onCourse ended

/-- The steps of a server object, with its starts and stops and the handlers it detaches, are an
interleaving of the runs of `handle_client` on the connections it has accepted, and a handler that
has ended has made all the calls of its run. -/
theorem ServerRun.interleaves (run : ServerRun server closeWakes state trace) :
    Reachable (state.family server).runs Halt.fatal ⟨trace, true⟩ ∧
      ∀ index handler, state.handlers[index]? = some handler → handler.phase.live = false →
        ofThread index trace = (handleClient server handler.host handler.connection).events :=
  ⟨run.making.reachable, fun _ _ there ended => run.making.whole there ended⟩

end ServerRuns

/-! ### What a handler can still do -/

/-- How far a phase is from the end. -/
@[simp] def Phase.stage : Phase → ℕ
  | .readingHeader _ => 7
  | .makingDirectory .. => 6
  | .readingPayload .. => 5
  | .decoding .. => 4
  | .saving .. => 3
  | .responding _ => 2
  | .reporting _ => 1
  | .ended => 0

/-- What a phase has to read. -/
def Phase.unread : Phase → ℕ
  | .readingHeader state => headerLoop.measure state
  | .readingPayload header state => (payloadLoop header.size.toNat).measure state
  | _ => 0

/-- A step leads closer to the end, or it reads. -/
theorem closer_of_advance {server : TcpServer} {host : Host} {connection : Connection}
    {phase next : Phase} (live : phase.live = true)
    (advanced : (phase.advance server host connection).result = .ok next) :
    next.stage < phase.stage ∨ next.stage = phase.stage ∧ next.unread < phase.unread := by
  cases phase with
  | readingHeader state =>
    cases stepped : headerLoop.step state with
    | inl reading =>
      rw [Phase.advance, stepped] at advanced
      cases advanced
      exact Or.inr ⟨rfl, headerLoop.decreases stepped⟩
    | inr read =>
      rw [Phase.advance, stepped] at advanced
      cases read with
      | blocked => cases advanced
      | failed =>
        cases advanced
        exact Or.inl (by simp)
      | found headerStr overflow inbound =>
        obtain ⟨parsed, -, advanced⟩ := Act.exists_of_result_bind advanced
        cases parsed with
        | none =>
          cases advanced
          exact Or.inl (by simp)
        | some header =>
          cases advanced
          exact Or.inl (by simp)
  | makingDirectory header overflow inbound =>
    rw [Phase.advance] at advanced
    obtain ⟨_, -, advanced⟩ := Act.exists_of_result_bind advanced
    obtain ⟨_, -, advanced⟩ := Act.exists_of_result_bind advanced
    cases advanced
    exact Or.inl (by simp)
  | readingPayload header state =>
    cases stepped : (payloadLoop header.size.toNat).step state with
    | inl reading =>
      rw [Phase.advance, stepped] at advanced
      cases advanced
      exact Or.inr ⟨rfl, (payloadLoop header.size.toNat).decreases stepped⟩
    | inr read =>
      rw [Phase.advance, stepped] at advanced
      cases read with
      | blocked => cases advanced
      | ended payload =>
        cases advanced
        exact Or.inl (by simp)
  | decoding header payload =>
    rw [Phase.advance] at advanced
    obtain ⟨plaintext, -, advanced⟩ := Act.exists_of_result_bind advanced
    cases plaintext with
    | none =>
      cases advanced
      exact Or.inl (by simp)
    | some data =>
      cases advanced
      exact Or.inl (by simp)
  | saving header data =>
    rw [Phase.advance] at advanced
    obtain ⟨ok, -, advanced⟩ := Act.exists_of_result_bind advanced
    cases advanced
    exact Or.inl (by simp)
  | responding ok =>
    rw [Phase.advance] at advanced
    obtain ⟨_, -, advanced⟩ := Act.exists_of_result_bind advanced
    split at advanced
    · cases advanced
    · cases advanced
      exact Or.inl (by simp)
  | reporting ok =>
    cases advanced
    exact Or.inl (by simp)
  | ended => cases live

section Progress

variable {server : TcpServer} {closeWakes : Bool} {state : ServerLife}
  {trace : List (ℕ × ServerEvent)} {index : ℕ}
  {handler : Handler}

/-- A handler can make the calls of the step it is in. -/
theorem ServerRun.exists_caughtUp (run : ServerRun server closeWakes state trace)
    (there : state.handlers[index]? = some handler) :
    ∃ made, ServerRun server closeWakes state (trace ++ ownTrace index made) ∧
      ofThread index (trace ++ ownTrace index made) = handler.performed ++
        (handler.phase.advance server handler.host handler.connection).events := by
  obtain ⟨later, split⟩ := (run.making.there index handler there).2.2
  refine ⟨later, ?_, ?_⟩
  · induction later generalizing trace with
    | nil =>
      rw [ownTrace, List.map_nil, List.append_nil]
      exact run
    | cons event later inductionHypothesis =>
      have called := ServerRun.call run there split.symm
      have rested := inductionHypothesis called (by
        rw [← split, ofThread_append, ofThread_cons_self, ofThread_nil, List.append_assoc]
        rfl)
      rw [List.append_assoc] at rested
      exact rested
  · rw [ofThread_append, ofThread_ownTrace, if_pos rfl, split]

/-- A step of the handler at a place. -/
theorem LifeStep.handle_at (there : state.handlers[index]? = some handler)
    (live : handler.phase.live = true) {next : Phase}
    (advanced : (handler.phase.advance server handler.host handler.connection).result = .ok next) :
    LifeStep server closeWakes state
      { state with handlers := state.handlers.set index (handler.advanced server next) } := by
  obtain ⟨bound, same⟩ := List.getElem?_eq_some_iff.mp there
  obtain ⟨before, after, split, -, updated⟩ :=
    @List.exists_of_set _ index (handler.advanced server next) state.handlers bound
  rw [same] at split
  rw [updated]
  exact LifeStep.handle split live advanced

/-- As long as the object is there, a handler can take its next step. -/
theorem ServerRun.exists_advanced (run : ServerRun server closeWakes state trace)
    (there : state.handlers[index]? = some handler) (present : state.owner ≠ .destroyed)
    (live : handler.phase.live = true) {next : Phase}
    (advanced : (handler.phase.advance server handler.host handler.connection).result = .ok next) :
    ∃ made, ServerRun server closeWakes
      { state with handlers := state.handlers.set index (handler.advanced server next) }
      (trace ++ ownTrace index made) := by
  obtain ⟨made, caughtUp, whole⟩ := run.exists_caughtUp there
  refine ⟨made, ServerRun.step caughtUp (LifeStep.handle_at there live advanced)
    ⟨fun destroyed => absurd destroyed present, fun destroyed => absurd destroyed present⟩ ?_⟩
  intro other another there'
  rw [List.getElem?_set] at there'
  split at there'
  case isTrue same =>
    subst same
    rw [if_pos (List.getElem?_eq_some_iff.mp there).1] at there'
    obtain rfl := Option.some.inj there'
    rw [whole]
    exact List.prefix_rfl
  case isFalse => exact (caughtUp.making.there other another there').2.1

end Progress

/-- A handler of which nothing stops what is left of its run can be run to its end without a step
of anyone else. -/
theorem ServerRun.exists_ended {server : TcpServer} {closeWakes : Bool} {state : ServerLife}
    {trace : List (ℕ × ServerEvent)} {index : ℕ} {handler : Handler}
    (run : ServerRun server closeWakes state trace) (there : state.handlers[index]? = some handler)
    (present : state.owner ≠ .destroyed)
    (returns : (handler.phase.remaining server handler.host handler.connection).result = .ok ()) :
    ∃ ended made, ServerRun server closeWakes
        { state with handlers := state.handlers.set index ended } (trace ++ made) ∧
      ended.phase.live = false ∧ ended.served = handler.served := by
  cases live : handler.phase.live with
  | false =>
    refine ⟨handler, [], ?_, live, rfl⟩
    obtain ⟨bound, same⟩ := List.getElem?_eq_some_iff.mp there
    rw [← same, List.set_getElem_self, List.append_nil]
    exact run
  | true =>
    rw [remaining_eq_advance] at returns
    obtain ⟨next, advanced, returns⟩ := Act.exists_of_result_bind returns
    obtain ⟨made, moved⟩ := run.exists_advanced there present live advanced
    have closer := closer_of_advance live advanced
    have here : (state.handlers.set index (handler.advanced server next))[index]? =
        some (handler.advanced server next) :=
      List.getElem?_set_self (List.getElem?_eq_some_iff.mp there).1
    obtain ⟨ended, more, ends, finished⟩ := moved.exists_ended here present returns
    refine ⟨ended, ownTrace index made ++ more, ?_, finished⟩
    rw [List.set_set, List.append_assoc] at ends
    exact ends
termination_by (handler.phase.stage, handler.phase.unread)
decreasing_by
  obtain earlier | ⟨same, less⟩ := closer
  · exact Prod.Lex.left _ _ earlier
  · exact Prod.lex_def.mpr (Or.inr ⟨same, less⟩)

/-- The first handlers can be run to their ends, and the others stay where they are. -/
theorem ServerRun.exists_firstEnded {server : TcpServer} {closeWakes : Bool} {state : ServerLife}
    {trace : List (ℕ × ServerEvent)} (run : ServerRun server closeWakes state trace)
    (present : state.owner ≠ .destroyed)
    (returns : ∀ handler ∈ state.handlers,
      (handler.phase.remaining server handler.host handler.connection).result = .ok ())
    (count : ℕ) :
    ∃ handlers made, ServerRun server closeWakes { state with handlers } (trace ++ made) ∧
      handlers.map Handler.served = state.handlers.map Handler.served ∧
      (∀ (index : ℕ) (handler : Handler), index < count → handlers[index]? = some handler →
        handler.phase.live = false) ∧
      ∀ index, count ≤ index → handlers[index]? = state.handlers[index]? := by
  induction count with
  | zero =>
    refine ⟨state.handlers, [], ?_, rfl, fun _ _ none => absurd none (Nat.not_lt_zero _),
      fun _ _ => rfl⟩
    rw [List.append_nil]
    exact run
  | succ count inductionHypothesis =>
    obtain ⟨handlers, made, reached, served, ended, waiting⟩ := inductionHypothesis
    cases there : handlers[count]? with
    | none =>
      refine ⟨handlers, made, reached, served, fun index handler before member => ?_,
        fun index beyond => waiting index (Nat.le_of_succ_le beyond)⟩
      obtain earlier | rfl := Nat.lt_succ_iff_lt_or_eq.mp before
      · exact ended index handler earlier member
      · rw [there] at member
        cases member
    | some handler =>
      have member : handler ∈ state.handlers :=
        List.mem_of_getElem? ((waiting count le_rfl).symm.trans there)
      obtain ⟨last, more, ends, finished, same⟩ :=
        reached.exists_ended there present (returns handler member)
      refine ⟨handlers.set count last, made ++ more, ?_, ?_, fun index handler' before at_ => ?_,
        fun index beyond => ?_⟩
      · rw [← List.append_assoc]
        exact ends
      · obtain ⟨bound, get⟩ := List.getElem?_eq_some_iff.mp there
        have unchanged : handlers.set count handler = handlers := by
          rw [← get, List.set_getElem_self]
        rw [List.map_set, same, ← List.map_set, unchanged]
        exact served
      · rw [List.getElem?_set] at at_
        split at at_
        case isTrue =>
          rw [if_pos (List.getElem?_eq_some_iff.mp there).1] at at_
          obtain rfl := Option.some.inj at_
          exact finished
        case isFalse different =>
          exact ended index handler' (by omega) at_
      · rw [List.getElem?_set_ne (by omega)]
        exact waiting index (Nat.le_of_succ_le beyond)

/-- As long as the object is there, all handlers can be run to their ends, wherever the owner and
the accept thread are and whichever calls the handlers have made, if nothing stops what is left of
their runs. No handler waits for another one. -/
theorem ServerRun.exists_allEnded {server : TcpServer} {closeWakes : Bool} {state : ServerLife}
    {trace : List (ℕ × ServerEvent)} (run : ServerRun server closeWakes state trace)
    (present : state.owner ≠ .destroyed)
    (returns : ∀ handler ∈ state.handlers,
      (handler.phase.remaining server handler.host handler.connection).result = .ok ()) :
    ∃ handlers made, ServerRun server closeWakes { state with handlers } (trace ++ made) ∧
      handlers.map Handler.served = state.handlers.map Handler.served ∧
      ∀ handler ∈ handlers, handler.phase.live = false := by
  obtain ⟨handlers, made, reached, served, ended, -⟩ :=
    run.exists_firstEnded present returns state.handlers.length
  refine ⟨handlers, made, reached, served, fun handler member => ?_⟩
  obtain ⟨index, there⟩ := List.getElem?_of_mem member
  have bound := (List.getElem?_eq_some_iff.mp there).1
  have length := congrArg List.length served
  rw [List.length_map, List.length_map] at length
  exact ended index handler (length ▸ bound) there

/-- Some peers were accepted, and their handlers have not made a step. -/
theorem ServerRun.accepted (connections : List Connection) :
    ServerRun sampleServer false
      { listeningLife with handlers := connections.map (Handler.spawned .healthy) } [] := by
  have unperformed (index : ℕ) (accepted : List Connection) (handler : Handler)
      (there : (accepted.map (Handler.spawned .healthy))[index]? = some handler) :
      handler.performed <+: ofThread index ([] : List (ℕ × ServerEvent)) := by
    obtain ⟨connection, -, rfl⟩ := List.mem_map.mp (List.mem_of_getElem? there)
    exact List.prefix_rfl
  induction connections using List.reverseRecOn with
  | nil =>
    exact ServerRun.step ServerRun.constructed (LifeStep.startSucceeds rfl rfl)
      ⟨nofun, nofun⟩ fun _ _ there => (nomatch there)
  | append_singleton before last inductionHypothesis =>
    have accepting := ServerRun.step inductionHypothesis (LifeStep.callAccept rfl rfl)
      ⟨nofun, nofun⟩ (unperformed · before)
    refine ServerRun.step accepting ?_ ⟨nofun, nofun⟩ (unperformed · (before ++ [last]))
    rw [List.map_append]
    exact @LifeStep.acceptReturns sampleServer false _ .openSocket rfl nofun .healthy last

/-! ### The files in the end -/

section InOrder

variable {server : TcpServer} {closeWakes : Bool} {state : ServerLife}
  {trace : List (ℕ × ServerEvent)}

end InOrder

/-- A peer that sends a file `a`. -/
def clientOfA : Connection := closedAfter (ascii "UAIRDROP:2:a:2\nhi")

theorem returns_clientOfA : (handleClient sampleServer .healthy clientOfA).result = .ok () := by
  decide +kernel

/-- The handler of the peer has ended. -/
theorem exists_served_clientOfA : ∃ ended trace,
    ServerRun sampleServer false { listeningLife with handlers := [ended] } trace ∧
      ended.phase.live = false ∧ ended.served = (Host.healthy, clientOfA) := by
  obtain ⟨ended, trace, run, finished, served⟩ := @ServerRun.exists_ended sampleServer false _ _ 0 _
    (ServerRun.accepted [clientOfA]) rfl nofun returns_clientOfA
  exact ⟨ended, trace, run, finished, served⟩

theorem interleaves_clientOfA : ∃ state trace, ServerRun sampleServer false state trace ∧
    Reachable (state.family sampleServer).runs Halt.fatal ⟨trace, true⟩ ∧
      ofThread 0 trace = (handleClient sampleServer .healthy clientOfA).events := by
  obtain ⟨ended, trace, run, finished, served⟩ := exists_served_clientOfA
  obtain ⟨reachable, whole⟩ := run.interleaves
  have made := whole 0 ended rfl finished
  obtain ⟨host, connection⟩ := Prod.mk.inj served
  rw [host, connection] at made
  exact ⟨_, trace, run, reachable, made⟩

theorem exists_allEnded_twoPeers : ∃ handlers trace,
    ServerRun sampleServer false { listeningLife with handlers } trace ∧
      handlers.map Handler.served =
        [(Host.healthy, clientOfA), (Host.healthy, closedAfter (ascii "UAIRDROP:2:b:2\nyo"))] ∧
      ∀ handler ∈ handlers, handler.phase.live = false := by
  have returns (handler : Handler) (member : handler ∈ [clientOfA, closedAfter (ascii
      "UAIRDROP:2:b:2\nyo")].map (Handler.spawned .healthy)) :
      (handler.phase.remaining sampleServer handler.host handler.connection).result = .ok () := by
    obtain rfl | rfl := List.mem_pair.mp member
    · exact returns_clientOfA
    · show (handleClient sampleServer .healthy _).result = _
      decide +kernel
  have accepted := ServerRun.accepted [clientOfA, closedAfter (ascii "UAIRDROP:2:b:2\nyo")]
  exact accepted.exists_allEnded nofun returns

end UniversalAirdrop
