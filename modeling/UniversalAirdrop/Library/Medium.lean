/-
This file is a small library for nodes that broadcast on a shared medium. Every
node sends the same packet again and again while it is up, and foreign packets
may be on the medium too. What was sent can be heard by any node that is up, at
any later time, any number of times or never, so packets are lost, duplicated
and reordered at will. A node that cannot take a packet is gone for good.

What a node has become depends only on what it has heard, and it has heard only
what was sent. A statement about all reachable networks is a statement about all
the ways in which the medium can treat the packets.
-/

import Mathlib.Data.List.Infix
import Mathlib.Logic.Function.Basic
import Mathlib.Logic.Relation

namespace Medium

variable {Node Packet State : Type}

/-! ### Nodes and networks -/

/-- What the nodes start with, what each of them sends, and what it makes of a packet, unless the
packet is the end of it. -/
structure Protocol (Node Packet State : Type) where
  initial : Node → State
  packet : Node → Packet
  receive : Node → State → Packet → Option State

/-- Some node sends the packet, or it comes from outside. -/
def Protocol.Origin (protocol : Protocol Node Packet State) (foreign : Packet → Prop)
    (packet : Packet) : Prop :=
  (∃ place, packet = protocol.packet place) ∨ foreign packet

/-- The nodes that are left with their states, which of them are up, the packets that were sent,
and what every node has heard. -/
structure Network (Node Packet State : Type) where
  node : Node → Option State
  up : Node → Bool
  carried : List Packet
  heard : Node → List Packet

/-- A network before any node is up. -/
def Protocol.start (protocol : Protocol Node Packet State) : Network Node Packet State where
  node place := some (protocol.initial place)
  up _ := false
  carried := []
  heard _ := []

/-- One more packet is on the medium. -/
def Network.carry (network : Network Node Packet State) (packet : Packet) :
    Network Node Packet State :=
  { network with carried := network.carried ++ [packet] }

section Updates

variable [DecidableEq Node]

/-- A node comes up or goes down. -/
def Network.turn (network : Network Node Packet State) (place : Node) (up : Bool) :
    Network Node Packet State :=
  { network with up := Function.update network.up place up }

/-- A node hears a packet and becomes what it makes of it. -/
def Network.hear (network : Network Node Packet State) (place : Node) (packet : Packet)
    (becomes : Option State) : Network Node Packet State :=
  { network with
    node := Function.update network.node place becomes
    heard := Function.update network.heard place (network.heard place ++ [packet]) }

variable (network : Network Node Packet State) (place : Node)

theorem Network.turn_up (up : Bool) : (network.turn place up).up place = up :=
  Function.update_self _ _ _

/-- A node that is up stays up while others come up. -/
theorem Network.turn_up_of_up {other : Node} (up : network.up other = true) :
    (network.turn place true).up other = true := by
  show Function.update network.up place true other = true
  by_cases same : other = place
  · rw [same, Function.update_self]
  · rw [Function.update_of_ne same, up]

variable (packet : Packet) (becomes : Option State)

theorem Network.hear_node : (network.hear place packet becomes).node place = becomes :=
  Function.update_self _ _ _

theorem Network.hear_node_of_ne {other : Node} (different : other ≠ place) :
    (network.hear place packet becomes).node other = network.node other :=
  Function.update_of_ne different _ _

theorem Network.hear_heard :
    (network.hear place packet becomes).heard place = network.heard place ++ [packet] :=
  Function.update_self _ _ _

theorem Network.hear_heard_of_ne {other : Node} (different : other ≠ place) :
    (network.hear place packet becomes).heard other = network.heard other :=
  Function.update_of_ne different _ _

end Updates

/-- A node comes up or goes down, a packet is sent, or a node hears a packet. -/
inductive Step [DecidableEq Node] (protocol : Protocol Node Packet State)
    (foreign : Packet → Prop) : Network Node Packet State → Network Node Packet State → Prop
  | turn {network : Network Node Packet State} (place : Node) (up : Bool) :
      Step protocol foreign network (network.turn place up)
  | send {network : Network Node Packet State} {place : Node}
      (present : network.node place ≠ none) (up : network.up place = true) :
      Step protocol foreign network (network.carry (protocol.packet place))
  | intrude {network : Network Node Packet State} {packet : Packet} (outside : foreign packet) :
      Step protocol foreign network (network.carry packet)
  | hear {network : Network Node Packet State} {place : Node} {state : State} {packet : Packet}
      (present : network.node place = some state) (up : network.up place = true)
      (there : packet ∈ network.carried) :
      Step protocol foreign network
        (network.hear place packet (protocol.receive place state packet))

/-- What a network can become. -/
def Run [DecidableEq Node] (protocol : Protocol Node Packet State) (foreign : Packet → Prop) :
    Network Node Packet State → Network Node Packet State → Prop :=
  Relation.ReflTransGen (Step protocol foreign)

/-! ### What every run keeps -/

/-- Every packet has an origin, only what was sent is heard, and every node is what it has made of
what it has heard. -/
structure Network.Sound (protocol : Protocol Node Packet State) (foreign : Packet → Prop)
    (network : Network Node Packet State) : Prop where
  origin : ∀ packet ∈ network.carried, protocol.Origin foreign packet
  carried : ∀ place, ∀ packet ∈ network.heard place, packet ∈ network.carried
  state : ∀ place, network.node place =
    (network.heard place).foldlM (protocol.receive place) (protocol.initial place)

/-- Every node is left. -/
def Network.Whole (network : Network Node Packet State) : Prop :=
  ∀ place, network.node place ≠ none

/-- No node is lost to a packet that has an origin. -/
def Protocol.Harmless (protocol : Protocol Node Packet State) (foreign : Packet → Prop) : Prop :=
  ∀ place state packet, protocol.Origin foreign packet →
    protocol.receive place state packet ≠ none

section

variable {protocol : Protocol Node Packet State} {foreign : Packet → Prop}
  {network next : Network Node Packet State}

theorem sound_start : protocol.start.Sound protocol foreign where
  origin _ member := absurd member List.not_mem_nil
  carried _ _ member := absurd member List.not_mem_nil
  state _ := rfl

theorem whole_start : protocol.start.Whole := fun _ => Option.some_ne_none _

/-- What was heard has an origin. -/
theorem Network.Sound.origin_of_heard (sound : network.Sound protocol foreign) {place : Node}
    {packet : Packet} (heard : packet ∈ network.heard place) : protocol.Origin foreign packet :=
  sound.origin packet (sound.carried place packet heard)

/-- Sending one more packet. -/
theorem Network.Sound.carry {packet : Packet} (sound : network.Sound protocol foreign)
    (origin : protocol.Origin foreign packet) : (network.carry packet).Sound protocol foreign where
  origin other member := by
    obtain old | new := List.mem_append.mp member
    · exact sound.origin other old
    · rw [List.mem_singleton.mp new]
      exact origin
  carried place other member := List.mem_append_left _ (sound.carried place other member)
  state := sound.state

variable [DecidableEq Node]

/-- Hearing a packet that was sent. -/
theorem Network.Sound.hear {place : Node} {state : State} {packet : Packet}
    (sound : network.Sound protocol foreign) (present : network.node place = some state)
    (there : packet ∈ network.carried) :
    (network.hear place packet (protocol.receive place state packet)).Sound protocol foreign where
  origin := sound.origin
  carried other heard member := by
    by_cases same : other = place
    · subst same
      rw [Network.hear_heard, List.mem_append, List.mem_singleton] at member
      rcases member with old | rfl
      · exact sound.carried other heard old
      · exact there
    · rw [Network.hear_heard_of_ne _ _ _ _ same] at member
      exact sound.carried other heard member
  state other := by
    by_cases same : other = place
    · subst same
      rw [Network.hear_heard, Network.hear_node, List.foldlM_append, ← sound.state, present]
      exact (Option.bind_fun_some _).symm
    · rw [Network.hear_heard_of_ne _ _ _ _ same, Network.hear_node_of_ne _ _ _ _ same]
      exact sound.state other

theorem Step.sound (step : Step protocol foreign network next)
    (sound : network.Sound protocol foreign) : next.Sound protocol foreign := by
  cases step with
  | turn place up => exact ⟨sound.origin, sound.carried, sound.state⟩
  | send present up => exact sound.carry (Or.inl ⟨_, rfl⟩)
  | intrude outside => exact sound.carry (Or.inr outside)
  | hear present up there => exact sound.hear present there

theorem Run.sound (run : Run protocol foreign network next)
    (sound : network.Sound protocol foreign) : next.Sound protocol foreign := by
  induction run with
  | refl => exact sound
  | tail _ step inductionHypothesis => exact step.sound inductionHypothesis

/-- What a node has heard is not forgotten. -/
theorem Step.heard_prefix (step : Step protocol foreign network next) (place : Node) :
    network.heard place <+: next.heard place := by
  cases step with
  | @hear performer state packet =>
    by_cases same : place = performer
    · subst same
      rw [Network.hear_heard]
      exact List.prefix_append _ _
    · rw [Network.hear_heard_of_ne _ _ _ _ same]
  | _ => exact List.prefix_rfl

theorem Run.heard_prefix (run : Run protocol foreign network next) (place : Node) :
    network.heard place <+: next.heard place := by
  induction run with
  | refl => exact List.prefix_rfl
  | tail _ step inductionHypothesis => exact inductionHypothesis.trans (step.heard_prefix place)

/-! ### Networks that lose no node -/

theorem Step.whole (step : Step protocol foreign network next)
    (harmless : protocol.Harmless foreign) (sound : network.Sound protocol foreign)
    (whole : network.Whole) : next.Whole := by
  cases step with
  | @hear place state packet present up there =>
    intro other
    by_cases same : other = place
    · subst same
      rw [Network.hear_node]
      exact harmless other state packet (sound.origin packet there)
    · rw [Network.hear_node_of_ne _ _ _ _ same]
      exact whole other
  | _ => exact whole

theorem Run.whole (run : Run protocol foreign network next)
    (harmless : protocol.Harmless foreign) (sound : network.Sound protocol foreign)
    (whole : network.Whole) : next.Whole := by
  induction run with
  | refl => exact whole
  | tail earlier step inductionHypothesis =>
    exact step.whole harmless (Run.sound earlier sound) inductionHypothesis

/-! ### Everything that is sent can be heard -/

/-- While no node is lost, what has an origin can come to be on the medium, with any node up. -/
theorem exists_carried (whole : network.Whole) {packet : Packet}
    (origin : protocol.Origin foreign packet) (place : Node) :
    ∃ next, Run protocol foreign network next ∧ next.node = network.node ∧
      next.up place = true ∧ packet ∈ next.carried := by
  obtain ⟨sender, rfl⟩ | outside := origin
  · refine ⟨((network.turn sender true).turn place true).carry (protocol.packet sender), ?_, rfl,
      Network.turn_up _ _ _, List.mem_append_right _ (List.mem_singleton_self _)⟩
    exact ((Relation.ReflTransGen.single (Step.turn sender true)).tail (Step.turn place true)).tail
      (Step.send (whole sender) (Network.turn_up_of_up _ _ (Network.turn_up _ _ _)))
  · refine ⟨(network.turn place true).carry packet, ?_, rfl, Network.turn_up _ _ _,
      List.mem_append_right _ (List.mem_singleton_self _)⟩
    exact (Relation.ReflTransGen.single (Step.turn place true)).tail (Step.intrude outside)

/-- While no node is lost, any node can come to hear what has an origin. -/
theorem exists_hears (whole : network.Whole) {packet : Packet}
    (origin : protocol.Origin foreign packet) (place : Node) :
    ∃ next state, Run protocol foreign network next ∧ network.node place = some state ∧
      next.node place = protocol.receive place state packet ∧ packet ∈ next.heard place := by
  obtain ⟨state, present⟩ := Option.ne_none_iff_exists'.mp (whole place)
  obtain ⟨middle, run, node, up, there⟩ := exists_carried whole origin place
  rw [← node] at present
  refine ⟨_, state, run.tail (Step.hear present up there), ?_, Network.hear_node _ _ _ _, ?_⟩
  · rw [← node, present]
  · rw [Network.hear_heard]
    exact List.mem_append_right _ (List.mem_singleton_self _)

/-- No node is ever lost exactly when no node is lost to the first packet it hears and to any
later one. -/
theorem whole_iff (uniform : ∀ place state other packet,
      protocol.receive place state packet = none → protocol.receive place other packet = none) :
    (∀ network, Run protocol foreign protocol.start network → network.Whole) ↔
      protocol.Harmless foreign := by
  constructor
  · intro whole place state packet origin fatal
    have left : protocol.start.Whole := whole_start
    obtain ⟨next, first, run, -, becomes, -⟩ := exists_hears left origin place
    refine whole next run place ?_
    rw [becomes]
    exact uniform place state first packet fatal
  · exact fun harmless network run => run.whole harmless sound_start whole_start

/-- Where no node is lost, all nodes of a list can come to hear all packets of a list. -/
theorem exists_hears_all (harmless : protocol.Harmless foreign)
    (sound : network.Sound protocol foreign) (whole : network.Whole)
    {wanted : List (Node × Packet)} (origin : ∀ pair ∈ wanted, protocol.Origin foreign pair.2) :
    ∃ next, Run protocol foreign network next ∧ ∀ pair ∈ wanted, pair.2 ∈ next.heard pair.1 := by
  induction wanted with
  | nil =>
    exact ⟨network, Relation.ReflTransGen.refl, fun _ member => absurd member List.not_mem_nil⟩
  | cons pair rest inductionHypothesis =>
    obtain ⟨middle, run, hears⟩ := inductionHypothesis
      fun other member => origin other (List.mem_cons_of_mem _ member)
    obtain ⟨next, -, further, -, -, heard⟩ :=
      exists_hears (run.whole harmless sound whole) (origin pair List.mem_cons_self) pair.1
    refine ⟨next, run.trans further, fun other member => ?_⟩
    obtain rfl | member := List.mem_cons.mp member
    · exact heard
    · exact (Run.heard_prefix further other.1).subset (hears other member)

end

end Medium
