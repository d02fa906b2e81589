import Concentrator.Proofs.Gateway.Accounting

/-!
# The order of messages

All messages of a peer pass through one lane, so none overtakes another. In any
interleaving `run_orderly` follows them from their arrival into the outbound
queue and to the interface.
-/

namespace Concentrator.Gateway

variable {α : Type} {g : Gateway} {q : Pipeline} {hands hands' : Nat → List Handling}
  {now : List Handling} {e : Event} {i : Nat} {peer source : Peer} {payload : Bytes}

/-- The items whose peers belong to a lane. -/
def inLane (g : Gateway) (i : Nat) (peer : α → Peer) (all : List α) : List α :=
  all.filter fun a => g.laneOf (peer a) = i

theorem inLane_append (g : Gateway) (i : Nat) (peer : α → Peer) (first rest : List α) :
    g.inLane i peer (first ++ rest) = g.inLane i peer first ++ g.inLane i peer rest :=
  List.filter_append _ _

theorem inLane_singleton (g : Gateway) (i : Nat) (peer : α → Peer) (a : α) :
    g.inLane i peer [a] = if g.laneOf (peer a) = i then [a] else [] := by
  by_cases here : g.laneOf (peer a) = i <;> simp [inLane, here]

theorem inLane_step (g : Gateway) (e : Event) (i : Nat) (peer : α → Peer) (all : List α) :
    (g.step e).inLane i peer all = g.inLane i peer all := by
  simp only [inLane, step_laneOf]

theorem filter_inLane (g : Gateway) (peer : α → Peer) (s : Peer) (all : List α) :
    (g.inLane (g.laneOf s) peer all).filter (peer · = s) = all.filter (peer · = s) := by
  rw [inLane, List.filter_filter]
  congr 1
  funext a
  by_cases same : peer a = s <;> simp [same]

/-! ### From arrival to handling -/

/-- The message that comes in with an event, with whether its lane had room for it. -/
def verdict (g : Gateway) (e : Event) : List ((Peer × Bytes) × Bool) :=
  (incoming e).map fun m => (m, (g.pipeline.enqueue (g.laneOf m.1) m).2)

def verdicts (g : Gateway) : List Event → List ((Peer × Bytes) × Bool)
  | [] => []
  | e :: rest => g.verdict e ++ (g.step e).verdicts rest

def admitted (vs : List ((Peer × Bytes) × Bool)) : List (Peer × Bytes) :=
  (vs.filter Prod.snd).map Prod.fst

theorem admitted_append (first rest : List ((Peer × Bytes) × Bool)) :
    admitted (first ++ rest) = admitted first ++ admitted rest := by
  simp [admitted]

/-- Every message waits in the lane of its peer. -/
def Sorted (g : Gateway) : Prop :=
  ∀ i, ∀ m ∈ (g.pipeline.lane i).queue, g.laneOf m.1 = i

/-- Each lane hands out what it had and what it admits, in this order. -/
def Queues (g : Gateway) (e : Event) : Prop :=
  ∀ i, g.inLane i Prod.fst ((g.handling e).map Handling.message) ++
      ((g.step e).pipeline.lane i).queue =
    (g.pipeline.lane i).queue ++ g.inLane i Prod.fst (admitted (g.verdict e))

theorem Queues.sorted (queues : Queues g e) (sorted : Sorted g) : Sorted (g.step e) := by
  intro i m member
  rw [step_laneOf]
  have among : m ∈ (g.pipeline.lane i).queue ++ g.inLane i Prod.fst (admitted (g.verdict e)) := by
    rw [← queues i]
    exact List.mem_append_right _ member
  rcases List.mem_append.1 among with before | new
  · exact sorted i m before
  · exact of_decide_eq_true (List.mem_filter.1 new).2

theorem deliver_queues (manned : 0 < g.pipeline.lanes.length) (peer : Peer) (payload : Bytes) :
    Queues g (.deliver (some peer) payload) := by
  intro i
  have inside : g.laneOf peer < g.pipeline.lanes.length := Nat.mod_lt _ manned
  simp only [handling, verdict, incoming, List.map_nil, List.map_cons, step, deliver]
  rcases g.pipeline.enqueue_cases (g.laneOf peer) (peer, payload) with room | full
  · simp only [room]
    rw [Pipeline.lane_setLane inside]
    simp only [admitted, List.filter_cons_of_pos, List.filter_nil, List.map_cons, List.map_nil,
      inLane_singleton]
    by_cases here : g.laneOf peer = i
    · simp [here, inLane]
    · have other : ¬ i = g.laneOf peer := fun back => here back.symm
      simp [here, other, inLane]
  · simp [full, admitted, inLane, count]

theorem serve_queue (taken : g.pipeline.dequeue i = (q, some (source, payload))) (j : Nat) :
    ((g.serve i).pipeline.lane j).queue = (q.lane j).queue := by
  cases made : (g.plane.message source payload).2.packet with
  | none =>
    rw [serve_of_none_made taken made]
    rfl
  | some packet =>
    rw [serve_of_made taken made, counted_pipeline,
      Pipeline.offer_lane (Pipeline.dequeue_free taken).1]
    split
    · rename_i here
      rw [here.1]
    · rfl

theorem serve_queues (sorted : Sorted g) (i : Nat) : Queues g (.serve i) := by
  intro j
  rcases taken : g.pipeline.dequeue i with ⟨q, _ | ⟨source, payload⟩⟩
  · rw [step, serve_of_none (by rw [taken])]
    simp [handling, taken, verdict, incoming, admitted, inLane]
  · have inside := Pipeline.dequeue_inside taken
    have queue := serve_queue taken j
    obtain ⟨rest, -, waiting, rfl⟩ := Pipeline.dequeue_some taken
    have home : g.laneOf source = i := sorted i (source, payload) (by rw [waiting]; simp)
    rw [step, queue, Pipeline.lane_setLane inside]
    simp only [handling, taken, List.map_cons, List.map_nil, Handling.message, inLane_singleton,
      home, verdict, incoming]
    by_cases here : j = i
    · simp [here, waiting, admitted, inLane]
    · have other : ¬ i = j := fun back => here back.symm
      simp [here, other, admitted, inLane]

theorem release_queues (g : Gateway) (i : Nat) : Queues g (.release i) := by
  intro j
  have same : ((g.release i).pipeline.lane j).queue = (g.pipeline.lane j).queue := by
    unfold release
    rcases released : g.pipeline.release i with ⟨q, _ | o⟩
    · rfl
    · simp only [counted_pipeline]
      rw [Pipeline.release_lane released]
      split
      · rename_i here
        rw [here]
      · rfl
  simp [handling, verdict, incoming, admitted, inLane, step, same]

theorem step_queues (manned : 0 < g.pipeline.lanes.length) (sorted : Sorted g) (e : Event) :
    Queues g e := by
  cases e with
  | deliver source payload =>
    cases source with
    | none =>
      intro i
      simp [handling, verdict, incoming, admitted, inLane, step, deliver, count]
    | some peer => exact deliver_queues manned peer payload
  | serve i => exact serve_queues sorted i
  | release i => exact g.release_queues i
  | _ =>
    intro i
    rw [Pipeline.lane_congr (g.lanes_of_still rfl)]
    simp [handling, verdict, incoming, admitted, inLane]

theorem run_queues (manned : 0 < g.pipeline.lanes.length) (sorted : Sorted g)
    (events : List Event) :
    Sorted (g.run events) ∧ ∀ i,
      g.inLane i Prod.fst ((g.handlings events).map Handling.message) ++
          ((g.run events).pipeline.lane i).queue =
        (g.pipeline.lane i).queue ++ g.inLane i Prod.fst (admitted (g.verdicts events)) := by
  induction events generalizing g with
  | nil => exact ⟨sorted, fun i => by simp [handlings, verdicts, admitted, inLane, run]⟩
  | cons e rest ih =>
    have here := step_queues manned sorted e
    obtain ⟨sorted', later⟩ := ih (g := g.step e) (by rwa [step_lanes]) (here.sorted sorted)
    refine ⟨sorted', fun i => ?_⟩
    have there := later i
    simp only [inLane_step] at there
    rw [handlings, verdicts, List.map_append, admitted_append, inLane_append, inLane_append]
    -- what waits in the lane between the two stretches joins them
    calc _ = g.inLane i Prod.fst ((g.handling e).map Handling.message) ++
          (((g.step e).pipeline.lane i).queue ++
            g.inLane i Prod.fst (admitted ((g.step e).verdicts rest))) := by
          rw [← there, ← List.append_assoc]
          rfl
      _ = _ := by rw [← List.append_assoc, here i, List.append_assoc]

/-! ### From handling into the outbound queue -/

/-- The messages whose packets the lanes hold. -/
structure Holding (g : Gateway) (hands : Nat → List Handling) : Prop where
  packets : ∀ i, (hands i).map Handling.packet = (g.pipeline.lane i).held.toList.map some
  lanes : ∀ i, ∀ h ∈ hands i, g.laneOf h.source = i

/-- What a lane held or has handled enters the outbound queue in this order, or is held. -/
structure Enters (g : Gateway) (e : Event) (hands : Nat → List Handling) (now : List Handling)
    (hands' : Nat → List Handling) : Prop where
  holding : Holding (g.step e) hands'
  packets : now.map Handling.packet = (g.entering e).map some
  order : ∀ i, (g.inLane i Handling.source now ++ hands' i).Sublist
    (hands i ++ g.inLane i Handling.source (g.handling e))

theorem entering_of_append (entered : List Bytes)
    (grown : (g.step e).pipeline.outbound = g.pipeline.outbound ++ entered) :
    g.entering e = entered := by
  rw [entering, grown, List.drop_left]

/-- No more packets enter than lanes give out. -/
theorem entering_of_lanes (quiet : g.handling e = [])
    (lanes : (g.step e).pipeline.lanes = g.pipeline.lanes) : g.entering e = [] := by
  have few := (g.step_moves e).held.length_le
  simp only [Pipeline.held, lanes, quiet, List.filterMap_nil, List.length_append,
    List.length_nil] at few
  exact List.eq_nil_of_length_eq_zero (by omega)

theorem Holding.of_held (holding : Holding g hands)
    (held : ∀ i, ((g.step e).pipeline.lane i).held = (g.pipeline.lane i).held) :
    Holding (g.step e) hands where
  packets i := by rw [held, holding.packets i]
  lanes i h member := by rw [step_laneOf, holding.lanes i h member]

/-- Nothing enters while every lane holds what it held. -/
theorem Holding.enters_nothing (holding : Holding g hands)
    (held : ∀ i, ((g.step e).pipeline.lane i).held = (g.pipeline.lane i).held)
    (nothing : g.entering e = []) : Enters g e hands [] hands where
  holding := holding.of_held held
  packets := by rw [nothing]; rfl
  order _ := List.sublist_append_left _ _

theorem deliver_enters (manned : 0 < g.pipeline.lanes.length) (holding : Holding g hands)
    (source : Option Peer) (payload : Bytes) :
    Enters g (.deliver source payload) hands [] hands := by
  cases source with
  | none => exact holding.enters_nothing (fun _ => rfl) (entering_of_lanes rfl rfl)
  | some peer =>
    have inside : g.laneOf peer < g.pipeline.lanes.length := Nat.mod_lt _ manned
    rcases g.pipeline.enqueue_cases (g.laneOf peer) (peer, payload) with room | full
    · refine holding.enters_nothing (fun i => ?_) (entering_of_append [] ?_)
      · simp only [step, deliver, room]
        rw [Pipeline.lane_setLane inside]
        split
        · rename_i here
          rw [here]
        · rfl
      · simp only [step, deliver, room, List.append_nil]
        rfl
    · have same : (g.step (.deliver (some peer) payload)).pipeline = g.pipeline := by
        simp only [step, deliver, full]
        rfl
      exact holding.enters_nothing (fun _ => by rw [same])
        (entering_of_lanes rfl (congrArg Pipeline.lanes same))

theorem dequeue_held (taken : g.pipeline.dequeue i = (q, some (source, payload))) (j : Nat) :
    (q.lane j).held = (g.pipeline.lane j).held := by
  have inside := Pipeline.dequeue_inside taken
  obtain ⟨rest, free, -, rfl⟩ := Pipeline.dequeue_some taken
  rw [Pipeline.lane_setLane inside]
  split
  · rename_i here
    rw [here, free]
  · rfl

/-- A message whose packet has to wait is in the hand of its lane, and only there. -/
theorem Holding.takes {packet : Bytes} (holding : Holding g hands) (h : Handling)
    (made : h.packet = some packet) (home : g.laneOf h.source = i)
    (held : ∀ j, ((g.step e).pipeline.lane j).held =
      if j = i then some packet else (g.pipeline.lane j).held) :
    Holding (g.step e) fun j => if j = i then [h] else hands j where
  packets j := by
    rw [held]
    by_cases here : j = i
    · simp [here, made]
    · simp only [here, if_false]
      exact holding.packets j
  lanes j h' member := by
    rw [step_laneOf]
    by_cases here : j = i
    · simp only [here, if_true, List.mem_singleton] at member
      rw [member, home, here]
    · simp only [here, if_false] at member
      exact holding.lanes j h' member

theorem Holding.empty_of_free (holding : Holding g hands)
    (free : (g.pipeline.lane i).held = none) : hands i = [] := by
  have packets := holding.packets i
  rwa [free, Option.toList_none, List.map_nil, List.map_eq_nil_iff] at packets

theorem Holding.enters_at_once {packet : Bytes} (holding : Holding g hands) (h : Handling)
    (made : h.packet = some packet) (home : g.laneOf h.source = i)
    (handled : g.handling e = [h]) (free : (g.pipeline.lane i).held = none)
    (held : ∀ j, ((g.step e).pipeline.lane j).held = (g.pipeline.lane j).held)
    (outbound : (g.step e).pipeline.outbound = g.pipeline.outbound ++ [packet]) :
    Enters g e hands [h] hands where
  holding := holding.of_held held
  packets := by rw [entering_of_append [packet] outbound, List.map_singleton, made]; rfl
  order j := by
    rw [handled, inLane_singleton]
    by_cases here : j = i
    · rw [here, holding.empty_of_free free, List.append_nil, List.nil_append]
    · rw [if_neg (by rw [home]; exact fun back => here back.symm)]
      simp

theorem Holding.enters_later {packet : Bytes} (holding : Holding g hands) (h : Handling)
    (made : h.packet = some packet) (home : g.laneOf h.source = i)
    (handled : g.handling e = [h])
    (held : ∀ j, ((g.step e).pipeline.lane j).held =
      if j = i then some packet else (g.pipeline.lane j).held)
    (outbound : (g.step e).pipeline.outbound = g.pipeline.outbound) :
    Enters g e hands [] fun j => if j = i then [h] else hands j where
  holding := holding.takes h made home held
  packets := by rw [entering_of_append [] (by rw [outbound, List.append_nil])]; rfl
  order j := by
    rw [handled, inLane_singleton]
    by_cases here : j = i
    · simp [here, home, inLane]
    · simp [here, inLane]

/-- The packet of a message that is handled enters, is refused or comes to be held. -/
theorem serve_enters (sorted : Sorted g) (holding : Holding g hands) (i : Nat) :
    ∃ now hands', Enters g (.serve i) hands now hands' := by
  rcases taken : g.pipeline.dequeue i with ⟨q, _ | ⟨source, payload⟩⟩
  · have same : g.step (.serve i) = g := serve_of_none (by rw [taken])
    have idle : g.handling (.serve i) = [] := by simp [handling, taken]
    exact ⟨[], hands, holding.enters_nothing (fun _ => by rw [same])
      (entering_of_lanes idle (by rw [same]))⟩
  have inside := (Pipeline.dequeue_free taken).1
  have outbound : q.outbound = g.pipeline.outbound := by
    rw [← g.pipeline.dequeue_outbound i, taken]
  have held := dequeue_held taken
  obtain ⟨rest, free, waiting, -⟩ := Pipeline.dequeue_some taken
  have home : g.laneOf source = i := sorted i (source, payload) (by rw [waiting]; simp)
  have handled : g.handling (.serve i) = [⟨g.plane, source, payload⟩] := by simp [handling, taken]
  have nothing (after : (g.step (.serve i)).pipeline = q) :
      ∃ now hands', Enters g (.serve i) hands now hands' :=
    ⟨[], hands, holding.enters_nothing (fun j => by rw [after, held])
      (entering_of_append [] (by rw [after, List.append_nil, outbound]))⟩
  cases made : (g.plane.message source payload).2.packet with
  | none => exact nothing (by rw [step, serve_of_none_made taken made]; rfl)
  | some packet =>
    have after : (g.step (.serve i)).pipeline = (q.offer i packet).1 := by
      rw [step, serve_of_made taken made, counted_pipeline]
    rcases q.offer_cases i packet with ⟨-, gone⟩ | ⟨-, room⟩ | ⟨-, full⟩
    · exact nothing (by rw [after, gone])
    · refine ⟨_, _, holding.enters_at_once ⟨g.plane, source, payload⟩ made home handled free
        (fun j => ?_) ?_⟩
      · rw [after, room, ← held]
        rfl
      · rw [after, room, ← outbound]
    · refine ⟨_, _, holding.enters_later ⟨g.plane, source, payload⟩ made home handled
        (fun j => ?_) ?_⟩
      · rw [after, Pipeline.offer_lane inside, full]
        by_cases here : j = i
        · simp [here]
        · simp [here, held]
      · rw [after, full]
        exact outbound

theorem Holding.lets_go (holding : Holding g hands)
    (held : ∀ j, ((g.step e).pipeline.lane j).held =
      if j = i then none else (g.pipeline.lane j).held) :
    Holding (g.step e) fun j => if j = i then [] else hands j where
  packets j := by
    rw [held]
    by_cases here : j = i
    · simp [here]
    · simp only [here, if_false]
      exact holding.packets j
  lanes j h member := by
    rw [step_laneOf]
    by_cases here : j = i
    · simp [here] at member
    · simp only [here, if_false] at member
      exact holding.lanes j h member

theorem Holding.inLane_hands (holding : Holding g hands) (i j : Nat) :
    g.inLane j Handling.source (hands i) = if j = i then hands i else [] := by
  by_cases here : j = i
  · rw [if_pos here]
    exact List.filter_eq_self.2 fun h member => by simp [holding.lanes i h member, here]
  · rw [if_neg here]
    refine List.filter_eq_nil_iff.2 fun h member => ?_
    rw [holding.lanes i h member, decide_eq_true_eq]
    exact fun back => here back.symm

theorem release_enters (holding : Holding g hands) (i : Nat) :
    ∃ now hands', Enters g (.release i) hands now hands' := by
  rcases released : g.pipeline.release i with ⟨q, _ | o⟩
  · have same : g.step (.release i) = g := by simp only [step, release, released]
    exact ⟨[], hands, holding.enters_nothing (fun _ => by rw [same])
      (entering_of_lanes rfl (by rw [same]))⟩
  have after : (g.step (.release i)).pipeline = q := by
    simp only [step, release, released, counted_pipeline]
  have held (j : Nat) : ((g.step (.release i)).pipeline.lane j).held =
      if j = i then none else (g.pipeline.lane j).held := by
    rw [after, Pipeline.release_lane released]
    split <;> rfl
  obtain ⟨packet, holds, outcome⟩ := Pipeline.release_some released
  rcases outcome with ⟨-, -, rfl⟩ | ⟨-, -, rfl⟩
  · refine ⟨[], _, holding.lets_go held, ?_, fun j => ?_⟩
    · rw [entering_of_append [] (by rw [after, List.append_nil]; rfl)]
      rfl
    · by_cases here : j = i <;> simp [here, inLane]
  · refine ⟨hands i, _, holding.lets_go held, ?_, fun j => ?_⟩
    · rw [holding.packets i, holds, entering_of_append [packet] (by rw [after])]
      rfl
    · rw [holding.inLane_hands]
      by_cases here : j = i <;> simp [here]

theorem step_enters (manned : 0 < g.pipeline.lanes.length) (sorted : Sorted g)
    (holding : Holding g hands) (e : Event) : ∃ now hands', Enters g e hands now hands' := by
  cases e with
  | deliver source payload => exact ⟨[], hands, deliver_enters manned holding source payload⟩
  | serve i => exact serve_enters sorted holding i
  | release i => exact release_enters holding i
  | _ =>
    exact ⟨[], hands, holding.enters_nothing
      (fun i => by rw [Pipeline.lane_congr (g.lanes_of_still rfl)])
      (entering_of_lanes rfl (g.lanes_of_still rfl))⟩

/-- The packets that enter were made, lane by lane, of messages in the order in which they were
handled. -/
theorem run_enters (manned : 0 < g.pipeline.lanes.length) (sorted : Sorted g)
    (holding : Holding g hands) (events : List Event) :
    ∃ makers : List Handling, makers.map Handling.packet = (g.entries events).map some ∧
      ∀ i, (g.inLane i Handling.source makers).Sublist
        (hands i ++ g.inLane i Handling.source (g.handlings events)) := by
  induction events generalizing g hands with
  | nil => exact ⟨[], rfl, fun i => List.nil_sublist _⟩
  | cons e rest ih =>
    obtain ⟨now, hands', enters⟩ := step_enters manned sorted holding e
    obtain ⟨makers, packets, order⟩ := ih (g := g.step e) (by rwa [step_lanes])
      ((step_queues manned sorted e).sorted sorted) enters.holding
    refine ⟨now ++ makers, ?_, fun i => ?_⟩
    · rw [List.map_append, packets, enters.packets, entries, List.map_append]
    · have later := order i
      simp only [inLane_step] at later
      rw [handlings, inLane_append, inLane_append, ← List.append_assoc]
      refine (later.append_left _).trans ?_
      rw [← List.append_assoc]
      exact (enters.order i).append_right _

/-! ### From the outbound queue to the interface -/

/-- The packets that are still to be written. -/
def due (g : Gateway) : List Bytes := g.pipeline.writer.getD [] ++ g.pipeline.outbound

theorem live_written (g : Gateway) (e : Lifecycle.Event) : (g.live e).written = g.written :=
  live_preserves (P := fun h => h.written = g.written) e rfl
    fun _ effect same => by cases effect <;> exact same

theorem counted_written (g : Gateway) (o : Pipeline.Offer) : (g.counted o).written = g.written := by
  cases o <;> rfl

/-- The writer writes from the front of what is due, behind which packets enter. Once it has gone it
does not come back. -/
structure Writes (g : Gateway) (e : Event) (now : List Bytes) : Prop where
  written : (g.step e).written = g.written ++ now
  gone : g.pipeline.writer = none → (g.step e).pipeline.writer = none ∧ now = []
  due : (g.step e).pipeline.writer = none ∧ now = [] ∨
    now ++ (g.step e).due = g.due ++ g.entering e

theorem writes_nothing (entered : List Bytes) (written : (g.step e).written = g.written)
    (writer : (g.step e).pipeline.writer = g.pipeline.writer)
    (outbound : (g.step e).pipeline.outbound = g.pipeline.outbound ++ entered) :
    Writes g e [] where
  written := by rw [written, List.append_nil]
  gone before := ⟨writer.trans before, rfl⟩
  due := by
    refine .inr ?_
    rw [entering_of_append entered outbound, Gateway.due, Gateway.due, writer, outbound,
      List.nil_append, List.append_assoc]

theorem writes_of_pipeline (written : (g.step e).written = g.written)
    (same : (g.step e).pipeline = g.pipeline) : Writes g e [] :=
  writes_nothing [] written (by rw [same]) (by rw [same, List.append_nil])

theorem deliver_writes (g : Gateway) (source : Option Peer) (payload : Bytes) :
    Writes g (.deliver source payload) [] := by
  cases source with
  | none => exact writes_of_pipeline rfl rfl
  | some peer =>
    rcases g.pipeline.enqueue_cases (g.laneOf peer) (peer, payload) with room | full
    · refine writes_nothing [] ?_ ?_ ?_ <;>
        simp [step, deliver, room, Pipeline.setLane]
    · refine writes_of_pipeline ?_ ?_ <;> simp [step, deliver, full, count]

theorem serve_writes (g : Gateway) (i : Nat) : Writes g (.serve i) [] := by
  rcases taken : g.pipeline.dequeue i with ⟨q, _ | ⟨source, payload⟩⟩
  · have same : g.step (.serve i) = g := serve_of_none (by rw [taken])
    exact writes_of_pipeline (by rw [same]) (by rw [same])
  obtain ⟨rest, -, -, rfl⟩ := Pipeline.dequeue_some taken
  cases made : (g.plane.message source payload).2.packet with
  | none =>
    refine writes_nothing [] ?_ ?_ ?_ <;>
      simp [step, serve_of_none_made taken made, react, Pipeline.setLane]
  | some packet =>
    obtain ⟨writer, entered, outbound⟩ :=
      (g.pipeline.setLane i { queue := rest }).offer_outbound i packet
    refine writes_nothing entered ?_ ?_ ?_ <;>
      rw [step, serve_of_made taken made]
    · rw [counted_written]
      rfl
    · rw [counted_pipeline]
      exact writer
    · rw [counted_pipeline]
      exact outbound

theorem release_writes (g : Gateway) (i : Nat) : Writes g (.release i) [] := by
  rcases released : g.pipeline.release i with ⟨q, _ | o⟩
  · have same : g.step (.release i) = g := by simp only [step, release, released]
    exact writes_of_pipeline (by rw [same]) (by rw [same])
  have written : (g.step (.release i)).written = g.written := by
    simp only [step, release, released, counted_written]
  have after : (g.step (.release i)).pipeline = q := by
    simp only [step, release, released, counted_pipeline]
  obtain ⟨packet, -, ⟨-, -, rfl⟩ | ⟨-, -, rfl⟩⟩ := Pipeline.release_some released
  · refine writes_nothing [] written ?_ ?_ <;> simp [after, Pipeline.setLane]
  · refine writes_nothing [packet] written ?_ ?_ <;> simp [after, Pipeline.setLane]

theorem take_writes (g : Gateway) : Writes g .take [] := by
  have entering : g.entering .take = [] := entering_of_lanes rfl (g.lanes_of_still rfl)
  refine ⟨(List.append_nil _).symm, fun gone => ?_, .inr ?_⟩
  · exact ⟨by simp [step, Pipeline.take, gone], rfl⟩
  · rw [entering, List.append_nil, List.nil_append, due, due]
    simp only [step, Pipeline.take]
    split
    · rename_i idle
      rw [idle]
      exact List.take_append_drop _ _
    · rfl

theorem wrote_writes (g : Gateway) : ∃ now, Writes g .wrote now := by
  cases writer : g.pipeline.writer with
  | none =>
    refine ⟨[], writes_of_pipeline ?_ ?_⟩ <;> simp [step, wrote, Pipeline.wrote, writer]
  | some batch =>
    cases batch with
    | nil => refine ⟨[], writes_of_pipeline ?_ ?_⟩ <;> simp [step, wrote, Pipeline.wrote, writer]
    | cons packet rest =>
      have entering : g.entering .wrote = [] := entering_of_lanes rfl (g.lanes_of_still rfl)
      refine ⟨[packet], ?_, fun gone => ?_, .inr ?_⟩
      · simp [step, wrote, Pipeline.wrote, writer]
      · rw [writer] at gone
        cases gone
      · simp [entering, due, step, wrote, Pipeline.wrote, writer]

theorem writeFailed_writes (g : Gateway) (reason : String) :
    Writes g (.writeFailed reason) [] := by
  have same (idle : g.writeFailed reason = g) : Writes g (.writeFailed reason) [] :=
    writes_of_pipeline (congrArg written idle) (congrArg pipeline idle)
  cases writer : g.pipeline.writer with
  | none => exact same (by simp [writeFailed, writer])
  | some batch =>
    cases batch with
    | nil => exact same (by simp [writeFailed, writer])
    | cons packet rest =>
      have gone : (g.step (.writeFailed reason)).pipeline.writer = none := by
        simp [step, writeFailed, writer, live_pipeline, Pipeline.abandon]
      refine ⟨?_, fun _ => ⟨gone, rfl⟩, .inl ⟨gone, rfl⟩⟩
      simp [step, writeFailed, writer, live_written]

theorem step_writes (g : Gateway) (e : Event) : ∃ now, Writes g e now := by
  cases e with
  | deliver source payload => exact ⟨[], g.deliver_writes source payload⟩
  | serve i => exact ⟨[], g.serve_writes i⟩
  | release i => exact ⟨[], g.release_writes i⟩
  | take => exact ⟨[], g.take_writes⟩
  | wrote => exact g.wrote_writes
  | writeFailed reason => exact ⟨[], g.writeFailed_writes reason⟩
  | handle i =>
    refine ⟨[], writes_of_pipeline ?_ ?_⟩ <;>
      · simp only [step, handle]
        split <;> rfl
  | live e => exact ⟨[], writes_of_pipeline (g.live_written e) (g.live_pipeline e)⟩
  | receive enabled => exact ⟨[], writes_of_pipeline rfl rfl⟩
  | advance milliseconds => exact ⟨[], writes_of_pipeline rfl rfl⟩

/-- What is written is what was due and what entered, from the front. -/
theorem run_writes (g : Gateway) (events : List Event) :
    ∃ new, (g.run events).written = g.written ++ new ∧
      new <+: g.due ++ g.entries events ∧ (g.pipeline.writer = none → new = []) := by
  induction events generalizing g with
  | nil => exact ⟨[], (List.append_nil _).symm, List.nil_prefix, fun _ => rfl⟩
  | cons e rest ih =>
    obtain ⟨now, writes⟩ := g.step_writes e
    obtain ⟨later, written, due, gone⟩ := ih (g.step e)
    refine ⟨now ++ later, ?_, ?_, fun none => ?_⟩
    · exact written.trans (by rw [writes.written, List.append_assoc])
    · rcases writes.due with ⟨none, rfl⟩ | due'
      -- what was due is lost with the writer, and nothing more is written
      · rw [gone none]
        exact List.nil_prefix
      · rw [entries, ← List.append_assoc, ← due', List.append_assoc]
        exact (List.prefix_append_right_inj now).2 due
    · obtain ⟨none', rfl⟩ := writes.gone none
      exact gone none'

/-! ### The whole way -/

theorem serve_queueFull (g : Gateway) (i : Nat) :
    (g.serve i).plane.counters.queueFull = g.plane.counters.queueFull := by
  rcases taken : g.pipeline.dequeue i with ⟨q, _ | ⟨source, payload⟩⟩
  · rw [serve_of_none (by rw [taken])]
  have handled : (g.plane.message source payload).1.counters.queueFull =
      g.plane.counters.queueFull := by
    obtain ⟨fate, -, -, counters⟩ := g.plane.message_fate source payload
    rw [counters]
    cases fate <;> rfl
  cases made : (g.plane.message source payload).2.packet with
  | none =>
    rw [serve_of_none_made taken made]
    exact handled
  | some packet =>
    rw [serve_of_made taken made]
    cases (q.offer i packet).2 <;> exact handled

theorem step_queueFull (g : Gateway) (e : Event) :
    (g.step e).plane.counters.queueFull =
      g.plane.counters.queueFull + (g.verdict e).countP (·.2 = false) := by
  cases still : shifts e with
  | true =>
    cases e with
    | deliver source payload =>
      cases source with
      | none => rfl
      | some peer =>
        rcases g.pipeline.enqueue_cases (g.laneOf peer) (peer, payload) with room | full
        · simp [step, deliver, verdict, incoming, room]
        · simp [step, deliver, verdict, incoming, full, count, Plane.count]
    | serve i => exact g.serve_queueFull i
    | release i =>
      simp only [step, release]
      split
      · rfl
      · rename_i o _
        cases o <;> rfl
    | _ => cases still
  | false =>
    obtain ⟨_, _, _, _, counters⟩ := g.counters_of_still still
    have nobody : g.verdict e = [] := by
      cases e with
      | deliver source payload => cases still
      | _ => rfl
    rw [counters, nobody]
    rfl

theorem run_queueFull (g : Gateway) (events : List Event) :
    (g.run events).plane.counters.queueFull =
      g.plane.counters.queueFull + (g.verdicts events).countP (·.2 = false) := by
  induction events generalizing g with
  | nil => rfl
  | cons e rest ih =>
    rw [verdicts, List.countP_append, ← Nat.add_assoc, ← step_queueFull]
    exact ih (g.step e)

theorem verdicts_messages (g : Gateway) (events : List Event) :
    (g.verdicts events).map Prod.fst = events.flatMap incoming := by
  induction events generalizing g with
  | nil => rfl
  | cons e rest ih =>
    rw [verdicts, List.map_append, ih, List.flatMap_cons]
    congr 1
    rw [verdict, List.map_map]
    exact List.map_id _

theorem run_lanes (g : Gateway) (events : List Event) :
    (g.run events).pipeline.lanes.length = g.pipeline.lanes.length :=
  List.foldlRecOn (motive := fun h => h.pipeline.lanes.length = g.pipeline.lanes.length) events
    step (b := g) rfl fun h same e _ => (h.step_lanes e).trans same

theorem run_laneOf (g : Gateway) (events : List Event) (peer : Peer) :
    (g.run events).laneOf peer = g.laneOf peer :=
  List.foldlRecOn (motive := fun h => h.laneOf peer = g.laneOf peer) events step (b := g) rfl
    fun h same e _ => (h.step_laneOf e peer).trans same

theorem filter_queued (manned : 0 < g.pipeline.lanes.length) (sorted : Sorted g) (s : Peer) :
    g.pipeline.queued.filter (·.1 = s) =
      (g.pipeline.lane (g.laneOf s)).queue.filter (·.1 = s) := by
  have inside : g.laneOf s < g.pipeline.lanes.length := Nat.mod_lt _ manned
  obtain ⟨front, back, split, -, others⟩ := Pipeline.flatMap_around Lane.queue inside
  have foreign (m : Peer × Bytes) (member : m ∈ front ++ back) : ¬ m.1 = s := by
    rintro rfl
    obtain ⟨j, other, waits⟩ := others m member
    exact other (sorted j m waits).symm
  have none_front : front.filter (·.1 = s) = [] :=
    List.filter_eq_nil_iff.2 fun m member => by simp [foreign m (List.mem_append_left _ member)]
  have none_back : back.filter (·.1 = s) = [] :=
    List.filter_eq_nil_iff.2 fun m member => by simp [foreign m (List.mem_append_right _ member)]
  rw [Pipeline.queued, split, List.filter_append, List.filter_append, none_front, none_back,
    List.nil_append, List.append_nil]

/-- What becomes of the messages in a sequence of steps. -/
structure Orderly (g : Gateway) (events : List Event) : Prop where
  /-- Each message that comes in is admitted or not. -/
  arrived : (g.verdicts events).map Prod.fst = events.flatMap incoming
  /-- Those that are not are counted. -/
  lost : (g.run events).plane.counters.queueFull = (g.verdicts events).countP (·.2 = false)
  /-- Those of a peer that are admitted are handled in the order in which they came, and the rest of
  them is queued. -/
  handled : ∀ s, ((g.handlings events).map Handling.message).filter (·.1 = s) ++
      (g.run events).pipeline.queued.filter (·.1 = s) =
    (admitted (g.verdicts events)).filter (·.1 = s)
  /-- The packets that enter the outbound queue are made of messages, of each peer in the order in
  which they were handled and of each message once. -/
  entered : ∃ makers : List Handling, makers.map Handling.packet = (g.entries events).map some ∧
    ∀ s, (makers.filter (·.source = s)).Sublist ((g.handlings events).filter (·.source = s))
  /-- They are written as they entered. -/
  written : (g.run events).written <+: g.entries events

/-- No message of a peer overtakes another one, whatever lane the peer is given and however its lane
and the writer are delayed. -/
theorem run_orderly {c : Configuration} {transport : String} {reliable : Bool} {lanes : Nat}
    {route : Peer → Nat} (created : create c transport reliable lanes route = .ok g)
    (manned : 0 < lanes) (events : List Event) : Orderly g events := by
  have start : (∀ i, g.pipeline.lane i = {}) ∧ g.pipeline.lanes.length = lanes ∧ g.due = [] ∧
      g.written = [] ∧ g.plane.counters.queueFull = 0 := by
    unfold create at created
    split at created
    · cases created
    · split at created
      · cases created
      · obtain rfl := Except.ok.inj created
        refine ⟨fun i => ?_, by simp [Pipeline.create], rfl, rfl, rfl⟩
        by_cases inside : i < lanes <;> simp [Pipeline.create, Pipeline.lane, inside]
  obtain ⟨blank, width, due, written, uncounted⟩ := start
  have manned : 0 < g.pipeline.lanes.length := width ▸ manned
  have sorted : Sorted g := fun i m member => by simp [blank i] at member
  have holding : Holding g fun _ => [] := ⟨fun i => by simp [blank i], by simp⟩
  obtain ⟨sorted', queues⟩ := run_queues manned sorted events
  obtain ⟨makers, packets, order⟩ := run_enters manned sorted holding events
  obtain ⟨new, written', onward, -⟩ := g.run_writes events
  constructor
  · exact g.verdicts_messages events
  · rw [run_queueFull, uncounted, Nat.zero_add]
  · intro s
    have lane := congrArg (List.filter (·.1 = s)) (queues (g.laneOf s))
    rw [blank, List.nil_append, List.filter_append] at lane
    simp only [filter_inLane] at lane
    rwa [filter_queued (by rwa [run_lanes]) sorted' s, run_laneOf]
  · refine ⟨makers, packets, fun s => ?_⟩
    have lane := (order (g.laneOf s)).filter (·.source = s)
    rwa [List.nil_append, filter_inLane, filter_inLane] at lane
  · rw [written', written, List.nil_append]
    rwa [due, List.nil_append] at onward

/-- Two clients share a lane with room for two messages; one of them has joined and sends a datagram
twice. -/
def sharedLane : List Event :=
  let one := some (.relay "one")
  let request : JoinRequest := ⟨"secret", "group"⟩
  let datagram : Bytes := [0x45, 0, 0, 28, 0, 0, 0, 0, 64, 17, 0, 0, 10, 0, 0, 1, 93, 184, 216, 34,
    0x30, 0x39, 0, 53, 0, 8, 0, 0]
  [.receive true, .deliver one request.encode, .serve 0, .deliver (some (.relay "other")) datagram,
    .deliver one datagram, .deliver one datagram, .serve 0, .serve 0, .take, .wrote]

/-- The second datagram finds no room; the first one goes all the way. -/
theorem sharedLane_orderly :
    ∃ g, create { sharedSecret := "secret", queueSize := 2 } "relay" true 1 (fun _ => 0) = .ok g ∧
      Orderly g sharedLane ∧ (g.run sharedLane).plane.counters.queueFull = 1 ∧
      (g.handlings sharedLane).length = 3 ∧ (g.run sharedLane).written.length = 1 := by
  have created : create { sharedSecret := "secret", queueSize := 2 } "relay" true 1 (fun _ => 0) =
    .ok _ := rfl
  refine ⟨_, created, run_orderly created (by decide) sharedLane, ?_⟩
  decide +kernel

end Concentrator.Gateway
