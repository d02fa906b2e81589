import Concentrator.Gateway.Basic
import Mathlib.Data.List.Perm.Subperm

/-!
# What passes through the gateway

Messages wait in lanes until they are handled, and packets wait in lanes until
they enter the outbound queue. On either way nothing is made up and nothing
doubled: `run_messages` and `run_packets` count what goes in and what comes out.
-/

namespace Concentrator

variable {α : Type}

/-- What came out and what is left of a stock are no more than what was there and what went in, over
two stretches together if over each of them. -/
theorem subperm_chain {out out' stock stock' stock'' inward inward' : List α}
    (first : (out ++ stock').Subperm (stock ++ inward))
    (second : (out' ++ stock'').Subperm (stock' ++ inward')) :
    (out ++ out' ++ stock'').Subperm (stock ++ (inward ++ inward')) := by
  have extended := (List.subperm_append_left out).2 second
  rw [← List.append_assoc, ← List.append_assoc] at extended
  rw [← List.append_assoc]
  exact extended.trans ((List.subperm_append_right inward').2 first)

namespace Pipeline

/-- The messages that wait in lanes. -/
def queued (p : Pipeline) : List (Peer × Bytes) := p.lanes.flatMap Lane.queue

/-- The packets that lanes hold. -/
def held (p : Pipeline) : List Bytes := p.lanes.flatMap fun l => l.held.toList

/-- What messages and packets have made of one pipeline another one: messages that `arrived` in
lanes or were `taken` from them, packets that were `offered` and that `entered` the outbound
queue. -/
structure Moves (arrived taken : List (Peer × Bytes)) (offered entered : List Bytes)
    (p q : Pipeline) : Prop where
  queued : (taken ++ q.queued).Subperm (p.queued ++ arrived)
  held : (entered ++ q.held).Subperm (p.held ++ offered)
  outbound : q.outbound = p.outbound ++ entered ∨ entered = [] ∧ q.outbound <:+ p.outbound

variable {p q : Pipeline} {i : Nat} {l : Lane} {arrived taken : List (Peer × Bytes)}
  {offered entered : List Bytes}

/-- The packets that entered are those behind the ones that were there already. -/
theorem Moves.entered_eq (moves : Moves arrived taken offered entered p q) :
    entered = q.outbound.drop p.outbound.length := by
  rcases moves.outbound with grown | ⟨rfl, shrunk⟩
  · rw [grown, List.drop_left]
  · rw [List.drop_eq_nil_of_le shrunk.length_le]

/-- Moves that leave the lanes and the outbound queue as they are. -/
theorem moves_of_eq (lanes : q.lanes = p.lanes) (outbound : q.outbound = p.outbound) :
    Moves [] [] [] [] p q := by
  refine ⟨?_, ?_, .inl (by simp [outbound])⟩
  · simp [Pipeline.queued, lanes, List.Subperm.refl]
  · simp [Pipeline.held, lanes, List.Subperm.refl]

/-- What is turned away moves nothing. -/
theorem moves_ignored (p : Pipeline) : Moves arrived [] offered [] p p :=
  ⟨(List.sublist_append_left _ _).subperm, (List.sublist_append_left _ _).subperm, .inl (by simp)⟩

theorem Moves.trans {r : Pipeline} {offered' : List Bytes}
    (first : Moves [] taken offered [] p q) (same : q.outbound = p.outbound)
    (second : Moves [] [] offered' entered q r) :
    Moves [] taken (offered ++ offered') entered p r := by
  have queued := subperm_chain first.queued second.queued
  rw [List.append_nil] at queued
  exact ⟨queued, subperm_chain first.held second.held, same ▸ second.outbound⟩

/-- What all lanes have is in balance if what one lane has is. An empty lane stands for one that
does not exist. -/
theorem balanced {f : Lane → List α} (blank : f {} = []) {out inward : List α}
    (here : (out ++ f l).Subperm (f (p.lane i) ++ inward)) :
    (out ++ (p.lanes.set i l).flatMap f).Subperm (p.lanes.flatMap f ++ inward) := by
  unfold lane at here
  by_cases inside : i < p.lanes.length
  · have before := (List.getElem_cons_eraseIdx_perm inside).flatMap_right f
    have after := (List.set_perm_cons_eraseIdx inside l).flatMap_right f
    rw [List.flatMap_cons] at before after
    rw [List.getD_eq_getElem?_getD, List.getElem?_eq_getElem inside, Option.getD_some] at here
    have others := (List.subperm_append_right ((p.lanes.eraseIdx i).flatMap f)).2 here
    rw [List.append_assoc, List.append_assoc] at others
    have turned : (f p.lanes[i] ++ (inward ++ (p.lanes.eraseIdx i).flatMap f)).Perm
        (p.lanes.flatMap f ++ inward) := by
      refine (List.perm_append_comm.append_left _).trans ?_
      rw [← List.append_assoc]
      exact before.append_right inward
    exact ((after.append_left out).subperm.trans others).trans turned.subperm
  · rw [List.getD_eq_getElem?_getD, List.getElem?_eq_none (by omega), Option.getD_none, blank,
      List.nil_append] at here
    rw [List.set_eq_of_length_le (by omega)]
    have taken := (List.sublist_append_left out (f l)).subperm.trans here
    exact List.perm_append_comm.subperm.trans ((List.subperm_append_left _).2 taken)

/-- Moves through one lane. -/
theorem moves_of_set (lanes : q.lanes = p.lanes.set i l)
    (queue : (taken ++ l.queue).Subperm ((p.lane i).queue ++ arrived))
    (held : (entered ++ l.held.toList).Subperm ((p.lane i).held.toList ++ offered))
    (outbound : q.outbound = p.outbound ++ entered) : Moves arrived taken offered entered p q := by
  refine ⟨?_, ?_, .inl outbound⟩
  · rw [Pipeline.queued, lanes]
    exact balanced rfl queue
  · rw [Pipeline.held, lanes]
    exact balanced (f := fun l => l.held.toList) rfl held

theorem enqueue_moves (i : Nat) (message : Peer × Bytes) (p : Pipeline) :
    Moves [message] [] [] [] p (p.enqueue i message).1 := by
  unfold enqueue
  dsimp only
  split
  · exact moves_of_set rfl (.refl _) (by simp [List.Subperm.refl]) (by simp [setLane])
  · exact moves_ignored p

theorem dequeue_moves (i : Nat) (p : Pipeline) :
    Moves [] (p.dequeue i).2.toList [] [] p (p.dequeue i).1 := by
  unfold dequeue
  dsimp only
  split
  · rename_i message rest _ waiting
    exact moves_of_set rfl (by simp [waiting, List.Subperm.refl]) (by simp [List.Subperm.refl])
      (by simp [setLane])
  · exact moves_of_eq rfl rfl

theorem dequeue_outbound (i : Nat) (p : Pipeline) : (p.dequeue i).1.outbound = p.outbound := by
  unfold dequeue
  dsimp only
  split <;> rfl

theorem offer_moves (i : Nat) (packet : Bytes) (p : Pipeline) :
    ∃ entered, Moves [] [] [packet] entered p (p.offer i packet).1 := by
  unfold offer
  split
  · exact ⟨[], moves_ignored p⟩
  · split
    · exact ⟨[packet], by simp [Pipeline.queued, List.Subperm.refl],
        List.perm_append_comm.subperm, .inl rfl⟩
    · exact ⟨[], moves_of_set rfl (by simp [List.Subperm.refl])
        (List.sublist_append_right _ _).subperm (by simp [setLane])⟩

theorem release_moves (i : Nat) (p : Pipeline) :
    ∃ entered, Moves [] [] [] entered p (p.release i).1 := by
  unfold release
  dsimp only
  split
  · rename_i packet _ holds
    split
    · exact ⟨[], moves_of_set rfl (by simp [List.Subperm.refl]) (by simp) (by simp [setLane])⟩
    · exact ⟨[packet], moves_of_set rfl (by simp [List.Subperm.refl])
        (by simp [holds, List.Subperm.refl]) rfl⟩
  · exact ⟨[], moves_of_eq rfl rfl⟩

theorem take_moves (p : Pipeline) : Moves [] [] [] [] p p.take := by
  unfold take
  split
  · obtain ⟨queued, held, -⟩ := moves_of_eq (p := p) (q := p) rfl rfl
    exact ⟨queued, held, .inr ⟨rfl, List.drop_suffix _ _⟩⟩
  · exact moves_of_eq rfl rfl

theorem wrote_moves (p : Pipeline) : Moves [] [] [] [] p p.wrote.1 := by
  unfold wrote
  split <;> exact moves_of_eq rfl rfl

theorem abandon_moves (p : Pipeline) : Moves [] [] [] [] p p.abandon := by
  obtain ⟨queued, held, -⟩ := moves_of_eq (p := p) (q := p) rfl rfl
  exact ⟨queued, held, .inr ⟨rfl, List.nil_suffix⟩⟩

end Pipeline

namespace Gateway

/-- A message that is being handled, with the plane that handles it. -/
structure Handling where
  plane : Plane
  source : Peer
  payload : Bytes

namespace Handling

def message (h : Handling) : Peer × Bytes := (h.source, h.payload)

/-- The packet that the message is turned into, if any. -/
def packet (h : Handling) : Option Bytes := (h.plane.message h.source h.payload).2.packet

end Handling

/-- The message that comes in with an event. -/
def incoming : Event → List (Peer × Bytes)
  | .deliver (some source) payload => [(source, payload)]
  | _ => []

/-- The message that is handled in a step. -/
def handling (g : Gateway) : Event → List Handling
  | .serve i =>
    match (g.pipeline.dequeue i).2 with
    | some (source, payload) => [⟨g.plane, source, payload⟩]
    | none => []
  | _ => []

/-- The packets that a step puts behind those that are in the outbound queue. -/
def entering (g : Gateway) (e : Event) : List Bytes :=
  (g.step e).pipeline.outbound.drop g.pipeline.outbound.length

/-- The messages that are handled in a sequence of steps. -/
def handlings (g : Gateway) : List Event → List Handling
  | [] => []
  | e :: rest => g.handling e ++ (g.step e).handlings rest

/-- The packets that enter the outbound queue in a sequence of steps. -/
def entries (g : Gateway) : List Event → List Bytes
  | [] => []
  | e :: rest => g.entering e ++ (g.step e).entries rest

variable {g : Gateway}

theorem follow_pipeline (g : Gateway) (effect : Lifecycle.Effect) :
    (g.follow effect).pipeline = g.pipeline := by
  cases effect <;> rfl

/-- What outlasts every effect outlasts a step of the lifecycle. -/
theorem live_preserves {P : Gateway → Prop} (e : Lifecycle.Event)
    (first : P { g with lifecycle := (g.lifecycle.step g.plane.now e).1 })
    (each : ∀ h effect, P h → P (h.follow effect)) : P (g.live e) :=
  List.foldlRecOn _ follow first fun h holds effect _ => each h effect holds

theorem live_pipeline (g : Gateway) (e : Lifecycle.Event) :
    (g.live e).pipeline = g.pipeline :=
  live_preserves (P := fun h => h.pipeline = g.pipeline) e rfl
    fun h effect same => (follow_pipeline h effect).trans same

theorem counted_pipeline (g : Gateway) (o : Pipeline.Offer) :
    (g.counted o).pipeline = g.pipeline := by
  cases o <;> rfl

/-- What a step does to the pipeline. -/
theorem step_moves (g : Gateway) (e : Event) :
    Pipeline.Moves (incoming e) ((g.handling e).map Handling.message)
      ((g.handling e).filterMap Handling.packet) (g.entering e) g.pipeline (g.step e).pipeline := by
  -- the queue itself shows which packets entered, so the cases may name them as they like
  suffices moves : ∃ entered, Pipeline.Moves (incoming e) ((g.handling e).map Handling.message)
      ((g.handling e).filterMap Handling.packet) entered g.pipeline (g.step e).pipeline by
    obtain ⟨entered, moves⟩ := moves
    rwa [entering, ← moves.entered_eq]
  cases e with
  | deliver source payload =>
    cases source with
    | none => exact ⟨[], Pipeline.moves_of_eq rfl rfl⟩
    | some peer =>
      have moves := g.pipeline.enqueue_moves (g.laneOf peer) (peer, payload)
      simp only [step, deliver]
      rcases result : g.pipeline.enqueue (g.laneOf peer) (peer, payload) with ⟨pipeline, _ | _⟩
      · exact ⟨[], g.pipeline.moves_ignored⟩
      · rw [result] at moves
        exact ⟨[], moves⟩
  | serve i =>
    have taken := g.pipeline.dequeue_moves i
    have outbound := g.pipeline.dequeue_outbound i
    simp only [step, serve, handling]
    rcases result : g.pipeline.dequeue i with ⟨pipeline, _ | ⟨source, payload⟩⟩
    · exact ⟨[], Pipeline.moves_of_eq rfl rfl⟩
    · rw [result] at taken outbound
      rcases made : (g.plane.message source payload).2.packet with _ | packet
      · refine ⟨[], ?_⟩
        simp only [List.filterMap_cons, Handling.packet, made]
        exact taken
      · obtain ⟨entered, offered⟩ := pipeline.offer_moves i packet
        refine ⟨entered, ?_⟩
        simp only [List.filterMap_cons, Handling.packet, made, counted_pipeline]
        exact taken.trans outbound offered
  | release i =>
    obtain ⟨entered, moves⟩ := g.pipeline.release_moves i
    simp only [step, release]
    rcases result : g.pipeline.release i with ⟨pipeline, _ | o⟩
    · exact ⟨[], Pipeline.moves_of_eq rfl rfl⟩
    · rw [result] at moves
      refine ⟨entered, ?_⟩
      rw [counted_pipeline]
      exact moves
  | take => exact ⟨[], g.pipeline.take_moves⟩
  | wrote =>
    have moves := g.pipeline.wrote_moves
    simp only [step, wrote]
    rcases result : g.pipeline.wrote with ⟨pipeline, _ | packet⟩
    · exact ⟨[], Pipeline.moves_of_eq rfl rfl⟩
    · rw [result] at moves
      exact ⟨[], moves⟩
  | writeFailed reason =>
    simp only [step, writeFailed]
    split
    · refine ⟨[], ?_⟩
      rw [live_pipeline]
      exact g.pipeline.abandon_moves
    · exact ⟨[], Pipeline.moves_of_eq rfl rfl⟩
  | handle i =>
    simp only [step, handle]
    split <;> exact ⟨[], Pipeline.moves_of_eq rfl rfl⟩
  | live e =>
    refine ⟨[], ?_⟩
    rw [step, live_pipeline]
    exact Pipeline.moves_of_eq rfl rfl
  | receive enabled => exact ⟨[], Pipeline.moves_of_eq rfl rfl⟩
  | advance milliseconds => exact ⟨[], Pipeline.moves_of_eq rfl rfl⟩

/-- Every message that is handled came in before, each for itself. -/
theorem run_messages (g : Gateway) (events : List Event) :
    ((g.handlings events).map Handling.message ++ (g.run events).pipeline.queued).Subperm
      (g.pipeline.queued ++ events.flatMap incoming) := by
  induction events generalizing g with
  | nil => simp [handlings, run, List.Subperm.refl]
  | cons e rest ih =>
    rw [handlings, List.map_append, List.flatMap_cons]
    exact subperm_chain (g.step_moves e).queued (ih (g.step e))

/-- Every packet that enters the outbound queue was made of a message that was handled before, each
for itself. -/
theorem run_packets (g : Gateway) (events : List Event) :
    (g.entries events ++ (g.run events).pipeline.held).Subperm
      (g.pipeline.held ++ (g.handlings events).filterMap Handling.packet) := by
  induction events generalizing g with
  | nil => simp [handlings, entries, run, List.Subperm.refl]
  | cons e rest ih =>
    rw [handlings, entries, List.filterMap_append]
    exact subperm_chain (g.step_moves e).held (ih (g.step e))

end Gateway

end Concentrator
