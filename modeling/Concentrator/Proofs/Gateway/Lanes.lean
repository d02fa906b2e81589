import Concentrator.Proofs.Gateway.Passage

/-!
# Lanes

What each operation of the pipeline does, read off its result. An operation
touches one lane, and what all lanes have is what that one has with something in
front of it and something behind it.
-/

namespace Concentrator

namespace Pipeline

variable {α : Type} {p q : Pipeline} {i : Nat} {message : Peer × Bytes} {o : Offer}

theorem lane_eq_getElem (inside : i < p.lanes.length) : p.lane i = p.lanes[i] := by
  simp [lane, inside]

theorem inside_of_ne (used : p.lane i ≠ {}) : i < p.lanes.length := by
  refine Nat.lt_of_not_le fun outside => used ?_
  simp [lane, List.getElem?_eq_none outside]

/-- What is found in front of a lane and behind it belongs to the other lanes, and stays there. -/
theorem flatMap_around (f : Lane → List α) (inside : i < p.lanes.length) :
    ∃ front back, p.lanes.flatMap f = front ++ f (p.lane i) ++ back ∧
      (∀ l, (p.setLane i l).lanes.flatMap f = front ++ f l ++ back) ∧
      ∀ a ∈ front ++ back, ∃ j, j ≠ i ∧ a ∈ f (p.lane j) := by
  have split : p.lanes = p.lanes.take i ++ p.lane i :: p.lanes.drop (i + 1) := by
    rw [lane_eq_getElem inside, List.getElem_cons_drop, List.take_append_drop]
  refine ⟨(p.lanes.take i).flatMap f, (p.lanes.drop (i + 1)).flatMap f, ?_, fun l => ?_, ?_⟩
  · calc p.lanes.flatMap f
        = (p.lanes.take i ++ p.lane i :: p.lanes.drop (i + 1)).flatMap f := by rw [← split]
      _ = _ := by simp
  · rw [setLane, List.set_eq_take_append_cons_drop, if_pos inside]
    simp
  · intro a member
    rw [List.mem_append, List.mem_flatMap, List.mem_flatMap] at member
    rcases member with ⟨l, before, has⟩ | ⟨l, after, has⟩
    · obtain ⟨j, bound, rfl⟩ := List.mem_take_iff_getElem.1 before
      refine ⟨j, by omega, ?_⟩
      rwa [lane_eq_getElem (by omega)]
    · obtain ⟨j, bound, rfl⟩ := List.mem_drop_iff_getElem.1 after
      refine ⟨i + 1 + j, by omega, ?_⟩
      rwa [lane_eq_getElem (by omega)]

theorem lane_setLane (inside : i < p.lanes.length) (l : Lane) (j : Nat) :
    (p.setLane i l).lane j = if j = i then l else p.lane j := by
  by_cases same : j = i
  · subst same
    simp [lane, setLane, inside]
  · have other : i ≠ j := fun back => same back.symm
    simp [lane, setLane, same, List.getElem?_set_ne other]

/-! ### Operations -/

theorem enqueue_cases (i : Nat) (message : Peer × Bytes) (p : Pipeline) :
    p.enqueue i message =
        (p.setLane i { p.lane i with queue := (p.lane i).queue ++ [message] }, true) ∨
      p.enqueue i message = (p, false) := by
  unfold enqueue
  dsimp only
  split
  · exact .inl rfl
  · exact .inr rfl

theorem dequeue_some (taken : p.dequeue i = (q, some message)) :
    ∃ rest, (p.lane i).held = none ∧ (p.lane i).queue = message :: rest ∧
      q = p.setLane i { queue := rest } := by
  unfold dequeue at taken
  dsimp only at taken
  split at taken
  · rename_i first rest free waiting
    obtain ⟨rfl, same⟩ := Prod.mk.inj taken
    obtain rfl := Option.some.inj same
    exact ⟨rest, free, waiting, by rw [free]⟩
  · cases taken

theorem dequeue_inside (taken : p.dequeue i = (q, some message)) : i < p.lanes.length := by
  obtain ⟨rest, -, waiting, -⟩ := dequeue_some taken
  refine inside_of_ne fun empty => ?_
  rw [empty] at waiting
  cases waiting

theorem offer_cases (i : Nat) (packet : Bytes) (p : Pipeline) :
    p.writer = none ∧ p.offer i packet = (p, .refused) ∨
      p.writer ≠ none ∧ p.offer i packet =
        ({ p with outbound := p.outbound ++ [packet] }, .entered) ∨
      p.writer ≠ none ∧ p.offer i packet =
        ({ p.setLane i { p.lane i with held := some packet } with
          waiting := p.waiting ++ [i] }, .waits) := by
  unfold offer
  cases p.writer with
  | none => exact .inl ⟨rfl, rfl⟩
  | some batch =>
    refine .inr ?_
    split
    · rename_i gone
      cases gone
    · split
      · exact .inl ⟨Option.some_ne_none _, rfl⟩
      · exact .inr ⟨Option.some_ne_none _, rfl⟩

theorem release_some (released : p.release i = (q, some o)) :
    ∃ packet, (p.lane i).held = some packet ∧
      (p.writer = none ∧ o = .refused ∧
          q = { p.setLane i { p.lane i with held := none } with waiting := p.waiting.erase i } ∨
        p.writer ≠ none ∧ o = .entered ∧
          q = { p.setLane i { p.lane i with held := none } with
            waiting := p.waiting.erase i, outbound := p.outbound ++ [packet] }) := by
  unfold release at released
  dsimp only at released
  split at released
  · rename_i packet may holds
    refine ⟨packet, holds, ?_⟩
    cases writer : p.writer with
    | none =>
      simp only [writer, Option.isNone_none, if_true, Prod.mk.injEq, Option.some.injEq] at released
      exact .inl ⟨rfl, released.2.symm, released.1.symm⟩
    | some batch =>
      simp only [writer, Option.isNone_some, Bool.false_eq_true, if_false, Prod.mk.injEq,
        Option.some.injEq] at released
      exact .inr ⟨Option.some_ne_none _, released.2.symm, released.1.symm⟩
  · cases released

theorem release_inside (released : p.release i = (q, some o)) : i < p.lanes.length := by
  obtain ⟨packet, holds, -⟩ := release_some released
  refine inside_of_ne fun empty => ?_
  rw [empty] at holds
  cases holds

theorem lane_congr (lanes : q.lanes = p.lanes) (i : Nat) : q.lane i = p.lane i := by
  rw [lane, lane, lanes]

theorem offer_lane (inside : i < p.lanes.length) (packet : Bytes) (j : Nat) :
    (p.offer i packet).1.lane j =
      if j = i ∧ (p.offer i packet).2 = .waits then { p.lane i with held := some packet }
      else p.lane j := by
  rcases p.offer_cases i packet with ⟨-, gone⟩ | ⟨-, room⟩ | ⟨-, full⟩
  · rw [gone, if_neg (by simp)]
  · rw [room, if_neg (by simp)]
    rfl
  · rw [full]
    simp only [and_true]
    exact lane_setLane inside _ j

theorem release_lane (released : p.release i = (q, some o)) (j : Nat) :
    q.lane j = if j = i then { p.lane i with held := none } else p.lane j := by
  have inside := release_inside released
  rw [← lane_setLane inside]
  obtain ⟨packet, -, ⟨-, -, rfl⟩ | ⟨-, -, rfl⟩⟩ := release_some released <;> rfl

theorem enqueue_lanes (i : Nat) (message : Peer × Bytes) (p : Pipeline) :
    (p.enqueue i message).1.lanes.length = p.lanes.length := by
  rcases p.enqueue_cases i message with room | full
  · rw [room]
    simp [setLane]
  · rw [full]

theorem dequeue_lanes (taken : p.dequeue i = (q, some message)) :
    q.lanes.length = p.lanes.length := by
  obtain ⟨rest, -, -, rfl⟩ := dequeue_some taken
  simp [setLane]

theorem offer_lanes (i : Nat) (packet : Bytes) (p : Pipeline) :
    (p.offer i packet).1.lanes.length = p.lanes.length := by
  rcases p.offer_cases i packet with ⟨-, gone⟩ | ⟨-, room⟩ | ⟨-, full⟩
  · rw [gone]
  · rw [room]
  · rw [full]
    simp [setLane]

theorem release_lanes (released : p.release i = (q, some o)) :
    q.lanes.length = p.lanes.length := by
  obtain ⟨packet, -, ⟨-, -, rfl⟩ | ⟨-, -, rfl⟩⟩ := release_some released <;> simp [setLane]

/-- What is offered can only come behind the packets that are in the outbound queue. -/
theorem offer_outbound (i : Nat) (packet : Bytes) (p : Pipeline) :
    (p.offer i packet).1.writer = p.writer ∧
      ∃ entered, (p.offer i packet).1.outbound = p.outbound ++ entered := by
  rcases p.offer_cases i packet with ⟨-, gone⟩ | ⟨-, room⟩ | ⟨-, full⟩
  · rw [gone]
    exact ⟨rfl, [], (List.append_nil _).symm⟩
  · rw [room]
    exact ⟨rfl, [packet], rfl⟩
  · rw [full]
    exact ⟨rfl, [], (List.append_nil _).symm⟩

theorem take_lanes (p : Pipeline) : p.take.lanes = p.lanes := by
  unfold take
  split <;> rfl

theorem wrote_lanes (p : Pipeline) : p.wrote.1.lanes = p.lanes := by
  unfold wrote
  split <;> rfl

end Pipeline

/-! ### Lanes of the gateway -/

namespace Gateway

variable {g : Gateway} {q : Pipeline} {i : Nat} {source : Peer} {payload packet : Bytes}

theorem serve_of_none (idle : (g.pipeline.dequeue i).2 = none) : g.serve i = g := by
  unfold serve
  split
  · rfl
  · rename_i taken
    rw [taken] at idle
    cases idle

theorem serve_of_none_made (taken : g.pipeline.dequeue i = (q, some (source, payload)))
    (made : (g.plane.message source payload).2.packet = none) :
    g.serve i = { g with pipeline := q }.react (g.plane.message source payload) := by
  simp only [serve, taken, made]

theorem serve_of_made (taken : g.pipeline.dequeue i = (q, some (source, payload)))
    (made : (g.plane.message source payload).2.packet = some packet) :
    g.serve i = counted (q.offer i packet).2
      { { g with pipeline := q }.react (g.plane.message source payload) with
        pipeline := (q.offer i packet).1 } := by
  simp only [serve, taken, made]
  rfl

theorem counted_route (g : Gateway) (o : Pipeline.Offer) : (g.counted o).route = g.route := by
  cases o <;> rfl

theorem live_route (g : Gateway) (e : Lifecycle.Event) : (g.live e).route = g.route :=
  live_preserves (P := fun h => h.route = g.route) e rfl
    fun _ effect same => by cases effect <;> exact same

/-- Events that may put something into a lane or take something out. -/
def shifts : Event → Bool
  | .deliver _ _ | .serve _ | .release _ => true
  | _ => false

theorem handling_of_still (g : Gateway) {e : Event} (still : shifts e = false) :
    g.handling e = [] := by
  cases e with
  | serve i => cases still
  | _ => rfl

theorem lanes_of_still (g : Gateway) {e : Event} (still : shifts e = false) :
    (g.step e).pipeline.lanes = g.pipeline.lanes := by
  cases e with
  | deliver source payload => cases still
  | serve i => cases still
  | release i => cases still
  | take => exact g.pipeline.take_lanes
  | wrote =>
    have lanes := g.pipeline.wrote_lanes
    simp only [step, wrote]
    split <;> rename_i result
    · rw [← lanes, result]
    · rfl
  | writeFailed reason =>
    simp only [step, writeFailed]
    split
    · rw [live_pipeline]
      rfl
    · rfl
  | handle i =>
    simp only [step, handle]
    split <;> rfl
  | live e => rw [step, live_pipeline]
  | receive enabled => rfl
  | advance milliseconds => rfl

theorem step_lanes (g : Gateway) (e : Event) :
    (g.step e).pipeline.lanes.length = g.pipeline.lanes.length := by
  cases e with
  | deliver source payload =>
    cases source with
    | none => rfl
    | some peer =>
      have lanes := g.pipeline.enqueue_lanes (g.laneOf peer) (peer, payload)
      simp only [step, deliver]
      rcases result : g.pipeline.enqueue (g.laneOf peer) (peer, payload) with ⟨q, _ | _⟩
      · rfl
      · rw [result] at lanes
        exact lanes
  | serve i =>
    rw [step]
    rcases taken : g.pipeline.dequeue i with ⟨q, _ | ⟨source, payload⟩⟩
    · rw [serve_of_none (by rw [taken])]
    · have lanes := Pipeline.dequeue_lanes taken
      cases made : (g.plane.message source payload).2.packet with
      | none =>
        rw [serve_of_none_made taken made]
        exact lanes
      | some packet =>
        rw [serve_of_made taken made, counted_pipeline]
        exact (q.offer_lanes i packet).trans lanes
  | release i =>
    simp only [step, release]
    rcases released : g.pipeline.release i with ⟨q, _ | o⟩
    · rfl
    · rw [counted_pipeline]
      exact Pipeline.release_lanes released
  | _ => exact congrArg List.length (g.lanes_of_still rfl)

theorem step_route (g : Gateway) (e : Event) : (g.step e).route = g.route := by
  cases e with
  | deliver source payload =>
    simp only [step, deliver]
    split
    · rfl
    · split <;> rfl
  | serve i =>
    simp only [step, serve]
    split
    · rfl
    · split
      · rfl
      · exact counted_route _ _
  | release i =>
    simp only [step, release]
    split
    · rfl
    · exact counted_route _ _
  | wrote =>
    simp only [step, wrote]
    split <;> rfl
  | writeFailed reason =>
    simp only [step, writeFailed]
    split
    · exact live_route _ _
    · rfl
  | handle i =>
    simp only [step, handle]
    split <;> rfl
  | live e => exact g.live_route e
  | _ => rfl

/-- Peers keep their lanes. -/
theorem step_laneOf (g : Gateway) (e : Event) (peer : Peer) :
    (g.step e).laneOf peer = g.laneOf peer := by
  rw [laneOf, laneOf, step_lanes, step_route]

end Gateway

end Concentrator
