import Concentrator.Transport.MessageRelay
import Mathlib.Data.List.Nodup

/-!
# Starts that overlap

A start ends the connection in the slot when it begins and puts its own one there
when it is done. If another start has put one there meanwhile, that one is pushed
out but goes on being read. `run_forgotten` bounds how many such connections
there are; without starts that overlap there are none, and only the connection in
the slot is heard.
-/

namespace Concentrator.MessageRelay

variable {m : MessageRelay} {call now : Nat} {e : Event} {c : Connection} {a : Attempt}

/-- The connections that are read but not in the slot. -/
def forgotten (m : MessageRelay) : Nat :=
  m.connections.countP fun c => ¬ c.cancelled ∧ m.slot ≠ some c.call

/-- A start begins while another one is under way. -/
def overlaps (m : MessageRelay) : Event → Bool
  | .start => m.attempts ≠ []
  | _ => false

/-- How many starts of a run begin while another one is under way. -/
def overlapsIn (m : MessageRelay) : List (Nat × Event) → Nat
  | [] => 0
  | (now, e) :: rest => (m.overlaps e).toNat + (m.step now e).1.overlapsIn rest

/-- No two attempts or connections have the same number, and none a number that is still to come. -/
structure Numbered (m : MessageRelay) : Prop where
  distinct : (m.attempts.map Attempt.call ++ m.connections.map Connection.call).Nodup
  counted : ∀ call ∈ m.attempts.map Attempt.call ++ m.connections.map Connection.call,
    call ≤ m.calls

theorem Numbered.mono {m' : MessageRelay} (numbered : Numbered m)
    (attempts : (m'.attempts.map Attempt.call).Sublist (m.attempts.map Attempt.call))
    (connections : (m'.connections.map Connection.call).Sublist
      (m.connections.map Connection.call)) (calls : m'.calls = m.calls) : Numbered m' := by
  have fewer := attempts.append connections
  exact ⟨numbered.distinct.sublist fewer,
    fun call member => calls ▸ numbered.counted call (fewer.subset member)⟩

theorem Numbered.congr {m' : MessageRelay} (numbered : Numbered m)
    (attempts : m'.attempts.map Attempt.call = m.attempts.map Attempt.call)
    (connections : m'.connections.map Connection.call = m.connections.map Connection.call)
    (calls : m'.calls = m.calls) : Numbered m' := by
  obtain ⟨distinct, counted⟩ := numbered
  constructor
  · rwa [attempts, connections]
  · rwa [attempts, connections, calls]

theorem map_call_update {f : Connection → Connection} (same : ∀ c, (f c).call = c.call) :
    (m.update call f).connections.map Connection.call = m.connections.map Connection.call := by
  rw [update, List.map_map]
  refine List.map_congr_left fun c _ => ?_
  by_cases here : c.call = call <;> simp [here, same]

theorem Numbered.update {f : Connection → Connection} (numbered : Numbered m)
    (same : ∀ c, (f c).call = c.call) : Numbered (m.update call f) :=
  numbered.congr rfl (map_call_update same) rfl

/-! ### Steps -/

/-- Attempts and the connection in the slot can push out one another, all but the last, so one less
than this is what can come to be forgotten. -/
def exposure (m : MessageRelay) : Nat :=
  m.forgotten + max (m.attempts.length + m.slot.toList.length) 1

/-- A connection that is read is in the slot or forgotten. -/
theorem read_le_forgotten (numbered : Numbered m) :
    m.connections.countP (fun c => ¬ c.cancelled) ≤ m.forgotten + m.slot.toList.length := by
  rw [List.countP_eq_countP_filter_add _ _ fun c => m.slot ≠ some c.call, List.countP_filter,
    List.countP_filter]
  refine Nat.add_le_add (Nat.le_of_eq (by simp [forgotten])) ?_
  cases slot : m.slot with
  | none => simp
  | some call =>
    have once : (m.connections.map Connection.call).count call ≤ 1 :=
      List.nodup_iff_count_le_one.1 (List.nodup_append.1 numbered.distinct).2.1 call
    rw [List.count, List.countP_map] at once
    refine Nat.le_trans (List.countP_mono_left fun c _ here => ?_) once
    simp only [ne_eq, Option.some.injEq, decide_not, Bool.not_not, Bool.and_eq_true,
      decide_eq_true_eq] at here
    simp [here.2]

/-- Nothing new is exposed. -/
structure Milder (m m' : MessageRelay) : Prop where
  numbered : Numbered m'
  exposure : m'.exposure ≤ m.exposure

theorem milder_of_le {m' : MessageRelay} (numbered : Numbered m')
    (forgotten : m'.forgotten ≤ m.forgotten) (attempts : m'.attempts.length ≤ m.attempts.length)
    (slot : m'.slot.toList.length ≤ m.slot.toList.length) : Milder m m' := by
  refine ⟨numbered, ?_⟩
  simp only [exposure]
  omega

theorem Milder.refl (numbered : Numbered m) : Milder m m :=
  ⟨numbered, Nat.le_refl _⟩

theorem update_milder {f : Connection → Connection} (numbered : Numbered m)
    (same : ∀ c, (f c).call = c.call) (ended : ∀ c, c.cancelled → (f c).cancelled) :
    Milder m (m.update call f) := by
  refine milder_of_le (numbered.update same) ?_ (Nat.le_refl _) (Nat.le_refl _)
  rw [forgotten, update, List.countP_map]
  refine List.countP_mono_left fun c _ read => ?_
  by_cases here : c.call = call
  · cases cancelled : c.cancelled with
    | true => simp [here, ended c cancelled] at read
    | false =>
      simp only [here, Function.comp_apply, if_true, same, decide_eq_true_eq] at read
      simp [here, read.2]
  · simpa [here] using read

theorem fail_milder (numbered : Numbered m) (call : Nat) (notices : List Notice) :
    Milder m (m.fail call notices).1 := by
  refine milder_of_le (numbered.mono ?_ (.refl _) rfl) (Nat.le_refl _) ?_ (Nat.le_refl _)
  · exact List.filter_sublist.map _
  · exact List.filter_sublist.length_le

theorem stop_milder (numbered : Numbered m) : Milder m m.stop.1 ∧ m.stop.1.slot = none := by
  unfold stop
  cases slot : m.slot with
  | none => exact ⟨.refl numbered, slot⟩
  | some call =>
    refine ⟨milder_of_le ?_ ?_ (Nat.le_refl _) (by simp), rfl⟩
    · exact numbered.congr rfl (map_call_update fun _ => rfl) rfl
    · simp only [forgotten, update, List.countP_map]
      refine List.countP_mono_left fun c _ read => ?_
      by_cases here : c.call = call
      · simp [here] at read
      · have other : ¬ call = c.call := fun back => here back.symm
        simpa [here, slot, other] using read

theorem stop_attempts (m : MessageRelay) :
    m.stop.1.attempts = m.attempts ∧ m.stop.1.calls = m.calls := by
  unfold stop
  split <;> exact ⟨rfl, rfl⟩

theorem start_numbered (numbered : Numbered m) (now : Nat) : Numbered (m.start now).1 := by
  obtain ⟨⟨⟨distinct, counted⟩, -⟩, -⟩ := stop_milder numbered
  have calls := m.stop_attempts.2
  have fresh : m.calls + 1 ∉
      m.stop.1.attempts.map Attempt.call ++ m.stop.1.connections.map Connection.call := by
    intro member
    have old := counted _ member
    omega
  have turned : ((m.stop.1.attempts.map Attempt.call ++ [m.calls + 1]) ++
      m.stop.1.connections.map Connection.call).Perm ((m.calls + 1) ::
        (m.stop.1.attempts.map Attempt.call ++ m.stop.1.connections.map Connection.call)) := by
    rw [List.append_assoc]
    exact List.perm_middle
  simp only [start]
  constructor
  · rw [calls, List.map_append]
    exact turned.nodup_iff.2 (List.nodup_cons.2 ⟨fresh, distinct⟩)
  · intro call member
    rw [calls] at member ⊢
    rw [List.map_append] at member
    rcases List.mem_cons.1 (turned.mem_iff.1 member) with rfl | old
    · exact Nat.le_refl _
    · exact Nat.le_succ_of_le (calls ▸ counted call old)

theorem start_exposure (numbered : Numbered m) (now : Nat) :
    (m.start now).1.exposure ≤ m.exposure + (m.overlaps .start).toNat := by
  obtain ⟨milder, vacant⟩ := stop_milder numbered
  have attempts := m.stop_attempts.1
  have stopped : m.stop.1.exposure = m.stop.1.forgotten + max m.attempts.length 1 := by
    simp [exposure, vacant, attempts]
  have started : (m.start now).1.exposure =
      m.stop.1.forgotten + max (m.attempts.length + 1) 1 := by
    simp [start, exposure, forgotten, vacant, attempts]
  have overlap : (m.overlaps .start).toNat = if m.attempts.length = 0 then 0 else 1 := by
    cases under : m.attempts <;> simp [overlaps, under]
  have before := milder.exposure
  rw [stopped] at before
  rw [started, overlap]
  split <;> omega

theorem succeed_numbered (numbered : Numbered m) (under : m.attempt? call = some a) :
    Numbered (m.succeed call).1 := by
  obtain ⟨distinct, counted⟩ := numbered
  have found : a.call = call := by simpa using List.find?_some under
  have member : call ∈ m.attempts.map Attempt.call :=
    List.mem_map.2 ⟨a, List.mem_of_find?_eq_some under, found⟩
  -- the number only moves from the attempts to the connections
  have moved : ((m.succeed call).1.attempts.map Attempt.call ++
      (m.succeed call).1.connections.map Connection.call).Perm
        (m.attempts.map Attempt.call ++ m.connections.map Connection.call) := by
    have rest : (m.succeed call).1.attempts.map Attempt.call =
        (m.attempts.map Attempt.call).erase call := by
      rw [(List.nodup_append.1 distinct).1.erase_eq_filter, List.filter_map]
      refine congrArg (List.map Attempt.call) (List.filter_congr fun b _ => ?_)
      by_cases here : b.call = call <;> simp [here]
    have joined : (m.succeed call).1.connections.map Connection.call =
        m.connections.map Connection.call ++ [call] := by
      simp [succeed]
    rw [rest, joined, ← List.append_assoc]
    refine (List.perm_append_singleton _ _).trans ?_
    exact ((List.perm_cons_erase member).symm.append_right _)
  exact ⟨moved.nodup_iff.2 distinct, fun call member => counted call (moved.mem_iff.1 member)⟩

theorem succeed_exposure (numbered : Numbered m) (under : m.attempt? call = some a) :
    (m.succeed call).1.exposure ≤ m.exposure := by
  have found : a.call = call := by simpa using List.find?_some under
  have fewer : (m.dropAttempt call).attempts.length < m.attempts.length :=
    List.length_filter_lt_length_iff_exists.2
      ⟨a, List.mem_of_find?_eq_some under, by simp [found]⟩
  have read := read_le_forgotten numbered
  have out : (m.succeed call).1.forgotten ≤ m.connections.countP fun c => ¬ c.cancelled := by
    simp only [succeed, forgotten, List.countP_append, List.countP_singleton]
    simp only [ne_eq, not_true, and_false, decide_false, Bool.false_eq_true, if_false, Nat.add_zero]
    refine List.countP_mono_left fun c _ here => ?_
    exact decide_eq_true (of_decide_eq_true here).1
  have slot : (m.succeed call).1.slot = some call := rfl
  have attempts : (m.succeed call).1.attempts = (m.dropAttempt call).attempts := rfl
  simp only [exposure, slot, attempts, Option.toList_some, List.length_singleton]
  omega

theorem answered_milder (numbered : Numbered m) (under : m.attempt? call = some a)
    (i : Incoming) : Milder m (m.answered call i).1 := by
  have fails (notices : List Notice) := fail_milder numbered call notices
  have succeeds := Milder.mk (succeed_numbered numbered under) (succeed_exposure numbered under)
  unfold answered
  dsimp only
  split
  · exact .refl numbered
  · split
    · exact succeeds
    · exact fails _
    · exact fails _
    · exact .refl numbered
  · exact fails _

theorem lose_milder (numbered : Numbered m) (call : Nat) (notices : List Notice) :
    Milder m (m.lose call notices).1 :=
  update_milder numbered (fun _ => rfl) fun _ _ => rfl

theorem arrive_milder (numbered : Numbered m) (call : Nat) (i : Incoming) :
    Milder m (m.arrive call i).1 := by
  unfold arrive
  split
  · rename_i under
    exact answered_milder numbered under i
  · exact .refl numbered
  · split
    · split
      · exact .refl numbered
      · cases i with
        | text s => exact .refl numbered
        | blank => exact .refl numbered
        | _ => exact lose_milder numbered call _
    · exact .refl numbered

theorem write_milder (numbered : Numbered m) (call : Nat) : Milder m (m.write call).1 := by
  unfold write
  split
  · exact .refl numbered
  · split
    · refine milder_of_le (numbered.mono (.refl _) (List.filter_sublist.map _) rfl) ?_
        (Nat.le_refl _) (Nat.le_refl _)
      exact List.filter_sublist.countP_le
    · split
      · exact update_milder numbered (fun _ => rfl) fun _ cancelled => cancelled
      · split
        · exact .refl numbered
        · exact update_milder numbered (fun _ => rfl) fun _ cancelled => cancelled

theorem connected_milder (numbered : Numbered m) (now call : Nat) (password : String) :
    Milder m (m.connected now call password).1 := by
  unfold connected
  split
  · refine milder_of_le (numbered.congr ?_ rfl rfl) (Nat.le_refl _) (by simp) (Nat.le_refl _)
    rw [List.map_map]
    refine List.map_congr_left fun a _ => ?_
    by_cases here : a.call = call <;> simp [here]
  · exact .refl numbered

/-- Only a start that overlaps with another one exposes a connection more. -/
theorem step_exposure (numbered : Numbered m) (now : Nat) (e : Event) :
    Numbered (m.step now e).1 ∧
      (m.step now e).1.exposure ≤ m.exposure + (m.overlaps e).toNat := by
  have mild (m' : MessageRelay) (milder : Milder m m') :
      Numbered m' ∧ m'.exposure ≤ m.exposure + (m.overlaps e).toNat :=
    ⟨milder.numbered, Nat.le_add_right_of_le milder.exposure⟩
  cases e with
  | start => exact ⟨start_numbered numbered now, start_exposure numbered now⟩
  | stop => exact mild _ (stop_milder numbered).1
  | listen on => exact mild _ ⟨⟨numbered.distinct, numbered.counted⟩, Nat.le_refl _⟩
  | send destination payload =>
    refine mild _ ?_
    simp only [step, send]
    split
    · split
      · exact .refl numbered
      · split
        · exact .refl numbered
        · exact update_milder numbered (fun _ => rfl) fun _ cancelled => cancelled
    · exact .refl numbered
  | connected call password => exact mild _ (connected_milder numbered now call password)
  | connectFails call reason =>
    refine mild _ ?_
    simp only [step]
    split
    · exact fail_milder numbered call _
    · exact .refl numbered
  | expire call =>
    refine mild _ ?_
    simp only [step, expire]
    split
    · split
      · exact .refl numbered
      · split <;> exact fail_milder numbered call _
    · exact .refl numbered
  | arrive call i => exact mild _ (arrive_milder numbered call i)
  | write call => exact mild _ (write_milder numbered call)

theorem run_exposure (numbered : Numbered m) (events : List (Nat × Event)) :
    Numbered (m.run events).1 ∧ (m.run events).1.exposure ≤ m.exposure + m.overlapsIn events := by
  induction events generalizing m with
  | nil => exact ⟨numbered, Nat.le_refl _⟩
  | cons event rest ih =>
    obtain ⟨now, e⟩ := event
    obtain ⟨numbered', here⟩ := step_exposure numbered now e
    obtain ⟨numbered'', later⟩ := ih numbered'
    refine ⟨numbered'', ?_⟩
    have both : m.overlapsIn ((now, e) :: rest) =
        (m.overlaps e).toNat + (m.step now e).1.overlapsIn rest := rfl
    change ((m.step now e).1.run rest).1.exposure ≤ _
    omega

/-! ### Who is heard -/

/-- The listener hears of a connection. -/
def heard : Effect → Bool
  | .deliver _ _ | .closed => true
  | _ => false

theorem any_heard_notices (notices : List Notice) :
    (notices.map Effect.notice).any heard = false := by
  simp [heard]

theorem stop_unheard (m : MessageRelay) : m.stop.2.any heard = false := by
  unfold stop
  split <;> rfl

theorem fail_unheard (m : MessageRelay) (call : Nat) (notices : List Notice) :
    (m.fail call notices).2.any heard = false := by
  rw [fail, List.any_append, any_heard_notices]
  rfl

theorem answered_unheard (m : MessageRelay) (call : Nat) (i : Incoming) :
    (m.answered call i).2.any heard = false := by
  unfold answered
  dsimp only
  split
  · rfl
  · split
    · rfl
    · exact m.fail_unheard call _
    · exact m.fail_unheard call _
    · rfl
  · exact m.fail_unheard call _

/-- Only of connections that are read anything is heard. -/
theorem read_of_heard (now : Nat) (e : Event) (hears : (m.step now e).2.any heard = true) :
    ∃ call i, e = .arrive call i ∧ ∃ c ∈ m.connections, c.call = call ∧ c.cancelled = false := by
  have nothing (unheard : (m.step now e).2.any heard = false) : False := by
    rw [unheard] at hears
    cases hears
  cases e with
  | start =>
    refine (nothing ?_).elim
    simp only [step, start, List.any_append, m.stop_unheard]
    rfl
  | stop => exact (nothing m.stop_unheard).elim
  | listen on => cases hears
  | send destination payload =>
    refine (nothing ?_).elim
    simp only [step, send]
    split
    · split
      · rfl
      · split <;> rfl
    · rfl
  | connected call password =>
    refine (nothing ?_).elim
    simp only [step, connected]
    split <;> rfl
  | connectFails call reason =>
    refine (nothing ?_).elim
    simp only [step]
    split
    · exact m.fail_unheard call _
    · rfl
  | expire call =>
    refine (nothing ?_).elim
    simp only [step, expire]
    split
    · split
      · rfl
      · split <;> exact m.fail_unheard call _
    · rfl
  | write call =>
    refine (nothing ?_).elim
    simp only [step, write]
    split
    · rfl
    · split
      · split <;> rfl
      · split
        · rfl
        · split <;> rfl
  | arrive call i =>
    refine ⟨call, i, rfl, ?_⟩
    simp only [step, arrive] at hears
    split at hears
    · rw [m.answered_unheard] at hears
      cases hears
    · cases hears
    · split at hears
      · rename_i c found
        split at hears
        · cases hears
        · rename_i going
          have same : c.call = call := by simpa using List.find?_some found
          exact ⟨c, List.mem_of_find?_eq_some found, same, Bool.eq_false_iff.2 going⟩
      · cases hears

/-- At most as many connections are read without being in the slot as there were starts that
overlapped. If there were none, only the connection in the slot is heard, and none after a stop. -/
theorem run_forgotten (url id : String) (events : List (Nat × Event)) :
    let m := (run { url, id } events).1
    let overlaps := overlapsIn { url, id } events
    m.forgotten ≤ overlaps ∧
      m.connections.countP (fun c => ¬ c.cancelled) ≤ overlaps + m.slot.toList.length ∧
      (overlaps = 0 → ∀ now e, (m.step now e).2.any heard = true →
        ∃ call i, e = .arrive call i ∧ m.slot = some call) := by
  intro m overlaps
  have initial : Numbered { url, id } := ⟨List.nodup_nil, by simp⟩
  obtain ⟨numbered, exposed⟩ := run_exposure initial events
  have blank : exposure { url, id } = 1 := rfl
  have few : m.forgotten ≤ overlaps := by
    rw [blank, exposure] at exposed
    change (run { url, id } events).1.forgotten ≤ overlapsIn { url, id } events
    omega
  refine ⟨few, ?_, fun none now e hears => ?_⟩
  · exact Nat.le_trans (read_le_forgotten numbered) (Nat.add_le_add_right few _)
  · obtain ⟨call, i, rfl, c, member, rfl, read⟩ := read_of_heard now e hears
    refine ⟨c.call, i, rfl, Decidable.of_not_not fun out => ?_⟩
    have zero : m.forgotten = 0 := by omega
    have counted := List.countP_eq_zero.1 zero c member
    exact counted (by simp [read, out])

/-- Of two starts that overlap the second one pushes out the connection of the first, which is still
read and whose end is reported as if it were that of the connection in the slot. -/
example :
    let both : List (Nat × Event) := [(0, .listen true), (0, .start), (0, .start),
      (0, .connected 1 ""), (0, .connected 2 ""), (0, .arrive 1 (.text "\x7b\"auth\":\"OK\"\x7d")),
      (0, .arrive 2 (.text "\x7b\"auth\":\"OK\"\x7d"))]
    let m := (run { url := "", id := "" } both).1
    m.slot = some 2 ∧ m.forgotten = 1 ∧ Effect.closed ∈ (m.step 0 (.arrive 1 .close)).2 := by
  decide +kernel

end Concentrator.MessageRelay
