import Concentrator.Proofs.Gateway.Supervision

/-!
# After a failure of the interface

A failed interface ends the session that runs, and no request that asks later is
granted. One that has the interface in hand already, and waits for the transport
to start, is not asked again: it may still be granted. `run_failed` says that
this is the only way in which processing goes on.
-/

namespace Concentrator.Lifecycle

variable {l l' l'' : Lifecycle} {e : Event} {effects more : List Effect} {now : Nat}

/-- The request that waits for the transport to start. -/
def pending? (l : Lifecycle) : Option Request :=
  match l.phase with
  | .starting r _ => some r
  | _ => none

/-- The requests to start that are told that processing has begun. -/
def granted (effects : List Effect) : List Request :=
  effects.filterMap fun
    | .answer r (.ok ()) => if r.kind = .start then some r else none
    | _ => none

theorem granted_append (effects more : List Effect) :
    granted (effects ++ more) = granted effects ++ granted more :=
  List.filterMap_append

/-- What a failed interface allows: requests that have waited for the transport are granted at
most once each, none begins to wait, and nothing runs but for one of them. -/
structure Subsides (l : Lifecycle) (effects : List Effect) (l' : Lifecycle) : Prop where
  failed : l'.failed = true
  spends : (granted effects ++ l'.pending?.toList).Sublist l.pending?.toList
  processing : l'.isProcessing = true → l.isProcessing = true ∨ granted effects ≠ []

theorem Subsides.refl (failed : l.failed = true) : Subsides l [] l where
  failed := failed
  spends := .refl _
  processing := .inl

theorem Subsides.trans (first : Subsides l effects l') (second : Subsides l' more l'') :
    Subsides l (effects ++ more) l'' where
  failed := second.failed
  spends := by
    rw [granted_append, List.append_assoc]
    exact (second.spends.append_left _).trans first.spends
  processing := by
    intro processing
    rw [granted_append]
    rcases second.processing processing with before | new
    · rcases first.processing before with before | new
      · exact .inl before
      · exact .inr (by simp [new])
    · exact .inr (by simp [new])

theorem Subsides.quiet (failed : l'.failed = true) (none_granted : granted effects = [])
    (spends : l'.pending?.toList.Sublist l.pending?.toList)
    (processing : l'.isProcessing = true → l.isProcessing = true) : Subsides l effects l' where
  failed := failed
  spends := by rwa [none_granted]
  processing := fun runs => .inl (processing runs)

theorem resolves_subsides {r : Request} (resolves : Resolves r l l' effects)
    (failed : l.failed = true) : Subsides l effects l' := by
  cases resolves with
  | stopped kind => exact .quiet failed (by simp [granted, kind]) (by simp [pending?]) id
  | refused => exact .quiet failed rfl (by simp [pending?]) id
  | starting kind working =>
    rw [working] at failed
    cases failed

theorem breaks_subsides {operation reason : String} (breaks : Breaks operation reason l l' effects)
    (failed : l.failed = true) : Subsides l effects l' := by
  cases breaks with
  | first working =>
    rw [working] at failed
    cases failed
  | again => exact .refl failed

theorem turn_subsides (turn : Turn now l e l' effects) (coherent : Coherent l)
    (failed : l.failed = true) : Subsides l effects l' := by
  cases turn with
  | ends => exact .quiet failed rfl (by simp [pending?]) (by simp [isProcessing])
  | acquires r rest free next rests resolves =>
    have takes : Subsides l [] { l with waiting := rest } := .quiet failed rfl (.refl _) id
    exact takes.trans (resolves_subsides resolves failed)
  | joinsReader => exact .quiet failed rfl (by simp [pending?]) id
  | joinsSweeper r token t waits member own finished resolves =>
    have joins : Subsides l [.notice .processingStopped]
        { l with sweepers := l.sweepers.erase t } := .quiet failed rfl (.refl _) id
    exact joins.trans (resolves_subsides resolves failed)
  | begins r call waits =>
    have kind : r.kind = .start := coherent.asking r call waits
    refine ⟨failed, ?_, fun _ => .inr ?_⟩
    · simp [granted, kind, pending?, waits]
    · simp [granted, kind]
  | startFails => exact .quiet failed rfl (by simp [pending?]) id
  | readBreaks e i t reason may cause breaks =>
    have finishes : Subsides l []
        { l with readers := l.readers.set i { t with finished := true, holds := false } } :=
      .quiet failed rfl (.refl _) id
    exact finishes.trans (breaks_subsides breaks failed)
  | writeBreaks reason breaks => exact breaks_subsides breaks failed
  | _ => exact .quiet failed rfl (.refl _) id

theorem run_subsides (coherent : Coherent l) (failed : l.failed = true)
    (events : List (Nat × Event)) : Subsides l (l.run events).2.flatten (l.run events).1 := by
  induction events generalizing l with
  | nil => exact .refl failed
  | cons event rest ih =>
    obtain ⟨now, e⟩ := event
    have turn := step_turn now l e
    have first : Subsides l _ _ := turn_subsides turn coherent failed
    exact first.trans (ih (turn_coherent turn coherent) first.failed)

/-- The turn in which the interface fails ends the session and leaves the requests alone. -/
theorem turn_fails (turn : Turn now l e l' effects) (coherent : Coherent l)
    (working : l.failed = false) (failed : l'.failed = true) :
    l'.isProcessing = false ∧ l'.pending? = l.pending? ∧ granted effects = [] := by
  -- a detached transport shows that nothing runs
  have attached := (turn_coherent turn coherent).attached
  have same {p : Prop} (unchanged : l'.failed = l.failed) : p := by
    rw [unchanged, working] at failed
    cases failed
  cases turn with
  | acquires r rest free next rests resolves => cases resolves <;> exact same rfl
  | joinsSweeper r token t waits member own finished resolves => cases resolves <;> exact same rfl
  | readBreaks e i t reason may cause breaks =>
    cases breaks with
    | first => exact ⟨attached.symm, rfl, rfl⟩
    | again => exact same rfl
  | writeBreaks reason breaks =>
    cases breaks with
    | first => exact ⟨attached.symm, rfl, rfl⟩
    | again => exact same rfl
  | _ => exact same rfl

/-- From the event on in which the interface fails it stays so, and processing ends for good, but
for the one request that waited for the transport at that moment: it may be granted, once, and no
other is. -/
theorem run_failed (transport : String) (period now : Nat) (before after : List (Nat × Event))
    (e : Event) :
    let l := (({ transport, period } : Lifecycle).run before).1
    let o := l.run ((now, e) :: after)
    l.failed = false → (l.step now e).1.failed = true →
      o.1.failed = true ∧ (granted o.2.flatten).Sublist l.pending?.toList ∧
      (o.1.isProcessing = true → ∃ r, l.pending? = some r ∧ granted o.2.flatten = [r]) := by
  intro l o working failed
  have coherent : Coherent l := (initial_coherent transport period).run before
  have turn := step_turn now l e
  obtain ⟨ended, pending, silent⟩ := turn_fails turn coherent working failed
  have subsides := run_subsides (turn_coherent turn coherent) failed after
  have later : granted o.2.flatten = granted ((l.step now e).1.run after).2.flatten := by
    have split : o.2.flatten = (l.step now e).2 ++ ((l.step now e).1.run after).2.flatten := rfl
    rw [split, granted_append, silent, List.nil_append]
  have spends : (granted o.2.flatten).Sublist l.pending?.toList := by
    rw [later, ← pending]
    exact (List.sublist_append_left _ _).trans subsides.spends
  refine ⟨subsides.failed, spends, fun processing => ?_⟩
  have some_granted : granted o.2.flatten ≠ [] := by
    rcases subsides.processing processing with before | new
    · rw [ended] at before
      cases before
    · rwa [later]
  cases waits : l.pending? with
  | none =>
    rw [waits] at spends
    exact absurd (List.sublist_nil.1 spends) some_granted
  | some r =>
    rw [waits] at spends
    -- a sublist of one request that is not empty is all of it
    exact ⟨r, rfl, spends.eq_of_length_le (List.length_pos_iff.2 some_granted)⟩

/-- A request waits for a slow transport when the writer, which still has a packet from the session
before, finds that the interface is gone. -/
def staleWrite : List (Nat × Event) :=
  [(0, .request ⟨1, .start⟩), (0, .acquire), (0, .started 1 true),
    (0, .request ⟨2, .stop⟩), (0, .acquire), (0, .readerStops 0), (0, .sweeperStops 0),
    (0, .proceed), (0, .proceed), (0, .request ⟨3, .start⟩), (0, .acquire)]

theorem staleWrite_failed :
    let l := (({ transport := "udp", period := 1000 } : Lifecycle).run staleWrite).1
    let o := l.run [(0, .writeFailed "gone"), (0, .started 2 true)]
    l.failed = false ∧ (l.step 0 (.writeFailed "gone")).1.failed = true ∧
      o.1.failed = true ∧ (granted o.2.flatten).Sublist l.pending?.toList ∧
      (o.1.isProcessing = true → ∃ r, l.pending? = some r ∧ granted o.2.flatten = [r]) :=
  ⟨by decide, by decide, run_failed "udp" 1000 0 staleWrite [(0, .started 2 true)]
    (.writeFailed "gone") (by decide) (by decide)⟩

/-- The request is granted all the same, and a session runs on an interface that has failed. -/
theorem staleWrite_granted :
    let l := (({ transport := "udp", period := 1000 } : Lifecycle).run staleWrite).1
    let o := l.run [(0, .writeFailed "gone"), (0, .started 2 true)]
    o.1.failed = true ∧ o.1.isProcessing = true ∧ granted o.2.flatten = [⟨3, .start⟩] := by
  decide

end Concentrator.Lifecycle
