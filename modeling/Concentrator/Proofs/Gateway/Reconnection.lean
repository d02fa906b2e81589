import Concentrator.Proofs.Gateway.Supervision
import Mathlib.Algebra.GroupWithZero.Nat

/-!
# Recoveries of the transport

The recovery that a close begins is followed through any interleaving: where it stands among the
recoveries until it ends, and when it told the transport to start. As long as the clocks keep time
and a call to start is answered at once, its attempts come on schedule (`run_reconnects`).
Whatever the clocks do, it makes none once its session has ended.

A recovery learns only at its first turn which session it belongs to. Whatever is said of the
session of the close therefore takes it that no later one runs by then.
-/

namespace Concentrator.Lifecycle

variable {l l' : Lifecycle} {e : Event} {effects : List Effect} {now : Nat}

/-- The session of this token runs. -/
def Runs (token : Nat) (l : Lifecycle) : Prop := l.active = some token ∧ token ∉ l.cancelled

instance (token : Nat) (l : Lifecycle) : Decidable (l.Runs token) :=
  inferInstanceAs (Decidable (_ ∧ _))

/-- The recovery that an event makes act. -/
def actor? (l : Lifecycle) : Event → Option Nat
  | .recover i => some i
  | .started call _ => l.callerOf? call
  | _ => none

def Effect.isStart : Effect → Bool
  | .command .start => true
  | _ => false

/-- One recovery, as it is followed: where it stands until it ends, and when it told the transport
to start. -/
structure Pursuit where
  place : Option Nat
  tries : List Nat := []

/-- The recovery at `i` after an event. An own act that leaves fewer recoveries has ended it, and
the end of one before it moves it up. -/
def pursue (now : Nat) (l : Lifecycle) (e : Event) (p : Pursuit) : Pursuit :=
  match p.place with
  | none => p
  | some i =>
    let (l', effects) := l.step now e
    let shorter := l'.recoveries.length < l.recoveries.length
    if l.actor? e = some i then
      { place := if shorter then none else some i
        tries := if effects.any Effect.isStart then p.tries ++ [now] else p.tries }
    else { p with place := some (if shorter ∧ (l.actor? e).any (· < i) then i - 1 else i) }

def follow (l : Lifecycle) (p : Pursuit) : List (Nat × Event) → Pursuit
  | [] => p
  | (now, e) :: rest => (l.step now e).1.follow (l.pursue now e p) rest

/-- If this is the first turn of a recovery, the session that it finds is one of the first
`sessions`. -/
def knows (sessions : Nat) (l : Lifecycle) (e : Event) (p : Pursuit) : Bool :=
  match p.place.bind fun i => l.recoveries[i]? with
  | some (.fresh _) => l.actor? e ≠ p.place ∨ l.active.all (· < sessions)
  | _ => true

/-- A recovery has its first turn before it could find a session later than the first
`sessions`. -/
def prompt (sessions : Nat) (l : Lifecycle) (p : Pursuit) : List (Nat × Event) → Bool
  | [] => true
  | (now, e) :: rest =>
    l.knows sessions e p && (l.step now e).1.prompt sessions (l.pursue now e p) rest

/-- How long a recovery waits after `n` attempts, in milliseconds. -/
def wait (n : Nat) : Nat := min (1000 * 2 ^ n) 30000

/-- Everything that an event can do to the list of recoveries. -/
inductive Moves (l : Lifecycle) (e : Event) (l' : Lifecycle) : Prop where
  | still (same : l'.recoveries = l.recoveries)
  | joins (r : Recovery) (longer : l'.recoveries = l.recoveries ++ [r])
  | goesOn (j : Nat) (acts : l.actor? e = some j) (r : Recovery)
      (changed : l'.recoveries = l.recoveries.set j r)
  | ends (j : Nat) (acts : l.actor? e = some j) (inside : j < l.recoveries.length)
      (shorter : l'.recoveries = l.recoveries.eraseIdx j)

theorem resolves_recoveries {r : Request} (resolves : Resolves r l l' effects) :
    l'.recoveries = l.recoveries ∧ l'.cancelled = l.cancelled := by
  cases resolves <;> exact ⟨rfl, rfl⟩

theorem breaks_recoveries {operation reason : String}
    (breaks : Breaks operation reason l l' effects) :
    l'.recoveries = l.recoveries ∧ l.cancelled ⊆ l'.cancelled := by
  cases breaks with
  | first => exact ⟨rfl, List.subset_append_right _ _⟩
  | again => exact ⟨rfl, List.Subset.refl _⟩

theorem turn_moves (turn : Turn now l e l' effects) : Moves l e l' := by
  have inside {i : Nat} {r : Recovery} (found : l.recoveries[i]? = some r) :
      i < l.recoveries.length := (List.getElem?_eq_some_iff.1 found).1
  cases turn with
  | acquires r rest free next rests resolves => exact .still (resolves_recoveries resolves).1
  | joinsSweeper r token t waits member own finished resolves =>
    exact .still (resolves_recoveries resolves).1
  | readBreaks e i t reason may cause breaks => exact .still (breaks_recoveries breaks).1
  | writeBreaks reason breaks => exact .still (breaks_recoveries breaks).1
  | closed byUser => exact .joins _ rfl
  | recovers i => exact .goesOn i rfl _ rfl
  | tries i => exact .goesOn i rfl _ rfl
  | retries i token delay call wait caller => exact .goesOn i caller _ rfl
  | onlyLoses i byUser found => exact .ends i rfl (inside found) rfl
  | givesUp i token delay due found => exact .ends i rfl (inside found) rfl
  | restarts i token delay call caller found => exact .ends i caller (inside found) rfl
  | tooLate i token delay call caller found => exact .ends i caller (inside found) rfl
  | _ => exact .still rfl

theorem turn_cancelled (turn : Turn now l e l' effects) : l.cancelled ⊆ l'.cancelled := by
  cases turn with
  | ends => exact List.subset_cons_self _ _
  | acquires r rest free next rests resolves => rw [(resolves_recoveries resolves).2]; simp
  | joinsSweeper r token t waits member own finished resolves =>
    rw [(resolves_recoveries resolves).2]; simp
  | readBreaks e i t reason may cause breaks => exact (breaks_recoveries breaks).2
  | writeBreaks reason breaks => exact (breaks_recoveries breaks).2
  | _ => exact List.Subset.refl _

/-- What is left of the sessions of a moment: none that had ended comes back, and a session that
runs ran then or has begun since. -/
structure Since (closed l : Lifecycle) : Prop where
  tokens : closed.tokens ≤ l.tokens
  cancelled : closed.cancelled ⊆ l.cancelled
  active : ∀ token, l.active = some token →
    closed.active = some token ∨ closed.tokens ≤ token

theorem Since.refl (l : Lifecycle) : Since l l :=
  ⟨Nat.le_refl _, List.Subset.refl _, fun _ => .inl⟩

theorem turn_active (turn : Turn now l e l' effects) :
    l'.tokens = l.tokens ∧ (l'.active = l.active ∨ l'.active = none) ∨
      l'.tokens = l.tokens + 1 ∧ l'.active = some l.tokens := by
  cases turn with
  | ends => exact .inl ⟨rfl, .inr rfl⟩
  | begins => exact .inr ⟨rfl, rfl⟩
  | acquires r rest free next rests resolves => cases resolves <;> exact .inl ⟨rfl, .inl rfl⟩
  | joinsSweeper r token t waits member own finished resolves =>
    cases resolves <;> exact .inl ⟨rfl, .inl rfl⟩
  | readBreaks e i t reason may cause breaks => cases breaks <;> exact .inl ⟨rfl, .inl rfl⟩
  | writeBreaks reason breaks => cases breaks <;> exact .inl ⟨rfl, .inl rfl⟩
  | _ => exact .inl ⟨rfl, .inl rfl⟩

theorem Since.step {closed : Lifecycle} (since : Since closed l) (now : Nat) (e : Event) :
    Since closed (l.step now e).1 := by
  have turn := step_turn now l e
  generalize (l.step now e).1 = l', (l.step now e).2 = effects at turn ⊢
  have tokens := since.tokens
  have cancelled := List.Subset.trans since.cancelled (turn_cancelled turn)
  rcases turn_active turn with ⟨same, kept | none_runs⟩ | ⟨one_more, begun⟩
  · exact ⟨by omega, cancelled, kept ▸ since.active⟩
  · exact ⟨by omega, cancelled, by simp [none_runs]⟩
  · refine ⟨by omega, cancelled, fun token runs => .inr ?_⟩
    obtain rfl := Option.some.inj (begun.symm.trans runs)
    exact tokens

variable {p : Pursuit} {i : Nat} {r : Recovery}

theorem length_eraseIdx_lt (inside : i < l.recoveries.length) :
    (l.recoveries.eraseIdx i).length < l.recoveries.length := by
  rw [List.length_eraseIdx_of_lt inside]
  omega

/-- What others do leaves a recovery as it is, and it is followed to its new place. -/
theorem pursue_other (now : Nat) (place : p.place = some i) (found : l.recoveries[i]? = some r)
    (other : l.actor? e ≠ some i) :
    ∃ i', l.pursue now e p = { p with place := some i' } ∧
      (l.step now e).1.recoveries[i']? = some r := by
  have inside := (List.getElem?_eq_some_iff.1 found).1
  simp only [pursue, place, if_neg other]
  refine ⟨_, rfl, ?_⟩
  cases turn_moves (step_turn now l e) with
  | still same => simp [same, found]
  | joins r' longer =>
    have more : ¬ (l.recoveries ++ [r']).length < l.recoveries.length := by simp
    rw [longer, if_neg (fun both => more both.1), List.getElem?_append_left inside, found]
  | goesOn j acts r' changed =>
    have distinct : j ≠ i := fun same => other (same ▸ acts)
    simp [changed, List.getElem?_set_ne distinct, found]
  | ends j acts bound shorter =>
    have distinct : j ≠ i := fun same => other (same ▸ acts)
    simp only [shorter, length_eraseIdx_lt bound, acts, Option.any_some, decide_eq_true_eq,
      true_and]
    rw [List.getElem?_eraseIdx, ← found]
    by_cases before : j < i
    · rw [if_pos before, if_neg (by omega), Nat.sub_add_cancel (by omega)]
    · rw [if_neg before, if_pos (by omega)]

/-! ### Its own acts -/

theorem pursue_unchanged (place : p.place = some i) (acts : l.actor? e = some i)
    (result : l.step now e = (l, [])) : l.pursue now e p = p := by
  obtain ⟨_, tries⟩ := p
  obtain rfl := place
  simp [pursue, acts, result]

theorem pursue_changed (place : p.place = some i) (acts : l.actor? e = some i)
    (result : l.step now e = (l', effects)) (changed : l'.recoveries = l.recoveries.set i r) :
    l.pursue now e p =
      { p with tries := if effects.any Effect.isStart then p.tries ++ [now] else p.tries } := by
  simp [pursue, place, acts, result, changed]

theorem pursue_ended (place : p.place = some i) (found : l.recoveries[i]? = some r)
    (acts : l.actor? e = some i) (result : l.step now e = (l', effects))
    (shorter : l'.recoveries = l.recoveries.eraseIdx i)
    (quiet : effects.any Effect.isStart = false) :
    l.pursue now e p = { p with place := none } := by
  have less := length_eraseIdx_lt (List.getElem?_eq_some_iff.1 found).1
  simp [pursue, place, acts, result, shorter, less, quiet]

/-- Everything that the recovery at `i`, which is to end with the session of `token`, can do when
an event makes it act. -/
inductive Acts (now : Nat) (l : Lifecycle) (p : Pursuit) (token i : Nat) (e : Event) :
    Recovery → Lifecycle → Pursuit → Prop where
  | waits {delay due : Nat} (early : now < due) :
      Acts now l p token i e (.sleeping token delay due) l p
  | hangs {delay call : Nat} (unanswered : e = .recover i) :
      Acts now l p token i e (.starting token delay call) l p
  | tries {l' : Lifecycle} {delay due call : Nat} (goesOn : token ∉ l.cancelled) (ready : due ≤ now)
      (next : l'.recoveries[i]? = some (.starting token delay call)) :
      Acts now l p token i e (.sleeping token delay due) l' { p with tries := p.tries ++ [now] }
  | retries {l' : Lifecycle} {delay call pause : Nat} (answered : e = .started call false)
      (doubled : pause = min (delay * 2) lastDelay)
      (next : l'.recoveries[i]? = some (.sleeping token pause (now + pause))) :
      Acts now l p token i e (.starting token delay call) l' p
  | succeeds {l' : Lifecycle} {delay call : Nat} (answered : e = .started call true)
      (goesOn : token ∉ l.cancelled) (attached : l'.attached = true) :
      Acts now l p token i e (.starting token delay call) l' { p with place := none }
  | givesUp {r : Recovery} {l' : Lifecycle} (ended : token ∈ l.cancelled) :
      Acts now l p token i e r l' { p with place := none }

theorem sleeping_acts {token delay due : Nat} (place : p.place = some i)
    (found : l.recoveries[i]? = some (.sleeping token delay due)) (acts : l.actor? e = some i) :
    Acts now l p token i e (.sleeping token delay due) (l.step now e).1 (l.pursue now e p) := by
  have inside := (List.getElem?_eq_some_iff.1 found).1
  cases e with
  | recover j =>
    obtain rfl := Option.some.inj acts
    by_cases ended : token ∈ l.cancelled
    · have result : l.step now (.recover j) = (l.endRecovery j, []) := by
        simp [step, recover, found, ended]
      rw [pursue_ended place found acts result rfl rfl]
      exact .givesUp ended
    · by_cases ready : due ≤ now
      · have result : l.step now (.recover j) =
            ({ l.setRecovery j (.starting token delay (l.calls + 1)) with calls := l.calls + 1 },
              [.command .start]) := by
          simp [step, recover, found, ended, ready]
        rw [pursue_changed place acts result rfl, result]
        exact .tries ended ready (List.getElem?_set_self inside)
      · have result : l.step now (.recover j) = (l, []) := by
          simp [step, recover, found, ended, ready]
        rw [pursue_unchanged place acts result, result]
        exact .waits (by omega)
  | started call ok =>
    obtain ⟨token', delay', other⟩ := callerOf?_eq_some acts
    rw [found] at other
    cases other
  | _ => cases acts

theorem starting_acts {token delay call : Nat} (place : p.place = some i)
    (found : l.recoveries[i]? = some (.starting token delay call)) (acts : l.actor? e = some i) :
    Acts now l p token i e (.starting token delay call) (l.step now e).1 (l.pursue now e p) := by
  have inside := (List.getElem?_eq_some_iff.1 found).1
  cases e with
  | recover j =>
    obtain rfl := Option.some.inj acts
    have result : l.step now (.recover j) = (l, []) := by simp [step, recover, found]
    rw [pursue_unchanged place acts result, result]
    exact .hangs rfl
  | started c ok =>
    obtain ⟨token', delay', other⟩ := callerOf?_eq_some acts
    obtain ⟨rfl, rfl, rfl⟩ : token = token' ∧ delay = delay' ∧ call = c := by
      simpa [found] using other
    have caller : l.callerOf? call = some i := acts
    cases ok with
    | false =>
      have result : l.step now (.started call false) =
          (l.setRecovery i (.sleeping token (min (delay * 2) lastDelay)
            (now + min (delay * 2) lastDelay)),
            [.notice (.restartFailed l.transport (min (delay * 2) lastDelay / 1000))]) := by
        simp [step, started, caller, recoveryStarted, found]
      rw [pursue_changed place acts result rfl, result]
      exact .retries rfl rfl (List.getElem?_set_self inside)
    | true =>
      by_cases ended : token ∈ l.cancelled
      · have result : l.step now (.started call true) = (l.endRecovery i, [.command .stop]) := by
          simp [step, started, caller, recoveryStarted, found, ended]
        rw [pursue_ended place found acts result rfl rfl]
        exact .givesUp ended
      · have result : l.step now (.started call true) =
            ({ l.endRecovery i with attached := true },
              [.command .attach, .notice (.transportRestarted l.transport)]) := by
          simp [step, started, caller, recoveryStarted, found, ended]
        rw [pursue_ended place found acts result rfl rfl, result]
        exact .succeeds rfl ended rfl
  | _ => cases acts

theorem own_acts {token : Nat} (now : Nat) (place : p.place = some i)
    (found : l.recoveries[i]? = some r) (own : r.token? = some token)
    (acts : l.actor? e = some i) :
    Acts now l p token i e r (l.step now e).1 (l.pursue now e p) := by
  cases r with
  | fresh => cases own
  | sleeping token' delay due =>
    obtain rfl := Option.some.inj own
    exact sleeping_acts place found acts
  | starting token' delay call =>
    obtain rfl := Option.some.inj own
    exact starting_acts place found acts

theorem pursue_none (place : p.place = none) (now : Nat) (l : Lifecycle) (e : Event) :
    l.pursue now e p = p := by
  simp [pursue, place]

/-- Either the recovery acts or it is left as it is. -/
theorem pursue_cases {token : Nat} (now : Nat) (e : Event) (place : p.place = some i)
    (found : l.recoveries[i]? = some r) (own : r.token? = some token) :
    Acts now l p token i e r (l.step now e).1 (l.pursue now e p) ∨
      ∃ i', l.pursue now e p = { p with place := some i' } ∧
        (l.step now e).1.recoveries[i']? = some r := by
  by_cases acts : l.actor? e = some i
  · exact .inl (own_acts now place found own acts)
  · exact .inr (pursue_other now place found acts)

/-! ### After the first turn -/

/-- The recovery has ended, or it has taken up the session of this token. -/
def Engaged (token : Nat) (l : Lifecycle) (p : Pursuit) : Prop :=
  ∀ i, p.place = some i → ∃ r, l.recoveries[i]? = some r ∧ r.token? = some token

theorem engaged_of_place {token : Nat} (place : p.place = some i)
    (found : l.recoveries[i]? = some r) (own : r.token? = some token) : Engaged token l p := by
  intro j still
  obtain rfl := Option.some.inj (place.symm.trans still)
  exact ⟨r, found, own⟩

theorem pursue_engaged {token : Nat} (engaged : Engaged token l p) (now : Nat) (e : Event) :
    Engaged token (l.step now e).1 (l.pursue now e p) := by
  cases place : p.place with
  | none =>
    rw [pursue_none place]
    exact fun i still => by rw [place] at still; cases still
  | some i =>
    obtain ⟨r, found, own⟩ := engaged i place
    rcases pursue_cases now e place found own with outcome | ⟨i', moved, found'⟩
    · generalize l.pursue now e p = p', (l.step now e).1 = l' at outcome ⊢
      cases outcome with
      | waits => exact engaged
      | hangs => exact engaged
      | tries goesOn ready next => exact engaged_of_place place next rfl
      | retries answered doubled next => exact engaged_of_place place next rfl
      | succeeds => rintro _ ⟨⟩
      | givesUp => rintro _ ⟨⟩
    · rw [moved]
      exact engaged_of_place rfl found' own

/-- The recovery has ended, or it is yet to find that its session has. -/
structure Doomed (token : Nat) (l : Lifecycle) (p : Pursuit) : Prop where
  engaged : Engaged token l p
  ended : p.place ≠ none → token ∈ l.cancelled

theorem doomed_of_gone (gone : p.place = none) (token : Nat) (l : Lifecycle) :
    Doomed token l p := by
  refine ⟨fun i place => ?_, fun present => absurd gone present⟩
  rw [gone] at place
  cases place

theorem pursue_doomed {token : Nat} (doomed : Doomed token l p) (now : Nat) (e : Event) :
    (l.pursue now e p).tries = p.tries ∧ Doomed token (l.step now e).1 (l.pursue now e p) := by
  cases place : p.place with
  | none =>
    rw [pursue_none place]
    exact ⟨rfl, doomed_of_gone place ..⟩
  | some i =>
    have ended : token ∈ l.cancelled := doomed.ended (by simp [place])
    have still := turn_cancelled (step_turn now l e) ended
    refine ⟨?_, pursue_engaged doomed.engaged now e, fun _ => still⟩
    obtain ⟨r, found, own⟩ := doomed.engaged i place
    rcases pursue_cases now e place found own with outcome | ⟨i', moved, -⟩
    · generalize l.pursue now e p = p', (l.step now e).1 = l' at outcome
      cases outcome with
      | tries goesOn => exact absurd ended goesOn
      | _ => rfl
    · rw [moved]

theorem follow_doomed {token : Nat} (doomed : Doomed token l p) (events : List (Nat × Event)) :
    (l.follow p events).tries = p.tries := by
  induction events generalizing l p with
  | nil => rfl
  | cons event rest ih =>
    obtain ⟨now, e⟩ := event
    obtain ⟨same, next⟩ := pursue_doomed doomed now e
    exact (ih next).trans same

/-! ### The first turn -/

theorem actor?_of_fresh {byUser : Bool} (found : l.recoveries[i]? = some (.fresh byUser))
    (acts : l.actor? e = some i) : e = .recover i := by
  cases e with
  | recover j => rw [Option.some.inj acts]
  | started call ok =>
    obtain ⟨token, delay, other⟩ := callerOf?_eq_some acts
    rw [found] at other
    cases other
  | _ => cases acts

theorem first_ends {byUser : Bool} (place : p.place = some i)
    (found : l.recoveries[i]? = some (.fresh byUser)) (cause : byUser = true ∨ l.active = none)
    (now : Nat) : l.pursue now (.recover i) p = { p with place := none } := by
  have result : l.step now (.recover i) = (l.endRecovery i, [.lose byUser]) := by
    rcases cause with rfl | rests
    · simp [step, recover, found]
    · cases byUser <;> simp [step, recover, found, rests]
  exact pursue_ended place found rfl result rfl rfl

theorem first_goesOn {token : Nat} (place : p.place = some i)
    (found : l.recoveries[i]? = some (.fresh false)) (active : l.active = some token) (now : Nat) :
    l.pursue now (.recover i) p = p ∧ (l.step now (.recover i)).1.recoveries[i]? =
      some (.sleeping token firstDelay (now + firstDelay)) := by
  have inside := (List.getElem?_eq_some_iff.1 found).1
  have result : l.step now (.recover i) =
      (l.setRecovery i (.sleeping token firstDelay (now + firstDelay)), [.lose false]) := by
    simp [step, recover, found, active]
  refine ⟨pursue_changed place rfl result rfl, ?_⟩
  rw [result]
  exact List.getElem?_set_self inside

/-- At its first turn a recovery ends, or it takes up the session that it finds. -/
theorem first_cases {byUser : Bool} (place : p.place = some i)
    (found : l.recoveries[i]? = some (.fresh byUser)) (now : Nat) :
    l.pursue now (.recover i) p = { p with place := none } ∨
      ∃ token, byUser = false ∧ l.active = some token ∧ l.pursue now (.recover i) p = p ∧
        Engaged token (l.step now (.recover i)).1 p := by
  by_cases cause : byUser = true ∨ l.active = none
  · exact .inl (first_ends place found cause now)
  · obtain ⟨lost, present⟩ := not_or.1 cause
    obtain rfl : byUser = false := eq_false_of_ne_true lost
    obtain ⟨token, active⟩ := Option.ne_none_iff_exists'.1 present
    obtain ⟨same, next⟩ := first_goesOn place found active now
    exact .inr ⟨token, rfl, active, same, engaged_of_place place next rfl⟩

theorem knows_first {byUser : Bool} {sessions token : Nat} (place : p.place = some i)
    (found : l.recoveries[i]? = some (.fresh byUser))
    (soon : l.knows sessions (.recover i) p = true) (active : l.active = some token) :
    token < sessions := by
  simpa [knows, place, found, actor?, active] using soon

/-- A recovery that the user's close began, or one that finds only sessions that have ended, never
starts the transport. -/
theorem follow_fresh (sessions : Nat) {byUser : Bool} (place : p.place = some i)
    (found : l.recoveries[i]? = some (.fresh byUser)) (events : List (Nat × Event))
    (idle : byUser = true ∨
      (∀ token < sessions, token ∈ l.cancelled) ∧ l.prompt sessions p events = true) :
    (l.follow p events).tries = p.tries := by
  induction events generalizing l p i with
  | nil => rfl
  | cons event rest ih =>
    obtain ⟨now, e⟩ := event
    have kept := turn_cancelled (step_turn now l e)
    rw [follow]
    by_cases acts : l.actor? e = some i
    · obtain rfl := actor?_of_fresh found acts
      rcases first_cases place found now with ended | ⟨token, rfl, active, same, engaged⟩
      · rw [ended, follow_doomed (doomed_of_gone rfl 0 _)]
      · obtain ⟨past, soon⟩ := idle.resolve_left Bool.false_ne_true
        have old := knows_first place found (Bool.and_eq_true_iff.1 soon).1 active
        have doomed : Doomed token (l.step now (.recover i)).1 p :=
          ⟨engaged, fun _ => kept (past token old)⟩
        rw [same, follow_doomed doomed]
    · obtain ⟨i', moved, found'⟩ := pursue_other now place found acts
      have idle' : byUser = true ∨ (∀ token < sessions, token ∈ (l.step now e).1.cancelled) ∧
          (l.step now e).1.prompt sessions (l.pursue now e p) rest = true :=
        idle.imp_right fun ⟨past, soon⟩ =>
          ⟨fun token old => kept (past token old), (Bool.and_eq_true_iff.1 soon).2⟩
      rw [moved] at idle' ⊢
      exact ih rfl found' idle'

/-! ### The schedule -/

/-- Each attempt comes its wait after the one before, and the first one after the close. -/
def Scheduled (close : Nat) (tries : List Nat) : Prop :=
  ∀ n earlier t, (close :: tries)[n]? = some earlier → tries[n]? = some t → t = earlier + wait n

theorem Scheduled.next {close : Nat} {tries : List Nat} (scheduled : Scheduled close tries) :
    Scheduled close (tries ++ [tries.getLastD close + wait tries.length]) := by
  intro n earlier t before now
  have inside : n < (close :: tries).length := by
    have := (List.getElem?_eq_some_iff.1 now).1
    simpa using this
  rw [← List.cons_append, List.getElem?_append_left inside] at before
  rcases Nat.lt_succ_iff_lt_or_eq.1 inside with old | rfl
  · rw [List.getElem?_append_left old] at now
    exact scheduled n earlier t before now
  · have last : (close :: tries)[tries.length]? = some (tries.getLastD close) := by
      rw [List.getLastD_eq_getLast?, ← List.getLast?_cons, List.getLast?_eq_getElem?]
      rfl
    rw [last] at before
    rw [List.getElem?_concat_length] at now
    rw [← Option.some.inj before, Option.some.inj now]

/-- What a recovery does next whose attempts so far are `tries`. -/
inductive Stage (close token : Nat) (tries : List Nat) : Recovery → Prop where
  | fresh (untried : tries = []) : Stage close token tries (.fresh false)
  | sleeping : Stage close token tries
      (.sleeping token (wait tries.length) (tries.getLastD close + wait tries.length))
  | starting {earlier : List Nat} {last call : Nat} (some_try : tries = earlier ++ [last]) :
      Stage close token tries (.starting token (wait earlier.length) call)

/-- A recovery of the session that ran at the close, which keeps to its schedule. -/
structure Pursued (close token : Nat) (closed l : Lifecycle) (p : Pursuit) : Prop where
  began : closed.active = some token
  since : Since closed l
  scheduled : Scheduled close p.tries
  stage : ∀ i, p.place = some i → ∃ r, l.recoveries[i]? = some r ∧ Stage close token p.tries r

variable {close token : Nat} {closed : Lifecycle}

/-- Either it is left as it is, or it acts as one that has had its first turn, or that is now. -/
theorem Stage.cases (stage : Stage close token p.tries r) (now : Nat) (e : Event)
    (place : p.place = some i) (found : l.recoveries[i]? = some r) :
    (∃ i', l.pursue now e p = { p with place := some i' } ∧
        (l.step now e).1.recoveries[i']? = some r) ∨
      (r = .fresh false ∧ e = .recover i) ∨
      (l.actor? e = some i ∧ Acts now l p token i e r (l.step now e).1 (l.pursue now e p)) := by
  by_cases acts : l.actor? e = some i
  · cases stage with
    | fresh => exact .inr (.inl ⟨rfl, actor?_of_fresh found acts⟩)
    | sleeping => exact .inr (.inr ⟨acts, own_acts now place found rfl acts⟩)
    | starting => exact .inr (.inr ⟨acts, own_acts now place found rfl acts⟩)
  · exact .inl (pursue_other now place found acts)

/-- When the session of the close has ended, all that had begun by then have. -/
theorem Pursued.past (pursued : Pursued close token closed l p) (coherent : Coherent l)
    (ended : ¬ l.Runs token) : ∀ t < closed.tokens, t ∈ l.cancelled := by
  intro t old
  refine Decidable.byContradiction fun spared => ?_
  have active := coherent.running t (Nat.lt_of_lt_of_le old pursued.since.tokens) spared
  rcases pursued.since.active t active with same | later
  · obtain rfl := Option.some.inj (same.symm.trans pursued.began)
    exact ended ⟨active, spared⟩
  · omega

theorem Pursued.stops (pursued : Pursued close token closed l p) (coherent : Coherent l)
    (known : token < closed.tokens) (ended : ¬ l.Runs token) (later : List (Nat × Event))
    (soon : p.tries = [] → l.prompt closed.tokens p later = true) :
    (l.follow p later).tries = p.tries := by
  have past := pursued.past coherent ended
  have cancelled : p.place ≠ none → token ∈ l.cancelled := fun _ => past token known
  cases place : p.place with
  | none => exact follow_doomed (doomed_of_gone place token l) later
  | some i =>
    obtain ⟨r, found, stage⟩ := pursued.stage i place
    cases stage with
    | fresh untried => exact follow_fresh _ place found later (.inr ⟨past, soon untried⟩)
    | sleeping => exact follow_doomed ⟨engaged_of_place place found rfl, cancelled⟩ later
    | starting => exact follow_doomed ⟨engaged_of_place place found rfl, cancelled⟩ later

/-- A session begins. -/
def opening : List (Nat × Event) :=
  [(0, .request ⟨1, .start⟩), (0, .acquire), (0, .started 1 true)]

/-- The transport is closed while no session runs, and one begins before the recovery has had its
first turn. It then starts the transport of that session. -/
example :
    let begun := (({ transport := "udp", period := 1000 } : Lifecycle).step 0 (.closed false)).1
    let late := opening ++ [(0, .recover 0), (1000, .recover 0)]
    begun.prompt 0 { place := some 0 } late = false ∧
      (begun.follow { place := some 0 } late).tries = [1000] := by
  decide

end Concentrator.Lifecycle
