import Concentrator.Transport.Datagram
import Mathlib.Data.List.Infix

/-!
# Who receives

Binding a port of this machine never waits, so that a start is one step, and so is
an attempt to bind again when its delay is over. The tasks of several starts can be
there at a time, each with a token that tells it whether to go on. The events alone
say which of them may receive, which one has to bind again, and when it has failed
too often. `run_attended` says of every run that the tokens let exactly that task
act.
-/

namespace Concentrator.DatagramTransport

/-! ### What has happened -/

inductive Deed where
  /-- A start has succeeded. -/
  | opened
  /-- The transport was stopped, or a start has failed. -/
  | ended
  /-- The task of a start has failed to receive. -/
  | broke (token : Nat)
  /-- It has failed to bind again. -/
  | missed (token : Nat)
  | mended (token : Nat)
deriving DecidableEq

/-- Deeds, each with its time, the last one at the end. -/
abbrev Record := List (Nat × Deed)

def tell : Nat × Option Nat → Deed → Nat × Option Nat
  | (count, _), .opened => (count + 1, some count)
  | (count, _), .ended => (count, none)
  | standing, _ => standing

/-- How many starts have succeeded, and which of them is the last one if it is not over. -/
def standing (history : Record) : Nat × Option Nat :=
  history.foldl (fun before deed => tell before deed.2) (0, none)

/-- Receiving has failed, then the given number of attempts to bind again, and that is all. -/
def Misses (token count : Nat) (history : Record) : Prop :=
  .broke token :: List.replicate count (.missed token) <:+ history.map Prod.snd

instance (token count : Nat) (history : Record) : Decidable (Misses token count history) :=
  inferInstanceAs (Decidable (_ <:+ _))

def latest (history : Record) : Nat := (history.getLast?.map Prod.fst).getD 0

/-- The task of the last start is there and has a socket. -/
def Receives (token : Nat) (history : Record) : Prop :=
  (standing history).2 = some token ∧
    ∀ d ∈ history.getLast?.map Prod.snd, d ≠ .broke token ∧ d ≠ .missed token

/-- The task of the last start has lost its socket and waited for its next attempt to bind. -/
def Due (token now : Nat) (history : Record) : Prop :=
  (standing history).2 = some token ∧
    ∃ count < maxAttempts, Misses token count history ∧ latest history + delay (count + 1) ≤ now

instance (token : Nat) (history : Record) : Decidable (Receives token history) :=
  inferInstanceAs (Decidable (_ ∧ _))

instance (token now : Nat) (history : Record) : Decidable (Due token now history) :=
  inferInstanceAs (Decidable (_ ∧ _))

/-- What an event is, given what has happened before. -/
def deed? (history : Record) (now : Nat) : Event → Option Deed
  | .start (.ok _) => some .opened
  | .start (.error _) | .stop => some .ended
  | .receiveFails token _ => if Receives token history then some (.broke token) else none
  | .rebind token (.ok _) => if Due token now history then some (.mended token) else none
  | .rebind token (.error _) => if Due token now history then some (.missed token) else none
  | _ => none

def record (history : Record) (event : Nat × Event) : Record :=
  history ++ ((deed? history event.1 event.2).map (event.1, ·)).toList

def recorded (events : List (Nat × Event)) : Record := events.foldl record []

def hears (on : Bool) : Event → Bool
  | .listen on' => on'
  | _ => on

/-- The token of the task that has done it. -/
def Deed.token? : Deed → Option Nat
  | .broke token | .missed token | .mended token => some token
  | .opened | .ended => none

/-- A listener was attached the last time that this was changed. -/
def heard (events : List (Nat × Event)) : Bool :=
  events.foldl (fun on event => hears on event.2) false

/-- The task of a start had given up at some time. -/
def Spent (token : Nat) (history : Record) : Prop :=
  ∃ past, past <+: history ∧ Misses token maxAttempts past

variable {t : DatagramTransport} {history : Record} {token token' count now : Nat} {d : Deed}
  {e : Event} {effects : List Effect} {r : Receiver} {s : Socket} {state : Reception}

theorem standing_concat (history : Record) (now : Nat) (d : Deed) :
    standing (history ++ [(now, d)]) = tell (standing history) d :=
  List.foldl_concat ..

theorem deeds_concat (history : Record) (now : Nat) (d : Deed) :
    (history ++ [(now, d)]).map Prod.snd = history.map Prod.snd ++ [d] :=
  List.map_append

theorem misses_zero_iff : Misses token 0 (history ++ [(now, d)]) ↔ d = .broke token := by
  rw [Misses, List.replicate_zero, deeds_concat, List.suffix_concat_iff]
  constructor
  · rintro (nothing | ⟨front, same, -⟩)
    · cases nothing
    · simpa using (congrArg List.getLast? same).symm
  · rintro rfl
    exact .inr ⟨[], rfl, List.nil_suffix⟩

theorem misses_succ_iff : Misses token (count + 1) (history ++ [(now, d)]) ↔
    d = .missed token ∧ Misses token count history := by
  rw [Misses, List.replicate_succ', ← List.cons_append, deeds_concat, List.suffix_concat_iff]
  constructor
  · rintro (nothing | ⟨front, same, inside⟩)
    · cases nothing
    · obtain ⟨rfl, last⟩ := List.append_inj' same rfl
      exact ⟨(List.singleton_inj.1 last).symm, inside⟩
  · rintro ⟨rfl, inside⟩
    exact .inr ⟨_, rfl, inside⟩

theorem Misses.unique {count' : Nat} (misses : Misses token count history)
    (misses' : Misses token count' history) : count = count' := by
  induction history using List.reverseRecOn generalizing count count' with
  | nil => cases List.suffix_nil.1 misses
  | append_singleton past deed ih =>
    cases count with
    | zero =>
      cases count' with
      | zero => rfl
      | succ count' =>
        have broke := misses_zero_iff.1 misses
        cases broke.symm.trans (misses_succ_iff.1 misses').1
    | succ count =>
      obtain ⟨missed, before⟩ := misses_succ_iff.1 misses
      cases count' with
      | zero => cases missed.symm.trans (misses_zero_iff.1 misses')
      | succ count' => rw [ih before (misses_succ_iff.1 misses').2]

theorem Misses.due_iff (misses : Misses token count history)
    (stands : (standing history).2 = some token) :
    Due token now history ↔ count < maxAttempts ∧ latest history + delay (count + 1) ≤ now := by
  constructor
  · rintro ⟨-, count', more, misses', passed⟩
    obtain rfl := misses.unique misses'
    exact ⟨more, passed⟩
  · rintro ⟨more, passed⟩
    exact ⟨stands, count, more, misses, passed⟩

theorem receives_concat (stands : (tell (standing history) d).2 = some token)
    (intact : d ≠ .broke token ∧ d ≠ .missed token) : Receives token (history ++ [(now, d)]) := by
  refine ⟨(congrArg Prod.snd (standing_concat ..)).trans stands, fun last inside => ?_⟩
  rw [List.getLast?_concat] at inside
  obtain rfl := Option.some.inj inside
  exact intact

theorem Spent.append (spent : Spent token history) (later : Record) :
    Spent token (history ++ later) := by
  obtain ⟨past, before, lost⟩ := spent
  exact ⟨past, before.trans (List.prefix_append _ _), lost⟩

theorem Spent.broke_mem (spent : Spent token history) : .broke token ∈ history.map Prod.snd := by
  obtain ⟨past, before, lost⟩ := spent
  exact (before.map Prod.snd).subset (lost.subset List.mem_cons_self)

/-! ### Receivers -/

theorem receiver?_dropReceiver_of_ne (other : token' ≠ token) :
    (t.dropReceiver token).receiver? token' = t.receiver? token' := by
  rw [receiver?, dropReceiver, List.find?_filter, receiver?]
  congr 1
  funext r
  by_cases own : r.token = token' <;> simp [own, other]

theorem stop_eq (t : DatagramTransport) : t.stop.1 =
    { t with slot := none, cancelled := t.slot.toList ++ t.cancelled, socket := none } := by
  obtain ⟨port, socket, slot, cancelled, receivers, attached, tokens, sockets⟩ := t
  cases slot <;> rfl

theorem start_eq (port : UInt16) (t : DatagramTransport) : (t.start (.ok port)).1 =
    { t with
      socket := some ⟨t.sockets, port⟩
      slot := some t.tokens
      cancelled := t.slot.toList ++ t.cancelled
      receivers := t.receivers ++ [⟨t.tokens, .receiving ⟨t.sockets, port⟩⟩]
      tokens := t.tokens + 1
      sockets := t.sockets + 1 } := by
  obtain ⟨_, socket, slot, cancelled, receivers, attached, tokens, sockets⟩ := t
  cases slot <;> rfl

/-! ### The invariant -/

/-- How it stands with the task whose token is not cancelled. -/
inductive Phase (t : DatagramTransport) (history : Record) (token : Nat) : Prop
  | receives (s : Socket) (found : t.receiver? token = some ⟨token, .receiving s⟩)
      (bound : t.socket = some s) (receives : Receives token history)
      (going : ¬Spent token history)
  | waits (port : UInt16) (count : Nat)
      (found : t.receiver? token =
        some ⟨token, .rebinding port (count + 1) (latest history + delay (count + 1))⟩)
      (unbound : t.socket = none) (more : count < maxAttempts)
      (misses : Misses token count history) (going : ¬Spent token history)
  | gone (absent : t.receiver? token = none) (unbound : t.socket = none)
      (misses : Misses token maxAttempts history)

/-- What a transport has to do with its history. -/
structure Reflects (t : DatagramTransport) (history : Record) : Prop where
  standing : standing history = (t.tokens, t.slot)
  /-- Every token has been cancelled that the transport does not hold. -/
  cancelled_iff : ∀ token, token ∈ t.cancelled ↔ token < t.tokens ∧ t.slot ≠ some token
  held : ∀ token, t.slot = some token → token < t.tokens
  numbered : ∀ r ∈ t.receivers, r.token < t.tokens
  issued : ∀ token, .broke token ∈ history.map Prod.snd → token < t.tokens
  unbound : t.slot = none → t.socket = none
  phase : ∀ token, t.slot = some token → t.Phase history token

namespace Reflects

end Reflects

theorem Phase.frame {t' : DatagramTransport} (phase : t.Phase history token)
    (same : t'.receiver? token = t.receiver? token) (socket : t'.socket = t.socket) :
    t'.Phase history token := by
  cases phase with
  | receives s found bound receives going =>
    exact .receives s (same.trans found) (socket.trans bound) receives going
  | waits port count found unbound more misses going =>
    exact .waits port count (same.trans found) (socket.trans unbound) more misses going
  | gone absent unbound misses => exact .gone (same.trans absent) (socket.trans unbound) misses

namespace Reflects

theorem issued_concat (reflects : t.Reflects history) (own : ∀ token, d ≠ .broke token)
    (broke : .broke token ∈ (history ++ [(now, d)]).map Prod.snd) : token < t.tokens := by
  rw [deeds_concat] at broke
  rcases List.mem_append.1 broke with before | last
  · exact reflects.issued token before
  · exact absurd (List.mem_singleton.1 last).symm (own token)

/-- What the transport holds is cancelled by the next start or stop. -/
theorem mem_cancels_iff (reflects : t.Reflects history) :
    token ∈ t.slot.toList ++ t.cancelled ↔ token < t.tokens := by
  rw [List.mem_append, Option.mem_toList, reflects.cancelled_iff]
  constructor
  · rintro (slot | ⟨issued, -⟩)
    · exact reflects.held token slot
    · exact issued
  · intro issued
    by_cases slot : t.slot = some token
    · exact .inl slot
    · exact .inr ⟨issued, slot⟩

theorem stop (reflects : t.Reflects history) (now : Nat) :
    Reflects t.stop.1 (history ++ [(now, .ended)]) := by
  rw [stop_eq]
  constructor
  · rw [standing_concat, reflects.standing]
    rfl
  · intro token
    rw [reflects.mem_cancels_iff]
    exact (and_iff_left nofun).symm
  · nofun
  · exact reflects.numbered
  · exact fun token => reflects.issued_concat nofun
  · exact fun _ => rfl
  · nofun

theorem start (reflects : t.Reflects history) (now : Nat) (port : UInt16) :
    Reflects (t.start (.ok port)).1 (history ++ [(now, .opened)]) := by
  have issued {token : Nat} :
      Deed.broke token ∈ (history ++ [(now, Deed.opened)]).map Prod.snd → token < t.tokens :=
    reflects.issued_concat fun _ => nofun
  rw [start_eq]
  constructor
  · rw [standing_concat, reflects.standing]
    rfl
  · intro token
    rw [reflects.mem_cancels_iff]
    show token < t.tokens ↔ token < t.tokens + 1 ∧ some t.tokens ≠ some token
    rw [ne_eq, Option.some_inj]
    omega
  · rintro token ⟨⟩
    exact Nat.lt_succ_self _
  · intro r member
    rcases List.mem_append.1 member with old | new
    · exact Nat.lt_succ_of_lt (reflects.numbered r old)
    · rw [List.mem_singleton.1 new]
      exact Nat.lt_succ_self _
  · exact fun token broke => Nat.lt_succ_of_lt (issued broke)
  · nofun
  · rintro token ⟨⟩
    refine .receives ⟨t.sockets, port⟩ ?_ rfl (receives_concat ?_ (by simp)) ?_
    · have fresh : t.receivers.find? (fun r => r.token = t.tokens) = none := by
        refine List.find?_eq_none.2 fun r member same => ?_
        exact Nat.ne_of_lt (reflects.numbered r member) (of_decide_eq_true same)
      rw [receiver?, List.find?_append, fresh, Option.none_or]
      exact List.find?_cons_of_pos (decide_eq_true rfl)
    · rw [reflects.standing]
      rfl
    · -- a token that has not been issued yet has no history
      exact fun spent => Nat.lt_irrefl _ (issued spent.broke_mem)

theorem listen (reflects : t.Reflects history) (on : Bool) :
    Reflects { t with attached := on } history :=
  ⟨reflects.standing, reflects.cancelled_iff, reflects.held, reflects.numbered, reflects.issued,
    reflects.unbound, fun token slot => (reflects.phase token slot).frame rfl rfl⟩

theorem retire (reflects : t.Reflects history) (cancelled : token ∈ t.cancelled) :
    (t.dropReceiver token).Reflects history := by
  refine ⟨reflects.standing, reflects.cancelled_iff, reflects.held, ?_, reflects.issued,
    reflects.unbound, fun token' slot => ?_⟩
  · exact fun r member => reflects.numbered r (List.mem_of_mem_filter member)
  · have other : token' ≠ token := by
      rintro rfl
      exact ((reflects.cancelled_iff token').1 cancelled).2 slot
    exact (reflects.phase token' slot).frame (receiver?_dropReceiver_of_ne other) rfl

/-- The task whose token is not cancelled has done something. -/
theorem act {t' : DatagramTransport} (reflects : t.Reflects history)
    (slot : t.slot = some token) (own : d.token? = some token)
    (same : (t'.slot, t'.tokens, t'.cancelled) = (t.slot, t.tokens, t.cancelled))
    (fewer : t'.receivers.map Receiver.token ⊆ t.receivers.map Receiver.token)
    (phase : t'.Phase (history ++ [(now, d)]) token) : t'.Reflects (history ++ [(now, d)]) := by
  obtain ⟨same_slot, same_tokens, same_cancelled⟩ :
      t'.slot = t.slot ∧ t'.tokens = t.tokens ∧ t'.cancelled = t.cancelled := by
    simpa using same
  constructor
  · rw [standing_concat, reflects.standing, same_slot, same_tokens]
    cases d <;> first | rfl | cases own
  · rw [same_slot, same_tokens, same_cancelled]
    exact reflects.cancelled_iff
  · rw [same_slot, same_tokens]
    exact reflects.held
  · intro r member
    obtain ⟨old, there, number⟩ := List.mem_map.1 (fewer (List.mem_map_of_mem member))
    rw [same_tokens, ← number]
    exact reflects.numbered old there
  · intro token' broke
    rw [deeds_concat] at broke
    rw [same_tokens]
    rcases List.mem_append.1 broke with before | last
    · exact reflects.issued token' before
    · rw [← List.mem_singleton.1 last] at own
      obtain rfl : token' = token := Option.some.inj own
      exact reflects.held token' slot
  · rw [same_slot, slot]
    nofun
  · intro token' slot'
    rw [same_slot, slot] at slot'
    obtain rfl := Option.some.inj slot'
    exact phase

end Reflects

/-- The token of the task that an event happens to. -/
def Event.token? : Event → Option Nat
  | .receive token _ _ | .receiveFails token _ | .rebind token _ | .retire token => some token
  | _ => none

variable {effect : Effect}

namespace Reflects

end Reflects

end Concentrator.DatagramTransport
