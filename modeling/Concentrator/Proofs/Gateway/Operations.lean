import Concentrator.Proofs.Gateway.Admission
import Concentrator.Proofs.Session.Dispatch

/-!
# Steps of the plane as operations

Every step of a plane that is at rest does one operation of its registry, and the
balancer hears of all that the operation changes. A packet that comes in and has a
mapping takes a turn before that.
-/

namespace Concentrator.Plane

variable {p q : Plane} {b : Balancer} {source : Peer} {payload : Bytes}

/-- The address that the packet of an arrival is for. -/
def target? (p : Plane) : Event → Option Ipv4
  | .arrival packet => (p.masquerade.inbound p.now packet).2.2.map Endpoint.address
  | _ => none

/-- The balancer once an arrival has taken its turn. -/
def turned (p : Plane) (e : Event) : Balancer :=
  match p.target? e with
  | none => p.balancer
  | some address => (p.balancer.next address p.registry).1

theorem turned_of_none {e : Event} (target : p.target? e = none) : p.turned e = p.balancer := by
  rw [turned, target]

theorem turned_of_some {e : Event} {address : Ipv4} (target : p.target? e = some address) :
    p.turned e = (p.balancer.next address p.registry).1 := by
  rw [turned, target]

/-- What a request to join comes to, if it is read at all. -/
def joining (source : Peer) (payload : Bytes) (p : Plane) : Registry.Event :=
  match p.receiving, JoinRequest.parse? payload with
  | true, some request => .join source request fun address => (p.settings.reply? address).isSome
  | _, _ => .advance 0

/-- The operation of the registry that a step comes to. Letting no time pass does nothing. -/
def operation (p : Plane) : Event → Registry.Event
  | .message source payload =>
    if Payload.oversized payload then .advance 0
    else
      match Payload.kind? payload with
      | some .join => p.joining source payload
      | some .leave => .leave source
      | some .data => .lookup source
      | none => .advance 0
  | .sweep => .sweep
  | .lose _ _ => .clear
  | .arrival _ | .receive _ | .advance _ => .advance 0

/-- The registry is what an operation makes of it, with its journals emptied, and the balancer has
heard of the changes. -/
structure Operates (p q : Plane) (b : Balancer) (operation : Registry.Event) : Prop where
  registry : q.registry =
    { (Registry.step ⟨p.registry, p.now⟩ operation).state with changes := [], notices := [] }
  balancer : q.balancer =
    (Registry.step ⟨p.registry, p.now⟩ operation).state.changes.foldl Dispatch.follow b

variable {operation : Registry.Event}

theorem follow_balancer (p : Plane) (c : Change) :
    (p.follow c).balancer = Dispatch.follow p.balancer c := by
  cases c <;> rfl

theorem settle_balancer (p : Plane) :
    p.settle.1.balancer = p.registry.changes.foldl Dispatch.follow p.balancer := by
  have carried (changes : List Change) (p : Plane) :
      (changes.foldl follow p).balancer = changes.foldl Dispatch.follow p.balancer := by
    induction changes generalizing p with
    | nil => rfl
    | cons c rest ih => exact (ih (p.follow c)).trans (by rw [follow_balancer, List.foldl_cons])
  exact carried _ _

theorem operates_of_settle
    (registry : q.registry = (Registry.step ⟨p.registry, p.now⟩ operation).state)
    (balancer : q.balancer = b) : Operates p q.settle.1 b operation where
  registry := by rw [q.settle_keeps.1, registry]
  balancer := by rw [settle_balancer, registry, balancer]

/-- Letting no time pass is the operation that does nothing. -/
theorem AtRest.operates (rest : p.AtRest) (registry : q.registry = p.registry)
    (balancer : q.balancer = b) : Operates p q b (.advance 0) where
  registry := by rw [registry, Registry.step, ← rest.changes, ← rest.sessions]
  balancer := by simp [balancer, Registry.step, rest.changes]

theorem leave_operates (rest : p.AtRest) (source : Peer) :
    Operates p (p.leave source).1 p.balancer (.leave source) := by
  unfold leave
  cases present : p.registry.sessions.peek? source with
  | none =>
    have left : p.registry.leave source = (p.registry, none) := by
      simp only [Registry.leave, present]
    rw [left]
    constructor
    · rw [Registry.step, left, ← rest.changes, ← rest.sessions]
    · simp [Registry.step, left, rest.changes]
  | some session =>
    rcases left : p.registry.leave source with ⟨registry, _ | session⟩
    · simp [Registry.leave, present] at left
    · exact operates_of_settle (by rw [Registry.step, left]; rfl) rfl

theorem data_operates (p : Plane) (source : Peer) (payload : Bytes) :
    Operates p (p.data source payload).1 p.balancer (.lookup source) := by
  unfold data
  rcases looked : p.registry.lookup p.now source with ⟨registry, found⟩
  have settled {q : Plane} (same : q.registry = registry) (balancer : q.balancer = p.balancer) :
      Operates p q.settle.1 p.balancer (.lookup source) :=
    operates_of_settle (by rw [same, Registry.step, looked]) balancer
  cases found with
  | none => exact settled rfl rfl
  | some session =>
    dsimp only
    split
    · exact settled rfl rfl
    · rcases p.masquerade.outbound p.now payload with ⟨masquerade, packet, _ | port⟩
      · exact settled rfl rfl
      · exact settled rfl rfl

theorem arrival_operates (p : Plane) (packet : Bytes) :
    Operates p (p.arrival packet).1 (p.turned (.arrival packet)) (.advance 0) := by
  rcases inbound : p.masquerade.inbound p.now packet with ⟨masquerade, packet', _ | internal⟩
  · have target : p.target? (.arrival packet) = none := by rw [target?, inbound]; rfl
    rw [arrival, inbound, turned_of_none target]
    exact operates_of_settle rfl rfl
  · have target : p.target? (.arrival packet) = some internal.address := by
      rw [target?, inbound]
      rfl
    rw [arrival, inbound, turned_of_some target]
    dsimp only
    rcases p.balancer.next internal.address p.registry with ⟨balancer, _ | destination⟩
    · exact operates_of_settle rfl rfl
    · exact operates_of_settle rfl rfl

theorem sweep_operates (p : Plane) : Operates p p.sweep.1 p.balancer .sweep := by
  unfold sweep
  rcases swept : p.registry.sweep p.now with ⟨registry, sessions⟩
  have settled : Operates p { p with registry }.settle.1 p.balancer .sweep :=
    operates_of_settle (by rw [Registry.step, swept]) rfl
  dsimp only
  generalize { p with registry }.settle.1 = first at settled ⊢
  -- the second time nothing is left to carry over
  constructor
  · rw [(settle_keeps _).1, settled.registry]
  · rw [settle_balancer, settled.registry]
    exact settled.balancer

theorem join_operates (rest : p.AtRest) (source : Peer) (payload : Bytes) :
    Operates p (p.join source payload).1 p.balancer (p.joining source payload) := by
  rcases p.join_cases source payload with
    ⟨unread, after, -⟩ | ⟨request, registry, outcome, receiving, parsed, result, after, -⟩
  · have nothing : p.joining source payload = .advance 0 := by
      rcases unread with closed | unreadable
      · simp [joining, closed]
      · cases receiving : p.receiving <;> simp [joining, receiving, unreadable]
    rw [nothing]
    exact rest.operates (by rw [after, count]) (by rw [after, count])
  · have joins : p.joining source payload =
        .join source request fun address => (p.settings.reply? address).isSome := by
      rw [joining, receiving, parsed]
    have settled : Operates p { p with registry }.settle.1 p.balancer
        (p.joining source payload) :=
      operates_of_settle (by rw [joins, Registry.step, result]) rfl
    rw [after]
    exact ⟨settled.registry, settled.balancer⟩

theorem message_operates (rest : p.AtRest) (source : Peer) (payload : Bytes) :
    Operates p (p.message source payload).1 p.balancer (p.operation (.message source payload)) := by
  simp only [message, operation]
  cases Payload.oversized payload with
  | true => exact rest.operates rfl rfl
  | false =>
    cases Payload.kind? payload with
    | none => exact rest.operates rfl rfl
    | some kind =>
      cases kind with
      | join => exact join_operates rest source payload
      | leave => exact leave_operates rest source
      | data => exact p.data_operates source payload

theorem step_operates (rest : p.AtRest) (e : Event) :
    Operates p (p.step e).1 (p.turned e) (p.operation e) := by
  cases e with
  | message source payload => exact message_operates rest source payload
  | arrival packet => exact p.arrival_operates packet
  | sweep => exact p.sweep_operates
  | lose transport byUser => exact operates_of_settle rfl rfl
  | receive enabled => exact rest.operates rfl rfl
  | advance milliseconds => exact rest.operates rfl rfl

/-- Only a message of the peer itself makes it join. -/
theorem message_of_joins {e : Event} {request : JoinRequest} {offer : Ipv4 → Bool}
    (joins : p.operation e = .join source request offer) :
    ∃ payload, e = .message source payload ∧ JoinRequest.parse? payload = some request := by
  cases e with
  | message other payload =>
    refine ⟨payload, ?_⟩
    simp only [operation, joining] at joins
    split at joins
    · cases joins
    · split at joins
      · split at joins
        · rename_i parsed
          cases joins
          exact ⟨rfl, parsed⟩
        · cases joins
      all_goals cases joins
  | _ => cases joins

/-! ### What no step changes -/

/-- The settings stay, and time does not run back. -/
structure Abides (p q : Plane) : Prop where
  settings : q.settings = p.settings
  reliable : q.reliable = p.reliable
  now : p.now ≤ q.now

theorem Abides.trans {u : Plane} (before : p.Abides q) (after : q.Abides u) : p.Abides u :=
  ⟨after.settings.trans before.settings, after.reliable.trans before.reliable,
    Nat.le_trans before.now after.now⟩

theorem settle_settings (p : Plane) : p.settle.1.settings = p.settings :=
  List.foldlRecOn (motive := fun q => q.settings = p.settings) p.registry.changes follow
    (b := { p with registry := { p.registry with changes := [], notices := [] } }) rfl
    fun q same change _ => by cases change <;> exact same

theorem Abides.settle (abides : p.Abides q) : p.Abides q.settle.1 := by
  obtain ⟨-, now, reliable⟩ := q.settle_keeps
  exact ⟨q.settle_settings.trans abides.settings, reliable.trans abides.reliable,
    now ▸ abides.now⟩

theorem join_abides (p : Plane) (source : Peer) (payload : Bytes) :
    p.Abides (p.join source payload).1 := by
  rcases p.join_cases source payload with
    ⟨-, after, -⟩ | ⟨request, registry, outcome, -, -, -, after, -⟩ <;> rw [after]
  · exact ⟨rfl, rfl, Nat.le_refl _⟩
  · have settled : p.Abides { p with registry }.settle.1 :=
      Abides.settle ⟨rfl, rfl, Nat.le_refl _⟩
    exact ⟨settled.settings, settled.reliable, settled.now⟩

theorem step_abides (p : Plane) (e : Event) : p.Abides (p.step e).1 := by
  have still : p.Abides p := ⟨rfl, rfl, Nat.le_refl _⟩
  cases e with
  | message source payload =>
    simp only [step, message]
    split
    · exact ⟨rfl, rfl, Nat.le_refl _⟩
    · split
      · exact p.join_abides source payload
      · unfold leave
        split
        · exact still
        · exact Abides.settle ⟨rfl, rfl, Nat.le_refl _⟩
      · unfold data
        split
        · exact Abides.settle ⟨rfl, rfl, Nat.le_refl _⟩
        · dsimp only
          split
          · exact Abides.settle ⟨rfl, rfl, Nat.le_refl _⟩
          · split
            · exact Abides.settle ⟨rfl, rfl, Nat.le_refl _⟩
            · exact Abides.settle ⟨rfl, rfl, Nat.le_refl _⟩
      · exact ⟨rfl, rfl, Nat.le_refl _⟩
  | arrival packet =>
    simp only [step, arrival]
    split
    · exact Abides.settle ⟨rfl, rfl, Nat.le_refl _⟩
    · split
      · exact Abides.settle ⟨rfl, rfl, Nat.le_refl _⟩
      · exact Abides.settle ⟨rfl, rfl, Nat.le_refl _⟩
  | sweep =>
    have first : p.Abides { p with registry := (p.registry.sweep p.now).1 }.settle.1 :=
      Abides.settle ⟨rfl, rfl, Nat.le_refl _⟩
    exact Abides.settle ⟨first.settings, first.reliable, first.now⟩
  | lose transport byUser => exact Abides.settle ⟨rfl, rfl, Nat.le_refl _⟩
  | receive enabled => exact ⟨rfl, rfl, Nat.le_refl _⟩
  | advance milliseconds => exact ⟨rfl, rfl, Nat.le_add_right _ _⟩

end Concentrator.Plane
