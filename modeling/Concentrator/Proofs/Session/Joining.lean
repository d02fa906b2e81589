import Concentrator.Proofs.IdleMap
import Concentrator.Session.Registry

/-!
# Ways in which a join request can go

A join request with the wrong secret changes nothing. One from a source with a
live session in the group refreshes that session. Every other one is that of a
newcomer, after the source has given up whatever session it had: the newcomer
gets the address of its group or a free one, if the client can be told about it.
-/

namespace Concentrator.Registry

variable {r : Registry} {source : Peer} {session : Session} {group : String} {now : Nat}

/-- The registry after a source that wants to join a group has given up the session it had. -/
def vacate (source : Peer) (group : String) (r : Registry) : Registry :=
  match r.sessions.peek? source with
  | none => r
  | some previous => r.dropPrevious source previous group

theorem vacate_of_absent (absent : r.sessions.peek? source = none) :
    r.vacate source group = r := by
  rw [vacate, absent]

theorem vacate_of_present (present : r.sessions.peek? source = some session) :
    r.vacate source group = r.dropPrevious source session group := by
  rw [vacate, present]

theorem join_cases (r : Registry) (now : Nat) (source : Peer) (request : JoinRequest)
    (offer : Ipv4 → Bool) :
    (request.secret ≠ r.secret ∧
      r.join now source request offer = (r.note (.wrongSecret source), {})) ∨
    (request.secret = r.secret ∧ ∃ session, r.sessions.live? now source = some session ∧
      session.group = request.group ∧
      r.join now source request offer =
        ({ r with sessions := r.sessions.refresh now source },
          ⟨some session.address,
            if offer session.address then some ⟨session.address, false⟩ else none⟩)) ∨
    (request.secret = r.secret ∧
      (∀ session, r.sessions.live? now source = some session → session.group ≠ request.group) ∧
      r.join now source request offer =
        (r.vacate source request.group).admitNew now source request.group offer) := by
  unfold join
  by_cases known : request.secret = r.secret
  · rw [if_neg (not_not.2 known)]
    cases present : r.sessions.peek? source with
    | none =>
      refine .inr (.inr ⟨known, ?_, by rw [vacate_of_absent present]⟩)
      intro session live
      rw [IdleMap.peek?_of_live? live] at present
      cases present
    | some previous =>
      rw [vacate_of_present present]
      cases live : r.sessions.live? now source with
      | none =>
        refine .inr (.inr ⟨known, by simp, if_neg ?_⟩)
        simp [IdleMap.touch, live]
      | some session =>
        obtain rfl : session = previous := by
          rw [IdleMap.peek?_of_live? live] at present
          exact Option.some.inj present
        by_cases same : session.group = request.group
        · refine .inr (.inl ⟨known, session, rfl, same, ?_⟩)
          simp [IdleMap.touch, live, same]
        · refine .inr (.inr ⟨known, ?_, if_neg fun h => same h.1⟩)
          intro other equal
          exact Option.some.inj equal ▸ same
  · exact .inl ⟨known, if_pos known⟩

theorem admitNew_cases (r : Registry) (now : Nat) (source : Peer) (group : String)
    (offer : Ipv4 → Bool) :
    (r.addressFor? group = none ∧
      r.admitNew now source group offer = (r.note (.addressesExhausted source), {})) ∨
    (∃ address, r.addressFor? group = some address ∧ offer address = false ∧
      r.admitNew now source group offer = (r, ⟨some address, none⟩)) ∨
    (∃ address, r.addressFor? group = some address ∧ offer address = true ∧
      r.admitNew now source group offer =
        (r.record now source group address, ⟨some address, some ⟨address, true⟩⟩)) := by
  unfold admitNew
  cases chosen : r.addressFor? group with
  | none => exact .inl ⟨rfl, rfl⟩
  | some address =>
    cases told : offer address with
    | false => exact .inr (.inl ⟨address, rfl, told, by simp [told]⟩)
    | true => exact .inr (.inr ⟨address, rfl, told, by simp [told]⟩)

/-- Who is turned away without having had a session leaves nothing behind but a notice. -/
theorem join_unadmitted {request : JoinRequest} {offer : Ipv4 → Bool}
    (absent : r.sessions.peek? source = none)
    (refused : (r.join now source request offer).2.admission = none) :
    (r.join now source request offer).1 = r ∨
      ∃ n, (r.join now source request offer).1 = r.note n := by
  rcases r.join_cases now source request offer with
    ⟨-, result⟩ | ⟨-, _, live, -, -⟩ | ⟨-, -, result⟩
  · exact .inr ⟨_, congrArg Prod.fst result⟩
  · rw [IdleMap.peek?_of_live? live] at absent
    cases absent
  · rw [vacate_of_absent absent] at result
    rcases r.admitNew_cases now source request.group offer with
      ⟨-, outcome⟩ | ⟨_, -, -, outcome⟩ | ⟨_, -, -, outcome⟩
    · exact .inr ⟨_, congrArg Prod.fst (result.trans outcome)⟩
    · exact .inl (congrArg Prod.fst (result.trans outcome))
    · rw [result, outcome] at refused
      cases refused

end Concentrator.Registry
