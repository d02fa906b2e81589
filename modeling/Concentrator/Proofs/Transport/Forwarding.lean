import Concentrator.Proofs.Json.Quoted
import Concentrator.Proofs.Text.Base64
import Concentrator.Simulation.Station

/-!
# Frames reach the peer that they were written for

The message relay passes a frame on under the name of its sender: where the frame
says "to" it now says "FROM", and nothing else is different. `decode?_of_renamed`
says that any text with the members of such a frame is decoded to the payload, and
`outgoing_delivered` what becomes of it behind a connection.
-/

namespace Concentrator

namespace Json.Tree

/-- An object whose members of one name have another name. -/
def rename (old new : String) : Tree → Tree
  | .object members => .object (members.map fun (key, tree) =>
      (if text? key = some old then written new else key, tree))
  | tree => tree

end Json.Tree

namespace Frame

open Json

variable {peer peer' text : String} {payload payload' : Bytes}

/-! ### Texts -/

theorem reads_objectText (members : List (String × String)) :
    Reads (objectText members).toList (objectTokens members) := by
  have member : ∀ member : String × String, Reads
      (Value.quote member.1 ++ ":" ++ Value.quote member.2).toList (memberTokens member) := by
    intro member
    simp only [String.toList_append]
    exact ((reads_quote member.1).append (reads_punctuation rfl)).append (reads_quote member.2)
  have comma : Reads [','] [.comma] := reads_punctuation rfl
  simp only [objectText, String.toList_append, String.toList_intercalate, List.map_map,
    List.append_assoc]
  exact (reads_punctuation rfl).append
    ((comma.intercalate member members).append (reads_punctuation rfl))

theorem parse?_objectText (members : List (String × String)) :
    Tree.parse? (objectText members) = some (.object (members.map memberTree)) := by
  rw [Tree.parse?, (reads_objectText members).tokens?_eq, Option.bind_eq_bind, Option.bind_some,
    build_object]
  rfl

theorem ofTree?_renamed (peer body : String) :
    Members.ofTree? (.object [memberTree ("FROM", peer), memberTree ("data", body)]) =
      some { sender := some (some peer), data := some (some body) } := by
  simp [Members.ofTree?, Members.add?, optionalText?, memberTree, text?_written]

/-- However the relay writes the frame, it is enough that its members are those of the frame that
was sent, with the receiver's under the other name. -/
theorem decode?_of_renamed
    (renamed : Tree.parse? text = (Tree.parse? (outgoing peer payload)).map (.rename "to" "FROM")) :
    decode? text = some (.data peer payload) := by
  rw [outgoing, carry, parse?_objectText] at renamed
  have members : Tree.parse? text = some (.object [memberTree ("FROM", peer),
      memberTree ("data", String.ofList (Text.Base64.encode payload))]) := by
    rw [renamed]
    simp [Tree.rename, memberTree, text?_written]
  rw [decode?, members, Option.bind_eq_bind, Option.bind_some, ofTree?_renamed]
  simp [ofMembers?, Text.Base64.decode?_encode]

/-- The frame as the relay passes it on: the member that stands first gets another name. -/
def forward (frame : String) : String :=
  match frame.toList with
  | '\x7b' :: '"' :: 't' :: 'o' :: '"' :: rest => "\x7b\"FROM\"" ++ String.ofList rest
  | _ => frame

theorem forward_outgoing (peer : String) (payload : Bytes) :
    forward (outgoing peer payload) = incoming peer payload := by
  obtain ⟨rest, front⟩ : ∃ rest, ∀ party,
      carry party peer payload = "\x7b" ++ Value.quote party ++ String.ofList rest := by
    refine ⟨(":" ++ Value.quote peer ++ "," ++ (Value.quote "data" ++ ":" ++
      Value.quote (String.ofList (Text.Base64.encode payload))) ++ "\x7d").toList, fun party => ?_⟩
    simp [carry, objectText, String.append_assoc]
  have receiver : Value.quote "to" = "\"to\"" := by decide
  have sender : Value.quote "FROM" = "\"FROM\"" := by decide
  rw [outgoing, incoming, front, front, receiver, sender, forward]
  simp

theorem parse?_forward (peer : String) (payload : Bytes) :
    Tree.parse? (forward (outgoing peer payload)) =
      (Tree.parse? (outgoing peer payload)).map (.rename "to" "FROM") := by
  rw [forward_outgoing, outgoing, incoming, carry, carry, parse?_objectText, parse?_objectText]
  simp [Tree.rename, memberTree, text?_written]

theorem decode?_forward (peer : String) (payload : Bytes) :
    decode? (forward (outgoing peer payload)) = some (.data peer payload) :=
  decode?_of_renamed (parse?_forward peer payload)

theorem outgoing_injective (same : outgoing peer payload = outgoing peer' payload') :
    peer = peer' ∧ payload = payload' := by
  have read := decode?_forward peer payload
  rw [same, decode?_forward, Option.some.injEq, data.injEq] at read
  exact ⟨read.1.symm, read.2.symm⟩

end Frame

namespace MessageRelay

variable {m : MessageRelay} {call : Nat} {peer text : String} {payload : Bytes}

/-- The messages of a connection are read: its start is over, and nothing has ended it. -/
def reading (call : Nat) (m : MessageRelay) : Bool :=
  m.attempt? call = none ∧ (m.connection? call).any fun c => ¬ c.cancelled

theorem arrive_text (reading : m.reading call = true) (text : String) :
    m.arrive call (.text text) = (m, m.deliver text) := by
  obtain ⟨ended, going⟩ : m.attempt? call = none ∧
      (m.connection? call).any (fun c => ¬ c.cancelled) = true := by
    simpa [MessageRelay.reading] using reading
  rw [arrive, ended]
  cases found : m.connection? call with
  | none => simp [found] at going
  | some c =>
    have read : c.cancelled = false := by simpa [found] using going
    simp [read, MessageRelay.read]

/-- A payload that is empty or too long is noted, and only listeners get the others. -/
theorem deliver_data (decoded : Frame.decode? text = some (.data peer payload)) :
    m.deliver text =
      if 1 ≤ payload.length ∧ payload.length ≤ 32767 then
        if m.attached then [.deliver peer payload] else []
      else [.notice (.messageRefused payload.length peer)] := by
  have fits : Payload.admissible payload =
      decide (1 ≤ payload.length ∧ payload.length ≤ 32767) := by
    cases payload <;> simp [Payload.admissible, maxPayload]
  simp only [deliver, decoded, fits, decide_eq_true_eq, ite_not]

end MessageRelay

namespace Frame

/-- A frame that the relay passes on is decoded to the payload under the name of its peer. The
listener gets it once if its length is right, and nothing otherwise. Two different payloads or peers
never have the same frame. -/
theorem outgoing_delivered :
    (∀ peer payload, decode? (forward (outgoing peer payload)) = some (.data peer payload)) ∧
    (∀ (s : Station) (m : MessageRelay) (call : Nat), m.reading call = true → m.attached = true →
      ∀ peer payload,
        (s.relayStep m (.arrive call (.text (forward (outgoing peer payload))))).receipts =
          s.receipts ++ if 1 ≤ payload.length ∧ payload.length ≤ 32767 then
            [.message (.relay peer) payload] else []) ∧
    ∀ peer peer' payload payload',
      outgoing peer payload = outgoing peer' payload' ↔ peer = peer' ∧ payload = payload' := by
  refine ⟨decode?_forward, ?_, ?_⟩
  · intro s m call reading attached peer payload
    have arrived := MessageRelay.arrive_text reading (forward (outgoing peer payload))
    rw [MessageRelay.deliver_data (decode?_forward peer payload), if_pos attached] at arrived
    simp only [Station.relayStep, MessageRelay.step, arrived]
    split
    · rfl
    · simp [Station.followRelay]
  · intro peer peer' payload payload'
    constructor
    · exact outgoing_injective
    · rintro ⟨rfl, rfl⟩
      rfl

/-- A name that looks like the end of a frame is still the name of a peer. -/
theorem oddName_delivered :
    let m := (MessageRelay.run { url := "", id := "" } [(0, .listen true), (0, .start),
      (0, .connected 1 ""), (0, .arrive 1 (.text "\x7b\"auth\":\"OK\"\x7d"))]).1
    let peer := "\",\"FROM\":\"to\\\x01é"
    (m.reading 1 = true ∧ m.attached = true) ∧
      (({ link := .relay m } : Station).relayStep m
        (.arrive 1 (.text (forward (outgoing peer [0, 107, 59, 103]))))).receipts =
          [.message (.relay peer) [0, 107, 59, 103]] := by
  intro m peer
  have reading : m.reading 1 = true := by decide +kernel
  have attached : m.attached = true := by decide +kernel
  exact ⟨⟨reading, attached⟩,
    outgoing_delivered.2.1 { link := .relay m } m 1 reading attached peer [0, 107, 59, 103]⟩

end Frame

end Concentrator
