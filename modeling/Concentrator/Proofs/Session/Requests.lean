import Concentrator.Session.Join
import Mathlib.Data.Option.Basic

/-!
# Join requests are read as they were written
-/

namespace Concentrator

namespace Bytes

theorem toText?_ofText (s : String) : toText? (ofText s) = some s := by
  unfold toText? ofText
  rw [Array.toArray_toList]
  exact dif_pos s.isValidUTF8

theorem ofText_append (s t : String) : ofText (s ++ t) = ofText s ++ ofText t := by
  simp [ofText]

theorem ofText_ofList (cs : List Char) :
    ofText (String.ofList cs) = cs.flatMap String.utf8EncodeChar := by
  simp [ofText, String.ofList, List.utf8Encode]

end Bytes

namespace JoinRequest

variable {r : JoinRequest}

/-- The first semicolon is the one behind a secret that has none. -/
theorem split?_append {secret : List Char} (plain : ';' ∉ secret) (group : List Char) :
    split? (secret ++ ';' :: group) = some (secret, group) := by
  have other : ∀ c ∈ secret, decide (c ≠ ';') = true := by
    intro c member
    apply decide_eq_true
    rintro rfl
    exact plain member
  rw [split?, List.dropWhile_append_of_pos other, List.takeWhile_append_of_pos other]
  simp

theorem encode_eq (r : JoinRequest) :
    r.encode = joinTag :: Bytes.ofText (r.secret ++ ";" ++ r.group) := by
  rw [encode, Bytes.ofText_append, Bytes.ofText_append]

theorem parse?_encode (plain : ';' ∉ r.secret.toList) (named : r.group ≠ "") :
    parse? r.encode = some r := by
  have body : (r.secret ++ ";" ++ r.group).toList = r.secret.toList ++ ';' :: r.group.toList := by
    simp
  have group : r.group.toList ≠ [] := by simpa using named
  rw [encode_eq, parse?]
  simp only [Bytes.toText?_ofText, Option.bind_eq_bind, Option.bind_some, body,
    split?_append plain, String.ofList_toList]
  simp [group, guard]

/-- Nothing but a join request is read as one. -/
theorem kind?_of_parse? {payload : Bytes} (parsed : parse? payload = some r) :
    Payload.kind? payload = some .join := by
  cases payload with
  | nil => cases parsed
  | cons tag body =>
    by_cases join : tag = joinTag
    · simp [Payload.kind?, join]
    · simp [parse?, join, guard] at parsed

end JoinRequest

end Concentrator
