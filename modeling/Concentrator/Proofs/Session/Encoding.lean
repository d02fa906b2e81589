import Concentrator.Proofs.Configuration.Range
import Concentrator.Proofs.Session.Requests
import Mathlib.Data.List.TakeWhile

/-!
# Which payloads are join requests

A request can be read exactly if it has the octets of a secret without semicolon, a semicolon
and the octets of a group, all of them one well-formed text (`written_iff`). No character but
the semicolon has the octet of a semicolon in its encoding, so it does not matter whether the
text is cut before or after it is decoded. `parse?_codec` has both directions of the codec.
-/

namespace Concentrator

namespace Bytes

variable {bytes front back front' back' : Bytes} {s t : String} {c : Char}

/-- The octet of a semicolon. -/
def semicolon : UInt8 := 0x3b

theorem semicolon_mem_char_iff : semicolon ∈ String.utf8EncodeChar c ↔ c = ';' := by
  have code : c = ';' ↔ c.val.toNat = 0x3b := by
    rw [← Char.toNat_inj]
    rfl
  -- Beyond 127 the high bit of every octet is set.
  have high : ∀ n, 128 ≤ n → n < 256 → semicolon ≠ UInt8.ofNat n := by
    intro n lower upper equal
    have value := congrArg UInt8.toNat equal
    rw [UInt8.toNat_ofNat', Nat.mod_eq_of_lt upper] at value
    change 0x3b = n at value
    omega
  rw [code, String.utf8EncodeChar]
  split
  · rename_i ascii
    rw [List.mem_singleton, ← UInt8.toNat_inj, UInt8.toNat_ofNat', Nat.mod_eq_of_lt (by omega)]
    exact eq_comm
  · rename_i beyond
    have other : ¬ c.val.toNat = 0x3b := by omega
    repeat' split
    all_goals
      simp only [List.mem_cons, List.not_mem_nil, or_false, other, iff_false, not_or]
      and_intros <;> exact high _ (by omega) (by omega)

theorem semicolon_mem_ofText_iff : semicolon ∈ ofText s ↔ ';' ∈ s.toList := by
  rw [← String.ofList_toList (s := s), ofText_ofList, List.mem_flatMap, String.toList_ofList]
  constructor
  · rintro ⟨c, member, octet⟩
    exact semicolon_mem_char_iff.1 octet ▸ member
  · intro member
    exact ⟨';', member, semicolon_mem_char_iff.2 rfl⟩

theorem ofText_semicolon : ofText ";" = [semicolon] := by
  decide

/-- Whether a byte string is well-formed UTF-8. -/
def WellFormed (bytes : Bytes) : Prop := ByteArray.IsValidUTF8 ⟨bytes.toArray⟩

theorem toText?_eq_some_iff : toText? bytes = some s ↔ bytes = ofText s := by
  constructor
  · intro decoded
    rw [toText?, String.fromUTF8?] at decoded
    split at decoded
    · obtain rfl := Option.some.inj decoded
      rfl
    · cases decoded
  · rintro rfl
    exact toText?_ofText s

theorem ofText_injective (same : ofText s = ofText t) : s = t := by
  have decoded := toText?_ofText s
  rw [same, toText?_ofText] at decoded
  exact (Option.some.inj decoded).symm

theorem ofText_eq_nil_iff : ofText s = [] ↔ s = "" := by
  constructor
  · intro empty
    exact ofText_injective (empty.trans (by decide))
  · rintro rfl
    decide

theorem wellFormed_iff : WellFormed bytes ↔ ∃ s, bytes = ofText s := by
  constructor
  · intro valid
    exact ⟨String.fromUTF8 ⟨bytes.toArray⟩ valid, rfl⟩
  · rintro ⟨s, rfl⟩
    rw [WellFormed, ofText, Array.toArray_toList]
    exact s.isValidUTF8

/-- The first semicolon cuts a byte string in one way. -/
theorem cut_unique (plain : semicolon ∉ front) (plain' : semicolon ∉ front')
    (same : front ++ semicolon :: back = front' ++ semicolon :: back') :
    front = front' ∧ back = back' := by
  have until_cut : ∀ front back : Bytes, semicolon ∉ front →
      (front ++ semicolon :: back).takeWhile (· ≠ semicolon) = front := by
    intro front back plain
    rw [List.takeWhile_append_of_pos]
    · simp
    · intro octet member
      exact decide_eq_true fun equal => plain (equal ▸ member)
  have fronts : front = front' := by
    rw [← until_cut front back plain, same, until_cut front' back' plain']
  subst fronts
  exact ⟨rfl, (List.cons.inj (List.append_cancel_left same)).2⟩

end Bytes

namespace JoinRequest

open Bytes (semicolon ofText)

variable {r : JoinRequest} {payload secret group : Bytes}

theorem split?_eq_some_iff {cs a b : List Char} :
    split? cs = some (a, b) ↔ ';' ∉ a ∧ cs = a ++ ';' :: b := by
  constructor
  · intro cut
    have parts := List.takeWhile_append_dropWhile (p := (· ≠ ';')) (l := cs)
    rw [split?] at cut
    split at cut
    · cases cut
    · rename_i d after found
      obtain ⟨rfl, rfl⟩ := Prod.mk.inj (Option.some.inj cut)
      have first : d = ';' := by
        have stops := List.head?_dropWhile_not (· ≠ ';') cs
        rw [found] at stops
        simpa using stops
      subst first
      rw [found] at parts
      refine ⟨fun member => ?_, parts.symm⟩
      simpa using List.mem_takeWhile_imp member
  · rintro ⟨plain, rfl⟩
    exact split?_append plain b

/-- A request is read from its own encoding and from nothing else. -/
theorem parse?_eq_some_iff :
    parse? payload = some r ↔ payload = r.encode ∧ ';' ∉ r.secret.toList ∧ r.group ≠ "" := by
  constructor
  · intro parsed
    cases payload with
    | nil => cases parsed
    | cons tag body =>
      simp only [parse?, Option.bind_eq_bind, Option.bind_eq_some_iff, Option.guard_eq_some',
        exists_const, Option.pure_def, Option.some.injEq] at parsed
      obtain ⟨rfl, text, decoded, ⟨a, b⟩, cut, named, rfl⟩ := parsed
      obtain ⟨plain, parts⟩ := split?_eq_some_iff.1 cut
      have whole : text = String.ofList a ++ ";" ++ String.ofList b := by
        apply String.toList_injective
        simp [parts]
      refine ⟨?_, by simpa using plain, by simpa using named⟩
      rw [encode_eq, Bytes.toText?_eq_some_iff.1 decoded, whole]
  · rintro ⟨rfl, plain, named⟩
    exact parse?_encode plain named

/-- A payload that has the octets of a secret and of a group where a request has them. -/
structure Written (payload secret group : Bytes) : Prop where
  layout : payload = joinTag :: (secret ++ semicolon :: group)
  wellFormed : Bytes.WellFormed (secret ++ semicolon :: group)
  plain : semicolon ∉ secret
  named : group ≠ []

theorem written_iff : Written payload secret group ↔
    ∃ r, parse? payload = some r ∧ ofText r.secret = secret ∧ ofText r.group = group := by
  constructor
  · rintro ⟨rfl, wellFormed, plain, named⟩
    obtain ⟨text, octets⟩ := Bytes.wellFormed_iff.1 wellFormed
    have present : ';' ∈ text.toList := by
      rw [← Bytes.semicolon_mem_ofText_iff, ← octets]
      exact List.mem_append_right _ List.mem_cons_self
    obtain ⟨a, b, parts, free⟩ := List.eq_append_cons_of_mem present
    have whole : text = String.ofList a ++ ";" ++ String.ofList b := by
      apply String.toList_injective
      simp [parts]
    have free' : ';' ∉ (String.ofList a).toList := by
      rwa [String.toList_ofList]
    -- The octets are cut where the characters are.
    have cut : secret = ofText (String.ofList a) ∧ group = ofText (String.ofList b) := by
      apply Bytes.cut_unique plain (by rwa [Bytes.semicolon_mem_ofText_iff])
      rw [octets, whole, Bytes.ofText_append, Bytes.ofText_append, Bytes.ofText_semicolon]
      simp
    obtain ⟨rfl, rfl⟩ := cut
    refine ⟨⟨String.ofList a, String.ofList b⟩, parse?_eq_some_iff.2 ⟨?_, free', ?_⟩, rfl, rfl⟩
    · rw [encode_eq, ← whole, octets]
    · rwa [ne_eq, ← Bytes.ofText_eq_nil_iff]
  · rintro ⟨r, parsed, rfl, rfl⟩
    obtain ⟨rfl, plain, named⟩ := parse?_eq_some_iff.1 parsed
    refine ⟨?_, ?_, ?_, ?_⟩
    · rw [encode, Bytes.ofText_semicolon]
      simp
    · refine Bytes.wellFormed_iff.2 ⟨r.secret ++ ";" ++ r.group, ?_⟩
      rw [Bytes.ofText_append, Bytes.ofText_append, Bytes.ofText_semicolon]
      simp
    · rwa [Bytes.semicolon_mem_ofText_iff]
    · rwa [ne_eq, Bytes.ofText_eq_nil_iff]

/-- The secret of a sound configuration has no semicolon, so its requests can be read. -/
theorem parse?_of_checked {c : Configuration} {clients : Ipv4 × Ipv4}
    (checked : c.check = .ok clients) {group : String} (named : group ≠ "") :
    parse? (encode ⟨c.sharedSecret, group⟩) = some ⟨c.sharedSecret, group⟩ :=
  parse?_encode (Configuration.check_eq_ok_iff.1 checked).unambiguous named

/-- Payloads are read exactly if they are written as requests, and then as the parts that they
were written with; requests are read back exactly if they are unambiguous, as those with the
secret of a sound configuration are. -/
theorem parse?_codec :
    (∀ payload : Bytes, ((parse? payload).isSome ↔ ∃ secret group, Written payload secret group) ∧
      ∀ secret group, Written payload secret group → ∃ r, parse? payload = some r ∧
        ofText r.secret = secret ∧ ofText r.group = group ∧ r.encode = payload) ∧
    (∀ r : JoinRequest, parse? r.encode = some r ↔ ';' ∉ r.secret.toList ∧ r.group ≠ "") ∧
    ∀ (c c' : Configuration) (clients clients' : Ipv4 × Ipv4) (group group' : String),
      c.check = .ok clients → c'.check = .ok clients' → group ≠ "" → group' ≠ "" →
      parse? (encode ⟨c.sharedSecret, group⟩) = some ⟨c.sharedSecret, group⟩ ∧
        (encode ⟨c.sharedSecret, group⟩ = encode ⟨c'.sharedSecret, group'⟩ →
          c.sharedSecret = c'.sharedSecret ∧ group = group') := by
  refine ⟨fun payload => ⟨?_, ?_⟩, ?_, ?_⟩
  · constructor
    · intro some
      obtain ⟨r, parsed⟩ := Option.isSome_iff_exists.1 some
      exact ⟨_, _, written_iff.2 ⟨r, parsed, rfl, rfl⟩⟩
    · rintro ⟨secret, group, written⟩
      obtain ⟨r, parsed, -, -⟩ := written_iff.1 written
      rw [parsed]
      rfl
  · intro secret group written
    obtain ⟨r, parsed, same, same'⟩ := written_iff.1 written
    exact ⟨r, parsed, same, same', (parse?_eq_some_iff.1 parsed).1.symm⟩
  · intro r
    rw [parse?_eq_some_iff]
    exact and_iff_right rfl
  · intro c c' clients clients' group group' checked checked' named named'
    have back := parse?_of_checked checked named
    refine ⟨back, fun same => ?_⟩
    rw [same, parse?_of_checked checked' named'] at back
    obtain ⟨secrets, groups⟩ := JoinRequest.mk.inj (Option.some.inj back)
    exact ⟨secrets.symm, groups.symm⟩

/-- A secret of one character with two octets, and a group with a semicolon of its own. -/
theorem accented_codec :
    let c : Configuration := { sharedSecret := "é" }
    let payload : Bytes := [0x00, 0xc3, 0xa9, 0x3b, 0x61, 0x3b, 0x62]
    (∃ clients, c.check = .ok clients) ∧ Written payload [0xc3, 0xa9] [0x61, 0x3b, 0x62] ∧
      encode ⟨c.sharedSecret, "a;b"⟩ = payload ∧
      parse? (encode ⟨c.sharedSecret, "a;b"⟩) = some ⟨"é", "a;b"⟩ ∧
      ∃ r, parse? payload = some r ∧ ofText r.secret = [0xc3, 0xa9] ∧ r.encode = payload := by
  intro c payload
  obtain ⟨readings, -, sound⟩ := parse?_codec
  have checked : c.check = .ok (.ofOctets 10 0 0 1, .ofOctets 10 255 255 253) := by decide +kernel
  have written : Written payload [0xc3, 0xa9] [0x61, 0x3b, 0x62] :=
    ⟨rfl, ⟨['é', ';', 'a', ';', 'b'], by decide⟩, by decide, by decide⟩
  obtain ⟨r, parsed, secret, -, same⟩ := (readings payload).2 _ _ written
  have back := (sound c c _ _ "a;b" "a;b" checked checked (by decide) (by decide)).1
  exact ⟨⟨_, checked⟩, written, by decide, back, r, parsed, secret, same⟩

end JoinRequest

end Concentrator
