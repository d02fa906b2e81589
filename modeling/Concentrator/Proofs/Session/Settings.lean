import Concentrator.Proofs.Address.Ipv4
import Concentrator.Session.Settings

/-!
# Client settings can be told from their text

A client reads the fields one after the other. Every field but the last ends before a character
that cannot be part of it, and a field that is left out is told by the tag of the one behind it.
The search domain is last and takes whatever there is, so it may look like any other field.
`render_readable` says that nothing is lost.
-/

namespace Concentrator.ClientSettings

open Text Text.Scan

/-- What settings say to the client with some address. -/
structure Told where
  mtu : UInt16
  address : Ipv4
  prefixLength : UInt8
  dnsServer : Option Ipv4
  routeAddress : Ipv4
  routePrefix : Nat
  searchDomain : Option String
deriving DecidableEq

def told (s : ClientSettings) (address : Ipv4) : Told where
  mtu := s.mtu
  address := address
  prefixLength := s.prefixLength
  dnsServer := s.dnsServer
  routeAddress := s.route.network
  routePrefix := s.route.prefixLength
  searchDomain := s.searchDomain

/-! ### Reading -/

section Fields

variable {α : Type} {tag t : Char} {p : Scan α} {a : α} {cs rest : List Char}

/-- A field behind its tag. -/
def tagged (tag : Char) (p : Scan α) : Scan α := do
  char ' '
  char tag
  char ','
  p

/-- A field, or nothing where it has been left out. -/
def optionally (tag : Char) (p : Scan α) : Scan (Option α) :=
  (do return some (← tagged tag p)) <|> pure none

/-- All that is left. -/
def remainder : Scan String := fun cs => some (String.ofList cs, [])

def scan : Scan Told := do
  let mtu ← tagged 'm' (number { bound := 65536 })
  let address ← tagged 'a' (Ipv4.scan false)
  char ','
  let length ← number { bound := 256 }
  let dnsServer ← optionally 'd' (Ipv4.scan false)
  let routeAddress ← tagged 'r' (Ipv4.scan false)
  char ','
  let routePrefix ← number { bound := 33 }
  let searchDomain ← optionally 's' remainder
  return ⟨.ofNat mtu, address, .ofNat length, dnsServer, routeAddress, routePrefix, searchDomain⟩

def read? (text : String) : Option Told := scan.all? text

theorem tagged_cons (tag : Char) (p : Scan α) (cs : List Char) :
    tagged tag p (' ' :: tag :: ',' :: cs) = p cs := by
  rw [tagged, bind_eq (char_cons ' ' _), bind_eq (char_cons tag _), bind_eq (char_cons ',' _)]

theorem tagged_other (other : t ≠ tag) (p : Scan α) (cs : List Char) :
    tagged tag p (' ' :: t :: cs) = none := by
  rw [tagged, bind_eq (char_cons ' ' _)]
  change ((char tag) (t :: cs)).bind _ = none
  rw [char, if_neg other]
  rfl

theorem optionally_present (taken : p cs = some (a, rest)) :
    optionally tag p (' ' :: tag :: ',' :: cs) = some (some a, rest) := by
  refine orElse_of_some ?_
  rw [bind_eq ((tagged_cons tag p cs).trans taken)]
  rfl

theorem optionally_absent (failed : tagged tag p cs = none) :
    optionally tag p cs = some (none, cs) := by
  refine (orElse_of_none ?_).trans rfl
  change (tagged tag p cs).bind _ = none
  rw [failed]
  rfl

theorem toList_field {name : String} (spelt : name.toList = [tag]) (value : String) :
    (field name (some value)).toList = ' ' :: tag :: ',' :: value.toList := by
  simp [field, spelt]

/-- An optional field is read, or found to be left out, where its tag does not follow it. -/
theorem optionally_field {name : String} (spelt : name.toList = [tag]) {write : α → String}
    (reads : ∀ a, p ((write a).toList ++ rest) = some (a, rest)) (failed : tagged tag p rest = none)
    (value : Option α) :
    optionally tag p ((field name (value.map write)).toList ++ rest) = some (value, rest) := by
  cases value with
  | none => exact optionally_absent failed
  | some a =>
    rw [Option.map_some, toList_field spelt]
    exact optionally_present (reads a)

theorem stops_field {name : String} (spelt : name.toList = [tag]) (value : Option String)
    (stops : Stops rest) : Stops ((field name value).toList ++ rest) := by
  cases value with
  | none => exact stops
  | some value =>
    rw [toList_field spelt]
    exact stops_cons rfl

end Fields

/-! ### Reading what was rendered -/

variable {s s' : ClientSettings} {address address' : Ipv4}

theorem toList_render (s : ClientSettings) (address : Ipv4) : (s.render address).toList =
    ' ' :: 'm' :: ',' :: (digits s.mtu.toNat ++ ' ' :: 'a' :: ',' :: (address.text.toList ++ ',' ::
      (digits s.prefixLength.toNat ++ ((field "d" (s.dnsServer.map Ipv4.text)).toList ++
        ' ' :: 'r' :: ',' :: (s.route.network.text.toList ++ ',' :: (digits s.route.prefixLength ++
          ((field "s" s.searchDomain).toList ++ []))))))) := by
  have mtu : " m,".toList = [' ', 'm', ','] := rfl
  have own : " a,".toList = [' ', 'a', ','] := rfl
  have route : " r,".toList = [' ', 'r', ','] := rfl
  have comma : ",".toList = [','] := rfl
  -- the equation of `render` takes seconds to derive
  delta render
  simp only [decimal, String.toList_append, String.toList_ofList, mtu, own, route, comma,
    List.append_assoc, List.cons_append, List.nil_append, List.append_nil]

theorem read?_render (s : ClientSettings) (address : Ipv4) :
    read? (s.render address) = some (s.told address) := by
  have blank : ∀ rest, Stops (' ' :: rest) := fun rest => stops_cons rfl
  have comma : ∀ rest, Stops (',' :: rest) := fun rest => stops_cons rfl
  have numeral : ∀ {n bound : Nat} {rest : List Char}, n < bound → Stops rest →
      number { bound } (digits n ++ rest) = some (n, rest) := by
    intro n bound rest below stops
    exact number_digits rfl below (by intro most limit; cases limit) stops
  have narrow : s.route.prefixLength < 33 := Nat.lt_succ_of_le s.route.prefixLength_le
  have server : ∀ rest, optionally 'd' (Ipv4.scan false)
      ((field "d" (s.dnsServer.map Ipv4.text)).toList ++ ' ' :: 'r' :: rest) =
        some (s.dnsServer, ' ' :: 'r' :: rest) := fun rest =>
    optionally_field rfl (fun server => Ipv4.scan_text false server (blank _))
      (tagged_other (by decide) _ _) s.dnsServer
  have domain : optionally 's' remainder ((field "s" (s.searchDomain.map id)).toList ++ []) =
      some (s.searchDomain, []) :=
    optionally_field rfl (by simp [remainder]) rfl s.searchDomain
  rw [Option.map_id, id_eq] at domain
  have whole : scan (s.render address).toList = some (s.told address, []) := by
    unfold scan
    rw [toList_render,
      bind_eq ((tagged_cons 'm' _ _).trans (numeral s.mtu.toNat_lt (blank _))),
      bind_eq ((tagged_cons 'a' _ _).trans (Ipv4.scan_text false address (comma _))),
      bind_eq (char_cons ',' _),
      bind_eq (numeral s.prefixLength.toNat_lt
        (stops_field (rfl : "d".toList = ['d']) _ (blank _))),
      bind_eq (server _),
      bind_eq ((tagged_cons 'r' _ _).trans (Ipv4.scan_text false s.route.network (comma _))),
      bind_eq (char_cons ',' _),
      bind_eq (numeral narrow (stops_field (rfl : "s".toList = ['s']) _ stops_nil)),
      bind_eq domain, UInt16.ofNat_toNat, UInt8.ofNat_toNat]
    rfl
  rw [read?, all?, whole]

/-- A text depends on nothing but what it says. -/
theorem render_congr (same : s.told address = s'.told address') :
    s.render address = s'.render address' := by
  simp only [told, Told.mk.injEq] at same
  obtain ⟨mtu, rfl, length, dns, route, routePrefix, domain⟩ := same
  delta render
  rw [mtu, length, dns, route, routePrefix, domain]

theorem reply?_isSome : (s.reply? address).isSome ↔
    1 + (Bytes.ofText (s.render address)).length ≤ 32767 := by
  rw [reply?, Nat.add_comm]
  split
  · rename_i fits
    exact iff_of_true rfl fits
  · rename_i long
    exact iff_of_false Bool.false_ne_true long

/-- What a client is told can be read off the text, so that two texts are the same exactly if they
say the same, and it is sent exactly if it fits in a payload with its tag. -/
theorem render_readable :
    (∀ (s : ClientSettings) (address : Ipv4), read? (s.render address) = some (s.told address)) ∧
    (∀ (s s' : ClientSettings) (address address' : Ipv4),
      s.render address = s'.render address' ↔ s.told address = s'.told address') ∧
    ∀ (s : ClientSettings) (address : Ipv4),
      (s.reply? address).isSome ↔ 1 + (Bytes.ofText (s.render address)).length ≤ 32767 := by
  refine ⟨read?_render, ?_, fun s address => reply?_isSome⟩
  intro s s' address address'
  constructor
  · intro same
    have read := s.read?_render address
    rw [same, read?_render] at read
    exact (Option.some.inj read).symm
  · exact render_congr

/-- A search domain that looks like further fields is still the search domain. -/
example : read? " m,1400 a,10.0.0.7,8 r,0.0.0.0,0 s,x d,8.8.8.8 r,10.0.0.0,8" =
    some ⟨1400, .ofOctets 10 0 0 7, 8, none, .ofOctets 0 0 0 0, 0,
      some "x d,8.8.8.8 r,10.0.0.0,8"⟩ := by
  decide +kernel

end Concentrator.ClientSettings
