import Concentrator.Json.Value
import Concentrator.Proofs.Text.Numeral

/-!
# Quoted strings are read as they were written

There are three ways of writing a character. `Writes` names them, and what is
proved of each is what the lexer makes of it and that its piece means the
character again. `reads_quote` and `text?_written` follow for strings, and
`build_object` for objects whose members are strings.
-/

namespace Concentrator.Json

open Value

/-- How a character stands in a written string: the controls that have no escape of their own are
written as units. -/
def piece (c : Char) : Piece :=
  if c.toNat < 32 ∧ c ∉ ['\x08', '\t', '\n', '\x0c', '\r'] then .unit c.toNat else .char c

def written (s : String) : List Piece := s.toList.map piece

theorem foldlM_append_eq {α β : Type} {f : β → α → Option β} {b b' : β} {as : List α}
    (folded : as.foldlM f b = some b') (more : List α) :
    (as ++ more).foldlM f b = more.foldlM f b' := by
  rw [List.foldlM_append, folded]
  rfl

/-! ### Characters -/

inductive Writes (c : Char) : List Char → Piece → Prop
  | plain : c ≠ '"' → c ≠ '\\' → 32 ≤ c.toNat → Writes c [c] (.char c)
  | short (d : Char) : d ≠ 'u' → Lexer.escape? d = some c → Writes c ['\\', d] (.char c)
  | unit : c.toNat < 32 → Writes c
      ['\\', 'u', '0', '0', Text.digitChar (c.toNat / 16), Text.digitChar (c.toNat % 16)]
      (.unit c.toNat)

theorem escape_writes (c : Char) : Writes c (escape c) (piece c) := by
  by_cases named : c ∈ ['"', '\\', '\x08', '\t', '\n', '\x0c', '\r']
  · simp only [List.mem_cons, List.not_mem_nil, or_false] at named
    rcases named with rfl | rfl | rfl | rfl | rfl | rfl | rfl <;>
      exact .short _ (by decide) rfl
  · simp only [List.mem_cons, List.not_mem_nil, or_false, not_or] at named
    obtain ⟨quote, backslash, backspace, tab, newline, feed, back⟩ := named
    rw [escape, piece, if_neg quote, if_neg backslash, if_neg backspace, if_neg tab,
      if_neg newline, if_neg feed, if_neg back]
    by_cases control : c.toNat < 32
    · rw [if_pos control, if_pos ⟨control, by simp [backspace, tab, newline, feed, back]⟩]
      exact .unit control
    · rw [if_neg control, if_neg fun unit => control unit.1]
      exact .plain quote backslash (Nat.le_of_not_lt control)

variable {c : Char} {cs : List Char} {p : Piece}

theorem Writes.lex (writes : Writes c cs p) (tokens : List Token) (ps : List Piece) :
    cs.foldlM Lexer.step ⟨tokens, .quoted ps⟩ = some ⟨tokens, .quoted (p :: ps)⟩ := by
  cases writes with
  | plain quote backslash printed => simp [Lexer.step, quote, backslash, printed]
  | short d other stands => simp [Lexer.step, other, stands]
  | unit control =>
    have high : Text.digitValue? 16 (Text.digitChar (c.toNat / 16)) = some (c.toNat / 16) :=
      Text.digitValue?_digitChar (Nat.le_refl 16) (by omega)
    have low : Text.digitValue? 16 (Text.digitChar (c.toNat % 16)) = some (c.toNat % 16) :=
      Text.digitValue?_digitChar (Nat.le_refl 16) (by omega)
    have zero : Text.digitValue? 16 '0' = some 0 := rfl
    have code : c.toNat / 16 * 16 + c.toNat % 16 = c.toNat := by omega
    simp [Lexer.step, zero, high, low, code]

theorem Writes.means (writes : Writes c cs p) (read : List Char) (rest : List Piece) :
    textFrom? read (p :: rest) = textFrom? (c :: read) rest := by
  cases writes with
  | plain _ _ _ => rw [textFrom?]
  | short _ _ _ => rw [textFrom?]
  | unit control =>
    have high : ¬ (0xD800 ≤ c.toNat ∧ c.toNat < 0xDC00) := by omega
    have low : ¬ (0xDC00 ≤ c.toNat ∧ c.toNat < 0xE000) := by omega
    have alone : ¬ (0xD800 ≤ c.toNat ∧ c.toNat < 0xE000) := by omega
    -- A unit that another one follows could be the first of a pair.
    rcases rest with - | ⟨- | -, rest⟩ <;>
      simp only [textFrom?, high, low, alone, if_false, Char.ofNat_toNat]

/-! ### Strings -/

theorem lex_escaped (cs : List Char) (tokens : List Token) (ps : List Piece) :
    (cs.flatMap escape).foldlM Lexer.step ⟨tokens, .quoted ps⟩ =
      some ⟨tokens, .quoted ((cs.map piece).reverse ++ ps)⟩ := by
  induction cs generalizing ps with
  | nil => rfl
  | cons c cs ih =>
    rw [List.flatMap_cons, foldlM_append_eq ((escape_writes c).lex tokens ps), ih]
    simp

theorem textFrom?_pieces (read cs : List Char) :
    textFrom? read (cs.map piece) = some (read.reverse ++ cs) := by
  induction cs generalizing read with
  | nil => simp [textFrom?]
  | cons c cs ih =>
    rw [List.map_cons, (escape_writes c).means, ih]
    simp

theorem text?_written (s : String) : text? (written s) = some s := by
  rw [text?, written, textFrom?_pieces]
  simp

/-! ### Tokens -/

/-- Characters that are whole tokens, whatever has been read before. -/
def Reads (cs : List Char) (ts : List Token) : Prop :=
  ∀ tokens, cs.foldlM Lexer.step ⟨tokens, .idle⟩ = some ⟨ts.reverse ++ tokens, .idle⟩

variable {ds : List Char} {t : Token} {ts us : List Token}

theorem reads_nil : Reads [] [] := fun _ => rfl

theorem Reads.append (reads : Reads cs ts) (more : Reads ds us) : Reads (cs ++ ds) (ts ++ us) := by
  intro tokens
  rw [foldlM_append_eq (reads tokens), more, List.reverse_append, List.append_assoc]

theorem reads_punctuation (mark : Lexer.punctuation? c = some t) : Reads [c] [t] := by
  intro tokens
  have blank : Lexer.isBlank c = false := by
    by_contra blank
    simp only [Lexer.isBlank, decide_eq_true_eq, Bool.not_eq_false] at blank
    rcases blank with rfl | rfl | rfl | rfl <;> cases mark
  have quote : c ≠ '"' := by
    rintro rfl
    cases mark
  simp [Lexer.step, Lexer.outside, blank, quote, mark]

theorem reads_quote (s : String) : Reads (quote s).toList [.text (written s)] := by
  intro tokens
  have opened : ['"'].foldlM Lexer.step ⟨tokens, .idle⟩ = some ⟨tokens, .quoted []⟩ := rfl
  rw [quote, String.toList_ofList, List.cons_append, ← List.singleton_append,
    foldlM_append_eq opened, foldlM_append_eq (lex_escaped s.toList tokens [])]
  simp [Lexer.step, written]

theorem Reads.intercalate {α : Type} (reads : Reads cs ts) {f : α → List Char}
    {g : α → List Token} (each : ∀ a, Reads (f a) (g a)) (as : List α) :
    Reads (cs.intercalate (as.map f)) (ts.intercalate (as.map g)) := by
  induction as with
  | nil => exact reads_nil
  | cons a as ih =>
    cases as with
    | nil => simpa using each a
    | cons b as =>
      simp only [List.map_cons, List.intercalate_cons_cons] at ih ⊢
      exact ((each a).append reads).append ih

theorem Reads.tokens?_eq {s : String} (reads : Reads s.toList ts) : tokens? s = some ts := by
  rw [tokens?, reads []]
  simp [Lexer.finish?]

/-! ### Objects -/

section Members

variable {stack : List Open} {e : Expected}

def memberTokens (member : String × String) : List Token :=
  [.text (written member.1), .colon, .text (written member.2)]

def memberTree (member : String × String) : List Piece × Tree :=
  (written member.1, .text (written member.2))

theorem build_member (awaits : e = .key ∨ e = .keyOrClose) (member : String × String)
    (done : List (List Piece × Tree)) :
    (memberTokens member).foldlM Builder.step ⟨.object done :: stack, e⟩ =
      some ⟨.object (memberTree member :: done) :: stack, .commaOrClose⟩ := by
  rcases awaits with rfl | rfl <;> rfl

theorem build_members (awaits : e = .key ∨ e = .keyOrClose) (member : String × String)
    (members : List (String × String)) (done : List (List Piece × Tree)) :
    ([Token.comma].intercalate ((member :: members).map memberTokens)).foldlM Builder.step
      ⟨.object done :: stack, e⟩ =
        some ⟨.object (((member :: members).map memberTree).reverse ++ done) :: stack,
          .commaOrClose⟩ := by
  induction members generalizing member done e with
  | nil => simpa using build_member awaits member done
  | cons next members ih =>
    have comma : ∀ done, [Token.comma].foldlM Builder.step
        ⟨.object done :: stack, .commaOrClose⟩ = some ⟨.object done :: stack, .key⟩ :=
      fun done => rfl
    rw [List.map_cons, List.map_cons, List.intercalate_cons_cons, ← List.map_cons,
      List.append_assoc, foldlM_append_eq (build_member awaits member done),
      foldlM_append_eq (comma _), ih (.inl rfl)]
    simp

def objectTokens (members : List (String × String)) : List Token :=
  [.openObject] ++ ([.comma].intercalate (members.map memberTokens) ++ [.closeObject])

/-- An object of texts is built from its members in their order. -/
theorem build_object (members : List (String × String)) :
    (objectTokens members).foldlM Builder.step {} =
      some ⟨[], .nothing (.object (members.map memberTree))⟩ := by
  have opened : [Token.openObject].foldlM Builder.step {} =
      some ⟨[.object []], .keyOrClose⟩ := rfl
  rw [objectTokens, foldlM_append_eq opened]
  cases members with
  | nil => rfl
  | cons member members =>
    rw [foldlM_append_eq (build_members (.inr rfl) member members [])]
    simp [Builder.step, Builder.close, Builder.place]

end Members

end Concentrator.Json
