/-
# Reading escaped texts back

The escaped form of a text is read from left to right.  A reader keeps what was begun: nothing, a
backslash, the sign of a code point, or the digits of one.

| begun | next | then |
| --- | --- | --- |
| nothing | a backslash | a backslash |
| nothing | any other character | nothing, and the character is read |
| a backslash | `u` | a sign |
| a backslash | any other character | nothing, and what it stands for is read |
| a sign | an opening brace | digits |
| digits | a digit | digits |
| digits | a closing brace | nothing, and the character with the code point is read |

What is read is the text itself (`unescaped?_escaped`), so texts with one escaped form are equal.
An escaped text is printable ASCII (`printable_escaped`), and every quote in it has a backslash of
its own before it (`odd_backslashes_of_escaped`).  So it can be cut out of a longer text in which it
stands between quotes (`quotedText?_append`).
-/

import Mathlib.Algebra.Ring.Parity
import TextScan.Text.Escaped
import TextScan.Text.Lines

namespace TextScan
namespace Text

/-! ## Reading -/

/-- What a reader of an escaped text has begun. -/
inductive Begun where
  | nothing
  /-- A backslash. -/
  | backslash
  /-- A backslash and the letter that announces a code point. -/
  | sign
  /-- A code point; the number is the value of the digits so far. -/
  | digits (n : Nat)

/-- What a character stands for behind a backslash. -/
def backslashed? (c : Char) : Option Char :=
  match c with
  | 't' => some '\t'
  | 'n' => some '\n'
  | 'r' => some '\r'
  | '\'' => some c
  | '"' => some c
  | '\\' => some c
  | _ => none

/-- Reads an escaped text behind what was begun. -/
def unescapeFrom : Begun → Text → Option Text
  | .nothing, [] => some []
  | .nothing, c :: t =>
    if c = '\\' then unescapeFrom .backslash t else (unescapeFrom .nothing t).map (c :: ·)
  | .backslash, c :: t =>
    if c = 'u' then unescapeFrom .sign t
    else (backslashed? c).bind fun d => (unescapeFrom .nothing t).map (d :: ·)
  | .sign, c :: t => if c = '\x7b' then unescapeFrom (.digits 0) t else none
  | .digits n, c :: t =>
    if c = '\x7d' then (unescapeFrom .nothing t).map (Char.ofNat n :: ·)
    else (hexDigit? c).bind fun d => unescapeFrom (.digits (16 * n + d)) t
  | _, [] => none

/-- The text that an escaped text stands for. -/
def unescaped? (t : Text) : Option Text := unescapeFrom .nothing t

/-- A text is printable ASCII. -/
def Printable (t : Text) : Prop := ∀ c ∈ t, isPrintableAscii c = true

instance (t : Text) : Decidable (Printable t) :=
  List.decidableBAll (fun c => isPrintableAscii c = true) t

/-- Whether a character is a quote, single or double. -/
def isQuote (c : Char) : Bool := c == '\'' || c == '"'

/-- The ways to escape a character. -/
inductive Escapes (c : Char) : Text → Prop where
  /-- A backslash before a character that stands for it there. -/
  | short {d : Char} (hd : backslashed? d = some c) : Escapes c (backslashed d)
  /-- The character itself. -/
  | plain (hslash : c ≠ '\\') (hquote : isQuote c = false) (hc : isPrintableAscii c = true) :
      Escapes c [c]
  /-- Its code point. -/
  | codePoint : Escapes c (asCodePoint c)

theorem escapes_escapeChar (c : Char) : Escapes c (escapeChar c) := by
  unfold escapeChar
  split
  · exact .short rfl
  · exact .short rfl
  · exact .short rfl
  · exact .short rfl
  · exact .short rfl
  · exact .short rfl
  · rename_i hsingle hdouble hslash
    have hquote : isQuote c = false := by
      rw [isQuote, beq_false_of_ne hsingle, beq_false_of_ne hdouble]
      rfl
    split
    · rename_i hc
      exact .plain hslash hquote hc
    · exact .codePoint

/-- What stands behind a backslash is printable and announces no code point. -/
theorem printable_of_backslashed? {c d : Char} (h : backslashed? d = some c) :
    isPrintableAscii d = true ∧ d ≠ 'u' := by
  unfold backslashed? at h
  split at h
  · decide
  · decide
  · decide
  · decide
  · decide
  · decide
  · exact absurd h (by simp)

theorem asCodePoint_eq (c : Char) :
    asCodePoint c = '\\' :: 'u' :: '\x7b' :: (hex c.toNat ++ ['\x7d']) := by
  have hsign : "\\u\x7b".toList = ['\\', 'u', '\x7b'] := rfl
  rw [asCodePoint, hsign]
  rfl

/-! ### Digits -/

/-- What holds of the digits below sixteen holds of all that a number is written with. -/
theorem forall_mem_hex {p : Char → Prop} (hp : ∀ d < 16, p (Nat.digitChar d)) (n : Nat) :
    ∀ c ∈ hex n, p c := by
  intro c hc
  unfold hex at hc
  induction n using Nat.strongRecOn with
  | ind n ih =>
    rcases Nat.lt_or_ge n 16 with hlt | hge
    · rw [Nat.toDigits_of_lt_base hlt, List.mem_singleton] at hc
      exact hc ▸ hp n hlt
    · have hdiv : n / 16 < n := by omega
      have hmod : n % 16 < 16 := by omega
      rw [Nat.toDigits_of_base_le (by omega) hge, List.mem_append, List.mem_singleton] at hc
      rcases hc with hc | hc
      · exact ih (n / 16) hdiv hc
      · exact hc ▸ hp _ hmod

theorem unescapeFrom_digitChar {d : Nat} (hd : d < 16) (n : Nat) (t : Text) :
    unescapeFrom (.digits n) (d.digitChar :: t) = unescapeFrom (.digits (16 * n + d)) t := by
  have hall : ∀ d < 16, hexDigit? (Nat.digitChar d) = some d ∧ Nat.digitChar d ≠ '\x7d' := by decide
  obtain ⟨hdigit, hbrace⟩ := hall d hd
  rw [unescapeFrom, if_neg hbrace, hdigit, Option.bind_some]

/-- The digits of a number are read as the number. -/
theorem unescapeFrom_hex (n : Nat) (t : Text) :
    unescapeFrom (.digits 0) (hex n ++ t) = unescapeFrom (.digits n) t := by
  unfold hex
  induction n using Nat.strongRecOn generalizing t with
  | ind n ih =>
    rcases Nat.lt_or_ge n 16 with hlt | hge
    · have hread := unescapeFrom_digitChar hlt 0 t
      rw [Nat.mul_zero, Nat.zero_add] at hread
      rwa [Nat.toDigits_of_lt_base hlt, List.singleton_append]
    · have hdiv : n / 16 < n := by omega
      have hmod : n % 16 < 16 := by omega
      rw [Nat.toDigits_of_base_le (by omega) hge, List.append_assoc, ih (n / 16) hdiv,
        List.singleton_append, unescapeFrom_digitChar hmod, Nat.div_add_mod]

/-! ### Characters and texts -/

section Character

variable {c q : Char} {u a b : Text}

/-- A character is read off any escaped form of it. -/
theorem Escapes.unescapeFrom_append (h : Escapes c u) (t : Text) :
    unescapeFrom .nothing (u ++ t) = (unescapeFrom .nothing t).map (c :: ·) := by
  cases h with
  | @short d hd =>
    obtain ⟨-, hsign⟩ := printable_of_backslashed? hd
    have hopen : backslashed d ++ t = '\\' :: d :: t := rfl
    rw [hopen, unescapeFrom, if_pos rfl, unescapeFrom, if_neg hsign, hd, Option.bind_some]
  | plain hslash _ _ => rw [List.singleton_append, unescapeFrom, if_neg hslash]
  | codePoint =>
    have hopen : unescapeFrom .nothing (asCodePoint c ++ t) =
        unescapeFrom (.digits 0) (hex c.toNat ++ '\x7d' :: t) := by
      simp only [asCodePoint_eq, List.cons_append, List.append_assoc, List.nil_append]
      rfl
    rw [hopen, unescapeFrom_hex, unescapeFrom, if_pos rfl, Char.ofNat_toNat]

theorem Escapes.printable (h : Escapes c u) : Printable u := by
  have hslash : isPrintableAscii '\\' = true := by decide
  cases h with
  | @short d hd =>
    obtain ⟨hprintable, -⟩ := printable_of_backslashed? hd
    intro x hx
    rcases List.mem_cons.1 hx with rfl | hx
    · exact hslash
    · exact List.mem_singleton.1 hx ▸ hprintable
  | plain _ _ hc =>
    intro x hx
    exact List.mem_singleton.1 hx ▸ hc
  | codePoint =>
    have hsign : isPrintableAscii 'u' = true := by decide
    have hopen : isPrintableAscii '\x7b' = true := by decide
    have hclose : isPrintableAscii '\x7d' = true := by decide
    have hdigits := forall_mem_hex (p := fun x => isPrintableAscii x = true) (by decide) c.toNat
    intro x hx
    simp only [asCodePoint_eq, List.mem_cons, List.mem_append, List.not_mem_nil, or_false] at hx
    rcases hx with rfl | rfl | rfl | hx | rfl
    · exact hslash
    · exact hsign
    · exact hopen
    · exact hdigits x hx
    · exact hclose

end Character

/-- **An escaped text is read back as the text.** -/
theorem unescaped?_escaped (t : Text) : unescaped? (escaped t) = some t := by
  unfold unescaped?
  induction t with
  | nil => rfl
  | cons c t ih =>
    have hcons : escaped (c :: t) = escapeChar c ++ escaped t := rfl
    rw [hcons, (escapes_escapeChar c).unescapeFrom_append, ih, Option.map_some]

/-- Texts with one escaped form are equal. -/
theorem escaped_inj {t u : Text} : escaped t = escaped u ↔ t = u := by
  constructor
  · intro h
    have hread := unescaped?_escaped t
    rw [h, unescaped?_escaped] at hread
    exact (Option.some.inj hread).symm
  · exact congrArg escaped

/-! ## Printable texts -/

theorem Printable.append {t u : Text} (ht : Printable t) (hu : Printable u) :
    Printable (t ++ u) := by
  intro c hc
  rcases List.mem_append.1 hc with hc | hc
  · exact ht c hc
  · exact hu c hc

/-- **An escaped text is printable ASCII.** -/
theorem printable_escaped (t : Text) : Printable (escaped t) := by
  intro c hc
  obtain ⟨d, -, hd⟩ := List.mem_flatMap.1 hc
  exact (escapes_escapeChar d).printable c hd

theorem printable_ofNat (n : Nat) : Printable (ofNat n) := by
  intro c hc
  have hdigit := Nat.isDigit_of_mem_toDigits (by omega) (by omega) hc
  rw [Char.isDigit, Bool.and_eq_true, decide_eq_true_iff, decide_eq_true_iff] at hdigit
  obtain ⟨hlow, hhigh⟩ := hdigit
  have hfirst : ' ' ≤ c := Char.le_trans (show ' ' ≤ '0' by decide) hlow
  have hlast : c ≤ '~' := Char.le_trans hhigh (show '9' ≤ '~' by decide)
  rw [isPrintableAscii, decide_eq_true hfirst, decide_eq_true hlast, Bool.true_and]

theorem linesFrom_of_not_mem {t b : Text} (ht : '\n' ∉ t) (hne : b.reverse ++ t ≠ []) :
    linesFrom b t = [b.reverse ++ t] := by
  induction t generalizing b with
  | nil =>
    rw [List.append_nil] at hne ⊢
    have hb : b.isEmpty = false := by simpa using hne
    rw [linesFrom, hb]
    rfl
  | cons c t ih =>
    rw [List.mem_cons, not_or] at ht
    obtain ⟨hc, ht⟩ := ht
    have hne' : (c :: b).reverse ++ t ≠ [] := by simp
    rw [linesFrom, if_neg (Ne.symm hc), ih ht hne', List.reverse_cons, List.append_assoc]
    rfl

/-- A printable text is one line. -/
theorem lines_of_printable {t : Text} (hne : t ≠ []) (h : Printable t) : lines t = [t] := by
  refine linesFrom_of_not_mem (b := []) (fun hfeed => ?_) hne
  exact absurd (h '\n' hfeed) (by decide)

/-! ## Quotes -/

/-- The number of backslashes that a text ends with. -/
def backslashesAtEnd (t : Text) : Nat := (t.reverse.takeWhile (· == '\\')).length

theorem backslashesAtEnd_append (a b : Text) : backslashesAtEnd (a ++ b) =
    if backslashesAtEnd b = b.length then b.length + backslashesAtEnd a
    else backslashesAtEnd b := by
  unfold backslashesAtEnd
  rw [List.reverse_append, List.takeWhile_append, List.length_reverse]
  split
  · rw [List.length_append, List.length_reverse]
  · rfl

theorem backslashesAtEnd_concat {c : Char} (hc : c ≠ '\\') (a : Text) :
    backslashesAtEnd (a ++ [c]) = 0 := by
  have hlast : backslashesAtEnd [c] = 0 := by simp [backslashesAtEnd, hc]
  rw [backslashesAtEnd_append, hlast, if_neg (by simp)]

section Character

variable {c q : Char} {u a b : Text}

/-- The backslashes at the end of an escaped character make up pairs. -/
theorem Escapes.even_backslashes (h : Escapes c u) : Even (backslashesAtEnd u) := by
  cases h with
  | @short d hd =>
    by_cases hslash : d = '\\'
    · subst hslash
      decide
    · have hnone : backslashesAtEnd (backslashed d) = 0 := backslashesAtEnd_concat hslash ['\\']
      rw [hnone]
      exact Even.zero
  | plain hslash _ _ =>
    have hnone : backslashesAtEnd [c] = 0 := backslashesAtEnd_concat hslash []
    rw [hnone]
    exact Even.zero
  | codePoint =>
    have hnone : backslashesAtEnd (asCodePoint c) = 0 := backslashesAtEnd_concat (by decide) _
    rw [hnone]
    exact Even.zero

/-- There is no quote and no backslash among the digits of a code point. -/
theorem forall_mem_digits (c : Char) :
    ∀ d ∈ '\x7b' :: (hex c.toNat ++ ['\x7d']), isQuote d = false ∧ d ≠ '\\' := by
  have hdigits := forall_mem_hex (p := fun d => isQuote d = false ∧ d ≠ '\\') (by decide) c.toNat
  intro d hd
  simp only [List.mem_cons, List.mem_append, List.not_mem_nil, or_false] at hd
  rcases hd with rfl | hd | rfl
  · decide
  · exact hdigits d hd
  · decide

/-- A quote in an escaped character stands right behind a backslash. -/
theorem Escapes.eq_backslash (h : Escapes c u) (hu : u = a ++ q :: b) (hq : isQuote q = true) :
    a = ['\\'] := by
  have hslash : q ≠ '\\' := by
    rintro rfl
    exact absurd hq (by decide)
  have hmem : q ∈ u := hu ▸ List.mem_append_right a List.mem_cons_self
  cases h with
  | @short d _ =>
    cases a with
    | nil => exact absurd (List.cons.inj hu).1.symm hslash
    | cons x a =>
      obtain ⟨rfl, hd⟩ := List.cons.inj hu
      cases a with
      | nil => rfl
      | cons y a => exact absurd (List.cons.inj hd).2 (by simp)
  | plain _ hquote _ =>
    rw [List.mem_singleton.1 hmem, hquote] at hq
    exact absurd hq Bool.false_ne_true
  | codePoint =>
    rw [asCodePoint_eq, List.mem_cons, List.mem_cons] at hmem
    rcases hmem with rfl | rfl | hmem
    · exact absurd rfl hslash
    · exact absurd hq (by decide)
    · rw [(forall_mem_digits c q hmem).1] at hq
      exact absurd hq Bool.false_ne_true

end Character

/-- **Every quote in an escaped text is escaped**: the number of backslashes before it is odd. -/
theorem odd_backslashes_of_escaped {t a b : Text} {q : Char} (h : escaped t = a ++ q :: b)
    (hq : isQuote q = true) : Odd (backslashesAtEnd a) := by
  induction t generalizing a with
  | nil => exact absurd h (by simp)
  | cons c t ih =>
    have hc := escapes_escapeChar c
    have hcons : escapeChar c ++ escaped t = a ++ q :: b := h
    -- the quote stands in the text that is left, or in the first character
    rcases List.append_eq_append_iff.1 hcons with ⟨a', rfl, hrest⟩ | ⟨m, hfirst, hrest⟩
    · have hodd := ih hrest
      rw [backslashesAtEnd_append]
      split
      · rename_i hall
        rw [hall] at hodd
        exact hodd.add_even hc.even_backslashes
      · exact hodd
    · cases m with
      | nil =>
        have hodd := ih (a := []) hrest.symm
        exact absurd hodd (by decide)
      | cons x m =>
        obtain ⟨rfl, -⟩ := List.cons.inj hrest
        rw [hc.eq_backslash hfirst hq]
        decide

/-! ## Cutting out -/

/-- What stands before the first single quote that has no backslash of its own, and what stands
behind it. -/
def cutQuote? : Text → Option (Text × Text)
  | [] => none
  | '\'' :: t => some ([], t)
  | '\\' :: c :: t => (cutQuote? t).map fun p => ('\\' :: c :: p.1, p.2)
  | c :: t => (cutQuote? t).map fun p => (c :: p.1, p.2)

theorem cutQuote?_cons {c : Char} (hquote : isQuote c = false) (hslash : c ≠ '\\') (t : Text) :
    cutQuote? (c :: t) = (cutQuote? t).map fun p => (c :: p.1, p.2) := by
  have hsingle : c ≠ '\'' := by
    rintro rfl
    exact absurd hquote (by decide)
  rw [cutQuote?]
  · exact hsingle
  · exact fun d r hc _ => hslash hc

theorem cutQuote?_append {a : Text} (ha : ∀ c ∈ a, isQuote c = false ∧ c ≠ '\\') (t : Text) :
    cutQuote? (a ++ t) = (cutQuote? t).map fun p => (a ++ p.1, p.2) := by
  induction a with
  | nil =>
    rw [List.nil_append]
    cases cutQuote? t with
    | none => rfl
    | some p => rfl
  | cons c a ih =>
    obtain ⟨⟨hquote, hslash⟩, ha⟩ := List.forall_mem_cons.1 ha
    rw [List.cons_append, cutQuote?_cons hquote hslash, ih ha, Option.map_map]
    rfl

theorem Escapes.cutQuote?_append {c : Char} {u : Text} (h : Escapes c u) (t : Text) :
    cutQuote? (u ++ t) = (cutQuote? t).map fun p => (u ++ p.1, p.2) := by
  cases h with
  | short _ => rfl
  | plain hslash hquote _ => exact cutQuote?_cons hquote hslash t
  | codePoint =>
    have hopen : cutQuote? (asCodePoint c ++ t) =
        (cutQuote? ('\x7b' :: (hex c.toNat ++ ['\x7d']) ++ t)).map fun p =>
          ('\\' :: 'u' :: p.1, p.2) := by
      rw [asCodePoint_eq]
      rfl
    rw [hopen, Text.cutQuote?_append (forall_mem_digits c), Option.map_map, asCodePoint_eq]
    rfl

/-- An escaped text goes up to the first quote without a backslash of its own. -/
theorem cutQuote?_escaped (t u : Text) :
    cutQuote? (escaped t ++ '\'' :: u) = some (escaped t, u) := by
  induction t with
  | nil => rfl
  | cons c t ih =>
    have hcons : escaped (c :: t) ++ '\'' :: u = escapeChar c ++ (escaped t ++ '\'' :: u) :=
      List.append_assoc _ _ _
    rw [hcons, (escapes_escapeChar c).cutQuote?_append, ih]
    rfl

/-- The text that stands in escaped form between the first single quotes of a text. -/
def quotedText? (t : Text) : Option Text :=
  (cutQuote? (t.dropWhile (· != '\'')).tail).bind fun p => unescaped? p.1

/-- **A text can be cut out of a message** in which it stands in escaped form between the first
quotes. -/
theorem quotedText?_append {a : Text} (ha : '\'' ∉ a) (t b : Text) :
    quotedText? (a ++ ['\''] ++ escaped t ++ ['\''] ++ b) = some t := by
  have hdrop : (a ++ ['\''] ++ escaped t ++ ['\''] ++ b).dropWhile (· != '\'') =
      '\'' :: (escaped t ++ '\'' :: b) := by
    have hskip : ∀ c ∈ a, (c != '\'') = true := by
      intro c hc
      refine bne_iff_ne.2 fun heq => ha ?_
      exact heq ▸ hc
    simp only [List.append_assoc, List.singleton_append]
    rw [List.dropWhile_append_of_pos hskip]
    rfl
  rw [quotedText?, hdrop, List.tail_cons, cutQuote?_escaped, Option.bind_some, unescaped?_escaped]

end Text
end TextScan
