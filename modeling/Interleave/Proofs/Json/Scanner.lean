import Interleave.Json.Scanner
import Interleave.Proofs.Json.Integer
import Mathlib.Data.List.Forall2
import Mathlib.Tactic.IntervalCases

/-!
# How tokens are written

Tokens are written one after another, with any blanks around. There is more than one way to write a
character of a string. Numbers are considered here as far as they are integers.

* `CharacterText`: the ways to write a character in a string, in itself or by an escape.
* `TokenText`, `TokensText`: the ways to write a token, and tokens one after another.
* `Separated`: no word or number stands right before another.
* `scan_of_tokensText`: **in whatever way separated tokens are written, the scanner finds them.**
-/

namespace Interleave.Json

/-! ## Texts -/

def isBlank (c : Char) : Bool :=
  c == ' ' || c == '\t' || c == '\n' || c == '\r'

/-- A hexadecimal digit, in either case. -/
def HexText (n : ℕ) (d : Char) : Prop :=
  "0123456789abcdef".toList[n]? = some d ∨ "0123456789ABCDEF".toList[n]? = some d

/-- A UTF-16 unit, escaped by its four hexadecimal digits. -/
inductive UnitText : ℕ → List Char → Prop
  | digits {n₃ n₂ n₁ n₀ : ℕ} {d₃ d₂ d₁ d₀ : Char} (h₃ : HexText n₃ d₃) (h₂ : HexText n₂ d₂)
    (h₁ : HexText n₁ d₁) (h₀ : HexText n₀ d₀) :
    UnitText (((n₃ * 16 + n₂) * 16 + n₁) * 16 + n₀) ['\\', 'u', d₃, d₂, d₁, d₀]

/-- The letters that may stand after a backslash, and what they stand for. -/
def escapeLetters : List (Char × Char) :=
  [('"', '"'), ('\\', '\\'), ('/', '/'), ('b', '\x08'), ('f', '\x0c'), ('n', '\n'), ('r', '\r'),
    ('t', '\t')]

/-- The ways to write a character in a string. A character beyond the 16-bit range has two units. -/
inductive CharacterText (c : Char) : List Char → Prop
  | plain (hquote : c ≠ '"') (hbackslash : c ≠ '\\') (hcontrol : 0x20 ≤ c.toNat) :
    CharacterText c [c]
  | letter {l : Char} (h : (l, c) ∈ escapeLetters) : CharacterText c ['\\', l]
  | unit {text : List Char} (h : UnitText c.toNat text) : CharacterText c text
  | pair {high low : List Char} (hrange : 0x10000 ≤ c.toNat)
    (hhigh : UnitText (0xD800 + (c.toNat - 0x10000) / 0x400) high)
    (hlow : UnitText (0xDC00 + (c.toNat - 0x10000) % 0x400) low) : CharacterText c (high ++ low)

/-- The ways to write a token. -/
inductive TokenText : Token → List Char → Prop
  | openObject : TokenText .openObject ['\x7b']
  | closeObject : TokenText .closeObject ['\x7d']
  | openArray : TokenText .openArray ['[']
  | closeArray : TokenText .closeArray [']']
  | colon : TokenText .colon [':']
  | comma : TokenText .comma [',']
  | null : TokenText .null ['n', 'u', 'l', 'l']
  | true : TokenText (.bool true) ['t', 'r', 'u', 'e']
  | false : TokenText (.bool false) ['f', 'a', 'l', 's', 'e']
  | integer (n : ℤ) : TokenText (.number (.ofInt n)) (toString n).toList
  | string {text : String} {parts : List (List Char)}
    (h : List.Forall₂ CharacterText text.toList parts) :
    TokenText (.string (some text)) ('"' :: (parts.flatten ++ ['"']))

/-- The ways to write tokens one after another. -/
inductive TokensText : List Token → List Char → Prop
  | nil {blanks : List Char} (hblanks : blanks.all isBlank = true) : TokensText [] blanks
  | cons {blanks first text : List Char} {t : Token} {rest : List Token}
    (hblanks : blanks.all isBlank = true) (hfirst : TokenText t first)
    (hrest : TokensText rest text) : TokensText (t :: rest) (blanks ++ (first ++ text))

/-- A word or a number ends only where something else begins. -/
def Token.isBare : Token → Bool
  | .null | .bool _ | .number _ => true
  | _ => false

/-- No word or number stands right before another. -/
def Separated : List Token → Prop
  | [] => True
  | t :: rest => (t.isBare = true → ∀ u ∈ rest.head?, u.isBare = false) ∧ Separated rest

namespace Scanner

variable {s : Scanner} {c : Char} {text rest blanks : List Char} {tokens : List Token}
  {seen : List Char}

/-- Read a text to its end. -/
def run (s : Scanner) (text : List Char) : Option (List Token) :=
  (text.foldlM step s).bind finish

theorem run_cons : s.run (c :: text) = (s.step c).bind (·.run text) := by
  simp [run, List.foldlM_cons, Option.bind_assoc]

theorem run_blanks (h : blanks.all isBlank = true) :
    run ⟨.between, tokens⟩ (blanks ++ rest) = run ⟨.between, tokens⟩ rest := by
  induction blanks with
  | nil => rfl
  | cons c blanks ih =>
    obtain ⟨hc, hblanks⟩ := (Bool.and_eq_true _ _).mp h
    have hstep : step ⟨.between, tokens⟩ c = some ⟨.between, tokens⟩ := by
      simp only [isBlank, Bool.or_eq_true, beq_iff_eq] at hc
      rcases hc with ((rfl | rfl) | rfl) | rfl <;> rfl
    rw [List.cons_append, run_cons, hstep]
    exact ih hblanks

/-! ## Words and numbers -/

/-- What follows cannot belong to a word or a number. -/
def Ends (rest : List Char) : Prop :=
  ∀ c ∈ rest.head?, isWordChar c = false ∧ isNumberChar c = false

/-- Where a word or a number ends, it is finished before the scanner goes on. -/
theorem run_settle (hbetween : ∀ s' ∈ s.settle, s'.mode = .between)
    (hstep : ∀ c ∈ rest.head?, s.step c = s.settle.bind (·.start c)) :
    s.run rest = s.settle.bind (·.run rest) := by
  cases rest with
  | nil =>
    -- the end of the text settles as well, and settling twice changes nothing
    change s.finish = s.settle.bind finish
    cases hsettle : s.settle with
    | none => simp [finish, hsettle]
    | some s' =>
      have hmode := hbetween s' hsettle
      have hsettled : s'.settle = some s' := by simp [settle, hmode]
      simp [finish, hsettle, hsettled, hmode]
  | cons c rest =>
    rw [run_cons, hstep c rfl, Option.bind_assoc]
    cases hsettle : s.settle with
    | none => rfl
    | some s' =>
      have hmode := hbetween s' hsettle
      simp [run_cons, step, hmode]

theorem run_word (hends : Ends rest) : run ⟨.word seen, tokens⟩ rest =
    (word? seen.reverse).bind fun t => run ⟨.between, t :: tokens⟩ rest := by
  rw [run_settle]
  · simp [settle, Option.bind_map, emit, Function.comp_def]
  · simp [settle, emit]
  · intro c hc
    simp [step, (hends c hc).1]

theorem run_number (hends : Ends rest) : run ⟨.number seen, tokens⟩ rest =
    (Literal.parse? seen.reverse).bind fun l => run ⟨.between, .number l :: tokens⟩ rest := by
  rw [run_settle]
  · simp [settle, Option.bind_map, emit]
  · simp [settle, emit]
  · intro c hc
    simp [step, (hends c hc).2]

/-- Characters that belong to a word or a number are collected. -/
theorem run_append_of_step {mode : List Char → Mode} {characters : List Char}
    (h : ∀ c ∈ characters, ∀ seen, step ⟨mode seen, tokens⟩ c = some ⟨mode (c :: seen), tokens⟩) :
    run ⟨mode seen, tokens⟩ (characters ++ rest) =
      run ⟨mode (characters.reverse ++ seen), tokens⟩ rest := by
  induction characters generalizing seen with
  | nil => rfl
  | cons c characters ih =>
    obtain ⟨hc, hcharacters⟩ := List.forall_mem_cons.1 h
    rw [List.cons_append, run_cons, hc, List.reverse_cons, List.append_assoc]
    exact ih hcharacters

/-- A word is read as the token that it is. -/
theorem run_between_word {t : Token} {word : List Char} (hword : word? word = some t)
    (hends : Ends rest) :
    run ⟨.between, tokens⟩ (word ++ rest) = run ⟨.between, t :: tokens⟩ rest := by
  have hread : run ⟨.between, tokens⟩ (word ++ rest) = run ⟨.word word.reverse, tokens⟩ rest := by
    unfold word? at hword
    split at hword
    case h_4 => nomatch hword
    all_goals
      simp only [List.cons_append, run_cons]
      rfl
  rw [hread, run_word hends, List.reverse_reverse, hword, Option.bind_some]

/-- A digit begins a number, for no other token begins with a digit. -/
theorem start_of_isDigit (h : c.isDigit = true) :
    start ⟨.between, tokens⟩ c = some ⟨.number [c], tokens⟩ := by
  have hletter : isWordChar c = false := by
    have hnine : '9'.val.toNat < 'a'.val.toNat := by decide
    simp only [Char.isDigit, isWordChar, Bool.and_eq_true, Bool.and_eq_false_iff, decide_eq_true_eq,
      decide_eq_false_iff_not, Char.le_def, ge_iff_le, UInt32.le_iff_toNat_le] at h ⊢
    omega
  unfold start
  split
  all_goals first
    | exact absurd h (by decide)
    | simp [hletter, h]

/-- An integer is read as its literal. -/
theorem run_between_integer (n : ℤ) (hends : Ends rest) :
    run ⟨.between, tokens⟩ ((toString n).toList ++ rest) =
      run ⟨.between, .number (.ofInt n) :: tokens⟩ rest := by
  have hnumber : ∀ c ∈ digitText n.natAbs, ∀ seen,
      step ⟨.number seen, tokens⟩ c = some ⟨.number (c :: seen), tokens⟩ := by
    intro c hc seen
    simp [step, isNumberChar, isDigit_of_mem_digitText c hc]
  have hread : run ⟨.between, tokens⟩ ((toString n).toList ++ rest) =
      run ⟨.number (toString n).toList.reverse, tokens⟩ rest := by
    rw [toList_toString]
    split
    · rw [List.append_assoc, List.singleton_append, run_cons, List.reverse_append]
      exact run_append_of_step hnumber
    · cases hdigits : digitText n.natAbs with
      | nil => exact absurd hdigits (digitText_ne_nil _)
      | cons c digits =>
        rw [hdigits] at hnumber
        have hstart : start ⟨.between, tokens⟩ c = some ⟨.number [c], tokens⟩ :=
          start_of_isDigit (isDigit_of_mem_digitText c (hdigits ▸ List.mem_cons_self))
        rw [List.nil_append, List.cons_append, run_cons, step, hstart, List.reverse_cons]
        exact run_append_of_step (List.forall_mem_cons.1 hnumber).2
  rw [hread, run_number hends, List.reverse_reverse, Literal.parse?_toString, Option.bind_some]

/-! ## Strings -/

section Strings

variable {seen : List Piece} {n : ℕ}

theorem hexValue?_of_hexText {d : Char} (h : HexText n d) : hexValue? d = some n := by
  have hlower : ∀ p ∈ "0123456789abcdef".toList.zipIdx, hexValue? p.1 = some p.2 := by decide
  have hupper : ∀ p ∈ "0123456789ABCDEF".toList.zipIdx, hexValue? p.1 = some p.2 := by decide
  rcases h with h | h
  · exact hlower (d, n) (List.mk_mem_zipIdx_iff_getElem?.2 h)
  · exact hupper (d, n) (List.mk_mem_zipIdx_iff_getElem?.2 h)

theorem run_cons_text (hquote : c ≠ '"') (hbackslash : c ≠ '\\') (hcontrol : 0x20 ≤ c.toNat) :
    run ⟨.text seen, tokens⟩ (c :: rest) = run ⟨.text (.char c :: seen), tokens⟩ rest := by
  simp [run_cons, step, hquote, hbackslash, Nat.not_lt.2 hcontrol]

theorem run_cons_quote : run ⟨.text seen, tokens⟩ ('"' :: rest) =
    run ⟨.between, .string ((joinUnits seen.reverse).map String.ofList) :: tokens⟩ rest := by
  rw [run_cons]
  rfl

/-- The text is read as these pieces of a string. -/
def Reads (pieces : List Piece) (text : List Char) : Prop :=
  ∀ seen tokens rest, run ⟨.text seen, tokens⟩ (text ++ rest) =
    run ⟨.text (pieces.reverse ++ seen), tokens⟩ rest

theorem Reads.append {pieces pieces' : List Piece} {text text' : List Char} (h : Reads pieces text)
    (h' : Reads pieces' text') : Reads (pieces ++ pieces') (text ++ text') := by
  intro seen tokens rest
  rw [List.append_assoc, h, h', List.reverse_append, List.append_assoc]

theorem reads_unit (h : UnitText n text) : Reads [.unit n] text := by
  intro seen tokens rest
  cases h with
  | digits h₃ h₂ h₁ h₀ =>
    simp only [List.cons_append, List.nil_append, run_cons, step]
    simp [hexValue?_of_hexText h₃, hexValue?_of_hexText h₂, hexValue?_of_hexText h₁,
      hexValue?_of_hexText h₀]

/-- A character is no half of a surrogate pair, so its number stands for itself. -/
theorem joinUnits_unit (more : List Piece) :
    joinUnits (.unit c.toNat :: more) = (joinUnits more).map (c :: ·) := by
  have hvalid : c.toNat < 0xD800 ∨ 0xDFFF < c.toNat ∧ c.toNat < 0x110000 := c.valid
  have hhigh : isHighSurrogate c.toNat = false := by
    simp only [isHighSurrogate, Bool.and_eq_false_iff, decide_eq_false_iff_not]
    omega
  have hlow : isLowSurrogate c.toNat = false := by
    simp only [isLowSurrogate, Bool.and_eq_false_iff, decide_eq_false_iff_not]
    omega
  rw [joinUnits.eq_def]
  simp [hhigh, hlow]

/-- Beyond the 16-bit range there are 2²⁰ characters, ten bits of the number to each half. -/
theorem joinUnits_pair (hrange : 0x10000 ≤ c.toNat) (more : List Piece) :
    joinUnits (.unit (0xD800 + (c.toNat - 0x10000) / 0x400) ::
      .unit (0xDC00 + (c.toNat - 0x10000) % 0x400) :: more) =
      (joinUnits more).map (c :: ·) := by
  have hvalid : c.toNat < 0xD800 ∨ 0xDFFF < c.toNat ∧ c.toNat < 0x110000 := c.valid
  have hhigh : isHighSurrogate (0xD800 + (c.toNat - 0x10000) / 0x400) = true := by
    simp only [isHighSurrogate, Bool.and_eq_true, decide_eq_true_eq]
    omega
  have hlow : isLowSurrogate (0xDC00 + (c.toNat - 0x10000) % 0x400) = true := by
    simp only [isLowSurrogate, Bool.and_eq_true, decide_eq_true_eq]
    omega
  have hvalue : 0x10000 + (0xD800 + (c.toNat - 0x10000) / 0x400 - 0xD800) * 0x400 +
      (0xDC00 + (c.toNat - 0x10000) % 0x400 - 0xDC00) = c.toNat := by
    omega
  rw [joinUnits, if_pos hhigh, if_pos hlow, hvalue, Char.ofNat_toNat]

/-- A character is read as pieces that stand for it. -/
theorem exists_reads_character (h : CharacterText c text) :
    ∃ pieces, Reads pieces text ∧
      ∀ more, joinUnits (pieces ++ more) = (joinUnits more).map (c :: ·) := by
  cases h with
  | plain hquote hbackslash hcontrol =>
    exact ⟨[.char c], fun _ _ _ => run_cons_text hquote hbackslash hcontrol, fun _ => rfl⟩
  | @letter l hl =>
    have hletters : ∀ p ∈ escapeLetters, p.1 ≠ 'u' ∧ shortEscape? p.1 = some p.2 := by decide
    obtain ⟨hu, hescape⟩ := hletters _ hl
    refine ⟨[.char c], fun seen tokens rest => ?_, fun _ => rfl⟩
    simp [run_cons, step, hu, hescape]
  | unit hunit => exact ⟨[.unit c.toNat], reads_unit hunit, joinUnits_unit⟩
  | pair hrange hhigh hlow =>
    exact ⟨_, (reads_unit hhigh).append (reads_unit hlow), joinUnits_pair hrange⟩

theorem exists_reads_characters {characters : List Char} {parts : List (List Char)}
    (h : List.Forall₂ CharacterText characters parts) :
    ∃ pieces, Reads pieces parts.flatten ∧ joinUnits pieces = some characters := by
  induction h with
  | nil => exact ⟨[], fun _ _ _ => rfl, rfl⟩
  | cons hfirst _ ih =>
    obtain ⟨first, hreads, hjoin⟩ := exists_reads_character hfirst
    obtain ⟨pieces, hrest, hjoined⟩ := ih
    exact ⟨first ++ pieces, hreads.append hrest, by rw [hjoin, hjoined, Option.map_some]⟩

end Strings

/-! ## Tokens -/

/-- A token is read to its end. -/
theorem run_token {t : Token} (h : TokenText t text) (hends : t.isBare = true → Ends rest) :
    run ⟨.between, tokens⟩ (text ++ rest) = run ⟨.between, t :: tokens⟩ rest := by
  cases h with
  | null | true | false => exact run_between_word rfl (hends rfl)
  | integer n => exact run_between_integer n (hends rfl)
  | @string text parts hparts =>
    obtain ⟨pieces, hreads, hjoin⟩ := exists_reads_characters hparts
    have hopen : run ⟨.between, tokens⟩ ('"' :: (parts.flatten ++ ['"'] ++ rest)) =
        run ⟨.text [], tokens⟩ (parts.flatten ++ ('"' :: rest)) := by
      rw [run_cons, List.append_assoc]
      rfl
    rw [List.cons_append, hopen, hreads, run_cons_quote, List.append_nil, List.reverse_reverse,
      hjoin, Option.map_some, String.ofList_toList]
  | _ =>
    rw [List.cons_append, run_cons]
    rfl

/-- A token that is no word and no number, or a blank before it, ends a word or a number. -/
theorem ends_append_of_blanks (hblanks : blanks.all isBlank = true)
    (hrest : blanks = [] → Ends rest) :
    Ends (blanks ++ rest) := by
  cases blanks with
  | nil => exact hrest rfl
  | cons c blanks =>
    have hc : isBlank c = true := ((Bool.and_eq_true _ _).mp hblanks).1
    rintro d ⟨⟩
    simp only [isBlank, Bool.or_eq_true, beq_iff_eq] at hc
    rcases hc with ((rfl | rfl) | rfl) | rfl <;> decide

theorem ends_of_token {t : Token} (h : TokenText t text) (hbare : t.isBare = false) :
    Ends (text ++ rest) := by
  cases h with
  | null | true | false | integer => cases hbare
  | _ => rintro d ⟨⟩; decide

theorem ends_of_tokensText {ts : List Token} (h : TokensText ts text)
    (hbare : ∀ t ∈ ts.head?, t.isBare = false) :
    Ends text := by
  cases h with
  | nil hblanks => simpa using ends_append_of_blanks hblanks fun _ => (nofun : Ends [])
  | cons hblanks hfirst _ =>
    exact ends_append_of_blanks hblanks fun _ => ends_of_token hfirst (hbare _ rfl)

theorem run_tokensText {ts : List Token} (h : TokensText ts text) (hseparated : Separated ts) :
    run ⟨.between, tokens⟩ text = some (tokens.reverse ++ ts) := by
  induction h generalizing tokens with
  | @nil blanks hblanks =>
    rw [← List.append_nil blanks, run_blanks hblanks, List.append_nil]
    rfl
  | @cons blanks first text t ts hblanks hfirst hrest ih =>
    -- a word or a number goes on until a blank or the next token, which is neither
    have hends : t.isBare = true → Ends text :=
      fun hbare => ends_of_tokensText hrest (hseparated.1 hbare)
    rw [run_blanks hblanks, run_token hfirst hends, ih hseparated.2, List.reverse_cons,
      List.append_assoc]
    rfl

end Scanner

/-- **In whatever way separated tokens are written, the scanner finds them.** -/
theorem Token.scan_of_tokensText {tokens : List Token} {text : String}
    (h : TokensText tokens text.toList) (hseparated : Separated tokens) : scan text = some tokens :=
  Scanner.run_tokensText h hseparated

end Interleave.Json
