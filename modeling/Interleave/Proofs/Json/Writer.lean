import Interleave.Json.Writer
import Interleave.Proofs.Json.Reader

/-!
# What is written can be read

The writer lays a value out over several lines. That is one of the ways to write it. The writer
joins the layouts of all items with commas, while the tokens of a container go on from one item to
the next, so the inductions say what the layout is behind an item.

* `Plain`: the values whose strings are texts and whose numbers are integers.
* `writtenAs_pretty`: **a plain value is written as its layout**, so there is a text for each of
  them.
* `parse?_pretty`: the layout is read back.
-/

namespace Interleave.Json

/-- All strings are texts and all numbers are integers. -/
inductive Plain : Json → Prop
  | null : Plain .null
  | bool (b : Bool) : Plain (.bool b)
  | integer (n : ℤ) : Plain (.number (.ofInt n))
  | text (text : String) : Plain (ofText text)
  | array {items : List Json} (h : ∀ j ∈ items, Plain j) : Plain (.array items)
  | object {members : List (Option String × Json)}
    (hkeys : ∀ member ∈ members, member.1.isSome = true) (h : ∀ member ∈ members, Plain member.2) :
    Plain (.object members)

variable {level : ℕ} {ts ts' : List Token} {text text' blanks : List Char}

/-! ## Strings and numbers -/

theorem hexText_hexDigit : ∀ n < 16, HexText n (hexDigit n) := by
  intro n hn
  left
  interval_cases n <;> rfl

/-- The writer escapes a control by its number. -/
theorem unitText_control {n : ℕ} (h : n < 0x20) :
    UnitText n ['\\', 'u', '0', '0', hexDigit (n / 16), hexDigit (n % 16)] := by
  have hdigits := UnitText.digits (hexText_hexDigit 0 (by decide)) (hexText_hexDigit 0 (by decide))
    (hexText_hexDigit (n / 16) (by omega)) (hexText_hexDigit (n % 16) (by omega))
  have hvalue : ((0 * 16 + 0) * 16 + n / 16) * 16 + n % 16 = n := by omega
  rw [hvalue] at hdigits
  exact hdigits

theorem characterText_writeChar (c : Char) : CharacterText c (writeChar c) := by
  unfold writeChar
  split
  case h_8 hquote hbackslash _ _ _ _ _ =>
    split
    case isTrue hcontrol => exact .unit (unitText_control hcontrol)
    case isFalse hcontrol => exact .plain hquote hbackslash (by omega)
  all_goals exact .letter (by decide)

theorem toList_writeText (text : String) :
    (writeText text).toList = '"' :: ((text.toList.map writeChar).flatten ++ ['"']) := by
  simp [writeText, List.flatMap]

theorem tokenText_writeText (text : String) :
    TokenText (.string (some text)) (writeText text).toList := by
  rw [toList_writeText]
  refine .string
    (List.forall₂_map_right_iff.2 (List.forall₂_same.2 fun c _ => characterText_writeChar c))

theorem toList_write (n : ℤ) : (Literal.ofInt n).write.toList = (toString n).toList := by
  have hdigit : ∀ d < 10, hexDigit d = Nat.digitChar d := by decide
  have hdigits : (Numeral.digits 10 n.natAbs).map hexDigit = digitText n.natAbs :=
    List.map_congr_left fun d hd => hdigit d (Numeral.digits_lt (by decide) d hd)
  rw [toList_toString, ← hdigits]
  by_cases hnegative : n < 0 <;> simp [Literal.write, Literal.ofInt, writeDigits, hnegative]

/-! ## Layout -/

theorem tokensText_blanks_append (hblanks : blanks.all isBlank = true) (h : TokensText ts text) :
    TokensText ts (blanks ++ text) := by
  cases h with
  | nil hrest => exact .nil (by rw [List.all_append, hblanks, hrest]; rfl)
  | cons hfirst ht hrest =>
    rw [← List.append_assoc]
    exact .cons (by rw [List.all_append, hblanks, hfirst]; rfl) ht hrest

theorem TokensText.append (h : TokensText ts text) (h' : TokensText ts' text') :
    TokensText (ts ++ ts') (text ++ text') := by
  induction h with
  | nil hblanks => exact tokensText_blanks_append hblanks h'
  | cons hblanks ht _ ih =>
    rw [List.append_assoc, List.append_assoc]
    exact .cons hblanks ht ih

theorem tokensText_cons {t : Token} (ht : TokenText t text) (h : TokensText ts text') :
    TokensText (t :: ts) (text ++ text') :=
  .cons (rfl : [].all isBlank = true) ht h

theorem all_isBlank_newLine (level : ℕ) : (newLine level).toList.all isBlank = true := by
  simp [newLine, isBlank]

/-- Line breaks may stand before any token. -/
theorem tokensText_newLine_append (level : ℕ) (h : TokensText ts text) :
    TokensText ts ((newLine level).toList ++ text) :=
  tokensText_blanks_append (all_isBlank_newLine level) h

theorem tokensText_singleton {t : Token} (ht : TokenText t text) : TokensText [t] text := by
  simpa using tokensText_cons ht (.nil (rfl : [].all isBlank = true))

/-- A key, a colon and a value. -/
theorem tokensText_member {j : Json} {value : String} (key : String)
    (hj : TokensText (tokens j) value.toList) (h : TokensText ts text) :
    TokensText (.string (some key) :: .colon :: (tokens j ++ ts))
      ((writeText key ++ ": " ++ value).toList ++ text) := by
  have hvalue : TokensText (tokens j ++ ts) ([' '] ++ (value.toList ++ text)) :=
    tokensText_blanks_append (by decide) (hj.append h)
  simpa using tokensText_cons (tokenText_writeText key) (tokensText_cons .colon hvalue)

/-- The layout of a container behind its opening. -/
def inside (level : ℕ) (items : List String) (closing : String) : String :=
  ("," ++ newLine (level + 1)).intercalate items ++ newLine level ++ closing

section Inside

variable (level : ℕ) (opening closing first second : String) (items : List String)

theorem toList_block : (block level opening (first :: items) closing).toList =
    opening.toList ++
      ((newLine (level + 1)).toList ++ (inside level (first :: items) closing).toList) := by
  simp [block, inside]

theorem toList_inside_singleton :
    (inside level [first] closing).toList =
      first.toList ++ ((newLine level).toList ++ closing.toList) := by
  simp [inside]

theorem toList_inside_cons_cons : (inside level (first :: second :: items) closing).toList =
    first.toList ++
      (',' :: ((newLine (level + 1)).toList ++
        (inside level (second :: items) closing).toList)) := by
  simp [inside]

end Inside

mutual

/-- The layout of a plain value is a text of its tokens. -/
theorem tokensText_prettyAt (level : ℕ) :
    ∀ j, Plain j → TokensText (tokens j) (prettyAt level j).toList
  | .null, _ => by simpa [prettyAt, tokens] using tokensText_singleton .null
  | .bool true, _ => by simpa [prettyAt, tokens] using tokensText_singleton .true
  | .bool false, _ => by simpa [prettyAt, tokens] using tokensText_singleton .false
  | .number _, .integer n => by
    rw [prettyAt, toList_write]
    exact tokensText_singleton (.integer n)
  | .string _, .text text => tokensText_singleton (tokenText_writeText text)
  | .array [], _ => by
    simpa [prettyAt, prettyItems, block, tokens] using
      tokensText_cons .openArray (tokensText_singleton .closeArray)
  | .array (j :: items), .array h => by
    obtain ⟨hj, hitems⟩ := List.forall_mem_cons.1 h
    have hfirst := tokensText_prettyAt (level + 1) j hj
    obtain ⟨text, htext, hmore⟩ :=
      tokensText_prettyItems level (prettyAt (level + 1) j) items hitems
    rw [prettyAt, prettyItems, toList_block, htext, tokens]
    exact tokensText_cons .openArray (tokensText_newLine_append (level + 1) (hfirst.append hmore))
  | .object [], _ => by
    simpa [prettyAt, prettyMembers, block, tokens] using
      tokensText_cons .openObject (tokensText_singleton .closeObject)
  | .object ((some key, j) :: members), .object hkeys h => by
    obtain ⟨hj, hmembers⟩ := List.forall_mem_cons.1 h
    have hfirst := tokensText_prettyAt (level + 1) j hj
    obtain ⟨text, htext, hmore⟩ :=
      tokensText_prettyMembers level (writeText key ++ ": " ++ prettyAt (level + 1) j)
      members (List.forall_mem_cons.1 hkeys).2 hmembers
    rw [prettyAt, prettyMembers, Option.getD_some, toList_block, htext, tokens]
    exact tokensText_cons .openObject
      (tokensText_newLine_append (level + 1) (tokensText_member key hfirst hmore))
  | .object ((none, j) :: members), .object hkeys h => nomatch hkeys _ List.mem_cons_self

/-- Behind an item, the layout of an array is a text of the tokens that are left. -/
theorem tokensText_prettyItems (level : ℕ) (first : String) : ∀ items, (∀ j ∈ items, Plain j) →
    ∃ text, (inside level (first :: prettyItems (level + 1) items) "]").toList =
      first.toList ++ text ∧
      TokensText (moreItems items) text
  | [], _ => by
    rw [prettyItems, toList_inside_singleton]
    exact ⟨_, rfl, tokensText_newLine_append level (tokensText_singleton .closeArray)⟩
  | j :: items, h => by
    obtain ⟨hj, hitems⟩ := List.forall_mem_cons.1 h
    have hfirst := tokensText_prettyAt (level + 1) j hj
    obtain ⟨text, htext, hmore⟩ :=
      tokensText_prettyItems level (prettyAt (level + 1) j) items hitems
    rw [prettyItems, toList_inside_cons_cons, htext]
    exact ⟨_, rfl,
      tokensText_cons .comma (tokensText_newLine_append (level + 1) (hfirst.append hmore))⟩

/-- Behind a member, the layout of an object is a text of the tokens that are left. -/
theorem tokensText_prettyMembers (level : ℕ) (first : String) :
    ∀ members : List (Option String × Json), (∀ member ∈ members, member.1.isSome = true) →
      (∀ member ∈ members, Plain member.2) →
    ∃ text, (inside level (first :: prettyMembers (level + 1) members) "\x7d").toList =
      first.toList ++ text ∧
      TokensText (moreMembers members) text
  | [], _, _ => by
    rw [prettyMembers, toList_inside_singleton]
    exact ⟨_, rfl, tokensText_newLine_append level (tokensText_singleton .closeObject)⟩
  | (some key, j) :: members, hkeys, h => by
    obtain ⟨hj, hmembers⟩ := List.forall_mem_cons.1 h
    have hfirst := tokensText_prettyAt (level + 1) j hj
    obtain ⟨text, htext, hmore⟩ :=
      tokensText_prettyMembers level (writeText key ++ ": " ++ prettyAt (level + 1) j)
      members (List.forall_mem_cons.1 hkeys).2 hmembers
    rw [prettyMembers, Option.getD_some, toList_inside_cons_cons, htext]
    exact ⟨_, rfl, tokensText_cons .comma
      (tokensText_newLine_append (level + 1) (tokensText_member key hfirst hmore))⟩
  | (none, j) :: members, hkeys, _ => nomatch hkeys _ List.mem_cons_self

end

/-- **A plain value is written as its layout.** -/
theorem writtenAs_pretty {j : Json} (h : Plain j) : j.WrittenAs j.pretty :=
  tokensText_prettyAt 0 j h

/-- The layout is read back. -/
theorem parse?_pretty {j : Json} (h : Plain j) : parse? j.pretty = some j :=
  parse?_of_writtenAs (writtenAs_pretty h)

end Interleave.Json
