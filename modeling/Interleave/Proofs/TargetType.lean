import Interleave.Proofs.Legible
import Interleave.TargetType

/-!
# Types as they are written

* `Size.token_inj`: a size is written without loss, in decimal or as a word.
* `TargetType.word`, `TargetType.inner`: the word that a type begins with, and what stands behind
  it.
* `TargetType.token_append_eq_iff`: **a type can be read off whatever follows**, through any number
  of arrays.
-/

namespace Interleave

open Text

namespace Size

variable {n m : ℕ}

theorem isDigit_of_mem_repr : ∀ c ∈ n.repr.toList, c.isDigit = true := by
  rw [Nat.toList_repr]
  exact fun c => Nat.isDigit_of_mem_toDigits (by decide) (by decide)

/-- The digits of a number read back. -/
theorem repr_inj : n.repr = m.repr ↔ n = m := by
  constructor
  · intro h
    calc n = Nat.ofDigitChars 10 (Nat.toDigits 10 n) 0 := Nat.ofDigitChars_ten_toDigits.symm
      _ = Nat.ofDigitChars 10 (Nat.toDigits 10 m) 0 := by rw [← Nat.toList_repr, h, Nat.toList_repr]
      _ = m := Nat.ofDigitChars_ten_toDigits
  · rintro rfl
    rfl

/-- The word for the unlimited size is no number. -/
theorem repr_ne_max (n : ℕ) : n.repr ≠ "MAX" := by
  intro h
  have hletter : 'M' ∈ n.repr.toList := by
    rw [h]
    decide
  exact absurd (isDigit_of_mem_repr 'M' hletter) (by decide)

theorem token_limited (length : UInt64) : (limited length).token = length.toNat.repr :=
  rfl

theorem identifier_token (s : Size) : Identifier s.token := by
  cases s with
  | limited length =>
    rw [token_limited]
    refine ⟨Nat.repr_ne_empty, fun c hc => ?_⟩
    simp [isIdentifierChar, Char.isAlphanum, isDigit_of_mem_repr c hc]
  | unlimited => decide

/-- **A size is written without loss.** -/
theorem token_inj {s s' : Size} : s.token = s'.token ↔ s = s' := by
  refine ⟨fun h => ?_, fun h => h ▸ rfl⟩
  cases s with
  | limited length =>
    cases s' with
    | limited length' =>
      rw [token_limited, token_limited, repr_inj] at h
      rw [UInt64.toNat_inj.1 h]
    | unlimited => exact absurd h (repr_ne_max _)
  | unlimited =>
    cases s' with
    | limited length' => exact absurd h.symm (repr_ne_max _)
    | unlimited => rfl

end Size

namespace TargetType

variable {t t' : TargetType} {r r' : String}

/-- What a type begins with, up to what it has inside. -/
def word : TargetType → String
  | .bool => "BOOL"
  | .int64 => "INT64"
  | .float64 => "FLOAT64"
  | .numeric => "NUMERIC"
  | .string _ => "STRING("
  | .bytes _ => "BYTES("
  | .date => "DATE"
  | .timestamp => "TIMESTAMP"
  | .json => "JSON"
  | .array _ => "ARRAY<"

/-- What a type has behind its word. -/
def inner : TargetType → String
  | .string size | .bytes size => size.token ++ ")"
  | .array element => element.token ++ ">"
  | .bool | .int64 | .float64 | .numeric | .date | .timestamp | .json => ""

theorem token_eq (t : TargetType) : t.token = t.word ++ t.inner := by
  cases t with
  | string size | bytes size => rw [token, word, inner, String.append_assoc]
  | array element => rw [token, word, inner, String.append_assoc]
  | _ => rw [inner, String.append_empty]; rfl

def words : List String :=
  ["BOOL", "INT64", "FLOAT64", "NUMERIC", "STRING(", "BYTES(", "DATE", "TIMESTAMP",
    "JSON", "ARRAY<"]

theorem word_mem (t : TargetType) : t.word ∈ words := by
  cases t <;> simp [word, words]

/-- No word begins another. -/
theorem eq_of_prefix_word : ∀ w ∈ words, ∀ w' ∈ words, w.toList <+: w'.toList → w = w' := by
  decide

/-- The word tells where the inside begins. -/
theorem token_append_eq_iff_word :
    t.token ++ r = t'.token ++ r' ↔ t.word = t'.word ∧ t.inner ++ r = t'.inner ++ r' := by
  rw [token_eq, token_eq, String.append_assoc, String.append_assoc,
    append_eq_iff_of_words eq_of_prefix_word t.word_mem t'.word_mem]

/-- A size inside its parentheses. -/
theorem size_append_eq_iff {s s' : Size} :
    s.token ++ ")" ++ r = s'.token ++ ")" ++ r' ↔ s = s' ∧ r = r' := by
  have hend : ∀ r, BreaksOff isIdentifierChar (")" ++ r) := BreaksOff.append (by decide) (by decide)
  rw [String.append_assoc, String.append_assoc,
    s.identifier_token.append_eq_iff s'.identifier_token (hend r) (hend r'), Size.token_inj,
    String.append_right_inj]

/-- **A type can be read off**, whatever follows. -/
theorem token_append_eq_iff : t.token ++ r = t'.token ++ r' ↔ t = t' ∧ r = r' := by
  refine ⟨fun h => ?_, ?_⟩
  · obtain ⟨hword, hinner⟩ := token_append_eq_iff_word.1 h
    induction t generalizing t' r r' with
    | string size =>
      cases t' with
      | string size' =>
        obtain ⟨rfl, rfl⟩ := size_append_eq_iff.1 hinner
        exact ⟨rfl, rfl⟩
      | _ => exact absurd hword (by simp [word])
    | bytes size =>
      cases t' with
      | bytes size' =>
        obtain ⟨rfl, rfl⟩ := size_append_eq_iff.1 hinner
        exact ⟨rfl, rfl⟩
      | _ => exact absurd hword (by simp [word])
    | array element ih =>
      cases t' with
      | array element' =>
        rw [inner, inner, String.append_assoc, String.append_assoc] at hinner
        obtain ⟨hword', hinner'⟩ := token_append_eq_iff_word.1 hinner
        obtain ⟨rfl, hrest⟩ := ih hinner hword' hinner'
        exact ⟨rfl, (String.append_right_inj _).1 hrest⟩
      | _ => exact absurd hword (by simp [word])
    | bool | int64 | float64 | numeric | date | timestamp | json =>
      -- such a type is its word
      cases t' <;> simp_all [word, inner]
  · rintro ⟨rfl, rfl⟩
    rfl

end TargetType

end Interleave
