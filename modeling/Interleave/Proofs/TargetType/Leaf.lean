import Interleave.Proofs.TargetType

/-!
# Types that are written alike

The target knows fewer types than a schema has: integers have one width, floats have one, and a
string or bytes column beyond the limit is as good as one without a length. What is left of a type
is the number of arrays around it, and a leaf at the bottom.

* `Leaf`, `DataType.leaf`: what is at the bottom, with the size that strings and bytes come to.
  Around it are `DataType.nesting` arrays.
* `TargetType.eq_iff`: nesting and leaf make up a type of the target.
* `token_eq_iff`: **two types are written alike exactly if they have the same nesting and the same
  leaf.** So a stated length is written in full, and no two types of the target are written alike.
-/

namespace Interleave

/-- What a column holds, under all arrays, as far as the target can tell. -/
inductive Leaf where
  | bool
  | int64
  | float64
  | numeric
  | date
  | timestamp
  | json
  /-- No size is as long as the target allows. -/
  | string (size : Option ℕ)
  | bytes (size : Option ℕ)
deriving DecidableEq

/-- The size that a declared length comes to: 255 where none is declared, and no size beyond the
limit. -/
def Leaf.sizeUpTo (limit : ℕ) (length : Option UInt64) : Option ℕ :=
  let wanted := (length.map UInt64.toNat).getD 255
  if wanted ≤ limit then some wanted else none

namespace DataType

/-- The length goes with the strings or bytes at the bottom. -/
def leaf (length : Option UInt64) : DataType → Leaf
  | .bool => .bool
  | .int8 | .int16 | .int32 | .int64 => .int64
  | .float32 | .float64 => .float64
  | .numeric => .numeric
  | .string => .string (Leaf.sizeUpTo 2621440 length)
  | .text => .string none
  | .bytes => .bytes (Leaf.sizeUpTo 10485760 length)
  | .blob => .bytes none
  | .date => .date
  | .timestamp => .timestamp
  | .json => .json
  | .array element => element.leaf length

end DataType

namespace Size

/-- The size as a number, if it is one. -/
def number? : Size → Option ℕ
  | .limited length => some length.toNat
  | .unlimited => none

theorem number?_inj {s s' : Size} : s.number? = s'.number? ↔ s = s' := by
  refine ⟨fun h => ?_, fun h => h ▸ rfl⟩
  cases s with
  | limited length =>
    cases s' with
    | limited length' => rw [UInt64.toNat_inj.1 (Option.some.inj h)]
    | unlimited => nomatch h
  | unlimited =>
    cases s' with
    | limited length' => nomatch h
    | unlimited => rfl

/-- A length up to the limit is kept, and a longer one is not cut off but dropped. -/
theorem number?_within (limit : UInt64) (length : Option UInt64) :
    (Size.within limit length).number? = Leaf.sizeUpTo limit.toNat length := by
  have hwanted : (length.getD assumedLength).toNat = (length.map UInt64.toNat).getD 255 := by
    cases length <;> rfl
  rw [Size.within, Leaf.sizeUpTo, ← hwanted]
  by_cases hbeyond : limit < length.getD assumedLength
  · have hnot : ¬ (length.getD assumedLength).toNat ≤ limit.toNat :=
      Nat.not_le.2 (UInt64.lt_iff_toNat_lt.1 hbeyond)
    simp only [hbeyond, hnot, if_true, if_false, number?]
  · have hle : (length.getD assumedLength).toNat ≤ limit.toNat :=
      Nat.not_lt.1 fun hlt => hbeyond (UInt64.lt_iff_toNat_lt.2 hlt)
    simp only [hbeyond, hle, if_true, if_false, number?]

end Size

namespace TargetType

def leaf : TargetType → Leaf
  | .bool => .bool
  | .int64 => .int64
  | .float64 => .float64
  | .numeric => .numeric
  | .string size => .string size.number?
  | .bytes size => .bytes size.number?
  | .date => .date
  | .timestamp => .timestamp
  | .json => .json
  | .array element => element.leaf

def nesting : TargetType → ℕ
  | .array element => element.nesting + 1
  | .bool | .int64 | .float64 | .numeric | .string _ | .bytes _ | .date | .timestamp | .json => 0

/-- **Nesting and leaf make up a type of the target.** -/
theorem eq_iff {t t' : TargetType} : t = t' ↔ t.nesting = t'.nesting ∧ t.leaf = t'.leaf := by
  refine ⟨fun h => h ▸ ⟨rfl, rfl⟩, ?_⟩
  rintro ⟨hnesting, hleaf⟩
  induction t generalizing t' with
  | array element ih =>
    cases t' with
    | array element' => rw [ih (Nat.succ.inj hnesting) hleaf]
    | _ => nomatch hnesting
  | string size =>
    cases t' with
    | string size' => rw [Size.number?_inj.1 (Leaf.string.inj hleaf)]
    | array element' => nomatch hnesting
    | _ => nomatch hleaf
  | bytes size =>
    cases t' with
    | bytes size' => rw [Size.number?_inj.1 (Leaf.bytes.inj hleaf)]
    | array element' => nomatch hnesting
    | _ => nomatch hleaf
  | bool | int64 | float64 | numeric | date | timestamp | json =>
    -- such a leaf is one type, and an array is at another depth
    cases t' <;> simp_all [nesting, leaf]

/-- No two types of the target are written alike. -/
theorem token_inj {t t' : TargetType} : t.token = t'.token ↔ t = t' := by
  have h : t.token ++ "" = t'.token ++ "" ↔ t = t' ∧ "" = "" := token_append_eq_iff
  simpa only [String.append_empty, and_true] using h

end TargetType

namespace DataType

variable {d d' : DataType} {length length' : Option UInt64}

theorem nesting_targetType : (d.targetType length).nesting = d.nesting := by
  induction d with
  | array element ih => rw [targetType, TargetType.nesting, ih, nesting]
  | _ => rfl

/-- The length reaches the leaf through any number of arrays. -/
theorem leaf_targetType : (d.targetType length).leaf = d.leaf length := by
  induction d with
  | array element ih => rw [targetType, TargetType.leaf, ih, leaf]
  | string => rw [targetType, TargetType.leaf, Size.number?_within, leaf]; rfl
  | bytes => rw [targetType, TargetType.leaf, Size.number?_within, leaf]; rfl
  | _ => rfl

/-- **Types are written alike exactly if they have one nesting and one leaf.** The target's types
are all written differently, so nothing is lost but what the leaf leaves out. -/
theorem token_eq_iff (d d' : DataType) (length length' : Option UInt64) :
    ((d.targetType length).token = (d'.targetType length').token ↔
      d.nesting = d'.nesting ∧ d.leaf length = d'.leaf length') ∧
    ∀ t t' : TargetType, t.token = t'.token → t = t' := by
  refine ⟨?_, fun t t' => TargetType.token_inj.1⟩
  rw [TargetType.token_inj, TargetType.eq_iff, nesting_targetType, nesting_targetType,
    leaf_targetType, leaf_targetType]

/-- One more than the limit, and there is no size any more. -/
example : (DataType.array .string).leaf (some 2621440) = .string (some 2621440) ∧
    (DataType.array .string).leaf (some 2621441) = DataType.text.leaf (some 7) ∧
    DataType.bytes.leaf none = .bytes (some 255) := by decide

end DataType

end Interleave
