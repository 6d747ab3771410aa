import Interleave.Json.Reader
import Interleave.Proofs.Json.Scanner

/-!
# How values are written

The three inductions below go over a value together with the items of its arrays and the members of
its objects. What they carry is that the open containers around a value are not touched by its
tokens.

* `tokens`: the tokens of a value. Its members stand in the order that the value has them in.
* `ofTokens?_tokens`: the reader makes the value of its tokens again, however deep it is nested.
* `WrittenAs`: the texts that a value may be written as.
* `parse?_of_writtenAs`: **in whatever way a value is written, it is read as itself.**
-/

namespace Interleave.Json

mutual

/-- The tokens of a value. -/
def tokens : Json → List Token
  | .null => [.null]
  | .bool b => [.bool b]
  | .number l => [.number l]
  | .string text => [.string text]
  | .array [] => [.openArray, .closeArray]
  | .array (j :: items) => .openArray :: (tokens j ++ moreItems items)
  | .object [] => [.openObject, .closeObject]
  | .object ((key, j) :: members) =>
    .openObject :: .string key :: .colon :: (tokens j ++ moreMembers members)

/-- The tokens of an array behind one of its items, where these items are left. -/
def moreItems : List Json → List Token
  | [] => [.closeArray]
  | j :: items => .comma :: (tokens j ++ moreItems items)

/-- The tokens of an object behind one of its members, where these members are left. -/
def moreMembers : List (Option String × Json) → List Token
  | [] => [.closeObject]
  | (key, j) :: members => .comma :: .string key :: .colon :: (tokens j ++ moreMembers members)

end

/-! ## Reading -/

mutual

/-- Where a value is expected, its tokens complete it and leave the open containers as they are. -/
theorem foldlM_tokens (stack : List Frame) {expected : Expected}
    (h : expected = .value ∨ expected = .valueOrEnd) :
    ∀ j, (tokens j).foldlM Reader.step ⟨stack, expected⟩ = some ⟨stack, .more j⟩
  | .null | .bool _ | .number _ | .string _ | .array [] | .object [] =>
    by rcases h with rfl | rfl <;> rfl
  | .array (j :: items) => by
    have hopen : Reader.step ⟨stack, expected⟩ .openArray =
        some ⟨.array [] :: stack, .valueOrEnd⟩ := by
      rcases h with rfl | rfl <;> rfl
    have hfirst := foldlM_tokens (.array [] :: stack) (.inr rfl) j
    have hmore := foldlM_moreItems stack [] j items
    simp [tokens, List.foldlM_append, hopen, hfirst, hmore]
  | .object ((key, j) :: members) => by
    have hopen : Reader.step ⟨stack, expected⟩ .openObject =
        some ⟨.object [] :: stack, .keyOrEnd⟩ := by
      rcases h with rfl | rfl <;> rfl
    have hkey : Reader.step ⟨.object [] :: stack, .keyOrEnd⟩ (.string key) =
      some ⟨.member [] key :: stack, .colon⟩ := rfl
    have hcolon : Reader.step ⟨.member [] key :: stack, .colon⟩ .colon =
      some ⟨.member [] key :: stack, .value⟩ := rfl
    have hfirst := foldlM_tokens (.member [] key :: stack) (.inl rfl) j
    have hmore := foldlM_moreMembers stack [] key j members
    simp [tokens, List.foldlM_append, hopen, hkey, hcolon, hfirst, hmore]

/-- Behind an item, the rest of an array completes it. -/
theorem foldlM_moreItems (stack : List Frame) (seen : List Json) (j : Json) :
    ∀ items, (moreItems items).foldlM Reader.step ⟨.array seen :: stack, .more j⟩ =
      some ⟨stack, .more (.array (seen.reverse ++ j :: items))⟩
  | [] => by simp [moreItems, Reader.step]
  | j' :: items => by
    have hcomma : Reader.step ⟨.array seen :: stack, .more j⟩ .comma =
        some ⟨.array (j :: seen) :: stack, .value⟩ := rfl
    have hfirst := foldlM_tokens (.array (j :: seen) :: stack) (.inl rfl) j'
    have hmore := foldlM_moreItems stack (j :: seen) j' items
    simp [moreItems, List.foldlM_append, hcomma, hfirst, hmore]

/-- Behind a member, the rest of an object completes it. -/
theorem foldlM_moreMembers (stack : List Frame) (seen : List (Option String × Json))
    (key : Option String) (j : Json) :
    ∀ members, (moreMembers members).foldlM Reader.step ⟨.member seen key :: stack, .more j⟩ =
      some ⟨stack, .more (.object (seen.reverse ++ (key, j) :: members))⟩
  | [] => by simp [moreMembers, Reader.step]
  | (key', j') :: members => by
    have hcomma : Reader.step ⟨.member seen key :: stack, .more j⟩ .comma =
      some ⟨.object ((key, j) :: seen) :: stack, .key⟩ := rfl
    have hkey : Reader.step ⟨.object ((key, j) :: seen) :: stack, .key⟩ (.string key') =
      some ⟨.member ((key, j) :: seen) key' :: stack, .colon⟩ := rfl
    have hcolon : Reader.step ⟨.member ((key, j) :: seen) key' :: stack, .colon⟩ .colon =
      some ⟨.member ((key, j) :: seen) key' :: stack, .value⟩ := rfl
    have hfirst := foldlM_tokens (.member ((key, j) :: seen) key' :: stack) (.inl rfl) j'
    have hmore := foldlM_moreMembers stack ((key, j) :: seen) key' j' members
    simp [moreMembers, List.foldlM_append, hcomma, hkey, hcolon, hfirst, hmore]

end

/-- The reader makes the value of its tokens again. -/
theorem ofTokens?_tokens (j : Json) : ofTokens? (tokens j) = some j := by
  rw [ofTokens?, foldlM_tokens [] (.inl rfl) j]
  rfl

/-! ## Separation -/

/-- The tokens may stand right behind a word or a number. -/
def Token.Closes (rest : List Token) : Prop :=
  (∀ t ∈ rest.head?, t.isBare = false) ∧ Separated rest

mutual

theorem separated_tokens {rest : List Token} (h : Token.Closes rest) :
    ∀ j, Separated (tokens j ++ rest)
  | .null | .bool _ | .number _ | .string _ => ⟨fun _ => h.1, h.2⟩
  | .array [] | .object [] => ⟨nofun, nofun, h.2⟩
  | .array (j :: items) => by
    rw [tokens, List.cons_append, List.append_assoc]
    exact ⟨nofun, separated_tokens (closes_moreItems h.2 items) j⟩
  | .object ((key, j) :: members) => by
    rw [tokens, List.cons_append, List.cons_append, List.cons_append, List.append_assoc]
    exact ⟨nofun, nofun, nofun, separated_tokens (closes_moreMembers h.2 members) j⟩

theorem closes_moreItems {rest : List Token} (h : Separated rest) :
    ∀ items, Token.Closes (moreItems items ++ rest)
  | [] => ⟨by rintro t ⟨⟩; rfl, nofun, h⟩
  | j :: items => by
    rw [moreItems, List.cons_append, List.append_assoc]
    exact ⟨by rintro t ⟨⟩; rfl, nofun, separated_tokens (closes_moreItems h items) j⟩

theorem closes_moreMembers {rest : List Token} (h : Separated rest) :
    ∀ members, Token.Closes (moreMembers members ++ rest)
  | [] => ⟨by rintro t ⟨⟩; rfl, nofun, h⟩
  | (key, j) :: members => by
    rw [moreMembers, List.cons_append, List.cons_append, List.cons_append, List.append_assoc]
    exact ⟨by rintro t ⟨⟩; rfl, nofun, nofun, nofun,
      separated_tokens (closes_moreMembers h members) j⟩

end

/-! ## Texts -/

/-- The value may be written as this text. -/
def WrittenAs (j : Json) (text : String) : Prop :=
  TokensText (tokens j) text.toList

/-- **In whatever way a value is written, it is read as itself.** -/
theorem parse?_of_writtenAs {j : Json} {text : String} (h : j.WrittenAs text) :
    parse? text = some j := by
  have hseparated : Separated (tokens j) := by
    simpa using separated_tokens (⟨nofun, trivial⟩ : Token.Closes []) j
  rw [parse?, Token.scan_of_tokensText h hseparated, Option.bind_some, ofTokens?_tokens]

end Interleave.Json
