import Interleave.Settings.Database
import Interleave.Text.CharSet
import Mathlib.Data.List.Forall2
import Mathlib.Tactic.Common

/-!
# Reading a dial string

The parts of an endpoint are any texts. They go into one text, and the client takes them out of it
again.

* `ParameterReader`: the client's side, one character after another. A key and its value are joined
  by an equals sign, and parameters are divided by blanks. A value is bare or in quotes, and a
  backslash takes what follows as it is.
* `ParameterReader.parameters?`: the parameters of a text.
* `ParameterReader.foldlM_escapeValue`: **whatever a value holds, its closing quote is the first
  that ends it.**
* `ParameterReader.Presents`: a text is read as one parameter, wherever it stands among others.
* `Postgres.escapeValue_cons`: the two rounds of escaping, seen from one character.
* `Postgres.parameters?_dialString`: **a dial string is read as the parts that were configured, and
  as nothing else.**
-/

namespace Interleave

open Text

namespace Postgres

theorem protect_append (c : Char) (first second : List Char) :
    protect c (first ++ second) = protect c first ++ protect c second :=
  List.flatMap_append

theorem escapeValue_append (first second : List Char) :
    escapeValue (first ++ second) = escapeValue first ++ escapeValue second := by
  rw [escapeValue, protect_append, protect_append]
  rfl

/-- The second round leaves alone what the first has put in. -/
theorem escapeValue_cons (c : Char) (rest : List Char) : escapeValue (c :: rest) =
    if c = '\\' ∨ c = '\'' then '\\' :: c :: escapeValue rest else c :: escapeValue rest := by
  have hsingle : escapeValue [c] = if c = '\\' ∨ c = '\'' then ['\\', c] else [c] := by
    by_cases hbackslash : c = '\\'
    · subst hbackslash
      rfl
    · by_cases hquote : c = '\''
      · subst hquote
        rfl
      · rw [if_neg (not_or.2 ⟨hbackslash, hquote⟩)]
        simp [escapeValue, protect, hbackslash, hquote]
  rw [← List.singleton_append, escapeValue_append, hsingle]
  split <;> rfl

end Postgres

/-- Where a reader stands within a text. -/
inductive ParameterReader.Place where
  /-- Before a key, or at the end. -/
  | between
  | key (seen : List Char)
  /-- Behind a key and a blank. -/
  | afterKey (key : List Char)
  /-- Behind the equals sign. -/
  | beforeValue (key : List Char)
  | bare (key seen : List Char)
  | quoted (key seen : List Char)
  /-- Behind a backslash in a value. -/
  | escape (inQuotes : Bool) (key seen : List Char)
  /-- Behind a closing quote. -/
  | afterQuote

structure ParameterReader where
  /-- The parameters that have been read to their ends. -/
  parameters : List (String × String) := []
  place : ParameterReader.Place := .between

namespace ParameterReader

def step : ParameterReader → Char → Option ParameterReader
  | ⟨done, .between⟩, c =>
    if isBlank c then some ⟨done, .between⟩ else if c = '=' then none else some ⟨done, .key [c]⟩
  | ⟨done, .key seen⟩, c =>
    if isBlank c then some ⟨done, .afterKey seen⟩
    else if c = '=' then some ⟨done, .beforeValue seen⟩
    else some ⟨done, .key (seen ++ [c])⟩
  | ⟨done, .afterKey key⟩, c =>
    if isBlank c then some ⟨done, .afterKey key⟩
    else if c = '=' then some ⟨done, .beforeValue key⟩
    else none
  | ⟨done, .beforeValue key⟩, c =>
    if isBlank c then some ⟨done, .beforeValue key⟩
    else if c = '\'' then some ⟨done, .quoted key []⟩
    else if c = '\\' then some ⟨done, .escape false key []⟩
    else some ⟨done, .bare key [c]⟩
  | ⟨done, .bare key seen⟩, c =>
    if isBlank c then some ⟨done ++ [(String.ofList key, String.ofList seen)], .between⟩
    else if c = '\\' then some ⟨done, .escape false key seen⟩
    else some ⟨done, .bare key (seen ++ [c])⟩
  | ⟨done, .quoted key seen⟩, c =>
    if c = '\'' then some ⟨done ++ [(String.ofList key, String.ofList seen)], .afterQuote⟩
    else if c = '\\' then some ⟨done, .escape true key seen⟩
    else some ⟨done, .quoted key (seen ++ [c])⟩
  | ⟨done, .escape inQuotes key seen⟩, c =>
    some ⟨done, if inQuotes then .quoted key (seen ++ [c]) else .bare key (seen ++ [c])⟩
  | ⟨done, .afterQuote⟩, c => if isBlank c then some ⟨done, .between⟩ else none

/-- The text may end behind a value, and between parameters. -/
def finish : ParameterReader → Option (List (String × String))
  | ⟨done, .between⟩ | ⟨done, .afterQuote⟩ => some done
  | ⟨done, .bare key seen⟩ => some (done ++ [(String.ofList key, String.ofList seen)])
  | _ => none

/-- Read a text to its end. -/
def run (r : ParameterReader) (text : List Char) : Option (List (String × String)) :=
  (text.foldlM step r).bind finish

/-- The keys and values of a text, in order. None if the text is malformed. -/
def parameters? (text : String) : Option (List (String × String)) :=
  run {} text.toList

variable {r r' : ParameterReader} {done : List (String × String)} {key seen text rest : List Char}

theorem run_append (h : text.foldlM step r = some r') : r.run (text ++ rest) = r'.run rest := by
  rw [run, List.foldlM_append, h]
  rfl

/-! ## Keys and values -/

/-- A text that may stand as a key. -/
def IsKey (key : List Char) : Prop :=
  key ≠ [] ∧ ∀ c ∈ key, isBlank c = false ∧ c ≠ '='

-- the instance goes through the text, and not through all characters there are
instance (key : List Char) : Decidable (IsKey key) :=
  decidable_of_iff (key ≠ [] ∧ key.all (fun c => !isBlank c && c != '=') = true) (by simp [IsKey])

/-- Characters that are kept in one place, one after another. -/
theorem foldlM_kept {place : List Char → Place}
    (h : ∀ c ∈ text, ∀ seen, step ⟨done, place seen⟩ c = some ⟨done, place (seen ++ [c])⟩) :
    text.foldlM step ⟨done, place seen⟩ = some ⟨done, place (seen ++ text)⟩ := by
  induction text generalizing seen with
  | nil => rw [List.append_nil]; rfl
  | cons c rest ih =>
    rw [List.foldlM_cons, h c List.mem_cons_self]
    refine (ih fun d hd => h d (List.mem_cons_of_mem c hd)).trans ?_
    rw [List.append_assoc, List.singleton_append]

/-- A key is read up to its equals sign. -/
theorem foldlM_isKey (h : IsKey key) :
    (key ++ ['=']).foldlM step ⟨done, .between⟩ = some ⟨done, .beforeValue key⟩ := by
  obtain ⟨hne, hall⟩ := h
  cases key with
  | nil => exact absurd rfl hne
  | cons c rest =>
    obtain ⟨hblank, hequals⟩ := hall c List.mem_cons_self
    have hstep : step ⟨done, .between⟩ c = some ⟨done, .key [c]⟩ := by
      simp only [step, hblank, hequals, Bool.false_eq_true, if_false]
    have hrest : rest.foldlM step ⟨done, .key [c]⟩ = some ⟨done, .key (c :: rest)⟩ := by
      refine foldlM_kept fun d hd seen => ?_
      obtain ⟨hblank, hequals⟩ := hall d (List.mem_cons_of_mem c hd)
      simp only [step, hblank, hequals, Bool.false_eq_true, if_false]
    rw [List.cons_append, List.foldlM_cons, hstep]
    refine (List.foldlM_append ..).trans ?_
    rw [hrest]
    rfl

/-- **An escaped value is read to its end, and comes out as it was.** The quotes in it stand behind
backslashes, and so do the backslashes. -/
theorem foldlM_escapeValue (value : List Char) :
    (Postgres.escapeValue value).foldlM step ⟨done, .quoted key seen⟩ =
    some ⟨done, .quoted key (seen ++ value)⟩ := by
  induction value generalizing seen with
  | nil => rw [List.append_nil]; rfl
  | cons c rest ih =>
    have hrest := @ih (seen ++ [c])
    rw [List.append_assoc, List.singleton_append] at hrest
    rw [Postgres.escapeValue_cons]
    split
    -- the reader passes over the backslash and takes `c` whatever it is
    · exact hrest
    · next hplain =>
      obtain ⟨hbackslash, hquote⟩ := not_or.1 hplain
      have hstep : step ⟨done, .quoted key seen⟩ c = some ⟨done, .quoted key (seen ++ [c])⟩ := by
        simp only [step, hquote, hbackslash, if_false]
      rw [List.foldlM_cons, hstep]
      exact hrest

/-- A value in quotes is read to its closing quote. -/
theorem foldlM_quoted (value : List Char) :
    ('\'' :: (Postgres.escapeValue value ++ ['\''])).foldlM step ⟨done, .beforeValue key⟩ =
      some ⟨done ++ [(String.ofList key, String.ofList value)], .afterQuote⟩ := by
  have hopen : step ⟨done, .beforeValue key⟩ '\'' = some ⟨done, .quoted key []⟩ := rfl
  rw [List.foldlM_cons, hopen]
  refine (List.foldlM_append ..).trans ?_
  rw [foldlM_escapeValue, List.nil_append]
  rfl

/-- A text that may stand as a bare value and means itself. -/
def IsBare (value : List Char) : Prop :=
  value ≠ [] ∧ ∀ c ∈ value, isBlank c = false ∧ c ≠ '\'' ∧ c ≠ '\\'

theorem foldlM_isBare (h : IsBare text) :
    text.foldlM step ⟨done, .beforeValue key⟩ = some ⟨done, .bare key text⟩ := by
  obtain ⟨hne, hall⟩ := h
  cases text with
  | nil => exact absurd rfl hne
  | cons c rest =>
    obtain ⟨hblank, hquote, hbackslash⟩ := hall c List.mem_cons_self
    have hstep : step ⟨done, .beforeValue key⟩ c = some ⟨done, .bare key [c]⟩ := by
      simp only [step, hblank, hquote, hbackslash, Bool.false_eq_true, if_false]
    rw [List.foldlM_cons, hstep]
    refine foldlM_kept fun d hd seen => ?_
    obtain ⟨hblank, -, hbackslash⟩ := hall d (List.mem_cons_of_mem c hd)
    simp only [step, hblank, hbackslash, Bool.false_eq_true, if_false]

/-- The digits of a number. -/
theorem isBare_repr (n : Nat) : IsBare (toString n).toList := by
  rw [Nat.toString_eq_repr, Nat.toList_repr]
  refine ⟨Nat.toDigits_ne_nil, fun c hc => ?_⟩
  have hdigit := Nat.isDigit_of_mem_toDigits (by decide) (by decide) hc
  refine ⟨?_, ?_, ?_⟩
  · have hrange : 48 ≤ c.toNat ∧ c.toNat ≤ 57 := by
      simpa [Char.isDigit, UInt32.le_iff_toNat_le] using hdigit
    simp only [isBlank, Bool.or_eq_false_iff, Bool.and_eq_false_iff, decide_eq_false_iff_not,
      beq_eq_false_iff_ne]
    omega
  · rintro rfl
    exact absurd hdigit (by decide)
  · rintro rfl
    exact absurd hdigit (by decide)

/-! ## Parameters one after another -/

/-- The text is read as the parameter, whatever was read before. A blank or the end may follow. -/
def Presents (text : String) (parameter : String × String) : Prop :=
  ∀ done, ∃ r, text.toList.foldlM step ⟨done, .between⟩ = some r ∧
    r.finish = some (done ++ [parameter]) ∧
    r.step ' ' = some ⟨done ++ [parameter], .between⟩

/-- A key with a value in quotes, which may be any text. -/
theorem presents_quoted {key opening : String} (hopening : opening.toList = key.toList ++ ['='])
    (hkey : IsKey key.toList) (value : String) :
    Presents (opening ++ Postgres.quoteValue value) (key, value) := by
  intro done
  refine ⟨⟨done ++ [(key, value)], .afterQuote⟩, ?_, rfl, rfl⟩
  have hquoted : (Postgres.quoteValue value).toList =
      '\'' :: (Postgres.escapeValue value.toList ++ ['\'']) := by
    simp [Postgres.quoteValue]
  rw [String.toList_append, hopening, hquoted, List.foldlM_append, foldlM_isKey hkey]
  refine (foldlM_quoted value.toList).trans ?_
  rw [String.ofList_toList, String.ofList_toList]

theorem presents_bare {key opening value : String} (hopening : opening.toList = key.toList ++ ['='])
    (hkey : IsKey key.toList) (hvalue : IsBare value.toList) :
    Presents (opening ++ value) (key, value) := by
  intro done
  refine ⟨⟨done, .bare key.toList value.toList⟩, ?_, ?_, ?_⟩
  · rw [String.toList_append, hopening, List.foldlM_append, foldlM_isKey hkey]
    exact foldlM_isBare hvalue
  · rw [finish, String.ofList_toList, String.ofList_toList]
  · rw [step, if_pos (by decide), String.ofList_toList, String.ofList_toList]

/-- **Parameters divided by blanks are read one after another.** -/
theorem parameters?_intercalate {texts : List String} {parameters : List (String × String)}
    (h : List.Forall₂ Presents texts parameters) :
    parameters? (" ".intercalate texts) = some parameters := by
  suffices hrun : ∀ done, run ⟨done, .between⟩ (" ".intercalate texts).toList =
      some (done ++ parameters) from hrun []
  induction h with
  | nil =>
    intro done
    rw [List.append_nil]
    rfl
  | @cons text parameter rest parameters hfirst hrest ih =>
    intro done
    obtain ⟨r, hread, hfinish, hblank⟩ := hfirst done
    cases hrest with
    | nil => rw [String.intercalate_singleton, run, hread, Option.bind_some, hfinish]
    | @cons next _ rest _ =>
      have hbefore : (text.toList ++ [' ']).foldlM step ⟨done, .between⟩ =
          some ⟨done ++ [parameter], .between⟩ := by
        rw [List.foldlM_append, hread]
        exact (bind_pure _).trans hblank
      have hjoined : (" ".intercalate (text :: next :: rest)).toList =
          text.toList ++ [' '] ++ (" ".intercalate (next :: rest)).toList := by
        rw [String.intercalate_cons_cons, String.toList_append, String.toList_append]
        rfl
      rw [hjoined, run_append hbefore, ih, List.append_assoc, List.singleton_append]

end ParameterReader

namespace Postgres

open ParameterReader

/-- **A dial string says what was configured.** Whatever texts the host, the user, the database and
the password are, the client reads them as they were, each under its key, and no other key. The port
is the standard one if none was configured. -/
theorem parameters?_dialString (host user database : String) (port : UInt16)
    (password : Option String) (schema : String) : ∃ text,
    dialString
      { host := some host, user := some user, database := some database, port, password, schema } =
      .ok text ∧
    ParameterReader.parameters? text = some
      ([("host", host), ("port", toString (if port = 0 then 5432 else port.toNat)), ("user", user),
        ("dbname", database)] ++ (password.map fun value => ("password", value)).toList) := by
  have hport : effectivePort { port } = toString (if port = 0 then 5432 else port.toNat) := by
    rw [effectivePort, apply_ite UInt16.toNat]
    rfl
  have hpassword : List.Forall₂ Presents
      (password.map fun value => "password=" ++ quoteValue value).toList
      (password.map fun value => ("password", value)).toList := by
    cases password with
    | none => exact .nil
    | some value => exact .cons (presents_quoted rfl (by decide) value) .nil
  refine ⟨_, rfl, parameters?_intercalate (.cons ?_ (.cons ?_ (.cons ?_ (.cons ?_ hpassword))))⟩
  · exact presents_quoted rfl (by decide) host
  · rw [← hport]
    exact presents_bare rfl (by decide) (hport ▸ isBare_repr _)
  · exact presents_quoted rfl (by decide) user
  · exact presents_quoted rfl (by decide) database

/-- Without its backslash, the quote would end the value. -/
example : parameters? "user='spanner' password='it's'" = none := by decide

end Postgres

end Interleave
