import Mathlib.Data.List.DropRight

/-!
Upper-casing and stripping of text by character tables: `str.upper` and `str.strip` of Python
beside the `UPPER` of a database, which may map fewer characters.
-/

/-- Case tables. A mapped character is fixed, and the database only anticipates Python. -/
structure CaseTables where
  upperChar : Char → List Char
  isSpace : Char → Bool
  sqlUpperChar : Char → List Char
  upperChar_upper : ∀ char, ∀ upper ∈ upperChar char, upperChar upper = [upper]
  upperChar_sqlUpper : ∀ char, (sqlUpperChar char).flatMap upperChar = upperChar char

namespace CaseTables

def stripChars (space : Char → Bool) (chars : List Char) : List Char :=
  (chars.dropWhile space).rdropWhile space

section

variable {space : Char → Bool}

theorem head_stripChars {chars : List Char} {first : Char}
    (head : (stripChars space chars).head? = some first) : space first = false := by
  have among : (chars.dropWhile space).head? = some first := by
    obtain ⟨rest, joined⟩ := List.rdropWhile_prefix space (chars.dropWhile space)
    rw [← joined, List.head?_append, ← stripChars, head]
    rfl
  have kept := List.head?_dropWhile_not space chars
  simpa [among] using kept

theorem stripChars_idem (chars : List Char) :
    stripChars space (stripChars space chars) = stripChars space chars := by
  have front : (stripChars space chars).dropWhile space = stripChars space chars := by
    cases stripped : stripChars space chars with
    | nil => rfl
    | cons first rest =>
        have solid : space first = false := head_stripChars (by rw [stripped]; rfl)
        simp [solid]
  rw [stripChars, front, stripChars, List.rdropWhile_idempotent]

end

variable (tables : CaseTables)

def upper (text : String) : String := String.ofList (text.toList.flatMap tables.upperChar)

def strip (text : String) : String := String.ofList (stripChars tables.isSpace text.toList)

def sqlUpper (text : String) : String := String.ofList (text.toList.flatMap tables.sqlUpperChar)

def normalise (text : String) : String := tables.strip (tables.upper text)

@[simp] theorem normalise_empty : tables.normalise "" = "" := rfl

theorem flatMap_upperChar_of_fixed {chars : List Char}
    (fixed : ∀ char ∈ chars, tables.upperChar char = [char]) :
    chars.flatMap tables.upperChar = chars := by
  induction chars with
  | nil => rfl
  | cons first rest ih =>
      rw [List.flatMap_cons, fixed first List.mem_cons_self,
        ih fun char member => fixed char (List.mem_cons_of_mem first member)]
      rfl

theorem fixed_of_mem_normalise {text : String} {char : Char}
    (member : char ∈ (tables.normalise text).toList) : tables.upperChar char = [char] := by
  simp only [normalise, strip, upper, String.toList_ofList] at member
  have mapped : char ∈ text.toList.flatMap tables.upperChar :=
    (List.dropWhile_sublist _).mem ((List.rdropWhile_prefix _ _).mem member)
  obtain ⟨source, _, produced⟩ := List.mem_flatMap.mp mapped
  exact tables.upperChar_upper source char produced

@[simp] theorem upper_normalise (text : String) :
    tables.upper (tables.normalise text) = tables.normalise text := by
  have fixed := tables.flatMap_upperChar_of_fixed fun char member =>
    @fixed_of_mem_normalise tables text char member
  rw [upper, fixed, String.ofList_toList]

@[simp] theorem strip_normalise (text : String) :
    tables.strip (tables.normalise text) = tables.normalise text := by
  simp only [normalise, strip, String.toList_ofList, stripChars_idem]

theorem upper_sqlUpper (text : String) : tables.upper (tables.sqlUpper text) = tables.upper text := by
  simp only [upper, sqlUpper, String.toList_ofList, List.flatMap_assoc, tables.upperChar_sqlUpper]

theorem normalise_of_sqlUpper {stored text : String}
    (matched : tables.sqlUpper stored = tables.normalise text) :
    tables.normalise stored = tables.normalise text := by
  have uppered := tables.upper_sqlUpper stored
  rw [matched, upper_normalise] at uppered
  rw [normalise, ← uppered, strip_normalise]

end CaseTables

theorem Char.toUpper_idem (char : Char) : char.toUpper.toUpper = char.toUpper := by
  delta Char.toUpper
  split
  · rename_i lower
    rw [dif_neg]
    simp only [UInt32.le_iff_toNat_le, UInt32.toNat_add] at lower ⊢
    grind
  · rfl

/-- Tables that map and strip ASCII only. -/
def CaseTables.ascii : CaseTables where
  upperChar := fun char => [char.toUpper]
  isSpace := Char.isWhitespace
  sqlUpperChar := fun char => [char.toUpper]
  upperChar_upper := by
    intro char upper produced
    rw [List.mem_singleton.mp produced, Char.toUpper_idem]
  upperChar_sqlUpper := by
    intro char
    rw [List.flatMap_singleton, Char.toUpper_idem]
