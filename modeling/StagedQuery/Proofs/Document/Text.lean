import Mathlib.Data.List.Basic
import StagedQuery.Document.Reader
import StagedQuery.Document.Writer

set_option relaxedAutoImplicit false
set_option autoImplicit false

/-!
# Text between double quotes, written and read

Text is written character by character, each one as itself or as an escape. It is read in two steps:
escapes become code units, and code units become characters. So what is followed through is the code
units of one character.

## Main definitions

* `Document.units` — the code units of a character.

## Main results

* `Document.scanText_quoted` — quoted text is read back, and what follows it is left alone.
-/

namespace StagedQuery.Document

/-- The code units of a character: one, or a high and a low surrogate. -/
def units (c : Char) : List ℕ :=
  if c.toNat < 0x10000 then [c.toNat]
  else [0xD800 + (c.toNat - 0x10000) / 0x400, 0xDC00 + (c.toNat - 0x10000) % 0x400]

/-! ## Hexadecimal digits -/

/-- A hexadecimal digit is read back. -/
lemma hexValue_hexDigit (n : ℕ) : hexValue? (Quoted.hexDigit n) = some (n % 16) := by
  have hall : ∀ k : Fin 16, hexValue? (Nat.digitChar k.val) = some k.val := by decide
  exact hall ⟨n % 16, Nat.mod_lt n (by omega)⟩

/-- A code unit is read back from its escape, and the reading goes on behind it. -/
lemma scanUnits_unitEscape {n : ℕ} (hn : n < 0x10000) (rest : List Char) :
    scanUnits (unitEscape n ++ rest) =
      (scanUnits rest).map fun r => (n :: r.1, r.2) := by
  have hunit : hexUnit? (Quoted.hexDigit (n / 16 / 16 / 16)) (Quoted.hexDigit (n / 16 / 16))
      (Quoted.hexDigit (n / 16)) (Quoted.hexDigit n) = some n := by
    simp only [hexUnit?, hexValue_hexDigit, Option.bind_eq_bind, Option.bind_some,
      Option.pure_def, Option.some.injEq]
    omega
  show scanUnits ('\\' :: 'u' :: Quoted.hexDigit (n / 16 / 16 / 16) ::
    Quoted.hexDigit (n / 16 / 16) :: Quoted.hexDigit (n / 16) :: Quoted.hexDigit n :: rest) = _
  rw [scanUnits, hunit]
  cases scanUnits rest <;> rfl

/-! ## Code units -/

/-- The code of a character is no surrogate. -/
lemma not_surrogate (c : Char) : ¬ (0xD800 ≤ c.toNat ∧ c.toNat < 0xE000) := by
  have hvalid : c.toNat.isValidChar := c.valid
  rw [Nat.isValidChar] at hvalid
  omega

/-- The code units of a character join to it again.

**Proof sketch.** A single unit is no surrogate, so it does not join the unit behind it. The two
units of a pair are surrogates of the two kinds, and their offsets are the two parts of the code. -/
lemma joinUnits_units (c : Char) (us : List ℕ) :
    joinUnits (units c ++ us) = c :: joinUnits us := by
  have hvalid : c.toNat.isValidChar := c.valid
  rw [Nat.isValidChar] at hvalid
  rw [units]
  split
  · next hsmall =>
    have hone := not_surrogate c
    have hself : (if 0xD800 ≤ c.toNat ∧ c.toNat < 0xE000 then Char.ofNat 0xFFFD
        else Char.ofNat c.toNat) = c := by
      rw [if_neg hone, Char.ofNat_toNat]
    cases us with
    | nil => exact congrArg (fun d => [d]) hself
    | cons low rest =>
      rw [List.singleton_append, joinUnits, if_neg (by omega), hself]
  · next hlarge =>
    have hcode : 0x10000 + (0xD800 + (c.toNat - 0x10000) / 0x400 - 0xD800) * 0x400 +
        (0xDC00 + (c.toNat - 0x10000) % 0x400 - 0xDC00) = c.toNat := by omega
    rw [List.cons_append, List.singleton_append, joinUnits, if_pos (by omega), hcode,
      Char.ofNat_toNat]

/-- A character is read back from its escape as its code units, and the reading goes on behind
it. -/
lemma scanUnits_escapeChar (c : Char) (rest : List Char) :
    scanUnits (escapeChar c ++ rest) =
      (scanUnits rest).map fun r => (units c ++ r.1, r.2) := by
  have hvalid : c.toNat.isValidChar := c.valid
  rw [Nat.isValidChar] at hvalid
  -- The escapes with one letter, whose code unit is known.
  have hshort : ∀ letter n, c.toNat = n → n < 0x10000 → letter ≠ 'u' →
      shortEscape? letter = some n → scanUnits ('\\' :: letter :: rest) =
        (scanUnits rest).map fun r => (units c ++ r.1, r.2) := by
    intro letter n hc hsmall hletter hescape
    rw [scanUnits, hescape, units, if_pos (by omega), hc]
    · cases scanUnits rest <;> rfl
    · exact fun _ _ _ _ _ h => absurd h hletter
  have hcode : ∀ d : Char, c = d → c.toNat = d.toNat := fun _ h => congrArg _ h
  rw [escapeChar]
  split_ifs with hquote hback hline hreturn htab hbell hpage hplain hunit
  · exact hshort '\x22' 34 (hcode _ hquote) (by omega) (by decide) (by decide)
  · exact hshort '\\' 92 (hcode _ hback) (by omega) (by decide) (by decide)
  · exact hshort 'n' 10 (hcode _ hline) (by omega) (by decide) (by decide)
  · exact hshort 'r' 13 (hcode _ hreturn) (by omega) (by decide) (by decide)
  · exact hshort 't' 9 (hcode _ htab) (by omega) (by decide) (by decide)
  · exact hshort 'b' 8 hbell (by omega) (by decide) (by decide)
  · exact hshort 'f' 12 hpage (by omega) (by decide) (by decide)
  · rw [List.singleton_append, scanUnits, if_neg hquote, if_neg (by simp [hback]; omega), units,
      if_pos (by omega)]
    · cases scanUnits rest <;> rfl
    · exact fun _ _ _ _ _ h => absurd h hback
    · exact fun _ _ h => absurd h hback
  · rw [scanUnits_unitEscape hunit, units, if_pos hunit]
    rfl
  · dsimp only
    rw [List.append_assoc, scanUnits_unitEscape (by omega), scanUnits_unitEscape (by omega), units,
      if_neg hunit]
    cases scanUnits rest <;> rfl

/-- A text is read back as the code units of its characters up to the closing quote. -/
lemma scanUnits_flatMap (cs rest : List Char) :
    scanUnits (cs.flatMap escapeChar ++ '\x22' :: rest) = some (cs.flatMap units, rest) := by
  induction cs with
  | nil => simp [scanUnits]
  | cons c cs ih =>
    rw [List.flatMap_cons, List.append_assoc, scanUnits_escapeChar, ih, List.flatMap_cons]
    rfl

/-- The code units of the characters of a text join to them again. -/
lemma joinUnits_flatMap (cs : List Char) : joinUnits (cs.flatMap units) = cs := by
  induction cs with
  | nil => rfl
  | cons c cs ih => rw [List.flatMap_cons, joinUnits_units, ih]

/-- Quoted text begins with its quote. -/
lemma toList_quoted (s : String) :
    (quoted s).toList = '\x22' :: (s.toList.flatMap escapeChar ++ ['\x22']) :=
  String.toList_ofList

/-- **Quoted text is read back** behind its opening quote, and what follows it is left alone. -/
theorem scanText_quoted (s : String) (rest : List Char) :
    scanText (s.toList.flatMap escapeChar ++ '\x22' :: rest) = some (s, rest) := by
  rw [scanText, scanUnits_flatMap, Option.map_some, joinUnits_flatMap, String.ofList_toList]

end StagedQuery.Document
