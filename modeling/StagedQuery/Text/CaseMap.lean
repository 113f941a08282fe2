import StagedQuery.Text.CaseMap.Table

/-!
# Capitals, small letters and comparison without case

## Main definitions

* `capitalize` — text in capitals; one character may become several (`ß` becomes `SS`).
* `lowercase` — text in small letters; a sigma that ends a word takes its final form.
* `representative`, `sameLetter` — comparison of single characters without regard to case.
-/

namespace StagedQuery

open CaseMap CharTable

/-! ## Capitals -/

/-- The capital form of a character. -/
def capitalOf (c : Char) : List Char :=
  if c.toNat < 128 then [c.toUpper]
  else match longCapitals.find? (·.1 == c.toNat) with
    | some entry => entry.2.map Char.ofNat
    | none => [image capitals c]

/-- Text in capitals. -/
def capitalize (s : String) : String := String.ofList (s.toList.flatMap capitalOf)

/-! ## Small letters -/

/-- The small form of a character apart from its neighbours. -/
def smallOf (c : Char) : List Char :=
  if c.toNat < 128 then [c.toLower]
  else if c.toNat = 0x130 then [Char.ofNat 0x69, Char.ofNat 0x307]
  else [image smalls c]

/-- The capital sigma. -/
def capitalSigma : Char := Char.ofNat 0x3A3

/-- Whether the first character that is not case-ignorable has case. -/
def meetsCased (cs : List Char) : Bool :=
  match cs.find? fun c => !mem ignorableRanges c.toNat with
  | some c => mem casedRanges c.toNat
  | none => false

/-- Small letters for the characters after `before`, which is given backwards. A capital sigma
takes its final form after a letter and not before one. -/
def lowercaseFrom (before : List Char) : List Char → List Char
  | [] => []
  | c :: rest =>
    let small :=
      if c = capitalSigma then
        if meetsCased before && !meetsCased rest then [Char.ofNat 0x3C2] else [Char.ofNat 0x3C3]
      else smallOf c
    small ++ lowercaseFrom (c :: before) rest

/-- Text in small letters. -/
def lowercase (s : String) : String := String.ofList (lowercaseFrom [] s.toList)

/-! ## Comparison without case -/

/-- The least of the characters that count as the same letter. -/
def representative (c : Char) : Char :=
  if c.toNat < 128 then c.toUpper else image representatives c

/-- Whether two characters are equal but for case. -/
def sameLetter (a b : Char) : Bool := representative a == representative b

end StagedQuery
