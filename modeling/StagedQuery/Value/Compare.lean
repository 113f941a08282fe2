import StagedQuery.Value.Numeric

/-!
# Comparison of values

Two values that both are or look like numbers are compared as numbers, exactly; all others are
compared by their display forms, code point by code point. Two further relations serve look-ups:
values that count as the same key, and values that can be keys at all.

## Main definitions

* `Value.compare` — the comparison of two values that are not `null`.
* `Value.equal` — equality in conditions; `null` is equal to `null` only.
* `Value.same`, `Value.hashable` — equality of keys, and the values that can be keys.
-/

namespace StagedQuery.Value

/-- The order of two exact numbers. -/
def compareRat (a b : Rat) : Ordering :=
  if a < b then .lt else if b < a then .gt else .eq

/-- The order of two texts by code points. -/
def compareText (s t : String) : Ordering :=
  if s.toList < t.toList then .lt else if t.toList < s.toList then .gt else .eq

/-- The order of two values: as numbers if both are or look like numbers, else by their display
forms. -/
def compare (left right : Value) : Ordering :=
  match left.number?, right.number? with
  | some a, some b => compareRat a.toRat b.toRat
  | _, _ => compareText left.display right.display

/-- Equality in conditions: `null` is equal to `null` only. -/
def equal (left right : Value) : Bool :=
  if left.isNull || right.isNull then left.isNull && right.isNull
  else compare left right == .eq

/-! ## Keys -/

/-- The exact number that a scalar stands for as a key; truth values stand for 1 and 0. -/
def keyNumber? : Value → Option Rat
  | bool b => some (if b then 1 else 0)
  | int n => some n
  | float x => x.toRat?
  | _ => none

mutual

/-- Whether two values are the same key: numbers by their exact value, whatever their kind. -/
def same : Value → Value → Bool
  | null, null => true
  | text s, text t => s == t
  | list xs, list ys => sameAll xs ys
  | tuple xs, tuple ys => sameAll xs ys
  | range a b, range c d => a.same c && b.same d
  | float x, float y => if x.isFinite || y.isFinite then x.toRat? == y.toRat? else x == y
  | a, b =>
    match a.keyNumber?, b.keyNumber? with
    | some m, some n => m == n
    | _, _ => false

/-- Whether two sequences hold the same keys in order. -/
def sameAll : List Value → List Value → Bool
  | [], [] => true
  | x :: xs, y :: ys => x.same y && sameAll xs ys
  | _, _ => false

end

/-- Text is the same key as equal text alone. -/
@[simp]
theorem text_same_text (s t : String) : (text s).same (text t) = (s == t) := by
  simp [same]

/-- The first part of a value that cannot be a key, by the name of its kind: a list or an
object. -/
def unhashable? : Value → Option String
  | list _ => some "list"
  | object _ => some "dict"
  | range low high => low.unhashable? <|> high.unhashable?
  | tuple items => firstUnhashable items
  | _ => none
where
  /-- The first item that cannot be a key. -/
  firstUnhashable : List Value → Option String
    | [] => none
    | v :: vs => v.unhashable? <|> firstUnhashable vs

end StagedQuery.Value
