import DirectionFinding.Text.LowerCaseTable

/-!
Lower case of a text by the Unicode rules without a locale. A capital sigma that ends a word
becomes a final sigma; every other character is mapped by itself.
-/
namespace DirectionFinding.LowerCase

def Run.covers (r : Run) (c : Nat) : Bool :=
  r.first ≤ c && c ≤ r.last && (c - r.first) % r.stride == 0

def inRanges (ranges : List (Nat × Nat)) (c : Char) : Bool :=
  ranges.any fun range => range.1 ≤ c.toNat && c.toNat ≤ range.2

/-- Lower case of a character that does not depend on its neighbours. -/
def ofChar (c : Char) : List Char :=
  if c = 'İ' then ['i', '\u0307']
  else
    match mapping.find? (·.covers c.toNat) with
    | some run => [Char.ofNat (c.toNat + run.shift).toNat]
    | none => [c]

/-- Whether the characters that follow, case-ignorable ones aside, start with a cased one. -/
def meetsCased (cs : List Char) : Bool :=
  match cs.dropWhile (inRanges ignorable) with
  | c :: _ => inRanges cased c
  | [] => false

/-- A sigma is final when a cased character stands before it and none behind it. -/
def sigma (before after : List Char) : Char :=
  if meetsCased before && !meetsCased after then 'ς' else 'σ'

/-- Lower case of the rest of a text; `before` holds what precedes it, nearest first. -/
def ofChars (before : List Char) : List Char → List Char
  | [] => []
  | c :: rest =>
    (if c = 'Σ' then [sigma before rest] else ofChar c) ++ ofChars (c :: before) rest

end DirectionFinding.LowerCase

namespace DirectionFinding

def lowerCase (s : String) : String :=
  String.ofList (LowerCase.ofChars [] s.toList)

end DirectionFinding
