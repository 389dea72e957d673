/-!
How alike two texts are: twice the number of characters in matching blocks, over the sum of the
lengths. The longest common block is taken first, then those on both sides of it.
-/
namespace ShapeLint.Text

/-- Length of the longest common beginning. -/
def commonStart : List Char → List Char → Nat
  | a :: as, b :: bs => if a = b then commonStart as bs + 1 else 0
  | _, _ => 0

/-- A block of equal characters: its places in both texts and its length. -/
structure Block where
  first : Nat
  second : Nat
  length : Nat

/-- The longest common block, the one that starts earliest in the first text, then in the second. -/
def longestBlock (a b : List Char) : Block :=
  (List.range a.length).foldl (fun best i =>
    (List.range b.length).foldl (fun best j =>
      let length := commonStart (a.drop i) (b.drop j)
      if best.length < length then ⟨i, j, length⟩ else best) best) ⟨0, 0, 0⟩

/-- Number of characters in matching blocks. Each block shortens what is left of the first text,
so its length bounds the recursion. -/
def matching : Nat → List Char → List Char → Nat
  | 0, _, _ => 0
  | fuel + 1, a, b =>
    let block := longestBlock a b
    if block.length = 0 then 0
    else block.length + matching fuel (a.take block.first) (b.take block.second)
      + matching fuel (a.drop (block.first + block.length)) (b.drop (block.second + block.length))

/-- The candidates at least three fifths alike to a text, the most alike first. -/
def closest (s : String) (candidates : List String) : List String :=
  let scored := candidates.filterMap fun candidate =>
    let shared := matching candidate.length candidate.toList s.toList
    let total := candidate.length + s.length
    if 3 * total ≤ 10 * shared then some ((shared : Rat) / total, candidate) else none
  (scored.mergeSort fun a b => b.1 ≤ a.1).map Prod.snd

end ShapeLint.Text
