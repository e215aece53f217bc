/-!
# Similar words

Suggestions for a misspelt word. Two words are compared by the blocks that they share: the longest
common block is taken first, then the blocks before it and behind it in the same way.

* `longestBlock` — the longest common block, the earliest one where several are longest;
* `matchSize` — the number of characters in all shared blocks;
* `closeMatches` — the words whose shared part is large enough, the most similar first.

A character that makes up more than one in a hundred of a second word of 200 characters or more is
popular: no block starts from it, and a block is only extended over it.
-/

namespace EntityStore.Text

/-- A block of `size` equal characters at `left` in the first and `right` in the second word. -/
structure Block where
  left : Nat
  right : Nat
  size : Nat
  deriving DecidableEq, Repr

/-- Whether `c` is too frequent in the word `b` to start a block. -/
def isPopular (b : Array Char) (c : Char) : Bool :=
  200 ≤ b.size && b.size / 100 + 1 < b.toList.count c

/-- The lengths of the common runs that end at each position of `b` and at the character `c` of the
other word, from the lengths at the character before. Position `j` stands at index `j + 1`. -/
def nextRuns (b : Array Char) (popular : Char → Bool) (c : Char) (low high : Nat)
    (runs : Array Nat) : Array Nat :=
  (Array.range (b.size + 1)).map fun j =>
    if low < j && j ≤ high && b[j - 1]? == some c && !popular c then runs.getD (j - 1) 0 + 1 else 0

/-- The better of a block and the block that ends behind `i` and behind `j` with a given size. -/
def Block.better (best : Block) (i j size : Nat) : Block :=
  if best.size < size then ⟨i - size, j - size, size⟩ else best

/-- The longest block without popular characters in `a[alo, ahi)` and `b[blo, bhi)`. -/
def plainBlock (a b : Array Char) (popular : Char → Bool) (alo ahi blo bhi : Nat) : Block :=
  let step := fun (state : Block × Array Nat) (i : Nat) =>
    let runs := nextRuns b popular (a.getD i ' ') blo bhi state.2
    let best := (List.range (bhi - blo)).foldl
      (fun best k => best.better (i + 1) (blo + k + 1) (runs.getD (blo + k + 1) 0)) state.1
    (best, runs)
  ((List.range (ahi - alo)).foldl (fun state k => step state (alo + k))
    (⟨alo, blo, 0⟩, Array.replicate (b.size + 1) 0)).1

/-- The number of steps, at most `limit`, for which the characters at `i + k` and `j + k` agree. -/
def forward (a b : Array Char) (i j : Nat) : Nat → Nat
  | 0 => 0
  | limit + 1 => if a[i]? == b[j]? then forward a b (i + 1) (j + 1) limit + 1 else 0

/-- The number of steps, at most `limit`, for which the characters before `i` and `j` agree. -/
def backward (a b : Array Char) (i j : Nat) : Nat → Nat
  | 0 => 0
  | limit + 1 =>
    if a[i - 1]? == b[j - 1]? then backward a b (i - 1) (j - 1) limit + 1 else 0

/-- The longest common block of `a[alo, ahi)` and `b[blo, bhi)`, extended over popular
characters. -/
def longestBlock (a b : Array Char) (popular : Char → Bool) (alo ahi blo bhi : Nat) : Block :=
  let core := plainBlock a b popular alo ahi blo bhi
  let back := backward a b core.left core.right (min (core.left - alo) (core.right - blo))
  let left := core.left - back
  let right := core.right - back
  let size := core.size + back
  let more := forward a b (left + size) (right + size)
    (min (ahi - (left + size)) (bhi - (right + size)))
  ⟨left, right, size + more⟩

/-- The number of characters in the shared blocks of two ranges, for at most `fuel` levels. -/
def matchSizeWithin (a b : Array Char) (popular : Char → Bool) :
    Nat → Nat → Nat → Nat → Nat → Nat
  | 0, _, _, _, _ => 0
  | fuel + 1, alo, ahi, blo, bhi =>
    let block := longestBlock a b popular alo ahi blo bhi
    if block.size == 0 then 0
    else
      block.size +
        (if alo < block.left && blo < block.right then
          matchSizeWithin a b popular fuel alo block.left blo block.right else 0) +
        (if block.left + block.size < ahi && block.right + block.size < bhi then
          matchSizeWithin a b popular fuel (block.left + block.size) ahi
            (block.right + block.size) bhi else 0)

/-- The number of characters in the shared blocks of two words. -/
def matchSize (a b : String) : Nat :=
  let left := a.toList.toArray
  let right := b.toList.toArray
  matchSizeWithin left right (isPopular right) (left.size + 1) 0 left.size 0 right.size

/-- The share of two words that lies in common blocks, as a fraction. -/
structure Likeness where
  shared : Nat
  total : Nat
  deriving DecidableEq, Repr

namespace Likeness

/-- The likeness of two words. Two empty words are alike. -/
def of (a b : String) : Likeness :=
  let total := a.length + b.length
  if total == 0 then ⟨1, 1⟩ else ⟨2 * matchSize a b, total⟩

/-- Whether at least three fifths are shared. -/
def isClose (l : Likeness) : Bool :=
  3 * l.total ≤ 5 * l.shared

/-- The order of fractions. -/
def compare (l m : Likeness) : Ordering :=
  Ord.compare (l.shared * m.total) (m.shared * l.total)

end Likeness

/-- Whether the first scored word is placed before the second: greater likeness first, and of
equally similar words the greater one. -/
def ranksBefore (x y : Likeness × String) : Bool :=
  match x.1.compare y.1 with
  | .gt => true
  | .lt => false
  | .eq => !(Ord.compare x.2 y.2).isLT

/-- At most `limit` of the candidates, those most similar to `word`. -/
def closeMatches (word : String) (candidates : List String) (limit : Nat) : List String :=
  let scored := (candidates.map fun c => (Likeness.of c word, c)).filter (·.1.isClose)
  ((scored.mergeSort ranksBefore).take limit).map (·.2)

end EntityStore.Text
