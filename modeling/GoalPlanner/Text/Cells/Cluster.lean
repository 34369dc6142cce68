import GoalPlanner.Text.Cells

/-!
# Clusters of characters

A text is cut between its clusters only (`clusters`): a character that takes room, with all behind it that takes none,
is joined to it or makes it an emoji. `cut` gives the front of a text that takes a number of cells.
-/

namespace GoalPlanner.Text

/-- A cluster and the cells that it takes. -/
structure Cluster where
  text : List Char
  size : Nat
  deriving DecidableEq, Repr

/-- The cluster of a character. -/
def Cluster.ofChar (c : Char) : Cluster := ⟨[c], cellsOf c⟩

/-- A cluster with more text behind its own, and cells for it. -/
def Cluster.extend (k : Cluster) (cs : List Char) (more : Nat) : Cluster := ⟨k.text ++ cs, k.size + more⟩

/-- The clusters of a text behind the beginning of one, given the character in it that takes room and is no emoji. -/
def clustersBehind (k : Cluster) (last : Option Char) : List Char → List Cluster
  | [] => [k]
  | [c] =>
    if c == joiner then [k.extend [c] 0]
    else if c == emojiSelector then [k.extend [c] (if last.any grows then 1 else 0)]
    else if cellsOf c == 0 then [k.extend [c] 0] else [k, .ofChar c]
  | c :: d :: cs =>
    if c == joiner then clustersBehind (k.extend [c, d] 0) last cs
    else if c == emojiSelector then
      if last.any grows then clustersBehind (k.extend [c] 1) none (d :: cs)
      else clustersBehind (k.extend [c] 0) last (d :: cs)
    else if cellsOf c == 0 then clustersBehind (k.extend [c] 0) last (d :: cs)
    else k :: clustersBehind (.ofChar c) (some c) (d :: cs)

/-- The clusters of a text. -/
def clusters : List Char → List Cluster
  | [] => []
  | c :: cs => clustersBehind (.ofChar c) (lastShown c none) cs

/-! ## Cuts -/

/-- Why a text cannot be cut. -/
inductive CutError
  /-- None of its clusters takes room. -/
  | bare
  /-- Its clusters take less room than the cut leaves. -/
  | short
  deriving DecidableEq, Repr

/-- As many clusters as take a number of cells; a blank stands for half of one that takes two. -/
def takeCells (size : Nat) : List Cluster → Except CutError (List Char)
  | [] => if size == 0 then .ok [] else .error .short
  | k :: ks =>
    if size == 0 then .ok []
    else if k.size ≤ size then (k.text ++ ·) <$> takeCells (size - k.size) ks else .ok [' ']

/-- The front of a text that takes a number of cells, or all of it if it takes no more. -/
def cut (size : Nat) (cs : List Char) : Except CutError (List Char) :=
  if size == 0 then .ok []
  else if cells cs ≤ size then .ok cs
  else if (clusters cs).all (·.size == 0) then .error .bare else takeCells size (clusters cs)

end GoalPlanner.Text
