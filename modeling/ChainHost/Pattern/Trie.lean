namespace ChainHost.Pattern

-- A tree of texts, whose order counts: a text does not share edges with those before one that ends on
-- its way. One text ends after each block of edges but the last.
inductive Trie where
  | node (closed : List (List (Nat × Trie))) (block : List (Nat × Trie))
  deriving Inhabited

namespace Trie

def empty : Trie := node [] []

-- Changes what an edge leads to; a new edge leads to the empty tree.
def atEdge (byte : Nat) (f : Trie → Trie) : List (Nat × Trie) → List (Nat × Trie)
  | [] => [(byte, f empty)]
  | (b, t) :: edges => if b = byte then (b, f t) :: edges else (b, t) :: atEdge byte f edges

-- Adds a text after those that are there.
def insert : List Nat → Trie → Trie
  | [], node closed block => node (closed ++ [block]) []
  | b :: bs, node closed block => node closed (atEdge b (insert bs) block)

def ofTexts (texts : List (List Nat)) : Trie :=
  texts.foldl (fun t text => insert text t) empty

-- Whether no edge leaves a node.
def isLeaf : Trie → Bool
  | node closed block => closed.all List.isEmpty && block.isEmpty

end Trie
end ChainHost.Pattern
