import StylePrune.Css.Tree

/-!
# Walking a tree and taking nodes out

A node is named by its path: its index among its siblings, below the index of the block around it,
and so on up. A walk lists the paths of nodes in document order, or with children before their
block. Taking a node out also takes out white space that directly follows it at that time. Removals
are collected as a set of paths over one unchanging tree, so the order in which they are made can be
studied.
-/

namespace StylePrune.Css

/-- Indexes from the top level down to a node. -/
abbrev Path := List Nat

namespace Node

def children : Node → List Node
  | ruleBlock _ _ nodes => nodes
  | _ => []

end Node

mutual

def Node.walk (keep : Node → Bool) (postOrder : Bool) (path : Path) : Node → List (Path × Node)
  | .ruleBlock keyword prelude nodes =>
    let self : List (Path × Node) :=
      if keep (.ruleBlock keyword prelude nodes) then [(path, .ruleBlock keyword prelude nodes)]
      else []
    let below := walkFrom keep postOrder path 0 nodes
    if postOrder then below ++ self else self ++ below
  | n => if keep n then [(path, n)] else []

/-- Walks siblings, the first of which has the index `index` under `parent`. -/
def walkFrom (keep : Node → Bool) (postOrder : Bool) (parent : Path) (index : Nat) :
    List Node → List (Path × Node)
  | [] => []
  | n :: rest =>
    n.walk keep postOrder (parent ++ [index]) ++ walkFrom keep postOrder parent (index + 1) rest

end

/-- The nodes that satisfy `keep`, with their paths. -/
def Sheet.walk (sheet : Sheet) (keep : Node → Bool) (postOrder : Bool) : List (Path × Node) :=
  walkFrom keep postOrder [] 0 sheet

/-- The siblings of the node at a path. -/
def siblingsAt (nodes : List Node) : Path → List Node
  | [] => []
  | [_] => nodes
  | index :: rest =>
    match nodes[index]? with
    | some n => siblingsAt n.children rest
    | none => []

/-- The paths that are taken out when the node at `path` is, given those taken out before. -/
def removeAt (sheet : Sheet) (gone : List Path) (path : Path) : List Path :=
  if gone.contains path then gone
  else
    let parent := path.dropLast
    let siblings := siblingsAt sheet path
    match path.getLast? with
    | none => gone
    | some index =>
      let later := (List.range siblings.length).filter fun i =>
        index < i && !gone.contains (parent ++ [i])
      match later.head? with
      | none => path :: gone
      | some i =>
        if (siblings[i]?.map Node.isWhitespace).getD false then (parent ++ [i]) :: path :: gone
        else path :: gone

mutual

def Node.without (gone : List Path) (path : Path) : Node → Node
  | .ruleBlock keyword prelude nodes => .ruleBlock keyword prelude (withoutFrom gone path 0 nodes)
  | n => n

def withoutFrom (gone : List Path) (parent : Path) (index : Nat) : List Node → List Node
  | [] => []
  | n :: rest =>
    let path := parent ++ [index]
    let more := withoutFrom gone parent (index + 1) rest
    if gone.contains path then more else n.without gone path :: more

end

/-- The tree without the nodes at some paths. -/
def Sheet.without (sheet : Sheet) (gone : List Path) : Sheet := withoutFrom gone [] 0 sheet

/-- Takes out the nodes at the given paths, one after the other. -/
def Sheet.removeAll (sheet : Sheet) (paths : List Path) : Sheet :=
  sheet.without (paths.foldl (removeAt sheet) [])

mutual

def Node.removeWhere (p : Node → Bool) : Node → Node
  | .ruleBlock keyword prelude nodes => .ruleBlock keyword prelude (removeWhere p false nodes)
  | n => n

/-- Takes out the nodes that satisfy `p`, each with the white space that directly follows it; nodes
are judged with their own children already thinned out. `afterRemoved` says whether the node before
the list was taken out. -/
def removeWhere (p : Node → Bool) (afterRemoved : Bool) : List Node → List Node
  | [] => []
  | n :: rest =>
    if afterRemoved && n.isWhitespace then removeWhere p false rest
    else
      let thinned := n.removeWhere p
      if p thinned then removeWhere p true rest else thinned :: removeWhere p false rest

end

/-!
## Stripping comments

Comment nodes are taken out of the tree like any other node. A comment between tokens parts them, so
it becomes a single space. Text inside strings and addresses is no comment and stays.
-/

mutual

def Token.stripComments : Token → Token
  | .leaf position l =>
    match l with
    | .comment _ => .leaf position (.whitespace [' '])
    | l => .leaf position l
  | .block position bracket content closed => .block position bracket (stripTokens content) closed
  | .function position name arguments closed =>
    .function position name (stripTokens arguments) closed

def stripTokens : List Token → List Token
  | [] => []
  | t :: rest => t.stripComments :: stripTokens rest

end

mutual

def Node.stripTokens : Node → Node
  | .whitespace text => .whitespace text
  | .comment text => .comment text
  | .rule r => .rule ⟨Css.stripTokens r.selector, Css.stripTokens r.content⟩
  | .statement keyword prelude => .statement keyword (Css.stripTokens prelude)
  | .rawBlock keyword prelude content =>
    .rawBlock keyword (Css.stripTokens prelude) (Css.stripTokens content)
  | .ruleBlock keyword prelude nodes =>
    .ruleBlock keyword (Css.stripTokens prelude) (stripNodes nodes)

def stripNodes : List Node → List Node
  | [] => []
  | n :: rest => n.stripTokens :: stripNodes rest

end

/-- The number of comment nodes at any depth. -/
def Sheet.commentCount (sheet : Sheet) : Nat := (sheet.walk Node.isComment false).length

/-- The tree without comments. -/
def Sheet.stripComments (sheet : Sheet) : Sheet :=
  stripNodes (removeWhere Node.isComment false sheet)

end StylePrune.Css
