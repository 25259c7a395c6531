import StylePrune.Regex.CharTest

/-!
# Alternatives

Alternatives that start alike share their start, which is then matched once. Alternatives that are
each a character or a set of characters are one set.
-/

namespace StylePrune.Regex

/-- Whether two nodes are the same and hold no others. -/
def Node.sameLeaf : Node → Node → Bool
  | .one a, .one b => a = b
  | .anchor a, .anchor b => a = b
  | .backreference i a, .backreference j b => i = j && a = b
  | _, _ => false

/-- The nodes that an alternative and all others start with, and what is left of each. -/
def sharedStart : List Node → List (List Node) → List Node × List (List Node)
  | [], others => ([], [] :: others)
  | n :: first, others =>
    if others.all fun other => other.head?.any n.sameLeaf then
      let (shared, left) := sharedStart first (others.map List.tail)
      (n :: shared, left)
    else ([], (n :: first) :: others)

/-- The items that an alternative of a single character stands for. -/
def alternativeItems? : List Node → Option (List SetItem)
  | [.one test] => test.items?
  | _ => none

/-- The nodes of a choice between alternatives. -/
def choiceOf (case : CaseRule) (alternatives : List (List Node)) : List Node :=
  match alternatives with
  | [] => []
  | [only] => only
  | first :: others =>
    let (shared, left) := sharedStart first others
    match left.mapM alternativeItems? with
    | some items => shared ++ [.one (.ofItems false items.flatten case)]
    | none => shared ++ [.choice (left.map .seq)]

end StylePrune.Regex
