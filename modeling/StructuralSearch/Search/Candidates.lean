import StructuralSearch.Matching.Validation
import StructuralSearch.Query

/-!
# Where a query is tried

The nodes of a file are visited in the order of a walk.  A query of several statements is tried in
the body of every program and block.  A whole-node wildcard stands for every element of such a
body that is comparable and is not a part of its surroundings.  Any other query is tried on every
node whose kind may be compared with its own.
-/

namespace StructuralSearch

namespace Criteria

variable (criteria : Criteria)

/-- The elements of a body that stand on their own. -/
def standalone (body : List Node) : List Node :=
  body.filter fun node => criteria.profile.isComparable node && !criteria.profile.isFragment node

/-- The spans of the nodes that match a query node, of those whose kind may be compared with it. -/
def spansOfNode (target : Node) (nodes : List Node) : Matching (List Span) := do
  let candidates := nodes.filter fun node => criteria.profile.areAlternatives target.kind node.kind
  let matching ← candidates.filterMapM fun node => do
    return if ← criteria.validate target node then some node.span else none
  return matching

/-- The spans of all matches of a query target in a file, in the order of a walk. -/
def findSpans (target : QueryTarget) (root : Node) : Matching (List Span) := do
  let profile := criteria.profile
  let holders := root.walk.filter profile.holdsStatements
  match target with
  | .statements block =>
    let spans ← holders.mapM fun node =>
      criteria.matchStatements (profile.body block) (profile.body node)
    return spans.flatten
  | .node target =>
    if (profile.nodeWildcard? target).isSome then
      return (holders.flatMap fun node => criteria.standalone (profile.body node)).map (·.span)
    else criteria.spansOfNode target root.walk

end Criteria

end StructuralSearch
