import StructuralSearch.Proofs.BuiltTexts
import StructuralSearch.Proofs.SureMatching

/-!
# Where spans begin and end

A search reports no places of its own.  Every span that is found covers two nodes of the file, or one
of them twice (`Criteria.returns_findSpans`), and every node of a built tree has the span of the parse
tree or of a part of it (`TreeBuilder.exists_part_of_mem_build`).

So if the places of a parse tree are told by their offsets (`ParseTree.WellPlaced`), the offsets of a
span tell its lines and columns too: `span_eq_of_offsets`.
-/

namespace StructuralSearch

/-- A span begins where one of the nodes begins and ends where one of them ends. -/
structure Span.BoundedBy (nodes : List Node) (span : Span) : Prop where
  start : ∃ node ∈ nodes, node.span.start = span.start
  stop : ∃ node ∈ nodes, node.span.stop = span.stop

namespace Span.BoundedBy

variable {nodes : List Node} {a b : Span}

/-- The span of one of the nodes. -/
theorem of_mem {node : Node} (h : node ∈ nodes) : node.span.BoundedBy nodes :=
  ⟨⟨node, h, rfl⟩, ⟨node, h, rfl⟩⟩

/-- The span over two spans begins and ends with one of them. -/
theorem cover (ha : a.BoundedBy nodes) (hb : b.BoundedBy nodes) : (a.cover b).BoundedBy nodes := by
  constructor
  · unfold Span.cover
    dsimp only
    split
    · exact hb.start
    · exact ha.start
  · unfold Span.cover
    dsimp only
    split
    · exact hb.stop
    · exact ha.stop

end Span.BoundedBy

/-- A span covers two of the nodes and no more than what is between them. -/
def Span.CoverOf (nodes : List Node) (span : Span) : Prop :=
  ∃ first ∈ nodes, ∃ last ∈ nodes, span = first.span.cover last.span

namespace Span.CoverOf

variable {nodes more : List Node} {span : Span}

/-- The span of one of the nodes. -/
theorem of_mem {node : Node} (h : node ∈ nodes) : node.span.CoverOf nodes :=
  ⟨node, h, node, h, (Span.cover_self _).symm⟩

theorem mono (h : span.CoverOf nodes) (hmore : nodes ⊆ more) : span.CoverOf more := by
  obtain ⟨first, hfirst, last, hlast, hspan⟩ := h
  exact ⟨first, hmore hfirst, last, hmore hlast, hspan⟩

/-- A span that covers two nodes begins with one of them and ends with one of them. -/
theorem boundedBy (h : span.CoverOf nodes) : span.BoundedBy nodes := by
  obtain ⟨first, hfirst, last, hlast, rfl⟩ := h
  exact (Span.BoundedBy.of_mem hfirst).cover (.of_mem hlast)

end Span.CoverOf

/-! ### What computations return -/

namespace Matching

variable {α β : Type} {P : α → Prop} {Q : β → Prop}

/-- If a computation returns something, then something with a property. -/
def Returns (P : α → Prop) (x : Matching α) : Prop :=
  ∀ tally a, (x.run tally).1 = .ok a → P a

theorem Returns.pure {a : α} (h : P a) : Returns P (pure a) := by
  intro tally b hb
  obtain rfl := Except.ok.inj hb
  exact h

/-- What a computation returns, it returns in whatever state the next one begins. -/
theorem Returns.bind {x : Matching α} {f : α → Matching β} (hx : Returns P x)
    (hf : ∀ a, P a → Returns Q (f a)) : Returns Q (x >>= f) := by
  intro tally b hb
  cases hfirst : x tally with
  | mk outcome after =>
      simp only [Bind.bind, ExceptT.run, ExceptT.bind, ExceptT.mk, StateT.bind, hfirst] at hb
      cases outcome with
      | error e => cases hb
      | ok a =>
          have hout : (x.run tally).1 = .ok a := congrArg Prod.fst hfirst
          exact hf a (hx tally a hout) after b hb

theorem Returns.mono {R : α → Prop} {x : Matching α} (h : Returns P x) (himp : ∀ a, P a → R a) :
    Returns R x :=
  fun tally a ha => himp a (h tally a ha)

/-- Nothing is known of what a computation returns. -/
theorem Returns.any (x : Matching α) : Returns (fun _ => True) x :=
  fun _ _ _ => trivial

/-- What the computations of a list return, one by one. -/
theorem Returns.mapM {xs : List α} {f : α → Matching β} (h : ∀ x ∈ xs, Returns Q (f x)) :
    Returns (fun ys => ∀ y ∈ ys, Q y) (xs.mapM f) := by
  induction xs with
  | nil => exact Returns.pure fun y hy => absurd hy List.not_mem_nil
  | cons x xs ih =>
      rw [List.mapM_cons]
      refine Returns.bind (h x List.mem_cons_self) fun first hfirst => ?_
      refine Returns.bind (ih fun y hy => h y (List.mem_cons_of_mem _ hy)) fun others hothers => ?_
      exact Returns.pure (List.forall_mem_cons.mpr ⟨hfirst, hothers⟩)

/-- What is kept of the results of computations. -/
theorem Returns.filterMapM {xs : List α} {f : α → Matching (Option β)}
    (h : ∀ x ∈ xs, Returns (fun kept => ∀ y ∈ kept, Q y) (f x)) :
    Returns (fun ys => ∀ y ∈ ys, Q y) (xs.filterMapM f) := by
  induction xs with
  | nil => exact Returns.pure fun y hy => absurd hy List.not_mem_nil
  | cons x xs ih =>
      have hlater := ih fun y hy => h y (List.mem_cons_of_mem _ hy)
      rw [List.filterMapM_cons]
      refine Returns.bind (h x List.mem_cons_self) fun kept hkept => ?_
      cases kept with
      | none => exact hlater
      | some first =>
          refine Returns.bind hlater fun others hothers => ?_
          exact Returns.pure (List.forall_mem_cons.mpr ⟨hkept first rfl, hothers⟩)

end Matching

namespace Sequence

open Matching

variable {α : Type} {test : List α → Matching Bool}

/-- A stretch goes on with elements of the file. -/
theorem returns_shortestStretch (taken file : List α) :
    Returns (fun found => ∀ window ∈ found, window ⊆ taken ++ file)
      (shortestStretch test taken file) := by
  induction file generalizing taken with
  | nil => exact Returns.pure fun window hwindow => nomatch hwindow
  | cons x file ih =>
      have hfront : taken ++ [x] ⊆ taken ++ x :: file := by
        rw [List.append_cons taken x file]
        exact List.subset_append_left _ _
      rw [shortestStretch]
      refine Returns.bind (Returns.any _) fun found _ => ?_
      cases found with
      | true =>
          refine Returns.pure fun window hwindow => ?_
          obtain rfl := Option.some.inj hwindow
          exact hfront
      | false =>
          have hlater := ih (taken ++ [x])
          rw [← List.append_cons] at hlater
          exact hlater

/-- A window is made of elements of the file. -/
theorem returns_shortestWindows (file : List α) :
    Returns (fun windows => ∀ window ∈ windows, window ⊆ file) (shortestWindows test file) := by
  induction file with
  | nil => exact Returns.pure fun window hwindow => absurd hwindow List.not_mem_nil
  | cons x file ih =>
      rw [shortestWindows]
      refine Returns.bind (returns_shortestStretch [] (x :: file)) fun here hhere => ?_
      refine Returns.bind ih fun later hlater => Returns.pure fun window hwindow => ?_
      rcases List.mem_append.mp hwindow with hmem | hmem
      · exact hhere window (Option.mem_toList.mp hmem)
      · exact List.subset_cons_of_subset x (hlater window hmem)

end Sequence

/-! ### The spans that are found -/

namespace Criteria

open Matching

/-- The span of a list of nodes covers two of them. -/
theorem coverOf_of_coverOf? {nodes : List Node} {span : Span}
    (h : coverOf? nodes = some span) : span.CoverOf nodes := by
  unfold coverOf? at h
  split at h
  · rename_i first last hfirst hlast
    exact ⟨first, List.mem_of_mem_head? hfirst, last, List.mem_of_mem_getLast? hlast,
      (Option.some.inj h).symm⟩
  · cases h

/-- The span of the elements at some places covers two of the elements. -/
theorem coverOf_of_coverOfPlaces? {nodes : List Node} {places : List Nat} {span : Span}
    (h : coverOfPlaces? nodes places = some span) : span.CoverOf nodes := by
  simp only [coverOfPlaces?, Option.bind_eq_bind, Option.bind_eq_some_iff] at h
  obtain ⟨low, -, first, hfirst, high, -, last, hlast, hspan⟩ := h
  exact ⟨first, List.mem_of_getElem? hfirst, last, List.mem_of_getElem? hlast,
    (Option.some.inj hspan).symm⟩

variable (criteria : Criteria)

/-- The spans of statements cover statements of the body. -/
theorem returns_matchStatements (query body : List Node) :
    Returns (fun spans => ∀ span ∈ spans, span.CoverOf body)
      (criteria.matchStatements query body) := by
  have hcomparable : body.filter criteria.profile.isComparable ⊆ body := List.filter_subset_self _
  unfold matchStatements
  dsimp only
  split
  · refine Returns.bind (Sequence.returns_shortestWindows _) fun windows hwindows => ?_
    refine Returns.pure fun span hspan => ?_
    obtain ⟨window, hwindow, hcover⟩ := List.mem_filterMap.mp hspan
    have hbody := List.Subset.trans (hwindows window hwindow) hcomparable
    exact (coverOf_of_coverOf? hcover).mono hbody
  · refine Returns.bind (Returns.any _) fun claimed _ => ?_
    cases claimed with
    | none => exact Returns.pure fun span hspan => absurd hspan List.not_mem_nil
    | some places =>
        refine Returns.pure fun span hspan => ?_
        exact (coverOf_of_coverOfPlaces? (Option.mem_toList.mp hspan)).mono hcomparable

/-- **No place is made up.**  The spans that are found in a file cover nodes of it. -/
theorem returns_findSpans (target : QueryTarget) (root : Node) :
    Returns (fun spans => ∀ span ∈ spans, span.CoverOf root.walk)
      (criteria.findSpans target root) := by
  have hbody : ∀ node ∈ root.walk.filter criteria.profile.holdsStatements,
      criteria.profile.body node ⊆ root.walk := by
    intro node hnode statement hstatement
    exact mem_walk_of_mem_body (List.mem_of_mem_filter hnode) hstatement
  unfold findSpans
  cases target with
  | statements block =>
      have hbodies : ∀ node ∈ root.walk.filter criteria.profile.holdsStatements,
          Returns (fun spans => ∀ span ∈ spans, span.CoverOf root.walk)
            (criteria.matchStatements (criteria.profile.body block)
              (criteria.profile.body node)) := by
        intro node hnode
        refine (criteria.returns_matchStatements _ _).mono fun spans hspans span hspan => ?_
        exact (hspans span hspan).mono (hbody node hnode)
      refine Returns.bind (Returns.mapM hbodies) fun all hall => ?_
      refine Returns.pure fun span hspan => ?_
      obtain ⟨spans, hspans, hmem⟩ := List.mem_flatten.mp hspan
      exact hall spans hspans span hmem
  | node target =>
      dsimp only
      split
      · refine Returns.pure fun span hspan => ?_
        obtain ⟨statement, hstatement, rfl⟩ := List.mem_map.mp hspan
        obtain ⟨node, hnode, hmem⟩ := List.mem_flatMap.mp hstatement
        exact .of_mem (hbody node hnode (List.mem_of_mem_filter hmem))
      · unfold spansOfNode
        refine Returns.filterMapM fun node hnode => ?_
        refine Returns.bind (Returns.any _) fun found _ => Returns.pure fun span hspan => ?_
        cases found with
        | true =>
            obtain rfl := Option.some.inj hspan
            exact .of_mem (List.mem_of_mem_filter hnode)
        | false => cases hspan

end Criteria

/-! ### The spans of built nodes -/

namespace ParseTree

mutual

/-- The places where a tree or a part of it begins or ends. -/
def points : ParseTree → List TreePoint
  | ⟨_, _, _, _, _, _, _, start, stop, children⟩ => start :: stop :: pointsOfAll children

/-- The places where a tree of a list or a part of it begins or ends. -/
def pointsOfAll : List ParseTree → List TreePoint
  | [] => []
  | tree :: trees => points tree ++ pointsOfAll trees

end

/-- A tree begins and ends somewhere, and the other places are those of its children. -/
theorem mem_points_iff {tree : ParseTree} {point : TreePoint} :
    point ∈ tree.points ↔
      point = tree.start ∨ point = tree.stop ∨ ∃ child ∈ tree.children, point ∈ child.points := by
  obtain ⟨kind, named, extra, isError, isMissing, hasError, field, start, stop, children⟩ := tree
  have hall : point ∈ pointsOfAll children ↔ ∃ child ∈ children, point ∈ child.points := by
    induction children with
    | nil => simp [pointsOfAll]
    | cons child children ih => simp [pointsOfAll, ih]
  rw [points, List.mem_cons, List.mem_cons, hall]

theorem start_mem_points (tree : ParseTree) : tree.start ∈ tree.points :=
  mem_points_iff.mpr (Or.inl rfl)

theorem stop_mem_points (tree : ParseTree) : tree.stop ∈ tree.points :=
  mem_points_iff.mpr (Or.inr (Or.inl rfl))

/-- The places of a child are places of the tree. -/
theorem points_subset {tree child : ParseTree} (hchild : child ∈ tree.children) :
    child.points ⊆ tree.points :=
  fun _ hpoint => mem_points_iff.mpr (Or.inr (Or.inr ⟨child, hchild, hpoint⟩))

mutual

/-- A tree and all that is below it. -/
def parts : ParseTree → List ParseTree
  | ⟨kind, named, extra, isError, isMissing, hasError, field, start, stop, children⟩ =>
    ⟨kind, named, extra, isError, isMissing, hasError, field, start, stop, children⟩ ::
      partsOfAll children

/-- The trees of a list and all that is below them. -/
def partsOfAll : List ParseTree → List ParseTree
  | [] => []
  | tree :: trees => parts tree ++ partsOfAll trees

end

/-- The parts of a tree are the tree and the parts of its children, one child after the other. -/
theorem parts_eq (tree : ParseTree) : tree.parts = tree :: tree.children.flatMap parts := by
  obtain ⟨kind, named, extra, isError, isMissing, hasError, field, start, stop, children⟩ := tree
  have hall : partsOfAll children = children.flatMap parts := by
    induction children with
    | nil => rfl
    | cons child children ih => rw [partsOfAll, ih, List.flatMap_cons]
  rw [parts, hall]

/-- The parts of a tree are the tree and those of its children. -/
theorem mem_parts_iff {tree part : ParseTree} :
    part ∈ tree.parts ↔ part = tree ∨ ∃ child ∈ tree.children, part ∈ child.parts := by
  rw [parts_eq, List.mem_cons, List.mem_flatMap]

theorem mem_parts_self (tree : ParseTree) : tree ∈ tree.parts :=
  mem_parts_iff.mpr (Or.inl rfl)

/-- The places of a part are places of the tree. -/
theorem points_subset_of_mem_parts {tree part : ParseTree} (h : part ∈ tree.parts) :
    part.points ⊆ tree.points := by
  induction tree using induction_on_children with
  | step tree ih =>
      rcases mem_parts_iff.mp h with rfl | ⟨child, hchild, hpart⟩
      · exact List.Subset.refl _
      · exact List.Subset.trans (ih child hchild hpart) (points_subset hchild)

end ParseTree

namespace TreeBuilder

/-- An element of a sequence does not change the span of a node. -/
theorem span_pushTo (node element : Node) (name : String) :
    (node.pushTo name element).span = node.span := by
  unfold Node.pushTo
  split <;> rfl

theorem span_emptyFields (layout : KindLayout) (node : Node) :
    (emptyFields layout node).span = node.span :=
  emptyFields_induction (P := fun filled => filled.span = node.span) rfl
    fun _ _ _ _ _ hspan => hspan

theorem span_attachUnfielded (layout : KindLayout) (node built : Node) (tree : ParseTree) :
    (attachUnfielded layout node tree built).span = node.span := by
  unfold attachUnfielded
  split
  · exact span_pushTo _ _ _
  · rfl

variable (builder : TreeBuilder)

/-- A child does not change the span of the node to which it is attached. -/
theorem span_attach (layout : KindLayout) (node : Node) (child : ParseTree × Node) :
    (builder.attach layout node child).span = node.span := by
  unfold attach
  dsimp only
  split
  · rfl
  · split
    · split
      · rfl
      · split
        · exact span_pushTo _ _ _
        · exact span_attachUnfielded _ _ _ _
    · exact span_attachUnfielded _ _ _ _

/-- A node that is put together has the span of its tree. -/
theorem span_assemble (tree : ParseTree) (built : List (ParseTree × Node)) :
    (builder.assemble tree built).span = tree.span := by
  have hattached : ∀ (layout : KindLayout) (node : Node),
      (built.foldl (builder.attach layout) node).span = node.span := by
    intro layout node
    induction built generalizing node with
    | nil => rfl
    | cons child built ih => rw [List.foldl_cons, ih, span_attach]
  have hfill : (builder.fill tree built).span = tree.span := by
    unfold fill
    dsimp only
    split
    · rw [hattached, span_emptyFields]
    · rfl
  unfold assemble addKeywords
  split
  · exact hfill
  · exact hfill

/-- **Built nodes lie where trees do.**  The induction is on the parse tree; a node below the root was
built from a child or is the token that a child stands for. -/
theorem exists_part_of_mem_build {tree : ParseTree} {node : Node}
    (h : node ∈ (builder.build tree).walk) : ∃ part ∈ tree.parts, node.span = part.span := by
  induction tree using ParseTree.induction_on_children generalizing node with
  | step tree ih =>
      have hchildren : ∀ child ∈ tree.children, node ∈ (builder.build child).walk →
          ∃ part ∈ tree.parts, node.span = part.span := by
        intro child hchild hnode
        obtain ⟨part, hpart, hspan⟩ := ih child hchild hnode
        exact ⟨part, ParseTree.mem_parts_iff.mpr (Or.inr ⟨child, hchild, hpart⟩), hspan⟩
      rcases builder.build_cases tree with heq | ⟨child, hchild, heq⟩
      · rw [heq] at h
        rcases Node.mem_walk_iff.mp h with rfl | ⟨child, hchild, hbelow⟩
        · exact ⟨tree, tree.mem_parts_self, builder.span_assemble tree _⟩
        · have hsupplied := builder.supplies_assemble child hchild
          rw [buildAll_eq_map] at hsupplied
          rcases hsupplied with ⟨part, hmem⟩ | ⟨part, made, text, hmem, rfl⟩
          · obtain ⟨origin, horigin, hpair⟩ := List.mem_map.mp hmem
            obtain ⟨-, rfl⟩ := Prod.mk.inj hpair
            exact hchildren origin horigin hbelow
          · obtain ⟨origin, horigin, hpair⟩ := List.mem_map.mp hmem
            obtain ⟨rfl, -⟩ := Prod.mk.inj hpair
            rcases Node.mem_walk_iff.mp hbelow with rfl | ⟨inner, hinner, -⟩
            · exact ⟨origin, ParseTree.mem_parts_iff.mpr
                (Or.inr ⟨origin, horigin, origin.mem_parts_self⟩), rfl⟩
            · simp [Node.ofToken, Node.children] at hinner
      · rw [heq] at h
        exact hchildren child hchild h

/-- Built nodes begin and end at places of their tree. -/
theorem exists_points_of_mem_build {tree : ParseTree} {node : Node}
    (h : node ∈ (builder.build tree).walk) :
    ∃ start ∈ tree.points, ∃ stop ∈ tree.points, node.span = ⟨start.position, stop.position⟩ := by
  obtain ⟨part, hpart, hspan⟩ := builder.exists_part_of_mem_build h
  have hpoints := ParseTree.points_subset_of_mem_parts hpart
  exact ⟨part.start, hpoints part.start_mem_points, part.stop, hpoints part.stop_mem_points, hspan⟩

end TreeBuilder

/-! ### Places that are told by their offsets -/

/-- The places of a tree are places of a text: their offsets are 32-bit quantities, and places with
one offset have one row and one column. -/
structure ParseTree.WellPlaced (tree : ParseTree) : Prop where
  offset_le : ∀ point ∈ tree.points, point.offset ≤ positionLimit
  point_eq : ∀ a ∈ tree.points, ∀ b ∈ tree.points, a.offset = b.offset → a = b

namespace ParseTree.WellPlaced

instance decidable (tree : ParseTree) : Decidable tree.WellPlaced :=
  decidable_of_iff ((∀ point ∈ tree.points, point.offset ≤ positionLimit) ∧
    ∀ a ∈ tree.points, ∀ b ∈ tree.points, a.offset = b.offset → a = b)
    ⟨fun ⟨hle, heq⟩ => ⟨hle, heq⟩, fun h => ⟨h.offset_le, h.point_eq⟩⟩

variable {tree : ParseTree} (h : tree.WellPlaced)
include h

/-- The position of a place is told by its offset. -/
theorem position_eq {a b : TreePoint} (ha : a ∈ tree.points) (hb : b ∈ tree.points)
    (hoffset : a.position.offset = b.position.offset) : a.position = b.position := by
  have hlow := h.offset_le a ha
  have hhigh := h.offset_le b hb
  simp only [TreePoint.position, clampPosition] at hoffset
  rw [h.point_eq a ha b hb (by omega)]

/-- **Offsets tell spans.**  Two spans that are bounded by the nodes of a tree whose places are told by
their offsets are the same if their offsets are. -/
theorem span_eq_of_offsets {builder : TreeBuilder} {a b : Span}
    (ha : a.BoundedBy (builder.build tree).walk) (hb : b.BoundedBy (builder.build tree).walk)
    (hstart : a.start.offset = b.start.offset) (hstop : a.stop.offset = b.stop.offset) :
    a = b := by
  have hbounds : ∀ {span : Span}, span.BoundedBy (builder.build tree).walk →
      ∃ start ∈ tree.points, ∃ stop ∈ tree.points, span = ⟨start.position, stop.position⟩ := by
    intro span hspan
    obtain ⟨first, hfirst, hfrom⟩ := hspan.start
    obtain ⟨last, hlast, hto⟩ := hspan.stop
    obtain ⟨start, hstart, _, _, hbegins⟩ := builder.exists_points_of_mem_build hfirst
    obtain ⟨_, _, stop, hstop, hends⟩ := builder.exists_points_of_mem_build hlast
    refine ⟨start, hstart, stop, hstop, ?_⟩
    rw [hbegins] at hfrom
    rw [hends] at hto
    obtain ⟨low, high⟩ := span
    exact (congrArg₂ Span.mk hfrom hto).symm
  obtain ⟨start, hbegin, stop, hend, rfl⟩ := hbounds ha
  obtain ⟨start', hbegin', stop', hend', rfl⟩ := hbounds hb
  rw [h.position_eq hbegin hbegin' hstart, h.position_eq hend hend' hstop]

end ParseTree.WellPlaced

end StructuralSearch
