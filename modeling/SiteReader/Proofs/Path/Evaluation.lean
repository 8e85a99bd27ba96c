import SiteReader.Proofs.Number.Integer
import SiteReader.Proofs.Outcome
import SiteReader.Proofs.Path.Search

/-!
# Where evaluation ends

Following a path comes to a value, an array or nothing, unless a filter compares an integer beyond the range of floating-point
numbers with a literal that is read as a number (`Overflows`).  Such an integer anywhere below the node that has been reached
makes the whole evaluation fail (`evaluate_eq_error_iff`), and nothing else does (`evaluation_returns_iff`).
-/

namespace SiteReader

namespace Tree

open Double (overflowBound)

/-! ### Comparisons -/

theorem looselyEquals_eq_error_iff {value : Tree} {literal : String} {fault : Fault} :
    value.looselyEquals literal = .error fault ↔
      fault = .overflow ∧ (Numeral.decimal? literal.toList).isSome ∧ ∃ n, value = .integer n ∧ overflowBound ≤ n.natAbs := by
  cases value with
  | integer n =>
    simp only [looselyEquals, integer.injEq, exists_eq_left', ← Double.ofInt?_eq_none_iff]
    cases Numeral.decimal? literal.toList with
    | none => simp
    | some x => cases Double.ofInt? n <;> simp [eq_comm]
  | double y =>
    simp only [looselyEquals]
    cases Numeral.decimal? literal.toList <;> simp
  | boolean b =>
    simp only [looselyEquals]
    cases Numeral.decimal? literal.toList <;> simp
  | null | text | array | object => simp [looselyEquals]

theorem overflows_eq {name literal : String} {node value : Tree} (h : node.property? name = some value) :
    node.overflows name literal = true ↔ value.looselyEquals literal = .error .overflow := by
  rw [overflows, h, Option.any_some]
  rcases looselyEquals_cases value literal with he | ⟨equal, he⟩ <;> simp [he]

/-- A node holds a number beyond the range that is compared as a number. -/
theorem overflows_iff {name literal : String} {node : Tree} :
    node.overflows name literal = true ↔ (Numeral.decimal? literal.toList).isSome ∧
      ∃ n, node.property? name = some (.integer n) ∧ overflowBound ≤ n.natAbs := by
  cases h : node.property? name with
  | none => simp [overflows, h]
  | some value =>
    rw [overflows_eq h, looselyEquals_eq_error_iff]
    simp

theorem holding_of_overflows {name literal : String} {nodes : List Tree}
    (h : ∃ node ∈ nodes, node.overflows name literal = true) :
    holding name (some literal) nodes = .error .overflow := by
  induction nodes with
  | nil =>
    obtain ⟨node, hn, -⟩ := h
    cases hn
  | cons node rest ih =>
    rw [holding_cons]
    cases hp : node.property? name with
    | none =>
      obtain ⟨other, ho, hover⟩ := h
      rcases List.mem_cons.mp ho with rfl | ho
      · simp [overflows, hp] at hover
      · exact ih ⟨other, ho, hover⟩
    | some value =>
      rcases looselyEquals_cases value literal with he | ⟨equal, he⟩
      · simp only [he]
        rfl
      · obtain ⟨other, ho, hover⟩ := h
        rcases List.mem_cons.mp ho with rfl | ho
        · rw [overflows_eq hp, he] at hover
          cases hover
        · simp only [he, ih ⟨other, ho, hover⟩]
          rfl

/-- One number beyond the range makes the search fail, wherever it is in the list. -/
theorem holding_eq_error_iff {name : String} {literal? : Option String} {nodes : List Tree} {fault : Fault} :
    holding name literal? nodes = .error fault ↔
      fault = .overflow ∧ ∃ literal, literal? = some literal ∧ ∃ node ∈ nodes, node.overflows name literal = true := by
  cases literal? with
  | none =>
    rw [holding_none]
    exact iff_of_false nofun (fun h => nomatch h.2)
  | some literal =>
    simp only [Option.some.injEq, exists_eq_left']
    by_cases hover : ∃ node ∈ nodes, node.overflows name literal = true
    · rw [holding_of_overflows hover, Except.error.injEq]
      exact ⟨fun h => ⟨h.symm, hover⟩, fun h => h.1.symm⟩
    · have hnone : ∀ node ∈ nodes, node.overflows name literal = false := by simpa using hover
      rw [holding_some hnone]
      exact iff_of_false nofun (fun h => hover h.2)

end Tree

namespace Path

open Double (overflowBound)

/-- The node that a field or an item leads to. -/
def Segment.child? : Segment → Tree → Option Tree
  | field name, node => node.property? name
  | item position, .array items => items[position]?
  | _, _ => none

/-- Fields and items lead from a node to a node below it. -/
inductive Leads : List Segment → Tree → Tree → Prop
  | here (node : Tree) : Leads [] node node
  | step {segment : Segment} {rest : List Segment} {root child node : Tree} (h : segment.child? root = some child)
      (hr : Leads rest child node) : Leads (segment :: rest) root node

/-- The fields and items at the start of a path lead to a filter, and below the node that they lead to there is an object that
holds an integer beyond the range, which the filter compares with a literal that is read as a number. -/
def Overflows (root : Tree) (path : Path) : Prop :=
  ∃ before name literal after node holder n, path.segments = before ++ .filter name (some literal) :: after ∧
    Leads before root node ∧ holder ∈ node.holders name ∧ holder.property? name = some (.integer n) ∧
    overflowBound ≤ n.natAbs ∧ (Numeral.decimal? literal.toList).isSome

/-! ### Following segments -/

/-- The first segment is the filter, or leads to a node from which the others overflow. -/
theorem overflows_cons_iff {root : Tree} {source : String} {segment : Segment} {rest : List Segment} :
    Overflows root ⟨source, segment :: rest⟩ ↔
      (∃ name literal, segment = .filter name (some literal) ∧ ∃ node ∈ root.preorder, node.overflows name literal = true) ∨
        ∃ child, segment.child? root = some child ∧ Overflows child ⟨source, rest⟩ := by
  constructor
  · rintro ⟨before, name, literal, after, node, holder, n, hsegments, hl, hh, hp, hn, hnumber⟩
    cases hl with
    | here =>
      obtain ⟨rfl, -⟩ := List.cons.inj hsegments
      exact .inl ⟨name, literal, rfl, holder, (List.mem_filter.mp hh).1, Tree.overflows_iff.mpr ⟨hnumber, n, hp, hn⟩⟩
    | @step _ before _ child _ hc hl =>
      obtain ⟨rfl, hrest⟩ := List.cons.inj hsegments
      exact .inr ⟨child, hc, before, name, literal, after, node, holder, n, hrest, hl, hh, hp, hn, hnumber⟩
  · rintro (⟨name, literal, rfl, holder, hh, hover⟩ | ⟨child, hc, before, name, literal, after, node, holder, n, hrest, hl, hfound⟩)
    · obtain ⟨hnumber, n, hp, hn⟩ := Tree.overflows_iff.mp hover
      have hholder : holder ∈ root.holders name := List.mem_filter.mpr ⟨hh, by rw [hp]; rfl⟩
      exact ⟨[], name, literal, rest, root, holder, n, rfl, .here root, hholder, hp, hn, hnumber⟩
    · exact ⟨segment :: before, name, literal, after, node, holder, n, congrArg (segment :: ·) hrest, .step hc hl, hfound⟩

theorem follow_of_child {segment : Segment} {root child : Tree} (h : segment.child? root = some child)
    (rest : List Segment) : follow (segment :: rest) root = follow rest child := by
  cases segment with
  | field name =>
    cases root with
    | object fields =>
      have hvalue : Tree.field? name fields = some child := h
      simp only [follow, hvalue]
    | _ => cases h
  | item position =>
    cases root with
    | array items =>
      have hvalue : items[position]? = some child := h
      simp only [follow, hvalue]
    | _ => cases h
  | wildcard | search | filter => cases root <;> cases h

/-- A segment that leads nowhere ends the evaluation, and it fails in a filter only. -/
theorem follow_of_no_child {segment : Segment} {root : Tree} (h : segment.child? root = none) (rest : List Segment)
    {fault : Fault} : follow (segment :: rest) root = .error fault ↔
      ∃ name literal?, segment = .filter name literal? ∧ Tree.holding name literal? root.walk = .error fault := by
  cases segment with
  | field name =>
    cases root with
    | object fields =>
      have hvalue : Tree.field? name fields = none := h
      simp [follow, hvalue]
    | _ => simp [follow]
  | item position =>
    cases root with
    | array items =>
      have hvalue : items[position]? = none := h
      simp [follow, hvalue]
    | _ => simp [follow]
  | wildcard => cases root <;> simp [follow]
  | search => simp [follow]
  | filter name literal? =>
    have hfilter : follow (.filter name literal? :: rest) root =
        (Tree.holding name literal? root.walk).map fun found => some (.array found) := by
      rw [follow]
      cases Tree.holding name literal? root.walk <;> rfl
    rw [hfilter]
    constructor
    · exact fun hf => ⟨name, literal?, rfl, eq_error_of_map hf⟩
    · rintro ⟨_, _, heq, hf⟩
      obtain ⟨rfl, rfl⟩ := Segment.filter.inj heq
      rw [hf]
      rfl

/-- Evaluation fails if and only if it overflows. -/
theorem evaluate_eq_error_iff {root : Tree} {path : Path} {fault : Fault} :
    evaluate root path = .error fault ↔ fault = .overflow ∧ Overflows root path := by
  obtain ⟨source, segments⟩ := path
  rw [evaluate]
  induction segments generalizing root with
  | nil =>
    refine iff_of_false (fun h => by cases h) ?_
    rintro ⟨-, before, _, _, _, _, _, _, hsegments, -⟩
    exact absurd hsegments (by simp)
  | cons segment rest ih =>
    rw [overflows_cons_iff]
    cases hc : segment.child? root with
    | some child =>
      have hno : ∀ name literal, segment ≠ .filter name (some literal) := by
        rintro name literal rfl
        cases root <;> cases hc
      rw [follow_of_child hc, ih]
      simp [hno]
    | none =>
      rw [follow_of_no_child hc]
      simp only [Tree.holding_eq_error_iff, root.walk_eq_preorder]
      constructor
      · rintro ⟨name, _, rfl, hfault, literal, rfl, hover⟩
        exact ⟨hfault, .inl ⟨name, literal, rfl, hover⟩⟩
      · rintro ⟨hfault, ⟨name, literal, rfl, hover⟩ | ⟨_, hnone, -⟩⟩
        · exact ⟨name, some literal, rfl, hfault, literal, rfl, hover⟩
        · cases hnone

theorem not_overflows_of_ok {root : Tree} {path : Path} {value? : Option Tree} (h : evaluate root path = .ok value?) :
    ¬ Overflows root path := by
  intro hover
  cases h.symm.trans (evaluate_eq_error_iff.mpr ⟨rfl, hover⟩)

/-- Following a path in a document comes to a value, an array or nothing, unless it overflows; then it fails, whatever else
could have been found. -/
theorem evaluation_returns_iff (root : Tree) (path : Path) :
    ((∃ value?, evaluate root path = .ok value?) ↔ ¬ Overflows root path) ∧
      (evaluate root path = .error .overflow ↔ Overflows root path) := by
  refine ⟨?_, by simp [evaluate_eq_error_iff]⟩
  cases he : evaluate root path with
  | ok value? =>
    refine iff_of_true ⟨value?, rfl⟩ fun hover => ?_
    cases he.symm.trans (evaluate_eq_error_iff.mpr ⟨rfl, hover⟩)
  | error fault => exact iff_of_false nofun (not_not_intro (evaluate_eq_error_iff.mp he).2)

/-- The least integer beyond the range makes a filter fail on a document, although it equals no literal of one digit. -/
theorem evaluation_overflows :
    parse "$..[?(@.a==1)]" = .ok ⟨"$..[?(@.a==1)]", [.filter "a" (some "1")]⟩ ∧
      evaluate (.array [.object [("a", .integer 1)], .object [("a", .integer overflowBound)]])
        ⟨"$..[?(@.a==1)]", [.filter "a" (some "1")]⟩ = .error .overflow := by
  have hbound : overflowBound ≤ (overflowBound : Int).natAbs := Nat.le_of_eq (Int.natAbs_natCast overflowBound).symm
  have hbelow (n : Int) : .object [("a", .integer n)] ∈
      (Tree.array [.object [("a", .integer 1)], .object [("a", .integer n)]]).preorder := by
    simp [Tree.preorder, Tree.preorderItems, Tree.preorderFields]
  exact ⟨rfl, evaluate_eq_error_iff.mpr ⟨rfl, [], "a", "1", [], _, .object [("a", .integer overflowBound)], _, rfl, .here _,
    List.mem_filter.mpr ⟨hbelow overflowBound, rfl⟩, rfl, hbound, by decide⟩⟩

end Path

end SiteReader
