import SiteReader.Proofs.Number.Numeral
import SiteReader.Proofs.Path.Evaluation
import SiteReader.Proofs.Path.Parser

/-!
# Comparing integers with the literal of a filter

An integer and the decimal text of another one are compared as floating-point numbers, so that they are equal if and only if
both are rounded to the same 53 bits (`looselyEquals_ofInt`).  A filter for an integer therefore finds, among the objects that
hold an integer, those whose integer is rounded to the same as the one it asks for (`integers_found`).
-/

namespace SiteReader

/-- The decimal text of an integer. -/
def integerText (n : Int) : String :=
  String.ofList (Numeral.ofInt n)

open Double (nearest overflowBound)

theorem quote_not_mem_integerText (n : Int) : '\'' ∉ (integerText n).toList := by
  have hdigits : Ipv4.Digits 10 (Nat.toDigits 10 n.natAbs) n.natAbs := .toDigits (by decide) (by decide) n.natAbs
  have hquote : '\'' ∉ Nat.toDigits 10 n.natAbs := fun hm => absurd (hdigits.isAsciiDigit '\'' hm) (by decide)
  rw [integerText, String.toList_ofList, Numeral.ofInt]
  split
  · simp [hquote]
  · exact hquote

theorem lt_of_lt_power {n : Int} (h : n.natAbs < 10 ^ 16) : n.natAbs < 10 ^ 300 := by
  have hle (k : Nat) (hk : 16 ≤ k) : 10 ^ 16 ≤ 10 ^ k := Nat.pow_le_pow_right (by decide) hk
  exact Nat.lt_of_lt_of_le h (hle 300 (by decide))

theorem lt_overflowBound {n : Int} (h : n.natAbs < 10 ^ 300) : n.natAbs < overflowBound := by
  have hbound : 10 ^ 300 ≤ overflowBound := by
    unfold overflowBound
    decide +kernel
  exact Nat.lt_of_lt_of_le h hbound

namespace Tree

/-- Integers are compared as the floating-point numbers nearest to them. -/
theorem looselyEquals_ofInt {n m : Int} (hn : n.natAbs < overflowBound) (hm : m.natAbs < overflowBound) :
    (integer n).looselyEquals (integerText m) = .ok (decide (nearest n = nearest m)) := by
  have hliteral : Numeral.decimal? (integerText m).toList = some (Double.ofRatio (m < 0) m.natAbs 1) := by
    rw [integerText, String.toList_ofList, Numeral.decimal?_ofInt]
  simp only [looselyEquals, hliteral, Double.ofInt?_eq_some hn, Double.sameValue_ofRatio_one hm hn, eq_comm]

theorem holdsEqual_eq {name literal : String} {node value : Tree} {equal : Bool} (hp : node.property? name = some value)
    (he : value.looselyEquals literal = .ok equal) : node.holdsEqual name literal = equal := by
  rw [holdsEqual, hp, Option.any_some]
  cases equal <;> simp [he]

/-- The integer that a node holds under a name. -/
def heldInteger? (name : String) (node : Tree) : Option Int :=
  match node.property? name with
  | some (integer n) => some n
  | _ => none

theorem heldInteger?_eq_some_iff {name : String} {node : Tree} {n : Int} :
    node.heldInteger? name = some n ↔ node.property? name = some (.integer n) := by
  unfold heldInteger?
  split
  next h => simp [h]
  next h => exact iff_of_false nofun (h n)

end Tree

namespace Path

/-- The text of a filter that compares a field with a literal. -/
def filterText (name literal : String) : String :=
  "$..[?(@." ++ name ++ "=='" ++ literal ++ "')]"

/-- A text that is a path without blanks around it is read as this path. -/
theorem parse_pathText {text : String} {segments : List Segment} (h : PathText segments text.toList) :
    parse text = .ok ⟨text, segments⟩ := by
  have htrim : Text.trim text.toList = text.toList := Text.trim_of_edges h.edged
  have hsource : trimmed text = text := by rw [trimmed, htrim, String.ofList_toList]
  have hparse : parse text = .ok ⟨trimmed text, segments⟩ := parse_of_pathText (htrim.symm ▸ h)
  rwa [hsource] at hparse

theorem parse_filterText {name literal : String} (hn : Run isFilterNameChar name.toList) (hl : '\'' ∉ literal.toList) :
    parse (filterText name literal) = .ok ⟨filterText name literal, [.filter name (some literal)]⟩ := by
  have hnone : Text.Blanks [] := List.forall_mem_nil _
  have hfilter := FilterText.compared hnone hn hnone (.inr rfl) hnone (.quoted (.quoted (.inl rfl) hl)) hnone
  have hpath := PathText.segments (.cons (.filter hfilter) .nil)
  rw [Option.map_some, String.ofList_toList, String.ofList_toList] at hpath
  refine parse_pathText ?_
  convert hpath using 1
  simp [filterText, String.toList_append]

/-- A filter finds the objects whose values equal the literal, if none of them is beyond the range. -/
theorem evaluate_filterText {name literal : String} {root : Tree} (source : String) (rest : List Segment)
    (h : ∀ node ∈ root.holders name, node.overflows name literal = false) :
    evaluate root ⟨source, .filter name (some literal) :: rest⟩ =
      .ok (some (.array ((root.holders name).filter (·.holdsEqual name literal)))) := by
  rw [evaluate, follow, root.walk_eq_preorder, Tree.holding_some (Tree.overflows_eq_false h), Tree.filter_holders]
  rfl

/-- An integer of at most 300 digits equals the decimal text of another one if and only if both are rounded to the same
floating-point number; if one of them is below `2 ^ 53`, if and only if they are the same.  Among the objects that hold an
integer, a filter for one finds those that hold an integer rounded to the same. -/
theorem integers_found {name : String} (hname : Run isFilterNameChar name.toList) {m : Int} (hm : m.natAbs < 10 ^ 300)
    {root : Tree} (hroot : ∀ node ∈ root.holders name, ∀ n, node.heldInteger? name = some n → n.natAbs < 10 ^ 300) :
    (∀ n : Int, n.natAbs < 10 ^ 300 →
      (Tree.integer n).looselyEquals (integerText m) = .ok (decide (nearest n = nearest m)) ∧
      (n.natAbs < 2 ^ 53 ∨ m.natAbs < 2 ^ 53 → (nearest n = nearest m ↔ n = m))) ∧
    ∃ path found, parse (filterText name (integerText m)) = .ok path ∧ evaluate root path = .ok (some (.array found)) ∧
      (found.filter fun node => (node.heldInteger? name).isSome) =
        ((root.holders name).filter fun node => (node.heldInteger? name).any fun n => nearest n = nearest m) ∧
      (m.natAbs < 2 ^ 53 → (found.filter fun node => (node.heldInteger? name).isSome) =
        (root.holders name).filter fun node => node.heldInteger? name = some m) := by
  have hequal {n : Int} (hn : n.natAbs < 10 ^ 300) :
      (Tree.integer n).looselyEquals (integerText m) = .ok (decide (nearest n = nearest m)) :=
    Tree.looselyEquals_ofInt (lt_overflowBound hn) (lt_overflowBound hm)
  have hrange : ∀ node ∈ root.holders name, node.overflows name (integerText m) = false := by
    intro node hnode
    rw [← Bool.not_eq_true, Tree.overflows_iff]
    rintro ⟨-, n, hp, hn⟩
    have hsmall := lt_overflowBound (hroot node hnode n (Tree.heldInteger?_eq_some_iff.mpr hp))
    omega
  have hfound : ((root.holders name).filter (·.holdsEqual name (integerText m))).filter
      (fun node => (node.heldInteger? name).isSome) =
        (root.holders name).filter fun node => (node.heldInteger? name).any fun n => nearest n = nearest m := by
    rw [List.filter_filter]
    refine List.filter_congr fun node hnode => ?_
    cases hi : node.heldInteger? name with
    | none => rfl
    | some n =>
      have hheld := Tree.holdsEqual_eq (Tree.heldInteger?_eq_some_iff.mp hi) (hequal (hroot node hnode n hi))
      simp [hheld]
  refine ⟨fun n hn => ⟨hequal hn, Double.nearest_eq_iff⟩, _, _, parse_filterText hname (quote_not_mem_integerText m),
    evaluate_filterText _ _ hrange, hfound, fun hexact => hfound.trans (List.filter_congr fun node _ => ?_)⟩
  cases node.heldInteger? name with
  | none => rfl
  | some n => simp [Double.nearest_eq_iff (.inr hexact)]

theorem integers_found_small :
    let root : Tree := .array [.object [("id", .integer 42)], .object [("id", .text "42")], .object [("id", .integer 43)]]
    (Run isFilterNameChar "id".toList ∧ (42 : Int).natAbs < 10 ^ 300 ∧
      ∀ node ∈ root.holders "id", ∀ n, node.heldInteger? "id" = some n → n.natAbs < 10 ^ 300) ∧
    (Tree.integer 43).looselyEquals (integerText 42) = .ok (decide (nearest 43 = nearest 42)) ∧
    ∃ path found, parse (filterText "id" (integerText 42)) = .ok path ∧ evaluate root path = .ok (some (.array found)) ∧
      (found.filter fun node => (node.heldInteger? "id").isSome) = [.object [("id", .integer 42)]] := by
  intro root
  have hname : Run isFilterNameChar "id".toList := ⟨by decide, List.all_eq_true.mp rfl⟩
  have hroot : ∀ node ∈ root.holders "id", ∀ n, node.heldInteger? "id" = some n → n.natAbs < 10 ^ 300 := by
    intro node hnode n hn
    have hall : ∀ node ∈ root.holders "id", (node.heldInteger? "id").all fun n => n.natAbs < 10 ^ 16 := by
      decide +kernel
    have hheld := hall node hnode
    rw [hn, Option.all_some, decide_eq_true_eq] at hheld
    exact lt_of_lt_power hheld
  obtain ⟨hpairs, path, found, hparse, heval, -, hfound⟩ := integers_found hname (lt_of_lt_power (n := 42) (by decide)) hroot
  exact ⟨⟨hname, lt_of_lt_power (by decide), hroot⟩, (hpairs 43 (lt_of_lt_power (by decide))).1, path, found, hparse, heval,
    hfound (by decide)⟩

/-- The first integer that is no floating-point number equals the one before it. -/
theorem integers_found_beyond :
    (Tree.integer 9007199254740993).looselyEquals (integerText 9007199254740992) = .ok true ∧
      (9007199254740993 : Int) ≠ 9007199254740992 ∧
      parse "$..[?(@.id=='9007199254740992')]" =
        .ok ⟨"$..[?(@.id=='9007199254740992')]", [.filter "id" (some "9007199254740992")]⟩ ∧
      evaluate (.array [.object [("id", .integer 9007199254740993)]])
        ⟨"$..[?(@.id=='9007199254740992')]", [.filter "id" (some "9007199254740992")]⟩ =
          .ok (some (.array [.object [("id", .integer 9007199254740993)]])) := by
  have hequal : (Tree.integer 9007199254740993).looselyEquals "9007199254740992" = .ok true := by
    have hrounded : nearest 9007199254740993 = nearest 9007199254740992 := by decide +kernel
    have hsmall {n : Int} (hn : n.natAbs < 10 ^ 16) : n.natAbs < overflowBound := lt_overflowBound (lt_of_lt_power hn)
    have := Tree.looselyEquals_ofInt (n := 9007199254740993) (m := 9007199254740992) (hsmall (by decide)) (hsmall (by decide))
    rwa [decide_eq_true hrounded] at this
  refine ⟨hequal, by decide, by rfl, ?_⟩
  rw [evaluate, follow, Tree.walk_eq_preorder]
  simp [Tree.preorder, Tree.preorderItems, Tree.preorderFields, Tree.holding, Tree.field?, hequal, bind, Except.bind, pure,
    Except.pure]

end Path

end SiteReader
