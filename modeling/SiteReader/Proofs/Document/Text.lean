import SiteReader.Document.Extract
import SiteReader.Proofs.Json.Printer
import SiteReader.Proofs.Outcome

/-!
# Trees in documents of text

The compact text of an object or an array starts with its bracket, so that a document of it is never taken for a page, and
it is read back as the same value (`ofText_blanks_append_render`).  What rules take from the text is therefore what they take
from the value, with the same notes on the way (`extraction_of_text`).
-/

namespace SiteReader

namespace Json

/-- The text of an object or an array starts with its bracket, in any layout. -/
theorem head?_print_of_isContainer (layout : Layout) {t : Tree} (h : t.isContainer = true) :
    (print layout t).head? = some '{' ∨ (print layout t).head? = some '[' := by
  rw [print]
  cases t with
  | array items =>
    cases items with
    | nil => exact .inr rfl
    | cons t rest => rw [printAt]; exact .inr rfl
  | object fields =>
    cases fields with
    | nil => exact .inl rfl
    | cons field rest => rw [printAt]; exact .inl rfl
  | _ => cases h

end Json

/-- The text of a field that is given an object or an array, the empty array apart. -/
theorem Tree.asText_of_isContainer {t : Tree} (h : t.isContainer = true) (hne : t ≠ .array []) :
    t.asText = Json.render Json.compact t := by
  cases t with
  | array items =>
    cases items with
    | nil => exact absurd rfl hne
    | cons t rest => rfl
  | object fields => rfl
  | _ => cases h

namespace Document

theorem ofTree_of_isContainer {t : Tree} (h : t.isContainer = true) : ofTree t = .tree t := by
  cases t with
  | array items => rfl
  | object fields => rfl
  | _ => cases h

/-- The text of an object or an array is read as this value, in any standard layout and whatever blanks precede it. -/
theorem ofText_blanks_append_render {layout : Json.Layout} (hl : layout.Standard) {blanks : String} {t : Tree}
    (hb : Text.Blanks blanks.toList) (hc : t.isContainer = true) (hp : Json.Printable t) (hf : (Json.Part.value t).Fits) :
    ofText (blanks ++ Json.render layout t) = .tree t := by
  have hhead := Json.head?_print_of_isContainer layout hc
  have hbody : Text.trimStart (blanks ++ Json.render layout t).toList = Json.print layout t := by
    rw [String.toList_append, Json.render, String.toList_ofList]
    refine Text.trimStart_append hb fun c hc => ?_
    rcases hhead with h | h <;> rw [h] at hc <;> rw [← Option.some.inj hc] <;> rfl
  have hread : Json.parse? (String.ofList (Json.print layout t)) = some t := by
    rw [Json.parse?, String.toList_ofList]
    exact Json.read?_print hl hp hf
  rw [ofText, hbody, hread]
  rcases hhead with h | h <;> rw [h] <;> rfl

/-- A document of the compact text of an object or an array, whose numbers are integers that are not too long to be read, is
the document of the value: fields, items and rows of one are those of the other, with the same warnings, the same evaluator
calls and the same faults. -/
theorem extraction_of_text {blanks : String} {t : Tree} (hb : Text.Blanks blanks.toList) (hc : t.isContainer = true)
    (hp : Json.Printable t) (hf : (Json.Part.value t).Fits) :
    (t ≠ .array [] → t.asText = Json.render Json.compact t) ∧
      ofText (blanks ++ Json.render Json.compact t) = .tree t ∧
      ∀ (evaluator? : Option Evaluator) (base rule listRule : String) (fields : List (String × String)),
        let written := ofTree (.text (blanks ++ Json.render Json.compact t))
        written.fieldText evaluator? base rule = (ofTree t).fieldText evaluator? base rule ∧
          written.items evaluator? listRule = (ofTree t).items evaluator? listRule ∧
          written.rows evaluator? base listRule fields = (ofTree t).rows evaluator? base listRule fields := by
  have hread := ofText_blanks_append_render Json.standard_compact hb hc hp hf
  have hsame : ofTree (.text (blanks ++ Json.render Json.compact t)) = ofTree t :=
    hread.trans (ofTree_of_isContainer hc).symm
  refine ⟨Tree.asText_of_isContainer hc, hread, fun evaluator? base rule listRule fields => ?_⟩
  dsimp only
  rw [hsame]
  exact ⟨rfl, rfl, rfl⟩

/-- A field of an object with an escaped quote in it, whose text starts with blanks. -/
theorem extraction_of_text_nested :
    let t : Tree := .object [("a", .array [.integer (-7), .text "q\"q"]), ("b", .null)]
    let text := "\n \x7b\"a\":[-7,\"q\\\"q\"],\"b\":null\x7d"
    (Text.Blanks "\n ".toList ∧ t.isContainer = true ∧ Json.Printable t ∧ (Json.Part.value t).Fits) ∧
      t.asText = "\x7b\"a\":[-7,\"q\\\"q\"],\"b\":null\x7d" ∧ ofText text = .tree t ∧
      outcome ((ofTree (.text text)).fieldText none "" "$.a[0]") Notes.empty = (.ok "-7", Notes.empty) := by
  intro t text
  have hprintable : Json.Printable t := by
    have hitems : Json.Printable (.array [.integer (-7), .text "q\"q"]) :=
      .array (by simp [Json.Printable.integer, Json.Printable.text])
    exact .object (by decide) (by simp [hitems, Json.Printable.null])
  have hfits : (Json.Part.value t).Fits := by
    intro n hn
    obtain rfl : n = -7 := by simpa [t, Json.Part.nodes, Tree.preorder, Tree.preorderFields, Tree.preorderItems] using hn
    exact Nat.lt_of_lt_of_le (by decide) (Nat.pow_le_pow_right (by decide) (by decide : 1 ≤ Numeral.digitLimit))
  have hblanks : Text.Blanks "\n ".toList := by decide
  have htext : text = "\n " ++ Json.render Json.compact t := by decide +kernel
  obtain ⟨hrender, hread, hsame⟩ := extraction_of_text hblanks rfl hprintable hfits
  refine ⟨⟨hblanks, rfl, hprintable, hfits⟩, (hrender (by simp [t])).trans (by decide +kernel), htext ▸ hread, ?_⟩
  rw [htext, (hsame none "" "$.a[0]" "" []).1]
  rfl

end Document

end SiteReader
