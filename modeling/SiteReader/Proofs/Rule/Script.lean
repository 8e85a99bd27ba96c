import SiteReader.Proofs.Rule.Alternatives
import SiteReader.Proofs.Text.Letter

/-!
# Scripts put after paths

A script that was put after a text of paths, in a block or behind a mark, is split off again as it was but for blanks
around it, whatever it holds (`splitScript_attached`).  The paths must have no script of their own: a block is opened by the
first `<js>`, and the mark is found at its first place, in whichever of its six spellings.
-/

namespace SiteReader.Rule

/-! ### The mark before a script -/

/-- The spellings of the mark before a script; the long s is an s too. -/
def tailMarks : List String :=
  ["@js:", "@jS:", "@jſ:", "@Js:", "@JS:", "@Jſ:"]

theorem mem_tailMarks {found : List Char} (h : Text.AnyCase "@js:".toList found) :
    found ∈ tailMarks.map String.toList := by
  have hall : ∀ found ∈ ("@js:".toList.map Text.caseVariants).sections, found ∈ tailMarks.map String.toList := by
    decide +kernel
  exact hall found (h.mem_sections (Text.forall_mem (by decide)))

theorem anyCase_tail {mark : String} (h : mark ∈ tailMarks) : Text.AnyCase "@js:".toList mark.toList := by
  have hall : ∀ mark ∈ tailMarks, Text.AnyCase "@js:".toList mark.toList := by decide
  exact hall mark h

theorem cutAnyCase?_tail_eq_none_iff {cs : List Char} :
    Text.cutAnyCase? "@js:".toList cs = none ↔ ∀ mark ∈ tailMarks, ¬ mark.toList <:+: cs := by
  rw [Text.cutAnyCase?_eq_none_iff (by decide)]
  constructor
  · exact fun h mark hmark => h mark.toList (anyCase_tail hmark)
  · intro h found hfound
    obtain ⟨mark, hmark, rfl⟩ := List.mem_map.mp (mem_tailMarks hfound)
    exact h mark hmark

theorem exists_eq_of_mem_tailMarks {mark : String} (h : mark ∈ tailMarks) :
    ∃ letters, mark.toList = '@' :: (letters ++ [':']) := by
  have hall : ∀ mark ∈ tailMarks, mark.toList = '@' :: (mark.toList.tail.dropLast ++ [':']) := by decide
  exact ⟨_, hall mark h⟩

theorem cutAnyCase?_tail_append {mark : String} (hmark : mark ∈ tailMarks) {cs : List Char}
    (h : Text.cutAnyCase? "@js:".toList cs = none) (script : List Char) :
    Text.cutAnyCase? "@js:".toList (cs ++ (mark.toList ++ script)) = some (cs, script) := by
  have hfound := anyCase_tail hmark
  obtain ⟨letters, hmark⟩ := exists_eq_of_mem_tailMarks hmark
  rw [hmark] at hfound ⊢
  exact Text.cutAnyCase?_append hfound (by decide) h script

/-! ### Splitting off -/

/-- Behind a colon a text ends as it does without what comes before. -/
theorem cutBlock?_of_colon {script : List Char} (hend : ¬ "</js>".toList <:+ Text.trimEnd script) (front : List Char) :
    cutBlock? (front ++ ':' :: script) = none := by
  have htrim : Text.trimEnd (front ++ ':' :: script) = front ++ ':' :: Text.trimEnd script :=
    Text.trimRight_append_cons front (by decide) script
  unfold cutBlock?
  rw [htrim, Text.dropTail?_append_cons (by decide), Text.dropTail?_eq_none hend]
  rfl

theorem splitScriptChars_tail {cs script : List Char} (htail : Text.cutAnyCase? "@js:".toList cs = none)
    (hend : ¬ "</js>".toList <:+ Text.trimEnd script) {mark : String} (hmark : mark ∈ tailMarks) :
    splitScriptChars (cs ++ (mark.toList ++ script)) = (Text.trim cs, some (Text.trim script)) := by
  have hblock : cutBlock? (cs ++ (mark.toList ++ script)) = none := by
    obtain ⟨letters, hmark⟩ := exists_eq_of_mem_tailMarks hmark
    have hno := cutBlock?_of_colon hend (cs ++ '@' :: letters)
    rw [hmark]
    simpa using hno
  unfold splitScriptChars
  rw [hblock, cutAnyCase?_tail_append hmark htail]
  rfl

theorem splitScript_of_script {s paths script : String}
    (h : splitScriptChars s.toList = (Text.trim paths.toList, some (Text.trim script.toList))) :
    splitScript s = (trimmed paths, some (trimmed script)) := by
  rw [splitScript, h]
  rfl

/-- What is put together is split again: a text without a script of its own and a script in a block, or behind a mark unless
the script ends like a block. -/
theorem splitScript_attached {paths : String} (hblock : ¬ "<js>".toList <:+: paths.toList)
    (htail : ∀ mark ∈ tailMarks, ¬ mark.toList <:+: paths.toList) :
    splitScript paths = (trimmed paths, none) ∧
      ∀ script : String,
        splitScript (paths ++ "<js>" ++ script ++ "</js>") = (trimmed paths, some (trimmed script)) ∧
          (¬ "</js>".toList <:+ Text.trimEnd script.toList → ∀ mark ∈ tailMarks,
            splitScript (paths ++ mark ++ script) = (trimmed paths, some (trimmed script))) := by
  have hcut := cutAnyCase?_tail_eq_none_iff.mpr htail
  refine ⟨?_, fun script => ⟨splitScript_of_script ?_, fun hend mark hmark => splitScript_of_script ?_⟩⟩
  · rw [splitScript, splitScriptChars_of_none hblock hcut]
    rfl
  · have hsplit := splitScriptChars_block hblock script.toList
    simpa only [String.toList_append, List.append_assoc] using hsplit
  · have hsplit := splitScriptChars_tail hcut hend hmark
    simpa only [String.toList_append, List.append_assoc] using hsplit

/-- A block keeps the marks inside its script. -/
theorem splitScript_attached_marks :
    splitScript (" $.a < js> " ++ "<js>" ++ " <js>x</js>@JS:y " ++ "</js>") = ("$.a < js>", some "<js>x</js>@JS:y") ∧
      splitScript (" $.a < js> " ++ "@js:" ++ " </js>@js:<js> ") = ("$.a < js>", some "</js>@js:<js>") := by
  have h := @splitScript_attached " $.a < js> " (by decide) (by decide)
  exact ⟨(h.2 " <js>x</js>@JS:y ").1, (h.2 " </js>@js:<js> ").2 (by decide) "@js:" (by decide)⟩

end SiteReader.Rule
