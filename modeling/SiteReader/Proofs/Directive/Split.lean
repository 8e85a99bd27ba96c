import SiteReader.Directive.Parser
import SiteReader.Proofs.Text.Trim

/-!
# Where a directive is split

The options of a directive are a text in braces after a comma.  A text without such a comma is all URL
(`split_of_noOptions`); behind a URL with no comma before a brace the options are split off, whatever commas and braces
there are in them (`split_append`).
-/

namespace SiteReader.Directive

open Text (Blanks Edged)

/-- A text in braces. -/
def Braced (cs : List Char) : Prop :=
  ∃ inner, cs = '{' :: (inner ++ ['}'])

/-- No comma stands before an opening brace, blanks aside. -/
def NoBrace (url : List Char) : Prop :=
  ∀ before blanks after, Blanks blanks → url ≠ before ++ ',' :: (blanks ++ '{' :: after)

/-- No comma stands before a text in braces, blanks aside. -/
def NoOptions (raw : List Char) : Prop :=
  ∀ before blanks options after, Blanks blanks → Braced options → Blanks after →
    raw ≠ before ++ ',' :: (blanks ++ (options ++ after))

private theorem getLast?_cons_concat (c d : Char) (inner : List Char) : (c :: (inner ++ [d])).getLast? = some d := by
  rw [← List.cons_append, List.getLast?_concat]

theorem Braced.edged {cs : List Char} (h : Braced cs) : Edged cs := by
  obtain ⟨inner, rfl⟩ := h
  refine ⟨List.cons_ne_nil _ _, ?_, ?_⟩
  · intro c hc
    obtain rfl := Option.some.inj hc
    decide
  · intro c hc
    rw [getLast?_cons_concat] at hc
    obtain rfl := Option.some.inj hc
    decide

theorem options?_append {before options after : List Char} (hb : Blanks before) (h : Braced options) (ha : Blanks after) :
    options? (before ++ (options ++ after)) = some options := by
  rw [options?, Text.trim_append hb h.edged ha]
  obtain ⟨inner, rfl⟩ := h
  simp [getLast?_cons_concat]

theorem eq_of_options? {tail options : List Char} (h : options? tail = some options) :
    ∃ before after, Blanks before ∧ Braced options ∧ Blanks after ∧ tail = before ++ (options ++ after) := by
  obtain ⟨before, after, hb, ha, htail⟩ := Text.eq_append_trim tail
  unfold options? at h
  simp only at h
  split at h
  next hends =>
    obtain rfl := Option.some.inj h
    refine ⟨before, after, hb, ?_, ha, htail⟩
    obtain ⟨hhead, hlast⟩ : (Text.trim tail).head? = some '{' ∧ (Text.trim tail).getLast? = some '}' := by
      simpa using hends
    obtain ⟨rest, hrest⟩ := List.head?_eq_some_iff.mp hhead
    rw [hrest] at hlast ⊢
    rcases List.eq_nil_or_concat rest with rfl | ⟨inner, c, rfl⟩
    · exact absurd (Option.some.inj hlast) (by decide)
    · refine ⟨inner, ?_⟩
      rw [List.concat_eq_append, getLast?_cons_concat] at hlast
      rw [Option.some.inj hlast, List.concat_eq_append]
  next => cases h

theorem cutOptions?_of_noOptions {raw : List Char} (h : NoOptions raw) : cutOptions? raw = none := by
  induction raw with
  | nil => rfl
  | cons c rest ih =>
    have hrest : NoOptions rest := by
      rintro before blanks options after hb ho ha rfl
      exact h (c :: before) blanks options after hb ho ha rfl
    have hhere : (if c = ',' then options? rest else none) = none := by
      split
      next hc =>
        rw [Option.eq_none_iff_forall_not_mem]
        intro options ho
        obtain ⟨before, after, hb, hbraced, ha, rfl⟩ := eq_of_options? ho
        exact h [] before options after hb hbraced ha (by rw [hc]; rfl)
      next => rfl
    rw [cutOptions?, hhere, ih hrest]
    rfl

theorem noBrace_of_not_mem {url : List Char} (h : '{' ∉ url) : NoBrace url := by
  rintro before blanks after - rfl
  exact h (by simp)

theorem noOptions_of_not_mem {raw : List Char} (h : '{' ∉ raw) : NoOptions raw := by
  rintro before blanks options after - ⟨inner, rfl⟩ - rfl
  exact h (by simp)

/-- Behind a comma of the URL nothing that starts with a brace is left. -/
theorem options?_of_noBrace {url tail : List Char} (h : NoBrace (',' :: url)) : options? (url ++ ',' :: tail) = none := by
  rw [Option.eq_none_iff_forall_not_mem]
  intro options ho
  obtain ⟨before, after, hb, ⟨inner, rfl⟩, -, heq⟩ := eq_of_options? ho
  rcases List.append_eq_append_iff.mp heq with ⟨between, hbefore, htail⟩ | ⟨between, hurl, htail⟩
  · -- the blanks reach to the comma after the URL, which is none
    cases between with
    | nil => exact absurd (List.cons.inj htail).1 (by decide)
    | cons c between =>
      obtain ⟨rfl, -⟩ := List.cons.inj htail
      have hblank := hb ',' (by rw [hbefore]; simp)
      exact absurd hblank (by decide)
  · -- the brace stands in the URL
    cases between with
    | nil => exact absurd (List.cons.inj htail).1 (by decide)
    | cons c between =>
      obtain ⟨rfl, -⟩ := List.cons.inj htail
      exact h [] before between hb (by rw [hurl]; rfl)

theorem cutOptions?_append {url before options after : List Char} (h : NoBrace url) (hb : Blanks before)
    (ho : Braced options) (ha : Blanks after) :
    cutOptions? (url ++ ',' :: (before ++ (options ++ after))) = some (url, options) := by
  induction url with
  | nil =>
    rw [List.nil_append, cutOptions?, if_pos rfl, options?_append hb ho ha]
  | cons c url ih =>
    have hurl : NoBrace url := by
      rintro start blanks rest hb rfl
      exact h (c :: start) blanks rest hb rfl
    have hhere : (if c = ',' then options? (url ++ ',' :: (before ++ (options ++ after))) else none) = none := by
      split
      next hc => exact options?_of_noBrace (hc ▸ h)
      next => rfl
    rw [List.cons_append, cutOptions?, hhere, ih hurl]
    rfl

theorem split_of_noOptions {raw : String} (h : NoOptions raw.toList) : split raw = (raw, none) := by
  rw [split, cutOptions?_of_noOptions h]

/-- The options of a directive are split off its URL, without the blanks around them. -/
theorem split_append {url before options after : String} (hu : NoBrace url.toList) (ht : trimmed url = url)
    (hb : Blanks before.toList) (ho : Braced options.toList) (ha : Blanks after.toList) :
    split (url ++ "," ++ (before ++ options ++ after)) = (url, some options) := by
  have hraw : (url ++ "," ++ (before ++ options ++ after)).toList =
      url.toList ++ ',' :: (before.toList ++ (options.toList ++ after.toList)) := by simp
  rw [split, hraw, cutOptions?_append hu hb ho ha]
  simp only [String.ofList_toList]
  rw [show String.ofList (Text.trim url.toList) = url from ht]

end SiteReader.Directive
