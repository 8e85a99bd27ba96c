import SiteReader.Proofs.Directive.Parser
import SiteReader.Proofs.Outcome
import SiteReader.Proofs.Tree.Display
import SiteReader.Source.Basic

/-!
# Headers in sources and in directives

The headers of a source are an object literal, and so are the headers among the options of a directive.  Both are read in the
same dialect, within the same limit for integers; the values become texts in two ways, which agree on texts and on values that
look like their JSON text (`header_readers_agree_iff`), and on no others (`header_readers_differ_true`).
-/

namespace SiteReader.Directive

open Json (Dialect DocumentText Part Spelling)

variable {dialect : Dialect} {entries : List (String × Tree)} {literal : String}

/-! ### Header values -/

/-- A value becomes the same header in both ways if it is a text, or if it looks like its JSON text. -/
theorem plainText_eq_headerText_iff {t : Tree} :
    t.plainText = headerText t ↔ (∃ s, t = .text s) ∨ ∀ node ∈ t.preorder, node.LooksLikeJson := by
  have hshown (hplain : t.plainText = String.ofList t.display) (hheader : headerText t = Json.render Json.spaced t) :
      t.plainText = headerText t ↔ ∀ node ∈ t.preorder, node.LooksLikeJson := by
    rw [hplain, hheader, Json.render, String.ofList_inj, Tree.display_eq_print_iff]
  cases t with
  | text s => exact iff_of_true rfl (.inl ⟨s, rfl⟩)
  | null | boolean | integer | double | array | object => exact (hshown rfl rfl).trans (by simp)

/-! ### Reading objects -/

/-- An object with an integer beyond the limit is read from none of its texts. -/
theorem lenientObject?_of_not_fits {cs : List Char} (h : DocumentText dialect (.object entries) cs)
    (hf : ¬ (Part.value (.object entries)).Fits) : lenientObject? (String.ofList cs) = none := by
  have hnone {text : List Char} (hread : Json.read? text = none) : object? (String.ofList text) = none := by
    rw [object?, Json.parse?, String.toList_ofList, hread]
  have hplain : Json.read? cs = none := by
    rcases h.reads with ⟨-, hfits⟩ | ⟨hread, -⟩
    · exact absurd hfits hf
    · exact hread
  have hstrict : Json.read? (Relaxed.strict cs) = none := (Relaxed.strict_document h).read?_of_strict.2 hf
  rw [lenientObject?, Relaxed.normalize, String.toList_ofList, hnone hplain, hnone hstrict]
  rfl

theorem trim_ne_nil_of_document {cs : List Char} (h : DocumentText dialect (.object entries) cs) : Text.trim cs ≠ [] := by
  cases h with
  | document hb h ha =>
    have hedged := (braced_of_spelling h).edged
    rw [Text.trim_append (Relaxed.blanks_of_space hb) hedged (Relaxed.blanks_of_space ha)]
    exact hedged.ne_nil

theorem defaultHeaders_of_literal {source : Source} (hs : source.header? = some literal)
    (h : DocumentText dialect (.object entries) literal.toList) : source.defaultHeaders =
      (lenientObject? literal).elim (do
        warn (.unreadableHeader source.name literal)
        return [])
        fun fields => pure (fields.map fun (key, value) => (key, value.plainText)) := by
  have hblank : ¬ (trimmed literal).isEmpty = true := fun he =>
    trim_ne_nil_of_document h (Text.trimmed_eq_empty_iff.mp (String.isEmpty_iff.mp he))
  unfold Source.defaultHeaders
  cases hread : lenientObject? literal <;> simp [hs, hblank, hread]

/-! ### Reading directives -/

theorem parse_of_braced {url options : String} (hu : NoBrace url.toList) (ho : Braced options.toList) :
    parse (url ++ "," ++ options) =
      (lenientObject? options).elim (do
        warn (.unreadableOptions options)
        return get (url ++ "," ++ options))
        fun fields => pure (ofOptions (trimmed url) fields) := by
  have hnil : Text.Blanks [] := List.forall_mem_nil _
  have hraw : (url ++ "," ++ options).toList = url.toList ++ ',' :: ([] ++ (options.toList ++ [])) := by simp
  have hsplit : split (url ++ "," ++ options) = (trimmed url, some options) := by
    rw [split, hraw, cutOptions?_append hu hnil ho hnil]
    simp only [String.ofList_toList]
    rfl
  cases hread : lenientObject? options <;> simp [parse, hsplit, hread]

/-- Options that hold headers alone. -/
def headerOptions (literal : String) : String :=
  "\x7b\"headers\":" ++ literal ++ "\x7d"

theorem spelling_headerOptions (h : DocumentText dialect (.object entries) literal.toList) :
    Spelling dialect (.value (.object [("headers", .object entries)])) (headerOptions literal).toList := by
  have hnil : Json.Space [] := List.forall_mem_nil _
  have hkey : Json.StringText dialect "headers" "\"headers\"".toList :=
    @Json.StringText.of_raw dialect '"' (.inl rfl) "headers".toList (Text.forall_mem (by decide))
  have htext : (headerOptions literal).toList = '{' :: ("\"headers\":".toList ++ (literal.toList ++ ['}'])) := by
    simp [headerOptions]
  rw [htext]
  generalize literal.toList = cs at h
  cases h with
  | document hb h ha =>
    have hfields := Spelling.lastField hnil (.field (.text hkey) hnil hb h) ha
    simpa using Spelling.object hfields (by simp)

theorem fits_headerOptions :
    (Part.value (.object [("headers", .object entries)])).Fits ↔ (Part.value (.object entries)).Fits :=
  Json.fits_object.trans Json.fits_fields_singleton

/-! ### Both readers -/

/-- Source and directive read the same headers out of a literal, or none if an integer in it is beyond the limit.  The headers
they make are the same if and only if each value is a text or looks like its JSON text. -/
theorem header_readers_agree_iff {source : Source} {url : String} (hu : NoBrace url.toList)
    (h : DocumentText dialect (.object entries) literal.toList) (hs : source.header? = some literal) :
    ((Part.value (.object entries)).Fits →
      source.defaultHeaders = pure (entries.map fun (key, value) => (key, value.plainText)) ∧
      parse (url ++ "," ++ headerOptions literal) =
        pure ⟨trimmed url, "GET", entries.map fun (key, value) => (key, headerText value), none⟩) ∧
    (¬ (Part.value (.object entries)).Fits →
      (source.defaultHeaders = do
        warn (.unreadableHeader source.name literal)
        return []) ∧
      parse (url ++ "," ++ headerOptions literal) = do
        warn (.unreadableOptions (headerOptions literal))
        return get (url ++ "," ++ headerOptions literal)) ∧
    ((entries.map fun (key, value) => (key, value.plainText)) = (entries.map fun (key, value) => (key, headerText value)) ↔
      ∀ entry ∈ entries, (∃ s, entry.2 = .text s) ∨ ∀ node ∈ entry.2.preorder, node.LooksLikeJson) := by
  have hspelled := spelling_headerOptions h
  rw [defaultHeaders_of_literal hs h, parse_of_braced hu (braced_of_spelling hspelled)]
  refine ⟨fun hf => ?_, fun hf => ?_, ?_⟩
  · have hsource := lenientObject?_of_document h hf
    have hoptions := lenientObject?_of_document hspelled.document (fits_headerOptions.mpr hf)
    rw [String.ofList_toList] at hsource hoptions
    rw [hsource, hoptions]
    exact ⟨rfl, rfl⟩
  · have hsource := lenientObject?_of_not_fits h hf
    have hoptions := lenientObject?_of_not_fits hspelled.document (mt fits_headerOptions.mp hf)
    rw [String.ofList_toList] at hsource hoptions
    rw [hsource, hoptions]
    exact ⟨rfl, rfl⟩
  · rw [List.map_inj_left]
    refine forall₂_congr fun entry _ => ?_
    rw [Prod.mk.injEq, and_iff_right rfl]
    exact plainText_eq_headerText_iff

/-- A literal in the relaxed dialect whose values are a text and a list that looks like its JSON text. -/
theorem header_readers_agree_list :
    let source : Source := { Source.bare "s" with header? := some "\x7b'A':[\"it's\",1],b:'x'\x7d" }
    source.defaultHeaders = pure [("A", "[\"it's\", 1]"), ("b", "x")] ∧
      parse ("https://example.com/a,b" ++ "," ++ headerOptions "\x7b'A':[\"it's\",1],b:'x'\x7d") =
        pure ⟨"https://example.com/a,b", "GET", [("A", "[\"it's\", 1]"), ("b", "x")], none⟩ := by
  intro source
  have hnil : Json.Space [] := List.forall_mem_nil _
  have hurl : '{' ∉ "https://example.com/a,b".toList := by decide
  have hkey : Json.StringText .relaxed "A" "'A'".toList :=
    @Json.StringText.of_raw .relaxed '\'' (.inr ⟨rfl, rfl⟩) ['A'] (Text.forall_mem (by decide))
  have hword : Json.StringText .relaxed "it's" "\"it's\"".toList :=
    @Json.StringText.of_raw .relaxed '"' (.inl rfl) "it's".toList (Text.forall_mem (by decide))
  have htext : Json.StringText .relaxed "x" "'x'".toList :=
    @Json.StringText.of_raw .relaxed '\'' (.inr ⟨rfl, rfl⟩) ['x'] (Text.forall_mem (by decide))
  have hbare : Json.BareKey ['b'] :=
    ⟨by decide, fun c hc => Option.some.inj hc ▸ (by decide : Relaxed.isKeyStart 'b' = true), Text.forall_mem (by decide)⟩
  have hone : Json.Number (.integer 1) ['1'] := Json.number_ofInt 1
  have hlist : Spelling .relaxed (.value (.array [.text "it's", .integer 1])) "[\"it's\",1]".toList :=
    .array (.nextItem hnil (.text hword) hnil (.lastItem hnil (.number hone) hnil))
  have hdocument : DocumentText .relaxed (.object [("A", .array [.text "it's", .integer 1]), ("b", .text "x")])
      "\x7b'A':[\"it's\",1],b:'x'\x7d".toList :=
    .document hnil (.object (.nextField hnil (.field (.text hkey) hnil hnil hlist) hnil
      (.lastField hnil (.field (.bare hbare) hnil hnil (.text htext)) hnil)) (by decide)) hnil
  have hfits : (Part.value (.object [("A", .array [.text "it's", .integer 1]), ("b", .text "x")])).Fits := by
    intro n hn
    obtain rfl : n = 1 := by
      simpa [Part.nodes, Tree.preorder, Tree.preorderFields, Tree.preorderItems] using hn
    exact Nat.one_lt_pow (by decide) (by decide)
  obtain ⟨hread, -, -⟩ := @header_readers_agree_iff _ _ _ source _ (noBrace_of_not_mem hurl) hdocument rfl
  exact hread hfits

/-- A truth value becomes `True` among the headers of a source and `true` among those of a directive. -/
theorem header_readers_differ_true :
    let source : Source := { Source.bare "s" with header? := some "\x7b'A':true\x7d" }
    DocumentText .relaxed (.object [("A", .boolean true)]) "\x7b'A':true\x7d".toList ∧
      (outcome source.defaultHeaders Notes.empty).1 = .ok [("A", "True")] ∧
      (outcome (parse ("https://example.com/" ++ "," ++ headerOptions "\x7b'A':true\x7d")) Notes.empty).1 =
        .ok ⟨"https://example.com/", "GET", [("A", "true")], none⟩ := by
  have hnil : Json.Space [] := List.forall_mem_nil _
  have hkey : Json.StringText .relaxed "A" "'A'".toList :=
    @Json.StringText.of_raw .relaxed '\'' (.inr ⟨rfl, rfl⟩) ['A'] (Text.forall_mem (by decide))
  exact ⟨.document hnil (.object (.lastField hnil (.field (.text hkey) hnil hnil (.boolean true)) hnil) (by decide)) hnil,
    by decide +kernel, by decide +kernel⟩

end SiteReader.Directive
