import SiteReader.Proofs.Directive.Relaxed
import SiteReader.Proofs.Directive.Split
import SiteReader.Proofs.Json.Printer

/-!
# Directives in their written forms

A directive is read back from its URL and the printed object of its options, and a text without options is a plain
request (`parse_written`).  Options in the relaxed dialect are rewritten to an object that reads as the one they spell, so
they make the same directive as JSON text (`parse_relaxed`).
-/

namespace SiteReader.Directive

open Json (Dialect DocumentText Part Printable Spelling)
open Text (Blanks)

/-! ### Options as text -/

theorem braced_of_spelling {dialect : Dialect} {entries : List (String × Tree)} {cs : List Char}
    (h : Spelling dialect (.value (.object entries)) cs) : Braced cs := by
  cases h with
  | number h => cases h
  | @emptyObject gap => exact ⟨gap, rfl⟩
  | object h =>
    obtain ⟨inner, rfl⟩ := h.fields_last
    exact ⟨inner, rfl⟩

theorem object?_of_read? {cs : List Char} {entries : List (String × Tree)} (h : Json.read? cs = some (.object entries)) :
    object? (String.ofList cs) = some entries := by
  rw [object?, Json.parse?, String.toList_ofList, h]

/-- An object is read from its texts in both dialects. -/
theorem lenientObject?_of_document {dialect : Dialect} {entries : List (String × Tree)} {cs : List Char}
    (h : DocumentText dialect (.object entries) cs) (hf : (Part.value (.object entries)).Fits) :
    lenientObject? (String.ofList cs) = some entries := by
  have hstrict := object?_of_read? ((Relaxed.strict_document h).read?_of_strict.1 hf)
  have hnormal : Relaxed.normalize (String.ofList cs) = String.ofList (Relaxed.strict cs) := by
    rw [Relaxed.normalize, String.toList_ofList]
  rw [lenientObject?, hnormal, hstrict]
  -- read as JSON, the text gives the object or nothing
  rcases h.reads with ⟨hread, -⟩ | ⟨hread, -⟩
  · rw [object?_of_read? hread]
    rfl
  · have hnone : object? (String.ofList cs) = none := by
      rw [object?, Json.parse?, String.toList_ofList, hread]
    rw [hnone]
    rfl

/-- A URL and an object of options, whatever blanks there are around it. -/
theorem parse_append {dialect : Dialect} {url text before after : String} {entries : List (String × Tree)}
    (hu : NoBrace url.toList) (ht : trimmed url = url) (h : DocumentText dialect (.object entries) text.toList)
    (hf : (Part.value (.object entries)).Fits) (hb : Blanks before.toList) (ha : Blanks after.toList) :
    parse (url ++ "," ++ (before ++ text ++ after)) = pure (ofOptions url entries) := by
  generalize hcs : text.toList = cs at h
  cases h with
  | @document first options last hfirst h hlast =>
    have hsplit : split (url ++ "," ++ (before ++ text ++ after)) = (url, some (String.ofList options)) := by
      have hraw : url ++ "," ++ (before ++ text ++ after) =
          url ++ "," ++ (before ++ String.ofList first ++ String.ofList options ++ (String.ofList last ++ after)) := by
        rw [← String.toList_inj]
        simp [hcs]
      have hblank {space : List Char} (hs : Json.Space space) : Blanks (String.ofList space).toList := by
        rw [String.toList_ofList]
        exact Relaxed.blanks_of_space hs
      rw [hraw]
      apply split_append hu ht
      · rw [String.toList_append]
        exact hb.append (hblank hfirst)
      · rw [String.toList_ofList]
        exact braced_of_spelling h
      · rw [String.toList_append]
        exact (hblank hlast).append ha
    simp only [parse, hsplit, lenientObject?_of_document h.document hf]

/-! ### Written directives -/

/-- The body among the options: left out, null, or a text. -/
inductive BodyField : Option String → List (String × Tree) → Prop
  | missing : BodyField none []
  | null : BodyField none [("body", .null)]
  | text (body : String) : BodyField (some body) [("body", .text body)]

/-- Method, headers and body as the fields of an object. -/
def options (method : String) (headers : List (String × String)) (body : List (String × Tree)) : List (String × Tree) :=
  ("method", .text method) :: ("headers", .object (headers.map fun (key, value) => (key, .text value))) :: body

section

variable {body? : Option String} {body : List (String × Tree)} {method : String} {headers : List (String × String)}

theorem printable_options (hb : BodyField body? body) (hh : (headers.map Prod.fst).Nodup) :
    Printable (.object (options method headers body)) := by
  have hheaders : Printable (.object (headers.map fun (key, value) => (key, .text value))) := by
    refine .object (by simpa [Function.comp_def] using hh) fun entry hm => ?_
    obtain ⟨header, -, rfl⟩ := List.mem_map.mp hm
    exact .text header.2
  refine .object (by cases hb <;> simp [options]) ?_
  cases hb <;> simp [options, hheaders, Printable.text, Printable.null]

theorem fits_options (hb : BodyField body? body) : (Part.value (.object (options method headers body))).Fits := by
  have hheaders (n : Int) :
      Tree.integer n ∉ Tree.preorderFields (headers.map fun (key, value) => (key, .text value)) := by
    induction headers with
    | nil => simp [Tree.preorderFields]
    | cons header headers ih => simpa [Tree.preorderFields, Tree.preorder] using ih
  apply Json.fits_of_no_integer
  intro n
  cases hb <;> simp [options, Part.nodes, Tree.preorder, Tree.preorderFields, hheaders n]

theorem ofOptions_options (hb : BodyField body? body) (hm : method ≠ "") (url : String) :
    ofOptions url (options method headers body) = ⟨url, uppered method, headers, body?⟩ := by
  have htruthy : (Tree.text method).isTruthy = true := bne_iff_ne.mpr hm
  cases hb <;> simp [ofOptions, options, Tree.field?, htruthy, headerText, Function.comp_def, Tree.plainText]

end

theorem parse_of_noOptions {raw : String} (h : NoOptions raw.toList) : parse raw = pure (get raw) := by
  rw [parse, split_of_noOptions h]

/-- A directive is read back from its URL and its printed options, with any blanks around them; a text without options is a
plain request. -/
theorem parse_written :
    (∀ {url before after method : String} {headers : List (String × String)} {body? : Option String}
      {body : List (String × Tree)} (asciiOnly : Bool), NoBrace url.toList → trimmed url = url → method ≠ "" →
      (headers.map Prod.fst).Nodup → BodyField body? body → Blanks before.toList → Blanks after.toList →
      parse (url ++ "," ++ (before ++
        Json.render ⟨", ", ": ", none, asciiOnly⟩ (.object (options method headers body)) ++ after)) =
      pure ⟨url, uppered method, headers, body?⟩) ∧
    ∀ {raw : String}, NoOptions raw.toList → parse raw = pure (get raw) := by
  refine ⟨?_, fun h => parse_of_noOptions h⟩
  intro url before after method headers body? body asciiOnly hu ht hm hh hbody hb ha
  have hprintable : Printable (.object (options method headers body)) := printable_options hbody hh
  have hdocument := Json.print_document (Json.standard_spaced asciiOnly) hprintable
  rw [← ofOptions_options hbody hm url]
  apply parse_append hu ht _ (fits_options hbody) hb ha
  · exact .strict
  · rw [Json.render, String.toList_ofList]
    exact hdocument

theorem parse_written_comma :
    parse ("https://example.com/a,b, \x7b\"method\": \"post\", " ++
          "\"headers\": \x7b\"X\": \"1,\x7b2\x7d\"\x7d, \"body\": \"\\u00e9\"\x7d\n") =
        pure ⟨"https://example.com/a,b", "POST", [("X", "1,\x7b2\x7d")], some "é"⟩ ∧
      parse "https://example.com/a,b" = pure (get "https://example.com/a,b") := by
  have hurl : '{' ∉ "https://example.com/a,b".toList := by decide
  have htrim : trimmed "https://example.com/a,b" = "https://example.com/a,b" := by decide
  have hheaders : ([("X", "1,\x7b2\x7d")].map Prod.fst).Nodup := by decide
  have hbefore : Blanks " ".toList := by decide
  have hafter : Blanks "\n".toList := by decide
  have hwritten := parse_written.1 true (noBrace_of_not_mem hurl) htrim (by decide : "post" ≠ "") hheaders (.text "é")
    hbefore hafter
  have hupper : uppered "post" = "POST" := by decide
  rw [hupper] at hwritten
  exact ⟨hwritten, parse_written.2 (noOptions_of_not_mem hurl)⟩

/-! ### The relaxed dialect -/

/-- A relaxed spelling of an object is rewritten to JSON text that reads as the object, and makes the directive that JSON
text makes, as far as the integers of the object are within the limit. -/
theorem parse_relaxed {url t s : String} {entries : List (String × Tree)} (hu : NoBrace url.toList) (ht : trimmed url = url)
    (hi : ∀ n, Tree.integer n ∈ (Tree.object entries).preorder → n.natAbs < 10 ^ Numeral.digitLimit)
    (h : DocumentText .relaxed (.object entries) t.toList) (hs : DocumentText .strict (.object entries) s.toList) :
    Json.parse? (Relaxed.normalize t) = some (.object entries) ∧
      parse (url ++ "," ++ t) = parse (url ++ "," ++ s) ∧ parse (url ++ "," ++ s) = pure (ofOptions url entries) := by
  have hread : Json.parse? (Relaxed.normalize t) = some (.object entries) := by
    rw [Json.parse?, Relaxed.normalize, String.toList_ofList]
    exact (Relaxed.strict_document h).read?_of_strict.1 hi
  have hparse {dialect : Dialect} {text : String} (h : DocumentText dialect (.object entries) text.toList) :
      parse (url ++ "," ++ text) = pure (ofOptions url entries) := by
    have hnil : Blanks "".toList := List.forall_mem_nil _
    have := parse_append hu ht h hi hnil hnil
    rwa [String.empty_append, String.append_empty] at this
  exact ⟨hread, by rw [hparse h, hparse hs], hparse hs⟩

theorem parse_relaxed_body :
    parse ("https://example.com/a,b" ++ "," ++ "\x7bbody:'http://c,d:\x7be\x7d\"'\x7d") =
        parse ("https://example.com/a,b" ++ "," ++ "\x7b\"body\":\"http://c,d:\x7be\x7d\\\"\"\x7d") ∧
      parse ("https://example.com/a,b" ++ "," ++ "\x7b\"body\":\"http://c,d:\x7be\x7d\\\"\"\x7d") =
        pure ⟨"https://example.com/a,b", "GET", [], some "http://c,d:\x7be\x7d\""⟩ := by
  have hnil : Json.Space [] := List.forall_mem_nil _
  have hurl : '{' ∉ "https://example.com/a,b".toList := by decide
  have hcompact : Json.compact.Standard := ⟨⟨[], hnil, rfl⟩, ⟨[], hnil, rfl⟩⟩
  have hprintable : Printable (.object [("body", .text "http://c,d:\x7be\x7d\"")]) :=
    .object (by decide) (by simp [Printable.text])
  have hkey : Json.BareKey "body".toList :=
    ⟨by decide, fun c hc => Option.some.inj hc ▸ (by decide : Relaxed.isKeyStart 'b' = true), Text.forall_mem (by decide)⟩
  have htext : Json.StringText .relaxed "http://c,d:\x7be\x7d\"" "'http://c,d:\x7be\x7d\"'".toList :=
    @Json.StringText.of_raw .relaxed '\'' (.inr ⟨rfl, rfl⟩) "http://c,d:\x7be\x7d\"".toList (Text.forall_mem (by decide))
  have hrelaxed : DocumentText .relaxed (.object [("body", .text "http://c,d:\x7be\x7d\"")])
      "\x7bbody:'http://c,d:\x7be\x7d\"'\x7d".toList :=
    .document hnil (.object (.lastField hnil (.field (.bare hkey) hnil hnil (.text htext)) hnil) (by decide)) hnil
  have hi : ∀ n, Tree.integer n ∈ (Tree.object [("body", .text "http://c,d:\x7be\x7d\"")]).preorder →
      n.natAbs < 10 ^ Numeral.digitLimit := by
    simp [Tree.preorder, Tree.preorderFields]
  have hstrict : DocumentText .strict (.object [("body", .text "http://c,d:\x7be\x7d\"")])
      "\x7b\"body\":\"http://c,d:\x7be\x7d\\\"\"\x7d".toList := Json.print_document hcompact hprintable
  exact (parse_relaxed (noBrace_of_not_mem hurl) (by decide) hi hrelaxed hstrict).2

/-- A power of ten in an object, in the relaxed dialect. -/
theorem document_power (k : Nat) : DocumentText .relaxed (.object [("a", .integer (Int.ofNat (10 ^ k)))])
    ("\x7b'a':1".toList ++ (List.replicate k '0' ++ ['}'])) := by
  have hnil : Json.Space [] := List.forall_mem_nil _
  have hkey : Json.StringText .relaxed "a" "'a'".toList :=
    @Json.StringText.of_raw .relaxed '\'' (.inr ⟨rfl, rfl⟩) ['a'] (Text.forall_mem (by decide))
  have hone : Ipv4.IsDigit 10 '1' 1 := ⟨by decide, .inl rfl⟩
  have hzero : Ipv4.IsDigit 10 '0' 0 := ⟨by decide, .inl rfl⟩
  have hdigits : Ipv4.Digits 10 ('1' :: List.replicate k '0') (10 ^ k) := by
    induction k with
    | zero => exact .snoc .nil hone
    | succ k ih =>
      rw [List.replicate_succ', ← List.cons_append, Nat.pow_succ, Nat.mul_comm]
      exact .snoc ih hzero
  have hnumber : Json.Number (.integer (Int.ofNat (10 ^ k))) ('1' :: List.replicate k '0') :=
    @Json.Number.integer false _ _ ⟨hdigits, List.cons_ne_nil _ _, by simp⟩
  have hobject := Spelling.object (.lastField hnil (.field (.text hkey) hnil hnil (.number hnumber)) hnil) (by simp)
  simpa using hobject.document

theorem not_fits_integer {key : String} {n : Int} (h : 10 ^ Numeral.digitLimit ≤ n.natAbs) :
    ¬ (Part.value (.object [(key, .integer n)])).Fits := by
  intro hf
  have := hf n (by simp [Part.nodes, Tree.preorder, Tree.preorderFields])
  exact absurd this (Nat.not_lt.mpr h)

/-- An integer with one digit more than the limit is not read, though its text is a relaxed spelling of an object. -/
theorem parse_relaxed_long :
    DocumentText .relaxed (.object [("a", .integer (Int.ofNat (10 ^ Numeral.digitLimit)))])
        ("\x7b'a':1".toList ++ (List.replicate Numeral.digitLimit '0' ++ ['}'])) ∧
      Json.parse? (Relaxed.normalize
        (String.ofList ("\x7b'a':1".toList ++ (List.replicate Numeral.digitLimit '0' ++ ['}'])))) = none := by
  refine ⟨document_power _, ?_⟩
  have hlong : ¬ (Part.value (.object [("a", .integer (Int.ofNat (10 ^ Numeral.digitLimit)))])).Fits :=
    not_fits_integer (Nat.le_refl _)
  rw [Json.parse?, Relaxed.normalize, String.toList_ofList, String.toList_ofList]
  exact (Relaxed.strict_document (document_power _)).read?_of_strict.2 hlong

end SiteReader.Directive
