import SiteReader.Proofs.Command.Line
import SiteReader.Proofs.Command.Store
import SiteReader.Proofs.Text.Trim

/-!
# Command lines about cookies

A text sets a key if it has a name before an equals sign (`setting?_eq_some_iff`).  A command line that sets cookies asks for
all that its texts set, unless one of them sets nothing or there are none (`Sets.parse_eq`,
`SetCommand.mistake?_eq_none_iff`).
-/

namespace SiteReader.Command

/-! ### Texts that set a key -/

/-- The key and the value that a text sets: the name before its first equals sign, without the blanks around it, and all that
comes after the sign. -/
def setting? (text : String) : Option (String × String) :=
  let (name, value) := Text.cutAtFirst '=' text.toList
  if '=' ∈ text.toList ∧ ¬ Text.Blanks name then some (String.ofList (Text.trim name), String.ofList value) else none

theorem setting?_eq_some_iff {text key value : String} : setting? text = some (key, value) ↔
    ∃ name, '=' ∉ name ∧ ¬ Text.Blanks name ∧ text.toList = name ++ '=' :: value.toList ∧
      key = String.ofList (Text.trim name) := by
  constructor
  · intro h
    by_cases hmark : '=' ∈ text.toList
    · obtain ⟨name, rest, htext, hname⟩ := List.eq_append_cons_of_mem hmark
      rw [setting?, htext, Text.cutAtFirst_append hname, ← htext] at h
      obtain ⟨⟨-, hblank⟩, hentry⟩ := Option.ite_none_right_eq_some.mp h
      obtain ⟨rfl, rfl⟩ := Prod.mk.inj (Option.some.inj hentry)
      exact ⟨name, hname, hblank, by rw [htext, String.toList_ofList], rfl⟩
    · simp [setting?, hmark] at h
  · rintro ⟨name, hname, hblank, htext, rfl⟩
    have hmark : '=' ∈ text.toList := htext ▸ List.mem_append_right _ List.mem_cons_self
    rw [setting?, htext, Text.cutAtFirst_append hname, ← htext]
    exact (if_pos ⟨hmark, hblank⟩).trans (by rw [String.ofList_toList])

/-- The first of some texts that sets no key. -/
def firstUnset? (texts : List String) : Option String :=
  texts.find? fun text => (setting? text).isNone

private theorem mapM_setting? (label : String) (texts : List String) :
    texts.mapM (fun text => match setting? text with
      | some entry => Except.ok entry
      | none => .error (Refused.mistake (.notPair label text))) =
    match firstUnset? texts with
    | some text => .error (.mistake (.notPair label text))
    | none => .ok (texts.filterMap setting?) := by
  induction texts with
  | nil => rfl
  | cons text rest ih =>
    rw [List.mapM_cons, ih]
    cases hs : setting? text with
    | none =>
      have hfirst : firstUnset? (text :: rest) = some text := List.find?_cons_of_pos (by simp [hs])
      rw [hfirst]
      rfl
    | some entry =>
      have hfirst : firstUnset? (text :: rest) = firstUnset? rest := List.find?_cons_of_neg (by simp [hs])
      rw [hfirst, List.filterMap_cons_some hs]
      cases firstUnset? rest <;> rfl

/-- Texts that set keys are read as the last value of each, unless one of them sets nothing. -/
theorem pairs_eq (label : String) (texts : List String) : pairs label texts =
    match firstUnset? texts with
    | some text => .error (.mistake (.notPair label text))
    | none => .ok (distinctEntries (texts.filterMap setting?)) := by
  have hread (text : String) : (if !text.toList.contains '=' || (Text.trim (Text.cutAtFirst '=' text.toList).1).isEmpty then
      Except.error (Refused.mistake (.notPair label text))
      else .ok (String.ofList (Text.trim (Text.cutAtFirst '=' text.toList).1),
        String.ofList (Text.cutAtFirst '=' text.toList).2)) =
      match setting? text with
      | some entry => .ok entry
      | none => .error (.mistake (.notPair label text)) := by
    have hblank : (Text.trim (Text.cutAtFirst '=' text.toList).1).isEmpty = true ↔
        Text.Blanks (Text.cutAtFirst '=' text.toList).1 := by
      rw [List.isEmpty_iff, Text.trim_eq_nil_iff]
    rw [setting?]
    by_cases hmark : '=' ∈ text.toList <;> by_cases hb : Text.Blanks (Text.cutAtFirst '=' text.toList).1 <;>
      simp [hmark, hb, hblank]
  unfold pairs
  simp only [hread, mapM_setting?]
  cases firstUnset? texts <;> rfl

/-! ### Commands that set cookies -/

/-- A command that sets cookies and tokens: its source, and the texts of its arguments. -/
structure SetCommand where
  sourceId : String
  cookies : List String
  tokens : List String

namespace SetCommand

/-- What is wrong with a command. -/
def mistake? (command : SetCommand) : Option Mistake :=
  if command.cookies = [] ∧ command.tokens = [] then some .nothingToSet
  else match firstUnset? command.cookies with
    | some text => some (.notPair "ORIGIN=COOKIE" text)
    | none => (firstUnset? command.tokens).map (.notPair "--token")

/-- There is nothing wrong with a command that has an argument and only arguments that set a key. -/
theorem mistake?_eq_none_iff (command : SetCommand) : command.mistake? = none ↔
    (command.cookies ≠ [] ∨ command.tokens ≠ []) ∧
      ∀ text ∈ command.cookies ++ command.tokens, ∃ entry, setting? text = some entry := by
  have hall (texts : List String) : firstUnset? texts = none ↔ ∀ text ∈ texts, ∃ entry, setting? text = some entry := by
    simp [firstUnset?, Option.ne_none_iff_exists']
  rw [← not_and_or, List.forall_mem_append, ← hall, ← hall, mistake?]
  split
  next hnone => simp [hnone]
  next hsome =>
    cases hc : firstUnset? command.cookies <;> simp [hsome]

/-- The cookies that a command sets. -/
def cookieEntries (command : SetCommand) : List (String × String) :=
  command.cookies.filterMap setting?

/-- The tokens that a command sets. -/
def tokenEntries (command : SetCommand) : List (String × String) :=
  command.tokens.filterMap setting?

end SetCommand

/-! ### Command lines -/

section Lines

variable {environment : List (String × String)} {home : FilePath} {store : CredentialStore} {line : List String}

/-- A command line about cookies works with a store, and its own arguments and those of the command can be read. -/
structure AboutCookies (environment : List (String × String)) (home : FilePath) (store : CredentialStore)
    (line : List String) (main reading : Reading) : Prop where
  main_eq : mainGrammar.read line = .ok main
  reading_eq : ∃ rest, main.operands = ["cookie" :: rest] ∧ cookieGrammar.read rest = .ok reading
  extras_eq : main.extras = [] ∧ reading.extras = []
  oneVoice : (main.has "--quiet" && main.has "--verbose") = false
  store_eq : ((main.value? "--auth-file").map FilePath.ofText).getD (CredentialStore.usualPath environment home) = store.path

theorem AboutCookies.parse_eq {main reading : Reading} (h : AboutCookies environment home store line main reading) :
    Options.parse environment line =
      (cookieTask reading).map fun task => ⟨task, main.value? "--auth-file", main.has "--quiet", main.has "--verbose"⟩ := by
  obtain ⟨rest, hoperands, hreading⟩ := h.reading_eq
  unfold Options.parse
  simp only [h.main_eq, hoperands, hreading, h.extras_eq.1, h.extras_eq.2, h.oneVoice, bind, Except.bind, Except.mapError,
    String.reduceEq, ↓reduceIte, List.isEmpty_nil, Bool.not_true, Bool.or_self, Bool.false_eq_true]
  cases cookieTask reading <;> rfl

/-- A command line asks for a command that sets cookies. -/
def Sets (environment : List (String × String)) (home : FilePath) (store : CredentialStore) (line : List String)
    (command : SetCommand) : Prop :=
  ∃ main reading, AboutCookies environment home store line main reading ∧ reading.argument 0 = "set" ∧
    command = ⟨reading.argument 1, reading.operands.getD 2 [], reading.values "--token"⟩

/-- A command line asks for the cookies of a source, or for the one that belongs to a URL. -/
def Gets (environment : List (String × String)) (home : FilePath) (store : CredentialStore) (line : List String)
    (sourceId : String) (url? : Option String) : Prop :=
  ∃ main reading, AboutCookies environment home store line main reading ∧ reading.argument 0 = "get" ∧
    reading.argument 1 = sourceId ∧ reading.operands.getD 2 [] = [] ∧ reading.values "--token" = [] ∧
    reading.value? "--url" = url?

/-- What a command line that sets cookies comes to. -/
theorem Sets.parse_eq {command : SetCommand} (h : Sets environment home store line command) :
    match command.mistake? with
    | some mistake => Options.parse environment line = .error (.mistake mistake)
    | none => ∃ options url?, Options.parse environment line = .ok options ∧ options.store environment home = store ∧
        options.task = .cookie (.set (distinctEntries command.cookieEntries) (distinctEntries command.tokenEntries))
          command.sourceId url? := by
  obtain ⟨main, reading, hline, hset, rfl⟩ := h
  have htask : cookieTask reading =
      match SetCommand.mistake? ⟨reading.argument 1, reading.operands.getD 2 [], reading.values "--token"⟩ with
      | some mistake => .error (.mistake mistake)
      | none => .ok (.cookie (.set (distinctEntries ((reading.operands.getD 2 []).filterMap setting?))
          (distinctEntries ((reading.values "--token").filterMap setting?))) (reading.argument 1)
          (reading.value? "--url")) := by
    unfold cookieTask SetCommand.mistake?
    simp only [hset, ↓reduceIte, pairs_eq, ← List.isEmpty_iff, ← Bool.and_eq_true]
    split
    next => rfl
    next =>
      cases firstUnset? (reading.operands.getD 2 []) with
      | some text => rfl
      | none => cases firstUnset? (reading.values "--token") <;> rfl
  rw [hline.parse_eq, htask]
  cases SetCommand.mistake? _ with
  | some mistake => rfl
  | none => exact ⟨_, _, rfl, congrArg CredentialStore.mk hline.store_eq, rfl⟩

theorem Gets.parse_eq {sourceId : String} {url? : Option String} (h : Gets environment home store line sourceId url?) :
    ∃ options, Options.parse environment line = .ok options ∧ options.store environment home = store ∧
      options.task = .cookie .get sourceId url? := by
  obtain ⟨main, reading, hline, hget, rfl, hentries, htokens, rfl⟩ := h
  have htask : cookieTask reading = .ok (.cookie .get (reading.argument 1) (reading.value? "--url")) := by
    unfold cookieTask
    simp only [hget, hentries, htokens]
    rfl
  rw [hline.parse_eq, htask]
  exact ⟨_, rfl, congrArg CredentialStore.mk hline.store_eq, rfl⟩

/-! ### Plain command lines -/

/-- The command line with the name of a file of credentials, if one is given, and a command about cookies. -/
def cookieLine (file? : Option String) (action sourceId : String) (entries : List String)
    (options : List (String × String)) : List String :=
  optionArguments (file?.toList.map ("--auth-file", ·)) ++ "cookie" :: cookieArguments action sourceId entries options

variable {file? : Option String}

theorem aboutCookies_plain (hfile : ∀ file ∈ file?, IsPlain file)
    (hstore : (file?.map FilePath.ofText).getD (CredentialStore.usualPath environment home) = store.path)
    {action sourceId : String} {entries : List String} {options : List (String × String)}
    (h : IsPlainCommand action sourceId entries options) :
    AboutCookies environment home store (cookieLine file? action sourceId entries options)
      ⟨file?.toList.map ("--auth-file", ·), ["cookie" :: cookieArguments action sourceId entries options], []⟩
      ⟨options, [[action], [sourceId], entries], []⟩ where
  main_eq := read_mainArguments h (by simpa using hfile)
  reading_eq := ⟨_, rfl, read_cookieArguments h⟩
  extras_eq := ⟨rfl, rfl⟩
  oneVoice := by cases file? <;> rfl
  store_eq := by cases file? <;> exact hstore

/-- The command line of a command that sets cookies. -/
def SetCommand.arguments (file? : Option String) (command : SetCommand) : List String :=
  cookieLine file? "set" command.sourceId command.cookies (command.tokens.map ("--token", ·))

theorem SetCommand.sets_arguments (hfile : ∀ file ∈ file?, IsPlain file)
    (hstore : (file?.map FilePath.ofText).getD (CredentialStore.usualPath environment home) = store.path)
    (command : SetCommand) (hplain : ∀ text ∈ command.sourceId :: (command.cookies ++ command.tokens), IsPlain text) :
    Sets environment home store (command.arguments file?) command := by
  rw [← List.cons_append, List.forall_mem_append] at hplain
  have hcommand : IsPlainCommand "set" command.sourceId command.cookies (command.tokens.map ("--token", ·)) := by
    refine ⟨.inr rfl, hplain.1, fun option ho => ?_⟩
    obtain ⟨token, ht, rfl⟩ := List.mem_map.mp ho
    exact ⟨.inl rfl, hplain.2 token ht⟩
  have htokens : (((command.tokens.map ("--token", ·)).filter (·.1 = "--token")).map (·.2)) = command.tokens := by
    simp [List.filter_map, Function.comp_def]
  refine ⟨_, _, aboutCookies_plain hfile hstore hcommand, rfl, ?_⟩
  show command = ⟨command.sourceId, command.cookies, _⟩
  rw [Reading.values, htokens]

/-- The command line that gets the cookies of a source. -/
def getArguments (file? : Option String) (sourceId : String) (url? : Option String) : List String :=
  cookieLine file? "get" sourceId [] (url?.toList.map ("--url", ·))

theorem gets_getArguments (hfile : ∀ file ∈ file?, IsPlain file)
    (hstore : (file?.map FilePath.ofText).getD (CredentialStore.usualPath environment home) = store.path)
    (sourceId : String) (url? : Option String) (hplain : IsPlain sourceId) (hurl : ∀ url ∈ url?, IsPlain url) :
    Gets environment home store (getArguments file? sourceId url?) sourceId url? := by
  have hcommand : IsPlainCommand "get" sourceId [] (url?.toList.map ("--url", ·)) := by
    refine ⟨.inl rfl, List.forall_mem_singleton.mpr hplain, fun option ho => ?_⟩
    obtain ⟨url, hu, rfl⟩ := List.mem_map.mp ho
    exact ⟨.inr rfl, hurl url (Option.mem_toList.mp hu)⟩
  refine ⟨_, _, aboutCookies_plain hfile hstore hcommand, rfl, rfl, rfl, ?_, ?_⟩
  · cases url? <;> rfl
  · cases url? <;> rfl

end Lines

end SiteReader.Command
