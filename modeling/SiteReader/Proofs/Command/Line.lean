import SiteReader.Command.Options

/-!
# Plain command lines

Arguments that do not start with a dash are operands, and those after the name of an option with a value are its values.
So a command line of such arguments is read as it looks (`read_mainArguments`, `read_cookieArguments`).
-/

namespace SiteReader.Command

/-! ### Words -/

/-- An argument that does not start with a dash. -/
def IsPlain (text : String) : Prop :=
  text.toList.head? ≠ some '-'

instance (text : String) : Decidable (IsPlain text) :=
  inferInstanceAs (Decidable (_ ≠ _))

theorem word_plain (grammar : Grammar) {text : String} (h : IsPlain text) : word grammar text = .ok (.plain text) := by
  unfold word
  exact if_pos h

theorem words_plain (grammar : Grammar) {texts : List String} (h : ∀ text ∈ texts, IsPlain text) (rest : List String) :
    words grammar (texts ++ rest) = (words grammar rest).map (texts.map Word.plain ++ ·) := by
  induction texts with
  | nil => cases hw : words grammar rest <;> simp [hw, Except.map]
  | cons text texts ih =>
    obtain ⟨hplain, htexts⟩ := List.forall_mem_cons.mp h
    have hmark : text ≠ "--" := by
      rintro rfl
      exact hplain rfl
    rw [List.cons_append, words, if_neg hmark, word_plain grammar hplain, ih htexts]
    cases words grammar rest <;> rfl

/-- The words of options with their values. -/
def optionWords (form? : String → Option OptionForm) (options : List (String × String)) : List Word :=
  options.flatMap fun option => [.option (form? option.1) none option.1, .plain option.2]

/-- The arguments of options with their values. -/
def optionArguments (options : List (String × String)) : List String :=
  options.flatMap fun option => [option.1, option.2]

theorem words_optionArguments {grammar : Grammar} {form? : String → Option OptionForm} {options : List (String × String)}
    (h : ∀ option ∈ options, word grammar option.1 = .ok (.option (form? option.1) none option.1) ∧ option.1 ≠ "--" ∧
      IsPlain option.2) (rest : List String) :
    words grammar (optionArguments options ++ rest) = (words grammar rest).map (optionWords form? options ++ ·) := by
  induction options with
  | nil => cases hw : words grammar rest <;> simp [hw, optionArguments, optionWords, Except.map]
  | cons option options ih =>
    obtain ⟨⟨hword, hmark, hplain⟩, hrest⟩ := List.forall_mem_cons.mp h
    have happend : optionArguments (option :: options) ++ rest =
        option.1 :: ([option.2] ++ (optionArguments options ++ rest)) := rfl
    rw [happend, words, if_neg hmark, hword, words_plain grammar (List.forall_mem_singleton.mpr hplain), ih hrest]
    cases words grammar rest <;> rfl

theorem map_text_optionWords (form? : String → Option OptionForm) (options : List (String × String)) :
    (optionWords form? options).map Word.text = optionArguments options := by
  induction options with
  | nil => rfl
  | cons option options ih => exact congrArg (option.1 :: option.2 :: ·) ih

theorem length_optionWords (form? : String → Option OptionForm) (options : List (String × String)) :
    (optionWords form? options).length = 2 * options.length := by
  induction options with
  | nil => rfl
  | cons option options ih =>
    have hlength : (optionWords form? (option :: options)).length = (optionWords form? options).length + 2 := rfl
    rw [hlength, ih, List.length_cons]
    omega

/-! ### Reading words -/

theorem readFrom_nil (fuel : Nat) (reading : Reading) : readFrom fuel [] [] reading = .ok reading := by
  cases fuel with
  | zero => rfl
  | succ fuel => simp [readFrom, takeOperands, bind, Except.bind, pure, Except.pure]

/-- Options whose values are all accepted are read first. -/
theorem readFrom_optionWords (fuel : Nat) (operands : List Operand) (options : List (String × String)) (rest : List Word)
    (reading : Reading) :
    readFrom (fuel + options.length) operands (optionWords (some <| text ·) options ++ rest) reading =
      readFrom fuel operands rest { reading with options := reading.options ++ options } := by
  induction options generalizing reading with
  | nil => simp [optionWords]
  | cons option options ih =>
    have happend : optionWords (some <| text ·) (option :: options) ++ rest =
      .option (some (text option.1)) none option.1 :: .plain option.2 :: (optionWords (some <| text ·) options ++ rest) := rfl
    rw [happend, List.length_cons, ← Nat.add_assoc, readFrom]
    simp only [List.any_cons, Word.isOption, Bool.true_or, Bool.not_true, Bool.false_eq_true, ↓reduceIte, takeOption, text,
      bind, Except.bind]
    refine (ih _).trans ?_
    rw [List.append_assoc, List.singleton_append]

/-- Operands that stand first are read first, if they take all that is not an option. -/
theorem readFrom_operands (fuel : Nat) {operands : List Operand} {first : String} {ws rest : List Word}
    {taken : List (List String)} (htake : takeOperands operands (.plain first :: ws) = .ok (taken, [], rest))
    (hlength : rest.length ≤ ws.length) (hrest : ws.any Word.isOption = false → rest = []) (reading : Reading) :
    readFrom (fuel + 1) operands (.plain first :: ws) reading =
      readFrom fuel [] rest { reading with operands := reading.operands ++ taken } := by
  conv => lhs; unfold readFrom
  split
  next h =>
    obtain rfl := hrest (by simpa [Word.isOption] using h)
    rw [readFrom_nil]
    simp [htake, bind, Except.bind, pure, Except.pure]
  next =>
    simp only [htake, bind, Except.bind]
    exact if_pos (Nat.lt_succ_of_le hlength)

/-! ### Operands -/

/-- The name of a command takes all that comes after it. -/
theorem takeOperands_command {names : List String} {name : String} (h : name ∈ names) (ws : List Word) :
    takeOperands [.command names] (.plain name :: ws) = .ok ([name :: ws.map Word.text], [], []) := by
  simp [takeOperands, takeOperand?, h, bind, Except.bind, pure, Except.pure]

theorem takeOperand?_one {accepts : String → Bool} {argument : String} (h : accepts argument = true) (rest : List Word) :
    takeOperand? (.one accepts) (.plain argument :: rest) = .ok (some ([argument], skipMark rest)) := by
  simp [takeOperand?, skipMark, h]

theorem takeOperand?_many (arguments : List String) (form? : String → Option OptionForm) (options : List (String × String)) :
    takeOperand? .many (arguments.map Word.plain ++ optionWords form? options) =
      .ok (some (arguments, optionWords form? options)) := by
  have htaken : (arguments.map Word.plain ++ optionWords form? options).takeWhile (fun w => !w.isOption) =
      arguments.map Word.plain := by
    have hstop : (optionWords form? options).takeWhile (fun w => !w.isOption) = [] := by cases options <;> rfl
    rw [List.takeWhile_append_of_pos (by simp [Word.isOption]), hstop, List.append_nil]
  simp only [takeOperand?, htaken, List.drop_left, List.filterMap_map]
  exact congrArg (fun texts => Except.ok (some (texts, optionWords form? options))) (@List.filterMap_some _ arguments)

/-- The operands of a command about cookies come before its options. -/
theorem takeOperands_cookie {action : String} (h : action = "get" ∨ action = "set") (sourceId : String)
    (entries : List String) (form? : String → Option OptionForm) (options : List (String × String)) :
    takeOperands cookieGrammar.operands
        (.plain action :: .plain sourceId :: (entries.map Word.plain ++ optionWords form? options)) =
      .ok ([[action], [sourceId], entries], [], optionWords form? options) := by
  have hskip : skipMark (entries.map Word.plain ++ optionWords form? options) =
      entries.map Word.plain ++ optionWords form? options := by
    cases entries with
    | nil => cases options <;> rfl
    | cons entry entries => rfl
  have haccepted : (decide (action = "get") || decide (action = "set")) = true := by simpa using h
  have hfirst := @takeOperand?_one (fun action => action = "get" || action = "set") action haccepted
    (.plain sourceId :: (entries.map Word.plain ++ optionWords form? options))
  have hsecond := @takeOperand?_one (fun _ => true) sourceId rfl (entries.map Word.plain ++ optionWords form? options)
  rw [hskip] at hsecond
  simp only [cookieGrammar, takeOperands, hfirst, skipMark, hsecond, takeOperand?_many, bind, Except.bind, pure, Except.pure]

/-! ### Lines about cookies -/

/-- The arguments of a command about cookies. -/
def cookieArguments (action sourceId : String) (entries : List String) (options : List (String × String)) : List String :=
  [action, sourceId] ++ (entries ++ optionArguments options)

/-- A command about cookies, all of whose arguments are plain. -/
structure IsPlainCommand (action sourceId : String) (entries : List String) (options : List (String × String)) : Prop where
  action_eq : action = "get" ∨ action = "set"
  plain : ∀ text ∈ sourceId :: entries, IsPlain text
  options_plain : ∀ option ∈ options, (option.1 = "--token" ∨ option.1 = "--url") ∧ IsPlain option.2

theorem words_cookieArguments {action sourceId : String} {entries : List String} {options : List (String × String)}
    (h : IsPlainCommand action sourceId entries options) {grammar : Grammar} {form? : String → Option OptionForm}
    (hforms : ∀ name, name = "--token" ∨ name = "--url" → word grammar name = .ok (.option (form? name) none name)) :
    words grammar (cookieArguments action sourceId entries options) =
      .ok (.plain action :: .plain sourceId :: (entries.map Word.plain ++ optionWords form? options)) := by
  have haction : IsPlain action := by rcases h.action_eq with rfl | rfl <;> decide
  obtain ⟨hsource, hentries⟩ := List.forall_mem_cons.mp h.plain
  have hoptions : ∀ option ∈ options, word grammar option.1 = .ok (.option (form? option.1) none option.1) ∧
      option.1 ≠ "--" ∧ IsPlain option.2 := by
    intro option ho
    obtain ⟨hname, hvalue⟩ := h.options_plain option ho
    exact ⟨hforms _ hname, by rcases hname with hname | hname <;> rw [hname] <;> decide, hvalue⟩
  have hfirst : ∀ text ∈ [action, sourceId], IsPlain text := by simp [haction, hsource]
  have hlast := words_optionArguments hoptions []
  rw [List.append_nil] at hlast
  rw [cookieArguments, words_plain grammar hfirst, words_plain grammar hentries, hlast]
  simp [words, Except.map]

theorem read_cookieArguments {action sourceId : String} {entries : List String} {options : List (String × String)}
    (h : IsPlainCommand action sourceId entries options) :
    cookieGrammar.read (cookieArguments action sourceId entries options) =
      .ok ⟨options, [[action], [sourceId], entries], []⟩ := by
  have hforms : ∀ name, name = "--token" ∨ name = "--url" →
      word cookieGrammar name = .ok (.option (some (text name)) none name) := by
    rintro _ (rfl | rfl) <;> rfl
  have hlength : options.length ≤ (optionWords (some <| text ·) options).length := by
    rw [length_optionWords]
    omega
  have hrest : (Word.plain sourceId :: (entries.map Word.plain ++ optionWords (some <| text ·) options)).any Word.isOption =
      false → optionWords (some <| text ·) options = [] := by
    cases options with
    | nil => exact fun _ => rfl
    | cons option options => simp [optionWords, Word.isOption]
  rw [Grammar.read, words_cookieArguments h hforms]
  simp only [bind, Except.bind]
  rw [readFrom_operands _ (takeOperands_cookie h.action_eq sourceId entries _ options) (by simp; omega) hrest]
  obtain ⟨fuel, hfuel⟩ := Nat.exists_eq_add_of_le' (m := options.length) (n := (Word.plain action :: .plain sourceId ::
    (entries.map Word.plain ++ optionWords (some <| text ·) options)).length) (by simp; omega)
  have hread := readFrom_optionWords fuel [] options [] ⟨[], [[action], [sourceId], entries], []⟩
  rw [List.append_nil, readFrom_nil, ← hfuel] at hread
  exact hread

theorem read_mainArguments {action sourceId : String} {entries : List String} {options : List (String × String)}
    (h : IsPlainCommand action sourceId entries options) {files : List String} (hfiles : ∀ file ∈ files, IsPlain file) :
    mainGrammar.read (optionArguments (files.map ("--auth-file", ·)) ++
        "cookie" :: cookieArguments action sourceId entries options) =
      .ok ⟨files.map ("--auth-file", ·), ["cookie" :: cookieArguments action sourceId entries options], []⟩ := by
  have hforms : ∀ name, name = "--token" ∨ name = "--url" → word mainGrammar name = .ok (.option none none name) := by
    rintro _ (rfl | rfl) <;> rfl
  have hname : word mainGrammar "--auth-file" = .ok (.option (some (text "--auth-file")) none "--auth-file") := rfl
  have hglobals : ∀ option ∈ files.map ("--auth-file", ·), word mainGrammar option.1 =
      .ok (.option (some (text option.1)) none option.1) ∧ option.1 ≠ "--" ∧ IsPlain option.2 := by
    intro option ho
    obtain ⟨file, hf, rfl⟩ := List.mem_map.mp ho
    exact ⟨hname, (by decide : "--auth-file" ≠ "--"), hfiles file hf⟩
  generalize files.map ("--auth-file", ·) = globals at hglobals ⊢
  obtain ⟨ws, hws, htexts⟩ : ∃ ws, words mainGrammar (cookieArguments action sourceId entries options) = .ok ws ∧
      ws.map Word.text = cookieArguments action sourceId entries options := by
    refine ⟨_, words_cookieArguments h hforms, ?_⟩
    simp [cookieArguments, map_text_optionWords, Word.text, Function.comp_def]
  have hcommand : words mainGrammar ("cookie" :: cookieArguments action sourceId entries options) =
      .ok (.plain "cookie" :: ws) := by
    have hplain := words_plain mainGrammar (List.forall_mem_singleton.mpr (by decide : IsPlain "cookie"))
      (cookieArguments action sourceId entries options)
    rwa [hws] at hplain
  have hwords : words mainGrammar (optionArguments globals ++ "cookie" :: cookieArguments action sourceId entries options) =
      .ok (optionWords (some <| text ·) globals ++ .plain "cookie" :: ws) := by
    rw [@words_optionArguments _ (some <| text ·) globals hglobals, hcommand]
    rfl
  obtain ⟨fuel, hfuel⟩ := Nat.exists_eq_add_of_le' (m := globals.length)
    (n := (optionWords (some <| text ·) globals ++ .plain "cookie" :: ws).length) (by simp [length_optionWords]; omega)
  have hread := readFrom_optionWords (fuel + 1) mainGrammar.operands globals (.plain "cookie" :: ws) ⟨[], [], []⟩
  rw [mainGrammar, readFrom_operands fuel (takeOperands_command (by decide) ws) (Nat.zero_le _) fun _ => rfl, readFrom_nil,
    htexts, Nat.add_right_comm, ← hfuel] at hread
  rw [Grammar.read, hwords]
  exact hread

end SiteReader.Command
