import SiteReader.Proofs.Command.Setting
import SiteReader.Proofs.Credential.History

/-!
# Cookies that were set on the command line

Command lines that set cookies leave, for each source, the last value of every key that they set for it, in the order in which
the keys were first set (`cookies_as_set`).  What one of them does to what was set before is said by `Remembers.run_sets`.
-/

namespace SiteReader.Command

open CredentialStore (Holds)
open Gateway (Resolver World)

/-! ### What was set for a source -/

/-- The commands for a source that were no mistake. -/
def accepted (sourceId : String) (commands : List SetCommand) : List SetCommand :=
  commands.filter fun command => command.sourceId = sourceId && command.mistake?.isNone

/-- A map has the last value of each key that was set, in the order in which the keys were first set. -/
structure HasLast (entries map : List (String × String)) : Prop where
  keys_eq : map.map Prod.fst = (entries.map Prod.fst).eraseDups
  lookup_eq : ∀ key, map.lookup key = entries.reverse.lookup key

theorem hasLast_distinctEntries (entries : List (String × String)) : HasLast entries (distinctEntries entries) :=
  ⟨map_fst_distinctEntries entries, lookup_distinctEntries entries⟩

theorem HasLast.eq_distinctEntries {entries map : List (String × String)} (h : HasLast entries map) :
    map = distinctEntries entries := by
  have hdistinct := hasLast_distinctEntries entries
  have hkeys : map.map Prod.fst = (distinctEntries entries).map Prod.fst := h.keys_eq.trans hdistinct.keys_eq.symm
  exact eq_of_lookup (hkeys ▸ nodup_distinctEntries entries) hkeys fun key =>
    (h.lookup_eq key).trans (hdistinct.lookup_eq key).symm

/-- What is there for a source after all commands for it: nothing if there were none, else a record of all that they set. -/
def IsSet (sourceId : String) (commands : List SetCommand) : Option Credential → Prop
  | none => commands = []
  | some record => commands ≠ [] ∧ record.sourceId = sourceId ∧
      HasLast (commands.flatMap SetCommand.cookieEntries) record.cookies ∧
      HasLast (commands.flatMap SetCommand.tokenEntries) record.tokens

/-- The first cookie of a record that is not empty, in the order of the keys of a URL, which are its origin, its host with the
port, and its host alone. -/
def chosenCookie (record? : Option Credential) (url : String) : String :=
  match Url.originKeys url, record? with
  | .ok keys, some record => (keys.findSome? fun key => (record.cookies.lookup key).filter (· ≠ "")).getD ""
  | _, _ => ""

/-- What is shown for a source, or for a source and a URL. -/
def shown (sourceId : String) (record? : Option Credential) (url? : Option String) : Tree :=
  match url?.filter (· ≠ "") with
  | none => (record?.map Credential.toTree).getD .null
  | some url => .object [("sourceId", .text sourceId), ("cookie", .text (chosenCookie record? url))]

/-! ### Records of what was set -/

/-- The record of all that commands set for a source. -/
def recordOf (sourceId : String) (commands : List SetCommand) : Credential :=
  ⟨sourceId, distinctEntries (commands.flatMap SetCommand.cookieEntries),
    distinctEntries (commands.flatMap SetCommand.tokenEntries)⟩

def recordOf? (sourceId : String) (commands : List SetCommand) : Option Credential :=
  if commands = [] then none else some (recordOf sourceId commands)

theorem isSet_recordOf? (sourceId : String) (commands : List SetCommand) :
    IsSet sourceId commands (recordOf? sourceId commands) := by
  unfold recordOf?
  split
  next h => exact h
  next h => exact ⟨h, rfl, hasLast_distinctEntries _, hasLast_distinctEntries _⟩

theorem IsSet.eq_recordOf? {sourceId : String} {commands : List SetCommand} {record? : Option Credential}
    (h : IsSet sourceId commands record?) : record? = recordOf? sourceId commands := by
  unfold recordOf?
  cases record? with
  | none => exact (if_pos h).symm
  | some record =>
    obtain ⟨hne, hsource, hcookies, htokens⟩ := h
    rw [if_neg hne, recordOf, ← hcookies.eq_distinctEntries, ← htokens.eq_distinctEntries, ← hsource]

theorem storable_recordOf {sourceId : String} (h : sourceId ≠ "") (commands : List SetCommand) :
    (recordOf sourceId commands).Storable :=
  ⟨⟨nodup_distinctEntries _, nodup_distinctEntries _⟩, h⟩

/-- One more command changes the record that is there into the record of all commands. -/
theorem changedRecord_recordOf? (command : SetCommand) (commands : List SetCommand) :
    changedRecord command.sourceId (distinctEntries command.cookieEntries) (distinctEntries command.tokenEntries)
      (recordOf? command.sourceId commands) = recordOf command.sourceId (commands ++ [command]) := by
  have hget : (recordOf? command.sourceId commands).getD ⟨command.sourceId, [], []⟩ = recordOf command.sourceId commands := by
    unfold recordOf?
    split
    next h => rw [h]; rfl
    next => rfl
  have hmore (part : SetCommand → List (String × String)) :
      updateEntries (distinctEntries (commands.flatMap part)) (distinctEntries (part command)) =
        distinctEntries ((commands ++ [command]).flatMap part) := by
    rw [updateEntries_distinctEntries (nodup_distinctEntries _), List.flatMap_append, List.flatMap_singleton, distinctEntries,
      distinctEntries, updateEntries_append]
  simp only [changedRecord, hget, recordOf, hmore]

theorem accepted_concat (sourceId : String) (commands : List SetCommand) (command : SetCommand) :
    accepted sourceId (commands ++ [command]) =
      if command.sourceId = sourceId ∧ command.mistake? = none then accepted sourceId commands ++ [command]
      else accepted sourceId commands := by
  unfold accepted
  rw [List.filter_append]
  by_cases h : command.sourceId = sourceId ∧ command.mistake? = none
  · rw [if_pos h, List.filter_cons_of_pos (by simpa using h), List.filter_nil]
  · rw [if_neg h, List.filter_cons_of_neg (by simpa using h), List.filter_nil, List.append_nil]

/-! ### One command -/

/-- A command that sets cookies succeeds, or is refused for what is wrong with it. -/
def SetCommand.EndsWith (command : SetCommand) (ending : Ending) : Prop :=
  match command.mistake? with
  | none => ending.Succeeds
  | some mistake => ending = .refused (.mistake mistake)

/-- The file of a store has a record of all that commands set for each source. -/
structure Remembers (store : CredentialStore) (home : FilePath) (commands : List SetCommand) (files : FileSystem) : Prop where
  home_eq : files.home = home
  holds : ∃ records, Holds store files records ∧
    ∀ sourceId, records.find? (·.sourceId = sourceId) = recordOf? sourceId (accepted sourceId commands)

variable {τ : Type} [Clock τ] {environment : List (String × String)} {store : CredentialStore}
  {home : FilePath} {line : List String} {world : World τ} {commands : List SetCommand} {command : SetCommand}

omit [Clock τ] in
theorem Remembers.runCookieSet (h : Remembers store home commands world.files) (hid : command.sourceId ≠ "")
    (hok : command.mistake? = none) :
    ∃ output world', outcome (runCookieSet store command.sourceId (distinctEntries command.cookieEntries)
        (distinctEntries command.tokenEntries)) world = (.ok output, world') ∧
      Remembers store home (commands ++ [command]) world'.files := by
  obtain ⟨records, hholds, hfind⟩ := h.holds
  obtain ⟨read, hf, hread⟩ := hholds.find command.sourceId
  rw [hfind] at hf
  obtain ⟨fs, hu, hfs⟩ := hread.upsert (storable_recordOf hid (accepted command.sourceId commands ++ [command]))
  obtain ⟨world', hset, hfiles⟩ :=
    outcome_runCookieSet hf (distinctEntries command.cookieEntries) (distinctEntries command.tokenEntries)
  rw [changedRecord_recordOf?, hu] at hset hfiles
  have hholds' := hfiles.symm.subst (motive := fun files => Holds store files _) hfs
  refine ⟨_, world', hset, ⟨?_, _, hholds', fun sourceId => ?_⟩⟩
  · have hhome := keeps_home_runCookieSet store home command.sourceId (distinctEntries command.cookieEntries)
      (distinctEntries command.tokenEntries) world h.home_eq
    rwa [hset] at hhome
  · rw [accepted_concat]
    by_cases hsame : command.sourceId = sourceId
    · subst hsame
      have hmore : accepted command.sourceId commands ++ [command] ≠ [] :=
        List.append_ne_nil_of_right_ne_nil _ (List.cons_ne_nil _ _)
      rw [if_pos ⟨rfl, hok⟩, Credential.find?_upsert, recordOf?, if_neg hmore]
      exact if_pos rfl
    · rw [if_neg fun both => hsame both.1, Credential.find?_upsert, hfind]
      exact if_neg hsame

theorem cookieIn_eq_chosenCookie (records : List Credential) (sourceId url : String) :
    StoreCall.cookieIn records sourceId url = chosenCookie (records.find? (·.sourceId = sourceId)) url := by
  unfold StoreCall.cookieIn chosenCookie
  cases Url.originKeys url <;> cases records.find? (·.sourceId = sourceId) <;> rfl

omit [Clock τ] in
theorem Remembers.runCookieGet (h : Remembers store home commands world.files) (sourceId : String) (url? : Option String) :
    ∃ world', outcome (runCookieGet store sourceId url?) world =
      (.ok (.value (shown sourceId (recordOf? sourceId (accepted sourceId commands)) url?)), world') := by
  obtain ⟨records, hholds, hfind⟩ := h.holds
  unfold Command.runCookieGet shown
  rcases hurl : url?.filter (· ≠ "") with _ | url
  · have hgiven : isGiven url? = false := by cases url? <;> simp_all [isGiven]
    obtain ⟨fs, hf, -⟩ := hholds.find sourceId
    rw [hgiven, if_neg (by decide), outcome_bind, Gateway.outcome_ofFiled, hf, hfind]
    refine ⟨{ world with files := fs }, ?_⟩
    cases recordOf? sourceId (accepted sourceId commands) <;> rfl
  · obtain ⟨rfl, hne⟩ := Option.filter_eq_some_iff.mp hurl
    have hgiven : isGiven (some url) = true := by simpa [isGiven] using hne
    obtain ⟨fs, hc, -⟩ := hholds.cookieFor sourceId url
    rw [hgiven, if_pos rfl, outcome_bind, Gateway.outcome_ofFiled, Option.getD_some, hc, cookieIn_eq_chosenCookie, hfind]
    exact ⟨{ world with files := fs }, rfl⟩

/-- A command line that sets cookies adds to what was set before, unless it is refused. -/
theorem Remembers.run_sets (h : Remembers store home commands world.files) (resolver : Resolver)
    (hline : Sets environment home store line command) (hid : command.sourceId ≠ "") :
    let ran := (run environment resolver line).run world
    Remembers store home (commands ++ [command]) ran.2.files ∧ command.EndsWith ran.1 := by
  have hparse := hline.parse_eq
  unfold SetCommand.EndsWith
  cases hm : command.mistake? with
  | none =>
    rw [hm] at hparse
    obtain ⟨options, url?, hp, rfl, ht⟩ := hparse
    obtain ⟨lines, hrun⟩ := exists_run hp resolver world
    have hbegun : Remembers (options.store environment home) home commands (begun world).files := h
    obtain ⟨output, world', hset, hremembers⟩ := hbegun.runCookieSet hid hm
    have htask : outcome (runTask resolver (options.store environment home) options.task) (begun world) =
        (.ok output, world') := by
      rw [ht]
      exact hset
    rw [h.home_eq, htask] at hrun
    simp only [hrun]
    exact ⟨hremembers, rfl⟩
  | some mistake =>
    rw [hm] at hparse
    simp only [run_of_refused hparse resolver world]
    obtain ⟨records, hholds, hfind⟩ := h.holds
    refine ⟨⟨h.home_eq, records, hholds, fun sourceId => ?_⟩, trivial⟩
    rw [accepted_concat, if_neg fun both => by simp [hm] at both, hfind]

/-- A command line that gets cookies shows what was set before. -/
theorem Remembers.run_gets (h : Remembers store home commands world.files) (resolver : Resolver) {sourceId : String}
    {url? : Option String} (hline : Gets environment home store line sourceId url?) :
    ∃ lines, ((run environment resolver line).run world).1 =
      .done 0 (Output.value (shown sourceId (recordOf? sourceId (accepted sourceId commands)) url?)).print lines := by
  obtain ⟨options, hp, rfl, ht⟩ := hline.parse_eq
  obtain ⟨lines, hrun⟩ := exists_run hp resolver world
  have hbegun : Remembers (options.store environment home) home commands (begun world).files := h
  obtain ⟨world', hget⟩ := hbegun.runCookieGet sourceId url?
  have htask : outcome (runTask resolver (options.store environment home) options.task) (begun world) =
      (.ok (.value (shown sourceId (recordOf? sourceId (accepted sourceId commands)) url?)), world') := by
    rw [ht]
    exact hget
  rw [h.home_eq, htask] at hrun
  exact ⟨lines, congrArg Prod.fst hrun⟩

/-! ### Many commands -/

/-- The file of a store is missing, or there are only blanks in it. -/
def HasNothing (store : CredentialStore) (files : FileSystem) : Prop :=
  files.openFile store.path = .missing ∨
    ∃ blanks : String, files.openFile store.path = .content blanks.toUTF8 ∧ Text.Blanks blanks.toList

theorem HasNothing.remembers {files : FileSystem} (h : HasNothing store files) : Remembers store files.home [] files := by
  refine ⟨rfl, [], ?_, fun _ => rfl⟩
  rcases h with h | ⟨blanks, h, hb⟩
  · exact .missing h
  · exact .blank h hb

theorem Remembers.runAll_sets (h : Remembers store home commands world.files) (resolver : Resolver)
    {sets : List (List String × SetCommand)}
    (hsets : ∀ set ∈ sets, Sets environment home store set.1 set.2 ∧ set.2.sourceId ≠ "") :
    let ran := (runAll environment resolver (sets.map Prod.fst)).run world
    Remembers store home (commands ++ sets.map Prod.snd) ran.2.files ∧
      List.Forall₂ (fun set ending => set.2.EndsWith ending) sets ran.1 := by
  unfold runAll
  induction sets generalizing world commands with
  | nil => exact ⟨(List.append_nil commands).symm ▸ h, .nil⟩
  | cons set rest ih =>
    obtain ⟨⟨hline, hid⟩, hrest⟩ := List.forall_mem_cons.mp hsets
    obtain ⟨hremembers, hends⟩ := h.run_sets resolver hline hid
    obtain ⟨hall, hallEnd⟩ := ih hremembers hrest
    simp only [List.map_cons, List.mapM_cons, StateT.run_bind, StateT.run_pure]
    exact ⟨List.append_cons commands set.2 _ ▸ hall, .cons hends hallEnd⟩

/-- When a file of credentials that is missing or blank is followed by command lines that set cookies and tokens, each of
these lines succeeds if it has an argument and only arguments that set a key, and is refused otherwise.  After all of them, a
line that gets the cookies of a source succeeds and shows the last values of all keys that the lines that were not refused
have set for this source, in the order in which the keys were first set, or the first one that is not empty for a URL. -/
theorem cookies_as_set (hstart : HasNothing store world.files) {resolver : Resolver}
    {sets : List (List String × SetCommand)}
    (hsets : ∀ set ∈ sets, Sets environment world.files.home store set.1 set.2 ∧ set.2.sourceId ≠ "") :
    let ran := (runAll environment resolver (sets.map Prod.fst)).run world
    List.Forall₂ (fun set ending => set.2.EndsWith ending) sets ran.1 ∧
    (∀ set ∈ sets, set.2.mistake? = none ↔ (set.2.cookies ≠ [] ∨ set.2.tokens ≠ []) ∧
      ∀ text ∈ set.2.cookies ++ set.2.tokens, ∃ entry, setting? text = some entry) ∧
    ∀ {line sourceId url?}, Gets environment world.files.home store line sourceId url? → ∀ resolver,
      ∃ record? lines, IsSet sourceId (accepted sourceId (sets.map Prod.snd)) record? ∧
        ((run environment resolver line).run ran.2).1 = .done 0 (Output.value (shown sourceId record? url?)).print lines := by
  obtain ⟨hremembers, hends⟩ := hstart.remembers.runAll_sets resolver hsets
  refine ⟨hends, fun set _ => set.2.mistake?_eq_none_iff, fun {line sourceId url?} hline resolver => ?_⟩
  obtain ⟨lines, hrun⟩ := hremembers.run_gets resolver hline
  exact ⟨_, lines, isSet_recordOf? sourceId _, hrun⟩

theorem cookies_as_set_twice :
    let store : CredentialStore := ⟨⟨"", ["auth.json"]⟩⟩
    let world := World.start Rat ⟨"/", []⟩ ⟨200, [], [], .whole 0, none⟩
    let commands : List SetCommand := [⟨"a", ["a.test=k=1", " b.test =x"], ["t=\""]⟩, ⟨"b", ["a.test=z"], []⟩,
      ⟨"a", ["c.test=y", "=v"], []⟩, ⟨"a", ["a.test=k=2"], []⟩]
    let sets := commands.map fun command => (command.arguments (some "auth.json"), command)
    let get := getArguments (some "auth.json") "a" none
    HasNothing store world.files ∧ (∀ set ∈ sets, Sets [] world.files.home store set.1 set.2 ∧ set.2.sourceId ≠ "") ∧
    Gets [] world.files.home store get "a" none ∧
    ∃ lines, ((run [] (fun _ => .ok []) get).run ((runAll [] (fun _ => .ok []) (sets.map Prod.fst)).run world).2).1 = .done 0
      (Output.value (Credential.mk "a" [("a.test", "k=2"), ("b.test", "x")] [("t", "\"")]).toTree).print lines := by
  intro store world commands sets get
  have hstart : HasNothing store world.files := .inl rfl
  have hfile : ∀ file ∈ some "auth.json", IsPlain file := by decide
  have hstore : ((some "auth.json").map FilePath.ofText).getD (CredentialStore.usualPath [] world.files.home) =
      store.path := by decide +kernel
  have hplain : ∀ command ∈ commands, (∀ text ∈ command.sourceId :: (command.cookies ++ command.tokens), IsPlain text) ∧
      command.sourceId ≠ "" := by decide
  have hsets : ∀ set ∈ sets, Sets [] world.files.home store set.1 set.2 ∧ set.2.sourceId ≠ "" := by
    intro set hs
    obtain ⟨command, hc, rfl⟩ := List.mem_map.mp hs
    exact ⟨command.sets_arguments hfile hstore (hplain command hc).1, (hplain command hc).2⟩
  have hget : Gets [] world.files.home store get "a" none := gets_getArguments hfile hstore "a" none (by decide) (by simp)
  obtain ⟨-, -, hgets⟩ := cookies_as_set hstart hsets
  obtain ⟨record?, lines, hset, hrun⟩ := hgets hget fun _ => .ok []
  have hrecord : recordOf? "a" (accepted "a" (sets.map Prod.snd)) =
      some ⟨"a", [("a.test", "k=2"), ("b.test", "x")], [("t", "\"")]⟩ := by decide +kernel
  have hshown (record : Credential) : shown "a" (some record) none = record.toTree := rfl
  rw [hset.eq_recordOf?, hrecord, hshown] at hrun
  exact ⟨hstart, hsets, hget, lines, hrun⟩

/-- An argument without a name before its equals sign is refused, and the empty URL counts as no URL. -/
theorem cookies_refused_or_shown_whole :
    let store : CredentialStore := ⟨⟨"/", ["book_source_auth.json"]⟩⟩
    (¬ ∀ (world : World Rat) (line : List String) (command : SetCommand),
      HasNothing store world.files → Sets [] world.files.home store line command → command.sourceId ≠ "" →
      ((run [] (fun _ => .ok []) line).run world).1.Succeeds) ∧
    ¬ ∀ (world : World Rat) (sets : List (List String × SetCommand)) (line : List String) (sourceId url : String),
      HasNothing store world.files →
      (∀ set ∈ sets, Sets [] world.files.home store set.1 set.2 ∧ set.2.sourceId ≠ "") →
      Gets [] world.files.home store line sourceId (some url) →
      ∃ record? lines, IsSet sourceId (accepted sourceId (sets.map Prod.snd)) record? ∧
        ((run [] (fun _ => .ok []) line).run ((runAll [] (fun _ => .ok []) (sets.map Prod.fst)).run world).2).1 =
          .done 0 (Output.value (.object [("sourceId", .text sourceId), ("cookie", .text (chosenCookie record? url))])).print
            lines := by
  intro store
  let world := World.start Rat ⟨"/", []⟩ ⟨200, [], [], .whole 0, none⟩
  have hstart : HasNothing store world.files := .inl rfl
  have hstore : ((none : Option String).map FilePath.ofText).getD (CredentialStore.usualPath [] world.files.home) =
      store.path := by decide +kernel
  have hline (command : SetCommand) (h : ∀ text ∈ command.sourceId :: (command.cookies ++ command.tokens), IsPlain text) :
      Sets [] world.files.home store (command.arguments none) command := command.sets_arguments (by simp) hstore h
  constructor
  · intro h
    have hsucceeds := h world _ _ hstart (hline ⟨"a", ["=v"], []⟩ (by decide)) (by decide)
    have hrefused : Options.parse [] (SetCommand.arguments none ⟨"a", ["=v"], []⟩) =
        .error (.mistake (.notPair "ORIGIN=COOKIE" "=v")) := by decide +kernel
    rw [run_of_refused hrefused] at hsucceeds
    exact hsucceeds
  · intro h
    let command : SetCommand := ⟨"a", ["a.test=k"], []⟩
    have hsets : ∀ set ∈ [(command.arguments none, command)],
        Sets [] world.files.home store set.1 set.2 ∧ set.2.sourceId ≠ "" :=
      List.forall_mem_singleton.mpr ⟨hline command (by decide), by decide⟩
    have hget : Gets [] world.files.home store (getArguments none "a" (some "")) "a" (some "") :=
      gets_getArguments (by simp) hstore "a" (some "") (by decide) (by decide)
    obtain ⟨record?, lines, hrecord, hclaimed⟩ := h world _ _ _ _ hstart hsets hget
    have hremembers := (hstart.remembers.runAll_sets (fun _ => .ok []) hsets).1
    obtain ⟨lines', hshown⟩ := hremembers.run_gets (fun _ => .ok []) hget
    rw [hshown, hrecord.eq_recordOf?] at hclaimed
    have hdiffers : (Output.value (shown "a" (recordOf? "a" (accepted "a" [⟨"a", ["a.test=k"], []⟩])) (some ""))).print ≠
        (Output.value (.object [("sourceId", .text "a"),
          ("cookie", .text (chosenCookie (recordOf? "a" (accepted "a" [⟨"a", ["a.test=k"], []⟩])) ""))])).print := by
      decide +kernel
    exact hdiffers (Ending.done.inj hclaimed).2.1

end SiteReader.Command
