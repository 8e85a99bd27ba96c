import Mathlib.Data.List.Forall2
import SiteReader.Command.Run
import SiteReader.Proofs.Credential.Lasting
import SiteReader.Proofs.Entry
import SiteReader.Proofs.Gateway.Files

/-!
# Commands that work with a store

A command that sets cookies can leave a store that cannot be read, but only if the source it names is the empty text
(`store_readable_iff`).  As long as no command does so, a store that can be read stays so, and every command that reads
or sets cookies succeeds (`run_lasts`, `runAll_lasts`).
-/

namespace SiteReader

namespace Command

open CredentialStore (Lasts)
open Gateway (LooksUp Resolver Session World)

variable {τ : Type} [Clock τ]

/-! ### What a command comes to -/

/-- The store that a command works with, where relative names are told from a home folder. -/
def Options.store (environment : List (String × String)) (home : FilePath) (options : Options) : CredentialStore :=
  ⟨(options.authFile?.map FilePath.ofText).getD (CredentialStore.usualPath environment home)⟩

/-- The world that a command begins in: no note was taken, and the user was told nothing. -/
def begun (world : World τ) : World τ :=
  { world with notes := Notes.empty, progress := [] }

/-- How a command ends that came to a result. -/
def Ending.ofResult (lines : List String) : Except Failure Output → Ending
  | .ok output => .done 0 output.print lines
  | .error failure => match failure.kind? with
    | some _ => .done 1 (Output.value failure.report.payload).print lines
    | none => .broken failure

theorem run_of_refused {environment : List (String × String)} {arguments : List String} {reason : Refused}
    (h : Options.parse environment arguments = .error reason) (resolver : Resolver) (world : World τ) :
    (run environment resolver arguments).run world = (.refused reason, world) := by
  unfold run
  rw [h]
  rfl

theorem exists_run {environment : List (String × String)} {arguments : List String} {options : Options}
    (h : Options.parse environment arguments = .ok options) (resolver : Resolver) (world : World τ) :
    ∃ lines, (run environment resolver arguments).run world =
      let ended := outcome (runTask resolver (options.store environment world.files.home) options.task) (begun world)
      (Ending.ofResult lines ended.1, ended.2) := by
  -- the steps below are those of every task, and none of them looks into it
  obtain ⟨task, ht⟩ : ∃ task : CredentialStore → Session τ Output,
      ∀ store, runTask resolver store options.task = task store := ⟨_, fun _ => rfl⟩
  unfold run Options.store
  rw [h]
  simp only [ht, StateT.run_bind, StateT.run_modify, StateT.run_get, pure_bind]
  generalize (options.authFile?.map FilePath.ofText).getD _ = path
  rcases he : outcome (task ⟨path⟩) (begun world) with ⟨result, ended⟩
  refine ⟨if options.quiet then []
    else ended.progress ++ ended.notes.warnings.map fun warning => "Warning: " ++ warning.message, ?_⟩
  rw [show (task ⟨path⟩).run.run { world with notes := Notes.empty, progress := [] } = (result, ended) from he]
  cases result with
  | ok output => rfl
  | error failure => cases hk : failure.kind? <;> simp only [Ending.ofResult, bind, hk] <;> rfl

/-! ### What a task does to the files -/

section Fetching

variable {P : FileSystem → Prop}

omit [Clock τ] in
theorem keeps_sourceOf (options : FetchOptions) : Session.Keeps (τ := τ) P (sourceOf options) := by
  unfold sourceOf
  dsimp only
  split
  next => exact .pure _
  next =>
    split
    next => exact .pure _
    next =>
      refine .bind .get fun world => ?_
      split
      next => exact .throw _
      next sources _ =>
        split
        next => exact .throw _
        next => split <;> first | exact .pure _ | exact .throw _

theorem keeps_runFetch (client : Client) (h : client.gateway.LooksUp P) (options : FetchOptions) :
    Session.Keeps (τ := τ) P (runFetch client options) := by
  unfold runFetch
  dsimp only
  refine .bind (keeps_sourceOf options) fun source? => .bind (Session.keeps_tell _) fun _ => ?_
  split
  next =>
    refine .bind (.bind (Client.keeps_document h _ _ _) fun _ => Session.keeps_ofNoted _) fun rows =>
      .bind (Session.keeps_tell _) fun _ => ?_
    split
    next => exact .throw _
    next => exact .pure _
  next =>
    split
    next =>
      refine .bind (.bind (Client.keeps_document h _ _ _) fun _ => Session.keeps_ofNoted _) fun text => ?_
      split
      next => exact .throw _
      next => exact .pure _
    next =>
      refine .bind (Client.keeps_document h _ _ _) fun document => ?_
      split <;> exact .pure _

end Fetching

variable {store : CredentialStore} {home : FilePath} {world : World τ}

omit [Clock τ] in
theorem runCookieGet_lasts (h : store.Lasts home world.files) (sourceId : String) (url? : Option String) :
    ∃ output world', outcome (runCookieGet store sourceId url?) world = (.ok output, world') ∧
      store.Lasts home world'.files := by
  unfold runCookieGet
  split
  next =>
    obtain ⟨cookie, fs', hc, hfs⟩ := h.cookieFor sourceId (url?.getD "")
    rw [outcome_bind, Gateway.outcome_ofFiled, hc]
    exact ⟨_, { world with files := fs' }, rfl, hfs⟩
  next =>
    obtain ⟨record?, fs', hf, hfs, -⟩ := h.find sourceId
    rw [outcome_bind, Gateway.outcome_ofFiled, hf]
    cases record? <;> exact ⟨_, { world with files := fs' }, rfl, hfs⟩

omit [Clock τ] in
theorem readable_of_runCookieGet (world : World τ) {sourceId : String} {output : Output}
    (h : (outcome (runCookieGet store sourceId none) world).1 = .ok output) : store.Readable world.files := by
  unfold runCookieGet at h
  simp only [isGiven, Option.any_none, Bool.false_eq_true, ↓reduceIte] at h
  rw [outcome_bind, Gateway.outcome_ofFiled, CredentialStore.outcome_find] at h
  rcases hr : outcome store.read world.files with ⟨failure | records, fs⟩
  · rw [hr] at h
    cases h
  · exact ⟨records, by rw [hr]⟩

/-- The record that a command puts into the store. -/
def changedRecord (sourceId : String) (cookies tokens : List (String × String)) (record? : Option Credential) :
    Credential :=
  let record := record?.getD ⟨sourceId, [], []⟩
  { record with cookies := updateEntries record.cookies cookies, tokens := updateEntries record.tokens tokens }

theorem keyed_changedRecord {record? : Option Credential} (h : ∀ record ∈ record?, record.Keyed) (sourceId : String)
    (cookies tokens : List (String × String)) :
    (changedRecord sourceId cookies tokens record?).Keyed := by
  cases record? with
  | none => exact ⟨nodup_distinctEntries cookies, nodup_distinctEntries tokens⟩
  | some record =>
    exact ⟨nodup_updateEntries (h record rfl).cookies cookies, nodup_updateEntries (h record rfl).tokens tokens⟩

theorem sourceId_changedRecord {sourceId : String} {record? : Option Credential}
    (h : ∀ record ∈ record?, record.sourceId = sourceId) (cookies tokens : List (String × String)) :
    (changedRecord sourceId cookies tokens record?).sourceId = sourceId := by
  cases record? with
  | none => rfl
  | some record => exact h record rfl

omit [Clock τ] in
theorem outcome_runCookieSet {sourceId : String} {record? : Option Credential} {fs : FileSystem}
    (h : outcome (store.find? sourceId) world.files = (.ok record?, fs)) (cookies tokens : List (String × String)) :
    ∃ world', outcome (runCookieSet store sourceId cookies tokens) world =
        ((outcome (store.upsert (changedRecord sourceId cookies tokens record?)) fs).1.map fun _ =>
          .value (changedRecord sourceId cookies tokens record?).toTree, world') ∧
      world'.files = (outcome (store.upsert (changedRecord sourceId cookies tokens record?)) fs).2 := by
  unfold runCookieSet changedRecord
  rw [outcome_bind, Gateway.outcome_ofFiled, h]
  simp only [outcome_bind, Gateway.outcome_ofFiled]
  rcases outcome (store.upsert _) fs with ⟨failure | _, fs'⟩
  · exact ⟨_, rfl, rfl⟩
  · exact ⟨_, rfl, rfl⟩

omit [Clock τ] in
/-- A command that sets cookies leaves a store that can be read if and only if it told the source. -/
theorem readable_of_runCookieSet {sourceId : String} {cookies tokens : List (String × String)} {output : Output}
    {world' : World τ} (h : outcome (runCookieSet store sourceId cookies tokens) world = (.ok output, world')) :
    store.Readable world'.files ↔ sourceId ≠ "" := by
  rcases hf : outcome (store.find? sourceId) world.files with ⟨failure | record?, fs⟩
  · unfold runCookieSet at h
    rw [outcome_bind, Gateway.outcome_ofFiled, hf] at h
    cases h
  · have hrecord := CredentialStore.storable_of_find hf
    have hkeyed := keyed_changedRecord (fun record hr => (hrecord record hr).1.toKeyed) sourceId cookies tokens
    have hsource := sourceId_changedRecord (fun record hr => (hrecord record hr).2) cookies tokens
    obtain ⟨ended, hset, hfiles⟩ := outcome_runCookieSet hf cookies tokens
    rcases hu : outcome (store.upsert (changedRecord sourceId cookies tokens record?)) fs with ⟨failure | _, fs'⟩
    · rw [hset, hu] at h
      cases h
    · rw [hset, hu] at h
      cases h
      rw [hfiles, hu, CredentialStore.readable_of_upsert hkeyed hu, hsource]

omit [Clock τ] in
theorem keeps_home_runCookieSet (store : CredentialStore) (home : FilePath) (sourceId : String)
    (cookies tokens : List (String × String)) :
    Session.Keeps (τ := τ) (fun fs => fs.home = home) (runCookieSet store sourceId cookies tokens) :=
  .bind (Session.keeps_ofFiled (CredentialStore.preserves_find (store.preserves_home_read home) sourceId)) fun _ =>
    .bind (Session.keeps_ofFiled (store.preserves_home_upsert _ home)) fun _ =>
      .bind (Session.keeps_tell (P := fun fs => fs.home = home) _) fun _ => .pure _

omit [Clock τ] in
theorem runCookieSet_succeeds (world : World τ) (h : store.Readable world.files) (sourceId : String)
    (cookies tokens : List (String × String)) :
    ∃ output world', outcome (runCookieSet store sourceId cookies tokens) world = (.ok output, world') := by
  obtain ⟨record?, fs, hf, hfs, -⟩ := (Lasts.mk rfl h).find sourceId
  obtain ⟨fs', hu⟩ := hfs.readable.exists_upsert (changedRecord sourceId cookies tokens record?)
  obtain ⟨world', hset, -⟩ := outcome_runCookieSet hf cookies tokens
  rw [hu] at hset
  exact ⟨_, world', hset⟩

omit [Clock τ] in
theorem runCookieSet_lasts (h : store.Lasts home world.files) {sourceId : String} (hid : sourceId ≠ "")
    (cookies tokens : List (String × String)) :
    ∃ output world', outcome (runCookieSet store sourceId cookies tokens) world = (.ok output, world') ∧
      store.Lasts home world'.files := by
  obtain ⟨output, world', hset⟩ := runCookieSet_succeeds world h.readable sourceId cookies tokens
  have hhome := keeps_home_runCookieSet store home sourceId cookies tokens world h.home_eq
  rw [hset] at hhome
  exact ⟨output, world', hset, hhome, (readable_of_runCookieSet hset).mpr hid⟩

/-! ### Commands one after the other -/

/-- Unless the task sets cookies, it changes no record; if it does, it tells the source. -/
def Task.TellsSource : Task → Prop
  | .cookie (.set _ _) sourceId _ => sourceId ≠ ""
  | _ => True

def Task.IsCookie : Task → Prop
  | .cookie _ _ _ => True
  | _ => False

theorem runTask_lasts (resolver : Resolver) {task : Task} (ht : task.TellsSource) (world : World τ)
    (h : store.Lasts home world.files) :
    store.Lasts home (outcome (runTask resolver store task) world).2.files ∧
      (task.IsCookie → ∃ output, (outcome (runTask resolver store task) world).1 = .ok output) := by
  have hcookie {x : Session τ Output} (hx : ∃ output world', outcome x world = (.ok output, world') ∧
      store.Lasts home world'.files) : store.Lasts home (outcome x world).2.files ∧
        ∃ output, (outcome x world).1 = .ok output := by
    obtain ⟨output, world', he, hl⟩ := hx
    rw [he]
    exact ⟨hl, output, rfl⟩
  cases task with
  | fetch options =>
    have hlook : LooksUp (store.Lasts home) (Gateway.mk .standard resolver (some store)) := by
      intro _ hs sourceId url
      obtain rfl := Option.some.inj hs
      exact CredentialStore.preserves_cookieFor Lasts.preserves_read sourceId url
    have hkeeps : Session.Keeps (store.Lasts home) (runTask resolver store (.fetch options) : Session τ Output) :=
      keeps_runFetch ⟨_, none⟩ hlook options
    exact ⟨hkeeps world h, nofun⟩
  | check url =>
    have hkeeps : Session.Keeps (store.Lasts home) (runTask resolver store (.check url) : Session τ Output) :=
      .bind (Session.keeps_ofExcept _) fun _ => .pure _
    exact ⟨hkeeps world h, nofun⟩
  | cookie action sourceId url? =>
    cases action with
    | get => exact (hcookie (runCookieGet_lasts h sourceId url?)).imp_right fun hok _ => hok
    | set cookies tokens => exact (hcookie (runCookieSet_lasts h ht cookies tokens)).imp_right fun hok _ => hok

/-- A command line, where relative names are told from a home folder, works with the store and leaves it readable. -/
def Respects (environment : List (String × String)) (home : FilePath) (store : CredentialStore) (line : List String) :
    Prop :=
  ∀ options, Options.parse environment line = .ok options →
    options.store environment home = store ∧ options.task.TellsSource

/-- A command line that reads or sets cookies. -/
def AsksForCookies (environment : List (String × String)) (line : List String) : Prop :=
  ∃ options, Options.parse environment line = .ok options ∧ options.task.IsCookie

def Ending.Succeeds : Ending → Prop
  | .done exitCode _ _ => exitCode = 0
  | _ => False

theorem Ending.succeeds_ofResult {lines : List String} {result : Except Failure Output} :
    (ofResult lines result).Succeeds ↔ ∃ output, result = .ok output := by
  cases result with
  | ok output => exact iff_of_true rfl ⟨output, rfl⟩
  | error failure =>
    refine iff_of_false (fun h => ?_) nofun
    unfold ofResult at h
    cases hk : failure.kind? <;> simp [hk, Succeeds] at h

theorem run_lasts {environment : List (String × String)} {line : List String} (resolver : Resolver)
    (hline : Respects environment home store line) (h : store.Lasts home world.files) :
    store.Lasts home ((run environment resolver line).run world).2.files ∧
      (AsksForCookies environment line → ((run environment resolver line).run world).1.Succeeds) := by
  cases hp : Options.parse environment line with
  | error reason =>
    rw [run_of_refused hp resolver world]
    exact ⟨h, fun ⟨options, ho, _⟩ => by cases hp.symm.trans ho⟩
  | ok options =>
    obtain ⟨rfl, ht⟩ := hline options hp
    obtain ⟨lines, hrun⟩ := exists_run hp resolver world
    rw [h.home_eq] at hrun
    rw [hrun]
    obtain ⟨hlasts, hok⟩ := runTask_lasts resolver ht (begun world) h
    refine ⟨hlasts, fun ⟨asked, ho, hcookie⟩ => ?_⟩
    obtain rfl := Except.ok.inj (hp.symm.trans ho)
    exact Ending.succeeds_ofResult.mpr (hok hcookie)

/-- Runs command lines one after the other. -/
def runAll (environment : List (String × String)) (resolver : Resolver) (lines : List (List String)) :
    StateM (World τ) (List Ending) :=
  lines.mapM (run environment resolver)

theorem runAll_lasts {environment : List (String × String)} {lines : List (List String)} (resolver : Resolver)
    (hlines : ∀ line ∈ lines, Respects environment home store line) (h : store.Lasts home world.files) :
    store.Lasts home ((runAll environment resolver lines).run world).2.files ∧
      List.Forall₂ (fun line ending => AsksForCookies environment line → ending.Succeeds) lines
        ((runAll environment resolver lines).run world).1 := by
  unfold runAll
  induction lines generalizing world with
  | nil => exact ⟨h, .nil⟩
  | cons line rest ih =>
    obtain ⟨hlasts, hsucceeds⟩ := run_lasts resolver (hlines line List.mem_cons_self) h
    obtain ⟨hall, hrest⟩ := ih (fun line hm => hlines line (List.mem_cons_of_mem _ hm)) hlasts
    simp only [List.mapM_cons, StateT.run_bind, StateT.run_pure]
    exact ⟨hall, .cons hsucceeds hrest⟩

/-! ### Stores that can be read after a command -/

section OneCommand

variable {environment : List (String × String)} {line : List String} {options : Options} {resolver : Resolver}
  {cookies tokens : List (String × String)} {sourceId : String} {url? : Option String}

theorem run_set_succeeds (resolver : Resolver) (world : World τ) (hp : Options.parse environment line = .ok options)
    (ht : options.task = .cookie (.set cookies tokens) sourceId url?)
    (h : (options.store environment world.files.home).Readable world.files) :
    ((run environment resolver line).run world).1.Succeeds := by
  obtain ⟨lines, hrun⟩ := exists_run hp resolver world
  obtain ⟨output, world', hset⟩ := runCookieSet_succeeds (begun world) h sourceId cookies tokens
  rw [hrun, ht]
  exact Ending.succeeds_ofResult.mpr ⟨output, congrArg Prod.fst hset⟩

theorem run_set_readable (hp : Options.parse environment line = .ok options)
    (ht : options.task = .cookie (.set cookies tokens) sourceId url?)
    (h : ((run environment resolver line).run world).1.Succeeds) :
    ((run environment resolver line).run world).2.files.home = world.files.home ∧
      ((options.store environment world.files.home).Readable ((run environment resolver line).run world).2.files ↔
        sourceId ≠ "") := by
  obtain ⟨lines, hrun⟩ := exists_run hp resolver world
  rw [hrun, ht] at h ⊢
  obtain ⟨output, hout⟩ := Ending.succeeds_ofResult.mp h
  exact ⟨keeps_home_runCookieSet _ _ sourceId cookies tokens (begun world) rfl,
    readable_of_runCookieSet (Prod.ext hout rfl)⟩

theorem readable_of_run_get (hp : Options.parse environment line = .ok options)
    (ht : options.task = .cookie .get sourceId none) (h : ((run environment resolver line).run world).1.Succeeds) :
    (options.store environment world.files.home).Readable world.files := by
  obtain ⟨lines, hrun⟩ := exists_run hp resolver world
  rw [hrun, ht] at h
  obtain ⟨output, hout⟩ := Ending.succeeds_ofResult.mp h
  exact readable_of_runCookieGet (begun world) hout

/-- Once the empty source was named, no record of the same store can be read. -/
theorem run_get_fails (hp : Options.parse environment line = .ok options)
    (ht : options.task = .cookie (.set cookies tokens) "" url?)
    (h : ((run environment resolver line).run world).1.Succeeds) {line' : List String} {options' : Options}
    (hp' : Options.parse environment line' = .ok options') (ht' : options'.task = .cookie .get sourceId none)
    (ha : options'.authFile? = options.authFile?) :
    ¬ ((run environment resolver line').run ((run environment resolver line).run world).2).1.Succeeds := by
  intro h'
  obtain ⟨hhome, hreadable⟩ := run_set_readable hp ht h
  have hread := readable_of_run_get hp' ht' h'
  rw [hhome, show options'.store environment world.files.home = options.store environment world.files.home by
    rw [Options.store, ha, Options.store]] at hread
  exact hreadable.mp hread rfl

end OneCommand

/-- After a list of records was written, after a record was added, and after a command that sets cookies, the store can be
read if and only if each of the written records, or the command, tells its source.  Then every later command that reads or
sets cookies succeeds as well, as long as the later ones tell their sources. -/
theorem store_readable_iff (store : CredentialStore) :
    (∀ {fs fs' : FileSystem} {records : List Credential}, (∀ record ∈ records, record.Keyed) →
      outcome (store.write records) fs = (.ok (), fs') →
      (store.Readable fs' ↔ ∀ record ∈ records, record.sourceId ≠ "")) ∧
    (∀ {fs fs' : FileSystem} {record : Credential}, record.Keyed → outcome (store.upsert record) fs = (.ok (), fs') →
      (store.Readable fs' ↔ record.sourceId ≠ "")) ∧
    ∀ {τ : Type} [Clock τ] {environment : List (String × String)} {resolver : Resolver} {line : List String}
      {options : Options} {cookies tokens : List (String × String)} {sourceId : String} {url? : Option String}
      {world : World τ},
      Options.parse environment line = .ok options → options.task = .cookie (.set cookies tokens) sourceId url? →
      options.store environment world.files.home = store → ((run environment resolver line).run world).1.Succeeds →
      (store.Readable ((run environment resolver line).run world).2.files ↔ sourceId ≠ "") ∧
      (sourceId ≠ "" → ∀ later resolver', (∀ line ∈ later, Respects environment world.files.home store line) →
        List.Forall₂ (fun line ending => AsksForCookies environment line → ending.Succeeds) later
          ((runAll environment resolver' later).run ((run environment resolver line).run world).2).1) := by
  refine ⟨fun hk h => CredentialStore.readable_of_write hk h, fun hk h => CredentialStore.readable_of_upsert hk h, ?_⟩
  rintro τ _ environment resolver line options cookies tokens sourceId url? world hp ht rfl h
  obtain ⟨hhome, hreadable⟩ := run_set_readable hp ht h
  exact ⟨hreadable, fun hid later resolver' hlater => (runAll_lasts resolver' hlater ⟨hhome, hreadable.mpr hid⟩).2⟩

theorem store_readable_after_set :
    (∃ fs', outcome (CredentialStore.write ⟨⟨"/", ["auth.json"]⟩⟩ [⟨"a", [], []⟩, ⟨"", [], []⟩]) ⟨⟨"/", []⟩, []⟩ =
        (.ok (), fs') ∧
      (CredentialStore.Readable ⟨⟨"/", ["auth.json"]⟩⟩ fs' ↔
        ∀ record ∈ ([⟨"a", [], []⟩, ⟨"", [], []⟩] : List Credential), record.sourceId ≠ "")) ∧
    (∃ fs', outcome (CredentialStore.upsert ⟨⟨"/", ["auth.json"]⟩⟩ ⟨"a", [("a.test", "k")], []⟩) ⟨⟨"/", []⟩, []⟩ =
        (.ok (), fs') ∧
      (CredentialStore.Readable ⟨⟨"/", ["auth.json"]⟩⟩ fs' ↔ "a" ≠ "")) ∧
    Options.parse [] ["cookie", "set", "a", "a.test=k"] =
      .ok ⟨.cookie (.set [("a.test", "k")] []) "a" none, none, false, false⟩ ∧
    ((run [] (fun _ => .ok []) ["cookie", "set", "a", "a.test=k"]).run
      (World.start Rat ⟨"/", []⟩ ⟨200, [], [], .whole 0, none⟩)).1.Succeeds ∧
    Respects [] ⟨"/", []⟩ ⟨⟨"/", ["book_source_auth.json"]⟩⟩ ["cookie", "get", "b"] ∧
    List.Forall₂ (fun line ending => AsksForCookies [] line → ending.Succeeds) [["cookie", "get", "b"]]
      ((runAll [] (fun _ => .ok []) [["cookie", "get", "b"]]).run
        ((run [] (fun _ => .ok []) ["cookie", "set", "a", "a.test=k"]).run
          (World.start Rat ⟨"/", []⟩ ⟨200, [], [], .whole 0, none⟩)).2).1 := by
  have hset : Options.parse [] ["cookie", "set", "a", "a.test=k"] =
      .ok ⟨.cookie (.set [("a.test", "k")] []) "a" none, none, false, false⟩ := by decide +kernel
  have hget : Options.parse [] ["cookie", "get", "b"] = .ok ⟨.cookie .get "b" none, none, false, false⟩ := by
    decide +kernel
  have hruns := fun world : World Rat => run_set_succeeds (fun _ => .ok []) world hset rfl
  have hsucceeds := hruns (World.start Rat ⟨"/", []⟩ ⟨200, [], [], .whole 0, none⟩) (CredentialStore.readable_of_missing rfl)
  have hrespects : Respects [] ⟨"/", []⟩ ⟨⟨"/", ["book_source_auth.json"]⟩⟩ ["cookie", "get", "b"] := by
    intro options ho
    obtain rfl := Except.ok.inj (hget.symm.trans ho)
    exact ⟨rfl, trivial⟩
  have hlater := ((store_readable_iff ⟨⟨"/", ["book_source_auth.json"]⟩⟩).2.2 hset rfl rfl hsucceeds).2 (by decide)
    [["cookie", "get", "b"]] (fun _ => .ok []) fun line hline => List.mem_singleton.mp hline ▸ hrespects
  refine ⟨?_, ?_, hset, hsucceeds, hrespects, hlater⟩
  · have hopen : FileSystem.openFile ⟨⟨"/", []⟩, []⟩ (CredentialStore.mk ⟨"/", ["auth.json"]⟩).path ≠ .refused := nofun
    obtain ⟨fs', hw⟩ := CredentialStore.exists_outcome_write hopen [⟨"a", [], []⟩, ⟨"", [], []⟩]
    have hkeyed : ∀ record ∈ ([⟨"a", [], []⟩, ⟨"", [], []⟩] : List Credential), record.Keyed := by
      simp only [List.mem_cons, List.not_mem_nil, or_false, forall_eq_or_imp, forall_eq]
      exact ⟨⟨.nil, .nil⟩, ⟨.nil, .nil⟩⟩
    exact ⟨fs', hw, (store_readable_iff _).1 hkeyed hw⟩
  · have hreadable : CredentialStore.Readable ⟨⟨"/", ["auth.json"]⟩⟩ ⟨⟨"/", []⟩, []⟩ :=
      CredentialStore.readable_of_missing rfl
    obtain ⟨fs', hu⟩ := hreadable.exists_upsert ⟨"a", [("a.test", "k")], []⟩
    exact ⟨fs', hu, (store_readable_iff _).2.1 ⟨by decide, by decide⟩ hu⟩

/-- A command that names the empty source succeeds, and no record can be read after it. -/
theorem store_unreadable_after_unnamed :
    let set := (run [] (fun _ => .ok []) ["cookie", "set", "", "a.test=k"]).run
      (World.start Rat ⟨"/", []⟩ ⟨200, [], [], .whole 0, none⟩)
    set.1.Succeeds ∧ ¬ ((run [] (fun _ => .ok []) ["cookie", "get", "b"]).run set.2).1.Succeeds := by
  have hset : Options.parse [] ["cookie", "set", "", "a.test=k"] =
      .ok ⟨.cookie (.set [("a.test", "k")] []) "" none, none, false, false⟩ := by decide +kernel
  have hget : Options.parse [] ["cookie", "get", "b"] = .ok ⟨.cookie .get "b" none, none, false, false⟩ := by
    decide +kernel
  have hruns := fun world : World Rat => run_set_succeeds (fun _ => .ok []) world hset rfl
  have hsucceeds := hruns (World.start Rat ⟨"/", []⟩ ⟨200, [], [], .whole 0, none⟩) (CredentialStore.readable_of_missing rfl)
  exact ⟨hsucceeds, run_get_fails hset rfl hsucceeds hget rfl rfl⟩

end Command

end SiteReader
