-- SUMMARY: The search command sends what the translate command prints, and fails where that fails.
import FieldedSearch.CommandLine.Program
import FieldedSearch.Proofs.Acceptance
import FieldedSearch.Proofs.Escaping
import FieldedSearch.Proofs.Sessions

/-!
# Searching and translating

The two commands come to a request in different ways: one translates the filter by the
registry of the settings, the other leaves this to a searcher, which takes the registry of
the filter and an endpoint that may be missing. `search_follows_translate` says that for the
same arguments, and with an endpoint, they come to the same request, or fail alike. What it
says of transcripts holds of what the commands print; the log of `--debug`, in which the two
differ, is not in them.
-/

namespace FieldedSearch.CommandLine

variable {path : Option String} {table : List (String × Value)} {loaded : Settings.Loaded}
  {mode : Mode} {t : Transcript} {query endpoint : String} {f : Filter}
  {offset size : Int} {e : Failure} {w : World} {arguments arguments' : List String}
  {command : Command} {pageSize : Option Int} {encode : Bool} {format : Format}

/-! ## How a run has ended -/

namespace Transcript

theorem result_of_running (h : t.ending = none) : t.result = (0, none) := by
  rw [result, h]

theorem result_exit (h : t.ending = none) (code : Nat) : (t.exit code).result = (code, none) := by
  simp [result, exit, h]

theorem result_fail (h : t.ending = none) (e : Failure) : (t.fail e).result = (1, some e) := by
  simp [result, fail, h]

theorem ending_warnings (t : Transcript) (messages : List String) :
    (messages.foldl warning t).ending = t.ending := by
  induction messages generalizing t with
  | nil => rfl
  | cons message messages ih => exact (ih _).trans (ending_warning t message)

end Transcript

open Transcript

/-! ## What every command begins with -/

/-- What is printed before a command is carried out. -/
def opening (mode : Mode) (loaded : Settings.Loaded) : Transcript :=
  if mode.quiet then .empty else loaded.warnings.foldl warning .empty

/-- The warnings of accepted settings do not end the run. -/
theorem ending_opening (mode : Mode) (loaded : Settings.Loaded) :
    (opening mode loaded).ending = none := by
  unfold opening
  split
  · rfl
  · exact ending_warnings .empty _

/-- The arguments ask for a command. -/
def Asks (arguments : List String) (mode : Mode) (command : Command) : Prop :=
  ∃ name rest, begin arguments = .ok (mode, name, rest) ∧
    ∀ t, readCommand t name rest = .ok command

/-- The settings that a run finds in a world. -/
def World.settings (w : World) (path : Option String) : Except Failure Settings.Loaded :=
  ((loadSettings (surroundings w.directory.place) path).run w).1

/-- Loading the settings changes nothing. -/
theorem run_loadSettings (w : World) (path : Option String) :
    (loadSettings (World.surroundings w.directory.place) path).run w = (w.settings path, w) := by
  unfold World.settings loadSettings
  cases Settings.location (World.surroundings w.directory.place).place path <;> rfl

/-- A run carries out the command that the arguments ask for. -/
theorem run_of_asks (h : Asks arguments mode command)
    (hsettings : w.settings mode.path = .ok loaded) :
    w.run arguments =
      (perform (World.surroundings w.directory.place) (opening mode loaded) mode loaded
        command).run w := by
  obtain ⟨name, rest, hbegin, hcommand⟩ := h
  have hload := run_loadSettings w mode.path
  rw [hsettings] at hload
  have hsettle : settle .empty mode (.ok loaded) = .ok (opening mode loaded, loaded) := rfl
  unfold World.run run
  rw [hbegin]
  dsimp only
  rw [StateT.run_bind, hload]
  simp only [bind, hsettle, hcommand]

theorem World.settings_eq (w : World) (path : Option String) : w.settings path = (do
    let l ← Settings.location w.directory.place path
    Settings.load l (← w.directory.state l)) := by
  unfold settings loadSettings
  have hplace : (surroundings w.directory.place).place = w.directory.place := rfl
  rw [hplace]
  cases Settings.location w.directory.place path <;> rfl

theorem settings_of_accept {warnings : List String} {settings : Settings}
    (h : Settings.accept warnings settings = .ok loaded) : loaded.settings = settings := by
  obtain ⟨registry, -, h⟩ := exists_of_bind_eq_ok h
  obtain rfl := Except.ok.inj h
  rfl

/-- Settings with an endpoint come from a table that was accepted. -/
theorem exists_acceptTable (h : w.settings path = .ok loaded)
    (hendpoint : loaded.settings.endpoint = some endpoint) :
    ∃ path table, Settings.acceptTable path table = .ok loaded := by
  rw [World.settings_eq] at h
  obtain ⟨l, -, h⟩ := exists_of_bind_eq_ok h
  obtain ⟨files, -, hload⟩ := exists_of_bind_eq_ok h
  cases files with
  | absent =>
    -- the standard settings have no endpoint
    rw [settings_of_accept hload] at hendpoint
    cases hendpoint
  | directory => cases hload
  | file content =>
    simp only [Settings.load] at hload
    split at hload
    · cases hload
    · obtain ⟨table, -, hload⟩ := exists_of_bind_eq_ok hload
      exact ⟨_, table, hload⟩

/-! ## What both commands do with a filter -/

/-- The run in which the filter is told where that is wanted. -/
def noted (t : Transcript) (mode : Mode) (f : Filter) : Transcript :=
  if mode.verbose then t.info ("Filter: " ++ f.toQuery) else t

theorem ending_noted (t : Transcript) (mode : Mode) (f : Filter) :
    (noted t mode f).ending = t.ending := by
  unfold noted
  split
  · exact ending_info t _
  · rfl

/-- The request for a filter, if it can be made and written. -/
def requestFor (loaded : Settings.Loaded) (f : Filter) (offset size : Int) :
    Except Failure Request := do
  let q ← Request.ofFilter (some loaded.registry) f offset size
  if q.isWritable then return q else throw .notWritable

/-- The request for a search string, if it can be made and written. -/
def translation (loaded : Settings.Loaded) (query : String) (offset : Int)
    (pageSize : Option Int) : Except Failure Request := do
  let f ← buildFilter loaded query true
  requestFor loaded f offset (pageSize.getD loaded.settings.pageSize)

/-- Showing the request for a filter shows it if it can be written. -/
theorem showRequest_eq (t : Transcript) (encode : Bool) :
    t.showRequest encode (Request.ofFilter (some loaded.registry) f offset size) =
      match requestFor loaded f offset size with
      | .ok q => t.writeLine (if encode then Text.urlEncoded q.parameters else q.queryString)
      | .error e =>
        if e.category = .query then (t.error e.message).exit queryError else t.fail e := by
  have hunreported : Failure.notWritable.category ≠ .query := by decide
  unfold showRequest requestFor
  cases Request.ofFilter (some loaded.registry) f offset size with
  | error e => rfl
  | ok q =>
    rw [ok_bind]
    by_cases hwritable : q.isWritable
    · simp only [if_pos hwritable]
      rfl
    · simp only [if_neg hwritable]
      exact (if_neg hunreported).symm

/-- Where the settings have an endpoint, a searcher sends the request for the filter. -/
theorem sending_searcherFor (hregistry : f.registry = loaded.registry)
    (hendpoint : loaded.settings.endpoint = some endpoint) (hne : endpoint ≠ "") :
    (searcherFor loaded f).sending offset size = (requestFor loaded f offset size).map fun q =>
      ⟨endpoint, q.parameters, loaded.settings.timeout.toValue, loaded.settings.verify⟩ := by
  have hdestination : (searcherFor loaded f).destination =
      .ok (endpoint, loaded.settings.options) :=
    Search.Searcher.destination_eq_ok_iff.2 ⟨rfl, hendpoint, hne⟩
  have hrequest : (searcherFor loaded f).request offset size =
      Request.ofFilter (some loaded.registry) f offset size := by
    rw [← hregistry]
    rfl
  unfold Search.Searcher.sending requestFor
  rw [hdestination, ok_bind, hrequest]
  cases Request.ofFilter (some loaded.registry) f offset size with
  | error e => rfl
  | ok q =>
    simp only [ok_bind]
    cases q.isWritable <;> rfl

/-- A request that cannot be made is reported as a failure of the query, or not at all. -/
theorem category_of_requestFor (h : requestFor loaded f offset size = .error e) :
    e.category = .query ∨ e.category = .internal := by
  rcases bind_eq_error_iff.1 h with h | ⟨q, -, h⟩
  · rcases Request.ofFilter_eq_error h with ⟨-, rfl⟩ | ⟨-, rfl⟩ | h
    · exact .inr rfl
    · exact .inr rfl
    · obtain ⟨g, -, entry, -, c, -, hc⟩ := BooleanQuery.exists_of_ofFilter_eq_error h
      cases hc with
      | unmapped _ => exact .inl rfl
      | unprepared d _ _ he =>
        rcases BooleanQuery.prepare_eq_error he with rfl | rfl | ⟨v, rfl⟩ | ⟨s, rfl⟩
        · exact .inr rfl
        · exact .inr rfl
        · exact .inr rfl
        · exact .inl rfl
      | unsupported _ _ _ _ => exact .inl rfl
  · split at h
    · cases h
    · obtain rfl := Except.error.inj h
      exact .inr rfl

/-! ## How failures are shown -/

/-- A failure of the query is shown without a hint. -/
theorem showSearchFailure_of_query (t : Transcript) (format : Format) (h : e.category = .query) :
    t.showSearchFailure format e =
      (if format = .json then t.writeLine (Json.write (Search.Problem.of e).toValue)
        else t.error e.message).exit queryError := by
  have hcode : searchExitCode? e = some queryError := by
    rw [searchExitCode?, h]
  have hsettings : e.category ≠ .searchSettings := by
    rw [h]
    decide
  unfold showSearchFailure
  rw [hcode]
  dsimp only
  split
  · rfl
  · refine congrArg (fun t : Transcript => t.exit queryError) ?_
    exact if_neg hsettings

theorem showSearchFailure_of_internal (t : Transcript) (format : Format)
    (h : e.category = .internal) : t.showSearchFailure format e = t.fail e := by
  have hcode : searchExitCode? e = none := by
    rw [searchExitCode?, h]
  unfold showSearchFailure
  rw [hcode]

/-! ## Both commands -/

/-- What is printed before the request for a search string is shown or sent. -/
def told (mode : Mode) (loaded : Settings.Loaded) (query : String) : Transcript :=
  noted (opening mode loaded) mode (filterFor loaded query true)

theorem ending_told (mode : Mode) (loaded : Settings.Loaded) (query : String) :
    (told mode loaded query).ending = none :=
  (ending_noted _ mode _).trans (ending_opening mode loaded)

/-- With accepted settings either there is a filter, and its request is the translation, or one
of its values cannot be written. -/
theorem withFilter_cases (h : Settings.acceptTable path table = .ok loaded) (mode : Mode)
    (query : String) :
    (withFilter (opening mode loaded) mode loaded query true =
        .ok (told mode loaded query, filterFor loaded query true) ∧
      ∀ offset pageSize, translation loaded query offset pageSize =
        requestFor loaded (filterFor loaded query true) offset
          (pageSize.getD loaded.settings.pageSize)) ∨
    ∃ v, withFilter (opening mode loaded) mode loaded query true =
        .error ((opening mode loaded).fail (.unwritable v)) ∧
      ∀ offset pageSize, translation loaded query offset pageSize = .error (.unwritable v) := by
  unfold withFilter translation
  rw [buildFilter_eq h]
  rcases (filterFor loaded query true).ifWritable_cases with ⟨-, hf⟩ | ⟨v, -, hf⟩ <;> rw [hf]
  · exact .inl ⟨rfl, fun _ _ => rfl⟩
  · exact .inr ⟨v, rfl, fun _ _ => rfl⟩

/-- Translating shows the translation, or reports why there is none. -/
theorem translateQuery_cases (h : Settings.acceptTable path table = .ok loaded) (mode : Mode)
    (query : String) (offset : Int) (pageSize : Option Int) (encode : Bool) :
    match translation loaded query offset pageSize with
    | .ok q => translateQuery (opening mode loaded) mode loaded query offset pageSize encode =
        (told mode loaded query).writeLine
          (if encode then Text.urlEncoded q.parameters else q.queryString)
    | .error e =>
      if e.category = .query then
        translateQuery (opening mode loaded) mode loaded query offset pageSize encode =
          ((told mode loaded query).error e.message).exit queryError
      else
        (translateQuery (opening mode loaded) mode loaded query offset pageSize encode).result =
          (1, some e) := by
  unfold translateQuery
  rcases withFilter_cases h mode query with ⟨hfilter, htranslation⟩ | ⟨v, hfilter, htranslation⟩
  · rw [hfilter, htranslation]
    dsimp only
    rw [showRequest_eq]
    cases requestFor loaded (filterFor loaded query true) offset
        (pageSize.getD loaded.settings.pageSize) with
    | ok q => rfl
    | error e =>
      dsimp only
      split
      · rfl
      · exact result_fail (ending_told mode loaded query) e
  · rw [hfilter, htranslation]
    exact result_fail (ending_opening mode loaded) (.unwritable v)

/-- Searching sends the translation, or reports why there is none and sends nothing. -/
theorem searchQuery_cases (h : Settings.acceptTable path table = .ok loaded)
    (hendpoint : loaded.settings.endpoint = some endpoint) (hne : endpoint ≠ "") (place : Place)
    (mode : Mode) (query : String) (format : Format) (offset : Int) (pageSize : Option Int)
    (w : World) :
    match translation loaded query offset pageSize with
    | .ok q => ((searchQuery (World.surroundings place) (opening mode loaded) mode loaded query
          format offset pageSize).run w).2.sent =
        ⟨endpoint, q.parameters, loaded.settings.timeout.toValue, loaded.settings.verify⟩ :: w.sent
    | .error e =>
      if e.category = .query then
        (searchQuery (World.surroundings place) (opening mode loaded) mode loaded query format
            offset pageSize).run w =
          ((if format = .json then
              (told mode loaded query).writeLine (Json.write (Search.Problem.of e).toValue)
            else (told mode loaded query).error e.message).exit queryError, w)
      else
        ∃ t, (searchQuery (World.surroundings place) (opening mode loaded) mode loaded query format
            offset pageSize).run w = (t, w) ∧ t.result = (1, some e) := by
  unfold searchQuery
  rcases withFilter_cases h mode query with ⟨hfilter, htranslation⟩ | ⟨v, hfilter, htranslation⟩
  · have hregistry : (filterFor loaded query true).registry = loaded.registry :=
      Filter.registry_run _ _
    rw [hfilter, htranslation]
    dsimp only
    rw [sending_searcherFor hregistry hendpoint hne]
    cases hrequest : requestFor loaded (filterFor loaded query true) offset
        (pageSize.getD loaded.settings.pageSize) with
    | ok q => rfl
    | error e =>
      rcases category_of_requestFor hrequest with hcategory | hcategory
      · dsimp only
        rw [if_pos hcategory]
        exact congrArg (fun t => (t, w)) (showSearchFailure_of_query _ format hcategory)
      · have hquery : e.category ≠ .query := by
          rw [hcategory]
          decide
        dsimp only
        rw [if_neg hquery]
        exact ⟨_, congrArg (fun t => (t, w)) (showSearchFailure_of_internal _ format hcategory),
          result_fail (ending_told mode loaded query) e⟩
  · rw [hfilter, htranslation]
    exact ⟨_, rfl, result_fail (ending_opening mode loaded) (.unwritable v)⟩

/-- For the same search string and the same page, and with settings that have an endpoint, one
command shows a request exactly if the other one sends it, and only this request, to the
endpoint. If there is no such request, nothing is sent and both fail alike: with the exit code
for a failure of the query, or with a failure that neither reports. -/
theorem search_follows_translate (hsettings : w.settings mode.path = .ok loaded)
    (hendpoint : loaded.settings.endpoint = some endpoint) (hne : endpoint ≠ "")
    (htranslate : Asks arguments mode (.translate query offset pageSize encode))
    (hsearch : Asks arguments' mode (.search query format offset pageSize)) :
    (∀ q, translation loaded query offset pageSize = .ok q →
      w.run arguments = ((told mode loaded query).writeLine
        (if encode then Text.urlEncoded q.parameters else q.queryString), w) ∧
      (w.run arguments).1.result = (0, none) ∧
      (w.run arguments').2.sent =
        ⟨endpoint, q.parameters, loaded.settings.timeout.toValue, loaded.settings.verify⟩ ::
          w.sent) ∧
    (∀ e, translation loaded query offset pageSize = .error e → e.category = .query →
      w.run arguments = (((told mode loaded query).error e.message).exit queryError, w) ∧
      w.run arguments' = ((if format = .json then
          (told mode loaded query).writeLine (Json.write (Search.Problem.of e).toValue)
        else (told mode loaded query).error e.message).exit queryError, w) ∧
      (w.run arguments).1.result = (queryError, none) ∧
      (w.run arguments').1.result = (queryError, none)) ∧
    ∀ e, translation loaded query offset pageSize = .error e → e.category ≠ .query →
      (w.run arguments).1.result = (1, some e) ∧ (w.run arguments').1.result = (1, some e) ∧
      (w.run arguments').2 = w := by
  obtain ⟨path, table, haccept⟩ := exists_acceptTable hsettings hendpoint
  have htold := ending_told mode loaded query
  have htranslated := translateQuery_cases haccept mode query offset pageSize encode
  have hsearched := searchQuery_cases haccept hendpoint hne w.directory.place mode query format
    offset pageSize w
  rw [run_of_asks htranslate hsettings, run_of_asks hsearch hsettings]
  simp only [perform]
  refine ⟨fun q hq => ?_, fun e he hquery => ?_, fun e he hquery => ?_⟩
  · rw [hq] at htranslated hsearched
    dsimp only at htranslated hsearched
    rw [htranslated]
    exact ⟨rfl, result_of_running ((ending_write _ _).trans htold), hsearched⟩
  · rw [he] at htranslated hsearched
    dsimp only at htranslated hsearched
    rw [if_pos hquery] at htranslated hsearched
    rw [htranslated, hsearched]
    refine ⟨rfl, rfl, result_exit ((ending_error _ _).trans htold) _, result_exit ?_ _⟩
    split
    · exact (ending_write _ _).trans htold
    · exact (ending_error _ _).trans htold
  · rw [he] at htranslated hsearched
    dsimp only at htranslated hsearched
    rw [if_neg hquery] at htranslated hsearched
    obtain ⟨t, hrun, hresult⟩ := hsearched
    rw [hrun]
    exact ⟨htranslated, hresult, rfl⟩

/-- A document of settings that has an endpoint and a field. -/
def taggedDocument : String :=
  "[cloudsearch]\nsearch_endpoint = \"e\"\n[fields.tag]\ntype = \"text\"\n"

/-- A world with this document. -/
def taggedWorld : World where
  directory := ⟨⟨"/", [], ⟨[]⟩⟩, [], [(⟨["c"]⟩, taggedDocument.toUTF8)]⟩
  answers := []
  sent := []

/-- The settings in this document. -/
def taggedSettings : Settings.Loaded where
  settings := { Settings.standard with
    endpoint := some "e"
    fields := [("tag", .map [("type", .text "text")])]
    path := some "/c" }
  registry := ⟨[("tag", ⟨["tag"], .text, by decide⟩)], by decide⟩
  warnings := []

theorem settings_taggedWorld : taggedWorld.settings (some "/c") = .ok taggedSettings := by
  have hlocation : Settings.location taggedWorld.directory.place (some "/c") = .ok ⟨["c"]⟩ :=
    eq_ok_of_toOption (by decide +kernel)
  have hstate : taggedWorld.directory.state ⟨["c"]⟩ = .ok (.file taggedDocument.toUTF8) := by
    rfl
  have hread : Toml.read taggedDocument =
      .ok [("cloudsearch", .map [("search_endpoint", .text "e")]),
        ("fields", .map [("tag", .map [("type", .text "text")])])] :=
    eq_ok_of_toOption (by decide +kernel)
  have hload (text : String) (l : Location) : Settings.load l (.file text.toUTF8) = (do
      Settings.acceptTable (some l.write) (← Settings.readDocument l.write text)) := by
    have hdecode : String.fromUTF8? text.toUTF8 = some text := dif_pos text.isValidUTF8
    simp only [Settings.load, hdecode]
  have hwrite : Location.write ⟨["c"]⟩ = "/c" := by decide +kernel
  rw [World.settings_eq, hlocation, ok_bind, hstate, ok_bind, hload, hwrite, Settings.readDocument,
    hread, ok_bind]
  rfl

/-- The request for a tag and a keyword. -/
def taggedRequest : Request := ⟨some "(and (field tag 'x'))", some "y", none, 10, 0⟩

theorem translation_taggedSettings :
    translation taggedSettings "tag:x y" 0 none = .ok taggedRequest := by
  have htokens : Query.tokenize "tag:x y" = [⟨0, [⟨"tag", .equals, some "x"⟩], " y"⟩] := by
    decide +kernel
  have hquery (f : Filter) :
      f.addQuery "tag:x y" = f.addPart ⟨0, [⟨"tag", .equals, some "x"⟩], " y"⟩ := by
    rw [Filter.addQuery, htokens]
    rfl
  have hbuild : buildFilter taggedSettings "tag:x y" true = .ok
      ((Filter.empty taggedSettings.registry).addPart ⟨0, [⟨"tag", .equals, some "x"⟩], " y"⟩) := by
    unfold buildFilter
    simp only [hquery]
    rfl
  have hrequest : Request.ofFilter (some taggedSettings.registry)
      ((Filter.empty taggedSettings.registry).addPart ⟨0, [⟨"tag", .equals, some "x"⟩], " y"⟩) 0
        ((none : Option Int).getD taggedSettings.settings.pageSize) = .ok taggedRequest := by
    rfl
  have hwritable : taggedRequest.isWritable := by decide +kernel
  unfold translation requestFor
  rw [hbuild, ok_bind, hrequest, ok_bind, if_pos hwritable]
  rfl

theorem asks_translate_tagged : Asks ["--config", "/c", "translate", "tag:x", "y"]
    ⟨some "/c", false, false⟩ (.translate "tag:x y" 0 none false) :=
  ⟨.translate, ["tag:x", "y"], rfl, fun _ => rfl⟩

theorem asks_search_tagged : Asks ["--config", "/c", "search", "tag:x", "y"]
    ⟨some "/c", false, false⟩ (.search "tag:x y" .table 0 none) :=
  ⟨.search, ["tag:x", "y"], rfl, fun _ => rfl⟩

/-- A request with a boolean query and free text is shown and sent. -/
theorem search_follows_translate_tagged :
    taggedWorld.settings (some "/c") = .ok taggedSettings ∧
    translation taggedSettings "tag:x y" 0 none = .ok taggedRequest ∧
    Asks ["--config", "/c", "translate", "tag:x", "y"] ⟨some "/c", false, false⟩
      (.translate "tag:x y" 0 none false) ∧
    Asks ["--config", "/c", "search", "tag:x", "y"] ⟨some "/c", false, false⟩
      (.search "tag:x y" .table 0 none) ∧
    (taggedWorld.run ["--config", "/c", "translate", "tag:x", "y"]).1.result = (0, none) ∧
    (taggedWorld.run ["--config", "/c", "search", "tag:x", "y"]).2.sent =
      [⟨"e", [("bq", "(and (field tag 'x'))"), ("q", "y"), ("size", "10"), ("start", "0")],
        Search.Options.standardTimeout.toValue, true⟩] := by
  have hparameters : taggedRequest.parameters =
      [("bq", "(and (field tag 'x'))"), ("q", "y"), ("size", "10"), ("start", "0")] := by
    decide +kernel
  have hsettings : taggedWorld.settings (Mode.mk (some "/c") false false).path =
      .ok taggedSettings := settings_taggedWorld
  obtain ⟨hok, -, -⟩ := search_follows_translate hsettings rfl (by decide) asks_translate_tagged
    asks_search_tagged
  obtain ⟨-, hresult, hsent⟩ := hok taggedRequest translation_taggedSettings
  rw [hparameters] at hsent
  exact ⟨settings_taggedWorld, translation_taggedSettings, asks_translate_tagged,
    asks_search_tagged, hresult, hsent⟩

end FieldedSearch.CommandLine
