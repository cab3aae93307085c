import JavadocAudit.CommandLine.Basic
import JavadocAudit.Config.Standard
import JavadocAudit.Proofs.Text.Utf8

/-!
# How loading a configuration can fail

A configuration that cannot be had is refused, and the report names the file it was read from. The
failures of each stage are turned into such reports, with three exceptions, which escape: the path
has a null character, the file is not text, or a library raises something that it does not document.
Nothing is assumed of the libraries. With libraries that keep to what they document, only the first
two are left.
-/

namespace JavadocAudit.Config

variable {key data invalid exception : Type}

section Stages

variable {α β : Type}

/-- A list is gone through up to the first item that fails. -/
theorem mapM_eq_error_iff {ε : Type} {f : α → Except ε β} {items : List α} {e : ε} :
    items.mapM f = .error e ↔ ∃ front item back, items = front ++ item :: back ∧
      (∀ earlier ∈ front, ∃ b, f earlier = .ok b) ∧ f item = .error e := by
  induction items with
  | nil =>
      constructor
      · nofun
      · rintro ⟨front, item, back, split, -⟩
        simp at split
  | cons first rest ih =>
      rw [List.mapM_cons]
      cases here : f first with
      | error e' =>
          constructor
          · intro failed
            cases failed
            exact ⟨[], first, rest, rfl, nofun, here⟩
          · rintro ⟨front, item, back, split, fine, failed⟩
            cases front with
            | nil =>
                obtain ⟨rfl, rfl⟩ := List.cons.inj split
                cases here.symm.trans failed
                rfl
            | cons other front =>
                obtain ⟨rfl, rfl⟩ := List.cons.inj split
                obtain ⟨b, passed⟩ := fine first List.mem_cons_self
                cases here.symm.trans passed
      | ok b =>
          have later : (do return b :: (← rest.mapM f)) = Except.error e ↔
              rest.mapM f = .error e := by
            cases rest.mapM f <;> simp [pure, Except.pure, bind, Except.bind]
          refine later.trans (ih.trans ⟨?_, ?_⟩)
          · rintro ⟨front, item, back, rfl, fine, failed⟩
            exact ⟨first :: front, item, back, rfl,
              List.forall_mem_cons.mpr ⟨⟨b, here⟩, fine⟩, failed⟩
          · rintro ⟨front, item, back, split, fine, failed⟩
            cases front with
            | nil =>
                obtain ⟨rfl, rfl⟩ := List.cons.inj split
                cases here.symm.trans failed
            | cons other front =>
                obtain ⟨rfl, rfl⟩ := List.cons.inj split
                exact ⟨front, item, back, rfl, (List.forall_mem_cons.mp fine).2, failed⟩

/-- A stage fails only by a report, or by what a library raises. -/
def Contained (outcome : Except (Failure invalid exception) α) : Prop :=
  ∀ failure, outcome = .error failure →
    (∃ refusal, failure = .refused refusal) ∨ ∃ e, failure = .raised e

theorem Contained.ok (a : α) :
    Contained (.ok a : Except (Failure invalid exception) α) := nofun

theorem Contained.refuse (fault : Fault invalid) :
    Contained (refuse exception fault : Except (Failure invalid exception) α) := by
  rintro failure ⟨⟩
  exact .inl ⟨_, rfl⟩

theorem Contained.bind {outcome : Except (Failure invalid exception) α}
    {next : α → Except (Failure invalid exception) β} (first : Contained outcome)
    (second : ∀ a, Contained (next a)) : Contained (outcome >>= next) := by
  cases outcome with
  | error failure =>
      rintro _ ⟨⟩
      exact first failure rfl
  | ok a => exact second a

theorem contained_ofChecked (fault : invalid → Fault invalid)
    (checked : Except (Raised invalid exception) α) : Contained (ofChecked fault checked) := by
  rcases checked with (faults | e) | a
  · exact .refuse _
  · rintro failure ⟨⟩
    exact .inr ⟨e, rfl⟩
  · exact .ok a

@[simp] theorem ofChecked_eq_raised_iff {fault : invalid → Fault invalid}
    {checked : Except (Raised invalid exception) α} {e : exception} :
    ofChecked fault checked = .error (.raised e) ↔ checked = .error (.other e) := by
  rcases checked with (faults | e') | a <;> simp [ofChecked, Config.refuse]

theorem ofChecked_eq_ok_iff {fault : invalid → Fault invalid}
    {checked : Except (Raised invalid exception) α} {a : α} :
    ofChecked fault checked = .ok a ↔ checked = .ok a := by
  rcases checked with (faults | e') | a' <;> simp [ofChecked, Config.refuse]

end Stages

section Parse

variable {library : Library key data invalid exception} {entries : List (key × data)}
  {text : List Char} {e : exception}

theorem contained_settingsEntries : Contained (settingsEntries library entries) := by
  unfold settingsEntries
  split
  · exact .ok _
  · exact .ok _
  · split
    · exact .ok _
    · exact .refuse _

theorem contained_parseSettings : Contained (parseSettings library entries) :=
  .bind contained_settingsEntries fun _ => contained_ofChecked _ _

theorem contained_parseSuppressions : Contained (parseSuppressions library entries) := by
  unfold parseSuppressions
  split
  · exact .ok _
  · intro failure failed
    obtain ⟨front, item, back, -, -, failed⟩ := mapM_eq_error_iff.mp failed
    exact contained_ofChecked _ _ failure failed
  · split
    · exact .ok _
    · exact .refuse _

theorem contained_parse : Contained (parse library entries) :=
  .bind contained_parseSettings fun _ => .bind contained_parseSuppressions fun _ => .ok _

theorem contained_entriesOf : Contained (entriesOf library text) := by
  unfold entriesOf
  split
  · exact .refuse _
  · rintro failure ⟨⟩
    exact .inr ⟨_, rfl⟩
  · split
    · exact .ok _
    · exact .ok _
    · exact .refuse _

theorem entriesOf_eq_raised_iff :
    entriesOf library text = .error (.raised e) ↔ library.load text = .error (.other e) := by
  unfold entriesOf
  rcases library.load text with (message | e') | loaded
  · simp [refuse]
  · simp
  · simp only [reduceCtorEq, iff_false]
    split <;> simp [refuse]

theorem settingsEntries_ne_raised : settingsEntries library entries ≠ .error (.raised e) := by
  unfold settingsEntries
  split
  · nofun
  · nofun
  · split <;> simp [refuse]

theorem parseSettings_eq_raised_iff :
    parseSettings library entries = .error (.raised e) ↔
      ∃ own, settingsEntries library entries = .ok own ∧
        library.settings own = .error (.other e) := by
  unfold parseSettings
  cases selected : settingsEntries library entries with
  | error failure =>
      have other : failure ≠ .raised e := fun same =>
        settingsEntries_ne_raised (same ▸ selected)
      simpa [bind, Except.bind] using other
  | ok own => simp [bind, Except.bind]

theorem parseSuppressions_eq_raised_iff :
    parseSuppressions library entries = .error (.raised e) ↔
      ∃ front item back,
        (library.entry? entries suppressionsKey).map library.shape =
          some (.list (front ++ item :: back)) ∧
        (∀ earlier ∈ front, ∃ suppression, library.suppression earlier = .ok suppression) ∧
        library.suppression item = .error (.other e) := by
  unfold parseSuppressions
  generalize (library.entry? entries suppressionsKey).map library.shape = found
  rcases found with _ | shape
  · simp
  · cases shape with
    | list items =>
        simp only [mapM_eq_error_iff, ofChecked_eq_ok_iff, ofChecked_eq_raised_iff,
          Option.some.injEq, Shape.list.injEq]
    | nothing => simp [Shape.isVoid]
    | mapping own => cases void : own.isEmpty <;> simp [Shape.isVoid, void, refuse]
    | other isVoid => cases isVoid <;> simp [Shape.isVoid, refuse]

end Parse

/-- A library raises something that it does not document when the configuration in a text is made
out: the text is not read, or the settings cannot be checked, or the first suppression that is not
accepted. -/
inductive RaisesOn (library : Library key data invalid exception) (text : List Char)
    (e : exception) : Prop
  | load (cause : library.load text = .error (.other e))
  | settings {entries own : List (key × data)} (described : entriesOf library text = .ok entries)
      (selected : settingsEntries library entries = .ok own)
      (cause : library.settings own = .error (.other e))
  | suppression {entries : List (key × data)} {settings : Settings} {front back : List data}
      {item : data} (described : entriesOf library text = .ok entries)
      (valid : parseSettings library entries = .ok settings)
      (listed : (library.entry? entries suppressionsKey).map library.shape =
        some (.list (front ++ item :: back)))
      (accepted : ∀ earlier ∈ front, ∃ suppression, library.suppression earlier = .ok suppression)
      (cause : library.suppression item = .error (.other e))

/-- The failures that are not reported as faults of a configuration, with what causes them. -/
inductive Escape (library : Library key data invalid exception) (files : FileSystem)
    (path : Path) : Failure invalid exception → Prop
  | invalidPath (cause : files.find path = .error .invalidPath) :
      Escape library files path .invalidPath
  | notText {content : List UInt8} {fault : Text.Utf8Fault} (read : files.read path = .ok content)
      (cause : Text.decodeUtf8 content = .error fault) : Escape library files path (.notText fault)
  | raised {text : List Char} {e : exception} (read : files.read path = .ok (Text.encodeUtf8 text))
      (cause : RaisesOn library (Text.unifyBreaks text) e) : Escape library files path (.raised e)

/-- The libraries raise nothing but what they document. -/
def Library.KeepsToDocumented (library : Library key data invalid exception) : Prop :=
  ∀ e, (∀ text, library.load text ≠ .error (.other e)) ∧
    (∀ entries, library.settings entries ≠ .error (.other e)) ∧
    ∀ item, library.suppression item ≠ .error (.other e)

section Load

variable {library : Library key data invalid exception} {files : FileSystem} {path : Path}
  {text : List Char} {content : List UInt8} {e : exception}

/-- The configuration that a text describes fails by what a library raises exactly if it does
so. -/
theorem described_eq_raised_iff :
    (entriesOf library text >>= parse library) = .error (.raised e) ↔
      RaisesOn library text e := by
  constructor
  · intro failed
    cases described : entriesOf library text with
    | error failure =>
        rw [described] at failed
        cases failed
        exact .load (entriesOf_eq_raised_iff.mp described)
    | ok entries =>
        rw [described] at failed
        change parse library entries = _ at failed
        unfold parse at failed
        cases valid : parseSettings library entries with
        | error failure =>
            rw [valid] at failed
            cases failed
            obtain ⟨own, selected, cause⟩ := parseSettings_eq_raised_iff.mp valid
            exact .settings described selected cause
        | ok settings =>
            rw [valid] at failed
            cases suppressions : parseSuppressions library entries with
            | error failure =>
                rw [suppressions] at failed
                cases failed
                obtain ⟨front, item, back, listed, accepted, cause⟩ :=
                  parseSuppressions_eq_raised_iff.mp suppressions
                exact .suppression described valid listed accepted cause
            | ok all =>
                rw [suppressions] at failed
                cases failed
  · rintro (cause | ⟨described, selected, cause⟩ | ⟨described, valid, listed, accepted, cause⟩)
    · rw [entriesOf_eq_raised_iff.mpr cause]
      rfl
    · rw [described]
      change parse library _ = _
      rw [parse, parseSettings_eq_raised_iff.mpr ⟨_, selected, cause⟩]
      rfl
    · rw [described]
      change parse library _ = _
      rw [parse, valid, parseSuppressions_eq_raised_iff.mpr ⟨_, _, _, listed, accepted, cause⟩]
      rfl

theorem load_of_invalidPath (read : files.read path = .error .invalidPath) :
    load library files path = .error .invalidPath := by
  simp only [load, readText, read]
  rfl

/-- A file that cannot be read is refused. -/
theorem load_of_unreadable {fault : SystemFault}
    (read : files.read path = .error (.refused fault)) :
    load library files path = .error (.refused ⟨.unreadable path fault, some path⟩) := by
  simp only [load, readText, read]
  rfl

theorem load_of_not_text {fault : Text.Utf8Fault} (read : files.read path = .ok content)
    (decoded : Text.decodeUtf8 content = .error fault) :
    load library files path = .error (.notText fault) := by
  simp only [load, readText, read, decoded]
  rfl

theorem load_of_text (read : files.read path = .ok (Text.encodeUtf8 text)) :
    load library files path =
      (entriesOf library (Text.unifyBreaks text) >>= parse library).mapError (·.locate path) := by
  simp only [load, readText, read, Text.decodeUtf8_eq_ok_iff.mpr rfl]
  rfl

/-- All that can happen when a file is read. -/
theorem read_cases (files : FileSystem) (path : Path) :
    (∃ fault, files.read path = .error (.refused fault)) ∨
      files.read path = .error .invalidPath ∨
      (∃ content fault, files.read path = .ok content ∧
        Text.decodeUtf8 content = .error fault) ∨
      ∃ text, files.read path = .ok (Text.encodeUtf8 text) := by
  rcases files.read path with (fault | _) | content
  · exact .inl ⟨fault, rfl⟩
  · exact .inr (.inl rfl)
  · cases decoded : Text.decodeUtf8 content with
    | error fault => exact .inr (.inr (.inl ⟨content, fault, rfl, decoded⟩))
    | ok text =>
        obtain rfl := Text.decodeUtf8_eq_ok_iff.mp decoded
        exact .inr (.inr (.inr ⟨text, rfl⟩))

/-- A failure is a report that names the file, or escapes. -/
theorem refused_or_escape {failure : Failure invalid exception}
    (h : load library files path = .error failure) :
    (∃ fault, failure = .refused ⟨fault, some path⟩) ∨ Escape library files path failure := by
  rcases read_cases files path with ⟨fault, read⟩ | read | ⟨content, fault, read, decoded⟩ |
    ⟨text, read⟩
  · cases (load_of_unreadable read).symm.trans h
    exact .inl ⟨_, rfl⟩
  · cases (load_of_invalidPath read).symm.trans h
    exact .inr (.invalidPath (FileSystem.read_eq_invalidPath_iff.mp read))
  · cases (load_of_not_text read decoded).symm.trans h
    exact .inr (.notText read decoded)
  · rw [load_of_text read] at h
    cases described : entriesOf library (Text.unifyBreaks text) >>= parse library with
    | ok config =>
        rw [described] at h
        cases h
    | error failure' =>
        rw [described] at h
        obtain ⟨refusal, rfl⟩ | ⟨e, rfl⟩ :=
          contained_entriesOf.bind (fun _ => contained_parse) failure' described
        · cases h
          exact .inl ⟨_, rfl⟩
        · cases h
          exact .inr (.raised read (described_eq_raised_iff.mp described))

theorem Escape.load_eq {failure : Failure invalid exception}
    (escape : Escape library files path failure) :
    load library files path = .error failure := by
  cases escape with
  | invalidPath cause => exact load_of_invalidPath (FileSystem.read_eq_invalidPath_iff.mpr cause)
  | notText read cause => exact load_of_not_text read cause
  | raised read cause =>
      rw [load_of_text read, described_eq_raised_iff.mpr cause]
      rfl

/-- Libraries that keep to what they document never raise on a text. -/
theorem Library.KeepsToDocumented.not_raisesOn (keeps : library.KeepsToDocumented) :
    ¬ RaisesOn library text e := by
  obtain ⟨loads, settings, suppressions⟩ := keeps e
  rintro (cause | ⟨-, -, cause⟩ | ⟨-, -, -, -, cause⟩)
  · exact loads _ cause
  · exact settings _ cause
  · exact suppressions _ cause

end Load

/-- A configuration is loaded, or it is refused and the report names the file, or the failure
escapes. A file that cannot be read is always refused, and all causes of an escape lead to one: a
null character in the path, a file that is not text, and what the libraries raise beyond what they
document. -/
theorem load_reports_all_but_escapes
    (env : CommandLine.Environment key data invalid exception) (path : Path) :
    ((∃ config, load env.library env.files path = .ok config) ∨
      (∃ fault, load env.library env.files path = .error (.refused ⟨fault, some path⟩) ∧
        ∀ request : CommandLine.Request, request.config.map Path.ofString = some path →
          CommandLine.perform env request =
            .ok { status := 2
                  errors := [.line (CommandLine.complaint
                    (CommandLine.located path (fault.message env.library.describe)))] }) ∨
      ∃ failure, load env.library env.files path = .error failure ∧
        Escape env.library env.files path failure) ∧
    (∀ failure, Escape env.library env.files path failure →
      load env.library env.files path = .error failure) ∧
    (∀ fault, env.files.read path = .error (.refused fault) →
      load env.library env.files path = .error (.refused ⟨.unreadable path fault, some path⟩)) ∧
    (∀ content, env.files.read path = .ok content → (∀ text, content ≠ Text.encodeUtf8 text) →
      ∃ fault, load env.library env.files path = .error (.notText fault)) ∧
    (env.library.KeepsToDocumented →
      ∀ e, load env.library env.files path ≠ .error (.raised e)) := by
  refine ⟨?_, fun failure => Escape.load_eq, fun fault => load_of_unreadable,
    fun content read notText => ?_, fun keeps e failed => ?_⟩
  · cases loaded : load env.library env.files path with
    | ok config => exact .inl ⟨config, rfl⟩
    | error failure =>
        obtain ⟨fault, rfl⟩ | escape := refused_or_escape loaded
        · refine .inr (.inl ⟨fault, rfl, fun request named => ?_⟩)
          obtain ⟨name, given, rfl⟩ := Option.map_eq_some_iff.mp named
          simp only [CommandLine.perform, CommandLine.Request.load, given, loaded]
          rfl
        · exact .inr (.inr ⟨failure, rfl, escape⟩)
  · cases decoded : Text.decodeUtf8 content with
    | error fault => exact ⟨fault, load_of_not_text read decoded⟩
    | ok text => exact absurd (Text.decodeUtf8_eq_ok_iff.mp decoded) (notText text)
  · obtain ⟨fault, ⟨⟩⟩ | ⟨⟨⟩⟩ | ⟨⟨⟩⟩ | ⟨read, cause⟩ := refused_or_escape failed
    exact keeps.not_raisesOn cause

/-- A directory with a configuration of one byte that no text in UTF-8 starts with. -/
def latinTree : FileTree := .folder [("jdcheck.yaml", .file [0xff])]

/-- The configuration is neither loaded nor refused. -/
theorem latin_configuration_is_not_refused :
    ¬ ((∃ config, load .standard latinTree.fileSystem ⟨"", ["jdcheck.yaml"]⟩ = .ok config) ∨
      ∃ refusal, load .standard latinTree.fileSystem ⟨"", ["jdcheck.yaml"]⟩ =
        .error (.refused refusal)) := by
  have escapes : load .standard latinTree.fileSystem ⟨"", ["jdcheck.yaml"]⟩ =
      .error (.notText ⟨0xff, 0, 1, .badStart⟩) := rfl
  rw [escapes]
  rintro (⟨config, loaded⟩ | ⟨refusal, refused⟩)
  · cases loaded
  · cases refused

end JavadocAudit.Config
