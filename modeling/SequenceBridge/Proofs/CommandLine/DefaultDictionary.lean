import SequenceBridge.Proofs.CommandLine.Stages
import SequenceBridge.Proofs.Environment.Settings

/-! # The default dictionary
An export without a dictionary of its own takes the one that a variable names. The variable is looked at
twice: in the environment, as part of the command line, and behind the settings file, as part of the
configuration. The two agree on a value that is not blank. A blank value means no dictionary to the
configuration alone; to the command line the empty one is a mistake, and any other a path.

* **`Action.takingDictionary?`** — what an environment that names a dictionary makes of an action.
* **`BindsDictionary`** — a variable that is set in the environment, or by the settings file instead.
* **`run_withDictionary_of_not_blank`** — a value that is not blank gives the same outcome either way.
* **`dictionaryVariable_agrees_iff`** — for which values an export has the same result either way.
-/

namespace SequenceBridge

/-- The variable that names the default dictionary. -/
def dictionaryVariable : Text := Config.variablePrefix ++ "DICTIONARY".toList

/-- An environment in which that variable is set to a text. -/
def Environment.withDictionary (env : Environment) (v : Text) : Environment :=
  env.set dictionaryVariable v.toBytes

/-- A host with another settings file, or with none. -/
def Host.withSettings (host : Host Id) (file : Option Bytes) : Host Id := { host with settings := file }

/-! ## The command line -/

/-- The action in an environment that **names a dictionary**: an export without a dictionary takes
that one, whose path may not be empty. -/
def Action.takingDictionary? (path : Path) : Action → Option Action
  | .exportTree tree source none => (optionalPath? (some path)).map fun d => .exportTree tree source d
  | a => some a

theorem readSide?_set {env : Environment} {name : Text} (h : name ≠ "SEQN_LOG_LEVEL".toList)
    (value : Bytes) (names : List String) (stops : Bool) (words : List Bytes) :
    readSide? (env.set name value) names stops words = readSide? env names stops words := by
  rw [readSide?, readSide?, Environment.get?_set, if_neg h]

/-- A dictionary on the command line **goes before** the one that the environment names. -/
theorem Action.exportTree_takingDictionary? (tree source path : Path) (given : Option Path) :
    (optionalPath? (given.or (some path))).map (exportTree tree source) =
      ((optionalPath? (given.or none)).map (exportTree tree source)).bind
        (takingDictionary? path) := by
  cases given with
  | none => simp [optionalPath?, takingDictionary?]
  | some own => by_cases hown : own = [] <;> simp [optionalPath?, hown, takingDictionary?]

theorem Action.ofName?_withDictionary {env : Environment}
    (hunset : env.get? dictionaryVariable = none) (v : Text) (name : Bytes) (words : List Bytes) :
    ofName? (env.withDictionary v) name words =
      (ofName? env name words).bind (takingDictionary? v.toBytes) := by
  have hlevel : dictionaryVariable ≠ "SEQN_LOG_LEVEL".toList := by decide
  have hvariable : "SEQN_DICTIONARY".toList = dictionaryVariable := by decide
  unfold ofName? Environment.withDictionary
  simp only [readSide?_set hlevel, hvariable, Environment.get?_set, if_true, hunset]
  -- of the four names only that of an export makes a difference
  split
  · cases readSide? env [] false words with
    | none => rfl
    | some found =>
        simp only [Option.bind_some]
        split
        · cases path? (some _) <;> rfl
        · rfl
  split
  · cases readSide? env ["tree", "source", "dictionary", "name"] false words with
    | none => rfl
    | some found =>
        simp only [Option.bind_some]
        split
        · cases path? (found.1.get? "tree".toList) with
          | none => rfl
          | some tree =>
          cases path? (found.1.get? "source".toList) with
          | none => rfl
          | some source => exact exportTree_takingDictionary? tree source v.toBytes _
        · rfl
  split
  · cases readSide? env ["tree", "source"] false words with
    | none => rfl
    | some found =>
        simp only [Option.bind_some]
        split
        · cases path? (found.1.get? "tree".toList) <;>
            cases path? (found.1.get? "source".toList) <;> rfl
        · rfl
  split
  · cases readSide? env [] false words with
    | none => rfl
    | some found =>
        simp only [Option.bind_some]
        split <;> rfl
  · rfl

/-- A variable in the environment changes an action only in that **an export without a dictionary takes
its value**. -/
theorem Action.ofArguments?_withDictionary {env : Environment}
    (hunset : env.get? dictionaryVariable = none) (v : Text) (words : List Bytes) :
    ofArguments? (env.withDictionary v) words =
      (ofArguments? env words).bind (takingDictionary? v.toBytes) := by
  have hlevel : dictionaryVariable ≠ "SEQN_LOG_LEVEL".toList := by decide
  rw [ofArguments?, ofArguments?, Environment.withDictionary, readSide?_set hlevel, Option.bind_assoc]
  congr 1
  funext found
  split
  · rfl
  · exact ofName?_withDictionary hunset v _ _

/-! ## The configuration -/

/-- Two environments with the same values make the **same settings**. -/
theorem Config.ofEnvironment_congr {env other : Environment}
    (h : ∀ name, env.get? name = other.get? name) (beginning : Text) :
    ofEnvironment beginning env = ofEnvironment beginning other := by
  simp only [ofEnvironment, readVariable, h]

/-- The settings have the dictionary that **the variable names, unless it is blank**. -/
theorem Config.dictionary_of_ofEnvironment {env : Environment} {beginning : Text} {v : Option Text}
    {config : Config} (hread : readVariable env (beginning ++ "DICTIONARY".toList) = .ok v)
    (h : ofEnvironment beginning env = .ok config) :
    config.dictionary = v.filter fun d => !d.isBlank := by
  rw [ofEnvironment, hread] at h
  obtain ⟨_, hv, h⟩ := ok_of_bind h
  cases hv
  -- neither of the other two variables changes the dictionary
  obtain ⟨level, -, h⟩ := ok_of_bind h
  obtain ⟨value, -, h⟩ := ok_of_bind h
  cases hname : sequenceNameOf (beginning ++ "SEQUENCE_NAME".toList) value with
  | error e => rw [hname] at h; exact nomatch h
  | ok name =>
      rw [hname] at h
      cases h
      rfl

/-- A variable that is **set to a text** by the environment or the settings file instead. With the
variable in the environment there may be another settings file, or the same one; no other variable is
different then, and what cannot be set is the same. -/
structure BindsDictionary (env : Environment) (file other : Option Bytes) (v : Text) : Prop where
  unset : env.get? dictionaryVariable = none
  bound : (env.load file).environment.get? dictionaryVariable = some v.toBytes
  apart : Environment.Apart dictionaryVariable ((env.withDictionary v).load other).environment
    (env.load file).environment
  refused : ((env.withDictionary v).load other).refused = (env.load file).refused

namespace BindsDictionary

variable {env : Environment} {file other : Option Bytes} {v : Text}

/-- A settings file that binds the variable, and in which nothing refers to it, does so **also when the
variable is in the environment**. -/
theorem of_ignoresValueOf {content : Bytes} (hunset : env.get? dictionaryVariable = none)
    (hbound : (env.load (some content)).environment.get? dictionaryVariable = some v.toBytes)
    (hlines : ∀ line, some line ∈ settingsLines content →
      IgnoresValueOf dictionaryVariable line) :
    BindsDictionary env (some content) (some content) v := by
  have hahead : Environment.Ahead dictionaryVariable (env.withDictionary v) env :=
    ⟨Environment.apart_set dictionaryVariable env v.toBytes, by simp [Environment.withDictionary],
      .inr hunset⟩
  obtain ⟨hapart, hrefused⟩ := hahead.load hlines (hbound ▸ Option.some_ne_none _)
  exact ⟨hunset, hbound, hapart, hrefused⟩

/-- **Every variable** has the same value either way. -/
theorem get?_eq (h : BindsDictionary env file other v) (name : Text) :
    ((env.withDictionary v).load other).environment.get? name =
      (env.load file).environment.get? name := by
  by_cases hname : name = dictionaryVariable
  · subst hname
    have hset : ((env.withDictionary v).text? dictionaryVariable).isSome := by
      simp [Environment.withDictionary]
    rw [Environment.get?_load_of_isSome other hset, h.bound]
    simp [Environment.withDictionary]
  · exact h.apart name hname

/-- The **configuration** is the same either way. -/
theorem config_eq (h : BindsDictionary env file other v) (host : Host Id) :
    (host.withSettings other).config (env.withDictionary v) = (host.withSettings file).config env :=
  congrArg (Except.mapError RunError.configuration)
    (Config.ofEnvironment_congr h.get?_eq Config.variablePrefix)

/-- The configuration has **no dictionary when the value is blank**. -/
theorem dictionary_eq (h : BindsDictionary env file other v) {host : Host Id} {config : Config}
    (hconfig : (host.withSettings file).config env = .ok config) :
    config.dictionary = if v.isBlank then none else some v := by
  have hread : Config.readVariable (env.load file).environment dictionaryVariable =
      .ok (some v) := by
    simp [Config.readVariable, h.bound, Bytes.text?_toBytes]
  rw [Config.dictionary_of_ofEnvironment hread (mapError_eq_ok_iff.1 hconfig)]
  by_cases hv : v.isBlank <;> simp [hv]

end BindsDictionary

/-! ## Runs -/

/-- A **proper command line** never exits with 2. -/
theorem exitCode_ne_two {host : Host Id} {env : Environment} {arguments : List Bytes}
    {action : Action} (h : Action.ofArguments? env arguments = some action) :
    (Id.run (run host env arguments)).exitCode ≠ 2 := by
  rw [run_of_action h]
  split
  · exact show (101 : UInt32) ≠ 2 by decide
  · cases attempt host env action with
    | error e => exact show (1 : UInt32) ≠ 2 by decide
    | ok r => cases hr : r.isFailure <;> simp [Outcome.ofResult, hr]

/-- What an export reads **before its dictionary**: configuration, syntax tree, and source. -/
def Host.document (host : Host Id) (env : Environment) (tree source : Path) :
    Except RunError (Node × Text) :=
  (host.config env).bind fun _ => (host.tree tree).bind fun root =>
    (host.source source).map fun t => (root, t)

/-- An attempt at an export, when it is known which dictionary it takes. -/
theorem attempt_exportTree {host : Host Id} {env : Environment} {tree source : Path}
    {dictionary path : Option Path}
    (hpath : ∀ config, host.config env = .ok config →
      Action.dictionary? config (.exportTree tree source dictionary) = path) :
    attempt host env (.exportTree tree source dictionary) =
      (host.document env tree source).bind fun read =>
        (host.dictionary path).map fun definitions =>
          ⟨(exportTree read.1 read.2 definitions).text, false⟩ := by
  rw [attempt_eq, Host.document]
  cases hconfig : host.config env with
  | error e => rfl
  | ok config =>
      change Id.run (perform host config _).run = _
      rw [run_perform_exportTree, hpath config hconfig]
      cases host.tree tree with
      | error e => rfl
      | ok root =>
      cases host.source source with
      | error e => rfl
      | ok t =>
      cases host.dictionary path with
      | error e => rfl
      | ok definitions => rfl

section

variable {host : Host Id} {env : Environment} {file other : Option Bytes} {v : Text}
  {arguments : List Bytes}

/-- The settings file is **not looked at again** behind the configuration. -/
theorem attempt_withSettings (h : BindsDictionary env file other v) (host : Host Id)
    (action : Action) :
    attempt (host.withSettings other) (env.withDictionary v) action =
      attempt (host.withSettings file) env action := by
  rw [attempt_eq, attempt_eq, h.config_eq]
  rfl

/-- An export reads the same document either way. -/
theorem document_withSettings (h : BindsDictionary env file other v) (host : Host Id)
    (tree source : Path) :
    (host.withSettings other).document (env.withDictionary v) tree source =
      (host.withSettings file).document env tree source := by
  rw [Host.document, Host.document, h.config_eq]
  rfl

/-- With the variable in the environment, an export **takes the path** that it names. -/
theorem attempt_export_environment (h : BindsDictionary env file other v) (host : Host Id)
    (tree source : Path) :
    attempt (host.withSettings other) (env.withDictionary v)
        (.exportTree tree source (some v.toBytes)) =
      ((host.withSettings file).document env tree source).bind fun read =>
        (host.dictionary (some v.toBytes)).map fun definitions =>
          ⟨(exportTree read.1 read.2 definitions).text, false⟩ := by
  rw [attempt_exportTree fun config _ => rfl, document_withSettings h]
  rfl

/-- With the variable in the settings file, an export takes the path that it names **unless that is
blank**. -/
theorem attempt_export_settings (h : BindsDictionary env file other v) (host : Host Id)
    (tree source : Path) :
    attempt (host.withSettings file) env (.exportTree tree source none) =
      ((host.withSettings file).document env tree source).bind fun read =>
        (host.dictionary (if v.isBlank then none else some v.toBytes)).map fun definitions =>
          ⟨(exportTree read.1 read.2 definitions).text, false⟩ := by
  refine attempt_exportTree fun config hconfig => ?_
  rw [Action.dictionary?, h.dictionary_eq hconfig]
  by_cases hv : v.isBlank <;> simp [hv]

/-- Runs of two actions have the **same outcome** when the attempts at them have, and the settings file has
the same value that cannot be set. -/
theorem run_withSettings (h : BindsDictionary env file other v) {host : Host Id}
    {action taken : Action} (haction : Action.ofArguments? env arguments = some action)
    (htaken : Action.ofArguments? (env.withDictionary v) arguments = some taken)
    (hattempt : attempt (host.withSettings other) (env.withDictionary v) taken =
      attempt (host.withSettings file) env action) :
    Id.run (run (host.withSettings other) (env.withDictionary v) arguments) =
      Id.run (run (host.withSettings file) env arguments) := by
  rw [run_of_action haction, run_of_action htaken, hattempt]
  exact if_congr (by rw [Host.withSettings, Host.withSettings, h.refused]) rfl rfl

/-- **A value that is not blank** gives every command line the same outcome either way, unless it asks for
help, which shows the variable. -/
theorem run_withDictionary_of_not_blank (h : BindsDictionary env file other v)
    (hv : v.isBlank = false) (host : Host Id) (hhelp : HelpTopic.ofArguments? arguments = none) :
    Id.run (run (host.withSettings other) (env.withDictionary v) arguments) =
      Id.run (run (host.withSettings file) env arguments) := by
  have hpath : v.toBytes ≠ [] := by
    intro hnil
    rw [Text.toBytes_eq_nil_iff.1 hnil] at hv
    cases hv
  have htaken := Action.ofArguments?_withDictionary h.unset v arguments
  cases haction : Action.ofArguments? env arguments with
  | none =>
      rw [haction] at htaken
      rw [run_of_none hhelp htaken, run_of_none hhelp haction]
  | some action =>
      rw [haction, Option.bind_some] at htaken
      cases action with
      | exportTree tree source given =>
          cases given with
          | none =>
              rw [Action.takingDictionary?, Action.optionalPath?,
                if_neg (by simpa using hpath)] at htaken
              refine run_withSettings h haction htaken ?_
              rw [attempt_export_environment h, attempt_export_settings h, hv]
              rfl
          | some path => exact run_withSettings h haction htaken (attempt_withSettings h host _)
      | importText input => exact run_withSettings h haction htaken (attempt_withSettings h host _)
      | lint tree source => exact run_withSettings h haction htaken (attempt_withSettings h host _)
      | version => exact run_withSettings h haction htaken (attempt_withSettings h host _)

/-- **An empty value** in the environment makes a mistake of an export without a dictionary. -/
theorem run_withDictionary_nil (hunset : env.get? dictionaryVariable = none) (host : Host Id)
    {tree source : Path}
    (haction : Action.ofArguments? env arguments = some (.exportTree tree source none)) :
    Id.run (run host (env.withDictionary []) arguments) = .misuse := by
  refine run_of_none (HelpTopic.ofArguments?_of_action haction) ?_
  rw [Action.ofArguments?_withDictionary hunset, haction]
  rfl

/-- Where something more is read, the outcome has **the same exit code and the same output** as without
exactly when it can be read, and leaves the text as it is. -/
theorem ofResult_agrees_iff {α β : Type} (read : Except RunError α) (found : Except RunError β)
    (f : α → β → Text) (g : α → Text) :
    ((Outcome.ofResult (read.bind fun a => found.map fun b => ⟨f a b, false⟩)).exitCode =
          (Outcome.ofResult (read.bind fun a => .ok ⟨g a, false⟩)).exitCode ∧
        (Outcome.ofResult (read.bind fun a => found.map fun b => ⟨f a b, false⟩)).output =
          (Outcome.ofResult (read.bind fun a => .ok ⟨g a, false⟩)).output) ↔
      ∀ a, read = .ok a → ∃ b, found = .ok b ∧ f a b = g a := by
  cases read with
  | error e => exact iff_of_true ⟨rfl, rfl⟩ fun _ hok => nomatch hok
  | ok a =>
  cases found with
  | error e =>
      refine iff_of_false (fun hsame => absurd hsame.1 (show (1 : UInt32) ≠ 0 by decide)) fun h => ?_
      obtain ⟨b, hb, -⟩ := h a rfl
      exact nomatch hb
  | ok b =>
      constructor
      · intro hsame a' ha
        cases ha
        exact ⟨b, rfl, List.append_cancel_right hsame.2⟩
      · intro h
        obtain ⟨b', hb, htext⟩ := h a rfl
        cases hb
        exact ⟨rfl, congrArg (· ++ ['\n']) htext⟩

/-- **The two ways of naming a default dictionary** give an export the same exit code and the same
output exactly for a value that is not blank, or, with one that is blank but not empty, when the settings
file ends the run, the document cannot be read, or what lies at that path is a dictionary which leaves the
text as it is without any. -/
theorem dictionaryVariable_agrees_iff (h : BindsDictionary env file other v) (host : Host Id)
    {tree source : Path}
    (haction : Action.ofArguments? env arguments = some (.exportTree tree source none)) :
    ((Id.run (run (host.withSettings other) (env.withDictionary v) arguments)).exitCode =
          (Id.run (run (host.withSettings file) env arguments)).exitCode ∧
        (Id.run (run (host.withSettings other) (env.withDictionary v) arguments)).output =
          (Id.run (run (host.withSettings file) env arguments)).output) ↔
      v.isBlank = false ∨
        v ≠ [] ∧ ((env.load file).refused = none →
          ∀ root t, (host.withSettings file).document env tree source = .ok (root, t) →
            ∃ d, host.dictionary (some v.toBytes) = .ok d ∧
              (exportTree root t d).text = (exportTree root t none).text) := by
  by_cases hv : v.isBlank = false
  · rw [run_withDictionary_of_not_blank h hv host (HelpTopic.ofArguments?_of_action haction)]
    exact iff_of_true ⟨rfl, rfl⟩ (.inl hv)
  by_cases hnil : v = []
  · subst hnil
    rw [run_withDictionary_nil h.unset _ haction]
    exact iff_of_false (fun hsame => exitCode_ne_two haction hsame.1.symm) (by simp)
  have hblank : v.isBlank = true := by simpa using hv
  have hpath : v.toBytes ≠ [] := fun hempty => hnil (Text.toBytes_eq_nil_iff.1 hempty)
  have htaken := Action.ofArguments?_withDictionary h.unset v arguments
  rw [haction, Option.bind_some, Action.takingDictionary?, Action.optionalPath?,
    if_neg (by simpa using hpath)] at htaken
  cases hrefused : (env.load file).refused with
  | some a =>
      rw [run_of_refused haction hrefused, run_of_refused htaken (h.refused.trans hrefused)]
      exact iff_of_true ⟨rfl, rfl⟩ (.inr ⟨hnil, fun hnone => nomatch hnone⟩)
  | none =>
      rw [run_of_loaded haction hrefused, run_of_loaded htaken (h.refused.trans hrefused),
        attempt_export_settings h, if_pos hblank, attempt_export_environment h]
      refine (ofResult_agrees_iff _ _ _ _).trans ?_
      rw [hblank, eq_self, true_imp_iff, Prod.forall]
      exact ⟨fun hsame => .inr ⟨hnil, hsame⟩, fun hsame => (hsame.resolve_left nofun).2⟩

end

/-- A directory with a sequence of one command. -/
def Directory.oneCommand : Directory where
  entries := [
    ([Text.toBytes ['t']], .file (Text.toBytes
      "[\"Sequence\",0,3,[[\"Commands\",0,3,[[\"Command\",0,3,[[\"Stem\",0,3]]]]]]]".toList)),
    ([Text.toBytes ['s']], .file (Text.toBytes "CMD".toList))]

/-- The command line of an export without a dictionary. -/
def plainExport : List Bytes :=
  ["to-fprime", "--tree", "t", "--source", "s"].map fun a => Text.toBytes a.toList

theorem ofArguments?_plainExport : Action.ofArguments? ⟨[]⟩ plainExport =
    some (.exportTree (Text.toBytes ['t']) (Text.toBytes ['s']) none) := by
  decide +kernel

/-- A settings file that binds the variable to a letter, or no settings file. -/
theorem bindsDictionary_letter :
    BindsDictionary ⟨[]⟩ (some (Text.toBytes "SEQN_DICTIONARY=d".toList)) none ['d'] := by
  have hload : (Environment.mk []).load (some (Text.toBytes "SEQN_DICTIONARY=d".toList)) =
      ⟨(Environment.mk []).withDictionary ['d'], none⟩ := by decide +kernel
  refine ⟨rfl, ?_, ?_, ?_⟩
  · rw [hload]
    decide +kernel
  · rw [hload]
    exact fun _ _ => rfl
  · rw [hload]
    rfl

/-- A missing dictionary is missed either way. -/
theorem dictionaryVariable_agrees_iff_letter :
    let host := Directory.oneCommand.host []
    let settings := some (Text.toBytes "SEQN_DICTIONARY=d".toList)
    (Id.run (run (host.withSettings none) (Environment.withDictionary ⟨[]⟩ ['d'])
          plainExport)).exitCode =
        (Id.run (run (host.withSettings settings) ⟨[]⟩ plainExport)).exitCode ∧
      (Id.run (run (host.withSettings none) (Environment.withDictionary ⟨[]⟩ ['d'])
          plainExport)).output =
        (Id.run (run (host.withSettings settings) ⟨[]⟩ plainExport)).output :=
  (dictionaryVariable_agrees_iff bindsDictionary_letter (Directory.oneCommand.host [])
    ofArguments?_plainExport).2 (.inl (by decide))

/-- The same settings file either way, which binds the variable to a blank. -/
theorem bindsDictionary_blank :
    BindsDictionary ⟨[]⟩ (some (Text.toBytes "SEQN_DICTIONARY=' '".toList))
      (some (Text.toBytes "SEQN_DICTIONARY=' '".toList)) [' '] := by
  refine .of_ignoresValueOf rfl (by decide +kernel) fun line hline => .of_not_mem ?_ _
  have hlines : settingsLines (Text.toBytes "SEQN_DICTIONARY=' '".toList) =
      [some "SEQN_DICTIONARY=' '".toList] := by decide +kernel
  rw [hlines, List.mem_singleton, Option.some.injEq] at hline
  rw [hline]
  decide

/-- **A blank in the environment is a path**, and there is nothing. In the settings file it means no
dictionary. -/
theorem dictionaryVariable_blank :
    let settings := some (Text.toBytes "SEQN_DICTIONARY=' '".toList)
    let host := (Directory.oneCommand.host []).withSettings settings
    Action.ofArguments? ⟨[]⟩ plainExport =
        some (.exportTree (Text.toBytes ['t']) (Text.toBytes ['s']) none) ∧
      BindsDictionary ⟨[]⟩ settings settings [' '] ∧
      Id.run (run host ⟨[]⟩ plainExport) = ⟨0, "UNKNOWN CMD \n".toList, none⟩ ∧
      Id.run (run host (Environment.withDictionary ⟨[]⟩ [' ']) plainExport) =
        ⟨1, [], some (.dictionary (.missingPath (Text.toBytes [' '])))⟩ := by
  intro settings host
  exact ⟨ofArguments?_plainExport, bindsDictionary_blank, by decide +kernel, by decide +kernel⟩

end SequenceBridge
