import Cadastre.Config
import Cadastre.Proofs.Decode.Filled
import Cadastre.Proofs.Scan.Found
import Cadastre.Proofs.Text.Digits
import Cadastre.World.Tree

/-!
# Layers of settings

Each setting has a variable of its own and a key of its own in the file. The main statement is that a
setting is what its variable says, or else what stands under its key, or else the default, whatever
is said about the other settings; and that only a number of directories that is no number keeps a
scan from having a configuration, once its file has been read.
-/

namespace Cadastre

open Decode Plan

variable {value? : String → Option String} {file : ConfigLayer} {text : String}

/-! ## The file -/

/-- The keys of a file. -/
def ConfigLayer.keys : List String :=
  ["routers_dir", "schema_file", "router_extension", "ancestor_depth", "modules_file"]

/-- A layer says about each setting what stands under its key, and nothing if the key is not there;
no key is there twice, and no other one. -/
structure ConfigLayer.IsReadFrom (named : List (String × Yaml.Place)) (file : ConfigLayer) :
    Prop where
  nodup : (named.map Prod.fst).Nodup
  known : ∀ entry ∈ named, entry.1 ∈ keys
  routersDir : Says named "routers_dir" Decode.string file.routersDir
  schemaFile : Says named "schema_file" Decode.string file.schemaFile
  routerExtension : Says named "router_extension" Decode.string file.routerExtension
  ancestorDepth :
    Says named "ancestor_depth" (Source.natural "usize" (Nat.pow 2 64)) file.ancestorDepth
  modulesFile : Says named "modules_file" (fun p => Decode.optional Decode.path p) file.modulesFile

theorem ConfigLayer.isReadFrom {named : List (String × Yaml.Place)}
    (h : Filled ConfigLayer.shape named {} file)
    (hnodup : (named.map Prod.fst).Nodup) : file.IsReadFrom named := by
  constructor
  case nodup => exact hnodup
  case known => exact h.mem_names
  -- of the five fields, one has the name and sets the setting; the others leave it
  all_goals
    refine h.says (fun f hf => ?_) rfl
    simp only [shape, List.mem_cons, List.not_mem_nil, or_false] at hf
    rcases hf with rfl | rfl | rfl | rfl | rfl
    all_goals first
      | exact sets_own fun _ _ => rfl
      | exact sets_other (by decide) fun _ _ => rfl

theorem ConfigLayer.exists_isReadFrom (h : ConfigLayer.decodeText text = .ok file) :
    ∃ named, Yaml.HasEntries text named ∧ file.IsReadFrom named := by
  obtain ⟨named, hentries, hfilled, hnodup⟩ := Yaml.filled_of_decodeString rfl h
  exact ⟨named, hentries, isReadFrom hfilled hnodup⟩

namespace Storage

variable {storage : Storage} {time : Instant} {asked : Option String} {start : String}

/-- The file that is read: the one that was asked for, or else the one at the start if it is there. -/
def configFile? (storage : Storage) (asked : Option String) (start : String) : Option String :=
  match asked with
  | some path => some path
  | none =>
    let path := Path.join start configFileName
    if storage.isFile path then some path else none

/-- What the file that is read says about the settings; nothing is said if there is no such file. -/
def FileSays (storage : Storage) (asked : Option String) (start : String) (file : ConfigLayer) :
    Prop :=
  match storage.configFile? asked start with
  | none => file = {}
  | some path => ∃ text, storage.read path = .ok text ∧ ConfigLayer.decodeText text = .ok file

/-- The values in the file that is read, each under its key. -/
def FileHolds (storage : Storage) (asked : Option String) (start : String)
    (named : List (String × Yaml.Place)) : Prop :=
  match storage.configFile? asked start with
  | none => named = []
  | some path => ∃ text, storage.read path = .ok text ∧ Yaml.HasEntries text named

theorem FileSays.exists_isReadFrom (h : storage.FileSays asked start file) :
    ∃ named, storage.FileHolds asked start named ∧ file.IsReadFrom named := by
  unfold FileSays at h
  unfold FileHolds
  cases hfile : storage.configFile? asked start with
  | none =>
    rw [hfile] at h
    obtain rfl : file = {} := h
    exact ⟨[], rfl, ConfigLayer.isReadFrom (.done _) List.nodup_nil⟩
  | some path =>
    rw [hfile] at h
    obtain ⟨text, hread, hdecode⟩ := h
    obtain ⟨named, hentries, hnamed⟩ := ConfigLayer.exists_isReadFrom hdecode
    exact ⟨named, ⟨text, hread, hentries⟩, hnamed⟩

theorem gives_isFile (path : String) :
    storage.Gives time (Plan.isFile path) (storage.isFile path) :=
  fun _ => ⟨[_], rfl⟩

theorem gives_ofFile {path : String} (hread : storage.read path = .ok text)
    (hdecode : ConfigLayer.decodeText text = .ok file) :
    storage.Gives time (ConfigLayer.ofFile path) (.ok file) := by
  refine (gives_read path).bind ?_
  rw [hread]
  dsimp only
  rw [hdecode]
  exact gives_pure _

theorem gives_ofFiles (h : storage.FileSays asked start file) :
    storage.Gives time (ConfigLayer.ofFiles asked start) (.ok file) := by
  unfold FileSays configFile? at h
  unfold ConfigLayer.ofFiles
  cases asked with
  | some path =>
    obtain ⟨text, hread, hdecode⟩ := h
    exact gives_ofFile hread hdecode
  | none =>
    refine (gives_isFile _).bind ?_
    dsimp only at h
    cases hthere : storage.isFile (Path.join start configFileName) with
    | false =>
      rw [hthere] at h
      obtain rfl : file = {} := h
      exact gives_pure _
    | true =>
      rw [hthere] at h
      obtain ⟨text, hread, hdecode⟩ := h
      exact gives_ofFile hread hdecode

/-- Loading ends with the settings of the layer of the file and the variables. -/
theorem gives_load (h : storage.FileSays asked start file) :
    storage.Gives time (Config.load asked start value?) (Config.ofLayer file value?) :=
  (gives_ofFiles h).bind (gives_pure _)

end Storage

/-! ## The variables -/

/-- A text says how many directories are searched. -/
def IsDepth (text : String) (n : Nat) : Prop :=
  Text.IsDecimal (Text.trim text.toList) n ∧ n < Nat.pow 2 64

/-- A text names the file with the registry of admin modules, or is blank. -/
def NamesModules (text : String) (modulesFile : Option String) : Prop :=
  (Text.Blank text.toList ∧ modulesFile = none) ∨
    (¬ Text.Blank text.toList ∧ modulesFile = some text)

theorem namesModules_fileOrNone (text : String) : NamesModules text (fileOrNone text) := by
  unfold NamesModules fileOrNone
  by_cases hblank : Text.Blank text.toList
  · refine .inl ⟨hblank, ?_⟩
    rw [Text.trim_eq_nil_iff.2 hblank]
    rfl
  · refine .inr ⟨hblank, if_neg ?_⟩
    rw [List.isEmpty_iff, Text.trim_eq_nil_iff]
    exact hblank

/-- A setting is what its variable means if that is set, or else what the file says about it, or else
the default. -/
inductive Topmost {α : Type} (given? : Option String) (means : String → α → Prop)
    (said : Option α) (default : α) : α → Prop
  | ofVariable {text : String} {a : α} (hset : given? = some text) (hmeans : means text a) :
      Topmost given? means said default a
  | ofFile {a : α} (hunset : given? = none) (hsaid : said = some a) :
      Topmost given? means said default a
  | ofDefault (hunset : given? = none) (hunsaid : said = none) :
      Topmost given? means said default default

theorem Topmost.means_of_set {α : Type} {given? : Option String} {means : String → α → Prop}
    {said : Option α} {default a : α} (h : Topmost given? means said default a)
    (hset : given? = some text) : means text a := by
  cases h with
  | ofVariable hgiven hmeans => exact Option.some.inj (hgiven.symm.trans hset) ▸ hmeans
  | ofFile hunset => cases hunset.symm.trans hset
  | ofDefault hunset => cases hunset.symm.trans hset

theorem Topmost.eq_of_unset {α : Type} {given? : Option String} {means : String → α → Prop}
    {said : Option α} {default a : α} (h : Topmost given? means said default a)
    (hunset : given? = none) : a = said.getD default := by
  cases h with
  | ofVariable hset => cases hset.symm.trans hunset
  | ofFile _ hsaid => rw [hsaid]; rfl
  | ofDefault _ hunsaid => rw [hunsaid]; rfl

theorem topmost_getD {α : Type} {given? : Option String} {means : String → α → Prop}
    {meaning : Option α} (said : Option α) (default : α)
    (hset : ∀ text, given? = some text → ∃ a, meaning = some a ∧ means text a)
    (hunset : given? = none → meaning = none) :
    Topmost given? means said default (meaning.getD (said.getD default)) := by
  cases hgiven : given? with
  | some text =>
    obtain ⟨a, ha, hmeans⟩ := hset text hgiven
    rw [ha]
    exact .ofVariable rfl hmeans
  | none =>
    rw [hunset hgiven]
    cases said with
    | some a => exact .ofFile rfl rfl
    | none => exact .ofDefault rfl rfl

/-- Each setting is taken from the topmost layer that says something about it. -/
structure Config.IsLayered (value? : String → Option String) (file : ConfigLayer) (c : Config) :
    Prop where
  routersDir : Topmost (value? "DOCSNAP_ROUTERS_DIR") (fun text dir => dir = text)
    file.routersDir default.routersDir c.routersDir
  schemaFile : Topmost (value? "DOCSNAP_SCHEMA_FILE") (fun text name => name = text)
    file.schemaFile default.schemaFile c.schemaFile
  routerExtension : Topmost (value? "DOCSNAP_ROUTER_EXTENSION") (fun text ext => ext = text)
    file.routerExtension default.routerExtension c.routerExtension
  ancestorDepth : Topmost (value? depthVariable) IsDepth
    file.ancestorDepth default.ancestorDepth c.ancestorDepth
  modulesFile : Topmost (value? "DOCSNAP_MODULES_FILE") NamesModules
    file.modulesFile default.modulesFile c.modulesFile

/-- The layer of the variables, with what the one for the number of directories says. -/
def ConfigLayer.variables (value? : String → Option String) (depth : Option Nat) : ConfigLayer where
  routersDir := value? "DOCSNAP_ROUTERS_DIR"
  schemaFile := value? "DOCSNAP_SCHEMA_FILE"
  routerExtension := value? "DOCSNAP_ROUTER_EXTENSION"
  ancestorDepth := depth
  modulesFile := (value? "DOCSNAP_MODULES_FILE").map fileOrNone

theorem Config.isLayered_onto {depth : Option Nat} (file : ConfigLayer)
    (hset : ∀ text, value? depthVariable = some text → ∃ n, depth = some n ∧ IsDepth text n)
    (hunset : value? depthVariable = none → depth = none) :
    Config.IsLayered value? file
      ((ConfigLayer.variables value? depth).onto (file.onto default)) := by
  constructor
  case ancestorDepth => exact topmost_getD _ _ hset hunset
  case modulesFile =>
    refine topmost_getD _ _ (fun text htext => ?_) fun hnone => ?_
    · exact ⟨_, congrArg (Option.map fileOrNone) htext, namesModules_fileOrNone text⟩
    · exact congrArg (Option.map fileOrNone) hnone
  all_goals exact topmost_getD _ _ (fun text htext => ⟨text, htext, rfl⟩) id

theorem depthOf?_eq_some_iff {n : Nat} : depthOf? text = some n ↔ IsDepth text n :=
  Text.natural64?_eq_some_iff

/-- The variables make a layer, unless the one for the number of directories is set to something that
is no such number. -/
theorem ofVariables_cases (value? : String → Option String) :
    (∃ depth, ConfigLayer.ofVariables value? = .ok (ConfigLayer.variables value? depth) ∧
      (∀ text, value? depthVariable = some text → ∃ n, depth = some n ∧ IsDepth text n) ∧
      (value? depthVariable = none → depth = none)) ∨
    ∃ text, value? depthVariable = some text ∧ (∀ n, ¬ IsDepth text n) ∧
      ConfigLayer.ofVariables value? = .error (.value depthVariable text) := by
  unfold ConfigLayer.ofVariables
  cases hvalue : value? depthVariable with
  | none => exact .inl ⟨none, rfl, by rintro _ ⟨⟩, fun _ => rfl⟩
  | some text =>
    dsimp only
    cases hdepth : depthOf? text with
    | none =>
      refine .inr ⟨text, rfl, fun n hn => ?_, rfl⟩
      rw [depthOf?_eq_some_iff.2 hn] at hdepth
      cases hdepth
    | some n =>
      refine .inl ⟨some n, rfl, ?_, by rintro ⟨⟩⟩
      rintro _ ⟨⟩
      exact ⟨n, rfl, depthOf?_eq_some_iff.1 hdepth⟩

/-! ## What a scan is told -/

/-- A scan is told the settings as they are, but for the separators at the end of the directory, all of
them, the points at the start of the extension, all of them, and the place of the registry file. -/
structure Config.Tells (c : Config) (workingDirectory start : String) (o : Options) : Prop where
  directories : o.workingDirectory = workingDirectory ∧ o.start = start
  depth : o.depth = c.ancestorDepth
  schemaFile : o.layout.schemaFile = c.schemaFile
  routersDir : ∃ lost, c.routersDir.toList = o.layout.routersDir.toList ++ lost ∧
    (∀ x ∈ lost, x = '/' ∨ x = '\\') ∧
    ∀ x ∈ o.layout.routersDir.toList.getLast?, x ≠ '/' ∧ x ≠ '\\'
  routerExtension : ∃ lost, c.routerExtension.toList = lost ++ o.layout.routerExtension.toList ∧
    (∀ x ∈ lost, x = '.') ∧ ∀ x ∈ o.layout.routerExtension.toList.head?, x ≠ '.'
  builtin : c.modulesFile = none → o.modules = .builtin
  modules : ∀ path, c.modulesFile = some path → o.modules = .file (Path.join start path)

theorem Config.tells_options (c : Config) (workingDirectory start : String) :
    c.Tells workingDirectory start (c.options workingDirectory start) := by
  constructor
  case directories => exact ⟨rfl, rfl⟩
  case depth => rfl
  case schemaFile => rfl
  case routersDir =>
    refine ⟨(c.routersDir.toList.reverse.takeWhile fun x => x == '/' || x == '\\').reverse, ?_, ?_, ?_⟩
    · rw [options, withoutSeparators, String.toList_ofList, ← List.reverse_append,
        List.takeWhile_append_dropWhile, List.reverse_reverse]
    · intro x hx
      simpa using Text.all_takeWhile _ _ x (List.mem_reverse.1 hx)
    · intro x hx
      rw [options, withoutSeparators, String.toList_ofList, List.getLast?_reverse] at hx
      simpa using Text.stops_dropWhile _ _ x hx
  case routerExtension =>
    refine ⟨c.routerExtension.toList.takeWhile (· == '.'), ?_, ?_, ?_⟩
    · rw [options, withoutPoints, String.toList_ofList, List.takeWhile_append_dropWhile]
    · intro x hx
      simpa using Text.all_takeWhile _ _ x hx
    · intro x hx
      rw [options, withoutPoints, String.toList_ofList] at hx
      simpa using Text.stops_dropWhile _ _ x hx
  case builtin =>
    intro hnone
    rw [options, hnone]
  case modules =>
    intro path hsome
    rw [options, hsome]

/-- Where the file that is read has settings or there is none, there is no configuration exactly if
the variable for the number of directories is set to something else than a number of at most 64 bits.
Otherwise each setting is what its own variable says, or else what stands under its own key, or else
the default, and a scan is told these settings. -/
theorem load_isLayered (storage : Storage) (time : Instant) (asked : Option String) (start : String)
    (value? : String → Option String) (file : ConfigLayer)
    (hfile : storage.FileSays asked start file) :
    (∃ named, storage.FileHolds asked start named ∧ file.IsReadFrom named) ∧
    ∃ outcome, storage.Gives time (Config.load asked start value?) outcome ∧
      (∀ failure, outcome = .error failure ↔ ∃ text, value? depthVariable = some text ∧
        (∀ n, ¬ IsDepth text n) ∧ failure = .value depthVariable text) ∧
      ∀ c, outcome = .ok c → c.IsLayered value? file ∧
        ∀ workingDirectory, c.Tells workingDirectory start (c.options workingDirectory start) := by
  refine ⟨hfile.exists_isReadFrom, _, Storage.gives_load hfile, ?_⟩
  rcases ofVariables_cases value? with
    ⟨depth, hvariables, hset, hunset⟩ | ⟨text, hvalue, hno, hvariables⟩
  · rw [Config.ofLayer, hvariables]
    refine ⟨fun failure => ⟨by rintro ⟨⟩, ?_⟩, ?_⟩
    · rintro ⟨text, hvalue, hno, -⟩
      obtain ⟨n, -, hn⟩ := hset text hvalue
      exact absurd hn (hno n)
    · rintro _ ⟨⟩
      exact ⟨Config.isLayered_onto file hset hunset,
        fun workingDirectory => Config.tells_options _ workingDirectory start⟩
  · rw [Config.ofLayer, hvariables]
    refine ⟨fun failure => ⟨fun h => ?_, ?_⟩, by rintro _ ⟨⟩⟩
    · exact ⟨text, hvalue, hno, (Except.error.inj h).symm⟩
    · rintro ⟨other, hother, -, rfl⟩
      obtain rfl : text = other := Option.some.inj (hvalue.symm.trans hother)
      rfl

/-- A file with three settings, two of them under variables, and a directory from a variable alone. -/
theorem load_isLayered_overridden :
    let text := "router_extension: ..py\nancestor_depth: 7\nmodules_file: m.yaml\n"
    let storage := (⟨[("/r/docsnap.yaml", .ok text)], [], none⟩ : Tree).storage
    let value? : String → Option String := fun name =>
      [("DOCSNAP_ROUTERS_DIR", "api//"), ("DOCSNAP_ANCESTOR_DEPTH", " +1 "),
        ("DOCSNAP_MODULES_FILE", " ")].lookup name
    let file : ConfigLayer := ⟨none, none, some "..py", some 7, some (some "m.yaml")⟩
    storage.FileSays none "/r" file ∧
      storage.Gives Instant.epoch (Config.load none "/r" value?)
        (.ok ⟨"api//", "db/schema.sql", "..py", 1, none⟩) := by
  intro text storage value? file
  have hdecode : ConfigLayer.decodeText text = .ok file := by
    have hsome : (ConfigLayer.decodeText text).toOption = some file := by decide +kernel
    cases hread : ConfigLayer.decodeText text with
    | error failure =>
      rw [hread] at hsome
      cases hsome
    | ok said =>
      rw [hread] at hsome
      rw [Option.some.inj hsome]
  have hfile : storage.FileSays none "/r" file := by
    have hthere : storage.configFile? none "/r" = some "/r/docsnap.yaml" := by decide +kernel
    rw [Storage.FileSays, hthere]
    exact ⟨text, by decide +kernel, hdecode⟩
  obtain ⟨-, outcome, hgives, herror, hok⟩ :=
    load_isLayered storage Instant.epoch none "/r" value? file hfile
  refine ⟨hfile, ?_⟩
  cases outcome with
  | error failure =>
    obtain ⟨value, hvalue, hno, -⟩ := (herror failure).1 rfl
    obtain rfl : " +1 " = value := Option.some.inj hvalue
    exact absurd (depthOf?_eq_some_iff.1 (by decide +kernel)) (hno 1)
  | ok c =>
    obtain ⟨routersDir, schemaFile, routerExtension, depth, modulesFile⟩ := c
    obtain ⟨⟨hdir, hschema, hextension, hdepth, hmodules⟩, -⟩ := hok _ rfl
    obtain rfl : routersDir = "api//" := hdir.means_of_set rfl
    obtain rfl : schemaFile = "db/schema.sql" := hschema.eq_of_unset rfl
    obtain rfl : routerExtension = "..py" := hextension.eq_of_unset rfl
    have hone : depthOf? " +1 " = some depth := depthOf?_eq_some_iff.2 (hdepth.means_of_set rfl)
    obtain rfl : depth = 1 := Option.some.inj (hone.symm.trans (by decide +kernel))
    obtain ⟨-, rfl⟩ | ⟨hblank, -⟩ : NamesModules " " modulesFile := hmodules.means_of_set rfl
    · exact hgives
    · exact absurd (Text.trim_eq_nil_iff.1 (by decide)) hblank

end Cadastre
