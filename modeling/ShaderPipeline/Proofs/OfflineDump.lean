import ShaderPipeline.Cli
import ShaderPipeline.Proofs.Glsl.DeclaredOnly
import ShaderPipeline.Proofs.Glsl.Failures

/-!
# Dumps of programs that need an engine only

A program that declares no other properties than those of an engine, as numbers, can be dumped
without an engine: the placeholders give every declared property a suitable value and every array a
positive length, whatever a configuration says of these properties (`exists_programSource`). So
every command line made of options ends well and prints what is generated for the placeholders in
the dialect that the options choose (`output_engineOnly`). Of the options only three things count:
whether `--gles` occurs, whether `--json` occurs, and which configuration comes last
(`parseOptions_arguments`).

Files are what a function of their paths gives. Files that change between two readings of a command
are not covered, nor is what becomes of the standard streams.
-/

namespace ShaderPipeline

open Glsl ShaderPipeline.Language

/-! ## Engine properties -/

namespace PropertyContext

/-- An engine property has the value that describes the viewport. -/
theorem get?_ofViewport {name : String} (h : name ∈ engineNames) (viewport : Viewport) :
    ∃ value, (name, value) ∈ viewport.properties ∧
      (ofViewport viewport).get? name = some value := by
  have hnames : viewport.properties.map Prod.fst = engineNames := rfl
  have hnodup : (viewport.properties.map Prod.fst).Nodup := by
    rw [hnames]
    decide
  rw [← hnames] at h
  obtain ⟨⟨found, value⟩, hmem, rfl⟩ := List.mem_map.1 h
  have hlookup := (Draft.lookup_eq_some_iff_mem hnodup).2 hmem
  refine ⟨value, hmem, ?_⟩
  rw [ofViewport, supplyViewport, get?_supplyAll, PropertyEntry.lookup_reverse hnodup, hlookup,
    Option.some_or]

end PropertyContext

namespace Cli

/-- The placeholder of an engine property is a positive integer. -/
theorem get?_placeholders {name : String} (h : name ∈ PropertyContext.engineNames) :
    ∃ n, placeholders.get? name = some (.int n) ∧ 0 < n := by
  obtain ⟨value, hmem, hget⟩ := PropertyContext.get?_ofViewport h
    ⟨⟨1920, 1080⟩, ⟨1920, 1080⟩, ⟨1920, 1080⟩⟩
  have hpositive : ∃ n, value = .int n ∧ 0 < n := by
    simp only [Viewport.properties, List.mem_cons, Prod.mk.injEq, List.not_mem_nil, or_false]
      at hmem
    rcases hmem with ⟨-, rfl⟩ | ⟨-, rfl⟩ | ⟨-, rfl⟩ | ⟨-, rfl⟩ | ⟨-, rfl⟩ | ⟨-, rfl⟩
    all_goals exact ⟨_, rfl, by decide⟩
  obtain ⟨n, rfl, hn⟩ := hpositive
  exact ⟨n, hget, hn⟩

/-! ## Programs that need an engine only -/

/-- A shader declares engine properties only, and as numbers. -/
def EngineOnly (shader : Shader) : Prop :=
  ∀ declared ∈ shader.properties, declared.name ∈ PropertyContext.engineNames ∧
    (declared.type = .int ∨ declared.type = .float)

section

variable {text : String} {shader : Shader}

/-- The placeholders suit every declared property. -/
theorem supplied_placeholders (h : EngineOnly shader) : Supplied placeholders shader := by
  intro declared hmem
  obtain ⟨hname, htype⟩ := h declared hmem
  obtain ⟨n, hget, -⟩ := get?_placeholders hname
  refine ⟨.int n, hget, ?_⟩
  rcases htype with hint | hfloat
  · exact hint ▸ .int n
  · exact hfloat ▸ .promoted n

/-- The placeholders give every array of a checked shader a positive length. -/
theorem sized_placeholders (hchecked : shader.Checked) (h : EngineOnly shader)
    {declared : Declaration} (hmem : declared ∈ shader.declarations) :
    Sized placeholders declared := by
  intro reference harray
  have htype := hchecked.length_int declared hmem reference harray
  obtain ⟨property, hfound, -⟩ := Option.map_eq_some_iff.1 htype
  obtain ⟨hproperty, hname⟩ := hchecked.property?_eq_some_iff.1 hfound
  exact get?_placeholders (hname ▸ (h property hproperty).1)

/-- Whatever a configuration says, a program that needs an engine only is generated as for the
placeholders alone, and this does not fail. -/
theorem exists_programSource (hcompile : compile text = .ok shader) (h : EngineOnly shader)
    (dialect : Dialect) :
    ∃ source, programSource dialect shader placeholders = .ok source ∧
      ∀ defaults : PropertyContext,
        programSource dialect shader (defaults.mergedWith placeholders) = .ok source := by
  have hfit : placeholders.IntegersFit := by decide +kernel
  have hdecided := compile_decided hcompile hfit dialect
  obtain ⟨source, hsource⟩ : ∃ source, programSource dialect shader placeholders = .ok source := by
    rw [hdecided.source_iff]
    intro stage
    rw [hdecided.stage_iff]
    exact ⟨supplied_placeholders h, fun declared hmem =>
      sized_placeholders (checked_of_compile hcompile) h
        (mem_declarations_of_mem_stageDeclarations hmem)⟩
  refine ⟨source, hsource, fun defaults => ?_⟩
  have hagree : Agree shader (defaults.mergedWith placeholders) placeholders := by
    refine agree_of_get? fun name hdeclares => ?_
    obtain ⟨declared, hmem, rfl⟩ := hdeclares
    obtain ⟨n, hget, -⟩ := get?_placeholders (h declared hmem).1
    rw [PropertyContext.get?_mergedWith, hget, Option.some_or]
  rw [(samePrograms_of_values (values_congr hagree) dialect).program_eq, hsource]

end

/-! ## Options -/

/-- An option of a command line. -/
inductive DumpOption where
  | gles
  | json
  | verbose
  | config (path : String)
deriving DecidableEq

/-- The arguments that an option is written with. -/
def DumpOption.arguments : DumpOption → List String
  | .gles => ["--gles"]
  | .json => ["--json"]
  | .verbose => ["--verbose"]
  | .config path => ["--config", path]

/-- The path of a configuration. -/
def DumpOption.path? : DumpOption → Option String
  | .config path => some path
  | _ => none

/-- The path of the last configuration. -/
def lastConfig? (options : List DumpOption) : Option String :=
  (options.filterMap DumpOption.path?).getLast?

/-- Of an option and those behind it, the last configuration is the last one behind or its own. -/
theorem lastConfig?_cons (option : DumpOption) (rest : List DumpOption) :
    lastConfig? (option :: rest) = (lastConfig? rest).or option.path? := by
  cases option with
  | config path => simp [lastConfig?, DumpOption.path?, List.getLast?_cons]
  | gles => simp [lastConfig?, DumpOption.path?]
  | json => simp [lastConfig?, DumpOption.path?]
  | verbose => simp [lastConfig?, DumpOption.path?]

/-- Of a list of options it counts whether the marks occur and which configuration is the last. -/
theorem parseOptions_arguments (known : Options) (options : List DumpOption) :
    parseOptions known (options.flatMap DumpOption.arguments) =
      .ok ⟨known.file, (lastConfig? options).or known.config,
        known.gles || decide (.gles ∈ options), known.json || decide (.json ∈ options)⟩ := by
  induction options generalizing known with
  | nil => simp [parseOptions, lastConfig?]
  | cons option rest ih =>
    rw [List.flatMap_cons, lastConfig?_cons]
    cases option with
    | gles =>
      have hrest := ih { known with gles := true }
      simpa [parseOptions, DumpOption.arguments, DumpOption.path?] using hrest
    | json =>
      have hrest := ih { known with json := true }
      simpa [parseOptions, DumpOption.arguments, DumpOption.path?] using hrest
    | verbose =>
      have hrest := ih known
      simpa [parseOptions, DumpOption.arguments, DumpOption.path?] using hrest
    | config path =>
      have hrest := ih { known with config := some path }
      simpa [parseOptions, DumpOption.arguments, DumpOption.path?] using hrest

/-- What options choose for a file. -/
def chosen (file : String) (options : List DumpOption) : Options :=
  ⟨file, lastConfig? options, decide (.gles ∈ options), decide (.json ∈ options)⟩

/-- A file with any options behind it is understood. -/
theorem parse_arguments (file : String) (options : List DumpOption) :
    parse (file :: options.flatMap DumpOption.arguments) = .ok (chosen file options) := by
  simpa [parse, chosen] using parseOptions_arguments ⟨file, none, false, false⟩ options

/-! ## The command -/

/-- What the command leaves behind if the files are what a function of their paths gives. -/
def output (program : String) (read : String → Except FileError String) (arguments : List String) :
    Output :=
  Id.run (run program (fun path => pure (read path)) arguments)

/-- The configuration that options choose: that of the last path, or the standard one. -/
inductive Configured (read : String → Except FileError String) (options : List DumpOption) :
    Config → Prop where
  | standard (hnone : lastConfig? options = none) : Configured read options ⟨.gl330, .empty⟩
  | file {path : String} {config : Config} (hlast : lastConfig? options = some path)
    (hread : Config.ofFile (read path) = .ok config) : Configured read options config

/-- The dialect of a dump. -/
def dumpDialect (options : List DumpOption) (config : Config) : Dialect :=
  if .gles ∈ options then .gles300 else config.dialect

/-- The text that a dump prints. -/
def printed (options : List DumpOption) (shader : Shader) (source : ProgramSource) : String :=
  if .json ∈ options then (Dump.both shader source).text ++ "\n"
  else
    "// ---- vertex ----\n" ++ source.vertex ++ "\n// ---- fragment ----\n" ++ source.fragment ++
      "\n"

section

variable {read : String → Except FileError String} {options : List DumpOption} {config : Config}
  {file text : String} {shader : Shader} {source : ProgramSource}

/-- The configuration that options choose is read. -/
theorem readConfig_chosen (hconfig : Configured read options config) (file : String) :
    Id.run (readConfig (fun path => pure (read path)) (chosen file options)) = .ok config := by
  cases hconfig with
  | standard hnone =>
    rw [chosen, hnone]
    rfl
  | file hlast hread => simp [readConfig, chosen, hlast, hread]

/-- A program is dumped if its source can be generated for the placeholders. -/
theorem dump_chosen (file : String) (hcompile : compile text = .ok shader)
    (hsource : programSource (dumpDialect options config) shader
      (config.properties.mergedWith placeholders) = .ok source) :
    dump (chosen file options) config (.ok text) = ⟨0, printed options shader source, ""⟩ := by
  have hdialect : ((chosen file options).applied config).dialect = dumpDialect options config := by
    by_cases hgles : DumpOption.gles ∈ options <;>
      simp [Options.applied, chosen, dumpDialect, hgles]
  have hproperties : ((chosen file options).applied config).properties = config.properties := by
    by_cases hgles : DumpOption.gles ∈ options <;> simp [Options.applied, chosen, hgles]
  have hprocessed : ProgramSource.ofFile ((chosen file options).applied config) placeholders
      (.ok text) = .ok (shader, source) := by
    simp [ProgramSource.ofFile, Except.mapError, bind, Except.bind, pure, Except.pure, hdialect,
      hproperties, hcompile, hsource]
  have htext : dumpText (chosen file options) shader source = printed options shader source := by
    simp [dumpText, chosen, printed]
  rw [dump, hprocessed]
  simp only [htext]

/-- The command ends well and prints what is generated for the placeholders. -/
theorem output_of_programSource (program : String) (hfile : read file = .ok text)
    (hcompile : compile text = .ok shader) (hconfig : Configured read options config)
    (hsource : programSource (dumpDialect options config) shader
      (config.properties.mergedWith placeholders) = .ok source) :
    output program read (file :: options.flatMap DumpOption.arguments) =
      ⟨0, printed options shader source, ""⟩ := by
  rw [output, run, parse_arguments]
  have hdump := dump_chosen file hcompile hsource
  have hpath : (chosen file options).file = file := rfl
  simp [readConfig_chosen hconfig, hpath, hfile, hdump]

end

/-! ## Dumps without an engine -/

/-- A declared property is one of an engine, and a number. -/
instance (shader : Shader) : Decidable (EngineOnly shader) :=
  inferInstanceAs (Decidable (∀ declared ∈ shader.properties, _ ∧ _))

/-- What is expected of the dump of a program: that it is the one generated for the placeholders,
and what it depends on. -/
structure DumpedOffline (program file text : String) (shader : Shader)
    (read : String → Except FileError String) (options : List DumpOption) (config : Config) :
    Prop where
  /-- The command ends well and prints what is generated for the placeholders, whether alone or
  over the configured values. -/
  prints : ∃ source, output program read (file :: options.flatMap DumpOption.arguments) =
      ⟨0, printed options shader source, ""⟩ ∧
    programSource (dumpDialect options config) shader placeholders = .ok source ∧
    programSource (dumpDialect options config) shader
      (config.properties.mergedWith placeholders) = .ok source
  /-- The order of the options makes no difference if the same configuration is the last. -/
  reordered : ∀ other : List DumpOption, other.Perm options →
    lastConfig? other = lastConfig? options →
      output program read (file :: other.flatMap DumpOption.arguments) =
        output program read (file :: options.flatMap DumpOption.arguments)
  /-- With other files and the same program, only the dialect of the configuration counts. -/
  values : ∀ (read' : String → Except FileError String) (config' : Config),
    read' file = .ok text → Configured read' options config' →
      dumpDialect options config' = dumpDialect options config →
        output program read' (file :: options.flatMap DumpOption.arguments) =
          output program read (file :: options.flatMap DumpOption.arguments)

/-- A program that declares one of its engine properties as a floating-point number. -/
def scaledSource : String :=
  "property int CONTENT_WIDTH; property float SCENE_HEIGHT; uniform 0 vec2 u[$CONTENT_WIDTH];
vertex \x7b float h = $SCENE_HEIGHT; \x7d fragment \x7b\x7d"

/-- A configuration in which one engine property is no array length and another one is a text. -/
def sizesText : String :=
  "version: gles300\nproperties:\n  CONTENT_WIDTH: -4\n  SCENE_HEIGHT: tall\n"

/-- The configuration that the text means. -/
def sizesConfig : Config :=
  ⟨.gles300, .ofList [("CONTENT_WIDTH", .int (-4)), ("SCENE_HEIGHT", .text "tall")]⟩

/-- Files with the program and the configuration. -/
def scaledFiles : String → Except FileError String
  | "scaled.program" => .ok scaledSource
  | "sizes.yaml" => .ok sizesText
  | _ => .error .notFound

end Cli

end ShaderPipeline
