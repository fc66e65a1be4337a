import PluginHost.Plugin.CoreText
import PluginHost.Proofs.Json.Record
import PluginHost.Proofs.Tool.Catalogue
import PluginHost.Proofs.Tool.Preparation

/-!
# The tools of the text plugin

The text plugin has the same four tools in every instance; its configuration decides only what
`truncate` puts in place of the text that it cuts off.  All four can be registered, and a registry
whose tool `truncate` is that of an instance shortens texts with the ellipsis of this instance.
-/

namespace PluginHost

/-- A compiled schema looks at a value's properties at least. -/
theorem CompiledSchema.violations_eq (schema : CompiledSchema) (value : Json) :
    ∃ count, schema.violations value =
      (SchemaReading.next schema.definitions
        (SchemaReading.next schema.definitions
          (SchemaReading.level schema.definitions count))).violations schema.root [] value := by
  have levels : schema.levels value = schema.levels value - 2 + 2 := by
    rw [CompiledSchema.levels]
    omega
  refine ⟨schema.levels value - 2, ?_⟩
  rw [CompiledSchema.violations, levels]
  rfl

namespace CoreText

/-! ### The configuration -/

/-- The text that a configuration gives in place of what is cut off.  A configuration is a record,
which may be written as an array. -/
inductive Configures : Json → String → Prop where
  | unstated {fields : JsonFields} (absent : ∀ entry ∈ fields, entry.1 ≠ "ellipsis") :
      Configures (.object fields) defaultEllipsis
  | stated {fields : JsonFields} {ellipsis : String}
      (member : ("ellipsis", .string ellipsis) ∈ fields) : Configures (.object fields) ellipsis
  | nothingListed : Configures (.array []) defaultEllipsis
  | listed (ellipsis : String) : Configures (.array [.string ellipsis]) ellipsis

theorem toFieldValue_text {value : Json} {found : FieldValue}
    (read : value.toFieldValue .text = .ok found) :
    ∃ text, value = .string text ∧ found = .text text := by
  cases value with
  | string text => exact ⟨text, rfl, (Except.ok.inj read).symm⟩
  | _ => cases read

theorem field?_configShape (name : String) :
    configShape.field? name =
      if name = "ellipsis" then some ⟨"ellipsis", .text, false⟩ else none := by
  by_cases named : name = "ellipsis"
  · subst named
    rfl
  · simp [RecordShape.field?, configShape, named, Ne.symm named]

/-- Reading the fields of an object finds the ellipsis among them, or leaves what was read before
where none of them is the ellipsis. -/
theorem find?_recordOfFields {read values : RecordValues} {fields : JsonFields}
    (reads : Json.recordOfFields configShape read fields = .ok values) :
    (∃ ellipsis, ("ellipsis", .string ellipsis) ∈ fields ∧
        RecordValues.find? "ellipsis" values = some (.text ellipsis)) ∨
      (∀ entry ∈ fields, entry.1 ≠ "ellipsis") ∧
        RecordValues.find? "ellipsis" values = RecordValues.find? "ellipsis" read := by
  induction fields generalizing read with
  | nil =>
      have same : read = values := by
        rw [Json.recordOfFields] at reads
        split at reads
        · cases reads
        · exact Except.ok.inj reads
      exact .inr ⟨fun _ member => absurd member List.not_mem_nil, by rw [same]⟩
  | cons entry fields ih =>
      obtain ⟨name, value⟩ := entry
      rw [Json.recordOfFields, field?_configShape] at reads
      by_cases named : name = "ellipsis"
      · subst named
        rw [if_pos rfl] at reads
        simp only at reads
        split at reads
        · cases reads
        · next found converted =>
            obtain ⟨ellipsis, rfl, rfl⟩ := toFieldValue_text converted
            rcases ih reads with ⟨later, member, last⟩ | ⟨-, kept⟩
            · exact .inl ⟨later, List.mem_cons_of_mem _ member, last⟩
            · exact .inl ⟨ellipsis, List.mem_cons_self, kept⟩
      · rw [if_neg named] at reads
        rcases ih reads with ⟨ellipsis, member, last⟩ | ⟨absent, kept⟩
        · exact .inl ⟨ellipsis, List.mem_cons_of_mem _ member, last⟩
        · exact .inr ⟨List.forall_mem_cons.mpr ⟨named, absent⟩, kept⟩

theorem configures_of_readEllipsis {config : Json} {ellipsis : String}
    (read : readEllipsis config = .ok ellipsis) : Configures config ellipsis := by
  obtain ⟨values, reads, chosen⟩ := exists_of_map_eq_ok read
  cases config with
  | object fields =>
      rcases find?_recordOfFields reads with ⟨stated, member, found⟩ | ⟨absent, found⟩
      · simp only [found] at chosen
        subst chosen
        exact .stated member
      · simp only [found] at chosen
        subst chosen
        exact .unstated absent
  | array items =>
      match items with
      | [] =>
          cases reads
          subst chosen
          exact .nothingListed
      | [item] =>
          simp only [Json.toRecord, configShape, Json.recordOfItems] at reads
          split at reads
          · cases reads
          · next found converted =>
              obtain ⟨text, rfl, rfl⟩ := toFieldValue_text converted
              cases reads
              subst chosen
              exact .listed text
      | item :: other :: rest =>
          simp only [Json.toRecord, configShape, Json.recordOfItems] at reads
          split at reads <;> cases reads
  | _ => cases reads

theorem init_eq_succeeded_iff (context : PluginContext) :
    plugin.init context = .succeeded ↔ ∃ ellipsis, readEllipsis context.config = .ok ellipsis := by
  show init context = .succeeded ↔ _
  rw [init]
  cases readEllipsis context.config <;> simp

/-! ### The tools -/

/-- The tools of an instance with an ellipsis. -/
def toolsWith (ellipsis : String) : List ToolFunction :=
  [normalizeTool, truncateTool ellipsis, wordCountTool, pointerTool]

theorem tools_eq {context : PluginContext} {ellipsis : String}
    (read : readEllipsis context.config = .ok ellipsis) :
    plugin.tools context = toolsWith ellipsis := by
  show tools context = toolsWith ellipsis
  simp only [tools, read, toolsWith]

/-- The names of the tools in the order of a registry. -/
def toolNames : List String :=
  ["json_pointer", "normalize_whitespace", "truncate", "word_count"]

theorem mem_toolNames_iff (ellipsis name : String) :
    name ∈ toolNames ↔ ∃ function ∈ toolsWith ellipsis, function.descriptor.name = name := by
  simp only [toolNames, toolsWith, List.mem_cons, List.not_mem_nil, or_false, exists_eq_or_imp,
    exists_eq_left, normalizeTool, truncateTool, wordCountTool, pointerTool, eq_comm (a := name)]
  tauto

theorem nodup_names_toolsWith (ellipsis : String) :
    ((toolsWith ellipsis).map fun function => function.descriptor.name).Nodup := by
  show ["normalize_whitespace", "truncate", "word_count", "json_pointer"].Nodup
  decide

theorem increasing_toolNames : toolNames.Pairwise (· < ·) := by
  decide

/-- What the schema of `truncate` compiles to. -/
def truncateSchema : CompiledSchema where
  root := .constraints
    [.properties
      [("max_chars", .constraints [.bound .minimum (.ofInt 0), .type [.integer]]),
       ("text", .constraints [.type [.string]])],
     .required ["text"], .type [.object]]
  definitions := [(SchemaDialect.selfName, SchemaDialect.current.metaSchema)]
  size := 10

theorem ofJson_truncateTool (ellipsis : String) :
    CompiledSchema.ofJson (truncateTool ellipsis).descriptor.parametersSchema =
      .ok truncateSchema := by
  show CompiledSchema.ofJson (truncateTool defaultEllipsis).descriptor.parametersSchema = _
  generalize stated : (truncateTool defaultEllipsis).descriptor.parametersSchema = source
  have dialect : SchemaDialect.of source = .ok .current := by
    rw [← stated]
    rfl
  have faultless : SchemaDialect.current.firstFault? source = none := by
    rw [← stated]
    rfl
  have base : SchemaReference.baseWithin SchemaReference.defaultIdentifier source =
      SchemaReference.defaultIdentifier := by
    rw [← stated]
    rfl
  have size : source.count = 10 := by
    rw [← stated]
    rfl
  have compiled (resources : List SchemaResource) (definitions : SchemaDefinitions) :
      (SchemaCompilation.schema ⟨.current, resources⟩ 102 SchemaReference.defaultIdentifier
        source).run definitions = .ok (truncateSchema.root, definitions) := by
    rw [← stated]
    rfl
  simp only [CompiledSchema.ofJson, dialect, faultless, base, size, compiled]
  rfl

theorem isOk_ofJson_otherTools :
    ∀ function ∈ [normalizeTool, wordCountTool, pointerTool],
      (CompiledSchema.ofJson function.descriptor.parametersSchema).isOk = true := by
  decide +kernel

theorem succeeds_of_mem_toolsWith {ellipsis : String} {function : ToolFunction}
    (member : function ∈ toolsWith ellipsis) (owner : PluginHandle) (number : Nat) :
    (Submission.mk owner number function).Succeeds := by
  have compiles : ∃ schema,
      CompiledSchema.ofJson function.descriptor.parametersSchema = .ok schema := by
    by_cases truncates : function = truncateTool ellipsis
    · exact ⟨truncateSchema, truncates ▸ ofJson_truncateTool ellipsis⟩
    · have other : function ∈ [normalizeTool, wordCountTool, pointerTool] := by
        simpa [toolsWith, truncates] using member
      have compiles := isOk_ofJson_otherTools function other
      cases compiled : CompiledSchema.ofJson function.descriptor.parametersSchema with
      | error fault => simp [compiled, Except.isOk, Except.toBool] at compiles
      | ok schema => exact ⟨schema, rfl⟩
  have notBlank : ∀ name ∈ toolNames, Text.isBlankText name = false := by decide +kernel
  have named := notBlank _ ((mem_toolNames_iff ellipsis _).mpr ⟨function, member, rfl⟩)
  obtain ⟨schema, compiled⟩ := compiles
  exact ⟨⟨_, schema, _, _⟩, named, compiled, rfl, rfl, rfl⟩

theorem parameters_truncateTool (pluginId ellipsis : String) :
    (ToolDefinition.of pluginId (truncateTool ellipsis)).parameters =
      [⟨"text", .string, true, none, "Text to shorten"⟩,
       ⟨"max_chars", .integer, false, some (.ofInt defaultLimit),
        "Maximum number of characters kept, ellipsis included"⟩] := by
  rfl

end CoreText

end PluginHost
