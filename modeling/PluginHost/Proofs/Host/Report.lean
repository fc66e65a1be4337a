import PluginHost.Proofs.Capability.Refusal
import PluginHost.Proofs.Host.Verdict
import PluginHost.Proofs.Settings.Extraction

/-!
# What the report on a manifest states

The report asks each gate on its own, and its JSON has a verdict of every one.  A manager that has
loaded nothing stops at the first gate that is closed, so that its error is the first negative
verdict in the order of the gates: versions, capabilities, implementation.
-/

namespace PluginHost

/-! ### Reading the JSON -/

namespace Json

/-- A JSON value states at a path whether something holds. -/
def Decides (json : Json) (path : List String) (holds : Prop) : Prop :=
  ∃ verdict, json.at? path = some (.bool verdict) ∧ (verdict = true ↔ holds)

theorem Decides.affirmed_iff {json : Json} {path : List String} {holds : Prop}
    (decides : json.Decides path holds) : json.at? path = some (.bool true) ↔ holds := by
  obtain ⟨verdict, found, correct⟩ := decides
  simp [found, correct]

theorem Decides.denied_iff {json : Json} {path : List String} {holds : Prop}
    (decides : json.Decides path holds) : json.at? path = some (.bool false) ↔ ¬ holds := by
  obtain ⟨verdict, found, correct⟩ := decides
  simp [found, ← correct]

theorem at?_ofFields {entries : List (String × Json)} (distinct : (KeyedList.keys entries).Nodup)
    (key : String) (path : List String) :
    (ofFields entries).at? (key :: path) = (KeyedList.get? key entries).bind (at? path) := by
  rw [at?, ofFields, get?, KeyedList.get?_ofList_of_nodup distinct]

/-- The first negative verdict that the JSON of a report states, as an error. -/
inductive FirstFailure (json : Json) : AdmissionError → Prop where
  | version {mismatch : Mismatch}
      (closed : json.at? ["versions", "admitted"] = some (.bool false))
      (reason : json.at? ["versions", "reason"] = some (.string mismatch.message)) :
      FirstFailure json (.version mismatch)
  | capability {violation : CapabilityViolation}
      (fits : json.at? ["versions", "admitted"] = some (.bool true))
      (closed : json.at? ["capabilities", "admitted"] = some (.bool false))
      (plugin : json.at? ["id"] = some (.string violation.pluginId))
      (denied : json.at? ["capabilities", "denied"] =
        some (.array (violation.denied.map .string))) :
      FirstFailure json (.capability violation)
  | unknownImplementation {implementation : String}
      (fits : json.at? ["versions", "admitted"] = some (.bool true))
      (allowed : json.at? ["capabilities", "admitted"] = some (.bool true))
      (closed : json.at? ["factoryRegistered"] = some (.bool false))
      (named : json.at? ["implementation"] = some (.string implementation)) :
      FirstFailure json (.unknownImplementation implementation)

end Json

namespace AdmissionReport

/-- The entries of a report. -/
def entries (report : AdmissionReport) : List (String × Json) :=
  [("id", .string report.manifest.id), ("version", .string report.manifest.version),
   ("apiVersion", .string report.manifest.apiVersion),
   ("implementation", .string report.manifest.implementation),
   ("host", .ofFields
     [("version", .string report.versions.host.text),
      ("apiVersion", .string report.versions.api.text)]),
   ("versions", report.versionVerdict), ("capabilities", report.capabilityVerdict),
   ("factoryRegistered", .bool report.hasFactory),
   ("admissible", .bool report.isAdmissible)]

theorem at?_toJson (report : AdmissionReport) (key : String) (path : List String) :
    report.toJson.at? (key :: path) =
      (KeyedList.get? key report.entries).bind (Json.at? path) :=
  Json.at?_ofFields (by simp [KeyedList.keys]) key path

theorem at?_id (report : AdmissionReport) :
    report.toJson.at? ["id"] = some (.string report.manifest.id) := by
  rw [at?_toJson]
  rfl

theorem at?_implementation (report : AdmissionReport) :
    report.toJson.at? ["implementation"] = some (.string report.manifest.implementation) := by
  rw [at?_toJson]
  rfl

theorem at?_versions (report : AdmissionReport) (path : List String) :
    report.toJson.at? ("versions" :: path) = report.versionVerdict.at? path := by
  rw [at?_toJson]
  rfl

theorem at?_capabilities (report : AdmissionReport) (path : List String) :
    report.toJson.at? ("capabilities" :: path) = report.capabilityVerdict.at? path := by
  rw [at?_toJson]
  rfl

theorem decides_versions (report : AdmissionReport) :
    report.toJson.Decides ["versions", "admitted"] (report.versionCheck = .ok ()) := by
  refine ⟨isPassed report.versionCheck, ?_, isPassed_eq_true_iff⟩
  rw [at?_versions, versionVerdict]
  cases report.versionCheck with
  | ok _ => rfl
  | error _ => exact Json.at?_ofFields (by simp [KeyedList.keys]) "admitted" []

theorem decides_capabilities (report : AdmissionReport) :
    report.toJson.Decides ["capabilities", "admitted"] (report.capabilityCheck = .ok ()) := by
  refine ⟨isPassed report.capabilityCheck, ?_, isPassed_eq_true_iff⟩
  rw [at?_capabilities, capabilityVerdict]
  cases report.capabilityCheck with
  | ok _ => exact Json.at?_ofFields (by simp [KeyedList.keys]) "admitted" []
  | error _ => exact Json.at?_ofFields (by simp [KeyedList.keys]) "admitted" []

theorem decides_factory (report : AdmissionReport) :
    report.toJson.Decides ["factoryRegistered"] (report.hasFactory = true) := by
  refine ⟨report.hasFactory, ?_, Iff.rfl⟩
  rw [at?_toJson]
  rfl

theorem decides_admissible (report : AdmissionReport) :
    report.toJson.Decides ["admissible"]
      (report.versionCheck = .ok () ∧ report.capabilityCheck = .ok () ∧
        report.hasFactory = true) := by
  refine ⟨report.isAdmissible, ?_, ?_⟩
  · rw [at?_toJson]
    rfl
  · simp only [isAdmissible, Bool.and_eq_true, isPassed_eq_true_iff, and_assoc]

theorem reason_iff (report : AdmissionReport) (value : Json) :
    report.toJson.at? ["versions", "reason"] = some value ↔
      ∃ mismatch, report.versionCheck = .error mismatch ∧ .string mismatch.message = value := by
  rw [at?_versions, versionVerdict]
  cases report.versionCheck with
  | ok _ =>
      rw [Json.at?_ofFields (by simp [KeyedList.keys])]
      simp [KeyedList.get?]
  | error mismatch =>
      rw [Json.at?_ofFields (by simp [KeyedList.keys])]
      simp [KeyedList.get?, Json.at?]

theorem denied_iff (report : AdmissionReport) (value : Json) :
    report.toJson.at? ["capabilities", "denied"] = some value ↔
      ∃ violation, report.capabilityCheck = .error violation ∧
        .array (violation.denied.map .string) = value := by
  rw [at?_capabilities, capabilityVerdict]
  cases report.capabilityCheck with
  | ok _ =>
      rw [Json.at?_ofFields (by simp [KeyedList.keys])]
      simp [KeyedList.get?]
  | error violation =>
      rw [Json.at?_ofFields (by simp [KeyedList.keys])]
      simp [KeyedList.get?, Json.at?]

end AdmissionReport

/-! ### The report and a manager that has loaded nothing -/

/-- Rules with the same versions, policy and implementations. -/
structure AdmissionRules.SameGates (rules others : AdmissionRules) : Prop where
  versions : rules.versions = others.versions
  policy : rules.policy = others.policy
  factories : rules.factories = others.factories

namespace PluginManager

variable {rules : AdmissionRules} {manifest : Manifest} {manager : PluginManager}

theorem newId_of_loaded_eq_nil (nothing : manager.loaded = []) :
    manifest.id ∉ manager.loadedIds := by
  simp [loadedIds, nothing]

/-- The gate of the versions is the first. -/
theorem evaluate_eq_version_iff (nothing : manager.loaded = []) (mismatch : Mismatch) :
    manager.evaluate manifest = .error (.version mismatch) ↔
      manifest.resolve manager.rules.versions = .error mismatch := by
  rw [evaluate_eq_error_iff]
  constructor
  · intro refusal
    cases refusal with
    | version newId rejected => exact rejected
  · exact .version (newId_of_loaded_eq_nil nothing)

theorem evaluate_eq_capability_iff (nothing : manager.loaded = [])
    (fits : manifest.resolve manager.rules.versions = .ok ()) (violation : CapabilityViolation) :
    manager.evaluate manifest = .error (.capability violation) ↔
      manager.rules.policy.enforce manifest.id manifest.capabilities = .error violation := by
  rw [evaluate_eq_error_iff]
  constructor
  · intro refusal
    cases refusal with
    | capability newId fits denied => exact denied
  · exact .capability (newId_of_loaded_eq_nil nothing) fits

theorem evaluate_eq_unknownImplementation_iff (nothing : manager.loaded = [])
    (fits : manifest.resolve manager.rules.versions = .ok ())
    (allowed : manager.rules.policy.enforce manifest.id manifest.capabilities = .ok ()) :
    manager.evaluate manifest = .error (.unknownImplementation manifest.implementation) ↔
      ¬ manager.rules.factories.contains manifest.implementation = true := by
  rw [evaluate_eq_error_iff, Bool.not_eq_true]
  constructor
  · intro refusal
    cases refusal with
    | unknownImplementation newId fits allowed unknown => exact unknown
  · exact .unknownImplementation (newId_of_loaded_eq_nil nothing) fits allowed

theorem evaluate_eq_ok_iff_of_loaded_eq_nil (nothing : manager.loaded = []) :
    manager.evaluate manifest = .ok () ↔
      manifest.resolve manager.rules.versions = .ok () ∧
        manager.rules.policy.enforce manifest.id manifest.capabilities = .ok () ∧
        manager.rules.factories.contains manifest.implementation = true := by
  rw [evaluate_eq_ok_iff]
  constructor
  · intro admissible
    exact ⟨admissible.fits, admissible.allowed, admissible.constructible⟩
  · rintro ⟨fits, allowed, constructible⟩
    exact ⟨newId_of_loaded_eq_nil nothing, fits, allowed, constructible⟩

theorem Refusal.firstFailure {error : AdmissionError} (refusal : manager.Refusal manifest error)
    (nothing : manager.loaded = []) :
    (AdmissionReport.of manager.rules manifest).toJson.FirstFailure error := by
  let report := AdmissionReport.of manager.rules manifest
  cases refusal with
  | duplicateId taken => exact absurd taken (newId_of_loaded_eq_nil nothing)
  | @version mismatch newId rejected =>
      have closed : report.versionCheck ≠ .ok () := by
        rw [show report.versionCheck = .error mismatch from rejected]
        nofun
      exact .version (report.decides_versions.denied_iff.mpr closed)
        ((report.reason_iff _).mpr ⟨mismatch, rejected, rfl⟩)
  | @capability violation newId fits denied =>
      have closed : report.capabilityCheck ≠ .ok () := by
        rw [show report.capabilityCheck = .error violation from denied]
        nofun
      have plugin : report.manifest.id = violation.pluginId :=
        (CapabilityPolicy.enforce_eq_error_iff.mp denied).1.symm
      exact .capability (report.decides_versions.affirmed_iff.mpr fits)
        (report.decides_capabilities.denied_iff.mpr closed) (plugin ▸ report.at?_id)
        ((report.denied_iff _).mpr ⟨violation, denied, rfl⟩)
  | unknownImplementation newId fits allowed unknown =>
      exact .unknownImplementation (report.decides_versions.affirmed_iff.mpr fits)
        (report.decides_capabilities.affirmed_iff.mpr allowed)
        (report.decides_factory.denied_iff.mpr (Bool.eq_false_iff.mp unknown))
        report.at?_implementation

/-- A first negative verdict is the one of the check, whose error has the same wording. -/
theorem exists_evaluate_of_firstFailure {error : AdmissionError} (nothing : manager.loaded = [])
    (failure : (AdmissionReport.of manager.rules manifest).toJson.FirstFailure error) :
    ∃ given, manager.evaluate manifest = .error given ∧ given.message = error.message := by
  cases failure with
  | @version mismatch closed reason =>
      obtain ⟨given, rejected, same⟩ := (AdmissionReport.reason_iff _ _).mp reason
      have same : given.message = mismatch.message := Json.string.inj same
      exact ⟨.version given, (evaluate_eq_version_iff nothing given).mpr rejected,
        congrArg (fun text => s!"version requirements not met: {text}") same⟩
  | @capability violation fits closed plugin denied =>
      obtain ⟨given, refused, same⟩ := (AdmissionReport.denied_iff _ _).mp denied
      have fits := (AdmissionReport.decides_versions _).affirmed_iff.mp fits
      have id : given.pluginId = manifest.id :=
        (CapabilityPolicy.enforce_eq_error_iff.mp refused).1
      have samePlugin : given.pluginId = violation.pluginId := by
        rw [AdmissionReport.at?_id] at plugin
        exact id.trans (Json.string.inj (Option.some.inj plugin))
      have sameDenied : given.denied = violation.denied :=
        List.map_injective_iff.mpr (fun _ _ => Json.string.inj) (Json.array.inj same)
      have same : given = violation := by
        obtain ⟨_, _⟩ := given
        exact congrArg₂ CapabilityViolation.mk samePlugin sameDenied
      exact ⟨.capability given, (evaluate_eq_capability_iff nothing fits given).mpr refused,
        by rw [same]⟩
  | @unknownImplementation implementation fits allowed closed named =>
      have fits := (AdmissionReport.decides_versions _).affirmed_iff.mp fits
      have allowed := (AdmissionReport.decides_capabilities _).affirmed_iff.mp allowed
      have unknown := (AdmissionReport.decides_factory _).denied_iff.mp closed
      have same : manifest.implementation = implementation := by
        rw [AdmissionReport.at?_implementation] at named
        exact Json.string.inj (Option.some.inj named)
      exact ⟨_, (evaluate_eq_unknownImplementation_iff nothing fits allowed).mpr unknown,
        by rw [same]⟩

end PluginManager

theorem AdmissionReport.of_congr {rules others : AdmissionRules} (same : rules.SameGates others)
    (manifest : Manifest) : AdmissionReport.of rules manifest = .of others manifest := by
  rw [AdmissionReport.of, AdmissionReport.of, same.versions, same.policy, same.factories]

/-- What the JSON of a report by rules states, next to managers that have loaded nothing and share
the gates of the rules, or just the one that a verdict is about. -/
structure ReportsEveryGate (rules : AdmissionRules) (manifest : Manifest) (json : Json) :
    Prop where
  versions : json.Decides ["versions", "admitted"] (manifest.resolve rules.versions = .ok ())
  capabilities : json.Decides ["capabilities", "admitted"]
    (rules.policy.enforce manifest.id manifest.capabilities = .ok ())
  factory : json.Decides ["factoryRegistered"]
    (rules.factories.contains manifest.implementation = true)
  admissible : json.Decides ["admissible"]
    (manifest.resolve rules.versions = .ok () ∧
      rules.policy.enforce manifest.id manifest.capabilities = .ok () ∧
      rules.factories.contains manifest.implementation = true)
  reason : ∀ manager : PluginManager, manager.loaded = [] →
    manager.rules.versions = rules.versions → ∀ value,
      json.at? ["versions", "reason"] = some value ↔
        ∃ mismatch, manager.evaluate manifest = .error (.version mismatch) ∧
          .string mismatch.message = value
  denied : ∀ manager : PluginManager, manager.loaded = [] → manager.rules.policy = rules.policy →
    manifest.resolve manager.rules.versions = .ok () → ∀ value,
      json.at? ["capabilities", "denied"] = some value ↔
        ∃ violation, manager.evaluate manifest = .error (.capability violation) ∧
          .array (violation.denied.map .string) = value
  unregistered : ∀ manager : PluginManager, manager.loaded = [] →
    manager.rules.factories = rules.factories →
    manifest.resolve manager.rules.versions = .ok () →
    manager.rules.policy.enforce manifest.id manifest.capabilities = .ok () →
      (json.at? ["factoryRegistered"] = some (.bool false) ↔
        manager.evaluate manifest = .error (.unknownImplementation manifest.implementation))
  /-- Nothing is evaluated as an error exactly if the report says so. -/
  accepted : ∀ manager : PluginManager, manager.loaded = [] → manager.rules.SameGates rules →
    (json.at? ["admissible"] = some (.bool true) ↔ manager.evaluate manifest = .ok ())
  first : ∀ manager : PluginManager, manager.loaded = [] → manager.rules.SameGates rules →
    ∀ error, manager.evaluate manifest = .error error → json.FirstFailure error
  only : ∀ manager : PluginManager, manager.loaded = [] → manager.rules.SameGates rules →
    ∀ error, json.FirstFailure error →
      ∃ given, manager.evaluate manifest = .error given ∧ given.message = error.message

theorem AdmissionReport.reportsEveryGate (rules : AdmissionRules) (manifest : Manifest) :
    ReportsEveryGate rules manifest (AdmissionReport.of rules manifest).toJson where
  versions := (AdmissionReport.of rules manifest).decides_versions
  capabilities := (AdmissionReport.of rules manifest).decides_capabilities
  factory := (AdmissionReport.of rules manifest).decides_factory
  admissible := (AdmissionReport.of rules manifest).decides_admissible
  reason := by
    intro manager nothing same value
    simp only [PluginManager.evaluate_eq_version_iff nothing, same]
    exact (AdmissionReport.of rules manifest).reason_iff value
  denied := by
    intro manager nothing same fits value
    simp only [PluginManager.evaluate_eq_capability_iff nothing fits, same]
    exact (AdmissionReport.of rules manifest).denied_iff value
  unregistered := by
    intro manager nothing same fits allowed
    rw [PluginManager.evaluate_eq_unknownImplementation_iff nothing fits allowed, same]
    exact (AdmissionReport.of rules manifest).decides_factory.denied_iff
  accepted := by
    intro manager nothing same
    rw [← AdmissionReport.of_congr same,
      PluginManager.evaluate_eq_ok_iff_of_loaded_eq_nil nothing]
    exact (AdmissionReport.of manager.rules manifest).decides_admissible.affirmed_iff
  first := by
    intro manager nothing same error rejected
    rw [← AdmissionReport.of_congr same]
    exact (PluginManager.evaluate_eq_error_iff.mp rejected).firstFailure nothing
  only := by
    intro manager nothing same error failure
    rw [← AdmissionReport.of_congr same] at failure
    exact PluginManager.exists_evaluate_of_firstFailure nothing failure

end PluginHost
