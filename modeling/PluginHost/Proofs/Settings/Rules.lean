import Mathlib.Data.List.Forall2
import PluginHost.Proofs.Text.Blank
import PluginHost.Proofs.Text.Lines
import PluginHost.Settings.Loading

/-!
# The rules that settings keep

Ten rules are checked, each about a setting of its own.  Settings that keep all of them are accepted
as they are; of all others every broken rule is told once, in the order of the rules, by a wording
that begins with the key of its setting.  What is told about a rule hangs on its own setting and on
nothing else, so that no violation hides another, and a setting that is put right takes its own
violation away and leaves the others as they were.
-/

namespace PluginHost

open Text

/-! ### Names of hosts -/

/-- An internet address, or the characters of a host name and nothing else. -/
def IsHostName (text : List Char) : Prop :=
  isInternetAddress text = true ∨
    text ≠ [] ∧ ∀ c ∈ text, isAlphanumeric c = true ∨ c = '.' ∨ c = '-'

theorem isHostChar_iff {c : Char} :
    isHostChar c = true ↔ isAlphanumeric c = true ∨ c = '.' ∨ c = '-' := by
  simp [isHostChar, or_assoc]

/-- What is told about a host that is none: that it is blank, or what it is without the white space
around it. -/
def hostViolation (host : String) : SettingViolation :=
  if (trimList host.toList).isEmpty then .emptyHost else .badHost (trim host)

/-- A host is the name of a host apart from white space around it, or it is told once. -/
theorem hostViolations_cases (host : String) :
    (IsHostName (trimList host.toList) ∧ hostViolations host = []) ∨
      (¬ IsHostName (trimList host.toList) ∧ hostViolations host = [hostViolation host]) := by
  rw [hostViolations, hostViolation, trim]
  generalize trimList host.toList = trimmed
  cases trimmed with
  | nil =>
      refine .inr ⟨?_, rfl⟩
      rintro (address | ⟨letters, -⟩)
      · exact absurd address (by decide)
      · exact letters rfl
  | cons c rest =>
      have named : (isInternetAddress (c :: rest) || (c :: rest).all isHostChar) = true ↔
          IsHostName (c :: rest) := by
        simp only [IsHostName, Bool.or_eq_true, List.all_eq_true, isHostChar_iff, ne_eq,
          reduceCtorEq, not_false_eq_true, true_and]
      simp only [← named, List.isEmpty_cons, if_neg Bool.false_ne_true]
      by_cases holds : (isInternetAddress (c :: rest) || (c :: rest).all isHostChar) = true
      · exact .inl ⟨holds, if_pos holds⟩
      · exact .inr ⟨holds, if_neg holds⟩

/-- A host breaks no rule exactly if it is the name of a host without white space around it. -/
theorem hostViolations_eq_nil_iff {host : String} :
    hostViolations host = [] ↔ IsHostName (trimList host.toList) := by
  rcases hostViolations_cases host with ⟨named, told⟩ | ⟨unnamed, told⟩
  · exact iff_of_true told named
  · exact iff_of_false (by simp [told]) unnamed

theorem hostViolations_of_accepted {settings : HostSettings} (accepted : settings.violations = []) :
    hostViolations settings.server.host = [] := by
  simp only [HostSettings.violations, List.append_eq_nil_iff] at accepted
  exact accepted.1.1.1.1.1.1.1.1.1

/-! ### Names of levels -/

theorem toNat_toLower (c : Char) :
    c.toLower.toNat = if 65 ≤ c.toNat ∧ c.toNat ≤ 90 then c.toNat + 32 else c.toNat := by
  have upper : (c.val ≥ 'A'.val ∧ c.val ≤ 'Z'.val) ↔ 65 ≤ c.toNat ∧ c.toNat ≤ 90 := by
    simp only [ge_iff_le, UInt32.le_iff_toNat_le]
    exact Iff.rfl
  unfold Char.toLower
  split
  · next isUpper =>
      have bounds := upper.mp isUpper
      have sum : (c.val + ('a'.val - 'A'.val)).toNat = (c.toNat + 32) % 2 ^ 32 :=
        UInt32.toNat_add _ _
      rw [if_pos bounds]
      exact sum.trans (Nat.mod_eq_of_lt (by omega))
  · next notUpper => rw [if_neg (mt upper.mpr notUpper)]

theorem toNat_toUpper (c : Char) :
    c.toUpper.toNat = if 97 ≤ c.toNat ∧ c.toNat ≤ 122 then c.toNat - 32 else c.toNat := by
  have lower : ('a'.val ≤ c.val ∧ c.val ≤ 'z'.val) ↔ 97 ≤ c.toNat ∧ c.toNat ≤ 122 := by
    simp only [UInt32.le_iff_toNat_le]
    exact Iff.rfl
  unfold Char.toUpper
  split
  · next isLower =>
      have bounds := lower.mp isLower
      -- Words wrap around: adding the difference of the two cases takes 32 away.
      have sum : (c.val + ('A'.val - 'a'.val)).toNat = (c.toNat + (2 ^ 32 - 32)) % 2 ^ 32 :=
        UInt32.toNat_add _ _
      rw [if_pos bounds]
      exact sum.trans (by omega)
  · next notLower => rw [if_neg (mt lower.mpr notLower)]

theorem toLower_eq_iff {c letter : Char} (lower : letter.isLower = true) :
    c.toLower = letter ↔ c = letter ∨ c = letter.toUpper := by
  have between : 97 ≤ letter.toNat ∧ letter.toNat ≤ 122 := by
    unfold Char.isLower at lower
    simpa [UInt32.le_iff_toNat_le] using lower
  simp only [← Char.toNat_inj, toNat_toLower, toNat_toUpper, if_pos between]
  split <;> omega

/-- A text that has the letters of a name, each as it is or as a capital. -/
def SpellsInAnyCase (text name : List Char) : Prop :=
  List.Forall₂ (fun c letter => c = letter ∨ c = letter.toUpper) text name

theorem map_toLower_eq_iff {text name : List Char}
    (lower : ∀ letter ∈ name, letter.isLower = true) :
    text.map Char.toLower = name ↔ SpellsInAnyCase text name := by
  rw [SpellsInAnyCase]
  induction name generalizing text with
  | nil => simp
  | cons letter name ih =>
      cases text with
      | nil => simp
      | cons c text =>
          rw [List.map_cons, List.cons.injEq, List.forall₂_cons,
            toLower_eq_iff (lower letter List.mem_cons_self),
            ih fun other member => lower other (List.mem_cons_of_mem letter member)]

theorem isLogLevel_iff {level : String} :
    isLogLevel level = true ↔ ∃ name ∈ logLevels, SpellsInAnyCase level.toList name.toList := by
  have allLower : (logLevels.all fun name => name.toList.all Char.isLower) = true := by decide
  have lower (name : String) (listed : name ∈ logLevels) :
      ∀ letter ∈ name.toList, letter.isLower = true :=
    List.all_eq_true.mp (List.all_eq_true.mp allLower name listed)
  rw [isLogLevel, List.contains_iff_mem]
  constructor
  · intro listed
    exact ⟨_, listed, (map_toLower_eq_iff (lower _ listed)).mp String.toList_ofList.symm⟩
  · rintro ⟨name, listed, spells⟩
    rwa [(map_toLower_eq_iff (lower name listed)).mpr spells, String.ofList_toList]

/-! ### The rules -/

/-- A rule that settings are held to. -/
inductive SettingRule where
  | host
  | listenPort
  | bodySize
  | bodyTime
  | toolTime
  | providerTime
  | directory
  | baseUrl
  | toolRounds
  | level
deriving DecidableEq

namespace SettingRule

/-- The rules, in the order in which broken ones are told. -/
def inOrder : List SettingRule :=
  [host, listenPort, bodySize, bodyTime, toolTime, providerTime, directory, baseUrl, toolRounds,
    level]

/-- The key of the setting that a rule is about. -/
def key : SettingRule → String
  | host => "server.host"
  | listenPort => "server.port"
  | bodySize => "server.max_body_bytes"
  | bodyTime => "server.body_read_timeout_ms"
  | toolTime => "server.tool_timeout_ms"
  | providerTime => "upstream.timeout_secs"
  | directory => "plugins.dir"
  | baseUrl => "upstream.base_url"
  | toolRounds => "upstream.max_tool_rounds"
  | level => "logging.level"

/-- Settings that keep a rule. -/
def KeptBy (settings : HostSettings) : SettingRule → Prop
  | host => IsHostName (trimList settings.server.host.toList)
  | listenPort => settings.server.listenPort ≠ 0
  | bodySize => settings.server.maxBodyBytes ≠ 0
  | bodyTime => settings.server.bodyReadTimeout ≠ 0
  | toolTime => settings.server.toolTimeout ≠ 0
  | providerTime => settings.provider.timeout ≠ 0
  | directory => settings.plugins.directory ≠ ""
  | baseUrl => ∀ address ∈ settings.provider.baseUrl,
      ∃ scheme ∈ addressSchemes, scheme.toList <+: address.toList
  | toolRounds => 1 ≤ settings.provider.maxToolRounds
  | level => ∃ name ∈ logLevels, SpellsInAnyCase settings.logging.level.toList name.toList

/-- What is told about settings that break a rule. -/
def violation (settings : HostSettings) : SettingRule → SettingViolation
  | host => hostViolation settings.server.host
  | listenPort => .portZero
  | bodySize => .zero bodySize.key
  | bodyTime => .zero bodyTime.key
  | toolTime => .zero toolTime.key
  | providerTime => .zero providerTime.key
  | directory => .emptyDirectory
  | baseUrl => .badAddress (settings.provider.baseUrl.getD "")
  | toolRounds => .noToolRounds
  | level => .unknownLevel settings.logging.level

/-- Settings that are alike in the one setting that a rule is about. -/
def SameFor (first second : HostSettings) : SettingRule → Prop
  | host => first.server.host = second.server.host
  | listenPort => first.server.listenPort = second.server.listenPort
  | bodySize => first.server.maxBodyBytes = second.server.maxBodyBytes
  | bodyTime => first.server.bodyReadTimeout = second.server.bodyReadTimeout
  | toolTime => first.server.toolTimeout = second.server.toolTimeout
  | providerTime => first.provider.timeout = second.provider.timeout
  | directory => first.plugins.directory = second.plugins.directory
  | baseUrl => first.provider.baseUrl = second.provider.baseUrl
  | toolRounds => first.provider.maxToolRounds = second.provider.maxToolRounds
  | level => first.logging.level = second.logging.level

/-- Settings with the default of the one setting that a rule is about. -/
def reset (settings : HostSettings) : SettingRule → HostSettings
  | host => { settings with server.host := ({} : ServerSettings).host }
  | listenPort => { settings with server.listenPort := ({} : ServerSettings).listenPort }
  | bodySize => { settings with server.maxBodyBytes := ({} : ServerSettings).maxBodyBytes }
  | bodyTime => { settings with server.bodyReadTimeout := ({} : ServerSettings).bodyReadTimeout }
  | toolTime => { settings with server.toolTimeout := ({} : ServerSettings).toolTimeout }
  | providerTime => { settings with provider.timeout := ({} : ProviderSettings).timeout }
  | directory => { settings with plugins.directory := ({} : PluginSettings).directory }
  | baseUrl => { settings with provider.baseUrl := ({} : ProviderSettings).baseUrl }
  | toolRounds =>
    { settings with provider.maxToolRounds := ({} : ProviderSettings).maxToolRounds }
  | level => { settings with logging.level := ({} : LoggingSettings).level }

/-- What checking a rule comes to. -/
def found (settings : HostSettings) : SettingRule → List SettingViolation
  | host => hostViolations settings.server.host
  | listenPort => violationIf (settings.server.listenPort == 0) .portZero
  | bodySize => violationIf (settings.server.maxBodyBytes == 0) (.zero bodySize.key)
  | bodyTime => violationIf (settings.server.bodyReadTimeout == 0) (.zero bodyTime.key)
  | toolTime => violationIf (settings.server.toolTimeout == 0) (.zero toolTime.key)
  | providerTime => violationIf (settings.provider.timeout == 0) (.zero providerTime.key)
  | directory => violationIf (settings.plugins.directory == "") .emptyDirectory
  | baseUrl => addressViolations settings.provider.baseUrl
  | toolRounds => violationIf (settings.provider.maxToolRounds == 0) .noToolRounds
  | level =>
    violationIf (!isLogLevel settings.logging.level) (.unknownLevel settings.logging.level)

theorem mem_inOrder (rule : SettingRule) : rule ∈ inOrder := by
  cases rule <;> decide

theorem inOrder_nodup : inOrder.Nodup := by
  decide

variable {settings other : HostSettings}

/-! ### One rule -/

theorem violationIf_cases {broken : Bool} {kept : Prop} (keeps : broken = false ↔ kept)
    (violation : SettingViolation) :
    (kept ∧ violationIf broken violation = []) ∨
      (¬ kept ∧ violationIf broken violation = [violation]) := by
  cases broken with
  | false => exact .inl ⟨keeps.mp rfl, rfl⟩
  | true => exact .inr ⟨mt keeps.mpr Bool.noConfusion, rfl⟩

theorem addressViolations_cases (baseUrl : Option String) :
    ((∀ address ∈ baseUrl, ∃ scheme ∈ addressSchemes, scheme.toList <+: address.toList) ∧
        addressViolations baseUrl = []) ∨
      ((¬ ∀ address ∈ baseUrl, ∃ scheme ∈ addressSchemes, scheme.toList <+: address.toList) ∧
        addressViolations baseUrl = [.badAddress (baseUrl.getD "")]) := by
  cases baseUrl with
  | none => exact .inl ⟨fun _ absent => (nomatch absent), rfl⟩
  | some address =>
      refine violationIf_cases ?_ _
      simp only [Option.mem_def, Option.some.injEq, forall_eq', Bool.not_eq_false',
        List.any_eq_true, Option.isSome_iff_exists, stripLeading?_eq_some_iff]
      exact exists_congr fun scheme => and_congr_right fun _ =>
        exists_congr fun rest => eq_comm

/-- A rule is kept and nothing is told about it, or it is broken and told once. -/
theorem found_cases (settings : HostSettings) (rule : SettingRule) :
    (rule.KeptBy settings ∧ rule.found settings = []) ∨
      (¬ rule.KeptBy settings ∧ rule.found settings = [rule.violation settings]) := by
  cases rule with
  | host => exact hostViolations_cases settings.server.host
  | baseUrl => exact addressViolations_cases settings.provider.baseUrl
  | toolRounds =>
      exact violationIf_cases (beq_eq_false_iff_ne.trans Nat.one_le_iff_ne_zero.symm) _
  | level => exact violationIf_cases ((Bool.not_eq_false' _).to_iff.trans isLogLevel_iff) _
  | listenPort | bodySize | bodyTime | toolTime | providerTime | directory =>
      exact violationIf_cases beq_eq_false_iff_ne _

theorem found_eq_nil_iff {rule : SettingRule} :
    rule.found settings = [] ↔ rule.KeptBy settings := by
  rcases rule.found_cases settings with ⟨kept, told⟩ | ⟨broken, told⟩
  · exact iff_of_true told kept
  · exact iff_of_false (by simp [told]) broken

instance (settings : HostSettings) : DecidablePred (KeptBy settings) := fun _ =>
  decidable_of_iff _ found_eq_nil_iff

theorem found_congr {rule : SettingRule} (same : rule.SameFor settings other) :
    rule.found settings = rule.found other := by
  cases rule <;> simp only [SameFor] at same <;> simp only [found, same]

/-! ### All rules -/

theorem flatMap_found (settings : HostSettings) (rules : List SettingRule) :
    rules.flatMap (found settings) =
      (rules.filter fun rule => ¬ rule.KeptBy settings).map (violation settings) := by
  induction rules with
  | nil => rfl
  | cons rule rules ih =>
      rw [List.flatMap_cons, ih]
      rcases rule.found_cases settings with ⟨kept, told⟩ | ⟨broken, told⟩
      · simp [told, kept]
      · simp [told, broken]

theorem flatMap_found_congr {rules : List SettingRule}
    (same : ∀ rule ∈ rules, rule.SameFor settings other) :
    rules.flatMap (found settings) = rules.flatMap (found other) :=
  List.flatMap_congr fun rule member => found_congr (same rule member)

/-- A rule stands in one place of the order. -/
theorem inOrder_around (rule : SettingRule) :
    ∃ front back, inOrder = front ++ rule :: back ∧ ∀ other ∈ front ++ back, other ≠ rule := by
  obtain ⟨front, back, around⟩ := List.append_of_mem rule.mem_inOrder
  have once : (rule :: (front ++ back)).Nodup :=
    List.perm_middle.nodup_iff.mp (around ▸ inOrder_nodup)
  exact ⟨front, back, around, fun other member same => (List.nodup_cons.mp once).1 (same ▸ member)⟩

theorem keptBy_reset (settings : HostSettings) (rule : SettingRule) :
    rule.KeptBy (rule.reset settings) := by
  cases rule with
  | host =>
      have address : isInternetAddress (trimList "0.0.0.0".toList) = true := by decide
      exact .inl address
  | baseUrl => exact fun _ absent => (nomatch absent)
  | level =>
      have listed : isLogLevel "info" = true := by decide
      exact isLogLevel_iff.mp listed
  | directory | listenPort | bodySize | bodyTime | toolTime | providerTime | toolRounds =>
      simp [KeptBy, reset]

theorem sameFor_reset (settings : HostSettings) {rule another : SettingRule}
    (apart : another ≠ rule) : another.SameFor settings (rule.reset settings) := by
  cases rule <;> cases another <;> first | exact absurd rfl apart | rfl

theorem begins_append {start first : String} (begins : start.toList <+: first.toList)
    (rest : String) : start.toList <+: (first ++ rest).toList := by
  rw [String.toList_append]
  exact begins.trans (List.prefix_append _ _)

/-- What is told about a rule begins with the key of its setting. -/
theorem message_violation (settings : HostSettings) (rule : SettingRule) :
    (rule.key ++ " ").toList <+: (rule.violation settings).message.toList := by
  cases rule with
  | host =>
      rw [violation, hostViolation]
      split
      · decide +kernel
      · exact begins_append (begins_append (by decide +kernel) _) _
  | baseUrl => exact begins_append (begins_append (begins_append (by decide +kernel) _) _) _
  | level => exact begins_append (begins_append (begins_append (by decide +kernel) _) _) _
  | listenPort | bodySize | bodyTime | toolTime | providerTime | directory | toolRounds =>
      rw [violation]
      decide +kernel

end SettingRule

namespace HostSettings

/-- The rules that settings break, in their order. -/
def brokenRules (settings : HostSettings) : List SettingRule :=
  SettingRule.inOrder.filter fun rule => ¬ rule.KeptBy settings

variable {settings : HostSettings}

theorem violations_eq_flatMap (settings : HostSettings) :
    settings.violations = SettingRule.inOrder.flatMap (SettingRule.found settings) := by
  simp only [violations, SettingRule.inOrder, List.flatMap_cons, List.flatMap_nil,
    List.append_nil, List.append_assoc, SettingRule.found, SettingRule.key]

theorem violations_eq_map (settings : HostSettings) :
    settings.violations = settings.brokenRules.map (SettingRule.violation settings) := by
  rw [violations_eq_flatMap, SettingRule.flatMap_found, brokenRules]

theorem mem_brokenRules {rule : SettingRule} :
    rule ∈ settings.brokenRules ↔ ¬ rule.KeptBy settings := by
  simp [brokenRules, rule.mem_inOrder]

theorem brokenRules_eq_nil_iff :
    settings.brokenRules = [] ↔ ∀ rule : SettingRule, rule.KeptBy settings := by
  simp [List.eq_nil_iff_forall_not_mem, mem_brokenRules]

theorem checked_of_kept (kept : ∀ rule : SettingRule, rule.KeptBy settings) (directory : String)
    (texts : List SettingsText) : checked directory texts (.ok settings) = .ok settings := by
  have nothing : settings.violations = [] := by
    rw [violations_eq_map, brokenRules_eq_nil_iff.mpr kept, List.map_nil]
  simp only [checked, nothing]

theorem checked_of_broken (broken : ¬ ∀ rule : SettingRule, rule.KeptBy settings)
    (directory : String) (texts : List SettingsText) :
    checked directory texts (.ok settings) =
      .error (settings.brokenRules.map fun rule => .violation (rule.violation settings)) := by
  have told := settings.violations_eq_map
  obtain ⟨rule, rules, first⟩ := List.exists_cons_of_ne_nil (mt brokenRules_eq_nil_iff.mp broken)
  rw [first, List.map_cons] at told ⊢
  simp only [checked, told, List.map_cons, List.map_map, Function.comp_def]

/-- Settings that are put right in the setting of one rule lose what is told about that rule. -/
theorem violations_of_fixed {fixed : HostSettings} {rule : SettingRule}
    (broken : ¬ rule.KeptBy settings) (kept : rule.KeptBy fixed)
    (same : ∀ other, other ≠ rule → other.SameFor settings fixed) :
    ∃ before after, settings.violations = before ++ rule.violation settings :: after ∧
      fixed.violations = before ++ after := by
  obtain ⟨front, back, around, apart⟩ := rule.inOrder_around
  have told : rule.found settings = [rule.violation settings] :=
    (rule.found_cases settings).elim (fun kept => absurd kept.1 broken) And.right
  have elsewhere : ∀ rules : List SettingRule, (∀ other ∈ rules, other ∈ front ++ back) →
      rules.flatMap (SettingRule.found fixed) = rules.flatMap (SettingRule.found settings) :=
    fun rules within => (SettingRule.flatMap_found_congr fun other member =>
      same other (apart other (within other member))).symm
  refine ⟨front.flatMap (SettingRule.found settings), back.flatMap (SettingRule.found settings),
    ?_, ?_⟩
  · rw [violations_eq_flatMap, around, List.flatMap_append, List.flatMap_cons, told]
    rfl
  · rw [violations_eq_flatMap, around, List.flatMap_append, List.flatMap_cons,
      SettingRule.found_eq_nil_iff.mpr kept, List.nil_append,
      elsewhere front fun other member => List.mem_append_left back member,
      elsewhere back fun other member => List.mem_append_right front member]

/-- What checking settings that have been read comes to. -/
structure ChecksEveryRule (settings : HostSettings) : Prop where
  /-- Settings are accepted as they are exactly if they keep every rule. -/
  accepted : ∀ directory texts, checked directory texts (.ok settings) = .ok settings ↔
    ∀ rule : SettingRule, rule.KeptBy settings
  /-- The rules that are broken are told, each once, in the order of the rules. -/
  told : settings.violations = settings.brokenRules.map fun rule => rule.violation settings
  /-- If there are any, the settings are refused with them and nothing else. -/
  refused : (¬ ∀ rule : SettingRule, rule.KeptBy settings) →
    settings.brokenRules ≠ [] ∧ ∀ directory texts, checked directory texts (.ok settings) =
      .error (settings.brokenRules.map fun rule => .violation (rule.violation settings))
  /-- What is told about a rule begins with the key of its setting. -/
  named : ∀ rule ∈ settings.brokenRules,
    (rule.key ++ " ").toList <+: (rule.violation settings).message.toList
  /-- Every broken rule can be put right by its own setting alone. -/
  fixable : ∀ rule ∈ settings.brokenRules, ∃ fixed, rule.KeptBy fixed ∧
    ∀ other, other ≠ rule → other.SameFor settings fixed
  /-- However that is done, what was told about the rule goes, and everything else that was told
  stays as it was. -/
  fixed : ∀ rule ∈ settings.brokenRules, ∀ fixed, rule.KeptBy fixed →
    (∀ other, other ≠ rule → other.SameFor settings fixed) →
      ∃ before after, settings.violations = before ++ rule.violation settings :: after ∧
        fixed.violations = before ++ after

/-- Every rule that settings break is told once, in the order of the rules and apart from all
others, and settings that break none are accepted. -/
theorem checksEveryRule (settings : HostSettings) : settings.ChecksEveryRule where
  accepted directory texts := by
    refine ⟨fun accepted => ?_, fun kept => checked_of_kept kept directory texts⟩
    by_contra broken
    exact nomatch (checked_of_broken broken directory texts).symm.trans accepted
  told := violations_eq_map settings
  refused broken := ⟨mt brokenRules_eq_nil_iff.mp broken, checked_of_broken broken⟩
  named rule _ := rule.message_violation settings
  fixable rule _ := ⟨rule.reset settings, rule.keptBy_reset settings,
    fun _ apart => SettingRule.sameFor_reset settings apart⟩
  fixed _ broken _ kept same := violations_of_fixed (mem_brokenRules.mp broken) kept same

end HostSettings

end PluginHost
