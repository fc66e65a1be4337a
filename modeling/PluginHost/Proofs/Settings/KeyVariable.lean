import PluginHost.Proofs.Decimal.IntegerText
import PluginHost.Proofs.Settings.Loading
import PluginHost.Proofs.Settings.NotationReader

/-!
# The key of the chat provider from the environment

A key that an environment variable gives goes through the notation of settings.  It is kept as it is
exactly if the notation writes nothing else by it; a text that writes another text is replaced by
that one, and a number, a truth value, a list or a table in the place of a key is refused.
-/

namespace PluginHost

open Text

/-! ### Words that are no numbers -/

/-- An integer is read as an unsigned or a signed one of 64 bits exactly if it is in one of the two
ranges. -/
theorem IntegerRange.exists_parse_iff {text : List Char} :
    ((∃ value, unsigned64.parse text = .ok value) ∨ ∃ value, signed64.parse text = .ok value) ↔
      ∃ value, SpellsInteger text value ∧ -Int.pow 2 63 ≤ value ∧ value < Int.pow 2 64 := by
  have positive : 0 < Int.pow 2 63 := by decide
  have larger : Int.pow 2 63 < Int.pow 2 64 := by decide
  have signed {value : Int} : signed64.parse text = .ok value ↔
      SpellsInteger text value ∧ -Int.pow 2 63 ≤ value ∧ value ≤ Int.pow 2 63 - 1 :=
    parse_eq_ok_iff_spellsInteger (by decide) (by decide)
  constructor
  · rintro (⟨value, reads⟩ | ⟨value, reads⟩)
    · obtain ⟨spells, low, high⟩ := spellsInteger_of_parse rfl (by decide) reads
      have bound : value ≤ Int.pow 2 64 - 1 := high
      exact ⟨value, spells, by omega, by omega⟩
    · obtain ⟨spells, low, high⟩ := signed.mp reads
      exact ⟨value, spells, low, by omega⟩
  · rintro ⟨value, spells, low, high⟩
    rcases Int.lt_or_le (Int.pow 2 63 - 1) value with beyond | within
    · have bound : value ≤ Int.pow 2 64 - 1 := by omega
      exact .inl ⟨value, parse_of_spellsInteger rfl spells (by omega) bound⟩
    · exact .inr ⟨value, signed.mpr ⟨spells, low, within⟩⟩

namespace SettingNotation

/-- A text that is read as a number: a decimal with a point, or an integer of 64 bits, signed or
not. -/
def IsNumberText (text : List Char) : Prop :=
  ('.' ∈ text ∧ ExtendedDouble.isDecimal text = true) ∨
    ∃ value, SpellsInteger text value ∧ -Int.pow 2 63 ≤ value ∧ value < Int.pow 2 64

/-- A word is the text without the white space at its ends, unless this is a number. -/
theorem word_eq_text_iff {text : List Char} {value : String} :
    word text = .text value ↔
      value = String.ofList (trimList text) ∧ ¬ IsNumberText (trimList text) := by
  rw [IsNumberText, ← IntegerRange.exists_parse_iff, word]
  generalize trimList text = trimmed
  by_cases decimal : '.' ∈ trimmed ∧ ExtendedDouble.isDecimal trimmed = true
  · simp [decimal]
  · have noDecimal : (trimmed.contains '.' && ExtendedDouble.isDecimal trimmed) = false := by
      simpa using decimal
    simp only [noDecimal, decimal, false_or]
    cases IntegerRange.unsigned64.parse trimmed with
    | ok value => simp
    | error problem =>
        cases IntegerRange.signed64.parse trimmed with
        | ok value => simp
        | error problem => simp [eq_comm]

/-- A word that is read as it stands has no white space at its ends and is no number. -/
theorem word_eq_self_iff {text : String} :
    word text.toList = .text text ↔ IsTrimmed text.toList ∧ ¬ IsNumberText text.toList := by
  rw [word_eq_text_iff]
  have trimmed_iff : text = String.ofList (trimList text.toList) ↔ IsTrimmed text.toList := by
    constructor
    · intro same
      have letters := congrArg String.toList same
      rw [String.toList_ofList] at letters
      exact letters ▸ isTrimmed_trimList text.toList
    · intro trimmed
      rw [trimList_of_isTrimmed trimmed, String.ofList_toList]
  rw [trimmed_iff]
  refine and_congr_right fun trimmed => ?_
  rw [trimList_of_isTrimmed trimmed]

/-! ### Settings that are written -/

theorem Writes.source_eq {text : List Char} {setting : Setting}
    (writes : Writes text (.setting setting)) : setting.source = .environment := by
  generalize isSetting : Phrase.setting setting = phrase at writes
  induction writes with
  | scalar => cases isSetting; rfl
  | list => cases isSetting; rfl
  | table => cases isSetting; rfl
  | spaced _ _ _ ih => exact ih isSetting
  | _ => cases isSetting

/-- A single setting is written by a part of the text. -/
theorem Writes.exists_scalar {text : List Char} {source : SettingSource} {value : SettingScalar}
    (writes : Writes text (.setting (.scalar source value))) :
    ∃ part, part <:+: text ∧ WritesScalar part value := by
  generalize isSetting : Phrase.setting (.scalar source value) = phrase at writes
  induction writes with
  | scalar writes =>
      cases isSetting
      exact ⟨_, List.infix_rfl, writes⟩
  | @spaced before inner after _ _ _ _ ih =>
      obtain ⟨part, within, writes⟩ := ih isSetting
      exact ⟨part, within.trans ⟨before, after, List.append_assoc before inner after⟩, writes⟩
  | _ => cases isSetting

theorem word_ne (text : List Char) : word text ≠ .absent ∧ ∀ c, word text ≠ .character c := by
  rw [word]
  generalize trimList text = trimmed
  split
  · simp
  · split
    · simp
    · split <;> simp

theorem not_writesScalar_absent {text : List Char} : ¬ WritesScalar text .absent := by
  generalize absent : SettingScalar.absent = value
  intro writes
  cases writes with
  | word _ => exact (word_ne text).1 absent.symm
  | _ => cases absent

theorem WritesScalar.eq_of_character {text : List Char} {c : Char}
    (writes : WritesScalar text (.character c)) : text = ['\'', c, '\''] := by
  generalize character : SettingScalar.character c = value at writes
  cases writes with
  | character =>
      cases character
      rfl
  | word _ => exact absurd character.symm ((word_ne text).2 c)
  | _ => cases character

end SettingNotation

/-! ### Surroundings with nothing but a key -/

/-- The variable that gives the key of the chat provider. -/
def keyVariable : String :=
  "TOOLGATE_UPSTREAM_API_KEY"

/-- The path of the key of the chat provider. -/
def keyPath : List String :=
  ["upstream", "api_key"]

/-- Surroundings without settings files, in which no variable but the one of the key states a
setting. -/
structure StatesOnlyKey (surroundings : Surroundings) (text : String) : Prop where
  noFiles : ∀ path ∈ HostSettings.hierarchy surroundings,
    Surroundings.findUpwards? surroundings.files path = none
  environment : ∃ front back, surroundings.environment = front ++ (keyVariable, text) :: back ∧
    ∀ entry ∈ front ++ back, Environment.settingPath? entry.1 = none

namespace HostSettings

open Setting SettingNotation

/-- The settings with a key for the chat provider, and the defaults. -/
def withKey (key : String) : HostSettings :=
  { provider := { apiKey := some key } }

/-- The refusal of a setting in the place of the key. -/
def refusedKey (setting : Setting) : SettingsFault :=
  .refused ⟨keyPath, setting.source, .wrongType setting.description "a string"⟩

/-- The outcome of loading settings whose key a setting states. -/
def ofKey : Setting → Except (List SettingsFault) HostSettings
  | .scalar _ .absent => .ok {}
  | .scalar _ (.text value) => .ok (withKey value)
  | .scalar _ (.character value) => .ok (withKey (String.singleton value))
  | setting => .error [refusedKey setting]

/-- A setting in the place of the key is read, and the defaults in all other places. -/
theorem ofTree_key (setting : Setting) :
    ((ofTree ((Environment.nested keyPath setting).laidOver defaultTree)).mapError
      fun fault => [.refused fault]) = ofKey setting := by
  cases setting with
  | scalar source value => cases value <;> with_unfolding_all rfl
  | list source items => with_unfolding_all rfl
  | table source entries => with_unfolding_all rfl

variable {surroundings : Surroundings} {text : String}

theorem tree_of_statesOnlyKey (only : StatesOnlyKey surroundings text) :
    surroundings.environment.tree =
      Environment.nested keyPath (SettingNotation.read text) := by
  obtain ⟨front, back, listed, others⟩ := only.environment
  have silent {entries : Environment} (within : ∀ entry ∈ entries, entry ∈ front ++ back) :
      entries.filterMap Environment.statedTree? = [] := by
    refine List.filterMap_eq_nil_iff.mpr fun entry member => ?_
    rw [Environment.statedTree?, others entry (within entry member), Option.map_none]
  have path : Environment.settingPath? keyVariable = some keyPath := by decide +kernel
  have states : Environment.statedTree? (keyVariable, text) =
      some (Environment.nested keyPath (SettingNotation.read text)) := by
    rw [Environment.statedTree?, path, Option.map_some]
  rw [Environment.tree_eq_stacked, listed, List.filterMap_append,
    List.filterMap_cons_some states, silent fun _ => List.mem_append_left back,
    silent fun _ => List.mem_append_right front]
  rfl

theorem ofLayers_of_statesOnlyKey (only : StatesOnlyKey surroundings text) :
    ofLayers (layers surroundings) = ofKey (SettingNotation.read text) := by
  have noLayers : (hierarchy surroundings).map (SettingsLayer.ofFile surroundings.files) =
      ((hierarchy surroundings).map fun _ => builtinTable []).map .ok := by
    rw [List.map_map]
    refine List.map_congr_left fun path member => ?_
    rw [SettingsLayer.ofFile, only.noFiles path member]
    rfl
  have defaults (paths : List String) :
      stacked defaultTree (paths.map fun _ => builtinTable []) = defaultTree := by
    induction paths with
    | nil => rfl
    | cons path paths ih => exact ih
  rw [layers_eq, noLayers, ← List.map_singleton, ← List.map_append, ofLayers_map_ok,
    stacked_append, defaults, tree_of_statesOnlyKey only, ofTree_key]

theorem withKey_inj {key other : String}
    (same : (.ok (withKey key) : Except (List SettingsFault) HostSettings) = .ok (withKey other)) :
    key = other :=
  Option.some.inj (congrArg (fun settings : HostSettings => settings.provider.apiKey)
    (Except.ok.inj same))

theorem eq_text_of_kept {setting : Setting} (writes : Writes text.toList (.setting setting))
    (kept : ofKey setting = .ok (withKey text)) :
    setting = .scalar .environment (.text text) := by
  have stated := writes.source_eq
  cases setting with
  | scalar source value =>
      obtain ⟨part, within, writesPart⟩ := writes.exists_scalar
      cases value with
      | absent => exact absurd writesPart not_writesScalar_absent
      | text value => rw [← stated, withKey_inj kept, Setting.source]
      | character c =>
          -- A character is written with its quotes, and is not the whole of what writes it.
          have shorter := within.length_le
          rw [writesPart.eq_of_character, ← withKey_inj kept] at shorter
          simp at shorter
      | _ => cases kept
  | list => cases kept
  | table => cases kept

/-- What comes of a key that the environment gives. -/
structure LoadsKey (text : String) (outcome : Except (List SettingsFault) HostSettings) : Prop where
  /-- The key is kept as it is exactly if it writes no other setting. -/
  kept_iff : outcome = .ok (withKey text) ↔ ∀ setting, Writes text.toList (.setting setting) →
    setting = .scalar .environment (.text text)
  /-- If it writes a text, then this is the key. -/
  otherText : ∀ value, Writes text.toList (.setting (.scalar .environment (.text value))) →
    outcome = .ok (withKey value)
  /-- So it is if it writes a character. -/
  character : ∀ c, Writes text.toList (.setting (.scalar .environment (.character c))) →
    outcome = .ok (withKey (String.singleton c))
  /-- If it writes anything else, then this is refused, and nothing else is wrong. -/
  refused : ∀ setting, Writes text.toList (.setting setting) →
    (∀ value, setting ≠ .scalar .environment (.text value)) →
    (∀ c, setting ≠ .scalar .environment (.character c)) →
      outcome = .error [refusedKey setting]
  /-- A word is kept exactly if it has no white space at its ends and is no number. -/
  word_iff : SettingNotation.IsWord text.toList →
    (outcome = .ok (withKey text) ↔ IsTrimmed text.toList ∧ ¬ IsNumberText text.toList)

theorem loadsKey (only : StatesOnlyKey surroundings text) :
    LoadsKey text (ofLayers (layers surroundings)) := by
  have outcome := ofLayers_of_statesOnlyKey only
  have kept_iff : ofLayers (layers surroundings) = .ok (withKey text) ↔
      ∀ setting, Writes text.toList (.setting setting) →
        setting = .scalar .environment (.text text) := by
    rw [outcome]
    constructor
    · intro kept setting writes
      rw [read_of_writes writes] at kept
      exact eq_text_of_kept writes kept
    · intro alone
      by_cases writesOne : ∃ setting, Writes text.toList (.setting setting)
      · obtain ⟨setting, writes⟩ := writesOne
        rw [read_of_writes writes, alone setting writes]
        rfl
      · rw [read_of_not_writes (not_exists.mp writesOne)]
        rfl
  constructor
  · exact kept_iff
  · intro value writes
    rw [outcome, read_of_writes writes]
    rfl
  · intro c writes
    rw [outcome, read_of_writes writes]
    rfl
  · intro setting writes noText noCharacter
    rw [outcome, read_of_writes writes]
    have source := writes.source_eq
    cases setting with
    | scalar source value =>
        cases value with
        | absent =>
            obtain ⟨part, -, writesPart⟩ := writes.exists_scalar
            exact absurd writesPart not_writesScalar_absent
        | text value => exact absurd (by rw [← source]; rfl) (noText value)
        | character c => exact absurd (by rw [← source]; rfl) (noCharacter c)
        | _ => rfl
    | list => rfl
    | table => rfl
  · intro isWord
    have writes : Writes text.toList (.setting (.scalar .environment (word text.toList))) :=
      .scalar (.word isWord)
    rw [kept_iff, ← word_eq_self_iff]
    constructor
    · intro same
      injection same _ writes
    · intro same setting other
      rw [← read_of_writes other, read_of_writes writes, same]

/-- Surroundings with nothing but a key. -/
def keyAlone (text : String) : Surroundings :=
  ⟨⟨.directory [], "/"⟩, [(keyVariable, text)]⟩

theorem loadsKey_plainKey :
    StatesOnlyKey (keyAlone "sk-1.5") "sk-1.5" ∧
      ofLayers (layers (keyAlone "sk-1.5")) = .ok (withKey "sk-1.5") := by
  have only : StatesOnlyKey (keyAlone "sk-1.5") "sk-1.5" :=
    ⟨by decide +kernel, [], [], rfl, by decide⟩
  have isWord : SettingNotation.IsWord "sk-1.5".toList :=
    ⟨List.all_eq_true.mp (by decide), by rintro _ ⟨⟩; decide, by decide, by decide⟩
  have noNumber : word "sk-1.5".toList = .text "sk-1.5" := by with_unfolding_all rfl
  exact ⟨only, ((loadsKey only).word_iff isWord).mpr (word_eq_self_iff.mp noNumber)⟩

/-- A key of digits is not kept, since it is a number. -/
theorem not_keptKey_digits :
    ¬ ∀ text : String, text ≠ "" → '\x00' ∉ text.toList →
      (ofLayers (layers (keyAlone text))).toOption.map
        (fun settings => settings.provider.apiKey) = some (some text) := by
  intro kept
  have refused : (ofLayers (layers (keyAlone "12345"))).toOption.map
      (fun settings => settings.provider.apiKey) = none := by decide +kernel
  cases refused.symm.trans (kept "12345" (by decide) (by decide))

end HostSettings

end PluginHost
