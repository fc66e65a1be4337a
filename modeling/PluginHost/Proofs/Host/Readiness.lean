import PluginHost.Host.Serving
import PluginHost.Proofs.Settings.Rules

/-!
# What accepted settings can start

Settings that keep all rules name a host that is an internet address or made of the characters of a
host name, apart from white space at its ends.  A chat provider that they name can be asked unless
its key has a control character, which no rule looks at and which is found when the provider is
made: then the host does not start.
-/

namespace PluginHost

open Text

/-! ### Keys that can be sent -/

/-- A control character that a header value may not have: any but the tab. -/
def IsHeaderControl (c : Char) : Prop :=
  c ≠ '\t' ∧ (c.toNat < 0x20 ∨ c = '\x7f')

instance (c : Char) : Decidable (IsHeaderControl c) :=
  inferInstanceAs (Decidable (_ ∧ _))

/-- A key that can be sent, if there is one: it has no control character but tabs. -/
def IsSendableKey (key : Option String) : Prop :=
  ∀ text ∈ key, ∀ c ∈ text.toList, ¬ IsHeaderControl c

instance (key : Option String) : Decidable (IsSendableKey key) :=
  decidable_of_iff ((key.all fun text => text.toList.all fun c => ¬ IsHeaderControl c) = true)
    (by cases key <;> simp [IsSendableKey])

theorem isSendableHeaderValue_iff {value : String} :
    isSendableHeaderValue value = true ↔ ∀ c ∈ value.toList, ¬ IsHeaderControl c := by
  rw [isSendableHeaderValue, List.all_eq_true]
  refine forall₂_congr fun c _ => ?_
  have fromSpace : ' ' ≤ c ↔ 0x20 ≤ c.toNat := UInt32.le_iff_toNat_le
  simp only [IsHeaderControl, Bool.or_eq_true, Bool.and_eq_true, beq_iff_eq, bne_iff_ne,
    decide_eq_true_eq, fromSpace, not_and, not_or, Nat.not_lt]
  exact Decidable.or_iff_not_imp_left

/-- What is shown as authorization for a key. -/
def bearerText (key : String) : String :=
  s!"Bearer {key}"

theorem isSendableHeaderValue_bearerText {key : String} :
    isSendableHeaderValue (bearerText key) = true ↔ IsSendableKey (some key) := by
  have letters : (bearerText key).toList = "Bearer ".toList ++ key.toList := String.toList_append
  have before : ∀ c ∈ "Bearer ".toList, ¬ IsHeaderControl c :=
    isSendableHeaderValue_iff.mp (by decide)
  rw [isSendableHeaderValue_iff, letters, List.forall_mem_append, and_iff_right before]
  simp [IsSendableKey]

/-- The refusal of a key that cannot be sent. -/
def unsendableKey : HostError :=
  .config "invalid upstream API key header value: failed to parse header value"

/-- A provider is made of settings exactly if the key can be sent; else the key is refused. -/
theorem ChatProvider.ofSettings_cases (chat : ChatSettings) :
    (IsSendableKey chat.apiKey ∧
      ofSettings chat =
        .ok ⟨trimmedBase chat.baseUrl, chat.apiKey.map bearerText, chat.maxToolRounds⟩) ∨
    (¬ IsSendableKey chat.apiKey ∧ ofSettings chat = .error unsendableKey) := by
  obtain ⟨baseUrl, apiKey, timeout, maxToolRounds⟩ := chat
  cases apiKey with
  | none => exact .inl ⟨fun _ absent => (nomatch absent), rfl⟩
  | some key =>
      by_cases sendable : isSendableHeaderValue (bearerText key) = true
      · have made : bearerOf key = .ok (bearerText key) := if_pos sendable
        refine .inl ⟨isSendableHeaderValue_bearerText.mp sendable, ?_⟩
        simp only [ofSettings, made, Except.map, Option.map_some]
      · have refused : bearerOf key = .error unsendableKey := if_neg sendable
        refine .inr ⟨isSendableHeaderValue_bearerText.not.mp sendable, ?_⟩
        simp only [ofSettings, refused, Except.map]

/-! ### Starting -/

namespace HostSettings

variable (settings : HostSettings)

/-- The key that a chat provider would be shown, if settings name a provider. -/
def usedKey (settings : HostSettings) : Option String :=
  settings.provider.baseUrl.bind fun _ => settings.provider.apiKey

/-- How far a host gets with settings. -/
structure GetsReady (settings : HostSettings) : Prop where
  /-- The chat provider that the settings name is made of them exactly if its key can be sent. -/
  provider : ∀ chat, settings.provider.chat? = some chat →
    ((∃ provider, ChatProvider.ofSettings chat = .ok provider) ↔ IsSendableKey chat.apiKey)
  /-- A key that cannot be sent is refused, and nothing is started. -/
  refusal : ∀ files, ¬ IsSendableKey settings.usedKey →
    settings.prepareServing files = .error unsendableKey
  /-- With any other key the host is ready, and is handed its name as the settings have it. -/
  ready : ∀ files, IsSendableKey settings.usedKey → ∃ host,
    settings.prepareServing files = .ok host ∧
      host.address = s!"{settings.server.host}:{settings.server.listenPort}"
  /-- This name is the name of a host, without white space at its ends. -/
  hostName : IsHostName (trimList settings.server.host.toList)
  /-- If there is none at its ends, it is the name of a host as it stands. -/
  asItStands : IsTrimmed settings.server.host.toList → IsHostName settings.server.host.toList

theorem provider_cases :
    (IsSendableKey settings.usedKey ∧ ∃ made, settings.provider.provider = .ok made) ∨
      (¬ IsSendableKey settings.usedKey ∧ settings.provider.provider = .error unsendableKey) := by
  rw [ProviderSettings.provider, ProviderSettings.chat?, usedKey]
  cases settings.provider.baseUrl with
  | none => exact .inl ⟨fun _ absent => (nomatch absent), none, rfl⟩
  | some baseUrl =>
      simp only [Option.map_some, Option.bind_some]
      rcases ChatProvider.ofSettings_cases ⟨baseUrl, settings.provider.apiKey,
        .ofSeconds settings.provider.timeout, settings.provider.maxToolRounds⟩ with
        ⟨sendable, made⟩ | ⟨unsendable, refused⟩
      · exact .inl ⟨sendable, _, by rw [made]; rfl⟩
      · exact .inr ⟨unsendable, by rw [refused]; rfl⟩

theorem getsReady {settings : HostSettings} (accepted : settings.violations = []) :
    settings.GetsReady where
  provider chat _ := by
    rcases ChatProvider.ofSettings_cases chat with ⟨sendable, made⟩ | ⟨unsendable, refused⟩
    · exact iff_of_true ⟨_, made⟩ sendable
    · exact iff_of_false (by simp [refused]) unsendable
  refusal files unsendable := by
    rcases settings.provider_cases with ⟨sendable, -⟩ | ⟨-, refused⟩
    · exact absurd sendable unsendable
    · rw [prepareServing, refused]
  ready files sendable := by
    rcases settings.provider_cases with ⟨-, made, provided⟩ | ⟨unsendable, -⟩
    · exact ⟨_, by rw [prepareServing, provided], rfl⟩
    · exact absurd sendable unsendable
  hostName := hostViolations_eq_nil_iff.mp (hostViolations_of_accepted accepted)
  asItStands trimmed := by
    have named := hostViolations_eq_nil_iff.mp (hostViolations_of_accepted accepted)
    rwa [trimList_of_isTrimmed trimmed] at named

/-- Settings with a provider that is shown a key. -/
def keyed (key : String) : HostSettings :=
  { server := { host := "::1" }
    provider := { baseUrl := some "http://127.0.0.1:9/v1", apiKey := some key } }

theorem getsReady_keyed :
    (keyed "sk-1\té").violations = [] ∧ IsSendableKey (keyed "sk-1\té").usedKey ∧
      (keyed "sk-1\té").GetsReady := by
  have accepted : (keyed "sk-1\té").violations = [] := by decide +kernel
  have sendable : IsSendableKey (keyed "sk-1\té").usedKey := by decide +kernel
  exact ⟨accepted, sendable, getsReady accepted⟩

/-- No rule looks at the key: with a line break in it the settings are accepted, and no provider
can be made of them. -/
theorem not_getsReady_brokenKey :
    ¬ ∀ settings : HostSettings, settings.violations = [] →
      (∀ chat, settings.provider.chat? = some chat →
        ∃ provider, ChatProvider.ofSettings chat = .ok provider) ∧
      IsHostName settings.server.host.toList := by
  intro ready
  have accepted : (keyed "a\nb").violations = [] := by decide +kernel
  obtain ⟨provider, made⟩ := (ready (keyed "a\nb") accepted).1 _ rfl
  have refused : (ChatProvider.ofSettings
      ⟨"http://127.0.0.1:9/v1", some "a\nb", .ofSeconds 60, 8⟩).isOk = false := by
    decide +kernel
  exact nomatch refused.symm.trans (congrArg Except.isOk made)

end HostSettings

end PluginHost
