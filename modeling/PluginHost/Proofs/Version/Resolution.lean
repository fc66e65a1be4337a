import PluginHost.Proofs.Version.Constraint
import PluginHost.Version.Resolution

/-!
# Manifests that fit a host

The three checks of a manifest's versions fail in opposite ways: an API version that is none
rejects, while a requirement that is no constraint asks for nothing.  What the host is asked for is
stated here without an order of the checks, and the reason of a rejection is the first check that
fails.
-/

namespace PluginHost

open Text

/-! ### Requirements -/

/-- A requirement lets a version pass: it is absent, no constraint, or a constraint that the version
meets. -/
def Admits (requirement : Option String) (version : Version) : Prop :=
  ∀ expression constraint, requirement = some expression →
    VersionConstraint.parseStrict expression = .ok constraint →
      constraint.matchesVersion version = true

/-- A requirement is a constraint that a version does not meet. -/
def Excludes (requirement : Option String) (version : Version) : Prop :=
  ∃ expression constraint, requirement = some expression ∧
    VersionConstraint.parseStrict expression = .ok constraint ∧
      constraint.matchesVersion version = false

variable {requirement : Option String} {version : Version} {expression : String}

theorem not_admits_iff_excludes : ¬ Admits requirement version ↔ Excludes requirement version := by
  simp [Admits, Excludes]

theorem admits_none (version : Version) : Admits none version := by
  rintro _ _ ⟨⟩

theorem satisfies_eq_true_iff :
    satisfies requirement version = true ↔ Admits requirement version := by
  cases requirement with
  | none => exact iff_of_true rfl (admits_none version)
  | some expression =>
      rw [satisfies, VersionConstraint.parse]
      cases reads : VersionConstraint.parseStrict expression with
      | error problem =>
          refine iff_of_true rfl ?_
          rintro _ constraint ⟨⟩ readsAgain
          rw [reads] at readsAgain
          cases readsAgain
      | ok constraint =>
          constructor
          · rintro met _ _ ⟨⟩ readsAgain
            rw [reads] at readsAgain
            cases readsAgain
            exact met
          · intro admits
            exact admits expression constraint rfl reads

/-- A requirement that is no constraint asks for as much as none at all. -/
theorem satisfies_of_malformed {problem : ConstraintProblem}
    (malformed : VersionConstraint.parseStrict expression = .error problem) (version : Version) :
    satisfies (some expression) version = satisfies none version := by
  rw [satisfies, satisfies, VersionConstraint.parse, malformed]
  rfl

theorem apiCompatible_eq_true_iff {pluginApi hostApi : Version} :
    apiCompatible pluginApi hostApi = true ↔
      pluginApi.major = hostApi.major ∧ pluginApi.minor ≤ hostApi.minor := by
  simp [apiCompatible]

/-! ### Manifests -/

namespace Manifest

/-- The API version of a manifest is one that a host's API carries: the major versions are equal,
and the minor version is not above that of the host. -/
def TargetsApi (manifest : Manifest) (hostApi : Version) : Prop :=
  ∃ pluginApi, Version.parse (trim manifest.apiVersion) = .ok pluginApi ∧
    pluginApi.major = hostApi.major ∧ pluginApi.minor ≤ hostApi.minor

/-- What a manifest has to meet on a host. -/
structure Fits (manifest : Manifest) (versions : HostVersions) : Prop where
  targetsApi : manifest.TargetsApi versions.api
  host : Admits manifest.requires.host versions.host
  api : Admits manifest.requires.api versions.api

/-- The first condition that a manifest fails, in the order API version, compatibility, required
host, required API. -/
inductive Misfit (manifest : Manifest) (versions : HostVersions) : Mismatch → Prop where
  | apiVersion {problem : VersionProblem}
      (unreadable : Version.parse (trim manifest.apiVersion) = .error problem) :
      Misfit manifest versions (.apiVersion manifest.apiVersion problem)
  | incompatibleApi {pluginApi : Version}
      (reads : Version.parse (trim manifest.apiVersion) = .ok pluginApi)
      (incompatible : ¬ (pluginApi.major = versions.api.major ∧
        pluginApi.minor ≤ versions.api.minor)) :
      Misfit manifest versions (.incompatibleApi pluginApi versions.api)
  | host {expression : String} (targetsApi : manifest.TargetsApi versions.api)
      (stated : manifest.requires.host = some expression)
      (excludes : Excludes (some expression) versions.host) :
      Misfit manifest versions (.host expression versions.host)
  | api {expression : String} (targetsApi : manifest.TargetsApi versions.api)
      (host : Admits manifest.requires.host versions.host)
      (stated : manifest.requires.api = some expression)
      (excludes : Excludes (some expression) versions.api) :
      Misfit manifest versions (.api expression versions.api)

variable {manifest : Manifest} {versions : HostVersions} {mismatch : Mismatch}

theorem resolve_of_targetsApi (targetsApi : manifest.TargetsApi versions.api) :
    manifest.resolve versions =
      if !satisfies manifest.requires.host versions.host then
        .error (.host (manifest.requires.host.getD "") versions.host)
      else if !satisfies manifest.requires.api versions.api then
        .error (.api (manifest.requires.api.getD "") versions.api)
      else
        .ok () := by
  obtain ⟨pluginApi, reads, compatible⟩ := targetsApi
  rw [Version.parse_trim] at reads
  have compatible := apiCompatible_eq_true_iff.mpr compatible
  simp only [resolve, reads, compatible, Bool.not_true, Bool.false_eq_true, if_false]

theorem resolve_of_fits (fits : manifest.Fits versions) : manifest.resolve versions = .ok () := by
  have host := satisfies_eq_true_iff.mpr fits.host
  have api := satisfies_eq_true_iff.mpr fits.api
  simp [resolve_of_targetsApi fits.targetsApi, host, api]

theorem satisfies_of_excludes (excludes : Excludes requirement version) :
    satisfies requirement version = false := by
  rw [← Bool.not_eq_true, satisfies_eq_true_iff, not_admits_iff_excludes]
  exact excludes

theorem resolve_of_misfit (misfit : manifest.Misfit versions mismatch) :
    manifest.resolve versions = .error mismatch := by
  cases misfit with
  | apiVersion unreadable =>
      rw [Version.parse_trim] at unreadable
      simp only [resolve, unreadable]
  | incompatibleApi reads incompatible =>
      rw [Version.parse_trim] at reads
      rw [← apiCompatible_eq_true_iff, Bool.not_eq_true] at incompatible
      simp only [resolve, reads, incompatible, Bool.not_false, if_true]
  | host targetsApi stated excludes =>
      have host := satisfies_of_excludes excludes
      simp [resolve_of_targetsApi targetsApi, stated, host]
  | api targetsApi host stated excludes =>
      have host := satisfies_eq_true_iff.mpr host
      have api := satisfies_of_excludes excludes
      simp [resolve_of_targetsApi targetsApi, stated, host, api]

theorem exists_stated_of_not_admits (notAdmitted : ¬ Admits requirement version) :
    ∃ expression, requirement = some expression ∧ Excludes (some expression) version := by
  obtain ⟨expression, constraint, rfl, excluded⟩ := not_admits_iff_excludes.mp notAdmitted
  exact ⟨expression, rfl, expression, constraint, rfl, excluded⟩

/-- Every manifest fits a host or fails a first condition. -/
theorem fits_or_misfit (manifest : Manifest) (versions : HostVersions) :
    manifest.Fits versions ∨ ∃ mismatch, manifest.Misfit versions mismatch := by
  cases reads : Version.parse (trim manifest.apiVersion) with
  | error problem => exact .inr ⟨_, .apiVersion reads⟩
  | ok pluginApi =>
      by_cases compatible : pluginApi.major = versions.api.major ∧
        pluginApi.minor ≤ versions.api.minor
      · have targetsApi : manifest.TargetsApi versions.api := ⟨pluginApi, reads, compatible⟩
        by_cases host : Admits manifest.requires.host versions.host
        · by_cases api : Admits manifest.requires.api versions.api
          · exact .inl ⟨targetsApi, host, api⟩
          · obtain ⟨_, stated, excludes⟩ := exists_stated_of_not_admits api
            exact .inr ⟨_, .api targetsApi host stated excludes⟩
        · obtain ⟨_, stated, excludes⟩ := exists_stated_of_not_admits host
          exact .inr ⟨_, .host targetsApi stated excludes⟩
      · exact .inr ⟨_, .incompatibleApi reads compatible⟩

theorem resolve_eq_ok_iff : manifest.resolve versions = .ok () ↔ manifest.Fits versions := by
  refine ⟨fun admitted => ?_, resolve_of_fits⟩
  rcases manifest.fits_or_misfit versions with fits | ⟨mismatch, misfit⟩
  · exact fits
  · rw [resolve_of_misfit misfit] at admitted
    cases admitted

theorem resolve_eq_error_iff :
    manifest.resolve versions = .error mismatch ↔ manifest.Misfit versions mismatch := by
  refine ⟨fun rejected => ?_, resolve_of_misfit⟩
  rcases manifest.fits_or_misfit versions with fits | ⟨other, misfit⟩
  · rw [resolve_of_fits fits] at rejected
    cases rejected
  · rw [resolve_of_misfit misfit] at rejected
    cases rejected
    exact misfit

theorem resolve_of_malformed_host {problem : ConstraintProblem}
    (malformed : VersionConstraint.parseStrict expression = .error problem)
    (manifest : Manifest) (versions : HostVersions) :
    { manifest with requires.host := some expression }.resolve versions =
      { manifest with requires.host := none }.resolve versions := by
  have asked : satisfies none versions.host = true := rfl
  simp only [resolve, satisfies_of_malformed malformed, asked]
  rfl

theorem resolve_of_malformed_api {problem : ConstraintProblem}
    (malformed : VersionConstraint.parseStrict expression = .error problem)
    (manifest : Manifest) (versions : HostVersions) :
    { manifest with requires.api := some expression }.resolve versions =
      { manifest with requires.api := none }.resolve versions := by
  have asked : satisfies none versions.api = true := rfl
  simp only [resolve, satisfies_of_malformed malformed, asked]
  rfl

theorem exists_rejected_of_excludes
    (excludes : Excludes manifest.requires.host versions.host ∨
      Excludes manifest.requires.api versions.api) :
    ∃ mismatch, manifest.resolve versions = .error mismatch := by
  rcases manifest.fits_or_misfit versions with fits | ⟨mismatch, misfit⟩
  · rw [← not_admits_iff_excludes, ← not_admits_iff_excludes] at excludes
    rcases excludes with host | api
    · exact absurd fits.host host
    · exact absurd fits.api api
  · exact ⟨mismatch, resolve_of_misfit misfit⟩

/-- A host with a newer minor version of its API still carries what it carried before. -/
theorem Fits.newerApi (fits : manifest.Fits versions) {api : Version}
    (major : api.major = versions.api.major) (newer : versions.api.minor ≤ api.minor)
    (unasked : manifest.requires.api = none) : manifest.Fits { versions with api } where
  targetsApi := by
    obtain ⟨pluginApi, reads, same, older⟩ := fits.targetsApi
    exact ⟨pluginApi, reads, same.trans major.symm, le_trans older newer⟩
  host := fits.host
  api := unasked ▸ admits_none api

end Manifest

/-! ### The words of a reason -/

namespace Mismatch

/-- The conditions that a manifest's versions can fail. -/
inductive Condition where
  | apiVersion
  | compatibility
  | requiredHost
  | requiredApi
deriving DecidableEq

/-- The condition that a reason is about. -/
def condition : Mismatch → Condition
  | apiVersion _ _ => .apiVersion
  | incompatibleApi _ _ => .compatibility
  | host _ _ => .requiredHost
  | api _ _ => .requiredApi

/-- The words with which the reasons of a condition begin. -/
def Condition.opening : Condition → String
  | apiVersion => "apiVersion '"
  | compatibility => "plugin targets API "
  | requiredHost => "requires host '"
  | requiredApi => "requires API '"

theorem exists_message_eq (mismatch : Mismatch) :
    ∃ rest, mismatch.message = mismatch.condition.opening ++ rest := by
  have regrouped (first second third fourth : String) :
      first ++ second ++ third ++ fourth = first ++ (second ++ (third ++ fourth)) := by
    rw [String.append_assoc, String.append_assoc]
  cases mismatch with
  | apiVersion text problem => exact ⟨_, regrouped "apiVersion '" _ _ _⟩
  | incompatibleApi plugin implemented => exact ⟨_, regrouped "plugin targets API " _ _ _⟩
  | host requirement running => exact ⟨_, regrouped "requires host '" _ _ _⟩
  | api requirement implemented => exact ⟨_, regrouped "requires API '" _ _ _⟩

theorem Condition.eq_of_opening_prefix {first second : Condition}
    (begins : first.opening.toList <+: second.opening.toList) : first = second := by
  revert begins
  cases first <;> cases second <;> decide +kernel

/-- The words of a reason tell its condition. -/
theorem condition_eq_of_message_eq {first second : Mismatch}
    (same : first.message = second.message) : first.condition = second.condition := by
  obtain ⟨firstRest, firstSpelled⟩ := first.exists_message_eq
  obtain ⟨secondRest, secondSpelled⟩ := second.exists_message_eq
  have letters : first.condition.opening.toList ++ firstRest.toList =
      second.condition.opening.toList ++ secondRest.toList := by
    rw [← String.toList_append, ← String.toList_append, ← firstSpelled, ← secondSpelled, same]
  have firstBegins := List.prefix_append first.condition.opening.toList firstRest.toList
  have secondBegins := List.prefix_append second.condition.opening.toList secondRest.toList
  rw [letters] at firstBegins
  rcases List.prefix_or_prefix_of_prefix firstBegins secondBegins with begins | begins
  · exact Condition.eq_of_opening_prefix begins
  · exact (Condition.eq_of_opening_prefix begins).symm

end Mismatch

/-! ### The verdict -/

namespace Manifest

/-- How the versions of a manifest are decided on a host. -/
structure Resolves (manifest : Manifest) (versions : HostVersions) : Prop where
  admitted_iff : manifest.resolve versions = .ok () ↔ manifest.Fits versions
  /-- A manifest is rejected for the first condition that it fails. -/
  rejected_iff : ∀ mismatch,
    manifest.resolve versions = .error mismatch ↔ manifest.Misfit versions mismatch
  /-- The reason begins with the words of its condition and is the reason of no other. -/
  named : ∀ mismatch, manifest.resolve versions = .error mismatch →
    (∃ rest, mismatch.message = mismatch.condition.opening ++ rest) ∧
      ∀ other : Mismatch, other.message = mismatch.message → other.condition = mismatch.condition
  malformed : ∀ expression problem,
    VersionConstraint.parseStrict expression = .error problem →
      { manifest with requires.host := some expression }.resolve versions =
          { manifest with requires.host := none }.resolve versions ∧
        { manifest with requires.api := some expression }.resolve versions =
          { manifest with requires.api := none }.resolve versions
  excluded : Excludes manifest.requires.host versions.host ∨
    Excludes manifest.requires.api versions.api →
      ∃ mismatch, manifest.resolve versions = .error mismatch
  newerApi : ∀ api : Version, api.major = versions.api.major →
    versions.api.minor ≤ api.minor → manifest.requires.api = none →
      manifest.resolve versions = .ok () → manifest.resolve { versions with api } = .ok ()

/-- The versions of every manifest are decided on every host by the first condition that fails. -/
theorem resolves_byFirstFailure (manifest : Manifest) (versions : HostVersions) :
    manifest.Resolves versions where
  admitted_iff := resolve_eq_ok_iff
  rejected_iff _ := resolve_eq_error_iff
  named mismatch _ := ⟨mismatch.exists_message_eq, fun _ => Mismatch.condition_eq_of_message_eq⟩
  malformed _ _ malformed := ⟨resolve_of_malformed_host malformed manifest versions,
    resolve_of_malformed_api malformed manifest versions⟩
  excluded := exists_rejected_of_excludes
  newerApi api major newer unasked admitted := by
    rw [resolve_eq_ok_iff] at admitted ⊢
    exact admitted.newerApi major newer unasked

end Manifest

end PluginHost
