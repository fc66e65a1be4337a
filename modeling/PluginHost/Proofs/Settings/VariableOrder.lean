import Mathlib.Data.List.Perm.Basic
import PluginHost.Proofs.Settings.Agreement
import PluginHost.Proofs.Settings.Loading

/-!
# The order of environment variables

Two variables agree if the trees that they state do.  The variables of an environment come to the
same tree in every order exactly if any two of them agree, and then the settings that are loaded do
not depend on the order either.  Only variables of which one states a setting at or inside the path
of the other can disagree, such as a setting under its own name and under a shorthand.
-/

namespace PluginHost

open KeyedList

namespace Environment

variable {environment other : Environment}

/-- Two variables agree: the settings that they state are the same, or tables, wherever both state
one. -/
def Agree (first second : String × String) : Prop :=
  ∀ tree ∈ statedTree? first, ∀ other ∈ statedTree? second, tree.Agree other

/-- Any two variables agree. -/
def Coherent (environment : Environment) : Prop :=
  ∀ first ∈ environment, ∀ second ∈ environment, Agree first second

/-- Two paths of which neither is the other or leads on from it. -/
def PathsApart (path other : List String) : Prop :=
  ¬ path <+: other ∧ ¬ other <+: path

instance (path other : List String) : Decidable (PathsApart path other) :=
  inferInstanceAs (Decidable (_ ∧ _))

/-! ### Trees in every order -/

theorem tree_append (environment : Environment) (entry : String × String) {stated : Setting}
    (states : statedTree? entry = some stated) :
    tree (environment ++ [entry]) = stated.laidOver environment.tree := by
  rw [tree_eq_stacked, List.filterMap_append, List.filterMap_cons_some states, List.filterMap_nil,
    Setting.stacked_append, ← tree_eq_stacked]

theorem Coherent.tree_eq_of_perm (coherent : environment.Coherent)
    (listed : environment.Perm other) : other.tree = environment.tree := by
  rw [tree_eq_stacked, tree_eq_stacked]
  refine (Setting.stacked_eq_of_perm (listed.filterMap statedTree?) ?_ ?_
    (Setting.ordered_empty .environment)).symm
  · intro stated member
    obtain ⟨entry, -, states⟩ := List.mem_filterMap.mp member
    exact ordered_of_statedTree? states
  · intro stated member another otherMember
    obtain ⟨entry, among, states⟩ := List.mem_filterMap.mp member
    obtain ⟨otherEntry, otherAmong, otherStates⟩ := List.mem_filterMap.mp otherMember
    exact coherent entry among otherEntry otherAmong stated states another otherStates

theorem coherent_of_tree_eq
    (same : ∀ other, environment.Perm other → tree other = environment.tree) :
    environment.Coherent := by
  intro first firstMember second secondMember stated states another otherStates
  by_cases equal : first = second
  · subst equal
    exact Setting.agree_of_eq (Option.some.inj (otherStates.symm.trans states))
  · -- The two variables may come last, in the one and in the other order.
    obtain ⟨front, back, rfl⟩ := List.append_of_mem firstMember
    have among : second ∈ front ++ back := by
      simpa [List.mem_append, Ne.symm equal] using secondMember
    obtain ⟨left, right, split⟩ := List.append_of_mem among
    have listed : (front ++ first :: back).Perm (left ++ right ++ [first] ++ [second]) := by
      have moved : (front ++ first :: back).Perm (first :: second :: (left ++ right)) :=
        List.perm_middle.trans (split ▸ List.perm_middle.cons first)
      refine moved.trans ?_
      rw [List.append_assoc]
      change ([first, second] ++ (left ++ right)).Perm _
      exact List.perm_append_comm
    have swapped : (front ++ first :: back).Perm (left ++ right ++ [second] ++ [first]) := by
      rw [List.append_assoc] at listed ⊢
      exact listed.trans ((List.Perm.swap second first []).append_left _)
    have trees := (same _ listed).trans (same _ swapped).symm
    rw [tree_append _ second otherStates, tree_append _ first states,
      tree_append _ first states, tree_append _ second otherStates] at trees
    have comm : Setting.overlaid (some another)
          (Setting.overlaid (some stated) (some (tree (left ++ right)))) =
        Setting.overlaid (some stated)
          (Setting.overlaid (some another) (some (tree (left ++ right)))) :=
      congrArg some trees
    exact Setting.agree_of_overlaid_comm (ordered_of_statedTree? states)
      (ordered_of_statedTree? otherStates) comm

/-! ### Paths apart -/

theorem agree_nested_of_pathsApart {path otherPath : List String}
    (apart : PathsApart path otherPath) (setting another : Setting) :
    (nested path setting).Agree (nested otherPath another) := by
  induction path generalizing otherPath with
  | nil => exact absurd List.nil_prefix apart.1
  | cons key path ih =>
      cases otherPath with
      | nil => exact absurd List.nil_prefix apart.2
      | cons otherKey otherPath =>
          refine .tables fun found first second stated also => ?_
          rw [get?_cons, get?_nil] at stated also
          split at stated
          · next atKey =>
              split at also
              · next atOther =>
                  obtain rfl := Option.some.inj stated
                  obtain rfl := Option.some.inj also
                  obtain rfl := atKey.trans atOther.symm
                  refine ih ⟨fun leads => apart.1 ?_, fun leads => apart.2 ?_⟩
                  · exact List.cons_prefix_cons.mpr ⟨rfl, leads⟩
                  · exact List.cons_prefix_cons.mpr ⟨rfl, leads⟩
              · cases also
          · cases stated

theorem coherent_of_pathsApart
    (apart : ∀ first ∈ environment, ∀ second ∈ environment, first ≠ second →
      ∀ path ∈ settingPath? first.1, ∀ otherPath ∈ settingPath? second.1,
        PathsApart path otherPath) : environment.Coherent := by
  intro first firstMember second secondMember stated states another otherStates
  by_cases equal : first = second
  · subst equal
    exact Setting.agree_of_eq (Option.some.inj (otherStates.symm.trans states))
  · obtain ⟨path, isPath, rfl⟩ := Option.map_eq_some_iff.mp states
    obtain ⟨otherPath, isOtherPath, rfl⟩ := Option.map_eq_some_iff.mp otherStates
    exact agree_nested_of_pathsApart
      (apart first firstMember second secondMember equal path isPath otherPath isOtherPath) _ _

/-! ### Looking up a variable -/

theorem get?_eq (environment : Environment) (name : String) :
    environment.get? name = KeyedList.get? name environment := by
  rw [get?]
  induction environment with
  | nil => rfl
  | cons entry environment ih =>
      rw [List.find?_cons, get?_cons]
      by_cases same : entry.1 = name
      · simp [same]
      · have notSame : (entry.1 == name) = false := by simpa using same
        simp only [notSame, if_neg same, ih]

theorem get?_eq_of_perm (listed : environment.Perm other)
    (distinct : (environment.map Prod.fst).Nodup) (name : String) :
    other.get? name = environment.get? name := by
  rw [get?_eq, get?_eq]
  exact (KeyedList.get?_eq_of_perm listed distinct name).symm

end Environment

/-! ### Settings in every order -/

namespace HostSettings

open Surroundings

variable {environment other : Environment}

theorem userFile?_eq_of_perm (files : FileView) (listed : environment.Perm other)
    (distinct : (environment.map Prod.fst).Nodup) :
    userFile? ⟨files, other⟩ = userFile? ⟨files, environment⟩ := by
  simp only [userFile?, userDirectory?, Environment.get?_eq_of_perm listed distinct]

theorem layers_eq_of_perm (files : FileView) (coherent : environment.Coherent)
    (listed : environment.Perm other) (distinct : (environment.map Prod.fst).Nodup) :
    layers ⟨files, other⟩ = layers ⟨files, environment⟩ := by
  rw [layers, layers, userFile?_eq_of_perm files listed distinct,
    coherent.tree_eq_of_perm listed]

/-- What the order of variables means for the settings that are loaded. -/
structure LoadsInAnyOrder (environment : Environment) : Prop where
  /-- The variables state the same tree in every order exactly if any two of them agree. -/
  tree_iff : (∀ other, environment.Perm other → Environment.tree other = environment.tree) ↔
    environment.Coherent
  /-- Then the same settings are loaded in every order, or none with the same faults. -/
  loads : environment.Coherent → ∀ files other, environment.Perm other →
    ofLayers (layers ⟨files, other⟩) = ofLayers (layers ⟨files, environment⟩)
  /-- Variables agree unless one of them states a setting at or inside the path of the other. -/
  apart : (∀ first ∈ environment, ∀ second ∈ environment, first ≠ second →
    ∀ path ∈ Environment.settingPath? first.1, ∀ otherPath ∈ Environment.settingPath? second.1,
      Environment.PathsApart path otherPath) → environment.Coherent

theorem loadsInAnyOrder (environment : Environment)
    (distinct : (environment.map Prod.fst).Nodup) : LoadsInAnyOrder environment where
  tree_iff := ⟨Environment.coherent_of_tree_eq, fun coherent _ => coherent.tree_eq_of_perm⟩
  loads coherent files _ listed :=
    congrArg ofLayers (layers_eq_of_perm files coherent listed distinct)
  apart := Environment.coherent_of_pathsApart

/-- Variables that state settings apart from each other. -/
def apartVariables : Environment :=
  [("TOOLGATE_SERVER_PORT", "9100"), ("toolgate_server_host", "::1"), ("TOOLGATE_DEBUG", "true")]

theorem loadsInAnyOrder_apartVariables :
    (apartVariables.map Prod.fst).Nodup ∧ apartVariables.Coherent ∧
      ∀ files, ofLayers (layers ⟨files, apartVariables.reverse⟩) =
        ofLayers (layers ⟨files, apartVariables⟩) := by
  have distinct : (apartVariables.map Prod.fst).Nodup := by decide
  have inAnyOrder := loadsInAnyOrder apartVariables distinct
  have coherent : apartVariables.Coherent := inAnyOrder.apart (by decide +kernel)
  exact ⟨distinct, coherent, fun files =>
    inAnyOrder.loads coherent files _ apartVariables.reverse_perm.symm⟩

/-- A setting under its own name and under its shorthand. -/
def contraryVariables : Environment :=
  [("TOOLGATE_DEBUG", "true"), ("TOOLGATE_LOGGING_DEBUG", "false")]

/-- Of a setting and its shorthand the one that is listed later counts. -/
theorem not_loadsInAnyOrder_contraryVariables :
    ¬ ∀ (files : FileView) (environment other : Environment),
      (∀ entry ∈ environment, Environment.mark.toList <+: entry.1.toList) →
        (environment.map Prod.fst).Nodup → environment.Perm other →
          (ofLayers (layers ⟨files, environment⟩)).toOption =
            (ofLayers (layers ⟨files, other⟩)).toOption := by
  intro inAnyOrder
  let files : FileView := ⟨.directory [], "/"⟩
  have same := inAnyOrder files contraryVariables contraryVariables.reverse (by decide) (by decide)
    contraryVariables.reverse_perm.symm
  have nameLast : (ofLayers (layers ⟨files, contraryVariables⟩)).toOption.map
      (fun settings => settings.logging.debug) = some false := by decide +kernel
  have shorthandLast : (ofLayers (layers ⟨files, contraryVariables.reverse⟩)).toOption.map
      (fun settings => settings.logging.debug) = some true := by decide +kernel
  rw [same, shorthandLast] at nameLast
  cases nameLast

end HostSettings

end PluginHost
