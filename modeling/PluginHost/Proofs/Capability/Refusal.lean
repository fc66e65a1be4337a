import Mathlib.Data.List.Sort
import Mathlib.Data.String.Basic
import PluginHost.Capability

/-!
# What a capability policy refuses

A policy accepts a request of which it allows every capability.  Otherwise it names those that it
does not allow, each once, in the order in which the request has them first.  A policy that allows
more refuses less, except that the empty list, which allows everything, is below every other list.
The list that a policy is made of counts as a set.
-/

namespace PluginHost

open Text

/-- A list of what a policy does not allow of a request, by first occurrence. -/
structure CapabilityPolicy.Refuses (policy : CapabilityPolicy) (requested denied : List String) :
    Prop where
  refused : ∀ capability, capability ∈ denied ↔
    capability ∈ requested ∧ policy.allows capability = false
  inOrder : denied.Pairwise fun earlier later =>
    requested.idxOf earlier < requested.idxOf later

/-- What a policy decides. -/
structure CapabilityPolicy.DecidesByList (policy : CapabilityPolicy) : Prop where
  accepts_iff : ∀ pluginId requested, policy.enforce pluginId requested = .ok () ↔
    ∀ capability ∈ requested, policy.allows capability = true
  violates_iff : ∀ pluginId requested violation,
    policy.enforce pluginId requested = .error violation ↔
      violation.pluginId = pluginId ∧ violation.denied ≠ [] ∧
        policy.Refuses requested violation.denied
  /-- With a longer list, neither of the two empty, more is accepted and less is refused. -/
  widened : ∀ wider : CapabilityPolicy, policy.isDevMode = false → wider.isDevMode = false →
    (∀ capability ∈ policy.allowed, capability ∈ wider.allowed) → ∀ pluginId requested,
      (policy.enforce pluginId requested = .ok () → wider.enforce pluginId requested = .ok ()) ∧
        ∀ violation, wider.enforce pluginId requested = .error violation →
          ∃ greater, policy.enforce pluginId requested = .error greater ∧
            violation.denied.Sublist greater.denied
  /-- The order of the listed capabilities and their repetitions make no difference. -/
  relisted : ∀ items others : List String, policy = ofList items →
    (∀ item, item ∈ others ↔ item ∈ items) → ∀ pluginId requested,
      (ofList others).enforce pluginId requested = policy.enforce pluginId requested

namespace CapabilityPolicy

variable {policy wider : CapabilityPolicy} {requested denied others items : List String}
  {capability text : String}

/-! ### The refused capabilities of a request -/

theorem Refuses.nodup (refuses : policy.Refuses requested denied) : denied.Nodup := by
  refine refuses.inOrder.imp fun {earlier later} less same => ?_
  rw [same] at less
  exact Nat.lt_irrefl _ less

/-- Where a policy allows more, what it refuses is left over from what the other refuses. -/
theorem Refuses.sublist (less : wider.Refuses requested others)
    (more : policy.Refuses requested denied)
    (allowsMore : ∀ capability, policy.allows capability = true →
      wider.allows capability = true) : others.Sublist denied := by
  have subset : others ⊆ denied := by
    intro capability member
    obtain ⟨isRequested, notAllowed⟩ := (less.refused capability).mp member
    refine (more.refused capability).mpr ⟨isRequested, Bool.eq_false_iff.mpr fun allowed => ?_⟩
    rw [allowsMore capability allowed] at notAllowed
    cases notAllowed
  have antisymm : Std.Antisymm fun earlier later : String =>
      requested.idxOf earlier < requested.idxOf later :=
    ⟨fun _ _ before after => absurd before (Nat.lt_asymm after)⟩
  exact List.sublist_of_subperm_of_pairwise (List.subperm_of_subset less.nodup subset)
    less.inOrder more.inOrder

/-- There is one such list for a request. -/
theorem Refuses.unique (refuses : policy.Refuses requested denied)
    (again : policy.Refuses requested others) : denied = others :=
  List.Sublist.antisymm (refuses.sublist again fun _ => id) (again.sublist refuses fun _ => id)

theorem Refuses.eq_nil_iff (refuses : policy.Refuses requested denied) :
    denied = [] ↔ ∀ capability ∈ requested, policy.allows capability = true := by
  rw [List.eq_nil_iff_forall_not_mem]
  simp [refuses.refused]

/-- What is requested later does not change the order of what was refused before. -/
theorem Refuses.inOrder_append (refuses : policy.Refuses requested denied) (more : List String) :
    denied.Pairwise fun earlier later =>
      (requested ++ more).idxOf earlier < (requested ++ more).idxOf later := by
  refine refuses.inOrder.imp_of_mem fun {earlier later} first second less => ?_
  have earlierRequested := ((refuses.refused earlier).mp first).1
  have laterRequested := ((refuses.refused later).mp second).1
  rwa [List.idxOf_append_of_mem earlierRequested, List.idxOf_append_of_mem laterRequested]

/-- A capability that is allowed, or that has been refused before, adds nothing. -/
theorem Refuses.skip (refuses : policy.Refuses requested denied)
    (settled : policy.allows capability = true ∨ capability ∈ denied) :
    policy.Refuses (requested ++ [capability]) denied where
  refused other := by
    rw [refuses.refused, List.mem_append, List.mem_singleton]
    refine ⟨fun ⟨isRequested, notAllowed⟩ => ⟨.inl isRequested, notAllowed⟩, ?_⟩
    rintro ⟨isRequested | rfl, notAllowed⟩
    · exact ⟨isRequested, notAllowed⟩
    · rcases settled with allowed | member
      · rw [allowed] at notAllowed
        cases notAllowed
      · exact (refuses.refused other).mp member
  inOrder := refuses.inOrder_append [capability]

/-- A capability that is not allowed and comes for the first time is refused after the others. -/
theorem Refuses.add (refuses : policy.Refuses requested denied)
    (notAllowed : policy.allows capability = false) (notMember : capability ∉ denied) :
    policy.Refuses (requested ++ [capability]) (denied ++ [capability]) where
  refused other := by
    rw [List.mem_append, List.mem_append, refuses.refused, List.mem_singleton]
    constructor
    · rintro (⟨isRequested, otherNotAllowed⟩ | rfl)
      · exact ⟨.inl isRequested, otherNotAllowed⟩
      · exact ⟨.inr rfl, notAllowed⟩
    · rintro ⟨isRequested | same, otherNotAllowed⟩
      · exact .inl ⟨isRequested, otherNotAllowed⟩
      · exact .inr same
  inOrder := by
    have isNew : capability ∉ requested := fun isRequested =>
      notMember ((refuses.refused capability).mpr ⟨isRequested, notAllowed⟩)
    -- It stands behind everything that was requested before it.
    rw [List.pairwise_append]
    refine ⟨refuses.inOrder_append [capability], List.pairwise_singleton _ _, ?_⟩
    intro earlier member last isLast
    obtain rfl := List.mem_singleton.mp isLast
    have isRequested := ((refuses.refused earlier).mp member).1
    have before := List.idxOf_lt_length_of_mem isRequested
    rw [List.idxOf_append_of_mem isRequested, List.idxOf_append_of_notMem isNew]
    omega

theorem allows_of_enforcing (enforcing : policy.isDevMode = false) (capability : String) :
    policy.allows capability = policy.allowed.contains capability := by
  rw [allows, enforcing, Bool.false_or]

/-- The loop over a request: what has been refused so far grows to what is refused of it all. -/
theorem refuses_deniedOnto (enforcing : policy.isDevMode = false)
    (refuses : policy.Refuses requested denied) (rest : List String) :
    policy.Refuses (requested ++ rest) (policy.deniedOnto denied rest) := by
  induction rest generalizing requested denied with
  | nil => rwa [List.append_nil]
  | cons capability rest ih =>
      have onward : requested ++ capability :: rest = (requested ++ [capability]) ++ rest := by simp
      rw [onward, deniedOnto, ← allows_of_enforcing enforcing]
      split
      · next settled =>
          rw [Bool.or_eq_true, List.contains_iff_mem] at settled
          exact ih (refuses.skip settled)
      · next isNew =>
          rw [Bool.not_eq_true, Bool.or_eq_false_iff, List.contains_eq_mem,
            decide_eq_false_iff_not] at isNew
          exact ih (refuses.add isNew.1 isNew.2)

/-- An enforcing policy accepts if its list of refused capabilities is empty and reports it
otherwise. -/
theorem enforce_of_enforcing (enforcing : policy.isDevMode = false) (pluginId : String)
    (requested : List String) :
    ∃ denied, policy.Refuses requested denied ∧
      policy.enforce pluginId requested =
        if denied = [] then .ok () else .error ⟨pluginId, denied⟩ := by
  have nothing : policy.Refuses [] [] := ⟨by simp, List.Pairwise.nil⟩
  refine ⟨policy.deniedOnto [] requested, refuses_deniedOnto enforcing nothing requested, ?_⟩
  rw [enforce, enforcing]
  cases policy.deniedOnto [] requested <;> rfl

theorem allows_of_devMode (devMode : policy.isDevMode = true) (capability : String) :
    policy.allows capability = true := by
  rw [allows, devMode, Bool.true_or]

theorem enforce_of_devMode (devMode : policy.isDevMode = true) (pluginId : String)
    (requested : List String) : policy.enforce pluginId requested = .ok () := by
  rw [enforce, if_pos devMode]

theorem enforce_eq_ok_iff {pluginId : String} :
    policy.enforce pluginId requested = .ok () ↔
      ∀ capability ∈ requested, policy.allows capability = true := by
  cases mode : policy.isDevMode with
  | true => exact iff_of_true (enforce_of_devMode mode _ _) fun _ _ => allows_of_devMode mode _
  | false =>
      obtain ⟨denied, refuses, decision⟩ := enforce_of_enforcing mode pluginId requested
      rw [decision, ← refuses.eq_nil_iff]
      split <;> simp_all

theorem enforce_eq_error_iff {pluginId : String} {violation : CapabilityViolation} :
    policy.enforce pluginId requested = .error violation ↔
      violation.pluginId = pluginId ∧ violation.denied ≠ [] ∧
        policy.Refuses requested violation.denied := by
  obtain ⟨reporter, reported⟩ := violation
  cases mode : policy.isDevMode with
  | true =>
      rw [enforce_of_devMode mode]
      refine iff_of_false nofun ?_
      rintro ⟨-, some, refuses⟩
      exact some (refuses.eq_nil_iff.mpr fun _ _ => allows_of_devMode mode _)
  | false =>
      obtain ⟨denied, refuses, decision⟩ := enforce_of_enforcing mode pluginId requested
      rw [decision]
      constructor
      · intro violates
        split at violates
        · cases violates
        · next notEmpty =>
            cases violates
            exact ⟨rfl, notEmpty, refuses⟩
      · rintro ⟨rfl, notEmpty, again⟩
        obtain rfl := refuses.unique again
        rw [if_neg notEmpty]

/-! ### Longer lists -/

theorem allows_of_subset (enforcing : policy.isDevMode = false)
    (subset : ∀ capability ∈ policy.allowed, capability ∈ wider.allowed)
    (allowed : policy.allows capability = true) : wider.allows capability = true := by
  rw [allows_of_enforcing enforcing, List.contains_iff_mem] at allowed
  rw [allows, List.contains_iff_mem.mpr (subset capability allowed), Bool.or_true]

/-! ### The list as a set -/

theorem mem_insertSorted {listed : List String} :
    capability ∈ insertSorted text listed ↔ capability = text ∨ capability ∈ listed := by
  induction listed with
  | nil => simp [insertSorted]
  | cons found rest ih =>
      rw [insertSorted]
      split
      · rw [List.mem_cons]
      · split
        · next same =>
            obtain rfl := beq_iff_eq.mp same
            simp
        · rw [List.mem_cons, List.mem_cons, ih]
          exact or_left_comm

theorem sortedLT_insertSorted {listed : List String} (sorted : listed.SortedLT) :
    (insertSorted text listed).SortedLT := by
  rw [List.sortedLT_iff_pairwise] at sorted ⊢
  induction listed with
  | nil => exact List.pairwise_singleton _ _
  | cons found rest ih =>
      obtain ⟨below, inner⟩ := List.pairwise_cons.mp sorted
      rw [insertSorted]
      split
      · next before =>
          refine List.pairwise_cons.mpr ⟨fun other member => ?_, sorted⟩
          rcases List.mem_cons.mp member with rfl | later
          · exact before
          · exact before.trans (below other later)
      · next notBefore =>
          split
          · exact sorted
          · next different =>
              have after : found < text :=
                lt_of_le_of_ne (not_lt.mp notBefore) fun same => different (by simp [same])
              refine List.pairwise_cons.mpr ⟨fun other member => ?_, ih inner⟩
              rcases mem_insertSorted.mp member with rfl | later
              · exact after
              · exact below other later

theorem sortedLT_foldl_insertSorted (texts : List String) {listed : List String}
    (sorted : listed.SortedLT) :
    (texts.foldl (fun allowed item => insertSorted item allowed) listed).SortedLT := by
  induction texts generalizing listed with
  | nil => exact sorted
  | cons text texts ih => exact ih (sortedLT_insertSorted sorted)

theorem mem_foldl_insertSorted (texts : List String) {listed : List String} :
    capability ∈ texts.foldl (fun allowed item => insertSorted item allowed) listed ↔
      capability ∈ listed ∨ capability ∈ texts := by
  induction texts generalizing listed with
  | nil => simp
  | cons text texts ih =>
      rw [List.foldl_cons, ih, mem_insertSorted, List.mem_cons, or_comm (a := capability = text),
        or_assoc]

theorem mem_cleaned : capability ∈ cleaned items ↔
    capability ≠ "" ∧ ∃ item ∈ items, trim item = capability := by
  simp [cleaned, and_comm]

/-- A policy allows the listed texts, as they are without blanks at their ends. -/
theorem mem_allowed_ofList : capability ∈ (ofList items).allowed ↔
    capability ≠ "" ∧ ∃ item ∈ items, trim item = capability := by
  rw [ofList, mem_foldl_insertSorted, mem_cleaned]
  simp

theorem sortedLT_allowed_ofList (items : List String) : (ofList items).allowed.SortedLT :=
  sortedLT_foldl_insertSorted _ (List.sortedLT_iff_pairwise.mpr List.Pairwise.nil)

theorem ofList_eq_of_mem_iff (sameItems : ∀ item, item ∈ others ↔ item ∈ items) :
    ofList others = ofList items := by
  have allowed : (ofList others).allowed = (ofList items).allowed := by
    refine (sortedLT_allowed_ofList others).eq_of_mem_iff (sortedLT_allowed_ofList items)
      fun capability => ?_
    rw [mem_allowed_ofList, mem_allowed_ofList]
    simp only [sameItems]
  exact congrArg CapabilityPolicy.mk allowed

/-- Requests are decided by what the list allows, and by nothing else. -/
theorem decidesByList (policy : CapabilityPolicy) : policy.DecidesByList where
  accepts_iff _ _ := enforce_eq_ok_iff
  violates_iff _ _ _ := enforce_eq_error_iff
  widened wider enforcing widerEnforcing subset pluginId requested := by
    have allowsMore (capability : String) (allowed : policy.allows capability = true) :
        wider.allows capability = true := allows_of_subset enforcing subset allowed
    refine ⟨fun accepts => ?_, fun violation violates => ?_⟩
    · exact enforce_eq_ok_iff.mpr fun capability member =>
        allowsMore capability (enforce_eq_ok_iff.mp accepts capability member)
    · obtain ⟨-, notEmpty, less⟩ := enforce_eq_error_iff.mp violates
      obtain ⟨denied, more, decision⟩ := enforce_of_enforcing enforcing pluginId requested
      have sublist := less.sublist more allowsMore
      have deniedNotEmpty : denied ≠ [] := fun empty =>
        notEmpty (List.sublist_nil.mp (empty ▸ sublist))
      exact ⟨_, by rw [decision, if_neg deniedNotEmpty], sublist⟩
  relisted items others made sameItems pluginId requested := by
    rw [made, ofList_eq_of_mem_iff sameItems]

end CapabilityPolicy

end PluginHost
