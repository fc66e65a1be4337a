import PluginHost.Proofs.Admission.Run

/-!
# Calls of plugin code behind the gates

Plugin code is trusted with nothing before the host has checked its manifest.  In every run of a
manager, a constructor is called only for a manifest that passes all gates at that moment, and
`init` follows it at once, the only one that its instance ever gets.  A manifest that fails a
gate causes no call and is told the first gate that it fails.
-/

namespace PluginHost

/-- The instance that a call of plugin code is about. -/
def HookCall.number : HookCall → Nat
  | .construct number _ => number
  | .init number _ => number
  | .shutdown number => number

/-- A moment of a run from a new manager: one of its single steps, with those before and those
after it. -/
structure Moment (rules : AdmissionRules) (requests : List ManagerRequest) where
  earlier : List ManagerRequest
  request : ManagerRequest
  later : List ManagerRequest
  steps_eq : requests.flatMap ManagerRequest.steps = earlier ++ request :: later

namespace Moment

variable {rules : AdmissionRules} {requests : List ManagerRequest}

/-- The run up to the moment. -/
def past (moment : Moment rules requests) : Managed (List ManagerAnswer) :=
  (PluginManager.new rules).run moment.earlier

/-- The manager at the moment. -/
def manager (moment : Moment rules requests) : PluginManager :=
  moment.past.manager

def outcome (moment : Moment rules requests) : Managed ManagerAnswer :=
  moment.manager.perform moment.request

theorem isStep_of_mem (moment : Moment rules requests) {step : ManagerRequest}
    (member : step ∈ moment.earlier ++ moment.request :: moment.later) : step.IsStep := by
  rw [← moment.steps_eq] at member
  exact ManagerRequest.isStep_of_mem_flatMap_steps member

theorem isStep (moment : Moment rules requests) : moment.request.IsStep :=
  moment.isStep_of_mem (by simp)

theorem isStep_of_mem_earlier (moment : Moment rules requests) :
    ∀ step ∈ moment.earlier, step.IsStep :=
  fun _ member => moment.isStep_of_mem (by simp [member])

theorem isStep_of_mem_later (moment : Moment rules requests) :
    ∀ step ∈ moment.later, step.IsStep :=
  fun _ member => moment.isStep_of_mem (by simp [member])

end Moment

namespace PluginManager

/-! ### What single steps keep -/

/-- A manager that has come from an earlier one: its rules are the same, and its instances are
those of the earlier one and perhaps more. -/
structure Follows (later earlier : PluginManager) : Prop where
  rules : later.rules = earlier.rules
  handles : earlier.handles.length ≤ later.handles.length

theorem Follows.refl (manager : PluginManager) : manager.Follows manager :=
  ⟨rfl, Nat.le_refl _⟩

theorem Follows.trans {first second third : PluginManager} (late : third.Follows second)
    (early : second.Follows first) : third.Follows first :=
  ⟨late.rules.trans early.rules, Nat.le_trans early.handles late.handles⟩

/-- A single shutdown calls at most the hook of an instance that exists. -/
theorem number_lt_of_mem_shutdown_calls {handles : Handles} {number : Nat} {call : HookCall}
    (called : call ∈ (Handles.shutdown handles number).calls) :
    call = .shutdown number ∧ number < handles.length := by
  cases active : handles.isActive number with
  | false => simp [Handles.shutdown_of_not_active active] at called
  | true =>
      obtain ⟨handle, context, found, state⟩ := (handles.isActive_eq_true_iff number).mp active
      rw [Handles.shutdown_of_active found state] at called
      exact ⟨List.mem_singleton.mp called, (List.getElem?_eq_some_iff.mp found).1⟩

@[simp]
theorem length_shutdown_handles (handles : Handles) (number : Nat) :
    (Handles.shutdown handles number).handles.length = handles.length := by
  cases active : handles.isActive number with
  | false => rw [Handles.shutdown_of_not_active active]
  | true =>
      obtain ⟨handle, context, found, state⟩ := (handles.isActive_eq_true_iff number).mp active
      rw [Handles.shutdown_of_active found state, List.length_set]

/-- Shutting down keeps the rules, the number of instances and what is loaded, and calls
nothing but `shutdown` hooks of instances that exist. -/
theorem shutdownAll_frame (manager : PluginManager) :
    manager.shutdownAll.manager.rules = manager.rules ∧
      manager.shutdownAll.manager.loaded = manager.loaded ∧
      manager.shutdownAll.manager.handles.length = manager.handles.length ∧
      ∀ call ∈ manager.shutdownAll.calls,
        ∃ number, call = .shutdown number ∧ number < manager.handles.length := by
  refine shutdownEach_induction
    (motive := fun after calls => after.rules = manager.rules ∧ after.loaded = manager.loaded ∧
      after.handles.length = manager.handles.length ∧
      ∀ call ∈ calls, ∃ number, call = .shutdown number ∧ number < manager.handles.length)
    manager.loaded (by simp) ?_
  intro after calls plugin _ ⟨rules, loaded, length, only⟩
  refine ⟨rules, loaded, by simpa using length, ?_⟩
  intro call called
  rcases List.mem_append.mp called with earlier | now
  · exact only call earlier
  · obtain ⟨rfl, bounded⟩ := number_lt_of_mem_shutdown_calls now
    exact ⟨_, rfl, length ▸ bounded⟩

theorem perform_follows (manager : PluginManager) {request : ManagerRequest}
    (single : request.IsStep) : (manager.perform request).manager.Follows manager := by
  cases manager.perform_cases single with
  | checked _ outcome => exact outcome ▸ Follows.refl manager
  | unreadable _ outcome => exact outcome ▸ Follows.refl manager
  | stopped _ outcome =>
      obtain ⟨rules, _, length, _⟩ := manager.shutdownAll_frame
      rw [outcome]
      exact ⟨rules, Nat.le_of_eq length.symm⟩
  | offered _ loadCase outcome =>
      rw [outcome]
      cases loadCase with
      | refused _ loading =>
          rw [loading]
          exact Follows.refl manager
      | failed _ _ _ loading =>
          rw [loading]
          exact ⟨rfl, by simp [Managed.map]⟩
      | admitted _ _ _ loading =>
          rw [loading]
          exact ⟨rfl, by simp [Managed.map]⟩

theorem run_follows (manager : PluginManager) {requests : List ManagerRequest}
    (single : ∀ request ∈ requests, request.IsStep) :
    (manager.run requests).manager.Follows manager :=
  run_induction (motive := fun after _ => after.Follows manager) []
    (Follows.refl manager) requests fun after _ request member follows =>
      (after.perform_follows (single request member)).trans follows

/-! ### Which instances are called -/

/-- The calls of a step that is offered a manifest: those of a construction if the manifest is
admissible, none otherwise. -/
theorem perform_calls_of_offer (manager : PluginManager) {request : ManagerRequest}
    {offer : Offer} (offers : request.offer? = some offer) :
    manager.Admissible offer.manifest ∧
        (manager.perform request).calls =
          manager.constructionCalls offer.manifest offer.dataDir ∨
      ¬ manager.Admissible offer.manifest ∧ (manager.perform request).calls = [] := by
  rw [manager.perform_of_offer offers]
  cases manager.load_cases offer.manifest offer.source offer.dataDir with
  | refused refusal loading => exact .inr ⟨refusal.not_admissible, by rw [loading]; rfl⟩
  | failed admissible _ _ loading => exact .inl ⟨admissible, by rw [loading]; rfl⟩
  | admitted admissible _ _ loading => exact .inl ⟨admissible, by rw [loading]; rfl⟩

theorem constructionCalls_eq_at_construct {manager : PluginManager} {manifest : Manifest}
    {dataDir : Option String} {front back : List HookCall} {number : Nat}
    {implementation : String}
    (split : manager.constructionCalls manifest dataDir =
      front ++ .construct number implementation :: back) :
    front = [] ∧ number = manager.handles.length ∧ implementation = manifest.implementation ∧
      back =
        [.init manager.handles.length (manager.rules.contextOf manifest.id dataDir)] := by
  rw [constructionCalls] at split
  rcases List.cons_eq_append_iff.mp split with ⟨rfl, atOnce⟩ | ⟨inner, rfl, late⟩
  · simp only [List.cons.injEq, HookCall.construct.injEq] at atOnce
    exact ⟨rfl, atOnce.1.1, atOnce.1.2, atOnce.2⟩
  · simp [List.cons_eq_append_iff] at late

theorem constructionCalls_eq_at_init {manager : PluginManager} {manifest : Manifest}
    {dataDir : Option String} {front back : List HookCall} {number : Nat}
    {context : PluginContext}
    (split : manager.constructionCalls manifest dataDir =
      front ++ .init number context :: back) :
    front = [.construct manager.handles.length manifest.implementation] ∧
      number = manager.handles.length ∧ back = [] := by
  rw [constructionCalls] at split
  rcases List.cons_eq_append_iff.mp split with ⟨rfl, atOnce⟩ | ⟨inner, rfl, late⟩
  · simp at atOnce
  · rcases List.cons_eq_append_iff.mp late with ⟨rfl, atLast⟩ | ⟨_, rfl, tooLate⟩
    · simp only [List.cons.injEq, HookCall.init.injEq] at atLast
      exact ⟨rfl, atLast.1.1, atLast.2⟩
    · simp at tooLate

theorem length_lt_of_admissible (manager : PluginManager) {request : ManagerRequest}
    {offer : Offer} (offers : request.offer? = some offer)
    (admissible : manager.Admissible offer.manifest) :
    manager.handles.length < (manager.perform request).manager.handles.length := by
  rw [manager.perform_of_offer offers]
  cases manager.load_cases offer.manifest offer.source offer.dataDir with
  | refused refusal => exact (refusal.not_admissible admissible).elim
  | failed _ _ _ loading => simp [loading, Managed.map]
  | admitted _ _ _ loading => simp [loading, Managed.map]

/-- A step that is offered no manifest calls nothing but `shutdown` hooks. -/
theorem perform_calls_of_no_offer (manager : PluginManager) {request : ManagerRequest}
    (single : request.IsStep) (noOffer : request.offer? = none) :
    ∀ call ∈ (manager.perform request).calls,
      ∃ number, call = .shutdown number ∧ number < manager.handles.length := by
  cases manager.perform_cases single with
  | checked _ outcome => simp [outcome]
  | unreadable _ outcome => simp [outcome]
  | offered offers => simp [noOffer] at offers
  | stopped _ outcome =>
      rw [outcome]
      exact manager.shutdownAll_frame.2.2.2

/-- Every call of a step is a `shutdown` of an instance that existed, or is about the instance
that the step constructs. -/
theorem perform_calls_cases (manager : PluginManager) {request : ManagerRequest}
    (single : request.IsStep) {call : HookCall} (called : call ∈ (manager.perform request).calls) :
    (∃ number, call = .shutdown number ∧ number < manager.handles.length) ∨
      ∃ offer, request.offer? = some offer ∧ manager.Admissible offer.manifest ∧
        (manager.perform request).calls =
          manager.constructionCalls offer.manifest offer.dataDir ∧
        call ∈ manager.constructionCalls offer.manifest offer.dataDir := by
  cases offers : request.offer? with
  | none => exact .inl (manager.perform_calls_of_no_offer single offers call called)
  | some offer =>
      rcases manager.perform_calls_of_offer offers with ⟨admissible, calls⟩ | ⟨_, calls⟩
      · exact .inr ⟨offer, rfl, admissible, calls, calls ▸ called⟩
      · simp [calls] at called

/-- In a run every call is about an instance that exists at its end. -/
theorem number_lt_of_mem_run_calls (rules : AdmissionRules) {requests : List ManagerRequest}
    (single : ∀ request ∈ requests, request.IsStep) {call : HookCall}
    (called : call ∈ ((new rules).run requests).calls) :
    call.number < ((new rules).run requests).manager.handles.length := by
  refine run_induction
    (motive := fun manager calls => ∀ call ∈ calls, call.number < manager.handles.length)
    [] (by simp) requests ?_ call (by simpa using called)
  intro manager calls request member bounded call called
  have grown := (manager.perform_follows (single request member)).handles
  rcases List.mem_append.mp called with earlier | now
  · exact Nat.lt_of_lt_of_le (bounded call earlier) grown
  · rcases manager.perform_calls_cases (single request member) now with
      ⟨number, rfl, within⟩ | ⟨offer, offers, admissible, _, among⟩
    · exact Nat.lt_of_lt_of_le within grown
    · have longer : manager.handles.length < (manager.perform request).manager.handles.length :=
        manager.length_lt_of_admissible offers admissible
      simp only [constructionCalls, List.mem_cons, List.not_mem_nil, or_false] at among
      rcases among with rfl | rfl <;> exact longer

/-- The `init` calls of a run are about instances that its start did not have. -/
theorem length_le_of_init_mem_run_calls {manager : PluginManager}
    {requests : List ManagerRequest} (single : ∀ request ∈ requests, request.IsStep)
    {number : Nat} {context : PluginContext}
    (called : .init number context ∈ (manager.run requests).calls) :
    manager.handles.length ≤ number := by
  obtain ⟨before, after, split⟩ := List.append_of_mem called
  obtain ⟨earlier, request, later, front, back, rfl, _, calls, _⟩ :=
    exists_request_of_calls_eq split
  have follows : (manager.run earlier).manager.Follows manager :=
    manager.run_follows fun step member => single step (by simp [member])
  have now : HookCall.init number context ∈
      ((manager.run earlier).manager.perform request).calls := by
    simp [calls]
  rcases (manager.run earlier).manager.perform_calls_cases (single request (by simp)) now with
    ⟨_, other, _⟩ | ⟨offer, _, _, _, among⟩
  · cases other
  · simp only [constructionCalls, List.mem_cons, List.not_mem_nil, or_false, reduceCtorEq,
      false_or, HookCall.init.injEq] at among
    exact among.1 ▸ follows.handles

end PluginManager

namespace Moment

variable {rules : AdmissionRules} {requests : List ManagerRequest}

theorem manager_rules (moment : Moment rules requests) : moment.manager.rules = rules :=
  ((PluginManager.new rules).run_follows moment.isStep_of_mem_earlier).rules

/-- Every call in a run is made at a moment of it. -/
theorem exists_of_calls_eq {before after : List HookCall} {call : HookCall}
    (calls : ((PluginManager.new rules).run requests).calls = before ++ call :: after) :
    ∃ (moment : Moment rules requests) (front back : List HookCall),
      before = moment.past.calls ++ front ∧
      moment.outcome.calls = front ++ call :: back ∧
      after = back ++ (moment.outcome.manager.run moment.later).calls := by
  rw [← ((PluginManager.new rules).run_flatMap_steps requests).2] at calls
  obtain ⟨earlier, request, later, front, back, steps, beforeEq, now, afterEq⟩ :=
    PluginManager.exists_request_of_calls_eq calls
  exact ⟨⟨earlier, request, later, steps⟩, front, back, beforeEq, now, afterEq⟩

/-- A call at a moment that is no `shutdown` belongs to the construction of an admissible
manifest. -/
theorem exists_offer (moment : Moment rules requests) {front back : List HookCall}
    {call : HookCall} (now : moment.outcome.calls = front ++ call :: back)
    (noShutdown : ∀ number, call ≠ .shutdown number) :
    ∃ offer, moment.request.offer? = some offer ∧ moment.manager.Admissible offer.manifest ∧
      moment.manager.constructionCalls offer.manifest offer.dataDir = front ++ call :: back := by
  have called : call ∈ (moment.manager.perform moment.request).calls := by
    change call ∈ moment.outcome.calls
    simp [now]
  rcases moment.manager.perform_calls_cases moment.isStep called with
    ⟨number, shutdown, _⟩ | ⟨offer, offers, admissible, made, _⟩
  · exact (noShutdown number shutdown).elim
  · rw [Moment.outcome, made] at now
    exact ⟨offer, offers, admissible, now⟩

/-- The moment at which a constructor is called. -/
theorem exists_of_construct {before after : List HookCall} {number : Nat}
    {implementation : String}
    (calls : ((PluginManager.new rules).run requests).calls =
      before ++ .construct number implementation :: after) :
    ∃ (moment : Moment rules requests) (offer : Offer) (rest : List HookCall),
      moment.request.offer? = some offer ∧ moment.past.calls = before ∧
      moment.manager.Admissible offer.manifest ∧
      offer.manifest.implementation = implementation ∧
      number = moment.manager.handles.length ∧
      after = .init number (rules.contextOf offer.manifest.id offer.dataDir) :: rest := by
  obtain ⟨moment, front, back, beforeEq, now, afterEq⟩ := exists_of_calls_eq calls
  obtain ⟨offer, offers, admissible, made⟩ := moment.exists_offer now (by simp)
  obtain ⟨rfl, numberEq, implementationEq, rfl⟩ :=
    PluginManager.constructionCalls_eq_at_construct made
  refine ⟨moment, offer, (moment.outcome.manager.run moment.later).calls, offers,
    by simp [beforeEq], admissible, implementationEq.symm, numberEq, ?_⟩
  rw [afterEq, moment.manager_rules, numberEq]
  rfl

/-- The moment at which `init` is called, right after the construction of its instance. -/
theorem exists_of_init {before after : List HookCall} {number : Nat} {context : PluginContext}
    (calls : ((PluginManager.new rules).run requests).calls =
      before ++ .init number context :: after) :
    ∃ (moment : Moment rules requests) (offer : Offer),
      moment.request.offer? = some offer ∧ moment.manager.Admissible offer.manifest ∧
      number = moment.manager.handles.length ∧
      before = moment.past.calls ++ [.construct number offer.manifest.implementation] ∧
      after = (moment.outcome.manager.run moment.later).calls := by
  obtain ⟨moment, front, back, beforeEq, now, afterEq⟩ := exists_of_calls_eq calls
  obtain ⟨offer, offers, admissible, made⟩ := moment.exists_offer now (by simp)
  obtain ⟨rfl, numberEq, rfl⟩ := PluginManager.constructionCalls_eq_at_init made
  exact ⟨moment, offer, offers, admissible, numberEq, by rw [beforeEq, numberEq], afterEq⟩

/-- All calls before a moment are about instances that existed by then. -/
theorem init_not_mem_past (moment : Moment rules requests) (context : PluginContext) :
    .init moment.manager.handles.length context ∉ moment.past.calls := by
  intro called
  have bounded :=
    PluginManager.number_lt_of_mem_run_calls rules moment.isStep_of_mem_earlier called
  exact Nat.lt_irrefl _ bounded

/-- All `init` calls after a construction are about instances that did not exist until then. -/
theorem init_not_mem_later (moment : Moment rules requests) {offer : Offer}
    (offers : moment.request.offer? = some offer)
    (admissible : moment.manager.Admissible offer.manifest) (context : PluginContext) :
    .init moment.manager.handles.length context ∉
      (moment.outcome.manager.run moment.later).calls := by
  intro called
  have fresh :=
    PluginManager.length_le_of_init_mem_run_calls moment.isStep_of_mem_later called
  have grown := moment.manager.length_lt_of_admissible offers admissible
  exact Nat.not_lt_of_le fresh grown

end Moment

/-- What a run of a manager promises about the plugin code that it calls. -/
structure GatedCalls (rules : AdmissionRules) (requests : List ManagerRequest) : Prop where
  /-- A constructor is called at a moment at which the manifest put before the manager passes
  every gate, and `init` follows with the versions of the host and the configuration of the
  plugin. -/
  constructed : ∀ before number implementation after,
    ((PluginManager.new rules).run requests).calls =
      before ++ .construct number implementation :: after →
    ∃ (moment : Moment rules requests) (offer : Offer) (rest : List HookCall),
      moment.request.offer? = some offer ∧ moment.past.calls = before ∧
      moment.manager.Admissible offer.manifest ∧
      offer.manifest.implementation = implementation ∧
      number = moment.manager.handles.length ∧
      after =
        .init number
          ⟨rules.versions.host, rules.versions.api,
            (KeyedList.get? offer.manifest.id rules.pluginConfig).getD (.object []),
            offer.dataDir⟩ :: rest
  /-- `init` is called right after the construction of its instance, and never again. -/
  initialised : ∀ before number context after,
    ((PluginManager.new rules).run requests).calls = before ++ .init number context :: after →
    (∃ front implementation, before = front ++ [.construct number implementation]) ∧
      ∀ other, HookCall.init number other ∉ before ∧ HookCall.init number other ∉ after
  /-- A manifest that passes every gate is constructed. -/
  admitted : ∀ (moment : Moment rules requests) (offer : Offer),
    moment.request.offer? = some offer → moment.manager.Admissible offer.manifest →
    moment.outcome.calls = moment.manager.constructionCalls offer.manifest offer.dataDir
  /-- A manifest that fails a gate is answered with the first one and causes nothing else. -/
  refused : ∀ (moment : Moment rules requests) (offer : Offer),
    moment.request.offer? = some offer → ¬ moment.manager.Admissible offer.manifest →
    ∃ error, moment.manager.Refusal offer.manifest error ∧
      moment.outcome = ⟨moment.manager, [], [], .loaded (.error error)⟩
  /-- Checking alone gives the same verdict and causes nothing. -/
  evaluated : ∀ (moment : Moment rules requests) (manifest : Manifest),
    moment.request = .evaluate manifest →
    (moment.manager.Admissible manifest ∧
        moment.outcome = ⟨moment.manager, [], [], .evaluated (.ok ())⟩) ∨
      ∃ error, moment.manager.Refusal manifest error ∧
        moment.outcome = ⟨moment.manager, [], [], .evaluated (.error error)⟩
  /-- In the scan of a directory every bundle that is not admitted is noted with its error. -/
  scanned : ∀ (manager : PluginManager) (files : FileView) (directory : String)
      (bundles : List PluginBundle),
    PluginBundle.discover files directory = .ok bundles →
    (manager.loadDirectory files directory).warnings =
      (List.zipWith PluginManager.skipNotes bundles
        (manager.run (bundles.map (.loadBundle files))).result).flatten
  /-- After the checks the constructor is always found. -/
  found : ∀ (moment : Moment rules requests) (manifest : Manifest) (number : Nat),
    moment.manager.evaluate manifest = .ok () →
    rules.factories.construct? manifest.implementation number ≠ none

/-- In every run of a manager, plugin code is called only behind the gates. -/
theorem run_gatedCalls (rules : AdmissionRules) (requests : List ManagerRequest) :
    GatedCalls rules requests where
  constructed before number implementation after calls := Moment.exists_of_construct calls
  initialised before number context after calls := by
    obtain ⟨moment, offer, offers, admissible, rfl, rfl, rfl⟩ := Moment.exists_of_init calls
    refine ⟨⟨_, _, rfl⟩, ?_⟩
    intro other
    refine ⟨?_, moment.init_not_mem_later offers admissible other⟩
    intro again
    rcases List.mem_append.mp again with earlier | construction
    · exact moment.init_not_mem_past other earlier
    · simp at construction
  admitted moment offer offers admissible := by
    rcases moment.manager.perform_calls_of_offer offers with ⟨_, made⟩ | ⟨refusal, _⟩
    · exact made
    · exact (refusal admissible).elim
  refused moment offer offers inadmissible := by
    rw [Moment.outcome, moment.manager.perform_of_offer offers]
    cases moment.manager.load_cases offer.manifest offer.source offer.dataDir with
    | refused refusal loading => exact ⟨_, refusal, by rw [loading]; rfl⟩
    | failed admissible => exact (inadmissible admissible).elim
    | admitted admissible => exact (inadmissible admissible).elim
  evaluated moment manifest request := by
    rw [Moment.outcome, request, PluginManager.perform]
    rcases moment.manager.admissible_or_refusal manifest with admissible | ⟨error, refusal⟩
    · exact .inl ⟨admissible, by rw [PluginManager.evaluate_of_admissible admissible]⟩
    · exact .inr ⟨error, refusal, by rw [PluginManager.evaluate_of_refusal refusal]⟩
  scanned manager files directory bundles found := by
    rw [PluginManager.loadDirectory, found]
    simp [PluginManager.loadBundles_eq_run]
  found moment manifest number accepted := by
    obtain ⟨plugin, constructed⟩ :=
      (PluginManager.evaluate_eq_ok_iff.mp accepted).exists_construct? number
    rw [moment.manager_rules] at constructed
    simp [constructed]

end PluginHost
