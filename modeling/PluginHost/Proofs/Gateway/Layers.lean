import PluginHost.Gateway.Router

/-!
# Layers around the services of the gateway

Whatever answers a request, a service of an endpoint or what stands in for one that is missing, is
reached through the same layers.  One of them deals with pages of other origins.  Of this layer
nothing is used here but that it answers questions about what is allowed by itself and lets every
other response name every origin; the layers around it then do the same, and leave such questions
without content.
-/

namespace PluginHost

namespace HeaderFields

theorem values_append (name : String) (first second : HeaderFields) :
    (first ++ second : HeaderFields).values name = first.values name ++ second.values name := by
  rw [values, List.filter_append, List.map_append]
  rfl

/-- A single field has no value of another name. -/
theorem values_other {name other : String} (apart : other.toLower ≠ name) (value : String) :
    values name [(other, value)] = [] := by
  simp [values, apart]

end HeaderFields

namespace GatewayResponse

/-- The origins that a response names as those that may read it. -/
def origins (response : GatewayResponse) : List String :=
  response.headers.values "access-control-allow-origin"

variable {response : GatewayResponse}

theorem origins_ofJsonText (status : Nat) (body : String) : (ofJsonText status body).origins = [] :=
  HeaderFields.values_other (by decide +kernel) _

theorem origins_ofStatus (status : Nat) : (ofStatus status).origins = [] :=
  rfl

theorem origins_ofResult (result : Except HostError Json) : (ofResult result).origins = [] := by
  cases result <;> exact origins_ofJsonText _ _

theorem origins_withHeaders (fields : HeaderFields) (response : GatewayResponse) :
    (response.withHeaders fields).origins =
      response.origins ++ fields.values "access-control-allow-origin" :=
  HeaderFields.values_append _ _ _

theorem origins_withAllow (allowed : String) (response : GatewayResponse) :
    (response.withHeaders [("allow", allowed)]).origins = response.origins := by
  rw [origins_withHeaders, HeaderFields.values_other (by decide +kernel), List.append_nil]

/-- A response that names an origin is left as it is. -/
theorem namingOrigin_of_named {origin : String} {others : List String}
    (named : response.origins = origin :: others) : response.namingOrigin = response := by
  have found : response.headers.first? everyOrigin.1 = some origin := by
    rw [HeaderFields.first?]
    exact congrArg List.head? named
  rw [namingOrigin, found]
  rfl

theorem origins_shared (unnamed : response.origins = []) : response.shared.origins = ["*"] := by
  rw [shared, origins_withHeaders, unnamed]
  decide +kernel

/-- A response for pages of every origin names one. -/
theorem namingOrigin_shared (response : GatewayResponse) :
    response.shared.namingOrigin = response.shared := by
  have named : response.shared.origins = response.origins ++ ["*"] := by
    have every : HeaderFields.values "access-control-allow-origin"
        [everyOrigin, originVariance, ("access-control-expose-headers", "*")] = ["*"] := by
      decide +kernel
    rw [shared, origins_withHeaders, every]
  cases before : response.origins with
  | nil => exact namingOrigin_of_named (by rw [named, before, List.nil_append])
  | cons origin others => exact namingOrigin_of_named (by rw [named, before, List.cons_append])

theorem origins_permission : permission.origins = ["*"] := by
  decide +kernel

theorem origins_namingOrigin_of_unnamed (unnamed : response.origins = []) :
    response.namingOrigin.origins = ["*"] := by
  have notFound : response.headers.first? everyOrigin.1 = none := by
    rw [HeaderFields.first?]
    exact congrArg List.head? unnamed
  rw [namingOrigin, notFound]
  simp only [Option.isSome_none, Bool.false_eq_true, if_false, origins_withHeaders, unnamed]
  decide +kernel

/-- Responses that name no origin or every origin end up naming every origin, once. -/
theorem origins_namingOrigin (named : response.origins = [] ∨ response.origins = ["*"]) :
    response.namingOrigin.origins = ["*"] := by
  rcases named with unnamed | named
  · exact origins_namingOrigin_of_unnamed unnamed
  · rw [namingOrigin_of_named named, named]

end GatewayResponse

namespace Layer

variable {sharing : Layer} {service : Service} {request : GatewayRequest}

/-- What a layer does that deals with pages of other origins and allows them everything. -/
structure IsPermissive (sharing : Layer) : Prop where
  /-- It answers questions about what is allowed itself, with a status of 200, and names every
  origin in the answer or leaves this to others. -/
  question : ∀ request : GatewayRequest, request.method = "OPTIONS" →
    ∃ response : GatewayResponse, response.status = 200 ∧
      (response.origins = [] ∨ response.origins = ["*"]) ∧
        ∀ service, sharing service request = .answered response
  /-- It adds every origin to all other responses. -/
  other : ∀ (service : Service) (request : GatewayRequest), request.method ≠ "OPTIONS" →
    (service request).response.origins = [] →
      (sharing service request).response.origins = ["*"]

theorem isQuestion_eq_true_iff (request : GatewayRequest) :
    request.isQuestion = true ↔ request.method = "OPTIONS" := by
  rw [GatewayRequest.isQuestion, beq_iff_eq]

theorem isQuestion_eq_false_iff (request : GatewayRequest) :
    request.isQuestion = false ↔ request.method ≠ "OPTIONS" := by
  rw [← Bool.not_eq_true, isQuestion_eq_true_iff]

theorem withoutContent_of_not_question (asksNot : request.method ≠ "OPTIONS") :
    withoutContent service request = service request := by
  simp only [withoutContent, (isQuestion_eq_false_iff request).mpr asksNot, Bool.false_and,
    Bool.false_eq_true, if_false]

theorem withoutContent_of_question {response : GatewayResponse} (asks : request.method = "OPTIONS")
    (good : response.status = 200) (answers : service request = .answered response) :
    withoutContent service request = .answered (response.withStatus 204) := by
  simp only [withoutContent, (isQuestion_eq_true_iff request).mpr asks, answers, Exchange.answered,
    good, beq_self_eq_true, Bool.and_self, if_true, Exchange.mapResponse]

/-- Through all layers a question gets the same answer whatever service there is. -/
theorem IsPermissive.around_question (permissive : sharing.IsPermissive)
    (asks : request.method = "OPTIONS") :
    ∃ response : GatewayResponse, response.status = 204 ∧ response.origins = ["*"] ∧
      ∀ service, around sharing service request = .answered response := by
  obtain ⟨response, good, named, answers⟩ := permissive.question request asks
  refine ⟨(response.withStatus 204).namingOrigin, ?_, GatewayResponse.origins_namingOrigin named,
    fun service => ?_⟩
  · rw [GatewayResponse.namingOrigin]
    split <;> rfl
  · rw [around, namingOrigin, withoutContent_of_question asks good (answers service)]
    rfl

/-- Through all layers the response of a service names every origin. -/
theorem IsPermissive.origins_around (permissive : sharing.IsPermissive)
    (unnamed : (service request).response.origins = []) :
    (around sharing service request).response.origins = ["*"] := by
  by_cases asks : request.method = "OPTIONS"
  · obtain ⟨response, -, named, answers⟩ := permissive.around_question asks
    rw [answers]
    exact named
  · have named := permissive.other service request asks unnamed
    rw [around, namingOrigin, withoutContent_of_not_question asks]
    exact GatewayResponse.origins_namingOrigin (.inr named)

/-! ### The layer of the gateway -/

theorem isPermissive_permissive : permissive.IsPermissive where
  question request asks := by
    refine ⟨.permission, rfl, .inr GatewayResponse.origins_permission, fun service => ?_⟩
    rw [permissive, (isQuestion_eq_true_iff request).mpr asks, if_pos rfl]
  other service request asksNot unnamed := by
    rw [permissive, (isQuestion_eq_false_iff request).mpr asksNot]
    exact GatewayResponse.origins_shared unnamed

theorem around_permissive_of_not_question (asksNot : request.method ≠ "OPTIONS") :
    around permissive service request = (service request).mapResponse .shared := by
  have asks := (isQuestion_eq_false_iff request).mpr asksNot
  rw [around, namingOrigin, withoutContent_of_not_question asksNot]
  simp only [permissive, asks, Bool.false_eq_true, if_false, Exchange.mapResponse,
    GatewayResponse.namingOrigin_shared]

/-- No layer of the gateway puts a call to a handler. -/
theorem mem_started_of_around_permissive {call : PreparedCall}
    (member : call ∈ (around permissive service request).started) :
    call ∈ (service request).started := by
  by_cases asks : request.method = "OPTIONS"
  · obtain ⟨response, -, -, answers⟩ := isPermissive_permissive.around_question asks
    rw [answers] at member
    cases member
  · rwa [around_permissive_of_not_question asks] at member

end Layer

namespace Gateway

variable {gateway : Gateway} {handles : Handles} {replies : ProviderReplies}
  {request : GatewayRequest}

theorem origins_serve (endpoint : Endpoint) :
    (gateway.serve handles replies request endpoint).response.origins = [] := by
  cases endpoint with
  | health => exact GatewayResponse.origins_ofJsonText _ _
  | tools => exact GatewayResponse.origins_ofJsonText _ _
  | callTool => exact GatewayResponse.origins_ofResult _
  | chatCompletions =>
      rw [serve, serveChat]
      split
      · exact GatewayResponse.origins_ofJsonText _ _
      · split
        · exact GatewayResponse.origins_ofJsonText _ _
        · exact GatewayResponse.origins_ofResult _
  | models =>
      rw [serve, serveModels]
      split
      · exact GatewayResponse.origins_ofJsonText _ _
      · exact GatewayResponse.origins_ofResult _

/-- No service names an origin itself. -/
theorem origins_endpointService? {endpoint : Endpoint} {method : String} {service : Service}
    (found : gateway.endpointService? handles replies endpoint method = some service) :
    (service request).response.origins = [] := by
  rw [endpointService?] at found
  split at found
  · obtain rfl := Option.some.inj found
    dsimp only
    split <;> exact origins_serve endpoint
  · split at found
    · obtain rfl := Option.some.inj found
      exact GatewayResponse.origins_ofStatus 204
    · cases found

theorem takes_options (endpoint : Endpoint) : endpoint.takes "OPTIONS" = false := by
  cases endpoint <;> decide

/-- A question has the same answer at every gateway. -/
theorem exists_answer_of_question {sharing : Layer} (permissive : sharing.IsPermissive)
    (asks : request.method = "OPTIONS") :
    ∃ response : GatewayResponse, response.status = 204 ∧
      ∀ (gateway : Gateway) handles replies,
        gateway.route (.around sharing) handles replies request = .answered response := by
  obtain ⟨response, status, -, answers⟩ := permissive.around_question asks
  cases leads : Endpoint.ofPath? request.path with
  | none =>
      refine ⟨response, status, fun gateway handles replies => ?_⟩
      rw [route, leads]
      exact answers _
  | some endpoint =>
      cases answersItself : endpoint.answersOptions with
      | true =>
          refine ⟨response, status, fun gateway handles replies => ?_⟩
          simp only [route, leads, endpointService?, asks, takes_options, answersItself,
            Bool.false_eq_true, if_false, beq_self_eq_true, Bool.and_self, if_true]
          exact answers _
      | false =>
          refine ⟨response.withHeaders [("allow", endpoint.allowed)], status,
            fun gateway handles replies => ?_⟩
          simp only [route, leads, endpointService?, asks, takes_options, answersItself,
            Bool.false_eq_true, if_false, Bool.false_and, answers]
          rfl

theorem origins_route {sharing : Layer} (permissive : sharing.IsPermissive) (gateway : Gateway)
    (handles : Handles) (replies : ProviderReplies) (request : GatewayRequest) :
    (gateway.route (.around sharing) handles replies request).response.origins = ["*"] := by
  rw [route]
  split
  · exact permissive.origins_around (GatewayResponse.origins_ofStatus 404)
  · split
    · next found => exact permissive.origins_around (origins_endpointService? found)
    · rw [Exchange.mapResponse, GatewayResponse.origins_withAllow]
      exact permissive.origins_around (GatewayResponse.origins_ofStatus 405)

end Gateway

/-- How a gateway with a layer for other origins treats the pages of every origin. -/
structure OpenToEveryOrigin (sharing : Layer) : Prop where
  /-- Every response names every origin, in one field. -/
  named : ∀ (gateway : Gateway) handles replies request,
    (gateway.route (.around sharing) handles replies request).response.headers.values
      "access-control-allow-origin" = ["*"]
  /-- Every question about what is allowed is answered with 204, alike at every gateway, and
  nothing is done for it. -/
  question : ∀ request : GatewayRequest, request.method = "OPTIONS" →
    ∃ response : GatewayResponse, response.status = 204 ∧
      ∀ (gateway : Gateway) handles replies,
        gateway.route (.around sharing) handles replies request = ⟨response, [], [], []⟩

/-- Around a layer that allows other origins everything, every gateway is open to every origin. -/
theorem Layer.openToEveryOrigin_of_isPermissive (sharing : Layer)
    (permissive : sharing.IsPermissive) : OpenToEveryOrigin sharing where
  named := Gateway.origins_route permissive
  question _ asks := Gateway.exists_answer_of_question permissive asks

/-- The gateway that is served is open to every origin. -/
theorem Gateway.handle_openToEveryOrigin :
    Layer.permissive.IsPermissive ∧ OpenToEveryOrigin .permissive ∧
      (∀ (gateway : Gateway) handles replies request,
        (gateway.handle handles replies request).response.headers.values
          "access-control-allow-origin" = ["*"]) ∧
      ∀ (gateway : Gateway) handles replies request, request.method = "OPTIONS" →
        (gateway.handle handles replies request).response.status = 204 ∧
          (gateway.handle handles replies request).started = [] ∧
            (gateway.handle handles replies request).asked = [] := by
  have permissive := Layer.isPermissive_permissive
  have isOpen := Layer.openToEveryOrigin_of_isPermissive .permissive permissive
  refine ⟨permissive, isOpen, isOpen.named, fun gateway handles replies request asks => ?_⟩
  obtain ⟨response, status, answers⟩ := isOpen.question request asks
  rw [handle, answers]
  exact ⟨status, rfl, rfl⟩

end PluginHost
