import PluginHost.Proofs.Gateway.Layers
import PluginHost.Proofs.Host.Events

/-!
# Calls that reach handlers

There are several ways to a handler: a call with or without a limit, one of a model within a
conversation, or a whole request to the gateway.  On each of them a call has been prepared by
the registry, with the instances as they are then, before it is put to its handler.
-/

namespace PluginHost

/-- A call that the registry has prepared, under some name and with some arguments. -/
def PreparedBy (registry : ToolRegistry) (handles : Handles) (call : PreparedCall) : Prop :=
  ∃ name args, registry.prepare handles name args = .ok call

variable {registry : ToolRegistry} {handles : Handles} {call : PreparedCall}

/-- The tool of a prepared call is registered and its owner is active. -/
theorem PreparedBy.active (prepared : PreparedBy registry handles call) :
    handles.isActive call.tool.owner = true := by
  obtain ⟨name, args, prepared⟩ := prepared
  obtain ⟨passing, rfl⟩ := ToolRegistry.prepare_eq_ok_iff.mp prepared
  exact passing.active

namespace ToolRegistry

theorem preparedBy_of_mem_handlerCalls {name : String} {args : Json}
    (member : call ∈ (registry.start handles name args).handlerCalls) :
    PreparedBy registry handles call := by
  rw [start] at member
  cases prepared : registry.prepare handles name args with
  | error error =>
      rw [prepared] at member
      cases member
  | ok other =>
      rw [prepared] at member
      obtain rfl := List.mem_singleton.mp member
      exact ⟨name, args, prepared⟩

theorem preparedBy_of_invokeWithin {name : String} {args : Json} {limit : Span}
    (started : (registry.invokeWithin handles name args limit).started = some call) :
    PreparedBy registry handles call := by
  have member : call ∈ (registry.start handles name args).handlerCalls := by
    rw [← invokeWithin_started registry handles name args limit, started]
    exact List.mem_singleton.mpr rfl
  exact preparedBy_of_mem_handlerCalls member

theorem preparedBy_of_answerCall {limit : Span} {modelCall : Json}
    (started : (registry.answerCall handles limit modelCall).started = some call) :
    PreparedBy registry handles call := by
  have started : (registry.runModelCall handles limit (.ofJson modelCall)).started = some call :=
    started
  rw [runModelCall] at started
  split at started
  · cases started
  · exact preparedBy_of_invokeWithin started

theorem preparedBy_of_serveCall {limits : ServerLimits} {headers : HeaderFields}
    {body : RequestBody}
    (started : (registry.serveCall handles limits headers body).started = some call) :
    PreparedBy registry handles call := by
  rw [serveCall] at started
  split at started
  · cases started
  · exact preparedBy_of_invokeWithin started

end ToolRegistry

/-- What is started in a conversation is the answer to one of its calls. -/
theorem ChatProvider.exists_answer_of_mem_started (provider : ChatProvider)
    (answers : CallAnswers) (replies : ProviderReplies) (request : Json)
    (member : call ∈ (provider.completeWith registry answers request replies).started) :
    ∃ number place modelCall, (answers number place modelCall).started = some call := by
  unfold completeWith at member
  split at member
  · split at member
    · cases member
    · rename_i fields _
      obtain ⟨answer, among, started⟩ := List.mem_filterMap.mp member
      -- All rounds consist of answers, whether or not the request's messages are a list.
      obtain ⟨rounds, -, -, -, -, course⟩ :=
        provider.converse_posts_rounds answers replies provider.maxToolRounds
          (withTools registry fields)
      rw [course] at among
      obtain ⟨round, ofRounds, within⟩ := List.mem_flatten.mp among
      obtain ⟨number, -, rfl⟩ := List.mem_map.mp ofRounds
      obtain ⟨place, bound, rfl⟩ := List.mem_mapIdx.mp within
      exact ⟨number, place, _, started⟩
  · cases member

namespace Gateway

variable {gateway : Gateway} {replies : ProviderReplies} {request : GatewayRequest}

theorem preparedBy_of_serveChat
    (member : call ∈ (gateway.serveChat handles replies request).started) :
    PreparedBy gateway.registry handles call := by
  rw [serveChat] at member
  split at member
  · cases member
  · rename_i provider _
    split at member
    · cases member
    · obtain ⟨number, place, modelCall, started⟩ :=
        provider.exists_answer_of_mem_started _ replies _ member
      exact ToolRegistry.preparedBy_of_answerCall started

theorem preparedBy_of_serve {endpoint : Endpoint}
    (member : call ∈ (gateway.serve handles replies request endpoint).started) :
    PreparedBy gateway.registry handles call := by
  cases endpoint with
  | health => cases member
  | tools => cases member
  | callTool => exact ToolRegistry.preparedBy_of_serveCall (Option.mem_toList.mp member)
  | chatCompletions => exact preparedBy_of_serveChat member
  | models =>
      rw [serve, serveModels] at member
      split at member <;> cases member

theorem preparedBy_of_endpointService? {endpoint : Endpoint} {method : String} {service : Service}
    (found : gateway.endpointService? handles replies endpoint method = some service)
    (member : call ∈ (service request).started) : PreparedBy gateway.registry handles call := by
  rw [endpointService?] at found
  split at found
  · obtain rfl := Option.some.inj found
    dsimp only at member
    split at member
    all_goals exact preparedBy_of_serve member
  · split at found
    · obtain rfl := Option.some.inj found
      cases member
    · cases found

/-- Whatever a request asks of the gateway, its calls have been prepared. -/
theorem preparedBy_of_handle
    (member : call ∈ (gateway.handle handles replies request).started) :
    PreparedBy gateway.registry handles call := by
  rw [handle, route] at member
  split at member
  · cases Layer.mem_started_of_around_permissive member
  · split at member
    · next found =>
        exact preparedBy_of_endpointService? found (Layer.mem_started_of_around_permissive member)
    · cases Layer.mem_started_of_around_permissive member

end Gateway

namespace HostState

/-- Every call that an event puts to a handler has been prepared in the state before it. -/
theorem preparedBy_of_mem_started (state : HostState) {event : HostEvent}
    (member : call ∈ state.started event) : PreparedBy state.registry state.handles call := by
  cases event with
  | invoke name args => exact ToolRegistry.preparedBy_of_mem_handlerCalls member
  | invokeWithin name args limit =>
      exact ToolRegistry.preparedBy_of_invokeWithin (Option.mem_toList.mp member)
  | answerCall limit modelCall =>
      exact ToolRegistry.preparedBy_of_answerCall (Option.mem_toList.mp member)
  | serve limits provider replies request => exact Gateway.preparedBy_of_handle member
  | _ => cases member

end HostState

end PluginHost
