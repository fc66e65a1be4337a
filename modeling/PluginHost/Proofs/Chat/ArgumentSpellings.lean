import PluginHost.Proofs.Chat.ToolAnswers
import PluginHost.Proofs.Json.Printed

/-!
# Ways to write the arguments of a call

A model may write the arguments of a call as an object, or as a text that spells the object.  The
answer is the same, and so it is for all the ways to write that there are no arguments.
-/

namespace PluginHost

open Text

/-- A call has an id, names a tool, and has arguments as they are written, if it has any. -/
structure CallWrites (call : Json) (id name : String) (written : Option Json) : Prop where
  identified : MemberText "id" call id
  named : MemberText "name" (call.field "function") name
  argued : (call.field "function").get? "arguments" = written

/-- Ways to write that there are no arguments. -/
inductive WritesNoArguments : Option Json → Prop where
  | absent : WritesNoArguments none
  | null : WritesNoArguments (some .null)
  | blank {text : String} (isBlank : isBlankText text = true) :
      WritesNoArguments (some (.string text))
  | object : WritesNoArguments (some (.object []))
  | text {text : String} (parses : Json.parse text = .ok (.object [])) :
      WritesNoArguments (some (.string text))

/-- The answers to calls that write the same arguments in different ways. -/
structure ToolRegistry.AnswersAnySpelling (registry : ToolRegistry) (handles : Handles)
    (limit : Span) : Prop where
  spelled : ∀ {id name text fields call textCall}, Json.parse text = .ok (.object fields) →
    CallWrites call id name (some (.object fields)) →
      CallWrites textCall id name (some (.string text)) →
        registry.answerCall handles limit textCall = registry.answerCall handles limit call
  /-- The compact text of an object without doubles is one that spells it. -/
  printed : ∀ {id name fields call textCall} {nested : Nat},
    Json.PlainTo nested (.object fields) → nested < JsonReader.depthLimit →
      CallWrites call id name (some (.object fields)) →
        CallWrites textCall id name (some (.string (Json.object fields).compact)) →
          registry.answerCall handles limit textCall = registry.answerCall handles limit call
  nothing : ∀ {id name written others call other}, WritesNoArguments written →
    WritesNoArguments others → CallWrites call id name written → CallWrites other id name others →
      registry.answerCall handles limit call = registry.answerCall handles limit other

theorem callArguments_of_parse {text : String} {arguments : Json}
    (parses : Json.parse text = .ok arguments) : callArguments (.string text) = .ok arguments :=
  callArguments_of_argumentsOf (.spelled (Json.isBlankText_eq_false_of_parse parses) parses)

theorem callArguments_of_writesNoArguments {written : Option Json}
    (nothing : WritesNoArguments written) :
    callArguments (written.getD .null) = .ok (.object []) := by
  cases nothing with
  | absent => rfl
  | null => rfl
  | blank isBlank => exact callArguments_of_argumentsOf (.blank isBlank)
  | object => rfl
  | text parses => exact callArguments_of_parse parses

theorem CallWrites.ofJson_eq {call : Json} {id name : String} {written : Option Json}
    (writes : CallWrites call id name written) :
    ModelCall.ofJson call = ⟨id, name, written.getD .null⟩ := by
  obtain ⟨identified, named, rfl⟩ := writes
  obtain rfl := textMember_eq_iff.mpr identified
  obtain rfl := textMember_eq_iff.mpr named
  rfl

namespace ToolRegistry

variable {registry : ToolRegistry} {handles : Handles} {limit : Span}

/-- Of what is written as arguments only what it stands for counts. -/
theorem answerCall_eq_of_callArguments {first second : Json} {id name : String}
    {written others : Option Json} (firstWrites : CallWrites first id name written)
    (secondWrites : CallWrites second id name others)
    (same : callArguments (written.getD .null) = callArguments (others.getD .null)) :
    registry.answerCall handles limit first = registry.answerCall handles limit second := by
  have runs : registry.runModelCall handles limit ⟨id, name, written.getD .null⟩ =
      registry.runModelCall handles limit ⟨id, name, others.getD .null⟩ := by
    rw [runModelCall, runModelCall, same]
  rw [answerCall, answerCall, firstWrites.ofJson_eq, secondWrites.ofJson_eq, runs]

theorem answerCall_anySpelling (registry : ToolRegistry) (handles : Handles) (limit : Span) :
    registry.AnswersAnySpelling handles limit where
  spelled parses writes spells :=
    answerCall_eq_of_callArguments spells writes (callArguments_of_parse parses)
  printed plain deep writes prints :=
    answerCall_eq_of_callArguments prints writes
      (callArguments_of_parse (plain.parse_compact deep))
  nothing first second writes others :=
    answerCall_eq_of_callArguments writes others
      ((callArguments_of_writesNoArguments first).trans
        (callArguments_of_writesNoArguments second).symm)

end ToolRegistry

end PluginHost
