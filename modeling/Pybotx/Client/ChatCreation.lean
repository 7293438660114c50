/-
Creating a chat.

The payload declares constraints on the name, the type and the avatar as validators.  Its
base class constructs it without running any, so the arguments are sent as they are.
-/

import Pybotx.Client.ChatsApi
import Pybotx.Client.Requests
import Pybotx.Foundation.Words
import Pybotx.Models.ApiAttachments
import Pybotx.Models.ApiBase

set_option autoImplicit false

namespace Pybotx

def convertChatTypeFromDomain : ChatTypes → APIChatTypes
  | .personalChat => .chat
  | .groupChat => .groupChat
  | .channel => .channel
  | .thread => .thread

inductive RequestedChatType where
  | api (type : APIChatTypes)
  | domain (type : ChatTypes)
  deriving DecidableEq

def RequestedChatType.serialize : RequestedChatType → String
  | api type => type.value
  | domain type => (convertChatTypeFromDomain type).value

/-- `UnverifiedPayloadBaseModel.__init__` fills the fields with the arguments. -/
structure BotXAPICreateChatRequestPayload where
  name : String
  description : Option String
  chatType : RequestedChatType
  members : List UUID
  sharedHistory : Missing Bool
  avatar : Option String

namespace BotXAPICreateChatRequestPayload

/-- `model_dump`, without `shared_history` if that is `Undefined`. -/
def body (payload : BotXAPICreateChatRequestPayload) : Json :=
  .obj ([("name", .str payload.name),
      ("description", payload.description.elim .null .str),
      ("chat_type", .str payload.chatType.serialize),
      ("members", .arr (payload.members.map fun huid => .str huid.str))] ++
    (payload.sharedHistory.toOption.map fun shared => ("shared_history", .bool shared)).toList ++
    [("avatar", payload.avatar.elim .null .str)])

def request (env : Environment) (payload : BotXAPICreateChatRequestPayload) (session : Session) :
    Option OutgoingRequest :=
  (createChatMethod env.python).sends env ⟨[], .json payload.body⟩ session

end BotXAPICreateChatRequestPayload

/-- The rest of `Client.create_chat` once the payload is constructed. -/
def createChat (env : Environment) (payload : BotXAPICreateChatRequestPayload)
    (session : Session) : Result UUID × Session :=
  match (createChatMethod env.python).execute env ⟨[], .json payload.body⟩ session with
  | (.ok created, session) => (.ok created.result.chatId, session)
  | (.error exc, session) => (.error exc, session)

def IsDataUrl (avatar : String) : Prop :=
  "data:".toList <+: avatar.toList ∧ ∃ content, decodeRfc2397 avatar = .ok content

structure ObeysConstraints (body : Json) : Prop where
  name : ∃ name, body.atPath ["name"] = some (.str name) ∧
    Text.strip Text.isSpace name.toList ≠ []
  avatar : body.atPath ["avatar"] = some .null ∨
    ∃ avatar, body.atPath ["avatar"] = some (.str avatar) ∧ IsDataUrl avatar
  chatType : ∃ chatType, body.atPath ["chat_type"] = some (.str chatType) ∧
    chatType ≠ APIChatTypes.voexCall.value

/-- Either the call raises and sends nothing, or what it sends obeys the constraints. -/
def CreatesConstrained (payload : BotXAPICreateChatRequestPayload) : Prop :=
  ∀ env session,
    (payload.request env session = none ∧
      ∃ exc, createChat env payload session = (.error exc, session)) ∨
    ∃ outgoing body, payload.request env session = some outgoing ∧
      outgoing.content = .json body ∧ ObeysConstraints body

namespace BotXAPICreateChatRequestPayload

variable (payload : BotXAPICreateChatRequestPayload)

theorem body_fields :
    payload.body.atPath ["name"] = some (.str payload.name) ∧
      payload.body.atPath ["avatar"] = some (payload.avatar.elim .null .str) ∧
      payload.body.atPath ["chat_type"] = some (.str payload.chatType.serialize) := by
  refine ⟨rfl, ?_, rfl⟩
  unfold body
  cases payload.sharedHistory <;> simp [Json.atPath, Dict.get_cons, Missing.toOption]

theorem serialize_eq_voexCall_iff (chatType : RequestedChatType) :
    chatType.serialize = APIChatTypes.voexCall.value ↔ chatType = .api .voexCall := by
  cases chatType with
  | api type => cases type <;> decide
  | domain type => cases type <;> decide

theorem obeysConstraints_iff :
    ObeysConstraints payload.body ↔
      Text.strip Text.isSpace payload.name.toList ≠ [] ∧
        (∀ avatar, payload.avatar = some avatar → IsDataUrl avatar) ∧
        payload.chatType ≠ .api .voexCall := by
  obtain ⟨nameAt, avatarAt, typeAt⟩ := payload.body_fields
  have typed := not_congr (serialize_eq_voexCall_iff payload.chatType)
  constructor
  · intro obeys
    obtain ⟨name, given, filled⟩ := obeys.name
    obtain ⟨chatType, typeGiven, allowed⟩ := obeys.chatType
    rw [nameAt] at given
    rw [typeAt] at typeGiven
    cases given
    cases typeGiven
    refine ⟨filled, ?_, typed.mp allowed⟩
    intro avatar present
    rcases obeys.avatar with null | ⟨other, otherGiven, isDataUrl⟩
    · rw [avatarAt, present] at null
      cases null
    · rw [avatarAt, present] at otherGiven
      cases otherGiven
      exact isDataUrl
  · intro allowed
    obtain ⟨filled, avatars, notCall⟩ := allowed
    refine ⟨⟨_, nameAt, filled⟩, ?_, ⟨_, typeAt, typed.mpr notCall⟩⟩
    rw [avatarAt]
    cases present : payload.avatar with
    | none => exact Or.inl rfl
    | some avatar => exact Or.inr ⟨avatar, rfl, avatars avatar present⟩

theorem content_of_request {env : Environment} {session : Session} {outgoing : OutgoingRequest}
    (sent : payload.request env session = some outgoing) :
    outgoing.content = .json payload.body :=
  BotXMethod.content_of_sent sent

theorem demo_request :
    ∃ outgoing, payload.request (demoEnvironment (.failed "")) demoSession = some outgoing :=
  BotXMethod.demo_sends _ _ _ _ (.failed "") ⟨[], .json payload.body⟩

theorem raises_of_not_sent {env : Environment} {session : Session}
    (notSent : payload.request env session = none) :
    ∃ exc, createChat env payload session = (.error exc, session) := by
  obtain ⟨exc, failed⟩ := BotXMethod.execute_of_not_sent notSent
  refine ⟨exc, ?_⟩
  rw [createChat, failed]

end BotXAPICreateChatRequestPayload

/-- Nothing but the arguments decides whether the constraints are kept. -/
theorem createChat_constrained_iff (payload : BotXAPICreateChatRequestPayload) :
    CreatesConstrained payload ↔
      Text.strip Text.isSpace payload.name.toList ≠ [] ∧
        (∀ avatar, payload.avatar = some avatar → IsDataUrl avatar) ∧
        payload.chatType ≠ .api .voexCall := by
  rw [← payload.obeysConstraints_iff]
  constructor
  · intro constrained
    obtain ⟨first, sent⟩ := payload.demo_request
    rcases constrained (demoEnvironment (.failed "")) demoSession with
      ⟨notSent, _⟩ | ⟨outgoing, body, sent, content, obeys⟩
    · rw [sent] at notSent
      cases notSent
    · rw [payload.content_of_request sent] at content
      cases content
      exact obeys
  · intro obeys env session
    cases sent : payload.request env session with
    | none => exact Or.inl ⟨rfl, payload.raises_of_not_sent sent⟩
    | some outgoing =>
        exact Or.inr ⟨outgoing, payload.body, rfl, payload.content_of_request sent, obeys⟩

/-- A chat of a forbidden type with a blank name and an avatar that is no data URL. -/
def uncheckedChat : BotXAPICreateChatRequestPayload :=
  ⟨"  ", none, .api .voexCall, [], .undefined, some "avatar.png"⟩

theorem uncheckedChat_sent :
    ∃ env session outgoing body, uncheckedChat.request env session = some outgoing ∧
      outgoing.content = .json body ∧ body.atPath ["name"] = some (.str "  ") ∧
      body.atPath ["avatar"] = some (.str "avatar.png") ∧
      body.atPath ["chat_type"] = some (.str "voex_call") ∧ ¬ CreatesConstrained uncheckedChat := by
  obtain ⟨outgoing, sent⟩ := uncheckedChat.demo_request
  refine ⟨_, _, outgoing, _, sent, uncheckedChat.content_of_request sent, rfl, rfl, rfl, ?_⟩
  intro constrained
  rcases constrained (demoEnvironment (.failed "")) demoSession with
    ⟨notSent, _⟩ | ⟨first, body, firstSent, content, obeys⟩
  · rw [sent] at notSent
    cases notSent
  · rw [uncheckedChat.content_of_request firstSent] at content
    cases content
    exact (uncheckedChat.obeysConstraints_iff.mp obeys).2.2 rfl

end Pybotx
