/-
The union of the system events and the commands of the domain.

The bodies of the event types differ, so at most one alternative of the union accepts a
command, and it does not matter how pydantic ranks alternatives that accept.
-/

import Pybotx.Models.SystemEvents

set_option autoImplicit false

namespace Pybotx

open Validator

inductive BotAPISystemEvent where
  | smartApp (event : BotAPISmartAppEvent)
  | internalBotNotification (event : BotAPIInternalBotNotification)
  | chatCreated (event : BotAPIChatCreated)
  | chatDeletedByUser (event : BotAPIChatDeletedByUser)
  | addedToChat (event : BotAPIAddedToChat)
  | deletedFromChat (event : BotAPIDeletedFromChat)
  | leftFromChat (event : BotAPILeftFromChat)
  | ctsLogin (event : BotAPICTSLogin)
  | ctsLogout (event : BotAPICTSLogout)
  | eventDeleted (event : BotAPIEventDeleted)
  | eventEdit (event : BotAPIEventEdit)
  | joinToChat (event : BotAPIJoinToChat)
  | conferenceChanged (event : BotAPIConferenceChanged)
  | conferenceCreated (event : BotAPIConferenceCreated)
  | conferenceDeleted (event : BotAPIConferenceDeleted)

inductive BotCommand where
  | message (message : IncomingMessage)
  | event (event : SystemEvent)

namespace BotAPISystemEvent

def alternatives (scalars : Scalars) : List (Scalars.Check BotAPISystemEvent) :=
  [fun raw => smartApp <$> BotAPISmartAppEvent.check scalars raw,
    fun raw => internalBotNotification <$> BotAPIInternalBotNotification.check scalars raw,
    fun raw => chatCreated <$> BotAPIChatCreated.check scalars raw,
    fun raw => chatDeletedByUser <$> BotAPIChatDeletedByUser.check scalars raw,
    fun raw => addedToChat <$> BotAPIAddedToChat.check scalars raw,
    fun raw => deletedFromChat <$> BotAPIDeletedFromChat.check scalars raw,
    fun raw => leftFromChat <$> BotAPILeftFromChat.check scalars raw,
    fun raw => ctsLogin <$> BotAPICTSLogin.check scalars raw,
    fun raw => ctsLogout <$> BotAPICTSLogout.check scalars raw,
    fun raw => eventDeleted <$> BotAPIEventDeleted.check scalars raw,
    fun raw => eventEdit <$> BotAPIEventEdit.check scalars raw,
    fun raw => joinToChat <$> BotAPIJoinToChat.check scalars raw,
    fun raw => conferenceChanged <$> BotAPIConferenceChanged.check scalars raw,
    fun raw => conferenceCreated <$> BotAPIConferenceCreated.check scalars raw,
    fun raw => conferenceDeleted <$> BotAPIConferenceDeleted.check scalars raw]

def check (scalars : Scalars) : Scalars.Check BotAPISystemEvent :=
  union (alternatives scalars)

def toDomain (rawCommand : List (String × Json)) : BotAPISystemEvent → Result SystemEvent
  | smartApp event => .ok (.smartApp (BotAPISmartAppEvent.toDomain rawCommand event))
  | internalBotNotification event =>
      .ok (.internalBotNotification (BotAPIInternalBotNotification.toDomain rawCommand event))
  | chatCreated event => .ok (.chatCreated (BotAPIChatCreated.toDomain rawCommand event))
  | chatDeletedByUser event =>
      .ok (.chatDeletedByUser (BotAPIChatDeletedByUser.toDomain rawCommand event))
  | addedToChat event => .ok (.addedToChat (BotAPIAddedToChat.toDomain rawCommand event))
  | deletedFromChat event =>
      .ok (.deletedFromChat (BotAPIDeletedFromChat.toDomain rawCommand event))
  | leftFromChat event => .ok (.leftFromChat (BotAPILeftFromChat.toDomain rawCommand event))
  | ctsLogin event => .ok (.ctsLogin (BotAPICTSLogin.toDomain rawCommand event))
  | ctsLogout event => .ok (.ctsLogout (BotAPICTSLogout.toDomain rawCommand event))
  | eventDeleted event => .ok (.eventDeleted (BotAPIEventDeleted.toDomain rawCommand event))
  | eventEdit event => do
      let converted ← BotAPIEventEdit.toDomain rawCommand event
      return .eventEdit converted
  | joinToChat event => .ok (.joinToChat (BotAPIJoinToChat.toDomain rawCommand event))
  | conferenceChanged event =>
      .ok (.conferenceChanged (BotAPIConferenceChanged.toDomain rawCommand event))
  | conferenceCreated event =>
      .ok (.conferenceCreated (BotAPIConferenceCreated.toDomain rawCommand event))
  | conferenceDeleted event =>
      .ok (.conferenceDeleted (BotAPIConferenceDeleted.toDomain rawCommand event))

def base : BotAPISystemEvent → BotAPIBaseCommand
  | smartApp event => event.toBotAPIBaseCommand
  | internalBotNotification event => event.toBotAPIBaseCommand
  | chatCreated event => event.toBotAPIBaseCommand
  | chatDeletedByUser event => event.toBotAPIBaseCommand
  | addedToChat event => event.toBotAPIBaseCommand
  | deletedFromChat event => event.toBotAPIBaseCommand
  | leftFromChat event => event.toBotAPIBaseCommand
  | ctsLogin event => event.toBotAPIBaseCommand
  | ctsLogout event => event.toBotAPIBaseCommand
  | eventDeleted event => event.toBotAPIBaseCommand
  | eventEdit event => event.toBotAPIBaseCommand
  | joinToChat event => event.toBotAPIBaseCommand
  | conferenceChanged event => event.toBotAPIBaseCommand
  | conferenceCreated event => event.toBotAPIBaseCommand
  | conferenceDeleted event => event.toBotAPIBaseCommand

def domainClass : BotAPISystemEvent → SystemEventClass
  | smartApp _ => .smartAppEvent
  | internalBotNotification _ => .internalBotNotificationEvent
  | chatCreated _ => .chatCreatedEvent
  | chatDeletedByUser _ => .chatDeletedByUserEvent
  | addedToChat _ => .addedToChatEvent
  | deletedFromChat _ => .deletedFromChatEvent
  | leftFromChat _ => .leftFromChatEvent
  | ctsLogin _ => .ctsLoginEvent
  | ctsLogout _ => .ctsLogoutEvent
  | eventDeleted _ => .eventDeleted
  | eventEdit _ => .eventEdit
  | joinToChat _ => .joinToChatEvent
  | conferenceChanged _ => .conferenceChangedEvent
  | conferenceCreated _ => .conferenceCreatedEvent
  | conferenceDeleted _ => .conferenceDeletedEvent

/-- Each conversion keeps the bot id, the raw command and the class. -/
theorem toDomain_base (rawCommand : List (String × Json)) (event : BotAPISystemEvent)
    (converted : SystemEvent) (returned : event.toDomain rawCommand = .ok converted) :
    converted.base.bot.id = event.base.botId ∧ converted.base.rawCommand = rawCommand ∧
      converted.type = event.domainClass := by
  cases event with
  | eventEdit event =>
      obtain ⟨edit, ran, same⟩ := (Result.bind_eq_ok _ _ _).mp returned
      cases same
      unfold BotAPIEventEdit.toDomain at ran
      obtain ⟨attachments, _, ran⟩ := (Result.bind_eq_ok _ _ _).mp ran
      obtain ⟨entities, _, ran⟩ := (Result.bind_eq_ok _ _ _).mp ran
      cases ran
      exact ⟨rfl, rfl, rfl⟩
  | _ event =>
      cases returned
      exact ⟨rfl, rfl, rfl⟩

end BotAPISystemEvent

/-! ### What a validated event was read from -/

/-- The body of the payload, which a join event may also carry under `payload`. -/
def eventBody (raw : Json) : Option Json :=
  match raw.atPath ["command"] with
  | some payload => payload.atPath ["body"]
  | none => raw.atPath ["payload", "body"]

structure EventRead (scalars : Scalars) (raw : Json) (eventType : BotAPISystemEventTypes)
    (base : BotAPIBaseCommand) : Prop where
  base : ∃ entries, raw = .obj entries ∧
    BotAPIBaseCommand.fields scalars entries = .valid base
  body : eventBody raw = some (.str eventType.value)

section

variable {scalars : Scalars} {raw : Json}

theorem systemPayload_body {Data : Type} {eventType : BotAPISystemEventTypes}
    {data : Scalars.Check Data} {value : Data}
    (checked : systemPayload eventType data raw = .valid value) :
    raw.atPath ["body"] = some (.str eventType.value) := by
  obtain ⟨entries, rfl, accepted⟩ := (model_eq_valid_iff _ _ _).mp checked
  simp only [Validated.seq_eq_valid_iff, Validated.map_eq_valid_iff,
    required_eq_valid_iff] at accepted
  obtain ⟨_, _, ⟨_, _, _, ⟨rawBody, given, known⟩, _⟩, _, _⟩ := accepted
  rw [findUnknownSystemEvent_valid eventType rawBody known] at given
  simp [Json.atPath, given]

theorem eventBody_of_command {entries : List (String × Json)} {payload : Json}
    (given : Dict.get "command" entries = some payload) :
    eventBody (.obj entries) = payload.atPath ["body"] := by
  simp [eventBody, Json.atPath, given]

theorem apiEvent_read {Data Sender : Type} {payload : Scalars.Check Data}
    {sender : Scalars.Check Sender} {event : BotAPIEvent Data Sender}
    (eventType : BotAPISystemEventTypes)
    (named : ∀ raw value, payload raw = .valid value →
      raw.atPath ["body"] = some (.str eventType.value))
    (checked : apiEvent scalars payload sender raw = .valid event) :
    EventRead scalars raw eventType event.toBotAPIBaseCommand := by
  obtain ⟨entries, rfl, accepted⟩ := (model_eq_valid_iff _ _ _).mp checked
  simp only [Validated.seq_eq_valid_iff, Validated.map_eq_valid_iff,
    required_eq_valid_iff] at accepted
  obtain ⟨_, _, ⟨_, data, ⟨base, baseRead, rfl⟩, ⟨rawPayload, given, dataRead⟩, rfl⟩, _, rfl⟩ :=
    accepted
  refine ⟨⟨entries, rfl, baseRead⟩, ?_⟩
  rw [eventBody_of_command given]
  exact named rawPayload data dataRead

theorem smartApp_read {event : BotAPISmartAppEvent}
    (checked : BotAPISmartAppEvent.check scalars raw = .valid event) :
    EventRead scalars raw .smartappEvent event.toBotAPIBaseCommand := by
  obtain ⟨entries, rfl, accepted⟩ := (model_eq_valid_iff _ _ _).mp checked
  simp only [Validated.seq_eq_valid_iff, Validated.map_eq_valid_iff,
    required_eq_valid_iff] at accepted
  obtain ⟨_, _, ⟨_, _, ⟨_, data, ⟨base, baseRead, rfl⟩, ⟨rawPayload, given, payloadRead⟩, rfl⟩, _,
    rfl⟩, _, rfl⟩ := accepted
  refine ⟨⟨entries, rfl, baseRead⟩, ?_⟩
  rw [eventBody_of_command given]
  obtain ⟨payload, rfl, accepted⟩ := (model_eq_valid_iff _ _ _).mp payloadRead
  simp only [Validated.seq_eq_valid_iff, Validated.map_eq_valid_iff,
    required_eq_valid_iff] at accepted
  obtain ⟨_, _, ⟨_, _, ⟨_, _, ⟨_, ⟨rawBody, bodyGiven, bodyRead⟩, _⟩, _, _⟩, _, _⟩, _, _⟩ :=
    accepted
  rw [(literal_eq_valid_iff _ rawBody).mp bodyRead] at bodyGiven
  simp [Json.atPath, bodyGiven]

theorem deletedFromChat_read {event : BotAPIDeletedFromChat}
    (checked : BotAPIDeletedFromChat.check scalars raw = .valid event) :
    EventRead scalars raw .deletedFromChat event.toBotAPIBaseCommand := by
  refine apiEvent_read .deletedFromChat ?_ checked
  intro raw value payloadRead
  obtain ⟨payload, rfl, accepted⟩ := (model_eq_valid_iff _ _ _).mp payloadRead
  simp only [Validated.seq_eq_valid_iff, Validated.map_eq_valid_iff,
    required_eq_valid_iff] at accepted
  obtain ⟨_, _, ⟨_, _, ⟨_, ⟨rawBody, bodyGiven, bodyRead⟩, _⟩, _, _⟩, _, _⟩ := accepted
  rw [(literal_eq_valid_iff _ rawBody).mp bodyRead] at bodyGiven
  simp [Json.atPath, bodyGiven]

theorem eventEdit_read {event : BotAPIEventEdit}
    (checked : BotAPIEventEdit.check scalars raw = .valid event) :
    EventRead scalars raw .eventEdit event.toBotAPIBaseCommand := by
  obtain ⟨entries, rfl, accepted⟩ := (model_eq_valid_iff _ _ _).mp checked
  simp only [Validated.seq_eq_valid_iff, Validated.map_eq_valid_iff,
    required_eq_valid_iff] at accepted
  obtain ⟨_, _, ⟨_, _, ⟨_, _, ⟨_, data, ⟨base, baseRead, rfl⟩, ⟨rawPayload, given, payloadRead⟩,
    rfl⟩, _, rfl⟩, _, rfl⟩, _, rfl⟩ := accepted
  refine ⟨⟨entries, rfl, baseRead⟩, ?_⟩
  rw [eventBody_of_command given]
  exact systemPayload_body payloadRead

theorem joinToChat_read {event : BotAPIJoinToChat}
    (checked : BotAPIJoinToChat.check scalars raw = .valid event) :
    EventRead scalars raw .joinToChat event.toBotAPIBaseCommand := by
  obtain ⟨entries, rfl, accepted⟩ := (model_eq_valid_iff _ _ _).mp checked
  simp only [Validated.seq_eq_valid_iff, Validated.map_eq_valid_iff] at accepted
  obtain ⟨_, _, ⟨_, data, ⟨base, baseRead, rfl⟩, payloadRead, rfl⟩, _, rfl⟩ := accepted
  refine ⟨⟨entries, rfl, baseRead⟩, ?_⟩
  unfold requiredByName at payloadRead
  cases given : Dict.get "command" entries with
  | some payload =>
      rw [given] at payloadRead
      rw [eventBody_of_command given]
      exact systemPayload_body payloadRead
  | none =>
      rw [given] at payloadRead
      obtain ⟨payload, byName, payloadRead⟩ := (required_eq_valid_iff _ _ _ _).mp payloadRead
      have body := systemPayload_body payloadRead
      rw [← body]
      simp [eventBody, Json.atPath, given, byName]

/-- An alternative that accepts has read the base fields and a body of its own type. -/
theorem BotAPISystemEvent.alternative_read {event : BotAPISystemEvent}
    {alternative : Scalars.Check BotAPISystemEvent}
    (listed : alternative ∈ BotAPISystemEvent.alternatives scalars)
    (checked : alternative raw = .valid event) :
    EventRead scalars raw event.domainClass.eventType event.base := by
  simp only [alternatives, List.mem_cons, List.not_mem_nil, or_false] at listed
  rcases listed with rfl | rfl | rfl | rfl | rfl | rfl | rfl | rfl | rfl | rfl | rfl | rfl |
    rfl | rfl | rfl
  all_goals
    obtain ⟨inner, innerChecked, rfl⟩ := (Validated.map_eq_valid_iff _ _ _).mp checked
  · exact smartApp_read innerChecked
  · exact apiEvent_read _ (fun _ _ => systemPayload_body) innerChecked
  · exact apiEvent_read _ (fun _ _ => systemPayload_body) innerChecked
  · exact apiEvent_read _ (fun _ _ => systemPayload_body) innerChecked
  · exact apiEvent_read _ (fun _ _ => systemPayload_body) innerChecked
  · exact deletedFromChat_read innerChecked
  · exact apiEvent_read _ (fun _ _ => systemPayload_body) innerChecked
  · exact apiEvent_read _ (fun _ _ => systemPayload_body) innerChecked
  · exact apiEvent_read _ (fun _ _ => systemPayload_body) innerChecked
  · exact apiEvent_read _ (fun _ _ => systemPayload_body) innerChecked
  · exact eventEdit_read innerChecked
  · exact joinToChat_read innerChecked
  · exact apiEvent_read _ (fun _ _ => systemPayload_body) innerChecked
  · exact apiEvent_read _ (fun _ _ => systemPayload_body) innerChecked
  · exact apiEvent_read _ (fun _ _ => systemPayload_body) innerChecked

theorem BotAPISystemEvent.check_read {event : BotAPISystemEvent}
    (checked : BotAPISystemEvent.check scalars raw = .valid event) :
    EventRead scalars raw event.domainClass.eventType event.base := by
  have taken := Validated.mem_of_oneOf checked
  obtain ⟨alternative, listed, accepted⟩ := List.mem_map.mp taken
  exact alternative_read listed accepted

end

end Pybotx
