/-
What a message holds of the attachments and entities of a command.

Each item of the raw lists is read alone: what it parses as and what that converts to.  The
message is then described by these readings, without the accumulators of the loop.
-/

import Pybotx.Models.Message.IncomingMessage

set_option autoImplicit false

/-- `isinstance(value, dict)`, with the fields. -/
def Json.asObject : Json → Option (List (String × Json))
  | .obj raw => some raw
  | _ => none

namespace Pybotx

open Validator

inductive BotAPIEntityTypes where
  | mention
  | forward
  | reply
  deriving DecidableEq, Repr

def BotAPIEntity.type : BotAPIEntity → BotAPIEntityTypes
  | mention _ => .mention
  | forward _ => .forward
  | reply _ => .reply

def Entity.type : Entity → BotAPIEntityTypes
  | mention _ => .mention
  | forward _ => .forward
  | reply _ => .reply

def IncomingAttachment.type : IncomingAttachment → String
  | file (.image _) => "image"
  | file (.video _ _) => "video"
  | file (.document _) => "document"
  | file (.voice _ _) => "voice"
  | location _ => "location"
  | contact _ => "contact"
  | link _ => "link"
  | sticker _ => "sticker"

/-- Of the five fields for an attachment the one of its kind is set, or none. -/
structure IncomingMessage.Holds (message : IncomingMessage)
    (kept : Option IncomingAttachment) : Prop where
  file : ∀ file, message.file = some file ↔ kept = some (.file file)
  location : ∀ location, message.location = some location ↔ kept = some (.location location)
  contact : ∀ contact, message.contact = some contact ↔ kept = some (.contact contact)
  link : ∀ link, message.link = some link ↔ kept = some (.link link)
  sticker : ∀ sticker, message.sticker = some sticker ↔ kept = some (.sticker sticker)

def convertedOf (type : BotAPIEntityTypes) (entities : List BotAPIEntity) : List Entity :=
  (entities.filter fun entity => entity.type = type).filterMap fun entity =>
    (convertBotApiEntityToDomain entity).toOption

section

variable (scalars : Scalars)

def parseEntity (item : Json) : Option BotAPIEntity :=
  match BotAPIEntity.check scalars item with
  | .valid entity => some entity
  | _ => none

/-- An item that is not an object or an object of unknown shape. -/
def IsJunk (item : Json) : Prop :=
  item.asObject = none ∨ BotAPIEntity.check scalars item = .invalid

/-- The first object among the items, if it is a known attachment, converted. -/
def firstConversion (items : List Json) (body : String) : Option IncomingAttachment :=
  match items.filterMap Json.asObject with
  | [] => none
  | raw :: _ =>
      match BotAPIAttachment.check scalars (.obj raw) with
      | .valid attachment => (convertApiAttachmentToDomain attachment body).toOption
      | _ => none

/-- What a message made of raw attachments and entities holds. -/
structure Classified (attachments entities : List Json) (message : IncomingMessage) : Prop where
  mentions : message.mentions.map .mention =
    convertedOf .mention (entities.filterMap (parseEntity scalars))
  forward : message.forward.map .forward =
    (convertedOf .forward (entities.filterMap (parseEntity scalars))).getLast?
  reply : message.reply.map .reply =
    (convertedOf .reply (entities.filterMap (parseEntity scalars))).getLast?
  attachment : message.Holds (firstConversion scalars attachments message.body)
  typed : ∀ kept, firstConversion scalars attachments message.body = some kept →
    ∃ raw, (attachments.filterMap Json.asObject).head? = some raw ∧
      Dict.get "type" raw = some (.str kept.type)
  /-- Nothing that parses is left out above because it does not convert. -/
  lossless : ∀ entity ∈ entities.filterMap (parseEntity scalars),
    ∃ domain, convertBotApiEntityToDomain entity = .ok domain ∧ domain.type = entity.type

def Converts (raw : Json) (rawCommand : List (String × Json)) (converted : IncomingMessage) :
    Prop :=
  ∃ message, BotAPIIncomingMessage.check scalars raw = .valid message ∧
    message.toDomain rawCommand = .ok converted

def withEntities (entries : List (String × Json)) (entities : List Json) : Json :=
  .obj (Dict.set "entities" (.arr entities) entries)

end

inductive ReadAs {α : Type} (check : Scalars.Check α) (raw : List (String × Json)) :
    Item α → Prop where
  | known {item : α} (valid : check (.obj raw) = .valid item) : ReadAs check raw (.known item)
  | unknown (invalid : check (.obj raw) = .invalid) : ReadAs check raw (.unknown raw)

theorem validateItem_valid_iff {α : Type} (check : Scalars.Check α) (raw : List (String × Json))
    (item : Item α) :
    validateItem check (.obj raw) = some (.valid item) ↔ ReadAs check raw item := by
  constructor
  · intro read
    rw [validateItem] at read
    split at read
    · rename_i value valid
      cases read
      exact .known valid
    · rename_i invalid
      cases read
      exact .unknown invalid
    · cases read
  · intro read
    rw [validateItem]
    cases read with
    | known valid => rw [valid]
    | unknown invalid => rw [invalid]

/-- The objects are read one by one, everything else is skipped. -/
theorem validateItems_valid_iff {α : Type} (check : Scalars.Check α) (items : List Json)
    (out : List (Item α)) :
    validateItems check (.arr items) = .valid out ↔
      List.Forall₂ (ReadAs check) (items.filterMap Json.asObject) out := by
  change Validated.all (items.filterMap (validateItem check)) = .valid out ↔ _
  induction items generalizing out with
  | nil => cases out <;> simp [Validated.all]
  | cons item items ih =>
      cases item with
      | obj raw =>
          have objects : (Json.obj raw :: items).filterMap Json.asObject =
              raw :: items.filterMap Json.asObject := rfl
          obtain ⟨part, read⟩ : ∃ part, validateItem check (.obj raw) = some part := ⟨_, rfl⟩
          rw [objects, List.filterMap_cons, read, Validated.all, List.forall₂_cons_left_iff]
          simp only [Validated.seq_eq_valid_iff, Validated.map_eq_valid_iff, ih,
            ← validateItem_valid_iff, read, Option.some.injEq]
          constructor
          · intro parsed
            obtain ⟨_, later, ⟨first, here, rfl⟩, rest, rfl⟩ := parsed
            exact ⟨first, later, here, rest, rfl⟩
          · intro parsed
            obtain ⟨first, later, here, rest, rfl⟩ := parsed
            exact ⟨_, later, ⟨first, here, rfl⟩, rest, rfl⟩
      | _ => exact ih out

def Item.item? {α : Type} : Item α → Option α
  | known item => some item
  | unknown _ => none

theorem known_of_readAs (scalars : Scalars) (items : List Json) (read : List (Item BotAPIEntity))
    (pairs : List.Forall₂ (ReadAs (BotAPIEntity.check scalars)) (items.filterMap Json.asObject)
      read) : read.filterMap Item.item? = items.filterMap (parseEntity scalars) := by
  induction items generalizing read with
  | nil =>
      cases pairs
      rfl
  | cons item items ih =>
      cases item with
      | obj raw =>
          obtain ⟨first, later, here, rest, rfl⟩ := List.forall₂_cons_left_iff.mp pairs
          rw [List.filterMap_cons, List.filterMap_cons, ih later rest]
          cases here with
          | known valid => simp only [Item.item?, parseEntity, valid]
          | unknown invalid => simp only [Item.item?, parseEntity, invalid]
      | _ => exact ih read pairs

private theorem exists_forall₂_iff {α β : Type} (related : α → β → Prop) (xs : List α) :
    (∃ ys, List.Forall₂ related xs ys) ↔ ∀ x ∈ xs, ∃ y, related x y := by
  induction xs with
  | nil => simp
  | cons x xs ih =>
      rw [List.forall_mem_cons, ← ih]
      constructor
      · intro pairs
        obtain ⟨_, pairs⟩ := pairs
        obtain ⟨y, ys, here, rest, _⟩ := List.forall₂_cons_left_iff.mp pairs
        exact ⟨⟨y, here⟩, ys, rest⟩
      · intro pairs
        obtain ⟨⟨y, here⟩, ys, rest⟩ := pairs
        exact ⟨y :: ys, .cons here rest⟩

namespace IsJunk

variable {scalars : Scalars} {junk : Json}

theorem parseEntity (isJunk : IsJunk scalars junk) : parseEntity scalars junk = none := by
  rcases isJunk with notObject | invalid
  · cases junk with
    | obj raw => cases notObject
    | _ => rfl
  · rw [Pybotx.parseEntity, invalid]

theorem filterMap_parseEntity (isJunk : IsJunk scalars junk) (before after : List Json) :
    (before ++ junk :: after).filterMap (Pybotx.parseEntity scalars) =
      (before ++ after).filterMap (Pybotx.parseEntity scalars) := by
  rw [List.filterMap_append, List.filterMap_append, List.filterMap_cons, isJunk.parseEntity]

/-- Junk does not decide whether the entities validate. -/
theorem validates_iff (isJunk : IsJunk scalars junk) (before after : List Json) :
    (∃ read, validateItems (BotAPIEntity.check scalars) (.arr (before ++ junk :: after)) =
        .valid read) ↔
      ∃ read, validateItems (BotAPIEntity.check scalars) (.arr (before ++ after)) =
        .valid read := by
  simp only [validateItems_valid_iff, exists_forall₂_iff, List.filterMap_append,
    List.forall_mem_append, List.filterMap_cons]
  cases object : junk.asObject with
  | none => rfl
  | some raw =>
      have same : junk = .obj raw := by
        cases junk with
        | obj fields => exact congrArg Json.obj (Option.some.inj object)
        | _ => cases object
      have invalid : BotAPIEntity.check scalars (.obj raw) = .invalid := by
        rcases isJunk with notObject | invalid
        · rw [object] at notObject
          cases notObject
        · exact same ▸ invalid
      have reads : ∃ item, ReadAs (BotAPIEntity.check scalars) raw item := ⟨_, .unknown invalid⟩
      simp only [List.forall_mem_cons, reads, true_and]

end IsJunk

/-! ### The loop over the entities -/

theorem type_of_converted (entity : BotAPIEntity) (domain : Entity)
    (converts : convertBotApiEntityToDomain entity = .ok domain) : domain.type = entity.type := by
  cases entity with
  | mention data =>
      obtain ⟨mention, _, same⟩ := (Result.bind_eq_ok _ _ _).mp converts
      cases same
      rfl
  | forward data =>
      cases converts
      rfl
  | reply data =>
      obtain ⟨mentions, _, same⟩ := (Result.bind_eq_ok _ _ _).mp converts
      cases same
      rfl

theorem convertedOf_cons {entity : BotAPIEntity} {domain : Entity}
    (converts : convertBotApiEntityToDomain entity = .ok domain) (type : BotAPIEntityTypes)
    (entities : List BotAPIEntity) :
    convertedOf type (entity :: entities) =
      if domain.type = type then domain :: convertedOf type entities
      else convertedOf type entities := by
  rw [type_of_converted entity domain converts]
  unfold convertedOf
  by_cases same : entity.type = type
  · rw [if_pos same, List.filter_cons_of_pos (by simpa using same), List.filterMap_cons, converts]
    rfl
  · rw [if_neg same, List.filter_cons_of_neg (by simpa using same)]

namespace FoundEntities

def add (found : FoundEntities) : Entity → FoundEntities
  | .mention mention => { found with mentions := found.mentions ++ [mention] }
  | .forward forward => { found with forward := some forward }
  | .reply reply => { found with reply := some reply }

structure Extended (found : FoundEntities) (entities : List BotAPIEntity)
    (last : FoundEntities) : Prop where
  mentions : last.mentions.map Entity.mention =
    found.mentions.map .mention ++ convertedOf .mention entities
  forward : last.forward.map Entity.forward =
    (convertedOf .forward entities).getLast?.or (found.forward.map .forward)
  reply : last.reply.map Entity.reply =
    (convertedOf .reply entities).getLast?.or (found.reply.map .reply)
  lossless : ∀ entity ∈ entities,
    ∃ domain, convertBotApiEntityToDomain entity = .ok domain ∧ domain.type = entity.type

end FoundEntities

theorem addEntity_known (found last : FoundEntities) (entity : BotAPIEntity) :
    addEntity found (.known entity) = .ok last ↔
      ∃ domain, convertBotApiEntityToDomain entity = .ok domain ∧ found.add domain = last := by
  unfold addEntity
  rw [Result.bind_eq_ok]
  apply exists_congr
  intro domain
  cases domain <;> simp [FoundEntities.add, pure, Except.pure]

theorem FoundEntities.Extended.cons {found last : FoundEntities} {entity : BotAPIEntity}
    {domain : Entity} {entities : List BotAPIEntity}
    (converts : convertBotApiEntityToDomain entity = .ok domain)
    (rest : (found.add domain).Extended entities last) :
    found.Extended (entity :: entities) last := by
  have lossless : ∀ other ∈ entity :: entities,
      ∃ domain, convertBotApiEntityToDomain other = .ok domain ∧ domain.type = other.type := by
    rw [List.forall_mem_cons]
    exact ⟨⟨domain, converts, type_of_converted entity domain converts⟩, rest.lossless⟩
  have mentions := rest.mentions
  have forward := rest.forward
  have reply := rest.reply
  refine ⟨?_, ?_, ?_, lossless⟩
  · rw [mentions, convertedOf_cons converts]
    cases domain <;> simp [add, Entity.type]
  · rw [forward, convertedOf_cons converts]
    cases domain <;> simp [add, Entity.type, List.getLast?_cons]
  · rw [reply, convertedOf_cons converts]
    cases domain <;> simp [add, Entity.type, List.getLast?_cons]

theorem foldlM_addEntity_extended (items : List (Item BotAPIEntity)) (found last : FoundEntities)
    (run : items.foldlM addEntity found = .ok last) :
    found.Extended (items.filterMap Item.item?) last := by
  induction items generalizing found with
  | nil =>
      cases run
      exact ⟨by simp [convertedOf], by simp [convertedOf], by simp [convertedOf], by simp⟩
  | cons item items ih =>
      rw [List.foldlM_cons, Result.bind_eq_ok] at run
      obtain ⟨next, step, run⟩ := run
      cases item with
      | unknown raw =>
          cases step
          exact ih found run
      | known entity =>
          obtain ⟨domain, converts, added⟩ := (addEntity_known found next entity).mp step
          rw [← added] at run
          exact .cons converts (ih _ run)

/-- The loop does not see unknown items. -/
theorem foldlM_addEntity_known (items : List (Item BotAPIEntity)) (found : FoundEntities) :
    items.foldlM addEntity found =
      ((items.filterMap Item.item?).map Item.known).foldlM addEntity found := by
  induction items generalizing found with
  | nil => rfl
  | cons item items ih =>
      cases item with
      | unknown raw => exact ih found
      | known entity =>
          change (addEntity found (.known entity) >>= fun next => items.foldlM addEntity next) = _
          simp only [ih]
          rfl

theorem BotAPIIncomingMessage.toDomain_congr (message : BotAPIIncomingMessage)
    (entities : List (Item BotAPIEntity)) (rawCommand other : List (String × Json))
    (converted : IncomingMessage)
    (known : entities.filterMap Item.item? = message.entities.filterMap Item.item?)
    (returned : message.toDomain rawCommand = .ok converted) :
    { message with entities := entities }.toDomain other =
      .ok { converted with rawCommand := other } := by
  unfold toDomain at returned ⊢
  obtain ⟨attachment, kept, returned⟩ := (Result.bind_eq_ok _ _ _).mp returned
  obtain ⟨found, run, returned⟩ := (Result.bind_eq_ok _ _ _).mp returned
  rw [foldlM_addEntity_known] at run
  rw [foldlM_addEntity_known, known, kept]
  cases returned
  simp only [run]
  rfl

theorem BotAPIIncomingMessage.check_eq_valid_iff (scalars : Scalars)
    (entries : List (String × Json)) (message : BotAPIIncomingMessage) :
    check scalars (.obj entries) = .valid message ↔
      (BotAPIBaseCommand.fields scalars entries = .valid message.toBotAPIBaseCommand ∧
        required "command" BotAPICommandPayload.check entries = .valid message.payload ∧
        required "from" (BotAPIFullContext.check scalars) entries = .valid message.sender ∧
        required "source_sync_id" (optional scalars.checkUuid) entries =
          (.valid message.sourceSyncId : Validated PyError _) ∧
        required "attachments" (validateItems (BotAPIAttachment.check scalars)) entries =
          .valid message.attachments) ∧
      required "entities" (validateItems (BotAPIEntity.check scalars)) entries =
        .valid message.entities := by
  rw [check, model]
  simp only [Validated.seq_eq_valid_iff, Validated.map_eq_valid_iff]
  constructor
  · intro built
    obtain ⟨_, entities, ⟨_, attachments, ⟨_, source, ⟨_, sender, ⟨_, payload, ⟨base, first, rfl⟩,
      second, rfl⟩, third, rfl⟩, fourth, rfl⟩, fifth, rfl⟩, sixth, rfl⟩ := built
    exact ⟨⟨first, second, third, fourth, fifth⟩, sixth⟩
  · intro fields
    obtain ⟨⟨first, second, third, fourth, fifth⟩, sixth⟩ := fields
    exact ⟨_, _, ⟨_, _, ⟨_, _, ⟨_, _, ⟨_, _, ⟨_, first, rfl⟩, second, rfl⟩, third, rfl⟩, fourth,
      rfl⟩, fifth, rfl⟩, sixth, rfl⟩

theorem required_set_of_ne {ε α : Type} (key other : String) (inner : Validator ε α) (value : Json)
    (entries : List (String × Json)) (different : other ≠ key) :
    required other inner (Dict.set key value entries) = required other inner entries := by
  unfold required
  rw [Dict.get_set_of_ne key other value different]

theorem required_set_self {ε α : Type} (key : String) (inner : Validator ε α) (value : Json)
    (entries : List (String × Json)) :
    required key inner (Dict.set key value entries) = inner value := by
  unfold required
  rw [Dict.get_set_self]
  rfl

theorem BotAPIIncomingMessage.check_withEntities {scalars : Scalars}
    {entries : List (String × Json)} {message : BotAPIIncomingMessage}
    (checked : check scalars (.obj entries) = .valid message) (items : List Json)
    (read : List (Item BotAPIEntity))
    (validated : validateItems (BotAPIEntity.check scalars) (.arr items) = .valid read) :
    check scalars (withEntities entries items) = .valid { message with entities := read } := by
  obtain ⟨others, _⟩ := (check_eq_valid_iff scalars entries message).mp checked
  apply (check_eq_valid_iff scalars _ _).mpr
  refine ⟨?_, ?_⟩
  · simp (disch := decide) only [BotAPIBaseCommand.fields, required_set_of_ne]
    exact others
  · rw [required_set_self]
    exact validated

/-- Entities that differ by junk give the same message. -/
theorem Converts.withEntities {scalars : Scalars} {entries rawCommand : List (String × Json)}
    {converted : IncomingMessage} (converts : Converts scalars (.obj entries) rawCommand converted)
    (items given : List Json) (listed : Dict.get "entities" entries = some (.arr given))
    (parsed : items.filterMap (parseEntity scalars) = given.filterMap (parseEntity scalars))
    (validates : (∃ read, validateItems (BotAPIEntity.check scalars) (.arr given) = .valid read) →
      ∃ read, validateItems (BotAPIEntity.check scalars) (.arr items) = .valid read)
    (other : List (String × Json)) :
    Converts scalars (withEntities entries items) other { converted with rawCommand := other } := by
  obtain ⟨message, checked, returned⟩ := converts
  obtain ⟨_, entities⟩ := (BotAPIIncomingMessage.check_eq_valid_iff _ _ _).mp checked
  rw [required, listed] at entities
  obtain ⟨read, validated⟩ := validates ⟨_, entities⟩
  have given := known_of_readAs scalars _ _ ((validateItems_valid_iff _ _ _).mp entities)
  have known := known_of_readAs scalars _ _ ((validateItems_valid_iff _ _ _).mp validated)
  refine ⟨_, BotAPIIncomingMessage.check_withEntities checked items read validated, ?_⟩
  exact message.toDomain_congr read rawCommand other converted (by rw [known, given, parsed]) returned

def BotAPIAttachment.type : BotAPIAttachment → String
  | video _ => "video"
  | image _ => "image"
  | document _ => "document"
  | voice _ => "voice"
  | location _ => "location"
  | contact _ => "contact"
  | link _ => "link"
  | sticker _ => "sticker"

private theorem type_of_typed {kind : String} {raw : List (String × Json)}
    {fields : List (String × Json) → Validated PyError BotAPIAttachment}
    {attachment : BotAPIAttachment}
    (kinds : ∀ data built, fields data = .valid built → built.type = kind)
    (checked : BotAPIAttachment.typed kind fields (.obj raw) = .valid attachment) :
    Dict.get "type" raw = some (.str attachment.type) := by
  obtain ⟨entries, same, accepted⟩ := (model_eq_valid_iff _ _ _).mp checked
  cases same
  simp only [Validated.seq_eq_valid_iff, Validated.map_eq_valid_iff,
    required_eq_valid_iff] at accepted
  obtain ⟨_, built, ⟨_, ⟨rawType, given, literal⟩, rfl⟩, ⟨rawData, _, read⟩, rfl⟩ := accepted
  obtain ⟨data, _, read⟩ := (model_eq_valid_iff _ _ _).mp read
  rw [given, (literal_eq_valid_iff kind rawType).mp literal, kinds data built read]

theorem BotAPIAttachment.type_of_check (scalars : Scalars) (raw : List (String × Json))
    (attachment : BotAPIAttachment) (checked : check scalars (.obj raw) = .valid attachment) :
    Dict.get "type" raw = some (.str attachment.type) := by
  obtain ⟨alternative, member, taken⟩ := exists_of_union checked
  simp only [List.mem_cons, List.not_mem_nil, or_false] at member
  rcases member with rfl | rfl | rfl | rfl | rfl | rfl | rfl | rfl
  all_goals
    -- Whatever the fields are, the constructor is that of the alternative.
    apply type_of_typed ?_ taken
    intro data
    repeat apply Validated.forall_of_seq
    apply Validated.forall_of_map
    intros
    rfl

theorem type_of_convertedAttachment (attachment : BotAPIAttachment) (body : String)
    (kept : IncomingAttachment)
    (converts : convertApiAttachmentToDomain attachment body = .ok kept) :
    kept.type = attachment.type := by
  cases attachment with
  | image data | video data | document data =>
      obtain ⟨content, _, same⟩ := (Result.bind_eq_ok _ _ _).mp converts
      cases same
      rfl
  | voice data =>
      obtain ⟨content, _, named⟩ := (Result.bind_eq_ok _ _ _).mp converts
      obtain ⟨attachmentExtension, _, same⟩ := (Result.bind_eq_ok _ _ _).mp named
      cases same
      rfl
  | location data | contact data | link data | sticker data =>
      cases converts
      rfl

/-- The attachment a message keeps is the first object, if it is known. -/
theorem firstAttachment_eq_firstConversion (scalars : Scalars) (items : List Json)
    (read : List (Item BotAPIAttachment)) (body : String) (kept : Option IncomingAttachment)
    (validated : validateItems (BotAPIAttachment.check scalars) (.arr items) = .valid read)
    (returned : firstAttachment read body = .ok kept) :
    firstConversion scalars items body = kept := by
  have pairs := (validateItems_valid_iff _ _ _).mp validated
  unfold firstConversion
  generalize items.filterMap Json.asObject = objects at pairs
  cases pairs with
  | nil =>
      cases returned
      rfl
  | cons here rest =>
      cases here with
      | unknown invalid =>
          cases returned
          simp only [invalid]
      | known valid =>
          obtain ⟨converted, converts, same⟩ := (Result.bind_eq_ok _ _ _).mp returned
          cases same
          simp only [valid, converts, Except.toOption]

theorem firstConversion_type (scalars : Scalars) (items : List Json) (body : String)
    (kept : IncomingAttachment) (first : firstConversion scalars items body = some kept) :
    ∃ raw, (items.filterMap Json.asObject).head? = some raw ∧
      Dict.get "type" raw = some (.str kept.type) := by
  unfold firstConversion at first
  split at first
  · cases first
  · rename_i raw rest objects
    rw [objects]
    refine ⟨raw, rfl, ?_⟩
    split at first
    · rename_i attachment valid
      cases converts : convertApiAttachmentToDomain attachment body with
      | error exc =>
          rw [converts] at first
          cases first
      | ok converted =>
          rw [converts] at first
          cases first
          rw [type_of_convertedAttachment attachment body kept converts]
          exact BotAPIAttachment.type_of_check scalars raw attachment valid
    · cases first

/-! ### What a message holds -/

theorem BotAPIIncomingMessage.toDomain_holds (message : BotAPIIncomingMessage)
    (rawCommand : List (String × Json)) (converted : IncomingMessage)
    (kept : Option IncomingAttachment)
    (first : firstAttachment message.attachments message.payload.body = .ok kept)
    (returned : message.toDomain rawCommand = .ok converted) : converted.Holds kept := by
  unfold toDomain at returned
  obtain ⟨attachment, same, returned⟩ := (Result.bind_eq_ok _ _ _).mp returned
  obtain ⟨found, _, returned⟩ := (Result.bind_eq_ok _ _ _).mp returned
  rw [first] at same
  cases same
  cases returned
  rcases kept with _ | (_ | _ | _ | _ | _) <;> constructor <;> simp

theorem BotAPIIncomingMessage.toDomain_classified (scalars : Scalars)
    (message : BotAPIIncomingMessage) (rawCommand : List (String × Json))
    (converted : IncomingMessage) (attachments entities : List Json)
    (attachmentsRead : validateItems (BotAPIAttachment.check scalars) (.arr attachments) =
      .valid message.attachments)
    (entitiesRead : validateItems (BotAPIEntity.check scalars) (.arr entities) =
      .valid message.entities)
    (returned : message.toDomain rawCommand = .ok converted) :
    Classified scalars attachments entities converted := by
  have whole := returned
  unfold toDomain at returned
  obtain ⟨kept, first, returned⟩ := (Result.bind_eq_ok _ _ _).mp returned
  obtain ⟨found, run, returned⟩ := (Result.bind_eq_ok _ _ _).mp returned
  have attachment := firstAttachment_eq_firstConversion scalars attachments _ _ kept
    attachmentsRead first
  have entitiesFound := foldlM_addEntity_extended _ _ _ run
  rw [known_of_readAs scalars _ _ ((validateItems_valid_iff _ _ _).mp entitiesRead)]
    at entitiesFound
  have body := (message.toDomain_base rawCommand converted whole).2.1
  have holds := message.toDomain_holds rawCommand converted kept first whole
  cases returned
  refine ⟨?_, ?_, ?_, ?_, ?_, entitiesFound.lossless⟩
  · simpa using entitiesFound.mentions
  · simpa using entitiesFound.forward
  · simpa using entitiesFound.reply
  · rw [body, attachment]
    exact holds
  · exact firstConversion_type scalars attachments _

/-- A message holds what the items of the lists are, each by itself; items that are not
entities play no part wherever they stand. -/
theorem incomingMessage_classified (scalars : Scalars) (entries rawCommand : List (String × Json))
    (attachments entities : List Json) (converted : IncomingMessage)
    (attachmentsGiven : Dict.get "attachments" entries = some (.arr attachments))
    (entitiesGiven : Dict.get "entities" entries = some (.arr entities))
    (converts : Converts scalars (.obj entries) rawCommand converted) :
    Classified scalars attachments entities converted ∧
      ∀ junk before after other, IsJunk scalars junk →
        (entities = before ++ after →
          Converts scalars (withEntities entries (before ++ junk :: after)) other
            { converted with rawCommand := other }) ∧
        (entities = before ++ junk :: after →
          Converts scalars (withEntities entries (before ++ after)) other
            { converted with rawCommand := other }) := by
  constructor
  · obtain ⟨message, checked, returned⟩ := converts
    obtain ⟨⟨_, _, _, _, attachmentsRead⟩, entitiesRead⟩ :=
      (BotAPIIncomingMessage.check_eq_valid_iff _ _ _).mp checked
    rw [required, attachmentsGiven] at attachmentsRead
    rw [required, entitiesGiven] at entitiesRead
    exact message.toDomain_classified scalars rawCommand converted attachments entities
      attachmentsRead entitiesRead returned
  · intro junk before after other isJunk
    constructor
    · intro split
      rw [split] at entitiesGiven
      exact converts.withEntities _ _ entitiesGiven (isJunk.filterMap_parseEntity before after)
        (isJunk.validates_iff before after).mpr other
    · intro split
      rw [split] at entitiesGiven
      exact converts.withEntities _ _ entitiesGiven
        (isJunk.filterMap_parseEntity before after).symm
        (isJunk.validates_iff before after).mp other

def demoEntities : List Json :=
  [.str "not a dict",
    .obj [("type", .str "mention"),
      ("data", .obj [("mention_type", .str "user"),
        ("mention_id", .str "054af49e-5e18-4dca-ad73-4f96b6de63fa"),
        ("mention_data", .obj [("user_huid", .str "ab103983-6001-44e9-889e-d55feb295494"),
          ("name", .str "Ivan"), ("conn_type", .str "cts")])])],
    .obj [("type", .str "forward"),
      ("data", .obj [("group_chat_id", .str "8dada2c8-67a6-4434-9dec-570d244e78ee"),
        ("sender_huid", .str "ab103983-6001-44e9-889e-d55feb295494"),
        ("source_sync_id", .str "6f40a492-4b5f-54f3-87ee-77126d825b51"),
        ("source_chat_name", .str "Some chat"), ("forward_type", .str "group_chat"),
        ("source_inserted_at", .str "1970-01-01T00:00:01Z")])],
    .obj [("type", .str "poll")],
    .obj [("type", .str "mention"),
      ("data", .obj [("mention_type", .str "all"),
        ("mention_id", .str "154af49e-5e18-4dca-ad73-4f96b6de63fa"), ("mention_data", .null)])],
    .obj [("type", .str "reply"),
      ("data", .obj [("source_sync_id", .str "6f40a492-4b5f-54f3-87ee-77126d825b51"),
        ("sender", .str "ab103983-6001-44e9-889e-d55feb295494"), ("body", .str "first"),
        ("mentions", .arr [])])]]

def demoUserHuid : UUID := ⟨⟨0xab103983600144e9889ed55feb295494, by decide⟩⟩

def demoChat : UUID := ⟨⟨0x8dada2c867a644349dec570d244e78ee, by decide⟩⟩

def demoSync : UUID := ⟨⟨0x6f40a4924b5f54f387ee77126d825b51, by decide⟩⟩

def demoDates : Scalars :=
  { Scalars.strict with
    datetime := fun value => match value with
      | .str "1970-01-01T00:00:01Z" => some ⟨1000000, some 0⟩
      | _ => none }

/-- A message with a contact, two mentions, a forward, a reply and two items that are not
entities. -/
def demoClassified : List (String × Json) :=
  [("bot_id", .str "24348246-6791-4ac0-9d86-b948cd6a0e46"),
    ("sync_id", .str "6f40a492-4b5f-54f3-87ee-77126d825b51"), ("proto_version", .int 4),
    ("source_sync_id", .null),
    ("command", .obj [("body", .str "/call"), ("command_type", .str "user"), ("data", .obj []),
      ("metadata", .obj [])]),
    ("from", .obj [("host", .str "cts.example.com"),
      ("user_huid", .str "ab103983-6001-44e9-889e-d55feb295494"),
      ("group_chat_id", .str "8dada2c8-67a6-4434-9dec-570d244e78ee"),
      ("chat_type", .str "chat")]),
    ("attachments", .arr [.obj [("type", .str "contact"),
      ("data", .obj [("contact_name", .str "Ivan")])]]),
    ("entities", .arr demoEntities)]

theorem incomingMessage_classified_demo :
    ∃ converted, converted.mentions = [.user demoUserHuid (some "Ivan"), .all] ∧
      converted.forward =
        some ⟨demoChat, demoUserHuid, demoSync, "Some chat", .groupChat, ⟨1000000, some 0⟩⟩ ∧
      converted.reply = some ⟨demoUserHuid, demoSync, "first", []⟩ ∧
      Classified demoDates [.obj [("type", .str "contact"),
        ("data", .obj [("contact_name", .str "Ivan")])]] demoEntities converted := by
  refine ⟨_, ?_, ?_, ?_, (incomingMessage_classified demoDates demoClassified [] _
    demoEntities _ rfl rfl ⟨_, rfl, rfl⟩).1⟩
  · rfl
  · rfl
  · rfl

end Pybotx
