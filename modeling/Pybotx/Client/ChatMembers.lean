/-
The members of a chat and the list of chats, as the client returns them.

A validator makes models of the items it can, the union of the field is checked after it,
and `to_domain` takes the models.  Together the three passes select from the items of the
response.
-/

import Pybotx.Client.ChatsApi

set_option autoImplicit false

namespace Pybotx

open Validator

structure ChatListItem where
  chatId : UUID
  chatType : ChatTypes
  name : String
  description : Option String
  members : List UUID
  createdAt : DateTime
  updatedAt : DateTime
  sharedHistory : Bool

structure ChatInfoMember where
  isAdmin : Bool
  huid : UUID
  kind : UserKinds

structure ChatInfo where
  chatType : ChatTypes
  creatorId : Option UUID
  description : Option String
  chatId : UUID
  createdAt : DateTime
  members : List ChatInfoMember
  name : String
  sharedHistory : Bool

def ModelOrDict.instance? {Model : Type} : ModelOrDict Model → Option Model
  | .parsed model => some model
  | .unsupported _ => none

def PersonalChatItem.instance? : PersonalChatItem → Option BotXAPIPersonalChatMember
  | .member item => item.instance?
  | .id _ => none

def BotXAPIChatInfoMember.toDomain (member : BotXAPIChatInfoMember) : ChatInfoMember where
  isAdmin := member.admin
  huid := member.userHuid
  kind := convertUserKindToDomain member.userKind

def BotXAPIChatInfoResponsePayload.toDomain (payload : BotXAPIChatInfoResponsePayload) :
    ChatInfo where
  chatType := payload.result.chatType.toDomain
  creatorId := payload.result.creator
  description := payload.result.description
  chatId := payload.result.groupChatId
  createdAt := payload.result.insertedAt
  members := (payload.result.members.filterMap ModelOrDict.instance?).map
    BotXAPIChatInfoMember.toDomain
  name := payload.result.name
  sharedHistory := payload.result.sharedHistory

/-- The conversion of a kind never fails, so that the `try` around it catches nothing. -/
def BotXAPIPersonalChatResponsePayload.toDomain (payload : BotXAPIPersonalChatResponsePayload) :
    ChatInfo where
  chatType := payload.result.chatType.toDomain
  creatorId := payload.result.creator
  description := payload.result.description
  chatId := payload.result.groupChatId
  createdAt := payload.result.insertedAt
  members := (payload.result.members.filterMap PersonalChatItem.instance?).map
    BotXAPIChatInfoMember.toDomain
  name := payload.result.name
  sharedHistory := payload.result.sharedHistory

def BotXAPIListChatResult.toDomain (chatItem : BotXAPIListChatResult) : ChatListItem where
  chatId := chatItem.groupChatId
  chatType := chatItem.chatType.toDomain
  name := chatItem.name
  description := chatItem.description
  members := chatItem.members
  createdAt := chatItem.insertedAt
  updatedAt := chatItem.updatedAt
  sharedHistory := chatItem.sharedHistory

def BotXAPIListChatResponsePayload.toDomain (payload : BotXAPIListChatResponsePayload) :
    List ChatListItem :=
  (payload.result.filterMap ModelOrDict.instance?).map BotXAPIListChatResult.toDomain

/-- What the alternatives of `Model | dict[str, Any]` make of an item: an instance of the
model stays as it is, a dictionary is tried as either. -/
def unionResults {Model : Type} (check : Validator Empty Model) :
    ModelOrDict Model → List (ModelOrDict Model)
  | .parsed model => [.parsed model]
  | .unsupported entries =>
      ((check (.obj entries)).value?.map .parsed).toList ++ [.unsupported entries]

section

variable {Model : Type} (fields : List (String × Json) → Validated Empty Model)
  (entries : List (String × Json))

theorem unionResults_parseDict :
    unionResults (model fields) (parseDict (model fields) entries) =
      [parseDict (model fields) entries] := by
  unfold parseDict
  cases checked : model fields (.obj entries) with
  | valid value => rfl
  | invalid =>
      change ((model fields (.obj entries)).value?.map _).toList ++ _ = _
      rw [checked]
      rfl
  | raised impossible => cases impossible

theorem instance?_parseDict :
    (parseDict (model fields) entries).instance? = (model fields (.obj entries)).value? := by
  unfold parseDict
  cases model fields (.obj entries) <;> rfl

end

section

variable (python : Interpreter)

def checkMember : Validator Empty BotXAPIChatInfoMember :=
  BotXAPIChatInfoMember.check python

def memberOf (item : Json) : Option ChatInfoMember :=
  (checkMember python item).value?.map BotXAPIChatInfoMember.toDomain

def chatOf (entries : List (String × Json)) : Option ChatListItem :=
  (BotXAPIListChatResult.check python (.obj entries) :
    Validated Empty BotXAPIListChatResult).value?.map BotXAPIListChatResult.toDomain

theorem checkUserKind_eq_valid_iff (raw : Json) (kind : APIUserKinds) :
    (member APIUserKinds.members APIUserKinds.value raw : Validated Empty _) = .valid kind ↔
      raw = .str kind.value := by
  constructor
  · intro checked
    exact eq_name_of_member checked
  · intro same
    subst same
    cases kind <;> rfl

/-- `admin`, `user_huid` and a known `user_kind` are what a member needs. -/
theorem memberOf_eq_some_iff (item : Json) (chatMember : ChatInfoMember) :
    memberOf python item = some chatMember ↔
      ∃ entries admin huid kind, item = .obj entries ∧
        Dict.get "admin" entries = some admin ∧ python.bool admin = some chatMember.isAdmin ∧
        Dict.get "user_huid" entries = some huid ∧ python.uuid huid = some chatMember.huid ∧
        Dict.get "user_kind" entries = some (.str (APIUserKinds.value kind)) ∧
          convertUserKindToDomain kind = chatMember.kind := by
  simp only [memberOf, Option.map_eq_some_iff, Validated.value?_eq_some_iff, checkMember,
    BotXAPIChatInfoMember.check, model_eq_valid_iff, Validated.seq_eq_valid_iff,
    Validated.map_eq_valid_iff, required_eq_valid_iff, checkUserKind_eq_valid_iff,
    Scalars.checkBool, Scalars.checkUuid, ofOption_eq_valid_iff]
  constructor
  · intro converted
    obtain ⟨_, ⟨entries, rfl, _, kind, ⟨_, huid, ⟨isAdmin, ⟨admin, adminGiven, adminRead⟩, rfl⟩,
      ⟨rawHuid, huidGiven, huidRead⟩, rfl⟩, ⟨_, kindGiven, rfl⟩, rfl⟩, rfl⟩ := converted
    exact ⟨entries, admin, rawHuid, kind, rfl, adminGiven, adminRead, huidGiven, huidRead,
      kindGiven, rfl⟩
  · intro given
    obtain ⟨entries, admin, rawHuid, kind, rfl, adminGiven, adminRead, huidGiven, huidRead,
      kindGiven, converted⟩ := given
    refine ⟨⟨chatMember.isAdmin, chatMember.huid, kind⟩, ⟨entries, rfl, _, kind,
      ⟨_, _, ⟨_, ⟨admin, adminGiven, adminRead⟩, rfl⟩, ⟨rawHuid, huidGiven, huidRead⟩, rfl⟩,
      ⟨_, kindGiven, rfl⟩, rfl⟩, ?_⟩
    rw [BotXAPIChatInfoMember.toDomain, converted]

def chatInfoItem : Json → Option (ModelOrDict BotXAPIChatInfoMember)
  | .obj entries => some (parseDict (checkMember python) entries)
  | _ => none

def personalChatItem : Json → Option PersonalChatItem
  | .obj entries => some (.member (parseDict (checkMember python) entries))
  | .str text => (UUID.parse text).map .id
  | _ => none

theorem validateMembers_arr (items : List Json) :
    validateMembers python (.arr items) = .valid (items.filterMap (chatInfoItem python)) := by
  refine congrArg Validated.valid (List.filterMap_congr ?_)
  intro item _
  cases item <;> rfl

theorem parseMembers_arr (items : List Json) :
    parseMembers python (.arr items) = .valid (items.filterMap (personalChatItem python)) := by
  refine congrArg Validated.valid (List.filterMap_congr ?_)
  intro item _
  cases item <;> rfl

theorem chatInfoItem_instance (item : Json) :
    (chatInfoItem python item).bind ModelOrDict.instance? = (checkMember python item).value? := by
  cases item with
  | obj entries => exact instance?_parseDict _ entries
  | _ => rfl

theorem personalChatItem_instance (item : Json) :
    (personalChatItem python item).bind PersonalChatItem.instance? =
      (checkMember python item).value? := by
  cases item with
  | obj entries => exact instance?_parseDict _ entries
  | str text =>
      change ((UUID.parse text).map PersonalChatItem.id).bind PersonalChatItem.instance? = none
      cases UUID.parse text <;> rfl
  | _ => rfl

theorem validateResult_objects (chats : List (List (String × Json))) :
    validateResult python (.arr (chats.map .obj)) =
      .valid (chats.map (parseDict (BotXAPIListChatResult.check python))) := by
  unfold validateResult iterated
  change Validated.lift (Validated.all _) = _
  rw [Validated.lift_eq_valid_iff, all_map_eq_valid_iff]
  induction chats with
  | nil => exact List.Forall₂.nil
  | cons entries chats ih => exact List.Forall₂.cons rfl ih

theorem okPayload_of_result {Result : Type} {check : Scalars.Check Result} {raw value : Json}
    {result : Result} (status : raw.atPath ["status"] = some (.str "ok"))
    (given : raw.atPath ["result"] = some value) (checked : check value = .valid result) :
    okPayload check raw = .valid ⟨result⟩ := by
  cases raw with
  | obj outer =>
      have ok : Dict.get "status" outer = some (.str "ok") := by
        simpa [Json.atPath] using status
      have found : Dict.get "result" outer = some value := by
        simpa [Json.atPath] using given
      exact (okPayload_eq_valid_iff _ _ _).mpr ⟨outer, value, rfl, ok, found, checked⟩
  | _ => cases given

/-- A response of status "ok" whose result has these members, and is valid but for them. -/
structure GivesMembers {Fields : Type} (fields : List (String × Json) → Validated Empty Fields)
    (items : List Json) (raw : Json) : Prop where
  status : raw.atPath ["status"] = some (.str "ok")
  result : ∃ entries value, raw.atPath ["result"] = some (.obj entries) ∧
    fields entries = .valid value ∧ Dict.get "members" entries = some (.arr items)

def ChatInfoGives (items : List Json) (raw : Json) : Prop :=
  GivesMembers (BotXAPIChatInfoFields.fields python) items raw

/-- This payload has no other keys. -/
def PersonalChatGives (items : List Json) (raw : Json) : Prop :=
  GivesMembers (BotXAPIPersonalChatFields.fields python) items raw ∧
    (model (noExtra ["status", "result"]) raw : Validated Empty Unit) = .valid ()

structure ListChatsGives (chats : List (List (String × Json))) (raw : Json) : Prop where
  status : raw.atPath ["status"] = some (.str "ok")
  result : raw.atPath ["result"] = some (.arr (chats.map .obj))

theorem GivesMembers.check {Fields Item Result : Type} (build : Fields → List Item → Result)
    {fields : List (String × Json) → Validated Empty Fields}
    {parse : Scalars.Check (List Item)} {items : List Json} {parsed : List Item} {raw : Json}
    (gives : GivesMembers fields items raw) (parses : parse (.arr items) = .valid parsed) :
    ∃ value, okPayload (model fun entries => build <$> (fields entries).lift <*>
      defaulted "members" [] parse entries) raw = .valid ⟨build value parsed⟩ := by
  obtain ⟨entries, value, result, accepted, members⟩ := gives.result
  refine ⟨value, okPayload_of_result gives.status result ?_⟩
  refine (Validated.seq_eq_valid_iff _ _ _).mpr ⟨build value, parsed, ?_, ?_, rfl⟩
  · refine (Validated.map_eq_valid_iff _ _ _).mpr ⟨value, ?_, rfl⟩
    exact (Validated.lift_eq_valid_iff _ _).mpr accepted
  · exact (defaulted_eq_valid_iff _ _ _ _ _).mpr (.inr ⟨_, members, parses⟩)

/-! ### What the client returns -/

def chatInfoMembers (raw : Json) : Option (List ChatInfoMember) :=
  (BotXAPIChatInfoResponsePayload.check python raw).value?.map fun payload =>
    payload.toDomain.members

def personalChatMembers (raw : Json) : Option (List ChatInfoMember) :=
  (BotXAPIPersonalChatResponsePayload.check python raw).value?.map fun payload =>
    payload.toDomain.members

def listedChats (raw : Json) : Option (List ChatListItem) :=
  (BotXAPIListChatResponsePayload.check python raw).value?.map fun payload => payload.toDomain

section

variable {python}

theorem chatInfoMembers_of_gives {items : List Json} {raw : Json}
    (gives : ChatInfoGives python items raw) :
    chatInfoMembers python raw = some (items.filterMap (memberOf python)) := by
  obtain ⟨value, checked⟩ :=
    GivesMembers.check BotXAPIChatInfoResult.mk gives (validateMembers_arr python items)
  change (BotXAPIChatInfoResponsePayload.check python raw) = _ at checked
  rw [chatInfoMembers, checked]
  change some (((items.filterMap (chatInfoItem python)).filterMap ModelOrDict.instance?).map
    BotXAPIChatInfoMember.toDomain) = _
  rw [List.filterMap_filterMap, List.map_filterMap]
  simp only [chatInfoItem_instance]
  rfl

theorem personalChatMembers_of_gives {items : List Json} {raw : Json}
    (gives : PersonalChatGives python items raw) :
    personalChatMembers python raw = some (items.filterMap (memberOf python)) := by
  obtain ⟨given, nothingElse⟩ := gives
  obtain ⟨value, checked⟩ :=
    GivesMembers.check BotXAPIPersonalChatResult.mk given (parseMembers_arr python items)
  have accepted : BotXAPIPersonalChatResponsePayload.check python raw =
      .valid ⟨.mk value (items.filterMap (personalChatItem python))⟩ := by
    refine (Validated.seq_eq_valid_iff _ _ _).mpr ⟨id, _, ?_, checked, rfl⟩
    refine (Validated.map_eq_valid_iff _ _ _).mpr ⟨(), ?_, rfl⟩
    exact (Validated.lift_eq_valid_iff _ _).mpr nothingElse
  rw [personalChatMembers, accepted]
  change some (((items.filterMap (personalChatItem python)).filterMap
    PersonalChatItem.instance?).map BotXAPIChatInfoMember.toDomain) = _
  rw [List.filterMap_filterMap, List.map_filterMap]
  simp only [personalChatItem_instance]
  rfl

theorem listedChats_of_gives {chats : List (List (String × Json))} {raw : Json}
    (gives : ListChatsGives chats raw) :
    listedChats python raw = some (chats.filterMap (chatOf python)) := by
  have checked : BotXAPIListChatResponsePayload.check python raw = _ :=
    okPayload_of_result gives.status gives.result (validateResult_objects python chats)
  rw [listedChats, checked]
  change some (((chats.map (parseDict _)).filterMap ModelOrDict.instance?).map
    BotXAPIListChatResult.toDomain) = _
  rw [List.filterMap_map, List.map_filterMap]
  refine congrArg some (List.filterMap_congr ?_)
  intro entries _
  exact congrArg (Option.map _) (instance?_parseDict _ entries)

end

/-- The elements that something is made of are the same ones, in the same order. -/
def SameWellFormed {α β : Type} (convert : α → Option β) (items other : List α) : Prop :=
  items.filter (fun item => (convert item).isSome) =
    other.filter (fun item => (convert item).isSome)

theorem SameWellFormed.filterMap_eq {α β : Type} {convert : α → Option β} {items other : List α}
    (same : SameWellFormed convert items other) :
    items.filterMap convert = other.filterMap convert := by
  have selected (list : List α) : (list.filter fun item => (convert item).isSome).filterMap convert =
      list.filterMap convert := by
    rw [List.filterMap_filter]
    refine List.filterMap_congr ?_
    intro item _
    cases convert item <;> rfl
  rw [← selected items, ← selected other, same]

/-- Both chat endpoints select the members of a response, `list_chats` the chats, and what
is left out makes no difference to the others. -/
structure DecodesLeniently : Prop where
  chatInfo : ∀ items raw, ChatInfoGives python items raw →
    chatInfoMembers python raw = some (items.filterMap (memberOf python))
  personalChat : ∀ items raw, PersonalChatGives python items raw →
    personalChatMembers python raw = some (items.filterMap (memberOf python))
  listChats : ∀ chats raw, ListChatsGives chats raw →
    listedChats python raw = some (chats.filterMap (chatOf python))
  unionKeepsMembers : ∀ entries, unionResults (checkMember python)
    (parseDict (checkMember python) entries) = [parseDict (checkMember python) entries]
  unionKeepsChats : ∀ entries, unionResults (BotXAPIListChatResult.check python)
    (parseDict (BotXAPIListChatResult.check python) entries) =
      [parseDict (BotXAPIListChatResult.check python) entries]
  isolatesMembers : ∀ items other, SameWellFormed (memberOf python) items other →
    ∀ raw otherRaw, (ChatInfoGives python items raw → ChatInfoGives python other otherRaw →
        chatInfoMembers python raw = chatInfoMembers python otherRaw) ∧
      (PersonalChatGives python items raw → PersonalChatGives python other otherRaw →
        personalChatMembers python raw = personalChatMembers python otherRaw)
  isolatesChats : ∀ chats other, SameWellFormed (chatOf python) chats other →
    ∀ raw otherRaw, ListChatsGives chats raw → ListChatsGives other otherRaw →
      listedChats python raw = listedChats python otherRaw

end

def datedPython : Interpreter :=
  { demoPython with
    datetime := fun value => match value with
      | .str _ => some ⟨0, none⟩
      | _ => none }

def demoMember : Json :=
  .obj [("admin", .bool true), ("user_huid", .str "24348246-6791-4ac0-9d86-b948cd6a0e46"),
    ("user_kind", .str "botx")]

/-- Each kind of malformed element around a member. -/
def demoMembers : List Json :=
  [.null, .obj [("admin", .bool true)], .str "24348246-6791-4ac0-9d86-b948cd6a0e46", demoMember,
    .int 7]

def demoChatResponse (items : List Json) : Json :=
  .obj [("status", .str "ok"), ("result", .obj [("chat_type", .str "group_chat"),
    ("creator", .null), ("group_chat_id", .str "24348246-6791-4ac0-9d86-b948cd6a0e46"),
    ("inserted_at", .str "2019-08-29"), ("members", .arr items), ("name", .str "chat"),
    ("shared_history", .bool false)])]

theorem demoChatResponse_gives (items : List Json) :
    ChatInfoGives datedPython items (demoChatResponse items) ∧
      PersonalChatGives datedPython items (demoChatResponse items) :=
  ⟨⟨rfl, _, _, rfl, rfl, rfl⟩, ⟨rfl, _, _, rfl, rfl, rfl⟩, rfl⟩

theorem demoMembers_sameWellFormed :
    SameWellFormed (memberOf datedPython) demoMembers [demoMember] := rfl

end Pybotx
