/-
What can be read from the JSON of an outgoing message.

Everything that was given is in it, in its own place, so that two messages with one JSON were
given the same.  There is one exception: a button that is handled by the client does not say
whether that was asked for or follows from its link.
-/

import Pybotx.Client.MessagePayloads
import Pybotx.Models.AttachmentsRoundTrip
import Pybotx.Models.Message.MarkupBuilding

set_option autoImplicit false

namespace Pybotx

namespace Missing

variable {α β : Type} {first second : Missing α}

theorem toOption_inj : first.toOption = second.toOption ↔ first = second := by
  cases first <;> cases second <;> simp [toOption]

def Both (related : α → α → Prop) (first second : Missing α) : Prop :=
  Option.Rel related first.toOption second.toOption

theorem both_of_map {related : α → α → Prop} {encode : α → β}
    (reads : ∀ {one other}, encode one = encode other → related one other)
    (same : first.toOption.map encode = second.toOption.map encode) :
    first.Both related second := by
  unfold Both
  cases first with
  | undefined =>
      cases second with
      | undefined => exact .none
      | value other => cases same
  | value one =>
      cases second with
      | undefined => cases same
      | value other => exact .some (reads (Option.some.inj same))

theorem eq_of_map {encode : α → β} (injective : Function.Injective encode)
    (same : first.toOption.map encode = second.toOption.map encode) : first = second :=
  toOption_inj.mp (Option.map_injective injective same)

end Missing

theorem UUID.str_injective : Function.Injective UUID.str := by
  intro first second same
  have parsed := UUID.parse_str first
  rw [same, UUID.parse_str] at parsed
  exact (Option.some.inj parsed).symm

theorem forall₂_of_map_eq {α β : Type} {encode : α → β} {first second : List α}
    (same : first.map encode = second.map encode) :
    List.Forall₂ (fun one other => encode one = encode other) first second := by
  have equal : List.Forall₂ Eq (first.map encode) (second.map encode) := by
    rw [same, List.forall₂_same]
    exact fun _ _ => rfl
  exact List.forall₂_map_right_iff.mp (List.forall₂_map_left_iff.mp equal)

/-- The buttons are the same but for `process_on_client`, and are both handled by the client or
both not. -/
structure Button.SentAlike (first second : Button) : Prop where
  label : first.label = second.label
  command : first.command = second.command
  data : first.data = second.data
  textColor : first.textColor = second.textColor
  backgroundColor : first.backgroundColor = second.backgroundColor
  align : first.align = second.align
  silent : first.silent = second.silent
  widthRatio : first.widthRatio = second.widthRatio
  alert : first.alert = second.alert
  link : first.link = second.link
  client : first.onClient ↔ second.onClient

theorem ButtonTextAlign.value_injective : Function.Injective ButtonTextAlign.value := by
  intro first second same
  cases first <;> cases second <;> first | rfl | exact absurd same (by decide)

theorem Button.sentAlike_of_json {first second : Button}
    (same : buttonJson first = buttonJson second) : first.SentAlike second := by
  have leaves := (same ▸ buttonJson_renders first).leaves_eq (buttonJson_renders second) rfl
  simp only [buttonLeaves, List.cons.injEq, Prod.mk.injEq, true_and, and_true, Option.some.injEq,
    Json.str.injEq, Json.obj.injEq, Json.bool.injEq] at leaves
  obtain ⟨command, label, data, silent, textColor, background, align, width, _, alert, client,
    link⟩ := leaves
  have strings : Function.Injective Json.str := fun _ _ => Json.str.inj
  have integers : Function.Injective Json.int := fun _ _ => Json.int.inj
  refine ⟨label, Missing.eq_of_map strings command, data, Missing.eq_of_map strings textColor,
    Missing.eq_of_map strings background, ButtonTextAlign.value_injective align, silent,
    Missing.eq_of_map integers width, Missing.eq_of_map strings alert,
    Missing.eq_of_map strings link, ?_⟩
  by_cases onClient : first.onClient
  · by_cases other : second.onClient
    · exact iff_of_true onClient other
    · rw [if_pos onClient, if_neg other] at client
      cases client
  · by_cases other : second.onClient
    · rw [if_neg onClient, if_pos other] at client
      cases client
    · exact iff_of_false onClient other

def BaseMarkup.SentAlike (first second : BaseMarkup) : Prop :=
  List.Forall₂ (List.Forall₂ Button.SentAlike) first.buttons second.buttons

theorem BaseMarkup.sentAlike_of_json {first second : BaseMarkup}
    (same : markupJson first = markupJson second) : first.SentAlike second := by
  refine List.Forall₂.imp ?_ (forall₂_of_map_eq (Json.arr.inj same))
  intro row other rows
  refine List.Forall₂.imp ?_ (forall₂_of_map_eq (Json.arr.inj rows))
  intro button another
  exact Button.sentAlike_of_json

/-- A missing content cannot be sent. -/
structure FileAttachment.SentAlike (first second : FileAttachment) : Prop where
  filename : first.filename = second.filename
  content : first.content.getD [] = second.content.getD []

theorem encodeRfc2397_content {filename : String} {first second : List UInt8}
    (same : encodeRfc2397 first (getMimetypeByFilename filename) =
      encodeRfc2397 second (getMimetypeByFilename filename)) : first = second := by
  obtain ⟨media, text, _⟩ := exists_media filename
  rw [← text] at same
  have decoded := decodeRfc2397_encodeRfc2397 first media
  rw [same, decodeRfc2397_encodeRfc2397] at decoded
  exact (Except.ok.inj decoded).symm

theorem FileAttachment.sentAlike_of_json {first second : FileAttachment}
    (same : attachmentJson first = attachmentJson second) : first.SentAlike second := by
  simp only [attachmentJson, Json.obj.injEq, List.cons.injEq, Prod.mk.injEq, Json.str.injEq,
    true_and, and_true] at same
  obtain ⟨filename, data⟩ := same
  rw [filename] at data
  exact ⟨filename, encodeRfc2397_content data⟩

def mentionLeaves (mention : BotXAPIMention) : List (List String × Option Json) :=
  let head := [(["mention_type"], some (Json.str mention.mentionType.value)),
    (["mention_id"], some (.str mention.mentionId.str))]
  match mention with
  | .user _ data | .contact _ data =>
      head ++ [(["mention_data", "user_huid"], some (.str data.userHuid.str)),
        (["mention_data", "name"], data.name.toOption.map .str)]
  | .chat _ data | .channel _ data =>
      head ++ [(["mention_data", "group_chat_id"], some (.str data.groupChatId.str)),
        (["mention_data", "name"], data.name.toOption.map .str)]
  | .all _ => head

theorem mentionJson_renders (mention : BotXAPIMention) :
    Sparse.Renders (mentionLeaves mention) (mentionJson mention) := by
  have table : Sparse.leaves (.group (mentionShapes mention)) = mentionLeaves mention := by
    cases mention <;> rfl
  rw [← table]
  apply Sparse.renders_of_render
  · cases mention <;> rfl
  · rw [Sparse.render, mentionJson]
    cases fields : Sparse.renderFields (mentionShapes mention) with
    | nil =>
        have identified := (Sparse.renderFields_eq_nil_iff _).mp fields
          ("mention_id", .leaf (some (.str mention.mentionId.str)))
          (by cases mention <;> simp [mentionShapes])
        cases identified
    | cons first rest => rfl

theorem mentionJson_placed {first second : BotXAPIMention}
    (same : mentionJson first = mentionJson second) (path : List String) {one other : Option Json}
    (inFirst : (path, one) ∈ mentionLeaves first)
    (inSecond : (path, other) ∈ mentionLeaves second) : one = other := by
  have read := (mentionJson_renders first).placed _ inFirst
  rw [same, (mentionJson_renders second).placed _ inSecond] at read
  exact read.symm

theorem personalData_eq {first second : BotXAPIPersonalMentionData}
    (huids : some (Json.str first.userHuid.str) = some (.str second.userHuid.str))
    (names : first.name.toOption.map Json.str = second.name.toOption.map .str) :
    first = second := by
  obtain ⟨huid, name⟩ := first
  obtain ⟨otherHuid, otherName⟩ := second
  cases UUID.str_injective (Json.str.inj (Option.some.inj huids))
  cases Missing.eq_of_map (fun _ _ => Json.str.inj) names
  rfl

theorem groupData_eq {first second : BotXAPIGroupMentionData}
    (chats : some (Json.str first.groupChatId.str) = some (.str second.groupChatId.str))
    (names : first.name.toOption.map Json.str = second.name.toOption.map .str) :
    first = second := by
  obtain ⟨chat, name⟩ := first
  obtain ⟨otherChat, otherName⟩ := second
  cases UUID.str_injective (Json.str.inj (Option.some.inj chats))
  cases Missing.eq_of_map (fun _ _ => Json.str.inj) names
  rfl

theorem BotAPIMentionTypes.value_injective : Function.Injective BotAPIMentionTypes.value := by
  intro first second same
  cases first <;> cases second <;> first | rfl | exact absurd same (by decide)

theorem mentionJson_head (mention : BotXAPIMention) :
    (["mention_type"], some (Json.str mention.mentionType.value)) ∈ mentionLeaves mention ∧
      (["mention_id"], some (Json.str mention.mentionId.str)) ∈ mentionLeaves mention := by
  cases mention <;> simp [mentionLeaves]

/-- A mention is told by its type, and its other fields by their places. -/
theorem mentionJson_injective : Function.Injective mentionJson := by
  intro first second same
  have kind : first.mentionType = second.mentionType := by
    have read := mentionJson_placed same _ (mentionJson_head first).1 (mentionJson_head second).1
    exact BotAPIMentionTypes.value_injective (Json.str.inj (Option.some.inj read))
  have id : first.mentionId = second.mentionId := by
    have read := mentionJson_placed same _ (mentionJson_head first).2 (mentionJson_head second).2
    exact UUID.str_injective (Json.str.inj (Option.some.inj read))
  cases first with
  | user firstId data =>
      cases second with
      | user secondId other =>
          cases id
          refine congrArg _ (personalData_eq ?_ ?_)
          · exact mentionJson_placed same ["mention_data", "user_huid"] (by simp [mentionLeaves])
              (by simp [mentionLeaves])
          · exact mentionJson_placed same ["mention_data", "name"] (by simp [mentionLeaves])
              (by simp [mentionLeaves])
      | _ => cases kind
  | contact firstId data =>
      cases second with
      | contact secondId other =>
          cases id
          refine congrArg _ (personalData_eq ?_ ?_)
          · exact mentionJson_placed same ["mention_data", "user_huid"] (by simp [mentionLeaves])
              (by simp [mentionLeaves])
          · exact mentionJson_placed same ["mention_data", "name"] (by simp [mentionLeaves])
              (by simp [mentionLeaves])
      | _ => cases kind
  | chat firstId data =>
      cases second with
      | chat secondId other =>
          cases id
          refine congrArg _ (groupData_eq ?_ ?_)
          · exact mentionJson_placed same ["mention_data", "group_chat_id"]
              (by simp [mentionLeaves]) (by simp [mentionLeaves])
          · exact mentionJson_placed same ["mention_data", "name"] (by simp [mentionLeaves])
              (by simp [mentionLeaves])
      | _ => cases kind
  | channel firstId data =>
      cases second with
      | channel secondId other =>
          cases id
          refine congrArg _ (groupData_eq ?_ ?_)
          · exact mentionJson_placed same ["mention_data", "group_chat_id"]
              (by simp [mentionLeaves]) (by simp [mentionLeaves])
          · exact mentionJson_placed same ["mention_data", "name"] (by simp [mentionLeaves])
              (by simp [mentionLeaves])
      | _ => cases kind
  | all firstId =>
      cases second with
      | all secondId =>
          cases id
          rfl
      | _ => cases kind

inductive OutgoingMessage where
  | notification (args : DirectNotificationArgs)
  | reply (args : ReplyEventArgs)
  | edit (args : EditEventArgs)

def OutgoingMessage.body (ids : Nat → UUID) : OutgoingMessage → Result (Option Json)
  | notification args => do
      let payload ← BotXAPIDirectNotificationRequestPayload.fromDomain ids args
      return payload.jsonableDict
  | reply args => do
      let payload ← BotXAPIReplyEventRequestPayload.fromDomain ids args
      return payload.jsonableDict
  | edit args => do
      let payload ← BotXAPIEditEventRequestPayload.fromDomain ids args
      return payload.jsonableDict

structure DirectNotificationArgs.SentAlike (first second : DirectNotificationArgs) : Prop where
  chatId : first.chatId = second.chatId
  metadata : first.metadata = second.metadata
  bubbles : first.bubbles.Both BaseMarkup.SentAlike second.bubbles
  keyboard : first.keyboard.Both BaseMarkup.SentAlike second.keyboard
  file : first.file.Both FileAttachment.SentAlike second.file
  recipients : first.recipients = second.recipients
  silentResponse : first.silentResponse = second.silentResponse
  markupAutoAdjust : first.markupAutoAdjust = second.markupAutoAdjust
  stealthMode : first.stealthMode = second.stealthMode
  sendPush : first.sendPush = second.sendPush
  ignoreMute : first.ignoreMute = second.ignoreMute

structure ReplyEventArgs.SentAlike (first second : ReplyEventArgs) : Prop where
  syncId : first.syncId = second.syncId
  metadata : first.metadata = second.metadata
  bubbles : first.bubbles.Both BaseMarkup.SentAlike second.bubbles
  keyboard : first.keyboard.Both BaseMarkup.SentAlike second.keyboard
  file : first.file.Both FileAttachment.SentAlike second.file
  silentResponse : first.silentResponse = second.silentResponse
  markupAutoAdjust : first.markupAutoAdjust = second.markupAutoAdjust
  stealthMode : first.stealthMode = second.stealthMode
  sendPush : first.sendPush = second.sendPush
  ignoreMute : first.ignoreMute = second.ignoreMute

structure EditEventArgs.SentAlike (first second : EditEventArgs) : Prop where
  syncId : first.syncId = second.syncId
  metadata : first.metadata = second.metadata
  bubbles : first.bubbles.Both BaseMarkup.SentAlike second.bubbles
  keyboard : first.keyboard.Both BaseMarkup.SentAlike second.keyboard
  file : first.file.Both (Option.Rel FileAttachment.SentAlike) second.file
  markupAutoAdjust : first.markupAutoAdjust = second.markupAutoAdjust

theorem mentionsLeaf_injective {first second : List BotXAPIMention}
    (same : (if first = [] then none else some (mentionsJson first)) =
      if second = [] then none else some (mentionsJson second)) : first = second := by
  have apart := List.map_injective_iff.mpr mentionJson_injective
  by_cases empty : first = []
  · by_cases other : second = []
    · rw [empty, other]
    · rw [if_pos empty, if_neg other] at same
      cases same
  · by_cases other : second = []
    · rw [if_neg empty, if_pos other] at same
      cases same
    · rw [if_neg empty, if_neg other] at same
      exact apart (Json.arr.inj (Option.some.inj same))

theorem identifiers_injective :
    Function.Injective fun list : List UUID => Json.arr (list.map fun id => .str id.str) := by
  intro first second same
  have apart : Function.Injective fun id : UUID => Json.str id.str :=
    fun _ _ texts => UUID.str_injective (Json.str.inj texts)
  exact List.map_injective_iff.mpr apart (Json.arr.inj same)

theorem directNotification_apart {first second : DirectNotificationArgs} {body otherBody : String}
    {mentions otherMentions : List BotXAPIMention}
    (same : directNotificationLeaves first body mentions =
      directNotificationLeaves second otherBody otherMentions) :
    first.SentAlike second ∧ body = otherBody ∧ mentions = otherMentions := by
  simp only [directNotificationLeaves, messageLeaves, List.cons_append, List.nil_append,
    List.cons.injEq, Prod.mk.injEq, true_and, and_true, Option.some.injEq, Json.str.injEq] at same
  obtain ⟨chatId, sameBody, metadata, silent, adjust, bubbles, keyboard, listed, file, recipients,
    stealth, push, mute⟩ := same
  have flags : Function.Injective Json.bool := fun _ _ => Json.bool.inj
  refine ⟨?_, sameBody, mentionsLeaf_injective listed⟩
  constructor
  · exact UUID.str_injective chatId
  · exact Missing.eq_of_map (fun _ _ => Json.obj.inj) metadata
  · exact Missing.both_of_map BaseMarkup.sentAlike_of_json bubbles
  · exact Missing.both_of_map BaseMarkup.sentAlike_of_json keyboard
  · exact Missing.both_of_map FileAttachment.sentAlike_of_json file
  · exact Missing.eq_of_map identifiers_injective recipients
  · exact Missing.eq_of_map flags silent
  · exact Missing.eq_of_map flags adjust
  · exact Missing.eq_of_map flags stealth
  · exact Missing.eq_of_map flags push
  · exact Missing.eq_of_map flags mute

theorem replyEvent_apart {first second : ReplyEventArgs} {body otherBody : String}
    {mentions otherMentions : List BotXAPIMention}
    (same : replyEventLeaves first body mentions =
      replyEventLeaves second otherBody otherMentions) :
    first.SentAlike second ∧ body = otherBody ∧ mentions = otherMentions := by
  simp only [replyEventLeaves, messageLeaves, List.cons_append, List.nil_append,
    List.cons.injEq, Prod.mk.injEq, true_and, and_true, Option.some.injEq, Json.str.injEq] at same
  obtain ⟨syncId, sameBody, metadata, silent, adjust, bubbles, keyboard, listed, file,
    stealth, push, mute⟩ := same
  have flags : Function.Injective Json.bool := fun _ _ => Json.bool.inj
  refine ⟨?_, sameBody, mentionsLeaf_injective listed⟩
  constructor
  · exact UUID.str_injective syncId
  · exact Missing.eq_of_map (fun _ _ => Json.obj.inj) metadata
  · exact Missing.both_of_map BaseMarkup.sentAlike_of_json bubbles
  · exact Missing.both_of_map BaseMarkup.sentAlike_of_json keyboard
  · exact Missing.both_of_map FileAttachment.sentAlike_of_json file
  · exact Missing.eq_of_map flags silent
  · exact Missing.eq_of_map flags adjust
  · exact Missing.eq_of_map flags stealth
  · exact Missing.eq_of_map flags push
  · exact Missing.eq_of_map flags mute

theorem attachmentOrNull_apart {first second : Option FileAttachment}
    (same : first.elim .null attachmentJson = second.elim .null attachmentJson) :
    Option.Rel FileAttachment.SentAlike first second := by
  cases first with
  | none =>
      cases second with
      | none => exact .none
      | some other => cases same
  | some file =>
      cases second with
      | none => cases same
      | some other => exact .some (FileAttachment.sentAlike_of_json same)

/-- An edit with a new body has its mentions too, be there none. -/
theorem editEvent_apart {first second : EditEventArgs}
    {replaced otherReplaced : Option (String × List BotXAPIMention)}
    (same : editEventLeaves first replaced = editEventLeaves second otherReplaced) :
    first.SentAlike second ∧ replaced = otherReplaced := by
  simp only [editEventLeaves, List.cons.injEq, Prod.mk.injEq, true_and, and_true,
    Option.some.injEq, Json.str.injEq] at same
  obtain ⟨syncId, body, metadata, adjust, bubbles, keyboard, listed, file, _⟩ := same
  refine ⟨?_, ?_⟩
  · constructor
    · exact UUID.str_injective syncId
    · exact Missing.eq_of_map (fun _ _ => Json.obj.inj) metadata
    · exact Missing.both_of_map BaseMarkup.sentAlike_of_json bubbles
    · exact Missing.both_of_map BaseMarkup.sentAlike_of_json keyboard
    · exact Missing.both_of_map attachmentOrNull_apart file
    · exact Missing.eq_of_map (fun _ _ => Json.bool.inj) adjust
  · cases replaced with
    | none =>
        cases otherReplaced with
        | none => rfl
        | some found => cases body
    | some found =>
        cases otherReplaced with
        | none => cases body
        | some other =>
            have texts := Json.str.inj (Option.some.inj body)
            have lists := List.map_injective_iff.mpr mentionJson_injective
              (Json.arr.inj (Option.some.inj listed))
            exact congrArg some (Prod.ext texts lists)

/-! ### Messages apart -/

namespace OutgoingMessage

def key : OutgoingMessage → String
  | notification _ => "group_chat_id"
  | reply _ => "source_sync_id"
  | edit _ => "sync_id"

/-- The messages are of one kind, were given the same, and have the same text with the same
mentions in it. -/
def SentAlike (ids otherIds : Nat → UUID) : OutgoingMessage → OutgoingMessage → Prop
  | notification first, notification second => first.SentAlike second ∧
      findAndReplaceEmbedMentions ids first.body =
        findAndReplaceEmbedMentions otherIds second.body
  | reply first, reply second => first.SentAlike second ∧
      findAndReplaceEmbedMentions ids first.body =
        findAndReplaceEmbedMentions otherIds second.body
  | edit first, edit second => first.SentAlike second ∧
      replacedBody ids first.body = replacedBody otherIds second.body
  | _, _ => False

theorem body_renders {ids : Nat → UUID} {message : OutgoingMessage} {json : Json}
    (made : message.body ids = .ok (some json)) :
    match message with
    | notification args => ∃ body mentions,
        findAndReplaceEmbedMentions ids args.body = .ok (body, mentions) ∧
          Sparse.Renders (directNotificationLeaves args body mentions) json
    | reply args => ∃ body mentions,
        findAndReplaceEmbedMentions ids args.body = .ok (body, mentions) ∧
          Sparse.Renders (replyEventLeaves args body mentions) json
    | edit args => ∃ replaced, replacedBody ids args.body = replaced.map .ok ∧
        Sparse.Renders (editEventLeaves args replaced) json := by
  cases message with
  | notification args =>
      obtain ⟨payload, returned, encoded⟩ := (Result.bind_eq_ok _ _ _).mp made
      obtain ⟨body, mentions, other, replaced, same, renders⟩ :=
        directNotification_renders ids args payload returned
      cases same.symm.trans (Except.ok.inj encoded)
      exact ⟨body, mentions, replaced, renders⟩
  | reply args =>
      obtain ⟨payload, returned, encoded⟩ := (Result.bind_eq_ok _ _ _).mp made
      obtain ⟨body, mentions, other, replaced, same, renders⟩ :=
        replyEvent_renders ids args payload returned
      cases same.symm.trans (Except.ok.inj encoded)
      exact ⟨body, mentions, replaced, renders⟩
  | edit args =>
      obtain ⟨payload, returned, encoded⟩ := (Result.bind_eq_ok _ _ _).mp made
      obtain ⟨replaced, other, found, same, renders⟩ :=
        editEvent_renders ids args payload returned
      cases same.symm.trans (Except.ok.inj encoded)
      exact ⟨replaced, found, renders⟩

theorem key_present {ids : Nat → UUID} {message : OutgoingMessage} {json : Json}
    (made : message.body ids = .ok (some json)) :
    (json.atPath [message.key]).isSome = true := by
  have renders := body_renders made
  cases message with
  | notification args =>
      obtain ⟨body, mentions, _, renders⟩ := renders
      rw [key, renders.placed _ List.mem_cons_self]
      rfl
  | reply args =>
      obtain ⟨body, mentions, _, renders⟩ := renders
      rw [key, renders.placed _ List.mem_cons_self]
      rfl
  | edit args =>
      obtain ⟨replaced, _, renders⟩ := renders
      rw [key, renders.placed _ List.mem_cons_self]
      rfl

theorem key_only {ids : Nat → UUID} {message other : OutgoingMessage} {json : Json}
    (made : message.body ids = .ok (some json))
    (present : (json.atPath [other.key]).isSome = true) : other.key = message.key := by
  have renders := body_renders made
  cases message with
  | notification args =>
      obtain ⟨body, mentions, _, renders⟩ := renders
      have head := renders.head_mem (by simp [directNotificationLeaves, messageLeaves]) present
      cases other with
      | notification _ => rfl
      | reply _ => simp [directNotificationLeaves, messageLeaves, key] at head
      | edit _ => simp [directNotificationLeaves, messageLeaves, key] at head
  | reply args =>
      obtain ⟨body, mentions, _, renders⟩ := renders
      have head := renders.head_mem (by simp [replyEventLeaves, messageLeaves]) present
      cases other with
      | notification _ => simp [replyEventLeaves, messageLeaves, key] at head
      | reply _ => rfl
      | edit _ => simp [replyEventLeaves, messageLeaves, key] at head
  | edit args =>
      obtain ⟨replaced, _, renders⟩ := renders
      have head := renders.head_mem (by simp [editEventLeaves]) present
      cases other with
      | notification _ => simp [editEventLeaves, key] at head
      | reply _ => simp [editEventLeaves, key] at head
      | edit _ => rfl

end OutgoingMessage

/-- Two messages with one JSON were given the same. -/
theorem outgoingMessages_apart (ids otherIds : Nat → UUID) (first second : OutgoingMessage)
    (json : Json) (made : first.body ids = .ok (some json))
    (again : second.body otherIds = .ok (some json)) : first.SentAlike ids otherIds second := by
  have kind : first.key = second.key :=
    OutgoingMessage.key_only again (OutgoingMessage.key_present made)
  have one := OutgoingMessage.body_renders made
  have other := OutgoingMessage.body_renders again
  cases first with
  | notification args =>
      cases second with
      | notification otherArgs =>
          obtain ⟨body, mentions, replaced, renders⟩ := one
          obtain ⟨otherBody, otherMentions, otherReplaced, otherRenders⟩ := other
          obtain ⟨alike, rfl, rfl⟩ := directNotification_apart (renders.leaves_eq otherRenders
            (by simp only [directNotificationLeaves, messageLeaves, List.map_append,
              List.map_cons, List.map_nil]))
          exact ⟨alike, replaced.trans otherReplaced.symm⟩
      | _ => simp [OutgoingMessage.key] at kind
  | reply args =>
      cases second with
      | reply otherArgs =>
          obtain ⟨body, mentions, replaced, renders⟩ := one
          obtain ⟨otherBody, otherMentions, otherReplaced, otherRenders⟩ := other
          obtain ⟨alike, rfl, rfl⟩ := replyEvent_apart (renders.leaves_eq otherRenders
            (by simp only [replyEventLeaves, messageLeaves, List.map_append, List.map_cons,
              List.map_nil]))
          exact ⟨alike, replaced.trans otherReplaced.symm⟩
      | _ => simp [OutgoingMessage.key] at kind
  | edit args =>
      cases second with
      | edit otherArgs =>
          obtain ⟨replaced, found, renders⟩ := one
          obtain ⟨otherReplaced, otherFound, otherRenders⟩ := other
          obtain ⟨alike, rfl⟩ := editEvent_apart (renders.leaves_eq otherRenders
            (by simp only [editEventLeaves, List.map_cons, List.map_nil]))
          exact ⟨alike, found.trans otherFound.symm⟩
      | _ => simp [OutgoingMessage.key] at kind

def linkMessage (processOnClient : Missing Bool) : DirectNotificationArgs :=
  { emptyDirectNotification with
    bubbles := .value ⟨[[⟨"open", .undefined, [], .undefined, .undefined, .center, true,
      .undefined, .undefined, processOnClient, .value "link"⟩]]⟩ }

/-- What is not told apart is handled by the client for its link. -/
theorem outgoingMessages_apart_demo :
    ∃ json, (OutgoingMessage.notification (linkMessage .undefined)).body (fun _ => ⟨0⟩) =
        .ok (some json) ∧
      (OutgoingMessage.notification (linkMessage (.value true))).body (fun _ => ⟨0⟩) =
        .ok (some json) ∧
      (OutgoingMessage.notification (linkMessage .undefined)).SentAlike (fun _ => ⟨0⟩)
        (fun _ => ⟨0⟩) (.notification (linkMessage (.value true))) := by
  obtain ⟨payload, returned⟩ : ∃ payload, BotXAPIDirectNotificationRequestPayload.fromDomain
      (fun _ => ⟨0⟩) (linkMessage .undefined) = .ok payload := ⟨_, rfl⟩
  obtain ⟨_, _, json, _, encoded, _⟩ := directNotification_renders _ _ payload returned
  have made : (OutgoingMessage.notification (linkMessage .undefined)).body (fun _ => ⟨0⟩) =
      .ok (some json) :=
    (Result.bind_eq_ok _ _ _).mpr ⟨payload, returned, congrArg Except.ok encoded⟩
  exact ⟨json, made, made, outgoingMessages_apart _ _ _ _ json made made⟩

end Pybotx
