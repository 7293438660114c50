/-
Payloads of outgoing messages: direct notifications, replies and edits.

An argument that is `Undefined` leaves no trace in the JSON object, any other argument
appears with its value.  The leaf tables list the fields; `Renders` compares an object
with its table.
-/

import Pybotx.Models.Attachments
import Pybotx.Models.Message.Markup
import Pybotx.Models.Message.Mentions

set_option autoImplicit false

namespace Pybotx

open PyValue

def maxNotificationBodyLength : Nat := 4096

def BotXAPIMention.modelDump (mention : BotXAPIMention) : PyValue :=
  let head := [("mention_type", PyValue.str mention.mentionType.value),
    ("mention_id", .str mention.mentionId.str)]
  match mention with
  | .user _ data | .contact _ data =>
      .dict (head ++ [("mention_data", .dict [("user_huid", .str data.userHuid.str),
        ("name", data.name.toPyValue .str)])])
  | .chat _ data | .channel _ data =>
      .dict (head ++ [("mention_data", .dict [("group_chat_id", .str data.groupChatId.str),
        ("name", data.name.toPyValue .str)])])
  | .all _ => .dict head

/-- `api_markup_from_domain(markup) if markup else markup`; a markup is always true. -/
def markupOrUndefined (markup : Missing BaseMarkup) : Missing BotXAPIMarkup :=
  markup.map apiMarkupFromDomain

def apiFileFromDomain : Missing FileAttachment → Result (Missing BotXAPIAttachment)
  | .undefined => .ok .undefined
  | .value file => do
      let attachment ← BotXAPIAttachment.fromFileAttachment file
      return .value attachment

def mentionsOrUndefined (mentions : List BotXAPIMention) : Missing (List BotXAPIMention) :=
  if mentions = [] then .undefined else .value mentions

def dumpMentions (mentions : Missing (List BotXAPIMention)) : PyValue :=
  mentions.toPyValue fun list => .list (list.map BotXAPIMention.modelDump)

def dumpMetadata (metadata : Missing (List (String × Json))) : PyValue :=
  metadata.toPyValue fun fields => ofJson (.obj fields)

structure BotXAPIDirectNotificationMessageOpts where
  silentResponse : Missing Bool
  buttonsAutoAdjust : Missing Bool

structure BotXAPIDirectNotificationNestedOpts where
  send : Missing Bool
  forceDnd : Missing Bool

structure BotXAPIDirectNotificationOpts where
  stealthMode : Missing Bool
  notificationOpts : Missing BotXAPIDirectNotificationNestedOpts

structure BotXAPIDirectNotification where
  status : String
  body : String
  metadata : Missing (List (String × Json))
  opts : Missing BotXAPIDirectNotificationMessageOpts
  bubble : Missing BotXAPIMarkup
  keyboard : Missing BotXAPIMarkup
  mentions : Missing (List BotXAPIMention)

structure BotXAPIDirectNotificationRequestPayload where
  groupChatId : UUID
  notification : BotXAPIDirectNotification
  file : Missing BotXAPIAttachment
  recipients : Missing (List UUID)
  opts : Missing BotXAPIDirectNotificationOpts

/-- User data in `metadata` is taken as it is encoded. -/
structure DirectNotificationArgs where
  chatId : UUID
  body : String
  metadata : Missing (List (String × Json))
  bubbles : Missing BubbleMarkup
  keyboard : Missing KeyboardMarkup
  file : Missing FileAttachment
  recipients : Missing (List UUID)
  silentResponse : Missing Bool
  markupAutoAdjust : Missing Bool
  stealthMode : Missing Bool
  sendPush : Missing Bool
  ignoreMute : Missing Bool

def BotXAPIDirectNotificationMessageOpts.modelDump
    (opts : BotXAPIDirectNotificationMessageOpts) : PyValue :=
  .dict [("silent_response", opts.silentResponse.toPyValue .bool),
    ("buttons_auto_adjust", opts.buttonsAutoAdjust.toPyValue .bool)]

def BotXAPIDirectNotificationNestedOpts.modelDump
    (opts : BotXAPIDirectNotificationNestedOpts) : PyValue :=
  .dict [("send", opts.send.toPyValue .bool), ("force_dnd", opts.forceDnd.toPyValue .bool)]

def BotXAPIDirectNotificationOpts.modelDump (opts : BotXAPIDirectNotificationOpts) : PyValue :=
  .dict [("stealth_mode", opts.stealthMode.toPyValue .bool),
    ("notification_opts",
      opts.notificationOpts.toPyValue BotXAPIDirectNotificationNestedOpts.modelDump)]

def BotXAPIDirectNotification.modelDump (notification : BotXAPIDirectNotification) : PyValue :=
  .dict [("status", .str notification.status),
    ("body", .str notification.body),
    ("metadata", dumpMetadata notification.metadata),
    ("opts", notification.opts.toPyValue BotXAPIDirectNotificationMessageOpts.modelDump),
    ("bubble", notification.bubble.toPyValue BotXAPIMarkup.modelDump),
    ("keyboard", notification.keyboard.toPyValue BotXAPIMarkup.modelDump),
    ("mentions", dumpMentions notification.mentions)]

namespace BotXAPIDirectNotificationRequestPayload

def modelDump (payload : BotXAPIDirectNotificationRequestPayload) : PyValue :=
  .dict [("group_chat_id", .str payload.groupChatId.str),
    ("notification", payload.notification.modelDump),
    ("file", payload.file.toPyValue BotXAPIAttachment.modelDump),
    ("recipients", payload.recipients.toPyValue fun list => .list (list.map (.str ·.str))),
    ("opts", payload.opts.toPyValue BotXAPIDirectNotificationOpts.modelDump)]

def jsonableDict (payload : BotXAPIDirectNotificationRequestPayload) : Option Json :=
  PyValue.jsonableDict payload.modelDump

def fromDomain (ids : Nat → UUID) (args : DirectNotificationArgs) :
    Result BotXAPIDirectNotificationRequestPayload := do
  let apiFile ← apiFileFromDomain args.file
  if args.body.length > maxNotificationBodyLength then
    throw (.valueError ("Message body length exceeds " ++ toString maxNotificationBodyLength ++
      " symbols"))
  let (body, mentions) ← findAndReplaceEmbedMentions ids args.body
  return {
    groupChatId := args.chatId
    notification := {
      status := "ok"
      body := body
      metadata := args.metadata
      opts := .value {
        silentResponse := args.silentResponse
        buttonsAutoAdjust := args.markupAutoAdjust }
      bubble := markupOrUndefined args.bubbles
      keyboard := markupOrUndefined args.keyboard
      mentions := mentionsOrUndefined mentions }
    file := apiFile
    recipients := args.recipients
    opts := .value {
      stealthMode := args.stealthMode
      notificationOpts := .value { send := args.sendPush, forceDnd := args.ignoreMute } } }

end BotXAPIDirectNotificationRequestPayload

structure BotXAPIReplyEventMessageOpts where
  silentResponse : Missing Bool
  buttonsAutoAdjust : Missing Bool

structure BotXAPIReplyEvent where
  status : String
  body : String
  metadata : Missing (List (String × Json))
  opts : Missing BotXAPIReplyEventMessageOpts
  bubble : Missing BotXAPIMarkup
  keyboard : Missing BotXAPIMarkup
  mentions : Missing (List BotXAPIMention)

structure BotXAPIReplyEventNestedOpts where
  send : Missing Bool
  forceDnd : Missing Bool

structure BotXAPIReplyEventOpts where
  rawMentions : Bool
  stealthMode : Missing Bool
  notificationOpts : Missing BotXAPIReplyEventNestedOpts

structure BotXAPIReplyEventRequestPayload where
  sourceSyncId : UUID
  reply : BotXAPIReplyEvent
  file : Missing BotXAPIAttachment
  opts : BotXAPIReplyEventOpts

structure ReplyEventArgs where
  syncId : UUID
  body : String
  metadata : Missing (List (String × Json))
  bubbles : Missing BubbleMarkup
  keyboard : Missing KeyboardMarkup
  file : Missing FileAttachment
  silentResponse : Missing Bool
  markupAutoAdjust : Missing Bool
  stealthMode : Missing Bool
  sendPush : Missing Bool
  ignoreMute : Missing Bool

def BotXAPIReplyEventMessageOpts.modelDump (opts : BotXAPIReplyEventMessageOpts) : PyValue :=
  .dict [("silent_response", opts.silentResponse.toPyValue .bool),
    ("buttons_auto_adjust", opts.buttonsAutoAdjust.toPyValue .bool)]

def BotXAPIReplyEvent.modelDump (reply : BotXAPIReplyEvent) : PyValue :=
  .dict [("status", .str reply.status),
    ("body", .str reply.body),
    ("metadata", dumpMetadata reply.metadata),
    ("opts", reply.opts.toPyValue BotXAPIReplyEventMessageOpts.modelDump),
    ("bubble", reply.bubble.toPyValue BotXAPIMarkup.modelDump),
    ("keyboard", reply.keyboard.toPyValue BotXAPIMarkup.modelDump),
    ("mentions", dumpMentions reply.mentions)]

def BotXAPIReplyEventNestedOpts.modelDump (opts : BotXAPIReplyEventNestedOpts) : PyValue :=
  .dict [("send", opts.send.toPyValue .bool), ("force_dnd", opts.forceDnd.toPyValue .bool)]

def BotXAPIReplyEventOpts.modelDump (opts : BotXAPIReplyEventOpts) : PyValue :=
  .dict [("raw_mentions", .bool opts.rawMentions),
    ("stealth_mode", opts.stealthMode.toPyValue .bool),
    ("notification_opts", opts.notificationOpts.toPyValue BotXAPIReplyEventNestedOpts.modelDump)]

namespace BotXAPIReplyEventRequestPayload

def modelDump (payload : BotXAPIReplyEventRequestPayload) : PyValue :=
  .dict [("source_sync_id", .str payload.sourceSyncId.str),
    ("reply", payload.reply.modelDump),
    ("file", payload.file.toPyValue BotXAPIAttachment.modelDump),
    ("opts", payload.opts.modelDump)]

def jsonableDict (payload : BotXAPIReplyEventRequestPayload) : Option Json :=
  PyValue.jsonableDict payload.modelDump

def fromDomain (ids : Nat → UUID) (args : ReplyEventArgs) :
    Result BotXAPIReplyEventRequestPayload := do
  let apiFile ← apiFileFromDomain args.file
  let (body, mentions) ← findAndReplaceEmbedMentions ids args.body
  return {
    sourceSyncId := args.syncId
    reply := {
      status := "ok"
      body := body
      metadata := args.metadata
      opts := .value {
        buttonsAutoAdjust := args.markupAutoAdjust
        silentResponse := args.silentResponse }
      bubble := markupOrUndefined args.bubbles
      keyboard := markupOrUndefined args.keyboard
      mentions := mentionsOrUndefined mentions }
    file := apiFile
    opts := {
      rawMentions := true
      stealthMode := args.stealthMode
      notificationOpts := .value { send := args.sendPush, forceDnd := args.ignoreMute } } }

end BotXAPIReplyEventRequestPayload

structure BotXAPIEditEventPayloadOpts where
  buttonsAutoAdjust : Missing Bool

structure BotXAPIEditEventOpts where
  rawMentions : Missing Bool

/-- `opts` is declared as `BotXAPIEditEventOpts`; what is put there is not checked. -/
structure BotXAPIEditEvent where
  body : Missing String
  metadata : Missing (List (String × Json))
  opts : Missing BotXAPIEditEventPayloadOpts
  bubble : Missing BotXAPIMarkup
  keyboard : Missing BotXAPIMarkup
  mentions : Missing (List BotXAPIMention)

structure BotXAPIEditEventRequestPayload where
  syncId : UUID
  payload : BotXAPIEditEvent
  file : Missing (Option BotXAPIAttachment)
  opts : BotXAPIEditEventOpts

structure EditEventArgs where
  syncId : UUID
  body : Missing String
  metadata : Missing (List (String × Json))
  bubbles : Missing BubbleMarkup
  keyboard : Missing KeyboardMarkup
  file : Missing (Option FileAttachment)
  markupAutoAdjust : Missing Bool

def BotXAPIEditEventPayloadOpts.modelDump (opts : BotXAPIEditEventPayloadOpts) : PyValue :=
  .dict [("buttons_auto_adjust", opts.buttonsAutoAdjust.toPyValue .bool)]

def BotXAPIEditEventOpts.modelDump (opts : BotXAPIEditEventOpts) : PyValue :=
  .dict [("raw_mentions", opts.rawMentions.toPyValue .bool)]

def BotXAPIEditEvent.modelDump (event : BotXAPIEditEvent) : PyValue :=
  .dict [("body", event.body.toPyValue .str),
    ("metadata", dumpMetadata event.metadata),
    ("opts", event.opts.toPyValue BotXAPIEditEventPayloadOpts.modelDump),
    ("bubble", event.bubble.toPyValue BotXAPIMarkup.modelDump),
    ("keyboard", event.keyboard.toPyValue BotXAPIMarkup.modelDump),
    ("mentions", dumpMentions event.mentions)]

namespace BotXAPIEditEventRequestPayload

def modelDump (payload : BotXAPIEditEventRequestPayload) : PyValue :=
  .dict [("sync_id", .str payload.syncId.str),
    ("payload", payload.payload.modelDump),
    ("file", payload.file.toPyValue fun file => file.elim .null BotXAPIAttachment.modelDump),
    ("opts", payload.opts.modelDump)]

def jsonableDict (payload : BotXAPIEditEventRequestPayload) : Option Json :=
  PyValue.jsonableDict payload.modelDump

def apiFileOrNone : Missing (Option FileAttachment) →
    Result (Missing (Option BotXAPIAttachment))
  | .undefined => .ok .undefined
  | .value none => .ok (.value none)
  | .value (some file) => do
      let attachment ← BotXAPIAttachment.fromFileAttachment file
      return .value (some attachment)

/-- The body and the mentions; both are undefined if there is no new body. -/
def replaceIfText (ids : Nat → UUID) : Missing String →
    Result (Missing String × Missing (List BotXAPIMention))
  | .undefined => .ok (.undefined, .undefined)
  | .value body => do
      let (newBody, mentions) ← findAndReplaceEmbedMentions ids body
      return (.value newBody, .value mentions)

def rawMentions : Missing (List BotXAPIMention) → Missing Bool
  | .undefined => .undefined
  | .value mentions => if mentions = [] then .undefined else .value true

def fromDomain (ids : Nat → UUID) (args : EditEventArgs) :
    Result BotXAPIEditEventRequestPayload := do
  let apiFile ← apiFileOrNone args.file
  let (body, mentions) ← replaceIfText ids args.body
  return {
    syncId := args.syncId
    payload := {
      body := body
      metadata := args.metadata
      opts := .value { buttonsAutoAdjust := args.markupAutoAdjust }
      bubble := markupOrUndefined args.bubbles
      keyboard := markupOrUndefined args.keyboard
      mentions := mentions }
    file := apiFile
    opts := { rawMentions := rawMentions mentions } }

end BotXAPIEditEventRequestPayload

/-! ### Tables of the fields -/

def mentionShapes (mention : BotXAPIMention) : List (String × Sparse) :=
  let head := [("mention_type", Sparse.leaf (some (.str mention.mentionType.value))),
    ("mention_id", .leaf (some (.str mention.mentionId.str)))]
  match mention with
  | .user _ data | .contact _ data =>
      head ++ [("mention_data", .group [("user_huid", .leaf (some (.str data.userHuid.str))),
        ("name", .leaf (data.name.toOption.map .str))])]
  | .chat _ data | .channel _ data =>
      head ++ [("mention_data", .group
        [("group_chat_id", .leaf (some (.str data.groupChatId.str))),
          ("name", .leaf (data.name.toOption.map .str))])]
  | .all _ => head

def mentionJson (mention : BotXAPIMention) : Json :=
  .obj (Sparse.renderFields (mentionShapes mention))

def mentionsJson (mentions : List BotXAPIMention) : Json :=
  .arr (mentions.map mentionJson)

def messageLeaves (key : String) (body : String) (mentions : List BotXAPIMention)
    (metadata : Missing (List (String × Json))) (bubbles keyboard : Missing BaseMarkup)
    (silentResponse markupAutoAdjust : Missing Bool) : List (List String × Option Json) :=
  [([key, "status"], some (.str "ok")),
    ([key, "body"], some (.str body)),
    ([key, "metadata"], metadata.toOption.map .obj),
    ([key, "opts", "silent_response"], silentResponse.toOption.map .bool),
    ([key, "opts", "buttons_auto_adjust"], markupAutoAdjust.toOption.map .bool),
    ([key, "bubble"], bubbles.toOption.map markupJson),
    ([key, "keyboard"], keyboard.toOption.map markupJson),
    ([key, "mentions"], if mentions = [] then none else some (mentionsJson mentions))]

/-- `body` and `mentions` are what the embedded mentions of `args.body` are replaced by. -/
def directNotificationLeaves (args : DirectNotificationArgs) (body : String)
    (mentions : List BotXAPIMention) : List (List String × Option Json) :=
  [(["group_chat_id"], some (.str args.chatId.str))] ++
  messageLeaves "notification" body mentions args.metadata args.bubbles args.keyboard
    args.silentResponse args.markupAutoAdjust ++
  [(["file"], args.file.toOption.map attachmentJson),
    (["recipients"], args.recipients.toOption.map fun list => .arr (list.map (.str ·.str))),
    (["opts", "stealth_mode"], args.stealthMode.toOption.map .bool),
    (["opts", "notification_opts", "send"], args.sendPush.toOption.map .bool),
    (["opts", "notification_opts", "force_dnd"], args.ignoreMute.toOption.map .bool)]

def replyEventLeaves (args : ReplyEventArgs) (body : String)
    (mentions : List BotXAPIMention) : List (List String × Option Json) :=
  [(["source_sync_id"], some (.str args.syncId.str))] ++
  messageLeaves "reply" body mentions args.metadata args.bubbles args.keyboard
    args.silentResponse args.markupAutoAdjust ++
  [(["file"], args.file.toOption.map attachmentJson),
    (["opts", "raw_mentions"], some (.bool true)),
    (["opts", "stealth_mode"], args.stealthMode.toOption.map .bool),
    (["opts", "notification_opts", "send"], args.sendPush.toOption.map .bool),
    (["opts", "notification_opts", "force_dnd"], args.ignoreMute.toOption.map .bool)]

/-- `replaced` is the new body with its mentions, if there is a new body. -/
def editEventLeaves (args : EditEventArgs) (replaced : Option (String × List BotXAPIMention)) :
    List (List String × Option Json) :=
  [(["sync_id"], some (.str args.syncId.str)),
    (["payload", "body"], replaced.map fun found => .str found.1),
    (["payload", "metadata"], args.metadata.toOption.map .obj),
    (["payload", "opts", "buttons_auto_adjust"], args.markupAutoAdjust.toOption.map .bool),
    (["payload", "bubble"], args.bubbles.toOption.map markupJson),
    (["payload", "keyboard"], args.keyboard.toOption.map markupJson),
    (["payload", "mentions"], replaced.map fun found => mentionsJson found.2),
    (["file"], args.file.toOption.map fun file => file.elim .null attachmentJson),
    (["opts", "raw_mentions"],
      replaced.bind fun found => if found.2 = [] then none else some (.bool true))]

def messageShapes (body : String) (mentions : List BotXAPIMention)
    (metadata : Missing (List (String × Json))) (bubbles keyboard : Missing BaseMarkup)
    (silentResponse markupAutoAdjust : Missing Bool) : List (String × Sparse) :=
  [("status", .leaf (some (.str "ok"))),
    ("body", .leaf (some (.str body))),
    ("metadata", .leaf (metadata.toOption.map .obj)),
    ("opts", .group [("silent_response", .leaf (silentResponse.toOption.map .bool)),
      ("buttons_auto_adjust", .leaf (markupAutoAdjust.toOption.map .bool))]),
    ("bubble", .leaf (bubbles.toOption.map markupJson)),
    ("keyboard", .leaf (keyboard.toOption.map markupJson)),
    ("mentions", .leaf (if mentions = [] then none else some (mentionsJson mentions)))]

def notificationOptsShapes (sendPush ignoreMute : Missing Bool) : List (String × Sparse) :=
  [("send", .leaf (sendPush.toOption.map .bool)),
    ("force_dnd", .leaf (ignoreMute.toOption.map .bool))]

def directNotificationShapes (args : DirectNotificationArgs) (body : String)
    (mentions : List BotXAPIMention) : List (String × Sparse) :=
  [("group_chat_id", .leaf (some (.str args.chatId.str))),
    ("notification", .group (messageShapes body mentions args.metadata args.bubbles
      args.keyboard args.silentResponse args.markupAutoAdjust)),
    ("file", .leaf (args.file.toOption.map attachmentJson)),
    ("recipients", .leaf (args.recipients.toOption.map fun list =>
      .arr (list.map (.str ·.str)))),
    ("opts", .group [("stealth_mode", .leaf (args.stealthMode.toOption.map .bool)),
      ("notification_opts", .group (notificationOptsShapes args.sendPush args.ignoreMute))])]

def replyEventShapes (args : ReplyEventArgs) (body : String)
    (mentions : List BotXAPIMention) : List (String × Sparse) :=
  [("source_sync_id", .leaf (some (.str args.syncId.str))),
    ("reply", .group (messageShapes body mentions args.metadata args.bubbles
      args.keyboard args.silentResponse args.markupAutoAdjust)),
    ("file", .leaf (args.file.toOption.map attachmentJson)),
    ("opts", .group [("raw_mentions", .leaf (some (.bool true))),
      ("stealth_mode", .leaf (args.stealthMode.toOption.map .bool)),
      ("notification_opts", .group (notificationOptsShapes args.sendPush args.ignoreMute))])]

def editEventShapes (args : EditEventArgs) (replaced : Option (String × List BotXAPIMention)) :
    List (String × Sparse) :=
  [("sync_id", .leaf (some (.str args.syncId.str))),
    ("payload", .group [("body", .leaf (replaced.map fun found => .str found.1)),
      ("metadata", .leaf (args.metadata.toOption.map .obj)),
      ("opts", .group
        [("buttons_auto_adjust", .leaf (args.markupAutoAdjust.toOption.map .bool))]),
      ("bubble", .leaf (args.bubbles.toOption.map markupJson)),
      ("keyboard", .leaf (args.keyboard.toOption.map markupJson)),
      ("mentions", .leaf (replaced.map fun found => mentionsJson found.2))]),
    ("file", .leaf (args.file.toOption.map fun file => file.elim .null attachmentJson)),
    ("opts", .group [("raw_mentions", .leaf
      (replaced.bind fun found => if found.2 = [] then none else some (.bool true)))])]

/-- A mention is never pruned away: it has an identifier. -/
theorem prune_mention (mention : BotXAPIMention) :
    prune mention.modelDump = some (mentionJson mention) := by
  have named (key id : String) (name : Missing String) :
      prune (.dict [(key, .str id), ("name", name.toPyValue .str)]) =
        (Sparse.group [(key, .leaf (some (.str id))),
          ("name", .leaf (name.toOption.map .str))]).render :=
    prune_dict_eq_render (by simp)
      (.cons rfl (.cons (prune_toPyValue .str .str (fun _ => rfl) name) .nil))
  have dumps : ∃ fields, mention.modelDump = .dict fields ∧ fields.length ≠ 0 ∧
      Dumps fields (mentionShapes mention) := by
    cases mention with
    | user _ data | contact _ data =>
        exact ⟨_, rfl, by simp, .cons rfl (.cons rfl (.cons (named _ _ data.name) .nil))⟩
    | chat _ data | channel _ data =>
        exact ⟨_, rfl, by simp, .cons rfl (.cons rfl (.cons (named _ _ data.name) .nil))⟩
    | all _ => exact ⟨_, rfl, by simp, .cons rfl (.cons rfl .nil)⟩
  obtain ⟨fields, dumped, nonempty, same⟩ := dumps
  rw [dumped, prune_dict_eq_render nonempty same, Sparse.render, mentionJson]
  cases rendered : Sparse.renderFields (mentionShapes mention) with
  | nil =>
      have identified := (Sparse.renderFields_eq_nil_iff _).mp rendered
        ("mention_id", .leaf (some (.str mention.mentionId.str)))
        (by cases mention <;> simp [mentionShapes])
      cases identified
  | cons first rest => rfl

private theorem dumps_metadata (metadata : Missing (List (String × Json))) :
    prune (dumpMetadata metadata) = (Sparse.leaf (metadata.toOption.map .obj)).render :=
  prune_toPyValue _ _ (fun fields => prune_ofJson (.obj fields)) metadata

private theorem dumps_flag (flag : Missing Bool) :
    prune (flag.toPyValue .bool) = (Sparse.leaf (flag.toOption.map .bool)).render :=
  prune_toPyValue _ _ (fun _ => rfl) flag

private theorem dumps_flags (firstKey secondKey : String) (first second : Missing Bool) :
    prune (.dict [(firstKey, first.toPyValue .bool), (secondKey, second.toPyValue .bool)]) =
      (Sparse.group [(firstKey, .leaf (first.toOption.map .bool)),
        (secondKey, .leaf (second.toOption.map .bool))]).render :=
  prune_dict_eq_render (by simp) (.cons (dumps_flag first) (.cons (dumps_flag second) .nil))

private theorem dumps_markup (markup : Missing BaseMarkup) :
    prune ((markupOrUndefined markup).toPyValue BotXAPIMarkup.modelDump) =
      (Sparse.leaf (markup.toOption.map markupJson)).render := by
  cases markup with
  | undefined => rfl
  | value markup => exact prune_markup markup

theorem prune_mentions (mentions : List BotXAPIMention) :
    prune (.list (mentions.map BotXAPIMention.modelDump)) = some (mentionsJson mentions) :=
  prune_list_of_kept mentions _ _ fun mention _ => prune_mention mention

private theorem dumps_mentionsOrUndefined (mentions : List BotXAPIMention) :
    prune (dumpMentions (mentionsOrUndefined mentions)) =
      (Sparse.leaf (if mentions = [] then none else some (mentionsJson mentions))).render := by
  unfold mentionsOrUndefined
  by_cases empty : mentions = []
  · rw [if_pos empty, if_pos empty]
    rfl
  · rw [if_neg empty, if_neg empty]
    exact prune_mentions mentions

theorem apiFileFromDomain_prune (file : Missing FileAttachment)
    (apiFile : Missing BotXAPIAttachment) (returned : apiFileFromDomain file = .ok apiFile) :
    prune (apiFile.toPyValue BotXAPIAttachment.modelDump) =
      (Sparse.leaf (file.toOption.map attachmentJson)).render := by
  cases file with
  | undefined =>
      cases returned
      rfl
  | value file =>
      obtain ⟨attachment, converted, same⟩ := (Result.bind_eq_ok _ _ _).mp returned
      cases same
      exact prune_fromFileAttachment file attachment converted

theorem apiFileOrNone_prune (file : Missing (Option FileAttachment))
    (apiFile : Missing (Option BotXAPIAttachment))
    (returned : BotXAPIEditEventRequestPayload.apiFileOrNone file = .ok apiFile) :
    prune (apiFile.toPyValue fun file => file.elim .null BotXAPIAttachment.modelDump) =
      (Sparse.leaf (file.toOption.map fun file => file.elim .null attachmentJson)).render := by
  rcases file with _ | (_ | file)
  · cases returned
    rfl
  · cases returned
    rfl
  · obtain ⟨attachment, converted, same⟩ := (Result.bind_eq_ok _ _ _).mp returned
    cases same
    exact prune_fromFileAttachment file attachment converted

def replacedBody (ids : Nat → UUID) (body : Missing String) :
    Option (Result (String × List BotXAPIMention)) :=
  body.toOption.map (findAndReplaceEmbedMentions ids)

theorem replaceIfText_dumps (ids : Nat → UUID) (body newBody : Missing String)
    (mentions : Missing (List BotXAPIMention))
    (returned : BotXAPIEditEventRequestPayload.replaceIfText ids body =
      .ok (newBody, mentions)) :
    ∃ replaced : Option (String × List BotXAPIMention),
      replacedBody ids body = replaced.map .ok ∧
      prune (newBody.toPyValue .str) =
        (Sparse.leaf (replaced.map fun found => .str found.1)).render ∧
      prune (dumpMentions mentions) =
        (Sparse.leaf (replaced.map fun found => mentionsJson found.2)).render ∧
      prune ((BotXAPIEditEventRequestPayload.rawMentions mentions).toPyValue .bool) =
        (Sparse.leaf (replaced.bind fun found =>
          if found.2 = [] then none else some (.bool true))).render := by
  cases body with
  | undefined =>
      cases returned
      exact ⟨none, rfl, rfl, rfl, rfl⟩
  | value body =>
      obtain ⟨⟨text, list⟩, found, same⟩ := (Result.bind_eq_ok _ _ _).mp returned
      cases same
      refine ⟨some (text, list), congrArg some found, rfl, prune_mentions list, ?_⟩
      by_cases empty : list = []
      · subst empty
        rfl
      · simp only [BotXAPIEditEventRequestPayload.rawMentions, Option.bind_some, if_neg empty]
        rfl

/-! ### The JSON of a payload -/

private theorem renders_of_dumps (dumped : PyValue) (shapes : List (String × Sparse))
    (leaves : List (List String × Option Json))
    (dumps : ∃ fields, dumped = .dict fields ∧ Dumps fields shapes)
    (table : Sparse.leaves (.group shapes) = leaves)
    (ok : (Sparse.group shapes).wellFormed = true)
    (required : ∃ leaf ∈ leaves, leaf.2.isSome = true) :
    ∃ json, PyValue.jsonableDict dumped = some json ∧ Sparse.Renders leaves json := by
  subst table
  obtain ⟨fields, rfl, dumps⟩ := dumps
  have present := (Sparse.render_isSome_iff (.group shapes)).mpr required
  obtain ⟨json, rendered⟩ := Option.isSome_iff_exists.mp present
  refine ⟨json, ?_, Sparse.renders_of_render (.group shapes) ok json rendered⟩
  rw [jsonableDict_dict, pruneFields_eq_render dumps, ← rendered, Sparse.render]
  cases filled : Sparse.renderFields shapes with
  | nil =>
      rw [Sparse.render, filled] at rendered
      cases rendered
  | cons first rest => rfl

private theorem dumps_message (body : String) (mentions : List BotXAPIMention)
    (metadata : Missing (List (String × Json))) (bubbles keyboard : Missing BaseMarkup)
    (silentResponse markupAutoAdjust : Missing Bool) :
    Dumps
      [("status", .str "ok"), ("body", .str body), ("metadata", dumpMetadata metadata),
        ("opts", .dict [("silent_response", silentResponse.toPyValue .bool),
          ("buttons_auto_adjust", markupAutoAdjust.toPyValue .bool)]),
        ("bubble", (markupOrUndefined bubbles).toPyValue BotXAPIMarkup.modelDump),
        ("keyboard", (markupOrUndefined keyboard).toPyValue BotXAPIMarkup.modelDump),
        ("mentions", dumpMentions (mentionsOrUndefined mentions))]
      (messageShapes body mentions metadata bubbles keyboard silentResponse
        markupAutoAdjust) := by
  have opts := dumps_flags "silent_response" "buttons_auto_adjust" silentResponse
    markupAutoAdjust
  refine .cons rfl (.cons rfl (.cons ?_ (.cons opts (.cons ?_ (.cons ?_ (.cons ?_ .nil))))))
  · exact dumps_metadata metadata
  · exact dumps_markup bubbles
  · exact dumps_markup keyboard
  · exact dumps_mentionsOrUndefined mentions

theorem directNotification_renders (ids : Nat → UUID) (args : DirectNotificationArgs)
    (payload : BotXAPIDirectNotificationRequestPayload)
    (returned : BotXAPIDirectNotificationRequestPayload.fromDomain ids args = .ok payload) :
    ∃ body mentions json,
      findAndReplaceEmbedMentions ids args.body = .ok (body, mentions) ∧
      payload.jsonableDict = some json ∧
      Sparse.Renders (directNotificationLeaves args body mentions) json := by
  unfold BotXAPIDirectNotificationRequestPayload.fromDomain at returned
  obtain ⟨apiFile, converted, returned⟩ := (Result.bind_eq_ok _ _ _).mp returned
  by_cases long : args.body.length > maxNotificationBodyLength
  · rw [if_pos long] at returned
    cases returned
  rw [if_neg long] at returned
  obtain ⟨⟨body, mentions⟩, replaced, returned⟩ := (Result.bind_eq_ok _ _ _).mp returned
  cases returned
  have message := dumps_message body mentions args.metadata args.bubbles args.keyboard
    args.silentResponse args.markupAutoAdjust
  have nested := dumps_flags "send" "force_dnd" args.sendPush args.ignoreMute
  have recipients : prune (args.recipients.toPyValue fun list => .list (list.map (.str ·.str))) =
      (Sparse.leaf (args.recipients.toOption.map fun list =>
        .arr (list.map (.str ·.str)))).render :=
    prune_toPyValue _ _ (fun list => prune_list_of_kept list _ _ fun _ _ => rfl) args.recipients
  obtain ⟨json, encoded, renders⟩ := renders_of_dumps _
    (directNotificationShapes args body mentions) (directNotificationLeaves args body mentions)
    ⟨_, rfl, .cons (prune_str _) (.cons (prune_dict_eq_render (by simp) message)
      (.cons (apiFileFromDomain_prune args.file apiFile converted) (.cons recipients
        (.cons (prune_dict_eq_render (by simp)
          (.cons (dumps_flag args.stealthMode) (.cons nested .nil))) .nil))))⟩
    rfl rfl ⟨(["group_chat_id"], some (.str args.chatId.str)), List.mem_cons_self, rfl⟩
  exact ⟨body, mentions, json, replaced, encoded, renders⟩

theorem replyEvent_renders (ids : Nat → UUID) (args : ReplyEventArgs)
    (payload : BotXAPIReplyEventRequestPayload)
    (returned : BotXAPIReplyEventRequestPayload.fromDomain ids args = .ok payload) :
    ∃ body mentions json,
      findAndReplaceEmbedMentions ids args.body = .ok (body, mentions) ∧
      payload.jsonableDict = some json ∧
      Sparse.Renders (replyEventLeaves args body mentions) json := by
  unfold BotXAPIReplyEventRequestPayload.fromDomain at returned
  obtain ⟨apiFile, converted, returned⟩ := (Result.bind_eq_ok _ _ _).mp returned
  obtain ⟨⟨body, mentions⟩, replaced, returned⟩ := (Result.bind_eq_ok _ _ _).mp returned
  cases returned
  have message := dumps_message body mentions args.metadata args.bubbles args.keyboard
    args.silentResponse args.markupAutoAdjust
  have nested := dumps_flags "send" "force_dnd" args.sendPush args.ignoreMute
  obtain ⟨json, encoded, renders⟩ := renders_of_dumps _
    (replyEventShapes args body mentions) (replyEventLeaves args body mentions)
    ⟨_, rfl, .cons (prune_str _) (.cons (prune_dict_eq_render (by simp) message)
      (.cons (apiFileFromDomain_prune args.file apiFile converted)
        (.cons (prune_dict_eq_render (by simp) (.cons (prune_bool _)
          (.cons (dumps_flag args.stealthMode) (.cons nested .nil)))) .nil)))⟩
    rfl rfl ⟨(["source_sync_id"], some (.str args.syncId.str)), List.mem_cons_self, rfl⟩
  exact ⟨body, mentions, json, replaced, encoded, renders⟩

theorem editEvent_renders (ids : Nat → UUID) (args : EditEventArgs)
    (payload : BotXAPIEditEventRequestPayload)
    (returned : BotXAPIEditEventRequestPayload.fromDomain ids args = .ok payload) :
    ∃ replaced json,
      replacedBody ids args.body = replaced.map .ok ∧
      payload.jsonableDict = some json ∧
      Sparse.Renders (editEventLeaves args replaced) json := by
  unfold BotXAPIEditEventRequestPayload.fromDomain at returned
  obtain ⟨apiFile, converted, returned⟩ := (Result.bind_eq_ok _ _ _).mp returned
  obtain ⟨⟨body, mentions⟩, found, returned⟩ := (Result.bind_eq_ok _ _ _).mp returned
  cases returned
  obtain ⟨replaced, same, bodyDumps, mentionsDumps, rawDumps⟩ :=
    replaceIfText_dumps ids args.body body mentions found
  have adjust : prune (.dict [("buttons_auto_adjust", args.markupAutoAdjust.toPyValue .bool)]) =
      (Sparse.group [("buttons_auto_adjust",
        .leaf (args.markupAutoAdjust.toOption.map .bool))]).render :=
    prune_dict_eq_render (by simp) (.cons (dumps_flag args.markupAutoAdjust) .nil)
  obtain ⟨json, encoded, renders⟩ := renders_of_dumps _
    (editEventShapes args replaced) (editEventLeaves args replaced)
    ⟨_, rfl, .cons (prune_str _) (.cons (prune_dict_eq_render (by simp) (.cons bodyDumps
        (.cons (dumps_metadata args.metadata) (.cons adjust (.cons (dumps_markup args.bubbles)
          (.cons (dumps_markup args.keyboard) (.cons mentionsDumps .nil)))))))
      (.cons (apiFileOrNone_prune args.file apiFile converted)
        (.cons (prune_dict_eq_render (by simp) (.cons rawDumps .nil)) .nil)))⟩
    rfl rfl ⟨(["sync_id"], some (.str args.syncId.str)), List.mem_cons_self, rfl⟩
  exact ⟨replaced, json, same, encoded, renders⟩

/-- Whatever is given, an argument is in the object exactly if it is not `Undefined`, with
its own value, and a group is there exactly if something in it is. -/
theorem outgoingMessages_render (ids : Nat → UUID) :
    (∀ args payload, BotXAPIDirectNotificationRequestPayload.fromDomain ids args = .ok payload →
      ∃ body mentions json,
        findAndReplaceEmbedMentions ids args.body = .ok (body, mentions) ∧
        payload.jsonableDict = some json ∧
        Sparse.Renders (directNotificationLeaves args body mentions) json) ∧
    (∀ args payload, BotXAPIReplyEventRequestPayload.fromDomain ids args = .ok payload →
      ∃ body mentions json,
        findAndReplaceEmbedMentions ids args.body = .ok (body, mentions) ∧
        payload.jsonableDict = some json ∧
        Sparse.Renders (replyEventLeaves args body mentions) json) ∧
    (∀ args payload, BotXAPIEditEventRequestPayload.fromDomain ids args = .ok payload →
      ∃ replaced json,
        replacedBody ids args.body = replaced.map .ok ∧
        payload.jsonableDict = some json ∧
        Sparse.Renders (editEventLeaves args replaced) json) :=
  ⟨directNotification_renders ids, replyEvent_renders ids, editEvent_renders ids⟩

def emptyDirectNotification : DirectNotificationArgs where
  chatId := ⟨1⟩
  body := ""
  metadata := .value []
  bubbles := .value ⟨[]⟩
  keyboard := .undefined
  file := .undefined
  recipients := .value []
  silentResponse := .value false
  markupAutoAdjust := .undefined
  stealthMode := .undefined
  sendPush := .undefined
  ignoreMute := .value false

def emptyReplyEvent : ReplyEventArgs where
  syncId := ⟨2⟩
  body := ""
  metadata := .undefined
  bubbles := .undefined
  keyboard := .value ⟨[]⟩
  file := .undefined
  silentResponse := .undefined
  markupAutoAdjust := .undefined
  stealthMode := .value false
  sendPush := .undefined
  ignoreMute := .undefined

def clearingEditEvent : EditEventArgs where
  syncId := ⟨3⟩
  body := .value ""
  metadata := .value []
  bubbles := .value ⟨[]⟩
  keyboard := .undefined
  file := .value none
  markupAutoAdjust := .undefined

theorem outgoingMessages_render_demo :
    (∃ payload json, BotXAPIDirectNotificationRequestPayload.fromDomain (fun _ => ⟨0⟩)
        emptyDirectNotification = .ok payload ∧
      payload.jsonableDict = some json ∧
      Sparse.Renders (directNotificationLeaves emptyDirectNotification "" []) json) ∧
    (∃ payload json, BotXAPIReplyEventRequestPayload.fromDomain (fun _ => ⟨0⟩)
        emptyReplyEvent = .ok payload ∧
      payload.jsonableDict = some json ∧
      Sparse.Renders (replyEventLeaves emptyReplyEvent "" []) json) ∧
    (∃ payload json, BotXAPIEditEventRequestPayload.fromDomain (fun _ => ⟨0⟩)
        clearingEditEvent = .ok payload ∧
      payload.jsonableDict = some json ∧
      Sparse.Renders (editEventLeaves clearingEditEvent (some ("", []))) json) := by
  obtain ⟨direct, reply, edit⟩ := outgoingMessages_render fun _ => ⟨0⟩
  refine ⟨?_, ?_, ?_⟩
  · obtain ⟨payload, returned⟩ : ∃ payload, BotXAPIDirectNotificationRequestPayload.fromDomain
        (fun _ => ⟨0⟩) emptyDirectNotification = .ok payload := ⟨_, rfl⟩
    obtain ⟨body, mentions, json, replaced, encoded, renders⟩ := direct _ payload returned
    cases replaced
    exact ⟨payload, json, returned, encoded, renders⟩
  · obtain ⟨payload, returned⟩ : ∃ payload, BotXAPIReplyEventRequestPayload.fromDomain
        (fun _ => ⟨0⟩) emptyReplyEvent = .ok payload := ⟨_, rfl⟩
    obtain ⟨body, mentions, json, replaced, encoded, renders⟩ := reply _ payload returned
    cases replaced
    exact ⟨payload, json, returned, encoded, renders⟩
  · obtain ⟨payload, returned⟩ : ∃ payload, BotXAPIEditEventRequestPayload.fromDomain
        (fun _ => ⟨0⟩) clearingEditEvent = .ok payload := ⟨_, rfl⟩
    obtain ⟨replaced, json, found, encoded, renders⟩ := edit _ payload returned
    rcases replaced with _ | ⟨body, mentions⟩
    · cases found
    · cases found
      exact ⟨payload, json, returned, encoded, renders⟩

end Pybotx
