/-
The attachments of an edited message against those of a new one.

A sticker takes its emoji from the text it came with.  For an edit that is not the text of
the message but the name of the event.
-/

import Pybotx.Models.Message.Contents
import Pybotx.Models.Message.EntityConversion

set_option autoImplicit false

namespace Pybotx

open Returning

/-- A new message with this text and this attachment first holds what is kept. -/
def SameInMessage (text : String) (attachment : BotAPIAttachment) (kept : IncomingAttachment) :
    Prop :=
  ∀ (message : BotAPIIncomingMessage) (rawCommand : List (String × Json)),
    message.payload.body = text → message.attachments.head? = some (.known attachment) →
      (∀ item ∈ message.entities, item.Passes) →
        ∃ converted, message.toDomain rawCommand = .ok converted ∧ converted.Holds (some kept)

/-- Each attachment of the edit is the one a new message with the new text would hold. -/
def ConvertsAlike (event : BotAPIEventEdit) (edited : EventEdit) : Prop :=
  ∀ text, event.data.body = some text →
    List.Forall₂ (SameInMessage text) event.attachments edited.attachments

/-- A new message of the author of an edit, with one attachment. -/
def BotAPIEventEdit.asMessage (event : BotAPIEventEdit) (text : String)
    (attachment : BotAPIAttachment) : BotAPIIncomingMessage where
  toBotAPIBaseCommand := event.toBotAPIBaseCommand
  payload := ⟨text, [], []⟩
  sender :=
    { host := event.sender.host
      toBotAPIUserFields := event.sender.toBotAPIUserFields
      toBotAPIChatFields := ⟨event.sender.groupChatId, APIChatTypes.chat.value⟩
      toBotAPIDeviceFields := ⟨none, none, none, none, none, none, none, none⟩ }
  sourceSyncId := none
  attachments := [.known attachment]
  entities := []

theorem convertApiAttachmentToDomain_of_not_sticker (attachment : BotAPIAttachment)
    (notSticker : attachment.type ≠ "sticker") (text other : String) :
    convertApiAttachmentToDomain attachment text =
      convertApiAttachmentToDomain attachment other := by
  cases attachment with
  | sticker data => exact absurd rfl notSticker
  | _ => rfl

theorem firstAttachment_of_head {attachments : List (Item BotAPIAttachment)}
    {attachment : BotAPIAttachment} {text : String} {kept : IncomingAttachment}
    (head : attachments.head? = some (.known attachment))
    (converts : convertApiAttachmentToDomain attachment text = .ok kept) :
    firstAttachment attachments text = .ok (some kept) := by
  cases attachments with
  | nil => cases head
  | cons first rest =>
      cases head
      rw [firstAttachment, converts]
      rfl

theorem sameInMessage_of_converts {text : String} {attachment : BotAPIAttachment}
    {kept : IncomingAttachment}
    (converts : convertApiAttachmentToDomain attachment text = .ok kept) :
    SameInMessage text attachment kept := by
  intro message rawCommand body head passes
  rw [← body] at converts
  have first := firstAttachment_of_head head converts
  obtain ⟨converted, returned⟩ :=
    (message.toDomain_returns_iff rawCommand).mpr ⟨⟨_, first⟩, passes⟩
  exact ⟨converted, returned, message.toDomain_holds rawCommand converted _ first returned⟩

theorem IncomingMessage.Holds.sticker_unique {message : IncomingMessage} {first second : Sticker}
    (here : message.Holds (some (.sticker first))) (there : message.Holds (some (.sticker second))) :
    first = second := by
  have present := (here.sticker first).mpr rfl
  have same := (there.sticker first).mp present
  cases same
  rfl

/-- An attachment of an edit is that of a new message unless it is a sticker. -/
theorem sameInMessage_iff (event : BotAPIEventEdit) (text : String)
    (attachment : BotAPIAttachment) (kept : IncomingAttachment)
    (converts : convertApiAttachmentToDomain attachment BotAPISystemEventTypes.eventEdit.value =
      .ok kept) :
    SameInMessage text attachment kept ↔
      attachment.type ≠ "sticker" ∨ text = BotAPISystemEventTypes.eventEdit.value := by
  constructor
  · intro same
    cases attachment with
    | sticker data =>
        right
        cases converts
        let message := event.asMessage text (.sticker data)
        have passes : ∀ item ∈ message.entities, item.Passes := by
          intro item impossible
          cases impossible
        obtain ⟨converted, returned, holds⟩ := same message [] rfl rfl passes
        have expected := message.toDomain_holds [] converted _ rfl returned
        exact congrArg Sticker.emoji (expected.sticker_unique holds)
    | _ =>
        left
        simp [BotAPIAttachment.type]
  · intro sufficient
    rcases sufficient with notSticker | sameText
    · apply sameInMessage_of_converts
      rw [convertApiAttachmentToDomain_of_not_sticker attachment notSticker text]
      exact converts
    · rw [sameText]
      exact sameInMessage_of_converts converts

private theorem forall₂_iff_of_forall₂ {α β : Type} {related goal : α → β → Prop}
    {condition : α → Prop} (each : ∀ x y, related x y → (goal x y ↔ condition x))
    {xs : List α} {ys : List β} (pairs : List.Forall₂ related xs ys) :
    List.Forall₂ goal xs ys ↔ ∀ x ∈ xs, condition x := by
  induction pairs with
  | nil => simp
  | cons here _ ih => rw [List.forall₂_cons, List.forall_mem_cons, each _ _ here, ih]

theorem BotAPIEventEdit.toDomain_attachments (event : BotAPIEventEdit)
    (rawCommand : List (String × Json)) (edited : EventEdit)
    (returned : event.toDomain rawCommand = .ok edited) :
    List.Forall₂ (fun attachment kept => convertApiAttachmentToDomain attachment
      BotAPISystemEventTypes.eventEdit.value = .ok kept) event.attachments edited.attachments := by
  unfold toDomain at returned
  obtain ⟨attachments, converted, returned⟩ := (Result.bind_eq_ok _ _ _).mp returned
  obtain ⟨entities, _, returned⟩ := (Result.bind_eq_ok _ _ _).mp returned
  cases returned
  exact (mapM_eq_ok_iff _ _ _).mp converted

theorem convertsAlike_iff_forall {event : BotAPIEventEdit} {rawCommand : List (String × Json)}
    {edited : EventEdit} (returned : event.toDomain rawCommand = .ok edited) :
    ConvertsAlike event edited ↔
      ∀ text, event.data.body = some text → ∀ attachment ∈ event.attachments,
        attachment.type ≠ "sticker" ∨ text = BotAPISystemEventTypes.eventEdit.value := by
  apply forall₂_congr
  intro text _
  exact forall₂_iff_of_forall₂ (sameInMessage_iff event text)
    (event.toDomain_attachments rawCommand edited returned)

/-- Edited and new messages agree exactly if no sticker is among the attachments, unless
the new text happens to be the name of the event. -/
theorem eventEdit_convertsAlike_iff (event : BotAPIEventEdit) (rawCommand : List (String × Json))
    (edited : EventEdit) (returned : event.toDomain rawCommand = .ok edited) :
    ConvertsAlike event edited ↔
      (∀ attachment ∈ event.attachments, attachment.type ≠ "sticker") ∨
        ∀ text, event.data.body = some text →
          text = BotAPISystemEventTypes.eventEdit.value := by
  rw [convertsAlike_iff_forall returned]
  constructor
  · intro alike
    by_cases stickers : ∀ attachment ∈ event.attachments, attachment.type ≠ "sticker"
    · exact Or.inl stickers
    · right
      intro text given
      push Not at stickers
      obtain ⟨attachment, member, sticker⟩ := stickers
      rcases alike text given attachment member with notSticker | same
      · exact absurd sticker notSticker
      · exact same
  · intro sufficient text given attachment member
    rcases sufficient with none | same
    · exact Or.inl (none attachment member)
    · exact Or.inr (same text given)

def demoEdit (attachment : Json) : Json :=
  .obj [("bot_id", .str "24348246-6791-4ac0-9d86-b948cd6a0e46"),
    ("sync_id", .str "6f40a492-4b5f-54f3-87ee-77126d825b51"), ("proto_version", .int 4),
    ("command", .obj [("body", .str "system:event_edit"), ("command_type", .str "system"),
      ("data", .obj [("body", .str "Hello")])]),
    ("from", .obj [("host", .str "cts.example.com"),
      ("user_huid", .str "ab103983-6001-44e9-889e-d55feb295494"),
      ("group_chat_id", .str "8dada2c8-67a6-4434-9dec-570d244e78ee")]),
    ("attachments", .arr [attachment]), ("entities", .arr [])]

theorem eventEdit_convertsAlike_iff_contact :
    ∃ event edited, BotAPIEventEdit.check .strict (demoEdit (.obj [("type", .str "contact"),
        ("data", .obj [("contact_name", .str "Ivan")])])) = .valid event ∧
      event.toDomain [] = .ok edited ∧ ConvertsAlike event edited := by
  refine ⟨_, _, rfl, rfl, (eventEdit_convertsAlike_iff _ [] _ rfl).mpr (Or.inl ?_)⟩
  rw [List.forall_mem_singleton]
  simp [BotAPIAttachment.type]

/-- The emoji of a sticker in an edit to `Hello` is `system:event_edit`. -/
theorem editedSticker_differs :
    ∃ event edited, BotAPIEventEdit.check .strict (demoEdit (.obj [("type", .str "sticker"),
        ("data", .obj [("id", .str "75bb24c9-7c08-5db0-ae3e-085929e80c54"), ("link", .str "/s.png"),
          ("pack", .str "26080153-a57d-5a8c-af0e-fdecee3c4435")])])) = .valid event ∧
      event.toDomain [] = .ok edited ∧ ¬ ConvertsAlike event edited := by
  refine ⟨_, _, rfl, rfl, ?_⟩
  intro alike
  rcases (convertsAlike_iff_forall rfl).mp alike "Hello" rfl _ List.mem_cons_self with
    notSticker | sameText
  · exact notSticker rfl
  · exact absurd sameText (by decide)

end Pybotx
