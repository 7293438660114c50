/-
Mentions embedded in a message body, and their replacement by API mentions.

The tags of embedded mentions are found by a regular expression with lazy runs.  The
loop that replaces them edits the body it searches; the results compare it with one
substitution at the places of the matches.
-/

import Pybotx.Foundation.Rewriting
import Pybotx.Foundation.Uuid
import Pybotx.Models.ApiBase
import Pybotx.Errors

set_option autoImplicit false

namespace Pybotx

open LazyPattern Rewriting

inductive MentionTypes where
  | contact
  | chat
  | channel
  | user
  | all
  deriving DecidableEq, Repr

def MentionTypes.value : MentionTypes → String
  | contact => "CONTACT"
  | chat => "CHAT"
  | channel => "CHANNEL"
  | user => "USER"
  | all => "ALL"

def MentionTypes.ofValue (value : String) : Result MentionTypes :=
  match [contact, chat, channel, user, all].find? (fun member => member.value = value) with
  | some member => .ok member
  | none => .error (.valueError ("'" ++ value ++ "' is not a valid MentionTypes"))

inductive BotAPIMentionTypes where
  | contact
  | chat
  | channel
  | user
  | all
  deriving DecidableEq, Repr

def BotAPIMentionTypes.value : BotAPIMentionTypes → String
  | contact => "contact"
  | chat => "chat"
  | channel => "channel"
  | user => "user"
  | all => "all"

def convertMentionTypeFromDomain : MentionTypes → BotAPIMentionTypes
  | .user => .user
  | .contact => .contact
  | .chat => .chat
  | .channel => .channel
  | .all => .all

inductive Mention where
  | user (entityId : UUID) (name : Option String)
  | contact (entityId : UUID) (name : Option String)
  | chat (entityId : UUID) (name : Option String)
  | channel (entityId : UUID) (name : Option String)
  | all
  deriving DecidableEq

namespace Mention

def type : Mention → MentionTypes
  | user _ _ => .user
  | contact _ _ => .contact
  | chat _ _ => .chat
  | channel _ _ => .channel
  | all => .all

def entityId : Mention → Option UUID
  | user entityId _ => some entityId
  | contact entityId _ => some entityId
  | chat entityId _ => some entityId
  | channel entityId _ => some entityId
  | all => none

def name : Mention → Option String
  | user _ name => name
  | contact _ name => name
  | chat _ name => name
  | channel _ name => name
  | all => none

end Mention

def openTag : List Char := "<embed_mention>".toList

def closeTag : List Char := "</embed_mention>".toList

def buildEmbedMention (mentionType : MentionTypes) (entityId : Option UUID)
    (name : Option String) : String :=
  "<embed_mention>" ++ mentionType.value ++ ":" ++ (entityId.elim "" UUID.str) ++ ":" ++
    name.getD "" ++ "</embed_mention>"

def Mention.str (mention : Mention) : String :=
  buildEmbedMention mention.type mention.entityId mention.name

structure BotXAPIPersonalMentionData where
  userHuid : UUID
  name : Missing String

structure BotXAPIGroupMentionData where
  groupChatId : UUID
  name : Missing String

inductive BotXAPIMention where
  | user (mentionId : UUID) (mentionData : BotXAPIPersonalMentionData)
  | contact (mentionId : UUID) (mentionData : BotXAPIPersonalMentionData)
  | chat (mentionId : UUID) (mentionData : BotXAPIGroupMentionData)
  | channel (mentionId : UUID) (mentionData : BotXAPIGroupMentionData)
  | all (mentionId : UUID)

namespace BotXAPIMention

def mentionType : BotXAPIMention → BotAPIMentionTypes
  | user _ _ => convertMentionTypeFromDomain .user
  | contact _ _ => convertMentionTypeFromDomain .contact
  | chat _ _ => convertMentionTypeFromDomain .chat
  | channel _ _ => convertMentionTypeFromDomain .channel
  | all _ => convertMentionTypeFromDomain .all

def mentionId : BotXAPIMention → UUID
  | user mentionId _ => mentionId
  | contact mentionId _ => mentionId
  | chat mentionId _ => mentionId
  | channel mentionId _ => mentionId
  | all mentionId => mentionId

def entityId : BotXAPIMention → Option UUID
  | user _ mentionData => some mentionData.userHuid
  | contact _ mentionData => some mentionData.userHuid
  | chat _ mentionData => some mentionData.groupChatId
  | channel _ mentionData => some mentionData.groupChatId
  | all _ => none

def name : BotXAPIMention → Missing String
  | user _ mentionData => mentionData.name
  | contact _ mentionData => mentionData.name
  | chat _ mentionData => mentionData.name
  | channel _ mentionData => mentionData.name
  | all _ => .undefined

def toBotxEmbedMentionFormat : BotXAPIMention → String
  | user mentionId _ => "@\x7bmention:" ++ mentionId.str ++ "\x7d"
  | contact mentionId _ => "@@\x7bmention:" ++ mentionId.str ++ "\x7d"
  | chat mentionId _ => "##\x7bmention:" ++ mentionId.str ++ "\x7d"
  | channel mentionId _ => "##\x7bmention:" ++ mentionId.str ++ "\x7d"
  | all mentionId => "@\x7bmention:" ++ mentionId.str ++ "\x7d"

end BotXAPIMention

/-! ### The regular expression and the loop -/

/-- `.` of a regular expression. -/
def dot (c : Char) : Bool :=
  c ≠ '\n'

/-- `[0-9a-f\-]`. -/
def idSymbol (c : Char) : Bool :=
  ('0' ≤ c && c ≤ '9') || ('a' ≤ c && c ≤ 'f') || c = '-'

def embedMentionRe : List (Item Char) :=
  [.lit openTag, .lazy dot 1, .lit [':'], .lazy idSymbol 0, .lit [':'], .lazy dot 0,
    .lit closeTag]

structure MentionDict where
  mentionType : String
  mentionedEntityId : String
  mentionName : String
  deriving DecidableEq

def embedMatch (text : List Char) : Option (MentionDict × List Char) :=
  match matchItems embedMentionRe text with
  | some ([mentionType, entityId, name], rest) =>
      some (⟨String.ofList mentionType, String.ofList entityId, String.ofList name⟩, rest)
  | _ => none

def entityUuid (text : String) : Result UUID :=
  match UUID.parse text with
  | some id => .ok id
  | none => .error (.valueError "badly formed hexadecimal UUID string")

/-- `mentionId` is the identifier that `uuid4` gives to this call. -/
def buildBotxApiEmbedMention (mentionId : UUID) (mentionDict : MentionDict) :
    Result BotXAPIMention := do
  let mentionType ← MentionTypes.ofValue mentionDict.mentionType
  let mentionName : Missing String :=
    if mentionDict.mentionName = "" then .undefined else .value mentionDict.mentionName
  match mentionType with
  | .user => do
      let userHuid ← entityUuid mentionDict.mentionedEntityId
      return .user mentionId ⟨userHuid, mentionName⟩
  | .contact => do
      let userHuid ← entityUuid mentionDict.mentionedEntityId
      return .contact mentionId ⟨userHuid, mentionName⟩
  | .chat => do
      let groupChatId ← entityUuid mentionDict.mentionedEntityId
      return .chat mentionId ⟨groupChatId, mentionName⟩
  | .channel => do
      let groupChatId ← entityUuid mentionDict.mentionedEntityId
      return .channel mentionId ⟨groupChatId, mentionName⟩
  | .all => return .all mentionId

def placeholder (mention : BotXAPIMention) : List Char :=
  mention.toBotxEmbedMentionFormat.toList

/-- The body of the `for`: the matches were found in the original text, `body` is the
text as far as it has been rewritten. -/
def embedMentionsLoop (ids : Nat → UUID) :
    Nat → List (Found Char MentionDict) → List Char → Result (List Char × List BotXAPIMention)
  | _, [], body => .ok (body, [])
  | k, found :: more, body => do
      let mention ← buildBotxApiEmbedMention (ids k) found.value
      let result ← embedMentionsLoop ids (k + 1) more
        (replaceFirst found.word (placeholder mention) body)
      return (result.1, mention :: result.2)

/-- `ids` are the identifiers `uuid4` will give, in order. -/
def findAndReplaceEmbedMentions (ids : Nat → UUID) (body : String) :
    Result (String × List BotXAPIMention) := do
  let result ← embedMentionsLoop ids 0 (finditer embedMatch body.toList).1 body.toList
  return (String.ofList result.1, result.2)

end Pybotx
