/-
How the text of a message is read: the key under which its handler is looked up, and what a
handler finds as its arguments.

Both go by the words of the body, but one tests the body itself for emptiness and the other
counts characters from its start.  Blanks tell the difference.
-/

import Pybotx.Bot.CommandDispatch
import Pybotx.Models.Message.Arguments

set_option autoImplicit false

namespace Pybotx

def Visible (body : String) : Prop :=
  ∃ c ∈ body.toList, Text.isSpace c = false

theorem not_visible_iff (body : String) :
    ¬ Visible body ↔ ∀ c ∈ body.toList, Text.isSpace c = true := by
  unfold Visible
  simp only [not_exists, not_and, Bool.not_eq_false]

theorem exists_firstWord_of_visible {body : String} (visible : Visible body) :
    ∃ first : Text.FirstWord, first.text = body.toList := by
  apply Text.exists_firstWord
  intro blank
  exact (not_visible_iff body).mpr blank visible

namespace CommandResource

variable {Handler : Type} (resource : CommandResource Handler)

/-- The handler is looked up under the first word, or under the empty text if there is none,
and the request that brings the message is acknowledged. -/
structure DispatchDefined (message : IncomingMessage) : Prop where
  found : resource.dispatch message =
    .ok (Dict.get ((Text.split message.body).headD "") resource.commands)
  acknowledged : ∀ (jwt : PyJWT) (now : Int) (scalars : Scalars)
    (execute : Handler → BotCommand → Option PyError) (rawCommand : Json)
    (headers : List (String × String)),
    resource.parseCommand jwt now scalars rawCommand (lowerKeys headers) =
        .ok (.message message) →
      (∀ handler, execute handler (.message message) = none) →
        (resource.onPost jwt now scalars execute (some rawCommand) headers).answer =
          .ok ⟨200, buildCommandAcceptedResponse⟩

theorem dispatch_of_split {message : IncomingMessage} {command : String} {rest : List String}
    (words : Text.split message.body = command :: rest) :
    resource.dispatch message = .ok (Dict.get command resource.commands) := by
  unfold dispatch
  by_cases empty : message.body = ""
  · rw [empty] at words
    cases words
  · rw [if_neg empty, words]

theorem dispatch_of_blank {message : IncomingMessage} (nonempty : message.body ≠ "")
    (words : Text.split message.body = []) : resource.dispatch message = .error .indexError := by
  unfold dispatch
  rw [if_neg nonempty, words]

theorem dispatch_found_iff (message : IncomingMessage) :
    resource.dispatch message =
        .ok (Dict.get ((Text.split message.body).headD "") resource.commands) ↔
      message.body = "" ∨ Visible message.body := by
  by_cases visible : Visible message.body
  · obtain ⟨first, body⟩ := exists_firstWord_of_visible visible
    have words := IncomingMessage.split_body body.symm
    rw [resource.dispatch_of_split words, words]
    exact ⟨fun _ => Or.inr visible, fun _ => rfl⟩
  · have words := message.split_body_of_blank ((not_visible_iff _).mp visible)
    by_cases empty : message.body = ""
    · constructor
      · intro _
        exact Or.inl empty
      · intro _
        unfold dispatch
        rw [if_pos empty, words]
        rfl
    · rw [resource.dispatch_of_blank empty words]
      constructor
      · intro impossible
        cases impossible
      · intro cause
        rcases cause with isEmpty | isVisible
        · exact absurd isEmpty empty
        · exact absurd isVisible visible

theorem onPost_answer_of_dispatch {message : IncomingMessage} {entry : Option Handler}
    (found : resource.dispatch message = .ok entry) (jwt : PyJWT) (now : Int) (scalars : Scalars)
    (execute : Handler → BotCommand → Option PyError) (rawCommand : Json)
    (headers : List (String × String))
    (parsed : resource.parseCommand jwt now scalars rawCommand (lowerKeys headers) =
      .ok (.message message))
    (returns : ∀ handler, execute handler (.message message) = none) :
    (resource.onPost jwt now scalars execute (some rawCommand) headers).answer =
      .ok ⟨200, buildCommandAcceptedResponse⟩ := by
  have request : (requestMedia (some rawCommand) >>= fun raw =>
      resource.parseCommand jwt now scalars raw (lowerKeys headers)) = .ok (.message message) :=
    parsed
  have handler : resource.handlerFor (.message message) = .ok entry := found
  unfold onPost
  simp only [request, handler]
  cases entry with
  | none => rfl
  | some command => simp only [returns command]

/-- Dispatch is defined except on a body of nothing but blanks. -/
theorem dispatchDefined_iff (message : IncomingMessage) :
    resource.DispatchDefined message ↔ message.body = "" ∨ Visible message.body := by
  constructor
  · intro defined
    exact (resource.dispatch_found_iff message).mp defined.found
  · intro cause
    have found := (resource.dispatch_found_iff message).mpr cause
    exact ⟨found, resource.onPost_answer_of_dispatch found⟩

end CommandResource

/-- A verified message of two blanks ends in an `IndexError`. -/
theorem blankBody_fails :
    ∃ message, demoCommands.parseCommand demoJwt 1030 .strict (.obj (demoMessage "  "))
        (lowerKeys demoHeaders) = .ok (.message message) ∧
      ¬ demoCommands.DispatchDefined message ∧
      (demoCommands.onPost demoJwt 1030 .strict (fun _ _ => none)
        (some (.obj (demoMessage "  "))) demoHeaders).answer = .error .indexError := by
  refine ⟨_, rfl, ?_, rfl⟩
  intro defined
  have found := defined.found
  cases found

/-! ### The arguments -/

/-- The command is the first word, the arguments are the others, and the argument is what
follows the command. -/
structure ArgumentsAgree (message : IncomingMessage) : Prop where
  arguments : message.arguments = (Text.split message.body).tail
  argument : ∀ command rest, Text.split message.body = command :: rest →
    message.argument = stripText (String.ofList
      (Text.afterOccurrence command.toList message.body.toList))
  nothing : (Text.split message.body).length ≤ 1 →
    message.argument = "" ∧ message.arguments = []
  dispatched : ∀ command rest, Text.split message.body = command :: rest →
    ∀ (Handler : Type) (resource : CommandResource Handler),
      resource.dispatch message = .ok (Dict.get command resource.commands)

def StartsVisible (body : String) : Prop :=
  ∀ c ∈ body.toList.head?, Text.isSpace c = false

theorem startsVisible_iff {body : String} {first : Text.FirstWord}
    (text : body.toList = first.text) : StartsVisible body ↔ first.blanks = [] := by
  unfold StartsVisible
  rw [text]
  unfold Text.FirstWord.text
  cases blanks : first.blanks with
  | nil =>
      obtain ⟨c, later, word⟩ := List.exists_cons_of_ne_nil first.nonempty
      have solid := first.solid c (word ▸ List.mem_cons_self)
      simp [word, solid]
  | cons blank others =>
      have isBlank := first.allBlank blank (blanks ▸ List.mem_cons_self)
      simp [isBlank]

theorem argumentsAgree_of_blank (message : IncomingMessage) (blank : ¬ Visible message.body) :
    ArgumentsAgree message := by
  have allBlank := (not_visible_iff _).mp blank
  have words := message.split_body_of_blank allBlank
  have noArguments := message.arguments_of_blank allBlank
  refine ⟨?_, ?_, ?_, ?_⟩
  · rw [noArguments, words]
    rfl
  · intro command rest impossible
    rw [words] at impossible
    cases impossible
  · intro _
    exact ⟨message.argument_of_blank allBlank, noArguments⟩
  · intro command rest impossible
    rw [words] at impossible
    cases impossible

theorem argumentsAgree_of_no_blanks (message : IncomingMessage) (first : Text.FirstWord)
    (body : message.body.toList = first.text) (noBlanks : first.blanks = []) :
    ArgumentsAgree message := by
  have words := IncomingMessage.split_body body
  have cut := IncomingMessage.drop_command_of_no_blanks noBlanks
  have argument := IncomingMessage.argument_eq body
  have arguments := IncomingMessage.arguments_eq body
  rw [cut] at argument arguments
  refine ⟨?_, ?_, ?_, ?_⟩
  · rw [arguments, words, List.tail_cons]
  · intro command rest same
    rw [words] at same
    cases same
    rw [argument, String.toList_ofList, body, first.afterOccurrence_text, stripText,
      String.toList_ofList]
  · intro few
    rw [words, List.length_cons, List.length_map] at few
    have noWords : Text.words first.rest = [] := List.length_eq_zero_iff.mp (by omega)
    have blank := (Text.words_eq_nil_iff _).mp noWords
    constructor
    · rw [argument, Text.strip, List.dropWhile_eq_nil_iff.mpr blank]
      rfl
    · rw [arguments, noWords]
      rfl
  · intro command rest same Handler resource
    exact resource.dispatch_of_split same

theorem not_argumentsAgree_of_blanks (message : IncomingMessage) (first : Text.FirstWord)
    (body : message.body.toList = first.text) (someBlanks : first.blanks ≠ []) :
    ¬ ArgumentsAgree message := by
  intro agree
  have arguments := agree.arguments
  obtain ⟨ending, left⟩ := IncomingMessage.words_drop_command_of_blanks someBlanks
  rw [IncomingMessage.arguments_eq body, IncomingMessage.split_body body, left, List.tail_cons,
    List.map_cons] at arguments
  have lengths := congrArg List.length arguments
  simp only [List.length_cons] at lengths
  omega

/-- The argument follows the command exactly if the body has no blanks before it. -/
theorem argumentsAgree_iff (message : IncomingMessage) :
    ArgumentsAgree message ↔ ¬ Visible message.body ∨ StartsVisible message.body := by
  by_cases visible : Visible message.body
  · obtain ⟨first, text⟩ := exists_firstWord_of_visible visible
    have body := text.symm
    rw [startsVisible_iff body]
    constructor
    · intro agree
      by_contra neither
      exact not_argumentsAgree_of_blanks message first body (fun noBlanks =>
        neither (Or.inr noBlanks)) agree
    · intro cause
      rcases cause with blank | noBlanks
      · exact absurd visible blank
      · exact argumentsAgree_of_no_blanks message first body noBlanks
  · constructor
    · intro _
      exact Or.inl visible
    · intro _
      exact argumentsAgree_of_blank message visible

/-- Two blanks before `/start` leave two letters of it in the argument. -/
theorem leadingBlanks_misread :
    ∃ message, demoCommands.parseCommand demoJwt 1030 .strict
        (.obj (demoMessage "  /start now")) (lowerKeys demoHeaders) = .ok (.message message) ∧
      message.argument = "rt now" ∧ ¬ ArgumentsAgree message := by
  refine ⟨_, rfl, rfl, ?_⟩
  intro agree
  have arguments := agree.arguments
  exact absurd arguments (by decide)

end Pybotx
