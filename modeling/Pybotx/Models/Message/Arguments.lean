/-
The argument and the arguments of a message.

The argument is cut off by the length of the command, counted from the start of the body.
-/

import Pybotx.Foundation.Words
import Pybotx.Models.Message.IncomingMessage

set_option autoImplicit false

namespace Pybotx

def stripText (text : String) : String :=
  String.ofList (Text.strip Text.isSpace text.toList)

namespace IncomingMessage

variable (message : IncomingMessage)

def argument : String :=
  match Text.split message.body with
  | [] => ""
  | command :: _ => stripText (String.ofList (message.body.toList.drop command.length))

def arguments : List String :=
  (Text.split message.argument).map stripText

theorem split_body_of_blank (blank : ∀ c ∈ message.body.toList, Text.isSpace c = true) :
    Text.split message.body = [] := by
  unfold Text.split
  rw [(Text.words_eq_nil_iff _).mpr blank, List.map_nil]

theorem argument_of_blank (blank : ∀ c ∈ message.body.toList, Text.isSpace c = true) :
    message.argument = "" := by
  unfold argument
  rw [message.split_body_of_blank blank]

theorem arguments_of_blank (blank : ∀ c ∈ message.body.toList, Text.isSpace c = true) :
    message.arguments = [] := by
  unfold arguments
  rw [message.argument_of_blank blank]
  rfl

variable {message} {first : Text.FirstWord}

theorem split_body (body : message.body.toList = first.text) :
    Text.split message.body =
      String.ofList first.word :: (Text.words first.rest).map String.ofList := by
  unfold Text.split
  rw [body, first.words_text, List.map_cons]

theorem argument_eq (body : message.body.toList = first.text) :
    message.argument =
      String.ofList (Text.strip Text.isSpace (first.text.drop first.word.length)) := by
  unfold argument stripText
  rw [split_body body]
  simp only [body, String.toList_ofList, String.length_ofList]

theorem arguments_eq (body : message.body.toList = first.text) :
    message.arguments =
      (Text.words (first.text.drop first.word.length)).map String.ofList := by
  unfold arguments Text.split
  rw [argument_eq body, String.toList_ofList, Text.words_strip, List.map_map]
  apply List.map_congr_left
  intro word member
  have solid := (Text.mem_words _ word member).2
  simp only [Function.comp_apply, stripText, String.toList_ofList, Text.strip_of_solid _ word solid]

/-- Without leading blanks the cut leaves what follows the command. -/
theorem drop_command_of_no_blanks (noBlanks : first.blanks = []) :
    first.text.drop first.word.length = first.rest := by
  unfold Text.FirstWord.text
  rw [noBlanks, List.nil_append, List.drop_left]

/-- After leading blanks the cut leaves an end of the command. -/
theorem words_drop_command_of_blanks (someBlanks : first.blanks ≠ []) :
    ∃ ending, Text.words (first.text.drop first.word.length) =
      ending :: Text.words first.rest := by
  let left := first.word.drop (first.word.length - first.blanks.length)
  have positive := List.length_pos_iff.mpr someBlanks
  have wordPositive := List.length_pos_iff.mpr first.nonempty
  have nonempty : left ≠ [] := by
    apply List.ne_nil_of_length_pos
    simp only [left, List.length_drop]
    omega
  have solid : ∀ c ∈ left, Text.isSpace c = false :=
    fun c member => first.solid c (List.mem_of_mem_drop member)
  have blank : ∀ c ∈ first.blanks.drop first.word.length, Text.isSpace c = true :=
    fun c member => first.allBlank c (List.mem_of_mem_drop member)
  have fits : first.word.length - first.blanks.length ≤ first.word.length := Nat.sub_le _ _
  refine ⟨left, ?_⟩
  unfold Text.FirstWord.text
  rw [List.drop_append, List.drop_append_of_le_length fits, Text.words_blanks_append _ _ blank,
    Text.words_word_append _ _ nonempty solid first.ends]

end IncomingMessage

end Pybotx
