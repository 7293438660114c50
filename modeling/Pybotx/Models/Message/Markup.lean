/-
Buttons under a message and the object that is sent for them.
-/

import Pybotx.Models.ApiBase

set_option autoImplicit false

namespace Pybotx

inductive ButtonTextAlign where
  | left
  | center
  | right
  deriving DecidableEq, Repr

def ButtonTextAlign.value : ButtonTextAlign → String
  | left => "left"
  | center => "center"
  | right => "right"

structure Button where
  label : String
  command : Missing String
  data : List (String × Json)
  textColor : Missing String
  backgroundColor : Missing String
  align : ButtonTextAlign
  silent : Bool
  widthRatio : Missing Int
  alert : Missing String
  processOnClient : Missing Bool
  link : Missing String

/-- `BubbleMarkup` and `KeyboardMarkup` differ in name only. -/
structure BaseMarkup where
  buttons : List (List Button)

abbrev BubbleMarkup := BaseMarkup

abbrev KeyboardMarkup := BaseMarkup

structure BotXAPIButtonOptions where
  silent : Missing Bool
  fontColor : Missing String
  backgroundColor : Missing String
  align : Missing ButtonTextAlign
  hSize : Missing Int
  showAlert : Missing Unit
  alertText : Missing String
  handler : Missing Unit
  link : Missing String

structure BotXAPIButton where
  command : Missing String
  label : String
  data : List (String × Json)
  opts : BotXAPIButtonOptions

structure BotXAPIMarkup where
  root : List (List BotXAPIButton)

/-- `show_alert` can only be `True` and `handler` only `"client"`. -/
def apiButtonFromDomain (button : Button) : BotXAPIButton :=
  let showAlert : Missing Unit := button.alert.map fun _ => ()
  let handler : Missing Unit :=
    if button.processOnClient = .value true then .value () else .undefined
  let handler : Missing Unit := if button.link = .undefined then handler else .value ()
  { command := button.command
    label := button.label
    data := button.data
    opts :=
      { silent := .value button.silent
        fontColor := button.textColor
        backgroundColor := button.backgroundColor
        align := .value button.align
        hSize := button.widthRatio
        alertText := button.alert
        showAlert := showAlert
        handler := handler
        link := button.link } }

def apiMarkupFromDomain (markup : BaseMarkup) : BotXAPIMarkup :=
  { root := markup.buttons.map fun buttons => buttons.map apiButtonFromDomain }

namespace BotXAPIButtonOptions

def modelDump (opts : BotXAPIButtonOptions) : PyValue :=
  .dict [("silent", opts.silent.toPyValue .bool),
    ("font_color", opts.fontColor.toPyValue .str),
    ("background_color", opts.backgroundColor.toPyValue .str),
    ("align", opts.align.toPyValue fun align => .str align.value),
    ("h_size", opts.hSize.toPyValue .int),
    ("show_alert", opts.showAlert.toPyValue fun _ => .bool true),
    ("alert_text", opts.alertText.toPyValue .str),
    ("handler", opts.handler.toPyValue fun _ => .str "client"),
    ("link", opts.link.toPyValue .str)]

end BotXAPIButtonOptions

def BotXAPIButton.modelDump (button : BotXAPIButton) : PyValue :=
  .dict [("command", button.command.toPyValue .str),
    ("label", .str button.label),
    ("data", PyValue.ofJson (.obj button.data)),
    ("opts", button.opts.modelDump)]

def BotXAPIMarkup.modelDump (markup : BotXAPIMarkup) : PyValue :=
  .list (markup.root.map fun buttons => .list (buttons.map BotXAPIButton.modelDump))

def Button.onClient (button : Button) : Prop :=
  button.processOnClient = .value true ∨ button.link ≠ .undefined

instance (button : Button) : Decidable button.onClient := by
  unfold Button.onClient
  infer_instance

def buttonOptionShapes (button : Button) : List (String × Sparse) :=
  [("silent", .leaf (some (.bool button.silent))),
    ("font_color", .leaf (button.textColor.toOption.map .str)),
    ("background_color", .leaf (button.backgroundColor.toOption.map .str)),
    ("align", .leaf (some (.str button.align.value))),
    ("h_size", .leaf (button.widthRatio.toOption.map .int)),
    ("show_alert", .leaf (button.alert.toOption.map fun _ => .bool true)),
    ("alert_text", .leaf (button.alert.toOption.map .str)),
    ("handler", .leaf (if button.onClient then some (.str "client") else none)),
    ("link", .leaf (button.link.toOption.map .str))]

def buttonShapes (button : Button) : List (String × Sparse) :=
  [("command", .leaf (button.command.toOption.map .str)),
    ("label", .leaf (some (.str button.label))),
    ("data", .leaf (some (.obj button.data))),
    ("opts", .group (buttonOptionShapes button))]

def buttonJson (button : Button) : Json :=
  .obj (Sparse.renderFields (buttonShapes button))

def markupJson (markup : BaseMarkup) : Json :=
  .arr (markup.buttons.map fun row => .arr (row.map buttonJson))

open PyValue

private theorem dumps_options (button : Button) :
    prune (apiButtonFromDomain button).opts.modelDump =
      (Sparse.group (buttonOptionShapes button)).render := by
  refine prune_dict_eq_render (by simp) ?_
  refine .cons rfl (.cons ?_ (.cons ?_ (.cons rfl (.cons ?_ (.cons ?_ (.cons ?_ (.cons ?_
    (.cons ?_ .nil))))))))
  · exact prune_toPyValue .str .str (fun _ => rfl) button.textColor
  · exact prune_toPyValue .str .str (fun _ => rfl) button.backgroundColor
  · exact prune_toPyValue .int .int (fun _ => rfl) button.widthRatio
  · cases shown : button.alert <;> simp [apiButtonFromDomain, shown, Missing.map,
      Missing.toPyValue, Missing.toOption, Sparse.render]
  · exact prune_toPyValue .str .str (fun _ => rfl) button.alert
  · by_cases linked : button.link = .undefined
    · by_cases pressed : button.processOnClient = .value true
      · simp [apiButtonFromDomain, linked, pressed, Button.onClient, Missing.toPyValue,
          Sparse.render]
      · simp [apiButtonFromDomain, linked, pressed, Button.onClient, Missing.toPyValue,
          Sparse.render]
    · simp [apiButtonFromDomain, linked, Button.onClient, Missing.toPyValue, Sparse.render]
  · exact prune_toPyValue .str .str (fun _ => rfl) button.link

theorem render_button (button : Button) :
    (Sparse.group (buttonShapes button)).render = some (buttonJson button) := by
  rw [Sparse.render, buttonJson]
  cases fields : Sparse.renderFields (buttonShapes button) with
  | nil =>
      have label := (Sparse.renderFields_eq_nil_iff _).mp fields
        ("label", .leaf (some (.str button.label))) (by simp [buttonShapes])
      cases label
  | cons first rest => rfl

theorem prune_button (button : Button) :
    prune (apiButtonFromDomain button).modelDump = some (buttonJson button) := by
  have dumps : Dumps
      [("command", button.command.toPyValue .str), ("label", .str button.label),
        ("data", PyValue.ofJson (.obj button.data)),
        ("opts", (apiButtonFromDomain button).opts.modelDump)]
      (buttonShapes button) :=
    .cons (prune_toPyValue .str .str (fun _ => rfl) button.command)
      (.cons rfl (.cons (prune_ofJson _) (.cons (dumps_options button) .nil)))
  have rendered : prune (apiButtonFromDomain button).modelDump =
      (Sparse.group (buttonShapes button)).render :=
    prune_dict_eq_render (by simp) dumps
  rw [rendered, render_button]

private theorem prune_row (row : List Button) :
    prune (.list ((row.map apiButtonFromDomain).map BotXAPIButton.modelDump)) =
      some (.arr (row.map buttonJson)) := by
  rw [List.map_map]
  exact prune_list_of_kept row _ _ fun button _ => prune_button button

theorem prune_markup (markup : BaseMarkup) :
    prune (apiMarkupFromDomain markup).modelDump = some (markupJson markup) := by
  unfold BotXAPIMarkup.modelDump apiMarkupFromDomain markupJson
  rw [List.map_map]
  exact prune_list_of_kept markup.buttons _ _ fun row _ => prune_row row

theorem jsonableDict_markup (markup : BaseMarkup) :
    jsonableDict (apiMarkupFromDomain markup).modelDump = some (markupJson markup) := by
  unfold BotXAPIMarkup.modelDump apiMarkupFromDomain markupJson
  have sent := filterMap_prune_of_kept markup.buttons _ _ fun row _ => prune_row row
  rw [List.map_map, jsonableDict_list]
  exact congrArg (fun rows => some (Json.arr rows)) sent

end Pybotx
