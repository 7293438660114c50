/-
Building a markup call by call, and the rows that are sent for it.

The rows are described apart from the building: each call that does not raise opens a row or
joins the last one, and the rows are read off the list of calls.
-/

import Pybotx.Errors
import Pybotx.Foundation.Rows
import Pybotx.Models.Message.Markup

set_option autoImplicit false

namespace Pybotx

/-- A method of a markup: what it did before it raised stays done. -/
abbrev MarkupMethod (α : Type) := ExceptT PyError (StateM BaseMarkup) α

def Button.postInit (button : Button) : Result Unit :=
  if button.command = .undefined ∧ button.link = .undefined then
    .error (.valueError "Either 'command' or 'link' must be provided")
  else .ok ()

structure AddButtonArgs where
  label : String
  command : Missing String := .undefined
  data : Option (List (String × Json)) := none
  textColor : Missing String := .undefined
  backgroundColor : Missing String := .undefined
  align : ButtonTextAlign := .center
  silent : Bool := true
  widthRatio : Missing Int := .undefined
  alert : Missing String := .undefined
  processOnClient : Missing Bool := .undefined
  link : Missing String := .undefined
  newRow : Bool := true

def AddButtonArgs.button (args : AddButtonArgs) : Button :=
  { command := args.command
    label := args.label
    data := args.data.getD []
    textColor := args.textColor
    backgroundColor := args.backgroundColor
    align := args.align
    silent := args.silent
    widthRatio := args.widthRatio
    alert := args.alert
    processOnClient := args.processOnClient
    link := args.link }

namespace BaseMarkup

def init (buttons : Option (List (List Button))) : BaseMarkup :=
  { buttons := buttons.getD [] }

def append (row : List Button) : MarkupMethod Unit :=
  modify fun markup => { markup with buttons := markup.buttons ++ [row] }

def appendToLast (button : Button) : MarkupMethod Unit := do
  match (← get).buttons.getLast? with
  | none => throw .indexError
  | some row =>
      modify fun markup =>
        { markup with buttons := markup.buttons.dropLast ++ [row ++ [button]] }

def addBuiltButton (button : Button) (newRow : Bool) : MarkupMethod Unit := do
  if newRow then
    append [button]
    return
  if (← get).buttons.isEmpty then
    append []
  appendToLast button

def addButton (args : AddButtonArgs) : MarkupMethod Unit := do
  if args.link = .undefined ∧ args.command = .undefined then
    throw (.valueError "Command arg is required if link is undefined.")
  args.button.postInit
  addBuiltButton args.button args.newRow

def addRow (buttonRow : List Button) : MarkupMethod Unit :=
  append buttonRow

end BaseMarkup

def BotXAPIMarkup.jsonableDict (markup : BotXAPIMarkup) : Option Json :=
  PyValue.jsonableDict markup.modelDump

inductive MarkupCall where
  | addButton (args : AddButtonArgs)
  | addBuiltButton (button : Button) (newRow : Bool)
  | addRow (buttonRow : List Button)

namespace MarkupCall

/-- What the call returns or raises, and the markup after it. -/
def run (call : MarkupCall) (markup : BaseMarkup) : Result Unit × BaseMarkup :=
  let method : MarkupMethod Unit :=
    match call with
    | addButton args => BaseMarkup.addButton args
    | addBuiltButton button newRow => BaseMarkup.addBuiltButton button newRow
    | addRow buttonRow => BaseMarkup.addRow buttonRow
  StateT.run method.run markup

/-- The calls in order, each on the markup the one before it left, also if it raised. -/
def runAll (calls : List MarkupCall) (markup : BaseMarkup) : BaseMarkup :=
  calls.foldl (fun markup call => (call.run markup).2) markup

/-- A call for a button with neither a command nor a link describes nothing. -/
def entry : MarkupCall → Option (Rows.Entry Button)
  | addButton args =>
      if args.command = .undefined ∧ args.link = .undefined then none
      else if args.newRow then some (.opens [args.button])
      else some (.joins args.button)
  | addBuiltButton button newRow =>
      if newRow then some (.opens [button]) else some (.joins button)
  | addRow buttonRow => some (.opens buttonRow)

def describedRows (start : List (List Button)) (calls : List MarkupCall) : List (List Button) :=
  Rows.described start (calls.filterMap entry)

end MarkupCall

def buttonLeaves (button : Button) : List (List String × Option Json) :=
  [(["command"], button.command.toOption.map .str),
    (["label"], some (.str button.label)),
    (["data"], some (.obj button.data)),
    (["opts", "silent"], some (.bool button.silent)),
    (["opts", "font_color"], button.textColor.toOption.map .str),
    (["opts", "background_color"], button.backgroundColor.toOption.map .str),
    (["opts", "align"], some (.str button.align.value)),
    (["opts", "h_size"], button.widthRatio.toOption.map .int),
    (["opts", "show_alert"], button.alert.toOption.map fun _ => .bool true),
    (["opts", "alert_text"], button.alert.toOption.map .str),
    (["opts", "handler"], if button.onClient then some (.str "client") else none),
    (["opts", "link"], button.link.toOption.map .str)]

def SendsRows (rows : List (List Button)) (json : Json) : Prop :=
  ∃ sent, json = .arr sent ∧ List.Forall₂ (fun row sentRow => ∃ objects, sentRow = .arr objects ∧
    List.Forall₂ (fun button => Sparse.Renders (buttonLeaves button)) row objects) rows sent

namespace BaseMarkup

private theorem run_get_bind (next : BaseMarkup → MarkupMethod Unit) (markup : BaseMarkup) :
    (get >>= next).run.run markup = (next markup).run.run markup :=
  rfl

private theorem run_appendToLast (button : Button) (rows : List (List Button))
    (row : List Button) :
    (appendToLast button).run.run ⟨rows ++ [row]⟩ = (.ok (), ⟨rows ++ [row ++ [button]]⟩) := by
  rw [appendToLast, run_get_bind, List.getLast?_concat]
  change (Except.ok (), BaseMarkup.mk ((rows ++ [row]).dropLast ++ [row ++ [button]])) = _
  rw [List.dropLast_concat]

private theorem run_addBuiltButton_joins (button : Button) (rows : List (List Button)) :
    (addBuiltButton button false).run.run ⟨rows⟩ = (.ok (), ⟨Rows.joined rows [button]⟩) := by
  rcases List.eq_nil_or_concat rows with rfl | ⟨front, row, rfl⟩
  · rfl
  · have nonempty : (front ++ [row]).isEmpty ≠ true := by simp
    rw [List.concat_eq_append, addBuiltButton, if_neg Bool.false_ne_true, run_get_bind,
      if_neg nonempty, run_appendToLast, Rows.joined_concat]

/-- The second check never fires: `add_button` has made it before. -/
private theorem run_addButton (args : AddButtonArgs) (markup : BaseMarkup)
    (given : ¬ (args.command = .undefined ∧ args.link = .undefined)) :
    (addButton args).run.run markup = (addBuiltButton args.button args.newRow).run.run markup := by
  have built : args.button.postInit = .ok () := by
    rw [Button.postInit, if_neg]
    exact given
  rw [addButton, if_neg fun absent => given absent.symm, built]
  rfl

end BaseMarkup

namespace MarkupCall

theorem run_of_entry (call : MarkupCall) (entry : Rows.Entry Button)
    (described : call.entry = some entry) (markup : BaseMarkup) :
    call.run markup = (.ok (), ⟨Rows.place markup.buttons entry⟩) := by
  have built (button : Button) (newRow : Bool)
      (described : (addBuiltButton button newRow).entry = some entry) :
      (addBuiltButton button newRow).run markup =
        (.ok (), ⟨Rows.place markup.buttons entry⟩) := by
    cases newRow with
    | true =>
        cases described
        rfl
    | false =>
        cases described
        exact BaseMarkup.run_addBuiltButton_joins button markup.buttons
  cases call with
  | addButton args =>
      by_cases absent : args.command = .undefined ∧ args.link = .undefined
      · rw [MarkupCall.entry, if_pos absent] at described
        cases described
      · rw [MarkupCall.entry, if_neg absent] at described
        exact (BaseMarkup.run_addButton args markup absent).trans (built _ _ described)
  | addBuiltButton button newRow => exact built button newRow described
  | addRow buttonRow =>
      cases described
      rfl

theorem run_of_none (call : MarkupCall) (described : call.entry = none) (markup : BaseMarkup) :
    call.run markup =
      (.error (.valueError "Command arg is required if link is undefined."), markup) := by
  cases call with
  | addButton args =>
      by_cases absent : args.command = .undefined ∧ args.link = .undefined
      · change (BaseMarkup.addButton args).run.run markup = _
        rw [BaseMarkup.addButton, if_pos absent.symm]
        rfl
      · rw [entry, if_neg absent] at described
        cases newRow : args.newRow <;> simp [newRow] at described
  | addBuiltButton button newRow => cases newRow <;> cases described
  | addRow buttonRow => cases described

/-! ### A run of calls -/

theorem runAll_buttons (calls : List MarkupCall) (markup : BaseMarkup) :
    (runAll calls markup).buttons = describedRows markup.buttons calls := by
  rw [describedRows, ← Rows.foldl_place]
  induction calls generalizing markup with
  | nil => rfl
  | cons call calls ih =>
      change (runAll calls (call.run markup).2).buttons = _
      rw [ih, List.filterMap_cons]
      cases described : call.entry with
      | none => rw [run_of_none call described]
      | some entry =>
          rw [run_of_entry call entry described]
          rfl

end MarkupCall

theorem buttonJson_renders (button : Button) :
    Sparse.Renders (buttonLeaves button) (buttonJson button) :=
  Sparse.renders_of_render (.group (buttonShapes button)) rfl _ (render_button button)

theorem jsonableDict_sendsRows (markup : BaseMarkup) :
    ∃ json, (apiMarkupFromDomain markup).jsonableDict = some json ∧
      SendsRows markup.buttons json := by
  refine ⟨_, jsonableDict_markup markup, _, rfl, ?_⟩
  rw [List.forall₂_map_right_iff, List.forall₂_same]
  intro row _
  refine ⟨_, rfl, ?_⟩
  rw [List.forall₂_map_right_iff, List.forall₂_same]
  intro button _
  exact buttonJson_renders button

example :
    (apiMarkupFromDomain (MarkupCall.runAll
      [.addButton { label := "Open me", link := .value "https://example.com" },
        .addButton { label := "Dropped" }, .addRow []] (.init none))).jsonableDict =
      some (.arr [.arr [.obj [("label", .str "Open me"), ("data", .obj []),
        ("opts", .obj [("silent", .bool true), ("align", .str "center"),
          ("handler", .str "client"), ("link", .str "https://example.com")])]], .arr []]) :=
  rfl

end Pybotx
