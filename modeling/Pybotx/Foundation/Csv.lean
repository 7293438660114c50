/-
Tables in comma-separated text.

The reader is a machine that takes a text line by line: the symbols of each line and then
its end.  It has one state outside quotes, one inside and one after a quote inside, and it
is lenient: after a closing quote it goes on with the field.

A table has many spellings.  A field may be quoted or not, and the lines may end in any of
three ways.  The reader reads all of them back.
-/

import Mathlib

set_option autoImplicit false

namespace Csv

/-- The symbols of the lines of a text, with the end of each line as `none`.  A last line
without a terminator ends too, once it has begun. -/
def events : Bool → List Char → List (Option Char)
  | begun, [] => if begun then [none] else []
  | _, '\r' :: '\n' :: rest => some '\r' :: some '\n' :: none :: events false rest
  | _, '\r' :: rest => some '\r' :: none :: events false rest
  | _, '\n' :: rest => some '\n' :: none :: events false rest
  | _, c :: rest => some c :: events true rest

def isNewline (c : Char) : Bool :=
  c = '\r' || c = '\n'

inductive Phase where
  | startRecord
  | startField
  | inField
  | inQuotedField
  | quoteInQuotedField
  | eatCrnl
  deriving DecidableEq

inductive Failure where
  | fieldLimit
  | strayNewline
  deriving DecidableEq

structure Reader where
  phase : Phase
  row : List (List Char)
  field : List Char

namespace Reader

def start : Reader where
  phase := .startRecord
  row := []
  field := []

def save (reader : Reader) (phase : Phase) : Reader where
  phase := phase
  row := reader.row ++ [reader.field]
  field := []

def add (limit : Nat) (reader : Reader) (phase : Phase) (c : Char) : Except Failure Reader :=
  if reader.field.length < limit then
    .ok { reader with phase := phase, field := reader.field ++ [c] }
  else .error .fieldLimit

def startField (limit : Nat) (reader : Reader) (c : Char) : Except Failure Reader :=
  if isNewline c then .ok (reader.save .eatCrnl)
  else if c = '"' then .ok { reader with phase := .inQuotedField }
  else if c = ',' then .ok (reader.save .startField)
  else reader.add limit .inField c

def step (limit : Nat) (reader : Reader) : Option Char → Except Failure Reader
  | none =>
      match reader.phase with
      | .startRecord | .eatCrnl => .ok { reader with phase := .startRecord }
      | .inQuotedField => .ok reader
      | .startField | .inField | .quoteInQuotedField => .ok (reader.save .startRecord)
  | some c =>
      match reader.phase with
      | .startRecord =>
          if isNewline c then .ok { reader with phase := .eatCrnl }
          else reader.startField limit c
      | .startField => reader.startField limit c
      | .inField =>
          if isNewline c then .ok (reader.save .eatCrnl)
          else if c = ',' then .ok (reader.save .startField)
          else reader.add limit .inField c
      | .inQuotedField =>
          if c = '"' then .ok { reader with phase := .quoteInQuotedField }
          else reader.add limit .inQuotedField c
      | .quoteInQuotedField =>
          if c = '"' then reader.add limit .inQuotedField c
          else if c = ',' then .ok (reader.save .startField)
          else if isNewline c then .ok (reader.save .eatCrnl)
          else reader.add limit .inField c
      | .eatCrnl => if isNewline c then .ok reader else .error .strayNewline

end Reader

/-- The rows up to a failure, if there is one. -/
structure Rows where
  rows : List (List (List Char))
  failure : Option Failure
  deriving DecidableEq

def Rows.cons (row : List (List Char)) (later : Rows) : Rows :=
  { later with rows := row :: later.rows }

/-- A record is complete at the end of a line outside quotes.  A text that ends inside quotes
ends the record there. -/
def readEvents (limit : Nat) : Reader → List (Option Char) → Rows
  | reader, [] =>
      if reader.phase = .inQuotedField ∨ reader.field ≠ [] then
        ⟨[(reader.save .startRecord).row], none⟩
      else ⟨[], none⟩
  | reader, event :: rest =>
      match reader.step limit event with
      | .error failure => ⟨[], some failure⟩
      | .ok next =>
          if event = none ∧ next.phase = .startRecord then
            (readEvents limit .start rest).cons next.row
          else readEvents limit next rest

/-- The rows of a text; an empty line is an empty row. -/
def read (limit : Nat) (text : List Char) : Rows :=
  readEvents limit .start (events false text)

/-! ### Spellings -/

def quote (field : List Char) : List Char :=
  '"' :: ((field.flatMap fun c => if c = '"' then ['"', '"'] else [c]) ++ ['"'])

inductive FieldSpelling : List Char → List Char → Prop
  | plain (field : List Char) (solid : ∀ c ∈ field, isNewline c = false ∧ c ≠ ',')
      (unquoted : field.head? ≠ some '"') : FieldSpelling field field
  | quoted (field : List Char) : FieldSpelling field (quote field)

inductive RowSpelling : List (List Char) → List Char → Prop
  | last (field spelled : List Char) (spells : FieldSpelling field spelled) :
      RowSpelling [field] spelled
  | more (field spelled : List Char) (row : List (List Char)) (rest : List Char)
      (spells : FieldSpelling field spelled) (others : RowSpelling row rest) :
      RowSpelling (field :: row) (spelled ++ ',' :: rest)

inductive Terminator : List Char → Prop
  | lf : Terminator ['\n']
  | crlf : Terminator ['\r', '\n']
  | cr : Terminator ['\r']

/-- A line that ends in a carriage return is not followed by a line feed. -/
def Separate (terminator text : List Char) : Prop :=
  terminator = ['\r'] → text.head? ≠ some '\n'

/-- A row is spelled by a line that is not empty; the last line needs no terminator. -/
inductive Spelling : List (List (List Char)) → List Char → Prop
  | nil : Spelling [] []
  | last (row : List (List Char)) (spelled : List Char) (spells : RowSpelling row spelled)
      (nonempty : spelled ≠ []) : Spelling [row] spelled
  | row (row : List (List Char)) (rows : List (List (List Char)))
      (spelled terminator text : List Char) (spells : RowSpelling row spelled)
      (nonempty : spelled ≠ []) (ends : Terminator terminator)
      (separate : Separate terminator text) (later : Spelling rows text) :
      Spelling (row :: rows) (spelled ++ (terminator ++ text))
  | blank (rows : List (List (List Char))) (terminator text : List Char)
      (ends : Terminator terminator) (separate : Separate terminator text)
      (later : Spelling rows text) : Spelling ([] :: rows) (terminator ++ text)

def quoteRow : List (List Char) → List Char
  | [] => []
  | [field] => quote field
  | field :: row => quote field ++ ',' :: quoteRow row

def write (rows : List (List (List Char))) : List Char :=
  rows.flatMap fun row => quoteRow row ++ ['\n']

theorem rowSpelling_quoteRow (field : List Char) (row : List (List Char)) :
    RowSpelling (field :: row) (quoteRow (field :: row)) := by
  induction row generalizing field with
  | nil => exact .last field _ (.quoted field)
  | cons next row ih => exact .more field _ (next :: row) _ (.quoted field) (ih next)

theorem quoteRow_ne_nil (field : List Char) (row : List (List Char)) :
    quoteRow (field :: row) ≠ [] := by
  cases row with
  | nil => exact List.cons_ne_nil _ _
  | cons next row => exact List.cons_ne_nil _ _

theorem spelling_write (rows : List (List (List Char))) : Spelling rows (write rows) := by
  have separate : ∀ text, Separate ['\n'] text := by
    intro text impossible
    exact absurd impossible (by decide)
  induction rows with
  | nil => exact .nil
  | cons row rows ih =>
      unfold write
      rw [List.flatMap_cons, List.append_assoc]
      cases row with
      | nil => exact .blank rows ['\n'] _ .lf (separate _) ih
      | cons field row =>
          exact .row (field :: row) rows _ ['\n'] _ (rowSpelling_quoteRow field row)
            (quoteRow_ne_nil field row) .lf (separate _) ih

/-! ### Reading a spelling -/

variable {limit : Nat}

theorem events_of_solid (begun : Bool) {c : Char} (solid : isNewline c = false)
    (rest : List Char) : events begun (c :: rest) = some c :: events true rest := by
  unfold isNewline at solid
  rw [Bool.or_eq_false_iff, decide_eq_false_iff_not, decide_eq_false_iff_not] at solid
  obtain ⟨notCr, notLf⟩ := solid
  rw [events]
  · intro others impossible
    exact absurd impossible notCr
  · intro impossible
    exact notCr impossible
  · intro impossible
    exact notLf impossible

theorem events_lf (begun : Bool) (rest : List Char) :
    events begun ('\n' :: rest) = some '\n' :: none :: events false rest := rfl

theorem events_crlf (begun : Bool) (rest : List Char) :
    events begun ('\r' :: '\n' :: rest) = some '\r' :: events false ('\n' :: rest) := rfl

theorem events_cr (begun : Bool) {rest : List Char} (separate : rest.head? ≠ some '\n') :
    events begun ('\r' :: rest) = some '\r' :: none :: events false rest := by
  cases rest with
  | nil => rfl
  | cons c rest =>
      rw [events]
      intro others same
      rw [same] at separate
      exact separate rfl

theorem readEvents_of_step {reader next : Reader} {c : Char} {rest : List (Option Char)}
    (steps : reader.step limit (some c) = .ok next) :
    readEvents limit reader (some c :: rest) = readEvents limit next rest := by
  rw [readEvents, steps]
  rfl

theorem add_of_lt {reader : Reader} (phase : Phase) (c : Char)
    (short : reader.field.length < limit) :
    reader.add limit phase c = .ok { reader with phase := phase, field := reader.field ++ [c] } :=
  if_pos short

theorem readEvents_quoted_symbol (begun : Bool) (row : List (List Char)) (field : List Char)
    {c : Char} (other : c ≠ '"') (rest : List Char) (short : field.length < limit) :
    readEvents limit ⟨.inQuotedField, row, field⟩ (events begun (c :: rest)) =
      readEvents limit ⟨.inQuotedField, row, field ++ [c]⟩ (events (!isNewline c) rest) := by
  have steps : Reader.step limit ⟨.inQuotedField, row, field⟩ (some c) =
      .ok ⟨.inQuotedField, row, field ++ [c]⟩ := by
    change (if c = '"' then _ else _) = _
    rw [if_neg other]
    exact add_of_lt .inQuotedField c short
  by_cases newline : isNewline c = true
  · rw [newline]
    have kinds : c = '\r' ∨ c = '\n' := by
      simpa [isNewline] using newline
    rcases kinds with rfl | rfl
    · by_cases lf : rest.head? = some '\n'
      · obtain ⟨others, rfl⟩ : ∃ others, rest = '\n' :: others := by
          cases rest with
          | nil => cases lf
          | cons first others =>
              cases lf
              exact ⟨others, rfl⟩
        rw [events_crlf, readEvents_of_step steps]
        rfl
      · rw [events_cr begun lf, readEvents_of_step steps]
        rfl
    · rw [events_lf, readEvents_of_step steps]
      rfl
  · rw [Bool.not_eq_true] at newline
    rw [events_of_solid begun newline, newline, readEvents_of_step steps]
    rfl

theorem readEvents_quoted (begun : Bool) (row : List (List Char)) (field content rest : List Char)
    (short : (field ++ content).length ≤ limit) :
    readEvents limit ⟨.inQuotedField, row, field⟩
        (events begun ((content.flatMap fun c => if c = '"' then ['"', '"'] else [c]) ++
          '"' :: rest)) =
      readEvents limit ⟨.quoteInQuotedField, row, field ++ content⟩ (events true rest) := by
  induction content generalizing begun field with
  | nil =>
      rw [List.append_nil, List.flatMap_nil, List.nil_append, events_of_solid begun rfl,
        readEvents_of_step rfl]
  | cons c content ih =>
      have shorter : ((field ++ [c]) ++ content).length ≤ limit := by
        rw [← List.append_cons]
        exact short
      have room : field.length < limit := by
        rw [List.length_append, List.length_cons] at short
        omega
      rw [List.flatMap_cons, List.append_assoc, List.append_cons field c content]
      by_cases quote : c = '"'
      · subst quote
        rw [if_pos rfl]
        change readEvents limit _ (events begun ('"' :: '"' :: _)) = _
        rw [events_of_solid begun rfl, events_of_solid true rfl, readEvents_of_step rfl]
        have steps : Reader.step limit ⟨.quoteInQuotedField, row, field⟩ (some '"') =
            .ok ⟨.inQuotedField, row, field ++ ['"']⟩ :=
          add_of_lt .inQuotedField '"' room
        rw [readEvents_of_step steps]
        exact ih true (field ++ ['"']) shorter
      · rw [if_neg quote]
        change readEvents limit _ (events begun (c :: _)) = _
        rw [readEvents_quoted_symbol begun row field quote _ room]
        exact ih _ (field ++ [c]) shorter

theorem readEvents_plain (row : List (List Char)) (field content rest : List Char)
    (solid : ∀ c ∈ content, isNewline c = false ∧ c ≠ ',')
    (short : (field ++ content).length ≤ limit) :
    readEvents limit ⟨.inField, row, field⟩ (events true (content ++ rest)) =
      readEvents limit ⟨.inField, row, field ++ content⟩ (events true rest) := by
  induction content generalizing field with
  | nil => rw [List.append_nil, List.nil_append]
  | cons c content ih =>
      obtain ⟨inLine, notComma⟩ := solid c List.mem_cons_self
      have shorter : ((field ++ [c]) ++ content).length ≤ limit := by
        rw [← List.append_cons]
        exact short
      have room : field.length < limit := by
        rw [List.length_append, List.length_cons] at short
        omega
      have steps : Reader.step limit ⟨.inField, row, field⟩ (some c) =
          .ok ⟨.inField, row, field ++ [c]⟩ := by
        change (if isNewline c then _ else if c = ',' then _ else _) = _
        rw [inLine, if_neg Bool.false_ne_true, if_neg notComma]
        exact add_of_lt .inField c room
      rw [List.cons_append, events_of_solid true inLine, readEvents_of_step steps,
        List.append_cons field c content]
      exact ih (field ++ [c]) (fun other member => solid other (List.mem_cons_of_mem _ member))
        shorter

/-- The reader has a row but for the symbol that ends its last field. -/
structure Ready (limit : Nat) (reader : Reader) (row : List (List Char)) : Prop where
  comma : reader.step limit (some ',') = .ok ⟨.startField, row, []⟩
  newline : ∀ c, isNewline c = true → reader.step limit (some c) = .ok ⟨.eatCrnl, row, []⟩
  lineEnd : reader.step limit none = .ok ⟨.startRecord, row, []⟩

theorem isNewline_ne {c other : Char} (newline : isNewline c = true)
    (solid : isNewline other = false) : c ≠ other := by
  intro same
  rw [same, solid] at newline
  cases newline

theorem ready_startField (row : List (List Char)) :
    Ready limit ⟨.startField, row, []⟩ (row ++ [[]]) where
  comma := rfl
  newline := by
    intro c newline
    exact if_pos newline
  lineEnd := rfl

theorem ready_inField (row : List (List Char)) (field : List Char) :
    Ready limit ⟨.inField, row, field⟩ (row ++ [field]) where
  comma := rfl
  newline := by
    intro c newline
    exact if_pos newline
  lineEnd := rfl

theorem ready_quoteInQuotedField (row : List (List Char)) (field : List Char) :
    Ready limit ⟨.quoteInQuotedField, row, field⟩ (row ++ [field]) where
  comma := rfl
  newline := by
    intro c newline
    change (if c = '"' then _ else if c = ',' then _ else if isNewline c then _ else _) = _
    rw [if_neg (isNewline_ne newline rfl), if_neg (isNewline_ne newline rfl), if_pos newline]
    rfl
  lineEnd := rfl

theorem FieldSpelling.reads {field spelled : List Char} (spells : FieldSpelling field spelled)
    (short : field.length ≤ limit) (row : List (List Char)) (rest : List Char) :
    ∃ reader, Ready limit reader (row ++ [field]) ∧
      readEvents limit ⟨.startField, row, []⟩ (events true (spelled ++ rest)) =
        readEvents limit reader (events true rest) := by
  cases spells with
  | quoted =>
      refine ⟨_, ready_quoteInQuotedField row field, ?_⟩
      unfold quote
      rw [List.cons_append, List.append_assoc, List.singleton_append, events_of_solid true rfl,
        readEvents_of_step rfl]
      exact readEvents_quoted true row [] field rest short
  | plain solid unquoted =>
      cases field with
      | nil => exact ⟨_, ready_startField row, rfl⟩
      | cons c content =>
          refine ⟨_, ready_inField row (c :: content), ?_⟩
          obtain ⟨inLine, notComma⟩ := solid c List.mem_cons_self
          have notQuote : c ≠ '"' := fun same => unquoted (congrArg some same)
          have steps : Reader.step limit ⟨.startField, row, []⟩ (some c) =
              .ok ⟨.inField, row, [c]⟩ := by
            change Reader.startField limit _ c = _
            unfold Reader.startField
            rw [inLine, if_neg Bool.false_ne_true, if_neg notQuote, if_neg notComma]
            exact add_of_lt .inField c (Nat.lt_of_lt_of_le (Nat.succ_pos _) short)
          rw [List.cons_append, events_of_solid true inLine, readEvents_of_step steps]
          exact readEvents_plain row [c] content rest
            (fun other member => solid other (List.mem_cons_of_mem _ member)) short

theorem RowSpelling.reads {row : List (List Char)} {spelled : List Char}
    (spells : RowSpelling row spelled) (short : ∀ field ∈ row, field.length ≤ limit)
    (before : List (List Char)) (rest : List Char) :
    ∃ reader, Ready limit reader (before ++ row) ∧
      readEvents limit ⟨.startField, before, []⟩ (events true (spelled ++ rest)) =
        readEvents limit reader (events true rest) := by
  induction spells generalizing before with
  | last field spelled spells =>
      exact spells.reads (short field List.mem_cons_self) before rest
  | more field spelled row others spells _ ih =>
      obtain ⟨reader, ready, reads⟩ :=
        spells.reads (short field List.mem_cons_self) before (',' :: others ++ rest)
      obtain ⟨last, lastReady, lastReads⟩ :=
        ih (fun other member => short other (List.mem_cons_of_mem _ member)) (before ++ [field])
      rw [← List.append_cons] at lastReady
      refine ⟨last, lastReady, ?_⟩
      rw [List.append_assoc, reads, List.cons_append, events_of_solid true rfl,
        readEvents_of_step ready.comma]
      exact lastReads

theorem readEvents_terminator (begun : Bool) {terminator text : List Char}
    (ends : Terminator terminator) (separate : Separate terminator text) {reader : Reader}
    {row : List (List Char)}
    (newline : ∀ c, isNewline c = true → reader.step limit (some c) = .ok ⟨.eatCrnl, row, []⟩) :
    readEvents limit reader (events begun (terminator ++ text)) =
      (read limit text).cons row := by
  cases ends with
  | lf =>
      change readEvents limit reader (events begun ('\n' :: text)) = _
      rw [events_lf, readEvents_of_step (newline '\n' rfl)]
      rfl
  | crlf =>
      change readEvents limit reader (events begun ('\r' :: '\n' :: text)) = _
      rw [events_crlf, readEvents_of_step (newline '\r' rfl)]
      rfl
  | cr =>
      change readEvents limit reader (events begun ('\r' :: text)) = _
      rw [events_cr begun (separate rfl), readEvents_of_step (newline '\r' rfl)]
      rfl

theorem FieldSpelling.head {field spelled : List Char} (spells : FieldSpelling field spelled)
    {c : Char} (first : spelled.head? = some c) : isNewline c = false := by
  cases spells with
  | quoted =>
      cases first
      rfl
  | plain solid unquoted => exact (solid c (List.mem_of_mem_head? first)).1

theorem RowSpelling.head {row : List (List Char)} {spelled : List Char}
    (spells : RowSpelling row spelled) {c : Char} (first : spelled.head? = some c) :
    isNewline c = false := by
  cases spells with
  | last field _ spells => exact spells.head first
  | more field spelled row rest spells others =>
      cases spelled with
      | nil =>
          cases first
          rfl
      | cons c content => exact spells.head first

theorem read_line {row : List (List Char)} {spelled : List Char} (spells : RowSpelling row spelled)
    (nonempty : spelled ≠ []) (short : ∀ field ∈ row, field.length ≤ limit) (rest : List Char) :
    ∃ reader, Ready limit reader row ∧
      read limit (spelled ++ rest) = readEvents limit reader (events true rest) := by
  obtain ⟨reader, ready, reads⟩ := spells.reads short [] rest
  refine ⟨reader, ready, ?_⟩
  rw [← reads]
  cases spelled with
  | nil => exact absurd rfl nonempty
  | cons c content =>
      have solid := spells.head rfl
      have starts : Reader.step limit .start (some c) =
          Reader.step limit ⟨.startField, [], []⟩ (some c) := by
        change (if isNewline c then _ else _) = _
        rw [solid, if_neg Bool.false_ne_true]
        rfl
      unfold read
      rw [List.cons_append, events_of_solid false solid, events_of_solid true solid, readEvents,
        readEvents, starts]

/-- The reader reads every spelling of a table back. -/
theorem read_spelling {rows : List (List (List Char))} {text : List Char}
    (spelling : Spelling rows text)
    (short : ∀ row ∈ rows, ∀ field ∈ row, field.length ≤ limit) :
    read limit text = ⟨rows, none⟩ := by
  induction spelling with
  | nil => rfl
  | last row spelled spells nonempty =>
      obtain ⟨reader, ready, reads⟩ := read_line spells nonempty (short row List.mem_cons_self) []
      rw [List.append_nil] at reads
      have ends : readEvents limit reader [none] = ⟨[row], none⟩ := by
        rw [readEvents, ready.lineEnd]
        rfl
      rw [reads]
      exact ends
  | row row rows spelled terminator text spells nonempty ends separate _ ih =>
      obtain ⟨reader, ready, reads⟩ :=
        read_line spells nonempty (short row List.mem_cons_self) (terminator ++ text)
      rw [reads, readEvents_terminator true ends separate ready.newline,
        ih fun other member => short other (List.mem_cons_of_mem _ member)]
      rfl
  | blank rows terminator text ends separate _ ih =>
      have newline : ∀ c, isNewline c = true →
          Reader.step limit .start (some c) = .ok ⟨.eatCrnl, [], []⟩ := by
        intro c newline
        exact if_pos newline
      unfold read
      rw [readEvents_terminator false ends separate newline,
        ih fun other member => short other (List.mem_cons_of_mem _ member)]
      rfl

end Csv
