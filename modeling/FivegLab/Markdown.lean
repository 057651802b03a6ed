import Mathlib.Data.List.Basic

/-!
# Tables of Markdown

The rows of a table as they are written and as they are read: a line end or an empty
line ends a row, a bar ends a cell unless a backslash stands in front of it.  A
written table is read back exactly when its fields contain neither.
-/

namespace FivegLab.Markdown

def isLineEnd (c : Char) : Bool := c == '\n' || c == '\r'

/-- The lines of a text; the last one has no end. -/
def lines : List Char → List (List Char)
  | [] => [[]]
  | c :: rest =>
      if isLineEnd c then [] :: lines rest
      else match lines rest with
        | [] => [[c]]
        | line :: more => (c :: line) :: more

theorem lines_ne_nil (chars : List Char) : lines chars ≠ [] := by
  cases chars with
  | nil => simp [lines]
  | cons c rest =>
      rw [lines]
      split
      · simp
      · split <;> simp

theorem lines_append {line : List Char} (whole : ∀ c ∈ line, isLineEnd c = false) {mark : Char}
    (ends : isLineEnd mark = true) (rest : List Char) :
    lines (line ++ mark :: rest) = line :: lines rest := by
  induction line with
  | nil => simp [lines, ends]
  | cons c line ih =>
      have inner := ih fun d mem => whole d (List.mem_cons_of_mem _ mem)
      simp [lines, whole c List.mem_cons_self, inner]

theorem not_lineEnd_of_mem_lines {chars line : List Char} (mem : line ∈ lines chars) :
    ∀ c ∈ line, isLineEnd c = false := by
  induction chars generalizing line with
  | nil =>
      rcases List.mem_singleton.mp mem with rfl
      simp
  | cons c rest ih =>
      rw [lines] at mem
      split at mem
      case isTrue =>
        rcases List.mem_cons.mp mem with rfl | mem
        · simp
        · exact ih mem
      case isFalse kept =>
        split at mem
        case h_1 none => exact absurd none (lines_ne_nil rest)
        case h_2 first more found =>
          rcases List.mem_cons.mp mem with rfl | mem
          · intro d inner
            rcases List.mem_cons.mp inner with rfl | inner
            · simpa using kept
            · exact ih (found ▸ List.mem_cons_self) d inner
          · exact ih (found ▸ List.mem_cons_of_mem _ mem)

/-- The text has a bar without a backslash in front of it. -/
def hasOpenBar : List Char → Bool
  | [] => false
  | ['\\'] => false
  | '\\' :: _ :: rest => hasOpenBar rest
  | c :: rest => c == '|' || hasOpenBar rest

/-- A field that stays in its cell. -/
structure Plain (field : List Char) : Prop where
  whole : ∀ c ∈ field, isLineEnd c = false
  closed : hasOpenBar field = false

/-- Put characters in front of the first cell. -/
def extend (start : List Char) : List (List Char) → List (List Char)
  | [] => [start]
  | cell :: cells => (start ++ cell) :: cells

/-- The parts of a line between its open bars. -/
def splitCells : List Char → List (List Char)
  | [] => [[]]
  | ['\\'] => [['\\']]
  | '\\' :: c :: rest => extend ['\\', c] (splitCells rest)
  | c :: rest => if c = '|' then [] :: splitCells rest else extend [c] (splitCells rest)

/-- The padding of a cell: one blank on each side. -/
def pad (field : List Char) : List Char := ' ' :: (field ++ [' '])

def unpad : List Char → Option (List Char)
  | ' ' :: rest => if rest.getLast? = some ' ' then some rest.dropLast else none
  | _ => none

/-- A row with its cells. -/
def row (fields : List (List Char)) : List Char :=
  '|' :: fields.flatMap fun field => pad field ++ ['|']

/-- The cells of a line, when it is a row. -/
def readRow (line : List Char) : Option (List (List Char)) :=
  match splitCells line with
  | [] :: cells => if cells.getLast? = some [] then cells.dropLast.mapM unpad else none
  | _ => none

theorem unpad_pad (field : List Char) : unpad (pad field) = some field := by
  simp [unpad, pad]

theorem eq_pad_of_unpad {cell field : List Char} (read : unpad cell = some field) :
    cell = pad field := by
  unfold unpad at read
  split at read
  case h_1 rest =>
    split at read
    case isTrue last =>
      cases read
      rw [pad, List.dropLast_append_getLast? _ last]
    case isFalse => cases read
  case h_2 => cases read

theorem splitCells_cons {c : Char} (plain : c ≠ '\\') (rest : List Char) :
    splitCells (c :: rest) =
      if c = '|' then [] :: splitCells rest else extend [c] (splitCells rest) := by
  rw [splitCells]
  · exact fun same _ => plain same
  · exact fun _ _ same _ => plain same

theorem hasOpenBar_cons {c : Char} (plain : c ≠ '\\') (rest : List Char) :
    hasOpenBar (c :: rest) = (c == '|' || hasOpenBar rest) := by
  rw [hasOpenBar]
  · exact fun same _ => plain same
  · exact fun _ _ same _ => plain same

/-- The cases of a text by its first character: a backslash goes together with the
character behind it. -/
theorem escape_induction {motive : List Char → Prop} (nil : motive []) (last : motive ['\\'])
    (escape : ∀ c rest, motive rest → motive ('\\' :: c :: rest))
    (plain : ∀ c rest, c ≠ '\\' → motive rest → motive (c :: rest)) (chars : List Char) :
    motive chars := by
  fun_induction hasOpenBar chars with
  | case1 => exact nil
  | case2 => exact last
  | case3 c rest ih => exact escape c rest ih
  | case4 c rest notLast notEscape ih =>
      refine plain c rest (fun same => ?_) ih
      cases rest with
      | nil => exact notLast same rfl
      | cons head tail => exact notEscape head tail same rfl

/-- A closed text goes into the cell in front of the next bar. -/
theorem splitCells_pad {field : List Char} (closed : hasOpenBar field = false) (rest : List Char) :
    splitCells (field ++ ' ' :: '|' :: rest) = (field ++ [' ']) :: splitCells rest := by
  induction field using escape_induction with
  | nil => simp [splitCells, extend]
  | last => simp [splitCells, extend]
  | escape c field ih =>
      rw [hasOpenBar] at closed
      simp [splitCells, extend, ih closed]
  | plain c field notEscape ih =>
      rw [hasOpenBar_cons notEscape, Bool.or_eq_false_iff, beq_eq_false_iff_ne] at closed
      rw [List.cons_append, splitCells_cons notEscape, if_neg closed.1, ih closed.2]
      rfl

theorem splitCells_row {fields : List (List Char)}
    (closed : ∀ field ∈ fields, hasOpenBar field = false) :
    splitCells (row fields) = [] :: (fields.map pad ++ [[]]) := by
  rw [row, splitCells_cons (by decide), if_pos rfl, List.cons.injEq]
  refine ⟨rfl, ?_⟩
  induction fields with
  | nil => simp [splitCells]
  | cons field fields ih =>
      have inner := ih fun other mem => closed other (List.mem_cons_of_mem _ mem)
      have first := splitCells_pad (closed field List.mem_cons_self)
        (fields.flatMap fun field => pad field ++ ['|'])
      simp only [List.flatMap_cons, pad, List.cons_append, List.append_assoc, List.nil_append,
        List.map_cons] at first inner ⊢
      rw [splitCells_cons (by decide), if_neg (by decide), first, inner]
      rfl

/-- A row with closed fields is read back. -/
theorem readRow_row {fields : List (List Char)}
    (closed : ∀ field ∈ fields, hasOpenBar field = false) : readRow (row fields) = some fields := by
  have unpadded : (fields.map pad).mapM unpad = some fields := by
    induction fields with
    | nil => rfl
    | cons field fields ih =>
        have inner := ih fun other mem => closed other (List.mem_cons_of_mem _ mem)
        rw [List.map_cons, List.mapM_cons, unpad_pad, inner]
        rfl
  rw [readRow, splitCells_row closed]
  simp [unpadded]

/-- No cell has an open bar. -/
theorem closed_of_mem_splitCells {line cell : List Char} (mem : cell ∈ splitCells line) :
    hasOpenBar cell = false := by
  induction line using escape_induction generalizing cell with
  | nil =>
      rcases List.mem_singleton.mp mem with rfl
      rfl
  | last =>
      rcases List.mem_singleton.mp mem with rfl
      rfl
  | escape c rest ih =>
      rw [splitCells] at mem
      cases found : splitCells rest with
      | nil =>
          rw [found, extend, List.mem_singleton] at mem
          rw [mem]
          rfl
      | cons first cells =>
          rw [found, extend, List.mem_cons] at mem
          rcases mem with rfl | mem
          · have inner : hasOpenBar first = false := ih (found ▸ List.mem_cons_self)
            exact inner
          · exact ih (found ▸ List.mem_cons_of_mem _ mem)
  | plain c rest notEscape ih =>
      rw [splitCells_cons notEscape] at mem
      split at mem
      case isTrue =>
        rcases List.mem_cons.mp mem with rfl | mem
        · rfl
        · exact ih mem
      case isFalse notBar =>
        cases found : splitCells rest with
        | nil =>
            rw [found, extend, List.mem_singleton] at mem
            simp [mem, hasOpenBar_cons notEscape, notBar, hasOpenBar]
        | cons first cells =>
            rw [found, extend, List.mem_cons] at mem
            rcases mem with rfl | mem
            · have inner : hasOpenBar first = false := ih (found ▸ List.mem_cons_self)
              rw [List.singleton_append, hasOpenBar_cons notEscape, inner]
              simpa using notBar
            · exact ih (found ▸ List.mem_cons_of_mem _ mem)

/-- The start of a closed text is closed. -/
theorem closed_of_append {start rest : List Char} (closed : hasOpenBar (start ++ rest) = false) :
    hasOpenBar start = false := by
  induction start using escape_induction with
  | nil => rfl
  | last => rfl
  | escape c start ih =>
      rw [hasOpenBar]
      exact ih (by simpa [hasOpenBar] using closed)
  | plain c start notEscape ih =>
      rw [List.cons_append, hasOpenBar_cons notEscape, Bool.or_eq_false_iff] at closed
      rw [hasOpenBar_cons notEscape, Bool.or_eq_false_iff]
      exact ⟨closed.1, ih closed.2⟩

theorem mem_of_mem_splitCells {line cell : List Char} (mem : cell ∈ splitCells line) :
    ∀ c ∈ cell, c ∈ line := by
  have extended {start rest : List Char}
      (inner : ∀ cell ∈ splitCells rest, ∀ c ∈ cell, c ∈ rest) :
      ∀ cell ∈ extend start (splitCells rest), ∀ c ∈ cell, c ∈ start ++ rest := by
    intro cell mem c found
    cases cells : splitCells rest with
    | nil =>
        rw [cells, extend, List.mem_singleton] at mem
        exact List.mem_append_left _ (mem ▸ found)
    | cons first more =>
        rw [cells, extend, List.mem_cons] at mem
        rcases mem with rfl | mem
        · rcases List.mem_append.mp found with found | found
          · exact List.mem_append_left _ found
          · exact List.mem_append_right _ (inner first (cells ▸ List.mem_cons_self) c found)
        · exact List.mem_append_right _ (inner cell (cells ▸ List.mem_cons_of_mem _ mem) c found)
  induction line using escape_induction generalizing cell with
  | nil =>
      rcases List.mem_singleton.mp mem with rfl
      simp
  | last =>
      rcases List.mem_singleton.mp mem with rfl
      simp
  | escape c rest ih =>
      rw [splitCells] at mem
      exact extended (fun cell => ih) cell mem
  | plain c rest notEscape ih =>
      rw [splitCells_cons notEscape] at mem
      split at mem
      case isTrue =>
        rcases List.mem_cons.mp mem with rfl | mem
        · simp
        · exact fun d found => List.mem_cons_of_mem _ (ih mem d found)
      case isFalse => exact extended (fun cell => ih) cell mem

theorem eq_pad_of_mapM {cells fields : List (List Char)} (read : cells.mapM unpad = some fields) :
    cells = fields.map pad := by
  induction cells generalizing fields with
  | nil =>
      obtain rfl : [] = fields := Option.some.inj read
      rfl
  | cons cell cells ih =>
      simp only [List.mapM_cons, Option.bind_eq_bind, Option.bind_eq_some_iff, Option.pure_def,
        Option.some.injEq] at read
      rcases read with ⟨field, first, more, rest, rfl⟩
      rw [List.map_cons, ← eq_pad_of_unpad first, ← ih rest]

/-- The fields that are read from a line stay in their cells. -/
theorem plain_of_readRow {line : List Char} {fields : List (List Char)}
    (whole : ∀ c ∈ line, isLineEnd c = false) (read : readRow line = some fields) :
    ∀ field ∈ fields, Plain field := by
  unfold readRow at read
  split at read
  case h_1 cells found =>
    split at read
    case isTrue =>
      have padded := eq_pad_of_mapM read
      intro field mem
      have cell : pad field ∈ splitCells line := by
        rw [found]
        refine List.mem_cons_of_mem _ (List.dropLast_subset _ ?_)
        rw [padded]
        exact List.mem_map_of_mem mem
      refine ⟨fun c inner => whole c (mem_of_mem_splitCells cell c ?_), ?_⟩
      · simp [pad, inner]
      · have closed := closed_of_mem_splitCells cell
        rw [pad, hasOpenBar_cons (by decide), Bool.or_eq_false_iff] at closed
        exact closed_of_append closed.2
    case isFalse => cases read
  case h_2 => cases read

/-- The rows of a table, one in each line. -/
def table (rows : List (List (List Char))) : List Char := ['\n'].intercalate (rows.map row)

/-- The rows up to the first empty line. -/
def readTable (chars : List Char) : List (Option (List (List Char))) :=
  ((lines chars).takeWhile (· ≠ [])).map readRow

theorem whole_row {fields : List (List Char)} (plain : ∀ field ∈ fields, Plain field) :
    ∀ c ∈ row fields, isLineEnd c = false := by
  intro c mem
  simp only [row, pad, List.mem_cons, List.mem_flatMap, List.mem_append, List.not_mem_nil,
    or_false] at mem
  rcases mem with rfl | ⟨field, fieldMem, (rfl | mem | rfl) | rfl⟩
  · rfl
  · rfl
  · exact (plain field fieldMem).whole c mem
  · rfl
  · rfl

/-- A table whose fields stay in their cells is read back, whatever follows the empty
line behind it. -/
theorem readTable_table {rows : List (List (List Char))}
    (plain : ∀ fields ∈ rows, ∀ field ∈ fields, Plain field) (rest : List Char) :
    readTable (table rows ++ '\n' :: '\n' :: rest) = rows.map some := by
  have empty (rest : List Char) : lines ('\n' :: rest) = [] :: lines rest := by
    simp [lines, isLineEnd]
  induction rows with
  | nil => simp [readTable, table, List.intercalate, empty]
  | cons fields rows ih =>
      have first := plain fields List.mem_cons_self
      have inner := ih fun other mem => plain other (List.mem_cons_of_mem _ mem)
      have shown : row fields ≠ [] := by simp [row]
      have readFirst := readRow_row fun field mem => (first field mem).closed
      cases rows with
      | nil =>
          rw [readTable, table, List.map_cons, List.map_nil, List.intercalate_singleton,
            lines_append (whole_row first) rfl, empty]
          simp [shown, readFirst]
      | cons next rows =>
          have step : table (fields :: next :: rows) ++ '\n' :: '\n' :: rest =
              row fields ++ '\n' :: (table (next :: rows) ++ '\n' :: '\n' :: rest) := by
            simp [table, List.intercalate]
          rw [step, readTable, lines_append (whole_row first) rfl,
            List.takeWhile_cons_of_pos (by simpa using shown), List.map_cons, readFirst]
          rw [readTable] at inner
          rw [inner]
          rfl

theorem plain_of_mem_readTable {chars : List Char} {fields : List (List Char)}
    (mem : some fields ∈ readTable chars) : ∀ field ∈ fields, Plain field := by
  rw [readTable, List.mem_map] at mem
  rcases mem with ⟨line, lineMem, read⟩
  exact plain_of_readRow (not_lineEnd_of_mem_lines (List.takeWhile_subset _ lineMem)) read

/-- What is read behind the start of a table is the table exactly when its fields stay
in their cells. -/
theorem readTable_eq_iff {rows : List (List (List Char))} {rest : List Char} :
    readTable (table rows ++ '\n' :: '\n' :: rest) = rows.map some ↔
      ∀ fields ∈ rows, ∀ field ∈ fields, Plain field := by
  constructor
  · intro same fields mem
    have shown : some fields ∈ readTable (table rows ++ '\n' :: '\n' :: rest) := by
      rw [same]
      exact List.mem_map_of_mem mem
    exact plain_of_mem_readTable shown
  · exact fun plain => readTable_table plain rest

end FivegLab.Markdown
