import ConditionalText.Proofs.StatedFields
import ConditionalText.Proofs.TomlScalar
import ConditionalText.Toml.Reader

/-!
TOML texts of entries one on a line, and a table behind them: they are read as these entries and this
table.
-/

namespace ConditionalText.Toml

open Text (StopsBefore)

abbrev ScalarEntries := List (Text × Scalar)

def renderLine (entry : Text × Scalar) : Text :=
  entry.1 ++ " = ".toList ++ entry.2.render ++ ['\n']

namespace ScalarEntries

def render (entries : ScalarEntries) : Text :=
  entries.flatMap renderLine

def nodes (entries : ScalarEntries) : Entries :=
  entries.map (fun entry => (entry.1, entry.2.node))

def assignments (entries : ScalarEntries) : List (List Text × Node) :=
  entries.map (fun entry => ([entry.1], entry.2.node))

def lines (entries : ScalarEntries) : List Line :=
  entries.map (fun entry => .assignment [entry.1] entry.2.node)

end ScalarEntries

structure SimpleDocument where
  entries : ScalarEntries
  table : Option (Text × ScalarEntries)

namespace SimpleDocument

def renderTable (table : Text × ScalarEntries) : Text :=
  '[' :: table.1 ++ "]\n".toList ++ table.2.render

def render (document : SimpleDocument) : Text :=
  document.entries.render ++ (document.table.map renderTable).getD []

def nodes (document : SimpleDocument) : Entries :=
  document.entries.nodes ++
    (document.table.map (fun table => (table.1, .table .explicit table.2.nodes))).toList

end SimpleDocument

def IsBareKey (key : Text) : Prop :=
  key ≠ [] ∧ ∀ c ∈ key, isBareKeyChar c = true

structure ScalarEntries.Writable (entries : ScalarEntries) : Prop where
  bare : ∀ entry ∈ entries, IsBareKey entry.1
  fits : ∀ entry ∈ entries, entry.2.Fits
  distinct : (entries.map Prod.fst).Nodup

structure SimpleDocument.Writable (document : SimpleDocument) : Prop where
  entries : document.entries.Writable
  tableBare : ∀ table ∈ document.table, IsBareKey table.1
  tableEntries : ∀ table ∈ document.table, ScalarEntries.Writable table.2
  tableNew : ∀ table ∈ document.table, table.1 ∉ document.entries.map Prod.fst

/-! Keys -/

theorem IsBareKey.starts {key : Text} (bare : IsBareKey key) :
    ∃ c others, key = c :: others ∧ isBareKeyChar c = true := by
  obtain ⟨c, others, same⟩ := List.exists_cons_of_ne_nil bare.1
  exact ⟨c, others, same, bare.2 c (by rw [same]; exact List.mem_cons_self ..)⟩

theorem not_blank_of_isBareKeyChar {c : Char} (bare : isBareKeyChar c = true) :
    isTomlBlank c = false := by
  have visible : c ∉ [' ', '\t'] := Text.notMem_marks bare (by decide)
  simp only [List.mem_cons, not_or] at visible
  simp [isTomlBlank, visible]

theorem dropBlanks_cons {c : Char} (visible : isTomlBlank c = false) (rest : Text) :
    dropBlanks (c :: rest) = c :: rest :=
  List.dropWhile_cons_of_neg (by simp [visible])

theorem simpleKey?_bare {key rest : Text} (bare : IsBareKey key)
    (stops : StopsBefore isBareKeyChar rest) : simpleKey? (key ++ rest) = some (key, rest) := by
  have taken := Text.takeWhile_run bare.2 stops
  have dropped := Text.dropWhile_run bare.2 stops
  obtain ⟨c, others, same, begins⟩ := bare.starts
  have unquoted : c ≠ '"' ∧ c ≠ '\'' :=
    ⟨Text.ne_mark begins (by decide), Text.ne_mark begins (by decide)⟩
  rw [same, List.cons_append] at taken dropped ⊢
  simp [simpleKey?, unquoted, taken, dropped]

/-- A key without dots, up to the mark behind it. -/
theorem dottedKey?_bare {key behind : Text} {mark : Char} (bare : IsBareKey key) (rest : Text)
    (stops : StopsBefore isBareKeyChar rest) (marked : dropBlanks rest = mark :: behind)
    (undotted : mark ≠ '.') : dottedKey? (key ++ rest) = some ([key], mark :: behind) := by
  have read := simpleKey?_bare bare stops
  obtain ⟨c, others, same, begins⟩ := bare.starts
  have visible := not_blank_of_isBareKeyChar begins
  have path : keyPath? (key ++ rest).length (key ++ rest) = some ([key], mark :: behind) := by
    rw [same, List.cons_append] at read ⊢
    rw [List.length_cons, keyPath?, dropBlanks_cons visible, read]
    simp [marked, undotted]
  unfold dottedKey?
  rw [path]
  rfl

/-! Lines -/

theorem afterLine?_newline (rest : Text) : afterLine? ('\n' :: rest) = some rest := by
  unfold afterLine?
  rw [dropBlanks_cons (by decide)]
  rfl

theorem Scalar.render_starts (scalar : Scalar) :
    ∃ c others, scalar.render = c :: others ∧ isTomlBlank c = false ∧ c ≠ '[' ∧ c ≠ '\x7b' := by
  cases scalar with
  | string value => exact ⟨'"', _, rfl, by decide, by decide, by decide⟩
  | integer value =>
      obtain ⟨c, others, same, digit⟩ := Text.ofNat_starts value
      have bare : isBareKeyChar c = true := by
        simp [isBareKeyChar, isAsciiAlphanumeric, Char.isAlphanum, digit]
      exact ⟨c, others, same, not_blank_of_isBareKeyChar bare, Text.ne_mark digit (by decide),
        Text.ne_mark digit (by decide)⟩

theorem value?_render {scalar : Scalar} (fits : scalar.Fits) (fuel depth : Nat) (rest : Text) :
    value? (fuel + 1) depth (scalar.render ++ '\n' :: rest) = some (scalar.node, '\n' :: rest) := by
  have read := scalar?_render fits rest
  obtain ⟨c, others, same, _, unlisted, unbraced⟩ := scalar.render_starts
  rw [same, List.cons_append] at read ⊢
  simp [value?, unlisted, unbraced, read]

theorem after?_mark {mark : String} {c : Char} (marks : mark.toList = [c]) (rest : Text) :
    after? mark (c :: rest) = some rest := by
  have single : mark.length = 1 := by
    rw [← String.length_toList, marks]
    rfl
  simp [after?, marks, single]

theorem assignment?_renderLine {entry : Text × Scalar} (bare : IsBareKey entry.1)
    (fits : entry.2.Fits) (rest : Text) :
    assignment? (renderLine entry ++ rest) = some (([entry.1], entry.2.node), rest) := by
  obtain ⟨key, scalar⟩ := entry
  have split : renderLine (key, scalar) ++ rest =
      key ++ ' ' :: '=' :: ' ' :: (scalar.render ++ '\n' :: rest) := by
    simp [renderLine]
  have keyed := dottedKey?_bare bare (' ' :: '=' :: ' ' :: (scalar.render ++ '\n' :: rest))
    (Text.stopsBefore_cons.mpr (by decide)) rfl (by decide)
  have value : ∀ length, value? (2 * length + 2) (depthLimit - 1) (scalar.render ++ '\n' :: rest) =
      some (scalar.node, '\n' :: rest) :=
    fun length => value?_render fits (2 * length + 1) _ rest
  have dropped : dropBlanks (' ' :: (scalar.render ++ '\n' :: rest)) =
      scalar.render ++ '\n' :: rest := by
    obtain ⟨c, others, same, visible, _⟩ := scalar.render_starts
    rw [same, List.cons_append]
    exact dropBlanks_cons visible _
  rw [split]
  unfold assignment?
  rw [keyed]
  simp [after?_mark, dropped, value, afterLine?_newline]

theorem header?_bare {key : Text} (bare : IsBareKey key) (rest : Text) :
    header? "]" (key ++ ']' :: '\n' :: rest) = some (([], key), rest) := by
  have keyed := dottedKey?_bare bare (']' :: '\n' :: rest)
    (Text.stopsBefore_cons.mpr (by decide)) rfl (by decide)
  unfold header?
  rw [keyed]
  simp [after?_mark, afterLine?_newline]

theorem renderLine_starts {entry : Text × Scalar} (bare : IsBareKey entry.1) :
    ∃ c others, renderLine entry = c :: others ∧ isBareKeyChar c = true := by
  obtain ⟨c, others, same, begins⟩ := bare.starts
  exact ⟨c, _, by rw [renderLine, same]; rfl, begins⟩

theorem line?_renderLine {entry : Text × Scalar} (bare : IsBareKey entry.1)
    (fits : entry.2.Fits) (rest : Text) :
    line? (renderLine entry ++ rest) = some (.assignment [entry.1] entry.2.node, rest) := by
  have read := assignment?_renderLine bare fits rest
  obtain ⟨c, others, same, begins⟩ := renderLine_starts bare
  have unmarked : c ∉ ['[', '#', '\n', '\r'] := Text.notMem_marks begins (by decide)
  simp only [List.mem_cons, not_or] at unmarked
  rw [same, List.cons_append] at read ⊢
  simp [line?, afterNewline?, unmarked, read]

theorem line?_header {key : Text} (bare : IsBareKey key) (rest : Text) :
    line? ('[' :: key ++ ']' :: '\n' :: rest) = some (.header [] key false, rest) := by
  have read := header?_bare bare rest
  obtain ⟨c, others, same, begins⟩ := bare.starts
  have single : c ≠ '[' := Text.ne_mark begins (by decide)
  rw [same] at read ⊢
  simp only [List.cons_append] at read ⊢
  simp [line?, single, read]

/-- The lines of the text are these, with whatever fuel is enough for it. -/
def LinesRead (lines : List Line) (text : Text) : Prop :=
  ∀ fuel, text.length < fuel → lines? fuel text = some lines

namespace LinesRead

theorem nil : LinesRead [] [] := by
  intro fuel enough
  cases fuel with
  | zero => cases enough
  | succ fuel => rfl

theorem cons {c : Char} {line : Line} {lines : List Line} {text rest : Text}
    (visible : isTomlBlank c = false) (read : line? (c :: text) = some (line, rest))
    (shorter : rest.length ≤ text.length) (later : LinesRead lines rest) :
    LinesRead (line :: lines) (c :: text) := by
  intro fuel enough
  rw [List.length_cons] at enough
  cases fuel with
  | zero => cases enough
  | succ fuel =>
      have found := later fuel (by omega)
      rw [lines?, dropBlanks_cons visible]
      simp [read, found]

theorem renderLine {entry : Text × Scalar} {lines : List Line} {rest : Text}
    (bare : IsBareKey entry.1) (fits : entry.2.Fits) (later : LinesRead lines rest) :
    LinesRead (.assignment [entry.1] entry.2.node :: lines) (Toml.renderLine entry ++ rest) := by
  have read := line?_renderLine bare fits rest
  obtain ⟨c, others, same, begins⟩ := renderLine_starts bare
  rw [same, List.cons_append] at read ⊢
  apply LinesRead.cons (not_blank_of_isBareKeyChar begins) read _ later
  rw [List.length_append]
  omega

theorem header {key : Text} {lines : List Line} {rest : Text} (bare : IsBareKey key)
    (later : LinesRead lines rest) :
    LinesRead (.header [] key false :: lines) ('[' :: key ++ ']' :: '\n' :: rest) := by
  have read := line?_header bare rest
  rw [List.cons_append] at read ⊢
  apply LinesRead.cons (by decide) read _ later
  simp only [List.length_append, List.length_cons]
  omega

theorem render {entries : ScalarEntries} {lines : List Line} {rest : Text}
    (bare : ∀ entry ∈ entries, IsBareKey entry.1) (fits : ∀ entry ∈ entries, entry.2.Fits)
    (later : LinesRead lines rest) :
    LinesRead (entries.lines ++ lines) (entries.render ++ rest) := by
  induction entries with
  | nil => exact later
  | cons entry entries ih =>
      rw [List.forall_mem_cons] at bare fits
      have others := ih bare.2 fits.2
      have split : ScalarEntries.render (entry :: entries) ++ rest =
          Toml.renderLine entry ++ (ScalarEntries.render entries ++ rest) := by
        simp [ScalarEntries.render]
      rw [split]
      exact LinesRead.renderLine bare.1 fits.1 others

end LinesRead

/-! Entries -/

theorem sections_lines (entries : ScalarEntries) (lines : List Line) :
    sections (entries.lines ++ lines) =
      (entries.assignments ++ (sections lines).1, (sections lines).2) := by
  induction entries with
  | nil => rfl
  | cons entry entries ih =>
      rw [ScalarEntries.lines] at ih ⊢
      rw [List.map_cons, List.cons_append, sections, ih]
      rfl

theorem Entries.assign_new {entries : Entries} {key : Text} (value : Node)
    (new : key ∉ entries.map Prod.fst) :
    entries.assign value [key] = some (entries ++ [(key, value)]) := by
  rw [Entries.assign, lookup_of_notMem new]
  rfl

theorem Entries.assignAll_new {written : ScalarEntries} (entries : Entries)
    (distinct : (written.map Prod.fst).Nodup)
    (new : ∀ entry ∈ written, entry.1 ∉ entries.map Prod.fst) :
    Entries.assignAll written.assignments entries = some (entries ++ written.nodes) := by
  induction written generalizing entries with
  | nil => simp [Entries.assignAll, ScalarEntries.assignments, ScalarEntries.nodes]
  | cons entry written ih =>
      rw [List.map_cons, List.nodup_cons] at distinct
      rw [List.forall_mem_cons] at new
      have later := ih (entries ++ [(entry.1, entry.2.node)]) distinct.2 (by
        intro other member
        have apart : other.1 ≠ entry.1 := by
          intro same
          exact distinct.1 (same ▸ List.mem_map_of_mem member)
        simp [new.2 other member, apart])
      unfold Entries.assignAll ScalarEntries.assignments at later ⊢
      rw [List.map_cons, List.foldlM_cons, Entries.assign_new _ new.1]
      simpa [ScalarEntries.nodes] using later

theorem Section.addTo_new {table : Text × ScalarEntries} {entries : Entries}
    (writable : table.2.Writable) (new : table.1 ∉ entries.map Prod.fst) :
    Section.addTo ⟨[], table.1, false, table.2.assignments⟩ entries =
      some (entries ++ [(table.1, .table .explicit table.2.nodes)]) := by
  have inner := Entries.assignAll_new [] writable.distinct (by simp)
  have opened : Entries.openTable table.1 table.2.assignments entries =
      some (entries ++ [(table.1, .table .explicit table.2.nodes)]) := by
    rw [Entries.openTable, lookup_of_notMem new, inner]
    rfl
  exact opened

/-! Documents -/

namespace SimpleDocument

theorem render_starts {document : SimpleDocument} (writable : document.Writable) :
    StopsBefore (· == '\ufeff') document.render := by
  obtain ⟨entries, table⟩ := document
  cases entries with
  | nil =>
      cases table with
      | none => intro c starts; cases starts
      | some table => exact Text.stopsBefore_cons.mpr (by decide)
  | cons entry entries =>
      obtain ⟨c, others, same, begins⟩ := renderLine_starts (writable.entries.bare entry (by simp))
      have split : render ⟨entry :: entries, table⟩ =
          c :: (others ++ ScalarEntries.render entries ++ (table.map renderTable).getD []) := by
        simp [render, ScalarEntries.render, same]
      rw [split, Text.stopsBefore_cons, beq_eq_false_iff_ne]
      exact Text.ne_mark begins (by decide)

def lines (document : SimpleDocument) : List Line :=
  document.entries.lines ++
    (document.table.map (fun table => .header [] table.1 false :: table.2.lines)).getD []

def parts (document : SimpleDocument) : List Section :=
  (document.table.map (fun table => ⟨[], table.1, false, table.2.assignments⟩)).toList

theorem linesRead {document : SimpleDocument} (writable : document.Writable) :
    LinesRead document.lines document.render := by
  obtain ⟨entries, table⟩ := document
  apply LinesRead.render writable.entries.bare writable.entries.fits
  cases table with
  | none => exact LinesRead.nil
  | some table =>
      have inner := writable.tableEntries table rfl
      have read := LinesRead.render inner.bare inner.fits LinesRead.nil
      rw [List.append_nil, List.append_nil] at read
      have headed := LinesRead.header (writable.tableBare table rfl) read
      have split : renderTable table = '[' :: table.1 ++ ']' :: '\n' :: table.2.render := by
        simp [renderTable]
      rw [Option.map_some, Option.getD_some, Option.map_some, Option.getD_some, split]
      exact headed

theorem sections_lines (document : SimpleDocument) :
    sections document.lines = (document.entries.assignments, document.parts) := by
  obtain ⟨entries, table⟩ := document
  rw [lines, Toml.sections_lines]
  cases table with
  | none => simp [sections, parts]
  | some table =>
      have inner := Toml.sections_lines table.2 []
      rw [List.append_nil] at inner
      simp [sections, parts, inner]

theorem foldlM_parts {document : SimpleDocument} (writable : document.Writable) :
    document.parts.foldlM (fun entries part => part.addTo entries) document.entries.nodes =
      some document.nodes := by
  have names : document.entries.nodes.map Prod.fst = document.entries.map Prod.fst := by
    simp [ScalarEntries.nodes, Function.comp_def]
  obtain ⟨entries, table⟩ := document
  cases table with
  | none => simp [parts, nodes]
  | some table =>
      have new := writable.tableNew table rfl
      rw [← names] at new
      have added := Section.addTo_new (writable.tableEntries table rfl) new
      simp [parts, nodes, added]

theorem ofText?_render {document : SimpleDocument} (writable : document.Writable) :
    ofText? document.render = some document.nodes := by
  have unmarked := render_starts writable
  have read := linesRead writable (document.render.length + 1) (Nat.lt_succ_self _)
  have assigned := Entries.assignAll_new [] writable.entries.distinct (by simp)
  have added := foldlM_parts writable
  unfold ofText?
  dsimp only
  split
  · rename_i rest starts
    rw [starts, Text.stopsBefore_cons] at unmarked
    cases unmarked
  · rw [read]
    simp [sections_lines, assigned, added]

end SimpleDocument

end ConditionalText.Toml
