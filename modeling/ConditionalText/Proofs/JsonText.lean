import ConditionalText.Json.Reader
import ConditionalText.Json.Value
import ConditionalText.Proofs.Decimals

/-!
The text of a JSON value reads back as the value. Each part of the text ends by itself, or before
what may follow a value, so whatever follows is left for the next reader.
-/

namespace ConditionalText.Json

open Text (StopsBefore)

/-! Strings -/

theorem hexDigit?_controlDigit (n : Nat) :
    Unicode.hexDigit? (Nat.digitChar (n % 16)) = some (n % 16) :=
  Unicode.hexDigit?_digitChar (Nat.mod_lt n (by decide))

/-- Four digits are enough for any character before the first that UTF-8 takes four bytes for. -/
theorem hexQuad?_controlDigits {c : Char} (short : c.toNat < 65536) :
    ∃ d₁ d₂ d₃ d₄, controlDigits c = [d₁, d₂, d₃, d₄] ∧ hexQuad? d₁ d₂ d₃ d₄ = some c.toNat := by
  refine ⟨_, _, _, _, rfl, ?_⟩
  simp only [hexQuad?, hexDigit?_controlDigit, Option.bind_eq_bind, Option.bind_some, Option.pure_def,
    Option.some.injEq]
  omega

def escapeLetters : List Char := ['"', '\\', 'b', 'f', 'n', 'r', 't']

theorem escapeChar_cases (c : Char) :
    (∃ letter ∈ escapeLetters, escapeChar c = ['\\', letter] ∧ unescape? letter = some c) ∨
    (c.toNat < 32 ∧ escapeChar c = ['\\', 'u'] ++ controlDigits c) ∨
    (escapeChar c = [c] ∧ c ≠ '"' ∧ c ≠ '\\' ∧ 32 ≤ c.toNat) := by
  by_cases quote : c = '"'
  · subst c
    exact Or.inl ⟨'"', by decide, rfl, by decide⟩
  by_cases backslash : c = '\\'
  · subst c
    exact Or.inl ⟨'\\', by decide, rfl, by decide⟩
  by_cases backspace : c = '\x08'
  · subst c
    exact Or.inl ⟨'b', by decide, rfl, by decide⟩
  by_cases formFeed : c = '\x0c'
  · subst c
    exact Or.inl ⟨'f', by decide, rfl, by decide⟩
  by_cases newline : c = '\n'
  · subst c
    exact Or.inl ⟨'n', by decide, rfl, by decide⟩
  by_cases carriageReturn : c = '\r'
  · subst c
    exact Or.inl ⟨'r', by decide, rfl, by decide⟩
  by_cases tab : c = '\t'
  · subst c
    exact Or.inl ⟨'t', by decide, rfl, by decide⟩
  have unnamed : escapeChar c =
      if c.toNat < 32 then ['\\', 'u'] ++ controlDigits c else [c] := by
    simp [escapeChar, quote, backslash, backspace, formFeed, newline, carriageReturn, tab]
  by_cases control : c.toNat < 32
  · rw [if_pos control] at unnamed
    exact Or.inr (Or.inl ⟨control, unnamed⟩)
  · rw [if_neg control] at unnamed
    exact Or.inr (Or.inr ⟨unnamed, quote, backslash, Nat.le_of_not_lt control⟩)

theorem skipString_escapeChar (c : Char) (rest : Text) :
    skipString (escapeChar c ++ rest) = skipString rest := by
  rcases escapeChar_cases c with ⟨letter, listed, written, known⟩ | ⟨control, written⟩ | plain
  · have named : letter ≠ 'u' := ne_of_mem_of_not_mem listed (by decide)
    rw [written]
    simp [skipString, named, known]
  · obtain ⟨d₁, d₂, d₃, d₄, digits, valued⟩ := hexQuad?_controlDigits (c := c) (by omega)
    rw [written, digits]
    simp [skipString, valued]
  · obtain ⟨written, unquoted, unescaped, visible⟩ := plain
    rw [written]
    simp [skipString, unescaped, visible]

theorem readString_escapeChar (c : Char) (rest : Text) :
    readString (escapeChar c ++ rest) = prepend c (readString rest) := by
  rcases escapeChar_cases c with ⟨letter, listed, written, known⟩ | ⟨control, written⟩ | plain
  · have named : letter ≠ 'u' := ne_of_mem_of_not_mem listed (by decide)
    rw [written]
    simp [readString, named, known]
  · obtain ⟨d₁, d₂, d₃, d₄, digits, valued⟩ := hexQuad?_controlDigits (c := c) (by omega)
    have low : isLowSurrogate c.toNat = false := by
      simp only [isLowSurrogate, Bool.and_eq_false_iff, decide_eq_false_iff_not]
      omega
    have high : isHighSurrogate c.toNat = false := by
      simp only [isHighSurrogate, Bool.and_eq_false_iff, decide_eq_false_iff_not]
      omega
    rw [written, digits]
    simp [readString, valued, low, high]
  · obtain ⟨written, unquoted, unescaped, visible⟩ := plain
    rw [written]
    simp [readString, unescaped, visible]

theorem skipString_written (content rest : Text) :
    skipString (content.flatMap escapeChar ++ '"' :: rest) = .ok rest := by
  induction content with
  | nil => simp [skipString]
  | cons c content ih =>
      rw [List.flatMap_cons, List.append_assoc, skipString_escapeChar, ih]

theorem readString_written (content rest : Text) :
    readString (content.flatMap escapeChar ++ '"' :: rest) = .ok (content, rest) := by
  induction content with
  | nil => simp [readString]
  | cons c content ih =>
      rw [List.flatMap_cons, List.append_assoc, readString_escapeChar, ih]
      rfl

theorem stringNode_written (content rest : Text) :
    stringNode (content.flatMap escapeChar ++ '"' :: rest) = (.string (.ok content), some rest) := by
  unfold stringNode
  rw [skipString_written, readString_written]
  rfl

/-! Numbers -/

def continuesNumber (c : Char) : Bool :=
  c.isDigit || c == '.' || c == 'e' || c == 'E'

def Number.ofInt : Int → Number
  | .ofNat n => ⟨false, Text.ofNat n, none, none⟩
  | .negSucc n => ⟨true, Text.ofNat (n + 1), none, none⟩

theorem digits_ofNat (n : Nat) {rest : Text} (stops : StopsBefore continuesNumber rest) :
    digits (Text.ofNat n ++ rest) = .ok (Text.ofNat n, rest) := by
  have stops' : StopsBefore Char.isDigit rest := by
    intro c starts
    have stopped := stops c starts
    simp only [continuesNumber, Bool.or_eq_false_iff] at stopped
    exact stopped.1.1.1
  unfold digits
  rw [Text.takeWhile_run Text.isDigit_of_mem_ofNat stops',
    Text.dropWhile_run Text.isDigit_of_mem_ofNat stops']
  obtain ⟨c, others, same⟩ := List.exists_cons_of_ne_nil (Text.ofNat_ne_nil n)
  rw [same]

theorem wholeDigits_ofNat (n : Nat) {rest : Text} (stops : StopsBefore continuesNumber rest) :
    wholeDigits (Text.ofNat n ++ rest) = .ok (Text.ofNat n, rest) := by
  have single : ¬ ((Text.ofNat n).length > 1 ∧ (Text.ofNat n).head? = some '0') := by
    rintro ⟨long, zero⟩
    obtain ⟨others, same⟩ := List.head?_eq_some_iff.mp zero
    rw [same, Text.eq_nil_of_ofNat_eq_zero_cons same] at long
    exact absurd long (by decide)
  unfold wholeDigits
  rw [digits_ofNat n stops]
  exact if_neg single

theorem numberNode_ofNat (negative : Bool) (n : Nat) {rest : Text}
    (stops : StopsBefore continuesNumber rest) :
    numberNode negative (Text.ofNat n ++ rest) =
      (.number ⟨negative, Text.ofNat n, none, none⟩, some rest) := by
  have unfractioned : fractionDigits rest = .ok (none, rest) := by
    cases rest with
    | nil => rfl
    | cons c rest =>
        have stopped := Text.stopsBefore_cons.mp stops
        simp only [continuesNumber, Bool.or_eq_false_iff, beq_eq_false_iff_ne] at stopped
        simp [fractionDigits, stopped]
  have unscaled : exponentDigits rest = .ok (none, rest) := by
    cases rest with
    | nil => rfl
    | cons c rest =>
        have stopped := Text.stopsBefore_cons.mp stops
        simp only [continuesNumber, Bool.or_eq_false_iff, beq_eq_false_iff_ne] at stopped
        simp [exponentDigits, stopped]
  unfold numberNode number
  rw [wholeDigits_ofNat n stops]
  simp [bind, Except.bind, unfractioned, unscaled, pure, Except.pure]

/-! Values -/

namespace Value

mutual

def node : Value → Node
  | .null => .null
  | .bool value => .bool value
  | .integer value => .number (.ofInt value)
  | .string value => .string (.ok value)
  | .array items => .array (itemNodes items)
  | .object members => .object (memberNodes members)

def itemNodes : List Value → Items
  | [] => .closed
  | item :: others => .cons (node item) (itemNodes others)

def memberNodes : List (Text × Value) → Members
  | [] => .closed
  | (name, value) :: others => .cons (.ok name) (node value) (memberNodes others)

end

def renderOtherItems : List Value → Text
  | [] => []
  | item :: others => ',' :: renderItems (item :: others)

def renderOtherMembers : List (Text × Value) → Text
  | [] => []
  | member :: others => ',' :: renderMembers (member :: others)

theorem renderItems_cons (item : Value) (others : List Value) :
    renderItems (item :: others) = item.render ++ renderOtherItems others := by
  cases others with
  | nil => simp [renderItems, renderOtherItems]
  | cons second others => simp [renderItems, renderOtherItems]

theorem renderMembers_cons (name : Text) (value : Value) (others : List (Text × Value)) :
    renderMembers ((name, value) :: others) =
      renderString name ++ ':' :: value.render ++ renderOtherMembers others := by
  cases others with
  | nil => simp [renderMembers, renderOtherMembers]
  | cons second others => simp [renderMembers, renderOtherMembers]

theorem not_blank_of_isDigit {c : Char} (digit : c.isDigit = true) : isJsonBlank c = false := by
  have visible : c ∉ [' ', '\n', '\t', '\r'] := Text.notMem_marks digit (by decide)
  simp only [List.mem_cons, not_or] at visible
  simp [isJsonBlank, visible]

theorem render_starts (value : Value) :
    ∃ c rest, value.render = c :: rest ∧ isJsonBlank c = false ∧ c ≠ ']' := by
  cases value with
  | null => exact ⟨'n', _, rfl, by decide, by decide⟩
  | bool value =>
      cases value with
      | true => exact ⟨'t', _, rfl, by decide, by decide⟩
      | false => exact ⟨'f', _, rfl, by decide, by decide⟩
  | integer value =>
      cases value with
      | ofNat n =>
          obtain ⟨c, rest, same, digit⟩ := Text.ofNat_starts n
          exact ⟨c, rest, same, not_blank_of_isDigit digit, Text.ne_mark digit (by decide)⟩
      | negSucc n => exact ⟨'-', _, rfl, by decide, by decide⟩
  | string value => exact ⟨'"', _, rfl, by decide, by decide⟩
  | array items => exact ⟨'[', _, rfl, by decide, by decide⟩
  | object members => exact ⟨'{', _, rfl, by decide, by decide⟩

end Value

theorem dropBlanks_cons {c : Char} (visible : isJsonBlank c = false) (rest : Text) :
    dropBlanks (c :: rest) = c :: rest :=
  List.dropWhile_cons_of_neg (by simp [visible])

theorem readNode_ofNat (fuel n : Nat) {rest : Text} (stops : StopsBefore continuesNumber rest) :
    readNode (fuel + 1) (Text.ofNat n ++ rest) =
      (.number ⟨false, Text.ofNat n, none, none⟩, some rest) := by
  have read := numberNode_ofNat false n stops
  obtain ⟨c, others, same, digit⟩ := Text.ofNat_starts n
  have unmarked : c ∉ ['n', 't', 'f', '"', '-', '[', '{'] := Text.notMem_marks digit (by decide)
  simp only [List.mem_cons, not_or] at unmarked
  rw [same, List.cons_append] at read ⊢
  rw [readNode, dropBlanks_cons (Value.not_blank_of_isDigit digit)]
  simp [unmarked, digit, read]

section Fuel

/-- With this fuel the text of every value that is not too long is read. -/
def NodesRead (fuel : Nat) : Prop :=
  ∀ (value : Value) (rest : Text), 2 * value.render.length ≤ fuel →
    StopsBefore continuesNumber rest →
    readNode fuel (value.render ++ rest) = (value.node, some rest)

def ItemsRead (fuel : Nat) : Prop :=
  ∀ (item : Value) (others : List Value) (rest : Text),
    2 * (Value.renderItems (item :: others)).length + 1 ≤ fuel →
    readItems fuel (Value.renderItems (item :: others) ++ ']' :: rest) =
      (Value.itemNodes (item :: others), some rest)

def MembersRead (fuel : Nat) : Prop :=
  ∀ (name : Text) (value : Value) (others : List (Text × Value)) (rest : Text),
    2 * (Value.renderMembers ((name, value) :: others)).length + 1 ≤ fuel →
    readMembers fuel (Value.renderMembers ((name, value) :: others) ++ '}' :: rest) =
      (Value.memberNodes ((name, value) :: others), some rest)

variable {fuel : Nat}

theorem nodesRead_succ (items : ItemsRead fuel) (members : MembersRead fuel) :
    NodesRead (fuel + 1) := by
  intro value rest enough stops
  cases value with
  | null => rfl
  | bool value =>
      cases value with
      | true => rfl
      | false => rfl
  | integer value =>
      cases value with
      | ofNat n => exact readNode_ofNat fuel n stops
      | negSucc n =>
          have read := numberNode_ofNat true (n + 1) stops
          exact read
  | string value =>
      have read := stringNode_written value rest
      have same : (Value.string value).render ++ rest =
          '"' :: (value.flatMap escapeChar ++ '"' :: rest) := by
        simp [Value.render, renderString]
      rw [same]
      exact read
  | array values =>
      cases values with
      | nil => rfl
      | cons item others =>
          have same : (Value.array (item :: others)).render ++ rest =
              '[' :: (Value.renderItems (item :: others) ++ ']' :: rest) := by
            simp [Value.render]
          have shorter : 2 * (Value.renderItems (item :: others)).length + 1 ≤ fuel := by
            simp only [Value.render, List.length_append, List.length_cons, List.length_nil] at enough
            omega
          have read := items item others rest shorter
          obtain ⟨c, more, begins, visible, unclosed⟩ := item.render_starts
          have dropped : dropBlanks (Value.renderItems (item :: others) ++ ']' :: rest) =
              c :: (more ++ (Value.renderOtherItems others ++ ']' :: rest)) := by
            rw [Value.renderItems_cons, begins, List.cons_append, List.cons_append,
              List.append_assoc, dropBlanks_cons visible]
          rw [same, readNode, dropBlanks_cons (by decide)]
          simp [dropped, unclosed, read, Value.node]
  | object values =>
      cases values with
      | nil => rfl
      | cons member others =>
          obtain ⟨name, value⟩ := member
          have same : (Value.object ((name, value) :: others)).render ++ rest =
              '{' :: (Value.renderMembers ((name, value) :: others) ++ '}' :: rest) := by
            simp [Value.render]
          have shorter : 2 * (Value.renderMembers ((name, value) :: others)).length + 1 ≤ fuel := by
            simp only [Value.render, List.length_append, List.length_cons, List.length_nil] at enough
            omega
          have read := members name value others rest shorter
          have dropped : ∃ more,
              dropBlanks (Value.renderMembers ((name, value) :: others) ++ '}' :: rest) =
                '"' :: more := by
            rw [Value.renderMembers_cons, renderString, List.cons_append]
            exact ⟨_, dropBlanks_cons (by decide) _⟩
          obtain ⟨more, dropped⟩ := dropped
          rw [same, readNode, dropBlanks_cons (by decide)]
          simp [dropped, read, Value.node]

theorem stopsBefore_renderOtherItems (others : List Value) (rest : Text) :
    StopsBefore continuesNumber (Value.renderOtherItems others ++ ']' :: rest) := by
  cases others with
  | nil => exact Text.stopsBefore_cons.mpr (by decide)
  | cons item others => exact Text.stopsBefore_cons.mpr (by decide)

theorem itemsRead_succ (nodes : NodesRead fuel) (items : ItemsRead fuel) :
    ItemsRead (fuel + 1) := by
  intro item others rest enough
  rw [Value.renderItems_cons, List.length_append] at enough
  have read := nodes item (Value.renderOtherItems others ++ ']' :: rest) (by omega)
    (stopsBefore_renderOtherItems others rest)
  rw [Value.renderItems_cons, List.append_assoc, readItems, read]
  cases others with
  | nil =>
      have dropped : dropBlanks (Value.renderOtherItems [] ++ ']' :: rest) = ']' :: rest :=
        dropBlanks_cons (by decide) rest
      simp [dropped, Value.itemNodes]
  | cons second others =>
      rw [Value.renderOtherItems, List.length_cons] at enough
      have later := items second others rest (by omega)
      have dropped : dropBlanks (Value.renderOtherItems (second :: others) ++ ']' :: rest) =
          ',' :: (Value.renderItems (second :: others) ++ ']' :: rest) :=
        dropBlanks_cons (by decide) _
      simp [dropped, later, Value.itemNodes]

theorem stopsBefore_renderOtherMembers (others : List (Text × Value)) (rest : Text) :
    StopsBefore continuesNumber (Value.renderOtherMembers others ++ '}' :: rest) := by
  cases others with
  | nil => exact Text.stopsBefore_cons.mpr (by decide)
  | cons member others => exact Text.stopsBefore_cons.mpr (by decide)

theorem membersRead_succ (nodes : NodesRead fuel) (members : MembersRead fuel) :
    MembersRead (fuel + 1) := by
  intro name value others rest enough
  rw [Value.renderMembers_cons] at enough
  simp only [List.length_append, List.length_cons] at enough
  have read := nodes value (Value.renderOtherMembers others ++ '}' :: rest) (by omega)
    (stopsBefore_renderOtherMembers others rest)
  have same : Value.renderMembers ((name, value) :: others) ++ '}' :: rest =
      '"' :: (name.flatMap escapeChar ++
        '"' :: ':' :: (value.render ++ (Value.renderOtherMembers others ++ '}' :: rest))) := by
    rw [Value.renderMembers_cons, renderString]
    simp
  have named := stringNode_written name
    (':' :: (value.render ++ (Value.renderOtherMembers others ++ '}' :: rest)))
  have marked : dropBlanks
      (':' :: (value.render ++ (Value.renderOtherMembers others ++ '}' :: rest))) =
        ':' :: (value.render ++ (Value.renderOtherMembers others ++ '}' :: rest)) :=
    dropBlanks_cons (by decide) _
  rw [same, readMembers, dropBlanks_cons (by decide)]
  simp only [named, marked, read]
  cases others with
  | nil =>
      have dropped : dropBlanks (Value.renderOtherMembers [] ++ '}' :: rest) = '}' :: rest :=
        dropBlanks_cons (by decide) rest
      simp [dropped, Value.memberNodes]
  | cons second others =>
      obtain ⟨nextName, nextValue⟩ := second
      rw [Value.renderOtherMembers, List.length_cons] at enough
      have later := members nextName nextValue others rest (by omega)
      have dropped :
          dropBlanks (Value.renderOtherMembers ((nextName, nextValue) :: others) ++ '}' :: rest) =
            ',' :: (Value.renderMembers ((nextName, nextValue) :: others) ++ '}' :: rest) :=
        dropBlanks_cons (by decide) _
      simp [dropped, later, Value.memberNodes]

theorem read_render (fuel : Nat) : NodesRead fuel ∧ ItemsRead fuel ∧ MembersRead fuel := by
  -- The three readers call each other, each time with one less fuel.
  induction fuel with
  | zero =>
      refine ⟨?_, ?_, ?_⟩
      · intro value rest enough _
        obtain ⟨c, more, begins, _⟩ := value.render_starts
        rw [begins, List.length_cons] at enough
        omega
      · intro item others rest enough
        omega
      · intro name value others rest enough
        omega
  | succ fuel ih =>
      obtain ⟨nodes, items, members⟩ := ih
      exact ⟨nodesRead_succ items members, itemsRead_succ nodes items,
        membersRead_succ nodes members⟩

end Fuel

theorem Document.ofText_render (value : Value) :
    Document.ofText value.render = ⟨value.node, true⟩ := by
  have found := (read_render (2 * value.render.length + 2)).1 value []
    (Nat.le_add_right _ _) (by intro c starts; cases starts)
  rw [List.append_nil] at found
  rw [Document.ofText, found]
  rfl

/-- Reading a value from its text is reading the value. -/
theorem Document.decode_render {α : Type} (read : Node → Except JsonFault α) (value : Value) :
    Document.decode read value.render = read value.node := by
  rw [Document.decode, Document.ofText_render]
  cases read value.node with
  | ok result => rfl
  | error fault => rfl

end ConditionalText.Json
