import ConditionalText.Text.Basic

/-!
The two markers around a block. An opening marker is a brace, the keyword, blanks, a token, an
optional `ua` attribute and a closing brace; a closing marker is a brace, the keyword and a closing
brace, with blanks allowed inside. Keywords are blind to ASCII case and to no other case.

A token is a longest run of letters and digits, with one exception: the attribute may touch the
token, and then the last two letters of the run are the attribute's name.
-/

namespace ConditionalText

structure Opening where
  token : Text
  agentPattern : Option Text
  deriving Repr, DecidableEq

namespace Marker

def keyword : Text := "fws".toList

def openingPrefix : Text := '{' :: keyword

def attributeName : Text := "ua".toList

/-- The rest of the text after `word`, which must be in lower case; ASCII case is ignored. -/
def afterWord? : (word text : Text) → Option Text
  | [], text => some text
  | _ :: _, [] => none
  | w :: word, c :: text => if c.toLower = w then afterWord? word text else none

theorem afterWord?_length {word text rest : Text} (found : afterWord? word text = some rest) :
    rest.length + word.length = text.length := by
  induction word generalizing text with
  | nil => simp_all [afterWord?]
  | cons w word ih =>
      cases text with
      | nil => simp [afterWord?] at found
      | cons c text =>
          simp only [afterWord?] at found
          split at found
          · have shorter := ih found
            simp only [List.length_cons]
            omega
          · simp at found

def afterBrace? (text : Text) : Option Text :=
  match text.dropWhile isBlank with
  | '}' :: rest => some rest
  | _ => none

theorem afterBrace?_length {text rest : Text} (found : afterBrace? text = some rest) :
    rest.length < text.length := by
  have shorter := (List.dropWhile_suffix isBlank (l := text)).length_le
  unfold afterBrace? at found
  split at found
  · rename_i after same
    simp only [Option.some.injEq] at found
    subst found
    rw [same, List.length_cons] at shorter
    omega
  · simp at found

def attributeValue? (text : Text) : Option (Text × Text) :=
  match text with
  | '=' :: '"' :: quoted =>
      match quoted.takeWhile (· != '"'), quoted.dropWhile (· != '"') with
      | c :: value, '"' :: rest => some (c :: value, rest)
      | _, _ => none
  | _ => none

theorem attributeValue?_length {text value rest : Text}
    (found : attributeValue? text = some (value, rest)) : rest.length < text.length := by
  unfold attributeValue? at found
  split at found
  · rename_i quoted
    have shorter := (List.dropWhile_suffix (· != '"') (l := quoted)).length_le
    split at found
    · rename_i same
      simp only [Option.some.injEq, Prod.mk.injEq] at found
      obtain ⟨_, rfl⟩ := found
      rw [same, List.length_cons] at shorter
      simp only [List.length_cons]
      omega
    · simp at found
  · simp at found

/-- An attribute with its name: `ua="…"`. -/
def attribute? (text : Text) : Option (Text × Text) :=
  (afterWord? attributeName text).bind attributeValue?

theorem attribute?_length {text value rest : Text}
    (found : attribute? text = some (value, rest)) : rest.length < text.length := by
  unfold attribute? at found
  obtain ⟨middle, named, valued⟩ := Option.bind_eq_some_iff.mp found
  have first := afterWord?_length named
  have second := attributeValue?_length valued
  omega

/-- The token without the attribute name that touches it; something must be left. -/
def beforeAttributeName? (run : Text) : Option Text :=
  match run.reverse with
  | a :: u :: c :: token =>
      if a.toLower = 'a' ∧ u.toLower = 'u' then some (c :: token).reverse else none
  | _ => none

/-- The end of an opening marker, from its longest run of letters and digits on. -/
def attributed? (run afterRun : Text) : Option (Opening × Text) :=
  match attribute? (afterRun.dropWhile isBlank) with
  | some (value, afterValue) =>
      (afterBrace? afterValue).map (fun rest => (⟨run, some value⟩, rest))
  | none =>
      match attributeValue? afterRun with
      | some (value, afterValue) => do
          let token ← beforeAttributeName? run
          let rest ← afterBrace? afterValue
          pure (⟨token, some value⟩, rest)
      | none => (afterBrace? afterRun).map (fun rest => (⟨run, none⟩, rest))

theorem attributed?_length {run afterRun rest : Text} {opening : Opening}
    (found : attributed? run afterRun = some (opening, rest)) : rest.length < afterRun.length := by
  have blanksDropped := (List.dropWhile_suffix isBlank (l := afterRun)).length_le
  unfold attributed? at found
  split at found
  · rename_i attributed
    obtain ⟨after, braced, same⟩ := Option.map_eq_some_iff.mp found
    cases same
    have first := attribute?_length attributed
    have second := afterBrace?_length braced
    omega
  · split at found
    · rename_i valued
      simp only [Option.bind_eq_bind, Option.bind_eq_some_iff, Option.pure_def,
        Option.some.injEq, Prod.mk.injEq] at found
      obtain ⟨_, _, after, braced, _, rfl⟩ := found
      have first := attributeValue?_length valued
      have second := afterBrace?_length braced
      omega
    · obtain ⟨after, braced, same⟩ := Option.map_eq_some_iff.mp found
      cases same
      exact afterBrace?_length braced

def opening? (text : Text) : Option (Opening × Text) := do
  let spaced ← afterWord? openingPrefix text
  guard ((spaced.head?.map isBlank).getD false)
  let body := spaced.dropWhile isBlank
  let run := body.takeWhile isAsciiAlphanumeric
  guard (!run.isEmpty)
  attributed? run (body.dropWhile isAsciiAlphanumeric)

def afterClosing? (text : Text) : Option Text :=
  match text with
  | '{' :: inner => (afterWord? keyword (inner.dropWhile isBlank)).bind afterBrace?
  | _ => none

/-- The text up to the nearest closing marker, and what follows that marker. -/
def untilClosing? : Text → Option (Text × Text)
  | [] => none
  | c :: rest =>
      match afterClosing? (c :: rest) with
      | some after => some ([], after)
      | none => (untilClosing? rest).map (fun found => (c :: found.1, found.2))

theorem opening?_length {text rest : Text} {opening : Opening}
    (found : opening? text = some (opening, rest)) : rest.length < text.length := by
  unfold opening? at found
  obtain ⟨spaced, keyworded, found⟩ := Option.bind_eq_some_iff.mp found
  obtain ⟨_, _, found⟩ := Option.bind_eq_some_iff.mp found
  obtain ⟨_, _, found⟩ := Option.bind_eq_some_iff.mp found
  have first := afterWord?_length keyworded
  have second := (List.dropWhile_suffix isBlank (l := spaced)).length_le
  have third := (List.dropWhile_suffix isAsciiAlphanumeric
    (l := spaced.dropWhile isBlank)).length_le
  have fourth := attributed?_length found
  omega

theorem afterClosing?_length {text rest : Text} (found : afterClosing? text = some rest) :
    rest.length < text.length := by
  unfold afterClosing? at found
  split at found
  · rename_i inner
    obtain ⟨middle, keyworded, braced⟩ := Option.bind_eq_some_iff.mp found
    have first := afterWord?_length keyworded
    have second := afterBrace?_length braced
    have third := (List.dropWhile_suffix isBlank (l := inner)).length_le
    simp only [List.length_cons]
    omega
  · simp at found

theorem untilClosing?_length {text body rest : Text}
    (found : untilClosing? text = some (body, rest)) : rest.length < text.length := by
  induction text generalizing body with
  | nil => simp [untilClosing?] at found
  | cons c tail ih =>
      simp only [untilClosing?] at found
      split at found
      · rename_i closed
        simp only [Option.some.injEq, Prod.mk.injEq] at found
        obtain ⟨_, rfl⟩ := found
        exact afterClosing?_length closed
      · obtain ⟨⟨body', rest'⟩, later, same⟩ := Option.map_eq_some_iff.mp found
        simp only [Prod.mk.injEq] at same
        obtain ⟨_, rfl⟩ := same
        have shorter := ih later
        simp only [List.length_cons]
        omega

/-- The quick test for an opening marker: does its fixed beginning stand anywhere in the text? -/
def mayContain : Text → Bool
  | [] => false
  | c :: rest => (afterWord? openingPrefix (c :: rest)).isSome || mayContain rest

end Marker

end ConditionalText
