import ConditionalText.Text.Lower

/-!
What the case tables say about ASCII: its characters stay in ASCII when they are lower-cased, and its
letters have a case of their own, so they tell a capital sigma beside them where a word goes on. The
tables are looked at as lists of characters, which is how they can be read fast.
-/

namespace ConditionalText

namespace Unicode

theorem tableOf_eq {tables : List NamedRanges} {name : String} {named : NamedRanges}
    {chars : List Char} (found : tables.find? (fun named => named.names.contains name) = some named)
    (written : named.ranges.toList = chars) :
    tableOf tables name = (words chars).map CodeRange.ofWord := by
  rw [tableOf, found, Option.map_some, Option.getD_some, NamedRanges.table, RangeTable.ofText,
    written]

theorem CaseMap.ofText_eq {text : String} {chars : List Char} (written : text.toList = chars) :
    CaseMap.ofText text = (words chars).map CaseRun.ofWord := by
  rw [ofText, written]

def CaseRun.keepsAscii (run : CaseRun) : Bool :=
  128 ≤ run.first || run.target + (run.last - run.first) < 128

set_option maxRecDepth 100000 in
theorem lowercase_keepsAscii : lowercase.all CaseRun.keepsAscii = true :=
  (congrArg (fun map => List.all map CaseRun.keepsAscii)
    (CaseMap.ofText_eq String.toList_ofList)).trans (by decide +kernel)

theorem CaseRun.image?_lt {run : CaseRun} {code image : Nat} (keeps : run.keepsAscii = true)
    (ascii : code < 128) (moved : run.image? code = some image) : image < 128 := by
  rw [image?] at moved
  split at moved
  · rename_i covered
    cases moved
    simp only [covers, Bool.and_eq_true, decide_eq_true_eq] at covered
    simp only [keepsAscii, Bool.or_eq_true, decide_eq_true_eq] at keeps
    omega
  · cases moved

theorem lowercase_apply_lt {c : Char} (ascii : c.toNat < 128) : (lowercase.apply c).toNat < 128 := by
  rw [CaseMap.apply]
  split
  · rename_i code found
    obtain ⟨run, member, moved⟩ := List.exists_of_findSome?_eq_some found
    have keeps := List.all_eq_true.mp lowercase_keepsAscii run member
    have small := CaseRun.image?_lt keeps ascii moved
    have valid : code.isValidChar := Or.inl (by omega)
    rw [Char.ofNat, dif_pos valid]
    exact small
  · exact ascii

set_option maxRecDepth 100000 in
theorem lowercase_apply_A : lowercase.apply 'A' = 'a' :=
  (congrArg (fun map => CaseMap.apply map 'A')
    (CaseMap.ofText_eq String.toList_ofList)).trans (by decide +kernel)

set_option maxRecDepth 100000 in
theorem isCased_A : isCased 'A' = true :=
  (congrArg (fun table => casedRevision.contains table 'A')
    (tableOf_eq (by rfl) String.toList_ofList)).trans (by decide +kernel)

set_option maxRecDepth 100000 in
theorem isCaseIgnorable_A : isCaseIgnorable 'A' = false :=
  (congrArg (fun table => caseIgnorableRevision.contains table 'A')
    (tableOf_eq (by rfl) String.toList_ofList)).trans (by decide +kernel)

end Unicode

end ConditionalText
