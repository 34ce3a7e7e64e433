import ConditionalText.Proofs.StatedMembers

/-!
Objects that are read member by member into a record. Of each known name there may be one member,
which must be readable; it is all that the record takes from the object, so neither the order of the
members counts nor anything that has another name.
-/

namespace ConditionalText.Json

open Value (memberNodes)

/-! The members of an object by their names -/

/-- The values that an object has under a name, in their order. -/
def valuesAt (name : Text) (members : List (Text × Value)) : List Value :=
  (members.filter (fun member => member.1 == name)).map Prod.snd

theorem valuesAt_cons_self (name : Text) (value : Value) (members : List (Text × Value)) :
    valuesAt name ((name, value) :: members) = value :: valuesAt name members := by
  simp [valuesAt]

theorem valuesAt_cons_of_ne {name other : Text} (unlike : other ≠ name) (value : Value)
    (members : List (Text × Value)) :
    valuesAt name ((other, value) :: members) = valuesAt name members := by
  simp [valuesAt, unlike]

theorem valuesAt_perm {members members' : List (Text × Value)} (same : members.Perm members')
    (name : Text) : (valuesAt name members).Perm (valuesAt name members') :=
  (same.filter _).map _

/-- What an object states under a name: nothing if there is no such member, and what the value means
if there is one. An object with several members of the name states neither. -/
def States {α : Type} (Means : Value → α → Prop) (name : Text) (members : List (Text × Value)) :
    Option α → Prop
  | none => valuesAt name members = []
  | some content => ∃ value, valuesAt name members = [value] ∧ Means value content

section States

variable {α : Type} {Means Means' : Value → α → Prop} {name : Text}
  {members members' : List (Text × Value)} {stated : Option α}

theorem States.imp (states : States Means name members stated)
    (means : ∀ value content, valuesAt name members = [value] → Means value content →
      Means' value content) : States Means' name members stated := by
  cases stated with
  | none => exact states
  | some content =>
      obtain ⟨value, single, meant⟩ := states
      exact ⟨value, single, means value content single meant⟩

theorem states_cons_self {value : Value} :
    States Means name ((name, value) :: members) stated ↔
      valuesAt name members = [] ∧ ∃ content, Means value content ∧ stated = some content := by
  cases stated with
  | none => simp [States, valuesAt_cons_self]
  | some content =>
      rw [States, valuesAt_cons_self]
      constructor
      · intro states
        obtain ⟨_, single, meant⟩ := states
        obtain ⟨rfl, alone⟩ := List.cons.inj single
        exact ⟨alone, content, meant, rfl⟩
      · intro states
        obtain ⟨alone, _, meant, same⟩ := states
        cases same
        exact ⟨value, by rw [alone], meant⟩

theorem states_cons_of_ne {other : Text} (unlike : other ≠ name) {value : Value} :
    States Means name ((other, value) :: members) stated ↔ States Means name members stated := by
  cases stated with
  | none => rw [States, States, valuesAt_cons_of_ne unlike]
  | some content => rw [States, States, valuesAt_cons_of_ne unlike]

theorem States.of_perm (same : members.Perm members') (states : States Means name members stated) :
    States Means name members' stated := by
  have values := valuesAt_perm same name
  cases stated with
  | none =>
      rw [States] at states ⊢
      rw [states] at values
      exact values.nil_eq.symm
  | some content =>
      obtain ⟨value, single, meant⟩ := states
      rw [single] at values
      exact ⟨value, values.singleton_eq.symm, meant⟩

end States

/-- The two objects differ in the order of their members, in members with unknown names, and in
values that `Same` relates under their name. -/
inductive SameMembers (known : List Text) (Same : Text → Value → Value → Prop) :
    List (Text × Value) → List (Text × Value) → Prop where
  | perm {members members' : List (Text × Value)} (same : members.Perm members') :
      SameMembers known Same members members'
  | unknown {name : Text} (unlisted : name ∉ known) (value : Value)
      (members : List (Text × Value)) : SameMembers known Same ((name, value) :: members) members
  | value {name : Text} {value value' : Value} (same : Same name value value')
      (members : List (Text × Value)) :
      SameMembers known Same ((name, value) :: members) ((name, value') :: members)
  | symm {members members' : List (Text × Value)} :
      SameMembers known Same members members' → SameMembers known Same members' members
  | trans {members members' members'' : List (Text × Value)} :
      SameMembers known Same members members' → SameMembers known Same members' members'' →
        SameMembers known Same members members''

theorem SameMembers.states_iff {known : List Text} {Same : Text → Value → Value → Prop} {α : Type}
    {Means : Value → α → Prop} {name : Text} {members members' : List (Text × Value)}
    (same : SameMembers known Same members members') (listed : name ∈ known)
    (meaning : ∀ value value' content, Same name value value' →
      (Means value content ↔ Means value' content)) (stated : Option α) :
    States Means name members stated ↔ States Means name members' stated := by
  induction same with
  | perm same => exact ⟨.of_perm same, .of_perm same.symm⟩
  | unknown unlisted value members =>
      have unlike := (ne_of_mem_of_not_mem listed unlisted).symm
      exact states_cons_of_ne unlike
  | @value other value value' same members =>
      by_cases here : other = name
      · subst here
        simp only [states_cons_self, meaning _ _ _ same]
      · rw [states_cons_of_ne here, states_cons_of_ne here]
  | symm _ ih => exact ih.symm
  | trans _ _ ih ih' => exact ih.trans ih'

/-! Reading a record -/

mutual

theorem Node.skip_node (value : Value) : Node.skip value.node = .ok () := by
  cases value with
  | null | bool | integer | string => rfl
  | array items =>
      rw [Value.node, Node.skip]
      exact Node.skip_itemNodes items
  | object members =>
      rw [Value.node, Node.skip]
      exact Node.skip_memberNodes members

theorem Node.skip_itemNodes (items : List Value) :
    Node.skipItems (Value.itemNodes items) = .ok () := by
  cases items with
  | nil => rfl
  | cons item others =>
      rw [Value.itemNodes, Node.skipItems, Node.skip_node item]
      exact Node.skip_itemNodes others

theorem Node.skip_memberNodes (members : List (Text × Value)) :
    Node.skipMembers (memberNodes members) = .ok () := by
  match members with
  | [] => rfl
  | (name, value) :: others =>
      rw [memberNodes, Node.skipMembers, Node.skip_node value]
      exact Node.skip_memberNodes others

end

/-- A field of a record, with the name of the member that fills it. -/
structure Slot (σ : Type) where
  content : Type
  name : Text
  read : Node → Except JsonFault content
  kept : σ → Option content

namespace Slot

variable {σ : Type} {field : σ → Text → Node → Option (Except JsonFault σ)}

/-- What is in the slot at last: what was there before if no member has its name, and otherwise what
the only such member says, the slot having been empty. -/
def Carries (slot : Slot σ) (state final : σ) (members : List (Text × Value)) : Prop :=
  match slot.kept state with
  | none =>
      States (fun value content => slot.read value.node = .ok content) slot.name members
        (slot.kept final)
  | some content => slot.kept final = some content ∧ valuesAt slot.name members = []

theorem carries_nil (slot : Slot σ) (state final : σ) :
    slot.Carries state final [] ↔ slot.kept state = slot.kept final := by
  unfold Carries
  cases slot.kept state with
  | none =>
      cases slot.kept final with
      | none => exact iff_of_true rfl rfl
      | some content => simp [States, valuesAt]
  | some content =>
      change slot.kept final = some content ∧ [] = [] ↔ some content = slot.kept final
      rw [eq_comm, and_iff_left rfl]

theorem carries_cons_of_ne (slot : Slot σ) {name : Text} (unlike : name ≠ slot.name)
    (state final : σ) (value : Value) (members : List (Text × Value)) :
    slot.Carries state final ((name, value) :: members) ↔ slot.Carries state final members := by
  unfold Carries
  cases slot.kept state with
  | none => exact states_cons_of_ne unlike
  | some content => rw [valuesAt_cons_of_ne unlike]

theorem Carries.takes {slot : Slot σ} {state final : σ} {value : Value}
    {members : List (Text × Value)}
    (carries : slot.Carries state final ((slot.name, value) :: members)) :
    slot.kept state = none ∧ ∃ content, slot.read value.node = .ok content := by
  unfold Carries at carries
  cases held : slot.kept state with
  | none =>
      rw [held] at carries
      obtain ⟨_, content, present, _⟩ := states_cons_self.mp carries
      exact ⟨rfl, content, present⟩
  | some content =>
      rw [held, valuesAt_cons_self] at carries
      exact absurd carries.2 (List.cons_ne_nil _ _)

/-- One member more: what the slot carries on from there is what it carries in all. -/
theorem carries_step {slot : Slot σ}
    (once : Members.TakesOnce field slot.name slot.read slot.kept) {state next : σ} (final : σ)
    {name : Text} {value : Value} (stepped : field state name value.node = some (.ok next))
    (members : List (Text × Value)) :
    slot.Carries next final members ↔ slot.Carries state final ((name, value) :: members) := by
  by_cases here : name = slot.name
  · subst here
    obtain ⟨empty, content, present, held⟩ := once.takes stepped
    unfold Carries
    rw [held, empty]
    constructor
    · intro carried
      exact states_cons_self.mpr ⟨carried.2, content, present, carried.1⟩
    · intro states
      obtain ⟨alone, content', present', filled⟩ := states_cons_self.mp states
      rw [present] at present'
      cases present'
      exact ⟨filled, alone⟩
  · rw [slot.carries_cons_of_ne here]
    unfold Carries
    rw [once.leaves stepped here]

end Slot

section Fold

variable {σ : Type} {field : σ → Text → Node → Option (Except JsonFault σ)} {slots : List (Slot σ)}

theorem Members.fold_cons_of_some {state : σ} {name : Text} {value : Node} {others : Members}
    {result : Except JsonFault σ} (known : field state name value = some result) :
    Members.fold field state (.cons (.ok name) value others) =
      result >>= fun next => Members.fold field next others := by
  rw [Members.fold]
  simp [bind, Except.bind, known]

theorem Members.fold_cons_of_none {state : σ} {name : Text} {value : Value} {others : Members}
    (unknown : field state name value.node = none) :
    Members.fold field state (.cons (.ok name) value.node others) =
      Members.fold field state others := by
  rw [Members.fold]
  simp [bind, Except.bind, unknown, Node.skip_node]

/-- A record is read from an object exactly if each of its slots carries what the object states under
the slot's name. -/
theorem Members.fold_eq_ok_iff
    (once : ∀ slot ∈ slots, TakesOnce field slot.name slot.read slot.kept)
    (unknown : ∀ state name value, (∀ slot ∈ slots, name ≠ slot.name) →
      field state name value = none)
    (whole : ∀ state final, (∀ slot ∈ slots, slot.kept state = slot.kept final) → state = final)
    (state final : σ) (members : List (Text × Value)) :
    Members.fold field state (memberNodes members) = .ok final ↔
      ∀ slot ∈ slots, slot.Carries state final members := by
  induction members generalizing state with
  | nil =>
      simp only [Slot.carries_nil]
      rw [memberNodes, Members.fold, Except.ok.injEq]
      constructor
      · intro same slot _
        rw [same]
      · exact whole state final
  | cons member members ih =>
      obtain ⟨name, value⟩ := member
      rw [memberNodes]
      cases step : field state name value.node with
      | none =>
          have unlike : ∀ slot ∈ slots, name ≠ slot.name := by
            intro slot listed same
            subst same
            exact (once slot listed).known state value.node step
          rw [fold_cons_of_none step, ih]
          exact forall₂_congr (fun slot listed =>
            (slot.carries_cons_of_ne (unlike slot listed) state final value members).symm)
      | some result =>
          rw [fold_cons_of_some step, bind_eq_ok_iff]
          simp only [ih]
          constructor
          · intro stepped
            obtain ⟨next, rfl, carried⟩ := stepped
            intro slot listed
            exact (Slot.carries_step (once slot listed) final step members).mp
              (carried slot listed)
          · intro carries
            have known : ∃ slot ∈ slots, name = slot.name := by
              by_contra unlisted
              have foreign := unknown state name value.node
                (fun slot listed same => unlisted ⟨slot, listed, same⟩)
              rw [foreign] at step
              cases step
            obtain ⟨slot, listed, rfl⟩ := known
            obtain ⟨empty, content, present⟩ := (carries slot listed).takes
            obtain ⟨next, taken⟩ := (once slot listed).gives empty present
            rw [step, Option.some.injEq] at taken
            subst taken
            exact ⟨next, rfl, fun other member =>
              (Slot.carries_step (once other member) final step members).mpr
                (carries other member)⟩

end Fold

end ConditionalText.Json
