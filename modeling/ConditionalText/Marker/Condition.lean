import ConditionalText.Text.Basic

/-!
The condition of a block: which access channels may see its body.
-/

namespace ConditionalText

/-- A condition that is not one of the three known words is kept for messages and admits nobody. -/
inductive Condition where
  | any
  | web
  | service
  | unknown (token : Text)
  deriving Repr, DecidableEq

namespace Condition

def anyWord : Text := "any".toList
def webWord : Text := "web".toList
def serviceWord : Text := "ws".toList

def ofToken (token : Text) : Condition :=
  let word := token.lowerAscii
  if word = anyWord then .any
  else if word = webWord then .web
  else if word = serviceWord then .service
  else .unknown word

def admits (condition : Condition) (isService : Bool) : Bool :=
  match condition with
  | .any => true
  | .web => !isService
  | .service => isService
  | .unknown _ => false

def word : Condition → Text
  | .any => anyWord
  | .web => webWord
  | .service => serviceWord
  | .unknown token => token

theorem admits_eq_true_iff (condition : Condition) (isService : Bool) :
    condition.admits isService = true ↔
      condition = .any ∨ (condition = .web ∧ isService = false) ∨
        (condition = .service ∧ isService = true) := by
  cases condition <;> cases isService <;> simp [admits]

end Condition

end ConditionalText
