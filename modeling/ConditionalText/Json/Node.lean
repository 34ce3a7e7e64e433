import ConditionalText.Failure
import ConditionalText.Json.Number

/-!
JSON texts as trees, as far as they can be read. A text that breaks off or goes wrong still has a
tree, which tells at the place in question what is wrong there. So a reader of settings can find out
which comes first: a fault of the text, or a value that it has no use for.

Some faults only show to a reader who needs the value in question. Such places carry one fault for a
reader and one for somebody who skips the value.
-/

namespace ConditionalText.Json

mutual

/-- A value, or what stands in its place. -/
inductive Node where
  | null
  | bool (value : Bool)
  | number (number : Number)
  /-- The content may still be unreadable: halves of surrogate pairs stand for no character. -/
  | string (content : Except JsonFault Text)
  | array (items : Items)
  | object (members : Members)
  | missing
  | brokenString (read skipped : JsonFault)
  | brokenScalar (read skipped : JsonFault)

inductive Items where
  | closed
  | fault (fault : JsonFault)
  | cons (item : Node) (others : Items)

inductive Members where
  | closed
  | fault (fault : JsonFault)
  | strayName (read skipped : JsonFault)
  | cons (name : Except JsonFault Text) (value : Node) (others : Members)

end

namespace Node

mutual

def skip : Node → Except JsonFault Unit
  | .null | .bool _ | .number _ | .string _ => .ok ()
  | .array items => skipItems items
  | .object members => skipMembers members
  | .missing => .error .ended
  | .brokenString _ skipped => .error skipped
  | .brokenScalar _ skipped => .error skipped

def skipItems : Items → Except JsonFault Unit
  | .closed => .ok ()
  | .fault cause => .error cause
  | .cons item others => do
      skip item
      skipItems others

def skipMembers : Members → Except JsonFault Unit
  | .closed => .ok ()
  | .fault cause => .error cause
  | .strayName _ skipped => .error skipped
  | .cons _ value others => do
      skip value
      skipMembers others

end

/-- What is wrong with a value of another kind than the one that is wanted. -/
def mismatch : Node → JsonFault
  | .missing => .ended
  | .brokenString read _ => read
  | .brokenScalar read _ => read
  | .string (.error cause) => cause
  | .number written => if written.overflows then .form else .content
  | _ => .content

def readText : Node → Except JsonFault Text
  | .string content => content
  | node => .error node.mismatch

def readBool : Node → Except JsonFault Bool
  | .bool value => .ok value
  | node => .error node.mismatch

def readUnsigned : Node → Except JsonFault UInt64
  | .number written =>
      match written.unsigned? with
      | some value => .ok value
      | none => .error (mismatch (.number written))
  | node => .error node.mismatch

def readUnit : Node → Except JsonFault Unit
  | .null => .ok ()
  | node => .error node.mismatch

def readOptional {α : Type} (read : Node → Except JsonFault α) : Node → Except JsonFault (Option α)
  | .null => .ok none
  | node => (read node).map some

end Node

namespace Items

def take {α : Type} (read : Node → Except JsonFault α) (default : Except JsonFault α)
    (items : Items) : Except JsonFault (α × Items) :=
  match items with
  | .closed => default.map (·, .closed)
  | .fault cause => .error cause
  | .cons item others => (read item).map (·, others)

def finish : Items → Except JsonFault Unit
  | .closed => .ok ()
  | .fault cause => .error cause
  | .cons _ _ => .error .form

end Items

namespace Members

/-- Reads the members from left to right. A name that `field` does not know passes with its value. -/
def fold {σ : Type} (field : σ → Text → Node → Option (Except JsonFault σ)) :
    σ → Members → Except JsonFault σ
  | state, .closed => .ok state
  | _, .fault cause => .error cause
  | _, .strayName read _ => .error read
  | state, .cons name value others => do
      let name ← name
      match field state name value with
      | some next => fold field (← next) others
      | none => do
          value.skip
          fold field state others

def finish : Members → Except JsonFault Unit
  | .closed => .ok ()
  | .fault cause => .error cause
  | .strayName _ _ | .cons _ _ _ => .error .form

end Members

def Node.alternative {α : Type} (alone : Text → Except JsonFault α)
    (withValue : Text → Node → Except JsonFault α) : Node → Except JsonFault α
  | .string content => do alone (← content)
  | .object members =>
      match members with
      | .closed => .error .form
      | .fault cause => .error cause
      | .strayName read _ => .error read
      | .cons name value others => do
          let result ← withValue (← name) value
          others.finish
          pure result
  | .missing => .error .ended
  | .brokenString read _ => .error read
  | _ => .error .form

end ConditionalText.Json
