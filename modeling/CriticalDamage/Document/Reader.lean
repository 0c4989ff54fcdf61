import CriticalDamage.Document.Token

/-!
# Reading documents

A document is read from its tokens by a machine that keeps the lists and records it has opened on a
stack. Nothing may follow the document. Fields keep the order and the repetitions of the text.
-/

namespace CriticalDamage.Document

/-- A list or record that is still open; its parts come last first. A record remembers the name
whose value is being read. A name without a value makes the record one without a value. -/
inductive Frame where
  | list (items : List Document)
  | record (fields : List (String × Document)) (named : Bool) (name : String)

/-- What may come next. -/
inductive Expectation where
  | value
  /-- A value, or the end of the list just opened. -/
  | itemOrEnd
  | name
  /-- A name, or the end of the record just opened. -/
  | nameOrEnd
  | colon
  /-- A comma, or the end of the innermost list or record. -/
  | separator
deriving DecidableEq

/-- The deepest nesting that still has a value. -/
def maxDepth : Nat := 127

/-- The value of a list or record that was opened inside `depth` others. -/
def atDepth (depth : Nat) (d : Document) : Document :=
  if depth < maxDepth then d else .valueless

/-- The document a frame becomes when it is closed. -/
def Frame.close (depth : Nat) : Frame → Document
  | .list items => atDepth depth (.list items.reverse)
  | .record fields named _ =>
    if named then atDepth depth (.record fields.reverse) else .valueless

/-- Puts a finished value into the innermost frame; with none open it is the whole document. -/
def Frame.put (d : Document) : List Frame → List Frame ⊕ Document
  | [] => .inr d
  | .list items :: stack => .inl (.list (d :: items) :: stack)
  | .record fields named name :: stack => .inl (.record ((name, d) :: fields) named name :: stack)

/-- Reads the rest of the tokens, with the given frames open. -/
def run (stack : List Frame) (expected : Expectation) : List Token → Option Document
  | [] => none
  | t :: ts =>
    match expected, t, stack with
    | .value, .openList, stack | .itemOrEnd, .openList, stack =>
      run (.list [] :: stack) .itemOrEnd ts
    | .value, .openRecord, stack | .itemOrEnd, .openRecord, stack =>
      run (.record [] true "" :: stack) .nameOrEnd ts
    | .value, .scalar d, stack | .itemOrEnd, .scalar d, stack => finish d stack ts
    | .name, .scalar (.text s), .record fields named _ :: stack
    | .nameOrEnd, .scalar (.text s), .record fields named _ :: stack =>
      run (.record fields named s :: stack) .colon ts
    | .name, .scalar .valueless, .record fields _ _ :: stack
    | .nameOrEnd, .scalar .valueless, .record fields _ _ :: stack =>
      run (.record fields false "" :: stack) .colon ts
    | .colon, .colon, stack => run stack .value ts
    | .separator, .comma, .list items :: stack => run (.list items :: stack) .value ts
    | .separator, .comma, .record fields named name :: stack =>
      run (.record fields named name :: stack) .name ts
    | .itemOrEnd, .closeList, .list items :: stack
    | .separator, .closeList, .list items :: stack =>
      finish ((Frame.list items).close stack.length) stack ts
    | .nameOrEnd, .closeRecord, .record fields named name :: stack
    | .separator, .closeRecord, .record fields named name :: stack =>
      finish ((Frame.record fields named name).close stack.length) stack ts
    | _, _, _ => none
where
  /-- Goes on after a finished value. -/
  finish (d : Document) (stack : List Frame) (ts : List Token) : Option Document :=
    match Frame.put d stack with
    | .inl stack => run stack .separator ts
    | .inr d => if ts.isEmpty then some d else none

/-- Reads a written document, or nothing if the text is malformed. -/
def read? (s : String) : Option Document := do
  let ts ← Token.read? s
  run [] .value ts

end CriticalDamage.Document
