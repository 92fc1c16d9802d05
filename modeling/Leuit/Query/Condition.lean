import Leuit.Query.Keyword
import Leuit.Value.Comparison

/-! Conditions, and the chains a query makes of them. A link joins a condition to the next one; a chain
is evaluated from left to right without precedence, and a condition without link ends it. -/
namespace Leuit

inductive Connective where
  | and
  | or
deriving DecidableEq, Repr

def Connective.apply : Connective → Bool → Bool → Bool
  | and, a, b => a && b
  | or, a, b => a || b

structure Condition where
  field : String
  operator : Operator
  literal : String
  link : Option Connective
deriving DecidableEq, Repr

namespace Condition

/-! ### Reading -/

/-- The connective a chain continues with, if its next word is one. -/
def linkOf? : List String → Option Connective
  | [] => none
  | word :: _ =>
    match Keyword.ofWord? word with
    | some .and => some .and
    | some .or => some .or
    | _ => none

/-- Reads `field operator literal` with connectives between such conditions. Up to two words that are
left at the end are passed over. -/
def listOfWords : List String → Except QueryError (List Condition)
  | field :: symbol :: literal :: rest =>
    match Operator.ofText symbol with
    | .error e => .error e
    | .ok operator =>
      let link := linkOf? rest
      (listOfWords (if link.isSome then rest.drop 1 else rest)).map
        (⟨field, operator, Text.stripQuotes literal, link⟩ :: ·)
  | _ => .ok []
termination_by words => words.length
decreasing_by split <;> simp only [List.length_cons, List.length_drop] <;> omega

/-! ### Evaluating -/

/-- Continues a chain whose conditions so far have the given result and end with the given link. -/
def continueChain (check : Condition → Bool) (result : Bool) :
    Option Connective → List Condition → Bool
  | none, _ | _, [] => result
  | some connective, c :: rest =>
    continueChain check (connective.apply result (check c)) c.link rest

/-- The result of a chain; an empty one holds. -/
def holdsAll (check : Condition → Bool) : List Condition → Bool
  | [] => true
  | c :: rest => continueChain check (check c) c.link rest

/-- The conditions that decide a chain: up to the first one without link. -/
def decisive : List Condition → List Condition
  | [] => []
  | c :: rest => c :: if c.link.isSome then decisive rest else []

end Condition

end Leuit
